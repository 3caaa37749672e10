import CurlRequest.Proofs.File.Writing

/-!
# Trees that differ in what files hold

Two trees can have the same directories and the same files, and yet the files can hold different
octets.  Actions that read no file cannot tell such trees apart: they give the same result, and they
set the same entries in both trees.  Emptying a file is such an action, and so is everything that is
written to a file after it was emptied.

**Results.**
* `FileTree.locate_eq`: paths lead to the same places.
* `FileTree.Alike.set`: the same entry is set in both trees.
* `FileAction.blind_makeDirectories`, `FileAction.blind_writeText`: making directories and writing
  texts tell no such trees apart.
-/

namespace CurlRequest

namespace FileTree

/-- Trees with the same directories and files, the modes of the files included. -/
structure SameShape (t t' : FileTree) : Prop where
  workingDirectory : t.workingDirectory = t'.workingDirectory
  umask : t.umask = t'.umask
  entries : ∀ l, t.found? l = t'.found? l ∨ ∃ mode content content',
    t.found? l = some (.file ⟨mode, content⟩) ∧ t'.found? l = some (.file ⟨mode, content'⟩)

/-- The tree with entries set, one after the other. -/
def setAll (t : FileTree) (changes : List (Location × Entry)) : FileTree :=
  changes.foldl (fun t change => t.set change.1 change.2) t

/-- The trees that two runs have reached from two others: they have the same shape, and the two runs
have set the same entries. -/
structure Alike (start start' t t' : FileTree) : Prop where
  shape : SameShape t t'
  changes : ∃ changes, t = start.setAll changes ∧ t' = start'.setAll changes

/-- At the start nothing is changed. -/
theorem SameShape.alike
    {t t' : FileTree}
    (h : SameShape t t') :
    Alike t t' t t' where
  shape := h
  changes := ⟨[], rfl, rfl⟩

/-- Trees in which there is one file at a place, and the directories above it. -/
theorem sameShape_ofTexts
    (path text text' : Text) :
    SameShape (ofTexts [(path, text)]) (ofTexts [(path, text')]) where
  workingDirectory := rfl
  umask := rfl
  entries := by
    intro l
    unfold found? ofTexts
    split
    · exact Or.inl rfl
    · simp only [List.flatMap_cons, List.flatMap_nil, List.append_nil, List.lookup_append]
      cases List.lookup l (((List.range (Path.ofText path).names.length).drop 1).map fun i =>
          ((Path.ofText path).names.take i, Entry.directory)) with
      | some e =>
          exact Or.inl rfl
      | none =>
          rw [List.lookup_cons, List.lookup_cons]
          cases l == (Path.ofText path).names with
          | true =>
              exact Or.inr ⟨_, _, _, rfl, rfl⟩
          | false =>
              exact Or.inl rfl

section Walk

variable {t t' : FileTree}

/-- Names lead to the same places. -/
theorem walk_eq
    (h : SameShape t t')
    (here : Location)
    (names : List Text) :
    t.walk here names = t'.walk here names := by
  induction names generalizing here with
  | nil =>
      rfl
  | cons name rest ih =>
      rw [walk, walk]
      rcases h.entries here with heq | ⟨mode, content, content', hfile, hfile'⟩
      · rw [heq]
        cases t'.found? here with
        | none =>
            rfl
        | some e =>
            cases e with
            | file f =>
                rfl
            | directory =>
                simp only [ih]
      · rw [hfile, hfile']

/-- Paths lead to the same places. -/
theorem locate_eq
    (h : SameShape t t')
    (p : Path) :
    t.locate p = t'.locate p := by
  unfold locate
  rw [h.workingDirectory, walk_eq h]

/-- Setting the same entry keeps the shape the same. -/
theorem SameShape.set
    (h : SameShape t t')
    (l : Location)
    (e : Entry) :
    SameShape (t.set l e) (t'.set l e) where
  workingDirectory := h.workingDirectory
  umask := h.umask
  entries := by
    intro l'
    rw [found?_set, found?_set]
    split
    · exact Or.inl rfl
    · split
      · exact Or.inl rfl
      · exact h.entries l'

/-- **Setting the same entry** changes both trees to the same. -/
theorem Alike.set
    {start start' : FileTree}
    (h : Alike start start' t t')
    (l : Location)
    (e : Entry) :
    Alike start start' (t.set l e) (t'.set l e) where
  shape := h.shape.set l e
  changes := by
    obtain ⟨changes, ht, ht'⟩ := h.changes
    refine ⟨changes ++ [(l, e)], ?_, ?_⟩
    · rw [setAll, List.foldl_append, ht]
      rfl
    · rw [setAll, List.foldl_append, ht']
      rfl

end Walk

end FileTree

namespace FileAction

variable {α β : Type}

/-- An action that tells no trees of the same shape apart: it gives the same result, and it changes
both trees to the same. -/
def Blind (action : FileAction α) : Prop :=
  ∀ start start' t t', FileTree.Alike start start' t t' →
    (action.run t).1 = (action.run t').1 ∧
      FileTree.Alike start start' (action.run t).2 (action.run t').2

/-- Actions that are blind are blind one after the other. -/
theorem Blind.bind
    {action : FileAction α}
    {next : α → FileAction β}
    (haction : Blind action)
    (hnext : ∀ a, Blind (next a)) :
    Blind (action >>= next) := by
  intro start start' t t' h
  obtain ⟨hresult, hafter⟩ := haction start start' t t' h
  rw [run_bind, run_bind]
  cases hrun : action.run t with
  | mk result after =>
      cases hrun' : action.run t' with
      | mk result' after' =>
          rw [hrun, hrun'] at hresult hafter
          obtain rfl : result = result' := hresult
          cases result with
          | error fault =>
              exact ⟨rfl, hafter⟩
          | ok a =>
              exact hnext a start start' after after' hafter

/-- Answering a fault is blind, if the action and the answers are. -/
theorem Blind.tryCatch
    {action : FileAction α}
    {answer : FileFault → FileAction α}
    (haction : Blind action)
    (hanswer : ∀ fault, Blind (answer fault)) :
    Blind (tryCatch action answer) := by
  intro start start' t t' h
  obtain ⟨hresult, hafter⟩ := haction start start' t t' h
  rw [run_tryCatch, run_tryCatch]
  cases hrun : action.run t with
  | mk result after =>
      cases hrun' : action.run t' with
      | mk result' after' =>
          rw [hrun, hrun'] at hresult hafter
          obtain rfl : result = result' := hresult
          cases result with
          | error fault =>
              exact hanswer fault start start' after after' hafter
          | ok a =>
              exact ⟨rfl, hafter⟩

/-- Failing is blind. -/
theorem blind_throw
    (fault : FileFault) :
    Blind (throw fault : FileAction α) :=
  fun _ _ _ _ h => ⟨rfl, h⟩

/-! ## Directories -/

/-- Creating a directory looks only whether something is there. -/
theorem blind_makeDirectory
    (p : Path) :
    Blind (makeDirectory p) := by
  intro start start' t t' h
  rw [run_makeDirectory, run_makeDirectory, FileTree.locate_eq h.shape]
  cases t'.locate p with
  | error fault =>
      exact ⟨rfl, h⟩
  | ok l =>
      dsimp only
      rcases h.shape.entries l with heq | ⟨mode, content, content', hfile, hfile'⟩
      · rw [heq]
        cases t'.found? l with
        | none =>
            exact ⟨rfl, h.set l .directory⟩
        | some e =>
            exact ⟨rfl, h⟩
      · rw [hfile, hfile']
        exact ⟨rfl, h⟩

/-- Asking for a directory looks only whether one is there. -/
theorem blind_found?_directory
    (p : Path)
    (fault : FileFault) :
    Blind (found? p >>= fun e =>
      match e with
      | some .directory => (pure () : FileAction Unit)
      | _ => throw fault) := by
  intro start start' t t' h
  rw [run_bind, run_bind, found?, run_bind, run_bind, run_read, run_read]
  dsimp only
  rw [FileTree.locate_eq h.shape]
  cases t'.locate p with
  | ok l =>
      dsimp only
      rw [run_pure, run_pure]
      rcases h.shape.entries l with heq | ⟨mode, content, content', hfile, hfile'⟩
      · rw [heq]
        cases t'.found? l with
        | none =>
            exact ⟨rfl, h⟩
        | some e =>
            cases e <;> exact ⟨rfl, h⟩
      · rw [hfile, hfile']
        exact ⟨rfl, h⟩
  | error wrong =>
      cases wrong with
      | path problem q =>
          cases problem <;> exact ⟨rfl, h⟩
      | nulInPath =>
          exact ⟨rfl, h⟩
      | undecodable wrong =>
          exact ⟨rfl, h⟩
      | unencodable wrong =>
          exact ⟨rfl, h⟩

/-- Ensuring a directory looks only whether a directory is there. -/
theorem blind_ensureDirectory
    (p : Path) :
    Blind (ensureDirectory p) := by
  rw [ensureDirectory]
  apply (blind_makeDirectory p).tryCatch
  intro fault
  split
  · exact blind_throw _
  · exact blind_found?_directory p fault

/-- Making directories, those above included, reads no file. -/
theorem blind_makeChain
    (ps : List Path) :
    Blind (makeChain ps) := by
  induction ps with
  | nil =>
      exact fun _ _ _ _ h => ⟨rfl, h⟩
  | cons p above ih =>
      rw [makeChain]
      apply (blind_ensureDirectory p).tryCatch
      intro fault
      split
      · split
        · exact blind_throw _
        · exact ih.bind fun _ => blind_ensureDirectory p
      · exact blind_throw _

/-- **Making directories** tells no trees of the same shape apart. -/
theorem blind_makeDirectories
    (p : Path) :
    Blind (makeDirectories p) :=
  blind_makeChain p.ancestors

/-! ## Writing -/

/-- Steps that begin with emptying a file make the same of any file of one mode. -/
theorem blind_runSteps
    (p : Path)
    (mode : Nat)
    (steps : List FileStep) :
    Blind (runSteps p (.openEmpty mode :: steps)) := by
  intro start start' t t' h
  rw [run_runSteps, run_runSteps, FileTree.locate_eq h.shape]
  cases t'.locate p with
  | error fault =>
      exact ⟨rfl, h⟩
  | ok l =>
      have hset (file : Option RegularFile) :
          FileTree.Alike start start' (t.withFile l file) (t'.withFile l file) := by
        cases file with
        | none =>
            exact h
        | some f =>
            exact h.set l (.file f)
      dsimp only
      rw [h.shape.umask]
      rcases h.shape.entries l with heq | ⟨mode', content, content', hfile, hfile'⟩
      · rw [FileTree.file?, FileTree.file?, heq]
        split
        · exact ⟨rfl, h⟩
        · exact ⟨rfl, hset _⟩
      · -- What the files held is gone after the first step.
        rw [FileTree.file?_eq_some_iff.mpr hfile, FileTree.file?_eq_some_iff.mpr hfile', hfile, hfile']
        exact ⟨rfl, hset _⟩

/-- **Writing a text** tells no trees of the same shape apart, whether it can be encoded or not. -/
theorem blind_writeText
    (p : Path)
    (text : Text) :
    Blind (writeText p text) := by
  unfold writeText writeAfter
  cases Utf8.encode text with
  | ok octets =>
      exact blind_runSteps p 0o666 [.append octets]
  | error fault =>
      exact (blind_runSteps p 0o666 []).bind fun _ => blind_throw _

end FileAction

end CurlRequest
