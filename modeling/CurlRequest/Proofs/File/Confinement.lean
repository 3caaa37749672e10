import CurlRequest.Proofs.File.Writing

/-!
# Where actions change files

An action that saves something is meant to change the file that it is told to write and to create
the directories above it that are missing, and nothing else.  This holds of every such action, also
when it fails on the way: an entry that differs afterwards is that of the file, or a directory where
nothing stood, and the path of the file, or of a directory above it, leads there.

No directory is ever removed or replaced, so a path that leads somewhere leads there ever after.
For this reason the places are those to which the paths lead in the tree that is left.

**Results.**
* `FileTree.ChangesOnly`: what has changed between two trees.
* `FileTree.ChangesOnly.trans`: changes one after the other.
* `FileAction.Confined.bind`, `FileAction.Confined.tryCatch`: confined actions one after the other.
* `FileAction.confined_makeDirectories`, `FileAction.confined_writeAfter`: making directories and
  writing files.
-/

namespace CurlRequest

namespace FileTree

/-- What may have become of an entry while files are saved at some paths. -/
inductive Change (targets : List Path) (before after : FileTree) (l : Location) : Prop
  /-- Nothing. -/
  | same
      (h : after.found? l = before.found? l)
  /-- A file is written where one of the paths leads to; no directory was there. -/
  | written
      {p : Path}
      {f : RegularFile}
      (htarget : p ∈ targets)
      (hl : after.locate p = .ok l)
      (hbefore : before.found? l ≠ some .directory)
      (hafter : after.found? l = some (.file f))
  /-- A directory is created above one of the paths; nothing was there. -/
  | created
      {p q : Path}
      (htarget : p ∈ targets)
      (habove : q ∈ p.parent.ancestors)
      (hl : after.locate q = .ok l)
      (hbefore : before.found? l = none)
      (hafter : after.found? l = some .directory)

/-- **The only changes** between two trees are at some paths and at the missing directories above
them. -/
structure ChangesOnly (targets : List Path) (before after : FileTree) : Prop where
  workingDirectory : after.workingDirectory = before.workingDirectory
  umask : after.umask = before.umask
  entries : ∀ l, Change targets before after l

section ChangesOnly

variable {targets : List Path} {before middle after : FileTree}

/-- A tree has not changed from itself. -/
theorem ChangesOnly.refl
    (targets : List Path)
    (t : FileTree) :
    ChangesOnly targets t t where
  workingDirectory := rfl
  umask := rfl
  entries _ := .same rfl

/-- No directory is removed. -/
theorem ChangesOnly.grows
    (h : ChangesOnly targets before after) :
    Grows before after where
  workingDirectory := h.workingDirectory
  directory := by
    intro l hl
    cases h.entries l with
    | same hsame =>
        rw [hsame]
        exact hl
    | written htarget hlocate hbefore hafter =>
        exact absurd hl hbefore
    | created htarget habove hlocate hbefore hafter =>
        exact hafter

/-- **Changes one after the other** are at the same paths as each of them. -/
theorem ChangesOnly.trans
    (h : ChangesOnly targets before middle)
    (h' : ChangesOnly targets middle after) :
    ChangesOnly targets before after where
  workingDirectory := h'.workingDirectory.trans h.workingDirectory
  umask := h'.umask.trans h.umask
  entries := by
    intro l
    cases h'.entries l with
    | same hsame =>
        cases h.entries l with
        | same hsame' =>
            exact .same (hsame.trans hsame')
        | written htarget hlocate hbefore hafter =>
            exact .written htarget (h'.grows.locate hlocate) hbefore (hsame.trans hafter)
        | created htarget habove hlocate hbefore hafter =>
            exact .created htarget habove (h'.grows.locate hlocate) hbefore (hsame.trans hafter)
    | written htarget hlocate hmiddle hafter =>
        have hbefore : before.found? l ≠ some .directory := fun hdirectory =>
          hmiddle (h.grows.directory l hdirectory)
        exact .written htarget hlocate hbefore hafter
    | created htarget habove hlocate hmiddle hafter =>
        cases h.entries l with
        | same hsame =>
            exact .created htarget habove hlocate (hsame.symm.trans hmiddle) hafter
        | written htarget' hlocate' hbefore hfile =>
            rw [hmiddle] at hfile
            cases hfile
        | created htarget' habove' hlocate' hbefore hdirectory =>
            rw [hmiddle] at hdirectory
            cases hdirectory

/-- A directory is created above a path. -/
theorem changesOnly_set_directory
    {t : FileTree}
    {p q : Path}
    {l : Location}
    (htarget : p ∈ targets)
    (habove : q ∈ p.parent.ancestors)
    (hl : t.locate q = .ok l)
    (hnone : t.found? l = none) :
    ChangesOnly targets t (t.set l .directory) where
  workingDirectory := rfl
  umask := rfl
  entries := by
    have hfound : t.found? l ≠ some .directory := by
      rw [hnone]
      exact nofun
    intro l'
    by_cases heq : l' = l
    · subst heq
      exact .created htarget habove (locate_set hfound _ hl) hnone
        (found?_set_self t (ne_root_of_found? hfound) _)
    · exact .same (found?_set_of_ne t heq _)

/-- A file is written where a path leads to. -/
theorem changesOnly_set_file
    {t : FileTree}
    {p : Path}
    {l : Location}
    (htarget : p ∈ targets)
    (hl : t.locate p = .ok l)
    (hfound : t.found? l ≠ some .directory)
    (f : RegularFile) :
    ChangesOnly targets t (t.set l (.file f)) where
  workingDirectory := rfl
  umask := rfl
  entries := by
    intro l'
    by_cases heq : l' = l
    · subst heq
      exact .written htarget (locate_set hfound _ hl) hfound
        (found?_set_self t (ne_root_of_found? hfound) _)
    · exact .same (found?_set_of_ne t heq _)

end ChangesOnly

end FileTree

namespace FileAction

variable {α β : Type}
variable {targets : List Path}

/-- An action that changes nothing but some paths and what is missing above them, whether it fails or
not. -/
def Confined (targets : List Path) (action : FileAction α) : Prop :=
  ∀ t, FileTree.ChangesOnly targets t (action.run t).2

/-- Confined actions are confined one after the other. -/
theorem Confined.bind
    {action : FileAction α}
    {next : α → FileAction β}
    (haction : Confined targets action)
    (hnext : ∀ a, Confined targets (next a)) :
    Confined targets (action >>= next) := by
  intro t
  have h := haction t
  rw [run_bind]
  cases hrun : action.run t with
  | mk result after =>
      rw [hrun] at h
      cases result with
      | error fault =>
          exact h
      | ok a =>
          exact h.trans (hnext a after)

/-- Answering a fault is confined, if the action and the answers are. -/
theorem Confined.tryCatch
    {action : FileAction α}
    {answer : FileFault → FileAction α}
    (haction : Confined targets action)
    (hanswer : ∀ fault, Confined targets (answer fault)) :
    Confined targets (tryCatch action answer) := by
  intro t
  have h := haction t
  rw [run_tryCatch]
  cases hrun : action.run t with
  | mk result after =>
      rw [hrun] at h
      cases result with
      | error fault =>
          exact h.trans (hanswer fault after)
      | ok a =>
          exact h

/-- An action that leaves the tree as it is changes nothing. -/
theorem confined_of_run_snd
    {action : FileAction α}
    (h : ∀ t, (action.run t).2 = t) :
    Confined targets action := by
  intro t
  rw [h t]
  exact FileTree.ChangesOnly.refl targets t

/-- Failing changes nothing. -/
theorem confined_throw
    (fault : FileFault) :
    Confined targets (throw fault : FileAction α) :=
  confined_of_run_snd fun _ => rfl

/-! ## Directories -/

section Directories

variable {p : Path}

/-- Creating a directory above a path. -/
theorem confined_makeDirectory
    {q : Path}
    (htarget : p ∈ targets)
    (habove : q ∈ p.parent.ancestors) :
    Confined targets (makeDirectory q) := by
  intro t
  rw [run_makeDirectory]
  cases hl : t.locate q with
  | error fault =>
      exact FileTree.ChangesOnly.refl targets t
  | ok l =>
      dsimp only
      cases hfound : t.found? l with
      | some e =>
          exact FileTree.ChangesOnly.refl targets t
      | none =>
          exact FileTree.changesOnly_set_directory htarget habove hl hfound

/-- Ensuring a directory above a path. -/
theorem confined_ensureDirectory
    {q : Path}
    (htarget : p ∈ targets)
    (habove : q ∈ p.parent.ancestors) :
    Confined targets (ensureDirectory q) := by
  rw [ensureDirectory]
  apply (confined_makeDirectory htarget habove).tryCatch
  intro fault
  split
  · exact confined_throw _
  · apply (confined_of_run_snd (run_found?_snd q)).bind
    intro e
    split
    · exact confined_of_run_snd fun _ => rfl
    · exact confined_throw _

/-- Making directories above a path, one in the other. -/
theorem confined_makeChain
    (htarget : p ∈ targets) :
    ∀ qs : List Path, (∀ q ∈ qs, q ∈ p.parent.ancestors) → Confined targets (makeChain qs) := by
  intro qs
  induction qs with
  | nil =>
      exact fun _ => confined_of_run_snd fun _ => rfl
  | cons q above ih =>
      intro hqs
      have hq := confined_ensureDirectory htarget (hqs q List.mem_cons_self)
      have hchain := ih fun r hr => hqs r (List.mem_cons_of_mem q hr)
      rw [makeChain]
      apply hq.tryCatch
      intro fault
      split
      · split
        · exact confined_throw _
        · exact hchain.bind fun _ => hq
      · exact confined_throw _

/-- **Making the directory that a path lies in** creates what is missing above the path. -/
theorem confined_makeDirectories
    (htarget : p ∈ targets) :
    Confined targets (makeDirectories p.parent) :=
  confined_makeChain htarget p.parent.ancestors fun _ h => h

/-! ## Writing -/

/-- Steps that happen to a file change that file. -/
theorem confined_runSteps
    (htarget : p ∈ targets)
    (steps : List FileStep) :
    Confined targets (runSteps p steps) := by
  intro t
  rw [run_runSteps]
  cases hl : t.locate p with
  | error fault =>
      exact FileTree.ChangesOnly.refl targets t
  | ok l =>
      dsimp only
      by_cases hfound : t.found? l = some .directory
      · rw [if_pos hfound]
        exact FileTree.ChangesOnly.refl targets t
      · rw [if_neg hfound]
        -- What the steps make of the file is set, or there is still no file.
        cases FileStep.applyAll t.umask steps (t.file? l) with
        | none =>
            exact FileTree.ChangesOnly.refl targets t
        | some f =>
            exact FileTree.changesOnly_set_file htarget hl hfound f

/-- **Writing to a file** after some steps changes that file, whether the text can be encoded or
not. -/
theorem confined_writeAfter
    (htarget : p ∈ targets)
    (prepare : List FileStep)
    (text : Text) :
    Confined targets (writeAfter p prepare text) := by
  unfold writeAfter
  cases Utf8.encode text with
  | ok octets =>
      exact confined_runSteps htarget _
  | error fault =>
      exact (confined_runSteps htarget prepare).bind fun _ => confined_throw _

end Directories

end FileAction

end CurlRequest
