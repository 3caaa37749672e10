import CurlRequest.Proofs.File.Tree

/-!
# Writing files

Steps happen to the file that a path leads to, and they create it if there is none.  Each step is a
call of its own.  The calls together change the one entry that the path leads to, and what becomes of
the file is what the steps make of it, one after the other.  A text that was written is what is read
there afterwards.

**Results.**
* `FileTree.after_steps`: what steps make of a tree, where no directory stands.
* `FileAction.run_runSteps`, `FileAction.calls_runSteps`: steps that happen to the file of a path.
* `FileAction.calls_writeAfter`: the calls that write a text, and those that prepare the file.
* `FileAction.run_writeText_of_locate`, `FileAction.run_readText_set`: writing a text, and reading it
  back.
-/

namespace CurlRequest

/-! ## Steps of a file -/

namespace FileStep

/-- What steps make of a file, one after the other. -/
def applyAll (umask : Nat) (steps : List FileStep) (file : Option RegularFile) :
    Option RegularFile :=
  steps.foldl (fun file step => step.apply umask file) file

/-- Some steps and then others. -/
theorem applyAll_append
    (umask : Nat)
    (steps more : List FileStep)
    (file : Option RegularFile) :
    applyAll umask (steps ++ more) file = applyAll umask more (applyAll umask steps file) :=
  List.foldl_append

/-- No step takes a file away. -/
theorem isSome_apply
    {file : Option RegularFile}
    (h : file.isSome)
    (umask : Nat)
    (s : FileStep) :
    (s.apply umask file).isSome := by
  obtain ⟨f, rfl⟩ := Option.isSome_iff_exists.mp h
  cases s <;> rfl

/-- Steps do not take a file away. -/
theorem isSome_applyAll
    {file : Option RegularFile}
    (h : file.isSome)
    (umask : Nat)
    (steps : List FileStep) :
    (applyAll umask steps file).isSome := by
  induction steps generalizing file with
  | nil =>
      exact h
  | cons s rest ih =>
      exact ih (isSome_apply h umask s)

end FileStep

namespace FileTree

variable {t : FileTree} {l : Location}

/-! ## The file at a location -/

/-- A file at a location is what stands there. -/
theorem file?_eq_some_iff
    {f : RegularFile} :
    t.file? l = some f
      ↔
    t.found? l = some (.file f) := by
  unfold file?
  cases t.found? l with
  | none =>
      simp
  | some e =>
      cases e <;> simp

/-- A file that is set is there. -/
theorem file?_set_file
    (hfound : t.found? l ≠ some .directory)
    (f : RegularFile) :
    (t.set l (.file f)).file? l = some f :=
  file?_eq_some_iff.mpr (found?_set_self t (ne_root_of_found? hfound) _)

/-- The file that is there is set to itself. -/
theorem withFile_file?
    (hfound : t.found? l ≠ some .directory) :
    t.withFile l (t.file? l) = t := by
  cases hfile : t.file? l with
  | none =>
      rfl
  | some f =>
      exact set_of_found? (ne_root_of_found? hfound) (file?_eq_some_iff.mp hfile)

/-- Of two entries that are set at one location the later one is left. -/
theorem set_set
    (t : FileTree)
    (l : Location)
    (e e' : Entry) :
    (t.set l e).set l e' = t.set l e' := by
  have hentries (entries : List (Location × Entry)) :
      setEntry l e' (setEntry l e entries) = setEntry l e' entries := by
    induction entries with
    | nil =>
        simp only [setEntry, if_true]
    | cons entry rest ih =>
        obtain ⟨k, old⟩ := entry
        by_cases hk : k = l
        · simp only [setEntry, hk, if_true]
        · simp only [setEntry, hk, if_false, ih]
  simp only [set, hentries]

/-- **What steps make of a tree,** where there is a file or nothing: the file becomes what they make
of it.  By induction on the steps. -/
theorem after_steps
    (hfound : t.found? l ≠ some .directory)
    (steps : List FileStep) :
    t.after (steps.map (.step l)) =
      t.withFile l (FileStep.applyAll t.umask steps (t.file? l)) := by
  induction steps generalizing t with
  | nil =>
      exact (withFile_file? hfound).symm
  | cons s rest ih =>
      have hfirst :
          (FileCall.step l s).apply t = t.withFile l (s.apply t.umask (t.file? l)) :=
        if_neg hfound
      have hcalls :
          t.after ((s :: rest).map (.step l)) =
            (t.withFile l (s.apply t.umask (t.file? l))).after (rest.map (.step l)) := by
        rw [← hfirst]
        rfl
      rw [hcalls]
      cases hafter : s.apply t.umask (t.file? l) with
      | none =>
          -- There was no file, and there is none yet.
          have hnone : t.file? l = none := by
            cases hfile : t.file? l with
            | none =>
                rfl
            | some f =>
                rw [hfile] at hafter
                cases s <;> cases hafter
          rw [hnone] at hafter
          rw [withFile, ih hfound, hnone, FileStep.applyAll, FileStep.applyAll, List.foldl_cons,
            hafter]
      | some f =>
          have hset : (t.set l (.file f)).found? l ≠ some .directory := by
            rw [found?_set_self t (ne_root_of_found? hfound)]
            simp
          have happly :
              FileStep.applyAll t.umask (s :: rest) (t.file? l) =
                FileStep.applyAll t.umask rest (some f) := by
            rw [FileStep.applyAll, List.foldl_cons, hafter]
            rfl
          obtain ⟨f', hf'⟩ := Option.isSome_iff_exists.mp
            (FileStep.isSome_applyAll (Option.isSome_some (a := f)) t.umask rest)
          have humask : (t.set l (.file f)).umask = t.umask := rfl
          rw [withFile, ih hset, file?_set_file hfound, humask, happly, hf', withFile, withFile,
            set_set]

end FileTree

namespace FileAction

variable {p : Path} {t t' : FileTree} {l : Location} {text : Text}

/-! ## Steps that happen to the file of a path -/

/-- **What steps do** to the file that a path leads to, or that they create there. -/
theorem run_runSteps
    (p : Path)
    (steps : List FileStep)
    (t : FileTree) :
    (runSteps p steps).run t =
      match t.locate p with
      | .error fault => (.error fault, t)
      | .ok l =>
          if t.found? l = some .directory then (.error (.path .isDirectory p), t)
          else (.ok (), t.withFile l (FileStep.applyAll t.umask steps (t.file? l))) := by
  rw [runSteps, run_bind, run_locate]
  cases t.locate p with
  | error fault =>
      rfl
  | ok l =>
      simp only [run_bind, run_read]
      by_cases hfound : t.found? l = some .directory
      · rw [if_pos hfound, if_pos hfound, run_throw]
      · rw [if_neg hfound, if_neg hfound, run_perform, FileTree.after_steps hfound]

/-- Steps where a path leads to a file or to nothing. -/
theorem run_runSteps_of_locate
    (hl : t.locate p = .ok l)
    (hfound : t.found? l ≠ some .directory)
    (steps : List FileStep) :
    (runSteps p steps).run t =
      (.ok (), t.withFile l (FileStep.applyAll t.umask steps (t.file? l))) := by
  rw [run_runSteps, hl]
  exact if_neg hfound

/-- Looking where a path leads to makes no calls. -/
theorem calls_locate
    (p : Path)
    (t : FileTree) :
    (locate p).calls t = [] := by
  simp only [locate, calls_bind, calls_read, run_read, List.nil_append]
  cases t.locate p <;> rfl

/-- Each step is a call of its own, if there is a place for the file at all. -/
theorem calls_runSteps
    (p : Path)
    (steps : List FileStep)
    (t : FileTree) :
    (runSteps p steps).calls t =
      match t.locate p with
      | .error _ => []
      | .ok l => if t.found? l = some .directory then [] else steps.map (.step l) := by
  rw [runSteps, calls_bind, calls_locate, run_locate, List.nil_append]
  cases t.locate p with
  | error fault =>
      rfl
  | ok l =>
      simp only [calls_bind, calls_read, run_read, List.nil_append]
      split <;> rfl

/-! ## Writing a text -/

/-- The steps that write a text; a text that cannot be encoded is not written. -/
def appends (text : Text) : List FileStep :=
  match Utf8.encode text with
  | .ok octets => [.append octets]
  | .error _ => []

/-- **The calls that write a text** are those that prepare the file, and then the text arrives. -/
theorem calls_writeAfter
    (p : Path)
    (prepare : List FileStep)
    (text : Text)
    (t : FileTree) :
    (writeAfter p prepare text).calls t = (runSteps p (prepare ++ appends text)).calls t := by
  unfold writeAfter appends
  cases Utf8.encode text with
  | ok octets =>
      rfl
  | error fault =>
      simp only [calls_bind, List.append_nil]
      cases (runSteps p prepare).run t with
      | mk result after =>
          cases result <;> exact List.append_nil _

/-- The permission bits of a file after it is opened for writing. -/
def openedMode (umask : Nat) : Option Entry → Nat
  | some (.file f) => f.mode
  | _ => 0o666 &&& (0o777 ^^^ (umask &&& 0o777))

/-- **Writing a text** puts its octets where the path leads to, if no directory stands there. -/
theorem run_writeText_of_locate
    {octets : Bytes}
    (hl : t.locate p = .ok l)
    (hfound : t.found? l ≠ some .directory)
    (htext : Utf8.encode text = .ok octets) :
    (writeText p text).run t =
      (.ok (), t.set l (.file ⟨openedMode t.umask (t.found? l), octets⟩)) := by
  rw [writeText, writeAfter, htext]
  dsimp only
  rw [run_runSteps_of_locate hl hfound, FileTree.file?]
  cases hentry : t.found? l with
  | none =>
      rfl
  | some e =>
      cases e with
      | directory =>
          exact absurd hentry hfound
      | file f =>
          rfl

/-- A text that is written can be encoded, and a path leads to where it is put. -/
theorem exists_locate_of_writeAfter
    {prepare : List FileStep}
    (h : (writeAfter p prepare text).run t = (.ok (), t')) :
    ∃ l octets, t.locate p = .ok l ∧ t.found? l ≠ some .directory ∧
      Utf8.encode text = .ok octets := by
  unfold writeAfter at h
  cases htext : Utf8.encode text with
  | error fault =>
      rw [htext] at h
      dsimp only at h
      rw [run_bind] at h
      split at h <;> cases h
  | ok octets =>
      rw [htext] at h
      dsimp only at h
      rw [run_runSteps] at h
      cases hl : t.locate p with
      | error fault =>
          rw [hl] at h
          cases h
      | ok l =>
          rw [hl] at h
          refine ⟨l, octets, rfl, ?_, rfl⟩
          intro hdirectory
          dsimp only at h
          rw [if_pos hdirectory] at h
          cases h

/-- **A text that was written** is read back, with its line ends made alike. -/
theorem run_readText_set
    {octets : Bytes}
    (hl : t.locate p = .ok l)
    (hfound : t.found? l ≠ some .directory)
    (htext : Utf8.encode text = .ok octets)
    (mode : Nat) :
    (readText p).run (t.set l (.file ⟨mode, octets⟩)) =
      (.ok (Text.unifyNewlines text), t.set l (.file ⟨mode, octets⟩)) := by
  apply run_readText_of_file (FileTree.locate_set hfound _ hl)
  · exact FileTree.found?_set_self t (FileTree.ne_root_of_found? hfound) _
  · exact Utf8.decode_of_encode htext

end FileAction

end CurlRequest
