import CurlRequest.Proofs.File.Writing

/-!
# Replacing a file by a text

A file that is replaced is opened first, and opening empties it.  Whether the text can be encoded is
found out only then.  So a text that holds a surrogate costs the file what it held before: the
action fails, and an empty file is left.  Any other text is what the file holds afterwards.

**Results.**
* `Replaces`: what replacing a file does, in both cases.
* `run_runSteps_of_file`: steps that happen to a file that is there.
* `replaces_writeAfter`: writing after steps that empty the file.
* `replaces_makeDirectories_writeAfter`: the same when the directory is made sure of before.
-/

namespace CurlRequest

/-- A path to a file has a name: without any it leads to the root or to the working directory. -/
theorem FileTree.names_ne_nil_of_file
    {p : Path}
    {t : FileTree}
    {l : Location}
    {f : RegularFile}
    (hworking : t.found? t.workingDirectory = some .directory)
    (hl : t.locate p = .ok l)
    (hfound : t.found? l = some (.file f)) :
    p.names ≠ [] := by
  intro hnil
  obtain ⟨-, -, hwalk⟩ := locate_eq_ok_iff.mp hl
  rw [hnil, walk, Except.ok.injEq] at hwalk
  have hdirectory : t.found? l = some .directory := by
    rw [← hwalk]
    split
    · exact hworking
    · rfl
  rw [hdirectory] at hfound
  cases hfound

namespace FileAction

/-- **What replacing a file does**, where the path leads to the location of the file: the text is
written to it, or the file is emptied and the action fails.  Nothing else is changed. -/
structure Replaces (action : FileAction Unit) (t : FileTree) (l : Location) (mode : Nat)
    (text : Text) : Prop where
  written : text.hasSurrogate = false →
    action.run t = (.ok (), t.set l (.file ⟨mode, Utf8.encodeAll text⟩))
  emptied : text.hasSurrogate = true →
    ∃ fault, Utf8.encode text = .error fault ∧
      action.run t = (.error (.unencodable fault), t.set l (.file ⟨mode, []⟩))

section Replacing

variable {p : Path} {t : FileTree} {l : Location} {f : RegularFile}

/-- Of a file that is emptied its mode is left. -/
theorem Replaces.exists_emptied
    {action : FileAction Unit}
    {mode : Nat}
    {text : Text}
    (h : Replaces action t l mode text)
    (hl : l ≠ [])
    (hsurrogate : text.hasSurrogate = true) :
    ∃ fault t' after, action.run t = (.error fault, t') ∧
      t'.found? l = some (.file ⟨after, []⟩) := by
  obtain ⟨fault, -, hrun⟩ := h.emptied hsurrogate
  exact ⟨_, _, mode, hrun, FileTree.found?_set_self t hl _⟩

/-- Steps that happen to a file that is there. -/
theorem run_runSteps_of_file
    {steps : List FileStep}
    {after : RegularFile}
    (hl : t.locate p = .ok l)
    (hfound : t.found? l = some (.file f))
    (hsteps : FileStep.applyAll t.umask steps (some f) = some after) :
    (runSteps p steps).run t = (.ok (), t.set l (.file after)) := by
  have hne : t.found? l ≠ some .directory := by
    rw [hfound]
    simp
  rw [run_runSteps_of_locate hl hne, FileTree.file?_eq_some_iff.mpr hfound, hsteps]
  rfl

/-- **Writing after steps that empty a file** replaces the file. -/
theorem replaces_writeAfter
    {prepare : List FileStep}
    {mode : Nat}
    (hl : t.locate p = .ok l)
    (hfound : t.found? l = some (.file f))
    (hprepare : FileStep.applyAll t.umask prepare (some f) = some ⟨mode, []⟩)
    (text : Text) :
    Replaces (writeAfter p prepare text) t l mode text where
  written := by
    intro hsurrogate
    have hencode : Utf8.encode text = .ok (Utf8.encodeAll text) :=
      Utf8.encode_eq_ok_iff.mpr ⟨hsurrogate, rfl⟩
    have hsteps :
        FileStep.applyAll t.umask (prepare ++ [.append (Utf8.encodeAll text)]) (some f) =
          some ⟨mode, Utf8.encodeAll text⟩ := by
      rw [FileStep.applyAll_append, hprepare]
      rfl
    rw [writeAfter, hencode]
    exact run_runSteps_of_file hl hfound hsteps
  emptied := by
    intro hsurrogate
    cases hencode : Utf8.encode text with
    | ok octets =>
        rw [(Utf8.encode_eq_ok_iff.mp hencode).1] at hsurrogate
        cases hsurrogate
    | error fault =>
        refine ⟨fault, rfl, ?_⟩
        rw [writeAfter, hencode]
        simp only [run_bind, run_runSteps_of_file hl hfound hprepare, run_throw]

/-- **Replacing a file with its directory made sure of before.**  The directory is there, so the
tree is still the same when the file is opened. -/
theorem replaces_makeDirectories_writeAfter
    {prepare : List FileStep}
    {mode : Nat}
    (hworking : t.found? t.workingDirectory = some .directory)
    (hl : t.locate p = .ok l)
    (hfound : t.found? l = some (.file f))
    (hprepare : FileStep.applyAll t.umask prepare (some f) = some ⟨mode, []⟩)
    (text : Text) :
    Replaces (do makeDirectories p.parent; writeAfter p prepare text) t l mode text := by
  have hnames : p.names ≠ [] := FileTree.names_ne_nil_of_file hworking hl hfound
  have hrun :
      (do makeDirectories p.parent; writeAfter p prepare text : FileAction Unit).run t =
        (writeAfter p prepare text).run t := by
    rw [run_bind, run_makeDirectories_above hnames hl]
  have h := replaces_writeAfter hl hfound hprepare text
  constructor
  · rw [hrun]
    exact h.written
  · rw [hrun]
    exact h.emptied

end Replacing

end FileAction

end CurlRequest
