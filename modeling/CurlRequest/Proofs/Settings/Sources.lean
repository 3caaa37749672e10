import CurlRequest.Proofs.Dictionary
import CurlRequest.Proofs.File.Tree
import CurlRequest.Settings

/-!
# Settings from their sources

The two files of variables are read without changing anything.  Settings that are all given a
readable value are accepted, and a value that only one file gives is the value of the setting.

**Results.**
* `run_readVariables`, `run_readSources`: reading the files of variables.
* `valueOf_of_assigned`: the value of a setting that only a file gives.
* `check_of_truth`: settings whose booleans can all be read.
-/

namespace CurlRequest.Settings

/-! ## Files of variables -/

/-- The text of a file of variables in a tree. -/
def variablesAt (t : FileTree) (p : Path) : Except FileFault Text :=
  ((readVariables p).run t).1

/-- Reading variables leaves the tree as it is. -/
theorem run_readVariables
    (p : Path)
    (t : FileTree) :
    (readVariables p).run t = (variablesAt t p, t) := by
  refine Prod.ext (by rfl) ?_
  have hfound := FileAction.run_found?_snd p t
  dsimp only
  rw [readVariables, FileAction.run_bind]
  cases hrun : (FileAction.found? p).run t with
  | mk result after =>
      rw [hrun] at hfound
      obtain rfl : after = t := hfound
      cases result with
      | error fault =>
          rfl
      | ok e =>
          cases e with
          | none =>
              rfl
          | some e =>
              cases e with
              | file f =>
                  exact FileAction.run_readText_snd p after
              | directory =>
                  rfl

/-- The variables of a file that can be read. -/
theorem variablesAt_of_readText
    {p : Path}
    {t : FileTree}
    {text : Text}
    (h : (FileAction.readText p).run t = (.ok text, t)) :
    variablesAt t p = .ok text := by
  obtain ⟨l, f, raw, hl, hfound, -, -⟩ := FileAction.exists_file_of_readText h
  rw [variablesAt, readVariables, FileAction.run_bind, FileAction.run_found?_of_locate hl, hfound]
  dsimp only
  rw [h]

/-- A path without a tilde in front is read where it leads to itself. -/
theorem expand_of_hasTilde_eq_false
    {p : Path}
    (h : p.hasTilde = false)
    (homes : Text → Path) :
    p.expand homes = p := by
  unfold Path.expand
  split
  · rfl
  · rw [h, if_neg Bool.false_ne_true]

/-- What the environment and the two files say, if both can be read. -/
theorem run_readSources
    {environment : Environment}
    {user : Path}
    {t : FileTree}
    {project own : Text}
    (homes : Text → Path)
    (htilde : user.hasTilde = false)
    (hproject : variablesAt t projectFile = .ok project)
    (hown : variablesAt t user = .ok own) :
    (readSources homes environment user).run t = (.ok (.ofTexts environment own project), t) := by
  have hlocal : projectFile.hasTilde = false := by
    decide
  rw [readSources, expand_of_hasTilde_eq_false hlocal, expand_of_hasTilde_eq_false htilde,
    FileAction.run_bind, run_readVariables, hproject]
  dsimp only
  rw [FileAction.run_bind, run_readVariables, hown]
  rfl

/-! ## Values -/

/-- A setting that the caller and the environment leave open is what the files assign. -/
theorem valueOf_of_assigned
    {sources : Sources}
    {s : Setting}
    {v : Text}
    (henvironment : ∀ entry ∈ sources.environment, Text.lower entry.1 ≠ Text.lower s.variable)
    (hassigned : Dictionary.get? (Text.lower s.variable) sources.assigned = some (some v)) :
    valueOf [] sources s = .str v := by
  have hnone : Dictionary.get? (Text.lower s.variable) (lowerKeys sources.environment) = none := by
    rw [lowerKeys, Dictionary.get?_ofEntries, Dictionary.get?_eq_none_iff]
    intro hmem
    rw [List.map_map] at hmem
    obtain ⟨entry, hentry, hlower⟩ := List.mem_map.mp hmem
    exact henvironment entry hentry hlower
  simp only [valueOf, Dictionary.get?, hnone, hassigned]

/-- **Settings whose booleans can be read** are accepted, if format and level are. -/
theorem check_of_truth
    {value : Setting → Json}
    {flags : Curl.Flags}
    {full : Bool}
    (hflags : ∀ f, (value (.flag f)).truth = .ok (flags.isSet f))
    (hfull : (value .showFull).truth = .ok full) :
    check value =
      match checkFormat Setting.outputFormat.place (value .outputFormat),
          checkLevel Setting.logLevel.place (value .logLevel) with
      | .ok format, .ok level => .ok ⟨flags, full, format, level⟩
      | format, level => .error (Field.faults format ++ Field.faults level) := by
  have hflag (f : Curl.Flag) :
      (value (.flag f)).checkTruth (Setting.flag f).place = .ok (flags.isSet f) := by
    rw [Json.checkTruth, hflags]
  have hshow : (value .showFull).checkTruth Setting.showFull.place = .ok full := by
    rw [Json.checkTruth, hfull]
  have hall : Field.all (Curl.Flag.all.map fun f =>
      (value (.flag f)).checkTruth (Setting.flag f).place) =
        .ok (Curl.Flag.all.map flags.isSet) := by
    simp only [hflag]
    rfl
  have htest : (Curl.Flags.ofTest fun f =>
      Field.isYes ((value (.flag f)).checkTruth (Setting.flag f).place)) = flags := by
    simp only [hflag]
    rfl
  unfold check
  dsimp only
  rw [hall, hshow, htest]
  cases checkFormat Setting.outputFormat.place (value .outputFormat) with
  | error format =>
      cases checkLevel Setting.logLevel.place (value .logLevel) <;> rfl
  | ok format =>
      cases checkLevel Setting.logLevel.place (value .logLevel) <;> rfl

end CurlRequest.Settings
