import CurlRequest.Curl.Saving
import CurlRequest.Proofs.File.Passing
import Mathlib.Data.Nat.Bitwise

/-!
# A script is closed before it is written

A script holds secrets.  Its file may be there already, open to everybody, and a new one is created
with what the system leaves of the permission bits.  So the file is emptied first, then it is closed
to all but its owner, and only then the text arrives, in whatever parts.  At no moment does an open
file hold any of it.

**Results.**
* `beginning_saveScript_cases`: what may have been done at some moment of saving a script.
* `exists_file_at_moment`: from the opening on the file holds a beginning of the script, or nothing
  while it is open to others.
* `saveScript_neverExposes`: no part of a script is ever in a file that is open to others.
-/

namespace CurlRequest

/-- A file that group and others may do nothing with. -/
def RegularFile.IsClosed (f : RegularFile) : Prop :=
  f.mode &&& 0o077 = 0

namespace Curl.Command

open FileAction (appends makeDirectories modeAfterOpening)
open FileCall (Beginning)

variable {c : Command} {p : Path} {t start : FileTree} {l : Location}

/-! ## The calls of saving a script -/

/-- All that happens to the file of a script. -/
def scriptSteps (c : Command) : List FileStep :=
  scriptPreparation ++ appends c.scriptText

/-- The calls that save a script: its directory is made, and then the steps happen to its file. -/
theorem calls_saveScript
    (c : Command)
    (p : Path)
    (t : FileTree) :
    (c.saveScript p).calls t =
      (makeDirectories p.parent).calls t ++
        match (makeDirectories p.parent).run t with
        | (.ok _, start) => (FileAction.runSteps p c.scriptSteps).calls start
        | (.error _, _) => [] := by
  rw [saveScript, FileAction.calls_bind]
  cases (makeDirectories p.parent).run t with
  | mk result start =>
      cases result with
      | error fault =>
          rfl
      | ok =>
          dsimp only
          rw [FileAction.calls_writeAfter, scriptSteps]

/-- The calls where the directory can be made and the file can be opened. -/
theorem calls_saveScript_of_made
    (hmade : (makeDirectories p.parent).run t = (.ok (), start))
    (hl : start.locate p = .ok l)
    (hfound : start.found? l ≠ some .directory) :
    (c.saveScript p).calls t =
      (makeDirectories p.parent).calls t ++ c.scriptSteps.map (.step l) := by
  rw [calls_saveScript, hmade]
  dsimp only
  rw [FileAction.calls_runSteps, hl]
  dsimp only
  rw [if_neg hfound]

/-- The tree in which the directory has been made is what the calls for it make of the first one. -/
theorem after_of_made
    (hmade : (makeDirectories p.parent).run t = (.ok (), start)) :
    t.after ((makeDirectories p.parent).calls t) = start :=
  (Prod.mk.inj hmade).2

/-- **What may have been done** at some moment of saving a script: directories have been made, or
they have all been made and some of the steps have happened to the file. -/
theorem beginning_saveScript_cases
    {done : List FileCall}
    (h : Beginning done ((c.saveScript p).calls t)) :
    (∀ call ∈ done, call.MakesDirectory) ∨
      ∃ start l more, (makeDirectories p.parent).run t = (.ok (), start) ∧
        start.locate p = .ok l ∧ start.found? l ≠ some .directory ∧
        done = (makeDirectories p.parent).calls t ++ more ∧
        Beginning more (c.scriptSteps.map (.step l)) := by
  have hdirectories := FileAction.onlyDirectories_makeDirectories p.parent t
  rw [calls_saveScript] at h
  cases hmade : (makeDirectories p.parent).run t with
  | mk result start =>
      rw [hmade] at h
      cases result with
      | error fault =>
          rw [List.append_nil] at h
          exact Or.inl (h.makesDirectory hdirectories)
      | ok =>
          dsimp only at h
          rw [FileAction.calls_runSteps] at h
          cases hl : start.locate p with
          | error fault =>
              rw [hl, List.append_nil] at h
              exact Or.inl (h.makesDirectory hdirectories)
          | ok l =>
              rw [hl] at h
              dsimp only at h
              by_cases hfound : start.found? l = some .directory
              · rw [if_pos hfound, List.append_nil] at h
                exact Or.inl (h.makesDirectory hdirectories)
              · rw [if_neg hfound] at h
                rcases FileCall.beginning_append_iff.mp h with hfirst | ⟨more, rfl, hmore⟩
                · exact Or.inl (hfirst.makesDirectory hdirectories)
                · exact Or.inr ⟨start, l, more, rfl, hl, hfound, rfl, hmore⟩

/-! ## The file of a script -/

/-- The permission bits of a script give group and others nothing. -/
theorem scriptMode_closed :
    scriptMode &&& 0o077 = 0 := rfl

/-- A file that is created for a script is closed from the first. -/
theorem isClosed_created
    (umask : Nat) :
    RegularFile.IsClosed ⟨modeAfterOpening umask scriptMode none, []⟩ := by
  rw [RegularFile.IsClosed, modeAfterOpening, Nat.land_assoc, Nat.land_comm _ 0o077,
    ← Nat.land_assoc, scriptMode_closed, Nat.zero_and]

/-- **From the opening on** the file holds a beginning of the script.  It is closed when it holds
anything, and always if it is a new one. -/
theorem exists_file_at_moment
    {more : List FileCall}
    (hfound : start.found? l ≠ some .directory)
    (h : Beginning more (c.scriptSteps.map (.step l))) :
    start.after more = start ∨
      ∃ f, start.after more = start.set l (.file f) ∧
        f.content <+: Utf8.encodeAll c.scriptText ∧
        (f.content ≠ [] ∨ start.found? l = none → f.IsClosed) := by
  have hclosed (content : Bytes) : RegularFile.IsClosed ⟨scriptMode, content⟩ := scriptMode_closed
  rcases (FileAction.passes_replacing_iff scriptMode scriptMode hfound).mp ⟨more, h, rfl⟩ with
    hsame | hopened | hempty | ⟨octets, arrived, hencode, harrived, hfilled⟩
  · exact Or.inl hsame
  · refine Or.inr ⟨_, hopened, List.nil_prefix, ?_⟩
    rintro (hne | hnew)
    · exact absurd rfl hne
    · rw [FileTree.file?, hnew]
      exact isClosed_created start.umask
  · exact Or.inr ⟨_, hempty, List.nil_prefix, fun _ => hclosed _⟩
  · rw [← (Utf8.encode_eq_ok_iff.mp hencode).2] at harrived
    exact Or.inr ⟨_, hfilled, harrived, fun _ => hclosed _⟩

/-- A script that can be encoded is saved where the directory can be made and the file opened. -/
theorem run_saveScript_of_made
    {octets : Bytes}
    (hmade : (makeDirectories p.parent).run t = (.ok (), start))
    (hl : start.locate p = .ok l)
    (hfound : start.found? l ≠ some .directory)
    (hencode : Utf8.encode c.scriptText = .ok octets) :
    (c.saveScript p).run t = (.ok (), start.set l (.file ⟨scriptMode, octets⟩)) := by
  rw [saveScript, FileAction.run_bind, hmade]
  dsimp only
  rw [FileAction.writeAfter, hencode]
  dsimp only
  rw [FileAction.run_runSteps_of_locate hl hfound]
  cases start.file? l <;> rfl

/-- Where a script was saved, its directory was made and its file opened, and it can be encoded. -/
theorem exists_made_of_run_saveScript
    {t' : FileTree}
    (h : (c.saveScript p).run t = (.ok (), t')) :
    ∃ start l octets, (makeDirectories p.parent).run t = (.ok (), start) ∧
      start.locate p = .ok l ∧ start.found? l ≠ some .directory ∧
      Utf8.encode c.scriptText = .ok octets := by
  rw [saveScript, FileAction.run_bind] at h
  cases hmade : (makeDirectories p.parent).run t with
  | mk result start =>
      rw [hmade] at h
      cases result with
      | error fault =>
          cases h
      | ok =>
          obtain ⟨l, octets, hl, hfound, hencode⟩ := FileAction.exists_locate_of_writeAfter h
          exact ⟨start, l, octets, rfl, hl, hfound, hencode⟩

/-- **No part of a script is ever in a file that is open to others.**  A tree is looked at when some
of the calls that save the script have been made and a part of its octets has arrived, whatever stood
there before and whatever permission bits creation leaves out.  Either all files are still what they
were.  Or the directory of the script has been made and its file opened, which is the only change
since then, and the file holds a beginning of the script.  It is closed to group and others when it
holds anything, and always if it is a new one.  A script that was saved is in its file whole, which
the owner may do everything with and nobody else anything.  Where the file can be opened and the
script can be encoded, saving does not fail, and at some moment any beginning of the script is what
has arrived. -/
theorem saveScript_neverExposes
    (c : Command)
    (p : Path)
    (t : FileTree) :
    (∀ done, Beginning done ((c.saveScript p).calls t) →
      (∀ l, (t.after done).file? l = t.file? l) ∨
      ∃ start l f, (makeDirectories p.parent).run t = (.ok (), start) ∧
        start.locate p = .ok l ∧ (t.after done).locate p = .ok l ∧
        t.after done = start.set l (.file f) ∧ (t.after done).file? l = some f ∧
        f.content <+: Utf8.encodeAll c.scriptText ∧
        (f.content ≠ [] ∨ start.found? l = none → f.IsClosed)) ∧
    (∀ t', (c.saveScript p).run t = (.ok (), t') → ∃ l octets,
      Utf8.encode c.scriptText = .ok octets ∧ t'.locate p = .ok l ∧
        t'.file? l = some ⟨0o700, octets⟩) ∧
    ∀ start l octets, (makeDirectories p.parent).run t = (.ok (), start) →
      start.locate p = .ok l → start.found? l ≠ some .directory →
      Utf8.encode c.scriptText = .ok octets →
        (c.saveScript p).run t = (.ok (), start.set l (.file ⟨0o700, octets⟩)) ∧
        ∀ arrived, arrived <+: octets →
          ∃ done, Beginning done ((c.saveScript p).calls t) ∧
            t.after done = start.set l (.file ⟨0o700, arrived⟩) := by
  refine ⟨?_, ?_, ?_⟩
  · intro done h
    rcases beginning_saveScript_cases h with
      hdirectories | ⟨start, l, more, hmade, hl, hfound, rfl, hmore⟩
    · exact Or.inl (FileTree.file?_after_directories hdirectories)
    · rw [FileTree.after_append, after_of_made hmade]
      rcases exists_file_at_moment hfound hmore with hsame | ⟨f, hset, hcontent, hclosed⟩
      · refine Or.inl fun l' => ?_
        rw [hsame, ← after_of_made hmade]
        exact FileTree.file?_after_directories
          (FileAction.onlyDirectories_makeDirectories p.parent t) l'
      · refine Or.inr ⟨start, l, f, hmade, hl, ?_, hset, ?_, hcontent, hclosed⟩
        · rw [hset]
          exact FileTree.locate_set hfound _ hl
        · rw [hset]
          exact FileTree.file?_set_file hfound f
  · intro t' h
    obtain ⟨start, l, octets, hmade, hl, hfound, hencode⟩ := exists_made_of_run_saveScript h
    rw [run_saveScript_of_made hmade hl hfound hencode, Prod.mk.injEq] at h
    obtain ⟨-, rfl⟩ := h
    exact ⟨l, octets, hencode, FileTree.locate_set hfound _ hl, FileTree.file?_set_file hfound _⟩
  · intro start l octets hmade hl hfound hencode
    refine ⟨run_saveScript_of_made hmade hl hfound hencode, ?_⟩
    intro arrived harrived
    obtain ⟨more, hmore, hafter⟩ :=
      (FileAction.passes_replacing_iff scriptMode scriptMode hfound).mpr
        (Or.inr (Or.inr (Or.inr ⟨octets, arrived, hencode, harrived, rfl⟩)))
    refine ⟨(makeDirectories p.parent).calls t ++ more, ?_, ?_⟩
    · rw [calls_saveScript_of_made hmade hl hfound]
      exact FileCall.beginning_append_iff.mpr (Or.inr ⟨more, rfl, hmore⟩)
    · rw [FileTree.after_append, after_of_made hmade]
      exact hafter

/-- A command with a URL only. -/
def plainCommand : Command :=
  ⟨"curl 'u'", "curl 'u'"⟩

/-- A tree with a file that everybody can read. -/
def readableFile : FileTree :=
  FileTree.ofTexts [("run", "old")]

/-- A file that was open to everybody is closed when the first octets of the script arrive. -/
theorem saveScript_neverExposes_readableFile :
    readableFile.file? ["run"] = some ⟨0o644, Utf8.encodeAll "old"⟩ ∧
      (plainCommand.saveScript (Path.ofText "run")).run readableFile =
        (.ok (), readableFile.set ["run"]
          (.file ⟨0o700, Utf8.encodeAll plainCommand.scriptText⟩)) ∧
      ∃ done, Beginning done ((plainCommand.saveScript (Path.ofText "run")).calls readableFile) ∧
        readableFile.after done =
          readableFile.set ["run"] (.file ⟨0o700, Utf8.encodeAll "#!/bin"⟩) ∧
        ∃ f, (readableFile.after done).file? ["run"] = some f ∧ f.content ≠ [] ∧ f.IsClosed := by
  have hl : readableFile.locate (Path.ofText "run") = .ok ["run"] := by
    decide +kernel
  have hold : readableFile.file? ["run"] = some ⟨0o644, Utf8.encodeAll "old"⟩ := by
    decide +kernel
  have hmade : (makeDirectories (Path.ofText "run").parent).run readableFile =
      (.ok (), readableFile) :=
    FileAction.run_makeDirectories_above (by decide) hl
  obtain ⟨hmoments, -, hsaves⟩ :=
    saveScript_neverExposes plainCommand (Path.ofText "run") readableFile
  obtain ⟨hrun, harrives⟩ := hsaves _ _ _ hmade hl (by decide +kernel)
    (Utf8.encode_eq_ok_iff.mpr ⟨by decide +kernel, rfl⟩)
  obtain ⟨done, hdone, hafter⟩ := harrives (Utf8.encodeAll "#!/bin") (by decide +kernel)
  have hfile : (readableFile.after done).file? ["run"] = some ⟨0o700, Utf8.encodeAll "#!/bin"⟩ := by
    rw [hafter]
    exact FileTree.file?_set_file (by decide +kernel) _
  refine ⟨hold, hrun, done, hdone, hafter, _, hfile, by decide +kernel, ?_⟩
  rcases hmoments done hdone with hsame | ⟨start, l, f, -, -, hl', -, hf, -, hclosed⟩
  · -- The file has changed by now.
    have hmode := hsame ["run"]
    rw [hfile, hold, Option.some.injEq, RegularFile.mk.injEq] at hmode
    exact absurd hmode.1 (by decide)
  · rw [hafter, FileTree.locate_set (by decide +kernel) _ hl, Except.ok.injEq] at hl'
    rw [← hl', hfile] at hf
    cases hf
    exact hclosed (Or.inl (by decide +kernel))

end Curl.Command

end CurlRequest
