import CurlRequest.Curl.Saving
import CurlRequest.Proofs.Curl.Encodable
import CurlRequest.Proofs.File.Replacing

/-!
# Saving a command over a file

A command is saved by opening the file, which empties it, and writing its text then.  Where the
text holds a surrogate nothing can be written, and what the file held before is lost.  Surrogates
come from JSON escapes in the description and are found in the method, in the headers and in the
body.  One in the part of a secret that is masked does not matter unless the secrets are saved too.

**Results.**
* `save_replaces`: what becomes of the file, for both written forms, and when saving fails.
* `save_loses_old_text`: a failed saving does not leave the file as it was.
-/

namespace CurlRequest.Curl

open FileAction (Replaces)

namespace Command

/-- A command that is made of a description is that of its request. -/
theorem exists_request_of_ofDescription
    {d : Description}
    {flags : Flags}
    {c : Command}
    (h : ofDescription d flags = .ok c) :
    ∃ r, Request.ofDescription d = .ok r ∧ ofRequest r flags = .ok c := by
  unfold ofDescription at h
  cases hrequest : Request.ofDescription d with
  | error fault =>
      rw [hrequest] at h
      cases h
  | ok r =>
      rw [hrequest] at h
      refine ⟨r, rfl, ?_⟩
      have hmade : (ofRequest r flags).mapError ConvertFault.unwritable = .ok c := h
      cases hcommand : ofRequest r flags with
      | error fault =>
          rw [hcommand] at hmade
          cases hmade
      | ok c' =>
          rw [hcommand] at hmade
          cases hmade
          rfl

/-- The body of a request that has a command has a text. -/
theorem exists_bodyText_of_ofRequest
    {r : Request}
    {flags : Flags}
    {c : Command}
    (h : ofRequest r flags = .ok c) :
    ∃ bodyText, r.body.toText = .ok bodyText := by
  rw [ofRequest_eq] at h
  cases hbody : r.body.toText with
  | error fault =>
      rw [hbody] at h
      cases h
  | ok bodyText =>
      exact ⟨bodyText, rfl⟩

section Saving

variable {t : FileTree} {p : Path} {l : Location} {f : RegularFile}

/-- The JSON form replaces a file that is there, whose mode is kept. -/
theorem replaces_saveJson
    (includeFull : Bool)
    (c : Command)
    (hworking : t.found? t.workingDirectory = some .directory)
    (hl : t.locate p = .ok l)
    (hfound : t.found? l = some (.file f)) :
    Replaces (c.saveJson includeFull p) t l f.mode (c.jsonText includeFull) :=
  FileAction.replaces_makeDirectories_writeAfter hworking hl hfound rfl _

/-- The script replaces a file that is there, which is closed to others first. -/
theorem replaces_saveScript
    (c : Command)
    (hworking : t.found? t.workingDirectory = some .directory)
    (hl : t.locate p = .ok l)
    (hfound : t.found? l = some (.file f)) :
    Replaces (c.saveScript p) t l scriptMode c.scriptText :=
  FileAction.replaces_makeDirectories_writeAfter hworking hl hfound rfl _

/-- **Saving a command over a file.**  The text is written where it holds no surrogate.  Otherwise
saving fails and leaves an empty file, which has its old mode if JSON was to be saved and that of a
script if a script was.  No other entry of the tree is changed.  The text holds a surrogate iff one
is in what it shows of the request: in the method, in a header line or in a body that is sent. -/
theorem save_replaces
    {d : Description}
    {flags : Flags}
    {c : Command}
    (hc : ofDescription d flags = .ok c)
    (hworking : t.found? t.workingDirectory = some .directory)
    (hl : t.locate p = .ok l)
    (hfound : t.found? l = some (.file f)) :
    ∃ r bodyText,
      Request.ofDescription d = .ok r ∧ r.body.toText = .ok bodyText ∧
        ofRequest r flags = .ok c ∧
        (∀ includeFull,
          Replaces (c.saveJson includeFull p) t l f.mode (c.jsonText includeFull) ∧
            (c.jsonText includeFull).hasSurrogate =
              r.hasSurrogate (if includeFull then Header.line else Header.shownLine) bodyText) ∧
        Replaces (c.saveScript p) t l scriptMode c.scriptText ∧
          c.scriptText.hasSurrogate = r.hasSurrogate Header.line bodyText := by
  obtain ⟨r, hr, hcommand⟩ := exists_request_of_ofDescription hc
  obtain ⟨bodyText, hbody⟩ := exists_bodyText_of_ofRequest hcommand
  obtain ⟨hjson, hscript⟩ :=
    hasSurrogate_of_ofRequest (Request.hasSurrogate_url hr) hbody hcommand
  refine ⟨r, bodyText, hr, hbody, hcommand, ?_, ?_, hscript⟩
  · intro includeFull
    exact ⟨replaces_saveJson includeFull c hworking hl hfound, hjson includeFull⟩
  · exact replaces_saveScript c hworking hl hfound

end Saving

/-- A description with a secret of 21 code points, the one that the mask hides being a surrogate. -/
def hiddenSurrogate : Description :=
  .text "\x7b\"url\":\"u\",\"headers\":\x7b\"X-Token\":\"0123456789\\ud8000123456789\"\x7d\x7d"

/-- Its command: the surrogate is in the full rendering only. -/
def hiddenSurrogateCommand : Command where
  full :=
    "curl \\\n  -H 'X-Token: 0123456789" ++ [CodePoint.ofNat 0xD800] ++ "0123456789' \\\n  'u'"
  masked := "curl \\\n  -H 'X-Token: 0123456789••••••••••••••••6789' \\\n  'u'"

/-- A directory with one file in it. -/
def oneFile : FileTree :=
  FileTree.ofTexts [("d/saved", "old")]

/-- Without its secrets the command is saved; the script is not, and the file is emptied. -/
theorem save_replaces_hiddenSurrogate :
    ofDescription hiddenSurrogate Flags.none = .ok hiddenSurrogateCommand ∧
      (hiddenSurrogateCommand.saveJson false (Path.ofText "d/saved")).run oneFile =
        (.ok (), oneFile.set ["d", "saved"]
          (.file ⟨0o644, Utf8.encodeAll (hiddenSurrogateCommand.jsonText false)⟩)) ∧
      ∃ fault,
        (hiddenSurrogateCommand.saveScript (Path.ofText "d/saved")).run oneFile =
          (.error (.unencodable fault), oneFile.set ["d", "saved"] (.file ⟨0o700, []⟩)) := by
  have hc : ofDescription hiddenSurrogate Flags.none = .ok hiddenSurrogateCommand := by
    decide +kernel
  have hl : oneFile.locate (Path.ofText "d/saved") = .ok ["d", "saved"] := by
    decide +kernel
  have hfound :
      oneFile.found? ["d", "saved"] = some (.file ⟨0o644, Utf8.encodeAll "old"⟩) := by
    decide +kernel
  obtain ⟨r, bodyText, -, -, -, hjson, hscript, -⟩ := save_replaces hc rfl hl hfound
  refine ⟨hc, ?_, ?_⟩
  · exact (hjson false).1.written (by decide +kernel)
  · obtain ⟨fault, -, hrun⟩ := hscript.emptied (by decide +kernel)
    exact ⟨fault, hrun⟩

/-- A description whose method is one surrogate. -/
def surrogateMethod : Description :=
  .text "\x7b\"url\":\"u\",\"method\":\"\\ud800\"\x7d"

/-- Its command, the same with secrets and without. -/
def surrogateMethodCommand : Command :=
  let text : Text := "curl \\\n  -X '" ++ [CodePoint.ofNat 0xD800] ++ "' \\\n  'u'"
  ⟨text, text⟩

/-- **A failed saving loses what the file held.**  A command that is made of a description is saved
over a file with a text.  Saving fails, and the file is empty afterwards. -/
theorem save_loses_old_text :
    ofDescription surrogateMethod Flags.none = .ok surrogateMethodCommand ∧
      oneFile.locate (Path.ofText "d/saved") = .ok ["d", "saved"] ∧
      oneFile.found? ["d", "saved"] = some (.file ⟨0o644, Utf8.encodeAll "old"⟩) ∧
      ∀ save ∈ [surrogateMethodCommand.saveJson false, surrogateMethodCommand.saveJson true,
          surrogateMethodCommand.saveScript],
        ∃ fault t' mode, (save (Path.ofText "d/saved")).run oneFile = (.error fault, t') ∧
          t'.found? ["d", "saved"] = some (.file ⟨mode, []⟩) := by
  have hl : oneFile.locate (Path.ofText "d/saved") = .ok ["d", "saved"] := by
    decide +kernel
  have hfound :
      oneFile.found? ["d", "saved"] = some (.file ⟨0o644, Utf8.encodeAll "old"⟩) := by
    decide +kernel
  refine ⟨by decide +kernel, hl, hfound, ?_⟩
  simp only [List.forall_mem_cons, List.not_mem_nil, false_imp_iff, implies_true, and_true]
  refine ⟨?_, ?_, ?_⟩
  · exact (replaces_saveJson false _ rfl hl hfound).exists_emptied (by decide)
      (by decide +kernel)
  · exact (replaces_saveJson true _ rfl hl hfound).exists_emptied (by decide)
      (by decide +kernel)
  · exact (replaces_saveScript _ rfl hl hfound).exists_emptied (by decide)
      (by decide +kernel)

end Command

end CurlRequest.Curl
