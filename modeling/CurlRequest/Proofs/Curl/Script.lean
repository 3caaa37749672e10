import CurlRequest.Curl.Export
import CurlRequest.Proofs.Curl.Rendering
import CurlRequest.Proofs.Shell.Script

/-!
# The script of a command

The script that runs a command is a comment line and the command's full text.  The data of a request
stands next to the newlines that end lines and commands, and may hold newlines, number signs, quotes
and backslashes itself; all of it is inside quotes, so the script has one command, that of the
request, which ends with the last newline of the script.

**Results.**
* `isScript_scriptText`: the script of a request is a script of one command, with the words of the
  request.
-/

namespace CurlRequest.Curl

/-- The first line of a script. -/
def scriptHead : Text := "#!/bin/sh"

/-- The lines of a script. -/
theorem Command.scriptText_eq
    (c : Command) :
    c.scriptText = scriptHead ++ "\n" ++ c.full ++ "\n" :=
  rfl

/-- **The script of a request is one command.**  It is a comment line and a simple command, each
ended by a newline.  The words of the command are the words of the request, as they are in the full
text of the command by itself.  At no point inside it has a command ended or a comment begun. -/
theorem isScript_scriptText
    (r : Request)
    (flags : Flags)
    (bodyText : Text)
    (hbody : r.body.toText = .ok bodyText) :
    ∃ c, Command.ofRequest r flags = .ok c ∧
      c.scriptText = scriptHead ++ "\n" ++ c.full ++ "\n" ∧
      Shell.IsScript scriptHead c.full (r.words flags Header.line bodyText) ∧
      Shell.commands? c.scriptText = some [r.words flags Header.line bodyText] ∧
      Shell.commands? c.full = some [r.words flags Header.line bodyText] := by
  have hread := readsAs_render_partsWith false r flags bodyText
  have hne : r.words flags Header.line bodyText ≠ [] := by
    simp [Request.words]
  have hframe : ∀ x ∈ r.frame flags, x ≠ ('#' : Char) := fun x hx =>
    (inactive_of_mem_frame r flags x hx).2
  have hline : ∀ x ∈ Text.ofString "!/bin/sh", x ≠ ('\n' : Char) := by
    decide
  have hscript :
      Shell.IsScript scriptHead (Command.ofParts (r.partsWith flags bodyText)).full
        (r.words flags Header.line bodyText) :=
    hread.isScript hne hframe hline
  refine ⟨Command.ofParts (r.partsWith flags bodyText), ?_, ?_, hscript, ?_, ?_⟩
  · rw [ofRequest_eq_map_ofParts, hbody]
    rfl
  · exact Command.scriptText_eq _
  · rw [Command.scriptText_eq]
    exact hscript.commands?_eq
  · exact hread.commands?_eq hne

/-- A request whose values hold newlines, number signs and quotes, and end in backslashes. -/
theorem isScript_scriptText_backslashAtEnd :
    (Json.str "'\n#\n'\\").toText = .ok "'\n#\n'\\" ∧
      ∃ c,
        Command.ofRequest
            ⟨"# u\nexit 1\n\\", "A\n'B", [⟨"X", "\n\"'; exit #\\"⟩], .str "'\n#\n'\\"⟩
            ⟨false, true, false, false, false⟩ = .ok c ∧
          Shell.commands? c.scriptText =
            some [[↑"curl", ↑"-k", ↑"-X", ↑"A\n'B", ↑"-H", ↑"X: \n\"'; exit #\\",
              ↑"-d", ↑"'\n#\n'\\", ↑"# u\nexit 1\n\\"]] := by
  have hbody : (Json.str "'\n#\n'\\").toText = .ok "'\n#\n'\\" := rfl
  obtain ⟨c, hc, -, -, hscript, -⟩ :=
    isScript_scriptText
      ⟨"# u\nexit 1\n\\", "A\n'B", [⟨"X", "\n\"'; exit #\\"⟩], .str "'\n#\n'\\"⟩
      ⟨false, true, false, false, false⟩ "'\n#\n'\\" hbody
  refine ⟨hbody, c, hc, ?_⟩
  rw [hscript]
  decide +kernel

end CurlRequest.Curl
