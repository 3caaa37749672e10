import CurlRequest.Curl.Export
import CurlRequest.Proofs.Curl.Description
import CurlRequest.Proofs.Json.Layout

/-!
# The exported object is read again

The JSON text of a command is an object of strings over several lines.  Strings can always be
written, whatever their code points, and the reader gives the object back.  So an exported file has
the renderings of the command under their names, and the text without secrets is that of the masked
rendering alone.

**Results.**
* `Command.writable_toJson`: the object of a command can be written.
* `Command.toJson_jsonText`: its text is read to the object.
-/

namespace CurlRequest.Curl.Command

/-- The object of a command can be written, since its parts are strings. -/
theorem writable_toJson
    (includeFull : Bool)
    (c : Command) :
    Json.Writable (c.toJson includeFull) := by
  cases includeFull <;> constructor <;> simp [toJson]

/-- The object of a command has no arrays or objects in it. -/
theorem depth_toJson
    (includeFull : Bool)
    (c : Command) :
    (c.toJson includeFull).depth = 1 := by
  cases includeFull <;> rfl

/-- **The JSON text of a command** is read to its object. -/
theorem textToJson_jsonText
    (includeFull : Bool)
    (c : Command) :
    Description.textToJson (c.jsonText includeFull) = .ok (c.toJson includeFull) := by
  apply Description.textToJson_of_jsonText (Json.jsonText_pretty (c.writable_toJson includeFull))
  rw [depth_toJson]
  decide

/-- **What is exported** is read to an object with the renderings of the command, under their names
and in this order.  Without secrets it has the masked rendering only, and two commands have the same
text iff they have the same masked rendering. -/
theorem toJson_jsonText
    (c : Command) :
    (Description.text (c.jsonText true)).toJson =
        .ok (.obj [("full", .str c.full), ("masked", .str c.masked)]) ∧
      (Description.text (c.jsonText false)).toJson = .ok (.obj [("masked", .str c.masked)]) ∧
      ∀ c' : Command, c'.jsonText false = c.jsonText false ↔ c'.masked = c.masked := by
  refine ⟨textToJson_jsonText true c, textToJson_jsonText false c, fun c' => ?_⟩
  constructor
  · intro htext
    have hread := textToJson_jsonText false c'
    rw [htext, textToJson_jsonText false c] at hread
    simpa [toJson, eq_comm] using hread
  · intro hmasked
    rw [jsonText, jsonText, toJson, toJson, hmasked]
    rfl

/-- A command whose renderings have quotes, a line break behind a backslash, a control character and
lone surrogates, the first of which could be taken for half of a pair. -/
def awkward : Command where
  full := "'\\\n\x7f\"" ++ [CodePoint.ofNat 0xD83D, CodePoint.ofNat 0xDE00, CodePoint.ofNat 0x2028]
  masked := [CodePoint.ofNat 0, CodePoint.ofNat 0xDE00, CodePoint.ofNat 0xD83D]

example : Description.textToJson (awkward.jsonText true) = .ok (awkward.toJson true) := by
  cbv

end CurlRequest.Curl.Command
