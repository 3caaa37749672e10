import CurlRequest.Curl.Flag
import CurlRequest.Settings
import CurlRequest.Curl.RequestFault
import CurlRequest.Terminal.Box

/-!
# What the program shows

The panels, tables and the banner of the program, as values and not yet as lines of a terminal.
-/

namespace CurlRequest.CommandLine.Display

open Terminal (Panel Table Column)

/-- The panel around a command. -/
def commandPanel (masked : Bool) (command : Text) : Panel where
  title := if masked then "cURL (masked)" else "cURL (full, contains secrets)"
  titleStyle := []
  borderStyle := if masked then "green" else "red"
  body := command

/-- The line that names the field of a fault. -/
def fieldLine (fault : Curl.RequestFault) : Text :=
  match fault.field? with
  | some field => "\nField: " ++ field
  | none => []

/-- The panel around a fault of a request. -/
def faultPanel (fault : Curl.RequestFault) : Panel where
  title := fault.kind
  titleStyle := "bold red"
  borderStyle := "red"
  body := fault.message ++ fieldLine fault

/-- The parts of a fault panel that are shown dimly, by where they start and end. -/
def dimSpans (fault : Curl.RequestFault) : List (Nat × Nat) :=
  match fault.field? with
  | some _ =>
      let start := fault.message.length
      [(start, start + (fieldLine fault).length)]
  | none => []

/-- The flags of a command. -/
def flagTable : Table where
  title := "cURL Options"
  columns := [
    ⟨"Option", "cyan", true, Curl.Flag.all.map Curl.Flag.name⟩,
    ⟨"Flag", "bright_green", false, Curl.Flag.all.map Curl.Flag.token⟩,
    ⟨"Description", "dim", false, Curl.Flag.all.map Curl.Flag.label⟩]

/-- How an example is used. -/
def exampleUsage (name : Text) : Text :=
  "json2curl examples " ++ name ++ " | json2curl convert -"

/-- Example requests. -/
def exampleTable (names : List Text) : Table where
  title := "Example requests"
  columns := [
    ⟨"Name", "cyan", true, names⟩,
    ⟨"Usage", "dim", false, names.map exampleUsage⟩]

/-- The settings that are in force. -/
def settingsTable (s : Settings) : Table where
  title := "json2curl settings"
  columns := [
    ⟨"Setting", "bright_green", true, s.rows.map Prod.fst⟩,
    ⟨"Value", "white", false, s.rows.map Prod.snd⟩]

/-- The name of the program and what it does. -/
def bannerText : Text :=
  "json2curl\nJSON request → shell-safe cURL • masked secrets"

/-- The banner: a box with an empty line at either end, and the text as a block in the middle, if
there is room for any of it. -/
def banner (columns : Nat) : Text :=
  let inner := columns - 10
  let block := if inner = 0 then [] else Terminal.wrap inner bannerText
  let taken := (block.map Terminal.width).foldl max 0
  let indent := Terminal.blanks (4 + (inner - taken) / 2)
  Terminal.box columns none ([[]] ++ block.map (indent ++ ·) ++ [[]])

end CurlRequest.CommandLine.Display
