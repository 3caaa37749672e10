import CurlRequest.CommandLine.Display
import CurlRequest.CommandLine.Session
import CurlRequest.Curl.Saving

/-!
# Converting a request on the command line

The command reads a request description, converts it, saves the command where asked to, and prints
it.  Nothing is saved or printed before the conversion has succeeded.  Secrets are masked unless the
command line or the settings ask for the full command; a script always holds the full one.

**Contents.**
* `Conversion`, `Conversion.parse`: what the arguments ask for.
* `Conversion.command`: reading and converting.
* `Conversion.deliver`: saving and printing.
-/

namespace CurlRequest.CommandLine

/-- The options of a conversion. -/
inductive ConversionOption
  | json
  | flag (f : Curl.Flag)
  | full
  | format
  | pretty
  | output
  | script
  | logLevel
  | help
  deriving DecidableEq, Repr

/-- The options of a conversion with their names. -/
def conversionOptions : List (OptionSpec ConversionOption) := [
  ⟨.json, ["--json"], true⟩,
  ⟨.flag .verbose, ["--verbose", "-v"], false⟩,
  ⟨.flag .insecure, ["--insecure", "-k"], false⟩,
  ⟨.flag .includeHeaders, ["--include-headers", "-i"], false⟩,
  ⟨.flag .silent, ["--silent", "-s"], false⟩,
  ⟨.flag .followRedirects, ["--follow-redirects", "-L"], false⟩,
  ⟨.full, ["--full"], false⟩,
  ⟨.format, ["--format", "-f"], true⟩,
  ⟨.pretty, ["--pretty"], false⟩,
  ⟨.output, ["--output", "-o"], true⟩,
  ⟨.script, ["--script"], true⟩,
  ⟨.logLevel, ["--log-level"], true⟩,
  ⟨.help, ["--help"], false⟩]

/-- What the arguments of a conversion ask for. -/
structure Conversion where
  source : Option Path
  inline : Option Text
  flags : Curl.Flags
  full : Bool
  format : Option Text
  pretty : Bool
  output : Option Path
  script : Option Path
  logLevel : Option Text

/-- The importance that a level of any spelling in use stands for. -/
def severityOf? (level : Text) : Option Nat :=
  let levels : List (Text × Nat) := [
    ("CRITICAL", 50), ("FATAL", 50), ("ERROR", 40), ("WARN", 30), ("WARNING", 30), ("INFO", 20),
    ("DEBUG", 10), ("NOTSET", 0)]
  levels.lookup level

/-- A text that is given and not empty, or else another one. -/
def givenOr (t : Option Text) (other : Text) : Text :=
  match t with
  | some t => if t.isEmpty then other else t
  | none => other

namespace Conversion

/-- What arguments ask for. -/
def ofArguments (a : Arguments ConversionOption) : Conversion where
  source := a.others.head?.map Path.ofText
  inline := a.value? .json
  flags := Curl.Flags.ofTest fun f => a.has (.flag f)
  full := a.has .full
  format := a.value? .format
  pretty := a.has .pretty
  output := (a.value? .output).map Path.ofText
  script := (a.value? .script).map Path.ofText
  logLevel := a.value? .logLevel

/-- The paths that a conversion names. -/
def paths (c : Conversion) : List Path :=
  c.source.toList ++ c.output.toList ++ c.script.toList

/-- What arguments ask for; nothing, if they ask for help.  A path that no file can have ends the
run, and only then it counts how many arguments there are. -/
def parse (arguments : List Text) : Program (Option Conversion) := do
  let a ← Program.accept (parseArguments conversionOptions true arguments)
  if a.has .help then pure none
  else
    let c := ofArguments a
    if c.paths.any Path.holdsNul then Program.crash (.file .nulInPath)
    else do
      let _ ← Program.accept (limitOthers 1 a)
      pure (some c)

/-- Sets which log records are kept. -/
def chooseThreshold (c : Conversion) (settings : Settings) : Program Unit :=
  let level := Text.upper (givenOr c.logLevel settings.logLevel.name)
  match severityOf? level with
  | some severity => modify fun s => { s with threshold := severity }
  | none => Program.crash (.unknownLevel level)

/-- The form in which the command is printed. -/
def chooseFormat (c : Conversion) (settings : Settings) : Program OutputFormat :=
  match OutputFormat.ofName? (Text.lower (givenOr c.format settings.outputFormat.name)) with
  | some format => pure format
  | none => Program.refuse .badFormat

/-- Whether the command is shown with its secrets. -/
def showsFull (c : Conversion) (settings : Settings) : Bool :=
  c.full || settings.showFull

/-- The standard input as text. -/
def readStandardInput (context : Context) : Program Text :=
  Program.onFilesOrCrash (FileAction.decodeText context.standardInput)

/-- The text of the request description. -/
def readInput (context : Context) (c : Conversion) : Program Text :=
  match c.inline, c.source with
  | some t, _ => pure t
  | none, none => readStandardInput context
  | none, some p =>
      if p.toText = Text.ofString "-" then readStandardInput context
      else
        Program.onFiles (FileAction.readText p) fun fault =>
          Program.exitOnPathFault context.console "[red]Cannot read input:[/red] " fault

/-- The request that a description describes; a fault is shown in a panel. -/
def readRequest (columns : Nat) (description : Text) : Program Curl.Request := do
  match Curl.Request.ofDescription (.text description) with
  | .ok r => do
      Program.log .debug "core.services.request_validator"
        ("Validated request: method=" ++ r.method ++ " headers=" ++ Text.ofNat r.headers.length ++
          " body=" ++ Settings.truthText r.hasBody)
      pure r
  | .error (.request fault) => do
      Program.log .debug "cli.main" ("Validation failed: " ++ fault.kind)
      Program.display .error ((Display.faultPanel fault).render columns)
      throw (.exit 1)
  | .error fault => Program.crash (.convert fault)

/-- The command for a request. -/
def buildCommand (r : Curl.Request) (flags : Curl.Flags) : Program Curl.Command :=
  match r.parts flags with
  | .ok parts => do
      let redacted := parts.countP fun part => part.redacted.isSome
      Program.log .debug "core.services.command_builder"
        ("Built curl command: " ++ Text.ofNat parts.length ++ " parts, " ++ Text.ofNat redacted ++
          " redacted")
      pure (Curl.Command.ofParts parts)
  | .error fault => Program.crash (.convert (.unwritable fault))

/-- Reads the request description and converts it. -/
def command (context : Context) (settings : Settings) (c : Conversion) : Program Curl.Command := do
  let description ← c.readInput context
  let request ← readRequest context.console.columns description
  buildCommand request (settings.defaultFlags.union c.flags)

/-- Saves a command where the conversion asks for it. -/
def save (console : Terminal.Console) (c : Conversion) (showFull : Bool) (command : Curl.Command) :
    Program Unit := do
  match c.output with
  | some p => saveAs (command.saveJson showFull p) "[green]Saved JSON to:[/green] " p
  | none => pure ()
  match c.script with
  | some p => saveAs (command.saveScript p) "[green]Saved script to:[/green] " p
  | none => pure ()
where
  saveAs (action : FileAction Unit) (message : Text) (p : Path) : Program Unit := do
    Program.onFiles action fun fault =>
      Program.exitOnPathFault console "[red]Export failed:[/red] " fault
    Program.say console .error (message ++ p.toText)

/-- Prints a command. -/
def print (columns : Nat) (c : Conversion) (format : OutputFormat) (showFull : Bool)
    (command : Curl.Command) : Program Unit :=
  match format with
  | .json => Program.echo (command.jsonText showFull)
  | .text => do
      let shown := if showFull then command.full else command.masked
      if c.pretty then
        Program.display .output (Display.banner columns)
        Program.display .output ((Display.commandPanel (!showFull) shown).renderCode columns)
      else Program.echo (shown ++ "\n")

/-- Saves and prints a command. -/
def deliver (console : Terminal.Console) (c : Conversion) (format : OutputFormat) (showFull : Bool)
    (command : Curl.Command) : Program Unit := do
  c.save console showFull command
  c.print console.columns format showFull command

/-- Does what the arguments ask for. -/
def run (context : Context) (c : Conversion) : Program Unit := do
  let settings ← Program.settings context
  c.chooseThreshold settings
  let format ← c.chooseFormat settings
  let command ← c.command context settings
  c.deliver context.console format (c.showsFull settings) command

end Conversion

end CurlRequest.CommandLine
