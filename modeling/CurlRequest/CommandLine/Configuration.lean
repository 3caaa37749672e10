import CurlRequest.CommandLine.Display
import CurlRequest.CommandLine.Session
import CurlRequest.Settings.UserFile

/-!
# Settings on the command line

One command shows the settings that are in force, and one stores defaults in the user's file.

**Contents.**
* `showSettings`: the tables of settings and of flags.
* `Defaults`, `Defaults.parse`: what the arguments ask to be stored.
* `Defaults.store`: storing it.
-/

namespace CurlRequest.CommandLine

/-- Shows the settings and the flags. -/
def showSettings (context : Context) : Program Unit := do
  let settings ← Program.settings context
  Program.display .output (Display.settingsTable settings).render
  Program.display .output Display.flagTable.render

/-- The options for storing defaults. -/
inductive DefaultsOption
  | flag
  | showFull
  | help
  deriving DecidableEq, Repr

/-- The options for storing defaults with their names. -/
def defaultsOptions : List (OptionSpec DefaultsOption) := [
  ⟨.flag, ["--option", "-o"], true⟩, ⟨.showFull, ["--show-full"], false⟩,
  ⟨.help, ["--help"], false⟩]

/-- Defaults that are to be stored: names of flags, and whether full commands are shown. -/
structure Defaults where
  names : List Text
  showFull : Bool
  deriving DecidableEq, Repr

namespace Defaults

/-- What arguments ask to be stored; nothing, if they ask for help. -/
def parse (arguments : List Text) : Except UsageFault (Option Defaults) := do
  let a ← parseArguments defaultsOptions true arguments
  if a.has .help then pure none
  else do
    let _ ← limitOthers 0 a
    pure (some ⟨a.values .flag, a.has .showFull⟩)

/-- The names that no flag has. -/
def unknownNames (d : Defaults) : List Text :=
  d.names.filter fun name => (Curl.Flag.ofAnyName? name).isNone

/-- A boolean as the file holds it. -/
def truthWord (b : Bool) : Text :=
  if b then "true" else "false"

/-- The variables that are stored: one for each flag, also for those that are off, and one for full
commands. -/
def assignments (d : Defaults) : Dictionary (Option Text) :=
  let flags := Curl.Flags.ofNames d.names
  let assign (s : Settings.Setting) (b : Bool) : Text × Option Text :=
    (s.variable, some (truthWord b))
  Curl.Flag.all.map (fun f => assign (.flag f) (flags.isSet f)) ++ [assign .showFull d.showFull]

/-- Stores defaults in the user's file. -/
def store (context : Context) (d : Defaults) : Program Unit := do
  if !d.unknownNames.isEmpty then
    Program.say context.console .output
      ("[yellow]Ignoring unknown option(s):[/yellow] " ++ Text.join ", " d.unknownNames)
  let path := Settings.userFile context.platform context.environment
  Program.onFilesOrCrash (UserFile.update d.assignments path)
  Program.say context.console .output ("[green]Saved defaults to:[/green] " ++ path.toText)

end Defaults

end CurlRequest.CommandLine
