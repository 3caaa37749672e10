import CurlRequest.CommandLine.Configuration
import CurlRequest.CommandLine.Conversion
import CurlRequest.CommandLine.Examples

/-!
# The command line

The first argument that is no option names a command, and for `config` the next one names a
subcommand.  The rest belongs to the command.

**Contents.**
* `select`, `Command`, `ConfigCommand`: commands by name.
* `program`: the whole run.
* `Outcome`, `run`: what a run leaves behind.
* `usedPaths`, `usesStandardInput`: what a run looks at, so that no more need be read beforehand.
-/

namespace CurlRequest.CommandLine

/-- What arguments in front of a command lead to. -/
inductive Selection (α : Type)
  | usage
  | command (c : α) (arguments : List Text)

/-- The command that arguments name. -/
def select {α : Type} (commands : List (Text × α)) (arguments : List Text) :
    Except UsageFault (Selection α) := do
  let a ← parseArguments helpOptions false arguments
  if a.has .help then pure .usage
  else
    match a.others with
    | [] => throw .commandMissing
    | name :: rest =>
        match commands.lookup name with
        | some c => pure (.command c rest)
        | none => do
            let b ← parseArguments helpOptions false (name :: rest)
            if b.has .help then pure .usage else throw (.noSuchCommand name)

/-- The commands. -/
inductive Command
  | convert
  | examples
  | config
  deriving DecidableEq, Repr

/-- The commands by name. -/
def Command.byName : List (Text × Command) := [
  ("convert", .convert), ("examples", .examples), ("config", .config)]

/-- The commands on settings. -/
inductive ConfigCommand
  | showSettings
  | setDefaults
  deriving DecidableEq, Repr

/-- The commands on settings by name. -/
def ConfigCommand.byName : List (Text × ConfigCommand) := [
  ("show", .showSettings), ("set-defaults", .setDefaults)]

/-- Prints how a command is used. -/
def showUsage (command arguments : Text) : Program Unit :=
  Program.display .output ("Usage: json2curl " ++ command ++ " [OPTIONS]" ++ arguments ++ "\n")

/-- Prints how commands are named. -/
def showCommands {α : Type} (group : Text) (commands : List (Text × α)) : Program Unit :=
  Program.display .output
    (Terminal.unlines
      (("Usage: json2curl" ++ group ++ " [OPTIONS] COMMAND [ARGS]...") :: Text.ofString "" ::
        commands.map fun command => "  " ++ command.1))

/-- Prints how commands are named, because none is. -/
def missCommand {α : Type} (group : Text) (commands : List (Text × α)) : Program Unit := do
  showCommands group commands
  throw (.exit 2)

/-- Runs a command on settings. -/
def configProgram (context : Context) (arguments : List Text) : Program Unit := do
  if arguments.isEmpty then missCommand " config" ConfigCommand.byName
  else
    match ← Program.accept (select ConfigCommand.byName arguments) with
    | .usage => showCommands " config" ConfigCommand.byName
    | .command .showSettings rest => do
        let a ← Program.accept (parseArguments helpOptions true rest)
        if a.has .help then showUsage "config show" ""
        else do
          let _ ← Program.accept (limitOthers 0 a)
          showSettings context
    | .command .setDefaults rest => do
        match ← Program.accept (Defaults.parse rest) with
        | some d => d.store context
        | none => showUsage "config set-defaults" ""

/-- Runs what arguments ask for. -/
def program (context : Context) (arguments : List Text) : Program Unit := do
  if arguments.isEmpty then missCommand "" Command.byName
  else
    match ← Program.accept (select Command.byName arguments) with
    | .usage => showCommands "" Command.byName
    | .command .convert rest => do
        match ← Conversion.parse rest with
        | some c => c.run context
        | none => showUsage "convert" " [SOURCE]"
    | .command .examples rest => do
        match ← Program.accept (ExampleQuery.parse rest) with
        | some query => query.run context.console
        | none => showUsage "examples" " [NAME]"
    | .command .config rest => configProgram context rest

/-- What a run leaves behind. -/
structure Outcome where
  stop : Stop
  session : Session

/-- The exit code of an ending. -/
def Stop.exitCode : Stop → Nat
  | .exit code => code
  | .usage _ => 2
  | .crash _ => 1

/-- A run that has done nothing yet. -/
def Session.start (files : FileTree) : Session where
  standardOutput := []
  standardError := []
  log := []
  threshold := LogLevel.warning.severity
  files := files

/-- What the handler around a run prints about its end. -/
def Handler.report (handler : Handler) : Stop → Text
  | .exit _ => []
  | .usage fault => handler.refusal fault
  | .crash fault => handler.traceback fault

/-- How a run has ended, and the session that is left behind it, with what the handler says. -/
def Handler.close (handler : Handler) (stop : Stop) (s : Session) : Outcome where
  stop := stop
  session := { s with standardError := s.standardError ++ handler.report stop }

/-- Runs what arguments ask for on a tree of files. -/
def run (context : Context) (files : FileTree) (arguments : List Text) : Outcome :=
  match (program context arguments).run (Session.start files) with
  | (.ok _, session) => context.handler.close (.exit 0) session
  | (.error stop, session) => context.handler.close stop session

/-- The conversion that arguments ask for, if they ask for one. -/
def conversion? (arguments : List Text) : Option Conversion :=
  match select Command.byName arguments with
  | .ok (.command .convert rest) =>
      match parseArguments conversionOptions true rest with
      | .ok a => some (Conversion.ofArguments a)
      | .error _ => none
  | _ => none

/-- The paths that a run can look at. -/
def usedPaths (context : Context) (arguments : List Text) : List Path :=
  [Settings.projectFile, context.userFile,
    Settings.userFile context.platform context.environment] ++
    ((conversion? arguments).map Conversion.paths).getD []

/-- Whether a run reads its standard input. -/
def usesStandardInput (arguments : List Text) : Bool :=
  match conversion? arguments with
  | some c => c.inline.isNone && (c.source.all fun p => p.toText = Text.ofString "-")
  | none => false

end CurlRequest.CommandLine
