import CurlRequest.Curl.Flag
import CurlRequest.File.Tree
import CurlRequest.Settings.Directory
import CurlRequest.Settings.EnvFile
import CurlRequest.Text.Case

/-!
# Settings

Eight settings say what the program does when the command line does not.  A setting takes the first
value that is given for it: by the caller, by a variable of the environment, by the user's file, by
the file of the project, or else its default.  Letter case does not count in the names of variables.

**Contents.**
* `Settings`, `Setting`: the settings and their names.
* `Settings.check`: settings from loosely typed values, all faults being reported.
* `Settings.ofSources`: settings from all sources.
* `Settings.readSources`: what the sources other than the caller say.
-/

namespace CurlRequest

/-- The form of a printed command. -/
inductive OutputFormat
  | text
  | json
  deriving DecidableEq, Repr

/-- The name of a format. -/
def OutputFormat.name : OutputFormat → Text
  | .text => "text"
  | .json => "json"

/-- The format with a name. -/
def OutputFormat.ofName? (name : Text) : Option OutputFormat :=
  [OutputFormat.text, .json].find? fun f => f.name = name

/-- How important a log record must be. -/
inductive LogLevel
  | debug
  | info
  | warning
  | error
  | critical
  deriving DecidableEq, Repr

/-- The name of a level. -/
def LogLevel.name : LogLevel → Text
  | .debug => "DEBUG"
  | .info => "INFO"
  | .warning => "WARNING"
  | .error => "ERROR"
  | .critical => "CRITICAL"

/-- The level with a name. -/
def LogLevel.ofName? (name : Text) : Option LogLevel :=
  [LogLevel.debug, .info, .warning, .error, .critical].find? fun l => l.name = name

/-- How important the records of a level are. -/
def LogLevel.severity : LogLevel → Nat
  | .debug => 10
  | .info => 20
  | .warning => 30
  | .error => 40
  | .critical => 50

/-- The settings. -/
structure Settings where
  defaultFlags : Curl.Flags
  showFull : Bool
  outputFormat : OutputFormat
  logLevel : LogLevel
  deriving DecidableEq, Repr

namespace Settings

/-- A setting by itself. -/
inductive Setting
  | flag (f : Curl.Flag)
  | showFull
  | outputFormat
  | logLevel
  deriving DecidableEq, Repr

/-- The settings in order. -/
def Setting.all : List Setting :=
  Curl.Flag.all.map Setting.flag ++ [.showFull, .outputFormat, .logLevel]

/-- The name of a setting. -/
def Setting.name : Setting → Text
  | .flag f => "default_" ++ f.fieldName
  | .showFull => "show_full"
  | .outputFormat => "output_format"
  | .logLevel => "log_level"

/-- What the variables of the program begin with. -/
def variableStart : Text := "JSON2CURL_"

/-- The name of the variable for a setting. -/
def Setting.variable (s : Setting) : Text :=
  variableStart ++ s.name.upper

/-- The value of a setting for which none is given. -/
def Setting.default : Setting → Json
  | .flag _ => .bool false
  | .showFull => .bool false
  | .outputFormat => .str "text"
  | .logLevel => .str "WARNING"

/-- A format by its exact name. -/
def checkFormat (place : List Field.Step) : Json → Field.Checked OutputFormat
  | .str name =>
      match OutputFormat.ofName? name with
      | some format => .ok format
      | none => Field.fail place .notChoice
  | _ => Field.fail place .notChoice

/-- A level by its name, letter case and outer blanks aside. -/
def checkLevel (place : List Field.Step) : Json → Field.Checked LogLevel
  | .str name =>
      match LogLevel.ofName? (Text.trim name).upper with
      | some level => .ok level
      | none => Field.fail place (.unknownLevel name)
  | _ => Field.fail place .notText

/-- The place of a setting in a report. -/
def Setting.place (s : Setting) : List Field.Step := [.name s.name]

/-- Settings from the value of each. -/
def check (value : Setting → Json) : Field.Checked Settings :=
  let flag (f : Curl.Flag) : Field.Checked Bool :=
    (value (.flag f)).checkTruth (Setting.flag f).place
  let flags : Field.Checked (List Bool) := Field.all (Curl.Flag.all.map flag)
  let full := (value .showFull).checkTruth Setting.showFull.place
  let format := checkFormat Setting.outputFormat.place (value .outputFormat)
  let level := checkLevel Setting.logLevel.place (value .logLevel)
  match flags, full, format, level with
  | .ok _, .ok full, .ok format, .ok level =>
      .ok ⟨Curl.Flags.ofTest fun f => Field.isYes (flag f), full, format, level⟩
  | _, _, _, _ =>
      .error (Field.faults flags ++ Field.faults full ++ Field.faults format ++ Field.faults level)

/-- What the sources other than the caller say. -/
structure Sources where
  environment : Environment
  assigned : Dictionary (Option Text)

/-- A dictionary whose keys are in lower case. -/
def lowerKeys {α : Type} (d : Dictionary α) : Dictionary α :=
  Dictionary.ofEntries (d.map fun (key, value) => (Text.lower key, value))

/-- The value of a setting. -/
def valueOf (given : Dictionary Json) (sources : Sources) (s : Setting) : Json :=
  match given.get? s.name with
  | some v => v
  | none =>
      match (lowerKeys sources.environment).get? s.variable.lower with
      | some v => .str v
      | none =>
          match sources.assigned.get? s.variable.lower with
          | some (some v) => .str v
          | _ => s.default

/-- Settings from values that the caller gives and from the other sources. -/
def ofSources (given : Dictionary Json) (sources : Sources) : Field.Checked Settings :=
  check (valueOf given sources)

/-- The text of a file of variables; it is empty if there is no file or only a directory. -/
def readVariables (p : Path) : FileAction Text := do
  match ← FileAction.found? p with
  | some (.file _) => FileAction.readText p
  | _ => pure []

/-- What an environment, the text of the user's file and that of the file of the project say. -/
def Sources.ofTexts (environment : Environment) (user project : Text) : Sources where
  environment := environment
  assigned :=
    Dictionary.putAll (lowerKeys (EnvFile.load environment user))
      (lowerKeys (EnvFile.load environment project))

/-- The file of the project. -/
def projectFile : Path := Path.ofText ".env"

/-- What the environment, the user's file and the file of the project say.  A path that begins with a
tilde is read below the home directory that the tilde stands for. -/
def readSources (homes : Text → Path) (environment : Environment) (user : Path) :
    FileAction Sources := do
  let project ← readVariables (projectFile.expand homes)
  let own ← readVariables (user.expand homes)
  pure (Sources.ofTexts environment own project)

/-- A boolean as tables show it. -/
def truthText (b : Bool) : Text :=
  if b then "True" else "False"

/-- The text that tables show for a setting. -/
def rowText (s : Settings) : Setting → Text
  | .flag f => truthText (s.defaultFlags.isSet f)
  | .showFull => truthText s.showFull
  | .outputFormat => s.outputFormat.name
  | .logLevel => s.logLevel.name

/-- The settings as rows of a table. -/
def rows (s : Settings) : List (Text × Text) :=
  Setting.all.map fun setting => (setting.name, s.rowText setting)

end Settings

end CurlRequest
