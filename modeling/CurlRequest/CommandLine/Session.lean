import CurlRequest.CommandLine.Arguments
import CurlRequest.Curl.RequestFault
import CurlRequest.Settings
import CurlRequest.Terminal.Box
import CurlRequest.Terminal.Markup

/-!
# A run of the program

A run prints to two streams, keeps log records, and changes a tree of files.  It ends by itself,
with an exit code, with a fault of usage, or with a fault that nobody handles.  What is said about the
last two is said by the handler around the program, which is no part of it.

The standard output refuses texts that cannot be encoded.  The standard error shows them with escapes.

**Contents.**
* `Crash`: the faults that nobody handles.
* `Handler`, `Context`: what a run is given.
* `Session`: what a run has done so far.
* `Stop`: how it can end before its end.
* `Program`, `Program.run`: the actions of a run, what they do, and the elementary ones.
-/

namespace CurlRequest.CommandLine

/-- A fault that ends a run without being reported. -/
inductive Crash
  | fields (faults : List Field.Fault)
  | file (fault : FileFault)
  | convert (fault : Curl.ConvertFault)
  | unknownLevel (name : Text)
  | markup (fault : Terminal.Markup.Fault)
  | unprintable (fault : Utf8.EncodeFault)
  | unprintableOnTerminal (fault : Utf8.EncodeFault)
  deriving DecidableEq, Repr

/-- The wording of a field fault: where it lies, and what is wrong. -/
def fieldLine (fault : Field.Fault) : Text :=
  let step : Field.Step → Text
    | .name key => key
    | .index i => Text.ofNat i
  Text.join "." (fault.place.map step) ++ ": " ++ fault.cause.message

/-- The wording of a fault of a conversion. -/
def convertMessage : Curl.ConvertFault → Text
  | .request fault => fault.message
  | .fields faults => Text.join "\n" (faults.map fieldLine)
  | .unwritable fault => fault.message
  | .tooDeep => "Nested too deeply"

/-- The warning about a statement in a file of variables. -/
def unreadableWarning (line : Nat) : Text :=
  "python-dotenv could not parse statement starting at line " ++ Text.ofNat line

/-- What is added where the terminal cannot show a text. -/
def encodingHint : Text :=
  "\n*** You may need to add PYTHONIOENCODING=utf-8 to your environment ***"

/-- The wording of a fault that ends a run. -/
def Crash.message : Crash → Text
  | .fields faults => Text.join "\n" (faults.map fieldLine)
  | .file fault => fault.message
  | .convert fault => convertMessage fault
  | .unknownLevel name => "Unknown level: " ++ name.quoted
  | .markup fault => fault.message
  | .unprintable fault => fault.message
  | .unprintableOnTerminal fault => fault.message ++ encodingHint

/-- What the handler around a program prints to the standard error: about arguments that are refused,
and about a fault that nobody handles. -/
structure Handler where
  refusal : UsageFault → Text
  traceback : Crash → Text

/-- The handler that prints the wording of a fault. -/
def Handler.plain : Handler where
  refusal := fun fault => "Error: " ++ fault.message ++ "\n"
  traceback := fun fault => "Error: " ++ fault.message ++ "\n"

/-- What a run is given: its environment, its standard input, the platform, the file of the user's
variables as it was found at the start, the console on which messages are printed, and the handler
around it. -/
structure Context where
  environment : Settings.Environment
  standardInput : Bytes
  platform : Settings.Platform
  userFile : Path
  console : Terminal.Console
  handler : Handler

/-- A log record. -/
structure LogRecord where
  level : LogLevel
  source : Text
  message : Text
  deriving DecidableEq, Repr

/-- What a run has done so far.  Records below the threshold are not kept. -/
structure Session where
  standardOutput : Text
  standardError : Text
  log : List LogRecord
  threshold : Nat
  files : FileTree

/-- How a run ends before its end. -/
inductive Stop
  | exit (code : Nat)
  | usage (fault : UsageFault)
  | crash (fault : Crash)
  deriving DecidableEq, Repr

/-- An action of a run. -/
abbrev Program := ExceptT Stop (StateM Session)

/-- Where a text is printed. -/
inductive Stream
  | output
  | error
  deriving DecidableEq, Repr

namespace Program

variable {α β : Type}

/-- What an action gives after some session, and the session that it leaves behind. -/
def run (action : Program α) (s : Session) : Except Stop α × Session :=
  Id.run (StateT.run (ExceptT.run action) s)

@[simp] theorem run_pure (a : α) (s : Session) :
    (pure a : Program α).run s = (.ok a, s) := rfl

@[simp] theorem run_throw (stop : Stop) (s : Session) :
    (throw stop : Program α).run s = (.error stop, s) := rfl

/-- The second action goes on after the first one, unless that ended the run. -/
theorem run_bind (action : Program α) (next : α → Program β) (s : Session) :
    (action >>= next).run s =
      match action.run s with
      | (.ok a, s) => (next a).run s
      | (.error stop, s) => (.error stop, s) := by
  unfold run ExceptT.run StateT.run Id.run
  simp only [bind, ExceptT.bind, ExceptT.mk, StateT.bind, ExceptT.bindCont]
  cases action s with
  | mk result after => cases result <;> rfl

/-- Ends the run by a fault that nobody handles. -/
def crash (fault : Crash) : Program α :=
  throw (.crash fault)

/-- Ends the run by a fault of usage. -/
def refuse (fault : UsageFault) : Program α :=
  throw (.usage fault)

/-- Puts text on a stream. -/
def emit (stream : Stream) (t : Text) : Program Unit :=
  modify fun s =>
    match stream with
    | .output => { s with standardOutput := s.standardOutput ++ t }
    | .error => { s with standardError := s.standardError ++ t }

/-- Prints text to the standard output as it is, without control sequences. -/
def echo (t : Text) : Program Unit :=
  let shown := Terminal.dropSequences t
  match Utf8.encode shown with
  | .ok _ => emit .output shown
  | .error fault => crash (.unprintable fault)

/-- Prints text that is laid out for the terminal. -/
def display (stream : Stream) (t : Text) : Program Unit :=
  match stream with
  | .error => emit .error (Terminal.escapeSurrogates t)
  | .output =>
      match Utf8.encode t with
      | .ok _ => emit .output t
      | .error fault => crash (.unprintableOnTerminal fault)

/-- Prints a message with tags. -/
def say (console : Terminal.Console) (stream : Stream) (message : Text) : Program Unit :=
  match Terminal.Markup.plainText console message with
  | .ok t => display stream (Terminal.paragraph console.columns t)
  | .error fault => crash (.markup fault)

/-- Keeps a log record, if it is important enough. -/
def log (level : LogLevel) (source message : Text) : Program Unit :=
  modify fun s =>
    if s.threshold ≤ level.severity then { s with log := s.log ++ [⟨level, source, message⟩] }
    else s

/-- Runs an action on files, with an answer to faults. -/
def onFiles (action : FileAction α) (answer : FileFault → Program α) : Program α := do
  let s ← get
  let (result, files) := action.run s.files
  set { s with files := files }
  match result with
  | .ok a => pure a
  | .error fault => answer fault

/-- Runs an action on files of which no fault is handled. -/
def onFilesOrCrash (action : FileAction α) : Program α :=
  onFiles action fun fault => crash (.file fault)

/-- Reports a path that does not lead where it should, and ends the run.  Other faults of files are
not handled. -/
def exitOnPathFault (console : Terminal.Console) (message : Text) (fault : FileFault) : Program α :=
  match fault with
  | .path _ _ => do
      say console .error (message ++ fault.message)
      throw (.exit 2)
  | fault => crash (.file fault)

/-- Ends the run with a fault of usage, if arguments are refused. -/
def accept : Except UsageFault α → Program α
  | .ok a => pure a
  | .error fault => refuse fault

/-- The text of a file of variables.  A warning is printed for each statement in it that cannot be
read, whatever is logged. -/
def readVariables (p : Path) : Program Text := do
  let t ← onFilesOrCrash (Settings.readVariables p)
  emit .error (Terminal.unlines ((EnvFile.unreadableLines t).map unreadableWarning))
  pure t

/-- The settings that are in force. -/
def settings (context : Context) : Program Settings := do
  let project ← readVariables Settings.projectFile
  let own ← readVariables context.userFile
  match Settings.ofSources [] (.ofTexts context.environment own project) with
  | .ok s => pure s
  | .error faults => crash (.fields faults)

end Program

end CurlRequest.CommandLine
