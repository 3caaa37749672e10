import CurlRequest.CommandLine.Run
import CurlRequest.Proofs.Settings.Sources
import CurlRequest.Proofs.Terminal.Content

/-!
# What a run and its elementary actions do

Printing adds to one stream and keeps everything else, unless the text cannot be shown; on the standard
error every text can.  An action on files changes the files only.  Loading the settings reads two files
and changes none.

**Results.**
* `run_display`, `run_echo`, `run_say`: printing, and what becomes of a text that cannot be shown.
* `run_onFiles`: an action on files and the answer to its fault.
* `run_settings`: loading the settings.
* `run_eq_outcomeOf`: a run is its program, closed by the handler around it.
-/

namespace CurlRequest.CommandLine

/-- A context whose variables lie below the working directory. -/
def localContext (standardInput : Bytes) : Context where
  environment := [("XDG_CONFIG_HOME", "config")]
  standardInput := standardInput
  platform := .other
  userFile := Path.ofText "config/json2curl/.env"
  console := .ofColumns 80
  handler := .plain

/-! ## Sessions -/

namespace Session

/-- The session after text is put on a stream. -/
def print (stream : Stream) (t : Text) (s : Session) : Session :=
  match stream with
  | .output => { s with standardOutput := s.standardOutput ++ t }
  | .error => { s with standardError := s.standardError ++ t }

/-- The session after a log record is kept, if it is important enough. -/
def note (level : LogLevel) (source message : Text) (s : Session) : Session :=
  if s.threshold ≤ level.severity then { s with log := s.log ++ [⟨level, source, message⟩] }
  else s

variable (stream : Stream)
variable (t source message : Text)
variable (level : LogLevel)
variable (s : Session)

@[simp] theorem files_print : (s.print stream t).files = s.files := by
  cases stream <;> rfl

@[simp] theorem threshold_print : (s.print stream t).threshold = s.threshold := by
  cases stream <;> rfl

@[simp] theorem log_print : (s.print stream t).log = s.log := by
  cases stream <;> rfl

@[simp] theorem standardOutput_print_error :
    (s.print .error t).standardOutput = s.standardOutput := rfl

@[simp] theorem standardError_print_error :
    (s.print .error t).standardError = s.standardError ++ t := rfl

@[simp] theorem standardError_print_output :
    (s.print .output t).standardError = s.standardError := rfl

@[simp] theorem files_note : (s.note level source message).files = s.files := by
  unfold note
  split <;> rfl

@[simp] theorem standardOutput_note :
    (s.note level source message).standardOutput = s.standardOutput := by
  unfold note
  split <;> rfl

@[simp] theorem standardError_note :
    (s.note level source message).standardError = s.standardError := by
  unfold note
  split <;> rfl

end Session

namespace Program

variable {α β : Type}

/-! ## Printing -/

theorem run_emit
    (stream : Stream)
    (t : Text)
    (s : Session) :
    (emit stream t).run s = (.ok (), s.print stream t) := by
  cases stream <;> rfl

theorem run_log
    (level : LogLevel)
    (source message : Text)
    (s : Session) :
    (log level source message).run s = (.ok (), s.note level source message) := rfl

theorem run_accept
    (result : Except UsageFault α)
    (s : Session) :
    (accept result).run s = (result.mapError Stop.usage, s) := by
  cases result <;> rfl

/-- What becomes of a text for the terminal on a stream, or why it cannot be shown there. -/
def onTerminal (stream : Stream) (t : Text) : Except Crash Text :=
  match stream with
  | .error => .ok (Terminal.escapeSurrogates t)
  | .output =>
      match Utf8.encode t with
      | .ok _ => .ok t
      | .error fault => .error (.unprintableOnTerminal fault)

/-- A text that can be encoded is shown as it is, on either stream. -/
theorem onTerminal_eq_ok
    (stream : Stream)
    {t : Text}
    (h : t.hasSurrogate = false) :
    onTerminal stream t = .ok t := by
  cases stream with
  | output =>
      rw [onTerminal, Utf8.encode_eq_ok_iff.mpr ⟨h, rfl⟩]
  | error =>
      rw [onTerminal, Terminal.escapeSurrogates_eq h]

/-- Printing text for the terminal. -/
theorem run_display
    (stream : Stream)
    (t : Text)
    (s : Session) :
    (display stream t).run s =
      match onTerminal stream t with
      | .ok shown => (.ok (), s.print stream shown)
      | .error crash => (.error (.crash crash), s) := by
  cases stream with
  | output =>
      rw [display, onTerminal]
      cases Utf8.encode t <;> rfl
  | error =>
      rfl

/-- Printing text as it is, if it can be encoded. -/
theorem run_echo
    (t : Text)
    (s : Session) :
    (echo t).run s =
      match Utf8.encode (Terminal.dropSequences t) with
      | .ok _ => (.ok (), s.print .output (Terminal.dropSequences t))
      | .error fault => (.error (.crash (.unprintable fault)), s) := by
  unfold echo
  dsimp only
  cases Utf8.encode (Terminal.dropSequences t) <;> rfl

/-- What a message looks like on a stream, or why it cannot be shown there. -/
def laidOut (console : Terminal.Console) (stream : Stream) (message : Text) : Except Crash Text :=
  match Terminal.Markup.plainText console message with
  | .error fault => .error (.markup fault)
  | .ok t => onTerminal stream (Terminal.paragraph console.columns t)

/-- Printing a message, if it can be shown. -/
theorem run_say
    (console : Terminal.Console)
    (stream : Stream)
    (message : Text)
    (s : Session) :
    (say console stream message).run s =
      match laidOut console stream message with
      | .ok t => (.ok (), s.print stream t)
      | .error fault => (.error (.crash fault), s) := by
  unfold say laidOut
  cases Terminal.Markup.plainText console message with
  | error fault =>
      rfl
  | ok t =>
      exact run_display stream _ s

/-- Printing a message changes no files. -/
theorem files_of_say
    {console : Terminal.Console}
    {stream : Stream}
    {message : Text}
    {s s' : Session}
    {result : Except Stop Unit}
    (h : (say console stream message).run s = (result, s')) :
    s'.files = s.files := by
  rw [run_say] at h
  split at h
  · cases h
    exact Session.files_print _ _ s
  · cases h
    rfl

/-- Printing a message either goes well or crashes. -/
theorem ok_or_crash_of_say
    {console : Terminal.Console}
    {stream : Stream}
    {message : Text}
    {s s' : Session}
    {result : Except Stop Unit}
    (h : (say console stream message).run s = (result, s')) :
    result = .ok () ∨ ∃ fault, result = .error (.crash fault) := by
  rw [run_say] at h
  split at h
  · cases h
    exact Or.inl rfl
  · cases h
    exact Or.inr ⟨_, rfl⟩

/-! ## Files -/

/-- An action on files goes to the files, and its fault is answered in the session it leaves. -/
theorem run_onFiles
    (action : FileAction α)
    (answer : FileFault → Program α)
    (s : Session) :
    (onFiles action answer).run s =
      match action.run s.files with
      | (.ok a, files) => (.ok a, { s with files := files })
      | (.error fault, files) => (answer fault).run { s with files := files } := by
  have hget : (get : Program Session).run s = (.ok s, s) := rfl
  rw [onFiles, run_bind, hget]
  dsimp only
  obtain ⟨result, files⟩ := action.run s.files
  have hset : (set { s with files := files } : Program Unit).run s =
      (.ok (), { s with files := files }) := rfl
  dsimp only
  rw [run_bind, hset]
  cases result <;> rfl

/-- An action on files of which no fault is handled. -/
theorem run_onFilesOrCrash
    (action : FileAction α)
    (s : Session) :
    (onFilesOrCrash action).run s =
      (((action.run s.files).1).mapError fun fault => Stop.crash (.file fault),
        { s with files := (action.run s.files).2 }) := by
  rw [onFilesOrCrash, run_onFiles]
  obtain ⟨result, files⟩ := action.run s.files
  cases result <;> rfl

end Program

/-! ## Settings -/

namespace Program

/-- The warnings about the statements of a text that cannot be read. -/
def warnings (t : Text) : Text :=
  Terminal.unlines ((EnvFile.unreadableLines t).map unreadableWarning)

theorem run_readVariables
    (p : Path)
    (s : Session) :
    (readVariables p).run s =
      match Settings.variablesAt s.files p with
      | .ok t => (.ok t, s.print .error (warnings t))
      | .error fault => (.error (.crash (.file fault)), s) := by
  rw [readVariables, run_bind, run_onFilesOrCrash, Settings.run_readVariables]
  dsimp only
  cases Settings.variablesAt s.files p with
  | error fault =>
      rfl
  | ok t =>
      dsimp only [Except.mapError]
      rw [run_bind, run_emit]
      rfl

/-- **Loading the settings**: first the file of the project is read, then that of the user. -/
theorem run_settings
    (context : Context)
    (s : Session) :
    (settings context).run s =
      match Settings.variablesAt s.files Settings.projectFile with
      | .error fault => (.error (.crash (.file fault)), s)
      | .ok project =>
          match Settings.variablesAt s.files context.userFile with
          | .error fault =>
              (.error (.crash (.file fault)), s.print .error (warnings project))
          | .ok own =>
              match Settings.ofSources [] (.ofTexts context.environment own project) with
              | .ok settings =>
                  (.ok settings, (s.print .error (warnings project)).print .error (warnings own))
              | .error faults =>
                  (.error (.crash (.fields faults)),
                    (s.print .error (warnings project)).print .error (warnings own)) := by
  rw [settings, run_bind, run_readVariables]
  cases Settings.variablesAt s.files Settings.projectFile with
  | error fault =>
      rfl
  | ok project =>
      dsimp only
      rw [run_bind, run_readVariables, Session.files_print]
      cases Settings.variablesAt s.files context.userFile with
      | error fault =>
          rfl
      | ok own =>
          dsimp only
          cases Settings.ofSources [] (.ofTexts context.environment own project) <;> rfl

end Program

/-! ## Whole runs -/

/-- How a run ends. -/
def stopOf : Except Stop Unit → Stop
  | .ok _ => .exit 0
  | .error stop => stop

namespace Handler

variable (handler : Handler)
variable (stop : Stop)
variable (s : Session)

/-- What the handler leaves behind of a program that has been run. -/
def outcomeOf (ended : Except Stop Unit × Session) : Outcome :=
  handler.close (stopOf ended.1) ended.2

end Handler

/-- **A run** is its program, closed by the handler around it. -/
theorem run_eq_outcomeOf
    (context : Context)
    (files : FileTree)
    (arguments : List Text) :
    run context files arguments =
      context.handler.outcomeOf ((program context arguments).run (Session.start files)) := by
  unfold run Handler.outcomeOf
  cases (program context arguments).run (Session.start files) with
  | mk result session => cases result <;> rfl

end CurlRequest.CommandLine
