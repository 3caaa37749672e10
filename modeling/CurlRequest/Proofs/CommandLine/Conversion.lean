import CurlRequest.CommandLine.Run
import CurlRequest.Proofs.CommandLine.Session
import CurlRequest.Proofs.Curl.Conversion
import CurlRequest.Proofs.Terminal.Content

/-!
# The stages of a conversion

A conversion loads the settings, sets what is logged, chooses the form, reads the description,
converts it, saves the command and prints it.  Each stage either goes on with what it gives, or it
ends the run.  This module says for each of them which of the two, and what is left of the session.

**Results.**
* `requestText`, `run_readInput`: the text of the request description.
* `reportOf`, `run_exitOnPathFault`: what is reported of a fault of files.
* `run_readRequest`, `run_buildCommand`: from the text to the command.
* `run_saveAs`, `run_print`: saving and printing.
* `run_parse`, `program_convert`: from the arguments to the conversion.
-/

namespace CurlRequest.CommandLine

namespace Program

variable {α : Type}

/-- What is reported of a fault of files: only a path that does not lead where it should is. -/
def reportOf (console : Terminal.Console) (message : Text) (fault : FileFault) :
    Except Crash Text :=
  match fault with
  | .path problem p => laidOut console .error (message ++ (FileFault.path problem p).message)
  | fault => .error (.file fault)

/-- A fault of files is reported and ends the run, or it is not handled. -/
theorem run_exitOnPathFault
    (console : Terminal.Console)
    (message : Text)
    (fault : FileFault)
    (s : Session) :
    (exitOnPathFault console message fault : Program α).run s =
      match reportOf console message fault with
      | .ok t => (.error (.exit 2), s.print .error t)
      | .error crash => (.error (.crash crash), s) := by
  cases fault with
  | path problem p =>
      rw [exitOnPathFault, run_bind, run_say]
      dsimp only [reportOf]
      cases laidOut console .error (message ++ (FileFault.path problem p).message) <;> rfl
  | nulInPath =>
      rfl
  | undecodable fault =>
      rfl
  | unencodable fault =>
      rfl

end Program

namespace Conversion

/-! ## Reading -/

/-- The text of the request description: it is given in the arguments, or stands in the standard
input or in a file. -/
def requestText (context : Context) (files : FileTree) (c : Conversion) : Except FileFault Text :=
  match c.inline, c.source with
  | some t, _ => .ok t
  | none, none => ((FileAction.decodeText context.standardInput).run files).1
  | none, some p =>
      if p.toText = Text.ofString "-" then
        ((FileAction.decodeText context.standardInput).run files).1
      else ((FileAction.readText p).run files).1

/-- The request that a conversion reads. -/
def Reads (context : Context) (files : FileTree) (c : Conversion) (r : Curl.Request) : Prop :=
  ∃ description,
    requestText context files c = .ok description ∧
      Curl.Request.ofDescription (.text description) = .ok r

/-- What is said before a fault of reading. -/
def inputTrouble : Text := "[red]Cannot read input:[/red] "

/-- The standard input is read without looking at files, and only its octets can be wrong. -/
theorem run_readStandardInput
    (context : Context)
    (s : Session) :
    (readStandardInput context).run s =
      match ((FileAction.decodeText context.standardInput).run s.files).1 with
      | .ok t => (.ok t, s)
      | .error fault => (Program.exitOnPathFault context.console inputTrouble fault).run s := by
  rw [readStandardInput, Program.run_onFilesOrCrash, FileAction.run_decodeText]
  cases Utf8.decode context.standardInput <;> rfl

/-- **Reading the input** leaves the session as it is. -/
theorem run_readInput
    (context : Context)
    (c : Conversion)
    (s : Session) :
    (c.readInput context).run s =
      match requestText context s.files c with
      | .ok t => (.ok t, s)
      | .error fault => (Program.exitOnPathFault context.console inputTrouble fault).run s := by
  unfold readInput requestText
  cases c.inline with
  | some t =>
      rfl
  | none =>
      cases c.source with
      | none =>
          exact run_readStandardInput context s
      | some p =>
          dsimp only
          split
          · exact run_readStandardInput context s
          · rw [Program.run_onFiles]
            have hfiles := FileAction.run_readText_snd p s.files
            cases hread : (FileAction.readText p).run s.files with
            | mk result files =>
                rw [hread] at hfiles
                obtain rfl : files = s.files := hfiles
                cases result <;> rfl

/-! ## Converting -/

/-- What is logged of a request. -/
def requestNote (r : Curl.Request) : Text :=
  "Validated request: method=" ++ r.method ++ " headers=" ++ Text.ofNat r.headers.length ++
    " body=" ++ Settings.truthText r.hasBody

/-- What is logged of the parts of a command. -/
def partsNote (parts : List Curl.Part) : Text :=
  "Built curl command: " ++ Text.ofNat parts.length ++ " parts, " ++
    Text.ofNat (parts.countP fun part => part.redacted.isSome) ++ " redacted"

/-- The session after a fault of a request is logged. -/
def noteFault (fault : Curl.RequestFault) (s : Session) : Session :=
  s.note .debug "cli.main" ("Validation failed: " ++ fault.kind)

/-- The panel in which a fault of a request is shown. -/
def faultPanel (columns : Nat) (fault : Curl.RequestFault) : Text :=
  (Display.faultPanel fault).render columns

/-- The panel of a fault can be encoded, if the wording of the fault can. -/
theorem hasSurrogate_faultPanel
    {fault : Curl.RequestFault}
    (columns : Nat)
    (h : fault.message.hasSurrogate = false) :
    (faultPanel columns fault).hasSurrogate = false := by
  have hkind : fault.kind.hasSurrogate = false := by
    cases fault <;> exact Text.hasSurrogate_ofString _
  have hfield : (Display.fieldLine fault).hasSurrogate = false := by
    cases fault <;> rfl
  have hmarks : Terminal.frameMarks.hasSurrogate = false := Text.hasSurrogate_ofString _
  refine Text.hasSurrogate_of_subset (Terminal.Panel.render_subset _ _) ?_
  simp only [Display.faultPanel, Text.hasSurrogate_append, hmarks, hkind, h, hfield, Bool.or_false]

/-- **Reading a request** logs it, or shows what is wrong with it. -/
theorem run_readRequest
    (columns : Nat)
    (description : Text)
    (s : Session) :
    (readRequest columns description).run s =
      match Curl.Request.ofDescription (.text description) with
      | .ok r =>
          (.ok r, s.note .debug "core.services.request_validator" (requestNote r))
      | .error (.request fault) =>
          (.error (.exit 1), (noteFault fault s).print .error (faultPanel columns fault))
      | .error fault => (.error (.crash (.convert fault)), s) := by
  unfold readRequest
  cases hread : Curl.Request.ofDescription (.text description) with
  | ok r =>
      dsimp only
      rw [Program.run_bind, Program.run_log]
      rfl
  | error fault =>
      cases fault with
      | request fault =>
          have hshown := Program.onTerminal_eq_ok .error
            (hasSurrogate_faultPanel columns (Curl.hasSurrogate_message_of_ofDescription hread))
          have hpanel : (Display.faultPanel fault).render columns = faultPanel columns fault := rfl
          dsimp only
          rw [Program.run_bind, Program.run_log]
          dsimp only
          rw [Program.run_bind, Program.run_display, hpanel, hshown]
          rfl
      | fields faults =>
          rfl
      | unwritable fault =>
          rfl
      | tooDeep =>
          rfl

/-- **Building a command** logs it. -/
theorem run_buildCommand
    (r : Curl.Request)
    (flags : Curl.Flags)
    (s : Session) :
    (buildCommand r flags).run s =
      match r.parts flags with
      | .ok parts =>
          (.ok (Curl.Command.ofParts parts),
            s.note .debug "core.services.command_builder" (partsNote parts))
      | .error fault => (.error (.crash (.convert (.unwritable fault))), s) := by
  unfold buildCommand
  cases r.parts flags with
  | ok parts =>
      dsimp only
      rw [Program.run_bind, Program.run_log]
      rfl
  | error fault =>
      rfl

/-! ## Saving and printing -/

/-- What is said before a fault of saving. -/
def exportTrouble : Text := "[red]Export failed:[/red] "

/-- The session with other files. -/
def withFiles (s : Session) (files : FileTree) : Session :=
  { s with files := files }

/-- **Saving** ends with a message in either case. -/
theorem run_saveAs
    (console : Terminal.Console)
    (action : FileAction Unit)
    (message : Text)
    (p : Path)
    (s : Session) :
    (save.saveAs console action message p).run s =
      match action.run s.files with
      | (.ok _, files) =>
          (match Program.laidOut console .error (message ++ p.toText) with
          | .ok t => (.ok (), (withFiles s files).print .error t)
          | .error crash => (.error (.crash crash), withFiles s files))
      | (.error fault, files) =>
          (match Program.reportOf console exportTrouble fault with
          | .ok t => (.error (.exit 2), (withFiles s files).print .error t)
          | .error crash => (.error (.crash crash), withFiles s files)) := by
  rw [save.saveAs, Program.run_bind, Program.run_onFiles]
  obtain ⟨result, files⟩ := action.run s.files
  cases result with
  | ok u =>
      dsimp only
      rw [Program.run_say]
      rfl
  | error fault =>
      dsimp only
      rw [Program.run_exitOnPathFault]
      dsimp only [exportTrouble, withFiles]
      cases Program.reportOf console "[red]Export failed:[/red] " fault <;> rfl

/-- The rendering that is shown. -/
def shownText (showFull : Bool) (command : Curl.Command) : Text :=
  if showFull then command.full else command.masked

/-- The panel in which a command is shown. -/
def commandPanel (columns : Nat) (showFull : Bool) (command : Curl.Command) : Text :=
  (Display.commandPanel (!showFull) (shownText showFull command)).renderCode columns

/-- What is printed of a text that is echoed, or the fault that ends the printing and what is printed
before it. -/
def echoed (t : Text) : Except (Crash × Text) Text :=
  match Utf8.encode (Terminal.dropSequences t) with
  | .ok _ => .ok (Terminal.dropSequences t)
  | .error fault => .error (.unprintable fault, [])

/-- What is printed of a command, or the fault that ends the printing and what is printed before
it. -/
def printed (columns : Nat) (c : Conversion) (format : OutputFormat) (showFull : Bool)
    (command : Curl.Command) : Except (Crash × Text) Text :=
  match format with
  | .json => echoed (command.jsonText showFull)
  | .text =>
      if c.pretty then
        match Program.onTerminal .output (commandPanel columns showFull command) with
        | .ok panel => .ok (Display.banner columns ++ panel)
        | .error crash => .error (crash, Display.banner columns)
      else echoed (shownText showFull command ++ "\n")

/-- Echoing goes to the standard output only. -/
theorem run_echo
    (t : Text)
    (s : Session) :
    (Program.echo t).run s =
      match echoed t with
      | .ok t => (.ok (), s.print .output t)
      | .error (crash, before) => (.error (.crash crash), s.print .output before) := by
  rw [Program.run_echo, echoed]
  cases Utf8.encode (Terminal.dropSequences t) with
  | ok octets =>
      rfl
  | error fault =>
      simp only [Session.print, List.append_nil]

/-- The banner holds the name of the program, what it does, and marks. -/
theorem banner_subset
    (columns : Nat) :
    Display.banner columns ⊆ Terminal.frameMarks ++ Display.bannerText := by
  have hnone : ([] : Text) ⊆ Terminal.blank :: Display.bannerText := List.nil_subset _
  refine Terminal.box_subset columns (fun _ h => by cases h) fun l hl => ?_
  rcases List.mem_append.mp hl with hl | hl
  · rcases List.mem_append.mp hl with hl | hl
    · rw [List.mem_singleton.mp hl]
      exact hnone
    · obtain ⟨line, hline, rfl⟩ := List.mem_map.mp hl
      have hsubset : line ⊆ Terminal.blank :: Display.bannerText := by
        split at hline
        · cases hline
        · exact Terminal.subset_of_mem_wrap hline
      exact List.append_subset.mpr ⟨Terminal.blanks_subset _ _, hsubset⟩
  · rw [List.mem_singleton.mp hl]
    exact hnone

/-- **Printing** goes to the standard output only. -/
theorem run_print
    (columns : Nat)
    (c : Conversion)
    (format : OutputFormat)
    (showFull : Bool)
    (command : Curl.Command)
    (s : Session) :
    (c.print columns format showFull command).run s =
      match printed columns c format showFull command with
      | .ok t => (.ok (), s.print .output t)
      | .error (crash, before) => (.error (.crash crash), s.print .output before) := by
  unfold print printed
  cases format with
  | json =>
      exact run_echo _ s
  | text =>
      have hbanner : (Display.banner columns).hasSurrogate = false := by
        have hmarks : (Terminal.frameMarks ++ Display.bannerText).hasSurrogate = false := by
          decide
        exact Text.hasSurrogate_of_subset (banner_subset columns) hmarks
      have hshown : (if showFull then command.full else command.masked) =
          shownText showFull command := rfl
      have hpanel : (Display.commandPanel (!showFull) (shownText showFull command)).renderCode
          columns = commandPanel columns showFull command := rfl
      dsimp only
      rw [hshown]
      split
      · rw [Program.run_bind, Program.run_display, Program.onTerminal_eq_ok .output hbanner]
        dsimp only
        rw [Program.run_display, hpanel]
        cases Program.onTerminal .output (commandPanel columns showFull command) with
        | ok panel =>
            simp only [Session.print, List.append_assoc]
        | error crash =>
            rfl
      · exact run_echo _ s

/-! ## Arguments -/

/-- What arguments ask for, if they are taken. -/
theorem run_parse
    (rest : List Text)
    (s : Session) :
    (parse rest).run s =
      match parseArguments conversionOptions true rest with
      | .error fault => (.error (.usage fault), s)
      | .ok a =>
          if a.has .help then (.ok none, s)
          else if (ofArguments a).paths.any Path.holdsNul then
            (.error (.crash (.file .nulInPath)), s)
          else
            match limitOthers 1 a with
            | .error fault => (.error (.usage fault), s)
            | .ok _ => (.ok (some (ofArguments a)), s) := by
  rw [parse, Program.run_bind, Program.run_accept]
  cases parseArguments conversionOptions true rest with
  | error fault =>
      rfl
  | ok a =>
      dsimp only [Except.mapError]
      split
      · rfl
      · split
        · rfl
        · rw [Program.run_bind, Program.run_accept]
          cases limitOthers 1 a <;> rfl

/-- **A conversion** is what the command of that name runs. -/
theorem program_convert
    {arguments rest : List Text}
    (context : Context)
    (hcommand : select Command.byName arguments = .ok (.command .convert rest)) :
    program context arguments = (do
      match ← parse rest with
      | some c => c.run context
      | none => showUsage "convert" " [SOURCE]") := by
  have harguments : arguments.isEmpty = false := by
    cases arguments with
    | nil =>
        cases hcommand
    | cons argument more =>
        rfl
  rw [program, harguments, if_neg Bool.false_ne_true, hcommand]
  rfl

end Conversion

end CurlRequest.CommandLine
