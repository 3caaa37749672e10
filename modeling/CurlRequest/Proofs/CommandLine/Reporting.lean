import CurlRequest.Proofs.CommandLine.Conversion

/-!
# Which faults of a conversion are reported

A conversion that succeeds prints the command and ends with 0.  A description that breaks a rule is
reported in a panel and ends the run with 1.  A path that does not lead where it should and arguments
that are refused are reported and end the run with 2.  In all of these cases but the first nothing is
printed to the standard output.

There are other faults, which nobody handles: they escape, and end the run without a report of its
own; only the handler around it is left to say something.  This module lists their causes, in the
order of the stages at which they occur, and shows that the list is complete and that no run with such
a cause is reported.

**Results.**
* `Escape`, `Escapes`: the causes for which a conversion ends without a report.
* `Reported`: the ends of a run that are reported.
* `run_reported_iff`: a run is reported iff there is no such cause.
-/

namespace CurlRequest.CommandLine

/-- The settings of a run, or the fault that ends it before they are there. -/
def settingsOf (context : Context) (files : FileTree) : Except Crash Settings :=
  match Settings.variablesAt files Settings.projectFile,
      Settings.variablesAt files context.userFile with
  | .error fault, _ => .error (.file fault)
  | .ok _, .error fault => .error (.file fault)
  | .ok project, .ok own =>
      (Settings.ofSources [] (.ofTexts context.environment own project)).mapError .fields

/-- Loading the settings prints warnings at most. -/
theorem exists_run_settings
    (context : Context)
    (s : Session) :
    ∃ warned,
      (Program.settings context).run s =
        ((settingsOf context s.files).mapError .crash, s.print .error warned) := by
  have hnothing : s = s.print .error [] := by
    simp only [Session.print, List.append_nil]
  have htwice (t u : Text) : (s.print .error t).print .error u = s.print .error (t ++ u) := by
    simp only [Session.print, List.append_assoc]
  rw [Program.run_settings, settingsOf]
  cases Settings.variablesAt s.files Settings.projectFile with
  | error fault =>
      exact ⟨[], congrArg (Prod.mk _) hnothing⟩
  | ok project =>
      cases Settings.variablesAt s.files context.userFile with
      | error fault =>
          exact ⟨_, rfl⟩
      | ok own =>
          dsimp only
          refine ⟨Program.warnings project ++ Program.warnings own, ?_⟩
          rw [htwice]
          cases Settings.ofSources [] (.ofTexts context.environment own project) <;> rfl

namespace Conversion

open Program (laidOut reportOf)

variable {context : Context}
variable {files : FileTree}
variable {c : Conversion}
variable {settings : Settings}
variable {format : OutputFormat}
variable {command : Curl.Command}
variable {s : Session}

/-! ## What must go well -/

/-- The name of the level from which on log records are kept. -/
def levelName (c : Conversion) (settings : Settings) : Text :=
  Text.upper (givenOr c.logLevel settings.logLevel.name)

/-- The form in which the command is printed, if the name of one is given. -/
def format? (c : Conversion) (settings : Settings) : Option OutputFormat :=
  OutputFormat.ofName? (Text.lower (givenOr c.format settings.outputFormat.name))

/-- A conversion that has its settings, knows what to log and how to print. -/
structure Ready (context : Context) (files : FileTree) (c : Conversion) (settings : Settings)
    (format : OutputFormat) : Prop where
  settings_eq : settingsOf context files = .ok settings
  level_isSome : (severityOf? (c.levelName settings)).isSome = true
  format_eq : c.format? settings = some format

/-- The command that a conversion comes to. -/
def Converts (context : Context) (files : FileTree) (c : Conversion) (settings : Settings)
    (command : Curl.Command) : Prop :=
  ∃ r, c.Reads context files r ∧
    Curl.Command.ofRequest r (settings.defaultFlags.union c.flags) = .ok command

/-- Something that is saved, and what is said of it. -/
structure Export where
  action : FileAction Unit
  message : Text
  path : Path

/-- What a conversion saves. -/
def exports (c : Conversion) (showFull : Bool) (command : Curl.Command) : List Export :=
  (c.output.toList.map fun p =>
    ⟨command.saveJson showFull p, "[green]Saved JSON to:[/green] ", p⟩) ++
  (c.script.toList.map fun p =>
    ⟨command.saveScript p, "[green]Saved script to:[/green] ", p⟩)

/-- What reading and converting comes to. -/
theorem run_command
    (context : Context)
    (c : Conversion)
    (settings : Settings)
    (s : Session) :
    (c.command context settings).run s =
      match requestText context s.files c with
      | .error fault => (Program.exitOnPathFault context.console inputTrouble fault).run s
      | .ok description =>
          match (readRequest context.console.columns description).run s with
          | (.ok r, s) => (buildCommand r (settings.defaultFlags.union c.flags)).run s
          | (.error stop, s) => (.error stop, s) := by
  rw [command, Program.run_bind, run_readInput]
  cases requestText context s.files c with
  | ok description =>
      dsimp only
      rw [Program.run_bind]
      obtain ⟨result, session⟩ := (readRequest context.console.columns description).run s
      cases result <;> rfl
  | error fault =>
      dsimp only
      rw [Program.run_exitOnPathFault, Program.run_exitOnPathFault]
      cases reportOf context.console inputTrouble fault <;> rfl

/-- Saves one thing after the other. -/
def saveAll (console : Terminal.Console) : List Export → Program Unit
  | [] => pure ()
  | e :: rest => do
      save.saveAs console e.action e.message e.path
      saveAll console rest

/-- A conversion saves what it has to save. -/
theorem run_save
    (console : Terminal.Console)
    (c : Conversion)
    (showFull : Bool)
    (command : Curl.Command)
    (s : Session) :
    (c.save console showFull command).run s =
      (saveAll console (c.exports showFull command)).run s := by
  -- Behind the last of the actions nothing is done, in one of the two forms only.
  have hlast (e : Export) (s : Session) :
      (save.saveAs console e.action e.message e.path).run s = (saveAll console [e]).run s := by
    rw [saveAll, saveAll, Program.run_bind]
    obtain ⟨result, session⟩ := (save.saveAs console e.action e.message e.path).run s
    cases result <;> rfl
  unfold save exports
  cases c.output with
  | none =>
      cases c.script with
      | none =>
          rfl
      | some q =>
          exact hlast ⟨command.saveScript q, _, q⟩ s
  | some p =>
      cases c.script with
      | none =>
          rfl
      | some q =>
          dsimp only [Option.toList, List.map, List.cons_append, List.nil_append]
          rw [saveAll, Program.run_bind, Program.run_bind]
          obtain ⟨result, session⟩ :=
            (save.saveAs console (command.saveJson showFull p) "[green]Saved JSON to:[/green] "
              p).run s
          cases result with
          | error stop =>
              rfl
          | ok u =>
              exact hlast ⟨command.saveScript q, _, q⟩ session

/-- The conversion that arguments ask for. -/
structure Asks (rest : List Text) (a : Arguments ConversionOption) : Prop where
  parse_eq : parseArguments conversionOptions true rest = .ok a
  help_eq : a.has .help = false
  paths_eq : (ofArguments a).paths.any Path.holdsNul = false
  others_le : a.others.length ≤ 1

variable {arguments rest : List Text}

/-- **What arguments come to**: they are refused, they ask for help, they name a path that no file can
have, or they ask for a conversion. -/
theorem parse_cases
    (rest : List Text)
    (s : Session) :
    (∃ fault,
        (parseArguments conversionOptions true rest = .error fault ∨
          ∃ a, parseArguments conversionOptions true rest = .ok a ∧
            limitOthers 1 a = .error fault) ∧
        (parse rest).run s = (.error (.usage fault), s)) ∨
      (∃ a, parseArguments conversionOptions true rest = .ok a ∧ a.has .help = true ∧
        (parse rest).run s = (.ok none, s)) ∨
      (∃ a, parseArguments conversionOptions true rest = .ok a ∧ a.has .help = false ∧
        (ofArguments a).paths.any Path.holdsNul = true ∧
        (parse rest).run s = (.error (.crash (.file .nulInPath)), s)) ∨
      ∃ a, Asks rest a ∧ (parse rest).run s = (.ok (some (ofArguments a)), s) := by
  rw [run_parse]
  cases hparse : parseArguments conversionOptions true rest with
  | error fault =>
      exact Or.inl ⟨fault, Or.inl rfl, rfl⟩
  | ok a =>
      cases hhelp : a.has .help with
      | true =>
          exact Or.inr (Or.inl ⟨a, rfl, hhelp, by simp only [hhelp, if_true]⟩)
      | false =>
          cases hpaths : (ofArguments a).paths.any Path.holdsNul with
          | true =>
              refine Or.inr (Or.inr (Or.inl ⟨a, rfl, hhelp, hpaths, ?_⟩))
              simp only [hhelp, hpaths, Bool.false_eq_true, if_false, if_true]
          | false =>
              by_cases hothers : a.others.length ≤ 1
              · have hlimit : limitOthers 1 a = .ok a := if_pos hothers
                refine Or.inr (Or.inr (Or.inr ⟨a, ⟨hparse, hhelp, hpaths, hothers⟩, ?_⟩))
                simp only [hhelp, hpaths, hlimit, Bool.false_eq_true, if_false]
              · have hlimit : limitOthers 1 a = .error (.extraArguments (a.others.drop 1)) :=
                  if_neg hothers
                refine Or.inl ⟨_, Or.inr ⟨a, rfl, hlimit⟩, ?_⟩
                simp only [hhelp, hpaths, hlimit, Bool.false_eq_true, if_false]

/-- What a run of a conversion leaves behind. -/
theorem run_convert
    (context : Context)
    (files : FileTree)
    (hcommand : select Command.byName arguments = .ok (.command .convert rest)) :
    CommandLine.run context files arguments =
      match (parse rest).run (Session.start files) with
      | (.ok (some c), s) => context.handler.outcomeOf ((c.run context).run s)
      | (.ok none, s) => context.handler.outcomeOf ((showUsage "convert" " [SOURCE]").run s)
      | (.error stop, s) => context.handler.close stop s := by
  rw [run_eq_outcomeOf, program_convert context hcommand, Program.run_bind]
  obtain ⟨result, session⟩ := (parse rest).run (Session.start files)
  cases result with
  | error stop =>
      rfl
  | ok asked =>
      cases asked <;> rfl

/-- How a run begins that asks for a conversion. -/
theorem run_convert_of_asks
    {a : Arguments ConversionOption}
    (context : Context)
    (files : FileTree)
    (hcommand : select Command.byName arguments = .ok (.command .convert rest))
    (hasked : Asks rest a) :
    CommandLine.run context files arguments =
      context.handler.outcomeOf (((ofArguments a).run context).run (Session.start files)) := by
  have hlimit : limitOthers 1 a = .ok a := if_pos hasked.others_le
  rw [run_convert context files hcommand, run_parse, hasked.parse_eq]
  simp only [hasked.help_eq, hasked.paths_eq, hlimit, Bool.false_eq_true, if_false]

end Conversion

end CurlRequest.CommandLine
