import CurlRequest.Proofs.CommandLine.Reporting
import CurlRequest.Proofs.File.Confinement

/-!
# No effect without a command

A conversion comes to its command in quiet stages: until it has one, it prints to the standard error
at most, and leaves the files as they are.  So a run that comes to no command has changed nothing,
for whatever reason.  Only what follows changes files, and it changes those that are saved and the
directories that are missing above them.

**Results.**
* `Program.Quiet`, `Program.Confined`: actions without effects, and with effects at some paths only.
* `Conversion.prepare`, `Conversion.run_eq`: a conversion is what comes to a command, and delivering
  it.
* `Conversion.quiet_prepare`, `Conversion.confined_deliver`: what the two parts change.
* `Conversion.run_effects`: what a run changes, with a command and without.
-/

namespace CurlRequest.CommandLine

namespace Program

variable {α β : Type}
variable {targets : List Path}

/-- Where two actions one after the other go well, each of them does. -/
theorem exists_of_run_bind_ok
    {action : Program α}
    {next : α → Program β}
    {s s' : Session}
    {b : β}
    (h : (action >>= next).run s = (.ok b, s')) :
    ∃ a middle, action.run s = (.ok a, middle) ∧ (next a).run middle = (.ok b, s') := by
  rw [run_bind] at h
  cases hrun : action.run s with
  | mk result middle =>
      rw [hrun] at h
      cases result with
      | error stop =>
          cases h
      | ok a =>
          exact ⟨a, middle, rfl, h⟩

/-! ## Quiet actions -/

/-- An action that prints nothing to the standard output and leaves the files as they are, whether it
goes well or ends the run. -/
def Quiet (action : Program α) : Prop :=
  ∀ s, (action.run s).2.standardOutput = s.standardOutput ∧ (action.run s).2.files = s.files

/-- After a quiet action the files are as before. -/
theorem Quiet.files_eq
    {action : Program α}
    {s s' : Session}
    {result : Except Stop α}
    (h : Quiet action)
    (hrun : action.run s = (result, s')) :
    s'.files = s.files := by
  have hfiles := (h s).2
  rw [hrun] at hfiles
  exact hfiles

/-- Quiet actions are quiet one after the other. -/
theorem Quiet.bind
    {action : Program α}
    {next : α → Program β}
    (haction : Quiet action)
    (hnext : ∀ a, Quiet (next a)) :
    Quiet (action >>= next) := by
  intro s
  obtain ⟨houtput, hfiles⟩ := haction s
  rw [run_bind]
  cases hrun : action.run s with
  | mk result middle =>
      rw [hrun] at houtput hfiles
      cases result with
      | error stop =>
          exact ⟨houtput, hfiles⟩
      | ok a =>
          obtain ⟨houtput', hfiles'⟩ := hnext a middle
          exact ⟨houtput'.trans houtput, hfiles'.trans hfiles⟩

/-- Giving a value is quiet. -/
theorem quiet_pure
    (a : α) :
    Quiet (pure a : Program α) :=
  fun _ => ⟨rfl, rfl⟩

/-- Ending the run is quiet. -/
theorem quiet_throw
    (stop : Stop) :
    Quiet (throw stop : Program α) :=
  fun _ => ⟨rfl, rfl⟩

/-- Reporting a fault of files is quiet. -/
theorem quiet_exitOnPathFault
    (console : Terminal.Console)
    (message : Text)
    (fault : FileFault) :
    Quiet (exitOnPathFault console message fault : Program α) := by
  intro s
  rw [run_exitOnPathFault]
  cases reportOf console message fault with
  | ok said =>
      exact ⟨rfl, Session.files_print _ _ s⟩
  | error crash =>
      exact ⟨rfl, rfl⟩

/-- Loading the settings is quiet. -/
theorem quiet_settings
    (context : Context) :
    Quiet (settings context) := by
  intro s
  obtain ⟨warned, hrun⟩ := exists_run_settings context s
  rw [hrun]
  exact ⟨rfl, Session.files_print _ _ s⟩

/-- The settings that are loaded. -/
theorem settingsOf_of_run
    {context : Context}
    {settings : Settings}
    {s s' : Session}
    (h : (Program.settings context).run s = (.ok settings, s')) :
    settingsOf context s.files = .ok settings := by
  obtain ⟨warned, hrun⟩ := exists_run_settings context s
  rw [hrun] at h
  cases hsettings : settingsOf context s.files with
  | error crash =>
      rw [hsettings] at h
      cases h
  | ok found =>
      rw [hsettings] at h
      cases h
      rfl

/-! ## Confined actions -/

/-- An action that changes no files but those at some paths and what is missing above them. -/
def Confined (targets : List Path) (action : Program α) : Prop :=
  ∀ s, FileTree.ChangesOnly targets s.files (action.run s).2.files

/-- A quiet action changes no files. -/
theorem Quiet.confined
    {action : Program α}
    (h : Quiet action) :
    Confined targets action := by
  intro s
  rw [(h s).2]
  exact FileTree.ChangesOnly.refl targets s.files

/-- Confined actions are confined one after the other. -/
theorem Confined.bind
    {action : Program α}
    {next : α → Program β}
    (haction : Confined targets action)
    (hnext : ∀ a, Confined targets (next a)) :
    Confined targets (action >>= next) := by
  intro s
  have h := haction s
  rw [run_bind]
  cases hrun : action.run s with
  | mk result middle =>
      rw [hrun] at h
      cases result with
      | error stop =>
          exact h
      | ok a =>
          exact h.trans (hnext a middle)

end Program

namespace Conversion

open Program (Quiet Confined)

variable {context : Context}
variable {c : Conversion}
variable {settings : Settings}
variable {format : OutputFormat}
variable {command : Curl.Command}
variable {s s' : Session}

/-! ## Coming to a command -/

theorem quiet_chooseThreshold
    (c : Conversion)
    (settings : Settings) :
    Quiet (c.chooseThreshold settings) := by
  intro s
  unfold chooseThreshold
  dsimp only
  split
  · exact ⟨rfl, rfl⟩
  · exact Program.quiet_throw _ s

/-- A level that is set is known. -/
theorem level_isSome_of_run
    {u : Unit}
    (h : (c.chooseThreshold settings).run s = (.ok u, s')) :
    (severityOf? (c.levelName settings)).isSome = true := by
  unfold chooseThreshold at h
  unfold levelName
  dsimp only at h
  cases hlevel : severityOf? (Text.upper (givenOr c.logLevel settings.logLevel.name)) with
  | none =>
      rw [hlevel] at h
      cases h
  | some severity =>
      rfl

theorem quiet_chooseFormat
    (c : Conversion)
    (settings : Settings) :
    Quiet (c.chooseFormat settings) := by
  unfold chooseFormat
  split
  · exact Program.quiet_pure _
  · exact Program.quiet_throw _

/-- A form that is chosen has the name that is given. -/
theorem format?_of_run
    (h : (c.chooseFormat settings).run s = (.ok format, s')) :
    c.format? settings = some format := by
  unfold chooseFormat at h
  unfold format?
  cases hformat : OutputFormat.ofName?
      (Text.lower (givenOr c.format settings.outputFormat.name)) with
  | none =>
      rw [hformat] at h
      cases h
  | some found =>
      rw [hformat] at h
      cases h
      rfl

theorem quiet_readInput
    (context : Context)
    (c : Conversion) :
    Quiet (c.readInput context) := by
  intro s
  rw [run_readInput]
  cases requestText context s.files c with
  | ok t =>
      exact ⟨rfl, rfl⟩
  | error fault =>
      exact Program.quiet_exitOnPathFault context.console inputTrouble fault s

theorem quiet_readRequest
    (columns : Nat)
    (description : Text) :
    Quiet (readRequest columns description) := by
  intro s
  rw [run_readRequest]
  split
  · exact ⟨Session.standardOutput_note _ _ _ s, Session.files_note _ _ _ s⟩
  · refine ⟨Session.standardOutput_note _ _ _ s, ?_⟩
    rw [Session.files_print]
    exact Session.files_note _ _ _ s
  · exact ⟨rfl, rfl⟩

theorem quiet_buildCommand
    (r : Curl.Request)
    (flags : Curl.Flags) :
    Quiet (buildCommand r flags) := by
  intro s
  rw [run_buildCommand]
  split
  · exact ⟨Session.standardOutput_note _ _ _ s, Session.files_note _ _ _ s⟩
  · exact ⟨rfl, rfl⟩

/-- **Reading and converting** is quiet. -/
theorem quiet_command
    (context : Context)
    (c : Conversion)
    (settings : Settings) :
    Quiet (c.command context settings) := by
  apply (quiet_readInput context c).bind
  intro description
  apply (quiet_readRequest context.console.columns description).bind
  intro r
  exact quiet_buildCommand r _

/-- A command that is come to is that of the request that is read. -/
theorem converts_of_run
    (h : (c.command context settings).run s = (.ok command, s')) :
    c.Converts context s.files settings command := by
  rw [run_command] at h
  cases htext : requestText context s.files c with
  | error fault =>
      rw [htext] at h
      dsimp only at h
      rw [Program.run_exitOnPathFault] at h
      split at h <;> cases h
  | ok description =>
      rw [htext] at h
      dsimp only at h
      rw [run_readRequest] at h
      cases hread : Curl.Request.ofDescription (.text description) with
      | error fault =>
          rw [hread] at h
          cases fault <;> cases h
      | ok r =>
          rw [hread] at h
          dsimp only at h
          rw [run_buildCommand] at h
          refine ⟨r, ⟨description, htext, hread⟩, ?_⟩
          rw [Curl.Command.ofRequest]
          cases hparts : r.parts (settings.defaultFlags.union c.flags) with
          | error fault =>
              rw [hparts] at h
              cases h
          | ok parts =>
              rw [hparts] at h
              cases h
              rfl

/-- What a conversion does until it has a command. -/
def prepare (context : Context) (c : Conversion) :
    Program (Settings × OutputFormat × Curl.Command) := do
  let settings ← Program.settings context
  c.chooseThreshold settings
  let format ← c.chooseFormat settings
  let command ← c.command context settings
  pure (settings, format, command)

/-- **Until it has a command**, a conversion is quiet. -/
theorem quiet_prepare
    (context : Context)
    (c : Conversion) :
    Quiet (c.prepare context) := by
  apply (Program.quiet_settings context).bind
  intro settings
  apply (quiet_chooseThreshold c settings).bind
  intro _
  apply (quiet_chooseFormat c settings).bind
  intro format
  apply (quiet_command context c settings).bind
  intro command
  exact Program.quiet_pure _

/-- A conversion that has a command was ready for it and has converted its description. -/
theorem ready_and_converts_of_prepare
    (h : (c.prepare context).run s = (.ok (settings, format, command), s')) :
    c.Ready context s.files settings format ∧ c.Converts context s.files settings command := by
  obtain ⟨found, s₁, hsettings, h⟩ := Program.exists_of_run_bind_ok h
  obtain ⟨u, s₂, hlevel, h⟩ := Program.exists_of_run_bind_ok h
  obtain ⟨form, s₃, hformat, h⟩ := Program.exists_of_run_bind_ok h
  obtain ⟨made, s₄, hcommand, h⟩ := Program.exists_of_run_bind_ok h
  rw [Program.run_pure] at h
  cases h
  have hfiles₁ : s₁.files = s.files := (Program.quiet_settings context).files_eq hsettings
  have hfiles₂ : s₂.files = s₁.files := (quiet_chooseThreshold c settings).files_eq hlevel
  have hfiles₃ : s₃.files = s₂.files := (quiet_chooseFormat c settings).files_eq hformat
  have hconverts := converts_of_run hcommand
  rw [hfiles₃, hfiles₂, hfiles₁] at hconverts
  exact ⟨⟨Program.settingsOf_of_run hsettings, level_isSome_of_run hlevel, format?_of_run hformat⟩,
    hconverts⟩

/-- **A conversion** is what comes to a command, and delivering it. -/
theorem run_eq
    (context : Context)
    (c : Conversion) :
    c.run context = (do
      let (settings, format, command) ← c.prepare context
      c.deliver context.console format (c.showsFull settings) command) := by
  simp only [run, prepare, bind_assoc, pure_bind]

/-! ## Delivering -/

/-- The paths at which a conversion saves something. -/
def targets (c : Conversion) : List Path :=
  c.output.toList ++ c.script.toList

/-- What a conversion saves changes files at these paths only. -/
theorem confined_of_mem_exports
    {showFull : Bool}
    {e : Export}
    (h : e ∈ c.exports showFull command) :
    FileAction.Confined c.targets e.action := by
  have hsave {p : Path} (hp : p ∈ c.targets) (steps : List FileStep) (text : Text) :
      FileAction.Confined c.targets (do
        FileAction.makeDirectories p.parent
        FileAction.writeAfter p steps text) :=
    (FileAction.confined_makeDirectories hp).bind fun _ =>
      FileAction.confined_writeAfter hp steps text
  rcases List.mem_append.mp h with h | h
  · obtain ⟨p, hp, rfl⟩ := List.mem_map.mp h
    exact hsave (List.mem_append_left _ hp) [.openEmpty 0o666] _
  · obtain ⟨p, hp, rfl⟩ := List.mem_map.mp h
    exact hsave (List.mem_append_right _ hp) Curl.Command.scriptPreparation _

/-- Saving something changes what it changes, whether it is announced or not. -/
theorem confined_saveAs
    {targets : List Path}
    {action : FileAction Unit}
    (h : FileAction.Confined targets action)
    (console : Terminal.Console)
    (message : Text)
    (p : Path) :
    Confined targets (save.saveAs console action message p) := by
  intro s
  have hfiles := h s.files
  rw [run_saveAs]
  cases hrun : action.run s.files with
  | mk result files =>
      rw [hrun] at hfiles
      cases result with
      | ok u =>
          dsimp only
          split
          · rw [Session.files_print]
            exact hfiles
          · exact hfiles
      | error fault =>
          dsimp only
          split
          · rw [Session.files_print]
            exact hfiles
          · exact hfiles

/-- Saving one thing after the other. -/
theorem confined_saveAll
    {targets : List Path}
    (console : Terminal.Console)
    (es : List Export)
    (h : ∀ e ∈ es, FileAction.Confined targets e.action) :
    Confined targets (saveAll console es) := by
  induction es with
  | nil =>
      exact (Program.quiet_pure ()).confined
  | cons e rest ih =>
      have hrest := ih fun f hf => h f (List.mem_cons_of_mem e hf)
      rw [saveAll]
      exact (confined_saveAs (h e List.mem_cons_self) console e.message e.path).bind fun _ => hrest

/-- **Delivering a command** changes files at the given paths only. -/
theorem confined_deliver
    (console : Terminal.Console)
    (c : Conversion)
    (format : OutputFormat)
    (showFull : Bool)
    (command : Curl.Command) :
    Confined c.targets (c.deliver console format showFull command) := by
  have hsave : Confined c.targets (c.save console showFull command) := by
    intro s
    rw [run_save]
    exact confined_saveAll console _ (fun e he => confined_of_mem_exports he) s
  have hprint : Confined c.targets (c.print console.columns format showFull command) := by
    intro s
    rw [run_print]
    split
    · rw [Session.files_print]
      exact FileTree.ChangesOnly.refl _ _
    · rw [Session.files_print]
      exact FileTree.ChangesOnly.refl _ _
  exact hsave.bind fun _ => hprint

/-! ## Whole runs -/

variable {files : FileTree}
variable {arguments rest : List Text}

/-- The command that a run of a conversion comes to. -/
def Yields (context : Context) (files : FileTree) (rest : List Text) (command : Curl.Command) :
    Prop :=
  ∃ a settings format,
    Asks rest a ∧ (ofArguments a).Ready context files settings format ∧
      (ofArguments a).Converts context files settings command

/-- A conversion that comes to no command is quiet. -/
theorem quiet_of_not_converts
    (h : ∀ settings format command,
      c.Ready context s.files settings format → ¬ c.Converts context s.files settings command) :
    ((c.run context).run s).2.standardOutput = s.standardOutput ∧
      ((c.run context).run s).2.files = s.files := by
  have hquiet := quiet_prepare context c s
  rw [run_eq, Program.run_bind]
  cases hrun : (c.prepare context).run s with
  | mk result middle =>
      rw [hrun] at hquiet
      cases result with
      | error stop =>
          exact hquiet
      | ok prepared =>
          obtain ⟨settings, format, command⟩ := prepared
          obtain ⟨hready, hconverts⟩ := ready_and_converts_of_prepare hrun
          exact absurd hconverts (h settings format command hready)

/-- A conversion changes files at the given paths only. -/
theorem confined_run
    (context : Context)
    (c : Conversion) :
    Confined c.targets (c.run context) := by
  rw [run_eq]
  apply (quiet_prepare context c).confined.bind
  rintro ⟨settings, format, command⟩
  exact confined_deliver context.console c format (c.showsFull settings) command

/-- A run that is not asked for help is closed at once by the handler, or it is asked for a
conversion. -/
theorem run_eq_close_or_asks
    (context : Context)
    (files : FileTree)
    (hcommand : select Command.byName arguments = .ok (.command .convert rest))
    (hhelp : ∀ a, parseArguments conversionOptions true rest = .ok a → a.has .help = false) :
    (∃ stop, CommandLine.run context files arguments =
        context.handler.close stop (Session.start files)) ∨
      ∃ a, Asks rest a := by
  rw [run_convert context files hcommand]
  rcases parse_cases rest (Session.start files) with
    ⟨fault, -, hrun⟩ | ⟨a, hparse, hasks, -⟩ | ⟨a, -, -, -, hrun⟩ | ⟨a, hasked, -⟩
  · rw [hrun]
    exact Or.inl ⟨_, rfl⟩
  · rw [hhelp a hparse] at hasks
    cases hasks
  · rw [hrun]
    exact Or.inl ⟨_, rfl⟩
  · exact Or.inr ⟨a, hasked⟩

/-- **No effect without a command.**  A run of a conversion that is not asked for help and comes to
no command prints nothing to the standard output and leaves the files exactly as they are.  And a run
with a command changes nothing but the files at the given paths and the directories that are missing
above them.  The files are those of a `FileTree`: there are no links in it, so a path leads to one
place, and neither permissions nor devices stand in the way of an action. -/
theorem run_effects
    (context : Context)
    (files : FileTree)
    (hcommand : select Command.byName arguments = .ok (.command .convert rest))
    (hhelp : ∀ a, parseArguments conversionOptions true rest = .ok a → a.has .help = false) :
    ((¬ ∃ command, Yields context files rest command) →
      (CommandLine.run context files arguments).session.standardOutput = [] ∧
        (CommandLine.run context files arguments).session.files = files) ∧
    ∀ a, parseArguments conversionOptions true rest = .ok a →
      FileTree.ChangesOnly (ofArguments a).targets files
        (CommandLine.run context files arguments).session.files := by
  rcases run_eq_close_or_asks context files hcommand hhelp with ⟨stop, hrun⟩ | ⟨a, hasked⟩
  · rw [hrun]
    exact ⟨fun _ => ⟨rfl, rfl⟩, fun a _ => FileTree.ChangesOnly.refl _ files⟩
  · rw [run_convert_of_asks context files hcommand hasked]
    constructor
    · intro hnone
      refine quiet_of_not_converts (s := Session.start files) fun settings format command => ?_
      intro hready hconverts
      exact hnone ⟨command, a, settings, format, hasked, hready, hconverts⟩
    · intro b hparse
      rw [hasked.parse_eq] at hparse
      cases hparse
      exact confined_run context (ofArguments a) (Session.start files)

/-- Files with a script that can be read by all. -/
def scriptFiles : FileTree :=
  FileTree.ofTexts [("s.sh", "old")]

/-- The arguments of a run that saves a command in a new directory and in place of that script. -/
def savingArguments (description : Text) : List Text :=
  ["--json", description, "--output", "d/o.json", "--script", "s.sh"]

/-- The outcome of such a run. -/
def savingRun (description : Text) : Outcome :=
  CommandLine.run (localContext []) scriptFiles ("convert" :: savingArguments description)

/-- A description without a URL leaves the script as it is; one with a URL is saved in both places. -/
theorem run_effects_existingScript :
    (savingRun "\x7b\x7d").session.standardOutput = [] ∧
      (savingRun "\x7b\x7d").session.files = scriptFiles ∧
      (savingRun "\x7b\"url\":\"u\"\x7d").stop = .exit 0 ∧
      FileTree.ChangesOnly [Path.ofText "d/o.json", Path.ofText "s.sh"] scriptFiles
        (savingRun "\x7b\"url\":\"u\"\x7d").session.files := by
  have hcommand (description : Text) :
      select Command.byName ("convert" :: savingArguments description) =
        .ok (.command .convert (savingArguments description)) := by
    rfl
  have hparse (description : Text) :
      parseArguments conversionOptions true (savingArguments description) =
        .ok ⟨[(.json, description), (.output, "d/o.json"), (.script, "s.sh")], []⟩ := by
    rfl
  have hhelp (description : Text) (a : Arguments ConversionOption)
      (ha : parseArguments conversionOptions true (savingArguments description) = .ok a) :
      a.has .help = false := by
    rw [hparse] at ha
    cases ha
    rfl
  have hrefused :
      (Curl.Request.ofDescription (.text "\x7b\x7d")).toOption.isNone = true := by
    decide +kernel
  have hnone : ¬ ∃ command,
      Yields (localContext []) scriptFiles (savingArguments "\x7b\x7d") command := by
    rintro ⟨command, a, settings, format, hasked, -, r, ⟨description, htext, hread⟩, -⟩
    have ha := hasked.parse_eq
    rw [hparse] at ha
    cases ha
    obtain rfl : Text.ofString "\x7b\x7d" = description := Except.ok.inj htext
    rw [hread] at hrefused
    cases hrefused
  obtain ⟨hquiet, -⟩ :=
    run_effects (localContext []) scriptFiles (hcommand "\x7b\x7d") (hhelp "\x7b\x7d")
  obtain ⟨-, hconfined⟩ :=
    run_effects (localContext []) scriptFiles (hcommand "\x7b\"url\":\"u\"\x7d")
      (hhelp "\x7b\"url\":\"u\"\x7d")
  have hstop : (savingRun "\x7b\"url\":\"u\"\x7d").stop = .exit 0 := by
    decide +kernel
  obtain ⟨houtput, hfiles⟩ := hquiet hnone
  have hsaved := hconfined _ (hparse _)
  unfold savingRun at hstop ⊢
  exact ⟨houtput, hfiles, hstop, hsaved⟩

end Conversion

end CurlRequest.CommandLine
