import CurlRequest.Proofs.CommandLine.Agreement
import CurlRequest.Proofs.Curl.Masking
import Mathlib.Computability.Primrec.List

/-!
# A conversion keeps secrets

A run that does not ask for the full command shows of a secret what the masked rendering shows, and
nothing else.  This is a statement about two runs: if their requests differ only in what the masked
rendering does not show, then both print the same to both streams, keep the same log, write the same
to the same files and end in the same way.  The two runs are followed side by side, stage by stage.
Until the request is read they do the same; from then on the requests, and later the commands, look
alike.

A run that ends by a fault leaves the last word to the handler around it, which is no part of the
program.  A handler that shows the values of local variables lets secrets out.  So it is assumed that
the handler says the same about the same fault, and whatever it says, the two runs cannot be told apart
by anything else.

**Results.**
* `Arguments.AlikeBut`: arguments that differ in one option only.
* `agree_settings`, `agree_readInput`, `agree_readRequest`, `agree_buildCommand`, `agree_save`,
  `agree_print`: the stages of two runs side by side.
* `run_eq_of_maskedAlike`: two runs on requests that look alike cannot be told apart.
* `standardError_eq_iff_of_maskedAlike`: without the assumption, they can iff the handler tells.
-/

namespace CurlRequest.CommandLine

/-! ## Arguments -/

/-- Arguments that differ in the values of one option only. -/
structure Arguments.AlikeBut {κ : Type} (key : κ) (a a' : Arguments κ) : Prop where
  others : a.others = a'.others
  options : List.Forall₂ (fun o o' => o.1 = o'.1 ∧ (o.1 ≠ key → o.2 = o'.2)) a.options a'.options

namespace Arguments.AlikeBut

variable {κ : Type}

/-- Arguments do not differ from themselves. -/
theorem refl
    (key : κ)
    (a : Arguments κ) :
    a.AlikeBut key a where
  others := rfl
  options := List.forall₂_same.mpr fun _ _ => ⟨rfl, fun _ => rfl⟩

variable [DecidableEq κ]
variable {key other : κ}
variable {a a' : Arguments κ}

/-- Another option has the same values. -/
theorem values_eq
    (h : a.AlikeBut key a')
    (hother : other ≠ key) :
    a.values other = a'.values other := by
  have hoptions := h.options
  unfold values
  generalize a.options = os at hoptions ⊢
  generalize a'.options = os' at hoptions ⊢
  induction hoptions with
  | nil =>
      rfl
  | @cons o o' _ _ ho _ ih =>
      obtain ⟨hkey, hvalue⟩ := ho
      rw [List.filter_cons, List.filter_cons, ← hkey]
      by_cases heq : o.1 = other
      · rw [if_pos (decide_eq_true heq), if_pos (decide_eq_true heq), List.map_cons,
          List.map_cons, ih, hvalue (heq ▸ hother)]
      · rw [if_neg (by simpa using heq), if_neg (by simpa using heq), ih]

/-- Another option is given in both. -/
theorem has_eq
    (h : a.AlikeBut key a')
    (hother : other ≠ key) :
    a.has other = a'.has other := by
  rw [has, has, h.values_eq hother]

/-- Another option has the same last value. -/
theorem value?_eq
    (h : a.AlikeBut key a')
    (hother : other ≠ key) :
    a.value? other = a'.value? other := by
  rw [value?, value?, h.values_eq hother]

end Arguments.AlikeBut

/-- Arguments that differ in the inline description only ask for the same in all else. -/
theorem Conversion.ofArguments_alike
    {a a' : Arguments ConversionOption}
    (h : a.AlikeBut .json a') :
    ofArguments a' = { ofArguments a with inline := (ofArguments a').inline } := by
  have hvalue (key : ConversionOption) (hkey : key ≠ .json) : a'.value? key = a.value? key :=
    (h.value?_eq hkey).symm
  have hhas (key : ConversionOption) (hkey : key ≠ .json) : a'.has key = a.has key :=
    (h.has_eq hkey).symm
  have hflags : (fun f => a'.has (.flag f)) = fun f => a.has (.flag f) := by
    funext f
    exact hhas (.flag f) (by simp)
  simp only [ofArguments, h.others, hflags, hhas .full (by decide), hhas .pretty (by decide),
    hvalue .format (by decide), hvalue .output (by decide), hvalue .script (by decide),
    hvalue .logLevel (by decide)]

/-! ## What two runs are given -/

/-- Two runs that are given the same, but for what they read as the request: the environment, the
console and the files of variables are the same, and the other files may differ in what they hold. -/
structure SameSurroundings (context context' : Context) (files files' : FileTree) : Prop where
  environment : context.environment = context'.environment
  userFile : context.userFile = context'.userFile
  console : context.console = context'.console
  shape : FileTree.SameShape files files'
  project : Settings.variablesAt files Settings.projectFile =
    Settings.variablesAt files' Settings.projectFile
  own : Settings.variablesAt files context.userFile =
    Settings.variablesAt files' context.userFile

/-- The handlers around two runs show of each fault what does not differ between the runs: its wording
and where it has occurred, but no values of variables. -/
def SameReports (context context' : Context) : Prop :=
  ∀ stop, context.handler.report stop = context'.handler.report stop

/-- The two trees that the runs have started on. -/
def Untouched (files files' t t' : FileTree) : Prop :=
  t = files ∧ t' = files'

/-- At the start nothing is changed. -/
theorem SameSurroundings.alike_of_untouched
    {context context' : Context}
    {files files' : FileTree}
    (hsame : SameSurroundings context context' files files')
    (t t' : FileTree)
    (h : Untouched files files' t t') :
    FileTree.Alike files files' t t' := by
  obtain ⟨rfl, rfl⟩ := h
  exact hsame.shape.alike

/-- The settings of a run, if there are any, do not ask for the full command. -/
def MasksSecrets (context : Context) (files : FileTree) : Prop :=
  ∀ project own settings,
    Settings.variablesAt files Settings.projectFile = .ok project →
    Settings.variablesAt files context.userFile = .ok own →
    Settings.ofSources [] (.ofTexts context.environment own project) = .ok settings →
    settings.showFull = false

namespace Conversion

open Program

variable {context context' : Context}
variable {files files' : FileTree}
variable {F : FileTree → FileTree → Prop}
variable {c : Conversion}
variable {inline' : Option Text}

/-! ## The stages, side by side -/

/-- Both runs have the same settings, and they do not ask for the full command. -/
theorem agree_settings
    (hsame : SameSurroundings context context' files files')
    (hmasks : MasksSecrets context files) :
    Agree (Untouched files files') (Untouched files files')
      (fun settings settings' => settings = settings' ∧ settings.showFull = false)
      (Program.settings context) (Program.settings context') := by
  intro s s' h
  obtain ⟨hfiles, hfiles'⟩ := h.files
  rw [run_settings, run_settings, hfiles, hfiles', ← hsame.project, ← hsame.userFile, ← hsame.own,
    ← hsame.environment]
  cases hproject : Settings.variablesAt files Settings.projectFile with
  | error fault =>
      exact ⟨.error _, h⟩
  | ok project =>
      cases hown : Settings.variablesAt files context.userFile with
      | error fault =>
          exact ⟨.error _, h.print .error _⟩
      | ok own =>
          dsimp only
          cases hsettings : Settings.ofSources [] (.ofTexts context.environment own project) with
          | error faults =>
              exact ⟨.error _, (h.print .error _).print .error _⟩
          | ok settings =>
              have hmasked := hmasks project own settings hproject hown hsettings
              exact ⟨.ok ⟨rfl, hmasked⟩, (h.print .error _).print .error _⟩

/-- Both runs keep the same log records from here on. -/
theorem agree_chooseThreshold
    (settings : Settings) :
    Agree F F (· = ·) (c.chooseThreshold settings)
      ({ c with inline := inline' }.chooseThreshold settings) := by
  intro s s' h
  unfold chooseThreshold
  dsimp only
  cases severityOf? (Text.upper (givenOr c.logLevel settings.logLevel.name)) with
  | none =>
      exact ⟨.error _, h⟩
  | some severity =>
      exact ⟨.ok rfl, h.standardOutput, h.standardError, h.log, rfl, h.files⟩

/-- Both runs print in the same form. -/
theorem agree_chooseFormat
    (settings : Settings) :
    Agree F F (· = ·) (c.chooseFormat settings)
      ({ c with inline := inline' }.chooseFormat settings) := by
  unfold chooseFormat
  dsimp only
  cases OutputFormat.ofName? (Text.lower (givenOr c.format settings.outputFormat.name)) with
  | none =>
      exact agree_throw _
  | some format =>
      exact agree_pure rfl

/-- Each run reads its description. -/
theorem agree_readInput
    {c' : Conversion}
    {description description' : Text}
    (htext : requestText context files c = .ok description)
    (htext' : requestText context' files' c' = .ok description') :
    Agree (Untouched files files') (Untouched files files')
      (fun t t' => t = description ∧ t' = description')
      (c.readInput context) (c'.readInput context') := by
  intro s s' h
  obtain ⟨hfiles, hfiles'⟩ := h.files
  rw [run_readInput, run_readInput, hfiles, hfiles', htext, htext']
  exact ⟨.ok ⟨rfl, rfl⟩, h⟩

/-- What is logged of requests that look alike is the same. -/
theorem requestNote_eq
    {r r' : Curl.Request}
    (h : r.MaskedAlike r') :
    requestNote r = requestNote r' := by
  rw [requestNote, requestNote, Curl.Request.hasBody, Curl.Request.hasBody, h.method, h.body,
    h.length_headers]

/-- Each run has its request, and both log the same. -/
theorem agree_readRequest
    {description description' : Text}
    {r r' : Curl.Request}
    (hr : Curl.Request.ofDescription (.text description) = .ok r)
    (hr' : Curl.Request.ofDescription (.text description') = .ok r')
    (halike : r.MaskedAlike r')
    (columns : Nat) :
    Agree F F (fun q q' => q = r ∧ q' = r') (readRequest columns description)
      (readRequest columns description') := by
  intro s s' h
  rw [run_readRequest, run_readRequest, hr, hr']
  dsimp only
  rw [requestNote_eq halike]
  exact ⟨.ok ⟨rfl, rfl⟩, h.note _ _ _⟩

/-- What is logged of the parts of requests that look alike is the same. -/
theorem partsNote_eq
    {r r' : Curl.Request}
    (h : r.MaskedAlike r')
    (flags : Curl.Flags)
    (bodyText : Text) :
    partsNote (r.partsWith flags bodyText) = partsNote (r'.partsWith flags bodyText) := by
  have hredacted := h.redacted_eq flags bodyText
  have hlength := congrArg List.length hredacted
  have hcount := congrArg (List.countP id) hredacted
  simp only [List.length_map] at hlength
  simp only [List.countP_map, Function.comp_def, id] at hcount
  rw [partsNote, partsNote, hlength, hcount]

/-- The commands of the two runs look alike, and both log the same. -/
theorem agree_buildCommand
    {r r' : Curl.Request}
    (halike : r.MaskedAlike r')
    (flags : Curl.Flags) :
    Agree F F (fun command command' => command.masked = command'.masked)
      (buildCommand r flags) (buildCommand r' flags) := by
  intro s s' h
  rw [run_buildCommand, run_buildCommand, Curl.Request.parts_eq_map_partsWith,
    Curl.Request.parts_eq_map_partsWith, ← halike.body]
  cases r.body.toText with
  | error fault =>
      exact ⟨.error _, h⟩
  | ok bodyText =>
      dsimp only [Except.map]
      rw [partsNote_eq halike]
      exact ⟨.ok (halike.masked_eq flags bodyText), h.note _ _ _⟩

/-- Each run reads its request and converts it. -/
theorem agree_command
    {c' : Conversion}
    {r r' : Curl.Request}
    (hconsole : context.console = context'.console)
    (hflags : c.flags = c'.flags)
    (hr : c.Reads context files r)
    (hr' : c'.Reads context' files' r')
    (halike : r.MaskedAlike r')
    (settings : Settings) :
    Agree (Untouched files files') (Untouched files files')
      (fun command command' => command.masked = command'.masked)
      (c.command context settings) (c'.command context' settings) := by
  obtain ⟨description, htext, hread⟩ := hr
  obtain ⟨description', htext', hread'⟩ := hr'
  unfold command
  refine (agree_readInput htext htext').bind ?_
  rintro _ _ ⟨rfl, rfl⟩
  rw [← hconsole]
  refine (agree_readRequest hread hread' halike _).bind ?_
  rintro _ _ ⟨rfl, rfl⟩
  rw [hflags]
  exact agree_buildCommand halike _

section Delivery

variable {command command' : Curl.Command}

/-- Commands that look alike have the same JSON text without secrets. -/
theorem jsonText_eq
    (h : command.masked = command'.masked) :
    command.jsonText false = command'.jsonText false := by
  simp only [Curl.Command.jsonText, Curl.Command.toJson, Bool.false_eq_true, if_false, h]

/-- Saving by an action that is blind to what files hold agrees. -/
theorem agree_saveAs
    {action : FileAction Unit}
    (haction : FileAction.Blind action)
    (console : Terminal.Console)
    (message : Text)
    (p : Path) :
    Agree (FileTree.Alike files files') (FileTree.Alike files files') (· = ·)
      (save.saveAs console action message p) (save.saveAs console action message p) := by
  unfold save.saveAs
  refine (agree_onFiles haction ?_).bind fun _ _ _ => agree_say console _ _
  exact fun fault => agree_exitOnPathFault console _ fault

/-- Both runs save the same, if no script is saved. -/
theorem agree_save
    (h : command.masked = command'.masked)
    (hscript : c.script = none)
    (console : Terminal.Console) :
    Agree (FileTree.Alike files files') (FileTree.Alike files files') (· = ·)
      (c.save console false command) ({ c with inline := inline' }.save console false command') := by
  unfold save
  dsimp only
  rw [hscript]
  cases c.output with
  | none =>
      exact agree_pure rfl
  | some p =>
      have hsame : command.saveJson false p = command'.saveJson false p := by
        rw [Curl.Command.saveJson, Curl.Command.saveJson, jsonText_eq h]
      have hblind : FileAction.Blind (command'.saveJson false p) :=
        (FileAction.blind_makeDirectories p.parent).bind fun _ => FileAction.blind_writeText p _
      dsimp only
      rw [hsame]
      unfold save.saveAs
      exact (agree_saveAs hblind console _ p).bind fun _ _ _ => agree_pure rfl

/-- Without secrets the masked rendering is shown. -/
@[simp] theorem shownText_false
    (command : Curl.Command) :
    shownText false command = command.masked := rfl

/-- What is printed of commands that look alike is the same. -/
theorem printed_eq
    (h : command.masked = command'.masked)
    (columns : Nat)
    (format : OutputFormat) :
    printed columns c format false command =
      printed columns { c with inline := inline' } format false command' := by
  have hpanel : commandPanel columns false command = commandPanel columns false command' := by
    simp only [commandPanel, shownText_false, h]
  simp only [printed, jsonText_eq h, hpanel, shownText_false, h]

/-- Both runs print the same. -/
theorem agree_print
    (h : command.masked = command'.masked)
    (columns : Nat)
    (format : OutputFormat) :
    Agree F F (· = ·) (c.print columns format false command)
      ({ c with inline := inline' }.print columns format false command') := by
  intro s s' hs
  rw [run_print, run_print, ← printed_eq h]
  cases printed columns c format false command with
  | ok t =>
      exact ⟨.ok rfl, hs.print .output t⟩
  | error wrong =>
      exact ⟨.error _, hs.print .output wrong.2⟩

end Delivery

/-! ## Two runs -/

/-- Conversions that differ in the inline description agree, if their requests look alike. -/
theorem agree_run
    {r r' : Curl.Request}
    (hsame : SameSurroundings context context' files files')
    (hmasks : MasksSecrets context files)
    (hfull : c.full = false)
    (hscript : c.script = none)
    (hr : c.Reads context files r)
    (hr' : Reads context' files' { c with inline := inline' } r')
    (halike : r.MaskedAlike r') :
    Agree (Untouched files files') (FileTree.Alike files files') (· = ·)
      (c.run context) ({ c with inline := inline' }.run context') := by
  have hstart := hsame.alike_of_untouched
  have hdeliver (format : OutputFormat) (command command' : Curl.Command)
      (h : command.masked = command'.masked) :
      Agree (FileTree.Alike files files') (FileTree.Alike files files') (· = ·)
        (c.deliver context.console format false command)
        ({ c with inline := inline' }.deliver context.console format false command') :=
    (agree_save h hscript context.console).bind fun _ _ _ => agree_print h _ format
  unfold run
  refine (agree_settings hsame hmasks).bind_weaken hstart ?_
  rintro settings _ ⟨rfl, hmasked⟩
  have hshows : c.showsFull settings = false := by
    rw [showsFull, hfull, hmasked, Bool.or_false]
  have hshows' : showsFull { c with inline := inline' } settings = false := hshows
  have hflags : c.flags = flags { c with inline := inline' } := rfl
  refine (agree_chooseThreshold settings).bind_weaken hstart ?_
  intro _ _ _
  refine (agree_chooseFormat settings).bind_weaken hstart ?_
  rintro format _ rfl
  refine (agree_command hsame.console hflags hr hr' halike settings).bind_weaken hstart ?_
  intro command command' h
  rw [hshows, hshows', ← hsame.console]
  exact (hdeliver format command command' h).strengthen hstart

/-- Both runs ask for help, or both for their conversion, or both end in the same way. -/
theorem agree_parse
    {rest rest' : List Text}
    {a a' : Arguments ConversionOption}
    (hparse : parseArguments conversionOptions true rest = .ok a)
    (hparse' : parseArguments conversionOptions true rest' = .ok a')
    (harguments : a.AlikeBut .json a') :
    Agree F F
      (fun asked asked' => (asked = none ∧ asked' = none) ∨
        (asked = some (ofArguments a) ∧ asked' = some (ofArguments a')))
      (parse rest) (parse rest') := by
  intro s s' h
  have hhelp : a'.has .help = a.has .help := (harguments.has_eq (by decide)).symm
  have hpaths : (ofArguments a').paths = (ofArguments a).paths := by
    rw [ofArguments_alike harguments]
    rfl
  have hothers : a'.others = a.others := harguments.others.symm
  rw [run_parse, run_parse, hparse, hparse']
  dsimp only
  rw [hhelp, hpaths]
  split
  · exact ⟨.ok (Or.inl ⟨rfl, rfl⟩), h⟩
  · split
    · exact ⟨.error _, h⟩
    · by_cases hcount : a.others.length ≤ 1
      · simp only [limitOthers, hothers, hcount, if_true]
        exact ⟨.ok (Or.inr ⟨rfl, rfl⟩), h⟩
      · simp only [limitOthers, hothers, hcount, if_false]
        exact ⟨.error _, h⟩

section Requests

variable {arguments arguments' rest rest' : List Text}
variable {a a' : Arguments ConversionOption}
variable {r r' : Curl.Request}

/-- Two runs on requests that look alike end alike, with sessions that differ in their files only. -/
theorem outcomes_of_maskedAlike
    (hcommand : select Command.byName arguments = .ok (.command .convert rest))
    (hcommand' : select Command.byName arguments' = .ok (.command .convert rest'))
    (hparse : parseArguments conversionOptions true rest = .ok a)
    (hparse' : parseArguments conversionOptions true rest' = .ok a')
    (harguments : a.AlikeBut .json a')
    (hfull : a.has .full = false)
    (hscript : a.has .script = false)
    (hsame : SameSurroundings context context' files files')
    (hmasks : MasksSecrets context files)
    (hr : (ofArguments a).Reads context files r)
    (hr' : (ofArguments a').Reads context' files' r')
    (halike : r.MaskedAlike r') :
    ∃ stop s s', Session.Alike (FileTree.Alike files files') s s' ∧
      CommandLine.run context files arguments = context.handler.close stop s ∧
      CommandLine.run context' files' arguments' = context'.handler.close stop s' := by
  have hnoScript : (ofArguments a).script = none := by
    have hvalues : a.values .script = [] := by
      simpa [Arguments.has] using hscript
    simp only [ofArguments, Arguments.value?, hvalues, List.getLast?_nil, Option.map_none]
  have hstart := hsame.alike_of_untouched
  have hagree : Agree (Untouched files files') (FileTree.Alike files files') (· = ·)
      (program context arguments) (program context' arguments') := by
    rw [program_convert context hcommand, program_convert context' hcommand']
    refine (agree_parse hparse hparse' harguments).bind_weaken hstart ?_
    rintro _ _ (⟨rfl, rfl⟩ | ⟨rfl, rfl⟩)
    · exact Agree.strengthen (agree_display .output _) hstart
    · rw [ofArguments_alike harguments] at hr' ⊢
      exact agree_run hsame hmasks hfull hnoScript hr hr' halike
  exact hagree.outcome ⟨rfl, rfl⟩

/-- **Secrets are kept.**  Take two runs of a conversion that does not ask for the full command or
for a script, neither in its arguments nor by its settings.  Let all that they are given be the same
but for the requests, and let the requests look alike.  Then both end in the same way, print the same
to both streams, keep the same log and set the same entries in the tree of files, if the handlers
around them say the same about the same end. -/
theorem run_eq_of_maskedAlike
    (hcommand : select Command.byName arguments = .ok (.command .convert rest))
    (hcommand' : select Command.byName arguments' = .ok (.command .convert rest'))
    (hparse : parseArguments conversionOptions true rest = .ok a)
    (hparse' : parseArguments conversionOptions true rest' = .ok a')
    (harguments : a.AlikeBut .json a')
    (hfull : a.has .full = false)
    (hscript : a.has .script = false)
    (hsame : SameSurroundings context context' files files')
    (hmasks : MasksSecrets context files)
    (hr : (ofArguments a).Reads context files r)
    (hr' : (ofArguments a').Reads context' files' r')
    (halike : r.MaskedAlike r')
    (hreports : SameReports context context') :
    (CommandLine.run context files arguments).stop =
        (CommandLine.run context' files' arguments').stop ∧
      (CommandLine.run context files arguments).session.standardOutput =
        (CommandLine.run context' files' arguments').session.standardOutput ∧
      (CommandLine.run context files arguments).session.standardError =
        (CommandLine.run context' files' arguments').session.standardError ∧
      (CommandLine.run context files arguments).session.log =
        (CommandLine.run context' files' arguments').session.log ∧
      ∃ changes,
        (CommandLine.run context files arguments).session.files = files.setAll changes ∧
        (CommandLine.run context' files' arguments').session.files = files'.setAll changes := by
  obtain ⟨stop, s, s', h, hrun, hrun'⟩ := outcomes_of_maskedAlike hcommand hcommand' hparse hparse'
    harguments hfull hscript hsame hmasks hr hr' halike
  have herror : s.standardError ++ context.handler.report stop =
      s'.standardError ++ context'.handler.report stop := by
    rw [h.standardError, hreports stop]
  rw [hrun, hrun']
  exact ⟨rfl, h.standardOutput, herror, h.log, h.files.changes⟩

/-- **Nothing but the handler** can tell the two runs apart: they print the same to the standard error
iff the handlers say the same about the end that the runs have come to. -/
theorem standardError_eq_iff_of_maskedAlike
    (hcommand : select Command.byName arguments = .ok (.command .convert rest))
    (hcommand' : select Command.byName arguments' = .ok (.command .convert rest'))
    (hparse : parseArguments conversionOptions true rest = .ok a)
    (hparse' : parseArguments conversionOptions true rest' = .ok a')
    (harguments : a.AlikeBut .json a')
    (hfull : a.has .full = false)
    (hscript : a.has .script = false)
    (hsame : SameSurroundings context context' files files')
    (hmasks : MasksSecrets context files)
    (hr : (ofArguments a).Reads context files r)
    (hr' : (ofArguments a').Reads context' files' r')
    (halike : r.MaskedAlike r') :
    (CommandLine.run context files arguments).session.standardError =
        (CommandLine.run context' files' arguments').session.standardError
      ↔
    context.handler.report (CommandLine.run context files arguments).stop =
      context'.handler.report (CommandLine.run context files arguments).stop := by
  obtain ⟨stop, s, s', h, hrun, hrun'⟩ := outcomes_of_maskedAlike hcommand hcommand' hparse hparse'
    harguments hfull hscript hsame hmasks hr hr' halike
  rw [hrun, hrun']
  simp only [Handler.close, h.standardError]
  exact List.append_right_inj s'.standardError

end Requests

/-- A file with a description that has a token. -/
def tokenFiles (token : Text) : FileTree :=
  FileTree.ofTexts
    [("a.json", "\x7b\"url\":\"u\",\"headers\":\x7b\"X-Token\":\"" ++ token ++ "\"\x7d\x7d")]

/-- The arguments of a conversion that saves the command of such a description at a path. -/
def tokenArguments (target : Text) : List Text :=
  ["a.json", "-o", target, "--log-level", "debug"]

/-- A run with these arguments, and some handler around it. -/
def tokenRun (handler : Handler) (target token : Text) : Outcome :=
  CommandLine.run { localContext [] with handler := handler } (tokenFiles token)
    ("convert" :: tokenArguments target)

/-- Two tokens of one class with the same ends, in runs that end well and in runs that end by a fault
which nobody handles, whatever the handler says about it. -/
theorem run_eq_of_maskedAlike_tokens :
    (tokenRun .plain "out.json" "abcd-first-yz").stop = .exit 0 ∧
      (tokenRun .plain "a[/x].json" "abcd-first-yz").stop =
        .crash (.markup (.unmatched 31 "/x")) ∧
      ∀ handler, ∀ target ∈ (["out.json", "a[/x].json"] : List Text),
        (tokenRun handler target "abcd-first-yz").stop =
          (tokenRun handler target "abcd-other-one-yz").stop ∧
        (tokenRun handler target "abcd-first-yz").session.standardOutput =
          (tokenRun handler target "abcd-other-one-yz").session.standardOutput ∧
        (tokenRun handler target "abcd-first-yz").session.standardError =
          (tokenRun handler target "abcd-other-one-yz").session.standardError ∧
        (tokenRun handler target "abcd-first-yz").session.log =
          (tokenRun handler target "abcd-other-one-yz").session.log ∧
        ∃ changes,
          (tokenRun handler target "abcd-first-yz").session.files =
            (tokenFiles "abcd-first-yz").setAll changes ∧
          (tokenRun handler target "abcd-other-one-yz").session.files =
            (tokenFiles "abcd-other-one-yz").setAll changes := by
  have hnone :
      Settings.variablesAt (tokenFiles "abcd-first-yz") Settings.projectFile = .ok [] ∧
      Settings.variablesAt (tokenFiles "abcd-first-yz") (localContext []).userFile = .ok [] ∧
      Settings.variablesAt (tokenFiles "abcd-other-one-yz") Settings.projectFile = .ok [] ∧
      Settings.variablesAt (tokenFiles "abcd-other-one-yz") (localContext []).userFile = .ok [] ∧
      (Settings.ofSources [] (.ofTexts (localContext []).environment [] [])).map
        Settings.showFull = .ok false := by
    decide +kernel
  obtain ⟨hproject, hown, hproject', hown', hmasked⟩ := hnone
  have hsame (handler : Handler) : SameSurroundings { localContext [] with handler := handler }
      { localContext [] with handler := handler } (tokenFiles "abcd-first-yz")
      (tokenFiles "abcd-other-one-yz") :=
    ⟨rfl, rfl, rfl, FileTree.sameShape_ofTexts _ _ _, by rw [hproject, hproject'],
      hown.trans hown'.symm⟩
  have hmasks (handler : Handler) :
      MasksSecrets { localContext [] with handler := handler } (tokenFiles "abcd-first-yz") := by
    intro project own settings h h' hsettings
    obtain rfl : [] = project := Except.ok.inj (hproject.symm.trans h)
    obtain rfl : [] = own := Except.ok.inj (hown.symm.trans h')
    have hshown : (Except.ok settings : Except (List Field.Fault) Settings).map Settings.showFull =
        .ok false := hsettings ▸ hmasked
    exact Except.ok.inj hshown
  have hread : Curl.Request.ofDescription (.text
      "\x7b\"url\":\"u\",\"headers\":\x7b\"X-Token\":\"abcd-first-yz\"\x7d\x7d") =
        .ok ⟨"u", "GET", [⟨"X-Token", "abcd-first-yz"⟩], .null⟩ := by
    cbv
  have hread' : Curl.Request.ofDescription (.text
      "\x7b\"url\":\"u\",\"headers\":\x7b\"X-Token\":\"abcd-other-one-yz\"\x7d\x7d") =
        .ok ⟨"u", "GET", [⟨"X-Token", "abcd-other-one-yz"⟩], .null⟩ := by
    cbv
  have hfile :
      ((FileAction.readText (Path.ofText "a.json")).run (tokenFiles "abcd-first-yz")).1 =
        .ok "\x7b\"url\":\"u\",\"headers\":\x7b\"X-Token\":\"abcd-first-yz\"\x7d\x7d" := by
    decide +kernel
  have hfile' :
      ((FileAction.readText (Path.ofText "a.json")).run (tokenFiles "abcd-other-one-yz")).1 =
        .ok "\x7b\"url\":\"u\",\"headers\":\x7b\"X-Token\":\"abcd-other-one-yz\"\x7d\x7d" := by
    decide +kernel
  have hvalues : Curl.Header.MaskedAlike ⟨"X-Token", "abcd-first-yz"⟩
      ⟨"X-Token", "abcd-other-one-yz"⟩ :=
    Or.inr ⟨by decide +kernel, Or.inr (by decide +kernel)⟩
  have halike : Curl.Request.MaskedAlike
      ⟨"u", "GET", [⟨"X-Token", "abcd-first-yz"⟩], .null⟩
      ⟨"u", "GET", [⟨"X-Token", "abcd-other-one-yz"⟩], .null⟩ :=
    ⟨rfl, rfl, rfl, rfl, List.Forall₂.cons hvalues List.Forall₂.nil⟩
  have hstops :
      (tokenRun .plain "out.json" "abcd-first-yz").stop = .exit 0 ∧
      (tokenRun .plain "a[/x].json" "abcd-first-yz").stop =
        .crash (.markup (.unmatched 31 "/x")) := by
    decide +kernel
  refine ⟨hstops.1, hstops.2, fun handler target _ => ?_⟩
  have hcommand : select Command.byName ("convert" :: tokenArguments target) =
      .ok (.command .convert (tokenArguments target)) := by
    rfl
  have hparse : parseArguments conversionOptions true (tokenArguments target) =
      .ok ⟨[(.output, target), (.logLevel, "debug")], ["a.json"]⟩ := by
    rfl
  exact run_eq_of_maskedAlike hcommand hcommand hparse hparse (.refl _ _) rfl rfl (hsame handler)
    (hmasks handler) ⟨_, hfile, hread⟩ ⟨_, hfile', hread'⟩ halike fun _ => rfl

end Conversion

end CurlRequest.CommandLine
