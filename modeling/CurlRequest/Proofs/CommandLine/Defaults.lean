import CurlRequest.Proofs.CommandLine.Configuration
import CurlRequest.Proofs.Curl.FlagSets
import CurlRequest.Proofs.Settings.Names
import CurlRequest.Proofs.Terminal.Content
import CurlRequest.Proofs.Terminal.Markup

/-!
# What makes a difference to stored defaults

The command that stores defaults first lists the names that no flag has, then writes the file, and
then says where the file is.  The first and the last are messages with tags, so a name in brackets
can be taken for a tag that closes nothing, or for one whose parameters the console refuses.  Then the
run ends before the file is written.

If the names can be listed, the file holds which flags are named and whether full commands are shown.
Spelling, order, repetition and other names make no difference.

**Results.**
* `asksFor_options`: any names can be given.
* `listable_of_unmarked`: names without brackets can be listed.
* `SameChoice.assignments_eq`: what is stored depends on the named flags.
* `run_store_of_listable`, `run_store_of_not_listable`: storing defaults in either case.
* `run_setDefaults`: when the run ends well, and what makes a difference to the file.
* `setDefaults_stops_at_closingTag`: a name because of which nothing is stored.
-/

namespace CurlRequest.CommandLine

open Terminal (normalName showEmoji)
open Terminal.Markup (dropEscapes opening pieces piecesAfter plainText plainText_labelled shown
  tagName)

/-! ## Messages -/

/-- A text in which nothing is taken for a tag, and that can be encoded. -/
structure Unmarked (t : Text) : Prop where
  opening : opening ∉ t
  surrogate : t.hasSurrogate = false

theorem Unmarked.append
    {t u : Text}
    (ht : Unmarked t)
    (hu : Unmarked u) :
    Unmarked (t ++ u) where
  opening := by
    rw [List.mem_append, not_or]
    exact ⟨ht.opening, hu.opening⟩
  surrogate := by
    rw [Text.hasSurrogate_append, ht.surrogate, hu.surrogate]
    rfl

theorem unmarked_space :
    Unmarked " " :=
  ⟨by decide, rfl⟩

/-- Commas between texts are taken for no tags. -/
theorem unmarked_join
    {texts : List Text}
    (h : ∀ t ∈ texts, Unmarked t) :
    Unmarked (Text.join ", " texts) where
  opening := by
    have hjoin : ∀ c ∈ Text.join ", " texts, c ≠ opening :=
      Text.forall_mem_join (by decide) texts fun t ht c hc heq => (h t ht).opening (heq ▸ hc)
    exact fun hmem => hjoin _ hmem rfl
  surrogate := by
    rw [Text.hasSurrogate_join (Text.hasSurrogate_ofString ", "), List.any_eq_false]
    intro t ht
    rw [(h t ht).surrogate]
    exact Bool.false_ne_true

section Messages

variable {console : Terminal.Console}

/-- A message that a console can show on the standard output. -/
def Shown (console : Terminal.Console) (message : Text) : Prop :=
  ∃ t, Program.laidOut console .output message = .ok t

/-- A message can be shown if its tags are in order and its text can be encoded. -/
theorem shown_of_plainText
    {message t : Text}
    (h : plainText console message = .ok t)
    (ht : t.hasSurrogate = false) :
    Shown console message := by
  unfold Shown Program.laidOut
  rw [h]
  exact ⟨_, Program.onTerminal_eq_ok .output (Terminal.hasSurrogate_paragraph console.columns ht)⟩

/-- A text behind a label whose tags are in order can be shown, if nothing in it is taken for a
tag. -/
theorem shown_labelled
    {label labelText t : Text}
    {position : Nat}
    (hlabel : plainText console (label ++ t) =
      (shown console [] (piecesAfter position 0 0 t)).map (labelText ++ ·))
    (hencode : labelText.hasSurrogate = false)
    (ht : Unmarked t) :
    Shown console (label ++ t) := by
  obtain ⟨u, hu, hsurrogate⟩ :
      ∃ u, shown console [] (piecesAfter position 0 0 t) = .ok u ∧ u.hasSurrogate = false :=
    Terminal.Markup.exists_shown_of_not_mem ht.opening ht.surrogate position 0
  rw [hu] at hlabel
  apply shown_of_plainText hlabel
  rw [Text.hasSurrogate_append, hencode, hsurrogate]
  rfl

end Messages

/-! ## Arguments -/

namespace Defaults

/-- Arguments ask for defaults to be stored. -/
def AsksFor (arguments : List Text) (d : Defaults) : Prop :=
  ∃ inner rest, select Command.byName arguments = .ok (.command .config inner) ∧
    select ConfigCommand.byName inner = .ok (.command .setDefaults rest) ∧
    parse rest = .ok (some d)

/-- The arguments that give names, one by one, and the choice of what is shown. -/
def options (d : Defaults) : List Text :=
  d.names.flatMap (fun name => [Text.ofString "--option", name]) ++
    if d.showFull then [Text.ofString "--show-full"] else []

/-- One name after the other is read. -/
theorem parseArguments_options
    (names : List Text)
    (showFull : Bool) :
    parseArguments defaultsOptions true (options ⟨names, showFull⟩) =
      .ok ⟨names.map (fun name => (.flag, name)) ++ if showFull then [(.showFull, [])] else [],
        []⟩ := by
  induction names with
  | nil =>
      cases showFull <;> rfl
  | cons name names ih =>
      have hcons : options ⟨name :: names, showFull⟩ =
          Text.ofString "--option" :: name :: options ⟨names, showFull⟩ := rfl
      have hstep (rest : List Text) :
          parseArguments defaultsOptions true (Text.ofString "--option" :: name :: rest) =
            (parseArguments defaultsOptions true rest).map (·.addOption .flag name) := by
        rfl
      rw [hcons, hstep, ih]
      rfl

/-- Names that are given are those that are read. -/
theorem parse_options
    (d : Defaults) :
    parse d.options = .ok (some d) := by
  have hvalues (names : List Text) (key : DefaultsOption) :
      ((names.map fun name => (DefaultsOption.flag, name)).filter fun option => option.1 = key).map
        Prod.snd = if key = .flag then names else [] := by
    cases key <;> simp [List.filter_map, Function.comp_def]
  obtain ⟨names, showFull⟩ := d
  rw [parse, parseArguments_options]
  cases showFull <;>
    simp [Arguments.has, Arguments.values, limitOthers, hvalues, bind, Except.bind, pure,
      Except.pure]

/-- **Any names can be given**, with either choice of what is shown. -/
theorem asksFor_options
    (d : Defaults) :
    AsksFor ("config" :: "set-defaults" :: d.options) d := by
  exact ⟨"set-defaults" :: d.options, d.options, rfl, rfl, parse_options d⟩

/-! ## What is stored -/

/-- Two requests name the same flags, by whichever names, and make the same choice of what is
shown. -/
structure SameChoice (d d' : Defaults) : Prop where
  flags : ∀ f : Curl.Flag, f.name ∈ d.names ∨ f.fieldName ∈ d.names ↔
    f.name ∈ d'.names ∨ f.fieldName ∈ d'.names
  showFull : d.showFull = d'.showFull

/-- **The same choice is stored alike.** -/
theorem SameChoice.assignments_eq
    {d d' : Defaults}
    (h : SameChoice d d') :
    d.assignments = d'.assignments := by
  have hflags : Curl.Flags.ofNames d.names = Curl.Flags.ofNames d'.names := by
    apply Curl.Flags.eq_of_isSet
    intro f
    rw [Curl.Flags.isSet_ofNames, Curl.Flags.isSet_ofNames, h.flags f]
  rw [assignments, assignments, hflags, h.showFull]

/-- The line of a stored setting can be encoded. -/
theorem hasSurrogate_stored
    {s : Settings.Setting}
    (hs : s ∈ storedSettings)
    (b : Bool) :
    (UserFile.renderLine (s.variable, truthWord b)).hasSurrogate = false := by
  rw [Text.hasSurrogate_eq_false_iff]
  intro c hc
  have hbounds := bounds_of_mem_stored hs b hc
  rw [CodePoint.isSurrogate, decide_eq_false_iff_not]
  omega

/-- What is stored can be encoded, whatever was in the file. -/
theorem exists_update
    (d : Defaults)
    {p : Path}
    {files made : FileTree}
    {old : Text}
    (hnul : p.holdsNul = false)
    (hold : UserFile.Finds p files made old) :
    ∃ l octets, made.locate p = .ok l ∧
      Utf8.encode (UserFile.render (UserFile.merge (UserFile.parse old) d.assignments)) =
        .ok octets ∧
      (UserFile.update d.assignments p).run files =
        (.ok (), made.set l (.file ⟨FileAction.openedMode made.umask (made.found? l), octets⟩)) := by
  obtain ⟨l, hl, hfound⟩ := hold.exists_locate hnul
  have hsurrogate : (UserFile.render
      (UserFile.merge (UserFile.parse old) d.assignments)).hasSurrogate = false := by
    rw [UserFile.hasSurrogate_render_merge_iff hold.hasSurrogate_eq_false]
    intro name value hgiven
    have hmem := Dictionary.mem_of_get?_eq_some hgiven
    rw [given_assignments] at hmem
    obtain ⟨s, hs, heq⟩ := List.mem_map.mp hmem
    cases heq
    have hstored := hasSurrogate_stored hs (d.choice s)
    rw [UserFile.renderLine, Text.hasSurrogate_append, Text.hasSurrogate_append,
      Bool.or_eq_false_iff, Bool.or_eq_false_iff] at hstored
    exact ⟨hstored.1.1, hstored.2⟩
  have hencode := Utf8.encode_eq_ok_iff.mpr ⟨hsurrogate, rfl⟩
  refine ⟨l, _, hl, hencode, ?_⟩
  rw [UserFile.run_update_of_finds _ hold, FileAction.run_writeText_of_locate hl hfound hencode]

/-! ## Storing -/

/-- The names that no flag has can be listed, if there are any. -/
def Listable (console : Terminal.Console) (d : Defaults) : Prop :=
  d.unknownNames = [] ∨ Shown console d.unknownMessage

/-- What is shown of the message about unknown names. -/
theorem plainText_unknown
    {t : Text}
    (console : Terminal.Console)
    (ht : opening ∉ t) :
    plainText console (Text.ofString "[yellow]Ignoring unknown option(s):[/yellow]" ++ t) =
      (shown console [] (piecesAfter 44 0 0 t)).map
        (Text.ofString "Ignoring unknown option(s):" ++ ·) := by
  have hpieces : pieces (Text.ofString "[yellow]Ignoring unknown option(s):[/yellow]" ++ t) =
      .tag 0 "yellow" :: .plain "Ignoring unknown option(s):" ::
        .tag 35 (CodePoint.ofChar '/' :: Text.ofString "yellow") :: piecesAfter 44 0 0 t := by
    cbv
  have hname : normalName (tagName "yellow") = .ok "yellow" := by
    decide +kernel
  have hlabel : showEmoji (dropEscapes "Ignoring unknown option(s):") =
      Text.ofString "Ignoring unknown option(s):" := by
    decide +kernel
  rw [plainText_labelled hpieces (by decide) (by decide) (by decide) hname (by decide) (by decide) ht,
    hlabel]

/-- What is shown of the message about the path. -/
theorem plainText_saved
    {t : Text}
    (console : Terminal.Console)
    (ht : opening ∉ t) :
    plainText console (Text.ofString "[green]Saved defaults to:[/green]" ++ t) =
      (shown console [] (piecesAfter 33 0 0 t)).map (Text.ofString "Saved defaults to:" ++ ·) := by
  have hpieces : pieces (Text.ofString "[green]Saved defaults to:[/green]" ++ t) =
      .tag 0 "green" :: .plain "Saved defaults to:" ::
        .tag 25 (CodePoint.ofChar '/' :: Text.ofString "green") :: piecesAfter 33 0 0 t := by
    cbv
  have hname : normalName (tagName "green") = .ok "green" := by
    decide +kernel
  have hlabel : showEmoji (dropEscapes "Saved defaults to:") =
      Text.ofString "Saved defaults to:" := by
    decide +kernel
  rw [plainText_labelled hpieces (by decide) (by decide) (by decide) hname (by decide) (by decide) ht,
    hlabel]

/-- **Names without brackets can be listed**, if they can be encoded. -/
theorem listable_of_unmarked
    {d : Defaults}
    (console : Terminal.Console)
    (h : ∀ name ∈ d.unknownNames, Unmarked name) :
    d.Listable console := by
  right
  have hlabel : Text.ofString "[yellow]Ignoring unknown option(s):[/yellow] " =
      Text.ofString "[yellow]Ignoring unknown option(s):[/yellow]" ++ Text.ofString " " := by
    decide +kernel
  have hnames : Unmarked (Text.ofString " " ++ Text.join ", " d.unknownNames) :=
    unmarked_space.append (unmarked_join h)
  rw [unknownMessage, hlabel, List.append_assoc]
  exact shown_labelled (plainText_unknown console hnames.opening) (Text.hasSurrogate_ofString _)
    hnames

/-- The path of the file can be shown, if nothing in it is taken for a tag. -/
theorem shown_savedMessage
    {p : Path}
    (console : Terminal.Console)
    (h : Unmarked p.toText) :
    Shown console (savedMessage p) := by
  have hlabel : Text.ofString "[green]Saved defaults to:[/green] " =
      Text.ofString "[green]Saved defaults to:[/green]" ++ Text.ofString " " := by
    decide +kernel
  have hpath : Unmarked (Text.ofString " " ++ p.toText) := unmarked_space.append h
  rw [savedMessage, hlabel, List.append_assoc]
  exact shown_labelled (plainText_saved console hpath.opening) (Text.hasSurrogate_ofString _) hpath

section Store

variable {context : Context}
variable {d : Defaults}

/-- **Names that cannot be listed** end the run, before anything is written. -/
theorem run_store_of_not_listable
    (h : ¬ d.Listable context.console)
    (s : Session) :
    ∃ fault, (d.store context).run s = (.error (.crash fault), s) := by
  rw [Listable, not_or] at h
  cases hmessage : Program.laidOut context.console .output d.unknownMessage with
  | ok t =>
      exact absurd ⟨t, hmessage⟩ h.2
  | error fault =>
      refine ⟨fault, ?_⟩
      rw [store_eq, List.isEmpty_eq_false_iff.mpr h.1, if_neg Bool.false_ne_true,
        Program.run_bind, Program.run_say, hmessage]

/-- Writing the file is the update and a message about its path. -/
theorem run_write
    {s : Session}
    {files : FileTree}
    (hupdate : (UserFile.update d.assignments
      (Settings.userFile context.platform context.environment)).run s.files = (.ok (), files)) :
    (d.write context).run s =
      (Program.say context.console .output
        (savedMessage (Settings.userFile context.platform context.environment))).run
          { s with files := files } := by
  rw [write, Program.run_bind, Program.run_onFilesOrCrash, hupdate]
  rfl

/-- **After names were listed**, or if there are none to be listed, the file is written. -/
theorem run_store_of_listable
    {s : Session}
    {files : FileTree}
    (h : d.Listable context.console)
    (hupdate : (UserFile.update d.assignments
      (Settings.userFile context.platform context.environment)).run s.files = (.ok (), files)) :
    ∃ listed, (d.store context).run s =
      (Program.say context.console .output
        (savedMessage (Settings.userFile context.platform context.environment))).run
          { s.print .output listed with files := files } := by
  rw [store_eq]
  by_cases hnone : d.unknownNames = []
  · refine ⟨[], ?_⟩
    have hsame : s.print .output [] = s := by
      cases s
      simp [Session.print]
    rw [hnone, List.isEmpty_nil, if_pos rfl, run_write hupdate, hsame]
  · obtain ⟨t, hmessage⟩ := h.resolve_left hnone
    refine ⟨t, ?_⟩
    have hfiles : (s.print .output t).files = s.files := Session.files_print _ _ s
    rw [List.isEmpty_eq_false_iff.mpr hnone, if_neg Bool.false_ne_true, Program.run_bind,
      Program.run_say, hmessage]
    dsimp only
    rw [run_write (hfiles ▸ hupdate)]

end Store

end Defaults

/-! ## Runs -/

section Run

variable {context : Context}
variable {files files' made : FileTree}
variable {old : Text}
variable {arguments : List Text}
variable {d : Defaults}

open Defaults (AsksFor SameChoice savedMessage)

/-- A run that stores defaults. -/
theorem run_of_asksFor
    (h : AsksFor arguments d) :
    run context files arguments =
      context.handler.outcomeOf ((d.store context).run (Session.start files)) := by
  obtain ⟨inner, rest, hcommand, hsub, hdefaults⟩ := h
  rw [run_eq_outcomeOf, program_setDefaults hcommand hsub hdefaults]

/-- Where names cannot be listed, nothing is stored. -/
theorem run_of_not_listable
    (h : AsksFor arguments d)
    (hnames : ¬ d.Listable context.console) :
    (∃ fault, (run context files arguments).stop = .crash fault) ∧
      (run context files arguments).session.files = files := by
  obtain ⟨fault, hstore⟩ := Defaults.run_store_of_not_listable hnames (Session.start files)
  rw [run_of_asksFor h, hstore]
  exact ⟨⟨fault, rfl⟩, rfl⟩

/-- Where names can be listed, the defaults are stored, and the run ends well if the path can be
shown. -/
theorem run_of_listable
    (h : AsksFor arguments d)
    (hnames : d.Listable context.console)
    (hupdate : (UserFile.update d.assignments
      (Settings.userFile context.platform context.environment)).run files = (.ok (), files')) :
    (run context files arguments).session.files = files' ∧
      (run context files arguments).stop =
        match Program.laidOut context.console .output
          (savedMessage (Settings.userFile context.platform context.environment)) with
        | .ok _ => .exit 0
        | .error fault => .crash fault := by
  obtain ⟨listed, hstore⟩ :=
    Defaults.run_store_of_listable (s := Session.start files) hnames hupdate
  rw [run_of_asksFor h, hstore, Program.run_say]
  cases Program.laidOut context.console .output
      (savedMessage (Settings.userFile context.platform context.environment)) with
  | ok t =>
      exact ⟨Session.files_print _ _ _, rfl⟩
  | error fault =>
      exact ⟨rfl, rfl⟩

/-- **What makes a difference to stored defaults.**  Let the directory of the user's file be there or
be made, and let the old text be decoded.  The run ends well iff the names that no flag has and the
path of the file can be shown.  If the names cannot, nothing is stored.  If they can, the variables of
the flags and of what is shown are put over the old ones and the file is written, and any other
arguments whose names can be listed do the same, if they name the same flags and make the same choice
of what is shown.  Names and paths without brackets and surrogates can be shown. -/
theorem run_setDefaults
    (hasks : AsksFor arguments d)
    (hnul : (Settings.userFile context.platform context.environment).holdsNul = false)
    (hold : UserFile.Finds (Settings.userFile context.platform context.environment)
      files made old) :
    ((run context files arguments).stop = .exit 0
        ↔
      d.Listable context.console ∧ Shown context.console
        (savedMessage (Settings.userFile context.platform context.environment))) ∧
    (¬ d.Listable context.console →
      (∃ fault, (run context files arguments).stop = .crash fault) ∧
        (run context files arguments).session.files = files) ∧
    (d.Listable context.console →
      ∃ l octets, made.locate (Settings.userFile context.platform context.environment) = .ok l ∧
        Utf8.encode (UserFile.render (UserFile.merge (UserFile.parse old) d.assignments)) =
          .ok octets ∧
        (run context files arguments).session.files =
          made.set l (.file ⟨FileAction.openedMode made.umask (made.found? l), octets⟩) ∧
        ∀ arguments' d', AsksFor arguments' d' → d'.Listable context.console → SameChoice d d' →
          (run context files arguments').stop = (run context files arguments).stop ∧
            (run context files arguments').session.files =
              (run context files arguments).session.files) ∧
    ((∀ name ∈ d.unknownNames, Unmarked name) → d.Listable context.console) ∧
    (Unmarked (Settings.userFile context.platform context.environment).toText →
      Shown context.console
        (savedMessage (Settings.userFile context.platform context.environment))) := by
  obtain ⟨l, octets, hl, hencode, hupdate⟩ := d.exists_update hnul hold
  refine ⟨?_, run_of_not_listable hasks, ?_, Defaults.listable_of_unmarked context.console,
    Defaults.shown_savedMessage context.console⟩
  · by_cases hnames : d.Listable context.console
    · rw [(run_of_listable hasks hnames hupdate).2, Shown]
      cases Program.laidOut context.console .output
          (savedMessage (Settings.userFile context.platform context.environment)) with
      | ok t =>
          simp [hnames]
      | error fault =>
          simp
    · have hnothing : (∃ fault, (run context files arguments).stop = .crash fault) ∧
          (run context files arguments).session.files = files := run_of_not_listable hasks hnames
      obtain ⟨⟨fault, hstop⟩, -⟩ := hnothing
      rw [hstop]
      simp [hnames]
  · intro hnames
    obtain ⟨hfiles, hstop⟩ := run_of_listable hasks hnames hupdate
    refine ⟨l, octets, hl, hencode, hfiles, ?_⟩
    intro arguments' d' hasks' hnames' hsame
    rw [hsame.assignments_eq] at hupdate
    obtain ⟨hfiles', hstop'⟩ := run_of_listable hasks' hnames' hupdate
    rw [hfiles, hstop, hfiles', hstop']
    exact ⟨rfl, rfl⟩

/-- Names are repeated and mixed, one of them belongs to no flag, and the same is stored as for two
names. -/
theorem run_setDefaults_repeatedNames :
    let files := FileTree.ofTexts [("config/json2curl/.env", "K=1\n")]
    let repeated := run (localContext []) files
      ("config" :: "set-defaults" ::
        Defaults.options ⟨["silent", "bogus:\\", "include_headers", "silent"], false⟩)
    let plain := run (localContext []) files
      ("config" :: "set-defaults" :: Defaults.options ⟨["includeHeaders", "silent"], false⟩)
    repeated.stop = .exit 0 ∧ plain.stop = .exit 0 ∧
      plain.session.files = repeated.session.files := by
  have hpath : Settings.userFile (localContext []).platform (localContext []).environment =
      (localContext []).userFile := by
    decide +kernel
  have hold : UserFile.Finds
      (Settings.userFile (localContext []).platform (localContext []).environment)
      (FileTree.ofTexts [("config/json2curl/.env", "K=1\n")])
      (FileTree.ofTexts [("config/json2curl/.env", "K=1\n")]) (Text.ofString "K=1\n") := by
    rw [hpath]
    apply UserFile.finds_of_readText
    · decide +kernel
    · exact FileAction.run_readText_of_fst (by decide +kernel)
  have hunmarked : ∀ name ∈ Defaults.unknownNames
      ⟨["silent", "bogus:\\", "include_headers", "silent"], false⟩, Unmarked name := by
    have hwords : ∀ name ∈ Defaults.unknownNames
        ⟨["silent", "bogus:\\", "include_headers", "silent"], false⟩,
        opening ∉ name ∧ name.hasSurrogate = false := by
      decide +kernel
    exact fun name hname => ⟨(hwords name hname).1, (hwords name hname).2⟩
  have hsame : SameChoice ⟨["silent", "bogus:\\", "include_headers", "silent"], false⟩
      ⟨["includeHeaders", "silent"], false⟩ := by
    refine ⟨fun f => ?_, rfl⟩
    cases f <;> decide +kernel
  obtain ⟨hstop, -, hstored, hlistable, hshown⟩ := run_setDefaults
    (Defaults.asksFor_options ⟨["silent", "bogus:\\", "include_headers", "silent"], false⟩)
    (by decide +kernel) hold
  obtain ⟨-, -, -, -, -, hsameRun⟩ := hstored (hlistable hunmarked)
  have hplain := hsameRun _ _ (Defaults.asksFor_options ⟨["includeHeaders", "silent"], false⟩)
    (Or.inl (by decide +kernel)) hsame
  have hexit := hstop.mpr ⟨hlistable hunmarked,
    hshown (by rw [hpath]; exact ⟨by decide +kernel, by decide +kernel⟩)⟩
  exact ⟨hexit, hplain.1.trans hexit, hplain.2⟩

/-- A name that closes a style which is not open ends the run before the other name is stored. -/
theorem setDefaults_stops_at_closingTag :
    let files := FileTree.ofTexts [("config/json2curl/.env", "K=1\n")]
    let known := run (localContext []) files ["config", "set-defaults", "-o", "verbose"]
    let both := run (localContext []) files
      ["config", "set-defaults", "-o", "verbose", "-o", "[/x]"]
    (∀ f : Curl.Flag,
      f.name ∈ (["verbose"] : List Text) ∨ f.fieldName ∈ (["verbose"] : List Text) ↔
        f.name ∈ (["verbose", "[/x]"] : List Text) ∨
          f.fieldName ∈ (["verbose", "[/x]"] : List Text)) ∧
    known.stop = .exit 0 ∧
    ((FileAction.readText (localContext []).userFile).run known.session.files).1 ≠
      .ok (Text.ofString "K=1\n") ∧
    both.stop = .crash (.markup (.unmatched 45 "/x")) ∧
    ((FileAction.readText (localContext []).userFile).run both.session.files).1 =
      .ok (Text.ofString "K=1\n") := by
  refine ⟨fun f => ?_, ?_⟩
  · cases f <;> decide +kernel
  · decide +kernel

end Run

end CurlRequest.CommandLine
