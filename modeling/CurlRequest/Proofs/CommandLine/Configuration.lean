import CurlRequest.CommandLine.Run
import CurlRequest.Proofs.CommandLine.Session
import CurlRequest.Proofs.Curl.Flag
import CurlRequest.Proofs.Settings.EnvFile
import CurlRequest.Proofs.Settings.Update

/-!
# Stored defaults take effect

Storing defaults writes one line for each flag and one for what is shown, and keeps the other lines of
the user's file.  The file is written by one set of rules and loaded by another.  To the writer a line
`export NAME=value` has a name of its own, and so has a name in other letter case; the loader takes
them for the variable `NAME`.  Such lines stand behind the written ones, so they win.  If no line that
is kept does so, and each of them is read by itself, the stored defaults are the settings.

**Results.**
* `get?_lowerKeys_load_stored`: what the loader reads of the lines that were written.
* `update_or_crash_of_store`: storing defaults is an update of the user's file.
* `settings_of_setDefaults`: the settings after the command that stores defaults.
* `setDefaults_loses_to_export`: a line that wins over what was stored.
-/

namespace CurlRequest.CommandLine

open Settings (Setting)
open EnvFile (IsSingle readStatement)

namespace Defaults

/-! ## Lines -/

/-- The settings that are stored. -/
def storedSettings : List Setting :=
  Curl.Flag.all.map Setting.flag ++ [.showFull]

/-- What is stored for a setting. -/
def choice (d : Defaults) : Setting → Bool
  | .flag f => (Curl.Flags.ofNames d.names).isSet f
  | _ => d.showFull

/-- The variable of each stored setting is given a value. -/
theorem given_assignments
    (d : Defaults) :
    UserFile.given d.assignments =
      storedSettings.map fun s => (s.variable, truthWord (d.choice s)) := rfl

/-- Different stored settings have different variables, letter case aside. -/
theorem nodup_lower_variable :
    (storedSettings.map fun s => Text.lower s.variable).Nodup := by
  decide +kernel

/-- Each stored setting is given its own value. -/
theorem get?_given
    (d : Defaults)
    {s : Setting}
    (hs : s ∈ storedSettings) :
    Dictionary.get? s.variable (UserFile.given d.assignments) =
      some (truthWord (d.choice s)) := by
  have hlower : ((storedSettings.map Setting.variable).map Text.lower).Nodup := by
    rw [List.map_map]
    exact nodup_lower_variable
  have hnodup : ((UserFile.given d.assignments).map Prod.fst).Nodup := by
    rw [given_assignments, List.map_map]
    exact List.Nodup.of_map _ hlower
  rw [Dictionary.get?_eq_some_iff_mem hnodup, given_assignments]
  exact List.mem_map_of_mem hs

/-- A line that the loader reads by itself, and that sets no variable of a stored setting, letter case
aside. -/
structure Apart (line : Text) : Prop where
  single : IsSingle line
  others : ∀ name value, (readStatement line).1 = .assign name value →
    ∀ s ∈ storedSettings, Text.lower name ≠ Text.lower s.variable

/-- A line without quotes stays apart, if the loader takes its name for no variable of a stored
setting. -/
theorem apart_of_not_mem
    {line : Text}
    (hbegins : ∃ c ∈ line.head?, c.isBlank = false)
    (hline : ∀ c ∈ line, EnvFile.isLineEnd c = false)
    (hsingle : CodePoint.ofChar '\x27' ∉ line)
    (hdouble : CodePoint.ofChar '\x22' ∉ line)
    (hothers : ∀ s ∈ storedSettings,
      (readStatement line).1.assignment?.map (fun pair => Text.lower pair.1) ≠
        some (Text.lower s.variable)) :
    Apart line where
  single := EnvFile.isSingle_of_not_mem hbegins hline hsingle hdouble
  others := by
    intro name value hread s hs heq
    apply hothers s hs
    rw [hread, ← heq]
    rfl

/-- The line of a stored setting is written in letters, digits, the low line and the equals sign. -/
theorem bounds_of_mem_stored
    {s : Setting}
    (hs : s ∈ storedSettings)
    (b : Bool)
    {c : CodePoint}
    (hc : c ∈ UserFile.renderLine (s.variable, truthWord b)) :
    0x30 ≤ c.toNat ∧ c.toNat < 0x7F := by
  have hbounds : ∀ s ∈ storedSettings, ∀ b : Bool,
      ∀ c ∈ UserFile.renderLine (s.variable, truthWord b), 0x30 ≤ c.toNat ∧ c.toNat < 0x7F := by
    decide +kernel
  exact hbounds s hs b c hc

/-- Quotes and line ends are not in the line of a stored setting. -/
theorem not_mem_stored
    {s : Setting}
    (hs : s ∈ storedSettings)
    (b : Bool)
    {c : CodePoint}
    (hc : c.toNat < 0x30) :
    c ∉ UserFile.renderLine (s.variable, truthWord b) :=
  fun hmem => absurd (bounds_of_mem_stored hs b hmem).1 (Nat.not_le.mpr hc)

/-- A line of a stored setting stands by itself, and the loader reads it as it was written. -/
theorem readStatement_stored
    {s : Setting}
    (hs : s ∈ storedSettings)
    (b : Bool) :
    IsSingle (UserFile.renderLine (s.variable, truthWord b)) ∧
      (readStatement (UserFile.renderLine (s.variable, truthWord b))).1 =
        .assign s.variable (some (truthWord b)) := by
  have hwords : ∀ s ∈ storedSettings, ∀ b : Bool,
      (∃ c ∈ (UserFile.renderLine (s.variable, truthWord b)).head?, c.isBlank = false) ∧
      (readStatement (UserFile.renderLine (s.variable, truthWord b))).1 =
        .assign s.variable (some (truthWord b)) := by
    decide +kernel
  obtain ⟨hbegins, hread⟩ := hwords s hs b
  have hline : ∀ c ∈ UserFile.renderLine (s.variable, truthWord b),
      EnvFile.isLineEnd c = false := by
    intro c hc
    have hfeed : c ≠ CodePoint.ofChar '\n' :=
      fun heq => not_mem_stored hs b (by decide) (heq ▸ hc)
    have hreturn : c ≠ CodePoint.ofChar '\r' :=
      fun heq => not_mem_stored hs b (by decide) (heq ▸ hc)
    simp only [EnvFile.isLineEnd, hfeed, hreturn, decide_false, Bool.or_false]
  exact ⟨EnvFile.isSingle_of_not_mem hbegins hline (not_mem_stored hs b (by decide))
    (not_mem_stored hs b (by decide)), hread⟩

/-- The heading is a comment. -/
theorem readStatement_heading :
    IsSingle UserFile.heading ∧ (readStatement UserFile.heading).1 = .comment := by
  have hwords : (∃ c ∈ UserFile.heading.head?, c.isBlank = false) ∧
      (∀ c ∈ UserFile.heading, EnvFile.isLineEnd c = false) ∧
      CodePoint.ofChar '\x27' ∉ UserFile.heading ∧ CodePoint.ofChar '\x22' ∉ UserFile.heading ∧
      (readStatement UserFile.heading).1 = .comment := by
    decide +kernel
  obtain ⟨hbegins, hline, hsingle, hdouble, hread⟩ := hwords
  exact ⟨EnvFile.isSingle_of_not_mem hbegins hline hsingle hdouble, hread⟩

section Load

variable {d : Defaults}
variable {old : Text}

/-- What an entry of the written file is: a stored setting, or a line that is kept. -/
theorem stored_or_apart
    (hapart : ∀ name value, Dictionary.get? name (UserFile.parse old) = some value →
      name ∉ UserFile.givenNames d.assignments → Apart (UserFile.renderLine (name, value)))
    {entry : Text × Text}
    (h : entry ∈ UserFile.merge (UserFile.parse old) d.assignments) :
    (∃ s ∈ storedSettings, entry = (s.variable, truthWord (d.choice s))) ∨
      Apart (UserFile.renderLine entry) := by
  by_cases hgiven : entry.1 ∈ UserFile.givenNames d.assignments
  · left
    obtain ⟨entry', hentry', hname⟩ := List.mem_map.mp hgiven
    rw [given_assignments] at hentry'
    obtain ⟨s, hs, rfl⟩ := List.mem_map.mp hentry'
    refine ⟨s, hs, ?_⟩
    -- The names of the stored settings are distinct, so the name decides the entry.
    have hget := (Dictionary.get?_eq_some_iff_mem
      (UserFile.nodup_map_fst_merge old d.assignments)).mpr h
    rw [UserFile.get?_merge, ← hname, get?_given d hs] at hget
    have hvalue : truthWord (d.choice s) = entry.2 := Option.some.inj hget
    exact Prod.ext hname.symm hvalue.symm
  · right
    rcases UserFile.mem_given_or_get?_of_mem_merge h with hmem | hread
    · exact absurd (List.mem_map_of_mem hmem) hgiven
    · exact hapart entry.1 entry.2 hread hgiven

/-- The lines of the written file assign what each of them assigns by itself. -/
theorem assignments_render
    (hapart : ∀ name value, Dictionary.get? name (UserFile.parse old) = some value →
      name ∉ UserFile.givenNames d.assignments → Apart (UserFile.renderLine (name, value))) :
    EnvFile.assignments
        (UserFile.render (UserFile.merge (UserFile.parse old) d.assignments)) =
      (UserFile.merge (UserFile.parse old) d.assignments).sorted.filterMap fun entry =>
        (readStatement (UserFile.renderLine entry)).1.assignment? := by
  have hsingle : ∀ l ∈ UserFile.heading ::
      (UserFile.merge (UserFile.parse old) d.assignments).sorted.map UserFile.renderLine,
      IsSingle l := by
    intro l hl
    rcases List.mem_cons.mp hl with rfl | hl
    · exact readStatement_heading.1
    · obtain ⟨entry, hentry, rfl⟩ := List.mem_map.mp hl
      rcases stored_or_apart hapart ((Dictionary.sorted_perm _).mem_iff.mp hentry) with
        ⟨s, hs, rfl⟩ | h
      · exact (readStatement_stored hs _).1
      · exact h.single
  rw [UserFile.render_eq, EnvFile.assignments_flatMap hsingle rfl, List.filterMap_cons,
    readStatement_heading.2, List.filterMap_map]
  rfl

/-- **What the loader reads** of a stored setting is what was stored, if the lines that are kept stay
apart. -/
theorem get?_lowerKeys_load_stored
    (environment : Settings.Environment)
    (hapart : ∀ name value, Dictionary.get? name (UserFile.parse old) = some value →
      name ∉ UserFile.givenNames d.assignments → Apart (UserFile.renderLine (name, value)))
    {s : Setting}
    (hs : s ∈ storedSettings) :
    Dictionary.get? (Text.lower s.variable)
        (Settings.lowerKeys (EnvFile.load environment
          (UserFile.render (UserFile.merge (UserFile.parse old) d.assignments)))) =
      some (some (truthWord (d.choice s))) := by
  have hdollar : CodePoint.ofChar '$' ∉ truthWord (d.choice s) := by
    cases d.choice s <;> decide
  apply EnvFile.get?_lowerKeys_load environment hdollar
  · -- The entry of the setting is among those that are written.
    rw [assignments_render hapart, List.mem_filterMap]
    refine ⟨(s.variable, truthWord (d.choice s)), (Dictionary.sorted_perm _).mem_iff.mpr ?_, ?_⟩
    · apply Dictionary.mem_of_get?_eq_some
      rw [UserFile.get?_merge, get?_given d hs]
      rfl
    · rw [(readStatement_stored hs _).2]
      rfl
  · -- No other entry says anything about the setting.
    rw [assignments_render hapart]
    intro pair hpair hlower
    obtain ⟨entry, hentry, hassign⟩ := List.mem_filterMap.mp hpair
    rcases stored_or_apart hapart ((Dictionary.sorted_perm _).mem_iff.mp hentry) with
      ⟨s', hs', rfl⟩ | happart
    · rw [(readStatement_stored hs' _).2] at hassign
      obtain rfl : (s'.variable, some (truthWord (d.choice s'))) = pair :=
        Option.some.inj hassign
      rw [List.inj_on_of_nodup_map nodup_lower_variable hs' hs hlower]
    · cases hread : (readStatement (UserFile.renderLine entry)).1 with
      | comment =>
          rw [hread] at hassign
          cases hassign
      | unreadable =>
          rw [hread] at hassign
          cases hassign
      | assign name value =>
          rw [hread] at hassign
          obtain rfl : (name, value) = pair := Option.some.inj hassign
          exact absurd hlower (happart.others name value hread s hs)

/-- The written file has no carriage return. -/
theorem not_mem_render_merge
    (d : Defaults)
    (old : Text) :
    Text.carriageReturn ∉
      UserFile.render (UserFile.merge (UserFile.parse old) d.assignments) := by
  apply UserFile.not_mem_render
  intro entry hentry
  rcases UserFile.mem_given_or_get?_of_mem_merge hentry with hgiven | hread
  · rw [given_assignments] at hgiven
    obtain ⟨s, hs, rfl⟩ := List.mem_map.mp hgiven
    exact not_mem_stored hs _ (by decide)
  · obtain ⟨hname, hvalue, -⟩ := UserFile.isName_of_get?_parse hread
    exact (UserFile.isLine_renderLine hname hvalue).not_mem

/-- **The settings from the written file** are those that were stored, if the environment says nothing
and the lines that are kept stay apart. -/
theorem ofSources_stored
    {environment : Settings.Environment}
    (henvironment : ∀ entry ∈ environment, ∀ s ∈ storedSettings,
      Text.lower entry.1 ≠ Text.lower s.variable)
    (hapart : ∀ name value, Dictionary.get? name (UserFile.parse old) = some value →
      name ∉ UserFile.givenNames d.assignments → Apart (UserFile.renderLine (name, value)))
    (sources : Settings.Sources)
    (hsources : sources = .ofTexts environment
      (UserFile.render (UserFile.merge (UserFile.parse old) d.assignments)) []) :
    Settings.ofSources [] sources =
      match Settings.checkFormat Setting.outputFormat.place
            (Settings.valueOf [] sources .outputFormat),
          Settings.checkLevel Setting.logLevel.place
            (Settings.valueOf [] sources .logLevel) with
      | .ok format, .ok level =>
          .ok ⟨Curl.Flags.ofNames d.names, d.showFull, format, level⟩
      | format, level => .error (Field.faults format ++ Field.faults level) := by
  have hvalue : ∀ s ∈ storedSettings,
      (Settings.valueOf [] sources s).truth = .ok (d.choice s) := by
    intro s hs
    have hassigned : Dictionary.get? (Text.lower s.variable) sources.assigned =
        some (some (truthWord (d.choice s))) := by
      rw [hsources]
      have hnone : Settings.lowerKeys (EnvFile.load environment []) = [] := rfl
      unfold Settings.Sources.ofTexts
      dsimp only
      have hempty : (([] : Dictionary (Option Text)).map Prod.fst).Nodup := List.nodup_nil
      rw [hnone, Dictionary.get?_putAll hempty,
        get?_lowerKeys_load_stored environment hapart hs]
      rfl
    have henv : ∀ entry ∈ sources.environment, Text.lower entry.1 ≠ Text.lower s.variable := by
      rw [hsources]
      exact fun entry hentry => henvironment entry hentry s hs
    rw [Settings.valueOf_of_assigned henv hassigned]
    cases d.choice s <;> decide
  have hflags (f : Curl.Flag) : Setting.flag f ∈ storedSettings := by
    cases f <;> decide
  exact Settings.check_of_truth (fun f => hvalue (.flag f) (hflags f))
    (hvalue .showFull (by decide))

end Load

/-! ## Runs -/

/-- The message about names that no flag has. -/
def unknownMessage (d : Defaults) : Text :=
  "[yellow]Ignoring unknown option(s):[/yellow] " ++ Text.join ", " d.unknownNames

/-- The message about the path of the file. -/
def savedMessage (p : Path) : Text :=
  "[green]Saved defaults to:[/green] " ++ p.toText

/-- Writing the file, and saying where it is. -/
def write (context : Context) (d : Defaults) : Program Unit := do
  Program.onFilesOrCrash
    (UserFile.update d.assignments (Settings.userFile context.platform context.environment))
  Program.say context.console .output
    (savedMessage (Settings.userFile context.platform context.environment))

/-- Names that no flag has are listed before anything is written. -/
theorem store_eq
    (context : Context)
    (d : Defaults) :
    d.store context =
      if d.unknownNames.isEmpty then d.write context
      else Program.say context.console .output d.unknownMessage >>= fun _ => d.write context := by
  unfold store
  cases d.unknownNames.isEmpty <;> rfl

/-- Writing the file is an update of it, or it crashes. -/
theorem update_or_crash_of_write
    {context : Context}
    {d : Defaults}
    {s s' : Session}
    {result : Except Stop Unit}
    (h : (d.write context).run s = (result, s')) :
    (result = .ok () ∧
      (UserFile.update d.assignments
          (Settings.userFile context.platform context.environment)).run s.files =
        (.ok (), s'.files)) ∨
    ∃ fault, result = .error (.crash fault) := by
  rw [write, Program.run_bind, Program.run_onFilesOrCrash] at h
  cases hupdate : (UserFile.update d.assignments
      (Settings.userFile context.platform context.environment)).run s.files with
  | mk updated files =>
      rw [hupdate] at h
      cases updated with
      | error fault =>
          cases h
          exact Or.inr ⟨_, rfl⟩
      | ok u =>
          dsimp only [Except.mapError] at h
          rcases Program.ok_or_crash_of_say h with rfl | hcrash
          · left
            rw [Program.files_of_say h]
            exact ⟨rfl, rfl⟩
          · exact Or.inr hcrash

/-- **Storing defaults** is an update of the user's file, or it crashes. -/
theorem update_or_crash_of_store
    {context : Context}
    {d : Defaults}
    {s s' : Session}
    {result : Except Stop Unit}
    (h : (d.store context).run s = (result, s')) :
    (result = .ok () ∧
      (UserFile.update d.assignments
          (Settings.userFile context.platform context.environment)).run s.files =
        (.ok (), s'.files)) ∨
    ∃ fault, result = .error (.crash fault) := by
  rw [store_eq] at h
  split at h
  · exact update_or_crash_of_write h
  · rw [Program.run_bind] at h
    split at h
    · rename_i hsay
      rw [← Program.files_of_say hsay]
      exact update_or_crash_of_write h
    · rename_i hsay
      cases h
      exact Or.inr ((Program.ok_or_crash_of_say hsay).resolve_left nofun)

end Defaults

section Run

variable {context : Context}
variable {files : FileTree}
variable {arguments inner rest : List Text}
variable {d : Defaults}

/-- What the command that stores defaults does. -/
theorem program_setDefaults
    (hcommand : select Command.byName arguments = .ok (.command .config inner))
    (hsub : select ConfigCommand.byName inner = .ok (.command .setDefaults rest))
    (hdefaults : Defaults.parse rest = .ok (some d))
    (s : Session) :
    (program context arguments).run s = (d.store context).run s := by
  have hinner : inner.isEmpty = false := by
    cases inner with
    | nil =>
        cases hsub
    | cons argument more =>
        rfl
  have hconfig : (configProgram context inner).run s = (d.store context).run s := by
    rw [configProgram, hinner]
    rw [if_neg Bool.false_ne_true, Program.run_bind, Program.run_accept, hsub]
    dsimp only [Except.mapError]
    rw [Program.run_bind, Program.run_accept, hdefaults]
    rfl
  have harguments : arguments.isEmpty = false := by
    cases arguments with
    | nil =>
        cases hcommand
    | cons argument more =>
        rfl
  rw [program, harguments, if_neg Bool.false_ne_true, Program.run_bind, Program.run_accept,
    hcommand]
  exact hconfig

/-- A run of the command that ends well is an update of the user's file. -/
theorem update_of_setDefaults
    (hcommand : select Command.byName arguments = .ok (.command .config inner))
    (hsub : select ConfigCommand.byName inner = .ok (.command .setDefaults rest))
    (hdefaults : Defaults.parse rest = .ok (some d))
    (hstop : (run context files arguments).stop = .exit 0) :
    (UserFile.update d.assignments
        (Settings.userFile context.platform context.environment)).run files =
      (.ok (), (run context files arguments).session.files) := by
  unfold run at hstop ⊢
  rw [program_setDefaults hcommand hsub hdefaults] at hstop ⊢
  cases hstore : (d.store context).run (Session.start files) with
  | mk result session =>
      rw [hstore] at hstop
      rcases Defaults.update_or_crash_of_store hstore with ⟨rfl, hupdate⟩ | ⟨fault, rfl⟩
      · exact hupdate
      · cases hstop

/-- **Stored defaults take effect.**  After the command that stores defaults has ended well, settings
that are loaded without a variable of the environment and without a file of the project have exactly
the named flags, in their own order, and the given choice of what is shown, if the lines that are kept
of the old file stay apart.  They are accepted iff the format and the level are.  The path of the file
must not begin with a tilde: the loader looks for such a path below a home directory, and the file is
written without asking which one. -/
theorem settings_of_setDefaults
    {made : FileTree}
    {old : Text}
    {environment : Settings.Environment}
    (hcommand : select Command.byName arguments = .ok (.command .config inner))
    (hsub : select ConfigCommand.byName inner = .ok (.command .setDefaults rest))
    (hdefaults : Defaults.parse rest = .ok (some d))
    (hstop : (run context files arguments).stop = .exit 0)
    (hold : UserFile.Finds (Settings.userFile context.platform context.environment) files made old)
    (hapart : ∀ name value, Dictionary.get? name (UserFile.parse old) = some value →
      name ∉ UserFile.givenNames d.assignments →
      Defaults.Apart (UserFile.renderLine (name, value)))
    (henvironment : ∀ entry ∈ environment, ∀ s ∈ Defaults.storedSettings,
      Text.lower entry.1 ≠ Text.lower s.variable)
    (hproject : Settings.variablesAt (run context files arguments).session.files
      Settings.projectFile = .ok [])
    (htilde : (Settings.userFile context.platform context.environment).hasTilde = false)
    (homes : Text → Path) :
    ∃ sources,
      (Settings.readSources homes environment
          (Settings.userFile context.platform context.environment)).run
        (run context files arguments).session.files =
          (.ok sources, (run context files arguments).session.files) ∧
      Settings.ofSources [] sources =
        (match Settings.checkFormat Setting.outputFormat.place
              (Settings.valueOf [] sources .outputFormat),
            Settings.checkLevel Setting.logLevel.place
              (Settings.valueOf [] sources .logLevel) with
        | .ok format, .ok level =>
            .ok ⟨Curl.Flags.ofNames d.names, d.showFull, format, level⟩
        | format, level => .error (Field.faults format ++ Field.faults level)) ∧
      (Curl.Flags.ofNames d.names).active =
        Curl.Flag.all.filter fun f => decide (f.name ∈ d.names ∨ f.fieldName ∈ d.names) := by
  have hupdate := update_of_setDefaults hcommand hsub hdefaults hstop
  obtain ⟨made', old', l, octets, hfinds, hl, hfound, hencode, hafter⟩ :=
    UserFile.exists_of_update hupdate
  obtain ⟨rfl, rfl⟩ := hold.unique hfinds
  have hread := FileAction.run_readText_set hl hfound hencode
    (FileAction.openedMode made.umask (made.found? l))
  rw [← hafter, Text.unifyNewlines_of_not_mem (Defaults.not_mem_render_merge d old)] at hread
  refine ⟨_, Settings.run_readSources homes htilde hproject
    (Settings.variablesAt_of_readText hread), ?_, Curl.Flags.active_ofNames d.names⟩
  exact Defaults.ofSources_stored henvironment hapart _ rfl

end Run

/-- Two flags are stored in a file with other variables and with a flag that is switched off. -/
theorem settings_of_setDefaults_twoFlags :
    ∃ sources,
      (Settings.readSources (fun _ => Path.ofText "/root") [] (localContext []).userFile).run
          (run (localContext [])
            (FileTree.ofTexts [("config/json2curl/.env",
              "export OTHER=1\nJSON2CURL_DEFAULT_SILENT=true\n")])
            ["config", "set-defaults", "-o", "followRedirects", "-o", "verbose",
              "--show-full"]).session.files =
        (.ok sources,
          (run (localContext [])
            (FileTree.ofTexts [("config/json2curl/.env",
              "export OTHER=1\nJSON2CURL_DEFAULT_SILENT=true\n")])
            ["config", "set-defaults", "-o", "followRedirects", "-o", "verbose",
              "--show-full"]).session.files) ∧
      Settings.ofSources [] sources =
        .ok ⟨⟨true, false, false, false, true⟩, true, .text, .warning⟩ := by
  have hcommand : select Command.byName
      ["config", "set-defaults", "-o", "followRedirects", "-o", "verbose", "--show-full"] =
        .ok (.command .config
          ["set-defaults", "-o", "followRedirects", "-o", "verbose", "--show-full"]) := by
    rfl
  have hsub : select ConfigCommand.byName
      ["set-defaults", "-o", "followRedirects", "-o", "verbose", "--show-full"] =
        .ok (.command .setDefaults
          ["-o", "followRedirects", "-o", "verbose", "--show-full"]) := by
    rfl
  have hdefaults : Defaults.parse
      ["-o", "followRedirects", "-o", "verbose", "--show-full"] =
        .ok (some ⟨["followRedirects", "verbose"], true⟩) := by
    decide +kernel
  have hpath : Settings.userFile (localContext []).platform (localContext []).environment =
      (localContext []).userFile := by
    decide +kernel
  have hold : UserFile.Finds
      (Settings.userFile (localContext []).platform (localContext []).environment)
      (FileTree.ofTexts [("config/json2curl/.env",
        "export OTHER=1\nJSON2CURL_DEFAULT_SILENT=true\n")])
      (FileTree.ofTexts [("config/json2curl/.env",
        "export OTHER=1\nJSON2CURL_DEFAULT_SILENT=true\n")])
      (Text.ofString "export OTHER=1\nJSON2CURL_DEFAULT_SILENT=true\n") := by
    apply UserFile.finds_of_readText
    · decide +kernel
    · exact FileAction.run_readText_of_fst (by decide +kernel)
  have hlines : ∀ entry ∈ UserFile.parse
      (Text.ofString "export OTHER=1\nJSON2CURL_DEFAULT_SILENT=true\n"),
      entry.1 ∉ UserFile.givenNames (Defaults.assignments ⟨["followRedirects", "verbose"], true⟩) →
      (∃ c ∈ (UserFile.renderLine entry).head?, c.isBlank = false) ∧
      (∀ c ∈ UserFile.renderLine entry, EnvFile.isLineEnd c = false) ∧
      CodePoint.ofChar '\x27' ∉ UserFile.renderLine entry ∧
      CodePoint.ofChar '\x22' ∉ UserFile.renderLine entry ∧
      ∀ s ∈ Defaults.storedSettings,
        (readStatement (UserFile.renderLine entry)).1.assignment?.map
            (fun pair => Text.lower pair.1) ≠
          some (Text.lower s.variable) := by
    decide +kernel
  have hrun :
      let outcome := run (localContext [])
        (FileTree.ofTexts [("config/json2curl/.env",
          "export OTHER=1\nJSON2CURL_DEFAULT_SILENT=true\n")])
        ["config", "set-defaults", "-o", "followRedirects", "-o", "verbose", "--show-full"]
      outcome.stop = .exit 0 ∧
      Settings.variablesAt outcome.session.files Settings.projectFile = .ok [] ∧
      ((Settings.readSources (fun _ => Path.ofText "/root") []
          (localContext []).userFile).run outcome.session.files).1.map
          (fun sources =>
            (Settings.checkFormat Setting.outputFormat.place
                (Settings.valueOf [] sources .outputFormat),
              Settings.checkLevel Setting.logLevel.place
                (Settings.valueOf [] sources .logLevel))) = .ok (.ok .text, .ok .warning) := by
    decide +kernel
  have hnone : ∀ entry ∈ ([] : Settings.Environment), ∀ s ∈ Defaults.storedSettings,
      Text.lower entry.1 ≠ Text.lower s.variable :=
    fun _ hentry => absurd hentry List.not_mem_nil
  obtain ⟨hstop, hproject, hrest⟩ := hrun
  obtain ⟨sources, hread, hsettings, -⟩ := settings_of_setDefaults hcommand hsub hdefaults hstop
    hold
    (fun name value hvalue hgiven =>
      have h := hlines (name, value) (Dictionary.mem_of_get?_eq_some hvalue) hgiven
      Defaults.apart_of_not_mem h.1 h.2.1 h.2.2.1 h.2.2.2.1 h.2.2.2.2)
    hnone hproject (by decide +kernel) (fun _ => Path.ofText "/root")
  rw [hpath] at hread
  rw [hread] at hrest
  obtain ⟨hformat, hlevel⟩ := Prod.mk.inj (Except.ok.inj hrest)
  rw [hformat, hlevel] at hsettings
  have hflags : Curl.Flags.ofNames ["followRedirects", "verbose"] =
      ⟨true, false, false, false, true⟩ := by
    decide +kernel
  rw [hflags] at hsettings
  exact ⟨sources, hread, hsettings⟩

/-- A line with the word `export` is kept behind the written lines, and the loader takes its value:
the flag is on although no flag was named. -/
theorem setDefaults_loses_to_export :
    let outcome := run (localContext [])
      (FileTree.ofTexts [("config/json2curl/.env", "export JSON2CURL_DEFAULT_VERBOSE=true\n")])
      ["config", "set-defaults"]
    outcome.stop = .exit 0 ∧
    ((Settings.readSources (fun _ => Path.ofText "/root") []
        (localContext []).userFile).run outcome.session.files).1.map
        (fun sources => (Settings.ofSources [] sources).map fun s => s.defaultFlags.active) =
      .ok (.ok [.verbose]) := by
  decide +kernel

end CurlRequest.CommandLine
