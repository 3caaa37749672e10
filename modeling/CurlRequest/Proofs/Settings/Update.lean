import CurlRequest.Proofs.File.Writing
import CurlRequest.Proofs.Settings.UserFile

/-!
# Updating the user's file

An update reads the variables in the file, puts the given ones over them and writes all of them
again.  A variable that is left alone keeps its line, but the line holds the value without the quotes
that stood around it.  So the variable is the same afterwards iff its value has neither blanks nor
double quotes at its ends, and a second update changes nothing iff this holds of all of them.

**Results.**
* `get?_parse_render_merge`: what is read of a variable that is left alone.
* `render_merge_again_iff`: when writing the variables a second time gives the same text.
* `Finds`, `exists_of_update`, `run_update_of_finds`: what an update finds in a tree, and what it
  leaves there.
* `update_preserves_iff_isBare`: both questions for a run of the update.
-/

namespace CurlRequest.UserFile

open Text (lineFeed)

/-! ## Changes -/

/-- The variables that changes give a value. -/
def given (changes : Dictionary (Option Text)) : Dictionary Text :=
  changes.filterMap fun (name, value) => value.map fun value => (name, value)

/-- The names that changes give a value. -/
def givenNames (changes : Dictionary (Option Text)) : List Text :=
  (given changes).map Prod.fst

/-- Changes leave a name alone: they give it no value, and no line of theirs sets it. -/
structure Untouched (changes : Dictionary (Option Text)) (name : Text) : Prop where
  notGiven : name ∉ givenNames changes
  notSet : ∀ entry ∈ given changes, name ∉ (entriesIn (renderLine entry)).map Prod.fst

/-- The lines of changes set no names but those that are given values. -/
def Confined (changes : Dictionary (Option Text)) : Prop :=
  ∀ entry ∈ given changes, ∀ name ∈ (entriesIn (renderLine entry)).map Prod.fst,
    name ∈ givenNames changes

section Merge

variable {changes : Dictionary (Option Text)}
variable {name : Text}

/-- Confined changes leave alone what they give no value. -/
theorem Confined.untouched
    (h : Confined changes)
    (hname : name ∉ givenNames changes) :
    Untouched changes name where
  notGiven := hname
  notSet := fun entry hentry hmem => hname (h entry hentry name hmem)

/-- The names that are read of a text are distinct. -/
theorem nodup_map_fst_parse
    (t : Text) :
    ((parse t).map Prod.fst).Nodup :=
  Dictionary.nodup_map_fst_ofEntries _

/-- The names after an update are distinct. -/
theorem nodup_map_fst_merge
    (t : Text)
    (changes : Dictionary (Option Text)) :
    ((merge (parse t) changes).map Prod.fst).Nodup :=
  Dictionary.nodup_map_fst_putAll (nodup_map_fst_parse t) _

/-- A given value hides the one that was read. -/
theorem get?_merge
    (t : Text)
    (changes : Dictionary (Option Text))
    (name : Text) :
    Dictionary.get? name (merge (parse t) changes) =
      (Dictionary.get? name (given changes)).or (Dictionary.get? name (parse t)) :=
  Dictionary.get?_putAll (nodup_map_fst_parse t) (given changes) name

/-- A variable that is given no value is as it was read. -/
theorem get?_merge_of_not_mem
    (t : Text)
    (h : name ∉ givenNames changes) :
    Dictionary.get? name (merge (parse t) changes) = Dictionary.get? name (parse t) := by
  rw [get?_merge, Dictionary.get?_eq_none_iff.mpr h, Option.none_or]

/-- Each variable after an update has the value that is given last, or else the one that was read. -/
theorem get?_of_mem_merge
    {t : Text}
    {entry : Text × Text}
    (h : entry ∈ merge (parse t) changes) :
    Dictionary.get? entry.1 (given changes) = some entry.2 ∨
      Dictionary.get? entry.1 (parse t) = some entry.2 := by
  have hget := (Dictionary.get?_eq_some_iff_mem (nodup_map_fst_merge t changes)).mpr h
  rw [get?_merge] at hget
  rcases Option.or_eq_some_iff.mp hget with hgiven | ⟨-, hread⟩
  · exact Or.inl hgiven
  · exact Or.inr hread

/-- Each variable after an update was given or read. -/
theorem mem_given_or_get?_of_mem_merge
    {t : Text}
    {entry : Text × Text}
    (h : entry ∈ merge (parse t) changes) :
    entry ∈ given changes ∨ Dictionary.get? entry.1 (parse t) = some entry.2 :=
  (get?_of_mem_merge h).imp_left Dictionary.mem_of_get?_eq_some

/-! ## What is written -/

/-- **A variable that is left alone** is read back without what its line no longer protects. -/
theorem get?_parse_render_merge
    (t : Text)
    (h : Untouched changes name) :
    Dictionary.get? name (parse (render (merge (parse t) changes))) =
      (Dictionary.get? name (parse t)).map readValue := by
  rw [get?_parse_render (nodup_map_fst_merge t changes), get?_merge_of_not_mem t h.notGiven]
  · intro value hvalue
    rcases mem_given_or_get?_of_mem_merge hvalue with hgiven | hread
    · exact absurd (List.mem_map_of_mem hgiven) h.notGiven
    · obtain ⟨hname, hline, -⟩ := isName_of_get?_parse hread
      exact entriesIn_renderLine hname hline
  · intro entry hentry hne
    rcases mem_given_or_get?_of_mem_merge hentry with hgiven | hread
    · exact h.notSet entry hgiven
    · obtain ⟨hname, hline, -⟩ := isName_of_get?_parse hread
      rw [entriesIn_renderLine hname hline, List.map_singleton, List.mem_singleton]
      exact Ne.symm hne

/-- The value that a second update writes for an entry of the first one. -/
def valueAgain (changes : Dictionary (Option Text)) (entry : Text × Text) : Text :=
  if entry.1 ∈ givenNames changes then entry.2 else readValue entry.2

/-- A second update writes the same names in the same order. -/
theorem sorted_merge_again
    (h : Confined changes)
    (t : Text) :
    (merge (parse (render (merge (parse t) changes))) changes).sorted =
      (merge (parse t) changes).sorted.map fun entry => (entry.1, valueAgain changes entry) := by
  rw [← Dictionary.sorted_map]
  have hkeys : (((merge (parse t) changes).map fun entry =>
      (entry.1, valueAgain changes entry)).map Prod.fst).Nodup := by
    rw [List.map_map]
    exact nodup_map_fst_merge t changes
  apply Dictionary.sorted_eq_of_perm _ (nodup_map_fst_merge _ changes)
  apply Dictionary.perm_of_get?_eq (nodup_map_fst_merge _ changes) hkeys
  intro key
  rw [Dictionary.get?_map]
  by_cases hkey : key ∈ givenNames changes
  · have hsome : Dictionary.get? key (given changes) ≠ none := fun hnone =>
      Dictionary.get?_eq_none_iff.mp hnone hkey
    obtain ⟨value, hvalue⟩ := Option.ne_none_iff_exists'.mp hsome
    rw [get?_merge, get?_merge, hvalue]
    simp [valueAgain, hkey]
  · rw [get?_merge_of_not_mem _ hkey, get?_merge_of_not_mem _ hkey,
      get?_parse_render_merge t (h.untouched hkey)]
    simp only [valueAgain, hkey, if_false]

/-- A second update writes no longer values. -/
theorem length_valueAgain_le
    (entry : Text × Text) :
    (valueAgain changes entry).length ≤ entry.2.length := by
  unfold valueAgain
  split
  · exact Nat.le_refl _
  · exact ((Text.stripBy_infix.trans Text.stripBy_infix).trans Text.stripBy_infix).length_le

/-- **A second update** writes the same text iff the variables that are left alone have values that
are read back as they are. -/
theorem render_merge_again_iff
    (h : Confined changes)
    (t : Text) :
    render (merge (parse (render (merge (parse t) changes))) changes) =
        render (merge (parse t) changes)
      ↔
    ∀ name value, Dictionary.get? name (parse t) = some value → name ∉ givenNames changes →
      IsBare value := by
  have hlength (entry : Text × Text) :
      (renderLine (entry.1, valueAgain changes entry) ++ [lineFeed]).length ≤
        (renderLine entry ++ [lineFeed]).length := by
    simp only [renderLine, List.length_append]
    have hvalue : (valueAgain changes entry).length ≤ entry.2.length := length_valueAgain_le entry
    omega
  have hline (entry : Text × Text) :
      renderLine (entry.1, valueAgain changes entry) ++ [lineFeed] =
          renderLine entry ++ [lineFeed]
        ↔
      valueAgain changes entry = entry.2 := by
    rw [renderLine, renderLine, List.append_left_inj, List.append_right_inj]
  rw [render_eq (merge (parse (render _)) changes), sorted_merge_again h,
    render_eq (merge (parse t) changes), List.flatMap_cons, List.flatMap_cons,
    List.append_right_inj, List.map_map, List.flatMap_map, List.flatMap_map]
  refine (Text.flatMap_eq_flatMap_iff fun entry _ => hlength entry).trans ?_
  constructor
  · intro hall name value hread hgiven
    obtain ⟨-, -, hends⟩ := isName_of_get?_parse hread
    rw [← get?_merge_of_not_mem t hgiven] at hread
    have hmem := (Dictionary.sorted_perm _).mem_iff.mpr (Dictionary.mem_of_get?_eq_some hread)
    have hvalue := (hline (name, value)).mp (hall (name, value) hmem)
    rw [valueAgain, if_neg hgiven] at hvalue
    exact (readValue_eq_self_iff hends).mp hvalue
  · intro hall entry hentry
    apply (hline entry).mpr
    unfold valueAgain
    split
    · rfl
    · rename_i hgiven
      have hmem := (Dictionary.sorted_perm _).mem_iff.mp hentry
      have hread : Dictionary.get? entry.1 (parse t) = some entry.2 := by
        rcases mem_given_or_get?_of_mem_merge hmem with hentry | hread
        · exact absurd (List.mem_map_of_mem hentry) hgiven
        · exact hread
      obtain ⟨-, -, hends⟩ := isName_of_get?_parse hread
      exact (readValue_eq_self_iff hends).mpr (hall _ _ hread hgiven)

end Merge

/-! ## Runs -/

section Run

variable {changes : Dictionary (Option Text)}
variable {p : Path}
variable {t t' : FileTree}

/-- The tree in which an update looks for variables, which has the directory of the file, and the text
that it finds there: it is empty if there is no file. -/
structure Finds (p : Path) (t made : FileTree) (old : Text) : Prop where
  directory : (FileAction.makeDirectories p.parent).run t = (.ok (), made)
  text : (FileAction.readText p).run made = (.ok old, made) ∨
    (FileAction.found? p).run made = (.ok none, made) ∧ old = []

/-- What an update leaves: the variables of the text that it found, with the changes. -/
theorem exists_of_update
    (h : (update changes p).run t = (.ok (), t')) :
    ∃ made old l octets, Finds p t made old ∧
      made.locate p = .ok l ∧ made.found? l ≠ some .directory ∧
      Utf8.encode (render (merge (parse old) changes)) = .ok octets ∧
      t' = made.set l (.file ⟨FileAction.openedMode made.umask (made.found? l), octets⟩) := by
  -- Once the directory and the old text are there, the rest is one writing.
  have written {made : FileTree} (old : Text)
      (hwrite : (FileAction.writeText p (render (merge (parse old) changes))).run made =
        (.ok (), t')) :
      ∃ l octets, made.locate p = .ok l ∧ made.found? l ≠ some .directory ∧
        Utf8.encode (render (merge (parse old) changes)) = .ok octets ∧
        t' = made.set l (.file ⟨FileAction.openedMode made.umask (made.found? l), octets⟩) := by
    obtain ⟨l, octets, hl, hfound, hencode⟩ := FileAction.exists_locate_of_writeAfter hwrite
    rw [FileAction.run_writeText_of_locate hl hfound hencode] at hwrite
    cases hwrite
    exact ⟨l, octets, hl, hfound, hencode, rfl⟩
  rw [update, FileAction.run_bind] at h
  split at h
  · rename_i made hmade
    rw [FileAction.run_bind] at h
    have hsame := FileAction.run_found?_snd p made
    cases hfound : (FileAction.found? p).run made with
    | mk result after =>
        rw [hfound] at h hsame
        obtain rfl : after = made := hsame
        cases result with
        | error fault =>
            cases h
        | ok e =>
            cases e with
            | none =>
                obtain ⟨l, octets, hwritten⟩ := written [] h
                exact ⟨after, [], l, octets, ⟨hmade, Or.inr ⟨hfound, rfl⟩⟩, hwritten⟩
            | some e =>
                dsimp only at h
                rw [FileAction.run_bind] at h
                have hsame := FileAction.run_readText_snd p after
                cases hread : (FileAction.readText p).run after with
                | mk result last =>
                    rw [hread] at h hsame
                    obtain rfl : last = after := hsame
                    cases result with
                    | error fault =>
                        cases h
                    | ok old =>
                        obtain ⟨l, octets, hwritten⟩ := written old h
                        exact ⟨last, old, l, octets, ⟨hmade, Or.inl hread⟩, hwritten⟩
  · cases h

/-- An update finds the text of a file that is there. -/
theorem finds_of_readText
    {old : Text}
    (hnames : p.names ≠ [])
    (hread : (FileAction.readText p).run t = (.ok old, t)) :
    Finds p t t old := by
  obtain ⟨l, f, raw, hl, -⟩ := FileAction.exists_file_of_readText hread
  exact ⟨FileAction.run_makeDirectories_above hnames hl, Or.inl hread⟩

/-- An update finds one text. -/
theorem Finds.unique
    {made made' : FileTree}
    {old old' : Text}
    (h : Finds p t made old)
    (h' : Finds p t made' old') :
    made = made' ∧ old = old' := by
  obtain ⟨hmade, htext⟩ := h
  obtain ⟨hmade', htext'⟩ := h'
  rw [hmade] at hmade'
  obtain rfl : made = made' := (Prod.mk.inj hmade').2
  refine ⟨rfl, ?_⟩
  -- A text that is read is that of a file, and then something is found.
  have found {text : Text} (hread : (FileAction.readText p).run made = (.ok text, made))
      (hnone : (FileAction.found? p).run made = (.ok none, made)) : False := by
    obtain ⟨l, f, raw, hl, hfile, -⟩ := FileAction.exists_file_of_readText hread
    rw [FileAction.run_found?_of_locate hl, hfile] at hnone
    cases hnone
  rcases htext with hread | ⟨hnone, rfl⟩ <;> rcases htext' with hread' | ⟨hnone', rfl⟩
  · rw [hread] at hread'
    cases hread'
    rfl
  · exact (found hread hnone').elim
  · exact (found hread' hnone).elim
  · rfl

/-- What an update does to what it finds: it writes one text. -/
theorem run_update_of_finds
    (changes : Dictionary (Option Text))
    {made : FileTree}
    {old : Text}
    (h : Finds p t made old) :
    (update changes p).run t =
      (FileAction.writeText p (render (merge (parse old) changes))).run made := by
  rw [update, FileAction.run_bind, h.directory]
  dsimp only
  rw [FileAction.run_bind]
  rcases h.text with hread | ⟨hnone, rfl⟩
  · obtain ⟨l, f, raw, hl, hfound, -, -⟩ := FileAction.exists_file_of_readText hread
    rw [FileAction.run_found?_of_locate hl, hfound]
    dsimp only
    rw [FileAction.run_bind, hread]
    rfl
  · rw [hnone]
    rfl

/-- An update of a file that is there. -/
theorem run_update_of_readText
    (changes : Dictionary (Option Text))
    {old : Text}
    (hnames : p.names ≠ [])
    (hread : (FileAction.readText p).run t = (.ok old, t)) :
    (update changes p).run t =
      (FileAction.writeText p (render (merge (parse old) changes))).run t :=
  run_update_of_finds changes (finds_of_readText hnames hread)

/-- Only a path with a name can be updated. -/
theorem names_ne_nil_of_update
    (h : (update changes p).run t = (.ok (), t')) :
    p.names ≠ [] := by
  intro hnil
  obtain ⟨made, old, l, octets, ⟨hmade, -⟩, hl, hfound, -⟩ := exists_of_update h
  rw [Path.parent_eq_self hnil] at hmade
  obtain ⟨l', hl', hdirectory⟩ := FileAction.exists_directory_of_makeDirectories hmade
  rw [hl] at hl'
  cases hl'
  exact hfound hdirectory

/-- **An update keeps a variable that it leaves alone** iff the value has neither blanks nor double
quotes at its ends: it is read back without these.  The same update then changes nothing iff this
holds of all variables that are left alone. -/
theorem update_preserves_iff_isBare
    {old : Text}
    (hread : (FileAction.readText p).run t = (.ok old, t))
    (hupdate : (update changes p).run t = (.ok (), t')) :
    ∃ new, (FileAction.readText p).run t' = (.ok new, t') ∧
      (∀ name value, Dictionary.get? name (parse old) = some value → Untouched changes name →
        Dictionary.get? name (parse new) = some (readValue value) ∧
        (Dictionary.get? name (parse new) = some value ↔ IsBare value)) ∧
      (Confined changes →
        ((update changes p).run t' = (.ok (), t')
          ↔
        ∀ name value, Dictionary.get? name (parse old) = some value → name ∉ givenNames changes →
          IsBare value)) := by
  have hnames := names_ne_nil_of_update hupdate
  rw [run_update_of_readText changes hnames hread] at hupdate
  obtain ⟨l, octets, hl, hfound, hencode⟩ := FileAction.exists_locate_of_writeAfter hupdate
  rw [FileAction.run_writeText_of_locate hl hfound hencode] at hupdate
  cases hupdate
  have hback := FileAction.run_readText_set hl hfound hencode
    (FileAction.openedMode t.umask (t.found? l))
  refine ⟨_, hback, ?_, ?_⟩
  · intro name value hvalue huntouched
    obtain ⟨-, -, hends⟩ := isName_of_get?_parse hvalue
    have hnew : Dictionary.get? name
        (parse (Text.unifyNewlines (render (merge (parse old) changes)))) =
          some (readValue value) := by
      rw [parse_unifyNewlines, get?_parse_render_merge old huntouched, hvalue, Option.map_some]
    refine ⟨hnew, ?_⟩
    rw [hnew, Option.some.injEq, readValue_eq_self_iff hends]
  · intro hconfined
    rw [← render_merge_again_iff hconfined, run_update_of_readText changes hnames hback,
      parse_unifyNewlines]
    have hroot := FileTree.ne_root_of_found? hfound
    have hfile := FileTree.found?_set_self t hroot
      (.file ⟨FileAction.openedMode t.umask (t.found? l), octets⟩)
    have hl' := FileTree.locate_set hfound
      (.file ⟨FileAction.openedMode t.umask (t.found? l), octets⟩) hl
    constructor
    · intro hagain
      obtain ⟨l', octets', hl'', hfound', hencode'⟩ :=
        FileAction.exists_locate_of_writeAfter hagain
      rw [FileAction.run_writeText_of_locate hl'' hfound' hencode'] at hagain
      rw [hl'] at hl''
      cases hl''
      -- The file that is there after the second writing is the one that was there before.
      have hsame := congrArg (fun result => result.2.found? l) hagain
      simp only [FileTree.found?_set_self _ hroot, Option.some.injEq, Entry.file.injEq,
        RegularFile.mk.injEq] at hsame
      rw [hsame.2] at hencode'
      have hdecode := Utf8.decode_of_encode hencode'
      rw [Utf8.decode_of_encode hencode] at hdecode
      exact (Except.ok.inj hdecode).symm
    · intro hrender
      have hnot : (t.set l (.file ⟨FileAction.openedMode t.umask (t.found? l), octets⟩)).found? l ≠
          some .directory := by
        rw [hfile]
        exact nofun
      rw [hrender, FileAction.run_writeText_of_locate hl' hnot hencode, hfile]
      rw [FileAction.openedMode, FileTree.set_of_found? hroot hfile]

/-- A plain value and a quoted one are kept, and updating again changes nothing. -/
theorem update_preserves_quotedWords :
    ∃ t' new,
      (FileAction.readText (Path.ofText ".env")).run t' = (.ok new, t') ∧
      Dictionary.get? "KEEP" (parse new) = some (Text.ofString "1") ∧
      Dictionary.get? "Q" (parse new) = some (Text.ofString "x y") ∧
      (update [("NEW", some (Text.ofString "n"))] (Path.ofText ".env")).run t' = (.ok (), t') := by
  have hread : ((FileAction.readText (Path.ofText ".env")).run
      (FileTree.ofTexts [(".env", "KEEP=1\nQ=\"x y\"\n")])).1 =
        .ok (Text.ofString "KEEP=1\nQ=\"x y\"\n") := by
    decide +kernel
  have hupdate : ((update [("NEW", some (Text.ofString "n"))] (Path.ofText ".env")).run
      (FileTree.ofTexts [(".env", "KEEP=1\nQ=\"x y\"\n")])).1 = .ok () := by
    decide +kernel
  have hconfined : Confined [("NEW", some (Text.ofString "n"))] := by
    unfold Confined
    decide +kernel
  have hall : ∀ entry ∈ parse (Text.ofString "KEEP=1\nQ=\"x y\"\n"), IsBare entry.2 := by
    unfold IsBare Text.EndsOutside
    decide +kernel
  obtain ⟨new, hnew, hkept, hagain⟩ :=
    update_preserves_iff_isBare (FileAction.run_readText_of_fst hread)
      (FileAction.run_eq_of_fst hupdate)
  have hkeep := (hkept (Text.ofString "KEEP") (Text.ofString "1") (by decide +kernel)
    (hconfined.untouched (by decide +kernel))).1
  have hq := (hkept (Text.ofString "Q") (Text.ofString "x y") (by decide +kernel)
    (hconfined.untouched (by decide +kernel))).1
  refine ⟨_, new, hnew, hkeep, hq, (hagain hconfined).mpr ?_⟩
  intro name value hvalue _
  exact hall (name, value) (Dictionary.mem_of_get?_eq_some hvalue)

/-- Without any changes, blanks between double quotes are lost, and the line of the value changes
once more when the file is updated again. -/
theorem update_loses_quotedBlanks :
    let p := Path.ofText ".env"
    let once := (update [] p).run (FileTree.ofTexts [(".env", "K=\" a \"\n")])
    let twice := (update [] p).run once.2
    Dictionary.get? "K" (parse "K=\" a \"\n") = some (Text.ofString " a ") ∧
    once.1 = .ok () ∧
    ((FileAction.readText p).run once.2).1 = .ok (heading ++ Text.ofString "\nK= a \n") ∧
    Dictionary.get? "K" (parse (heading ++ Text.ofString "\nK= a \n")) =
      some (Text.ofString "a") ∧
    twice.1 = .ok () ∧
    ((FileAction.readText p).run twice.2).1 = .ok (heading ++ Text.ofString "\nK=a\n") := by
  decide +kernel

end Run

end CurlRequest.UserFile
