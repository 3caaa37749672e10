import CurlRequest.Proofs.Settings.Update
import CurlRequest.Proofs.Text.Newlines
import CurlRequest.Proofs.Text.Surrogates

/-!
# The names after an update

An update writes one line for each variable that was read and for each that is given, in the order of
the names.  A name that was read is trimmed, is no comment, and holds neither an equals sign nor any
of the code points at which a text is broken into lines, however the old text was broken.  So a line
that was written is one line and sets its own name, and no line can hide, split or join another one.

Only the encoding can fail: a text that was decoded has no surrogates, so what was read of it can
always be written again, and what is given can be written iff it has none either.

**Results.**
* `lines_render`, `parse_render`: the lines of a file that was written, and what is read of it.
* `mem_map_fst_merge_iff`: the names after an update.
* `hasSurrogate_render_merge_iff`: when what is written can be encoded.
* `Finds.exists_locate`: an update has a place to write to.
* `update_keeps_names`: all of it for a run of the update.
-/

namespace CurlRequest.UserFile

open Text (EndsOutside carriageReturn lineFeed)

/-! ## Lines and values -/

/-- A value that is written and read back as it is: it stands in one line, and its ends are neither
blanks nor quotes. -/
structure IsPlain (value : Text) : Prop where
  isLine : IsLine value
  bare : IsBare value
  unquoted : EndsOutside (· = CodePoint.ofChar '\x27') value

instance (t : Text) : Decidable (IsLine t) :=
  inferInstanceAs (Decidable (∀ c ∈ t, c.isLineBreak = false))

instance (isOuter : CodePoint → Bool) (t : Text) : Decidable (EndsOutside isOuter t) :=
  inferInstanceAs (Decidable (_ ∧ _))

instance (name : Text) : Decidable (IsName name) :=
  decidable_of_iff (name ≠ [] ∧ Text.trim name = name ∧ name.head? ≠ some (CodePoint.ofChar '#') ∧
      CodePoint.ofChar '=' ∉ name ∧ IsLine name)
    ⟨fun ⟨h₁, h₂, h₃, h₄, h₅⟩ => ⟨h₁, h₂, h₃, h₄, h₅⟩,
      fun ⟨h₁, h₂, h₃, h₄, h₅⟩ => ⟨h₁, h₂, h₃, h₄, h₅⟩⟩

instance (value : Text) : Decidable (IsPlain value) :=
  decidable_of_iff (IsLine value ∧
      EndsOutside (fun c => c.isBlank || decide (c = CodePoint.ofChar '\x22')) value ∧
      EndsOutside (· = CodePoint.ofChar '\x27') value)
    ⟨fun ⟨h₁, h₂, h₃⟩ => ⟨h₁, h₂, h₃⟩, fun ⟨h₁, h₂, h₃⟩ => ⟨h₁, h₂, h₃⟩⟩

/-- A plain value is read back. -/
theorem IsPlain.readValue_eq
    {value : Text}
    (h : IsPlain value) :
    readValue value = value :=
  (readValue_eq_self_iff h.unquoted).mpr h.bare

/-- Texts in one line that each end in a line feed are the lines of their text. -/
theorem lines_flatMap
    {ls : List Text}
    (h : ∀ l ∈ ls, IsLine l) :
    Text.lines (ls.flatMap (· ++ [lineFeed])) = ls := by
  have hreturn : carriageReturn ∉ ls.flatMap (· ++ [lineFeed]) := by
    rw [List.mem_flatMap]
    rintro ⟨l, hl, hmem⟩
    rcases List.mem_append.mp hmem with hmem | hmem
    · exact (h l hl).not_mem hmem
    · revert hmem
      decide
  have hpieces : Text.splitBy CodePoint.isLineBreak (ls.flatMap (· ++ [lineFeed])) = ls ++ [[]] :=
    Text.splitBy_flatMap (by decide) h
  rw [Text.lines, Text.unifyNewlines_of_not_mem hreturn, hpieces]
  simp

section Render

variable {entries : Dictionary Text}

/-- **The lines of a file**: the heading, and a line for each variable in the order of the names. -/
theorem lines_render
    (h : ∀ entry ∈ entries, IsName entry.1 ∧ IsLine entry.2) :
    Text.lines (render entries) = heading :: entries.sorted.map renderLine := by
  rw [render_eq]
  apply lines_flatMap
  intro l hl
  rcases List.mem_cons.mp hl with rfl | hl
  · unfold IsLine
    decide +kernel
  · obtain ⟨entry, hentry, rfl⟩ := List.mem_map.mp hl
    obtain ⟨hname, hvalue⟩ := h entry ((Dictionary.sorted_perm entries).mem_iff.mp hentry)
    exact isLine_renderLine hname hvalue

/-- **What is read of a file**: a variable for each line, in the order of the lines. -/
theorem parse_render
    (hkeys : (entries.map Prod.fst).Nodup)
    (h : ∀ entry ∈ entries, IsName entry.1 ∧ IsLine entry.2) :
    parse (render entries) = entries.sorted.map fun entry => (entry.1, readValue entry.2) := by
  have hread : entriesIn (render entries) =
      entries.sorted.map fun entry => (entry.1, readValue entry.2) := by
    rw [entriesIn_render, List.map_eq_flatMap]
    apply List.flatMap_congr
    intro entry hentry
    obtain ⟨hname, hvalue⟩ := h entry ((Dictionary.sorted_perm entries).mem_iff.mp hentry)
    exact entriesIn_renderLine hname hvalue
  have hnodup : ((entries.sorted.map fun entry => (entry.1, readValue entry.2)).map
      Prod.fst).Nodup := by
    rw [List.map_map]
    exact ((Dictionary.sorted_perm entries).map Prod.fst).nodup_iff.mpr hkeys
  rw [parse, ← entriesIn, hread, Dictionary.ofEntries_eq_self hnodup]

/-- A file that is written has a surrogate only if some name or some value has one. -/
theorem hasSurrogate_render_iff :
    (render entries).hasSurrogate = false
      ↔
    ∀ entry ∈ entries, entry.1.hasSurrogate = false ∧ entry.2.hasSurrogate = false := by
  have hline (entry : Text × Text) :
      (renderLine entry).hasSurrogate = (entry.1.hasSurrogate || entry.2.hasSurrogate) := by
    simp only [renderLine, Text.hasSurrogate_append, Text.hasSurrogate_ofString, Bool.or_false]
  have hheading : heading.hasSurrogate = false := Text.hasSurrogate_ofString _
  rw [render, Text.hasSurrogate_append, Text.hasSurrogate_join (Text.hasSurrogate_ofString _),
    Text.hasSurrogate_ofString, Bool.or_false, List.any_cons, hheading, Bool.false_or,
    List.any_map, List.any_eq_false]
  simp only [Function.comp_apply, hline, Bool.not_eq_true, Bool.or_eq_false_iff,
    (Dictionary.sorted_perm entries).mem_iff]

end Render

/-! ## Names and values after an update -/

section Merge

variable {changes : Dictionary (Option Text)}
variable {t : Text}

/-- **The names after an update** are those that are given a value and those that were read. -/
theorem mem_map_fst_merge_iff
    {name : Text} :
    name ∈ (merge (parse t) changes).map Prod.fst
      ↔
    name ∈ givenNames changes ∨ name ∈ (parse t).map Prod.fst := by
  rw [← not_iff_not, not_or, ← Dictionary.get?_eq_none_iff, get?_merge, Option.or_eq_none_iff,
    Dictionary.get?_eq_none_iff, Dictionary.get?_eq_none_iff]
  rfl

/-- The variables after an update are names and values in one line, if those that are given are. -/
theorem isName_of_mem_merge
    (h : ∀ name value, Dictionary.get? name (given changes) = some value →
      IsName name ∧ IsLine value)
    {entry : Text × Text}
    (hentry : entry ∈ merge (parse t) changes) :
    IsName entry.1 ∧ IsLine entry.2 := by
  rcases get?_of_mem_merge hentry with hgiven | hread
  · exact h entry.1 entry.2 hgiven
  · obtain ⟨hname, hline, -⟩ := isName_of_get?_parse hread
    exact ⟨hname, hline⟩

/-- A name and a value hold nothing but what their line holds. -/
theorem subset_of_parseLine?
    {line name value : Text}
    (h : parseLine? line = some (name, value)) :
    name ⊆ line ∧ value ⊆ line := by
  unfold parseLine? at h
  dsimp only at h
  split at h
  · cases h
  · split at h
    · cases h
    · rename_i before after hcut
      obtain ⟨hsplit, -⟩ := Text.eq_append_of_cutAt? hcut
      have hparts : before ++ CodePoint.ofChar '=' :: after ⊆ line := by
        rw [← hsplit]
        exact Text.stripBy_infix.subset
      split at h
      · cases h
      · cases h
        constructor
        · intro c hc
          exact hparts (List.mem_append_left _ (Text.mem_of_mem_stripBy hc))
        · intro c hc
          exact hparts (List.mem_append_right _ (List.mem_cons_of_mem _ (mem_of_mem_readValue hc)))

/-- What is read of a text without surrogates has none. -/
theorem hasSurrogate_of_get?_parse
    (ht : t.hasSurrogate = false)
    {name value : Text}
    (h : Dictionary.get? name (parse t) = some value) :
    name.hasSurrogate = false ∧ value.hasSurrogate = false := by
  have hmem : (name, value) ∈ entriesIn t := by
    rw [parse, Dictionary.get?_ofEntries] at h
    exact Dictionary.mem_of_get?_eq_some h
  rw [entriesIn_eq_filterMap_splitBy] at hmem
  obtain ⟨line, hline, hparse⟩ := List.mem_filterMap.mp hmem
  obtain ⟨hname, hvalue⟩ := subset_of_parseLine? hparse
  have hnone : line.hasSurrogate = false :=
    Text.hasSurrogate_of_subset (Text.subset_of_mem_splitBy hline)
      ((Text.hasSurrogate_unifyNewlines t).trans ht)
  exact ⟨Text.hasSurrogate_of_subset hname hnone, Text.hasSurrogate_of_subset hvalue hnone⟩

/-- **What an update writes can be encoded** iff what is given can. -/
theorem hasSurrogate_render_merge_iff
    (ht : t.hasSurrogate = false) :
    (render (merge (parse t) changes)).hasSurrogate = false
      ↔
    ∀ name value, Dictionary.get? name (given changes) = some value →
      name.hasSurrogate = false ∧ value.hasSurrogate = false := by
  rw [hasSurrogate_render_iff]
  constructor
  · intro hall name value hgiven
    apply hall (name, value)
    apply (Dictionary.get?_eq_some_iff_mem (nodup_map_fst_merge t changes)).mp
    rw [get?_merge, hgiven, Option.some_or]
  · intro hall entry hentry
    rcases get?_of_mem_merge hentry with hgiven | hread
    · exact hall entry.1 entry.2 hgiven
    · exact hasSurrogate_of_get?_parse ht hread

end Merge

/-! ## Runs -/

section Run

variable {changes : Dictionary (Option Text)}
variable {p : Path}
variable {t made t' : FileTree}
variable {old : Text}

/-- The text that an update finds was decoded, so it has no surrogates. -/
theorem Finds.hasSurrogate_eq_false
    (h : Finds p t made old) :
    old.hasSurrogate = false := by
  rcases h.text with hread | ⟨-, rfl⟩
  · obtain ⟨l, f, raw, -, -, hdecode, rfl⟩ := FileAction.exists_file_of_readText hread
    rw [Text.hasSurrogate_unifyNewlines]
    exact (Utf8.decode_eq_ok_iff.mp hdecode).1
  · rfl

/-- **An update has a place to write to**, unless the path holds the code point that ends names for
the system. -/
theorem Finds.exists_locate
    (h : Finds p t made old)
    (hnul : p.holdsNul = false) :
    ∃ l, made.locate p = .ok l ∧ made.found? l ≠ some .directory := by
  rcases h.text with hread | ⟨hnone, -⟩
  · obtain ⟨l, f, raw, hl, hfound, -, -⟩ := FileAction.exists_file_of_readText hread
    refine ⟨l, hl, ?_⟩
    rw [hfound]
    exact nofun
  · cases hl : made.locate p with
    | ok l =>
        refine ⟨l, rfl, ?_⟩
        rw [FileAction.run_found?_of_locate hl] at hnone
        intro hdirectory
        rw [hdirectory] at hnone
        cases hnone
    | error fault =>
        obtain ⟨above, habove, hdirectory⟩ :=
          FileAction.exists_directory_of_makeDirectories h.directory
        have hnames : p.names ≠ [] := by
          intro hnil
          rw [Path.parent_eq_self hnil, hl] at habove
          cases habove
        rcases FileTree.locate_of_parent hnames hnul habove hdirectory with ⟨l, hl'⟩ | hlong
        · rw [hl'] at hl
          cases hl
        · -- Looking for a file with too long a name fails.
          rw [FileAction.found?, FileAction.run_bind, FileAction.run_read] at hnone
          simp only [hlong, FileAction.run_throw] at hnone
          cases hnone

/-- **An update loses no variable that was read and none that is given.**  Let names be given plain
values.  Writing succeeds iff these names and values have no surrogates.  Then the file has a heading
and after it one line for each name, in the order of the names, and each line is read as the variable
that it was written for.  The names are those that were read and those that are given; what stands in
the line of a name is the value that is given, or else the one that was read; and the values that
are given are read back as they are. -/
theorem update_keeps_names
    (hplain : ∀ name value, Dictionary.get? name (given changes) = some value →
      IsName name ∧ IsPlain value)
    (hnul : p.holdsNul = false)
    (hold : Finds p t made old) :
    (((update changes p).run t).1 = .ok ()
        ↔
      ∀ name value, Dictionary.get? name (given changes) = some value →
        name.hasSurrogate = false ∧ value.hasSurrogate = false) ∧
    ∀ t', (update changes p).run t = (.ok (), t') →
      ∃ new entries, (FileAction.readText p).run t' = (.ok new, t') ∧
        Text.lines new = heading :: entries.map renderLine ∧
        entries.Pairwise (fun a b => Text.lt a.1 b.1 = true) ∧
        parse new = entries.map (fun entry => (entry.1, readValue entry.2)) ∧
        (∀ name, Dictionary.get? name entries =
          (Dictionary.get? name (given changes)).or (Dictionary.get? name (parse old))) ∧
        (∀ name, name ∈ (parse new).map Prod.fst
            ↔
          name ∈ givenNames changes ∨ name ∈ (parse old).map Prod.fst) ∧
        ∀ name value, Dictionary.get? name (given changes) = some value →
          Dictionary.get? name (parse new) = some value := by
  obtain ⟨l, hl, hfound⟩ := hold.exists_locate hnul
  rw [run_update_of_finds changes hold, ← hasSurrogate_render_merge_iff hold.hasSurrogate_eq_false]
  constructor
  · constructor
    · intro hok
      obtain ⟨-, octets, -, -, hencode⟩ :=
        FileAction.exists_locate_of_writeAfter (FileAction.run_eq_of_fst hok)
      exact (Utf8.encode_eq_ok_iff.mp hencode).1
    · intro hnone
      rw [FileAction.run_writeText_of_locate hl hfound (Utf8.encode_eq_ok_iff.mpr ⟨hnone, rfl⟩)]
  · intro t' hwrite
    obtain ⟨-, octets, -, -, hencode⟩ := FileAction.exists_locate_of_writeAfter hwrite
    rw [FileAction.run_writeText_of_locate hl hfound hencode] at hwrite
    cases hwrite
    have hback := FileAction.run_readText_set hl hfound hencode
      (FileAction.openedMode made.umask (made.found? l))
    have hlines : ∀ entry ∈ merge (parse old) changes, IsName entry.1 ∧ IsLine entry.2 :=
      fun entry hentry => isName_of_mem_merge (fun name value hgiven =>
        ⟨(hplain name value hgiven).1, (hplain name value hgiven).2.isLine⟩) hentry
    have hkeys := nodup_map_fst_merge old changes
    have hreturn : carriageReturn ∉ render (merge (parse old) changes) :=
      not_mem_render fun entry hentry =>
        (isLine_renderLine (hlines entry hentry).1 (hlines entry hentry).2).not_mem
    rw [Text.unifyNewlines_of_not_mem hreturn] at hback
    have hparse := parse_render hkeys hlines
    have hget (name : Text) : Dictionary.get? name (merge (parse old) changes).sorted =
        (Dictionary.get? name (given changes)).or (Dictionary.get? name (parse old)) := by
      rw [Dictionary.get?_sorted hkeys, get?_merge]
    refine ⟨_, (merge (parse old) changes).sorted, hback, lines_render hlines,
      Dictionary.pairwise_lt_sorted hkeys, hparse, hget, ?_, ?_⟩
    · intro name
      rw [hparse, List.map_map, ← mem_map_fst_merge_iff]
      exact ((Dictionary.sorted_perm _).map Prod.fst).mem_iff
    · intro name value hgiven
      rw [hparse, Dictionary.get?_map, hget, hgiven, Option.some_or, Option.map_some,
        (hplain name value hgiven).2.readValue_eq]

/-- The old text is broken into lines in three ways, names a variable twice and has a name of two
words. -/
theorem update_keeps_names_twoWords :
    ∃ t' new,
      (update [("A", some "x#y"), ("B", none), ("a b", some "")] (Path.ofText ".env")).run
          (FileTree.ofTexts [(".env", "export A=1\u2028B='2'\x0bA=3\n#C=4\nD\n")]) =
        (.ok (), t') ∧
      (FileAction.readText (Path.ofText ".env")).run t' = (.ok new, t') ∧
      (∀ name, name ∈ (parse new).map Prod.fst
          ↔
        name ∈ (["A", "a b"] : List Text) ∨ name ∈ (["export A", "B", "A"] : List Text)) ∧
      Dictionary.get? "A" (parse new) = some (Text.ofString "x#y") ∧
      Dictionary.get? "a b" (parse new) = some (Text.ofString "") := by
  have hread : ((FileAction.readText (Path.ofText ".env")).run
      (FileTree.ofTexts [(".env", "export A=1\u2028B='2'\x0bA=3\n#C=4\nD\n")])).1 =
        .ok (Text.ofString "export A=1\u2028B='2'\x0bA=3\n#C=4\nD\n") := by
    decide +kernel
  have hnames : givenNames [("A", some "x#y"), ("B", none), ("a b", some "")] =
      (["A", "a b"] : List Text) := by
    decide +kernel
  have hparse : (parse "export A=1\u2028B='2'\x0bA=3\n#C=4\nD\n").map Prod.fst =
      (["export A", "B", "A"] : List Text) := by
    decide +kernel
  have hgiven : ∀ entry ∈ given [("A", some "x#y"), ("B", none), ("a b", some "")],
      IsName entry.1 ∧ IsPlain entry.2 ∧ entry.1.hasSurrogate = false ∧
        entry.2.hasSurrogate = false := by
    decide +kernel
  have hlast (name value : Text) (h : Dictionary.get? name
      (given [("A", some "x#y"), ("B", none), ("a b", some "")]) = some value) :=
    hgiven (name, value) (Dictionary.mem_of_get?_eq_some h)
  obtain ⟨hok, hafter⟩ := update_keeps_names
    (fun name value h => ⟨(hlast name value h).1, (hlast name value h).2.1⟩) (by decide +kernel)
    (finds_of_readText (by decide +kernel) (FileAction.run_readText_of_fst hread))
  have hdone := FileAction.run_eq_of_fst (hok.mpr fun name value h => (hlast name value h).2.2)
  obtain ⟨new, -, hnew, -, -, -, -, hunion, hvalues⟩ := hafter _ hdone
  rw [hnames, hparse] at hunion
  exact ⟨_, new, hdone, hnew, hunion, hvalues _ _ (by decide +kernel),
    hvalues _ _ (by decide +kernel)⟩

end Run

end CurlRequest.UserFile
