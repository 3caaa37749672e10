import CurlRequest.Proofs.Dictionary
import CurlRequest.Proofs.Text.Cutting
import CurlRequest.Proofs.Text.Lines
import CurlRequest.Proofs.Text.Trim
import CurlRequest.Settings.UserFile

/-!
# The texts of the user's file

Each variable of the user's file has a line of its own, and reading goes line by line.  A name that
was read is read back as it is.  A value is written without the quotes and blanks around it, so it
is read back as what is left after they are stripped once more.

**Results.**
* `entriesIn_append`: the lines of a text are read one by one.
* `parseLine?_renderLine`: what is read of a line that was written.
* `get?_parse_render`: what is read of a file that was written.
* `readValue_eq_self_iff`: the values that are read back as they are.
-/

namespace CurlRequest.UserFile

open Text (stripBy EndsOutside carriageReturn lineFeed)

/-! ## Lines -/

/-- What the lines of a text assign, in order. -/
def entriesIn (t : Text) : List (Text × Text) :=
  (Text.lines t).filterMap parseLine?

/-- An empty piece at the end of a text assigns nothing, nor does any other. -/
theorem entriesIn_eq_filterMap_splitBy
    (t : Text) :
    entriesIn t =
      (Text.splitBy CodePoint.isLineBreak (Text.unifyNewlines t)).filterMap parseLine? := by
  unfold entriesIn Text.lines
  dsimp only
  split
  · rename_i hlast
    obtain ⟨pieces, hpieces⟩ := List.getLast?_eq_some_iff.mp hlast
    rw [hpieces, List.dropLast_concat, List.filterMap_append]
    exact (List.append_nil _).symm
  · rfl

/-- **The lines of a text** are read one by one. -/
theorem entriesIn_append
    (before after : Text) :
    entriesIn (before ++ lineFeed :: after) = entriesIn before ++ entriesIn after := by
  have hbreak : CodePoint.isLineBreak lineFeed = true := by decide
  simp only [entriesIn_eq_filterMap_splitBy]
  by_cases hlast : before.getLast? = some carriageReturn
  · -- The line feed goes with the carriage return before it, and an empty piece is lost.
    obtain ⟨start, rfl⟩ := List.getLast?_eq_some_iff.mp hlast
    have hwhole := Text.unifyNewlines_append_carriageReturn start after
    have hhead : [carriageReturn].head? ≠ some lineFeed := by
      rw [List.head?_cons, Ne, Option.some.injEq]
      decide
    have hstart : Text.unifyNewlines (start ++ [carriageReturn]) =
        Text.unifyNewlines start ++ lineFeed :: [] :=
      Text.unifyNewlines_append (Or.inr hhead)
    rw [List.append_assoc, List.singleton_append, hwhole, hstart,
      Text.splitBy_append_cons hbreak, Text.splitBy_append_cons hbreak, List.filterMap_append,
      List.filterMap_append]
    rw [List.append_assoc]
    rfl
  · have hunify : Text.unifyNewlines (before ++ lineFeed :: after) =
        Text.unifyNewlines before ++ lineFeed :: Text.unifyNewlines after := by
      rw [Text.unifyNewlines_append (Or.inl hlast),
        Text.unifyNewlines_cons (c := lineFeed) (by decide) after]
    rw [hunify, Text.splitBy_append_cons hbreak, List.filterMap_append]

/-- Lines that end in line feeds are read one by one. -/
theorem entriesIn_flatMap
    (ls : List Text) :
    entriesIn (ls.flatMap (· ++ [lineFeed])) = ls.flatMap entriesIn := by
  induction ls with
  | nil =>
      rfl
  | cons l ls ih =>
      rw [List.flatMap_cons, List.flatMap_cons, ← ih, List.append_assoc, List.singleton_append,
        entriesIn_append]

/-! ## Names and values -/

/-- What is read of the text behind an equals sign. -/
def readValue (t : Text) : Text :=
  Text.stripOf '\x27' (Text.stripOf '\x22' (Text.trim t))

/-- A text without line breaks. -/
def IsLine (t : Text) : Prop :=
  ∀ c ∈ t, c.isLineBreak = false

/-- A text that can stand for a name: it is not empty, is trimmed, is no comment and holds neither an
equals sign nor a line break. -/
structure IsName (name : Text) : Prop where
  ne_nil : name ≠ []
  trimmed : Text.trim name = name
  noComment : name.head? ≠ some (CodePoint.ofChar '#')
  noEquals : CodePoint.ofChar '=' ∉ name
  isLine : IsLine name

/-- A value whose ends are neither blanks nor double quotes. -/
def IsBare (value : Text) : Prop :=
  EndsOutside (fun c => c.isBlank || decide (c = CodePoint.ofChar '\x22')) value

/-- What stands in a value stood in the text that it was read of. -/
theorem mem_of_mem_readValue
    {c : CodePoint}
    {t : Text}
    (h : c ∈ readValue t) :
    c ∈ t :=
  Text.mem_of_mem_stripBy (Text.mem_of_mem_stripBy (Text.mem_of_mem_stripBy h))

/-- Blanks at the end make no difference to a value. -/
theorem readValue_trimEnd
    (t : Text) :
    readValue (Text.trimEnd t) = readValue t := by
  rw [readValue, Text.trim_trimEnd, readValue]

/-- A value that was read has no single quote at an end. -/
theorem endsOutside_readValue
    (t : Text) :
    EndsOutside (· = CodePoint.ofChar '\x27') (readValue t) :=
  Text.stripBy_eq_self_iff.mp Text.stripBy_stripBy

/-- Neither end belongs to two classes iff it belongs to neither. -/
theorem endsOutside_or_iff
    {p q : CodePoint → Bool}
    {t : Text} :
    EndsOutside (fun c => p c || q c) t
      ↔
    EndsOutside p t ∧ EndsOutside q t := by
  unfold EndsOutside
  simp only [Bool.or_eq_false_iff]
  constructor
  · rintro ⟨hhead, hlast⟩
    exact ⟨⟨fun c hc => (hhead c hc).1, fun c hc => (hlast c hc).1⟩,
      fun c hc => (hhead c hc).2, fun c hc => (hlast c hc).2⟩
  · rintro ⟨⟨hhead, hlast⟩, hhead', hlast'⟩
    exact ⟨fun c hc => ⟨hhead c hc, hhead' c hc⟩, fun c hc => ⟨hlast c hc, hlast' c hc⟩⟩

/-- **A value is read back as it is** iff its ends are neither blanks nor double quotes, given that
they are no single quotes. -/
theorem readValue_eq_self_iff
    {value : Text}
    (h : EndsOutside (· = CodePoint.ofChar '\x27') value) :
    readValue value = value
      ↔
    IsBare value := by
  rw [IsBare, endsOutside_or_iff, ← Text.stripBy_eq_self_iff, ← Text.stripBy_eq_self_iff]
  constructor
  · intro hvalue
    -- No step can shorten the value, because the last one gives all of it.
    have htrim : stripBy CodePoint.isBlank value = value := by
      apply Text.stripBy_infix.eq_of_length_le
      calc
        value.length = (readValue value).length := by rw [hvalue]
        _ ≤ (Text.stripOf '\x22' (Text.trim value)).length := Text.stripBy_infix.length_le
        _ ≤ (Text.trim value).length := Text.stripBy_infix.length_le
    refine ⟨htrim, ?_⟩
    apply Text.stripBy_infix.eq_of_length_le
    calc
      value.length = (readValue value).length := by rw [hvalue]
      _ ≤ (Text.stripOf '\x22' (Text.trim value)).length := Text.stripBy_infix.length_le
      _ = (Text.stripOf '\x22' value).length := by rw [Text.trim_eq_stripBy, htrim]
  · rintro ⟨htrim, hdouble⟩
    have hsingle := Text.stripBy_eq_self_iff.mpr h
    rw [readValue, Text.trim_eq_stripBy, htrim, Text.stripOf_eq_stripBy, Text.stripOf_eq_stripBy,
      hdouble, hsingle]

/-! ## Reading a line -/

/-- What a line assigns: a name, and the value that is read of a text in one line. -/
theorem isName_of_parseLine?
    {line name value : Text}
    (hline : IsLine line)
    (h : parseLine? line = some (name, value)) :
    IsName name ∧ ∃ rest, IsLine rest ∧ value = readValue rest := by
  have htrimmed : IsLine (Text.trim line) := fun c hc =>
    hline c (Text.mem_of_mem_stripBy hc)
  unfold parseLine? at h
  dsimp only at h
  split at h
  · cases h
  · rename_i hcomment
    split at h
    · cases h
    · rename_i before after hcut
      obtain ⟨hsplit, hequals⟩ := Text.eq_append_of_cutAt? hcut
      split at h
      · cases h
      · rename_i hne
        cases h
        refine ⟨⟨?_, Text.stripBy_stripBy, ?_, ?_, ?_⟩, after, ?_, rfl⟩
        · rintro hnil
          rw [hnil] at hne
          exact hne rfl
        · -- The line is trimmed, so the name begins where the line begins.
          intro hhead
          apply hcomment
          have hstart : Text.trimStart before = before := by
            rw [Text.trimStart, Text.dropWhile_eq_self_iff]
            intro c hc
            have hends : EndsOutside CodePoint.isBlank (Text.trim line) :=
              Text.stripBy_eq_self_iff.mp Text.stripBy_stripBy
            apply hends.1 c
            rw [hsplit, List.head?_append, Option.mem_def.mp hc]
            rfl
          have hbefore : Text.trim before = Text.trimEnd before := by
            rw [Text.trim, hstart]
          obtain ⟨more, hmore⟩ := List.rdropWhile_prefix CodePoint.isBlank before
          have hstop : (List.rdropWhile CodePoint.isBlank before).head? =
              some (CodePoint.ofChar '#') := by
            rw [← hhead, hbefore]
            rfl
          rw [hsplit, List.head?_append, ← hmore, List.head?_append, hstop]
          rfl
        · exact fun hmem => hequals (Text.mem_of_mem_stripBy hmem)
        · intro c hc
          apply htrimmed c
          rw [hsplit]
          exact List.mem_append_left _ (Text.mem_of_mem_stripBy hc)
        · intro c hc
          apply htrimmed c
          rw [hsplit]
          exact List.mem_append_right _ (List.mem_cons_of_mem _ hc)

/-- **A line that was written** assigns the name what is read of the value. -/
theorem parseLine?_renderLine
    {name : Text}
    (hname : IsName name)
    (value : Text) :
    parseLine? (renderLine (name, value)) = some (name, readValue value) := by
  have hends : EndsOutside CodePoint.isBlank name := Text.stripBy_eq_self_iff.mp hname.trimmed
  have htrim : Text.trim (renderLine (name, value)) =
      name ++ CodePoint.ofChar '=' :: Text.trimEnd value := by
    have hline : renderLine (name, value) = name ++ CodePoint.ofChar '=' :: value := by
      simp [renderLine, Text.ofString]
    rw [hline]
    exact Text.trim_append_cons hends.1 (by decide) value
  have hcomment :
      (name ++ CodePoint.ofChar '=' :: Text.trimEnd value).head? ≠
        some (CodePoint.ofChar '#') := by
    rw [List.head?_append]
    cases hhead : name.head? with
    | none =>
        exact absurd (List.head?_eq_none_iff.mp hhead) hname.ne_nil
    | some c =>
        rw [← hhead, Option.or_of_isSome (by rw [hhead]; rfl)]
        exact hname.noComment
  have hne : name.isEmpty = false := List.isEmpty_eq_false_iff.mpr hname.ne_nil
  unfold parseLine?
  dsimp only
  rw [htrim, if_neg hcomment, Text.cutAt?_append_cons hname.noEquals]
  dsimp only
  rw [hname.trimmed, hne, ← readValue_trimEnd]
  rfl

/-- The line of a name and a value in one line. -/
theorem isLine_renderLine
    {name value : Text}
    (hname : IsName name)
    (hvalue : IsLine value) :
    IsLine (renderLine (name, value)) := by
  intro c hc
  rcases List.mem_append.mp hc with hc | hc
  · rcases List.mem_append.mp hc with hc | hc
    · exact hname.isLine c hc
    · rw [List.mem_singleton.mp hc]
      decide
  · exact hvalue c hc

/-- A text in one line has no carriage return. -/
theorem IsLine.not_mem
    {t : Text}
    (h : IsLine t) :
    carriageReturn ∉ t := by
  intro hmem
  have hbreak := h _ hmem
  revert hbreak
  decide

/-- A line that was written is one line, if name and value are. -/
theorem entriesIn_renderLine
    {name value : Text}
    (hname : IsName name)
    (hvalue : IsLine value) :
    entriesIn (renderLine (name, value)) = [(name, readValue value)] := by
  have hline := isLine_renderLine hname hvalue
  rw [entriesIn_eq_filterMap_splitBy, Text.unifyNewlines_of_not_mem hline.not_mem,
    Text.splitBy_of_forall hline]
  simp [parseLine?_renderLine hname]

/-! ## Reading a file -/

/-- What is read of a text: names, with values that were read of texts in one line. -/
theorem isName_of_get?_parse
    {t name value : Text}
    (h : Dictionary.get? name (parse t) = some value) :
    IsName name ∧ IsLine value ∧ EndsOutside (· = CodePoint.ofChar '\x27') value := by
  have hmem : (name, value) ∈ entriesIn t := by
    rw [parse, Dictionary.get?_ofEntries] at h
    exact Dictionary.mem_of_get?_eq_some h
  rw [entriesIn_eq_filterMap_splitBy] at hmem
  obtain ⟨line, hline, hparse⟩ := List.mem_filterMap.mp hmem
  obtain ⟨hname, rest, hrest, rfl⟩ :=
    isName_of_parseLine? (Text.eq_false_of_mem_splitBy hline) hparse
  exact ⟨hname, fun c hc => hrest c (mem_of_mem_readValue hc), endsOutside_readValue rest⟩

/-- Making line ends alike leaves no carriage return. -/
theorem not_mem_unifyNewlines
    (t : Text) :
    carriageReturn ∉ Text.unifyNewlines t := by
  have hfeed : carriageReturn ≠ CodePoint.ofChar '\n' := by decide
  fun_induction Text.unifyNewlines t with
  | case1 =>
      exact List.not_mem_nil
  | case2 more ih =>
      simp [hfeed, ih]
  | case3 d more hd ih =>
      simp [hfeed, ih]
  | case4 =>
      simp [hfeed]
  | case5 c rest hc ih =>
      rw [List.mem_cons, not_or]
      exact ⟨Ne.symm hc, ih⟩

/-- Line ends that were made alike are read as before. -/
theorem parse_unifyNewlines
    (t : Text) :
    parse (Text.unifyNewlines t) = parse t := by
  unfold parse Text.lines
  rw [Text.unifyNewlines_of_not_mem (not_mem_unifyNewlines t)]

/-- The text of a file: the heading and a line for each variable. -/
theorem render_eq
    (entries : Dictionary Text) :
    render entries =
      (heading :: entries.sorted.map renderLine).flatMap (· ++ [lineFeed]) :=
  Text.join_append "\n" heading (entries.sorted.map renderLine)

/-- A carriage return stands in a file that was written only if it stands in the line of a
variable. -/
theorem not_mem_render
    {entries : Dictionary Text}
    (h : ∀ entry ∈ entries, carriageReturn ∉ renderLine entry) :
    carriageReturn ∉ render entries := by
  rw [render_eq, List.mem_flatMap]
  rintro ⟨line, hline, hmem⟩
  have hfeed : carriageReturn ∉ [lineFeed] := by decide
  have hhere : carriageReturn ∈ line := (List.mem_append.mp hmem).resolve_right hfeed
  rcases List.mem_cons.mp hline with rfl | hline
  · revert hhere
    decide +kernel
  · obtain ⟨entry, hentry, rfl⟩ := List.mem_map.mp hline
    exact h entry ((Dictionary.sorted_perm entries).mem_iff.mp hentry) hhere

/-- The lines of a file assign what its variables' lines assign. -/
theorem entriesIn_render
    (entries : Dictionary Text) :
    entriesIn (render entries) = entries.sorted.flatMap fun entry => entriesIn (renderLine entry) := by
  have hheading : entriesIn heading = [] := by decide +kernel
  rw [render_eq, entriesIn_flatMap, List.flatMap_cons, hheading, List.nil_append,
    List.flatMap_map]

/-- Where one entry sets a name as it stands and no other sets it, what is found under that name is
what is read of that entry. -/
theorem get?_flatMap_entriesIn
    {name : Text}
    {entries : Dictionary Text}
    (hown : ∀ value, (name, value) ∈ entries →
      entriesIn (renderLine (name, value)) = [(name, readValue value)])
    (hother : ∀ entry ∈ entries, entry.1 ≠ name →
      name ∉ (entriesIn (renderLine entry)).map Prod.fst) :
    Dictionary.get? name (entries.flatMap fun entry => entriesIn (renderLine entry)) =
      (Dictionary.get? name entries).map readValue := by
  induction entries with
  | nil =>
      rfl
  | cons entry rest ih =>
      obtain ⟨k, v⟩ := entry
      have hrest := ih (fun value hvalue => hown value (List.mem_cons_of_mem _ hvalue))
        (fun entry hentry => hother entry (List.mem_cons_of_mem _ hentry))
      rw [List.flatMap_cons, Dictionary.get?_append, hrest]
      by_cases hk : k = name
      · subst hk
        rw [hown v List.mem_cons_self]
        cases hlater : Dictionary.get? k rest <;> simp [Dictionary.get?, hlater]
      · have hnone := Dictionary.get?_eq_none_iff.mpr (hother (k, v) List.mem_cons_self hk)
        rw [hnone]
        cases hlater : Dictionary.get? name rest <;> simp [Dictionary.get?, hlater, hk]

/-- **What is read of a file that was written**, under a name that only its own line sets. -/
theorem get?_parse_render
    {name : Text}
    {entries : Dictionary Text}
    (hkeys : (entries.map Prod.fst).Nodup)
    (hown : ∀ value, (name, value) ∈ entries →
      entriesIn (renderLine (name, value)) = [(name, readValue value)])
    (hother : ∀ entry ∈ entries, entry.1 ≠ name →
      name ∉ (entriesIn (renderLine entry)).map Prod.fst) :
    Dictionary.get? name (parse (render entries)) =
      (Dictionary.get? name entries).map readValue := by
  have hmem (entry : Text × Text) : entry ∈ entries.sorted ↔ entry ∈ entries :=
    (Dictionary.sorted_perm entries).mem_iff
  have hparse : parse (render entries) = Dictionary.ofEntries (entriesIn (render entries)) := rfl
  rw [hparse, Dictionary.get?_ofEntries, entriesIn_render,
    get?_flatMap_entriesIn (fun value hvalue => hown value ((hmem _).mp hvalue))
      (fun entry hentry => hother entry ((hmem _).mp hentry)),
    Dictionary.get?_sorted hkeys]

end CurlRequest.UserFile
