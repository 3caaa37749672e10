import CurlRequest.Proofs.Json.Numbers
import CurlRequest.Proofs.Json.Strings
import CurlRequest.Text.Blank

/-!
# The strict reader reads the grammar

The strict reader reads every text of the grammar, unless more arrays and objects are open at once
than the limit allows; this is the only reason for which it refuses such a text.  Conversely what it
reads is a text of the grammar, with the value that the grammar gives it.

Both directions are inductions on the number of steps.  The first follows the productions, and shows
on the way that two steps for each code point are enough.  The second follows the cases of a call.

**Results.**
* `readsGrammar`: values, items and members of the grammar are read.
* `readIsGrammar`: what is read is a value, items or members of the grammar.
* `read_strict_of_jsonText`, `jsonText_of_read`: both for a whole text.
-/

namespace CurlRequest.Json

open Grammar (Whitespace Number Denotes Value Items Member Members JsonText)

/-! ## The depth of a value -/

mutual

/-- The largest number of arrays and objects that lie within each other. -/
def depth : Json → Nat
  | arr items => 1 + depthItems items
  | obj members => 1 + depthMembers members
  | _ => 0

/-- The largest depth of the items. -/
def depthItems : List Json → Nat
  | [] => 0
  | item :: rest => max (depth item) (depthItems rest)

/-- The largest depth of the values of the members. -/
def depthMembers : List (Text × Json) → Nat
  | [] => 0
  | (_, value) :: rest => max (depth value) (depthMembers rest)

end

/-- The outcome of reading something of the grammar: only its depth can be too much. -/
def withinLimit {α : Type} (limit depth : Nat) (x : α) : Except ReadFault α :=
  if depth ≤ limit then .ok x else .error .tooDeep

/-! ## Where values begin and end -/

/-- The code points other than digits that a value can begin with. -/
def valueMarks : Text :=
  ['-', '"', '[', '{', 'n', 't', 'f']

/-- A code point that a value can begin with. -/
def StartsValue (c : CodePoint) : Prop :=
  c.isDigit = true ∨ c ∈ valueMarks

theorem StartsValue.ne
    {c d : CodePoint}
    (h : StartsValue c)
    (hdigit : d.isDigit = false)
    (hmark : d ∉ valueMarks) :
    c ≠ d := by
  rcases h with hc | hc
  · exact ne_of_isDigit hc hdigit
  · rintro rfl
    exact hmark hc

theorem StartsValue.isJsonBlank
    {c : CodePoint}
    (h : StartsValue c) :
    isJsonBlank c = false := by
  have hspace : c ≠ ' ' := h.ne rfl (by decide)
  have htab : c ≠ '\t' := h.ne rfl (by decide)
  have hline : c ≠ '\n' := h.ne rfl (by decide)
  have hreturn : c ≠ '\r' := h.ne rfl (by decide)
  simp [Json.isJsonBlank, hspace, htab, hline, hreturn]

theorem StartsValue.isBlank
    {c : CodePoint}
    (h : StartsValue c) :
    c.isBlank = false := by
  rcases h with hc | hc
  · simp only [CodePoint.isDigit, decide_eq_true_eq] at hc
    simp only [CodePoint.isBlank, Bool.or_eq_false_iff, decide_eq_false_iff_not, beq_eq_false_iff_ne]
    omega
  · have hmarks : ∀ d ∈ valueMarks, d.isBlank = false := by decide
    exact hmarks c hc

/-- A number begins with a digit, or with a minus and a digit. -/
theorem exists_cons_of_number
    {t : Text}
    {l : NumberLiteral}
    (h : Number t l) :
    (∃ c u, t = c :: u ∧ c.isDigit = true) ∨
      ∃ c u, t = ('-' : CodePoint) :: c :: u ∧ c.isDigit = true := by
  cases h with
  | @mk negative whole fraction fractionDigits exponent exponentDigits hwhole =>
      obtain ⟨c, u, rfl, hc⟩ : ∃ c u, whole = c :: u ∧ c.isDigit = true := by
        cases hwhole with
        | zero =>
            exact ⟨_, _, rfl, rfl⟩
        | digits hc =>
            exact ⟨_, _, rfl, hc⟩
      cases negative with
      | true =>
          exact Or.inr ⟨c, _, rfl, hc⟩
      | false =>
          exact Or.inl ⟨c, _, rfl, hc⟩

/-- What a value begins with. -/
theorem exists_cons_of_value
    {t : Text}
    {v : Json}
    (h : Value t v) :
    ∃ c u, t = c :: u ∧ StartsValue c := by
  have hmark : ∀ c ∈ valueMarks, StartsValue c := fun _ => Or.inr
  cases h with
  | number ht =>
      rcases exists_cons_of_number ht with ⟨c, u, rfl, hc⟩ | ⟨c, u, rfl, hc⟩
      · exact ⟨c, u, rfl, Or.inl hc⟩
      · exact ⟨_, _, rfl, hmark _ (by decide)⟩
  | _ =>
      exact ⟨_, _, rfl, hmark _ (by decide)⟩

/-- White space in front of a value is skipped, and nothing else. -/
theorem skipBlanks_value
    {w t : Text}
    {v : Json}
    (hw : Whitespace w)
    (h : Value t v)
    (u : Text) :
    skipBlanks (w ++ (t ++ u)) = t ++ u := by
  obtain ⟨c, rest, rfl, hc⟩ := exists_cons_of_value h
  rw [skipBlanks_append hw, List.cons_append, skipBlanks_cons hc.isJsonBlank]

/-- White space ends a number. -/
theorem endsNumber_whitespace
    {w t : Text}
    (hw : Whitespace w)
    (ht : EndsNumber t) :
    EndsNumber (w ++ t) := by
  cases w with
  | nil =>
      exact ht
  | cons c w =>
      apply stops_cons
      rcases hw c List.mem_cons_self with rfl | rfl | rfl | rfl <;> rfl

/-! ## One step for each production -/

section Steps

variable {steps limit : ℕ}

/-- The words of the grammar are read. -/
theorem readValue_word
    {word : Text}
    {v : Json}
    (h : (word, v) ∈ words)
    (rest : Text) :
    readValue .strict (steps + 1) limit (word ++ rest) = .ok (v, rest) := by
  simp only [words, List.mem_cons, Prod.mk.injEq, List.not_mem_nil, or_false] at h
  rcases h with ⟨rfl, rfl⟩ | ⟨rfl, rfl⟩ | ⟨rfl, rfl⟩ <;> rfl

/-- A number is no word. -/
theorem readWord?_of_number
    {t : Text}
    {l : NumberLiteral}
    (h : Number t l)
    (rest : Text) :
    readWord? .strict (t ++ rest) = none := by
  have hother : ∀ {c d : CodePoint}, c.isDigit = true → d.isDigit = false → d ≠ c :=
    fun hc hd => (ne_of_isDigit hc hd).symm
  rcases exists_cons_of_number h with ⟨c, u, rfl, hc⟩ | ⟨c, u, rfl, hc⟩
  · have hn : CodePoint.ofChar 'n' ≠ c := hother hc rfl
    have ht : CodePoint.ofChar 't' ≠ c := hother hc rfl
    have hf : CodePoint.ofChar 'f' ≠ c := hother hc rfl
    have hN : CodePoint.ofChar 'N' ≠ c := hother hc rfl
    have hI : CodePoint.ofChar 'I' ≠ c := hother hc rfl
    have hminus : CodePoint.ofChar '-' ≠ c := hother hc rfl
    simp [readWord?, words, numberWords, Text.ofString, Text.after?, hn, ht, hf, hN, hI, hminus]
  · have hn : CodePoint.ofChar 'n' ≠ CodePoint.ofChar '-' := by decide
    have ht : CodePoint.ofChar 't' ≠ CodePoint.ofChar '-' := by decide
    have hf : CodePoint.ofChar 'f' ≠ CodePoint.ofChar '-' := by decide
    have hN : CodePoint.ofChar 'N' ≠ CodePoint.ofChar '-' := by decide
    have hI : CodePoint.ofChar 'I' ≠ CodePoint.ofChar '-' := by decide
    have hI' : CodePoint.ofChar 'I' ≠ c := hother hc rfl
    simp [readWord?, words, numberWords, Text.ofString, Text.after?, hn, ht, hf, hN, hI, hI']

/-- A number that ends is read. -/
theorem readValue_number
    {t rest : Text}
    {l : NumberLiteral}
    {v : Json}
    (h : Number t l)
    (hv : Denotes l v)
    (hrest : EndsNumber rest) :
    readValue .strict (steps + 1) limit (t ++ rest) = .ok (v, rest) := by
  have hstart : ∃ c u, t = c :: u ∧ (c.isDigit = true ∨ c = '-') := by
    rcases exists_cons_of_number h with ⟨c, u, rfl, hc⟩ | ⟨c, u, rfl, -⟩
    · exact ⟨c, u, rfl, Or.inl hc⟩
    · exact ⟨_, _, rfl, Or.inr rfl⟩
  have hword := readWord?_of_number h rest
  have hread := readNumber_of_number h hv hrest
  obtain ⟨c, u, rfl, hc⟩ := hstart
  have hother : ∀ d : CodePoint, d.isDigit = false → d ≠ '-' → c ≠ d := by
    intro d hd hminus
    rcases hc with hc | rfl
    · exact ne_of_isDigit hc hd
    · exact hminus.symm
  have hquote : c ≠ CodePoint.ofChar '"' := hother _ rfl (by decide)
  have hbracket : c ≠ CodePoint.ofChar '[' := hother _ rfl (by decide)
  have hbrace : c ≠ CodePoint.ofChar '{' := hother _ rfl (by decide)
  rw [List.cons_append] at hword hread ⊢
  simp only [readValue, hquote, hbracket, hbrace, if_false, hword, hread]

/-- The content of a string is read as one. -/
theorem readValue_string
    {t s : Text}
    (h : Grammar.Chars t s)
    (rest : Text) :
    readValue .strict (steps + 1) limit (('"' : CodePoint) :: (t ++ ('"' : CodePoint) :: rest)) =
      .ok (str s, rest) := by
  have hread := readString_of_chars h (('"' : CodePoint) :: (t ++ ('"' : CodePoint) :: rest)) rest
    none fun _ h => by cases h
  simp only [readValue, if_true, hread]
  rfl

/-- No array and no object opens beyond the limit. -/
theorem readValue_tooDeep
    {c : CodePoint}
    (hc : c = '[' ∨ c = '{')
    (s : Text) :
    readValue .strict (steps + 1) 0 (c :: s) = .error .tooDeep := by
  rcases hc with rfl | rfl <;> rfl

/-- An array that ends at once is read. -/
theorem readValue_emptyArray
    {s more : Text}
    (h : skipBlanks s = (']' : CodePoint) :: more) :
    readValue .strict (steps + 1) limit (('[' : CodePoint) :: s) =
      withinLimit limit (depth (arr [])) (arr [], more) := by
  have hquote : CodePoint.ofChar '[' ≠ CodePoint.ofChar '"' := by decide
  cases limit with
  | zero =>
      exact readValue_tooDeep (Or.inl rfl) s
  | succ limit =>
      have hlimit : depth (arr []) ≤ limit + 1 := by simp [depth, depthItems]
      simp only [readValue, hquote, if_true, if_false, h, withinLimit, hlimit]

/-- An array is read if its items are. -/
theorem readValue_array
    {s more rest : Text}
    {d : CodePoint}
    {items : List Json}
    (h : skipBlanks s = d :: more)
    (hd : d ≠ ']')
    (hread : ∀ limit, readItems .strict steps limit (skipBlanks s) =
      withinLimit limit (depthItems items) (items, rest)) :
    readValue .strict (steps + 1) limit (('[' : CodePoint) :: s) =
      withinLimit limit (depth (arr items)) (arr items, rest) := by
  have hquote : CodePoint.ofChar '[' ≠ CodePoint.ofChar '"' := by decide
  cases limit with
  | zero =>
      have hdepth : ¬ depth (arr items) ≤ 0 := by simp [depth]
      rw [readValue_tooDeep (Or.inl rfl), withinLimit, if_neg hdepth]
  | succ limit =>
      have hdepth : depth (arr items) ≤ limit + 1 ↔ depthItems items ≤ limit := by
        rw [depth]
        omega
      have hitems := hread limit
      rw [h] at hitems
      simp only [readValue, hquote, hd, if_true, if_false, h, hitems, withinLimit, hdepth]
      split <;> rfl

/-- An object that ends at once is read. -/
theorem readValue_emptyObject
    {s more : Text}
    (h : skipBlanks s = ('}' : CodePoint) :: more) :
    readValue .strict (steps + 1) limit (('{' : CodePoint) :: s) =
      withinLimit limit (depth (obj [])) (obj [], more) := by
  have hquote : CodePoint.ofChar '{' ≠ CodePoint.ofChar '"' := by decide
  have hbracket : CodePoint.ofChar '{' ≠ CodePoint.ofChar '[' := by decide
  cases limit with
  | zero =>
      exact readValue_tooDeep (Or.inr rfl) s
  | succ limit =>
      have hlimit : depth (obj []) ≤ limit + 1 := by simp [depth, depthMembers]
      simp only [readValue, hquote, hbracket, if_true, if_false, h, withinLimit, hlimit]

/-- An object is read if its members are. -/
theorem readValue_object
    {s more rest : Text}
    {d : CodePoint}
    {members : List (Text × Json)}
    (h : skipBlanks s = d :: more)
    (hd : d ≠ '}')
    (hread : ∀ limit, readMembers .strict steps limit (skipBlanks s) =
      withinLimit limit (depthMembers members) (members, rest)) :
    readValue .strict (steps + 1) limit (('{' : CodePoint) :: s) =
      withinLimit limit (depth (obj members)) (obj members, rest) := by
  have hquote : CodePoint.ofChar '{' ≠ CodePoint.ofChar '"' := by decide
  have hbracket : CodePoint.ofChar '{' ≠ CodePoint.ofChar '[' := by decide
  cases limit with
  | zero =>
      have hdepth : ¬ depth (obj members) ≤ 0 := by simp [depth]
      rw [readValue_tooDeep (Or.inr rfl), withinLimit, if_neg hdepth]
  | succ limit =>
      have hdepth : depth (obj members) ≤ limit + 1 ↔ depthMembers members ≤ limit := by
        rw [depth]
        omega
      have hmembers := hread limit
      rw [h] at hmembers
      simp only [readValue, hquote, hbracket, hd, if_true, if_false, h, hmembers, withinLimit,
        hdepth]
      split <;> rfl

/-- A last item is read with the bracket behind it. -/
theorem readItems_last
    {s rest more : Text}
    {item : Json}
    (h : readValue .strict steps limit s = withinLimit limit (depth item) (item, rest))
    (hnext : skipBlanks rest = (']' : CodePoint) :: more) :
    readItems .strict (steps + 1) limit s =
      withinLimit limit (depthItems [item]) ([item], more) := by
  simp only [depthItems, Nat.max_zero]
  unfold withinLimit at h ⊢
  split
  · rename_i hdepth
    rw [if_pos hdepth] at h
    simp only [readItems, h, bind, Except.bind, hnext, if_true]
    rfl
  · rename_i hdepth
    rw [if_neg hdepth] at h
    simp only [readItems, h]
    rfl

/-- An item is read with the items behind a comma. -/
theorem readItems_cons
    {s rest more after : Text}
    {item : Json}
    {items : List Json}
    (h : readValue .strict steps limit s = withinLimit limit (depth item) (item, rest))
    (hnext : skipBlanks rest = (',' : CodePoint) :: more)
    (hmore : readItems .strict steps limit (skipBlanks more) =
      withinLimit limit (depthItems items) (items, after)) :
    readItems .strict (steps + 1) limit s =
      withinLimit limit (depthItems (item :: items)) (item :: items, after) := by
  have hcomma : CodePoint.ofChar ',' ≠ CodePoint.ofChar ']' := by decide
  unfold withinLimit at h hmore ⊢
  rw [depthItems]
  by_cases hdepth : depth item ≤ limit
  · rw [if_pos hdepth] at h
    simp only [readItems, h, bind, Except.bind, hnext, hcomma, if_true, if_false, hmore,
      max_le_iff, hdepth, true_and]
    by_cases hitems : depthItems items ≤ limit
    · simp only [hitems, if_true]
      rfl
    · simp only [hitems, if_false]
  · rw [if_neg hdepth] at h
    simp only [readItems, h, max_le_iff, hdepth, false_and, if_false]
    rfl

/-- A name and its colon are read, and `next` follows. -/
def NameRead (s name next : Text) : Prop :=
  ∃ more rest, s = ('"' : CodePoint) :: more ∧ readString s none more = .ok (name, rest) ∧
    skipBlanks rest = (':' : CodePoint) :: next

/-- A last member is read with the brace behind it. -/
theorem readMembers_last
    {s name next rest more : Text}
    {v : Json}
    (hname : NameRead s name next)
    (h : readValue .strict steps limit (skipBlanks next) = withinLimit limit (depth v) (v, rest))
    (hnext : skipBlanks rest = ('}' : CodePoint) :: more) :
    readMembers .strict (steps + 1) limit s =
      withinLimit limit (depthMembers [(name, v)]) ([(name, v)], more) := by
  obtain ⟨_, _, rfl, hread, hcolon⟩ := hname
  simp only [depthMembers, Nat.max_zero]
  unfold withinLimit at h ⊢
  split
  · rename_i hdepth
    rw [if_pos hdepth] at h
    simp only [readMembers, if_true, hread, bind, Except.bind, hcolon, h, hnext]
    rfl
  · rename_i hdepth
    rw [if_neg hdepth] at h
    simp only [readMembers, if_true, hread, bind, Except.bind, hcolon, h]

/-- A member is read with the members behind a comma. -/
theorem readMembers_cons
    {s name next rest more after : Text}
    {v : Json}
    {members : List (Text × Json)}
    (hname : NameRead s name next)
    (h : readValue .strict steps limit (skipBlanks next) = withinLimit limit (depth v) (v, rest))
    (hnext : skipBlanks rest = (',' : CodePoint) :: more)
    (hmore : readMembers .strict steps limit (skipBlanks more) =
      withinLimit limit (depthMembers members) (members, after)) :
    readMembers .strict (steps + 1) limit s =
      withinLimit limit (depthMembers ((name, v) :: members)) ((name, v) :: members, after) := by
  have hcomma : CodePoint.ofChar ',' ≠ CodePoint.ofChar '}' := by decide
  obtain ⟨_, _, rfl, hread, hcolon⟩ := hname
  unfold withinLimit at h hmore ⊢
  rw [depthMembers]
  by_cases hdepth : depth v ≤ limit
  · rw [if_pos hdepth] at h
    simp only [readMembers, if_true, hread, bind, Except.bind, hcolon, h, hnext, hcomma, if_false,
      hmore, max_le_iff, hdepth, true_and]
    by_cases hmembers : depthMembers members ≤ limit
    · simp only [hmembers, if_true]
      rfl
    · simp only [hmembers, if_false]
  · rw [if_neg hdepth] at h
    simp only [readMembers, if_true, hread, bind, Except.bind, hcolon, h, max_le_iff, hdepth,
      false_and, if_false]

end Steps

/-- The name of a member is read, and its value follows. -/
theorem nameRead_of_member
    {t name : Text}
    {v : Json}
    (h : Member t (name, v))
    (u : Text) :
    ∃ next tv, NameRead (t ++ u) name next ∧ Value tv v ∧ skipBlanks next = tv ++ u ∧
      tv.length ≤ t.length := by
  cases h with
  | @mk name' w tv w' _ _ hname hw hw' hv =>
      refine ⟨w' ++ (tv ++ u), tv, ⟨_, w ++ (':' : CodePoint) :: (w' ++ (tv ++ u)), rfl, ?_, ?_⟩,
        hv, skipBlanks_value hw' hv u, ?_⟩
      · have hread := readString_of_chars hname
          ((('"' : CodePoint) ::
            (name' ++ ('"' : CodePoint) :: (w ++ (':' : CodePoint) :: (w' ++ tv)))) ++ u)
          (w ++ (':' : CodePoint) :: (w' ++ (tv ++ u))) none fun _ h => by cases h
        simpa using hread
      · rw [skipBlanks_append hw, skipBlanks_cons rfl]
      · simp only [List.length_cons, List.length_append]
        omega

/-- White space in front of a member is skipped up to its quote. -/
theorem skipBlanks_member
    {w t : Text}
    {member : Text × Json}
    (hw : Whitespace w)
    (h : Member t member)
    (u : Text) :
    skipBlanks (w ++ (t ++ u)) = t ++ u := by
  cases h with
  | mk =>
      rw [skipBlanks_append hw, List.cons_append, skipBlanks_cons rfl]

/-- White space in front of a code point that is none is skipped. -/
theorem skipBlanks_append_cons
    {w : Text}
    {c : CodePoint}
    (hw : Whitespace w)
    (hc : isJsonBlank c = false)
    (rest : Text) :
    skipBlanks (w ++ c :: rest) = c :: rest := by
  rw [skipBlanks_append hw, skipBlanks_cons hc]

/-! ## The grammar is read -/

/-- Items begin with a value behind white space. -/
theorem exists_skipBlanks_items
    {t : Text}
    {items : List Json}
    (h : Items t items)
    (u : Text) :
    ∃ d more, skipBlanks (t ++ u) = d :: more ∧ StartsValue d := by
  cases h with
  | single hw hv =>
      obtain ⟨c, rest, hcons, hc⟩ := exists_cons_of_value hv
      rw [List.append_assoc, List.append_assoc, skipBlanks_value hw hv, hcons]
      exact ⟨c, _, rfl, hc⟩
  | cons hw hv =>
      obtain ⟨c, rest, hcons, hc⟩ := exists_cons_of_value hv
      rw [List.append_assoc, List.append_assoc, skipBlanks_value hw hv, hcons]
      exact ⟨c, _, rfl, hc⟩

/-- Members begin with a quote behind white space. -/
theorem exists_skipBlanks_members
    {t : Text}
    {members : List (Text × Json)}
    (h : Members t members)
    (u : Text) :
    ∃ more, skipBlanks (t ++ u) = ('"' : CodePoint) :: more := by
  cases h with
  | single hw hmember =>
      rw [List.append_assoc, List.append_assoc, skipBlanks_member hw hmember]
      cases hmember with
      | mk =>
          exact ⟨_, rfl⟩
  | cons hw hmember =>
      rw [List.append_assoc, List.append_assoc, skipBlanks_member hw hmember]
      cases hmember with
      | mk =>
          exact ⟨_, rfl⟩

/-- In so many steps what belongs to the grammar is read, unless it is too deep: two steps for each
code point of a value, and one more for items and members. -/
structure ReadsGrammar (steps : ℕ) : Prop where
  value : ∀ limit t v rest, Value t v → 2 * t.length ≤ steps → EndsNumber rest →
    readValue .strict steps limit (t ++ rest) = withinLimit limit v.depth (v, rest)
  items : ∀ limit t items rest, Items t items → 2 * t.length + 1 ≤ steps →
    readItems .strict steps limit (skipBlanks (t ++ (']' : CodePoint) :: rest)) =
      withinLimit limit (depthItems items) (items, rest)
  members : ∀ limit t members rest, Members t members → 2 * t.length + 1 ≤ steps →
    readMembers .strict steps limit (skipBlanks (t ++ ('}' : CodePoint) :: rest)) =
      withinLimit limit (depthMembers members) (members, rest)

namespace ReadsGrammar

theorem zero :
    ReadsGrammar 0 where
  value limit t v rest h hsteps := by
    obtain ⟨c, u, rfl, -⟩ := exists_cons_of_value h
    simp at hsteps
  items limit t items rest h hsteps := by
    omega
  members limit t members rest h hsteps := by
    omega

variable {steps : ℕ}

/-- A value takes one step, and those of its parts. -/
theorem value_succ
    (ih : ReadsGrammar steps)
    (limit : ℕ)
    (t : Text)
    (v : Json)
    (rest : Text)
    (h : Value t v)
    (hsteps : 2 * t.length ≤ steps + 1)
    (hrest : EndsNumber rest) :
    readValue .strict (steps + 1) limit (t ++ rest) = withinLimit limit v.depth (v, rest) := by
  cases h with
  | nullWord =>
      exact readValue_word (List.mem_cons_self) rest
  | trueWord =>
      exact readValue_word (List.mem_cons_of_mem _ List.mem_cons_self) rest
  | falseWord =>
      exact readValue_word
        (List.mem_cons_of_mem _ (List.mem_cons_of_mem _ List.mem_cons_self)) rest
  | number ht hv =>
      rw [readValue_number ht hv hrest]
      cases hv <;> rfl
  | string h =>
      rw [List.cons_append, List.append_assoc, List.singleton_append, readValue_string h]
      rfl
  | emptyArray hw =>
      rw [List.cons_append, List.append_assoc, List.singleton_append]
      exact readValue_emptyArray (skipBlanks_append_cons hw rfl rest)
  | @array t items h =>
      obtain ⟨d, more, hnext, hd⟩ := exists_skipBlanks_items h ((']' : CodePoint) :: rest)
      rw [List.cons_append, List.append_assoc, List.singleton_append]
      refine readValue_array hnext (hd.ne rfl (by decide)) ?_
      intro limit
      apply ih.items limit t items rest h
      simp at hsteps
      omega
  | emptyObject hw =>
      rw [List.cons_append, List.append_assoc, List.singleton_append]
      exact readValue_emptyObject (skipBlanks_append_cons hw rfl rest)
  | @object t members h =>
      obtain ⟨more, hnext⟩ := exists_skipBlanks_members h (('}' : CodePoint) :: rest)
      rw [List.cons_append, List.append_assoc, List.singleton_append]
      refine readValue_object hnext (by decide) ?_
      intro limit
      apply ih.members limit t members rest h
      simp at hsteps
      omega

/-- Items take one step, and those of the first value and of the others. -/
theorem items_succ
    (ih : ReadsGrammar steps)
    (limit : ℕ)
    (t : Text)
    (items : List Json)
    (rest : Text)
    (h : Items t items)
    (hsteps : 2 * t.length + 1 ≤ steps + 1) :
    readItems .strict (steps + 1) limit (skipBlanks (t ++ (']' : CodePoint) :: rest)) =
      withinLimit limit (depthItems items) (items, rest) := by
  cases h with
  | @single w t w' v hw hv hw' =>
      rw [List.append_assoc, List.append_assoc, skipBlanks_value hw hv]
      simp only [List.length_append] at hsteps
      have hend : EndsNumber (w' ++ (']' : CodePoint) :: rest) :=
        endsNumber_whitespace hw' (stops_cons rfl _)
      exact readItems_last (ih.value limit t v _ hv (by omega) hend)
        (skipBlanks_append_cons hw' rfl _)
  | @cons w t w' more v items hw hv hw' hmore =>
      rw [List.append_assoc, List.append_assoc, skipBlanks_value hw hv, List.append_assoc,
        List.cons_append]
      simp only [List.length_append, List.length_cons] at hsteps
      have hend : EndsNumber (w' ++ (',' : CodePoint) :: (more ++ (']' : CodePoint) :: rest)) :=
        endsNumber_whitespace hw' (stops_cons rfl _)
      exact readItems_cons (ih.value limit t v _ hv (by omega) hend)
        (skipBlanks_append_cons hw' rfl _) (ih.items limit more items rest hmore (by omega))

/-- Members take one step, and those of the first value and of the others. -/
theorem members_succ
    (ih : ReadsGrammar steps)
    (limit : ℕ)
    (t : Text)
    (members : List (Text × Json))
    (rest : Text)
    (h : Members t members)
    (hsteps : 2 * t.length + 1 ≤ steps + 1) :
    readMembers .strict (steps + 1) limit (skipBlanks (t ++ ('}' : CodePoint) :: rest)) =
      withinLimit limit (depthMembers members) (members, rest) := by
  cases h with
  | @single w t w' member hw hmember hw' =>
      obtain ⟨name, v⟩ := member
      rw [List.append_assoc, List.append_assoc, skipBlanks_member hw hmember]
      simp only [List.length_append] at hsteps
      have hend : EndsNumber (w' ++ ('}' : CodePoint) :: rest) :=
        endsNumber_whitespace hw' (stops_cons rfl _)
      obtain ⟨next, tv, hname, hv, hnext, hlength⟩ := nameRead_of_member hmember _
      have hread := ih.value limit tv v _ hv (by omega) hend
      rw [← hnext] at hread
      exact readMembers_last hname hread (skipBlanks_append_cons hw' rfl _)
  | @cons w t w' more member members hw hmember hw' hmore =>
      obtain ⟨name, v⟩ := member
      rw [List.append_assoc, List.append_assoc, skipBlanks_member hw hmember,
        List.append_assoc, List.cons_append]
      simp only [List.length_append, List.length_cons] at hsteps
      have hend : EndsNumber (w' ++ (',' : CodePoint) :: (more ++ ('}' : CodePoint) :: rest)) :=
        endsNumber_whitespace hw' (stops_cons rfl _)
      obtain ⟨next, tv, hname, hv, hnext, hlength⟩ := nameRead_of_member hmember _
      have hread := ih.value limit tv v _ hv (by omega) hend
      rw [← hnext] at hread
      exact readMembers_cons hname hread (skipBlanks_append_cons hw' rfl _)
        (ih.members limit more members rest hmore (by omega))

end ReadsGrammar

/-- By induction on the steps: **values, items and members of the grammar are read**. -/
theorem readsGrammar
    (steps : ℕ) :
    ReadsGrammar steps := by
  induction steps with
  | zero =>
      exact ReadsGrammar.zero
  | succ steps ih =>
      exact ⟨ih.value_succ, ih.items_succ, ih.members_succ⟩

/-- A text of the grammar does not begin with a byte order mark. -/
theorem head?_ne_byteOrderMark
    {t : Text}
    {v : Json}
    (h : JsonText t v) :
    t.head? ≠ some (CodePoint.ofNat 0xFEFF) := by
  cases h with
  | @mk w t w' v hw hv hw' =>
      intro hmark
      cases w with
      | nil =>
          obtain ⟨c, u, rfl, hc⟩ := exists_cons_of_value hv
          have hne : c ≠ CodePoint.ofNat 0xFEFF := hc.ne rfl (by decide)
          exact hne (Option.some.inj hmark)
      | cons c w =>
          have hc : c = CodePoint.ofNat 0xFEFF := Option.some.inj hmark
          rcases hw c List.mem_cons_self with rfl | rfl | rfl | rfl <;> cases hc

/-- A text of the grammar is not blank. -/
theorem isBlank_of_jsonText
    {t : Text}
    {v : Json}
    (h : JsonText t v) :
    t.isBlank = false := by
  cases h with
  | @mk w t w' v hw hv hw' =>
      obtain ⟨c, u, rfl, hc⟩ := exists_cons_of_value hv
      simp [Text.isBlank, hc.isBlank]

/-- **A text of the grammar** is read to its value, unless this is too deep. -/
theorem read_strict_of_jsonText
    {t : Text}
    {v : Json}
    (h : JsonText t v) :
    read .strict t = withinLimit nestingLimit v.depth v := by
  have hmark := head?_ne_byteOrderMark h
  cases h with
  | @mk w t w' v hw hv hw' =>
      have hlength : 2 * t.length ≤ 2 * (w ++ (t ++ w')).length + 2 := by
        simp only [List.length_append]
        omega
      have hend : EndsNumber w' := by
        have hend := endsNumber_whitespace hw' (stops_nil isNumberPart)
        rwa [List.append_nil] at hend
      have hread := (readsGrammar (2 * (w ++ (t ++ w')).length + 2)).value nestingLimit t v w' hv
        hlength hend
      rw [read, if_neg hmark, skipBlanks_value hw hv, hread]
      unfold withinLimit
      split
      · simp only [bind, Except.bind, skipBlanks_whitespace hw']
        rfl
      · rfl

/-! ## What is read is in the grammar -/

/-- A name and a value that are read are a member. -/
theorem exists_member
    {s more name rest next after : Text}
    {v : Json}
    (hs : s = ('"' : CodePoint) :: more)
    (hname : readString s none more = .ok (name, rest))
    (hcolon : skipBlanks rest = (':' : CodePoint) :: next)
    (hvalue : ∃ t, skipBlanks next = t ++ after ∧ Value t v) :
    ∃ t, s = t ++ after ∧ Member t (name, v) := by
  obtain ⟨tv, hnext, hv⟩ := hvalue
  obtain ⟨tn, hmore, hchars⟩ := chars_of_readString hname HeldEscape.none
  obtain ⟨w, hw, hrest⟩ := exists_whitespace_append rest
  obtain ⟨w', hw', hafter⟩ := exists_whitespace_append next
  refine ⟨_, ?_, Member.mk hchars hw hw' hv⟩
  rw [hs, hmore, hrest, hcolon, hafter, hnext]
  simp

/-- What is read behind white space is something behind white space. -/
theorem eq_whitespace_append
    {t rest : Text}
    {c : CodePoint}
    (h : skipBlanks t = c :: rest) :
    ∃ w, Whitespace w ∧ t = w ++ c :: rest := by
  obtain ⟨w, hw, ht⟩ := exists_whitespace_append t
  rw [h] at ht
  exact ⟨w, hw, ht⟩

theorem whitespace_append
    {w w' : Text}
    (hw : Whitespace w)
    (hw' : Whitespace w') :
    Whitespace (w ++ w') := by
  intro c hc
  rcases List.mem_append.mp hc with hc | hc
  · exact hw c hc
  · exact hw' c hc

/-- White space may stand in front of items. -/
theorem items_whitespace_append
    {w t : Text}
    {items : List Json}
    (hw : Whitespace w)
    (h : Items t items) :
    Items (w ++ t) items := by
  cases h with
  | single hw' hv hw'' =>
      rw [← List.append_assoc]
      exact Items.single (whitespace_append hw hw') hv hw''
  | cons hw' hv hw'' hmore =>
      rw [← List.append_assoc]
      exact Items.cons (whitespace_append hw hw') hv hw'' hmore

/-- White space may stand in front of members. -/
theorem members_whitespace_append
    {w t : Text}
    {members : List (Text × Json)}
    (hw : Whitespace w)
    (h : Members t members) :
    Members (w ++ t) members := by
  cases h with
  | single hw' hmember hw'' =>
      rw [← List.append_assoc]
      exact Members.single (whitespace_append hw hw') hmember hw''
  | cons hw' hmember hw'' hmore =>
      rw [← List.append_assoc]
      exact Members.cons (whitespace_append hw hw') hmember hw'' hmore

/-- What is read in so many steps belongs to the grammar. -/
structure ReadIsGrammar (steps : ℕ) : Prop where
  value : ∀ limit s v rest, readValue .strict steps limit s = .ok (v, rest) →
    ∃ t, s = t ++ rest ∧ Value t v
  items : ∀ limit s items rest, readItems .strict steps limit s = .ok (items, rest) →
    ∃ t, s = t ++ (']' : CodePoint) :: rest ∧ Items t items
  members : ∀ limit s members rest, readMembers .strict steps limit s = .ok (members, rest) →
    ∃ t, s = t ++ ('}' : CodePoint) :: rest ∧ Members t members

namespace ReadIsGrammar

theorem zero :
    ReadIsGrammar 0 where
  value limit s v rest h := by
    cases h
  items limit s items rest h := by
    cases h
  members limit s members rest h := by
    cases h

variable {steps : ℕ}

/-- A value that is read in one more step belongs to the grammar if its parts do. -/
theorem value_succ
    (ih : ReadIsGrammar steps)
    (limit : ℕ)
    (s : Text)
    (v : Json)
    (rest : Text)
    (h : readValue .strict (steps + 1) limit s = .ok (v, rest)) :
    ∃ t, s = t ++ rest ∧ Value t v := by
  have hcase := readValue_cases .strict steps limit s
  generalize readValue .strict (steps + 1) limit s = outcome at h hcase
  cases hcase with
  | string hs hread =>
      cases h
      obtain ⟨t, hmore, hchars⟩ := chars_of_readString hread HeldEscape.none
      refine ⟨_, ?_, Value.string hchars⟩
      rw [hs, hmore]
      simp
  | emptyArray hs hdepth hnext =>
      cases h
      obtain ⟨w, hw, hmore⟩ := eq_whitespace_append hnext
      refine ⟨_, ?_, Value.emptyArray hw⟩
      rw [hs, hmore]
      simp
  | @array more _ items hs hdepth hread =>
      cases h
      obtain ⟨t, ht, hitems⟩ := ih.items _ _ _ _ hread
      obtain ⟨w, hw, hmore⟩ := exists_whitespace_append more
      refine ⟨_, ?_, Value.array (items_whitespace_append hw hitems)⟩
      rw [hs, hmore, ht]
      simp
  | emptyObject hs hdepth hnext =>
      cases h
      obtain ⟨w, hw, hmore⟩ := eq_whitespace_append hnext
      refine ⟨_, ?_, Value.emptyObject hw⟩
      rw [hs, hmore]
      simp
  | @object more _ members hs hdepth hread =>
      cases h
      obtain ⟨t, ht, hmembers⟩ := ih.members _ _ _ _ hread
      obtain ⟨w, hw, hmore⟩ := exists_whitespace_append more
      refine ⟨_, ?_, Value.object (members_whitespace_append hw hmembers)⟩
      rw [hs, hmore, ht]
      simp
  | word hread =>
      subst h
      rcases readWord?_ok hread with ⟨word, hmem, hs⟩ | ⟨hdialect, -⟩
      · refine ⟨word, hs, ?_⟩
        simp only [words, List.mem_cons, Prod.mk.injEq, List.not_mem_nil, or_false] at hmem
        rcases hmem with ⟨rfl, rfl⟩ | ⟨rfl, rfl⟩ | ⟨rfl, rfl⟩
        · exact Value.nullWord
        · exact Value.trueWord
        · exact Value.falseWord
      · cases hdialect
  | number hword =>
      obtain ⟨t, l, hs, hnumber, hvalue⟩ := number_of_readNumber h
      exact ⟨t, hs, Value.number hnumber hvalue⟩
  | _ =>
      cases h

/-- Items that are read in one more step belong to the grammar if the first value and the others
do. -/
theorem items_succ
    (ih : ReadIsGrammar steps)
    (limit : ℕ)
    (s : Text)
    (items : List Json)
    (rest : Text)
    (h : readItems .strict (steps + 1) limit s = .ok (items, rest)) :
    ∃ t, s = t ++ (']' : CodePoint) :: rest ∧ Items t items := by
  have hcase := readItems_cases .strict steps limit s
  generalize readItems .strict (steps + 1) limit s = outcome at h hcase
  cases hcase with
  | last hread hnext =>
      cases h
      obtain ⟨t, hs, hv⟩ := ih.value _ _ _ _ hread
      obtain ⟨w, hw, hrest⟩ := eq_whitespace_append hnext
      refine ⟨_, ?_, Items.single whitespace_nil hv hw⟩
      rw [hs, hrest]
      simp
  | @cons _ _ _ more _ hread hnext hmore =>
      cases h
      obtain ⟨t, hs, hv⟩ := ih.value _ _ _ _ hread
      obtain ⟨w, hw, hrest⟩ := eq_whitespace_append hnext
      obtain ⟨t', ht', hitems⟩ := ih.items _ _ _ _ hmore
      obtain ⟨w', hw', hmore⟩ := exists_whitespace_append more
      refine ⟨_, ?_, Items.cons whitespace_nil hv hw (items_whitespace_append hw' hitems)⟩
      rw [hs, hrest, hmore, ht']
      simp
  | _ =>
      cases h

/-- Members that are read in one more step belong to the grammar if the first value and the others
do. -/
theorem members_succ
    (ih : ReadIsGrammar steps)
    (limit : ℕ)
    (s : Text)
    (members : List (Text × Json))
    (rest : Text)
    (h : readMembers .strict (steps + 1) limit s = .ok (members, rest)) :
    ∃ t, s = t ++ ('}' : CodePoint) :: rest ∧ Members t members := by
  have hcase := readMembers_cases .strict steps limit s
  generalize readMembers .strict (steps + 1) limit s = outcome at h hcase
  cases hcase with
  | last hs hname hcolon hread hnext =>
      cases h
      obtain ⟨t, ht, hmember⟩ := exists_member hs hname hcolon (ih.value _ _ _ _ hread)
      obtain ⟨w, hw, hrest⟩ := eq_whitespace_append hnext
      refine ⟨_, ?_, Members.single whitespace_nil hmember hw⟩
      rw [ht, hrest]
      simp
  | @cons _ _ _ _ _ further _ _ _ hs hname hcolon hread hnext hmore =>
      cases h
      obtain ⟨t, ht, hmember⟩ := exists_member hs hname hcolon (ih.value _ _ _ _ hread)
      obtain ⟨w, hw, hrest⟩ := eq_whitespace_append hnext
      obtain ⟨t', ht', hmembers⟩ := ih.members _ _ _ _ hmore
      obtain ⟨w', hw', hfurther⟩ := exists_whitespace_append further
      refine ⟨_, ?_, Members.cons whitespace_nil hmember hw (members_whitespace_append hw' hmembers)⟩
      rw [ht, hrest, hfurther, ht']
      simp
  | _ =>
      cases h

end ReadIsGrammar

/-- By induction on the steps: **what is read is in the grammar**, be it a value, items or
members. -/
theorem readIsGrammar
    (steps : ℕ) :
    ReadIsGrammar steps := by
  induction steps with
  | zero =>
      exact ReadIsGrammar.zero
  | succ steps ih =>
      exact ⟨ih.value_succ, ih.items_succ, ih.members_succ⟩

/-- **A text that is read** is one of the grammar, with the value that is read. -/
theorem jsonText_of_read
    {t : Text}
    {v : Json}
    (h : read .strict t = .ok v) :
    JsonText t v := by
  obtain ⟨rest, hread, hend⟩ := read_ok h
  obtain ⟨tv, hskip, hv⟩ := (readIsGrammar _).value _ _ _ _ hread
  obtain ⟨w, hw, ht⟩ := exists_whitespace_append t
  obtain ⟨w', hw', hrest⟩ := exists_whitespace_append rest
  rw [hend, List.append_nil] at hrest
  rw [ht, hskip, hrest]
  exact JsonText.mk hw hv hw'

/-- **The strict reader** gives a value to a text iff the grammar does, the text being nested within
the limit. -/
theorem read_strict_eq_ok_iff
    {t : Text}
    {v : Json}
    (h : nesting t ≤ nestingLimit) :
    read .strict t = .ok v
      ↔
    JsonText t v := by
  constructor
  · exact jsonText_of_read
  · intro htext
    have hread := read_strict_of_jsonText htext
    unfold withinLimit at hread
    split at hread
    · exact hread
    · exact absurd (nestingLimit_lt_of_read_eq_tooDeep hread) (not_lt.mpr h)

end CurlRequest.Json
