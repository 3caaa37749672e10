import CurlRequest.Proofs.Json.Reading
import CurlRequest.Proofs.Text.Newlines

/-!
# JSON does not depend on line ends

A carriage return and a line feed are blanks between tokens and controls inside strings, and nowhere
else does the reader know them.  So the strict reader does the same on a text and on the text with
its line ends made alike: it gives the same value, or it meets the same fault, which can lie in
another place because the text became shorter.

Both runs are compared token by token.  Each token leaves a rest, and what the other run leaves is
this rest with its line ends made alike.

**Results.**
* `follows_readString`, `follows_readNumber`, `follows_readWord?`: the tokens.
* `readsAlike`: values, items and members, each run with enough steps for its own text.
* `read_unifyNewlines`: whole texts.
-/

namespace CurlRequest.Json

open Grammar (HexDigit UnitEscape)
open Text (unifyNewlines carriageReturn lineFeed)

/-! ## Outcomes that correspond -/

/-- The same fault, perhaps in another place. -/
inductive ReadFault.Alike : ReadFault → ReadFault → Prop
  | same
      (fault : ReadFault) :
      Alike fault fault
  | moved
      (problem : Problem)
      (remaining remaining' : Nat) :
      Alike (.located problem remaining) (.located problem remaining')

/-- What a text leads to, and what the text with its line ends made alike leads to: the same is read
of it, up to corresponding places, or the same fault is met. -/
inductive Follows {α : Type} :
    Except ReadFault (α × Text) → Except ReadFault (α × Text) → Prop
  | read
      (x : α)
      (rest : Text) :
      Follows (.ok (x, rest)) (.ok (x, unifyNewlines rest))
  | refused
      {fault fault' : ReadFault}
      (h : fault.Alike fault') :
      Follows (.error fault) (.error fault')

/-- One problem in two places. -/
theorem follows_faultAt
    {α : Type}
    (problem : Problem)
    (s s' : Text) :
    Follows (faultAt problem s : Except ReadFault (α × Text)) (faultAt problem s') :=
  Follows.refused (.moved problem _ _)

section Follows

variable {α β : Type} {outcome outcome' : Except ReadFault (α × Text)}

/-- What is made of the part that was read does not matter. -/
theorem Follows.map
    (h : Follows outcome outcome')
    (f : α → β) :
    Follows (outcome.map fun (x, rest) => (f x, rest))
      (outcome'.map fun (x, rest) => (f x, rest)) := by
  cases h with
  | read x rest =>
      exact Follows.read (f x) rest
  | refused hfault =>
      exact Follows.refused hfault

/-- A text in front of what was read does not matter. -/
theorem Follows.prepend
    {outcome outcome' : Except ReadFault (Text × Text)}
    (h : Follows outcome outcome')
    (front : Text) :
    Follows (Json.prepend front outcome) (Json.prepend front outcome') :=
  h.map (front ++ ·)

/-- Reading goes on in corresponding places. -/
theorem Follows.bind
    {next next' : α × Text → Except ReadFault (β × Text)}
    (h : Follows outcome outcome')
    (hnext : ∀ x rest, outcome = .ok (x, rest) → outcome' = .ok (x, unifyNewlines rest) →
      Follows (next (x, rest)) (next' (x, unifyNewlines rest))) :
    Follows (outcome.bind next) (outcome'.bind next') := by
  cases h with
  | read x rest =>
      exact hnext x rest rfl rfl
  | refused hfault =>
      exact Follows.refused hfault

end Follows

/-! ## Blanks -/

/-- Blanks are skipped to corresponding places. -/
theorem skipBlanks_unifyNewlines
    (s : Text) :
    skipBlanks (unifyNewlines s) = unifyNewlines (skipBlanks s) :=
  Text.dropWhile_unifyNewlines rfl s

/-- A code point that is no blank is no carriage return. -/
theorem ne_carriageReturn_of_isJsonBlank
    {c : CodePoint}
    (hc : isJsonBlank c = false) :
    c ≠ carriageReturn := by
  rintro rfl
  cases hc

/-- Behind blanks both texts end, or both go on with one code point that is no blank. -/
theorem skipBlanks_cases
    (s : Text) :
    (skipBlanks s = [] ∧ skipBlanks (unifyNewlines s) = []) ∨
      ∃ c more, isJsonBlank c = false ∧ skipBlanks s = c :: more ∧
        skipBlanks (unifyNewlines s) = c :: unifyNewlines more := by
  rw [skipBlanks_unifyNewlines]
  cases hskip : skipBlanks s with
  | nil =>
      exact Or.inl ⟨rfl, rfl⟩
  | cons c more =>
      have hc : isJsonBlank c = false := by
        have hhead := List.head?_dropWhile_not isJsonBlank s
        rw [skipBlanks] at hskip
        simpa [hskip] using hhead
      refine Or.inr ⟨c, more, hc, rfl, ?_⟩
      exact Text.unifyNewlines_cons (ne_carriageReturn_of_isJsonBlank hc) more

/-! ## Strings -/

section Strings

variable {opened opened' : Text} {held : Option CodePoint}

/-- A hexadecimal digit is no line end. -/
theorem ne_of_hexDigit
    {c : CodePoint}
    {n : ℕ}
    (h : HexDigit c n) :
    c ≠ carriageReturn ∧ c ≠ lineFeed := by
  constructor
  all_goals
    rintro rfl
    simp [HexDigit, carriageReturn, lineFeed, CodePoint.ofChar] at h
    omega

/-- There are no line ends in the escape of a unit. -/
theorem not_mem_of_unitEscape
    {e : Text}
    {u : CodePoint}
    (h : UnitEscape e u) :
    carriageReturn ∉ e ∧ lineFeed ∉ e := by
  cases h with
  | digits ha hb hc hd hunit =>
      have hquote : carriageReturn ≠ CodePoint.ofChar '\\' ∧ lineFeed ≠ CodePoint.ofChar '\\' ∧
          carriageReturn ≠ CodePoint.ofChar 'u' ∧ lineFeed ≠ CodePoint.ofChar 'u' := by decide
      simp [hquote, (ne_of_hexDigit ha).1.symm, (ne_of_hexDigit ha).2.symm,
        (ne_of_hexDigit hb).1.symm, (ne_of_hexDigit hb).2.symm, (ne_of_hexDigit hc).1.symm,
        (ne_of_hexDigit hc).2.symm, (ne_of_hexDigit hd).1.symm, (ne_of_hexDigit hd).2.symm]

/-- An escape of a unit was there before the line ends were made alike. -/
theorem startsWithUnit_of_unifyNewlines
    {s : Text}
    (h : StartsWithUnit (unifyNewlines s)) :
    StartsWithUnit s := by
  obtain ⟨e, u, t, he, ht, heq⟩ := h
  obtain ⟨rest, rfl, rfl⟩ :=
    Text.exists_eq_append_of_unifyNewlines heq (not_mem_of_unitEscape he).2
  refine ⟨e, u, rest, he, ?_, rfl⟩
  rintro rfl
  exact ht rfl

/-- The escape of a unit is followed by what follows the rest, whatever is held back. -/
theorem follows_unitEscape
    {e t : Text}
    {u : CodePoint}
    (he : UnitEscape e u)
    (ht : t ≠ [])
    (h : ∀ held, Follows (readString opened held t) (readString opened' held (unifyNewlines t))) :
    Follows (readString opened held (e ++ t)) (readString opened' held (e ++ unifyNewlines t)) := by
  have ht' : unifyNewlines t ≠ [] := Text.unifyNewlines_eq_nil_iff.not.mpr ht
  rw [readString_unitEscape he opened held ht, readString_unitEscape he opened' held ht']
  cases held with
  | none =>
      simp only
      split
      · exact h (some u)
      · exact (h none).prepend [u]
  | some high =>
      simp only
      split
      · exact (h none).prepend [CodePoint.ofSurrogates high u]
      · split
        · exact (h (some u)).prepend [high]
        · exact (h none).prepend [high, u]

/-- What stands behind a backslash is the escape of a unit, or something that a line end cannot be
part of. -/
theorem follows_escape
    {e : CodePoint}
    {rest : Text}
    (h : ∀ held t, t.length ≤ rest.length →
      Follows (readString opened held t) (readString opened' held (unifyNewlines t))) :
    Follows (readString opened held (('\\' : CodePoint) :: e :: rest))
      (readString opened' held (unifyNewlines (('\\' : CodePoint) :: e :: rest))) := by
  rw [Text.unifyNewlines_cons (c := '\\') (by decide)]
  by_cases hu : e = 'u'
  · subst hu
    by_cases hunit : StartsWithUnit (('\\' : CodePoint) :: ('u' : CodePoint) :: rest)
    · obtain ⟨e, u, t, he, ht, heq⟩ := hunit
      have hlength : t.length ≤ rest.length := by
        have hlength := congrArg List.length heq
        cases he
        simp only [List.length_cons, List.length_append] at hlength
        omega
      rw [← Text.unifyNewlines_cons (c := '\\') (by decide), heq,
        Text.unifyNewlines_append_of_not_mem (not_mem_of_unitEscape he).1]
      exact follows_unitEscape he ht fun held => h held t hlength
    · have hunit' := mt startsWithUnit_of_unifyNewlines hunit
      rw [Text.unifyNewlines_cons (by decide), Text.unifyNewlines_cons (by decide)] at hunit'
      rw [Text.unifyNewlines_cons (by decide)]
      obtain ⟨remaining, houtcome⟩ := readString_badUnit hunit opened held
      obtain ⟨remaining', houtcome'⟩ := readString_badUnit hunit' opened' held
      rw [houtcome, houtcome']
      exact Follows.refused (.moved _ _ _)
  · rw [readString_shortEscape opened held hu]
    by_cases hreturn : e = carriageReturn
    · obtain ⟨more, hunify, -⟩ := Text.exists_unifyNewlines_carriageReturn rest
      rw [hreturn, hunify, readString_shortEscape opened' held (by decide)]
      exact follows_faultAt _ _ _
    · rw [Text.unifyNewlines_cons hreturn, readString_shortEscape opened' held hu]
      cases shortEscape? e with
      | none =>
          exact follows_faultAt _ _ _
      | some x =>
          exact (h none rest (Nat.le_refl _)).prepend _

/-- By induction on the length of the text: **strings**.  A line end in a string is a control, be it
one or the other, and behind a backslash it is no escape. -/
theorem follows_readString
    (opened opened' : Text)
    (held : Option CodePoint)
    (s : Text) :
    Follows (readString opened held s) (readString opened' held (unifyNewlines s)) := by
  induction hlength : s.length using Nat.strongRecOn generalizing held s with
  | ind length ih =>
      subst hlength
      cases s with
      | nil =>
          exact follows_faultAt _ _ _
      | cons c rest =>
          have hrest : ∀ held t, t.length ≤ rest.length →
              Follows (readString opened held t) (readString opened' held (unifyNewlines t)) :=
            fun held t ht => ih t.length (Nat.lt_succ_of_le ht) held t rfl
          by_cases hreturn : c = carriageReturn
          · obtain ⟨more, hunify, -⟩ := Text.exists_unifyNewlines_carriageReturn rest
            rw [hreturn, hunify, readString_control opened held (by decide) (by decide),
              readString_control opened' held (by decide) (by decide)]
            exact follows_faultAt _ _ _
          by_cases hquote : c = '"'
          · subst hquote
            rw [Text.unifyNewlines_cons hreturn, readString_quote, readString_quote]
            exact Follows.read _ rest
          by_cases hbackslash : c = '\\'
          · subst hbackslash
            cases rest with
            | nil =>
                exact follows_faultAt _ _ _
            | cons e rest =>
                exact follows_escape fun held t ht => hrest held t (Nat.le_succ_of_le ht)
          rw [Text.unifyNewlines_cons hreturn]
          cases hcontrol : c.isControl with
          | true =>
              rw [readString_control opened held hquote hcontrol,
                readString_control opened' held hquote hcontrol]
              exact follows_faultAt _ _ _
          | false =>
              rw [readString_unescaped opened held hquote hcontrol hbackslash,
                readString_unescaped opened' held hquote hcontrol hbackslash]
              exact (hrest none rest (Nat.le_refl _)).prepend _

end Strings

/-! ## Numbers -/

/-- A token and what is left, the line ends of which are made alike. -/
def unifyRest {α : Type} (found : α × Text) : α × Text :=
  (found.1, unifyNewlines found.2)

/-- Digits in front are the same. -/
theorem takeWhile_isDigit_unifyNewlines
    (s : Text) :
    (unifyNewlines s).takeWhile CodePoint.isDigit = s.takeWhile CodePoint.isDigit :=
  Text.takeWhile_unifyNewlines rfl rfl s

/-- What follows digits corresponds. -/
theorem dropWhile_isDigit_unifyNewlines
    (s : Text) :
    (unifyNewlines s).dropWhile CodePoint.isDigit = unifyNewlines (s.dropWhile CodePoint.isDigit) :=
  Text.dropWhile_unifyNewlines rfl s

/-- A scanner that takes nothing from a text in front of a line end takes the same from both texts,
if it does so from those that begin with something else. -/
theorem scan_unifyNewlines
    {α : Type}
    (scan : Text → α × Text)
    {nothing : α}
    (hnil : scan [] = (nothing, []))
    (hend : ∀ c rest, c = carriageReturn ∨ c = lineFeed → scan (c :: rest) = (nothing, c :: rest))
    (hother : ∀ c rest, c ≠ carriageReturn →
      scan (c :: unifyNewlines rest) = unifyRest (scan (c :: rest)))
    (s : Text) :
    scan (unifyNewlines s) = unifyRest (scan s) := by
  cases s with
  | nil =>
      have hunify : unifyNewlines [] = [] := Text.unifyNewlines_eq_nil_iff.mpr rfl
      rw [hunify, hnil, unifyRest, hunify]
  | cons c rest =>
      by_cases hreturn : c = carriageReturn
      · obtain ⟨more, hunify, -⟩ := Text.exists_unifyNewlines_carriageReturn rest
        rw [hreturn, hend _ rest (Or.inl rfl), unifyRest, hunify, hend _ _ (Or.inr rfl)]
      · rw [Text.unifyNewlines_cons hreturn]
        exact hother c rest hreturn

/-- A digit after a point is taken, and a line end is no point. -/
theorem scanFraction_unifyNewlines
    (s : Text) :
    scanFraction (unifyNewlines s) = unifyRest (scanFraction s) := by
  refine scan_unifyNewlines scanFraction rfl ?_ ?_ s
  · intro c rest hend
    have hpoint : c ≠ CodePoint.ofChar '.' := by
      rcases hend with rfl | rfl <;> decide
    simp [scanFraction, hpoint]
  · intro c rest hc
    simp only [scanFraction, takeWhile_isDigit_unifyNewlines, dropWhile_isDigit_unifyNewlines]
    split
    · rfl
    · rw [unifyRest, Text.unifyNewlines_cons hc]

/-- A sign is taken, and a line end is none. -/
theorem scanSign_unifyNewlines
    (s : Text) :
    scanSign (unifyNewlines s) = unifyRest (scanSign s) := by
  refine scan_unifyNewlines scanSign rfl ?_ ?_ s
  · rintro c rest (rfl | rfl) <;> rfl
  · intro c rest hc
    simp only [scanSign]
    split
    · rfl
    · split
      · rfl
      · rw [unifyRest, Text.unifyNewlines_cons hc]

/-- A digit after the mark of an exponent is taken, and a line end is no mark. -/
theorem scanExponent_unifyNewlines
    (s : Text) :
    scanExponent (unifyNewlines s) = unifyRest (scanExponent s) := by
  refine scan_unifyNewlines scanExponent rfl ?_ ?_ s
  · intro c rest hend
    have hmark : c ≠ CodePoint.ofChar 'e' ∧ c ≠ CodePoint.ofChar 'E' := by
      rcases hend with rfl | rfl <;> decide
    simp [scanExponent, hmark]
  · intro c rest hc
    simp only [scanExponent, scanSign_unifyNewlines, unifyRest, takeWhile_isDigit_unifyNewlines,
      dropWhile_isDigit_unifyNewlines]
    split
    · rfl
    · rw [Text.unifyNewlines_cons hc]

/-- The part of a number behind its sign is the same. -/
theorem scanMagnitude?_unifyNewlines
    (negative : Bool)
    (s : Text) :
    scanMagnitude? negative (unifyNewlines s) = (scanMagnitude? negative s).map unifyRest := by
  cases s with
  | nil =>
      rfl
  | cons c rest =>
      by_cases hreturn : c = carriageReturn
      · obtain ⟨more, hunify, -⟩ := Text.exists_unifyNewlines_carriageReturn rest
        have hdigit : carriageReturn.isDigit = false ∧ lineFeed.isDigit = false := by
          decide
        simp [hreturn, hunify, scanMagnitude?, hdigit]
      · rw [Text.unifyNewlines_cons hreturn]
        simp only [scanMagnitude?]
        split
        · by_cases hzero : c = '0'
          · simp only [hzero, if_true, List.length_nil, List.drop_zero, scanFraction_unifyNewlines,
              scanExponent_unifyNewlines, unifyRest, Option.map_some]
          · simp only [hzero, if_false, Text.drop_length_takeWhile, dropWhile_isDigit_unifyNewlines,
              scanFraction_unifyNewlines, scanExponent_unifyNewlines, unifyRest, Option.map_some]
            rw [takeWhile_isDigit_unifyNewlines]
        · rfl

/-- **Numbers** are the same, and what follows them corresponds. -/
theorem scanNumber?_unifyNewlines
    (s : Text) :
    scanNumber? (unifyNewlines s) = (scanNumber? s).map unifyRest := by
  cases s with
  | nil =>
      rfl
  | cons c rest =>
      have hmagnitude := scanMagnitude?_unifyNewlines false (c :: rest)
      by_cases hreturn : c = carriageReturn
      · obtain ⟨more, hunify, -⟩ := Text.exists_unifyNewlines_carriageReturn rest
        have hminus : carriageReturn ≠ CodePoint.ofChar '-' ∧ lineFeed ≠ CodePoint.ofChar '-' := by
          decide
        rw [hreturn, hunify] at hmagnitude
        rw [hreturn, hunify]
        simp only [scanNumber?, hminus, if_false]
        exact hmagnitude
      · rw [Text.unifyNewlines_cons hreturn] at hmagnitude ⊢
        simp only [scanNumber?, scanMagnitude?_unifyNewlines true, hmagnitude]
        split <;> rfl

/-- The value of a literal does not depend on what follows it. -/
theorem toJson_append
    (dialect : Dialect)
    (l : NumberLiteral)
    (t rest rest' : Text) :
    l.toJson dialect (t ++ rest) rest = l.toJson dialect (t ++ rest') rest' := by
  simp only [NumberLiteral.toJson, List.length_append, Nat.add_sub_cancel, List.take_left]

/-- **A number** leads to the same value, or to the same fault. -/
theorem follows_readNumber
    (dialect : Dialect)
    (s : Text) :
    Follows (readNumber dialect s) (readNumber dialect (unifyNewlines s)) := by
  unfold readNumber
  rw [scanNumber?_unifyNewlines]
  cases hscan : scanNumber? s with
  | none =>
      exact follows_faultAt _ _ _
  | some found =>
      obtain ⟨literal, rest⟩ := found
      obtain ⟨t, rfl, ht⟩ := numberBefore_of_scanNumber? hscan
      have hreturn : carriageReturn ∉ t := fun hmem => absurd (ht _ hmem) (by decide)
      simp only [Option.map_some, unifyRest]
      rw [Text.unifyNewlines_append_of_not_mem hreturn,
        toJson_append dialect literal t (unifyNewlines rest) rest]
      cases literal.toJson dialect (t ++ rest) rest with
      | error fault =>
          exact Follows.refused (.same fault)
      | ok v =>
          exact Follows.read v rest

/-! ## Words -/

/-- No word has a line end in it. -/
theorem not_mem_of_mem_words :
    ∀ word ∈ words.map Prod.fst ++ numberWords.map Prod.fst,
      carriageReturn ∉ word ∧ lineFeed ∉ word := by
  decide

/-- What a word leads to, if there is one. -/
inductive FollowsWord :
    Option (Except ReadFault (Json × Text)) → Option (Except ReadFault (Json × Text)) → Prop
  | none :
      FollowsWord none none
  | some
      {found found' : Except ReadFault (Json × Text)}
      (h : Follows found found') :
      FollowsWord (some found) (some found')

/-- A word of one list comes before those of another. -/
theorem FollowsWord.or
    {first first' second second' : Option (Except ReadFault (Json × Text))}
    (h : FollowsWord first first')
    (h' : FollowsWord second second') :
    FollowsWord (first.or second) (first'.or second') := by
  cases h with
  | none =>
      exact h'
  | some hfound =>
      exact FollowsWord.some hfound

/-- By induction on the list: the first word of a list that a text begins with. -/
theorem followsWord_findSome?
    {α : Type}
    {entries : List (Text × α)}
    (hentries : ∀ word ∈ entries.map Prod.fst, carriageReturn ∉ word ∧ lineFeed ∉ word)
    {found : Text → α → Text → Except ReadFault (Json × Text)}
    (hfound : ∀ word x rest, Follows (found word x rest) (found word x (unifyNewlines rest)))
    (s : Text) :
    FollowsWord
      (entries.findSome? fun (word, x) => (Text.after? word s).map (found word x))
      (entries.findSome? fun (word, x) => (Text.after? word (unifyNewlines s)).map
        (found word x)) := by
  induction entries with
  | nil =>
      exact FollowsWord.none
  | cons entry entries ih =>
      obtain ⟨word, x⟩ := entry
      rw [List.map_cons, List.forall_mem_cons] at hentries
      obtain ⟨⟨hreturn, hfeed⟩, hrest⟩ := hentries
      have hafter := Text.after?_unifyNewlines hreturn hfeed s
      cases hword : Text.after? word s with
      | none =>
          rw [hword] at hafter
          simpa [List.findSome?_cons, hword, hafter] using ih hrest
      | some rest =>
          rw [hword] at hafter
          simpa [List.findSome?_cons, hword, hafter] using FollowsWord.some (hfound word x rest)

/-- What the word for a number that is not finite leads to. -/
def numberWordOutcome : Dialect → Text → Binary64 → Text → Except ReadFault (Json × Text)
  | .strict, word, _, _ => .error (.notFinite word)
  | .lenient, _, x, rest => .ok (float x, rest)

/-- The words that are values come before those that the dialect decides on. -/
theorem readWord?_eq
    (dialect : Dialect)
    (s : Text) :
    readWord? dialect s =
      (words.findSome? fun (word, v) => (Text.after? word s).map fun rest => .ok (v, rest)).or
        (numberWords.findSome? fun (word, x) =>
          (Text.after? word s).map (numberWordOutcome dialect word x)) := by
  have hwords :
      (words.findSome? fun (word, v) => (Text.after? word s).map fun rest =>
        (.ok (v, rest) : Except ReadFault (Json × Text))) =
        (words.findSome? fun (word, v) => (Text.after? word s).map fun rest => (v, rest)).map
          .ok := by
    rw [List.map_findSome?]
    congr 1
    funext ⟨word, v⟩
    simp [Option.map_map, Function.comp_def]
  rw [hwords, readWord?]
  split
  · rename_i found hfound
    rw [hfound]
    rfl
  · rename_i hnone
    rw [hnone]
    cases dialect <;> rfl

/-- **Words** are the same, and what follows them corresponds. -/
theorem follows_readWord?
    (dialect : Dialect)
    (s : Text) :
    FollowsWord (readWord? dialect s) (readWord? dialect (unifyNewlines s)) := by
  have hwords := List.forall_mem_append.mp not_mem_of_mem_words
  rw [readWord?_eq, readWord?_eq]
  apply FollowsWord.or
  · exact followsWord_findSome? hwords.1 (fun word v rest => Follows.read v rest) s
  · apply followsWord_findSome? hwords.2
    intro word x rest
    cases dialect with
    | strict =>
        exact Follows.refused (.same _)
    | lenient =>
        exact Follows.read (float x) rest

/-! ## Values -/

/-- Skipping makes a text no longer. -/
theorem length_skipBlanks_le
    (s : Text) :
    (skipBlanks s).length ≤ s.length :=
  (List.dropWhile_suffix isJsonBlank).length_le

/-- What is left behind a value is no longer than the text. -/
theorem length_le_of_readValue
    {steps depth : ℕ}
    {s rest : Text}
    {v : Json}
    (h : readValue .strict steps depth s = .ok (v, rest)) :
    rest.length ≤ s.length := by
  obtain ⟨t, rfl, -⟩ := (readIsGrammar steps).value depth s v rest h
  rw [List.length_append]
  exact Nat.le_add_left _ _

/-- What is left behind a string is shorter than the text behind its opening quote. -/
theorem length_lt_of_readString
    {opened s content rest : Text}
    (h : readString opened none s = .ok (content, rest)) :
    rest.length < s.length := by
  obtain ⟨t, rfl, -⟩ := chars_of_readString h HeldEscape.none
  rw [List.length_append, List.length_cons]
  omega

/-- Reading with so many steps does the same on a text and on the text with its line ends made
alike, if there are enough steps for both. -/
structure ReadsAlike (steps : ℕ) : Prop where
  value : ∀ steps' depth s,
    2 * (skipBlanks s).length ≤ steps → 2 * (skipBlanks (unifyNewlines s)).length ≤ steps' →
      Follows (readValue .strict steps depth (skipBlanks s))
        (readValue .strict steps' depth (skipBlanks (unifyNewlines s)))
  items : ∀ steps' depth s,
    2 * (skipBlanks s).length < steps → 2 * (skipBlanks (unifyNewlines s)).length < steps' →
      Follows (readItems .strict steps depth (skipBlanks s))
        (readItems .strict steps' depth (skipBlanks (unifyNewlines s)))
  members : ∀ steps' depth s,
    2 * (skipBlanks s).length < steps → 2 * (skipBlanks (unifyNewlines s)).length < steps' →
      Follows (readMembers .strict steps depth (skipBlanks s))
        (readMembers .strict steps' depth (skipBlanks (unifyNewlines s)))

namespace ReadsAlike

/-- At the end of a text no value is read. -/
theorem readValue_nil
    (steps depth : ℕ) :
    readValue .strict steps depth [] = faultAt .valueExpected [] := by
  cases steps <;> rfl

theorem zero :
    ReadsAlike 0 where
  value steps' depth s h h' := by
    rcases skipBlanks_cases s with ⟨hs, hs'⟩ | ⟨c, rest, -, hs, -⟩
    · rw [hs, hs', readValue_nil, readValue_nil]
      exact follows_faultAt _ _ _
    · rw [hs, List.length_cons] at h
      omega
  items steps' depth s h h' := by
    omega
  members steps' depth s h h' := by
    omega

variable {steps : ℕ}

/-- A value that is read in one more step is the same if its parts are. -/
theorem value_succ
    (ih : ReadsAlike steps)
    (steps' depth : ℕ)
    (s : Text)
    (h : 2 * (skipBlanks s).length ≤ steps + 1)
    (h' : 2 * (skipBlanks (unifyNewlines s)).length ≤ steps') :
    Follows (readValue .strict (steps + 1) depth (skipBlanks s))
      (readValue .strict steps' depth (skipBlanks (unifyNewlines s))) := by
  rcases skipBlanks_cases s with ⟨hs, hs'⟩ | ⟨c, rest, hc, hs, hs'⟩
  · rw [hs, hs', readValue_nil, readValue_nil]
    exact follows_faultAt _ _ _
  · rw [hs, List.length_cons] at h
    rw [hs', List.length_cons] at h'
    obtain ⟨steps', rfl⟩ : ∃ k, steps' = k + 1 := ⟨steps' - 1, by omega⟩
    have hle := length_skipBlanks_le rest
    have hle' := length_skipBlanks_le (unifyNewlines rest)
    have hunify := Text.unifyNewlines_cons (ne_carriageReturn_of_isJsonBlank hc) rest
    rw [hs, hs']
    simp only [readValue]
    split
    · exact (follows_readString _ _ none rest).map str
    · split
      · cases depth with
        | zero =>
            exact Follows.refused (.same .tooDeep)
        | succ depth =>
            have hitems := ih.items steps' depth rest (by omega) (by omega)
            rcases skipBlanks_cases rest with ⟨hnext, hnext'⟩ | ⟨d, more, hd, hnext, hnext'⟩
            · simp only [hnext, hnext']
              exact follows_faultAt _ _ _
            · rw [hnext, hnext'] at hitems
              simp only [hnext, hnext']
              split
              · exact Follows.read (arr []) more
              · exact hitems.map arr
      · split
        · cases depth with
          | zero =>
              exact Follows.refused (.same .tooDeep)
          | succ depth =>
              have hmembers := ih.members steps' depth rest (by omega) (by omega)
              rcases skipBlanks_cases rest with ⟨hnext, hnext'⟩ | ⟨d, more, hd, hnext, hnext'⟩
              · simp only [hnext, hnext']
                exact follows_faultAt _ _ _
              · rw [hnext, hnext'] at hmembers
                simp only [hnext, hnext']
                split
                · exact Follows.read (obj []) more
                · exact hmembers.map obj
        · have hword := follows_readWord? .strict (c :: rest)
          have hnumber := follows_readNumber .strict (c :: rest)
          rw [hunify] at hword hnumber
          generalize readWord? .strict (c :: rest) = found at hword ⊢
          generalize readWord? .strict (c :: unifyNewlines rest) = found' at hword ⊢
          cases hword with
          | none =>
              exact hnumber
          | some hfound =>
              exact hfound

/-- Items that are read in one more step are the same if the first value and the others are. -/
theorem items_succ
    (ih : ReadsAlike steps)
    (steps' depth : ℕ)
    (s : Text)
    (h : 2 * (skipBlanks s).length < steps + 1)
    (h' : 2 * (skipBlanks (unifyNewlines s)).length < steps') :
    Follows (readItems .strict (steps + 1) depth (skipBlanks s))
      (readItems .strict steps' depth (skipBlanks (unifyNewlines s))) := by
  obtain ⟨steps', rfl⟩ : ∃ k, steps' = k + 1 := ⟨steps' - 1, by omega⟩
  simp only [readItems]
  refine (ih.value steps' depth s (by omega) (by omega)).bind ?_
  intro item rest hread hread'
  have hrest := length_le_of_readValue hread
  have hrest' := length_le_of_readValue hread'
  have hle := length_skipBlanks_le rest
  have hle' := length_skipBlanks_le (unifyNewlines rest)
  rcases skipBlanks_cases rest with ⟨hnext, hnext'⟩ | ⟨c, more, hc, hnext, hnext'⟩
  · simp only [hnext, hnext']
    exact follows_faultAt _ _ _
  · rw [hnext, List.length_cons] at hle
    rw [hnext', List.length_cons] at hle'
    have hmore := length_skipBlanks_le more
    have hmore' := length_skipBlanks_le (unifyNewlines more)
    simp only [hnext, hnext']
    split
    · exact Follows.read [item] more
    · split
      · refine (ih.items steps' depth more (by omega) (by omega)).bind ?_
        intro items after _ _
        exact Follows.read (item :: items) after
      · exact follows_faultAt _ _ _

/-- Members that are read in one more step are the same if the first value and the others are. -/
theorem members_succ
    (ih : ReadsAlike steps)
    (steps' depth : ℕ)
    (s : Text)
    (h : 2 * (skipBlanks s).length < steps + 1)
    (h' : 2 * (skipBlanks (unifyNewlines s)).length < steps') :
    Follows (readMembers .strict (steps + 1) depth (skipBlanks s))
      (readMembers .strict steps' depth (skipBlanks (unifyNewlines s))) := by
  obtain ⟨steps', rfl⟩ : ∃ k, steps' = k + 1 := ⟨steps' - 1, by omega⟩
  rcases skipBlanks_cases s with ⟨hs, hs'⟩ | ⟨q, rest, -, hs, hs'⟩
  · rw [hs, hs']
    exact follows_faultAt _ _ _
  rw [hs, List.length_cons] at h
  rw [hs', List.length_cons] at h'
  rw [hs, hs']
  simp only [readMembers]
  split
  · refine (follows_readString _ _ none rest).bind ?_
    intro name rest hname hname'
    have hrest := length_lt_of_readString hname
    have hrest' := length_lt_of_readString hname'
    have hle := length_skipBlanks_le rest
    have hle' := length_skipBlanks_le (unifyNewlines rest)
    rcases skipBlanks_cases rest with ⟨hcolon, hcolon'⟩ | ⟨c, next, -, hcolon, hcolon'⟩
    · simp only [hcolon, hcolon']
      exact follows_faultAt _ _ _
    rw [hcolon, List.length_cons] at hle
    rw [hcolon', List.length_cons] at hle'
    have hnext := length_skipBlanks_le next
    have hnext' := length_skipBlanks_le (unifyNewlines next)
    simp only [hcolon, hcolon']
    split
    · refine (ih.value steps' depth next (by omega) (by omega)).bind ?_
      intro value after hread hread'
      have hafter := length_le_of_readValue hread
      have hafter' := length_le_of_readValue hread'
      have hend := length_skipBlanks_le after
      have hend' := length_skipBlanks_le (unifyNewlines after)
      rcases skipBlanks_cases after with ⟨hcomma, hcomma'⟩ | ⟨d, further, -, hcomma, hcomma'⟩
      · simp only [hcomma, hcomma']
        exact follows_faultAt _ _ _
      rw [hcomma, List.length_cons] at hend
      rw [hcomma', List.length_cons] at hend'
      have hfurther := length_skipBlanks_le further
      have hfurther' := length_skipBlanks_le (unifyNewlines further)
      simp only [hcomma, hcomma']
      split
      · exact Follows.read [(name, value)] further
      · split
        · refine (ih.members steps' depth further (by omega) (by omega)).bind ?_
          intro members final _ _
          exact Follows.read ((name, value) :: members) final
        · exact follows_faultAt _ _ _
    · exact follows_faultAt _ _ _
  · exact follows_faultAt _ _ _

end ReadsAlike

/-- By induction on the steps: **values, items and members** are the same. -/
theorem readsAlike
    (steps : ℕ) :
    ReadsAlike steps := by
  induction steps with
  | zero =>
      exact ReadsAlike.zero
  | succ steps ih =>
      exact ⟨ih.value_succ, ih.items_succ, ih.members_succ⟩

/-! ## Whole texts -/

/-- The same value, or the same fault, perhaps in another place. -/
inductive SameReading : Except ReadFault Json → Except ReadFault Json → Prop
  | value
      (v : Json) :
      SameReading (.ok v) (.ok v)
  | refused
      {fault fault' : ReadFault}
      (h : fault.Alike fault') :
      SameReading (.error fault) (.error fault')

/-- A text begins with a code point that is no line end iff it does so with its line ends made
alike. -/
theorem head?_unifyNewlines_iff
    {c : CodePoint}
    (hreturn : c ≠ carriageReturn)
    (hfeed : c ≠ lineFeed)
    (t : Text) :
    (unifyNewlines t).head? = some c
      ↔
    t.head? = some c := by
  cases t with
  | nil =>
      rfl
  | cons d rest =>
      by_cases hd : d = carriageReturn
      · obtain ⟨more, hunify, -⟩ := Text.exists_unifyNewlines_carriageReturn rest
        simp [hd, hunify, Ne.symm hreturn, Ne.symm hfeed]
      · simp [Text.unifyNewlines_cons hd]

/-- **The strict reader does not depend on line ends.** -/
theorem read_unifyNewlines
    (t : Text) :
    SameReading (read .strict t) (read .strict (unifyNewlines t)) := by
  have hmark := head?_unifyNewlines_iff (c := CodePoint.ofNat 0xFEFF) (by decide) (by decide) t
  have hle := length_skipBlanks_le t
  have hle' := length_skipBlanks_le (unifyNewlines t)
  have hvalue := (readsAlike (2 * t.length + 2)).value (2 * (unifyNewlines t).length + 2)
    nestingLimit t (by omega) (by omega)
  unfold read
  simp only [hmark]
  split
  · exact SameReading.refused (.moved _ _ _)
  · generalize readValue .strict _ _ (skipBlanks t) = outcome at hvalue ⊢
    generalize readValue .strict _ _ (skipBlanks (unifyNewlines t)) = outcome' at hvalue ⊢
    cases hvalue with
    | refused hfault =>
        exact SameReading.refused hfault
    | read v rest =>
        simp only [bind, Except.bind]
        rcases skipBlanks_cases rest with ⟨hend, hend'⟩ | ⟨c, more, -, hmore, hmore'⟩
        · rw [hend, hend']
          exact SameReading.value v
        · rw [hmore, hmore']
          exact SameReading.refused (.moved _ _ _)

end CurlRequest.Json
