import CurlRequest.Proofs.Json.Grammar
import CurlRequest.Proofs.Json.Nesting

/-!
# Reading white space and strings

The reader skips exactly the white space of the grammar, and reads a string up to its closing quote
iff what stands before the quote is the content of a string.

An escaped high surrogate is held back until the next code point is known.  What is read behind it
is then read as if its escape still stood in front, which is the invariant of the reader.

**Results.**
* `skipBlanks_append`, `exists_whitespace_append`: what is skipped is white space.
* `chars_of_readString`: what is read of a string is the content of a string.
* `readString_of_chars`: the content of a string is read to the text it denotes.
-/

namespace CurlRequest.Json

open Grammar (Whitespace HexDigit UnitEscape ShortEscape StartsWithLow Chars)

/-! ## White space -/

theorem whitespace_nil :
    Whitespace [] := by
  intro c hc
  cases hc

theorem isJsonBlank_iff
    {c : CodePoint} :
    isJsonBlank c = true
      ↔
    c = ' ' ∨ c = '\t' ∨ c = '\n' ∨ c = '\r' := by
  simp [isJsonBlank, or_assoc]

/-- White space in front is skipped. -/
theorem skipBlanks_append
    {w : Text}
    (hw : Whitespace w)
    (t : Text) :
    skipBlanks (w ++ t) = skipBlanks t :=
  List.dropWhile_append_of_pos fun c hc => isJsonBlank_iff.mpr (hw c hc)

/-- Nothing is skipped at a code point that is no white space. -/
theorem skipBlanks_cons
    {c : CodePoint}
    (hc : isJsonBlank c = false)
    (t : Text) :
    skipBlanks (c :: t) = c :: t := by
  rw [skipBlanks, List.dropWhile_cons_of_neg]
  simp [hc]

/-- White space alone is skipped to the end. -/
theorem skipBlanks_whitespace
    {w : Text}
    (hw : Whitespace w) :
    skipBlanks w = [] := by
  have h := skipBlanks_append hw []
  rwa [List.append_nil] at h

/-- A text is white space and what is left after skipping. -/
theorem exists_whitespace_append
    (t : Text) :
    ∃ w, Whitespace w ∧ t = w ++ skipBlanks t := by
  refine ⟨t.takeWhile isJsonBlank, ?_, List.takeWhile_append_dropWhile.symm⟩
  intro c hc
  exact isJsonBlank_iff.mp (List.all_eq_true.mp List.all_takeWhile c hc)

/-! ## Escapes -/

theorem hexDigit?_eq_some_iff
    {c : CodePoint}
    {n : ℕ} :
    hexDigit? c = some n
      ↔
    HexDigit c n := by
  unfold hexDigit? HexDigit CodePoint.isDigit
  simp only [decide_eq_true_eq]
  constructor
  · intro h
    split at h
    · cases h
      omega
    · split at h
      · cases h
        omega
      · split at h
        · cases h
          omega
        · cases h
  · intro h
    split
    · congr 1
      omega
    · split
      · congr 1
        omega
      · split
        · congr 1
          omega
        · omega

/-- Four hexadecimal digits denote a unit iff their escape does. -/
theorem hexUnit?_eq_some_iff
    {a b c d unit : CodePoint} :
    hexUnit? a b c d = some unit
      ↔
    UnitEscape ['\\', 'u', a, b, c, d] unit := by
  simp only [hexUnit?, bind, Option.bind_eq_some_iff, pure, Option.some.injEq,
    hexDigit?_eq_some_iff]
  constructor
  · rintro ⟨i, hi, j, hj, k, hk, l, hl, rfl⟩
    refine UnitEscape.digits hi hj hk hl (CodePoint.toNat_ofNat ?_)
    unfold HexDigit at hi hj hk hl
    omega
  · intro h
    cases h with
    | @digits _ _ _ _ _ i j k l hi hj hk hl hunit =>
        refine ⟨i, hi, j, hj, k, hk, l, hl, ?_⟩
        rw [← hunit]
        simp [CodePoint.ofNat, unit.isLt]

theorem shortEscape?_eq_some_iff
    {e x : CodePoint} :
    shortEscape? e = some x
      ↔
    ShortEscape e x := by
  constructor
  · intro h
    unfold shortEscape? at h
    split at h
    · rename_i he
      cases h
      rcases he with rfl | rfl | rfl
      · exact ShortEscape.quote
      · exact ShortEscape.backslash
      · exact ShortEscape.solidus
    · split at h
      · rename_i he
        cases h
        subst he
        exact ShortEscape.backspace
      · split at h
        · rename_i he
          cases h
          subst he
          exact ShortEscape.formFeed
        · split at h
          · rename_i he
            cases h
            subst he
            exact ShortEscape.lineFeed
          · split at h
            · rename_i he
              cases h
              subst he
              exact ShortEscape.carriageReturn
            · split at h
              · rename_i he
                cases h
                subst he
                exact ShortEscape.tab
              · cases h
  · intro h
    cases h <;> rfl

/-- No short escape is that of a unit. -/
theorem ne_unit_of_shortEscape
    {e x : CodePoint}
    (h : ShortEscape e x) :
    e ≠ 'u' := by
  rintro rfl
  cases h

/-- A text begins with one escape of a unit at most. -/
theorem unitEscape_unique
    {e e' t t' : Text}
    {u u' : CodePoint}
    (he : UnitEscape e u)
    (he' : UnitEscape e' u')
    (h : e ++ t = e' ++ t') :
    u = u' := by
  cases he with
  | digits hi hj hk hl hunit =>
      have hunit? := hexUnit?_eq_some_iff.mpr (UnitEscape.digits hi hj hk hl hunit)
      cases he' with
      | digits hi' hj' hk' hl' hunit' =>
          have hunit'? := hexUnit?_eq_some_iff.mpr (UnitEscape.digits hi' hj' hk' hl' hunit')
          simp only [List.cons_append, List.cons.injEq, true_and] at h
          obtain ⟨rfl, rfl, rfl, rfl, -⟩ := h
          rw [hunit?] at hunit'?
          exact Option.some.inj hunit'?

/-- A text that begins with the escape of a unit begins with that of a low surrogate iff the unit
is one. -/
theorem startsWithLow_append_iff
    {e t : Text}
    {u : CodePoint}
    (he : UnitEscape e u) :
    StartsWithLow (e ++ t)
      ↔
    u.isLowSurrogate = true := by
  constructor
  · rintro ⟨e', u', t', he', hlow, h⟩
    rw [unitEscape_unique he he' h]
    exact hlow
  · intro hlow
    exact ⟨e, u, t, he, hlow, rfl⟩

/-- What does not begin with a backslash and a `u` does not begin with an escape of a unit. -/
theorem not_startsWithLow
    {t : Text}
    (h : ∀ rest, t ≠ ('\\' : CodePoint) :: ('u' : CodePoint) :: rest) :
    ¬ StartsWithLow t := by
  rintro ⟨e, u, rest, he, -, rfl⟩
  cases he with
  | digits =>
      exact h _ rfl

/-- A high surrogate is no low one. -/
theorem isLowSurrogate_of_isHighSurrogate
    {c : CodePoint}
    (h : c.isHighSurrogate = true) :
    c.isLowSurrogate = false := by
  simp only [CodePoint.isHighSurrogate, CodePoint.isLowSurrogate, decide_eq_true_eq,
    decide_eq_false_iff_not] at h ⊢
  omega

/-! ## What is read of a string -/

/-- The escape of what is held back. -/
inductive HeldEscape : Option CodePoint → Text → Prop
  | none :
      HeldEscape none []
  | some
      {e : Text}
      {high : CodePoint}
      (he : UnitEscape e high)
      (hhigh : high.isHighSurrogate = true) :
      HeldEscape (some high) e

/-- What is held back stays alone in front of anything but a low surrogate. -/
theorem HeldEscape.chars
    {held : Option CodePoint}
    {e t s : Text}
    (hheld : HeldEscape held e)
    (hlow : ¬ StartsWithLow t)
    (h : Chars t s) :
    Chars (e ++ t) (held.toList ++ s) := by
  cases hheld with
  | none =>
      exact h
  | some he hhigh =>
      exact Chars.unit he (fun halone => hlow halone.2) h

/-- By the recursion of the reader: **what is read of a string** up to its closing quote, together
with the escape that is held back, is the content of a string. -/
theorem chars_of_readString
    {opened s content rest e : Text}
    {held : Option CodePoint}
    (h : readString opened held s = .ok (content, rest))
    (hheld : HeldEscape held e) :
    ∃ t, s = t ++ ('"' : CodePoint) :: rest ∧ Chars (e ++ t) content := by
  fun_induction readString opened held s generalizing content rest e with
  | case2 =>
      cases h
      have hnil : ¬ StartsWithLow [] := not_startsWithLow fun _ h => by cases h
      refine ⟨[], rfl, ?_⟩
      simpa using hheld.chars hnil Chars.nil
  | case7 d₁ d₂ d₃ d₄ rest' _ unit hunit high hlow _ _ ih =>
      obtain ⟨content', hmore, rfl⟩ := prepend_eq_ok h
      obtain ⟨t, rfl, hchars⟩ := ih hmore HeldEscape.none
      cases hheld with
      | some he hhigh =>
          exact ⟨_ :: _ :: _ :: _ :: _ :: _ :: t, rfl, Chars.pair he (hexUnit?_eq_some_iff.mp hunit) hhigh hlow hchars⟩
  | case8 d₁ d₂ d₃ d₄ rest' _ unit hunit high hlow hhigh _ _ ih =>
      obtain ⟨content', hmore, rfl⟩ := prepend_eq_ok h
      have he := hexUnit?_eq_some_iff.mp hunit
      obtain ⟨t, rfl, hchars⟩ := ih hmore (HeldEscape.some he hhigh)
      have hstarts := (startsWithLow_append_iff (t := t) he).not.mpr hlow
      exact ⟨_ :: _ :: _ :: _ :: _ :: _ :: t, rfl, hheld.chars hstarts hchars⟩
  | case9 d₁ d₂ d₃ d₄ rest' _ unit hunit high hlow hhigh _ _ ih =>
      obtain ⟨content', hmore, rfl⟩ := prepend_eq_ok h
      have he := hexUnit?_eq_some_iff.mp hunit
      obtain ⟨t, rfl, hchars⟩ := ih hmore HeldEscape.none
      have hstarts := (startsWithLow_append_iff (t := t) he).not.mpr hlow
      have hunit' := Chars.unit he (fun halone => hhigh halone.1) hchars
      exact ⟨_ :: _ :: _ :: _ :: _ :: _ :: t, rfl, hheld.chars hstarts hunit'⟩
  | case10 d₁ d₂ d₃ d₄ rest' _ unit hunit hhigh _ _ ih =>
      have he := hexUnit?_eq_some_iff.mp hunit
      obtain ⟨t, rfl, hchars⟩ := ih h (HeldEscape.some he hhigh)
      cases hheld with
      | none =>
          exact ⟨_ :: _ :: _ :: _ :: _ :: _ :: t, rfl, hchars⟩
  | case11 d₁ d₂ d₃ d₄ rest' _ unit hunit hhigh _ _ ih =>
      obtain ⟨content', hmore, rfl⟩ := prepend_eq_ok h
      have he := hexUnit?_eq_some_iff.mp hunit
      obtain ⟨t, rfl, hchars⟩ := ih hmore HeldEscape.none
      cases hheld with
      | none =>
          have hunit' := Chars.unit he (fun halone => hhigh halone.1) hchars
          exact ⟨_ :: _ :: _ :: _ :: _ :: _ :: t, rfl, hunit'⟩
  | case13 held c rest' hc x hx _ _ ih =>
      obtain ⟨content', hmore, rfl⟩ := prepend_eq_ok h
      obtain ⟨t, rfl, hchars⟩ := ih hmore HeldEscape.none
      have hstarts : ¬ StartsWithLow (('\\' : CodePoint) :: c :: t) := by
        apply not_startsWithLow
        intro rest hrest
        cases hrest
        exact hc rfl
      refine ⟨('\\' : CodePoint) :: c :: t, rfl, ?_⟩
      rw [List.append_assoc]
      exact hheld.chars hstarts (Chars.escaped (shortEscape?_eq_some_iff.mp hx) hchars)
  | case15 held c rest' hquote hcontrol hbackslash ih =>
      obtain ⟨content', hmore, rfl⟩ := prepend_eq_ok h
      obtain ⟨t, rfl, hchars⟩ := ih hmore HeldEscape.none
      have hstarts : ¬ StartsWithLow (c :: t) := by
        apply not_startsWithLow
        intro rest hrest
        cases hrest
        exact hbackslash rfl
      have hle : 0x20 ≤ c.toNat := by
        simpa [CodePoint.isControl] using hcontrol
      refine ⟨c :: t, rfl, ?_⟩
      rw [List.append_assoc]
      exact hheld.chars hstarts (Chars.unescaped hle hquote hbackslash hchars)
  | _ =>
      cases h

/-! ## Strings that are read -/

section Step

variable (opened : Text) (held : Option CodePoint)

/-- A quote ends the string. -/
theorem readString_quote
    (rest : Text) :
    readString opened held (('"' : CodePoint) :: rest) = .ok (held.toList, rest) := by
  rw [readString.eq_def]
  simp

/-- A control is refused. -/
theorem readString_control
    {c : CodePoint}
    (hquote : c ≠ '"')
    (hcontrol : c.isControl = true)
    (rest : Text) :
    readString opened held (c :: rest) = faultAt .controlCharacter (c :: rest) := by
  rw [readString.eq_def]
  simp [hquote, hcontrol]

/-- Any other code point stands for itself. -/
theorem readString_unescaped
    {c : CodePoint}
    (hquote : c ≠ '"')
    (hcontrol : c.isControl = false)
    (hbackslash : c ≠ '\\')
    (rest : Text) :
    readString opened held (c :: rest) =
      prepend (held.toList ++ [c]) (readString opened none rest) := by
  rw [readString.eq_def]
  simp [hquote, hcontrol, hbackslash]

/-- A backslash in front of anything but a `u` is an escape of two characters or is refused. -/
theorem readString_shortEscape
    {e : CodePoint}
    (he : e ≠ 'u')
    (rest : Text) :
    readString opened held (('\\' : CodePoint) :: e :: rest) =
      match shortEscape? e with
      | some x => prepend (held.toList ++ [x]) (readString opened none rest)
      | none => faultAt .unknownEscape (('\\' : CodePoint) :: e :: rest) := by
  have hquote : ¬ CodePoint.ofChar '\\' = CodePoint.ofChar '"' := by decide
  have hcontrol : (CodePoint.ofChar '\\').isControl = false := by decide
  rw [readString.eq_def]
  cases hescape : shortEscape? e <;>
    simp only [hquote, hcontrol, he, hescape, Bool.false_eq_true, if_false, if_true]

end Step

/-- A text begins with the escape of a unit and does not end with it. -/
def StartsWithUnit (s : Text) : Prop :=
  ∃ e u t, UnitEscape e u ∧ t ≠ [] ∧ s = e ++ t

/-- What looks like the escape of a unit and is none is refused. -/
theorem readString_badUnit
    {s : Text}
    (h : ¬ StartsWithUnit (('\\' : CodePoint) :: ('u' : CodePoint) :: s))
    (opened : Text)
    (held : Option CodePoint) :
    ∃ remaining, readString opened held (('\\' : CodePoint) :: ('u' : CodePoint) :: s) =
      .error (.located .badUnicodeEscape remaining) := by
  have hquote : ¬ CodePoint.ofChar '\\' = CodePoint.ofChar '"' := by decide
  have hcontrol : (CodePoint.ofChar '\\').isControl = false := by decide
  rw [readString.eq_def]
  simp only [hquote, hcontrol, Bool.false_eq_true, if_false, if_true]
  split
  · split
    · exact ⟨_, rfl⟩
    · rename_i d₁ d₂ d₃ d₄ rest hrest
      split
      · exact ⟨_, rfl⟩
      · rename_i unit hunit
        exact absurd ⟨_, unit, rest, hexUnit?_eq_some_iff.mp hunit, hrest, rfl⟩ h
  · exact ⟨_, rfl⟩

/-- The outcome at the escape of a unit, text being left behind it. -/
theorem readString_unitEscape
    {e : Text}
    {u : CodePoint}
    (he : UnitEscape e u)
    (opened : Text)
    (held : Option CodePoint)
    {t : Text}
    (ht : t ≠ []) :
    readString opened held (e ++ t) =
      match held with
      | some high =>
          if u.isLowSurrogate then
            prepend [CodePoint.ofSurrogates high u] (readString opened none t)
          else if u.isHighSurrogate then prepend [high] (readString opened (some u) t)
          else prepend [high, u] (readString opened none t)
      | none =>
          if u.isHighSurrogate then readString opened (some u) t
          else prepend [u] (readString opened none t) := by
  cases he with
  | digits hi hj hk hl hunit =>
      have hunit? := hexUnit?_eq_some_iff.mpr (UnitEscape.digits hi hj hk hl hunit)
      have hquote : ¬ CodePoint.ofChar '\\' = CodePoint.ofChar '"' := by decide
      have hcontrol : (CodePoint.ofChar '\\').isControl = false := by decide
      simp only [List.cons_append, List.nil_append]
      rw [readString.eq_def]
      cases held <;>
        simp only [hquote, hcontrol, ht, hunit?, Bool.false_eq_true, if_false, if_true]

/-- By induction on the content: **the content of a string** is read up to the closing quote, a high
surrogate that is held back staying alone in front of it. -/
theorem readString_of_chars
    {t s : Text}
    (h : Chars t s)
    (opened rest : Text)
    (held : Option CodePoint)
    (hheld : ∀ high, held = some high → ¬ StartsWithLow t) :
    readString opened held (t ++ ('"' : CodePoint) :: rest) = .ok (held.toList ++ s, rest) := by
  have hnone : ∀ (t : Text) high, (none : Option CodePoint) = some high → ¬ StartsWithLow t :=
    fun _ _ h => by cases h
  induction h generalizing held with
  | nil =>
      rw [List.nil_append, readString_quote, List.append_nil]
  | @unescaped c t s hcontrol hquote hbackslash h ih =>
      have hc : c.isControl = false := by
        simpa [CodePoint.isControl] using hcontrol
      rw [List.cons_append, readString_unescaped opened held hquote hc hbackslash,
        ih none (hnone t)]
      simp [prepend, Except.map]
  | @escaped e x t s he h ih =>
      rw [List.cons_append, List.cons_append,
        readString_shortEscape opened held (ne_unit_of_shortEscape he),
        shortEscape?_eq_some_iff.mpr he]
      simp only
      rw [ih none (hnone t)]
      simp [prepend, Except.map]
  | @unit e t s u he halone h ih =>
      have halone' : u.isHighSurrogate = true → ∀ high, some u = some high → ¬ StartsWithLow t :=
        fun hhigh _ _ hlow => halone ⟨hhigh, hlow⟩
      rw [List.append_assoc, readString_unitEscape he opened held (by simp)]
      cases held with
      | none =>
          by_cases hhigh : u.isHighSurrogate = true
          · simp only [hhigh, if_true]
            rw [ih (some u) (halone' hhigh)]
            rfl
          · simp only [hhigh]
            rw [if_neg Bool.false_ne_true, ih none (hnone t)]
            rfl
      | some high =>
          have hlow := (startsWithLow_append_iff he).not.mp (hheld high rfl)
          by_cases hhigh : u.isHighSurrogate = true
          · simp only [hlow, hhigh, if_true]
            rw [ih (some u) (halone' hhigh)]
            rfl
          · simp only [hlow, hhigh]
            rw [ih none (hnone t)]
            rfl
  | @pair e e' t s high low he he' hhigh hlow h ih =>
      have hpair :
          readString opened (some high) (e' ++ (t ++ ('"' : CodePoint) :: rest)) =
            .ok (CodePoint.ofSurrogates high low :: s, rest) := by
        rw [readString_unitEscape he' opened (some high) (by simp)]
        simp only [hlow, if_true]
        rw [ih none (hnone t)]
        rfl
      have hhigh' := isLowSurrogate_of_isHighSurrogate hhigh
      rw [List.append_assoc, List.append_assoc, readString_unitEscape he opened held (by simp)]
      cases held with
      | none =>
          simp only [hhigh, if_true]
          rw [hpair]
          rfl
      | some first =>
          simp only [hhigh, hhigh', if_true, Bool.false_eq_true, if_false]
          rw [hpair]
          rfl

end CurlRequest.Json
