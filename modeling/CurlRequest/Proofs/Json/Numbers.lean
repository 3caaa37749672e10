import CurlRequest.Proofs.Json.Grammar
import CurlRequest.Proofs.Json.ReaderSteps

/-!
# Reading numbers

The scanner takes the longest number that a text starts with.  A number is therefore scanned whole
iff the text behind it cannot prolong it, and every value of the grammar that can stand in a text is
followed by such a text.

**Results.**
* `number_of_scanNumber?`: what is scanned is a number.
* `scanNumber?_of_number`: a number that ends is scanned whole.
* `toJson_strict_iff`: a literal has the value that the grammar gives it.
* `readNumber_of_number`, `number_of_readNumber`: both for a number and its value.
-/

namespace CurlRequest.Json

open Grammar (Digits Whole Fraction Sign Exponent Number Denotes)

/-! ## Where numbers end -/

/-- A text does not begin with a code point of a kind. -/
def Stops (kind : CodePoint → Bool) (t : Text) : Prop :=
  ∀ c ∈ t.head?, kind c = false

/-- A text that does not prolong a number in front of it. -/
abbrev EndsNumber (t : Text) : Prop :=
  Stops isNumberPart t

theorem stops_nil
    (kind : CodePoint → Bool) :
    Stops kind [] := by
  intro c hc
  cases hc

theorem stops_cons
    {kind : CodePoint → Bool}
    {c : CodePoint}
    (hc : kind c = false)
    (t : Text) :
    Stops kind (c :: t) := by
  intro d hd
  cases hd
  exact hc

/-- A run of a kind is taken up to where the text stops. -/
theorem takeWhile_of_stops
    {kind : CodePoint → Bool}
    {t rest : Text}
    (ht : ∀ c ∈ t, kind c = true)
    (hrest : Stops kind rest) :
    (t ++ rest).takeWhile kind = t ∧ (t ++ rest).dropWhile kind = rest := by
  rw [List.takeWhile_append_of_pos ht, List.dropWhile_append_of_pos ht]
  cases rest with
  | nil =>
      simp
  | cons c rest =>
      have hc := hrest c rfl
      simp [hc]

theorem digit_of_endsNumber
    {t : Text}
    (h : EndsNumber t) :
    Stops CodePoint.isDigit t := by
  intro c hc
  have hpart := h c hc
  simp only [isNumberPart, Bool.or_eq_false_iff] at hpart
  exact hpart.1

/-- What ends a number is none of the signs and marks in it. -/
theorem ne_of_endsNumber
    {c d : CodePoint}
    {t : Text}
    (h : EndsNumber (c :: t))
    (hd : isNumberPart d = true) :
    c ≠ d := by
  rintro rfl
  have hc := h c rfl
  rw [hd] at hc
  cases hc

/-- A digit is no sign and no mark. -/
theorem ne_of_isDigit
    {c d : CodePoint}
    (hc : c.isDigit = true)
    (hd : d.isDigit = false) :
    c ≠ d := by
  rintro rfl
  rw [hd] at hc
  cases hc

/-! ## Parts of numbers that are scanned -/

/-- A fraction is scanned whole where no digit follows. -/
theorem scanFraction_of_fraction
    {t digits rest : Text}
    (h : Fraction t digits)
    (hdigit : Stops CodePoint.isDigit rest)
    (hpoint : ∀ c ∈ rest.head?, c ≠ '.') :
    scanFraction (t ++ rest) = (digits, rest) := by
  cases h with
  | absent =>
      cases rest with
      | nil =>
          rfl
      | cons c rest =>
          have hc := hpoint c rfl
          simp [scanFraction, hc]
  | present ht =>
      obtain ⟨htake, hdrop⟩ := takeWhile_of_stops ht.2 hdigit
      simp only [List.cons_append, scanFraction, htake, hdrop]
      rw [if_pos ⟨trivial, ht.1⟩]

/-- A sign is scanned whole in front of digits. -/
theorem scanSign_of_sign
    {sign digits rest : Text}
    {negative : Bool}
    (h : Sign sign negative)
    (hdigits : Digits digits) :
    scanSign (sign ++ (digits ++ rest)) = (negative, digits ++ rest) := by
  cases h with
  | absent =>
      obtain ⟨hne, hall⟩ := hdigits
      cases digits with
      | nil =>
          exact absurd rfl hne
      | cons c digits =>
          have hc := hall c List.mem_cons_self
          have hminus : c ≠ '-' := ne_of_isDigit hc rfl
          have hplus : c ≠ '+' := ne_of_isDigit hc rfl
          simp [scanSign, hminus, hplus]
  | plus =>
      rfl
  | minus =>
      rfl

/-- An exponent is scanned whole where the number ends. -/
theorem scanExponent_of_exponent
    {t rest : Text}
    {digits : Option (Bool × Text)}
    (h : Exponent t digits)
    (hrest : EndsNumber rest) :
    scanExponent (t ++ rest) = (digits, rest) := by
  cases h with
  | absent =>
      cases rest with
      | nil =>
          rfl
      | cons c rest =>
          have hlower : c ≠ 'e' := ne_of_endsNumber hrest rfl
          have hupper : c ≠ 'E' := ne_of_endsNumber hrest rfl
          simp [scanExponent, hlower, hupper]
  | present he hsign ht =>
      obtain ⟨htake, hdrop⟩ := takeWhile_of_stops ht.2 (digit_of_endsNumber hrest)
      rw [List.cons_append, List.append_assoc]
      simp only [scanExponent, scanSign_of_sign hsign ht, htake, hdrop]
      rw [if_pos ⟨he, ht.1⟩]

/-- A fraction or an exponent does not begin with a digit. -/
theorem stops_isDigit_fraction
    {t digits rest : Text}
    (h : Fraction t digits)
    (hrest : Stops CodePoint.isDigit rest) :
    Stops CodePoint.isDigit (t ++ rest) := by
  cases h with
  | absent =>
      exact hrest
  | present =>
      exact stops_cons rfl _

/-- An exponent begins with its mark. -/
theorem stops_exponent
    {kind : CodePoint → Bool}
    {t rest : Text}
    {digits : Option (Bool × Text)}
    (h : Exponent t digits)
    (hlower : kind 'e' = false)
    (hupper : kind 'E' = false)
    (hrest : Stops kind rest) :
    Stops kind (t ++ rest) := by
  cases h with
  | absent =>
      exact hrest
  | present he =>
      rcases he with rfl | rfl
      · exact stops_cons hlower _
      · exact stops_cons hupper _

/-- A whole part is scanned whole where no digit follows. -/
theorem scanMagnitude?_of_whole
    {whole fraction fractionDigits exponent rest : Text}
    {exponentDigits : Option (Bool × Text)}
    (negative : Bool)
    (hwhole : Whole whole)
    (hfraction : Fraction fraction fractionDigits)
    (hexponent : Exponent exponent exponentDigits)
    (hrest : EndsNumber rest) :
    scanMagnitude? negative (whole ++ (fraction ++ (exponent ++ rest))) =
      some (⟨negative, whole, fractionDigits, exponentDigits⟩, rest) := by
  have hdigit : Stops CodePoint.isDigit (exponent ++ rest) :=
    stops_exponent hexponent rfl rfl (digit_of_endsNumber hrest)
  have hpoint : ∀ c ∈ (exponent ++ rest).head?, c ≠ '.' := by
    have hstops : Stops (fun c : CodePoint => decide (c = '.')) (exponent ++ rest) := by
      apply stops_exponent hexponent (by decide) (by decide)
      intro c hc
      cases rest with
      | nil =>
          cases hc
      | cons d rest =>
          cases hc
          simpa using ne_of_endsNumber hrest rfl
    intro c hc
    simpa using hstops c hc
  have hscanFraction := scanFraction_of_fraction hfraction hdigit hpoint
  have hscanExponent := scanExponent_of_exponent hexponent hrest
  cases hwhole with
  | zero =>
      have hzero : CodePoint.isDigit '0' = true := rfl
      simp only [List.cons_append, List.nil_append, scanMagnitude?, hzero, if_true,
        List.length_nil, List.drop_zero, hscanFraction, hscanExponent]
  | @digits c t hc hzero ht =>
      obtain ⟨htake, -⟩ := takeWhile_of_stops ht (stops_isDigit_fraction hfraction hdigit)
      simp only [List.cons_append, scanMagnitude?, hc, hzero, if_true, if_false, htake,
        List.drop_left, hscanFraction, hscanExponent]

/-- **A number that ends** is scanned whole. -/
theorem scanNumber?_of_number
    {t rest : Text}
    {l : NumberLiteral}
    (h : Number t l)
    (hrest : EndsNumber rest) :
    scanNumber? (t ++ rest) = some (l, rest) := by
  cases h with
  | @mk negative whole fraction fractionDigits exponent exponentDigits hwhole hfraction
      hexponent =>
      have hscan := scanMagnitude?_of_whole negative hwhole hfraction hexponent hrest
      simp only [List.append_assoc]
      cases negative with
      | true =>
          simp only [if_true, List.cons_append, List.nil_append, scanNumber?]
          exact hscan
      | false =>
          obtain ⟨c, u, rfl, hc⟩ : ∃ c u, whole = c :: u ∧ c.isDigit = true := by
            cases hwhole with
            | zero =>
                exact ⟨_, _, rfl, rfl⟩
            | digits hc =>
                exact ⟨_, _, rfl, hc⟩
          have hminus : c ≠ '-' := ne_of_isDigit hc rfl
          simp only [Bool.false_eq_true, if_false, List.nil_append, List.cons_append, scanNumber?,
            hminus]
          exact hscan

/-! ## What is scanned of a number -/

/-- The digits that a text starts with. -/
theorem isDigit_of_mem_takeWhile
    {c : CodePoint}
    {t : Text}
    (h : c ∈ t.takeWhile CodePoint.isDigit) :
    c.isDigit = true :=
  List.all_eq_true.mp List.all_takeWhile c h

/-- What is scanned of a fraction is one. -/
theorem fraction_scanFraction
    (s : Text) :
    ∃ t, s = t ++ (scanFraction s).2 ∧ Fraction t (scanFraction s).1 := by
  cases s with
  | nil =>
      exact ⟨[], rfl, Fraction.absent⟩
  | cons c s =>
      simp only [scanFraction]
      split
      · rename_i hc
        obtain ⟨rfl, hne⟩ := hc
        refine ⟨_ :: s.takeWhile CodePoint.isDigit, ?_, Fraction.present ⟨hne, ?_⟩⟩
        · rw [List.cons_append, List.takeWhile_append_dropWhile]
        · exact fun _ => isDigit_of_mem_takeWhile
      · exact ⟨[], rfl, Fraction.absent⟩

/-- What is scanned of a sign is one. -/
theorem sign_scanSign
    (s : Text) :
    ∃ t, s = t ++ (scanSign s).2 ∧ Sign t (scanSign s).1 := by
  cases s with
  | nil =>
      exact ⟨[], rfl, Sign.absent⟩
  | cons c s =>
      simp only [scanSign]
      split
      · rename_i hc
        subst hc
        exact ⟨[_], rfl, Sign.minus⟩
      · split
        · rename_i hc
          subst hc
          exact ⟨[_], rfl, Sign.plus⟩
        · exact ⟨[], rfl, Sign.absent⟩

/-- What is scanned of an exponent is one. -/
theorem exponent_scanExponent
    (s : Text) :
    ∃ t, s = t ++ (scanExponent s).2 ∧ Exponent t (scanExponent s).1 := by
  cases s with
  | nil =>
      exact ⟨[], rfl, Exponent.absent⟩
  | cons c s =>
      simp only [scanExponent]
      split
      · rename_i hc
        obtain ⟨he, hne⟩ := hc
        obtain ⟨sign, hsplit, hsign⟩ := sign_scanSign s
        refine ⟨c :: (sign ++ (scanSign s).2.takeWhile CodePoint.isDigit), ?_,
          Exponent.present he hsign ⟨hne, ?_⟩⟩
        · rw [List.cons_append, List.append_assoc, List.takeWhile_append_dropWhile, ← hsplit]
        · exact fun _ => isDigit_of_mem_takeWhile
      · exact ⟨[], rfl, Exponent.absent⟩

/-- What is scanned of a magnitude is a number with the sign that was given. -/
theorem number_of_scanMagnitude?
    {negative : Bool}
    {s rest : Text}
    {l : NumberLiteral}
    (h : scanMagnitude? negative s = some (l, rest)) :
    ∃ t, s = t ++ rest ∧
      Number ((if negative then [('-' : CodePoint)] else []) ++ t) l := by
  cases s with
  | nil =>
      cases h
  | cons c s =>
      simp only [scanMagnitude?] at h
      split at h
      · rename_i hdigit
        obtain ⟨more, hmore⟩ :
            ∃ more, more = if c = '0' then [] else s.takeWhile CodePoint.isDigit := ⟨_, rfl⟩
        rw [← hmore] at h
        obtain ⟨fraction, hfractionSplit, hfraction⟩ := fraction_scanFraction (s.drop more.length)
        obtain ⟨exponent, hexponentSplit, hexponent⟩ :=
          exponent_scanExponent (scanFraction (s.drop more.length)).2
        simp only [Option.some.injEq, Prod.mk.injEq] at h
        obtain ⟨rfl, rfl⟩ := h
        have hwhole : s = more ++ s.drop more.length ∧ Whole (c :: more) := by
          by_cases hc : c = '0'
          · rw [hmore, if_pos hc, hc]
            exact ⟨rfl, Whole.zero⟩
          · rw [hmore, if_neg hc]
            refine ⟨?_, Whole.digits hdigit hc fun _ => isDigit_of_mem_takeWhile⟩
            have hprefix := List.takeWhile_prefix CodePoint.isDigit (l := s)
            exact (List.prefix_iff_eq_append.mp hprefix).symm
        refine ⟨c :: more ++ (fraction ++ exponent), ?_,
          Number.mk hwhole.2 hfraction hexponent⟩
        rw [List.append_assoc, List.append_assoc, ← hexponentSplit, ← hfractionSplit,
          List.cons_append, ← hwhole.1]
      · cases h

/-- **What is scanned** of a number is one. -/
theorem number_of_scanNumber?
    {s rest : Text}
    {l : NumberLiteral}
    (h : scanNumber? s = some (l, rest)) :
    ∃ t, s = t ++ rest ∧ Number t l := by
  cases s with
  | nil =>
      cases h
  | cons c s =>
      simp only [scanNumber?] at h
      split at h
      · rename_i hc
        subst hc
        obtain ⟨t, rfl, hnumber⟩ := number_of_scanMagnitude? h
        exact ⟨_ :: t, rfl, hnumber⟩
      · obtain ⟨t, hsplit, hnumber⟩ := number_of_scanMagnitude? h
        exact ⟨t, hsplit, hnumber⟩

/-! ## Values of numbers -/

/-- The floating point number of a literal is the one it rounds to. -/
theorem rounds_toBinary64
    (l : NumberLiteral) :
    Binary64.Rounds l.negative (Grammar.magnitude l) l.toBinary64 := by
  have hpower : l.toBinary64 =
      Binary64.ofDecimal l.negative (digitsValue (l.whole ++ l.fraction))
        (Grammar.power l.exponent - l.fraction.length) := by
    unfold NumberLiteral.toBinary64 Grammar.power
    rcases l.exponent with _ | ⟨negative, digits⟩
    · rfl
    · cases negative <;> rfl
  rw [hpower]
  exact Binary64.rounds_ofDecimal _ _ _

/-- **The value of a literal** under the strict dialect is the one that the grammar gives it. -/
theorem toJson_strict_iff
    {l : NumberLiteral}
    {s rest : Text}
    {v : Json} :
    l.toJson .strict s rest = .ok v
      ↔
    Denotes l v := by
  unfold NumberLiteral.toJson
  by_cases hkind : l.fraction = [] ∧ l.exponent = none
  · rw [if_pos hkind]
    constructor
    · intro h
      split at h
      · cases h
      · rename_i hlimit
        cases h
        exact Denotes.integer hkind.1 hkind.2 (not_lt.mp hlimit)
    · intro h
      cases h with
      | integer hfraction hexponent hlimit =>
          rw [if_neg (not_lt.mpr hlimit)]
      | floating hfloating =>
          exact absurd hkind hfloating
  · rw [if_neg hkind]
    constructor
    · intro h
      simp only [true_and] at h
      split at h
      · cases h
      · rename_i hfinite
        cases h
        exact Denotes.floating hkind (rounds_toBinary64 l) (by simpa using hfinite)
    · intro h
      cases h with
      | integer hfraction hexponent hlimit =>
          exact absurd ⟨hfraction, hexponent⟩ hkind
      | floating hfloating hround hfinite =>
          rw [(rounds_toBinary64 l).unique hround]
          simp [hfinite]

/-- **A number that is read** is one with that value. -/
theorem number_of_readNumber
    {s rest : Text}
    {v : Json}
    (h : readNumber .strict s = .ok (v, rest)) :
    ∃ t l, s = t ++ rest ∧ Number t l ∧ Denotes l v := by
  obtain ⟨l, hscan, hvalue⟩ := readNumber_ok h
  obtain ⟨t, hsplit, hnumber⟩ := number_of_scanNumber? hscan
  exact ⟨t, l, hsplit, hnumber, toJson_strict_iff.mp hvalue⟩

/-- **A number that ends** is read to its value. -/
theorem readNumber_of_number
    {t rest : Text}
    {l : NumberLiteral}
    {v : Json}
    (h : Number t l)
    (hvalue : Denotes l v)
    (hrest : EndsNumber rest) :
    readNumber .strict (t ++ rest) = .ok (v, rest) := by
  have htoJson : l.toJson .strict (t ++ rest) rest = .ok v := toJson_strict_iff.mpr hvalue
  simp only [readNumber, scanNumber?_of_number h hrest, htoJson]
  rfl

end CurlRequest.Json
