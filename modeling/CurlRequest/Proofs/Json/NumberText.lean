import CurlRequest.Json.Writer
import CurlRequest.Proofs.Binary64.Shortest
import CurlRequest.Proofs.Json.Digits
import CurlRequest.Proofs.Json.Grammar

/-!
# The text of a number denotes it

The text of an integer is its digits.  The text of a floating point number is its shortest decimal,
without the zeros at its end and with the point or an exponent where the format wants it; none of
this changes the rational that is written, and that rational rounds to the number.

**Results.**
* `exists_number_format`: the text of a finite number denotes it.
* `exists_number_ofInt`: so does that of an integer that is short enough.
-/

namespace CurlRequest.Json

open Binary64 (Rounds zeros dropTrailingZeros shortest plainText exponentText)
open Grammar (Whole Digits Fraction Exponent Number Denotes)

/-! ## Layouts of a decimal -/

/-- A text without a sign that is a number with a fraction or an exponent, of the given
magnitude. -/
def Spells (t : Text) (q : ℚ) : Prop :=
  ∃ whole fraction fractionDigits exponent exponentDigits,
    t = whole ++ (fraction ++ exponent) ∧ Whole whole ∧ Fraction fraction fractionDigits ∧
      Exponent exponent exponentDigits ∧ ¬ (fractionDigits = [] ∧ exponentDigits = none) ∧
        (digitsValue (whole ++ fractionDigits) : ℚ) *
          10 ^ (Grammar.power exponentDigits - fractionDigits.length) = q

/-- With a sign in front it is a number that denotes what it rounds to. -/
theorem Spells.exists_number
    {t : Text}
    {q : ℚ}
    {negative : Bool}
    {x : Binary64}
    (h : Spells t q)
    (hround : Rounds negative q x)
    (hfinite : x.isFinite = true) :
    ∃ l, Number ((if negative then [('-' : CodePoint)] else []) ++ t) l ∧ Denotes l (float x) := by
  obtain ⟨whole, fraction, fractionDigits, exponent, exponentDigits, rfl, hwhole, hfraction,
    hexponent, hkind, hvalue⟩ := h
  refine ⟨_, Number.mk hwhole hfraction hexponent, Denotes.floating hkind ?_ hfinite⟩
  rw [Grammar.magnitude, hvalue]
  exact hround

/-- The mark of an exponent and its digits, with zeros in front, denote the exponent. -/
theorem exists_exponent
    (padding : ℕ)
    (n : ℤ) :
    ∃ mark,
      Exponent
          ((if n < 0 then Text.ofString "e-" else Text.ofString "e+") ++
            (zeros padding ++ Text.ofNat n.natAbs))
          (some mark) ∧
        Grammar.power (some mark) = n := by
  have hdigits : Digits (zeros padding ++ Text.ofNat n.natAbs) := by
    constructor
    · have hne : Text.ofNat n.natAbs ≠ [] := by
        simp [Text.ofNat]
      simp [hne]
    · intro c hc
      rcases List.mem_append.mp hc with hc | hc
      · exact isDigit_of_mem_zeros hc
      · exact isDigit_of_mem_ofNat hc
  have hvalue : digitsValue (zeros padding ++ Text.ofNat n.natAbs) = n.natAbs := by
    rw [digitsValue_append, digitsValue_zeros, digitsValue_ofNat, Nat.zero_mul, Nat.zero_add]
  by_cases hn : n < 0
  · refine ⟨(true, zeros padding ++ Text.ofNat n.natAbs), ?_, ?_⟩
    · rw [if_pos hn]
      exact Exponent.present (Or.inl rfl) Grammar.Sign.minus hdigits
    · rw [Grammar.power, hvalue]
      omega
  · refine ⟨(false, zeros padding ++ Text.ofNat n.natAbs), ?_, ?_⟩
    · rw [if_neg hn]
      exact Exponent.present (Or.inl rfl) Grammar.Sign.plus hdigits
    · rw [Grammar.power, hvalue]
      omega

/-- Digits the first of which is not zero. -/
structure Significant (digits : Text) : Prop where
  digit : ∀ c ∈ digits, c.isDigit = true
  first : ∃ c t, digits = c :: t ∧ c ≠ '0'

namespace Significant

variable {digits : Text}

/-- Zeros behind the digits leave them the whole part of a number. -/
theorem whole_append_zeros
    (h : Significant digits)
    (count : ℕ) :
    Whole (digits ++ zeros count) := by
  obtain ⟨c, t, rfl, hc⟩ := h.first
  refine Whole.digits (h.digit c List.mem_cons_self) hc ?_
  intro d hd
  rcases List.mem_append.mp hd with hd | hd
  · exact h.digit d (List.mem_cons_of_mem c hd)
  · exact isDigit_of_mem_zeros hd

/-- The first of the digits are the whole part of a number. -/
theorem whole_take
    (h : Significant digits)
    (count : ℕ) :
    Whole (digits.take (count + 1)) := by
  obtain ⟨c, t, rfl, hc⟩ := h.first
  rw [List.take_succ_cons]
  refine Whole.digits (h.digit c List.mem_cons_self) hc ?_
  intro d hd
  exact h.digit d (List.mem_cons_of_mem c (List.mem_of_mem_take hd))

/-- The digits behind the first ones are digits, if there are any. -/
theorem digits_drop
    (h : Significant digits)
    {count : ℕ}
    (hcount : count < digits.length) :
    Digits (digits.drop count) := by
  refine ⟨by simp; omega, ?_⟩
  intro d hd
  exact h.digit d (List.mem_of_mem_drop hd)

/-- Below one, zeros stand between the point and the digits. -/
theorem spells_small
    (h : Significant digits)
    (count : ℕ) :
    Spells (Text.ofString "0." ++ zeros count ++ digits)
      (digitsValue digits * 10 ^ (-(count : ℤ) - digits.length)) := by
  have hfraction : Digits (zeros count ++ digits) := by
    obtain ⟨c, t, hcons, -⟩ := h.first
    refine ⟨by simp [hcons], ?_⟩
    intro d hd
    rcases List.mem_append.mp hd with hd | hd
    · exact isDigit_of_mem_zeros hd
    · exact h.digit d hd
  have hzero : digitsValue [('0' : CodePoint)] = 0 := rfl
  refine ⟨_, _, _, _, _, ?_, Whole.zero, Fraction.present hfraction, Exponent.absent, ?_, ?_⟩
  · simp [Text.ofString]
  · simp [hfraction.1]
  · rw [digitsValue_append, hzero, digitsValue_append, digitsValue_zeros, List.length_append,
      length_zeros]
    simp only [Grammar.power]
    push_cast
    ring_nf

/-- An integer has zeros behind its digits, and one behind the point. -/
theorem spells_integer
    (h : Significant digits)
    (count : ℕ) :
    Spells (digits ++ zeros count ++ Text.ofString "." ++ zeros 1)
      (digitsValue digits * 10 ^ (count : ℤ)) := by
  have hfraction : Digits (zeros 1) := ⟨by decide, fun d hd => isDigit_of_mem_zeros hd⟩
  refine ⟨_, _, _, _, _, ?_, h.whole_append_zeros count, Fraction.present hfraction,
    Exponent.absent, ?_, ?_⟩
  · simp [Text.ofString]
  · simp [hfraction.1]
  · rw [digitsValue_append, digitsValue_append, digitsValue_zeros, digitsValue_zeros, length_zeros,
      length_zeros]
    simp only [Grammar.power, zero_sub]
    push_cast
    rw [zpow_natCast, add_zero, add_zero, mul_assoc]
    norm_num

/-- Otherwise the point cuts the digits. -/
theorem spells_cut
    (h : Significant digits)
    {count : ℕ}
    (hcount : count + 1 < digits.length) :
    Spells (digits.take (count + 1) ++ Text.ofString "." ++ digits.drop (count + 1))
      (digitsValue digits * 10 ^ ((count : ℤ) + 1 - digits.length)) := by
  have hfraction := h.digits_drop hcount
  refine ⟨_, _, _, _, _, ?_, h.whole_take count, Fraction.present hfraction,
    Exponent.absent, ?_, ?_⟩
  · simp [Text.ofString]
  · simp [hfraction.1]
  · rw [List.take_append_drop, List.length_drop]
    simp only [Grammar.power]
    congr 2
    omega

/-- **Positional notation** puts the first digit at the place of the exponent. -/
theorem spells_plainText
    (h : Significant digits)
    (exponent : ℤ) :
    Spells (plainText digits exponent)
      (digitsValue digits * 10 ^ (exponent - digits.length + 1)) := by
  unfold plainText
  split
  · rename_i hexponent
    have hsmall := h.spells_small ((-exponent).toNat - 1)
    have hpower : -(((-exponent).toNat - 1 : ℕ) : ℤ) - digits.length =
        exponent - digits.length + 1 := by
      omega
    rw [hpower] at hsmall
    exact hsmall
  · rename_i hexponent
    obtain ⟨k, rfl⟩ := Int.eq_ofNat_of_zero_le (not_lt.mp hexponent)
    simp only [Int.toNat_natCast]
    rcases Nat.lt_or_ge (k + 1) digits.length with hcut | hinteger
    · have hpadding : zeros (k + 1 - digits.length) = [] := by
        rw [Nat.sub_eq_zero_of_le hcut.le]
        rfl
      have hfraction : (digits.drop (k + 1)).isEmpty = false := by
        simp
        omega
      have hspells := h.spells_cut hcut
      have hpower : (k : ℤ) + 1 - digits.length = k - digits.length + 1 := by omega
      rw [hpower] at hspells
      simpa [hpadding, hfraction] using hspells
    · have hlength : (digits ++ zeros (k + 1 - digits.length)).length = k + 1 := by
        rw [List.length_append, length_zeros]
        omega
      have hspells := h.spells_integer (k + 1 - digits.length)
      have hpower : ((k + 1 - digits.length : ℕ) : ℤ) = k - digits.length + 1 := by omega
      rw [hpower] at hspells
      rw [List.take_of_length_le hlength.le, List.drop_of_length_le hlength.le]
      exact hspells

/-- The digits behind the first one are a fraction, if there are any. -/
theorem fraction_drop_one
    (h : Significant digits) :
    Fraction (if digits.length ≤ 1 then [] else Text.ofString "." ++ digits.drop 1)
      (digits.drop 1) := by
  by_cases hlength : digits.length ≤ 1
  · rw [if_pos hlength, List.drop_of_length_le hlength]
    exact Fraction.absent
  · rw [if_neg hlength]
    exact Fraction.present (h.digits_drop (not_le.mp hlength))

/-- **Exponent notation** puts the point behind the first digit. -/
theorem spells_exponentText
    (h : Significant digits)
    (format : Binary64.DecimalFormat)
    (exponent : ℤ) :
    Spells (exponentText format digits exponent)
      (digitsValue digits * 10 ^ (exponent - digits.length + 1)) := by
  obtain ⟨mark, hmark, hpower⟩ :=
    exists_exponent (format.leastExponentDigits - (Text.ofNat exponent.natAbs).length) exponent
  have hlength : 1 ≤ digits.length := by
    obtain ⟨c, t, hcons, -⟩ := h.first
    simp [hcons]
  refine ⟨_, _, _, _, _, ?_, h.whole_take 0, h.fraction_drop_one, hmark, ?_, ?_⟩
  · simp [exponentText]
  · simp
  · rw [List.take_append_drop, hpower, List.length_drop]
    congr 2
    omega

end Significant

/-! ## The texts of numbers -/

/-- The digits of a positive number without the zeros at their end are significant. -/
theorem significant_dropTrailingZeros
    {n : ℕ}
    (hn : n ≠ 0) :
    Significant (dropTrailingZeros (Text.ofNat n)) := by
  obtain ⟨count, hsplit⟩ := exists_eq_dropTrailingZeros (Text.ofNat n)
  obtain ⟨c, t, hcons, hc⟩ := exists_ofNat_eq_cons hn
  constructor
  · intro d hd
    apply isDigit_of_mem_ofNat (n := n)
    rw [hsplit]
    exact List.mem_append_left _ hd
  · cases hkept : dropTrailingZeros (Text.ofNat n) with
    | nil =>
        rw [hkept, List.nil_append] at hsplit
        have hmem : c ∈ zeros count := by
          rw [← hsplit, hcons]
          exact List.mem_cons_self
        exact absurd (List.eq_of_mem_replicate hmem) hc
    | cons d u =>
        rw [hkept, hcons, List.cons_append, List.cons.injEq] at hsplit
        exact ⟨d, u, rfl, hsplit.1 ▸ hc⟩

/-- Without the zeros at its end a number is the digits that are left, shifted by the zeros. -/
theorem natCast_eq_dropTrailingZeros
    (n : ℕ)
    (power : ℤ) :
    (n : ℚ) * 10 ^ power =
      digitsValue (dropTrailingZeros (Text.ofNat n)) *
        10 ^ (power + (Text.ofNat n).length - 1 - (dropTrailingZeros (Text.ofNat n)).length + 1) := by
  obtain ⟨count, hsplit⟩ := exists_eq_dropTrailingZeros (Text.ofNat n)
  have hvalue := congrArg digitsValue hsplit
  have hlength := congrArg List.length hsplit
  rw [digitsValue_append, digitsValue_ofNat, digitsValue_zeros, length_zeros, add_zero] at hvalue
  rw [List.length_append, length_zeros] at hlength
  have hpower :
      power + (Text.ofNat n).length - 1 - (dropTrailingZeros (Text.ofNat n)).length + 1 =
        count + power := by
    omega
  rw [hpower, zpow_add₀ (by norm_num), zpow_natCast, ← mul_assoc]
  congr 1
  exact_mod_cast hvalue

/-- The text of zero spells it. -/
theorem spells_zero :
    Spells (Text.ofString "0.0") 0 := by
  have hdigits : Digits [('0' : CodePoint)] := ⟨by decide, by decide⟩
  refine ⟨_, _, _, _, _, ?_, Whole.zero, Fraction.present hdigits, Exponent.absent, ?_, ?_⟩
  · rfl
  · simp
  · have hvalue : digitsValue [('0' : CodePoint), ('0' : CodePoint)] = 0 := rfl
    simp [hvalue]

/-- The text of a finite magnitude spells a decimal that rounds to it. -/
theorem exists_spells_magnitudeText
    (format : Binary64.DecimalFormat)
    (rank : Fin infinityRank) :
    ∃ q, Spells (Binary64.magnitudeText format rank) q ∧ Rounds false q (.finite false rank) := by
  by_cases hzero : (rank : ℕ) = 0
  · refine ⟨0, ?_, ?_⟩
    · rw [Binary64.magnitudeText, if_pos hzero]
      exact spells_zero
    · have hnearest : Binary64.Nearest 0 (rank : ℕ) := by
        rw [hzero, ← Binary64.magnitude_zero]
        exact Binary64.Nearest.of_magnitude 0
      have hround := Binary64.rounds_ofRank false hnearest
      rw [Binary64.ofRank, dif_pos rank.isLt] at hround
      exact hround
  · have hsignificant := significant_dropTrailingZeros (Binary64.shortest_ne_zero hzero)
    refine ⟨(shortest rank).1 * 10 ^ (shortest rank).2, ?_, Binary64.rounds_shortest rank⟩
    rw [natCast_eq_dropTrailingZeros, Binary64.magnitudeText, if_neg hzero]
    simp only
    split
    · exact hsignificant.spells_plainText _
    · exact hsignificant.spells_exponentText format _

/-- **The text of a finite number** denotes it. -/
theorem exists_number_format
    (format : Binary64.DecimalFormat)
    {x : Binary64}
    (h : x.isFinite = true) :
    ∃ l, Number (x.format format) l ∧ Denotes l (float x) := by
  cases x with
  | finite negative rank =>
      obtain ⟨q, hspells, hround⟩ := exists_spells_magnitudeText format rank
      have htext : (Binary64.finite negative rank).format format =
          (if negative then [('-' : CodePoint)] else []) ++ Binary64.magnitudeText format rank := by
        cases negative <;> rfl
      rw [htext]
      exact hspells.exists_number hround.of_finite h
  | infinite negative =>
      cases h
  | notANumber =>
      cases h

/-- The digits of a number are the whole part of one. -/
theorem whole_ofNat
    (n : ℕ) :
    Whole (Text.ofNat n) := by
  by_cases hn : n = 0
  · subst hn
    exact Whole.zero
  · obtain ⟨c, t, hcons, hc⟩ := exists_ofNat_eq_cons hn
    have hdigit : ∀ d ∈ c :: t, d.isDigit = true := by
      intro d hd
      apply isDigit_of_mem_ofNat (n := n)
      rw [hcons]
      exact hd
    rw [hcons]
    exact Whole.digits (hdigit c List.mem_cons_self) hc fun d hd =>
      hdigit d (List.mem_cons_of_mem c hd)

/-- **The text of an integer** that is not too long denotes it. -/
theorem exists_number_ofInt
    {n : ℤ}
    (h : n.natAbs < 10 ^ digitLimit) :
    ∃ l, Number (Text.ofInt n) l ∧ Denotes l (int n) := by
  have hlimit : (Text.ofNat n.natAbs).length ≤ digitLimit :=
    (length_ofNat_le_iff (by decide)).mpr h
  refine ⟨⟨decide (n < 0), Text.ofNat n.natAbs, [], none⟩, ?_, ?_⟩
  · have htext : Text.ofInt n =
        (if decide (n < 0) then [('-' : CodePoint)] else []) ++
          (Text.ofNat n.natAbs ++ ([] ++ [])) := by
      simp only [Text.ofInt, decide_eq_true_eq, List.append_nil]
      split <;> rfl
    rw [htext]
    exact Number.mk (whole_ofNat n.natAbs) Fraction.absent Exponent.absent
  · have hsign : n = if decide (n < 0) then -(n.natAbs : ℤ) else n.natAbs := by
      simp only [decide_eq_true_eq]
      split <;> omega
    have hdenotes : Denotes ⟨decide (n < 0), Text.ofNat n.natAbs, [], none⟩ _ :=
      Denotes.integer rfl rfl hlimit
    rw [digitsValue_ofNat, ← hsign] at hdenotes
    exact hdenotes

end CurlRequest.Json
