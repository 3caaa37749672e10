import CurlRequest.Json.Truth
import CurlRequest.Proofs.Binary64.Rounding
import CurlRequest.Proofs.Text.Surrogates

/-!
# What means yes and what means no

Besides the booleans there are two numbers that mean yes or no, in either kind of number, and a few
words.  For a floating point number it matters which rational it is, so both zeros mean no.  For a
word the case of ASCII letters does not matter, and that is all that is forgiven: outer blanks are
not, and no other letter becomes one of a word.

**Results.**
* `Binary64.toInt?_eq_some_iff`: the integer that a floating point number is.
* `eq_of_mem_truthWords`: no word means both.
* `truth_eq_ok_iff`: a value is read as what it means, and is refused if it means nothing.
-/

namespace CurlRequest

/-! ## Integers among floating point numbers -/

namespace Binary64

/-- The rational that a finite number is. -/
def value? : Binary64 → Option ℚ
  | .finite negative rank => some (if negative then -magnitude rank else magnitude rank)
  | _ => none

/-- A magnitude is the quotient that is computed for its rank. -/
theorem magnitude_eq_ratio
    (rank : ℕ) :
    0 < (ratio rank).2 ∧ magnitude rank = (ratio rank).1 / (ratio rank).2 := by
  have hratio : ratio rank =
      if 0 ≤ scale rank then (significand rank * 2 ^ (scale rank).toNat, 1)
      else (significand rank, 2 ^ (-scale rank).toNat) := rfl
  rw [hratio, magnitude]
  split
  · rename_i hscale
    obtain ⟨k, hk⟩ := Int.eq_ofNat_of_zero_le hscale
    refine ⟨one_pos, ?_⟩
    rw [hk, Int.toNat_natCast, zpow_natCast]
    push_cast
    rw [div_one]
  · rename_i hscale
    obtain ⟨k, hk⟩ := Int.eq_ofNat_of_zero_le (by omega : 0 ≤ -scale rank)
    refine ⟨Nat.two_pow_pos _, ?_⟩
    rw [hk, Int.toNat_natCast, ← neg_neg (scale rank), hk, zpow_neg, zpow_natCast]
    push_cast
    rw [div_eq_mul_inv]

/-- A quotient is an integer iff nothing remains. -/
theorem natCast_div_eq_intCast_iff
    {num den : ℕ}
    {n : ℤ}
    (hden : 0 < den) :
    (num : ℚ) / den = n
      ↔
    num % den = 0 ∧ ((num / den : ℕ) : ℤ) = n := by
  have hdenQ : (den : ℚ) ≠ 0 := by exact_mod_cast hden.ne'
  rw [div_eq_iff hdenQ]
  constructor
  · intro h
    have hnum : (num : ℤ) = n * den := by exact_mod_cast h
    refine ⟨?_, ?_⟩
    · exact Nat.mod_eq_zero_of_dvd (Int.natCast_dvd_natCast.mp (hnum ▸ Dvd.intro_left n rfl))
    · rw [Int.natCast_ediv, hnum, Int.mul_ediv_cancel _ (by exact_mod_cast hden.ne')]
  · rintro ⟨hrest, rfl⟩
    have hnum : num / den * den = num := Nat.div_mul_cancel (Nat.dvd_of_mod_eq_zero hrest)
    exact_mod_cast hnum.symm

/-- **The integer that a number is** is the rational that it is. -/
theorem toInt?_eq_some_iff
    {x : Binary64}
    {n : ℤ} :
    x.toInt? = some n
      ↔
    x.value? = some (n : ℚ) := by
  cases x with
  | infinite negative =>
      simp [toInt?, value?]
  | notANumber =>
      simp [toInt?, value?]
  | finite negative rank =>
      obtain ⟨hden, hmagnitude⟩ := magnitude_eq_ratio rank
      simp only [toInt?, value?, hmagnitude, Option.some.injEq]
      cases negative with
      | false =>
          simp only [Bool.false_eq_true, if_false]
          rw [natCast_div_eq_intCast_iff hden]
          split
          · rename_i hrest
            simp only [Option.some.injEq, hrest, true_and]
          · rename_i hrest
            simp only [reduceCtorEq, hrest, false_and]
      | true =>
          simp only [if_true]
          rw [neg_eq_iff_eq_neg, ← Int.cast_neg, natCast_div_eq_intCast_iff hden]
          split
          · rename_i hrest
            simp only [Option.some.injEq, hrest, true_and, neg_eq_iff_eq_neg]
          · rename_i hrest
            simp only [reduceCtorEq, hrest, false_and]

end Binary64

namespace Json

/-! ## Meaning -/

/-- The words that mean yes, or those that mean no. -/
def truthWords (b : Bool) : List Text :=
  if b then yesWords else noWords

/-- **What a value means** where a boolean is wanted. -/
inductive Means : Json → Bool → Prop
  | bool (b : Bool) : Means (.bool b) b
  | int (b : Bool) : Means (.int b.toInt) b
  | float {x : Binary64} {b : Bool} (hx : x.value? = some (b.toInt : ℚ)) : Means (.float x) b
  | word {t : Text} {b : Bool} (ht : t.map asciiLower ∈ truthWords b) : Means (.str t) b

/-- No word is among both. -/
theorem eq_of_mem_truthWords
    {word : Text}
    {b b' : Bool}
    (h : word ∈ truthWords b)
    (h' : word ∈ truthWords b') :
    b = b' := by
  have hdisjoint : ∀ yes ∈ yesWords, yes ∉ noWords := by decide +kernel
  cases b with
  | false =>
      cases b' with
      | false =>
          rfl
      | true =>
          exact absurd h (hdisjoint _ h')
  | true =>
      cases b' with
      | false =>
          exact absurd h' (hdisjoint _ h)
      | true =>
          rfl

/-- Letter case aside, a surrogate stays what it is, and there is none in a word. -/
theorem hasSurrogate_of_mem_truthWords
    {t : Text}
    {b : Bool}
    (h : t.map asciiLower ∈ truthWords b) :
    t.hasSurrogate = false := by
  have hwords : ∀ word ∈ truthWords b, word.hasSurrogate = false := by
    cases b <;> decide +kernel
  have hlowered := Text.hasSurrogate_eq_false_iff.mp (hwords _ h)
  rw [Text.hasSurrogate_eq_false_iff]
  intro c hc
  have hlower := hlowered _ (List.mem_map_of_mem hc)
  unfold asciiLower at hlower
  split at hlower
  · rename_i hcapital
    rw [CodePoint.isSurrogate, decide_eq_false_iff_not]
    omega
  · exact hlower

/-! ## Reading -/

/-- A word is read as what it means. -/
theorem wordTruth_eq_ok_iff
    {t : Text}
    {b : Bool} :
    wordTruth t = .ok b
      ↔
    t.map asciiLower ∈ truthWords b := by
  simp only [wordTruth, List.contains_iff_mem]
  constructor
  · intro h
    split at h
    · cases h
    · split at h
      · rename_i hyes
        cases h
        exact hyes
      · split at h
        · rename_i hno
          cases h
          exact hno
        · cases h
  · intro h
    rw [hasSurrogate_of_mem_truthWords h, if_neg Bool.false_ne_true]
    cases b with
    | true =>
        have hyes : t.map asciiLower ∈ yesWords := h
        rw [if_pos hyes]
    | false =>
        have hno : t.map asciiLower ∈ noWords := h
        have hyes : t.map asciiLower ∉ yesWords := by
          intro hyes
          cases eq_of_mem_truthWords (b := true) hyes h
        rw [if_neg hyes, if_pos hno]

/-- An integer is read as what it means. -/
theorem intTruth_eq_ok_iff
    {n : ℤ}
    {b : Bool} :
    intTruth n = .ok b
      ↔
    n = b.toInt := by
  unfold intTruth
  split
  · rename_i hzero
    subst hzero
    cases b <;> simp
  · split
    · rename_i hone
      subst hone
      cases b <;> simp
    · rename_i hzero hone
      cases b <;> simp [hzero, hone]

/-- **A value is read as what it means.**  The bounds on numbers do not matter for the two that mean
something. -/
theorem truth_eq_ok_iff
    {v : Json}
    {b : Bool} :
    v.truth = .ok b
      ↔
    v.Means b := by
  have hbounds (b : Bool) : -0x8000000000000000 < b.toInt ∧ b.toInt < 0x8000000000000000 := by
    cases b <;> decide
  constructor
  · intro h
    cases v with
    | bool c =>
        cases h
        exact .bool b
    | int n =>
        simp only [truth] at h
        split at h
        · rw [intTruth_eq_ok_iff.mp h]
          exact .int b
        · cases h
    | float x =>
        simp only [truth] at h
        split at h
        · rename_i n hn
          split at h
          · rw [intTruth_eq_ok_iff.mp h] at hn
            exact .float (Binary64.toInt?_eq_some_iff.mp hn)
          · cases h
        · cases h
    | str t =>
        exact .word (wordTruth_eq_ok_iff.mp h)
    | null =>
        cases h
    | arr items =>
        cases h
    | obj members =>
        cases h
  · intro h
    cases h with
    | bool =>
        rfl
    | int =>
        simp only [truth]
        rw [if_pos ⟨(hbounds b).1.le, (hbounds b).2⟩, intTruth_eq_ok_iff.mpr rfl]
    | float hx =>
        simp only [truth, Binary64.toInt?_eq_some_iff.mpr hx]
        rw [if_pos (hbounds b), intTruth_eq_ok_iff.mpr rfl]
    | word ht =>
        exact wordTruth_eq_ok_iff.mpr ht

end Json

end CurlRequest
