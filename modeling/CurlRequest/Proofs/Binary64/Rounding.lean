import CurlRequest.Binary64
import Mathlib.Algebra.Order.Field.Power
import Mathlib.Data.Int.Log
import Mathlib.Data.Rat.Floor
import Mathlib.Tactic.FieldSimp
import Mathlib.Tactic.Linarith
import Mathlib.Tactic.NormNum
import Mathlib.Tactic.Positivity
import Mathlib.Tactic.Ring

/-!
# Decimals are rounded to the nearest number

The magnitude of a rank is a rational number, and magnitudes grow with the rank.  What it means
that a rational rounds to a floating point number is said with magnitudes alone: no finite number
is nearer, of two equally near ones the even one is taken, and from half a unit above the largest
finite number on the result is infinite.

**Results.**
* `magnitude_strictMono`: ranks are ordered as their magnitudes are.
* `nearest_rankOfRatio`: the rank that is computed for a quotient is the nearest one.
* `rounds_ofDecimal`: every decimal is rounded as it should be.
* `Rounds.unique`: a rational rounds to one number only.
-/

namespace CurlRequest.Binary64

/-! ## Magnitudes -/

/-- The magnitude of a rank. -/
def magnitude (rank : ℕ) : ℚ :=
  significand rank * 2 ^ scale rank

/-- Half a unit above the largest finite number. -/
def overflowBound : ℚ :=
  (2 ^ 54 - 1) * 2 ^ 970

theorem significand_def
    (rank : ℕ) :
    significand rank = if rank < 2 ^ 52 then rank else 2 ^ 52 + rank % 2 ^ 52 :=
  rfl

theorem scale_def
    (rank : ℕ) :
    scale rank = if rank < 2 ^ 52 then -1074 else ((rank / 2 ^ 52 : ℕ) : ℤ) - 1075 :=
  rfl

theorem significand_lt
    (rank : ℕ) :
    significand rank < 2 ^ 53 := by
  simp only [significand_def]
  split <;> omega

theorem le_scale
    (rank : ℕ) :
    -1074 ≤ scale rank := by
  simp only [scale_def]
  split <;> omega

/-- Neighbouring ranks differ by one unit of the lower one. -/
theorem magnitude_succ
    (rank : ℕ) :
    magnitude (rank + 1) = magnitude rank + 2 ^ scale rank := by
  by_cases hcarry : 2 ^ 52 ≤ rank ∧ rank % 2 ^ 52 = 2 ^ 52 - 1
  · have hscale : scale (rank + 1) = scale rank + 1 := by
      simp only [scale_def]
      rw [if_neg (by omega), if_neg (by omega)]
      omega
    have hrank : significand rank = 2 ^ 53 - 1 := by
      simp only [significand_def]
      rw [if_neg (by omega)]
      omega
    have hnext : significand (rank + 1) = 2 ^ 52 := by
      simp only [significand_def]
      rw [if_neg (by omega)]
      omega
    unfold magnitude
    rw [hscale, hrank, hnext, zpow_add₀ two_ne_zero]
    push_cast
    ring
  · have hscale : scale (rank + 1) = scale rank := by
      simp only [scale_def]
      split <;> split <;> omega
    have hsignificand : significand (rank + 1) = significand rank + 1 := by
      simp only [significand_def]
      split <;> split <;> omega
    unfold magnitude
    rw [hscale, hsignificand]
    push_cast
    ring

/-- **Ranks are ordered as their magnitudes are.** -/
theorem magnitude_strictMono :
    StrictMono magnitude := by
  apply strictMono_nat_of_lt_succ
  intro rank
  rw [magnitude_succ]
  have hpos : (0 : ℚ) < 2 ^ scale rank := by positivity
  linarith

theorem magnitude_zero :
    magnitude 0 = 0 := by
  simp [magnitude, significand]

/-- The rank of a significand of up to 53 bits at a scale: the significand of a normal number
carries its leading bit into the binade. -/
theorem magnitude_of_parts
    {m : ℕ}
    {power : ℤ}
    (hm : m ≤ 2 ^ 53)
    (hpower : -1074 ≤ power)
    (hnormal : 2 ^ 52 ≤ m ∨ power = -1074) :
    magnitude ((power + 1074).toNat * 2 ^ 52 + m) = m * 2 ^ power := by
  obtain ⟨k, rfl⟩ : ∃ k : ℕ, power = (k : ℤ) - 1074 := ⟨(power + 1074).toNat, by omega⟩
  have hk : ((k : ℤ) - 1074 + 1074).toNat = k := by omega
  rw [hk]
  unfold magnitude
  rcases Nat.lt_or_ge m (2 ^ 52) with hsmall | hlarge
  · have hzero : k = 0 := by omega
    subst hzero
    have hsignificand : significand (0 * 2 ^ 52 + m) = m := by
      simp only [significand_def]
      rw [if_pos (by omega)]
      omega
    have hscale : scale (0 * 2 ^ 52 + m) = -1074 := by
      simp only [scale_def]
      rw [if_pos (by omega)]
    rw [hsignificand, hscale]
    norm_num
  · rcases Nat.lt_or_ge m (2 ^ 53) with hfits | hcarry
    · have hsignificand : significand (k * 2 ^ 52 + m) = m := by
        simp only [significand_def]
        rw [if_neg (by omega)]
        omega
      have hscale : scale (k * 2 ^ 52 + m) = (k : ℤ) - 1074 := by
        simp only [scale_def]
        rw [if_neg (by omega)]
        omega
      rw [hsignificand, hscale]
    · have heq : m = 2 ^ 53 := by omega
      subst heq
      have hsignificand : significand (k * 2 ^ 52 + 2 ^ 53) = 2 ^ 52 := by
        simp only [significand_def]
        rw [if_neg (by omega)]
        omega
      have hscale : scale (k * 2 ^ 52 + 2 ^ 53) = (k : ℤ) - 1074 + 1 := by
        simp only [scale_def]
        rw [if_neg (by omega)]
        omega
      rw [hsignificand, hscale, zpow_add₀ two_ne_zero]
      push_cast
      ring

/-! ## The nearest rank -/

/-- A rank whose magnitude is nearest to a rational, and even if another is equally near. -/
structure Nearest (q : ℚ) (rank : ℕ) : Prop where
  le : ∀ other, |magnitude rank - q| ≤ |magnitude other - q|
  even : ∀ other, |magnitude other - q| = |magnitude rank - q| → other ≠ rank → rank % 2 = 0

namespace Nearest

variable {q : ℚ} {rank other : ℕ}

/-- A rational that is a magnitude is nearest to the rank of it. -/
theorem of_magnitude
    (rank : ℕ) :
    Nearest (magnitude rank) rank where
  le other := by
    rw [sub_self, abs_zero]
    exact abs_nonneg _
  even other hother hne := by
    rw [sub_self, abs_zero, abs_eq_zero, sub_eq_zero] at hother
    exact absurd (magnitude_strictMono.injective hother) hne

/-- A rational lies below the middle between its nearest rank and a higher one. -/
theorem le_middle
    (h : Nearest q rank)
    (hlt : rank < other) :
    q ≤ (magnitude rank + magnitude other) / 2 := by
  have hstep : magnitude rank < magnitude other := magnitude_strictMono hlt
  have hnear := h.le other
  by_contra hq
  rw [not_le] at hq
  rw [abs_sub_comm, abs_of_pos (by linarith)] at hnear
  rcases le_abs.mp hnear with hle | hle <;> linarith

/-- A rational lies above the middle between its nearest rank and a lower one. -/
theorem middle_le
    (h : Nearest q rank)
    (hlt : other < rank) :
    (magnitude other + magnitude rank) / 2 ≤ q := by
  have hstep : magnitude other < magnitude rank := magnitude_strictMono hlt
  have hnear := h.le other
  by_contra hq
  rw [not_le] at hq
  rw [abs_of_pos (by linarith)] at hnear
  rcases le_abs.mp hnear with hle | hle <;> linarith

/-- Only an even rank is nearest to the middle between it and another one. -/
theorem even_of_middle
    (h : Nearest q rank)
    (hne : other ≠ rank)
    (hq : q = (magnitude rank + magnitude other) / 2) :
    rank % 2 = 0 := by
  apply h.even other _ hne
  have hleft : magnitude other - q = (magnitude other - magnitude rank) / 2 := by
    rw [hq]
    ring
  have hright : magnitude rank - q = -((magnitude other - magnitude rank) / 2) := by
    rw [hq]
    ring
  rw [hleft, hright, abs_neg]

/-- Of two nearest ranks neither is the lower one: they would both be even, and the rank between
them would be nearer. -/
theorem not_below
    (h : Nearest q rank)
    (h' : Nearest q other) :
    ¬ rank < other := by
  intro hlt
  have hmiddle : q = (magnitude rank + magnitude other) / 2 :=
    le_antisymm (h.le_middle hlt) (h'.middle_le hlt)
  have hrank : rank % 2 = 0 := h.even_of_middle (by omega) hmiddle
  have hother : other % 2 = 0 := by
    have hsame : q = (magnitude other + magnitude rank) / 2 := by
      rw [hmiddle, add_comm]
    exact h'.even_of_middle (by omega) hsame
  have hnext : magnitude (rank + 1) < magnitude other := magnitude_strictMono (by omega)
  have hle : q ≤ (magnitude rank + magnitude (rank + 1)) / 2 := h.le_middle (by omega)
  linarith

/-- **There is only one nearest rank.** -/
theorem unique
    (h : Nearest q rank)
    (h' : Nearest q other) :
    rank = other := by
  have hle := h.not_below h'
  have hge := h'.not_below h
  omega

end Nearest

/-- The bound lies in the middle between the last finite rank and the first one beyond. -/
theorem overflowBound_eq :
    overflowBound = (magnitude (infinityRank - 1) + magnitude infinityRank) / 2 := by
  have hlast : magnitude (infinityRank - 1) = ((2 ^ 53 - 1 : ℕ) : ℚ) * 2 ^ (971 : ℤ) := by
    have hrank : infinityRank - 1 = ((971 : ℤ) + 1074).toNat * 2 ^ 52 + (2 ^ 53 - 1) := by decide
    rw [hrank]
    exact magnitude_of_parts (by omega) (by omega) (by omega)
  have hfirst : magnitude infinityRank = ((2 ^ 53 : ℕ) : ℚ) * 2 ^ (971 : ℤ) := by
    have hrank : infinityRank = ((971 : ℤ) + 1074).toNat * 2 ^ 52 + 2 ^ 53 := by decide
    rw [hrank]
    exact magnitude_of_parts (by omega) (by omega) (by omega)
  have hscale : (2 : ℚ) ^ (971 : ℤ) = 2 * 2 ^ 970 := by
    rw [← pow_succ', ← zpow_natCast]
    rfl
  rw [hlast, hfirst, hscale, overflowBound]
  generalize (2 : ℚ) ^ 970 = unit
  push_cast
  ring

/-- The nearest rank is finite for exactly the rationals below the bound. -/
theorem Nearest.lt_infinityRank_iff
    {q : ℚ}
    {rank : ℕ}
    (h : Nearest q rank) :
    rank < infinityRank
      ↔
    q < overflowBound := by
  have hpos : 0 < infinityRank := by decide
  rw [overflowBound_eq]
  constructor
  · intro hlt
    have hrank : magnitude rank ≤ magnitude (infinityRank - 1) :=
      magnitude_strictMono.monotone (by omega)
    have hmiddle := h.le_middle hlt
    by_contra hq
    rw [not_lt] at hq
    -- only the last finite rank can be nearest to the bound, and it is odd
    have hlast : rank = infinityRank - 1 := magnitude_strictMono.injective (by linarith)
    have heven : rank % 2 = 0 := by
      have hmiddle' : q = (magnitude rank + magnitude infinityRank) / 2 := by
        rw [← hlast] at hq
        linarith
      exact h.even_of_middle (by omega) hmiddle'
    rw [hlast] at heven
    exact absurd heven (by decide)
  · intro hq
    by_contra hrank
    have hinfinite : magnitude infinityRank ≤ magnitude rank :=
      magnitude_strictMono.monotone (by omega)
    have hmiddle : (magnitude (infinityRank - 1) + magnitude rank) / 2 ≤ q :=
      h.middle_le (by omega)
    linarith

/-! ## Rounding a quotient -/

/-- The distance of an integer from a number between two neighbouring integers. -/
theorem distance_cases
    (k whole : ℤ)
    (part : ℚ)
    (hpart0 : 0 ≤ part)
    (hpart1 : part < 1) :
    (k ≤ whole ∧ |(k : ℚ) - (whole + part)| = part + (whole - k)) ∨
      (whole + 1 ≤ k ∧ |(k : ℚ) - (whole + part)| = k - whole - part) := by
  rcases (by omega : k ≤ whole ∨ whole + 1 ≤ k) with hle | hle
  · have hleQ : (k : ℚ) ≤ whole := by exact_mod_cast hle
    refine Or.inl ⟨hle, ?_⟩
    rw [abs_sub_comm, abs_of_nonneg (by linarith)]
    ring
  · have hleQ : (whole : ℚ) + 1 ≤ k := by exact_mod_cast hle
    refine Or.inr ⟨hle, ?_⟩
    rw [abs_of_nonneg (by linarith)]
    ring

/-- An integer that is nearest to a rational, and even if another is equally near. -/
structure NearestInteger (x : ℚ) (m : ℤ) : Prop where
  le : ∀ k : ℤ, |(m : ℚ) - x| ≤ |(k : ℚ) - x|
  even : ∀ k : ℤ, |(k : ℚ) - x| = |(m : ℚ) - x| → k ≠ m → m % 2 = 0

/-- Below the half the lower neighbour is the nearest integer. -/
theorem NearestInteger.lower
    {whole : ℤ}
    {part : ℚ}
    (hpart0 : 0 ≤ part)
    (hhalf : 2 * part < 1) :
    NearestInteger (whole + part) whole := by
  have hsame : |(whole : ℚ) - (whole + part)| = part := by
    rw [abs_sub_comm, abs_of_nonneg (by linarith)]
    ring
  constructor
  · intro k
    rw [hsame]
    rcases distance_cases k whole part hpart0 (by linarith) with ⟨hle, heq⟩ | ⟨hle, heq⟩
    · have hleQ : (k : ℚ) ≤ whole := by exact_mod_cast hle
      linarith
    · have hleQ : (whole : ℚ) + 1 ≤ k := by exact_mod_cast hle
      linarith
  · intro k hk hne
    exfalso
    rw [hsame] at hk
    rcases distance_cases k whole part hpart0 (by linarith) with ⟨hle, heq⟩ | ⟨hle, heq⟩
    · have hleQ : (k : ℚ) + 1 ≤ whole := by exact_mod_cast lt_of_le_of_ne hle hne
      linarith
    · have hleQ : (whole : ℚ) + 1 ≤ k := by exact_mod_cast hle
      linarith

/-- Above the half the upper neighbour is the nearest integer. -/
theorem NearestInteger.upper
    {whole : ℤ}
    {part : ℚ}
    (hpart1 : part < 1)
    (hhalf : 1 < 2 * part) :
    NearestInteger (whole + part) (whole + 1) := by
  have hsame : |((whole + 1 : ℤ) : ℚ) - (whole + part)| = 1 - part := by
    push_cast
    rw [abs_of_nonneg (by linarith)]
    ring
  constructor
  · intro k
    rw [hsame]
    rcases distance_cases k whole part (by linarith) hpart1 with ⟨hle, heq⟩ | ⟨hle, heq⟩
    · have hleQ : (k : ℚ) ≤ whole := by exact_mod_cast hle
      linarith
    · have hleQ : (whole : ℚ) + 1 ≤ k := by exact_mod_cast hle
      linarith
  · intro k hk hne
    exfalso
    rw [hsame] at hk
    rcases distance_cases k whole part (by linarith) hpart1 with ⟨hle, heq⟩ | ⟨hle, heq⟩
    · have hleQ : (k : ℚ) ≤ whole := by exact_mod_cast hle
      linarith
    · have hleQ : (whole : ℚ) + 1 + 1 ≤ k := by exact_mod_cast lt_of_le_of_ne hle hne.symm
      linarith

/-- At the half the even neighbour is the nearest integer. -/
theorem NearestInteger.middle
    {whole m : ℤ}
    {part : ℚ}
    (hhalf : 2 * part = 1)
    (hm : m = whole ∨ m = whole + 1)
    (heven : m % 2 = 0) :
    NearestInteger (whole + part) m := by
  have hsame : |(m : ℚ) - (whole + part)| = part := by
    rcases hm with rfl | rfl
    · rw [abs_sub_comm, abs_of_nonneg (by linarith)]
      ring
    · push_cast
      rw [abs_of_nonneg (by linarith)]
      linarith
  constructor
  · intro k
    rw [hsame]
    rcases distance_cases k whole part (by linarith) (by linarith) with ⟨hle, heq⟩ | ⟨hle, heq⟩
    · have hleQ : (k : ℚ) ≤ whole := by exact_mod_cast hle
      linarith
    · have hleQ : (whole : ℚ) + 1 ≤ k := by exact_mod_cast hle
      linarith
  · intro _ _ _
    exact heven

/-- **The integer that is taken for a quotient** is the nearest one. -/
theorem nearestInteger_nearestQuotient
    (num : ℕ)
    {den : ℕ}
    (hden : 0 < den) :
    NearestInteger ((num : ℚ) / den) (nearestQuotient num den : ℤ) := by
  obtain ⟨part, hpart⟩ : ∃ part : ℚ, part = (num % den : ℕ) / den := ⟨_, rfl⟩
  have hdenQ : (0 : ℚ) < den := by exact_mod_cast hden
  have hsum : (num : ℚ) / den = ((num / den : ℕ) : ℤ) + part := by
    have hnum : (num : ℚ) = den * (num / den : ℕ) + (num % den : ℕ) := by
      exact_mod_cast (Nat.div_add_mod num den).symm
    rw [hpart, Int.cast_natCast, div_eq_iff hdenQ.ne', add_mul, div_mul_cancel₀ _ hdenQ.ne', hnum]
    ring
  have hpart0 : 0 ≤ part := by
    rw [hpart]
    positivity
  have hpart1 : part < 1 := by
    rw [hpart, div_lt_one hdenQ]
    exact_mod_cast Nat.mod_lt num hden
  have hbelow : 2 * (num % den) < den ↔ 2 * part < 1 := by
    rw [hpart, ← mul_div_assoc, div_lt_one hdenQ]
    norm_cast
  have habove : den < 2 * (num % den) ↔ 1 < 2 * part := by
    rw [hpart, ← mul_div_assoc, one_lt_div hdenQ]
    norm_cast
  rw [hsum]
  unfold nearestQuotient
  simp only
  split
  · rename_i hlt
    exact NearestInteger.lower hpart0 (hbelow.mp hlt)
  · rename_i hge
    split
    · rename_i hgt
      push_cast
      exact NearestInteger.upper hpart1 (habove.mp hgt)
    · rename_i hle
      have hhalf : 2 * part = 1 :=
        le_antisymm (not_lt.mp (mt habove.mpr hle)) (not_lt.mp (mt hbelow.mpr hge))
      exact NearestInteger.middle hhalf (by omega) (by omega)

/-- The nearest integer does not cross an integer that bounds the rational from above. -/
theorem NearestInteger.le_of_le
    {x : ℚ}
    {m bound : ℤ}
    (h : NearestInteger x m)
    (hx : x ≤ bound) :
    m ≤ bound := by
  by_contra hm
  have hmQ : (bound : ℚ) + 1 ≤ m := by exact_mod_cast not_le.mp hm
  have hnear := h.le bound
  rw [abs_of_nonneg (by linarith), abs_of_nonneg (by linarith)] at hnear
  linarith

/-- The nearest integer does not cross an integer that bounds the rational from below. -/
theorem NearestInteger.ge_of_ge
    {x : ℚ}
    {m bound : ℤ}
    (h : NearestInteger x m)
    (hx : (bound : ℚ) ≤ x) :
    bound ≤ m := by
  by_contra hm
  have hmQ : (m : ℚ) + 1 ≤ bound := by exact_mod_cast not_le.mp hm
  have hnear := h.le bound
  rw [abs_sub_comm, abs_of_nonneg (by linarith), abs_sub_comm, abs_of_nonneg (by linarith)] at hnear
  linarith

/-! ## The rank of a quotient -/

/-- Division by a power of two. -/
theorem divideByPower_eq
    (num : ℕ)
    {den : ℕ}
    (hden : 0 < den)
    (power : ℤ) :
    0 < (divideByPower num den power).2 ∧
      ((divideByPower num den power).1 : ℚ) / (divideByPower num den power).2 =
        num / den / 2 ^ power := by
  have hdenQ : (den : ℚ) ≠ 0 := by exact_mod_cast hden.ne'
  simp only [divideByPower, Nat.pow_eq]
  split
  · rename_i hpower
    obtain ⟨k, rfl⟩ := Int.eq_ofNat_of_zero_le hpower
    refine ⟨by positivity, ?_⟩
    rw [Int.toNat_natCast, zpow_natCast]
    push_cast
    rw [div_div]
  · rename_i hpower
    obtain ⟨k, rfl⟩ : ∃ k : ℕ, power = -k := ⟨(-power).toNat, by omega⟩
    refine ⟨hden, ?_⟩
    rw [neg_neg, Int.toNat_natCast, zpow_neg, zpow_natCast]
    push_cast
    rw [div_inv_eq_mul]
    ring

/-- The estimate from the lengths of both numbers is one binade too high at most. -/
theorem estimate_bounds
    {num den : ℕ}
    (hnum : 0 < num)
    (hden : 0 < den) :
    (2 : ℚ) ^ ((Nat.log2 num : ℤ) - Nat.log2 den - 1) < num / den ∧
      (num : ℚ) / den < 2 ^ ((Nat.log2 num : ℤ) - Nat.log2 den + 1) := by
  have hdenQ : (0 : ℚ) < den := by exact_mod_cast hden
  have hnumLow : (2 : ℚ) ^ (Nat.log2 num : ℤ) ≤ num := by
    rw [zpow_natCast]
    exact_mod_cast Nat.log2_self_le hnum.ne'
  have hnumHigh : (num : ℚ) < 2 ^ ((Nat.log2 num : ℤ) + 1) := by
    exact_mod_cast Nat.lt_log2_self
  have hdenLow : (2 : ℚ) ^ (Nat.log2 den : ℤ) ≤ den := by
    rw [zpow_natCast]
    exact_mod_cast Nat.log2_self_le hden.ne'
  have hdenHigh : (den : ℚ) < 2 ^ ((Nat.log2 den : ℤ) + 1) := by
    exact_mod_cast Nat.lt_log2_self
  constructor
  · rw [lt_div_iff₀ hdenQ]
    calc
      (2 : ℚ) ^ ((Nat.log2 num : ℤ) - Nat.log2 den - 1) * den
          < 2 ^ ((Nat.log2 num : ℤ) - Nat.log2 den - 1) * 2 ^ ((Nat.log2 den : ℤ) + 1) := by
            gcongr
      _ = 2 ^ (Nat.log2 num : ℤ) := by
            rw [← zpow_add₀ two_ne_zero]
            congr 1
            ring
      _ ≤ num := hnumLow
  · rw [div_lt_iff₀ hdenQ]
    calc
      (num : ℚ) < 2 ^ ((Nat.log2 num : ℤ) + 1) := hnumHigh
      _ = 2 ^ ((Nat.log2 num : ℤ) - Nat.log2 den + 1) * 2 ^ (Nat.log2 den : ℤ) := by
            rw [← zpow_add₀ two_ne_zero]
            congr 1
            ring
      _ ≤ 2 ^ ((Nat.log2 num : ℤ) - Nat.log2 den + 1) * den := by
            gcongr

/-- The scale of a quotient leaves a significand of 53 bits, or of fewer at the least scale. -/
theorem scaleOf_bounds
    {num den : ℕ}
    (hnum : 0 < num)
    (hden : 0 < den) :
    -1074 ≤ scaleOf num den ∧
      (num : ℚ) / den < 2 ^ 53 * 2 ^ scaleOf num den ∧
      (2 ^ 52 * 2 ^ scaleOf num den ≤ (num : ℚ) / den ∨ scaleOf num den = -1074) := by
  obtain ⟨hlow, hhigh⟩ := estimate_bounds hnum hden
  obtain ⟨estimate, hestimate⟩ :
      ∃ estimate : ℤ, estimate = (Nat.log2 num : ℤ) - Nat.log2 den - 52 := ⟨_, rfl⟩
  obtain ⟨hd, hquotient⟩ := divideByPower_eq num hden estimate
  obtain ⟨x, hx⟩ : ∃ x : ℚ, x = num / den := ⟨_, rfl⟩
  have hpos : (0 : ℚ) < 2 ^ estimate := by positivity
  rw [← hx] at hlow hhigh hquotient ⊢
  have hlow' : 2 ^ 51 * 2 ^ estimate < x := by
    rw [← zpow_natCast, ← zpow_add₀ two_ne_zero]
    convert hlow using 2
    push_cast
    omega
  have hhigh' : x < 2 ^ 53 * 2 ^ estimate := by
    rw [← zpow_natCast, ← zpow_add₀ two_ne_zero]
    convert hhigh using 2
    push_cast
    omega
  have htest :
      (divideByPower num den estimate).1 < Nat.pow 2 52 * (divideByPower num den estimate).2
        ↔
      x < 2 ^ 52 * 2 ^ estimate := by
    have hdQ : (0 : ℚ) < (divideByPower num den estimate).2 := by exact_mod_cast hd
    rw [← div_lt_iff₀ hpos, ← hquotient, div_lt_iff₀ hdQ, Nat.pow_eq]
    exact_mod_cast Iff.rfl
  -- the scale before it is bounded from below
  obtain ⟨free, hfree, hfreeLow, hfreeHigh⟩ :
      ∃ free, scaleOf num den = max free (-1074) ∧ 2 ^ 52 * 2 ^ free ≤ x ∧
        x < 2 ^ 53 * 2 ^ free := by
    by_cases hsmall : x < 2 ^ 52 * 2 ^ estimate
    · refine ⟨estimate - 1, ?_, ?_, ?_⟩
      · unfold scaleOf
        simp only [← hestimate, htest, hsmall, if_true]
      · rw [zpow_sub₀ two_ne_zero, zpow_one]
        linarith
      · rw [zpow_sub₀ two_ne_zero, zpow_one]
        linarith
    · refine ⟨estimate, ?_, not_lt.mp hsmall, hhigh'⟩
      unfold scaleOf
      simp only [← hestimate, htest, hsmall, if_false]
  rw [hfree]
  refine ⟨le_max_right _ _, ?_, ?_⟩
  · have hmono : (2 : ℚ) ^ free ≤ 2 ^ max free (-1074) :=
      zpow_le_zpow_right₀ one_le_two (le_max_left _ _)
    linarith
  · rcases le_total (-1074) free with hle | hle
    · rw [max_eq_left hle]
      exact Or.inl hfreeLow
    · exact Or.inr (max_eq_right hle)

/-- A magnitude whose scale is not below another one is a multiple of that unit. -/
theorem exists_multiple_of_le_scale
    {rank : ℕ}
    {power : ℤ}
    (h : power ≤ scale rank) :
    ∃ k : ℤ, magnitude rank = k * 2 ^ power := by
  obtain ⟨n, hn⟩ := Int.eq_ofNat_of_zero_le (sub_nonneg.mpr h)
  have hscale : scale rank = n + power := by omega
  refine ⟨significand rank * 2 ^ n, ?_⟩
  rw [magnitude, hscale, zpow_add₀ two_ne_zero, zpow_natCast]
  push_cast
  ring

/-- A magnitude whose scale is below another one is smaller than normal numbers of that scale. -/
theorem magnitude_lt_of_scale_lt
    {rank : ℕ}
    {power : ℤ}
    (h : scale rank < power) :
    magnitude rank < 2 ^ 52 * 2 ^ power := by
  have hsignificand : (significand rank : ℚ) < 2 ^ 53 := by exact_mod_cast significand_lt rank
  have hmono : (2 : ℚ) ^ scale rank ≤ 2 ^ (power - 1) :=
    zpow_le_zpow_right₀ one_le_two (by omega)
  have hpos : (0 : ℚ) < 2 ^ scale rank := by positivity
  calc
    magnitude rank = significand rank * 2 ^ scale rank := rfl
    _ < 2 ^ 53 * 2 ^ scale rank := by gcongr
    _ ≤ 2 ^ 53 * 2 ^ (power - 1) := by gcongr
    _ = 2 ^ 52 * 2 ^ power := by
          rw [zpow_sub₀ two_ne_zero, zpow_one]
          ring

/-- Distances in units of a power of two. -/
theorem abs_mul_sub
    (k x : ℚ)
    (power : ℤ) :
    |k * 2 ^ power - x| = |k - x / 2 ^ power| * 2 ^ power := by
  have hpos : (0 : ℚ) < 2 ^ power := by positivity
  rw [← abs_of_pos hpos, ← abs_mul, abs_of_pos hpos, sub_mul, div_mul_cancel₀ _ hpos.ne']

/-- A rank is nearest to a rational if its significand is, at a scale at which the rational is
normal.  Numbers of a lower scale lie below all normal ones of this scale. -/
theorem nearest_of_nearestInteger
    {x : ℚ}
    {rank m : ℕ}
    {power : ℤ}
    (hinteger : NearestInteger (x / 2 ^ power) m)
    (hnormal : 2 ^ 52 * 2 ^ power ≤ x ∨ power = -1074)
    (hmagnitude : magnitude rank = m * 2 ^ power)
    (hparity : rank % 2 = m % 2) :
    Nearest x rank := by
  have hpos : (0 : ℚ) < 2 ^ power := by positivity
  have hgrid : ∀ k : ℤ, |magnitude rank - x| ≤ |k * 2 ^ power - x| := by
    intro k
    have hle := hinteger.le k
    rw [Int.cast_natCast] at hle
    rw [hmagnitude, abs_mul_sub, abs_mul_sub]
    gcongr
  have hfar : ∀ other, scale other < power → |magnitude rank - x| < |magnitude other - x| := by
    intro other hother
    have hbelow : magnitude other < 2 ^ 52 * 2 ^ power := magnitude_lt_of_scale_lt hother
    have hleast := le_scale other
    have hx : 2 ^ 52 * 2 ^ power ≤ x := by
      rcases hnormal with hnormal | hnormal
      · exact hnormal
      · omega
    have hle := hgrid (2 ^ 52)
    rw [Int.cast_pow, Int.cast_ofNat, abs_sub_comm (2 ^ 52 * 2 ^ power) x,
      abs_of_nonneg (sub_nonneg.mpr hx)] at hle
    have hdistance : |magnitude other - x| = x - magnitude other := by
      rw [abs_sub_comm, abs_of_nonneg (by linarith)]
    linarith
  constructor
  · intro other
    rcases lt_or_ge (scale other) power with hother | hother
    · exact (hfar other hother).le
    · obtain ⟨k, hk⟩ := exists_multiple_of_le_scale hother
      rw [hk]
      exact hgrid k
  · intro other hsame hne
    rcases lt_or_ge (scale other) power with hother | hother
    · exact absurd hsame (hfar other hother).ne'
    · obtain ⟨k, hk⟩ := exists_multiple_of_le_scale hother
      have hkm : k ≠ m := by
        rintro rfl
        apply hne
        apply magnitude_strictMono.injective
        rw [hk, hmagnitude, Int.cast_natCast]
      rw [hmagnitude, hk, abs_mul_sub, abs_mul_sub] at hsame
      have heven : (m : ℤ) % 2 = 0 := by
        apply hinteger.even k _ hkm
        rw [Int.cast_natCast]
        exact mul_right_cancel₀ hpos.ne' hsame
      omega

/-- **The rank that is computed for a quotient** is the nearest one. -/
theorem nearest_rankOfRatio
    {num den : ℕ}
    (hnum : 0 < num)
    (hden : 0 < den) :
    Nearest ((num : ℚ) / den) (rankOfRatio num den) := by
  obtain ⟨hpower, hhigh, hlow⟩ := scaleOf_bounds hnum hden
  obtain ⟨power, hscale⟩ : ∃ power, power = scaleOf num den := ⟨_, rfl⟩
  obtain ⟨hd, hquotient⟩ := divideByPower_eq num hden power
  obtain ⟨m, hm⟩ : ∃ m, m = nearestQuotient (divideByPower num den power).1
      (divideByPower num den power).2 := ⟨_, rfl⟩
  obtain ⟨x, hx⟩ : ∃ x : ℚ, x = num / den := ⟨_, rfl⟩
  have hpos : (0 : ℚ) < 2 ^ power := by positivity
  have hinteger : NearestInteger (x / 2 ^ power) m := by
    rw [hm, hx, ← hquotient]
    exact nearestInteger_nearestQuotient _ hd
  rw [← hscale, ← hx] at hhigh hlow
  rw [← hscale] at hpower
  have hbits : (m : ℤ) ≤ 2 ^ 53 := by
    apply hinteger.le_of_le
    rw [div_le_iff₀ hpos, Int.cast_pow, Int.cast_ofNat]
    exact hhigh.le
  have hnormal : (2 : ℤ) ^ 52 ≤ m ∨ power = -1074 := by
    rcases hlow with hlow | hlow
    · refine Or.inl (hinteger.ge_of_ge ?_)
      rw [le_div_iff₀ hpos, Int.cast_pow, Int.cast_ofNat]
      exact hlow
    · exact Or.inr hlow
  have hrank : rankOfRatio num den = (power + 1074).toNat * 2 ^ 52 + m := by
    simp only [rankOfRatio, ← hscale, ← hm, Nat.pow_eq]
  rw [← hx, hrank]
  exact nearest_of_nearestInteger hinteger hlow
    (magnitude_of_parts (by omega) hpower (by omega)) (by omega)

/-! ## Rounding -/

/-- The number that a rational of a given sign rounds to: a finite one that is nearest to it, and
even if another finite one is equally near, or an infinite one from the bound on. -/
inductive Rounds (negative : Bool) (q : ℚ) : Binary64 → Prop
  | finite
      {rank : Fin infinityRank}
      (hq : q < overflowBound)
      (hnearest : ∀ other : Fin infinityRank, |magnitude rank - q| ≤ |magnitude other - q|)
      (heven : ∀ other : Fin infinityRank,
        |magnitude other - q| = |magnitude rank - q| → other ≠ rank → rank.val % 2 = 0) :
      Rounds negative q (.finite negative rank)
  | infinite
      (hq : overflowBound ≤ q) :
      Rounds negative q (.infinite negative)

/-- The number of the nearest rank is the one that is rounded to. -/
theorem rounds_ofRank
    {q : ℚ}
    {rank : ℕ}
    (negative : Bool)
    (h : Nearest q rank) :
    Rounds negative q (ofRank negative rank) := by
  unfold ofRank
  split
  · rename_i hfinite
    refine Rounds.finite (h.lt_infinityRank_iff.mp hfinite) (fun other => h.le other) ?_
    intro other hsame hne
    apply h.even other hsame
    intro heq
    exact hne (Fin.ext heq)
  · rename_i hinfinite
    exact Rounds.infinite (not_lt.mp (mt h.lt_infinityRank_iff.mpr hinfinite))

/-- What a rational rounds to has its nearest rank: ranks beyond the last finite one are farther
away than that one. -/
theorem Rounds.nearest
    {negative : Bool}
    {q : ℚ}
    {rank : Fin infinityRank}
    (h : Rounds negative q (.finite negative rank)) :
    Nearest q rank := by
  cases h with
  | finite hq hnearest heven =>
      have hbeyond : ∀ other, infinityRank ≤ other →
          |magnitude rank - q| < |magnitude other - q| := by
        intro other hother
        have hlast := hnearest ⟨infinityRank - 1, by decide⟩
        have hle : magnitude infinityRank ≤ magnitude other :=
          magnitude_strictMono.monotone hother
        have hlt : magnitude (infinityRank - 1) < magnitude infinityRank :=
          magnitude_strictMono (by decide)
        rw [overflowBound_eq] at hq
        have hdistance : |magnitude other - q| = magnitude other - q :=
          abs_of_nonneg (by linarith)
        have hcloser : |magnitude (infinityRank - 1) - q| < magnitude other - q := by
          rw [abs_lt]
          constructor <;> linarith
        linarith
      constructor
      · intro other
        rcases lt_or_ge other infinityRank with hother | hother
        · exact hnearest ⟨other, hother⟩
        · exact (hbeyond other hother).le
      · intro other hsame hne
        rcases lt_or_ge other infinityRank with hother | hother
        · apply heven ⟨other, hother⟩ hsame
          intro heq
          exact hne (congrArg Fin.val heq)
        · exact absurd hsame (hbeyond other hother).ne'

/-- **A rational rounds to one number only.** -/
theorem Rounds.unique
    {negative : Bool}
    {q : ℚ}
    {x y : Binary64}
    (hx : Rounds negative q x)
    (hy : Rounds negative q y) :
    x = y := by
  cases hx with
  | @finite rank hq hnearest heven =>
      have hrank : Nearest q rank :=
        Rounds.nearest (Rounds.finite hq hnearest heven : Rounds negative q _)
      cases hy with
      | @finite other hq' hnearest' heven' =>
          have hother : Nearest q other :=
            Rounds.nearest (Rounds.finite hq' hnearest' heven' : Rounds negative q _)
          rw [Fin.ext (hrank.unique hother)]
      | infinite hq' =>
          exact absurd hq (not_lt.mpr hq')
  | infinite hq =>
      cases hy with
      | finite hq' _ _ =>
          exact absurd hq' (not_lt.mpr hq)
      | infinite _ =>
          rfl

/-- The sign does not matter for the magnitude that is rounded to. -/
theorem Rounds.of_finite
    {negative : Bool}
    {q : ℚ}
    {rank : Fin infinityRank}
    (h : Rounds false q (.finite false rank)) :
    Rounds negative q (.finite negative rank) := by
  cases h with
  | finite hq hnearest heven =>
      exact Rounds.finite hq hnearest heven

/-- A quotient is rounded to the number it rounds to. -/
theorem rounds_ofRatio
    (negative : Bool)
    (num : ℕ)
    {den : ℕ}
    (hden : 0 < den) :
    Rounds negative ((num : ℚ) / den) (ofRatio negative num den) := by
  unfold ofRatio
  split
  · rename_i hnum
    subst hnum
    apply rounds_ofRank
    rw [Nat.cast_zero, zero_div, ← magnitude_zero]
    exact Nearest.of_magnitude 0
  · rename_i hnum
    exact rounds_ofRank negative (nearest_rankOfRatio (Nat.pos_of_ne_zero hnum) hden)

/-- A rational below half the least magnitude is nearest to zero. -/
theorem nearest_zero
    {q : ℚ}
    (h0 : 0 ≤ q)
    (hq : 2 * q < magnitude 1) :
    Nearest q 0 where
  le other := by
    rw [magnitude_zero, zero_sub, abs_neg, abs_of_nonneg h0]
    rcases Nat.eq_zero_or_pos other with rfl | hpos
    · rw [magnitude_zero, zero_sub, abs_neg, abs_of_nonneg h0]
    · have hle : magnitude 1 ≤ magnitude other := magnitude_strictMono.monotone hpos
      rw [abs_of_nonneg (by linarith)]
      linarith
  even _ _ _ := rfl

/-- Decimals with a large exponent are infinite. -/
theorem overflowBound_le
    {digits : ℕ}
    {exponent : ℤ}
    (hdigits : digits ≠ 0)
    (hexponent : 400 ≤ exponent) :
    overflowBound ≤ digits * 10 ^ exponent := by
  have hone : (1 : ℚ) ≤ digits := by exact_mod_cast Nat.one_le_iff_ne_zero.mpr hdigits
  have hpow : (10 : ℚ) ^ (400 : ℕ) ≤ 10 ^ exponent := by
    rw [← zpow_natCast]
    exact zpow_le_zpow_right₀ (by norm_num) hexponent
  have hbound : overflowBound ≤ 2 ^ (54 + 970) := by
    unfold overflowBound
    rw [pow_add]
    gcongr
    linarith
  calc
    overflowBound ≤ 2 ^ (54 + 970) := hbound
    _ ≤ 2 ^ (3 * 400) := pow_le_pow_right₀ one_le_two (by omega)
    _ = (2 ^ 3) ^ 400 := pow_mul 2 3 400
    _ ≤ 10 ^ 400 := pow_le_pow_left₀ (by norm_num) (by norm_num) 400
    _ ≤ 10 ^ exponent := hpow
    _ ≤ digits * 10 ^ exponent := le_mul_of_one_le_left (by positivity) hone

/-- Decimals with a small exponent lie below half the least magnitude. -/
theorem lt_magnitude_one
    {digits : ℕ}
    {exponent : ℤ}
    (hexponent : exponent + Nat.log2 digits ≤ -400) :
    2 * (digits * 10 ^ exponent) < magnitude 1 := by
  obtain ⟨k, rfl⟩ : ∃ k : ℕ, exponent = -k := ⟨(-exponent).toNat, by omega⟩
  have hleast : magnitude 1 = (2 ^ 1074)⁻¹ := by
    have hscale : scale 1 = -(1074 : ℕ) := rfl
    rw [magnitude, hscale, zpow_neg, zpow_natCast]
    simp [significand]
  have hdigits : (digits : ℚ) < 2 ^ (Nat.log2 digits + 1) := by
    exact_mod_cast Nat.lt_log2_self
  have hpow : 2 * digits * 2 ^ 1074 < (10 : ℚ) ^ k := by
    calc
      2 * digits * 2 ^ 1074 < (2 * 2 ^ (Nat.log2 digits + 1) * 2 ^ 1074 : ℚ) := by gcongr
      _ = 2 ^ 1 * 2 ^ (Nat.log2 digits + 1) * 2 ^ 1074 := by rw [pow_one]
      _ = 2 ^ (1 + (Nat.log2 digits + 1) + 1074) := by
            rw [pow_add 2 (1 + (Nat.log2 digits + 1)), pow_add 2 1]
      _ ≤ 2 ^ (3 * k) := pow_le_pow_right₀ one_le_two (by omega)
      _ = (2 ^ 3) ^ k := pow_mul 2 3 k
      _ ≤ 10 ^ k := pow_le_pow_left₀ (by norm_num) (by norm_num) k
  have hten : (0 : ℚ) < 10 ^ k := by positivity
  have htwo : (0 : ℚ) < 2 ^ 1074 := by positivity
  rw [hleast, zpow_neg, zpow_natCast, ← mul_assoc, ← div_eq_mul_inv, div_lt_iff₀ hten,
    inv_mul_eq_div, lt_div_iff₀ htwo]
  exact hpow

/-- **Every decimal is rounded** to the number it rounds to. -/
theorem rounds_ofDecimal
    (negative : Bool)
    (digits : ℕ)
    (exponent : ℤ) :
    Rounds negative (digits * 10 ^ exponent) (ofDecimal negative digits exponent) := by
  unfold ofDecimal
  split
  · rename_i hdigits
    subst hdigits
    apply rounds_ofRank
    rw [Nat.cast_zero, zero_mul, ← magnitude_zero]
    exact Nearest.of_magnitude 0
  · rename_i hdigits
    split
    · rename_i hlarge
      exact Rounds.infinite (overflowBound_le hdigits hlarge)
    · split
      · rename_i hsmall
        exact rounds_ofRank negative (nearest_zero (by positivity) (lt_magnitude_one hsmall))
      · split
        · rename_i hexponent
          obtain ⟨k, rfl⟩ := Int.eq_ofNat_of_zero_le hexponent
          have hround := rounds_ofRatio negative (digits * 10 ^ k) one_pos
          push_cast at hround
          rw [div_one] at hround
          rw [Int.toNat_natCast, zpow_natCast]
          exact hround
        · rename_i hexponent
          obtain ⟨k, rfl⟩ : ∃ k : ℕ, exponent = -k := ⟨(-exponent).toNat, by omega⟩
          have hround := rounds_ofRatio negative digits (pow_pos (by omega : 0 < 10) k)
          push_cast at hround
          rw [neg_neg, Int.toNat_natCast, zpow_neg, zpow_natCast, ← div_eq_mul_inv]
          exact hround

end CurlRequest.Binary64
