import CurlRequest.Binary64.Shortest
import CurlRequest.Proofs.Binary64.Rounding

/-!
# The shortest decimal of a number rounds to it

Whatever decimal is chosen for a number was tried before: it is one that reads back.  If none were
found the exact decimal would be taken, and that one reads back as well.

**Results.**
* `rounds_shortest`: the chosen decimal rounds to the number.
* `shortest_ne_zero`: it is positive if the number is.
-/

namespace CurlRequest.Binary64

/-- The integer nearest to a quotient is one of its neighbours. -/
theorem nearestQuotient_cases
    (num den : ℕ) :
    nearestQuotient num den = num / den ∨
      nearestQuotient num den = num / den + 1 := by
  unfold nearestQuotient
  simp only
  split
  · exact Or.inl rfl
  · split
    · exact Or.inr rfl
    · omega

/-- A decimal that was tried rounds to the number. -/
theorem rounds_of_decimalWith?
    {rank count digits : ℕ}
    {power : ℤ}
    (h : decimalWith? rank count = some (digits, power)) :
    Rounds false (digits * 10 ^ power) (ofRank false rank) := by
  have hback : ofDecimal false digits power = ofRank false rank := by
    unfold decimalWith? at h
    simp only at h
    split at h
    · rename_i hbelow habove
      simp only [Option.some.injEq, Prod.mk.injEq] at h
      obtain ⟨rfl, rfl⟩ := h
      rcases nearestQuotient_cases _ _ with heq | heq
      · rw [heq]
        exact eq_of_beq hbelow
      · rw [heq]
        exact eq_of_beq habove
    · rename_i hbelow habove
      simp only [Option.some.injEq, Prod.mk.injEq] at h
      obtain ⟨rfl, rfl⟩ := h
      exact eq_of_beq hbelow
    · rename_i hbelow habove
      simp only [Option.some.injEq, Prod.mk.injEq] at h
      obtain ⟨rfl, rfl⟩ := h
      exact eq_of_beq habove
    · cases h
  rw [← hback]
  exact rounds_ofDecimal false digits power

/-- The exact decimal of a magnitude is the magnitude. -/
theorem exactDecimal_eq
    (rank : ℕ) :
    ((exactDecimal rank).1 : ℚ) * 10 ^ (exactDecimal rank).2 =
      magnitude rank := by
  simp only [exactDecimal, magnitude, Nat.pow_eq]
  split
  · rename_i hscale
    obtain ⟨k, hk⟩ := Int.eq_ofNat_of_zero_le hscale
    simp [hk]
  · rename_i hscale
    obtain ⟨k, hk⟩ : ∃ k : ℕ, scale rank = -k := ⟨(-scale rank).toNat, by omega⟩
    have hten : (10 : ℚ) ^ k = 5 ^ k * 2 ^ k := by
      rw [← mul_pow]
      norm_num
    simp only [hk, neg_neg, Int.toNat_natCast, zpow_neg, zpow_natCast, hten]
    push_cast
    field_simp

/-- **The shortest decimal** of a number rounds to it. -/
theorem rounds_shortest
    (rank : Fin infinityRank) :
    Rounds false ((shortest rank).1 * 10 ^ (shortest rank).2) (.finite false rank) := by
  have hrank : ofRank false rank = .finite false rank := by
    simp [ofRank]
  rw [← hrank]
  unfold shortest
  cases hfound : (List.range 17).findSome? fun i => decimalWith? rank (i + 1) with
  | none =>
      rw [Option.getD_none, exactDecimal_eq]
      exact rounds_ofRank false (Nearest.of_magnitude rank)
  | some decimal =>
      obtain ⟨digits, power⟩ := decimal
      obtain ⟨i, -, hi⟩ := List.exists_of_findSome?_eq_some hfound
      exact rounds_of_decimalWith? hi

/-- The shortest decimal of a positive number has a digit. -/
theorem shortest_ne_zero
    {rank : Fin infinityRank}
    (h : rank.val ≠ 0) :
    (shortest rank).1 ≠ 0 := by
  intro hzero
  have hround := rounds_shortest rank
  rw [hzero, Nat.cast_zero, zero_mul] at hround
  have hnearest := Nearest.of_magnitude 0
  rw [magnitude_zero] at hnearest
  exact h (hround.nearest.unique hnearest)

end CurlRequest.Binary64
