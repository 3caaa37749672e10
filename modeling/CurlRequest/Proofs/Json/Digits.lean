import CurlRequest.Binary64.Shortest
import CurlRequest.Json.Reader
import Mathlib.Tactic.Ring

/-!
# Decimal digits and the numbers they denote

**Results.**
* `digitsValue_append`, `digitsValue_zeros`: the value of digits by their places.
* `digitsValue_lt`: so many digits denote a number below that power of ten.
* `digitsValue_ofNat`: the digits of a number denote it.
* `exists_ofNat_eq_cons`: they are a zero alone, or do not begin with a zero.
* `exists_eq_dropTrailingZeros`: digits are those before their last zeros, and zeros.
-/

namespace CurlRequest.Json

open Binary64 (zeros dropTrailingZeros)

/-- A core digit as a code point. -/
theorem isDigit_ofChar
    (c : Char) :
    (CodePoint.ofChar c).isDigit = c.isDigit := by
  rw [Bool.eq_iff_iff, CodePoint.isDigit, decide_eq_true_iff, Char.isDigit_iff_toNat]
  rfl

/-! ## The value of digits -/

/-- Digits that follow a number shift it by their places. -/
theorem foldl_digits
    (t : Text)
    (n : Nat) :
    t.foldl (fun n c => n * 10 + (c.toNat - 0x30)) n = n * 10 ^ t.length + digitsValue t := by
  induction t generalizing n with
  | nil =>
      simp [digitsValue]
  | cons c t ih =>
      have hcons : digitsValue (c :: t) = (c.toNat - 0x30) * 10 ^ t.length + digitsValue t := by
        rw [digitsValue, List.foldl_cons, ih]
        simp
      rw [List.foldl_cons, ih, hcons, List.length_cons]
      ring

/-- The value of digits one after the other. -/
theorem digitsValue_append
    (s t : Text) :
    digitsValue (s ++ t) = digitsValue s * 10 ^ t.length + digitsValue t := by
  rw [digitsValue, List.foldl_append, foldl_digits]
  rfl

/-- The value of zeros. -/
theorem digitsValue_zeros
    (count : Nat) :
    digitsValue (zeros count) = 0 := by
  induction count with
  | zero =>
      rfl
  | succ count ih =>
      have hcons : zeros (count + 1) = [('0' : CodePoint)] ++ zeros count := rfl
      have hzero : digitsValue [('0' : CodePoint)] = 0 := rfl
      rw [hcons, digitsValue_append, ih, hzero, Nat.zero_mul]

/-- The value of digits is below the power of ten by their number. -/
theorem digitsValue_lt
    {t : Text}
    (h : ∀ c ∈ t, c.isDigit = true) :
    digitsValue t < 10 ^ t.length := by
  induction t with
  | nil =>
      decide
  | cons c t ih =>
      have hc : c.toNat - 0x30 < 10 := by
        have hdigit := h c List.mem_cons_self
        simp only [CodePoint.isDigit, decide_eq_true_eq] at hdigit
        omega
      have hrest := ih fun d hd => h d (List.mem_cons_of_mem c hd)
      have hcons : digitsValue (c :: t) = (c.toNat - 0x30) * 10 ^ t.length + digitsValue t := by
        have hvalue : digitsValue [c] = c.toNat - 0x30 := Nat.zero_add _
        rw [← List.singleton_append, digitsValue_append, hvalue]
      calc
        digitsValue (c :: t) = (c.toNat - 0x30) * 10 ^ t.length + digitsValue t := hcons
        _ < (c.toNat - 0x30) * 10 ^ t.length + 10 ^ t.length := Nat.add_lt_add_left hrest _
        _ = (c.toNat - 0x30 + 1) * 10 ^ t.length := by ring
        _ ≤ 10 * 10 ^ t.length := Nat.mul_le_mul_right _ hc
        _ = 10 ^ (c :: t).length := by rw [List.length_cons, pow_succ']

theorem length_zeros
    (count : Nat) :
    (zeros count).length = count :=
  List.length_replicate

theorem isDigit_of_mem_zeros
    {count : Nat}
    {c : CodePoint}
    (h : c ∈ zeros count) :
    c.isDigit = true := by
  rw [List.eq_of_mem_replicate h]
  rfl

/-! ## The digits of a number -/

/-- The digits of a number denote it. -/
theorem digitsValue_ofNat
    (n : Nat) :
    digitsValue (Text.ofNat n) = n := by
  have hcore : ∀ (digits : List Char) (m : Nat),
      (digits.map CodePoint.ofChar).foldl (fun n c => n * 10 + (c.toNat - 0x30)) m =
        Nat.ofDigitChars 10 digits m := by
    intro digits
    induction digits with
    | nil =>
        intro m
        simp
    | cons c digits ih =>
        intro m
        rw [List.map_cons, List.foldl_cons, ih, Nat.ofDigitChars_cons, Nat.mul_comm m 10]
        rfl
  rw [digitsValue, Text.ofNat, hcore, Nat.ofDigitChars_ten_toDigits]

theorem isDigit_of_mem_ofNat
    {n : Nat}
    {c : CodePoint}
    (h : c ∈ Text.ofNat n) :
    c.isDigit = true := by
  obtain ⟨d, hd, rfl⟩ := List.mem_map.mp h
  rw [isDigit_ofChar]
  exact Nat.isDigit_of_mem_toDigits (by decide) (by decide) hd

/-- The digits of a positive number begin with one that is not zero. -/
theorem exists_ofNat_eq_cons
    {n : Nat}
    (hn : n ≠ 0) :
    ∃ c t, Text.ofNat n = c :: t ∧ c ≠ '0' := by
  induction n using Nat.strongRecOn with
  | ind n ih =>
      rcases Nat.lt_or_ge n 10 with hsmall | hlarge
      · refine ⟨CodePoint.ofChar n.digitChar, [], ?_, ?_⟩
        · rw [Text.ofNat, Nat.toDigits_of_lt_base hsmall]
          rfl
        · intro hzero
          have htoNat := congrArg CodePoint.toNat hzero
          have hvalue : (CodePoint.ofChar n.digitChar).toNat = 48 + n :=
            Nat.toNat_digitChar_of_lt_ten hsmall
          rw [hvalue] at htoNat
          have hzeroValue : (CodePoint.ofChar '0').toNat = 48 := rfl
          omega
      · obtain ⟨c, t, ht, hc⟩ := ih (n / 10) (by omega) (by omega)
        refine ⟨c, t ++ [CodePoint.ofChar (n % 10).digitChar], ?_, hc⟩
        rw [Text.ofNat] at ht ⊢
        rw [Nat.toDigits_of_base_le (by decide) hlarge, List.map_append, ht]
        rfl

/-- The digits of a number of at most so many digits. -/
theorem length_ofNat_le_iff
    {n count : Nat}
    (hcount : 0 < count) :
    (Text.ofNat n).length ≤ count
      ↔
    n < 10 ^ count := by
  rw [Text.ofNat, List.length_map]
  exact Nat.length_toDigits_le_iff (by decide) hcount

/-- Digits are those before their last zeros, and these zeros. -/
theorem exists_eq_dropTrailingZeros
    (digits : Text) :
    ∃ count, digits = dropTrailingZeros digits ++ zeros count := by
  refine ⟨(digits.reverse.takeWhile fun c : CodePoint => c = '0').length, ?_⟩
  have hzeros : (digits.reverse.takeWhile fun c : CodePoint => c = '0') =
      zeros (digits.reverse.takeWhile fun c : CodePoint => c = '0').length := by
    rw [zeros, List.eq_replicate_iff]
    refine ⟨rfl, ?_⟩
    intro c hc
    simpa using List.all_eq_true.mp List.all_takeWhile c hc
  have hreverse : ∀ count, (zeros count).reverse = zeros count := fun count =>
    List.reverse_replicate
  have hsplit := congrArg List.reverse
    (List.takeWhile_append_dropWhile (p := fun c : CodePoint => decide (c = '0'))
      (l := digits.reverse))
  rw [List.reverse_append, List.reverse_reverse, hzeros, hreverse] at hsplit
  exact hsplit.symm

end CurlRequest.Json
