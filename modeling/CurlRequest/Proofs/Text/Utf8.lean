import CurlRequest.Text.Utf8
import Mathlib.Order.Basic

/-!
# Decoding inverts encoding

The well-formed sequences of octets are those of the table in the standard: the range of the second
octet depends on the first.  They are exactly the octets of the code points that are no surrogates,
and exactly what the decoder takes apart.

**Results.**
* `sequence_encodeOne`, `Sequence.encodeOne_eq`: the sequences are the octets of code points.
* `Sequence.decodeFrom_append`, `sequence_or_fault`: the decoder takes off one sequence after the
  other, and a fault lies where none stands.
* `decode_eq_ok_iff`: octets are decoded to a text iff they encode it.
* `encode_eq_ok_iff`: a text is encoded iff it has no surrogate.
-/

namespace CurlRequest.Utf8

/-! ## Well-formed sequences -/

/-- An octet that is not the first of a sequence. -/
def IsContinuation (octet : UInt8) : Prop :=
  0x80 ≤ octet.toNat ∧ octet.toNat ≤ 0xBF

/-- The value of a sequence with one octet more. -/
def shifted (value : ℕ) (octet : UInt8) : ℕ :=
  value * 0x40 + (octet.toNat - 0x80)

/-- A well-formed sequence of octets and the number of the code point that it encodes. -/
inductive Sequence : Bytes → ℕ → Prop
  | one
      {a : UInt8}
      (ha : a.toNat < 0x80) :
      Sequence [a] a.toNat
  | two
      {a b : UInt8}
      (ha : 0xC2 ≤ a.toNat ∧ a.toNat ≤ 0xDF)
      (hb : IsContinuation b) :
      Sequence [a, b] (shifted (a.toNat - 0xC0) b)
  | three
      {a b c : UInt8}
      (ha : 0xE0 ≤ a.toNat ∧ a.toNat ≤ 0xEF)
      (hb : (if a.toNat = 0xE0 then 0xA0 else 0x80) ≤ b.toNat)
      (hb' : b.toNat ≤ if a.toNat = 0xED then 0x9F else 0xBF)
      (hc : IsContinuation c) :
      Sequence [a, b, c] (shifted (shifted (a.toNat - 0xE0) b) c)
  | four
      {a b c d : UInt8}
      (ha : 0xF0 ≤ a.toNat ∧ a.toNat ≤ 0xF4)
      (hb : (if a.toNat = 0xF0 then 0x90 else 0x80) ≤ b.toNat)
      (hb' : b.toNat ≤ if a.toNat = 0xF4 then 0x8F else 0xBF)
      (hc : IsContinuation c)
      (hd : IsContinuation d) :
      Sequence [a, b, c, d] (shifted (shifted (shifted (a.toNat - 0xF0) b) c) d)

/-! ## The octets of a code point -/

/-- The octets that encode a number, by how large it is. -/
theorem encodeOne_one
    {c : CodePoint}
    (h : c.toNat < 0x80) :
    encodeOne c = [UInt8.ofNat c.toNat] := by
  simp [encodeOne, h]

theorem encodeOne_two
    {c : CodePoint}
    (h : 0x80 ≤ c.toNat)
    (h' : c.toNat < 0x800) :
    encodeOne c =
      [UInt8.ofNat (0xC0 + c.toNat / 0x40), UInt8.ofNat (0x80 + c.toNat % 0x40)] := by
  simp [encodeOne, Nat.not_lt.mpr h, h']

theorem encodeOne_three
    {c : CodePoint}
    (h : 0x800 ≤ c.toNat)
    (h' : c.toNat < 0x10000) :
    encodeOne c =
      [UInt8.ofNat (0xE0 + c.toNat / 0x1000), UInt8.ofNat (0x80 + c.toNat / 0x40 % 0x40),
        UInt8.ofNat (0x80 + c.toNat % 0x40)] := by
  have h₁ : ¬ c.toNat < 0x80 := by omega
  simp [encodeOne, h₁, Nat.not_lt.mpr h, h']

theorem encodeOne_four
    {c : CodePoint}
    (h : 0x10000 ≤ c.toNat) :
    encodeOne c =
      [UInt8.ofNat (0xF0 + c.toNat / 0x40000), UInt8.ofNat (0x80 + c.toNat / 0x1000 % 0x40),
        UInt8.ofNat (0x80 + c.toNat / 0x40 % 0x40), UInt8.ofNat (0x80 + c.toNat % 0x40)] := by
  have h₁ : ¬ c.toNat < 0x80 := by omega
  have h₂ : ¬ c.toNat < 0x800 := by omega
  simp [encodeOne, h₁, h₂, Nat.not_lt.mpr h]

theorem toNat_ofNat_octet
    {n : ℕ}
    (h : n < 0x100) :
    (UInt8.ofNat n).toNat = n := by
  rw [UInt8.toNat_ofNat']
  exact Nat.mod_eq_of_lt h

theorem ofNat_octet
    {octet : UInt8}
    {n : ℕ}
    (h : n = octet.toNat) :
    UInt8.ofNat n = octet := by
  rw [h, UInt8.ofNat_toNat]

/-- An octet with the last six bits of a number goes on to the number. -/
theorem shifted_ofNat
    (n : ℕ) :
    shifted (n / 0x40) (UInt8.ofNat (0x80 + n % 0x40)) = n := by
  have hlast := toNat_ofNat_octet (n := 0x80 + n % 0x40) (by omega)
  unfold shifted
  rw [hlast, Nat.add_sub_cancel_left]
  exact Nat.div_add_mod' n 0x40

/-- A sequence that is the octets of a code point, with its number. -/
theorem Sequence.of_eq
    {octets : Bytes}
    {n : ℕ}
    {c : CodePoint}
    (h : Sequence octets n)
    (hoctets : encodeOne c = octets)
    (hn : n = c.toNat) :
    Sequence (encodeOne c) c.toNat := by
  rw [hoctets, ← hn]
  exact h

/-- **The octets of a code point** that is no surrogate are a sequence. -/
theorem sequence_encodeOne
    {c : CodePoint}
    (hc : c.isSurrogate = false) :
    Sequence (encodeOne c) c.toNat := by
  have hvalid : c.toNat < 0xD800 ∨ 0xE000 ≤ c.toNat := by
    simp only [CodePoint.isSurrogate, decide_eq_false_iff_not] at hc
    omega
  have hlimit := c.isLt
  have hlast : ∀ n, (UInt8.ofNat (0x80 + n % 0x40)).toNat = 0x80 + n % 0x40 :=
    fun n => toNat_ofNat_octet (by omega)
  have hcontinuation : ∀ n, IsContinuation (UInt8.ofNat (0x80 + n % 0x40)) := by
    intro n
    rw [IsContinuation, hlast]
    omega
  by_cases h₁ : c.toNat < 0x80
  · have ha := toNat_ofNat_octet (n := c.toNat) (by omega)
    exact (Sequence.one (by rwa [ha])).of_eq (encodeOne_one h₁) ha
  by_cases h₂ : c.toNat < 0x800
  · have ha := toNat_ofNat_octet (n := 0xC0 + c.toNat / 0x40) (by omega)
    refine (Sequence.two ?_ (hcontinuation c.toNat)).of_eq (encodeOne_two (by omega) h₂) ?_
    · rw [ha]
      omega
    · rw [ha, Nat.add_sub_cancel_left, shifted_ofNat]
  have hshift : c.toNat / 0x1000 = c.toNat / 0x40 / 0x40 := by omega
  by_cases h₃ : c.toNat < 0x10000
  · have ha := toNat_ofNat_octet (n := 0xE0 + c.toNat / 0x1000) (by omega)
    refine (Sequence.three ?_ ?_ ?_ (hcontinuation c.toNat)).of_eq
      (encodeOne_three (by omega) h₃) ?_
    · rw [ha]
      omega
    · rw [ha, hlast]
      split <;> omega
    · rw [ha, hlast]
      split <;> omega
    · rw [ha, Nat.add_sub_cancel_left, hshift, shifted_ofNat, shifted_ofNat]
  · have hshift' : c.toNat / 0x40000 = c.toNat / 0x40 / 0x40 / 0x40 := by omega
    have ha := toNat_ofNat_octet (n := 0xF0 + c.toNat / 0x40000) (by omega)
    refine (Sequence.four ?_ ?_ ?_ (hcontinuation (c.toNat / 0x40))
      (hcontinuation c.toNat)).of_eq (encodeOne_four (by omega)) ?_
    · rw [ha]
      omega
    · rw [ha, hlast]
      split <;> omega
    · rw [ha, hlast]
      split <;> omega
    · rw [ha, Nat.add_sub_cancel_left, hshift, hshift', shifted_ofNat, shifted_ofNat,
        shifted_ofNat]

/-- The numbers of sequences are those of code points that are no surrogates. -/
theorem Sequence.valid
    {octets : Bytes}
    {n : ℕ}
    (h : Sequence octets n) :
    n < 0xD800 ∨ (0xE000 ≤ n ∧ n < 0x110000) := by
  cases h with
  | one ha =>
      omega
  | two ha hb =>
      unfold IsContinuation at hb
      unfold shifted
      omega
  | three ha hb hb' hc =>
      unfold IsContinuation at hc
      unfold shifted
      split at hb <;> split at hb' <;> omega
  | four ha hb hb' hc hd =>
      unfold IsContinuation at hc hd
      unfold shifted
      split at hb <;> split at hb' <;> omega

/-- **A sequence** is the octets of the code point that has its number. -/
theorem Sequence.encodeOne_eq
    {octets : Bytes}
    {c : CodePoint}
    (h : Sequence octets c.toNat) :
    encodeOne c = octets := by
  generalize hn : c.toNat = n at h
  cases h with
  | one ha =>
      rw [encodeOne_one (by omega), ofNat_octet hn]
  | two ha hb =>
      unfold IsContinuation at hb
      unfold shifted at hn
      rw [encodeOne_two (by omega) (by omega)]
      simp only [List.cons.injEq, and_true]
      exact ⟨ofNat_octet (by omega), ofNat_octet (by omega)⟩
  | @three a b c' ha hb hb' hc =>
      unfold IsContinuation at hc
      unfold shifted at hn
      have hbounds : 0x80 ≤ b.toNat ∧ b.toNat ≤ 0xBF ∧
          0x800 ≤ (a.toNat - 0xE0) * 0x1000 + (b.toNat - 0x80) * 0x40 := by
        split at hb <;> split at hb' <;> omega
      rw [encodeOne_three (by omega) (by omega)]
      simp only [List.cons.injEq, and_true]
      exact ⟨ofNat_octet (by omega), ofNat_octet (by omega), ofNat_octet (by omega)⟩
  | @four a b c' d ha hb hb' hc hd =>
      unfold IsContinuation at hc hd
      unfold shifted at hn
      have hbounds : 0x80 ≤ b.toNat ∧ b.toNat ≤ 0xBF ∧
          0x10000 ≤ (a.toNat - 0xF0) * 0x40000 + (b.toNat - 0x80) * 0x1000 := by
        split at hb <;> split at hb' <;> omega
      rw [encodeOne_four (by omega)]
      simp only [List.cons.injEq, and_true]
      exact ⟨ofNat_octet (by omega), ofNat_octet (by omega), ofNat_octet (by omega),
        ofNat_octet (by omega)⟩

/-! ## The decoder -/

section Decoder

variable {position : ℕ} {p : Pending} {octet : UInt8} {rest : Bytes}

/-- What the first octet of a sequence of several announces. -/
inductive Starts (position octet : ℕ) : Pending → Prop
  | two
      (h : 0xC2 ≤ octet ∧ octet ≤ 0xDF) :
      Starts position octet ⟨position, octet, 1, 1, octet - 0xC0, 0x80, 0xBF⟩
  | three
      (h : 0xE0 ≤ octet ∧ octet ≤ 0xEF) :
      Starts position octet
        ⟨position, octet, 1, 2, octet - 0xE0, if octet = 0xE0 then 0xA0 else 0x80,
          if octet = 0xED then 0x9F else 0xBF⟩
  | four
      (h : 0xF0 ≤ octet ∧ octet ≤ 0xF4) :
      Starts position octet
        ⟨position, octet, 1, 3, octet - 0xF0, if octet = 0xF0 then 0x90 else 0x80,
          if octet = 0xF4 then 0x8F else 0xBF⟩

theorem start?_eq_some_iff
    {octet : ℕ} :
    Pending.start? position octet = some p
      ↔
    Starts position octet p := by
  unfold Pending.start?
  constructor
  · intro h
    split at h
    · rename_i hrange
      cases h
      exact Starts.two hrange
    · split at h
      · rename_i hrange
        cases h
        exact Starts.three hrange
      · split at h
        · rename_i hrange
          cases h
          exact Starts.four hrange
        · cases h
  · intro h
    cases h with
    | two h =>
        rw [if_pos h]
    | three h =>
        rw [if_neg (by omega), if_pos h]
    | four h =>
        rw [if_neg (by omega), if_neg (by omega), if_pos h]

/-- The first of several octets starts a sequence. -/
theorem decodeFrom_start
    (h : Starts position octet.toNat p) :
    decodeFrom position none (octet :: rest) = decodeFrom (position + 1) (some p) rest := by
  have hlarge : ¬ octet.toNat < 0x80 := by
    cases h <;> omega
  rw [decodeFrom, if_neg hlarge, start?_eq_some_iff.mpr h]

/-- The last octet of a sequence ends it. -/
theorem decodeFrom_last
    (hrange : p.low ≤ octet.toNat ∧ octet.toNat ≤ p.high)
    (hmissing : p.missing = 1) :
    decodeFrom position (some p) (octet :: rest) =
      (decodeFrom (position + 1) none rest).map (CodePoint.ofNat (shifted p.value octet) :: ·) := by
  rw [decodeFrom, if_pos hrange]
  simp only [hmissing, Nat.le_refl, if_true]
  rfl

/-- Any other octet of a sequence goes on with it. -/
theorem decodeFrom_continue
    (hrange : p.low ≤ octet.toNat ∧ octet.toNat ≤ p.high)
    (hmissing : 1 < p.missing) :
    decodeFrom position (some p) (octet :: rest) =
      decodeFrom (position + 1)
        (some ⟨p.position, p.octet, p.width + 1, p.missing - 1, shifted p.value octet, 0x80, 0xBF⟩)
        rest := by
  have hmore : ¬ p.missing ≤ 1 := Nat.not_le.mpr hmissing
  rw [decodeFrom, if_pos hrange]
  simp only [hmore, if_false]
  rfl

/-- A sequence goes on with an octet in its range, or it is what is wrong. -/
theorem octet_or_fault
    {b : Bytes}
    {outcome : Except DecodeFault Text}
    (h : decodeFrom position (some p) b = outcome) :
    (∃ octet rest, b = octet :: rest ∧ p.low ≤ octet.toNat ∧ octet.toNat ≤ p.high) ∨
      ∃ fault, outcome = .error fault ∧ fault.position = p.position := by
  subst h
  cases b with
  | nil =>
      exact Or.inr ⟨_, rfl, rfl⟩
  | cons octet rest =>
      by_cases hrange : p.low ≤ octet.toNat ∧ octet.toNat ≤ p.high
      · exact Or.inl ⟨octet, rest, rfl, hrange⟩
      · rw [decodeFrom, if_neg hrange]
        exact Or.inr ⟨_, rfl, rfl⟩

/-- **The decoder takes a sequence off** and gives its code point. -/
theorem Sequence.decodeFrom_append
    {octets : Bytes}
    {n : ℕ}
    (h : Sequence octets n)
    (position : ℕ)
    (rest : Bytes) :
    decodeFrom position none (octets ++ rest) =
      (decodeFrom (position + octets.length) none rest).map (CodePoint.ofNat n :: ·) := by
  cases h with
  | one ha =>
      rw [List.cons_append, decodeFrom, if_pos ha]
      rfl
  | two ha hb =>
      rw [List.cons_append, decodeFrom_start (Starts.two ha), List.cons_append, decodeFrom_last]
      · rfl
      · exact hb
      · rfl
  | three ha hb hb' hc =>
      have hmissing : 1 < 2 := by decide
      rw [List.cons_append, decodeFrom_start (Starts.three ha), List.cons_append,
        decodeFrom_continue ⟨hb, hb'⟩ hmissing, List.cons_append, decodeFrom_last]
      · rfl
      · exact hc
      · rfl
  | four ha hb hb' hc hd =>
      have hmissing : 1 < 2 := by decide
      have hmissing' : 1 < 3 := by decide
      rw [List.cons_append, decodeFrom_start (Starts.four ha), List.cons_append,
        decodeFrom_continue ⟨hb, hb'⟩ hmissing', List.cons_append, decodeFrom_continue,
        List.cons_append, decodeFrom_last]
      · rfl
      · exact hd
      · rfl
      · exact hc
      · exact hmissing

/-- **What stands in front** is a sequence, or else it is what is wrong. -/
theorem sequence_or_fault
    {outcome : Except DecodeFault Text}
    (h : decodeFrom position none (octet :: rest) = outcome) :
    (∃ octets n rest', Sequence octets n ∧ octet :: rest = octets ++ rest') ∨
      ∃ fault, outcome = .error fault ∧ fault.position = position := by
  by_cases hone : octet.toNat < 0x80
  · exact Or.inl ⟨_, _, rest, Sequence.one hone, rfl⟩
  cases hstart : Pending.start? position octet.toNat with
  | none =>
      rw [decodeFrom, if_neg hone, hstart] at h
      exact Or.inr ⟨_, h.symm, rfl⟩
  | some p =>
      have hp := start?_eq_some_iff.mp hstart
      have hposition : p.position = position := by
        cases hp <;> rfl
      rw [decodeFrom_start hp] at h
      rcases octet_or_fault h with ⟨b, rest, rfl, hb⟩ | ⟨fault, hfault, hlies⟩
      · cases hp with
        | two ha =>
            exact Or.inl ⟨_, _, rest, Sequence.two ha hb, rfl⟩
        | three ha =>
            have hmissing : 1 < 2 := by decide
            rw [decodeFrom_continue hb hmissing] at h
            rcases octet_or_fault h with ⟨c, rest, rfl, hc⟩ | hfault
            · exact Or.inl ⟨_, _, rest, Sequence.three ha hb.1 hb.2 hc, rfl⟩
            · exact Or.inr hfault
        | four ha =>
            have hmissing : 1 < 2 := by decide
            have hmissing' : 1 < 3 := by decide
            rw [decodeFrom_continue hb hmissing'] at h
            rcases octet_or_fault h with ⟨c, rest, rfl, hc⟩ | hfault
            · rw [decodeFrom_continue hc hmissing] at h
              rcases octet_or_fault h with ⟨d, rest, rfl, hd⟩ | hfault
              · exact Or.inl ⟨_, _, rest, Sequence.four ha hb.1 hb.2 hc hd, rfl⟩
              · exact Or.inr hfault
            · exact Or.inr hfault
      · exact Or.inr ⟨fault, hfault, hlies.trans hposition⟩

/-- What is decoded is a sequence in front of what is decoded after it. -/
theorem exists_sequence_of_decodeFrom
    {t : Text}
    (h : decodeFrom position none (octet :: rest) = .ok t) :
    ∃ octets n rest' position' t', Sequence octets n ∧ octet :: rest = octets ++ rest' ∧
      decodeFrom position' none rest' = .ok t' ∧ t = CodePoint.ofNat n :: t' := by
  rcases sequence_or_fault h with ⟨octets, n, rest', hsequence, hsplit⟩ | ⟨fault, hfault, -⟩
  · rw [hsplit, hsequence.decodeFrom_append] at h
    cases hrest : decodeFrom (position + octets.length) none rest' with
    | error fault =>
        rw [hrest] at h
        cases h
    | ok t' =>
        rw [hrest] at h
        cases h
        exact ⟨octets, n, rest', _, t', hsequence, hsplit, hrest, rfl⟩
  · cases hfault

end Decoder

/-! ## Whole texts -/

theorem ofNat_toNat
    (c : CodePoint) :
    CodePoint.ofNat c.toNat = c := by
  simp [CodePoint.ofNat, c.isLt]

/-- By induction on the text: the decoder takes off the octets of a text without surrogates. -/
theorem decodeFrom_encodeAll_append
    {t : Text}
    (h : t.hasSurrogate = false)
    (position : ℕ)
    (rest : Bytes) :
    decodeFrom position none (encodeAll t ++ rest) =
      (decodeFrom (position + (encodeAll t).length) none rest).map (t ++ ·) := by
  induction t generalizing position with
  | nil =>
      cases hrest : decodeFrom position none rest with
      | error fault =>
          simp [encodeAll, hrest, Except.map]
      | ok t' =>
          simp [encodeAll, hrest, Except.map]
  | cons c t ih =>
      simp only [Text.hasSurrogate, List.any_cons, Bool.or_eq_false_iff] at h
      have hrest := ih h.2 (position + (encodeOne c).length)
      rw [encodeAll] at hrest
      rw [encodeAll, List.flatMap_cons, List.append_assoc,
        (sequence_encodeOne h.1).decodeFrom_append, ofNat_toNat, hrest, List.length_append,
        Nat.add_assoc]
      cases decodeFrom _ none rest <;> rfl

/-- The octets of a text without surrogates are decoded to it. -/
theorem decodeFrom_encodeAll
    {t : Text}
    (h : t.hasSurrogate = false)
    (position : ℕ) :
    decodeFrom position none (encodeAll t) = .ok t := by
  have hall := decodeFrom_encodeAll_append h position []
  rw [List.append_nil] at hall
  rw [hall, decodeFrom]
  simp [Except.map]

/-- A sequence in front of the octets of a text encodes a text with one more code point. -/
theorem Sequence.encodeAll_cons
    {octets : Bytes}
    {n : ℕ}
    (h : Sequence octets n)
    {t : Text}
    (ht : t.hasSurrogate = false) :
    Text.hasSurrogate (CodePoint.ofNat n :: t) = false ∧
      encodeAll (CodePoint.ofNat n :: t) = octets ++ encodeAll t := by
  have hvalid := h.valid
  have hn : (CodePoint.ofNat n).toNat = n := CodePoint.toNat_ofNat (by omega)
  constructor
  · simp only [Text.hasSurrogate, List.any_cons, Bool.or_eq_false_iff]
    refine ⟨?_, ht⟩
    simp only [CodePoint.isSurrogate, decide_eq_false_iff_not, hn]
    omega
  · rw [← hn] at h
    rw [encodeAll, List.flatMap_cons, h.encodeOne_eq, encodeAll]

/-- By induction on the text: what is decoded to it are its octets, and it has no surrogate. -/
theorem encodeAll_of_decodeFrom
    {position : ℕ}
    {b : Bytes}
    {t : Text}
    (h : decodeFrom position none b = .ok t) :
    t.hasSurrogate = false ∧ encodeAll t = b := by
  induction t generalizing position b with
  | nil =>
      cases b with
      | nil =>
          exact ⟨rfl, rfl⟩
      | cons octet rest =>
          obtain ⟨_, _, _, _, _, -, -, -, hnil⟩ := exists_sequence_of_decodeFrom h
          cases hnil
  | cons c t ih =>
      cases b with
      | nil =>
          cases h
      | cons octet rest =>
          obtain ⟨octets, n, rest', position', t', hsequence, hsplit, hrest, hcons⟩ :=
            exists_sequence_of_decodeFrom h
          rw [List.cons.injEq] at hcons
          obtain ⟨rfl, rfl⟩ := hcons
          obtain ⟨hsurrogate, hencode⟩ := ih hrest
          rw [hsplit, ← hencode]
          exact hsequence.encodeAll_cons hsurrogate

/-- **Octets are decoded to a text** iff it has no surrogate and they encode it. -/
theorem decode_eq_ok_iff
    {b : Bytes}
    {t : Text} :
    decode b = .ok t
      ↔
    t.hasSurrogate = false ∧ encodeAll t = b := by
  constructor
  · exact encodeAll_of_decodeFrom
  · rintro ⟨hsurrogate, rfl⟩
    exact decodeFrom_encodeAll hsurrogate 0

/-- No surrogates are found in a text iff it has none. -/
theorem firstSurrogates?_eq_none_iff
    (position : ℕ)
    (t : Text) :
    firstSurrogates? position t = none
      ↔
    t.hasSurrogate = false := by
  induction t generalizing position with
  | nil =>
      simp [firstSurrogates?, Text.hasSurrogate]
  | cons c rest ih =>
      rw [Text.hasSurrogate] at ih ⊢
      cases hc : c.isSurrogate with
      | true =>
          simp [firstSurrogates?, hc]
      | false =>
          simp [firstSurrogates?, hc, ih (position + 1)]

/-- **A text is encoded** iff it has no surrogate. -/
theorem encode_eq_ok_iff
    {t : Text}
    {b : Bytes} :
    encode t = .ok b
      ↔
    t.hasSurrogate = false ∧ encodeAll t = b := by
  rw [← firstSurrogates?_eq_none_iff 0, encode]
  cases firstSurrogates? 0 t <;> simp

/-- What is encoded is decoded again. -/
theorem decode_of_encode
    {t : Text}
    {b : Bytes}
    (h : encode t = .ok b) :
    decode b = .ok t :=
  decode_eq_ok_iff.mpr (encode_eq_ok_iff.mp h)

end CurlRequest.Utf8
