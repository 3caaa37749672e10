import CurlRequest.Proofs.Text.Utf8
import Mathlib.Algebra.Order.Group.Nat

/-!
# Where octets stop being UTF-8

Octets are well-formed if they encode a text.  Of octets that are not, some beginning is the longest
that is well-formed, and the decoder reports its length: a fault never lies in octets that encode a
text, and no sequence stands where it lies.

The scheme of lead and continuation octets is older than the standard and spreads more values over
octets than there are code points.  Three kinds of such octets are excluded: those of a value that
fewer octets could hold, those of a surrogate, and those of a value above `0x10FFFF`.  No text
begins with octets of this kind, so a fault lies where they begin.

**Results.**
* `position_le_of_decodeFrom`: a fault does not lie before the sequence that is being read.
* `exists_text_of_decodeFrom`: what stands before a fault.
* `exists_longestBeginning`, `exists_decode_error_iff`: the position of a fault is the length of the
  longest well-formed beginning.
* `Spread.not_sequence`: octets of an excluded value are not the beginning of a text.
* `longestBeginning_of_spread`: a text in front of such octets is the longest well-formed beginning.
-/

namespace CurlRequest.Utf8

/-- Octets are well-formed if they encode a text; a surrogate is no part of one. -/
def IsWellFormed (b : Bytes) : Prop :=
  ∃ t : Text, t.hasSurrogate = false ∧ encodeAll t = b

/-- A beginning of octets is the longest that is well-formed. -/
structure LongestBeginning (w b : Bytes) : Prop where
  begins : w <+: b
  wellFormed : IsWellFormed w
  longest : ∀ w', w' <+: b → IsWellFormed w' → w'.length ≤ w.length

/-! ## The position of a fault -/

section Decoder

variable {position : ℕ} {b rest : Bytes} {t : Text} {fault : DecodeFault}

/-- What is decoded behind a code point does not change the fault. -/
theorem map_eq_error_iff
    {f : Text → Text}
    {outcome : Except DecodeFault Text} :
    outcome.map f = .error fault
      ↔
    outcome = .error fault := by
  cases outcome <;> simp [Except.map]

/-- By induction on the octets: **a fault does not lie before** the sequence that is being read, or
before the position if none is. -/
theorem position_le_of_decodeFrom
    {reading : Option Pending}
    (h : decodeFrom position reading b = .error fault)
    (hbegan : ∀ p ∈ reading, p.position ≤ position) :
    reading.elim position Pending.position ≤ fault.position := by
  induction b generalizing position reading with
  | nil =>
      cases reading with
      | none =>
          cases h
      | some p =>
          cases h
          exact Nat.le_refl p.position
  | cons octet rest ih =>
      cases reading with
      | none =>
          rw [decodeFrom] at h
          split at h
          · have hlies := ih (map_eq_error_iff.mp h) (by simp)
            exact Nat.le_of_succ_le hlies
          · cases hstart : Pending.start? position octet.toNat with
            | none =>
                rw [hstart] at h
                cases h
                exact Nat.le_refl position
            | some p =>
                have hposition : p.position = position := by
                  cases start?_eq_some_iff.mp hstart <;> rfl
                rw [hstart] at h
                have hlies := ih h (by simp [hposition])
                exact hposition.symm.trans_le hlies
      | some p =>
          have hp := hbegan p rfl
          rw [decodeFrom] at h
          split at h
          · simp only at h
            split at h
            · have hlies := ih (map_eq_error_iff.mp h) (by simp)
              exact Nat.le_trans (Nat.le_succ_of_le hp) hlies
            · have hlies := ih h (by simpa using Nat.le_succ_of_le hp)
              exact hlies
          · cases h
            exact Nat.le_refl p.position

/-- A fault does not lie in octets that encode a text. -/
theorem length_le_of_decodeFrom
    (ht : t.hasSurrogate = false)
    (h : decodeFrom position none (encodeAll t ++ rest) = .error fault) :
    position + (encodeAll t).length ≤ fault.position := by
  rw [decodeFrom_encodeAll_append ht, map_eq_error_iff] at h
  exact position_le_of_decodeFrom h (by simp)

/-- A sequence is not empty. -/
theorem Sequence.length_pos
    {octets : Bytes}
    {n : ℕ}
    (h : Sequence octets n) :
    0 < octets.length := by
  cases h <;> simp

/-- By induction on the number of octets: **what stands before a fault** encodes a text. -/
theorem exists_text_of_decodeFrom
    (h : decodeFrom position none b = .error fault) :
    ∃ t rest, t.hasSurrogate = false ∧ b = encodeAll t ++ rest ∧
      fault.position = position + (encodeAll t).length := by
  induction hlength : b.length using Nat.strongRecOn generalizing position b with
  | ind length ih =>
      cases b with
      | nil =>
          cases h
      | cons octet rest =>
          rcases sequence_or_fault h with ⟨octets, n, rest', hsequence, hsplit⟩ | ⟨_, hfault, hlies⟩
          · -- The sequence is the first code point of the text.
            have hshorter : rest'.length < length := by
              have hpositive := hsequence.length_pos
              rw [← hlength, hsplit, List.length_append]
              omega
            rw [hsplit, hsequence.decodeFrom_append, map_eq_error_iff] at h
            obtain ⟨t, rest'', ht, rfl, hlies⟩ := ih _ hshorter h rfl
            obtain ⟨hsurrogate, hencode⟩ := hsequence.encodeAll_cons ht
            refine ⟨CodePoint.ofNat n :: t, rest'', hsurrogate, ?_, ?_⟩
            · rw [hsplit, hencode, List.append_assoc]
            · rw [hlies, hencode, List.length_append, Nat.add_assoc]
          · cases hfault
            exact ⟨[], octet :: rest, rfl, rfl, hlies⟩

end Decoder

/-- **Octets are not decoded** iff they are not well-formed. -/
theorem exists_decode_error_iff
    {b : Bytes} :
    (∃ fault, decode b = .error fault)
      ↔
    ¬ IsWellFormed b := by
  constructor
  · rintro ⟨fault, hfault⟩ ⟨t, ht⟩
    rw [decode_eq_ok_iff.mpr ht] at hfault
    cases hfault
  · intro hnot
    cases hdecode : decode b with
    | error fault =>
        exact ⟨fault, rfl⟩
    | ok t =>
        exact absurd ⟨t, decode_eq_ok_iff.mp hdecode⟩ hnot

/-- Octets have one longest well-formed beginning. -/
theorem LongestBeginning.unique
    {w w' b : Bytes}
    (h : LongestBeginning w b)
    (h' : LongestBeginning w' b) :
    w = w' := by
  have hlength : w.length = w'.length :=
    Nat.le_antisymm (h'.longest w h.begins h.wellFormed) (h.longest w' h'.begins h'.wellFormed)
  have hbegins := List.prefix_of_prefix_length_le h.begins h'.begins (Nat.le_of_eq hlength)
  exact hbegins.eq_of_length hlength

/-- A text in front of a fault that lies at its end is the longest well-formed beginning. -/
theorem longestBeginning_of_position
    {t : Text}
    {rest : Bytes}
    {fault : DecodeFault}
    (ht : t.hasSurrogate = false)
    (h : decode (encodeAll t ++ rest) = .error fault)
    (hlies : fault.position = (encodeAll t).length) :
    LongestBeginning (encodeAll t) (encodeAll t ++ rest) := by
  refine ⟨List.prefix_append _ _, ⟨t, ht, rfl⟩, ?_⟩
  rintro _ ⟨rest', hrest⟩ ⟨t', ht', rfl⟩
  rw [← hrest] at h
  have hle := length_le_of_decodeFrom ht' h
  rwa [Nat.zero_add, hlies] at hle

/-- **The position of a fault** is the length of the longest well-formed beginning. -/
theorem exists_longestBeginning
    {b : Bytes}
    {fault : DecodeFault}
    (h : decode b = .error fault) :
    ∃ w, LongestBeginning w b ∧ fault.position = w.length := by
  obtain ⟨t, rest, ht, rfl, hlies⟩ := exists_text_of_decodeFrom h
  rw [Nat.zero_add] at hlies
  exact ⟨encodeAll t, longestBeginning_of_position ht h hlies, hlies⟩

/-- What is said of a fault in octets: a position, and the last one if several octets are at
fault. -/
inductive TellsPosition (position : ℕ) : Text → Prop
  | one
      (octet : ℕ)
      (m : Malformation) :
      TellsPosition position
        ("'utf-8' codec can't decode byte 0x" ++ Text.hex 2 octet ++ " in position " ++
          Text.ofNat position ++ ": " ++ m.message)
  | several
      (last : ℕ)
      (m : Malformation) :
      TellsPosition position
        ("'utf-8' codec can't decode bytes in position " ++
          (Text.ofNat position ++ "-" ++ Text.ofNat last) ++ ": " ++ m.message)

/-- What is said of a fault tells its position. -/
theorem tellsPosition_message
    (fault : DecodeFault) :
    TellsPosition fault.position fault.message := by
  unfold DecodeFault.message
  split
  · exact TellsPosition.one _ _
  · rename_i hwidth
    rw [spanText, if_neg hwidth]
    exact TellsPosition.several _ _

/-! ## Excluded values -/

/-- How many continuation octets a lead octet announces. -/
def tailLength (lead : ℕ) : ℕ :=
  if lead < 0xE0 then 1
  else if lead < 0xF0 then 2
  else if lead < 0xF8 then 3
  else if lead < 0xFC then 4
  else 5

/-- The octets that a value is spread over: the lead octet has its highest bits, and each
continuation octet the next six. -/
inductive Spread : Bytes → ℕ → Prop
  | mk
      {lead : UInt8}
      {tail : Bytes}
      (hlead : 0xC0 ≤ lead.toNat ∧ lead.toNat < 0xFE)
      (hlength : tail.length = tailLength lead.toNat)
      (htail : ∀ octet ∈ tail, IsContinuation octet) :
      Spread (lead :: tail) (tail.foldl shifted (lead.toNat % 2 ^ (6 - tailLength lead.toNat)))

/-- The least value that does not fit into fewer octets. -/
def leastValue (length : ℕ) : ℕ :=
  if length ≤ 2 then 0x80
  else if length = 3 then 0x800
  else if length = 4 then 0x10000
  else if length = 5 then 0x200000
  else 0x4000000

/-- A value that must not be spread over octets: fewer of them could hold it, it is a surrogate, or
it is too large for a code point. -/
def IsExcluded (length value : ℕ) : Prop :=
  value < leastValue length ∨ (0xD800 ≤ value ∧ value < 0xE000) ∨ 0x110000 ≤ value

/-- A sequence of several octets is a lead octet with as many others as it announces, and its number
is the value that is spread over them, which does not fit into fewer. -/
theorem Sequence.spread
    {lead : UInt8}
    {tail : Bytes}
    {n : ℕ}
    (h : Sequence (lead :: tail) n)
    (hlead : 0xC0 ≤ lead.toNat) :
    tail.length = tailLength lead.toNat ∧
      n = tail.foldl shifted (lead.toNat % 2 ^ (6 - tailLength lead.toNat)) ∧
      leastValue (tail.length + 1) ≤ n := by
  cases h with
  | one ha =>
      omega
  | two ha hb =>
      have hlength : tailLength lead.toNat = 1 := by
        rw [tailLength, if_pos (by omega)]
      have hbits : lead.toNat % 2 ^ (6 - tailLength lead.toNat) = lead.toNat - 0xC0 := by
        simp only [hlength, Nat.reduceSub, Nat.reducePow]
        omega
      refine ⟨hlength.symm, by rw [hbits]; rfl, ?_⟩
      change 0x80 ≤ _
      unfold shifted
      omega
  | three ha hb hb' hc =>
      have hlength : tailLength lead.toNat = 2 := by
        rw [tailLength, if_neg (by omega), if_pos (by omega)]
      have hbits : lead.toNat % 2 ^ (6 - tailLength lead.toNat) = lead.toNat - 0xE0 := by
        simp only [hlength, Nat.reduceSub, Nat.reducePow]
        omega
      refine ⟨hlength.symm, by rw [hbits]; rfl, ?_⟩
      change 0x800 ≤ _
      unfold shifted
      split at hb <;> omega
  | four ha hb hb' hc hd =>
      have hlength : tailLength lead.toNat = 3 := by
        rw [tailLength, if_neg (by omega), if_neg (by omega), if_pos (by omega)]
      have hbits : lead.toNat % 2 ^ (6 - tailLength lead.toNat) = lead.toNat - 0xF0 := by
        simp only [hlength, Nat.reduceSub, Nat.reducePow]
        omega
      refine ⟨hlength.symm, by rw [hbits]; rfl, ?_⟩
      change 0x10000 ≤ _
      unfold shifted
      split at hb <;> omega

/-- **Octets of an excluded value** are not the beginning of a sequence with anything behind it. -/
theorem Spread.not_sequence
    {octets : Bytes}
    {value : ℕ}
    (h : Spread octets value)
    (hexcluded : IsExcluded octets.length value)
    {octets' tail rest : Bytes}
    {n : ℕ}
    (hsequence : Sequence octets' n) :
    octets ++ rest ≠ octets' ++ tail := by
  intro heq
  cases h with
  | @mk lead continuation hlead hlength htail =>
      cases octets' with
      | nil =>
          cases hsequence
      | cons lead' continuation' =>
          simp only [List.cons_append, List.cons.injEq] at heq
          obtain ⟨rfl, hrest⟩ := heq
          obtain ⟨hlength', hn, hleast⟩ := hsequence.spread hlead.1
          -- Both have as many octets as their common lead octet announces.
          obtain ⟨rfl, -⟩ := List.append_inj hrest (hlength.trans hlength'.symm)
          have hvalid := hsequence.valid
          rw [← hn] at hexcluded
          rw [IsExcluded, List.length_cons] at hexcluded
          omega

/-- **A text in front of the octets of an excluded value** is the longest well-formed beginning, and
the whole is not well-formed. -/
theorem longestBeginning_of_spread
    {t : Text}
    {octets rest : Bytes}
    {value : ℕ}
    (ht : t.hasSurrogate = false)
    (h : Spread octets value)
    (hexcluded : IsExcluded octets.length value) :
    ¬ IsWellFormed (encodeAll t ++ (octets ++ rest)) ∧
      LongestBeginning (encodeAll t) (encodeAll t ++ (octets ++ rest)) := by
  obtain ⟨fault, hfault, hlies⟩ : ∃ fault,
      decodeFrom (encodeAll t).length none (octets ++ rest) = .error fault ∧
        fault.position = (encodeAll t).length := by
    have hnone : ∀ octets' n tail, Sequence octets' n → octets ++ rest ≠ octets' ++ tail :=
      fun _ _ _ hsequence => h.not_sequence hexcluded hsequence
    cases h with
    | mk hlead hlength htail =>
        rw [List.cons_append]
        rcases sequence_or_fault rfl with ⟨octets', n, tail, hsequence, hsplit⟩ | hfault
        · exact absurd hsplit (hnone octets' n tail hsequence)
        · exact hfault
  have hdecode : decode (encodeAll t ++ (octets ++ rest)) = .error fault := by
    rw [decode, decodeFrom_encodeAll_append ht, Nat.zero_add, hfault]
    rfl
  exact ⟨exists_decode_error_iff.mp ⟨fault, hdecode⟩, longestBeginning_of_position ht hdecode hlies⟩

end CurlRequest.Utf8
