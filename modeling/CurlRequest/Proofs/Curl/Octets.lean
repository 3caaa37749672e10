import CurlRequest.Proofs.Curl.Description
import CurlRequest.Proofs.Text.WellFormed

/-!
# Descriptions in octets

Octets that encode a text are the description that the text is.  All others are refused before
anything else is looked at, and the refusal tells how many octets in front of the fault encode a
text.  Where octets of a value that UTF-8 excludes follow a text, it is the length of this text.

**Results.**
* `toJson_bytes_of_not_wellFormed`: what is said of octets that encode no text.
* `toJson_bytes`: the outcome for all octets, and the forms that do not count as UTF-8.
-/

namespace CurlRequest.Curl.Description

open Utf8 (IsWellFormed LongestBeginning TellsPosition Spread IsExcluded)

/-- Octets that encode no text are refused, and the length of the longest beginning that does is
told. -/
theorem toJson_bytes_of_not_wellFormed
    {b : Bytes}
    (h : ¬ IsWellFormed b) :
    ∃ w detail, LongestBeginning w b ∧ TellsPosition w.length detail ∧
      (bytes b).toJson = .error (.request (.malformed detail)) := by
  obtain ⟨fault, hfault⟩ := Utf8.exists_decode_error_iff.mpr h
  obtain ⟨w, hw, hlies⟩ := Utf8.exists_longestBeginning hfault
  refine ⟨w, fault.message, hw, ?_, ?_⟩
  · rw [← hlies]
    exact Utf8.tellsPosition_message fault
  · rw [toJson, hfault]

/-- **Descriptions in octets.**  If the octets encode a text, the outcome is that of the text.  If
they encode none, they are malformed whatever else could be said of them, and the position that is
told is the length of the longest beginning that encodes a text.  Octets of a value that fewer
octets could hold, of a surrogate, or of a value that is too large never count: a text in front of
them is the longest such beginning. -/
theorem toJson_bytes
    (b : Bytes) :
    (∀ t, t.hasSurrogate = false → Utf8.encodeAll t = b →
        (bytes b).toJson = (text t).toJson) ∧
      (¬ IsWellFormed b →
        ∃ w detail, LongestBeginning w b ∧ TellsPosition w.length detail ∧
          (bytes b).toJson = .error (.request (.malformed detail))) ∧
      ∀ t octets value rest,
        t.hasSurrogate = false → Spread octets value → IsExcluded octets.length value →
          b = Utf8.encodeAll t ++ (octets ++ rest) →
            ¬ IsWellFormed b ∧ LongestBeginning (Utf8.encodeAll t) b := by
  refine ⟨?_, toJson_bytes_of_not_wellFormed, ?_⟩
  · rintro t ht rfl
    exact (TextOf.bytes ht).toJson_eq
  · rintro t octets value rest ht hspread hexcluded rfl
    exact Utf8.longestBeginning_of_spread ht hspread hexcluded

/-- The octets of a surrogate behind a text of two octets. -/
def surrogateOctets : Bytes :=
  [0xC3, 0xA9, 0xED, 0xA0, 0x80, 0x20]

/-- The text is the longest beginning that is UTF-8, and its length is told. -/
theorem toJson_bytes_surrogate :
    ∃ detail, TellsPosition 2 detail ∧
      (bytes surrogateOctets).toJson = .error (.request (.malformed detail)) := by
  have hspread : Spread [0xED, 0xA0, 0x80] 0xD800 := by
    refine Spread.mk (by decide) rfl ?_
    simp [Utf8.IsContinuation]
  have hexcluded : IsExcluded 3 0xD800 := Or.inr (Or.inl (by decide))
  obtain ⟨-, hrefused, hexcludes⟩ := toJson_bytes surrogateOctets
  obtain ⟨hnot, hlongest⟩ :=
    hexcludes "é" [0xED, 0xA0, 0x80] 0xD800 [0x20] (by decide) hspread hexcluded (by decide)
  obtain ⟨w, detail, hw, htells, houtcome⟩ := hrefused hnot
  rw [hw.unique hlongest] at htells
  exact ⟨detail, htells, houtcome⟩

end CurlRequest.Curl.Description
