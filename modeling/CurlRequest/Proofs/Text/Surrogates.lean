import CurlRequest.Text
import Mathlib.Data.List.Basic

/-!
# Texts without surrogates

A text that is made of core strings, of numbers and of parts of texts without surrogates has no
surrogate, so it can be encoded.
-/

namespace CurlRequest

/-- A core character is no surrogate. -/
theorem CodePoint.isSurrogate_ofChar
    (c : Char) :
    (CodePoint.ofChar c).isSurrogate = false := by
  have hnumber : (CodePoint.ofChar c).toNat = c.toNat := rfl
  rw [CodePoint.isSurrogate, decide_eq_false_iff_not, hnumber]
  rcases c.valid with h | ⟨h, -⟩
  · have hlow : c.toNat < 0xD800 := h
    omega
  · have hhigh : 0xDFFF < c.toNat := h
    omega

namespace Text

variable {t u : Text}

theorem hasSurrogate_eq_false_iff :
    t.hasSurrogate = false
      ↔
    ∀ c ∈ t, c.isSurrogate = false := by
  rw [hasSurrogate, List.any_eq_false]
  simp only [Bool.not_eq_true]

@[simp] theorem hasSurrogate_append :
    (t ++ u).hasSurrogate = (t.hasSurrogate || u.hasSurrogate) :=
  List.any_append

/-- A text that holds nothing but what another one holds. -/
theorem hasSurrogate_of_subset
    (hsubset : t ⊆ u)
    (h : u.hasSurrogate = false) :
    t.hasSurrogate = false := by
  rw [hasSurrogate_eq_false_iff] at h ⊢
  exact fun c hc => h c (hsubset hc)

/-- Core characters have no surrogate. -/
theorem hasSurrogate_map_ofChar
    (cs : List Char) :
    Text.hasSurrogate (cs.map CodePoint.ofChar) = false := by
  rw [hasSurrogate_eq_false_iff]
  intro c hc
  obtain ⟨d, -, rfl⟩ := List.mem_map.mp hc
  exact CodePoint.isSurrogate_ofChar d

@[simp] theorem hasSurrogate_ofString
    (s : String) :
    (Text.ofString s).hasSurrogate = false :=
  hasSurrogate_map_ofChar s.toList

@[simp] theorem hasSurrogate_ofNat
    (n : Nat) :
    (Text.ofNat n).hasSurrogate = false :=
  hasSurrogate_map_ofChar (Nat.toDigits 10 n)

@[simp] theorem hasSurrogate_replicate
    (n : Nat)
    (c : Char) :
    Text.hasSurrogate (List.replicate n (c : CodePoint)) = false := by
  rw [← List.map_replicate]
  exact hasSurrogate_map_ofChar _

@[simp] theorem hasSurrogate_hex
    (width n : Nat) :
    (Text.hex width n).hasSurrogate = false := by
  simp only [Text.hex, hasSurrogate_append, hasSurrogate_replicate, hasSurrogate_map_ofChar,
    Bool.or_false]

/-- A text that is rewritten code point by code point, surrogates and nothing else to surrogates. -/
theorem hasSurrogate_flatMap
    {image : CodePoint → Text}
    (himage : ∀ c, (image c).hasSurrogate = c.isSurrogate)
    (t : Text) :
    Text.hasSurrogate (t.flatMap image) = t.hasSurrogate := by
  induction t with
  | nil =>
      rfl
  | cons c t ih =>
      rw [List.flatMap_cons, hasSurrogate_append, himage, ih]
      rfl

/-- A separator without a surrogate adds none to the texts that it joins. -/
theorem hasSurrogate_join
    {separator : Text}
    (hseparator : separator.hasSurrogate = false) :
    ∀ texts : List Text, (join separator texts).hasSurrogate = texts.any hasSurrogate
  | [] => rfl
  | [t] => by
      simp only [join, List.any_cons, List.any_nil, Bool.or_false]
  | t :: u :: rest => by
      simp only [join, hasSurrogate_append, hseparator, Bool.or_false, List.any_cons,
        hasSurrogate_join hseparator (u :: rest)]

end Text

end CurlRequest
