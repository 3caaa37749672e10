import CurlRequest.Json.Truth
import CurlRequest.Text.Case
import Mathlib.Data.List.Basic

/-!
# Texts in upper case

Upper case maps each code point on its own, to one code point or to several.  Whatever it is mapped
to stays as it is when it is mapped again: in the case table no image is the number of a code point
that has another upper case.  So a text in upper case is its own upper case, although it can be
longer than the text that it was made of.

No code point is lost, and the letters of `GET` come from the ASCII letters only: an image of
several code points always has some other code point among them.

**Results.**
* `CodePoint.upper_cases`: a code point stays, or it is mapped by one of the two tables.
* `CaseTable.not_mem_movedNumbers`: the images in the tables stay.
* `Text.upper_eq_nil_iff`: only the empty text is empty in upper case.
* `Text.upper_upper`: upper case of upper case.
* `Text.upper_eq_get_iff`: which texts are `GET` in upper case.
-/

namespace CurlRequest

namespace CaseTable

/-! ## The numbers in the tables -/

/-- The numbers of the members of a run. -/
def CaseRun.members (r : CaseRun) : List Nat :=
  List.range' r.first ((r.last - r.first) / r.stride + 1) r.stride

/-- The numbers of the other cases of the members of a run. -/
def CaseRun.images (r : CaseRun) : List Nat :=
  r.members.map fun n : Nat => ((n : Int) + r.shift).toNat

/-- The numbers of the code points that have another upper case. -/
def movedNumbers : List Nat :=
  upperExpansions.map Prod.fst ++ upperRuns.flatMap CaseRun.members

/-- The numbers of the code points that these are mapped to. -/
def upperNumbers : List Nat :=
  upperExpansions.flatMap Prod.snd ++ upperRuns.flatMap CaseRun.images

/-- A code point that a run maps is a member of the run. -/
theorem CaseRun.mem_members
    {r : CaseRun}
    {n m : Nat}
    (h : r.image? n = some m) :
    n ∈ r.members := by
  simp only [image?, Option.ite_none_right_eq_some] at h
  obtain ⟨⟨hfirst, hlast, hstride⟩, -⟩ := h
  rw [members, List.mem_range']
  refine ⟨(n - r.first) / r.stride, ?_, ?_⟩
  · exact Nat.lt_succ_of_le (Nat.div_le_div_right (by omega))
  · have hsplit := Nat.div_add_mod (n - r.first) r.stride
    omega

/-- What a run maps a code point to is an image of the run. -/
theorem CaseRun.mem_images
    {r : CaseRun}
    {n m : Nat}
    (h : r.image? n = some m) :
    m ∈ r.images := by
  have hmem := mem_members h
  simp only [image?, Option.ite_none_right_eq_some, Option.some.injEq] at h
  obtain ⟨-, rfl⟩ := h
  exact List.mem_map_of_mem hmem

/-! ## Numbers as bits

The tables have some three thousand numbers.  Whether two sets of them meet is decided by the bits
of two numbers, which takes one step. -/

/-- The number whose bits are at the given places. -/
def bits (places : List Nat) : Nat :=
  places.foldr (fun place rest => rest ||| 1 <<< place) 0

/-- The bits of the number are at these places and at no other. -/
theorem testBit_bits_iff
    (places : List Nat)
    (n : Nat) :
    (bits places).testBit n = true
      ↔
    n ∈ places := by
  induction places with
  | nil =>
      simp [bits]
  | cons place rest ih =>
      have hbits : bits (place :: rest) = bits rest ||| 1 <<< place := rfl
      rw [hbits, Nat.testBit_or, Bool.or_eq_true, ih, Nat.one_shiftLeft, Nat.testBit_two_pow,
        decide_eq_true_eq, List.mem_cons, or_comm, eq_comm]

/-- Lists whose bits do not meet have no number in common. -/
theorem not_mem_of_bits
    {places others : List Nat}
    (h : bits places &&& bits others = 0)
    {n : Nat}
    (hn : n ∈ places) :
    n ∉ others := by
  intro hother
  have hboth : (bits places &&& bits others).testBit n = true := by
    rw [Nat.testBit_and, (testBit_bits_iff places n).mpr hn, (testBit_bits_iff others n).mpr hother,
      Bool.and_self]
  rw [h, Nat.zero_testBit] at hboth
  cases hboth

/-- **An image in the tables** has no other upper case. -/
theorem not_mem_movedNumbers
    {n : Nat}
    (h : n ∈ upperNumbers) :
    n ∉ movedNumbers := by
  have hmeet : bits upperNumbers &&& bits movedNumbers = 0 := by
    decide +kernel
  exact not_mem_of_bits hmeet h

/-- An image in the tables is the number of a code point. -/
theorem lt_of_mem_upperNumbers :
    ∀ n ∈ upperNumbers, n < 0x110000 := by
  decide +kernel

end CaseTable

open CaseTable (movedNumbers upperNumbers)
open Json (asciiLower)

/-! ## Code points -/

namespace CodePoint

/-- **The upper case of a code point**: it is mapped to several code points, or to one, or it
stays. -/
theorem upper_cases
    (c : CodePoint) :
    (∃ image, (c.toNat, image) ∈ CaseTable.upperExpansions ∧ c.upper = image.map ofNat) ∨
      (∃ r ∈ CaseTable.upperRuns, ∃ n, r.image? c.toNat = some n ∧ c.upper = [ofNat n]) ∨
        c.upper = [c] := by
  unfold upper mapCase
  split
  · rename_i image hlookup
    obtain ⟨before, after, hsplit, -⟩ := List.lookup_eq_some_iff.mp hlookup
    have hmem : (c.toNat, image) ∈ CaseTable.upperExpansions := by
      rw [hsplit]
      exact List.mem_append_right _ List.mem_cons_self
    exact Or.inl ⟨image, hmem, rfl⟩
  · split
    · rename_i n hrun
      obtain ⟨r, hr, hn⟩ := List.exists_of_findSome?_eq_some hrun
      exact Or.inr (Or.inl ⟨r, hr, n, hn, rfl⟩)
    · exact Or.inr (Or.inr rfl)

/-- A code point whose number is not in the tables stays. -/
theorem upper_of_not_mem
    {c : CodePoint}
    (h : c.toNat ∉ movedNumbers) :
    c.upper = [c] := by
  rcases c.upper_cases with ⟨image, hmem, -⟩ | ⟨r, hr, n, hn, -⟩ | hstay
  · exact absurd (List.mem_append_left _ (List.mem_map_of_mem hmem)) h
  · have hmember := List.mem_flatMap.mpr ⟨r, hr, CaseTable.CaseRun.mem_members hn⟩
    exact absurd (List.mem_append_right _ hmember) h
  · exact hstay

/-- The code point of an image in the tables stays. -/
theorem upper_ofNat
    {n : Nat}
    (h : n ∈ upperNumbers) :
    (ofNat n).upper = [ofNat n] := by
  apply upper_of_not_mem
  rw [toNat_ofNat (CaseTable.lt_of_mem_upperNumbers n h)]
  exact CaseTable.not_mem_movedNumbers h

/-- **What stands in upper case stays**. -/
theorem upper_of_mem_upper
    {c d : CodePoint}
    (h : d ∈ c.upper) :
    d.upper = [d] := by
  rcases c.upper_cases with ⟨image, hmem, himage⟩ | ⟨r, hr, n, hn, himage⟩ | hstay
  · rw [himage] at h
    obtain ⟨n, hn, rfl⟩ := List.mem_map.mp h
    exact upper_ofNat (List.mem_append_left _ (List.mem_flatMap.mpr ⟨_, hmem, hn⟩))
  · rw [himage, List.mem_singleton] at h
    subst h
    have hmember := List.mem_flatMap.mpr ⟨r, hr, CaseTable.CaseRun.mem_images hn⟩
    exact upper_ofNat (List.mem_append_right _ hmember)
  · rw [hstay, List.mem_singleton] at h
    subst h
    exact hstay

/-- No code point is lost in upper case. -/
theorem upper_ne_nil
    (c : CodePoint) :
    c.upper ≠ [] := by
  have himages : ∀ entry ∈ CaseTable.upperExpansions, entry.2 ≠ [] := by
    decide
  rcases c.upper_cases with ⟨image, hmem, himage⟩ | ⟨r, hr, n, hn, himage⟩ | hstay
  · rw [himage]
    simpa using himages _ hmem
  · rw [himage]
    exact List.cons_ne_nil _ _
  · rw [hstay]
    exact List.cons_ne_nil _ _

/-- The runs of the table that have letters of `GET` among their images: the small ASCII letters. -/
theorem upperRuns_cases :
    ∀ r ∈ CaseTable.upperRuns,
      r = ⟨0x61, 0x7A, 1, -32⟩ ∨ ∀ n ∈ r.images, ofNat n ∉ Text.ofString "GET" := by
  decide +kernel

/-- **A code point that becomes letters of `GET`** becomes one of them, and differs from it in the
case of an ASCII letter only. -/
theorem exists_upper_eq
    {c : CodePoint}
    (h : ∀ d ∈ c.upper, d ∈ Text.ofString "GET") :
    ∃ d, c.upper = [d] ∧ asciiLower c = asciiLower d := by
  have himages :
      ∀ entry ∈ CaseTable.upperExpansions, ¬ ∀ n ∈ entry.2, ofNat n ∈ Text.ofString "GET" := by
    decide +kernel
  rcases c.upper_cases with ⟨image, hmem, himage⟩ | ⟨r, hr, n, hn, himage⟩ | hstay
  · -- Some code point of the image is none of the letters.
    refine absurd ?_ (himages _ hmem)
    intro n hn
    apply h
    rw [himage]
    exact List.mem_map_of_mem hn
  · refine ⟨ofNat n, himage, ?_⟩
    rcases upperRuns_cases r hr with rfl | hother
    · simp only [CaseTable.CaseRun.image?, Option.ite_none_right_eq_some, Option.some.injEq] at hn
      obtain ⟨⟨hfirst, hlast, -⟩, rfl⟩ := hn
      have hnumber : ((c.toNat : Int) + -32).toNat = c.toNat - 0x20 := by omega
      have hcapital : (ofNat (c.toNat - 0x20)).toNat = c.toNat - 0x20 := toNat_ofNat (by omega)
      have hback : c.toNat - 0x20 + 0x20 = c.toNat := by omega
      have hsmall : asciiLower c = c := if_neg (by omega)
      have hlowered : asciiLower (ofNat (c.toNat - 0x20)) = ofNat (c.toNat - 0x20 + 0x20) := by
        rw [asciiLower, hcapital]
        exact if_pos (by omega)
      rw [hnumber, hsmall, hlowered, hback]
      simp [ofNat, c.isLt]
    · -- The image would have to be one of the letters.
      refine absurd ?_ (hother n (CaseTable.CaseRun.mem_images hn))
      apply h
      rw [himage]
      exact List.mem_singleton_self _
  · exact ⟨c, hstay, rfl⟩

/-- A code point that is a given one once its letters are small is this one or its capital. -/
theorem eq_or_of_asciiLower
    {c small : CodePoint}
    (h : asciiLower c = small) :
    c = small ∨ (0x41 ≤ c.toNat ∧ c.toNat + 0x20 = small.toNat) := by
  unfold asciiLower at h
  split at h
  · rename_i hcapital
    subst h
    exact Or.inr ⟨hcapital.1, (toNat_ofNat (by omega)).symm⟩
  · exact Or.inl h

/-- A letter of `GET` in either case becomes that letter. -/
theorem upper_of_asciiLower
    {c : CodePoint}
    {small capital : CodePoint}
    (h : asciiLower c = small)
    (hsmall : small.upper = [capital])
    (hcapital : capital.upper = [capital])
    (hnumber : capital.toNat + 0x20 = small.toNat) :
    c.upper = [capital] := by
  rcases eq_or_of_asciiLower h with rfl | ⟨-, hc⟩
  · exact hsmall
  · have hsame : c = capital := by
      rw [CodePoint.mk.injEq]
      omega
    rw [hsame]
    exact hcapital

end CodePoint

/-! ## Texts -/

namespace Text

/-- **Upper case** does not lose all of a text. -/
theorem upper_eq_nil_iff
    {t : Text} :
    t.upper = []
      ↔
    t = [] := by
  cases t with
  | nil =>
      simp [upper]
  | cons c t =>
      simp [upper, CodePoint.upper_ne_nil c]

/-- A text of code points that stay is its own upper case. -/
theorem upper_eq_self
    {t : Text}
    (h : ∀ c ∈ t, c.upper = [c]) :
    t.upper = t := by
  calc
    t.upper = t.flatMap fun c => [c] := List.flatMap_congr h
    _ = t := List.flatMap_singleton' t

/-- **A text in upper case** is its own upper case. -/
theorem upper_upper
    (t : Text) :
    t.upper.upper = t.upper := by
  apply upper_eq_self
  intro d hd
  obtain ⟨c, -, hdc⟩ := List.mem_flatMap.mp hd
  exact CodePoint.upper_of_mem_upper hdc

/-- A text of code points that become one each, and the same up to the case of ASCII letters,
becomes the same up to the case of ASCII letters. -/
theorem map_asciiLower_upper
    {t : Text}
    (h : ∀ c ∈ t, ∃ d, c.upper = [d] ∧ asciiLower c = asciiLower d) :
    t.upper.map asciiLower = t.map asciiLower := by
  induction t with
  | nil =>
      rfl
  | cons c t ih =>
      obtain ⟨d, hd, hlower⟩ := h c List.mem_cons_self
      have hrest := ih fun e he => h e (List.mem_cons_of_mem c he)
      rw [upper] at hrest ⊢
      rw [List.flatMap_cons, hd, List.singleton_append, List.map_cons, List.map_cons, hrest, hlower]

/-- **A text is `GET` in upper case** iff it is `get` up to the case of ASCII letters. -/
theorem upper_eq_get_iff
    {t : Text} :
    t.upper = "GET"
      ↔
    t.map asciiLower = "get" := by
  constructor
  · intro h
    have hletters : ∀ c ∈ t, ∃ d, c.upper = [d] ∧ asciiLower c = asciiLower d := by
      intro c hc
      apply CodePoint.exists_upper_eq
      intro d hd
      rw [← h]
      exact List.mem_flatMap.mpr ⟨c, hc, hd⟩
    rw [← map_asciiLower_upper hletters, h]
    decide
  · intro h
    obtain ⟨c₁, rest₁, rfl, h₁, hrest₁⟩ := List.map_eq_cons_iff.mp h
    obtain ⟨c₂, rest₂, rfl, h₂, hrest₂⟩ := List.map_eq_cons_iff.mp hrest₁
    obtain ⟨c₃, rest₃, rfl, h₃, hrest₃⟩ := List.map_eq_cons_iff.mp hrest₂
    obtain rfl := List.map_eq_nil_iff.mp hrest₃
    have hG : c₁.upper = ['G'] :=
      CodePoint.upper_of_asciiLower h₁ (by decide +kernel) (by decide +kernel) rfl
    have hE : c₂.upper = ['E'] :=
      CodePoint.upper_of_asciiLower h₂ (by decide +kernel) (by decide +kernel) rfl
    have hT : c₃.upper = ['T'] :=
      CodePoint.upper_of_asciiLower h₃ (by decide +kernel) (by decide +kernel) rfl
    rw [upper, List.flatMap_cons, List.flatMap_cons, List.flatMap_cons, hG, hE, hT]
    rfl

end Text

end CurlRequest
