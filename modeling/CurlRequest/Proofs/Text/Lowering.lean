import CurlRequest.Text.Case
import Mathlib.Data.List.Infix
import Mathlib.Tactic.SplitIfs

/-!
# Words in lower-case text

The lower case of a text can be longer than the text, and that of a sigma depends on what stands
around it.  None of this matters to who looks for a word of small ASCII letters and hyphens: the
letters of such a word come from the 26 capital letters and the Kelvin sign, or they are there
already.

There is one exception.  The capital I with a dot becomes a small i and a mark, so an i can be there
that no letter of its own stands for.  The mark comes right behind it, and therefore a word that
does not end in i cannot use it.

**Results.**
* `CodePoint.lowered_lower`: the three kinds of lower-case images.
* `Text.exists_lowerAfter_cons`: the lower case of a text, code point by code point.
* `Text.prefix_lowerAfter_iff`: where a word stands at the beginning.
* `Text.infix_lower_iff`: a word stands in the lower case of a text iff it stands in the text with
  its letters folded.
-/

namespace CurlRequest

open CaseTable (CaseRun)

namespace CodePoint

/-- The small ASCII letters and the hyphen, of which words are made here. -/
def isWordSign (c : CodePoint) : Bool :=
  decide ((0x61 ≤ c.toNat ∧ c.toNat ≤ 0x7A) ∨ c.toNat = 0x2D)

/-- The folding of letters: the capital ASCII letters become small, the Kelvin sign becomes a small
k, and all else stays as it is. -/
def foldLetter (c : CodePoint) : CodePoint :=
  if 0x41 ≤ c.toNat ∧ c.toNat ≤ 0x5A then ofNat (c.toNat + 0x20)
  else if c.toNat = 0x212A then 'k'
  else c

/-- Beyond ASCII there are no word signs. -/
theorem isWordSign_of_le
    {c : CodePoint}
    (h : 0x80 ≤ c.toNat) :
    c.isWordSign = false := by
  rw [isWordSign, decide_eq_false_iff_not]
  omega

/-- A code point that is neither a capital ASCII letter nor the Kelvin sign is not folded. -/
theorem foldLetter_of_ne
    {c : CodePoint}
    (hcapital : ¬ (0x41 ≤ c.toNat ∧ c.toNat ≤ 0x5A))
    (hkelvin : c.toNat ≠ 0x212A) :
    c.foldLetter = c := by
  rw [foldLetter, if_neg hcapital, if_neg hkelvin]

/-- The number of a code point that has one beyond ASCII. -/
theorem le_toNat_ofNat
    {n : Nat}
    (h : 0x80 ≤ n) :
    0x80 ≤ (ofNat n).toNat := by
  unfold ofNat
  split_ifs
  · exact h
  · decide

/-! ## Images -/

/-- **What lower case makes of a code point**, as far as words can tell. -/
inductive Lowered (c : CodePoint) : Text → Prop
  /-- The folded letter. -/
  | folded : Lowered c [c.foldLetter]
  /-- A code point that belongs to no word, of one that belongs to none either. -/
  | foreign
      {d : CodePoint}
      (hd : d.isWordSign = false)
      (hc : c.foldLetter.isWordSign = false) :
      Lowered c [d]
  /-- An i and a mark, of a code point that belongs to no word. -/
  | dotted
      {mark : CodePoint}
      (hmark : mark.isWordSign = false)
      (hc : c.foldLetter.isWordSign = false) :
      Lowered c [('i' : Char), mark]

/-- The runs of the table that have members or images in ASCII: the capital letters and the Kelvin
sign. -/
theorem lowerRuns_cases :
    ∀ r ∈ CaseTable.lowerRuns,
      r = ⟨0x41, 0x5A, 1, 32⟩ ∨ r = ⟨0x212A, 0x212A, 1, -8383⟩ ∨
        (0x80 ≤ r.first ∧ 0x80 ≤ (r.first : Int) + r.shift ∧
          ¬ (r.first ≤ 0x212A ∧ 0x212A ≤ r.last)) := by
  decide +kernel

/-- A code point that the table gives another case. -/
theorem lowered_of_image
    {c : CodePoint}
    {r : CaseRun}
    {n : Nat}
    (hr : r ∈ CaseTable.lowerRuns)
    (himage : r.image? c.toNat = some n) :
    Lowered c [ofNat n] := by
  simp only [CaseRun.image?, Option.ite_none_right_eq_some, Option.some.injEq] at himage
  obtain ⟨⟨hfirst, hlast, -⟩, rfl⟩ := himage
  rcases lowerRuns_cases r hr with rfl | rfl | ⟨hbeyond, himage, hkelvin⟩
  · have hfold : c.foldLetter = ofNat (c.toNat + 0x20) := by
      rw [foldLetter, if_pos ⟨hfirst, hlast⟩]
    have himage : ((c.toNat : Int) + 32).toNat = c.toNat + 0x20 := by omega
    rw [himage, ← hfold]
    exact .folded
  · have hc : c.toNat = 0x212A := Nat.le_antisymm hlast hfirst
    have hfold : c.foldLetter = ofNat 0x6B := by
      rw [foldLetter, hc]
      rfl
    have himage : ((c.toNat : Int) + -8383).toNat = 0x6B := by omega
    rw [himage, ← hfold]
    exact .folded
  · have hfold : c.foldLetter = c := by
      apply foldLetter_of_ne
      · omega
      · rintro hc
        rw [hc] at hfirst hlast
        exact hkelvin ⟨hfirst, hlast⟩
    apply Lowered.foreign
    · exact isWordSign_of_le (le_toNat_ofNat (by omega))
    · rw [hfold]
      exact isWordSign_of_le (by omega)

/-- A code point that the table gives no other case. -/
theorem foldLetter_of_no_image
    {c : CodePoint}
    (h : ∀ r ∈ CaseTable.lowerRuns, r.image? c.toNat = none) :
    c.foldLetter = c := by
  have hcapital : CaseRun.mk 0x41 0x5A 1 32 ∈ CaseTable.lowerRuns := by decide +kernel
  have hkelvin : CaseRun.mk 0x212A 0x212A 1 (-8383) ∈ CaseTable.lowerRuns := by decide +kernel
  apply foldLetter_of_ne
  · intro hc
    have hnone := h _ hcapital
    simp [CaseRun.image?, Nat.mod_one, hc] at hnone
  · intro hc
    have hnone := h _ hkelvin
    simp [CaseRun.image?, hc] at hnone

/-- **The lower case of a code point** by itself. -/
theorem lowered_lower
    (c : CodePoint) :
    Lowered c c.lower := by
  unfold lower mapCase
  by_cases hdotted : c.toNat = 0x130
  · have himage : CaseTable.lowerExpansions.lookup c.toNat = some [0x69, 0x307] := by
      rw [hdotted]
      rfl
    rw [himage]
    refine Lowered.dotted (isWordSign_of_le (by decide)) ?_
    rw [foldLetter_of_ne (by omega) (by omega)]
    exact isWordSign_of_le (by omega)
  · have himage : CaseTable.lowerExpansions.lookup c.toNat = none := by
      simp [CaseTable.lowerExpansions, List.lookup_cons, beq_false_of_ne hdotted]
    rw [himage]
    cases hrun : CaseTable.lowerRuns.findSome? (·.image? c.toNat) with
    | some n =>
        obtain ⟨r, hr, hn⟩ := List.exists_of_findSome?_eq_some hrun
        exact lowered_of_image hr hn
    | none =>
        have hfold := foldLetter_of_no_image (List.findSome?_eq_none_iff.mp hrun)
        have hfolded : Lowered c [c.foldLetter] := .folded
        rw [hfold] at hfolded
        exact hfolded

end CodePoint

open CodePoint (Lowered foldLetter isWordSign)

namespace Text

/-- **The lower case of a text**, code point by code point, whatever stands before it. -/
theorem exists_lowerAfter_cons
    (before : Text)
    (c : CodePoint)
    (rest : Text) :
    ∃ image,
      Lowered c image ∧ lowerAfter before (c :: rest) = image ++ lowerAfter (c :: before) rest := by
  by_cases hsigma : c = ('Σ' : Char)
  · -- Both forms of the small sigma belong to no word.
    subst hsigma
    simp only [lowerAfter, if_true]
    split_ifs
    · exact ⟨_, .foreign (by decide) (by decide), rfl⟩
    · exact ⟨_, .foreign (by decide) (by decide), rfl⟩
  · refine ⟨c.lower, c.lowered_lower, ?_⟩
    simp only [lowerAfter, if_neg hsigma]

/-! ## Words -/

/-- A word of small letters and hyphens that does not end in an i. -/
structure IsLowerWord (word : Text) : Prop where
  signs : ∀ c ∈ word, isWordSign c = true
  ending : word.getLast? ≠ some ('i' : Char)

instance (word : Text) : Decidable (IsLowerWord word) :=
  decidable_of_iff
    ((∀ c ∈ word, isWordSign c = true) ∧ word.getLast? ≠ some ('i' : Char))
    ⟨fun h => ⟨h.1, h.2⟩, fun h => ⟨h.signs, h.ending⟩⟩

/-- The rest of a word is such a word. -/
theorem IsLowerWord.tail
    {c : CodePoint}
    {word : Text}
    (h : IsLowerWord (c :: word)) :
    IsLowerWord word where
  signs d hd := h.signs d (List.mem_cons_of_mem c hd)
  ending := by
    have hending := h.ending
    cases word with
    | nil =>
        simp
    | cons d rest =>
        rw [List.getLast?_cons_cons] at hending
        exact hending

/-- A word does not begin with a sign that belongs to no word. -/
theorem IsLowerWord.not_prefix
    {c d : CodePoint}
    {word text : Text}
    (h : IsLowerWord (c :: word))
    (hd : d.isWordSign = false) :
    ¬ (c :: word) <+: (d :: text) := by
  intro hprefix
  obtain ⟨rfl, -⟩ := List.cons_prefix_cons.mp hprefix
  rw [h.signs c List.mem_cons_self] at hd
  cases hd

/-- **A word stands at the beginning** of the lower case of a text iff it stands at the beginning of
the text with its letters folded. -/
theorem prefix_lowerAfter_iff
    {word : Text}
    (hword : IsLowerWord word)
    (before text : Text) :
    word <+: lowerAfter before text
      ↔
    word <+: text.map foldLetter := by
  induction text generalizing word before with
  | nil =>
      exact Iff.rfl
  | cons c text ih =>
      cases word with
      | nil =>
          simp only [List.nil_prefix]
      | cons d word =>
          obtain ⟨image, himage, heq⟩ := exists_lowerAfter_cons before c text
          rw [heq, List.map_cons]
          cases himage with
          | folded =>
              rw [List.singleton_append, List.cons_prefix_cons, List.cons_prefix_cons,
                ih hword.tail (c :: before)]
          | foreign hd hc =>
              rw [List.singleton_append]
              exact iff_of_false (hword.not_prefix hd) (hword.not_prefix hc)
          | @dotted mark hmark hc =>
              refine iff_of_false ?_ (hword.not_prefix hc)
              intro hprefix
              obtain ⟨rfl, hrest⟩ := List.cons_prefix_cons.mp hprefix
              -- The word goes on behind the i, and the mark is none of its signs.
              cases word with
              | nil =>
                  exact hword.ending rfl
              | cons e word =>
                  exact hword.tail.not_prefix hmark hrest

/-- A word stands in the lower case of a text, whatever stands before it, iff it stands in the text
with its letters folded. -/
theorem infix_lowerAfter_iff
    {word : Text}
    (hword : IsLowerWord word)
    (before text : Text) :
    word <:+: lowerAfter before text
      ↔
    word <:+: text.map foldLetter := by
  induction text generalizing before with
  | nil =>
      exact Iff.rfl
  | cons c text ih =>
      have hbegin := prefix_lowerAfter_iff hword before (c :: text)
      obtain ⟨image, himage, heq⟩ := exists_lowerAfter_cons before c text
      rw [heq, List.map_cons] at hbegin
      rw [heq, List.map_cons, List.infix_cons_iff, ← hbegin, ← ih (c :: before)]
      cases himage with
      | folded =>
          rw [List.singleton_append, List.infix_cons_iff]
      | foreign hd hc =>
          rw [List.singleton_append, List.infix_cons_iff]
      | @dotted mark hmark hc =>
          rw [List.cons_append, List.singleton_append, List.infix_cons_iff, List.infix_cons_iff]
          refine or_congr_right ⟨?_, Or.inr⟩
          rintro (hmiddle | hlater)
          · -- No word begins at the mark, unless it is empty.
            cases word with
            | nil =>
                exact List.nil_infix
            | cons d word =>
                exact absurd hmiddle (hword.not_prefix hmark)
          · exact hlater

/-- **A word stands in the lower case of a text** iff it stands in the text with its letters
folded. -/
theorem infix_lower_iff
    {word : Text}
    (hword : IsLowerWord word)
    (text : Text) :
    word <:+: text.lower
      ↔
    word <:+: text.map foldLetter :=
  infix_lowerAfter_iff hword [] text

/-- Occurring in a text is standing in it. -/
theorem occursIn_iff_infix
    (needle text : Text) :
    needle.occursIn text = true
      ↔
    needle <:+: text := by
  induction text with
  | nil =>
      rw [occursIn, List.isEmpty_iff, List.infix_nil]
  | cons c text ih =>
      rw [occursIn, Bool.or_eq_true, List.isPrefixOf_iff_prefix, ih, List.infix_cons_iff]

end Text

end CurlRequest
