import CurlRequest.Proofs.Text.Cutting
import CurlRequest.Proofs.Text.Lines
import CurlRequest.Text.Blank

/-!
# What does not depend on line ends

Making line ends alike changes carriage returns only, so a text with all line ends made alike looks
the same to anything that does not tell a carriage return from a line feed.  What stands in front of
the first carriage return is the same, and runs of a class that has both line ends or neither end in
corresponding places.

**Results.**
* `inductionOnLineEnds`: a text is empty, begins with a carriage return, or with another code point.
* `exists_eq_cons_of_unifyNewlines`: what begins with no line feed began so before.
* `after?_unifyNewlines`, `takeWhile_unifyNewlines`, `dropWhile_unifyNewlines`, `all_unifyNewlines`:
  beginnings and runs.
-/

namespace CurlRequest.Text

/-! ## The cases of a text -/

/-- A carriage return becomes a line feed, together with the line feed behind it if one is there. -/
theorem exists_unifyNewlines_carriageReturn
    (rest : Text) :
    ∃ more, unifyNewlines (carriageReturn :: rest) = lineFeed :: unifyNewlines more ∧
      (rest = more ∨ rest = lineFeed :: more) := by
  by_cases hhead : rest.head? = some lineFeed
  · obtain ⟨more, rfl⟩ : ∃ more, rest = lineFeed :: more := by
      cases rest with
      | nil =>
          cases hhead
      | cons d more =>
          cases hhead
          exact ⟨more, rfl⟩
    exact ⟨more, unifyNewlines_both more, Or.inr rfl⟩
  · exact ⟨rest, unifyNewlines_carriageReturn hhead, Or.inl rfl⟩

/-- Induction on a text whose line ends are made alike. -/
@[elab_as_elim]
theorem inductionOnLineEnds
    {P : Text → Prop}
    (t : Text)
    (nil : P [])
    (ended : ∀ rest more,
      unifyNewlines (carriageReturn :: rest) = lineFeed :: unifyNewlines more →
        (rest = more ∨ rest = lineFeed :: more) → P more → P (carriageReturn :: rest))
    (other : ∀ c rest, c ≠ carriageReturn → P rest → P (c :: rest)) :
    P t := by
  induction hlength : t.length using Nat.strongRecOn generalizing t with
  | ind length ih =>
      cases t with
      | nil =>
          exact nil
      | cons c rest =>
          subst hlength
          by_cases hc : c = carriageReturn
          · subst hc
            obtain ⟨more, hunify, hmore⟩ := exists_unifyNewlines_carriageReturn rest
            refine ended rest more hunify hmore (ih more.length ?_ more rfl)
            rcases hmore with rfl | rfl <;> simp only [List.length_cons] <;> omega
          · exact other c rest hc (ih rest.length (Nat.lt_succ_self _) rest rfl)

/-- Only the empty text becomes empty. -/
theorem unifyNewlines_eq_nil_iff
    {t : Text} :
    unifyNewlines t = []
      ↔
    t = [] := by
  induction t using inductionOnLineEnds with
  | nil =>
      simp [unifyNewlines]
  | ended rest more hunify hmore ih =>
      simp [hunify]
  | other c rest hc ih =>
      simp [unifyNewlines_cons hc]

/-- **What begins with no line feed** began so before. -/
theorem exists_eq_cons_of_unifyNewlines
    {c : CodePoint}
    {t u : Text}
    (h : unifyNewlines t = c :: u)
    (hc : c ≠ lineFeed) :
    ∃ rest, t = c :: rest ∧ u = unifyNewlines rest := by
  cases t with
  | nil =>
      cases h
  | cons d rest =>
      by_cases hd : d = carriageReturn
      · obtain ⟨more, hunify, -⟩ := exists_unifyNewlines_carriageReturn rest
        rw [hd, hunify] at h
        cases h
        exact absurd rfl hc
      · rw [unifyNewlines_cons hd] at h
        cases h
        exact ⟨rest, rfl, rfl⟩

/-- By induction on the beginning: a beginning without line feeds was there before. -/
theorem exists_eq_append_of_unifyNewlines
    {before t u : Text}
    (h : unifyNewlines t = before ++ u)
    (hfeed : lineFeed ∉ before) :
    ∃ rest, t = before ++ rest ∧ u = unifyNewlines rest := by
  induction before generalizing t with
  | nil =>
      exact ⟨t, rfl, h.symm⟩
  | cons c before ih =>
      rw [List.mem_cons, not_or] at hfeed
      obtain ⟨more, rfl, hmore⟩ := exists_eq_cons_of_unifyNewlines h (Ne.symm hfeed.1)
      obtain ⟨rest, rfl, hrest⟩ := ih hmore.symm hfeed.2
      exact ⟨rest, rfl, hrest⟩

/-- A part without carriage returns stays in front. -/
theorem unifyNewlines_append_of_not_mem
    {before : Text}
    (h : carriageReturn ∉ before)
    (after : Text) :
    unifyNewlines (before ++ after) = before ++ unifyNewlines after := by
  have hlast : before.getLast? ≠ some carriageReturn :=
    fun hlast => h (List.mem_of_getLast? hlast)
  rw [unifyNewlines_append (Or.inl hlast), unifyNewlines_of_not_mem h]

/-! ## Beginnings and runs -/

/-- By induction on the beginning: what follows it is made alike as well. -/
theorem after?_unifyNewlines
    {head : Text}
    (hreturn : carriageReturn ∉ head)
    (hfeed : lineFeed ∉ head)
    (t : Text) :
    after? head (unifyNewlines t) = (after? head t).map unifyNewlines := by
  induction head generalizing t with
  | nil =>
      rfl
  | cons c head ih =>
      rw [List.mem_cons, not_or] at hreturn hfeed
      cases t with
      | nil =>
          rfl
      | cons d rest =>
          by_cases hd : d = carriageReturn
          · obtain ⟨more, hunify, -⟩ := exists_unifyNewlines_carriageReturn rest
            rw [hd, hunify]
            simp [after?, Ne.symm hreturn.1, Ne.symm hfeed.1]
          · rw [unifyNewlines_cons hd]
            simp only [after?, ih hreturn.2 hfeed.2]
            split <;> rfl

section Run

variable {inRun : CodePoint → Bool}

/-- **A run** that ends at a line end is the same. -/
theorem takeWhile_unifyNewlines
    (hreturn : inRun carriageReturn = false)
    (hfeed : inRun lineFeed = false)
    (t : Text) :
    (unifyNewlines t).takeWhile inRun = t.takeWhile inRun := by
  induction t using inductionOnLineEnds with
  | nil =>
      rfl
  | ended rest more hunify hmore ih =>
      simp [hunify, hreturn, hfeed]
  | other c rest hc ih =>
      simp [unifyNewlines_cons hc, List.takeWhile_cons, ih]

/-- **What follows a run** is made alike as well, if the class does not tell the line ends apart. -/
theorem dropWhile_unifyNewlines
    (h : inRun carriageReturn = inRun lineFeed)
    (t : Text) :
    (unifyNewlines t).dropWhile inRun = unifyNewlines (t.dropWhile inRun) := by
  induction t using inductionOnLineEnds with
  | nil =>
      rfl
  | ended rest more hunify hmore ih =>
      cases hfeed : inRun lineFeed with
      | true =>
          rw [hfeed] at h
          rw [hunify, List.dropWhile_cons_of_pos hfeed, ih, List.dropWhile_cons_of_pos h]
          rcases hmore with rfl | rfl
          · rfl
          · rw [List.dropWhile_cons_of_pos hfeed]
      | false =>
          rw [hfeed] at h
          rw [List.dropWhile_cons_of_neg (by simp [h]), hunify,
            List.dropWhile_cons_of_neg (by simp [hfeed])]
  | other c rest hc ih =>
      cases hrun : inRun c with
      | true =>
          rw [unifyNewlines_cons hc, List.dropWhile_cons_of_pos hrun, ih,
            List.dropWhile_cons_of_pos hrun]
      | false =>
          rw [List.dropWhile_cons_of_neg (by simp [hrun]), unifyNewlines_cons hc,
            List.dropWhile_cons_of_neg (by simp [hrun])]

/-- Whether all code points are of such a class does not depend on the line ends. -/
theorem all_unifyNewlines
    (h : inRun carriageReturn = inRun lineFeed)
    (t : Text) :
    (unifyNewlines t).all inRun = t.all inRun := by
  induction t using inductionOnLineEnds with
  | nil =>
      rfl
  | ended rest more hunify hmore ih =>
      rcases hmore with rfl | rfl <;> simp [hunify, h, ih]
  | other c rest hc ih =>
      simp [unifyNewlines_cons hc, ih]

end Run

/-- A text is blank iff it is with its line ends made alike. -/
theorem isBlank_unifyNewlines
    (t : Text) :
    isBlank (unifyNewlines t) = isBlank t :=
  all_unifyNewlines rfl t

/-- Making line ends alike neither adds nor removes surrogates. -/
theorem hasSurrogate_unifyNewlines
    (t : Text) :
    (unifyNewlines t).hasSurrogate = t.hasSurrogate := by
  rw [hasSurrogate, hasSurrogate, List.any_eq_not_all_not, List.any_eq_not_all_not,
    all_unifyNewlines rfl t]

end CurlRequest.Text
