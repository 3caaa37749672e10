import CurlRequest.Text.Lines
import Mathlib.Algebra.Order.BigOperators.Group.List
import Mathlib.Algebra.Order.Group.Nat
import Mathlib.Data.List.Basic

/-!
# Texts that are put together from lines

Splitting a text at separators takes it apart where a separator stands, and nowhere else.  Making
line ends alike works on the parts of a text one by one, unless a carriage return and the line feed
behind it are torn apart.

**Results.**
* `splitBy_append_cons`, `splitBy_flatMap`, `eq_false_of_mem_splitBy`, `subset_of_mem_splitBy`:
  pieces between separators.
* `unifyNewlines_append`: line ends are made alike part by part.
* `join_append`: lines that are joined by a separator and end in one.
* `flatMap_eq_flatMap_iff`: texts of pieces that are nowhere longer.
-/

namespace CurlRequest.Text

/-! ## Pieces -/

section Pieces

variable {isSeparator : CodePoint → Bool}

/-- There is at least one piece. -/
theorem splitBy_ne_nil
    (t : Text) :
    splitBy isSeparator t ≠ [] := by
  cases t with
  | nil =>
      exact List.cons_ne_nil _ _
  | cons c rest =>
      simp only [splitBy]
      split
      · exact List.cons_ne_nil _ _
      · split <;> exact List.cons_ne_nil _ _

/-- **A separator** takes a text apart. -/
theorem splitBy_append_cons
    {c : CodePoint}
    (hc : isSeparator c = true)
    (before after : Text) :
    splitBy isSeparator (before ++ c :: after) =
      splitBy isSeparator before ++ splitBy isSeparator after := by
  induction before with
  | nil =>
      simp [splitBy, hc]
  | cons d rest ih =>
      simp only [List.cons_append, splitBy, ih]
      split
      · rfl
      · cases hrest : splitBy isSeparator rest with
        | nil =>
            exact absurd hrest (splitBy_ne_nil rest)
        | cons piece pieces =>
            rfl

/-- A text without separators is one piece. -/
theorem splitBy_of_forall
    {t : Text}
    (h : ∀ c ∈ t, isSeparator c = false) :
    splitBy isSeparator t = [t] := by
  induction t with
  | nil =>
      rfl
  | cons c rest ih =>
      have hc := h c List.mem_cons_self
      have hrest := ih fun d hd => h d (List.mem_cons_of_mem c hd)
      simp only [splitBy, hc, hrest]
      rfl

/-- No piece has a separator. -/
theorem eq_false_of_mem_splitBy
    {t piece : Text}
    (h : piece ∈ splitBy isSeparator t) :
    ∀ c ∈ piece, isSeparator c = false := by
  induction t generalizing piece with
  | nil =>
      rw [splitBy, List.mem_singleton] at h
      subst h
      intro c hc
      cases hc
  | cons d rest ih =>
      simp only [splitBy] at h
      split at h
      · rcases List.mem_cons.mp h with rfl | h
        · intro c hc
          cases hc
        · exact ih h
      · rename_i hd
        split at h
        · rename_i hrest
          exact absurd hrest (splitBy_ne_nil rest)
        · rename_i first pieces hrest
          rw [hrest] at ih
          rcases List.mem_cons.mp h with rfl | h
          · intro c hc
            rcases List.mem_cons.mp hc with rfl | hc
            · exact Bool.eq_false_iff.mpr hd
            · exact ih List.mem_cons_self c hc
          · exact ih (List.mem_cons_of_mem first h)

/-- What stands in a piece stands in the text. -/
theorem subset_of_mem_splitBy
    {t piece : Text}
    (h : piece ∈ splitBy isSeparator t) :
    piece ⊆ t := by
  induction t generalizing piece with
  | nil =>
      rw [splitBy, List.mem_singleton] at h
      rw [h]
      exact List.nil_subset []
  | cons d rest ih =>
      simp only [splitBy] at h
      split at h
      · rcases List.mem_cons.mp h with rfl | h
        · exact List.nil_subset _
        · exact List.subset_cons_of_subset d (ih h)
      · split at h
        · rename_i hrest
          exact absurd hrest (splitBy_ne_nil rest)
        · rename_i first pieces hrest
          rw [hrest] at ih
          rcases List.mem_cons.mp h with rfl | h
          · exact List.cons_subset_cons d (ih List.mem_cons_self)
          · exact List.subset_cons_of_subset d (ih (List.mem_cons_of_mem first h))

/-- Lines that each end in a separator are the pieces of their text, and a last piece is empty. -/
theorem splitBy_flatMap
    {c : CodePoint}
    (hc : isSeparator c = true)
    {ls : List Text}
    (h : ∀ l ∈ ls, ∀ d ∈ l, isSeparator d = false) :
    splitBy isSeparator (ls.flatMap (· ++ [c])) = ls ++ [[]] := by
  induction ls with
  | nil =>
      rfl
  | cons l ls ih =>
      have hrest := ih fun l' hl' => h l' (List.mem_cons_of_mem l hl')
      rw [List.flatMap_cons, List.append_assoc, List.singleton_append, splitBy_append_cons hc,
        splitBy_of_forall (h l List.mem_cons_self), hrest]
      rfl

end Pieces

/-! ## Line ends -/

/-- The carriage return. -/
def carriageReturn : CodePoint := '\r'

/-- The line feed. -/
def lineFeed : CodePoint := '\n'

/-- A carriage return and a line feed are one line end. -/
theorem unifyNewlines_both
    (rest : Text) :
    unifyNewlines (carriageReturn :: lineFeed :: rest) = lineFeed :: unifyNewlines rest := rfl

/-- A carriage return by itself is a line end. -/
theorem unifyNewlines_carriageReturn
    {rest : Text}
    (h : rest.head? ≠ some lineFeed) :
    unifyNewlines (carriageReturn :: rest) = lineFeed :: unifyNewlines rest := by
  cases rest with
  | nil =>
      rfl
  | cons d more =>
      have hd : d ≠ CodePoint.ofChar '\n' := by
        rintro rfl
        exact h rfl
      rw [unifyNewlines]
      simp only [carriageReturn, hd, if_true, if_false]
      rfl

/-- All else stays. -/
theorem unifyNewlines_cons
    {c : CodePoint}
    (h : c ≠ carriageReturn)
    (rest : Text) :
    unifyNewlines (c :: rest) = c :: unifyNewlines rest := by
  have hc : c ≠ CodePoint.ofChar '\r' := h
  rw [unifyNewlines.eq_def]
  simp only [hc, if_false]

/-- A text without carriage returns stays. -/
theorem unifyNewlines_of_not_mem
    {t : Text}
    (h : carriageReturn ∉ t) :
    unifyNewlines t = t := by
  induction t with
  | nil =>
      rfl
  | cons c rest ih =>
      rw [List.mem_cons, not_or] at h
      rw [unifyNewlines_cons (Ne.symm h.1), ih h.2]

/-- **Line ends are made alike part by part**, unless the parts tear one apart. -/
theorem unifyNewlines_append
    {before after : Text}
    (h : before.getLast? ≠ some carriageReturn ∨ after.head? ≠ some lineFeed) :
    unifyNewlines (before ++ after) = unifyNewlines before ++ unifyNewlines after := by
  fun_induction unifyNewlines before with
  | case1 =>
      rfl
  | case2 more ih =>
      have hmore : List.getLast? more ≠ some carriageReturn ∨ after.head? ≠ some lineFeed := by
        refine h.imp_left fun hlast hmore => hlast ?_
        rw [List.getLast?_cons, List.getLast?_cons, hmore]
        rfl
      exact congrArg (lineFeed :: ·) (ih hmore)
  | case3 d more hd ih =>
      have hrest : (d :: more ++ after).head? ≠ some lineFeed := by
        intro hhead
        cases hhead
        exact hd rfl
      have hpart := ih (h.imp_left fun hlast hmore => hlast (by rw [List.getLast?_cons, hmore]; rfl))
      exact (unifyNewlines_carriageReturn hrest).trans (congrArg (lineFeed :: ·) hpart)
  | case4 =>
      have hafter : after.head? ≠ some lineFeed := by
        refine h.resolve_left ?_
        exact fun hlast => hlast rfl
      exact unifyNewlines_carriageReturn hafter
  | case5 c rest hc ih =>
      have hrest : List.getLast? rest ≠ some carriageReturn ∨ after.head? ≠ some lineFeed := by
        refine h.imp_left fun hlast hrest => hlast ?_
        rw [List.getLast?_cons, hrest]
        rfl
      rw [List.cons_append, unifyNewlines_cons hc, ih hrest, List.cons_append]

/-- A line feed after a text ends its last line, whatever that ended in already. -/
theorem unifyNewlines_append_carriageReturn
    (before after : Text) :
    unifyNewlines (before ++ carriageReturn :: lineFeed :: after) =
      unifyNewlines before ++ lineFeed :: unifyNewlines after := by
  have hhead : (carriageReturn :: lineFeed :: after).head? ≠ some lineFeed := by
    rw [List.head?_cons, Ne, Option.some.injEq]
    decide
  rw [unifyNewlines_append (Or.inr hhead), unifyNewlines_both]

/-! ## Joined lines -/

/-- What every text of a list holds, and the separator too, holds of the joined text. -/
theorem forall_mem_join
    {P : CodePoint → Prop}
    {separator : Text}
    (hseparator : ∀ c ∈ separator, P c) :
    ∀ texts : List Text, (∀ t ∈ texts, ∀ c ∈ t, P c) → ∀ c ∈ join separator texts, P c
  | [], _, c, hc => by
      cases hc
  | [t], htexts, c, hc => by
      exact htexts t List.mem_cons_self c hc
  | t :: u :: rest, htexts, c, hc => by
      rw [join, List.mem_append, List.mem_append] at hc
      rcases hc with (hc | hc) | hc
      · exact htexts t List.mem_cons_self c hc
      · exact hseparator c hc
      · exact
          forall_mem_join hseparator (u :: rest)
            (fun v hv => htexts v (List.mem_cons_of_mem t hv)) c hc

/-- Lines that are joined by a separator and end in one. -/
theorem join_append
    (separator first : Text)
    (rest : List Text) :
    join separator (first :: rest) ++ separator = (first :: rest).flatMap (· ++ separator) := by
  induction rest generalizing first with
  | nil =>
      simp [join]
  | cons second rest ih =>
      rw [join, List.append_assoc, ih second, List.flatMap_cons]
      simp

/-- Pieces that are nowhere longer than others make the same text only if they are the same. -/
theorem flatMap_eq_flatMap_iff
    {α : Type}
    {pieces : List α}
    {f g : α → Text}
    (h : ∀ a ∈ pieces, (f a).length ≤ (g a).length) :
    pieces.flatMap f = pieces.flatMap g
      ↔
    ∀ a ∈ pieces, f a = g a := by
  constructor
  · intro heq
    induction pieces with
    | nil =>
        exact nofun
    | cons a rest ih =>
        have hrest : ∀ b ∈ rest, (f b).length ≤ (g b).length := fun b hb =>
          h b (List.mem_cons_of_mem _ hb)
        have hle : (rest.flatMap f).length ≤ (rest.flatMap g).length := by
          rw [List.length_flatMap, List.length_flatMap]
          exact List.sum_le_sum hrest
        have hlength := congrArg List.length heq
        rw [List.flatMap_cons, List.flatMap_cons] at heq
        simp only [List.flatMap_cons, List.length_append] at hlength
        have hfirst := h a List.mem_cons_self
        obtain ⟨hhead, htail⟩ := List.append_inj heq (by omega)
        intro b hb
        rcases List.mem_cons.mp hb with rfl | hb
        · exact hhead
        · exact ih hrest htail b hb
  · exact List.flatMap_congr

end CurlRequest.Text
