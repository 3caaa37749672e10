import CurlRequest.Text
import Mathlib.Data.List.Basic

/-!
# Cutting texts

A text is cut behind a known beginning, at the first separator, or where a run of code points of a
class ends.  The parts make up the text, and a code point outside the class ends the run, whatever
follows it.

**Results.**
* `eq_append_of_after?`, `after?_append_cons`: what follows a beginning.
* `cutAt?_append_cons`, `eq_append_of_cutAt?`: the parts around the first separator.
* `takeWhile_append_cons`, `dropWhile_append_cons`: runs that end at a given place at the latest.
-/

namespace CurlRequest.Text

/-- A text that continues behind `head` begins with it. -/
theorem eq_append_of_after?
    {head t rest : Text}
    (h : after? head t = some rest) :
    t = head ++ rest := by
  induction head generalizing t with
  | nil =>
      simp only [after?, Option.some.injEq] at h
      exact h
  | cons c head ih =>
      cases t with
      | nil =>
          simp [after?] at h
      | cons d t =>
          simp only [after?] at h
          split at h
          · rename_i hcd
            rw [hcd, List.cons_append, ih h]
          · cases h

/-- Behind a code point that the beginning does not hold anything may follow. -/
theorem after?_append_cons
    {head : Text}
    {c : CodePoint}
    (hc : c ∉ head)
    (t rest : Text) :
    after? head (t ++ c :: rest) = (after? head t).map (· ++ c :: rest) := by
  induction head generalizing t with
  | nil =>
      rfl
  | cons d head ih =>
      rw [List.mem_cons, not_or] at hc
      cases t with
      | nil =>
          simp [after?, Ne.symm hc.1]
      | cons e t =>
          simp only [List.cons_append, after?, ih hc.2]
          split <;> rfl

/-- A text is cut at the first separator. -/
theorem cutAt?_append_cons
    {separator : CodePoint}
    {before : Text}
    (h : separator ∉ before)
    (after : Text) :
    cutAt? separator (before ++ separator :: after) = some (before, after) := by
  induction before with
  | nil =>
      simp [cutAt?]
  | cons c rest ih =>
      rw [List.mem_cons, not_or] at h
      simp [cutAt?, Ne.symm h.1, ih h.2]

/-- A cut leaves out the first separator. -/
theorem eq_append_of_cutAt?
    {separator : CodePoint}
    {t before after : Text}
    (h : cutAt? separator t = some (before, after)) :
    t = before ++ separator :: after ∧ separator ∉ before := by
  induction t generalizing before with
  | nil =>
      cases h
  | cons c rest ih =>
      rw [cutAt?] at h
      split at h
      · rename_i hc
        cases h
        exact ⟨by rw [hc]; rfl, List.not_mem_nil⟩
      · rename_i hc
        obtain ⟨⟨start, stop⟩, hcut, hparts⟩ := Option.map_eq_some_iff.mp h
        cases hparts
        obtain ⟨hrest, hstart⟩ := ih hcut
        refine ⟨by rw [hrest]; rfl, ?_⟩
        rw [List.mem_cons, not_or]
        exact ⟨Ne.symm hc, hstart⟩

section Run

variable (inRun : CodePoint → Bool)
variable {c : CodePoint}

/-- What follows a run is left when the run is dropped. -/
theorem drop_length_takeWhile
    (t : Text) :
    t.drop (t.takeWhile inRun).length = t.dropWhile inRun := by
  induction t with
  | nil =>
      rfl
  | cons d t ih =>
      cases hd : inRun d <;> simp [hd, ih]

/-- A run ends before a code point outside its class. -/
theorem takeWhile_append_cons
    (hc : inRun c = false)
    (before after : Text) :
    (before ++ c :: after).takeWhile inRun = before.takeWhile inRun := by
  induction before with
  | nil =>
      simp [hc]
  | cons d before ih =>
      cases hd : inRun d <;> simp [hd, ih]

/-- What follows a run goes on with the code point that ended it. -/
theorem dropWhile_append_cons
    (hc : inRun c = false)
    (before after : Text) :
    (before ++ c :: after).dropWhile inRun = before.dropWhile inRun ++ c :: after := by
  induction before with
  | nil =>
      simp [hc]
  | cons d before ih =>
      cases hd : inRun d <;> simp [hd, ih]

end Run

end CurlRequest.Text
