import CurlRequest.Text.Blank
import Mathlib.Data.List.DropRight

/-!
# Texts that are stripped at both ends

Trimming blanks and stripping quotes are one operation for different classes of code points.  It
leaves a text as it is iff neither end belongs to the class.

**Results.**
* `stripBy_eq_self_iff`: the texts that stripping leaves as they are.
* `stripBy_stripBy`: stripping once is enough.
* `trim_trimEnd`, `trim_append_cons`: trimming a text that is put together.
-/

namespace CurlRequest.Text

/-- The text without the code points of a class at either end. -/
def stripBy (isOuter : CodePoint → Bool) (t : Text) : Text :=
  (t.dropWhile isOuter).rdropWhile isOuter

theorem trim_eq_stripBy (t : Text) :
    trim t = stripBy CodePoint.isBlank t := rfl

theorem stripOf_eq_stripBy (c : CodePoint) (t : Text) :
    stripOf c t = stripBy (· = c) t := rfl

/-- Neither end of a text belongs to a class. -/
def EndsOutside (isOuter : CodePoint → Bool) (t : Text) : Prop :=
  (∀ c ∈ t.head?, isOuter c = false) ∧ ∀ c ∈ t.getLast?, isOuter c = false

section Strip

variable {isOuter : CodePoint → Bool} {t : Text}

/-- A text whose first code point is outside the class loses nothing at its start. -/
theorem dropWhile_eq_self_iff :
    t.dropWhile isOuter = t
      ↔
    ∀ c ∈ t.head?, isOuter c = false := by
  cases t with
  | nil =>
      simp
  | cons c rest =>
      rw [List.dropWhile_eq_self_iff]
      simp

/-- A text whose last code point is outside the class loses nothing at its end. -/
theorem rdropWhile_eq_self_iff :
    t.rdropWhile isOuter = t
      ↔
    ∀ c ∈ t.getLast?, isOuter c = false := by
  rw [List.rdropWhile_eq_self_iff]
  constructor
  · intro h c hc
    obtain ⟨hne, hlast⟩ := List.mem_getLast?_eq_getLast hc
    rw [hlast]
    exact Bool.eq_false_iff.mpr (h hne)
  · intro h hne
    rw [h _ (List.getLast_mem_getLast? hne)]
    decide

/-- What is stripped is a part of the text. -/
theorem stripBy_infix :
    stripBy isOuter t <:+: t :=
  (List.rdropWhile_prefix isOuter _).isInfix.trans (List.dropWhile_suffix isOuter).isInfix

/-- What is stripped holds nothing new. -/
theorem mem_of_mem_stripBy
    {c : CodePoint}
    (h : c ∈ stripBy isOuter t) :
    c ∈ t :=
  stripBy_infix.subset h

/-- **Stripping leaves a text as it is** iff neither end belongs to the class. -/
theorem stripBy_eq_self_iff :
    stripBy isOuter t = t
      ↔
    EndsOutside isOuter t := by
  unfold stripBy EndsOutside
  rw [← dropWhile_eq_self_iff, ← rdropWhile_eq_self_iff]
  constructor
  · intro h
    -- Both steps shorten a text that they change.
    have hstart : t.dropWhile isOuter = t := by
      apply (List.dropWhile_suffix isOuter).eq_of_length_le
      calc
        t.length = ((t.dropWhile isOuter).rdropWhile isOuter).length := by rw [h]
        _ ≤ (t.dropWhile isOuter).length := (List.rdropWhile_prefix isOuter _).length_le
    rw [hstart] at h
    exact ⟨hstart, h⟩
  · rintro ⟨hstart, hend⟩
    rw [hstart, hend]

/-- **Stripping once** is enough. -/
theorem stripBy_stripBy :
    stripBy isOuter (stripBy isOuter t) = stripBy isOuter t := by
  rw [stripBy_eq_self_iff]
  constructor
  · intro c hc
    have hhead : c ∈ (t.dropWhile isOuter).head? := by
      obtain ⟨more, hmore⟩ := List.rdropWhile_prefix isOuter (t.dropWhile isOuter)
      rw [← hmore, List.head?_append]
      unfold stripBy at hc
      rw [Option.mem_def.mp hc]
      rfl
    exact dropWhile_eq_self_iff.mp (List.dropWhile_idempotent isOuter t) c hhead
  · exact rdropWhile_eq_self_iff.mp (List.rdropWhile_idempotent isOuter _)

/-- A code point outside the class keeps what stands before it. -/
theorem rdropWhile_append_cons
    {c : CodePoint}
    (hc : isOuter c = false)
    (before after : Text) :
    (before ++ c :: after).rdropWhile isOuter = before ++ c :: after.rdropWhile isOuter := by
  induction after using List.reverseRecOn with
  | nil =>
      rw [List.rdropWhile_concat_neg isOuter before c (by simp [hc])]
      rfl
  | append_singleton after d ih =>
      have hassoc : before ++ c :: (after ++ [d]) = (before ++ c :: after) ++ [d] := by simp
      rw [hassoc, List.rdropWhile_concat, List.rdropWhile_concat]
      split
      · exact ih
      · simp

end Strip

/-! ## Blanks -/

/-- Trimming the start and trimming the end can change places. -/
theorem trimStart_trimEnd
    (t : Text) :
    trimStart (trimEnd t) = trimEnd (trimStart t) := by
  induction t with
  | nil =>
      rfl
  | cons c rest ih =>
      cases hc : c.isBlank with
      | false =>
          have hstart : trimStart (c :: rest) = c :: rest := by
            simp [trimStart, hc]
          have hend : trimEnd (c :: rest) = c :: trimEnd rest :=
            rdropWhile_append_cons hc [] rest
          rw [hstart, hend]
          simp [trimStart, hc]
      | true =>
          have hstart : trimStart (c :: rest) = trimStart rest := by
            simp [trimStart, hc]
          rw [hstart, ← ih]
          by_cases hblank : ∀ d ∈ rest, d.isBlank = true
          · have hall : ∀ d ∈ c :: rest, d.isBlank = true := by
              simpa [hc] using hblank
            have hnil : trimEnd (c :: rest) = [] := List.rdropWhile_eq_nil_iff.mpr hall
            have hnil' : trimEnd rest = [] := List.rdropWhile_eq_nil_iff.mpr hblank
            rw [hnil, hnil']
          · obtain ⟨before, d, after, hrest, hd⟩ : ∃ before d after,
                rest = before ++ d :: after ∧ d.isBlank = false := by
              simp only [not_forall, Bool.not_eq_true] at hblank
              obtain ⟨d, hd, hvisible⟩ := hblank
              obtain ⟨before, after, hsplit⟩ := List.append_of_mem hd
              exact ⟨before, d, after, hsplit, hvisible⟩
            have hend : trimEnd (c :: rest) = c :: trimEnd rest := by
              subst hrest
              have hlong := rdropWhile_append_cons hd (c :: before) after
              have hshort := rdropWhile_append_cons hd before after
              rw [List.cons_append, List.cons_append] at hlong
              exact hlong.trans (congrArg (c :: ·) hshort.symm)
            rw [hend]
            simp [trimStart, hc]

/-- Blanks that were trimmed at the end need not be trimmed first. -/
theorem trim_trimEnd
    (t : Text) :
    trim (trimEnd t) = trim t := by
  have htwice : trimEnd (trimEnd (trimStart t)) = trimEnd (trimStart t) :=
    List.rdropWhile_idempotent _ _
  rw [trim, trimStart_trimEnd, htwice, trim]

/-- A text that begins with no blank is trimmed behind its last visible code point. -/
theorem trim_append_cons
    {c : CodePoint}
    {before : Text}
    (hbefore : ∀ d ∈ before.head?, d.isBlank = false)
    (hc : c.isBlank = false)
    (after : Text) :
    trim (before ++ c :: after) = before ++ c :: trimEnd after := by
  have hhead : ∀ d ∈ (before ++ c :: after).head?, d.isBlank = false := by
    cases before with
    | nil =>
        simpa using hc
    | cons d rest =>
        simpa using hbefore
  have hstart : trimStart (before ++ c :: after) = before ++ c :: after :=
    dropWhile_eq_self_iff.mpr hhead
  rw [trim, hstart]
  exact rdropWhile_append_cons hc before after

end CurlRequest.Text
