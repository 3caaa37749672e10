import CurlRequest.Proofs.Json.ReaderSteps
import CurlRequest.Proofs.Text.Surrogates

/-!
# What is said about a text that is refused

The wording of a fault names places by their numbers, and of the text itself it quotes at most a
number.  So it can be shown even if the text cannot be encoded.

**Results.**
* `refusesByNumbers`: what a fault between two calls of the reader quotes.
* `quotesNumbersOnly_of_read`: what a fault quotes.
* `hasSurrogate_message`: the wording of a fault can be encoded.
-/

namespace CurlRequest.Json

/-- A fault quotes nothing but numbers and words for numbers. -/
def ReadFault.QuotesNumbersOnly : ReadFault → Prop
  | .notFinite word => ∃ x, (word, x) ∈ numberWords
  | .outOfRange literal => ∀ c ∈ literal, isNumberPart c = true
  | _ => True

/-- What is refused as a word or a number quotes nothing else. -/
theorem quotesNumbersOnly_of_token
    {dialect : Dialect}
    {s : Text}
    {fault : ReadFault}
    (h : readWord? dialect s = some (.error fault) ∨ readNumber dialect s = .error fault) :
    fault.QuotesNumbersOnly := by
  rcases h with h | h
  · obtain ⟨word, x, hmem, rfl⟩ := readWord?_error h
    exact ⟨x, hmem⟩
  · rcases readNumber_error h with rfl | ⟨count, rfl⟩ | ⟨literal, rfl, hliteral⟩
    · exact trivial
    · exact trivial
    · exact hliteral

/-- What is refused as a string quotes nothing. -/
theorem quotesNumbersOnly_of_string
    {opened s : Text}
    {fault : ReadFault}
    (h : readString opened none s = .error fault) :
    fault.QuotesNumbersOnly := by
  obtain ⟨problem, remaining, rfl⟩ := readString_error h
  exact trivial

/-- In so many steps a value, items and members are refused by faults that quote nothing but
numbers. -/
structure RefusesByNumbers (dialect : Dialect) (steps : Nat) : Prop where
  value : ∀ depth s fault,
    readValue dialect steps depth s = .error fault → fault.QuotesNumbersOnly
  items : ∀ depth s fault,
    readItems dialect steps depth s = .error fault → fault.QuotesNumbersOnly
  members : ∀ depth s fault,
    readMembers dialect steps depth s = .error fault → fault.QuotesNumbersOnly

namespace RefusesByNumbers

theorem zero
    (dialect : Dialect) :
    RefusesByNumbers dialect 0 where
  value depth s fault h := by
    cases h
    exact trivial
  items depth s fault h := by
    cases h
    exact trivial
  members depth s fault h := by
    cases h
    exact trivial

variable {dialect : Dialect}
variable {steps depth : Nat}
variable {s : Text}
variable {fault : ReadFault}

/-- A value in one more step: a token or a part of it is refused, or it is refused at a place. -/
theorem value_succ
    (ih : RefusesByNumbers dialect steps)
    (h : readValue dialect (steps + 1) depth s = .error fault) :
    fault.QuotesNumbersOnly := by
  have hcase := readValue_cases dialect steps depth s
  generalize readValue dialect (steps + 1) depth s = outcome at h hcase
  cases hcase with
  | badString hs hread =>
      cases h
      exact quotesNumbersOnly_of_string hread
  | badArray hs hdepth hread =>
      cases h
      exact ih.items _ _ _ hread
  | badObject hs hdepth hread =>
      cases h
      exact ih.members _ _ _ hread
  | word hread =>
      subst h
      exact quotesNumbersOnly_of_token (Or.inl hread)
  | number hword =>
      exact quotesNumbersOnly_of_token (Or.inr h)
  | _ =>
      cases h
      all_goals exact trivial

/-- Items in one more step: the first value or the others are refused, or there is no comma. -/
theorem items_succ
    (ih : RefusesByNumbers dialect steps)
    (h : readItems dialect (steps + 1) depth s = .error fault) :
    fault.QuotesNumbersOnly := by
  have hcase := readItems_cases dialect steps depth s
  generalize readItems dialect (steps + 1) depth s = outcome at h hcase
  cases hcase with
  | badItem hread =>
      cases h
      exact ih.value _ _ _ hread
  | badRest hread hnext hrest =>
      cases h
      exact ih.items _ _ _ hrest
  | _ =>
      cases h
      all_goals exact trivial

/-- Members in one more step: the first name, its value or the others are refused, or a sign is
missing between them. -/
theorem members_succ
    (ih : RefusesByNumbers dialect steps)
    (h : readMembers dialect (steps + 1) depth s = .error fault) :
    fault.QuotesNumbersOnly := by
  have hcase := readMembers_cases dialect steps depth s
  generalize readMembers dialect (steps + 1) depth s = outcome at h hcase
  cases hcase with
  | badName hs hname =>
      cases h
      exact quotesNumbersOnly_of_string hname
  | badValue hs hname hcolon hread =>
      cases h
      exact ih.value _ _ _ hread
  | badRest hs hname hcolon hread hnext hrest =>
      cases h
      exact ih.members _ _ _ hrest
  | _ =>
      cases h
      all_goals exact trivial

end RefusesByNumbers

/-- By induction on the steps: **values, items and members** are refused so. -/
theorem refusesByNumbers
    (dialect : Dialect)
    (steps : Nat) :
    RefusesByNumbers dialect steps := by
  induction steps with
  | zero =>
      exact RefusesByNumbers.zero dialect
  | succ steps ih =>
      exact ⟨fun _ _ _ => ih.value_succ, fun _ _ _ => ih.items_succ,
        fun _ _ _ => ih.members_succ⟩

/-- **A text is refused** by a fault that quotes nothing of it but numbers. -/
theorem quotesNumbersOnly_of_read
    {dialect : Dialect}
    {text : Text}
    {fault : ReadFault}
    (h : read dialect text = .error fault) :
    fault.QuotesNumbersOnly := by
  rcases read_error h with hread | ⟨problem, remaining, rfl⟩
  · exact (refusesByNumbers dialect _).value _ _ _ hread
  · exact trivial

/-- A code point that can stand in a number is no surrogate. -/
theorem isSurrogate_of_isNumberPart
    {c : CodePoint}
    (h : isNumberPart c = true) :
    c.isSurrogate = false := by
  rw [isNumberPart, Bool.or_eq_true] at h
  rcases h with h | h
  · simp only [CodePoint.isDigit, decide_eq_true_eq] at h
    simp only [CodePoint.isSurrogate, decide_eq_false_iff_not]
    omega
  · rw [List.contains_iff_mem] at h
    exact Text.hasSurrogate_eq_false_iff.mp (Text.hasSurrogate_ofString "+-.eE") c h

/-- The place of a fault is said in numbers. -/
@[simp] theorem hasSurrogate_placeText
    (text : Text)
    (remaining : Nat) :
    (placeText text remaining).hasSurrogate = false := by
  simp only [placeText, Text.hasSurrogate_append, Text.hasSurrogate_ofString,
    Text.hasSurrogate_ofNat, Bool.or_false]

/-- **What is said** about a text that is refused can be encoded. -/
theorem hasSurrogate_message
    {fault : ReadFault}
    (h : fault.QuotesNumbersOnly)
    (text : Text) :
    (fault.message text).hasSurrogate = false := by
  cases fault with
  | located problem remaining =>
      have hproblem : problem.message.hasSurrogate = false := by
        cases problem <;> exact Text.hasSurrogate_ofString _
      simp only [ReadFault.message, Text.hasSurrogate_append, Text.hasSurrogate_ofString,
        hasSurrogate_placeText, hproblem, Bool.or_false]
  | notFinite word =>
      obtain ⟨x, hmem⟩ := h
      have hword : word.hasSurrogate = false := by
        simp only [numberWords, List.mem_cons, Prod.mk.injEq, List.not_mem_nil, or_false] at hmem
        rcases hmem with ⟨rfl, -⟩ | ⟨rfl, -⟩ | ⟨rfl, -⟩ <;> exact Text.hasSurrogate_ofString _
      simp only [ReadFault.message, Text.hasSurrogate_append, Text.hasSurrogate_ofString, hword,
        Bool.or_false]
  | outOfRange literal =>
      have hliteral : literal.hasSurrogate = false :=
        Text.hasSurrogate_eq_false_iff.mpr fun c hc => isSurrogate_of_isNumberPart (h c hc)
      simp only [ReadFault.message, Text.hasSurrogate_append, Text.hasSurrogate_ofString, hliteral,
        Bool.or_false]
  | tooManyDigits count =>
      simp only [ReadFault.message, Text.hasSurrogate_append, Text.hasSurrogate_ofString,
        Text.hasSurrogate_ofNat, Bool.or_false]
  | tooDeep =>
      exact Text.hasSurrogate_ofString _

end CurlRequest.Json
