import CurlRequest.Json.Reader
import CurlRequest.Proofs.Text.Cutting

/-!
# What one step of the JSON reader does

The reader's three functions for values, items and members call each other.  This module lists, for
each of them, what one call can come to: which token it met, which calls it made, what these gave,
and the outcome that follows.

Every statement about the reader is then an induction on the number of steps in which the cases of
a call are the constructors below.

**Results.**
* `readValue_cases`, `readItems_cases`, `readMembers_cases`: the cases are all there are.
* `readWord?_ok`, `numberBefore_of_scanNumber?`: what the tokens without parts consume.
* `readString_error`, `readWord?_error`, `readNumber_error`: why tokens are refused.
* `read_ok`, `read_error`: what reading a whole text can come to.
-/

namespace CurlRequest.Json

/-! ## Values -/

/-- What reading a value can come to. -/
inductive ValueCase (dialect : Dialect) (steps depth : Nat) (s : Text) :
    Except ReadFault (Json × Text) → Prop
  | empty
      (hs : s = []) :
      ValueCase dialect steps depth s (faultAt .valueExpected [])
  | string
      {more content rest : Text}
      (hs : s = ('"' : CodePoint) :: more)
      (hread : readString s none more = .ok (content, rest)) :
      ValueCase dialect steps depth s (.ok (str content, rest))
  | badString
      {more : Text}
      {fault : ReadFault}
      (hs : s = ('"' : CodePoint) :: more)
      (hread : readString s none more = .error fault) :
      ValueCase dialect steps depth s (.error fault)
  | tooDeep
      {c : CodePoint}
      {more : Text}
      (hs : s = c :: more)
      (hc : c = '[' ∨ c = '{')
      (hdepth : depth = 0) :
      ValueCase dialect steps depth s (.error .tooDeep)
  | unendedArray
      {more : Text}
      (hs : s = ('[' : CodePoint) :: more)
      (hnext : skipBlanks more = []) :
      ValueCase dialect steps depth s (faultAt .valueExpected [])
  | emptyArray
      {more rest : Text}
      (hs : s = ('[' : CodePoint) :: more)
      (hdepth : depth ≠ 0)
      (hnext : skipBlanks more = (']' : CodePoint) :: rest) :
      ValueCase dialect steps depth s (.ok (arr [], rest))
  | array
      {more rest : Text}
      {items : List Json}
      (hs : s = ('[' : CodePoint) :: more)
      (hdepth : depth ≠ 0)
      (hread : readItems dialect steps (depth - 1) (skipBlanks more) = .ok (items, rest)) :
      ValueCase dialect steps depth s (.ok (arr items, rest))
  | badArray
      {more : Text}
      {fault : ReadFault}
      (hs : s = ('[' : CodePoint) :: more)
      (hdepth : depth ≠ 0)
      (hread : readItems dialect steps (depth - 1) (skipBlanks more) = .error fault) :
      ValueCase dialect steps depth s (.error fault)
  | unendedObject
      {more : Text}
      (hs : s = ('{' : CodePoint) :: more)
      (hnext : skipBlanks more = []) :
      ValueCase dialect steps depth s (faultAt .nameExpected [])
  | emptyObject
      {more rest : Text}
      (hs : s = ('{' : CodePoint) :: more)
      (hdepth : depth ≠ 0)
      (hnext : skipBlanks more = ('}' : CodePoint) :: rest) :
      ValueCase dialect steps depth s (.ok (obj [], rest))
  | object
      {more rest : Text}
      {members : List (Text × Json)}
      (hs : s = ('{' : CodePoint) :: more)
      (hdepth : depth ≠ 0)
      (hread : readMembers dialect steps (depth - 1) (skipBlanks more) = .ok (members, rest)) :
      ValueCase dialect steps depth s (.ok (obj members, rest))
  | badObject
      {more : Text}
      {fault : ReadFault}
      (hs : s = ('{' : CodePoint) :: more)
      (hdepth : depth ≠ 0)
      (hread : readMembers dialect steps (depth - 1) (skipBlanks more) = .error fault) :
      ValueCase dialect steps depth s (.error fault)
  | word
      {found : Except ReadFault (Json × Text)}
      (hread : readWord? dialect s = some found) :
      ValueCase dialect steps depth s found
  | number
      (hword : readWord? dialect s = none) :
      ValueCase dialect steps depth s (readNumber dialect s)

/-- The cases of a value that begins with a bracket. -/
theorem readValue_bracket_cases
    (dialect : Dialect)
    (steps depth : Nat)
    (more : Text) :
    ValueCase dialect steps depth (('[' : CodePoint) :: more)
      (readValue dialect (steps + 1) depth (('[' : CodePoint) :: more)) := by
  have hquote : ('[' : CodePoint) ≠ '"' := by decide
  simp only [readValue, hquote, if_false, if_true]
  cases depth with
  | zero =>
      exact ValueCase.tooDeep rfl (Or.inl rfl) rfl
  | succ depth =>
      cases hnext : skipBlanks more with
      | nil =>
          exact ValueCase.unendedArray rfl hnext
      | cons d rest =>
          simp only
          split
          · rename_i hd
            subst hd
            exact ValueCase.emptyArray rfl (Nat.succ_ne_zero depth) hnext
          · rw [← hnext]
            cases hread : readItems dialect steps depth (skipBlanks more) with
            | error fault =>
                exact ValueCase.badArray rfl (Nat.succ_ne_zero depth) hread
            | ok found =>
                exact ValueCase.array rfl (Nat.succ_ne_zero depth) hread

/-- The cases of a value that begins with a brace. -/
theorem readValue_brace_cases
    (dialect : Dialect)
    (steps depth : Nat)
    (more : Text) :
    ValueCase dialect steps depth (('{' : CodePoint) :: more)
      (readValue dialect (steps + 1) depth (('{' : CodePoint) :: more)) := by
  have hquote : ('{' : CodePoint) ≠ '"' := by decide
  have hbracket : ('{' : CodePoint) ≠ '[' := by decide
  simp only [readValue, hquote, hbracket, if_false, if_true]
  cases depth with
  | zero =>
      exact ValueCase.tooDeep rfl (Or.inr rfl) rfl
  | succ depth =>
      cases hnext : skipBlanks more with
      | nil =>
          exact ValueCase.unendedObject rfl hnext
      | cons d rest =>
          simp only
          split
          · rename_i hd
            subst hd
            exact ValueCase.emptyObject rfl (Nat.succ_ne_zero depth) hnext
          · rw [← hnext]
            cases hread : readMembers dialect steps depth (skipBlanks more) with
            | error fault =>
                exact ValueCase.badObject rfl (Nat.succ_ne_zero depth) hread
            | ok found =>
                exact ValueCase.object rfl (Nat.succ_ne_zero depth) hread

/-- The cases of a value are all there are. -/
theorem readValue_cases
    (dialect : Dialect)
    (steps depth : Nat)
    (s : Text) :
    ValueCase dialect steps depth s (readValue dialect (steps + 1) depth s) := by
  cases s with
  | nil =>
      exact ValueCase.empty rfl
  | cons c more =>
      by_cases hquote : c = '"'
      · subst hquote
        simp only [readValue, if_true]
        cases hread : readString (('"' : CodePoint) :: more) none more with
        | error fault =>
            exact ValueCase.badString rfl hread
        | ok found =>
            exact ValueCase.string rfl hread
      by_cases hbracket : c = '['
      · subst hbracket
        exact readValue_bracket_cases dialect steps depth more
      by_cases hbrace : c = '{'
      · subst hbrace
        exact readValue_brace_cases dialect steps depth more
      simp only [readValue, hquote, hbracket, hbrace, if_false]
      cases hword : readWord? dialect (c :: more) with
      | none =>
          exact ValueCase.number hword
      | some found =>
          exact ValueCase.word hword

/-! ## Items and members -/

/-- What reading items can come to. -/
inductive ItemsCase (dialect : Dialect) (steps depth : Nat) (s : Text) :
    Except ReadFault (List Json × Text) → Prop
  | badItem
      {fault : ReadFault}
      (hread : readValue dialect steps depth s = .error fault) :
      ItemsCase dialect steps depth s (.error fault)
  | noComma
      {item : Json}
      {rest : Text}
      (hread : readValue dialect steps depth s = .ok (item, rest)) :
      ItemsCase dialect steps depth s (faultAt .commaExpected (skipBlanks rest))
  | last
      {item : Json}
      {rest more : Text}
      (hread : readValue dialect steps depth s = .ok (item, rest))
      (hnext : skipBlanks rest = (']' : CodePoint) :: more) :
      ItemsCase dialect steps depth s (.ok ([item], more))
  | badRest
      {item : Json}
      {rest more : Text}
      {fault : ReadFault}
      (hread : readValue dialect steps depth s = .ok (item, rest))
      (hnext : skipBlanks rest = (',' : CodePoint) :: more)
      (hrest : readItems dialect steps depth (skipBlanks more) = .error fault) :
      ItemsCase dialect steps depth s (.error fault)
  | cons
      {item : Json}
      {items : List Json}
      {rest more after : Text}
      (hread : readValue dialect steps depth s = .ok (item, rest))
      (hnext : skipBlanks rest = (',' : CodePoint) :: more)
      (hrest : readItems dialect steps depth (skipBlanks more) = .ok (items, after)) :
      ItemsCase dialect steps depth s (.ok (item :: items, after))

/-- The cases of items are all there are. -/
theorem readItems_cases
    (dialect : Dialect)
    (steps depth : Nat)
    (s : Text) :
    ItemsCase dialect steps depth s (readItems dialect (steps + 1) depth s) := by
  simp only [readItems, bind, Except.bind]
  cases hread : readValue dialect steps depth s with
  | error fault =>
      exact ItemsCase.badItem hread
  | ok found =>
      obtain ⟨item, rest⟩ := found
      have hnoComma :
          ItemsCase dialect steps depth s (faultAt .commaExpected (skipBlanks rest)) :=
        ItemsCase.noComma hread
      simp only
      cases hnext : skipBlanks rest with
      | nil =>
          rw [hnext] at hnoComma
          exact hnoComma
      | cons c more =>
          simp only
          split
          · rename_i hc
            subst hc
            exact ItemsCase.last hread hnext
          · split
            · rename_i hc
              subst hc
              cases hrest : readItems dialect steps depth (skipBlanks more) with
              | error fault =>
                  exact ItemsCase.badRest hread hnext hrest
              | ok found =>
                  exact ItemsCase.cons hread hnext hrest
            · rw [hnext] at hnoComma
              exact hnoComma

/-- What reading members can come to. -/
inductive MembersCase (dialect : Dialect) (steps depth : Nat) (s : Text) :
    Except ReadFault (List (Text × Json) × Text) → Prop
  | noName :
      MembersCase dialect steps depth s (faultAt .nameExpected s)
  | badName
      {more : Text}
      {fault : ReadFault}
      (hs : s = ('"' : CodePoint) :: more)
      (hname : readString s none more = .error fault) :
      MembersCase dialect steps depth s (.error fault)
  | noColon
      {more name rest : Text}
      (hs : s = ('"' : CodePoint) :: more)
      (hname : readString s none more = .ok (name, rest)) :
      MembersCase dialect steps depth s (faultAt .colonExpected (skipBlanks rest))
  | badValue
      {more name rest next : Text}
      {fault : ReadFault}
      (hs : s = ('"' : CodePoint) :: more)
      (hname : readString s none more = .ok (name, rest))
      (hcolon : skipBlanks rest = (':' : CodePoint) :: next)
      (hread : readValue dialect steps depth (skipBlanks next) = .error fault) :
      MembersCase dialect steps depth s (.error fault)
  | noComma
      {more name rest next after : Text}
      {value : Json}
      (hs : s = ('"' : CodePoint) :: more)
      (hname : readString s none more = .ok (name, rest))
      (hcolon : skipBlanks rest = (':' : CodePoint) :: next)
      (hread : readValue dialect steps depth (skipBlanks next) = .ok (value, after)) :
      MembersCase dialect steps depth s (faultAt .commaExpected (skipBlanks after))
  | last
      {more name rest next after final : Text}
      {value : Json}
      (hs : s = ('"' : CodePoint) :: more)
      (hname : readString s none more = .ok (name, rest))
      (hcolon : skipBlanks rest = (':' : CodePoint) :: next)
      (hread : readValue dialect steps depth (skipBlanks next) = .ok (value, after))
      (hnext : skipBlanks after = ('}' : CodePoint) :: final) :
      MembersCase dialect steps depth s (.ok ([(name, value)], final))
  | badRest
      {more name rest next after further : Text}
      {value : Json}
      {fault : ReadFault}
      (hs : s = ('"' : CodePoint) :: more)
      (hname : readString s none more = .ok (name, rest))
      (hcolon : skipBlanks rest = (':' : CodePoint) :: next)
      (hread : readValue dialect steps depth (skipBlanks next) = .ok (value, after))
      (hnext : skipBlanks after = (',' : CodePoint) :: further)
      (hrest : readMembers dialect steps depth (skipBlanks further) = .error fault) :
      MembersCase dialect steps depth s (.error fault)
  | cons
      {more name rest next after further final : Text}
      {value : Json}
      {members : List (Text × Json)}
      (hs : s = ('"' : CodePoint) :: more)
      (hname : readString s none more = .ok (name, rest))
      (hcolon : skipBlanks rest = (':' : CodePoint) :: next)
      (hread : readValue dialect steps depth (skipBlanks next) = .ok (value, after))
      (hnext : skipBlanks after = (',' : CodePoint) :: further)
      (hrest : readMembers dialect steps depth (skipBlanks further) = .ok (members, final)) :
      MembersCase dialect steps depth s (.ok ((name, value) :: members, final))

/-- The cases of members are all there are. -/
theorem readMembers_cases
    (dialect : Dialect)
    (steps depth : Nat)
    (s : Text) :
    MembersCase dialect steps depth s (readMembers dialect (steps + 1) depth s) := by
  cases s with
  | nil =>
      exact MembersCase.noName
  | cons q more =>
      simp only [readMembers, bind, Except.bind]
      split
      · rename_i hq
        subst hq
        cases hname : readString (('"' : CodePoint) :: more) none more with
        | error fault =>
            exact MembersCase.badName rfl hname
        | ok found =>
            obtain ⟨name, rest⟩ := found
            have hnoColon :
                MembersCase dialect steps depth (('"' : CodePoint) :: more)
                  (faultAt .colonExpected (skipBlanks rest)) :=
              MembersCase.noColon rfl hname
            simp only
            cases hcolon : skipBlanks rest with
            | nil =>
                rw [hcolon] at hnoColon
                exact hnoColon
            | cons c next =>
                simp only
                split
                · rename_i hc
                  subst hc
                  cases hread : readValue dialect steps depth (skipBlanks next) with
                  | error fault =>
                      exact MembersCase.badValue rfl hname hcolon hread
                  | ok found =>
                      obtain ⟨value, after⟩ := found
                      have hnoComma :
                          MembersCase dialect steps depth (('"' : CodePoint) :: more)
                            (faultAt .commaExpected (skipBlanks after)) :=
                        MembersCase.noComma rfl hname hcolon hread
                      simp only
                      cases hnext : skipBlanks after with
                      | nil =>
                          rw [hnext] at hnoComma
                          exact hnoComma
                      | cons d further =>
                          simp only
                          split
                          · rename_i hd
                            subst hd
                            exact MembersCase.last rfl hname hcolon hread hnext
                          · split
                            · rename_i hd
                              subst hd
                              cases hrest :
                                  readMembers dialect steps depth (skipBlanks further) with
                              | error fault =>
                                  exact
                                    MembersCase.badRest rfl hname hcolon hread hnext hrest
                              | ok found =>
                                  exact MembersCase.cons rfl hname hcolon hread hnext hrest
                            · rw [hnext] at hnoComma
                              exact hnoComma
                · rw [hcolon] at hnoColon
                  exact hnoColon
      · exact MembersCase.noName

/-! ## Strings -/

/-- A string that is read with something in front was read without it. -/
theorem prepend_eq_ok
    {front content rest : Text}
    {outcome : Except ReadFault (Text × Text)}
    (h : prepend front outcome = .ok (content, rest)) :
    ∃ content', outcome = .ok (content', rest) ∧ content = front ++ content' := by
  cases outcome with
  | error fault =>
      cases h
  | ok found =>
      cases h
      exact ⟨_, rfl, rfl⟩

/-- What is in front of a string does not change why it is refused. -/
theorem prepend_eq_error
    {front : Text}
    {fault : ReadFault}
    {outcome : Except ReadFault (Text × Text)}
    (h : prepend front outcome = .error fault) :
    outcome = .error fault := by
  cases outcome with
  | error fault' =>
      cases h
      rfl
  | ok found =>
      cases h

/-- A string is refused at a place. -/
theorem readString_error
    {opened s : Text}
    {held : Option CodePoint}
    {fault : ReadFault}
    (h : readString opened held s = .error fault) :
    ∃ problem remaining, fault = .located problem remaining := by
  fun_induction readString opened held s with
  | case10 _ _ _ _ _ _ _ _ _ _ _ ih =>
      exact ih h
  | case7 _ _ _ _ _ _ _ _ _ _ _ _ ih =>
      exact ih (prepend_eq_error h)
  | case8 _ _ _ _ _ _ _ _ _ _ _ _ _ ih =>
      exact ih (prepend_eq_error h)
  | case9 _ _ _ _ _ _ _ _ _ _ _ _ _ ih =>
      exact ih (prepend_eq_error h)
  | case11 _ _ _ _ _ _ _ _ _ _ _ ih =>
      exact ih (prepend_eq_error h)
  | case13 _ _ _ _ _ _ _ _ ih =>
      exact ih (prepend_eq_error h)
  | case15 _ _ _ _ _ _ ih =>
      exact ih (prepend_eq_error h)
  | _ =>
      cases h
      all_goals exact ⟨_, _, rfl⟩

/-! ## Words -/

/-- A word that is read is that of a value, or that of a number under the lenient dialect. -/
theorem readWord?_ok
    {dialect : Dialect}
    {s rest : Text}
    {v : Json}
    (h : readWord? dialect s = some (.ok (v, rest))) :
    (∃ word, (word, v) ∈ words ∧ s = word ++ rest) ∨
      (dialect = .lenient ∧
        ∃ word x, (word, x) ∈ numberWords ∧ v = float x ∧ s = word ++ rest) := by
  unfold readWord? at h
  split at h
  · rename_i found hfound
    simp only [Option.some.injEq, Except.ok.injEq] at h
    subst h
    obtain ⟨⟨word, v'⟩, hmem, hafter⟩ := List.exists_of_findSome?_eq_some hfound
    simp only [Option.map_eq_some_iff, Prod.mk.injEq] at hafter
    obtain ⟨rest', hrest, rfl, rfl⟩ := hafter
    exact Or.inl ⟨word, hmem, Text.eq_append_of_after? hrest⟩
  · obtain ⟨⟨word, x⟩, hmem, hafter⟩ := List.exists_of_findSome?_eq_some h
    simp only [Option.map_eq_some_iff] at hafter
    obtain ⟨rest', hrest, houtcome⟩ := hafter
    cases dialect with
    | strict =>
        cases houtcome
    | lenient =>
        simp only [Except.ok.injEq, Prod.mk.injEq] at houtcome
        obtain ⟨rfl, rfl⟩ := houtcome
        exact Or.inr ⟨rfl, word, x, hmem, rfl, Text.eq_append_of_after? hrest⟩

/-- A word is refused only because it is that of a number that is not finite. -/
theorem readWord?_error
    {dialect : Dialect}
    {s : Text}
    {fault : ReadFault}
    (h : readWord? dialect s = some (.error fault)) :
    ∃ word x, (word, x) ∈ numberWords ∧ fault = .notFinite word := by
  unfold readWord? at h
  split at h
  · cases h
  · obtain ⟨⟨word, x⟩, hmem, hafter⟩ := List.exists_of_findSome?_eq_some h
    simp only [Option.map_eq_some_iff] at hafter
    obtain ⟨rest, -, houtcome⟩ := hafter
    cases dialect with
    | strict =>
        simp only [Except.error.injEq] at houtcome
        exact ⟨word, x, hmem, houtcome.symm⟩
    | lenient =>
        cases houtcome

/-! ## Numbers -/

/-- A code point that can stand in a number. -/
def isNumberPart (c : CodePoint) : Bool :=
  c.isDigit || (Text.ofString "+-.eE").contains c

/-- A text begins with code points that can stand in a number, and goes on with `rest`. -/
def NumberBefore (s rest : Text) : Prop :=
  ∃ t, s = t ++ rest ∧ ∀ c ∈ t, isNumberPart c = true

namespace NumberBefore

/-- Nothing is consumed. -/
theorem refl
    (s : Text) :
    NumberBefore s s := by
  refine ⟨[], rfl, ?_⟩
  intro c hc
  cases hc

/-- One code point is consumed. -/
theorem cons
    {c : CodePoint}
    {s rest : Text}
    (hc : isNumberPart c = true)
    (h : NumberBefore s rest) :
    NumberBefore (c :: s) rest := by
  obtain ⟨t, rfl, ht⟩ := h
  refine ⟨c :: t, rfl, ?_⟩
  intro d hd
  rcases List.mem_cons.mp hd with rfl | hd
  · exact hc
  · exact ht d hd

/-- What is consumed in two steps is consumed. -/
theorem trans
    {s middle rest : Text}
    (h : NumberBefore s middle)
    (h' : NumberBefore middle rest) :
    NumberBefore s rest := by
  obtain ⟨t, rfl, ht⟩ := h
  obtain ⟨u, rfl, hu⟩ := h'
  refine ⟨t ++ u, (List.append_assoc t u rest).symm, ?_⟩
  intro c hc
  rcases List.mem_append.mp hc with hc | hc
  · exact ht c hc
  · exact hu c hc

/-- The digits that a text starts with are consumed. -/
theorem dropWhile_isDigit
    (s : Text) :
    NumberBefore s (s.dropWhile CodePoint.isDigit) := by
  refine ⟨s.takeWhile CodePoint.isDigit, List.takeWhile_append_dropWhile.symm, ?_⟩
  intro c hc
  have hdigit : c.isDigit = true := List.all_eq_true.mp List.all_takeWhile c hc
  unfold isNumberPart
  rw [hdigit, Bool.true_or]

end NumberBefore

/-- A fraction consumes code points of a number. -/
theorem numberBefore_scanFraction
    (s : Text) :
    NumberBefore s (scanFraction s).2 := by
  cases s with
  | nil =>
      exact NumberBefore.refl []
  | cons c s =>
      simp only [scanFraction]
      split
      · rename_i hc
        obtain ⟨rfl, -⟩ := hc
        exact NumberBefore.cons rfl (NumberBefore.dropWhile_isDigit s)
      · exact NumberBefore.refl _

/-- A sign consumes code points of a number. -/
theorem numberBefore_scanSign
    (s : Text) :
    NumberBefore s (scanSign s).2 := by
  cases s with
  | nil =>
      exact NumberBefore.refl []
  | cons c s =>
      simp only [scanSign]
      split
      · rename_i hc
        subst hc
        exact NumberBefore.cons rfl (NumberBefore.refl s)
      · split
        · rename_i hc
          subst hc
          exact NumberBefore.cons rfl (NumberBefore.refl s)
        · exact NumberBefore.refl _

/-- An exponent consumes code points of a number. -/
theorem numberBefore_scanExponent
    (s : Text) :
    NumberBefore s (scanExponent s).2 := by
  cases s with
  | nil =>
      exact NumberBefore.refl []
  | cons c s =>
      have hsign := numberBefore_scanSign s
      simp only [scanExponent]
      split
      · rename_i hc
        have hmark : isNumberPart c = true := by
          rcases hc.1 with rfl | rfl <;> rfl
        exact
          NumberBefore.cons hmark (hsign.trans (NumberBefore.dropWhile_isDigit (scanSign s).2))
      · exact NumberBefore.refl _

/-- A magnitude consumes code points of a number. -/
theorem numberBefore_of_scanMagnitude?
    {negative : Bool}
    {s rest : Text}
    {literal : NumberLiteral}
    (h : scanMagnitude? negative s = some (literal, rest)) :
    NumberBefore s rest := by
  cases s with
  | nil =>
      cases h
  | cons c s =>
      simp only [scanMagnitude?] at h
      split at h
      · rename_i hdigit
        have hfirst : isNumberPart c = true := by
          unfold isNumberPart
          rw [hdigit, Bool.true_or]
        have hwhole :
            NumberBefore s
              (s.drop (if c = '0' then [] else s.takeWhile CodePoint.isDigit).length) := by
          split
          · exact NumberBefore.refl s
          · rw [Text.drop_length_takeWhile]
            exact NumberBefore.dropWhile_isDigit s
        simp only [Option.some.injEq, Prod.mk.injEq] at h
        obtain ⟨-, rfl⟩ := h
        apply NumberBefore.cons hfirst
        apply hwhole.trans
        apply (numberBefore_scanFraction _).trans
        exact numberBefore_scanExponent _
      · cases h

/-- A number consumes code points of a number. -/
theorem numberBefore_of_scanNumber?
    {s rest : Text}
    {literal : NumberLiteral}
    (h : scanNumber? s = some (literal, rest)) :
    NumberBefore s rest := by
  cases s with
  | nil =>
      cases h
  | cons c s =>
      simp only [scanNumber?] at h
      split at h
      · rename_i hc
        subst hc
        exact NumberBefore.cons rfl (numberBefore_of_scanMagnitude? h)
      · exact numberBefore_of_scanMagnitude? h

/-- A number that is read is the value of the literal that the text begins with. -/
theorem readNumber_ok
    {dialect : Dialect}
    {s rest : Text}
    {v : Json}
    (h : readNumber dialect s = .ok (v, rest)) :
    ∃ literal, scanNumber? s = some (literal, rest) ∧ literal.toJson dialect s rest = .ok v := by
  unfold readNumber at h
  split at h
  · cases h
  · rename_i literal rest' hscan
    simp only [bind, Except.bind] at h
    split at h
    · cases h
    · rename_i v' hvalue
      simp only [pure, Except.pure, Except.ok.injEq, Prod.mk.injEq] at h
      obtain ⟨rfl, rfl⟩ := h
      exact ⟨literal, hscan, hvalue⟩

/-- Why a number is refused: there is none, or it has too many digits, or it is out of range and
quoted. -/
theorem readNumber_error
    {dialect : Dialect}
    {s : Text}
    {fault : ReadFault}
    (h : readNumber dialect s = .error fault) :
    fault = .located .valueExpected s.length ∨ (∃ count, fault = .tooManyDigits count) ∨
      ∃ literal, fault = .outOfRange literal ∧ ∀ c ∈ literal, isNumberPart c = true := by
  unfold readNumber at h
  split at h
  · cases h
    exact Or.inl rfl
  · rename_i literal rest hscan
    obtain ⟨t, rfl, ht⟩ := numberBefore_of_scanNumber? hscan
    simp only [NumberLiteral.toJson, bind, Except.bind] at h
    split at h
    · rename_i refused hvalue
      cases h
      split at hvalue
      · split at hvalue <;> cases hvalue
        exact Or.inr (Or.inl ⟨_, rfl⟩)
      · split at hvalue <;> cases hvalue
        refine Or.inr (Or.inr ⟨t, ?_, ht⟩)
        rw [List.length_append, Nat.add_sub_cancel, List.take_left]
    · cases h

/-! ## Whole texts -/

/-- A text that is read is a value with nothing but blanks behind it. -/
theorem read_ok
    {dialect : Dialect}
    {text : Text}
    {v : Json}
    (h : read dialect text = .ok v) :
    ∃ rest,
      readValue dialect (2 * text.length + 2) nestingLimit (skipBlanks text) = .ok (v, rest) ∧
        skipBlanks rest = [] := by
  simp only [read, bind, Except.bind] at h
  split at h
  · cases h
  · split at h
    · cases h
    · rename_i found hread
      obtain ⟨v', rest⟩ := found
      simp only at h
      split at h
      · rename_i hblank
        cases h
        exact ⟨rest, hread, hblank⟩
      · cases h

/-- A text that is refused is refused where a value is read, or at a place. -/
theorem read_error
    {dialect : Dialect}
    {text : Text}
    {fault : ReadFault}
    (h : read dialect text = .error fault) :
    readValue dialect (2 * text.length + 2) nestingLimit (skipBlanks text) = .error fault ∨
      ∃ problem remaining, fault = .located problem remaining := by
  simp only [read, bind, Except.bind] at h
  split at h
  · cases h
    exact Or.inr ⟨_, _, rfl⟩
  · split at h
    · rename_i hread
      cases h
      exact Or.inl hread
    · split at h
      · cases h
      · cases h
        exact Or.inr ⟨_, _, rfl⟩

end CurlRequest.Json
