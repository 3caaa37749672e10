import CurlRequest.Proofs.Json.NumberText
import CurlRequest.Proofs.Json.Strings
import CurlRequest.Proofs.Json.Writable
import Mathlib.Tactic.IntervalCases

/-!
# The compact form is in the grammar

The compact form of a value is a text of the grammar, and the value that the grammar gives it is the
value that was written: a string is escaped to the content of a string that denotes it, a number to
a number that denotes it, and the items and members stand in their order without white space.

**Results.**
* `unitEscape_unitEscape`: four hexadecimal digits denote the unit that they were made of.
* `chars_escape`: an escaped string denotes the string.
* `value_write`: a value that can be written is what its compact form denotes.
-/

namespace CurlRequest.Json

open Grammar (Whitespace HexDigit UnitEscape ShortEscape Chars Value Items Member Members)

/-! ## Strings -/

/-- A hexadecimal digit denotes its value. -/
theorem hexDigit_digitChar
    {n : ℕ}
    (h : n < 16) :
    HexDigit (CodePoint.ofChar n.digitChar) n := by
  unfold HexDigit
  interval_cases n <;> decide

/-- The last hexadecimal digit of a number that has several. -/
theorem toDigits_sixteen
    {n : ℕ}
    (h : 16 ≤ n) :
    Nat.toDigits 16 n = Nat.toDigits 16 (n / 16) ++ [(n % 16).digitChar] :=
  Nat.toDigits_of_base_le (by decide) h

/-- The four hexadecimal digits of a unit. -/
theorem hex_four
    {n : ℕ}
    (h : n < 0x10000) :
    Text.hex 4 n =
      [CodePoint.ofChar (n / 16 / 16 / 16).digitChar, CodePoint.ofChar (n / 16 / 16 % 16).digitChar,
        CodePoint.ofChar (n / 16 % 16).digitChar, CodePoint.ofChar (n % 16).digitChar] := by
  have hone : ∀ {m : ℕ}, m < 16 → Nat.toDigits 16 m = [m.digitChar] :=
    fun hm => Nat.toDigits_of_lt_base hm
  rcases Nat.lt_or_ge n 16 with h₁ | h₁
  · have hzero : n / 16 = 0 := by omega
    rw [Text.hex, hone h₁, hzero, Nat.mod_eq_of_lt h₁]
    rfl
  · rcases Nat.lt_or_ge (n / 16) 16 with h₂ | h₂
    · have hzero : n / 16 / 16 = 0 := by omega
      rw [Text.hex, toDigits_sixteen h₁, hone h₂, hzero, Nat.mod_eq_of_lt h₂]
      rfl
    · rcases Nat.lt_or_ge (n / 16 / 16) 16 with h₃ | h₃
      · have hzero : n / 16 / 16 / 16 = 0 := by omega
        rw [Text.hex, toDigits_sixteen h₁, toDigits_sixteen h₂, hone h₃, hzero,
          Nat.mod_eq_of_lt h₃]
        rfl
      · have h₄ : n / 16 / 16 / 16 < 16 := by omega
        rw [Text.hex, toDigits_sixteen h₁, toDigits_sixteen h₂, toDigits_sixteen h₃, hone h₄]
        rfl

/-- **The escape of a unit** denotes it. -/
theorem unitEscape_unitEscape
    {c : CodePoint}
    (h : c.toNat < 0x10000) :
    UnitEscape (unitEscape c.toNat) c := by
  rw [unitEscape, hex_four h]
  refine UnitEscape.digits (hexDigit_digitChar (by omega)) (hexDigit_digitChar (by omega))
    (hexDigit_digitChar (by omega)) (hexDigit_digitChar (by omega)) ?_
  omega

/-- A code point is written as a short escape, as the escape of a control, or as it is. -/
theorem escapeOne_cases
    (c : CodePoint) :
    (∃ e, ShortEscape e c ∧ escapeOne false c = [('\\' : CodePoint), e]) ∨
      (c.toNat < 0x20 ∧ escapeOne false c = unitEscape c.toNat) ∨
        (0x20 ≤ c.toNat ∧ c ≠ '"' ∧ c ≠ '\\' ∧ escapeOne false c = [c]) := by
  have hext : ∀ d : CodePoint, c.toNat = d.toNat → c = d := by
    intro d hd
    rwa [CodePoint.mk.injEq]
  by_cases hquote : c = '"'
  · subst hquote
    exact Or.inl ⟨_, ShortEscape.quote, rfl⟩
  by_cases hbackslash : c = '\\'
  · subst hbackslash
    exact Or.inl ⟨_, ShortEscape.backslash, rfl⟩
  by_cases hline : c = '\n'
  · subst hline
    exact Or.inl ⟨_, ShortEscape.lineFeed, rfl⟩
  by_cases hreturn : c = '\r'
  · subst hreturn
    exact Or.inl ⟨_, ShortEscape.carriageReturn, rfl⟩
  by_cases htab : c = '\t'
  · subst htab
    exact Or.inl ⟨_, ShortEscape.tab, rfl⟩
  by_cases hbackspace : c.toNat = 0x08
  · have hc := hext '\x08' hbackspace
    subst hc
    exact Or.inl ⟨_, ShortEscape.backspace, rfl⟩
  by_cases hform : c.toNat = 0x0C
  · have hc := hext '\x0c' hform
    subst hc
    exact Or.inl ⟨_, ShortEscape.formFeed, rfl⟩
  by_cases hcontrol : c.toNat < 0x20
  · refine Or.inr (Or.inl ⟨hcontrol, ?_⟩)
    simp [escapeOne, hquote, hbackslash, hline, hreturn, htab, hbackspace, hform,
      CodePoint.isControl, hcontrol]
  · refine Or.inr (Or.inr ⟨not_lt.mp hcontrol, hquote, hbackslash, ?_⟩)
    simp [escapeOne, hquote, hbackslash, hline, hreturn, htab, hbackspace, hform,
      CodePoint.isControl, hcontrol]

/-- An escaped code point in front of the content of a string denotes the code point. -/
theorem chars_escapeOne
    {t s : Text}
    (c : CodePoint)
    (h : Chars t s) :
    Chars (escapeOne false c ++ t) (c :: s) := by
  rcases escapeOne_cases c with ⟨e, he, hescape⟩ | ⟨hcontrol, hescape⟩ |
    ⟨hcontrol, hquote, hbackslash, hescape⟩
  · rw [hescape]
    exact Chars.escaped he h
  · have hhigh : ¬ c.isHighSurrogate = true := by
      simp only [CodePoint.isHighSurrogate, decide_eq_true_eq]
      omega
    rw [hescape]
    exact Chars.unit (unitEscape_unitEscape (by omega)) (fun halone => hhigh halone.1) h
  · rw [hescape]
    exact Chars.unescaped hcontrol hquote hbackslash h

/-- **An escaped string** is the content of a string that denotes it. -/
theorem chars_escape
    (s : Text) :
    Chars (s.flatMap (escapeOne false)) s := by
  induction s with
  | nil =>
      exact Chars.nil
  | cons c s ih =>
      rw [List.flatMap_cons]
      exact chars_escapeOne c ih

/-! ## Values -/

/-- Items with commas between them are the items. -/
theorem items_writeItems
    {item : Json}
    {rest : List Json}
    (h : ∀ other ∈ item :: rest, Value (write false other) other) :
    Items (writeItems false (item :: rest)) (item :: rest) := by
  have hitem := h item List.mem_cons_self
  induction rest generalizing item with
  | nil =>
      have hsingle := Items.single whitespace_nil hitem whitespace_nil
      rwa [List.nil_append, List.append_nil] at hsingle
  | cons next rest ih =>
      have hnext := h next (List.mem_cons_of_mem item List.mem_cons_self)
      have hrest := ih (fun other hother => h other (List.mem_cons_of_mem item hother)) hnext
      have hcons := Items.cons whitespace_nil hitem whitespace_nil hrest
      rw [writeItems, List.append_assoc]
      exact hcons

/-- A member without white space is the member. -/
theorem member_write
    {name : Text}
    {v : Json}
    (h : Value (write false v) v) :
    Member (escape false name ++ ":" ++ write false v) (name, v) := by
  have hmember := Member.mk (chars_escape name) whitespace_nil whitespace_nil h
  simpa [escape, Text.ofString] using hmember

/-- Members with commas between them are the members. -/
theorem members_writeMembers
    {member : Text × Json}
    {rest : List (Text × Json)}
    (h : ∀ other ∈ member :: rest, Value (write false other.2) other.2) :
    Members (writeMembers false (member :: rest)) (member :: rest) := by
  obtain ⟨name, v⟩ := member
  have hmember : Member _ (name, v) := member_write (h (name, v) List.mem_cons_self)
  induction rest generalizing name v with
  | nil =>
      have hsingle := Members.single whitespace_nil hmember whitespace_nil
      rwa [List.nil_append, List.append_nil] at hsingle
  | cons next rest ih =>
      obtain ⟨name', v'⟩ := next
      have hnext := h (name', v') (List.mem_cons_of_mem _ List.mem_cons_self)
      have hrest := ih name' v' (fun other hother => h other (List.mem_cons_of_mem _ hother))
        (member_write hnext)
      have hcons := Members.cons whitespace_nil hmember whitespace_nil hrest
      rw [writeMembers, List.append_assoc]
      exact hcons

/-- A value without parts is denoted by its text. -/
theorem value_scalarText
    {v : Json}
    (hv : Scalar v)
    (h : Writable v) :
    Value (scalarText false v) v := by
  cases hv with
  | null =>
      exact Value.nullWord
  | bool b =>
      cases b with
      | true =>
          exact Value.trueWord
      | false =>
          exact Value.falseWord
  | int n =>
      obtain ⟨l, hnumber, hdenotes⟩ := exists_number_ofInt (h.short n Part.self)
      exact Value.number hnumber hdenotes
  | float x =>
      obtain ⟨l, hnumber, hdenotes⟩ := exists_number_format numberFormat (h.finite x Part.self)
      exact Value.number hnumber hdenotes
  | str s =>
      exact Value.string (chars_escape s)

/-- By induction on the parts: **the compact form of a value** denotes the value. -/
theorem value_write
    {v : Json}
    (h : Writable v) :
    Value (write false v) v := by
  induction v using inductionOnParts with
  | scalar v hv =>
      have hvalue := value_scalarText hv h
      cases hv <;> exact hvalue
  | array items ih =>
      have hitems := fun item hmem => ih item hmem (h.item hmem)
      cases items with
      | nil =>
          exact Value.emptyArray whitespace_nil
      | cons item rest =>
          exact Value.array (items_writeItems hitems)
  | object members ih =>
      have hmembers := fun member hmem => ih member hmem (h.member hmem)
      cases members with
      | nil =>
          exact Value.emptyObject whitespace_nil
      | cons member rest =>
          exact Value.object (members_writeMembers hmembers)

end CurlRequest.Json
