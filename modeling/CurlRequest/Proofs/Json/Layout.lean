import CurlRequest.Proofs.Json.Writing

/-!
# The form over several lines is in the grammar

The form of a value over several lines has the words of the compact form with white space between
them: a line break and an indent in front of each item and each member, and a space behind each
colon.  White space may stand there, so both forms denote the value.

**Results.**
* `items_layOutItems`, `members_layOutMembers`: the lines between two brackets.
* `value_layOut`: a value that can be written is what its form over several lines denotes, whatever
  the level of its first line.
* `jsonText_pretty`: the same for a whole text that ends in a line break.
-/

namespace CurlRequest.Json

open Grammar (Whitespace Value Items Member Members JsonText)

/-! ## Line breaks -/

/-- A line break and an indent are white space. -/
theorem whitespace_newLine
    (level : Nat) :
    Whitespace (newLine level) := by
  intro c hc
  simp only [newLine, Text.ofString, List.mem_append, List.mem_replicate] at hc
  rcases hc with hc | ⟨-, rfl⟩
  · simp at hc
    exact Or.inr (Or.inr (Or.inl hc))
  · exact Or.inl rfl

/-- The space behind a colon is white space. -/
theorem whitespace_space :
    Whitespace [(' ' : CodePoint)] := by
  intro c hc
  exact Or.inl (List.mem_singleton.mp hc)

/-! ## Values -/

section Parts

variable {level : Nat} {w' : Text}

/-- By induction on the rest: items on a line each are the items. -/
theorem items_layOutItems
    {item : Json}
    {rest : List Json}
    (h : ∀ other ∈ item :: rest, Value (layOut (level + 1) other) other)
    (hw' : Whitespace w') :
    Items (newLine (level + 1) ++ (layOutItems level (item :: rest) ++ w')) (item :: rest) := by
  have hw := whitespace_newLine (level + 1)
  induction rest generalizing item with
  | nil =>
      exact Items.single hw (h item List.mem_cons_self) hw'
  | cons next rest ih =>
      have hrest := ih fun other hother => h other (List.mem_cons_of_mem item hother)
      have hcons := Items.cons hw (h item List.mem_cons_self) whitespace_nil hrest
      simpa [layOutItems, Text.ofString] using hcons

/-- A member with a space behind the colon is the member. -/
theorem member_layOut
    {name : Text}
    {v : Json}
    (h : Value (layOut (level + 1) v) v) :
    Member (escape false name ++ ": " ++ layOut (level + 1) v) (name, v) := by
  have hmember := Member.mk (chars_escape name) whitespace_nil whitespace_space h
  simpa [escape, Text.ofString] using hmember

/-- By induction on the rest: members on a line each are the members. -/
theorem members_layOutMembers
    {member : Text × Json}
    {rest : List (Text × Json)}
    (h : ∀ other ∈ member :: rest, Value (layOut (level + 1) other.2) other.2)
    (hw' : Whitespace w') :
    Members (newLine (level + 1) ++ (layOutMembers level (member :: rest) ++ w'))
      (member :: rest) := by
  have hw := whitespace_newLine (level + 1)
  induction rest generalizing member with
  | nil =>
      exact Members.single hw (member_layOut (h member List.mem_cons_self)) hw'
  | cons next rest ih =>
      have hrest := ih fun other hother => h other (List.mem_cons_of_mem member hother)
      have hmember : Member _ member := member_layOut (h member List.mem_cons_self)
      have hcons := Members.cons hw hmember whitespace_nil hrest
      simpa [layOutMembers, Text.ofString] using hcons

end Parts

/-- By induction on the parts: **the form of a value over several lines** denotes the value. -/
theorem value_layOut
    {v : Json}
    (h : Writable v)
    (level : Nat) :
    Value (layOut level v) v := by
  induction v using inductionOnParts generalizing level with
  | scalar v hv =>
      have hvalue := value_scalarText hv h
      cases hv <;> simpa [layOut] using hvalue
  | array items ih =>
      have hitems := fun item hmem => ih item hmem (h.item hmem) (level + 1)
      cases items with
      | nil =>
          exact Value.emptyArray whitespace_nil
      | cons item rest =>
          have harray := Value.array (items_layOutItems hitems (whitespace_newLine level))
          simpa [layOut, Text.ofString] using harray
  | object members ih =>
      have hmembers := fun member hmem => ih member hmem (h.member hmem) (level + 1)
      cases members with
      | nil =>
          exact Value.emptyObject whitespace_nil
      | cons member rest =>
          have hobject := Value.object (members_layOutMembers hmembers (whitespace_newLine level))
          simpa [layOut, Text.ofString] using hobject

/-- **A value that can be written** is what its form over several lines denotes. -/
theorem jsonText_pretty
    {v : Json}
    (h : Writable v) :
    JsonText (v.pretty ++ "\n") v :=
  JsonText.mk whitespace_nil (value_layOut h 0) (whitespace_newLine 0)

end CurlRequest.Json
