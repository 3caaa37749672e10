import CurlRequest.Json.Writer
import CurlRequest.Proofs.Json.Digits
import CurlRequest.Proofs.Json.Grammar
import CurlRequest.Proofs.Json.View

/-!
# Values that have a text

Two things keep a value from having a text: a floating point number that is not finite, and an
integer with too many digits, at whatever depth they stand.  The grammar gives no such number to any
text, and a last-value view has no numbers of its own, so every value of the grammar has a text, and
so has everything that is taken out of such a value.

**Results.**
* `writeFault?_eq_none_iff`: writing meets no fault iff the value is writable.
* `exists_toText_error_iff`: a value lacks a text iff it is no string and its last-value view is
  not writable.
* `Writable.exists_toText`: every part of a writable value has a text.
* `writable_of_jsonText`: the values of the grammar are writable.
-/

namespace CurlRequest.Json

/-- A value can be written: its integers are short enough and its floating point numbers are
finite. -/
structure Writable (v : Json) : Prop where
  short : ∀ n, Part (int n) v → n.natAbs < 10 ^ digitLimit
  finite : ∀ x, Part (float x) v → x.isFinite = true

/-! ## Parts -/

theorem Writable.item
    {item : Json}
    {items : List Json}
    (h : Writable (arr items))
    (hmem : item ∈ items) :
    Writable item where
  short n hn := h.short n (Part.item hmem hn)
  finite x hx := h.finite x (Part.item hmem hx)

theorem Writable.member
    {member : Text × Json}
    {members : List (Text × Json)}
    (h : Writable (obj members))
    (hmem : member ∈ members) :
    Writable member.2 where
  short n hn := h.short n (Part.member hmem hn)
  finite x hx := h.finite x (Part.member hmem hx)

/-- An array is writable iff its items are. -/
theorem writable_arr_iff
    {items : List Json} :
    Writable (arr items)
      ↔
    ∀ item ∈ items, Writable item := by
  constructor
  · intro h item hmem
    exact h.item hmem
  · intro h
    constructor
    · intro n hn
      simp only [part_arr_iff, reduceCtorEq, false_or] at hn
      obtain ⟨item, hmem, hn⟩ := hn
      exact (h item hmem).short n hn
    · intro x hx
      simp only [part_arr_iff, reduceCtorEq, false_or] at hx
      obtain ⟨item, hmem, hx⟩ := hx
      exact (h item hmem).finite x hx

/-- An object is writable iff the values of its members are. -/
theorem writable_obj_iff
    {members : List (Text × Json)} :
    Writable (obj members)
      ↔
    ∀ member ∈ members, Writable member.2 := by
  constructor
  · intro h member hmem
    exact h.member hmem
  · intro h
    constructor
    · intro n hn
      simp only [part_obj_iff, reduceCtorEq, false_or] at hn
      obtain ⟨member, hmem, hn⟩ := hn
      exact (h member hmem).short n hn
    · intro x hx
      simp only [part_obj_iff, reduceCtorEq, false_or] at hx
      obtain ⟨member, hmem, hx⟩ := hx
      exact (h member hmem).finite x hx

/-- Every part of a writable value is writable. -/
theorem Writable.part
    {v x : Json}
    (h : Writable v)
    (hx : Part x v) :
    Writable x := by
  induction hx with
  | self =>
      exact h
  | item hmem hx ih =>
      exact ih (h.item hmem)
  | member hmem hx ih =>
      exact ih (h.member hmem)

/-- What is found in a writable object is writable. -/
theorem Writable.of_get?
    {name : Text}
    {value : Json}
    {members : List (Text × Json)}
    (h : Writable (obj members))
    (hget : Dictionary.get? name members = some value) :
    Writable value :=
  h.member (Dictionary.mem_of_get?_eq_some hget)

/-! ## Faults in writing -/

/-- Writing items meets no fault iff writing each of them meets none. -/
theorem writeFaultOfItems?_eq_none_iff
    (items : List Json) :
    writeFaultOfItems? items = none
      ↔
    ∀ item ∈ items, writeFault? item = none := by
  induction items with
  | nil =>
      simp [writeFaultOfItems?]
  | cons item rest ih =>
      simp [writeFaultOfItems?, ih]

/-- Writing members meets no fault iff writing the value of each of them meets none. -/
theorem writeFaultOfMembers?_eq_none_iff
    (members : List (Text × Json)) :
    writeFaultOfMembers? members = none
      ↔
    ∀ member ∈ members, writeFault? member.2 = none := by
  induction members with
  | nil =>
      simp [writeFaultOfMembers?]
  | cons member rest ih =>
      obtain ⟨name, value⟩ := member
      simp [writeFaultOfMembers?, ih]

/-- By induction on the parts: **writing meets no fault** iff the value is writable. -/
theorem writeFault?_eq_none_iff
    (v : Json) :
    writeFault? v = none
      ↔
    Writable v := by
  induction v using inductionOnParts with
  | scalar v hv =>
      have hparts : Writable v ↔
          (∀ n, int n = v → n.natAbs < 10 ^ digitLimit) ∧
            ∀ x, float x = v → x.isFinite = true := by
        constructor
        · intro h
          refine ⟨fun n hn => h.short n ?_, fun x hx => h.finite x ?_⟩
          · exact (part_scalar_iff hv).mpr hn
          · exact (part_scalar_iff hv).mpr hx
        · rintro ⟨hshort, hfinite⟩
          refine ⟨fun n hn => hshort n ?_, fun x hx => hfinite x ?_⟩
          · exact (part_scalar_iff hv).mp hn
          · exact (part_scalar_iff hv).mp hx
      rw [hparts]
      cases hv with
      | int n =>
          have hlength : (Text.ofNat n.natAbs).length ≤ digitLimit ↔ n.natAbs < 10 ^ digitLimit :=
            length_ofNat_le_iff (by decide)
          simp [writeFault?, ← hlength]
      | float x =>
          simp [writeFault?]
      | null =>
          simp [writeFault?]
      | bool b =>
          simp [writeFault?]
      | str s =>
          simp [writeFault?]
  | array items ih =>
      rw [writeFault?, writeFaultOfItems?_eq_none_iff, writable_arr_iff]
      exact forall₂_congr ih
  | object members ih =>
      rw [writeFault?, writeFaultOfMembers?_eq_none_iff, writable_obj_iff]
      exact forall₂_congr ih

/-! ## Texts -/

/-- By induction on the parts: the last-value view of a writable value is writable. -/
theorem Writable.collapse
    {v : Json}
    (h : Writable v) :
    Writable (collapse v) := by
  induction v using inductionOnParts with
  | scalar v hv =>
      cases hv <;> exact h
  | array items ih =>
      rw [Json.collapse, collapseItems_eq_map, writable_arr_iff]
      intro view hview
      obtain ⟨item, hmem, rfl⟩ := List.mem_map.mp hview
      exact ih item hmem (h.item hmem)
  | object members ih =>
      rw [Json.collapse, collapseMembers_eq_map, writable_obj_iff]
      apply Dictionary.forall_mem_ofEntries Writable
      intro view hview
      obtain ⟨member, hmem, rfl⟩ := List.mem_map.mp hview
      exact ih member hmem (h.member hmem)

/-- The text of a value that is no string. -/
theorem toText_of_ne_str
    {v : Json}
    (h : ∀ s, v ≠ str s) :
    v.toText =
      match writeFault? v.collapse with
      | none => .ok v.collapse.compact
      | some fault => .error fault := by
  cases v with
  | str s =>
      exact absurd rfl (h s)
  | _ =>
      rfl

/-- A value and its view have the same text. -/
theorem toText_collapse
    (v : Json) :
    v.collapse.toText = v.toText := by
  by_cases hstr : ∃ s, v = str s
  · obtain ⟨s, rfl⟩ := hstr
    rfl
  · have hne := not_exists.mp hstr
    have hview : ∀ s, v.collapse ≠ str s := by
      cases v with
      | str s =>
          exact absurd rfl (hne s)
      | _ =>
          exact nofun
    rw [toText_of_ne_str hne, toText_of_ne_str hview, collapse_collapse]

/-- **A value has no text** iff it is no string and its last-value view is not writable. -/
theorem exists_toText_error_iff
    (v : Json) :
    (∃ fault, v.toText = .error fault)
      ↔
    (∀ s, v ≠ str s) ∧ ¬ Writable v.collapse := by
  by_cases hstr : ∃ s, v = str s
  · obtain ⟨s, rfl⟩ := hstr
    simp [toText]
  · have hne := not_exists.mp hstr
    rw [toText_of_ne_str hne, ← writeFault?_eq_none_iff]
    cases writeFault? v.collapse with
    | none =>
        simp
    | some fault =>
        simpa using hne

/-- **A writable value has a text.** -/
theorem Writable.exists_toText
    {v : Json}
    (h : Writable v) :
    ∃ text, v.toText = .ok text := by
  cases htext : v.toText with
  | ok text =>
      exact ⟨text, rfl⟩
  | error fault =>
      have hnot := ((exists_toText_error_iff v).mp ⟨fault, htext⟩).2
      exact absurd h.collapse hnot

/-- The text of a writable value that is no string and whose names are distinct. -/
theorem Writable.toText_of_distinctNames
    {v : Json}
    (h : Writable v)
    (hstr : ∀ s, v ≠ str s)
    (hnames : DistinctNames v) :
    v.toText = .ok (compact v) := by
  rw [toText_of_ne_str hstr, collapse_eq_self hnames, (writeFault?_eq_none_iff v).mpr h]

/-! ## The grammar -/

open Grammar (Value Items Member Members JsonText)

/-- The items of the grammar are values of it. -/
theorem exists_value_of_mem_items
    {t : Text}
    {items : List Json}
    (h : Items t items) :
    ∀ item ∈ items, ∃ u, Value u item := by
  induction items generalizing t with
  | nil =>
      cases h
  | cons first rest ih =>
      rw [List.forall_mem_cons]
      cases h with
      | single _ hvalue _ =>
          refine ⟨⟨_, hvalue⟩, ?_⟩
          simp
      | cons _ hvalue _ hrest =>
          exact ⟨⟨_, hvalue⟩, ih hrest⟩

/-- The members of the grammar have values of it. -/
theorem exists_value_of_mem_members
    {t : Text}
    {members : List (Text × Json)}
    (h : Members t members) :
    ∀ member ∈ members, ∃ u, Value u member.2 := by
  have hfirst {u : Text} {member : Text × Json} (hmember : Member u member) :
      ∃ u, Value u member.2 := by
    cases hmember with
    | mk _ _ _ hvalue =>
        exact ⟨_, hvalue⟩
  induction members generalizing t with
  | nil =>
      cases h
  | cons first rest ih =>
      rw [List.forall_mem_cons]
      cases h with
      | single _ hmember _ =>
          refine ⟨hfirst hmember, ?_⟩
          simp
      | cons _ hmember _ hrest =>
          exact ⟨hfirst hmember, ih hrest⟩

/-- The digits of a number are digits. -/
theorem isDigit_of_whole
    {t : Text}
    (h : Grammar.Whole t) :
    ∀ c ∈ t, c.isDigit = true := by
  cases h with
  | zero =>
      decide
  | digits hc hzero ht =>
      rw [List.forall_mem_cons]
      exact ⟨hc, ht⟩

/-- The values of numbers are writable. -/
theorem writable_of_number
    {t : Text}
    {l : NumberLiteral}
    {v : Json}
    (ht : Grammar.Number t l)
    (hv : Grammar.Denotes l v) :
    Writable v := by
  cases hv with
  | integer hfraction hexponent hlimit =>
      have hdigits : ∀ c ∈ l.whole, c.isDigit = true := by
        cases ht with
        | mk hwhole _ _ =>
            exact isDigit_of_whole hwhole
      have hvalue : digitsValue l.whole < 10 ^ digitLimit :=
        Nat.lt_of_lt_of_le (digitsValue_lt hdigits) (Nat.pow_le_pow_right (by decide) hlimit)
      constructor
      · intro n hn
        simp only [part_scalar_iff, Scalar.int, int.injEq] at hn
        subst hn
        split <;> omega
      · intro x hx
        simp at hx
  | floating hkind hround hfinite =>
      constructor
      · intro n hn
        simp at hn
      · intro x hx
        simp only [part_scalar_iff, Scalar.float, float.injEq] at hx
        subst hx
        exact hfinite

/-- By induction on the parts: **the values of the grammar** are writable. -/
theorem writable_of_value
    {t : Text}
    {v : Json}
    (h : Value t v) :
    Writable v := by
  induction v using inductionOnParts generalizing t with
  | scalar v hv =>
      cases h with
      | number ht hvalue =>
          exact writable_of_number ht hvalue
      | nullWord =>
          constructor <;> simp
      | trueWord =>
          constructor <;> simp
      | falseWord =>
          constructor <;> simp
      | string _ =>
          constructor <;> simp
      | emptyArray _ =>
          cases hv
      | array _ =>
          cases hv
      | emptyObject _ =>
          cases hv
      | object _ =>
          cases hv
  | array items ih =>
      rw [writable_arr_iff]
      cases h with
      | number _ hvalue =>
          cases hvalue
      | emptyArray _ =>
          simp
      | array hitems =>
          intro item hmem
          obtain ⟨u, hu⟩ := exists_value_of_mem_items hitems item hmem
          exact ih item hmem hu
  | object members ih =>
      rw [writable_obj_iff]
      cases h with
      | number _ hvalue =>
          cases hvalue
      | emptyObject _ =>
          simp
      | object hmembers =>
          intro member hmem
          obtain ⟨u, hu⟩ := exists_value_of_mem_members hmembers member hmem
          exact ih member hmem hu

/-- The value of a text of the grammar is writable. -/
theorem writable_of_jsonText
    {t : Text}
    {v : Json}
    (h : JsonText t v) :
    Writable v := by
  cases h with
  | mk _ hvalue _ =>
      exact writable_of_value hvalue

end CurlRequest.Json
