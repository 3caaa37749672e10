import CurlRequest.Json
import CurlRequest.Proofs.Dictionary

/-!
# Parts and views of a value

A part of a value is the value itself or what stands in it at some depth.  The last-value view of a
value has the same scalars and arrays, but in its objects every name stands once, at the place of
its first member and with the view of its last value.

**Results.**
* `part_arr_iff`, `part_obj_iff`: the parts of a value.
* `viewOf_collapse`, `viewOf_iff`: collapsing a value gives its last-value view, the only one.
* `collapse_eq_self`: it changes nothing where the names of every object are distinct.
-/

namespace CurlRequest.Json

/-! ## Parts -/

/-- A value without parts. -/
inductive Scalar : Json → Prop
  | null : Scalar null
  | bool (b : Bool) : Scalar (bool b)
  | int (n : Int) : Scalar (int n)
  | float (x : Binary64) : Scalar (float x)
  | str (s : Text) : Scalar (str s)

attribute [simp] Scalar.null Scalar.bool Scalar.int Scalar.float Scalar.str

mutual

/-- Induction on a value by its items and the values of its members. -/
theorem inductionOnParts
    {P : Json → Prop}
    (scalar : ∀ v, Scalar v → P v)
    (array : ∀ items, (∀ item ∈ items, P item) → P (arr items))
    (object : ∀ members, (∀ member ∈ members, P member.2) → P (obj members)) :
    ∀ v : Json, P v
  | null => scalar null Scalar.null
  | bool b => scalar (bool b) (Scalar.bool b)
  | int n => scalar (int n) (Scalar.int n)
  | float x => scalar (float x) (Scalar.float x)
  | str s => scalar (str s) (Scalar.str s)
  | arr items => array items (forall_mem_items scalar array object items)
  | obj members => object members (forall_mem_members scalar array object members)

/-- The induction for items. -/
theorem forall_mem_items
    {P : Json → Prop}
    (scalar : ∀ v, Scalar v → P v)
    (array : ∀ items, (∀ item ∈ items, P item) → P (arr items))
    (object : ∀ members, (∀ member ∈ members, P member.2) → P (obj members)) :
    ∀ items : List Json, ∀ item ∈ items, P item
  | [], _, h => by
      cases h
  | first :: rest, item, h => by
      rcases List.mem_cons.mp h with hfirst | h
      · rw [hfirst]
        exact inductionOnParts scalar array object first
      · exact forall_mem_items scalar array object rest item h

/-- The induction for members. -/
theorem forall_mem_members
    {P : Json → Prop}
    (scalar : ∀ v, Scalar v → P v)
    (array : ∀ items, (∀ item ∈ items, P item) → P (arr items))
    (object : ∀ members, (∀ member ∈ members, P member.2) → P (obj members)) :
    ∀ members : List (Text × Json), ∀ member ∈ members, P member.2
  | [], _, h => by
      cases h
  | (name, value) :: rest, member, h => by
      rcases List.mem_cons.mp h with rfl | h
      · exact inductionOnParts scalar array object value
      · exact forall_mem_members scalar array object rest member h

end

/-- A value is another one, or stands in it at some depth. -/
inductive Part (x : Json) : Json → Prop
  | self :
      Part x x
  | item
      {item : Json}
      {items : List Json}
      (hmem : item ∈ items)
      (h : Part x item) :
      Part x (arr items)
  | member
      {member : Text × Json}
      {members : List (Text × Json)}
      (hmem : member ∈ members)
      (h : Part x member.2) :
      Part x (obj members)

/-- The only part of a value without parts is itself. -/
@[simp] theorem part_scalar_iff
    {x v : Json}
    (hv : Scalar v) :
    Part x v
      ↔
    x = v := by
  constructor
  · intro h
    cases h with
    | self =>
        rfl
    | item =>
        cases hv
    | member =>
        cases hv
  · rintro rfl
    exact Part.self

@[simp] theorem part_arr_iff
    {x : Json}
    {items : List Json} :
    Part x (arr items)
      ↔
    x = arr items ∨ ∃ item ∈ items, Part x item := by
  constructor
  · intro h
    cases h with
    | self =>
        exact Or.inl rfl
    | item hmem h =>
        exact Or.inr ⟨_, hmem, h⟩
  · rintro (rfl | ⟨item, hmem, h⟩)
    · exact Part.self
    · exact Part.item hmem h

@[simp] theorem part_obj_iff
    {x : Json}
    {members : List (Text × Json)} :
    Part x (obj members)
      ↔
    x = obj members ∨ ∃ member ∈ members, Part x member.2 := by
  constructor
  · intro h
    cases h with
    | self =>
        exact Or.inl rfl
    | member hmem h =>
        exact Or.inr ⟨_, hmem, h⟩
  · rintro (rfl | ⟨member, hmem, h⟩)
    · exact Part.self
    · exact Part.member hmem h

/-! ## The last-value view -/

/-- The last-value view of a value. -/
inductive ViewOf : Json → Json → Prop
  | scalar
      {v : Json}
      (h : Scalar v) :
      ViewOf v v
  | arr
      {items views : List Json}
      (h : List.Forall₂ ViewOf items views) :
      ViewOf (arr items) (arr views)
  | obj
      {members views : List (Text × Json)}
      (hnames : views.map Prod.fst = (members.map Prod.fst).eraseDups)
      (hvalues : ∀ name value view,
        Dictionary.Last name members value → Dictionary.Last name views view → ViewOf value view) :
      ViewOf (obj members) (obj views)

theorem collapseItems_eq_map
    (items : List Json) :
    collapseItems items = items.map collapse := by
  induction items with
  | nil =>
      rfl
  | cons item rest ih =>
      rw [collapseItems, ih, List.map_cons]

theorem collapseMembers_eq_map
    (members : List (Text × Json)) :
    collapseMembers members = members.map fun member => (member.1, collapse member.2) := by
  induction members with
  | nil =>
      rfl
  | cons member rest ih =>
      rw [collapseMembers, ih, List.map_cons]

/-- Collapsing members collapses what is found among them. -/
theorem get?_collapseMembers
    (name : Text)
    (members : List (Text × Json)) :
    Dictionary.get? name (collapseMembers members) =
      (Dictionary.get? name members).map collapse := by
  induction members with
  | nil =>
      rfl
  | cons member rest ih =>
      obtain ⟨k, v⟩ := member
      simp only [collapseMembers, Dictionary.get?, ih]
      cases Dictionary.get? name rest with
      | some later =>
          rfl
      | none =>
          by_cases hk : k = name
          · simp [hk]
          · simp [hk]

/-- **Collapsing a value** gives its last-value view. -/
theorem viewOf_collapse
    (v : Json) :
    ViewOf v (collapse v) := by
  induction v using inductionOnParts with
  | scalar v hv =>
      have hself : collapse v = v := by
        cases hv <;> rfl
      rw [hself]
      exact ViewOf.scalar hv
  | array items ih =>
      rw [collapse, collapseItems_eq_map]
      apply ViewOf.arr
      rw [List.forall₂_map_right_iff, List.forall₂_same]
      exact ih
  | object members ih =>
      refine ViewOf.obj ?_ ?_
      · rw [Dictionary.map_fst_ofEntries, collapseMembers_eq_map, List.map_map]
        rfl
      · intro name value view hvalue hview
        rw [← Dictionary.get?_eq_some_iff] at hvalue
        rw [← Dictionary.get?_eq_some_iff, Dictionary.get?_ofEntries, get?_collapseMembers,
          hvalue] at hview
        cases hview
        exact ih _ (Dictionary.mem_of_get?_eq_some hvalue)

/-- Collapsing a view changes nothing. -/
theorem collapse_collapse
    (v : Json) :
    v.collapse.collapse = v.collapse := by
  induction v using inductionOnParts with
  | scalar v hv =>
      cases hv <;> rfl
  | array items ih =>
      rw [collapse, collapseItems_eq_map, collapse, collapseItems_eq_map, List.map_map]
      congr 1
      exact List.map_congr_left ih
  | object members ih =>
      have hmembers : (collapseMembers members).map (fun member => (member.1, collapse member.2)) =
          collapseMembers members := by
        rw [collapseMembers_eq_map, List.map_map]
        apply List.map_congr_left
        intro member hmem
        exact congrArg (Prod.mk member.1) (ih member hmem)
      rw [collapse, collapse, collapseMembers_eq_map (Dictionary.ofEntries _),
        ← Dictionary.ofEntries_map, hmembers,
        Dictionary.ofEntries_eq_self (Dictionary.nodup_map_fst_ofEntries _)]

/-- **A value has one last-value view**, which collapsing it gives. -/
theorem viewOf_iff
    {v view : Json} :
    ViewOf v view
      ↔
    view = v.collapse := by
  constructor
  · intro h
    induction v using inductionOnParts generalizing view with
    | scalar v hv =>
        cases h with
        | scalar =>
            cases hv <;> rfl
        | arr =>
            cases hv
        | obj =>
            cases hv
    | array items ih =>
        cases h with
        | scalar hv =>
            cases hv
        | @arr _ views hviews =>
            have hsame : List.Forall₂ (fun item view => collapse item = view) items views :=
              ((List.forall₂_and_left items views).mpr ⟨ih, hviews⟩).imp
                fun item view h => (h.1 h.2).symm
            rw [← List.forall₂_map_left_iff, List.forall₂_eq_eq_eq] at hsame
            rw [collapse, collapseItems_eq_map, hsame]
    | object members ih =>
        cases h with
        | scalar hv =>
            cases hv
        | @obj _ views hnames hvalues =>
            rw [collapse]
            congr 1
            apply Dictionary.eq_of_map_fst_eq
            · exact Dictionary.nodup_map_fst_ofEntries _
            · rw [hnames, Dictionary.map_fst_ofEntries, collapseMembers_eq_map, List.map_map]
              rfl
            · intro name
              rw [Dictionary.get?_ofEntries, get?_collapseMembers]
              cases hget : Dictionary.get? name members with
              | none =>
                  rw [Dictionary.get?_eq_none_iff] at hget
                  rw [Option.map_none, Dictionary.get?_eq_none_iff, hnames, List.mem_eraseDups]
                  exact hget
              | some value =>
                  rw [Option.map_some]
                  cases hview : Dictionary.get? name views with
                  | none =>
                      rw [Dictionary.get?_eq_none_iff, hnames, List.mem_eraseDups,
                        ← Dictionary.get?_eq_none_iff, hget] at hview
                      cases hview
                  | some view =>
                      have hlast := hvalues name value view (Dictionary.get?_eq_some_iff.mp hget)
                        (Dictionary.get?_eq_some_iff.mp hview)
                      exact congrArg some
                        (ih _ (Dictionary.mem_of_get?_eq_some hget) hlast)
  · rintro rfl
    exact viewOf_collapse v

/-- The names of every object in a value are distinct. -/
def DistinctNames (v : Json) : Prop :=
  ∀ members, Part (obj members) v → (members.map Prod.fst).Nodup

/-- **Where names are distinct** collapsing changes nothing. -/
theorem collapse_eq_self
    {v : Json}
    (h : DistinctNames v) :
    collapse v = v := by
  induction v using inductionOnParts with
  | scalar v hv =>
      cases hv <;> rfl
  | array items ih =>
      have hitems : items.map collapse = items.map id := by
        apply List.map_congr_left
        intro item hmem
        exact ih item hmem fun members hpart => h members (Part.item hmem hpart)
      rw [collapse, collapseItems_eq_map, hitems, List.map_id]
  | object members ih =>
      have hmembers : (members.map fun member => (member.1, collapse member.2)) = members.map id := by
        apply List.map_congr_left
        intro member hmem
        rw [ih member hmem fun others hpart => h others (Part.member hmem hpart)]
        rfl
      rw [collapse, collapseMembers_eq_map, hmembers, List.map_id,
        Dictionary.ofEntries_eq_self (h members Part.self)]

end CurlRequest.Json
