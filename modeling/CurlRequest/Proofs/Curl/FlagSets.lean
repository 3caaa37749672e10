import CurlRequest.Proofs.Curl.Flag
import CurlRequest.Proofs.Curl.Rendering
import CurlRequest.Proofs.Dictionary

/-!
# Selected flags form sets

Flags are selected by a list that may mix the flags themselves, both names of a flag, and texts that
are no names.  The list becomes an object that switches the selected flags on, and the object
becomes a set.  Nothing of the list is left in the set but which flags are selected: order,
repetition and other texts are gone.

Two sets are merged by selecting the flags of both.  So sets that are merged two by two, in any order
and grouping, come to their union, in which no flag is off that is on in one of them.

**Results.**
* `named_eq`: what a list selects, by way of the object.
* `merged_eq_union`, `Merging.result_eq`: merging two sets, and any number of them.
* `optionTokens_partsWith`: the tokens of flags in a command.
* `named_and_merged_form_sets`: all of it together.
-/

namespace CurlRequest.Curl

/-! ## Flags and names -/

/-- A list selects a flag by the flag itself or by one of its names. -/
def Flag.SelectedBy (f : Flag) (names : List FlagName) : Prop :=
  .flag f ∈ names ∨ .text f.name ∈ names ∨ .text f.fieldName ∈ names

instance (f : Flag) (names : List FlagName) : Decidable (f.SelectedBy names) :=
  inferInstanceAs (Decidable (_ ∨ _ ∨ _))

/-- No name belongs to two flags. -/
theorem Flag.eq_of_anyName
    {name : Text}
    {f g : Flag}
    (hf : name = f.name ∨ name = f.fieldName)
    (hg : name = g.name ∨ name = g.fieldName) :
    f = g := by
  have hfound := ofAnyName?_eq_some_iff.mpr hf
  rw [ofAnyName?_eq_some_iff.mpr hg] at hfound
  exact (Option.some.inj hfound).symm

/-- Every flag is listed. -/
theorem Flag.mem_all
    (f : Flag) :
    f ∈ Flag.all := by
  cases f <;> decide

/-- A list selects the flags that something in it selects. -/
theorem FlagName.exists_flag?_iff
    {names : List FlagName}
    {f : Flag} :
    (∃ name ∈ names, name.flag? = some f)
      ↔
    f.SelectedBy names := by
  constructor
  · rintro ⟨name, hmem, hflag⟩
    cases name with
    | flag g =>
        cases hflag
        exact Or.inl hmem
    | text t =>
        rcases Flag.ofAnyName?_eq_some_iff.mp hflag with rfl | rfl
        · exact Or.inr (Or.inl hmem)
        · exact Or.inr (Or.inr hmem)
  · rintro (hmem | hmem | hmem)
    · exact ⟨_, hmem, rfl⟩
    · exact ⟨_, hmem, Flag.ofAnyName?_eq_some_iff.mpr (Or.inl rfl)⟩
    · exact ⟨_, hmem, Flag.ofAnyName?_eq_some_iff.mpr (Or.inr rfl)⟩

/-- What two lists select together is what either of them selects. -/
theorem Flag.selectedBy_append
    {f : Flag}
    {a b : List FlagName} :
    f.SelectedBy (a ++ b)
      ↔
    f.SelectedBy a ∨ f.SelectedBy b := by
  simp only [← FlagName.exists_flag?_iff, List.mem_append, or_and_right, exists_or]

/-- Flags select themselves. -/
theorem Flag.selectedBy_map_flag
    {f : Flag}
    {fs : List Flag} :
    f.SelectedBy (fs.map .flag)
      ↔
    f ∈ fs := by
  simp [SelectedBy]

namespace Flags

/-! ## What a list selects -/

/-- What is found in the object is on, and belongs to a flag that is selected. -/
theorem of_get?_switches
    {names : List FlagName}
    {key : Text}
    {v : Json}
    (h : Dictionary.get? key (switches names) = some v) :
    v = .bool true ∧ ∃ f : Flag, f.fieldName = key ∧ f.SelectedBy names := by
  rw [switches, Dictionary.get?_ofEntries] at h
  obtain ⟨name, hmem, hswitch⟩ := List.mem_filterMap.mp (Dictionary.mem_of_get?_eq_some h)
  obtain ⟨f, hf, hentry⟩ := Option.map_eq_some_iff.mp hswitch
  cases hentry
  exact ⟨rfl, f, rfl, FlagName.exists_flag?_iff.mp ⟨name, hmem, hf⟩⟩

/-- A flag that is selected is found in the object. -/
theorem get?_switches
    {names : List FlagName}
    {f : Flag}
    (h : f.SelectedBy names) :
    Dictionary.get? f.fieldName (switches names) = some (.bool true) := by
  obtain ⟨name, hmem, hf⟩ := FlagName.exists_flag?_iff.mpr h
  have hswitch : (f.fieldName, Json.bool true) ∈ names.filterMap FlagName.switch? :=
    List.mem_filterMap.mpr ⟨name, hmem, by rw [FlagName.switch?, hf]; rfl⟩
  cases hget : Dictionary.get? f.fieldName (switches names) with
  | none =>
      rw [switches, Dictionary.get?_ofEntries, Dictionary.get?_eq_none_iff] at hget
      exact absurd (List.mem_map_of_mem hswitch) hget
  | some v =>
      rw [(of_get?_switches hget).1]

/-- **The object says of each flag** whether it is selected.  It holds no other name of a flag than
the one that settings use, so neither name is in the way of the other. -/
theorem check_switches
    (names : List FlagName)
    (f : Flag) :
    check (switches names) f = .ok (decide (f.SelectedBy names)) := by
  -- Whatever stands under one of the names of the flag belongs to it.
  have hown {key : Text} {v : Json} (hkey : key = f.name ∨ key = f.fieldName)
      (hget : Dictionary.get? key (switches names) = some v) :
      v = .bool true ∧ f.SelectedBy names := by
    obtain ⟨hv, g, hg, hselected⟩ := of_get?_switches hget
    rw [Flag.eq_of_anyName hkey (Or.inr hg.symm)]
    exact ⟨hv, hselected⟩
  unfold check choice?
  cases hname : Dictionary.get? f.name (switches names) with
  | some v =>
      obtain ⟨rfl, hselected⟩ := hown (Or.inl rfl) hname
      rw [decide_eq_true hselected]
      rfl
  | none =>
      cases hfield : Dictionary.get? f.fieldName (switches names) with
      | some v =>
          obtain ⟨rfl, hselected⟩ := hown (Or.inr rfl) hfield
          rw [decide_eq_true hselected]
          rfl
      | none =>
          have hnot : ¬ f.SelectedBy names := by
            intro hselected
            rw [get?_switches hselected] at hfield
            cases hfield
          rw [decide_eq_false hnot]
          rfl

/-- **What a list selects** is a set, and never a fault. -/
theorem named_eq
    (names : List FlagName) :
    named names = .ok (ofTest fun f => decide (f.SelectedBy names)) := by
  have hcheck : check (switches names) = fun f => .ok (decide (f.SelectedBy names)) :=
    funext (check_switches names)
  rw [named, ofMembers, hcheck]
  rfl

/-! ## Merging -/

/-- The flags that are listed are those that are set. -/
theorem mem_active
    {fs : Flags}
    {f : Flag} :
    f ∈ fs.active
      ↔
    fs.isSet f = true := by
  rw [active, List.mem_filter]
  exact ⟨And.right, fun h => ⟨f.mem_all, h⟩⟩

/-- The flags that pass a test are listed in their own order. -/
theorem active_ofTest
    (test : Flag → Bool) :
    (ofTest test).active = Flag.all.filter test :=
  List.filter_congr fun f _ => isSet_ofTest test f

/-- **Merging two sets** gives their union. -/
theorem merged_eq_union
    (fs gs : Flags) :
    fs.merged gs = .ok (fs.union gs) := by
  rw [merged, named_eq]
  congr 1
  apply eq_of_isSet
  intro f
  rw [union, isSet_ofTest, isSet_ofTest, decide_eq_true_eq, Flag.selectedBy_map_flag,
    List.mem_append, mem_active, mem_active, Bool.or_eq_true]

/-- What two lists select together is what they select each, merged. -/
theorem named_append
    (a b : List FlagName) :
    named (a ++ b) = (do
      let fs ← named a
      let gs ← named b
      fs.merged gs) := by
  rw [named_eq, named_eq a, named_eq b]
  refine Eq.trans ?_ (merged_eq_union _ _).symm
  congr 1
  apply eq_of_isSet
  intro f
  simp only [union, isSet_ofTest, decide_eq_true_eq, Bool.or_eq_true]
  exact Flag.selectedBy_append

/-- A way to merge sets two by two. -/
inductive Merging
  | set (fs : Flags)
  | both (left right : Merging)

namespace Merging

/-- The sets that are merged, from left to right. -/
def sets : Merging → List Flags
  | set fs => [fs]
  | both left right => left.sets ++ right.sets

/-- What merging comes to. -/
def result : Merging → Field.Checked Flags
  | set fs => .ok fs
  | both left right => do
      let fs ← left.result
      let gs ← right.result
      fs.merged gs

/-- By induction on the way of merging: **any number of sets** come to their union. -/
theorem result_eq
    (m : Merging) :
    m.result = .ok (ofTest fun f => m.sets.any fun fs => fs.isSet f) := by
  induction m with
  | set fs =>
      simp only [result, sets, List.any_cons, List.any_nil, Bool.or_false]
      rfl
  | both left right hleft hright =>
      rw [result, hleft, hright]
      refine (merged_eq_union _ _).trans ?_
      congr 1
      apply eq_of_isSet
      intro f
      simp only [union, isSet_ofTest, sets, List.any_append]

end Merging

end Flags

/-! ## Commands -/

/-- The words that parts of a command have for flags. -/
def optionTokens (parts : List Part) : List Text :=
  parts.filterMap fun p => if p.kind = .option then p.flag else none

/-- The words for flags are what the parts for flags have. -/
@[simp] theorem optionTokens_append
    (ps qs : List Part) :
    optionTokens (ps ++ qs) = optionTokens ps ++ optionTokens qs :=
  List.filterMap_append

/-- The flags of a command are said by their tokens, in the order of the flags. -/
theorem optionTokens_partsWith
    (r : Request)
    (flags : Flags)
    (bodyText : Text) :
    optionTokens (r.partsWith flags bodyText) = flags.active.map Flag.token := by
  have hcommand : optionTokens [⟨.command, some "curl", none, none⟩] = [] := rfl
  have hflags : optionTokens (flags.active.map Flag.part) = flags.active.map Flag.token := by
    rw [optionTokens, List.filterMap_map, ← List.filterMap_eq_map]
    rfl
  have hmethod :
      optionTokens (if r.method = Text.ofString "GET" then []
        else [⟨.method, some "-X", some r.method, none⟩]) = [] := by
    split <;> rfl
  have hheaders : optionTokens (r.headers.map Header.part) = [] := by
    rw [optionTokens, List.filterMap_map, List.filterMap_eq_nil_iff]
    intro h _
    rfl
  have hbody :
      optionTokens (if r.hasBody then [⟨.body, some "-d", some bodyText, none⟩] else []) = [] := by
    split <;> rfl
  have hurl : optionTokens [⟨.url, none, some r.url, none⟩] = [] := rfl
  rw [Request.partsWith, Request.leadingParts, ← List.singleton_append]
  simp only [optionTokens_append, hcommand, hflags, hmethod, hheaders, hbody, hurl,
    List.nil_append, List.append_nil]

/-- **Selections and mergers are sets.**  A list of flags, names and other texts selects the flags
that are in it or of which a name is in it, and they are listed in their own order; so lists that
select the same flags give the same set.  Selecting by two lists in a row is merging what they
select.  Sets that are merged in any way come to the set of the flags that are on in one of them, and
to the same set if they are merged in another order or grouping.  A command has the tokens of these
flags. -/
theorem Flags.named_and_merged_form_sets :
    (∀ names, ∃ fs, named names = .ok fs ∧
      fs.active = Flag.all.filter fun f => decide (f.SelectedBy names)) ∧
    (∀ names names', (∀ f : Flag, f.SelectedBy names ↔ f.SelectedBy names') →
      named names = named names') ∧
    (∀ a b, named (a ++ b) = (do
      let fs ← named a
      let gs ← named b
      fs.merged gs)) ∧
    ∀ m : Merging, ∃ fs, m.result = .ok fs ∧
      (∀ f, fs.isSet f = true ↔ ∃ gs ∈ m.sets, gs.isSet f = true) ∧
      (∀ m' : Merging, (∀ gs, gs ∈ m'.sets ↔ gs ∈ m.sets) → m'.result = .ok fs) ∧
      ∀ r : Request, (r.parts fs).map optionTokens = r.body.toText.map fun _ =>
        (Flag.all.filter fun f => m.sets.any fun gs => gs.isSet f).map Flag.token := by
  refine ⟨?_, ?_, named_append, ?_⟩
  · intro names
    exact ⟨_, named_eq names, active_ofTest _⟩
  · intro names names' h
    simp only [named_eq, h]
  · intro m
    have hany (m : Merging) (f : Flag) :
        (m.sets.any fun gs => gs.isSet f) = true ↔ ∃ gs ∈ m.sets, gs.isSet f = true :=
      List.any_eq_true
    refine ⟨_, m.result_eq, ?_, ?_, ?_⟩
    · intro f
      rw [isSet_ofTest, hany]
    · intro m' h
      rw [m'.result_eq]
      congr 1
      apply eq_of_isSet
      intro f
      simp only [isSet_ofTest, hany, h]
    · intro r
      rw [Request.parts_eq_map_partsWith]
      cases r.body.toText with
      | error fault =>
          rfl
      | ok bodyText =>
          simp only [Except.map, optionTokens_partsWith, active_ofTest]

/-- A flag that is given itself and by its name, one that is given by its second name, and a text
that is no name select what two of them select in the other order. -/
theorem Flags.named_and_merged_form_sets_spellings :
    named [.text "include_headers", .flag .verbose, .text "bogus", .text "verbose"] =
        named [.text "verbose", .flag .includeHeaders] ∧
      ∃ fs, named [.text "verbose", .flag .includeHeaders] = .ok fs ∧
        fs.active = [.verbose, .includeHeaders] := by
  obtain ⟨hactive, hsame, -⟩ := named_and_merged_form_sets
  refine ⟨hsame _ _ fun f => ?_, ?_⟩
  · cases f <;> decide
  · obtain ⟨fs, hfs, hlist⟩ := hactive [.text "verbose", .flag .includeHeaders]
    refine ⟨fs, hfs, hlist.trans ?_⟩
    decide

end CurlRequest.Curl
