import CurlRequest.Proofs.Curl.FlagSets
import CurlRequest.Proofs.Json.Truth

/-!
# Flags from a mapping

A mapping decides about each flag by one of its entries: the one under the name that requests use,
and if there is none, the one under the name that settings use.  Nothing else in the mapping counts,
neither the order of the entries nor those under other keys, and the entry that is passed over may
hold anything.  All flags are looked at before a mapping is refused, so the report has one fault for
each flag whose entry cannot be read.

**Results.**
* `Field.faults_all`, `Field.all_eq_ok_iff`: what becomes of checks side by side.
* `choice?_eq_some_iff`, `check_eq_ok_iff`, `check_eq_error_iff`: what is decided about one flag.
* `exists_offenders`: the faults of a mapping, one for each flag, in the order of the flags.
* `ofMapping_congr`: mappings with the same decisive entries are read alike.
* `ofMapping_by_selected_entries`: all of it together.
-/

namespace CurlRequest

/-! ## Checks side by side -/

namespace Field

variable {α : Type}

/-- **The faults of all checks** are those of each, in order. -/
theorem faults_all
    (checks : List (Checked α)) :
    faults (all checks) = checks.flatMap faults := by
  induction checks with
  | nil =>
      rfl
  | cons first rest ih =>
      rw [List.flatMap_cons, ← ih]
      cases hrest : all rest with
      | ok values =>
          cases first <;> simp only [all, hrest, faults, List.append_nil]
      | error fs =>
          cases first <;> simp only [all, hrest, faults, List.nil_append]

/-- All checks give results iff each does. -/
theorem all_eq_ok_iff
    {checks : List (Checked α)}
    {values : List α} :
    all checks = .ok values
      ↔
    checks = values.map .ok := by
  induction checks generalizing values with
  | nil =>
      rw [all, Except.ok.injEq, eq_comm, eq_comm (a := []), List.map_eq_nil_iff]
  | cons first rest ih =>
      unfold all
      cases values with
      | nil =>
          cases first <;> cases all rest <;> simp
      | cons value more =>
          rw [List.map_cons, List.cons.injEq, ← ih]
          cases first <;> cases all rest <;> simp

end Field

namespace Curl

/-! ## The decisive entry -/

namespace Flag

/-- **The entry that decides about a flag**, by its key and value. -/
inductive Selects (f : Flag) (m : Dictionary Json) : Text → Json → Prop
  | name {v : Json} (hv : Dictionary.Last f.name m v) : Selects f m f.name v
  | fieldName {v : Json} (hname : f.name ∉ m.map Prod.fst)
      (hv : Dictionary.Last f.fieldName m v) : Selects f m f.fieldName v

/-- What a mapping says about a flag, which is off where nothing is said. -/
inductive Says (f : Flag) (m : Dictionary Json) : Bool → Prop
  | selected {key : Text} {v : Json} {b : Bool} (hselects : f.Selects m key v)
      (hmeans : v.Means b) : Says f m b
  | nothing (hnothing : ∀ key v, ¬ f.Selects m key v) : Says f m false

/-- What is wrong with the entry that decides about a flag; it is said at the key of the entry. -/
inductive Offends (f : Flag) (m : Dictionary Json) : Field.Fault → Prop
  | selected {key : Text} {v : Json} {cause : Field.Cause} (hselects : f.Selects m key v)
      (hcause : v.truth = .error cause) : Offends f m ⟨[.name key], cause⟩

/-- The entry that decides about a flag means neither yes nor no. -/
def IsUnreadable (f : Flag) (m : Dictionary Json) : Prop :=
  ∃ key v, f.Selects m key v ∧ ∀ b, ¬ v.Means b

end Flag

namespace Flags

variable {m : Dictionary Json} {f : Flag}

/-- **The entry that is looked for** is the one that decides. -/
theorem choice?_eq_some_iff
    {key : Text}
    {v : Json} :
    choice? m f = some (key, v)
      ↔
    f.Selects m key v := by
  unfold choice?
  cases hname : Dictionary.get? f.name m with
  | some w =>
      have hlast := Dictionary.get?_eq_some_iff.mp hname
      constructor
      · intro h
        cases h
        exact .name hlast
      · intro h
        cases h with
        | name hv =>
            rw [Dictionary.get?_eq_some_iff.mpr hv] at hname
            cases hname
            rfl
        | fieldName hnot hv =>
            rw [Dictionary.get?_eq_none_iff.mpr hnot] at hname
            cases hname
  | none =>
      have hnot := Dictionary.get?_eq_none_iff.mp hname
      constructor
      · intro h
        obtain ⟨w, hw, hentry⟩ := Option.map_eq_some_iff.mp h
        cases hentry
        exact .fieldName hnot (Dictionary.get?_eq_some_iff.mp hw)
      · intro h
        cases h with
        | name hv =>
            rw [Dictionary.get?_eq_some_iff.mpr hv] at hname
            cases hname
        | fieldName hnot' hv =>
            dsimp only
            rw [Dictionary.get?_eq_some_iff.mpr hv]
            rfl

/-- No entry is found iff none decides. -/
theorem choice?_eq_none_iff :
    choice? m f = .none
      ↔
    ∀ key v, ¬ f.Selects m key v := by
  simp only [← choice?_eq_some_iff, Option.eq_none_iff_forall_ne_some, Prod.forall, ne_eq]

/-! ## One flag -/

/-- The outcome of checking the entry that decides. -/
theorem check_of_selects
    {key : Text}
    {v : Json}
    (h : f.Selects m key v) :
    check m f = v.checkTruth [.name key] := by
  rw [check, choice?_eq_some_iff.mpr h]

/-- **A flag is on or off** as the mapping says. -/
theorem check_eq_ok_iff
    {b : Bool} :
    check m f = .ok b
      ↔
    f.Says m b := by
  cases hchoice : choice? m f with
  | none =>
      have hnothing := choice?_eq_none_iff.mp hchoice
      rw [check, hchoice]
      constructor
      · intro h
        cases h
        exact .nothing hnothing
      · intro h
        cases h with
        | selected hselects hmeans =>
            exact absurd hselects (hnothing _ _)
        | nothing =>
            rfl
  | some entry =>
      have hselects := choice?_eq_some_iff.mp hchoice
      rw [check_of_selects hselects, Json.checkTruth]
      constructor
      · intro h
        split at h
        · rename_i c hc
          cases h
          exact .selected hselects (Json.truth_eq_ok_iff.mp hc)
        · cases h
      · intro h
        cases h with
        | selected hselects' hmeans =>
            rw [choice?_eq_some_iff.mpr hselects'] at hchoice
            cases hchoice
            rw [Json.truth_eq_ok_iff.mpr hmeans]
        | nothing hnothing =>
            exact absurd hselects (hnothing _ _)

/-- **A flag is refused** for the entry that decides, with one fault. -/
theorem check_eq_error_iff
    {faults : List Field.Fault} :
    check m f = .error faults
      ↔
    ∃ fault, f.Offends m fault ∧ faults = [fault] := by
  constructor
  · intro h
    cases hchoice : choice? m f with
    | none =>
        rw [check, hchoice] at h
        cases h
    | some entry =>
        have hselects := choice?_eq_some_iff.mp hchoice
        rw [check_of_selects hselects, Json.checkTruth] at h
        split at h
        · cases h
        · rename_i cause hcause
          cases h
          exact ⟨_, .selected hselects hcause, rfl⟩
  · rintro ⟨fault, ⟨hselects, hcause⟩, rfl⟩
    rw [check_of_selects hselects, Json.checkTruth, hcause]
    rfl

/-- A flag is refused iff its entry means neither yes nor no. -/
theorem exists_offends_iff :
    (∃ fault, f.Offends m fault)
      ↔
    f.IsUnreadable m := by
  constructor
  · rintro ⟨fault, ⟨hselects, hcause⟩⟩
    refine ⟨_, _, hselects, ?_⟩
    intro b hmeans
    rw [Json.truth_eq_ok_iff.mpr hmeans] at hcause
    cases hcause
  · rintro ⟨key, v, hselects, hmeans⟩
    cases htruth : v.truth with
    | ok b =>
        exact absurd (Json.truth_eq_ok_iff.mp htruth) (hmeans b)
    | error cause =>
        exact ⟨_, .selected hselects htruth⟩

/-- A flag that is on or off has no fault. -/
theorem not_isUnreadable
    {b : Bool}
    (h : f.Says m b) :
    ¬ f.IsUnreadable m := by
  intro hunreadable
  obtain ⟨fault, hoffends⟩ := exists_offends_iff.mpr hunreadable
  have hcheck := check_eq_error_iff.mpr ⟨fault, hoffends, rfl⟩
  rw [check_eq_ok_iff.mpr h] at hcheck
  cases hcheck

/-! ## The whole mapping -/

/-- A mapping that is not looked at would not say anything. -/
theorem ofMapping_eq
    (mapping : Option (Dictionary Json)) :
    ofMapping mapping = ofMembers (mapping.getD []) := by
  cases mapping with
  | none =>
      rfl
  | some m =>
      cases m <;> rfl

/-- **The set of a mapping** has each flag on or off as the mapping says. -/
theorem ofMapping_eq_ok_iff
    {fs : Flags} :
    ofMapping (some m) = .ok fs
      ↔
    ∀ f : Flag, f.Says m (fs.isSet f) := by
  rw [ofMapping_eq, Option.getD_some, ofMembers]
  constructor
  · intro h f
    cases hall : Field.all (Flag.all.map (check m)) with
    | error faults =>
        rw [hall] at h
        cases h
    | ok values =>
        rw [hall] at h
        cases h
        have hmem : check m f ∈ values.map Except.ok :=
          Field.all_eq_ok_iff.mp hall ▸ List.mem_map_of_mem f.mem_all
        obtain ⟨b, -, hb⟩ := List.mem_map.mp hmem
        rw [isSet_ofTest, ← hb]
        exact check_eq_ok_iff.mp hb.symm
  · intro h
    have hcheck : check m = fun f => .ok (fs.isSet f) :=
      funext fun f => check_eq_ok_iff.mpr (h f)
    have hall : Field.all (Flag.all.map (check m)) = .ok (Flag.all.map fs.isSet) := by
      rw [Field.all_eq_ok_iff, List.map_map, hcheck]
      rfl
    rw [hall, hcheck]
    exact congrArg Except.ok (eq_of_isSet fun f => by rw [isSet_ofTest]; rfl)

/-- **A mapping is refused** for an entry that cannot be read. -/
theorem exists_ofMapping_error_iff :
    (∃ faults, ofMapping (some m) = .error faults)
      ↔
    ∃ f : Flag, f.IsUnreadable m := by
  constructor
  · rintro ⟨faults, h⟩
    by_contra hnone
    have hverdict (f : Flag) : f.Says m (Field.isYes (check m f)) := by
      cases hcheck : check m f with
      | ok b =>
          exact check_eq_ok_iff.mp hcheck
      | error faults =>
          obtain ⟨fault, hoffends, -⟩ := check_eq_error_iff.mp hcheck
          exact absurd ⟨f, exists_offends_iff.mp ⟨fault, hoffends⟩⟩ hnone
    have hok : ofMapping (some m) = .ok (ofTest fun f => Field.isYes (check m f)) :=
      ofMapping_eq_ok_iff.mpr fun f => by rw [isSet_ofTest]; exact hverdict f
    rw [hok] at h
    cases h
  · rintro ⟨f, hunreadable⟩
    cases h : ofMapping (some m) with
    | error faults =>
        exact ⟨faults, rfl⟩
    | ok fs =>
        exact absurd hunreadable (not_isUnreadable (ofMapping_eq_ok_iff.mp h f))

/-- The faults of a mapping are those of the flags, in order. -/
theorem faults_of_ofMapping_error
    {faults : List Field.Fault}
    (h : ofMapping (some m) = .error faults) :
    faults = Flag.all.flatMap fun f => Field.faults (check m f) := by
  have hfaults := Field.faults_all (Flag.all.map (check m))
  rw [List.flatMap_map] at hfaults
  rw [← hfaults]
  rw [ofMapping_eq, Option.getD_some, ofMembers] at h
  cases hall : Field.all (Flag.all.map (check m)) with
  | ok values =>
      rw [hall] at h
      cases h
  | error faults' =>
      rw [hall] at h
      cases h
      rfl

/-- By induction on a list of flags: **each flag that cannot be read has one fault**, and the faults
stand in the order of the flags. -/
theorem exists_offenders
    (m : Dictionary Json)
    (fs : List Flag) :
    ∃ offenders : List Flag, offenders.Sublist fs ∧
      (∀ f, f ∈ offenders ↔ f ∈ fs ∧ f.IsUnreadable m) ∧
      List.Forall₂ (fun f fault => f.Offends m fault) offenders
        (fs.flatMap fun f => Field.faults (check m f)) := by
  induction fs with
  | nil =>
      exact ⟨[], List.Sublist.slnil, by simp, .nil⟩
  | cons f rest ih =>
      obtain ⟨offenders, hsublist, hmem, hfaults⟩ := ih
      rw [List.flatMap_cons]
      cases hcheck : check m f with
      | ok b =>
          have hread : ¬ f.IsUnreadable m := not_isUnreadable (check_eq_ok_iff.mp hcheck)
          refine ⟨offenders, hsublist.cons f, ?_, hfaults⟩
          intro g
          rw [hmem, List.mem_cons, or_and_right, or_iff_right]
          rintro ⟨rfl, hunreadable⟩
          exact hread hunreadable
      | error faults =>
          obtain ⟨fault, hoffends, rfl⟩ := check_eq_error_iff.mp hcheck
          have hunreadable : f.IsUnreadable m := exists_offends_iff.mp ⟨fault, hoffends⟩
          refine ⟨f :: offenders, hsublist.cons_cons f, ?_, .cons hoffends hfaults⟩
          intro g
          rw [List.mem_cons, List.mem_cons, hmem, or_and_right]
          refine or_congr_left (iff_self_and.mpr ?_)
          rintro rfl
          exact hunreadable

/-! ## Order and noise -/

/-- **Mappings with the same decisive entries** are read alike. -/
theorem ofMapping_congr
    {m' : Dictionary Json}
    (h : ∀ (f : Flag) key v, f.Selects m' key v ↔ f.Selects m key v) :
    ofMapping (some m') = ofMapping (some m) := by
  have hcheck : check m' = check m := by
    funext f
    have hchoice : choice? m' f = choice? m f := by
      apply Option.ext
      rintro ⟨key, v⟩
      rw [choice?_eq_some_iff, choice?_eq_some_iff]
      exact h f key v
    rw [check, check, hchoice]
  rw [ofMapping_eq, ofMapping_eq, Option.getD_some, Option.getD_some, ofMembers, ofMembers, hcheck]

/-- Where the same is found under the names of the flags, the same entries decide. -/
theorem selects_congr
    {m' : Dictionary Json}
    (hname : Dictionary.get? f.name m' = Dictionary.get? f.name m)
    (hfieldName : Dictionary.get? f.name m = .none →
      Dictionary.get? f.fieldName m' = Dictionary.get? f.fieldName m)
    (key : Text)
    (v : Json) :
    f.Selects m' key v ↔ f.Selects m key v := by
  have hchoice : choice? m' f = choice? m f := by
    unfold choice?
    rw [hname]
    cases hfound : Dictionary.get? f.name m with
    | some w =>
        rfl
    | none =>
        rw [hfieldName hfound]
  rw [← choice?_eq_some_iff, hchoice, choice?_eq_some_iff]

/-- A key that no flag is decided by: it is the name of no flag, or the second name of one that has
an entry under the first. -/
inductive IsNoise (m : Dictionary Json) (key : Text) : Prop
  | unknown (hkey : ∀ f : Flag, key ≠ f.name ∧ key ≠ f.fieldName)
  | hidden (f : Flag) (hkey : key = f.fieldName) (hne : key ≠ f.name)
      (hname : f.name ∈ m.map Prod.fst)

/-- Under the names that a flag is decided by, an entry that is noise changes nothing. -/
theorem selects_insert_noise
    {before after : Dictionary Json}
    {noise : Text}
    (h : IsNoise (before ++ after) noise)
    (w : Json)
    (f : Flag)
    (key : Text)
    (v : Json) :
    f.Selects (before ++ (noise, w) :: after) key v ↔ f.Selects (before ++ after) key v := by
  cases h with
  | unknown hkey =>
      apply selects_congr
      · exact Dictionary.get?_insert_of_ne (hkey f).1 w before after
      · intro _
        exact Dictionary.get?_insert_of_ne (hkey f).2 w before after
  | hidden g hkey hne hname =>
      by_cases hfg : f = g
      · subst hfg
        apply selects_congr
        · exact Dictionary.get?_insert_of_ne hne w before after
        · intro hnone
          exact absurd hname (Dictionary.get?_eq_none_iff.mp hnone)
      · -- No name belongs to two flags.
        have hother {name : Text} (hf : name = f.name ∨ name = f.fieldName) : noise ≠ name := by
          rintro rfl
          exact hfg (Flag.eq_of_anyName hf (Or.inr hkey))
        apply selects_congr
        · exact Dictionary.get?_insert_of_ne (hother (Or.inl rfl)) w before after
        · intro _
          exact Dictionary.get?_insert_of_ne (hother (Or.inr rfl)) w before after

/-- **A mapping is read by its decisive entries.**  It is refused iff one of them means neither yes
nor no, and then with one fault for each such flag, in the order of the flags.  Otherwise the flags
that are on are those whose entries mean yes, in their own order.  Mappings with the same decisive
entries are read alike; so the order of entries with distinct keys does not matter, and neither does
an entry that is noise, whatever it holds and wherever it stands. -/
theorem ofMapping_by_selected_entries
    (m : Dictionary Json) :
    ((∃ faults, ofMapping (some m) = .error faults) ↔ ∃ f : Flag, f.IsUnreadable m) ∧
    (∀ faults, ofMapping (some m) = .error faults →
      ∃ offenders : List Flag, offenders.Sublist Flag.all ∧
        (∀ f, f ∈ offenders ↔ f.IsUnreadable m) ∧
        List.Forall₂ (fun f fault => f.Offends m fault) offenders faults) ∧
    (∀ fs, ofMapping (some m) = .ok fs → fs.active.Sublist Flag.all ∧
      ∀ f, f ∈ fs.active ↔ ∃ key v, f.Selects m key v ∧ v.Means true) ∧
    (∀ m', (∀ (f : Flag) key v, f.Selects m' key v ↔ f.Selects m key v) →
      ofMapping (some m') = ofMapping (some m)) ∧
    ((m.map Prod.fst).Nodup → ∀ m', m.Perm m' → ofMapping (some m') = ofMapping (some m)) ∧
    ∀ before after key v, m = before ++ after → IsNoise m key →
      ofMapping (some (before ++ (key, v) :: after)) = ofMapping (some m) := by
  refine ⟨exists_ofMapping_error_iff, ?_, ?_, fun _ => ofMapping_congr, ?_, ?_⟩
  · intro faults h
    rw [faults_of_ofMapping_error h]
    obtain ⟨offenders, hsublist, hmem, hfaults⟩ := exists_offenders m Flag.all
    refine ⟨offenders, hsublist, ?_, hfaults⟩
    intro f
    rw [hmem, and_iff_right f.mem_all]
  · intro fs h
    refine ⟨List.filter_sublist, ?_⟩
    intro f
    have hverdict := ofMapping_eq_ok_iff.mp h f
    rw [mem_active]
    constructor
    · intro hset
      rw [hset] at hverdict
      cases hverdict with
      | selected hselects hmeans =>
          exact ⟨_, _, hselects, hmeans⟩
    · rintro ⟨key, v, hselects, hmeans⟩
      have hcheck := check_eq_ok_iff.mpr (Flag.Says.selected hselects hmeans)
      rw [check_eq_ok_iff.mpr hverdict] at hcheck
      exact Except.ok.inj hcheck
  · intro hkeys m' hperm
    apply ofMapping_congr
    intro f key v
    apply selects_congr
    · exact (Dictionary.get?_of_perm hperm hkeys _).symm
    · intro _
      exact (Dictionary.get?_of_perm hperm hkeys _).symm
  · rintro before after key v rfl hnoise
    exact ofMapping_congr (selects_insert_noise hnoise v)

/-- An entry under the second name of a flag that has one under the first, an entry under another
key, and the order of the rest change nothing; and two entries that cannot be read give two faults,
in the order of their flags. -/
theorem ofMapping_by_selected_entries_bothNames :
    ofMapping (some [("include_headers", .null), ("followRedirects", .str "YES"),
        ("bogus", .arr []), ("includeHeaders", .int 0)]) =
      ofMapping (some [("includeHeaders", .int 0), ("followRedirects", .str "YES")]) ∧
    ofMapping (some [("includeHeaders", .int 0), ("followRedirects", .str "YES")]) =
      .ok ⟨false, false, false, false, true⟩ ∧
    ∃ offenders : List Flag, offenders.Sublist Flag.all ∧
      List.Forall₂
        (fun f fault => f.Offends [("silent", .null), ("insecure", .int 2)] fault) offenders
        [⟨[.name "insecure"], .unreadableBoolean⟩, ⟨[.name "silent"], .notBoolean⟩] := by
  refine ⟨?_, by decide +kernel, ?_⟩
  · obtain ⟨-, -, -, -, horder, -⟩ := ofMapping_by_selected_entries
      [("includeHeaders", .int 0), ("followRedirects", .str "YES")]
    obtain ⟨-, -, -, -, -, hunknown⟩ := ofMapping_by_selected_entries
      [("followRedirects", .str "YES"), ("includeHeaders", .int 0)]
    obtain ⟨-, -, -, -, -, hhidden⟩ := ofMapping_by_selected_entries
      [("followRedirects", .str "YES"), ("bogus", .arr []), ("includeHeaders", .int 0)]
    calc
      _ = _ := hhidden [] _ "include_headers" .null rfl
            (.hidden .includeHeaders rfl (by decide +kernel) (by decide +kernel))
      _ = _ := hunknown [_] [_] "bogus" (.arr []) rfl
            (.unknown fun f => by cases f <;> decide +kernel)
      _ = _ := horder (by decide +kernel) _ (.swap _ _ _)
  · obtain ⟨-, hfaults, -⟩ := ofMapping_by_selected_entries
      [("silent", .null), ("insecure", .int 2)]
    obtain ⟨offenders, hsublist, -, hoffends⟩ := hfaults
      [⟨[.name "insecure"], .unreadableBoolean⟩, ⟨[.name "silent"], .notBoolean⟩]
      (by decide +kernel)
    exact ⟨offenders, hsublist, hoffends⟩

end Flags

end Curl

end CurlRequest
