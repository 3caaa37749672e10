import CurlRequest.Curl.Flag
import Mathlib.Data.List.Basic

/-!
# Flags by name

Each flag has two names, and no name belongs to two flags.  So a list of names selects the flags of
which a name is in it.

**Results.**
* `Flag.ofAnyName?_eq_some_iff`: a flag is found by its two names.
* `Flags.isSet_ofNames`, `Flags.active_ofNames`: the flags that a list of names selects.
-/

namespace CurlRequest.Curl

/-- A flag is found by its two names, and by no other. -/
theorem Flag.ofAnyName?_eq_some_iff
    {name : Text}
    {f : Flag} :
    ofAnyName? name = some f
      ↔
    name = f.name ∨ name = f.fieldName := by
  constructor
  · intro h
    have hname := List.find?_some h
    rw [Bool.or_eq_true, decide_eq_true_eq, decide_eq_true_eq] at hname
    exact hname.imp Eq.symm Eq.symm
  · rintro (rfl | rfl)
    · cases f <;> decide +kernel
    · cases f <;> decide +kernel

namespace Flags

/-- A set that a test picks has the flags that pass it. -/
theorem isSet_ofTest
    (test : Flag → Bool)
    (f : Flag) :
    (ofTest test).isSet f = test f := by
  cases f <;> rfl

/-- **A list of names selects** the flags of which a name is in it. -/
theorem isSet_ofNames
    {names : List Text}
    {f : Flag} :
    (ofNames names).isSet f = true
      ↔
    f.name ∈ names ∨ f.fieldName ∈ names := by
  rw [ofNames, isSet_ofTest, List.any_eq_true]
  simp only [decide_eq_true_eq, Flag.ofAnyName?_eq_some_iff]
  constructor
  · rintro ⟨name, hmem, rfl | rfl⟩
    · exact Or.inl hmem
    · exact Or.inr hmem
  · rintro (hmem | hmem)
    · exact ⟨_, hmem, Or.inl rfl⟩
    · exact ⟨_, hmem, Or.inr rfl⟩

/-- The selected flags are listed in their own order. -/
theorem active_ofNames
    (names : List Text) :
    (ofNames names).active =
      Flag.all.filter fun f => decide (f.name ∈ names ∨ f.fieldName ∈ names) := by
  apply List.filter_congr
  intro f _
  rw [Bool.eq_iff_iff, isSet_ofNames, decide_eq_true_eq]

/-- Sets with the same flags are equal. -/
theorem eq_of_isSet
    {fs gs : Flags}
    (h : ∀ f, fs.isSet f = true ↔ gs.isSet f = true) :
    fs = gs := by
  have hset (f : Flag) : fs.isSet f = gs.isSet f := Bool.eq_iff_iff.mpr (h f)
  cases fs
  cases gs
  congr 1
  · exact hset .verbose
  · exact hset .insecure
  · exact hset .includeHeaders
  · exact hset .silent
  · exact hset .followRedirects

end Flags

end CurlRequest.Curl
