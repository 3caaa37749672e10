import CurlRequest.Dictionary
import Mathlib.Data.List.Induction
import Mathlib.Data.List.Nodup

/-!
# Dictionaries keep what was put

The entries of a dictionary come from the entries it was made of, so what holds of every value put
holds of every value found.  The keys are those of the entries in the order in which they first
occur, and under each of them stands the value that was put last.

**Results.**
* `get?_eq_some_iff`, `get?_eq_none_iff`: what is found under a key is the last value there.
* `map_fst_ofEntries`, `get?_ofEntries`: the keys and the values of a dictionary.
* `ofEntries_eq_self`: entries with distinct keys are a dictionary already.
* `eq_of_map_fst_eq`: a dictionary is its keys and what is found under them.
* `get?_putAll`: what is put later hides what is there.
* `sorted_perm`, `get?_sorted`: sorting keeps the entries.
* `pairwise_lt_sorted`, `sorted_eq_of_perm`: it puts them into the one order of their keys.
-/

namespace CurlRequest.Dictionary

variable {α : Type}

/-- A value that is found under a key stands there. -/
theorem mem_of_get?_eq_some
    {key : Text}
    {value : α}
    {d : Dictionary α}
    (h : get? key d = some value) :
    (key, value) ∈ d := by
  induction d with
  | nil =>
      cases h
  | cons entry rest ih =>
      obtain ⟨k, v⟩ := entry
      simp only [get?] at h
      split at h
      · rename_i later hlater
        cases h
        exact List.mem_cons_of_mem _ (ih hlater)
      · split at h
        · rename_i hk
          cases h
          subst hk
          exact List.mem_cons_self
        · cases h

/-- What holds of all values and of a further one still holds after it is put. -/
theorem forall_mem_put
    (P : α → Prop)
    {key : Text}
    {value : α}
    {d : Dictionary α}
    (hd : ∀ entry ∈ d, P entry.2)
    (hvalue : P value) :
    ∀ entry ∈ put key value d, P entry.2 := by
  induction d with
  | nil =>
      intro entry hentry
      rw [put, List.mem_singleton] at hentry
      subst hentry
      exact hvalue
  | cons first rest ih =>
      obtain ⟨k, v⟩ := first
      have hfirst : P v := hd (k, v) List.mem_cons_self
      have hrest : ∀ entry ∈ rest, P entry.2 := fun entry hentry =>
        hd entry (List.mem_cons_of_mem _ hentry)
      intro entry hentry
      simp only [put] at hentry
      split at hentry
      · rcases List.mem_cons.mp hentry with rfl | hentry
        · exact hvalue
        · exact hrest entry hentry
      · rcases List.mem_cons.mp hentry with rfl | hentry
        · exact hfirst
        · exact ih hrest entry hentry

/-- What holds of all values of two dictionaries holds after the ones are put into the other. -/
theorem forall_mem_putAll
    (P : α → Prop)
    {entries d : Dictionary α}
    (hd : ∀ entry ∈ d, P entry.2)
    (hentries : ∀ entry ∈ entries, P entry.2) :
    ∀ entry ∈ putAll entries d, P entry.2 := by
  induction entries generalizing d with
  | nil =>
      exact hd
  | cons first rest ih =>
      have hfirst := hentries first List.mem_cons_self
      have hrest : ∀ entry ∈ rest, P entry.2 := fun entry hentry =>
        hentries entry (List.mem_cons_of_mem first hentry)
      exact ih (forall_mem_put P hd hfirst) hrest

/-- What holds of all values of a list of entries holds of all values of its dictionary. -/
theorem forall_mem_ofEntries
    (P : α → Prop)
    {entries : Dictionary α}
    (h : ∀ entry ∈ entries, P entry.2) :
    ∀ entry ∈ ofEntries entries, P entry.2 := by
  apply forall_mem_putAll P _ h
  intro entry hentry
  cases hentry

/-! ## The last value under a key -/

/-- A value stands in the last entry under a key. -/
def Last (key : Text) (entries : Dictionary α) (value : α) : Prop :=
  ∃ before after, entries = before ++ (key, value) :: after ∧ key ∉ after.map Prod.fst

/-- Nothing is found under a key iff no entry has it. -/
theorem get?_eq_none_iff
    {key : Text}
    {entries : Dictionary α} :
    get? key entries = none
      ↔
    key ∉ entries.map Prod.fst := by
  induction entries with
  | nil =>
      simp [get?]
  | cons entry rest ih =>
      obtain ⟨k, v⟩ := entry
      cases hrest : get? key rest with
      | some later =>
          have hmem : key ∈ rest.map Prod.fst :=
            List.mem_map.mpr ⟨_, mem_of_get?_eq_some hrest, rfl⟩
          simp only [get?, hrest, List.map_cons, List.mem_cons, hmem, or_true, not_true_eq_false,
            reduceCtorEq]
      | none =>
          have hmem : key ∉ rest.map Prod.fst := ih.mp hrest
          by_cases hk : k = key
          · simp [get?, hrest, hk]
          · simp only [get?, hrest, hk, if_false, List.map_cons, List.mem_cons, hmem, or_false,
              Ne.symm hk, not_false_eq_true]

/-- Later entries come first. -/
theorem get?_append
    (key : Text)
    (before after : Dictionary α) :
    get? key (before ++ after) = (get? key after).or (get? key before) := by
  induction before with
  | nil =>
      simp [get?]
  | cons entry rest ih =>
      obtain ⟨k, v⟩ := entry
      simp only [List.cons_append, get?, ih]
      cases get? key after <;> rfl

/-- Under other keys than that of an entry it is found what is found without the entry. -/
theorem get?_insert_of_ne
    {key key' : Text}
    (hne : key ≠ key')
    (value : α)
    (before after : Dictionary α) :
    get? key' (before ++ (key, value) :: after) = get? key' (before ++ after) := by
  rw [get?_append, get?_append, get?, if_neg hne]
  cases get? key' after <;> rfl

/-- **What is found under a key** is the value of the last entry that has it. -/
theorem get?_eq_some_iff
    {key : Text}
    {value : α}
    {entries : Dictionary α} :
    get? key entries = some value
      ↔
    Last key entries value := by
  constructor
  · intro h
    induction entries with
    | nil =>
        cases h
    | cons entry rest ih =>
        obtain ⟨k, v⟩ := entry
        simp only [get?] at h
        split at h
        · rename_i later hlater
          cases h
          obtain ⟨before, after, hsplit, hafter⟩ := ih hlater
          exact ⟨(k, v) :: before, after, by rw [hsplit, List.cons_append], hafter⟩
        · rename_i hrest
          split at h
          · rename_i hk
            cases h
            subst hk
            exact ⟨[], rest, rfl, get?_eq_none_iff.mp hrest⟩
          · cases h
  · rintro ⟨before, after, rfl, hafter⟩
    have hrest := get?_eq_none_iff.mpr hafter
    rw [get?_append]
    simp [get?, hrest]

/-! ## The entries of a dictionary -/

/-- A key that is there keeps its place, and a new one goes to the end. -/
theorem map_fst_put
    (key : Text)
    (value : α)
    (d : Dictionary α) :
    (put key value d).map Prod.fst =
      if key ∈ d.map Prod.fst then d.map Prod.fst else d.map Prod.fst ++ [key] := by
  induction d with
  | nil =>
      simp [put]
  | cons entry rest ih =>
      obtain ⟨k, v⟩ := entry
      by_cases hk : k = key
      · simp [put, hk]
      · simp only [put, hk, if_false, List.map_cons, ih, List.mem_cons, Ne.symm hk, false_or]
        split <;> rfl

/-- An entry under a new key goes to the end. -/
theorem put_of_not_mem
    {key : Text}
    {d : Dictionary α}
    (h : key ∉ d.map Prod.fst)
    (value : α) :
    put key value d = d ++ [(key, value)] := by
  induction d with
  | nil =>
      rfl
  | cons entry rest ih =>
      obtain ⟨k, v⟩ := entry
      rw [List.map_cons, List.mem_cons, not_or] at h
      simp only [put, Ne.symm h.1, if_false, ih h.2, List.cons_append]

/-- The last of all entries is put last. -/
theorem ofEntries_append_singleton
    (entries : Dictionary α)
    (entry : Text × α) :
    ofEntries (entries ++ [entry]) = put entry.1 entry.2 (ofEntries entries) := by
  simp [ofEntries, putAll]

/-- **The keys of a dictionary** are those of its entries in the order of their first
occurrences. -/
theorem map_fst_ofEntries
    (entries : Dictionary α) :
    (ofEntries entries).map Prod.fst = (entries.map Prod.fst).eraseDups := by
  induction entries using List.reverseRecOn with
  | nil =>
      rfl
  | append_singleton entries entry ih =>
      rw [ofEntries_append_singleton, map_fst_put, ih, List.map_append, List.eraseDups_append]
      by_cases hmem : entry.1 ∈ entries.map Prod.fst
      · simp [hmem, List.removeAll]
      · simp [hmem, List.removeAll, List.eraseDups_cons]

theorem nodup_map_fst_ofEntries
    (entries : Dictionary α) :
    ((ofEntries entries).map Prod.fst).Nodup := by
  induction entries using List.reverseRecOn with
  | nil =>
      exact List.nodup_nil
  | append_singleton entries entry ih =>
      rw [ofEntries_append_singleton, map_fst_put]
      split
      · exact ih
      · rename_i hmem
        rw [List.nodup_append]
        refine ⟨ih, List.nodup_singleton _, ?_⟩
        intro key hkey key' hkey' heq
        rw [List.mem_singleton] at hkey'
        rw [heq, hkey'] at hkey
        exact hmem hkey

/-- What is put under a key is found there, and all else is found as before. -/
theorem get?_put
    {d : Dictionary α}
    (hd : (d.map Prod.fst).Nodup)
    (key key' : Text)
    (value : α) :
    get? key' (put key value d) = if key = key' then some value else get? key' d := by
  induction d with
  | nil =>
      simp [put, get?]
  | cons entry rest ih =>
      obtain ⟨k, v⟩ := entry
      rw [List.map_cons, List.nodup_cons] at hd
      by_cases hk : k = key
      · subst hk
        have hrest := get?_eq_none_iff.mpr hd.1
        by_cases hkey : k = key'
        · subst hkey
          simp [put, get?, hrest]
        · simp [put, get?, hkey]
      · simp only [put, hk, if_false, get?, ih hd.2]
        by_cases hkey : key = key'
        · simp [hkey]
        · simp [hkey]

/-- **The values of a dictionary** are the last ones of its entries. -/
theorem get?_ofEntries
    (key : Text)
    (entries : Dictionary α) :
    get? key (ofEntries entries) = get? key entries := by
  induction entries using List.reverseRecOn with
  | nil =>
      rfl
  | append_singleton entries entry ih =>
      rw [ofEntries_append_singleton, get?_put (nodup_map_fst_ofEntries entries), get?_append, ih]
      by_cases hkey : entry.1 = key
      · simp [get?, hkey]
      · simp [get?, hkey]

/-- Entries with distinct keys are a dictionary already. -/
theorem ofEntries_eq_self
    {entries : Dictionary α}
    (h : (entries.map Prod.fst).Nodup) :
    ofEntries entries = entries := by
  induction entries using List.reverseRecOn with
  | nil =>
      rfl
  | append_singleton entries entry ih =>
      rw [List.map_append, List.nodup_append] at h
      have hmem : entry.1 ∉ entries.map Prod.fst := by
        intro hmem
        exact h.2.2 _ hmem _ (by simp) rfl
      rw [ofEntries_append_singleton, ih h.1, put_of_not_mem hmem]

/-! ## Further entries -/

/-- Putting a value keeps keys distinct. -/
theorem nodup_map_fst_put
    {d : Dictionary α}
    (hd : (d.map Prod.fst).Nodup)
    (key : Text)
    (value : α) :
    ((put key value d).map Prod.fst).Nodup := by
  rw [map_fst_put]
  split
  · exact hd
  · rename_i hmem
    exact List.Nodup.append hd (List.nodup_singleton key) (by simpa using hmem)

/-- Putting entries keeps keys distinct. -/
theorem nodup_map_fst_putAll
    {d : Dictionary α}
    (hd : (d.map Prod.fst).Nodup)
    (entries : Dictionary α) :
    ((putAll entries d).map Prod.fst).Nodup := by
  induction entries generalizing d with
  | nil =>
      exact hd
  | cons entry rest ih =>
      exact ih (nodup_map_fst_put hd entry.1 entry.2)

/-- **What is put later** hides what is there. -/
theorem get?_putAll
    {d : Dictionary α}
    (hd : (d.map Prod.fst).Nodup)
    (entries : Dictionary α)
    (key : Text) :
    get? key (putAll entries d) = (get? key entries).or (get? key d) := by
  induction entries generalizing d with
  | nil =>
      rfl
  | cons entry rest ih =>
      obtain ⟨k, v⟩ := entry
      have hrest := ih (nodup_map_fst_put hd k v)
      rw [get?_put hd] at hrest
      refine hrest.trans ?_
      cases hlater : get? key rest with
      | some later =>
          simp [get?, hlater]
      | none =>
          by_cases hkey : k = key <;> simp [get?, hlater, hkey]

/-- Where keys are distinct, every entry is found under its key. -/
theorem get?_eq_some_iff_mem
    {d : Dictionary α}
    (hd : (d.map Prod.fst).Nodup)
    {key : Text}
    {value : α} :
    get? key d = some value
      ↔
    (key, value) ∈ d := by
  constructor
  · exact mem_of_get?_eq_some
  · intro hmem
    obtain ⟨before, after, rfl⟩ := List.append_of_mem hmem
    rw [List.map_append, List.map_cons, List.nodup_append, List.nodup_cons] at hd
    exact get?_eq_some_iff.mpr ⟨before, after, rfl, hd.2.1.1⟩

/-- Dictionaries with the same keys in the same order, in which the same is found, are equal. -/
theorem eq_of_map_fst_eq
    {d e : Dictionary α}
    (he : (e.map Prod.fst).Nodup)
    (hkeys : d.map Prod.fst = e.map Prod.fst)
    (h : ∀ key, get? key d = get? key e) :
    d = e := by
  have hd : (d.map Prod.fst).Nodup := hkeys ▸ he
  have hlength : d.length = e.length := by
    simpa only [List.length_map] using congrArg List.length hkeys
  apply List.ext_getElem hlength
  intro i hi hi'
  have hkey : d[i].1 = e[i].1 := by
    have hfst := List.getElem_of_eq hkeys (by rwa [List.length_map])
    rwa [List.getElem_map, List.getElem_map] at hfst
  have hfound : get? d[i].1 d = some d[i].2 :=
    (get?_eq_some_iff_mem hd).mpr (List.getElem_mem hi)
  have hfound' : get? e[i].1 e = some e[i].2 :=
    (get?_eq_some_iff_mem he).mpr (List.getElem_mem hi')
  rw [h, hkey, hfound'] at hfound
  exact Prod.ext hkey (Option.some.inj hfound).symm

/-- The order of entries with distinct keys does not matter for what is found. -/
theorem get?_of_perm
    {d e : Dictionary α}
    (h : d.Perm e)
    (hd : (d.map Prod.fst).Nodup)
    (key : Text) :
    get? key d = get? key e := by
  have he : (e.map Prod.fst).Nodup := (h.map Prod.fst).nodup_iff.mp hd
  apply Option.ext
  intro value
  rw [get?_eq_some_iff_mem hd, get?_eq_some_iff_mem he, h.mem_iff]

/-! ## Sorted entries -/

theorem insertSorted_perm
    (key : Text)
    (value : α)
    (d : Dictionary α) :
    (insertSorted key value d).Perm ((key, value) :: d) := by
  induction d with
  | nil =>
      exact List.Perm.refl _
  | cons entry rest ih =>
      obtain ⟨k, v⟩ := entry
      simp only [insertSorted]
      split
      · exact List.Perm.refl _
      · exact (ih.cons (k, v)).trans (List.Perm.swap _ _ rest)

/-- **Sorting** keeps the entries. -/
theorem sorted_perm
    (d : Dictionary α) :
    d.sorted.Perm d := by
  induction d with
  | nil =>
      exact List.Perm.refl _
  | cons entry rest ih =>
      exact (insertSorted_perm entry.1 entry.2 (sorted rest)).trans (ih.cons entry)

/-- Sorted entries are found as before. -/
theorem get?_sorted
    {d : Dictionary α}
    (hd : (d.map Prod.fst).Nodup)
    (key : Text) :
    get? key d.sorted = get? key d :=
  (get?_of_perm (sorted_perm d).symm hd key).symm

/-- Equal numbers mean equal code points. -/
theorem codePoint_ext
    {c d : CodePoint}
    (h : c.toNat = d.toNat) :
    c = d := by
  cases c
  cases d
  cases h
  rfl

/-- The order of texts leads on. -/
theorem lt_trans
    {a b c : Text}
    (hab : Text.lt a b = true)
    (hbc : Text.lt b c = true) :
    Text.lt a c = true := by
  induction a generalizing b c with
  | nil =>
      cases c with
      | nil =>
          cases b <;> simp [Text.lt] at hbc
      | cons z c =>
          rfl
  | cons x a ih =>
      cases b with
      | nil =>
          cases hab
      | cons y b =>
          cases c with
          | nil =>
              cases hbc
          | cons z c =>
              simp only [Text.lt, Bool.or_eq_true, Bool.and_eq_true, decide_eq_true_eq] at hab hbc ⊢
              rcases hab with hab | ⟨rfl, hab⟩
              · rcases hbc with hbc | ⟨rfl, -⟩
                · exact Or.inl (Nat.lt_trans hab hbc)
                · exact Or.inl hab
              · rcases hbc with hbc | ⟨rfl, hbc⟩
                · exact Or.inl hbc
                · exact Or.inr ⟨rfl, ih hab hbc⟩

/-- No text comes before itself. -/
theorem lt_irrefl
    (a : Text) :
    Text.lt a a = false := by
  induction a with
  | nil =>
      rfl
  | cons x a ih =>
      simp [Text.lt, ih]

/-- Of two different texts one comes first. -/
theorem lt_of_not_lt
    {a b : Text}
    (hne : a ≠ b)
    (h : Text.lt a b = false) :
    Text.lt b a = true := by
  induction a generalizing b with
  | nil =>
      cases b with
      | nil =>
          exact absurd rfl hne
      | cons y b =>
          cases h
  | cons x a ih =>
      cases b with
      | nil =>
          rfl
      | cons y b =>
          simp only [Text.lt, Bool.or_eq_false_iff, decide_eq_false_iff_not, Nat.not_lt] at h
          obtain ⟨hle, hrest⟩ := h
          simp only [Text.lt, Bool.or_eq_true, Bool.and_eq_true, decide_eq_true_eq]
          rcases Nat.lt_or_eq_of_le hle with hlt | heq
          · exact Or.inl hlt
          · obtain rfl := codePoint_ext heq
            refine Or.inr ⟨rfl, ih ?_ (by simpa using hrest)⟩
            rintro rfl
            exact hne rfl

/-- An entry is put before the first one whose key comes later. -/
theorem pairwise_insertSorted
    {key : Text}
    (value : α)
    {d : Dictionary α}
    (hd : d.Pairwise fun a b => Text.lt a.1 b.1 = true)
    (hkey : key ∉ d.map Prod.fst) :
    (insertSorted key value d).Pairwise fun a b => Text.lt a.1 b.1 = true := by
  induction d with
  | nil =>
      exact List.pairwise_singleton _ _
  | cons entry rest ih =>
      obtain ⟨k, v⟩ := entry
      rw [List.map_cons, List.mem_cons, not_or] at hkey
      obtain ⟨hfirst, hrest⟩ := List.pairwise_cons.mp hd
      simp only [insertSorted]
      split
      · rename_i hlt
        refine List.pairwise_cons.mpr ⟨?_, hd⟩
        intro later hlater
        rcases List.mem_cons.mp hlater with rfl | hlater
        · exact hlt
        · exact lt_trans hlt (hfirst later hlater)
      · rename_i hlt
        refine List.pairwise_cons.mpr ⟨?_, ih hrest hkey.2⟩
        intro later hlater
        rcases List.mem_cons.mp ((insertSorted_perm key value rest).mem_iff.mp hlater) with
          rfl | hlater
        · exact lt_of_not_lt hkey.1 (Bool.eq_false_iff.mpr hlt)
        · exact hfirst later hlater

/-- **Sorted entries** stand in the order of their keys. -/
theorem pairwise_lt_sorted
    {d : Dictionary α}
    (hd : (d.map Prod.fst).Nodup) :
    d.sorted.Pairwise fun a b => Text.lt a.1 b.1 = true := by
  induction d with
  | nil =>
      exact List.Pairwise.nil
  | cons entry rest ih =>
      rw [List.map_cons, List.nodup_cons] at hd
      apply pairwise_insertSorted entry.2 (ih hd.2)
      intro hmem
      exact hd.1 (((sorted_perm rest).map Prod.fst).mem_iff.mp hmem)

/-- The order before sorting does not matter. -/
theorem sorted_eq_of_perm
    {d e : Dictionary α}
    (h : d.Perm e)
    (hd : (d.map Prod.fst).Nodup) :
    d.sorted = e.sorted := by
  have he : (e.map Prod.fst).Nodup := (h.map Prod.fst).nodup_iff.mp hd
  have hperm : d.sorted.Perm e.sorted :=
    (sorted_perm d).trans (h.trans (sorted_perm e).symm)
  apply hperm.eq_of_pairwise _ (pairwise_lt_sorted hd) (pairwise_lt_sorted he)
  intro a b _ _ hab hba
  have hloop := lt_trans hab hba
  rw [lt_irrefl] at hloop
  cases hloop

/-- Dictionaries in which the same is found have the same entries. -/
theorem perm_of_get?_eq
    {d e : Dictionary α}
    (hd : (d.map Prod.fst).Nodup)
    (he : (e.map Prod.fst).Nodup)
    (h : ∀ key, get? key d = get? key e) :
    d.Perm e := by
  rw [List.perm_ext_iff_of_nodup (List.Nodup.of_map _ hd) (List.Nodup.of_map _ he)]
  rintro ⟨key, value⟩
  rw [← get?_eq_some_iff_mem hd, ← get?_eq_some_iff_mem he, h key]

/-! ## Changed values -/

section Map

variable {β : Type}
variable (f : Text × α → β)

/-- Changing the values changes what is found. -/
theorem get?_map
    (key : Text)
    (d : Dictionary α) :
    get? key (d.map fun entry => (entry.1, f entry)) =
      (get? key d).map fun value => f (key, value) := by
  induction d with
  | nil =>
      rfl
  | cons entry rest ih =>
      obtain ⟨k, v⟩ := entry
      simp only [List.map_cons, get?, ih]
      cases get? key rest with
      | some later =>
          rfl
      | none =>
          by_cases hkey : k = key <;> simp [hkey]

theorem insertSorted_map
    (key : Text)
    (value : α)
    (d : Dictionary α) :
    insertSorted key (f (key, value)) (d.map fun entry => (entry.1, f entry)) =
      (insertSorted key value d).map fun entry => (entry.1, f entry) := by
  induction d with
  | nil =>
      rfl
  | cons entry rest ih =>
      obtain ⟨k, v⟩ := entry
      simp only [List.map_cons, insertSorted, ih]
      split <;> rfl

/-- Changing the values does not change the order. -/
theorem sorted_map
    (d : Dictionary α) :
    sorted (d.map fun entry => (entry.1, f entry)) =
      (sorted d).map fun entry => (entry.1, f entry) := by
  induction d with
  | nil =>
      rfl
  | cons entry rest ih =>
      obtain ⟨k, v⟩ := entry
      simp only [List.map_cons, sorted, ih, insertSorted_map]

theorem put_map
    (key : Text)
    (value : α)
    (d : Dictionary α) :
    put key (f (key, value)) (d.map fun entry => (entry.1, f entry)) =
      (put key value d).map fun entry => (entry.1, f entry) := by
  induction d with
  | nil =>
      rfl
  | cons entry rest ih =>
      obtain ⟨k, v⟩ := entry
      simp only [List.map_cons, put, ih]
      split
      · rename_i hk
        rw [← hk]
        rfl
      · rfl

/-- Changing the values changes nothing else in a dictionary. -/
theorem ofEntries_map
    (entries : Dictionary α) :
    ofEntries (entries.map fun entry => (entry.1, f entry)) =
      (ofEntries entries).map fun entry => (entry.1, f entry) := by
  induction entries using List.reverseRecOn with
  | nil =>
      rfl
  | append_singleton entries entry ih =>
      rw [List.map_append, List.map_singleton, ofEntries_append_singleton,
        ofEntries_append_singleton, ih]
      exact put_map f entry.1 entry.2 (ofEntries entries)

end Map

end CurlRequest.Dictionary
