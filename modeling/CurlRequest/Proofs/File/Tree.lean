import CurlRequest.File.Tree
import CurlRequest.Proofs.Text.Utf8

/-!
# What actions on files leave behind

An action either fails or gives a result, and in both cases it leaves a tree behind.  Reading leaves
the tree as it is.  Making directories adds those that are missing.

**Results.**
* `found?_set`: setting an entry changes that entry and no other.
* `Grows.locate`: where no directory is lost, paths lead where they led before.
* `exists_directory_of_makeDirectories`: a directory that was made is there.
* `run_makeDirectories_above`: above something that is there no directory is missing.
* `run_readText_of_file`, `exists_file_of_readText`: the text of the file that a path leads to.
-/

namespace CurlRequest

namespace FileTree

/-- The tree with files of some texts at paths below the root, where the working directory is, and
with the directories that these files lie in. -/
def ofTexts (files : List (Text × Text)) : FileTree where
  entries := files.flatMap fun (path, text) =>
    let l := (Path.ofText path).names
    ((List.range l.length).drop 1).map (fun i => (l.take i, .directory)) ++
      [(l, .file ⟨0o644, Utf8.encodeAll text⟩)]
  workingDirectory := []
  umask := 0o022

/-! ## Entries -/

/-- The entry that is set is found, and all others are found as before. -/
theorem lookup_setEntry
    (l l' : Location)
    (e : Entry)
    (entries : List (Location × Entry)) :
    (setEntry l e entries).lookup l' = if l' = l then some e else entries.lookup l' := by
  induction entries with
  | nil =>
      by_cases hl : l' = l
      · simp [setEntry, hl]
      · simp only [setEntry, List.lookup_cons, beq_false_of_ne hl, hl, if_false]
  | cons entry rest ih =>
      obtain ⟨k, old⟩ := entry
      by_cases hk : k = l
      · subst hk
        by_cases hl : l' = k
        · simp [setEntry, hl]
        · simp only [setEntry, if_true, List.lookup_cons, beq_false_of_ne hl, hl, if_false]
      · by_cases hl : l' = k
        · subst hl
          simp [setEntry, hk]
        · have hne : (l' == k) = false := beq_false_of_ne hl
          simp only [setEntry, hk, if_false, List.lookup_cons, hne, ih]

/-- An entry that is there already is set to itself. -/
theorem setEntry_of_lookup
    {l : Location}
    {e : Entry}
    {entries : List (Location × Entry)}
    (h : entries.lookup l = some e) :
    setEntry l e entries = entries := by
  induction entries with
  | nil =>
      cases h
  | cons entry rest ih =>
      obtain ⟨k, old⟩ := entry
      by_cases hk : k = l
      · subst hk
        simp only [List.lookup_cons, beq_self_eq_true, Option.some.injEq] at h
        simp only [setEntry, if_true, h]
      · have hne : (l == k) = false := beq_false_of_ne (Ne.symm hk)
        simp only [List.lookup_cons, hne] at h
        simp only [setEntry, hk, if_false, ih h]

/-- **Setting an entry** changes that entry and no other; the root stays a directory. -/
theorem found?_set
    (t : FileTree)
    (l l' : Location)
    (e : Entry) :
    (t.set l e).found? l' =
      if l' = [] then some .directory else if l' = l then some e else t.found? l' := by
  unfold found? set
  by_cases hroot : l' = []
  · simp only [hroot, if_true]
  · simp only [hroot, if_false, lookup_setEntry]

/-- What is set is found. -/
theorem found?_set_self
    (t : FileTree)
    {l : Location}
    (hl : l ≠ [])
    (e : Entry) :
    (t.set l e).found? l = some e := by
  rw [found?_set, if_neg hl, if_pos rfl]

/-- Elsewhere it is found what was found before. -/
theorem found?_set_of_ne
    (t : FileTree)
    {l l' : Location}
    (hne : l' ≠ l)
    (e : Entry) :
    (t.set l e).found? l' = t.found? l' := by
  rw [found?_set, if_neg hne]
  split
  · rename_i hroot
    rw [hroot]
    rfl
  · rfl

/-- An entry that is found is set to itself. -/
theorem set_of_found?
    {t : FileTree}
    {l : Location}
    {e : Entry}
    (hl : l ≠ [])
    (h : t.found? l = some e) :
    t.set l e = t := by
  rw [found?, if_neg hl] at h
  unfold set
  rw [setEntry_of_lookup h]

/-- Where no directory stands is not the root. -/
theorem ne_root_of_found?
    {t : FileTree}
    {l : Location}
    (h : t.found? l ≠ some .directory) :
    l ≠ [] := by
  rintro rfl
  exact h rfl

/-! ## Ways through the tree -/

/-- A way in two parts. -/
theorem walk_append
    (t : FileTree)
    (here : Location)
    (names more : List Text) :
    t.walk here (names ++ more) =
      match t.walk here names with
      | .ok there => t.walk there more
      | .error problem => .error problem := by
  induction names generalizing here with
  | nil =>
      rfl
  | cons name rest ih =>
      simp only [List.cons_append, walk]
      cases t.found? here with
      | none =>
          rfl
      | some e =>
          cases e with
          | file f =>
              rfl
          | directory =>
              simp only [ih]
              split
              · rfl
              · split <;> rfl

/-- A step is taken from a directory. -/
theorem found?_of_walk_cons
    {t : FileTree}
    {here there : Location}
    {name : Text}
    {rest : List Text}
    (h : t.walk here (name :: rest) = .ok there) :
    t.found? here = some .directory := by
  simp only [walk] at h
  cases hfound : t.found? here with
  | none =>
      rw [hfound] at h
      cases h
  | some e =>
      cases e with
      | file f =>
          rw [hfound] at h
          cases h
      | directory =>
          rfl

/-- One tree has the directories of another, and the same working directory. -/
structure Grows (t t' : FileTree) : Prop where
  workingDirectory : t'.workingDirectory = t.workingDirectory
  directory : ∀ l, t.found? l = some .directory → t'.found? l = some .directory

/-- Where names lead to, they lead in a tree with more directories. -/
theorem Grows.walk
    {t t' : FileTree}
    (h : Grows t t')
    {here there : Location}
    {names : List Text}
    (hwalk : t.walk here names = .ok there) :
    t'.walk here names = .ok there := by
  induction names generalizing here with
  | nil =>
      exact hwalk
  | cons name rest ih =>
      have hhere := found?_of_walk_cons hwalk
      simp only [FileTree.walk, hhere] at hwalk
      simp only [FileTree.walk, h.directory here hhere]
      split at hwalk
      · rename_i hname
        rw [if_pos hname]
        exact ih hwalk
      · rename_i hname
        rw [if_neg hname]
        split at hwalk
        · cases hwalk
        · rename_i hlength
          rw [if_neg hlength]
          exact ih hwalk

/-- No directory is lost where an entry is set that is none. -/
theorem grows_set
    {t : FileTree}
    {l : Location}
    (hl : t.found? l ≠ some .directory)
    (e : Entry) :
    Grows t (t.set l e) where
  workingDirectory := rfl
  directory := by
    intro l' hl'
    by_cases heq : l' = l
    · subst heq
      exact absurd hl' hl
    · rw [found?_set_of_ne t heq]
      exact hl'

/-- A path that leads somewhere has names that the system takes, and is short enough. -/
theorem locate_eq_ok_iff
    {t : FileTree}
    {p : Path}
    {l : Location} :
    t.locate p = .ok l
      ↔
    p.holdsNul = false ∧ Path.octetCount p.toText ≤ pathLimit ∧
      t.walk (if p.root = .here then t.workingDirectory else []) p.names = .ok l := by
  unfold locate
  cases p.holdsNul with
  | true =>
      simp
  | false =>
      by_cases hlong : pathLimit < Path.octetCount p.toText
      · simp only [hlong, Bool.false_eq_true, if_false, if_true, Nat.not_le_of_lt hlong, false_and,
          and_false, reduceCtorEq]
      · simp only [hlong, Bool.false_eq_true, if_false, Nat.not_lt.mp hlong, true_and]
        cases t.walk (if p.root = .here then t.workingDirectory else []) p.names <;>
          simp [Except.mapError]

/-- Where a path leads to, it leads in a tree with more directories. -/
theorem Grows.locate
    {t t' : FileTree}
    (h : Grows t t')
    {p : Path}
    {l : Location}
    (hl : t.locate p = .ok l) :
    t'.locate p = .ok l := by
  rw [locate_eq_ok_iff] at hl ⊢
  rw [h.workingDirectory]
  exact ⟨hl.1, hl.2.1, h.walk hl.2.2⟩

/-- Setting an entry that is no directory does not change where a path leads to. -/
theorem locate_set
    {t : FileTree}
    {p : Path}
    {l there : Location}
    (hl : t.found? l ≠ some .directory)
    (e : Entry)
    (h : t.locate p = .ok there) :
    (t.set l e).locate p = .ok there :=
  (grows_set hl e).locate h

end FileTree

/-! ## Paths above a path -/

namespace Path

/-- A path without names lies in itself. -/
theorem parent_eq_self
    {p : Path}
    (h : p.names = []) :
    p.parent = p := by
  cases p
  simp only at h
  simp [parent, h]

/-- The text of names with a further one begins with the text of those names. -/
theorem join_append_singleton
    (separator : Text)
    (names : List Text)
    (name : Text) :
    ∃ more, Text.join separator (names ++ [name]) = Text.join separator names ++ more := by
  induction names with
  | nil =>
      exact ⟨name, rfl⟩
  | cons first rest ih =>
      cases rest with
      | nil =>
          exact ⟨separator ++ name, by simp [Text.join]⟩
      | cons second rest =>
          obtain ⟨more, hmore⟩ := ih
          refine ⟨more, ?_⟩
          simp only [List.cons_append] at hmore
          simp only [List.cons_append, Text.join, hmore, List.append_assoc]

/-- The octets of two texts, one after the other. -/
theorem octetCount_append
    (t t' : Text) :
    octetCount (t ++ t') = octetCount t + octetCount t' := by
  rw [octetCount, systemOctets, List.flatMap_append, List.length_append]
  rfl

/-- The directory that a path lies in has a text that is short enough if the path has one. -/
theorem octetCount_toText_parent
    {p : Path}
    (h : octetCount p.toText ≤ FileTree.pathLimit) :
    octetCount p.parent.toText ≤ FileTree.pathLimit := by
  unfold toText at h ⊢
  by_cases hparent : p.root = .here ∧ p.names.dropLast = []
  · have hdot : p.parent.root = .here ∧ p.parent.names = [] := hparent
    rw [if_pos hdot]
    decide
  · have hdot : ¬ (p.parent.root = .here ∧ p.parent.names = []) := hparent
    have hnames : ¬ (p.root = .here ∧ p.names = []) := by
      rintro ⟨hroot, hnames⟩
      exact hparent ⟨hroot, by rw [hnames]; rfl⟩
    rw [if_neg hnames] at h
    rw [if_neg hdot]
    rcases List.eq_nil_or_concat p.names with hnil | ⟨names, name, hconcat⟩
    · have hsame : p.parent.names = p.names := by
        simp only [parent, hnil, List.dropLast_nil]
      rw [hsame]
      exact h
    · rw [List.concat_eq_append] at hconcat
      obtain ⟨more, hmore⟩ := join_append_singleton "/" names name
      have hparentNames : p.parent.names = names := by
        simp only [parent, hconcat, List.dropLast_concat]
      have hparentRoot : p.parent.root = p.root := rfl
      rw [hconcat, hmore] at h
      rw [hparentNames, hparentRoot]
      simp only [octetCount_append] at h ⊢
      omega

/-- A path comes first among itself and the directories above it. -/
theorem ancestors_eq_cons
    (p : Path) :
    ∃ above, p.ancestors = p :: above := by
  refine ⟨(List.range' 1 p.names.length).map fun i =>
    { p with names := p.names.take (p.names.length - i) }, ?_⟩
  simp only [ancestors, List.range_eq_range', List.range'_succ, List.map_cons, Nat.sub_zero,
    List.take_length]

end Path

/-- What a path leads to lies in a directory, to which the path without its last name leads. -/
theorem FileTree.exists_locate_parent
    {t : FileTree}
    {p : Path}
    {l : Location}
    (hnames : p.names ≠ [])
    (h : t.locate p = .ok l) :
    ∃ above, t.locate p.parent = .ok above ∧ t.found? above = some .directory := by
  rw [locate_eq_ok_iff] at h
  obtain ⟨hnul, hlength, hwalk⟩ := h
  have hsplit : p.names = p.names.dropLast ++ [p.names.getLast hnames] :=
    (List.dropLast_concat_getLast hnames).symm
  rw [hsplit, walk_append] at hwalk
  cases habove : t.walk (if p.root = .here then t.workingDirectory else []) p.names.dropLast with
  | error problem =>
      rw [habove] at hwalk
      cases hwalk
  | ok above =>
      rw [habove] at hwalk
      refine ⟨above, ?_, found?_of_walk_cons hwalk⟩
      rw [locate_eq_ok_iff]
      refine ⟨?_, Path.octetCount_toText_parent hlength, habove⟩
      unfold Path.holdsNul at hnul ⊢
      rw [List.any_eq_false] at hnul ⊢
      intro name hname
      exact hnul name (List.dropLast_subset p.names hname)

/-- From a directory a path leads on to any name that is short enough and holds no end of names. -/
theorem FileTree.locate_of_parent
    {t : FileTree}
    {p : Path}
    {above : Location}
    (hnames : p.names ≠ [])
    (hnul : p.holdsNul = false)
    (habove : t.locate p.parent = .ok above)
    (hdirectory : t.found? above = some .directory) :
    (∃ l, t.locate p = .ok l) ∨ t.locate p = .error (.path .nameTooLong p) := by
  obtain ⟨-, -, hwalk⟩ := locate_eq_ok_iff.mp habove
  have hroot : p.parent.root = p.root := rfl
  have hdrop : p.parent.names = p.names.dropLast := rfl
  rw [hroot, hdrop] at hwalk
  have hsplit : p.names = p.names.dropLast ++ [p.names.getLast hnames] :=
    (List.dropLast_concat_getLast hnames).symm
  have hlast : t.walk (if p.root = .here then t.workingDirectory else []) p.names =
      t.walk above [p.names.getLast hnames] :=
    calc
      _ = t.walk _ (p.names.dropLast ++ [p.names.getLast hnames]) := congrArg _ hsplit
      _ = _ := by rw [walk_append, hwalk]
  rw [locate, hnul, hlast, walk, hdirectory]
  simp only [walk, Bool.false_eq_true, if_false]
  split
  · exact Or.inr rfl
  · split
    · exact Or.inl ⟨_, rfl⟩
    · split
      · exact Or.inr rfl
      · exact Or.inl ⟨_, rfl⟩

namespace FileAction

variable {α β : Type}

/-! ## Elementary actions -/

/-- A fault is answered in the tree that the failed action leaves. -/
theorem run_tryCatch
    (action : FileAction α)
    (answer : FileFault → FileAction α)
    (t : FileTree) :
    (tryCatch action answer).run t =
      match action.run t with
      | (.ok a, t) => (.ok a, t)
      | (.error fault, t) => (answer fault).run t := by
  simp only [run, calls, tryCatch, tryCatchThe, MonadExceptOf.tryCatch]
  cases action.on t with
  | mk result made =>
      cases result with
      | ok a => rfl
      | error fault => simp only [FileTree.after, List.foldl_append]

/-- What an action gives, together with the tree that it leaves. -/
theorem run_eq_of_fst
    {action : FileAction α}
    {t : FileTree}
    {result : Except FileFault α}
    (h : (action.run t).1 = result) :
    action.run t = (result, (action.run t).2) :=
  Prod.ext h rfl

/-- Looking where a path leads to leaves the tree as it is. -/
theorem run_locate
    (p : Path)
    (t : FileTree) :
    (locate p).run t = (t.locate p, t) := by
  rw [locate, run_bind, run_read]
  dsimp only
  cases t.locate p <;> rfl

/-- Looking what stands where a path leads to. -/
theorem run_found?_of_locate
    {p : Path}
    {t : FileTree}
    {l : Location}
    (h : t.locate p = .ok l) :
    (found? p).run t = (.ok (t.found? l), t) := by
  rw [found?, run_bind, run_read]
  simp only [h]
  rfl

/-- Looking what stands where a path leads to leaves the tree as it is. -/
theorem run_found?_snd
    (p : Path)
    (t : FileTree) :
    ((found? p).run t).2 = t := by
  rw [found?, run_bind, run_read]
  dsimp only
  split <;> rfl

/-- Something is found only where the path leads to. -/
theorem locate_of_found?_eq_some
    {p : Path}
    {t t' : FileTree}
    {e : Entry}
    (h : (found? p).run t = (.ok (some e), t')) :
    ∃ l, t.locate p = .ok l ∧ t.found? l = some e := by
  rw [found?, run_bind, run_read] at h
  dsimp only at h
  split at h
  · rename_i l hl
    rw [run_pure] at h
    simp only [Prod.mk.injEq, Except.ok.injEq] at h
    exact ⟨l, hl, h.1⟩
  · cases h
  · cases h

/-- A directory can be created where nothing stands yet. -/
theorem run_makeDirectory
    (p : Path)
    (t : FileTree) :
    (makeDirectory p).run t =
      match t.locate p with
      | .error fault => (.error fault, t)
      | .ok l =>
          match t.found? l with
          | some _ => (.error (.path .exists p), t)
          | none => (.ok (), t.set l .directory) := by
  rw [makeDirectory, run_bind, run_locate]
  cases t.locate p with
  | error fault =>
      rfl
  | ok l =>
      simp only [run_bind, run_read]
      cases hfound : t.found? l with
      | some e =>
          rfl
      | none =>
          simp only [run_perform, FileTree.after, List.foldl_cons, List.foldl_nil, FileCall.apply, hfound,
            Option.isNone_none, if_true]

/-- Failing with a fault unless a directory is there. -/
theorem run_throwUnlessDirectory
    (p : Path)
    (fault : FileFault)
    (t : FileTree) :
    (found? p >>= fun e =>
        match e with
        | some .directory => (pure () : FileAction Unit)
        | _ => throw fault).run t =
      match (found? p).run t with
      | (.ok (some .directory), t) => (.ok (), t)
      | (.ok _, t) => (.error fault, t)
      | (.error fault, t) => (.error fault, t) := by
  rw [run_bind]
  obtain ⟨found, after⟩ := (found? p).run t
  cases found with
  | error fault =>
      rfl
  | ok e =>
      cases e with
      | none =>
          rfl
      | some e =>
          cases e <;> rfl

/-- Ensuring a directory: where it cannot be created it must be there, unless something above it is
missing. -/
theorem run_ensureDirectory
    (p : Path)
    (t : FileTree) :
    (ensureDirectory p).run t =
      match (makeDirectory p).run t with
      | (.ok _, t) => (.ok (), t)
      | (.error (.path .missing q), t) => (.error (.path .missing q), t)
      | (.error fault, t) =>
          match (found? p).run t with
          | (.ok (some .directory), t) => (.ok (), t)
          | (.ok _, t) => (.error fault, t)
          | (.error fault, t) => (.error fault, t) := by
  rw [ensureDirectory]
  refine (run_tryCatch _ _ t).trans ?_
  obtain ⟨result, after⟩ := (makeDirectory p).run t
  have answered (fault : FileFault) := run_throwUnlessDirectory p fault after
  cases result with
  | ok u =>
      rfl
  | error fault =>
      cases fault with
      | path problem q =>
          cases problem with
          | missing =>
              rfl
          | «exists» =>
              exact answered _
          | notDirectory =>
              exact answered _
          | isDirectory =>
              exact answered _
          | nameTooLong =>
              exact answered _
      | nulInPath =>
          exact answered _
      | undecodable fault =>
          exact answered _
      | unencodable fault =>
          exact answered _

/-- Making a chain of directories: those above are made where something is missing. -/
theorem run_makeChain_cons
    (p : Path)
    (above : List Path)
    (t : FileTree) :
    (makeChain (p :: above)).run t =
      match (ensureDirectory p).run t with
      | (.ok _, t) => (.ok (), t)
      | (.error (.path .missing q), t) =>
          if above.isEmpty then (.error (.path .missing q), t)
          else
            match (makeChain above).run t with
            | (.ok _, t) => (ensureDirectory p).run t
            | (.error fault, t) => (.error fault, t)
      | (.error fault, t) => (.error fault, t) := by
  rw [makeChain]
  refine (run_tryCatch _ _ t).trans ?_
  obtain ⟨result, after⟩ := (ensureDirectory p).run t
  cases result with
  | ok u =>
      rfl
  | error fault =>
      cases fault with
      | path problem q =>
          cases problem with
          | missing =>
              dsimp only
              split
              · rfl
              · rw [run_bind]
                obtain ⟨made, last⟩ := (makeChain above).run after
                cases made <;> rfl
          | «exists» =>
              rfl
          | notDirectory =>
              rfl
          | isDirectory =>
              rfl
          | nameTooLong =>
              rfl
      | nulInPath =>
          rfl
      | undecodable fault =>
          rfl
      | unencodable fault =>
          rfl

/-- A directory that is there need not be created. -/
theorem run_ensureDirectory_of_directory
    {p : Path}
    {t : FileTree}
    {l : Location}
    (hl : t.locate p = .ok l)
    (hfound : t.found? l = some .directory) :
    (ensureDirectory p).run t = (.ok (), t) := by
  have hmake : (makeDirectory p).run t = (.error (.path .exists p), t) := by
    rw [run_makeDirectory, hl]
    simp only [hfound]
  have hthere : (found? p).run t = (.ok (some .directory), t) := by
    rw [run_found?_of_locate hl, hfound]
  rw [run_ensureDirectory, hmake]
  simp only [hthere]

/-- **Above something that is there** no directory is missing. -/
theorem run_makeDirectories_above
    {p : Path}
    {t : FileTree}
    {l : Location}
    (hnames : p.names ≠ [])
    (hl : t.locate p = .ok l) :
    (makeDirectories p.parent).run t = (.ok (), t) := by
  obtain ⟨above, habove, hdirectory⟩ := FileTree.exists_locate_parent hnames hl
  obtain ⟨more, hmore⟩ := Path.ancestors_eq_cons p.parent
  rw [makeDirectories, hmore, run_makeChain_cons,
    run_ensureDirectory_of_directory habove hdirectory]

/-- A directory that was ensured is there. -/
theorem exists_directory_of_ensureDirectory
    {p : Path}
    {t t' : FileTree}
    (h : (ensureDirectory p).run t = (.ok (), t')) :
    ∃ l, t'.locate p = .ok l ∧ t'.found? l = some .directory := by
  rw [run_ensureDirectory] at h
  split at h
  · rename_i u t₁ hmake
    cases h
    rw [run_makeDirectory] at hmake
    cases hl : t.locate p with
    | error fault =>
        rw [hl] at hmake
        cases hmake
    | ok l =>
        simp only [hl] at hmake
        cases hentry : t.found? l with
        | some e =>
            rw [hentry] at hmake
            cases hmake
        | none =>
            rw [hentry] at hmake
            cases hmake
            have hne : t.found? l ≠ some .directory := by
              rw [hentry]
              exact nofun
            exact ⟨l, FileTree.locate_set hne _ hl,
              FileTree.found?_set_self t (FileTree.ne_root_of_found? hne) _⟩
  · cases h
  · split at h
    · rename_i after _ _ _ last hfound
      cases h
      have hsame : t' = after := by
        rw [← run_found?_snd p after, hfound]
      rw [hsame]
      exact locate_of_found?_eq_some hfound
    · cases h
    · cases h

/-- **A directory that was made** is there. -/
theorem exists_directory_of_makeDirectories
    {p : Path}
    {t t' : FileTree}
    (h : (makeDirectories p).run t = (.ok (), t')) :
    ∃ l, t'.locate p = .ok l ∧ t'.found? l = some .directory := by
  obtain ⟨above, habove⟩ := Path.ancestors_eq_cons p
  rw [makeDirectories, habove, run_makeChain_cons] at h
  split at h
  · rename_i hensure
    cases h
    exact exists_directory_of_ensureDirectory hensure
  · split at h
    · cases h
    · -- The directories above are made first, and then the directory itself.
      split at h
      · exact exists_directory_of_ensureDirectory h
      · cases h
  · cases h

/-! ## Reading -/

/-- The octets of a file that a path leads to. -/
theorem run_readBytes
    (p : Path)
    (t : FileTree) :
    (readBytes p).run t =
      match t.locate p with
      | .error fault => (.error fault, t)
      | .ok l =>
          match t.found? l with
          | some (.file f) => (.ok f.content, t)
          | some .directory => (.error (.path .isDirectory p), t)
          | none => (.error (.path .missing p), t) := by
  rw [readBytes, run_bind, run_locate]
  cases t.locate p with
  | error fault =>
      rfl
  | ok l =>
      simp only [run_bind, run_read]
      cases t.found? l with
      | none =>
          rfl
      | some e =>
          cases e <;> rfl

/-- The text that octets encode, with its line ends made alike. -/
theorem run_decodeText
    (bytes : Bytes)
    (t : FileTree) :
    (decodeText bytes).run t =
      ((Utf8.decode bytes).map Text.unifyNewlines |>.mapError FileFault.undecodable, t) := by
  unfold decodeText
  cases Utf8.decode bytes <;> rfl

/-- Reading leaves the tree as it is. -/
theorem run_readText_snd
    (p : Path)
    (t : FileTree) :
    ((readText p).run t).2 = t := by
  rw [readText, run_bind, run_readBytes]
  cases t.locate p with
  | error fault =>
      rfl
  | ok l =>
      dsimp only
      cases t.found? l with
      | none =>
          rfl
      | some e =>
          cases e with
          | directory =>
              rfl
          | file f =>
              dsimp only
              rw [run_decodeText]

/-- A text that is read, together with the tree that is left. -/
theorem run_readText_of_fst
    {p : Path}
    {t : FileTree}
    {text : Text}
    (h : ((readText p).run t).1 = .ok text) :
    (readText p).run t = (.ok text, t) :=
  Prod.ext h (run_readText_snd p t)

/-- A text that is read is that of the file that the path leads to. -/
theorem exists_file_of_readText
    {p : Path}
    {t t' : FileTree}
    {text : Text}
    (h : (readText p).run t = (.ok text, t')) :
    ∃ l f raw, t.locate p = .ok l ∧ t.found? l = some (.file f) ∧
      Utf8.decode f.content = .ok raw ∧ text = Text.unifyNewlines raw := by
  rw [readText, run_bind, run_readBytes] at h
  cases hl : t.locate p with
  | error fault =>
      rw [hl] at h
      cases h
  | ok l =>
      rw [hl] at h
      dsimp only at h
      cases hfound : t.found? l with
      | none =>
          rw [hfound] at h
          cases h
      | some e =>
          rw [hfound] at h
          cases e with
          | directory =>
              cases h
          | file f =>
              dsimp only at h
              rw [run_decodeText] at h
              cases hraw : Utf8.decode f.content with
              | error fault =>
                  rw [hraw] at h
                  cases h
              | ok raw =>
                  rw [hraw] at h
                  cases h
                  exact ⟨l, f, raw, rfl, hfound, hraw, rfl⟩

/-- The text of a file is read where the path leads to that file. -/
theorem run_readText_of_file
    {p : Path}
    {t : FileTree}
    {l : Location}
    {f : RegularFile}
    {raw : Text}
    (hl : t.locate p = .ok l)
    (hfound : t.found? l = some (.file f))
    (hraw : Utf8.decode f.content = .ok raw) :
    (readText p).run t = (.ok (Text.unifyNewlines raw), t) := by
  rw [readText, run_bind, run_readBytes, hl]
  simp only [hfound]
  rw [run_decodeText, hraw]
  rfl

end FileAction

end CurlRequest
