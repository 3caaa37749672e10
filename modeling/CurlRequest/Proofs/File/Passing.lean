import CurlRequest.Proofs.File.Writing

/-!
# What a tree passes through

The calls of an action are made one after the other, and octets that are appended may arrive in any
number of parts.  So whoever looks at a tree in the meantime finds what a beginning of the calls has
made of it, where of the last call only a part may have happened.

An action that only makes directories leaves every file as it was, at any moment.  A file that is
replaced is opened, given a mode and then filled.  It is empty until it has the mode.

**Results.**
* `FileCall.Beginning`: what has been done at some moment.
* `FileCall.beginning_append_iff`: a moment of calls in two parts.
* `FileAction.onlyDirectories_makeDirectories`, `FileTree.file?_after_directories`: while directories
  are made, files stay what they were.
* `FileAction.passes_replacing_iff`: the trees that are passed through while a file is replaced.
-/

namespace CurlRequest

/-! ## Moments -/

namespace FileCall

/-- **What has been done at some moment** of calls that are made one after the other: the first of
them, and perhaps a part of the octets that the next one appends. -/
inductive Beginning : List FileCall → List FileCall → Prop
  | nothing {calls : List FileCall} : Beginning [] calls
  | part {l : Location} {octets arrived : Bytes} {calls : List FileCall}
      (harrived : arrived <+: octets) :
      Beginning [.step l (.append arrived)] (.step l (.append octets) :: calls)
  | next {call : FileCall} {done calls : List FileCall} (h : Beginning done calls) :
      Beginning (call :: done) (call :: calls)

variable {call : FileCall} {done before calls : List FileCall}

/-- At the end all is done. -/
theorem Beginning.refl
    (calls : List FileCall) :
    Beginning calls calls := by
  induction calls with
  | nil =>
      exact .nothing
  | cons call rest ih =>
      exact .next ih

/-- What has been done of no calls is nothing. -/
theorem eq_nil_of_beginning
    (h : Beginning done []) :
    done = [] := by
  cases h
  rfl

/-- **A moment of calls in two parts** is one of the first part, or one of the second part after all
of the first. -/
theorem beginning_append_iff :
    Beginning done (before ++ calls)
      ↔
    Beginning done before ∨ ∃ more, done = before ++ more ∧ Beginning more calls := by
  constructor
  · intro h
    induction before generalizing done with
    | nil =>
        exact Or.inr ⟨done, rfl, h⟩
    | cons call rest ih =>
        cases h with
        | nothing =>
            exact Or.inl .nothing
        | part harrived =>
            exact Or.inl (.part harrived)
        | next h =>
            rcases ih h with hrest | ⟨more, rfl, hmore⟩
            · exact Or.inl (.next hrest)
            · exact Or.inr ⟨more, rfl, hmore⟩
  · rintro (h | ⟨more, rfl, hmore⟩)
    · induction h with
      | nothing =>
          exact .nothing
      | part harrived =>
          exact .part harrived
      | next _ ih =>
          exact .next ih
    · induction before with
      | nil =>
          exact hmore
      | cons call rest ih =>
          exact .next ih

/-- A call that makes a directory. -/
def MakesDirectory (call : FileCall) : Prop :=
  ∃ l, call = .makeDirectory l

/-- Of calls that make directories whole ones are done. -/
theorem Beginning.makesDirectory
    (h : Beginning done calls)
    (hcalls : ∀ call ∈ calls, call.MakesDirectory) :
    ∀ call ∈ done, call.MakesDirectory := by
  induction h with
  | nothing =>
      nofun
  | part harrived =>
      obtain ⟨l, heq⟩ := hcalls _ List.mem_cons_self
      cases heq
  | next _ ih =>
      rw [List.forall_mem_cons] at hcalls ⊢
      exact ⟨hcalls.1, ih hcalls.2⟩

end FileCall

namespace FileTree

variable {t : FileTree} {calls : List FileCall}

/-- Making a directory leaves the files as they are. -/
theorem file?_makeDirectory
    (t : FileTree)
    (l l' : Location) :
    ((FileCall.makeDirectory l).apply t).file? l' = t.file? l' := by
  rw [FileCall.apply]
  split
  · rename_i hnone
    have hl : t.found? l = none := Option.isNone_iff_eq_none.mp hnone
    by_cases heq : l' = l
    · subst heq
      have hne : t.found? l' ≠ some .directory := by
        rw [hl]
        exact (Option.some_ne_none _).symm
      rw [file?, file?, found?_set_self t (ne_root_of_found? hne), hl]
    · rw [file?, file?, found?_set_of_ne t heq]
  · rfl

/-- **While directories are made,** files stay what they were.  By induction on the calls. -/
theorem file?_after_directories
    (h : ∀ call ∈ calls, call.MakesDirectory)
    (l : Location) :
    (t.after calls).file? l = t.file? l := by
  induction calls generalizing t with
  | nil =>
      rfl
  | cons call rest ih =>
      rw [List.forall_mem_cons] at h
      obtain ⟨⟨l', rfl⟩, hrest⟩ := h
      calc
        (t.after (.makeDirectory l' :: rest)).file? l
        _ = (((FileCall.makeDirectory l').apply t).after rest).file? l := rfl
        _ = ((FileCall.makeDirectory l').apply t).file? l := ih hrest
        _ = t.file? l := file?_makeDirectory t l' l

/-- The calls of two parts, one part after the other. -/
theorem after_append
    (t : FileTree)
    (calls more : List FileCall) :
    t.after (calls ++ more) = (t.after calls).after more :=
  List.foldl_append

end FileTree

namespace FileAction

variable {α β : Type}

/-! ## Directories -/

/-- The calls of an answer to a fault come after those of the action that failed. -/
theorem calls_tryCatch
    (action : FileAction α)
    (answer : FileFault → FileAction α)
    (t : FileTree) :
    (tryCatch action answer).calls t =
      action.calls t ++
        match action.run t with
        | (.ok _, _) => []
        | (.error fault, t) => (answer fault).calls t := by
  simp only [run, calls, tryCatch, tryCatchThe, MonadExceptOf.tryCatch]
  cases action.on t with
  | mk result made =>
      cases result with
      | ok a => exact (List.append_nil made).symm
      | error fault => rfl

/-- An action that makes directories and nothing else. -/
def OnlyDirectories (action : FileAction α) : Prop :=
  ∀ t, ∀ call ∈ action.calls t, call.MakesDirectory

/-- An action that makes no calls makes no others. -/
theorem onlyDirectories_of_calls
    {action : FileAction α}
    (h : ∀ t, action.calls t = []) :
    OnlyDirectories action := by
  intro t call hcall
  rw [h t] at hcall
  cases hcall

/-- Actions that only make directories, one after the other. -/
theorem OnlyDirectories.bind
    {action : FileAction α}
    {next : α → FileAction β}
    (haction : OnlyDirectories action)
    (hnext : ∀ a, OnlyDirectories (next a)) :
    OnlyDirectories (action >>= next) := by
  intro t call hcall
  rw [calls_bind, List.mem_append] at hcall
  rcases hcall with hfirst | hsecond
  · exact haction t call hfirst
  · split at hsecond
    · exact hnext _ _ call hsecond
    · cases hsecond

/-- Answering a fault only makes directories, if the action and the answers do. -/
theorem OnlyDirectories.tryCatch
    {action : FileAction α}
    {answer : FileFault → FileAction α}
    (haction : OnlyDirectories action)
    (hanswer : ∀ fault, OnlyDirectories (answer fault)) :
    OnlyDirectories (tryCatch action answer) := by
  intro t call hcall
  rw [calls_tryCatch, List.mem_append] at hcall
  rcases hcall with hfirst | hsecond
  · exact haction t call hfirst
  · split at hsecond
    · cases hsecond
    · exact hanswer _ _ call hsecond

/-- Looking what stands where a path leads to makes no calls. -/
theorem calls_found?
    (p : Path)
    (t : FileTree) :
    (found? p).calls t = [] := by
  simp only [found?, calls_bind, calls_read, run_read, List.nil_append]
  split <;> rfl

/-- Creating a directory. -/
theorem onlyDirectories_makeDirectory
    (p : Path) :
    OnlyDirectories (makeDirectory p) := by
  rw [makeDirectory]
  apply (onlyDirectories_of_calls (calls_locate p)).bind
  intro l
  apply (onlyDirectories_of_calls calls_read).bind
  intro t
  split
  · exact onlyDirectories_of_calls (calls_throw _)
  · intro _ call hcall
    exact ⟨l, List.mem_singleton.mp hcall⟩

/-- Ensuring a directory. -/
theorem onlyDirectories_ensureDirectory
    (p : Path) :
    OnlyDirectories (ensureDirectory p) := by
  rw [ensureDirectory]
  apply (onlyDirectories_makeDirectory p).tryCatch
  intro fault
  split
  · exact onlyDirectories_of_calls (calls_throw _)
  · apply (onlyDirectories_of_calls (calls_found? p)).bind
    intro e
    split
    · exact onlyDirectories_of_calls (calls_pure _)
    · exact onlyDirectories_of_calls (calls_throw _)

/-- **Making a directory** with those that it lies in makes directories and nothing else. -/
theorem onlyDirectories_makeDirectories
    (p : Path) :
    OnlyDirectories (makeDirectories p) := by
  rw [makeDirectories]
  induction p.ancestors with
  | nil =>
      exact onlyDirectories_of_calls (calls_pure _)
  | cons q above ih =>
      rw [makeChain]
      apply (onlyDirectories_ensureDirectory q).tryCatch
      intro fault
      split
      · split
        · exact onlyDirectories_of_calls (calls_throw _)
        · exact ih.bind fun _ => onlyDirectories_ensureDirectory q
      · exact onlyDirectories_of_calls (calls_throw _)

/-! ## A file that is replaced -/

section Replacing

variable {t t' : FileTree} {l : Location} {text : Text}

/-- The permission bits of a file after it is opened; one that is not there is created with given
ones, less those that creation leaves out. -/
def modeAfterOpening (umask creation : Nat) : Option RegularFile → Nat
  | some f => f.mode
  | none => creation &&& (0o777 ^^^ (umask &&& 0o777))

/-- What has been done of the steps that write a text: nothing, or a beginning of it has arrived. -/
theorem beginning_appends_iff
    {done : List FileCall} :
    FileCall.Beginning done ((appends text).map (.step l))
      ↔
    done = [] ∨ ∃ octets arrived, Utf8.encode text = .ok octets ∧ arrived <+: octets ∧
      done = [.step l (.append arrived)] := by
  unfold appends
  cases hencode : Utf8.encode text with
  | error fault =>
      constructor
      · exact fun h => Or.inl (FileCall.eq_nil_of_beginning h)
      · rintro (rfl | ⟨octets, arrived, hoctets, -⟩)
        · exact .nothing
        · cases hoctets
  | ok octets =>
      constructor
      · intro h
        cases h with
        | nothing =>
            exact Or.inl rfl
        | part harrived =>
            exact Or.inr ⟨octets, _, rfl, harrived, rfl⟩
        | next h =>
            rw [FileCall.eq_nil_of_beginning h]
            exact Or.inr ⟨octets, octets, rfl, List.prefix_refl octets, rfl⟩
      · rintro (rfl | ⟨octets', arrived, hoctets, harrived, rfl⟩)
        · exact .nothing
        · cases hoctets
          exact .part harrived

/-- **The trees that are passed through** while a file is replaced.  First nothing is done.  Then the
file is open and empty, then it has its mode, and from there on it holds a beginning of the text. -/
theorem passes_replacing_iff
    (creation mode : Nat)
    (hfound : t.found? l ≠ some .directory) :
    (∃ done, FileCall.Beginning done
        (([FileStep.openEmpty creation, .setMode mode] ++ appends text).map (.step l)) ∧
      t.after done = t')
      ↔
    t' = t ∨
      t' = t.set l (.file ⟨modeAfterOpening t.umask creation (t.file? l), []⟩) ∨
      t' = t.set l (.file ⟨mode, []⟩) ∨
      ∃ octets arrived, Utf8.encode text = .ok octets ∧ arrived <+: octets ∧
        t' = t.set l (.file ⟨mode, arrived⟩) := by
  have hopened : t.after [.step l (.openEmpty creation)] =
      t.set l (.file ⟨modeAfterOpening t.umask creation (t.file? l), []⟩) := by
    rw [← List.map_singleton, FileTree.after_steps hfound]
    cases t.file? l <;> rfl
  have hclosed : t.after [.step l (.openEmpty creation), .step l (.setMode mode)] =
      t.set l (.file ⟨mode, []⟩) := by
    have h := FileTree.after_steps hfound [.openEmpty creation, .setMode mode]
    rw [List.map_cons, List.map_singleton] at h
    rw [h]
    cases t.file? l <;> rfl
  have hfilled (arrived : Bytes) :
      t.after [.step l (.openEmpty creation), .step l (.setMode mode),
          .step l (.append arrived)] =
        t.set l (.file ⟨mode, arrived⟩) := by
    have h := FileTree.after_steps hfound [.openEmpty creation, .setMode mode, .append arrived]
    rw [List.map_cons, List.map_cons, List.map_singleton] at h
    rw [h]
    cases t.file? l <;> rfl
  rw [List.map_append]
  constructor
  · rintro ⟨done, h, rfl⟩
    rcases FileCall.beginning_append_iff.mp h with hprepare | ⟨more, rfl, hmore⟩
    · -- Opening and setting the mode happen as a whole or not at all.
      cases hprepare with
      | nothing =>
          exact Or.inl rfl
      | next hprepare =>
          cases hprepare with
          | nothing =>
              exact Or.inr (Or.inl hopened)
          | next hprepare =>
              rw [FileCall.eq_nil_of_beginning hprepare]
              exact Or.inr (Or.inr (Or.inl hclosed))
    · rcases beginning_appends_iff.mp hmore with rfl | ⟨octets, arrived, hencode, harrived, rfl⟩
      · exact Or.inr (Or.inr (Or.inl hclosed))
      · exact Or.inr (Or.inr (Or.inr ⟨octets, arrived, hencode, harrived, hfilled arrived⟩))
  · rintro (rfl | rfl | rfl | ⟨octets, arrived, hencode, harrived, rfl⟩)
    · exact ⟨[], .nothing, rfl⟩
    · exact ⟨_, .next .nothing, hopened⟩
    · exact ⟨_, .next (.next .nothing), hclosed⟩
    · exact ⟨_, .next (.next (beginning_appends_iff.mpr
        (Or.inr ⟨octets, arrived, hencode, harrived, rfl⟩))), hfilled arrived⟩

end Replacing

end FileAction

end CurlRequest
