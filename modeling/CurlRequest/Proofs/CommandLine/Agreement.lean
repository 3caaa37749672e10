import CurlRequest.Proofs.CommandLine.Conversion
import CurlRequest.Proofs.File.Alike

/-!
# Two runs side by side

Two programs agree if from sessions that differ in their files only they come to sessions that
differ in their files only, and end alike: both go on with related values, or both end the run in the
same way.  What may differ in the files before and after is a relation on trees.  Programs that print
and log the same agree under any such relation, and so do actions on files that tell the trees apart
by nothing.

**Results.**
* `Agree.bind_weaken`, `Agree.bind`: agreement of programs one after the other.
* `agree_display`, `agree_say`, `agree_exitOnPathFault`: printing the same.
* `agree_onFiles`: actions on files that are blind to what files hold.
* `Agree.outcome`: what is left behind by whole runs.
-/

namespace CurlRequest.CommandLine

/-- Sessions that differ in their files only. -/
structure Session.Alike (F : FileTree → FileTree → Prop) (s s' : Session) : Prop where
  standardOutput : s.standardOutput = s'.standardOutput
  standardError : s.standardError = s'.standardError
  log : s.log = s'.log
  threshold : s.threshold = s'.threshold
  files : F s.files s'.files

namespace Session.Alike

variable {F G : FileTree → FileTree → Prop}
variable {s s' : Session}

/-- Printing the same keeps sessions alike. -/
theorem print
    (h : Session.Alike F s s')
    (stream : Stream)
    (t : Text) :
    Session.Alike F (s.print stream t) (s'.print stream t) := by
  cases stream with
  | output =>
      exact ⟨congrArg (· ++ t) h.standardOutput, h.standardError, h.log, h.threshold, h.files⟩
  | error =>
      exact ⟨h.standardOutput, congrArg (· ++ t) h.standardError, h.log, h.threshold, h.files⟩

/-- Logging the same keeps sessions alike. -/
theorem note
    (h : Session.Alike F s s')
    (level : LogLevel)
    (source message : Text) :
    Session.Alike F (s.note level source message) (s'.note level source message) := by
  unfold Session.note
  rw [h.threshold]
  split
  · exact ⟨h.standardOutput, h.standardError, congrArg (· ++ _) h.log, rfl, h.files⟩
  · exact h

/-- Other files keep sessions alike. -/
theorem withFiles
    (h : Session.Alike F s s')
    {files files' : FileTree}
    (hfiles : G files files') :
    Session.Alike G (Conversion.withFiles s files) (Conversion.withFiles s' files') :=
  ⟨h.standardOutput, h.standardError, h.log, h.threshold, hfiles⟩

end Session.Alike

namespace Program

variable {α β γ δ : Type}
variable {F G : FileTree → FileTree → Prop}
variable {R : α → β → Prop}

/-- Programs that go on with related values, or end the run in the same way. -/
inductive SameEnd (R : α → β → Prop) : Except Stop α → Except Stop β → Prop
  | ok
      {a : α}
      {b : β}
      (h : R a b) :
      SameEnd R (.ok a) (.ok b)
  | error
      (stop : Stop) :
      SameEnd R (.error stop) (.error stop)

/-- Programs that agree: sessions that differ in files related by `F` are brought to sessions that
differ in files related by `G`, with the same end. -/
def Agree (F G : FileTree → FileTree → Prop) (R : α → β → Prop) (x : Program α) (y : Program β) :
    Prop :=
  ∀ s s', Session.Alike F s s' →
    SameEnd R (x.run s).1 (y.run s').1 ∧ Session.Alike G (x.run s).2 (y.run s').2

/-! ## Composition -/

/-- **Programs that agree** agree one after the other.  What is known of the files in between must
still hold at the end, where the first of them ends the run. -/
theorem Agree.bind_weaken
    {H : FileTree → FileTree → Prop}
    {Q : γ → δ → Prop}
    {x : Program α}
    {y : Program β}
    {f : α → Program γ}
    {g : β → Program δ}
    (hxy : Agree F G R x y)
    (hGH : ∀ t t', G t t' → H t t')
    (hfg : ∀ a b, R a b → Agree G H Q (f a) (g b)) :
    Agree F H Q (x >>= f) (y >>= g) := by
  intro s s' h
  obtain ⟨hend, hafter⟩ := hxy s s' h
  rw [run_bind, run_bind]
  cases hx : x.run s with
  | mk result session =>
      cases hy : y.run s' with
      | mk result' session' =>
          rw [hx, hy] at hend hafter
          cases hend with
          | ok hab =>
              exact hfg _ _ hab session session' hafter
          | error stop =>
              exact ⟨.error stop, hafter.standardOutput, hafter.standardError, hafter.log,
                hafter.threshold, hGH _ _ hafter.files⟩

/-- Programs that agree, agree one after the other. -/
theorem Agree.bind
    {Q : γ → δ → Prop}
    {x : Program α}
    {y : Program β}
    {f : α → Program γ}
    {g : β → Program δ}
    (hxy : Agree F G R x y)
    (hfg : ∀ a b, R a b → Agree G G Q (f a) (g b)) :
    Agree F G Q (x >>= f) (y >>= g) :=
  hxy.bind_weaken (fun _ _ h => h) hfg

/-- More may be known of the files before. -/
theorem Agree.strengthen
    {H : FileTree → FileTree → Prop}
    {x : Program α}
    {y : Program β}
    (hxy : Agree G H R x y)
    (hFG : ∀ t t', F t t' → G t t') :
    Agree F H R x y :=
  fun s s' h => hxy s s'
    ⟨h.standardOutput, h.standardError, h.log, h.threshold, hFG _ _ h.files⟩

/-! ## Programs that do not look at files -/

theorem agree_pure
    {a : α}
    {b : β}
    (h : R a b) :
    Agree F F R (pure a) (pure b) :=
  fun _ _ hs => ⟨.ok h, hs⟩

theorem agree_throw
    (stop : Stop) :
    Agree F F R (throw stop) (throw stop) :=
  fun _ _ hs => ⟨.error stop, hs⟩

/-- Displaying the same text agrees. -/
theorem agree_display
    (stream : Stream)
    (t : Text) :
    Agree F F (· = ·) (display stream t) (display stream t) := by
  intro s s' h
  rw [run_display, run_display]
  cases onTerminal stream t with
  | ok shown =>
      exact ⟨.ok rfl, h.print stream shown⟩
  | error crash =>
      exact ⟨.error _, h⟩

/-- Saying the same agrees. -/
theorem agree_say
    (console : Terminal.Console)
    (stream : Stream)
    (message : Text) :
    Agree F F (· = ·) (say console stream message) (say console stream message) := by
  intro s s' h
  rw [run_say, run_say]
  cases laidOut console stream message with
  | ok t =>
      exact ⟨.ok rfl, h.print stream t⟩
  | error fault =>
      exact ⟨.error _, h⟩

/-- Reporting the same fault of files agrees. -/
theorem agree_exitOnPathFault
    (console : Terminal.Console)
    (message : Text)
    (fault : FileFault) :
    Agree F F R (exitOnPathFault console message fault)
      (exitOnPathFault console message fault) := by
  intro s s' h
  rw [run_exitOnPathFault, run_exitOnPathFault]
  cases reportOf console message fault with
  | ok t =>
      exact ⟨.error _, h.print .error t⟩
  | error crash =>
      exact ⟨.error _, h⟩

/-! ## Actions on files -/

/-- **Actions on files that are blind** to what files hold agree on trees of one shape. -/
theorem agree_onFiles
    {start start' : FileTree}
    {action : FileAction α}
    {answer : FileFault → Program α}
    (haction : FileAction.Blind action)
    (hanswer : ∀ fault, Agree (FileTree.Alike start start') (FileTree.Alike start start') (· = ·)
      (answer fault) (answer fault)) :
    Agree (FileTree.Alike start start') (FileTree.Alike start start') (· = ·)
      (onFiles action answer) (onFiles action answer) := by
  intro s s' h
  obtain ⟨hresult, hafter⟩ := haction start start' s.files s'.files h.files
  rw [run_onFiles, run_onFiles]
  cases hrun : action.run s.files with
  | mk result files =>
      cases hrun' : action.run s'.files with
      | mk result' files' =>
          rw [hrun, hrun'] at hresult hafter
          obtain rfl : result = result' := hresult
          cases result with
          | ok a =>
              exact ⟨.ok rfl, h.withFiles hafter⟩
          | error fault =>
              exact hanswer fault _ _ (h.withFiles hafter)

/-! ## Whole runs -/

/-- Programs that agree end alike, with sessions that differ in their files only.  What is left behind
is what the handler of each run makes of its session. -/
theorem Agree.outcome
    {context context' : Context}
    {files files' : FileTree}
    {arguments arguments' : List Text}
    (h : Agree F G (· = ·) (program context arguments) (program context' arguments'))
    (hfiles : F files files') :
    ∃ stop s s', Session.Alike G s s' ∧
      CommandLine.run context files arguments = context.handler.close stop s ∧
      CommandLine.run context' files' arguments' = context'.handler.close stop s' := by
  have hstart : Session.Alike F (Session.start files) (Session.start files') :=
    ⟨rfl, rfl, rfl, rfl, hfiles⟩
  obtain ⟨hend, hafter⟩ := h _ _ hstart
  rw [run_eq_outcomeOf, run_eq_outcomeOf]
  cases hrun : (program context arguments).run (Session.start files) with
  | mk result session =>
      cases hrun' : (program context' arguments').run (Session.start files') with
      | mk result' session' =>
          rw [hrun, hrun'] at hend hafter
          cases hend with
          | ok hab =>
              exact ⟨.exit 0, session, session', hafter, rfl, rfl⟩
          | error stop =>
              exact ⟨stop, session, session', hafter, rfl, rfl⟩

end Program

end CurlRequest.CommandLine
