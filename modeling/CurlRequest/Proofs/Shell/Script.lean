import CurlRequest.Proofs.Shell.Reading
import Mathlib.Tactic.SplitIfs

/-!
# Scripts of one command

A script is a comment line, the text of a command, and a newline after each.  This module follows
the shell's machine over such a program, prefix by prefix.

The machine never takes back a command that it has completed, so a text over which no command is
completed completes none at any point inside it.  A comment begins only at a number sign outside
quotes, so a text that shows none is never taken for a comment.

**Results.**
* `Lexer.step_cases`: what one step does to commands and comments.
* `Lexer.commands_prefix_of_run`: completed commands stay.
* `Lexer.exists_run_of_outside?`: a text that shows no number sign is nowhere a comment.
* `ReadsAs.isScript`: a text that is read as words makes a script of one command.
* `IsScript.commands?_eq`: the commands of such a script.
-/

namespace CurlRequest.Shell

namespace Lexer

/-- The machine goes over two texts one after the other. -/
theorem run_append
    (s : Lexer)
    (t u : Text) :
    s.run (t ++ u) = (s.run t).bind fun middle => middle.run u := by
  induction t generalizing s with
  | nil =>
      rfl
  | cons c t ih =>
      simp only [List.cons_append, run]
      cases s.step c with
      | none =>
          rfl
      | some next =>
          exact ih next

/-! ## Completed commands -/

@[simp]
theorem commands_endWord
    (s : Lexer) :
    s.endWord.commands = s.commands := by
  unfold endWord
  cases s.word <;> rfl

@[simp]
theorem mode_endWord
    (s : Lexer) :
    s.endWord.mode = s.mode := by
  unfold endWord
  cases s.word <;> rfl

@[simp]
theorem mode_endCommand
    (s : Lexer) :
    s.endCommand.mode = s.mode := by
  simp only [endCommand]
  split_ifs <;> exact mode_endWord s

/-- The end of a command adds at most one command. -/
theorem commands_prefix_endCommand
    (s : Lexer) :
    s.commands <+: s.endCommand.commands := by
  simp only [endCommand]
  split_ifs
  · exact ⟨[], (List.append_nil _).trans (commands_endWord s).symm⟩
  · exact ⟨[s.endWord.words], by rw [commands_endWord]⟩

/-- **What a step does** to commands and comments.  It goes on with a command, it ends one at a
newline, it begins a comment at a number sign outside quotes, or it goes on with a comment. -/
theorem step_cases
    {s next : Lexer}
    {c : CodePoint}
    (h : s.step c = some next) :
    (next.commands = s.commands ∧ next.mode ≠ .comment) ∨
      (c = ('\n' : Char) ∧ next = endCommand { s with mode := .plain }) ∨
      (c = ('#' : Char) ∧ s.mode = .plain ∧ next = { s with mode := .comment }) ∨
      (s.mode = .comment ∧ next = s) := by
  cases hmode : s.mode with
  | plain =>
      have hsame : { s with mode := .plain } = s := by
        rw [← hmode]
      simp only [step, hmode] at h
      split_ifs at h with _ hnewline _ _ _ hnumber <;> cases h
      · refine Or.inl ⟨commands_endWord s, ?_⟩
        rw [mode_endWord, hmode]
        decide
      · rw [hsame]
        exact Or.inr (Or.inl ⟨hnewline, rfl⟩)
      · exact Or.inl ⟨rfl, by simp⟩
      · exact Or.inl ⟨rfl, by simp⟩
      · exact Or.inl ⟨rfl, by simp⟩
      · exact Or.inr (Or.inr (Or.inl ⟨hnumber.1, rfl, rfl⟩))
      · refine Or.inl ⟨rfl, ?_⟩
        rw [push, hmode]
        decide
  | comment =>
      simp only [step, hmode] at h
      split_ifs at h with hnewline <;> cases h
      · exact Or.inr (Or.inl ⟨hnewline, rfl⟩)
      · exact Or.inr (Or.inr (Or.inr ⟨rfl, rfl⟩))
  | escaped | single | double | doubleEscaped =>
      simp only [step, hmode] at h
      split_ifs at h <;> cases h
      all_goals exact Or.inl ⟨rfl, by simp [push, hmode]⟩

/-- One step takes back no command. -/
theorem commands_prefix_of_step
    {s next : Lexer}
    {c : CodePoint}
    (h : s.step c = some next) :
    s.commands <+: next.commands := by
  have hkeeps {s' : Lexer} (hs' : s'.commands = s.commands) : s.commands <+: s'.commands :=
    ⟨[], (List.append_nil _).trans hs'.symm⟩
  rcases step_cases h with ⟨hsame, -⟩ | ⟨-, rfl⟩ | ⟨-, -, rfl⟩ | ⟨-, rfl⟩
  · exact hkeeps hsame
  · exact commands_prefix_endCommand { s with mode := .plain }
  · exact hkeeps rfl
  · exact hkeeps rfl

/-- **Completed commands stay**: a text takes back none of them. -/
theorem commands_prefix_of_run
    {t : Text}
    {s next : Lexer}
    (h : s.run t = some next) :
    s.commands <+: next.commands := by
  induction t generalizing s with
  | nil =>
      cases h
      exact List.prefix_rfl
  | cons c t ih =>
      simp only [run] at h
      cases hstep : s.step c with
      | none =>
          simp [hstep] at h
      | some middle =>
          simp only [hstep] at h
          exact (commands_prefix_of_step hstep).trans (ih h)

/-! ## Comments -/

/-- A comment begins at a number sign outside quotes only. -/
theorem eq_numberSign_of_step
    {s next : Lexer}
    {c : CodePoint}
    (h : s.step c = some next)
    (hs : s.mode ≠ .comment)
    (hnext : next.mode = .comment) :
    c = ('#' : Char) ∧ s.mode = .plain := by
  rcases step_cases h with ⟨-, hmode⟩ | ⟨-, rfl⟩ | ⟨hnumber, hplain, -⟩ | ⟨hcomment, -⟩
  · exact absurd hnext hmode
  · rw [mode_endCommand] at hnext
    cases hnext
  · exact ⟨hnumber, hplain⟩
  · exact absurd hcomment hs

/-- **A text that shows no number sign is nowhere a comment**: at the end of each of its beginnings
the machine stands in no comment. -/
theorem exists_run_of_outside?
    {before rest shown : Text}
    {s : Lexer}
    (h : s.outside? (before ++ rest) = some shown)
    (hshown : ∀ c ∈ shown, c ≠ ('#' : Char))
    (hs : s.mode ≠ .comment) :
    ∃ next, s.run before = some next ∧ next.mode ≠ .comment := by
  induction before generalizing s shown with
  | nil =>
      exact ⟨s, rfl, hs⟩
  | cons c before ih =>
      cases hstep : s.step c with
      | none =>
          simp [outside?, hstep] at h
      | some middle =>
          simp only [List.cons_append, outside?, hstep, Option.map_eq_some_iff] at h
          obtain ⟨more, hmore, rfl⟩ := h
          have hmiddle : middle.mode ≠ .comment := by
            intro hcomment
            obtain ⟨rfl, hplain⟩ := eq_numberSign_of_step hstep hs hcomment
            simp [hplain, hcomment, Mode.isQuoting] at hshown
          have hnumber : ∀ d ∈ more, d ≠ ('#' : Char) := by
            intro d hd
            apply hshown d
            split_ifs
            · exact hd
            · exact List.mem_cons_of_mem c hd
          obtain ⟨next, hrun, hnext⟩ := ih hmore hnumber hmiddle
          refine ⟨next, ?_, hnext⟩
          simp only [run, hstep]
          exact hrun

/-- In a comment the machine stays until the line ends. -/
theorem run_comment
    {line : Text}
    (h : ∀ c ∈ line, c ≠ ('\n' : Char)) :
    run ⟨.comment, none, [], []⟩ line = some ⟨.comment, none, [], []⟩ := by
  induction line with
  | nil =>
      rfl
  | cons c line ih =>
      have hc : c ≠ ('\n' : Char) := h c List.mem_cons_self
      simp only [run, step, if_neg hc]
      exact ih fun d hd => h d (List.mem_cons_of_mem c hd)

end Lexer

open Lexer

/-! ## Scripts -/

/-- **A script of one command.**  The program is a comment line and the text of one simple command
with the given words, each ended by a newline. -/
structure IsScript (comment command : Text) (read : List Text) : Prop where
  /-- The first line is a comment from its first code point on. -/
  comment_line : ∀ before, before <+: comment → before ≠ [] →
    start.run before = some ⟨.comment, none, [], []⟩
  /-- The first newline ends the comment, and nothing was run. -/
  line_end : start.run (comment ++ "\n") = some start
  /-- At no point of the command's text has a command ended or a comment begun. -/
  command_text : ∀ before, before <+: command →
    ∃ s, start.run (comment ++ "\n" ++ before) = some s ∧ s.mode ≠ .comment ∧ s.commands = []
  /-- The last newline stands outside quotes. -/
  command_end : ∃ s, start.run (comment ++ "\n" ++ command) = some s ∧ s.mode = .plain
  /-- The last newline ends the command, and nothing else was run. -/
  program_end : start.run (comment ++ "\n" ++ command ++ "\n") =
    some ⟨.plain, none, [], [read]⟩

/-- The commands of a script of one command. -/
theorem IsScript.commands?_eq
    {comment command : Text}
    {read : List Text}
    (h : IsScript comment command read) :
    commands? (comment ++ "\n" ++ command ++ "\n") = some [read] := by
  simp only [commands?, h.program_end]
  rfl

/-- **A text that is read as words makes a script**, if it shows no number sign and the first line
is a comment. -/
theorem ReadsAs.isScript
    {line command shown : Text}
    {read : List Text}
    (h : ReadsAs command read shown)
    (hne : read ≠ [])
    (hshown : ∀ c ∈ shown, c ≠ ('#' : Char))
    (hline : ∀ c ∈ line, c ≠ ('\n' : Char)) :
    IsScript ("#" ++ line) command read := by
  have hcomment (before : Text) (hbefore : before <+: line) :
      start.run ("#" ++ before) = some ⟨.comment, none, [], []⟩ := by
    rw [run_append]
    exact run_comment fun c hc => hline c (hbefore.subset hc)
  have hstart : start.run ("#" ++ line ++ "\n") = some start := by
    rw [run_append, hcomment line List.prefix_rfl]
    rfl
  obtain ⟨word, done, hpass, hdone⟩ := h [] []
  have hcommand :
      start.run ("#" ++ line ++ "\n" ++ command) = some ⟨.plain, word, done, []⟩ := by
    rw [run_append, hstart]
    exact hpass.run_eq
  constructor
  · intro before hbefore hne
    obtain ⟨rest, hrest⟩ := hbefore
    cases before with
    | nil =>
        exact absurd rfl hne
    | cons c before =>
        obtain ⟨rfl, htail⟩ := List.cons.inj hrest
        exact hcomment before ⟨rest, htail⟩
  · exact hstart
  · rintro before ⟨rest, rfl⟩
    obtain ⟨s, hrun, hmode⟩ :=
      exists_run_of_outside? hpass.outside_eq hshown (by decide)
    refine ⟨s, ?_, hmode, ?_⟩
    · rw [run_append, hstart]
      exact hrun
    · have hlast : s.run rest = some ⟨.plain, word, done, []⟩ := by
        have hall := hpass.run_eq
        rw [run_append, show run _ before = some s from hrun] at hall
        exact hall
      exact List.prefix_nil.mp (commands_prefix_of_run hlast)
  · exact ⟨_, hcommand, rfl⟩
  · have hend : endWord ⟨.plain, word, done, []⟩ = ⟨.plain, none, read, []⟩ := by
      rw [endWord_eq, hdone, List.nil_append]
    have hnewline :
        run ⟨.plain, word, done, []⟩ "\n" = some (endCommand ⟨.plain, word, done, []⟩) := rfl
    rw [run_append, hcommand]
    simp only [Option.bind_some, hnewline, endCommand, hend, hne, if_false, List.nil_append]

end CurlRequest.Shell
