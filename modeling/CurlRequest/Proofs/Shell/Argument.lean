import CurlRequest.Json.Writer
import CurlRequest.Proofs.Shell.Script
import Mathlib.Logic.Function.Basic

/-!
# Arguments in their place

A quoted text is one word wherever a word can begin.  It does not run into what stands before it,
because the machine stands between words there, and it does not run into what follows, as long as
that is a blank, a newline or the end of the program: closed quotes leave the machine outside quotes
with the word still pending, and these three end it.

**Results.**
* `Lexer.run_pending`: what ends a word takes a pending word as it takes a complete one.
* `IsArgument`: a written text is read as one word in every such place.
* `isArgument_quote`: a quoted text is read as itself.
* `isArgument_of_toText`: that, and the same of values by their text; no two texts are quoted alike.
-/

namespace CurlRequest.Shell

namespace Lexer

/-- The state between words, outside quotes, after some commands and some words of the next one. -/
def between (words : List Text) (commands : List (List Text)) : Lexer :=
  ⟨.plain, none, words, commands⟩

/-- The state outside quotes in which a word is pending. -/
def pending (word : Text) (words : List Text) (commands : List (List Text)) : Lexer :=
  ⟨.plain, some word.reverse, words, commands⟩

/-- A text that begins with what ends a word: a blank or a newline. -/
def EndsWord : Text → Prop
  | [] => False
  | c :: _ => c = (' ' : Char) ∨ c = ('\t' : Char) ∨ c = ('\n' : Char)

variable {word : Text} {words : List Text} {commands : List (List Text)}

/-- A pending word that is ended is complete. -/
theorem endWord_pending :
    endWord (pending word words commands) = between (words ++ [word]) commands := by
  rw [pending, endWord_eq, Option.map_some, List.reverse_reverse]
  rfl

/-- The end of a command takes a pending word as it takes a complete one. -/
theorem endCommand_pending :
    endCommand (pending word words commands) = between [] (commands ++ [words ++ [word]]) := by
  unfold endCommand
  rw [endWord_pending]
  simp [between]

/-- One step at the end of a word takes a pending word as it takes a complete one. -/
theorem step_pending
    {c : CodePoint}
    (hc : c = (' ' : Char) ∨ c = ('\t' : Char) ∨ c = ('\n' : Char)) :
    step (pending word words commands) c = step (between (words ++ [word]) commands) c := by
  have hblank :
      some (endWord (pending word words commands)) =
        some (endWord (between (words ++ [word]) commands)) := by
    rw [endWord_pending]
    rfl
  rcases hc with rfl | rfl | rfl
  · exact hblank
  · exact hblank
  · have hbetween :
        endCommand (between (words ++ [word]) commands) =
          between [] (commands ++ [words ++ [word]]) := by
      simp [endCommand, endWord, between]
    have hnewline :
        some (endCommand (pending word words commands)) =
          some (endCommand (between (words ++ [word]) commands)) := by
      rw [endCommand_pending, hbetween]
    exact hnewline

/-- **What ends a word** takes a pending word as it takes a complete one. -/
theorem run_pending
    {rest : Text}
    (hrest : EndsWord rest) :
    run (pending word words commands) rest = run (between (words ++ [word]) commands) rest := by
  cases rest with
  | nil =>
      exact hrest.elim
  | cons c rest =>
      simp only [run, step_pending hrest]

end Lexer

open Lexer

/-- **A written text is read as one word** in its place, which is behind any beginning of a program
that leaves the machine between words. -/
structure IsArgument (written word : Text) : Prop where
  /-- The words before it are as they were, it is the word that is pending, and no quote is open. -/
  pending : ∀ before words commands, start.run before = some (between words commands) →
    start.run (before ++ written) = some (Lexer.pending word words commands)
  /-- What ends a word is read as it is read between words, after this word. -/
  followed : ∀ before words commands rest, start.run before = some (between words commands) →
    EndsWord rest →
      start.run (before ++ written ++ rest) = (between (words ++ [word]) commands).run rest
  /-- At the end of the program it is the last word of the last command. -/
  last : ∀ before words commands, start.run before = some (between words commands) →
    commands? (before ++ written) = some (commands ++ [words ++ [word]])

/-- **A quoted text is read as itself** in its place. -/
theorem isArgument_quote
    (t : Text) :
    IsArgument (quote t) t := by
  have hpending {before : Text} {words : List Text} {commands : List (List Text)}
      (h : start.run before = some (between words commands)) :
      start.run (before ++ quote t) = some (Lexer.pending t words commands) := by
    have hpass : run (between words commands) (quote t) =
        some ⟨.plain, some (t.reverse ++ []), words, commands⟩ :=
      (passes_quote t none).run_eq
    rw [List.append_nil] at hpass
    rw [run_append, h]
    exact hpass
  constructor
  · intro before words commands h
    exact hpending h
  · intro before words commands rest h hrest
    rw [run_append, hpending h]
    exact run_pending hrest
  · intro before words commands h
    have hend : (endCommand (Lexer.pending t words commands)).commands =
        commands ++ [words ++ [t]] := by
      rw [endCommand_pending]
      rfl
    simp only [commands?, hpending h]
    exact congrArg some hend

/-- Between words is where a program starts. -/
theorem run_nil_between :
    start.run [] = some (between [] []) :=
  rfl

/-- A written text is read as one word only. -/
theorem IsArgument.unique
    {written t u : Text}
    (ht : IsArgument written t)
    (hu : IsArgument written u) :
    t = u := by
  have hwords :=
    (ht.last [] [] [] run_nil_between).symm.trans (hu.last [] [] [] run_nil_between)
  simpa using hwords

/-- No two texts are quoted alike. -/
theorem quote_injective :
    Function.Injective quote := by
  intro t u heq
  have hu := isArgument_quote u
  rw [← heq] at hu
  exact (isArgument_quote t).unique hu

/-- **Arguments in their place.**  Every quoted text is read as one word, which is the text itself,
wherever a word can begin and whatever ends it.  What is written for a value is read in the same way
as the text of the value, which is the value itself for a string.  No two texts are quoted alike, and
the quoted empty text is one empty word. -/
theorem isArgument_of_toText :
    (∀ t, IsArgument (quote t) t) ∧
      (∀ (v : Json) (written : Text), v.toText.map quote = .ok written →
        ∃ t, v.toText = .ok t ∧ IsArgument written t) ∧
      (∀ s : Text, (Json.str s).toText.map quote = .ok (quote s)) ∧
      Function.Injective quote ∧
      commands? (quote []) = some [[[]]] := by
  refine ⟨isArgument_quote, ?_, fun _ => rfl, quote_injective, ?_⟩
  · intro v written hwritten
    cases htext : v.toText with
    | error fault =>
        rw [htext] at hwritten
        cases hwritten
    | ok t =>
        rw [htext] at hwritten
        cases hwritten
        exact ⟨t, rfl, isArgument_quote t⟩
  · exact (isArgument_quote []).last [] [] [] run_nil_between

/-- A text of quotes, a backslash and a newline, and a list, between words of a command that is not
the first. -/
theorem isArgument_of_toText_inContext :
    start.run "a\nb \\\n" = some (between [↑"b"] [[↑"a"]]) ∧
      (Json.arr [.str "'"]).toText.map quote = .ok (quote "[\"'\"]") ∧
      start.run ("a\nb \\\n" ++ quote "''\"\\\n'" ++ "\t# c") =
        (between [↑"b", ↑"''\"\\\n'"] [[↑"a"]]).run "\t# c" ∧
      commands? ("a\nb \\\n" ++ quote "[\"'\"]") = some [[↑"a"], [↑"b", ↑"[\"'\"]"]] := by
  have hbefore : start.run "a\nb \\\n" = some (between [↑"b"] [[↑"a"]]) := by decide
  have hwritten : (Json.arr [.str "'"]).toText.map quote = .ok (quote "[\"'\"]") := by rfl
  obtain ⟨hquoted, hvalue, -⟩ := isArgument_of_toText
  obtain ⟨t, htext, hlist⟩ := hvalue _ _ hwritten
  obtain rfl : Text.ofString "[\"'\"]" = t := Except.ok.inj htext
  refine ⟨hbefore, hwritten, ?_, ?_⟩
  · exact (hquoted "''\"\\\n'").followed _ _ _ _ hbefore (Or.inr (Or.inl rfl))
  · exact hlist.last _ _ _ hbefore

end CurlRequest.Shell
