import CurlRequest.Shell.Words

/-!
# What a shell reads in a written command

This module follows the shell's machine over texts that are put together from fixed words, quoted
arguments and separators.

For each piece two things are kept: the state that the machine reaches, and what the piece shows
outside quotes.  Quotes themselves are not shown, so a quoted argument shows nothing, whatever it
holds.

**Results.**
* `Lexer.passes_quote`: a quoted text is read as itself and shows nothing.
* `ReadsAs.join`: pieces with separators between them are read as the words of all pieces.
* `ReadsAs.commands?_eq`: a text that is read as words is one simple command.
-/

namespace CurlRequest.Shell

/-- Whether the machine stands inside quotes. -/
def Mode.isQuoting : Mode → Bool
  | .single => true
  | .double => true
  | .doubleEscaped => true
  | _ => false

namespace Lexer

/-- What a text shows outside quotes, the quotes themselves left out. -/
def outside? (s : Lexer) : Text → Option Text
  | [] => some []
  | c :: rest =>
      match s.step c with
      | none => none
      | some next =>
          (next.outside? rest).map fun shown =>
            if s.mode.isQuoting || next.mode.isQuoting then shown else c :: shown

/-- The machine goes over a text from one state to another, and the text shows `shown` outside
quotes. -/
structure Passes (s : Lexer) (t : Text) (next : Lexer) (shown : Text) : Prop where
  run_eq : s.run t = some next
  outside_eq : s.outside? t = some shown

/-- Over the empty text the machine stays where it is. -/
theorem Passes.nil (s : Lexer) :
    Passes s [] s [] := by
  constructor
  · rfl
  · rfl

/-- A step that touches quotes shows nothing. -/
theorem Passes.hidden
    {s middle next : Lexer}
    {c : CodePoint}
    {t shown : Text}
    (hstep : s.step c = some middle)
    (hquoting : (s.mode.isQuoting || middle.mode.isQuoting) = true)
    (h : Passes middle t next shown) :
    Passes s (c :: t) next shown := by
  constructor
  · simp only [run, hstep]
    exact h.run_eq
  · simp only [outside?, hstep, h.outside_eq, hquoting, if_true, Option.map_some]

/-- A step outside quotes shows the code point it takes. -/
theorem Passes.visible
    {s middle next : Lexer}
    {c : CodePoint}
    {t shown : Text}
    (hstep : s.step c = some middle)
    (hquoting : (s.mode.isQuoting || middle.mode.isQuoting) = false)
    (h : Passes middle t next shown) :
    Passes s (c :: t) next (c :: shown) := by
  constructor
  · simp only [run, hstep]
    exact h.run_eq
  · simp only [outside?, hstep, h.outside_eq, hquoting, Bool.false_eq_true, if_false,
      Option.map_some]

/-- The machine goes over two texts one after the other. -/
theorem Passes.append
    {s middle next : Lexer}
    {t u shown more : Text}
    (ht : Passes s t middle shown)
    (hu : Passes middle u next more) :
    Passes s (t ++ u) next (shown ++ more) := by
  induction t generalizing s shown with
  | nil =>
      obtain ⟨hrun, houtside⟩ := ht
      simp only [run, Option.some.injEq] at hrun
      simp only [outside?, Option.some.injEq] at houtside
      subst hrun houtside
      exact hu
  | cons c t ih =>
      obtain ⟨hrun, houtside⟩ := ht
      cases hstep : s.step c with
      | none =>
          simp [run, hstep] at hrun
      | some s' =>
          simp only [run, hstep] at hrun
          simp only [outside?, hstep, Option.map_eq_some_iff] at houtside
          obtain ⟨rest, hrest, hshown⟩ := houtside
          have htail := ih ⟨hrun, hrest⟩
          cases hquoting : (s.mode.isQuoting || s'.mode.isQuoting) with
          | true =>
              rw [hquoting] at hshown
              subst hshown
              exact Passes.hidden hstep hquoting htail
          | false =>
              rw [hquoting] at hshown
              subst hshown
              exact Passes.visible hstep hquoting htail

/-! ## Fixed words -/

/-- A code point that is itself outside quotes, wherever it stands in a word. -/
def isOrdinary (c : CodePoint) : Bool :=
  !(Text.ofString " \t\n\\\x27\x22#").contains c && !isActive c

variable {words : List Text} {commands : List (List Text)}

/-- An ordinary code point goes into the word that is being read. -/
theorem step_ordinary
    {c : CodePoint}
    (hc : isOrdinary c = true)
    (word : Option Text) :
    step ⟨.plain, word, words, commands⟩ c =
      some ⟨.plain, some (c :: word.getD []), words, commands⟩ := by
  simp only [isOrdinary, Text.ofString, Bool.and_eq_true, Bool.not_eq_true'] at hc
  obtain ⟨hspecial, hactive⟩ := hc
  simp at hspecial
  obtain ⟨hblank, htab, hline, hbackslash, hsingle, hdouble, hcomment⟩ := hspecial
  simp [step, push, hblank, htab, hline, hbackslash, hcomment, hactive, singleQuote, doubleQuote,
    hsingle, hdouble]

/-- A text of ordinary code points goes into the word that is being read. -/
theorem passes_ordinary
    {t : Text}
    (ht : ∀ c ∈ t, isOrdinary c = true)
    (word : Text) :
    Passes ⟨.plain, some word, words, commands⟩ t
      ⟨.plain, some (t.reverse ++ word), words, commands⟩ t := by
  induction t generalizing word with
  | nil =>
      exact Passes.nil _
  | cons c t ih =>
      have hc : isOrdinary c = true := ht c List.mem_cons_self
      have htail := ih (fun d hd => ht d (List.mem_cons_of_mem c hd)) (c :: word)
      rw [List.reverse_cons, List.append_assoc]
      exact Passes.visible (step_ordinary hc (some word)) rfl htail

/-! ## Quoted arguments -/

/-- The quoted form of a single quote leaves single quotes, stands between double quotes, and comes
back. -/
theorem passes_quoteOne
    (c : CodePoint)
    (word : Text) :
    Passes ⟨.single, some word, words, commands⟩ (quoteOne c)
      ⟨.single, some (c :: word), words, commands⟩ [] := by
  by_cases hc : c = singleQuote
  · subst hc
    have hleave :
        step ⟨.single, some word, words, commands⟩ singleQuote =
          some ⟨.plain, some word, words, commands⟩ := rfl
    have hopen :
        step ⟨.plain, some word, words, commands⟩ doubleQuote =
          some ⟨.double, some word, words, commands⟩ := rfl
    have htake :
        step ⟨.double, some word, words, commands⟩ singleQuote =
          some ⟨.double, some (singleQuote :: word), words, commands⟩ := rfl
    have hclose :
        step ⟨.double, some (singleQuote :: word), words, commands⟩ doubleQuote =
          some ⟨.plain, some (singleQuote :: word), words, commands⟩ := rfl
    have hreturn :
        step ⟨.plain, some (singleQuote :: word), words, commands⟩ singleQuote =
          some ⟨.single, some (singleQuote :: word), words, commands⟩ := rfl
    simp only [quoteOne, if_true]
    apply Passes.hidden hleave rfl
    apply Passes.hidden hopen rfl
    apply Passes.hidden htake rfl
    apply Passes.hidden hclose rfl
    apply Passes.hidden hreturn rfl
    exact Passes.nil _
  · have hstep :
        step ⟨.single, some word, words, commands⟩ c =
          some ⟨.single, some (c :: word), words, commands⟩ := by
      simp [step, push, hc]
    simp only [quoteOne, hc, if_false]
    apply Passes.hidden hstep rfl
    exact Passes.nil _

/-- Between the outer quotes of a quoted text the machine takes the text itself. -/
theorem passes_flatMap_quoteOne
    (t word : Text) :
    Passes ⟨.single, some word, words, commands⟩ (t.flatMap quoteOne)
      ⟨.single, some (t.reverse ++ word), words, commands⟩ [] := by
  induction t generalizing word with
  | nil =>
      exact Passes.nil _
  | cons c t ih =>
      rw [List.flatMap_cons, List.reverse_cons, List.append_assoc]
      exact Passes.append (passes_quoteOne c word) (ih (c :: word))

/-- **A quoted text is read as itself**, and nothing of it stands outside quotes. -/
theorem passes_quote
    (t : Text)
    (word : Option Text) :
    Passes ⟨.plain, word, words, commands⟩ (quote t)
      ⟨.plain, some (t.reverse ++ word.getD []), words, commands⟩ [] := by
  have hopen :
      step ⟨.plain, word, words, commands⟩ singleQuote =
        some ⟨.single, some (word.getD []), words, commands⟩ := rfl
  have hclose :
      step ⟨.single, some (t.reverse ++ word.getD []), words, commands⟩ singleQuote =
        some ⟨.plain, some (t.reverse ++ word.getD []), words, commands⟩ := rfl
  have hend :
      Passes ⟨.single, some (t.reverse ++ word.getD []), words, commands⟩ [singleQuote]
        ⟨.plain, some (t.reverse ++ word.getD []), words, commands⟩ [] :=
    Passes.hidden hclose rfl (Passes.nil _)
  apply Passes.hidden hopen rfl
  exact Passes.append (passes_flatMap_quoteOne t (word.getD [])) hend

/-! ## Separators -/

/-- A text that ends a word, wherever it stands outside quotes. -/
def IsSeparator (separator : Text) : Prop :=
  ∀ word words commands,
    Passes ⟨.plain, word, words, commands⟩ separator
      (endWord ⟨.plain, word, words, commands⟩) separator

/-- The words that are complete once the pending word is ended. -/
theorem endWord_eq
    (word : Option Text) :
    endWord ⟨.plain, word, words, commands⟩ =
      ⟨.plain, none, words ++ (word.map List.reverse).toList, commands⟩ := by
  cases word with
  | none =>
      simp [endWord]
  | some w =>
      simp [endWord]

/-- A space separates words. -/
theorem isSeparator_space :
    IsSeparator (Text.ofString " ") := by
  intro word words commands
  have hstep :
      step ⟨.plain, word, words, commands⟩ (' ' : Char) =
        some (endWord ⟨.plain, word, words, commands⟩) := rfl
  rw [endWord_eq] at hstep ⊢
  apply Passes.visible hstep rfl
  exact Passes.nil _

end Lexer

open Lexer

/-! ## Texts that are read as words -/

/-- Between words, a text is read as the given words, the last of which may still be pending, and
shows `shown` outside quotes. -/
def ReadsAs (t : Text) (read : List Text) (shown : Text) : Prop :=
  ∀ words commands, ∃ word done,
    Passes ⟨.plain, none, words, commands⟩ t ⟨.plain, word, done, commands⟩ shown ∧
    done ++ (word.map List.reverse).toList = words ++ read

namespace ReadsAs

/-- The empty text has no words. -/
theorem nil :
    ReadsAs [] [] [] := by
  intro words commands
  refine ⟨none, words, Passes.nil _, ?_⟩
  simp

/-- A fixed word of ordinary code points is read as itself and is shown. -/
theorem fixed
    {t : Text}
    (hne : t ≠ [])
    (ht : ∀ c ∈ t, isOrdinary c = true) :
    ReadsAs t [t] t := by
  intro words commands
  cases t with
  | nil =>
      exact absurd rfl hne
  | cons c t =>
      have hc : isOrdinary c = true := ht c List.mem_cons_self
      have htail :
          Passes ⟨.plain, some [c], words, commands⟩ t
            ⟨.plain, some (t.reverse ++ [c]), words, commands⟩ t :=
        passes_ordinary (fun d hd => ht d (List.mem_cons_of_mem c hd)) [c]
      refine ⟨some (t.reverse ++ [c]), words, ?_, ?_⟩
      · exact Passes.visible (step_ordinary hc none) rfl htail
      · simp

/-- A quoted text is read as one word, which is not shown. -/
theorem quoted
    (t : Text) :
    ReadsAs (quote t) [t] [] := by
  intro words commands
  refine ⟨some t.reverse, words, ?_, ?_⟩
  · have h :
        Passes ⟨.plain, none, words, commands⟩ (quote t)
          ⟨.plain, some (t.reverse ++ []), words, commands⟩ [] :=
      passes_quote t none
    rw [List.append_nil] at h
    exact h
  · simp

/-- Two texts with a separator between them are read as the words of both. -/
theorem append
    {separator t u shown more : Text}
    {read further : List Text}
    (hseparator : IsSeparator separator)
    (ht : ReadsAs t read shown)
    (hu : ReadsAs u further more) :
    ReadsAs (t ++ separator ++ u) (read ++ further) (shown ++ separator ++ more) := by
  intro words commands
  obtain ⟨word, done, hpass, hdone⟩ := ht words commands
  have hend := hseparator word done commands
  rw [endWord_eq, hdone] at hend
  obtain ⟨word', done', hpass', hdone'⟩ := hu (words ++ read) commands
  refine ⟨word', done', ?_, ?_⟩
  · exact (hpass.append hend).append hpass'
  · rw [hdone', List.append_assoc]

/-- **Pieces with separators between them** are read as the words of all pieces in order. -/
theorem join
    {ι : Type}
    {separator : Text}
    (hseparator : IsSeparator separator)
    (text : ι → Text)
    (read : ι → List Text)
    (shown : ι → Text)
    (pieces : List ι)
    (h : ∀ p ∈ pieces, ReadsAs (text p) (read p) (shown p)) :
    ReadsAs (Text.join separator (pieces.map text)) (pieces.flatMap read)
      (Text.join separator (pieces.map shown)) := by
  induction pieces with
  | nil =>
      exact nil
  | cons p rest ih =>
      have hp := h p List.mem_cons_self
      have hrest := ih fun q hq => h q (List.mem_cons_of_mem p hq)
      cases rest with
      | nil =>
          simpa [Text.join] using hp
      | cons q rest =>
          rw [List.flatMap_cons]
          exact append hseparator hp hrest

/-- A text that is read as words, not none of them, is one simple command. -/
theorem commands?_eq
    {t shown : Text}
    {read : List Text}
    (h : ReadsAs t read shown)
    (hne : read ≠ []) :
    commands? t = some [read] := by
  obtain ⟨word, done, hpass, hdone⟩ := h [] []
  have hend :
      endWord ⟨.plain, word, done, []⟩ = ⟨.plain, none, read, []⟩ := by
    rw [endWord_eq, hdone, List.nil_append]
  have hrun : start.run t = some ⟨.plain, word, done, []⟩ := hpass.run_eq
  simp only [commands?, hrun, endCommand, hend, hne, if_false, List.nil_append]

/-- What a program shows outside quotes. -/
theorem outside?_eq
    {t shown : Text}
    {read : List Text}
    (h : ReadsAs t read shown) :
    start.outside? t = some shown := by
  obtain ⟨word, done, hpass, -⟩ := h [] []
  exact hpass.outside_eq

end ReadsAs

end CurlRequest.Shell
