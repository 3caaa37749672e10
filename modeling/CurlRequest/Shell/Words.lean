import CurlRequest.Shell.Quoting

/-!
# Reading shell commands

The quoting rules of a POSIX shell as a machine that takes one code point at a time.  Outside
quotes a blank ends a word, a newline ends a command, a backslash takes the next code point
literally and is removed together with a newline, and a number sign at the start of a word begins a
comment.  Single quotes keep everything.  Between double quotes a backslash is only special before
a few code points.

**Contents.**
* `Shell.Lexer`: what was read so far, and where the machine stands.
* `Shell.commands?`: the commands of a program, each a list of words, or nothing for a program that
  ends inside quotes or holds an active operator or expansion.
-/

namespace CurlRequest.Shell

/-- Where the machine stands between two code points. -/
inductive Mode
  | plain
  | escaped
  | single
  | double
  | doubleEscaped
  | comment
  deriving DecidableEq, Repr

/-- The state of the machine.  `word` is the word that is being read, in reverse; it is absent
between words and present, possibly empty, once a word has begun. -/
structure Lexer where
  mode : Mode
  word : Option Text
  words : List Text
  commands : List (List Text)
  deriving DecidableEq, Repr

namespace Lexer

/-- The state before a program. -/
def start : Lexer := ⟨.plain, none, [], []⟩

/-- The state with a further code point in the word. -/
def push (c : CodePoint) (s : Lexer) : Lexer :=
  { s with word := some (c :: s.word.getD []) }

/-- The state after the end of a word, if there is one. -/
def endWord (s : Lexer) : Lexer :=
  match s.word with
  | none => s
  | some w => { s with word := none, words := s.words ++ [w.reverse] }

/-- The state after the end of a command, if there is one. -/
def endCommand (s : Lexer) : Lexer :=
  let s := s.endWord
  if s.words = [] then s else { s with words := [], commands := s.commands ++ [s.words] }

/-- The code points that are operators, expansions or patterns outside quotes. -/
def isActive (c : CodePoint) : Bool :=
  (Text.ofString "|&;<>()$\x60*?[~").contains c

/-- One step.  An active operator or expansion is not followed further. -/
def step (s : Lexer) (c : CodePoint) : Option Lexer :=
  match s.mode with
  | .plain =>
      if c = ' ' ∨ c = '\t' then some s.endWord
      else if c = '\n' then some s.endCommand
      else if c = '\\' then some { s with mode := .escaped }
      else if c = singleQuote then some { s with mode := .single, word := some (s.word.getD []) }
      else if c = doubleQuote then some { s with mode := .double, word := some (s.word.getD []) }
      else if c = '#' ∧ s.word = none then some { s with mode := .comment }
      else if isActive c then none
      else some (s.push c)
  | .escaped =>
      if c = '\n' then some { s with mode := .plain }
      else some { s.push c with mode := .plain }
  | .single =>
      if c = singleQuote then some { s with mode := .plain } else some (s.push c)
  | .double =>
      if c = doubleQuote then some { s with mode := .plain }
      else if c = '\\' then some { s with mode := .doubleEscaped }
      else if c = '$' ∨ c = '\x60' then none
      else some (s.push c)
  | .doubleEscaped =>
      if c = '\n' then some { s with mode := .double }
      else if c = '$' ∨ c = '\x60' ∨ c = doubleQuote ∨ c = '\\' then
        some { s.push c with mode := .double }
      else some { (s.push '\\').push c with mode := .double }
  | .comment =>
      if c = '\n' then some { s with mode := .plain }.endCommand else some s

/-- The state after a text. -/
def run (s : Lexer) : Text → Option Lexer
  | [] => some s
  | c :: rest =>
      match s.step c with
      | some next => next.run rest
      | none => none

end Lexer

/-- The commands of a program. -/
def commands? (program : Text) : Option (List (List Text)) :=
  match Lexer.start.run program with
  | some s =>
      match s.mode with
      | .plain | .comment => some s.endCommand.commands
      | _ => none
  | none => none

end CurlRequest.Shell
