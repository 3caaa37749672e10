import CurlRequest.Text

/-!
# Control sequences of a terminal

A control sequence starts with an escape and a bracket and goes on with parameters up to a letter.
Where output is not shown on a terminal, sequences are left out.  A surrogate cannot be encoded, and
the stream of errors shows an escape in its place.
-/

namespace CurlRequest.Terminal

/-- A parameter of a control sequence. -/
def isParameter (c : CodePoint) : Bool :=
  c = ';' || c = '?' || c.isDigit

/-- The length of the control sequence that a text starts with. -/
def sequenceLength? (s : Text) : Option Nat :=
  match Text.after? "\x1b[" s with
  | none => none
  | some rest =>
      let parameters := rest.takeWhile isParameter
      match rest.drop parameters.length with
      | [] => none
      | c :: _ => if c.isAsciiLetter then some (parameters.length + 3) else none

/-- A text without control sequences, after a number of code points of a sequence which was left out
already. -/
def dropSequencesAfter (skip : Nat) : Text → Text
  | [] => []
  | c :: rest =>
      match skip with
      | skip + 1 => dropSequencesAfter skip rest
      | 0 =>
          match sequenceLength? (c :: rest) with
          | some n => dropSequencesAfter (n - 1) rest
          | none => c :: dropSequencesAfter 0 rest

/-- A text without control sequences. -/
def dropSequences (t : Text) : Text :=
  dropSequencesAfter 0 t

/-- A text without the controls that move the cursor or ring the bell. -/
def dropMotions (t : Text) : Text :=
  t.filter fun c => !(decide (c.toNat = 7 ∨ c.toNat = 8) || decide (11 ≤ c.toNat ∧ c.toNat ≤ 13))

/-- A text in which an escape stands in place of each surrogate. -/
def escapeSurrogates (t : Text) : Text :=
  t.flatMap fun c => if c.isSurrogate then "\\u" ++ Text.hex 4 c.toNat else [c]

end CurlRequest.Terminal
