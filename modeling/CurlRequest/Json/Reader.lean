import CurlRequest.Json
import CurlRequest.Json.Fault

/-!
# Reading JSON

The reader goes over a text from left to right, and every function returns what it has not read.
A fault is raised where it is met, so the first one wins.

**Contents.**
* `skipBlanks`, `readString`, `scanNumber?`, `readWord?`: the tokens.
* `readValue`, `readItems`, `readMembers`: values.  The first argument bounds the number of steps;
  a value takes at most two for each code point, which `read` provides.
* `read`: a whole text.  Under the `strict` dialect numbers are finite; under the `lenient` one the
  words `NaN`, `Infinity` and `-Infinity` are numbers and a number that is too large is infinite.
-/

namespace CurlRequest.Json

/-- Whether numbers that are not finite are read or refused. -/
inductive Dialect
  | strict
  | lenient
  deriving DecidableEq, Repr

/-- The most arrays and objects that may be open at once. -/
def nestingLimit : Nat := 990

/-- The four blanks of JSON. -/
def isJsonBlank (c : CodePoint) : Bool :=
  c = ' ' || c = '\t' || c = '\n' || c = '\r'

/-- What follows the blanks that a text starts with. -/
def skipBlanks (s : Text) : Text :=
  s.dropWhile isJsonBlank

/-- A fault at the place where only the given text is left. -/
def faultAt {α : Type} (problem : Problem) (rest : Text) : Except ReadFault α :=
  .error (.located problem rest.length)

/-! ## Strings -/

/-- The value of a hexadecimal digit. -/
def hexDigit? (c : CodePoint) : Option Nat :=
  if c.isDigit then some (c.toNat - 0x30)
  else if 0x61 ≤ c.toNat ∧ c.toNat ≤ 0x66 then some (c.toNat - 0x61 + 10)
  else if 0x41 ≤ c.toNat ∧ c.toNat ≤ 0x46 then some (c.toNat - 0x41 + 10)
  else none

/-- The UTF-16 unit that four hexadecimal digits denote. -/
def hexUnit? (a b c d : CodePoint) : Option CodePoint := do
  let a ← hexDigit? a
  let b ← hexDigit? b
  let c ← hexDigit? c
  let d ← hexDigit? d
  pure (CodePoint.ofNat (((a * 16 + b) * 16 + c) * 16 + d))

/-- The code point that an escape of two characters denotes. -/
def shortEscape? (c : CodePoint) : Option CodePoint :=
  if c = '"' ∨ c = '\\' ∨ c = '/' then some c
  else if c = 'b' then some '\x08'
  else if c = 'f' then some '\x0c'
  else if c = 'n' then some '\n'
  else if c = 'r' then some '\r'
  else if c = 't' then some '\t'
  else none

/-- Code points in front of the string that was read. -/
def prepend (front : Text) : Except ReadFault (Text × Text) → Except ReadFault (Text × Text) :=
  Except.map fun (content, rest) => (front ++ content, rest)

/-- The content of a string after its opening quote, and what follows the closing one.  `opened` is
the text from the opening quote on, and `held` is an escaped high surrogate that was read just
before: an escaped low surrogate makes one code point with it, and anything else leaves it alone. -/
def readString (opened : Text) (held : Option CodePoint) : Text → Except ReadFault (Text × Text)
  | [] => faultAt .unterminatedString opened
  | c :: rest =>
      if c = '"' then .ok (held.toList, rest)
      else if c.isControl then faultAt .controlCharacter (c :: rest)
      else if c = '\\' then
        match rest with
        | [] => faultAt .unterminatedString opened
        | e :: rest =>
            if e = 'u' then
              match rest with
              | d₁ :: d₂ :: d₃ :: d₄ :: rest =>
                  if rest = [] then faultAt .badUnicodeEscape [e, d₁, d₂, d₃, d₄]
                  else
                    match hexUnit? d₁ d₂ d₃ d₄ with
                    | none => faultAt .badUnicodeEscape (e :: d₁ :: d₂ :: d₃ :: d₄ :: rest)
                    | some unit =>
                        match held with
                        | some high =>
                            if unit.isLowSurrogate then
                              prepend [CodePoint.ofSurrogates high unit]
                                (readString opened none rest)
                            else if unit.isHighSurrogate then
                              prepend [high] (readString opened (some unit) rest)
                            else prepend [high, unit] (readString opened none rest)
                        | none =>
                            if unit.isHighSurrogate then readString opened (some unit) rest
                            else prepend [unit] (readString opened none rest)
              | rest => faultAt .badUnicodeEscape (e :: rest)
            else
              match shortEscape? e with
              | some x => prepend (held.toList ++ [x]) (readString opened none rest)
              | none => faultAt .unknownEscape (c :: e :: rest)
      else prepend (held.toList ++ [c]) (readString opened none rest)

/-! ## Numbers -/

/-- A number as it is written: sign, digits before and after the point, and the exponent. -/
structure NumberLiteral where
  negative : Bool
  whole : Text
  fraction : Text
  exponent : Option (Bool × Text)
  deriving DecidableEq, Repr

/-- The number that ASCII digits denote. -/
def digitsValue (digits : Text) : Nat :=
  digits.foldl (fun n c => n * 10 + (c.toNat - 0x30)) 0

/-- A point with digits behind it; anything else is left. -/
def scanFraction : Text → Text × Text
  | [] => ([], [])
  | c :: rest =>
      let digits := rest.takeWhile CodePoint.isDigit
      if c = '.' ∧ digits ≠ [] then (digits, rest.dropWhile CodePoint.isDigit)
      else ([], c :: rest)

/-- The sign that a text starts with, as whether it is a minus, and what follows. -/
def scanSign : Text → Bool × Text
  | [] => (false, [])
  | c :: rest =>
      if c = '-' then (true, rest) else if c = '+' then (false, rest) else (false, c :: rest)

/-- The mark of an exponent with a number behind it; anything else is left. -/
def scanExponent : Text → Option (Bool × Text) × Text
  | [] => (none, [])
  | c :: rest =>
      let (negative, after) := scanSign rest
      let digits := after.takeWhile CodePoint.isDigit
      if (c = 'e' ∨ c = 'E') ∧ digits ≠ [] then
        (some (negative, digits), after.dropWhile CodePoint.isDigit)
      else (none, c :: rest)

/-- The longest number that a text without a sign starts with. -/
def scanMagnitude? (negative : Bool) : Text → Option (NumberLiteral × Text)
  | [] => none
  | c :: rest =>
      if c.isDigit then
        let more := if c = '0' then [] else rest.takeWhile CodePoint.isDigit
        let (fraction, rest) := scanFraction (rest.drop more.length)
        let (exponent, rest) := scanExponent rest
        some (⟨negative, c :: more, fraction, exponent⟩, rest)
      else none

/-- The longest number that a text starts with. -/
def scanNumber? : Text → Option (NumberLiteral × Text)
  | [] => none
  | c :: rest =>
      if c = '-' then scanMagnitude? true rest else scanMagnitude? false (c :: rest)

/-- The floating point number nearest to a literal. -/
def NumberLiteral.toBinary64 (l : NumberLiteral) : Binary64 :=
  let exponent : Int :=
    match l.exponent with
    | none => 0
    | some (negative, digits) =>
        if negative then -(digitsValue digits : Int) else (digitsValue digits : Int)
  Binary64.ofDecimal l.negative (digitsValue (l.whole ++ l.fraction)) (exponent - l.fraction.length)

/-- The value of the literal that stands in a text before what is left of it; a fraction or an
exponent makes it a floating point number. -/
def NumberLiteral.toJson (dialect : Dialect) (l : NumberLiteral) (s rest : Text) :
    Except ReadFault Json :=
  if l.fraction = [] ∧ l.exponent = none then
    if digitLimit < l.whole.length then .error (.tooManyDigits l.whole.length)
    else
      let n : Int := digitsValue l.whole
      .ok (int (if l.negative then -n else n))
  else
    let x := l.toBinary64
    if dialect = .strict ∧ x.isFinite = false then
      .error (.outOfRange (s.take (s.length - rest.length)))
    else .ok (float x)

/-- A number. -/
def readNumber (dialect : Dialect) (s : Text) : Except ReadFault (Json × Text) :=
  match scanNumber? s with
  | none => faultAt .valueExpected s
  | some (literal, rest) => do
      let v ← literal.toJson dialect s rest
      pure (v, rest)

/-! ## Words -/

/-- The words that are values. -/
def words : List (Text × Json) := [
  ("null", null), ("true", bool true), ("false", bool false)]

/-- The words for numbers that are not finite. -/
def numberWords : List (Text × Binary64) := [
  ("NaN", .notANumber), ("Infinity", .infinite false), ("-Infinity", .infinite true)]

/-- The word that a text starts with: a value, or a fault if the dialect refuses it. -/
def readWord? (dialect : Dialect) (s : Text) : Option (Except ReadFault (Json × Text)) :=
  match words.findSome? fun (word, v) => (Text.after? word s).map fun rest => (v, rest) with
  | some found => some (.ok found)
  | none =>
      numberWords.findSome? fun (word, x) =>
        (Text.after? word s).map fun rest =>
          match dialect with
          | .strict => .error (.notFinite word)
          | .lenient => .ok (float x, rest)

/-! ## Values -/

mutual

/-- A value that starts right here.  `depth` counts the arrays and objects that may still open. -/
def readValue (dialect : Dialect) : (steps depth : Nat) → Text → Except ReadFault (Json × Text)
  | 0, _, s => faultAt .valueExpected s
  | _ + 1, _, [] => faultAt .valueExpected []
  | steps + 1, depth, c :: rest =>
      if c = '"' then
        (readString (c :: rest) none rest).map fun (content, rest) => (str content, rest)
      else if c = '[' then
        match depth with
        | 0 => .error .tooDeep
        | depth + 1 =>
            match skipBlanks rest with
            | [] => faultAt .valueExpected []
            | d :: more =>
                if d = ']' then .ok (arr [], more)
                else
                  (readItems dialect steps depth (d :: more)).map fun (items, rest) =>
                    (arr items, rest)
      else if c = '{' then
        match depth with
        | 0 => .error .tooDeep
        | depth + 1 =>
            match skipBlanks rest with
            | [] => faultAt .nameExpected []
            | d :: more =>
                if d = '}' then .ok (obj [], more)
                else
                  (readMembers dialect steps depth (d :: more)).map fun (members, rest) =>
                    (obj members, rest)
      else
        match readWord? dialect (c :: rest) with
        | some found => found
        | none => readNumber dialect (c :: rest)

/-- The items of an array from the start of one of them to its closing bracket. -/
def readItems (dialect : Dialect) : (steps depth : Nat) → Text →
    Except ReadFault (List Json × Text)
  | 0, _, s => faultAt .valueExpected s
  | steps + 1, depth, s => do
      let (item, rest) ← readValue dialect steps depth s
      match skipBlanks rest with
      | [] => faultAt .commaExpected []
      | c :: more =>
          if c = ']' then pure ([item], more)
          else if c = ',' then
            let (items, rest) ← readItems dialect steps depth (skipBlanks more)
            pure (item :: items, rest)
          else faultAt .commaExpected (c :: more)

/-- The members of an object from the start of one of them to its closing brace. -/
def readMembers (dialect : Dialect) : (steps depth : Nat) → Text →
    Except ReadFault (List (Text × Json) × Text)
  | 0, _, s => faultAt .nameExpected s
  | _ + 1, _, [] => faultAt .nameExpected []
  | steps + 1, depth, q :: s => do
      if q = '"' then
        let (name, rest) ← readString (q :: s) none s
        match skipBlanks rest with
        | [] => faultAt .colonExpected []
        | c :: more =>
            if c = ':' then
              let (value, rest) ← readValue dialect steps depth (skipBlanks more)
              match skipBlanks rest with
              | [] => faultAt .commaExpected []
              | d :: more =>
                  if d = '}' then pure ([(name, value)], more)
                  else if d = ',' then
                    let (members, rest) ← readMembers dialect steps depth (skipBlanks more)
                    pure ((name, value) :: members, rest)
                  else faultAt .commaExpected (d :: more)
            else faultAt .colonExpected (c :: more)
      else faultAt .nameExpected (q :: s)

end

/-- The value of a whole text. -/
def read (dialect : Dialect) (text : Text) : Except ReadFault Json := do
  if text.head? = some (CodePoint.ofNat 0xFEFF) then faultAt .byteOrderMark text
  else
    let (v, rest) ← readValue dialect (2 * text.length + 2) nestingLimit (skipBlanks text)
    match skipBlanks rest with
    | [] => pure v
    | c :: more => faultAt .extraData (c :: more)

end CurlRequest.Json
