/-!
# Text as a sequence of code points

Everything the library reads, quotes, measures and prints is a `Text`: a list of Unicode code
points.  Surrogates are code points too, because a JSON escape such as `\ud800` denotes one, so
a text is not always the text of a core `String`.  Lengths and positions count code points.

**Contents.**
* `CodePoint`: a number below `0x110000`, with the classes that the formats need.
* `Text`: lists of code points; literals are written as strings and coerced.
* `Text.join`, `Text.occursIn`, `Text.cutAt?`, `Text.lt`: the few operations on lists of code
  points that the core library does not name.
-/

namespace CurlRequest

/-- A Unicode code point, surrogates included. -/
structure CodePoint where
  toNat : Nat
  isLt : toNat < 0x110000
  deriving DecidableEq, Repr

namespace CodePoint

/-- The code point of a core character. -/
def ofChar (c : Char) : CodePoint where
  toNat := c.toNat
  isLt := by
    rcases c.valid with h | h
    · exact Nat.lt_trans h (by decide)
    · exact h.2

instance : Coe Char CodePoint := ⟨ofChar⟩

/-- The code point with a given number; numbers out of range give the replacement character. -/
def ofNat (n : Nat) : CodePoint :=
  if h : n < 0x110000 then ⟨n, h⟩ else ⟨0xFFFD, by decide⟩

theorem toNat_ofNat {n : Nat} (h : n < 0x110000) : (ofNat n).toNat = n := by
  simp [ofNat, h]

/-- The first half of a surrogate pair. -/
def isHighSurrogate (c : CodePoint) : Bool :=
  decide (0xD800 ≤ c.toNat ∧ c.toNat < 0xDC00)

/-- The second half of a surrogate pair. -/
def isLowSurrogate (c : CodePoint) : Bool :=
  decide (0xDC00 ≤ c.toNat ∧ c.toNat < 0xE000)

/-- Either half of a surrogate pair: no character, and not encodable in UTF-8. -/
def isSurrogate (c : CodePoint) : Bool :=
  decide (0xD800 ≤ c.toNat ∧ c.toNat < 0xE000)

/-- The control codes below the space. -/
def isControl (c : CodePoint) : Bool :=
  decide (c.toNat < 0x20)

/-- The ASCII digits. -/
def isDigit (c : CodePoint) : Bool :=
  decide (0x30 ≤ c.toNat ∧ c.toNat ≤ 0x39)

/-- The ASCII letters. -/
def isAsciiLetter (c : CodePoint) : Bool :=
  decide ((0x41 ≤ c.toNat ∧ c.toNat ≤ 0x5A) ∨ (0x61 ≤ c.toNat ∧ c.toNat ≤ 0x7A))

/-- The code point outside the basic plane that a surrogate pair stands for. -/
def ofSurrogates (high low : CodePoint) : CodePoint :=
  ofNat (0x10000 + (high.toNat - 0xD800) * 0x400 + (low.toNat - 0xDC00))

/-- The core character of a code point; a surrogate has none. -/
def toChar? (c : CodePoint) : Option Char :=
  if c.isSurrogate then none else some (Char.ofNat c.toNat)

end CodePoint

/-- A sequence of code points. -/
abbrev Text := List CodePoint

namespace Text

/-- The text of a core string. -/
def ofString (s : String) : Text :=
  s.toList.map CodePoint.ofChar

instance : Coe String Text := ⟨ofString⟩

/-- The core string of a text; a text that holds a surrogate has none. -/
def toString? (t : Text) : Option String :=
  (t.mapM CodePoint.toChar?).map String.ofList

/-- The texts of a list one after the other, with a separator between neighbours. -/
def join (separator : Text) : List Text → Text
  | [] => []
  | [t] => t
  | t :: u :: rest => t ++ separator ++ join separator (u :: rest)

/-- Whether `needle` is a contiguous part of the text. -/
def occursIn (needle : Text) : Text → Bool
  | [] => needle.isEmpty
  | c :: rest => needle.isPrefixOf (c :: rest) || occursIn needle rest

/-- The parts before and after the first occurrence of a code point. -/
def cutAt? (separator : CodePoint) : Text → Option (Text × Text)
  | [] => none
  | c :: rest =>
      if c = separator then some ([], rest)
      else (cutAt? separator rest).map fun (before, after) => (c :: before, after)

/-- What follows `head`, where the text begins with it. -/
def after? : (head : Text) → Text → Option Text
  | [], t => some t
  | _ :: _, [] => none
  | h :: head, c :: t => if h = c then after? head t else none

/-- The order of texts by their code points: the first difference decides, and a text comes after
its beginnings. -/
def lt : Text → Text → Bool
  | _, [] => false
  | [], _ :: _ => true
  | c :: t, d :: u => decide (c.toNat < d.toNat) || (decide (c = d) && lt t u)

/-- Whether some code point of the text is a surrogate. -/
def hasSurrogate (t : Text) : Bool :=
  t.any CodePoint.isSurrogate

/-- The decimal digits of a natural number, without leading zeros. -/
def ofNat (n : Nat) : Text :=
  (Nat.toDigits 10 n).map CodePoint.ofChar

/-- The decimal digits of an integer, with a minus sign below zero. -/
def ofInt (n : Int) : Text :=
  if n < 0 then ('-' : CodePoint) :: ofNat n.natAbs else ofNat n.natAbs

/-- Lower-case hexadecimal digits, filled up with zeros to a given width. -/
def hex (width n : Nat) : Text :=
  let digits := (Nat.toDigits 16 n).map CodePoint.ofChar
  List.replicate (width - digits.length) ('0' : CodePoint) ++ digits

end Text

end CurlRequest
