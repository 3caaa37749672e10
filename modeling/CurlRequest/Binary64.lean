import CurlRequest.Text

/-!
# Binary floating point numbers of 64 bits

A finite number is a sign and a *rank*: its place among the finite magnitudes in increasing order,
which is also its bit pattern without the sign.  Rank zero is zero, the ranks of one binade are
`2 ^ 52` neighbours, and `infinityRank` is the first rank that is no longer finite.  All arithmetic
is exact arithmetic on natural numbers.

**Contents.**
* `significand`, `scale`: a magnitude is `significand * 2 ^ scale`.
* `ofRatio`: the number nearest to a quotient, a tie going to the even rank.
* `ofDecimal`: the number nearest to `digits * 10 ^ exponent`.
* `toInt?`: the integer that a number is, if it is one.
-/

namespace CurlRequest

/-- The number of finite magnitudes. -/
def infinityRank : Nat := 0x7FF0000000000000

/-- A binary floating point number of 64 bits; all ways of being no number are one. -/
inductive Binary64
  | finite (negative : Bool) (rank : Fin infinityRank)
  | infinite (negative : Bool)
  | notANumber
  deriving DecidableEq, Repr

namespace Binary64

/-- The integer that a rank multiplies a power of two by. -/
def significand (rank : Nat) : Nat :=
  if rank < Nat.pow 2 52 then rank else Nat.pow 2 52 + rank % Nat.pow 2 52

/-- The exponent of the power of two in the magnitude of a rank. -/
def scale (rank : Nat) : Int :=
  if rank < Nat.pow 2 52 then -1074 else (rank / Nat.pow 2 52 : Nat) - 1075

/-- Numerator and denominator of the magnitude of a rank. -/
def ratio (rank : Nat) : Nat × Nat :=
  if 0 ≤ scale rank then (significand rank * Nat.pow 2 (scale rank).toNat, 1)
  else (significand rank, Nat.pow 2 (-scale rank).toNat)

/-- The integer nearest to a quotient; half-way quotients go to the even neighbour. -/
def nearestQuotient (num den : Nat) : Nat :=
  let q := num / den
  let r := num % den
  if 2 * r < den then q else if den < 2 * r then q + 1 else q + q % 2

/-- A quotient divided by a power of two, again as numerator and denominator. -/
def divideByPower (num den : Nat) (power : Int) : Nat × Nat :=
  if 0 ≤ power then (num, den * Nat.pow 2 power.toNat)
  else (num * Nat.pow 2 (-power).toNat, den)

/-- The exponent that brings a quotient to `2 ^ 52` or more and below `2 ^ 53`, or the least one
there is. -/
def scaleOf (num den : Nat) : Int :=
  let estimate : Int := (Nat.log2 num : Int) - Nat.log2 den - 52
  let (n, d) := divideByPower num den estimate
  max (if n < Nat.pow 2 52 * d then estimate - 1 else estimate) (-1074)

/-- The rank nearest to a quotient, which may be too large to be finite.  Rounding up to `2 ^ 53`
gives the first rank of the next binade, as it should. -/
def rankOfRatio (num den : Nat) : Nat :=
  let power := scaleOf num den
  let (n, d) := divideByPower num den power
  (power + 1074).toNat * Nat.pow 2 52 + nearestQuotient n d

/-- The number of a given rank. -/
def ofRank (negative : Bool) (rank : Nat) : Binary64 :=
  if h : rank < infinityRank then .finite negative ⟨rank, h⟩ else .infinite negative

/-- The number nearest to a quotient. -/
def ofRatio (negative : Bool) (num den : Nat) : Binary64 :=
  ofRank negative (if num = 0 then 0 else rankOfRatio num den)

/-- The number nearest to `digits * 10 ^ exponent`.  Exponents that decide the matter alone are
settled without computing the power of ten. -/
def ofDecimal (negative : Bool) (digits : Nat) (exponent : Int) : Binary64 :=
  if digits = 0 then ofRank negative 0
  else if 400 ≤ exponent then .infinite negative
  else if exponent + Nat.log2 digits ≤ -400 then ofRank negative 0
  else if 0 ≤ exponent then ofRatio negative (digits * Nat.pow 10 exponent.toNat) 1
  else ofRatio negative digits (Nat.pow 10 (-exponent).toNat)

/-- Neither infinite nor no number. -/
def isFinite : Binary64 → Bool
  | .finite _ _ => true
  | _ => false

/-- The integer that a number is. -/
def toInt? : Binary64 → Option Int
  | .finite negative rank =>
      let (num, den) := ratio rank
      if num % den = 0 then
        some (if negative then -((num / den : Nat) : Int) else ((num / den : Nat) : Int))
      else none
  | _ => none

end Binary64

end CurlRequest
