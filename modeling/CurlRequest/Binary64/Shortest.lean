import CurlRequest.Binary64

/-!
# The shortest decimal of a floating point number

A finite number is written with the fewest significant digits that read back as the same number.
With `n` digits only the two neighbours of the magnitude on the grid of `n`-digit decimals can do
that.  If both do, the nearer one is taken, and the even one if they are equally near.

**Contents.**
* `shortest`: digits and exponent of that decimal.
* `DecimalFormat`, `Binary64.format`: where the point goes and when an exponent is written.
-/

namespace CurlRequest.Binary64

/-- The number of decimal digits of a natural number. -/
def digitCount (n : Nat) : Nat :=
  (Nat.toDigits 10 n).length

/-- The exponent of the power of ten at or below a positive quotient. -/
def decimalExponent (num den : Nat) : Int :=
  if den ≤ num then (digitCount (num / den) : Int) - 1
  else -(digitCount ((den + num - 1) / num - 1) : Int)

/-- A quotient divided by a power of ten, again as numerator and denominator. -/
def divideByPowerOfTen (num den : Nat) (power : Int) : Nat × Nat :=
  if 0 ≤ power then (num, den * Nat.pow 10 power.toNat)
  else (num * Nat.pow 10 (-power).toNat, den)

/-- The decimal with `count` digits that reads back as a rank, if there is one: an integer and the
exponent of the power of ten it multiplies. -/
def decimalWith? (rank count : Nat) : Option (Nat × Int) :=
  let (num, den) := ratio rank
  let power := decimalExponent num den - count + 1
  let (n, d) := divideByPowerOfTen num den power
  let below := n / d
  let readsBack (digits : Nat) : Bool := ofDecimal false digits power == ofRank false rank
  match readsBack below, readsBack (below + 1) with
  | true, true => some (nearestQuotient n d, power)
  | true, false => some (below, power)
  | false, true => some (below + 1, power)
  | false, false => none

/-- An exact decimal of a magnitude. -/
def exactDecimal (rank : Nat) : Nat × Int :=
  if 0 ≤ scale rank then (significand rank * Nat.pow 2 (scale rank).toNat, 0)
  else (significand rank * Nat.pow 5 (-scale rank).toNat, scale rank)

/-- The shortest decimal that reads back as a rank.  Seventeen digits are always enough. -/
def shortest (rank : Nat) : Nat × Int :=
  ((List.range 17).findSome? fun i => decimalWith? rank (i + 1)).getD (exactDecimal rank)

/-- Where a decimal is written without an exponent, and how wide an exponent is at least. -/
structure DecimalFormat where
  leastPlainExponent : Int
  plainExponentBound : Int
  leastExponentDigits : Nat
  deriving DecidableEq, Repr

/-- A run of zeros. -/
def zeros (count : Nat) : Text :=
  List.replicate count '0'

/-- Digits without the zeros at their end. -/
def dropTrailingZeros (digits : Text) : Text :=
  (digits.reverse.dropWhile fun c : CodePoint => c = '0').reverse

/-- A decimal in positional notation: the point stands after the digit of `10 ^ 0`. -/
def plainText (digits : Text) (exponent : Int) : Text :=
  if exponent < 0 then
    "0." ++ zeros ((-exponent).toNat - 1) ++ digits
  else
    let whole := exponent.toNat + 1
    let padded := digits ++ zeros (whole - digits.length)
    let fraction := padded.drop whole
    padded.take whole ++ Text.ofString "." ++ (if fraction.isEmpty then zeros 1 else fraction)

/-- A decimal with one digit before the point and an exponent. -/
def exponentText (format : DecimalFormat) (digits : Text) (exponent : Int) : Text :=
  let power := Text.ofNat exponent.natAbs
  let padding := zeros (format.leastExponentDigits - power.length)
  let sign : Text := if exponent < 0 then "e-" else "e+"
  let fraction : Text := if digits.length ≤ 1 then [] else Text.ofString "." ++ digits.drop 1
  digits.take 1 ++ fraction ++ sign ++ padding ++ power

/-- The text of a finite magnitude. -/
def magnitudeText (format : DecimalFormat) (rank : Nat) : Text :=
  if rank = 0 then "0.0"
  else
    let (digits, power) := shortest rank
    let all := Text.ofNat digits
    let exponent := power + all.length - 1
    let kept := dropTrailingZeros all
    if format.leastPlainExponent ≤ exponent ∧ exponent < format.plainExponentBound then
      plainText kept exponent
    else exponentText format kept exponent

/-- The text of a number. -/
def format (format : DecimalFormat) : Binary64 → Text
  | .finite negative rank =>
      if negative then '-' :: magnitudeText format rank else magnitudeText format rank
  | .infinite negative => if negative then "-Infinity" else "Infinity"
  | .notANumber => "NaN"

end CurlRequest.Binary64
