import CurlRequest.Json.Reader
import CurlRequest.Proofs.Binary64.Rounding

/-!
# The grammar of JSON texts

Which texts are JSON, and which value each of them has, said production by production and without
regard to how a text is read.

**Contents.**
* `Whitespace`, `Chars`, `Number`: the productions without parts.
* `Denotes`: the value of a number.  Integers keep their digits, up to a limit; a fraction or an
  exponent makes a number the nearest floating point number, which has to be finite.
* `Value`, `Items`, `Member`, `Members`: the productions of values.  Objects keep all members.
* `JsonText`: a value between white space.
-/

namespace CurlRequest.Json.Grammar

/-! ## White space -/

/-- `ws = *( %x20 / %x09 / %x0A / %x0D )` -/
def Whitespace (t : Text) : Prop :=
  ∀ c ∈ t, c = ' ' ∨ c = '\t' ∨ c = '\n' ∨ c = '\r'

/-! ## Strings -/

/-- A hexadecimal digit and its value. -/
def HexDigit (c : CodePoint) (n : Nat) : Prop :=
  (n < 10 ∧ c.toNat = 0x30 + n) ∨
    (10 ≤ n ∧ n < 16 ∧ (c.toNat = 0x41 + (n - 10) ∨ c.toNat = 0x61 + (n - 10)))

/-- The escape of a UTF-16 unit: a backslash, a `u` and four hexadecimal digits. -/
inductive UnitEscape : Text → CodePoint → Prop
  | digits
      {a b c d unit : CodePoint}
      {i j k l : Nat}
      (ha : HexDigit a i)
      (hb : HexDigit b j)
      (hc : HexDigit c k)
      (hd : HexDigit d l)
      (hunit : unit.toNat = ((i * 16 + j) * 16 + k) * 16 + l) :
      UnitEscape ['\\', 'u', a, b, c, d] unit

/-- What stands behind the backslash of an escape of two characters, and what it denotes. -/
inductive ShortEscape : CodePoint → CodePoint → Prop
  | quote : ShortEscape '"' '"'
  | backslash : ShortEscape '\\' '\\'
  | solidus : ShortEscape '/' '/'
  | backspace : ShortEscape 'b' '\x08'
  | formFeed : ShortEscape 'f' '\x0c'
  | lineFeed : ShortEscape 'n' '\n'
  | carriageReturn : ShortEscape 'r' '\r'
  | tab : ShortEscape 't' '\t'

/-- A text begins with the escape of the second half of a surrogate pair. -/
def StartsWithLow (t : Text) : Prop :=
  ∃ e u rest, UnitEscape e u ∧ u.isLowSurrogate = true ∧ t = e ++ rest

/-- What stands between the quotes of a string, and the text it denotes.  The escapes of a
surrogate pair denote one code point; any other escaped surrogate stays alone. -/
inductive Chars : Text → Text → Prop
  | nil :
      Chars [] []
  | unescaped
      {c : CodePoint}
      {t s : Text}
      (hcontrol : 0x20 ≤ c.toNat)
      (hquote : c ≠ '"')
      (hbackslash : c ≠ '\\')
      (h : Chars t s) :
      Chars (c :: t) (c :: s)
  | escaped
      {e x : CodePoint}
      {t s : Text}
      (he : ShortEscape e x)
      (h : Chars t s) :
      Chars ('\\' :: e :: t) (x :: s)
  | unit
      {e t s : Text}
      {u : CodePoint}
      (he : UnitEscape e u)
      (halone : ¬ (u.isHighSurrogate = true ∧ StartsWithLow t))
      (h : Chars t s) :
      Chars (e ++ t) (u :: s)
  | pair
      {e e' t s : Text}
      {high low : CodePoint}
      (he : UnitEscape e high)
      (he' : UnitEscape e' low)
      (hhigh : high.isHighSurrogate = true)
      (hlow : low.isLowSurrogate = true)
      (h : Chars t s) :
      Chars (e ++ (e' ++ t)) (CodePoint.ofSurrogates high low :: s)

/-! ## Numbers -/

/-- `1*DIGIT` -/
def Digits (t : Text) : Prop :=
  t ≠ [] ∧ ∀ c ∈ t, c.isDigit = true

/-- `int = zero / ( digit1-9 *DIGIT )` -/
inductive Whole : Text → Prop
  | zero :
      Whole ['0']
  | digits
      {c : CodePoint}
      {t : Text}
      (hc : c.isDigit = true)
      (hzero : c ≠ '0')
      (ht : ∀ d ∈ t, d.isDigit = true) :
      Whole (c :: t)

/-- `[ frac ]`, with `frac = decimal-point 1*DIGIT`, and its digits. -/
inductive Fraction : Text → Text → Prop
  | absent :
      Fraction [] []
  | present
      {t : Text}
      (ht : Digits t) :
      Fraction ('.' :: t) t

/-- `[ minus / plus ]`, and whether it is a minus. -/
inductive Sign : Text → Bool → Prop
  | absent : Sign [] false
  | plus : Sign ['+'] false
  | minus : Sign ['-'] true

/-- `[ exp ]`, with `exp = e [ minus / plus ] 1*DIGIT`, its sign and its digits. -/
inductive Exponent : Text → Option (Bool × Text) → Prop
  | absent :
      Exponent [] none
  | present
      {e : CodePoint}
      {sign t : Text}
      {negative : Bool}
      (he : e = 'e' ∨ e = 'E')
      (hsign : Sign sign negative)
      (ht : Digits t) :
      Exponent (e :: (sign ++ t)) (some (negative, t))

/-- `number = [ minus ] int [ frac ] [ exp ]` -/
inductive Number : Text → NumberLiteral → Prop
  | mk
      {negative : Bool}
      {whole fraction fractionDigits exponent : Text}
      {exponentDigits : Option (Bool × Text)}
      (hwhole : Whole whole)
      (hfraction : Fraction fraction fractionDigits)
      (hexponent : Exponent exponent exponentDigits) :
      Number ((if negative then [('-' : CodePoint)] else []) ++ (whole ++ (fraction ++ exponent)))
        ⟨negative, whole, fractionDigits, exponentDigits⟩

/-- The power of ten that an exponent denotes. -/
def power : Option (Bool × Text) → ℤ
  | none => 0
  | some (false, digits) => digitsValue digits
  | some (true, digits) => -digitsValue digits

/-- The magnitude of a number. -/
def magnitude (l : NumberLiteral) : ℚ :=
  digitsValue (l.whole ++ l.fraction) * 10 ^ (power l.exponent - l.fraction.length)

/-- The value of a number, if it has one. -/
inductive Denotes (l : NumberLiteral) : Json → Prop
  | integer
      (hfraction : l.fraction = [])
      (hexponent : l.exponent = none)
      (hlimit : l.whole.length ≤ digitLimit) :
      Denotes l (int (if l.negative then -digitsValue l.whole else digitsValue l.whole))
  | floating
      {x : Binary64}
      (hkind : ¬ (l.fraction = [] ∧ l.exponent = none))
      (hround : Binary64.Rounds l.negative (magnitude l) x)
      (hfinite : x.isFinite = true) :
      Denotes l (float x)

/-! ## Values -/

mutual

/-- `value = false / null / true / object / array / number / string` -/
inductive Value : Text → Json → Prop
  | nullWord :
      Value ['n', 'u', 'l', 'l'] null
  | trueWord :
      Value ['t', 'r', 'u', 'e'] (bool true)
  | falseWord :
      Value ['f', 'a', 'l', 's', 'e'] (bool false)
  | number
      {t : Text}
      {l : NumberLiteral}
      {v : Json}
      (ht : Number t l)
      (hv : Denotes l v) :
      Value t v
  | string
      {t s : Text}
      (h : Chars t s) :
      Value (('"' : CodePoint) :: (t ++ [('"' : CodePoint)])) (str s)
  | emptyArray
      {w : Text}
      (hw : Whitespace w) :
      Value (('[' : CodePoint) :: (w ++ [(']' : CodePoint)])) (arr [])
  | array
      {t : Text}
      {items : List Json}
      (h : Items t items) :
      Value (('[' : CodePoint) :: (t ++ [(']' : CodePoint)])) (arr items)
  | emptyObject
      {w : Text}
      (hw : Whitespace w) :
      Value (('{' : CodePoint) :: (w ++ [('}' : CodePoint)])) (obj [])
  | object
      {t : Text}
      {members : List (Text × Json)}
      (h : Members t members) :
      Value (('{' : CodePoint) :: (t ++ [('}' : CodePoint)])) (obj members)

/-- `value *( value-separator value )`, each value between white space. -/
inductive Items : Text → List Json → Prop
  | single
      {w t w' : Text}
      {v : Json}
      (hw : Whitespace w)
      (h : Value t v)
      (hw' : Whitespace w') :
      Items (w ++ (t ++ w')) [v]
  | cons
      {w t w' rest : Text}
      {v : Json}
      {items : List Json}
      (hw : Whitespace w)
      (h : Value t v)
      (hw' : Whitespace w')
      (hrest : Items rest items) :
      Items (w ++ (t ++ (w' ++ (',' : CodePoint) :: rest))) (v :: items)

/-- `member = string name-separator value` -/
inductive Member : Text → Text × Json → Prop
  | mk
      {name w t w' s : Text}
      {v : Json}
      (hname : Chars name s)
      (hw : Whitespace w)
      (hw' : Whitespace w')
      (h : Value t v) :
      Member
        (('"' : CodePoint) ::
          (name ++ ('"' : CodePoint) :: (w ++ (':' : CodePoint) :: (w' ++ t))))
        (s, v)

/-- `member *( value-separator member )`, each member between white space. -/
inductive Members : Text → List (Text × Json) → Prop
  | single
      {w t w' : Text}
      {member : Text × Json}
      (hw : Whitespace w)
      (h : Member t member)
      (hw' : Whitespace w') :
      Members (w ++ (t ++ w')) [member]
  | cons
      {w t w' rest : Text}
      {member : Text × Json}
      {members : List (Text × Json)}
      (hw : Whitespace w)
      (h : Member t member)
      (hw' : Whitespace w')
      (hrest : Members rest members) :
      Members (w ++ (t ++ (w' ++ (',' : CodePoint) :: rest))) (member :: members)

end

/-- `JSON-text = ws value ws` -/
inductive JsonText : Text → Json → Prop
  | mk
      {w t w' : Text}
      {v : Json}
      (hw : Whitespace w)
      (h : Value t v)
      (hw' : Whitespace w') :
      JsonText (w ++ (t ++ w')) v

end CurlRequest.Json.Grammar
