import CurlRequest.Text

/-!
# UTF-8

The decoder takes one octet at a time and keeps the sequence it is in the middle of (`Pending`).
It accepts well-formed UTF-8 only: no overlong form, no surrogate, nothing above `0x10FFFF`.  A
fault names the position of the sequence it lies in, how many octets that sequence has so far and
why it cannot go on.  The encoder refuses texts that hold a surrogate.
-/

namespace CurlRequest

/-- A sequence of octets. -/
abbrev Bytes := List UInt8

namespace Utf8

/-- Why octets are not UTF-8. -/
inductive Malformation
  | invalidStart
  | invalidContinuation
  | truncated
  deriving DecidableEq, Repr

/-- The first place where octets stop being UTF-8: the position of a sequence, the number of its
octets that were read, the first of them, and what is wrong. -/
structure DecodeFault where
  position : Nat
  width : Nat
  octet : Nat
  malformation : Malformation
  deriving DecidableEq, Repr

/-- The first run of surrogates in a text: its position, its length and its first code point. -/
structure EncodeFault where
  position : Nat
  width : Nat
  codePoint : CodePoint
  deriving DecidableEq, Repr

/-- A sequence of several octets that is not complete: its position, its first octet, how many
octets were read and are missing, the bits collected so far, and the range of the next octet. -/
structure Pending where
  position : Nat
  octet : Nat
  width : Nat
  missing : Nat
  value : Nat
  low : Nat
  high : Nat
  deriving DecidableEq, Repr

/-- What the first octet of a sequence of several announces.  The range of the second octet is
narrower after `E0`, `ED`, `F0` and `F4`: it keeps out overlong forms, surrogates and numbers that
are too large. -/
def Pending.start? (position octet : Nat) : Option Pending :=
  if 0xC2 ≤ octet ∧ octet ≤ 0xDF then
    some ⟨position, octet, 1, 1, octet - 0xC0, 0x80, 0xBF⟩
  else if 0xE0 ≤ octet ∧ octet ≤ 0xEF then
    some ⟨position, octet, 1, 2, octet - 0xE0,
      if octet = 0xE0 then 0xA0 else 0x80, if octet = 0xED then 0x9F else 0xBF⟩
  else if 0xF0 ≤ octet ∧ octet ≤ 0xF4 then
    some ⟨position, octet, 1, 3, octet - 0xF0,
      if octet = 0xF0 then 0x90 else 0x80, if octet = 0xF4 then 0x8F else 0xBF⟩
  else none

/-- The fault of a sequence that cannot go on. -/
def Pending.fault (p : Pending) (m : Malformation) : DecodeFault :=
  ⟨p.position, p.width, p.octet, m⟩

/-- Decodes octets from a position on, possibly in the middle of a sequence. -/
def decodeFrom (position : Nat) : Option Pending → Bytes → Except DecodeFault Text
  | none, [] => .ok []
  | some p, [] => .error (p.fault .truncated)
  | none, b :: rest =>
      if b.toNat < 0x80 then
        (decodeFrom (position + 1) none rest).map (CodePoint.ofNat b.toNat :: ·)
      else
        match Pending.start? position b.toNat with
        | some p => decodeFrom (position + 1) (some p) rest
        | none => .error ⟨position, 1, b.toNat, .invalidStart⟩
  | some p, b :: rest =>
      if p.low ≤ b.toNat ∧ b.toNat ≤ p.high then
        let value := p.value * 0x40 + (b.toNat - 0x80)
        if p.missing ≤ 1 then
          (decodeFrom (position + 1) none rest).map (CodePoint.ofNat value :: ·)
        else
          decodeFrom (position + 1)
            (some ⟨p.position, p.octet, p.width + 1, p.missing - 1, value, 0x80, 0xBF⟩) rest
      else .error (p.fault .invalidContinuation)

/-- The text that octets encode. -/
def decode (bytes : Bytes) : Except DecodeFault Text :=
  decodeFrom 0 none bytes

/-- The octets of one code point. -/
def encodeOne (c : CodePoint) : Bytes :=
  let n := c.toNat
  if n < 0x80 then [UInt8.ofNat n]
  else if n < 0x800 then [UInt8.ofNat (0xC0 + n / 0x40), UInt8.ofNat (0x80 + n % 0x40)]
  else if n < 0x10000 then
    [UInt8.ofNat (0xE0 + n / 0x1000), UInt8.ofNat (0x80 + n / 0x40 % 0x40),
      UInt8.ofNat (0x80 + n % 0x40)]
  else
    [UInt8.ofNat (0xF0 + n / 0x40000), UInt8.ofNat (0x80 + n / 0x1000 % 0x40),
      UInt8.ofNat (0x80 + n / 0x40 % 0x40), UInt8.ofNat (0x80 + n % 0x40)]

/-- The octets of a text, surrogates treated like any other code point. -/
def encodeAll (t : Text) : Bytes :=
  t.flatMap encodeOne

/-- The first run of surrogates, if the text holds one. -/
def firstSurrogates? (position : Nat) : Text → Option EncodeFault
  | [] => none
  | c :: rest =>
      if c.isSurrogate then
        some ⟨position, 1 + (rest.takeWhile CodePoint.isSurrogate).length, c⟩
      else firstSurrogates? (position + 1) rest

/-- The octets of a text; a surrogate has none. -/
def encode (t : Text) : Except EncodeFault Bytes :=
  match firstSurrogates? 0 t with
  | some fault => .error fault
  | none => .ok (encodeAll t)

/-- One position, or the first and last of several, as faults report them. -/
def spanText (position width : Nat) : Text :=
  if width ≤ 1 then Text.ofNat position
  else Text.ofNat position ++ "-" ++ Text.ofNat (position + width - 1)

/-- The wording of a malformation. -/
def Malformation.message : Malformation → Text
  | .invalidStart => "invalid start byte"
  | .invalidContinuation => "invalid continuation byte"
  | .truncated => "unexpected end of data"

/-- The wording of a decoding fault. -/
def DecodeFault.message (f : DecodeFault) : Text :=
  if f.width ≤ 1 then
    "'utf-8' codec can't decode byte 0x" ++ Text.hex 2 f.octet ++ " in position " ++
      Text.ofNat f.position ++ ": " ++ f.malformation.message
  else
    "'utf-8' codec can't decode bytes in position " ++ spanText f.position f.width ++ ": " ++
      f.malformation.message

/-- The wording of an encoding fault. -/
def EncodeFault.message (f : EncodeFault) : Text :=
  if f.width ≤ 1 then
    "'utf-8' codec can't encode character '\\u" ++ Text.hex 4 f.codePoint.toNat ++
      "' in position " ++ Text.ofNat f.position ++ ": surrogates not allowed"
  else
    "'utf-8' codec can't encode characters in position " ++ spanText f.position f.width ++
      ": surrogates not allowed"

end Utf8

end CurlRequest
