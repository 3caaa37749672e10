import CurlRequest.Text.Lines
import CurlRequest.Text.Utf8

/-!
# POSIX paths

A path is a root and the names on the way from it.  Empty names and single dots do not count, while
double dots do, because what they lead to depends on the directories that are there.  Exactly two
slashes at the start are a root of their own.
-/

namespace CurlRequest

/-- Where a path starts. -/
inductive PathRoot
  | here
  | slash
  | doubleSlash
  deriving DecidableEq, Repr

/-- A path. -/
structure Path where
  root : PathRoot
  names : List Text
  deriving DecidableEq, Repr

namespace Path

/-- The separator of names. -/
def separator : CodePoint := '/'

/-- The names in a text, without those that lead nowhere. -/
def namesOf (t : Text) : List Text :=
  (Text.splitBy (· = separator) t).filter fun name => !(name.isEmpty || name = Text.ofString ".")

/-- The path that a text denotes. -/
def ofText (t : Text) : Path where
  root :=
    match (t.takeWhile (· = separator)).length with
    | 0 => .here
    | 2 => .doubleSlash
    | _ => .slash
  names := namesOf t

/-- The text of a root. -/
def rootText : PathRoot → Text
  | .here => []
  | .slash => "/"
  | .doubleSlash => "//"

/-- The text of a path; the path that leads nowhere is a dot. -/
def toText (p : Path) : Text :=
  if p.root = .here ∧ p.names = [] then "."
  else rootText p.root ++ Text.join "/" p.names

/-- The directory that a path lies in; a root lies in itself. -/
def parent (p : Path) : Path := { p with names := p.names.dropLast }

/-- The path and all the directories above it, from the inside out. -/
def ancestors (p : Path) : List Path :=
  (List.range (p.names.length + 1)).map fun i =>
    { p with names := p.names.take (p.names.length - i) }

/-- The path with a further name. -/
def child (p : Path) (name : Text) : Path := { p with names := p.names ++ [name] }

/-- Whether the first name of a path begins with a tilde. -/
def hasTilde (p : Path) : Bool :=
  decide (p.root = .here) && decide (p.names.head?.bind List.head? = some (CodePoint.ofChar '~'))

/-- The path with the home directory in place of a first name that begins with a tilde, given which
home directory such a name stands for. -/
def expand (homes : Text → Path) (p : Path) : Path :=
  match p.names with
  | [] => p
  | name :: rest =>
      if p.hasTilde then { homes name with names := (homes name).names ++ rest } else p

/-- The octets by which the system knows a text in a path.  A name may hold octets that are no text,
and each of them is one of the surrogates from `0xDC80` to `0xDCFF`. -/
def systemOctets (t : Text) : Bytes :=
  t.flatMap fun c =>
    if 0xDC80 ≤ c.toNat ∧ c.toNat ≤ 0xDCFF then [UInt8.ofNat (c.toNat - 0xDC00)]
    else Utf8.encodeOne c

/-- How many octets the system counts for a text in a path. -/
def octetCount (t : Text) : Nat :=
  (systemOctets t).length

/-- Whether some name holds the code point that ends names for the system. -/
def holdsNul (p : Path) : Bool :=
  p.names.any fun name => name.any fun c => c.toNat = 0

end Path

end CurlRequest
