import CurlRequest.Terminal.Emoji
import CurlRequest.Terminal.Style

/-!
# Tags in messages

A message may hold tags in brackets that set a style from there on, and tags with a slash that end
one.  Tags are not shown.  A backslash before a tag makes it plain text.  A tag that ends a style
which is not open is a fault, and so is one that ends the last style where none is open; styles are
told apart by their normal names.  Names of emoji between colons are shown as emoji.

What stands behind an equals sign in a tag are its parameters.  Those of a handler, the name of which
begins with an at sign, are read as a literal when the tag is closed.  Those of any other tag belong to
the style in which the text is painted in the end.  Which literals are refused, and what a style is
refused for that is painted, is left to the console.

**Contents.**
* `Piece`, `pieces`: plain texts and tags, with their positions.
* `Console`: what prints messages.
* `plainText`: what is shown of a message.
-/

namespace CurlRequest.Terminal

namespace Markup

/-- A part of a message: plain text, text that a backslash kept from being a tag, or the inside of a
tag with its position. -/
inductive Piece
  | plain (t : Text)
  | literal (t : Text)
  | tag (position : Nat) (inside : Text)
  deriving DecidableEq, Repr

/-- Why a message cannot be shown. -/
inductive Fault
  | unmatched (position : Nat) (inside : Text)
  | nothingToClose (position : Nat)
  | parameters (wording : Text)
  | component (fault : ComponentFault)
  deriving DecidableEq, Repr

/-- The opening bracket. -/
def opening : CodePoint := '['

/-- The code points that a tag may start with. -/
def startsTag (c : CodePoint) : Bool :=
  decide (0x61 ≤ c.toNat ∧ c.toNat ≤ 0x7A) || c = '#' || c = '/' || c = '@'

/-- The inside of the tag that a text starts with: it goes up to the first closing bracket and holds
no opening one. -/
def insideOfTag? : Text → Option Text
  | b :: first :: rest =>
      let more := rest.takeWhile fun c : CodePoint => !(c = ']' || c = opening)
      if b = opening ∧ startsTag first ∧
          (rest.drop more.length).head? = some (CodePoint.ofChar ']') then some (first :: more)
      else none
  | _ => none

/-- A backslash. -/
def backslash : CodePoint := '\\'

/-- Plain text in front of pieces. -/
def addPlain (t : Text) : List Piece → List Piece
  | .plain u :: rest => .plain (t ++ u) :: rest
  | rest => .plain t :: rest

/-- Text that is shown as it is in front of pieces. -/
def addLiteral (t : Text) (rest : List Piece) : List Piece :=
  if t.isEmpty then rest else .literal t :: rest

/-- The pieces of a message from a position on, after a number of code points that belong to a tag
which was read already.  `slashes` counts the backslashes right before: two of them before a tag
stand for one, and one left over makes the tag plain text. -/
def piecesAfter (position skip slashes : Nat) : Text → List Piece
  | [] => if slashes = 0 then [] else [.plain (List.replicate slashes backslash)]
  | c :: rest =>
      match skip with
      | skip + 1 => piecesAfter (position + 1) skip 0 rest
      | 0 =>
          if c = backslash then piecesAfter (position + 1) 0 (slashes + 1) rest
          else
            match insideOfTag? (c :: rest) with
            | some inside =>
                let after := piecesAfter (position + 1) (inside.length + 1) 0 rest
                addLiteral (List.replicate (slashes / 2) backslash)
                  (if slashes % 2 = 1 then addLiteral (c :: inside ++ Text.ofString "]") after
                  else .tag position inside :: after)
            | none =>
                addPlain (List.replicate slashes backslash ++ [c])
                  (piecesAfter (position + 1) 0 0 rest)

/-- The pieces of a message. -/
def pieces (message : Text) : List Piece :=
  piecesAfter 0 0 0 message

/-- Plain text in which a backslash before an opening bracket is left out. -/
def dropEscapes : Text → Text
  | [] => []
  | [c] => [c]
  | c :: d :: rest =>
      if c = backslash ∧ d = opening then dropEscapes (d :: rest)
      else c :: dropEscapes (d :: rest)

/-- Whether a tag can give the components of a colour. -/
def Piece.hasParenthesis : Piece → Bool
  | .tag _ inside => inside.contains (CodePoint.ofChar '(')
  | _ => false

end Markup

/-- **What prints messages**: how many columns it has, what it finds wrong with the parameters of a
handler, and which component of a colour is at fault in a style that it paints.  Components are given
in parentheses, so without these in a tag no style is at fault. -/
structure Console where
  columns : Nat
  parameterFault? : Text → Option Text
  paintFault? : Text → Option ComponentFault
  paintFault?_eq_none : ∀ message,
    (∀ piece ∈ Markup.pieces message, piece.hasParenthesis = false) → paintFault? message = none

namespace Markup

/-- The name in a tag: what stands before an equals sign. -/
def tagName (inside : Text) : Text :=
  inside.takeWhile fun c : CodePoint => !decide (c = '=')

/-- The parameters in a tag: what stands behind the equals sign. -/
def tagParameters (inside : Text) : Text :=
  inside.drop ((tagName inside).length + 1)

/-- A style that is open: its normal name, and the parameters of the tag that opened it. -/
structure OpenTag where
  name : Text
  parameters : Text
  deriving DecidableEq, Repr

/-- Whether a tag calls a handler. -/
def OpenTag.isHandler (tag : OpenTag) : Bool :=
  decide (tag.name.head? = some (CodePoint.ofChar '@'))

/-- Closing a tag reads the parameters of a handler. -/
def OpenTag.close (console : Console) (tag : OpenTag) : Except Fault Unit :=
  if tag.isHandler && !tag.parameters.isEmpty then
    match console.parameterFault? tag.parameters with
    | some wording => .error (.parameters wording)
    | none => .ok ()
  else .ok ()

/-- Takes out the tag that was opened last among those of a normal name. -/
def takeOut? (name : Text) : List OpenTag → Option (OpenTag × List OpenTag)
  | [] => none
  | tag :: rest =>
      if tag.name = name then some (tag, rest)
      else (takeOut? name rest).map fun (found, left) => (found, tag :: left)

/-- What is shown of pieces, given the tags that are open, the last one first. -/
def shown (console : Console) (tags : List OpenTag) : List Piece → Except Fault Text
  | [] => .ok []
  | .plain t :: rest => (shown console tags rest).map (showEmoji (dropEscapes t) ++ ·)
  | .literal t :: rest => (shown console tags rest).map (showEmoji t ++ ·)
  | .tag position inside :: rest =>
      match inside with
      | [] => shown console tags rest
      | c :: body =>
          if c = '/' then
            let name := Text.trim (tagName body)
            if name.isEmpty then
              match tags with
              | [] => .error (.nothingToClose position)
              | tag :: below => do
                  tag.close console
                  shown console below rest
            else
              match normalName name with
              | .ok name =>
                  match takeOut? name tags with
                  | some (tag, left) => do
                      tag.close console
                      shown console left rest
                  | none => .error (.unmatched position inside)
              | .error fault => .error (.component fault)
          else
            match normalName (tagName inside) with
            | .ok name => shown console (⟨name, tagParameters inside⟩ :: tags) rest
            | .error fault => .error (.component fault)

/-- What is shown of a message. -/
def plainText (console : Console) (message : Text) : Except Fault Text := do
  let t ← shown console [] (pieces message)
  match console.paintFault? message with
  | some fault => .error (.component fault)
  | none => .ok t

/-- The component that is at fault in the style of a piece that opens a tag, once its parameters are
added to its name. -/
def Piece.paintFault? (piece : Piece) : Option ComponentFault :=
  match piece with
  | .tag _ inside =>
      if inside.head? = some (CodePoint.ofChar '/') ∨ inside.head? = some (CodePoint.ofChar '@') then
        none
      else
        match normalName (tagName inside) with
        | .error _ => none
        | .ok name =>
            match normalName (name ++ " " ++ tagParameters inside) with
            | .error fault => some fault
            | .ok _ => none
  | _ => none

/-- The wording of a fault. -/
def Fault.message : Fault → Text
  | .unmatched position inside =>
      "closing tag '[" ++ inside ++ "]' at position " ++ Text.ofNat position ++
        " doesn't match any open tag"
  | .nothingToClose position =>
      "closing tag '[/]' at position " ++ Text.ofNat position ++ " has nothing to close"
  | .parameters wording => wording
  | .component fault => fault.message

end Markup

/-- The console that takes the parameters of all handlers and looks at every style in a message. -/
def Console.ofColumns (columns : Nat) : Console where
  columns := columns
  parameterFault? := fun _ => none
  paintFault? := fun message =>
    (Markup.pieces message).findSome? fun piece =>
      if piece.hasParenthesis then piece.paintFault? else none
  paintFault?_eq_none := by
    intro message h
    rw [List.findSome?_eq_none_iff]
    intro piece hpiece
    rw [h piece hpiece, if_neg Bool.false_ne_true]

end CurlRequest.Terminal
