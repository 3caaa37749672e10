import CurlRequest.Terminal.EmojiTable
import CurlRequest.Text.Blank
import CurlRequest.Text.Case
import CurlRequest.Text.Lines

/-!
# Emoji by name

In a message a name between two colons stands for an emoji.  The name may end in a choice of how the
emoji is shown: as a picture or as text.  A name that no emoji has is left as it is, together with
both of its colons.

**Contents.**
* `emoji?`: the emoji with a name.
* `showEmoji`: a text with the names replaced.
-/

namespace CurlRequest.Terminal

/-- The emoji of a name in one entry of the table. -/
def pictureIn? (name entry : Text) : Option Text :=
  match Text.cutAt? '=' entry with
  | some (known, picture) => if known = name then some picture else none
  | none => none

/-- The emoji with a name in lower case. -/
def emoji? (name : Text) : Option Text :=
  emojiLines.findSome? fun line : String =>
    (Text.splitBy (fun c => decide (c = ' ')) (Text.ofString line)).findSome? (pictureIn? name)

/-- A name between colons. -/
structure EmojiName where
  name : Text
  style : Text
  length : Nat
  deriving DecidableEq, Repr

/-- The end of a name: perhaps a choice of style, and a colon. -/
def emojiEnd? (s : Text) : Option (Text × Nat) :=
  if (Text.ofString "-emoji:").isPrefixOf s then some ("\ufe0f", 7)
  else if (Text.ofString "-text:").isPrefixOf s then some ("\ufe0e", 6)
  else if (Text.ofString ":").isPrefixOf s then some ([], 1)
  else none

/-- The name that goes on in a text up to its first end.  There are no blanks in it. -/
def emojiName? (name : Text) : Text → Option EmojiName
  | [] => none
  | c :: rest =>
      match emojiEnd? (c :: rest) with
      | some (style, length) => some ⟨name, style, name.length + length⟩
      | none => if c.isBlank then none else emojiName? (name ++ [c]) rest

/-- A text with names of emoji replaced, after a number of code points of a name that was shown
already. -/
def showEmojiAfter (skip : Nat) : Text → Text
  | [] => []
  | c :: rest =>
      match skip with
      | skip + 1 => showEmojiAfter skip rest
      | 0 =>
          match if c = ':' then emojiName? [] rest else none with
          | none => c :: showEmojiAfter 0 rest
          | some found =>
              let shown :=
                match emoji? (Text.lower found.name) with
                | some picture => picture ++ found.style
                | none => c :: rest.take found.length
              shown ++ showEmojiAfter found.length rest

/-- A text with names of emoji replaced. -/
def showEmoji (t : Text) : Text :=
  showEmojiAfter 0 t

end CurlRequest.Terminal
