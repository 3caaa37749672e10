import CurlRequest.Curl.Description
import CurlRequest.Curl.Flag
import CurlRequest.Shell.Quoting

/-!
# Commands

A command is a sequence of parts, one on each line.  A part has a fixed word, an argument that is
quoted, or both, and the part of a secret header also has what is shown instead.  The two renderings
of a command take the same parts and differ in these places only.

**Contents.**
* `Part`, `Part.render`, `render`: parts and their text.
* `Request.parts`: program name, flags, method, headers, body and URL, in this order.
* `Command`, `Command.ofRequest`, `Command.ofDescription`: both renderings of a request.
-/

namespace CurlRequest.Curl

/-- What a part of a command is for. -/
inductive PartKind
  | command
  | option
  | method
  | header
  | body
  | url
  deriving DecidableEq, Repr

/-- The name of a kind. -/
def PartKind.name : PartKind → Text
  | .command => "command"
  | .option => "option"
  | .method => "method"
  | .header => "header"
  | .body => "body"
  | .url => "url"

/-- The kind with a name. -/
def PartKind.ofName? (name : Text) : Option PartKind :=
  [PartKind.command, .option, .method, .header, .body, .url].find? fun k => k.name = name

/-- A part of a command: `flag` is written as it is, `argument` is quoted, and `redacted` takes the
place of the argument where secrets are masked. -/
structure Part where
  kind : PartKind
  flag : Option Text
  argument : Option Text
  redacted : Option Text
  deriving DecidableEq, Repr

/-- The argument that is shown. -/
def Part.shownArgument (masked : Bool) (p : Part) : Option Text :=
  if masked then p.redacted.or p.argument else p.argument

/-- The text of a part. -/
def Part.render (masked : Bool) (p : Part) : Text :=
  Text.join " " (p.flag.toList ++ (p.shownArgument masked).toList.map Shell.quote)

/-- A line break between two words of one command, and the indent of the next line. -/
def continuation : Text := " \\\n  "

/-- The text of a command. -/
def render (masked : Bool) (parts : List Part) : Text :=
  Text.join continuation (parts.map (Part.render masked))

/-- The part of a header line. -/
def Header.part (h : Header) : Part where
  kind := .header
  flag := some "-H"
  argument := some h.line
  redacted := if isSensitive h.name then some h.redact.line else none

/-- The part of a flag. -/
def Flag.part (f : Flag) : Part := ⟨.option, some f.token, none, none⟩

namespace Request

/-- The parts that say how a request is made: the program, the flags, and the method unless it is
the usual one. -/
def leadingParts (r : Request) (flags : Flags) : List Part :=
  ⟨.command, some "curl", none, none⟩ ::
    (flags.active.map Flag.part ++
      (if r.method = Text.ofString "GET" then []
        else [⟨.method, some "-X", some r.method, none⟩]))

/-- The part of the body, if there is one. -/
def bodyParts (r : Request) : Except Json.WriteFault (List Part) :=
  if r.hasBody then r.body.toText.map fun text => [⟨.body, some "-d", some text, none⟩]
  else .ok []

/-- The parts of the command for a request. -/
def parts (r : Request) (flags : Flags) : Except Json.WriteFault (List Part) := do
  let body ← r.bodyParts
  pure (r.leadingParts flags ++ r.headers.map Header.part ++ body ++
    [⟨.url, none, some r.url, none⟩])

end Request

/-- A command with its secrets and without. -/
structure Command where
  full : Text
  masked : Text
  deriving DecidableEq, Repr

namespace Command

/-- Both renderings of parts. -/
def ofParts (parts : List Part) : Command :=
  ⟨render false parts, render true parts⟩

/-- The command for a request. -/
def ofRequest (r : Request) (flags : Flags) : Except Json.WriteFault Command :=
  (r.parts flags).map ofParts

/-- The command for a described request. -/
def ofDescription (d : Description) (flags : Flags) : Except ConvertFault Command := do
  let request ← Request.ofDescription d
  (ofRequest request flags).mapError .unwritable

end Command

end CurlRequest.Curl
