import CurlRequest.Dictionary
import CurlRequest.Text.Blank

/-!
# Loading files of variable assignments

A file holds assignments `NAME=value`, each perhaps after the word `export`.  A value may stand
between quotes, where it may go over several lines; otherwise it ends with its line or before a
number sign that follows a blank.  Inside a value `${NAME}` stands for a variable that was assigned
before or that the environment has, and `${NAME:-text}` for `text` if there is none.  A statement
that cannot be read is skipped up to the end of its line.

These are the rules of release 1.2 of python-dotenv.  In it a backslash between quotes takes the next
code point with it, a number sign behind an equals sign and a blank begins a comment, and one mark of
the byte order at the beginning is dropped.

**Contents.**
* `Statement`, `statements`: the statements in a text and their lines; a name alone has no value.
* `unreadableLines`: where the statements are that cannot be read.
* `expand`: a value with its references replaced.
* `load`: the variables that a text assigns.
-/

namespace CurlRequest.EnvFile

/-- The ends of a line. -/
def isLineEnd (c : CodePoint) : Bool :=
  c = '\n' || c = '\r'

/-- A blank that does not end a line. -/
def isInnerBlank (c : CodePoint) : Bool :=
  c.isBlank && !isLineEnd c

/-- What follows the blanks of a line. -/
def skipInner (s : Text) : Text :=
  s.dropWhile isInnerBlank

/-- What follows the end of a line; a carriage return and a line feed are two ends. -/
def skipLine (s : Text) : Text :=
  (s.dropWhile fun c => !isLineEnd c).drop 1

/-! ## Quoted values -/

/-- The content of a quoted value and what follows it.  A backslash takes the next code point with
it, so that neither an escaped quote nor an escaped backslash ends the value by itself. -/
def cutQuoted? (quote : CodePoint) : Text → Option (Text × Text)
  | [] => none
  | [c] => if c = quote then some ([], []) else none
  | c :: d :: rest =>
      if c = quote then some ([], d :: rest)
      else if c = '\\' then
        (cutQuoted? quote rest).map fun (before, after) => (c :: d :: before, after)
      else
        (cutQuoted? quote (d :: rest)).map fun (before, after) => (c :: before, after)

/-- What a backslash and a code point stand for between single quotes. -/
def singleEscape? (c : CodePoint) : Option CodePoint :=
  if c = '\\' ∨ c = '\x27' then some c else none

/-- What a backslash and a code point stand for between double quotes. -/
def doubleEscape? (c : CodePoint) : Option CodePoint :=
  if c = '\\' ∨ c = '\x27' ∨ c = '\x22' then some c
  else if c = 'a' then some '\x07'
  else if c = 'b' then some '\x08'
  else if c = 'f' then some '\x0c'
  else if c = 'n' then some '\n'
  else if c = 'r' then some '\r'
  else if c = 't' then some '\t'
  else if c = 'v' then some '\x0b'
  else none

/-- A text with its escapes replaced; a backslash that begins none stays. -/
def unescape (escape? : CodePoint → Option CodePoint) : Text → Text
  | [] => []
  | [c] => [c]
  | c :: d :: rest =>
      if c = '\\' then
        match escape? d with
        | some e => e :: unescape escape? rest
        | none => c :: unescape escape? (d :: rest)
      else c :: unescape escape? (d :: rest)

/-! ## Statements -/

/-- A value without quotes up to a comment, which begins with a number sign after a blank. -/
def dropComment (afterBlank : Bool) : Text → Text
  | [] => []
  | c :: rest =>
      if c = '#' ∧ afterBlank then [] else c :: dropComment c.isBlank rest

/-- The value at the start of a text, perhaps after a blank, and what follows it. -/
def readValue? (afterBlank : Bool) : Text → Option (Text × Text)
  | [] => some ([], [])
  | c :: rest =>
      if c = '\x27' then
        (cutQuoted? c rest).map fun (content, rest) => (unescape singleEscape? content, rest)
      else if c = '\x22' then
        (cutQuoted? c rest).map fun (content, rest) => (unescape doubleEscape? content, rest)
      else if isLineEnd c then some ([], c :: rest)
      else
        let line := (c :: rest).takeWhile fun c => !isLineEnd c
        some (Text.trimEnd (dropComment afterBlank line),
          (c :: rest).dropWhile fun c => !isLineEnd c)

/-- The name at the start of a text and what follows it; a comment has none. -/
def readName? : Text → Option (Option Text × Text)
  | [] => none
  | c :: rest =>
      if c = '#' then some (none, c :: rest)
      else if c = '\x27' then
        match Text.cutAt? c rest with
        | some (name, rest) => if name.isEmpty then none else some (some name, rest)
        | none => none
      else
        let inName (c : CodePoint) : Bool := !(c = '=' || c = '#' || c.isBlank)
        let name := (c :: rest).takeWhile inName
        if name.isEmpty then none else some (some name, (c :: rest).dropWhile inName)

/-- What follows the word `export` and blanks, if they are there. -/
def skipExport (s : Text) : Text :=
  match Text.after? "export" s with
  | some (c :: rest) => if isInnerBlank c then skipInner rest else s
  | _ => s

/-- What follows a comment, blanks and the end of the line; nothing else may stand there. -/
def finishLine? (s : Text) : Option Text :=
  let s := skipInner s
  let s :=
    match s with
    | c :: _ => if c = '#' then s.dropWhile fun c => !isLineEnd c else s
    | [] => s
  match s with
  | [] => some []
  | c :: rest =>
      if c = '\r' ∧ rest.head? = some (CodePoint.ofChar '\n') then some (rest.drop 1)
      else if isLineEnd c then some rest
      else none

/-- A piece of a file: a comment, a name with the value if it is assigned one, or something that
cannot be read. -/
inductive Statement
  | comment
  | assign (name : Text) (value : Option Text)
  | unreadable
  deriving DecidableEq, Repr

/-- One statement and what follows its line.  A statement that cannot be read is skipped from the
place where its reading stopped. -/
def readStatement (s : Text) : Statement × Text :=
  let s := skipExport s
  match readName? s with
  | none => (.unreadable, skipLine s)
  | some (name, rest) =>
      let rest := skipInner rest
      let value? : Option (Option Text × Text) :=
        match rest with
        | [] => some (none, [])
        | c :: after =>
            if c = '=' then
              (readValue? (after.head?.any isInnerBlank) (skipInner after)).map
                fun (value, rest) => (some value, rest)
            else some (none, rest)
      match value? with
      | none => (.unreadable, skipLine (skipInner (rest.drop 1)))
      | some (value, rest) =>
          match finishLine? rest, name with
          | some next, some name => (.assign name value, next)
          | some next, none => (.comment, next)
          | none, _ => (.unreadable, skipLine rest)

/-- How many lines end in a text; a carriage return and a line feed after it end one line. -/
def lineEnds : Text → Nat
  | [] => 0
  | c :: rest =>
      if c = '\r' ∧ rest.head? = some (CodePoint.ofChar '\n') then lineEnds rest
      else if isLineEnd c then lineEnds rest + 1
      else lineEnds rest

/-- A statement and the number of its line.  Blank lines before a statement belong to it, so that
its line is the one after the statement before. -/
structure Entry where
  line : Nat
  statement : Statement
  deriving DecidableEq, Repr

/-- The statements in a text that begins on a given line.  Each takes at least one code point, which
bounds their number. -/
def statementsWithin : (bound line : Nat) → Text → List Entry
  | 0, _, _ => []
  | bound + 1, line, s =>
      match s.dropWhile CodePoint.isBlank with
      | [] => []
      | c :: rest =>
          let (statement, next) := readStatement (c :: rest)
          let taken := s.take (s.length - next.length)
          ⟨line, statement⟩ :: statementsWithin bound (line + lineEnds taken) next

/-- A text without the byte-order mark that it may begin with. -/
def dropMark : Text → Text
  | [] => []
  | c :: rest => if c = '\ufeff' then rest else c :: rest

/-- The statements in a text, lines being counted from one. -/
def statements (t : Text) : List Entry :=
  statementsWithin (t.length + 1) 1 (dropMark t)

/-- The names in a text, each with the value if it is assigned one. -/
def assignments (t : Text) : List (Text × Option Text) :=
  (statements t).filterMap fun entry =>
    match entry.statement with
    | .assign name value => some (name, value)
    | _ => none

/-- The lines of the statements that cannot be read. -/
def unreadableLines (t : Text) : List Nat :=
  ((statements t).filter fun entry => entry.statement = .unreadable).map Entry.line

/-! ## References -/

/-- A reference to a variable: its name, the text that stands in for it, and its length. -/
structure Reference where
  name : Text
  fallback : Text
  length : Nat
  deriving DecidableEq, Repr

/-- The reference that a text starts with. -/
def reference? (s : Text) : Option Reference :=
  match Text.after? "$\x7b" s with
  | none => none
  | some body =>
      let name := body.takeWhile fun c : CodePoint => !(c = '\x7d' || c = ':')
      let rest := body.drop name.length
      match Text.after? ":-" rest with
      | some tail =>
          let fallback := tail.takeWhile fun c : CodePoint => !decide (c = '\x7d')
          if (tail.drop fallback.length).isEmpty then none
          else some ⟨name, fallback, name.length + fallback.length + 5⟩
      | none =>
          if rest.head? = some (CodePoint.ofChar '\x7d') then some ⟨name, [], name.length + 3⟩
          else none

/-- A value with its references replaced, after a number of code points that belong to a reference
which was replaced already. -/
def expandAfter (meaning : Reference → Text) (skip : Nat) : Text → Text
  | [] => []
  | c :: rest =>
      match skip with
      | skip + 1 => expandAfter meaning skip rest
      | 0 =>
          match reference? (c :: rest) with
          | some r => meaning r ++ expandAfter meaning (r.length - 1) rest
          | none => c :: expandAfter meaning 0 rest

/-- What a reference stands for: a variable that was assigned before it comes before one of the
environment, and one that was named without a value stands for nothing. -/
def meaning (environment : Dictionary Text) (assigned : Dictionary (Option Text))
    (r : Reference) : Text :=
  match assigned.get? r.name with
  | some value => value.getD []
  | none => (environment.get? r.name).getD r.fallback

/-- A value with its references replaced. -/
def expand (environment : Dictionary Text) (assigned : Dictionary (Option Text)) (value : Text) :
    Text :=
  expandAfter (meaning environment assigned) 0 value

/-- The variables that a text assigns in a given environment; the last statement for a name counts,
and a name without a value is kept as such. -/
def load (environment : Dictionary Text) (t : Text) : Dictionary (Option Text) :=
  (assignments t).foldl
    (fun assigned (name, value) =>
      Dictionary.put name (value.map (expand environment assigned)) assigned)
    []

end CurlRequest.EnvFile
