import CurlRequest.Dictionary
import CurlRequest.File.Tree
import CurlRequest.Text.Blank

/-!
# The user's file of variables

The program keeps variables in a file of its own making: a comment, and one `NAME=value` line for
each name in order.  Updating the file reads what is there by the simple rules of `parse` and writes
everything again; they are simpler than the rules by which settings are loaded.

**Contents.**
* `UserFile.parse`: the variables in a text.
* `UserFile.render`: the text of variables.
* `UserFile.update`: reads, changes and writes the file.
-/

namespace CurlRequest.UserFile

/-- The variable that a line sets.  Blanks around the name and around the value do not count, and
neither do the double and then the single quotes around the value. -/
def parseLine? (rawLine : Text) : Option (Text × Text) :=
  let line := Text.trim rawLine
  if line.head? = some (CodePoint.ofChar '#') then none
  else
    match Text.cutAt? '=' line with
    | none => none
    | some (before, after) =>
        let name := Text.trim before
        if name.isEmpty then none
        else some (name, Text.stripOf '\x27' (Text.stripOf '\x22' (Text.trim after)))

/-- The variables in a text; of several lines for one name the last counts. -/
def parse (t : Text) : Dictionary Text :=
  Dictionary.ofEntries ((Text.lines t).filterMap parseLine?)

/-- The comment at the top of the file. -/
def heading : Text := "# json2curl user config (.env)"

/-- The line of a variable. -/
def renderLine (entry : Text × Text) : Text :=
  entry.1 ++ "=" ++ entry.2

/-- The text of variables. -/
def render (entries : Dictionary Text) : Text :=
  Text.join "\n" (heading :: entries.sorted.map renderLine) ++ "\n"

/-- Variables after an update; a name without a value is left as it is. -/
def merge (existing : Dictionary Text) (changes : Dictionary (Option Text)) : Dictionary Text :=
  Dictionary.putAll (changes.filterMap fun (name, value) => value.map fun value => (name, value))
    existing

/-- Changes variables in the file at a path, which is created if it is not there. -/
def update (changes : Dictionary (Option Text)) (p : Path) : FileAction Unit := do
  FileAction.makeDirectories p.parent
  let existing ←
    match ← FileAction.found? p with
    | some _ => do pure (parse (← FileAction.readText p))
    | none => pure []
  FileAction.writeText p (render (merge existing changes))

end CurlRequest.UserFile
