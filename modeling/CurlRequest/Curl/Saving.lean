import CurlRequest.Curl.Export
import CurlRequest.File.Tree

/-!
# Saved commands

A command is saved in either of its written forms.  The directory is created where it is missing.  A
script holds secrets, so it is closed to everybody but its owner before anything is written to it,
also where a more open file was there already.
-/

namespace CurlRequest.Curl.Command

/-- The permission bits of a script: all for the owner, none for others. -/
def scriptMode : Nat := 0o700

/-- What happens to the file of a script before the text is written. -/
def scriptPreparation : List FileStep := [.openEmpty scriptMode, .setMode scriptMode]

/-- Saves the JSON form of a command. -/
def saveJson (includeFull : Bool) (c : Command) (p : Path) : FileAction Unit := do
  FileAction.makeDirectories p.parent
  FileAction.writeText p (c.jsonText includeFull)

/-- Saves the script form of a command. -/
def saveScript (c : Command) (p : Path) : FileAction Unit := do
  FileAction.makeDirectories p.parent
  FileAction.writeAfter p scriptPreparation c.scriptText

end CurlRequest.Curl.Command
