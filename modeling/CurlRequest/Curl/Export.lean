import CurlRequest.Curl.Command

/-!
# Written forms of a command

A command is exported as a JSON object with one or both renderings, or as a shell script that runs
it with its secrets.
-/

namespace CurlRequest.Curl.Command

/-- The command as a JSON value; the rendering with secrets is there on request only. -/
def toJson (includeFull : Bool) (c : Command) : Json :=
  .obj ((if includeFull then [(Text.ofString "full", Json.str c.full)] else []) ++
    [(Text.ofString "masked", Json.str c.masked)])

/-- The JSON text of a command. -/
def jsonText (includeFull : Bool) (c : Command) : Text :=
  (c.toJson includeFull).pretty ++ "\n"

/-- The script that runs a command. -/
def scriptText (c : Command) : Text :=
  "#!/bin/sh\n" ++ c.full ++ "\n"

end CurlRequest.Curl.Command
