import CurlRequest.Dictionary
import CurlRequest.File.Path

/-!
# Where the user's settings live

The directory depends on the platform and on a few variables of the environment.
-/

namespace CurlRequest.Settings

/-- Variables of the environment. -/
abbrev Environment := Dictionary Text

/-- The conventions that a platform follows. -/
inductive Platform
  | windows
  | mac
  | other
  deriving DecidableEq, Repr

/-- The platform with a system name. -/
def Platform.ofName (name : Text) : Platform :=
  if (Text.ofString "win").isPrefixOf name then .windows
  else if name = Text.ofString "darwin" then .mac
  else .other

/-- The home directory; slashes at its end do not count.  Without one it is the superuser's. -/
def homeDirectory (environment : Environment) : Path :=
  let home := (environment.get? "HOME").getD "/root"
  let kept := (home.reverse.dropWhile (· = Path.separator)).reverse
  Path.ofText (if kept.isEmpty then "/" else kept)

/-- The directory of the user's settings. -/
def directory (platform : Platform) (environment : Environment) : Path :=
  let home := homeDirectory environment
  let base : Path :=
    match platform with
    | .windows =>
        match environment.get? "APPDATA" with
        | some base => Path.ofText base
        | none => home
    | .mac => (home.child "Library").child "Application Support"
    | .other =>
        match environment.get? "XDG_CONFIG_HOME" with
        | some base => if base.isEmpty then home.child ".config" else Path.ofText base
        | none => home.child ".config"
  base.child "json2curl"

/-- The file of the user's variables. -/
def userFile (platform : Platform) (environment : Environment) : Path :=
  (directory platform environment).child ".env"

end CurlRequest.Settings
