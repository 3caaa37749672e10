import CurlRequest.Json.Truth

/-!
# Flags of the command

Five flags can be set on a command.  Each has a token on the command line, and two names by which
requests and settings know it.  A set of flags is a choice for each of them; their order is always
the order of declaration.

**Contents.**
* `Flag`: the flags, their names, tokens and labels.
* `Flags`: sets of flags, their union and the list of those that are set.
* `Flags.ofNames`: the set that a list of names selects, unknown names having no effect.
* `Flags.ofMembers`: the set that an object describes.
* `Flags.ofMapping`: the set that a mapping describes, which need not be given.
* `FlagName`, `Flags.named`: the set that flags and names select, by way of such an object.
* `Flags.merged`: the set that the flags of two sets select.
-/

namespace CurlRequest.Curl

/-- A flag of the command. -/
inductive Flag
  | verbose
  | insecure
  | includeHeaders
  | silent
  | followRedirects
  deriving DecidableEq, Repr

namespace Flag

/-- The flags in order. -/
def all : List Flag := [verbose, insecure, includeHeaders, silent, followRedirects]

/-- The name that requests use. -/
def name : Flag → Text
  | verbose => "verbose"
  | insecure => "insecure"
  | includeHeaders => "includeHeaders"
  | silent => "silent"
  | followRedirects => "followRedirects"

/-- The name that settings use. -/
def fieldName : Flag → Text
  | verbose => "verbose"
  | insecure => "insecure"
  | includeHeaders => "include_headers"
  | silent => "silent"
  | followRedirects => "follow_redirects"

/-- The word on the command line. -/
def token : Flag → Text
  | verbose => "-v"
  | insecure => "-k"
  | includeHeaders => "-i"
  | silent => "-s"
  | followRedirects => "-L"

/-- What the flag does. -/
def label : Flag → Text
  | verbose => "Show request/response details"
  | insecure => "Allow insecure SSL connections"
  | includeHeaders => "Include response headers in output"
  | silent => "Silent mode (no progress meter)"
  | followRedirects => "Follow redirects"

/-- The flag with a name of either kind. -/
def ofAnyName? (name : Text) : Option Flag :=
  all.find? fun f => f.name = name || f.fieldName = name

end Flag

/-- A set of flags. -/
structure Flags where
  verbose : Bool
  insecure : Bool
  includeHeaders : Bool
  silent : Bool
  followRedirects : Bool
  deriving DecidableEq, Repr

namespace Flags

/-- No flag. -/
def none : Flags := ⟨false, false, false, false, false⟩

/-- Whether a flag is set. -/
def isSet (fs : Flags) : Flag → Bool
  | .verbose => fs.verbose
  | .insecure => fs.insecure
  | .includeHeaders => fs.includeHeaders
  | .silent => fs.silent
  | .followRedirects => fs.followRedirects

/-- The flags that a test picks. -/
def ofTest (test : Flag → Bool) : Flags where
  verbose := test .verbose
  insecure := test .insecure
  includeHeaders := test .includeHeaders
  silent := test .silent
  followRedirects := test .followRedirects

/-- The flags that are set, in order. -/
def active (fs : Flags) : List Flag :=
  Flag.all.filter fs.isSet

/-- The flags of either set. -/
def union (fs gs : Flags) : Flags :=
  ofTest fun f => fs.isSet f || gs.isSet f

/-- The flags that a list of names selects. -/
def ofNames (names : List Text) : Flags :=
  ofTest fun f => names.any fun name => Flag.ofAnyName? name = some f

/-- The value that an object gives for a flag, with the name it stands under: the name that requests
use comes first. -/
def choice? (members : List (Text × Json)) (f : Flag) : Option (Text × Json) :=
  match Dictionary.get? f.name members with
  | some v => some (f.name, v)
  | .none => (Dictionary.get? f.fieldName members).map fun v => (f.fieldName, v)

/-- What an object says about a flag; it is off unless mentioned. -/
def check (members : List (Text × Json)) (f : Flag) : Field.Checked Bool :=
  match choice? members f with
  | .none => .ok false
  | some (key, v) => v.checkTruth [.name key]

/-- The set of flags that an object describes. -/
def ofMembers (members : List (Text × Json)) : Field.Checked Flags :=
  (Field.all (Flag.all.map (check members))).map fun _ =>
    ofTest fun f => Field.isYes (check members f)

/-- The set of flags that a mapping describes; one that is not given or has no entries is not looked
at. -/
def ofMapping : Option (Dictionary Json) → Field.Checked Flags
  | some (entry :: rest) => ofMembers (entry :: rest)
  | _ => .ok none

end Flags

/-- What a flag is selected by: the flag itself, or a text that may be a name. -/
inductive FlagName
  | flag (f : Flag)
  | text (t : Text)
  deriving DecidableEq, Repr

namespace FlagName

/-- The flag that is selected; a text that is no name selects none. -/
def flag? : FlagName → Option Flag
  | flag f => some f
  | text t => Flag.ofAnyName? t

/-- The member that switches the selected flag on, under the name that settings use. -/
def switch? (name : FlagName) : Option (Text × Json) :=
  name.flag?.map fun f => (f.fieldName, .bool true)

end FlagName

namespace Flags

/-- The object that switches on what is selected. -/
def switches (names : List FlagName) : Dictionary Json :=
  Dictionary.ofEntries (names.filterMap FlagName.switch?)

/-- The set of flags that is selected. -/
def named (names : List FlagName) : Field.Checked Flags :=
  ofMembers (switches names)

/-- The set that the flags of two sets select. -/
def merged (fs gs : Flags) : Field.Checked Flags :=
  named ((fs.active ++ gs.active).map .flag)

end Flags

end CurlRequest.Curl
