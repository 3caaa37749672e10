import CurlRequest.Text.Quoted

/-!
# Arguments of a command line

Options and other arguments may be mixed.  A long option has its value behind an equals sign or in
the next argument.  Short options that take no value can be joined behind one dash, and the last of
them may take the rest as its value.  Two dashes end the options, and one dash alone is no option.

**Contents.**
* `OptionSpec`, `helpOptions`: an option that a command knows, and the one that all of them know.
* `UsageFault`: why arguments are refused.
* `parseArguments`: the options that are given, with their values, and the other arguments.
-/

namespace CurlRequest.CommandLine

/-- An option that a command knows. -/
structure OptionSpec (κ : Type) where
  key : κ
  names : List Text
  takesValue : Bool

/-- The option of a command that has no other. -/
inductive HelpOption
  | help
  deriving DecidableEq, Repr

/-- The option that every command has, by itself. -/
def helpOptions : List (OptionSpec HelpOption) := [⟨.help, ["--help"], false⟩]

/-- Why arguments are refused. -/
inductive UsageFault
  | noSuchOption (name : Text)
  | valueMissing (name : Text)
  | valueUnwanted (name : Text)
  | extraArguments (arguments : List Text)
  | noSuchCommand (name : Text)
  | commandMissing
  | badFormat
  deriving DecidableEq, Repr

/-- The wording of a fault. -/
def UsageFault.message : UsageFault → Text
  | .noSuchOption name => "No such option: " ++ name
  | .valueMissing name => "Option " ++ name.quoted ++ " requires an argument."
  | .valueUnwanted name => "Option " ++ name.quoted ++ " does not take a value."
  | .extraArguments arguments =>
      "Got unexpected extra argument(s) (" ++ Text.join " " arguments ++ ")"
  | .noSuchCommand name => "No such command " ++ name.quoted ++ "."
  | .commandMissing => "Missing command."
  | .badFormat => "Invalid value for --format: must be 'text' or 'json'"

/-- Options with their values, and the other arguments.  An option without a value has an empty
one. -/
structure Arguments (κ : Type) where
  options : List (κ × Text)
  others : List Text

namespace Arguments

variable {κ : Type}

/-- The arguments with an option in front. -/
def addOption (key : κ) (value : Text) (a : Arguments κ) : Arguments κ :=
  { a with options := (key, value) :: a.options }

/-- The arguments with several options in front. -/
def addOptions (options : List (κ × Text)) (a : Arguments κ) : Arguments κ :=
  { a with options := options ++ a.options }

/-- The arguments with one that is no option in front. -/
def addOther (other : Text) (a : Arguments κ) : Arguments κ :=
  { a with others := other :: a.others }

/-- All values of an option, in order. -/
def values [DecidableEq κ] (key : κ) (a : Arguments κ) : List Text :=
  (a.options.filter fun option => option.1 = key).map Prod.snd

/-- The last value of an option. -/
def value? [DecidableEq κ] (key : κ) (a : Arguments κ) : Option Text :=
  (a.values key).getLast?

/-- Whether an option is given. -/
def has [DecidableEq κ] (key : κ) (a : Arguments κ) : Bool :=
  !(a.values key).isEmpty

end Arguments

variable {κ : Type}

/-- The mark of an option. -/
def dash : CodePoint := '-'

/-- The option with a name. -/
def findOption? (specs : List (OptionSpec κ)) (name : Text) : Option (OptionSpec κ) :=
  specs.find? fun spec => spec.names.contains name

/-- The name and the value of a long option in one argument. -/
def splitLong (argument : Text) : Text × Option Text :=
  match Text.cutAt? '=' argument with
  | some (name, value) => (name, some value)
  | none => (argument, none)

/-- Whether an argument is an option: it has a dash and something behind it. -/
def isOption (argument : Text) : Bool :=
  argument.head? = some dash && decide (1 < argument.length)

/-- Whether an argument starts with two dashes. -/
def isLong (argument : Text) : Bool :=
  [dash, dash].isPrefixOf argument

/-- The options that are joined behind one dash.  The second part says whether the next argument is
the value of the last of them. -/
def parseJoined (specs : List (OptionSpec κ)) (next : Option Text) :
    (letters : Text) → Except UsageFault (List (κ × Text) × Bool)
  | [] => .ok ([], false)
  | c :: rest =>
      match findOption? specs [dash, c] with
      | none => .error (.noSuchOption [dash, c])
      | some spec =>
          if spec.takesValue then
            if rest.isEmpty then
              match next with
              | none => .error (.valueMissing [dash, c])
              | some value => .ok ([(spec.key, value)], true)
            else .ok ([(spec.key, rest)], false)
          else
            (parseJoined specs next rest).map fun (options, usesNext) =>
              ((spec.key, []) :: options, usesNext)

/-- The options and the other arguments.  Where `mixed` does not hold, the first argument that is no
option ends the options. -/
def parseArguments (specs : List (OptionSpec κ)) (mixed : Bool) :
    List Text → Except UsageFault (Arguments κ)
  | [] => .ok ⟨[], []⟩
  | argument :: rest =>
      if argument = [dash, dash] then .ok ⟨[], rest⟩
      else if isOption argument then
        let (name, attached) := splitLong argument
        match if isLong name then findOption? specs name else none with
        | some spec =>
            if spec.takesValue then
              match attached, rest with
              | some value, rest =>
                  (parseArguments specs mixed rest).map (·.addOption spec.key value)
              | none, value :: rest =>
                  (parseArguments specs mixed rest).map (·.addOption spec.key value)
              | none, [] => .error (.valueMissing name)
            else
              match attached with
              | some _ => .error (.valueUnwanted name)
              | none => (parseArguments specs mixed rest).map (·.addOption spec.key [])
        | none =>
            if isLong argument then .error (.noSuchOption name)
            else
              match parseJoined specs rest.head? (argument.drop 1) with
              | .error fault => .error fault
              | .ok (options, usesNext) =>
                  match usesNext, rest with
                  | true, _ :: rest => (parseArguments specs mixed rest).map (·.addOptions options)
                  | _, rest => (parseArguments specs mixed rest).map (·.addOptions options)
      else if mixed then (parseArguments specs mixed rest).map (·.addOther argument)
      else .ok ⟨[], argument :: rest⟩

/-- At most a number of arguments that are no options. -/
def limitOthers (limit : Nat) (a : Arguments κ) : Except UsageFault (Arguments κ) :=
  if a.others.length ≤ limit then .ok a else .error (.extraArguments (a.others.drop limit))

end CurlRequest.CommandLine
