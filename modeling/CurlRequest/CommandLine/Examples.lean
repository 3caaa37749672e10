import CurlRequest.CommandLine.Display
import CurlRequest.CommandLine.Session
import CurlRequest.Curl.Example
import CurlRequest.Json.Writer

/-!
# Example requests on the command line

Without a name the command lists the examples, and with one it prints that example.
-/

namespace CurlRequest.CommandLine

/-- Which example is asked for. -/
structure ExampleQuery where
  name : Option Text
  deriving DecidableEq, Repr

namespace ExampleQuery

/-- What arguments ask for; nothing, if they ask for help. -/
def parse (arguments : List Text) : Except UsageFault (Option ExampleQuery) := do
  let a ← parseArguments helpOptions true arguments
  if a.has .help then pure none
  else do
    let a ← limitOthers 1 a
    pure (some ⟨a.others.head?⟩)

/-- Prints an example or the list of examples. -/
def run (console : Terminal.Console) (query : ExampleQuery) : Program Unit :=
  match query.name with
  | none => Program.display .output (Display.exampleTable Curl.Example.names).render
  | some name =>
      match Curl.Example.find? name with
      | some v => Program.echo (v.pretty ++ "\n")
      | none => do
          Program.say console .error
            ("[red]Unknown example:[/red] " ++ name ++ " (available: " ++
              Text.join ", " Curl.Example.names ++ ")")
          throw (.exit 1)

end ExampleQuery

end CurlRequest.CommandLine
