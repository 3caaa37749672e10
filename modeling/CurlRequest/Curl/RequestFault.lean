import CurlRequest.Field
import CurlRequest.Json.Fault
import CurlRequest.Json.Writer

/-!
# Why a request is refused

A request description breaks one of six rules, which are checked in a fixed order.  Each has a kind,
perhaps a field, and a message.  Beyond these a conversion can fail for what the values themselves
are: a URL that is no encodable text, a number that is not finite, or nesting that is too deep.
-/

namespace CurlRequest.Curl

/-- The rule that a request description breaks. -/
inductive RequestFault
  | emptyInput
  | malformed (detail : Text)
  | notAnObject
  | badUrl
  | badMethod
  | badHeaders
  deriving DecidableEq, Repr

namespace RequestFault

/-- The name of the rule. -/
def kind : RequestFault → Text
  | emptyInput => "EmptyInput"
  | malformed _ => "ParseError"
  | notAnObject => "NotAnObject"
  | badUrl => "MissingOrInvalidUrl"
  | badMethod => "InvalidMethod"
  | badHeaders => "InvalidHeaders"

/-- The field that breaks the rule. -/
def field? : RequestFault → Option Text
  | badUrl => some "url"
  | badMethod => some "method"
  | badHeaders => some "headers"
  | _ => none

/-- The wording of the rule. -/
def message : RequestFault → Text
  | emptyInput => "Please provide a JSON object with request details"
  | malformed detail => "Invalid JSON: " ++ detail
  | notAnObject => "Input must be a valid JSON object"
  | badUrl => "URL is required and must be a string"
  | badMethod => "Method must be a string"
  | badHeaders => "Headers must be an object (not array)"

/-- What is wrong with a text that is not JSON. -/
def detail? : RequestFault → Option Text
  | malformed detail => some detail
  | _ => none

end RequestFault

/-- A fault as it is reported.  A caller may give a message of its own. -/
structure FaultReport where
  kind : Text
  field? : Option Text
  message : Text
  detail? : Option Text
  deriving DecidableEq, Repr

/-- The report of a fault; an empty message stands for the usual one. -/
def RequestFault.report (ownMessage : Text) (f : RequestFault) : FaultReport where
  kind := f.kind
  field? := f.field?
  message := if ownMessage.isEmpty then f.message else ownMessage
  detail? := f.detail?

/-- The report of a request that is refused without naming a rule. -/
def FaultReport.general (ownMessage : Text) : FaultReport where
  kind := "ValidationError"
  field? := none
  message := if ownMessage.isEmpty then "Invalid request" else ownMessage
  detail? := none

/-- Why a conversion fails. -/
inductive ConvertFault
  | request (fault : RequestFault)
  | fields (faults : List Field.Fault)
  | unwritable (fault : Json.WriteFault)
  | tooDeep
  deriving DecidableEq, Repr

end CurlRequest.Curl
