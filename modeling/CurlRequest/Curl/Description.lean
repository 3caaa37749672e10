import CurlRequest.Curl.Request
import CurlRequest.Json.Reader
import CurlRequest.Text.Blank
import CurlRequest.Text.Utf8

/-!
# Descriptions of requests

A request is described by a JSON object, which arrives as text or as octets.  The rules are checked
in a fixed order and the first that is broken decides: octets are UTF-8, the text is not blank, it
is JSON, it is an object, and then `url`, `method` and `headers`, each with the last value given.

**Contents.**
* `Description.toJson`: the JSON value of a description.
* `Request.ofJson`: the request that a value describes.
* `Request.ofDescription`: both in a row.
-/

namespace CurlRequest.Curl

/-- A request description as it arrives. -/
inductive Description
  | text (t : Text)
  | bytes (b : Bytes)

namespace Description

/-- A fault of the JSON reader as a fault of the conversion. -/
def readFault (text : Text) : Json.ReadFault → ConvertFault
  | .tooDeep => .tooDeep
  | fault => .request (.malformed (fault.message text))

/-- The JSON value of a text. -/
def textToJson (t : Text) : Except ConvertFault Json :=
  if t.isBlank then .error (.request .emptyInput)
  else (Json.read .strict t).mapError (readFault t)

/-- The JSON value of a description. -/
def toJson : Description → Except ConvertFault Json
  | text t => textToJson t
  | bytes b =>
      match Utf8.decode b with
      | .ok t => textToJson t
      | .error fault => .error (.request (.malformed fault.message))

end Description

namespace Request

/-- The header lines of an object: all members in order, but those without a name and those whose
value is `null`. -/
def headersOf : List (Text × Json) → Except Json.WriteFault (List Header)
  | [] => .ok []
  | (name, value) :: rest =>
      match value with
      | .null => headersOf rest
      | value =>
          if name.isEmpty then headersOf rest
          else do
            let text ← value.toText
            let headers ← headersOf rest
            pure (⟨name, text⟩ :: headers)

/-- The URL of an object. -/
def urlOf (members : List (Text × Json)) : Except RequestFault Text :=
  match Dictionary.get? "url" members with
  | some (.str url) => if url.isEmpty then .error .badUrl else .ok url
  | _ => .error .badUrl

/-- The method of an object; the usual one if none is given. -/
def methodOf (members : List (Text × Json)) : Except RequestFault Text :=
  match Dictionary.get? "method" members with
  | none => .ok "GET"
  | some .null => .ok "GET"
  | some (.str method) => .ok (if method.isEmpty then "GET" else method)
  | some _ => .error .badMethod

/-- The members of the `headers` of an object. -/
def headerMembersOf (members : List (Text × Json)) : Except RequestFault (List (Text × Json)) :=
  match Dictionary.get? "headers" members with
  | none => .ok []
  | some .null => .ok []
  | some (.obj headers) => .ok headers
  | some _ => .error .badHeaders

/-- The request that a value describes. -/
def ofJson : Json → Except ConvertFault Request
  | .obj members => do
      let url ← (urlOf members).mapError .request
      let method ← (methodOf members).mapError .request
      let headerMembers ← (headerMembersOf members).mapError .request
      let headers ← (headersOf headerMembers).mapError .unwritable
      (make url method headers ((Dictionary.get? "body" members).getD .null)).mapError .fields
  | _ => .error (.request .notAnObject)

/-- The request that a description describes. -/
def ofDescription (d : Description) : Except ConvertFault Request := do
  ofJson (← d.toJson)

end Request

end CurlRequest.Curl
