import CurlRequest.Curl.Header
import CurlRequest.Curl.RequestFault

/-!
# Requests

A request has a URL, a method in upper case, header lines in order, and a body, which is any JSON
value; `null` and the empty string are no body.

**Contents.**
* `Request.make`: a request from its parts.
* `Request.ofFields`: a request from loosely typed fields, all faults being reported.
* `Request.redact`: the request with what is shown of its secrets.
-/

namespace CurlRequest.Curl

/-- A request. -/
structure Request where
  url : Text
  method : Text
  headers : List Header
  body : Json

namespace Request

/-- Whether the request sends a body. -/
def hasBody (r : Request) : Bool :=
  !r.body.isAbsent

/-- A method in upper case; the empty one is the usual one. -/
def normalizeMethod (method : Text) : Text :=
  let upper := method.upper
  if upper.isEmpty then "GET" else upper

/-- A URL must be there and encodable. -/
def checkUrl (url : Text) : Field.Checked Text :=
  if url.hasSurrogate then Field.fail [.name "url"] .brokenText
  else if url.isEmpty then Field.fail [.name "url"] .emptyText
  else .ok url

/-- A request from its parts. -/
def make (url method : Text) (headers : List Header) (body : Json) : Field.Checked Request :=
  (checkUrl url).map fun url => ⟨url, normalizeMethod method, headers, body⟩

/-- The request in which secrets are replaced by what is shown of them. -/
def redact (r : Request) : Request :=
  { r with headers := r.headers.map Header.redact }

/-- A field that is a text. -/
def checkText (place : List Field.Step) : Json → Field.Checked Text
  | .str s => .ok s
  | _ => Field.fail place .notText

/-- The `url` field. -/
def checkUrlField (fields : List (Text × Json)) : Field.Checked Text :=
  match Dictionary.get? "url" fields with
  | none => Field.fail [.name "url"] .missing
  | some (.str url) => checkUrl url
  | some _ => Field.fail [.name "url"] .notText

/-- The `method` field. -/
def checkMethodField (fields : List (Text × Json)) : Field.Checked Text :=
  match Dictionary.get? "method" fields with
  | none => .ok "GET"
  | some v => checkText [.name "method"] v

/-- A header given as a pair, at its place in the list. -/
def checkPair (index : Nat) (v : Json) : Field.Checked Header :=
  let place : List Field.Step := [.name "headers", .index index]
  let member (i : Nat) (v : Option Json) : Field.Checked Text :=
    match v with
    | none => Field.fail (place ++ [.index i]) .missing
    | some v => checkText (place ++ [.index i]) v
  match v with
  | .arr items =>
      if 2 < items.length then Field.fail place (.tooManyItems items.length)
      else
        match Field.all [member 0 items[0]?, member 1 items[1]?] with
        | .ok [name, value] => .ok ⟨name, value⟩
        | .ok _ => Field.fail place .missing
        | .error faults => .error faults
  | _ => Field.fail place .notList

/-- Headers given as pairs, from a place in the list on. -/
def checkPairs (index : Nat) : List Json → List (Field.Checked Header)
  | [] => []
  | v :: rest => checkPair index v :: checkPairs (index + 1) rest

/-- The `headers` field. -/
def checkHeadersField (fields : List (Text × Json)) : Field.Checked (List Header) :=
  match Dictionary.get? "headers" fields with
  | none => .ok []
  | some (.arr items) => Field.all (checkPairs 0 items)
  | some _ => Field.fail [.name "headers"] .notList

/-- A request from fields of any types.  Fields that are not those of a request are ignored. -/
def ofFields (fields : List (Text × Json)) : Field.Checked Request :=
  match checkUrlField fields, checkMethodField fields, checkHeadersField fields with
  | .ok url, .ok method, .ok headers =>
      .ok ⟨url, normalizeMethod method, headers, (Dictionary.get? "body" fields).getD .null⟩
  | url, method, headers =>
      .error (Field.faults url ++ Field.faults method ++ Field.faults headers)

end Request

end CurlRequest.Curl
