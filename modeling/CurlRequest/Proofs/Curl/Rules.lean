import CurlRequest.Curl.Description
import CurlRequest.Proofs.Json.Reading
import CurlRequest.Proofs.Json.Writable

/-!
# The rules of a description

What the members of an object must be to describe a request is said here without regard to the order
in which it is checked.  The outcome for an object is then one of six cases, each of which says
which rules hold and which one is broken.

**Results.**
* `toJson_error`: a description without a value breaks a rule or is nested too deeply.
* `ofJson_cases`: the outcome for an object, rule by rule.
* `exists_headersOf`: the header lines of a writable object can be written.
-/

namespace CurlRequest.Curl

namespace Description

/-- The text of a description, if its octets have one. -/
def text? : Description → Option Text
  | text t => some t
  | bytes b => (Utf8.decode b).toOption

/-- The nesting of a description is that of its text. -/
def nesting (d : Description) : Nat :=
  (d.text?.map Json.nesting).getD 0

/-- A text that has a value is read to it. -/
theorem textToJson_ok
    {t : Text}
    {v : Json}
    (h : textToJson t = .ok v) :
    Json.read .strict t = .ok v := by
  unfold textToJson at h
  split at h
  · cases h
  · cases hread : Json.read .strict t with
    | error fault =>
        rw [hread] at h
        cases h
    | ok v' =>
        rw [hread] at h
        cases h
        rfl

/-- A text without a value breaks a rule or is nested too deeply. -/
theorem textToJson_error
    {t : Text}
    {fault : ConvertFault}
    (h : textToJson t = .error fault) :
    (∃ broken, fault = .request broken) ∨
      (fault = .tooDeep ∧ Json.nestingLimit < Json.nesting t) := by
  unfold textToJson at h
  split at h
  · cases h
    exact Or.inl ⟨_, rfl⟩
  · cases hread : Json.read .strict t with
    | ok v =>
        rw [hread] at h
        cases h
    | error refused =>
        rw [hread] at h
        cases h
        cases refused with
        | tooDeep =>
            exact Or.inr ⟨rfl, Json.nestingLimit_lt_of_read_eq_tooDeep hread⟩
        | _ =>
            exact Or.inl ⟨_, rfl⟩

/-- **The value of a description is writable.** -/
theorem writable_of_toJson
    {d : Description}
    {v : Json}
    (h : d.toJson = .ok v) :
    Json.Writable v := by
  cases d with
  | text t =>
      exact Json.writable_of_jsonText (Json.jsonText_of_read (textToJson_ok h))
  | bytes b =>
      simp only [toJson] at h
      split at h
      · exact Json.writable_of_jsonText (Json.jsonText_of_read (textToJson_ok h))
      · cases h

/-- A description without a value breaks a rule or is nested too deeply. -/
theorem toJson_error
    {d : Description}
    {fault : ConvertFault}
    (h : d.toJson = .error fault) :
    (∃ broken, fault = .request broken) ∨
      (fault = .tooDeep ∧ Json.nestingLimit < d.nesting) := by
  cases d with
  | text t =>
      exact textToJson_error h
  | bytes b =>
      simp only [toJson] at h
      split at h
      · rename_i t hdecode
        have hnesting : nesting (.bytes b) = Json.nesting t := by
          simp only [nesting, text?, hdecode]
          rfl
        rw [hnesting]
        exact textToJson_error h
      · cases h
        exact Or.inl ⟨_, rfl⟩

end Description

namespace Request

/-- What stands for a URL: a string that is not empty. -/
def IsUrl (url : Text) (v : Option Json) : Prop :=
  v = some (.str url) ∧ url ≠ []

/-- What may stand for a method: nothing, `null` or a string. -/
def IsMethod : Option Json → Prop
  | none => True
  | some .null => True
  | some (.str _) => True
  | some _ => False

/-- What may stand for headers: nothing, `null` or an object. -/
def AreHeaders : Option Json → Prop
  | none => True
  | some .null => True
  | some (.obj _) => True
  | some _ => False

/-- A URL that is found is what stands for one, and otherwise nothing does. -/
theorem urlOf_cases
    (members : List (Text × Json)) :
    (∃ url, IsUrl url (Dictionary.get? "url" members) ∧ urlOf members = .ok url) ∨
      ((∀ url, ¬ IsUrl url (Dictionary.get? "url" members)) ∧ urlOf members = .error .badUrl) := by
  unfold urlOf IsUrl
  split
  · rename_i url hget
    rw [hget]
    cases url with
    | nil =>
        refine Or.inr ⟨?_, rfl⟩
        rintro url ⟨hurl, hne⟩
        cases hurl
        exact hne rfl
    | cons c rest =>
        exact Or.inl ⟨c :: rest, ⟨rfl, List.cons_ne_nil c rest⟩, rfl⟩
  · rename_i hget
    refine Or.inr ⟨?_, rfl⟩
    rintro url ⟨hurl, -⟩
    exact hget url hurl

/-- A method is found iff what stands for it may. -/
theorem methodOf_cases
    (members : List (Text × Json)) :
    (IsMethod (Dictionary.get? "method" members) ∧ ∃ method, methodOf members = .ok method) ∨
      (¬ IsMethod (Dictionary.get? "method" members) ∧ methodOf members = .error .badMethod) := by
  unfold methodOf
  split
  · rename_i hget
    rw [hget]
    exact Or.inl ⟨trivial, _, rfl⟩
  · rename_i hget
    rw [hget]
    exact Or.inl ⟨trivial, _, rfl⟩
  · rename_i method hget
    rw [hget]
    exact Or.inl ⟨trivial, _, rfl⟩
  · rename_i v hnull hstr hget
    rw [hget]
    refine Or.inr ⟨?_, rfl⟩
    intro hmethod
    cases v with
    | null =>
        exact hnull rfl
    | str method =>
        exact hstr method rfl
    | _ =>
        exact hmethod

/-- Header members are found iff what stands for headers may. -/
theorem headerMembersOf_cases
    (members : List (Text × Json)) :
    (AreHeaders (Dictionary.get? "headers" members) ∧
        ∃ headerMembers, headerMembersOf members = .ok headerMembers) ∨
      (¬ AreHeaders (Dictionary.get? "headers" members) ∧
        headerMembersOf members = .error .badHeaders) := by
  unfold headerMembersOf
  split
  · rename_i hget
    rw [hget]
    exact Or.inl ⟨trivial, _, rfl⟩
  · rename_i hget
    rw [hget]
    exact Or.inl ⟨trivial, _, rfl⟩
  · rename_i headers hget
    rw [hget]
    exact Or.inl ⟨trivial, _, rfl⟩
  · rename_i v hnull hobj hget
    rw [hget]
    refine Or.inr ⟨?_, rfl⟩
    intro hheaders
    cases v with
    | null =>
        exact hnull rfl
    | obj headers =>
        exact hobj headers rfl
    | _ =>
        exact hheaders

/-- The header members of a writable object are writable. -/
theorem writable_of_headerMembersOf
    {members headerMembers : List (Text × Json)}
    (hmembers : Json.Writable (.obj members))
    (h : headerMembersOf members = .ok headerMembers) :
    Json.Writable (.obj headerMembers) := by
  have hnone : Json.Writable (.obj []) := Json.writable_obj_iff.mpr (by simp)
  unfold headerMembersOf at h
  split at h
  · cases h
    exact hnone
  · cases h
    exact hnone
  · rename_i headers hget
    cases h
    exact hmembers.of_get? hget
  · cases h

/-- **The header lines of writable members** can be written. -/
theorem exists_headersOf
    {members : List (Text × Json)}
    (h : Json.Writable (.obj members)) :
    ∃ headers, headersOf members = .ok headers := by
  induction members with
  | nil =>
      exact ⟨[], rfl⟩
  | cons member rest ih =>
      obtain ⟨name, value⟩ := member
      rw [Json.writable_obj_iff, List.forall_mem_cons] at h
      obtain ⟨hvalue, hrest⟩ := h
      obtain ⟨headers, hheaders⟩ := ih (Json.writable_obj_iff.mpr hrest)
      obtain ⟨text, htext⟩ := hvalue.exists_toText
      simp only [headersOf]
      split
      · exact ⟨headers, hheaders⟩
      · split
        · exact ⟨headers, hheaders⟩
        · rw [htext, hheaders]
          exact ⟨⟨name, text⟩ :: headers, rfl⟩

/-- What can become of an object: a rule is broken and those before it hold, a header value has no
text, the URL is no encodable text, or the request is accepted. -/
inductive ObjectCase (members : List (Text × Json)) : Except ConvertFault Request → Prop
  | badUrl
      (hurl : ∀ url, ¬ IsUrl url (Dictionary.get? "url" members)) :
      ObjectCase members (.error (.request .badUrl))
  | badMethod
      {url : Text}
      (hurl : IsUrl url (Dictionary.get? "url" members))
      (hmethod : ¬ IsMethod (Dictionary.get? "method" members)) :
      ObjectCase members (.error (.request .badMethod))
  | badHeaders
      {url : Text}
      (hurl : IsUrl url (Dictionary.get? "url" members))
      (hmethod : IsMethod (Dictionary.get? "method" members))
      (hheaders : ¬ AreHeaders (Dictionary.get? "headers" members)) :
      ObjectCase members (.error (.request .badHeaders))
  | unwritable
      {url : Text}
      {headerMembers : List (Text × Json)}
      {fault : Json.WriteFault}
      (hurl : IsUrl url (Dictionary.get? "url" members))
      (hmethod : IsMethod (Dictionary.get? "method" members))
      (hheaders : AreHeaders (Dictionary.get? "headers" members))
      (hfound : headerMembersOf members = .ok headerMembers)
      (hwrite : headersOf headerMembers = .error fault) :
      ObjectCase members (.error (.unwritable fault))
  | brokenUrl
      {url : Text}
      (hurl : IsUrl url (Dictionary.get? "url" members))
      (hmethod : IsMethod (Dictionary.get? "method" members))
      (hheaders : AreHeaders (Dictionary.get? "headers" members))
      (hbroken : url.hasSurrogate = true) :
      ObjectCase members (.error (.fields [⟨[.name "url"], .brokenText⟩]))
  | accepted
      {url method : Text}
      {headerMembers : List (Text × Json)}
      {headers : List Header}
      (hurl : IsUrl url (Dictionary.get? "url" members))
      (hmethod : methodOf members = .ok method)
      (hfound : headerMembersOf members = .ok headerMembers)
      (hwrite : headersOf headerMembers = .ok headers)
      (hwhole : url.hasSurrogate = false) :
      ObjectCase members
        (.ok ⟨url, normalizeMethod method, headers, (Dictionary.get? "body" members).getD .null⟩)

/-- A request with a URL that is no encodable text is refused for that. -/
theorem make_of_hasSurrogate
    {url : Text}
    (h : url.hasSurrogate = true)
    (method : Text)
    (headers : List Header)
    (body : Json) :
    make url method headers body = .error [⟨[.name "url"], .brokenText⟩] := by
  have hcheck : checkUrl url = Field.fail [.name "url"] .brokenText := if_pos h
  rw [make, hcheck]
  rfl

/-- A request with any other URL is made of its parts. -/
theorem make_of_not_hasSurrogate
    {url : Text}
    (h : url.hasSurrogate = false)
    (hne : url ≠ [])
    (method : Text)
    (headers : List Header)
    (body : Json) :
    make url method headers body = .ok ⟨url, normalizeMethod method, headers, body⟩ := by
  have hcheck : checkUrl url = .ok url := by
    simp [checkUrl, h, hne]
  rw [make, hcheck]
  rfl

/-- A description that is accepted is read to an object that is. -/
theorem exists_members_of_ofDescription
    {d : Description}
    {r : Request}
    (h : ofDescription d = .ok r) :
    ∃ members, d.toJson = .ok (.obj members) ∧ ofJson (.obj members) = .ok r := by
  unfold ofDescription at h
  cases hread : d.toJson with
  | error fault =>
      rw [hread] at h
      cases h
  | ok v =>
      rw [hread] at h
      have hjson : ofJson v = .ok r := h
      cases v with
      | obj members =>
          exact ⟨members, rfl, hjson⟩
      | _ =>
          cases hjson

/-- **The outcome for an object**, rule by rule. -/
theorem ofJson_cases
    (members : List (Text × Json)) :
    ObjectCase members (ofJson (.obj members)) := by
  rcases urlOf_cases members with ⟨url, hurl, hurlOf⟩ | ⟨hurl, hurlOf⟩
  · rcases methodOf_cases members with ⟨hmethod, method, hmethodOf⟩ | ⟨hmethod, hmethodOf⟩
    · rcases headerMembersOf_cases members with
        ⟨hheaders, headerMembers, hfound⟩ | ⟨hheaders, hfound⟩
      · cases hwrite : headersOf headerMembers with
        | error fault =>
            simp only [ofJson, hurlOf, hmethodOf, hfound, hwrite, Except.mapError, bind,
              Except.bind]
            exact .unwritable hurl hmethod hheaders hfound hwrite
        | ok headers =>
            simp only [ofJson, hurlOf, hmethodOf, hfound, hwrite, Except.mapError, bind,
              Except.bind]
            cases hsurrogate : url.hasSurrogate with
            | true =>
                rw [make_of_hasSurrogate hsurrogate]
                exact .brokenUrl hurl hmethod hheaders hsurrogate
            | false =>
                rw [make_of_not_hasSurrogate hsurrogate hurl.2]
                exact .accepted hurl hmethodOf hfound hwrite hsurrogate
      · simp only [ofJson, hurlOf, hmethodOf, hfound]
        exact .badHeaders hurl hmethod hheaders
    · simp only [ofJson, hurlOf, hmethodOf]
      exact .badMethod hurl hmethod
  · simp only [ofJson, hurlOf]
    exact .badUrl hurl

end Request

end CurlRequest.Curl
