import CurlRequest.Curl.Command
import CurlRequest.Proofs.Curl.Rules
import CurlRequest.Proofs.Json.Refusal

/-!
# What a conversion can come to

A description becomes a command or breaks one of the six rules, with one exception for texts that
are not nested too deeply: a URL that satisfies the rules but holds a lone surrogate is refused by
the request itself, and that refusal names none of the rules.

**Results.**
* `exists_ofRequest`: a request with a writable body has a command.
* `Request.outcome_of_ofDescription`: what is read of any description.
* `ofDescription_cases`: what becomes of any description, with the exact condition of the exception.
* `ofDescription_surrogateUrl`: a description in which the exception occurs.
* `hasSurrogate_message_of_ofDescription`: what is said of a broken rule can be encoded.
-/

namespace CurlRequest.Curl

/-- Members that break no rule but whose URL holds a lone surrogate. -/
def Request.HasBrokenUrl (members : List (Text × Json)) : Prop :=
  ∃ url,
    IsUrl url (Dictionary.get? "url" members) ∧
      IsMethod (Dictionary.get? "method" members) ∧
      AreHeaders (Dictionary.get? "headers" members) ∧
      url.hasSurrogate = true

/-- A description that breaks no rule but whose URL holds a lone surrogate. -/
def Description.HasBrokenUrl (d : Description) : Prop :=
  ∃ members, d.toJson = .ok (.obj members) ∧ Request.HasBrokenUrl members

/-- The members of a description decide whether its URL is broken. -/
theorem Description.hasBrokenUrl_iff
    {d : Description}
    {members : List (Text × Json)}
    (h : d.toJson = .ok (.obj members)) :
    d.HasBrokenUrl
      ↔
    Request.HasBrokenUrl members := by
  constructor
  · rintro ⟨members', hmembers, hbroken⟩
    rw [h] at hmembers
    cases hmembers
    exact hbroken
  · intro hbroken
    exact ⟨members, h, hbroken⟩

/-- A description that is no object has no broken URL. -/
theorem Description.not_hasBrokenUrl
    {d : Description}
    (h : ∀ members, d.toJson ≠ .ok (.obj members)) :
    ¬ d.HasBrokenUrl := by
  rintro ⟨members, hmembers, -⟩
  exact h members hmembers

/-- **A request with a writable body** has a command. -/
theorem exists_ofRequest
    {r : Request}
    (h : Json.Writable r.body)
    (flags : Flags) :
    ∃ command, Command.ofRequest r flags = .ok command := by
  obtain ⟨text, htext⟩ := h.exists_toText
  have hbody : ∃ body, r.bodyParts = .ok body := by
    unfold Request.bodyParts
    split
    · rw [htext]
      exact ⟨_, rfl⟩
    · exact ⟨[], rfl⟩
  obtain ⟨body, hbody⟩ := hbody
  simp only [Command.ofRequest, Request.parts, hbody]
  exact ⟨_, rfl⟩

/-- The body of a writable object is writable. -/
theorem writable_body
    {members : List (Text × Json)}
    (h : Json.Writable (.obj members)) :
    Json.Writable ((Dictionary.get? "body" members).getD .null) := by
  cases hget : Dictionary.get? "body" members with
  | none =>
      constructor <;> simp
  | some body =>
      exact h.of_get? hget

/-- What becomes of a writable object: a broken URL is refused as a field, and otherwise a rule is
broken or there is a request with a writable body. -/
theorem ofJson_object_cases
    {members : List (Text × Json)}
    (h : Json.Writable (.obj members)) :
    (Request.HasBrokenUrl members ∧
        Request.ofJson (.obj members) = .error (.fields [⟨[.name "url"], .brokenText⟩])) ∨
      (¬ Request.HasBrokenUrl members ∧
        ((∃ r, Request.ofJson (.obj members) = .ok r ∧ Json.Writable r.body) ∨
          ∃ broken, Request.ofJson (.obj members) = .error (.request broken))) := by
  have hcase := Request.ofJson_cases members
  generalize Request.ofJson (.obj members) = outcome at hcase ⊢
  cases hcase with
  | badUrl hurl =>
      refine Or.inr ⟨?_, Or.inr ⟨_, rfl⟩⟩
      rintro ⟨url, hurl', -⟩
      exact hurl url hurl'
  | badMethod hurl hmethod =>
      refine Or.inr ⟨?_, Or.inr ⟨_, rfl⟩⟩
      rintro ⟨-, -, hmethod', -⟩
      exact hmethod hmethod'
  | badHeaders hurl hmethod hheaders =>
      refine Or.inr ⟨?_, Or.inr ⟨_, rfl⟩⟩
      rintro ⟨-, -, -, hheaders', -⟩
      exact hheaders hheaders'
  | unwritable hurl hmethod hheaders hfound hwrite =>
      obtain ⟨headers, hheaders⟩ :=
        Request.exists_headersOf (Request.writable_of_headerMembersOf h hfound)
      rw [hheaders] at hwrite
      cases hwrite
  | @brokenUrl url hurl hmethod hheaders hbroken =>
      exact Or.inl ⟨⟨url, hurl, hmethod, hheaders, hbroken⟩, rfl⟩
  | @accepted url _ _ _ hurl hmethod hfound hwrite hwhole =>
      refine Or.inr ⟨?_, Or.inl ⟨_, rfl, writable_body h⟩⟩
      rintro ⟨url', hurl', -, -, hbroken⟩
      have hsame : url = url' := by
        have hboth := hurl.1.symm.trans hurl'.1
        cases hboth
        rfl
      rw [← hsame, hwhole] at hbroken
      cases hbroken

/-- A description with a broken URL is refused as a field. -/
theorem Request.ofDescription_of_hasBrokenUrl
    {d : Description}
    (h : d.HasBrokenUrl) :
    Request.ofDescription d = .error (.fields [⟨[.name "url"], .brokenText⟩]) := by
  obtain ⟨members, hmembers, hbroken⟩ := h
  rcases ofJson_object_cases (Description.writable_of_toJson hmembers) with
    ⟨-, houtcome⟩ | ⟨hnot, -⟩
  · rw [Request.ofDescription, hmembers]
    exact houtcome
  · exact absurd hbroken hnot

/-- **What is read of a description.**  Unless it is nested too deeply it becomes a request with a
writable body or breaks one of the rules, but for exactly those whose URL is broken. -/
theorem Request.outcome_of_ofDescription
    (d : Description) :
    (Json.nestingLimit < d.nesting ∧ Request.ofDescription d = .error .tooDeep) ∨
      (d.HasBrokenUrl ∧
        Request.ofDescription d = .error (.fields [⟨[.name "url"], .brokenText⟩])) ∨
      (¬ d.HasBrokenUrl ∧
        ((∃ r, Request.ofDescription d = .ok r ∧ Json.Writable r.body) ∨
          ∃ broken, Request.ofDescription d = .error (.request broken))) := by
  cases hvalue : d.toJson with
  | error fault =>
      have hnot : ¬ d.HasBrokenUrl := by
        apply Description.not_hasBrokenUrl
        intro members hmembers
        rw [hvalue] at hmembers
        cases hmembers
      have houtcome : Request.ofDescription d = .error fault := by
        rw [Request.ofDescription, hvalue]
        rfl
      rw [houtcome]
      rcases Description.toJson_error hvalue with ⟨broken, rfl⟩ | ⟨rfl, hnesting⟩
      · exact Or.inr (Or.inr ⟨hnot, Or.inr ⟨broken, rfl⟩⟩)
      · exact Or.inl ⟨hnesting, rfl⟩
  | ok v =>
      right
      have hrequest : Request.ofDescription d = Request.ofJson v := by
        rw [Request.ofDescription, hvalue]
        rfl
      rw [hrequest]
      cases v with
      | obj members =>
          rw [Description.hasBrokenUrl_iff hvalue]
          exact ofJson_object_cases (Description.writable_of_toJson hvalue)
      | _ =>
          refine Or.inr ⟨?_, Or.inr ⟨.notAnObject, rfl⟩⟩
          apply Description.not_hasBrokenUrl
          intro members hmembers
          rw [hvalue] at hmembers
          cases hmembers

/-- **What becomes of a description.**  Unless it is nested too deeply it becomes a command or
breaks one of the rules, but for exactly those whose URL is broken. -/
theorem ofDescription_cases
    (d : Description)
    (flags : Flags) :
    (Json.nestingLimit < d.nesting ∧ Command.ofDescription d flags = .error .tooDeep) ∨
      (d.HasBrokenUrl ∧
        Command.ofDescription d flags = .error (.fields [⟨[.name "url"], .brokenText⟩])) ∨
      (¬ d.HasBrokenUrl ∧
        ((∃ command, Command.ofDescription d flags = .ok command) ∨
          ∃ broken, Command.ofDescription d flags = .error (.request broken))) := by
  rcases Request.outcome_of_ofDescription d with
    ⟨hnesting, houtcome⟩ | ⟨hbroken, houtcome⟩ |
      ⟨hnot, ⟨r, houtcome, hbody⟩ | ⟨broken, houtcome⟩⟩
  · rw [Command.ofDescription, houtcome]
    exact Or.inl ⟨hnesting, rfl⟩
  · rw [Command.ofDescription, houtcome]
    exact Or.inr (Or.inl ⟨hbroken, rfl⟩)
  · obtain ⟨command, hcommand⟩ := exists_ofRequest hbody flags
    rw [Command.ofDescription, houtcome]
    simp only [bind, Except.bind, hcommand]
    exact Or.inr (Or.inr ⟨hnot, Or.inl ⟨command, rfl⟩⟩)
  · rw [Command.ofDescription, houtcome]
    exact Or.inr (Or.inr ⟨hnot, Or.inr ⟨broken, rfl⟩⟩)

/-- An object whose only member is a URL that is one lone surrogate. -/
def surrogateUrl : Description :=
  .text "\x7b\"url\":\"\\ud800\"\x7d"

/-- A shallow description can fail without breaking any of the rules. -/
theorem ofDescription_surrogateUrl :
    surrogateUrl.nesting ≤ Json.nestingLimit ∧
      (∀ command, Command.ofDescription surrogateUrl Flags.none ≠ .ok command) ∧
      ∀ broken, Command.ofDescription surrogateUrl Flags.none ≠ .error (.request broken) := by
  have houtcome :
      Command.ofDescription surrogateUrl Flags.none =
        .error (.fields [⟨[.name "url"], .brokenText⟩]) := by
    cbv
  rw [houtcome]
  refine ⟨by decide, ?_, ?_⟩
  · intro command h
    cases h
  · intro broken h
    cases h

/-! ## What is said of a broken rule -/

/-- The wording of a fault can be encoded, if what it quotes can. -/
theorem RequestFault.hasSurrogate_message
    {fault : RequestFault}
    (h : ∀ detail ∈ fault.detail?, detail.hasSurrogate = false) :
    fault.message.hasSurrogate = false := by
  cases fault with
  | malformed detail =>
      have hdetail := h detail rfl
      simp only [RequestFault.message, Text.hasSurrogate_append, Text.hasSurrogate_ofString,
        hdetail, Bool.or_false]
  | _ =>
      exact Text.hasSurrogate_ofString _

/-- A value that breaks a rule is JSON all the same. -/
theorem Request.detail?_of_ofJson
    {v : Json}
    {broken : RequestFault}
    (h : Request.ofJson v = .error (.request broken)) :
    broken.detail? = none := by
  cases v with
  | obj members =>
      have hcase := Request.ofJson_cases members
      rw [h] at hcase
      cases hcase <;> rfl
  | _ =>
      cases h
      rfl

/-- **What is said of a text** that breaks a rule can be encoded. -/
theorem hasSurrogate_message_of_ofDescription
    {t : Text}
    {broken : RequestFault}
    (h : Request.ofDescription (.text t) = .error (.request broken)) :
    broken.message.hasSurrogate = false := by
  apply RequestFault.hasSurrogate_message
  intro detail hdetail
  cases hvalue : Description.textToJson t with
  | ok v =>
      have hrequest : Request.ofDescription (.text t) = Request.ofJson v := by
        rw [Request.ofDescription, Description.toJson, hvalue]
        rfl
      rw [hrequest] at h
      rw [Request.detail?_of_ofJson h] at hdetail
      cases hdetail
  | error fault =>
      have hrequest : Request.ofDescription (.text t) = .error fault := by
        rw [Request.ofDescription, Description.toJson, hvalue]
        rfl
      rw [hrequest] at h
      obtain rfl : fault = .request broken := Except.error.inj h
      unfold Description.textToJson at hvalue
      split at hvalue
      · cases hvalue
        cases hdetail
      · cases hread : Json.read .strict t with
        | ok v =>
            rw [hread] at hvalue
            cases hvalue
        | error refused =>
            rw [hread] at hvalue
            have hquotes := Json.quotesNumbersOnly_of_read hread
            cases refused with
            | tooDeep =>
                cases hvalue
            | _ =>
                cases hvalue
                cases hdetail
                exact Json.hasSurrogate_message hquotes t

end CurlRequest.Curl
