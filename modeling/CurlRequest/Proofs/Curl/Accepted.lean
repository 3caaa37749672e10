import CurlRequest.Proofs.Curl.Description
import CurlRequest.Proofs.Text.UpperCase

/-!
# What an accepted description becomes

A request that is accepted has the last URL, the last method in upper case, and the last body that
its description gives.  Its headers are the members of the last `headers` in their order, repeated
names included, without those that have no name or no value.

**Results.**
* `forall₂_of_headersOf`: the headers of members are those that are sent, one by one.
* `methodOf_normalizeMethod`: the method is the last one in upper case, or the usual one.
* `madeOf_of_ofDescription`: what each part of an accepted request is.
-/

namespace CurlRequest.Curl

open Json (ViewOf)
open Dictionary (Last)

/-! ## The parts of a request -/

/-- The text that stands for a value: a string is its own text, and anything else is the compact
form of its last-value view. -/
inductive ValueText : Json → Text → Prop
  | string
      (s : Text) :
      ValueText (.str s) s
  | compact
      {v view : Json}
      (hv : ∀ s, v ≠ .str s)
      (hview : ViewOf v view) :
      ValueText v view.compact

/-- Whether a member of the headers is sent: it has a name and a value. -/
def isSent : Text × Json → Bool
  | ([], _) => false
  | (_, .null) => false
  | _ => true

/-- The method of the members: the last one in upper case, and the usual one if none is given. -/
inductive MethodOf (members : List (Text × Json)) : Text → Prop
  | given
      {method : Text}
      (h : Last "method" members (.str method))
      (hne : method ≠ []) :
      MethodOf members method.upper
  | usual
      (h : ∀ v, Last "method" members v → v = .null ∨ v = .str []) :
      MethodOf members "GET"

/-- The members of the last headers, and none if no headers are given. -/
inductive HeaderMembersOf (members : List (Text × Json)) : List (Text × Json) → Prop
  | given
      {headers : List (Text × Json)}
      (h : Last "headers" members (.obj headers)) :
      HeaderMembersOf members headers
  | absent
      (h : ∀ v, Last "headers" members v → v = .null) :
      HeaderMembersOf members []

/-- The last body, and none if no body is given. -/
inductive BodyOf (members : List (Text × Json)) : Json → Prop
  | given
      {body : Json}
      (h : Last "body" members body) :
      BodyOf members body
  | absent
      (h : ∀ v, ¬ Last "body" members v) :
      BodyOf members .null

/-- A header has the name of a member and the text that stands for its value. -/
def IsHeaderOf (member : Text × Json) (header : Header) : Prop :=
  header.name = member.1 ∧ ValueText member.2 header.value

/-- What a request that is made of the members of an object consists of. -/
structure MadeOf (members : List (Text × Json)) (r : Request) : Prop where
  url : Last "url" members (.str r.url)
  method : MethodOf members r.method
  headers : ∃ headerMembers, HeaderMembersOf members headerMembers ∧
    List.Forall₂ IsHeaderOf (headerMembers.filter isSent) r.headers
  body : BodyOf members r.body
  hasBody : r.hasBody = false ↔ ∀ v, Last "body" members v → v = .null ∨ v = .str []

/-- The text of a value is the one that stands for it. -/
theorem valueText_of_toText
    {v : Json}
    {text : Text}
    (h : v.toText = .ok text) :
    ValueText v text := by
  have hview := Json.viewOf_collapse v
  cases v with
  | str s =>
      cases h
      exact ValueText.string text
  | _ =>
      simp only [Json.toText] at h
      split at h
      · cases h
        exact ValueText.compact (by simp) hview
      · cases h

namespace Request

/-! ## The headers -/

/-- A first member without a name or a value is passed over, and the header of any other one comes
first. -/
theorem headersOf_cons
    {member : Text × Json}
    {rest : List (Text × Json)}
    {headers : List Header}
    (h : headersOf (member :: rest) = .ok headers) :
    (isSent member = false ∧ headersOf rest = .ok headers) ∨
      (isSent member = true ∧ ∃ header later,
        IsHeaderOf member header ∧ headersOf rest = .ok later ∧ headers = header :: later) := by
  obtain ⟨name, value⟩ := member
  simp only [headersOf] at h
  split at h
  · refine Or.inl ⟨?_, h⟩
    cases name <;> rfl
  · rename_i hvalue
    cases name with
    | nil =>
        exact Or.inl ⟨rfl, h⟩
    | cons c name =>
        have hsent : isSent (c :: name, value) = true := by
          cases value with
          | null =>
              exact absurd rfl hvalue
          | _ =>
              rfl
        cases htext : value.toText with
        | error fault =>
            rw [htext] at h
            cases h
        | ok text =>
            cases hrest : headersOf rest with
            | error fault =>
                rw [htext, hrest] at h
                cases h
            | ok later =>
                rw [htext, hrest] at h
                cases h
                exact Or.inr ⟨hsent, _, later, ⟨rfl, valueText_of_toText htext⟩, rfl, rfl⟩

/-- By induction on the members: **the headers of members** are those that are sent, one by one. -/
theorem forall₂_of_headersOf
    {members : List (Text × Json)}
    {headers : List Header}
    (h : headersOf members = .ok headers) :
    List.Forall₂ IsHeaderOf (members.filter isSent) headers := by
  induction members generalizing headers with
  | nil =>
      cases h
      exact List.Forall₂.nil
  | cons member rest ih =>
      rcases headersOf_cons h with ⟨hsent, hrest⟩ | ⟨hsent, header, later, hheader, hlater, rfl⟩
      · rw [List.filter_cons_of_neg (by simp [hsent])]
        exact ih hrest
      · rw [List.filter_cons_of_pos hsent]
        exact List.Forall₂.cons hheader (ih hlater)

/-! ## The other parts -/

section Parts

variable {members : List (Text × Json)}

/-- The method of a request is that of its members. -/
theorem methodOf_normalizeMethod
    {method : Text}
    (h : methodOf members = .ok method) :
    MethodOf members (normalizeMethod method) := by
  have husual : normalizeMethod "GET" = "GET" := by
    decide
  unfold methodOf at h
  split at h
  · rename_i hget
    cases h
    rw [husual]
    refine .usual fun v hlast => ?_
    cases hget.symm.trans (Dictionary.get?_eq_some_iff.mpr hlast)
  · rename_i hget
    cases h
    rw [husual]
    refine .usual fun v hlast => ?_
    cases hget.symm.trans (Dictionary.get?_eq_some_iff.mpr hlast)
    exact Or.inl rfl
  · rename_i given hget
    cases h
    cases given with
    | nil =>
        rw [List.isEmpty_nil, if_pos rfl, husual]
        refine .usual fun v hlast => ?_
        cases hget.symm.trans (Dictionary.get?_eq_some_iff.mpr hlast)
        exact Or.inr rfl
    | cons c given =>
        have hupper : Text.upper (c :: given) ≠ [] :=
          Text.upper_eq_nil_iff.not.mpr (List.cons_ne_nil c given)
        have hmethod : normalizeMethod (c :: given) = Text.upper (c :: given) := by
          simp [normalizeMethod, hupper]
        rw [List.isEmpty_cons, if_neg Bool.false_ne_true, hmethod]
        exact .given (Dictionary.get?_eq_some_iff.mp hget) (List.cons_ne_nil c given)
  · cases h

/-- The header members that are found are those of the last headers. -/
theorem headerMembersOf_eq_ok
    {headerMembers : List (Text × Json)}
    (h : headerMembersOf members = .ok headerMembers) :
    HeaderMembersOf members headerMembers := by
  unfold headerMembersOf at h
  split at h
  · rename_i hget
    cases h
    refine .absent fun v hlast => ?_
    cases hget.symm.trans (Dictionary.get?_eq_some_iff.mpr hlast)
  · rename_i hget
    cases h
    refine .absent fun v hlast => ?_
    cases hget.symm.trans (Dictionary.get?_eq_some_iff.mpr hlast)
    rfl
  · rename_i headers hget
    cases h
    exact .given (Dictionary.get?_eq_some_iff.mp hget)
  · cases h

/-- The body that is found is the last one. -/
theorem bodyOf_get? :
    BodyOf members ((Dictionary.get? "body" members).getD .null) := by
  cases hget : Dictionary.get? "body" members with
  | none =>
      refine .absent fun v hlast => ?_
      cases hget.symm.trans (Dictionary.get?_eq_some_iff.mpr hlast)
  | some body =>
      exact .given (Dictionary.get?_eq_some_iff.mp hget)

/-- A body is absent iff the last one is nothing or the empty string. -/
theorem isAbsent_get? :
    ((Dictionary.get? "body" members).getD .null).isAbsent = true
      ↔
    ∀ v, Last "body" members v → v = .null ∨ v = .str [] := by
  simp only [← Dictionary.get?_eq_some_iff]
  cases Dictionary.get? "body" members with
  | none =>
      simp [Json.isAbsent]
  | some body =>
      cases body <;> simp [Json.isAbsent]

end Parts

/-- **What an accepted description becomes.**  It describes an object, and the request is made of the
members of the object. -/
theorem madeOf_of_ofDescription
    {d : Description}
    {r : Request}
    (h : ofDescription d = .ok r) :
    ∃ members, d.Describes (.obj members) ∧ MadeOf members r := by
  cases hread : d.toJson with
  | error fault =>
      rw [ofDescription, hread] at h
      cases h
  | ok v =>
      have hdescribes := Description.describes_of_toJson hread
      rw [ofDescription, hread] at h
      change ofJson v = .ok r at h
      cases v with
      | obj members =>
          refine ⟨members, hdescribes, ?_⟩
          have hcase := ofJson_cases members
          rw [h] at hcase
          cases hcase with
          | @accepted url method headerMembers headers hurl hmethod hfound hwrite hwhole =>
              exact {
                url := Dictionary.get?_eq_some_iff.mp hurl.1
                method := methodOf_normalizeMethod hmethod
                headers := ⟨headerMembers, headerMembersOf_eq_ok hfound,
                  forall₂_of_headersOf hwrite⟩
                body := bodyOf_get?
                hasBody := by
                  rw [hasBody, Bool.not_eq_false']
                  exact isAbsent_get? }
      | _ =>
          cases h

/-- A description that repeats its URL and a header, one header having no name and one no value. -/
def repeatedNames : Description :=
  .text ("\x7b\"url\":1,\"url\":\"x\",\"method\":\"post\",\"headers\":\x7b\"A\":\"1\",\"\":\"z\"," ++
    "\"B\":null,\"A\":\x7b\"k\":1,\"k\":[]\x7d\x7d\x7d")

/-- The last URL counts, and both headers of one name are kept in their order. -/
theorem madeOf_of_ofDescription_repeatedNames :
    ∃ r members, ofDescription repeatedNames = .ok r ∧
      r.headers = [⟨"A", "1"⟩, ⟨"A", "\x7b\"k\":[]\x7d"⟩] ∧
      repeatedNames.Describes (.obj members) ∧ MadeOf members r := by
  have hread : ofDescription repeatedNames =
      .ok ⟨"x", "POST", [⟨"A", "1"⟩, ⟨"A", "\x7b\"k\":[]\x7d"⟩], .null⟩ := by
    cbv
  obtain ⟨members, hmembers, hmade⟩ := madeOf_of_ofDescription hread
  exact ⟨_, members, hread, rfl, hmembers, hmade⟩

end Request

end CurlRequest.Curl
