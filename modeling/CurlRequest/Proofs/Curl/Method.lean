import CurlRequest.Proofs.Curl.Accepted
import CurlRequest.Proofs.Curl.Rendering
import CurlRequest.Proofs.Curl.Serialization

/-!
# The method of a command

A command says its method unless that is `GET`.  Methods are compared in the upper case of Unicode,
but only the letters of `get` become `GET`: no ligature and no letter with a mark does.  So a method
is said iff the description gives a string that is neither empty nor `get` in ASCII letters of
either case.

What is said is the upper case of this string and nothing is trimmed from it.  It is its own upper
case, and therefore a description that gives it in place of the string has the same command.

**Results.**
* `filter_partsWith`: the part of a request that says its method.
* `MethodOf.ne_get_iff`: which methods are not the usual one.
* `Request.ofJson_of_withMethod`: upper case makes no difference to a method that is given.
* `method_part_of_ofDescription`: the method that the command for a description says.
-/

namespace CurlRequest.Curl

open Dictionary (Last)

/-! ## The methods that are given -/

/-- The usual method, in letters of either case. -/
def IsUsualMethod (method : Text) : Prop :=
  method.map Json.asciiLower = "get"

/-- The members give a method: the last one is a string that is neither empty nor the usual one. -/
def GivesMethod (members : List (Text × Json)) (method : Text) : Prop :=
  Last "method" members (.str method) ∧ method ≠ [] ∧ ¬ IsUsualMethod method

/-- The other members are those of an object whose method is a given one instead. -/
structure WithMethod (method : Text) (members others : List (Text × Json)) : Prop where
  method : Last "method" others (.str method)
  rest : ∀ name, name ≠ Text.ofString "method" →
    ∀ v, Last name others v ↔ Last name members v

section Method

variable {members : List (Text × Json)} {method : Text}

/-- The members have one last method. -/
theorem GivesMethod.unique
    {other : Text}
    (h : GivesMethod members method)
    (hother : Last "method" members (.str other)) :
    other = method := by
  have hget := Dictionary.get?_eq_some_iff.mpr h.1
  rw [Dictionary.get?_eq_some_iff.mpr hother] at hget
  cases hget
  rfl

/-- The method of members that give one is the upper case of it. -/
theorem MethodOf.eq_upper
    {m : Text}
    (hm : MethodOf members m)
    (h : GivesMethod members method) :
    m = method.upper := by
  cases hm with
  | given hlast hne =>
      rw [h.unique hlast]
  | usual hnone =>
      rcases hnone _ h.1 with hnull | hempty
      · cases hnull
      · cases hempty
        exact absurd rfl h.2.1

/-- **A method is not the usual one** iff the members give it. -/
theorem MethodOf.ne_get_iff
    {m : Text}
    (hm : MethodOf members m) :
    m ≠ "GET"
      ↔
    ∃ method, GivesMethod members method := by
  constructor
  · intro hget
    cases hm with
    | @given method hlast hne =>
        refine ⟨method, hlast, hne, fun husual => ?_⟩
        exact hget (Text.upper_eq_get_iff.mpr husual)
    | usual hnone =>
        exact absurd rfl hget
  · rintro ⟨method, h⟩ hget
    rw [hm.eq_upper h] at hget
    exact h.2.2 (Text.upper_eq_get_iff.mp hget)

end Method

/-! ## The part of the command -/

/-- Whether a part says the method. -/
def saysMethod (p : Part) : Bool :=
  p.flag = some (Text.ofString "-X")

/-- The part of a flag does not say the method. -/
@[simp] theorem saysMethod_flag
    (f : Flag) :
    saysMethod f.part = false := by
  cases f <;> decide

/-- The part of a header does not say the method. -/
@[simp] theorem saysMethod_header
    (h : Header) :
    saysMethod h.part = false := by
  have hword : Text.ofString "-H" ≠ Text.ofString "-X" := by decide
  simp [saysMethod, Header.part, hword]

/-- **The part that says the method** of a request is there unless the method is the usual one. -/
theorem filter_partsWith
    (r : Request)
    (flags : Flags)
    (bodyText : Text) :
    (r.partsWith flags bodyText).filter saysMethod =
      if r.method = Text.ofString "GET" then []
      else [⟨.method, some "-X", some r.method, none⟩] := by
  have hflags : (flags.active.map Flag.part).filter saysMethod = [] := by
    simp [List.filter_eq_nil_iff]
  have hheaders : (r.headers.map Header.part).filter saysMethod = [] := by
    simp [List.filter_eq_nil_iff]
  have hmethod :
      (if r.method = Text.ofString "GET" then []
        else [(⟨.method, some "-X", some r.method, none⟩ : Part)]).filter saysMethod =
      if r.method = Text.ofString "GET" then []
        else [⟨.method, some "-X", some r.method, none⟩] := by
    split <;> rfl
  have hbody :
      (if r.hasBody then [(⟨.body, some "-d", some bodyText, none⟩ : Part)] else []).filter
        saysMethod = [] := by
    split <;> rfl
  have hcommand : saysMethod ⟨.command, some "curl", none, none⟩ = false := rfl
  have hurl : saysMethod ⟨.url, none, some r.url, none⟩ = false := rfl
  simp only [Request.partsWith, Request.leadingParts, List.filter_append, List.filter_cons,
    hcommand, hurl, hflags, hheaders, hmethod, hbody, List.filter_nil, List.nil_append,
    List.append_nil, Bool.false_eq_true, if_false]

/-! ## The same method in upper case -/

/-- Where the method stands last in an object, it is put in the place of another one. -/
theorem withMethod_append
    (before : List (Text × Json))
    (v : Json)
    (method : Text) :
    WithMethod method (before ++ [(Text.ofString "method", v)])
      (before ++ [(Text.ofString "method", .str method)]) := by
  constructor
  · exact ⟨before, [], rfl, List.not_mem_nil⟩
  · intro name hname w
    have hnone : ∀ u : Json, Dictionary.get? name [(Text.ofString "method", u)] = none := by
      simp [Dictionary.get?, Ne.symm hname]
    simp only [← Dictionary.get?_eq_some_iff, Dictionary.get?_append, hnone]

/-- A method and its upper case are the same to a request. -/
theorem Request.normalizeMethod_upper
    (method : Text) :
    normalizeMethod method.upper = normalizeMethod method := by
  rw [normalizeMethod, normalizeMethod, Text.upper_upper]

/-- **Upper case makes no difference** to a method that is given. -/
theorem Request.ofJson_of_withMethod
    {members others : List (Text × Json)}
    {method : Text}
    (h : GivesMethod members method)
    (hothers : WithMethod method.upper members others) :
    ofJson (.obj others) = ofJson (.obj members) := by
  have hrest : ∀ name, name ≠ Text.ofString "method" →
      Dictionary.get? name others = Dictionary.get? name members := by
    intro name hname
    apply Option.ext
    intro v
    rw [Dictionary.get?_eq_some_iff, Dictionary.get?_eq_some_iff]
    exact hothers.rest name hname v
  have hmethod : methodOf members = .ok method := by
    rw [methodOf, Dictionary.get?_eq_some_iff.mpr h.1]
    simp [h.2.1]
  have hupper : methodOf others = .ok method.upper := by
    rw [methodOf, Dictionary.get?_eq_some_iff.mpr hothers.method]
    simp [Text.upper_eq_nil_iff, h.2.1]
  have hurl : urlOf others = urlOf members := by
    rw [urlOf, urlOf, hrest "url" (by decide)]
  have hheaders : headerMembersOf others = headerMembersOf members := by
    rw [headerMembersOf, headerMembersOf, hrest "headers" (by decide)]
  simp only [ofJson, hurl, hheaders, hmethod, hupper, hrest "body" (by decide), make,
    normalizeMethod_upper, Except.mapError, bind, Except.bind]

/-! ## Descriptions -/

/-- A description that is accepted describes an object, and the command has parts whose method is
that of the object. -/
theorem exists_parts_of_ofDescription
    {d : Description}
    {r : Request}
    (h : Request.ofDescription d = .ok r)
    (flags : Flags) :
    ∃ members bodyText,
      d.toJson = .ok (.obj members) ∧
        MethodOf members r.method ∧
        r.parts flags = .ok (r.partsWith flags bodyText) ∧
        Command.ofDescription d flags = .ok (Command.ofParts (r.partsWith flags bodyText)) := by
  obtain ⟨bodyText, hbody⟩ := (Request.writable_of_ofDescription h).exists_toText
  have hparts : r.parts flags = .ok (r.partsWith flags bodyText) := by
    rw [Request.parts_eq_map_partsWith, hbody]
    rfl
  have hcommand :
      Command.ofDescription d flags = .ok (Command.ofParts (r.partsWith flags bodyText)) := by
    simp only [Command.ofDescription, h, bind, Except.bind, Command.ofRequest, hparts]
    rfl
  obtain ⟨members, hread, hjson⟩ := Request.exists_members_of_ofDescription h
  refine ⟨members, bodyText, hread, ?_, hparts, hcommand⟩
  have hcase := Request.ofJson_cases members
  rw [hjson] at hcase
  cases hcase with
  | accepted hurl hmethod hfound hwrite hwhole =>
      exact Request.methodOf_normalizeMethod hmethod

/-- **The method that a command says.**  The command for a description that is accepted has a part
for the method iff the description gives a method, which is a string that is neither empty nor `get`
in letters of either case.  Then it has one such part, with the upper case of the string, untrimmed.
This is not empty and is its own upper case, and a description that gives it instead of the string
has the same command. -/
theorem method_part_of_ofDescription
    {d : Description}
    {r : Request}
    (h : Request.ofDescription d = .ok r)
    (flags : Flags) :
    ∃ members parts,
      d.toJson = .ok (.obj members) ∧
        r.parts flags = .ok parts ∧
        Command.ofDescription d flags = .ok (Command.ofParts parts) ∧
        ((∃ part ∈ parts, part.flag = some (Text.ofString "-X")) ↔
          ∃ method, GivesMethod members method) ∧
        ∀ method, GivesMethod members method →
          parts.filter saysMethod = [⟨.method, some "-X", some method.upper, none⟩] ∧
            method.upper ≠ [] ∧
            method.upper.upper = method.upper ∧
            ∀ d' others,
              d'.toJson = .ok (.obj others) → WithMethod method.upper members others →
                Command.ofDescription d' flags = Command.ofDescription d flags := by
  obtain ⟨members, bodyText, hread, hmethod, hparts, hcommand⟩ :=
    exists_parts_of_ofDescription h flags
  have hfilter := filter_partsWith r flags bodyText
  refine ⟨members, r.partsWith flags bodyText, hread, hparts, hcommand, ?_, ?_⟩
  · rw [← hmethod.ne_get_iff]
    have hsome :
        (∃ part ∈ r.partsWith flags bodyText, part.flag = some (Text.ofString "-X")) ↔
          (r.partsWith flags bodyText).filter saysMethod ≠ [] := by
      simp [List.filter_eq_nil_iff, saysMethod]
    rw [hsome, hfilter]
    simp
  · intro method hgives
    have hupper := hmethod.eq_upper hgives
    have hne : r.method ≠ "GET" := hmethod.ne_get_iff.mpr ⟨method, hgives⟩
    rw [if_neg hne, hupper] at hfilter
    refine ⟨hfilter, Text.upper_eq_nil_iff.not.mpr hgives.2.1, Text.upper_upper method, ?_⟩
    intro d' others hread' hothers
    have hsame : Request.ofDescription d' = Request.ofDescription d := by
      rw [Request.ofDescription, Request.ofDescription, hread, hread']
      exact Request.ofJson_of_withMethod hgives hothers
    rw [Command.ofDescription, Command.ofDescription, hsame]

/-- A description with the given method, as it is written between the quotes. -/
def methodText (written : String) : Description :=
  .text ("\x7b\"url\":\"u\",\"method\":\"" ++ written ++ "\"\x7d")

/-- A method of a space, a ligature and a sharp s becomes five code points, and a description with
these has the same command. -/
theorem method_part_of_ofDescription_ligature :
    ∃ r,
      Request.ofDescription (methodText " \\ufb01\\u00df") = .ok r ∧
        r.method = " FISS" ∧
        ∀ flags, Command.ofDescription (methodText " FISS") flags =
          Command.ofDescription (methodText " \\ufb01\\u00df") flags := by
  have hrequest : Request.ofDescription (methodText " \\ufb01\\u00df") =
      .ok ⟨"u", " FISS", [], .null⟩ := by
    cbv
  have hread : (methodText " \\ufb01\\u00df").toJson =
      .ok (.obj [("url", .str "u"), ("method", .str " ﬁß")]) := by
    cbv
  have hread' : (methodText " FISS").toJson =
      .ok (.obj [("url", .str "u"), ("method", .str " FISS")]) := by
    cbv
  refine ⟨_, hrequest, rfl, fun flags => ?_⟩
  obtain ⟨members, parts, hmembers, -, -, -, hgiven⟩ :=
    method_part_of_ofDescription hrequest flags
  rw [hread] at hmembers
  cases hmembers
  have hgives : GivesMethod [("url", .str "u"), ("method", .str " ﬁß")] " ﬁß" := by
    refine ⟨⟨[("url", .str "u")], [], rfl, List.not_mem_nil⟩, by decide, ?_⟩
    unfold IsUsualMethod
    decide
  apply (hgiven " ﬁß" hgives).2.2.2 _ _ hread'
  have hupper : Text.upper " ﬁß" = " FISS" := by
    decide +kernel
  rw [hupper]
  exact withMethod_append [("url", .str "u")] _ _

end CurlRequest.Curl
