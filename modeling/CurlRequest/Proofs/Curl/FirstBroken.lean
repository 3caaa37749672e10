import CurlRequest.Proofs.Curl.Description

/-!
# The first broken rule decides

A description has to keep seven rules, which stand in a fixed order.  Each of them is said here of
the description alone: of its text, of the value that the grammar of JSON gives to the text, and of
the last values that this value has under a name.

A description is refused for breaking a rule iff it breaks one, and the fault is that of the first.

**Results.**
* `FirstBroken.unique`: at most one rule is the first that is broken.
* `ruleCase_ofDescription`: a first rule is broken and decides the fault, or all rules hold.
* `ofDescription_fault_iff`: the kinds of fault, by the first rule that is broken.
-/

namespace CurlRequest.Curl

/-- The rules of a description. -/
inductive Rule
  | decodable
  | visible
  | json
  | object
  | url
  | method
  | headers
  deriving DecidableEq, Repr

namespace Rule

/-- The place of a rule in the order in which the rules are checked. -/
def place : Rule → ℕ
  | decodable => 0
  | visible => 1
  | json => 2
  | object => 3
  | url => 4
  | method => 5
  | headers => 6

theorem place_injective
    {a b : Rule}
    (h : a.place = b.place) :
    a = b := by
  cases a <;> cases b <;> first | rfl | cases h

theorem place_lt
    (rule : Rule) :
    rule.place < headers.place + 1 := by
  cases rule <;> decide

/-- The kind of fault of a description that breaks a rule. -/
def kind : Rule → Text
  | decodable => "ParseError"
  | visible => "EmptyInput"
  | json => "ParseError"
  | object => "NotAnObject"
  | url => "MissingOrInvalidUrl"
  | method => "InvalidMethod"
  | headers => "InvalidHeaders"

/-- What a rule asks of a description. -/
def Holds (d : Description) : Rule → Prop
  | decodable => ∃ t, d.TextOf t
  | visible => ∃ t, d.TextOf t ∧ ∃ c ∈ t, c.isBlank = false
  | json => ∃ v, d.Describes v
  | object => ∃ members, d.Describes (.obj members)
  | url => ∃ members, d.Describes (.obj members) ∧
      ∃ url, Dictionary.Last "url" members (.str url) ∧ url ≠ []
  | method => ∃ members, d.Describes (.obj members) ∧
      ∀ v, Dictionary.Last "method" members v → v = .null ∨ ∃ s, v = .str s
  | headers => ∃ members, d.Describes (.obj members) ∧
      ∀ v, Dictionary.Last "headers" members v → v = .null ∨ ∃ headers, v = .obj headers

end Rule

/-- A rule is broken, and every rule before it holds. -/
structure FirstBroken (d : Description) (rule : Rule) : Prop where
  broken : ¬ rule.Holds d
  holds_before : ∀ earlier : Rule, earlier.place < rule.place → earlier.Holds d

/-- At most one rule is the first that is broken. -/
theorem FirstBroken.unique
    {d : Description}
    {rule rule' : Rule}
    (h : FirstBroken d rule)
    (h' : FirstBroken d rule') :
    rule = rule' := by
  rcases Nat.lt_trichotomy rule.place rule'.place with hlt | heq | hlt
  · exact absurd (h'.holds_before rule hlt) h.broken
  · exact Rule.place_injective heq
  · exact absurd (h.holds_before rule' hlt) h'.broken

namespace Request

/-! ## The rules and the last values -/

theorem isMethod_iff
    {members : List (Text × Json)} :
    IsMethod (Dictionary.get? "method" members)
      ↔
    ∀ v, Dictionary.Last "method" members v → v = .null ∨ ∃ s, v = .str s := by
  simp only [← Dictionary.get?_eq_some_iff]
  generalize Dictionary.get? "method" members = found
  cases found with
  | none =>
      simp [IsMethod]
  | some v =>
      cases v <;> simp [IsMethod]

theorem areHeaders_iff
    {members : List (Text × Json)} :
    AreHeaders (Dictionary.get? "headers" members)
      ↔
    ∀ v, Dictionary.Last "headers" members v → v = .null ∨ ∃ headers, v = .obj headers := by
  simp only [← Dictionary.get?_eq_some_iff]
  generalize Dictionary.get? "headers" members = found
  cases found with
  | none =>
      simp [AreHeaders]
  | some v =>
      cases v <;> simp [AreHeaders]

theorem exists_isUrl_iff
    {members : List (Text × Json)} :
    (∃ url, IsUrl url (Dictionary.get? "url" members))
      ↔
    ∃ url, Dictionary.Last "url" members (.str url) ∧ url ≠ [] := by
  simp only [IsUrl, Dictionary.get?_eq_some_iff]

theorem isMethod_of_methodOf
    {members : List (Text × Json)}
    {method : Text}
    (h : methodOf members = .ok method) :
    IsMethod (Dictionary.get? "method" members) := by
  rcases methodOf_cases members with ⟨hmethod, -⟩ | ⟨-, hfault⟩
  · exact hmethod
  · rw [h] at hfault
    cases hfault

theorem areHeaders_of_headerMembersOf
    {members headerMembers : List (Text × Json)}
    (h : headerMembersOf members = .ok headerMembers) :
    AreHeaders (Dictionary.get? "headers" members) := by
  rcases headerMembersOf_cases members with ⟨hheaders, -⟩ | ⟨-, hfault⟩
  · exact hheaders
  · rw [h] at hfault
    cases hfault

end Request

/-! ## The rules that hold -/

section Holds

variable {d : Description}

/-- No rule stands before the first. -/
theorem holds_before_decodable :
    ∀ earlier : Rule, earlier.place < Rule.decodable.place → earlier.Holds d :=
  fun _ hlt => absurd hlt (Nat.not_lt_zero _)

/-- A rule that holds after those before it is one more that holds. -/
theorem holds_through
    (rule : Rule)
    (hbefore : ∀ earlier : Rule, earlier.place < rule.place → earlier.Holds d)
    (h : rule.Holds d) :
    ∀ earlier : Rule, earlier.place < rule.place + 1 → earlier.Holds d := by
  intro earlier hlt
  rcases Nat.lt_succ_iff_lt_or_eq.mp hlt with hlt | heq
  · exact hbefore earlier hlt
  · rw [Rule.place_injective heq]
    exact h

/-- The rules before the visible text hold if there is a text. -/
theorem holds_before_visible
    {t : Text}
    (ht : d.TextOf t) :
    ∀ earlier : Rule, earlier.place < Rule.visible.place → earlier.Holds d :=
  holds_through .decodable holds_before_decodable ⟨t, ht⟩

/-- The rules before the value hold if something is visible. -/
theorem holds_before_json
    {t : Text}
    (ht : d.TextOf t)
    (hvisible : t.isBlank = false) :
    ∀ earlier : Rule, earlier.place < Rule.json.place → earlier.Holds d := by
  refine holds_through .visible (holds_before_visible ht) ⟨t, ht, ?_⟩
  simpa [Text.isBlank] using hvisible

/-- The rules before the object hold if a value is described. -/
theorem holds_before_object
    {v : Json}
    (hv : d.Describes v) :
    ∀ earlier : Rule, earlier.place < Rule.object.place → earlier.Holds d := by
  have hvalue := hv
  obtain ⟨t, ht, htext⟩ := hv
  exact holds_through .json (holds_before_json ht (Json.isBlank_of_jsonText htext)) ⟨v, hvalue⟩

/-- The rules before the members hold if an object is described. -/
theorem holds_before_url
    {members : List (Text × Json)}
    (hv : d.Describes (.obj members)) :
    ∀ earlier : Rule, earlier.place < Rule.url.place → earlier.Holds d :=
  holds_through .object (holds_before_object hv) ⟨members, hv⟩

/-- A description that is nested within the limit describes one value at most. -/
theorem describes_unique
    {v w : Json}
    (h : d.nesting ≤ Json.nestingLimit)
    (hv : d.Describes v)
    (hw : d.Describes w) :
    v = w := by
  rw [← Description.toJson_eq_ok_iff h] at hv hw
  rw [hv] at hw
  exact Except.ok.inj hw

/-- What is asked of some described object is asked of the one that is described. -/
theorem exists_describes_iff
    {P : List (Text × Json) → Prop}
    {members : List (Text × Json)}
    (h : d.nesting ≤ Json.nestingLimit)
    (hv : d.Describes (.obj members)) :
    (∃ others, d.Describes (.obj others) ∧ P others)
      ↔
    P members := by
  constructor
  · rintro ⟨others, hothers, hP⟩
    cases describes_unique h hv hothers
    exact hP
  · intro hP
    exact ⟨members, hv, hP⟩

end Holds

/-! ## The outcome -/

/-- What becomes of a description: a first rule is broken and decides the fault, or all rules hold
and no rule is reported. -/
inductive RuleCase (d : Description) : Except ConvertFault Request → Prop
  | broken
      {rule : Rule}
      {fault : RequestFault}
      (h : FirstBroken d rule)
      (hkind : fault.kind = rule.kind) :
      RuleCase d (.error (.request fault))
  | kept
      {outcome : Except ConvertFault Request}
      (h : ∀ rule : Rule, rule.Holds d)
      (houtcome : ∀ fault, outcome ≠ .error (.request fault)) :
      RuleCase d outcome

/-- The outcome for a described object, by the rules for its members. -/
theorem ruleCase_ofJson
    {d : Description}
    {members : List (Text × Json)}
    (h : d.nesting ≤ Json.nestingLimit)
    (hv : d.Describes (.obj members)) :
    RuleCase d (Request.ofJson (.obj members)) := by
  have hurlIff : Rule.url.Holds d ↔ ∃ url, Request.IsUrl url (Dictionary.get? "url" members) := by
    rw [Request.exists_isUrl_iff]
    exact exists_describes_iff h hv
  have hmethodIff : Rule.method.Holds d ↔ Request.IsMethod (Dictionary.get? "method" members) := by
    rw [Request.isMethod_iff]
    exact exists_describes_iff h hv
  have hheadersIff :
      Rule.headers.Holds d ↔ Request.AreHeaders (Dictionary.get? "headers" members) := by
    rw [Request.areHeaders_iff]
    exact exists_describes_iff h hv
  have hbefore := holds_before_url hv
  have hall :
      (∃ url, Request.IsUrl url (Dictionary.get? "url" members)) →
        Request.IsMethod (Dictionary.get? "method" members) →
          Request.AreHeaders (Dictionary.get? "headers" members) → ∀ rule : Rule, rule.Holds d := by
    intro hurl hmethod hheaders rule
    have hbefore := holds_through .url hbefore (hurlIff.mpr hurl)
    have hbefore := holds_through .method hbefore (hmethodIff.mpr hmethod)
    exact holds_through .headers hbefore (hheadersIff.mpr hheaders) rule rule.place_lt
  have hcase := Request.ofJson_cases members
  generalize Request.ofJson (.obj members) = outcome at hcase ⊢
  cases hcase with
  | badUrl hurl =>
      exact .broken ⟨hurlIff.not.mpr (not_exists.mpr hurl), hbefore⟩ rfl
  | badMethod hurl hmethod =>
      have hbefore := holds_through .url hbefore (hurlIff.mpr ⟨_, hurl⟩)
      exact .broken ⟨hmethodIff.not.mpr hmethod, hbefore⟩ rfl
  | badHeaders hurl hmethod hheaders =>
      have hbefore := holds_through .url hbefore (hurlIff.mpr ⟨_, hurl⟩)
      have hbefore := holds_through .method hbefore (hmethodIff.mpr hmethod)
      exact .broken ⟨hheadersIff.not.mpr hheaders, hbefore⟩ rfl
  | unwritable hurl hmethod hheaders hfound hwrite =>
      refine .kept (hall ⟨_, hurl⟩ hmethod hheaders) ?_
      intro fault hfault
      cases hfault
  | brokenUrl hurl hmethod hheaders hbroken =>
      refine .kept (hall ⟨_, hurl⟩ hmethod hheaders) ?_
      intro fault hfault
      cases hfault
  | accepted hurl hmethod hfound hwrite hwhole =>
      refine .kept (hall ⟨_, hurl⟩ (Request.isMethod_of_methodOf hmethod)
        (Request.areHeaders_of_headerMembersOf hfound)) ?_
      intro fault hfault
      cases hfault

/-- What becomes of a description that is nested within the limit. -/
theorem ruleCase_ofDescription
    {d : Description}
    (h : d.nesting ≤ Json.nestingLimit) :
    RuleCase d (Request.ofDescription d) := by
  have hread := Description.toJson_cases h
  rw [Request.ofDescription]
  generalize d.toJson = outcome at hread ⊢
  cases hread with
  | undecodable hnone =>
      have hfirst : FirstBroken d .decodable :=
        ⟨not_exists.mpr hnone, holds_before_decodable⟩
      exact .broken hfirst rfl
  | blank ht hblank =>
      have hfirst : FirstBroken d .visible := by
        refine ⟨?_, holds_before_visible ht⟩
        rintro ⟨t', ht', c, hc, hvisible⟩
        cases ht.unique ht'
        rw [Text.isBlank, List.all_eq_true] at hblank
        rw [hblank c hc] at hvisible
        cases hvisible
      exact .broken hfirst rfl
  | malformed ht hblank hnone =>
      have hfirst : FirstBroken d .json := by
        refine ⟨?_, holds_before_json ht hblank⟩
        rintro ⟨v, t', ht', hv⟩
        cases ht.unique ht'
        exact hnone v hv
      exact .broken hfirst rfl
  | @value t v ht hv =>
      have hdescribes : d.Describes v := ⟨t, ht, hv⟩
      cases v with
      | obj members =>
          exact ruleCase_ofJson h hdescribes
      | _ =>
          have hfirst : FirstBroken d .object := by
            refine ⟨?_, holds_before_object hdescribes⟩
            rintro ⟨members, hmembers⟩
            cases describes_unique h hdescribes hmembers
          exact .broken hfirst rfl

/-- **The first broken rule decides.**  A description that is nested within the limit is refused with
a fault of some kind iff this is the kind of the first rule that it breaks. -/
theorem ofDescription_fault_iff
    (d : Description)
    (h : d.nesting ≤ Json.nestingLimit)
    (kind : Text) :
    (∃ fault, Request.ofDescription d = .error (.request fault) ∧ fault.kind = kind)
      ↔
    ∃ rule, FirstBroken d rule ∧ rule.kind = kind := by
  have hcase := ruleCase_ofDescription h
  generalize Request.ofDescription d = outcome at hcase
  cases hcase with
  | @broken rule fault hfirst hkind =>
      constructor
      · rintro ⟨fault', hfault, rfl⟩
        cases hfault
        exact ⟨rule, hfirst, hkind.symm⟩
      · rintro ⟨rule', hfirst', rfl⟩
        cases hfirst.unique hfirst'
        exact ⟨fault, rfl, hkind⟩
  | kept hall houtcome =>
      constructor
      · rintro ⟨fault, hfault, -⟩
        exact absurd hfault (houtcome fault)
      · rintro ⟨rule, hfirst, -⟩
        exact absurd (hall rule) hfirst.broken

/-- A broken method counts before broken headers, and a broken URL does not count where a good one
follows. -/
theorem ofDescription_fault_iff_repeatedUrl :
    Description.nesting (.text "\x7b\"url\":1,\"headers\":[],\"method\":2,\"url\":\"x\"\x7d") ≤
        Json.nestingLimit ∧
      ∃ rule,
        FirstBroken
            (.text "\x7b\"url\":1,\"headers\":[],\"method\":2,\"url\":\"x\"\x7d") rule ∧
          rule.kind = "InvalidMethod" := by
  refine ⟨by decide, ?_⟩
  refine (ofDescription_fault_iff _ (by decide) _).mp ⟨.badMethod, ?_, rfl⟩
  cbv

end CurlRequest.Curl
