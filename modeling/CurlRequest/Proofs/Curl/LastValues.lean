import CurlRequest.Proofs.Curl.Accepted
import CurlRequest.Proofs.Curl.Rendering
import CurlRequest.Proofs.Curl.Serialization

/-!
# Requests and last-value views

A description is read with every member of its objects, so a header that is given twice is sent
twice.  Its last-value view has each name once.  The view is accepted whenever the description is,
and URL, method and body are those of the description, because these are taken from the last member
of their name in any case.  Only the header lines can differ: in the view a repeated header stands at
its first place with its last value, and it is gone if that value is null.

Texts cannot differ: what is written for a value is written for its view, at every depth.

**Results.**
* `headersOf_viewMembers`, `ofJson_viewMembers`: the header lines of a view, and its request.
* `ofRequest_collapse`: the command does not depend on repeated names in the body.
* `ofJson_view_of_ofDescription`: the requests of a description and of its view.
* `ofJson_view_of_ofDescription_takenBack`: a header that only the description sends.
-/

namespace CurlRequest.Curl

open Json (ViewOf collapseMembers)

namespace Request

section Members

variable (members : List (Text × Json))

/-- The members of the last-value view of an object. -/
def viewMembers : List (Text × Json) :=
  Dictionary.ofEntries (collapseMembers members)

theorem get?_viewMembers
    (name : Text) :
    Dictionary.get? name (viewMembers members) =
      (Dictionary.get? name members).map Json.collapse := by
  rw [viewMembers, Dictionary.get?_ofEntries, Json.get?_collapseMembers]

/-- A URL is its own view. -/
theorem urlOf_viewMembers :
    urlOf (viewMembers members) = urlOf members := by
  unfold urlOf
  rw [get?_viewMembers]
  cases Dictionary.get? "url" members with
  | none =>
      rfl
  | some v =>
      cases v <;> rfl

/-- A method is its own view. -/
theorem methodOf_viewMembers :
    methodOf (viewMembers members) = methodOf members := by
  unfold methodOf
  rw [get?_viewMembers]
  cases Dictionary.get? "method" members with
  | none =>
      rfl
  | some v =>
      cases v <;> rfl

/-- The headers of the view are the view of the headers. -/
theorem headerMembersOf_viewMembers :
    headerMembersOf (viewMembers members) = (headerMembersOf members).map viewMembers := by
  unfold headerMembersOf
  rw [get?_viewMembers]
  cases Dictionary.get? "headers" members with
  | none =>
      rfl
  | some v =>
      cases v <;> rfl

/-- A member with a value is passed over if it has no name, and becomes a header line otherwise. -/
theorem headersOf_cons_of_ne_null
    {name : Text}
    {value : Json}
    (h : value ≠ .null)
    (rest : List (Text × Json)) :
    headersOf ((name, value) :: rest) =
      if name.isEmpty then headersOf rest
      else (do
        let text ← value.toText
        let headers ← headersOf rest
        pure (⟨name, text⟩ :: headers)) := by
  cases value with
  | null =>
      exact absurd rfl h
  | _ =>
      rfl

/-- By induction on the members: header lines are the same if the values are collapsed. -/
theorem headersOf_collapseMembers :
    headersOf (collapseMembers members) = headersOf members := by
  induction members with
  | nil =>
      rfl
  | cons member rest ih =>
      obtain ⟨name, value⟩ := member
      rw [collapseMembers]
      by_cases hnull : value = .null
      · rw [hnull]
        exact ih
      · have hview : value.collapse ≠ .null := by
          cases value with
          | null =>
              exact absurd rfl hnull
          | _ =>
              simp [Json.collapse]
        rw [headersOf_cons_of_ne_null hnull, headersOf_cons_of_ne_null hview, ih,
          Json.toText_collapse]

/-- **The header lines of the view** are those of the members in which every name stands once, at its
first place and with its last value. -/
theorem headersOf_viewMembers :
    headersOf (viewMembers members) = headersOf (Dictionary.ofEntries members) := by
  have hmap : viewMembers members = collapseMembers (Dictionary.ofEntries members) := by
    rw [viewMembers, Json.collapseMembers_eq_map, Json.collapseMembers_eq_map]
    exact Dictionary.ofEntries_map (fun member => member.2.collapse) members
  rw [hmap, headersOf_collapseMembers]

/-- The body of the view is the view of the body. -/
theorem body_viewMembers :
    (Dictionary.get? "body" (viewMembers members)).getD .null =
      ((Dictionary.get? "body" members).getD .null).collapse := by
  rw [get?_viewMembers]
  cases Dictionary.get? "body" members <;> rfl

/-- **The request of the view**, if the parts of the object are in order. -/
theorem ofJson_viewMembers
    {url method : Text}
    {headerMembers : List (Text × Json)}
    {headers : List Header}
    (hurl : urlOf members = .ok url)
    (hne : url ≠ [])
    (hwhole : url.hasSurrogate = false)
    (hmethod : methodOf members = .ok method)
    (hfound : headerMembersOf members = .ok headerMembers)
    (hheaders : headersOf (Dictionary.ofEntries headerMembers) = .ok headers) :
    ofJson (.obj (viewMembers members)) =
      .ok ⟨url, normalizeMethod method, headers,
        ((Dictionary.get? "body" members).getD .null).collapse⟩ := by
  have hfound' : headerMembersOf (viewMembers members) = .ok (viewMembers headerMembers) := by
    rw [headerMembersOf_viewMembers, hfound]
    rfl
  simp only [ofJson, urlOf_viewMembers, hurl, methodOf_viewMembers, hmethod, hfound',
    headersOf_viewMembers, hheaders, body_viewMembers, Except.mapError, bind, Except.bind,
    make_of_not_hasSurrogate hwhole hne]

end Members

/-- A body and its view are sent or not alike. -/
theorem hasBody_collapse
    (r : Request) :
    hasBody { r with body := r.body.collapse } = r.hasBody := by
  obtain ⟨url, method, headers, body⟩ := r
  cases body <;> rfl

/-- **A body and its view** give the same command. -/
theorem ofRequest_collapse
    (r : Request)
    (flags : Flags) :
    Command.ofRequest { r with body := r.body.collapse } flags = Command.ofRequest r flags := by
  have hparts (bodyText : Text) :
      partsWith { r with body := r.body.collapse } flags bodyText = r.partsWith flags bodyText := by
    simp only [partsWith, hasBody_collapse]
    rfl
  simp only [ofRequest_eq_map_ofParts, hparts, Json.toText_collapse]

/-- The writable header members of an object are so where every name stands once. -/
theorem exists_headersOf_ofEntries
    {members : List (Text × Json)}
    (h : Json.Writable (.obj members)) :
    ∃ headers, headersOf (Dictionary.ofEntries members) = .ok headers := by
  apply exists_headersOf
  rw [Json.writable_obj_iff] at h ⊢
  exact Dictionary.forall_mem_ofEntries Json.Writable h

/-- **The view of an accepted description** is accepted too.  Its request has the same URL, the same
method, and the view of the body; its header lines are those of the header members in which every
name stands once, at its first place and with its last value.  So where no name of a header is
repeated both requests have the same header lines and the same command, whatever the flags. -/
theorem ofJson_view_of_ofDescription
    {d : Description}
    {r : Request}
    (h : ofDescription d = .ok r) :
    ∃ members headerMembers view r',
      d.toJson = .ok (.obj members) ∧
        HeaderMembersOf members headerMembers ∧
        headersOf headerMembers = .ok r.headers ∧
        (∀ w, ViewOf (.obj members) w ↔ w = view) ∧
        ofJson view = .ok r' ∧
        r'.url = r.url ∧
        r'.method = r.method ∧
        ViewOf r.body r'.body ∧
        r'.hasBody = r.hasBody ∧
        headersOf (Dictionary.ofEntries headerMembers) = .ok r'.headers ∧
        ((headerMembers.map Prod.fst).Nodup →
          r'.headers = r.headers ∧
            ∀ flags, ∃ c, Command.ofDescription d flags = .ok c ∧
              Command.ofRequest r' flags = .ok c) := by
  obtain ⟨members, hread, hjson⟩ := exists_members_of_ofDescription h
  have hwritable := Description.writable_of_toJson hread
  have hbody := writable_of_ofDescription h
  have hcase := ofJson_cases members
  rw [hjson] at hcase
  cases hcase with
  | @accepted url method headerMembers headers hurl hmethod hfound hwrite hwhole =>
      obtain ⟨headers', hheaders'⟩ :=
        exists_headersOf_ofEntries (writable_of_headerMembersOf hwritable hfound)
      have hurlOf : urlOf members = .ok url := by
        rw [urlOf, hurl.1]
        simp [hurl.2]
      have hview := ofJson_viewMembers members hurlOf hurl.2 hwhole hmethod hfound hheaders'
      refine ⟨members, headerMembers, _, _, hread, headerMembersOf_eq_ok hfound, hwrite,
        fun w => Json.viewOf_iff, hview, rfl, rfl, Json.viewOf_collapse _,
        hasBody_collapse ⟨url, normalizeMethod method, headers, _⟩, hheaders', ?_⟩
      intro hnames
      rw [Dictionary.ofEntries_eq_self hnames, hwrite] at hheaders'
      obtain rfl : headers = headers' := Except.ok.inj hheaders'
      refine ⟨rfl, fun flags => ?_⟩
      obtain ⟨c, hc⟩ := exists_ofRequest hbody flags
      refine ⟨c, ?_, (ofRequest_collapse _ flags).trans hc⟩
      simp only [Command.ofDescription, h, bind, Except.bind, hc, Except.mapError]

/-- A description that names a header twice, the second time without a value, and that gives another
header an object in which a name is repeated. -/
def takenBack : Description :=
  .text ("\x7b\"url\":\"u\",\"headers\":" ++
    "\x7b\"A\":\"1\",\"B\":\x7b\"k\":1,\"k\":2\x7d,\"A\":null\x7d\x7d")

/-- To the description every member counts, so the header that is taken back is sent; to its view the
last value counts, and it is not. -/
theorem ofJson_view_of_ofDescription_takenBack :
    ∃ r view r',
      ofDescription takenBack = .ok r ∧
        r.headers = [⟨"A", "1"⟩, ⟨"B", "\x7b\"k\":2\x7d"⟩] ∧
        ViewOf (.obj [("url", .str "u"), ("headers", .obj [("A", .str "1"),
          ("B", .obj [("k", .int 1), ("k", .int 2)]), ("A", .null)])]) view ∧
        ofJson view = .ok r' ∧
        r'.url = "u" ∧
        r'.headers = [⟨"B", "\x7b\"k\":2\x7d"⟩] := by
  have hrequest : ofDescription takenBack =
      .ok ⟨"u", "GET", [⟨"A", "1"⟩, ⟨"B", "\x7b\"k\":2\x7d"⟩], .null⟩ := by
    cbv
  have hread : takenBack.toJson = .ok (.obj [("url", .str "u"), ("headers", .obj [("A", .str "1"),
      ("B", .obj [("k", .int 1), ("k", .int 2)]), ("A", .null)])]) := by
    cbv
  obtain ⟨members, headerMembers, view, r', hmembers, hheaders, -, hview, haccepted, hurl, -, -, -,
    hlines, -⟩ := ofJson_view_of_ofDescription hrequest
  rw [hread] at hmembers
  cases hmembers
  refine ⟨_, view, r', hrequest, rfl, (hview view).mpr rfl, haccepted, hurl, ?_⟩
  cases hheaders with
  | given hlast =>
      cases Dictionary.get?_eq_some_iff.mpr hlast
      have hsent : headersOf (Dictionary.ofEntries [("A", .str "1"),
          ("B", .obj [("k", .int 1), ("k", .int 2)]), ("A", .null)]) =
            .ok [⟨"B", "\x7b\"k\":2\x7d"⟩] := by
        cbv
      exact Except.ok.inj (hlines.symm.trans hsent)
  | absent hnone =>
      have hlast : Dictionary.Last (Text.ofString "headers")
          [(Text.ofString "url", Json.str "u"), (Text.ofString "headers", .obj [("A", .str "1"),
            ("B", .obj [("k", .int 1), ("k", .int 2)]), ("A", .null)])] _ :=
        ⟨[(Text.ofString "url", Json.str "u")], [], rfl, List.not_mem_nil⟩
      cases hnone _ hlast

end Request

end CurlRequest.Curl
