import CurlRequest.Curl.Export
import CurlRequest.Proofs.Curl.Masking
import CurlRequest.Proofs.Curl.Rules
import CurlRequest.Proofs.Json.Writing
import CurlRequest.Proofs.Text.Surrogates

/-!
# Which written forms hold surrogates

A JSON escape can denote half of a surrogate pair, so the method, the header values and the body of
a request can hold a surrogate; its URL cannot.  Neither quoting for a shell nor escaping in JSON
removes a surrogate or adds one.  So a written form of a command holds a surrogate iff something of
the request does that it shows.  What a mask hides is not in the masked form.

**Results.**
* `Shell.hasSurrogate_quote`, `Json.hasSurrogate_escape`: quoting and escaping keep surrogates.
* `Request.hasSurrogate_lines`: a rendering holds the surrogates that are in the request.
* `Request.hasSurrogate_masked_imp_full`: what is masked shows no surrogate that is not there.
* `Command.hasSurrogate_of_ofRequest`: the written forms show what the request shows.
-/

namespace CurlRequest

/-- Quoting keeps surrogates and adds none. -/
theorem Shell.hasSurrogate_quote
    (t : Text) :
    (Shell.quote t).hasSurrogate = t.hasSurrogate := by
  have hone (c : CodePoint) : (Shell.quoteOne c).hasSurrogate = c.isSurrogate := by
    unfold Shell.quoteOne
    split
    · rename_i hquote
      subst hquote
      rfl
    · exact Bool.or_false _
  have hquote : Text.hasSurrogate [Shell.singleQuote] = false := rfl
  have hsplit :
      Shell.quote t = [Shell.singleQuote] ++ (t.flatMap Shell.quoteOne ++ [Shell.singleQuote]) :=
    rfl
  rw [hsplit]
  simp only [Text.hasSurrogate_append, Text.hasSurrogate_flatMap hone, hquote, Bool.or_false,
    Bool.false_or]

namespace Json

/-- An escaped code point is a surrogate iff it is one without the escape. -/
theorem hasSurrogate_escapeOne
    (c : CodePoint) :
    (escapeOne false c).hasSurrogate = c.isSurrogate := by
  rcases escapeOne_cases c with ⟨e, he, hescape⟩ | ⟨hcontrol, hescape⟩ | ⟨-, -, -, hescape⟩
  · rw [hescape]
    cases he <;> rfl
  · have hnot : c.isSurrogate = false := by
      rw [CodePoint.isSurrogate, decide_eq_false_iff_not]
      omega
    rw [hescape, unitEscape, Text.hasSurrogate_append, Text.hasSurrogate_ofString,
      Text.hasSurrogate_hex, hnot, Bool.or_false]
  · rw [hescape]
    exact Bool.or_false _

/-- Escaping keeps surrogates and adds none. -/
@[simp] theorem hasSurrogate_escape
    (t : Text) :
    (escape false t).hasSurrogate = t.hasSurrogate := by
  simp only [escape, Text.hasSurrogate_append, Text.hasSurrogate_ofString,
    Text.hasSurrogate_flatMap hasSurrogate_escapeOne, Bool.or_false, Bool.false_or]

/-- The start of a line holds no surrogate. -/
@[simp] theorem hasSurrogate_newLine
    (level : Nat) :
    (newLine level).hasSurrogate = false := by
  rw [newLine, Text.hasSurrogate_append, Text.hasSurrogate_ofString, Text.hasSurrogate_replicate,
    Bool.false_or]

end Json

namespace Curl

/-! ## Requests -/

/-- The URL of a request that is read holds no surrogate. -/
theorem Request.hasSurrogate_url
    {d : Description}
    {r : Request}
    (h : Request.ofDescription d = .ok r) :
    r.url.hasSurrogate = false := by
  obtain ⟨members, -, hjson⟩ := Request.exists_members_of_ofDescription h
  have hcase := Request.ofJson_cases members
  rw [hjson] at hcase
  cases hcase with
  | accepted hurl hmethod hfound hwrite hwhole =>
      exact hwhole

/-- Whether a surrogate is in what a command shows of a request: in its method, in a header line
that `line` makes, or in the text of a body that is sent. -/
def Request.hasSurrogate (r : Request) (line : Header → Text) (bodyText : Text) : Bool :=
  r.method.hasSurrogate || r.headers.any (fun h => (line h).hasSurrogate) ||
    (r.hasBody && bodyText.hasSurrogate)

/-- The token of a flag holds no surrogate. -/
theorem Flag.hasSurrogate_token
    (f : Flag) :
    f.token.hasSurrogate = false := by
  cases f <;> exact Text.hasSurrogate_ofString _

/-- **A rendering holds a surrogate** iff one is in what it shows of the request. -/
theorem Request.hasSurrogate_lines
    {r : Request}
    (hurl : r.url.hasSurrogate = false)
    (flags : Flags)
    (line : Header → Text)
    (bodyText : Text) :
    (Text.join continuation (r.lines flags line bodyText)).hasSurrogate =
      r.hasSurrogate line bodyText := by
  have hcontinuation : continuation.hasSurrogate = false := Text.hasSurrogate_ofString _
  have hflags : (flags.active.map Flag.token).any Text.hasSurrogate = false := by
    rw [List.any_map, List.any_eq_false]
    intro f _
    rw [Function.comp_apply, Flag.hasSurrogate_token]
    exact Bool.false_ne_true
  -- The usual method is not written, and it holds no surrogate.
  have hmethod :
      List.any (if r.method = Text.ofString "GET" then [] else [↑"-X " ++ Shell.quote r.method])
          Text.hasSurrogate = r.method.hasSurrogate := by
    split
    · rename_i husual
      rw [husual, Text.hasSurrogate_ofString]
      rfl
    · simp only [List.any_cons, List.any_nil, Text.hasSurrogate_append,
        Text.hasSurrogate_ofString, Shell.hasSurrogate_quote, Bool.or_false, Bool.false_or]
  have hheaders :
      (r.headers.map fun h => ↑"-H " ++ Shell.quote (line h)).any Text.hasSurrogate =
        r.headers.any fun h => (line h).hasSurrogate := by
    rw [List.any_map]
    congr 1
    funext h
    simp only [Function.comp_apply, Text.hasSurrogate_append, Text.hasSurrogate_ofString,
      Shell.hasSurrogate_quote, Bool.false_or]
  have hbody :
      List.any (if r.hasBody then [↑"-d " ++ Shell.quote bodyText] else []) Text.hasSurrogate =
        (r.hasBody && bodyText.hasSurrogate) := by
    cases r.hasBody with
    | false =>
        rfl
    | true =>
        simp only [if_true, List.any_cons, List.any_nil, Text.hasSurrogate_append,
          Text.hasSurrogate_ofString, Shell.hasSurrogate_quote, Bool.or_false, Bool.false_or,
          Bool.true_and]
  rw [Text.hasSurrogate_join hcontinuation, Request.lines, Request.hasSurrogate]
  simp only [List.any_append, hflags, hmethod, hheaders, hbody, List.any_cons, List.any_nil,
    Text.hasSurrogate_ofString, Shell.hasSurrogate_quote, hurl, Bool.or_false, Bool.false_or]

/-! ## Masking -/

/-- What is shown of a secret holds nothing but glyphs and what the secret holds. -/
theorem maskSecret_subset
    (v : Text) :
    maskSecret v ⊆ maskGlyph :: v := by
  have hkeep (front back glyphs : Nat) : keepEnds front back glyphs v ⊆ maskGlyph :: v := by
    unfold keepEnds
    refine List.append_subset.mpr ⟨List.append_subset.mpr ⟨?_, ?_⟩, ?_⟩
    · exact List.subset_cons_of_subset _ (List.take_subset _ _)
    · intro c hc
      rw [List.eq_of_mem_replicate hc]
      exact List.mem_cons_self
    · exact List.subset_cons_of_subset _ (List.drop_subset _ _)
  rcases length_cases v with hlong | hmiddle | hshort
  · rw [maskSecret_of_long hlong]
    exact hkeep 10 4 16
  · rw [maskSecret_of_middle hmiddle]
    exact hkeep 4 2 6
  · rw [maskSecret_of_short hshort]
    exact List.subset_cons_self _ _

/-- A header line that is shown holds a surrogate only if the header line does. -/
theorem Header.hasSurrogate_shownLine
    {h : Header}
    (hline : h.line.hasSurrogate = false) :
    h.shownLine.hasSurrogate = false := by
  unfold Header.shownLine
  split
  · rename_i hname
    have hglyph : Text.hasSurrogate (maskGlyph :: h.value) = h.value.hasSurrogate := rfl
    simp only [Header.line, Text.hasSurrogate_append, Text.hasSurrogate_ofString, Bool.or_false,
      Bool.or_eq_false_iff] at hline ⊢
    refine ⟨hline.1, ?_⟩
    rw [mask, if_pos hname]
    apply Text.hasSurrogate_of_subset (maskSecret_subset h.value)
    rw [hglyph]
    exact hline.2
  · exact hline

/-- **The masked rendering** shows a surrogate only if the full one does. -/
theorem Request.hasSurrogate_masked_imp_full
    {r : Request}
    {bodyText : Text}
    (h : r.hasSurrogate Header.shownLine bodyText = true) :
    r.hasSurrogate Header.line bodyText = true := by
  simp only [Request.hasSurrogate, Bool.or_eq_true, List.any_eq_true] at h ⊢
  rcases h with (hmethod | ⟨header, hmem, hshown⟩) | hbody
  · exact Or.inl (Or.inl hmethod)
  · refine Or.inl (Or.inr ⟨header, hmem, ?_⟩)
    by_contra hline
    rw [Header.hasSurrogate_shownLine (Bool.not_eq_true _ ▸ hline)] at hshown
    cases hshown
  · exact Or.inr hbody

/-! ## Written forms -/

namespace Command

/-- The JSON form shows the surrogates of the renderings in it. -/
theorem hasSurrogate_jsonText
    (includeFull : Bool)
    (c : Command) :
    (c.jsonText includeFull).hasSurrogate =
      (includeFull && c.full.hasSurrogate || c.masked.hasSurrogate) := by
  cases includeFull <;>
    simp only [jsonText, toJson, Json.pretty, Json.layOut, Json.layOutMembers, Json.scalarText,
      Text.hasSurrogate_append, Text.hasSurrogate_ofString, Json.hasSurrogate_escape,
      Json.hasSurrogate_newLine, if_true, Bool.false_eq_true, if_false, List.nil_append,
      List.cons_append, Bool.or_false, Bool.false_or, Bool.true_and, Bool.false_and]

/-- The script shows the surrogates of the full rendering. -/
theorem hasSurrogate_scriptText
    (c : Command) :
    c.scriptText.hasSurrogate = c.full.hasSurrogate := by
  simp only [scriptText, Text.hasSurrogate_append, Text.hasSurrogate_ofString, Bool.or_false,
    Bool.false_or]

/-- **The written forms of a command** hold a surrogate iff one is in what they show of the request:
the header lines are those of the masked rendering where the secrets are left out. -/
theorem hasSurrogate_of_ofRequest
    {r : Request}
    {flags : Flags}
    {bodyText : Text}
    {c : Command}
    (hurl : r.url.hasSurrogate = false)
    (hbody : r.body.toText = .ok bodyText)
    (hc : ofRequest r flags = .ok c) :
    (∀ includeFull, (c.jsonText includeFull).hasSurrogate =
        r.hasSurrogate (if includeFull then Header.line else Header.shownLine) bodyText) ∧
      c.scriptText.hasSurrogate = r.hasSurrogate Header.line bodyText := by
  rw [ofRequest_eq, hbody] at hc
  cases hc
  have hlines := Request.hasSurrogate_lines hurl flags
  constructor
  · intro includeFull
    simp only [hasSurrogate_jsonText, hlines]
    cases includeFull with
    | false =>
        rfl
    | true =>
        simp only [if_true, Bool.true_and, Bool.or_eq_left_iff_imp]
        exact Request.hasSurrogate_masked_imp_full
  · simp only [hasSurrogate_scriptText, hlines]

end Command

end Curl

end CurlRequest
