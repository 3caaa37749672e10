import CurlRequest.Proofs.Curl.Decoding
import Mathlib.Data.List.Forall2

/-!
# What the masked rendering shows

A secret is shown by its two ends with glyphs between them.  The number of code points that are
shown tells three classes of secrets apart: more than 20 code points, nine to 20, and fewer.  This
module says exactly which secrets look alike, first for one value and then for the whole command.

**Results.**
* `maskSecret_eq_iff`: two secrets look alike iff they are equal or of one class with the same ends.
* `maskSecret_maskSecret`: what is shown of a secret is shown whole.
* `masked_eq_masked_iff`: two requests that differ in header values only have the same masked
  rendering iff the values look alike at every place.
* `masked_eq_full_redact`: the masked rendering is the full rendering of the redacted request.
* `Request.MaskedAlike`: requests that differ only in what is not shown of them.
-/

namespace CurlRequest.Curl

open Shell (quote)

/-! ## Values -/

/-- The two ends of a value, with glyphs between them. -/
def keepEnds (front back glyphs : Nat) (v : Text) : Text :=
  v.take front ++ List.replicate glyphs maskGlyph ++ v.drop (v.length - back)

section KeepEnds

variable {front back glyphs : Nat} {v w : Text}

/-- The length of what is kept does not depend on the value. -/
theorem length_keepEnds
    (hv : front + back ≤ v.length) :
    (keepEnds front back glyphs v).length = front + glyphs + back := by
  simp only [keepEnds, List.length_append, List.length_take, List.length_replicate,
    List.length_drop]
  omega

/-- The front is kept. -/
theorem take_keepEnds
    (hv : front + back ≤ v.length) :
    (keepEnds front back glyphs v).take front = v.take front := by
  have hfront : (v.take front).length = front := by
    rw [List.length_take]
    omega
  unfold keepEnds
  rw [List.append_assoc, List.take_append_of_le_length (by omega), List.take_take, Nat.min_self]

/-- The back is kept. -/
theorem drop_keepEnds
    (hv : front + back ≤ v.length) :
    (keepEnds front back glyphs v).drop ((keepEnds front back glyphs v).length - back) =
      v.drop (v.length - back) := by
  have hbefore :
      (v.take front ++ List.replicate glyphs maskGlyph).length = front + glyphs := by
    rw [List.length_append, List.length_take, List.length_replicate]
    omega
  rw [length_keepEnds hv, Nat.add_sub_cancel]
  unfold keepEnds
  rw [← hbefore, List.drop_left]

/-- Ends that were kept are kept again. -/
theorem keepEnds_keepEnds
    (hv : front + back ≤ v.length) :
    keepEnds front back glyphs (keepEnds front back glyphs v) = keepEnds front back glyphs v := by
  calc
    keepEnds front back glyphs (keepEnds front back glyphs v) =
        (keepEnds front back glyphs v).take front ++ List.replicate glyphs maskGlyph ++
          (keepEnds front back glyphs v).drop
            ((keepEnds front back glyphs v).length - back) := rfl
    _ = v.take front ++ List.replicate glyphs maskGlyph ++ v.drop (v.length - back) := by
        rw [take_keepEnds hv, drop_keepEnds hv]
    _ = keepEnds front back glyphs v := rfl

/-- Two values keep the same iff their ends are the same. -/
theorem keepEnds_eq_iff
    (hv : front + back ≤ v.length)
    (hw : front + back ≤ w.length) :
    keepEnds front back glyphs v = keepEnds front back glyphs w
      ↔
    v.take front = w.take front ∧ v.drop (v.length - back) = w.drop (w.length - back) := by
  constructor
  · intro h
    have hfront : (keepEnds front back glyphs v).take front = v.take front := take_keepEnds hv
    have hback :
        (keepEnds front back glyphs v).drop ((keepEnds front back glyphs v).length - back) =
          v.drop (v.length - back) :=
      drop_keepEnds hv
    rw [← hfront, ← hback, h]
    exact ⟨take_keepEnds hw, drop_keepEnds hw⟩
  · rintro ⟨hfront, hback⟩
    unfold keepEnds
    rw [hfront, hback]

end KeepEnds

/-- A secret of more than 20 code points shows ten and four of them. -/
theorem maskSecret_of_long
    {v : Text}
    (h : 20 < v.length) :
    maskSecret v = keepEnds 10 4 16 v := by
  simp only [maskSecret, h, if_true]
  rfl

/-- A secret of nine to 20 code points shows four and two of them. -/
theorem maskSecret_of_middle
    {v : Text}
    (h : 9 ≤ v.length ∧ v.length ≤ 20) :
    maskSecret v = keepEnds 4 2 6 v := by
  have hlong : ¬ 20 < v.length := by omega
  have hshort : 8 < v.length := by omega
  simp only [maskSecret, hlong, hshort, if_false, if_true]
  rfl

/-- A secret of at most eight code points is shown whole. -/
theorem maskSecret_of_short
    {v : Text}
    (h : v.length ≤ 8) :
    maskSecret v = v := by
  have hlong : ¬ 20 < v.length := by omega
  have hshort : ¬ 8 < v.length := by omega
  simp only [maskSecret, hlong, hshort, if_false]

/-- What is shown of a secret of more than 20 code points has 30 of them. -/
theorem length_maskSecret_of_long
    {v : Text}
    (h : 20 < v.length) :
    (maskSecret v).length = 30 := by
  rw [maskSecret_of_long h, length_keepEnds (by omega)]

/-- What is shown of a secret of nine to 20 code points has twelve of them. -/
theorem length_maskSecret_of_middle
    {v : Text}
    (h : 9 ≤ v.length ∧ v.length ≤ 20) :
    (maskSecret v).length = 12 := by
  rw [maskSecret_of_middle h, length_keepEnds (by omega)]

/-- Every secret is in one of the three classes. -/
theorem length_cases
    (v : Text) :
    20 < v.length ∨ (9 ≤ v.length ∧ v.length ≤ 20) ∨ v.length ≤ 8 := by
  omega

/-- **What is shown of a secret is shown whole.** -/
theorem maskSecret_maskSecret
    (v : Text) :
    maskSecret (maskSecret v) = maskSecret v := by
  rcases length_cases v with hlong | hmiddle | hshort
  · have hlength : 20 < (maskSecret v).length := by
      rw [length_maskSecret_of_long hlong]
      decide
    rw [maskSecret_of_long hlength, maskSecret_of_long hlong, keepEnds_keepEnds (by omega)]
  · have hlength : 9 ≤ (maskSecret v).length ∧ (maskSecret v).length ≤ 20 := by
      rw [length_maskSecret_of_middle hmiddle]
      decide
    rw [maskSecret_of_middle hlength, maskSecret_of_middle hmiddle, keepEnds_keepEnds (by omega)]
  · rw [maskSecret_of_short hshort, maskSecret_of_short hshort]

/-- The values of a secret header that look alike although they differ: both have more than 20 code
points, of which the first ten and the last four are the same, or both have nine to 20 code points,
of which the first four and the last two are the same. -/
def SameEnds (v w : Text) : Prop :=
  (20 < v.length ∧ 20 < w.length ∧
      v.take 10 = w.take 10 ∧ v.drop (v.length - 4) = w.drop (w.length - 4)) ∨
    ((9 ≤ v.length ∧ v.length ≤ 20) ∧ (9 ≤ w.length ∧ w.length ≤ 20) ∧
      v.take 4 = w.take 4 ∧ v.drop (v.length - 2) = w.drop (w.length - 2))

/-- **Two secrets look alike** iff they are equal or of one class with the same ends. -/
theorem maskSecret_eq_iff
    (v w : Text) :
    maskSecret v = maskSecret w
      ↔
    v = w ∨ SameEnds v w := by
  constructor
  · intro h
    -- The length of what is shown tells the classes apart.
    have hlength : (maskSecret v).length = (maskSecret w).length := congrArg List.length h
    rcases length_cases v with hv | hv | hv <;>
      rcases length_cases w with hw | hw | hw
    · rw [maskSecret_of_long hv, maskSecret_of_long hw,
        keepEnds_eq_iff (by omega) (by omega)] at h
      exact Or.inr (Or.inl ⟨hv, hw, h⟩)
    · rw [length_maskSecret_of_long hv, length_maskSecret_of_middle hw] at hlength
      omega
    · rw [length_maskSecret_of_long hv, maskSecret_of_short hw] at hlength
      omega
    · rw [length_maskSecret_of_middle hv, length_maskSecret_of_long hw] at hlength
      omega
    · rw [maskSecret_of_middle hv, maskSecret_of_middle hw,
        keepEnds_eq_iff (by omega) (by omega)] at h
      exact Or.inr (Or.inr ⟨hv, hw, h⟩)
    · rw [length_maskSecret_of_middle hv, maskSecret_of_short hw] at hlength
      omega
    · rw [maskSecret_of_short hv, length_maskSecret_of_long hw] at hlength
      omega
    · rw [maskSecret_of_short hv, length_maskSecret_of_middle hw] at hlength
      omega
    · rw [maskSecret_of_short hv, maskSecret_of_short hw] at h
      exact Or.inl h
  · rintro (rfl | ⟨hv, hw, h⟩ | ⟨hv, hw, h⟩)
    · rfl
    · rw [maskSecret_of_long hv, maskSecret_of_long hw]
      exact (keepEnds_eq_iff (by omega) (by omega)).mpr h
    · rw [maskSecret_of_middle hv, maskSecret_of_middle hw]
      exact (keepEnds_eq_iff (by omega) (by omega)).mpr h

/-! ## Headers -/

/-- What is shown of a value is shown whole under the same name. -/
theorem mask_mask
    (name v : Text) :
    mask name (mask name v) = mask name v := by
  unfold mask
  cases isSensitive name with
  | true =>
      exact maskSecret_maskSecret v
  | false =>
      rfl

/-- A redacted header is redacted already. -/
theorem Header.redact_redact
    (h : Header) :
    h.redact.redact = h.redact := by
  unfold Header.redact
  rw [mask_mask]

/-- The line of a redacted header is the line that the masked rendering shows. -/
theorem Header.line_redact
    (h : Header) :
    h.redact.line = h.shownLine := by
  unfold Header.redact Header.line Header.shownLine mask
  cases isSensitive h.name <;> rfl

/-- The masked rendering shows a redacted header as it shows the header itself. -/
theorem Header.shownLine_redact
    (h : Header) :
    h.redact.shownLine = h.shownLine := by
  rw [← Header.line_redact, Header.redact_redact, Header.line_redact]

/-- The values of two headers of one name look alike: they are equal, or the name is that of a
credential and they are of one class with the same ends. -/
def Header.MaskedAlike (g h : Header) : Prop :=
  g.value = h.value ∨ (isSensitive g.name = true ∧ SameEnds g.value h.value)

/-- Two headers of one name are shown by the same line iff their values look alike. -/
theorem Header.shownLine_eq_iff
    {g h : Header}
    (hname : g.name = h.name) :
    g.shownLine = h.shownLine
      ↔
    g.MaskedAlike h := by
  have hmask : g.shownLine = h.shownLine ↔ mask g.name g.value = mask h.name h.value := by
    rw [← Header.line_redact, ← Header.line_redact]
    simp only [Header.line, Header.redact, hname, List.append_assoc, List.append_cancel_left_eq]
  rw [hmask, ← hname]
  unfold mask Header.MaskedAlike
  cases isSensitive g.name with
  | true =>
      simpa using maskSecret_eq_iff g.value h.value
  | false =>
      simp

/-- Headers with the same names are shown by the same lines iff their values look alike at every
place. -/
theorem map_shownLine_eq_iff
    {gs hs : List Header}
    (hnames : gs.map Header.name = hs.map Header.name) :
    gs.map Header.shownLine = hs.map Header.shownLine
      ↔
    List.Forall₂ Header.MaskedAlike gs hs := by
  induction gs generalizing hs with
  | nil =>
      cases hs with
      | nil =>
          simp
      | cons h hs =>
          simp at hnames
  | cons g gs ih =>
      cases hs with
      | nil =>
          simp at hnames
      | cons h hs =>
          simp only [List.map_cons, List.cons.injEq] at hnames
          obtain ⟨hname, hrest⟩ := hnames
          rw [List.map_cons, List.map_cons, List.cons.injEq, List.forall₂_cons,
            Header.shownLine_eq_iff hname, ih hrest]

/-! ## Requests -/

/-- A redacted request is redacted already. -/
theorem Request.redact_redact
    (r : Request) :
    r.redact.redact = r.redact := by
  have hheaders :
      (r.headers.map Header.redact).map Header.redact = r.headers.map Header.redact := by
    rw [List.map_map]
    congr 1
    funext h
    exact Header.redact_redact h
  unfold Request.redact
  rw [hheaders]

/-- Redaction changes the header lines of a request and nothing else. -/
theorem Request.lines_redact
    (r : Request)
    (flags : Flags)
    (line : Header → Text)
    (bodyText : Text) :
    r.redact.lines flags line bodyText = r.lines flags (fun h => line h.redact) bodyText := by
  unfold Request.lines Request.redact
  rw [List.map_map]
  rfl

/-- Both renderings of a redacted request are the masked rendering of the request. -/
theorem ofRequest_redact
    (r : Request)
    (flags : Flags) :
    Command.ofRequest r.redact flags =
      (Command.ofRequest r flags).map fun c => ⟨c.masked, c.masked⟩ := by
  have hbody : r.redact.body = r.body := rfl
  have hfull : (fun h : Header => h.redact.line) = Header.shownLine := by
    funext h
    exact Header.line_redact h
  have hmasked : (fun h : Header => h.redact.shownLine) = Header.shownLine := by
    funext h
    exact Header.shownLine_redact h
  simp only [ofRequest_eq, hbody, Request.lines_redact, hfull, hmasked]
  cases r.body.toText <;> rfl

/-- The lines of the two renderings of a request differ only at the headers whose name is that of a
credential, and there only behind the name. -/
theorem forall₂_lines
    (r : Request)
    (flags : Flags)
    (bodyText : Text) :
    List.Forall₂
      (fun full masked =>
        full = masked ∨
          ∃ h ∈ r.headers, isSensitive h.name = true ∧
            full = ↑"-H " ++ quote (h.name ++ ": " ++ h.value) ∧
            masked = ↑"-H " ++ quote (h.name ++ ": " ++ mask h.name h.value))
      (r.lines flags Header.line bodyText) (r.lines flags Header.shownLine bodyText) := by
  unfold Request.lines
  apply List.rel_append
  · apply List.rel_append
    · apply List.rel_append
      · exact List.forall₂_same.mpr fun _ _ => Or.inl rfl
      · rw [List.forall₂_map_left_iff, List.forall₂_map_right_iff, List.forall₂_same]
        intro h hh
        cases hsensitive : isSensitive h.name with
        | true =>
            refine Or.inr ⟨h, hh, hsensitive, rfl, ?_⟩
            simp only [Header.shownLine, hsensitive, if_true]
        | false =>
            refine Or.inl ?_
            simp only [Header.shownLine, hsensitive, Bool.false_eq_true, if_false]
    · exact List.forall₂_same.mpr fun _ _ => Or.inl rfl
  · exact List.forall₂_same.mpr fun _ _ => Or.inl rfl

/-- **The masked rendering is the full rendering of the redacted request**, and so is the masked
rendering of that request.  The two renderings of a request are its lines, which differ only behind
the names of secret headers. -/
theorem masked_eq_full_redact
    (r : Request)
    (flags : Flags) :
    (Command.ofRequest r flags).map Command.masked =
        (Command.ofRequest r.redact flags).map Command.full ∧
      (Command.ofRequest r.redact flags).map Command.full =
        (Command.ofRequest r.redact flags).map Command.masked ∧
      r.redact.redact = r.redact ∧
      Command.ofRequest r flags =
        (r.body.toText.map fun text =>
          ⟨Text.join continuation (r.lines flags Header.line text),
            Text.join continuation (r.lines flags Header.shownLine text)⟩) ∧
      ∀ text,
        List.Forall₂
          (fun full masked =>
            full = masked ∨
              ∃ h ∈ r.headers, isSensitive h.name = true ∧
                full = ↑"-H " ++ quote (h.name ++ ": " ++ h.value) ∧
                masked = ↑"-H " ++ quote (h.name ++ ": " ++ mask h.name h.value))
          (r.lines flags Header.line text) (r.lines flags Header.shownLine text) := by
  refine ⟨?_, ?_, Request.redact_redact r, ofRequest_eq r flags, forall₂_lines r flags⟩
  · rw [ofRequest_redact]
    cases Command.ofRequest r flags <;> rfl
  · rw [ofRequest_redact]
    cases Command.ofRequest r flags <;> rfl

/-! ## Two requests -/

/-- Requests that differ in their headers only have the same masked rendering iff their headers are
shown by the same lines. -/
theorem render_masked_eq_iff
    (r : Request)
    (flags : Flags)
    (gs hs : List Header)
    (bodyText : Text) :
    render true (Request.partsWith { r with headers := gs } flags bodyText) =
        render true (Request.partsWith { r with headers := hs } flags bodyText)
      ↔
    gs.map Header.shownLine = hs.map Header.shownLine := by
  rw [render_eq_render_iff, Request.clauses_eq_iff]
  constructor
  · rintro ⟨⟨-, -, hlines, -⟩, -⟩
    exact hlines
  · intro hlines
    exact ⟨⟨rfl, rfl, hlines, rfl, fun _ => rfl⟩, rfl⟩

/-- **Exactly what the masked rendering tells about a secret.**  Requests with the same header
names, and the same in all else, have the same masked rendering iff at every place the two values
are equal or, under the name of a credential, of one class with the same ends. -/
theorem masked_eq_masked_iff
    (r : Request)
    (flags : Flags)
    (gs hs : List Header)
    (bodyText : Text)
    (hbody : r.body.toText = .ok bodyText)
    (hnames : gs.map Header.name = hs.map Header.name) :
    ∃ c d,
      Command.ofRequest { r with headers := gs } flags = .ok c ∧
      Command.ofRequest { r with headers := hs } flags = .ok d ∧
      (c.masked = d.masked ↔ List.Forall₂ Header.MaskedAlike gs hs) := by
  have hcommand (ks : List Header) :
      Command.ofRequest { r with headers := ks } flags =
        .ok (Command.ofParts (Request.partsWith { r with headers := ks } flags bodyText)) := by
    rw [ofRequest_eq_map_ofParts]
    simp only [hbody]
    rfl
  refine ⟨_, _, hcommand gs, hcommand hs, ?_⟩
  rw [← map_shownLine_eq_iff hnames, ← render_masked_eq_iff r flags gs hs bodyText]
  rfl

/-- Two secrets of each class under one repeated name, with different middles and lengths. -/
theorem masked_eq_masked_iff_repeated_name :
    Json.null.toText = .ok "null" ∧
      [Header.mk "X-Auth" "Bearer abc-0123-wxyz", ⟨"X-Auth", "0123456789abcdef01234wxyz"⟩].map
          Header.name =
        [Header.mk "X-Auth" "Bear-nine-yz", ⟨"X-Auth", "0123456789-and-more-of-it-wxyz"⟩].map
          Header.name ∧
      ∃ c d,
        Command.ofRequest
            ⟨"u", "GET",
              [⟨"X-Auth", "Bearer abc-0123-wxyz"⟩, ⟨"X-Auth", "0123456789abcdef01234wxyz"⟩],
              .null⟩
            Flags.none = .ok c ∧
          Command.ofRequest
            ⟨"u", "GET",
              [⟨"X-Auth", "Bear-nine-yz"⟩, ⟨"X-Auth", "0123456789-and-more-of-it-wxyz"⟩],
              .null⟩
            Flags.none = .ok d ∧
          c.masked = d.masked := by
  have hbody : Json.null.toText = .ok "null" := rfl
  have hnames :
      [Header.mk "X-Auth" "Bearer abc-0123-wxyz", ⟨"X-Auth", "0123456789abcdef01234wxyz"⟩].map
          Header.name =
        [Header.mk "X-Auth" "Bear-nine-yz", ⟨"X-Auth", "0123456789-and-more-of-it-wxyz"⟩].map
          Header.name := by
    simp only [List.map_cons, List.map_nil]
  have hsensitive : isSensitive "X-Auth" = true := by decide +kernel
  obtain ⟨c, d, hc, hd, hiff⟩ :=
    masked_eq_masked_iff ⟨"u", "GET", [], .null⟩ Flags.none
      [⟨"X-Auth", "Bearer abc-0123-wxyz"⟩, ⟨"X-Auth", "0123456789abcdef01234wxyz"⟩]
      [⟨"X-Auth", "Bear-nine-yz"⟩, ⟨"X-Auth", "0123456789-and-more-of-it-wxyz"⟩]
      "null" hbody hnames
  refine ⟨hbody, hnames, c, d, hc, hd, ?_⟩
  rw [hiff]
  refine List.Forall₂.cons ?_ (List.Forall₂.cons ?_ List.Forall₂.nil)
  · exact Or.inr ⟨hsensitive, Or.inr (by decide +kernel)⟩
  · exact Or.inr ⟨hsensitive, Or.inl (by decide +kernel)⟩

/-! ## Requests that look alike -/

/-- Requests that differ in header values only, and there only in values that look alike. -/
structure Request.MaskedAlike (r r' : Request) : Prop where
  url : r.url = r'.url
  method : r.method = r'.method
  body : r.body = r'.body
  names : r.headers.map Header.name = r'.headers.map Header.name
  values : List.Forall₂ Header.MaskedAlike r.headers r'.headers

section MaskedAlike

variable {r r' : Request}

/-- Requests that look alike differ in their headers only. -/
theorem Request.MaskedAlike.eq_with_headers
    (h : r.MaskedAlike r') :
    r' = { r with headers := r'.headers } := by
  obtain ⟨url, method, headers, body⟩ := r
  obtain ⟨url', method', headers', body'⟩ := r'
  obtain rfl : url = url' := h.url
  obtain rfl : method = method' := h.method
  obtain rfl : body = body' := h.body
  rfl

/-- Requests that look alike have the same number of headers. -/
theorem Request.MaskedAlike.length_headers
    (h : r.MaskedAlike r') :
    r.headers.length = r'.headers.length := by
  simpa using congrArg List.length h.names

/-- **Requests that look alike** have the same masked rendering. -/
theorem Request.MaskedAlike.masked_eq
    (h : r.MaskedAlike r')
    (flags : Flags)
    (bodyText : Text) :
    (Command.ofParts (r.partsWith flags bodyText)).masked =
      (Command.ofParts (r'.partsWith flags bodyText)).masked := by
  have hlines := (map_shownLine_eq_iff h.names).mpr h.values
  rw [h.eq_with_headers]
  exact (render_masked_eq_iff r flags r.headers r'.headers bodyText).mpr hlines

/-- Whether the part of a header is redacted is a matter of the name. -/
theorem Header.isSome_redacted_part
    (g : Header) :
    g.part.redacted.isSome = isSensitive g.name := by
  unfold Header.part
  cases isSensitive g.name <;> rfl

/-- Requests that look alike have redacted parts at the same places. -/
theorem Request.MaskedAlike.redacted_eq
    (h : r.MaskedAlike r')
    (flags : Flags)
    (bodyText : Text) :
    ((r.partsWith flags bodyText).map fun part => part.redacted.isSome) =
      (r'.partsWith flags bodyText).map fun part => part.redacted.isSome := by
  have hheaders : (r.headers.map Header.part).map (fun part => part.redacted.isSome) =
      (r'.headers.map Header.part).map fun part => part.redacted.isSome := by
    have hnames := congrArg (List.map isSensitive) h.names
    rw [List.map_map, List.map_map] at hnames ⊢
    simpa [Function.comp_def, Header.isSome_redacted_part] using hnames
  have hbody : r.hasBody = r'.hasBody := by
    rw [Request.hasBody, Request.hasBody, h.body]
  simp only [Request.partsWith, Request.leadingParts, List.map_append, hheaders, hbody, h.method,
    List.map_cons, List.map_nil]

end MaskedAlike

end CurlRequest.Curl
