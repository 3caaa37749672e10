import CurlRequest.Proofs.Curl.Rules
import CurlRequest.Proofs.Json.Reading
import CurlRequest.Proofs.Json.Writing
import CurlRequest.Proofs.Text.Utf8
import Mathlib.Algebra.Module.Submodule.Lattice
import Mathlib.Computability.Primrec.List
import Mathlib.Data.List.Permutation

/-!
# What a description describes

A description has a text, unless its octets encode none, and it describes the value that the grammar
of JSON gives to this text.  Reading a description gives this value.  Where there is none the first
thing that is wrong is told: octets that encode no text, a text without anything visible, or a text
that is not in the grammar.

**Results.**
* `textToJson_iff_grammar`: the texts that are read, their values, and the fault of all others.
* `textToJson_toText`: the text of a value is read to the value again.
* `toJson_cases`: what reading a description can come to.
-/

namespace CurlRequest.Curl.Description

open Json (ViewOf DistinctNames)
open Json.Grammar (JsonText)

/-! ## Texts and their values -/

/-- A text that is read has the value that the grammar gives it. -/
theorem jsonText_of_textToJson
    {t : Text}
    {v : Json}
    (h : textToJson t = .ok v) :
    JsonText t v :=
  Json.jsonText_of_read (textToJson_ok h)

/-- A text of the grammar is read. -/
theorem textToJson_of_read
    {t : Text}
    {v : Json}
    (h : Json.read .strict t = .ok v) :
    textToJson t = .ok v := by
  have hblank := Json.isBlank_of_jsonText (Json.jsonText_of_read h)
  simp [textToJson, hblank, h, Except.mapError]

/-- A text that is nested within the limit is read iff the grammar gives it a value. -/
theorem textToJson_eq_ok_iff
    {t : Text}
    {v : Json}
    (h : Json.nesting t ≤ Json.nestingLimit) :
    textToJson t = .ok v
      ↔
    JsonText t v := by
  constructor
  · exact jsonText_of_textToJson
  · intro htext
    exact textToJson_of_read ((Json.read_strict_eq_ok_iff h).mpr htext)

/-- A visible text that the grammar gives no value is malformed. -/
theorem exists_malformed
    {t : Text}
    (h : Json.nesting t ≤ Json.nestingLimit)
    (hblank : t.isBlank = false)
    (hnone : ∀ v, ¬ JsonText t v) :
    ∃ detail, textToJson t = .error (.request (.malformed detail)) := by
  cases hread : Json.read .strict t with
  | ok v =>
      exact absurd (Json.jsonText_of_read hread) (hnone v)
  | error fault =>
      cases fault with
      | tooDeep =>
          exact absurd (Json.nestingLimit_lt_of_read_eq_tooDeep hread) (Nat.not_lt.mpr h)
      | _ =>
          simp only [textToJson, hblank, hread]
          exact ⟨_, rfl⟩

/-- **Strict JSON.**  The texts that are read are those of the grammar, with the value that the
grammar gives them, and every other visible text is malformed.  A value that is read has a last-value
view, and every floating point number in it is finite. -/
theorem textToJson_iff_grammar
    (t : Text)
    (h : Json.nesting t ≤ Json.nestingLimit) :
    (∀ v, textToJson t = .ok v ↔ JsonText t v) ∧
      (t.isBlank = false → (∀ v, ¬ JsonText t v) →
        ∃ detail, textToJson t = .error (.request (.malformed detail))) ∧
      ∀ v, textToJson t = .ok v →
        ViewOf v v.collapse ∧ ∀ x, Json.Part (.float x) v → x.isFinite = true := by
  refine ⟨fun v => textToJson_eq_ok_iff h, exists_malformed h, ?_⟩
  intro v hread
  have hwritable := Json.writable_of_jsonText (jsonText_of_textToJson hread)
  exact ⟨Json.viewOf_collapse v, hwritable.finite⟩

/-- A number that is too large is refused under a name that is repeated later, and an escaped
surrogate stays alone behind a pair. -/
theorem textToJson_iff_grammar_surrogates :
    Json.nesting "\x7b\"k\":[1e400],\"k\":0\x7d" ≤ Json.nestingLimit ∧
      (∀ v, ¬ JsonText "\x7b\"k\":[1e400],\"k\":0\x7d" v) ∧
      JsonText " [\"\\ud83d\\ude00\\ud83d\",-0.0]"
        (.arr [.str [⟨0x1F600, by decide⟩, ⟨0xD83D, by decide⟩],
          .float (.finite true ⟨0, by decide⟩)]) := by
  refine ⟨by decide, ?_, ?_⟩
  · intro v hv
    have hread :=
      ((textToJson_iff_grammar "\x7b\"k\":[1e400],\"k\":0\x7d" (by decide)).1 v).mpr hv
    have hrefused : (textToJson "\x7b\"k\":[1e400],\"k\":0\x7d").toOption = none := by
      cbv
    rw [hread] at hrefused
    cases hrefused
  · apply ((textToJson_iff_grammar " [\"\\ud83d\\ude00\\ud83d\",-0.0]" (by decide)).1 _).mp
    cbv

/-! ## Texts of values -/

/-- A text of the grammar is read, if its value is not too deep. -/
theorem textToJson_of_jsonText
    {t : Text}
    {v : Json}
    (h : JsonText t v)
    (hdepth : v.depth ≤ Json.nestingLimit) :
    textToJson t = .ok v := by
  apply textToJson_of_read
  rw [Json.read_strict_of_jsonText h, Json.withinLimit, if_pos hdepth]

/-- The text of a value that can be written is read to the value. -/
theorem textToJson_compact
    {v : Json}
    (h : Json.Writable v)
    (hdepth : v.depth ≤ Json.nestingLimit) :
    textToJson v.compact = .ok v := by
  have htext := JsonText.mk Json.whitespace_nil (Json.value_write h) Json.whitespace_nil
  rw [List.nil_append, List.append_nil] at htext
  exact textToJson_of_jsonText htext hdepth

/-- **The text of a value is read to the value again.**  A value has no text iff a number in it is
not finite.  A string is its own text, and the text of any other value is read to this value. -/
theorem textToJson_toText
    (v : Json)
    (hnames : DistinctNames v)
    (hshort : ∀ n, Json.Part (.int n) v → n.natAbs < 10 ^ Json.digitLimit)
    (hdepth : v.depth ≤ Json.nestingLimit) :
    ((∃ fault, v.toText = .error fault) ↔ ∃ x, Json.Part (.float x) v ∧ x.isFinite = false) ∧
      ((∀ s, v ≠ .str s) → (∀ x, Json.Part (.float x) v → x.isFinite = true) →
        ∃ text, v.toText = .ok text ∧ textToJson text = .ok v) ∧
      ∀ s, v = .str s → v.toText = .ok s := by
  refine ⟨?_, ?_, ?_⟩
  · have hself : v.collapse = v := Json.collapse_eq_self hnames
    rw [Json.exists_toText_error_iff, hself]
    constructor
    · rintro ⟨-, hnot⟩
      by_contra hnone
      refine hnot ⟨hshort, fun x hpart => ?_⟩
      by_contra hx
      exact hnone ⟨x, hpart, by simpa using hx⟩
    · rintro ⟨x, hpart, hx⟩
      refine ⟨?_, fun h => ?_⟩
      · rintro s rfl
        simp at hpart
      · rw [h.finite x hpart] at hx
        cases hx
  · intro hstr hall
    have hwritable : Json.Writable v := ⟨hshort, hall⟩
    exact ⟨v.compact, hwritable.toText_of_distinctNames hstr hnames,
      textToJson_compact hwritable hdepth⟩
  · rintro s rfl
    rfl

/-- An object with numbers of all spellings, empty parts, and a name that has to be escaped. -/
def mixedValue : Json :=
  .obj [
    ([⟨0x22, by decide⟩, ⟨0x5C, by decide⟩, ⟨0x01, by decide⟩, ⟨0xD800, by decide⟩],
      .arr [.int (-7), .float (.finite false ⟨0x3FF0000000000000, by decide⟩),
        .float (.finite true ⟨0, by decide⟩), .float (.finite false ⟨0x4341C37937E08000, by decide⟩),
        .null, .bool true, .arr []]),
    ([], .obj [])]

/-- The text of such an object is read to it again. -/
theorem textToJson_toText_mixedValue :
    DistinctNames mixedValue ∧
      (∀ n, Json.Part (.int n) mixedValue → n.natAbs < 10 ^ Json.digitLimit) ∧
      mixedValue.depth ≤ Json.nestingLimit ∧
      ∃ text, mixedValue.toText = .ok text ∧ textToJson text = .ok mixedValue := by
  have hnames : DistinctNames mixedValue := by
    intro members h
    simp [mixedValue] at h
    rcases h with rfl | rfl <;> decide
  have hshort : ∀ n, Json.Part (.int n) mixedValue → n.natAbs < 10 ^ Json.digitLimit := by
    intro n h
    simp [mixedValue] at h
    subst h
    calc
      7 < 10 ^ 1 := by decide
      _ ≤ 10 ^ Json.digitLimit := Nat.pow_le_pow_right (by decide) (by decide)
  have hdepth : mixedValue.depth ≤ Json.nestingLimit := by decide
  refine ⟨hnames, hshort, hdepth, ?_⟩
  refine (textToJson_toText mixedValue hnames hshort hdepth).2.1 ?_ ?_
  · intro s h
    cases h
  · intro x h
    simp [mixedValue] at h
    rcases h with rfl | rfl | rfl <;> rfl

/-! ## Descriptions and their values -/

/-- The text of a description: octets are the encoding of theirs. -/
inductive TextOf : Description → Text → Prop
  | text
      (t : Text) :
      TextOf (.text t) t
  | bytes
      {t : Text}
      (h : t.hasSurrogate = false) :
      TextOf (.bytes (Utf8.encodeAll t)) t

/-- A description describes the value that the grammar gives to its text. -/
def Describes (d : Description) (v : Json) : Prop :=
  ∃ t, TextOf d t ∧ JsonText t v

theorem text?_eq_some_iff
    {d : Description}
    {t : Text} :
    d.text? = some t
      ↔
    TextOf d t := by
  constructor
  · intro h
    cases d with
    | text t' =>
        cases h
        exact TextOf.text t
    | bytes b =>
        cases hdecode : Utf8.decode b with
        | error fault =>
            rw [text?, hdecode] at h
            cases h
        | ok t' =>
            rw [text?, hdecode] at h
            cases h
            obtain ⟨hsurrogate, rfl⟩ := Utf8.decode_eq_ok_iff.mp hdecode
            exact TextOf.bytes hsurrogate
  · intro h
    cases h with
    | text =>
        rfl
    | bytes hsurrogate =>
        rw [text?, Utf8.decode_eq_ok_iff.mpr ⟨hsurrogate, rfl⟩]
        rfl

/-- A description has one text at most. -/
theorem TextOf.unique
    {d : Description}
    {t t' : Text}
    (h : TextOf d t)
    (h' : TextOf d t') :
    t = t' := by
  rw [← text?_eq_some_iff] at h h'
  rw [h] at h'
  exact Option.some.inj h'

/-- The value of a description is that of its text. -/
theorem TextOf.toJson_eq
    {d : Description}
    {t : Text}
    (h : TextOf d t) :
    d.toJson = textToJson t := by
  cases h with
  | text =>
      rfl
  | bytes hsurrogate =>
      rw [toJson, Utf8.decode_eq_ok_iff.mpr ⟨hsurrogate, rfl⟩]

/-- The nesting of a description is that of its text. -/
theorem TextOf.nesting_eq
    {d : Description}
    {t : Text}
    (h : TextOf d t) :
    d.nesting = Json.nesting t := by
  rw [nesting, text?_eq_some_iff.mpr h]
  rfl

/-- A description without a text is malformed. -/
theorem exists_malformed_of_not_textOf
    {d : Description}
    (h : ∀ t, ¬ TextOf d t) :
    ∃ detail, d.toJson = .error (.request (.malformed detail)) := by
  cases d with
  | text t =>
      exact absurd (TextOf.text t) (h t)
  | bytes b =>
      cases hdecode : Utf8.decode b with
      | error fault =>
          simp only [toJson, hdecode]
          exact ⟨_, rfl⟩
      | ok t =>
          have htext : text? (.bytes b) = some t := by
            rw [text?, hdecode]
            rfl
          exact absurd (text?_eq_some_iff.mp htext) (h t)

/-- A description is read to a value only if it describes it. -/
theorem describes_of_toJson
    {d : Description}
    {v : Json}
    (h : d.toJson = .ok v) :
    d.Describes v := by
  by_cases htext : ∃ t, TextOf d t
  · obtain ⟨t, ht⟩ := htext
    rw [ht.toJson_eq] at h
    exact ⟨t, ht, jsonText_of_textToJson h⟩
  · obtain ⟨detail, hfault⟩ := exists_malformed_of_not_textOf (not_exists.mp htext)
    rw [h] at hfault
    cases hfault

/-- A description that is nested within the limit is read iff it describes a value. -/
theorem toJson_eq_ok_iff
    {d : Description}
    {v : Json}
    (h : d.nesting ≤ Json.nestingLimit) :
    d.toJson = .ok v
      ↔
    d.Describes v := by
  constructor
  · exact describes_of_toJson
  · rintro ⟨t, ht, htext⟩
    rw [ht.nesting_eq] at h
    rw [ht.toJson_eq, textToJson_eq_ok_iff h]
    exact htext

/-- What reading a description can come to. -/
inductive ReadCase (d : Description) : Except ConvertFault Json → Prop
  | undecodable
      {detail : Text}
      (h : ∀ t, ¬ TextOf d t) :
      ReadCase d (.error (.request (.malformed detail)))
  | blank
      {t : Text}
      (ht : TextOf d t)
      (hblank : t.isBlank = true) :
      ReadCase d (.error (.request .emptyInput))
  | malformed
      {t detail : Text}
      (ht : TextOf d t)
      (hblank : t.isBlank = false)
      (hnone : ∀ v, ¬ JsonText t v) :
      ReadCase d (.error (.request (.malformed detail)))
  | value
      {t : Text}
      {v : Json}
      (ht : TextOf d t)
      (hv : JsonText t v) :
      ReadCase d (.ok v)

/-- **The cases of reading** are all there are for a description that is nested within the limit. -/
theorem toJson_cases
    {d : Description}
    (h : d.nesting ≤ Json.nestingLimit) :
    ReadCase d d.toJson := by
  by_cases htext : ∃ t, TextOf d t
  · obtain ⟨t, ht⟩ := htext
    rw [ht.nesting_eq] at h
    rw [ht.toJson_eq]
    cases hblank : t.isBlank with
    | true =>
        rw [textToJson, hblank]
        exact ReadCase.blank ht hblank
    | false =>
        by_cases hvalue : ∃ v, JsonText t v
        · obtain ⟨v, hv⟩ := hvalue
          rw [(textToJson_eq_ok_iff h).mpr hv]
          exact ReadCase.value ht hv
        · have hnone := not_exists.mp hvalue
          obtain ⟨detail, hfault⟩ := exists_malformed h hblank hnone
          rw [hfault]
          exact ReadCase.malformed ht hblank hnone
  · have hnone := not_exists.mp htext
    obtain ⟨detail, hfault⟩ := exists_malformed_of_not_textOf hnone
    rw [hfault]
    exact ReadCase.undecodable hnone

end CurlRequest.Curl.Description
