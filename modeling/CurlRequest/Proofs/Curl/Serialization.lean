import CurlRequest.Proofs.Curl.Conversion
import CurlRequest.Proofs.Curl.Description

/-!
# What is read can be written

Writing a value fails on a floating point number that is not finite and on an integer with too many
digits.  Reading refuses both wherever they stand, also under a name that is repeated later, and it
counts digits as writing does, without the sign.  So a description that is read can be made a
command of: no header value lacks a text, and neither does the body.

**Results.**
* `Request.writable_of_ofDescription`: the body of a request that is read is writable.
* `toText_of_toJson`: the value of a description, its header lines and its command can be written.
-/

namespace CurlRequest.Curl

/-- The body of a request that is read is writable. -/
theorem Request.writable_of_ofDescription
    {d : Description}
    {r : Request}
    (h : Request.ofDescription d = .ok r) :
    Json.Writable r.body := by
  rcases Request.outcome_of_ofDescription d with
    ⟨-, houtcome⟩ | ⟨-, houtcome⟩ | ⟨-, ⟨r', houtcome, hbody⟩ | ⟨broken, houtcome⟩⟩
  · rw [h] at houtcome
    cases houtcome
  · rw [h] at houtcome
    cases houtcome
  · rw [h] at houtcome
    cases houtcome
    exact hbody
  · rw [h] at houtcome
    cases houtcome

/-- **What is read can be written.**  In the value of a description every floating point number is
finite and no integer has more digits than can be written, at any depth.  So every part of it has a
text, its headers give header lines, and the body of its request has a text and the request a
command, whatever the flags. -/
theorem toText_of_toJson
    {d : Description}
    {v : Json}
    (h : d.toJson = .ok v) :
    (∀ x, Json.Part (.float x) v → x.isFinite = true) ∧
      (∀ n, Json.Part (.int n) v → (Text.ofNat n.natAbs).length ≤ Json.digitLimit) ∧
      (∀ part, Json.Part part v → ∃ text, part.toText = .ok text) ∧
      (∀ members headerMembers,
        v = .obj members → Request.headerMembersOf members = .ok headerMembers →
          ∃ headers, Request.headersOf headerMembers = .ok headers) ∧
      ∀ r, Request.ofDescription d = .ok r →
        (∃ text, r.body.toText = .ok text) ∧
          ∀ flags, ∃ command, Command.ofRequest r flags = .ok command := by
  have hwritable := Description.writable_of_toJson h
  refine ⟨hwritable.finite, ?_, ?_, ?_, ?_⟩
  · intro n hn
    rw [Json.length_ofNat_le_iff (by decide)]
    exact hwritable.short n hn
  · intro part hpart
    exact (hwritable.part hpart).exists_toText
  · rintro members headerMembers rfl hheaders
    exact Request.exists_headersOf (Request.writable_of_headerMembersOf hwritable hheaders)
  · intro r hr
    have hbody := Request.writable_of_ofDescription hr
    exact ⟨hbody.exists_toText, exists_ofRequest hbody⟩

/-- A request whose body is an integer. -/
def integerBody (n : Int) : Json :=
  .obj [("url", .str "u"), ("body", .int n)]

/-- A request whose body is a short integer is writable. -/
theorem writable_integerBody
    {n : Int}
    (h : n.natAbs < 10 ^ Json.digitLimit) :
    Json.Writable (integerBody n) := by
  constructor
  · intro m hm
    simp [integerBody] at hm
    rw [hm]
    exact h
  · intro x hx
    simp [integerBody] at hx

/-- The least integer that can be read. -/
def leastInteger : Int :=
  -((10 ^ Json.digitLimit - 1 : Nat) : Int)

/-- It has as many digits as an integer may have, and a sign besides; it is written. -/
theorem toText_of_toJson_leastInteger :
    (Description.text (integerBody leastInteger).compact).toJson =
        .ok (integerBody leastInteger) ∧
      ∃ r command,
        Request.ofDescription (.text (integerBody leastInteger).compact) = .ok r ∧
          Command.ofRequest r Flags.none = .ok command := by
  have hshort : leastInteger.natAbs < 10 ^ Json.digitLimit := by
    rw [leastInteger, Int.natAbs_neg, Int.natAbs_natCast]
    exact Nat.sub_lt (Nat.pow_pos (by decide)) (by decide)
  have hdepth : (integerBody leastInteger).depth = 1 := rfl
  have hread : (Description.text (integerBody leastInteger).compact).toJson =
      .ok (integerBody leastInteger) :=
    Description.textToJson_compact (writable_integerBody hshort) (by rw [hdepth]; decide)
  obtain ⟨r, hr⟩ :
      ∃ r, Request.ofDescription (.text (integerBody leastInteger).compact) = .ok r := by
    rw [Request.ofDescription, hread]
    exact ⟨⟨"u", "GET", [], .int leastInteger⟩, rfl⟩
  obtain ⟨-, -, -, -, hcommand⟩ := toText_of_toJson hread
  obtain ⟨command, hmade⟩ := (hcommand r hr).2 Flags.none
  exact ⟨hread, r, command, hr, hmade⟩

end CurlRequest.Curl
