import CurlRequest.Proofs.Curl.Conversion
import CurlRequest.Proofs.Json.LineEnds

/-!
# Descriptions from files and from the command line

A description that is read from a file or from the standard input has its line ends made alike, and
one that is given on the command line has not.  The conversion is the same for both: the command is
the same, or the same rule is broken.  What is said of the rule differs at most in the place that is
named, because the text in front of it can be shorter.

The exception is the one that conversions have at all: a URL that satisfies the rules but holds a
lone surrogate is refused without naming a rule, and this for both texts.

**Results.**
* `textToJson_unifyNewlines`: the value of a text.
* `ofDescription_unifyNewlines_iff`: commands and faults, with the exact condition of the exception.
* `ofDescription_unifyNewlines_surrogateUrl`: a text in which the exception occurs.
-/

namespace CurlRequest.Curl

open Text (unifyNewlines)

/-! ## Outcomes up to places -/

/-- What is said of a text, up to the place that is named. -/
inductive SameDetail : Text → Text → Prop
  | same
      (detail : Text) :
      SameDetail detail detail
  | places
      (problem : Json.Problem)
      (line column position line' column' position' : ℕ) :
      SameDetail
        (problem.message ++ ": " ++
          ("line " ++ Text.ofNat line ++ " column " ++ Text.ofNat column ++
            " (char " ++ Text.ofNat position ++ ")"))
        (problem.message ++ ": " ++
          ("line " ++ Text.ofNat line' ++ " column " ++ Text.ofNat column' ++
            " (char " ++ Text.ofNat position' ++ ")"))

/-- The same broken rule, up to a place in what is said of it. -/
inductive SameFault : RequestFault → RequestFault → Prop
  | same
      (fault : RequestFault) :
      SameFault fault fault
  | malformed
      {detail detail' : Text}
      (h : SameDetail detail detail') :
      SameFault (.malformed detail) (.malformed detail')

/-- The same command, or the same broken rule up to a place. -/
inductive SameOutcome : Except ConvertFault Command → Except ConvertFault Command → Prop
  | command
      (c : Command) :
      SameOutcome (.ok c) (.ok c)
  | fault
      {fault fault' : RequestFault}
      (h : SameFault fault fault') :
      SameOutcome (.error (.request fault)) (.error (.request fault'))

/-! ## Values -/

/-- The same value, the same broken rule up to a place, or nesting that is too deep. -/
inductive SameValue : Except ConvertFault Json → Except ConvertFault Json → Prop
  | value
      (v : Json) :
      SameValue (.ok v) (.ok v)
  | fault
      {fault fault' : RequestFault}
      (h : SameFault fault fault') :
      SameValue (.error (.request fault)) (.error (.request fault'))
  | tooDeep :
      SameValue (.error .tooDeep) (.error .tooDeep)

/-- A problem that is met in two texts is the same up to its place. -/
theorem sameFault_located
    (t t' : Text)
    (problem : Json.Problem)
    (remaining remaining' : ℕ) :
    SameFault (.malformed (Json.ReadFault.message t (.located problem remaining)))
      (.malformed (Json.ReadFault.message t' (.located problem remaining'))) :=
  .malformed (.places problem _ _ _ _ _ _)

/-- Faults that differ in a place are reported as faults that do. -/
theorem sameValue_readFault
    {fault fault' : Json.ReadFault}
    (h : fault.Alike fault')
    (t t' : Text) :
    SameValue (.error (Description.readFault t fault))
      (.error (Description.readFault t' fault')) := by
  cases h with
  | same =>
      cases fault with
      | located problem remaining =>
          exact .fault (sameFault_located t t' problem remaining remaining)
      | tooDeep =>
          exact .tooDeep
      | _ =>
          exact .fault (.same _)
  | moved problem remaining remaining' =>
      exact .fault (sameFault_located t t' problem remaining remaining')

/-- **The value of a text** does not depend on its line ends. -/
theorem textToJson_unifyNewlines
    (t : Text) :
    SameValue (Description.textToJson t) (Description.textToJson (unifyNewlines t)) := by
  have hread := Json.read_unifyNewlines t
  unfold Description.textToJson
  rw [Text.isBlank_unifyNewlines]
  split
  · exact .fault (.same .emptyInput)
  · generalize Json.read .strict t = outcome at hread ⊢
    generalize Json.read .strict (unifyNewlines t) = outcome' at hread ⊢
    cases hread with
    | value v =>
        exact .value v
    | refused hfault =>
        exact sameValue_readFault hfault t (unifyNewlines t)

/-! ## Commands -/

/-- The command for a text without a value. -/
theorem ofDescription_of_textToJson_error
    {t : Text}
    {fault : ConvertFault}
    (h : Description.textToJson t = .error fault)
    (flags : Flags) :
    Command.ofDescription (.text t) flags = .error fault := by
  rw [Command.ofDescription, Request.ofDescription, Description.toJson, h]
  rfl

/-- A text whose value is that of another has the command of the other. -/
theorem ofDescription_of_textToJson_eq
    {t t' : Text}
    (h : Description.textToJson t = Description.textToJson t')
    (flags : Flags) :
    Command.ofDescription (.text t) flags = Command.ofDescription (.text t') flags := by
  rw [Command.ofDescription, Command.ofDescription, Request.ofDescription, Request.ofDescription,
    Description.toJson, Description.toJson, h]

/-- A description with a broken URL has no command and breaks no rule. -/
theorem ofDescription_of_hasBrokenUrl
    {d : Description}
    (h : d.HasBrokenUrl)
    (flags : Flags) :
    Command.ofDescription d flags = .error (.fields [⟨[.name "url"], .brokenText⟩]) := by
  rw [Command.ofDescription, Request.ofDescription_of_hasBrokenUrl h]
  rfl

/-- Any other description has a command or breaks a rule, unless it is nested too deeply. -/
theorem sameOutcome_refl
    (d : Description)
    (h : d.nesting ≤ Json.nestingLimit)
    (hbroken : ¬ d.HasBrokenUrl)
    (flags : Flags) :
    SameOutcome (Command.ofDescription d flags) (Command.ofDescription d flags) := by
  rcases Request.outcome_of_ofDescription d with
    ⟨hdeep, -⟩ | ⟨hbroken', -⟩ | ⟨-, ⟨r, hrequest, hbody⟩ | ⟨broken, hrequest⟩⟩
  · exact absurd hdeep (Nat.not_lt.mpr h)
  · exact absurd hbroken' hbroken
  · obtain ⟨command, hcommand⟩ := exists_ofRequest hbody flags
    rw [Command.ofDescription, hrequest]
    simp only [bind, Except.bind, hcommand]
    exact .command command
  · rw [Command.ofDescription, hrequest]
    exact .fault (.same broken)

/-- **Line ends do not matter to a conversion.**  The command for a text that is not nested too
deeply is that for the text with its line ends made alike, or both break the same rule and differ in
a place only, whatever the flags; but for exactly those texts whose URL is broken.  For these both
are refused as a field. -/
theorem ofDescription_unifyNewlines_iff
    {t : Text}
    (h : Json.nesting t ≤ Json.nestingLimit)
    (flags : Flags) :
    (SameOutcome (Command.ofDescription (.text t) flags)
          (Command.ofDescription (.text (unifyNewlines t)) flags) ↔
        ¬ (Description.text t).HasBrokenUrl) ∧
      ((Description.text t).HasBrokenUrl →
        Command.ofDescription (.text t) flags =
            .error (.fields [⟨[.name "url"], .brokenText⟩]) ∧
          Command.ofDescription (.text (unifyNewlines t)) flags =
            .error (.fields [⟨[.name "url"], .brokenText⟩])) := by
  have hvalue := textToJson_unifyNewlines t
  generalize ht : Description.textToJson t = outcome at hvalue
  generalize ht' : Description.textToJson (unifyNewlines t) = outcome' at hvalue
  cases hvalue with
  | value v =>
      rw [ofDescription_of_textToJson_eq (ht'.trans ht.symm) flags]
      refine ⟨⟨?_, fun hbroken => sameOutcome_refl (.text t) h hbroken flags⟩, fun hbroken => ?_⟩
      · intro hsame hbroken
        rw [ofDescription_of_hasBrokenUrl hbroken] at hsame
        cases hsame
      · exact ⟨ofDescription_of_hasBrokenUrl hbroken flags,
          ofDescription_of_hasBrokenUrl hbroken flags⟩
  | fault hfault =>
      have hnot : ¬ (Description.text t).HasBrokenUrl := by
        apply Description.not_hasBrokenUrl
        intro members hmembers
        rw [Description.toJson, ht] at hmembers
        cases hmembers
      rw [ofDescription_of_textToJson_error ht, ofDescription_of_textToJson_error ht']
      exact ⟨⟨fun _ => hnot, fun _ => .fault hfault⟩, fun hbroken => absurd hbroken hnot⟩
  | tooDeep =>
      rcases Description.textToJson_error ht with ⟨broken, hbroken⟩ | ⟨-, hdeep⟩
      · cases hbroken
      · exact absurd hdeep (Nat.not_lt.mpr h)

/-- A text whose second line lacks a colon. -/
def missingColon : Text :=
  "\x7b\r\n\"url\" \"u\"\x7d"

/-- The same is said of it with either line end, but for the position. -/
theorem ofDescription_unifyNewlines_missingColon :
    Command.ofDescription (.text missingColon) Flags.none =
        .error (.request (.malformed "Expecting ':' delimiter: line 2 column 7 (char 9)")) ∧
      Command.ofDescription (.text (unifyNewlines missingColon)) Flags.none =
        .error (.request (.malformed "Expecting ':' delimiter: line 2 column 7 (char 8)")) ∧
      SameOutcome (Command.ofDescription (.text missingColon) Flags.none)
        (Command.ofDescription (.text (unifyNewlines missingColon)) Flags.none) := by
  have hread : (Description.text missingColon).toJson =
      .error (.request (.malformed "Expecting ':' delimiter: line 2 column 7 (char 9)")) := by
    cbv
  have hread' : (Description.text (unifyNewlines missingColon)).toJson =
      .error (.request (.malformed "Expecting ':' delimiter: line 2 column 7 (char 8)")) := by
    cbv
  refine ⟨ofDescription_of_textToJson_error hread _, ofDescription_of_textToJson_error hread' _, ?_⟩
  apply (ofDescription_unifyNewlines_iff (by decide) Flags.none).1.mpr
  apply Description.not_hasBrokenUrl
  intro members hmembers
  rw [hread] at hmembers
  cases hmembers

/-- A text of two lines with a URL that is one lone surrogate. -/
def surrogateUrlText : Text :=
  "\x7b\r\n\"url\":\"\\ud800\"\x7d"

/-- Neither this text nor the one with its line ends made alike has a command or breaks a rule. -/
theorem ofDescription_unifyNewlines_surrogateUrl :
    Json.nesting surrogateUrlText ≤ Json.nestingLimit ∧
      ¬ SameOutcome (Command.ofDescription (.text surrogateUrlText) Flags.none)
        (Command.ofDescription (.text (unifyNewlines surrogateUrlText)) Flags.none) := by
  have houtcome : Command.ofDescription (.text surrogateUrlText) Flags.none =
      .error (.fields [⟨[.name "url"], .brokenText⟩]) := by
    cbv
  refine ⟨by decide, ?_⟩
  rw [houtcome]
  intro hsame
  cases hsame

end CurlRequest.Curl
