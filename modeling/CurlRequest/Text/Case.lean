import CurlRequest.Text
import CurlRequest.Text.CaseTable

/-!
# Letter case

The full upper and lower case of a text.  Both can lengthen it.  Upper case maps each code point
on its own.  So does lower case, but for the capital sigma: it becomes the final form when a
letter stands before it and none behind it, marks in between being passed over.
-/

namespace CurlRequest

open CaseTable (CaseRun inRanges)

/-- The image of a code point under a case mapping: an expansion if there is one, else the other
case, else itself. -/
def CodePoint.mapCase (expansions : List (Nat × List Nat)) (runs : List CaseRun) (c : CodePoint) :
    Text :=
  match expansions.lookup c.toNat with
  | some image => image.map CodePoint.ofNat
  | none =>
      match runs.findSome? (·.image? c.toNat) with
      | some n => [CodePoint.ofNat n]
      | none => [c]

/-- The upper case of a code point. -/
def CodePoint.upper (c : CodePoint) : Text :=
  c.mapCase CaseTable.upperExpansions CaseTable.upperRuns

/-- The lower case of a code point, whatever stands around it. -/
def CodePoint.lower (c : CodePoint) : Text :=
  c.mapCase CaseTable.lowerExpansions CaseTable.lowerRuns

/-- Whether a code point is passed over in the search for a neighbouring letter. -/
def CodePoint.isCaseIgnorable (c : CodePoint) : Bool :=
  inRanges CaseTable.caseIgnorable c.toNat

/-- Whether a code point that is not passed over has a case. -/
def CodePoint.isCased (c : CodePoint) : Bool :=
  inRanges CaseTable.cased c.toNat

namespace Text

/-- The upper case of a text. -/
def upper (t : Text) : Text :=
  t.flatMap CodePoint.upper

/-- Whether the first code point that is not passed over has a case. -/
def meetsLetter (t : Text) : Bool :=
  match t.dropWhile CodePoint.isCaseIgnorable with
  | [] => false
  | c :: _ => c.isCased

/-- The lower case of a text, given what stands before it in reverse. -/
def lowerAfter (before : Text) : Text → Text
  | [] => []
  | c :: rest =>
      let image : Text :=
        if c = 'Σ' then (if meetsLetter before && !meetsLetter rest then "ς" else "σ") else c.lower
      image ++ lowerAfter (c :: before) rest

/-- The lower case of a text. -/
def lower (t : Text) : Text :=
  lowerAfter [] t

end Text

end CurlRequest
