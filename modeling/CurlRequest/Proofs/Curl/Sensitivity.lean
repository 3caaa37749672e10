import CurlRequest.Curl.Header
import CurlRequest.Proofs.Text.Lowering

/-!
# Which header names are those of credentials

A header name is that of a credential if its lower case contains one of six words.  Two of the words
contain others, so four of them decide, and what lower case does to the rest of the name does not
matter: it is enough to fold the capital ASCII letters and the Kelvin sign.

**Results.**
* `exists_credentialWord_iff`: four of the six words decide.
* `isSensitive_iff_fold`: which names are those of credentials, without lower case.
* `isSensitive_iff`: that, said of a part of the name, and what follows from it for names that differ
  in their case or contain each other.
-/

namespace CurlRequest.Curl

open CodePoint (foldLetter)

/-- The words that make a header name that of a credential. -/
def credentialWords : List Text := ["auth", "token", "api-key", "bearer"]

/-- The words are made of small letters and hyphens, and none ends in an i. -/
theorem isLowerWord_of_mem_sensitiveWords :
    ∀ word ∈ sensitiveWords, Text.IsLowerWord word := by
  decide

/-- Each of the six words contains one of the four. -/
theorem exists_credentialWord_infix :
    ∀ word ∈ sensitiveWords, ∃ part ∈ credentialWords, part <:+: word := by
  decide

/-- **Four of the six words decide** whether a text contains one of them. -/
theorem exists_credentialWord_iff
    (text : Text) :
    (∃ word ∈ sensitiveWords, word <:+: text)
      ↔
    ∃ word ∈ credentialWords, word <:+: text := by
  constructor
  · rintro ⟨word, hword, hinfix⟩
    obtain ⟨part, hpart, hpartInfix⟩ := exists_credentialWord_infix word hword
    exact ⟨part, hpart, hpartInfix.trans hinfix⟩
  · rintro ⟨word, hword, hinfix⟩
    have hsubset : credentialWords ⊆ sensitiveWords := by decide
    exact ⟨word, hsubset hword, hinfix⟩

/-- **The names of credentials** contain one of the four words once their letters are folded. -/
theorem isSensitive_iff_fold
    (name : Text) :
    isSensitive name = true
      ↔
    ∃ word ∈ credentialWords, word <:+: name.map foldLetter := by
  calc
    isSensitive name = true
        ↔ ∃ word ∈ sensitiveWords, word <:+: name.lower := by
          simp only [isSensitive, List.any_eq_true, Text.occursIn_iff_infix]
    _ ↔ ∃ word ∈ sensitiveWords, word <:+: name.map foldLetter := by
          apply exists_congr
          intro word
          apply and_congr_right
          intro hword
          exact Text.infix_lower_iff (isLowerWord_of_mem_sensitiveWords word hword) name
    _ ↔ ∃ word ∈ credentialWords, word <:+: name.map foldLetter :=
          exists_credentialWord_iff _

/-- **Which names are those of credentials.**  Some part of the name, its letters folded, is one of
the four words.  So names whose letters are folded to the same text, such as those that differ in the
case of ASCII letters, are both names of credentials or neither, and a name that contains the name of
a credential is one too. -/
theorem isSensitive_iff
    (name : Text) :
    (isSensitive name = true
        ↔
      ∃ part, part <:+: name ∧ part.map foldLetter ∈ credentialWords) ∧
    (∀ other, other.map foldLetter = name.map foldLetter →
      isSensitive other = isSensitive name) ∧
    ∀ other, name <:+: other → isSensitive name = true → isSensitive other = true := by
  refine ⟨?_, ?_, ?_⟩
  · rw [isSensitive_iff_fold]
    constructor
    · rintro ⟨word, hword, hinfix⟩
      obtain ⟨part, hpart, rfl⟩ := List.infix_map_iff.mp hinfix
      exact ⟨part, hpart, hword⟩
    · rintro ⟨part, hpart, hword⟩
      exact ⟨part.map foldLetter, hword, hpart.map foldLetter⟩
  · intro other hfold
    rw [Bool.eq_iff_iff, isSensitive_iff_fold, isSensitive_iff_fold, hfold]
  · intro other hother hname
    rw [isSensitive_iff_fold] at hname ⊢
    obtain ⟨word, hword, hinfix⟩ := hname
    exact ⟨word, hword, hinfix.trans (hother.map foldLetter)⟩

/-- A Kelvin sign between a sigma and a dotted I, in two spellings, and an i that is only there in
lower case. -/
theorem isSensitive_iff_kelvinSign :
    isSensitive "İΣ-to\u212aEn" = true ∧
      isSensitive "İΣ-TOKEN" = isSensitive "İΣ-to\u212aEn" ∧
      isSensitive "X-İΣ-to\u212aEnΣ" = true ∧
      isSensitive "AP\u0130-KEY" = false := by
  have hpart : Text.ofString "to\u212aEn" <:+: Text.ofString "İΣ-to\u212aEn" := by
    decide
  have hword : (Text.ofString "to\u212aEn").map foldLetter ∈ credentialWords := by
    decide
  have hfold :
      (Text.ofString "İΣ-TOKEN").map foldLetter =
        (Text.ofString "İΣ-to\u212aEn").map foldLetter := by
    decide
  have hother : Text.ofString "İΣ-to\u212aEn" <:+: Text.ofString "X-İΣ-to\u212aEnΣ" := by
    decide
  obtain ⟨hiff, hcase, hinfix⟩ := isSensitive_iff "İΣ-to\u212aEn"
  have hname := hiff.mpr ⟨_, hpart, hword⟩
  refine ⟨hname, hcase _ hfold, hinfix _ hother hname, ?_⟩
  decide +kernel

end CurlRequest.Curl
