import CurlRequest.Proofs.Dictionary
import CurlRequest.Proofs.Text.Cutting
import CurlRequest.Proofs.Text.Lines
import CurlRequest.Settings
import Mathlib.Data.List.TakeWhile

/-!
# Loading lines of assignments

A statement need not end with its line, because a quoted value goes on until the quote is closed.  A
line without quotes says the same whatever follows it, and so does every line in which all quotes are
closed.  A text of such lines assigns what its lines assign.

**Results.**
* `readStatement_append`, `isSingle_of_not_mem`: a line without quotes is read by itself.
* `assignments_flatMap`: what a text of such lines assigns.
* `get?_load`: the last assignment of a name is the one that counts.
* `get?_lowerKeys_load`: a value that is the only one for its name, letter case aside.
-/

namespace CurlRequest.EnvFile

open Text (lineFeed)

/-! ## Statements in one line -/

section Line

variable {t : Text}

/-- A text without line ends. -/
def IsLine (t : Text) : Prop :=
  ∀ c ∈ t, isLineEnd c = false

/-- Blanks of a line end with the line. -/
theorem skipInner_append
    (t rest : Text) :
    skipInner (t ++ lineFeed :: rest) = skipInner t ++ lineFeed :: rest :=
  Text.dropWhile_append_cons _ (by decide) t rest

/-- A line is skipped together with its end. -/
theorem skipLine_append
    (ht : IsLine t)
    (rest : Text) :
    skipLine (t ++ lineFeed :: rest) = rest := by
  have hall : ∀ c ∈ t, (!isLineEnd c) = true := by
    intro c hc
    rw [ht c hc]
    rfl
  rw [skipLine, Text.dropWhile_append_cons _ (by decide), List.dropWhile_eq_nil_iff.mpr hall]
  rfl

/-- The word `export` stands in the line or not at all. -/
theorem skipExport_append
    (t rest : Text) :
    skipExport (t ++ lineFeed :: rest) = skipExport t ++ lineFeed :: rest := by
  have hfeed : lineFeed ∉ Text.ofString "export" := by decide
  have hblank : isInnerBlank lineFeed = false := by decide
  unfold skipExport
  rw [Text.after?_append_cons hfeed]
  cases Text.after? "export" t with
  | none =>
      rfl
  | some more =>
      cases more with
      | nil =>
          simp only [Option.map_some, List.nil_append, hblank, Bool.false_eq_true, if_false]
      | cons c more =>
          simp only [Option.map_some, List.cons_append]
          split
          · exact skipInner_append more rest
          · rfl

/-- A name without a quote ends with the line. -/
theorem readName?_append
    (hquote : CodePoint.ofChar '\x27' ∉ t)
    (rest : Text) :
    readName? (t ++ lineFeed :: rest) =
      (readName? t).map fun (name, after) => (name, after ++ lineFeed :: rest) := by
  cases t with
  | nil =>
      rfl
  | cons c t =>
      rw [List.mem_cons, not_or] at hquote
      have hfeed : (!(decide (lineFeed = CodePoint.ofChar '=') ||
          decide (lineFeed = CodePoint.ofChar '#') || lineFeed.isBlank)) = false := by
        decide
      simp only [List.cons_append, readName?]
      split
      · rfl
      · rw [if_neg (Ne.symm hquote.1), if_neg (Ne.symm hquote.1)]
        have htake := Text.takeWhile_append_cons
          (fun c : CodePoint => !(decide (c = CodePoint.ofChar '=') ||
            decide (c = CodePoint.ofChar '#') || c.isBlank)) hfeed (c :: t) rest
        have hdrop := Text.dropWhile_append_cons
          (fun c : CodePoint => !(decide (c = CodePoint.ofChar '=') ||
            decide (c = CodePoint.ofChar '#') || c.isBlank)) hfeed (c :: t) rest
        rw [List.cons_append] at htake hdrop
        rw [htake, hdrop]
        split <;> rfl

/-- What follows a name without a quote is an end of the text. -/
theorem suffix_of_readName?
    {name : Option Text}
    {after : Text}
    (hquote : CodePoint.ofChar '\x27' ∉ t)
    (h : readName? t = some (name, after)) :
    after <:+ t := by
  cases t with
  | nil =>
      cases h
  | cons c t =>
      rw [List.mem_cons, not_or] at hquote
      simp only [readName?] at h
      split at h
      · cases h
        exact List.suffix_rfl
      · rw [if_neg (Ne.symm hquote.1)] at h
        split at h
        · cases h
        · cases h
          exact List.dropWhile_suffix _

/-- A value without quotes is all of the line but a comment and the blanks before it. -/
theorem readValue?_append
    (ht : IsLine t)
    (hsingle : CodePoint.ofChar '\x27' ∉ t)
    (hdouble : CodePoint.ofChar '\x22' ∉ t)
    (afterBlank : Bool) :
    readValue? afterBlank t = some (Text.trimEnd (dropComment afterBlank t), []) ∧
    ∀ rest, readValue? afterBlank (t ++ lineFeed :: rest) =
      some (Text.trimEnd (dropComment afterBlank t), lineFeed :: rest) := by
  have hall : ∀ c ∈ t, (!isLineEnd c) = true := by
    intro c hc
    rw [ht c hc]
    rfl
  have hfeed : (!isLineEnd lineFeed) = false := by decide
  cases t with
  | nil =>
      exact ⟨rfl, fun _ => rfl⟩
  | cons c t =>
      rw [List.mem_cons, not_or] at hsingle hdouble
      have hc : isLineEnd c = false := ht c List.mem_cons_self
      constructor
      · simp only [readValue?, Ne.symm hsingle.1, Ne.symm hdouble.1, hc, if_false,
          Bool.false_eq_true]
        rw [List.takeWhile_eq_self_iff.mpr hall, List.dropWhile_eq_nil_iff.mpr hall]
      · intro rest
        simp only [List.cons_append, readValue?, Ne.symm hsingle.1, Ne.symm hdouble.1, hc,
          if_false, Bool.false_eq_true]
        rw [← List.cons_append, Text.takeWhile_append_cons _ hfeed,
          Text.dropWhile_append_cons _ hfeed, List.takeWhile_eq_self_iff.mpr hall,
          List.dropWhile_eq_nil_iff.mpr hall]
        rfl

/-- A comment ends with the line, and so does a statement before it. -/
theorem finishLine?_append
    (ht : IsLine t)
    (rest : Text) :
    finishLine? (t ++ lineFeed :: rest) = (finishLine? t).map fun _ => rest := by
  have hmem : ∀ c ∈ skipInner t, c ∈ t := fun c hc => (List.dropWhile_suffix _).subset hc
  unfold finishLine?
  rw [skipInner_append]
  cases hinner : skipInner t with
  | nil =>
      rfl
  | cons c more =>
      have hends : IsLine (c :: more) := by
        intro d hd
        exact ht d (hmem d (hinner ▸ hd))
      have hall : ∀ d ∈ c :: more, (!isLineEnd d) = true := by
        intro d hd
        rw [hends d hd]
        rfl
      have hc := hends c List.mem_cons_self
      by_cases hcomment : c = CodePoint.ofChar '#'
      · simp only [List.cons_append, hcomment, if_true]
        rw [← hcomment, ← List.cons_append, Text.dropWhile_append_cons _ (by decide),
          List.dropWhile_eq_nil_iff.mpr hall]
        rfl
      · have hreturn : c ≠ CodePoint.ofChar '\r' := by
          rintro rfl
          exact absurd hc (by decide)
        simp only [List.cons_append, hcomment, hreturn, hc, false_and, if_false,
          Bool.false_eq_true, Option.map_none]

/-- What follows the word `export` is an end of the text. -/
theorem skipExport_suffix
    (t : Text) :
    skipExport t <:+ t := by
  unfold skipExport
  split
  · rename_i c more hafter
    split
    · rw [Text.eq_append_of_after? hafter]
      exact (List.dropWhile_suffix _).trans
        ((List.suffix_cons c more).trans (List.suffix_append _ _))
    · exact List.suffix_rfl
  · exact List.suffix_rfl

/-- **A line without quotes** says the same whatever follows it. -/
theorem readStatement_append
    (ht : IsLine t)
    (hsingle : CodePoint.ofChar '\x27' ∉ t)
    (hdouble : CodePoint.ofChar '\x22' ∉ t)
    (rest : Text) :
    readStatement (t ++ lineFeed :: rest) = ((readStatement t).1, rest) := by
  -- Whatever is left to read of the line has no line end and no quote either.
  have left {u : Text} (hu : u <:+ t) :
      IsLine u ∧ CodePoint.ofChar '\x27' ∉ u ∧ CodePoint.ofChar '\x22' ∉ u :=
    ⟨fun c hc => ht c (hu.subset hc), fun hc => hsingle (hu.subset hc),
      fun hc => hdouble (hu.subset hc)⟩
  have hexport := skipExport_suffix t
  unfold readStatement
  rw [skipExport_append]
  dsimp only
  rw [readName?_append (left hexport).2.1]
  cases hname : readName? (skipExport t) with
  | none =>
      simp only [Option.map_none, skipLine_append (left hexport).1]
  | some found =>
      obtain ⟨name, after⟩ := found
      have hafter := (suffix_of_readName? (left hexport).2.1 hname).trans hexport
      have hinner : skipInner after <:+ t := (List.dropWhile_suffix _).trans hafter
      simp only [Option.map_some, skipInner_append]
      cases hrest : skipInner after with
      | nil =>
          have hfinish := finishLine?_append (t := []) (by exact nofun) rest
          have hequals : lineFeed ≠ CodePoint.ofChar '=' := by decide
          simp only [List.nil_append] at hfinish
          simp only [List.nil_append, hequals, if_false, hfinish]
          cases name <;> rfl
      | cons c more =>
          rw [hrest] at hinner
          have hmore : skipInner more <:+ t :=
            (List.dropWhile_suffix _).trans ((List.suffix_cons c more).trans hinner)
          simp only [List.cons_append]
          by_cases hc : c = CodePoint.ofChar '='
          · have hhead : (more ++ lineFeed :: rest).head?.any isInnerBlank =
                more.head?.any isInnerBlank := by
              cases more <;> rfl
            obtain ⟨halone, hfollowed⟩ := readValue?_append (left hmore).1 (left hmore).2.1
              (left hmore).2.2 (more.head?.any isInnerBlank)
            have hfinish := finishLine?_append (t := []) (by exact nofun) rest
            simp only [List.nil_append] at hfinish
            simp only [hc, if_true, hhead, skipInner_append, halone, hfollowed, Option.map_some,
              hfinish]
            cases name <;> rfl
          · have hfinish := finishLine?_append (left hinner).1 rest
            simp only [List.cons_append] at hfinish
            simp only [hc, if_false, hfinish]
            cases hend : finishLine? (c :: more) with
            | none =>
                have hskip := skipLine_append (left hinner).1 rest
                simp only [List.cons_append] at hskip
                simp only [Option.map_none, hskip]
            | some next =>
                cases name <;> rfl

end Line

/-! ## Texts of lines -/

/-- A line that is read by itself: it begins with no blank, and it says the same whatever follows
it. -/
structure IsSingle (line : Text) : Prop where
  begins : ∃ c ∈ line.head?, c.isBlank = false
  alone : ∀ rest, readStatement (line ++ lineFeed :: rest) = ((readStatement line).1, rest)

/-- A line without quotes is read by itself. -/
theorem isSingle_of_not_mem
    {t : Text}
    (hbegins : ∃ c ∈ t.head?, c.isBlank = false)
    (ht : IsLine t)
    (hsingle : CodePoint.ofChar '\x27' ∉ t)
    (hdouble : CodePoint.ofChar '\x22' ∉ t) :
    IsSingle t where
  begins := hbegins
  alone := readStatement_append ht hsingle hdouble

/-- What a statement assigns. -/
def Statement.assignment? : Statement → Option (Text × Option Text)
  | .assign name value => some (name, value)
  | _ => none

theorem assignments_eq
    (t : Text) :
    assignments t = ((statements t).map Entry.statement).filterMap Statement.assignment? := by
  rw [assignments, List.filterMap_map]
  apply List.filterMap_congr
  rintro ⟨line, statement⟩ -
  cases statement <;> rfl

/-- Lines that are read by themselves are read one after the other. -/
theorem statementsWithin_flatMap
    {lines : List Text}
    (h : ∀ l ∈ lines, IsSingle l)
    {bound : Nat}
    (hbound : lines.length < bound)
    (number : Nat) :
    (statementsWithin bound number (lines.flatMap (· ++ [lineFeed]))).map Entry.statement =
      lines.map fun l => (readStatement l).1 := by
  induction lines generalizing bound number with
  | nil =>
      obtain ⟨bound, rfl⟩ := Nat.exists_eq_add_of_lt hbound
      rfl
  | cons l rest ih =>
      obtain ⟨bound, rfl⟩ := Nat.exists_eq_succ_of_ne_zero (Nat.ne_zero_of_lt hbound)
      obtain ⟨c, hhead, hblank⟩ := (h l List.mem_cons_self).begins
      obtain ⟨more, rfl⟩ := List.head?_eq_some_iff.mp hhead
      have hread := (h (c :: more) List.mem_cons_self).alone (rest.flatMap (· ++ [lineFeed]))
      have hrest : rest.length < bound := by
        rw [List.length_cons] at hbound
        omega
      rw [List.cons_append] at hread
      rw [List.flatMap_cons, List.append_assoc, List.singleton_append, List.cons_append]
      simp only [statementsWithin, List.dropWhile_cons_of_neg, hblank, Bool.false_eq_true,
        not_false_eq_true, hread, List.map_cons]
      rw [ih (fun l hl => h l (List.mem_cons_of_mem _ hl)) hrest]

/-- A text has at least as many code points as lines. -/
theorem length_le_length_flatMap
    (lines : List Text) :
    lines.length ≤ (lines.flatMap (· ++ [lineFeed])).length := by
  induction lines with
  | nil =>
      exact Nat.le_refl _
  | cons l rest ih =>
      simp only [List.flatMap_cons, List.length_append, List.length_cons, List.length_nil]
      omega

/-- **A text of lines that are read by themselves** assigns what its lines assign. -/
theorem assignments_flatMap
    {lines : List Text}
    (h : ∀ l ∈ lines, IsSingle l)
    (hmark : dropMark (lines.flatMap (· ++ [lineFeed])) = lines.flatMap (· ++ [lineFeed])) :
    assignments (lines.flatMap (· ++ [lineFeed])) =
      lines.filterMap fun l => (readStatement l).1.assignment? := by
  have hbound := Nat.lt_succ_of_le (length_le_length_flatMap lines)
  rw [assignments_eq, statements, hmark, statementsWithin_flatMap h hbound, List.filterMap_map]
  rfl

/-! ## Assignments -/

/-- A text without dollar signs refers to no variable. -/
theorem expand_of_not_mem
    (environment : Dictionary Text)
    (assigned : Dictionary (Option Text))
    {value : Text}
    (h : CodePoint.ofChar '$' ∉ value) :
    expand environment assigned value = value := by
  unfold expand
  induction value with
  | nil =>
      rfl
  | cons c rest ih =>
      rw [List.mem_cons, not_or] at h
      have hnone : reference? (c :: rest) = none := by
        have hafter : Text.after? "$\x7b" (c :: rest) = none :=
          if_neg h.1
        rw [reference?, hafter]
      simp only [expandAfter, hnone, ih h.2]

/-- Variables after assignments that are made one after the other. -/
def assignAll (environment : Dictionary Text) (assigned : Dictionary (Option Text))
    (pairs : List (Text × Option Text)) : Dictionary (Option Text) :=
  pairs.foldl
    (fun assigned (name, value) =>
      Dictionary.put name (value.map (expand environment assigned)) assigned)
    assigned

section Assign

variable {environment : Dictionary Text}
variable {assigned : Dictionary (Option Text)}
variable {name : Text}

/-- Loading makes the assignments in order. -/
theorem load_eq
    (environment : Dictionary Text)
    (t : Text) :
    load environment t = assignAll environment [] (assignments t) := rfl

/-- Assigned names are distinct. -/
theorem nodup_map_fst_assignAll
    (h : (assigned.map Prod.fst).Nodup)
    (pairs : List (Text × Option Text)) :
    ((assignAll environment assigned pairs).map Prod.fst).Nodup := by
  induction pairs generalizing assigned with
  | nil =>
      exact h
  | cons pair rest ih =>
      exact ih (Dictionary.nodup_map_fst_put h _ _)

/-- Each name was assigned before or is one of those that are assigned. -/
theorem mem_map_fst_of_mem_assignAll
    {pairs : List (Text × Option Text)}
    (h : name ∈ (assignAll environment assigned pairs).map Prod.fst) :
    name ∈ assigned.map Prod.fst ∨ name ∈ pairs.map Prod.fst := by
  induction pairs generalizing assigned with
  | nil =>
      exact Or.inl h
  | cons pair rest ih =>
      rcases ih h with hput | hrest
      · rw [Dictionary.map_fst_put] at hput
        split at hput
        · exact Or.inl hput
        · rcases List.mem_append.mp hput with hassigned | hpair
          · exact Or.inl hassigned
          · rw [List.mem_singleton.mp hpair]
            exact Or.inr List.mem_cons_self
      · exact Or.inr (List.mem_cons_of_mem _ hrest)

/-- A name that is not assigned is as before. -/
theorem get?_assignAll_of_not_mem
    (hassigned : (assigned.map Prod.fst).Nodup)
    {pairs : List (Text × Option Text)}
    (h : name ∉ pairs.map Prod.fst) :
    Dictionary.get? name (assignAll environment assigned pairs) =
      Dictionary.get? name assigned := by
  induction pairs generalizing assigned with
  | nil =>
      rfl
  | cons pair rest ih =>
      rw [List.map_cons, List.mem_cons, not_or] at h
      have hrest := ih (Dictionary.nodup_map_fst_put hassigned pair.1
        (pair.2.map (expand environment assigned))) h.2
      rw [Dictionary.get?_put hassigned, if_neg (Ne.symm h.1)] at hrest
      exact hrest

/-- **The last assignment** of a name is the one that counts. -/
theorem get?_load
    (environment : Dictionary Text)
    {t : Text}
    {value : Option Text}
    (h : Dictionary.get? name (assignments t) = some value) :
    ∃ assigned, Dictionary.get? name (load environment t) =
      some (value.map (expand environment assigned)) := by
  obtain ⟨before, after, hsplit, hafter⟩ := Dictionary.get?_eq_some_iff.mp h
  have hnone : (([] : Dictionary (Option Text)).map Prod.fst).Nodup := List.nodup_nil
  have hbefore : ((assignAll environment [] before).map Prod.fst).Nodup :=
    nodup_map_fst_assignAll hnone before
  have hload : load environment t =
      assignAll environment
        (Dictionary.put name (value.map (expand environment (assignAll environment [] before)))
          (assignAll environment [] before)) after := by
    rw [load_eq, hsplit, assignAll, List.foldl_append]
    rfl
  refine ⟨assignAll environment [] before, ?_⟩
  rw [hload, get?_assignAll_of_not_mem (Dictionary.nodup_map_fst_put hbefore _ _) hafter,
    Dictionary.get?_put hbefore, if_pos rfl]

/-- A name is found in lower case, if no other has the same lower case. -/
theorem get?_lowerKeys
    {α : Type}
    {d : Dictionary α}
    (h : ∀ key ∈ d.map Prod.fst, Text.lower key = Text.lower name → key = name) :
    Dictionary.get? (Text.lower name) (Settings.lowerKeys d) = Dictionary.get? name d := by
  rw [Settings.lowerKeys, Dictionary.get?_ofEntries]
  induction d with
  | nil =>
      rfl
  | cons entry rest ih =>
      obtain ⟨key, value⟩ := entry
      have hrest := ih fun key hkey => h key (List.mem_cons_of_mem _ hkey)
      have hkey : Text.lower key = Text.lower name ↔ key = name :=
        ⟨h key List.mem_cons_self, fun heq => by rw [heq]⟩
      simp only [List.map_cons, Dictionary.get?, hrest, hkey]

/-- **A value without references** is loaded as it stands, if all assignments to its name, letter
case aside, are the same. -/
theorem get?_lowerKeys_load
    (environment : Dictionary Text)
    {t value : Text}
    (hvalue : CodePoint.ofChar '$' ∉ value)
    (hmem : (name, some value) ∈ assignments t)
    (honly : ∀ pair ∈ assignments t, Text.lower pair.1 = Text.lower name →
      pair = (name, some value)) :
    Dictionary.get? (Text.lower name) (Settings.lowerKeys (load environment t)) =
      some (some value) := by
  have hnames : ∀ key ∈ (load environment t).map Prod.fst,
      Text.lower key = Text.lower name → key = name := by
    intro key hkey hlower
    rcases mem_map_fst_of_mem_assignAll hkey with hnil | hpairs
    · exact absurd hnil List.not_mem_nil
    · obtain ⟨pair, hpair, rfl⟩ := List.mem_map.mp hpairs
      exact congrArg Prod.fst (honly pair hpair hlower)
  have hsome : Dictionary.get? name (assignments t) ≠ none := fun hnone =>
    Dictionary.get?_eq_none_iff.mp hnone (List.mem_map_of_mem hmem)
  obtain ⟨last, hlast⟩ := Option.ne_none_iff_exists'.mp hsome
  have hsame := honly (name, last) (Dictionary.mem_of_get?_eq_some hlast) rfl
  obtain ⟨assigned, hload⟩ := get?_load environment hlast
  rw [get?_lowerKeys hnames, hload, (Prod.mk.inj hsame).2, Option.map_some,
    expand_of_not_mem environment assigned hvalue]

end Assign

end CurlRequest.EnvFile
