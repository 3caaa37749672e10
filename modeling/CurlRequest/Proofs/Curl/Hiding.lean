import CurlRequest.Proofs.Curl.Masking
import Mathlib.Data.List.Infix

/-!
# What the masked rendering hides

What is shown of a secret is its two ends with glyphs between them.  A run of code points that holds
no glyph cannot reach over the glyphs, so it lies in one of the ends and is no longer than that end,
wherever in the secret it was taken from.  Hidden parts that repeat what is shown do not matter: a
run that is longer than the ends is not shown at all.

**Results.**
* `infix_or_infix_of_separator`: a run that does not hold a separator lies on one side of it.
* `infix_of_infix_keepEnds`: a run without a glyph lies in one of the two ends.
* `showsEnds_keepEnds`: what the two ends show, and how long the runs in them are.
* `mask_showsEnds`: the two classes of secrets that are hidden in part, and what is never shown of
  them.
-/

namespace CurlRequest.Curl

section Runs

variable {α : Type} {run front back : List α} {separator : α}

/-- **A run that does not hold a separator** lies before it or behind it. -/
theorem infix_or_infix_of_separator
    (hrun : run <:+: front ++ separator :: back)
    (hnot : separator ∉ run) :
    run <:+: front ∨ run <:+: back := by
  -- Where the run begins behind the front, the separator is not its first element.
  have hbehind {part : List α} (hpart : part <+: separator :: back) (hsubset : part ⊆ run) :
      part = [] := by
    rcases List.prefix_cons_iff.mp hpart with hnil | ⟨rest, rfl, -⟩
    · exact hnil
    · exact absurd (hsubset List.mem_cons_self) hnot
  rcases List.infix_append_iff.mp hrun with hfront | hback | ⟨part, rest, rfl, hpart, hrest⟩
  · exact Or.inl hfront
  · rcases List.infix_cons_iff.mp hback with hprefix | hlater
    · rw [hbehind hprefix (List.Subset.refl run)]
      exact Or.inl List.nil_infix
    · exact Or.inr hlater
  · rw [hbehind hrest (List.subset_append_right part rest), List.append_nil]
    exact Or.inl hpart.isInfix

/-- A run that does not hold a separator lies before all the separators at the end. -/
theorem infix_of_infix_append_replicate
    {n : Nat}
    (hrun : run <:+: front ++ List.replicate n separator)
    (hnot : separator ∉ run) :
    run <:+: front := by
  induction n with
  | zero =>
      rw [List.replicate_zero, List.append_nil] at hrun
      exact hrun
  | succ n ih =>
      rw [List.replicate_succ', ← List.append_assoc] at hrun
      rcases infix_or_infix_of_separator hrun hnot with hbefore | hbehind
      · exact ih hbefore
      · rw [List.infix_nil.mp hbehind]
        exact List.nil_infix

end Runs

section Ends

variable {front back glyphs : Nat} {v run : Text}

/-- **A run without a glyph** of what is kept lies in one of the two ends. -/
theorem infix_of_infix_keepEnds
    (hglyphs : 0 < glyphs)
    (hrun : run <:+: keepEnds front back glyphs v)
    (hnot : maskGlyph ∉ run) :
    run <:+: v.take front ∨ run <:+: v.drop (v.length - back) := by
  obtain ⟨n, rfl⟩ := Nat.exists_eq_succ_of_ne_zero hglyphs.ne'
  rw [keepEnds, List.replicate_succ', ← List.append_assoc, List.append_assoc,
    List.singleton_append] at hrun
  rcases infix_or_infix_of_separator hrun hnot with hbefore | hbehind
  · exact Or.inl (infix_of_infix_append_replicate hbefore hnot)
  · exact Or.inr hbehind

/-- **What is shown of a value by its two ends**: a text of fixed length that begins and ends as the
value does.  Runs that are longer than the first end hold a glyph, whether they occur in the value
or not. -/
structure ShowsEnds (front back length : Nat) (v shown : Text) : Prop where
  length_eq : shown.length = length
  beginning : v.take front <+: shown
  ending : v.drop (v.length - back) <:+ shown
  glyph_mem : ∀ run, run <:+: shown → front < run.length → maskGlyph ∈ run

/-- The two ends that are kept are shown, and no run without a glyph is longer than the first. -/
theorem showsEnds_keepEnds
    (hglyphs : 0 < glyphs)
    (hback : back ≤ front)
    (hv : front + back ≤ v.length) :
    ShowsEnds front back (front + glyphs + back) v (keepEnds front back glyphs v) where
  length_eq := length_keepEnds hv
  beginning := by
    rw [keepEnds, List.append_assoc]
    exact List.prefix_append _ _
  ending := List.suffix_append _ _
  glyph_mem := by
    intro run hrun hlength
    by_contra hnot
    rcases infix_of_infix_keepEnds hglyphs hrun hnot with hbegin | hend
    · have hle := hbegin.length_le
      rw [List.length_take] at hle
      omega
    · have hle := hend.length_le
      rw [List.length_drop] at hle
      omega

/-- **Of a value without glyphs** no run is shown that is longer than the first end, and so neither
is a value that is longer. -/
theorem ShowsEnds.hides
    {length : Nat}
    {shown : Text}
    (h : ShowsEnds front back length v shown)
    (hglyph : maskGlyph ∉ v)
    (hlength : front < v.length) :
    ¬ v <:+: shown ∧ ∀ run, run <:+: v → front < run.length → ¬ run <:+: shown := by
  have hhidden (run : Text) (hrun : run <:+: v) (hlong : front < run.length) :
      ¬ run <:+: shown :=
    fun hshown => hglyph (hrun.subset (h.glyph_mem run hshown hlong))
  exact ⟨hhidden v (List.infix_refl v) hlength, hhidden⟩

end Ends

/-- A secret of more than 20 code points shows ten and four of them. -/
theorem maskSecret_showsEnds_of_long
    {v : Text}
    (h : 20 < v.length) :
    ShowsEnds 10 4 30 v (maskSecret v) := by
  have hshows : ShowsEnds 10 4 (10 + 16 + 4) v (keepEnds 10 4 16 v) :=
    showsEnds_keepEnds (by decide) (by decide) (by omega)
  rw [maskSecret_of_long h]
  exact hshows

/-- A secret of nine to 20 code points shows four and two of them. -/
theorem maskSecret_showsEnds_of_middle
    {v : Text}
    (h : 9 ≤ v.length ∧ v.length ≤ 20) :
    ShowsEnds 4 2 12 v (maskSecret v) := by
  have hshows : ShowsEnds 4 2 (4 + 6 + 2) v (keepEnds 4 2 6 v) :=
    showsEnds_keepEnds (by decide) (by decide) (by omega)
  rw [maskSecret_of_middle h]
  exact hshows

/-- **What a mask can reveal.**  Of a secret with more than 20 code points the first ten and the last
four are shown, among 30, and a run of more than ten holds a glyph.  Of a secret with nine to 20 code
points the first four and the last two are shown, among twelve, and a run of more than four holds a
glyph.  So a secret of more than eight code points, none of them the glyph, is not shown itself, and
neither is any run of twelve or more of its code points, wherever it lies in the secret. -/
theorem mask_showsEnds
    (name v : Text)
    (hname : isSensitive name = true) :
    (20 < v.length → ShowsEnds 10 4 30 v (mask name v)) ∧
      (9 ≤ v.length ∧ v.length ≤ 20 → ShowsEnds 4 2 12 v (mask name v)) ∧
      (8 < v.length → maskGlyph ∉ v →
        ¬ v <:+: mask name v ∧
          ∀ run, run <:+: v → 12 ≤ run.length → ¬ run <:+: mask name v) := by
  have hmask : mask name v = maskSecret v := by
    rw [mask, if_pos hname]
  rw [hmask]
  refine ⟨maskSecret_showsEnds_of_long, maskSecret_showsEnds_of_middle, ?_⟩
  intro hlength hglyph
  rcases length_cases v with hlong | hmiddle | hshort
  · obtain ⟨hwhole, hruns⟩ :=
      (maskSecret_showsEnds_of_long hlong).hides hglyph (by omega)
    exact ⟨hwhole, fun run hrun hrunLength => hruns run hrun (by omega)⟩
  · obtain ⟨hwhole, hruns⟩ :=
      (maskSecret_showsEnds_of_middle hmiddle).hides hglyph (by omega)
    exact ⟨hwhole, fun run hrun hrunLength => hruns run hrun (by omega)⟩
  · omega

/-- A secret whose hidden part repeats both of its ends, and one at the end of the second class. -/
theorem mask_showsEnds_repeatedEnds :
    isSensitive "Authorization" = true ∧
      (mask "Authorization" "Bearer abcwxyzBearer abcBearer abcwxyz").length = 30 ∧
      ¬ Text.ofString "abcwxyzBearer" <:+:
        mask "Authorization" "Bearer abcwxyzBearer abcBearer abcwxyz" ∧
      ¬ Text.ofString "01230123012301230123" <:+: mask "Authorization" "01230123012301230123" := by
  have hname : isSensitive "Authorization" = true := by decide +kernel
  obtain ⟨hlong, -, hhidden⟩ :=
    mask_showsEnds "Authorization" "Bearer abcwxyzBearer abcBearer abcwxyz" hname
  obtain ⟨-, -, hmiddle⟩ := mask_showsEnds "Authorization" "01230123012301230123" hname
  refine ⟨hname, ?_, ?_, ?_⟩
  · exact (hlong (by decide)).length_eq
  · exact (hhidden (by decide) (by decide)).2 _ (by decide) (by decide)
  · exact (hmiddle (by decide) (by decide)).1

end CurlRequest.Curl
