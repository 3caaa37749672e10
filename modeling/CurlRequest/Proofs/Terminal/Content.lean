import CurlRequest.Proofs.Text.Lines
import CurlRequest.Proofs.Text.Surrogates
import CurlRequest.Terminal.Box

/-!
# Layout adds blanks and edges only

A text that is laid out for the terminal is taken apart into words and glyphs, which are put on lines
and into boxes.  On the way code points are dropped, and blanks and the edges of boxes are added, but
nothing else gets in.  So a text that can be encoded can be encoded when it is laid out.

**Results.**
* `subset_of_mem_glyphs`, `subset_of_mem_words`, `subset_of_mem_fill`: glyphs, words and lines.
* `subset_of_mem_wrap`: wrapping adds blanks only.
* `hasSurrogate_paragraph`: a text that can be encoded can be encoded when it is wrapped.
* `render_subset`: a panel holds its title, its text, blanks and edges.
-/

namespace CurlRequest.Terminal

/-- What fills up lines. -/
def blank : CodePoint := ' '

/-! ## Glyphs -/

/-- Glyphs hold what was given before and the text. -/
theorem subset_of_mem_glyphsAfter
    {current g : Glyph}
    {base : Option CodePoint}
    {joined : Bool}
    {t : Text}
    (h : g ∈ glyphsAfter current base joined t) :
    g.content ⊆ current.content ++ t := by
  induction t generalizing current base joined with
  | nil =>
      rw [glyphsAfter, List.mem_singleton] at h
      rw [h]
      exact List.subset_append_left _ _
  | cons c rest ih =>
      -- A code point that extends the glyph is moved from the text to the glyph.
      have hextend {more : Nat} {base : Option CodePoint} {joined : Bool}
          (h : g ∈ glyphsAfter (current.extend c more) base joined rest) :
          g.content ⊆ current.content ++ c :: rest := by
        have hsubset := ih h
        rwa [Glyph.extend, List.append_assoc, List.singleton_append] at hsubset
      simp only [glyphsAfter] at h
      split at h
      · exact hextend h
      · split at h
        · exact hextend h
        · split at h
          · split at h <;> exact hextend h
          · split at h
            · exact hextend h
            · rcases List.mem_cons.mp h with rfl | h
              · exact List.subset_append_left _ _
              · exact List.subset_append_of_subset_right _ (ih h)

/-- A glyph holds code points of the text. -/
theorem subset_of_mem_glyphs
    {t : Text}
    {g : Glyph}
    (h : g ∈ glyphs t) :
    g.content ⊆ t := by
  cases t with
  | nil =>
      cases h
  | cons c rest =>
      exact subset_of_mem_glyphsAfter h

/-- Blanks are blanks. -/
theorem blanks_subset
    (count : Nat)
    (t : Text) :
    blanks count ⊆ blank :: t := by
  intro c hc
  rw [List.eq_of_mem_replicate hc]
  exact List.mem_cons_self

/-- What is cut off after a number of columns holds code points of the glyphs, and blanks. -/
theorem cut_subset
    {limit : Nat}
    {gs : List Glyph}
    {t : Text}
    (h : ∀ g ∈ gs, g.content ⊆ t) :
    cut limit gs ⊆ blank :: t := by
  induction gs generalizing limit with
  | nil =>
      exact List.nil_subset _
  | cons g rest ih =>
      have hg := h g List.mem_cons_self
      have hrest := fun k hk => h k (List.mem_cons_of_mem g hk)
      simp only [cut]
      split
      · exact List.append_subset.mpr ⟨List.subset_cons_of_subset blank hg, ih hrest⟩
      · exact blanks_subset limit t

/-- Cropping adds blanks only. -/
theorem crop_subset
    (limit : Nat)
    (line : Text) :
    crop limit line ⊆ blank :: line := by
  unfold crop
  split
  · exact cut_subset fun g hg => subset_of_mem_glyphs hg
  · exact List.subset_cons_self blank line

/-- Filling up adds blanks only. -/
theorem fit_subset
    (limit : Nat)
    (line : Text) :
    fit limit line ⊆ blank :: line :=
  List.append_subset.mpr ⟨crop_subset limit line, blanks_subset _ line⟩

/-! ## Words and lines -/

/-- What is chopped off holds code points of the glyphs. -/
theorem subset_of_mem_chopFrom
    {limit used : Nat}
    {gs : List Glyph}
    {t piece : Text}
    (h : ∀ g ∈ gs, g.content ⊆ t)
    (hpiece : piece ∈ chopFrom limit used gs) :
    piece ⊆ t := by
  induction gs generalizing used piece with
  | nil =>
      rw [chopFrom, List.mem_singleton] at hpiece
      rw [hpiece]
      exact List.nil_subset t
  | cons g rest ih =>
      have hg := h g List.mem_cons_self
      have hrest := fun k hk => h k (List.mem_cons_of_mem g hk)
      simp only [chopFrom] at hpiece
      split at hpiece
      · split at hpiece
        · rename_i first pieces heq
          rcases List.mem_cons.mp hpiece with rfl | hpiece
          · exact List.nil_subset t
          · rcases List.mem_cons.mp hpiece with rfl | hpiece
            · exact List.append_subset.mpr ⟨hg, ih hrest (heq ▸ List.mem_cons_self)⟩
            · exact ih hrest (heq ▸ List.mem_cons_of_mem first hpiece)
        · rcases List.mem_cons.mp hpiece with rfl | hpiece
          · exact List.nil_subset t
          · rw [List.mem_singleton.mp hpiece]
            exact hg
      · split at hpiece
        · rename_i first pieces heq
          rcases List.mem_cons.mp hpiece with rfl | hpiece
          · exact List.append_subset.mpr ⟨hg, ih hrest (heq ▸ List.mem_cons_self)⟩
          · exact ih hrest (heq ▸ List.mem_cons_of_mem first hpiece)
        · rw [List.mem_singleton.mp hpiece]
          exact hg

/-- A piece holds code points of the text. -/
theorem subset_of_mem_chop
    {limit : Nat}
    {t piece : Text}
    (h : piece ∈ chop limit t) :
    piece ⊆ t :=
  subset_of_mem_chopFrom (fun _ hg => subset_of_mem_glyphs hg) h

/-- A word holds code points of the line. -/
theorem subset_of_mem_words
    {bound : Nat}
    {line word : Text}
    (h : word ∈ words bound line) :
    word ⊆ line := by
  induction bound generalizing line with
  | zero =>
      cases h
  | succ bound ih =>
      have htake (inRun : CodePoint → Bool) (t : Text) : t.takeWhile inRun ⊆ t :=
        (List.takeWhile_sublist inRun).subset
      have hdrop (n : Nat) (t : Text) : t.drop n ⊆ t := List.drop_subset n t
      simp only [words] at h
      split at h
      · cases h
      · rcases List.mem_cons.mp h with rfl | h
        · refine List.append_subset.mpr ⟨List.append_subset.mpr ⟨htake _ _, ?_⟩, ?_⟩
          · exact List.Subset.trans (htake _ _) (hdrop _ _)
          · exact List.Subset.trans (htake _ _) (List.Subset.trans (hdrop _ _) (hdrop _ _))
        · exact List.Subset.trans (ih h)
            (List.Subset.trans (hdrop _ _) (List.Subset.trans (hdrop _ _) (hdrop _ _)))

/-- Lines hold code points of the words that are put on them. -/
theorem subset_of_mem_fill
    {limit used : Nat}
    {line l t : Text}
    {ws : List Text}
    (hline : line ⊆ t)
    (hwords : ∀ w ∈ ws, w ⊆ t)
    (h : l ∈ fill limit line used ws) :
    l ⊆ t := by
  induction ws generalizing line used with
  | nil =>
      rw [fill, List.mem_singleton] at h
      rw [h]
      exact hline
  | cons word rest ih =>
      have hword := hwords word List.mem_cons_self
      have hrest := fun w hw => hwords w (List.mem_cons_of_mem word hw)
      simp only [fill] at h
      split at h
      · exact ih (List.append_subset.mpr ⟨hline, hword⟩) hrest h
      · split at h
        · have hpieces : ∀ piece ∈ chop limit word, piece ⊆ t :=
            fun piece hpiece => List.Subset.trans (subset_of_mem_chop hpiece) hword
          rcases List.mem_append.mp h with h | h
          · rcases List.mem_append.mp h with h | h
            · split at h
              · cases h
              · rw [List.mem_singleton.mp h]
                exact hline
            · exact hpieces l (List.dropLast_subset _ h)
          · refine ih ?_ hrest h
            cases hlast : (chop limit word).getLast? with
            | none =>
                exact List.nil_subset t
            | some piece =>
                exact hpieces piece (List.mem_of_getLast? hlast)
        · rcases List.mem_cons.mp h with rfl | h
          · exact hline
          · exact ih hword hrest h

/-- Dropping what sticks out adds nothing. -/
theorem dropExcess_subset
    (limit : Nat)
    (line : Text) :
    dropExcess limit line ⊆ line := by
  unfold dropExcess
  split
  · exact List.take_subset _ _
  · exact List.Subset.refl line

/-- The parts of a line hold its code points, and blanks. -/
theorem subset_of_mem_wrapLine
    {limit : Nat}
    {line part : Text}
    (h : part ∈ wrapLine limit line) :
    part ⊆ blank :: line := by
  unfold wrapLine at h
  obtain ⟨l, hl, rfl⟩ := List.mem_map.mp h
  have hsubset : l ⊆ line := by
    split at hl
    · rw [List.mem_singleton.mp hl]
      exact List.Subset.refl line
    · exact subset_of_mem_fill (List.nil_subset line) (fun w hw => subset_of_mem_words hw) hl
  exact List.Subset.trans (crop_subset limit _)
    (List.cons_subset_cons blank (List.Subset.trans (dropExcess_subset limit l) hsubset))

/-- Expanding tabs adds blanks only. -/
theorem expandTabs_subset
    (size : CodePoint → Nat)
    (stop column : Nat)
    (t : Text) :
    expandTabs size stop column t ⊆ blank :: t := by
  induction t generalizing column with
  | nil =>
      exact List.nil_subset _
  | cons c rest ih =>
      have hmore : blank :: rest ⊆ blank :: c :: rest :=
        List.cons_subset_cons blank (List.subset_cons_self c rest)
      have hc : c ∈ blank :: c :: rest := List.mem_cons_of_mem blank List.mem_cons_self
      simp only [expandTabs]
      split
      · exact List.append_subset.mpr ⟨blanks_subset _ _, List.Subset.trans (ih _) hmore⟩
      · split
        · exact List.cons_subset.mpr ⟨hc, List.Subset.trans (ih _) hmore⟩
        · exact List.cons_subset.mpr ⟨hc, List.Subset.trans (ih _) hmore⟩

/-- **Wrapping** adds blanks only. -/
theorem subset_of_mem_wrap
    {limit : Nat}
    {t line : Text}
    (h : line ∈ wrap limit t) :
    line ⊆ blank :: t := by
  obtain ⟨whole, hwhole, hline⟩ := List.mem_flatMap.mp h
  have hsubset : expandTabs columns 8 0 whole ⊆ blank :: t :=
    List.Subset.trans (expandTabs_subset columns 8 0 whole)
      (List.cons_subset_cons blank (Text.subset_of_mem_splitBy hwhole))
  exact List.Subset.trans (subset_of_mem_wrapLine hline)
    (List.cons_subset.mpr ⟨List.mem_cons_self, hsubset⟩)

/-- **Text that is wrapped** can be encoded if it could be before. -/
theorem hasSurrogate_paragraph
    {t : Text}
    (columns : Nat)
    (h : t.hasSurrogate = false) :
    (paragraph columns t).hasSurrogate = false := by
  have hblank : blank.isSurrogate = false := CodePoint.isSurrogate_ofChar ' '
  have hkept : (dropMotions t).hasSurrogate = false :=
    Text.hasSurrogate_of_subset List.filter_sublist.subset h
  have hlines : ∀ l ∈ wrap columns (dropMotions t), l.hasSurrogate = false := by
    intro l hl
    refine Text.hasSurrogate_of_subset (subset_of_mem_wrap hl) ?_
    rw [Text.hasSurrogate, List.any_cons, hblank, Bool.false_or]
    exact hkept
  unfold paragraph
  split
  · rfl
  · rw [Text.hasSurrogate_eq_false_iff]
    intro c hc
    obtain ⟨l, hl, hmem⟩ := List.mem_flatMap.mp hc
    rcases List.mem_append.mp hmem with hmem | hmem
    · exact Text.hasSurrogate_eq_false_iff.mp (hlines l hl) c hmem
    · exact Text.hasSurrogate_eq_false_iff.mp (Text.hasSurrogate_ofString "\n") c hmem

/-- A text that can be encoded has nothing to be escaped. -/
theorem escapeSurrogates_eq
    {t : Text}
    (h : t.hasSurrogate = false) :
    escapeSurrogates t = t := by
  induction t with
  | nil =>
      rfl
  | cons c rest ih =>
      rw [Text.hasSurrogate, List.any_cons, Bool.or_eq_false_iff] at h
      rw [escapeSurrogates, List.flatMap_cons, if_neg (Bool.eq_false_iff.mp h.1),
        List.singleton_append]
      exact congrArg (c :: ·) (ih h.2)

/-! ## Boxes -/

/-- What the frame of a box is made of. -/
def frameMarks : Text := " ╭─╮│╰╯\n"

section Boxes

variable {t : Text}

/-- A rule of a mark is a part of the frame. -/
theorem rule_subset
    {c : CodePoint}
    (hc : c ∈ frameMarks)
    (count : Nat) :
    rule c count ⊆ frameMarks ++ t := by
  intro d hd
  rw [List.eq_of_mem_replicate hd]
  exact List.mem_append_left t hc

/-- A text of marks is a part of the frame. -/
theorem marks_subset
    {marks : Text}
    (h : ∀ c ∈ marks, c ∈ frameMarks) :
    marks ⊆ frameMarks ++ t :=
  fun c hc => List.mem_append_left t (h c hc)

/-- Blanks are marks. -/
theorem subset_frame
    {line : Text}
    (h : line ⊆ blank :: t) :
    line ⊆ frameMarks ++ t := by
  intro c hc
  rcases List.mem_cons.mp (h hc) with rfl | hc
  · exact List.mem_append_left t (by decide)
  · exact List.mem_append_right frameMarks hc

/-- What is in a frame and is cropped is in the frame. -/
theorem crop_subset_frame
    {line : Text}
    (limit : Nat)
    (h : line ⊆ frameMarks ++ t) :
    crop limit line ⊆ frameMarks ++ t := by
  intro c hc
  rcases List.mem_cons.mp (crop_subset limit line hc) with rfl | hc
  · exact List.mem_append_left t (by decide)
  · exact h hc

/-- The upper edge holds the title and marks. -/
theorem upperEdge_subset
    {title : Option Text}
    (columns : Nat)
    (h : ∀ u ∈ title, u ⊆ t) :
    upperEdge columns title ⊆ frameMarks ++ t := by
  have hrule (count : Nat) : rule '─' count ⊆ frameMarks ++ t := rule_subset (by decide) count
  have hblank : Text.ofString " " ⊆ frameMarks ++ t := marks_subset (by decide)
  have hleft : Text.ofString "╭" ⊆ frameMarks ++ t := marks_subset (by decide)
  have hright : Text.ofString "╮" ⊆ frameMarks ++ t := marks_subset (by decide)
  cases title with
  | none =>
      simp only [upperEdge, List.append_subset]
      exact ⟨⟨hleft, hrule _⟩, hright⟩
  | some u =>
      have htitle : u ⊆ frameMarks ++ t :=
        fun c hc => List.mem_append_right frameMarks (h u rfl hc)
      have hcropped : crop (columns - 4) (" " ++ u ++ " ") ⊆ frameMarks ++ t := by
        apply crop_subset_frame
        exact List.append_subset.mpr ⟨List.append_subset.mpr ⟨hblank, htitle⟩, hblank⟩
      simp only [upperEdge]
      split
      · simp only [List.append_subset]
        exact ⟨⟨hleft, hrule _⟩, hright⟩
      · simp only [center, List.append_subset]
        exact ⟨⟨hleft, ⟨hrule _, ⟨hrule _, hcropped⟩, hrule _⟩, hrule _⟩, hright⟩

/-- The lower edge is made of marks. -/
theorem lowerEdge_subset
    (columns : Nat) :
    lowerEdge columns ⊆ frameMarks ++ t := by
  have hrule : rule '─' (columns - 2) ⊆ frameMarks ++ t := rule_subset (by decide) _
  have hleft : Text.ofString "╰" ⊆ frameMarks ++ t := marks_subset (by decide)
  have hright : Text.ofString "╯" ⊆ frameMarks ++ t := marks_subset (by decide)
  simp only [lowerEdge, List.append_subset]
  exact ⟨⟨hleft, hrule⟩, hright⟩

/-- A line inside a box holds its code points and marks. -/
theorem boxed_subset
    {line : Text}
    (columns : Nat)
    (h : line ⊆ blank :: t) :
    boxed columns line ⊆ frameMarks ++ t := by
  have hbar : Text.ofString "│" ⊆ frameMarks ++ t := marks_subset (by decide)
  have hline : fit (columns - 2) line ⊆ blank :: t :=
    List.Subset.trans (fit_subset _ line) (List.cons_subset.mpr ⟨List.mem_cons_self, h⟩)
  simp only [boxed, List.append_subset]
  exact ⟨⟨hbar, subset_frame hline⟩, hbar⟩

/-- **A box** holds its title, its lines and marks. -/
theorem box_subset
    {title : Option Text}
    {ls : List Text}
    (columns : Nat)
    (htitle : ∀ u ∈ title, u ⊆ t)
    (hlines : ∀ l ∈ ls, l ⊆ blank :: t) :
    box columns title ls ⊆ frameMarks ++ t := by
  have hfeed : Text.ofString "\n" ⊆ frameMarks ++ t := marks_subset (by decide)
  unfold box
  split
  · exact List.nil_subset _
  · intro c hc
    obtain ⟨cropped, hcropped, hc⟩ := List.mem_flatMap.mp hc
    obtain ⟨l, hl, rfl⟩ := List.mem_map.mp hcropped
    have hsubset : l ⊆ frameMarks ++ t := by
      rcases List.mem_append.mp hl with hl | hl
      · rcases List.mem_cons.mp hl with rfl | hl
        · exact upperEdge_subset columns htitle
        · split at hl
          · cases hl
          · obtain ⟨line, hline, rfl⟩ := List.mem_map.mp hl
            exact boxed_subset columns (hlines line hline)
      · rw [List.mem_singleton.mp hl]
        exact lowerEdge_subset columns
    exact List.append_subset.mpr ⟨crop_subset_frame columns hsubset, hfeed⟩ hc

/-- **A panel** holds its title, its text, and marks. -/
theorem Panel.render_subset
    (columns : Nat)
    (p : Panel) :
    p.render columns ⊆ frameMarks ++ (p.title ++ p.body) := by
  have htitle : ∀ u ∈ some p.title, u ⊆ p.title ++ p.body := by
    intro u hu
    cases hu
    exact List.subset_append_left p.title p.body
  have hbody : dropMotions p.body ⊆ p.title ++ p.body :=
    List.Subset.trans (List.filter_subset_self p.body) (List.subset_append_right p.title p.body)
  refine box_subset columns htitle fun l hl => ?_
  unfold padded at hl
  split at hl
  · cases hl
  · obtain ⟨line, hline, rfl⟩ := List.mem_map.mp hl
    have hsubset : line ⊆ blank :: (p.title ++ p.body) :=
      List.Subset.trans (subset_of_mem_wrap hline) (List.cons_subset_cons blank hbody)
    exact List.cons_subset.mpr ⟨List.mem_cons_self, hsubset⟩

end Boxes

end CurlRequest.Terminal
