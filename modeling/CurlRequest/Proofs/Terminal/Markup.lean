import CurlRequest.Proofs.Text.Lines
import CurlRequest.Proofs.Text.Cutting
import CurlRequest.Proofs.Text.Surrogates
import CurlRequest.Terminal.Markup

/-!
# Messages without brackets

A message is cut into plain texts and tags, and only an opening bracket can begin a tag.  So a text
without one is plain, whatever backslashes stand in it, and it is shown whatever styles are open.
What is shown has a surrogate only if the text has: pictures of emoji have none.

**Results.**
* `hasSurrogate_showEmoji`: replacing names of emoji adds no surrogates.
* `piecesAfter_of_not_mem`: the pieces of a text without brackets.
* `exists_shown_of_not_mem`: such a text can be shown.
* `shown_label`: a text between a tag that opens a style and one that closes it.
* `plainText_labelled`: such a label in front of a text without brackets.
-/

namespace CurlRequest.Terminal

/-! ## Emoji -/

/-- A picture is a part of its entry. -/
theorem hasSurrogate_pictureIn?
    {name entry picture : Text}
    (h : pictureIn? name entry = some picture)
    (hentry : entry.hasSurrogate = false) :
    picture.hasSurrogate = false := by
  unfold pictureIn? at h
  split at h
  · rename_i known found hcut
    split at h
    · cases h
      obtain ⟨hsplit, -⟩ := Text.eq_append_of_cutAt? hcut
      refine Text.hasSurrogate_of_subset ?_ hentry
      rw [hsplit]
      exact fun c hc => List.mem_append_right _ (List.mem_cons_of_mem _ hc)
    · cases h
  · cases h

/-- No picture has a surrogate. -/
theorem hasSurrogate_emoji?
    {name picture : Text}
    (h : emoji? name = some picture) :
    picture.hasSurrogate = false := by
  obtain ⟨line, -, hline⟩ := List.exists_of_findSome?_eq_some h
  obtain ⟨entry, hentry, hpicture⟩ := List.exists_of_findSome?_eq_some hline
  apply hasSurrogate_pictureIn? hpicture
  exact Text.hasSurrogate_of_subset (Text.subset_of_mem_splitBy hentry)
    (Text.hasSurrogate_ofString line)

/-- By induction on the text: neither has the choice of how an emoji is shown. -/
theorem hasSurrogate_style_of_emojiName?
    {name t : Text}
    {found : EmojiName}
    (h : emojiName? name t = some found) :
    found.style.hasSurrogate = false := by
  induction t generalizing name with
  | nil =>
      cases h
  | cons c rest ih =>
      rw [emojiName?] at h
      split at h
      · rename_i style length hend
        cases h
        unfold emojiEnd? at hend
        split at hend
        · cases hend
          exact Text.hasSurrogate_ofString _
        · split at hend
          · cases hend
            exact Text.hasSurrogate_ofString _
          · split at hend
            · cases hend
              rfl
            · cases hend
      · split at h
        · cases h
        · exact ih h

/-- By induction on the text: after a number of code points that were shown already. -/
theorem hasSurrogate_showEmojiAfter
    (skip : Nat)
    {t : Text}
    (h : t.hasSurrogate = false) :
    (showEmojiAfter skip t).hasSurrogate = false := by
  induction t generalizing skip with
  | nil =>
      rfl
  | cons c rest ih =>
      have hrest : Text.hasSurrogate rest = false :=
        Text.hasSurrogate_of_subset (List.subset_cons_self c rest) h
      cases skip with
      | succ skip =>
          exact ih skip hrest
      | zero =>
          rw [showEmojiAfter]
          split
          · rw [← List.singleton_append, Text.hasSurrogate_append, ih 0 hrest, Bool.or_false]
            exact Text.hasSurrogate_of_subset
              (List.cons_subset.mpr ⟨List.mem_cons_self, List.nil_subset _⟩) h
          · rename_i found hfound
            have hname : emojiName? [] rest = some found := by
              split at hfound
              · exact hfound
              · cases hfound
            dsimp only
            rw [Text.hasSurrogate_append, ih found.length hrest, Bool.or_false]
            split
            · rename_i picture hpicture
              rw [Text.hasSurrogate_append, hasSurrogate_emoji? hpicture,
                hasSurrogate_style_of_emojiName? hname, Bool.or_false]
            · exact Text.hasSurrogate_of_subset
                (List.cons_subset_cons c (List.take_subset found.length rest)) h

/-- **Replacing names of emoji** adds no surrogates. -/
theorem hasSurrogate_showEmoji
    {t : Text}
    (h : t.hasSurrogate = false) :
    (showEmoji t).hasSurrogate = false :=
  hasSurrogate_showEmojiAfter 0 h

namespace Markup

/-! ## Pieces -/

/-- Leaving out backslashes adds nothing. -/
theorem dropEscapes_subset
    (t : Text) :
    dropEscapes t ⊆ t := by
  fun_induction dropEscapes t with
  | case1 =>
      exact List.Subset.refl _
  | case2 c =>
      exact List.Subset.refl _
  | case3 c d rest hescape ih =>
      exact List.subset_cons_of_subset c ih
  | case4 c d rest hescape ih =>
      exact List.cons_subset_cons c ih

/-- Only an opening bracket begins a tag. -/
theorem insideOfTag?_eq_none
    {c : CodePoint}
    (hc : c ≠ opening)
    (rest : Text) :
    insideOfTag? (c :: rest) = none := by
  cases rest with
  | nil =>
      rfl
  | cons d rest =>
      simp only [insideOfTag?, hc, false_and, if_false]

/-- **A text without brackets** is at most one plain text, which holds what the text holds and
backslashes.  The induction is on the text, whatever backslashes stand before it. -/
theorem piecesAfter_of_not_mem
    {t : Text}
    (h : opening ∉ t)
    (position slashes : Nat) :
    piecesAfter position 0 slashes t = [] ∨
      ∃ u, piecesAfter position 0 slashes t = [.plain u] ∧ u ⊆ backslash :: t := by
  have hslashes (n : Nat) (more : Text) : List.replicate n backslash ⊆ backslash :: more := by
    intro c hc
    rw [List.eq_of_mem_replicate hc]
    exact List.mem_cons_self
  induction t generalizing position slashes with
  | nil =>
      rw [piecesAfter]
      split
      · exact Or.inl rfl
      · exact Or.inr ⟨_, rfl, hslashes slashes []⟩
  | cons c rest ih =>
      rw [List.mem_cons, not_or] at h
      have hwiden : backslash :: rest ⊆ backslash :: c :: rest :=
        List.cons_subset_cons backslash (List.subset_cons_self c rest)
      rw [piecesAfter]
      split
      · -- A backslash is counted.
        rcases ih h.2 (position + 1) (slashes + 1) with hnone | ⟨u, hu, hsubset⟩
        · exact Or.inl hnone
        · exact Or.inr ⟨u, hu, List.Subset.trans hsubset hwiden⟩
      · rw [insideOfTag?_eq_none (Ne.symm h.1)]
        dsimp only
        have hhere : List.replicate slashes backslash ++ [c] ⊆ backslash :: c :: rest :=
          List.append_subset.mpr ⟨hslashes slashes _,
            List.cons_subset.mpr ⟨List.mem_cons_of_mem _ List.mem_cons_self, List.nil_subset _⟩⟩
        right
        rcases ih h.2 (position + 1) 0 with hnone | ⟨u, hu, hsubset⟩
        · rw [hnone]
          exact ⟨_, rfl, hhere⟩
        · rw [hu]
          exact ⟨_, rfl, List.append_subset.mpr ⟨hhere, List.Subset.trans hsubset hwiden⟩⟩

/-! ## What is shown -/

section Shown

variable {console : Console}
variable {tags : List OpenTag}
variable {name : Text}

/-- A tag that opens a style. -/
theorem shown_opened
    {inside : Text}
    (hbegins : ∃ c ∈ inside.head?, c ≠ CodePoint.ofChar '/')
    (hname : normalName (tagName inside) = .ok name)
    (position : Nat)
    (rest : List Piece) :
    shown console tags (.tag position inside :: rest) =
      shown console (⟨name, tagParameters inside⟩ :: tags) rest := by
  obtain ⟨c, hc, hslash⟩ := hbegins
  cases inside with
  | nil =>
      cases hc
  | cons d body =>
      cases hc
      simp only [shown, hslash, if_false, hname]

/-- A tag that closes the style that was opened last, which calls no handler. -/
theorem shown_closed
    {body : Text}
    {tag : OpenTag}
    (hbody : (Text.trim (tagName body)).isEmpty = false)
    (hname : normalName (Text.trim (tagName body)) = .ok tag.name)
    (hhandler : tag.isHandler = false)
    (position : Nat)
    (rest : List Piece) :
    shown console (tag :: tags) (.tag position (CodePoint.ofChar '/' :: body) :: rest) =
      shown console tags rest := by
  have hclose : tag.close console = .ok () := by
    rw [OpenTag.close, hhandler, Bool.false_and, if_neg Bool.false_ne_true]
  simp only [shown, if_true, hbody, Bool.false_eq_true, if_false, hname, takeOut?, hclose]
  rfl

/-- A plain text between two tags, of which one opens a style and the other closes it. -/
theorem shown_label
    {style : Text}
    (hbegins : ∃ c ∈ style.head?, c ≠ CodePoint.ofChar '/')
    (htrimmed : Text.trim (tagName style) = tagName style)
    (hstyle : (tagName style).isEmpty = false)
    (hname : normalName (tagName style) = .ok name)
    (hhandler : name.head? ≠ some (CodePoint.ofChar '@'))
    (position position' : Nat)
    (label : Text)
    (rest : List Piece) :
    shown console tags
        (.tag position style :: .plain label :: .tag position' (CodePoint.ofChar '/' :: style) ::
          rest) =
      (shown console tags rest).map (showEmoji (dropEscapes label) ++ ·) := by
  have hbody : (Text.trim (tagName style)).isEmpty = false := by
    rw [htrimmed, hstyle]
  have hclosed : normalName (Text.trim (tagName style)) = .ok name := by
    rw [htrimmed, hname]
  rw [shown_opened hbegins hname, shown, shown_closed hbody hclosed (decide_eq_false hhandler)]

/-- **A text without brackets can be shown**, whatever styles are open. -/
theorem exists_shown_of_not_mem
    {t : Text}
    (h : opening ∉ t)
    (ht : t.hasSurrogate = false)
    (position slashes : Nat) :
    ∃ u, shown console tags (piecesAfter position 0 slashes t) = .ok u ∧
      u.hasSurrogate = false := by
  rcases piecesAfter_of_not_mem h position slashes with hnone | ⟨u, hu, hsubset⟩
  · rw [hnone]
    exact ⟨[], rfl, rfl⟩
  · rw [hu]
    refine ⟨showEmoji (dropEscapes u) ++ [], rfl, ?_⟩
    rw [List.append_nil]
    apply hasSurrogate_showEmoji
    have hbackslash : backslash.isSurrogate = false := CodePoint.isSurrogate_ofChar '\\'
    refine Text.hasSurrogate_of_subset (List.Subset.trans (dropEscapes_subset u) hsubset) ?_
    rw [Text.hasSurrogate, List.any_cons, hbackslash, Bool.false_or]
    exact ht

/-- **A label in front of a text without brackets**: what the tags of the label show is shown before
the text, and painting goes well. -/
theorem plainText_labelled
    {style label message t : Text}
    {position position' after : Nat}
    (hpieces : pieces message =
      .tag position style :: .plain label :: .tag position' (CodePoint.ofChar '/' :: style) ::
        piecesAfter after 0 0 t)
    (hbegins : ∃ c ∈ style.head?, c ≠ CodePoint.ofChar '/')
    (htrimmed : Text.trim (tagName style) = tagName style)
    (hstyle : (tagName style).isEmpty = false)
    (hname : normalName (tagName style) = .ok name)
    (hhandler : name.head? ≠ some (CodePoint.ofChar '@'))
    (hparenthesis : CodePoint.ofChar '(' ∉ style)
    (ht : opening ∉ t) :
    plainText console message =
      (shown console [] (piecesAfter after 0 0 t)).map (showEmoji (dropEscapes label) ++ ·) := by
  have hpaint : console.paintFault? message = none := by
    apply console.paintFault?_eq_none
    have hslash : CodePoint.ofChar '(' ∉ CodePoint.ofChar '/' :: style := by
      rw [List.mem_cons, not_or]
      exact ⟨by decide, hparenthesis⟩
    have hrest : ∀ piece ∈ piecesAfter after 0 0 t, piece.hasParenthesis = false := by
      intro piece hpiece
      rcases piecesAfter_of_not_mem ht after 0 with hnone | ⟨u, hu, -⟩
      · rw [hnone] at hpiece
        cases hpiece
      · rw [hu, List.mem_singleton] at hpiece
        rw [hpiece]
        rfl
    have htag (position : Nat) (inside : Text) (h : CodePoint.ofChar '(' ∉ inside) :
        (Piece.tag position inside).hasParenthesis = false := by
      rw [Piece.hasParenthesis, List.contains_eq_mem, decide_eq_false h]
    rw [hpieces]
    simp only [List.forall_mem_cons]
    exact ⟨htag position style hparenthesis, rfl, htag position' _ hslash, hrest⟩
  rw [plainText, hpieces, shown_label hbegins htrimmed hstyle hname hhandler, hpaint]
  cases shown console [] (piecesAfter after 0 0 t) <;> rfl

end Shown

end Markup

end CurlRequest.Terminal
