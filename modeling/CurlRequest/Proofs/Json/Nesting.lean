import CurlRequest.Proofs.Json.ReaderSteps

/-!
# Nesting of a text

The nesting of a text is the largest number of brackets and braces that are open at once, those
inside strings not being counted.  It is a property of the text alone, well-formed or not.

The reader opens an array or an object only at a bracket outside strings, and whatever it has
opened is open in the text as well.  Hence it never meets its own limit in a text whose nesting is
within that limit.

**Results.**
* `peak_of_readString`: a string that is read is a string for the nesting.
* `staysWithin`: between two calls the reader and the text agree on what is open.
* `nestingLimit_lt_of_read_eq_tooDeep`: a text that is refused as too deep is nested too deeply.
-/

namespace CurlRequest.Json

/-- Where a place of a text lies with respect to strings. -/
inductive Place
  | outside
  | inside
  | escaped
  deriving DecidableEq, Repr

/-- The largest number of open brackets from a place on, where `level` of them are open. -/
def peak : Place → Nat → Text → Nat
  | _, level, [] => level
  | .outside, level, c :: rest =>
      if c = '"' then peak .inside level rest
      else if c = '[' ∨ c = '{' then peak .outside (level + 1) rest
      else if c = ']' ∨ c = '}' then max level (peak .outside (level - 1) rest)
      else peak .outside level rest
  | .inside, level, c :: rest =>
      if c = '"' then peak .outside level rest
      else if c = '\\' then peak .escaped level rest
      else peak .inside level rest
  | .escaped, level, _ :: rest => peak .inside level rest

/-- The largest number of brackets that are open at once in a text. -/
def nesting (t : Text) : Nat :=
  peak .outside 0 t

/-- The brackets that are open at a place count. -/
theorem le_peak
    (place : Place)
    (level : Nat)
    (t : Text) :
    level ≤ peak place level t := by
  induction t generalizing place level with
  | nil =>
      cases place <;> exact Nat.le_refl level
  | cons c t ih =>
      cases place with
      | outside =>
          simp only [peak]
          split
          · exact ih .inside level
          · split
            · have h := ih .outside (level + 1)
              omega
            · split
              · exact Nat.le_max_left _ _
              · exact ih .outside level
      | inside =>
          simp only [peak]
          split
          · exact ih .outside level
          · split
            · exact ih .escaped level
            · exact ih .inside level
      | escaped =>
          exact ih .inside level

/-! ## Code points that open and close nothing -/

/-- A code point that neither begins a string nor opens or closes anything. -/
def isPlain (c : CodePoint) : Bool :=
  !(Text.ofString "\"[]\x7b\x7d").contains c

/-- A plain code point does not count. -/
theorem peak_plain_cons
    {c : CodePoint}
    (hc : isPlain c = true)
    (level : Nat)
    (t : Text) :
    peak .outside level (c :: t) = peak .outside level t := by
  simp [isPlain, Text.ofString] at hc
  obtain ⟨hquote, hopen, hclose, hopen', hclose'⟩ := hc
  have hbrace : c ≠ CodePoint.ofChar '{' := hopen'
  have hbrace' : c ≠ CodePoint.ofChar '}' := hclose'
  simp only [peak, hquote, hopen, hclose, hbrace, hbrace', or_self, if_false]

/-- A plain text does not count. -/
theorem peak_plain_append
    {t : Text}
    (ht : ∀ c ∈ t, isPlain c = true)
    (level : Nat)
    (u : Text) :
    peak .outside level (t ++ u) = peak .outside level u := by
  induction t with
  | nil =>
      rfl
  | cons c t ih =>
      have hc := ht c List.mem_cons_self
      rw [List.cons_append, peak_plain_cons hc]
      exact ih fun d hd => ht d (List.mem_cons_of_mem c hd)

/-- Blanks do not count. -/
theorem peak_skipBlanks
    (level : Nat)
    (t : Text) :
    peak .outside level (skipBlanks t) = peak .outside level t := by
  have hblank : ∀ c ∈ t.takeWhile isJsonBlank, isPlain c = true := by
    intro c hc
    have h : isJsonBlank c = true := List.all_eq_true.mp List.all_takeWhile c hc
    simp only [isJsonBlank, Bool.or_eq_true, decide_eq_true_eq] at h
    rcases h with ((rfl | rfl) | rfl) | rfl <;> rfl
  have h := peak_plain_append hblank level (t.dropWhile isJsonBlank)
  rw [List.takeWhile_append_dropWhile] at h
  exact h.symm

/-- What stands in a number does not count. -/
theorem isPlain_of_isNumberPart
    {c : CodePoint}
    (h : isNumberPart c = true) :
    isPlain c = true := by
  cases hplain : isPlain c with
  | true =>
      rfl
  | false =>
      have hmem : c ∈ Text.ofString "\"[]\x7b\x7d" := by
        simpa [isPlain] using hplain
      simp only [Text.ofString, List.mem_map] at hmem
      obtain ⟨x, hx, rfl⟩ := hmem
      simp at hx
      rcases hx with rfl | rfl | rfl | rfl | rfl <;> cases h

/-! ## Strings -/

/-- A hexadecimal digit neither ends a string nor begins an escape. -/
theorem peak_inside_hexDigit
    {c : CodePoint}
    {n : Nat}
    (hc : hexDigit? c = some n)
    (level : Nat)
    (t : Text) :
    peak .inside level (c :: t) = peak .inside level t := by
  have hquote : c ≠ '"' := by
    rintro rfl
    cases hc
  have hbackslash : c ≠ '\\' := by
    rintro rfl
    cases hc
  simp only [peak, hquote, hbackslash, if_false]

/-- Four hexadecimal digits neither end a string nor begin an escape. -/
theorem peak_inside_hexUnit
    {a b c d unit : CodePoint}
    (h : hexUnit? a b c d = some unit)
    (level : Nat)
    (t : Text) :
    peak .inside level (a :: b :: c :: d :: t) = peak .inside level t := by
  simp only [hexUnit?, bind, Option.bind_eq_some_iff] at h
  obtain ⟨_, ha, _, hb, _, hc, _, hd, -⟩ := h
  rw [peak_inside_hexDigit ha, peak_inside_hexDigit hb, peak_inside_hexDigit hc,
    peak_inside_hexDigit hd]

/-- The escape of a unit neither ends a string nor begins another escape. -/
theorem peak_inside_unitEscape
    {a b c d unit : CodePoint}
    (h : hexUnit? a b c d = some unit)
    (level : Nat)
    (t : Text) :
    peak .inside level (('\\' : CodePoint) :: ('u' : CodePoint) :: a :: b :: c :: d :: t) =
      peak .inside level t := by
  have hescape :
      peak .inside level (('\\' : CodePoint) :: ('u' : CodePoint) :: a :: b :: c :: d :: t) =
        peak .inside level (a :: b :: c :: d :: t) := rfl
  rw [hescape, peak_inside_hexUnit h]

/-- A string that is read ends where the text leaves it. -/
theorem peak_of_readString
    {opened s content rest : Text}
    {held : Option CodePoint}
    (h : readString opened held s = .ok (content, rest))
    (level : Nat) :
    peak .inside level s = peak .outside level rest := by
  fun_induction readString opened held s generalizing content rest with
  | case2 =>
      cases h
      rfl
  | case7 _ _ _ _ _ _ _ hunit _ _ _ _ ih =>
      obtain ⟨content', h, -⟩ := prepend_eq_ok h
      rw [peak_inside_unitEscape hunit, ih h]
  | case8 _ _ _ _ _ _ _ hunit _ _ _ _ _ ih =>
      obtain ⟨content', h, -⟩ := prepend_eq_ok h
      rw [peak_inside_unitEscape hunit, ih h]
  | case9 _ _ _ _ _ _ _ hunit _ _ _ _ _ ih =>
      obtain ⟨content', h, -⟩ := prepend_eq_ok h
      rw [peak_inside_unitEscape hunit, ih h]
  | case10 _ _ _ _ _ _ _ hunit _ _ _ ih =>
      rw [peak_inside_unitEscape hunit, ih h]
  | case11 _ _ _ _ _ _ _ hunit _ _ _ ih =>
      obtain ⟨content', h, -⟩ := prepend_eq_ok h
      rw [peak_inside_unitEscape hunit, ih h]
  | case13 _ _ _ _ _ _ _ _ ih =>
      obtain ⟨content', h, -⟩ := prepend_eq_ok h
      rw [← ih h]
      rfl
  | case15 _ _ _ hquote _ hbackslash ih =>
      obtain ⟨content', h, -⟩ := prepend_eq_ok h
      rw [← ih h]
      simp only [peak, hquote, hbackslash, if_false]
  | _ =>
      cases h

/-! ## Brackets -/

/-- A bracket that opens counts. -/
theorem peak_open
    {c : CodePoint}
    (hc : c = '[' ∨ c = '{')
    (level : Nat)
    (t : Text) :
    peak .outside level (c :: t) = peak .outside (level + 1) t := by
  rcases hc with rfl | rfl <;> rfl

/-- Behind a bracket that closes no more is open than before it. -/
theorem peak_close_le
    {t rest : Text}
    (hnext : skipBlanks t = (']' : CodePoint) :: rest ∨ skipBlanks t = ('}' : CodePoint) :: rest)
    (level : Nat) :
    peak .outside level rest ≤ peak .outside (level + 1) t := by
  have hmax :
      peak .outside (level + 1) (skipBlanks t) = max (level + 1) (peak .outside level rest) := by
    rcases hnext with hnext | hnext <;>
    · rw [hnext]
      rfl
  rw [peak_skipBlanks] at hmax
  rw [hmax]
  exact Nat.le_max_right _ _

/-- Blanks, a plain code point and further blanks do not count. -/
theorem peak_separator
    {c : CodePoint}
    {t rest : Text}
    (hc : isPlain c = true)
    (hnext : skipBlanks t = c :: rest)
    (level : Nat) :
    peak .outside level t = peak .outside level (skipBlanks rest) := by
  rw [← peak_skipBlanks, hnext, peak_plain_cons hc, peak_skipBlanks]

/-- The name of a member and its colon do not count. -/
theorem peak_member
    {s more name rest next : Text}
    (hs : s = ('"' : CodePoint) :: more)
    (hname : readString s none more = .ok (name, rest))
    (hcolon : skipBlanks rest = (':' : CodePoint) :: next)
    (level : Nat) :
    peak .outside level s = peak .outside level (skipBlanks next) := by
  calc
    peak .outside level s = peak .inside level more := by
      rw [hs]
      rfl
    _ = peak .outside level rest := peak_of_readString hname level
    _ = peak .outside level (skipBlanks next) := peak_separator rfl hcolon level

/-! ## The reader -/

/-- What a call of the reader has to do with the text it is given, where `opened` brackets are open
before it and `closed` after it, and `depth` further ones may be opened.  Afterwards no more is open
than the text opens, and a call that would open too many is in a text that opens too many. -/
def Within {α : Type} (depth opened closed : Nat) (s : Text) : Except ReadFault (α × Text) → Prop
  | .ok (_, rest) => peak .outside closed rest ≤ peak .outside opened s
  | .error fault => fault = .tooDeep → opened + depth < peak .outside opened s

section Within

variable {depth opened closed level : Nat}
variable {s t more rest : Text}

/-- A fault with a place is not about nesting. -/
theorem within_faultAt
    {α : Type}
    (depth opened closed : Nat)
    (s rest : Text)
    (problem : Problem) :
    Within depth opened closed s (faultAt problem rest : Except ReadFault (α × Text)) := by
  intro h
  cases h

/-- A string that is refused is not refused for nesting. -/
theorem within_of_readString_error
    {α : Type}
    {fault : ReadFault}
    (h : readString t none s = .error fault)
    (depth opened closed : Nat)
    (whole : Text) :
    Within depth opened closed whole (.error fault : Except ReadFault (α × Text)) := by
  obtain ⟨problem, remaining, rfl⟩ := readString_error h
  intro hfault
  cases hfault

/-- What is read agrees with any text that opens as much. -/
theorem Within.ok_of_le
    {α β : Type}
    {x : α}
    (h : Within depth opened closed t (.ok (x, rest)))
    (hle : peak .outside opened t ≤ peak .outside opened s)
    (y : β) :
    Within depth opened closed s (.ok (y, rest)) :=
  Nat.le_trans h hle

/-- What is refused agrees with any text that opens as much, whatever would be closed behind it. -/
theorem Within.error_of_le
    {α β : Type}
    {closed' : Nat}
    {fault : ReadFault}
    (h : Within depth opened closed t (.error fault : Except ReadFault (α × Text)))
    (hle : peak .outside opened t ≤ peak .outside opened s) :
    Within depth opened closed' s (.error fault : Except ReadFault (β × Text)) :=
  fun hfault => Nat.lt_of_lt_of_le (h hfault) hle

/-- Behind what is read and a plain code point no more is open than the text opens. -/
theorem Within.peak_separated_le
    {α : Type}
    {x : α}
    {c : CodePoint}
    (h : Within depth opened closed s (.ok (x, rest)))
    (hc : isPlain c = true)
    (hnext : skipBlanks rest = c :: more) :
    peak .outside closed (skipBlanks more) ≤ peak .outside opened s := by
  rw [← peak_separator hc hnext]
  exact h

/-- What is read and a bracket that closes agree with the text. -/
theorem Within.close
    {α β : Type}
    {x : α}
    (h : Within depth opened (level + 1) s (.ok (x, rest)))
    (hnext :
      skipBlanks rest = (']' : CodePoint) :: more ∨ skipBlanks rest = ('}' : CodePoint) :: more)
    (y : β) :
    Within depth opened level s (.ok (y, more)) :=
  Nat.le_trans (peak_close_le hnext level) h

/-- What is read inside a bracket that opens agrees with the text from the bracket on. -/
theorem within_opened_ok
    {α β : Type}
    {inner : Nat}
    {c : CodePoint}
    {x : α}
    (hs : s = c :: more)
    (hc : c = '[' ∨ c = '{')
    (h : Within inner (level + 1) level (skipBlanks more) (.ok (x, rest)))
    (y : β) :
    Within depth level level s (.ok (y, rest)) := by
  simp only [Within] at h ⊢
  rw [peak_skipBlanks, ← peak_open hc, ← hs] at h
  exact h

/-- Brackets with nothing between them agree with the text. -/
theorem within_opened_empty
    {α : Type}
    {c : CodePoint}
    (hs : s = c :: more)
    (hc : c = '[' ∨ c = '{')
    (hnext :
      skipBlanks more = (']' : CodePoint) :: rest ∨ skipBlanks more = ('}' : CodePoint) :: rest)
    (x : α) :
    Within depth level level s (.ok (x, rest)) := by
  have hclose := peak_close_le hnext level
  rw [← peak_open hc, ← hs] at hclose
  exact hclose

/-- What is refused inside a bracket that opens agrees with the text from the bracket on. -/
theorem within_opened_error
    {α β : Type}
    {c : CodePoint}
    {fault : ReadFault}
    (hs : s = c :: more)
    (hc : c = '[' ∨ c = '{')
    (hdepth : depth ≠ 0)
    (h :
      Within (depth - 1) (level + 1) level (skipBlanks more)
        (.error fault : Except ReadFault (α × Text))) :
    Within depth level level s (.error fault : Except ReadFault (β × Text)) := by
  intro hfault
  have hlt := h hfault
  have hpos := Nat.pos_of_ne_zero hdepth
  rw [peak_skipBlanks, ← peak_open hc, ← hs] at hlt
  omega

end Within

/-- A word agrees with the text. -/
theorem within_of_readWord?
    {dialect : Dialect}
    {s : Text}
    {found : Except ReadFault (Json × Text)}
    (h : readWord? dialect s = some found)
    (depth level : Nat) :
    Within depth level level s found := by
  cases found with
  | error fault =>
      obtain ⟨word, x, -, rfl⟩ := readWord?_error h
      intro hfault
      cases hfault
  | ok found =>
      obtain ⟨v, rest⟩ := found
      have hplain : ∃ word, s = word ++ rest ∧ ∀ c ∈ word, isPlain c = true := by
        rcases readWord?_ok h with ⟨word, hmem, hs⟩ | ⟨-, word, x, hmem, -, hs⟩
        · refine ⟨word, hs, ?_⟩
          simp only [words, List.mem_cons, Prod.mk.injEq, List.not_mem_nil, or_false] at hmem
          rcases hmem with ⟨rfl, -⟩ | ⟨rfl, -⟩ | ⟨rfl, -⟩ <;> decide
        · refine ⟨word, hs, ?_⟩
          simp only [numberWords, List.mem_cons, Prod.mk.injEq, List.not_mem_nil,
            or_false] at hmem
          rcases hmem with ⟨rfl, -⟩ | ⟨rfl, -⟩ | ⟨rfl, -⟩ <;> decide
      obtain ⟨word, rfl, hword⟩ := hplain
      exact Nat.le_of_eq (peak_plain_append hword level rest).symm

/-- A number agrees with the text. -/
theorem within_readNumber
    (dialect : Dialect)
    (depth level : Nat)
    (s : Text) :
    Within depth level level s (readNumber dialect s) := by
  cases hread : readNumber dialect s with
  | error fault =>
      rcases readNumber_error hread with rfl | ⟨count, rfl⟩ | ⟨literal, rfl, -⟩ <;>
        · intro hfault
          cases hfault
  | ok found =>
      obtain ⟨v, rest⟩ := found
      obtain ⟨literal, hscan, -⟩ := readNumber_ok hread
      obtain ⟨t, rfl, ht⟩ := numberBefore_of_scanNumber? hscan
      have hplain : ∀ c ∈ t, isPlain c = true := fun c hc => isPlain_of_isNumberPart (ht c hc)
      exact Nat.le_of_eq (peak_plain_append hplain level rest).symm

/-- In so many steps the reader stays within what the text opens: a value closes what it opens, and
items and members close one bracket more. -/
structure StaysWithin (dialect : Dialect) (steps : Nat) : Prop where
  value : ∀ depth level s, Within depth level level s (readValue dialect steps depth s)
  items : ∀ depth level s, Within depth (level + 1) level s (readItems dialect steps depth s)
  members : ∀ depth level s, Within depth (level + 1) level s (readMembers dialect steps depth s)

namespace StaysWithin

theorem zero
    (dialect : Dialect) :
    StaysWithin dialect 0 where
  value _ _ _ := within_faultAt _ _ _ _ _ _
  items _ _ _ := within_faultAt _ _ _ _ _ _
  members _ _ _ := within_faultAt _ _ _ _ _ _

variable {dialect : Dialect}
variable {steps : Nat}

/-- A value in one more step closes what it opens if what stands in its brackets does. -/
theorem value_succ
    (ih : StaysWithin dialect steps)
    (depth level : Nat)
    (s : Text) :
    Within depth level level s (readValue dialect (steps + 1) depth s) := by
  have hcase := readValue_cases dialect steps depth s
  generalize readValue dialect (steps + 1) depth s = outcome at hcase ⊢
  cases hcase with
  | @string more content rest hs hread =>
      have hquote : peak .outside level s = peak .inside level more := by
        rw [hs]
        rfl
      exact Nat.le_of_eq (hquote.trans (peak_of_readString hread level)).symm
  | badString hs hread =>
      exact within_of_readString_error hread depth level level s
  | tooDeep hs hc hdepth =>
      intro _
      rw [hs, hdepth, peak_open hc]
      exact le_peak .outside (level + 1) _
  | emptyArray hs hdepth hnext =>
      exact within_opened_empty hs (Or.inl rfl) (Or.inl hnext) _
  | @array more rest items hs hdepth hread =>
      have hitems := ih.items (depth - 1) level (skipBlanks more)
      rw [hread] at hitems
      exact within_opened_ok hs (Or.inl rfl) hitems _
  | @badArray more fault hs hdepth hread =>
      have hitems := ih.items (depth - 1) level (skipBlanks more)
      rw [hread] at hitems
      exact within_opened_error hs (Or.inl rfl) hdepth hitems
  | emptyObject hs hdepth hnext =>
      exact within_opened_empty hs (Or.inr rfl) (Or.inr hnext) _
  | @object more rest members hs hdepth hread =>
      have hmembers := ih.members (depth - 1) level (skipBlanks more)
      rw [hread] at hmembers
      exact within_opened_ok hs (Or.inr rfl) hmembers _
  | @badObject more fault hs hdepth hread =>
      have hmembers := ih.members (depth - 1) level (skipBlanks more)
      rw [hread] at hmembers
      exact within_opened_error hs (Or.inr rfl) hdepth hmembers
  | word hread =>
      exact within_of_readWord? hread depth level
  | number hword =>
      exact within_readNumber dialect depth level s
  | _ =>
      exact within_faultAt _ _ _ _ _ _

/-- Items in one more step close one bracket more if the first value and the others do. -/
theorem items_succ
    (ih : StaysWithin dialect steps)
    (depth level : Nat)
    (s : Text) :
    Within depth (level + 1) level s (readItems dialect (steps + 1) depth s) := by
  have hcase := readItems_cases dialect steps depth s
  generalize readItems dialect (steps + 1) depth s = outcome at hcase ⊢
  have hitem := ih.value depth (level + 1) s
  cases hcase with
  | badItem hread =>
      rw [hread] at hitem
      exact hitem
  | noComma hread =>
      exact within_faultAt _ _ _ _ _ _
  | last hread hnext =>
      rw [hread] at hitem
      exact hitem.close (Or.inl hnext) _
  | @badRest item rest more fault hread hnext hrest =>
      have hitems := ih.items depth level (skipBlanks more)
      rw [hread] at hitem
      rw [hrest] at hitems
      exact hitems.error_of_le (hitem.peak_separated_le rfl hnext)
  | @cons item items rest more after hread hnext hrest =>
      have hitems := ih.items depth level (skipBlanks more)
      rw [hread] at hitem
      rw [hrest] at hitems
      exact hitems.ok_of_le (hitem.peak_separated_le rfl hnext) _

/-- Members in one more step close one bracket more if the first value and the others do. -/
theorem members_succ
    (ih : StaysWithin dialect steps)
    (depth level : Nat)
    (s : Text) :
    Within depth (level + 1) level s (readMembers dialect (steps + 1) depth s) := by
  have hcase := readMembers_cases dialect steps depth s
  generalize readMembers dialect (steps + 1) depth s = outcome at hcase ⊢
  cases hcase with
  | badName hs hname =>
      exact within_of_readString_error hname _ _ _ _
  | @badValue more name rest next fault hs hname hcolon hread =>
      have hvalue := ih.value depth (level + 1) (skipBlanks next)
      rw [hread] at hvalue
      have hle := Nat.le_of_eq (peak_member hs hname hcolon (level + 1)).symm
      exact hvalue.error_of_le hle
  | @last more name rest next after final value hs hname hcolon hread hnext =>
      have hvalue := ih.value depth (level + 1) (skipBlanks next)
      rw [hread] at hvalue
      have hle := Nat.le_of_eq (peak_member hs hname hcolon (level + 1)).symm
      exact Within.ok_of_le (hvalue.close (Or.inr hnext) value) hle _
  | @badRest more name rest next after further value fault hs hname hcolon hread hnext hrest =>
      have hvalue := ih.value depth (level + 1) (skipBlanks next)
      have hmembers := ih.members depth level (skipBlanks further)
      rw [hread] at hvalue
      rw [hrest] at hmembers
      have hle := hvalue.peak_separated_le rfl hnext
      rw [← peak_member hs hname hcolon] at hle
      exact hmembers.error_of_le hle
  | @cons more name rest next after further final value members hs hname hcolon hread hnext
      hrest =>
      have hvalue := ih.value depth (level + 1) (skipBlanks next)
      have hmembers := ih.members depth level (skipBlanks further)
      rw [hread] at hvalue
      rw [hrest] at hmembers
      have hle := hvalue.peak_separated_le rfl hnext
      rw [← peak_member hs hname hcolon] at hle
      exact hmembers.ok_of_le hle _
  | _ =>
      exact within_faultAt _ _ _ _ _ _

end StaysWithin

/-- By induction on the steps: **the reader stays within** what the text opens. -/
theorem staysWithin
    (dialect : Dialect)
    (steps : Nat) :
    StaysWithin dialect steps := by
  induction steps with
  | zero =>
      exact StaysWithin.zero dialect
  | succ steps ih =>
      exact ⟨ih.value_succ, ih.items_succ, ih.members_succ⟩

/-- **A text that is refused as too deep is nested too deeply.** -/
theorem nestingLimit_lt_of_read_eq_tooDeep
    {dialect : Dialect}
    {text : Text}
    (h : read dialect text = .error .tooDeep) :
    nestingLimit < nesting text := by
  rcases read_error h with hread | ⟨problem, remaining, hfault⟩
  · have hvalue :=
      (staysWithin dialect (2 * text.length + 2)).value nestingLimit 0 (skipBlanks text)
    rw [hread] at hvalue
    have hlt := hvalue rfl
    rw [peak_skipBlanks, Nat.zero_add] at hlt
    exact hlt
  · cases hfault

end CurlRequest.Json
