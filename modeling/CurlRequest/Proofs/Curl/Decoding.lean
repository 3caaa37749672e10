import CurlRequest.Proofs.Curl.Rendering
import Mathlib.Data.List.Basic
import Mathlib.Tactic.SplitIfs

/-!
# Commands tell requests apart

Between the name of the program and the URL a command has clauses: flags, a method, header lines and
a body.  A clause is one or two words, and its first word says which.  So the words of a command can
be cut into its clauses in one way only, whatever the arguments look like, and the last word that is
left over is the URL.

**Results.**
* `Clause.flatMap_words_eq`: words are cut into clauses in one way.
* `Request.clauses_eq_iff`: what the clauses of a request say.
* `render_eq_render_iff`: two renderings are equal iff their clauses and URLs are.
* `full_eq_full_iff`: two requests have the same command iff they agree in all that a command says.
-/

namespace CurlRequest.Curl

open Shell (quote)

/-! ## Clauses -/

/-- What a clause with an argument sets. -/
inductive Setting
  | method
  | header
  | body
  deriving DecidableEq

/-- The word in front of the argument. -/
def Setting.word : Setting → Text
  | method => "-X"
  | header => "-H"
  | body => "-d"

/-- A clause of a command. -/
inductive Clause
  | switch (f : Flag)
  | setting (s : Setting) (argument : Text)
  deriving DecidableEq

/-- No two flags have the same token. -/
theorem Flag.eq_of_token_eq
    {f g : Flag}
    (h : f.token = g.token) :
    f = g := by
  cases f <;> cases g <;> first | rfl | exact absurd h (by decide)

/-- No two settings have the same word. -/
theorem Setting.eq_of_word_eq
    {s s' : Setting}
    (h : s.word = s'.word) :
    s = s' := by
  cases s <;> cases s' <;> first | rfl | exact absurd h (by decide)

/-- No flag's token is the word of a setting. -/
theorem Flag.token_ne_word
    (f : Flag)
    (s : Setting) :
    f.token ≠ s.word := by
  cases f <;> cases s <;> decide

namespace Clause

/-- The words of a clause. -/
def words : Clause → List Text
  | switch f => [f.token]
  | setting s argument => [s.word, argument]

/-- The text of a clause. -/
def render : Clause → Text
  | switch f => f.token
  | setting s argument => s.word ++ " " ++ quote argument

/-- The flag that a clause sets. -/
def flag? : Clause → Option Flag
  | switch f => some f
  | setting _ _ => none

/-- What a clause gives for a setting. -/
def argument? (s : Setting) : Clause → Option Text
  | switch _ => none
  | setting s' argument => if s' = s then some argument else none

/-- A clause has words. -/
theorem length_words_pos
    (c : Clause) :
    0 < c.words.length := by
  cases c with
  | switch f =>
      exact Nat.one_pos
  | setting s argument =>
      exact Nat.two_pos

/-- **The first word says what the clause is**, so the words of a clause do not run into those that
follow. -/
theorem words_append_eq
    {c d : Clause}
    {t u : List Text}
    (h : c.words ++ t = d.words ++ u) :
    c = d ∧ t = u := by
  cases c with
  | switch f =>
      cases d with
      | switch g =>
          obtain ⟨htoken, hrest⟩ := List.cons.inj h
          exact ⟨congrArg switch (Flag.eq_of_token_eq htoken), hrest⟩
      | setting s b =>
          exact absurd (List.cons.inj h).1 (f.token_ne_word s)
  | setting s a =>
      cases d with
      | switch g =>
          exact absurd (List.cons.inj h).1.symm (g.token_ne_word s)
      | setting s' b =>
          obtain ⟨hword, htail⟩ := List.cons.inj h
          obtain ⟨hargument, hrest⟩ := List.cons.inj htail
          exact ⟨congrArg₂ setting (Setting.eq_of_word_eq hword) hargument, hrest⟩

/-- **Words are cut into clauses in one way**, if one word is left over at the end. -/
theorem flatMap_words_eq
    {cs ds : List Clause}
    {last last' : Text}
    (h : cs.flatMap words ++ [last] = ds.flatMap words ++ [last']) :
    cs = ds ∧ last = last' := by
  induction cs generalizing ds with
  | nil =>
      cases ds with
      | nil =>
          exact ⟨rfl, (List.cons.inj h).1⟩
      | cons d ds =>
          have hlength := congrArg List.length h
          have hpos := length_words_pos d
          simp at hlength
          omega
  | cons c cs ih =>
      cases ds with
      | nil =>
          have hlength := congrArg List.length h
          have hpos := length_words_pos c
          simp at hlength
          omega
      | cons d ds =>
          rw [List.flatMap_cons, List.flatMap_cons, List.append_assoc, List.append_assoc] at h
          obtain ⟨rfl, htail⟩ := words_append_eq h
          obtain ⟨rfl, hlast⟩ := ih htail
          exact ⟨rfl, hlast⟩

end Clause

/-! ## The clauses of a request -/

namespace Request

/-- The clauses of the command for a request, with the header lines that `line` makes and a text for
the body. -/
def clauses (r : Request) (flags : Flags) (line : Header → Text) (bodyText : Text) : List Clause :=
  flags.active.map Clause.switch ++
    (if r.method = Text.ofString "GET" then [] else [Clause.setting .method r.method]) ++
    r.headers.map (fun h => Clause.setting .header (line h)) ++
    (if r.hasBody then [Clause.setting .body bodyText] else [])

variable {r s : Request} {flags gs : Flags} {line : Header → Text} {t u : Text}

/-- The words of a request are those of its clauses, between the program and the URL. -/
theorem words_eq_clauses :
    r.words flags line t =
      Text.ofString "curl" :: ((r.clauses flags line t).flatMap Clause.words ++ [r.url]) := by
  have hflags :
      flags.active.flatMap (fun f => (Clause.switch f).words) = flags.active.map Flag.token :=
    List.map_eq_flatMap.symm
  unfold words clauses
  simp only [List.flatMap_append, List.flatMap_map, hflags, List.append_assoc]
  split_ifs <;> rfl

/-- The lines of a request are those of its clauses, between the program and the URL. -/
theorem lines_eq_clauses :
    r.lines flags line t =
      Text.ofString "curl" :: ((r.clauses flags line t).map Clause.render ++ [quote r.url]) := by
  unfold lines clauses
  simp only [List.map_append, List.map_map, List.append_assoc]
  split_ifs <;> rfl

/-- What is picked from the clauses of a request, group by group. -/
theorem filterMap_clauses
    {α : Type}
    (pick : Clause → Option α) :
    (r.clauses flags line t).filterMap pick =
      flags.active.filterMap (fun f => pick (.switch f)) ++
        (if r.method = Text.ofString "GET" then []
          else (pick (.setting .method r.method)).toList) ++
        r.headers.filterMap (fun h => pick (.setting .header (line h))) ++
        (if r.hasBody then (pick (.setting .body t)).toList else []) := by
  have hone (c : Clause) : [c].filterMap pick = (pick c).toList := by
    cases hc : pick c <;> simp [hc]
  unfold clauses
  simp only [List.filterMap_append, List.filterMap_map, Function.comp_def]
  split_ifs <;> simp only [hone, List.filterMap_nil]

/-- The flags that the clauses of a request set. -/
theorem filterMap_flag?_clauses :
    (r.clauses flags line t).filterMap Clause.flag? = flags.active := by
  rw [filterMap_clauses]
  simp [Clause.flag?]

/-- The method that the clauses of a request give. -/
theorem filterMap_method_clauses :
    (r.clauses flags line t).filterMap (Clause.argument? .method) =
      if r.method = Text.ofString "GET" then [] else [r.method] := by
  rw [filterMap_clauses]
  simp [Clause.argument?]

/-- The header lines that the clauses of a request give. -/
theorem filterMap_header_clauses :
    (r.clauses flags line t).filterMap (Clause.argument? .header) = r.headers.map line := by
  rw [filterMap_clauses]
  simp [Clause.argument?]

/-- The body that the clauses of a request give. -/
theorem filterMap_body_clauses :
    (r.clauses flags line t).filterMap (Clause.argument? .body) =
      if r.hasBody then [t] else [] := by
  rw [filterMap_clauses]
  simp [Clause.argument?]

/-- **What the clauses of a request say**: its flags, its method, its header lines, whether it has a
body, and the text of the body if it has one. -/
theorem clauses_eq_iff :
    r.clauses flags line t = s.clauses gs line u
      ↔
    flags.active = gs.active ∧ r.method = s.method ∧
      r.headers.map line = s.headers.map line ∧
      r.hasBody = s.hasBody ∧ (r.hasBody = true → t = u) := by
  constructor
  · intro h
    have hflags := congrArg (List.filterMap Clause.flag?) h
    have hmethod := congrArg (List.filterMap (Clause.argument? .method)) h
    have hheaders := congrArg (List.filterMap (Clause.argument? .header)) h
    have hbody := congrArg (List.filterMap (Clause.argument? .body)) h
    rw [filterMap_flag?_clauses, filterMap_flag?_clauses] at hflags
    rw [filterMap_method_clauses, filterMap_method_clauses] at hmethod
    rw [filterMap_header_clauses, filterMap_header_clauses] at hheaders
    rw [filterMap_body_clauses, filterMap_body_clauses] at hbody
    refine ⟨hflags, ?_, hheaders, ?_, ?_⟩
    · split_ifs at hmethod with hr hs hs
      · rw [hr, hs]
      · exact (List.cons.inj hmethod).1
    · split_ifs at hbody with hr hs hs
      · rw [hr, hs]
      · rw [Bool.eq_false_iff.mpr hr, Bool.eq_false_iff.mpr hs]
    · intro hr
      rw [if_pos hr] at hbody
      split_ifs at hbody
      exact (List.cons.inj hbody).1
  · rintro ⟨hflags, hmethod, hheaders, hhas, htext⟩
    have hlines :
        r.headers.map (fun h => Clause.setting .header (line h)) =
          s.headers.map fun h => Clause.setting .header (line h) := by
      have h := congrArg (List.map (Clause.setting .header)) hheaders
      rw [List.map_map, List.map_map] at h
      exact h
    unfold clauses
    rw [hflags, hmethod, hlines, ← hhas]
    cases hr : r.hasBody with
    | true =>
        rw [htext hr]
    | false =>
        rfl

end Request

/-! ## Renderings -/

/-- What a rendering shows of a header. -/
def Header.lineOf (masked : Bool) (h : Header) : Text :=
  if masked then h.shownLine else h.line

/-- **Two renderings are equal** iff their clauses and their URLs are. -/
theorem render_eq_render_iff
    (masked : Bool)
    (r s : Request)
    (flags gs : Flags)
    (t u : Text) :
    render masked (r.partsWith flags t) = render masked (s.partsWith gs u)
      ↔
    r.clauses flags (Header.lineOf masked) t = s.clauses gs (Header.lineOf masked) u ∧
      r.url = s.url := by
  constructor
  · intro h
    have hwords (r : Request) (flags : Flags) (t : Text) :
        Shell.commands? (render masked (r.partsWith flags t)) =
          some [r.words flags (Header.lineOf masked) t] := by
      apply (readsAs_render_partsWith masked r flags t).commands?_eq
      simp [Request.words]
    have hcommands := congrArg Shell.commands? h
    rw [hwords, hwords, Request.words_eq_clauses, Request.words_eq_clauses] at hcommands
    simp only [Option.some.injEq, List.cons.injEq, and_true, true_and] at hcommands
    exact Clause.flatMap_words_eq hcommands
  · rintro ⟨hclauses, hurl⟩
    have hlines :
        r.lines flags (Header.lineOf masked) t = s.lines gs (Header.lineOf masked) u := by
      rw [Request.lines_eq_clauses, Request.lines_eq_clauses, hclauses, hurl]
    rw [render_partsWith, render_partsWith]
    exact congrArg (Text.join continuation) hlines

/-- **No two different requests have the same command.**  The full texts of two commands are equal
iff the requests have the same flags in force, the same method, the same header lines in the same
order, the same URL, and no body or bodies of the same text. -/
theorem full_eq_full_iff
    (r s : Request)
    (flags gs : Flags)
    (t u : Text)
    (hr : r.body.toText = .ok t)
    (hs : s.body.toText = .ok u) :
    ∃ c d, Command.ofRequest r flags = .ok c ∧ Command.ofRequest s gs = .ok d ∧
      (c.full = d.full ↔
        flags.active = gs.active ∧ r.method = s.method ∧
          r.headers.map Header.line = s.headers.map Header.line ∧
          (r.hasBody = s.hasBody ∧ (r.hasBody = true → t = u)) ∧
          r.url = s.url) := by
  have hcommand {r : Request} (flags : Flags) {t : Text} (ht : r.body.toText = .ok t) :
      Command.ofRequest r flags = .ok (Command.ofParts (r.partsWith flags t)) := by
    rw [ofRequest_eq_map_ofParts, ht]
    rfl
  refine ⟨_, _, hcommand flags hr, hcommand gs hs, ?_⟩
  have h := render_eq_render_iff false r s flags gs t u
  rw [Request.clauses_eq_iff] at h
  simp only [and_assoc] at h ⊢
  exact h

/-- Headers that are cut differently and bodies of different types give the same command.  A header
line that looks like a body and a further header line does not give that of a request with both. -/
theorem full_eq_full_iff_sameLines :
    (Json.int 5).toText = .ok "5" ∧ (Json.str "5").toText = .ok "5" ∧
      (∃ c d,
        Command.ofRequest ⟨"u", "PUT", [⟨"A", "b: c"⟩], .int 5⟩ Flags.none = .ok c ∧
          Command.ofRequest ⟨"u", "PUT", [⟨"A: b", "c"⟩], .str "5"⟩ Flags.none = .ok d ∧
          c.full = d.full) ∧
      ∃ c d,
        Command.ofRequest ⟨"5", "GET", [⟨"-d '5' \\\n  '-d", "x"⟩], .str ""⟩ Flags.none = .ok c ∧
          Command.ofRequest ⟨"5", "GET", [⟨"-d", "x"⟩], .str "5"⟩ Flags.none = .ok d ∧
          c.full ≠ d.full := by
  have hint : (Json.int 5).toText = .ok "5" := rfl
  have hstr (t : Text) : (Json.str t).toText = .ok t := rfl
  refine ⟨hint, hstr "5", ?_, ?_⟩
  · obtain ⟨c, d, hc, hd, hiff⟩ :=
      full_eq_full_iff ⟨"u", "PUT", [⟨"A", "b: c"⟩], .int 5⟩
        ⟨"u", "PUT", [⟨"A: b", "c"⟩], .str "5"⟩ Flags.none Flags.none "5" "5" hint (hstr "5")
    refine ⟨c, d, hc, hd, ?_⟩
    rw [hiff]
    decide +kernel
  · obtain ⟨c, d, hc, hd, hiff⟩ :=
      full_eq_full_iff ⟨"5", "GET", [⟨"-d '5' \\\n  '-d", "x"⟩], .str ""⟩
        ⟨"5", "GET", [⟨"-d", "x"⟩], .str "5"⟩ Flags.none Flags.none "" "5" (hstr "") (hstr "5")
    refine ⟨c, d, hc, hd, ?_⟩
    rw [Ne, hiff]
    decide +kernel

end CurlRequest.Curl
