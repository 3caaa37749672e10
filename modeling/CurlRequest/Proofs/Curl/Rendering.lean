import CurlRequest.Curl.Command
import CurlRequest.Proofs.Shell.Reading
import CurlRequest.Proofs.Text.Lines

/-!
# The text of a command and its words

The text of a command is read by a shell as one simple command.  This module says which lines that
text has, which words the command has, and what of its text stands outside quotes.

The words of a request are listed by `Request.words`, which knows nothing of quoting, of separators
or of parts.  `Request.frame` is the text that remains when every quoted argument is taken out; it
depends on the shape of the request only.

**Results.**
* `Part.readsAs_render`: a part is read as its fixed word and its argument.
* `readsAs_render`: parts are read as the words of all of them.
* `ofRequest_eq`: both renderings of a request, line by line.
* `commands?_ofRequest`: both renderings of a command are one simple command with the words of the
  request, and no data stands outside quotes.
-/

namespace CurlRequest.Curl

open Shell (ReadsAs quote)
open Shell.Lexer (IsSeparator Passes isOrdinary)

/-! ## Parts -/

/-- A backslash before a line break is removed together with it, so that the lines of a command
continue each other. -/
theorem isSeparator_continuation :
    IsSeparator continuation := by
  intro word words commands
  have hblank :
      Shell.Lexer.step ⟨.plain, word, words, commands⟩ (' ' : Char) =
        some (Shell.Lexer.endWord ⟨.plain, word, words, commands⟩) := rfl
  rw [Shell.Lexer.endWord_eq] at hblank ⊢
  have hbackslash :
      Shell.Lexer.step
          ⟨.plain, none, words ++ (word.map List.reverse).toList, commands⟩ ('\\' : Char) =
        some ⟨.escaped, none, words ++ (word.map List.reverse).toList, commands⟩ := rfl
  have hbreak :
      Shell.Lexer.step
          ⟨.escaped, none, words ++ (word.map List.reverse).toList, commands⟩ ('\n' : Char) =
        some ⟨.plain, none, words ++ (word.map List.reverse).toList, commands⟩ := rfl
  have hindent :
      Shell.Lexer.step
          ⟨.plain, none, words ++ (word.map List.reverse).toList, commands⟩ (' ' : Char) =
        some ⟨.plain, none, words ++ (word.map List.reverse).toList, commands⟩ := rfl
  apply Passes.visible hblank rfl
  apply Passes.visible hbackslash rfl
  apply Passes.visible hbreak rfl
  apply Passes.visible hindent rfl
  apply Passes.visible hindent rfl
  exact Passes.nil _

/-- A word that needs no quotes. -/
def IsFixedWord (t : Text) : Prop :=
  t ≠ [] ∧ ∀ c ∈ t, isOrdinary c = true

instance (t : Text) : Decidable (IsFixedWord t) :=
  inferInstanceAs (Decidable (t ≠ [] ∧ ∀ c ∈ t, isOrdinary c = true))

/-- The words of a part. -/
def Part.words (masked : Bool) (p : Part) : List Text :=
  p.flag.toList ++ (p.shownArgument masked).toList

/-- What a part shows outside quotes: its text without the quoted argument. -/
def Part.frame (masked : Bool) (p : Part) : Text :=
  Text.join " " (p.flag.toList ++ (p.shownArgument masked).toList.map fun _ => [])

/-- The words of a part without a secret are the same in both renderings. -/
theorem Part.words_mk
    (masked : Bool)
    (kind : PartKind)
    (flag argument : Option Text) :
    Part.words masked ⟨kind, flag, argument, none⟩ = flag.toList ++ argument.toList := by
  cases masked <;> rfl

/-- The text of a part without a secret is the same in both renderings. -/
theorem Part.render_mk
    (masked : Bool)
    (kind : PartKind)
    (flag argument : Option Text) :
    Part.render masked ⟨kind, flag, argument, none⟩ =
      Text.join " " (flag.toList ++ argument.toList.map quote) := by
  cases masked <;> rfl

/-- What a part without a secret shows outside quotes is the same in both renderings. -/
theorem Part.frame_mk
    (masked : Bool)
    (kind : PartKind)
    (flag argument : Option Text) :
    Part.frame masked ⟨kind, flag, argument, none⟩ =
      Text.join " " (flag.toList ++ argument.toList.map fun _ => []) := by
  cases masked <;> rfl

/-- A part is read as its fixed word and its argument, and only the fixed word is shown. -/
theorem Part.readsAs_render
    (masked : Bool)
    {p : Part}
    (hflag : ∀ f ∈ p.flag, IsFixedWord f) :
    ReadsAs (p.render masked) (p.words masked) (p.frame masked) := by
  unfold Part.render Part.words Part.frame
  cases hf : p.flag with
  | none =>
      cases p.shownArgument masked with
      | none =>
          exact ReadsAs.nil
      | some argument =>
          exact ReadsAs.quoted argument
  | some f =>
      obtain ⟨hne, hordinary⟩ := hflag f hf
      have hword : ReadsAs f [f] f := ReadsAs.fixed hne hordinary
      cases p.shownArgument masked with
      | none =>
          exact hword
      | some argument =>
          exact ReadsAs.append Shell.Lexer.isSeparator_space hword (ReadsAs.quoted argument)

/-- **Parts are read as the words of all of them**, line after line. -/
theorem readsAs_render
    (masked : Bool)
    (parts : List Part)
    (hparts : ∀ p ∈ parts, ∀ f ∈ p.flag, IsFixedWord f) :
    ReadsAs (render masked parts) (parts.flatMap (Part.words masked))
      (Text.join continuation (parts.map (Part.frame masked))) := by
  apply ReadsAs.join isSeparator_continuation
  intro p hp
  exact Part.readsAs_render masked (hparts p hp)

/-! ## Requests -/

/-- The header line that the masked rendering shows. -/
def Header.shownLine (h : Header) : Text :=
  if isSensitive h.name then h.name ++ ": " ++ mask h.name h.value else h.line

namespace Request

/-- The words of the command for a request, with the header lines that `line` makes and a text for
the body. -/
def words (r : Request) (flags : Flags) (line : Header → Text) (bodyText : Text) : List Text :=
  ([(↑"curl" : Text)] ++ flags.active.map Flag.token ++
    (if r.method = Text.ofString "GET" then [] else [(↑"-X" : Text), r.method]) ++
    r.headers.flatMap (fun h => [(↑"-H" : Text), line h]) ++
    (if r.hasBody then [(↑"-d" : Text), bodyText] else []) ++
    [r.url])

/-- The lines of the command for a request, with the header lines that `line` makes and a text for
the body. -/
def lines (r : Request) (flags : Flags) (line : Header → Text) (bodyText : Text) : List Text :=
  ([(↑"curl" : Text)] ++ flags.active.map Flag.token ++
    (if r.method = Text.ofString "GET" then [] else [↑"-X " ++ quote r.method]) ++
    r.headers.map (fun h => ↑"-H " ++ quote (line h)) ++
    (if r.hasBody then [↑"-d " ++ quote bodyText] else []) ++
    [quote r.url])

/-- The command for a request without its quoted arguments. -/
def frame (r : Request) (flags : Flags) : Text :=
  Text.join continuation
    ([(↑"curl" : Text)] ++ flags.active.map Flag.token ++
      (if r.method = Text.ofString "GET" then [] else [(↑"-X " : Text)]) ++
      r.headers.map (fun _ => (↑"-H " : Text)) ++
      (if r.hasBody then [(↑"-d " : Text)] else []) ++
      [[]])

/-- The parts of the command for a request whose body has the given text. -/
def partsWith (r : Request) (flags : Flags) (bodyText : Text) : List Part :=
  r.leadingParts flags ++ r.headers.map Header.part ++
    (if r.hasBody then [⟨.body, some "-d", some bodyText, none⟩] else []) ++
    [⟨.url, none, some r.url, none⟩]

end Request

/-- A request without a body has a text for it all the same. -/
theorem toText_of_hasBody_eq_false
    {r : Request}
    (h : r.hasBody = false) :
    ∃ text, r.body.toText = .ok text := by
  unfold Request.hasBody at h
  cases hbody : r.body with
  | null =>
      exact ⟨_, rfl⟩
  | str s =>
      exact ⟨s, rfl⟩
  | bool b =>
      simp [hbody, Json.isAbsent] at h
  | int n =>
      simp [hbody, Json.isAbsent] at h
  | float x =>
      simp [hbody, Json.isAbsent] at h
  | arr items =>
      simp [hbody, Json.isAbsent] at h
  | obj members =>
      simp [hbody, Json.isAbsent] at h

/-- A request has parts exactly if its body has a text. -/
theorem Request.parts_eq_map_partsWith
    (r : Request)
    (flags : Flags) :
    r.parts flags = r.body.toText.map fun text => r.partsWith flags text := by
  unfold Request.parts Request.bodyParts Request.partsWith
  cases hbody : r.hasBody with
  | true =>
      simp only [if_true]
      cases r.body.toText <;> rfl
  | false =>
      obtain ⟨text, htext⟩ := toText_of_hasBody_eq_false hbody
      rw [htext]
      rfl

/-- A request has a command exactly if its body has a text. -/
theorem ofRequest_eq_map_ofParts
    (r : Request)
    (flags : Flags) :
    Command.ofRequest r flags =
      r.body.toText.map fun text => Command.ofParts (r.partsWith flags text) := by
  rw [Command.ofRequest, Request.parts_eq_map_partsWith]
  cases r.body.toText <;> rfl

/-- The word of a flag needs no quotes. -/
theorem Flag.isFixedWord_token
    (f : Flag) :
    IsFixedWord f.token := by
  cases f <;> decide

/-- The fixed words in the parts of a request need no quotes. -/
theorem isFixedWord_of_mem_partsWith
    (r : Request)
    (flags : Flags)
    (bodyText : Text) :
    ∀ p ∈ r.partsWith flags bodyText, ∀ f ∈ p.flag, IsFixedWord f := by
  intro p hp f hf
  simp only [Request.partsWith, Request.leadingParts, List.mem_append, List.mem_cons,
    List.mem_map, List.not_mem_nil, or_false] at hp
  rcases hp with (((rfl | ⟨flag, -, rfl⟩ | hmethod) | ⟨h, -, rfl⟩) | hbody) | rfl
  · cases hf
    decide
  · cases hf
    exact Flag.isFixedWord_token flag
  · split at hmethod
    · cases hmethod
    · rw [List.mem_singleton] at hmethod
      subst hmethod
      cases hf
      decide
  · cases hf
    decide
  · split at hbody
    · rw [List.mem_singleton] at hbody
      subst hbody
      cases hf
      decide
    · cases hbody
  · cases hf

/-- What is computed of the parts of a request, part by part. -/
theorem map_partsWith
    {α : Type}
    (f : Part → α)
    (r : Request)
    (flags : Flags)
    (bodyText : Text) :
    (r.partsWith flags bodyText).map f =
      [f ⟨.command, some "curl", none, none⟩] ++
        flags.active.map (fun g => f ⟨.option, some g.token, none, none⟩) ++
        (if r.method = Text.ofString "GET" then []
          else [f ⟨.method, some "-X", some r.method, none⟩]) ++
        r.headers.map (fun h => f h.part) ++
        (if r.hasBody then [f ⟨.body, some "-d", some bodyText, none⟩] else []) ++
        [f ⟨.url, none, some r.url, none⟩] := by
  unfold Request.partsWith Request.leadingParts
  simp only [List.map_append, List.map_cons, List.map_map, apply_ite, List.map_nil]
  rfl

/-- The words of a header's part. -/
theorem Header.words_part
    (masked : Bool)
    (h : Header) :
    h.part.words masked = [(↑"-H" : Text), if masked then h.shownLine else h.line] := by
  cases masked with
  | false =>
      rfl
  | true =>
      unfold Part.words Part.shownArgument Header.part Header.shownLine
      cases isSensitive h.name <;> rfl

/-- What a header's part shows outside quotes. -/
theorem Header.frame_part
    (masked : Bool)
    (h : Header) :
    h.part.frame masked = ↑"-H " := by
  unfold Part.frame Part.shownArgument Header.part
  cases masked <;> cases isSensitive h.name <;> rfl

/-- The words of the parts are the words of the request. -/
theorem flatMap_words_partsWith
    (masked : Bool)
    (r : Request)
    (flags : Flags)
    (bodyText : Text) :
    (r.partsWith flags bodyText).flatMap (Part.words masked) =
      r.words flags (fun h => if masked then h.shownLine else h.line) bodyText := by
  have hflags :
      (flags.active.map fun g => [g.token]).flatten = flags.active.map Flag.token :=
    List.map_eq_flatMap.symm
  have htoken (g : Flag) : Part.words masked ⟨.option, some g.token, none, none⟩ = [g.token] :=
    Part.words_mk masked .option (some g.token) none
  rw [List.flatMap_def, map_partsWith]
  simp only [htoken, Header.words_part, Part.words_mk, List.flatten_append, hflags,
    apply_ite List.flatten]
  rfl

/-- The frame of the parts is the frame of the request. -/
theorem map_frame_partsWith
    (masked : Bool)
    (r : Request)
    (flags : Flags)
    (bodyText : Text) :
    Text.join continuation ((r.partsWith flags bodyText).map (Part.frame masked)) =
      r.frame flags := by
  rw [map_partsWith]
  simp only [Header.frame_part, Part.frame_mk]
  rfl

/-- The text of a header's part. -/
theorem Header.render_part
    (masked : Bool)
    (h : Header) :
    h.part.render masked = ↑"-H " ++ quote (if masked then h.shownLine else h.line) := by
  cases masked with
  | false =>
      rfl
  | true =>
      unfold Part.render Part.shownArgument Header.part Header.shownLine
      cases isSensitive h.name <;> rfl

/-- The parts of a request are written as its lines. -/
theorem render_partsWith
    (masked : Bool)
    (r : Request)
    (flags : Flags)
    (bodyText : Text) :
    render masked (r.partsWith flags bodyText) =
      Text.join continuation
        (r.lines flags (fun h => if masked then h.shownLine else h.line) bodyText) := by
  rw [render, map_partsWith]
  simp only [Header.render_part, Part.render_mk]
  rfl

/-- **The text of a command.**  Both renderings are the lines of the request; they take different
header lines and nothing else. -/
theorem ofRequest_eq
    (r : Request)
    (flags : Flags) :
    Command.ofRequest r flags =
      r.body.toText.map fun text =>
        ⟨Text.join continuation (r.lines flags Header.line text),
          Text.join continuation (r.lines flags Header.shownLine text)⟩ := by
  rw [ofRequest_eq_map_ofParts]
  congr 1
  funext text
  unfold Command.ofParts
  rw [render_partsWith, render_partsWith]
  rfl

/-- A rendering of a request's parts is read as the words of the request. -/
theorem readsAs_render_partsWith
    (masked : Bool)
    (r : Request)
    (flags : Flags)
    (bodyText : Text) :
    ReadsAs (render masked (r.partsWith flags bodyText))
      (r.words flags (fun h => if masked then h.shownLine else h.line) bodyText)
      (r.frame flags) := by
  have h :=
    readsAs_render masked (r.partsWith flags bodyText)
      (isFixedWord_of_mem_partsWith r flags bodyText)
  rw [flatMap_words_partsWith, map_frame_partsWith] at h
  exact h

/-- No operator, expansion or comment sign stands in the frame of a request. -/
theorem inactive_of_mem_frame
    (r : Request)
    (flags : Flags) :
    ∀ c ∈ r.frame flags, Shell.Lexer.isActive c = false ∧ c ≠ ('#' : Char) := by
  apply Text.forall_mem_join
  · decide
  · intro t ht
    simp only [List.mem_append, List.mem_cons, List.mem_map, List.not_mem_nil, or_false] at ht
    rcases ht with ((((rfl | ⟨f, -, rfl⟩) | hmethod) | ⟨h, -, rfl⟩) | hbody) | rfl
    · decide
    · cases f <;> decide
    · split at hmethod
      · cases hmethod
      · rw [List.mem_singleton] at hmethod
        subst hmethod
        decide
    · decide
    · split at hbody
      · rw [List.mem_singleton] at hbody
        subst hbody
        decide
      · cases hbody
    · decide

/-- **Both renderings of a command are one simple command.**  Its words are the words of the
request, where the masked rendering has what is shown of a secret header in place of its line.
Outside quotes stands the frame of the request, which holds nothing that a shell would act upon. -/
theorem commands?_ofRequest
    (r : Request)
    (flags : Flags)
    (bodyText : Text)
    (hbody : r.body.toText = .ok bodyText) :
    ∃ c, Command.ofRequest r flags = .ok c ∧
      Shell.commands? c.full = some [r.words flags Header.line bodyText] ∧
      Shell.commands? c.masked = some [r.words flags Header.shownLine bodyText] ∧
      Shell.Lexer.start.outside? c.full = some (r.frame flags) ∧
      Shell.Lexer.start.outside? c.masked = some (r.frame flags) ∧
      ∀ x ∈ r.frame flags, Shell.Lexer.isActive x = false ∧ x ≠ ('#' : Char) := by
  have hfull := readsAs_render_partsWith false r flags bodyText
  have hmasked := readsAs_render_partsWith true r flags bodyText
  have hne (line : Header → Text) : r.words flags line bodyText ≠ [] := by
    simp [Request.words]
  have hcommand :
      Command.ofRequest r flags = .ok (Command.ofParts (r.partsWith flags bodyText)) := by
    rw [ofRequest_eq_map_ofParts, hbody]
    rfl
  refine ⟨_, hcommand, ?_, ?_, ?_, ?_, ?_⟩
  · exact hfull.commands?_eq (hne _)
  · exact hmasked.commands?_eq (hne _)
  · exact hfull.outside?_eq
  · exact hmasked.outside?_eq
  · exact inactive_of_mem_frame r flags

/-- A request with quotes, a line continuation, operators and a secret in its values. -/
theorem commands?_ofRequest_quotes_and_continuation :
    (Json.str "|&\n'").toText = .ok "|&\n'" ∧
      ∃ c,
        Command.ofRequest
            ⟨"a' \\\n  'b", "P'OST", [⟨"X-Token", "s3cret'; rm -rf / #"⟩], .str "|&\n'"⟩
            ⟨true, false, false, false, true⟩ = .ok c ∧
          Shell.commands? c.full =
            some [[↑"curl", ↑"-v", ↑"-L", ↑"-X", ↑"P'OST", ↑"-H",
              ↑"X-Token: s3cret'; rm -rf / #", ↑"-d", ↑"|&\n'", ↑"a' \\\n  'b"]] ∧
          Shell.commands? c.masked =
            some [[↑"curl", ↑"-v", ↑"-L", ↑"-X", ↑"P'OST", ↑"-H",
              ↑"X-Token: s3cr•••••• #", ↑"-d", ↑"|&\n'", ↑"a' \\\n  'b"]] := by
  have hbody : (Json.str "|&\n'").toText = .ok "|&\n'" := rfl
  obtain ⟨c, hc, hfull, hmasked, -⟩ :=
    commands?_ofRequest
      ⟨"a' \\\n  'b", "P'OST", [⟨"X-Token", "s3cret'; rm -rf / #"⟩], .str "|&\n'"⟩
      ⟨true, false, false, false, true⟩ "|&\n'" hbody
  refine ⟨hbody, c, hc, ?_, ?_⟩
  · rw [hfull]
    decide +kernel
  · rw [hmasked]
    decide +kernel

end CurlRequest.Curl
