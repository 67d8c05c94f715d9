import Lexical.Proofs.Lexer.Take

/-!
# Matches tile the text

The matches that a lexer takes lie side by side and make up just what it has read
(`Lexer.Tiled`).  Every match keeps that, and a change of the stack by hand does not touch it.  So it
holds behind every row of calls, whatever fails on the way, and what is known of matches is known of
the tokens that are made of them (`Lexer.tiling_reset`).

Offsets count bytes from the start of the stream, of which the text that the lexer has need not be
the first piece.  They are words, so that a lexer that is resumed near the last offset runs past it and
counts from zero again.  What matches are and how they join does not depend on that, but the order of
the offsets does (`Lexer.not_pairwise_wordGapLexer`): it is that of the text as long as no offset has
started over.
-/

namespace Lexical

/-- The size of a string is the number of bytes of its characters. -/
lemma Text.utf8ByteSize_ofList (text : List Char) :
    (String.ofList text).utf8ByteSize = Text.byteLength text := by
  induction text with
  | nil => rfl
  | cons c text ih =>
    rw [String.ofList_cons, String.utf8ByteSize_append, String.utf8ByteSize_singleton, ih,
      Text.byteLength_cons]

/-! ## Matches side by side -/

namespace Match

variable {lexicon : Lexicon}

/-- The texts of matches, one after the other. -/
def texts (taken : List (Match lexicon)) : List Char :=
  taken.flatMap Match.text

@[simp] lemma texts_nil : texts ([] : List (Match lexicon)) = [] := rfl

@[simp] lemma texts_cons (m : Match lexicon) (taken : List (Match lexicon)) :
    texts (m :: taken) = m.text ++ texts taken := rfl

@[simp] lemma texts_append (taken others : List (Match lexicon)) :
    texts (taken ++ others) = texts taken ++ texts others := by
  simp [texts]

/-- The matches lie side by side in a text that starts at the offset `base`: the first starts behind
`read` bytes of it, and each of the others where the one before it ends. -/
def SideBySide (base : Nat) : Nat → List (Match lexicon) → Prop
  | _, [] => True
  | read, m :: rest =>
    m.start.offset = Position.moveOffset base read ∧
      SideBySide base (read + Text.byteLength m.text) rest

lemma SideBySide.append {base read : Nat} {taken others : List (Match lexicon)}
    (h : SideBySide base read taken)
    (hothers : SideBySide base (read + Text.byteLength (texts taken)) others) :
    SideBySide base read (taken ++ others) := by
  induction taken generalizing read with
  | nil => exact hothers
  | cons m taken ih =>
    obtain ⟨hstart, hrest⟩ := h
    rw [texts_cons, Text.byteLength_append, ← Nat.add_assoc] at hothers
    exact ⟨hstart, ih hrest hothers⟩

/-- Each match starts behind the texts of those before it. -/
lemma SideBySide.of_append {base read : Nat} {taken others : List (Match lexicon)}
    (h : SideBySide base read (taken ++ others)) :
    SideBySide base (read + Text.byteLength (texts taken)) others := by
  induction taken generalizing read with
  | nil => exact h
  | cons m taken ih =>
    have hrest := ih h.2
    rwa [Nat.add_assoc, ← Text.byteLength_append] at hrest

/-- The tokens of the matches that give one. -/
def tokens (taken : List (Match lexicon)) : List Token :=
  (taken.filter fun m => !m.entry.isIgnored).map Match.token

lemma tokens_append (taken others : List (Match lexicon)) :
    tokens (taken ++ others) = tokens taken ++ tokens others := by
  simp [tokens]

lemma tokens_of_ignored {taken : List (Match lexicon)}
    (h : ∀ m ∈ taken, m.entry.isIgnored = true) : tokens taken = [] := by
  have hfilter : taken.filter (fun m => !m.entry.isIgnored) = [] := by
    rw [List.filter_eq_nil_iff]
    intro m hm
    simp [h m hm]
  rw [tokens, hfilter, List.map_nil]

lemma exists_of_mem_tokens {taken : List (Match lexicon)} {t : Token} (h : t ∈ tokens taken) :
    ∃ m ∈ taken, m.token = t := by
  obtain ⟨m, hm, rfl⟩ := List.mem_map.1 h
  exact ⟨m, (List.mem_filter.1 hm).1, rfl⟩

@[simp] lemma text_token (m : Match lexicon) : m.token.text.toList = m.text :=
  String.toList_ofList

end Match

namespace Lexer

variable {lexicon : Lexicon}

/-! ## What a lexer has read -/

/-- The matches that have been taken of a text that starts at an offset are what has been read of
it. -/
structure Tiled (base : Nat) (text : List Char) (taken : List (Match lexicon))
    (lexer : Lexer lexicon) : Prop where
  base_eq : lexer.base = base
  buffer_eq : lexer.buffer = text
  behind_eq : lexer.behind = Match.texts taken
  sideBySide : Match.SideBySide base 0 taken

namespace Tiled

variable {base : Nat} {text : List Char} {taken others : List (Match lexicon)}
  {lexer rest : Lexer lexicon}

lemma text_eq (h : Tiled base text taken lexer) : text = Match.texts taken ++ lexer.ahead := by
  rw [← h.buffer_eq, buffer, h.behind_eq]

lemma offset_eq (h : Tiled base text taken lexer) :
    lexer.position.offset = Position.moveOffset base (Text.byteLength (Match.texts taken)) := by
  rw [position, index, h.base_eq, h.behind_eq]

/-- A match goes on where the others end. -/
lemma takes (h : Tiled base text taken lexer) {length : Nat} {m : Match lexicon}
    (htakes : lexer.Takes length m rest) : Tiled base text (taken ++ [m]) rest where
  base_eq := by rw [htakes.base_eq, h.base_eq]
  buffer_eq := by rw [htakes.buffer_eq, h.buffer_eq]
  behind_eq := by
    rw [htakes.behind_eq, h.behind_eq, Match.texts_append, Match.texts_cons, Match.texts_nil,
      List.append_nil]
  sideBySide := by
    have hstart : m.start.offset
        = Position.moveOffset base (0 + Text.byteLength (Match.texts taken)) := by
      rw [htakes.start_eq, h.offset_eq, Nat.zero_add]
    exact h.sideBySide.append ⟨hstart, trivial⟩

lemma passes (h : Tiled base text taken lexer) (hpasses : Passes lexer others rest) :
    Tiled base text (taken ++ others) rest :=
  hpasses.preserves (P := Tiled base text) (fun h _ => h.takes) h

/-- Where a change by hand leaves the stack does not matter. -/
lemma sameText (h : Tiled base text taken lexer) (hsame : SameText lexer rest) :
    Tiled base text taken rest := by
  obtain ⟨stack, rfl⟩ := hsame
  exact ⟨h.base_eq, h.buffer_eq, h.behind_eq, h.sideBySide⟩

lemma perform (h : Tiled base text taken lexer) (command : Command) :
    Tiled base text (taken ++ lexer.taken command) (lexer.perform command).2 :=
  perform_preserves (P := Tiled base text) (fun h _ => h.takes) (fun h => h.sameText) h command

/-- **Matches tile what is read by any row of calls.** -/
lemma performAll (h : Tiled base text taken lexer) (commands : List Command) :
    Tiled base text (taken ++ lexer.takenOver commands) (lexer.performAll commands) :=
  performAll_preserves (P := Tiled base text) (fun h _ => h.takes) (fun h => h.sameText) h
    commands

end Tiled

/-- Where the text that a lexer is reset to starts in the stream. -/
def baseOf (state : Option LexerState) : Nat :=
  (state.map LexerState.offset).getD 0

lemma tiled_reset (origin : Lexer lexicon) (text : List Char) (state : Option LexerState) :
    Tiled (baseOf state) text [] (origin.reset text state) := by
  cases state with
  | none => exact ⟨rfl, rfl, rfl, trivial⟩
  | some state => exact ⟨rfl, rfl, rfl, trivial⟩

/-! ## The tokens that are given -/

/-- The token that a reply gives. -/
def givenToken? : Reply → Option Token
  | .token (.ok token) => token
  | _ => none

/-- The tokens that are given for a row of calls. -/
def tokensOver (lexer : Lexer lexicon) (commands : List Command) : List Token :=
  (lexer.trace commands).filterMap fun entry => givenToken? entry.1

lemma givenToken?_settleChange (lexer : Lexer lexicon)
    (outcome : Except LexerError (Lexer lexicon × Event)) :
    givenToken? (lexer.settleChange outcome).1 = none := by
  cases outcome with
  | error error => rfl
  | ok changed => rfl

/-- The token that a call gives is that of its last match, and those before it give none. -/
lemma givenToken?_perform (lexer : Lexer lexicon) (command : Command) :
    (givenToken? (lexer.perform command).1).toList = Match.tokens (lexer.taken command) := by
  cases command with
  | next =>
    have hends := (passes_nextWithin lexer.patience lexer).2
    show (givenToken? (.token (lexer.nextWithin lexer.patience).result)).toList
      = Match.tokens (lexer.nextWithin lexer.patience).taken
    generalize lexer.nextWithin lexer.patience = run at hends
    cases hends with
    | @token ignored m _ skipped kept =>
      have hlast : Match.tokens [m] = [m.token] := by simp [Match.tokens, kept]
      rw [Match.tokens_append, Match.tokens_of_ignored skipped, hlast]
      rfl
    | nothing skipped atEnd => rw [Match.tokens_of_ignored skipped]; rfl
    | failed skipped failure => rw [Match.tokens_of_ignored skipped]; rfl
    | stalled skipped exhausted => rw [Match.tokens_of_ignored skipped]; rfl
  | setState name => simp [Lexer.perform, givenToken?_settleChange, taken, Match.tokens]
  | pushState name => simp [Lexer.perform, givenToken?_settleChange, taken, Match.tokens]
  | popState => simp [Lexer.perform, givenToken?_settleChange, taken, Match.tokens]

/-- The induction is on the calls. -/
lemma tokensOver_eq (lexer : Lexer lexicon) (commands : List Command) :
    lexer.tokensOver commands = Match.tokens (lexer.takenOver commands) := by
  induction commands generalizing lexer with
  | nil => rfl
  | cons command rest ih =>
    have hfirst := givenToken?_perform lexer command
    have hrest := ih (lexer.perform command).2
    rw [takenOver, Match.tokens_append, ← hfirst, ← hrest, tokensOver, trace, List.filterMap_cons]
    cases givenToken? (lexer.perform command).1 <;> rfl

end Lexer

end Lexical
