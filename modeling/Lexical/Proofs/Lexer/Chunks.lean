import Lexical.Proofs.Lexer.Collecting
import Lexical.Proofs.Lexicon.Truncation

/-!
# Texts in chunks

A text can be read in two chunks: a lexer reads the first, is saved at its end, and the second is read
from where it was saved.  A lexer that has only the first chunk sees no further than its end.  That
makes no difference where the cut is at the end of a match of the single pass (`Lexer.collect_chunks`):
each match before the cut is chosen from the first chunk as it is from the whole text, as long as no
pattern has a condition on places.

What needs care is a fallback rule, since it looks for the match behind the text that it takes.  That
match is one of those before the cut, so it is seen as well.
-/

namespace Lexical

open TokenSource

variable {lexicon : Lexicon} {declared : List Declaration}

/-! ## What a state chooses -/

/-- The rules of all declared states are without conditions on places, and their regular expressions
are well-formed by themselves. -/
structure Portable (declared : List Declaration) : Prop where
  sourcesValid : ∀ declaration ∈ declared, ∀ rule ∈ declaration.2, rule.SourcesValid
  lookFree : ∀ declaration ∈ declared, ∀ rule ∈ declaration.2, rule.LookFree

instance (declared : List Declaration) : Decidable (Portable declared) :=
  decidable_of_iff ((∀ declaration ∈ declared, ∀ rule ∈ declaration.2, rule.SourcesValid) ∧
      ∀ declaration ∈ declared, ∀ rule ∈ declaration.2, rule.LookFree)
    ⟨fun h => ⟨h.1, h.2⟩, fun h => ⟨h.1, h.2⟩⟩

/-- A state chooses by rules without conditions on places, and a fallback rule stays in it. -/
structure StateTable.ChoosesBy {n : Nat} (table : StateTable n) (rules : List Rule) : Prop where
  lookFree : ∀ rule ∈ rules, rule.LookFree
  choose_iff : ∀ text entry length,
    table.choose text = some (entry, length) ↔ table.Chooses rules text entry length
  stays : ∀ entry, table.fallback? = some entry → entry.transition = none

lemma Portable.exists_choosesBy (h : Portable declared) (himplements : lexicon.Implements declared)
    (state : lexicon.StateId) : ∃ rules, (lexicon.table state).ChoosesBy rules := by
  obtain ⟨rules, hdeclared, htable⟩ := himplements.exists_declaration state
  have hmem := List.mem_of_getElem? hdeclared
  have hlook := h.lookFree _ hmem
  refine ⟨rules, hlook, fun text entry length =>
    htable.choose_eq_some_iff (h.sourcesValid _ hmem) hlook, fun entry hfallback => ?_⟩
  have hentry : entry ∈ (lexicon.table state).entries := List.mem_of_find?_eq_some hfallback
  have hspecial : entry.trigger.isFallback = true := by
    simpa using List.find?_some hfallback
  refine htable.special entry hentry ?_
  cases htrigger : entry.trigger with
  | pattern matcher =>
    rw [htrigger] at hspecial
    cases hspecial
  | fallback => rfl
  | catchAll => rfl

namespace Lexer

/-! ## A lexer that sees less -/

/-- A lexer stands where another does, but sees less: the other has more text behind the same. -/
structure Sees (narrow wide : Lexer lexicon) (more : List Char) : Prop where
  position_eq : narrow.position = wide.position
  stack_eq : narrow.stack = wide.stack
  ahead_eq : wide.ahead = narrow.ahead ++ more

section Rows

variable {narrow wide rest last : Lexer lexicon} {text more : List Char} {m : Match lexicon}
  {length : Nat} {taken : List (Match lexicon)} {rules : List Rule}

/-- A match lies before the cut if what is behind the cut is left of the text. -/
lemma Takes.length_le (h : wide.Takes length m rest) (hchooses : wide.table.ChoosesBy rules)
    (hwide : wide.ahead = text ++ more) (hrest : more <:+ rest.ahead) : length ≤ text.length := by
  have hlength := ((hchooses.choose_iff _ _ _).1 h.chosen).le_length
  have hmore := hrest.length_le
  rw [hwide, List.length_append] at hlength
  rw [h.drop_eq, hwide, List.length_drop, List.length_append] at hmore
  omega

/-- Where a lexer sees enough to choose the same, it takes the same. -/
lemma Sees.exists_take (h : Sees narrow wide more) (htakes : wide.Takes length m rest)
    (hnarrow : narrow.ahead ≠ []) (hlength : length ≤ narrow.ahead.length)
    (hchosen : narrow.table.choose narrow.ahead = some (m.entry, length)) :
    ∃ rest', narrow.take = .ok (some (m, rest')) ∧ Sees rest' rest more := by
  have hdepth : narrow.depth = wide.depth := by
    rw [depth, depth, h.stack_eq]
  have htext : m.text = narrow.ahead.take length := by
    rw [htakes.text_eq, h.ahead_eq, List.take_append_of_le_length hlength]
  have htakes' :
      narrow.Takes length m { narrow.advance length m.lineBreaks with stack := m.after } := by
    refine ⟨hchosen, ?_, htext, ?_, ?_, ?_, ?_, rfl⟩
    · rw [htakes.state_eq, h.stack_eq]
    · rw [htakes.start_eq, h.position_eq]
    -- Line breaks and the underflow check read the position, the stack and the text of the match,
    -- which the two lexers share.
    · have hcounted := htakes.counted
      unfold countLineBreaks at hcounted ⊢
      rw [h.position_eq]
      exact hcounted
    · have hallowed := htakes.allowed
      unfold underflows? at hallowed ⊢
      rw [h.position_eq, hdepth]
      exact hallowed
    · rw [htakes.after_eq, h.stack_eq]
  refine ⟨_, take_eq_some_iff.2 ⟨hnarrow, length, htakes'⟩, ?_, ?_, ?_⟩
  · rw [htakes'.position_eq, htakes.position_eq, h.position_eq]
  · rw [htakes'.stack_eq, htakes.stack_eq]
  · rw [htakes'.drop_eq, htakes.drop_eq, h.ahead_eq, List.drop_append_of_le_length hlength]

/-- The match behind a fallback text is before the cut, if that text ends before the cut. -/
lemma hit_of_passes (hchooses : wide.table.ChoosesBy rules) (htakes : wide.Takes length m rest)
    (hfallback : wide.table.fallback? = some m.entry)
    (hgap : EndsGap (Hit rules) wide.ahead length) (hrest : rest.ahead = text ++ last.ahead)
    (htext : text ≠ []) (hrow : Passes rest taken last) : Hit rules text := by
  have hstays := hchooses.stays m.entry hfallback
  have htable : rest.table = wide.table := by
    rw [table, table, htakes.stack_eq, htakes.after_eq, hstays]
    rfl
  -- The text of the gap stops short of the end, as the cut text behind it is not empty.
  have hshort : length < wide.ahead.length := by
    have hpos := List.length_pos_iff.2 htext
    have hleft := congrArg List.length hrest
    rw [htakes.drop_eq, List.length_drop, List.length_append] at hleft
    omega
  have hhit : Hit rules rest.ahead := by
    rw [htakes.drop_eq]
    exact hgap.hit_at hshort
  cases hrow with
  | nil => exact absurd (List.self_eq_append_left.1 hrest) htext
  | @cons _ next _ m' others first others =>
    obtain ⟨-, length', htakes'⟩ := take_eq_some_iff.1 first
    -- A fallback rule leaves the state as it is, so the next match is chosen among the same
    -- rules; it cannot be a fallback again where a pattern matches.
    have hchooses' : rest.table.ChoosesBy rules := htable ▸ hchooses
    have hseen := htakes'.length_le hchooses' hrest others.suffix
    cases (hchooses'.choose_iff _ _ _).1 htakes'.chosen with
    | pattern best _ =>
      rw [hrest] at best
      exact (best.of_append hchooses.lookFree hseen).hit
    | fallback unmatched => exact absurd hhit unmatched
    | catchAll unmatched => exact absurd hhit unmatched

/-- **A lexer that sees the text up to the end of a match takes the matches before that.**  The
induction is on the matches of the lexer that sees all of it. -/
theorem Sees.exists_passes (hportable : Portable declared)
    (himplements : lexicon.Implements declared) (h : Sees narrow wide last.ahead)
    (hrow : Passes wide taken last) :
    ∃ before middle stop, Passes wide before middle ∧ Passes narrow before stop ∧
      Sees stop middle last.ahead ∧ stop.ahead = [] := by
  induction hrow generalizing narrow with
  | nil lexer =>
    have hnarrow : narrow.ahead = [] := List.self_eq_append_left.1 h.ahead_eq
    exact ⟨[], lexer, narrow, .nil lexer, .nil narrow, h, hnarrow⟩
  | @cons wide rest last m others first more ih =>
    by_cases hnarrow : narrow.ahead = []
    · exact ⟨[], wide, narrow, .nil wide, .nil narrow, h, hnarrow⟩
    · obtain ⟨-, length, htakes⟩ := take_eq_some_iff.1 first
      obtain ⟨rules, hchooses⟩ := hportable.exists_choosesBy himplements wide.stack.top
      have hlength := htakes.length_le hchooses h.ahead_eq more.suffix
      have hrest : rest.ahead = narrow.ahead.drop length ++ last.ahead := by
        rw [htakes.drop_eq, h.ahead_eq, List.drop_append_of_le_length hlength]
      have hwide := (hchooses.choose_iff _ _ _).1 htakes.chosen
      -- Only a fallback text depends on what is behind it. If it ends before the cut, the match
      -- that ends it does too.
      have hend : wide.table.fallback? = some m.entry →
          EndsGap (Hit rules) (narrow.ahead ++ last.ahead) length →
            length < narrow.ahead.length → Hit rules (narrow.ahead.drop length) := by
        intro hfallback hgap hshort
        rw [← h.ahead_eq] at hgap
        have hne : narrow.ahead.drop length ≠ [] := by
          rw [Ne, List.drop_eq_nil_iff]
          omega
        exact hit_of_passes hchooses htakes hfallback hgap hrest hne more
      -- The wide lexer's choice needs nothing behind the cut, so that the narrow one makes it as
      -- well.
      rw [h.ahead_eq] at hwide
      have hnarrowed := hwide.of_append hchooses.lookFree hlength hend
      have hchosen : narrow.table.choose narrow.ahead = some (m.entry, length) := by
        rw [table, h.stack_eq]
        exact (hchooses.choose_iff _ _ _).2 hnarrowed
      obtain ⟨rest', htake, hsees⟩ := h.exists_take htakes hnarrow hlength hchosen
      obtain ⟨before, middle, stop, hbefore, hbefore', hstop, hnil⟩ := ih hsees
      exact ⟨m :: before, middle, stop, .cons first hbefore, .cons htake hbefore', hstop, hnil⟩

end Rows

/-! ## Two chunks -/

lemma next_of_partialInput {lexer : Lexer lexicon} (hahead : lexer.ahead = [])
    (hpartial : lexicon.options.partialInput = true) : lexer.next = ⟨[], .ok none, lexer⟩ := by
  have htake : lexer.take = .ok none := by
    unfold take endOfInput
    simp [hahead, hpartial, Except.map]
  unfold next patience nextWithin
  rw [htake]

/-- **A text in two chunks is read like the whole.**  The cut is where the single pass over the whole
text comes by between two matches.  Then the first chunk is read to its end without an error, and the
reading of the second, by a lexer that is resumed from where the first one was saved, gives the rest
of what the single pass gives: the same tokens and the same error, if any, at the same position and
with the same stack of states. -/
theorem collect_chunks {categories : CategoryRegistry} {options : LexerOptions}
    (hcompiled : Lexicon.ofStates declared categories options = .ok lexicon)
    (hpartial : options.partialInput = true) (hportable : Portable declared)
    (origin other : Lexer lexicon) {chunk more : List Char} {taken : List (Match lexicon)}
    {cut : Lexer lexicon} (hrow : Passes (origin.reset (chunk ++ more) none) taken cut)
    (hcut : cut.index = Text.byteLength chunk) :
    ∃ count, ∀ limit > count,
      let first := collect limit (origin.reset chunk none)
      first.tokens.length = count ∧ first.ended = true ∧ first.error = none ∧
        ∀ limit', (collect (count + (limit' + 1)) (origin.reset (chunk ++ more) none)).Continues
          first.tokens (collect (limit' + 1) (other.reset more (some first.source.save))) := by
  have himplements := Lexicon.implements_of_ofStates hcompiled
  have hoptions : lexicon.options.partialInput = true := by
    rw [(Lexicon.composedOf_of_ofStates hcompiled).options_eq]
    exact hpartial
  have htiled := (tiled_reset origin (chunk ++ more) none).passes hrow
  -- The cut tells how many bytes were read, and characters up to there are the first chunk.
  obtain ⟨-, hmore⟩ : chunk = Match.texts taken ∧ more = cut.ahead := by
    refine eq_of_append_eq_of_byteLength_eq htiled.text_eq ?_
    rw [← hcut, index, htiled.behind_eq, List.nil_append]
  have hsees : Sees (origin.reset chunk none) (origin.reset (chunk ++ more) none) cut.ahead := by
    rw [← hmore]
    exact ⟨rfl, rfl, rfl⟩
  -- The narrow lexer takes the matches up to where its text ends, and the wide one gets as far.
  obtain ⟨before, middle, stop, hbefore, hbefore', hstop, hnil⟩ :=
    hsees.exists_passes hportable himplements hrow
  refine ⟨(Match.tokens before).length, fun limit hlimit => ?_⟩
  obtain ⟨extra, rfl⟩ := Nat.exists_eq_add_of_lt hlimit
  intro first
  have hfirst : first.Continues (Match.tokens before) (collect (extra + 1) stop) :=
    hbefore'.collect_continues extra
  -- With `partialInput` the end of the first chunk is not an error: it gives no token and changes
  -- nothing, so the lexer is saved where `stop` is.
  have hstopped := next_of_partialInput hnil hoptions
  rw [collect_of_nothing (by rw [hstopped]) extra] at hfirst
  have htokens : first.tokens = Match.tokens before := by
    rw [hfirst.tokens_eq, List.append_nil]
  obtain ⟨herror, hposition, hstack⟩ : first.error = none ∧
      first.source.position = stop.position ∧ first.source.stack = stop.stack := by
    rcases hfirst.final with hsame | ⟨-, position, hstalled⟩
    · rwa [hstopped] at hsame
    · cases hstalled
  have hsave : first.source.save = middle.save :=
    save_eq_of_position_eq (hposition.trans hstop.position_eq) (hstack.trans hstop.stack_eq)
  have hahead : middle.ahead = more := by
    rw [hstop.ahead_eq, hnil, hmore]
    rfl
  -- A lexer resumed there reads what the single pass has left, and `middle` is where that stands.
  have hresumed : Agrees (other.reset more (some middle.save)) middle := by
    have hnodup := himplements.nodup_names
    rw [← hahead]
    exact agrees_reset_save hnodup middle other
  refine ⟨congrArg List.length htokens, hfirst.ended_eq, herror, fun limit' => ?_⟩
  have hwhole := (hbefore.collect_continues limit').trans (hresumed.symm.collect (limit' + 1))
  rw [List.append_nil] at hwhole
  rw [htokens, hsave]
  exact hwhole

/-! ### A cut inside a bracket -/

/-- Words with gaps between them, and numbers in brackets. -/
def listingStates : List Declaration :=
  [("text", [.fallback "gap", .regex "word" "[a-z]+", (Rule.literal "open" "(").push "inside"]),
    ("inside", [.regex "number" "[0-9]+", (Rule.literal "close" ")").pop 1])]

def listingOptions : LexerOptions :=
  { LexerOptions.standard with partialInput := true }

def listingLexicon : Lexicon :=
  (Lexicon.ofStates listingStates .empty listingOptions).toOption.get (by decide +kernel)

/-- A lexer at the start of a text of the listing. -/
def listingLexer (text : String) : Lexer listingLexicon :=
  (initial listingLexicon).reset text.toList none

/-- The lexer behind the gap, the word and the open bracket. -/
def listingCut : Lexer listingLexicon :=
  (listingLexer "--ab(12)").next.lexer.next.lexer.next.lexer

/-- The first chunk ends behind the bracket, in a pushed state. -/
theorem collect_chunks_listing :
    Lexicon.ofStates listingStates .empty listingOptions = .ok listingLexicon ∧
      listingOptions.partialInput = true ∧ Portable listingStates ∧
      (∃ taken, Passes (listingLexer "--ab(12)") taken listingCut) ∧
      listingCut.index = Text.byteLength "--ab(".toList ∧ listingCut.depth = 2 ∧
      (collect 9 (listingLexer "--ab(12)")).tokens.map Token.kind =
        ["gap", "word", "open", "number", "close"] ∧
      ∃ count, ∀ limit > count,
        let first := collect limit (listingLexer "--ab(")
        first.tokens.length = count ∧ first.ended = true ∧ first.error = none ∧
          ∀ limit', (collect (count + (limit' + 1)) (listingLexer "--ab(12)")).Continues first.tokens
            (collect (limit' + 1)
              ((listingLexer "--ab(").reset "12)".toList (some first.source.save))) := by
  have hcompiled : Lexicon.ofStates listingStates .empty listingOptions = .ok listingLexicon :=
    eq_ok_get_toOption _
  have hpartial : listingOptions.partialInput = true := rfl
  have hportable : Portable listingStates := by decide +kernel
  have hrow : ∃ taken, Passes (listingLexer "--ab(12)") taken listingCut :=
    ⟨_, (passes_nextWithin _ _).1.append
      ((passes_nextWithin _ _).1.append (passes_nextWithin _ _).1)⟩
  have hcut : listingCut.index = Text.byteLength "--ab(".toList := by decide +kernel
  have hdepth : listingCut.depth = 2 := by decide +kernel
  have hkinds : (collect 9 (listingLexer "--ab(12)")).tokens.map Token.kind =
      ["gap", "word", "open", "number", "close"] := by
    decide +kernel
  obtain ⟨taken, hpasses⟩ := hrow
  exact ⟨hcompiled, hpartial, hportable, ⟨taken, hpasses⟩, hcut, hdepth, hkinds,
    collect_chunks hcompiled hpartial hportable (initial listingLexicon) (listingLexer "--ab(")
      hpasses hcut⟩

end Lexer

end Lexical
