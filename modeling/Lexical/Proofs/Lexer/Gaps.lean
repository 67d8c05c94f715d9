import Lexical.Proofs.Lexer.Chunks
import Lexical.Proofs.Lexer.MaximalMunch

/-!
# Gaps

A fallback rule takes what is between two matches of the other rules of its state: its text ends where
one of them matches again, and not before (`Lexer.takenOver_gaps`).  Whether one of them matches is
asked of the matchers that the state tries at a place (`StateTable.Finds`), while the end of the text is
looked for with the scanner.

So there is something to take behind such a text other than one more of the kind.  What is kept from
match to match is that something matches behind the last one if it was a fallback text
(`Lexer.Spaced`), and it does not matter what is done to the stack in between.
-/

namespace Lexical

open Regex

lemma EndsGap.congr {hit hit' : List Char → Prop} {text : List Char} {length : Nat}
    (h : EndsGap hit text length) (hsame : ∀ text, hit text ↔ hit' text) :
    EndsGap hit' text length where
  le_length := h.le_length
  inside place hplace hhit := h.inside place hplace ((hsame _).2 hhit)
  hit_at hshort := (hsame _).1 (h.hit_at hshort)

/-- A gap where nothing is hit is not empty, unless there is no text. -/
lemma EndsGap.pos {hit : List Char → Prop} {text : List Char} {length : Nat}
    (h : EndsGap hit text length) (hnot : ¬ hit text) (htext : text ≠ []) : 0 < length := by
  by_contra hzero
  obtain rfl : length = 0 := Nat.eq_zero_of_not_pos hzero
  exact hnot (h.hit_at (List.length_pos_iff.2 htext))

namespace StateTable

/-- Some pattern of a state matches at the start of a text. -/
def Finds {n : Nat} (table : StateTable n) (text : List Char) : Prop :=
  (table.matcher.longest text).isSome = true

/-- What is chosen is a fallback rule only where no pattern matches. -/
lemma not_finds_of_choose {n : Nat} {table : StateTable n} {text : List Char}
    {entry : Entry n Expr} {length : Nat} (h : table.choose text = some (entry, length))
    (hfallback : entry.trigger.isFallback = true) : ¬ table.Finds text := by
  intro hfinds
  obtain ⟨⟨index, most⟩, hlongest⟩ := Option.isSome_iff_exists.1 hfinds
  -- What matches is chosen before any fallback rule, so the entry would be one with a pattern.
  obtain ⟨found, start, most', hfound, hmatch, -⟩ := exists_find?_of_longest hlongest
  simp only [choose, hlongest, hfound, Option.map_some, Option.some.injEq, Prod.mk.injEq] at h
  obtain ⟨rfl, -⟩ := h
  cases htrigger : found.trigger with
  | pattern matcher =>
    rw [htrigger] at hfallback
    cases hfallback
  | fallback => simp [Entry.find?, htrigger, Trigger.pattern?] at hmatch
  | catchAll => simp [Entry.find?, htrigger, Trigger.pattern?] at hmatch

namespace Implements

variable {names : List String} {closure : String → CategorySet} {declaration : Declaration}
  {table : StateTable names.length} {text : List Char} {entry : Entry names.length Expr}
  {length : Nat}

lemma finds_iff_hit (h : table.Implements closure declaration)
    (hvalid : ∀ rule ∈ declaration.2, rule.SourcesValid) (text : List Char) :
    table.Finds text ↔ Hit declaration.2 text := by
  have hbest := h.best_longest hvalid text
  unfold Finds
  cases hlongest : table.matcher.longest text with
  | none =>
    rw [hlongest] at hbest
    simpa using best_none_iff.1 hbest
  | some found =>
    rw [hlongest] at hbest
    simpa using hbest.hit

/-- Where no pattern matches, the fallback rule takes the text up to the next match. -/
lemma exists_choose_gap (h : table.Implements closure declaration)
    (hvalid : ∀ rule ∈ declaration.2, rule.SourcesValid)
    (hlook : ∀ rule ∈ declaration.2, rule.LookFree) (hfallback : table.fallback? = some entry)
    (hlongest : table.matcher.longest text = none) :
    ∃ length, table.choose text = some (entry, length) ∧ EndsGap table.Finds text length := by
  have hunmatched : ¬ Hit declaration.2 text := by
    rw [← h.finds_iff_hit hvalid, Finds, hlongest]
    exact Bool.false_ne_true
  have hgap := h.endsGap hvalid hlook hfallback hunmatched
  refine ⟨(table.nextStart? text).getD text.length, ?_, ?_⟩
  · simp only [choose, hlongest, hfallback]
  · exact hgap.congr fun text => (h.finds_iff_hit hvalid text).symm

/-- All that a fallback rule takes goes up to the next match. -/
lemma gap_of_choose (h : table.Implements closure declaration)
    (hvalid : ∀ rule ∈ declaration.2, rule.SourcesValid)
    (hlook : ∀ rule ∈ declaration.2, rule.LookFree)
    (hchosen : table.choose text = some (entry, length))
    (hfallback : entry.trigger.isFallback = true) : EndsGap table.Finds text length := by
  have hnot := not_finds_of_choose hchosen hfallback
  rw [h.finds_iff_hit hvalid] at hnot
  cases (h.choose_eq_some_iff hvalid hlook).1 hchosen with
  -- A pattern was chosen only if one matched, and a catch-all rule is no fallback rule.
  | pattern best => exact absurd best.hit hnot
  | fallback _ _ gap => exact gap.congr fun text => (h.finds_iff_hit hvalid text).symm
  | catchAll _ _ hcatchAll =>
    have hcatch : entry.trigger.isCatchAll = true := by
      simpa using List.find?_some hcatchAll
    cases htrigger : entry.trigger with
    | pattern matcher =>
      rw [htrigger] at hfallback
      cases hfallback
    | fallback =>
      rw [htrigger] at hcatch
      cases hcatch
    | catchAll =>
      rw [htrigger] at hfallback
      cases hfallback

end Implements

end StateTable

namespace Lexer

variable {lexicon : Lexicon} {declared : List Declaration}

/-! ## Gaps and what is behind them -/

/-- The fallback texts of a state go up to the next match. -/
def EndsGaps (lexicon : Lexicon) (state : lexicon.StateId) : Prop :=
  ∀ text entry length, (lexicon.table state).choose text = some (entry, length) →
    entry.trigger.isFallback = true → EndsGap (lexicon.table state).Finds text length

/-- Of two matches in a row at most one is a fallback text, unless they were found in different states.
Behind a fallback text something matches in its state, unless that is the end of the text. -/
structure Spaced (taken : List (Match lexicon)) (lexer : Lexer lexicon) : Prop where
  apart : taken.IsChain fun m m' =>
    m.entry.trigger.isFallback = true → m'.entry.trigger.isFallback = true → m.state ≠ m'.state
  behind : ∀ m ∈ taken.getLast?, m.entry.trigger.isFallback = true → lexer.ahead ≠ [] →
    (lexicon.table m.state).Finds lexer.ahead

namespace Spaced

variable {taken : List (Match lexicon)} {lexer rest : Lexer lexicon} {length : Nat}
  {m : Match lexicon}

lemma nil (lexer : Lexer lexicon) : Spaced [] lexer :=
  ⟨.nil, by simp⟩

/-- Behind a fallback text something matches in its state, so no other of the kind is taken there. -/
lemma takes (hgaps : ∀ state, EndsGaps lexicon state) (h : Spaced taken lexer)
    (hahead : lexer.ahead ≠ []) (htakes : lexer.Takes length m rest) :
    Spaced (taken ++ [m]) rest := by
  have hchosen : (lexicon.table m.state).choose lexer.ahead = some (m.entry, length) := by
    rw [htakes.state_eq]
    exact htakes.chosen
  constructor
  · refine List.isChain_append.2 ⟨h.apart, .singleton m, fun last hlast other hother => ?_⟩
    obtain rfl : m = other := by simpa using hother
    -- Two in one state: behind the first something matches, and the second was taken for want of
    -- a match.
    intro hfallback hfallback' hstate
    have hnot := StateTable.not_finds_of_choose hchosen hfallback'
    rw [← hstate] at hnot
    exact hnot (h.behind last hlast hfallback hahead)
  · intro last hlast hfallback hleft
    obtain rfl : m = last := by simpa using hlast
    have hgap := hgaps m.state _ _ _ hchosen hfallback
    rw [htakes.drop_eq] at hleft ⊢
    refine hgap.hit_at ?_
    by_contra hlong
    exact hleft (List.drop_eq_nil_of_le (Nat.le_of_not_lt hlong))

lemma sameText (h : Spaced taken lexer) (hsame : SameText lexer rest) : Spaced taken rest := by
  obtain ⟨stack, rfl⟩ := hsame
  exact ⟨h.apart, h.behind⟩

lemma performAll (hgaps : ∀ state, EndsGaps lexicon state) (h : Spaced taken lexer)
    (commands : List Command) :
    Spaced (taken ++ lexer.takenOver commands) (lexer.performAll commands) :=
  performAll_preserves (P := Spaced) (fun h => h.takes hgaps) (fun h => h.sameText) h commands

end Spaced

section Compiled

variable {categories : CategoryRegistry} {options : LexerOptions}

lemma endsGaps_of_ofStates (hcompiled : Lexicon.ofStates declared categories options = .ok lexicon)
    (hportable : Portable declared) (state : lexicon.StateId) : EndsGaps lexicon state := by
  obtain ⟨rules, hdeclared, htable⟩ :=
    (Lexicon.implements_of_ofStates hcompiled).exists_declaration state
  have hmem := List.mem_of_getElem? hdeclared
  intro text entry length hchosen hfallback
  exact htable.gap_of_choose (hportable.sourcesValid _ hmem) (hportable.lookFree _ hmem) hchosen
    hfallback

/-- **Fallback texts end at the next match.**  Where no pattern of a state with a fallback rule matches,
what is chosen goes up to the first place at which one of them does, or to the end of the text; and a
lexer that is there begins with it.  So in any row of calls two fallback texts do not follow each other
in one state. -/
theorem takenOver_gaps (hcompiled : Lexicon.ofStates declared categories options = .ok lexicon)
    (hportable : Portable declared) :
    (∀ (state : lexicon.StateId) (entry : Entry lexicon.names.length Expr) (text : List Char),
      (lexicon.table state).fallback? = some entry → text ≠ [] →
      (lexicon.table state).matcher.longest text = none →
        ∃ length, (lexicon.table state).choose text = some (entry, length) ∧ 0 < length ∧
          EndsGap (lexicon.table state).Finds text length ∧
          ∀ lexer : Lexer lexicon, lexer.stack.top = state → lexer.ahead = text →
            lexer.BeginsWith entry length) ∧
    ∀ (lexer : Lexer lexicon) (commands : List Command),
      (lexer.takenOver commands).IsChain fun m m' =>
        m.entry.trigger.isFallback = true → m'.entry.trigger.isFallback = true →
          m.state ≠ m'.state := by
  constructor
  · intro state entry text hfallback htext hlongest
    obtain ⟨rules, hdeclared, htable⟩ :=
      (Lexicon.implements_of_ofStates hcompiled).exists_declaration state
    have hmem := List.mem_of_getElem? hdeclared
    obtain ⟨length, hchosen, hgap⟩ := htable.exists_choose_gap (hportable.sourcesValid _ hmem)
      (hportable.lookFree _ hmem) hfallback hlongest
    have hnot : ¬ (lexicon.table state).Finds text := by simp [StateTable.Finds, hlongest]
    refine ⟨length, hchosen, hgap.pos hnot htext, hgap, ?_⟩
    rintro lexer rfl rfl
    refine beginsWith_of_take ?_
    rw [take, if_neg (by simpa using htext), table, hchosen]
  · intro lexer commands
    have hgaps := endsGaps_of_ofStates hcompiled hportable
    exact ((Spaced.nil lexer).performAll hgaps commands).apart

/-- Two dashes, a name and a dash. -/
def dashLexer : Lexer gapLexicon :=
  (initial gapLexicon).reset "--ab-".toList none

/-- The dashes are two gaps, with a name between them. -/
theorem takenOver_gaps_dashLexer :
    Lexicon.ofStates gapStates .empty .standard = .ok gapLexicon ∧ Portable gapStates ∧
      ((dashLexer.takenOver [.next, .next, .next]).map fun m =>
        (m.entry.trigger.isFallback, m.text)) =
        [(true, ['-', '-']), (false, ['a', 'b']), (true, ['-'])] ∧
      (dashLexer.takenOver [.next, .next, .next]).IsChain fun m m' =>
        m.entry.trigger.isFallback = true → m'.entry.trigger.isFallback = true →
          m.state ≠ m'.state := by
  have hcompiled : Lexicon.ofStates gapStates .empty .standard = .ok gapLexicon :=
    eq_ok_get_toOption _
  have hportable : Portable gapStates := by decide +kernel
  have htaken : ((dashLexer.takenOver [.next, .next, .next]).map fun m =>
      (m.entry.trigger.isFallback, m.text)) =
      [(true, ['-', '-']), (false, ['a', 'b']), (true, ['-'])] := by
    decide +kernel
  exact ⟨hcompiled, hportable, htaken, (takenOver_gaps hcompiled hportable).2 dashLexer _⟩

end Compiled

end Lexer

end Lexical
