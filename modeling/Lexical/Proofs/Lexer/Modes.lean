import Lexical.Proofs.Lexer.Revised

/-!
# Strict lexers and lexers of parts

Two options change what a lexer does with a text: line breaks may have to be declared, and a text may
be a part of a longer one.  Two lexers of the same rules that differ in these options only go on alike
up to the first match at which one of the options makes a difference (`Lexer.PartsAt`,
`Lexer.trace_eq_or_separates`).  Both have come there through the same ignored matches, and the call
is the last that they have in common: one of them fails where the other takes a match without counting
its line breaks, or one of them finds the end of the text in a pushed state where the other has just
run out of text (`Lexer.Separates`).

A match that pops too many states is refused before its line breaks are counted, so such a match does
not tell the lexers apart, whatever it holds (`Lexer.next_underflow_before_lineBreaks`).
-/

namespace Lexical

namespace Lexer

variable {lexicon : Lexicon} {options : LexerOptions} (kinds : List String)
  {lexer start last rest : Lexer lexicon} {m : Match lexicon}

/-! ## Skipping matches -/

/-- Ignored matches lead from one lexer to the other. -/
abbrev SkipsTo : Lexer lexicon → Lexer lexicon → Prop :=
  Relation.ReflTransGen fun lexer rest => lexer.skip? = some rest

/-- A call skips matches first. -/
lemma SkipsTo.next_eq {taken : List (Match lexicon)} {result : Except LexerError (Option Token)}
    (h : SkipsTo start last) (hnext : last.next = ⟨taken, result, rest⟩)
    (hends : ∀ position, result ≠ .error (.stalled position)) :
    start.next.result = result ∧ start.next.lexer = rest := by
  induction h using Relation.ReflTransGen.head_induction_on with
  | refl =>
    rw [hnext]
    exact ⟨rfl, rfl⟩
  | head hskip _ ih =>
    obtain ⟨hresult, hlexer⟩ := ih
    have hmiddle : ¬ Run.Stalled _ := fun ⟨position, hstalled⟩ =>
      hends position (hresult.symm.trans hstalled)
    obtain ⟨hfirst, hfirst'⟩ := next_of_skip? hskip hmiddle
    exact ⟨hfirst.trans hresult, hfirst'.trans hlexer⟩

/-- The lexer in front of the first match at which other options make a difference, where a call comes
to one. -/
inductive PartsAt (options : LexerOptions) : Lexer lexicon → Lexer lexicon → Prop
  | here {lexer : Lexer lexicon} (parts : lexer.Parts options) : PartsAt options lexer lexer
  | skip {lexer rest last : Lexer lexicon} {m : Match lexicon} (same : ¬ lexer.Parts options)
      (taken : lexer.take = .ok (some (m, rest))) (skipped : m.entry.isIgnored = true)
      (more : PartsAt options rest last) : PartsAt options lexer last

/-- The lexer as one of the same rules with other options. -/
abbrev withOptions (options : LexerOptions) (lexer : Lexer lexicon) :
    Lexer (lexicon.revise id options kinds) :=
  lexer.revise id options kinds

lemma PartsAt.parts (h : PartsAt options start last) : last.Parts options := by
  induction h with
  | here parts => exact parts
  | skip same taken skipped more ih => exact ih

/-- Both lexers skip the same matches on the way. -/
lemma PartsAt.skipsTo (h : PartsAt options start last) :
    SkipsTo start last ∧ SkipsTo (start.withOptions kinds options) (last.withOptions kinds options) := by
  induction h with
  | here parts => exact ⟨.refl, .refl⟩
  | @skip lexer rest last m same taken skipped more ih =>
    have htake := take_revise id kinds same
    rw [taken] at htake
    have hskip := skip?_eq_some_iff.2 ⟨m, taken, skipped⟩
    have hskip' := skip?_eq_some_iff.2 ⟨m.revise id options kinds, htake, skipped⟩
    exact ⟨.head hskip ih.1, .head hskip' ih.2⟩

/-! ## Calls that go alike -/

/-- The induction is on the number of matches that are allowed. -/
lemma nextWithin_withOptions (fuel : Nat) (h : ∀ last, ¬ PartsAt options lexer last) :
    ((lexer.withOptions kinds options).nextWithin fuel).result = (lexer.nextWithin fuel).result
      ∧ ((lexer.withOptions kinds options).nextWithin fuel).lexer
        = (lexer.nextWithin fuel).lexer.withOptions kinds options := by
  induction fuel generalizing lexer with
  | zero => exact ⟨rfl, rfl⟩
  | succ fuel ih =>
    have hsame : ¬ lexer.Parts options := fun hparts => h lexer (.here hparts)
    unfold nextWithin
    -- At this match the options make no difference, so both take the same.
    rw [take_revise id kinds hsame]
    cases htake : lexer.take with
    | error error => exact ⟨rfl, rfl⟩
    | ok taken =>
      cases taken with
      | none => exact ⟨rfl, rfl⟩
      | some taken =>
        obtain ⟨m, rest⟩ := taken
        have hentry : (m.revise id options kinds).entry.isIgnored = m.entry.isIgnored := rfl
        simp only [Except.map, Option.map_some, hentry]
        cases hignored : m.entry.isIgnored with
        | true =>
          simp only [if_true]
          -- What is behind an ignored match belongs to the same call.
          exact ih fun last hlast => h last (.skip hsame htake hignored hlast)
        | false => exact ⟨rfl, rfl⟩

/-- **Where the options make no difference, calls go alike.**  The induction is on the number of
calls. -/
lemma calls_withOptions (count : Nat)
    (h : ∀ k < count, ∀ last, ¬ PartsAt options (lexer.behindCalls k) last) :
    (lexer.withOptions kinds options).trace (List.replicate count .next)
        = lexer.trace (List.replicate count .next)
      ∧ (lexer.withOptions kinds options).behindCalls count
        = (lexer.behindCalls count).withOptions kinds options := by
  induction count generalizing lexer with
  | zero => exact ⟨rfl, rfl⟩
  | succ count ih =>
    obtain ⟨hresult, hlexer⟩ :=
      nextWithin_withOptions kinds lexer.patience (h 0 (Nat.succ_pos count))
    -- Patience is reckoned from the text and the stack, which the options do not enter.
    have hpatience : (lexer.withOptions kinds options).patience = lexer.patience := rfl
    have hmore : ∀ k < count, ∀ last, ¬ PartsAt options (lexer.next.lexer.behindCalls k) last :=
      fun k hk => h (k + 1) (Nat.succ_lt_succ hk)
    obtain ⟨htrace, hbehind⟩ := ih hmore
    have hnext : (lexer.withOptions kinds options).next.lexer
        = lexer.next.lexer.withOptions kinds options := by
      rw [next, hpatience]
      exact hlexer
    have hreply : (lexer.withOptions kinds options).next.result = lexer.next.result := by
      rw [next, hpatience]
      exact hresult
    refine ⟨?_, ?_⟩
    · simp only [List.replicate_succ, trace, perform, hreply, hnext, htrace, view_revise]
    · rw [behindCalls, hnext, hbehind, behindCalls]

/-! ## The call that does not -/

/-- What a call does that comes to line breaks which the rule of a match does not declare. -/
structure MeetsBreaks (start last : Lexer lexicon) (kind : String) (text : List Char) : Prop where
  refused : lexicon.options.strictLineBreaks = true →
    start.next.result = .error (.undeclaredLineBreak last.position kind) ∧ start.next.lexer = last
  passed : lexicon.options.strictLineBreaks = false → ∃ m rest,
    last.take = .ok (some (m, rest)) ∧ m.entry.kind = kind ∧ m.text = text ∧ m.start = last.position
      ∧ m.lineBreaks = 0
      ∧ (m.entry.isIgnored = false →
        start.next.result = .ok (some m.token) ∧ start.next.lexer = rest)
      ∧ (m.entry.isIgnored = true → SkipsTo start rest)

/-- What a call does that comes to the end of the text in a pushed state. -/
structure MeetsEnd (start last : Lexer lexicon) : Prop where
  allowed : lexicon.options.partialInput = true →
    start.next.result = .ok none ∧ start.next.lexer = last
  refused : lexicon.options.partialInput = false →
    start.next.result = .error (.noMatch last.position last.currentState none)
      ∧ start.next.lexer = last

lemma SkipsTo.next_of_take_error {error : LexerError} (h : SkipsTo start last)
    (htake : last.take = .error error) :
    start.next.result = .error error ∧ start.next.lexer = last := by
  refine h.next_eq (Lexer.next_of_take_error htake) fun position hstalled => ?_
  obtain rfl := Except.error.inj hstalled
  exact take_ne_stalled last position htake

lemma meetsBreaks_of_undeclared {entry : Entry lexicon.names.length Regex.Expr} {length : Nat}
    (h : SkipsTo start last) (point : last.Undeclared entry length) :
    MeetsBreaks start last entry.kind (last.ahead.take length) := by
  obtain ⟨hleft, hchosen, hallowed, hbreaks, hundeclared⟩ := point
  have hempty : last.ahead.isEmpty = false := List.isEmpty_eq_false_iff.2 hleft
  have hzero : ¬ Text.lineBreaks (last.ahead.take length) = 0 := Nat.ne_of_gt hbreaks
  refine ⟨fun hstrict => ?_, fun hlenient => ?_⟩
  -- In strict mode the match is refused where it stands.
  · have hcount : last.countLineBreaks entry (last.ahead.take length)
        = .error (.undeclaredLineBreak last.position entry.kind) := by
      simp [countLineBreaks, hzero, hundeclared, hstrict]
    refine h.next_of_take_error ?_
    rw [take, hempty, hchosen]
    simp only [Bool.false_eq_true, if_false, takeMatch, hallowed, hcount]
    rfl
  -- Otherwise its line breaks are not counted, and it is taken.
  · have hcount : last.countLineBreaks entry (last.ahead.take length) = .ok 0 := by
      simp [countLineBreaks, hzero, hundeclared, hlenient]
    have htakes : last.Takes length ⟨last.stack.top, entry, last.ahead.take length, last.position, 0,
        (entry.transition.map last.stack.apply).getD last.stack⟩ _ :=
      ⟨hchosen, rfl, rfl, rfl, hcount, hallowed, rfl, rfl⟩
    have htake := take_eq_some_iff.2 ⟨hleft, length, htakes⟩
    refine ⟨_, _, htake, rfl, rfl, rfl, rfl, fun hkept => ?_, fun hignored => ?_⟩
    · exact h.next_eq (next_of_kept htake hkept) fun position hstalled => by cases hstalled
    · exact h.tail (skip?_eq_some_iff.2 ⟨_, htake, hignored⟩)

lemma meetsEnd_of_unfinished (h : SkipsTo start last) (hahead : last.ahead = [])
    (hpushed : 1 < last.depth) : MeetsEnd start last := by
  have hempty : last.ahead.isEmpty = true := List.isEmpty_iff.2 hahead
  have hdepth : decide (last.depth ≤ 1) = false := by simpa using hpushed
  refine ⟨fun hpartial => ?_, fun hwhole => ?_⟩
  · have htake : last.take = .ok none := by
      rw [take, hempty, endOfInput, hdepth, hpartial]
      rfl
    exact h.next_eq (next_of_take_none htake) fun position hstalled => by cases hstalled
  · refine h.next_of_take_error ?_
    rw [take, hempty, endOfInput, hdepth, hwhole]
    rfl

/-- Two calls come apart at the points to which they have come: one lexer refuses line breaks that the
other does not count, or one of them allows the text to end where the other does not. -/
inductive Separates {lexicon lexicon' : Lexicon} (start last : Lexer lexicon)
    (start' last' : Lexer lexicon') : Prop
  | lineBreaks {kind : String} {text : List Char}
      (differ : lexicon'.options.strictLineBreaks ≠ lexicon.options.strictLineBreaks)
      (breaks : 0 < Text.lineBreaks text) (one : MeetsBreaks start last kind text)
      (other : MeetsBreaks start' last' kind text) : Separates start last start' last'
  | unfinished (differ : lexicon'.options.partialInput ≠ lexicon.options.partialInput)
      (atEnd : last.ahead = []) (pushed : 1 < last.depth)
      (one : MeetsEnd start last) (other : MeetsEnd start' last') : Separates start last start' last'

lemma PartsAt.separates (h : PartsAt options start last) :
    Separates start last (start.withOptions kinds options) (last.withOptions kinds options) := by
  obtain ⟨hskips, hskips'⟩ := h.skipsTo kinds
  cases h.parts with
  | @lineBreaks entry length point differ =>
    -- The selection does not look at options, so the other lexer comes to the same match.
    have hpoint : (last.withOptions kinds options).Undeclared (entry.revise id) length :=
      { left := point.left
        chosen := by
          rw [table_revise, StateTable.choose_revise]
          show (last.table.choose last.ahead).map _ = _
          rw [point.chosen]
          rfl
        allowed := (underflows?_revise id options kinds last entry).trans point.allowed
        breaks := point.breaks
        undeclared := point.undeclared }
    exact .lineBreaks differ point.breaks (meetsBreaks_of_undeclared hskips point)
      (meetsBreaks_of_undeclared hskips' hpoint)
  | unfinished atEnd pushed differ =>
    exact .unfinished differ atEnd pushed (meetsEnd_of_unfinished hskips atEnd pushed)
      (meetsEnd_of_unfinished hskips' atEnd pushed)

/-- **Options only cut runs short.**  Two lexers of the same rules, with the same start state, read the
same text from the same state.  As many calls as do not come to a match at which their options make a
difference have the same replies, and the same is seen after each.  In the first call that does, both
come through ignored matches to the same point of the text, with the same states, and there they come
apart. -/
theorem trace_eq_or_separates {declared : List Declaration} {categories : CategoryRegistry}
    {options options' : LexerOptions} {lexicon lexicon' : Lexicon}
    (hcompiled : Lexicon.ofStates declared categories options = .ok lexicon)
    (hcompiled' : Lexicon.ofStates declared categories options' = .ok lexicon')
    (hstart : options'.start = options.start) (text : List Char) (state : Option LexerState)
    (count : Nat)
    (halike : ∀ k < count, ∀ last,
      ¬ PartsAt options' (((initial lexicon).reset text state).behindCalls k) last) :
    ((initial lexicon').reset text state).trace (List.replicate count .next)
        = ((initial lexicon).reset text state).trace (List.replicate count .next)
      ∧ ∀ last, PartsAt options' (((initial lexicon).reset text state).behindCalls count) last →
        ∃ last' : Lexer lexicon', last'.view = last.view ∧ last'.ahead = last.ahead
          ∧ SkipsTo (((initial lexicon).reset text state).behindCalls count) last
          ∧ SkipsTo (((initial lexicon').reset text state).behindCalls count) last'
          ∧ Separates (((initial lexicon).reset text state).behindCalls count) last
            (((initial lexicon').reset text state).behindCalls count) last' := by
  -- The other lexicon is this one with other options, which makes its lexers revised ones.
  have hrevised := Lexicon.ofStates_revise id hstart hcompiled
  rw [map_revise_id, hcompiled'] at hrevised
  obtain rfl := Except.ok.inj hrevised
  rw [← revise_reset]
  obtain ⟨htrace, hbehind⟩ := calls_withOptions (producedKinds declared) count halike
  refine ⟨htrace, fun last hlast => ?_⟩
  rw [hbehind]
  obtain ⟨hskips, hskips'⟩ := hlast.skipsTo (producedKinds declared)
  exact ⟨last.withOptions _ options', rfl, rfl, hskips, hskips', hlast.separates _⟩

/-! ### Line breaks that are not declared -/

/-- Words and line breaks, with a change made to the rule of the line breaks. -/
def lineStates (change : Rule → Rule) : List Declaration :=
  [("line", [Rule.regex "word" "[a-z]+", change (Rule.literal "break" "\n")])]

def strictOptions : LexerOptions :=
  ⟨true, false, none⟩

def looseLexicon : Lexicon :=
  (Lexicon.ofStates (lineStates id) .empty .standard).toOption.get (by decide +kernel)

def strictLexicon : Lexicon :=
  (Lexicon.ofStates (lineStates id) .empty strictOptions).toOption.get (by decide +kernel)

def looseLexer : Lexer looseLexicon :=
  (initial looseLexicon).reset "a\nb".toList none

/-- The word is common to both lexers, and the line break tells them apart. -/
theorem trace_eq_or_separates_lineBreak :
    Lexicon.ofStates (lineStates id) .empty .standard = .ok looseLexicon
      ∧ Lexicon.ofStates (lineStates id) .empty strictOptions = .ok strictLexicon
      ∧ strictOptions.start = LexerOptions.standard.start
      ∧ (∀ k < 1, ∀ last, ¬ PartsAt strictOptions (looseLexer.behindCalls k) last)
      ∧ PartsAt strictOptions (looseLexer.behindCalls 1) (looseLexer.behindCalls 1)
      ∧ ((initial strictLexicon).reset "a\nb".toList none).trace (List.replicate 1 .next)
        = looseLexer.trace (List.replicate 1 .next)
      ∧ ∃ last', Separates (looseLexer.behindCalls 1) (looseLexer.behindCalls 1)
        (((initial strictLexicon).reset "a\nb".toList none).behindCalls 1) last' := by
  have hcompiled : Lexicon.ofStates (lineStates id) .empty .standard = .ok looseLexicon :=
    eq_ok_get_toOption _
  have hcompiled' : Lexicon.ofStates (lineStates id) .empty strictOptions = .ok strictLexicon :=
    eq_ok_get_toOption _
  have hkept : (looseLexer.take.toOption.join.map fun (m, _) => m.entry.isIgnored) = some false := by
    decide +kernel
  have halike : ∀ k < 1, ∀ last, ¬ PartsAt strictOptions (looseLexer.behindCalls k) last := by
    intro k hk last hlast
    obtain rfl := Nat.lt_one_iff.1 hk
    have hsame : ¬ looseLexer.Parts strictOptions := by decide +kernel
    cases hlast with
    | here parts => exact hsame parts
    | skip same taken skipped more =>
      rw [behindCalls] at taken
      rw [taken] at hkept
      exact absurd (skipped.symm.trans (Option.some.inj hkept)) (by decide)
  have hparts : PartsAt strictOptions (looseLexer.behindCalls 1) (looseLexer.behindCalls 1) :=
    .here (by decide +kernel)
  obtain ⟨htrace, hpoints⟩ :=
    trace_eq_or_separates hcompiled hcompiled' rfl "a\nb".toList none 1 halike
  obtain ⟨last', -, -, -, -, hseparates⟩ := hpoints _ hparts
  exact ⟨hcompiled, hcompiled', rfl, halike, hparts, htrace, last', hseparates⟩

def looseClosingLexicon : Lexicon :=
  (Lexicon.ofStates (lineStates (Rule.pop · 1)) .empty .standard).toOption.get (by decide +kernel)

def strictClosingLexicon : Lexicon :=
  (Lexicon.ofStates (lineStates (Rule.pop · 1)) .empty strictOptions).toOption.get (by decide +kernel)

/-- A line break that is not declared and pops the only state: the two lexers have strict flags that
differ, and select the match of the line break, but the strict one does not complain about it, and
the other one does not go on. -/
theorem next_underflow_before_lineBreaks :
    Lexicon.ofStates (lineStates (Rule.pop · 1)) .empty .standard = .ok looseClosingLexicon
      ∧ Lexicon.ofStates (lineStates (Rule.pop · 1)) .empty strictOptions = .ok strictClosingLexicon
      ∧ strictClosingLexicon.options.strictLineBreaks = true
      ∧ looseClosingLexicon.options.strictLineBreaks = false
      ∧ (∃ entry length,
        ((initial strictClosingLexicon).reset ['\n'] none).table.choose ['\n'] = some (entry, length)
          ∧ 0 < Text.lineBreaks (['\n'].take length) ∧ entry.lineBreaks = false)
      ∧ ((initial strictClosingLexicon).reset ['\n'] none).next.result
        = .error (.stateUnderflow ⟨0, 1, 1⟩ 1 1)
      ∧ (∀ position kind, ((initial strictClosingLexicon).reset ['\n'] none).next.result
        ≠ .error (.undeclaredLineBreak position kind))
      ∧ ((initial looseClosingLexicon).reset ['\n'] none).next.result
        = .error (.stateUnderflow ⟨0, 1, 1⟩ 1 1) := by
  have hselected : ∃ selected ∈
      ((initial strictClosingLexicon).reset ['\n'] none).table.choose ['\n'],
      0 < Text.lineBreaks (['\n'].take selected.2) ∧ selected.1.lineBreaks = false := by decide +kernel
  obtain ⟨⟨entry, length⟩, hchosen, hbreaks, hundeclared⟩ := hselected
  have hresult : ((initial strictClosingLexicon).reset ['\n'] none).next.result
      = .error (.stateUnderflow ⟨0, 1, 1⟩ 1 1) := by rfl
  refine ⟨eq_ok_get_toOption _, eq_ok_get_toOption _, rfl, rfl,
    ⟨entry, length, hchosen, hbreaks, hundeclared⟩, hresult, fun position kind hstrict => ?_, by rfl⟩
  rw [hresult] at hstrict
  cases hstrict

end Lexer

end Lexical
