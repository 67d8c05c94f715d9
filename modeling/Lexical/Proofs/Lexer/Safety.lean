import Lexical.Proofs.Lexer.Failure
import Lexical.Proofs.Lexer.Raw

/-!
# Nothing is missing

A lexer written out as plain data (`Lexer.raw`) does what the lexer does, step by step: it finds
everything that it looks up, and what it comes to is the plain data of what the lexer comes to
(`Lexer.raw_take?`, `Lexer.raw_perform?`, `Lexer.raw_actAll?`).  So the lookups of a lexer succeed
whatever a caller does with it, saved states from elsewhere included, and no way out of a lookup that
fails is ever taken (`Lexer.safe_actAll`).

A match changes the depth of the stack by what its transition says, and no other error than that of
too few states on the stack stands in for a transition that goes back too far.
-/

namespace Lexical

namespace Lexer

variable {lexicon : Lexicon} {lexer rest : Lexer lexicon} {m : Match lexicon}

/-- The lexer as plain data. -/
def raw (lexer : Lexer lexicon) : RawLexer lexicon where
  base := lexer.base
  buffer := lexer.buffer
  index := lexer.index
  line := lexer.line
  column := lexer.column
  stack := lexer.stack.toList.map Lexicon.number

lemma safe_raw (lexer : Lexer lexicon) : lexer.raw.Safe where
  index_le := by
    show Text.byteLength lexer.behind ≤ Text.byteLength (lexer.behind ++ lexer.ahead)
    rw [Text.byteLength_append]
    exact Nat.le_add_right _ _
  splits := ⟨lexer.behind, lexer.ahead, rfl, rfl⟩
  stack_ne_nil := fun hnil => lexer.stack.toList_ne_nil (List.map_eq_nil_iff.1 hnil)
  stack_lt := by
    intro number hnumber
    obtain ⟨state, -, rfl⟩ := List.mem_map.1 hnumber
    rw [lexicon.tables_length]
    exact Nat.lt_of_le_of_lt (Nat.min_le_left _ _) state.isLt

/-! ## What is looked up -/

lemma depth_raw (lexer : Lexer lexicon) : lexer.raw.depth = lexer.depth := by
  rw [RawLexer.depth, raw, List.length_map, StateStack.length_toList, depth]

lemma raw_unread? (lexer : Lexer lexicon) : lexer.raw.unread? = some lexer.ahead :=
  Text.dropBytes?_byteLength lexer.behind lexer.ahead

lemma raw_change? (change : Transition lexicon.StateId)
    (h : ∀ count, change = .pop count → count < lexer.depth) :
    lexer.raw.change? change = some { lexer with stack := lexer.stack.apply change }.raw := by
  have hmap {states : List Nat} {stack : StateStack lexicon.StateId}
      (h : states = stack.toList.map Lexicon.number) :
      ({ lexer.raw with stack := states } : RawLexer lexicon) = { lexer with stack }.raw := by
    rw [h]
    rfl
  cases change with
  | push state =>
    refine congrArg some (hmap ?_)
    rw [StateStack.apply, StateStack.toList_push, List.map_append]
    rfl
  | pop count =>
    -- The stack is cut at the count, which leaves at least one state where the change is allowed.
    have hcount := h count rfl
    rw [RawLexer.change?, depth_raw, if_pos hcount]
    refine congrArg some (hmap ?_)
    rw [StateStack.apply, StateStack.toList_pop hcount, List.map_take]
    rfl
  | next state =>
    have hsome : lexer.raw.stack.isEmpty = false := by
      rw [List.isEmpty_eq_false_iff]
      exact fun hnil => lexer.stack.toList_ne_nil (List.map_eq_nil_iff.1 hnil)
    rw [RawLexer.change?, hsome]
    refine congrArg some (hmap ?_)
    rw [StateStack.apply, StateStack.toList_next, List.map_append, List.map_dropLast]
    rfl

lemma raw_underflows? (lexer : Lexer lexicon) (entry : Entry lexicon.names.length Regex.Expr) :
    lexer.raw.underflows? entry = lexer.underflows? entry := by
  rw [RawLexer.underflows?, depth_raw]
  rfl

lemma lt_depth_of_underflows? {entry : Entry lexicon.names.length Regex.Expr} {count : Nat}
    (h : lexer.underflows? entry = none) (hpops : entry.transition = some (.pop count)) :
    count < lexer.depth := by
  unfold underflows? at h
  rw [hpops] at h
  simp only [ite_eq_right_iff] at h
  exact Nat.lt_of_not_le fun hle => by cases h hle

/-- Only line breaks that are there are counted, so the column starts behind the last of them. -/
lemma raw_advance? {entry : Entry lexicon.names.length Regex.Expr} {length lineBreaks : Nat}
    (h : lexer.countLineBreaks entry (lexer.ahead.take length) = .ok lineBreaks) :
    lexer.raw.advance? (lexer.ahead.take length) lineBreaks
      = some (lexer.advance length lineBreaks).raw := by
  -- What is read is moved from ahead to behind, so the text and the index behind it are the same
  -- in both.
  have hbuffer : (lexer.advance length lineBreaks).buffer = lexer.buffer := by
    show (lexer.behind ++ lexer.ahead.take length) ++ lexer.ahead.drop length
      = lexer.behind ++ lexer.ahead
    rw [List.append_assoc, List.take_append_drop]
  have hindex : (lexer.advance length lineBreaks).index
      = lexer.index + Text.byteLength (lexer.ahead.take length) :=
    Text.byteLength_append _ _
  by_cases hpos : 0 < lineBreaks
  · cases hlast : Text.lastBreak? (lexer.ahead.take length) with
    | none =>
      -- A line break is counted only where there is one, so that `lastBreak?` finds it.
      unfold countLineBreaks at h
      rw [Text.lastBreak?_eq_none hlast] at h
      obtain rfl : 0 = lineBreaks := Except.ok.inj h
      cases hpos
    | some last =>
      simp only [RawLexer.advance?, hlast, hpos, decide_true, Option.filter_some, if_true,
        Text.dropBytes?_lastBreak? hlast, Option.map_some, raw, hbuffer, hindex]
      simp [advance, hpos]
  · have hnone : (Text.lastBreak? (lexer.ahead.take length)).filter (fun _ => 0 < lineBreaks)
        = none := by
      simp [hpos]
    simp only [RawLexer.advance?, hnone, raw, hbuffer, hindex]
    simp [advance, hpos]

/-! ## Changes by hand and new texts -/

/-- A change by hand finds what it looks up, if it does not go back too far. -/
lemma raw_settle? (change : Except LexerError (Transition lexicon.StateId))
    (h : ∀ count, change = .ok (.pop count) → count < lexer.depth) :
    lexer.raw.settle? change = some ((lexer.settleChange (change.map lexer.apply)).1,
      (lexer.settleChange (change.map lexer.apply)).2.raw) := by
  cases change with
  | error error => rfl
  | ok change =>
    rw [RawLexer.settle?, raw_change? change fun count hcount => h count (congrArg Except.ok hcount)]
    rfl

/-- Names that are not there are dropped, and where none is left the start state is taken. -/
lemma raw_reset (lexer : Lexer lexicon) (text : List Char) (state : Option LexerState) :
    lexer.raw.reset text state = (lexer.reset text state).raw := by
  cases state with
  | none => rfl
  | some state =>
    have hnumbers : (state.stack.filterMap fun name => (lexicon.state? name).map Lexicon.number)
        = (state.stack.filterMap lexicon.state?).map Lexicon.number := by
      rw [List.map_filterMap]
    -- Numbers are looked up from names, so that none is left of them exactly where no state is
    -- left.
    simp only [RawLexer.reset, hnumbers, List.isEmpty_map]
    cases hstates : StateStack.ofList? (state.stack.filterMap lexicon.state?) with
    | none =>
      rw [raw, reset, hstates, StateStack.eq_nil_of_ofList? hstates]
      rfl
    | some stack =>
      have hlist := StateStack.toList_of_ofList? hstates
      have hsome : (state.stack.filterMap lexicon.state?).isEmpty = false := by
        rw [← hlist, List.isEmpty_eq_false_iff]
        exact stack.toList_ne_nil
      rw [raw, reset, hstates, hsome, ← hlist]
      rfl

/-! ## The depth of the stack -/

lemma depth_of_take (h : lexer.take = .ok (some (m, rest))) :
    rest.depth = RawLexer.depthBehind lexer.depth m.entry.transition := by
  obtain ⟨-, length, htakes⟩ := take_eq_some_iff.1 h
  rw [depth, htakes.stack_eq, htakes.after_eq]
  cases htransition : m.entry.transition with
  | none => rfl
  | some change =>
    cases change with
    | push state => rfl
    | next state => rfl
    -- A match that pops too many is refused before, so no pop is cut off.
    | pop count =>
      have hlt : count < lexer.stack.depth := lt_depth_of_underflows? htakes.allowed htransition
      have hpop := StateStack.depth_pop lexer.stack count
      simp only [Option.map_some, Option.getD_some, StateStack.apply, RawLexer.depthBehind, depth]
      omega

/-- Too few states on the stack are the error of a match that pops them, and of nothing else. -/
lemma take_eq_stateUnderflow_iff {position : Position} {count depth : Nat} :
    lexer.take = .error (.stateUnderflow position count depth) ↔
      position = lexer.position ∧ depth = lexer.depth ∧ lexer.depth ≤ count
        ∧ lexer.ahead ≠ [] ∧ ∃ entry length, lexer.table.choose lexer.ahead = some (entry, length)
          ∧ entry.transition = some (.pop count) := by
  constructor
  · intro h
    cases fails_of_take h with
    | @refused entry length _ left chosen refuses =>
      cases refuses with
      | underflow pops too_many => exact ⟨rfl, rfl, too_many, left, entry, length, chosen, pops⟩
  · rintro ⟨rfl, rfl, hdepth, hleft, entry, length, hchosen, hpops⟩
    have hnot : lexer.ahead.isEmpty = false := List.isEmpty_eq_false_iff.2 hleft
    have hunderflows : lexer.underflows? entry
        -- Underflow is checked before line breaks and before anything moves.
        = some (.stateUnderflow lexer.position count lexer.depth) := by
      rw [underflows?, hpops]
      exact if_pos hdepth
    rw [take, hnot, hchosen]
    simp only [Bool.false_eq_true, if_false, takeMatch, hunderflows]
    rfl

section Few

variable (hfew : lexicon.names.length < UInt32.size)

include hfew

/-! ## States and their names -/

lemma raw_current? (lexer : Lexer lexicon) : lexer.raw.current? = some lexer.stack.top := by
  rw [RawLexer.current?, raw, List.getLast?_map, StateStack.getLast?_toList]
  exact Lexicon.stateAt?_number hfew _

lemma raw_currentState? (lexer : Lexer lexicon) :
    lexer.raw.currentState? = some lexer.currentState := by
  rw [RawLexer.currentState?, raw_current? hfew]
  rfl

lemma raw_save? (lexer : Lexer lexicon) : lexer.raw.save? = some lexer.save := by
  rw [RawLexer.save?, raw, Lexicon.mapM_stateAt?_number hfew]
  rfl

lemma raw_view? (lexer : Lexer lexicon) : lexer.raw.view? = some lexer.view := by
  rw [RawLexer.view?, raw_currentState? hfew, raw_save? hfew, depth_raw]
  rfl

lemma raw_states? (lexer : Lexer lexicon) : lexer.raw.states? = some lexer.stack := by
  rw [RawLexer.states?, raw, Lexicon.mapM_stateAt?_number hfew]
  exact StateStack.ofList?_toList lexer.stack

lemma raw_endOfInput? (lexer : Lexer lexicon) : lexer.raw.endOfInput? = some lexer.endOfInput := by
  rw [RawLexer.endOfInput?, raw_currentState? hfew, depth_raw, endOfInput]
  split <;> rfl

/-! ## What is done -/

/-- The plain data of what one match comes to. -/
lemma raw_takeMatch? (lexer : Lexer lexicon) (entry : Entry lexicon.names.length Regex.Expr)
    (length : Nat) :
    lexer.raw.takeMatch? lexer.stack.top entry (lexer.ahead.take length)
      = some ((lexer.takeMatch entry length).map fun (m, rest) => (m, rest.raw)) := by
  unfold RawLexer.takeMatch? takeMatch
  rw [raw_underflows?]
  cases hunderflow : lexer.underflows? entry with
  | some error => rfl
  | none =>
    have hcount : lexer.raw.countLineBreaks entry (lexer.ahead.take length)
        = lexer.countLineBreaks entry (lexer.ahead.take length) := rfl
    simp only [hcount]
    cases hbreaks : lexer.countLineBreaks entry (lexer.ahead.take length) with
    | error error => rfl
    | ok lineBreaks =>
      simp only [raw_advance? hbreaks, Option.bind_eq_bind, Option.bind_some]
      cases htransition : entry.transition with
      | none =>
        simp only
        rw [raw_states? hfew]
        rfl
      | some change =>
        -- The index has moved, but the stack is still the one that was checked.
        have hdepth : ∀ count, change = .pop count
            → count < (lexer.advance length lineBreaks).depth := by
          rintro count rfl
          have hlt : count < lexer.depth := lt_depth_of_underflows? hunderflow htransition
          exact hlt
        simp only
        rw [raw_change? change hdepth, Option.bind_some, raw_states? hfew]
        rfl

/-- **Taking a match finds all that it looks up**: the text from the index on, the current state, the
pattern and the rule, the text of the match, and the states to go back to. -/
theorem raw_take? (lexer : Lexer lexicon) :
    lexer.raw.take?
      = some (lexer.take.map fun taken => taken.map fun (m, rest) => (m, rest.raw)) := by
  unfold RawLexer.take? take
  simp only [raw_unread?, Option.bind_eq_bind, Option.bind_some]
  split_ifs with hempty
  · rw [raw_endOfInput? hfew]
    cases lexer.endOfInput <;> rfl
  · simp only [raw_current? hfew, Option.bind_some, StateTable.trySelect_eq]
    cases hselected : lexer.table.select? lexer.ahead with
    | none =>
      have hnone := StateTable.select?_eq_none_iff.1 hselected
      rw [table] at hselected
      rw [hselected, hnone]
      rfl
    | some selected =>
      obtain ⟨place, length⟩ := selected
      -- The place that is selected is that of an entry, and the length is within the text.
      obtain ⟨hlength, entry, hentry, hchosen⟩ := StateTable.exists_entry_of_select? hselected
      rw [table] at hselected hentry
      have htext : Text.takeAll? length lexer.ahead = some (lexer.ahead.take length) := if_pos hlength
      rw [hselected, hchosen]
      simp only [hentry, htext, Option.bind_some, raw_takeMatch? hfew]
      cases lexer.takeMatch entry length <;> rfl

/-- The induction is on the number of matches that are allowed. -/
lemma raw_nextWithin? (fuel : Nat) (lexer : Lexer lexicon) :
    lexer.raw.nextWithin? fuel
      = some ((lexer.nextWithin fuel).result, (lexer.nextWithin fuel).lexer.raw) := by
  induction fuel generalizing lexer with
  | zero => rfl
  | succ fuel ih =>
    unfold RawLexer.nextWithin? nextWithin
    rw [raw_take? hfew]
    simp only [Option.bind_eq_bind, Option.bind_some]
    cases htake : lexer.take with
    | error error => rfl
    | ok taken =>
      cases taken with
      | none => rfl
      | some taken =>
        obtain ⟨m, rest⟩ := taken
        simp only [Except.map, Option.map_some]
        split_ifs with hignored
        · exact ih rest
        · rfl

lemma raw_next? (lexer : Lexer lexicon) :
    lexer.raw.next? = some (lexer.next.result, lexer.next.lexer.raw) := by
  unfold RawLexer.next?
  simp only [raw_unread?, Option.bind_eq_bind, Option.bind_some, depth_raw]
  exact raw_nextWithin? hfew _ lexer

theorem raw_perform? (lexer : Lexer lexicon) (command : Command) :
    lexer.raw.perform? command
      = some ((lexer.perform command).1, (lexer.perform command).2.raw) := by
  -- Of the changes by hand only `popState` goes back.
  have hnamed (name : String) (change : lexicon.StateId → Transition lexicon.StateId)
      (hstays : ∀ state count, change state ≠ .pop count) (count : Nat) :
      (lexer.requireState name).map change ≠ .ok (.pop count) := by
    intro h
    obtain ⟨state, -, hpops⟩ := except_map_eq_ok_iff.1 h
    exact hstays state count hpops
  cases command with
  | next =>
    rw [RawLexer.perform?, raw_next? hfew]
    rfl
  | setState name =>
    rw [perform, setState_eq]
    have hstays : ∀ (state : lexicon.StateId) count, Transition.next state ≠ .pop count := by
      intro state count h
      cases h
    exact raw_settle? _ fun count h => absurd h (hnamed name .next hstays count)
  | pushState name =>
    rw [perform, pushState_eq]
    have hstays : ∀ (state : lexicon.StateId) count, Transition.push state ≠ .pop count := by
      intro state count h
      cases h
    exact raw_settle? _ fun count h => absurd h (hnamed name .push hstays count)
  | popState =>
    rw [perform, popState_eq, RawLexer.perform?, depth_raw]
    refine raw_settle? _ fun count h => ?_
    split_ifs at h with hdepth
    cases h
    omega

theorem raw_act? (lexer : Lexer lexicon) (action : Action) :
    lexer.raw.act? action = some ((lexer.act action).1, (lexer.act action).2.raw) := by
  cases action with
  | call command =>
    rw [RawLexer.act?, raw_perform? hfew]
    rfl
  | reset text state =>
    rw [RawLexer.act?, raw_reset]
    rfl
  | resume text =>
    rw [RawLexer.act?, raw_save? hfew, Option.map_some, raw_reset]
    rfl

/-- **Whatever is done, nothing is missing.**  The induction is on what is done. -/
theorem raw_actAll? (lexer : Lexer lexicon) (actions : List Action) :
    lexer.raw.actAll? actions = some ((lexer.actAll actions).1, (lexer.actAll actions).2.raw) := by
  induction actions generalizing lexer with
  | nil => rfl
  | cons action actions ih =>
    unfold RawLexer.actAll? actAll
    simp only [raw_act? hfew, raw_view? hfew, ih, Option.bind_eq_bind, Option.bind_some]
    rfl

/-! ## What always holds -/

lemma deepens_raw (lexer : Lexer lexicon) : lexer.raw.Deepens where
  moves := by
    intro m rest htake
    rw [raw_take? hfew] at htake
    obtain ⟨taken, htaken, hsame⟩ := except_map_eq_ok_iff.1 (Option.some.inj htake)
    obtain ⟨⟨m', rest'⟩, rfl, hpair⟩ := Option.map_eq_some_iff.1 hsame
    obtain ⟨rfl, rfl⟩ := Prod.mk.inj hpair
    rw [depth_raw, depth_raw]
    exact depth_of_take htaken
  underflows := by
    intro position count depth
    have herror : lexer.raw.take? = some (.error (.stateUnderflow position count depth)) ↔
        lexer.take = .error (.stateUnderflow position count depth) := by
      rw [raw_take? hfew]
      cases lexer.take <;> simp [Except.map]
    -- Both sides say which entry is chosen there; only the lookups of the plain data have to be
    -- undone.
    have hchanges : lexer.raw.Changes (.pop count) ↔ lexer.ahead ≠ []
        ∧ ∃ entry length, lexer.table.choose lexer.ahead = some (entry, length)
          ∧ entry.transition = some (.pop count) := by
      simp only [RawLexer.Changes, raw_unread?, raw_current? hfew, Option.some.injEq]
      constructor
      · rintro ⟨_, _, entry, length, rfl, hleft, rfl, hchosen, hpops⟩
        exact ⟨hleft, entry, length, hchosen, hpops⟩
      · rintro ⟨hleft, entry, length, hchosen, hpops⟩
        exact ⟨_, _, entry, length, rfl, hleft, rfl, hchosen, hpops⟩
    rw [herror, hchanges, take_eq_stateUnderflow_iff, depth_raw]
    rfl

/-- All plain data that can be reached is that of a lexer. -/
lemma exists_raw_of_reachable {lexer : RawLexer lexicon} (h : lexer.Reachable) :
    ∃ typed : Lexer lexicon, lexer = typed.raw := by
  induction h with
  | initial => exact ⟨initial lexicon, rfl⟩
  -- Each step from a lexer ends at one, as the typed lexer takes the same step.
  | act before action done ih =>
    obtain ⟨typed, rfl⟩ := ih
    rw [raw_act? hfew] at done
    exact ⟨_, (Prod.mk.inj (Option.some.inj done)).2.symm⟩
  | take before taken ih =>
    obtain ⟨typed, rfl⟩ := ih
    rw [raw_take? hfew] at taken
    obtain ⟨took, -, hsame⟩ := except_map_eq_ok_iff.1 (Option.some.inj taken)
    obtain ⟨⟨m, rest⟩, -, hpair⟩ := Option.map_eq_some_iff.1 hsame
    exact ⟨rest, (Prod.mk.inj hpair).2.symm⟩

end Few

/-- **Lexers are safe.**  Whatever a caller does with a lexer, no lookup fails, so the lexer of plain
data, which has no way out of one, gives the same answers and shows the same.  Wherever a lexer comes,
inside of a call or between calls, its index lies between two characters of the text, its stack holds
states of the lexicon and at least one of them, and everything that can be done finds what it looks
up.  A match changes the depth of the stack by what its transition says, and it is refused where it
would leave no state. -/
theorem safe_actAll {declared : List Declaration} {categories : CategoryRegistry}
    {options : LexerOptions}
    (hcompiled : Lexicon.ofStates declared categories options = .ok lexicon)
    (hfew : declared.length < UInt32.size) :
    (∀ actions, (RawLexer.initial lexicon).actAll? actions
        = some (((initial lexicon).actAll actions).1, ((initial lexicon).actAll actions).2.raw))
      ∧ ∀ lexer : RawLexer lexicon, lexer.Reachable →
        lexer.Safe ∧ lexer.Deepens ∧ lexer.take?.isSome = true
          ∧ ∀ action, (lexer.act? action).isSome = true := by
  -- One state number for each name: few declarations are few names.
  have hnames : lexicon.names.length < UInt32.size := by
    rw [(Lexicon.composedOf_of_ofStates hcompiled).names_eq, List.length_map]
    exact hfew
  refine ⟨fun actions => raw_actAll? hnames (initial lexicon) actions, fun lexer hreachable => ?_⟩
  obtain ⟨typed, rfl⟩ := exists_raw_of_reachable hnames hreachable
  refine ⟨safe_raw typed, deepens_raw hnames typed, ?_, fun action => ?_⟩
  · rw [raw_take? hnames]
    rfl
  · rw [raw_act? hnames]
    rfl

/-- A bracket that closes more than is open, states that nobody knows, and no states at all. -/
def strangeActions : List Action :=
  [.reset " ()".toList none, .call .next, .resume "".toList, .call .next, .call .popState,
    .reset ")".toList (some ⟨7, 2, 3, ["gone", "inside", "outside", "inside"]⟩), .call .next,
    .reset "(".toList (some ⟨0, 1, 1, []⟩), .call .next]

theorem safe_actAll_strangeActions :
    Lexicon.ofStates closingStates .empty .standard = .ok closingLexicon
      ∧ closingStates.length < UInt32.size
      ∧ ∃ last, (RawLexer.initial closingLexicon).actAll? strangeActions
          = some (((initial closingLexicon).actAll strangeActions).1, last)
        ∧ last.Safe ∧ last.stack = [0, 1] ∧ last.index = 1
        ∧ ((initial closingLexicon).actAll strangeActions).1.map (fun (_, view) => view.saved.stack)
          = [["outside"], ["outside", "inside"], ["outside", "inside"], ["outside", "inside"],
            ["outside"], ["inside", "outside", "inside"], ["inside"], ["outside"],
            ["outside", "inside"]] := by
  have hcompiled : Lexicon.ofStates closingStates .empty .standard = .ok closingLexicon :=
    eq_ok_get_toOption _
  have hfew : closingStates.length < UInt32.size := by decide
  have hstack : ((initial closingLexicon).actAll strangeActions).2.raw.stack = [0, 1] := by
    decide +kernel
  have hindex : ((initial closingLexicon).actAll strangeActions).2.raw.index = 1 := by decide +kernel
  obtain ⟨hruns, hsafe⟩ := safe_actAll hcompiled hfew
  have hreachable := RawLexer.reachable_of_actAll? .initial (hruns strangeActions)
  exact ⟨hcompiled, hfew, _, hruns strangeActions, (hsafe _ hreachable).1, hstack, hindex,
    by decide +kernel⟩

end Lexer

end Lexical
