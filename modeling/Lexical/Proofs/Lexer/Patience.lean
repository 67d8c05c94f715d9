import Lexical.Proofs.Lexer.Circles
import Lexical.Proofs.Lexer.MaximalMunch
import Lexical.Proofs.Lexer.Take
import Mathlib.Tactic.Ring

/-!
# The patience of a lexer

`Lexer.next` takes no more matches than `Lexer.patience` allows and says that the lexer has stalled
where they do not lead to an end.  This file shows that no end is missed: a lexer stalls only if the
matches go on for ever (`Lexer.stalled_next_iff`), and what any number of matches leads to,
`Lexer.next` comes to (`Lexer.next_eq_nextWithin`).

Between two matches that take text, a lexer moves by its current state alone, so
`StateStack.endless_or_stops` bounds how long it can do so.  With each match that takes text, less is
left of it, and the stack has grown by as many states as there are, and one more, at the most.
-/

namespace Lexical

namespace Lexer

variable {lexicon : Lexicon} {lexer rest : Lexer lexicon} {m : Match lexicon}

/-! ## Runs that stall -/

/-- A call has run out of the matches that it may take. -/
def Run.Stalled (run : Run lexicon) : Prop :=
  ∃ position, run.result = .error (.stalled position)

instance (run : Run lexicon) : Decidable run.Stalled :=
  match h : run.result with
  | .ok _ => isFalse fun ⟨_, hstalled⟩ => by cases h.symm.trans hstalled
  | .error error =>
    if hstalled : error = .stalled error.position then isTrue ⟨_, h.trans (congrArg _ hstalled)⟩
    else isFalse fun ⟨_, hresult⟩ => by
      obtain rfl := Except.error.inj (h.symm.trans hresult)
      exact hstalled rfl

/-- The lexer behind a match that gives no token. -/
def skip? (lexer : Lexer lexicon) : Option (Lexer lexicon) :=
  match lexer.take with
  | .ok (some (m, rest)) => if m.entry.isIgnored then some rest else none
  | _ => none

lemma skip?_eq_some_iff :
    lexer.skip? = some rest ↔
      ∃ m, lexer.take = .ok (some (m, rest)) ∧ m.entry.isIgnored = true := by
  unfold skip?
  split
  · rename_i m other htake
    rw [htake]
    simp only [Option.ite_none_right_eq_some, Option.some.injEq, Except.ok.injEq, Prod.mk.injEq]
    constructor
    · rintro ⟨hignored, rfl⟩
      exact ⟨m, ⟨rfl, rfl⟩, hignored⟩
    · rintro ⟨_, ⟨rfl, rfl⟩, hignored⟩
      exact ⟨hignored, rfl⟩
  · rename_i hnone
    constructor
    · intro h
      cases h
    · rintro ⟨m, htake, -⟩
      exact absurd htake (hnone m rest)

lemma nextWithin_of_skip? (h : lexer.skip? = some rest) (fuel : Nat) :
    ∃ m, lexer.take = .ok (some (m, rest)) ∧ m.entry.isIgnored = true ∧
      lexer.nextWithin (fuel + 1) =
        { rest.nextWithin fuel with taken := m :: (rest.nextWithin fuel).taken } := by
  obtain ⟨m, htake, hignored⟩ := skip?_eq_some_iff.1 h
  refine ⟨m, htake, hignored, ?_⟩
  rw [nextWithin, htake]
  simp only [hignored, if_true]

lemma nextWithin_of_not_skip? (h : lexer.skip? = none) (fuel : Nat) :
    lexer.nextWithin (fuel + 1) = lexer.nextWithin 1 := by
  rw [nextWithin, nextWithin]
  cases htake : lexer.take with
  | error error => rfl
  | ok taken =>
    cases taken with
    | none => rfl
    | some taken =>
      obtain ⟨m, rest⟩ := taken
      -- A match that is skipped would be one that `skip?` finds.
      have hkept : m.entry.isIgnored ≠ true := by
        intro hignored
        rw [skip?_eq_some_iff.2 ⟨m, htake, hignored⟩] at h
        cases h
      simp only [if_neg hkept]

/-- To stall is no way in which a single match can fail. -/
lemma take_ne_stalled (lexer : Lexer lexicon) (position : Position) :
    lexer.take ≠ .error (.stalled position) := by
  unfold take
  split_ifs with hempty
  · unfold endOfInput
    split_ifs <;> simp [Except.map]
  · split
    · simp
    · rename_i entry length _
      intro h
      -- A match is refused for its line breaks or for going back too far.
      cases hmatch : lexer.takeMatch entry length with
      | ok taken =>
        rw [hmatch] at h
        cases h
      | error error =>
        rw [hmatch] at h
        obtain rfl : error = .stalled position := Except.error.inj h
        cases refuses_of_takeMatch_eq_error hmatch

lemma not_stalled_of_not_skip? (h : lexer.skip? = none) (fuel : Nat) :
    ¬ (lexer.nextWithin (fuel + 1)).Stalled := by
  rintro ⟨position, hstalled⟩
  rw [nextWithin_of_not_skip? h, nextWithin] at hstalled
  cases htake : lexer.take with
  | error error =>
    rw [htake] at hstalled
    obtain rfl : error = .stalled position := Except.error.inj hstalled
    exact take_ne_stalled lexer position htake
  | ok taken =>
    rw [htake] at hstalled
    cases taken with
    | none => cases hstalled
    | some taken =>
      obtain ⟨m, rest⟩ := taken
      simp only at hstalled
      split_ifs at hstalled with hignored
      rw [skip?_eq_some_iff.2 ⟨m, htake, hignored⟩] at h
      cases h

/-- **A call stalls if there are as many matches to skip as it may take.** -/
lemma stalled_nextWithin_iff {fuel : Nat} :
    (lexer.nextWithin fuel).Stalled ↔ (iterate? skip? fuel lexer).isSome = true := by
  induction fuel generalizing lexer with
  | zero => exact ⟨fun _ => rfl, fun _ => ⟨lexer.position, rfl⟩⟩
  | succ fuel ih =>
    rw [iterate?]
    cases hskip : lexer.skip? with
    | none => simpa using not_stalled_of_not_skip? hskip fuel
    | some rest =>
      obtain ⟨m, -, -, hnext⟩ := nextWithin_of_skip? hskip fuel
      rw [hnext, Option.bind_some, ← ih]
      rfl

/-- A call that does not stall needs no more matches than it may take. -/
lemma nextWithin_add {fuel : Nat} (h : ¬ (lexer.nextWithin fuel).Stalled) (more : Nat) :
    lexer.nextWithin (fuel + more) = lexer.nextWithin fuel := by
  induction fuel generalizing lexer with
  | zero => exact absurd ⟨lexer.position, rfl⟩ h
  | succ fuel ih =>
    rw [Nat.succ_add]
    cases hskip : lexer.skip? with
    | none =>
      show lexer.nextWithin (fuel + more + 1) = _
      rw [nextWithin_of_not_skip? hskip, nextWithin_of_not_skip? hskip fuel]
    | some rest =>
      obtain ⟨m, htake, -, hnext⟩ := nextWithin_of_skip? hskip fuel
      obtain ⟨m', htake', -, hmore⟩ := nextWithin_of_skip? hskip (fuel + more)
      have hsame := Except.ok.inj (htake.symm.trans htake')
      obtain ⟨rfl, -⟩ := Prod.mk.inj (Option.some.inj hsame)
      rw [hnext] at h
      rw [hnext, Nat.succ_eq_add_one, hmore, ih h]

/-! ## Matches without text -/

/-- What a state does where it takes no text and gives no token. -/
def idleMove (lexicon : Lexicon) (text : List Char) (state : lexicon.StateId) :
    Option (Option (Transition lexicon.StateId)) :=
  match (lexicon.table state).choose text with
  | some (entry, 0) => if entry.isIgnored then some entry.transition else none
  | _ => none

lemma idleMove_eq_some_iff {text : List Char} {state : lexicon.StateId}
    {change : Option (Transition lexicon.StateId)} :
    idleMove lexicon text state = some change ↔ ∃ entry,
      (lexicon.table state).choose text = some (entry, 0) ∧ entry.isIgnored = true ∧
        entry.transition = change := by
  unfold idleMove
  split
  · rename_i entry hchosen
    rw [hchosen]
    simp only [Option.ite_none_right_eq_some, Option.some.injEq, Prod.mk.injEq, and_true]
    constructor
    · rintro ⟨hignored, rfl⟩
      exact ⟨entry, rfl, hignored, rfl⟩
    · rintro ⟨_, rfl, hignored, rfl⟩
      exact ⟨hignored, rfl⟩
  · rename_i hnone
    constructor
    · intro h
      cases h
    · rintro ⟨entry, hchosen, -⟩
      exact absurd hchosen (hnone entry)

lemma countLineBreaks_nil (lexer : Lexer lexicon)
    (entry : Entry lexicon.names.length Regex.Expr) : lexer.countLineBreaks entry [] = .ok 0 := by
  unfold countLineBreaks
  simp [Text.lineBreaks]

lemma underflows?_eq_none_iff {entry : Entry lexicon.names.length Regex.Expr} :
    lexer.underflows? entry = none ↔ lexer.stack.falls entry.transition = false := by
  unfold underflows? StateStack.falls
  match entry.transition with
  | none => simp
  | some (.push _) => simp
  | some (.next _) => simp
  | some (.pop count) =>
    show (if lexer.depth ≤ count then some _ else none) = none ↔ decide (lexer.depth ≤ count) = false
    by_cases hdepth : lexer.depth ≤ count <;> simp [hdepth]

/-- **A step of the stack is a match without text**, which gives no token. -/
lemma exists_skip?_of_step? {later : StateStack lexicon.StateId} (hahead : lexer.ahead ≠ [])
    (h : lexer.stack.step? (idleMove lexicon lexer.ahead) = some later) :
    ∃ rest, lexer.skip? = some rest ∧ rest.stack = later ∧ rest.ahead = lexer.ahead := by
  obtain ⟨_, hmove, hfalls, rfl⟩ := StateStack.step?_eq_some_iff.1 h
  obtain ⟨entry, hchosen, hignored, rfl⟩ := idleMove_eq_some_iff.1 hmove
  -- The match that `idleMove` stands for: no text, and the change that its entry asks for.
  let after := (entry.transition.map lexer.stack.apply).getD lexer.stack
  let m : Match lexicon := ⟨lexer.stack.top, entry, [], lexer.position, 0, after⟩
  have htakes : lexer.Takes 0 m { lexer.advance 0 0 with stack := after } :=
    ⟨hchosen, rfl, rfl, rfl, lexer.countLineBreaks_nil entry, underflows?_eq_none_iff.2 hfalls,
      rfl, rfl⟩
  have htake := take_eq_some_iff.2 ⟨hahead, 0, htakes⟩
  exact ⟨_, skip?_eq_some_iff.2 ⟨m, htake, hignored⟩, rfl, rfl⟩

/-- Where no step of the stack is possible, a match that gives no token takes text. -/
lemma shorter_of_skip? (hstep : lexer.stack.step? (idleMove lexicon lexer.ahead) = none)
    (h : lexer.skip? = some rest) :
    rest.ahead.length < lexer.ahead.length ∧ rest.depth ≤ lexer.depth + 1 := by
  obtain ⟨m, htake, hignored⟩ := skip?_eq_some_iff.1 h
  obtain ⟨hahead, length, htakes⟩ := take_eq_some_iff.1 htake
  -- A match without text would be a step of the stack.
  have hlength : length ≠ 0 := by
    rintro rfl
    have hmove : idleMove lexicon lexer.ahead lexer.stack.top = some m.entry.transition :=
      idleMove_eq_some_iff.2 ⟨m.entry, htakes.chosen, hignored, rfl⟩
    have hfalls := underflows?_eq_none_iff.1 htakes.allowed
    have hsome := StateStack.step?_eq_some_iff.2 ⟨_, hmove, hfalls, rfl⟩
    rw [hstep] at hsome
    cases hsome
  constructor
  · have hpos : 0 < lexer.ahead.length := List.length_pos_iff.2 hahead
    rw [htakes.drop_eq, List.length_drop]
    omega
  · rw [depth, depth, htakes.stack_eq, htakes.after_eq]
    cases m.entry.transition with
    | none => exact Nat.le_succ _
    | some change => exact StateStack.depth_apply_le _ _

/-! ## What patience is enough for -/

/-- Patience covers the steps that can be made without text. -/
lemma depth_mul_lt (states depth more : Nat) :
    depth * states < (depth + more + 1) * ((states + 1) * (states + 1)) := by
  calc depth * states < (depth + 1) * (states + 1) := by
        rw [Nat.mul_succ, Nat.succ_mul]
        omega
    _ ≤ (depth + more + 1) * ((states + 1) * (states + 1)) :=
        Nat.mul_le_mul (by omega) (Nat.le_mul_self _)

lemma depth_mul_lt_patience (lexer : Lexer lexicon) :
    lexer.depth * lexicon.names.length < lexer.patience := by
  have hsteps := depth_mul_lt lexicon.names.length lexer.depth
    ((lexicon.names.length + 1) * lexer.ahead.length)
  unfold patience
  simp only
  rw [Nat.mul_assoc]
  exact Nat.lt_succ_of_lt (Nat.lt_of_lt_of_le hsteps
    (Nat.le_mul_of_pos_left _ (Nat.succ_pos lexer.ahead.length)))

/-- Behind a match that takes text there is patience left for the rest. -/
lemma patience_of_shorter (hahead : rest.ahead.length < lexer.ahead.length)
    (hdepth : rest.depth ≤ lexer.depth + lexicon.names.length + 1) :
    lexer.depth * lexicon.names.length + 1 + rest.patience ≤ lexer.patience := by
  have hsteps := depth_mul_lt lexicon.names.length lexer.depth
    ((lexicon.names.length + 1) * lexer.ahead.length)
  unfold patience
  simp only
  obtain ⟨less, hless⟩ : ∃ less, lexer.ahead.length = less + 1 :=
    ⟨lexer.ahead.length - 1, by omega⟩
  rw [hless] at hahead hsteps ⊢
  -- From here on it is arithmetic, and names for the sizes keep the products readable.
  generalize lexicon.names.length = states at *
  generalize rest.ahead.length = ahead at *
  generalize rest.depth = depth' at *
  generalize lexer.depth = depth at *
  -- The text gets shorter by one at least, which makes up for what the stack has grown.
  have hgrown : depth' + (states + 1) * ahead + 1 ≤ depth + (states + 1) * (less + 1) + 1 := by
    have hmul := Nat.mul_le_mul_left (states + 1) (Nat.lt_succ_iff.1 hahead)
    rw [Nat.mul_succ]
    omega
  have hrest : (ahead + 1) * (depth' + (states + 1) * ahead + 1) * ((states + 1) * (states + 1))
      ≤ (less + 1) * ((depth + (states + 1) * (less + 1) + 1) * ((states + 1) * (states + 1))) := by
    rw [Nat.mul_assoc]
    exact Nat.mul_le_mul hahead (Nat.mul_le_mul_right _ hgrown)
  calc depth * states + 1
        + ((ahead + 1) * (depth' + (states + 1) * ahead + 1) * ((states + 1) * (states + 1)) + 1)
      ≤ (depth + (states + 1) * (less + 1) + 1) * ((states + 1) * (states + 1))
        + ((less + 1) * ((depth + (states + 1) * (less + 1) + 1) * ((states + 1) * (states + 1))) + 1) := by
        omega
    _ = (less + 1 + 1) * (depth + (states + 1) * (less + 1) + 1) * ((states + 1) * (states + 1)) + 1 := by
        ring

/-- **Matches that give no tokens go on for ever, or come to an end while there is patience.**  The
induction is on the text that is left. -/
theorem endless_or_exists_last_lt (lexer : Lexer lexicon) :
    Endless skip? lexer ∨ ∃ count < lexer.patience, ∃ last,
      iterate? skip? count lexer = some last ∧ last.skip? = none := by
  induction hlength : lexer.ahead.length using Nat.strong_induction_on generalizing lexer with
  | _ length ih =>
    subst hlength
    -- Without text left there is no match at all.
    by_cases hahead : lexer.ahead = []
    · have hskip : lexer.skip? = none := by
        rw [Option.eq_none_iff_forall_ne_some]
        intro rest hrest
        obtain ⟨m, htake, -⟩ := skip?_eq_some_iff.1 hrest
        exact (take_eq_some_iff.1 htake).1 hahead
      exact .inr ⟨0, Nat.succ_pos _, lexer, rfl, hskip⟩
    -- As long as no text is taken the lexer follows the moves of its stack.
    · have hstep (stack later : StateStack lexicon.StateId) (other : Lexer lexicon)
          (hother : other.stack = stack ∧ other.ahead = lexer.ahead)
          (h : stack.step? (idleMove lexicon lexer.ahead) = some later) :
          ∃ rest, other.skip? = some rest ∧ rest.stack = later ∧ rest.ahead = lexer.ahead := by
        obtain ⟨rfl, hsame⟩ := hother
        rw [← hsame] at h hahead ⊢
        exact exists_skip?_of_step? hahead h
      rcases StateStack.endless_or_stops (idleMove lexicon lexer.ahead) lexer.stack with hendless |
        ⟨count, hcount, later, hlater, hstops, hdepth⟩
      · exact .inl (hendless.simulates hstep ⟨rfl, rfl⟩)
      · obtain ⟨last, hlast, rfl, hsame⟩ :=
          exists_iterate?_of_simulates hstep (b := lexer) ⟨rfl, rfl⟩ hlater
        rw [← hsame] at hstops
        rw [Fintype.card_fin] at hcount hdepth
        have hlow : count ≤ lexer.depth * lexicon.names.length := hcount
        -- Where the stack stops, the next match takes text, and the induction goes on with what
        -- is left.
        cases hskip : last.skip? with
        | none =>
          have hpatience := lexer.depth_mul_lt_patience
          exact .inr ⟨count, by omega, last, hlast, hskip⟩
        | some rest =>
          obtain ⟨hshort, hdeep⟩ := shorter_of_skip? hstops hskip
          rw [hsame] at hshort
          have hgrown : rest.depth ≤ lexer.depth + lexicon.names.length + 1 :=
            Nat.le_trans hdeep (Nat.succ_le_succ hdepth)
          have hpatience := patience_of_shorter hshort hgrown
          have hsteps : iterate? skip? (count + 1) lexer = some rest := by
            rw [iterate?_succ, hlast]
            exact hskip
          rcases ih _ hshort rest rfl with hendless | ⟨more, hmore, final, hfinal, hends⟩
          · exact .inl (hendless.of_iterate? hsteps)
          · refine .inr ⟨count + 1 + more, by omega, final, ?_, hends⟩
            rw [iterate?_add, hsteps]
            exact hfinal

/-- **What any number of matches leads to, a lexer comes to.** -/
theorem next_eq_nextWithin {fuel : Nat} (h : ¬ (lexer.nextWithin fuel).Stalled) :
    lexer.next = lexer.nextWithin fuel := by
  -- If `fuel` matches are enough for an end, patience is as well: the other way out is to go on
  -- for ever.
  have hpatient : ¬ (lexer.nextWithin lexer.patience).Stalled := by
    rw [stalled_nextWithin_iff] at h ⊢
    rcases lexer.endless_or_exists_last_lt with hendless | ⟨count, hcount, last, hlast, hends⟩
    · exact absurd (hendless fuel) h
    · intro hsome
      have hmore := isSome_iterate?_of_le hcount hsome
      rw [iterate?_succ, hlast, Option.bind_some, hends] at hmore
      cases hmore
  rw [next]
  -- Whichever of the two numbers is greater, the matches beyond the smaller are not needed.
  rcases Nat.le_total fuel lexer.patience with hle | hle
  · obtain ⟨more, hmore⟩ := Nat.exists_eq_add_of_le hle
    rw [hmore, nextWithin_add h]
  · obtain ⟨more, rfl⟩ := Nat.exists_eq_add_of_le hle
    rw [nextWithin_add hpatient]

/-- **A lexer stalls only if it would never come to an end.** -/
theorem stalled_next_iff :
    lexer.next.Stalled ↔ ∀ fuel, (lexer.nextWithin fuel).Stalled := by
  constructor
  · intro h fuel
    by_contra hends
    rw [next_eq_nextWithin hends] at h
    exact hends h
  · intro h
    exact h lexer.patience

/-! ## Calls that skip a match -/

/-- What is skipped first changes nothing else of a call. -/
lemma next_of_skip? (h : lexer.skip? = some rest) (hends : ¬ rest.next.Stalled) :
    lexer.next.result = rest.next.result ∧ lexer.next.lexer = rest.next.lexer := by
  obtain ⟨m, -, -, hnext⟩ := nextWithin_of_skip? h rest.patience
  have hlexer : ¬ (lexer.nextWithin (rest.patience + 1)).Stalled := by
    rw [hnext]
    exact hends
  rw [next_eq_nextWithin hlexer, hnext]
  exact ⟨rfl, rfl⟩

lemma stalled_next_of_skip? (h : lexer.skip? = some rest) (hstalled : rest.next.Stalled) :
    lexer.next.Stalled := by
  rw [stalled_next_iff] at hstalled ⊢
  intro fuel
  cases fuel with
  | zero => exact ⟨lexer.position, rfl⟩
  | succ fuel =>
    obtain ⟨m, -, -, hnext⟩ := nextWithin_of_skip? h fuel
    rw [hnext]
    exact hstalled fuel

/-- A match that gives a token ends a call. -/
lemma next_of_kept (htake : lexer.take = .ok (some (m, rest))) (hkept : m.entry.isIgnored = false) :
    lexer.next = ⟨[m], .ok (some m.token), rest⟩ := by
  unfold next patience nextWithin
  rw [htake]
  simp [hkept]

end Lexer

end Lexical
