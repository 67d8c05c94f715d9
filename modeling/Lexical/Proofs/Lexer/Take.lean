import Lexical.Proofs.Lexer.Command
import Lexical.Proofs.Lexicon.Declared

/-!
# What one step of a lexer does

All that a lexer does with its text is to take matches.  `Lexer.Takes` says what one match is and
what it leaves behind, `Lexer.Passes` puts matches in a row, and `Lexer.Ends` says how the row of a
call ends.  What holds of every match that is taken holds of a whole call by `passes_nextWithin`, and
of all calls of a caller by `passes_perform`.
-/

namespace Lexical

/-- The position behind a text, of whose line breaks `lineBreaks` count. -/
def Position.past (position : Position) (text : List Char) (lineBreaks : Nat) : Position where
  offset := moveOffset position.offset (Text.byteLength text)
  line := if 0 < lineBreaks then addCount position.line lineBreaks else position.line
  column :=
    if 0 < lineBreaks then addCount (Text.lastLine text).length 1
    else addCount position.column text.length

namespace Lexer

variable {lexicon : Lexicon}

/-! ## One match -/

/-- A match of the given length is taken, and `rest` is the lexer behind it. -/
structure Takes (lexer : Lexer lexicon) (length : Nat) (m : Match lexicon) (rest : Lexer lexicon) :
    Prop where
  chosen : lexer.table.choose lexer.ahead = some (m.entry, length)
  state_eq : m.state = lexer.stack.top
  text_eq : m.text = lexer.ahead.take length
  start_eq : m.start = lexer.position
  counted : lexer.countLineBreaks m.entry m.text = .ok m.lineBreaks
  allowed : lexer.underflows? m.entry = none
  after_eq : m.after = (m.entry.transition.map lexer.stack.apply).getD lexer.stack
  rest_eq : rest = { lexer.advance length m.lineBreaks with stack := m.after }

namespace Takes

variable {lexer rest : Lexer lexicon} {length : Nat} {m : Match lexicon}

lemma base_eq (h : lexer.Takes length m rest) : rest.base = lexer.base := by
  rw [h.rest_eq]
  rfl

lemma behind_eq (h : lexer.Takes length m rest) : rest.behind = lexer.behind ++ m.text := by
  rw [h.rest_eq, h.text_eq]
  rfl

lemma stack_eq (h : lexer.Takes length m rest) : rest.stack = m.after := by
  rw [h.rest_eq]

lemma drop_eq (h : lexer.Takes length m rest) : rest.ahead = lexer.ahead.drop length := by
  rw [h.rest_eq]
  rfl

/-- The match is the start of what was to be read. -/
lemma ahead_eq (h : lexer.Takes length m rest) : lexer.ahead = m.text ++ rest.ahead := by
  rw [h.drop_eq, h.text_eq, List.take_append_drop]

lemma buffer_eq (h : lexer.Takes length m rest) : rest.buffer = lexer.buffer := by
  rw [buffer, buffer, h.behind_eq, h.ahead_eq, List.append_assoc]

/-- The position behind a match depends on nothing but the one before it and the match. -/
lemma position_eq (h : lexer.Takes length m rest) :
    rest.position = lexer.position.past m.text m.lineBreaks := by
  have hindex : rest.index = lexer.index + Text.byteLength m.text := by
    rw [index, index, h.behind_eq, Text.byteLength_append]
  -- The offset is the base and the index together, and the base stays, so only the index moves.
  have hoffset : Position.moveOffset rest.base rest.index
      = Position.moveOffset lexer.position.offset (Text.byteLength m.text) := by
    rw [hindex, h.base_eq, position, Position.moveOffset_moveOffset]
  have hline : rest.line = (lexer.position.past m.text m.lineBreaks).line := by
    rw [h.rest_eq]
    rfl
  have hcolumn : rest.column = (lexer.position.past m.text m.lineBreaks).column := by
    rw [h.rest_eq, h.text_eq]
    rfl
  show (⟨Position.moveOffset rest.base rest.index, rest.line, rest.column⟩ : Position) = _
  rw [hoffset, hline, hcolumn]
  rfl

lemma offset_eq (h : lexer.Takes length m rest) :
    rest.position.offset = Position.moveOffset m.start.offset (Text.byteLength m.text) := by
  rw [h.position_eq, h.start_eq]
  rfl

end Takes

/-- What taking the match of an entry comes to. -/
lemma takeMatch_eq_ok_iff {lexer rest : Lexer lexicon}
    {entry : Entry lexicon.names.length Regex.Expr} {length : Nat} {m : Match lexicon}
    (hchosen : lexer.table.choose lexer.ahead = some (entry, length)) :
    lexer.takeMatch entry length = .ok (m, rest) ↔ lexer.Takes length m rest := by
  constructor
  · intro h
    unfold takeMatch at h
    split at h
    · cases h
    · rename_i hallowed
      obtain ⟨lineBreaks, hcount, h⟩ := except_bind_eq_ok_iff.1 h
      obtain ⟨rfl, rfl⟩ := Prod.mk.inj (Except.ok.inj h)
      refine ⟨hchosen, rfl, rfl, rfl, hcount, hallowed, ?_, rfl⟩
      cases entry.transition <;> rfl
  · rintro ⟨hchosen', hstate, htext, hstart, hcount, hallowed, hafter, rfl⟩
    -- There is one choice, so the entry of the match is the chosen one.
    rw [hchosen] at hchosen'
    obtain ⟨hentry, -⟩ := Prod.mk.inj (Option.some.inj hchosen')
    obtain ⟨state, entry', text, start, lineBreaks, after⟩ := m
    simp only at hstate htext hstart hcount hallowed hafter hentry
    subst hentry hstate htext hstart
    unfold takeMatch
    rw [hallowed]
    simp only
    rw [hcount, hafter]
    cases entry.transition <;> rfl

/-- **A lexer takes what its state chooses**, if there is text left. -/
theorem take_eq_some_iff {lexer rest : Lexer lexicon} {m : Match lexicon} :
    lexer.take = .ok (some (m, rest)) ↔ lexer.ahead ≠ [] ∧ ∃ length, lexer.Takes length m rest := by
  have hempty : lexer.ahead.isEmpty = true ↔ lexer.ahead = [] := List.isEmpty_iff
  by_cases hahead : lexer.ahead = []
  · have hnot : ¬ lexer.take = .ok (some (m, rest)) := by
      intro htake
      unfold take at htake
      rw [if_pos (hempty.2 hahead)] at htake
      obtain ⟨-, -, hnone⟩ := except_map_eq_ok_iff.1 htake
      cases hnone
    exact ⟨fun htake => absurd htake hnot, fun ⟨hne, _⟩ => absurd hahead hne⟩
  · unfold take
    rw [if_neg (fun h => hahead (hempty.1 h))]
    cases hchosen : lexer.table.choose lexer.ahead with
    | none =>
      constructor
      · intro h
        cases h
      · rintro ⟨-, length, htakes⟩
        have hsome := htakes.chosen
        rw [hchosen] at hsome
        cases hsome
    | some choice =>
      obtain ⟨entry, length⟩ := choice
      constructor
      · intro h
        obtain ⟨taken, htaken, hsame⟩ := except_map_eq_ok_iff.1 h
        obtain rfl := Option.some.inj hsame
        exact ⟨hahead, length, (takeMatch_eq_ok_iff hchosen).1 htaken⟩
      · rintro ⟨-, length', htakes⟩
        -- The state chooses once, so the length that is given is the chosen one.
        have hsame := htakes.chosen
        rw [hchosen] at hsame
        obtain ⟨rfl, rfl⟩ := Prod.mk.inj (Option.some.inj hsame)
        have htaken := (takeMatch_eq_ok_iff hchosen).2 htakes
        exact except_map_eq_ok_iff.2 ⟨(m, rest), htaken, rfl⟩

/-- Matches that are taken one after the other. -/
inductive Passes : Lexer lexicon → List (Match lexicon) → Lexer lexicon → Prop
  | nil (lexer : Lexer lexicon) : Passes lexer [] lexer
  | cons {lexer rest last : Lexer lexicon} {m : Match lexicon} {others : List (Match lexicon)}
      (first : lexer.take = .ok (some (m, rest))) (more : Passes rest others last) :
      Passes lexer (m :: others) last

namespace Passes

variable {lexer middle last : Lexer lexicon} {m : Match lexicon}
  {taken others : List (Match lexicon)}

lemma append (h : Passes lexer taken middle) (hothers : Passes middle others last) :
    Passes lexer (taken ++ others) last := by
  induction h with
  | nil => exact hothers
  | cons first _ ih => exact .cons first (ih hothers)

/-- The induction is on the matches of the first part. -/
lemma exists_middle (h : Passes lexer (taken ++ others) last) :
    ∃ middle, Passes lexer taken middle ∧ Passes middle others last := by
  induction taken generalizing lexer with
  | nil => exact ⟨lexer, .nil lexer, h⟩
  | cons m taken ih =>
    cases h with
    | cons first more =>
      obtain ⟨middle, hbefore, hbehind⟩ := ih more
      exact ⟨middle, .cons first hbefore, hbehind⟩

/-- A match in a row was taken by some lexer on the way. -/
lemma exists_take (h : Passes lexer taken last) (hm : m ∈ taken) :
    ∃ before start behind rest, Passes lexer before start ∧ start.take = .ok (some (m, rest)) ∧
      Passes rest behind last ∧ taken = before ++ m :: behind := by
  induction h with
  | nil => cases hm
  | @cons lexer rest last first others htake more ih =>
    rcases List.mem_cons.1 hm with rfl | hm
    · exact ⟨[], lexer, others, rest, .nil lexer, htake, more, rfl⟩
    · obtain ⟨before, start, behind, rest', hbefore, hstart, hbehind, rfl⟩ := ih hm
      exact ⟨first :: before, start, behind, rest', .cons htake hbefore, hstart, hbehind, rfl⟩

/-- What is left of a text is left of it before each match. -/
lemma suffix (h : Passes lexer taken last) : last.ahead <:+ lexer.ahead := by
  induction h with
  | nil lexer => exact List.suffix_rfl
  | cons first _ ih =>
    obtain ⟨-, length, htakes⟩ := take_eq_some_iff.1 first
    rw [htakes.ahead_eq]
    exact ih.trans (List.suffix_append _ _)

end Passes

/-! ## Calls -/

/-- How a call ends that may take `fuel` matches. -/
inductive Ends (fuel : Nat) : Run lexicon → Prop
  | token {ignored : List (Match lexicon)} {m : Match lexicon} {lexer : Lexer lexicon}
      (skipped : ∀ other ∈ ignored, other.entry.isIgnored = true)
      (kept : m.entry.isIgnored = false) : Ends fuel ⟨ignored ++ [m], .ok (some m.token), lexer⟩
  | nothing {ignored : List (Match lexicon)} {lexer : Lexer lexicon}
      (skipped : ∀ other ∈ ignored, other.entry.isIgnored = true)
      (atEnd : lexer.take = .ok none) : Ends fuel ⟨ignored, .ok none, lexer⟩
  | failed {ignored : List (Match lexicon)} {lexer : Lexer lexicon} {error : LexerError}
      (skipped : ∀ other ∈ ignored, other.entry.isIgnored = true)
      (failure : lexer.take = .error error) : Ends fuel ⟨ignored, .error error, lexer⟩
  | stalled {ignored : List (Match lexicon)} {lexer : Lexer lexicon}
      (skipped : ∀ other ∈ ignored, other.entry.isIgnored = true)
      (exhausted : ignored.length = fuel) :
      Ends fuel ⟨ignored, .error (.stalled lexer.position), lexer⟩

/-- One more match is skipped. -/
lemma Ends.cons {fuel : Nat} {run : Run lexicon} {m : Match lexicon} (h : Ends fuel run)
    (hm : m.entry.isIgnored = true) : Ends (fuel + 1) { run with taken := m :: run.taken } := by
  have hskipped {ignored : List (Match lexicon)}
      (h : ∀ other ∈ ignored, other.entry.isIgnored = true) :
      ∀ other ∈ m :: ignored, other.entry.isIgnored = true := by
    intro other hother
    rcases List.mem_cons.1 hother with rfl | hother
    · exact hm
    · exact h other hother
  cases h with
  | token skipped kept => exact .token (hskipped skipped) kept
  | nothing skipped atEnd => exact .nothing (hskipped skipped) atEnd
  | failed skipped failure => exact .failed (hskipped skipped) failure
  | stalled skipped exhausted => exact .stalled (hskipped skipped) (by simp [exhausted])

/-- **A call takes matches in a row and ends in one of four ways.**  The induction is on the number of
matches that are allowed. -/
theorem passes_nextWithin (fuel : Nat) (lexer : Lexer lexicon) :
    Passes lexer (lexer.nextWithin fuel).taken (lexer.nextWithin fuel).lexer ∧
      Ends fuel (lexer.nextWithin fuel) := by
  induction fuel generalizing lexer with
  | zero => exact ⟨.nil lexer, .stalled (by simp) rfl⟩
  | succ fuel ih =>
    unfold nextWithin
    cases htake : lexer.take with
    | error error => exact ⟨.nil lexer, .failed (by simp) htake⟩
    | ok taken =>
      cases taken with
      | none => exact ⟨.nil lexer, .nothing (by simp) htake⟩
      | some taken =>
        obtain ⟨m, rest⟩ := taken
        obtain ⟨hpasses, hends⟩ := ih rest
        by_cases hignored : m.entry.isIgnored = true
        · simp only [hignored, if_true]
          exact ⟨.cons htake hpasses, hends.cons hignored⟩
        · have hkept : m.entry.isIgnored = false := by simpa using hignored
          have hnone : ∀ other ∈ ([] : List (Match lexicon)), other.entry.isIgnored = true := by simp
          simp only [hignored]
          exact ⟨.cons htake (.nil rest), .token hnone hkept⟩

/-- A call that gives a token takes its match last, behind ignored ones. -/
lemma exists_take_of_next {lexer : Lexer lexicon} {t : Token} (ht : lexer.next.result = .ok (some t)) :
    ∃ skipped start m, lexer.next.taken = skipped ++ [m] ∧ Passes lexer skipped start ∧
      (∀ other ∈ skipped, other.entry.isIgnored = true) ∧ m.entry.isIgnored = false ∧
      start.take = .ok (some (m, lexer.next.lexer)) ∧ m.token = t := by
  obtain ⟨hpasses, hends⟩ := passes_nextWithin lexer.patience lexer
  have hresult : (lexer.nextWithin lexer.patience).result = .ok (some t) := ht
  unfold next
  generalize lexer.nextWithin lexer.patience = run at hpasses hends hresult
  cases hends with
  | @token ignored m last skipped kept =>
    -- The ignored matches lead to the lexer that takes the last one, behind which nothing is
    -- taken.
    obtain ⟨start, hbefore, hlast⟩ := hpasses.exists_middle
    cases hlast with
    | cons first more =>
      cases more with
      | nil =>
        have htoken : m.token = t := Option.some.inj (Except.ok.inj hresult)
        exact ⟨ignored, start, m, rfl, hbefore, skipped, kept, first, htoken⟩
  | nothing skipped atEnd => cases hresult
  | failed skipped failure => cases hresult
  | stalled skipped exhausted => cases hresult

/-- The matches that a call takes. -/
def taken (lexer : Lexer lexicon) : Command → List (Match lexicon)
  | .next => lexer.next.taken
  | _ => []

/-- The lexer is the same but for its stack. -/
def SameText (a b : Lexer lexicon) : Prop :=
  ∃ stack, b = { a with stack }

lemma sameText_settleChange (lexer : Lexer lexicon)
    (change : Except LexerError (Transition lexicon.StateId)) :
    SameText lexer (lexer.settleChange (change.map lexer.apply)).2 := by
  cases change with
  | error error => exact ⟨lexer.stack, rfl⟩
  | ok change => exact ⟨lexer.stack.apply change, rfl⟩

/-- **A call takes matches in a row, and nothing else touches the text.** -/
theorem passes_perform (lexer : Lexer lexicon) (command : Command) :
    ∃ last, Passes lexer (lexer.taken command) last ∧ SameText last (lexer.perform command).2 := by
  cases command with
  | next =>
    exact ⟨lexer.next.lexer, (passes_nextWithin _ lexer).1, lexer.next.lexer.stack, rfl⟩
  | setState name =>
    simp only [perform, setState_eq]
    exact ⟨lexer, .nil lexer, sameText_settleChange lexer _⟩
  | pushState name =>
    simp only [perform, pushState_eq]
    exact ⟨lexer, .nil lexer, sameText_settleChange lexer _⟩
  | popState =>
    simp only [perform, popState_eq]
    exact ⟨lexer, .nil lexer, sameText_settleChange lexer _⟩

/-- The matches that a row of calls takes. -/
def takenOver (lexer : Lexer lexicon) : List Command → List (Match lexicon)
  | [] => []
  | command :: rest => lexer.taken command ++ takenOver (lexer.perform command).2 rest

/-- A match that is taken in a row of calls was taken by some lexer on the way. -/
lemma exists_takes_of_mem_takenOver {lexer : Lexer lexicon} {commands : List Command}
    {m : Match lexicon} (hm : m ∈ lexer.takenOver commands) :
    ∃ start length rest, Takes start length m rest := by
  induction commands generalizing lexer with
  | nil => cases hm
  | cons command commands ih =>
    rcases List.mem_append.1 hm with hfirst | hlater
    · obtain ⟨last, hpasses, -⟩ := passes_perform lexer command
      obtain ⟨-, start, -, rest, -, htake, -⟩ := hpasses.exists_take hfirst
      obtain ⟨-, length, htakes⟩ := take_eq_some_iff.1 htake
      exact ⟨start, length, rest, htakes⟩
    · exact ih hlater

/-- The lexer behind a row of calls. -/
def performAll (lexer : Lexer lexicon) : List Command → Lexer lexicon
  | [] => lexer
  | command :: rest => performAll (lexer.perform command).2 rest

section Invariants

variable {P : List (Match lexicon) → Lexer lexicon → Prop} {lexer last : Lexer lexicon}
  {taken others : List (Match lexicon)}

/-- The induction is on the matches in the row. -/
lemma Passes.preserves
    (htakes : ∀ {taken lexer length m rest}, P taken lexer → lexer.ahead ≠ [] →
      Takes lexer length m rest → P (taken ++ [m]) rest)
    (h : P taken lexer) (hpasses : Passes lexer others last) : P (taken ++ others) last := by
  induction hpasses generalizing taken with
  | nil => simpa using h
  | @cons lexer rest last m others first more ih =>
    obtain ⟨hahead, length, hfirst⟩ := take_eq_some_iff.1 first
    have hall := ih (htakes h hahead hfirst)
    rwa [List.append_assoc, List.singleton_append] at hall

lemma perform_preserves
    (htakes : ∀ {taken lexer length m rest}, P taken lexer → lexer.ahead ≠ [] →
      Takes lexer length m rest → P (taken ++ [m]) rest)
    (hstack : ∀ {taken lexer rest}, P taken lexer → SameText lexer rest → P taken rest)
    (h : P taken lexer) (command : Command) :
    P (taken ++ lexer.taken command) (lexer.perform command).2 := by
  obtain ⟨last, hpasses, hsame⟩ := passes_perform lexer command
  exact hstack (hpasses.preserves (P := P) htakes h) hsame

/-- **What holds behind one more match holds behind a row of calls**, if it is about the text and not
about the stack: of the matches taken so far, and of the lexer behind them.  The induction is on the
calls. -/
theorem performAll_preserves
    (htakes : ∀ {taken lexer length m rest}, P taken lexer → lexer.ahead ≠ [] →
      Takes lexer length m rest → P (taken ++ [m]) rest)
    (hstack : ∀ {taken lexer rest}, P taken lexer → SameText lexer rest → P taken rest)
    (h : P taken lexer) (commands : List Command) :
    P (taken ++ lexer.takenOver commands) (lexer.performAll commands) := by
  induction commands generalizing taken lexer with
  | nil => simpa [takenOver, performAll] using h
  | cons command commands ih =>
    have hall := ih (perform_preserves (P := P) htakes hstack h command)
    rwa [List.append_assoc] at hall

end Invariants

end Lexer

end Lexical
