import Lexical.Proofs.Lexer.Failure
import Lexical.Proofs.Lexicon.Revised

/-!
# Lexers of revised rules

A lexer of one lexicon is a lexer of any other that differs from it in what is ignored and in the
options (`Lexer.revise`).  Unless the options make a difference to the next match (`Lexer.Parts`), the
two take the same one, and are the same behind it (`Lexer.take_revise`).

Calls for tokens are listed with the lexer from which each starts (`Lexer.calls`).
-/

namespace Lexical

variable {lexicon : Lexicon} (ignored : Bool → Bool) (options : LexerOptions) (kinds : List String)

/-- The match as one of the revised lexicon. -/
def Match.revise (m : Match lexicon) : Match (lexicon.revise ignored options kinds) :=
  ⟨m.state, m.entry.revise ignored, m.text, m.start, m.lineBreaks, m.after⟩

@[simp] lemma Match.token_revise (m : Match lexicon) : (m.revise ignored options kinds).token = m.token :=
  rfl

namespace Lexer

/-- The lexer as one of the revised lexicon. -/
def revise (lexer : Lexer lexicon) : Lexer (lexicon.revise ignored options kinds) :=
  ⟨lexer.base, lexer.behind, lexer.ahead, lexer.line, lexer.column, lexer.stack⟩

@[simp] lemma view_revise (lexer : Lexer lexicon) :
    (lexer.revise ignored options kinds).view = lexer.view :=
  rfl

lemma revise_reset (text : List Char) (state : Option LexerState) :
    ((initial lexicon).reset text state).revise ignored options kinds
      = (initial (lexicon.revise ignored options kinds)).reset text state := by
  cases state <;> rfl

/-! ## The next match -/

/-- The match that the state selects can be taken, but for the line breaks that its rule does not
declare. -/
structure Undeclared (lexer : Lexer lexicon) (entry : Entry lexicon.names.length Regex.Expr)
    (length : Nat) : Prop where
  left : lexer.ahead ≠ []
  chosen : lexer.table.choose lexer.ahead = some (entry, length)
  allowed : lexer.underflows? entry = none
  breaks : 0 < Text.lineBreaks (lexer.ahead.take length)
  undeclared : entry.lineBreaks = false

/-- Other options would make a difference to what comes next. -/
inductive Parts (lexer : Lexer lexicon) : Prop
  | lineBreaks {entry : Entry lexicon.names.length Regex.Expr} {length : Nat}
      (point : lexer.Undeclared entry length)
      (differ : options.strictLineBreaks ≠ lexicon.options.strictLineBreaks) : Parts lexer
  | unfinished (atEnd : lexer.ahead = []) (pushed : 1 < lexer.depth)
      (differ : options.partialInput ≠ lexicon.options.partialInput) : Parts lexer

instance (options : LexerOptions) (lexer : Lexer lexicon) : Decidable (lexer.Parts options) :=
  decidable_of_iff
    ((∃ selected ∈ lexer.table.choose lexer.ahead, lexer.ahead ≠ []
        ∧ lexer.underflows? selected.1 = none
        ∧ 0 < Text.lineBreaks (lexer.ahead.take selected.2) ∧ selected.1.lineBreaks = false
        ∧ options.strictLineBreaks ≠ lexicon.options.strictLineBreaks)
      ∨ (lexer.ahead = [] ∧ 1 < lexer.depth ∧ options.partialInput ≠ lexicon.options.partialInput)) <| by
    constructor
    · rintro (⟨selected, hchosen, hleft, hallowed, hbreaks, hundeclared, hdiffer⟩
        | ⟨hend, hpushed, hdiffer⟩)
      · exact .lineBreaks ⟨hleft, hchosen, hallowed, hbreaks, hundeclared⟩ hdiffer
      · exact .unfinished hend hpushed hdiffer
    · rintro (⟨point, hdiffer⟩ | ⟨hend, hpushed, hdiffer⟩)
      · exact .inl ⟨_, point.chosen, point.left, point.allowed, point.breaks, point.undeclared, hdiffer⟩
      · exact .inr ⟨hend, hpushed, hdiffer⟩

variable {options} in
lemma not_parts (hstrict : options.strictLineBreaks = lexicon.options.strictLineBreaks)
    (hpartial : options.partialInput = lexicon.options.partialInput) (lexer : Lexer lexicon) :
    ¬ lexer.Parts options := by
  rintro (⟨point, differ⟩ | ⟨atEnd, pushed, differ⟩)
  · exact differ hstrict
  · exact differ hpartial

lemma table_revise (lexer : Lexer lexicon) :
    (lexer.revise ignored options kinds).table = lexer.table.revise ignored :=
  Lexicon.table_revise ignored options kinds lexicon lexer.stack.top

lemma underflows?_revise (lexer : Lexer lexicon) (entry : Entry lexicon.names.length Regex.Expr) :
    (lexer.revise ignored options kinds).underflows? (entry.revise ignored)
      = lexer.underflows? entry := by
  have htransition : (entry.revise ignored).transition = entry.transition := rfl
  unfold underflows?
  rw [htransition]
  rcases entry.transition with _ | ⟨_ | _ | _⟩ <;> rfl

section Options

variable {options} {lexer : Lexer lexicon}

lemma endOfInput_revise (h : ¬ lexer.Parts options) (hahead : lexer.ahead = []) :
    (lexer.revise ignored options kinds).endOfInput = lexer.endOfInput := by
  have hdepth : (lexer.revise ignored options kinds).depth = lexer.depth := rfl
  rw [endOfInput, endOfInput, hdepth]
  by_cases hpushed : 1 < lexer.depth
  · have hpartial : options.partialInput = lexicon.options.partialInput := by
      by_contra hdiffer
      exact h (.unfinished hahead hpushed hdiffer)
    simp only [hpartial]
    rfl
  · have houter : decide (lexer.depth ≤ 1) = true := by simpa using hpushed
    rw [houter]
    rfl

lemma countLineBreaks_revise {entry : Entry lexicon.names.length Regex.Expr} {length : Nat}
    (h : ¬ lexer.Parts options) (hleft : lexer.ahead ≠ [])
    (hchosen : lexer.table.choose lexer.ahead = some (entry, length))
    (hallowed : lexer.underflows? entry = none) :
    (lexer.revise ignored options kinds).countLineBreaks (entry.revise ignored)
      (lexer.ahead.take length) = lexer.countLineBreaks entry (lexer.ahead.take length) := by
  have hdeclares : (entry.revise ignored).lineBreaks = entry.lineBreaks := rfl
  unfold countLineBreaks
  rw [hdeclares]
  by_cases hbreaks : 0 < Text.lineBreaks (lexer.ahead.take length)
  · cases hdeclared : entry.lineBreaks with
    | true => simp only [Bool.or_true, if_true]
    | false =>
      have hstrict : options.strictLineBreaks = lexicon.options.strictLineBreaks := by
        by_contra hdiffer
        exact h (.lineBreaks ⟨hleft, hchosen, hallowed, hbreaks, hdeclared⟩ hdiffer)
      simp only [hstrict]
      rfl
  · have hnone : decide (Text.lineBreaks (lexer.ahead.take length) = 0) = true := by simpa using hbreaks
    simp only [hnone, Bool.true_or, if_true]

lemma takeMatch_revise {entry : Entry lexicon.names.length Regex.Expr} {length : Nat}
    (h : ¬ lexer.Parts options) (hleft : lexer.ahead ≠ [])
    (hchosen : lexer.table.choose lexer.ahead = some (entry, length)) :
    (lexer.revise ignored options kinds).takeMatch (entry.revise ignored) length
      = (lexer.takeMatch entry length).map fun (m, rest) =>
        (m.revise ignored options kinds, rest.revise ignored options kinds) := by
  have hahead : (lexer.revise ignored options kinds).ahead = lexer.ahead := rfl
  have htransition : (entry.revise ignored).transition = entry.transition := rfl
  unfold takeMatch
  rw [underflows?_revise, hahead, htransition]
  cases hallowed : lexer.underflows? entry with
  | some error => rfl
  | none =>
    simp only
    rw [countLineBreaks_revise ignored kinds h hleft hchosen hallowed]
    cases lexer.countLineBreaks entry (lexer.ahead.take length) with
    | error error => rfl
    | ok lineBreaks => cases entry.transition <;> rfl

/-- **A revised lexer takes the same match** where the options make no difference. -/
theorem take_revise (h : ¬ lexer.Parts options) :
    (lexer.revise ignored options kinds).take = lexer.take.map fun taken =>
      taken.map fun (m, rest) => (m.revise ignored options kinds, rest.revise ignored options kinds) := by
  have hahead : (lexer.revise ignored options kinds).ahead = lexer.ahead := rfl
  unfold take
  rw [hahead]
  split_ifs with hempty
  · rw [endOfInput_revise ignored kinds h (List.isEmpty_iff.1 hempty)]
    cases lexer.endOfInput <;> rfl
  · rw [table_revise, StateTable.choose_revise]
    cases hchosen : lexer.table.choose lexer.ahead with
    | none => rfl
    | some selected =>
      obtain ⟨entry, length⟩ := selected
      have hleft : lexer.ahead ≠ [] := fun hnil => hempty (List.isEmpty_iff.2 hnil)
      simp only [Option.map_some]
      rw [takeMatch_revise ignored kinds h hleft hchosen]
      cases lexer.takeMatch entry length <;> rfl

end Options

/-! ## Calls -/

/-- Calls for tokens, one after the other: the lexer from which each starts and what it comes to. -/
def calls (lexer : Lexer lexicon) : Nat → List (Lexer lexicon × Run lexicon)
  | 0 => []
  | count + 1 => (lexer, lexer.next) :: calls lexer.next.lexer count

/-- The lexer behind a number of calls. -/
def behindCalls (lexer : Lexer lexicon) : Nat → Lexer lexicon
  | 0 => lexer
  | count + 1 => behindCalls lexer.next.lexer count

/-- What a caller sees of a call. -/
def shown (call : Lexer lexicon × Run lexicon) : Reply × View :=
  (.token call.2.result, call.2.lexer.view)

lemma calls_add (lexer : Lexer lexicon) (first more : Nat) :
    lexer.calls (first + more) = lexer.calls first ++ (lexer.behindCalls first).calls more := by
  induction first generalizing lexer with
  | zero => rw [Nat.zero_add, calls, behindCalls, List.nil_append]
  | succ first ih => rw [Nat.succ_add, calls, ih, calls, behindCalls, List.cons_append]

/-- Calls are what a caller does who only asks for tokens. -/
lemma trace_replicate_next (lexer : Lexer lexicon) (count : Nat) :
    lexer.trace (List.replicate count .next) = (lexer.calls count).map shown := by
  induction count generalizing lexer with
  | zero => rfl
  | succ count ih =>
    rw [List.replicate_succ, trace, calls, List.map_cons, ← ih]
    rfl

end Lexer

end Lexical
