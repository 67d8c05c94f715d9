import Lexical.Proofs.Lexer.Library
import Lexical.Proofs.Lexer.Patience

/-!
# Failing calls

A call for a token can fail for four reasons: nothing matches, the text ends in a pushed state, the
match pops too many states, or it holds line breaks that have to be declared (`Lexer.Fails`).  Each of
them is found out before anything is changed, so what a failing call leaves behind is the lexer that
could not take its next match, at the position of the error.  It may have skipped ignored matches on
the way there, but it has nothing else to show for the call, and to call it again fails in the same
way for ever (`Lexer.next_error_stable`).
-/

namespace Lexical

namespace Lexer

variable {lexicon : Lexicon} {lexer last : Lexer lexicon} {error : LexerError}
  {taken : List (Match lexicon)}

/-! ## One match -/

/-- Why a lexer cannot take a match. -/
inductive Fails (lexer : Lexer lexicon) : LexerError → Prop
  | unmatched (left : lexer.ahead ≠ []) (nothing : lexer.table.choose lexer.ahead = none) :
      Fails lexer (.noMatch lexer.position lexer.currentState lexer.ahead.head?)
  | unfinished (atEnd : lexer.ahead = []) (pushed : 1 < lexer.depth)
      (whole : lexicon.options.partialInput = false) :
      Fails lexer (.noMatch lexer.position lexer.currentState none)
  | refused {entry : Entry lexicon.names.length Regex.Expr} {length : Nat} {error : LexerError}
      (left : lexer.ahead ≠ []) (chosen : lexer.table.choose lexer.ahead = some (entry, length))
      (refuses : lexer.Refuses entry (lexer.ahead.take length) error) : Fails lexer error

lemma Fails.position_eq (h : lexer.Fails error) : error.position = lexer.position := by
  cases h with
  | unmatched left nothing => rfl
  | unfinished atEnd pushed whole => rfl
  | refused left chosen refuses => cases refuses <;> rfl

/-- A lexer that does not take a match has one of the reasons, and it is where it was. -/
lemma fails_of_take (h : lexer.take = .error error) : lexer.Fails error := by
  unfold take at h
  split_ifs at h with hempty
  -- At the end of the text it is an error that states are still pushed, unless partial input is
  -- allowed.
  · have hahead : lexer.ahead = [] := List.isEmpty_iff.1 hempty
    unfold endOfInput at h
    split_ifs at h with hfine
    · cases h
    · obtain rfl := Except.error.inj h
      simp only [Bool.or_eq_true, decide_eq_true_eq, not_or, Bool.not_eq_true, not_le] at hfine
      exact .unfinished hahead hfine.1 hfine.2
  · have hahead : lexer.ahead ≠ [] := fun hnil => hempty (List.isEmpty_iff.2 hnil)
    split at h
    · rename_i hnone
      obtain rfl := Except.error.inj h
      exact .unmatched hahead hnone
    · rename_i entry length hchosen
      cases hmatch : lexer.takeMatch entry length with
      | ok matched =>
        rw [hmatch] at h
        cases h
      | error refusal =>
        rw [hmatch] at h
        obtain rfl : refusal = error := Except.error.inj h
        exact .refused hahead hchosen (refuses_of_takeMatch_eq_error hmatch)

/-! ## One call -/

lemma next_of_take_error (h : lexer.take = .error error) : lexer.next = ⟨[], .error error, lexer⟩ := by
  unfold next patience nextWithin
  rw [h]

lemma next_of_take_none (h : lexer.take = .ok none) : lexer.next = ⟨[], .ok none, lexer⟩ := by
  unfold next patience nextWithin
  rw [h]

/-- A call that fails, and not for want of patience, has skipped ignored matches up to one that cannot
be taken. -/
lemma skipped_of_next_error (h : lexer.next.result = .error error) (hends : ¬ lexer.next.Stalled) :
    Passes lexer lexer.next.taken lexer.next.lexer
      ∧ (∀ m ∈ lexer.next.taken, m.entry.isIgnored = true)
      ∧ lexer.next.lexer.take = .error error := by
  obtain ⟨hpasses, hend⟩ := passes_nextWithin lexer.patience lexer
  refine ⟨hpasses, ?_⟩
  -- The result is named before the run is generalized, so that the four ends can be told apart by
  -- it.
  have hresult : (lexer.nextWithin lexer.patience).result = .error error := h
  have hstalls : ¬ (lexer.nextWithin lexer.patience).Stalled := hends
  show (∀ m ∈ (lexer.nextWithin lexer.patience).taken, m.entry.isIgnored = true)
    ∧ (lexer.nextWithin lexer.patience).lexer.take = .error error
  generalize lexer.nextWithin lexer.patience = run at hend hresult hstalls
  cases hend with
  | token skipped kept => cases hresult
  | nothing skipped atEnd => cases hresult
  | failed skipped failure =>
    obtain rfl := Except.error.inj hresult
    exact ⟨skipped, failure⟩
  | stalled skipped exhausted => exact absurd ⟨_, rfl⟩ hstalls

/-- Where no rule is ignored, no match is. -/
lemma Passes.eq_of_ignored {declared : List Declaration} {categories : CategoryRegistry}
    {options : LexerOptions}
    (hcompiled : Lexicon.ofStates declared categories options = .ok lexicon)
    (hkept : ∀ declaration ∈ declared, ∀ rule ∈ declaration.2, rule.isIgnored = false)
    (hpasses : Passes lexer taken last) (hignored : ∀ m ∈ taken, m.entry.isIgnored = true) :
    last = lexer := by
  cases hpasses with
  | nil => rfl
  -- The first match would be one of a rule that is ignored.
  | @cons _ rest _ m others first more =>
    obtain ⟨-, length, htakes⟩ := take_eq_some_iff.1 first
    obtain ⟨declaration, rule, hdeclaration, hrule, hentry⟩ := htakes.exists_rule hcompiled
    have hrules := hkept declaration (List.mem_of_getElem? hdeclaration) rule hrule
    have hm := hignored m List.mem_cons_self
    rw [hentry.isIgnored_eq, hrules] at hm
    cases hm

/-! ## Many calls -/

/-- A lexer that cannot take a match stays as it is.  The induction is on the number of calls. -/
lemma calls_of_take_error (h : lexer.take = .error error) (count : Nat) :
    lexer.performAll (List.replicate count .next) = lexer
      ∧ lexer.trace (List.replicate count .next)
        = List.replicate count (.token (.error error), lexer.view) := by
  have hnext := next_of_take_error h
  have hperform : lexer.perform .next = (.token (.error error), lexer) := by
    rw [perform, hnext]
  induction count with
  | zero => exact ⟨rfl, rfl⟩
  | succ count ih =>
    obtain ⟨hall, htrace⟩ := ih
    rw [List.replicate_succ, List.replicate_succ, performAll, trace, hperform]
    exact ⟨hall, congrArg (List.cons _) htrace⟩

/-- A change by hand that fails changes nothing. -/
lemma settleChange_of_error {outcome : Except LexerError (Lexer lexicon × Event)}
    (h : (lexer.settleChange outcome).1 = .changed (.error error)) :
    (lexer.settleChange outcome).2 = lexer := by
  cases outcome with
  | error refusal => rfl
  | ok changed => cases h

lemma perform_of_changed_error {command : Command}
    (h : (lexer.perform command).1 = .changed (.error error)) : (lexer.perform command).2 = lexer := by
  cases command with
  | next => cases h
  | setState name => exact settleChange_of_error h
  | pushState name => exact settleChange_of_error h
  | popState => exact settleChange_of_error h

/-- **Failures take nothing, and they are stable.**  A call for a token that fails leaves the lexer at
the position of the error, where the next match cannot be taken.  What lies between is a row of
ignored matches, which is empty where no rule is ignored.  However often the call is made again, it
fails with the same error, and nothing is changed any more.  A change of the stack by hand that fails
changes nothing either. -/
theorem next_error_stable {declared : List Declaration} {categories : CategoryRegistry}
    {options : LexerOptions}
    (hcompiled : Lexicon.ofStates declared categories options = .ok lexicon)
    (lexer : Lexer lexicon) :
    (∀ error, lexer.next.result = .error error → ¬ lexer.next.Stalled →
      lexer.next.lexer.Fails error
        ∧ lexer.next.lexer.position = error.position
        ∧ Passes lexer lexer.next.taken lexer.next.lexer
        ∧ (∀ m ∈ lexer.next.taken, m.entry.isIgnored = true)
        ∧ ((∀ declaration ∈ declared, ∀ rule ∈ declaration.2, rule.isIgnored = false) →
          lexer.next.lexer = lexer)
        ∧ ∀ count,
          lexer.next.lexer.performAll (List.replicate count .next) = lexer.next.lexer
            ∧ lexer.next.lexer.trace (List.replicate count .next)
              = List.replicate count (.token (.error error), lexer.next.lexer.view))
      ∧ ∀ command error, (lexer.perform command).1 = .changed (.error error) →
        (lexer.perform command).2 = lexer := by
  refine ⟨fun error herror hends => ?_, fun command error => perform_of_changed_error⟩
  obtain ⟨hpasses, hignored, htake⟩ := skipped_of_next_error herror hends
  have hfails := fails_of_take htake
  exact ⟨hfails, hfails.position_eq.symm, hpasses, hignored,
    fun hkept => hpasses.eq_of_ignored hcompiled hkept hignored, calls_of_take_error htake⟩

/-! ### A bracket that closes more than is open -/

/-- An ignored bracket pushes a state, and its partner closes two of them. -/
def closingStates : List Declaration :=
  [("outside", [(Rule.literal "blank" " ").ignore, ((Rule.literal "open" "(").push "inside").ignore]),
    ("inside", [(Rule.literal "close" ")").pop 2])]

def closingLexicon : Lexicon :=
  (Lexicon.ofStates closingStates .empty .standard).toOption.get (by decide +kernel)

def closingLexer : Lexer closingLexicon :=
  (initial closingLexicon).reset " ()".toList none

/-- The blank and the open bracket are skipped, and the state that was pushed stays. -/
theorem next_error_stable_closingLexer :
    Lexicon.ofStates closingStates .empty .standard = .ok closingLexicon
      ∧ closingLexer.next.result = .error (.stateUnderflow ⟨2, 1, 3⟩ 2 2)
      ∧ ¬ closingLexer.next.Stalled ∧ closingLexer.next.taken.length = 2
      ∧ closingLexer.next.lexer.view = ⟨⟨2, 1, 3⟩, 2, "inside", ⟨2, 1, 3, ["outside", "inside"]⟩⟩
      ∧ ∀ count, closingLexer.next.lexer.trace (List.replicate count .next)
        = List.replicate count
          (.token (.error (.stateUnderflow ⟨2, 1, 3⟩ 2 2)), closingLexer.next.lexer.view) := by
  have hcompiled : Lexicon.ofStates closingStates .empty .standard = .ok closingLexicon :=
    eq_ok_get_toOption _
  have htaken : closingLexer.next.taken.length = 2 := by decide +kernel
  have hview : closingLexer.next.lexer.view
      = ⟨⟨2, 1, 3⟩, 2, "inside", ⟨2, 1, 3, ["outside", "inside"]⟩⟩ := by decide +kernel
  have hresult : closingLexer.next.result = .error (.stateUnderflow ⟨2, 1, 3⟩ 2 2) := by rfl
  have hends : ¬ closingLexer.next.Stalled := by
    rintro ⟨position, hstalled⟩
    rw [hresult] at hstalled
    cases hstalled
  obtain ⟨-, -, -, -, -, hcalls⟩ :=
    (next_error_stable hcompiled closingLexer).1 _ hresult hends
  exact ⟨hcompiled, hresult, hends, htaken, hview, fun count => (hcalls count).2⟩

end Lexer

end Lexical
