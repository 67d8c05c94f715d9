import Lexical.Proofs.Lexer.Revised

/-!
# Ignoring is filtering

A lexer skips the matches of ignored rules inside of its calls.  A lexer of the same rules without
ignored ones gives a token for each of them, and one call of the former is a row of calls of the
latter (`Lexer.exists_calls_of_nextWithin`): a call for each match that is skipped, and one for what
comes at last.  So the replies of the former, with all that is seen after each, are those of the
latter, once the tokens of the rules that were ignored are left out (`Lexer.trace_eq_filter_calls`).

The rule of a token is told by its place among the declared ones (`Lexer.ruleAt?`), which is the same
for both.
-/

namespace Lexical

namespace Lexer

variable {lexicon : Lexicon}

/-- The declared rule that applies to what a lexer has to read. -/
def ruleAt? (declared : List Declaration) (lexer : Lexer lexicon) : Option Rule := do
  let (_, rules) ← declared[lexer.stack.top.val]?
  let (place, _) ← lexer.table.select? lexer.ahead
  rules[place]?

/-- The call gives no token of a rule that is declared as ignored. -/
def isKept (declared : List Declaration) (call : Lexer lexicon × Run lexicon) : Bool :=
  match call.2.result with
  | .ok (some _) => !(call.1.ruleAt? declared).any (·.isIgnored)
  | _ => true

/-- The lexer as one of the rules without ignored ones. -/
abbrev clear (kinds : List String) (lexer : Lexer lexicon) :
    Lexer (lexicon.revise (fun _ => false) lexicon.options kinds) :=
  lexer.revise (fun _ => false) lexicon.options kinds

variable {declared : List Declaration} {categories : CategoryRegistry} {options : LexerOptions}
  {lexer rest : Lexer lexicon} {m : Match lexicon} (kinds : List String)

/-! ## One match -/

/-- A match is one of the rule that applies. -/
lemma exists_implements_of_take
    (hcompiled : Lexicon.ofStates declared categories options = .ok lexicon)
    (h : lexer.take = .ok (some (m, rest))) :
    ∃ rule, lexer.ruleAt? declared = some rule ∧
      m.entry.Implements Pattern.Anchors lexicon.closure lexer.currentState rule := by
  obtain ⟨-, length, htakes⟩ := take_eq_some_iff.1 h
  obtain ⟨place, hselected, hentry⟩ := StateTable.exists_select?_of_choose htakes.chosen
  obtain ⟨rules, hdeclared, htable⟩ :=
    (Lexicon.implements_of_ofStates hcompiled).exists_declaration lexer.stack.top
  obtain ⟨rule, hrule, himplements⟩ := exists_rel_of_getElem? htable.entries.flip hentry
  have hruleAt : lexer.ruleAt? declared = some rule := by
    rw [ruleAt?, hdeclared, hselected]
    exact hrule
  exact ⟨rule, hruleAt, himplements⟩

/-- A match is ignored if the rule that applies is. -/
lemma exists_ruleAt?_of_take (hcompiled : Lexicon.ofStates declared categories options = .ok lexicon)
    (h : lexer.take = .ok (some (m, rest))) :
    ∃ rule, lexer.ruleAt? declared = some rule ∧ rule.isIgnored = m.entry.isIgnored := by
  obtain ⟨rule, hruleAt, himplements⟩ := exists_implements_of_take hcompiled h
  exact ⟨rule, hruleAt, himplements.isIgnored_eq.symm⟩

/-- The rule that applies does not depend on what is ignored. -/
lemma ruleAt?_clear (lexer : Lexer lexicon) :
    (lexer.clear kinds).ruleAt? declared = lexer.ruleAt? declared := by
  unfold ruleAt?
  rw [table_revise, StateTable.select?_revise]
  rfl

lemma take_clear (lexer : Lexer lexicon) :
    (lexer.clear kinds).take = lexer.take.map fun taken =>
      taken.map fun (m, rest) => (m.revise _ _ kinds, rest.clear kinds) :=
  take_revise _ kinds (not_parts rfl rfl lexer)

/-- Where nothing is ignored, a match is a call of its own. -/
lemma next_clear_of_take (h : lexer.take = .ok (some (m, rest))) :
    (lexer.clear kinds).next
      = ⟨[m.revise _ _ kinds], .ok (some m.token), rest.clear kinds⟩ := by
  have htake := take_clear kinds lexer
  rw [h] at htake
  have hnext := next_of_kept htake rfl
  rwa [Match.token_revise] at hnext

/-! ## One call -/

/-- A call that gives no token is one call on both sides. -/
lemma calls_one_of_no_token {result : Except LexerError (Option Token)}
    (hresult : ∀ t, result ≠ .ok (some t)) (hnext : lexer.next = ⟨[], result, lexer⟩) :
    ((lexer.calls 1).filter (isKept declared)).map shown = [(.token result, lexer.view)]
      ∧ lexer.behindCalls 1 = lexer := by
  have hkept : isKept declared (lexer, lexer.next) = true := by
    rw [hnext, isKept]
    split
    · rename_i t htoken
      exact absurd htoken (hresult t)
    · rfl
  rw [calls, calls, behindCalls, behindCalls, List.filter_cons_of_pos hkept, hnext]
  exact ⟨rfl, rfl⟩

/-- **A call is a row of calls of which the last is kept.**  The induction is on the number of matches
that are allowed. -/
lemma exists_calls_of_nextWithin
    (hcompiled : Lexicon.ofStates declared categories options = .ok lexicon) {fuel : Nat}
    (hends : ¬ (lexer.nextWithin fuel).Stalled) :
    ∃ more, (((lexer.clear kinds).calls more).filter (isKept declared)).map shown
        = [shown (lexer, lexer.nextWithin fuel)]
      ∧ (lexer.clear kinds).behindCalls more = (lexer.nextWithin fuel).lexer.clear kinds := by
  induction fuel generalizing lexer with
  | zero => exact absurd ⟨lexer.position, rfl⟩ hends
  | succ fuel ih =>
    have htake := take_clear kinds lexer
    unfold nextWithin at hends ⊢
    cases htaken : lexer.take with
    | error error =>
      rw [htaken] at htake
      exact ⟨1, calls_one_of_no_token (fun t h => by cases h) (next_of_take_error htake)⟩
    | ok taken =>
      cases taken with
      | none =>
        rw [htaken] at htake
        exact ⟨1, calls_one_of_no_token (fun t h => by cases h) (next_of_take_none htake)⟩
      | some taken =>
        obtain ⟨m, rest⟩ := taken
        rw [htaken] at hends
        obtain ⟨rule, hrule, hsame⟩ := exists_ruleAt?_of_take hcompiled htaken
        have hnext := next_clear_of_take kinds htaken
        have hkept : isKept declared (lexer.clear kinds, (lexer.clear kinds).next)
            = !m.entry.isIgnored := by
          rw [hnext, isKept]
          simp only [ruleAt?_clear, hrule, Option.any_some, hsame]
        cases hignored : m.entry.isIgnored with
        | true =>
          -- An ignored match is a call of its own on the other side, and its token is filtered
          -- out.
          simp only [hignored, if_true] at hends ⊢
          obtain ⟨more, hcalls, hbehind⟩ := ih hends
          refine ⟨more + 1, ?_, ?_⟩
          · rw [hignored] at hkept
            rw [calls, List.filter_cons_of_neg (by rw [hkept]; decide), hnext]
            exact hcalls
          · rw [behindCalls, hnext]
            exact hbehind
        | false =>
          -- The call ends here on both sides, with the same token.
          simp only [hignored, Bool.false_eq_true, if_false]
          refine ⟨1, ?_, ?_⟩
          · rw [hignored] at hkept
            rw [calls, calls, List.filter_cons_of_pos hkept, hnext]
            rfl
          · rw [behindCalls, behindCalls, hnext]

/-! ## Many calls -/

/-- The induction is on the number of calls. -/
lemma exists_calls_of_trace
    (hcompiled : Lexicon.ofStates declared categories options = .ok lexicon) {count : Nat}
    (hends : ∀ call ∈ lexer.calls count, ¬ call.2.Stalled) :
    ∃ more, lexer.trace (List.replicate count .next)
      = (((lexer.clear kinds).calls more).filter (isKept declared)).map shown := by
  rw [trace_replicate_next]
  induction count generalizing lexer with
  | zero => exact ⟨0, rfl⟩
  | succ count ih =>
    rw [calls, List.forall_mem_cons] at hends
    obtain ⟨first, hfirst, hbehind⟩ := exists_calls_of_nextWithin kinds hcompiled hends.1
    obtain ⟨more, hmore⟩ := ih hends.2
    refine ⟨first + more, ?_⟩
    rw [calls_add (lexer.clear kinds), List.filter_append, List.map_append, hfirst, hbehind, calls,
      List.map_cons, hmore]
    rfl

/-- **To ignore rules is to leave out their tokens.**  The rules without ignored ones compile, too.
As long as the calls of a lexer return, they give what calls of a lexer of those rules give, apart
from the tokens of the rules that are ignored: the same tokens, errors and ends, one after the other,
with the same position and the same states behind each. -/
theorem trace_eq_filter_calls
    (hcompiled : Lexicon.ofStates declared categories options = .ok lexicon) :
    ∃ cleared, Lexicon.ofStates (declared.map (Declaration.revise fun _ => false)) categories options
        = .ok cleared ∧
      ∀ text state count,
        (∀ call ∈ ((initial lexicon).reset text state).calls count, ¬ call.2.Stalled) →
        ∃ more, ((initial lexicon).reset text state).trace (List.replicate count .next)
          = ((((initial cleared).reset text state).calls more).filter (isKept declared)).map shown := by
  have hoptions := (Lexicon.composedOf_of_ofStates hcompiled).options_eq
  subst hoptions
  refine ⟨_, Lexicon.ofStates_revise (fun _ => false) rfl hcompiled, fun text state count hends => ?_⟩
  rw [← revise_reset]
  exact exists_calls_of_trace _ hcompiled hends

/-! ### Comments -/

/-- Words between blanks, and comments in braces, of which only the end gives a token. -/
def commentStates : List Declaration :=
  [("code", [Rule.regex "word" "[a-z]+", (Rule.regex "blank" "[ \n]+").withLineBreaks.ignore,
      ((Rule.literal "open" "\x7b").push "comment").ignore]),
    ("comment", [(Rule.regex "text" "[^\x7d]+").withLineBreaks.ignore,
      (Rule.literal "close" "\x7d").pop 1])]

def commentLexicon : Lexicon :=
  (Lexicon.ofStates commentStates .empty .standard).toOption.get (by decide +kernel)

def commentText : List Char :=
  "a \x7bb\nc\x7d \n(".toList

/-- A word, the end of a comment, and a character that no rule matches, behind two lines. -/
theorem trace_eq_filter_calls_comment :
    Lexicon.ofStates commentStates .empty .standard = .ok commentLexicon
      ∧ (∀ call ∈ ((initial commentLexicon).reset commentText none).calls 3, ¬ call.2.Stalled)
      ∧ (((initial commentLexicon).reset commentText none).trace (List.replicate 3 .next)).map
          (fun (_, view) => (view.position, view.saved.stack))
        = [(⟨1, 1, 2⟩, ["code"]), (⟨7, 2, 3⟩, ["code"]), (⟨9, 3, 1⟩, ["code"])]
      ∧ ∃ cleared, Lexicon.ofStates (commentStates.map (Declaration.revise fun _ => false)) .empty
          .standard = .ok cleared
        ∧ ∃ more, ((initial commentLexicon).reset commentText none).trace (List.replicate 3 .next)
          = ((((initial cleared).reset commentText none).calls more).filter
            (isKept commentStates)).map shown := by
  have hcompiled : Lexicon.ofStates commentStates .empty .standard = .ok commentLexicon :=
    eq_ok_get_toOption _
  have hends : ∀ call ∈ ((initial commentLexicon).reset commentText none).calls 3,
      ¬ call.2.Stalled := by decide +kernel
  obtain ⟨cleared, hcleared, htraces⟩ := trace_eq_filter_calls hcompiled
  exact ⟨hcompiled, hends, by decide +kernel, cleared, hcleared, htraces commentText none 3 hends⟩

end Lexer

end Lexical
