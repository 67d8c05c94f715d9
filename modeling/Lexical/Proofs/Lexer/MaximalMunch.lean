import Lexical.Proofs.Lexer.Take
import Lexical.Proofs.Lexicon.Selection

/-!
# Maximal munch

`Lexer.next` takes, match by match, what the rules of the current state select from the unread text
(`Selects`).  The main result is `Lexer.next_maximalMunch`: it speaks of the states and rules as
they were declared, and of what each pattern matches by itself, so nothing of the way in which a
lexicon is put together is left in it.
-/

namespace Lexical

namespace Lexer

variable {lexicon : Lexicon} {declared : List Declaration}

/-! ## One match -/

/-- What is taken of an entry is the text of the given length. -/
lemma takeMatch_eq_ok {lexer rest : Lexer lexicon} {entry : Entry lexicon.names.length Regex.Expr}
    {length : Nat} {m : Match lexicon} (h : lexer.takeMatch entry length = .ok (m, rest)) :
    m.state = lexer.stack.top ∧ m.entry = entry ∧ m.text = lexer.ahead.take length
      ∧ m.start = lexer.position := by
  unfold takeMatch at h
  split at h
  · cases h
  · obtain ⟨lineBreaks, -, h⟩ := except_bind_eq_ok_iff.1 h
    obtain ⟨rfl, rfl⟩ := Prod.mk.inj (Except.ok.inj h)
    exact ⟨rfl, rfl, rfl, rfl⟩

/-- Why the match of an entry cannot be taken: it would pop too many states, or it holds line breaks
that have to be declared. -/
inductive Refuses (lexer : Lexer lexicon) (entry : Entry lexicon.names.length Regex.Expr)
    (text : List Char) : LexerError → Prop
  | underflow {count : Nat} (pops : entry.transition = some (.pop count))
      (too_many : lexer.depth ≤ count) :
      Refuses lexer entry text (.stateUnderflow lexer.position count lexer.depth)
  | lineBreaks (strict : lexicon.options.strictLineBreaks = true)
      (undeclared : entry.lineBreaks = false) (breaks : 0 < Text.lineBreaks text) :
      Refuses lexer entry text (.undeclaredLineBreak lexer.position entry.kind)

lemma refuses_of_takeMatch_eq_error {lexer : Lexer lexicon}
    {entry : Entry lexicon.names.length Regex.Expr} {length : Nat} {error : LexerError}
    (h : lexer.takeMatch entry length = .error error) :
    lexer.Refuses entry (lexer.ahead.take length) error := by
  unfold takeMatch at h
  split at h
  · rename_i hunderflow
    obtain rfl := Except.error.inj h
    unfold underflows? at hunderflow
    split at hunderflow
    · rename_i hpops
      split_ifs at hunderflow with hdepth
      obtain rfl := Option.some.inj hunderflow
      exact .underflow hpops hdepth
    · cases hunderflow
  · unfold countLineBreaks at h
    simp only at h
    split_ifs at h with hcounts hstrict
    · cases h
    -- Line breaks are an error only where there are some and the rule does not declare them.
    · obtain rfl := Except.error.inj h
      simp only [Bool.or_eq_true, decide_eq_true_eq, not_or, Bool.not_eq_true] at hcounts
      exact .lineBreaks hstrict hcounts.2 (Nat.pos_of_ne_zero hcounts.1)
    · cases h

/-! ## What the lexer takes -/

section Selecting

variable {categories : CategoryRegistry} {options : LexerOptions}

/-- The lexer takes the match that the rules of its state select. -/
lemma take_selects_of_implements {lexer : Lexer lexicon} {rules : List Rule}
    (htable : lexer.table.Implements lexicon.closure (lexer.currentState, rules))
    (hvalid : ∀ rule ∈ rules, rule.SourcesValid) (hahead : lexer.ahead ≠ []) :
    ∃ selected, Selects rules lexer.ahead selected ∧
      match selected with
      | none =>
        lexer.take = .error (.noMatch lexer.position lexer.currentState lexer.ahead.head?)
      | some (index, length) => ∃ rule entry, rules[index]? = some rule
          ∧ entry.Implements Pattern.Anchors lexicon.closure lexer.currentState rule
          ∧ lexer.take = (lexer.takeMatch entry length).map some := by
  have hchoose := htable.choose_selects hvalid lexer.ahead
  have hleft : ¬ lexer.ahead.isEmpty = true := by simpa using hahead
  rw [take, if_neg hleft]
  cases hchosen : lexer.table.choose lexer.ahead with
  | none =>
    rw [hchosen] at hchoose
    exact ⟨none, hchoose, rfl⟩
  | some chosen =>
    rw [hchosen] at hchoose
    obtain ⟨index, rule, hselects, hrule, hentry⟩ := hchoose
    exact ⟨some (index, chosen.2), hselects, rule, chosen.1, hrule, hentry, rfl⟩

lemma take_selects (hcompiled : Lexicon.ofStates declared categories options = .ok lexicon)
    (hvalid : ∀ declaration ∈ declared, ∀ rule ∈ declaration.2, rule.SourcesValid)
    (lexer : Lexer lexicon) (hahead : lexer.ahead ≠ []) :
    ∃ rules selected, (lexer.currentState, rules) ∈ declared ∧ Selects rules lexer.ahead selected ∧
      match selected with
      | none =>
        lexer.take = .error (.noMatch lexer.position lexer.currentState lexer.ahead.head?)
      | some (index, length) => ∃ rule entry, rules[index]? = some rule
          ∧ entry.Implements Pattern.Anchors lexicon.closure lexer.currentState rule
          ∧ lexer.take = (lexer.takeMatch entry length).map some := by
  obtain ⟨rules, hdeclared, htable⟩ :=
    (Lexicon.implements_of_ofStates hcompiled).exists_declaration lexer.stack.top
  replace hdeclared := List.mem_of_getElem? hdeclared
  obtain ⟨selected, hselects⟩ := take_selects_of_implements htable (hvalid _ hdeclared) hahead
  exact ⟨rules, selected, hdeclared, hselects⟩

/-- The first thing that is done for a token is to take the match of an entry, unless that is
refused for a reason. -/
def BeginsWith (lexer : Lexer lexicon) (entry : Entry lexicon.names.length Regex.Expr)
    (length : Nat) : Prop :=
  (∃ m, lexer.next.taken.head? = some m ∧ m.state = lexer.stack.top ∧ m.entry = entry
      ∧ m.start = lexer.position ∧ m.text = lexer.ahead.take length)
    ∨ ∃ error, lexer.Refuses entry (lexer.ahead.take length) error
      ∧ lexer.next = ⟨[], .error error, lexer⟩

lemma beginsWith_of_take {lexer : Lexer lexicon} {entry : Entry lexicon.names.length Regex.Expr}
    {length : Nat} (h : lexer.take = (lexer.takeMatch entry length).map some) :
    lexer.BeginsWith entry length := by
  -- A call may take at least one match, so its first round is not cut off by its patience.
  unfold BeginsWith next patience nextWithin
  cases htaken : lexer.takeMatch entry length with
  | error error =>
    rw [h, htaken]
    exact .inr ⟨error, refuses_of_takeMatch_eq_error htaken, rfl⟩
  | ok taken =>
    obtain ⟨m, rest⟩ := taken
    obtain ⟨hstate, hentry, htext, hstart⟩ := takeMatch_eq_ok htaken
    rw [h, htaken]
    refine .inl ⟨m, ?_, hstate, hentry, hstart, htext⟩
    -- Whether the match is ignored decides what follows it, but not that it is taken.
    simp only [Except.map]
    split_ifs <;> rfl

/-- **Maximal munch.**  A lexer with text left takes, for the next token, the match with the most
bytes among all rules of its state that match, of the earliest rule with as many; special rules
apply where no pattern matches, and the error that nothing matches is reported where there are none
of them either. -/
theorem next_maximalMunch (hcompiled : Lexicon.ofStates declared categories options = .ok lexicon)
    (hvalid : ∀ declaration ∈ declared, ∀ rule ∈ declaration.2, rule.SourcesValid)
    (lexer : Lexer lexicon) (hahead : lexer.ahead ≠ []) :
    ∃ rules selected, (lexer.currentState, rules) ∈ declared ∧ Selects rules lexer.ahead selected ∧
      match selected with
      | none => lexer.next =
          ⟨[], .error (.noMatch lexer.position lexer.currentState lexer.ahead.head?), lexer⟩
      | some (index, length) => ∃ rule entry, rules[index]? = some rule
          ∧ entry.Implements Pattern.Anchors lexicon.closure lexer.currentState rule
          ∧ lexer.BeginsWith entry length := by
  obtain ⟨rules, selected, hdeclared, hselects, htake⟩ := take_selects hcompiled hvalid lexer hahead
  refine ⟨rules, selected, hdeclared, hselects, ?_⟩
  cases selected with
  | none =>
    simp only at htake ⊢
    unfold next patience nextWithin
    rw [htake]
  | some chosen =>
    obtain ⟨rule, entry, hrule, hentry, htake⟩ := htake
    exact ⟨rule, entry, hrule, hentry, beginsWith_of_take htake⟩

/-! ### A tie between rules around a fallback -/

/-- Names and a pair of letters that is a name, too; what is between them is a gap. -/
def gapStates : List Declaration :=
  [("text", [.fallback "gap", .regex "name" "[a-c]+", .literal "pair" "ab"])]

def gapLexicon : Lexicon :=
  (Lexicon.ofStates gapStates .empty .standard).toOption.get (by decide +kernel)

def gapLexer : Lexer gapLexicon :=
  (initial gapLexicon).reset "ab-".toList none

/-- Both patterns match two characters, and the name is the earlier rule. -/
theorem next_maximalMunch_gapLexer :
    Lexicon.ofStates gapStates .empty .standard = .ok gapLexicon ∧
      (∀ declaration ∈ gapStates, ∀ rule ∈ declaration.2, rule.SourcesValid) ∧
      gapLexer.ahead ≠ [] ∧
      (gapLexer.next.taken.map fun m => (m.entry.kind, m.text)) = [("name", ['a', 'b'])] ∧
      ∃ rules selected, (gapLexer.currentState, rules) ∈ gapStates ∧
        Selects rules gapLexer.ahead selected ∧
        match selected with
        | none => gapLexer.next = ⟨[], .error (.noMatch gapLexer.position gapLexer.currentState
            gapLexer.ahead.head?), gapLexer⟩
        | some (index, length) => ∃ rule entry, rules[index]? = some rule
            ∧ entry.Implements Pattern.Anchors gapLexicon.closure gapLexer.currentState rule
            ∧ gapLexer.BeginsWith entry length := by
  have hcompiled : Lexicon.ofStates gapStates .empty .standard = .ok gapLexicon :=
    eq_ok_get_toOption _
  have hvalid : ∀ declaration ∈ gapStates, ∀ rule ∈ declaration.2, rule.SourcesValid := by
    intro declaration hdeclaration rule hrule pattern hpattern
    obtain rfl := List.mem_singleton.1 hdeclaration
    simp only [List.mem_cons, List.not_mem_nil, or_false] at hrule
    rcases hrule with rfl | rfl | rfl <;> cases hpattern
    · change (Regex.Expr.ofText? _).isSome = true
      decide +kernel
    · trivial
  have hahead : gapLexer.ahead ≠ [] := by decide
  have htaken : (gapLexer.next.taken.map fun m => (m.entry.kind, m.text))
      = [("name", ['a', 'b'])] := by
    decide +kernel
  exact ⟨hcompiled, hvalid, hahead, htaken, next_maximalMunch hcompiled hvalid gapLexer hahead⟩

/-! ## The whole run -/

/-- A match is what the declared rules select where a lexer is. -/
def Munches (declared : List Declaration) (lexer : Lexer lexicon) (m : Match lexicon) : Prop :=
  ∃ rules index length rule, (lexer.currentState, rules) ∈ declared
    ∧ Selects rules lexer.ahead (some (index, length)) ∧ rules[index]? = some rule
    ∧ m.entry.Implements Pattern.Anchors lexicon.closure lexer.currentState rule
    ∧ m.state = lexer.stack.top ∧ m.start = lexer.position ∧ m.text = lexer.ahead.take length

lemma munches_of_take_eq_ok (hcompiled : Lexicon.ofStates declared categories options = .ok lexicon)
    (hvalid : ∀ declaration ∈ declared, ∀ rule ∈ declaration.2, rule.SourcesValid)
    {lexer rest : Lexer lexicon} {m : Match lexicon} (h : lexer.take = .ok (some (m, rest))) :
    lexer.Munches declared m := by
  obtain ⟨hahead, -⟩ := take_eq_some_iff.1 h
  obtain ⟨rules, selected, hdeclared, hselects, htake⟩ := take_selects hcompiled hvalid lexer hahead
  cases selected with
  | none =>
    simp only [h] at htake
    cases htake
  | some chosen =>
    obtain ⟨rule, entry, hrule, hentry, htake⟩ := htake
    rw [h] at htake
    obtain ⟨_, htaken, hsame⟩ := except_map_eq_ok_iff.1 htake.symm
    obtain rfl := Option.some.inj hsame
    obtain ⟨hstate, rfl, htext, hstart⟩ := takeMatch_eq_ok htaken
    exact ⟨rules, chosen.1, chosen.2, rule, hdeclared, hselects, hrule, hentry, hstate, hstart, htext⟩

/-- **All matches on the way to a token are selected**, those that give no tokens included. -/
theorem exists_munches_of_mem_taken
    (hcompiled : Lexicon.ofStates declared categories options = .ok lexicon)
    (hvalid : ∀ declaration ∈ declared, ∀ rule ∈ declaration.2, rule.SourcesValid) {fuel : Nat}
    {lexer : Lexer lexicon} {m : Match lexicon} (h : m ∈ (lexer.nextWithin fuel).taken) :
    ∃ before : Lexer lexicon, before.Munches declared m ∧ before.ahead <:+ lexer.ahead := by
  obtain ⟨hpasses, -⟩ := passes_nextWithin fuel lexer
  obtain ⟨_, before, _, _, hbefore, htake, -⟩ := hpasses.exists_take h
  exact ⟨before, munches_of_take_eq_ok hcompiled hvalid htake, hbefore.suffix⟩

end Selecting

end Lexer

end Lexical
