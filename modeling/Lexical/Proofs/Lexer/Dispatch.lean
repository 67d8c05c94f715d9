import Lexical.Proofs.Lexer.Filtering
import Lexical.Proofs.Lexer.Library

/-!
# Keywords of tokens

A token has the kind of its rule, or that of a keyword.  The keyword is looked up where the match was
found: in the state on top of the stack before the match, though the stack behind it is another one where
the rule has a transition.  Only rules with keywords of their own look any up
(`Lexicon.dispatches_of_take`), but what they find can be the keyword of another rule.

The main statement is `Lexicon.keyword_dispatch`.  It puts the tokens together with what the tables hold
and with the order of declaration, on which nothing of this depends.
-/

namespace Lexical

namespace Lexicon

variable {lexicon : Lexicon} {declared : List Declaration} {categories : CategoryRegistry}
  {options : LexerOptions}

/-- The kind of a match of a rule in a state: that of a keyword where the rule has keywords and the text
is one of those that it looks up, and else that of the rule. -/
structure Dispatches (lexicon : Lexicon) (state : Nat) (rule : Rule) (text kind : String) : Prop where
  of_keyword : rule.keywords ≠ [] → ∀ keyword,
    lexicon.keywords.resolve state rule.kind text = some keyword → kind = keyword
  of_plain : rule.keywords = [] ∨ lexicon.keywords.resolve state rule.kind text = none →
    kind = rule.kind

/-- **A match is looked up in the state in which it was found**, whatever state comes behind it. -/
lemma dispatches_of_take (hcompiled : Lexicon.ofStates declared categories options = .ok lexicon)
    {lexer rest : Lexer lexicon} {m : Match lexicon} (h : lexer.take = .ok (some (m, rest))) :
    ∃ rule, lexer.ruleAt? declared = some rule ∧
      lexicon.Dispatches lexer.stack.top.val rule m.token.text m.token.kind := by
  obtain ⟨rule, hruleAt, himplements⟩ := Lexer.exists_implements_of_take hcompiled h
  obtain ⟨-, length, htakes⟩ := Lexer.take_eq_some_iff.1 h
  have htext : m.token.text = String.ofList m.text := rfl
  have hkeyword : m.keyword? = if rule.keywords.isEmpty then none else
      lexicon.keywords.resolve lexer.stack.top.val rule.kind m.token.text := by
    unfold Match.keyword?
    rw [himplements.hasKeywords_eq, htakes.state_eq, himplements.kind_eq, htext]
    by_cases hempty : rule.keywords.isEmpty = true <;> simp [hempty]
  refine ⟨rule, hruleAt, fun hown keyword hresolve => ?_, fun hplain => ?_⟩
  · have hnonempty : ¬ rule.keywords.isEmpty = true := by rwa [List.isEmpty_iff]
    rw [if_neg hnonempty, hresolve] at hkeyword
    rw [Match.kind_token, hkeyword, Option.getD_some]
  · have hnone : m.keyword? = none := by
      rcases hplain with hempty | hresolve
      · rw [hkeyword, hempty, List.isEmpty_nil, if_pos rfl]
      · rw [hkeyword, hresolve, ite_self]
    rw [Match.kind_token, hnone, Option.getD_none, himplements.kind_eq]

/-- **Keyword dispatch.**  A text is a keyword of a kind, for the rules of one kind in a state, if one of
them lists it.  It is one of no other kind, in whatever order all this is declared.  And every token of a
lexer has the kind that this gives it in the state in which it was matched. -/
theorem keyword_dispatch (hcompiled : Lexicon.ofStates declared categories options = .ok lexicon) :
    (∀ state kind text keyword, lexicon.keywords.resolve state kind text = some keyword ↔
      ∃ rule ∈ rulesOf declared state, rule.kind = kind ∧ rule.Grants text keyword) ∧
    (∀ state, KeywordsAgree (rulesOf declared state)) ∧
    (∀ declared' categories' options' lexicon',
      Lexicon.ofStates declared' categories' options' = .ok lexicon' → ∀ state state',
        Reordered Rule.Reorders (rulesOf declared state) (rulesOf declared' state') → ∀ kind text,
          lexicon'.keywords.resolve state' kind text = lexicon.keywords.resolve state kind text) ∧
    ∀ (lexer : Lexer lexicon) t, lexer.next.result = .ok (some t) → ∃ skipped start m rule,
      Lexer.Passes lexer skipped start ∧ (∀ other ∈ skipped, other.entry.isIgnored = true) ∧
      start.take = .ok (some (m, lexer.next.lexer)) ∧ m.token = t ∧
      start.ruleAt? declared = some rule ∧
      lexicon.Dispatches start.stack.top.val rule t.text t.kind := by
  have hholds := holds_rulesOf (composedOf_of_ofStates hcompiled)
  refine ⟨hholds, fun state => (hholds state).agree, ?_, ?_⟩
  · intro declared' categories' options' lexicon' hcompiled' state state' hreordered kind text
    have hholds' := holds_rulesOf (composedOf_of_ofStates hcompiled')
    exact ((hholds state).resolve_eq (hholds' state') hreordered kind text).symm
  · intro lexer t ht
    obtain ⟨skipped, start, m, -, hpasses, hskipped, -, htake, rfl⟩ := Lexer.exists_take_of_next ht
    obtain ⟨rule, hruleAt, hdispatches⟩ := dispatches_of_take hcompiled htake
    exact ⟨skipped, start, m, rule, hpasses, hskipped, htake, rfl, hruleAt, hdispatches⟩

/-! ### Names that lead to a state with another keyword -/

/-- Names in small letters, behind which a text follows that has a keyword of its own for them. -/
def smallNames : Rule :=
  ((Rule.regex "name" "[a-z]+").withKeywords [⟨"loop", ["do", "for"], []⟩]).withTransition
    (.push "text")

/-- Names in capitals, with keywords in small letters, too. -/
def capitals (keywords : List Keyword) : Rule :=
  (Rule.regex "name" "[A-Z]+").withKeywords keywords

def branch : Keyword :=
  ⟨"branch", ["IF", "if"], []⟩

def loop : Keyword :=
  ⟨"loop", ["DO", "do"], []⟩

def textState : Declaration :=
  ("text", [(Rule.regex "name" "[a-z]+").withKeywords [⟨"word", ["if"], []⟩]])

def scopeStates : List Declaration :=
  [("code", [(Rule.literal "blank" " ").ignore, smallNames, capitals [branch, loop]]), textState]

/-- The same rules in another order, behind another state, with keywords and values in another order. -/
def reorderedStates : List Declaration :=
  [textState,
    ("code", [capitals [⟨"loop", ["do", "DO"], []⟩, ⟨"branch", ["if", "IF"], []⟩],
      smallNames, (Rule.literal "blank" " ").ignore])]

def scopeLexicon : Lexicon :=
  (Lexicon.ofStates scopeStates .empty .standard).toOption.get (by decide +kernel)

def reorderedLexicon : Lexicon :=
  (Lexicon.ofStates reorderedStates .empty .standard).toOption.get (by decide +kernel)

def scopeLexer : Lexer scopeLexicon :=
  (Lexer.initial scopeLexicon).reset " if".toList none

lemma reordered_scopeStates :
    Reordered Rule.Reorders (rulesOf scopeStates 0) (rulesOf reorderedStates 1) := by
  have hbranch : branch.Reorders ⟨"branch", ["if", "IF"], []⟩ := ⟨rfl, .swap _ _ _⟩
  have hloop : loop.Reorders ⟨"loop", ["do", "DO"], []⟩ := ⟨rfl, .swap _ _ _⟩
  have hkeywords : Reordered Keyword.Reorders [branch, loop]
      [⟨"loop", ["do", "DO"], []⟩, ⟨"branch", ["if", "IF"], []⟩] :=
    ⟨[loop, branch], .swap _ _ _, .cons hloop (.cons hbranch .nil)⟩
  exact ⟨_, (List.reverse_perm _).symm, .cons ⟨rfl, hkeywords⟩ (.cons (.refl _) (.cons (.refl _) .nil))⟩

/-- The name is looked up in the state that it leaves, where it is a keyword of the capitals. -/
theorem keyword_dispatch_scopeLexer :
    Lexicon.ofStates scopeStates .empty .standard = .ok scopeLexicon ∧
      scopeLexicon.keywords.resolve 0 "name" "if" = some "branch" ∧
      scopeLexicon.keywords.resolve 1 "name" "if" = some "word" ∧
      reorderedLexicon.keywords.resolve 1 "name" "if" = some "branch" ∧
      scopeLexer.next.lexer.currentState = "text" ∧
      ∃ t, scopeLexer.next.result = .ok (some t) ∧ ∃ skipped start m rule,
        Lexer.Passes scopeLexer skipped start ∧
        start.take = .ok (some (m, scopeLexer.next.lexer)) ∧ m.token = t ∧
        start.ruleAt? scopeStates = some rule ∧
        scopeLexicon.Dispatches start.stack.top.val rule t.text t.kind ∧ t.kind = "branch" := by
  have hcompiled : Lexicon.ofStates scopeStates .empty .standard = .ok scopeLexicon :=
    eq_ok_get_toOption _
  have hreordered : Lexicon.ofStates reorderedStates .empty .standard = .ok reorderedLexicon :=
    eq_ok_get_toOption _
  obtain ⟨hresolve, -, horder, htoken⟩ := keyword_dispatch hcompiled
  have hcapitals : capitals [branch, loop] ∈ rulesOf scopeStates 0 := by simp [scopeStates]
  have hlists : branch ∈ (capitals [branch, loop]).keywords := by decide
  have hbranch : scopeLexicon.keywords.resolve 0 "name" "if" = some "branch" :=
    (hresolve 0 "name" "if" "branch").2 ⟨_, hcapitals, rfl, branch, hlists, by decide, rfl⟩
  have hword : scopeLexicon.keywords.resolve 1 "name" "if" = some "word" := by decide +kernel
  have hsame := horder _ _ _ _ hreordered 0 1 reordered_scopeStates "name" "if"
  have hresult : scopeLexer.next.result.toOption.join.map Token.kind = some "branch" := by
    decide +kernel
  obtain ⟨t, ht, hkind⟩ := Lexer.exists_token_of_map hresult
  obtain ⟨skipped, start, m, rule, hpasses, -, htake, hm, hrule, hdispatches⟩ := htoken scopeLexer t ht
  exact ⟨hcompiled, hbranch, hword, hsame.trans hbranch, by decide +kernel, t, ht, skipped, start, m,
    rule, hpasses, htake, hm, hrule, hdispatches, hkind⟩

end Lexicon

end Lexical
