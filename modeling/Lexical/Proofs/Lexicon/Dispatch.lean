import Lexical.Proofs.Lexicon.WellFormed
import Mathlib.Logic.Relation

/-!
# The keywords of a state

Compiling registers the keywords of all states in one dispatcher, rule by rule.  What comes out of it has
no trace of that order.  The tables of a state look up just the keywords of its own rules
(`Lexicon.holds_rulesOf`), since the states before it and behind it use tables of their own; so where two
lexicons have the same rules for a state in another order, with the keywords of a rule and the values of a
keyword in another order, they look up the same (`KeywordDispatcher.Holds.resolve_eq`).
-/

namespace Lexical

/-! ## Registering in one state -/

namespace KeywordDispatcher

variable {dispatcher : KeywordDispatcher} {state other : Nat}

/-- What a state looks up is in its tables. -/
lemma Holds.congr {dispatcher' : KeywordDispatcher} {rules : List Rule}
    (h : dispatcher.Holds state rules)
    (hsame : ∀ kind, dispatcher'.table state kind = dispatcher.table state kind) :
    dispatcher'.Holds state rules := by
  intro kind text keyword
  rw [resolve, hsame]
  exact h kind text keyword

end KeywordDispatcher

/-! ## Compiling -/

/-- The rules that are declared for the state in a place, none where there is no state. -/
def rulesOf (declared : List Declaration) (state : Nat) : List Rule :=
  (declared[state]?.map (·.2)).getD []

@[simp]
lemma rulesOf_nil (state : Nat) : rulesOf [] state = [] :=
  rfl

@[simp]
lemma rulesOf_cons_zero (declaration : Declaration) (declared : List Declaration) :
    rulesOf (declaration :: declared) 0 = declaration.2 :=
  rfl

@[simp]
lemma rulesOf_cons_succ (declaration : Declaration) (declared : List Declaration) (state : Nat) :
    rulesOf (declaration :: declared) (state + 1) = rulesOf declared state :=
  rfl

section Compiling

variable {names : List String} {closure : String → CategorySet} {index other : Nat}
  {keywords keywords' : KeywordDispatcher}

/-- Rules that compile add their keywords to those before them.  The induction is on the rules. -/
lemma KeywordDispatcher.Holds.of_compileRules {state : String} {rules done : List Rule}
    {before entries : List (Entry names.length (List Char))} (hdone : keywords.Holds index done)
    (h : compileRules names closure index state before keywords rules = .ok (entries, keywords')) :
    keywords'.Holds index (done ++ rules) := by
  induction rules generalizing done before keywords with
  | nil =>
    obtain ⟨-, rfl⟩ := Prod.mk.inj (Except.ok.inj h)
    rwa [List.append_nil]
  | cons rule rules ih =>
    obtain ⟨entry, registered, -, hregistered, h⟩ := compileRules_cons_eq_ok h
    have hregister := hdone.register rule
    rw [hregistered] at hregister
    have hsplit : done ++ rule :: rules = done ++ [rule] ++ rules := by simp
    rw [hsplit]
    exact ih (hregister rfl) h

/-- States that compile have tables with just the keywords of their own rules.  The induction is on the
states; a state finds its tables unused, and no later one changes them. -/
lemma holds_of_compileStates {declared : List Declaration}
    {tables : { tables : List (StateTable names.length) // tables.length = declared.length }}
    (hunused : ∀ state, index ≤ state → keywords.Unused state)
    (h : compileStates names closure index keywords declared = .ok (tables, keywords'))
    (place : Nat) :
    keywords'.Holds (index + place) (rulesOf declared place) := by
  induction declared generalizing index keywords place with
  | nil =>
    obtain ⟨-, rfl⟩ := Prod.mk.inj (Except.ok.inj h)
    rw [rulesOf_nil]
    exact (hunused (index + place) (Nat.le_add_right index place)).holds
  | cons declaration rest ih =>
    obtain ⟨name, rules⟩ := declaration
    obtain ⟨-, entries, registered, table, tables', hentries, -, htables, -⟩ :=
      compileStates_cons_eq_ok h
    cases place with
    | zero =>
      have hfirst : registered.Holds index ([] ++ rules) :=
        (hunused index (Nat.le_refl index)).holds.of_compileRules hentries
      exact hfirst.congr (table_of_compileStates htables (Nat.lt_succ_self index))
    | succ place =>
      have hlater : ∀ state, index + 1 ≤ state → registered.Unused state := fun state hstate =>
        (hunused state (by omega)).of_compileRules (by omega) hentries
      rw [rulesOf_cons_succ, show index + (place + 1) = index + 1 + place by omega]
      exact ih hlater htables place

end Compiling

/-- **The tables of a state look up just the keywords of its rules.** -/
theorem Lexicon.holds_rulesOf {lexicon : Lexicon} {declared : List Declaration}
    {categories : CategoryRegistry} {options : LexerOptions}
    (h : lexicon.ComposedOf declared categories options) (state : Nat) :
    lexicon.keywords.Holds state (rulesOf declared state) := by
  obtain ⟨tables, hstates, -⟩ := h.states
  have hempty : ∀ state, 0 ≤ state → KeywordDispatcher.empty.Unused state :=
    fun state _ kind text keyword hclaim => by cases hclaim
  have hholds := holds_of_compileStates hempty hstates state
  rwa [Nat.zero_add] at hholds

/-- **A keyword belongs to a rule of the kind that was matched**, in the same state. -/
theorem Lexicon.exists_grants_of_resolve {lexicon : Lexicon} {declared : List Declaration}
    {categories : CategoryRegistry} {options : LexerOptions}
    (h : lexicon.ComposedOf declared categories options) {state : Nat} {declaration : Declaration}
    (hdeclaration : declared[state]? = some declaration) {kind text keyword : String}
    (hresolve : lexicon.keywords.resolve state kind text = some keyword) :
    ∃ rule ∈ declaration.2, rule.kind = kind ∧ rule.Grants text keyword := by
  have hrules : rulesOf declared state = declaration.2 := by
    rw [rulesOf, hdeclaration]
    rfl
  rw [← hrules]
  exact (holds_rulesOf h state kind text keyword).1 hresolve

/-! ## Another order -/

/-- One list is the other in some order, up to what relates their members. -/
def Reordered {α : Type} (R : α → α → Prop) : List α → List α → Prop :=
  Relation.Comp List.Perm (List.Forall₂ R)

/-- The same kind of keyword, with its values in another order. -/
structure Keyword.Reorders (keyword other : Keyword) : Prop where
  kind_eq : keyword.kind = other.kind
  values : keyword.values.Perm other.values

/-- A rule of the same kind, with its keywords in another order.  What else a rule says does not
matter. -/
structure Rule.Reorders (rule other : Rule) : Prop where
  kind_eq : rule.kind = other.kind
  keywords : Reordered Keyword.Reorders rule.keywords other.keywords

namespace Reordered

variable {α : Type} {R : α → α → Prop} {as bs : List α}

lemma of_perm (hrefl : ∀ a, R a a) (h : as.Perm bs) : Reordered R as bs :=
  ⟨bs, h, List.forall₂_same.2 fun a _ => hrefl a⟩

/-- What is said of some member does not depend on the order. -/
lemma exists_mem_iff {p : α → Prop} (h : Reordered R as bs) (hp : ∀ a b, R a b → (p a ↔ p b)) :
    (∃ a ∈ as, p a) ↔ ∃ b ∈ bs, p b := by
  obtain ⟨cs, hperm, hrel⟩ := h
  have hsame : (∃ c ∈ cs, p c) ↔ ∃ b ∈ bs, p b := by
    clear hperm
    induction hrel with
    | nil => rfl
    | cons hhead _ ih => simp only [List.mem_cons, exists_eq_or_imp, hp _ _ hhead, ih]
  rw [← hsame]
  exact exists_congr fun a => and_congr_left' hperm.mem_iff

end Reordered

lemma Keyword.Reorders.refl (keyword : Keyword) : keyword.Reorders keyword :=
  ⟨rfl, .refl _⟩

lemma Rule.Reorders.refl (rule : Rule) : rule.Reorders rule :=
  ⟨rfl, .of_perm Keyword.Reorders.refl (.refl _)⟩

lemma Rule.Reorders.grants_iff {rule other : Rule} (h : rule.Reorders other) (text kind : String) :
    rule.Grants text kind ↔ other.Grants text kind := by
  refine h.keywords.exists_mem_iff fun keyword keyword' hkeyword => ?_
  rw [hkeyword.values.mem_iff, hkeyword.kind_eq]

/-- **What is looked up does not depend on any order** of rules, of their keywords and of the values of
these. -/
theorem KeywordDispatcher.Holds.resolve_eq {dispatcher dispatcher' : KeywordDispatcher}
    {state state' : Nat} {rules rules' : List Rule} (h : dispatcher.Holds state rules)
    (h' : dispatcher'.Holds state' rules') (hreordered : Reordered Rule.Reorders rules rules')
    (kind text : String) :
    dispatcher.resolve state kind text = dispatcher'.resolve state' kind text := by
  refine Option.ext fun keyword => ?_
  rw [h kind text keyword, h' kind text keyword]
  refine hreordered.exists_mem_iff fun rule rule' hrule => ?_
  rw [hrule.kind_eq, hrule.grants_iff]

end Lexical
