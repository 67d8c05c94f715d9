import Lexical.Proofs.Lexicon.Keywords
import Mathlib.Logic.Relator

/-!
# When keywords agree

A table of keywords takes more of them as long as no text would come to belong to two kinds, and then
it looks up what it did before and what was added (`KeywordTable.Takes`).  So the rules of a state
that share a table can all be registered if and only if their keywords agree, and the table then looks
up exactly their keywords (`KeywordDispatcher.register_eq_none_iff`, `KeywordDispatcher.Holds`).
-/

namespace Lexical

namespace KeywordTable

/-- What a table looks up, together with something else. -/
def With (table : KeywordTable) (added : String → String → Prop) (text kind : String) : Prop :=
  table.lookup text = some kind ∨ added text kind

/-- An attempt to add to a table fails if and only if a text would belong to two kinds, and else what
was added is looked up. -/
structure Takes (table : KeywordTable) (added : String → String → Prop)
    (outcome : KeywordTable × Option ConfigError) : Prop where
  eq_none_iff : outcome.2 = none ↔ Relator.RightUnique (table.With added)
  lookup_iff : outcome.2 = none →
    ∀ text kind, outcome.1.lookup text = some kind ↔ table.With added text kind

variable {table : KeywordTable} {added more : String → String → Prop}

lemma rightUnique_lookup (table : KeywordTable) :
    Relator.RightUnique fun text kind => table.lookup text = some kind :=
  fun _ _ _ hfirst hsecond => Option.some.inj (hfirst.symm.trans hsecond)

lemma takes_nothing (table : KeywordTable) : table.Takes (fun _ _ => False) (table, none) := by
  have hwith : table.With (fun _ _ => False) = fun text kind => table.lookup text = some kind := by
    funext text kind
    simp [With]
  refine ⟨?_, fun _ text kind => ?_⟩
  · rw [hwith]
    exact ⟨fun _ => table.rightUnique_lookup, fun _ => rfl⟩
  · rw [hwith]

/-- One attempt behind another that did not fail. -/
lemma Takes.trans {first second : KeywordTable × Option ConfigError} (h : table.Takes added first)
    (hnone : first.2 = none) (hmore : first.1.Takes more second) :
    table.Takes (fun text kind => added text kind ∨ more text kind) second := by
  have hwith : first.1.With more =
      table.With fun text kind => added text kind ∨ more text kind := by
    funext text kind
    simp only [With, h.lookup_iff hnone, or_assoc]
  obtain ⟨hiff, hlookup⟩ := hmore
  rw [hwith] at hiff hlookup
  exact ⟨hiff, hlookup⟩

/-- A failed attempt fails with more, too. -/
lemma Takes.error {outcome : KeywordTable × Option ConfigError} (h : table.Takes added outcome)
    (hfails : outcome.2 ≠ none) (more : String → String → Prop) :
    table.Takes (fun text kind => added text kind ∨ more text kind) outcome := by
  refine ⟨⟨fun hnone => absurd hnone hfails, fun hunique => ?_⟩, fun hnone => absurd hnone hfails⟩
  have hless {text kind : String} (hwith : table.With added text kind) :
      table.With (fun text kind => added text kind ∨ more text kind) text kind :=
    hwith.imp_right .inl
  exact h.eq_none_iff.2 fun text kind other hkind hother => hunique (hless hkind) (hless hother)

lemma Takes.congr {outcome : KeywordTable × Option ConfigError} (h : table.Takes added outcome)
    (hsame : ∀ text kind, table.With added text kind ↔ table.With more text kind) :
    table.Takes more outcome := by
  have hwith : table.With added = table.With more := by
    funext text kind
    exact propext (hsame text kind)
  obtain ⟨hiff, hlookup⟩ := h
  rw [hwith] at hiff hlookup
  exact ⟨hiff, hlookup⟩

/-! ## Values -/

/-- A text is one of some values, of the given kind. -/
def Valued (kind : String) (values : List String) (text keyword : String) : Prop :=
  text ∈ values ∧ kind = keyword

variable {kind value : String} {values : List String}

lemma lookup_claims_append (table : KeywordTable) (kind : String)
    (hnew : table.lookup value = none) (text keyword : String) :
    (table.claims ++ [(value, kind)]).lookup text = some keyword ↔
      table.With (Valued kind [value]) text keyword := by
  have hnone : table.claims.lookup value = none := hnew
  rw [List.lookup_append, With, lookup, Valued, List.mem_singleton]
  by_cases htext : text = value
  · subst htext
    rw [hnone, Option.none_or]
    simp
  · simp [htext, List.lookup_cons, beq_false_of_ne htext]

lemma takes_of_claim_eq_ok {claimed : KeywordTable} (h : table.claim kind value = .ok claimed) :
    table.Takes (Valued kind [value]) (claimed, none) := by
  unfold claim at h
  split at h
  · next first hfirst =>
    -- The value is taken already, by the same kind, so the table looks up nothing more than
    -- before.
    split_ifs at h with hsame
    obtain rfl := Except.ok.inj h
    refine table.takes_nothing.congr fun text keyword => ?_
    constructor
    · rintro (hlookup | hfalse)
      · exact .inl hlookup
      · exact hfalse.elim
    · rintro (hlookup | ⟨htext, rfl⟩)
      · exact .inl hlookup
      · obtain rfl := List.mem_singleton.1 htext
        exact .inl (hsame ▸ hfirst)
  · next hnew =>
    obtain rfl := Except.ok.inj h
    have hlookup := table.lookup_claims_append kind hnew
    -- A new value, and the table as it is now has one kind for each text, so nothing was in the
    -- way.
    refine ⟨⟨fun _ => ?_, fun _ => rfl⟩, fun _ => hlookup⟩
    intro text keyword other hkeyword hother
    rw [← hlookup] at hkeyword hother
    exact Option.some.inj (hkeyword.symm.trans hother)

lemma takes_of_claim_eq_error {error : ConfigError} (h : table.claim kind value = .error error) :
    table.Takes (Valued kind [value]) (table, some error) := by
  unfold claim at h
  split at h
  · next first hfirst =>
    split_ifs at h with hsame
    refine ⟨⟨fun hnone => (Option.some_ne_none _ hnone).elim, fun hunique => ?_⟩,
      fun hnone => (Option.some_ne_none _ hnone).elim⟩
    have hvalued : Valued kind [value] value kind := ⟨List.mem_singleton_self value, rfl⟩
    exact absurd (hunique (.inl hfirst) (.inr hvalued)) hsame
  · cases h

/-- The induction is on the values. -/
lemma takes_claimAll (table : KeywordTable) (kind : String) (values : List String) :
    table.Takes (Valued kind values) (table.claimAll kind values) := by
  induction values generalizing table with
  | nil =>
    refine table.takes_nothing.congr fun text keyword => ?_
    simp [With, Valued]
  | cons value values ih =>
    have hvalues (text keyword : String) :
        (Valued kind [value] text keyword ∨ Valued kind values text keyword) ↔
          Valued kind (value :: values) text keyword := by
      rw [Valued, Valued, Valued, List.mem_singleton, List.mem_cons, or_and_right]
    unfold claimAll
    cases hclaim : table.claim kind value with
    | ok claimed =>
      have hboth := (takes_of_claim_eq_ok hclaim).trans rfl (ih claimed)
      exact hboth.congr fun text keyword => or_congr_right (hvalues text keyword)
    | error error =>
      have hboth := (takes_of_claim_eq_error hclaim).error (Option.some_ne_none _) (Valued kind values)
      exact hboth.congr fun text keyword => or_congr_right (hvalues text keyword)

/-! ## Keywords -/

/-- The kinds of a table do not matter to what it looks up. -/
lemma takes_insert (table : KeywordTable) (keyword : Keyword) :
    table.Takes (Valued keyword.kind keyword.values) (table.insert keyword) := by
  unfold insert
  dsimp only
  split_ifs
  · exact table.takes_claimAll _ _
  · obtain ⟨hiff, hlookup⟩ := takes_claimAll
      { table with kinds := table.kinds ++ [keyword.kind] } keyword.kind keyword.values
    exact ⟨hiff, hlookup⟩

/-- A text is a value of one of some keywords, of its kind. -/
def Listed (keywords : List Keyword) (text kind : String) : Prop :=
  ∃ keyword ∈ keywords, text ∈ keyword.values ∧ keyword.kind = kind

/-- The induction is on the keywords. -/
lemma takes_insertAll (table : KeywordTable) (keywords : List Keyword) :
    table.Takes (Listed keywords) (table.insertAll keywords) := by
  induction keywords generalizing table with
  | nil =>
    refine table.takes_nothing.congr fun text kind => ?_
    simp [With, Listed]
  | cons keyword keywords ih =>
    have hlisted (text kind : String) :
        (Valued keyword.kind keyword.values text kind ∨ Listed keywords text kind) ↔
          Listed (keyword :: keywords) text kind := by
      simp [Valued, Listed]
    have hinsert := table.takes_insert keyword
    unfold insertAll
    split
    · next inserted hinserted =>
      rw [hinserted] at hinsert
      exact (hinsert.trans rfl (ih inserted)).congr fun text kind => or_congr_right (hlisted text kind)
    · next inserted error hinserted =>
      rw [hinserted] at hinsert
      exact (hinsert.error (Option.some_ne_none _) _).congr fun text kind =>
        or_congr_right (hlisted text kind)

end KeywordTable

/-! ## Rules -/

/-- Rules of one kind give no text to keywords of two kinds. -/
def KeywordsAgree (rules : List Rule) : Prop :=
  ∀ rule ∈ rules, ∀ other ∈ rules, rule.kind = other.kind →
    ∀ text kind kind', rule.Grants text kind → other.Grants text kind' → kind = kind'

namespace KeywordDispatcher

variable {dispatcher : KeywordDispatcher} {state : Nat} {rules : List Rule}

/-- The tables of a state look up just the keywords of some rules, each kind of rules in its own. -/
def Holds (dispatcher : KeywordDispatcher) (state : Nat) (rules : List Rule) : Prop :=
  ∀ kind text keyword, dispatcher.resolve state kind text = some keyword ↔
    ∃ rule ∈ rules, rule.kind = kind ∧ rule.Grants text keyword

lemma Holds.agree (h : dispatcher.Holds state rules) : KeywordsAgree rules := by
  intro rule hrule other hother hsame text kind kind' hkind hkind'
  have hfirst := (h rule.kind text kind).2 ⟨rule, hrule, rfl, hkind⟩
  have hsecond := (h rule.kind text kind').2 ⟨other, hother, hsame.symm, hkind'⟩
  exact Option.some.inj (hfirst.symm.trans hsecond)

/-- What the table of a rule looks up, together with the rule's own keywords. -/
lemma Holds.with_iff (h : dispatcher.Holds state rules) (rule : Rule) (text keyword : String) :
    (dispatcher.table state rule.kind).With (KeywordTable.Listed rule.keywords) text keyword ↔
      ∃ granter ∈ rules ++ [rule], granter.kind = rule.kind ∧ granter.Grants text keyword := by
  have hlookup := h rule.kind text keyword
  rw [KeywordTable.With]
  constructor
  · rintro (hbefore | hown)
    · obtain ⟨granter, hgranter, hgrants⟩ := hlookup.1 hbefore
      exact ⟨granter, List.mem_append_left _ hgranter, hgrants⟩
    · exact ⟨rule, List.mem_append_right _ (List.mem_singleton_self rule), rfl, hown⟩
  · rintro ⟨granter, hgranter, hgrants⟩
    rcases List.mem_append.1 hgranter with hgranter | hown
    · exact .inl (hlookup.2 ⟨granter, hgranter, hgrants⟩)
    · obtain rfl := List.mem_singleton.1 hown
      exact .inr hgrants.2

/-- **The keywords of a rule can be registered if and only if they agree with those before them.** -/
lemma Holds.register_eq_none_iff (h : dispatcher.Holds state rules) (rule : Rule) :
    (dispatcher.register state rule.kind rule.keywords).2 = none ↔ KeywordsAgree (rules ++ [rule]) := by
  have htakes := (dispatcher.table state rule.kind).takes_insertAll rule.keywords
  refine htakes.eq_none_iff.trans ⟨fun hunique => ?_, fun hagree => ?_⟩
  · intro first hfirst second hsecond hsame text kind kind' hkind hkind'
    -- Rules of the kind share the table, and those of another kind agreed before this rule came.
    by_cases hown : first.kind = rule.kind
    · exact hunique ((h.with_iff rule text kind).2 ⟨first, hfirst, hown, hkind⟩)
        ((h.with_iff rule text kind').2 ⟨second, hsecond, hsame ▸ hown, hkind'⟩)
    · have hbefore {other : Rule} (hmem : other ∈ rules ++ [rule]) (hne : other.kind ≠ rule.kind) :
          other ∈ rules := by
        rcases List.mem_append.1 hmem with hmem | hmem
        · exact hmem
        · exact absurd (congrArg Rule.kind (List.mem_singleton.1 hmem)) hne
      exact h.agree first (hbefore hfirst hown) second (hbefore hsecond (hsame ▸ hown)) hsame text
        kind kind' hkind hkind'
  · intro text kind kind' hkind hkind'
    obtain ⟨first, hfirst, hfirstKind, hfirstGrants⟩ := (h.with_iff rule text kind).1 hkind
    obtain ⟨second, hsecond, hsecondKind, hsecondGrants⟩ := (h.with_iff rule text kind').1 hkind'
    exact hagree first hfirst second hsecond (hfirstKind.trans hsecondKind.symm) text kind kind'
      hfirstGrants hsecondGrants

lemma Holds.register (h : dispatcher.Holds state rules) (rule : Rule)
    (hnone : (dispatcher.register state rule.kind rule.keywords).2 = none) :
    (dispatcher.register state rule.kind rule.keywords).1.Holds state (rules ++ [rule]) := by
  have htakes := (dispatcher.table state rule.kind).takes_insertAll rule.keywords
  intro kind text keyword
  have htable : (dispatcher.register state rule.kind rule.keywords).1.table state kind =
      if state = state ∧ kind = rule.kind then
        ((dispatcher.table state rule.kind).insertAll rule.keywords).1
      else dispatcher.table state kind :=
    table_setTable _
  rw [resolve, htable]
  split_ifs with hown
  · obtain ⟨-, rfl⟩ := hown
    exact (htakes.lookup_iff hnone text keyword).trans (h.with_iff rule text keyword)
  · have hkind : kind ≠ rule.kind := fun heq => hown ⟨rfl, heq⟩
    refine (h kind text keyword).trans ⟨?_, ?_⟩
    · rintro ⟨granter, hgranter, hgrants⟩
      exact ⟨granter, List.mem_append_left _ hgranter, hgrants⟩
    · rintro ⟨granter, hgranter, hgrants⟩
      rcases List.mem_append.1 hgranter with hgranter | hrule
      · exact ⟨granter, hgranter, hgrants⟩
      · obtain rfl := List.mem_singleton.1 hrule
        exact absurd hgrants.1.symm hkind

end KeywordDispatcher

end Lexical
