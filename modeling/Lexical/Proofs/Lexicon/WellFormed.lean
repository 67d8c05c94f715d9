import Lexical.Proofs.Lexicon.Agreement

/-!
# Which declarations compile

Compiling checks declared states one by one and stops at the first thing that is wrong.  What it asks of
them can be said without any order: `WellFormed` collects it, from the names of the states down to the
patterns of single rules (`Rule.WellFormed`) and to what the rules of a state are together
(`FitTogether`).  The main statement is `Lexicon.exists_ofStates_iff`: just the well-formed
declarations compile.

What an engine reads and compiles is not settled here.  The statement holds for every engine, whatever
properties of characters it knows and wherever it draws the line for the size of a pattern
(`Regex.Engine.upTo` draws one).

Each compiling function has a lemma that says when it gives a result.  That of `compileRules` is about
rules behind others that have been compiled, since the keywords and the special rules of those count.
-/

namespace Lexical

/-! ## Rules as they are built -/

namespace Rule

/-- A rule that is written as a kind with a pattern, or as one of the special rules, and then
refined in any way. -/
inductive Built : Rule → Prop
  | ofPattern (kind : String) (pattern : Pattern) : Built (.ofPattern kind pattern)
  | error (kind : String) : Built (.error kind)
  | fallback (kind : String) : Built (.fallback kind)
  | withLineBreaks {rule : Rule} (h : Built rule) : Built rule.withLineBreaks
  | withTransition {rule : Rule} (h : Built rule) (transition : Transition String) :
      Built (rule.withTransition transition)
  | errorToken {rule : Rule} (h : Built rule) : Built rule.errorToken
  | ignore {rule : Rule} (h : Built rule) : Built rule.ignore
  | value {rule : Rule} (h : Built rule) (transform : String → String) :
      Built (rule.value transform)
  | withCategories {rule : Rule} (h : Built rule) (categories : List CategoryId) :
      Built (rule.withCategories categories)
  | withKeywords {rule : Rule} (h : Built rule) (keywords : List Keyword) :
      Built (rule.withKeywords keywords)

variable {rule : Rule}

/-- No refinement takes a pattern away, and none takes back what a rule is. -/
lemma Built.isFallback_or_isError (h : rule.Built) (hpattern : rule.pattern = none) :
    rule.isFallback = true ∨ rule.isError = true := by
  induction h with
  | ofPattern kind pattern => cases hpattern
  | error kind => exact .inr rfl
  | fallback kind => exact .inl rfl
  | withLineBreaks _ ih => exact ih hpattern
  | withTransition _ _ ih => exact ih hpattern
  | errorToken _ ih => exact .inr rfl
  | ignore _ ih => exact ih hpattern
  | value _ _ ih => exact ih hpattern
  | withCategories _ _ ih => exact ih hpattern
  | withKeywords _ _ ih => exact ih hpattern

/-- A rule for all the rest of a text where nothing else matches.  One that is marked as a fallback rule,
too, is a fallback rule. -/
def takesRest (rule : Rule) : Bool :=
  !rule.isFallback && rule.isCatchAll

def isSpecial (rule : Rule) : Bool :=
  rule.isFallback || rule.isCatchAll

/-- A rule that is built and not special has a pattern. -/
lemma Built.exists_pattern (h : rule.Built) (hspecial : rule.isSpecial = false) :
    ∃ pattern, rule.pattern = some pattern := by
  cases hpattern : rule.pattern with
  | some pattern => exact ⟨pattern, rfl⟩
  | none =>
    rcases h.isFallback_or_isError hpattern with hfallback | herror
    · simp [isSpecial, hfallback] at hspecial
    · simp [isSpecial, isCatchAll, herror, hpattern] at hspecial

end Rule

/-! ## Well-formed declarations -/

/-- A change of the stack of states that leads somewhere: to a state that is declared, or back by one
state at least. -/
def Transition.Sound (names : List String) : Transition String → Prop
  | .push state => state ∈ names
  | .pop count => count ≠ 0
  | .next state => state ∈ names

section Engine

variable [Regex.Engine]

/-- A pattern that a rule can have: a well-formed expression without captures, of which it is not known
that it matches the empty text. -/
def Pattern.Admissible (pattern : Pattern) : Prop :=
  ∃ e, Regex.Engine.read? pattern.write = some e ∧ e.hasCapture = false ∧ e.minLength? ≠ some 0

/-- A rule that is right by itself. -/
structure Rule.WellFormed (names : List String) (rule : Rule) : Prop where
  transitions_le_one : rule.transitions.length ≤ 1
  transitions_sound : ∀ transition ∈ rule.transitions, transition.Sound names
  special_stays : rule.isSpecial = true → rule.transitions = []
  pattern_admissible : ∀ pattern ∈ rule.matching?, pattern.Admissible

/-- Patterns that the engine compiles in all ways in which a state needs them: tied to the start of the
text as a set and one by one, and joined if a fallback rule looks for them. -/
structure Compilable (patterns : List Pattern) (joins : Bool) : Prop where
  set : Regex.Engine.compilesSet (patterns.map fun pattern => anchor pattern.write) = true
  anchored : ∀ pattern ∈ patterns, (Regex.Engine.compile? (anchor pattern.write)).isSome
  joined : joins = true →
    (Regex.Engine.compile? (Pattern.writeBranches (patterns.map Pattern.write))).isSome

end Engine

/-- Rules that fit together in a state: at most one of each special sort, and keywords that agree. -/
structure FitTogether (rules : List Rule) : Prop where
  fallback_le_one : rules.countP (·.isFallback) ≤ 1
  rest_le_one : rules.countP (·.takesRest) ≤ 1
  keywords_agree : KeywordsAgree rules

/-- A state whose rules are right by themselves and together.  Where no rule has a pattern, there is
nothing to compile. -/
structure Declaration.WellFormed [Regex.Engine] (names : List String) (declaration : Declaration) :
    Prop where
  rules_ne_nil : declaration.2 ≠ []
  rules : ∀ rule ∈ declaration.2, rule.WellFormed names
  rules_fit : FitTogether declaration.2
  compilable : patternsOf declaration.2 ≠ [] →
    Compilable (patternsOf declaration.2) (declaration.2.any (·.isFallback))

/-- The categories that a rule mentions, with its keywords. -/
def Rule.mentioned (rule : Rule) : List CategoryId :=
  rule.categories ++ rule.keywords.flatMap (·.categories)

/-- States that fit together, with the categories and the start that are given. -/
structure WellFormed [Regex.Engine] (declared : List Declaration) (categories : CategoryRegistry)
    (options : LexerOptions) : Prop where
  declared_ne_nil : declared ≠ []
  nodup_names : (declared.map (·.1)).Nodup
  start_declared : ∀ name ∈ options.start, name ∈ declared.map (·.1)
  categories_known : ∀ declaration ∈ declared, ∀ rule ∈ declaration.2, ∀ id ∈ rule.mentioned,
    categories.contains id = true
  states : ∀ declaration ∈ declared, Declaration.WellFormed (declared.map (·.1)) declaration

/-! ## Rules -/

/-- Whether a computation gives a value can be seen from it. -/
lemma exists_eq_ok_iff {ε α : Type} {x : Except ε α} : (∃ a, x = .ok a) ↔ x.toOption.isSome := by
  cases x <;> simp [Except.toOption]

lemma exists_except_bind_iff {ε α β : Type} {x : Except ε α} {f : α → Except ε β} :
    (∃ b, (x >>= f) = .ok b) ↔ ∃ a, x = .ok a ∧ ∃ b, f a = .ok b := by
  cases x <;> simp [bind, Except.bind]

lemma exists_except_map_iff {ε α β : Type} {x : Except ε α} {f : α → β} :
    (∃ b, x.map f = .ok b) ↔ ∃ a, x = .ok a := by
  cases x <;> simp [Except.map]

section Rules

variable {names : List String} {state : String} {rule : Rule}

lemma exists_finIdxOf?_iff {name : String} : (∃ id, names.finIdxOf? name = some id) ↔ name ∈ names := by
  rw [← Option.isSome_iff_exists, List.isSome_finIdxOf?]
  simp

lemma exists_lookup_iff (target : String) :
    (∃ id, resolveTransition.lookup names state rule target = .ok id) ↔ target ∈ names := by
  rw [← exists_finIdxOf?_iff]
  unfold resolveTransition.lookup
  cases names.finIdxOf? target <;> simp

/-- A transition is resolved if it leads somewhere and is the only one. -/
lemma exists_resolveTransition_iff :
    (∃ transition, resolveTransition names state rule = .ok transition) ↔
      rule.transitions.length ≤ 1 ∧ ∀ transition ∈ rule.transitions, transition.Sound names := by
  unfold resolveTransition
  rcases rule.transitions with _ | ⟨transition, _ | ⟨second, rest⟩⟩
  · simp
  · cases transition with
    | push target => simpa [exists_except_map_iff, Transition.Sound] using exists_lookup_iff target
    | pop count => by_cases hcount : count = 0 <;> simp [hcount, Transition.Sound]
    | next target => simpa [exists_except_map_iff, Transition.Sound] using exists_lookup_iff target
  · simp

/-- A rule without transitions gets none, and no other rule does. -/
lemma eq_none_iff_of_resolveTransition {transition : Option (Transition (Fin names.length))}
    (h : resolveTransition names state rule = .ok transition) :
    transition = none ↔ rule.transitions = [] := by
  unfold resolveTransition at h
  split at h
  · next hnil => simp [hnil, ← Except.ok.inj h]
  · next hpush =>
    obtain ⟨id, -, rfl⟩ := except_map_eq_ok_iff.1 h
    simp [hpush]
  · next hnext =>
    obtain ⟨id, -, rfl⟩ := except_map_eq_ok_iff.1 h
    simp [hnext]
  · next hpop =>
    split_ifs at h
    simp [hpop, ← Except.ok.inj h]
  · cases h

lemma exists_checkPattern_iff [Regex.Engine] {kind : String} {pattern : Pattern} :
    (∃ source, checkPattern kind pattern = .ok source) ↔ pattern.Admissible := by
  unfold checkPattern Pattern.Admissible
  cases Regex.Engine.read? pattern.write with
  | none => simp
  | some e =>
    by_cases hcapture : e.hasCapture = true
    · simp [hcapture]
    · by_cases hempty : e.minLength? = some 0 <;> simp [hcapture, hempty]

lemma exists_special_iff {n : Nat} {transition : Option (Transition (Fin n))} {role : SpecialRole}
    {trigger : Trigger (List Char)} {taken : Bool} :
    (∃ found, resolveTrigger.special state rule transition role trigger taken = .ok found) ↔
      taken = false ∧ transition = none := by
  unfold resolveTrigger.special
  cases taken <;> cases transition <;> simp

/-- A trigger stands for a rule that takes all the rest if its rule does. -/
lemma Trigger.Implements.isCatchAll_eq [Regex.Engine] {α : Type} {find : Pattern → α → Prop}
    {trigger : Trigger α} (h : trigger.Implements find rule) : trigger.isCatchAll = rule.takesRest := by
  cases trigger with
  | pattern matcher =>
    obtain ⟨pattern, hmatching, -⟩ := h
    unfold Rule.matching? at hmatching
    split_ifs at hmatching with hspecial
    simp only [Bool.or_eq_true, not_or, Bool.not_eq_true] at hspecial
    simp [Rule.takesRest, Trigger.isCatchAll, hspecial.2]
  | fallback =>
    have hfallback : rule.isFallback = true := h
    simp [Rule.takesRest, Trigger.isCatchAll, hfallback]
  | catchAll => simp [Rule.takesRest, Trigger.isCatchAll, h.1, h.2]

variable [Regex.Engine] {closure : String → CategorySet} {done : List Rule}
  {before : List (Entry names.length (List Char))}

lemma any_isCatchAll_eq
    (h : List.Forall₂ (Entry.Implements Pattern.Reads closure state) done before) :
    before.any (·.trigger.isCatchAll) = done.any (·.takesRest) := by
  induction h with
  | nil => rfl
  | cons hentry _ ih => rw [List.any_cons, List.any_cons, hentry.trigger.isCatchAll_eq, ih]

/-- A rule finds its role if it is well-formed and no rule before it has the same one. -/
lemma exists_resolveTrigger_iff
    (hbefore : List.Forall₂ (Entry.Implements Pattern.Reads closure state) done before)
    (hbuilt : rule.Built) {transition : Option (Transition (Fin names.length))} :
    (∃ trigger, resolveTrigger state before rule transition = .ok trigger) ↔
      (rule.isFallback = true → done.any (·.isFallback) = false) ∧
      (rule.takesRest = true → done.any (·.takesRest) = false) ∧
      (rule.isSpecial = true → transition = none) ∧ ∀ pattern ∈ rule.matching?, pattern.Admissible := by
  unfold resolveTrigger
  rw [any_isFallback_eq hbefore, any_isCatchAll_eq hbefore]
  -- Each branch gives one of the three roles, and the conditions on the other two are void.
  split_ifs with hfallback hcatch
  · simp [exists_special_iff, Rule.isSpecial, Rule.takesRest, Rule.matching?, hfallback]
  · simp [exists_special_iff, Rule.isSpecial, Rule.takesRest, Rule.matching?, hfallback, hcatch]
  · obtain ⟨pattern, hpattern⟩ := hbuilt.exists_pattern (by simp [Rule.isSpecial, hfallback, hcatch])
    simp [exists_except_map_iff, exists_checkPattern_iff, Rule.isSpecial, Rule.takesRest,
      Rule.matching?, hfallback, hcatch, hpattern]

lemma exists_compileRule_iff
    (hbefore : List.Forall₂ (Entry.Implements Pattern.Reads closure state) done before)
    (hbuilt : rule.Built) :
    (∃ entry, compileRule names closure state before rule = .ok entry) ↔
      rule.WellFormed names ∧ (rule.isFallback = true → done.any (·.isFallback) = false) ∧
      (rule.takesRest = true → done.any (·.takesRest) = false) := by
  unfold compileRule
  simp only [exists_except_bind_iff]
  constructor
  -- A special rule must not change the stack, which is checked on the resolved transition.
  · rintro ⟨transition, htransition, trigger, htrigger, -⟩
    have htrigger : ∃ trigger, resolveTrigger state before rule transition = .ok trigger :=
      ⟨trigger, htrigger⟩
    obtain ⟨hfallback, hrest, hstays, hpattern⟩ := (exists_resolveTrigger_iff hbefore hbuilt).1 htrigger
    obtain ⟨hone, hsound⟩ := exists_resolveTransition_iff.1 ⟨transition, htransition⟩
    exact ⟨⟨hone, hsound, fun hspecial =>
      (eq_none_iff_of_resolveTransition htransition).1 (hstays hspecial), hpattern⟩, hfallback, hrest⟩
  · rintro ⟨⟨hone, hsound, hstays, hpattern⟩, hfallback, hrest⟩
    obtain ⟨transition, htransition⟩ := exists_resolveTransition_iff.2 ⟨hone, hsound⟩
    obtain ⟨trigger, htrigger⟩ := (exists_resolveTrigger_iff hbefore hbuilt).2 ⟨hfallback, hrest,
      fun hspecial => (eq_none_iff_of_resolveTransition htransition).2 (hstays hspecial), hpattern⟩
    exact ⟨transition, htransition, trigger, htrigger, _, rfl⟩

end Rules

/-! ## The rules of a state -/

/-- One more of a sort, where there is at most one. -/
lemma countP_append_singleton_le_one_iff {α : Type} {p : α → Bool} {items : List α} {a : α}
    (h : items.countP p ≤ 1) :
    (items ++ [a]).countP p ≤ 1 ↔ (p a = true → items.any p = false) := by
  -- With at most one so far, one more is allowed if there is none, or if it is of another sort.
  have hany : items.any p = false ↔ items.countP p = 0 := by
    simp [List.countP_eq_zero]
  rw [hany, List.countP_append, List.countP_singleton]
  split_ifs with ha
  · simp [ha]
  · simpa [ha] using h

/-- Rules fit together with one more if it does not repeat a special sort and its keywords agree with
theirs. -/
lemma FitTogether.append_singleton_iff {done : List Rule} (h : FitTogether done) (rule : Rule) :
    FitTogether (done ++ [rule]) ↔ (rule.isFallback = true → done.any (·.isFallback) = false) ∧
      (rule.takesRest = true → done.any (·.takesRest) = false) ∧ KeywordsAgree (done ++ [rule]) := by
  have hfallback := countP_append_singleton_le_one_iff (a := rule) h.fallback_le_one
  have hrest := countP_append_singleton_le_one_iff (a := rule) h.rest_le_one
  constructor
  · rintro ⟨hfallback', hrest', hagree⟩
    exact ⟨hfallback.1 hfallback', hrest.1 hrest', hagree⟩
  · rintro ⟨hfallback', hrest', hagree⟩
    exact ⟨hfallback.2 hfallback', hrest.2 hrest', hagree⟩

lemma FitTogether.of_append {rules more : List Rule} (h : FitTogether (rules ++ more)) :
    FitTogether rules := by
  have hsublist := List.sublist_append_left rules more
  refine ⟨Nat.le_trans hsublist.countP_le h.fallback_le_one,
    Nat.le_trans hsublist.countP_le h.rest_le_one, ?_⟩
  intro rule hrule other hother
  exact h.keywords_agree rule (hsublist.subset hrule) other (hsublist.subset hother)

lemma fitTogether_nil : FitTogether [] :=
  ⟨by simp, by simp, by simp [KeywordsAgree]⟩

/-- For a state no keyword has been registered yet. -/
def KeywordDispatcher.Unused (keywords : KeywordDispatcher) (state : Nat) : Prop :=
  ∀ kind text keyword, (text, keyword) ∉ (keywords.table state kind).claims

lemma KeywordDispatcher.Unused.holds {keywords : KeywordDispatcher} {state : Nat}
    (h : keywords.Unused state) : keywords.Holds state [] := by
  intro kind text keyword
  refine ⟨fun hresolve => ?_, fun hnone => by simp at hnone⟩
  exact absurd (KeywordTable.mem_claims_of_lookup hresolve) (h kind text keyword)

lemma exists_mapM_iff {ε α β : Type} {f : α → Except ε β} {items : List α} :
    (∃ results, items.mapM f = .ok results) ↔ ∀ a ∈ items, ∃ b, f a = .ok b := by
  induction items with
  | nil => simp [pure, Except.pure]
  | cons a items ih =>
    simp only [List.mapM_cons, exists_except_bind_iff, List.forall_mem_cons, ← ih]
    constructor
    · rintro ⟨b, hb, bs, hbs, -⟩
      exact ⟨⟨b, hb⟩, bs, hbs⟩
    · rintro ⟨⟨b, hb⟩, bs, hbs⟩
      exact ⟨b, hb, bs, hbs, b :: bs, rfl⟩

section States

variable [Regex.Engine] {names : List String} {closure : String → CategorySet} {index : Nat}

/-- The rules of a state compile, behind others that did, if each is well-formed and all of them fit
together.  The induction is on the rules. -/
lemma exists_compileRules_iff {state : String} {rules done : List Rule}
    {before : List (Entry names.length (List Char))} {keywords : KeywordDispatcher}
    (hbefore : List.Forall₂ (Entry.Implements Pattern.Reads closure state) done before)
    (hdone : FitTogether done) (hholds : keywords.Holds index done)
    (hbuilt : ∀ rule ∈ rules, rule.Built) :
    (∃ result, compileRules names closure index state before keywords rules = .ok result) ↔
      (∀ rule ∈ rules, rule.WellFormed names) ∧ FitTogether (done ++ rules) := by
  induction rules generalizing done before keywords with
  | nil => simpa [compileRules] using hdone
  | cons rule rules ih =>
    have hrule := hbuilt rule List.mem_cons_self
    have hrest := fun other hother => hbuilt other (List.mem_cons_of_mem rule hother)
    have hregister := hholds.register_eq_none_iff rule
    have hone := exists_compileRule_iff hbefore hrule
    have hfit := hdone.append_singleton_iff rule
    have hsplit : done ++ rule :: rules = done ++ [rule] ++ rules := by simp
    -- What is known of the rules behind this one, once it has been compiled and fits.
    have hnext {entry : Entry names.length (List Char)}
        (hentry : compileRule names closure state before rule = .ok entry)
        (hfits : FitTogether (done ++ [rule])) :=
      ih (List.rel_append hbefore (.cons (compileRule_implements hentry).1 .nil)) hfits
        (hholds.register rule (hregister.2 hfits.keywords_agree)) hrest
    unfold compileRules
    simp only [exists_except_bind_iff]
    rw [List.forall_mem_cons, hsplit]
    constructor
    · rintro ⟨entry, hentry, hresult⟩
      obtain ⟨hwell, hfallback, htakes⟩ := hone.1 ⟨entry, hentry⟩
      obtain ⟨result, hresult⟩ := hresult
      split at hresult
      · cases hresult
      · next registered hregistered =>
        have hnone : (keywords.register index rule.kind rule.keywords).2 = none := by rw [hregistered]
        -- It was compiled, so its keywords have been registered without a conflict.
        have hfits := hfit.2 ⟨hfallback, htakes, hregister.1 hnone⟩
        have hnext := hnext hentry hfits
        rw [hregistered] at hnext
        obtain ⟨hwells, hall⟩ := hnext.1 ⟨result, hresult⟩
        exact ⟨⟨hwell, hwells⟩, hall⟩
    · rintro ⟨⟨hwell, hwells⟩, hfits⟩
      have hfirst := hfits.of_append
      obtain ⟨hfallback, htakes, hagree⟩ := hfit.1 hfirst
      obtain ⟨entry, hentry⟩ := hone.2 ⟨hwell, hfallback, htakes⟩
      refine ⟨entry, hentry, ?_⟩
      have hnone := hregister.2 hagree
      obtain ⟨result, hresult⟩ := (hnext hentry hfirst).2 ⟨hwells, hfits⟩
      split
      · next registered error hregistered =>
        rw [hregistered] at hnone
        cases hnone
      · next registered hregistered =>
        rw [hregistered] at hresult
        exact ⟨result, hresult⟩

lemma exists_prepare_iff {n : Nat} {state : String} {entry : Entry n (List Char)} :
    (∃ prepared, entry.prepare state = .ok prepared) ↔
      ∀ source ∈ entry.trigger.pattern?, (Regex.Engine.compile? (anchor source)).isSome := by
  unfold Entry.prepare
  cases entry.trigger with
  | pattern source =>
    dsimp only
    cases hmatcher : Regex.Engine.compile? (anchor source) <;> simp [Trigger.pattern?, hmatcher]
  | fallback => simp [Trigger.pattern?]
  | catchAll => simp [Trigger.pattern?]

lemma exists_mapM_prepare_iff {state : String} {rules : List Rule}
    {entries : List (Entry names.length (List Char))}
    (hentries : List.Forall₂ (Entry.Implements Pattern.Reads closure state) rules entries) :
    (∃ prepared, entries.mapM (Entry.prepare state) = .ok prepared) ↔
      ∀ pattern ∈ patternsOf rules, (Regex.Engine.compile? (anchor pattern.write)).isSome := by
  have hsources : (∀ entry ∈ entries, ∃ prepared, entry.prepare state = .ok prepared) ↔
      ∀ source ∈ entries.filterMap (·.trigger.pattern?),
        (Regex.Engine.compile? (anchor source)).isSome := by
    simp only [exists_prepare_iff, List.mem_filterMap, forall_exists_index, and_imp]
    exact ⟨fun h source entry hentry => h entry hentry source,
      fun h entry hentry source => h source entry hentry⟩
  rw [exists_mapM_iff, hsources, filterMap_pattern?_eq hentries, List.forall_mem_map]

/-- The entries of a state make a table if the engine compiles their patterns. -/
lemma exists_ofEntries_iff {state : String} {rules : List Rule}
    {entries : List (Entry names.length (List Char))}
    (hentries : List.Forall₂ (Entry.Implements Pattern.Reads closure state) rules entries) :
    (∃ table, StateTable.ofEntries state entries = .ok table) ↔
      (patternsOf rules ≠ [] → Compilable (patternsOf rules) (rules.any (·.isFallback))) := by
  have hanchored := exists_mapM_prepare_iff hentries
  unfold StateTable.ofEntries
  simp only [filterMap_pattern?_eq hentries, any_isFallback_eq hentries]
  cases hpatterns : patternsOf rules with
  | nil =>
    -- Without patterns all entries are special, and those need no engine.
    rw [hpatterns] at hanchored
    obtain ⟨prepared, hprepared⟩ := hanchored.2 (by simp)
    simpa [hprepared, bind, Except.bind] using ⟨_, rfl⟩
  | cons pattern patterns =>
    rw [← hpatterns, List.map_map]
    have hne : patternsOf rules ≠ [] := by simp [hpatterns]
    have hset : anchor ∘ Pattern.write = fun pattern => anchor pattern.write := rfl
    simp only [hset, List.isEmpty_map, List.isEmpty_eq_false_iff.2 hne, Bool.not_false, Bool.true_and,
      Bool.false_or, Bool.not_eq_true']
    constructor
    · rintro ⟨table, htable⟩ -
      split at htable
      · cases htable
      · next hset =>
        obtain ⟨prepared, hprepared, htable⟩ := except_bind_eq_ok_iff.1 htable
        refine ⟨by simpa using hset, hanchored.1 ⟨prepared, hprepared⟩, fun hjoins => ?_⟩
        rw [hjoins, if_neg (by simp)] at htable
        split at htable
        · cases htable
        · next scanner hscanner => simp [hscanner]
    · intro h
      obtain ⟨hset, hcompile, hjoined⟩ := h hne
      obtain ⟨prepared, hprepared⟩ := hanchored.2 hcompile
      rw [hset, if_neg (by simp), hprepared]
      cases hjoins : rules.any (·.isFallback) with
      | false => exact ⟨_, rfl⟩
      | true =>
        obtain ⟨scanner, hscanner⟩ := Option.isSome_iff_exists.1 (hjoined hjoins)
        exact ⟨⟨state, prepared, some scanner⟩, by simp [hscanner, bind, Except.bind, pure, Except.pure]⟩

lemma KeywordDispatcher.Unused.of_compileRules {state : String} {rules : List Rule} {other : Nat}
    {before entries : List (Entry names.length (List Char))} {keywords keywords' : KeywordDispatcher}
    (h : keywords.Unused other) (hother : other ≠ index)
    (hcompile : compileRules names closure index state before keywords rules
      = .ok (entries, keywords')) :
    keywords'.Unused other := by
  intro kind text keyword
  rw [table_of_compileRules hcompile hother]
  exact h kind text keyword

/-- States compile if each is well-formed.  The induction is on the states; a state finds its tables of
keywords unused. -/
lemma exists_compileStates_iff {declared : List Declaration} {keywords : KeywordDispatcher}
    (hunused : ∀ state, index ≤ state → keywords.Unused state)
    (hbuilt : ∀ declaration ∈ declared, ∀ rule ∈ declaration.2, rule.Built) :
    (∃ result, compileStates names closure index keywords declared = .ok result) ↔
      ∀ declaration ∈ declared, Declaration.WellFormed names declaration := by
  induction declared generalizing index keywords with
  | nil => simp [compileStates]
  | cons declaration declared ih =>
    obtain ⟨name, rules⟩ := declaration
    have hrules : (∃ result, compileRules names closure index name [] keywords rules = .ok result) ↔
        (∀ rule ∈ rules, rule.WellFormed names) ∧ FitTogether rules :=
      exists_compileRules_iff .nil fitTogether_nil (hunused index (Nat.le_refl index)).holds
        (hbuilt (name, rules) List.mem_cons_self)
    -- The state has put keywords into its own tables only, so those of the states behind it are unused.
    have hlater {entries : List (Entry names.length (List Char))} {keywords' : KeywordDispatcher}
        (hcompile : compileRules names closure index name [] keywords rules
          = .ok (entries, keywords')) :
        (∃ result, compileStates names closure (index + 1) keywords' declared = .ok result) ↔
          ∀ other ∈ declared, Declaration.WellFormed names other :=
      ih (fun state hstate => (hunused state (by omega)).of_compileRules (by omega) hcompile)
        fun other hother => hbuilt other (List.mem_cons_of_mem _ hother)
    have htable {entries : List (Entry names.length (List Char))} {keywords' : KeywordDispatcher}
        (hcompile : compileRules names closure index name [] keywords rules
          = .ok (entries, keywords')) :=
      exists_ofEntries_iff (compileRules_implements .nil (by simp) hcompile).1
    rw [List.forall_mem_cons]
    unfold compileStates
    by_cases hempty : rules = []
    · subst hempty
      have hnot : ¬ Declaration.WellFormed names (name, []) := fun h => h.rules_ne_nil rfl
      simp [hnot]
    · simp only [hempty, List.isEmpty_iff, if_false, exists_except_bind_iff]
      constructor
      · rintro ⟨⟨entries, keywords'⟩, hcompile, table, hentries, ⟨tables, last⟩, hstates, -⟩
        obtain ⟨hwell, hfit⟩ := hrules.1 ⟨_, hcompile⟩
        have hcompilable := (htable hcompile).1 ⟨table, hentries⟩
        exact ⟨⟨hempty, hwell, hfit, hcompilable⟩, (hlater hcompile).1 ⟨_, hstates⟩⟩
      · rintro ⟨⟨-, hwell, hfit, hcompilable⟩, hwells⟩
        obtain ⟨⟨entries, keywords'⟩, hcompile⟩ := hrules.2 ⟨hwell, hfit⟩
        obtain ⟨table, hentries⟩ := (htable hcompile).2 hcompilable
        obtain ⟨tables, hstates⟩ := (hlater hcompile).2 hwells
        exact ⟨_, hcompile, table, hentries, tables, hstates, _, rfl⟩

end States

/-! ## Whole declarations -/

lemma duplicate?_eq_none_iff {seen names : List String} :
    duplicate? seen names = none ↔ names.Nodup ∧ ∀ name ∈ names, name ∉ seen := by
  refine ⟨nodup_of_duplicate?_eq_none, ?_⟩
  induction names generalizing seen with
  | nil => exact fun _ => rfl
  | cons name names ih =>
    rintro ⟨hnodup, hfresh⟩
    obtain ⟨hnew, hnodup⟩ := List.nodup_cons.1 hnodup
    have hname : name ∉ seen := hfresh name List.mem_cons_self
    unfold duplicate?
    rw [if_neg (by simpa using hname)]
    refine ih ⟨hnodup, fun other hother hseen => ?_⟩
    rcases List.mem_cons.1 hseen with rfl | hseen
    · exact hnew hother
    · exact hfresh other (List.mem_cons_of_mem _ hother) hseen

lemma exists_resolveStart_iff {names : List String} (nonempty : 0 < names.length)
    {start : Option String} :
    (∃ id, resolveStart names nonempty start = .ok id) ↔ ∀ name ∈ start, name ∈ names := by
  unfold resolveStart
  cases start with
  | none => simp
  | some name =>
    simp only [Option.mem_some_iff, forall_eq', ← exists_finIdxOf?_iff]
    cases names.finIdxOf? name <;> simp

lemma mem_flatMap_tags_iff {rule : Rule} {id : CategoryId} :
    id ∈ rule.tags.flatMap (·.2) ↔ id ∈ rule.mentioned := by
  simp [Rule.tags, Rule.mentioned, List.flatMap_map]

lemma find?_unknown_eq_none_iff {declared : List Declaration} {categories : CategoryRegistry} :
    ((allTags declared).flatMap (·.2)).find? (fun id => !categories.contains id) = none ↔
      ∀ declaration ∈ declared, ∀ rule ∈ declaration.2, ∀ id ∈ rule.mentioned,
        categories.contains id = true := by
  have hmem (id : CategoryId) : id ∈ (allTags declared).flatMap (·.2) ↔
      ∃ declaration ∈ declared, ∃ rule ∈ declaration.2, id ∈ rule.mentioned := by
    simp only [← mem_flatMap_tags_iff, allTags, List.flatMap_assoc, List.mem_flatMap]
  simp only [List.find?_eq_none, hmem, Bool.not_eq_true', Bool.not_eq_false]
  constructor
  · intro h declaration hdeclaration rule hrule id hid
    exact h id ⟨declaration, hdeclaration, rule, hrule, hid⟩
  · rintro h id ⟨declaration, hdeclaration, rule, hrule, hid⟩
    exact h declaration hdeclaration rule hrule id hid

/-- **Just the well-formed declarations compile**, with any engine.  All rules have to be built as rules
are. -/
theorem Lexicon.exists_ofStates_iff [Regex.Engine] {declared : List Declaration}
    {categories : CategoryRegistry} {options : LexerOptions}
    (hbuilt : ∀ declaration ∈ declared, ∀ rule ∈ declaration.2, rule.Built) :
    (∃ lexicon, Lexicon.ofStates declared categories options = .ok lexicon) ↔
      WellFormed declared categories options := by
  have hstates (closure : String → CategorySet) :
      (∃ result, compileStates (declared.map (·.1)) closure 0 .empty declared = .ok result) ↔
        ∀ declaration ∈ declared, Declaration.WellFormed (declared.map (·.1)) declaration :=
    exists_compileStates_iff (fun _ _ kind text keyword hclaim => by cases hclaim) hbuilt
  unfold Lexicon.ofStates
  dsimp only
  -- The checks come one after the other; each is passed exactly if its part of the form is right.
  constructor
  · rintro ⟨lexicon, h⟩
    split_ifs at h with hnonempty
    split at h
    · cases h
    · next hdistinct =>
      obtain ⟨start, hstart, h⟩ := except_bind_eq_ok_iff.1 h
      split at h
      · cases h
      · next hids =>
        obtain ⟨result, hresult, -⟩ := except_bind_eq_ok_iff.1 h
        exact ⟨by simpa [← List.length_pos_iff] using hnonempty,
          (duplicate?_eq_none_iff.1 hdistinct).1,
          (exists_resolveStart_iff hnonempty).1 ⟨start, hstart⟩, find?_unknown_eq_none_iff.1 hids,
          (hstates _).1 ⟨result, hresult⟩⟩
  · rintro ⟨hnonempty, hdistinct, hstart, hids, hwell⟩
    have hnames : 0 < (declared.map (·.1)).length := by simpa [List.length_pos_iff] using hnonempty
    have hduplicate : duplicate? [] (declared.map (·.1)) = none :=
      duplicate?_eq_none_iff.2 ⟨hdistinct, by simp⟩
    obtain ⟨start, hstart⟩ := (exists_resolveStart_iff hnames).2 hstart
    rw [dif_pos hnames, hduplicate]
    simp only [hstart, exists_except_bind_iff]
    refine ⟨start, rfl, ?_⟩
    rw [find?_unknown_eq_none_iff.2 hids]
    simp only [exists_except_bind_iff]
    obtain ⟨result, hresult⟩ := (hstates _).2 hwell
    exact ⟨result, hresult, _, rfl⟩

/-! ### Engines with a limit -/

/-- The number of ranges of characters in an expression whose repetitions are written out. -/
def Regex.Expr.unrolledSize : Expr → Nat
  | .lit text => text.length
  | .set chars => chars.ranges.length
  | .rep body min max _ => body.unrolledSize * (max.getD min).max 1
  | .capture body => body.unrolledSize
  | .seq first rest => first.unrolledSize + rest.unrolledSize
  | .alt first rest => first.unrolledSize + rest.unrolledSize
  | _ => 0

/-- The engine that compiles expressions and sets of them up to a size, and reads larger ones. -/
@[reducible] def Regex.Engine.upTo (size : Nat) : Regex.Engine where
  read? := Expr.ofText?
  compile? source := (Expr.ofText? source).filter fun e => e.unrolledSize ≤ size
  compilesSet sources :=
    match sources.mapM Expr.ofText? with
    | some es => es.foldl (fun total e => total + e.unrolledSize) 0 ≤ size
    | none => false

/-- A word of a thousand letters. -/
def longWord : List Declaration :=
  [("code", [Rule.regex "word" "[a-z]{1000}"])]

lemma built_longWord : ∀ declaration ∈ longWord, ∀ rule ∈ declaration.2, rule.Built := by
  simp only [longWord, List.forall_mem_cons, List.not_mem_nil, false_imp_iff, implies_true, and_true]
  exact .ofPattern _ _

/-! ### A text that is a keyword of two kinds -/

def wordCategories : CategoryRegistry :=
  ((CategoryRegistry.empty.create "word" []).toOption.get (by decide +kernel)).1

/-- Two rules, of the kind `name` and of a given one, with a keyword `if` for each, a comment with special
rules in it, and a category. -/
def sharedKeyword (kind : String) : List Declaration :=
  [("code", [(Rule.regex "name" "[a-z]+").withKeywords [⟨"small", ["if", "do"], [0]⟩],
      (Rule.regex kind "[a-zA-Z]+").withKeywords [⟨"big", ["IF", "if"], []⟩],
      ((Rule.literal "open" "/*").withCategories [0]).withTransition (.push "comment"),
      Rule.error "wrong"]),
    ("comment", [(Rule.fallback "text").errorToken.ignore,
      (Rule.literal "close" "*/").withTransition (.pop 1), Rule.error "rest"])]

lemma built_sharedKeyword (kind : String) :
    ∀ declaration ∈ sharedKeyword kind, ∀ rule ∈ declaration.2, rule.Built := by
  simp only [sharedKeyword, List.forall_mem_cons, List.not_mem_nil, false_imp_iff, implies_true,
    and_true]
  exact ⟨⟨.withKeywords (.ofPattern _ _) _, .withKeywords (.ofPattern _ _) _,
      .withTransition (.withCategories (.ofPattern _ _) _) _, .error _⟩,
    .ignore (.errorToken (.fallback _)), .withTransition (.ofPattern _ _) _, .error _⟩

/-- Rules of two kinds can have one keyword each, but rules of one kind cannot.  A long word can be had with
an engine that has room for it only. -/
theorem Lexicon.exists_ofStates_iff_sharedKeyword :
    (∀ kind, ∀ declaration ∈ sharedKeyword kind, ∀ rule ∈ declaration.2, rule.Built) ∧
      WellFormed (sharedKeyword "word") wordCategories .standard ∧
      ¬ WellFormed (sharedKeyword "name") wordCategories .standard ∧
      (∀ declaration ∈ longWord, ∀ rule ∈ declaration.2, rule.Built) ∧
      @WellFormed (.upTo 1000) longWord .empty .standard ∧
      ¬ @WellFormed (.upTo 999) longWord .empty .standard := by
  have hword : (∃ lexicon, Lexicon.ofStates (sharedKeyword "word") wordCategories .standard = .ok lexicon)
      ↔ WellFormed (sharedKeyword "word") wordCategories .standard :=
    exists_ofStates_iff (built_sharedKeyword "word")
  have hname : (∃ lexicon, Lexicon.ofStates (sharedKeyword "name") wordCategories .standard = .ok lexicon)
      ↔ WellFormed (sharedKeyword "name") wordCategories .standard :=
    exists_ofStates_iff (built_sharedKeyword "name")
  have hroom := @exists_ofStates_iff (.upTo 1000) longWord .empty .standard built_longWord
  have hlimit := @exists_ofStates_iff (.upTo 999) longWord .empty .standard built_longWord
  rw [← hword, ← hname, ← hroom, ← hlimit]
  simp only [exists_eq_ok_iff]
  exact ⟨built_sharedKeyword, by decide +kernel, by decide +kernel, built_longWord, by decide +kernel,
    by decide +kernel⟩

end Lexical
