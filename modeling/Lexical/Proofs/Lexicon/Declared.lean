import Lexical.Lexicon.Compile
import Mathlib.Data.List.Forall2
import Mathlib.Data.List.Nodup

/-!
# What a compiled lexicon says of its declaration

`Lexicon.ofStates` runs a dozen checks on the way to a lexicon.  This file says once what a lexicon
that came out of it is: `Lexicon.Implements` relates it to the declared states, state by state
(`StateTable.Implements`) and rule by rule (`Entry.Implements`), in the declared order.  The main
statement is `Lexicon.implements_of_ofStates`; later files take what they need from its fields and
open none of the compiling functions.  All of it holds for any engine that compiles the patterns.

Names and states are in bijection (`Lexicon.state?_stateName`).
-/

namespace Lexical

/-! ## Computations that may fail -/

lemma except_bind_eq_ok_iff {ε α β : Type} {x : Except ε α} {f : α → Except ε β} {b : β} :
    (x >>= f) = .ok b ↔ ∃ a, x = .ok a ∧ f a = .ok b := by
  cases x <;> simp [bind, Except.bind]

lemma except_map_eq_ok_iff {ε α β : Type} {x : Except ε α} {f : α → β} {b : β} :
    x.map f = .ok b ↔ ∃ a, x = .ok a ∧ f a = b := by
  cases x <;> simp [Except.map]

/-- A computation that gives a value is that of its value. -/
lemma eq_ok_get_toOption {ε α : Type} {x : Except ε α} (h : x.toOption.isSome) :
    x = .ok (x.toOption.get h) := by
  cases x with
  | error e => simp [Except.toOption] at h
  | ok a => rfl

lemma nodup_of_duplicate?_eq_none {seen names : List String} (h : duplicate? seen names = none) :
    names.Nodup ∧ ∀ name ∈ names, name ∉ seen := by
  induction names generalizing seen with
  | nil => simp
  | cons name names ih =>
    unfold duplicate? at h
    split_ifs at h with hseen
    -- The names behind have been compared with this one, too.
    obtain ⟨hnodup, hfresh⟩ := ih h
    refine ⟨List.nodup_cons.2 ⟨fun hmem => ?_, hnodup⟩, fun other hother => ?_⟩
    · exact hfresh name hmem List.mem_cons_self
    · rcases List.mem_cons.1 hother with rfl | hmem
      · simpa using hseen
      · exact fun hin => hfresh other hmem (List.mem_cons_of_mem _ hin)

/-! ## The compiled form -/

section Engine

variable [Regex.Engine]

/-- The pattern that a rule matches by.  A special rule has none that counts. -/
def Rule.matching? (rule : Rule) : Option Pattern :=
  if rule.isFallback || rule.isCatchAll then none else rule.pattern

/-- A trigger is that of a rule: its role, or its pattern, which has passed the check, as `find`
says of it. -/
def Trigger.Implements {α : Type} (find : Pattern → α → Prop) (rule : Rule) : Trigger α → Prop
  | .pattern matcher => ∃ pattern, rule.matching? = some pattern ∧
      checkPattern rule.kind pattern = .ok pattern.write ∧ find pattern matcher
  | .fallback => rule.isFallback = true
  | .catchAll => rule.isFallback = false ∧ rule.isCatchAll = true

/-- An entry of the state called `state` is the compiled form of a rule. -/
structure Entry.Implements {α : Type} {names : List String} (find : Pattern → α → Prop)
    (closure : String → CategorySet) (state : String) (rule : Rule)
    (entry : Entry names.length α) : Prop where
  kind_eq : entry.kind = rule.kind
  lineBreaks_eq : entry.lineBreaks = rule.lineBreaks
  isError_eq : entry.isError = rule.isError
  isIgnored_eq : entry.isIgnored = rule.isIgnored
  transform_eq : entry.transform = rule.transform
  hasKeywords_eq : entry.hasKeywords = !rule.keywords.isEmpty
  categories_eq : entry.categories = closure rule.kind
  transition : resolveTransition names state rule = .ok entry.transition
  trigger : entry.trigger.Implements find rule

/-- The text of a pattern. -/
def Pattern.Reads (pattern : Pattern) (source : List Char) : Prop :=
  source = pattern.write

/-- The expression of a pattern's text behind the start of the text. -/
def Pattern.Anchors (pattern : Pattern) (matcher : Regex.Expr) : Prop :=
  Regex.Engine.compile? (anchor pattern.write) = some matcher

/-- The patterns of rules that match by one. -/
def patternsOf (rules : List Rule) : List Pattern :=
  rules.filterMap Rule.matching?

/-- A scanner finds the next match of any of the rules; there is one where a fallback rule needs it. -/
def Scans (rules : List Rule) (scanner : Option Regex.Expr) : Prop :=
  if patternsOf rules = [] ∨ rules.any (·.isFallback) = false then scanner = none
  else ∃ e, scanner = some e ∧
    Regex.Engine.compile? (Pattern.writeBranches ((patternsOf rules).map Pattern.write)) = some e

/-- A special rule does not change the stack of states. -/
def Entry.SpecialStays {n : Nat} {α : Type} (entry : Entry n α) : Prop :=
  entry.trigger.pattern? = none → entry.transition = none

/-- A table is the compiled form of a declared state. -/
structure StateTable.Implements {names : List String} (closure : String → CategorySet)
    (declaration : Declaration) (table : StateTable names.length) : Prop where
  name_eq : table.name = declaration.1
  rules_ne_nil : declaration.2 ≠ []
  entries : List.Forall₂ (Entry.Implements Pattern.Anchors closure declaration.1)
    declaration.2 table.entries
  special : ∀ entry ∈ table.entries, entry.SpecialStays
  scanner : Scans declaration.2 table.scanner

/-- A lexicon is the compiled form of declared states. -/
structure Lexicon.Implements (declared : List Declaration) (lexicon : Lexicon) : Prop where
  names_eq : lexicon.names = declared.map (·.1)
  nodup_names : lexicon.names.Nodup
  tables : List.Forall₂ (StateTable.Implements lexicon.closure) declared lexicon.tables

end Engine

/-! ## Compiling the rules of a state -/

lemma special_eq_ok {n : Nat} {state : String} {rule : Rule}
    {transition : Option (Transition (Fin n))} {role : SpecialRole} {taken : Bool}
    {wanted trigger : Trigger (List Char)}
    (h : resolveTrigger.special state rule transition role wanted taken = .ok trigger) :
    trigger = wanted ∧ transition = none := by
  unfold resolveTrigger.special at h
  split_ifs at h with _ htransition
  exact ⟨(Except.ok.inj h).symm, by simpa using htransition⟩

lemma forall₂_of_mapM {ε α β γ : Type} {R : γ → α → Prop} {S : γ → β → Prop} {f : α → Except ε β}
    (hstep : ∀ c a b, R c a → f a = .ok b → S c b) {cs : List γ} {as : List α} {bs : List β}
    (hrel : List.Forall₂ R cs as) (h : as.mapM f = .ok bs) : List.Forall₂ S cs bs := by
  induction hrel generalizing bs with
  | nil =>
    obtain rfl : [] = bs := Except.ok.inj h
    exact .nil
  | cons hhead _ ih =>
    rw [List.mapM_cons] at h
    obtain ⟨b, hb, h⟩ := except_bind_eq_ok_iff.1 h
    obtain ⟨bs, hbs, h⟩ := except_bind_eq_ok_iff.1 h
    obtain rfl := Except.ok.inj h
    exact .cons (hstep _ _ _ hhead hb) (ih hbs)

lemma exists_of_mem_mapM {ε α β : Type} {f : α → Except ε β} {as : List α} {bs : List β}
    (h : as.mapM f = .ok bs) {b : β} (hb : b ∈ bs) : ∃ a ∈ as, f a = .ok b := by
  -- Pairs of an element with itself keep the membership through `mapM`.
  have hrel : List.Forall₂ (fun a b => a ∈ as ∧ f a = .ok b) as bs :=
    forall₂_of_mapM (R := fun a a' => a ∈ as ∧ a = a') (by rintro a _ b ⟨ha, rfl⟩ hb; exact ⟨ha, hb⟩)
      (List.forall₂_same.2 fun a ha => ⟨ha, rfl⟩) h
  obtain ⟨index, hindex, rfl⟩ := List.mem_iff_getElem.1 hb
  have hbound : index < as.length := by
    rw [hrel.length_eq]
    exact hindex
  exact ⟨as[index], hrel.get hbound hindex⟩

section Engine

variable [Regex.Engine]

/-- What has been checked of a pattern that has passed. -/
lemma exists_read?_of_checkPattern {kind : String} {pattern : Pattern} {source : List Char}
    (h : checkPattern kind pattern = .ok source) :
    source = pattern.write ∧
      ∃ e, Regex.Engine.read? pattern.write = some e ∧ e.minLength? ≠ some 0 := by
  unfold checkPattern at h
  split at h
  · cases h
  · rename_i e he
    split_ifs at h with _ hempty
    exact ⟨(Except.ok.inj h).symm, e, he, hempty⟩

lemma resolveTrigger_implements {n : Nat} {state : String} {before : List (Entry n (List Char))}
    {rule : Rule} {transition : Option (Transition (Fin n))} {trigger : Trigger (List Char)}
    (h : resolveTrigger state before rule transition = .ok trigger) :
    trigger.Implements Pattern.Reads rule ∧ (trigger.pattern? = none → transition = none) := by
  unfold resolveTrigger at h
  split_ifs at h with hfallback hcatch
  · obtain ⟨rfl, hstays⟩ := special_eq_ok h
    exact ⟨hfallback, fun _ => hstays⟩
  · obtain ⟨rfl, hstays⟩ := special_eq_ok h
    exact ⟨⟨by simpa using hfallback, hcatch⟩, fun _ => hstays⟩
  · cases hpattern : rule.pattern with
    -- A rule that is not special has a pattern, or it would have been refused.
    | none => simp [hpattern] at h
    | some pattern =>
      rw [hpattern] at h
      obtain ⟨source, hsource, rfl⟩ := except_map_eq_ok_iff.1 h
      obtain ⟨rfl, -⟩ := exists_read?_of_checkPattern hsource
      have hmatching : rule.matching? = some pattern := by
        simp [Rule.matching?, hfallback, hcatch, hpattern]
      exact ⟨⟨pattern, hmatching, hsource, rfl⟩, fun hnone => by cases hnone⟩

lemma compileRule_implements {names : List String} {closure : String → CategorySet}
    {state : String} {before : List (Entry names.length (List Char))} {rule : Rule}
    {entry : Entry names.length (List Char)}
    (h : compileRule names closure state before rule = .ok entry) :
    entry.Implements Pattern.Reads closure state rule ∧ entry.SpecialStays := by
  obtain ⟨transition, htransition, h⟩ := except_bind_eq_ok_iff.1 h
  obtain ⟨trigger, htrigger, h⟩ := except_bind_eq_ok_iff.1 h
  obtain ⟨himplements, hstays⟩ := resolveTrigger_implements htrigger
  obtain rfl := Except.ok.inj h
  exact ⟨⟨rfl, rfl, rfl, rfl, rfl, rfl, rfl, htransition, himplements⟩, hstays⟩

/-- What compiling one more rule comes to. -/
lemma compileRules_cons_eq_ok {names : List String} {closure : String → CategorySet}
    {index : Nat} {state : String} {rule : Rule} {rules : List Rule}
    {before entries : List (Entry names.length (List Char))}
    {keywords keywords' : KeywordDispatcher}
    (h : compileRules names closure index state before keywords (rule :: rules)
      = .ok (entries, keywords')) :
    ∃ entry registered, compileRule names closure state before rule = .ok entry ∧
      keywords.register index rule.kind rule.keywords = (registered, none) ∧
      compileRules names closure index state (before ++ [entry]) registered rules
        = .ok (entries, keywords') := by
  obtain ⟨entry, hentry, h⟩ := except_bind_eq_ok_iff.1 h
  split at h
  · cases h
  · next registered hregistered => exact ⟨entry, registered, hentry, hregistered, h⟩

lemma compileRules_implements {names : List String} {closure : String → CategorySet}
    {index : Nat} {state : String} {rules done : List Rule}
    {before entries : List (Entry names.length (List Char))}
    {keywords keywords' : KeywordDispatcher}
    (hbefore : List.Forall₂ (Entry.Implements Pattern.Reads closure state) done before)
    (hstays : ∀ entry ∈ before, entry.SpecialStays)
    (h : compileRules names closure index state before keywords rules = .ok (entries, keywords')) :
    List.Forall₂ (Entry.Implements Pattern.Reads closure state) (done ++ rules) entries ∧
      ∀ entry ∈ entries, entry.SpecialStays := by
  induction rules generalizing done before keywords with
  | nil =>
    obtain ⟨rfl, -⟩ := Prod.mk.inj (Except.ok.inj h)
    exact ⟨by simpa using hbefore, hstays⟩
  | cons rule rules ih =>
    obtain ⟨entry, registered, hentry, -, h⟩ := compileRules_cons_eq_ok h
    obtain ⟨himplements, hentryStays⟩ := compileRule_implements hentry
    -- The entries in front are those of the rules in front.
    have hdone : List.Forall₂ (Entry.Implements Pattern.Reads closure state) (done ++ [rule])
        (before ++ [entry]) :=
      List.rel_append hbefore (.cons himplements .nil)
    have hstays' : ∀ other ∈ before ++ [entry], other.SpecialStays := by
      intro other hother
      rcases List.mem_append.1 hother with hother | hother
      · exact hstays other hother
      · obtain rfl := List.mem_singleton.1 hother
        exact hentryStays
    simpa using ih hdone hstays' h

/-- The trigger of an entry, and the one that it has when it is ready for matching. -/
inductive Trigger.Prepares : Trigger (List Char) → Trigger Regex.Expr → Prop
  | pattern {source : List Char} {matcher : Regex.Expr}
      (h : Regex.Engine.compile? (anchor source) = some matcher) :
      Prepares (.pattern source) (.pattern matcher)
  | fallback : Prepares .fallback .fallback
  | catchAll : Prepares .catchAll .catchAll

/-- An entry is prepared by its trigger, and the rest of it stays. -/
lemma exists_prepares_of_prepare {n : Nat} {state : String} {entry : Entry n (List Char)}
    {prepared : Entry n Regex.Expr} (h : entry.prepare state = .ok prepared) :
    ∃ trigger, entry.trigger.Prepares trigger ∧ prepared = { entry with trigger } := by
  unfold Entry.prepare at h
  cases htrigger : entry.trigger with
  | pattern source =>
    rw [htrigger] at h
    dsimp only at h
    split at h
    · next matcher hmatcher => exact ⟨_, .pattern hmatcher, (Except.ok.inj h).symm⟩
    · cases h
  | fallback =>
    rw [htrigger] at h
    exact ⟨_, .fallback, (Except.ok.inj h).symm⟩
  | catchAll =>
    rw [htrigger] at h
    exact ⟨_, .catchAll, (Except.ok.inj h).symm⟩

lemma Trigger.Prepares.implements {rule : Rule} {trigger : Trigger (List Char)}
    {ready : Trigger Regex.Expr} (h : trigger.Prepares ready)
    (hrule : trigger.Implements Pattern.Reads rule) : ready.Implements Pattern.Anchors rule := by
  cases h with
  | pattern hmatcher =>
    obtain ⟨pattern, hmatching, hcheck, rfl⟩ := hrule
    exact ⟨pattern, hmatching, hcheck, hmatcher⟩
  | fallback => exact hrule
  | catchAll => exact hrule

lemma Trigger.Prepares.pattern?_eq_none {trigger : Trigger (List Char)} {ready : Trigger Regex.Expr}
    (h : trigger.Prepares ready) (hnone : ready.pattern? = none) : trigger.pattern? = none := by
  cases h with
  | pattern hmatcher => cases hnone
  | fallback => rfl
  | catchAll => rfl

lemma prepare_implements {names : List String} {closure : String → CategorySet}
    {state : String} {rule : Rule} {entry : Entry names.length (List Char)}
    {prepared : Entry names.length Regex.Expr}
    (hentry : entry.Implements Pattern.Reads closure state rule)
    (h : entry.prepare state = .ok prepared) :
    prepared.Implements Pattern.Anchors closure state rule := by
  obtain ⟨ready, hready, rfl⟩ := exists_prepares_of_prepare h
  exact { hentry with trigger := hready.implements hentry.trigger }

lemma prepare_specialStays {n : Nat} {state : String} {entry : Entry n (List Char)}
    {prepared : Entry n Regex.Expr} (hentry : entry.SpecialStays)
    (h : entry.prepare state = .ok prepared) : prepared.SpecialStays := by
  obtain ⟨ready, hready, rfl⟩ := exists_prepares_of_prepare h
  exact fun hnone => hentry (hready.pattern?_eq_none hnone)

/-- A trigger stands for a fallback rule if its rule is one. -/
lemma Trigger.Implements.isFallback_eq {α : Type} {find : Pattern → α → Prop} {rule : Rule}
    {trigger : Trigger α} (h : trigger.Implements find rule) : trigger.isFallback = rule.isFallback := by
  cases trigger with
  | pattern matcher =>
    obtain ⟨pattern, hmatching, -⟩ := h
    unfold Rule.matching? at hmatching
    split_ifs at hmatching with hspecial
    -- A rule that matches by a pattern is not special.
    simp only [Bool.or_eq_true, not_or, Bool.not_eq_true] at hspecial
    exact hspecial.1.symm
  | fallback =>
    have hfallback : rule.isFallback = true := h
    exact hfallback.symm
  | catchAll => exact h.1.symm

/-- The pattern of a trigger is that of its rule. -/
lemma Trigger.Implements.pattern?_eq {rule : Rule} {trigger : Trigger (List Char)}
    (h : trigger.Implements Pattern.Reads rule) :
    trigger.pattern? = rule.matching?.map Pattern.write := by
  cases trigger with
  | pattern source =>
    obtain ⟨pattern, hmatching, -, rfl⟩ := h
    rw [hmatching]
    rfl
  | fallback =>
    have hfallback : rule.isFallback = true := h
    simp [Rule.matching?, hfallback, Trigger.pattern?]
  | catchAll => simp [Rule.matching?, h.2, Trigger.pattern?]

section Entries

variable {names : List String} {closure : String → CategorySet} {state : String}
  {rules : List Rule} {entries : List (Entry names.length (List Char))}

lemma filterMap_pattern?_eq
    (h : List.Forall₂ (Entry.Implements Pattern.Reads closure state) rules entries) :
    entries.filterMap (·.trigger.pattern?) = (patternsOf rules).map Pattern.write := by
  unfold patternsOf
  induction h with
  | nil => rfl
  | @cons rule entry rules entries hentry _ ih =>
    rw [List.filterMap_cons, List.filterMap_cons, hentry.trigger.pattern?_eq, ih]
    cases rule.matching? <;> rfl

lemma any_isFallback_eq
    (h : List.Forall₂ (Entry.Implements Pattern.Reads closure state) rules entries) :
    entries.any (·.trigger.isFallback) = rules.any (·.isFallback) := by
  induction h with
  | nil => rfl
  | cons hentry _ ih => rw [List.any_cons, List.any_cons, hentry.trigger.isFallback_eq, ih]

lemma ofEntries_eq_ok {table : StateTable names.length}
    (hentries : List.Forall₂ (Entry.Implements Pattern.Reads closure state) rules entries)
    (h : StateTable.ofEntries state entries = .ok table) :
    table.name = state ∧ entries.mapM (Entry.prepare state) = .ok table.entries ∧
      Scans rules table.scanner := by
  unfold StateTable.ofEntries at h
  simp only [filterMap_pattern?_eq hentries, any_isFallback_eq hentries] at h
  unfold Scans
  split at h
  · cases h
  · obtain ⟨prepared, hprepared, h⟩ := except_bind_eq_ok_iff.1 h
    -- Without a pattern or a fallback rule no scanner is compiled.
    simp only [List.isEmpty_map, Bool.or_eq_true, List.isEmpty_iff, Bool.not_eq_true'] at h
    split_ifs at h ⊢ with hnone
    · obtain rfl := Except.ok.inj h
      exact ⟨rfl, hprepared, rfl⟩
    · split at h
      · cases h
      · next scanner hscanner =>
        obtain rfl := Except.ok.inj h
        exact ⟨rfl, hprepared, scanner, rfl, hscanner⟩

end Entries

/-! ## Compiling the states -/

/-- What compiling one more state comes to. -/
lemma compileStates_cons_eq_ok {names : List String} {closure : String → CategorySet}
    {index : Nat} {keywords keywords' : KeywordDispatcher} {name : String} {rules : List Rule}
    {rest : List Declaration} {tables :
      { tables : List (StateTable names.length) // tables.length = ((name, rules) :: rest).length }}
    (h : compileStates names closure index keywords ((name, rules) :: rest)
      = .ok (tables, keywords')) :
    rules ≠ [] ∧ ∃ entries registered table tables',
      compileRules names closure index name [] keywords rules = .ok (entries, registered) ∧
      StateTable.ofEntries name entries = .ok table ∧
      compileStates names closure (index + 1) registered rest = .ok (tables', keywords') ∧
      tables.1 = table :: tables'.1 := by
  unfold compileStates at h
  split_ifs at h with hempty
  obtain ⟨⟨entries, registered⟩, hentries, h⟩ := except_bind_eq_ok_iff.1 h
  obtain ⟨table, htable, h⟩ := except_bind_eq_ok_iff.1 h
  obtain ⟨⟨tables', last⟩, htables, h⟩ := except_bind_eq_ok_iff.1 h
  obtain ⟨rfl, rfl⟩ := Prod.mk.inj (Except.ok.inj h)
  have hne : rules ≠ [] := by simpa using hempty
  exact ⟨hne, entries, registered, table, tables', hentries, htable, htables, rfl⟩

lemma compileStates_implements {names : List String} {closure : String → CategorySet}
    {index : Nat} {keywords keywords' : KeywordDispatcher} {declared : List Declaration}
    {tables : { tables : List (StateTable names.length) // tables.length = declared.length }}
    (h : compileStates names closure index keywords declared = .ok (tables, keywords')) :
    List.Forall₂ (StateTable.Implements closure) declared tables.1 := by
  induction declared generalizing index keywords keywords' with
  | nil =>
    obtain ⟨rfl, -⟩ := Prod.mk.inj (Except.ok.inj h)
    exact .nil
  | cons declaration rest ih =>
    obtain ⟨name, rules⟩ := declaration
    obtain ⟨hne, entries, registered, table, tables', hentries, htable, htables, hcons⟩ :=
      compileStates_cons_eq_ok h
    obtain ⟨hrules, hstays⟩ := compileRules_implements .nil (by simp) hentries
    obtain ⟨hname, hprepared, hscans⟩ := ofEntries_eq_ok hrules htable
    have hstep (rule : Rule) (entry : Entry names.length (List Char))
        (prepared : Entry names.length Regex.Expr)
        (hentry : entry.Implements Pattern.Reads closure name rule)
        (h : entry.prepare name = .ok prepared) :
        prepared.Implements Pattern.Anchors closure name rule :=
      prepare_implements hentry h
    -- That special entries stay is seen from the entries before their patterns were compiled.
    have hspecial : ∀ entry ∈ table.entries, entry.SpecialStays := by
      intro entry hentry
      obtain ⟨source, hsource, hprepare⟩ := exists_of_mem_mapM hprepared hentry
      exact prepare_specialStays (hstays source hsource) hprepare
    rw [hcons]
    exact .cons ⟨hname, hne, forall₂_of_mapM hstep hrules hprepared, hspecial, hscans⟩ (ih htables)

/-! ## Putting a lexicon together -/

/-- What a compiled lexicon has been put together from. -/
structure Lexicon.ComposedOf (declared : List Declaration) (categories : CategoryRegistry)
    (options : LexerOptions) (lexicon : Lexicon) : Prop where
  names_eq : lexicon.names = declared.map (·.1)
  distinct : duplicate? [] lexicon.names = none
  options_eq : lexicon.options = options
  start : ∃ nonempty, resolveStart lexicon.names nonempty options.start = .ok lexicon.start
  categories_eq : lexicon.categories = categories
  closures_eq : lexicon.closures = (firstOccurrences ((allTags declared).map (·.1))).map fun kind =>
    (kind, closureOf categories (allTags declared) kind)
  kinds_eq : lexicon.kinds = producedKinds declared
  states : ∃ tables, compileStates lexicon.names lexicon.closure 0 .empty declared
    = .ok (tables, lexicon.keywords) ∧ tables.1 = lexicon.tables

lemma Lexicon.composedOf_of_ofStates {declared : List Declaration} {categories : CategoryRegistry}
    {options : LexerOptions} {lexicon : Lexicon}
    (h : Lexicon.ofStates declared categories options = .ok lexicon) :
    lexicon.ComposedOf declared categories options := by
  unfold Lexicon.ofStates at h
  simp only at h
  split_ifs at h with hnonempty
  split at h
  · cases h
  · rename_i hduplicate
    obtain ⟨start, hstart, h⟩ := except_bind_eq_ok_iff.1 h
    split at h
    · cases h
    · obtain ⟨⟨tables, keywords⟩, htables, h⟩ := except_bind_eq_ok_iff.1 h
      obtain rfl := Except.ok.inj h
      exact ⟨rfl, hduplicate, rfl, ⟨hnonempty, hstart⟩, rfl, rfl, rfl, tables, htables, rfl⟩

/-- **A compiled lexicon is the compiled form of the declared states.** -/
theorem Lexicon.implements_of_ofStates {declared : List Declaration}
    {categories : CategoryRegistry} {options : LexerOptions} {lexicon : Lexicon}
    (h : Lexicon.ofStates declared categories options = .ok lexicon) :
    lexicon.Implements declared := by
  obtain ⟨hnames, hdistinct, -, -, -, -, -, tables, hstates, htables⟩ := composedOf_of_ofStates h
  refine ⟨hnames, (nodup_of_duplicate?_eq_none hdistinct).1, ?_⟩
  rw [← htables]
  exact compileStates_implements hstates

/-! ## States and rules as declared -/

/-- The table of a state is that of its declaration. -/
lemma Lexicon.Implements.exists_declaration {declared : List Declaration} {lexicon : Lexicon}
    (h : lexicon.Implements declared) (state : lexicon.StateId) :
    ∃ rules, declared[state.val]? = some (lexicon.stateName state, rules) ∧
      (lexicon.table state).Implements lexicon.closure (lexicon.stateName state, rules) := by
  have hdeclared : state.val < declared.length := by
    have hlength := congrArg List.length h.names_eq
    -- States are numbered as they are declared.
    rw [List.length_map] at hlength
    exact hlength ▸ state.isLt
  have hname : lexicon.stateName state = declared[state.val].1 := by
    simp [stateName, h.names_eq]
  have htable := h.tables.get hdeclared (lexicon.tables_length.symm ▸ state.isLt)
  refine ⟨declared[state.val].2, ?_, ?_⟩
  · rw [hname]
    exact List.getElem?_eq_getElem hdeclared
  · rw [hname]
    exact htable

/-- Names are used once, so the rules that are declared for the name of a state are those of its
table. -/
lemma Lexicon.Implements.of_mem {declared : List Declaration} {lexicon : Lexicon}
    (h : lexicon.Implements declared) {state : lexicon.StateId} {rules : List Rule}
    (hrules : (lexicon.stateName state, rules) ∈ declared) :
    (lexicon.table state).Implements lexicon.closure (lexicon.stateName state, rules) := by
  obtain ⟨own, hown, htable⟩ := h.exists_declaration state
  have hnodup : (declared.map (·.1)).Nodup := h.names_eq ▸ h.nodup_names
  have hsame := List.inj_on_of_nodup_map hnodup hrules (List.mem_of_getElem? hown) rfl
  rw [hsame]
  exact htable

/-- An entry of a table is the compiled form of one of the declared rules. -/
lemma StateTable.Implements.exists_rule {names : List String} {closure : String → CategorySet}
    {declaration : Declaration} {table : StateTable names.length}
    (h : table.Implements closure declaration) {entry : Entry names.length Regex.Expr}
    (hentry : entry ∈ table.entries) :
    ∃ rule ∈ declaration.2, entry.Implements Pattern.Anchors closure declaration.1 rule := by
  obtain ⟨index, hindex, rfl⟩ := List.mem_iff_getElem.1 hentry
  have hrules : index < declaration.2.length := by
    rw [h.entries.length_eq]
    exact hindex
  exact ⟨declaration.2[index], List.getElem_mem hrules, h.entries.get hrules hindex⟩

end Engine

/-- Without limits of the engine a pattern has passed that can be read. -/
lemma exists_of_checkPattern {kind : String} {pattern : Pattern} {source : List Char}
    (h : checkPattern kind pattern = .ok source) :
    source = pattern.write ∧
      ∃ e, Regex.Expr.ofText? pattern.write = some e ∧ e.minLength? ≠ some 0 :=
  exists_read?_of_checkPattern h

/-- What is chosen is an entry of the state. -/
lemma StateTable.mem_entries_of_choose {n : Nat} {table : StateTable n} {text : List Char}
    {entry : Entry n Regex.Expr} {length : Nat} (h : table.choose text = some (entry, length)) :
    entry ∈ table.entries := by
  -- The three places where an entry comes from: the best match, the fallback rule, the rule for
  -- the rest.
  unfold choose at h
  split at h
  · obtain ⟨found, hfound, hsame⟩ := Option.map_eq_some_iff.1 h
    obtain ⟨rfl, -⟩ := Prod.mk.inj hsame
    exact List.mem_of_getElem? hfound
  · split at h
    · rename_i hfallback
      obtain ⟨rfl, -⟩ := Prod.mk.inj (Option.some.inj h)
      exact List.mem_of_find?_eq_some hfallback
    · obtain ⟨found, hfound, hsame⟩ := Option.map_eq_some_iff.1 h
      obtain ⟨rfl, -⟩ := Prod.mk.inj hsame
      exact List.mem_of_find?_eq_some hfound

/-! ## States and their names -/

namespace Lexicon

variable {lexicon : Lexicon}

/-- The name of a state leads back to it, as names are distinct. -/
lemma state?_stateName (hnodup : lexicon.names.Nodup) (state : lexicon.StateId) :
    lexicon.state? (lexicon.stateName state) = some state := by
  unfold state? stateName
  rw [List.finIdxOf?_eq_some_iff]
  refine ⟨rfl, fun j hj hsame => ?_⟩
  have hindex : j = state := (List.nodup_iff_injective_get.1 hnodup) hsame
  exact absurd hj (by simp [hindex])

lemma filterMap_state?_map_stateName (hnodup : lexicon.names.Nodup)
    (states : List lexicon.StateId) :
    (states.map lexicon.stateName).filterMap lexicon.state? = states := by
  have hround : lexicon.state? ∘ lexicon.stateName = some := by
    funext state
    exact state?_stateName hnodup state
  rw [List.filterMap_map, hround, List.filterMap_some]

end Lexicon

end Lexical
