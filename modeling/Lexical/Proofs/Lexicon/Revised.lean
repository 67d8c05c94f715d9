import Lexical.Proofs.Lexicon.Declared
import Lexical.Proofs.Lexicon.Places

/-!
# Rules that are ignored or not

Whether a rule is ignored is of no concern to the compiler, and neither are the options apart from the
start state.  So rules that differ from others in what is ignored compile if the others do, and what
comes out differs in the same way (`Lexicon.ofStates_revise`): the states are the same, each chooses
the same rules for the same lengths (`StateTable.choose_revise`), and keywords and categories are what
they were.  Only the kinds that are listed depend on what is ignored.
-/

namespace Lexical

variable {n : Nat} {α : Type} (ignored : Bool → Bool)

/-- The rule with another choice of whether matches give tokens, made of the one that it has. -/
def Rule.revise (rule : Rule) : Rule :=
  { rule with isIgnored := ignored rule.isIgnored }

def Declaration.revise (declaration : Declaration) : Declaration :=
  (declaration.1, declaration.2.map (Rule.revise ignored))

def Entry.revise (entry : Entry n α) : Entry n α :=
  { entry with isIgnored := ignored entry.isIgnored }

def StateTable.revise (table : StateTable n) : StateTable n :=
  { table with entries := table.entries.map (Entry.revise ignored) }

/-- The lexicon with another choice of what is ignored, other options and other kinds.  Its states are
those of the lexicon. -/
@[reducible] def Lexicon.revise (options : LexerOptions) (kinds : List String) (lexicon : Lexicon) :
    Lexicon :=
  { lexicon with
    tables := lexicon.tables.map (StateTable.revise ignored)
    tables_length := by rw [List.length_map, lexicon.tables_length]
    options
    kinds }

/-! ## Compiling -/

lemma any_fallback_revise (entries : List (Entry n α)) :
    (entries.map (Entry.revise ignored)).any (·.trigger.isFallback)
      = entries.any (·.trigger.isFallback) := by
  rw [List.any_map]
  rfl

lemma any_catchAll_revise (entries : List (Entry n α)) :
    (entries.map (Entry.revise ignored)).any (·.trigger.isCatchAll)
      = entries.any (·.trigger.isCatchAll) := by
  rw [List.any_map]
  rfl

lemma compileRule_revise (names : List String) (closure : String → CategorySet) (state : String)
    (before : List (Entry names.length (List Char))) (rule : Rule) :
    compileRule names closure state (before.map (Entry.revise ignored)) (rule.revise ignored)
      = (compileRule names closure state before rule).map (Entry.revise ignored) := by
  have htransition :
      resolveTransition names state (rule.revise ignored) = resolveTransition names state rule := rfl
  -- A trigger depends on the rules before it only by whether there is a fallback or a catch-all
  -- rule.
  have htrigger (transition : Option (Transition (Fin names.length))) :
      resolveTrigger state (before.map (Entry.revise ignored)) (rule.revise ignored) transition
        = resolveTrigger state before rule transition := by
    unfold resolveTrigger
    rw [any_fallback_revise, any_catchAll_revise]
    rfl
  unfold compileRule
  rw [htransition]
  cases resolveTransition names state rule with
  | error error => rfl
  | ok transition =>
    simp only [htrigger, bind, Except.bind]
    cases resolveTrigger state before rule transition <;> rfl

/-- The rules of a state compile alike.  The induction is on the rules. -/
lemma compileRules_revise {names : List String} {closure : String → CategorySet} {index : Nat}
    {state : String} {rules : List Rule} {before entries : List (Entry names.length (List Char))}
    {keywords keywords' : KeywordDispatcher}
    (h : compileRules names closure index state before keywords rules = .ok (entries, keywords')) :
    compileRules names closure index state (before.map (Entry.revise ignored)) keywords
        (rules.map (Rule.revise ignored))
      = .ok (entries.map (Entry.revise ignored), keywords') := by
  induction rules generalizing before keywords with
  | nil =>
    obtain ⟨rfl, rfl⟩ := Prod.mk.inj (Except.ok.inj h)
    rfl
  | cons rule rules ih =>
    obtain ⟨entry, registered, hentry, hregistered, h⟩ := compileRules_cons_eq_ok h
    have hkeywords : keywords.register index (rule.revise ignored).kind (rule.revise ignored).keywords
        = keywords.register index rule.kind rule.keywords := rfl
    have hbefore : before.map (Entry.revise ignored) ++ [entry.revise ignored]
        = (before ++ [entry]).map (Entry.revise ignored) := by
      rw [List.map_append, List.map_singleton]
    rw [List.map_cons, compileRules, compileRule_revise, hentry]
    simp only [Except.map, bind, Except.bind, hkeywords, hregistered, hbefore]
    exact ih h

lemma prepare_revise (state : String) (entry : Entry n (List Char)) :
    (entry.revise ignored).prepare state = (entry.prepare state).map (Entry.revise ignored) := by
  unfold Entry.prepare
  have htrigger : (entry.revise ignored).trigger = entry.trigger := rfl
  rw [htrigger]
  cases entry.trigger with
  | pattern source =>
    dsimp only
    cases Regex.Engine.compile? (anchor source) <;> rfl
  | fallback => rfl
  | catchAll => rfl

lemma mapM_prepare_revise (state : String) (entries : List (Entry n (List Char))) :
    (entries.map (Entry.revise ignored)).mapM (Entry.prepare state)
      = (entries.mapM (Entry.prepare state)).map (List.map (Entry.revise ignored)) := by
  induction entries with
  | nil => rfl
  | cons entry entries ih =>
    rw [List.map_cons, List.mapM_cons, List.mapM_cons, prepare_revise, ih]
    cases entry.prepare state with
    | error error => rfl
    | ok prepared => cases entries.mapM (Entry.prepare state) <;> rfl

lemma ofEntries_revise (name : String) (entries : List (Entry n (List Char))) :
    StateTable.ofEntries name (entries.map (Entry.revise ignored))
      = (StateTable.ofEntries name entries).map (StateTable.revise ignored) := by
  -- The sources come from the triggers alone, so the matcher and the scanner are the same.
  have hsources : (entries.map (Entry.revise ignored)).filterMap (·.trigger.pattern?)
      = entries.filterMap (·.trigger.pattern?) := by
    rw [List.filterMap_map]
    rfl
  unfold StateTable.ofEntries
  simp only [hsources, mapM_prepare_revise, any_fallback_revise]
  split
  · rfl
  · cases entries.mapM (Entry.prepare name) with
    | error error => rfl
    | ok prepared =>
      simp only [Except.map, bind, Except.bind]
      split
      · rfl
      · cases Regex.Engine.compile? (Pattern.writeBranches (entries.filterMap (·.trigger.pattern?)))
          <;> rfl

/-- States compile alike.  The induction is on the states. -/
lemma compileStates_revise {names : List String} {closure : String → CategorySet} {index : Nat}
    {keywords keywords' : KeywordDispatcher} {declared : List Declaration}
    {tables : { tables : List (StateTable names.length) // tables.length = declared.length }}
    (h : compileStates names closure index keywords declared = .ok (tables, keywords')) :
    ∃ revised, compileStates names closure index keywords (declared.map (Declaration.revise ignored))
        = .ok (revised, keywords') ∧ revised.1 = tables.1.map (StateTable.revise ignored) := by
  induction declared generalizing index keywords keywords' with
  | nil =>
    obtain ⟨rfl, rfl⟩ := Prod.mk.inj (Except.ok.inj h)
    exact ⟨⟨[], rfl⟩, rfl, rfl⟩
  | cons declaration rest ih =>
    obtain ⟨name, rules⟩ := declaration
    obtain ⟨hne, entries, registered, table, others, hentries, htable, hothers, hcons⟩ :=
      compileStates_cons_eq_ok h
    obtain ⟨revised, hrevised, hsame⟩ := ih hothers
    have hentries' := compileRules_revise ignored hentries
    rw [List.map_nil] at hentries'
    have htable' : StateTable.ofEntries name (entries.map (Entry.revise ignored))
        = .ok (table.revise ignored) := by
      rw [ofEntries_revise, htable]
      rfl
    have hsome : (rules.map (Rule.revise ignored)).isEmpty = false := by
      rw [List.isEmpty_map]
      simpa using hne
    refine ⟨⟨table.revise ignored :: revised.1, by simp [revised.2]⟩, ?_, by simp [hsame, hcons]⟩
    show compileStates names closure index keywords
      ((name, rules.map (Rule.revise ignored)) :: rest.map (Declaration.revise ignored)) = _
    unfold compileStates
    simp only [hsome, hentries', htable', hrevised, bind, Except.bind]
    rfl

/-! ## Putting a lexicon together -/

lemma allTags_revise (declared : List Declaration) :
    allTags (declared.map (Declaration.revise ignored)) = allTags declared := by
  have hrules (rules : List Rule) :
      (rules.map (Rule.revise ignored)).flatMap Rule.tags = rules.flatMap Rule.tags := by
    rw [List.flatMap_map]
    rfl
  unfold allTags
  rw [List.flatMap_map]
  simp only [Declaration.revise, hrules]

/-- The categories that rules refer to are checked. -/
lemma Lexicon.find?_unknown_of_ofStates {declared : List Declaration} {categories : CategoryRegistry}
    {options : LexerOptions} {lexicon : Lexicon}
    (h : Lexicon.ofStates declared categories options = .ok lexicon) :
    ((allTags declared).flatMap (·.2)).find? (fun id => !categories.contains id) = none := by
  unfold Lexicon.ofStates at h
  simp only at h
  split_ifs at h
  split at h
  · cases h
  · obtain ⟨start, -, h⟩ := except_bind_eq_ok_iff.1 h
    split at h
    · cases h
    · assumption

/-- What can be put together is what the rules compile to, if the categories are known. -/
lemma Lexicon.ofStates_of_composedOf {declared : List Declaration} {categories : CategoryRegistry}
    {options : LexerOptions} {lexicon : Lexicon} (h : lexicon.ComposedOf declared categories options)
    (hknown : ((allTags declared).flatMap (·.2)).find? (fun id => !categories.contains id) = none) :
    Lexicon.ofStates declared categories options = .ok lexicon := by
  obtain ⟨names, tables, tables_length, start, options', keywords, closures, kinds, categories'⟩ :=
    lexicon
  obtain ⟨hnames, hdistinct, hoptions, ⟨hnonempty, hstart⟩, hcategories, hclosures, hkinds,
    ⟨compiled, hcompiled⟩, hstates, htables⟩ := h
  simp only at hnames hdistinct hoptions hnonempty hstart hcategories hclosures hkinds htables
  subst hnames hoptions hcategories hclosures hkinds
  unfold closure at hstates
  simp only at hstates
  obtain rfl : tables = compiled := htables.symm
  unfold Lexicon.ofStates
  simp only [hnonempty, dite_true, hdistinct, hstart, hknown]
  simp only [bind, Except.bind, hstates]
  rfl

/-- **Rules that differ in what is ignored compile alike**, with any options that name the same start
state. -/
theorem Lexicon.ofStates_revise {declared : List Declaration} {categories : CategoryRegistry}
    {options options' : LexerOptions} {lexicon : Lexicon} (hstart : options'.start = options.start)
    (h : Lexicon.ofStates declared categories options = .ok lexicon) :
    Lexicon.ofStates (declared.map (Declaration.revise ignored)) categories options'
      = .ok (lexicon.revise ignored options'
        (producedKinds (declared.map (Declaration.revise ignored)))) := by
  obtain ⟨hnames, hdistinct, hoptions, ⟨hnonempty, hstarts⟩, hcategories, hclosures, -, compiled,
    hstates, htables⟩ := composedOf_of_ofStates h
  obtain ⟨revised, hrevised, hsame⟩ := compileStates_revise ignored hstates
  refine ofStates_of_composedOf ⟨?_, hdistinct, rfl, ⟨hnonempty, ?_⟩, hcategories, ?_, rfl, revised,
    hrevised, ?_⟩ ?_
  · rw [hnames, List.map_map]
    rfl
  · rw [hstart]
    exact hstarts
  · rw [allTags_revise]
    exact hclosures
  · rw [hsame, htables]
  · rw [allTags_revise]
    exact find?_unknown_of_ofStates h

/-- Where nothing is decided anew, nothing changes. -/
lemma map_revise_id (declared : List Declaration) : declared.map (Declaration.revise id) = declared := by
  have hrules : Rule.revise id = id := rfl
  have hdeclaration : Declaration.revise id = id := by
    funext declaration
    rw [Declaration.revise, hrules, List.map_id]
    rfl
  rw [hdeclaration, List.map_id]

/-! ## What a state chooses -/

namespace StateTable

lemma matcher_revise (table : StateTable n) : (table.revise ignored).matcher = table.matcher := by
  unfold matcher
  simp only [revise, List.zipIdx_map, List.filterMap_map]
  rfl

lemma select?_revise (table : StateTable n) (text : List Char) :
    (table.revise ignored).select? text = table.select? text := by
  have hfallback : (table.revise ignored).entries.findIdx? (·.trigger.isFallback)
      = table.entries.findIdx? (·.trigger.isFallback) := by
    rw [revise, List.findIdx?_map]
    rfl
  have hcatchAll : (table.revise ignored).entries.findIdx? (·.trigger.isCatchAll)
      = table.entries.findIdx? (·.trigger.isCatchAll) := by
    rw [revise, List.findIdx?_map]
    rfl
  rw [select?, select?, special?, special?, matcher_revise, hfallback, hcatchAll]
  rfl

/-- **A state chooses the same rule, for the same text.** -/
theorem choose_revise (table : StateTable n) (text : List Char) :
    (table.revise ignored).choose text
      = (table.choose text).map fun (entry, length) => (entry.revise ignored, length) := by
  rw [choose_eq_bind_select?, choose_eq_bind_select?, select?_revise]
  cases table.select? text with
  | none => rfl
  | some selected =>
    obtain ⟨place, length⟩ := selected
    simp only [revise, Option.bind_some, List.getElem?_map, Option.map_map]
    rfl

end StateTable

lemma Lexicon.table_revise (options : LexerOptions) (kinds : List String) (lexicon : Lexicon)
    (state : lexicon.StateId) :
    (lexicon.revise ignored options kinds).table state = (lexicon.table state).revise ignored := by
  simp [Lexicon.table]

end Lexical
