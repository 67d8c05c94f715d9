import Lexical.Lexicon.Basic
import Lexical.Regex.Engine

/-!
# Compiling rules

`Lexicon.ofStates` checks declared states and makes a lexicon of them.  The first thing that is wrong
is the error: the names of the states first, then the categories of all rules, then the states one by
one, and in a state its rules one by one.

A pattern becomes the regular expression that stands for it, anchored to the start of the text by a
`^` in front of its text.  A text that closes the group around it before its end has branches to
which the anchor does not apply.

What is a regular expression, and which of them are too large, is up to the engine
(`Regex.Engine`): it reads each pattern, and compiles those of a state as a set, one by one and, for a
fallback rule, joined.
-/

namespace Lexical

/-- A declared state: its name and its rules. -/
abbrev Declaration := String × List Rule

/-- The elements of a list, each where it first stands. -/
def firstOccurrences {α : Type} [DecidableEq α] (items : List α) : List α :=
  Regex.distinct [] items

/-! ## Kinds and their categories -/

/-- Each kind that a rule mentions with the categories it is given there. -/
def Rule.tags (rule : Rule) : List (String × List CategoryId) :=
  (rule.kind, rule.categories) :: rule.keywords.map fun keyword => (keyword.kind, keyword.categories)

/-- Each kind that any rule mentions with the categories it is given there. -/
def allTags (declared : List Declaration) : List (String × List CategoryId) :=
  declared.flatMap fun (_, rules) => rules.flatMap Rule.tags

/-- The categories of a kind, with their ancestors, from all places at which it is mentioned. -/
def closureOf (categories : CategoryRegistry) (tags : List (String × List CategoryId))
    (kind : String) : CategorySet :=
  categories.closure ((tags.filter (·.1 = kind)).flatMap (·.2))

/-- The kinds of which there can be tokens. -/
def producedKinds (declared : List Declaration) : List String :=
  firstOccurrences (declared.flatMap fun (_, rules) =>
    (rules.filter fun rule => !rule.isIgnored).flatMap fun rule => rule.tags.map (·.1))

/-! ## Rules -/

/-- The change of the stack that a rule makes. -/
def resolveTransition (names : List String) (state : String) (rule : Rule) :
    Except ConfigError (Option (Transition (Fin names.length))) :=
  match rule.transitions with
  | [] => .ok none
  | [.push target] => (lookup target).map fun id => some (.push id)
  | [.next target] => (lookup target).map fun id => some (.next id)
  | [.pop count] =>
    if count = 0 then .error (.emptyPop state rule.kind) else .ok (some (.pop count))
  | _ => .error (.conflictingTransitions state rule.kind)
where
  lookup (target : String) : Except ConfigError (Fin names.length) :=
    match names.finIdxOf? target with
    | some id => .ok id
    | none => .error (.unknownState state rule.kind target)

section Engine

variable [Regex.Engine]

/-- The text of a pattern's regular expression, if a rule can have it: it has to be well-formed,
without captures, and without empty matches as far as its form tells. -/
def checkPattern (kind : String) (pattern : Pattern) : Except ConfigError (List Char) :=
  match Regex.Engine.read? pattern.write with
  | none => .error (.invalidPattern kind pattern.source)
  | some e =>
    if e.hasCapture then .error (.captureGroup kind pattern.source)
    else if e.minLength? = some 0 then .error (.emptyMatch kind pattern.source)
    else .ok pattern.write

/-- When a rule applies, where `before` are the entries of its state that stand before it. -/
def resolveTrigger {n : Nat} (state : String) (before : List (Entry n (List Char))) (rule : Rule)
    (transition : Option (Transition (Fin n))) : Except ConfigError (Trigger (List Char)) :=
  if rule.isFallback then
    special .fallback .fallback (before.any (·.trigger.isFallback))
  else if rule.isCatchAll then
    special .error .catchAll (before.any (·.trigger.isCatchAll))
  else
    match rule.pattern with
    | some pattern => (checkPattern rule.kind pattern).map .pattern
    | none => .error (.missingPattern state rule.kind)
where
  special (role : SpecialRole) (trigger : Trigger (List Char)) (taken : Bool) :
      Except ConfigError (Trigger (List Char)) :=
    if taken then .error (.duplicateSpecialRule state role)
    else if transition.isSome then .error (.specialRuleTransition state rule.kind role)
    else .ok trigger

/-- The entry of a rule, with its pattern as the text of a regular expression. -/
def compileRule (names : List String) (closure : String → CategorySet) (state : String)
    (before : List (Entry names.length (List Char))) (rule : Rule) :
    Except ConfigError (Entry names.length (List Char)) := do
  let transition ← resolveTransition names state rule
  let trigger ← resolveTrigger state before rule transition
  return {
    kind := rule.kind
    trigger
    lineBreaks := rule.lineBreaks
    transition
    isError := rule.isError
    isIgnored := rule.isIgnored
    transform := rule.transform
    categories := closure rule.kind
    hasKeywords := !rule.keywords.isEmpty }

/-- The entries of the rules of a state, with the keywords of all states so far. -/
def compileRules (names : List String) (closure : String → CategorySet) (index : Nat)
    (state : String) (before : List (Entry names.length (List Char)))
    (keywords : KeywordDispatcher) :
    List Rule → Except ConfigError (List (Entry names.length (List Char)) × KeywordDispatcher)
  | [] => .ok (before, keywords)
  | rule :: rest => do
    let entry ← compileRule names closure state before rule
    match keywords.register index rule.kind rule.keywords with
    | (_, some error) => .error error
    | (keywords, none) =>
      compileRules names closure index state (before ++ [entry]) keywords rest

/-! ## States -/

/-- A regular expression tied to the start of the text. -/
def anchor (source : List Char) : List Char :=
  '^' :: source

/-- The entry with its pattern ready for matching, in the state called `state`. -/
def Entry.prepare {n : Nat} (state : String) (entry : Entry n (List Char)) :
    Except ConfigError (Entry n Regex.Expr) :=
  match entry.trigger with
  | .pattern source =>
    match Regex.Engine.compile? (anchor source) with
    | some matcher => .ok { entry with trigger := .pattern matcher }
    | none => .error (.invalidPattern state (String.ofList (anchor source)))
  | .fallback => .ok { entry with trigger := .fallback }
  | .catchAll => .ok { entry with trigger := .catchAll }

/-- The state of the given entries.  Patterns that are well-formed by themselves can fail here, where
they are put together or turn out too large. -/
def StateTable.ofEntries {n : Nat} (name : String) (entries : List (Entry n (List Char))) :
    Except ConfigError (StateTable n) :=
  let sources := entries.filterMap (·.trigger.pattern?)
  let joined (sources : List (List Char)) := String.ofList (Pattern.writeBranches sources)
  if !sources.isEmpty && !Regex.Engine.compilesSet (sources.map anchor) then
    .error (.invalidPattern name (joined (sources.map anchor)))
  else do
    let prepared ← entries.mapM (Entry.prepare name)
    if sources.isEmpty || !entries.any (·.trigger.isFallback) then return ⟨name, prepared, none⟩
    else
      match Regex.Engine.compile? (Pattern.writeBranches sources) with
      | none => .error (.invalidPattern name (joined sources))
      | some scanner => return ⟨name, prepared, some scanner⟩

/-- The tables of the declared states from the one with number `index` on, and the keywords of all
states. -/
def compileStates (names : List String) (closure : String → CategorySet) (index : Nat)
    (keywords : KeywordDispatcher) :
    (declared : List Declaration) →
      Except ConfigError
        ({ tables : List (StateTable names.length) // tables.length = declared.length }
          × KeywordDispatcher)
  | [] => .ok (⟨[], rfl⟩, keywords)
  | (name, rules) :: rest =>
    if rules.isEmpty then .error (.emptyState name)
    else do
      let (entries, keywords) ← compileRules names closure index name [] keywords rules
      let table ← StateTable.ofEntries name entries
      let (tables, keywords) ← compileStates names closure (index + 1) keywords rest
      return (⟨table :: tables.1, by simp [tables.2]⟩, keywords)

/-! ## Lexicons -/

/-- A name that stands twice, if there is one: the first that repeats another. -/
def duplicate? (seen : List String) : List String → Option String
  | [] => none
  | name :: rest => if seen.contains name then some name else duplicate? (name :: seen) rest

/-- The state to start in. -/
def resolveStart (names : List String) (nonempty : 0 < names.length) (start : Option String) :
    Except ConfigError (Fin names.length) :=
  match start with
  | none => .ok ⟨0, nonempty⟩
  | some name =>
    match names.finIdxOf? name with
    | some id => .ok id
    | none => .error (.unknownStartState name)

/-- The lexicon of declared states, whose rules may refer to the given categories. -/
def Lexicon.ofStates (declared : List Declaration) (categories : CategoryRegistry)
    (options : LexerOptions) : Except ConfigError Lexicon :=
  let names := declared.map (·.1)
  if nonempty : 0 < names.length then
    match duplicate? [] names with
    | some name => .error (.duplicateState name)
    | none => do
      let start ← resolveStart names nonempty options.start
      let tags := allTags declared
      match (tags.flatMap (·.2)).find? fun id => !categories.contains id with
      | some id => .error (CategoryRegistry.unknownId id)
      | none =>
        let closures := (firstOccurrences (tags.map (·.1))).map fun kind =>
          (kind, closureOf categories tags kind)
        let closure (kind : String) := (closures.lookup kind).getD .empty
        let (tables, keywords) ← compileStates names closure 0 .empty declared
        return {
          names
          tables := tables.1
          tables_length := by simp [tables.2, names]
          start
          options
          keywords
          closures
          kinds := producedKinds declared
          categories }
  else .error .noStates

/-- The name of the state of a lexicon that has only one. -/
def defaultState : String :=
  "start"

/-- The lexicon of a single state. -/
def Lexicon.ofRules (rules : List Rule) (categories : CategoryRegistry) :
    Except ConfigError Lexicon :=
  Lexicon.ofStates [(defaultState, rules)] categories .standard

end Engine

end Lexical
