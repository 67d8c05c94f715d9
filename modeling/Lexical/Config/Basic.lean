import Lexical.Lexicon.Compile

/-!
# Lexers described by data

A `LexerConfig` describes a lexer without any code: categories by name, and states with rules that
have a text, several texts or a regular expression to match.  `LexerConfig.build` makes a lexicon of
it.

The order of categories, states and keywords matters: a category's parents have to stand before it,
and the first state is the one to start in.
-/

namespace Lexical

/-- One text or a list of them. -/
inductive OneOrMany where
  | one (text : String)
  | many (texts : List String)
deriving DecidableEq

def OneOrMany.toList : OneOrMany → List String
  | one text => [text]
  | many texts => texts

/-- A rule as data. -/
structure RuleConfig where
  kind : String
  /-- The texts that the rule matches, if it matches texts. -/
  literal : Option OneOrMany
  regex : Option String
  lineBreaks : Bool
  push : Option String
  pop : Option Nat
  next : Option String
  error : Bool
  ignore : Bool
  fallback : Bool
  categories : List String
  keywords : List (String × OneOrMany)
deriving DecidableEq

/-- A lexer as data. -/
structure LexerConfig where
  /-- The categories with the names of their parents. -/
  categories : List (String × List String)
  states : List (String × List RuleConfig)
  /-- The rules of the only state; there must not be other states then. -/
  rules : List RuleConfig
  options : LexerOptions
deriving DecidableEq

namespace RuleConfig

/-- The error of a rule that contradicts itself. -/
def contradiction (rule : RuleConfig) (state what : String) : ConfigError :=
  .malformed s!"rule '{rule.kind}' in state '{state}' {what}"

/-- The rule without its refinements. -/
def base (rule : RuleConfig) (state : String) : Except ConfigError Rule :=
  if rule.fallback && rule.error then
    .error (rule.contradiction state "cannot be both `fallback` and `error`")
  else if rule.fallback && (rule.literal.isSome || rule.regex.isSome) then
    .error (rule.contradiction state "is a `fallback` rule and takes no pattern")
  else
    match rule.literal, rule.regex with
    | some _, some _ => .error (rule.contradiction state "has both `match` and `regex`")
    | some (.one text), none => .ok (.literal rule.kind text)
    | some (.many texts), none => .ok (.ofPattern rule.kind (.literals texts))
    | none, some source => .ok (.regex rule.kind source)
    | none, none =>
      if rule.fallback then .ok (.fallback rule.kind)
      else if rule.error then .ok (.error rule.kind)
      else .error (.missingPattern state rule.kind)

/-- The transitions that the rule asks for. -/
def transitions (rule : RuleConfig) : List (Transition String) :=
  (rule.push.map .push).toList ++ (rule.pop.map .pop).toList ++ (rule.next.map .next).toList

/-- The rule that the data describes. -/
def lower (rule : RuleConfig) (state : String) (registry : CategoryRegistry) :
    Except ConfigError Rule := do
  let base ← rule.base state
  let categories ← rule.categories.mapM registry.require
  return { base with
    lineBreaks := base.lineBreaks || rule.lineBreaks
    isError := rule.error
    isIgnored := rule.ignore
    transitions := rule.transitions
    categories
    keywords := rule.keywords.map fun (kind, values) => ⟨kind, values.toList, []⟩ }

end RuleConfig

namespace LexerConfig

/-- Create categories one after the other. -/
def createCategories (registry : CategoryRegistry) :
    List (String × List String) → Except ConfigError CategoryRegistry
  | [] => .ok registry
  | (name, parents) :: rest => do
    let parents ← parents.mapM registry.require
    let (registry, _) ← registry.create name parents
    createCategories registry rest

/-- The states that the data describes. -/
def declarations (config : LexerConfig) : List (String × List RuleConfig) :=
  if config.rules.isEmpty then config.states else [(defaultState, config.rules)]

/-- The lexicon that the data describes. -/
def build (config : LexerConfig) : Except ConfigError Lexicon := do
  let registry ← createCategories .empty config.categories
  if !config.rules.isEmpty && !config.states.isEmpty then
    .error (.malformed "`rules` and `states` cannot both be given")
  else
    let declared ← config.declarations.mapM fun (state, rules) => do
      return (state, ← rules.mapM (·.lower state registry))
    Lexicon.ofStates declared registry config.options

end LexerConfig

end Lexical
