import Lexical.Regex.Search
import Lexical.Rule

/-!
# Lexicons

A `Lexicon` is a set of rules that has been checked and is ready for lexing: a row of named states,
each with its rules.  States are known by their place (`Lexicon.StateId`), so that a transition
always leads to a state that there is.

What a state makes of a text is decided here, too: `StateMatcher.longest` is the longest match at the
start of a text, of the first rule among those with equally long ones, and `StateTable.choose` falls
back on the special rules where nothing matches.  Special rules have no pattern, so the number of a
pattern and the place of its rule are not the same.
-/

namespace Lexical

/-- Choices that hold for a whole lexicon. -/
structure LexerOptions where
  /-- A line break in a match of a rule that does not count line breaks is an error. -/
  strictLineBreaks : Bool
  /-- A text may end in a pushed state. -/
  partialInput : Bool
  /-- The state to start in, if it is not the first. -/
  start : Option String
deriving DecidableEq

def LexerOptions.standard : LexerOptions :=
  ⟨false, false, none⟩

/-- When a rule applies; `α` stands for what a pattern has become. -/
inductive Trigger (α : Type) where
  | pattern (matcher : α)
  /-- Where no pattern matches, up to the next match. -/
  | fallback
  /-- Where no pattern matches, all the rest. -/
  | catchAll

def Trigger.pattern? {α : Type} : Trigger α → Option α
  | pattern matcher => some matcher
  | _ => none

def Trigger.isFallback {α : Type} : Trigger α → Bool
  | fallback => true
  | _ => false

def Trigger.isCatchAll {α : Type} : Trigger α → Bool
  | catchAll => true
  | _ => false

/-- A checked rule of a lexicon with `n` states. -/
structure Entry (n : Nat) (α : Type) where
  kind : String
  trigger : Trigger α
  lineBreaks : Bool
  transition : Option (Transition (Fin n))
  isError : Bool
  isIgnored : Bool
  transform : Option (String → String)
  /-- The categories of the kind, with their ancestors. -/
  categories : CategorySet
  /-- Whether matches may be keywords. -/
  hasKeywords : Bool

/-- The patterns of a state, ready for matching. -/
structure StateMatcher where
  /-- The expressions of the patterns, tied to the start of the text, in their order. -/
  anchored : List Regex.Expr
  /-- The place of each pattern's rule among all rules of the state. -/
  ruleOf : List Nat

namespace StateMatcher

/-- The match of the pattern with the given number. -/
def find? (matcher : StateMatcher) (text : List Char) (pattern : Nat) : Option (Nat × Nat) :=
  matcher.anchored[pattern]?.bind fun anchored => anchored.find? text

/-- The numbers of the patterns that match, in order. -/
def matching (matcher : StateMatcher) (text : List Char) : List Nat :=
  (List.range matcher.anchored.length).filter fun pattern => (matcher.find? text pattern).isSome

/-- The rule of the longest match and the place where this match ends.  Of several longest matches,
it is that of the first pattern. -/
def longest (matcher : StateMatcher) (text : List Char) : Option (Nat × Nat) :=
  (matcher.matching text).foldl better none
where
  /-- The better of the best match so far and that of a pattern. -/
  better (best : Option (Nat × Nat)) (pattern : Nat) : Option (Nat × Nat) :=
    match matcher.find? text pattern, matcher.ruleOf[pattern]? with
    | some (start, length), some rule =>
      match best with
      | none => some (rule, start + length)
      | some (_, most) => if most < start + length then some (rule, start + length) else best
    | _, _ => best

end StateMatcher

/-- A state of a lexicon with `n` states. -/
structure StateTable (n : Nat) where
  name : String
  entries : List (Entry n Regex.Expr)
  /-- Finds the next match of any pattern, for a fallback rule. -/
  scanner : Option Regex.Expr

namespace StateTable

variable {n : Nat}

/-- The patterns of the state with the places of their rules. -/
def matcher (table : StateTable n) : StateMatcher :=
  let patterns := table.entries.zipIdx.filterMap fun (entry, rule) =>
    entry.trigger.pattern?.map fun anchored => (anchored, rule)
  ⟨patterns.map (·.1), patterns.map (·.2)⟩

def fallback? (table : StateTable n) : Option (Entry n Regex.Expr) :=
  table.entries.find? (·.trigger.isFallback)

def catchAll? (table : StateTable n) : Option (Entry n Regex.Expr) :=
  table.entries.find? (·.trigger.isCatchAll)

/-- The first place behind the start of a text at which a match of any pattern starts, where matches
are taken one after the other.  Directly behind a match an empty one does not count. -/
def nextStart? (table : StateTable n) (text : List Char) : Option Nat := do
  let scanner ← table.scanner
  let (start, length) ← scanner.find? text
  if 0 < start then some start
  else
    let (start, size) ← findAt scanner length
    if start = length && size = 0 then (findAt scanner (length + 1)).map (·.1) else some start
where
  /-- The first match that starts at a place or behind it. -/
  findAt (scanner : Regex.Expr) (place : Nat) : Option (Nat × Nat) :=
    if place ≤ text.length then
      scanner.findFrom? (text.take place).getLast? place (text.drop place)
    else none

/-- The rule that applies to a text and the number of characters that it takes. -/
def choose (table : StateTable n) (text : List Char) : Option (Entry n Regex.Expr × Nat) :=
  match table.matcher.longest text with
  | some (rule, length) => table.entries[rule]?.map fun entry => (entry, length)
  | none =>
    match table.fallback? with
    | some entry => some (entry, (table.nextStart? text).getD text.length)
    | none => table.catchAll?.map fun entry => (entry, text.length)

end StateTable

/-- A checked set of rules. -/
structure Lexicon where
  /-- The names of the states, in the order in which they were declared. -/
  names : List String
  tables : List (StateTable names.length)
  tables_length : tables.length = names.length
  start : Fin names.length
  options : LexerOptions
  keywords : KeywordDispatcher
  /-- The categories, with their ancestors, of each kind of token that is mentioned. -/
  closures : List (String × CategorySet)
  /-- The kinds of tokens that there can be. -/
  kinds : List String
  categories : CategoryRegistry

namespace Lexicon

/-- A state of a lexicon. -/
abbrev StateId (lexicon : Lexicon) := Fin lexicon.names.length

def table (lexicon : Lexicon) (state : lexicon.StateId) : StateTable lexicon.names.length :=
  lexicon.tables.get (state.cast lexicon.tables_length.symm)

def stateName (lexicon : Lexicon) (state : lexicon.StateId) : String :=
  lexicon.names.get state

def state? (lexicon : Lexicon) (name : String) : Option lexicon.StateId :=
  lexicon.names.finIdxOf? name

/-- The categories of a kind, with their ancestors. -/
def closure (lexicon : Lexicon) (kind : String) : CategorySet :=
  (lexicon.closures.lookup kind).getD .empty

/-- Whether there can be tokens of a kind. -/
def has (lexicon : Lexicon) (kind : String) : Bool :=
  lexicon.kinds.contains kind

/-- The kinds of tokens that there can be, with their categories. -/
def library (lexicon : Lexicon) : List (String × CategorySet) :=
  lexicon.kinds.map fun kind => (kind, lexicon.closure kind)

/-- The number of rules in all states. -/
def ruleCount (lexicon : Lexicon) : Nat :=
  (lexicon.tables.flatMap (·.entries)).length

end Lexicon

end Lexical
