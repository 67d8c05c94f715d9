import Lexical.Keyword
import Lexical.Pattern

/-!
# Rules

A rule describes one kind of token: what it matches, and what becomes of a match.  Rules are written
as a kind with a pattern (`Rule.ofPattern`, `Rule.literal`, `Rule.regex`) and then refined, for
instance `(Rule.regex "ws" "[ ]+").ignore`.

A state can have two rules without a pattern: one for the text between matches (`Rule.fallback`) and
one for all that is left where nothing matches (`Rule.error`).
-/

namespace Lexical

/-- A change of the stack of states, where `σ` is what states are known by. -/
inductive Transition (σ : Type) where
  /-- Enter a state and remember the current one. -/
  | push (state : σ)
  /-- Go back by a number of states. -/
  | pop (count : Nat)
  /-- Replace the current state. -/
  | next (state : σ)
deriving DecidableEq

/-- The same change with states known by something else. -/
def Transition.map {σ τ : Type} (f : σ → τ) : Transition σ → Transition τ
  | push state => .push (f state)
  | pop count => .pop count
  | next state => .next (f state)

/-- One kind of token and how it is matched. -/
structure Rule where
  kind : String
  pattern : Option Pattern
  /-- Whether line breaks in a match count for lines and columns. -/
  lineBreaks : Bool
  transitions : List (Transition String)
  /-- Whether the tokens stand for errors. -/
  isError : Bool
  isFallback : Bool
  /-- Whether matches give no tokens. -/
  isIgnored : Bool
  /-- What a token's value is made of its text by. -/
  transform : Option (String → String)
  categories : List CategoryId
  keywords : List Keyword

namespace Rule

/-- A rule of a kind without anything else. -/
def bare (kind : String) (pattern : Option Pattern) : Rule where
  kind
  pattern
  lineBreaks := false
  transitions := []
  isError := false
  isFallback := false
  isIgnored := false
  transform := none
  categories := []
  keywords := []

def ofPattern (kind : String) (pattern : Pattern) : Rule :=
  bare kind (some pattern)

def literal (kind text : String) : Rule :=
  ofPattern kind (.literal text)

def regex (kind source : String) : Rule :=
  ofPattern kind (.regex source)

/-- Where nothing else matches, all the rest of the text becomes one token. -/
def error (kind : String) : Rule :=
  { bare kind none with isError := true, lineBreaks := true }

/-- Where nothing else matches, the text up to the next match becomes one token. -/
def fallback (kind : String) : Rule :=
  { bare kind none with isFallback := true, lineBreaks := true }

/-! ## Refining a rule -/

/-- Count the line breaks in matches. -/
def withLineBreaks (rule : Rule) : Rule :=
  { rule with lineBreaks := true }

/-- Change the stack of states after a match.  A rule can have one transition only, which is checked
when it is compiled. -/
def withTransition (rule : Rule) (transition : Transition String) : Rule :=
  { rule with transitions := rule.transitions ++ [transition] }

def push (rule : Rule) (state : String) : Rule :=
  rule.withTransition (.push state)

def pop (rule : Rule) (count : Nat) : Rule :=
  rule.withTransition (.pop count)

def next (rule : Rule) (state : String) : Rule :=
  rule.withTransition (.next state)

/-- Let the tokens stand for errors. -/
def errorToken (rule : Rule) : Rule :=
  { rule with isError := true }

/-- Make no tokens of matches. -/
def ignore (rule : Rule) : Rule :=
  { rule with isIgnored := true }

/-- Make the values of tokens by a function. -/
def value (rule : Rule) (transform : String → String) : Rule :=
  { rule with transform := some transform }

def withCategories (rule : Rule) (categories : List CategoryId) : Rule :=
  { rule with categories := rule.categories ++ categories }

def withKeywords (rule : Rule) (keywords : List Keyword) : Rule :=
  { rule with keywords := rule.keywords ++ keywords }

/-- Whether the rule takes all the rest where nothing else matches. -/
def isCatchAll (rule : Rule) : Bool :=
  rule.isError && rule.pattern.isNone

end Rule

/-! ## Descriptions -/

/-- A change written out, where `describeState` writes a state. -/
def Transition.describe {σ : Type} (describeState : σ → String) : Transition σ → String
  | push state => Text.apply "Push" [describeState state]
  | pop count => Text.apply "Pop" [toString count]
  | next state => Text.apply "Next" [describeState state]

/-- A list of category ids written out. -/
def describeCategories (ids : List CategoryId) : String :=
  Text.list (ids.map fun id => Text.apply "CategoryId" [toString id])

def Keyword.describe (keyword : Keyword) : String :=
  Text.record "Keyword"
    [("kind", Text.quoteString keyword.kind),
      ("values", Text.list (keyword.values.map Text.quoteString)),
      ("categories", describeCategories keyword.categories)]
    false

def Rule.describe (rule : Rule) : String :=
  Text.record "Rule"
    [("kind", Text.quoteString rule.kind),
      ("pattern", Text.option (rule.pattern.map Pattern.describe)),
      ("line_breaks", Text.bool rule.lineBreaks),
      ("transitions", Text.list (rule.transitions.map (Transition.describe Text.quoteString))),
      ("error", Text.bool rule.isError),
      ("fallback", Text.bool rule.isFallback),
      ("ignore", Text.bool rule.isIgnored),
      ("value", Text.option (rule.transform.map fun _ => Text.quoteString "<fn>")),
      ("categories", describeCategories rule.categories),
      ("keywords", Text.list (rule.keywords.map Keyword.describe))]
    false

end Lexical
