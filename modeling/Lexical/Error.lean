import Lexical.Position
import Lexical.Text.Quoted

/-!
# Errors

`ConfigError` says what is wrong with a set of rules; it arises while a lexer is built, and then
there is no lexer.  `LexerError` says why no token could be read; it arises at a position, and the
lexer stays where it is.

Each cause has a message (`ConfigError.message`, `LexerError.message`) and a code, and some have a
line of advice (`ConfigError.help?`).
-/

namespace Lexical

/-- The rules of which a state can have only one. -/
inductive SpecialRole where
  /-- Takes the text up to the next match of another rule. -/
  | fallback
  /-- Takes all the rest. -/
  | error
deriving DecidableEq

def SpecialRole.name : SpecialRole → String
  | fallback => "fallback"
  | error => "error"

/-- What is wrong with a set of rules. -/
inductive ConfigError where
  | noStates
  | duplicateState (state : String)
  | emptyState (state : String)
  | unknownStartState (state : String)
  | unknownState (state kind target : String)
  | conflictingTransitions (state kind : String)
  | emptyPop (state kind : String)
  | missingPattern (state kind : String)
  | emptyMatch (kind pattern : String)
  | captureGroup (kind pattern : String)
  | invalidPattern (kind pattern : String)
  | duplicateSpecialRule (state : String) (role : SpecialRole)
  | specialRuleTransition (state kind : String) (role : SpecialRole)
  | duplicateCategory (name : String)
  | unknownCategory (name : String)
  | duplicateKeyword (keyword first second : String)
  /-- The description of a lexer contradicts itself; `detail` says where. -/
  | malformed (detail : String)
deriving DecidableEq

namespace ConfigError

/-- The error as a sentence.  What a regular expression suffers from is not said. -/
def message : ConfigError → String
  | noStates => "no states declared"
  | duplicateState state => s!"state '{state}' is declared more than once"
  | emptyState state => s!"state '{state}' has no rules"
  | unknownStartState state => s!"start state '{state}' is not declared"
  | unknownState state kind target =>
    s!"rule '{kind}' in state '{state}' transitions to undeclared state '{target}'"
  | conflictingTransitions state kind =>
    s!"rule '{kind}' in state '{state}' declares more than one of push/pop/next"
  | emptyPop state kind => s!"rule '{kind}' in state '{state}' pops zero states"
  | missingPattern state kind => s!"rule '{kind}' in state '{state}' has no pattern"
  | emptyMatch kind pattern =>
    s!"pattern /{pattern}/ of rule '{kind}' can match the empty string"
  | captureGroup kind pattern => s!"pattern /{pattern}/ of rule '{kind}' uses a capture group"
  | invalidPattern kind pattern => s!"invalid pattern /{pattern}/ for rule '{kind}': "
  | duplicateSpecialRule state role =>
    s!"state '{state}' declares more than one {role.name} rule"
  | specialRuleTransition state kind role =>
    s!"{role.name} rule '{kind}' in state '{state}' cannot change state"
  | duplicateCategory name => s!"category '{name}' is already defined"
  | unknownCategory name => s!"unknown category '{name}'"
  | duplicateKeyword keyword first second =>
    s!"keyword '{keyword}' is claimed by both '{first}' and '{second}'"
  | malformed detail => s!"malformed lexer configuration: {detail}"

/-- The code of the error's cause. -/
def code (error : ConfigError) : String :=
  "lexforge::config::" ++
    match error with
    | noStates => "no_states"
    | duplicateState _ => "duplicate_state"
    | emptyState _ => "empty_state"
    | unknownStartState _ => "unknown_start"
    | unknownState _ _ _ => "unknown_state"
    | conflictingTransitions _ _ => "conflicting_transitions"
    | emptyPop _ _ => "empty_pop"
    | missingPattern _ _ => "missing_pattern"
    | emptyMatch _ _ => "empty_match"
    | captureGroup _ _ => "capture_group"
    | invalidPattern _ _ => "invalid_pattern"
    | duplicateSpecialRule _ _ => "duplicate_special"
    | specialRuleTransition _ _ _ => "special_transition"
    | duplicateCategory _ => "duplicate_category"
    | unknownCategory _ => "unknown_category"
    | duplicateKeyword _ _ _ => "duplicate_keyword"
    | malformed _ => "malformed"

/-- Advice on how to mend the error. -/
def help? : ConfigError → Option String
  | emptyMatch _ _ => some "zero-width rules would never advance the lexer"
  | captureGroup _ _ => some "use a non-capturing group (?:...) instead"
  | _ => none

end ConfigError

/-- Why no token could be read. -/
inductive LexerError where
  /-- No rule of the state matches the text, or the text ends inside a pushed state. -/
  | noMatch (position : Position) (state : String) (found : Option Char)
  | stateUnderflow (position : Position) (requested depth : Nat)
  | inconsistentIndentation (position : Position) (width expected : Nat)
  | undeclaredLineBreak (position : Position) (kind : String)
  | unknownState (position : Position) (name : String)
  /-- Matches of no width follow each other without end. -/
  | stalled (position : Position)
deriving DecidableEq

namespace LexerError

/-- Where the error arose. -/
def position : LexerError → Position
  | noMatch position _ _ => position
  | stateUnderflow position _ _ => position
  | inconsistentIndentation position _ _ => position
  | undeclaredLineBreak position _ => position
  | unknownState position _ => position
  | stalled position => position

/-- The error as a sentence. -/
def message : LexerError → String
  | noMatch position state found =>
    let what :=
      match found with
      | some c => "unexpected " ++ Text.quoteChar c
      | none => "unexpected end of input"
    s!"invalid syntax at {position.text}: {what} in state '{state}'"
  | stateUnderflow position requested depth =>
    s!"cannot pop {requested} state(s) at {position.text}: stack depth is {depth}"
  | inconsistentIndentation position width expected =>
    s!"inconsistent indentation at {position.text}: width {width} does not match any enclosing "
      ++ s!"block (expected {expected})"
  | undeclaredLineBreak position kind =>
    s!"rule '{kind}' matched a line break at {position.text} without declaring line_breaks"
  | unknownState position name => s!"no state named '{name}' (at {position.text})"
  | stalled position => s!"no progress at {position.text}"

/-- The code of the error's cause. -/
def code : LexerError → String
  | noMatch _ _ _ => "lexforge::lex::no_match"
  | stateUnderflow _ _ _ => "lexforge::lex::state_underflow"
  | inconsistentIndentation _ _ _ => "lexforge::indent::inconsistent"
  | undeclaredLineBreak _ _ => "lexforge::lex::undeclared_line_break"
  | unknownState _ _ => "lexforge::lex::unknown_state"
  | stalled _ => "lexforge::lex::stalled"

end LexerError

end Lexical
