import Lexical.Event
import Lexical.Excerpt
import Lexical.Lexer.Stack
import Lexical.Lexicon.Basic
import Lexical.Token

/-!
# Lexers

A `Lexer` reads a text by the rules of a lexicon.  It knows which part of the text it has read, the
line and the column that it has reached, and its stack of states.  `LexerState` is what has to be
kept of a lexer in order to go on with the unread part later (`Lexer.save`, `Lexer.reset`); it names
the states instead of counting them.
-/

namespace Lexical

/-- What is kept of a lexer: where it was and the names of its states, the outermost first. -/
structure LexerState where
  offset : Nat
  line : Nat
  column : Nat
  stack : List String
deriving DecidableEq

namespace LexerState

def position (state : LexerState) : Position :=
  ⟨state.offset, state.line, state.column⟩

/-- The name of the current state. -/
def current? (state : LexerState) : Option String :=
  state.stack.getLast?

end LexerState

/-- A lexer in the middle of a text. -/
structure Lexer (lexicon : Lexicon) where
  /-- The offset at which the text starts. -/
  base : Nat
  /-- What has been read of the text. -/
  behind : List Char
  /-- What is still to be read. -/
  ahead : List Char
  line : Nat
  column : Nat
  stack : StateStack lexicon.StateId

namespace Lexer

variable {lexicon : Lexicon}

/-- A lexer with nothing to read. -/
def initial (lexicon : Lexicon) : Lexer lexicon where
  base := 0
  behind := []
  ahead := []
  line := 1
  column := 1
  stack := .single lexicon.start

/-! ## What a lexer tells about itself -/

/-- The number of bytes of the text that have been read. -/
def index (lexer : Lexer lexicon) : Nat :=
  Text.byteLength lexer.behind

def position (lexer : Lexer lexicon) : Position :=
  ⟨Position.moveOffset lexer.base lexer.index, lexer.line, lexer.column⟩

def depth (lexer : Lexer lexicon) : Nat :=
  lexer.stack.depth

/-- The name of the current state. -/
def currentState (lexer : Lexer lexicon) : String :=
  lexicon.stateName lexer.stack.top

/-- The whole text. -/
def buffer (lexer : Lexer lexicon) : List Char :=
  lexer.behind ++ lexer.ahead

/-- A message at a token, or at the current position. -/
def formatError? (lexer : Lexer lexicon) (token : Option Token) (message : String) :
    Option String :=
  let position := (token.map Token.position).getD lexer.position
  let message := if message.isEmpty then Excerpt.defaultMessage else message
  Excerpt.render? lexer.buffer lexer.base position message

/-! ## Saving and resuming -/

def save (lexer : Lexer lexicon) : LexerState where
  offset := Position.moveOffset lexer.base lexer.index
  line := lexer.line
  column := lexer.column
  stack := lexer.stack.toList.map lexicon.stateName

/-- Read a new text, from the start or from where a state was saved.  Names of states that the
lexicon does not have are dropped. -/
def reset (_ : Lexer lexicon) (text : List Char) (state : Option LexerState) : Lexer lexicon :=
  match state with
  | none => { initial lexicon with ahead := text }
  | some state => {
      base := state.offset
      behind := []
      ahead := text
      line := state.line
      column := state.column
      stack :=
        (StateStack.ofList? (state.stack.filterMap lexicon.state?)).getD (.single lexicon.start) }

/-- What resuming from a state reports. -/
def resetEvents (_ : Lexer lexicon) (state : Option LexerState) : List Event :=
  match state with
  | none => []
  | some state =>
    (state.stack.filter fun name => (lexicon.state? name).isNone).map Event.droppedState

/-! ## Changing the state by hand -/

/-- The event of a transition that has led to the given stack. -/
def transitionEvent (stack : StateStack lexicon.StateId) (change : Transition lexicon.StateId) :
    Event :=
  .transition (lexicon.stateName stack.top) stack.depth (change.map Fin.val)

def apply (lexer : Lexer lexicon) (change : Transition lexicon.StateId) : Lexer lexicon × Event :=
  let stack := lexer.stack.apply change
  ({ lexer with stack }, transitionEvent stack change)

/-- The state with a name. -/
def requireState (lexer : Lexer lexicon) (name : String) :
    Except LexerError lexicon.StateId :=
  match lexicon.state? name with
  | some id => .ok id
  | none => .error (.unknownState lexer.position name)

/-- Replace the current state. -/
def setState (lexer : Lexer lexicon) (name : String) :
    Except LexerError (Lexer lexicon × Event) := do
  return lexer.apply (.next (← lexer.requireState name))

/-- Enter a state and remember the current one. -/
def pushState (lexer : Lexer lexicon) (name : String) :
    Except LexerError (Lexer lexicon × Event) := do
  return lexer.apply (.push (← lexer.requireState name))

/-- Go back to the state before the current one was entered. -/
def popState (lexer : Lexer lexicon) : Except LexerError (Lexer lexicon × Event) :=
  if lexer.depth ≤ 1 then .error (.stateUnderflow lexer.position 1 lexer.depth)
  else .ok (lexer.apply (.pop 1))

/-! ## Descriptions -/

/-- The lexer written out. -/
def describe (lexer : Lexer lexicon) : String :=
  let id (state : lexicon.StateId) := Text.apply "StateId" [toString state.val]
  let options :=
    Text.record "LexerOptions"
      [("strict_line_breaks", Text.bool lexicon.options.strictLineBreaks),
        ("partial_input", Text.bool lexicon.options.partialInput),
        ("start", Text.option (lexicon.options.start.map Text.quoteString))]
      false
  let compiled :=
    Text.record "CompiledLexer"
      [("states", Text.list (lexicon.names.map Text.quoteString)), ("start", id lexicon.start),
        ("options", options)]
      true
  Text.record "Lexer"
    [("compiled", compiled),
      ("buffer", Text.quoteString (String.ofList lexer.buffer)),
      ("base", toString lexer.base),
      ("index", toString lexer.index),
      ("line", toString lexer.line),
      ("col", toString lexer.column),
      ("stack", Text.list (lexer.stack.toList.map id))]
    false

end Lexer

/-- What building a lexicon reports. -/
def Lexicon.compiledEvent (lexicon : Lexicon) : Event :=
  .compiled lexicon.names.length lexicon.ruleCount lexicon.kinds.length

end Lexical
