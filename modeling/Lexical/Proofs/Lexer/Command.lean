import Lexical.Source

/-!
# What a caller does with a lexer and sees of it

A caller reads tokens and changes the stack of states by hand (`Command`), and gets a `Reply` each
time.  Between calls it can look at the lexer (`Lexer.View`).  `Lexer.trace` lists the replies to a
row of commands with what is seen after each, so two lexers with the same traces cannot be told
apart.
-/

namespace Lexical

/-- A call that reads from a lexer or changes it. -/
inductive Command where
  | next
  | setState (name : String)
  | pushState (name : String)
  | popState
deriving DecidableEq

/-- The answer to a call. -/
inductive Reply where
  | token (result : Except LexerError (Option Token))
  | changed (result : Except LexerError Unit)

namespace Lexer

variable {lexicon : Lexicon}

/-- The answer to a change by hand, and the lexer behind it.  One that fails changes nothing. -/
def settleChange (lexer : Lexer lexicon) (outcome : Except LexerError (Lexer lexicon × Event)) :
    Reply × Lexer lexicon :=
  match outcome with
  | .ok (changed, _) => (.changed (.ok ()), changed)
  | .error error => (.changed (.error error), lexer)

/-- Carry out a call. -/
def perform (lexer : Lexer lexicon) : Command → Reply × Lexer lexicon
  | .next => (.token lexer.next.result, lexer.next.lexer)
  | .setState name => lexer.settleChange (lexer.setState name)
  | .pushState name => lexer.settleChange (lexer.pushState name)
  | .popState => lexer.settleChange lexer.popState

/-! ### Changes by hand as transitions -/

theorem setState_eq (lexer : Lexer lexicon) (name : String) :
    lexer.setState name = ((lexer.requireState name).map Transition.next).map lexer.apply := by
  unfold setState
  cases lexer.requireState name <;> rfl

theorem pushState_eq (lexer : Lexer lexicon) (name : String) :
    lexer.pushState name = ((lexer.requireState name).map Transition.push).map lexer.apply := by
  unfold pushState
  cases lexer.requireState name <;> rfl

theorem popState_eq (lexer : Lexer lexicon) :
    lexer.popState = (if lexer.depth ≤ 1 then .error (.stateUnderflow lexer.position 1 lexer.depth)
      else .ok (Transition.pop 1) : Except LexerError (Transition lexicon.StateId)).map
        lexer.apply := by
  unfold popState
  split <;> rfl

/-- A lexer that is reset to a saved state is where that was saved. -/
theorem position_reset_save (lexer other : Lexer lexicon) (text : List Char) :
    (other.reset text (some lexer.save)).position = lexer.position := by
  have hoffset : Position.moveOffset (Position.moveOffset lexer.base lexer.index) 0
      = Position.moveOffset lexer.base lexer.index :=
    Position.moveOffset_moveOffset lexer.base lexer.index 0
  show (⟨Position.moveOffset (Position.moveOffset lexer.base lexer.index) 0, lexer.line,
    lexer.column⟩ : Position) = lexer.position
  rw [hoffset]
  rfl

/-- What can be seen of a lexer between calls. -/
structure View where
  position : Position
  depth : Nat
  currentState : String
  saved : LexerState
deriving DecidableEq

def view (lexer : Lexer lexicon) : View where
  position := lexer.position
  depth := lexer.depth
  currentState := lexer.currentState
  saved := lexer.save

/-- The replies to calls made one after the other, with what is seen after each. -/
def trace (lexer : Lexer lexicon) : List Command → List (Reply × View)
  | [] => []
  | command :: rest =>
    let (reply, lexer) := lexer.perform command
    (reply, lexer.view) :: trace lexer rest

end Lexer

end Lexical
