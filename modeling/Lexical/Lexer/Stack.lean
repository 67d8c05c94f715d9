import Lexical.Rule

/-!
# Stacks of states

A lexer is always in some state, so its stack of states is never empty: it has a top, the current
state, and the states to go back to.
-/

namespace Lexical

/-- A stack of states with at least one state on it. -/
structure StateStack (σ : Type) where
  /-- The current state. -/
  top : σ
  /-- The states to go back to, the nearest first. -/
  below : List σ
deriving DecidableEq

namespace StateStack

variable {σ : Type}

def single (state : σ) : StateStack σ :=
  ⟨state, []⟩

def depth (stack : StateStack σ) : Nat :=
  stack.below.length + 1

/-- The states from the outermost to the current one. -/
def toList (stack : StateStack σ) : List σ :=
  (stack.top :: stack.below).reverse

/-- The stack of states given from the outermost to the current one. -/
def ofList? (states : List σ) : Option (StateStack σ) :=
  match states.reverse with
  | [] => none
  | top :: below => some ⟨top, below⟩

def push (stack : StateStack σ) (state : σ) : StateStack σ :=
  ⟨state, stack.top :: stack.below⟩

/-- Replace the current state. -/
def next (stack : StateStack σ) (state : σ) : StateStack σ :=
  { stack with top := state }

/-- The stack with the given top and the states below it, gone back by a number of states, but not
below the outermost. -/
def popFrom (top : σ) : List σ → Nat → StateStack σ
  | below, 0 => ⟨top, below⟩
  | [], _ + 1 => ⟨top, []⟩
  | next :: below, count + 1 => popFrom next below count

def pop (stack : StateStack σ) (count : Nat) : StateStack σ :=
  popFrom stack.top stack.below count

def apply (stack : StateStack σ) : Transition σ → StateStack σ
  | .push state => stack.push state
  | .pop count => stack.pop count
  | .next state => stack.next state

@[simp] theorem ofList?_toList (stack : StateStack σ) : ofList? stack.toList = some stack := by
  simp [ofList?, toList]

@[simp] theorem length_toList (stack : StateStack σ) : stack.toList.length = stack.depth := by
  simp [toList, depth]

end StateStack

end Lexical
