import Lexical.Regex.Ways

/-!
# Matching and searching

`Expr.matchLength?` is the length of the preferred match at the start of a text: all ways through the
expression are followed side by side, in order of preference, and where one of them stops, those that
are less preferred are given up.  `Expr.find?` looks for the first place at which there is a match.

Lengths and places are counted in characters.
-/

namespace Lexical.Regex

/-- The ways of going on of all stacks, in order, up to the first that stops, and whether one does. -/
def waysOfAll (place : Place) : List Stack → List Go × Bool
  | [] => ([], false)
  | stack :: rest =>
    let ways := Stack.ways place stack
    if ways.stops then (ways.early, true)
    else
      let (gos, stops) := waysOfAll place rest
      (ways.early ++ ways.late ++ gos, stops)

/-- The elements of a list, each where it first stands. -/
def distinct {α : Type} [DecidableEq α] (seen : List α) : List α → List α
  | [] => []
  | a :: rest => if a ∈ seen then distinct seen rest else a :: distinct (a :: seen) rest

/-- The stacks that remain after a character has been read. -/
def advance (gos : List Go) (c : Char) : List Stack :=
  distinct [] ((gos.filter fun go => go.symbol.admits c).map Go.stack)

/-- Follow all stacks through the text behind the character `before`.  `count` characters have been
read since the start of the match, and `best` is the length of the best match so far. -/
def follow (before : Option Char) (threads : List Stack) (count : Nat) (best : Option Nat) :
    List Char → Option Nat
  | [] => if (waysOfAll ⟨before, none⟩ threads).2 then some count else best
  | c :: rest =>
    let (gos, stops) := waysOfAll ⟨before, some c⟩ threads
    let best := if stops then some count else best
    match advance gos c with
    | [] => best
    | threads => follow (some c) threads (count + 1) best rest

namespace Expr

/-- The length of the preferred match at the start of `text`, which stands behind the character
`before`. -/
def matchLength? (e : Expr) (before : Option Char) (text : List Char) : Option Nat :=
  follow before [[.run e]] 0 none text

/-- The place and the length of the first match in a text, of which `skipped` characters have been
passed already. -/
def findFrom? (e : Expr) (before : Option Char) (skipped : Nat) (text : List Char) :
    Option (Nat × Nat) :=
  match e.matchLength? before text with
  | some length => some (skipped, length)
  | none =>
    match text with
    | [] => none
    | c :: rest => if e.isAnchored then none else findFrom? e (some c) (skipped + 1) rest

/-- The place and the length of the first match in a text. -/
def find? (e : Expr) (text : List Char) : Option (Nat × Nat) :=
  e.findFrom? none 0 text

end Expr

end Lexical.Regex
