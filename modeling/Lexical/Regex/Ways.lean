import Lexical.Regex.Expr.Basic
import Lexical.Unicode.PropertyTable

/-!
# The ways through an expression

At a place in the text an expression can stop, having matched nothing more, or go on by reading one
character, after which other expressions remain to be matched.  `Expr.ways` lists these in order of
preference: the ways of going on that are preferred to stopping, whether it can stop, and the ways of
going on that are less preferred.  What remains after a character is a stack of `Frame`s.

A repetition prefers another round if it is greedy and to leave if it is lazy.  A round that reads
nothing is never repeated.
-/

namespace Lexical.Regex

/-- The characters on both sides of a place in the text. -/
structure Place where
  before : Option Char
  behind : Option Char
deriving DecidableEq

namespace Place

/-- The characters that make words where Unicode is off. -/
def isAsciiWord (c : Char) : Bool :=
  c.isAlphanum || c = '_'

def isWord (ascii : Bool) (c : Option Char) : Bool :=
  match c with
  | none => false
  | some c => if ascii then isAsciiWord c else Unicode.word.containsChar c

/-- Whether a condition holds at the place. -/
def holds (place : Place) : Look → Bool
  | .textStart => place.before.isNone
  | .textEnd => place.behind.isNone
  | .lineStart false => place.before.isNone || place.before = some '\n'
  | .lineEnd false => place.behind.isNone || place.behind = some '\n'
  | .lineStart true =>
    place.before.isNone || place.before = some '\n'
      || (place.before = some '\r' && place.behind ≠ some '\n')
  | .lineEnd true =>
    place.behind.isNone || place.behind = some '\r'
      || (place.behind = some '\n' && place.before ≠ some '\r')
  | .word edge ascii =>
    let before := isWord ascii place.before
    let behind := isWord ascii place.behind
    match edge with
    | .boundary => before != behind
    | .inner => before == behind
    | .start => !before && behind
    | .finish => before && !behind
    | .startHalf => !before
    | .finishHalf => !behind

end Place

/-- What remains to be matched by one part of an expression. -/
inductive Frame where
  | run (e : Expr)
  /-- A round of an unbounded repetition has been matched; more may follow. -/
  | again (body : Expr) (greedy : Bool)
deriving DecidableEq

/-- The frames that remain, the next one first. -/
abbrev Stack := List Frame

/-- What one character has to be. -/
inductive Symbol where
  | char (c : Char)
  | set (chars : CodeSet)
deriving DecidableEq

def Symbol.admits (symbol : Symbol) (c : Char) : Bool :=
  match symbol with
  | char d => c = d
  | set chars => chars.containsChar c

/-- Going on: the character to read and what remains after it. -/
structure Go where
  symbol : Symbol
  stack : Stack
deriving DecidableEq

/-- What can be done at a place, in order of preference. -/
structure Ways where
  /-- Ways of going on, before stopping if it is possible. -/
  early : List Go
  stops : Bool
  /-- Ways of going on that are less preferred than stopping. -/
  late : List Go
deriving DecidableEq

namespace Ways

/-- To stop is all that can be done. -/
def stop : Ways :=
  ⟨[], true, []⟩

/-- Nothing can be done. -/
def none : Ways :=
  ⟨[], false, []⟩

def read (symbol : Symbol) (stack : Stack) : Ways :=
  ⟨[⟨symbol, stack⟩], false, []⟩

/-- Leave `frames` behind every character that is read. -/
def follow (gos : List Go) (frames : Stack) : List Go :=
  gos.map fun go => { go with stack := go.stack ++ frames }

/-- The first ways and then, instead of stopping, the second ones; `frames` is what the second ones
are the ways of. -/
def andThen (first : Ways) (frames : Stack) (second : Ways) : Ways :=
  if first.stops then
    ⟨follow first.early frames ++ second.early, second.stops, second.late ++ follow first.late frames⟩
  else ⟨follow first.early frames, false, follow first.late frames⟩

/-- The first ways, and the second ones as less preferred. -/
def orElse (first second : Ways) : Ways :=
  if first.stops then ⟨first.early, true, first.late ++ second.early ++ second.late⟩
  else ⟨first.early ++ first.late ++ second.early, second.stops, second.late⟩

/-- The ways of going on only. -/
def withoutStop (ways : Ways) : Ways :=
  ⟨ways.early ++ ways.late, false, []⟩

/-- These ways or stopping; a greedy choice prefers to go on. -/
def orStop (ways : Ways) (greedy : Bool) : Ways :=
  if greedy then ways.orElse stop else stop.orElse ways

end Ways

/-- At most `count` rounds, where `round` gives the ways of one round of `body`. -/
def waysUpTo (body : Expr) (greedy : Bool) (round : Ways) : Nat → Ways
  | 0 => .stop
  | count + 1 =>
    (round.andThen [.run (.rep body 0 (some count) greedy)] (waysUpTo body greedy round count)).orStop
      greedy

/-- Rounds without an upper bound. -/
def waysFrom (body : Expr) (greedy : Bool) (round : Ways) : Nat → Ways
  | 0 => (round.andThen [.again body greedy] .stop).orStop greedy
  | 1 => round.andThen [.again body greedy] .stop
  | min + 2 =>
    round.andThen [.run (.rep body (min + 1) Option.none greedy)]
      (waysFrom body greedy round (min + 1))

/-- Between `min` and `min + more` rounds. -/
def waysBetween (body : Expr) (greedy : Bool) (round : Ways) (more : Nat) : Nat → Ways
  | 0 => waysUpTo body greedy round more
  | min + 1 =>
    round.andThen [.run (.rep body min (some (min + more)) greedy)]
      (waysBetween body greedy round more min)

/-- The ways through an expression at a place. -/
def Expr.ways (place : Place) : Expr → Ways
  | empty => .stop
  | lit [] => .stop
  | lit [c] => .read (.char c) []
  | lit (c :: text) => .read (.char c) [.run (lit text)]
  | set chars => .read (.set chars) []
  | look condition => if place.holds condition then .stop else .none
  | rep body min max greedy =>
    let round := body.ways place
    match max with
    | some max => waysBetween body greedy round (max - min) min
    | none => waysFrom body greedy round min
  | capture body => body.ways place
  | seq first rest => (first.ways place).andThen [.run rest] (rest.ways place)
  | alt first rest => (first.ways place).orElse (rest.ways place)

/-- The ways through a frame.  Another round of a repetition has to read something.

Which parts of the body were passed before at the same place is not kept.  An engine that passes none
of them twice prefers to leave a greedy repetition to what a lazy part of its body could still read, as
in `(?:a*b??)*`, and what it takes may be shorter there. -/
def Frame.ways (place : Place) : Frame → Ways
  | run e => e.ways place
  | again body greedy =>
    ((body.ways place).withoutStop.andThen [.again body greedy] .stop).orStop greedy

/-- The ways through the frames of a stack, one after the other. -/
def Stack.ways (place : Place) : Stack → Ways
  | [] => .stop
  | frame :: stack => (frame.ways place).andThen stack (Stack.ways place stack)

end Lexical.Regex
