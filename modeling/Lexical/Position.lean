/-!
# Positions

A position in a stream of text: a byte offset from the start of the stream, and a line and a column
that count from one.  Columns count characters.  Lines and columns stop counting at
`Position.maxCount`.  Offsets start over: behind the last one below `Position.offsetBound` comes zero
again (`Position.moveOffset`).
-/

namespace Lexical

/-- A position in a stream of text. -/
structure Position where
  offset : Nat
  line : Nat
  column : Nat
deriving DecidableEq

namespace Position

/-- The greatest line and column, and the greatest number of line breaks of a token. -/
def maxCount : Nat := UInt32.size - 1

/-- The bound on offsets. -/
def offsetBound : Nat := UInt64.size

/-- The offset that lies a number of bytes behind another one. -/
def moveOffset (offset bytes : Nat) : Nat :=
  (offset + bytes) % offsetBound

theorem moveOffset_of_lt {offset bytes : Nat} (h : offset + bytes < offsetBound) :
    moveOffset offset bytes = offset + bytes :=
  Nat.mod_eq_of_lt h

/-- Two moves are one. -/
theorem moveOffset_moveOffset (offset bytes more : Nat) :
    moveOffset (moveOffset offset bytes) more = moveOffset offset (bytes + more) := by
  rw [moveOffset, moveOffset, moveOffset, Nat.mod_add_mod, Nat.add_assoc]

/-- The start of a stream. -/
def start : Position :=
  ⟨0, 1, 1⟩

/-- The position by line and column. -/
def text (position : Position) : String :=
  "line " ++ toString position.line ++ " col " ++ toString position.column

/-- The sum of two counts, as far as counting goes. -/
def addCount (a b : Nat) : Nat :=
  min (a + b) maxCount

end Position

end Lexical
