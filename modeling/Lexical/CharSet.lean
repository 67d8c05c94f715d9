import Lexical.Text.Quoted

/-!
# Character sets

Sets of characters given by ranges, for patterns that match one character of a kind.
-/

namespace Lexical

/-- The characters of some ranges, both ends of each included. -/
structure CharSet where
  ranges : List (Char × Char)
deriving DecidableEq

namespace CharSet

def digits : CharSet :=
  ⟨[('0', '9')]⟩

/-- Spaces and tabs; line breaks are left to rules of their own. -/
def blanks : CharSet :=
  ⟨[(' ', ' '), ('\t', '\t')]⟩

def whitespace : CharSet :=
  ⟨[(' ', ' '), ('\t', '\t'), ('\r', '\r'), ('\n', '\n')]⟩

/-- The characters with which a name can start. -/
def identStart : CharSet :=
  ⟨[('A', 'Z'), ('a', 'z'), ('_', '_')]⟩

/-- The characters of which a name is made. -/
def identContinue : CharSet :=
  ⟨[('A', 'Z'), ('a', 'z'), ('0', '9'), ('_', '_')]⟩

def contains (set : CharSet) (c : Char) : Bool :=
  set.ranges.any fun (first, last) => first ≤ c && c ≤ last

/-- A character by its number, as a regular expression. -/
def writeChar (c : Char) : List Char :=
  ['\\', 'x', '{'] ++ (Nat.toDigits 16 c.toNat).map Char.toUpper ++ ['}']

/-- A range as a part of a bracketed class. -/
def writeRange : Char × Char → List Char
  | (first, last) =>
    if first = last then writeChar first else writeChar first ++ '-' :: writeChar last

/-- The set as a regular expression.  Brackets cannot be empty, so the empty set is written as what
is left when all characters are excluded. -/
def write (set : CharSet) : List Char :=
  if set.ranges.isEmpty then "[^\\x\x7b0\x7d-\\x\x7b10FFFF\x7d]".toList
  else '[' :: set.ranges.flatMap writeRange ++ [']']

end CharSet

end Lexical
