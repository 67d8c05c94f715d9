/-!
# Sets of code points

A `CodeSet` is a list of closed ranges of code points.  `CodeSet.insert` keeps the ranges in
ascending order and apart from each other, so two sets built with it are equal as values exactly
when they hold the same code points, and a set of one character can be told by looking at it.

`CodeSet.ofText` reads the compact text in which the tables of character properties are written:
ranges such as `41-5A` and single code points such as `AA`, in hexadecimal, with blanks between
them.
-/

namespace Lexical

/-- The code points from `first` to `last`, both included. -/
structure CodeRange where
  first : Nat
  last : Nat
deriving DecidableEq

namespace CodeRange

/-- The range that holds one code point. -/
def single (code : Nat) : CodeRange :=
  ⟨code, code⟩

def contains (range : CodeRange) (code : Nat) : Bool :=
  range.first ≤ code && code ≤ range.last

/-- The code points of both ranges, if there are any. -/
def inter? (a b : CodeRange) : Option CodeRange :=
  let first := max a.first b.first
  let last := min a.last b.last
  if first ≤ last then some ⟨first, last⟩ else none

end CodeRange

/-- A set of code points as a list of ranges. -/
structure CodeSet where
  ranges : List CodeRange
deriving DecidableEq

namespace CodeSet

/-- The greatest code point. -/
def maxCode : Nat := 0x10FFFF

def empty : CodeSet :=
  ⟨[]⟩

def isEmpty (set : CodeSet) : Bool :=
  set.ranges.isEmpty

def contains (set : CodeSet) (code : Nat) : Bool :=
  set.ranges.any (·.contains code)

def containsChar (set : CodeSet) (c : Char) : Bool :=
  set.contains c.toNat

/-- Whether the set holds ASCII code points only. -/
def isAscii (set : CodeSet) : Bool :=
  set.ranges.all (·.last ≤ 0x7F)

/-! ## Building sets -/

/-- Add a range to ranges in ascending order; ranges that overlap or touch become one. -/
def insertRange (range : CodeRange) : List CodeRange → List CodeRange
  | [] => [range]
  | next :: rest =>
    if range.last + 1 < next.first then range :: next :: rest
    else if next.last + 1 < range.first then next :: insertRange range rest
    else insertRange ⟨min range.first next.first, max range.last next.last⟩ rest

def insert (set : CodeSet) (range : CodeRange) : CodeSet :=
  ⟨insertRange range set.ranges⟩

def ofRanges (ranges : List CodeRange) : CodeSet :=
  ⟨ranges.foldr insertRange []⟩

def single (code : Nat) : CodeSet :=
  ⟨[CodeRange.single code]⟩

def union (a b : CodeSet) : CodeSet :=
  ⟨a.ranges.foldr insertRange b.ranges⟩

def unions (sets : List CodeSet) : CodeSet :=
  sets.foldr union empty

def inter (a b : CodeSet) : CodeSet :=
  ofRanges (a.ranges.flatMap fun r => b.ranges.filterMap r.inter?)

/-- The gap from `first` to `last`, cut back where it starts or ends among the surrogates, which
are no characters. -/
def gap? (first last : Nat) : Option CodeRange :=
  let first := if 0xD800 ≤ first && first ≤ 0xDFFF then 0xE000 else first
  let last := if 0xD800 ≤ last && last ≤ 0xDFFF then 0xD7FF else last
  if first ≤ last then some ⟨first, last⟩ else none

/-- The gaps between ascending ranges, from the code point `start` on. -/
def gapsFrom (start : Nat) : List CodeRange → List CodeRange
  | [] => if start ≤ maxCode then (gap? start maxCode).toList else []
  | range :: rest =>
    let gaps := gapsFrom (range.last + 1) rest
    if start < range.first then (gap? start (range.first - 1)).toList ++ gaps else gaps

def compl (set : CodeSet) : CodeSet :=
  ⟨gapsFrom 0 set.ranges⟩

def diff (a b : CodeSet) : CodeSet :=
  a.inter b.compl

/-- The code points of exactly one of the two sets. -/
def symmDiff (a b : CodeSet) : CodeSet :=
  (a.diff b).union (b.diff a)

/-- The character of a set that holds exactly one code point, if that is the one of a character. -/
def singleton? (set : CodeSet) : Option Char :=
  match set.ranges with
  | [range] =>
    if range.first = range.last ∧ range.first.isValidChar then some (Char.ofNat range.first)
    else none
  | _ => none

/-! ## Written tables -/

/-- The value of a hexadecimal digit. -/
def hexDigit? (c : Char) : Option Nat :=
  let n := c.toNat
  if 0x30 ≤ n && n ≤ 0x39 then some (n - 0x30)
  else if 0x41 ≤ n && n ≤ 0x46 then some (n - 0x41 + 10)
  else if 0x61 ≤ n && n ≤ 0x66 then some (n - 0x61 + 10)
  else none

/-- Ranges from the rest of a table's text.  `first` is the start of the range being read, once
its dash has been passed; `code` is the number whose digits are being read. -/
def readRanges (first code : Option Nat) : List Char → List CodeRange
  | [] => finish first code
  | c :: rest =>
    match hexDigit? c with
    | some digit => readRanges first (some (code.getD 0 * 16 + digit)) rest
    | none =>
      if c = '-' then readRanges code none rest
      else finish first code ++ readRanges none none rest
where
  /-- The range that ends here, if digits have been read. -/
  finish (first code : Option Nat) : List CodeRange :=
    match code with
    | some last => [⟨first.getD last, last⟩]
    | none => []

/-- The set that a table's text describes. -/
def ofText (text : String) : CodeSet :=
  ⟨readRanges none none text.toList⟩

end CodeSet

end Lexical
