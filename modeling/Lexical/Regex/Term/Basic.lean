/-!
# Regular expressions as written

A `Term` is a regular expression the way its text gives it: flags, groups, bracketed classes and
repetitions, before flags have been resolved and before anything has been simplified.

Sequences and alternations are binary and lean to the right; the empty sequence is `Term.empty`.  The
nesting depth (`Term.depth`) counts such a row as one level, however many members it has.
-/

namespace Lexical.Regex

/-- The options that a text can switch on and off. -/
inductive Flag where
  | ignoreCase
  | multiLine
  | dotAll
  | swapGreed
  | unicode
  | crlf
  | ignoreSpace
deriving DecidableEq

/-- A row of switches, in the order written; `true` switches on. -/
abbrev Switches := List (Flag × Bool)

/-- A character of a text. -/
structure Literal where
  char : Char
  /-- Written as two hexadecimal digits, which name a byte where Unicode is off. -/
  byteEscape : Bool
deriving DecidableEq

/-- Conditions on a place between two characters. -/
inductive Assertion where
  | startLine
  | endLine
  | startText
  | endText
  | wordBoundary
  | notWordBoundary
  | wordStart
  | wordEnd
  | wordStartHalf
  | wordEndHalf
deriving DecidableEq

/-! ## Classes -/

/-- The classes that one letter names, such as `\d`. -/
inductive ShortClass where
  | digit
  | space
  | word
deriving DecidableEq

/-- The named ASCII classes of brackets, such as `[:alpha:]`. -/
inductive AsciiClass where
  | alnum
  | alpha
  | ascii
  | blank
  | cntrl
  | digit
  | graph
  | lower
  | print
  | punct
  | space
  | upper
  | word
  | xdigit
deriving DecidableEq

/-- What a Unicode class such as `\p{Greek}` or `\p{sc=Greek}` asks for. -/
inductive PropertyQuery where
  | named (name : String)
  | valued (property value : String)
deriving DecidableEq

/-- The operators that join the sets inside brackets. -/
inductive SetOp where
  | inter
  | diff
  | symmDiff
deriving DecidableEq

/-- A set of characters as written. -/
inductive ClassTerm where
  | empty
  | literal (char : Literal)
  | range (first last : Literal)
  | ascii (name : AsciiClass) (negated : Bool)
  | short (name : ShortClass) (negated : Bool)
  | property (query : PropertyQuery) (negated : Bool)
  | bracketed (negated : Bool) (set : ClassTerm)
  | union (first rest : ClassTerm)
  | op (kind : SetOp) (left right : ClassTerm)
deriving DecidableEq

namespace ClassTerm

/-- The items of one union, in order. -/
def ofItems : List ClassTerm → ClassTerm
  | [] => empty
  | [item] => item
  | item :: rest => union item (ofItems rest)

/-- How deep the class nests; `inUnion` tells that an enclosing union has been counted. -/
def depth (inUnion : Bool) : ClassTerm → Nat
  | bracketed _ set => set.depth false + 1
  | union first rest =>
    let inner := max (first.depth false) (rest.depth true)
    if inUnion then inner else inner + 1
  | op _ left right => max (left.depth false) (right.depth false) + 1
  | _ => 0

end ClassTerm

/-! ## Terms -/

/-- The kinds of row that a binary term can continue. -/
inductive Row where
  | none
  | sequence
  | alternation
deriving DecidableEq

/-- A regular expression as written. -/
inductive Term where
  | empty
  | switch (flags : Switches)
  | literal (char : Literal)
  | dot
  | assertion (kind : Assertion)
  | charClass (set : ClassTerm)
  | repetition (body : Term) (min : Nat) (max : Option Nat) (greedy : Bool)
  | capture (body : Term)
  | group (flags : Switches) (body : Term)
  | seq (first rest : Term)
  | alt (first rest : Term)
deriving DecidableEq

namespace Term

/-- The items of one sequence, in order. -/
def ofItems : List Term → Term
  | [] => empty
  | [item] => item
  | item :: rest => seq item (ofItems rest)

/-- The branches of one alternation, in order. -/
def ofBranches : List Term → Term
  | [] => empty
  | [branch] => branch
  | branch :: rest => alt branch (ofBranches rest)

/-- How deep the term nests; `row` is the row that has been counted already. -/
def depth (row : Row) : Term → Nat
  | charClass (.bracketed negated set) => (ClassTerm.bracketed negated set).depth false
  | repetition body _ _ _ => body.depth .none + 1
  | capture body => body.depth .none + 1
  | group _ body => body.depth .none + 1
  | seq first rest =>
    let inner := max (first.depth .none) (rest.depth .sequence)
    if row = .sequence then inner else inner + 1
  | alt first rest =>
    let inner := max (first.depth .none) (rest.depth .alternation)
    if row = .alternation then inner else inner + 1
  | _ => 0

end Term

end Lexical.Regex
