import Lexical.Regex.Term.Escape

/-!
# Bracketed classes

A class such as `[a-z&&[^aeiou]]`.  Brackets nest, so the reader keeps the brackets that are open: the
innermost one with what has been read of it (`OpenBracket`), and the outer ones behind it.  The set
operators bind equally and to the left.

`readBracket` reads one class from behind its opening bracket on.  A step of it takes at least one
character, so the length of the text bounds the number of steps.
-/

namespace Lexical.Regex

/-- What has been read of a bracket that is still open. -/
structure OpenBracket where
  negated : Bool
  /-- The operand to the left of the last operator, and that operator. -/
  pending : Option (SetOp × ClassTerm)
  /-- The items since the last operator, the latest first. -/
  items : List ClassTerm

namespace OpenBracket

def push (bracket : OpenBracket) (item : ClassTerm) : OpenBracket :=
  { bracket with items := item :: bracket.items }

/-- The set that stands in the bracket so far. -/
def set (bracket : OpenBracket) : ClassTerm :=
  let operand := ClassTerm.ofItems bracket.items.reverse
  match bracket.pending with
  | none => operand
  | some (kind, left) => .op kind left operand

/-- Go on with the right operand of an operator. -/
def operator (bracket : OpenBracket) (kind : SetOp) : OpenBracket :=
  { bracket with pending := some (kind, bracket.set), items := [] }

/-- The class that the bracket stands for once it is closed. -/
def close (bracket : OpenBracket) : ClassTerm :=
  .bracketed bracket.negated bracket.set

end OpenBracket

/-- A literal as it stands in the text. -/
def verbatim (c : Char) : Literal :=
  ⟨c, false⟩

/-- Open a bracket, from behind its `[` on.  First may come a `^`, then any number of hyphens, which
stand for themselves; without a hyphen a closing bracket stands for itself, too. -/
def openBracket (blanks : Bool) (text : List Char) : Option (OpenBracket × List Char) :=
  let text := skipBlanks blanks text
  let (negated, text) :=
    match text with
    | '^' :: rest => (true, skipBlanks blanks rest)
    | _ => (false, text)
  let (hyphens, text) := takeWhileSignificant blanks (· = '-') false text
  let items := hyphens.map fun c => ClassTerm.literal (verbatim c)
  match items, text with
  | _, [] => none
  | [], ']' :: rest =>
    match skipBlanks blanks rest with
    | [] => none
    | text => some (⟨negated, none, [.literal (verbatim ']')]⟩, text)
  | items, text => some (⟨negated, none, items⟩, text)

/-! ## Items -/

/-- The ASCII class with a name. -/
def asciiClass? (name : String) : Option AsciiClass :=
  match name with
  | "alnum" => some .alnum
  | "alpha" => some .alpha
  | "ascii" => some .ascii
  | "blank" => some .blank
  | "cntrl" => some .cntrl
  | "digit" => some .digit
  | "graph" => some .graph
  | "lower" => some .lower
  | "print" => some .print
  | "punct" => some .punct
  | "space" => some .space
  | "upper" => some .upper
  | "word" => some .word
  | "xdigit" => some .xdigit
  | _ => none

/-- A class such as `[:alpha:]` or `[:^alpha:]`, from behind its `[` on. -/
def readAsciiClass? : List Char → Option (ClassTerm × List Char)
  | ':' :: '^' :: rest => named true rest
  | ':' :: rest => named false rest
  | _ => none
where
  named (negated : Bool) (text : List Char) : Option (ClassTerm × List Char) :=
    let name := text.takeWhile (· ≠ ':')
    match text.drop name.length with
    | ':' :: ']' :: rest =>
      (asciiClass? (String.ofList name)).map fun name => (.ascii name negated, rest)
    | _ => none

/-- One end of a range, or an item by itself. -/
def readItem (blanks : Bool) : List Char → Option (Escape × List Char)
  | [] => none
  | '\\' :: rest => readEscape blanks rest
  | c :: rest => some (.literal (verbatim c), rest)

/-- An escape as an item; an assertion is none. -/
def Escape.item? : Escape → Option ClassTerm
  | .literal c => some (.literal c)
  | .charClass set => some set
  | .assertion _ => none

/-- An item or a range.  A hyphen before the closing bracket or before another hyphen makes no
range. -/
def readRange (blanks : Bool) (text : List Char) : Option (ClassTerm × List Char) := do
  let (first, rest) ← readItem blanks text
  match skipBlanks blanks rest with
  | [] => none
  | '-' :: rest =>
    let next := peekSignificant blanks rest
    if next = some ']' || next = some '-' then
      some (← first.item?, '-' :: rest)
    else
      let (last, rest) ← readItem blanks (skipBlanks blanks rest)
      match first, last with
      | .literal first, .literal last =>
        if first.char ≤ last.char then some (.range first last, rest) else none
      | _, _ => none
  | rest => some (← first.item?, rest)

/-! ## The reader -/

/-- Read on inside `bracket`, with `outer` the open brackets around it, the nearest first. -/
def readBracketFrom (blanks : Bool) :
    Nat → OpenBracket → List OpenBracket → List Char → Option (ClassTerm × List Char)
  | 0, _, _, _ => none
  | fuel + 1, bracket, outer, text =>
    match skipBlanks blanks text with
    | [] => none
    | '[' :: rest =>
      match readAsciiClass? rest with
      | some (item, rest) => readBracketFrom blanks fuel (bracket.push item) outer rest
      | none =>
        match openBracket blanks rest with
        | none => none
        | some (inner, rest) => readBracketFrom blanks fuel inner (bracket :: outer) rest
    | ']' :: rest =>
      match outer with
      | [] => some (bracket.close, rest)
      | next :: outer => readBracketFrom blanks fuel (next.push bracket.close) outer rest
    | '&' :: '&' :: rest => readBracketFrom blanks fuel (bracket.operator .inter) outer rest
    | '-' :: '-' :: rest => readBracketFrom blanks fuel (bracket.operator .diff) outer rest
    | '~' :: '~' :: rest => readBracketFrom blanks fuel (bracket.operator .symmDiff) outer rest
    | text =>
      match readRange blanks text with
      | none => none
      | some (item, rest) => readBracketFrom blanks fuel (bracket.push item) outer rest

/-- A bracketed class from behind its opening bracket on, and the text behind it. -/
def readBracket (blanks : Bool) (text : List Char) : Option (ClassTerm × List Char) := do
  let (bracket, rest) ← openBracket blanks text
  readBracketFrom blanks (rest.length + 1) bracket [] rest

end Lexical.Regex
