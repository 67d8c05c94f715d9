import Lexical.Regex.Term.Bracket

/-!
# Reading a regular expression

`Term.ofText?` reads a regular expression from its text.  Groups nest, so the reader keeps the groups
that are open (`OpenGroup`) behind the one that it reads (`Reading`).  A step takes at least one
character, so the length of the text bounds the number of steps.

Look-around and back-references are refused, as are the name of a capture used twice and a text
whose term nests deeper than `Term.maxDepth`.
-/

namespace Lexical.Regex

/-- The branches of a group that is being read. -/
structure Branches where
  /-- The branches before the last bar, the latest first. -/
  done : List Term
  /-- The items of the branch after it, the latest first. -/
  items : List Term

namespace Branches

def start : Branches :=
  ⟨[], []⟩

def push (branches : Branches) (item : Term) : Branches :=
  { branches with items := item :: branches.items }

/-- Go on with the next branch. -/
def bar (branches : Branches) : Branches :=
  ⟨Term.ofItems branches.items.reverse :: branches.done, []⟩

def term (branches : Branches) : Term :=
  Term.ofBranches branches.bar.done.reverse

end Branches

/-- What a group's opening says of it. -/
inductive GroupKind where
  | capture
  | switches (flags : Switches)

/-- The term that a group with a body is. -/
def GroupKind.close (kind : GroupKind) (body : Term) : Term :=
  match kind with
  | .capture => .capture body
  | .switches flags => .group flags body

/-- A group around the one being read: its kind, what has been read of the text around it, and
whether blanks are skipped there. -/
structure OpenGroup where
  kind : GroupKind
  around : Branches
  blanks : Bool

/-- The state of the reader. -/
structure Reading where
  branches : Branches
  /-- The open groups, the nearest first. -/
  groups : List OpenGroup
  /-- Whether blanks and comments are skipped. -/
  blanks : Bool
  /-- The names of the captures so far. -/
  names : List String

namespace Reading

def start : Reading :=
  ⟨.start, [], false, []⟩

def push (r : Reading) (item : Term) : Reading :=
  { r with branches := r.branches.push item }

def openGroup (r : Reading) (kind : GroupKind) (blanks : Bool) : Reading :=
  { r with branches := .start, groups := ⟨kind, r.branches, r.blanks⟩ :: r.groups, blanks }

/-- Close the innermost group, if one is open. -/
def closeGroup? (r : Reading) : Option Reading :=
  match r.groups with
  | [] => none
  | group :: groups =>
    some { r with
      branches := group.around.push (group.kind.close r.branches.term)
      groups
      blanks := group.blanks }

/-- The last item, for an operator that stands behind it.  Nothing and a switch cannot be
repeated. -/
def repeatLast? (r : Reading) (min : Nat) (max : Option Nat) (greedy : Bool) : Option Reading :=
  match r.branches.items with
  | [] => none
  | .switch _ :: _ => none
  | body :: items =>
    some { r with branches.items := .repetition body min max greedy :: items }

end Reading

/-! ## Groups -/

def flag? (c : Char) : Option Flag :=
  match c with
  | 'i' => some .ignoreCase
  | 'm' => some .multiLine
  | 's' => some .dotAll
  | 'U' => some .swapGreed
  | 'u' => some .unicode
  | 'R' => some .crlf
  | 'x' => some .ignoreSpace
  | _ => none

/-- Flags up to the `:` or `)` behind them, which is returned with the text after it.  No flag may
stand twice, and a hyphen only once and not at the end. -/
def readSwitches (on : Bool) (last : Option Char) (seen : Switches) :
    List Char → Option (Switches × Char × List Char)
  | [] => none
  | c :: rest =>
    if c = ':' || c = ')' then
      if last = some '-' then none else some (seen.reverse, c, rest)
    else if c = '-' then
      if on then readSwitches false (some c) seen rest else none
    else
      match flag? c with
      | none => none
      | some flag =>
        if (seen.map (·.1)).contains flag then none
        else readSwitches on (some c) ((flag, on) :: seen) rest

/-- What a row of switches says of a flag. -/
def Switches.find? (switches : Switches) (flag : Flag) : Option Bool :=
  switches.lookup flag

def isNameStart (c : Char) : Bool :=
  c = '_' || Unicode.alphabetic.containsChar c

def isNameChar (c : Char) : Bool :=
  c = '_' || c = '.' || c = '[' || c = ']' || Unicode.alphanumeric.containsChar c

/-- The name of a capture and the text behind its closing angle bracket. -/
def readName (text : List Char) : Option (String × List Char) :=
  let name := text.takeWhile (· ≠ '>')
  match name, text.drop name.length with
  | first :: others, '>' :: rest =>
    if isNameStart first && others.all isNameChar then some (String.ofList name, rest) else none
  | _, _ => none

/-- Open the group whose parenthesis has been read, or take over the switches that it holds. -/
def Reading.readGroup (r : Reading) (text : List Char) : Option (Reading × List Char) :=
  match skipBlanks r.blanks text with
  | '?' :: '=' :: _ => none
  | '?' :: '!' :: _ => none
  | '?' :: '<' :: '=' :: _ => none
  | '?' :: '<' :: '!' :: _ => none
  | '?' :: 'P' :: '<' :: rest => named rest
  | '?' :: '<' :: rest => named rest
  | '?' :: rest => do
    let (switches, close, rest) ← readSwitches true none [] rest
    let blanks := (switches.find? .ignoreSpace).getD r.blanks
    if close = ':' then some (r.openGroup (.switches switches) blanks, rest)
    else if switches.isEmpty then none
    else some ({ r with blanks }.push (.switch switches), rest)
  | text => some (r.openGroup .capture r.blanks, text)
where
  named (text : List Char) : Option (Reading × List Char) := do
    let (name, rest) ← readName text
    if r.names.contains name then none
    else some ({ r with names := name :: r.names }.openGroup .capture r.blanks, rest)

/-! ## Repetitions -/

/-- A number below 2 ^ 32, and the text behind it.  White space may stand around it. -/
def readCount (blanks : Bool) (text : List Char) : Option (Option Nat × List Char) :=
  let (digits, rest) :=
    takeWhileSignificant blanks Char.isDigit false (text.dropWhile isBlank)
  let rest := rest.dropWhile isBlank
  if digits.isEmpty then some (none, rest)
  else
    let n := digits.foldl (fun n c => n * 10 + (c.toNat - 0x30)) 0
    if n < UInt32.size then some (some n, rest) else none

/-- The bounds in the braces of a repetition, from behind the opening brace on. -/
def readBounds (blanks : Bool) (text : List Char) : Option (Nat × Option Nat × List Char) := do
  let (min, rest) ← readCount blanks (skipBlanks blanks text)
  let min ← min
  match rest with
  | '}' :: rest => some (min, some min, rest)
  | ',' :: rest =>
    match skipBlanks blanks rest with
    | '}' :: rest => some (min, none, rest)
    | rest =>
      let (max, rest) ← readCount blanks rest
      let max ← max
      match rest with
      | '}' :: rest => if min ≤ max then some (min, some max, rest) else none
      | _ => none
  | _ => none

/-- Repeat the last item between the given bounds; a `?` that follows makes the repetition lazy. -/
def Reading.readRepetition (r : Reading) (min : Nat) (max : Option Nat) (text : List Char) :
    Option (Reading × List Char) :=
  match text with
  | '?' :: rest => (r.repeatLast? min max false).map fun r => (r, rest)
  | text => (r.repeatLast? min max true).map fun r => (r, text)

/-! ## The reader -/

/-- The term of an escape. -/
def Escape.term : Escape → Term
  | .literal c => .literal c
  | .assertion kind => .assertion kind
  | .charClass set => .charClass set

/-- Read what begins with `c`, whose text goes on with `rest`. -/
def Reading.step (r : Reading) (c : Char) (rest : List Char) : Option (Reading × List Char) :=
  match c with
  | '(' => r.readGroup rest
  | ')' => r.closeGroup?.map fun r => (r, rest)
  | '|' => some ({ r with branches := r.branches.bar }, rest)
  | '[' => (readBracket r.blanks rest).map fun (set, rest) => (r.push (.charClass set), rest)
  | '?' => r.readRepetition 0 (some 1) rest
  | '*' => r.readRepetition 0 none rest
  | '+' => r.readRepetition 1 none rest
  | '{' => do
    let (min, max, rest) ← readBounds r.blanks rest
    r.readRepetition min max (skipBlanks r.blanks rest)
  | '\\' => (readEscape r.blanks rest).map fun (escape, rest) => (r.push escape.term, rest)
  | '.' => some (r.push .dot, rest)
  | '^' => some (r.push (.assertion .startLine), rest)
  | '$' => some (r.push (.assertion .endLine), rest)
  | c => some (r.push (.literal (verbatim c)), rest)

/-- Read to the end of the text. -/
def Reading.run : Nat → Reading → List Char → Option Term
  | 0, _, _ => none
  | fuel + 1, r, text =>
    match skipBlanks r.blanks text with
    | [] => if r.groups.isEmpty then some r.branches.term else none
    | c :: rest =>
      match r.step c rest with
      | none => none
      | some (r, rest) => run fuel r rest

/-- The greatest depth to which a term may nest. -/
def Term.maxDepth : Nat := 250

/-- The term that a text stands for, if it is a regular expression. -/
def Term.ofText? (text : List Char) : Option Term := do
  let term ← Reading.start.run (text.length + 1) text
  if term.depth .none ≤ maxDepth then some term else none

end Lexical.Regex
