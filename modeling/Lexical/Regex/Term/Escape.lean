import Lexical.Regex.Term.Basic
import Lexical.Regex.Term.Blank

/-!
# Escapes

What may follow a backslash: a character that would otherwise mean something, a character by its
number, a class, or an assertion.  `readEscape` reads one, from behind the backslash on.
-/

namespace Lexical.Regex

/-- What one escape stands for. -/
inductive Escape where
  | literal (char : Literal)
  | assertion (kind : Assertion)
  | charClass (set : ClassTerm)
deriving DecidableEq

/-- Characters with a meaning of their own. -/
def isMeta (c : Char) : Bool :=
  "\\.+*?()|[]\x7b\x7d^$#&-~".toList.contains c

/-- Characters that stand for themselves behind a backslash: all of ASCII but letters, digits and
angle brackets. -/
def isEscapable (c : Char) : Bool :=
  c.toNat < 0x80 && !c.isAlphanum && c ≠ '<' && c ≠ '>'

/-! ## Characters by number -/

/-- The character with a number, if there is one. -/
def charOfNat? (n : Nat) : Option Char :=
  if n.isValidChar then some (Char.ofNat n) else none

def hexNumber? (digits : List Char) : Option Nat :=
  if digits.isEmpty then none
  else digits.foldlM (fun n c => (CodeSet.hexDigit? c).map (n * 16 + ·)) 0

/-- The first `count` significant characters of a text, and the significant text behind them. -/
def takeSignificant (blanks : Bool) : Nat → List Char → Option (List Char × List Char)
  | 0, text => some ([], text)
  | _ + 1, [] => none
  | count + 1, c :: rest =>
    (takeSignificant blanks count (skipBlanks blanks rest)).map fun (taken, rest) => (c :: taken, rest)

/-- A character by its number: `count` hexadecimal digits, or any number of them in braces. -/
def readHex (blanks : Bool) (count : Nat) (text : List Char) : Option (Escape × List Char) := do
  match skipBlanks blanks text with
  | '{' :: rest =>
    let (digits, rest) ← takeUntil blanks '}' false rest
    let char ← charOfNat? (← hexNumber? digits)
    some (.literal ⟨char, false⟩, rest)
  | text =>
    let (digits, rest) ← takeSignificant blanks count text
    let char ← charOfNat? (← hexNumber? digits)
    some (.literal ⟨char, count = 2⟩, rest)

/-! ## Unicode classes -/

/-- What the text between the braces of a Unicode class asks for. -/
def propertyQuery (text : List Char) : PropertyQuery :=
  match splitAt text with
  | some (property, value) => .valued (String.ofList property) (String.ofList value)
  | none => .named (String.ofList text)
where
  /-- The two sides of the leftmost `!=`, else of the leftmost `:`, else of the leftmost `=`. -/
  splitAt (text : List Char) : Option (List Char × List Char) :=
    notEqual text <|> char ':' text <|> char '=' text
  notEqual : List Char → Option (List Char × List Char)
    | [] => none
    | '!' :: '=' :: rest => some ([], rest)
    | c :: rest => (notEqual rest).map fun (before, behind) => (c :: before, behind)
  char (mark : Char) : List Char → Option (List Char × List Char)
    | [] => none
    | c :: rest =>
      if c = mark then some ([], rest)
      else (char mark rest).map fun (before, behind) => (c :: before, behind)

/-- A Unicode class from behind its `p`: one character, or a text in braces. -/
def readProperty (blanks negated : Bool) (text : List Char) : Option (Escape × List Char) := do
  match skipBlanks blanks text with
  | [] => none
  | '{' :: rest =>
    let (name, rest) ← takeUntil blanks '}' false rest
    some (.charClass (.property (propertyQuery name) negated), rest)
  | '\\' :: _ => none
  | c :: rest => some (.charClass (.property (.named (String.singleton c)) negated), rest)

/-! ## Word boundaries -/

def isBoundaryNameChar (c : Char) : Bool :=
  c.isAlpha || c = '-'

/-- A word boundary from behind its `b`.  Braces with a name in them say which boundary is meant;
braces with anything else are left for the repetition that they may be. -/
def readBoundary (blanks : Bool) (text : List Char) : Option (Escape × List Char) :=
  match text with
  | '{' :: rest =>
    match skipBlanks blanks rest with
    | [] => none
    | c :: _ =>
      if isBoundaryNameChar c then do
        let (name, rest) ← takeUntil blanks '}' false rest
        let kind ← named? (String.ofList name)
        some (.assertion kind, rest)
      else some (.assertion .wordBoundary, text)
  | _ => some (.assertion .wordBoundary, text)
where
  named? (name : String) : Option Assertion :=
    match name with
    | "start" => some .wordStart
    | "end" => some .wordEnd
    | "start-half" => some .wordStartHalf
    | "end-half" => some .wordEndHalf
    | _ => none

/-! ## All escapes -/

/-- The control characters that a letter names. -/
def controlChar? (c : Char) : Option Char :=
  match c with
  | 'a' => some '\x07'
  | 'f' => some '\x0C'
  | 't' => some '\t'
  | 'n' => some '\n'
  | 'r' => some '\r'
  | 'v' => some '\x0B'
  | _ => none

/-- One escape, from behind its backslash on, and the text behind it. -/
def readEscape (blanks : Bool) : List Char → Option (Escape × List Char)
  | [] => none
  | c :: rest =>
    match c with
    | 'x' => readHex blanks 2 rest
    | 'u' => readHex blanks 4 rest
    | 'U' => readHex blanks 8 rest
    | 'p' => readProperty blanks false rest
    | 'P' => readProperty blanks true rest
    | 'd' => some (.charClass (.short .digit false), rest)
    | 's' => some (.charClass (.short .space false), rest)
    | 'w' => some (.charClass (.short .word false), rest)
    | 'D' => some (.charClass (.short .digit true), rest)
    | 'S' => some (.charClass (.short .space true), rest)
    | 'W' => some (.charClass (.short .word true), rest)
    | 'A' => some (.assertion .startText, rest)
    | 'z' => some (.assertion .endText, rest)
    | 'b' => readBoundary blanks rest
    | 'B' => some (.assertion .notWordBoundary, rest)
    | '<' => some (.assertion .wordStart, rest)
    | '>' => some (.assertion .wordEnd, rest)
    | c =>
      if isEscapable c then some (.literal ⟨c, false⟩, rest)
      else (controlChar? c).map fun c => (.literal ⟨c, false⟩, rest)

end Lexical.Regex
