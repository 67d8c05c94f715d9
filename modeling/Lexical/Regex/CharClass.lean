import Lexical.Regex.Term.Basic
import Lexical.Unicode.CaseFolding
import Lexical.Unicode.Property

/-!
# The characters of a class

`ClassTerm.toSet?` resolves a class under the flags that hold where it stands.  Without regard to case
the characters written get their case variants before a negation is applied, so that `[^k]` excludes
the Kelvin sign, too.

Where Unicode is off, a class is a class of bytes: a negation leaves the other bytes.  Only ASCII
bytes are characters by themselves, so a class with others in it is refused, as nearly every negated
one is.
-/

namespace Lexical.Regex

/-- The flags that hold at a place. -/
structure Flags where
  ignoreCase : Bool
  multiLine : Bool
  dotAll : Bool
  swapGreed : Bool
  unicode : Bool
  crlf : Bool
deriving DecidableEq

namespace Flags

/-- The flags at the start of a text. -/
def initial : Flags :=
  ⟨false, false, false, false, true, false⟩

/-- Set one flag.  Blanks matter to the reader only. -/
def set (flags : Flags) (flag : Flag) (on : Bool) : Flags :=
  match flag with
  | .ignoreCase => { flags with ignoreCase := on }
  | .multiLine => { flags with multiLine := on }
  | .dotAll => { flags with dotAll := on }
  | .swapGreed => { flags with swapGreed := on }
  | .unicode => { flags with unicode := on }
  | .crlf => { flags with crlf := on }
  | .ignoreSpace => flags

def apply (flags : Flags) (switches : Switches) : Flags :=
  switches.foldl (fun flags (flag, on) => flags.set flag on) flags

/-- Add the case variants, if case is ignored. -/
def fold (flags : Flags) (chars : CodeSet) : CodeSet :=
  if flags.ignoreCase then
    if flags.unicode then chars.foldCase else chars.foldCaseAscii
  else chars

/-- All others; where Unicode is off, all other bytes. -/
def complement (flags : Flags) (chars : CodeSet) : CodeSet :=
  if flags.unicode then chars.compl else chars.compl.inter (.ofRanges [⟨0, 0xFF⟩])

/-- The set as a class.  Where Unicode is off it must be one of ASCII characters. -/
def check? (flags : Flags) (chars : CodeSet) : Option CodeSet :=
  if flags.unicode || chars.isAscii then some chars else none

/-- The complement if `negated`, as a class. -/
def negate? (flags : Flags) (negated : Bool) (chars : CodeSet) : Option CodeSet :=
  flags.check? (if negated then flags.complement chars else chars)

/-- The characters with their case variants, or all others. -/
def foldAndNegate? (flags : Flags) (negated : Bool) (chars : CodeSet) : Option CodeSet :=
  flags.negate? negated (flags.fold chars)

end Flags

/-- The character that a literal stands for, where Unicode is off only if it is not a byte beyond
ASCII. -/
def Literal.char? (flags : Flags) (literal : Literal) : Option Char :=
  if !flags.unicode && literal.byteEscape && 0x7F < literal.char.toNat then none
  else some literal.char

/-- The code point of a literal in a class.  Where Unicode is off it has to fit into a byte. -/
def Literal.code? (flags : Flags) (literal : Literal) : Option Nat := do
  let c ← literal.char? flags
  if flags.unicode || c.toNat ≤ 0xFF then some c.toNat else none

def AsciiClass.set (name : AsciiClass) : CodeSet :=
  match name with
  | .alnum => .ofText "30-39 41-5A 61-7A"
  | .alpha => .ofText "41-5A 61-7A"
  | .ascii => .ofText "0-7F"
  | .blank => .ofText "9 20"
  | .cntrl => .ofText "0-1F 7F"
  | .digit => .ofText "30-39"
  | .graph => .ofText "21-7E"
  | .lower => .ofText "61-7A"
  | .print => .ofText "20-7E"
  | .punct => .ofText "21-2F 3A-40 5B-60 7B-7E"
  | .space => .ofText "9-D 20"
  | .upper => .ofText "41-5A"
  | .word => .ofText "30-39 41-5A 5F 61-7A"
  | .xdigit => .ofText "30-39 41-46 61-66"

def ShortClass.set (name : ShortClass) (unicode : Bool) : CodeSet :=
  match name with
  | .digit => if unicode then Unicode.decimalDigit else AsciiClass.digit.set
  | .space => if unicode then Unicode.whiteSpace else AsciiClass.space.set
  | .word => if unicode then Unicode.word else AsciiClass.word.set

def PropertyQuery.set? : PropertyQuery → Option CodeSet
  | .named name => Unicode.named? name
  | .valued property value => Unicode.valued? property value

namespace ClassTerm

/-- The characters of a class under the given flags. -/
def toSet? (flags : Flags) : ClassTerm → Option CodeSet
  | empty => some .empty
  | literal char => (char.code? flags).map .single
  | range first last => do some (.ofRanges [⟨← first.code? flags, ← last.code? flags⟩])
  | ascii name negated => flags.foldAndNegate? negated name.set
  | short name negated => flags.negate? negated (name.set flags.unicode)
  | property query negated =>
    if flags.unicode then do flags.foldAndNegate? negated (← query.set?) else none
  | bracketed negated set => do flags.foldAndNegate? negated (← set.toSet? flags)
  | union first rest => do some ((← first.toSet? flags).union (← rest.toSet? flags))
  | op kind left right => do
    let left := flags.fold (← left.toSet? flags)
    let right := flags.fold (← right.toSet? flags)
    match kind with
    | .inter => some (left.inter right)
    | .diff => some (left.diff right)
    | .symmDiff => some (left.symmDiff right)

end ClassTerm

end Lexical.Regex
