import Lexical.Json.Basic
import Lexical.Unicode.CodeSet

/-!
# Reading JSON

`Json.parse?` reads a JSON document.  Strings may hold escapes for single surrogates
(`Json.Text`); everything else is held to the grammar: no control characters in strings, no comments,
no commas too many, no zeros in front of a number, nothing behind the value.

The grammar knows no limit of nesting.  Whoever reads values of a type from documents sets one for the
parts that the type has (`Json.decode?`); parts that are skipped may lie as deep as they like.
-/

namespace Lexical.Json

def isBlank (c : Char) : Bool :=
  c = ' ' || c = '\t' || c = '\n' || c = '\r'

def skipBlanks (text : List Char) : List Char :=
  text.dropWhile isBlank

/-- The text behind a word with which it begins. -/
def dropWord? (word : List Char) (text : List Char) : Option (List Char) :=
  if word.isPrefixOf text then some (text.drop word.length) else none

/-! ## Strings -/

/-- The code of an escape of four hexadecimal digits. -/
def hexCode? (a b c d : Char) : Option Nat := do
  let a ← CodeSet.hexDigit? a
  let b ← CodeSet.hexDigit? b
  let c ← CodeSet.hexDigit? c
  let d ← CodeSet.hexDigit? d
  some (((a * 16 + b) * 16 + c) * 16 + d)

/-- The character that an escape of one letter stands for. -/
def escapedChar? (c : Char) : Option Char :=
  match c with
  | '"' => some '"'
  | '\\' => some '\\'
  | '/' => some '/'
  | 'b' => some '\x08'
  | 'f' => some '\x0C'
  | 'n' => some '\n'
  | 'r' => some '\r'
  | 't' => some '\t'
  | _ => none

/-- The codes in a string up to its closing quote, and the text behind that.  Escapes by number can
give surrogates, all others are characters. -/
def readCodes : List Char → Option (List Nat × List Char)
  | [] => none
  | '"' :: rest => some ([], rest)
  | '\\' :: 'u' :: a :: b :: c :: d :: rest => do
    let code ← hexCode? a b c d
    let (codes, rest) ← readCodes rest
    some (code :: codes, rest)
  | '\\' :: c :: rest => do
    let c ← escapedChar? c
    let (codes, rest) ← readCodes rest
    some (c.toNat :: codes, rest)
  | c :: rest =>
    if c.toNat < 0x20 || c = '\\' then none
    else do
      let (codes, rest) ← readCodes rest
      some (c.toNat :: codes, rest)

def isHighSurrogate (code : Nat) : Bool :=
  0xD800 ≤ code && code ≤ 0xDBFF

def isLowSurrogate (code : Nat) : Bool :=
  0xDC00 ≤ code && code ≤ 0xDFFF

/-- The characters that codes stand for.  A high surrogate and the low one behind it make one
character; by themselves they stand for nothing. -/
def decodeCodes : List Nat → Option (List Char)
  | [] => some []
  | high :: low :: rest =>
    if isHighSurrogate high then
      if isLowSurrogate low then
        (decodeCodes rest).map
          (Char.ofNat (0x10000 + (high - 0xD800) * 0x400 + (low - 0xDC00)) :: ·)
      else none
    else if isLowSurrogate high then none
    else (decodeCodes (low :: rest)).map (Char.ofNat high :: ·)
  | [code] =>
    if isHighSurrogate code || isLowSurrogate code then none else some [Char.ofNat code]

/-- A string from behind its opening quote on, and the text behind it. -/
def readText (text : List Char) : Option (Json.Text × List Char) :=
  (readCodes text).map fun (codes, rest) => ((decodeCodes codes).map String.ofList, rest)

/-! ## Numbers -/

/-- One or more digits, and the text behind them. -/
def readDigits (text : List Char) : Option (List Char × List Char) :=
  let digits := text.takeWhile Char.isDigit
  if digits.isEmpty then none else some (digits, text.drop digits.length)

/-- A fraction, if there is one, and the text behind it. -/
def readFraction (text : List Char) : Option (Bool × List Char) :=
  match text with
  | '.' :: rest => (readDigits rest).map fun (_, rest) => (true, rest)
  | _ => some (false, text)

/-- An exponent, if there is one, and the text behind it. -/
def readExponent (text : List Char) : Option (Bool × List Char) :=
  match text with
  | c :: rest =>
    if c = 'e' || c = 'E' then
      let rest :=
        match rest with
        | sign :: behind => if sign = '+' || sign = '-' then behind else rest
        | [] => rest
      (readDigits rest).map fun (_, rest) => (true, rest)
    else some (false, text)
  | [] => some (false, text)

/-- A number, and the text behind it. -/
def readNumber (text : List Char) : Option (Json × List Char) := do
  let (negative, rest) :=
    match text with
    | '-' :: rest => (true, rest)
    | _ => (false, text)
  let (digits, rest) ← readDigits rest
  if digits.head? = some '0' && digits.length ≠ 1 then none
  else
    let (fraction, rest) ← readFraction rest
    let (exponent, rest) ← readExponent rest
    if negative || fraction || exponent then some (.otherNumber, rest)
    else some (.nat (digits.foldl (fun n c => n * 10 + (c.toNat - 0x30)) 0), rest)

/-! ## Values -/

mutual

/-- A value at the start of a text, and the text behind it.  `fuel` bounds the nesting of calls. -/
def readValue : Nat → List Char → Option (Json × List Char)
  | 0, _ => none
  | fuel + 1, text =>
    match text with
    | '"' :: rest => (readText rest).map fun (text, rest) => (.string text, rest)
    | '[' :: rest =>
      match skipBlanks rest with
      | ']' :: rest => some (.array [], rest)
      | rest => (readItems fuel rest).map fun (items, rest) => (.array items, rest)
    | '{' :: rest =>
      match skipBlanks rest with
      | '}' :: rest => some (.object [], rest)
      | rest => (readFields fuel rest).map fun (fields, rest) => (.object fields, rest)
    | 'n' :: _ => (dropWord? ['n', 'u', 'l', 'l'] text).map fun rest => (.null, rest)
    | 't' :: _ => (dropWord? ['t', 'r', 'u', 'e'] text).map fun rest => (.bool true, rest)
    | 'f' :: _ => (dropWord? ['f', 'a', 'l', 's', 'e'] text).map fun rest => (.bool false, rest)
    | text => readNumber text

/-- The items of an array, of which there is at least one, and the text behind its bracket. -/
def readItems : Nat → List Char → Option (List Json × List Char)
  | 0, _ => none
  | fuel + 1, text => do
    let (item, rest) ← readValue fuel text
    match skipBlanks rest with
    | ']' :: rest => some ([item], rest)
    | ',' :: rest =>
      let (items, rest) ← readItems fuel (skipBlanks rest)
      some (item :: items, rest)
    | _ => none

/-- The fields of an object, of which there is at least one, and the text behind its brace. -/
def readFields : Nat → List Char → Option (List (Json.Text × Json) × List Char)
  | 0, _ => none
  | fuel + 1, text => do
    let (name, rest) ←
      match text with
      | '"' :: rest => readText rest
      | _ => none
    let rest ←
      match skipBlanks rest with
      | ':' :: rest => some (skipBlanks rest)
      | _ => none
    let (value, rest) ← readValue fuel rest
    match skipBlanks rest with
    | '}' :: rest => some ([(name, value)], rest)
    | ',' :: rest =>
      let (fields, rest) ← readFields fuel (skipBlanks rest)
      some ((name, value) :: fields, rest)
    | _ => none

end

/-- The value of a document, in which blanks only may stand around it.  It may be nested to any
depth. -/
def parse? (text : List Char) : Option Json := do
  let (json, rest) ← readValue (2 * text.length + 2) (skipBlanks text)
  if (skipBlanks rest).isEmpty then some json else none

end Lexical.Json
