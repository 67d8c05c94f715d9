import Lexical.Json.Basic

/-!
# Writing JSON

`Json.write` writes a value without blanks, and `Json.writePretty` with a line for every item and
field, two spaces further in than what they belong to.  Characters are written as they are, except
for quotes, backslashes and controls.
-/

namespace Lexical.Json

/-- A digit in lower-case hexadecimal. -/
def hexDigit (n : Nat) : Char :=
  if n < 10 then Char.ofNat (0x30 + n) else Char.ofNat (0x61 + (n - 10))

/-- A character inside a string. -/
def escape (c : Char) : List Char :=
  match c with
  | '"' => ['\\', '"']
  | '\\' => ['\\', '\\']
  | '\x08' => ['\\', 'b']
  | '\x0C' => ['\\', 'f']
  | '\n' => ['\\', 'n']
  | '\r' => ['\\', 'r']
  | '\t' => ['\\', 't']
  | c =>
    if c.toNat < 0x20 then ['\\', 'u', '0', '0', hexDigit (c.toNat / 16), hexDigit (c.toNat % 16)]
    else [c]

/-- A string; one that stands for no text is written as an escaped surrogate. -/
def writeText (text : Json.Text) : List Char :=
  match text with
  | some text => '"' :: text.toList.flatMap escape ++ ['"']
  | none => "\"\\uD800\"".toList

/-- A value that holds no others. -/
def writeAtom : Json → List Char
  | null => "null".toList
  | bool true => "true".toList
  | bool false => "false".toList
  | nat n => Nat.toDigits 10 n
  | otherNumber => "-0".toList
  | string text => writeText text
  | _ => []

mutual

/-- A value on one line without blanks. -/
def write : Json → List Char
  | array items => '[' :: writeItems items ++ [']']
  | object fields => '{' :: writeFields fields ++ ['}']
  | json => writeAtom json

/-- Items with commas between them. -/
def writeItems : List Json → List Char
  | [] => []
  | [item] => item.write
  | item :: rest => item.write ++ ',' :: writeItems rest

/-- Fields with commas between them. -/
def writeFields : List (Json.Text × Json) → List Char
  | [] => []
  | [(name, value)] => writeText name ++ ':' :: value.write
  | (name, value) :: rest => writeText name ++ ':' :: value.write ++ ',' :: writeFields rest

end

/-- A line break and the indentation of the line behind it. -/
def newLine (depth : Nat) : List Char :=
  '\n' :: List.replicate (2 * depth) ' '

mutual

/-- A value with its parts on lines of their own, where the value stands at a depth. -/
def writePretty (depth : Nat) : Json → List Char
  | array [] => ['[', ']']
  | array items => '[' :: writePrettyItems (depth + 1) items ++ newLine depth ++ [']']
  | object [] => ['{', '}']
  | object fields => '{' :: writePrettyFields (depth + 1) fields ++ newLine depth ++ ['}']
  | json => writeAtom json

/-- Items, each on a new line. -/
def writePrettyItems (depth : Nat) : List Json → List Char
  | [] => []
  | [item] => newLine depth ++ item.writePretty depth
  | item :: rest => newLine depth ++ item.writePretty depth ++ ',' :: writePrettyItems depth rest

/-- Fields, each on a new line. -/
def writePrettyFields (depth : Nat) : List (Json.Text × Json) → List Char
  | [] => []
  | [(name, value)] => newLine depth ++ writeText name ++ ':' :: ' ' :: value.writePretty depth
  | (name, value) :: rest =>
    newLine depth ++ writeText name ++ ':' :: ' ' :: value.writePretty depth
      ++ ',' :: writePrettyFields depth rest

end

end Lexical.Json
