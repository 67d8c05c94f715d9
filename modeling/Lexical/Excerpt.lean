import Lexical.Position
import Lexical.Text.Measure

/-!
# Excerpts

A message with the place that it is about: the message and the position, then the line of the place
with up to two lines on either side, each behind its number, and a caret below the place.

Lines are told by the line breaks of the text, while their numbers are reckoned from the line of the
position.  Where the position lies outside the text there is no excerpt (`Excerpt.index?`).
-/

namespace Lexical.Excerpt

/-- The number of lines shown before and after the line of the place. -/
def contextLines : Nat := 2

/-- The message where none is given. -/
def defaultMessage : String :=
  "invalid syntax"

/-- The greatest width to which a part of a line can be padded. -/
def maxWidth : Nat := 65535

/-- The place of a position in a text that starts at the offset `base`, in bytes. -/
def index? (text : List Char) (base : Nat) (position : Position) : Option Nat :=
  if base ≤ position.offset && position.offset - base ≤ Text.byteLength text then
    some (position.offset - base)
  else none

/-- The number of the text's line, counted from zero, in which a place lies. -/
def row (text : List Char) (index : Nat) : Nat :=
  Text.lineBreaks (Text.takeBytes index text)

/-- The first line that is shown. -/
def firstRow (row : Nat) : Nat :=
  row - contextLines

/-- A line without the carriage return at its end. -/
def trimReturn (line : List Char) : List Char :=
  if line.getLast? = some '\r' then line.dropLast else line

/-- The lines that are shown. -/
def window (text : List Char) (row : Nat) : List (List Char) :=
  (((Text.lines text).drop (firstRow row)).take (row - firstRow row + contextLines + 1)).map
    trimReturn

/-- The number of the first line that is shown. -/
def firstNumber (position : Position) (row : Nat) : Nat :=
  max (position.line - (row - firstRow row)) 1

/-- The width of the numbers in front of the lines. -/
def gutter (first count : Nat) : Nat :=
  (Nat.toDigits 10 (first + (count - 1))).length

/-- The number of blanks in front of the caret. -/
def caretIndent (gutter : Nat) (position : Position) : Nat :=
  gutter + position.column + 1

/-- A number at the right of a field. -/
def alignRight (width : Nat) (n : Nat) : List Char :=
  let digits := Nat.toDigits 10 n
  List.replicate (width - digits.length) ' ' ++ digits

/-- The lines that are shown, each behind a line break and its number, with the caret below the one
of the place. -/
def writeLines (gutter caret place : Nat) (row number : Nat) : List (List Char) → List Char
  | [] => []
  | line :: rest =>
    '\n' :: alignRight gutter number ++ [' ', ' '] ++ line
      ++ (if row = place then '\n' :: List.replicate caret ' ' ++ ['^'] else [])
      ++ writeLines gutter caret place (row + 1) (number + 1) rest

/-- The line that names the place. -/
def header (position : Position) (message : String) : String :=
  message ++ " at " ++ position.text ++ ":"

/-- A message with the text around a position, where the text starts at the offset `base`.  It
cannot be written where the caret would stand too far to the right. -/
def render? (text : List Char) (base : Nat) (position : Position) (message : String) :
    Option String :=
  match index? text base position with
  | none => some (header position message)
  | some index =>
    let place := row text index
    let lines := window text place
    let number := firstNumber position place
    let gutter := gutter number lines.length
    let caret := caretIndent gutter position
    if gutter ≤ maxWidth && caret ≤ maxWidth then
      some (header position message ++ "\n"
        ++ String.ofList (writeLines gutter caret place (firstRow place) number lines))
    else none

end Lexical.Excerpt
