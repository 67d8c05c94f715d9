import Lexical.Indent.Layer
import Lexical.Json.Parser

/-!
# Tokens and saved states as JSON

How tokens, positions and the saved states of sources are written as JSON and read back.  Each is a
record of named fields, which can be read from an array of all its values in order, too.  Fields of
other names count for nothing.

A value is read from its JSON form whatever its nesting.  From a document it is read up to a limit
(`Json.decode?`), so that reading cannot go down without end.
-/

namespace Lexical

/-- How values of a type are written as JSON and read back. -/
class JsonForm (α : Type) where
  toJson : α → Json
  ofJson? : Json → Option α

export JsonForm (toJson ofJson?)

/-- The value that a document holds, if it is not nested too deep.  What counts is the nesting of the
value's own form: what a document has besides is skipped without going into it. -/
def Json.decode? {α : Type} [JsonForm α] (text : List Char) : Option α :=
  ((Json.parse? text).bind ofJson?).filter fun a => (toJson a).nesting ≤ Json.nestingLimit

/-- The bound on offsets. -/
def Json.offsetBound : Nat := Position.offsetBound

/-- The bound on lines, columns, counts and ids. -/
def Json.countBound : Nat := UInt32.size

/-- The values of all fields of a record; where it is an array, all have to be there. -/
def Json.allFields? (names : List String) (json : Json) : Option (List (Option Json)) := do
  let fields ← json.fields? names false
  match json with
  | .array items => if items.length = names.length then some fields else none
  | _ => some fields

/-- An ascending list of ids. -/
def CategorySet.toJson (set : CategorySet) : Json :=
  .array (set.ids.map .nat)

def CategorySet.ofJson? (json : Json) : Option CategorySet := do
  some (.ofList (← json.list? (·.natBelow? Json.countBound)))

instance : JsonForm Position where
  toJson position :=
    .record [("offset", .nat position.offset), ("line", .nat position.line),
      ("col", .nat position.column)]
  ofJson? json := do
    match ← json.allFields? ["offset", "line", "col"] with
    | [some offset, some line, some column] =>
      some ⟨← offset.natBelow? Json.offsetBound, ← line.natBelow? Json.countBound,
        ← column.natBelow? Json.countBound⟩
    | _ => none

instance : JsonForm Token where
  toJson token :=
    .record [("kind", .text token.kind), ("value", .text token.value), ("text", .text token.text),
      ("offset", .nat token.offset), ("line_breaks", .nat token.lineBreaks),
      ("line", .nat token.line), ("col", .nat token.column),
      ("categories", token.categories.toJson), ("error", .bool token.isError)]
  ofJson? json := do
    let names :=
      ["kind", "value", "text", "offset", "line_breaks", "line", "col", "categories", "error"]
    match ← json.allFields? names with
    | [some kind, some value, some text, some offset, some lineBreaks, some line, some column,
        some categories, some isError] =>
      some {
        kind := ← kind.text?
        value := ← value.text?
        text := ← text.text?
        offset := ← offset.natBelow? Json.offsetBound
        lineBreaks := ← lineBreaks.natBelow? Json.countBound
        line := ← line.natBelow? Json.countBound
        column := ← column.natBelow? Json.countBound
        categories := ← CategorySet.ofJson? categories
        isError := ← isError.bool? }
    | _ => none

instance : JsonForm LexerState where
  toJson state :=
    .record [("offset", .nat state.offset), ("line", .nat state.line),
      ("col", .nat state.column), ("stack", .array (state.stack.map .text))]
  ofJson? json := do
    match ← json.allFields? ["offset", "line", "col", "stack"] with
    | [some offset, some line, some column, some stack] =>
      some {
        offset := ← offset.natBelow? Json.offsetBound
        line := ← line.natBelow? Json.countBound
        column := ← column.natBelow? Json.countBound
        stack := ← stack.list? Json.text? }
    | _ => none

/-- A value that may be missing; none is written as null. -/
def Json.ofOption {α : Type} (toJson : α → Json) : Option α → Json
  | none => .null
  | some a => toJson a

instance (α : Type) [JsonForm α] : JsonForm (IndentState α) where
  toJson state :=
    .record [("source", toJson state.source), ("indent", .ofOption .nat state.indent),
      ("stack", .array (state.stack.map .nat)), ("queue", .array (state.queue.map toJson)),
      ("here", .ofOption toJson state.here)]
  ofJson? json := do
    match ← json.allFields? ["source", "indent", "stack", "queue", "here"] with
    | [some source, indent, some stack, some queue, here] =>
      some {
        source := ← ofJson? source
        indent := ← (indent.getD .null).optional? (·.natBelow? Json.offsetBound)
        stack := ← stack.list? (·.natBelow? Json.offsetBound)
        queue := ← queue.list? ofJson?
        here := ← (here.getD .null).optional? ofJson? }
    | _ => none

end Lexical
