import Lexical.Config.Basic
import Lexical.Json.Parser
import Lexical.Json.Printer

/-!
# Lexer descriptions as JSON

`LexerConfig.toText` writes a description of a lexer as a JSON document, and `LexerConfig.ofText?`
reads one.  Fields that are missing have their standard values, and such fields of lists, maps and
options are left out in writing.  Unknown fields are refused, except among the options.
-/

namespace Lexical

/-- A missing field stands for a standard value. -/
def Json.orElse? {α : Type} (standard : α) (read : Json → Option α) : Option Json → Option α
  | none => some standard
  | some json => read json

/-- A field that is written only if it is there. -/
def Json.fieldIf (present : Bool) (name : String) (value : Json) : List (String × Json) :=
  if present then [(name, value)] else []

/-- A field for a value that may be missing. -/
def Json.fieldOf {α : Type} (name : String) (toJson : α → Json) : Option α → List (String × Json)
  | none => []
  | some a => [(name, toJson a)]

namespace OneOrMany

def toJson : OneOrMany → Json
  | one text => .text text
  | many texts => .array (texts.map .text)

def ofJson? (json : Json) : Option OneOrMany :=
  match json with
  | .array _ => (json.list? Json.text?).map many
  | json => json.text?.map one

end OneOrMany

namespace RuleConfig

/-- The names of the fields, in order. -/
def fieldNames : List String :=
  ["type", "match", "regex", "lineBreaks", "push", "pop", "next", "error", "ignore", "fallback",
    "categories", "keywords"]

def toJson (rule : RuleConfig) : Json :=
  .record <|
    [("type", .text rule.kind)]
      ++ Json.fieldOf "match" OneOrMany.toJson rule.literal
      ++ Json.fieldOf "regex" Json.text rule.regex
      ++ [("lineBreaks", .bool rule.lineBreaks)]
      ++ Json.fieldOf "push" Json.text rule.push
      ++ Json.fieldOf "pop" Json.nat rule.pop
      ++ Json.fieldOf "next" Json.text rule.next
      ++ [("error", .bool rule.error), ("ignore", .bool rule.ignore),
        ("fallback", .bool rule.fallback)]
      ++ Json.fieldIf (!rule.categories.isEmpty) "categories" (.array (rule.categories.map .text))
      ++ Json.fieldIf (!rule.keywords.isEmpty) "keywords"
        (.record (rule.keywords.map fun (kind, values) => (kind, values.toJson)))

def ofJson? (json : Json) : Option RuleConfig := do
  match ← json.fields? fieldNames true with
  | [kind, literal, regex, lineBreaks, push, pop, next, error, ignore, fallback, categories,
      keywords] =>
    some {
      kind := ← Json.orElse? "" Json.text? kind
      literal := ← Json.orElse? none (·.optional? OneOrMany.ofJson?) literal
      regex := ← Json.orElse? none (·.optional? Json.text?) regex
      lineBreaks := ← Json.orElse? false Json.bool? lineBreaks
      push := ← Json.orElse? none (·.optional? Json.text?) push
      pop := ← Json.orElse? none (·.optional? (·.natBelow? UInt64.size)) pop
      next := ← Json.orElse? none (·.optional? Json.text?) next
      error := ← Json.orElse? false Json.bool? error
      ignore := ← Json.orElse? false Json.bool? ignore
      fallback := ← Json.orElse? false Json.bool? fallback
      categories := ← Json.orElse? [] (·.list? Json.text?) categories
      keywords := ← Json.orElse? [] (·.entries? OneOrMany.ofJson?) keywords }
  | _ => none

end RuleConfig

namespace LexerOptions

def toJson (options : LexerOptions) : Json :=
  .record
    [("strictLineBreaks", .bool options.strictLineBreaks),
      ("partialInput", .bool options.partialInput),
      ("start",
        match options.start with
        | none => .null
        | some name => .text name)]

def ofJson? (json : Json) : Option LexerOptions := do
  match ← json.fields? ["strictLineBreaks", "partialInput", "start"] false with
  | [strictLineBreaks, partialInput, start] =>
    some {
      strictLineBreaks := ← Json.orElse? false Json.bool? strictLineBreaks
      partialInput := ← Json.orElse? false Json.bool? partialInput
      start := ← Json.orElse? none (·.optional? Json.text?) start }
  | _ => none

end LexerOptions

namespace LexerConfig

def toJson (config : LexerConfig) : Json :=
  .record <|
    Json.fieldIf (!config.categories.isEmpty) "categories"
        (.record (config.categories.map fun (name, parents) =>
          (name, .array (parents.map .text))))
      ++ Json.fieldIf (!config.states.isEmpty) "states"
        (.record (config.states.map fun (name, rules) =>
          (name, .array (rules.map RuleConfig.toJson))))
      ++ Json.fieldIf (!config.rules.isEmpty) "rules" (.array (config.rules.map RuleConfig.toJson))
      ++ [("options", config.options.toJson)]

def ofJson? (json : Json) : Option LexerConfig := do
  match ← json.fields? ["categories", "states", "rules", "options"] true with
  | [categories, states, rules, options] =>
    some {
      categories := ← Json.orElse? [] (·.entries? (·.list? Json.text?)) categories
      states := ← Json.orElse? [] (·.entries? (·.list? RuleConfig.ofJson?)) states
      rules := ← Json.orElse? [] (·.list? RuleConfig.ofJson?) rules
      options := ← Json.orElse? .standard LexerOptions.ofJson? options }
  | _ => none

/-- The description as a JSON document. -/
def toText (config : LexerConfig) : String :=
  String.ofList (config.toJson.writePretty 0)

/-- The description that a JSON document holds. -/
def ofText? (text : String) : Except ConfigError LexerConfig :=
  match (Json.parse? text.toList).bind ofJson? with
  | some config => .ok config
  | none => .error (.malformed "")

end LexerConfig

end Lexical
