/-!
# JSON values

The values of JSON documents.  Objects keep the order of their fields and fields of one name, so that
a reader can decide about both.

A JSON string can hold escapes for single surrogates, which are no characters.  `Json.Text` is what a
string in a document stands for: a text, or nothing for a string of that sort.  Of numbers only the
natural ones are told apart.
-/

namespace Lexical

/-- What a string in a JSON document stands for. -/
abbrev Json.Text := Option String

/-- The value of a JSON document. -/
inductive Json where
  | null
  | bool (value : Bool)
  | nat (value : Nat)
  /-- A number with a sign, a fraction or an exponent. -/
  | otherNumber
  | string (text : Json.Text)
  | array (items : List Json)
  | object (fields : List (Json.Text × Json))

namespace Json

def text (text : String) : Json :=
  string (some text)

/-- An object with fields in the given order. -/
def record (fields : List (String × Json)) : Json :=
  object (fields.map fun (name, value) => (some name, value))

/-! ## Nesting -/

mutual

/-- The number of arrays and objects that lie in one another, the value itself among them. -/
def nesting : Json → Nat
  | array items => nestingOfItems items + 1
  | object fields => nestingOfFields fields + 1
  | _ => 0

def nestingOfItems : List Json → Nat
  | [] => 0
  | item :: rest => max item.nesting (nestingOfItems rest)

def nestingOfFields : List (Json.Text × Json) → Nat
  | [] => 0
  | (_, value) :: rest => max value.nesting (nestingOfFields rest)

end

/-- The deepest nesting of a value that is read from a document. -/
def nestingLimit : Nat := 127

/-! ## Reading values -/

def bool? : Json → Option Bool
  | bool value => some value
  | _ => none

def text? : Json → Option String
  | string text => text
  | _ => none

/-- A natural number below a bound. -/
def natBelow? (bound : Nat) : Json → Option Nat
  | nat value => if value < bound then some value else none
  | _ => none

/-- A list, whose items are all read alike. -/
def list? {α : Type} (read : Json → Option α) : Json → Option (List α)
  | array items => items.mapM read
  | _ => none

/-- A value that may be missing, as which null counts. -/
def optional? {α : Type} (read : Json → Option α) : Json → Option (Option α)
  | null => some none
  | json => (read json).map some

/-- The fields of an object in order, with their names. -/
def entries? {α : Type} (read : Json → Option α) : Json → Option (List (String × α))
  | object fields =>
    fields.mapM fun (name, value) => do some (← name, ← read value)
  | _ => none

/-- The values of a record's fields, in the order of their `names`; a field can be missing.

A record is an object, in which no known field may stand twice and in which unknown ones are refused
if `closed`, or an array with the first of its fields in order. -/
def fields? (names : List String) (closed : Bool) : Json → Option (List (Option Json))
  | object fields => do
    let fields ← fields.mapM fun (name, value) => do some (← name, value)
    if (fields.map (·.1)).any fun name => closed && !names.contains name then none
    else if names.any fun name => 1 < (fields.map (·.1)).count name then none
    else some (names.map fun name => fields.lookup name)
  | array items =>
    if names.length < items.length then none
    else some (items.map some ++ List.replicate (names.length - items.length) none)
  | _ => none

end Json

end Lexical
