import Lexical.Text.Quoted

/-!
# Values written out

Records, applied names and lists on one line, for the descriptions of rules and lexers.
-/

namespace Lexical.Text

/-- The text of a truth value. -/
def bool (b : Bool) : String :=
  if b then "true" else "false"

/-- Items between square brackets. -/
def list (items : List String) : String :=
  "[" ++ ", ".intercalate items ++ "]"

/-- A name applied to values. -/
def apply (name : String) (values : List String) : String :=
  name ++ "(" ++ ", ".intercalate values ++ ")"

/-- A value that may be missing. -/
def option (value : Option String) : String :=
  match value with
  | none => "None"
  | some value => apply "Some" [value]

/-- A record with named fields; `more` tells that there are others than those shown. -/
def record (name : String) (fields : List (String × String)) (more : Bool) : String :=
  let shown := fields.map fun (field, value) => field ++ ": " ++ value
  let shown := if more then shown ++ [".."] else shown
  name ++ " \x7b " ++ ", ".intercalate shown ++ " \x7d"

end Lexical.Text
