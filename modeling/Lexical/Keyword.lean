import Lexical.Category

/-!
# Keywords

A rule that matches names of any kind can carry keywords: a match whose text is a keyword's value
gets the keyword's kind.  All rules of one kind in one state share a `KeywordTable`, and no value may
belong to two kinds in it; `KeywordDispatcher` holds the tables of all states.
-/

namespace Lexical

/-- A kind of keyword with the texts that are of this kind. -/
structure Keyword where
  kind : String
  values : List String
  categories : List CategoryId
deriving DecidableEq

/-- The keywords of the rules of one kind. -/
structure KeywordTable where
  /-- The kinds of keywords in the order in which they were first inserted. -/
  kinds : List String
  /-- Each value with its kind. -/
  claims : List (String × String)
deriving DecidableEq

namespace KeywordTable

def empty : KeywordTable :=
  ⟨[], []⟩

/-- The kind of the keyword with a given text. -/
def lookup (table : KeywordTable) (text : String) : Option String :=
  table.claims.lookup text

/-- Claim one value for a kind. -/
def claim (table : KeywordTable) (kind value : String) : Except ConfigError KeywordTable :=
  match table.lookup value with
  | some first => if first = kind then .ok table else .error (.duplicateKeyword value first kind)
  | none => .ok { table with claims := table.claims ++ [(value, kind)] }

/-- Claim values one after the other, up to the first that another kind has. -/
def claimAll (table : KeywordTable) (kind : String) :
    List String → KeywordTable × Option ConfigError
  | [] => (table, none)
  | value :: rest =>
    match table.claim kind value with
    | .ok table => table.claimAll kind rest
    | .error error => (table, some error)

/-- Insert a keyword with all its values.  Where a value belongs to another kind, the values before
it stay. -/
def insert (table : KeywordTable) (keyword : Keyword) : KeywordTable × Option ConfigError :=
  let table :=
    if table.kinds.contains keyword.kind then table
    else { table with kinds := table.kinds ++ [keyword.kind] }
  table.claimAll keyword.kind keyword.values

/-- Insert keywords one after the other, up to the first that fails. -/
def insertAll (table : KeywordTable) : List Keyword → KeywordTable × Option ConfigError
  | [] => (table, none)
  | keyword :: rest =>
    match table.insert keyword with
    | (table, none) => table.insertAll rest
    | (table, some error) => (table, some error)

end KeywordTable

/-- The keyword tables by state and by the kind of the rules that share them. -/
structure KeywordDispatcher where
  tables : List ((Nat × String) × KeywordTable)

namespace KeywordDispatcher

def empty : KeywordDispatcher :=
  ⟨[]⟩

/-- The table of the rules of a kind in a state. -/
def table (dispatcher : KeywordDispatcher) (state : Nat) (kind : String) : KeywordTable :=
  (dispatcher.tables.lookup (state, kind)).getD .empty

/-- Replace a table. -/
def setTable (dispatcher : KeywordDispatcher) (state : Nat) (kind : String) (table : KeywordTable) :
    KeywordDispatcher :=
  ⟨((state, kind), table) :: dispatcher.tables.filter (·.1 ≠ (state, kind))⟩

/-- Add the keywords of a rule to the table that it uses. -/
def register (dispatcher : KeywordDispatcher) (state : Nat) (kind : String)
    (keywords : List Keyword) : KeywordDispatcher × Option ConfigError :=
  let (table, error) := (dispatcher.table state kind).insertAll keywords
  (dispatcher.setTable state kind table, error)

/-- The kind of the keyword that a match of a rule of kind `kind` is. -/
def resolve (dispatcher : KeywordDispatcher) (state : Nat) (kind text : String) : Option String :=
  (dispatcher.table state kind).lookup text

end KeywordDispatcher

end Lexical
