import Lexical.Error

/-!
# Categories

Categories classify kinds of tokens.  Each is created with any number of parents, which must exist
already, so that they form no cycle; the ancestors of a category are itself, its parents and their
ancestors.  `CategoryRegistry.create` makes one, and its id is the number of categories before it.
-/

namespace Lexical

/-- A category by its place in the registry. -/
abbrev CategoryId := Nat

/-- A finite set of categories, in ascending order. -/
structure CategorySet where
  ids : List CategoryId
deriving DecidableEq

namespace CategorySet

def empty : CategorySet :=
  ⟨[]⟩

/-- Put an id into its place in an ascending list. -/
def insertId (id : CategoryId) : List CategoryId → List CategoryId
  | [] => [id]
  | next :: rest =>
    if id < next then id :: next :: rest
    else if id = next then next :: rest
    else next :: insertId id rest

def insert (set : CategorySet) (id : CategoryId) : CategorySet :=
  ⟨insertId id set.ids⟩

def ofList (ids : List CategoryId) : CategorySet :=
  ids.foldl insert empty

def contains (set : CategorySet) (id : CategoryId) : Bool :=
  set.ids.contains id

def isEmpty (set : CategorySet) : Bool :=
  set.ids.isEmpty

def size (set : CategorySet) : Nat :=
  set.ids.length

def union (a b : CategorySet) : CategorySet :=
  b.ids.foldl insert a

end CategorySet

/-- A category and what was given when it was created. -/
structure Category where
  name : String
  parents : List CategoryId
  /-- The category itself and all its ancestors. -/
  ancestors : CategorySet
deriving DecidableEq

/-- The categories that have been created, in order. -/
structure CategoryRegistry where
  entries : List Category
deriving DecidableEq

namespace CategoryRegistry

def empty : CategoryRegistry :=
  ⟨[]⟩

def size (registry : CategoryRegistry) : Nat :=
  registry.entries.length

def isEmpty (registry : CategoryRegistry) : Bool :=
  registry.entries.isEmpty

def contains (registry : CategoryRegistry) (id : CategoryId) : Bool :=
  id < registry.size

def names (registry : CategoryRegistry) : List String :=
  registry.entries.map Category.name

def lookup (registry : CategoryRegistry) (name : String) : Option CategoryId :=
  registry.names.idxOf? name

def name? (registry : CategoryRegistry) (id : CategoryId) : Option String :=
  registry.entries[id]?.map Category.name

/-- The parents of a category in the order given; none for an unknown id. -/
def parents (registry : CategoryRegistry) (id : CategoryId) : List CategoryId :=
  match registry.entries[id]? with
  | some category => category.parents
  | none => []

/-- A category together with its ancestors. -/
def ancestors? (registry : CategoryRegistry) (id : CategoryId) : Option CategorySet :=
  registry.entries[id]?.map Category.ancestors

/-- Whether `id` is `ancestor` or descends from it. -/
def isA (registry : CategoryRegistry) (id ancestor : CategoryId) : Bool :=
  match registry.ancestors? id with
  | some set => set.contains ancestor
  | none => false

/-- All given categories with their ancestors; unknown ids count for nothing. -/
def closure (registry : CategoryRegistry) (ids : List CategoryId) : CategorySet :=
  (ids.filterMap registry.ancestors?).foldl CategorySet.union .empty

/-- The error for an id that the registry did not give out. -/
def unknownId (id : CategoryId) : ConfigError :=
  .unknownCategory ("#" ++ toString id)

/-- The category with a name. -/
def require (registry : CategoryRegistry) (name : String) : Except ConfigError CategoryId :=
  match registry.lookup name with
  | some id => .ok id
  | none => .error (.unknownCategory name)

/-- Create a category.  Its name must be new and its parents must be known. -/
def create (registry : CategoryRegistry) (name : String) (parents : List CategoryId) :
    Except ConfigError (CategoryRegistry × CategoryId) :=
  if registry.names.contains name then .error (.duplicateCategory name)
  else
    match parents.find? fun id => !registry.contains id with
    | some id => .error (unknownId id)
    | none =>
      let id := registry.size
      .ok (⟨registry.entries ++ [⟨name, parents, (registry.closure parents).insert id⟩]⟩, id)

end CategoryRegistry

end Lexical
