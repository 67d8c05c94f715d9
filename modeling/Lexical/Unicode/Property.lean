import Lexical.Unicode.CategoryTable
import Lexical.Unicode.PropertyTable
import Lexical.Unicode.ScriptTable

/-!
# Sets of characters by name

`Unicode.named?` finds the set that a property's name stands for, and `Unicode.valued?` the one that
a property and a value stand for.  Names are compared loosely (`normalizeName`): case, blanks,
hyphens, underscores and a leading `is` do not count.

There are tables for general categories and scripts and for a few binary properties.  The other
properties that the Unicode standard has are left out, so patterns that name them count as malformed
here, though other engines read them (`Regex.Engine`).
-/

namespace Lexical.Unicode

/-- A name in lower case, without blanks, hyphens, underscores, characters beyond ASCII and a
leading `is`.  Only `isc` keeps it, so as not to be taken for `c`. -/
def normalizeName (name : String) : String :=
  let plain (cs : List Char) : List Char :=
    (cs.filter fun c => c.toNat < 0x80 && c ≠ ' ' && c ≠ '_' && c ≠ '-').map Char.toLower
  match name.toList with
  | i :: s :: rest =>
    if i.toLower = 'i' && s.toLower = 's' then
      if plain rest = ['c'] then "isc" else String.ofList (plain rest)
    else String.ofList (plain (i :: s :: rest))
  | cs => String.ofList (plain cs)

/-! ## General categories -/

/-- The two-letter names of the categories that a normalized name stands for. -/
def categoryMembers? (name : String) : Option (List String) :=
  (categoryNames.find? fun (names, _) => names.contains name).map (·.2)
where
  /-- The names of each category and of each group of categories. -/
  categoryNames : List (List String × List String) := [
    (["l", "letter"], ["lu", "ll", "lt", "lm", "lo"]),
    (["lc", "casedletter"], ["lu", "ll", "lt"]),
    (["lu", "uppercaseletter"], ["lu"]),
    (["ll", "lowercaseletter"], ["ll"]),
    (["lt", "titlecaseletter"], ["lt"]),
    (["lm", "modifierletter"], ["lm"]),
    (["lo", "otherletter"], ["lo"]),
    (["m", "mark", "combiningmark"], ["mn", "mc", "me"]),
    (["mn", "nonspacingmark"], ["mn"]),
    (["mc", "spacingmark"], ["mc"]),
    (["me", "enclosingmark"], ["me"]),
    (["n", "number"], ["nd", "nl", "no"]),
    (["nd", "decimalnumber", "digit"], ["nd"]),
    (["nl", "letternumber"], ["nl"]),
    (["no", "othernumber"], ["no"]),
    (["p", "punctuation", "punct"], ["pc", "pd", "ps", "pe", "pi", "pf", "po"]),
    (["pc", "connectorpunctuation"], ["pc"]),
    (["pd", "dashpunctuation"], ["pd"]),
    (["ps", "openpunctuation"], ["ps"]),
    (["pe", "closepunctuation"], ["pe"]),
    (["pi", "initialpunctuation"], ["pi"]),
    (["pf", "finalpunctuation"], ["pf"]),
    (["po", "otherpunctuation"], ["po"]),
    (["s", "symbol"], ["sm", "sc", "sk", "so"]),
    (["sm", "mathsymbol"], ["sm"]),
    (["sc", "currencysymbol"], ["sc"]),
    (["sk", "modifiersymbol"], ["sk"]),
    (["so", "othersymbol"], ["so"]),
    (["z", "separator"], ["zs", "zl", "zp"]),
    (["zs", "spaceseparator"], ["zs"]),
    (["zl", "lineseparator"], ["zl"]),
    (["zp", "paragraphseparator"], ["zp"]),
    (["c", "other"], ["cc", "cf", "cn", "co"]),
    (["cc", "control", "cntrl"], ["cc"]),
    (["cf", "format"], ["cf"]),
    (["cn", "unassigned"], ["cn"]),
    (["co", "privateuse"], ["co"])]

/-- The code points of one category, by its two-letter name. -/
def categorySet (code : String) : CodeSet :=
  CodeSet.ofText ((generalCategoryTable.lookup code).getD "")

/-- The code points of the categories with the given two-letter names. -/
def categoriesSet (codes : List String) : CodeSet :=
  CodeSet.unions (codes.map categorySet)

/-- The set of a general category, of a group of categories, or one of the three sets that are
named like categories. -/
def generalCategory? (name : String) : Option CodeSet :=
  match name with
  | "any" => some (CodeSet.compl CodeSet.empty)
  | "assigned" => some (CodeSet.compl (categorySet "cn"))
  | "ascii" => some (CodeSet.ofText "0-7F")
  | _ => (categoryMembers? name).map categoriesSet

/-! ## Scripts and binary properties -/

def script? (name : String) : Option CodeSet :=
  (scriptTable.find? fun (names, _) => names.contains name).map fun (_, text) => CodeSet.ofText text

/-- The set of a binary property, for the eight that are listed.  Most binary properties are left out,
such as `XID_Start`, `ID_Start`, `Math` and `Hex_Digit`: nothing is found for their names. -/
def binary? (name : String) : Option CodeSet :=
  match name with
  | "whitespace" | "wspace" | "space" => some whiteSpace
  | "alphabetic" | "alpha" => some alphabetic
  | "lowercase" | "lower" => some lowercase
  | "uppercase" | "upper" => some uppercase
  | "graphemeextend" | "grext" => some graphemeExtend
  | "emoji" => some emoji
  | "asciihexdigit" | "ahex" => some (CodeSet.ofText "30-39 41-46 61-66")
  | "joincontrol" | "joinc" => some (CodeSet.ofText "200C-200D")
  | _ => none

/-- The set that a bare name stands for: one of the binary properties of `binary?` before a general
category before a script. -/
def named? (name : String) : Option CodeSet :=
  let name := normalizeName name
  binary? name <|> generalCategory? name <|> script? name

/-- The set of the characters for which a property has a value, where the property is the general
category or the script.  All other properties with values are left out, such as `age`, `scx`, `gcb`,
`wb` and `sb`: nothing is found for their names. -/
def valued? (property value : String) : Option CodeSet :=
  match normalizeName property with
  | "gc" | "generalcategory" => generalCategory? (normalizeName value)
  | "sc" | "script" => script? (normalizeName value)
  | _ => none

/-! ## Classes used elsewhere -/

/-- Decimal digits of any script. -/
def decimalDigit : CodeSet :=
  categorySet "nd"

/-- Letters, and numbers of any kind. -/
def alphanumeric : CodeSet :=
  alphabetic.union (categoriesSet ["nd", "nl", "no"])

/-- Characters that show nothing of their own or that have no assigned meaning: controls, format
characters, unassigned and private code points, and separators other than the space. -/
def unprintable : CodeSet :=
  (categoriesSet ["cc", "cf", "cn", "co", "zl", "zp", "zs"]).diff (CodeSet.single 0x20)

end Lexical.Unicode
