import Lexical.Unicode.Property

/-!
# Quoted text

Characters and texts as they stand in messages: between quotes, with the quote itself, the backslash
and everything that would not show as itself escaped.  A mark that would attach itself to the quote,
and any character that prints nothing, is written by its number.
-/

namespace Lexical.Text

/-- Whether a character is written by its number. -/
def isHidden (c : Char) : Bool :=
  !(0x20 ≤ c.toNat && c.toNat < 0x7F)
    && (Unicode.graphemeExtend.containsChar c || Unicode.unprintable.containsChar c)

/-- The escaped form of a character between quotes of the kind `quote`. -/
def escape (quote c : Char) : List Char :=
  match c with
  | '\x00' => ['\\', '0']
  | '\t' => ['\\', 't']
  | '\r' => ['\\', 'r']
  | '\n' => ['\\', 'n']
  | '\\' => ['\\', '\\']
  | c =>
    if c = quote then ['\\', c]
    else if isHidden c then ['\\', 'u', '{'] ++ Nat.toDigits 16 c.toNat ++ ['}']
    else [c]

/-- A character between single quotes. -/
def quoteChar (c : Char) : String :=
  String.ofList ('\'' :: escape '\'' c ++ ['\''])

/-- A text between double quotes. -/
def quoteString (text : String) : String :=
  String.ofList ('"' :: text.toList.flatMap (escape '"') ++ ['"'])

end Lexical.Text
