/-!
# Transforms

Functions that make the value of a token from its text.
-/

namespace Lexical.Transform

/-- Upper case for the letters of ASCII. -/
def upper (text : String) : String :=
  text.map Char.toUpper

/-- Without the given character at the start. -/
def trimStart (c : Char) (text : List Char) : List Char :=
  text.dropWhile (· = c)

/-- Without double quotes at both ends. -/
def unquote (text : String) : String :=
  String.ofList (trimStart '"' (trimStart '"' text.toList).reverse).reverse

/-- Without leading zeros. -/
def unzero (text : String) : String :=
  String.ofList (trimStart '0' text.toList)

/-- The characters in reverse. -/
def reverse (text : String) : String :=
  String.ofList text.toList.reverse

/-- Nothing, whatever the text. -/
def empty (_ : String) : String :=
  ""

/-- The text twice. -/
def double (text : String) : String :=
  text ++ text

end Lexical.Transform
