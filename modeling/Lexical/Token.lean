import Lexical.Category

/-!
# Tokens

A token is a piece of the text with a kind, a value and a place.  Layers above a lexer also make
tokens without text (`Token.synthetic`), for structure that the text only implies.
-/

namespace Lexical

/-- A piece of the text. -/
structure Token where
  kind : String
  /-- What the token stands for. -/
  value : String
  /-- The text that it was read from. -/
  text : String
  offset : Nat
  /-- The number of line breaks in the text that count. -/
  lineBreaks : Nat
  line : Nat
  column : Nat
  /-- The categories of the kind, with their ancestors. -/
  categories : CategorySet
  /-- Whether the token stands for an error. -/
  isError : Bool
deriving DecidableEq

namespace Token

/-- A token without text. -/
def synthetic (kind : String) (position : Position) : Token where
  kind
  value := ""
  text := ""
  offset := position.offset
  lineBreaks := 0
  line := position.line
  column := position.column
  categories := .empty
  isError := false

def position (token : Token) : Position :=
  ⟨token.offset, token.line, token.column⟩

/-- The number of bytes of the text. -/
def byteLength (token : Token) : Nat :=
  token.text.utf8ByteSize

/-- The offset behind the last byte. -/
def endOffset (token : Token) : Nat :=
  Position.moveOffset token.offset token.byteLength

end Token

/-! ## Comparing tokens with what is expected -/

/-- What a token can be asked to be. -/
inductive Target where
  | kind (name : String)
  | category (id : CategoryId)
deriving DecidableEq

/-- Whether a token is of a kind, or of a category or a descendant of it. -/
def Target.admits (target : Target) (token : Token) : Bool :=
  match target with
  | kind name => token.kind = name
  | category id => token.categories.contains id

/-- Whether tokens are what is expected, one by one and without one to spare. -/
def Target.admitAll (targets : List Target) (tokens : List Token) : Bool :=
  targets.length = tokens.length && (targets.zip tokens).all fun (target, token) => target.admits token

end Lexical
