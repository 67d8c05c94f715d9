import Lexical.Regex.Expr.OfTerm

/-!
# Engines for regular expressions

What compiling rules asks of an engine: what the sources of patterns are read as, and which of them it
compiles.  The two need not go together, since what a source is compiled to is limited in size:
`\w` is well-formed a thousand times over, but may be refused.  Sets of sources that are matched
together have a limit of their own.

Which limits there are and which names of Unicode properties are known differs from engine to engine.
Rules are compiled for any of them; where none is named, it is `Engine.unlimited`, which compiles all
that `Expr.ofText?` can read.
-/

namespace Lexical.Regex

/-- What compiling rules asks of an engine for regular expressions. -/
class Engine where
  /-- The expression that a source is read as, if it is well-formed. -/
  read? : List Char → Option Expr
  /-- The expression that a source is compiled to, if it is well-formed and not too large. -/
  compile? : List Char → Option Expr
  /-- Whether sources are well-formed and not too large to be compiled to one set. -/
  compilesSet : List (List Char) → Bool

/-- The engine that compiles all that it can read. -/
instance Engine.unlimited : Engine where
  read? := Expr.ofText?
  compile? := Expr.ofText?
  compilesSet sources := sources.all fun source => (Expr.ofText? source).isSome

end Lexical.Regex
