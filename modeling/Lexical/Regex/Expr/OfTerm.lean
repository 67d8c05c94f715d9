import Lexical.Regex.CharClass
import Lexical.Regex.Expr.Basic
import Lexical.Regex.Term.Parser

/-!
# From a written regular expression to an expression

`Expr.ofTerm?` resolves the flags of a term.  A switch holds to the end of the group in which it
stands, across the bars between its branches.

`Expr.ofText?` is the whole way from a text to its expression.
-/

namespace Lexical.Regex

/-- The expression of a literal, with its case variants if case is ignored. -/
def Literal.expr? (flags : Flags) (literal : Literal) : Option Expr := do
  let c ← literal.char? flags
  some (.ofSet (flags.fold (.single c.toNat)))

/-- Any character that the dot stands for; where Unicode is off there is none. -/
def Flags.dot? (flags : Flags) : Option Expr :=
  if !flags.unicode then none
  else if flags.dotAll then some (.set (CodeSet.empty.compl))
  else if flags.crlf then some (.set (CodeSet.ofText "A D").compl)
  else some (.set (CodeSet.ofText "A").compl)

def Assertion.look (flags : Flags) : Assertion → Look
  | .startLine => if flags.multiLine then .lineStart flags.crlf else .textStart
  | .endLine => if flags.multiLine then .lineEnd flags.crlf else .textEnd
  | .startText => .textStart
  | .endText => .textEnd
  | .wordBoundary => .word .boundary (!flags.unicode)
  | .notWordBoundary => .word .inner (!flags.unicode)
  | .wordStart => .word .start (!flags.unicode)
  | .wordEnd => .word .finish (!flags.unicode)
  | .wordStartHalf => .word .startHalf (!flags.unicode)
  | .wordEndHalf => .word .finishHalf (!flags.unicode)

namespace Expr

/-- The expressions of a term's branches, and the flags that hold behind it. -/
def branchesOfTerm? (flags : Flags) : Term → Option (List Expr × Flags)
  | .empty => some ([empty], flags)
  | .switch switches => some ([empty], flags.apply switches)
  | .literal char => do some ([← char.expr? flags], flags)
  | .dot => do some ([← flags.dot?], flags)
  | .assertion kind => some ([look (kind.look flags)], flags)
  | .charClass chars => do some ([ofSet (← chars.toSet? flags)], flags)
  | .repetition body min max greedy => do
    let (es, flags) ← branchesOfTerm? flags body
    some ([(alternation es).repeat min max (greedy != flags.swapGreed)], flags)
  | .capture body => do
    let (es, _) ← branchesOfTerm? flags body
    some ([capture (alternation es)], flags)
  | .group switches body => do
    let (es, _) ← branchesOfTerm? (flags.apply switches) body
    some ([alternation es], flags)
  | .seq first rest => do
    let (es, flags) ← branchesOfTerm? flags first
    let (others, flags) ← branchesOfTerm? flags rest
    some ([concat (alternation es) (alternation others)], flags)
  | .alt first rest => do
    let (es, flags) ← branchesOfTerm? flags first
    let (others, flags) ← branchesOfTerm? flags rest
    some (es ++ others, flags)

/-- The expression of a term. -/
def ofTerm? (term : Term) : Option Expr := do
  let (es, _) ← branchesOfTerm? .initial term
  some (alternation es)

/-- The expression of a text. -/
def ofText? (text : List Char) : Option Expr := do
  ofTerm? (← Term.ofText? text)

end Expr

end Lexical.Regex
