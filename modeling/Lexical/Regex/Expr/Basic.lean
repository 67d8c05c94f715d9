import Lexical.Unicode.CodeSet

/-!
# Regular expressions

An `Expr` is a regular expression with everything resolved: sets of characters instead of classes and
flags, conditions on places, and repetitions that say which way they lean.

The functions `Expr.repeat`, `Expr.concat` and `Expr.alternation` build expressions in a simple form:
sequences and alternations lean to the right, literal texts that meet become one, and empty parts go
away.  `minLength?` is the length of the shortest match by the expression's form.  An expression with
a part that can match nothing at all has none.
-/

namespace Lexical.Regex

/-- The places at which a word edge is asked for. -/
inductive WordEdge where
  /-- A word begins or ends here. -/
  | boundary
  /-- No word begins or ends here. -/
  | inner
  | start
  | finish
  /-- No word character stands before. -/
  | startHalf
  /-- No word character stands behind. -/
  | finishHalf
deriving DecidableEq

/-- Conditions on a place in the text. -/
inductive Look where
  | textStart
  | textEnd
  | lineStart (crlf : Bool)
  | lineEnd (crlf : Bool)
  | word (edge : WordEdge) (ascii : Bool)
deriving DecidableEq

/-- A regular expression. -/
inductive Expr where
  | empty
  | lit (text : List Char)
  | set (chars : CodeSet)
  | look (condition : Look)
  | rep (body : Expr) (min : Nat) (max : Option Nat) (greedy : Bool)
  | capture (body : Expr)
  | seq (first rest : Expr)
  | alt (first rest : Expr)
deriving DecidableEq

namespace Expr

/-- The expression that matches nothing. -/
def fail : Expr :=
  set CodeSet.empty

/-- One character of a set. -/
def ofSet (chars : CodeSet) : Expr :=
  match chars.singleton? with
  | some c => lit [c]
  | none => set chars

/-! ## What the form of an expression tells -/

/-- The length of the shortest match; none if some part can match nothing. -/
def minLength? : Expr → Option Nat
  | empty => some 0
  | lit text => some text.length
  | set chars => if chars.isEmpty then none else some 1
  | look _ => some 0
  | rep body min _ _ => body.minLength?.map (· * min)
  | capture body => body.minLength?
  | seq first rest => do some ((← first.minLength?) + (← rest.minLength?))
  | alt first rest => do some (min (← first.minLength?) (← rest.minLength?))

/-- Whether every match is empty. -/
def isZeroWidth : Expr → Bool
  | empty => true
  | lit text => text.isEmpty
  | set _ => false
  | look _ => true
  | rep body _ max _ => max.isSome && body.isZeroWidth
  | capture body => body.isZeroWidth
  | seq first rest => first.isZeroWidth && rest.isZeroWidth
  | alt first rest => first.isZeroWidth && rest.isZeroWidth

def hasCapture : Expr → Bool
  | rep body _ _ _ => body.hasCapture
  | capture _ => true
  | seq first rest => first.hasCapture || rest.hasCapture
  | alt first rest => first.hasCapture || rest.hasCapture
  | _ => false

/-- Whether every match starts at the start of the text. -/
def isAnchored : Expr → Bool
  | look .textStart => true
  | rep body min _ _ => 0 < min && body.isAnchored
  | capture body => body.isAnchored
  | seq first _ => first.isAnchored
  | alt first rest => first.isAnchored && rest.isAnchored
  | _ => false

/-- The number of constructors. -/
def size : Expr → Nat
  | rep body _ _ _ => body.size + 1
  | capture body => body.size + 1
  | seq first rest => first.size + rest.size + 1
  | alt first rest => first.size + rest.size + 1
  | _ => 1

/-! ## Building expressions -/

/-- Repeat `body` at least `min` and at most `max` times.  A body without width is taken at most
once. -/
def «repeat» (body : Expr) (min : Nat) (max : Option Nat) (greedy : Bool) : Expr :=
  let (min, max) :=
    if body.isZeroWidth then (Nat.min min 1, some (Nat.min (max.getD 1) 1)) else (min, max)
  if max = some 0 then empty
  else if min = 1 && max = some 1 then body
  else rep body min max greedy

/-- The parts of a sequence, in order. -/
def parts : Expr → List Expr
  | empty => []
  | seq first rest => first :: rest.parts
  | e => [e]

/-- The sequence of the given parts. -/
def ofParts : List Expr → Expr
  | [] => empty
  | [e] => e
  | e :: rest => seq e (ofParts rest)

/-- Put two rows of parts together; two literal texts that meet become one. -/
def joinParts : List Expr → List Expr → List Expr
  | [], others => others
  | [lit a], lit b :: others => lit (a ++ b) :: others
  | part :: rest, others => part :: joinParts rest others

def concat (a b : Expr) : Expr :=
  ofParts (joinParts a.parts b.parts)

/-- The sequence of expressions in order. -/
def concatAll (es : List Expr) : Expr :=
  es.foldr concat empty

/-- The branches of an alternation, in order. -/
def branches : Expr → List Expr
  | alt first rest => first.branches ++ rest.branches
  | e => [e]

/-- The alternation of the given branches. -/
def ofBranches : List Expr → Expr
  | [] => fail
  | [e] => e
  | e :: rest => alt e (ofBranches rest)

/-- The characters that an expression matches, if it matches single characters only. -/
def chars? : Expr → Option CodeSet
  | lit [c] => some (CodeSet.single c.toNat)
  | set chars => some chars
  | _ => none

/-- The longest row of parts with which both rows begin. -/
def commonParts : List Expr → List Expr → List Expr
  | a :: as, b :: bs => if a = b then a :: commonParts as bs else []
  | _, _ => []

/-- The parts with which all branches begin.  Only sequences have parts to share. -/
def sharedParts : List Expr → List Expr
  | [] => []
  | first :: rest =>
    if (first :: rest).all isSeq then rest.foldl (fun shared e => commonParts shared e.parts) first.parts
    else []
where
  isSeq : Expr → Bool
    | seq _ _ => true
    | _ => false

/-- The alternation of branches.  Branches of single characters become one set, and parts with which
all branches begin are taken out in front of them; `fuel` bounds how often. -/
def alternationWith : Nat → List Expr → Expr
  | 0, es => ofBranches es
  | fuel + 1, es =>
    match es.flatMap branches with
    | [] => fail
    | [e] => e
    | es =>
      match es.mapM chars? with
      | some sets => ofSet (CodeSet.unions sets)
      | none =>
        match sharedParts es with
        | [] => ofBranches es
        | shared =>
          let rests := es.map fun e => ofParts (e.parts.drop shared.length)
          concat (ofParts shared) (alternationWith fuel rests)

/-- The size of expressions together. -/
def sizes : List Expr → Nat
  | [] => 0
  | e :: rest => e.size + sizes rest

/-- The alternation of expressions in order. -/
def alternation (es : List Expr) : Expr :=
  alternationWith (sizes es + 1) es

end Expr

end Lexical.Regex
