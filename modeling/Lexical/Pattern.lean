import Lexical.CharSet
import Lexical.Regex.Term.Escape
import Lexical.Text.Measure
import Lexical.Text.Record

/-!
# Patterns

A pattern says what a rule matches.  Every pattern has a regular expression (`Pattern.source`), and
what it means is what that expression matches.  Literal texts are escaped in it.
-/

namespace Lexical

/-- What a rule matches. -/
inductive Pattern where
  | literal (text : String)
  /-- One of several texts, the longest that fits. -/
  | literals (texts : List String)
  | charClass (set : CharSet)
  | repetition (body : Pattern) (min : Nat) (max : Option Nat)
  | regex (source : String)
  /-- Any one character, line breaks included. -/
  | any
deriving DecidableEq

namespace Pattern

def oneOrMore (body : Pattern) : Pattern :=
  repetition body 1 none

/-- A text as a regular expression that matches just it. -/
def escape (text : String) : List Char :=
  text.toList.flatMap fun c => if Regex.isMeta c then ['\\', c] else [c]

/-- A non-capturing group. -/
def writeGroup (body : List Char) : List Char :=
  ['(', '?', ':'] ++ body ++ [')']

/-- Regular expressions as the branches of one. -/
def writeBranches (branches : List (List Char)) : List Char :=
  ['|'].intercalate branches

/-- Put a text into its place among texts in descending order of length, behind those of its own
length. -/
def insertByLength (text : String) : List String → List String
  | [] => [text]
  | next :: rest =>
    if next.utf8ByteSize < text.utf8ByteSize then text :: next :: rest
    else next :: insertByLength text rest

/-- Texts in descending order of their length in bytes; texts of one length keep their order. -/
def longestFirst (texts : List String) : List String :=
  texts.foldl (fun sorted text => insertByLength text sorted) []

/-- The operator that repeats between `min` and `max` times. -/
def writeCount (min : Nat) (max : Option Nat) : List Char :=
  let digits (n : Nat) := Nat.toDigits 10 n
  match max with
  | some max =>
    if max = min then '{' :: digits min ++ ['}']
    else '{' :: digits min ++ ',' :: digits max ++ ['}']
  | none =>
    match min with
    | 0 => ['*']
    | 1 => ['+']
    | min => '{' :: digits min ++ [',', '}']

/-- The pattern as a regular expression. -/
def write : Pattern → List Char
  | literal text => writeGroup (escape text)
  | literals texts => writeGroup (writeBranches ((longestFirst texts).map escape))
  | charClass set => set.write
  | repetition body min max => writeGroup body.write ++ writeCount min max
  | regex source => writeGroup source.toList
  | any => "(?s:.)".toList

/-- The text of the pattern's regular expression. -/
def source (pattern : Pattern) : String :=
  String.ofList pattern.write

/-- A description of the pattern. -/
def describe : Pattern → String
  | literal text => Text.apply "Literal" [Text.quoteString text]
  | literals texts => Text.apply "Literals" [Text.list (texts.map Text.quoteString)]
  | charClass set =>
    let ranges := set.ranges.map fun (first, last) =>
      "(" ++ Text.quoteChar first ++ ", " ++ Text.quoteChar last ++ ")"
    Text.apply "CharClass" [Text.record "CharSet" [("ranges", Text.list ranges)] false]
  | repetition body min max =>
    Text.record "Repeat"
      [("pattern", body.describe), ("min", toString min), ("max", Text.option (max.map toString))]
      false
  | regex source => Text.apply "Regex" [Text.quoteString source]
  | any => "Any"

end Pattern

end Lexical
