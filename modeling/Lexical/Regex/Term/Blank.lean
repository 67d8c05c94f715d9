import Lexical.Unicode.Property

/-!
# Blanks and comments in a regular expression

Where the flag `x` is on, white space and comments from `#` to the end of the line may stand between
any two parts of a regular expression, even inside an escape.  The functions here read on to the next
character that counts; `blanks` tells whether the flag is on, and `comment` that the text before lies
in a comment.
-/

namespace Lexical.Regex

/-- White space in a regular expression. -/
def isBlank (c : Char) : Bool :=
  Unicode.whiteSpace.containsChar c

/-- The text from its next significant character on. -/
def skipBlanks (blanks : Bool) (text : List Char) : List Char :=
  if blanks then skip false text else text
where
  skip (comment : Bool) : List Char → List Char
    | [] => []
    | c :: rest =>
      if comment then skip (c ≠ '\n') rest
      else if isBlank c then skip false rest
      else if c = '#' then skip true rest
      else c :: rest

/-- The significant characters before the first significant `close`, and the text behind it. -/
def takeUntil (blanks : Bool) (close : Char) (comment : Bool) :
    List Char → Option (List Char × List Char)
  | [] => none
  | c :: rest =>
    if comment then takeUntil blanks close (c ≠ '\n') rest
    else if blanks && isBlank c then takeUntil blanks close false rest
    else if blanks && c = '#' then takeUntil blanks close true rest
    else if c = close then some ([], rest)
    else (takeUntil blanks close false rest).map fun (taken, rest) => (c :: taken, rest)

/-- The significant characters at the start of a text that satisfy `p`, and the text from the first
significant one that does not. -/
def takeWhileSignificant (blanks : Bool) (p : Char → Bool) (comment : Bool) :
    List Char → List Char × List Char
  | [] => ([], [])
  | c :: rest =>
    if comment then takeWhileSignificant blanks p (c ≠ '\n') rest
    else if blanks && isBlank c then takeWhileSignificant blanks p false rest
    else if blanks && c = '#' then takeWhileSignificant blanks p true rest
    else if p c then
      let (taken, rest) := takeWhileSignificant blanks p false rest
      (c :: taken, rest)
    else ([], c :: rest)

/-- The next character after blanks and an opening `#`.  A line break does not end the comment here,
so inside it any character but a blank counts. -/
def peekSignificant (blanks : Bool) (text : List Char) : Option Char :=
  if blanks then (peek false text).or text.head? else text.head?
where
  peek (comment : Bool) : List Char → Option Char
    | [] => none
    | c :: rest =>
      if isBlank c then peek comment rest
      else if !comment && c = '#' then peek true rest
      else some c

end Lexical.Regex
