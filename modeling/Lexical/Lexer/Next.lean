import Lexical.Lexer.Basic

/-!
# Reading tokens

`Lexer.take` takes one match, and `Lexer.next` takes matches up to the first that gives a token.  All
matches on the way are part of the answer (`Lexer.Run`), so that the matched texts can be put side by
side with the text that was read.

A match of a pattern that can take nothing may leave the lexer where it was.  The number of matches
that one call can take without going round in circles is bounded (`Lexer.patience`); a lexer that
needs more has stalled.
-/

namespace Lexical

/-- A match that a lexer has taken. -/
structure Match (lexicon : Lexicon) where
  /-- The state in which it was found. -/
  state : lexicon.StateId
  entry : Entry lexicon.names.length Regex.Expr
  text : List Char
  start : Position
  /-- The number of line breaks that count. -/
  lineBreaks : Nat
  /-- The stack of states behind it. -/
  after : StateStack lexicon.StateId

namespace Match

variable {lexicon : Lexicon}

/-- The kind of keyword that the match is. -/
def keyword? (m : Match lexicon) : Option String :=
  if m.entry.hasKeywords then
    lexicon.keywords.resolve m.state.val m.entry.kind (String.ofList m.text)
  else none

/-- The token that the match gives. -/
def token (m : Match lexicon) : Token :=
  let text := String.ofList m.text
  let (kind, categories) :=
    match m.keyword? with
    | some keyword => (keyword, lexicon.closure keyword)
    | none => (m.entry.kind, m.entry.categories)
  { kind
    value :=
      match m.entry.transform with
      | some transform => transform text
      | none => text
    text
    offset := m.start.offset
    lineBreaks := m.lineBreaks
    line := m.start.line
    column := m.start.column
    categories
    isError := m.entry.isError }

/-- Whether the match holds line breaks that do not count. -/
def hasDrift (m : Match lexicon) : Bool :=
  m.lineBreaks = 0 && 0 < Text.lineBreaks m.text

/-- What taking the match reports. -/
def events (m : Match lexicon) : List Event :=
  (if m.hasDrift then [.lineBreakDrift m.entry.kind m.start.offset] else [])
    ++ (m.entry.transition.map (Lexer.transitionEvent m.after)).toList
    ++ (if m.entry.isIgnored then [] else [.token m.token.kind m.start])

end Match

namespace Lexer

variable {lexicon : Lexicon}

/-- The table of the current state. -/
def table (lexer : Lexer lexicon) : StateTable lexicon.names.length :=
  lexicon.table lexer.stack.top

/-- The number of line breaks in a match that count.  Where breaks must be declared, undeclared ones
are an error; else they do not count. -/
def countLineBreaks (lexer : Lexer lexicon) (entry : Entry lexicon.names.length Regex.Expr)
    (text : List Char) : Except LexerError Nat :=
  let count := Text.lineBreaks text
  if count = 0 || entry.lineBreaks then .ok (min count Position.maxCount)
  else if lexicon.options.strictLineBreaks then
    .error (.undeclaredLineBreak lexer.position entry.kind)
  else .ok 0

/-- Move behind the first `length` characters, of whose line breaks `lineBreaks` count. -/
def advance (lexer : Lexer lexicon) (length lineBreaks : Nat) : Lexer lexicon :=
  let text := lexer.ahead.take length
  { lexer with
    behind := lexer.behind ++ text
    ahead := lexer.ahead.drop length
    line := if 0 < lineBreaks then Position.addCount lexer.line lineBreaks else lexer.line
    column :=
      if 0 < lineBreaks then Position.addCount (Text.lastLine text).length 1
      else Position.addCount lexer.column text.length }

/-- Whether a transition goes back too far. -/
def underflows? (lexer : Lexer lexicon) (entry : Entry lexicon.names.length Regex.Expr) :
    Option LexerError :=
  match entry.transition with
  | some (.pop count) =>
    if lexer.depth ≤ count then some (.stateUnderflow lexer.position count lexer.depth) else none
  | _ => none

/-- At the end of the text there is nothing to take.  It must not come in a pushed state, unless more
text may follow. -/
def endOfInput (lexer : Lexer lexicon) : Except LexerError Unit :=
  if lexer.depth ≤ 1 || lexicon.options.partialInput then .ok ()
  else .error (.noMatch lexer.position lexer.currentState none)

/-- Take the match of an entry with the given length. -/
def takeMatch (lexer : Lexer lexicon) (entry : Entry lexicon.names.length Regex.Expr)
    (length : Nat) : Except LexerError (Match lexicon × Lexer lexicon) :=
  match lexer.underflows? entry with
  | some error => .error error
  | none => do
    let text := lexer.ahead.take length
    let lineBreaks ← lexer.countLineBreaks entry text
    let stack :=
      match entry.transition with
      | some transition => lexer.stack.apply transition
      | none => lexer.stack
    return (⟨lexer.stack.top, entry, text, lexer.position, lineBreaks, stack⟩,
      { lexer.advance length lineBreaks with stack })

/-- Take one match, if there is text left. -/
def take (lexer : Lexer lexicon) : Except LexerError (Option (Match lexicon × Lexer lexicon)) :=
  if lexer.ahead.isEmpty then lexer.endOfInput.map fun _ => none
  else
    match lexer.table.choose lexer.ahead with
    | none => .error (.noMatch lexer.position lexer.currentState lexer.ahead.head?)
    | some (entry, length) => (lexer.takeMatch entry length).map some

/-- The outcome of reading a token. -/
structure Run (lexicon : Lexicon) where
  /-- The matches that were taken, in order. -/
  taken : List (Match lexicon)
  result : Except LexerError (Option Token)
  lexer : Lexer lexicon

/-- Read a token with at most `fuel` matches. -/
def nextWithin : Nat → Lexer lexicon → Run lexicon
  | 0, lexer => ⟨[], .error (.stalled lexer.position), lexer⟩
  | fuel + 1, lexer =>
    match lexer.take with
    | .error error => ⟨[], .error error, lexer⟩
    | .ok none => ⟨[], .ok none, lexer⟩
    | .ok (some (m, rest)) =>
      if m.entry.isIgnored then
        let run := nextWithin fuel rest
        { run with taken := m :: run.taken }
      else ⟨[m], .ok (some m.token), rest⟩

/-- More matches than a lexer can take in a row without coming back to where it was.  While it takes
no text, every state on the stack can be replaced by each other state once, and can have as many
states pushed on it, before it is left for good. -/
def patience (lexer : Lexer lexicon) : Nat :=
  let states := lexicon.names.length + 1
  (lexer.ahead.length + 1) * (lexer.depth + states * lexer.ahead.length + 1) * (states * states) + 1

/-- Read the next token. -/
def next (lexer : Lexer lexicon) : Run lexicon :=
  lexer.nextWithin lexer.patience

end Lexer

end Lexical
