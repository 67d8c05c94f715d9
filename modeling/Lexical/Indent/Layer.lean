import Lexical.Source

/-!
# Indentation

A `Layer` reads the tokens of a source line by line and makes the indentation of lines into tokens:
where a line is indented further than the one before, an indent token opens a block, and where it is
indented less, a dedent token closes each block that ends.  A line at the width of the block gets a
newline token.  Lines with nothing but white space do not count.

The width of a line is the number of characters in the value of the white space token at its start.
All these tokens stand at the line break before the line.

A line that is indented less has to stand at the width of some block around it; else its indentation
is inconsistent.  At the end of the source all blocks are closed.
-/

namespace Lexical

/-- The kinds of tokens that tell white space and line breaks, and those that tell blocks. -/
structure IndentOptions where
  whitespace : String
  newline : String
  indent : String
  dedent : String
deriving DecidableEq

namespace IndentOptions

def standard : IndentOptions :=
  ⟨"ws", "nl", "indent", "dedent"⟩

/-- The options written out. -/
def describe (options : IndentOptions) : String :=
  Text.record "IndentOptions"
    [("whitespace", Text.quoteString options.whitespace),
      ("newline", Text.quoteString options.newline),
      ("indent", Text.quoteString options.indent),
      ("dedent", Text.quoteString options.dedent)]
    false

end IndentOptions

/-- What is kept of a layer and of the source below it. -/
structure IndentState (α : Type) where
  source : α
  /-- The width of the current block, once a line has been seen. -/
  indent : Option Nat
  /-- The widths of the blocks around it, the outermost first. -/
  stack : List Nat
  queue : List Token
  here : Option Token

/-- A source with a layer that tells blocks by indentation. -/
structure Layer (σ : Type) where
  source : σ
  options : IndentOptions
  /-- The width of the current block, once a line has been seen. -/
  width : Option Nat
  /-- The widths of the blocks around it, the nearest first. -/
  enclosing : List Nat
  /-- Tokens that are ready to be given. -/
  queue : List Token
  /-- A token that has been read ahead. -/
  here : Option Token

namespace Layer

variable {σ : Type}

def initial (source : σ) (options : IndentOptions) : Layer σ where
  source
  options
  width := none
  enclosing := []
  queue := []
  here := none

/-- The number of blocks that have been opened and not closed by a token that was given. -/
def depth (layer : Layer σ) : Nat :=
  layer.enclosing.length + (layer.queue.filter (·.kind = layer.options.dedent)).length

/-- The first token of the queue. -/
def pop (layer : Layer σ) : Option Token × Layer σ :=
  match layer.queue with
  | [] => (none, layer)
  | token :: queue => (some token, { layer with queue })

variable [TokenSource σ]

def position (layer : Layer σ) : Position :=
  match layer.here with
  | some token => token.position
  | none => TokenSource.position layer.source

/-! ## Tokens of the source -/

/-- The next token of the source, which is no longer read ahead. -/
def take (layer : Layer σ) : Outcome (Layer σ) (Option Token) :=
  match layer.here with
  | some token => ⟨.ok (some token), { layer with here := none }, []⟩
  | none =>
    (TokenSource.next layer.source).mapState fun source => { layer with source }

/-- The next token of the source, which is read ahead. -/
def look (layer : Layer σ) : Outcome (Layer σ) (Option Token) :=
  match layer.here with
  | some token => ⟨.ok (some token), layer, []⟩
  | none =>
    let outcome := TokenSource.next layer.source
    let here := match outcome.result with
      | .ok token => token
      | .error _ => none
    outcome.mapState fun source => { layer with source, here }

/-- A bound on the number of tokens that the layer can still take. -/
def sourceBudget (layer : Layer σ) : Nat :=
  TokenSource.budget layer.source + 2

/-! ## The widths of lines -/

/-- The width of the next line that is not blank, whose first token is left to be read.  There is
none at the end of the source. -/
def nextWidthWithin : Nat → Layer σ → Outcome (Layer σ) (Option Nat)
  | 0, layer => ⟨.error (.stalled layer.position), layer, []⟩
  | fuel + 1, layer =>
    match layer.look with
    | ⟨.error error, layer, events⟩ => ⟨.error error, layer, events⟩
    | ⟨.ok none, layer, events⟩ => ⟨.ok none, layer, events⟩
    | ⟨.ok (some token), layer, events⟩ =>
      if token.kind = layer.options.newline then
        (nextWidthWithin fuel { layer with here := none }).after events
      else if token.kind = layer.options.whitespace then
        match ({ layer with here := none } : Layer σ).look with
        | ⟨.error error, layer, more⟩ => ⟨.error error, layer, events ++ more⟩
        | ⟨.ok none, layer, more⟩ => ⟨.ok none, layer, events ++ more⟩
        | ⟨.ok (some next), layer, more⟩ =>
          if next.kind = layer.options.newline then
            (nextWidthWithin fuel { layer with here := none }).after (events ++ more)
          else ⟨.ok (some token.value.length), layer, events ++ more⟩
      else ⟨.ok (some 0), layer, events⟩

def nextWidth (layer : Layer σ) : Outcome (Layer σ) (Option Nat) :=
  nextWidthWithin layer.sourceBudget layer

/-! ## Blocks -/

/-- The width of the innermost block that is not wider than a line, else of the outermost, and the
widths around it. -/
def unwind (width current : Nat) : List Nat → Nat × List Nat
  | [] => (current, [])
  | outer :: enclosing =>
    if width < current then unwind width outer enclosing else (current, outer :: enclosing)

/-- As many dedent tokens. -/
def dedents (layer : Layer σ) (position : Position) (count : Nat) : List Token :=
  List.replicate count (.synthetic layer.options.dedent position)

/-- Close the blocks that end before a line of a smaller width. -/
def dedentTo (layer : Layer σ) (width : Nat) (position : Position) :
    Outcome (Layer σ) (Option Token) :=
  let (current, enclosing) := unwind width (layer.width.getD 0) layer.enclosing
  if width = current then
    let closed := layer.enclosing.length - enclosing.length
    let (token, layer) :=
      pop { layer with
        width := some width
        enclosing
        queue := layer.queue ++ layer.dedents position closed }
    ⟨.ok token, layer, [.dedent width closed]⟩
  else ⟨.error (.inconsistentIndentation layer.position width current), layer, []⟩

/-- Begin a line of the given width behind a line break. -/
def startLine (layer : Layer σ) (width : Nat) (position : Position) :
    Outcome (Layer σ) (Option Token) :=
  let current := layer.width.getD 0
  if width = current then ⟨.ok (some (.synthetic layer.options.newline position)), layer, []⟩
  else if current < width then
    ⟨.ok (some (.synthetic layer.options.indent position)),
      { layer with width := some width, enclosing := current :: layer.enclosing },
      [.indent width current]⟩
  else layer.dedentTo width position

/-- Close all blocks at the end of the source. -/
def finish (layer : Layer σ) : Outcome (Layer σ) (Option Token) :=
  let queue := layer.queue ++ layer.dedents (TokenSource.position layer.source) layer.enclosing.length
  let (token, layer) := pop { layer with queue, enclosing := [] }
  ⟨.ok token, layer, []⟩

/-! ## Reading tokens -/

/-- Read on in a line, or begin the next one. -/
def continueWithin : Nat → Layer σ → Outcome (Layer σ) (Option Token)
  | 0, layer => ⟨.error (.stalled layer.position), layer, []⟩
  | fuel + 1, layer =>
    match layer.take with
    | ⟨.error error, layer, events⟩ => ⟨.error error, layer, events⟩
    | ⟨.ok none, layer, events⟩ => layer.finish.after events
    | ⟨.ok (some token), layer, events⟩ =>
      if token.kind = layer.options.newline then
        match layer.nextWidth with
        | ⟨.error error, layer, more⟩ => ⟨.error error, layer, events ++ more⟩
        | ⟨.ok none, layer, more⟩ => layer.finish.after (events ++ more)
        | ⟨.ok (some width), layer, more⟩ =>
          (layer.startLine width token.position).after (events ++ more)
      else if token.kind = layer.options.whitespace then (continueWithin fuel layer).after events
      else ⟨.ok (some token), layer, events⟩

/-- Measure the first line, if no line has been seen. -/
def settle (layer : Layer σ) : Outcome (Layer σ) Unit :=
  if layer.width.isSome then ⟨.ok (), layer, []⟩
  else
    match layer.nextWidth with
    | ⟨.error error, layer, events⟩ => ⟨.error error, layer, events⟩
    | ⟨.ok width, layer, events⟩ => ⟨.ok (), { layer with width }, events⟩

/-- The next token. -/
def next (layer : Layer σ) : Outcome (Layer σ) (Option Token) :=
  match layer.settle with
  | ⟨.error error, layer, events⟩ => ⟨.error error, layer, events⟩
  | ⟨.ok (), layer, events⟩ =>
    match layer.pop with
    | (some token, layer) => ⟨.ok (some token), layer, events⟩
    | (none, layer) => (continueWithin layer.sourceBudget layer).after events

/-! ## Saving and resuming -/

def save (layer : Layer σ) : IndentState (TokenSource.State σ) where
  source := TokenSource.save layer.source
  indent := layer.width
  stack := layer.enclosing.reverse
  queue := layer.queue
  here := layer.here

def reset (layer : Layer σ) (text : List Char)
    (state : Option (IndentState (TokenSource.State σ))) : Layer σ :=
  match state with
  | none => initial (TokenSource.reset layer.source text none) layer.options
  | some state => {
      source := TokenSource.reset layer.source text (some state.source)
      options := layer.options
      width := state.indent
      enclosing := state.stack.reverse
      queue := state.queue
      here := state.here }

end Layer

instance (σ : Type) [TokenSource σ] : TokenSource (Layer σ) where
  State := IndentState (TokenSource.State σ)
  next := Layer.next
  reset := Layer.reset
  resetEvents layer state :=
    TokenSource.resetEvents layer.source (state.map IndentState.source)
  save := Layer.save
  has layer := TokenSource.has layer.source
  formatError? layer := TokenSource.formatError? layer.source
  position := Layer.position
  budget layer :=
    2 * (TokenSource.budget layer.source + layer.queue.length + layer.enclosing.length + 2)

end Lexical
