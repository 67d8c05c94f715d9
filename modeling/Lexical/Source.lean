import Lexical.Lexer.Next

/-!
# Token sources

A `TokenSource` gives tokens one after the other and can be saved and resumed.  A lexer is one; layers
that make tokens of the tokens of another source are sources again, so layers can be put on each
other.

`TokenSource.budget` bounds the number of tokens that a source can still give before it ends, fails
or stalls.  What loops over the tokens of a source ends by it.
-/

namespace Lexical

/-- What became of an attempt to get an `α` from a `σ`: the result, the `σ` that is left in any case,
and what was reported. -/
structure Outcome (σ α : Type) where
  result : Except LexerError α
  state : σ
  events : List Event

namespace Outcome

variable {σ τ α : Type}

/-- The outcome with earlier events in front. -/
def after (events : List Event) (outcome : Outcome σ α) : Outcome σ α :=
  { outcome with events := events ++ outcome.events }

/-- The outcome with what is left put into something else. -/
def mapState (f : σ → τ) (outcome : Outcome σ α) : Outcome τ α :=
  ⟨outcome.result, f outcome.state, outcome.events⟩

@[simp] theorem result_after (events : List Event) (outcome : Outcome σ α) :
    (outcome.after events).result = outcome.result := rfl

@[simp] theorem state_after (events : List Event) (outcome : Outcome σ α) :
    (outcome.after events).state = outcome.state := rfl

@[simp] theorem result_mapState (f : σ → τ) (outcome : Outcome σ α) :
    (outcome.mapState f).result = outcome.result := rfl

@[simp] theorem state_mapState (f : σ → τ) (outcome : Outcome σ α) :
    (outcome.mapState f).state = f outcome.state := rfl

end Outcome

/-- What gives tokens one after the other. -/
class TokenSource (σ : Type) where
  /-- What is kept of a source in order to resume it. -/
  State : Type
  /-- The next token; none at the end. -/
  next : σ → Outcome σ (Option Token)
  /-- Go on with a new text, from the start or from where a state was saved. -/
  reset : σ → List Char → Option State → σ
  /-- What a reset reports. -/
  resetEvents : σ → Option State → List Event
  save : σ → State
  /-- Whether the source can give tokens of a kind. -/
  has : σ → String → Bool
  /-- A message at a token, or at the current position. -/
  formatError? : σ → Option Token → String → Option String
  /-- Where the next token is read from. -/
  position : σ → Position
  /-- A bound on the number of tokens left. -/
  budget : σ → Nat

instance (lexicon : Lexicon) : TokenSource (Lexer lexicon) where
  State := LexerState
  next lexer :=
    let run := lexer.next
    ⟨run.result, run.lexer, run.taken.flatMap Match.events⟩
  reset := Lexer.reset
  resetEvents := Lexer.resetEvents
  save := Lexer.save
  has _ kind := lexicon.has kind
  formatError? := Lexer.formatError?
  position := Lexer.position
  budget := Lexer.patience

/-- Tokens read one after the other. -/
structure Collected (σ : Type) where
  tokens : List Token
  /-- The failure that ended the reading. -/
  error : Option LexerError
  /-- Whether the end or a failure was reached. -/
  ended : Bool
  source : σ
  events : List Event

/-- The tokens of a source up to its end or its first failure, but not more than `limit`. -/
def TokenSource.collect {σ : Type} [TokenSource σ] : Nat → σ → Collected σ
  | 0, source => ⟨[], none, false, source, []⟩
  | limit + 1, source =>
    let outcome := TokenSource.next source
    match outcome.result with
    | .error error => ⟨[], some error, true, outcome.state, outcome.events⟩
    | .ok none => ⟨[], none, true, outcome.state, outcome.events⟩
    | .ok (some token) =>
      let rest := collect limit outcome.state
      { rest with tokens := token :: rest.tokens, events := outcome.events ++ rest.events }

end Lexical
