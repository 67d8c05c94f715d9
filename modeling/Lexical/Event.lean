import Lexical.Rule

/-!
# Events

What building a lexer and reading tokens report beside their results.  An event has a severity, and
a line that says what happened and names the values that matter.
-/

namespace Lexical

/-- How much an event matters, from the most severe to the least. -/
inductive Severity where
  | warn
  | debug
  | trace
deriving DecidableEq

namespace Severity

def name : Severity → String
  | warn => "WARN"
  | debug => "DEBUG"
  | trace => "TRACE"

/-- Zero for the most severe. -/
def rank : Severity → Nat
  | warn => 0
  | debug => 1
  | trace => 2

end Severity

/-- Something that happened. -/
inductive Event where
  | compiled (states rules kinds : Nat)
  | droppedState (name : String)
  /-- A match holds a line break that does not count. -/
  | lineBreakDrift (kind : String) (offset : Nat)
  | transition (state : String) (depth : Nat) (change : Transition Nat)
  | token (kind : String) (position : Position)
  | indent (width outer : Nat)
  | dedent (width closed : Nat)
deriving DecidableEq

namespace Event

def severity : Event → Severity
  | compiled _ _ _ => .debug
  | droppedState _ => .warn
  | lineBreakDrift _ _ => .warn
  | transition _ _ _ => .debug
  | token _ _ => .trace
  | indent _ _ => .trace
  | dedent _ _ => .trace

/-- What happened, and the values that matter by their names. -/
def content : Event → String × List (String × String)
  | compiled states rules kinds =>
    ("compiled lexer",
      [("states", toString states), ("rules", toString rules), ("types", toString kinds)])
  | droppedState name => ("dropping unknown state from restored stack", [("state", name)])
  | lineBreakDrift kind offset =>
    ("rule matched a line break without declaring line_breaks; line numbers will drift",
      [("kind", kind), ("offset", toString offset)])
  | transition state depth change =>
    ("state transition",
      [("state", state), ("depth", toString depth),
        ("transition",
          change.describe fun state => Text.apply "StateId" [toString state])])
  | token kind position =>
    ("token",
      [("kind", kind), ("offset", toString position.offset), ("line", toString position.line),
        ("col", toString position.column)])
  | indent width outer => ("indent", [("width", toString width), ("outer", toString outer)])
  | dedent width closed => ("dedent", [("width", toString width), ("closed", toString closed)])

/-- The event on one line. -/
def line (event : Event) : String :=
  let (what, values) := event.content
  " ".intercalate
    (event.severity.name :: what :: values.map fun (name, value) => name ++ "=" ++ value)

end Event

end Lexical
