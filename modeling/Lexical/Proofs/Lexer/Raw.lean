import Lexical.Proofs.Lexer.Command
import Lexical.Proofs.Lexicon.Places
import Lexical.Proofs.Text.Lines

/-!
# Lexers of plain data

The type of a lexer promises that its stack is not empty, that the states on it are there, and that
its index splits the text between two characters.  A `RawLexer` promises nothing: it keeps the whole
text with an index in bytes, and a list of numbers for the stack.  Whatever it looks up may be missing
then, a character to go on from, a state, the expression of a pattern, a rule, and there is no way
out: a call that misses something has no result at all (`RawLexer.take?`, `RawLexer.perform?`,
`RawLexer.act?`).  That none ever does is shown in `Lexical.Proofs.Lexer.Safety`.

Apart from that, the calls do what those of a lexer do.
-/

namespace Lexical

/-! ## Looking into a text -/

namespace Text

/-- What is left of a text behind a number of bytes, if a character ends there. -/
def dropBytes? : Nat → List Char → Option (List Char)
  | 0, text => some text
  | _ + 1, [] => none
  | bytes + 1, c :: rest =>
    if c.utf8Size ≤ bytes + 1 then dropBytes? (bytes + 1 - c.utf8Size) rest else none

/-- **What was split off in front is found again.** -/
lemma dropBytes?_byteLength (behind ahead : List Char) :
    dropBytes? (byteLength behind) (behind ++ ahead) = some ahead := by
  induction behind with
  | nil => rw [byteLength_nil, List.nil_append, dropBytes?]
  | cons c behind ih =>
    obtain ⟨bytes, hbytes⟩ : ∃ bytes, byteLength (c :: behind) = bytes + 1 :=
      Nat.exists_eq_add_one.2 (Nat.add_pos_left c.utf8Size_pos _)
    rw [hbytes, List.cons_append, dropBytes?, ← hbytes, byteLength_cons,
      if_pos (Nat.le_add_right _ _), Nat.add_sub_cancel_left, ih]

/-- The start of a text, if the text is that long. -/
def takeAll? (length : Nat) (text : List Char) : Option (List Char) :=
  if length ≤ text.length then some (text.take length) else none

/-- The number of bytes in front of the last line break. -/
def lastBreak? : List Char → Option Nat
  | [] => none
  | c :: rest =>
    match lastBreak? rest with
    | some last => some (c.utf8Size + last)
    | none => if c = '\n' then some 0 else none

lemma lastBreak?_eq_none {text : List Char} (h : lastBreak? text = none) : lineBreaks text = 0 := by
  induction text with
  | nil => rfl
  | cons c text ih =>
    unfold lastBreak? at h
    split at h
    · cases h
    · rename_i hnone
      split_ifs at h with hc
      rw [lineBreaks, List.count_cons_of_ne (by simpa using hc)]
      exact ih hnone

/-- A text with a line break is cut behind the last of them. -/
lemma exists_split_of_lastBreak? {text : List Char} {last : Nat} (h : lastBreak? text = some last) :
    ∃ before tail, text = before ++ '\n' :: tail ∧ '\n' ∉ tail ∧ byteLength before = last := by
  induction text generalizing last with
  | nil => cases h
  | cons c text ih =>
    unfold lastBreak? at h
    split at h
    · rename_i last' hlast'
      obtain rfl := Option.some.inj h
      obtain ⟨before, tail, rfl, htail, rfl⟩ := ih hlast'
      exact ⟨c :: before, tail, rfl, htail, rfl⟩
    · rename_i hnone
      -- Behind this line break there is no other, so it is the last one, with nothing before it.
      split_ifs at h with hc
      obtain rfl := Option.some.inj h
      have hcount : text.count '\n' = 0 := lastBreak?_eq_none hnone
      exact ⟨[], text, by rw [hc, List.nil_append], List.count_eq_zero.1 hcount, rfl⟩

/-- What stands behind the last line break is found. -/
lemma dropBytes?_lastBreak? {text : List Char} {last : Nat} (h : lastBreak? text = some last) :
    dropBytes? (last + 1) text = some (lastLine text) := by
  obtain ⟨before, tail, rfl, htail, rfl⟩ := exists_split_of_lastBreak? h
  -- A line break takes one byte, which is why the search goes on one byte behind it.
  have hlength : byteLength before + 1 = byteLength (before ++ ['\n']) := by
    rw [byteLength_append]
    rfl
  have hsplit : before ++ '\n' :: tail = (before ++ ['\n']) ++ tail := by
    rw [List.append_assoc, List.singleton_append]
  rw [lastLine_append_cons htail, hlength, hsplit]
  exact dropBytes?_byteLength _ _

end Text

/-! ## Stacks as lists -/

namespace StateStack

variable {σ : Type}

lemma toList_ne_nil (stack : StateStack σ) : stack.toList ≠ [] := by
  simp [toList]

lemma getLast?_toList (stack : StateStack σ) : stack.toList.getLast? = some stack.top := by
  simp [toList]

lemma eq_nil_of_ofList? {states : List σ} (h : ofList? states = none) : states = [] := by
  unfold ofList? at h
  split at h
  · rename_i hreverse
    exact List.reverse_eq_nil_iff.1 hreverse
  · cases h

lemma toList_of_ofList? {states : List σ} {stack : StateStack σ} (h : ofList? states = some stack) :
    stack.toList = states := by
  unfold ofList? at h
  split at h
  · cases h
  · rename_i top below hreverse
    obtain rfl := Option.some.inj h
    rw [toList, ← hreverse, List.reverse_reverse]

lemma toList_push (stack : StateStack σ) (state : σ) :
    (stack.push state).toList = stack.toList ++ [state] := by
  simp [toList, push]

lemma toList_next (stack : StateStack σ) (state : σ) :
    (stack.next state).toList = stack.toList.dropLast ++ [state] := by
  simp [toList, next]

lemma toList_popFrom {below : List σ} {count : Nat} (top : σ) (h : count ≤ below.length) :
    (popFrom top below count).toList = ((top :: below).drop count).reverse := by
  induction count generalizing top below with
  | zero =>
    rw [popFrom]
    rfl
  | succ count ih =>
    cases below with
    | nil => cases h
    | cons next below =>
      rw [popFrom, ih next (Nat.le_of_succ_le_succ h)]
      rfl

/-- Going back leaves the outermost states. -/
lemma toList_pop {stack : StateStack σ} {count : Nat} (h : count < stack.depth) :
    (stack.pop count).toList = stack.toList.take (stack.depth - count) := by
  have hkept : (stack.top :: stack.below).length - (stack.depth - count) = count := by
    rw [List.length_cons]
    exact Nat.sub_sub_self (Nat.le_of_lt h)
  rw [pop, toList_popFrom stack.top (Nat.le_of_lt_succ h), toList, List.take_reverse, hkept]

end StateStack

/-! ## States by their numbers -/

namespace Lexicon

variable {lexicon : Lexicon}

/-- The number that stands for a state.  It is 32 bits wide and stops counting at the greatest. -/
def number (state : lexicon.StateId) : Nat :=
  min state.val Position.maxCount

/-- The state with a number, if there is one. -/
def stateAt? (lexicon : Lexicon) (number : Nat) : Option lexicon.StateId :=
  if h : number < lexicon.names.length then some ⟨number, h⟩ else none

/-- Where 32 bits are enough, the number of a state leads back to it. -/
lemma stateAt?_number (hfew : lexicon.names.length < UInt32.size) (state : lexicon.StateId) :
    lexicon.stateAt? (number state) = some state := by
  have hnumber : number state = state.val := by
    have hlt := state.isLt
    have hmax : Position.maxCount = UInt32.size - 1 := rfl
    unfold number
    omega
  rw [stateAt?, hnumber, dif_pos state.isLt]

lemma mapM_stateAt?_number (hfew : lexicon.names.length < UInt32.size) (states : List lexicon.StateId) :
    (states.map number).mapM lexicon.stateAt? = some states := by
  induction states with
  | nil => rfl
  | cons state states ih =>
    rw [List.map_cons, List.mapM_cons, stateAt?_number hfew, ih]
    rfl

end Lexicon

/-- A lexer of plain data, any of which may be wrong. -/
structure RawLexer (lexicon : Lexicon) where
  /-- The offset at which the text starts. -/
  base : Nat
  /-- The whole text. -/
  buffer : List Char
  /-- The number of bytes of the text that have been read. -/
  index : Nat
  line : Nat
  column : Nat
  /-- The numbers of the states, the outermost first. -/
  stack : List Nat

namespace RawLexer

variable {lexicon : Lexicon}

def initial (lexicon : Lexicon) : RawLexer lexicon where
  base := 0
  buffer := []
  index := 0
  line := 1
  column := 1
  stack := [Lexicon.number lexicon.start]

/-- The index lies between two characters of the text or at an end of it, there is a current state,
and all numbers are those of states. -/
structure Safe (lexer : RawLexer lexicon) : Prop where
  index_le : lexer.index ≤ Text.byteLength lexer.buffer
  splits : ∃ behind ahead, lexer.buffer = behind ++ ahead ∧ lexer.index = Text.byteLength behind
  stack_ne_nil : lexer.stack ≠ []
  stack_lt : ∀ number ∈ lexer.stack, number < lexicon.tables.length

/-! ## What a lexer tells about itself -/

def position (lexer : RawLexer lexicon) : Position :=
  ⟨Position.moveOffset lexer.base lexer.index, lexer.line, lexer.column⟩

def depth (lexer : RawLexer lexicon) : Nat :=
  lexer.stack.length

def unread? (lexer : RawLexer lexicon) : Option (List Char) :=
  Text.dropBytes? lexer.index lexer.buffer

def current? (lexer : RawLexer lexicon) : Option lexicon.StateId :=
  lexer.stack.getLast?.bind lexicon.stateAt?

def currentState? (lexer : RawLexer lexicon) : Option String :=
  lexer.current?.map lexicon.stateName

def save? (lexer : RawLexer lexicon) : Option LexerState := do
  let states ← lexer.stack.mapM lexicon.stateAt?
  return ⟨Position.moveOffset lexer.base lexer.index, lexer.line, lexer.column,
    states.map lexicon.stateName⟩

def view? (lexer : RawLexer lexicon) : Option Lexer.View := do
  return ⟨lexer.position, lexer.depth, ← lexer.currentState?, ← lexer.save?⟩

/-- The stack of states that the numbers stand for. -/
def states? (lexer : RawLexer lexicon) : Option (StateStack lexicon.StateId) :=
  (lexer.stack.mapM lexicon.stateAt?).bind StateStack.ofList?

/-! ## Changing the state -/

def reset (_ : RawLexer lexicon) (text : List Char) (state : Option LexerState) : RawLexer lexicon :=
  match state with
  | none => { initial lexicon with buffer := text }
  | some state =>
    let stack := state.stack.filterMap fun name => (lexicon.state? name).map Lexicon.number
    { base := state.offset
      buffer := text
      index := 0
      line := state.line
      column := state.column
      stack := if stack.isEmpty then [Lexicon.number lexicon.start] else stack }

/-- Change the stack.  To go back, there must be a state to go back to. -/
def change? (lexer : RawLexer lexicon) : Transition lexicon.StateId → Option (RawLexer lexicon)
  | .push state => some { lexer with stack := lexer.stack ++ [Lexicon.number state] }
  | .pop count =>
    if count < lexer.depth then
      some { lexer with stack := lexer.stack.take (lexer.depth - count) }
    else none
  | .next state =>
    if lexer.stack.isEmpty then none
    else some { lexer with stack := lexer.stack.dropLast ++ [Lexicon.number state] }

def requireState (lexer : RawLexer lexicon) (name : String) : Except LexerError lexicon.StateId :=
  match lexicon.state? name with
  | some id => .ok id
  | none => .error (.unknownState lexer.position name)

/-- Change the stack by hand, if the change can be made out. -/
def settle? (lexer : RawLexer lexicon) (change : Except LexerError (Transition lexicon.StateId)) :
    Option (Reply × RawLexer lexicon) :=
  match change with
  | .ok change => (lexer.change? change).map fun changed => (.changed (.ok ()), changed)
  | .error error => some (.changed (.error error), lexer)

/-! ## Reading tokens -/

def countLineBreaks (lexer : RawLexer lexicon) (entry : Entry lexicon.names.length Regex.Expr)
    (text : List Char) : Except LexerError Nat :=
  let count := Text.lineBreaks text
  if count = 0 || entry.lineBreaks then .ok (min count Position.maxCount)
  else if lexicon.options.strictLineBreaks then
    .error (.undeclaredLineBreak lexer.position entry.kind)
  else .ok 0

def underflows? (lexer : RawLexer lexicon) (entry : Entry lexicon.names.length Regex.Expr) :
    Option LexerError :=
  match entry.transition with
  | some (.pop count) =>
    if lexer.depth ≤ count then some (.stateUnderflow lexer.position count lexer.depth) else none
  | _ => none

def endOfInput? (lexer : RawLexer lexicon) : Option (Except LexerError Unit) :=
  if lexer.depth ≤ 1 || lexicon.options.partialInput then some (.ok ())
  else lexer.currentState?.map fun name => .error (.noMatch lexer.position name none)

/-- Move behind a text, of whose line breaks `lineBreaks` count.  The column is that of what stands
behind the last one. -/
def advance? (lexer : RawLexer lexicon) (text : List Char) (lineBreaks : Nat) :
    Option (RawLexer lexicon) :=
  let index := lexer.index + Text.byteLength text
  match (Text.lastBreak? text).filter fun _ => 0 < lineBreaks with
  | some last =>
    (Text.dropBytes? (last + 1) text).map fun tail =>
      { lexer with
        index
        line := Position.addCount lexer.line lineBreaks
        column := Position.addCount tail.length 1 }
  | none => some { lexer with index, column := Position.addCount lexer.column text.length }

/-- Take the match of an entry, found in a state. -/
def takeMatch? (lexer : RawLexer lexicon) (state : lexicon.StateId)
    (entry : Entry lexicon.names.length Regex.Expr) (text : List Char) :
    Option (Except LexerError (Match lexicon × RawLexer lexicon)) :=
  match lexer.underflows? entry with
  | some error => some (.error error)
  | none =>
    match lexer.countLineBreaks entry text with
    | .error error => some (.error error)
    | .ok lineBreaks => do
      let moved ← lexer.advance? text lineBreaks
      let changed ←
        match entry.transition with
        | some transition => moved.change? transition
        | none => some moved
      let after ← changed.states?
      return .ok (⟨state, entry, text, lexer.position, lineBreaks, after⟩, changed)

def take? (lexer : RawLexer lexicon) :
    Option (Except LexerError (Option (Match lexicon × RawLexer lexicon))) := do
  let unread ← lexer.unread?
  if unread.isEmpty then
    return (← lexer.endOfInput?).map fun _ => none
  else
    let state ← lexer.current?
    match ← (lexicon.table state).trySelect unread with
    | none => return .error (.noMatch lexer.position (lexicon.stateName state) unread.head?)
    | some (place, length) =>
      let entry ← (lexicon.table state).entries[place]?
      let text ← Text.takeAll? length unread
      return (← lexer.takeMatch? state entry text).map some

/-- Read a token with at most `fuel` matches. -/
def nextWithin? : Nat → RawLexer lexicon → Option (Except LexerError (Option Token) × RawLexer lexicon)
  | 0, lexer => some (.error (.stalled lexer.position), lexer)
  | fuel + 1, lexer => do
    match ← lexer.take? with
    | .error error => return (.error error, lexer)
    | .ok none => return (.ok none, lexer)
    | .ok (some (m, rest)) =>
      if m.entry.isIgnored then nextWithin? fuel rest else return (.ok (some m.token), rest)

/-- Read the next token, with as many matches as a lexer allows. -/
def next? (lexer : RawLexer lexicon) : Option (Except LexerError (Option Token) × RawLexer lexicon) := do
  let unread ← lexer.unread?
  let states := lexicon.names.length + 1
  lexer.nextWithin?
    ((unread.length + 1) * (lexer.depth + states * unread.length + 1) * (states * states) + 1)

/-! ## Calls -/

def perform? (lexer : RawLexer lexicon) : Command → Option (Reply × RawLexer lexicon)
  | .next => lexer.next?.map fun (result, rest) => (.token result, rest)
  | .setState name => lexer.settle? ((lexer.requireState name).map .next)
  | .pushState name => lexer.settle? ((lexer.requireState name).map .push)
  | .popState =>
    lexer.settle? <|
      if lexer.depth ≤ 1 then .error (.stateUnderflow lexer.position 1 lexer.depth)
      else .ok (.pop 1)

end RawLexer

/-- What a caller does with a lexer and its texts. -/
inductive Lexer.Action where
  | call (command : Command)
  /-- Go on with a text from a state that comes from somewhere. -/
  | reset (text : List Char) (state : Option LexerState)
  /-- Go on with a text from where the lexer is. -/
  | resume (text : List Char)

/-- Do something with a lexer.  Calls are answered. -/
def Lexer.act {lexicon : Lexicon} (lexer : Lexer lexicon) :
    Lexer.Action → Option Reply × Lexer lexicon
  | .call command => (some (lexer.perform command).1, (lexer.perform command).2)
  | .reset text state => (none, lexer.reset text state)
  | .resume text => (none, lexer.reset text (some lexer.save))

/-- The answers to what is done with a lexer, with what is seen after each, and the lexer behind all. -/
def Lexer.actAll {lexicon : Lexicon} (lexer : Lexer lexicon) :
    List Lexer.Action → List (Option Reply × View) × Lexer lexicon
  | [] => ([], lexer)
  | action :: actions =>
    let (reply, rest) := lexer.act action
    let (others, last) := rest.actAll actions
    ((reply, rest.view) :: others, last)

namespace RawLexer

variable {lexicon : Lexicon}

def act? (lexer : RawLexer lexicon) : Lexer.Action → Option (Option Reply × RawLexer lexicon)
  | .call command => (lexer.perform? command).map fun (reply, rest) => (some reply, rest)
  | .reset text state => some (none, lexer.reset text state)
  | .resume text => lexer.save?.map fun state => (none, lexer.reset text (some state))

def actAll? (lexer : RawLexer lexicon) :
    List Lexer.Action → Option (List (Option Reply × Lexer.View) × RawLexer lexicon)
  | [] => some ([], lexer)
  | action :: actions => do
    let (reply, rest) ← lexer.act? action
    let view ← rest.view?
    let (others, last) ← rest.actAll? actions
    return ((reply, view) :: others, last)

/-! ## What can be reached -/

/-- What a caller can bring a lexer to, and what the lexer passes through inside of calls. -/
inductive Reachable : RawLexer lexicon → Prop
  | initial : Reachable (initial lexicon)
  | act {lexer rest : RawLexer lexicon} {reply : Option Reply} (before : Reachable lexer)
      (action : Lexer.Action) (done : lexer.act? action = some (reply, rest)) : Reachable rest
  | take {lexer rest : RawLexer lexicon} {m : Match lexicon} (before : Reachable lexer)
      (taken : lexer.take? = some (.ok (some (m, rest)))) : Reachable rest

lemma reachable_of_actAll? {lexer last : RawLexer lexicon} {actions : List Lexer.Action}
    {answers : List (Option Reply × Lexer.View)} (hlexer : lexer.Reachable)
    (h : lexer.actAll? actions = some (answers, last)) : last.Reachable := by
  induction actions generalizing lexer answers with
  | nil =>
    obtain ⟨-, rfl⟩ := Prod.mk.inj (Option.some.inj h)
    exact hlexer
  | cons action actions ih =>
    simp only [actAll?, Option.bind_eq_bind, Option.bind_eq_some_iff] at h
    obtain ⟨⟨reply, rest⟩, hact, view, -, ⟨others, last'⟩, hothers, hlast⟩ := h
    obtain ⟨-, rfl⟩ := Prod.mk.inj (Option.some.inj hlast)
    exact ih (.act hlexer action hact) hothers

/-- The rule that applies changes the stack in the given way. -/
def Changes (lexer : RawLexer lexicon) (change : Transition lexicon.StateId) : Prop :=
  ∃ unread state entry length, lexer.unread? = some unread ∧ unread ≠ []
    ∧ lexer.current? = some state ∧ (lexicon.table state).choose unread = some (entry, length)
    ∧ entry.transition = some change

/-- The depth of a stack behind a match, from the one before it. -/
def depthBehind {σ : Type} (depth : Nat) : Option (Transition σ) → Nat
  | some (.push _) => depth + 1
  | some (.pop count) => depth - count
  | some (.next _) => depth
  | none => depth

/-- What matches make of the depth of the stack. -/
structure Deepens (lexer : RawLexer lexicon) : Prop where
  moves : ∀ m rest, lexer.take? = some (.ok (some (m, rest))) →
    rest.depth = depthBehind lexer.depth m.entry.transition
  underflows : ∀ position count depth,
    lexer.take? = some (.error (.stateUnderflow position count depth)) ↔
      position = lexer.position ∧ depth = lexer.depth ∧ lexer.depth ≤ count
        ∧ lexer.Changes (.pop count)

end RawLexer

end Lexical
