import Lexical.Proofs.Lexer.Command
import Lexical.Proofs.Lexicon.Declared

/-!
# Saving and resuming a lexer

A lexer that is resumed has a new text, which begins where the old one was left, and counts from a
new base.  What it does next depends on neither: `Lexer.Agrees` relates lexers that are at the same
position, have the same text ahead and the same stack, and each call keeps lexers that agree in
agreement and answers both alike (`Lexer.Agrees.perform`).

A resumed lexer agrees with the one that was saved (`Lexer.agrees_reset_save`).  Its stack has gone
through the names of its states, which is why the names have to be distinct.
-/

namespace Lexical

/-- The first bytes of a text determine the characters that take them up. -/
lemma eq_of_append_eq_of_byteLength_eq {a b c d : List Char} (happend : a ++ b = c ++ d)
    (hlength : Text.byteLength a = Text.byteLength c) : a = c ∧ b = d := by
  induction a generalizing c with
  | nil =>
    cases c with
    | nil => exact ⟨rfl, happend⟩
    | cons x c =>
      -- A character takes a byte at least, so neither part can be longer than the other.
      have hpos := Char.utf8Size_pos x
      simp at hlength
      omega
  | cons x a ih =>
    cases c with
    | nil =>
      have hpos := Char.utf8Size_pos x
      simp at hlength
      omega
    | cons y c =>
      obtain ⟨rfl, htail⟩ := List.cons.inj happend
      obtain ⟨rfl, hrest⟩ := ih htail (by simpa using hlength)
      exact ⟨rfl, hrest⟩

namespace Lexer

variable {lexicon : Lexicon}

/-- The text is no part of what is saved. -/
lemma save_eq_of_position_eq {a b : Lexer lexicon} (hposition : a.position = b.position)
    (hstack : a.stack = b.stack) : a.save = b.save := by
  obtain ⟨hoffset, hline, hcolumn⟩ := Position.mk.inj hposition
  rw [save, save, hoffset, hline, hcolumn, hstack]

/-- Two lexers that go on in the same way, whatever they have read before. -/
structure Agrees (a b : Lexer lexicon) : Prop where
  position_eq : a.position = b.position
  ahead_eq : a.ahead = b.ahead
  stack_eq : a.stack = b.stack

/-- Two attempts to take a match with the same outcome, up to lexers that agree. -/
inductive SameTake : Except LexerError (Option (Match lexicon × Lexer lexicon)) →
    Except LexerError (Option (Match lexicon × Lexer lexicon)) → Prop
  | error (e : LexerError) : SameTake (.error e) (.error e)
  | nothing : SameTake (.ok none) (.ok none)
  | taken (m : Match lexicon) {a b : Lexer lexicon} (h : Agrees a b) :
      SameTake (.ok (some (m, a))) (.ok (some (m, b)))

namespace Agrees

variable {a b : Lexer lexicon}

lemma depth_eq (h : Agrees a b) : a.depth = b.depth :=
  congrArg StateStack.depth h.stack_eq

lemma currentState_eq (h : Agrees a b) : a.currentState = b.currentState := by
  rw [currentState, currentState, h.stack_eq]

lemma line_eq (h : Agrees a b) : a.line = b.line :=
  congrArg Position.line h.position_eq

lemma column_eq (h : Agrees a b) : a.column = b.column :=
  congrArg Position.column h.position_eq

lemma offset_eq (h : Agrees a b) :
    Position.moveOffset a.base a.index = Position.moveOffset b.base b.index :=
  congrArg Position.offset h.position_eq

lemma symm (h : Agrees a b) : Agrees b a :=
  ⟨h.position_eq.symm, h.ahead_eq.symm, h.stack_eq.symm⟩

lemma save_eq (h : Agrees a b) : a.save = b.save :=
  save_eq_of_position_eq h.position_eq h.stack_eq

lemma view_eq (h : Agrees a b) : a.view = b.view := by
  rw [view, view, h.position_eq, h.depth_eq, h.currentState_eq, h.save_eq]

lemma patience_eq (h : Agrees a b) : a.patience = b.patience := by
  rw [patience, patience, h.ahead_eq, h.depth_eq]

/-! ## Taking matches -/

/-- Advancing over the same text moves both offsets by the same number of bytes. -/
lemma advance (h : Agrees a b) (length lineBreaks : Nat)
    (stack : StateStack lexicon.StateId) :
    Agrees { a.advance length lineBreaks with stack }
      { b.advance length lineBreaks with stack } := by
  have hoffset := h.offset_eq
  simp only [index] at hoffset
  refine ⟨?_, by simp [Lexer.advance, h.ahead_eq], rfl⟩
  -- The lexers may have read different texts from different bases; only where that led them to
  -- enters.
  simp only [position, index, Lexer.advance, h.ahead_eq, h.line_eq, h.column_eq,
    Text.byteLength_append, ← Position.moveOffset_moveOffset, hoffset]

lemma takeMatch (h : Agrees a b) (entry : Entry lexicon.names.length Regex.Expr) (length : Nat) :
    SameTake ((a.takeMatch entry length).map some) ((b.takeMatch entry length).map some) := by
  have hunderflow : a.underflows? entry = b.underflows? entry := by
    simp only [underflows?, h.position_eq, h.depth_eq]
  have hcount : a.countLineBreaks entry = b.countLineBreaks entry := by
    funext text
    simp only [countLineBreaks, h.position_eq]
  unfold Lexer.takeMatch
  rw [hunderflow, hcount, h.ahead_eq, h.stack_eq, h.position_eq]
  cases b.underflows? entry with
  | some error => exact .error error
  | none =>
    dsimp only
    cases b.countLineBreaks entry (b.ahead.take length) with
    | error error => exact .error error
    | ok lineBreaks => exact .taken _ (h.advance length lineBreaks _)

lemma take (h : Agrees a b) : SameTake a.take b.take := by
  unfold Lexer.take
  rw [h.ahead_eq]
  split_ifs with hempty
  · rw [endOfInput, endOfInput, h.depth_eq, h.position_eq, h.currentState_eq]
    split_ifs
    · exact .nothing
    · exact .error _
  · rw [table, table, h.stack_eq, h.position_eq, h.currentState_eq]
    -- The same state chooses for the same text ahead, so the two take the same match.
    cases (lexicon.table b.stack.top).choose b.ahead with
    | none => exact .error _
    | some choice => exact h.takeMatch choice.1 choice.2

/-! ## Reading tokens -/

/-- The induction is on the fuel, with the agreement of the two lexers as its invariant. -/
lemma nextWithin (h : Agrees a b) (fuel : Nat) :
    (a.nextWithin fuel).taken = (b.nextWithin fuel).taken ∧
      (a.nextWithin fuel).result = (b.nextWithin fuel).result ∧
      Agrees (a.nextWithin fuel).lexer (b.nextWithin fuel).lexer := by
  induction fuel generalizing a b with
  | zero => exact ⟨rfl, by simp [Lexer.nextWithin, h.position_eq], h⟩
  | succ fuel ih =>
    unfold Lexer.nextWithin
    have htake := h.take
    generalize a.take = fromA at htake
    generalize b.take = fromB at htake
    cases htake with
    | error e => exact ⟨rfl, rfl, h⟩
    | nothing => exact ⟨rfl, rfl, h⟩
    | taken m hrest =>
      obtain ⟨htaken, hresult, hlexer⟩ := ih hrest
      dsimp only
      split_ifs
      · exact ⟨congrArg (m :: ·) htaken, hresult, hlexer⟩
      · exact ⟨rfl, rfl, hrest⟩

/-! ## Calls -/

lemma requireState_eq (h : Agrees a b) (name : String) :
    a.requireState name = b.requireState name := by
  rw [requireState, requireState, h.position_eq]

/-- A change that both lexers are allowed, or neither. -/
lemma settleChange (h : Agrees a b) (change : Except LexerError (Transition lexicon.StateId)) :
    (a.settleChange (change.map a.apply)).1 = (b.settleChange (change.map b.apply)).1 ∧
      Agrees (a.settleChange (change.map a.apply)).2 (b.settleChange (change.map b.apply)).2 := by
  cases change with
  | error error => exact ⟨rfl, h⟩
  | ok change =>
    exact ⟨rfl, h.position_eq, h.ahead_eq, congrArg (StateStack.apply · change) h.stack_eq⟩

/-- **Lexers that agree answer every call alike and agree behind it.** -/
lemma perform (h : Agrees a b) (command : Command) :
    (a.perform command).1 = (b.perform command).1 ∧
      Agrees (a.perform command).2 (b.perform command).2 := by
  cases command with
  | next =>
    obtain ⟨-, hresult, hlexer⟩ := h.nextWithin a.patience
    simp only [Lexer.perform, next]
    rw [← h.patience_eq]
    exact ⟨congrArg Reply.token hresult, hlexer⟩
  | setState name =>
    simp only [Lexer.perform, setState_eq, h.requireState_eq name]
    exact h.settleChange _
  | pushState name =>
    simp only [Lexer.perform, pushState_eq, h.requireState_eq name]
    exact h.settleChange _
  | popState =>
    simp only [Lexer.perform, popState_eq, h.depth_eq, h.position_eq]
    exact h.settleChange _

/-- The induction is on the calls; each keeps the agreement. -/
lemma trace_eq (h : Agrees a b) (commands : List Command) :
    a.trace commands = b.trace commands := by
  induction commands generalizing a b with
  | nil => rfl
  | cons command rest ih =>
    obtain ⟨hreply, hlexer⟩ := h.perform command
    simp only [trace, hreply, hlexer.view_eq, ih hlexer]

end Agrees

/-! ## Resuming -/

/-- What is resumed agrees with what was saved, whatever lexer of the lexicon resumes it. -/
lemma agrees_reset_save (hnodup : lexicon.names.Nodup) (lexer other : Lexer lexicon) :
    Agrees (other.reset lexer.ahead (some lexer.save)) lexer := by
  refine ⟨position_reset_save lexer other _, rfl, ?_⟩
  simp only [reset, save, Lexicon.filterMap_state?_map_stateName hnodup,
    StateStack.ofList?_toList, Option.getD_some]

/-- **Saving and resuming is seamless.**  A lexer, at any point of any text, is saved, and some
lexer of the same lexicon is reset to what is unread of the text and to the saved state.  From then
on the two give the same replies and look the same after each call. -/
theorem trace_reset_save {declared : List Declaration} {categories : CategoryRegistry}
    {options : LexerOptions}
    (hcompiled : Lexicon.ofStates declared categories options = .ok lexicon)
    (lexer other : Lexer lexicon) {read unread : List Char}
    (hbuffer : lexer.buffer = read ++ unread) (hread : Text.byteLength read = lexer.index)
    (commands : List Command) :
    (other.reset unread (some lexer.save)).view = lexer.view ∧
      (other.reset unread (some lexer.save)).trace commands = lexer.trace commands := by
  have hnodup := (Lexicon.implements_of_ofStates hcompiled).nodup_names
  obtain ⟨-, rfl⟩ := eq_of_append_eq_of_byteLength_eq (hbuffer.symm) hread
  have hagrees := agrees_reset_save hnodup lexer other
  exact ⟨hagrees.view_eq, hagrees.trace_eq commands⟩

/-! ### A lexer saved inside a bracket -/

/-- Words and brackets: a bracket pushes a state that its partner pops. -/
def bracketStates : List Declaration :=
  [("outside", [.literal "word" "a", (Rule.literal "open" "(").push "inside"]),
    ("inside", [.literal "word" "a", (Rule.literal "close" ")").pop 1])]

def bracketLexicon : Lexicon :=
  (Lexicon.ofStates bracketStates .empty .standard).toOption.get (by decide +kernel)

/-- The lexer behind the bracket. -/
def bracketLexer : Lexer bracketLexicon :=
  ((initial bracketLexicon).reset "(a)".toList none).next.lexer

/-- The resumed lexer reads on, refuses an unknown state, and pops one state, but not two. -/
theorem trace_reset_save_bracketLexer :
    Lexicon.ofStates bracketStates .empty .standard = .ok bracketLexicon ∧
      bracketLexer.buffer = ['('] ++ ['a', ')'] ∧
      Text.byteLength ['('] = bracketLexer.index ∧ bracketLexer.depth = 2 ∧
      ((initial bracketLexicon).reset ['a', ')'] (some bracketLexer.save)).trace
          [.next, .setState "nowhere", .next, .popState] =
        bracketLexer.trace [.next, .setState "nowhere", .next, .popState] := by
  have hcompiled : Lexicon.ofStates bracketStates .empty .standard = .ok bracketLexicon :=
    eq_ok_get_toOption _
  have hbuffer : bracketLexer.buffer = ['('] ++ ['a', ')'] := by decide +kernel
  have hread : Text.byteLength ['('] = bracketLexer.index := by decide +kernel
  have hdepth : bracketLexer.depth = 2 := by decide +kernel
  exact ⟨hcompiled, hbuffer, hread, hdepth,
    (trace_reset_save hcompiled bracketLexer (initial bracketLexicon) hbuffer hread _).2⟩

end Lexer

end Lexical
