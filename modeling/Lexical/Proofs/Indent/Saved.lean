import Lexical.Proofs.Indent.Resume
import Lexical.Proofs.Json.State

/-!
# Saved streams in JSON

What is kept of layers on layers is a state in a state, down to that of the lexer.  Its JSON form is made
level by level, and so is the proof that it comes back (`Nest.ofJson?_toJson`).  Whatever the state says,
a source that is reset to what came back is the one that is reset to the state itself
(`TokenSource.resume?_toJson`), so nothing that is read from there on can tell the two apart.

The form comes back at any number of layers.  Documents are read to a limited depth only, and every layer
takes one level of that (`Nest.le_nesting_toJson`, `Nest.nesting_toJson_le`): the documents of up to 124
layers come back whatever the state holds, and those of 126 and more are refused.

The main statement is `Nest.survives_json`.  Together with the seamless resuming of layers it says that a
stream which was saved, written and read goes on as if it had not been interrupted
(`Layer.exists_resume?_continuesAs`).
-/

namespace Lexical

instance (lexicon : Lexicon) : JsonForm (TokenSource.State (Lexer lexicon)) :=
  inferInstanceAs (JsonForm LexerState)

instance (σ : Type) [TokenSource σ] [JsonForm (TokenSource.State σ)] :
    JsonForm (TokenSource.State (Layer σ)) :=
  inferInstanceAs (JsonForm (IndentState (TokenSource.State σ)))

namespace TokenSource

variable {σ : Type} [TokenSource σ] [JsonForm (State σ)]

/-- Go on with a new text from the state that a JSON value stands for, if it stands for one. -/
def resume? (source : σ) (text : List Char) (json : Json) : Option σ :=
  (ofJson? json).map fun state => reset source text (some state)

/-- Go on with a new text from the state that a document holds, if it holds one. -/
def resumeDocument? (source : σ) (text document : List Char) : Option σ :=
  (Json.decode? document).map fun state => reset source text (some state)

lemma resume?_toJson {state : State σ} (h : ofJson? (toJson state) = some state) (source : σ)
    (text : List Char) : resume? source text (toJson state) = some (reset source text (some state)) := by
  rw [resume?, h, Option.map_some]

lemma resumeDocument?_write {state : State σ} (h : Json.Survives state) (source : σ)
    (text : List Char) :
    resumeDocument? source text (toJson state).write = some (reset source text (some state)) := by
  rw [resumeDocument?, h.compact, Option.map_some]

end TokenSource

/-! ## States of layers on layers -/

namespace Nest

variable {σ : Type} [TokenSource σ]

instance instJsonForm (σ : Type) [TokenSource σ] [JsonForm (TokenSource.State σ)] :
    (depth : Nat) → JsonForm (TokenSource.State (Nest σ depth))
  | 0 => inferInstanceAs (JsonForm (TokenSource.State σ))
  | depth + 1 =>
    letI := instJsonForm σ depth
    inferInstanceAs (JsonForm (TokenSource.State (Layer (Nest σ depth))))

/-- A state of layers on layers that can be written, with a state of the source below all of them that
`below` holds of. -/
def Representable (below : TokenSource.State σ → Prop) :
    (depth : Nat) → TokenSource.State (Nest σ depth) → Prop
  | 0 => below
  | depth + 1 => IndentState.Representable (Representable below depth)

/-- The induction is on the number of layers. -/
lemma ofJson?_toJson [JsonForm (TokenSource.State σ)] {below : TokenSource.State σ → Prop}
    (hbelow : ∀ state, below state → ofJson? (toJson state) = some state) {depth : Nat}
    {state : TokenSource.State (Nest σ depth)} (h : Representable below depth state) :
    ofJson? (toJson state) = some state := by
  induction depth with
  | zero => exact hbelow state h
  | succ depth ih => exact IndentState.ofJson?_toJson (fun state => ih) h

section Nesting

variable [JsonForm (TokenSource.State σ)]

/-- Every layer puts a record around what is below it. -/
lemma le_nesting_toJson {n : Nat} (hbelow : ∀ state : TokenSource.State σ, n ≤ (toJson state).nesting)
    {depth : Nat} (state : TokenSource.State (Nest σ depth)) :
    depth + n ≤ (toJson state).nesting := by
  induction depth with
  | zero => exact Nat.le_trans (Nat.zero_add n).le (hbelow state)
  | succ depth ih =>
    have hsource := ih (IndentState.source state)
    have hlayer := (IndentState.nesting_toJson state).1
    have hlevels := Nat.le_trans (Nat.succ_le_succ hsource) hlayer
    rwa [← Nat.succ_add] at hlevels

/-- The tokens of the innermost layer may lie one deeper than what is below it. -/
lemma nesting_toJson_le (hbelow : ∀ state : TokenSource.State σ, (toJson state).nesting ≤ 3)
    {depth : Nat} (state : TokenSource.State (Nest σ depth)) :
    (toJson state).nesting ≤ depth + 3 := by
  induction depth with
  | zero => exact Nat.le_trans (hbelow state) (Nat.zero_add 3).ge
  | succ depth ih =>
    have hsource := ih (IndentState.source state)
    have hlayer := (IndentState.nesting_toJson state).2
    have hmax := Nat.max_le.2 ⟨hsource, Nat.le_add_left 3 depth⟩
    have hlevels := Nat.le_trans hlayer (Nat.succ_le_succ hmax)
    rwa [← Nat.succ_add] at hlevels

end Nesting

/-- **Saved streams survive JSON.**  Tokens come back from it, and so do the states of lexers and of any
number of layers on a lexer.  A source that is reset to what came back is the one that is reset to the
state.  So it is with documents, too, as long as they are not nested too deep to be read; up to 124
layers they never are. -/
theorem survives_json (lexicon : Lexicon) :
    (∀ token : Token, token.Representable → Json.Survives token) ∧
    ∀ (depth : Nat) (state : TokenSource.State (Nest (Lexer lexicon) depth)),
      Representable LexerState.Representable depth state →
        (ofJson? (toJson state) = some state ∧
          ∀ (source : Nest (Lexer lexicon) depth) (text : List Char),
            TokenSource.resume? source text (toJson state) =
              some (TokenSource.reset source text (some state))) ∧
        ((toJson state).nesting ≤ Json.nestingLimit → Json.Survives state ∧
          ∀ (source : Nest (Lexer lexicon) depth) (text : List Char),
            TokenSource.resumeDocument? source text (toJson state).write =
              some (TokenSource.reset source text (some state))) ∧
        (Json.nestingLimit < (toJson state).nesting → Json.Refused state) ∧
        (depth ≤ 124 → (toJson state).nesting ≤ Json.nestingLimit) ∧
        (126 ≤ depth → Json.nestingLimit < (toJson state).nesting) := by
  refine ⟨fun token => Token.survives, fun depth state hstate => ?_⟩
  have hform : ofJson? (toJson state) = some state :=
    ofJson?_toJson (fun _ => LexerState.ofJson?_toJson) hstate
  have hleast : depth + 2 ≤ (toJson state).nesting :=
    le_nesting_toJson (fun state => (LexerState.nesting_toJson state).ge) state
  have hmost : (toJson state).nesting ≤ depth + 3 :=
    nesting_toJson_le (fun state => (LexerState.nesting_toJson state).le.trans (by decide)) state
  refine ⟨⟨hform, TokenSource.resume?_toJson hform⟩, fun hlimit => ?_, .of_form hform, ?_, ?_⟩
  · have hsurvives : Json.Survives state := .of_form hform hlimit
    exact ⟨hsurvives, TokenSource.resumeDocument?_write hsurvives⟩
  · intro hdepth
    exact hmost.trans (Nat.add_le_add_right hdepth 3)
  · intro hdepth
    exact Nat.lt_of_lt_of_le (by decide) ((Nat.add_le_add_right hdepth 2).trans hleast)

/-! ### Two layers with all that can be in them -/

/-- A token with the greatest numbers that can be written, and characters that have to be escaped. -/
def farToken : Token where
  kind := "word"
  value := "\"\\\n\x01"
  text := "é😀"
  offset := UInt64.size - 1
  lineBreaks := 0
  line := UInt32.size - 1
  column := UInt32.size - 1
  categories := ⟨[0, 7, UInt32.size - 1]⟩
  isError := true

/-- A state of a layer that has not seen a line yet, but has tokens to give. -/
def innerState : IndentState LexerState where
  source := ⟨UInt64.size - 1, UInt32.size - 1, 1, ["outline", "", "é"]⟩
  indent := none
  stack := []
  queue := [.synthetic "dedent" .start, farToken]
  here := none

/-- A state of a layer on that one, in a block in a block, with a token that has been read ahead. -/
def outerState : IndentState (IndentState LexerState) where
  source := innerState
  indent := some (UInt64.size - 1)
  stack := [0, UInt64.size - 2]
  queue := []
  here := some farToken

/-- Both layers of the outline can be reset to what a document says. -/
theorem survives_json_outerState :
    farToken.Representable ∧ Json.Survives farToken ∧
      outerState.Representable (IndentState.Representable LexerState.Representable) ∧
      (toJson outerState).nesting = 5 ∧ Json.Survives outerState ∧
      TokenSource.resume? Layer.outlineLayer "a".toList (toJson outerState) =
        some (TokenSource.reset Layer.outlineLayer "a".toList (some outerState)) ∧
      TokenSource.resumeDocument? Layer.outlineLayer "a".toList (toJson outerState).write =
        some (TokenSource.reset Layer.outlineLayer "a".toList (some outerState)) := by
  have htoken : farToken.Representable := by decide +kernel
  have hqueue : ∀ token ∈ innerState.queue, token.Representable := by decide +kernel
  have hinner : innerState.Representable LexerState.Representable :=
    ⟨by decide +kernel, by decide, by decide, hqueue, by decide⟩
  have houter : outerState.Representable (IndentState.Representable LexerState.Representable) :=
    ⟨hinner, by decide +kernel, by decide +kernel, by decide, by simpa [outerState] using htoken⟩
  obtain ⟨htokens, hstates⟩ := survives_json Layer.outlineLexicon
  obtain ⟨⟨-, hresume⟩, hdocuments, -, hshallow, -⟩ := hstates 2 outerState houter
  obtain ⟨hsurvives, hresumeDocument⟩ := hdocuments (hshallow (by decide))
  exact ⟨htoken, htokens farToken htoken, houter, by decide +kernel, hsurvives,
    hresume Layer.outlineLayer "a".toList, hresumeDocument Layer.outlineLayer "a".toList⟩

end Nest

namespace Layer

open TokenSource (Reachable)

/-- **A stream that is saved as JSON goes on from it** as if it had not been interrupted, and so it does
from a document that is not nested too deep. -/
theorem exists_resume?_continuesAs {declared : List Declaration} {categories : CategoryRegistry}
    {options : LexerOptions} {lexicon : Lexicon}
    (hcompiled : Lexicon.ofStates declared categories options = .ok lexicon) {depth : Nat}
    {origin layer other : Layer (Nest (Lexer lexicon) depth)} (h : Reachable origin layer)
    (hother : Reachable origin other)
    (hsaved : Nest.Representable LexerState.Representable (depth + 1) layer.save) :
    ∃ resumed, ContinuesAs resumed layer ∧
      TokenSource.resume? other (Nest.innermost depth layer.source).ahead (toJson layer.save)
        = some resumed ∧
      ((toJson layer.save).nesting ≤ Json.nestingLimit →
        TokenSource.resumeDocument? other (Nest.innermost depth layer.source).ahead
          (toJson layer.save).write = some resumed) := by
  have hform : ofJson? (toJson layer.save) = some layer.save :=
    Nest.ofJson?_toJson (fun _ => LexerState.ofJson?_toJson) hsaved
  refine ⟨_, continuesAs_reset_save h hother (Lexer.seamless hcompiled _ _),
    TokenSource.resume?_toJson hform other _, fun hlimit => ?_⟩
  exact TokenSource.resumeDocument?_write (.of_form hform hlimit) other _

end Layer

end Lexical
