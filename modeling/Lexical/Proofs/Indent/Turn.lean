import Lexical.Indent.Layer
import Lexical.Proofs.Source
import Mathlib.Tactic.SplitIfs

/-!
# What a call of an indentation layer can do

A layer reads ahead in its source, and only then changes its blocks.  `Layer.ReadsOn` relates a
layer to itself after some reading: the blocks, the queue and the options are the same.
`Layer.Turn` lists what a call can come to once the first line has been measured: it fails, passes a
token on, begins a line or ends (`Layer.continueWithin_turn`), and `Layer.next_call` puts the queue
and the first line in front.  Invariants of layers are proved from these two, without opening the
loops.

`Layer.Reached` are the layers that come of a reset by calls and by resuming from what they saved.
-/

namespace Lexical

/-- The four kinds of token of a layer are different. -/
def IndentOptions.Distinct (options : IndentOptions) : Prop :=
  [options.whitespace, options.newline, options.indent, options.dedent].Nodup

instance (options : IndentOptions) : Decidable options.Distinct :=
  inferInstanceAs (Decidable (List.Nodup _))

namespace IndentOptions.Distinct

variable {options : IndentOptions}

lemma newline_ne_indent (h : options.Distinct) : options.newline ≠ options.indent := by
  simp only [Distinct, List.nodup_cons, List.mem_cons, not_or] at h
  exact h.2.1.1

lemma newline_ne_dedent (h : options.Distinct) : options.newline ≠ options.dedent := by
  simp only [Distinct, List.nodup_cons, List.mem_cons, not_or] at h
  exact h.2.1.2.1

lemma indent_ne_dedent (h : options.Distinct) : options.indent ≠ options.dedent := by
  simp only [Distinct, List.nodup_cons, List.mem_cons, not_or] at h
  exact h.2.2.1.1

end IndentOptions.Distinct

/-- The token that an outcome gives. -/
def Outcome.given {σ : Type} (outcome : Outcome σ (Option Token)) : List Token :=
  match outcome.result with
  | .ok (some token) => [token]
  | _ => []

lemma Outcome.eq_of_result {α β : Type} {outcome : Outcome α β} {result : Except LexerError β}
    (h : outcome.result = result) : outcome = ⟨result, outcome.state, outcome.events⟩ := by
  rw [← h]

namespace Layer

open TokenSource (Advances Emits)

variable {σ : Type} [TokenSource σ]

/-! ## Reading ahead -/

/-- The layer after some reading ahead. -/
structure ReadsOn (layer later : Layer σ) : Prop where
  options_eq : later.options = layer.options
  width_eq : later.width = layer.width
  enclosing_eq : later.enclosing = layer.enclosing
  queue_eq : later.queue = layer.queue
  advances : Advances layer.source later.source
  here_from : ∀ token, later.here = some token → layer.here = some token ∨ Emits layer.source token

namespace ReadsOn

variable {layer later last : Layer σ}

lemma refl (layer : Layer σ) : ReadsOn layer layer :=
  ⟨rfl, rfl, rfl, rfl, .refl, fun _ h => .inl h⟩

lemma trans (h : ReadsOn layer later) (h' : ReadsOn later last) : ReadsOn layer last where
  options_eq := h'.options_eq.trans h.options_eq
  width_eq := h'.width_eq.trans h.width_eq
  enclosing_eq := h'.enclosing_eq.trans h.enclosing_eq
  queue_eq := h'.queue_eq.trans h.queue_eq
  advances := h.advances.trans h'.advances
  here_from token htoken := by
    rcases h'.here_from token htoken with hhere | hemits
    · exact h.here_from token hhere
    · exact .inr (hemits.of_advances h.advances)

/-- The token read ahead may be dropped. -/
lemma drop (h : ReadsOn layer later) : ReadsOn layer { later with here := none } :=
  ⟨h.options_eq, h.width_eq, h.enclosing_eq, h.queue_eq, h.advances, by simp⟩

end ReadsOn

lemma take_readsOn (layer : Layer σ) : ReadsOn layer layer.take.state := by
  unfold take
  cases hhere : layer.here with
  | some token => exact (ReadsOn.refl layer).drop
  | none => exact ⟨rfl, rfl, rfl, rfl, Advances.next _, by simp [hhere]⟩

/-- A token that is taken was read ahead or comes from the source. -/
lemma take_from {layer : Layer σ} {token : Token} (h : layer.take.result = .ok (some token)) :
    layer.here = some token ∨ Emits layer.source token := by
  unfold take at h
  cases hhere : layer.here with
  | some ahead =>
    rw [hhere] at h
    exact .inl (Except.ok.inj h)
  | none =>
    rw [hhere] at h
    exact .inr ⟨layer.source, .refl, h⟩

lemma look_readsOn (layer : Layer σ) : ReadsOn layer layer.look.state := by
  unfold look
  cases hhere : layer.here with
  | some token => exact .refl layer
  | none =>
    refine ⟨rfl, rfl, rfl, rfl, Advances.next _, fun token htoken => .inr ?_⟩
    refine ⟨layer.source, .refl, ?_⟩
    cases hresult : (TokenSource.next layer.source).result with
    | error error => simp [hresult] at htoken
    | ok ahead => simpa [hresult] using htoken

/-- The induction is on the fuel; each branch reads on and drops what it has read. -/
lemma nextWidthWithin_readsOn (fuel : Nat) (layer : Layer σ) :
    ReadsOn layer (nextWidthWithin fuel layer).state := by
  induction fuel generalizing layer with
  | zero => exact .refl layer
  | succ fuel ih =>
    have hlook := look_readsOn layer
    unfold nextWidthWithin
    cases hahead : layer.look with
    | mk result later events =>
    rw [hahead] at hlook
    rcases result with error | _ | token
    · exact hlook
    · exact hlook
    · dsimp only
      split_ifs
      -- A line break here means that the line is blank.
      · exact hlook.drop.trans (ih _)
      -- White space is a width only if something follows that is not a line break, hence the
      -- second look.
      · have hsecond := hlook.drop.trans (look_readsOn { later with here := none })
        cases hbehind : ({ later with here := none } : Layer σ).look with
        | mk result last more =>
        rw [hbehind] at hsecond
        rcases result with error | _ | token'
        · exact hsecond
        · exact hsecond
        · dsimp only
          split_ifs
          · exact hsecond.drop.trans (ih _)
          · exact hsecond
      · exact hlook

lemma nextWidth_readsOn (layer : Layer σ) : ReadsOn layer layer.nextWidth.state :=
  nextWidthWithin_readsOn _ layer

/-! ## What a call comes to -/

/-- What a call comes to, once the first line has been measured and the queue is empty. -/
inductive Turn (layer : Layer σ) : Outcome (Layer σ) (Option Token) → Prop
  /-- The source fails, or gives too many tokens. -/
  | fails {later : Layer σ} (h : ReadsOn layer later) (error : LexerError) (events : List Event) :
      Turn layer ⟨.error error, later, events⟩
  /-- A token of the source is passed on. -/
  | passes {later : Layer σ} (h : ReadsOn layer later) (token : Token)
      (hfrom : layer.here = some token ∨ Emits layer.source token) (events : List Event) :
      Turn layer ⟨.ok (some token), later, events⟩
  /-- A line of the given width begins. -/
  | begins {later : Layer σ} (h : ReadsOn layer later) (width : Nat) (position : Position)
      (events : List Event) : Turn layer ((later.startLine width position).after events)
  /-- The source has ended. -/
  | ends {later : Layer σ} (h : ReadsOn layer later) (events : List Event) :
      Turn layer (later.finish.after events)

lemma Turn.after {layer later : Layer σ} {outcome : Outcome (Layer σ) (Option Token)}
    (hread : ReadsOn layer later) (h : Turn later outcome) (events : List Event) :
    Turn layer (outcome.after events) := by
  cases h with
  | fails h error more => exact .fails (hread.trans h) error _
  | passes h token hfrom more =>
    refine .passes (hread.trans h) token ?_ _
    rcases hfrom with hhere | hemits
    · exact hread.here_from token hhere
    · exact .inr (hemits.of_advances hread.advances)
  | begins h width position more =>
    -- The events of both stretches of reading are appended, which `begins` takes as one list.
    have := Turn.begins (hread.trans h) width position (events ++ more)
    simpa only [Outcome.after, List.append_assoc] using this
  | ends h more =>
    have := Turn.ends (hread.trans h) (events ++ more)
    simpa only [Outcome.after, List.append_assoc] using this

/-- The induction is on the fuel; white space inside a line is skipped by reading on. -/
lemma continueWithin_turn (fuel : Nat) (layer : Layer σ) :
    Turn layer (continueWithin fuel layer) := by
  induction fuel generalizing layer with
  | zero => exact .fails (.refl layer) _ _
  | succ fuel ih =>
    have htake := take_readsOn layer
    have hfrom (token : Token) (h : layer.take.result = .ok (some token)) :
        layer.here = some token ∨ Emits layer.source token := take_from h
    unfold continueWithin
    cases htaken : layer.take with
    | mk result later events =>
    rw [htaken] at htake hfrom
    rcases result with error | _ | token
    · exact .fails htake error events
    · exact .ends htake events
    · dsimp only
      split_ifs
      · have hwidth := htake.trans (nextWidth_readsOn later)
        cases hmeasured : later.nextWidth with
        | mk result last more =>
        rw [hmeasured] at hwidth
        rcases result with error | _ | width
        · exact .fails hwidth error _
        · exact .ends hwidth _
        · exact .begins hwidth width token.position _
      · exact (ih later).after htake events
      · exact .passes htake token (hfrom token rfl) events

/-- The layer once it has measured its first line, or found no line to measure.  A width that was
known stays. -/
structure Settles (layer settled : Layer σ) : Prop where
  options_eq : settled.options = layer.options
  width_eq : layer.width.isSome → settled.width = layer.width
  enclosing_eq : settled.enclosing = layer.enclosing
  queue_eq : settled.queue = layer.queue
  advances : Advances layer.source settled.source
  here_from : ∀ token, settled.here = some token →
    layer.here = some token ∨ Emits layer.source token

/-- What a call comes to. -/
inductive Call (layer : Layer σ) : Outcome (Layer σ) (Option Token) → Prop
  /-- The source fails while the first line is measured. -/
  | fails {later : Layer σ} (h : ReadsOn layer later) (error : LexerError) (events : List Event) :
      Call layer ⟨.error error, later, events⟩
  /-- A token of the queue is given. -/
  | pops {settled : Layer σ} (h : Settles layer settled) (token : Token) (queue : List Token)
      (hqueue : layer.queue = token :: queue) (events : List Event) :
      Call layer ⟨.ok (some token), { settled with queue }, events⟩
  /-- The layer reads on in its source. -/
  | turns {settled : Layer σ} (h : Settles layer settled) (hqueue : layer.queue = [])
      {outcome : Outcome (Layer σ) (Option Token)} (hturn : Turn settled outcome) :
      Call layer outcome

lemma settle_cases (layer : Layer σ) :
    (∃ error, ReadsOn layer layer.settle.state ∧ layer.settle.result = .error error) ∨
      (Settles layer layer.settle.state ∧ layer.settle.result = .ok ()) := by
  unfold settle
  split_ifs with hwidth
  · exact .inr ⟨⟨rfl, fun _ => rfl, rfl, rfl, .refl, fun _ h => .inl h⟩, rfl⟩
  · have hread := nextWidth_readsOn layer
    cases hmeasured : layer.nextWidth with
    | mk result later events =>
    rw [hmeasured] at hread
    cases result with
    | error error => exact .inl ⟨error, hread, rfl⟩
    | ok width =>
      -- No width was known, so there is none that had to stay.
      refine .inr ⟨⟨hread.options_eq, fun hsome => absurd hsome hwidth, hread.enclosing_eq,
        hread.queue_eq, hread.advances, hread.here_from⟩, rfl⟩

/-- **Every call is one of these.** -/
theorem next_call (layer : Layer σ) : Call layer layer.next := by
  have hcases := layer.settle_cases
  unfold next
  cases hsettled : layer.settle with
  | mk result settled events =>
  rw [hsettled] at hcases
  rcases hcases with ⟨error, hread, hresult⟩ | ⟨hsettles, hresult⟩
  · obtain rfl : result = .error error := hresult
    exact .fails hread error events
  · obtain rfl : result = .ok () := hresult
    dsimp only
    -- The queue is that of before the call, as measuring a line leaves it alone.
    cases hqueue : settled.queue with
    | nil =>
      simp only [pop, hqueue]
      have hturn := (continueWithin_turn settled.sourceBudget settled).after (.refl settled) events
      exact .turns hsettles (hsettles.queue_eq ▸ hqueue) hturn
    | cons token queue =>
      simp only [pop, hqueue]
      exact .pops hsettles token queue (hsettles.queue_eq ▸ hqueue) events

/-! ## Runs -/

/-- What a layer comes to, with the tokens that it has given: it is reset to the start of some text,
called, and may be resumed from what it saved, now or before.  The tokens given are then those up to
the saving. -/
inductive Reached (origin : Layer σ) : Layer σ → List Token → Prop
  | reset (text : List Char) : Reached origin (origin.reset text none) []
  | next {layer : Layer σ} {given : List Token} (h : Reached origin layer given) :
      Reached origin layer.next.state (given ++ layer.next.given)
  | resume {layer other : Layer σ} {given others : List Token} (h : Reached origin layer given)
      (hother : Reached origin other others) (text : List Char) :
      Reached origin (other.reset text (some layer.save)) given

end Layer

end Lexical
