import Lexical.Proofs.Indent.Blocks
import Lexical.Proofs.Indent.Turn
import Mathlib.Tactic.Lemma

/-!
# Indents, dedents and the depth

Open blocks live in two places: on the stack of widths, and, once their end has been decided, as
dedents in the queue.  The depth counts both, and along every run it is the number of indents given
less the number of dedents given (`Layer.countKind_indent_sub_countKind_dedent`), as long as the
source gives neither.

The invariant is `Layer.Sound`: the queue holds dedents only, and what was read ahead comes from the
source.  `Layer.Balanced` says of one outcome that it moves the depth with the tokens given; it is
proved for the operations on blocks first, then for a turn and for a call.
-/

namespace Lexical

/-- The number of tokens of a kind. -/
def countKind (kind : String) (tokens : List Token) : Nat :=
  tokens.countP (·.kind = kind)

@[simp] lemma countKind_nil (kind : String) : countKind kind [] = 0 := rfl

@[simp] lemma countKind_append (kind : String) (tokens others : List Token) :
    countKind kind (tokens ++ others) = countKind kind tokens + countKind kind others :=
  List.countP_append ..

lemma countKind_singleton (kind : String) (token : Token) :
    countKind kind [token] = if token.kind = kind then 1 else 0 := by
  simp [countKind]

namespace Layer

variable {σ : Type}

/-! ## The depth of a layer with a queue of dedents -/

lemma depth_eq (layer : Layer σ) :
    layer.depth = layer.enclosing.length + countKind layer.options.dedent layer.queue := by
  rw [depth, countKind, List.countP_eq_length_filter]

lemma depth_of_queue_eq_nil {layer : Layer σ} (h : layer.queue = []) :
    layer.depth = layer.enclosing.length := by
  rw [depth_eq, h, countKind_nil, Nat.add_zero]

lemma countKind_dedents {layer : Layer σ} {kind : String} (h : layer.options.dedent = kind)
    (position : Position) (count : Nat) :
    countKind kind (layer.dedents position count) = count := by
  simp [countKind, dedents, Token.synthetic, List.countP_replicate, h]

lemma kind_of_mem_dedents {layer : Layer σ} {position : Position} {count : Nat} {token : Token}
    (h : token ∈ layer.dedents position count) : token.kind = layer.options.dedent := by
  rw [List.eq_of_mem_replicate h]
  rfl

variable [TokenSource σ] {origin : Layer σ}

/-! ## The invariant -/

/-- A token that opens or closes a block. -/
def MarksBlock (origin : Layer σ) (token : Token) : Prop :=
  token.kind = origin.options.indent ∨ token.kind = origin.options.dedent

instance (origin : Layer σ) (token : Token) : Decidable (origin.MarksBlock token) :=
  inferInstanceAs (Decidable (_ ∨ _))

/-- The source of a layer never gives a token that opens or closes a block, whatever it comes to. -/
def Silent (origin : Layer σ) : Prop :=
  ∀ source, TokenSource.Reachable origin.source source → ∀ token,
    (TokenSource.next source).result = .ok (some token) → ¬ origin.MarksBlock token

lemma Silent.of_emits (hsilent : origin.Silent) {source : σ}
    (hreachable : TokenSource.Reachable origin.source source) {token : Token}
    (h : TokenSource.Emits source token) : ¬ origin.MarksBlock token := by
  obtain ⟨later, hadvances, hresult⟩ := h
  exact hsilent later (hreachable.of_advances hadvances) token hresult

/-- A layer whose queue holds dedents only, and which has read ahead no token for blocks. -/
structure Sound (origin layer : Layer σ) : Prop where
  options_eq : layer.options = origin.options
  queue : ∀ token ∈ layer.queue, token.kind = origin.options.dedent
  reachable : TokenSource.Reachable origin.source layer.source
  here : ∀ token, layer.here = some token → ¬ origin.MarksBlock token

namespace Sound

variable {layer later settled : Layer σ}

lemma of_from (h : Sound origin layer) (hsilent : origin.Silent) {token : Token}
    (hfrom : layer.here = some token ∨ TokenSource.Emits layer.source token) :
    ¬ origin.MarksBlock token := by
  rcases hfrom with hhere | hemits
  · exact h.here token hhere
  · exact Silent.of_emits hsilent h.reachable hemits

lemma readsOn (h : Sound origin layer) (hsilent : origin.Silent)
    (hread : ReadsOn layer later) : Sound origin later where
  options_eq := hread.options_eq.trans h.options_eq
  queue := hread.queue_eq ▸ h.queue
  reachable := h.reachable.of_advances hread.advances
  here token htoken := h.of_from hsilent (hread.here_from token htoken)

lemma settles (h : Sound origin layer) (hsilent : origin.Silent)
    (hsettles : Settles layer settled) : Sound origin settled where
  options_eq := hsettles.options_eq.trans h.options_eq
  queue := hsettles.queue_eq ▸ h.queue
  reachable := h.reachable.of_advances hsettles.advances
  here token htoken := h.of_from hsilent (hsettles.here_from token htoken)

end Sound

/-! ## Outcomes that keep the balance -/

/-- An outcome that moves the depth with the indents and dedents that it gives, and that comes to no
token only outside all blocks. -/
structure Balanced (origin layer : Layer σ)
    (outcome : Outcome (Layer σ) (Option Token)) : Prop where
  sound : Sound origin outcome.state
  count : layer.depth + countKind origin.options.indent outcome.given =
    outcome.state.depth + countKind origin.options.dedent outcome.given
  ended : outcome.result = .ok none → outcome.state.depth = 0

namespace Balanced

variable {layer later : Layer σ} {outcome : Outcome (Layer σ) (Option Token)}

lemma after (h : Balanced origin layer outcome) (events : List Event) :
    Balanced origin layer (outcome.after events) :=
  ⟨h.sound, h.count, h.ended⟩

/-- The balance speaks of the blocks only, which reading on leaves alone. -/
lemma of_depth_eq (hdepth : later.depth = layer.depth) (h : Balanced origin later outcome) :
    Balanced origin layer outcome :=
  ⟨h.sound, hdepth ▸ h.count, h.ended⟩

/-- A failure that leaves the layer's blocks as they were. -/
lemma of_error (hsound : Sound origin later) (hdepth : later.depth = layer.depth)
    (error : LexerError) (events : List Event) :
    Balanced origin layer ⟨.error error, later, events⟩ :=
  ⟨hsound, by simp [Outcome.given, hdepth], by simp⟩

end Balanced

lemma ReadsOn.depth_eq {layer later : Layer σ} (h : ReadsOn layer later) :
    later.depth = layer.depth := by
  rw [Layer.depth_eq, Layer.depth_eq, h.enclosing_eq, h.queue_eq, h.options_eq]

lemma Settles.depth_eq {layer settled : Layer σ} (h : Settles layer settled) :
    settled.depth = layer.depth := by
  rw [Layer.depth_eq, Layer.depth_eq, h.enclosing_eq, h.queue_eq, h.options_eq]

/-! ## The operations on blocks -/

variable {layer : Layer σ}

lemma dedentTo_balanced (hdistinct : origin.options.Distinct) (hsound : Sound origin layer)
    (hqueue : layer.queue = []) {width : Nat} (position : Position)
    (hlt : width < layer.width.getD 0) :
    Balanced origin layer (layer.dedentTo width position) := by
  have hne := hdistinct.indent_ne_dedent
  rcases dedentTo_cases position hqueue hlt with
    ⟨outer, closed, kept, henclosing, -, hresult, hstate⟩ | ⟨-, hresult, hstate⟩
  -- A block that is closed moves from the stack to the queue.  The depth falls by one only, for
  -- the dedent that is given at once.
  · have hclosed := countKind_dedents (congrArg (·.dedent) hsound.options_eq) position closed.length
    constructor
    · rw [hstate]
      exact ⟨hsound.options_eq,
        fun token htoken => (kind_of_mem_dedents htoken).trans (by rw [hsound.options_eq]),
        hsound.reachable, hsound.here⟩
    · rw [depth_of_queue_eq_nil hqueue, hstate, depth_eq]
      simp only [Outcome.given, hresult, countKind_singleton, hclosed, Token.synthetic, henclosing,
        hsound.options_eq, List.length_append, List.length_cons, if_neg hne.symm,
        if_pos]
      omega
    · simp [hresult]
  · constructor
    · rw [hstate]
      exact hsound
    · simp [hstate, Outcome.given, hresult]
    · simp [hresult]

lemma startLine_balanced (hdistinct : origin.options.Distinct) (hsound : Sound origin layer)
    (hqueue : layer.queue = []) (width : Nat) (position : Position) :
    Balanced origin layer (layer.startLine width position) := by
  rcases Nat.lt_trichotomy width (layer.width.getD 0) with hlt | heq | hgt
  · rw [startLine_of_gt position hlt]
    exact dedentTo_balanced hdistinct hsound hqueue position hlt
  · rw [startLine_of_eq position heq]
    refine ⟨hsound, ?_, by simp⟩
    simp [Outcome.given, countKind_singleton, Token.synthetic, hsound.options_eq,
      hdistinct.newline_ne_indent, hdistinct.newline_ne_dedent]
  · rw [startLine_of_lt position hgt]
    -- The queue is empty, so the indent given is the one block more on the stack.
    refine ⟨⟨hsound.options_eq, hsound.queue, hsound.reachable, hsound.here⟩, ?_, by simp⟩
    simp [Outcome.given, countKind_singleton, Token.synthetic, hsound.options_eq,
      hdistinct.indent_ne_dedent, depth_eq, hqueue]

lemma finish_balanced (hdistinct : origin.options.Distinct) (hsound : Sound origin layer)
    (hqueue : layer.queue = []) : Balanced origin layer layer.finish := by
  have hne := hdistinct.indent_ne_dedent
  cases henclosing : layer.enclosing with
  | nil =>
    rw [finish_of_nil hqueue henclosing]
    exact ⟨hsound, by simp [Outcome.given], fun _ => by
      simp [depth_of_queue_eq_nil hqueue, henclosing]⟩
  | cons outer enclosing =>
    have hclosed := countKind_dedents (congrArg (·.dedent) hsound.options_eq)
      (TokenSource.position layer.source) enclosing.length
    rw [finish_of_cons hqueue henclosing]
    refine ⟨⟨hsound.options_eq,
      fun token htoken => (kind_of_mem_dedents htoken).trans (by rw [hsound.options_eq]),
      hsound.reachable, hsound.here⟩, ?_, by simp⟩
    rw [depth_of_queue_eq_nil hqueue, depth_eq]
    simp only [Outcome.given, countKind_singleton, hclosed, Token.synthetic, henclosing,
      hsound.options_eq, List.length_nil, List.length_cons, if_neg hne.symm, if_pos]
    omega

/-! ## Calls and runs -/

lemma Turn.balanced (hdistinct : origin.options.Distinct) (hsilent : origin.Silent)
    (hsound : Sound origin layer) (hqueue : layer.queue = [])
    {outcome : Outcome (Layer σ) (Option Token)} (h : Turn layer outcome) :
    Balanced origin layer outcome := by
  cases h with
  | fails hread error events =>
    exact .of_error (hsound.readsOn hsilent hread) hread.depth_eq error events
  | passes hread token hfrom events =>
    -- By `Silent` a token passed on is neither an indent nor a dedent, and counts for nothing.
    have hmarks := hsound.of_from hsilent hfrom
    simp only [MarksBlock, not_or] at hmarks
    refine ⟨hsound.readsOn hsilent hread, ?_, by simp⟩
    simp [Outcome.given, countKind_singleton, hmarks, hread.depth_eq]
  | begins hread width position events =>
    have hlater := hsound.readsOn hsilent hread
    have hbalanced :=
      startLine_balanced hdistinct hlater (hread.queue_eq.trans hqueue) width position
    exact (hbalanced.of_depth_eq hread.depth_eq).after events
  | ends hread events =>
    have hlater := hsound.readsOn hsilent hread
    have hbalanced := finish_balanced hdistinct hlater (hread.queue_eq.trans hqueue)
    exact (hbalanced.of_depth_eq hread.depth_eq).after events

lemma next_balanced (hdistinct : origin.options.Distinct) (hsilent : origin.Silent)
    (hsound : Sound origin layer) : Balanced origin layer layer.next := by
  have hcall := layer.next_call
  generalize layer.next = outcome at hcall
  cases hcall with
  | fails hread error events =>
    exact .of_error (hsound.readsOn hsilent hread) hread.depth_eq error events
  | pops hsettles token queue hqueue events =>
    have hsettled := hsound.settles hsilent hsettles
    have hkind : token.kind = origin.options.dedent := hsound.queue token (by simp [hqueue])
    refine ⟨⟨hsettled.options_eq, fun other hother => hsound.queue other (by simp [hqueue, hother]),
      hsettled.reachable, hsettled.here⟩, ?_, by simp⟩
    -- The dedent given was counted with the queue, so the depth falls by as much as is given.
    have hqueued : countKind origin.options.dedent layer.queue =
        1 + countKind origin.options.dedent queue := by
      rw [hqueue, ← List.singleton_append, countKind_append, countKind_singleton, if_pos hkind]
    simp only [depth_eq, Outcome.given, countKind_singleton, hkind,
      if_neg hdistinct.indent_ne_dedent.symm, if_pos, hsettles.enclosing_eq, hsettled.options_eq,
      hsound.options_eq, hqueued]
    omega
  | turns hsettles hqueue hturn =>
    have hsettled := hsound.settles hsilent hsettles
    have hbalanced := hturn.balanced hdistinct hsilent hsettled (hsettles.queue_eq.trans hqueue)
    exact hbalanced.of_depth_eq hsettles.depth_eq

/-- The induction is on the run; its invariant is that the layer is sound and that the tokens given
so far balance its depth. -/
lemma Reached.balanced (hdistinct : origin.options.Distinct) (hsilent : origin.Silent)
    {given : List Token} (h : Reached origin layer given) :
    Sound origin layer ∧ countKind origin.options.indent given =
      countKind origin.options.dedent given + layer.depth := by
  induction h with
  | reset text =>
    refine ⟨⟨rfl, ?_, .reset _, ?_⟩, rfl⟩
    · simp [Layer.reset, initial]
    · simp [Layer.reset, initial]
  | next h ih =>
    obtain ⟨hsound, hcount⟩ := ih
    have hbalanced := next_balanced hdistinct hsilent hsound
    refine ⟨hbalanced.sound, ?_⟩
    have hstep := hbalanced.count
    simp only [countKind_append]
    omega
  | @resume layer other given others h hother text ih ihother =>
    obtain ⟨hsound, hcount⟩ := ih
    obtain ⟨hsound', -⟩ := ihother
    refine ⟨⟨hsound'.options_eq, hsound.queue, hsound.reachable.resume hsound'.reachable text,
      hsound.here⟩, ?_⟩
    -- What is resumed takes its blocks and its queue from the saving, and so the depth with them.
    have hdepth : (other.reset text (some layer.save)).depth = layer.depth := by
      simp [depth_eq, Layer.reset, save, hsound.options_eq, hsound'.options_eq]
    rw [hdepth, hcount]

/-- **The depth law.**  In every run of a layer over a source that gives neither indents nor
dedents, whatever else it does, the indents given less the dedents given are the depth.  A call that
comes to no token leaves no block open. -/
theorem countKind_indent_sub_countKind_dedent (hdistinct : origin.options.Distinct)
    (hsilent : origin.Silent) {given : List Token} (h : Reached origin layer given) :
    (countKind origin.options.indent given : Int) - countKind origin.options.dedent given =
        layer.depth ∧
      (layer.next.result = .ok none → layer.next.state.depth = 0) := by
  obtain ⟨hsound, hcount⟩ := h.balanced hdistinct hsilent
  have hended := (next_balanced hdistinct hsilent hsound).ended
  refine ⟨?_, hended⟩
  omega

/-! ### An indented word -/

/-- A word and a second one that is indented below it. -/
def indentedWord : List Token :=
  [.synthetic "word" ⟨0, 1, 1⟩, .synthetic "nl" ⟨1, 1, 2⟩,
    { Token.synthetic "ws" ⟨2, 2, 1⟩ with value := "  " }, .synthetic "word" ⟨4, 2, 3⟩]

def indentedWordLayer : Layer (Script indentedWord ⟨5, 2, 4⟩) :=
  initial (.start _ _) .standard

lemma indentedWordLayer_silent : indentedWordLayer.Silent := by
  intro source _ token hresult
  have hkinds : ∀ token ∈ indentedWord, ¬ indentedWordLayer.MarksBlock token := by
    decide +kernel
  exact hkinds token (Script.mem_of_result_next hresult)

/-- The layer inside the block: it has given the first word and the indent. -/
def indentedWordWithin : Layer (Script indentedWord ⟨5, 2, 4⟩) :=
  (indentedWordLayer.reset [] none).next.state.next.state

/-- The layer is resumed inside the block, and goes on to its end. -/
theorem countKind_indent_sub_countKind_dedent_indentedWord :
    indentedWordLayer.options.Distinct ∧ indentedWordLayer.Silent ∧ indentedWordWithin.depth = 1 ∧
      ∃ given,
        Reached indentedWordLayer
          (indentedWordWithin.reset [] (some indentedWordWithin.save)) given ∧
        (countKind "indent" given : Int) - countKind "dedent" given =
          (indentedWordWithin.reset [] (some indentedWordWithin.save)).depth := by
  have hdistinct : indentedWordLayer.options.Distinct := by decide +kernel
  have hdepth : indentedWordWithin.depth = 1 := by decide +kernel
  have hstart : Reached indentedWordLayer (indentedWordLayer.reset [] none) [] := .reset []
  have hwithin := hstart.next.next
  have hresumed := hwithin.resume hwithin []
  exact ⟨hdistinct, indentedWordLayer_silent, hdepth, _, hresumed,
    (countKind_indent_sub_countKind_dedent hdistinct indentedWordLayer_silent hresumed).1⟩

end Layer

end Lexical
