import Lexical.Proofs.Indent.Turn
import Lexical.Proofs.Lexer.Resume

/-!
# Saving and resuming layers

What a layer saves is all that it has besides its source, so a resumed layer differs from the one that
was saved by its source alone.  If resuming the source is seamless, the two sources answer alike, and
layers of that sort stay so (`Layer.sameOutcome_next`): whatever a layer does, it knows its source
only by its answers.  The queue of dedents, the token that was read ahead and the width of the first
line, if it has been measured, come back as they were.

So resuming a layer is seamless, and so are layers on layers (`Nest`), over any source for which
resuming is seamless and over every lexer (`Layer.resume_continuesAs`).
-/

namespace Lexical

namespace Layer

open TokenSource (Advances Alike Reachable Seamless advance)

variable {σ : Type}

lemma source_pop (layer : Layer σ) : layer.pop.2.source = layer.source := by
  unfold pop
  split <;> rfl

lemma options_pop (layer : Layer σ) : layer.pop.2.options = layer.options := by
  unfold pop
  split <;> rfl

variable [TokenSource σ]

/-! ## Layers that differ by their sources -/

/-- Two outcomes with the same result that leave the same layer but for its source, which answers
alike. -/
inductive SameOutcome {α : Type} : Outcome (Layer σ) α → Outcome (Layer σ) α → Prop
  | mk (result : Except LexerError α) (layer : Layer σ) {source : σ}
      (h : Alike layer.source source) (events others : List Event) :
      SameOutcome ⟨result, layer, events⟩ ⟨result, { layer with source }, others⟩

lemma SameOutcome.after {α : Type} {x y : Outcome (Layer σ) α} (h : SameOutcome x y)
    (events others : List Event) : SameOutcome (x.after events) (y.after others) := by
  obtain ⟨result, layer, h, more, more'⟩ := h
  exact .mk result layer h _ _

lemma SameOutcome.exists_eq {α : Type} {x y : Outcome (Layer σ) α} (h : SameOutcome x y) :
    ∃ result layer source events others, Alike layer.source source ∧ x = ⟨result, layer, events⟩ ∧
      y = ⟨result, { layer with source }, others⟩ := by
  obtain ⟨result, layer, h, events, others⟩ := h
  exact ⟨result, layer, _, events, others, h, rfl, rfl⟩

lemma SameOutcome.result_eq {α : Type} {x y : Outcome (Layer σ) α} (h : SameOutcome x y) :
    x.result = y.result := by
  obtain ⟨result, layer, h, events, others⟩ := h
  rfl

/-- The first token of the queue, as an outcome of both layers. -/
lemma sameOutcome_pop (layer : Layer σ) {source : σ} (h : Alike layer.source source)
    (events : List Event) :
    SameOutcome ⟨.ok layer.pop.1, layer.pop.2, events⟩
      ⟨.ok ({ layer with source } : Layer σ).pop.1, ({ layer with source } : Layer σ).pop.2,
        events⟩ := by
  obtain ⟨own, options, width, enclosing, queue, here⟩ := layer
  unfold pop
  cases queue with
  | nil => exact .mk _ ⟨own, options, width, enclosing, [], here⟩ h _ _
  | cons token queue => exact .mk _ ⟨own, options, width, enclosing, queue, here⟩ h _ _

section Alike

variable {layer : Layer σ} {source : σ} (h : Alike layer.source source)
include h

lemma position_of_alike : layer.position = ({ layer with source } : Layer σ).position := by
  unfold position
  rw [h.first_position_eq]

/-! ## Reading ahead -/

lemma sameOutcome_take : SameOutcome layer.take ({ layer with source } : Layer σ).take := by
  obtain ⟨own, options, width, enclosing, queue, here⟩ := layer
  unfold take
  cases here with
  | some token => exact .mk _ ⟨own, options, width, enclosing, queue, none⟩ h _ _
  | none =>
    simp only [Outcome.mapState, h.first_result_eq]
    exact .mk _ ⟨_, options, width, enclosing, queue, none⟩ h.next _ _

lemma sameOutcome_look : SameOutcome layer.look ({ layer with source } : Layer σ).look := by
  obtain ⟨own, options, width, enclosing, queue, here⟩ := layer
  unfold look
  cases here with
  | some token => exact .mk _ ⟨own, options, width, enclosing, queue, some token⟩ h _ _
  | none =>
    simp only [Outcome.mapState, h.first_result_eq]
    exact .mk _ ⟨_, options, width, enclosing, queue, _⟩ h.next _ _

/-- The induction is on the fuel. -/
lemma sameOutcome_nextWidthWithin (fuel : Nat) :
    SameOutcome (nextWidthWithin fuel layer) (nextWidthWithin fuel { layer with source }) := by
  induction fuel generalizing layer source with
  | zero =>
    unfold nextWidthWithin
    rw [position_of_alike h]
    exact .mk _ layer h _ _
  | succ fuel ih =>
    obtain ⟨result, later, source', events, others, hlater, hlook, hlook'⟩ :=
      (sameOutcome_look h).exists_eq
    unfold nextWidthWithin
    rw [hlook, hlook']
    rcases result with error | _ | token
    · exact .mk _ later hlater _ _
    · exact .mk _ later hlater _ _
    · dsimp only
      split_ifs
      -- Dropping the token read ahead does not touch the sources, so they still answer alike.
      · have hdropped : Alike ({ later with here := none } : Layer σ).source source' := hlater
        exact (ih hdropped).after _ _
      · have hdropped : Alike ({ later with here := none } : Layer σ).source source' := hlater
        obtain ⟨result, last, last', more, more', hlast, hlook, hlook'⟩ :=
          (sameOutcome_look hdropped).exists_eq
        rw [hlook, hlook']
        rcases result with error | _ | token'
        · exact .mk _ last hlast _ _
        · exact .mk _ last hlast _ _
        · dsimp only
          split_ifs
          · have hdropped : Alike ({ last with here := none } : Layer σ).source last' := hlast
            exact (ih hdropped).after _ _
          · exact .mk _ last hlast _ _
      · exact .mk _ later hlater _ _

lemma sameOutcome_nextWidth :
    SameOutcome layer.nextWidth ({ layer with source } : Layer σ).nextWidth := by
  unfold nextWidth sourceBudget
  rw [h.first_budget_eq]
  exact sameOutcome_nextWidthWithin h _

/-! ## Blocks -/

lemma sameOutcome_dedentTo (width : Nat) (position : Position) :
    SameOutcome (layer.dedentTo width position)
      (({ layer with source } : Layer σ).dedentTo width position) := by
  unfold dedentTo
  dsimp only
  split_ifs
  · exact sameOutcome_pop { layer with
      width := some width, enclosing := _, queue := layer.queue ++ layer.dedents position _ } h _
  · rw [position_of_alike h]
    exact .mk _ layer h _ _

lemma sameOutcome_startLine (width : Nat) (position : Position) :
    SameOutcome (layer.startLine width position)
      (({ layer with source } : Layer σ).startLine width position) := by
  unfold startLine
  dsimp only
  split_ifs
  · exact .mk _ layer h _ _
  · exact .mk _ { layer with width := some width, enclosing := _ } h _ _
  · exact sameOutcome_dedentTo h width position

lemma sameOutcome_finish : SameOutcome layer.finish ({ layer with source } : Layer σ).finish := by
  unfold finish
  dsimp only
  rw [h.first_position_eq]
  exact sameOutcome_pop { layer with
    queue := layer.queue ++ layer.dedents (TokenSource.position source) layer.enclosing.length,
    enclosing := [] } h _

/-! ## Calls -/

/-- The induction is on the fuel. -/
lemma sameOutcome_continueWithin (fuel : Nat) :
    SameOutcome (continueWithin fuel layer) (continueWithin fuel { layer with source }) := by
  induction fuel generalizing layer source with
  | zero =>
    unfold continueWithin
    rw [position_of_alike h]
    exact .mk _ layer h _ _
  | succ fuel ih =>
    obtain ⟨result, later, source', events, others, hlater, htake, htake'⟩ :=
      (sameOutcome_take h).exists_eq
    unfold continueWithin
    rw [htake, htake']
    rcases result with error | _ | token
    · exact .mk _ later hlater _ _
    · exact (sameOutcome_finish hlater).after _ _
    · dsimp only
      split_ifs
      · obtain ⟨result, last, last', more, more', hlast, hwidth, hwidth'⟩ :=
          (sameOutcome_nextWidth hlater).exists_eq
        rw [hwidth, hwidth']
        rcases result with error | _ | width
        · exact .mk _ last hlast _ _
        · exact (sameOutcome_finish hlast).after _ _
        · exact (sameOutcome_startLine hlast width token.position).after _ _
      · exact (ih hlater).after _ _
      · exact .mk _ later hlater _ _

lemma sameOutcome_settle : SameOutcome layer.settle ({ layer with source } : Layer σ).settle := by
  unfold settle
  dsimp only
  split_ifs
  · exact .mk _ layer h _ _
  · obtain ⟨result, later, source', events, others, hlater, hwidth, hwidth'⟩ :=
      (sameOutcome_nextWidth h).exists_eq
    rw [hwidth, hwidth']
    cases result with
    | error error => exact .mk _ later hlater _ _
    | ok width => exact .mk _ { later with width } hlater _ _

/-- **A layer knows its source only by its answers.** -/
theorem sameOutcome_next : SameOutcome layer.next ({ layer with source } : Layer σ).next := by
  obtain ⟨result, later, source', events, others, hlater, hsettle, hsettle'⟩ :=
    (sameOutcome_settle h).exists_eq
  unfold next
  rw [hsettle, hsettle']
  cases result with
  | error error => exact .mk _ later hlater _ _
  | ok settled =>
    obtain ⟨own, options, width, enclosing, queue, here⟩ := later
    -- Both loops get the same fuel, as it is reckoned from the budgets of the sources.
    have hbudget := Alike.first_budget_eq hlater
    cases queue with
    | nil =>
      simp only [pop, sourceBudget, hbudget]
      exact (sameOutcome_continueWithin hlater _).after _ _
    | cons token queue => exact .mk _ ⟨own, options, width, enclosing, queue, here⟩ hlater _ _

end Alike

/-- Two layers that are the same but for their sources, which answer alike. -/
def Twin (a b : Layer σ) : Prop :=
  ∃ source, Alike a.source source ∧ b = { a with source }

namespace Twin

variable {a b : Layer σ}

lemma sameOutcome_next (h : Twin a b) : SameOutcome a.next b.next := by
  obtain ⟨source, halike, rfl⟩ := h
  exact Layer.sameOutcome_next halike

/-- Twins stay twins. -/
lemma next (h : Twin a b) : Twin a.next.state b.next.state := by
  obtain ⟨_, later, source, _, _, halike, hfirst, hsecond⟩ := h.sameOutcome_next.exists_eq
  rw [hfirst, hsecond]
  exact ⟨source, halike, rfl⟩

lemma position_eq (h : Twin a b) : a.position = b.position := by
  obtain ⟨source, halike, rfl⟩ := h
  exact position_of_alike halike

lemma depth_eq (h : Twin a b) : a.depth = b.depth := by
  obtain ⟨source, halike, rfl⟩ := h
  rfl

lemma budget_eq (h : Twin a b) : TokenSource.budget a = TokenSource.budget b := by
  obtain ⟨source, halike, rfl⟩ := h
  show 2 * (TokenSource.budget a.source + a.queue.length + a.enclosing.length + 2)
    = 2 * (TokenSource.budget source + a.queue.length + a.enclosing.length + 2)
  rw [halike.first_budget_eq]

lemma alike (h : Twin a b) : Alike a b :=
  .of_step next (fun h => h.sameOutcome_next.result_eq) position_eq budget_eq h

end Twin

/-! ## What a layer comes to -/

/-- Blocks are no matter of the source. -/
lemma source_startLine (layer : Layer σ) (width : Nat) (position : Position) :
    (layer.startLine width position).state.source = layer.source ∧
      (layer.startLine width position).state.options = layer.options := by
  unfold startLine dedentTo
  dsimp only
  split_ifs
  · exact ⟨rfl, rfl⟩
  · exact ⟨rfl, rfl⟩
  · exact ⟨source_pop _, options_pop _⟩
  · exact ⟨rfl, rfl⟩

lemma source_finish (layer : Layer σ) :
    layer.finish.state.source = layer.source ∧ layer.finish.state.options = layer.options :=
  ⟨source_pop _, options_pop _⟩

/-- A call goes on in the source, and keeps the options. -/
lemma advances_next (layer : Layer σ) :
    Advances layer.source layer.next.state.source ∧ layer.next.state.options = layer.options := by
  have hcall := layer.next_call
  generalize layer.next = outcome at hcall
  cases hcall with
  | fails hread error events => exact ⟨hread.advances, hread.options_eq⟩
  | pops hsettles token queue hqueue events => exact ⟨hsettles.advances, hsettles.options_eq⟩
  | @turns settled hsettles hqueue outcome hturn =>
    -- The first line may have been measured before the turn, so the source has gone on in two
    -- steps.
    suffices h : Advances settled.source outcome.state.source ∧
        outcome.state.options = settled.options from
      ⟨hsettles.advances.trans h.1, h.2.trans hsettles.options_eq⟩
    cases hturn with
    | fails hread error events => exact ⟨hread.advances, hread.options_eq⟩
    | passes hread token hfrom events => exact ⟨hread.advances, hread.options_eq⟩
    | @begins later hread width position events =>
      obtain ⟨hsource, hoptions⟩ := source_startLine later width position
      simp only [Outcome.state_after, hsource, hoptions]
      exact ⟨hread.advances, hread.options_eq⟩
    | @ends later hread events =>
      obtain ⟨hsource, hoptions⟩ := source_finish later
      simp only [Outcome.state_after, hsource, hoptions]
      exact ⟨hread.advances, hread.options_eq⟩

/-- The source of what a layer comes to is what its source comes to. -/
lemma reachable_source {origin layer : Layer σ} (h : Reachable origin layer) :
    Reachable origin.source layer.source ∧ layer.options = origin.options := by
  induction h with
  | reset text => exact ⟨.reset text, rfl⟩
  | @next layer h ih =>
    obtain ⟨hadvances, hoptions⟩ := layer.advances_next
    exact ⟨ih.1.of_advances hadvances, hoptions.trans ih.2⟩
  | resume h hother text ih ihother => exact ⟨ih.1.resume ihother.1 text, ihother.2⟩

/-! ## Resuming -/

/-- What is resumed is what was saved, but for the source. -/
lemma reset_save {layer other : Layer σ} (hoptions : other.options = layer.options)
    (text : List Char) :
    other.reset text (some layer.save) =
      { layer with
        source := TokenSource.reset other.source text (some (TokenSource.save layer.source)) } := by
  simp only [reset, save, List.reverse_reverse, hoptions]

lemma twin_reset_save {unread : σ → List Char} {layer other : Layer σ}
    (hoptions : other.options = layer.options)
    (hseamless : Seamless unread layer.source other.source) :
    Twin (other.reset (unread layer.source) (some layer.save)) layer := by
  rw [reset_save hoptions]
  exact ⟨layer.source, hseamless, rfl⟩

/-- A layer gives what another one gives and is where that is, with as many open blocks, however often
the two are called. -/
structure ContinuesAs (resumed layer : Layer σ) : Prop where
  result_eq : ∀ count, (advance^[count] resumed).next.result = (advance^[count] layer).next.result
  position_eq : ∀ count, (advance^[count] resumed).position = (advance^[count] layer).position
  depth_eq : ∀ count, (advance^[count] resumed).depth = (advance^[count] layer).depth

lemma Twin.continuesAs {a b : Layer σ} (h : Twin a b) : ContinuesAs a b :=
  ⟨h.alike.result_eq, h.alike.position_eq,
    fun count => (TokenSource.iterate_advance_of_step Twin.next h count).depth_eq⟩

end Layer

/-! ## Layers on layers -/

/-- So many layers on a source. -/
def Nest (σ : Type) : Nat → Type
  | 0 => σ
  | depth + 1 => Layer (Nest σ depth)

namespace Nest

instance instTokenSource (σ : Type) [TokenSource σ] : (depth : Nat) → TokenSource (Nest σ depth)
  | 0 => inferInstanceAs (TokenSource σ)
  | depth + 1 =>
    letI := instTokenSource σ depth
    inferInstanceAs (TokenSource (Layer (Nest σ depth)))

/-- The source below all layers. -/
def innermost {σ : Type} : (depth : Nat) → Nest σ depth → σ
  | 0, source => source
  | depth + 1, layer => innermost depth (Layer.source layer)

open TokenSource (Reachable Seamless)

/-- The induction is on the number of layers.  All that a layer keeps besides what it saves are its
options, which are the same for all that it can come to. -/
lemma seamless {σ : Type} [TokenSource σ] {unread : σ → List Char} {depth : Nat}
    {origin source other : Nest σ depth} (hsource : Reachable origin source)
    (hother : Reachable origin other)
    (h : Seamless unread (innermost depth source) (innermost depth other)) :
    Seamless (fun source => unread (innermost depth source)) source other := by
  induction depth with
  | zero => exact h
  | succ depth ih =>
    obtain ⟨hbelow, hoptions⟩ := Layer.reachable_source hsource
    obtain ⟨hbelow', hoptions'⟩ := Layer.reachable_source hother
    have hseamless := ih hbelow hbelow' h
    exact (Layer.twin_reset_save (hoptions'.trans hoptions.symm) hseamless).alike

end Nest

/-! ## Lexers -/

namespace Lexer

open TokenSource (Alike Seamless)

variable {lexicon : Lexicon}

lemma Agrees.alike {a b : Lexer lexicon} (h : Agrees a b) : Alike a b := by
  have hstep {a b : Lexer lexicon} (h : Agrees a b) :
      (TokenSource.next a).result = (TokenSource.next b).result ∧
        Agrees (TokenSource.next a).state (TokenSource.next b).state := by
    obtain ⟨-, hresult, hlexer⟩ := h.nextWithin a.patience
    show a.next.result = b.next.result ∧ Agrees a.next.lexer b.next.lexer
    unfold next
    rw [← h.patience_eq]
    exact ⟨hresult, hlexer⟩
  exact .of_step (fun h => (hstep h).2) (fun h => (hstep h).1) Agrees.position_eq
    Agrees.patience_eq h

/-- **Resuming a lexer is seamless.** -/
theorem seamless {declared : List Declaration} {categories : CategoryRegistry}
    {options : LexerOptions}
    (hcompiled : Lexicon.ofStates declared categories options = .ok lexicon)
    (lexer other : Lexer lexicon) : Seamless Lexer.ahead lexer other :=
  (agrees_reset_save (Lexicon.implements_of_ofStates hcompiled).nodup_names lexer other).alike

end Lexer

namespace Layer

open TokenSource (Reachable Seamless)

/-- If resuming the innermost source is seamless, then so is resuming a layer on layers on it. -/
lemma continuesAs_reset_save {σ : Type} [TokenSource σ] {unread : σ → List Char} {depth : Nat}
    {origin layer other : Layer (Nest σ depth)} (h : Reachable origin layer)
    (hother : Reachable origin other)
    (hinnermost : Seamless unread (Nest.innermost depth layer.source)
      (Nest.innermost depth other.source)) :
    ContinuesAs (other.reset (unread (Nest.innermost depth layer.source)) (some layer.save))
      layer := by
  obtain ⟨hsource, hoptions⟩ := reachable_source h
  obtain ⟨hsource', hoptions'⟩ := reachable_source hother
  have hseamless := Nest.seamless hsource hsource' hinnermost
  exact (twin_reset_save (hoptions'.trans hoptions.symm) hseamless).continuesAs

/-- **Saving and resuming layers is seamless.**  A layer may lie on any number of others, and these on
any source.  If resuming that source is seamless, then whatever a layer of this kind came to, when any
layer of the kind is reset to what is unread of the innermost text and to what was saved, from there on
the two give the same and look the same.  For lexers nothing has to be assumed. -/
theorem resume_continuesAs :
    (∀ (σ : Type) [TokenSource σ] (unread : σ → List Char) (depth : Nat)
      (origin layer other : Layer (Nest σ depth)),
      Reachable origin layer → Reachable origin other →
      Seamless unread (Nest.innermost depth layer.source) (Nest.innermost depth other.source) →
      ContinuesAs (other.reset (unread (Nest.innermost depth layer.source)) (some layer.save)) layer)
    ∧ ∀ (declared : List Declaration) (categories : CategoryRegistry) (options : LexerOptions)
      (lexicon : Lexicon), Lexicon.ofStates declared categories options = .ok lexicon →
      ∀ (depth : Nat) (origin layer other : Layer (Nest (Lexer lexicon) depth)),
      Reachable origin layer → Reachable origin other →
      ContinuesAs (other.reset (Nest.innermost depth layer.source).ahead (some layer.save))
        layer := by
  constructor
  · intro σ _ unread depth origin layer other h hother hinnermost
    exact continuesAs_reset_save h hother hinnermost
  · intro declared categories options lexicon hcompiled depth origin layer other h hother
    exact continuesAs_reset_save h hother (Lexer.seamless hcompiled _ _)

/-! ### An outline interrupted between two dedents -/

/-- Words, white space and line breaks. -/
def outlineStates : List Declaration :=
  [("outline", [.literal "word" "a", .regex "ws" " +", (Rule.literal "nl" "\n").withLineBreaks])]

def outlineLexicon : Lexicon :=
  (Lexicon.ofStates outlineStates .empty .standard).toOption.get (by decide +kernel)

/-- A layer on a layer. -/
def outlineLayer : Layer (Nest (Lexer outlineLexicon) 1) :=
  initial (initial (Lexer.initial outlineLexicon) .standard : Layer (Lexer outlineLexicon)) .standard

/-- The outer layer where the first of two dedents has been given.  The layer below has the other one
in its queue, and the word behind it has been read. -/
def outlineBetween : Layer (Nest (Lexer outlineLexicon) 1) :=
  TokenSource.advance^[6] (outlineLayer.reset "a\n a\n  a\na\na".toList none)

/-- The layer below the outer one. -/
def outlineInner : Layer (Lexer outlineLexicon) :=
  outlineBetween.source

/-- The unused layer goes on where the interrupted one stopped. -/
theorem resume_continuesAs_outlineBetween :
    Lexicon.ofStates outlineStates .empty .standard = .ok outlineLexicon
      ∧ outlineInner.queue.map (·.kind) = ["dedent"]
      ∧ outlineInner.here.map (·.kind) = some "word"
      ∧ outlineInner.source.ahead = "\na".toList
      ∧ ContinuesAs
          ((outlineLayer.reset [] none).reset "\na".toList (some outlineBetween.save))
          outlineBetween := by
  have hcompiled : Lexicon.ofStates outlineStates .empty .standard = .ok outlineLexicon :=
    eq_ok_get_toOption _
  have hqueue : outlineInner.queue.map (·.kind) = ["dedent"] := by decide +kernel
  have hhere : outlineInner.here.map (·.kind) = some "word" := by decide +kernel
  have hahead : outlineInner.source.ahead = "\na".toList := by decide +kernel
  have hstart : Reachable outlineLayer (outlineLayer.reset "a\n a\n  a\na\na".toList none) :=
    .reset _
  have hunused : Reachable outlineLayer (outlineLayer.reset [] none) := .reset _
  have hcontinues := resume_continuesAs.2 _ _ _ _ hcompiled 1 outlineLayer outlineBetween
    (outlineLayer.reset [] none) (hstart.iterate_advance 6) hunused
  exact ⟨hcompiled, hqueue, hhere, hahead, hahead ▸ hcontinues⟩

end Layer

end Lexical
