import Lexical.Proofs.Indent.Resume
import Lexical.Proofs.Indent.Widths

/-!
# The outermost block

The base of a layer is the width of its outermost block (`Layer.base`): the last of the widths around the
current block, or the width of the current block if it is the only one.  It is the width of the first line
that is not blank.  Beginning a line puts a width in front or takes some off the front, so it leaves the
base alone, and so does resuming.

The end of the source is different.  It closes all blocks but keeps the width of the innermost one, which is
the base from then on.  A call that comes to the end inside a block (`Layer.EndsInside`) is the only one
that changes the base (`Layer.base_of_runs`), and a layer that is resumed behind it takes a line at the old
base for one that stands at no block (`Layer.result_next_outlineResumed`).
-/

namespace Lexical

namespace Layer

variable {σ : Type}

/-- The width of the outermost block. -/
def base (layer : Layer σ) : Option Nat :=
  layer.enclosing.getLast?.or layer.width

lemma base_of_enclosing_eq_nil {layer : Layer σ} (h : layer.enclosing = []) :
    layer.base = layer.width := by
  simp [base, h]

/-- A base that is known is the last of all widths. -/
lemma getLast?_of_base {layer : Layer σ} {outermost : Nat} (h : layer.base = some outermost) :
    (layer.width.getD 0 :: layer.enclosing).getLast? = some outermost := by
  unfold base at h
  rw [List.getLast?_cons]
  cases hlast : layer.enclosing.getLast? with
  | some outer => simpa [hlast] using h
  | none =>
    have hwidth : layer.width = some outermost := by simpa [hlast] using h
    simp [hwidth]

/-- Unwinding keeps the outermost width.  The induction is on the widths around the block. -/
lemma getLast?_unwind (width current : Nat) (enclosing : List Nat) :
    ((unwind width current enclosing).1 :: (unwind width current enclosing).2).getLast? =
      (current :: enclosing).getLast? := by
  induction enclosing generalizing current with
  | nil => rfl
  | cons outer enclosing ih =>
    unfold unwind
    split_ifs
    · rw [ih outer, List.getLast?_cons_cons]
    · rfl

variable [TokenSource σ] {origin layer later : Layer σ} {outermost : Nat}

/-- A call on the layer comes to the end while blocks are open. -/
structure EndsInside (layer : Layer σ) : Prop where
  inside : layer.enclosing ≠ []
  ends : MeetsEnd layer

/-! ## Steps -/

lemma ReadsOn.base_eq (h : ReadsOn layer later) : later.base = layer.base := by
  rw [base, base, h.enclosing_eq, h.width_eq]

/-- A base that is known is not measured again. -/
lemma Settles.base_eq (h : Settles layer later) (hbase : layer.base = some outermost) :
    later.base = some outermost := by
  unfold base at hbase ⊢
  rw [h.enclosing_eq]
  cases hlast : layer.enclosing.getLast? with
  | some outer => simpa [hlast] using hbase
  | none =>
    have hwidth : layer.width = some outermost := by simpa [hlast] using hbase
    simp [h.width_eq (by simp [hwidth]), hwidth]

lemma startLine_base (hqueue : layer.queue = []) (hbase : layer.base = some outermost) (width : Nat)
    (position : Position) : (layer.startLine width position).state.base = some outermost := by
  have hlast := getLast?_of_base hbase
  rcases Nat.lt_trichotomy width (layer.width.getD 0) with hlt | heq | hgt
  · rw [startLine_of_gt position hlt]
    rcases dedentTo_cases position hqueue hlt with
      ⟨outer, closed, kept, -, hunwind, -, hstate⟩ | ⟨-, -, hstate⟩
    · have hkept := getLast?_unwind width (layer.width.getD 0) layer.enclosing
      rw [hunwind, hlast, List.getLast?_cons] at hkept
      rw [hstate, base, ← hkept]
      cases kept.getLast? <;> rfl
    · rw [hstate, hbase]
  · rw [startLine_of_eq position heq]
    exact hbase
  · rw [startLine_of_lt position hgt]
    simp only [base, hlast, Option.some_or]

/-- What does not come to the end keeps the base. -/
lemma Ongoing.base_eq {outcome : Outcome (Layer σ) (Option Token)} (h : Ongoing layer outcome)
    (hqueue : layer.queue = []) (hbase : layer.base = some outermost) :
    outcome.state.base = some outermost := by
  cases h with
  | fails hread error events => exact hread.base_eq.trans hbase
  | passes hread token events => exact hread.base_eq.trans hbase
  | begins hread width position hline events =>
    exact startLine_base (hread.queue_eq.trans hqueue) (hread.base_eq.trans hbase) width position

/-- Outside of all blocks the end closes none. -/
lemma Turn.base_eq {outcome : Outcome (Layer σ) (Option Token)} (h : Turn layer outcome)
    (hqueue : layer.queue = []) (henclosing : layer.enclosing = [])
    (hbase : layer.base = some outermost) : outcome.state.base = some outermost := by
  cases h with
  | fails hread error events => exact hread.base_eq.trans hbase
  | passes hread token hfrom events => exact hread.base_eq.trans hbase
  | begins hread width position events =>
    exact startLine_base (hread.queue_eq.trans hqueue) (hread.base_eq.trans hbase) width position
  | ends hread events =>
    rw [finish_of_nil (hread.queue_eq.trans hqueue) (hread.enclosing_eq.trans henclosing)]
    exact hread.base_eq.trans hbase

/-- A call that does not end inside a block keeps the base, which may just have been measured. -/
lemma next_base (hinside : ¬ EndsInside layer) (hbase : layer.settle.state.base = some outermost) :
    layer.next.state.base = some outermost := by
  rcases layer.settle_cases with ⟨error, -, hresult⟩ | ⟨hsettles, hresult⟩
  · rw [next_of_unsettled hresult]
    exact hbase
  cases hqueue : layer.queue with
  | cons token queue =>
    rw [next_of_queued hresult hqueue]
    exact hbase
  | nil =>
    rw [next_of_settled hresult hqueue, Outcome.state_after]
    have hsettled : layer.settle.state.queue = [] := hsettles.queue_eq.trans hqueue
    by_cases henclosing : layer.enclosing = []
    · exact (continueWithin_turn _ _).base_eq hsettled (hsettles.enclosing_eq.trans henclosing)
        hbase
    · rcases continueWithin_ongoing layer.settle.state.sourceBudget layer.settle.state with
        hend | hongoing
      · exact absurd ⟨henclosing, hqueue, hresult, hend⟩ hinside
      · exact hongoing.base_eq hsettled hbase

/-- The first line that is not blank sets the base. -/
lemma next_base_of_lineAhead {width : Nat} (hwidth : layer.width = none)
    (henclosing : layer.enclosing = []) (hline : LineAhead layer width later)
    (hends : ¬ layer.next.Stalled) : layer.next.state.base = some width := by
  refine next_base (fun hinside => hinside.inside henclosing) ?_
  have hread := nextWidth_readsOn layer
  rcases nextWidthWithin_of_lineAhead layer.sourceBudget hline with ⟨stop, hstop⟩ | ⟨hresult, -⟩
  · have hsettle := settle_of_nextWidth_error hwidth (Outcome.eq_of_result hstop)
    refine absurd ⟨stop, ?_⟩ hends
    rw [next_of_unsettled (by rw [hsettle])]
  · have hsettle := settle_of_nextWidth hwidth (Outcome.eq_of_result hresult)
    have henclosed : layer.nextWidth.state.enclosing = [] := hread.enclosing_eq.trans henclosing
    rw [hsettle]
    exact base_of_enclosing_eq_nil henclosed

/-! ## Runs -/

/-- What a layer comes to if no call comes to the end inside a block.  In between it may be resumed, on
any text, from what it saved. -/
inductive Runs (layer : Layer σ) : Layer σ → Prop
  | refl : Runs layer layer
  | next {later : Layer σ} (h : Runs layer later) (hinside : ¬ EndsInside later) :
      Runs layer later.next.state
  | resume {later : Layer σ} (h : Runs layer later) (other : Layer σ) (text : List Char) :
      Runs layer (other.reset text (some later.save))

/-- The induction is on the run; a resumed layer has the widths that were saved. -/
lemma Runs.base_eq (h : Runs layer later) (hbase : layer.base = some outermost) :
    later.base = some outermost := by
  induction h with
  | refl => exact hbase
  | @next later h hinside ih =>
    refine next_base hinside ?_
    rcases later.settle_cases with ⟨error, hread, -⟩ | ⟨hsettles, -⟩
    · exact hread.base_eq.trans ih
    · exact hsettles.base_eq ih
  | @resume later h other text ih =>
    simpa only [base, reset, save, List.reverse_reverse] using ih

/-- The call gives a newline and opens or closes no block. -/
structure StaysOutermost (layer : Layer σ) (outermost : Nat) (position : Position)
    (outcome : Outcome (Layer σ) (Option Token)) : Prop where
  result_eq : outcome.result = .ok (some (.synthetic layer.options.newline position))
  enclosing_eq : outcome.state.enclosing = []
  width_eq : outcome.state.width = some outermost

/-- Outside of all blocks a line at the base goes on in the outermost one. -/
lemma Meets.staysOutermost {position : Position} (h : Meets layer outermost position later)
    (henclosing : layer.enclosing = []) (hwidth : layer.width = some outermost)
    (hends : ¬ layer.next.Stalled) :
    StaysOutermost layer outermost position layer.next := by
  rcases h.next_eq with hstalled | ⟨settled, events, hsettles, hread, hnext⟩
  · exact absurd hstalled hends
  have hlater : later.width = some outermost :=
    (hread.width_eq.trans (hsettles.width_eq (by simp [hwidth]))).trans hwidth
  have hoptions : later.options = layer.options := hread.options_eq.trans hsettles.options_eq
  rw [hnext, startLine_of_eq position (by rw [hlater, Option.getD_some]), hoptions]
  exact ⟨rfl, (hread.enclosing_eq.trans hsettles.enclosing_eq).trans henclosing, hlater⟩

/-- The end closes all blocks, but leaves the width of the innermost one. -/
lemma EndsInside.width_next (h : EndsInside layer) (hwidth : layer.width.isSome)
    (hends : ¬ layer.next.Stalled) :
    layer.next.state.enclosing = [] ∧ layer.next.state.width = layer.width := by
  rcases h.ends.next_eq with hstalled | ⟨settled, last, events, hsettles, hread, hnext⟩
  · exact absurd hstalled hends
  have hqueue : last.queue = [] :=
    (hread.queue_eq.trans hsettles.queue_eq).trans h.ends.queue_eq
  have henclosing : last.enclosing = layer.enclosing :=
    hread.enclosing_eq.trans hsettles.enclosing_eq
  obtain ⟨outer, enclosing, hcons⟩ := List.exists_cons_of_ne_nil h.inside
  rw [hnext, finish_of_cons hqueue (henclosing.trans hcons)]
  exact ⟨rfl, hread.width_eq.trans (hsettles.width_eq hwidth)⟩

/-- Inside a block the width is not that of the outermost one, so the base is another one behind the
end. -/
lemma EndsInside.base_next_ne (h : EndsInside layer) (hnested : Nested layer)
    (hbase : layer.base = some outermost) (hends : ¬ layer.next.Stalled) :
    layer.next.state.base ≠ some outermost := by
  have hlast : layer.enclosing.getLast h.inside = outermost := by
    simpa [base, List.getLast?_eq_some_getLast h.inside] using hbase
  have hmem : outermost ∈ layer.save.stack :=
    List.mem_reverse.2 (hlast ▸ List.getLast_mem h.inside)
  obtain ⟨current, hwidth, hlt⟩ := hnested.below outermost hmem
  obtain ⟨henclosing, hkept⟩ := h.width_next (by simp [hwidth]) hends
  rw [base_of_enclosing_eq_nil henclosing, hkept, hwidth]
  exact fun heq => Nat.ne_of_gt hlt (Option.some.inj heq)

/-- **The base stays, but for an end inside a block.**  The first line that is not blank sets the base.
No run in which the end comes outside of all blocks changes it, and where all blocks are closed it is the
current width, so that a line at the base goes on in the outermost block.  A call that comes to the end
inside a block does change it. -/
theorem base_of_runs :
    (∀ (layer later : Layer σ) (width : Nat), layer.width = none → layer.enclosing = [] →
      LineAhead layer width later → ¬ layer.next.Stalled → layer.next.state.base = some width) ∧
    (∀ (layer later : Layer σ) (outermost : Nat), Runs layer later →
      layer.base = some outermost → later.base = some outermost ∧
        (later.enclosing = [] → later.width = some outermost ∧
          ∀ position ahead, Meets later outermost position ahead → ¬ later.next.Stalled →
            StaysOutermost later outermost position later.next)) ∧
    ∀ (origin layer : Layer σ) (given : List Token) (outermost : Nat),
      Reached origin layer given → layer.base = some outermost → ¬ layer.next.Stalled →
      (layer.next.state.base = some outermost ↔ ¬ EndsInside layer) := by
  refine ⟨fun layer later width hwidth henclosing hline hends =>
    next_base_of_lineAhead hwidth henclosing hline hends, ?_, ?_⟩
  · intro layer later outermost hruns hbase
    have hlater := hruns.base_eq hbase
    refine ⟨hlater, fun henclosing => ?_⟩
    rw [base_of_enclosing_eq_nil henclosing] at hlater
    exact ⟨hlater, fun position ahead hmeets hends =>
      hmeets.staysOutermost henclosing hlater hends⟩
  · intro origin layer given outermost hreached hbase hends
    refine ⟨fun hkept hinside => hinside.base_next_ne hreached.nested hbase hends hkept,
      fun hinside => (Runs.next .refl hinside).base_eq hbase⟩

/-! ### An outline that ends inside a block -/

/-- A block that ends before two lines at the base, and one that ends with the text. -/
def steppedOutline : List Token :=
  let white (value : String) (position : Position) : Token :=
    { Token.synthetic "ws" position with value }
  [.synthetic "a" ⟨0, 1, 1⟩, .synthetic "nl" ⟨1, 1, 2⟩,
    white "  " ⟨2, 2, 1⟩, .synthetic "b" ⟨4, 2, 3⟩, .synthetic "nl" ⟨5, 2, 4⟩,
    .synthetic "c" ⟨6, 3, 1⟩, .synthetic "nl" ⟨7, 3, 2⟩,
    .synthetic "d" ⟨8, 4, 1⟩, .synthetic "nl" ⟨9, 4, 2⟩,
    white "  " ⟨10, 5, 1⟩, .synthetic "e" ⟨12, 5, 3⟩]

def steppedLayer (calls : Nat) : Layer (Script steppedOutline ⟨13, 5, 4⟩) :=
  scriptedLayer steppedOutline ⟨13, 5, 4⟩ calls

/-- Behind the first block, resumed from what was saved. -/
def steppedResumed : Layer (Script steppedOutline ⟨13, 5, 4⟩) :=
  (steppedLayer 0).reset [] (some (steppedLayer 5).save)

lemma exists_lineAhead_steppedLayer : ∃ later, LineAhead (steppedLayer 0) 0 later := by
  refine ⟨_, [], _, _, .cons rfl (.nil _), rfl, ?_, ?_⟩
  · decide +kernel
  · decide +kernel

lemma exists_meets_steppedResumed : ∃ ahead, Meets steppedResumed 0 ⟨7, 3, 2⟩ ahead := by
  refine ⟨_, rfl, rfl, _, _, .refl _, rfl, rfl, rfl, [], _, _, .cons rfl (.nil _), rfl, ?_, ?_⟩
  · decide +kernel
  · decide +kernel

theorem base_of_runs_steppedLayer :
    (steppedLayer 0).width = none ∧ (steppedLayer 0).enclosing = [] ∧
      (∃ later, LineAhead (steppedLayer 0) 0 later) ∧ ¬ (steppedLayer 0).next.Stalled ∧
      (steppedLayer 1).base = some 0 ∧
      Runs (steppedLayer 1) steppedResumed ∧ steppedResumed.enclosing = [] ∧
      (∃ ahead, Meets steppedResumed 0 ⟨7, 3, 2⟩ ahead) ∧ ¬ steppedResumed.next.Stalled ∧
      StaysOutermost steppedResumed 0 ⟨7, 3, 2⟩ steppedResumed.next ∧
      (∃ given, Reached (steppedLayer 0) (steppedLayer 9) given) ∧
      (steppedLayer 9).base = some 0 ∧ ¬ (steppedLayer 9).next.Stalled ∧
      EndsInside (steppedLayer 9) := by
  obtain ⟨hfirst, hruns, hends⟩ := @base_of_runs (Script steppedOutline ⟨13, 5, 4⟩) _
  have hreached (calls : Nat) := reached_scriptedLayer steppedOutline ⟨13, 5, 4⟩ calls
  obtain ⟨later, hline⟩ := exists_lineAhead_steppedLayer
  have hgoes : ¬ (steppedLayer 0).next.Stalled := Outcome.not_stalled_of_ok rfl
  -- None of the calls up to the end of the first block ends inside it.
  have hstep (calls : Nat) {token : Token} (hruns : Runs (steppedLayer 1) (steppedLayer calls))
      (hbase : (steppedLayer calls).base = some 0)
      (hresult : (steppedLayer calls).next.result = .ok (some token))
      (hnext : (steppedLayer (calls + 1)).base = some 0) :
      Runs (steppedLayer 1) (steppedLayer (calls + 1)) := by
    obtain ⟨given, hreached⟩ := hreached calls
    have hsucc := scriptedLayer_succ steppedOutline ⟨13, 5, 4⟩ calls
    unfold steppedLayer at hnext ⊢
    rw [hsucc] at hnext ⊢
    exact hruns.next
      ((hends _ _ given 0 hreached hbase (Outcome.not_stalled_of_ok hresult)).1 hnext)
  have hindent := hstep 1 .refl rfl rfl rfl
  have hword := hstep 2 hindent rfl rfl rfl
  have hdedent := hstep 3 hword rfl rfl rfl
  have hbehind := hstep 4 hdedent rfl rfl rfl
  have hresumed : Runs (steppedLayer 1) steppedResumed := hbehind.resume (steppedLayer 0) []
  obtain ⟨ahead, hmeets⟩ := exists_meets_steppedResumed
  have hgoes' : ¬ steppedResumed.next.Stalled := Outcome.not_stalled_of_ok rfl
  have hstays := ((hruns _ _ 0 hresumed rfl).2 rfl).2 _ ahead hmeets hgoes'
  obtain ⟨given, hnine⟩ := hreached 9
  have hgoes'' : ¬ (steppedLayer 9).next.Stalled := Outcome.not_stalled_of_ok rfl
  have hinside : EndsInside (steppedLayer 9) := by
    have hchanged : (steppedLayer 9).next.state.base ≠ some 0 := by decide +kernel
    exact not_not.1 fun hnot => hchanged ((hends _ _ given 0 hnine rfl hgoes'').2 hnot)
  exact ⟨rfl, rfl, ⟨later, hline⟩, hgoes, hfirst _ later 0 rfl rfl hline hgoes, hresumed, rfl,
    ⟨ahead, hmeets⟩, hgoes', hstays, ⟨given, hnine⟩, rfl, hgoes'', hinside⟩

/-! ### A text in two pieces -/

/-- The first piece ends inside a block. -/
def outlineRun (calls : Nat) : Layer (Lexer outlineLexicon) :=
  TokenSource.advance^[calls]
    ((initial (Lexer.initial outlineLexicon) .standard).reset "a\n a".toList none)

/-- The second piece begins with a line at the base. -/
def outlineResumed : Layer (Lexer outlineLexicon) :=
  (outlineRun 0).reset "\na".toList (some (outlineRun 5).save)

/-- The end of the first piece has closed the block, but the line is measured against its width. -/
theorem result_next_outlineResumed :
    (outlineRun 1).base = some 0 ∧ (outlineRun 4).next.result = .ok none ∧
      (outlineRun 5).enclosing = [] ∧ (outlineRun 5).width = some 1 ∧
      outlineResumed.base = some 1 ∧
      outlineResumed.next.result = .error (.inconsistentIndentation ⟨5, 3, 1⟩ 0 1) := by
  decide +kernel

end Layer

end Lexical
