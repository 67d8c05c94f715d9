import Lexical.Proofs.Indent.Turn

/-!
# Rounds of the loops of a layer

The loop that measures the next line and the one that reads on in a line are opened here, once, with one
lemma for each way that a round can go.  Each is told by what the layer takes in the round: looking ahead is
taking, with the token put back (`Layer.look_eq_of_take`).

In front of the second loop a call measures the first line and empties the queue
(`Layer.next_of_settled`, `Layer.next_of_queued`).
-/

namespace Lexical

lemma Outcome.after_after {σ α : Type} (outcome : Outcome σ α) (events more : List Event) :
    (outcome.after more).after events = outcome.after (events ++ more) := by
  simp [after]

namespace Layer

variable {σ : Type} [TokenSource σ] {layer later : Layer σ} {token : Token}

/-! ## Looking ahead and taking -/

lemma result_take (layer : Layer σ) : layer.take.result = layer.look.result := by
  unfold take look
  cases layer.here <;> rfl

lemma state_take (layer : Layer σ) : layer.take.state = { layer.look.state with here := none } := by
  obtain ⟨source, options, width, enclosing, queue, here⟩ := layer
  cases here <;> rfl

lemma here_look (h : layer.look.result = .ok (some token)) : layer.look.state.here = some token := by
  unfold look at h ⊢
  cases hhere : layer.here with
  | some ahead =>
    rw [hhere] at h
    rw [← Except.ok.inj h]
    exact hhere
  | none =>
    simp only [hhere, Outcome.result_mapState] at h
    simp [h]

/-- A token that is looked at is the one that is taken, and is kept. -/
lemma look_eq_of_take (h : layer.take.result = .ok (some token)) :
    layer.look =
      ⟨.ok (some token), { layer.take.state with here := some token }, layer.look.events⟩ := by
  rw [result_take] at h
  have hhere := here_look h
  rw [state_take]
  cases hlook : layer.look with
  | mk result state events =>
  obtain ⟨source, options, width, enclosing, queue, here⟩ := state
  rw [hlook] at h hhere
  obtain rfl : result = .ok (some token) := h
  obtain rfl : here = some token := hhere
  rfl

/-- Where there is no token to be looked at, looking is taking. -/
lemma look_eq_take {result : Except LexerError (Option Token)} (h : layer.take.result = result)
    (hnot : ∀ token, result ≠ .ok (some token)) :
    layer.look = ⟨result, layer.take.state, layer.look.events⟩ := by
  have hresult : layer.look.result = result := (result_take layer).symm.trans h
  rw [Outcome.eq_of_result hresult, state_take]
  unfold look at hresult ⊢
  cases hhere : layer.here with
  | some token =>
    rw [hhere] at hresult
    exact absurd hresult.symm (hnot token)
  | none =>
    simp only [hhere, Outcome.result_mapState] at hresult
    rcases result with error | _ | token
    · simp [hresult]
    · simp [hresult]
    · exact absurd rfl (hnot token)

lemma options_take (layer : Layer σ) : layer.take.state.options = layer.options :=
  (take_readsOn layer).options_eq

/-- Behind a token that is taken nothing is read ahead. -/
lemma drop_take (layer : Layer σ) :
    ({ layer.take.state with here := none } : Layer σ) = layer.take.state := by
  rw [state_take]

/-! ## Rounds -/

section Measuring

variable {next : Token} {error : LexerError} (fuel : Nat)

lemma nextWidthWithin_of_error (h : layer.take.result = .error error) :
    nextWidthWithin (fuel + 1) layer =
      ⟨.error error, layer.take.state, layer.look.events⟩ := by
  rw [nextWidthWithin, look_eq_take h (by simp)]

lemma nextWidthWithin_of_end (h : layer.take.result = .ok none) :
    nextWidthWithin (fuel + 1) layer = ⟨.ok none, layer.take.state, layer.look.events⟩ := by
  rw [nextWidthWithin, look_eq_take h (by simp)]

lemma nextWidthWithin_of_newline (h : layer.take.result = .ok (some token))
    (hnewline : token.kind = layer.options.newline) :
    nextWidthWithin (fuel + 1) layer =
      (nextWidthWithin fuel layer.take.state).after layer.look.events := by
  rw [← options_take] at hnewline
  rw [nextWidthWithin, look_eq_of_take h]
  dsimp only
  rw [if_pos hnewline, drop_take]

lemma nextWidthWithin_of_bare (h : layer.take.result = .ok (some token))
    (hnewline : token.kind ≠ layer.options.newline)
    (hwhitespace : token.kind ≠ layer.options.whitespace) :
    nextWidthWithin (fuel + 1) layer =
      ⟨.ok (some 0), { layer.take.state with here := some token }, layer.look.events⟩ := by
  rw [← options_take] at hnewline hwhitespace
  rw [nextWidthWithin, look_eq_of_take h]
  dsimp only
  rw [if_neg hnewline, if_neg hwhitespace]

lemma nextWidthWithin_of_whitespace_error (h : layer.take.result = .ok (some token))
    (hnewline : token.kind ≠ layer.options.newline)
    (hwhitespace : token.kind = layer.options.whitespace)
    (hnext : layer.take.state.take.result = .error error) :
    nextWidthWithin (fuel + 1) layer =
      ⟨.error error, layer.take.state.take.state,
        layer.look.events ++ layer.take.state.look.events⟩ := by
  rw [← options_take] at hnewline hwhitespace
  rw [nextWidthWithin, look_eq_of_take h]
  dsimp only
  rw [if_neg hnewline, if_pos hwhitespace, drop_take, look_eq_take hnext (by simp)]

lemma nextWidthWithin_of_whitespace_end (h : layer.take.result = .ok (some token))
    (hnewline : token.kind ≠ layer.options.newline)
    (hwhitespace : token.kind = layer.options.whitespace)
    (hnext : layer.take.state.take.result = .ok none) :
    nextWidthWithin (fuel + 1) layer =
      ⟨.ok none, layer.take.state.take.state,
        layer.look.events ++ layer.take.state.look.events⟩ := by
  rw [← options_take] at hnewline hwhitespace
  rw [nextWidthWithin, look_eq_of_take h]
  dsimp only
  rw [if_neg hnewline, if_pos hwhitespace, drop_take, look_eq_take hnext (by simp)]

lemma nextWidthWithin_of_blank (h : layer.take.result = .ok (some token))
    (hnewline : token.kind ≠ layer.options.newline)
    (hwhitespace : token.kind = layer.options.whitespace)
    (hnext : layer.take.state.take.result = .ok (some next))
    (hblank : next.kind = layer.options.newline) :
    nextWidthWithin (fuel + 1) layer =
      (nextWidthWithin fuel layer.take.state.take.state).after
        (layer.look.events ++ layer.take.state.look.events) := by
  rw [← options_take, ← options_take] at hblank
  rw [← options_take] at hnewline hwhitespace
  rw [nextWidthWithin, look_eq_of_take h]
  dsimp only
  rw [if_neg hnewline, if_pos hwhitespace, drop_take, look_eq_of_take hnext]
  dsimp only
  rw [if_pos hblank, drop_take]

lemma nextWidthWithin_of_indented (h : layer.take.result = .ok (some token))
    (hnewline : token.kind ≠ layer.options.newline)
    (hwhitespace : token.kind = layer.options.whitespace)
    (hnext : layer.take.state.take.result = .ok (some next))
    (hfilled : next.kind ≠ layer.options.newline) :
    nextWidthWithin (fuel + 1) layer =
      ⟨.ok (some token.value.length), { layer.take.state.take.state with here := some next },
        layer.look.events ++ layer.take.state.look.events⟩ := by
  rw [← options_take, ← options_take] at hfilled
  rw [← options_take] at hnewline hwhitespace
  rw [nextWidthWithin, look_eq_of_take h]
  dsimp only
  rw [if_neg hnewline, if_pos hwhitespace, drop_take, look_eq_of_take hnext]
  dsimp only
  rw [if_neg hfilled]

end Measuring

section Continuing

variable {error : LexerError} {events : List Event} (fuel : Nat)

lemma continueWithin_of_error (h : layer.take.result = .error error) :
    continueWithin (fuel + 1) layer = ⟨.error error, layer.take.state, layer.take.events⟩ := by
  rw [continueWithin, Outcome.eq_of_result h]

lemma continueWithin_of_end (h : layer.take.result = .ok none) :
    continueWithin (fuel + 1) layer = layer.take.state.finish.after layer.take.events := by
  rw [continueWithin, Outcome.eq_of_result h]

lemma continueWithin_of_word (h : layer.take.result = .ok (some token))
    (hnewline : token.kind ≠ layer.options.newline)
    (hwhitespace : token.kind ≠ layer.options.whitespace) :
    continueWithin (fuel + 1) layer =
      ⟨.ok (some token), layer.take.state, layer.take.events⟩ := by
  rw [← options_take] at hnewline hwhitespace
  rw [continueWithin, Outcome.eq_of_result h]
  dsimp only
  rw [if_neg hnewline, if_neg hwhitespace]

lemma continueWithin_of_whitespace (h : layer.take.result = .ok (some token))
    (hnewline : token.kind ≠ layer.options.newline)
    (hwhitespace : token.kind = layer.options.whitespace) :
    continueWithin (fuel + 1) layer =
      (continueWithin fuel layer.take.state).after layer.take.events := by
  rw [← options_take] at hnewline hwhitespace
  rw [continueWithin, Outcome.eq_of_result h]
  dsimp only
  rw [if_neg hnewline, if_pos hwhitespace]

lemma continueWithin_of_newline_error (h : layer.take.result = .ok (some token))
    (hnewline : token.kind = layer.options.newline)
    (hwidth : layer.take.state.nextWidth = ⟨.error error, later, events⟩) :
    continueWithin (fuel + 1) layer = ⟨.error error, later, layer.take.events ++ events⟩ := by
  rw [← options_take] at hnewline
  rw [continueWithin, Outcome.eq_of_result h]
  dsimp only
  rw [if_pos hnewline, hwidth]

lemma continueWithin_of_newline_end (h : layer.take.result = .ok (some token))
    (hnewline : token.kind = layer.options.newline)
    (hwidth : layer.take.state.nextWidth = ⟨.ok none, later, events⟩) :
    continueWithin (fuel + 1) layer = later.finish.after (layer.take.events ++ events) := by
  rw [← options_take] at hnewline
  rw [continueWithin, Outcome.eq_of_result h]
  dsimp only
  rw [if_pos hnewline, hwidth]

lemma continueWithin_of_newline {width : Nat} (h : layer.take.result = .ok (some token))
    (hnewline : token.kind = layer.options.newline)
    (hwidth : layer.take.state.nextWidth = ⟨.ok (some width), later, events⟩) :
    continueWithin (fuel + 1) layer =
      (later.startLine width token.position).after (layer.take.events ++ events) := by
  rw [← options_take] at hnewline
  rw [continueWithin, Outcome.eq_of_result h]
  dsimp only
  rw [if_pos hnewline, hwidth]

end Continuing

/-! ## Calls -/

section Settling

variable {error : LexerError} {events : List Event}

/-- A width that is known is not measured again. -/
lemma settle_of_width {current : Nat} (h : layer.width = some current) :
    layer.settle = ⟨.ok (), layer, []⟩ := by
  rw [settle, h, Option.isSome_some, if_pos rfl]

lemma settle_of_nextWidth {width : Option Nat} (hunknown : layer.width = none)
    (h : layer.nextWidth = ⟨.ok width, later, events⟩) :
    layer.settle = ⟨.ok (), { later with width }, events⟩ := by
  rw [settle, hunknown, h]
  rfl

lemma settle_of_nextWidth_error (hunknown : layer.width = none)
    (h : layer.nextWidth = ⟨.error error, later, events⟩) :
    layer.settle = ⟨.error error, later, events⟩ := by
  rw [settle, hunknown, h]
  rfl

end Settling

lemma settles_of_settled (h : layer.settle.result = .ok ()) : Settles layer layer.settle.state := by
  rcases layer.settle_cases with ⟨error, -, hresult⟩ | ⟨hsettles, -⟩
  · simp [h] at hresult
  · exact hsettles

/-- With nothing queued a call reads on, once the first line has been measured. -/
lemma next_of_settled (h : layer.settle.result = .ok ()) (hqueue : layer.queue = []) :
    layer.next = (continueWithin layer.settle.state.sourceBudget layer.settle.state).after
      layer.settle.events := by
  have hsettled : layer.settle.state.queue = [] := (settles_of_settled h).queue_eq.trans hqueue
  unfold next
  rw [Outcome.eq_of_result h]
  simp only [pop, hsettled]

/-- With something queued a call gives the first of it. -/
lemma next_of_queued {queue : List Token} (h : layer.settle.result = .ok ())
    (hqueue : layer.queue = token :: queue) :
    layer.next = ⟨.ok (some token), { layer.settle.state with queue }, layer.settle.events⟩ := by
  have hsettled : layer.settle.state.queue = token :: queue :=
    (settles_of_settled h).queue_eq.trans hqueue
  unfold next
  rw [Outcome.eq_of_result h]
  simp only [pop, hsettled]

lemma next_of_unsettled {error : LexerError} (h : layer.settle.result = .error error) :
    layer.next = ⟨.error error, layer.settle.state, layer.settle.events⟩ := by
  unfold next
  rw [Outcome.eq_of_result h]

end Layer

end Lexical
