import Lexical.Proofs.Indent.Blocks
import Lexical.Proofs.Indent.Lines
import Lexical.Proofs.Indent.Turn

/-!
# Layers implement the off-side rule

A layer pulls its tokens one by one and looks ahead by one, while `offSide` has all lines before it.
The two agree (`Layer.collect_initial_offSide`).

What a layer still has to read is told by `Layer.Awaits`.  Measuring the next line is worked out in
terms of lines first (`Layer.nextWidth_measures`), then beginning a line (`Layer.startLine_gives`).
The invariant between calls is `Layer.Expects`: what is queued and what `OffSide.fromWithin` says of
the rest is what the layer is going to give.
-/

namespace Lexical

/-! ## Unwinding sorted widths -/

/-- The induction is on the widths around the block; they get smaller outwards, so the first of them
that is not greater than the width of the line decides. -/
lemma Layer.unwind_of_sorted {width current : Nat} {enclosing : List Nat}
    (hsorted : (current :: enclosing).Pairwise (· > ·)) (hlt : width < current) :
    match enclosing.idxOf? width with
    | some index => unwind width current enclosing = (width, enclosing.drop (index + 1))
    | none => (unwind width current enclosing).1 ≠ width ∧
        (unwind width current enclosing).1 = OffSide.nearest width current enclosing := by
  induction enclosing generalizing current with
  | nil =>
    have hne : current ≠ width := Nat.ne_of_gt hlt
    exact ⟨hne, rfl⟩
  | cons outer enclosing ih =>
    have hinner := hsorted.of_cons
    rw [unwind, if_pos hlt]
    -- The block around is still too wide, has the width of the line, or is too narrow already.
    rcases Nat.lt_trichotomy width outer with hless | rfl | hgreater
    · have hih := ih hinner hless
      have hne : outer ≠ width := Nat.ne_of_gt hless
      have hidx : (outer :: enclosing).idxOf? width = (enclosing.idxOf? width).map (· + 1) := by
        simp [List.idxOf?_cons, hne]
      have hnearest : OffSide.nearest width current (outer :: enclosing) =
          OffSide.nearest width outer enclosing := by
        simp [OffSide.nearest, Nat.not_le.mpr hless]
      rw [hidx, hnearest]
      cases hfound : enclosing.idxOf? width with
      | none =>
        rw [hfound] at hih
        exact hih
      | some index =>
        rw [hfound] at hih
        exact hih
    · have hidx : (width :: enclosing).idxOf? width = some 0 := by simp [List.idxOf?_cons]
      rw [hidx]
      cases enclosing with
      | nil => rfl
      | cons next enclosing => simp [unwind]
    · have hne : outer ≠ width := Nat.ne_of_lt hgreater
      -- The blocks further out are narrower still, so that none of them has the width.
      have hnotin : width ∉ outer :: enclosing := by
        intro hmem
        rcases List.mem_cons.mp hmem with rfl | hmem
        · exact hne rfl
        · have := List.rel_of_pairwise_cons hinner hmem
          omega
      have hidx : (outer :: enclosing).idxOf? width = none := by
        simpa [List.idxOf?_eq_none_iff] using hnotin
      have hunwind : (unwind width outer enclosing).1 = outer := by
        cases enclosing with
        | nil => rfl
        | cons next enclosing => rw [unwind, if_neg (Nat.lt_asymm hgreater)]
      rw [hidx]
      refine ⟨by rw [hunwind]; exact hne, ?_⟩
      simp [hunwind, OffSide.nearest, Nat.le_of_lt hgreater]

namespace Layer

variable {σ : Type} [TokenSource σ] {final : Position} {layer later : Layer σ} {token : Token}
  {tokens : List Token}

/-! ## What is left to be read -/

/-- What the layer has read ahead and what its source still supplies are these tokens. -/
def Awaits (layer : Layer σ) (final : Position) (tokens : List Token) : Prop :=
  ∃ supplied, TokenSource.Supplies layer.source final supplied ∧
    tokens = layer.here.toList ++ supplied

lemma Awaits.length_lt (h : Awaits layer final tokens) : tokens.length < layer.sourceBudget := by
  obtain ⟨supplied, hsupplies, rfl⟩ := h
  have hsupplied := hsupplies.length_le_budget
  have hhere : layer.here.toList.length ≤ 1 := by cases layer.here <;> simp
  simp only [List.length_append, sourceBudget]
  omega

lemma Awaits.here_eq_none (h : Awaits layer final []) : layer.here = none := by
  obtain ⟨supplied, -, htokens⟩ := h
  cases hhere : layer.here with
  | none => rfl
  | some token => simp [hhere] at htokens

lemma Awaits.position_source (h : Awaits layer final []) :
    TokenSource.position layer.source = final := by
  obtain ⟨supplied, hsupplies, htokens⟩ := h
  obtain rfl : supplied = [] := (List.append_eq_nil_iff.mp htokens.symm).2
  exact (hsupplies _ .refl).2

lemma take_of_awaits_nil (h : Awaits layer final []) :
    ∃ later events, layer.take = ⟨.ok none, later, events⟩ ∧ ReadsOn layer later ∧
      Awaits later final [] := by
  have hread := take_readsOn layer
  have hhere := h.here_eq_none
  obtain ⟨supplied, hsupplies, htokens⟩ := h
  obtain rfl : supplied = [] := (List.append_eq_nil_iff.mp htokens.symm).2
  have hresult : layer.take.result = .ok none := by
    simp only [take, hhere, Outcome.result_mapState]
    exact (hsupplies _ .refl).1
  refine ⟨_, _, Outcome.eq_of_result hresult, hread, [], ?_, ?_⟩
  · simp only [take, hhere, Outcome.state_mapState]
    exact hsupplies.next
  · simp [take, hhere]

lemma take_of_awaits_cons (h : Awaits layer final (token :: tokens)) :
    ∃ later events, layer.take = ⟨.ok (some token), later, events⟩ ∧ ReadsOn layer later ∧
      Awaits later final tokens := by
  have hread := take_readsOn layer
  obtain ⟨supplied, hsupplies, htokens⟩ := h
  cases hhere : layer.here with
  -- A token that has been read ahead is taken first; without one the source is asked.
  | none =>
    obtain rfl : token :: tokens = supplied := by simpa [hhere] using htokens
    obtain ⟨hresult, -, hrest⟩ := hsupplies
    have htake : layer.take.result = .ok (some token) := by
      simp only [take, hhere, Outcome.result_mapState, hresult]
    refine ⟨_, _, Outcome.eq_of_result htake, hread, tokens, ?_, ?_⟩
    · simp only [take, hhere, Outcome.state_mapState]
      exact hrest
    · simp [take, hhere]
  | some ahead =>
    obtain ⟨rfl, rfl⟩ : token = ahead ∧ tokens = supplied := by simpa [hhere] using htokens
    have htake : layer.take.result = .ok (some token) := by simp only [take, hhere]
    refine ⟨_, _, Outcome.eq_of_result htake, hread, tokens, ?_, ?_⟩
    · simp only [take, hhere]
      exact hsupplies
    · simp [take, hhere]

lemma look_of_awaits_nil (h : Awaits layer final []) :
    ∃ later events, layer.look = ⟨.ok none, later, events⟩ ∧ ReadsOn layer later ∧
      Awaits later final [] := by
  have hread := look_readsOn layer
  have hhere := h.here_eq_none
  obtain ⟨supplied, hsupplies, htokens⟩ := h
  obtain rfl : supplied = [] := (List.append_eq_nil_iff.mp htokens.symm).2
  have hnext := (hsupplies _ .refl).1
  have hresult : layer.look.result = .ok none := by
    simp only [look, hhere, hnext, Outcome.result_mapState]
  refine ⟨_, _, Outcome.eq_of_result hresult, hread, [], ?_, ?_⟩
  · simp only [look, hhere, hnext, Outcome.state_mapState]
    exact hsupplies.next
  · simp [look, hhere, hnext]

/-- A token that is looked at is kept, and can be dropped. -/
lemma look_of_awaits_cons (h : Awaits layer final (token :: tokens)) :
    ∃ later events, layer.look = ⟨.ok (some token), later, events⟩ ∧ ReadsOn layer later ∧
      later.here = some token ∧ Awaits later final (token :: tokens) ∧
      Awaits { later with here := none } final tokens := by
  have hread := look_readsOn layer
  obtain ⟨supplied, hsupplies, htokens⟩ := h
  cases hhere : layer.here with
  | none =>
    obtain rfl : token :: tokens = supplied := by simpa [hhere] using htokens
    obtain ⟨hresult, -, hrest⟩ := hsupplies
    have hlook : layer.look.result = .ok (some token) := by
      simp only [look, hhere, hresult, Outcome.result_mapState]
    refine ⟨_, _, Outcome.eq_of_result hlook, hread, ?_⟩
    simp only [look, hhere, hresult, Outcome.state_mapState]
    exact ⟨trivial, ⟨tokens, hrest, rfl⟩, tokens, hrest, rfl⟩
  | some ahead =>
    obtain ⟨rfl, rfl⟩ : token = ahead ∧ tokens = supplied := by simpa [hhere] using htokens
    have hlook : layer.look.result = .ok (some token) := by simp only [look, hhere]
    refine ⟨_, _, Outcome.eq_of_result hlook, hread, ?_⟩
    simp only [look, hhere]
    exact ⟨trivial, ⟨tokens, hsupplies, by simp [hhere]⟩, tokens, hsupplies, rfl⟩

/-! ## Measuring a line -/

/-- The outcome tells the width of the first line that is not blank, and leaves what is behind the
white space at its start to be read. -/
def Measures (options : IndentOptions) (final : Position) (tokens : List Token)
    (outcome : Outcome (Layer σ) (Option Nat)) : Prop :=
  match filledLines options final tokens with
  | [] => outcome.result = .ok none ∧ Awaits outcome.state final []
  | line :: rest =>
    outcome.result = .ok (some (line.width options)) ∧
      outcome.state.position = line.start options ∧
      ∃ ahead, Awaits outcome.state final ahead ∧
        ∀ current enclosing, OffSide.fromWithin options final current enclosing ahead =
          (OffSide.follow options final current enclosing line.ending rest).after
            (line.content options)

lemma Measures.after {options : IndentOptions} {outcome : Outcome (Layer σ) (Option Nat)}
    (h : Measures options final tokens outcome) (events : List Event) :
    Measures options final tokens (outcome.after events) := h

lemma Measures.congr {options : IndentOptions} {others : List Token}
    {outcome : Outcome (Layer σ) (Option Nat)} (h : Measures options final tokens outcome)
    (hlines : filledLines options final others = filledLines options final tokens) :
    Measures options final others outcome := by
  unfold Measures
  rw [hlines]
  exact h

lemma position_of_here (h : layer.here = some token) : layer.position = token.position := by
  simp only [position, h]

/-- The induction is on the fuel: each round drops a line break, alone or behind white space. -/
lemma nextWidthWithin_measures {fuel : Nat} {options : IndentOptions}
    (h : Awaits layer final tokens) (hsame : layer.options = options)
    (hfuel : tokens.length < fuel) :
    Measures options final tokens (nextWidthWithin fuel layer) := by
  induction fuel generalizing layer tokens with
  | zero => omega
  | succ fuel ih =>
    unfold nextWidthWithin
    cases tokens with
    | nil =>
      obtain ⟨later, events, hlook, -, hlater⟩ := look_of_awaits_nil h
      rw [hlook]
      exact ⟨rfl, hlater⟩
    | cons token tokens =>
      obtain ⟨later, events, hlook, hread, hhere, hlater, hdropped⟩ := look_of_awaits_cons h
      obtain rfl := hread.options_eq.trans hsame
      simp only [List.length_cons] at hfuel
      rw [hlook]
      dsimp only
      split_ifs with hnewline hwhitespace
      -- A line break ends a blank line, so the lines to come are the same without it.
      · have hrest := ih hdropped rfl (by omega)
        exact (hrest.after events).congr (filledLines_of_newline hnewline)
      -- White space counts as indentation only where a token comes behind it that is no line
      -- break.
      · cases tokens with
        | nil =>
          obtain ⟨last, more, hbehind, -, hlast⟩ := look_of_awaits_nil hdropped
          rw [hbehind]
          unfold Measures
          rw [filledLines_whitespace hwhitespace]
          exact ⟨rfl, hlast⟩
        | cons next tokens =>
          obtain ⟨last, more, hbehind, hread', hhere', hlast, hdropped'⟩ :=
            look_of_awaits_cons hdropped
          have hoptions : last.options = later.options := hread'.options_eq
          simp only [List.length_cons] at hfuel
          rw [hbehind]
          dsimp only
          split_ifs with hnext
          all_goals rw [hoptions] at hnext
          · have hrest := ih hdropped' hoptions (by omega)
            exact (hrest.after _).congr (filledLines_whitespace_newline hwhitespace hnext)
          · obtain ⟨line, rest, hlines, hwidth, hstart, hwithin⟩ :=
              OffSide.exists_filledLines_of_whitespace hnewline hwhitespace hnext
            unfold Measures
            rw [hlines]
            exact ⟨by rw [hwidth], by rw [position_of_here hhere', hstart], _, hlast,
              hwithin.fromWithin_eq⟩
      -- The token that shows the line is kept, for the layer to give it after the indentation.
      · obtain ⟨line, rest, hlines, hwidth, hstart, hwithin⟩ :=
          OffSide.exists_filledLines_of_ne_whitespace hnewline hwhitespace
        unfold Measures
        rw [hlines]
        exact ⟨by rw [hwidth], by rw [position_of_here hhere, hstart], _, hlater,
          hwithin.fromWithin_eq⟩

lemma nextWidth_measures (h : Awaits layer final tokens) :
    Measures layer.options final tokens layer.nextWidth :=
  nextWidthWithin_measures h rfl h.length_lt

/-! ## Between and within calls -/

/-- The layer is in a block of width `current` and has these tokens left to read. -/
structure Within (layer : Layer σ) (final : Position) (current : Nat) (tokens : List Token) :
    Prop where
  width_eq : layer.width = some current
  /-- The blocks get narrower outwards. -/
  sorted : (current :: layer.enclosing).Pairwise (· > ·)
  awaits : Awaits layer final tokens

lemma Within.readsOn {current : Nat} {others : List Token} (h : Within layer final current tokens)
    (hread : ReadsOn layer later) (hawaits : Awaits later final others) :
    Within later final current others where
  width_eq := hread.width_eq.trans h.width_eq
  sorted := hread.enclosing_eq ▸ h.sorted
  awaits := hawaits

/-- What the layer is going to give: the tokens queued and what the rest of its tokens comes to. -/
def Expects (layer : Layer σ) (final : Position) (expected : Expected) : Prop :=
  ∃ current tokens, Within layer final current tokens ∧
    expected = (OffSide.fromWithin layer.options final current layer.enclosing tokens).after
      layer.queue

/-- The outcome gives the first of what is expected, and leaves a layer that is going to give the
rest. -/
def Gives (final : Position) (expected : Expected)
    (outcome : Outcome (Layer σ) (Option Token)) : Prop :=
  match expected with
  | ⟨token :: tokens, error⟩ =>
    outcome.result = .ok (some token) ∧ Expects outcome.state final ⟨tokens, error⟩
  | ⟨[], some error⟩ => outcome.result = .error error
  | ⟨[], none⟩ => outcome.result = .ok none

lemma Gives.after {expected : Expected} {outcome : Outcome (Layer σ) (Option Token)}
    (h : Gives final expected outcome) (events : List Event) :
    Gives final expected (outcome.after events) := h

/-! ## The end and the beginnings of lines -/

lemma finish_gives {current : Nat} (h : Within layer final current [])
    (hqueue : layer.queue = []) :
    Gives final (OffSide.fromWithin layer.options final current layer.enclosing [])
      layer.finish := by
  rw [OffSide.fromWithin_nil]
  cases henclosing : layer.enclosing with
  | nil =>
    rw [finish_of_nil hqueue henclosing]
    rfl
  | cons outer enclosing =>
    rw [finish_of_cons hqueue henclosing, h.awaits.position_source]
    refine ⟨rfl, current, [], ⟨h.width_eq, by simp, h.awaits⟩, ?_⟩
    simp [OffSide.fromWithin_nil, Expected.after, dedents]

/-- A narrower line closes the blocks up to one of its own width, or stands at no block. -/
lemma dedentTo_gives {current : Nat} {ahead : List Token} {line : Line} {rest : List Line}
    (h : Within layer final current ahead) (hqueue : layer.queue = [])
    (hstart : layer.position = line.start layer.options)
    (hwithin : ∀ current enclosing,
      OffSide.fromWithin layer.options final current enclosing ahead =
        (OffSide.follow layer.options final current enclosing line.ending rest).after
          (line.content layer.options))
    (position : Position) (hlt : line.width layer.options < current) :
    Gives final
      (OffSide.follow layer.options final current layer.enclosing position (line :: rest))
      (layer.dedentTo (line.width layer.options) position) := by
  have hcurrent : layer.width.getD 0 = current := by rw [h.width_eq, Option.getD_some]
  have hunwind := unwind_of_sorted h.sorted hlt
  -- Unwinding stops at the width of the line exactly if one of the blocks has it.
  have hcases := dedentTo_cases position hqueue (hcurrent.symm ▸ hlt)
  rw [hcurrent] at hcases
  rw [OffSide.follow, if_neg (Nat.ne_of_lt hlt), if_neg (Nat.lt_asymm hlt)]
  cases hfound : layer.enclosing.idxOf? (line.width layer.options) with
  | none =>
    rw [hfound] at hunwind
    rcases hcases with ⟨outer, closed, kept, -, hkept, -⟩ | ⟨-, hresult, -⟩
    · exact absurd (congrArg Prod.fst hkept) hunwind.1
    · rw [hstart, hunwind.2] at hresult
      exact hresult
  | some index =>
    rw [hfound] at hunwind
    rcases hcases with ⟨outer, closed, kept, henclosing, hkept, hresult, hstate⟩ | ⟨hne, -⟩
    · rw [hunwind] at hkept
      obtain rfl : layer.enclosing.drop (index + 1) = kept := (Prod.ext_iff.mp hkept).2
      obtain ⟨hindex, hwidth, -⟩ := List.idxOf?_eq_some_iff.mp hfound
      -- The blocks in front of that one are closed with it.
      have hlength : closed.length = index := by
        have := congrArg List.length henclosing
        simp only [List.length_append, List.length_cons, List.length_drop] at this
        omega
      have hsorted :
          (line.width layer.options :: layer.enclosing.drop (index + 1)).Pairwise (· > ·) := by
        rw [← hwidth, List.getElem_cons_drop]
        exact h.sorted.of_cons.drop
      dsimp only
      rw [List.replicate_succ]
      refine ⟨hresult, line.width layer.options, ahead, ?_, ?_⟩
      · rw [hstate]
        exact ⟨rfl, hsorted, h.awaits⟩
      · rw [hstate]
        dsimp only
        rw [hwithin, hlength, Expected.after_after]
        rfl
    · exact absurd (congrArg Prod.fst hunwind) hne

lemma startLine_gives {current : Nat} {ahead : List Token} {line : Line} {rest : List Line}
    (h : Within layer final current ahead) (hqueue : layer.queue = [])
    (hstart : layer.position = line.start layer.options)
    (hwithin : ∀ current enclosing,
      OffSide.fromWithin layer.options final current enclosing ahead =
        (OffSide.follow layer.options final current enclosing line.ending rest).after
          (line.content layer.options))
    (position : Position) :
    Gives final
      (OffSide.follow layer.options final current layer.enclosing position (line :: rest))
      (layer.startLine (line.width layer.options) position) := by
  have hcurrent : layer.width.getD 0 = current := by rw [h.width_eq, Option.getD_some]
  -- A line of the same width goes on with the block, a wider one opens one, and a narrower one
  -- closes some.
  rcases Nat.lt_trichotomy (line.width layer.options) current with hlt | heq | hgt
  · rw [startLine_of_gt position (hcurrent.symm ▸ hlt)]
    exact dedentTo_gives h hqueue hstart hwithin position hlt
  · rw [OffSide.follow, if_pos heq, startLine_of_eq position (heq.trans hcurrent.symm)]
    refine ⟨rfl, current, ahead, h, ?_⟩
    rw [hqueue, hwithin]
    rfl
  · rw [OffSide.follow, if_neg (Nat.ne_of_gt hgt), if_pos hgt,
      startLine_of_lt position (hcurrent.symm ▸ hgt)]
    refine ⟨rfl, line.width layer.options, ahead, ⟨rfl, ?_, h.awaits⟩, ?_⟩
    -- A wider line keeps the widths sorted.
    · dsimp only
      rw [hcurrent]
      refine List.pairwise_cons.mpr ⟨fun outer houter => ?_, h.sorted⟩
      rcases List.mem_cons.mp houter with rfl | houter
      · exact hgt
      · exact Nat.lt_trans (List.rel_of_pairwise_cons h.sorted houter) hgt
    · dsimp only
      rw [hqueue, hwithin, hcurrent]
      rfl

/-! ## Calls and runs -/

/-- The induction is on the fuel; a round that goes on has skipped white space inside a line, which
is no part of what is expected. -/
lemma continueWithin_gives {fuel current : Nat} (h : Within layer final current tokens)
    (hqueue : layer.queue = []) (hfuel : tokens.length < fuel) :
    Gives final (OffSide.fromWithin layer.options final current layer.enclosing tokens)
      (continueWithin fuel layer) := by
  induction fuel generalizing layer tokens with
  | zero => omega
  | succ fuel ih =>
    unfold continueWithin
    cases tokens with
    | nil =>
      obtain ⟨later, events, htaken, hread, hlater⟩ := take_of_awaits_nil h.awaits
      have hfinish := finish_gives (h.readsOn hread hlater) (hread.queue_eq.trans hqueue)
      rw [htaken, ← hread.options_eq, ← hread.enclosing_eq]
      exact hfinish.after events
    | cons token tokens =>
      obtain ⟨later, events, htaken, hread, hlater⟩ := take_of_awaits_cons h.awaits
      have hwithin := h.readsOn hread hlater
      have hlaterQueue : later.queue = [] := hread.queue_eq.trans hqueue
      simp only [List.length_cons] at hfuel
      rw [htaken, ← hread.options_eq, ← hread.enclosing_eq]
      dsimp only
      split_ifs with hnewline hwhitespace
      -- Behind a line break the next line decides which token comes first.
      · have hmeasures := nextWidth_measures hlater
        have hread' := nextWidth_readsOn later
        rw [OffSide.fromWithin_of_newline hnewline]
        cases hmeasured : later.nextWidth with
        | mk result last more =>
        rw [hmeasured] at hmeasures hread'
        rw [← hread'.options_eq, ← hread'.enclosing_eq]
        rw [← hread'.options_eq] at hmeasures
        have hlastQueue := hread'.queue_eq.trans hlaterQueue
        unfold Measures at hmeasures
        cases hfilled : filledLines last.options final tokens with
        | nil =>
          rw [hfilled] at hmeasures
          obtain ⟨rfl, hlast⟩ := hmeasures
          exact (finish_gives (hwithin.readsOn hread' hlast) hlastQueue).after _
        -- There is a next line: what the layer has read ahead is that line.
        | cons line rest =>
          rw [hfilled] at hmeasures
          obtain ⟨hresult, hstart, ahead, hahead, hrest⟩ := hmeasures
          obtain rfl : result = .ok (some (line.width last.options)) := hresult
          have hline := startLine_gives (hwithin.readsOn hread' hahead) hlastQueue hstart hrest
            token.position
          exact hline.after _
      · rw [OffSide.fromWithin_of_ne_newline hnewline, if_pos hwhitespace, Expected.after_nil]
        exact (ih hwithin hlaterQueue (by omega)).after events
      · rw [OffSide.fromWithin_of_ne_newline hnewline, if_neg hwhitespace]
        refine ⟨rfl, current, tokens, hwithin, ?_⟩
        simp [hlaterQueue]

/-- One step: a layer that is going to give some tokens gives the first of them. -/
lemma next_gives {expected : Expected} (h : Expects layer final expected) :
    Gives final expected layer.next := by
  obtain ⟨current, tokens, hwithin, rfl⟩ := h
  have hsettle : layer.settle = ⟨.ok (), layer, []⟩ := by
    rw [settle, hwithin.width_eq, Option.isSome_some, if_pos rfl]
  unfold next
  rw [hsettle]
  dsimp only
  -- What is queued comes first; only then is anything read.
  cases hqueue : layer.queue with
  | nil =>
    simp only [pop, hqueue]
    exact (continueWithin_gives hwithin hqueue hwithin.awaits.length_lt).after []
  | cons token queue =>
    simp only [pop, hqueue]
    exact ⟨rfl, current, tokens, ⟨hwithin.width_eq, hwithin.sorted, hwithin.awaits⟩, rfl⟩

lemma result_continueWithin_of_awaits_nil {fuel : Nat} (h : Awaits layer final [])
    (hqueue : layer.queue = []) (henclosing : layer.enclosing = []) :
    (continueWithin (fuel + 1) layer).result = .ok none := by
  obtain ⟨later, events, htaken, hread, -⟩ := take_of_awaits_nil h
  have hfinish := finish_of_nil (hread.queue_eq.trans hqueue) (hread.enclosing_eq.trans henclosing)
  unfold continueWithin
  rw [htaken]
  dsimp only
  rw [hfinish]
  rfl

/-- The first call measures the first line that is not blank, and goes on in it. -/
lemma next_initial_gives {source : σ} (options : IndentOptions)
    (h : TokenSource.Supplies source final tokens) :
    Gives final (offSide options final tokens) (initial source options).next := by
  have hawaits : Awaits (initial source options) final tokens := ⟨tokens, h, rfl⟩
  have hmeasures := nextWidth_measures hawaits
  have hread := nextWidth_readsOn (initial source options)
  unfold next settle
  cases hmeasured : (initial source options).nextWidth with
  | mk result later events =>
  rw [hmeasured] at hmeasures hread
  obtain ⟨source, options', width, enclosing, queue, here⟩ := later
  obtain rfl : options' = options := hread.options_eq
  obtain rfl : enclosing = [] := hread.enclosing_eq
  obtain rfl : queue = [] := hread.queue_eq
  change Measures options' final tokens _ at hmeasures
  unfold Measures at hmeasures
  unfold offSide
  cases hfilled : filledLines options' final tokens with
  | nil =>
    rw [hfilled] at hmeasures
    obtain ⟨rfl, hlater⟩ := hmeasures
    simp only [initial, Option.isSome_none, Bool.false_eq_true, if_false, pop]
    exact result_continueWithin_of_awaits_nil hlater rfl rfl
  | cons line rest =>
    rw [hfilled] at hmeasures
    obtain ⟨rfl, -, ahead, hahead, hrest⟩ := hmeasures
    have hwithin : Within (⟨source, options', some (line.width options'), [], [], here⟩ : Layer σ)
        final (line.width options') ahead :=
      ⟨rfl, by simp, hahead⟩
    have hgives := continueWithin_gives hwithin rfl hwithin.awaits.length_lt
    -- The first line opens the outermost block, at its own width and without a token.
    simp only [hrest] at hgives
    simp only [initial, Option.isSome_none, Bool.false_eq_true, if_false, pop]
    exact hgives.after events

/-- The induction is on the limit; each call gives the first of the tokens expected. -/
lemma collect_of_gives_take {expected : Expected} (h : Gives final expected layer.next)
    (limit : Nat) :
    (TokenSource.collect limit layer).tokens = expected.tokens.take limit ∧
      (TokenSource.collect limit layer).error =
        (if expected.tokens.length < limit then expected.error else none) ∧
      (TokenSource.collect limit layer).ended = decide (expected.tokens.length < limit) := by
  induction limit generalizing layer expected with
  | zero => simp [TokenSource.collect]
  | succ limit ih =>
    have hnext : TokenSource.next layer = layer.next := rfl
    obtain ⟨_ | ⟨token, tokens⟩, error⟩ := expected
    · cases error with
      | none =>
        have hresult : layer.next.result = .ok none := h
        simp [TokenSource.collect, hnext, hresult]
      | some error =>
        have hresult : layer.next.result = .error error := h
        simp [TokenSource.collect, hnext, hresult]
    · obtain ⟨hresult, hexpects⟩ := h
      obtain ⟨htokens, herror, hended⟩ := ih (next_gives hexpects)
      simp [TokenSource.collect, hnext, hresult, htokens, herror, hended]

lemma collect_of_gives {expected : Expected} {limit : Nat}
    (h : Gives final expected layer.next) (hlimit : expected.tokens.length < limit) :
    (TokenSource.collect limit layer).tokens = expected.tokens ∧
      (TokenSource.collect limit layer).error = expected.error ∧
      (TokenSource.collect limit layer).ended = true := by
  obtain ⟨htokens, herror, hended⟩ := collect_of_gives_take h limit
  refine ⟨?_, ?_, ?_⟩
  · rw [htokens, List.take_of_length_le (Nat.le_of_lt hlimit)]
  · rw [herror, if_pos hlimit]
  · rw [hended, decide_eq_true hlimit]

/-- **Layers implement the off-side rule.**  Over a source that supplies some tokens and then
nothing for ever, a new layer gives what the off-side rule makes of the tokens, up to its failure
or the end. -/
theorem collect_initial_offSide (options : IndentOptions) {source : σ}
    (hsupplies : TokenSource.Supplies source final tokens) {limit : Nat}
    (hlimit : (offSide options final tokens).tokens.length < limit) :
    (TokenSource.collect limit (initial source options)).tokens =
        (offSide options final tokens).tokens ∧
      (TokenSource.collect limit (initial source options)).error =
        (offSide options final tokens).error ∧
      (TokenSource.collect limit (initial source options)).ended = true :=
  collect_of_gives (next_initial_gives options hsupplies) hlimit

/-! ### An uneven outline -/

/-- Two blocks that end at once behind a blank line, and a line that stands at no block. -/
def unevenOutline : List Token :=
  let white (value : String) (position : Position) : Token :=
    { Token.synthetic "ws" position with value }
  [.synthetic "a" ⟨0, 1, 1⟩, .synthetic "nl" ⟨1, 1, 2⟩,
    white "  " ⟨2, 2, 1⟩, .synthetic "b" ⟨4, 2, 3⟩, .synthetic "nl" ⟨5, 2, 4⟩,
    white "    " ⟨6, 3, 1⟩, .synthetic "c" ⟨10, 3, 5⟩, .synthetic "nl" ⟨11, 3, 6⟩,
    white " " ⟨12, 4, 1⟩, .synthetic "nl" ⟨13, 4, 2⟩,
    .synthetic "d" ⟨14, 5, 1⟩, .synthetic "nl" ⟨15, 5, 2⟩,
    white "  " ⟨16, 6, 1⟩, .synthetic "e" ⟨18, 6, 3⟩, .synthetic "nl" ⟨19, 6, 4⟩,
    white " " ⟨20, 7, 1⟩, .synthetic "f" ⟨21, 7, 2⟩]

theorem collect_initial_offSide_unevenOutline :
    TokenSource.Supplies (Script.start unevenOutline ⟨22, 7, 3⟩) ⟨22, 7, 3⟩ unevenOutline ∧
      (offSide .standard ⟨22, 7, 3⟩ unevenOutline).tokens.length < 20 ∧
      (TokenSource.collect 20 (initial (Script.start unevenOutline ⟨22, 7, 3⟩)
          .standard)).tokens.map (·.kind) =
        ["a", "indent", "b", "indent", "c", "dedent", "dedent", "d", "indent", "e"] ∧
      (TokenSource.collect 20 (initial (Script.start unevenOutline ⟨22, 7, 3⟩) .standard)).error =
        some (.inconsistentIndentation ⟨21, 7, 2⟩ 1 0) := by
  have hsupplies := Script.supplies (Script.start unevenOutline ⟨22, 7, 3⟩)
  have hlimit : (offSide .standard ⟨22, 7, 3⟩ unevenOutline).tokens.length < 20 := by
    decide +kernel
  obtain ⟨htokens, herror, -⟩ := collect_initial_offSide .standard hsupplies hlimit
  refine ⟨hsupplies, hlimit, ?_, ?_⟩
  · rw [htokens]
    decide +kernel
  · rw [herror]
    decide +kernel

end Layer

end Lexical
