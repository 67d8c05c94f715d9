import Lexical.Proofs.Indent.Faltering
import Lexical.Proofs.Indent.Widths

/-!
# Layers over sources that fail in between

A layer passes a failure of its source on, and goes on when it is asked again.  If the source fails only
where that does no harm (`Calm`), then somebody who asks again after each failure gets from the layer what
the layer gives over the source that does not fail (`Layer.persist_initial`).

`Layer.Waits` tells what the source of a layer is going to answer, and `Layer.Owes` what the layer is going
to give to somebody who asks again.  A call serves part of that: it gives the first of the tokens, or fails
and has the same left to give but fewer answers to read (`Layer.next_serves`).
-/

namespace Lexical

namespace Layer

open TokenSource (persist)

variable {σ : Type} [TokenSource σ] {final : Position} {layer later : Layer σ} {token : Token}
  {error : LexerError} {answers ahead : List Answer}

/-! ## What is left to be read -/

/-- The token that the layer has read ahead and what its source is going to answer. -/
def Waits (layer : Layer σ) (final : Position) (answers : List Answer) : Prop :=
  ∃ others, TokenSource.Answers layer.source final others ∧
    answers = layer.here.toList.map .ok ++ others

lemma Waits.length_lt (h : Waits layer final answers) :
    (granted answers).length < layer.sourceBudget := by
  obtain ⟨others, hanswers, rfl⟩ := h
  have hothers := hanswers.length_le_budget
  unfold sourceBudget
  cases layer.here with
  | none =>
    simp only [Option.toList_none, List.map_nil, List.nil_append]
    omega
  | some token =>
    simp only [Option.toList_some, List.map_cons, List.map_nil, List.cons_append, List.nil_append,
      granted_ok, List.length_cons]
    omega

lemma here_eq_none_of_waits (h : Waits layer final answers)
    (hnot : ∀ token rest, answers ≠ .ok token :: rest) : layer.here = none := by
  obtain ⟨others, -, rfl⟩ := h
  cases hhere : layer.here with
  | none => rfl
  | some token => exact absurd (by simp [hhere]) (hnot token others)

lemma position_of_waits_nil (h : Waits layer final []) :
    TokenSource.position layer.source = final := by
  obtain ⟨others, hanswers, hnil⟩ := h
  obtain rfl : others = [] := (List.append_eq_nil_iff.1 hnil.symm).2
  exact (hanswers _ .refl).2

lemma take_of_waits_nil (h : Waits layer final []) :
    layer.take.result = .ok none ∧ Waits layer.take.state final [] := by
  have hhere := here_eq_none_of_waits h (by simp)
  obtain ⟨others, hanswers, htokens⟩ := h
  obtain rfl : others = [] := by simpa [hhere] using htokens.symm
  unfold take
  rw [hhere]
  exact ⟨(hanswers _ .refl).1, [], hanswers.next, by simp⟩

lemma take_of_waits_error (h : Waits layer final (.error error :: answers)) :
    layer.take.result = .error error ∧ Waits layer.take.state final answers := by
  have hhere := here_eq_none_of_waits h (by simp)
  obtain ⟨others, hanswers, htokens⟩ := h
  obtain rfl : .error error :: answers = others := by simpa [hhere] using htokens
  obtain ⟨hresult, -, hrest⟩ := hanswers
  unfold take
  rw [hhere]
  exact ⟨hresult, answers, hrest, by simp⟩

lemma take_of_waits_ok (h : Waits layer final (.ok token :: answers)) :
    layer.take.result = .ok (some token) ∧ Waits layer.take.state final answers := by
  obtain ⟨others, hanswers, htokens⟩ := h
  unfold take
  cases hhere : layer.here with
  | none =>
    obtain rfl : .ok token :: answers = others := by simpa [hhere] using htokens
    obtain ⟨hresult, -, hrest⟩ := hanswers
    exact ⟨hresult, answers, hrest, by simp⟩
  | some ahead =>
    obtain ⟨rfl, rfl⟩ : token = ahead ∧ answers = others := by simpa [hhere] using htokens
    exact ⟨rfl, answers, hanswers, rfl⟩

/-- A token that is put back is waited for again. -/
lemma waits_here (h : Waits layer.take.state final answers) :
    Waits { layer.take.state with here := some token } final (.ok token :: answers) := by
  have hhere : layer.take.state.here = none := by rw [state_take]
  obtain ⟨others, hanswers, rfl⟩ := h
  exact ⟨others, hanswers, by simp [hhere]⟩

/-! ## Measuring a line -/

/-- What measuring the next line comes to at the start of a line: it finds the line and stands in it, finds
the end, or fails and can be made good. -/
inductive Gauges (options : IndentOptions) (final : Position) (place : Place)
    (answers : List Answer) : Outcome (Layer σ) (Option Nat) → Prop
  | finds {later : Layer σ} {line : Line} {rest : List Line} {ahead : List Answer}
      (hlines : filledLines options final (granted answers) = line :: rest)
      (hwaits : Waits later final ahead) (hcalm : Calm options .within ahead)
      (hline : OffSide.InLine options final line rest (granted ahead))
      (hle : ahead.length ≤ answers.length) (events : List Event) :
      Gauges options final place answers ⟨.ok (some (line.width options)), later, events⟩
  | ends {later : Layer σ} (hlines : filledLines options final (granted answers) = [])
      (hwaits : Waits later final []) (events : List Event) :
      Gauges options final place answers ⟨.ok none, later, events⟩
  | fails {later : Layer σ} {ahead : List Answer}
      (hlines : filledLines options final (granted ahead) =
        filledLines options final (granted answers))
      (hwaits : Waits later final ahead) (hcalm : Recovers options ahead place)
      (hlt : ahead.length < answers.length) (error : LexerError) (events : List Event) :
      Gauges options final place answers ⟨.error error, later, events⟩

/-- Blank lines in front make no difference. -/
lemma Gauges.of_filledLines {options : IndentOptions} {place : Place} {others : List Answer}
    {outcome : Outcome (Layer σ) (Option Nat)} (h : Gauges options final place answers outcome)
    (hlines : filledLines options final (granted others) =
      filledLines options final (granted answers))
    (hle : answers.length ≤ others.length) (events : List Event) :
    Gauges options final place others (outcome.after events) := by
  cases h with
  | finds hfound hwaits hcalm hline hlength more =>
    exact .finds (hlines.trans hfound) hwaits hcalm hline (by omega) _
  | ends hnone hwaits more => exact .ends (hlines.trans hnone) hwaits _
  | fails hsame hwaits hcalm hlt error more =>
    exact .fails (hsame.trans hlines.symm) hwaits hcalm (by omega) error _

section Finding

variable {options : IndentOptions} {place : Place}

/-- A token that shows a line is found, and put back. -/
lemma gauges_bare (hplace : place.IsStart) (h : Waits layer.take.state final answers)
    (hcalm : Calm options place (.ok token :: answers)) (hnewline : token.kind ≠ options.newline)
    (hwhitespace : token.kind ≠ options.whitespace) (events : List Event) :
    Gauges options final place (.ok token :: answers)
      ⟨.ok (some 0), { layer.take.state with here := some token }, events⟩ := by
  obtain ⟨line, rest, hlines, hwidth, -, hline⟩ :=
    @OffSide.exists_filledLines_of_ne_whitespace options final token (granted answers)
      hnewline hwhitespace
  have hcalm : Calm options .within answers := hplace.after_bare hnewline hwhitespace ▸ hcalm
  rw [← granted_ok] at hlines hline
  rw [← hwidth]
  exact .finds hlines (waits_here h) ((Calm.cons_of_ne_newline hnewline).2 hcalm) hline
    (Nat.le_refl _) events

/-- So is one behind white space, which is not put back. -/
lemma gauges_indented {next : Token} (hplace : place.IsStart)
    (h : Waits layer.take.state final answers)
    (hcalm : Calm options place (.ok token :: .ok next :: answers))
    (hnewline : token.kind ≠ options.newline) (hwhitespace : token.kind = options.whitespace)
    (hfilled : next.kind ≠ options.newline) (events : List Event) :
    Gauges options final place (.ok token :: .ok next :: answers)
      ⟨.ok (some token.value.length), { layer.take.state with here := some next }, events⟩ := by
  obtain ⟨line, rest, hlines, hwidth, -, hline⟩ :=
    @OffSide.exists_filledLines_of_whitespace options final token (granted answers) next
      hnewline hwhitespace hfilled
  have hcalm : Calm options .within answers :=
    hplace.after_indented hnewline hwhitespace hfilled ▸ hcalm
  rw [← granted_ok, ← granted_ok] at hlines
  rw [← granted_ok] at hline
  rw [← hwidth]
  exact .finds hlines (waits_here h) ((Calm.cons_of_ne_newline hfilled).2 hcalm) hline
    (Nat.le_succ _) events

end Finding

/-- The induction is on the fuel; each round drops a line break, alone or behind white space. -/
lemma nextWidthWithin_gauges {fuel : Nat} {place : Place} {options : IndentOptions}
    (hplace : place.IsStart) (h : Waits layer final answers) (hsame : layer.options = options)
    (hcalm : Calm options place answers) (hfuel : (granted answers).length < fuel) :
    Gauges options final place answers (nextWidthWithin fuel layer) := by
  induction fuel generalizing layer answers with
  | zero => omega
  | succ fuel ih =>
    rcases answers with _ | ⟨error | token, answers⟩
    · obtain ⟨htake, hlater⟩ := take_of_waits_nil h
      rw [nextWidthWithin_of_end fuel htake]
      exact .ends filledLines_nil hlater _
    -- At the start of a line a failure of the source is harmless by assumption.
    · obtain ⟨htake, hlater⟩ := take_of_waits_error h
      rw [nextWidthWithin_of_error fuel htake]
      refine .fails ?_ hlater (hplace.recovers hcalm) (Nat.lt_succ_self _) _ _
      rw [granted_error]
    obtain ⟨htake, hlater⟩ := take_of_waits_ok h
    obtain rfl := hsame
    have hoptions := options_take layer
    simp only [granted_ok, List.length_cons] at hfuel
    by_cases hnewline : token.kind = layer.options.newline
    · rw [nextWidthWithin_of_newline fuel htake hnewline]
      have hrest := ih hlater hoptions (hplace.after_newline hnewline ▸ hcalm) (by omega)
      exact hrest.of_filledLines (filledLines_of_newline hnewline) (by simp) _
    by_cases hwhitespace : token.kind = layer.options.whitespace
    · rcases answers with _ | ⟨error | next, answers⟩
      · obtain ⟨hnext, hlast⟩ := take_of_waits_nil hlater
        rw [nextWidthWithin_of_whitespace_end fuel htake hnewline hwhitespace hnext]
        exact .ends (filledLines_whitespace hwhitespace) hlast _
      -- The white space has been dropped already. That does no harm where only blank lines are
      -- left, which `Calm` asks for.
      · obtain ⟨hnext, hlast⟩ := take_of_waits_error hlater
        obtain ⟨hrecovers, hblank⟩ := hplace.recovers_indented hnewline hwhitespace hcalm
        rw [nextWidthWithin_of_whitespace_error fuel htake hnewline hwhitespace hnext]
        refine .fails (filledLines_of_blank hwhitespace hblank).symm hlast hrecovers ?_ _ _
        simp only [List.length_cons]
        omega
      obtain ⟨hnext, hlast⟩ := take_of_waits_ok hlater
      simp only [granted_ok, List.length_cons] at hfuel
      by_cases hblank : next.kind = layer.options.newline
      · rw [nextWidthWithin_of_blank fuel htake hnewline hwhitespace hnext hblank]
        have hrest := ih hlast ((options_take _).trans hoptions)
          (hplace.after_blank hnewline hwhitespace hblank ▸ hcalm) (by omega)
        refine hrest.of_filledLines (filledLines_whitespace_newline hwhitespace hblank) ?_ _
        simp only [List.length_cons]
        omega
      · rw [nextWidthWithin_of_indented fuel htake hnewline hwhitespace hnext hblank]
        exact gauges_indented hplace hlast hcalm hnewline hwhitespace hblank _
    · rw [nextWidthWithin_of_bare fuel htake hnewline hwhitespace]
      exact gauges_bare hplace hlater hcalm hnewline hwhitespace _

lemma nextWidth_gauges {place : Place} (hplace : place.IsStart) (h : Waits layer final answers)
    (hcalm : Calm layer.options place answers) :
    Gauges layer.options final place answers layer.nextWidth :=
  nextWidthWithin_gauges hplace h rfl hcalm h.length_lt

/-! ## What is left to be given -/

/-- The layer stands in a line, in a block of width `current`, and its source is going to give these
answers. -/
structure Stands (layer : Layer σ) (final : Position) (current : Nat) (answers : List Answer) :
    Prop where
  width_eq : layer.width = some current
  /-- The blocks get narrower outwards. -/
  sorted : (current :: layer.enclosing).Pairwise (· > ·)
  waits : Waits layer final answers
  calm : Calm layer.options .within answers

lemma Stands.readsOn {current : Nat} (h : Stands layer final current answers)
    (hread : ReadsOn layer later) (hwaits : Waits later final ahead)
    (hcalm : Calm layer.options .within ahead) : Stands later final current ahead where
  width_eq := hread.width_eq.trans h.width_eq
  sorted := hread.enclosing_eq ▸ h.sorted
  waits := hwaits
  calm := hread.options_eq ▸ hcalm

/-- What the layer is going to give to somebody who asks again after each failure, where it is going to
get these answers.  Either it has found no line yet, or it stands in one and has some tokens queued. -/
inductive Owes (final : Position) : Layer σ → List Answer → List Token → Prop
  | outset {layer : Layer σ} {answers : List Answer} (hwidth : layer.width = none)
      (henclosing : layer.enclosing = []) (hqueue : layer.queue = [])
      (hwaits : Waits layer final answers) (hcalm : Calm layer.options .outset answers) :
      Owes final layer answers (offSideAll layer.options final (granted answers))
  | within {layer : Layer σ} {current : Nat} {answers : List Answer}
      (h : Stands layer final current answers) :
      Owes final layer answers (layer.queue ++
        OffSide.fromWithinAll layer.options final current layer.enclosing (granted answers))

/-- The call gives the first of these tokens and leaves the others, or it leaves all of them and fewer than
`bound` answers. -/
def Serves (final : Position) (bound : Nat) (tokens : List Token)
    (outcome : Outcome (Layer σ) (Option Token)) : Prop :=
  match outcome.result with
  | .error _ => ∃ answers, answers.length < bound ∧ Owes final outcome.state answers tokens
  | .ok none => tokens = []
  | .ok (some token) => ∃ answers rest, answers.length ≤ bound ∧ tokens = token :: rest ∧
      Owes final outcome.state answers rest

lemma Serves.mono {bound larger : Nat} {tokens : List Token}
    {outcome : Outcome (Layer σ) (Option Token)} (h : Serves final bound tokens outcome)
    (hle : bound ≤ larger) (events : List Event) :
    Serves final larger tokens (outcome.after events) := by
  obtain ⟨_ | _ | token, state, more⟩ := outcome
  · obtain ⟨answers, hlt, howes⟩ := h
    exact ⟨answers, Nat.lt_of_lt_of_le hlt hle, howes⟩
  · exact h
  · obtain ⟨answers, rest, hbound, htokens, howes⟩ := h
    exact ⟨answers, rest, Nat.le_trans hbound hle, htokens, howes⟩

lemma serves_of_error {bound : Nat} {tokens : List Token}
    {outcome : Outcome (Layer σ) (Option Token)} (hresult : outcome.result = .error error)
    (howes : Owes final outcome.state answers tokens) (hlt : answers.length < bound) :
    Serves final bound tokens outcome := by
  unfold Serves
  rw [hresult]
  exact ⟨answers, hlt, howes⟩

lemma serves_of_token {bound : Nat} {rest : List Token}
    {outcome : Outcome (Layer σ) (Option Token)} (hresult : outcome.result = .ok (some token))
    (howes : Owes final outcome.state answers rest) (hle : answers.length ≤ bound) :
    Serves final bound (token :: rest) outcome := by
  unfold Serves
  rw [hresult]
  exact ⟨answers, rest, hle, rfl, howes⟩

/-! ## Calls -/

lemma finish_serves {current : Nat} (h : Stands layer final current []) (hqueue : layer.queue = [])
    (bound : Nat) :
    Serves final bound
      (List.replicate layer.enclosing.length (.synthetic layer.options.dedent final))
      layer.finish := by
  cases henclosing : layer.enclosing with
  | nil =>
    rw [finish_of_nil hqueue henclosing]
    rfl
  | cons outer enclosing =>
    rw [finish_of_cons hqueue henclosing, position_of_waits_nil h.waits, List.length_cons,
      List.replicate_succ]
    -- All blocks are closed in one go, and the tokens for the others are queued.
    have hstands : Stands
        { layer with enclosing := [], queue := layer.dedents final enclosing.length }
        final current [] := ⟨h.width_eq, by simp, h.waits, h.calm⟩
    have howes := Owes.within hstands
    simp only [OffSide.fromWithinAll_nil, dedents, granted_nil, List.length_nil,
      List.replicate_zero, List.append_nil] at howes
    exact serves_of_token rfl howes (Nat.zero_le bound)

lemma idxOf?_of_wider {width : Nat} {wider narrower : List Nat}
    (hwider : ∀ outer ∈ wider, width < outer) :
    (wider ++ width :: narrower).idxOf? width = some wider.length := by
  induction wider with
  | nil => simp [List.idxOf?_cons]
  | cons outer wider ih =>
    have hne : outer ≠ width := Nat.ne_of_gt (hwider outer (by simp))
    have hrest := ih fun other hother => hwider other (List.mem_cons_of_mem outer hother)
    simp [List.idxOf?_cons, hne, hrest]

section Line

variable {current : Nat} {line : Line} {rest : List Line}

/-- With nothing queued the layer owes the rest of the line and the lines behind it. -/
lemma owes_of_inLine (h : Stands layer final current ahead) (hqueue : layer.queue = [])
    (hline : OffSide.InLine layer.options final line rest (granted ahead)) :
    Owes final layer ahead (line.content layer.options ++
      OffSide.followAll layer.options final current layer.enclosing line.ending rest) := by
  have howes := Owes.within h
  rwa [hqueue, List.nil_append, hline.fromWithinAll_eq] at howes

/-- A narrower line closes the blocks that are wider, or is refused and goes on all the same. -/
lemma dedentTo_serves (h : Stands layer final current ahead) (hqueue : layer.queue = [])
    (hline : OffSide.InLine layer.options final line rest (granted ahead)) (position : Position)
    (hlt : line.width layer.options < current) {bound : Nat} (hbound : ahead.length < bound) :
    Serves final bound
      (OffSide.followAll layer.options final current layer.enclosing position (line :: rest))
      (layer.dedentTo (line.width layer.options) position) := by
  rw [OffSide.followAll, if_neg (Nat.ne_of_lt hlt), if_neg (Nat.lt_asymm hlt)]
  rcases dedentTo_of_sorted position h.width_eq h.sorted hqueue hlt with
    ⟨wider, narrower, hsplit, hwider, hresult, hstate⟩ | ⟨hmem, hresult, hstate⟩
  -- The widths split at the block that has the width of the line.
  · have hindex := @idxOf?_of_wider (line.width layer.options) wider narrower
      fun outer houter => hwider outer (List.mem_cons_of_mem current houter)
    have hdrop : (wider ++ line.width layer.options :: narrower).drop (wider.length + 1) =
        narrower := by simp
    have hsorted : (line.width layer.options :: narrower).Pairwise (· > ·) := by
      have hsorted := h.sorted
      rw [hsplit, ← List.cons_append] at hsorted
      exact (List.pairwise_append.1 hsorted).2.1
    have hstands : Stands
        { layer with
          width := some (line.width layer.options)
          enclosing := narrower
          queue := layer.dedents position wider.length }
        final (line.width layer.options) ahead := ⟨rfl, hsorted, h.waits, h.calm⟩
    have howes := Owes.within hstands
    rw [hline.fromWithinAll_eq] at howes
    rw [hsplit, hindex]
    dsimp only
    rw [hdrop, List.replicate_succ, List.cons_append]
    exact serves_of_token hresult (hstate ▸ howes) (Nat.le_of_lt hbound)
  -- A refused line leaves the layer standing in the line, in the block it was in.
  · have howes := owes_of_inLine h hqueue hline
    rw [List.idxOf?_eq_none_iff.2 hmem]
    refine serves_of_error hresult ?_ hbound
    rw [hstate]
    exact howes

lemma startLine_serves (h : Stands layer final current ahead) (hqueue : layer.queue = [])
    (hline : OffSide.InLine layer.options final line rest (granted ahead)) (position : Position)
    {bound : Nat} (hbound : ahead.length < bound) :
    Serves final bound
      (OffSide.followAll layer.options final current layer.enclosing position (line :: rest))
      (layer.startLine (line.width layer.options) position) := by
  have hcurrent : layer.width.getD 0 = current := by rw [h.width_eq, Option.getD_some]
  rcases Nat.lt_trichotomy (line.width layer.options) current with hlt | heq | hgt
  · rw [startLine_of_gt position (hcurrent.symm ▸ hlt)]
    exact dedentTo_serves h hqueue hline position hlt hbound
  · rw [OffSide.followAll, if_pos heq, startLine_of_eq position (heq.trans hcurrent.symm)]
    exact serves_of_token rfl (owes_of_inLine h hqueue hline) (Nat.le_of_lt hbound)
  · rw [OffSide.followAll, if_neg (Nat.ne_of_gt hgt), if_pos hgt,
      startLine_of_lt position (hcurrent.symm ▸ hgt), hcurrent]
    have hsorted : (line.width layer.options :: current :: layer.enclosing).Pairwise (· > ·) :=
      List.pairwise_cons_cons_iff_of_trans.2 ⟨hgt, h.sorted⟩
    have hstands : Stands
        { layer with
          width := some (line.width layer.options)
          enclosing := current :: layer.enclosing }
        final (line.width layer.options) ahead := ⟨rfl, hsorted, h.waits, h.calm⟩
    exact serves_of_token rfl (owes_of_inLine hstands hqueue hline) (Nat.le_of_lt hbound)

end Line

/-- Behind a line break the layer begins the next line, or closes all blocks at the end.  If it fails
there, the line break is lost, but the tokens that are left make up blank lines only. -/
lemma continueWithin_serves_newline {current : Nat}
    (h : Stands layer final current (.ok token :: answers)) (hqueue : layer.queue = [])
    (hnewline : token.kind = layer.options.newline) (fuel : Nat) :
    Serves final (answers.length + 1)
      (OffSide.followAll layer.options final current layer.enclosing token.position
        (filledLines layer.options final (granted answers)))
      (continueWithin (fuel + 1) layer) := by
  obtain ⟨htake, hlater⟩ := take_of_waits_ok h.waits
  have hcalm : Calm layer.options .start answers := by
    simpa only [Calm, Place.after, if_pos hnewline] using h.calm
  have hoptions := options_take layer
  have hgauges := nextWidth_gauges (.inr rfl) hlater (hoptions.symm ▸ hcalm)
  have hread := (take_readsOn layer).trans (nextWidth_readsOn layer.take.state)
  rw [hoptions] at hgauges
  -- The outcome is opened by what measuring has come to, so it gets a name first.
  generalize hwidth : layer.take.state.nextWidth = outcome at hgauges hread
  have hlastQueue : outcome.state.queue = [] := hread.queue_eq.trans hqueue
  rw [← hread.enclosing_eq]
  cases hgauges with
  | @finds later line rest ahead hlines hwaits hcalm hline hle events =>
    have hoptions : later.options = layer.options := hread.options_eq
    have hstands := h.readsOn hread hwaits hcalm
    rw [continueWithin_of_newline fuel htake hnewline hwidth, hlines, ← hoptions]
    rw [← hoptions] at hline
    exact (startLine_serves hstands hlastQueue hline token.position
      (Nat.lt_succ_of_le hle)).mono (Nat.le_refl _) _
  | @ends later hlines hwaits events =>
    have hoptions : later.options = layer.options := hread.options_eq
    have hstands := h.readsOn hread hwaits trivial
    rw [continueWithin_of_newline_end fuel htake hnewline hwidth, hlines, ← hoptions]
    exact (finish_serves hstands hlastQueue _).mono (Nat.le_refl _) _
  -- What is owed does not change, as the line break that is lost would have ended in blank lines.
  | @fails later ahead hlines hwaits hrecovers hlt error events =>
    obtain ⟨hcalm, hblank⟩ := hrecovers
    have hstands := h.readsOn hread hwaits hcalm
    have howes := Owes.within hstands
    rw [hlastQueue, List.nil_append, hread.options_eq,
      OffSide.fromWithinAll_of_filledLines_eq_nil (hblank final)] at howes
    rw [continueWithin_of_newline_error fuel htake hnewline hwidth, ← hlines, hblank final]
    exact serves_of_error rfl howes (Nat.lt_succ_of_lt hlt)

/-- The induction is on the fuel; white space inside a line is no part of what is owed. -/
lemma continueWithin_serves {fuel current : Nat} (h : Stands layer final current answers)
    (hqueue : layer.queue = []) (hfuel : (granted answers).length < fuel) :
    Serves final answers.length
      (OffSide.fromWithinAll layer.options final current layer.enclosing (granted answers))
      (continueWithin fuel layer) := by
  induction fuel generalizing layer answers with
  | zero => omega
  | succ fuel ih =>
    have hread := take_readsOn layer
    have hlaterQueue : layer.take.state.queue = [] := hread.queue_eq.trans hqueue
    rw [← hread.enclosing_eq, ← hread.options_eq]
    rcases answers with _ | ⟨error | token, answers⟩
    · obtain ⟨htake, hlater⟩ := take_of_waits_nil h.waits
      have hstands := h.readsOn hread hlater h.calm
      rw [continueWithin_of_end fuel htake]
      exact (finish_serves hstands hlaterQueue 0).mono (Nat.le_refl 0) _
    -- A failure inside a line takes one answer away and leaves all that is owed.
    · obtain ⟨htake, hlater⟩ := take_of_waits_error h.waits
      have howes := Owes.within (h.readsOn hread hlater h.calm.2)
      rw [hlaterQueue, List.nil_append] at howes
      rw [continueWithin_of_error fuel htake]
      exact serves_of_error rfl howes (Nat.lt_succ_self _)
    obtain ⟨htake, hlater⟩ := take_of_waits_ok h.waits
    rw [granted_ok]
    by_cases hnewline : token.kind = layer.options.newline
    · rw [hread.options_eq, hread.enclosing_eq, OffSide.fromWithinAll_of_newline hnewline]
      exact continueWithin_serves_newline h hqueue hnewline fuel
    -- Inside a line the place stays the same.
    have hstands := h.readsOn hread hlater ((Calm.cons_of_ne_newline hnewline).1 h.calm)
    rw [OffSide.fromWithinAll_of_ne_newline (hread.options_eq.symm ▸ hnewline), hread.options_eq]
    by_cases hwhitespace : token.kind = layer.options.whitespace
    · simp only [granted_ok, List.length_cons] at hfuel
      have hrest := ih hstands hlaterQueue (by omega)
      rw [hread.options_eq] at hrest
      rw [continueWithin_of_whitespace fuel htake hnewline hwhitespace, if_pos hwhitespace,
        List.nil_append]
      exact hrest.mono (Nat.le_succ _) _
    · have howes := Owes.within hstands
      rw [hlaterQueue, List.nil_append, hread.options_eq] at howes
      rw [continueWithin_of_word fuel htake hnewline hwhitespace, if_neg hwhitespace]
      exact serves_of_token rfl howes (Nat.le_succ _)

/-- Outside of all blocks nothing is left to be given at the end. -/
lemma continueWithin_of_waits_nil (h : Waits layer final []) (hqueue : layer.queue = [])
    (henclosing : layer.enclosing = []) (fuel : Nat) :
    (continueWithin (fuel + 1) layer).result = .ok none := by
  have hread := take_readsOn layer
  obtain ⟨htake, -⟩ := take_of_waits_nil h
  rw [continueWithin_of_end fuel htake,
    finish_of_nil (hread.queue_eq.trans hqueue) (hread.enclosing_eq.trans henclosing)]
  rfl

/-- In a line a call gives what is queued first. -/
lemma next_serves_of_stands {current : Nat} (h : Stands layer final current answers) :
    Serves final answers.length (layer.queue ++
      OffSide.fromWithinAll layer.options final current layer.enclosing (granted answers))
      layer.next := by
  have hsettle := settle_of_width h.width_eq
  have hsettled : layer.settle.result = .ok () := by rw [hsettle]
  cases hqueue : layer.queue with
  | nil =>
    rw [next_of_settled hsettled hqueue, hsettle, List.nil_append]
    exact (continueWithin_serves h hqueue h.waits.length_lt).mono (Nat.le_refl _) _
  | cons token queue =>
    have hstands : Stands { layer with queue } final current answers :=
      ⟨h.width_eq, h.sorted, h.waits, h.calm⟩
    rw [next_of_queued hsettled hqueue, hsettle]
    exact serves_of_token rfl (Owes.within hstands) (Nat.le_refl _)

/-- Before the first line a call measures it, and goes on in it. -/
lemma next_serves_of_outset (hwidth : layer.width = none) (henclosing : layer.enclosing = [])
    (hqueue : layer.queue = []) (hwaits : Waits layer final answers)
    (hcalm : Calm layer.options .outset answers) :
    Serves final answers.length (offSideAll layer.options final (granted answers)) layer.next := by
  have hread := nextWidth_readsOn layer
  have hgauges := nextWidth_gauges (.inl rfl) hwaits hcalm
  generalize hnext : layer.nextWidth = outcome at hread hgauges
  cases hgauges with
  | @finds later line rest ahead hlines hwaits hcalm hline hle events =>
    have hsettle := settle_of_nextWidth hwidth hnext
    -- The block that is opened is the outermost one.
    have henclosed : later.enclosing = [] := hread.enclosing_eq.trans henclosing
    have hstands : Stands { later with width := some (line.width layer.options) } final
        (line.width layer.options) ahead :=
      ⟨rfl, by simp [henclosed], hwaits, hread.options_eq.symm ▸ hcalm⟩
    have hserves := continueWithin_serves hstands (hread.queue_eq.trans hqueue)
      hwaits.length_lt
    have howed : OffSide.fromWithinAll later.options final (line.width layer.options)
        later.enclosing (granted ahead) = offSideAll layer.options final (granted answers) := by
      have hoptions : later.options = layer.options := hread.options_eq
      rw [hoptions, henclosed, hline.fromWithinAll_eq, offSideAll, hlines]
    rw [next_of_settled (by rw [hsettle]) hqueue, hsettle, ← howed]
    exact hserves.mono hle _
  | @ends later hlines hwaits events =>
    have hsettle := settle_of_nextWidth hwidth hnext
    have hended := @continueWithin_of_waits_nil σ _ final { later with width := none } hwaits
      (hread.queue_eq.trans hqueue) (hread.enclosing_eq.trans henclosing)
    rw [next_of_settled (by rw [hsettle]) hqueue, hsettle, offSideAll, hlines]
    unfold Serves
    rw [Outcome.result_after, sourceBudget, hended]
  -- Nothing has been found, so the layer is still before the first line.
  | @fails later ahead hlines hwaits hrecovers hlt error events =>
    have hsettle := settle_of_nextWidth_error hwidth hnext
    have howes : Owes final later ahead (offSideAll later.options final (granted ahead)) :=
      .outset (hread.width_eq.trans hwidth) (hread.enclosing_eq.trans henclosing)
        (hread.queue_eq.trans hqueue) hwaits (hread.options_eq.symm ▸ hrecovers)
    have hoptions : later.options = layer.options := hread.options_eq
    rw [hoptions, offSideAll, hlines] at howes
    rw [next_of_unsettled (by rw [hsettle]), hsettle]
    exact serves_of_error rfl howes hlt

/-- **A call serves what is owed.** -/
theorem next_serves {tokens : List Token} (h : Owes final layer answers tokens) :
    Serves final answers.length tokens layer.next := by
  cases h with
  | outset hwidth henclosing hqueue hwaits hcalm =>
    exact next_serves_of_outset hwidth henclosing hqueue hwaits hcalm
  | within h => exact next_serves_of_stands h

/-- The induction is on the calls; each gives one of the tokens or takes one of the answers. -/
lemma persist_of_owes {calls : Nat} {tokens : List Token} (h : Owes final layer answers tokens)
    (hcalls : answers.length + tokens.length < calls) : persist calls layer = some tokens := by
  induction calls generalizing layer answers tokens with
  | zero => omega
  | succ calls ih =>
    -- What a call serves tells which of the three ways it has gone.
    have hserves := next_serves h
    unfold Serves at hserves
    rcases hresult : layer.next.result with error | _ | token
    · rw [hresult] at hserves
      obtain ⟨others, hlt, howes⟩ := hserves
      rw [TokenSource.persist_of_error hresult]
      exact ih howes (by omega)
    · rw [hresult] at hserves
      obtain rfl : tokens = [] := hserves
      exact TokenSource.persist_of_none hresult
    · rw [hresult] at hserves
      obtain ⟨others, rest, hle, rfl, howes⟩ := hserves
      simp only [List.length_cons] at hcalls
      have hrest : persist calls layer.next.state = some rest := ih howes (by omega)
      rw [TokenSource.persist_of_token hresult]
      exact congrArg (Option.map (token :: ·)) hrest

/-- Over a source whose failures are harmless, the layer gives what becomes of all lines. -/
lemma persist_initial_of_calm (options : IndentOptions) {source : σ}
    (h : TokenSource.Answers source final answers) (hcalm : Calm options .outset answers) :
    ∃ calls, ∀ more, calls ≤ more →
      persist more (initial source options) = some (offSideAll options final (granted answers)) := by
  have hwaits : Waits (initial source options) final answers := ⟨answers, h, rfl⟩
  have howes : Owes final (initial source options) answers
      (offSideAll options final (granted answers)) := .outset rfl rfl rfl hwaits hcalm
  exact ⟨_, fun more hle => TokenSource.persist_mono hle
    (persist_of_owes howes (Nat.lt_succ_self _))⟩

/-- **Harmless failures leave no trace.**  One source gives some tokens and fails in between, without
having taken anything; another one gives the same tokens and does not fail.  If the first fails neither
between a line break and the token that shows the next line that is not blank, nor behind the white space
in front of the first line, then somebody who asks a layer again after each failure gets the same from both,
and gets to the end of both. -/
theorem persist_initial {τ : Type} [TokenSource τ] (options : IndentOptions) {faltering : σ}
    {steady : τ} (hfaltering : TokenSource.Answers faltering final answers)
    (hsteady : TokenSource.Supplies steady final (granted answers))
    (hcalm : Calm options .outset answers) :
    ∃ tokens calls, ∀ more, calls ≤ more →
      persist more (initial faltering options) = some tokens ∧
        persist more (initial steady options) = some tokens := by
  obtain ⟨calls, hcalls⟩ := persist_initial_of_calm options hfaltering hcalm
  obtain ⟨calls', hcalls'⟩ := persist_initial_of_calm options hsteady.answers (.map_ok _)
  rw [granted_map_ok] at hcalls'
  exact ⟨_, calls + calls', fun more hle =>
    ⟨hcalls more (by omega), hcalls' more (by omega)⟩⟩

/-! ### Failures in an outline -/

/-- A character that no rule of the lexer below takes. -/
def obstacle : Answer :=
  .error (.noMatch ⟨2, 2, 1⟩ "start" (some '$'))

/-- Two lines with failures before the first, within both and behind the last line break. -/
def calmAnswers : List Answer :=
  [obstacle, .ok (.synthetic "a" ⟨0, 1, 1⟩), obstacle, .ok (.synthetic "nl" ⟨1, 1, 2⟩),
    .ok { Token.synthetic "ws" ⟨2, 2, 1⟩ with value := "  " }, .ok (.synthetic "b" ⟨4, 2, 3⟩),
    obstacle, obstacle, .ok (.synthetic "nl" ⟨5, 2, 4⟩), obstacle]

theorem persist_initial_calmAnswers :
    TokenSource.Answers (⟨calmAnswers⟩ : Rehearsal ⟨6, 3, 1⟩) ⟨6, 3, 1⟩ calmAnswers ∧
      TokenSource.Supplies (Script.start (granted calmAnswers) ⟨6, 3, 1⟩) ⟨6, 3, 1⟩
        (granted calmAnswers) ∧
      Calm .standard .outset calmAnswers ∧
      ∃ tokens calls, ∀ more, calls ≤ more →
        persist more (initial (⟨calmAnswers⟩ : Rehearsal ⟨6, 3, 1⟩) .standard) = some tokens ∧
          persist more (initial (Script.start (granted calmAnswers) ⟨6, 3, 1⟩) .standard) =
            some tokens := by
  have hanswers : TokenSource.Answers (⟨calmAnswers⟩ : Rehearsal ⟨6, 3, 1⟩) ⟨6, 3, 1⟩
      calmAnswers := Rehearsal.answers _
  have hsupplies := Script.supplies (Script.start (granted calmAnswers) ⟨6, 3, 1⟩)
  have hcalm : Calm .standard .outset calmAnswers := by
    simp [Calm, calmAnswers, obstacle, Place.after, Place.Harmless, IndentOptions.standard,
      Token.synthetic, filledLines_nil]
  exact ⟨hanswers, hsupplies, hcalm, persist_initial .standard hanswers hsupplies hcalm⟩

/-- A failure behind a line break. -/
def brokenAnswers : List Answer :=
  [.ok (.synthetic "a" ⟨0, 1, 1⟩), .ok (.synthetic "nl" ⟨1, 1, 2⟩), obstacle,
    .ok (.synthetic "b" ⟨2, 2, 1⟩)]

/-- The line break is lost, and the second line is taken for a part of the first. -/
theorem persist_initial_brokenAnswers :
    persist 4 (initial (⟨brokenAnswers⟩ : Rehearsal ⟨3, 2, 2⟩) .standard) =
        some [.synthetic "a" ⟨0, 1, 1⟩, .synthetic "b" ⟨2, 2, 1⟩] ∧
      persist 4 (initial (Script.start (granted brokenAnswers) ⟨3, 2, 2⟩) .standard) =
        some [.synthetic "a" ⟨0, 1, 1⟩, .synthetic "nl" ⟨1, 1, 2⟩, .synthetic "b" ⟨2, 2, 1⟩] := by
  decide +kernel

end Layer

end Lexical
