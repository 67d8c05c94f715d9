import Lexical.Proofs.Indent.Lines
import Lexical.Proofs.Indent.Rounds

/-!
# What a layer reads in a call

`Layer.Turn` tells what a call makes of the blocks, whatever it has read before.  Here it is told by the
tokens that are read (`Layer.Reads`) what the call comes to: to the next line that is not blank
(`Layer.ComesToLine`), whose width is that of the line that these tokens are, or to the end of the source
(`Layer.ComesToEnd`).  The source may be any, and may fail later.

A layer that comes to a line begins it, unless its source gives more tokens than it has reckoned with
(`Layer.Meets.next_eq`), one that comes to the end closes all blocks (`Layer.MeetsEnd.next_eq`), and one
that does not come to the end does one of the things that `Layer.Ongoing` lists
(`Layer.continueWithin_ongoing`).
-/

namespace Lexical

/-- The outcome is that of a loop which has gone round too often. -/
def Outcome.Stalled {σ α : Type} (outcome : Outcome σ α) : Prop :=
  ∃ position, outcome.result = .error (.stalled position)

lemma Outcome.not_stalled_of_ok {σ α : Type} {outcome : Outcome σ α} {a : α}
    (h : outcome.result = .ok a) : ¬ outcome.Stalled :=
  fun ⟨_, hstalled⟩ => by simp [h] at hstalled

lemma Outcome.Stalled.after {σ α : Type} {outcome : Outcome σ α} (h : outcome.Stalled)
    (events : List Event) : (outcome.after events).Stalled := h

namespace Layer

variable {σ : Type} [TokenSource σ] {layer mid later : Layer σ} {token : Token}
  {tokens others : List Token}

/-! ## Tokens one after the other -/

/-- The layer takes these tokens one after the other, whether read ahead or not, and is `later` then. -/
inductive Reads : Layer σ → List Token → Layer σ → Prop
  | nil (layer : Layer σ) : Reads layer [] layer
  | cons {layer later : Layer σ} {token : Token} {tokens : List Token}
      (h : layer.take.result = .ok (some token)) (hrest : Reads layer.take.state tokens later) :
      Reads layer (token :: tokens) later

lemma Reads.readsOn (h : Reads layer tokens later) : ReadsOn layer later := by
  induction h with
  | nil layer => exact .refl layer
  | cons h hrest ih => exact (take_readsOn _).trans ih

lemma Reads.append (h : Reads layer tokens mid) (hrest : Reads mid others later) :
    Reads layer (tokens ++ others) later := by
  induction h with
  | nil layer => exact hrest
  | cons h _ ih => exact .cons h (ih hrest)

lemma Reads.single (h : layer.take.result = .ok (some token)) :
    Reads layer [token] layer.take.state :=
  .cons h (.nil _)

/-! ## The next line -/

/-- Behind blank lines there is one that is not, of the given width.  `later` has read what is before the
first token that shows it, and looks at that token. -/
def LineAhead (layer : Layer σ) (width : Nat) (later : Layer σ) : Prop :=
  ∃ blank first behind, Reads layer (blank ++ [first]) behind ∧
    later = { behind with here := some first } ∧
    filledLines layer.options first.position blank = [] ∧
    (filledLines layer.options first.position (blank ++ [first])).map (Line.width layer.options) =
      [width]

/-- There are blank lines only, and then the source has no token. -/
def NoLineAhead (layer : Layer σ) : Prop :=
  ∃ blank behind, Reads layer blank behind ∧ behind.take.result = .ok none ∧
    ∀ final, filledLines layer.options final blank = []

/-- These tokens in front make no difference to the lines that are not blank. -/
def Skipped (options : IndentOptions) (skipped : List Token) : Prop :=
  ∀ final tokens, filledLines options final (skipped ++ tokens) = filledLines options final tokens

lemma skipped_newline {options : IndentOptions} (h : token.kind = options.newline) :
    Skipped options [token] :=
  fun _ _ => filledLines_of_newline h

lemma skipped_whitespace_newline {options : IndentOptions} {next : Token}
    (h : token.kind = options.whitespace) (hnext : next.kind = options.newline) :
    Skipped options [token, next] :=
  fun _ _ => filledLines_whitespace_newline h hnext

lemma LineAhead.of_skipped {width : Nat} {skipped : List Token} (hread : Reads layer skipped mid)
    (hskipped : Skipped layer.options skipped) (h : LineAhead mid width later) :
    LineAhead layer width later := by
  obtain ⟨blank, first, behind, hreads, hlater, hblank, hwidth⟩ := h
  rw [hread.readsOn.options_eq] at hblank hwidth
  refine ⟨skipped ++ blank, first, behind, ?_, hlater, (hskipped _ _).trans hblank, ?_⟩
  · rw [List.append_assoc]
    exact hread.append hreads
  · rw [List.append_assoc, hskipped]
    exact hwidth

lemma NoLineAhead.of_skipped {skipped : List Token} (hread : Reads layer skipped mid)
    (hskipped : Skipped layer.options skipped) (h : NoLineAhead mid) : NoLineAhead layer := by
  obtain ⟨blank, behind, hreads, hend, hblank⟩ := h
  rw [hread.readsOn.options_eq] at hblank
  exact ⟨skipped ++ blank, behind, hread.append hreads, hend,
    fun final => (hskipped _ _).trans (hblank final)⟩

lemma lineAhead_bare (h : layer.take.result = .ok (some token))
    (hnewline : token.kind ≠ layer.options.newline)
    (hwhitespace : token.kind ≠ layer.options.whitespace) :
    LineAhead layer 0 { layer.take.state with here := some token } := by
  refine ⟨[], token, _, .single h, rfl, filledLines_nil, ?_⟩
  simp [filledLines, lines, hnewline, hwhitespace, Line.push, Line.isBlank, Line.width]

lemma lineAhead_indented {next : Token} (h : layer.take.result = .ok (some token))
    (hnewline : token.kind ≠ layer.options.newline)
    (hwhitespace : token.kind = layer.options.whitespace)
    (hnext : layer.take.state.take.result = .ok (some next))
    (hfilled : next.kind ≠ layer.options.newline) :
    LineAhead layer token.value.length { layer.take.state.take.state with here := some next } := by
  refine ⟨[token], next, _, .cons h (.single hnext), rfl, filledLines_whitespace hwhitespace, ?_⟩
  rw [hwhitespace] at hnewline
  simp [filledLines, lines, hnewline, hfilled, hwhitespace, Line.push, Line.isBlank, Line.width]

/-- What measuring the next line comes to tells of the tokens that are read. -/
def Measured (layer : Layer σ) (outcome : Outcome (Layer σ) (Option Nat)) : Prop :=
  match outcome.result with
  | .ok (some width) => LineAhead layer width outcome.state
  | .ok none => NoLineAhead layer
  | .error _ => True

lemma Measured.of_skipped {skipped : List Token} {outcome : Outcome (Layer σ) (Option Nat)}
    (hread : Reads layer skipped mid) (hskipped : Skipped layer.options skipped)
    (h : Measured mid outcome) (events : List Event) : Measured layer (outcome.after events) := by
  obtain ⟨_ | _ | width, state, more⟩ := outcome
  · trivial
  · exact NoLineAhead.of_skipped hread hskipped h
  · exact LineAhead.of_skipped hread hskipped h

/-- The induction is on the fuel; each round skips a line break, alone or behind white space. -/
lemma nextWidthWithin_measured (fuel : Nat) (layer : Layer σ) :
    Measured layer (nextWidthWithin fuel layer) := by
  induction fuel generalizing layer with
  | zero => trivial
  | succ fuel ih =>
    rcases htake : layer.take.result with error | _ | token
    · rw [nextWidthWithin_of_error fuel htake]
      trivial
    · rw [nextWidthWithin_of_end fuel htake]
      exact ⟨[], layer, .nil layer, htake, fun _ => filledLines_nil⟩
    -- A line break in front makes a blank line, which is skipped.
    by_cases hnewline : token.kind = layer.options.newline
    · rw [nextWidthWithin_of_newline fuel htake hnewline]
      exact (ih layer.take.state).of_skipped (.single htake) (skipped_newline hnewline) _
    by_cases hwhitespace : token.kind = layer.options.whitespace
    · rcases hnext : layer.take.state.take.result with error | _ | next
      · rw [nextWidthWithin_of_whitespace_error fuel htake hnewline hwhitespace hnext]
        trivial
      · rw [nextWidthWithin_of_whitespace_end fuel htake hnewline hwhitespace hnext]
        exact ⟨[token], _, .single htake, hnext, fun _ => filledLines_whitespace hwhitespace⟩
      -- What stands behind white space tells whether the line is a blank one.
      by_cases hblank : next.kind = layer.options.newline
      · rw [nextWidthWithin_of_blank fuel htake hnewline hwhitespace hnext hblank]
        exact (ih layer.take.state.take.state).of_skipped (.cons htake (.single hnext))
          (skipped_whitespace_newline hwhitespace hblank) _
      · rw [nextWidthWithin_of_indented fuel htake hnewline hwhitespace hnext hblank]
        exact lineAhead_indented htake hnewline hwhitespace hnext hblank
    · rw [nextWidthWithin_of_bare fuel htake hnewline hwhitespace]
      exact lineAhead_bare htake hnewline hwhitespace

lemma nextWidth_measured (layer : Layer σ) : Measured layer layer.nextWidth :=
  nextWidthWithin_measured _ layer

/-! ### Where a line ahead shows -/

section Lines

variable {options : IndentOptions} {final : Position} {next : Token} {width : Nat}

lemma filledLines_bare_ne_nil (hnewline : token.kind ≠ options.newline)
    (hwhitespace : token.kind ≠ options.whitespace) :
    filledLines options final (token :: tokens) ≠ [] := by
  obtain ⟨line, rest, hlines, -⟩ :=
    @OffSide.exists_filledLines_of_ne_whitespace options final token tokens hnewline hwhitespace
  simp [hlines]

lemma filledLines_indented_ne_nil (hnewline : token.kind ≠ options.newline)
    (hwhitespace : token.kind = options.whitespace) (hnext : next.kind ≠ options.newline) :
    filledLines options final (token :: next :: tokens) ≠ [] := by
  obtain ⟨line, rest, hlines, -⟩ :=
    @OffSide.exists_filledLines_of_whitespace options final token tokens next hnewline hwhitespace
      hnext
  simp [hlines]

/-- Blank lines begin with a line break, which may have white space in front. -/
lemma cases_of_blank (h : filledLines options final (token :: tokens) = []) :
    token.kind = options.newline ∨
      token.kind ≠ options.newline ∧ token.kind = options.whitespace ∧
        ∀ next ∈ tokens.head?, next.kind = options.newline := by
  by_cases hnewline : token.kind = options.newline
  · exact .inl hnewline
  have hwhitespace : token.kind = options.whitespace := by
    by_contra hwhitespace
    exact filledLines_bare_ne_nil hnewline hwhitespace h
  refine .inr ⟨hnewline, hwhitespace, fun next hnext => ?_⟩
  obtain ⟨rest, rfl⟩ := List.head?_eq_some_iff.1 hnext
  by_contra hfilled
  exact filledLines_indented_ne_nil hnewline hwhitespace hfilled h

/-- A single token shows a line that is not indented. -/
lemma bare_of_filledLines
    (h : (filledLines options final [token]).map (Line.width options) = [width]) :
    token.kind ≠ options.newline ∧ token.kind ≠ options.whitespace ∧ width = 0 := by
  have hnewline : token.kind ≠ options.newline := by
    intro hnewline
    simp [filledLines_of_newline hnewline, filledLines_nil] at h
  have hwhitespace : token.kind ≠ options.whitespace := by
    intro hwhitespace
    simp [filledLines_whitespace hwhitespace] at h
  obtain ⟨line, rest, hlines, hline, -⟩ :=
    @OffSide.exists_filledLines_of_ne_whitespace options final token [] hnewline hwhitespace
  rw [hlines] at h
  exact ⟨hnewline, hwhitespace, (List.cons.inj h).1.symm.trans hline⟩

/-- A token behind white space shows a line that is indented by it. -/
lemma indented_of_filledLines (hnewline : token.kind ≠ options.newline)
    (hwhitespace : token.kind = options.whitespace)
    (h : (filledLines options final [token, next]).map (Line.width options) = [width]) :
    next.kind ≠ options.newline ∧ width = token.value.length := by
  have hnext : next.kind ≠ options.newline := by
    intro hnext
    simp [filledLines_whitespace_newline hwhitespace hnext, filledLines_nil] at h
  obtain ⟨line, rest, hlines, hline, -⟩ :=
    @OffSide.exists_filledLines_of_whitespace options final token [] next hnewline hwhitespace hnext
  rw [hlines] at h
  exact ⟨hnext, (List.cons.inj h).1.symm.trans hline⟩

end Lines

/-- A line ahead shows in its first token, or in the one behind white space, or lies behind a blank
line. -/
lemma LineAhead.exists_take {width : Nat} (h : LineAhead layer width later) :
    ∃ token, layer.take.result = .ok (some token) ∧
      (token.kind = layer.options.newline ∧ LineAhead layer.take.state width later ∨
        token.kind ≠ layer.options.newline ∧ token.kind = layer.options.whitespace ∧
          (∃ next, layer.take.state.take.result = .ok (some next) ∧
            (next.kind = layer.options.newline ∧
                LineAhead layer.take.state.take.state width later ∨
              next.kind ≠ layer.options.newline ∧ width = token.value.length ∧
                later = { layer.take.state.take.state with here := some next })) ∨
        token.kind ≠ layer.options.newline ∧ token.kind ≠ layer.options.whitespace ∧ width = 0 ∧
          later = { layer.take.state with here := some token }) := by
  obtain ⟨blank, first, behind, hreads, rfl, hblank, hwidth⟩ := h
  have hoptions := options_take layer
  have hoptions' := (options_take layer.take.state).trans hoptions
  rcases blank with _ | ⟨token, blank⟩
  -- Nothing blank is in front, so the first token is the one that shows the line.
  · obtain _ | ⟨htake, _ | _⟩ := hreads
    obtain ⟨hnewline, hwhitespace, rfl⟩ := bare_of_filledLines hwidth
    exact ⟨first, htake, .inr (.inr ⟨hnewline, hwhitespace, rfl, rfl⟩)⟩
  obtain _ | ⟨htake, hrest⟩ := hreads
  refine ⟨token, htake, ?_⟩
  rcases cases_of_blank hblank with hnewline | ⟨hnewline, hwhitespace, hblankNext⟩
  · rw [filledLines_of_newline hnewline, ← hoptions] at hblank
    rw [List.cons_append, filledLines_of_newline hnewline, ← hoptions] at hwidth
    exact .inl ⟨hnewline, blank, first, _, hrest, rfl, hblank, hwidth⟩
  -- With white space in front, the line shows in the next token, or that one ends a blank line.
  refine .inr (.inl ⟨hnewline, hwhitespace, ?_⟩)
  rcases blank with _ | ⟨next, blank⟩
  · obtain _ | ⟨hnext, _ | _⟩ := hrest
    obtain ⟨hfilled, rfl⟩ := indented_of_filledLines hnewline hwhitespace hwidth
    exact ⟨first, hnext, .inr ⟨hfilled, rfl, rfl⟩⟩
  · obtain _ | ⟨hnext, hrest⟩ := hrest
    have hblankNext : next.kind = layer.options.newline := hblankNext next rfl
    rw [filledLines_whitespace_newline hwhitespace hblankNext, ← hoptions'] at hblank
    rw [List.cons_append, List.cons_append,
      filledLines_whitespace_newline hwhitespace hblankNext, ← hoptions'] at hwidth
    exact ⟨next, hnext, .inl ⟨hblankNext, blank, first, _, hrest, rfl, hblank, hwidth⟩⟩

/-- Measuring stops at a line ahead, if it is not stopped before.  The induction is on the fuel. -/
lemma nextWidthWithin_of_lineAhead {width : Nat} (fuel : Nat) (h : LineAhead layer width later) :
    (nextWidthWithin fuel layer).Stalled ∨
      ((nextWidthWithin fuel layer).result = .ok (some width) ∧
        (nextWidthWithin fuel layer).state = later) := by
  induction fuel generalizing layer with
  | zero => exact .inl ⟨_, rfl⟩
  | succ fuel ih =>
    obtain ⟨token, htake, hcases⟩ := h.exists_take
    rcases hcases with ⟨hnewline, hrest⟩ | ⟨hnewline, hwhitespace, next, hnext, hcases⟩ |
      ⟨hnewline, hwhitespace, rfl, rfl⟩
    · rw [nextWidthWithin_of_newline fuel htake hnewline]
      exact ih hrest
    · rcases hcases with ⟨hblank, hrest⟩ | ⟨hfilled, rfl, rfl⟩
      · rw [nextWidthWithin_of_blank fuel htake hnewline hwhitespace hnext hblank]
        exact ih hrest
      · rw [nextWidthWithin_of_indented fuel htake hnewline hwhitespace hnext hfilled]
        exact .inr ⟨rfl, rfl⟩
    · rw [nextWidthWithin_of_bare fuel htake hnewline hwhitespace]
      exact .inr ⟨rfl, rfl⟩

/-- With blank lines only, the source ends, perhaps behind white space, or there is a blank line in
front. -/
lemma NoLineAhead.exists_take (h : NoLineAhead layer) :
    layer.take.result = .ok none ∨
      ∃ token, layer.take.result = .ok (some token) ∧
        (token.kind = layer.options.newline ∧ NoLineAhead layer.take.state ∨
          token.kind ≠ layer.options.newline ∧ token.kind = layer.options.whitespace ∧
            (layer.take.state.take.result = .ok none ∨
              ∃ next, layer.take.state.take.result = .ok (some next) ∧
                next.kind = layer.options.newline ∧
                NoLineAhead layer.take.state.take.state)) := by
  obtain ⟨blank, behind, hreads, hend, hblank⟩ := h
  have hoptions := options_take layer
  have hoptions' := (options_take layer.take.state).trans hoptions
  rcases blank with _ | ⟨token, blank⟩
  · obtain _ | _ := hreads
    exact .inl hend
  obtain _ | ⟨htake, hrest⟩ := hreads
  refine .inr ⟨token, htake, ?_⟩
  rcases cases_of_blank (hblank .start) with hnewline | ⟨hnewline, hwhitespace, hblankNext⟩
  · refine .inl ⟨hnewline, blank, behind, hrest, hend, fun final => ?_⟩
    rw [hoptions, ← filledLines_of_newline hnewline]
    exact hblank final
  refine .inr ⟨hnewline, hwhitespace, ?_⟩
  rcases blank with _ | ⟨next, blank⟩
  · obtain _ | _ := hrest
    exact .inl hend
  · obtain _ | ⟨hnext, hrest⟩ := hrest
    have hblankNext : next.kind = layer.options.newline := hblankNext next rfl
    refine .inr ⟨next, hnext, hblankNext, blank, behind, hrest, hend, fun final => ?_⟩
    rw [hoptions', ← filledLines_whitespace_newline hwhitespace hblankNext]
    exact hblank final

/-- Measuring finds no line where there is none, if it is not stopped before.  The induction is on the
fuel. -/
lemma nextWidthWithin_of_noLineAhead (fuel : Nat) (h : NoLineAhead layer) :
    (nextWidthWithin fuel layer).Stalled ∨ (nextWidthWithin fuel layer).result = .ok none := by
  induction fuel generalizing layer with
  | zero => exact .inl ⟨_, rfl⟩
  | succ fuel ih =>
    rcases h.exists_take with hend | ⟨token, htake, hcases⟩
    · rw [nextWidthWithin_of_end fuel hend]
      exact .inr rfl
    rcases hcases with ⟨hnewline, hrest⟩ | ⟨hnewline, hwhitespace, hcases⟩
    · rw [nextWidthWithin_of_newline fuel htake hnewline]
      exact ih hrest
    rcases hcases with hend | ⟨next, hnext, hblank, hrest⟩
    · rw [nextWidthWithin_of_whitespace_end fuel htake hnewline hwhitespace hend]
      exact .inr rfl
    · rw [nextWidthWithin_of_blank fuel htake hnewline hwhitespace hnext hblank]
      exact ih hrest

/-! ## What a call comes to -/

/-- White space inside a line is all that is taken between the two. -/
def OverWhite (layer later : Layer σ) : Prop :=
  ∃ white, Reads layer white later ∧
    ∀ token ∈ white, token.kind ≠ layer.options.newline ∧ token.kind = layer.options.whitespace

lemma OverWhite.refl (layer : Layer σ) : OverWhite layer layer :=
  ⟨[], .nil layer, by simp⟩

lemma OverWhite.readsOn (h : OverWhite layer mid) : ReadsOn layer mid := by
  obtain ⟨white, hreads, -⟩ := h
  exact hreads.readsOn

lemma OverWhite.of_take (h : layer.take.result = .ok (some token))
    (hnewline : token.kind ≠ layer.options.newline)
    (hwhitespace : token.kind = layer.options.whitespace)
    (hrest : OverWhite layer.take.state later) : OverWhite layer later := by
  obtain ⟨white, hreads, hwhite⟩ := hrest
  rw [options_take] at hwhite
  refine ⟨token :: white, .cons h hreads, fun other hother => ?_⟩
  rcases List.mem_cons.1 hother with rfl | hother
  · exact ⟨hnewline, hwhitespace⟩
  · exact hwhite other hother

/-- The line ends at `position`, and behind it is one of the given width. -/
def ComesToLine (layer : Layer σ) (width : Nat) (position : Position) (later : Layer σ) : Prop :=
  ∃ mid newline, OverWhite layer mid ∧ mid.take.result = .ok (some newline) ∧
    newline.kind = mid.options.newline ∧ newline.position = position ∧
    LineAhead mid.take.state width later

/-- The line ends at the end of the source, or at a line break behind which there are blank lines
only. -/
def ComesToEnd (layer : Layer σ) : Prop :=
  ∃ mid, OverWhite layer mid ∧ (mid.take.result = .ok none ∨
    ∃ newline, mid.take.result = .ok (some newline) ∧ newline.kind = mid.options.newline ∧
      NoLineAhead mid.take.state)

/-- What a call comes to that does not come to the end. -/
inductive Ongoing (layer : Layer σ) : Outcome (Layer σ) (Option Token) → Prop
  | fails {later : Layer σ} (h : ReadsOn layer later) (error : LexerError) (events : List Event) :
      Ongoing layer ⟨.error error, later, events⟩
  | passes {later : Layer σ} (h : ReadsOn layer later) (token : Token) (events : List Event) :
      Ongoing layer ⟨.ok (some token), later, events⟩
  | begins {later : Layer σ} (h : ReadsOn layer later) (width : Nat) (position : Position)
      (hline : ComesToLine layer width position later) (events : List Event) :
      Ongoing layer ((later.startLine width position).after events)

lemma Ongoing.after {outcome : Outcome (Layer σ) (Option Token)}
    (h : Ongoing layer outcome) (events : List Event) : Ongoing layer (outcome.after events) := by
  cases h with
  | fails h error more => exact .fails h error _
  | passes h token more => exact .passes h token _
  | begins h width position hline more =>
    rw [Outcome.after_after]
    exact .begins h width position hline _

/-- White space in front is skipped. -/
lemma Ongoing.of_take {outcome : Outcome (Layer σ) (Option Token)}
    (htake : layer.take.result = .ok (some token)) (hnewline : token.kind ≠ layer.options.newline)
    (hwhitespace : token.kind = layer.options.whitespace)
    (h : Ongoing layer.take.state outcome) : Ongoing layer outcome := by
  have hread := take_readsOn layer
  cases h with
  | fails h error events => exact .fails (hread.trans h) error events
  | passes h token events => exact .passes (hread.trans h) token events
  | begins h width position hline events =>
    obtain ⟨mid, newline, hover, hline⟩ := hline
    exact .begins (hread.trans h) width position
      ⟨mid, newline, hover.of_take htake hnewline hwhitespace, hline⟩ events

/-- The induction is on the fuel, as for `continueWithin_turn`. -/
lemma continueWithin_ongoing (fuel : Nat) (layer : Layer σ) :
    ComesToEnd layer ∨ Ongoing layer (continueWithin fuel layer) := by
  induction fuel generalizing layer with
  | zero => exact .inr (.fails (.refl layer) _ _)
  | succ fuel ih =>
    have hread := take_readsOn layer
    rcases htake : layer.take.result with error | _ | token
    · rw [continueWithin_of_error fuel htake]
      exact .inr (.fails hread error _)
    · exact .inl ⟨layer, .refl layer, .inl htake⟩
    by_cases hnewline : token.kind = layer.options.newline
    · have hwidth := nextWidth_readsOn layer.take.state
      have hmeasured := nextWidth_measured layer.take.state
      -- Measuring the line behind the line break fails, finds nothing or finds a line.
      rcases hnext : layer.take.state.nextWidth with ⟨error | _ | width, last, events⟩
      all_goals rw [hnext] at hwidth hmeasured
      · rw [continueWithin_of_newline_error fuel htake hnewline hnext]
        exact .inr (.fails (hread.trans hwidth) error _)
      · exact .inl ⟨layer, .refl layer, .inr ⟨token, htake, hnewline, hmeasured⟩⟩
      · have hline : ComesToLine layer width token.position last :=
          ⟨layer, token, .refl layer, htake, hnewline, rfl, hmeasured⟩
        rw [continueWithin_of_newline fuel htake hnewline hnext]
        exact .inr (.begins (hread.trans hwidth) width token.position hline _)
    by_cases hwhitespace : token.kind = layer.options.whitespace
    -- White space is no part of what the call comes to, and can be put in front of it.
    · rw [continueWithin_of_whitespace fuel htake hnewline hwhitespace]
      rcases ih layer.take.state with ⟨mid, hover, hend⟩ | hongoing
      · exact .inl ⟨mid, hover.of_take htake hnewline hwhitespace, hend⟩
      · exact .inr ((hongoing.of_take htake hnewline hwhitespace).after _)
    · rw [continueWithin_of_word fuel htake hnewline hwhitespace]
      exact .inr (.passes hread token _)

/-- White space inside a line is skipped, if there are not too many tokens of it.  The induction is on
these. -/
lemma continueWithin_overWhite (fuel : Nat) (h : OverWhite layer mid) :
    (continueWithin fuel layer).Stalled ∨ ∃ fuel' events,
      continueWithin fuel layer = (continueWithin (fuel' + 1) mid).after events := by
  obtain ⟨white, hreads, hwhite⟩ := h
  induction hreads generalizing fuel with
  | nil layer =>
    cases fuel with
    | zero => exact .inl ⟨_, rfl⟩
    | succ fuel => exact .inr ⟨fuel, [], rfl⟩
  | @cons layer mid token white h hrest ih =>
    cases fuel with
    | zero => exact .inl ⟨_, rfl⟩
    -- The token is white space, so that a round of the loop is spent on it.
    | succ fuel =>
      obtain ⟨hnewline, hwhitespace⟩ := hwhite token (by simp)
      have hrest := ih fuel fun other hother =>
        options_take layer ▸ hwhite other (List.mem_cons_of_mem token hother)
      rw [continueWithin_of_whitespace fuel h hnewline hwhitespace]
      rcases hrest with hstalled | ⟨fuel', events, hmid⟩
      · exact .inl (hstalled.after _)
      · rw [hmid, Outcome.after_after]
        exact .inr ⟨fuel', _, rfl⟩

/-- A layer that comes to a line begins it, if it is not stopped before. -/
lemma continueWithin_of_comesToLine {width : Nat} {position : Position} (fuel : Nat)
    (h : ComesToLine layer width position later) :
    (continueWithin fuel layer).Stalled ∨ ReadsOn layer later ∧ ∃ events,
      continueWithin fuel layer = (later.startLine width position).after events := by
  obtain ⟨mid, newline, hover, htake, hnewline, rfl, hline⟩ := h
  have hread := hover.readsOn.trans (take_readsOn mid)
  have hmeasured := nextWidthWithin_of_lineAhead mid.take.state.sourceBudget hline
  rcases continueWithin_overWhite fuel hover with hstalled | ⟨fuel', events, hmid⟩
  · exact .inl hstalled
  rw [hmid]
  -- The loop goes on as it does behind the white space; there the line break makes it measure the
  -- next line.
  rcases hmeasured with ⟨stop, hstop⟩ | ⟨hresult, rfl⟩
  · rw [continueWithin_of_newline_error fuel' htake hnewline (Outcome.eq_of_result hstop)]
    exact .inl ⟨stop, rfl⟩
  · rw [continueWithin_of_newline fuel' htake hnewline (Outcome.eq_of_result hresult),
      Outcome.after_after]
    exact .inr ⟨hread.trans (nextWidth_readsOn _), _, rfl⟩

/-- A layer that comes to the end closes all blocks, if it is not stopped before. -/
lemma continueWithin_of_comesToEnd (fuel : Nat) (h : ComesToEnd layer) :
    (continueWithin fuel layer).Stalled ∨ ∃ later events, ReadsOn layer later ∧
      continueWithin fuel layer = later.finish.after events := by
  obtain ⟨mid, hover, hend⟩ := h
  have hread := hover.readsOn.trans (take_readsOn mid)
  rcases continueWithin_overWhite fuel hover with hstalled | ⟨fuel', events, hmid⟩
  · exact .inl hstalled
  rw [hmid]
  -- The source ends, or it has only blank lines behind a line break.
  rcases hend with hend | ⟨newline, htake, hnewline, hnone⟩
  · rw [continueWithin_of_end fuel' hend, Outcome.after_after]
    exact .inr ⟨_, _, hread, rfl⟩
  rcases nextWidthWithin_of_noLineAhead mid.take.state.sourceBudget hnone with
    ⟨stop, hstop⟩ | hresult
  · rw [continueWithin_of_newline_error fuel' htake hnewline (Outcome.eq_of_result hstop)]
    exact .inl ⟨stop, rfl⟩
  · rw [continueWithin_of_newline_end fuel' htake hnewline (Outcome.eq_of_result hresult),
      Outcome.after_after]
    exact .inr ⟨_, _, hread.trans (nextWidth_readsOn _), rfl⟩

/-! ## Calls -/

/-- A call that finds nothing queued comes to a line. -/
structure Meets (layer : Layer σ) (width : Nat) (position : Position) (later : Layer σ) : Prop where
  queue_eq : layer.queue = []
  settled : layer.settle.result = .ok ()
  comes : ComesToLine layer.settle.state width position later

/-- **A call that comes to a line begins it**, unless it stalls. -/
theorem Meets.next_eq {width : Nat} {position : Position} (h : Meets layer width position later) :
    layer.next.Stalled ∨ ∃ settled events, Settles layer settled ∧ ReadsOn settled later ∧
      layer.next = (later.startLine width position).after events := by
  have hcontinues := continueWithin_of_comesToLine layer.settle.state.sourceBudget h.comes
  rw [next_of_settled h.settled h.queue_eq]
  rcases hcontinues with hstalled | ⟨hread, events, hbegins⟩
  · exact .inl (hstalled.after _)
  · rw [hbegins, Outcome.after_after]
    exact .inr ⟨_, _, settles_of_settled h.settled, hread, rfl⟩

/-- A call that finds nothing queued comes to the end. -/
structure MeetsEnd (layer : Layer σ) : Prop where
  queue_eq : layer.queue = []
  settled : layer.settle.result = .ok ()
  comes : ComesToEnd layer.settle.state

/-- **A call that comes to the end closes all blocks**, unless it stalls. -/
theorem MeetsEnd.next_eq (h : MeetsEnd layer) :
    layer.next.Stalled ∨ ∃ settled later events, Settles layer settled ∧ ReadsOn settled later ∧
      layer.next = later.finish.after events := by
  have hcontinues := continueWithin_of_comesToEnd layer.settle.state.sourceBudget h.comes
  rw [next_of_settled h.settled h.queue_eq]
  rcases hcontinues with hstalled | ⟨later, events, hread, hfinishes⟩
  · exact .inl (hstalled.after _)
  · rw [hfinishes, Outcome.after_after]
    exact .inr ⟨_, later, _, settles_of_settled h.settled, hread, rfl⟩

end Layer

end Lexical
