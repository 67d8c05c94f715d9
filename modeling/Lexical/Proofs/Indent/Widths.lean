import Lexical.Proofs.Indent.OffSide
import Lexical.Proofs.Indent.Reading
import Lexical.Proofs.Indent.Resume
import Mathlib.Data.List.Pairwise

/-!
# The widths of open blocks

Every block is wider than the one around it, whatever the source does and however often the layer was
resumed (`Layer.Nested`).  Only three things touch the widths: a wider line puts its width in front, a
narrower one takes widths off the front, and the end takes all of them off, and none of the three can put
them out of order.

So the blocks that a narrower line closes are just those that are wider than it, and it is refused just if
it stands at the width of no block (`Layer.Unwinds`).  A call that fails leaves the blocks and the queue
alone, and the width of the current block too, unless it is then that it was found
(`Layer.FailsInPlace`).
-/

namespace Lexical

namespace Layer

variable {σ : Type}

/-- The blocks get wider inwards, up to the current one, whose width is known if there are any around it;
and what is queued are dedents. -/
structure Nested [TokenSource σ] (layer : Layer σ) : Prop where
  increasing : layer.save.stack.Pairwise (· < ·)
  below : ∀ outer ∈ layer.save.stack, ∃ current, layer.width = some current ∧ outer < current
  queue : ∀ token ∈ layer.queue, ∃ position, token = .synthetic layer.options.dedent position

/-! ## Unwinding -/

/-- A block of the width that is wanted is not left. -/
lemma unwind_self (width : Nat) (enclosing : List Nat) :
    unwind width width enclosing = (width, enclosing) := by
  cases enclosing with
  | nil => rfl
  | cons outer enclosing => rw [unwind, if_neg (Nat.lt_irrefl width)]

/-- All wider blocks are left.  The induction is on these. -/
lemma unwind_append {width current : Nat} {wider : List Nat} (narrower : List Nat)
    (h : ∀ outer ∈ current :: wider, width < outer) :
    unwind width current (wider ++ width :: narrower) = (width, narrower) := by
  induction wider generalizing current with
  | nil =>
    rw [List.nil_append, unwind, if_pos (h current (by simp))]
    exact unwind_self width narrower
  | cons outer wider ih =>
    rw [List.cons_append, unwind, if_pos (h current (by simp))]
    exact ih fun other hother => h other (List.mem_cons_of_mem current hother)

/-- The width that a line is measured against in vain: the greatest of the open ones that it is not less
than, else the outermost. -/
def Nearest (width : Nat) (widths : List Nat) (expected : Nat) : Prop :=
  (expected ∈ widths ∧ expected ≤ width ∧ ∀ other ∈ widths, other ≤ width → other ≤ expected) ∨
    ((∀ other ∈ widths, width < other) ∧ widths.getLast? = some expected)

/-- The first of the widths that are not greater is the greatest of them. -/
lemma nearest_of_sorted {width current : Nat} {enclosing : List Nat}
    (hsorted : (current :: enclosing).Pairwise (· > ·)) (hlt : width < current) :
    Nearest width (current :: enclosing) (OffSide.nearest width current enclosing) := by
  unfold OffSide.nearest
  cases hfind : enclosing.find? (· ≤ width) with
  -- No block is narrow enough, so the outermost one is the nearest.
  | none =>
    right
    have hwider := List.find?_eq_none.1 hfind
    refine ⟨fun other hother => ?_, by simp [List.getLast?_eq_some_getLast]⟩
    rcases List.mem_cons.1 hother with rfl | hother
    · exact hlt
    · simpa using hwider other hother
  | some expected =>
    left
    obtain ⟨hle, before, behind, rfl, hbefore⟩ := List.find?_eq_some_iff_append.1 hfind
    refine ⟨by simp, by simpa using hle, fun other hother hsmall => ?_⟩
    rcases List.mem_cons.1 hother with rfl | hother
    · omega
    rcases List.mem_append.1 hother with hother | hother
    -- The blocks in front of the one that is found were passed over as too wide; those behind it
    -- are narrower.
    · have hwider := hbefore other hother
      simp only [Bool.not_eq_true', decide_eq_false_iff_not] at hwider
      omega
    · rcases List.mem_cons.1 hother with rfl | hother
      · exact Nat.le_refl other
      · have hbehind := (List.pairwise_append.1 hsorted.of_cons).2.1
        exact Nat.le_of_lt (List.rel_of_pairwise_cons hbehind hother)

lemma exists_eq_synthetic_of_mem_dedents {layer : Layer σ} {position : Position} {count : Nat}
    {token : Token} (h : token ∈ layer.dedents position count) :
    ∃ place, token = .synthetic layer.options.dedent place :=
  ⟨position, List.eq_of_mem_replicate h⟩

variable [TokenSource σ] {origin layer later : Layer σ}

/-- A narrower line stands at the width of a block, and those between are closed, or it stands at that of
none, and nothing changes. -/
lemma dedentTo_of_sorted {width current : Nat} (position : Position)
    (hwidth : layer.width = some current) (hsorted : (current :: layer.enclosing).Pairwise (· > ·))
    (hqueue : layer.queue = []) (hlt : width < current) :
    (∃ wider narrower, layer.enclosing = wider ++ width :: narrower ∧
        (∀ outer ∈ current :: wider, width < outer) ∧
        (layer.dedentTo width position).result =
          .ok (some (.synthetic layer.options.dedent position)) ∧
        (layer.dedentTo width position).state =
          { layer with
            width := some width
            enclosing := narrower
            queue := layer.dedents position wider.length }) ∨
      (width ∉ layer.enclosing ∧
        (layer.dedentTo width position).result = .error (.inconsistentIndentation layer.position
          width (OffSide.nearest width current layer.enclosing)) ∧
        (layer.dedentTo width position).state = layer) := by
  have hcurrent : layer.width.getD 0 = current := by rw [hwidth, Option.getD_some]
  have hcases := dedentTo_cases position hqueue (hcurrent.symm ▸ hlt)
  have hunwind := unwind_of_sorted hsorted hlt
  rw [hcurrent] at hcases
  -- Unwinding stops at the width of the line exactly if a block around has it.
  by_cases hmem : width ∈ layer.enclosing
  · obtain ⟨wider, narrower, hsplit⟩ := List.append_of_mem hmem
    have hwider : ∀ outer ∈ current :: wider, width < outer := by
      rw [hsplit, ← List.cons_append] at hsorted
      exact fun outer houter => (List.pairwise_append.1 hsorted).2.2 outer houter width (by simp)
    have hnarrower := unwind_append narrower hwider
    rw [← hsplit] at hnarrower
    rcases hcases with ⟨outer, closed, kept, henclosing, hkept, hresult, hstate⟩ | ⟨hne, -⟩
    · rw [hnarrower] at hkept
      obtain rfl : narrower = kept := (Prod.mk.inj hkept).2
      have hlength : closed.length = wider.length := by
        have := congrArg List.length (hsplit.symm.trans henclosing)
        simp only [List.length_append, List.length_cons] at this
        omega
      exact .inl ⟨wider, narrower, hsplit, hwider, hresult, hlength ▸ hstate⟩
    · exact absurd (congrArg Prod.fst hnarrower) hne
  · have hnone : layer.enclosing.idxOf? width = none := List.idxOf?_eq_none_iff.2 hmem
    rw [hnone] at hunwind
    obtain ⟨hne, hnearest⟩ := hunwind
    rcases hcases with ⟨outer, closed, kept, -, hkept, -⟩ | ⟨-, hresult, hstate⟩
    · exact absurd (congrArg Prod.fst hkept) hne
    · exact .inr ⟨hmem, hnearest ▸ hresult, hstate⟩

/-! ## The invariant -/

namespace Nested

lemma sorted (h : Nested layer) {current : Nat} (hwidth : layer.width = some current) :
    (current :: layer.enclosing).Pairwise (· > ·) := by
  refine List.pairwise_cons.2 ⟨fun outer houter => ?_, List.pairwise_reverse.1 h.increasing⟩
  obtain ⟨width, hcurrent, hlt⟩ := h.below outer (List.mem_reverse.2 houter)
  rw [hwidth] at hcurrent
  obtain rfl := Option.some.inj hcurrent
  exact hlt

lemma of_sorted {current : Nat} (hwidth : layer.width = some current)
    (hsorted : (current :: layer.enclosing).Pairwise (· > ·))
    (hqueue : ∀ token ∈ layer.queue, ∃ position,
      token = .synthetic layer.options.dedent position) : Nested layer where
  increasing := List.pairwise_reverse.2 hsorted.of_cons
  below _ houter :=
    ⟨current, hwidth, List.rel_of_pairwise_cons hsorted (List.mem_reverse.1 houter)⟩
  queue := hqueue

lemma of_enclosing_eq_nil (henclosing : layer.enclosing = [])
    (hqueue : ∀ token ∈ layer.queue, ∃ position,
      token = .synthetic layer.options.dedent position) : Nested layer :=
  ⟨by simp [save, henclosing], by simp [save, henclosing], hqueue⟩

/-- Without a width there are no blocks around the current one. -/
lemma enclosing_eq_nil (h : Nested layer) (hwidth : layer.width = none) : layer.enclosing = [] := by
  by_contra hne
  obtain ⟨outer, houter⟩ := List.exists_mem_of_ne_nil _ hne
  obtain ⟨current, hcurrent, -⟩ := h.below outer (List.mem_reverse.2 houter)
  simp [hwidth] at hcurrent

/-- The invariant is about the widths, the queue and the options. -/
lemma congr (h : Nested layer) (hoptions : later.options = layer.options)
    (hwidth : layer.enclosing ≠ [] → later.width = layer.width)
    (henclosing : later.enclosing = layer.enclosing)
    (hqueue : ∀ token ∈ later.queue, token ∈ layer.queue) : Nested later := by
  have hdedents : ∀ token ∈ later.queue, ∃ position,
      token = .synthetic later.options.dedent position :=
    fun token htoken => hoptions ▸ h.queue token (hqueue token htoken)
  -- Without blocks around only the queue counts, and with some the width is known.
  by_cases hnil : layer.enclosing = []
  · exact of_enclosing_eq_nil (henclosing.trans hnil) hdedents
  · obtain ⟨outer, houter⟩ := List.exists_mem_of_ne_nil _ hnil
    obtain ⟨current, hcurrent, -⟩ := h.below outer (List.mem_reverse.2 houter)
    exact of_sorted ((hwidth hnil).trans hcurrent) (henclosing ▸ h.sorted hcurrent) hdedents

lemma readsOn (h : Nested layer) (hread : ReadsOn layer later) : Nested later :=
  h.congr hread.options_eq (fun _ => hread.width_eq) hread.enclosing_eq
    (fun _ htoken => hread.queue_eq ▸ htoken)

lemma settles (h : Nested layer) (hsettles : Settles layer later) : Nested later := by
  refine h.congr hsettles.options_eq (fun hne => hsettles.width_eq ?_) hsettles.enclosing_eq
    (fun _ htoken => hsettles.queue_eq ▸ htoken)
  rw [Option.isSome_iff_ne_none]
  exact fun hnone => hne (h.enclosing_eq_nil hnone)

end Nested

/-! ## Steps -/

/-- The blocks that are left lie in each other, as they did before. -/
lemma dedentTo_nested (h : Nested layer) (hqueue : layer.queue = []) {width : Nat}
    (position : Position) (hlt : width < layer.width.getD 0) :
    Nested (layer.dedentTo width position).state := by
  cases hwidth : layer.width with
  | none => simp [hwidth] at hlt
  | some current =>
    rw [hwidth, Option.getD_some] at hlt
    have hsorted := h.sorted hwidth
    rcases dedentTo_of_sorted position hwidth hsorted hqueue hlt with
      ⟨wider, narrower, hsplit, -, -, hstate⟩ | ⟨-, -, hstate⟩
    · rw [hstate]
      rw [hsplit, ← List.cons_append] at hsorted
      exact .of_sorted rfl (List.pairwise_append.1 hsorted).2.1
        fun token => exists_eq_synthetic_of_mem_dedents
    · rw [hstate]
      exact h

lemma startLine_nested (h : Nested layer) (hqueue : layer.queue = []) (width : Nat)
    (position : Position) : Nested (layer.startLine width position).state := by
  rcases Nat.lt_trichotomy width (layer.width.getD 0) with hlt | heq | hgt
  · rw [startLine_of_gt position hlt]
    exact dedentTo_nested h hqueue position hlt
  · rw [startLine_of_eq position heq]
    exact h
  · rw [startLine_of_lt position hgt]
    refine .of_sorted rfl ?_ h.queue
    -- Before the first line there is no width, and then there are no blocks either.
    cases hwidth : layer.width with
    | none =>
      rw [hwidth] at hgt
      simpa [h.enclosing_eq_nil hwidth] using hgt
    | some current =>
      rw [hwidth] at hgt
      exact List.pairwise_cons_cons_iff_of_trans.2 ⟨hgt, h.sorted hwidth⟩

lemma finish_nested (h : Nested layer) (hqueue : layer.queue = []) :
    Nested layer.finish.state := by
  cases henclosing : layer.enclosing with
  | nil =>
    rw [finish_of_nil hqueue henclosing]
    exact h
  | cons outer enclosing =>
    rw [finish_of_cons hqueue henclosing]
    exact .of_enclosing_eq_nil rfl fun token => exists_eq_synthetic_of_mem_dedents

lemma Turn.nested (h : Nested layer) (hqueue : layer.queue = [])
    {outcome : Outcome (Layer σ) (Option Token)} (hturn : Turn layer outcome) :
    Nested outcome.state := by
  cases hturn with
  | fails hread error events => exact h.readsOn hread
  | passes hread token hfrom events => exact h.readsOn hread
  | begins hread width position events =>
    exact startLine_nested (h.readsOn hread) (hread.queue_eq.trans hqueue) width position
  | ends hread events => exact finish_nested (h.readsOn hread) (hread.queue_eq.trans hqueue)

lemma next_nested (h : Nested layer) : Nested layer.next.state := by
  have hcall := layer.next_call
  generalize layer.next = outcome at hcall
  cases hcall with
  | fails hread error events => exact h.readsOn hread
  -- A dedent that is popped was queued before.
  | pops hsettles token queue hqueue events =>
    refine (h.settles hsettles).congr rfl (fun _ => rfl) rfl fun other hother => ?_
    rw [hsettles.queue_eq, hqueue]
    exact List.mem_cons_of_mem token hother
  | turns hsettles hqueue hturn =>
    exact hturn.nested (h.settles hsettles) (hsettles.queue_eq.trans hqueue)

lemma Reached.options_eq {given : List Token} (h : Reached origin layer given) :
    layer.options = origin.options := by
  induction h with
  | reset text => rfl
  | @next layer given h ih => exact layer.advances_next.2.trans ih
  | resume h hother text ih ihother => exact ihother

/-- The induction is on the run; what is saved is what comes back. -/
lemma Reached.nested {given : List Token} (h : Reached origin layer given) : Nested layer := by
  induction h with
  | reset text => exact .of_enclosing_eq_nil rfl (by simp [Layer.reset, initial])
  | next h ih => exact next_nested ih
  -- What was queued and the widths come back, and the text is no part of the invariant.
  | @resume layer other given others h hother text ih ihother =>
    have hoptions : other.options = layer.options := hother.options_eq.trans h.options_eq.symm
    rw [reset_save hoptions]
    exact ih.congr rfl (fun _ => rfl) rfl (fun _ => id)

/-! ## What a narrower line comes to -/

/-- A line of the given width, which is less than that of the current block, stands at the width of a
block around it or is refused.  Standing at that of a block, it closes all that are wider, and there is
one dedent for each of them. -/
structure Unwinds (layer : Layer σ) (current width : Nat) (position : Position)
    (outcome : Outcome (Layer σ) (Option Token)) : Prop where
  refused_iff : (∃ place expected,
      outcome.result = .error (.inconsistentIndentation place width expected)) ↔
    width ∉ layer.enclosing
  nearest : ∀ place expected,
    outcome.result = .error (.inconsistentIndentation place width expected) →
      Nearest width (current :: layer.enclosing) expected
  result_eq : width ∈ layer.enclosing →
    outcome.result = .ok (some (.synthetic layer.options.dedent position))
  dedents_eq : width ∈ layer.enclosing → outcome.given ++ outcome.state.queue =
    layer.dedents position ((current :: layer.enclosing).countP (width < ·))
  width_eq : width ∈ layer.enclosing → outcome.state.width = some width
  enclosing_eq : width ∈ layer.enclosing →
    outcome.state.enclosing = layer.enclosing.filter (· < width)

/-- Of widths that get smaller, those in front of one are the greater ones and those behind it the
smaller ones. -/
lemma filter_lt_of_sorted {width current : Nat} {wider narrower : List Nat}
    (hsorted : (current :: (wider ++ width :: narrower)).Pairwise (· > ·))
    (hwider : ∀ outer ∈ current :: wider, width < outer) :
    (wider ++ width :: narrower).filter (· < width) = narrower ∧
      (current :: (wider ++ width :: narrower)).countP (width < ·) = wider.length + 1 := by
  have hnarrower : ∀ outer ∈ narrower, outer < width := fun outer houter =>
    List.rel_of_pairwise_cons (List.pairwise_append.1 hsorted.of_cons).2.1 houter
  have hbefore : wider.filter (· < width) = [] := by
    refine List.filter_eq_nil_iff.2 fun outer houter => ?_
    have := hwider outer (List.mem_cons_of_mem current houter)
    simp only [decide_eq_true_eq]
    omega
  have hbehind : narrower.filter (· < width) = narrower :=
    List.filter_eq_self.2 fun outer houter => by simpa using hnarrower outer houter
  have hcounted : (current :: wider).countP (width < ·) = wider.length + 1 :=
    List.countP_eq_length.2 fun outer houter => by simpa using hwider outer houter
  have huncounted : narrower.countP (width < ·) = 0 := by
    refine List.countP_eq_zero.2 fun outer houter => ?_
    have := hnarrower outer houter
    simp only [decide_eq_true_eq]
    omega
  constructor
  · simp [List.filter_append, hbefore, hbehind]
  · rw [← List.cons_append, List.countP_append, hcounted, List.countP_cons, huncounted]
    simp

lemma dedentTo_unwinds {width current : Nat} (position : Position)
    (hwidth : layer.width = some current) (hsorted : (current :: layer.enclosing).Pairwise (· > ·))
    (hqueue : layer.queue = []) (hlt : width < current) :
    Unwinds layer current width position (layer.dedentTo width position) := by
  rcases dedentTo_of_sorted position hwidth hsorted hqueue hlt with
    ⟨wider, narrower, hsplit, hwider, hresult, hstate⟩ | ⟨hmem, hresult, hstate⟩
  -- One dedent is given and the others are queued: one for each block that is wider.
  · have hmem : width ∈ layer.enclosing := by simp [hsplit]
    obtain ⟨hfilter, hcount⟩ := filter_lt_of_sorted (hsplit ▸ hsorted) hwider
    rw [← hsplit] at hfilter hcount
    refine ⟨?_, ?_, fun _ => hresult, fun _ => ?_, fun _ => by rw [hstate], fun _ => ?_⟩
    · simp [hresult, hmem]
    · simp [hresult]
    · rw [hstate, hcount]
      simp [Outcome.given, hresult, dedents, List.replicate_succ]
    · rw [hstate, hfilter]
  · refine ⟨?_, fun place expected herror => ?_, fun h => absurd h hmem, fun h => absurd h hmem,
      fun h => absurd h hmem, fun h => absurd h hmem⟩
    · exact ⟨fun _ => hmem, fun _ => ⟨_, _, hresult⟩⟩
    · rw [hresult] at herror
      obtain ⟨-, -, rfl⟩ := LexerError.inconsistentIndentation.inj (Except.error.inj herror)
      exact nearest_of_sorted hsorted hlt

omit [TokenSource σ] in
lemma Unwinds.congr {current width : Nat} {position : Position}
    {outcome : Outcome (Layer σ) (Option Token)} (h : Unwinds later current width position outcome)
    (henclosing : later.enclosing = layer.enclosing) (hoptions : later.options = layer.options)
    (events : List Event) : Unwinds layer current width position (outcome.after events) := by
  obtain ⟨hrefused, hnearest, hresult, hdedents, hwidth, hkept⟩ := h
  simp only [dedents, henclosing, hoptions] at hrefused hnearest hresult hdedents hwidth hkept
  exact ⟨hrefused, hnearest, hresult, hdedents, hwidth, hkept⟩

lemma Nested.unwinds {current width : Nat} {position : Position} (h : Nested layer)
    (hmeets : Meets layer width position later) (hcurrent : later.width = some current)
    (hlt : width < current) (hends : ¬ layer.next.Stalled) :
    Unwinds layer current width position layer.next := by
  rcases hmeets.next_eq with hstalled | ⟨settled, events, hsettles, hread, hnext⟩
  · exact absurd hstalled hends
  have hlater : Nested later := (h.settles hsettles).readsOn hread
  have hqueue : later.queue = [] :=
    (hread.queue_eq.trans hsettles.queue_eq).trans hmeets.queue_eq
  -- Settling and reading have left the blocks, so that the widths are still sorted where the line
  -- begins.
  have hunwinds := dedentTo_unwinds position hcurrent (hlater.sorted hcurrent) hqueue hlt
  rw [hnext, startLine_of_gt position (by rwa [hcurrent, Option.getD_some])]
  exact hunwinds.congr (hread.enclosing_eq.trans hsettles.enclosing_eq)
    (hread.options_eq.trans hsettles.options_eq) events

/-! ## Failing calls -/

/-- The blocks and what is queued are as they were, and so is the width, unless it was not known and is
now that of the first line. -/
structure FailsInPlace (layer later : Layer σ) : Prop where
  enclosing_eq : later.enclosing = layer.enclosing
  queue_eq : later.queue = layer.queue
  width_eq : later.width = layer.width ∨
    layer.width = none ∧ ∃ width ahead, LineAhead layer width ahead ∧ later.width = some width

lemma state_startLine_of_error {width : Nat} {position : Position} {error : LexerError}
    (hqueue : layer.queue = []) (h : (layer.startLine width position).result = .error error) :
    (layer.startLine width position).state = layer := by
  rcases Nat.lt_trichotomy width (layer.width.getD 0) with hlt | heq | hgt
  · rw [startLine_of_gt position hlt] at h ⊢
    rcases dedentTo_cases position hqueue hlt with ⟨_, _, _, _, _, hresult, -⟩ | ⟨-, -, hstate⟩
    · simp [hresult] at h
    · exact hstate
  · simp [startLine_of_eq position heq] at h
  · simp [startLine_of_lt position hgt] at h

/-- A failing call has done no more than read. -/
lemma Turn.readsOn_of_error {outcome : Outcome (Layer σ) (Option Token)} {error : LexerError}
    (hturn : Turn layer outcome) (hqueue : layer.queue = []) (h : outcome.result = .error error) :
    ReadsOn layer outcome.state := by
  cases hturn with
  -- A token that is passed on, or one at the end, is no failure.
  | fails hread other events => exact hread
  | passes hread token hfrom events => cases h
  | begins hread width position events =>
    have hstate := state_startLine_of_error (hread.queue_eq.trans hqueue) h
    rw [Outcome.state_after, hstate]
    exact hread
  | ends hread events => cases h

/-- Measuring the first line sets the width to that of the first line, or leaves it. -/
lemma width_settle (layer : Layer σ) :
    layer.settle.state.width = layer.width ∨ layer.width = none ∧
      ∃ width ahead, LineAhead layer width ahead ∧ layer.settle.state.width = some width := by
  cases hwidth : layer.width with
  | some current =>
    rw [settle_of_width hwidth]
    exact .inl hwidth
  | none =>
    have hread := nextWidth_readsOn layer
    have hmeasured := nextWidth_measured layer
    rcases hnext : layer.nextWidth with ⟨error | _ | width, later, events⟩
    all_goals rw [hnext] at hread hmeasured
    · rw [settle_of_nextWidth_error hwidth hnext]
      exact .inl (hread.width_eq.trans hwidth)
    · rw [settle_of_nextWidth hwidth hnext]
      exact .inl rfl
    · rw [settle_of_nextWidth hwidth hnext]
      exact .inr ⟨rfl, width, later, hmeasured, rfl⟩

lemma failsInPlace_next {error : LexerError} (h : layer.next.result = .error error) :
    FailsInPlace layer layer.next.state := by
  have hwidth := layer.width_settle
  -- The call fails while it measures the first line, or behind that with nothing queued.
  rcases layer.settle_cases with ⟨other, hread, hresult⟩ | ⟨hsettles, hresult⟩
  · rw [next_of_unsettled hresult]
    exact ⟨hread.enclosing_eq, hread.queue_eq, hwidth⟩
  cases hqueue : layer.queue with
  | nil =>
    rw [next_of_settled hresult hqueue] at h ⊢
    have hturn := continueWithin_turn layer.settle.state.sourceBudget layer.settle.state
    have hread := hturn.readsOn_of_error (hsettles.queue_eq.trans hqueue) h
    refine ⟨hread.enclosing_eq.trans hsettles.enclosing_eq,
      hread.queue_eq.trans hsettles.queue_eq, ?_⟩
    rw [Outcome.state_after, hread.width_eq]
    exact hwidth
  | cons token queue => simp [next_of_queued hresult hqueue] at h

/-- **Blocks get wider inwards.**  Whatever a layer comes to, over any source, the widths of its blocks
increase inwards, and it has only dedents queued.  So a line narrower than the current block closes just
the blocks wider than itself, or is refused, which it is just if no block has its width; it is then told
the nearest width.  The call may stall instead, if the source gives more tokens than its budget.  A
call that fails leaves the blocks and the queue as they were. -/
theorem nested_unwinds_failsInPlace {given : List Token} (h : Reached origin layer given) :
    Nested layer ∧
      (∀ current width position later, Meets layer width position later →
        later.width = some current → width < current → ¬ layer.next.Stalled →
        Unwinds layer current width position layer.next) ∧
      ∀ error, layer.next.result = .error error → FailsInPlace layer layer.next.state :=
  ⟨h.nested, fun _ _ _ _ hmeets hcurrent hlt hends => h.nested.unwinds hmeets hcurrent hlt hends,
    fun _ herror => failsInPlace_next herror⟩

/-! ### The uneven outline -/

/-- A layer over a list of tokens, after some calls. -/
def scriptedLayer (tokens : List Token) (final : Position) (calls : Nat) :
    Layer (Script tokens final) :=
  TokenSource.advance^[calls] ((initial (Script.start tokens final) .standard).reset [] none)

lemma scriptedLayer_succ (tokens : List Token) (final : Position) (calls : Nat) :
    scriptedLayer tokens final (calls + 1) = (scriptedLayer tokens final calls).next.state :=
  Function.iterate_succ_apply' _ _ _

lemma reached_scriptedLayer (tokens : List Token) (final : Position) (calls : Nat) : ∃ given,
    Reached (scriptedLayer tokens final 0) (scriptedLayer tokens final calls) given := by
  induction calls with
  | zero => exact ⟨[], .reset []⟩
  | succ calls ih =>
    obtain ⟨given, h⟩ := ih
    rw [scriptedLayer_succ]
    exact ⟨_, h.next⟩

def unevenLayer (calls : Nat) : Layer (Script unevenOutline ⟨22, 7, 3⟩) :=
  scriptedLayer unevenOutline ⟨22, 7, 3⟩ calls

/-- After five calls the next line is one behind a blank one. -/
lemma exists_meets_unevenLayer_five :
    ∃ later, Meets (unevenLayer 5) 0 ⟨11, 3, 6⟩ later ∧ later.width = some 4 := by
  refine ⟨_, ⟨rfl, rfl, _, _, .refl _, rfl, rfl, rfl, [_, _], _, _,
    .cons rfl (.cons rfl (.single rfl)), rfl, ?_, ?_⟩, rfl⟩
  · decide +kernel
  · decide +kernel

/-- After ten calls the next line stands at no block. -/
lemma exists_meets_unevenLayer_ten :
    ∃ later, Meets (unevenLayer 10) 1 ⟨19, 6, 4⟩ later ∧ later.width = some 2 := by
  refine ⟨_, ⟨rfl, rfl, _, _, .refl _, rfl, rfl, rfl, [_], _, _,
    .cons rfl (.single rfl), rfl, ?_, ?_⟩, rfl⟩
  · decide +kernel
  · decide +kernel

theorem nested_unwinds_failsInPlace_unevenLayer :
    (∃ given later, Reached (unevenLayer 0) (unevenLayer 5) given ∧
      Meets (unevenLayer 5) 0 ⟨11, 3, 6⟩ later ∧ later.width = some 4 ∧ 0 < 4 ∧
      ¬ (unevenLayer 5).next.Stalled ∧ Nested (unevenLayer 5) ∧ (unevenLayer 5).enclosing = [2, 0] ∧
      Unwinds (unevenLayer 5) 4 0 ⟨11, 3, 6⟩ (unevenLayer 5).next) ∧
    ∃ given later, Reached (unevenLayer 0) (unevenLayer 10) given ∧
      Meets (unevenLayer 10) 1 ⟨19, 6, 4⟩ later ∧ later.width = some 2 ∧ 1 < 2 ∧
      ¬ (unevenLayer 10).next.Stalled ∧ (unevenLayer 10).enclosing = [0] ∧
      Unwinds (unevenLayer 10) 2 1 ⟨19, 6, 4⟩ (unevenLayer 10).next ∧
      (unevenLayer 10).next.result = .error (.inconsistentIndentation ⟨21, 7, 2⟩ 1 0) ∧
      FailsInPlace (unevenLayer 10) (unevenLayer 10).next.state := by
  obtain ⟨given, hreached⟩ := reached_scriptedLayer unevenOutline ⟨22, 7, 3⟩ 5
  obtain ⟨later, hmeets, hwidth⟩ := exists_meets_unevenLayer_five
  have hresult : (unevenLayer 5).next.result = .ok (some (.synthetic "dedent" ⟨11, 3, 6⟩)) := rfl
  have hends : ¬ (unevenLayer 5).next.Stalled := Outcome.not_stalled_of_ok hresult
  obtain ⟨hnested, hunwinds, -⟩ := nested_unwinds_failsInPlace hreached
  obtain ⟨given', hreached'⟩ := reached_scriptedLayer unevenOutline ⟨22, 7, 3⟩ 10
  obtain ⟨later', hmeets', hwidth'⟩ := exists_meets_unevenLayer_ten
  have hresult' : (unevenLayer 10).next.result =
      .error (.inconsistentIndentation ⟨21, 7, 2⟩ 1 0) := rfl
  have hends' : ¬ (unevenLayer 10).next.Stalled := fun ⟨_, h⟩ => by simp [hresult'] at h
  obtain ⟨-, hunwinds', hfails⟩ := nested_unwinds_failsInPlace hreached'
  exact ⟨⟨given, later, hreached, hmeets, hwidth, by decide, hends, hnested, rfl,
      hunwinds 4 0 _ later hmeets hwidth (by decide) hends⟩,
    given', later', hreached', hmeets', hwidth', by decide, hends', rfl,
    hunwinds' 2 1 _ later' hmeets' hwidth' (by decide) hends', hresult', hfails _ hresult'⟩

end Layer

end Lexical
