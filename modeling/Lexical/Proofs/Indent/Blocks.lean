import Lexical.Indent.Layer
import Mathlib.Tactic.SplitIfs
import Mathlib.Tactic.Lemma

/-!
# Opening and closing blocks

What the three operations on blocks do when nothing is queued: beginning a line
(`Layer.startLine_of_eq`, `Layer.startLine_of_lt`), closing blocks before a narrower line
(`Layer.dedentTo_cases`), and closing all blocks at the end (`Layer.finish_of_nil`,
`Layer.finish_of_cons`).
-/

namespace Lexical

namespace Layer

variable {σ : Type}

/-! ## Unwinding -/

/-- Unwinding takes widths off the near end. -/
lemma exists_eq_append_unwind (width current : Nat) (enclosing : List Nat) :
    ∃ closed, enclosing = closed ++ (unwind width current enclosing).2 := by
  induction enclosing generalizing current with
  | nil => exact ⟨[], rfl⟩
  | cons outer enclosing ih =>
    unfold unwind
    split_ifs
    · obtain ⟨closed, hclosed⟩ := ih outer
      exact ⟨outer :: closed, congrArg (outer :: ·) hclosed⟩
    · exact ⟨[], rfl⟩

/-- A block of the wanted width that is not the current one is found only by closing some. -/
lemma length_unwind_lt {width current : Nat} {enclosing : List Nat} (hlt : width < current)
    (hfound : (unwind width current enclosing).1 = width) :
    (unwind width current enclosing).2.length < enclosing.length := by
  cases enclosing with
  | nil =>
    have : current = width := hfound
    omega
  | cons outer enclosing =>
    unfold unwind
    rw [if_pos hlt]
    obtain ⟨closed, hclosed⟩ := exists_eq_append_unwind width outer enclosing
    have hlength := congrArg List.length hclosed
    simp only [List.length_append] at hlength
    simp only [List.length_cons]
    omega

/-! ## Lines -/

variable [TokenSource σ]

lemma startLine_of_eq {layer : Layer σ} {width : Nat} (position : Position)
    (h : width = layer.width.getD 0) :
    layer.startLine width position =
      ⟨.ok (some (.synthetic layer.options.newline position)), layer, []⟩ := by
  simp only [startLine, if_pos h]

lemma startLine_of_lt {layer : Layer σ} {width : Nat} (position : Position)
    (h : layer.width.getD 0 < width) :
    layer.startLine width position =
      ⟨.ok (some (.synthetic layer.options.indent position)),
        { layer with
          width := some width
          enclosing := layer.width.getD 0 :: layer.enclosing },
        [.indent width (layer.width.getD 0)]⟩ := by
  simp only [startLine, if_neg (Nat.ne_of_gt h), if_pos h]

lemma startLine_of_gt {layer : Layer σ} {width : Nat} (position : Position)
    (h : width < layer.width.getD 0) :
    layer.startLine width position = layer.dedentTo width position := by
  simp only [startLine, if_neg (Nat.ne_of_lt h), if_neg (Nat.lt_asymm h)]

/-- The outcome of a narrower line: the first of the dedents of the blocks that it closes, with the
others queued, or an error that changes nothing. -/
lemma dedentTo_cases {layer : Layer σ} {width : Nat} (position : Position)
    (hqueue : layer.queue = []) (hlt : width < layer.width.getD 0) :
    (∃ outer closed kept, layer.enclosing = outer :: closed ++ kept ∧
        unwind width (layer.width.getD 0) layer.enclosing = (width, kept) ∧
        (layer.dedentTo width position).result =
          .ok (some (.synthetic layer.options.dedent position)) ∧
        (layer.dedentTo width position).state =
          { layer with
            width := some width
            enclosing := kept
            queue := layer.dedents position closed.length }) ∨
      ((unwind width (layer.width.getD 0) layer.enclosing).1 ≠ width ∧
        (layer.dedentTo width position).result = .error (.inconsistentIndentation layer.position
          width (unwind width (layer.width.getD 0) layer.enclosing).1) ∧
        (layer.dedentTo width position).state = layer) := by
  obtain ⟨closed, hclosed⟩ := exists_eq_append_unwind width (layer.width.getD 0) layer.enclosing
  by_cases hfound : (unwind width (layer.width.getD 0) layer.enclosing).1 = width
  · left
    have hlength := length_unwind_lt hlt hfound
    cases closed with
    | nil =>
      have := congrArg List.length hclosed
      simp only [List.nil_append] at this
      omega
    | cons outer closed =>
      have hcount : layer.enclosing.length -
          (unwind width (layer.width.getD 0) layer.enclosing).2.length = closed.length + 1 := by
        have := congrArg List.length hclosed
        simp only [List.length_append, List.length_cons] at this
        omega
      refine ⟨outer, closed, _, hclosed, Prod.ext hfound rfl, ?_, ?_⟩
      · simp only [dedentTo, if_pos hfound.symm, hcount, hqueue, dedents, List.nil_append,
          List.replicate_succ, pop]
      · simp only [dedentTo, if_pos hfound.symm, hcount, hqueue, dedents, List.nil_append,
          List.replicate_succ, pop]
  · right
    refine ⟨hfound, ?_, ?_⟩
    · simp only [dedentTo, if_neg (Ne.symm hfound)]
    · simp only [dedentTo, if_neg (Ne.symm hfound)]

/-! ## The end -/

lemma finish_of_nil {layer : Layer σ} (hqueue : layer.queue = []) (h : layer.enclosing = []) :
    layer.finish = ⟨.ok none, layer, []⟩ := by
  obtain ⟨source, options, width, enclosing, queue, here⟩ := layer
  obtain rfl : queue = [] := hqueue
  obtain rfl : enclosing = [] := h
  rfl

lemma finish_of_cons {layer : Layer σ} {outer : Nat} {enclosing : List Nat}
    (hqueue : layer.queue = []) (h : layer.enclosing = outer :: enclosing) :
    layer.finish =
      ⟨.ok (some (.synthetic layer.options.dedent (TokenSource.position layer.source))),
        { layer with
          enclosing := []
          queue := layer.dedents (TokenSource.position layer.source) enclosing.length },
        []⟩ := by
  simp only [finish, hqueue, h, dedents, List.nil_append, List.length_cons, List.replicate_succ,
    pop]

end Layer

end Lexical
