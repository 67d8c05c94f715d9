import Lexical.Text.Measure
import Mathlib.Data.List.TakeWhile
import Mathlib.Tactic.Lemma
import Mathlib.Tactic.SplitIfs

/-!
# Lines of a text

The lines of a text are what stands between its line breaks (`Text.intercalate_lines`,
`Text.newline_not_mem_lines`), and a text that is cut in two is cut in the line which has as many lines in
front of it as there are line breaks before the cut (`Text.getElem?_lines_append`).
-/

namespace Lexical

namespace Text

variable {c : Char} {text : List Char}

lemma byteLength_replicate (count : Nat) (c : Char) :
    byteLength (List.replicate count c) = count * c.utf8Size := by
  induction count with
  | zero => rw [List.replicate_zero, byteLength_nil, Nat.zero_mul]
  | succ count ih => rw [List.replicate_succ, byteLength_cons, ih, Nat.succ_mul, Nat.add_comm]

lemma takeBytes_append (before after : List Char) :
    takeBytes (byteLength before) (before ++ after) = before := by
  induction before with
  | nil =>
    cases after with
    | nil => rfl
    | cons c after =>
      have hpos : ¬ c.utf8Size ≤ 0 := Nat.not_le.2 c.utf8Size_pos
      simp only [List.nil_append, byteLength_nil, takeBytes, if_neg hpos]
  | cons c before ih =>
    simp only [List.cons_append, byteLength_cons, takeBytes, Nat.le_add_right, if_true,
      Nat.add_sub_cancel_left, ih]

lemma lines_newline (text : List Char) : lines ('\n' :: text) = [] :: lines text := by
  rw [lines, if_pos rfl]

lemma lines_ne_nil (text : List Char) : lines text ≠ [] := by
  cases text with
  | nil => simp [lines]
  | cons c text =>
    unfold lines
    split_ifs
    · simp
    · split <;> simp

lemma exists_lines_cons (h : c ≠ '\n') (text : List Char) :
    ∃ line rest, lines text = line :: rest ∧ lines (c :: text) = (c :: line) :: rest := by
  obtain ⟨line, rest, hlines⟩ := List.exists_cons_of_ne_nil (lines_ne_nil text)
  exact ⟨line, rest, hlines, by rw [lines, if_neg h, hlines]⟩

/-- Line breaks put back between the lines give the text. -/
theorem intercalate_lines (text : List Char) : ['\n'].intercalate (lines text) = text := by
  induction text with
  | nil => rfl
  | cons c text ih =>
    by_cases hc : c = '\n'
    · obtain ⟨line, rest, hlines⟩ := List.exists_cons_of_ne_nil (lines_ne_nil text)
      rw [hc, lines_newline, hlines, List.intercalate_cons_cons, ← hlines, ih]
      rfl
    · obtain ⟨line, rest, hlines, hcons⟩ := exists_lines_cons hc text
      rw [hlines] at ih
      rw [hcons]
      cases rest with
      | nil => simpa [List.intercalate] using ih
      | cons next rest =>
        rw [List.intercalate_cons_cons] at ih ⊢
        simpa using ih

/-- No line holds a line break. -/
theorem newline_not_mem_lines (text : List Char) : ∀ line ∈ lines text, '\n' ∉ line := by
  induction text with
  | nil => simp [lines]
  | cons c text ih =>
    by_cases hc : c = '\n'
    · rw [hc, lines_newline]
      simpa using ih
    · obtain ⟨line, rest, hlines, hcons⟩ := exists_lines_cons hc text
      rw [hlines] at ih
      rw [hcons]
      simp only [List.mem_cons, forall_eq_or_imp] at ih ⊢
      exact ⟨by simp [Ne.symm hc, ih.1], ih.2⟩

lemma length_lines (text : List Char) : (lines text).length = lineBreaks text + 1 := by
  induction text with
  | nil => rfl
  | cons c text ih =>
    unfold lineBreaks at ih ⊢
    by_cases hc : c = '\n'
    · rw [hc, lines_newline, List.length_cons, ih, List.count_cons_self]
    · obtain ⟨line, rest, hlines, hcons⟩ := exists_lines_cons hc text
      rw [hlines] at ih
      rw [hcons, List.count_cons_of_ne hc]
      exact ih

/-! ## The last line -/

lemma ne_newline_of_not_mem (h : '\n' ∉ text) : ∀ c ∈ text.reverse, decide (c ≠ '\n') = true := by
  intro c hc
  rw [decide_eq_true_iff]
  rintro rfl
  exact h (List.mem_reverse.1 hc)

lemma lastLine_of_not_mem (h : '\n' ∉ text) : lastLine text = text := by
  rw [lastLine, List.takeWhile_eq_self_iff.2 (ne_newline_of_not_mem h), List.reverse_reverse]

lemma length_lastLine_le (text : List Char) : (lastLine text).length ≤ text.length := by
  have hprefix : (text.reverse.takeWhile (· ≠ '\n')).length ≤ text.reverse.length :=
    (List.takeWhile_prefix _).length_le
  simpa [lastLine] using hprefix

lemma lastLine_append_cons {tail : List Char} (h : '\n' ∉ tail) (before : List Char) :
    lastLine (before ++ '\n' :: tail) = tail := by
  rw [lastLine, List.reverse_append, List.reverse_cons, List.append_assoc,
    List.takeWhile_append_of_pos (ne_newline_of_not_mem h)]
  simp

/-- What stands before a line break is no part of the last line. -/
lemma lastLine_append_of_mem (h : '\n' ∈ text) (before : List Char) :
    lastLine (before ++ text) = lastLine text := by
  have hlength : (text.reverse.takeWhile (· ≠ '\n')).length ≠ text.reverse.length := by
    intro hlength
    have hall := (List.takeWhile_prefix (fun c : Char => decide (c ≠ '\n'))).eq_of_length hlength
    have hnewline := List.takeWhile_eq_self_iff.1 hall '\n' (List.mem_reverse.2 h)
    simp at hnewline
  rw [lastLine, List.reverse_append, List.takeWhile_append, if_neg hlength, lastLine]

lemma lastLine_newline (text : List Char) : lastLine ('\n' :: text) = lastLine text := by
  by_cases h : '\n' ∈ text
  · exact lastLine_append_of_mem h ['\n']
  · rw [lastLine_of_not_mem h]
    exact lastLine_append_cons h []

/-! ## Cutting a text -/

lemma head?_lines (text : List Char) :
    (lines text).head? = some (text.takeWhile (· ≠ '\n')) := by
  induction text with
  | nil => rfl
  | cons c text ih =>
    by_cases hc : c = '\n'
    · simp [hc, lines_newline]
    · obtain ⟨line, rest, hlines, hcons⟩ := exists_lines_cons hc text
      rw [hlines] at ih
      simp only [List.head?_cons, Option.some.injEq] at ih
      simp [hcons, hc, ih]

/-- The line in which a text is cut.  The induction is on what stands before the cut. -/
theorem getElem?_lines_append (before after : List Char) :
    (lines (before ++ after))[lineBreaks before]? =
      some (lastLine before ++ after.takeWhile (· ≠ '\n')) := by
  induction before with
  | nil =>
    have hhead := head?_lines after
    rw [List.head?_eq_getElem?] at hhead
    exact hhead
  | cons c before ih =>
    unfold lineBreaks at ih ⊢
    by_cases hc : c = '\n'
    · rw [hc, List.cons_append, lines_newline, List.count_cons_self, List.getElem?_cons_succ,
        lastLine_newline]
      exact ih
    obtain ⟨line, rest, hlines, hcons⟩ := exists_lines_cons hc (before ++ after)
    rw [hlines] at ih
    rw [List.cons_append, hcons, List.count_cons_of_ne hc]
    by_cases hmem : '\n' ∈ before
    · have hlast : lastLine (c :: before) = lastLine before := lastLine_append_of_mem hmem [c]
      obtain ⟨n, hn⟩ := Nat.exists_eq_succ_of_ne_zero (List.count_pos_iff.2 hmem).ne'
      rw [hn, List.getElem?_cons_succ] at ih ⊢
      rw [ih, hlast]
    · have hnot : '\n' ∉ c :: before := by simp [Ne.symm hc, hmem]
      rw [List.count_eq_zero.2 hmem, List.getElem?_cons_zero] at ih ⊢
      rw [lastLine_of_not_mem hmem] at ih
      rw [lastLine_of_not_mem hnot, Option.some.inj ih]
      rfl

end Text

end Lexical
