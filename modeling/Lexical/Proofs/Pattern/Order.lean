import Lexical.Pattern
import Mathlib.Data.List.Induction
import Mathlib.Data.List.Sort

/-!
# Texts in order of their length

Of several texts the longest one is tried first, so a pattern writes them in that order.  The order is
that of a stable sort (`Pattern.longestFirst_eq_byLength`): nothing else is in descending order and
keeps the texts of each length as they were.
-/

namespace Lexical.Pattern

/-- Texts in descending order of their length in bytes; texts of one length keep their order. -/
def byLength (texts : List String) : List String :=
  texts.mergeSort fun text other => other.utf8ByteSize ≤ text.utf8ByteSize

/-- A list in descending order is known from its elements of each key, in order.  The induction is on
one of the lists. -/
lemma eq_of_filter_key_eq {α : Type} (key : α → Nat) {l l' : List α}
    (hl : l.Pairwise fun a b => key b ≤ key a) (hl' : l'.Pairwise fun a b => key b ≤ key a)
    (h : ∀ n, l.filter (key · = n) = l'.filter (key · = n)) : l = l' := by
  induction l generalizing l' with
  | nil =>
    cases l' with
    | nil => rfl
    | cons b l' => simpa using h (key b)
  | cons a l ih =>
    cases l' with
    | nil => simpa using h (key a)
    | cons b l' =>
      have hmem {a b : α} {l l' : List α}
          (h : ∀ n, (a :: l).filter (key · = n) = (b :: l').filter (key · = n))
          (hl' : (b :: l').Pairwise fun a b => key b ≤ key a) : key a ≤ key b := by
        have hfound : a ∈ (b :: l').filter (key · = key a) := by
          rw [← h]
          simp
        rcases List.mem_cons.1 (List.mem_filter.1 hfound).1 with rfl | hrest
        · exact Nat.le_refl _
        · exact (List.pairwise_cons.1 hl').1 a hrest
      have hkey : key a = key b := Nat.le_antisymm (hmem h hl') (hmem (fun n => (h n).symm) hl)
      have hhead := h (key a)
      simp only [List.filter_cons, hkey, decide_true, if_true, List.cons.injEq] at hhead
      obtain ⟨rfl, hsame⟩ := hhead
      rw [ih (List.pairwise_cons.1 hl).2 (List.pairwise_cons.1 hl').2 fun n => ?_]
      by_cases hn : key a = n
      · subst hn
        exact hsame
      · simpa [hn] using h n

lemma mem_insertByLength {text other : String} {texts : List String} :
    other ∈ insertByLength text texts ↔ other = text ∨ other ∈ texts := by
  induction texts with
  | nil => simp [insertByLength]
  | cons next texts ih =>
    unfold insertByLength
    split_ifs
    · simp
    · simp [ih, or_left_comm]

lemma pairwise_insertByLength {text : String} {texts : List String}
    (h : texts.Pairwise fun a b => b.utf8ByteSize ≤ a.utf8ByteSize) :
    (insertByLength text texts).Pairwise fun a b => b.utf8ByteSize ≤ a.utf8ByteSize := by
  induction texts with
  | nil => simp [insertByLength]
  | cons next texts ih =>
    obtain ⟨hnext, htexts⟩ := List.pairwise_cons.1 h
    unfold insertByLength
    split_ifs with hlt
    · refine List.pairwise_cons.2 ⟨fun other hother => ?_, h⟩
      rcases List.mem_cons.1 hother with rfl | hother
      · exact Nat.le_of_lt hlt
      · exact Nat.le_trans (hnext other hother) (Nat.le_of_lt hlt)
    · refine List.pairwise_cons.2 ⟨fun other hother => ?_, ih htexts⟩
      rcases mem_insertByLength.1 hother with rfl | hother
      · exact Nat.not_lt.1 hlt
      · exact hnext other hother

/-- A text comes behind those of its length. -/
lemma filter_insertByLength {text : String} {texts : List String}
    (h : texts.Pairwise fun a b => b.utf8ByteSize ≤ a.utf8ByteSize) (n : Nat) :
    (insertByLength text texts).filter (·.utf8ByteSize = n) =
      texts.filter (·.utf8ByteSize = n) ++ [text].filter (·.utf8ByteSize = n) := by
  induction texts with
  | nil => simp [insertByLength]
  | cons next texts ih =>
    obtain ⟨hnext, htexts⟩ := List.pairwise_cons.1 h
    unfold insertByLength
    split_ifs with hlt
    · by_cases hn : text.utf8ByteSize = n
      · have hnone : (next :: texts).filter (·.utf8ByteSize = n) = [] := by
          refine List.filter_eq_nil_iff.2 fun other hother => ?_
          rcases List.mem_cons.1 hother with rfl | hother
          · simp only [decide_eq_true_eq]
            omega
          · have hle := hnext other hother
            simp only [decide_eq_true_eq]
            omega
        rw [List.filter_cons, hnone]
        simp [hn]
      · simp [hn]
    · rw [List.filter_cons, List.filter_cons, ih htexts]
      split_ifs <;> simp

/-- The texts that have been put in order so far.  The induction is on the texts, from the last one
back. -/
lemma longestFirst_spec (texts : List String) :
    ((longestFirst texts).Pairwise fun a b => b.utf8ByteSize ≤ a.utf8ByteSize) ∧
      ∀ n, (longestFirst texts).filter (·.utf8ByteSize = n) = texts.filter (·.utf8ByteSize = n) := by
  induction texts using List.reverseRecOn with
  | nil => simp [longestFirst]
  | append_singleton texts text ih =>
    have hlast : longestFirst (texts ++ [text]) = insertByLength text (longestFirst texts) := by
      simp [longestFirst]
    rw [hlast]
    refine ⟨pairwise_insertByLength ih.1, fun n => ?_⟩
    rw [filter_insertByLength ih.1, ih.2, List.filter_append]

/-- **The texts of a pattern are written in their order of length.** -/
theorem longestFirst_eq_byLength (texts : List String) : longestFirst texts = byLength texts := by
  obtain ⟨hsorted, hstable⟩ := longestFirst_spec texts
  have htrans (a b c : String) : decide (b.utf8ByteSize ≤ a.utf8ByteSize) = true →
      decide (c.utf8ByteSize ≤ b.utf8ByteSize) = true →
        decide (c.utf8ByteSize ≤ a.utf8ByteSize) = true := by
    simp only [decide_eq_true_eq]
    omega
  have htotal (a b : String) : (decide (b.utf8ByteSize ≤ a.utf8ByteSize) ||
      decide (a.utf8ByteSize ≤ b.utf8ByteSize)) = true := by
    simp only [Bool.or_eq_true, decide_eq_true_eq]
    omega
  have hmerged := List.pairwise_mergeSort htrans htotal texts
  simp only [decide_eq_true_eq] at hmerged
  refine eq_of_filter_key_eq String.utf8ByteSize hsorted hmerged fun n => ?_
  have hclass : (texts.filter (·.utf8ByteSize = n)).Pairwise fun a b =>
      decide (b.utf8ByteSize ≤ a.utf8ByteSize) = true := by
    refine List.pairwise_of_forall_mem_list fun a ha b hb => ?_
    have hla := of_decide_eq_true (List.mem_filter.1 ha).2
    have hlb := of_decide_eq_true (List.mem_filter.1 hb).2
    simp only [decide_eq_true_eq]
    omega
  have hsub := (List.sublist_mergeSort htrans htotal hclass List.filter_sublist).filter
    (·.utf8ByteSize = n)
  simp only [List.filter_filter, Bool.and_self] at hsub
  rw [hstable]
  refine hsub.eq_of_length ?_
  exact ((List.mergeSort_perm texts _).filter _).length_eq.symm

end Lexical.Pattern
