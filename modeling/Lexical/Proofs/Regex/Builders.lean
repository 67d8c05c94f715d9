import Lexical.Proofs.Regex.Language
import Lexical.Proofs.Regex.NormalForm
import Mathlib.Data.List.Basic

/-!
# What built expressions cover

`Expr.concat` and `Expr.alternation` simplify what they build: texts that meet are joined, characters
become one set, and what all branches begin with is taken out in front of them.  None of that changes
the words.  A sequence covers a word of the first part and then one of the second
(`Expr.covers_concat`), and an alternation what one of its branches covers
(`Expr.covers_alternation`).
-/

namespace Lexical

/-! ## Sets of code points -/

namespace CodeSet

/-- Ranges that overlap or touch hold together what their hull holds. -/
lemma contains_insertRange (range : CodeRange) (ranges : List CodeRange) (code : Nat) :
    (insertRange range ranges).any (·.contains code) =
      (range.contains code || ranges.any (·.contains code)) := by
  induction ranges generalizing range with
  | nil => simp [insertRange]
  | cons next rest ih =>
    unfold insertRange
    -- Only ranges with a gap between them stay apart; the others become their hull.
    split_ifs with hbefore hbehind
    · rfl
    · rw [List.any_cons, ih, List.any_cons, Bool.or_left_comm]
    · have hhull : CodeRange.contains ⟨min range.first next.first, max range.last next.last⟩ code =
          (range.contains code || next.contains code) := by
        unfold CodeRange.contains
        rw [Bool.eq_iff_iff]
        simp only [Bool.and_eq_true, Bool.or_eq_true, decide_eq_true_eq]
        omega
      rw [ih, hhull, List.any_cons, Bool.or_assoc]

lemma contains_union (a b : CodeSet) (code : Nat) :
    (a.union b).contains code = (a.contains code || b.contains code) := by
  unfold union contains
  induction a.ranges with
  | nil => rfl
  | cons range ranges ih =>
    rw [List.foldr_cons, contains_insertRange, ih, List.any_cons, Bool.or_assoc]

lemma contains_unions (sets : List CodeSet) (code : Nat) :
    (unions sets).contains code = sets.any (·.contains code) := by
  induction sets with
  | nil => rfl
  | cons set sets ih =>
    have hcons : unions (set :: sets) = set.union (unions sets) := rfl
    rw [hcons, contains_union, ih, List.any_cons]

lemma containsChar_single (c d : Char) :
    (single c.toNat).containsChar d = true ↔ d = c := by
  have hrange : (single c.toNat).containsChar d = (CodeRange.single c.toNat).contains d.toNat := by
    simp [containsChar, contains, single]
  rw [hrange, CodeRange.contains, CodeRange.single]
  simp only [Bool.and_eq_true, decide_eq_true_eq]
  constructor
  · rintro ⟨hle, hle'⟩
    exact Char.toNat_inj.1 (Nat.le_antisymm hle' hle)
  · rintro rfl
    exact ⟨Nat.le_refl _, Nat.le_refl _⟩

/-- The character that makes up a set. -/
lemma containsChar_of_singleton? {set : CodeSet} {c : Char} (h : set.singleton? = some c) (d : Char) :
    set.containsChar d = true ↔ d = c := by
  unfold singleton? at h
  split at h
  · rename_i range hranges
    split_ifs at h with hone
    obtain ⟨hsame, hvalid⟩ := hone
    obtain rfl := Option.some.inj h
    have hcode : (Char.ofNat range.first).toNat = range.first := by
      unfold Char.ofNat
      rw [dif_pos hvalid]
      rfl
    have hset : set = single (Char.ofNat range.first).toNat := by
      cases set with
      | mk ranges =>
        obtain rfl : ranges = [range] := hranges
        rw [hcode]
        cases range with
        | mk first last =>
          obtain rfl : first = last := hsame
          rfl
    rw [hset]
    exact containsChar_single _ d
  · cases h

end CodeSet

namespace Regex.Expr

open Lexical.Regex.Language

variable {before : Option Char} {word rest : List Char}

lemma covers_ofSet (chars : CodeSet) :
    (ofSet chars).Covers before word rest ↔ ∃ c, chars.containsChar c = true ∧ word = [c] := by
  unfold ofSet
  split
  · rename_i c hsingleton
    simp only [CodeSet.containsChar_of_singleton? hsingleton, exists_eq_left]
    rfl
  · rfl

lemma not_covers_fail : ¬ fail.Covers before word rest := by
  rintro ⟨c, hc, -⟩
  cases hc

/-! ## Sequences -/

/-- The language of parts one behind the other. -/
def PartsCover : List Expr → Language
  | [] => nothing
  | part :: parts => part.Covers.andThen (PartsCover parts)

lemma covers_ofParts (parts : List Expr) :
    (ofParts parts).Covers before word rest ↔ PartsCover parts before word rest := by
  induction parts generalizing before word with
  | nil => rfl
  | cons part parts ih =>
    cases parts with
    | nil => exact andThen_nothing.symm
    -- The parts are put together without an empty one at the end, so there is one case more than
    -- for lists.
    | cons next parts =>
      show part.Covers.andThen (ofParts (next :: parts)).Covers before word rest ↔ _
      constructor
      · rintro ⟨first, second, rfl, hfirst, hsecond⟩
        exact ⟨first, second, rfl, hfirst, ih.1 hsecond⟩
      · rintro ⟨first, second, rfl, hfirst, hsecond⟩
        exact ⟨first, second, rfl, hfirst, ih.2 hsecond⟩

lemma partsCover_parts (e : Expr) :
    PartsCover e.parts before word rest ↔ e.Covers before word rest := by
  induction e generalizing before word with
  | empty => rfl
  | seq first second _ ih =>
    constructor
    · rintro ⟨start, behind, rfl, hstart, hbehind⟩
      exact ⟨start, behind, rfl, hstart, ih.1 hbehind⟩
    · rintro ⟨start, behind, rfl, hstart, hbehind⟩
      exact ⟨start, behind, rfl, hstart, ih.2 hbehind⟩
  | _ => exact andThen_nothing

lemma partsCover_append (parts others : List Expr) :
    PartsCover (parts ++ others) before word rest ↔
      ((PartsCover parts).andThen (PartsCover others)) before word rest := by
  induction parts generalizing before word with
  | nil => exact nothing_andThen.symm
  | cons part parts ih =>
    show part.Covers.andThen (PartsCover (parts ++ others)) before word rest ↔ _
    rw [PartsCover, andThen_assoc]
    constructor
    · rintro ⟨first, second, rfl, hfirst, hsecond⟩
      exact ⟨first, second, rfl, hfirst, ih.1 hsecond⟩
    · rintro ⟨first, second, rfl, hfirst, hsecond⟩
      exact ⟨first, second, rfl, hfirst, ih.2 hsecond⟩

/-- Two literal texts that meet read as one. -/
lemma partsCover_joinParts (parts others : List Expr) :
    PartsCover (joinParts parts others) before word rest ↔
      ((PartsCover parts).andThen (PartsCover others)) before word rest := by
  rw [← partsCover_append]
  fun_induction joinParts parts others generalizing before word with
  | case1 => rfl
  | case2 a b others =>
    have hlit : (lit (a ++ b)).Covers = (lit a).Covers.andThen (lit b).Covers := by
      funext before word rest
      apply propext
      constructor
      · intro hword
        exact ⟨a, b, hword, rfl, rfl⟩
      · rintro ⟨_, _, rfl, rfl, rfl⟩
        rfl
    show (lit (a ++ b)).Covers.andThen (PartsCover others) before word rest ↔ _
    rw [hlit, andThen_assoc]
    rfl
  | case3 others part parts _ ih =>
    constructor
    · rintro ⟨first, second, rfl, hfirst, hsecond⟩
      exact ⟨first, second, rfl, hfirst, ih.1 hsecond⟩
    · rintro ⟨first, second, rfl, hfirst, hsecond⟩
      exact ⟨first, second, rfl, hfirst, ih.2 hsecond⟩

/-- **A sequence covers a word of each part, one behind the other.** -/
theorem covers_concat (a b : Expr) :
    (a.concat b).Covers before word rest ↔ (a.Covers.andThen b.Covers) before word rest := by
  rw [concat, covers_ofParts, partsCover_joinParts]
  constructor
  · rintro ⟨first, second, rfl, hfirst, hsecond⟩
    exact ⟨first, second, rfl, (partsCover_parts a).1 hfirst, (partsCover_parts b).1 hsecond⟩
  · rintro ⟨first, second, rfl, hfirst, hsecond⟩
    exact ⟨first, second, rfl, (partsCover_parts a).2 hfirst, (partsCover_parts b).2 hsecond⟩

/-! ## Alternations -/

lemma covers_ofBranches (es : List Expr) :
    (ofBranches es).Covers before word rest ↔ ∃ e ∈ es, e.Covers before word rest := by
  induction es with
  | nil => simp [ofBranches, not_covers_fail]
  | cons e es ih =>
    cases es with
    | nil => simp [ofBranches]
    | cons next es =>
      show e.Covers before word rest ∨ (ofBranches (next :: es)).Covers before word rest ↔ _
      rw [ih, List.exists_mem_cons_iff _ e]

lemma exists_mem_branches (e : Expr) :
    (∃ branch ∈ e.branches, branch.Covers before word rest) ↔ e.Covers before word rest := by
  induction e with
  | alt first second ihfirst ihsecond =>
    show (∃ branch ∈ first.branches ++ second.branches, _) ↔
      first.Covers before word rest ∨ second.Covers before word rest
    rw [← ihfirst, ← ihsecond]
    simp only [List.mem_append, or_and_right, exists_or]
  | _ => simp [branches]

lemma exists_mem_flatMap_branches (es : List Expr) :
    (∃ branch ∈ es.flatMap branches, branch.Covers before word rest) ↔
      ∃ e ∈ es, e.Covers before word rest := by
  constructor
  · rintro ⟨branch, hbranch, hcovers⟩
    obtain ⟨e, he, hmem⟩ := List.mem_flatMap.1 hbranch
    exact ⟨e, he, (exists_mem_branches e).1 ⟨branch, hmem, hcovers⟩⟩
  · rintro ⟨e, he, hcovers⟩
    obtain ⟨branch, hbranch, hcovers⟩ := (exists_mem_branches e).2 hcovers
    exact ⟨branch, List.mem_flatMap.2 ⟨e, he, hbranch⟩, hcovers⟩

/-- An expression of single characters covers just them. -/
lemma covers_of_chars? {e : Expr} {chars : CodeSet} (h : e.chars? = some chars) :
    e.Covers before word rest ↔ ∃ c, chars.containsChar c = true ∧ word = [c] := by
  unfold chars? at h
  split at h
  · rename_i c
    obtain rfl := Option.some.inj h
    simp only [CodeSet.containsChar_single, exists_eq_left]
    rfl
  · obtain rfl := Option.some.inj h
    rfl
  · cases h

/-- One set stands for branches of single characters. -/
lemma covers_ofSet_unions {es : List Expr} {sets : List CodeSet} (h : es.mapM chars? = some sets) :
    (ofSet (CodeSet.unions sets)).Covers before word rest ↔
      ∃ e ∈ es, e.Covers before word rest := by
  rw [covers_ofSet]
  simp only [CodeSet.containsChar, CodeSet.contains_unions, List.any_eq_true]
  induction es generalizing sets with
  | nil =>
    obtain rfl : [] = sets := by simpa using h
    simp
  | cons e es ih =>
    simp only [List.mapM_cons, Option.pure_def, Option.bind_eq_bind, Option.bind_eq_some_iff,
      Option.some.injEq] at h
    obtain ⟨chars, hchars, sets, hsets, rfl⟩ := h
    rw [List.exists_mem_cons_iff, ← ih hsets, covers_of_chars? hchars]
    simp only [List.exists_mem_cons_iff, or_and_right, exists_or]
    rfl

lemma commonParts_isPrefix (as bs : List Expr) :
    commonParts as bs <+: as ∧ commonParts as bs <+: bs := by
  fun_induction commonParts as bs with
  | case1 a as bs ih =>
    exact ⟨List.cons_prefix_cons.2 ⟨rfl, ih.1⟩, List.cons_prefix_cons.2 ⟨rfl, ih.2⟩⟩
  | case2 => exact ⟨List.nil_prefix, List.nil_prefix⟩
  | case3 => exact ⟨List.nil_prefix, List.nil_prefix⟩

/-- The shared parts stand at the start of every branch. -/
lemma sharedParts_isPrefix {es : List Expr} {e : Expr} (he : e ∈ es) : sharedParts es <+: e.parts := by
  -- The parts shared with all that came before get fewer with each branch, and never others.
  have hfold (shared : List Expr) (others : List Expr) :
      others.foldl (fun shared e => commonParts shared e.parts) shared <+: shared ∧
        ∀ e ∈ others, others.foldl (fun shared e => commonParts shared e.parts) shared <+: e.parts := by
    induction others generalizing shared with
    | nil => exact ⟨List.prefix_rfl, by simp⟩
    | cons first others ih =>
      obtain ⟨hshared, hothers⟩ := ih (commonParts shared first.parts)
      obtain ⟨hleft, hright⟩ := commonParts_isPrefix shared first.parts
      refine ⟨hshared.trans hleft, fun e he => ?_⟩
      rcases List.mem_cons.1 he with rfl | he
      · exact hshared.trans hright
      · exact hothers e he
  cases es with
  | nil => cases he
  | cons first others =>
    rw [sharedParts]
    split_ifs
    · obtain ⟨hfirst, hothers⟩ := hfold first.parts others
      rcases List.mem_cons.1 he with rfl | he
      · exact hfirst
      · exact hothers e he
    · exact List.nil_prefix

/-- A branch is what it shares with the others and behind it the rest of it. -/
lemma covers_drop_parts {shared : List Expr} {e : Expr} (h : shared <+: e.parts) :
    ((ofParts shared).Covers.andThen (ofParts (e.parts.drop shared.length)).Covers) before word rest ↔
      e.Covers before word rest := by
  obtain ⟨behind, hparts⟩ := h
  have hdrop : e.parts.drop shared.length = behind := by
    rw [← hparts, List.drop_left]
  rw [hdrop, ← partsCover_parts e, ← hparts, partsCover_append]
  constructor
  · rintro ⟨first, second, rfl, hfirst, hsecond⟩
    exact ⟨first, second, rfl, (covers_ofParts shared).1 hfirst, (covers_ofParts behind).1 hsecond⟩
  · rintro ⟨first, second, rfl, hfirst, hsecond⟩
    exact ⟨first, second, rfl, (covers_ofParts shared).2 hfirst, (covers_ofParts behind).2 hsecond⟩

/-- The induction is on the fuel. -/
lemma covers_alternationWith (fuel : Nat) (es : List Expr) :
    (alternationWith fuel es).Covers before word rest ↔ ∃ e ∈ es, e.Covers before word rest := by
  induction fuel generalizing es before word with
  | zero => exact covers_ofBranches es
  | succ fuel ih =>
    rw [← exists_mem_flatMap_branches]
    unfold alternationWith
    generalize es.flatMap branches = flat
    split
    · simp [not_covers_fail]
    · simp
    · split
      · rename_i sets hsets
        exact covers_ofSet_unions hsets
      · split
        · exact covers_ofBranches flat
        · rw [covers_concat]
          constructor
          · rintro ⟨first, second, rfl, hfirst, hsecond⟩
            obtain ⟨_, hrest, hcovers⟩ := (ih _).1 hsecond
            obtain ⟨e, he, rfl⟩ := List.mem_map.1 hrest
            exact ⟨e, he, (covers_drop_parts (sharedParts_isPrefix he)).1
              ⟨first, second, rfl, hfirst, hcovers⟩⟩
          · rintro ⟨e, he, hcovers⟩
            obtain ⟨first, second, rfl, hfirst, hsecond⟩ :=
              (covers_drop_parts (sharedParts_isPrefix he)).2 hcovers
            refine ⟨first, second, rfl, hfirst, (ih _).2 ⟨_, ?_, hsecond⟩⟩
            exact List.mem_map_of_mem he

/-- **An alternation covers what one of its branches covers.** -/
theorem covers_alternation (es : List Expr) :
    (alternation es).Covers before word rest ↔ ∃ e ∈ es, e.Covers before word rest :=
  covers_alternationWith _ es

end Regex.Expr

end Lexical
