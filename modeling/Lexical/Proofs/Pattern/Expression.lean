import Lexical.Proofs.Pattern.Anchored
import Lexical.Proofs.Regex.Builders

/-!
# The expressions of patterns

Without flags of its own, the item as which a pattern is read has a simple expression.  A text is one
literal (`Regex.Expr.ofWord`), texts are an alternation of literals, and a repetition repeats the
expression of its body.  The expression of a set of characters is a set with the same characters in it
(`CharSet.exists_toSet?`), and that of `Pattern.any` one with all of them.
-/

namespace Lexical

open Regex

/-! ## Texts -/

namespace Regex.Expr

lemma ofTerm?_eq {term : Term} {es : List Expr} {flags : Flags}
    (h : branchesOfTerm? .initial term = some (es, flags)) : ofTerm? term = some (alternation es) := by
  rw [ofTerm?, h]
  rfl

/-- The expression of a text that stands for itself. -/
def ofWord (word : List Char) : Expr :=
  if word = [] then empty else lit word

lemma not_isAlt_ofWord (word : List Char) : ¬ (ofWord word).IsAlt := by
  unfold ofWord
  split_ifs <;> exact id

lemma ofSet_single (c : Char) : ofSet (CodeSet.single c.toNat) = lit [c] := by
  have hvalid : c.toNat.isValidChar := c.valid
  have hsingle : (CodeSet.single c.toNat).singleton? = some c := by
    simp [CodeSet.singleton?, CodeSet.single, CodeRange.single, hvalid]
  rw [ofSet, hsingle]

lemma concat_ofWord (c : Char) (word : List Char) : concat (lit [c]) (ofWord word) = lit (c :: word) := by
  unfold ofWord
  split_ifs with hempty
  · rw [hempty]
    rfl
  · rfl

lemma branchesOfTerm?_literal (c : Char) :
    branchesOfTerm? .initial (.literal (verbatim c)) = some ([lit [c]], .initial) := by
  rw [← ofSet_single c]
  rfl

/-- The induction is on the characters. -/
lemma branchesOfTerm?_ofItems_literal (word : List Char) :
    branchesOfTerm? .initial (.ofItems (word.map fun c => .literal (verbatim c))) =
      some ([ofWord word], .initial) := by
  induction word with
  | nil => rfl
  | cons c word ih =>
    cases word with
    | nil => exact branchesOfTerm?_literal c
    | cons d word =>
      have hseq : Term.ofItems ((c :: d :: word).map fun c => Term.literal (verbatim c)) =
          .seq (.literal (verbatim c))
            (.ofItems ((d :: word).map fun c => Term.literal (verbatim c))) := rfl
      have hfirst : alternation [lit [c]] = lit [c] := alternation_singleton id
      rw [hseq, branchesOfTerm?, branchesOfTerm?_literal, Option.bind_eq_bind, Option.bind_some]
      simp only [ih, Option.bind_some, hfirst,
        alternation_singleton (not_isAlt_ofWord _), concat_ofWord]
      rfl

end Regex.Expr

namespace Pattern

open Regex.Expr

lemma branchesOfTerm?_textTerm (text : String) :
    branchesOfTerm? .initial (textTerm text) = some ([ofWord text.toList], .initial) :=
  branchesOfTerm?_ofItems_literal text.toList

/-- The induction is on the texts. -/
lemma branchesOfTerm?_ofBranches_textTerm {texts : List String} (hne : texts ≠ []) :
    branchesOfTerm? .initial (.ofBranches (texts.map textTerm)) =
      some (texts.map fun text => ofWord text.toList, .initial) := by
  induction texts with
  | nil => exact absurd rfl hne
  | cons text texts ih =>
    cases texts with
    | nil => exact branchesOfTerm?_textTerm text
    | cons next texts =>
      have halt : Term.ofBranches ((text :: next :: texts).map textTerm) =
          .alt (textTerm text) (.ofBranches ((next :: texts).map textTerm)) := rfl
      rw [halt, branchesOfTerm?, branchesOfTerm?_textTerm, Option.bind_eq_bind, Option.bind_some]
      simp only [ih (List.cons_ne_nil next texts), Option.bind_some]
      rfl

lemma ofTerm?_item_literal (text : String) :
    ofTerm? (literal text).item = some (ofWord text.toList) := by
  rw [item, ofTerm?_group, ofTerm?_eq (branchesOfTerm?_textTerm text),
    alternation_singleton (not_isAlt_ofWord _)]

/-- The expression of some texts, in the order in which they are written. -/
lemma ofTerm?_ofBranches_textTerm {texts : List String} (hne : texts ≠ []) :
    ofTerm? (.group [] (.ofBranches (texts.map textTerm))) =
      some (alternation (texts.map fun text => ofWord text.toList)) := by
  rw [ofTerm?_group, ofTerm?_eq (branchesOfTerm?_ofBranches_textTerm hne)]

end Pattern

/-! ## Sets of characters -/

namespace CharSet

lemma toSet?_rangeTerm (range : Char × Char) :
    ∃ chars, (rangeTerm range).toSet? .initial = some chars ∧
      ∀ c : Char, chars.containsChar c = (decide (range.1 ≤ c) && decide (c ≤ range.2)) := by
  obtain ⟨first, last⟩ := range
  have hcode (c : Char) : (verbatim c).code? .initial = some c.toNat := rfl
  by_cases heq : first = last
  · subst heq
    refine ⟨.single first.toNat, by simp [rangeTerm, ClassTerm.toSet?, hcode], fun c => ?_⟩
    rw [Bool.eq_iff_iff, CodeSet.containsChar_single, Bool.and_eq_true, decide_eq_true_eq,
      decide_eq_true_eq]
    exact ⟨fun h => by simp [h], fun h => Char.le_antisymm h.2 h.1⟩
  · refine ⟨.ofRanges [⟨first.toNat, last.toNat⟩], by simp [rangeTerm, heq, ClassTerm.toSet?, hcode],
      fun c => ?_⟩
    have hrange : (CodeSet.ofRanges [⟨first.toNat, last.toNat⟩]).containsChar c =
        (decide (first.toNat ≤ c.toNat) && decide (c.toNat ≤ last.toNat)) := by
      simp [CodeSet.ofRanges, CodeSet.insertRange, CodeSet.containsChar, CodeSet.contains,
        CodeRange.contains]
    exact hrange

/-- The induction is on the ranges. -/
lemma toSet?_ofItems_rangeTerm (ranges : List (Char × Char)) :
    ∃ chars, (ClassTerm.ofItems (ranges.map rangeTerm)).toSet? .initial = some chars ∧
      ∀ c : Char, chars.containsChar c = contains ⟨ranges⟩ c := by
  induction ranges with
  | nil => exact ⟨.empty, rfl, fun _ => rfl⟩
  | cons range ranges ih =>
    obtain ⟨chars, hchars, hcontains⟩ := toSet?_rangeTerm range
    obtain ⟨others, hothers, hcontains'⟩ := ih
    cases ranges with
    | nil => exact ⟨chars, hchars, fun c => by simp [hcontains, contains]⟩
    | cons next ranges =>
      have hunion : ClassTerm.ofItems ((range :: next :: ranges).map rangeTerm) =
          .union (rangeTerm range) (.ofItems ((next :: ranges).map rangeTerm)) := rfl
      refine ⟨chars.union others, ?_, fun c => ?_⟩
      · rw [hunion, ClassTerm.toSet?, hchars, hothers]
        rfl
      · have hunion' : (chars.union others).containsChar c =
            (chars.containsChar c || others.containsChar c) := CodeSet.contains_union _ _ _
        rw [hunion', hcontains, hcontains']
        rfl

/-- **The class of a set holds the characters of the set.** -/
lemma exists_toSet? (set : CharSet) :
    ∃ chars, set.term.toSet? .initial = some chars ∧ ∀ c : Char, chars.containsChar c = set.contains c := by
  by_cases hempty : set.ranges = []
  · refine ⟨.empty, ?_, fun c => by simp [contains, hempty, CodeSet.containsChar, CodeSet.contains,
      CodeSet.empty]⟩
    rw [term, hempty]
    decide
  · obtain ⟨chars, hchars, hcontains⟩ := toSet?_ofItems_rangeTerm set.ranges
    refine ⟨chars, ?_, hcontains⟩
    simp only [term, List.isEmpty_iff, if_neg hempty, ClassTerm.toSet?, hchars, Option.bind_eq_bind,
      Option.bind_some]
    rfl

end CharSet

namespace Pattern

open Regex.Expr

lemma exists_ofTerm?_item_charClass (set : CharSet) :
    ∃ chars, ofTerm? (charClass set).item = some (ofSet chars) ∧
      ∀ c : Char, chars.containsChar c = set.contains c := by
  obtain ⟨chars, hchars, hcontains⟩ := set.exists_toSet?
  refine ⟨chars, ?_, hcontains⟩
  simp [item, ofTerm?, branchesOfTerm?, hchars, alternation_singleton (not_isAlt_ofSet chars)]

lemma exists_ofTerm?_item_any :
    ∃ chars, ofTerm? any.item = some (set chars) ∧ ∀ c : Char, chars.containsChar c = true := by
  refine ⟨CodeSet.empty.compl, by decide, fun c => ?_⟩
  have hall : CodeSet.empty.compl = ⟨[⟨0, CodeSet.maxCode⟩]⟩ := by decide
  have hlt : c.toNat < 0x110000 := by
    rcases c.valid with h | h
    · exact Nat.lt_trans h (by decide)
    · exact h.2
  have hle : c.toNat ≤ CodeSet.maxCode := Nat.le_of_lt_succ hlt
  simp [hall, CodeSet.containsChar, CodeSet.contains, CodeRange.contains, hle]

/-! ## Repetitions -/

lemma ofTerm?_item_repetition (body : Pattern) (min : Nat) (max : Option Nat) :
    ofTerm? (repetition body min max).item =
      (ofTerm? body.item).map fun e => e.repeat min max true := by
  cases hes : branchesOfTerm? .initial body.item with
  | none => simp [item, ofTerm?, branchesOfTerm?, Flags.apply, hes]
  | some found =>
    obtain ⟨es, flags⟩ := found
    have htidy := tidy_of_branchesOfTerm? hes
    have hbody : alternation [alternation es] = alternation es := alternation_alternation htidy
    have hone : alternation [(alternation es).repeat min max true] =
        (alternation es).repeat min max true := by
      unfold Expr.repeat
      simp only
      generalize (if (alternation es).isZeroWidth then _ else _ : Nat × Option Nat) = bounds
      split_ifs
      · rfl
      · exact hbody
      · exact alternation_singleton id
    have hitem : branchesOfTerm? .initial (repetition body min max).item =
        some ([(alternation es).repeat min max true], .initial) := by
      rw [item, branchesOfTerm?, branchesOfTerm?, Flags.apply, List.foldl_nil, hes]
      simp only [Option.bind_eq_bind, Option.bind_some, hbody]
      rfl
    rw [ofTerm?_eq hitem, ofTerm?_eq hes, hone, Option.map_some]

end Pattern

end Lexical
