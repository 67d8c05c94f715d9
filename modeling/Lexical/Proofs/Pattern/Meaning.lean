import Lexical.Proofs.Pattern.Expression
import Lexical.Proofs.Pattern.Order
import Lexical.Proofs.Regex.Caret
import Lexical.Proofs.Regex.Preference

/-!
# What patterns mean

A pattern that is not given a regular expression has a meaning without one.  `Pattern.lengths` lists the
lengths that a search with backtracking tries for it at the start of a text, the preferred ones first:
a text takes itself, of several texts the longest is tried first, a set of characters takes one of
them, and a repetition goes round as often as it can.

The regular expression as which a pattern is written keeps that meaning.  If it is accepted, what a
lexicon finds with it is the first of these lengths, or nothing if there is none
(`Pattern.exists_find?_eq_lengths`).
-/

namespace Lexical

open Regex

namespace Pattern

/-- The pattern is made of texts, sets of characters and repetitions only. -/
def IsDirect : Pattern → Prop
  | regex _ => False
  | repetition body _ _ => body.IsDirect
  | _ => True

instance decidableIsDirect : (pattern : Pattern) → Decidable pattern.IsDirect
  | regex _ => .isFalse id
  | repetition body _ _ => body.decidableIsDirect
  | literal _ | literals _ | charClass _ | any => .isTrue trivial

lemma IsDirect.sourcesValid {pattern : Pattern} (h : pattern.IsDirect) : pattern.SourcesValid := by
  induction pattern with
  | repetition body min max ih => exact ih h
  | regex source => exact h.elim
  | literal _ | literals _ | charClass _ | any => trivial

/-! ## The direct meaning -/

/-- A word takes itself. -/
def wordLengths (word : String) (text : List Char) : List Nat :=
  if word.toList.isPrefixOf text then [word.toList.length] else []

/-- One character of a kind. -/
def charLengths (p : Char → Bool) : List Char → List Nat
  | [] => []
  | c :: _ => if p c then [1] else []

section Rounds

variable (round : List Char → List Nat)

/-- A round, and behind each length of it what `others` tries there. -/
def roundThen (others : List Char → List Nat) (text : List Char) : List Nat :=
  (round text).flatMap fun n => (others (text.drop n)).map (n + ·)

/-- At most `count` rounds.  One more round is preferred to none. -/
def roundsUpTo : Nat → List Char → List Nat
  | 0 => fun _ => [0]
  | count + 1 => fun text => roundThen round (roundsUpTo count) text ++ [0]

/-- Between `min` and `min + more` rounds. -/
def rounds (more : Nat) : Nat → List Char → List Nat
  | 0 => roundsUpTo round more
  | min + 1 => roundThen round (rounds more min)

end Rounds

/-- How many rounds there can be beyond the least number of them.  There are never more rounds that
take something than there are characters. -/
def moreRounds (min : Nat) (max : Option Nat) (text : List Char) : Nat :=
  match max with
  | some max => max - min
  | none => text.length

/-- The lengths that are tried for a pattern at the start of a text, the preferred ones first.  For a
regular expression there is nothing to say here. -/
def lengths : Pattern → List Char → List Nat
  | literal word => wordLengths word
  | literals words => fun text => (byLength words).flatMap fun word => wordLengths word text
  | charClass set => charLengths set.contains
  | repetition body min max => fun text => rounds body.lengths (moreRounds min max text) min text
  | regex _ => fun _ => []
  | any => charLengths fun _ => true

-- The longer sign is tried first, but leaves nothing for the second round.
example :
    (repetition (literals ["+", "+=", "="]) 2 (some 2)).lengths "+=".toList = [2] := by cbv

end Pattern

/-! ## Words -/

namespace Regex.Expr

variable {before : Option Char} {text : List Char}

lemma tries_ofWord (word : List Char) :
    (ofWord word).tries before text = if word.isPrefixOf text then [word.length] else [] := by
  unfold ofWord
  by_cases hempty : word = []
  · subst hempty
    rfl
  · rw [if_neg hempty]
    rfl

lemma minLength?_ofWord (word : List Char) : (ofWord word).minLength? = some word.length := by
  unfold ofWord
  split_ifs with hempty
  · subst hempty
    rfl
  · rfl

lemma tries_ofBranches (es : List Expr) :
    (ofBranches es).tries before text = es.flatMap fun e => e.tries before text := by
  induction es with
  | nil => cases text <;> rfl
  | cons e es ih =>
    by_cases hes : es = []
    · subst hes
      simp [ofBranches]
    · rw [ofBranches_cons hes, List.flatMap_cons, ← ih]
      rfl

lemma tries_eq_nil_iff (e : Expr) :
    e.tries before text = [] ↔ ¬ ∃ word rest, text = word ++ rest ∧ e.Covers before word rest := by
  rw [← isSome_matchLength?_iff, matchLength?_eq_head?_tries]
  simp

/-- An alternation of words is one set, if all of them are single characters; else it has them as its
branches. -/
lemma alternation_ofWord (words : List (List Char)) :
    (∃ sets, (words.map ofWord).mapM chars? = some sets ∧
      alternation (words.map ofWord) = ofSet (CodeSet.unions sets)) ∨
        alternation (words.map ofWord) = ofBranches (words.map ofWord) := by
  have hflat : (words.map ofWord).flatMap branches = words.map ofWord := by
    rw [List.flatMap_map, List.map_eq_flatMap]
    exact List.flatMap_congr fun word _ => branches_eq_singleton (not_isAlt_ofWord word)
  match words with
  | [] => exact .inr rfl
  | [word] => exact .inr (alternation_singleton (not_isAlt_ofWord word))
  | word :: next :: words =>
    -- A word is never written as a sequence, so that nothing is taken out in front.
    have hshared : sharedParts ((word :: next :: words).map ofWord) = [] := by
      have hfirst : sharedParts.isSeq (ofWord word) = false := by
        unfold ofWord
        split_ifs <;> rfl
      simp [sharedParts, hfirst]
    have hcases := alternated_alternationWith (sizes ((word :: next :: words).map ofWord)) hflat
      (by simp)
    unfold alternation
    generalize alternationWith _ ((word :: next :: words).map ofWord) = e at hcases ⊢
    cases hcases with
    | chars hsets => exact .inl ⟨_, hsets, rfl⟩
    | branches => exact .inr rfl
    | shared hne => exact absurd hshared hne

/-- One set is tried like its characters one after the other. -/
lemma sameFirsts_tries_ofSet_unions {es : List Expr} {sets : List CodeSet}
    (h : es.mapM chars? = some sets) :
    SameFirsts ((ofSet (CodeSet.unions sets)).tries before text)
      (es.flatMap fun e => e.tries before text) := by
  -- Each try of a set takes one character, so that all tries are the same and only whether there
  -- is one counts.
  have hone {e : Expr} {n : Nat} (hn : n ∈ e.tries before text)
      (hcovers : ∀ word rest, e.Covers before word rest → ∃ c, word = [c]) : n = 1 := by
    obtain ⟨word, rest, -, rfl, hword⟩ := e.within_tries before text n hn
    obtain ⟨c, rfl⟩ := hcovers word rest hword
    rfl
  have hchars {word rest : List Char} {e : Expr} (he : e ∈ es) (hword : e.Covers before word rest) :
      ∃ c, word = [c] := by
    have hset := (covers_ofSet_unions h).2 ⟨e, he, hword⟩
    obtain ⟨c, -, rfl⟩ := (covers_ofSet _).1 hset
    exact ⟨c, rfl⟩
  refine .of_forall_eq (k := 1) (fun n hn => hone hn fun word rest hword => ?_) (fun n hn => ?_) ?_
  · obtain ⟨c, -, rfl⟩ := (covers_ofSet _).1 hword
    exact ⟨c, rfl⟩
  · obtain ⟨e, he, hn⟩ := List.mem_flatMap.1 hn
    exact hone hn fun word rest hword => hchars he hword
  · simp only [List.flatMap_eq_nil_iff, tries_eq_nil_iff, covers_ofSet_unions h]
    constructor
    · rintro hnone e he ⟨word, rest, htext, hword⟩
      exact hnone ⟨word, rest, htext, e, he, hword⟩
    · rintro hnone ⟨word, rest, htext, e, he, hword⟩
      exact hnone e he ⟨word, rest, htext, hword⟩

/-- **Words are tried one after the other.** -/
lemma sameFirsts_tries_alternation_ofWord (words : List (List Char)) :
    SameFirsts ((alternation (words.map ofWord)).tries before text)
      (words.flatMap fun word => (ofWord word).tries before text) := by
  have hmap : (words.flatMap fun word => (ofWord word).tries before text) =
      (words.map ofWord).flatMap fun e => e.tries before text := by rw [List.flatMap_map]
  rw [hmap]
  rcases alternation_ofWord words with ⟨sets, hsets, heq⟩ | heq
  · rw [heq]
    exact sameFirsts_tries_ofSet_unions hsets
  · rw [heq, tries_ofBranches]
    exact .refl _

/-! ## Least lengths -/

lemma isEmpty_eq_false_of_containsChar {chars : CodeSet} {c : Char} (h : chars.containsChar c = true) :
    chars.isEmpty = false := by
  unfold CodeSet.containsChar CodeSet.contains at h
  unfold CodeSet.isEmpty
  cases hranges : chars.ranges with
  | nil => simp [hranges] at h
  | cons range ranges => rfl

lemma standsStill_ofSet {chars : CodeSet} (h : (ofSet chars).minLength? = none) :
    (ofSet chars).tries.StandsStill := by
  intro before text n hn
  obtain ⟨word, rest, -, -, hword⟩ := (ofSet chars).within_tries before text n hn
  obtain ⟨c, hc, -⟩ := (covers_ofSet chars).1 hword
  unfold ofSet at h
  split at h
  · cases h
  · simp [minLength?, isEmpty_eq_false_of_containsChar hc] at h

lemma isSome_minLength?_ofBranches_ofWord {words : List (List Char)} (hne : words ≠ []) :
    (ofBranches (words.map ofWord)).minLength?.isSome = true := by
  induction words with
  | nil => exact absurd rfl hne
  | cons word words ih =>
    cases words with
    | nil =>
      show (ofWord word).minLength?.isSome = true
      rw [minLength?_ofWord]
      rfl
    | cons next words =>
      obtain ⟨least, hleast⟩ := Option.isSome_iff_exists.1 (ih (List.cons_ne_nil next words))
      rw [List.map_cons, ofBranches_cons (by simp), minLength?, minLength?_ofWord, hleast]
      rfl

lemma isSome_minLength?_alternation_ofWord {words : List (List Char)} (hne : words ≠ []) :
    (alternation (words.map ofWord)).minLength?.isSome = true := by
  rcases alternation_ofWord words with ⟨sets, hsets, heq⟩ | heq
  · rw [heq, Option.isSome_iff_ne_none]
    intro hnone
    cases words with
    | nil => exact absurd rfl hne
    | cons word words =>
      -- The set holds the character of the first word, so it matches somewhere.
      have hcovers : (ofSet (CodeSet.unions sets)).Covers none word [] := by
        refine (covers_ofSet_unions hsets).2 ⟨ofWord word, List.mem_map_of_mem List.mem_cons_self, ?_⟩
        unfold ofWord
        split_ifs with hempty
        · exact hempty
        · rfl
      have hone := (covers_ofSet _).1 hcovers
      obtain ⟨c, hc, rfl⟩ := hone
      unfold ofSet at hnone
      split at hnone
      · cases hnone
      · simp [minLength?, isEmpty_eq_false_of_containsChar hc] at hnone
  · rw [heq]
    exact isSome_minLength?_ofBranches_ofWord hne

/-- Where the least length is not zero, something is taken. -/
lemma advances_of_minLength? {e : Expr} {least : Nat} (hleast : e.minLength? = some least)
    (hpos : 0 < least) : e.tries.Advances := by
  intro before text n hn
  obtain ⟨word, rest, -, rfl, hword⟩ := e.within_tries before text n hn
  exact ⟨Nat.lt_of_lt_of_le hpos (minLength?_le_of_covers hleast hword), le_of_mem_tries hn⟩

lemma minLength?_of_isZeroWidth {e : Expr} (h : e.isZeroWidth = true) : e.minLength? = some 0 := by
  induction e with
  | empty => rfl
  | look condition => rfl
  | set chars => cases h
  | lit word =>
    obtain rfl := List.isEmpty_iff.1 h
    rfl
  | rep body min max greedy ih =>
    have hbody := ih (Bool.and_eq_true_iff.1 h).2
    simp [minLength?, hbody]
  | capture body ih => exact ih h
  | seq first rest ihfirst ihrest =>
    obtain ⟨hfirst, hrest⟩ := Bool.and_eq_true_iff.1 h
    simp [minLength?, ihfirst hfirst, ihrest hrest]
  | alt first rest ihfirst ihrest =>
    obtain ⟨hfirst, hrest⟩ := Bool.and_eq_true_iff.1 h
    simp [minLength?, ihfirst hfirst, ihrest hrest]

lemma tries_rep_one (e : Expr) (greedy : Bool) : (rep e 1 (some 1) greedy).tries = e.tries :=
  Tries.andThen_nothing e.tries

/-- A repetition whose least length is not zero is not simplified, but for one round. -/
lemma repeat_of_minLength? {e : Expr} {min : Nat} {max : Option Nat}
    (h : (e.repeat min max true).minLength? ≠ some 0) :
    e.minLength? ≠ some 0 ∧ (e.repeat min max true).tries = (rep e min max true).tries ∧
      (e.repeat min max true).minLength? = e.minLength?.map (· * min) := by
  -- What takes nothing would have the least length zero, repeated or not.
  have hwidth : e.isZeroWidth = false := by
    by_contra hzero
    rw [Bool.not_eq_false] at hzero
    have hleast := minLength?_of_isZeroWidth hzero
    refine h ?_
    unfold Expr.repeat
    simp only [hzero, if_true]
    split_ifs
    · rfl
    · exact hleast
    · simp [minLength?, hleast]
  unfold Expr.repeat at h ⊢
  simp only [hwidth, Bool.false_eq_true, if_false] at h ⊢
  split_ifs at h ⊢ with hnone hone
  · exact absurd rfl h
  · obtain ⟨rfl, rfl⟩ : min = 1 ∧ max = some 1 := by simpa using hone
    exact ⟨h, (tries_rep_one e true).symm, by simp⟩
  · refine ⟨fun hzero => h (by simp [minLength?, hzero]), rfl, rfl⟩

end Regex.Expr

/-! ## The meaning of an expression -/

namespace Pattern

open Regex.Expr

lemma sameFirsts_upTo {round : Tries} {one : List Char → List Nat}
    (h : ∀ before text, SameFirsts (round before text) (one text)) (more : Nat)
    (before : Option Char) (text : List Char) :
    SameFirsts (round.upTo true more before text) (roundsUpTo one more text) := by
  induction more generalizing before text with
  | zero => exact .refl _
  | succ more ih =>
    have hround : SameFirsts (round.andThen (round.upTo true more) before text)
        (roundThen one (roundsUpTo one more) text) :=
      (h before text).flatMap fun n _ => (ih _ _).map (n + ·)
    exact hround.append (.refl _)

/-- Rounds of the same are the same. -/
lemma sameFirsts_between {round : Tries} {one : List Char → List Nat}
    (h : ∀ before text, SameFirsts (round before text) (one text)) (more min : Nat)
    (before : Option Char) (text : List Char) :
    SameFirsts (round.between true more min before text) (rounds one more min text) := by
  induction min generalizing before text with
  | zero => exact sameFirsts_upTo h more before text
  | succ min ih => exact (h before text).flatMap fun n _ => (ih _ _).map (n + ·)

/-- An expression that tries what a pattern means.  If it has a part that matches nothing, and so no
least length, then it takes nothing anywhere. -/
structure Means (pattern : Pattern) (e : Expr) : Prop where
  sameFirsts : ∀ before text, SameFirsts (e.tries before text) (pattern.lengths text)
  standsStill : e.minLength? = none → e.tries.StandsStill

lemma tries_ofSet (chars : CodeSet) (before : Option Char) (text : List Char) :
    (ofSet chars).tries before text = charLengths chars.containsChar text := by
  unfold ofSet
  split
  · rename_i c hsingleton
    cases text with
    | nil => rfl
    | cons d text =>
      have hd := CodeSet.containsChar_of_singleton? hsingleton d
      have hcases : c = d ↔ d = c := eq_comm
      simp [Expr.tries, charLengths, hd, hcases]
  · cases text <;> rfl

/-- **The expression of an accepted pattern tries what the pattern means.**  The induction is on the
pattern; only repetitions have a part. -/
theorem means_of_ofTerm? {pattern : Pattern} (hdirect : pattern.IsDirect) {e : Expr}
    (he : ofTerm? pattern.item = some e) (hmin : e.minLength? ≠ some 0) : pattern.Means e := by
  induction pattern generalizing e with
  | literal word =>
    obtain rfl := Option.some.inj ((ofTerm?_item_literal word).symm.trans he)
    refine ⟨fun before text => ?_, fun hnone => ?_⟩
    · rw [tries_ofWord]
      exact .refl _
    · rw [minLength?_ofWord] at hnone
      cases hnone
  | literals words =>
    -- An empty list is written as the empty text, which has the least length zero.
    have hne : longestFirst words ≠ [] := by
      intro hempty
      rw [item, hempty] at he
      obtain rfl := Option.some.inj he
      exact hmin rfl
    rw [item, ofTerm?_ofBranches_textTerm hne] at he
    obtain rfl := Option.some.inj he
    have hmap : ((longestFirst words).map fun word => ofWord word.toList) =
        ((longestFirst words).map String.toList).map ofWord := by simp
    rw [hmap]
    refine ⟨fun before text => ?_, fun hnone => ?_⟩
    · refine (sameFirsts_tries_alternation_ofWord _).trans ?_
      rw [List.flatMap_map, longestFirst_eq_byLength]
      simp only [tries_ofWord]
      exact .refl _
    · have hwords : (longestFirst words).map String.toList ≠ [] := by simpa using hne
      have hsome := isSome_minLength?_alternation_ofWord hwords
      rw [hnone] at hsome
      cases hsome
  | charClass set =>
    obtain ⟨chars, hchars, hcontains⟩ := exists_ofTerm?_item_charClass set
    obtain rfl := Option.some.inj (hchars.symm.trans he)
    refine ⟨fun before text => ?_, standsStill_ofSet⟩
    rw [tries_ofSet, funext hcontains]
    exact .refl _
  | repetition body min max ih =>
    rw [ofTerm?_item_repetition, Option.map_eq_some_iff] at he
    obtain ⟨e, hbody, rfl⟩ := he
    obtain ⟨hleast, htries, hlength⟩ := repeat_of_minLength? hmin
    obtain ⟨hsame, hstill⟩ := ih hdirect hbody hleast
    -- Rounds that take something are bounded by the text, and rounds that take nothing change
    -- nothing.
    have hrounds : e.tries.Advances ∨ e.tries.StandsStill := by
      cases hshort : e.minLength? with
      | none => exact .inr (hstill hshort)
      | some least =>
        have hpos : 0 < least := Nat.pos_of_ne_zero fun hzero => hleast (hzero ▸ hshort)
        exact .inl (advances_of_minLength? hshort hpos)
    refine ⟨fun before text => ?_, fun hnone => ?_⟩
    · rw [htries]
      cases max with
      | none =>
        exact (Tries.sameFirsts_atLeast hrounds true min (Nat.le_refl text.length) before).trans
          (sameFirsts_between hsame text.length min before text)
      | some most => exact sameFirsts_between hsame (most - min) min before text
    -- Without a least length the body takes nothing anywhere, and neither do its rounds.
    · rw [hlength, Option.map_eq_none_iff] at hnone
      rw [htries]
      cases max with
      | none => exact (hstill hnone).atLeast true min
      | some most => exact (hstill hnone).between true (most - min) min
  | regex source => exact hdirect.elim
  | any =>
    obtain ⟨chars, hchars, hcontains⟩ := exists_ofTerm?_item_any
    obtain rfl := Option.some.inj (hchars.symm.trans he)
    refine ⟨fun before text => ?_, fun hnone => ?_⟩
    · cases text with
      | nil => exact .refl _
      | cons c text => simpa [Expr.tries, lengths, charLengths, hcontains] using SameFirsts.refl [1]
    -- A set that holds some character has the least length one.
    · simp [minLength?, isEmpty_eq_false_of_containsChar (hcontains 'a')] at hnone

/-- What the expression of a pattern matches is what is tried first. -/
lemma matchLength?_eq_lengths {pattern : Pattern} (hdirect : pattern.IsDirect) {e : Expr}
    (he : ofTerm? pattern.item = some e) (hmin : e.minLength? ≠ some 0) (before : Option Char)
    (text : List Char) : e.matchLength? before text = (pattern.lengths text).head? := by
  rw [matchLength?_eq_head?_tries]
  exact ((means_of_ofTerm? hdirect he hmin).sameFirsts before text).head?_eq

/-! ## Accepted patterns -/

section Accepted

variable {pattern : Pattern} {kind : String} {source : List Char}

lemma exists_ofTerm?_item (hdirect : pattern.IsDirect)
    (hcheck : checkPattern kind pattern = .ok source) :
    ∃ e, pattern.expr? = some e ∧ ofTerm? pattern.item = some e ∧ e.minLength? ≠ some 0 := by
  obtain ⟨-, e, he, hmin⟩ := exists_of_checkPattern hcheck
  have hvalid := hdirect.sourcesValid
  have hexpr := expr?_eq hvalid he
  have hterm := expr?_eq_ofTerm? hvalid (Option.isSome_iff_exists.2 ⟨e, he⟩)
  exact ⟨e, hexpr, hterm.symm.trans hexpr, hmin⟩

/-- An accepted pattern matches what is tried first. -/
lemma matches_iff_head?_lengths (hdirect : pattern.IsDirect)
    (hcheck : checkPattern kind pattern = .ok source) {text : List Char} {length : Nat} :
    pattern.Matches text length ↔ (pattern.lengths text).head? = some length := by
  obtain ⟨e, hexpr, hterm, hmin⟩ := exists_ofTerm?_item hdirect hcheck
  simp only [Matches, hexpr, Option.some.injEq, exists_eq_left', Expr.find?_eq_some_zero_iff,
    matchLength?_eq_lengths hdirect hterm hmin]

/-- **The regular expression of a pattern keeps its meaning.**  Behind a `^` the text of an accepted
pattern is the pattern's item behind the start of the text, and what is found with it is the length that
the pattern tries first, or nothing if it tries none.  The `^` is one more level, for which there is
no room if the pattern nests as deep as a regular expression may. -/
theorem exists_find?_eq_lengths (hdirect : pattern.IsDirect)
    (hcheck : checkPattern kind pattern = .ok source) :
    ∃ matcher, Expr.ofTerm? (.seq .caret pattern.item) = some matcher ∧
      Expr.ofText? (anchor source) =
        (if pattern.item.depth .none < Term.maxDepth then some matcher else none) ∧
      ∀ text, matcher.find? text = (pattern.lengths text).head?.map fun length => (0, length) := by
  obtain ⟨e, hexpr, hterm, hmin⟩ := exists_ofTerm?_item hdirect hcheck
  obtain ⟨rfl, written, hwritten, -⟩ := exists_of_checkPattern hcheck
  obtain ⟨term, hread, -⟩ := Option.bind_eq_some_iff.1 hwritten
  -- The `^` stands in front of the item, and does not enter the branches.
  have htied : Expr.ofTerm? (.seq .caret pattern.item) = some e.anchored := by
    rw [Expr.ofTerm?_seq_startLine, hterm]
    rfl
  refine ⟨e.anchored, htied, ?_, fun text => ?_⟩
  · rw [Expr.ofText?, ofText?_anchor hdirect.sourcesValid hread]
    split_ifs
    · exact htied
    · rfl
  · rw [Expr.find?_anchored (tidy_of_ofTerm? hterm), matchLength?_eq_lengths hdirect hterm hmin]

end Accepted

/-- Runs of signs, some of which begin like others. -/
def signs : Pattern :=
  repetition (literals ["+", "+=", "*"]) 2 (some 3)

theorem exists_find?_eq_lengths_signs :
    signs.IsDirect ∧ checkPattern "Signs" signs = .ok signs.write ∧
      ∃ matcher, Expr.ofTerm? (.seq .caret signs.item) = some matcher ∧
        Expr.ofText? (anchor signs.write) =
          (if signs.item.depth .none < Term.maxDepth then some matcher else none) ∧
        ∀ text, matcher.find? text = (signs.lengths text).head?.map fun length => (0, length) :=
  have hcheck : checkPattern "Signs" signs = .ok signs.write := by decide +kernel
  ⟨by decide, hcheck, exists_find?_eq_lengths (by decide) hcheck⟩

end Pattern

end Lexical
