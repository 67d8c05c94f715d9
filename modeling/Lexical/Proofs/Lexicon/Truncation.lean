import Lexical.Proofs.Lexicon.Scanner

/-!
# Choosing from the start of a text

A state that sees only the start of a text may choose otherwise than it would from the whole: a match
may be longer there, and a fallback rule looks for a match as far as it takes.  Here is when it does
not (`StateTable.Chooses.of_append`).  What is chosen from the whole text has to lie within
the part that is seen, and where a fallback rule ends before that part does, the match behind it has
to be seen, too.

All rules are to be without conditions on places.
-/

namespace Lexical

open Regex

/-! ## Matches of rules -/

section Rules

variable {rule : Rule} {rules : List Rule} {text more : List Char} {length : Nat}

/-- A rule matches alike, if its match lies within the part that is seen, or if it has none. -/
lemma Rule.LookFree.matches_append_iff (h : rule.LookFree)
    (hle : ∀ length, rule.Matches (text ++ more) length → length ≤ text.length) :
    rule.Matches text length ↔ rule.Matches (text ++ more) length := by
  simp only [Rule.matches_iff] at hle ⊢
  refine exists_congr fun pattern => exists_congr fun e => ?_
  refine and_congr_right fun hmatching => and_congr_right fun he => ?_
  have hwithin : ∀ length, e.matchLength? none (text ++ more) = some length →
      length ≤ text.length :=
    fun length hlength => hle length ⟨pattern, e, hmatching, he, hlength⟩
  rw [(h pattern hmatching e he).matchLength?_append none hwithin]

/-- A match that lies within the part that is seen is seen. -/
lemma Rule.LookFree.matches_of_append (h : rule.LookFree)
    (hmatches : rule.Matches (text ++ more) length) (hlength : length ≤ text.length) :
    rule.Matches text length := by
  refine (h.matches_append_iff fun other hother => ?_).2 hmatches
  rw [hother.unique hmatches]
  exact hlength

/-- A rule that matches the part matches the whole, though perhaps more of it. -/
lemma Rule.LookFree.exists_matches_append (h : rule.LookFree) (hmatches : rule.Matches text length)
    (more : List Char) : ∃ length', rule.Matches (text ++ more) length' := by
  obtain ⟨pattern, e, hmatching, he, hlength⟩ := Rule.matches_iff.1 hmatches
  have hsome : (e.matchLength? none text).isSome = true := by
    rw [hlength]
    rfl
  obtain ⟨word, rest, rfl, hcovers⟩ := Expr.isSome_matchLength?_iff.1 hsome
  have hcovers' : e.Covers none word (rest ++ more) :=
    (h pattern hmatching e he).covers_iff.1 hcovers
  have hwhole : (e.matchLength? none (word ++ rest ++ more)).isSome = true :=
    Expr.isSome_matchLength?_iff.2 ⟨word, rest ++ more, by simp, hcovers'⟩
  obtain ⟨length', hlength'⟩ := Option.isSome_iff_exists.1 hwhole
  exact ⟨length', Rule.matches_iff.2 ⟨pattern, e, hmatching, he, hlength'⟩⟩

variable (hlook : ∀ rule ∈ rules, rule.LookFree)

include hlook

lemma MatchesAt.of_append {index : Nat} (h : MatchesAt rules (text ++ more) index length)
    (hlength : length ≤ text.length) : MatchesAt rules text index length := by
  obtain ⟨rule, hrule, hmatches⟩ := h
  have hfree := hlook rule (List.mem_of_getElem? hrule)
  exact ⟨rule, hrule, hfree.matches_of_append hmatches hlength⟩

lemma Hit.append (h : Hit rules text) (more : List Char) : Hit rules (text ++ more) := by
  obtain ⟨index, length, rule, hrule, hmatches⟩ := h
  have hfree := hlook rule (List.mem_of_getElem? hrule)
  obtain ⟨length', hmatches'⟩ := hfree.exists_matches_append hmatches more
  exact ⟨index, length', rule, hrule, hmatches'⟩

/-- A gap in the whole text is one in the part that is seen, if its end is seen. -/
lemma EndsGap.of_append (h : EndsGap (Hit rules) (text ++ more) length)
    (hlength : length ≤ text.length)
    (hend : length < text.length → Hit rules (text.drop length)) :
    EndsGap (Hit rules) text length := by
  refine ⟨hlength, fun place hplace hhit => h.inside place hplace ?_, hend⟩
  rw [List.drop_append_of_le_length (Nat.le_trans (Nat.le_of_lt hplace) hlength)]
  exact hhit.append hlook more

end Rules

/-! ## Choices of a state -/

/-- What a state chooses, by the reason for which it does. -/
inductive StateTable.Chooses {n : Nat} (rules : List Rule) (table : StateTable n)
    (text : List Char) : Entry n Expr → Nat → Prop
  | pattern {entry : Entry n Expr} {index length : Nat}
      (best : Best rules text (some (index, length)))
      (entry_eq : table.entries[index]? = some entry) : Chooses rules table text entry length
  | fallback {entry : Entry n Expr} {length : Nat} (unmatched : ¬ Hit rules text)
      (entry_eq : table.fallback? = some entry) (gap : EndsGap (Hit rules) text length) :
      Chooses rules table text entry length
  | catchAll {entry : Entry n Expr} (unmatched : ¬ Hit rules text)
      (no_fallback : table.fallback? = none) (entry_eq : table.catchAll? = some entry) :
      Chooses rules table text entry text.length

section Best

variable {rules : List Rule} {text more : List Char} {index length : Nat}

lemma best_none_iff : Best rules text none ↔ ¬ Hit rules text := by
  constructor
  · rintro ⟨unmatched⟩ ⟨index, length, hmatches⟩
    exact unmatched index length hmatches
  · intro hnot
    exact .nothing fun index length hmatches => hnot ⟨index, length, hmatches⟩

lemma Best.hit (h : Best rules text (some (index, length))) : Hit rules text := by
  cases h with
  | found matchesAt _ => exact ⟨index, length, matchesAt⟩

lemma Best.le_length (h : Best rules text (some (index, length))) : length ≤ text.length := by
  cases h with
  | found matchesAt _ =>
    obtain ⟨rule, -, hmatches⟩ := matchesAt
    exact hmatches.le_length

/-- A best match that lies within the part that is seen is the best one there. -/
lemma Best.of_append (hlook : ∀ rule ∈ rules, rule.LookFree)
    (h : Best rules (text ++ more) (some (index, length))) (hlength : length ≤ text.length) :
    Best rules text (some (index, length)) := by
  cases h with
  | found matchesAt best =>
    refine .found (matchesAt.of_append hlook hlength) fun other length' hother => ?_
    obtain ⟨rule, hrule, hmatches⟩ := hother
    have hfree := hlook rule (List.mem_of_getElem? hrule)
    have hwithin : ∀ most, rule.Matches (text ++ more) most → most ≤ text.length := by
      intro most hmost
      have hbest := best other most ⟨rule, hrule, hmost⟩
      omega
    exact best other length' ⟨rule, hrule, (hfree.matches_append_iff hwithin).1 hmatches⟩

end Best

namespace StateTable.Implements

variable {names : List String} {closure : String → CategorySet} {declaration : Declaration}
  {table : StateTable names.length} {entry : Entry names.length Expr} {text more : List Char}
  {length : Nat}

/-- What is chosen and why. -/
theorem choose_eq_some_iff (h : table.Implements closure declaration)
    (hvalid : ∀ rule ∈ declaration.2, rule.SourcesValid)
    (hlook : ∀ rule ∈ declaration.2, rule.LookFree) :
    table.choose text = some (entry, length) ↔
      table.Chooses declaration.2 text entry length := by
  have hbest := h.best_longest hvalid text
  unfold choose
  cases hlongest : table.matcher.longest text with
  | some found =>
    obtain ⟨index, most⟩ := found
    rw [hlongest] at hbest
    constructor
    · intro hchosen
      obtain ⟨entry', hentry, hsame⟩ := Option.map_eq_some_iff.1 hchosen
      obtain ⟨rfl, rfl⟩ := Prod.mk.inj hsame
      exact .pattern hbest hentry
    · intro hchooses
      cases hchooses with
      | pattern best hentry =>
        obtain ⟨rfl, rfl⟩ := Prod.mk.inj (Option.some.inj (hbest.unique best))
        exact Option.map_eq_some_iff.2 ⟨entry, hentry, rfl⟩
      | fallback unmatched => exact absurd hbest.hit unmatched
      | catchAll unmatched => exact absurd hbest.hit unmatched
  | none =>
    rw [hlongest] at hbest
    have hunmatched := best_none_iff.1 hbest
    simp only
    cases hfallback : table.fallback? with
    | some special =>
      have hgap := h.endsGap hvalid hlook hfallback hunmatched
      constructor
      · intro hchosen
        obtain ⟨rfl, rfl⟩ := Prod.mk.inj (Option.some.inj hchosen)
        exact .fallback hunmatched hfallback hgap
      · intro hchooses
        cases hchooses with
        | pattern best => exact absurd best.hit hunmatched
        | fallback _ hentry gap =>
          obtain rfl := Option.some.inj (hfallback.symm.trans hentry)
          rw [hgap.unique gap]
        | catchAll _ hnone =>
          rw [hfallback] at hnone
          cases hnone
    | none =>
      constructor
      · intro hchosen
        obtain ⟨entry', hentry, hsame⟩ := Option.map_eq_some_iff.1 hchosen
        obtain ⟨rfl, rfl⟩ := Prod.mk.inj hsame
        exact .catchAll hunmatched hfallback hentry
      · intro hchooses
        cases hchooses with
        | pattern best => exact absurd best.hit hunmatched
        | fallback _ hentry =>
          rw [hfallback] at hentry
          cases hentry
        | catchAll _ _ hentry => exact Option.map_eq_some_iff.2 ⟨entry, hentry, rfl⟩

end StateTable.Implements

namespace StateTable.Chooses

variable {n : Nat} {rules : List Rule} {table : StateTable n} {entry : Entry n Expr}
  {text more : List Char} {length : Nat}

/-- Nothing is taken from behind the text. -/
lemma le_length (h : table.Chooses rules text entry length) : length ≤ text.length := by
  cases h with
  | pattern best _ => exact best.le_length
  | fallback _ _ gap => exact gap.le_length
  | catchAll _ _ _ => exact Nat.le_refl _

/-- **What is chosen from the whole text is chosen from the part that is seen**, if it lies within that
part, and if a fallback rule that ends before that part does has its end in sight. -/
theorem of_append (hlook : ∀ rule ∈ rules, rule.LookFree)
    (h : table.Chooses rules (text ++ more) entry length) (hlength : length ≤ text.length)
    (hend : table.fallback? = some entry → EndsGap (Hit rules) (text ++ more) length →
      length < text.length → Hit rules (text.drop length)) :
    table.Chooses rules text entry length := by
  have hunmatched (hnot : ¬ Hit rules (text ++ more)) : ¬ Hit rules text :=
    fun hhit => hnot (hhit.append hlook more)
  cases h with
  | pattern best entry_eq => exact .pattern (best.of_append hlook hlength) entry_eq
  | fallback unmatched entry_eq gap =>
    exact .fallback (hunmatched unmatched) entry_eq (gap.of_append hlook hlength (hend entry_eq gap))
  | catchAll unmatched no_fallback entry_eq =>
    obtain rfl : more = [] := by
      rw [List.length_append] at hlength
      exact List.length_eq_zero_iff.1 (by omega)
    rw [List.append_nil] at unmatched ⊢
    exact .catchAll unmatched no_fallback entry_eq

end StateTable.Chooses

end Lexical
