import Lexical.Regex.Ways
import Mathlib.Tactic.Lemma
import Mathlib.Tactic.SplitIfs

/-!
# What an expression covers

`Expr.ways` says of an expression what can be done at a place, one character at a time and in order
of preference.  This file says what all of it comes to, without the order: `Expr.Covers` is a relation
between an expression, a word, and what stands before and behind the word.  It is defined by the form
of the expression, so the words of a sequence, of an alternation or of a number of rounds are those
that one expects.

The main result is `Expr.covers_ways`: from any place, the ways through an expression lead over the
words that it covers, and over no others.  Only the conditions on places look at what is around a
word; an expression without them covers the same words everywhere (`Expr.LookFree.covers_iff`).
-/

namespace Lexical.Regex

/-! ## Languages -/

/-- The character before the place behind a word that stands behind `before`. -/
def lastOf (before : Option Char) : List Char → Option Char
  | [] => before
  | c :: word => lastOf (some c) word

@[simp] lemma lastOf_nil (before : Option Char) : lastOf before [] = before := rfl

@[simp] lemma lastOf_cons (before : Option Char) (c : Char) (word : List Char) :
    lastOf before (c :: word) = lastOf (some c) word := rfl

@[simp] lemma lastOf_append (before : Option Char) (word others : List Char) :
    lastOf before (word ++ others) = lastOf (lastOf before word) others := by
  induction word generalizing before with
  | nil => rfl
  | cons c word ih => exact ih (some c)

/-- Words in their surroundings: the character before a word, the word, and the text behind it. -/
abbrev Language := Option Char → List Char → List Char → Prop

namespace Language

/-- The empty word. -/
def nothing : Language :=
  fun _ word _ => word = []

/-- A word of the first language and behind it one of the second. -/
def andThen (L M : Language) : Language :=
  fun before word rest => ∃ first second, word = first ++ second ∧
    L before first (second ++ rest) ∧ M (lastOf before first) second rest

/-- So many words, one behind the other. -/
def rounds (L : Language) : Nat → Language
  | 0 => nothing
  | count + 1 => L.andThen (L.rounds count)

variable {L M N : Language} {before : Option Char} {word rest : List Char}

lemma andThen_assoc :
    ((L.andThen M).andThen N) before word rest ↔ (L.andThen (M.andThen N)) before word rest := by
  constructor
  · rintro ⟨_, third, rfl, ⟨first, second, rfl, hL, hM⟩, hN⟩
    refine ⟨first, second ++ third, by rw [List.append_assoc], ?_, second, third, rfl, hM, ?_⟩
    · rwa [List.append_assoc]
    · rwa [lastOf_append] at hN
  · rintro ⟨first, _, rfl, hL, second, third, rfl, hM, hN⟩
    refine ⟨first ++ second, third, by rw [List.append_assoc], ⟨first, second, rfl, ?_, hM⟩, ?_⟩
    · rwa [List.append_assoc] at hL
    · rwa [lastOf_append]

@[simp] lemma nothing_andThen : (nothing.andThen M) before word rest ↔ M before word rest := by
  constructor
  · rintro ⟨_, second, rfl, rfl, hM⟩
    exact hM
  · intro hM
    exact ⟨[], word, rfl, rfl, hM⟩

@[simp] lemma andThen_nothing : (L.andThen nothing) before word rest ↔ L before word rest := by
  constructor
  · rintro ⟨first, _, rfl, hL, rfl⟩
    simpa using hL
  · intro hL
    exact ⟨word, [], by simp, by simpa using hL, rfl⟩

/-- Both parts of an empty word are empty. -/
lemma andThen_nil : (L.andThen M) before [] rest ↔ L before [] rest ∧ M before [] rest := by
  constructor
  · rintro ⟨first, second, hword, hL, hM⟩
    obtain ⟨rfl, rfl⟩ := List.append_eq_nil_iff.1 hword.symm
    exact ⟨hL, hM⟩
  · rintro ⟨hL, hM⟩
    exact ⟨[], [], rfl, hL, hM⟩

/-- Rounds that cover a word cover it from the first round on that is not empty. -/
lemma exists_round_of_rounds {count : Nat} (h : L.rounds count before word rest)
    (hword : word ≠ []) :
    ∃ others < count, ∃ first second, first ≠ [] ∧ word = first ++ second ∧
      L before first (second ++ rest) ∧ L.rounds others (lastOf before first) second rest := by
  induction count generalizing before word with
  | zero => exact absurd h hword
  | succ count ih =>
    obtain ⟨first, second, rfl, hfirst, hsecond⟩ := h
    -- An empty first round leaves the whole word to the others.
    by_cases hempty : first = []
    · subst hempty
      obtain ⟨others, hless, hround⟩ := ih hsecond hword
      exact ⟨others, Nat.lt_succ_of_lt hless, hround⟩
    · exact ⟨count, Nat.lt_succ_self count, first, second, hempty, rfl, hfirst, hsecond⟩

end Language

open Lexical.Regex.Language

/-! ## The language of an expression -/

/-- Whether a word is one of an expression, in its surroundings. -/
def Expr.Covers : Expr → Language
  | empty => nothing
  | lit text => fun _ word _ => word = text
  | set chars => fun _ word _ => ∃ c, chars.containsChar c = true ∧ word = [c]
  | look condition => fun before word rest =>
    word = [] ∧ Place.holds ⟨before, rest.head?⟩ condition = true
  | rep body min max _ => fun before word rest =>
    ∃ count, min ≤ count ∧ (∀ most, max = some most → count ≤ Nat.max min most) ∧
      body.Covers.rounds count before word rest
  | capture body => body.Covers
  | seq first second => first.Covers.andThen second.Covers
  | alt first second => fun before word rest =>
    first.Covers before word rest ∨ second.Covers before word rest

/-- What may come behind a round may be any number of further rounds. -/
def Frame.Covers : Frame → Language
  | run e => e.Covers
  | again body _ => fun before word rest => ∃ count, body.Covers.rounds count before word rest

/-- The frames of a stack cover their words one behind the other. -/
def Stack.Covers : Stack → Language
  | [] => nothing
  | frame :: stack => frame.Covers.andThen (Stack.Covers stack)

lemma Stack.covers_append {stack frames : Stack} {before : Option Char} {word rest : List Char} :
    Stack.Covers (stack ++ frames) before word rest ↔
      ((Stack.Covers stack).andThen (Stack.Covers frames)) before word rest := by
  induction stack generalizing before word with
  | nil => exact nothing_andThen.symm
  | cons frame stack ih =>
    rw [List.cons_append, Stack.Covers, Stack.Covers, andThen_assoc]
    unfold Language.andThen
    simp only [ih]
    rfl

lemma Stack.covers_singleton {frame : Frame} {before : Option Char} {word rest : List Char} :
    Stack.Covers [frame] before word rest ↔ frame.Covers before word rest :=
  andThen_nothing

/-! ## The language of ways -/

/-- A word over which one of the ways leads.  The place at which they begin is not named here. -/
def Ways.Covers (ways : Ways) : List Char → List Char → Prop
  | [], _ => ways.stops = true
  | c :: word, rest => ∃ go ∈ ways.early ++ ways.late,
      go.symbol.admits c = true ∧ Stack.Covers go.stack (some c) word rest

/-- From a place on, ways lead over the words of a language. -/
def Ways.Lead (ways : Ways) (place : Place) (L : Language) : Prop :=
  ∀ word rest, place.behind = (word ++ rest).head? →
    (ways.Covers word rest ↔ L place.before word rest)

namespace Ways

variable {first second ways : Ways} {place : Place} {L M : Language} {frames : Stack}
  {word rest : List Char}

@[simp] lemma covers_nil : ways.Covers [] rest ↔ ways.stops = true := Iff.rfl

@[simp] lemma covers_stop : stop.Covers word rest ↔ word = [] := by
  cases word <;> simp [Covers, stop]

@[simp] lemma not_covers_none : ¬ none.Covers word rest := by
  cases word <;> simp [Covers, none]

lemma covers_read {symbol : Symbol} {stack : Stack} :
    (read symbol stack).Covers word rest ↔ ∃ c others, word = c :: others ∧
      symbol.admits c = true ∧ Stack.Covers stack (some c) others rest := by
  cases word with
  | nil => simp [read]
  | cons d others =>
    constructor
    · rintro ⟨go, hgo, hadmits, hcovers⟩
      obtain rfl := List.mem_singleton.1 hgo
      exact ⟨d, others, rfl, hadmits, hcovers⟩
    · rintro ⟨_, _, heq, hadmits, hcovers⟩
      obtain ⟨rfl, rfl⟩ := List.cons.inj heq
      exact ⟨⟨symbol, stack⟩, List.mem_singleton_self _, hadmits, hcovers⟩

/-- Ways of the first kind that read something lead on to the frames; those that stop leave it to
the second ones. -/
lemma covers_andThen (before : Option Char) :
    (first.andThen frames second).Covers word rest ↔
      (first.stops = true ∧ second.Covers word rest) ∨
        ∃ start behind, start ≠ [] ∧ word = start ++ behind ∧
          first.Covers start (behind ++ rest) ∧
          Stack.Covers frames (lastOf before start) behind rest := by
  -- What ways with frames put behind them read is what they read and, behind it, what the frames
  -- cover.
  have hreads (c : Char) (others : List Char) :
      (∃ go ∈ follow first.early frames ++ follow first.late frames,
          go.symbol.admits c = true ∧ Stack.Covers go.stack (some c) others rest) ↔
        ∃ start behind, start ≠ [] ∧ c :: others = start ++ behind ∧
          first.Covers start (behind ++ rest) ∧
          Stack.Covers frames (lastOf before start) behind rest := by
    constructor
    · rintro ⟨_, hfollow, hadmits, hcovers⟩
      rw [follow, follow, ← List.map_append] at hfollow
      obtain ⟨go, hgo, rfl⟩ := List.mem_map.1 hfollow
      obtain ⟨start, behind, rfl, hstart, hbehind⟩ := Stack.covers_append.1 hcovers
      exact ⟨c :: start, behind, by simp, rfl, ⟨go, hgo, hadmits, hstart⟩, hbehind⟩
    · rintro ⟨start, behind, hne, hword, hstart, hbehind⟩
      cases start with
      | nil => exact absurd rfl hne
      | cons d start =>
        obtain ⟨rfl, rfl⟩ := List.cons.inj hword
        obtain ⟨go, hgo, hadmits, hcovers⟩ := hstart
        have hmem : { go with stack := go.stack ++ frames } ∈
            follow first.early frames ++ follow first.late frames := by
          rw [follow, follow, ← List.map_append]
          exact List.mem_map.2 ⟨go, hgo, rfl⟩
        exact ⟨_, hmem, hadmits, Stack.covers_append.2 ⟨start, behind, rfl, hcovers, hbehind⟩⟩
  cases word with
  | nil =>
    have hempty : ¬ ∃ start behind, start ≠ [] ∧ [] = start ++ behind ∧
        first.Covers start (behind ++ rest) ∧
        Stack.Covers frames (lastOf before start) behind rest := by
      rintro ⟨start, behind, hne, hword, -⟩
      exact hne (List.append_eq_nil_iff.1 hword.symm).1
    simp only [hempty, or_false, covers_nil, andThen]
    split_ifs with hstops <;> simp [hstops]
  | cons c others =>
    rw [← hreads]
    unfold andThen
    split_ifs with hstops
    · simp only [Covers, hstops, true_and, List.mem_append, or_and_right, exists_or]
      grind
    · rw [show (first.stops = true) = False from eq_false hstops, false_and, false_or]
      rfl

/-- One kind of ways behind the other. -/
lemma Lead.andThen (hfirst : first.Lead place L) (hframes : ∀ before word rest,
      Stack.Covers frames before word rest ↔ M before word rest)
    (hsecond : second.Lead place M) : (first.andThen frames second).Lead place (L.andThen M) := by
  intro word rest hbehind
  rw [covers_andThen place.before]
  constructor
  · rintro (⟨hstops, hsecond'⟩ | ⟨start, behind, -, rfl, hstart, hbehind'⟩)
    · have hM := (hsecond word rest hbehind).1 hsecond'
      have hL := (hfirst [] (word ++ rest) hbehind).1 hstops
      exact ⟨[], word, rfl, hL, hM⟩
    -- The end of the first word is the place behind which the frames start.
    · rw [List.append_assoc] at hbehind
      exact ⟨start, behind, rfl, (hfirst start _ hbehind).1 hstart, (hframes _ _ _).1 hbehind'⟩
  · rintro ⟨start, behind, rfl, hL, hM⟩
    rw [List.append_assoc] at hbehind
    have hstart := (hfirst start _ hbehind).2 hL
    -- Where the first ways stop at once, the second ones begin at the same place.
    by_cases hempty : start = []
    · subst hempty
      exact .inl ⟨hstart, (hsecond behind rest hbehind).2 hM⟩
    · exact .inr ⟨start, behind, hempty, rfl, hstart, (hframes _ _ _).2 hM⟩

@[simp] lemma covers_orElse :
    (first.orElse second).Covers word rest ↔ first.Covers word rest ∨ second.Covers word rest := by
  unfold orElse
  cases word with
  | nil => split_ifs with hstops <;> simp [hstops]
  | cons c others =>
    split_ifs with hstops <;>
      simp only [Covers, List.mem_append, or_and_right, exists_or, or_assoc]

@[simp] lemma covers_orStop {greedy : Bool} :
    (ways.orStop greedy).Covers word rest ↔ word = [] ∨ ways.Covers word rest := by
  cases greedy <;> simp [orStop, or_comm]

@[simp] lemma covers_withoutStop :
    ways.withoutStop.Covers word rest ↔ word ≠ [] ∧ ways.Covers word rest := by
  cases word <;> simp [Covers, withoutStop]

end Ways

/-! ## Repetitions -/

section Repetitions

variable {body : Expr} {greedy : Bool} {round : Ways} {place : Place}

/-- The language of a number of rounds from `min` on, up to `max` if there is an upper bound. -/
abbrev Expr.RoundsIn (body : Expr) (min : Nat) (max : Option Nat) : Language :=
  fun before word rest => ∃ count, min ≤ count ∧ (∀ most, max = some most → count ≤ most) ∧
    body.Covers.rounds count before word rest

lemma Expr.covers_rep (greedy : Bool) {min : Nat} {max : Option Nat} {before : Option Char}
    {word rest : List Char} (hmax : ∀ most, max = some most → min ≤ most) :
    (rep body min max greedy).Covers before word rest ↔ body.RoundsIn min max before word rest := by
  -- The upper bound is at least `min`, so that taking the maximum changes nothing.
  have hbound (count most : Nat) (h : max = some most) :
      count ≤ Nat.max min most ↔ count ≤ most := by
    rw [show Nat.max min most = most from Nat.max_eq_right (hmax most h)]
  simp only [Covers, RoundsIn]
  constructor
  · rintro ⟨count, hmin, hmost, hrounds⟩
    exact ⟨count, hmin, fun most h => (hbound count most h).1 (hmost most h), hrounds⟩
  · rintro ⟨count, hmin, hmost, hrounds⟩
    exact ⟨count, hmin, fun most h => (hbound count most h).2 (hmost most h), hrounds⟩

/-- One round and behind it so many less. -/
lemma Expr.roundsIn_succ {min : Nat} {max : Option Nat} {before : Option Char}
    {word rest : List Char} :
    body.RoundsIn (min + 1) (max.map (· + 1)) before word rest ↔
      (body.Covers.andThen (body.RoundsIn min max)) before word rest := by
  constructor
  · rintro ⟨count, hmin, hmost, hrounds⟩
    obtain ⟨count, rfl⟩ : ∃ n, count = n + 1 := ⟨count - 1, by omega⟩
    obtain ⟨start, behind, rfl, hstart, hbehind⟩ := hrounds
    refine ⟨start, behind, rfl, hstart, count, by omega, fun most h => ?_, hbehind⟩
    have := hmost (most + 1) (by simp [h])
    omega
  · rintro ⟨start, behind, rfl, hstart, count, hmin, hmost, hrounds⟩
    refine ⟨count + 1, by omega, fun most h => ?_, start, behind, rfl, hstart, hrounds⟩
    obtain ⟨less, hless, rfl⟩ := Option.map_eq_some_iff.1 h
    have := hmost less hless
    omega

lemma Frame.stack_covers_run_rep (body : Expr) (greedy : Bool) {min : Nat} {max : Option Nat}
    (hmax : ∀ most, max = some most → min ≤ most) (before : Option Char)
    (word rest : List Char) :
    Stack.Covers [.run (.rep body min max greedy)] before word rest ↔
      body.RoundsIn min max before word rest :=
  Stack.covers_singleton.trans (Expr.covers_rep greedy hmax)

/-- The induction is on the number of rounds that are allowed. -/
lemma waysUpTo_lead (hround : round.Lead place body.Covers) (count : Nat) :
    (waysUpTo body greedy round count).Lead place (body.RoundsIn 0 (some count)) := by
  induction count with
  | zero =>
    intro word rest _
    rw [waysUpTo, Ways.covers_stop]
    constructor
    · intro hword
      exact ⟨0, Nat.zero_le _, fun _ _ => Nat.zero_le _, hword⟩
    · rintro ⟨count, -, hmost, hrounds⟩
      obtain rfl : count = 0 := Nat.le_zero.1 (hmost 0 rfl)
      exact hrounds
  | succ count ih =>
    have hstep := hround.andThen
      (Frame.stack_covers_run_rep body greedy (by simp)) ih
    intro word rest hbehind
    rw [waysUpTo, Ways.covers_orStop, hstep word rest hbehind, ← Expr.roundsIn_succ]
    constructor
    · rintro (rfl | ⟨rounds, -, hmost, hrounds⟩)
      · exact ⟨0, Nat.zero_le _, fun _ _ => Nat.zero_le _, rfl⟩
      · exact ⟨rounds, Nat.zero_le _, hmost, hrounds⟩
    -- Behind no rounds the word is empty, and the ways may stop; else there is a first round.
    · rintro ⟨rounds, -, hmost, hrounds⟩
      cases rounds with
      | zero => exact .inl hrounds
      | succ rounds => exact .inr ⟨rounds + 1, by omega, hmost, hrounds⟩

/-- The induction is on the number of rounds that have to be. -/
lemma waysBetween_lead (greedy : Bool) (hround : round.Lead place body.Covers) (more min : Nat) :
    (waysBetween body greedy round more min).Lead place
      (body.RoundsIn min (some (min + more))) := by
  induction min with
  | zero => simpa [waysBetween] using waysUpTo_lead hround more
  | succ min ih =>
    have hstep := hround.andThen
      (Frame.stack_covers_run_rep body greedy (by simp)) ih
    intro word rest hbehind
    rw [waysBetween, hstep word rest hbehind, ← Expr.roundsIn_succ, Option.map_some,
      Nat.add_right_comm]

lemma Frame.stack_covers_again (before : Option Char) (word rest : List Char) :
    Stack.Covers [.again body greedy] before word rest ↔
      ∃ count, body.Covers.rounds count before word rest :=
  Stack.covers_singleton

/-- A round that reads something, and then any number of rounds. -/
lemma covers_andThen_again (hround : round.Lead place body.Covers) {word rest : List Char}
    (hbehind : place.behind = (word ++ rest).head?) :
    (round.andThen [.again body greedy] .stop).Covers word rest ↔
      body.RoundsIn 1 none place.before word rest := by
  rw [Ways.covers_andThen place.before]
  simp only [Ways.covers_stop, Frame.stack_covers_again]
  constructor
  · rintro (⟨hstops, rfl⟩ | ⟨start, behind, -, rfl, hstart, count, hrounds⟩)
    · have hempty := (hround [] rest hbehind).1 hstops
      exact ⟨1, Nat.le_refl _, by simp, [], [], rfl, hempty, rfl⟩
    · rw [List.append_assoc] at hbehind
      exact ⟨count + 1, by omega, by simp, start, behind, rfl, (hround start _ hbehind).1 hstart,
        hrounds⟩
  · rintro ⟨count, hmin, -, hrounds⟩
    -- For an empty word the first round has to be empty too. Any other word starts with a round
    -- that reads, and the empty ones before that can be left out.
    by_cases hempty : word = []
    · subst hempty
      obtain ⟨count, rfl⟩ : ∃ n, count = n + 1 := ⟨count - 1, by omega⟩
      have hfirst := (andThen_nil.1 hrounds).1
      exact .inl ⟨(hround [] rest hbehind).2 hfirst, rfl⟩
    · obtain ⟨others, -, start, behind, hne, rfl, hstart, hrest⟩ :=
        exists_round_of_rounds hrounds hempty
      rw [List.append_assoc] at hbehind
      exact .inr ⟨start, behind, hne, rfl, (hround start _ hbehind).2 hstart, others, hrest⟩

/-- The induction is on the number of rounds that have to be. -/
lemma waysFrom_lead (hround : round.Lead place body.Covers) (min : Nat) :
    (waysFrom body greedy round min).Lead place (body.RoundsIn min none) := by
  fun_induction waysFrom body greedy round min with
  | case1 =>
    intro word rest hbehind
    rw [Ways.covers_orStop, covers_andThen_again hround hbehind]
    constructor
    · rintro (rfl | ⟨count, -, hmost, hrounds⟩)
      · exact ⟨0, Nat.le_refl _, by simp, rfl⟩
      · exact ⟨count, Nat.zero_le _, hmost, hrounds⟩
    · rintro ⟨count, -, hmost, hrounds⟩
      cases count with
      | zero => exact .inl hrounds
      | succ count => exact .inr ⟨count + 1, by omega, hmost, hrounds⟩
  | case2 =>
    intro word rest hbehind
    exact covers_andThen_again hround hbehind
  | case3 min ih =>
    have hstep := hround.andThen
      (Frame.stack_covers_run_rep body greedy (by simp)) ih
    intro word rest hbehind
    rw [hstep word rest hbehind, ← Expr.roundsIn_succ, Option.map_none]

end Repetitions

/-! ## The ways through an expression -/

lemma Expr.covers_ways_lit (place : Place) (text : List Char) :
    ((lit text).ways place).Lead place (lit text).Covers := by
  intro word rest _
  match text with
  | [] => exact Ways.covers_stop
  | [c] =>
    simp only [ways, Ways.covers_read, Covers, Symbol.admits, decide_eq_true_eq]
    constructor
    · rintro ⟨_, others, rfl, rfl, rfl⟩
      rfl
    · rintro rfl
      exact ⟨c, [], rfl, rfl, rfl⟩
  | c :: d :: text =>
    simp only [ways, Ways.covers_read, Covers, Symbol.admits, decide_eq_true_eq,
      Stack.covers_singleton, Frame.Covers]
    constructor
    · rintro ⟨_, others, rfl, rfl, rfl⟩
      rfl
    · rintro rfl
      exact ⟨c, d :: text, rfl, rfl, rfl⟩

/-- A condition covers no characters, so the place behind its word is the one before it. -/
lemma Expr.covers_ways_look (place : Place) (condition : Look) :
    ((look condition).ways place).Lead place (look condition).Covers := by
  intro word rest hbehind
  -- With an empty word the condition is tested at the place itself.
  have hplace (hword : word = []) : Place.mk place.before rest.head? = place := by
    subst hword
    rw [List.nil_append] at hbehind
    rw [← hbehind]
  simp only [ways, Covers]
  constructor
  · intro hcovers
    split_ifs at hcovers with hholds
    · have hword := Ways.covers_stop.1 hcovers
      rw [hplace hword]
      exact ⟨hword, hholds⟩
    · exact absurd hcovers Ways.not_covers_none
  · rintro ⟨hword, hholds⟩
    rw [hplace hword] at hholds
    rw [if_pos hholds]
    exact Ways.covers_stop.2 hword

/-- **The ways through an expression lead over the words that it covers.**  The induction is on the
expression. -/
theorem Expr.covers_ways (place : Place) (e : Expr) : (e.ways place).Lead place e.Covers := by
  induction e with
  | empty =>
    intro word rest _
    exact Ways.covers_stop
  | lit text => exact covers_ways_lit place text
  | set chars =>
    intro word rest _
    simp only [ways, Ways.covers_read, Covers, Symbol.admits]
    constructor
    · rintro ⟨c, others, rfl, hadmits, rfl⟩
      exact ⟨c, hadmits, rfl⟩
    · rintro ⟨c, hadmits, rfl⟩
      exact ⟨c, [], rfl, hadmits, rfl⟩
  | look condition => exact covers_ways_look place condition
  | rep body min max greedy ih =>
    intro word rest hbehind
    cases max with
    | none =>
      rw [covers_rep greedy (by simp)]
      exact waysFrom_lead ih min word rest hbehind
    | some most =>
      -- The bound of the model is `most - min` further rounds.
      have hways := waysBetween_lead greedy ih (most - min) min word rest hbehind
      have hmost : min + (most - min) = Nat.max min most := by
        change _ = max min most
        omega
      rw [hmost] at hways
      simp only [ways, hways, RoundsIn, Covers, Option.some.injEq, forall_eq']
  | capture body ih => exact ih
  | seq first second ihfirst ihsecond =>
    exact ihfirst.andThen (fun _ _ _ => Stack.covers_singleton) ihsecond
  | alt first second ihfirst ihsecond =>
    intro word rest hbehind
    rw [ways, Ways.covers_orElse, ihfirst word rest hbehind, ihsecond word rest hbehind]
    rfl

lemma Frame.covers_ways (place : Place) (frame : Frame) :
    (frame.ways place).Lead place frame.Covers := by
  cases frame with
  | run e => exact e.covers_ways place
  | again body greedy =>
    have hround : (body.ways place).Lead place body.Covers := body.covers_ways place
    intro word rest hbehind
    -- Another round has to read something, so empty rounds are left out here as well.
    have hagain : ((body.ways place).withoutStop.andThen [.again body greedy] .stop).Covers word rest
        ↔ word ≠ [] ∧ ∃ count, body.Covers.rounds count place.before word rest := by
      rw [Ways.covers_andThen place.before]
      simp only [Ways.withoutStop, Bool.false_eq_true, false_and, false_or, stack_covers_again]
      change (∃ start behind, start ≠ [] ∧ word = start ++ behind ∧
        (body.ways place).withoutStop.Covers start (behind ++ rest) ∧ _) ↔ _
      simp only [Ways.covers_withoutStop]
      constructor
      · rintro ⟨start, behind, hne, rfl, ⟨-, hstart⟩, count, hrounds⟩
        rw [List.append_assoc] at hbehind
        exact ⟨by simp [hne], count + 1, start, behind, rfl,
          (hround start _ hbehind).1 hstart, hrounds⟩
      · rintro ⟨hne, count, hrounds⟩
        obtain ⟨others, -, start, behind, hne', rfl, hstart, hrest⟩ :=
          exists_round_of_rounds hrounds hne
        rw [List.append_assoc] at hbehind
        exact ⟨start, behind, hne', rfl, ⟨hne', (hround start _ hbehind).2 hstart⟩, others, hrest⟩
    rw [ways, Ways.covers_orStop, hagain]
    constructor
    · rintro (rfl | ⟨-, hrounds⟩)
      · exact ⟨0, rfl⟩
      · exact hrounds
    · rintro hrounds
      by_cases hempty : word = []
      · exact .inl hempty
      · exact .inr ⟨hempty, hrounds⟩

/-- The same for what remains after some characters.  The induction is on the frames. -/
lemma Stack.covers_ways (place : Place) (stack : Stack) :
    (Stack.ways place stack).Lead place (Stack.Covers stack) := by
  induction stack with
  | nil =>
    intro word rest _
    exact Ways.covers_stop
  | cons frame stack ih => exact (frame.covers_ways place).andThen (fun _ _ _ => Iff.rfl) ih

/-! ## Expressions without conditions on places -/

/-- A language whose words are the same in all surroundings. -/
def Language.Steady (L : Language) : Prop :=
  ∀ ⦃before before' : Option Char⦄ ⦃word rest rest' : List Char⦄,
    L before word rest → L before' word rest'

namespace Language.Steady

variable {L M : Language}

lemma andThen (hL : L.Steady) (hM : M.Steady) : (L.andThen M).Steady := by
  rintro before before' word rest rest' ⟨first, second, rfl, hfirst, hsecond⟩
  exact ⟨first, second, rfl, hL hfirst, hM hsecond⟩

lemma rounds (hL : L.Steady) (count : Nat) : (L.rounds count).Steady := by
  induction count with
  | zero => exact fun _ _ _ _ _ hword => hword
  | succ count ih => exact hL.andThen ih

end Language.Steady

/-- No condition on a place stands in an expression. -/
def Expr.LookFree : Expr → Prop
  | look _ => False
  | rep body _ _ _ => body.LookFree
  | capture body => body.LookFree
  | seq first rest => first.LookFree ∧ rest.LookFree
  | alt first rest => first.LookFree ∧ rest.LookFree
  | _ => True

instance Expr.decidableLookFree : (e : Expr) → Decidable e.LookFree
  | look _ => .isFalse id
  | rep body _ _ _ => body.decidableLookFree
  | capture body => body.decidableLookFree
  | seq first rest | alt first rest =>
    have := first.decidableLookFree
    have := rest.decidableLookFree
    inferInstanceAs (Decidable (first.LookFree ∧ rest.LookFree))
  | empty | lit _ | set _ => .isTrue trivial

lemma Expr.LookFree.steady {e : Expr} (h : e.LookFree) : e.Covers.Steady := by
  induction e with
  | empty => exact fun _ _ _ _ _ hword => hword
  | lit text => exact fun _ _ _ _ _ hword => hword
  | set chars => exact fun _ _ _ _ _ hword => hword
  | look condition => exact h.elim
  | rep body min max greedy ih =>
    rintro before before' word rest rest' ⟨count, hmin, hmost, hrounds⟩
    exact ⟨count, hmin, hmost, (ih h).rounds count hrounds⟩
  | capture body ih => exact ih h
  | seq first second ihfirst ihsecond => exact (ihfirst h.1).andThen (ihsecond h.2)
  | alt first second ihfirst ihsecond =>
    rintro before before' word rest rest' (hfirst | hsecond)
    · exact .inl (ihfirst h.1 hfirst)
    · exact .inr (ihsecond h.2 hsecond)

/-- **Without conditions on places, what is around a word does not matter.** -/
theorem Expr.LookFree.covers_iff {e : Expr} (h : e.LookFree) {before before' : Option Char}
    {word rest rest' : List Char} : e.Covers before word rest ↔ e.Covers before' word rest' :=
  ⟨fun hcovers => h.steady hcovers, fun hcovers => h.steady hcovers⟩

end Lexical.Regex
