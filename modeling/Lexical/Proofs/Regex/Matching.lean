import Lexical.Proofs.Regex.Anchored
import Lexical.Proofs.Regex.Language

/-!
# What a match covers

`Expr.matchLength?` follows all ways through an expression side by side and gives up those that are
less preferred than one that has stopped.  It loses no match by that
(`Expr.isSome_matchLength?_iff`), and what it takes is a word of the expression
(`Expr.covers_of_matchLength?`).  So a match is at least as long as the form of the expression tells
(`Expr.minLength?_le_matchLength?`).

Of an expression without conditions on places, the match depends on no more of the text than it takes:
a text can be cut off behind it, or anywhere where there is none (`Expr.LookFree.matchLength?_append`).
-/

namespace Lexical.Regex

/-! ## All stacks at one place -/

section Place

variable {place : Place} {threads : List Stack} {go : Go}

lemma mem_waysOfAll (h : go ∈ (waysOfAll place threads).1) :
    ∃ thread ∈ threads, go ∈ (Stack.ways place thread).early ++ (Stack.ways place thread).late := by
  induction threads with
  | nil => simp [waysOfAll] at h
  | cons thread threads ih =>
    unfold waysOfAll at h
    simp only at h
    split_ifs at h
    · exact ⟨thread, List.mem_cons_self, List.mem_append_left _ h⟩
    · rcases List.mem_append.1 h with h | h
      · exact ⟨thread, List.mem_cons_self, h⟩
      · obtain ⟨other, hother, hgo⟩ := ih h
        exact ⟨other, List.mem_cons_of_mem _ hother, hgo⟩

lemma stops_waysOfAll_iff :
    (waysOfAll place threads).2 = true ↔
      ∃ thread ∈ threads, (Stack.ways place thread).stops = true := by
  induction threads with
  | nil => simp [waysOfAll]
  | cons thread threads ih =>
    unfold waysOfAll
    simp only
    split_ifs with hstops
    · simp [hstops]
    · simp [hstops, ih]

/-- Where nothing stops, nothing is given up. -/
lemma mem_waysOfAll_of_not_stops (hstops : (waysOfAll place threads).2 = false) {thread : Stack}
    (hthread : thread ∈ threads)
    (h : go ∈ (Stack.ways place thread).early ++ (Stack.ways place thread).late) :
    go ∈ (waysOfAll place threads).1 := by
  induction threads with
  | nil => cases hthread
  | cons first threads ih =>
    unfold waysOfAll at hstops ⊢
    simp only at hstops ⊢
    split_ifs at hstops ⊢
    rcases List.mem_cons.1 hthread with rfl | hthread
    · exact List.mem_append_left _ h
    · exact List.mem_append_right _ (ih hstops hthread)

end Place

lemma mem_distinct {α : Type} [DecidableEq α] {seen l : List α} {a : α} :
    a ∈ distinct seen l ↔ a ∈ l ∧ a ∉ seen := by
  induction l generalizing seen with
  | nil => simp [distinct]
  | cons b l ih =>
    unfold distinct
    by_cases hb : b ∈ seen
    · rw [if_pos hb, ih]
      constructor
      · rintro ⟨ha, hseen⟩
        exact ⟨List.mem_cons_of_mem _ ha, hseen⟩
      · rintro ⟨ha, hseen⟩
        rcases List.mem_cons.1 ha with rfl | ha
        · exact absurd hb hseen
        · exact ⟨ha, hseen⟩
    -- The first of several equal elements is kept, and seen by those behind it.
    · rw [if_neg hb, List.mem_cons, ih, List.mem_cons, List.mem_cons]
      by_cases hab : a = b
      · subst hab
        simp [hb]
      · simp [hab]

lemma mem_advance {gos : List Go} {c : Char} {stack : Stack} :
    stack ∈ advance gos c ↔ ∃ go ∈ gos, go.symbol.admits c = true ∧ go.stack = stack := by
  simp [advance, mem_distinct, and_assoc]

/-! ## Following stacks through a text -/

/-- One of some stacks covers the start of a text. -/
def AnyCovers (threads : List Stack) (before : Option Char) (word rest : List Char) : Prop :=
  ∃ thread ∈ threads, Stack.Covers thread before word rest

section Follow

variable {before : Option Char} {threads : List Stack} {c : Char} {word rest : List Char}

lemma anyCovers_nil :
    AnyCovers threads before [] rest ↔ (waysOfAll ⟨before, rest.head?⟩ threads).2 = true := by
  rw [stops_waysOfAll_iff]
  constructor
  · rintro ⟨thread, hthread, hcovers⟩
    exact ⟨thread, hthread,
      (Stack.covers_ways ⟨before, rest.head?⟩ thread [] rest rfl).2 hcovers⟩
  · rintro ⟨thread, hthread, hstops⟩
    exact ⟨thread, hthread,
      (Stack.covers_ways ⟨before, rest.head?⟩ thread [] rest rfl).1 hstops⟩

/-- What stacks cover behind a character is covered with it. -/
lemma anyCovers_cons_of_advance
    (h : AnyCovers (advance (waysOfAll ⟨before, some c⟩ threads).1 c) (some c) word rest) :
    AnyCovers threads before (c :: word) rest := by
  obtain ⟨stack, hstack, hcovers⟩ := h
  obtain ⟨go, hgo, hadmits, rfl⟩ := mem_advance.1 hstack
  obtain ⟨thread, hthread, hgo⟩ := mem_waysOfAll hgo
  exact ⟨thread, hthread,
    (Stack.covers_ways ⟨before, some c⟩ thread (c :: word) rest rfl).1 ⟨go, hgo, hadmits, hcovers⟩⟩

/-- Where nothing stops, all that is covered is covered behind the next character. -/
lemma anyCovers_advance_of_cons
    (hstops : (waysOfAll ⟨before, some c⟩ threads).2 = false)
    (h : AnyCovers threads before (c :: word) rest) :
    AnyCovers (advance (waysOfAll ⟨before, some c⟩ threads).1 c) (some c) word rest := by
  obtain ⟨thread, hthread, hcovers⟩ := h
  obtain ⟨go, hgo, hadmits, hcovers⟩ :=
    (Stack.covers_ways ⟨before, some c⟩ thread (c :: word) rest rfl).2 hcovers
  have hmem := mem_waysOfAll_of_not_stops hstops hthread hgo
  exact ⟨go.stack, mem_advance.2 ⟨go, hmem, hadmits, rfl⟩, hcovers⟩

/-- The best match so far, where a stack may stop behind `count` characters. -/
def bestAt (before behind : Option Char) (threads : List Stack) (count : Nat) (best : Option Nat) :
    Option Nat :=
  if (waysOfAll ⟨before, behind⟩ threads).2 then some count else best

lemma follow_nil (count : Nat) (best : Option Nat) :
    follow before threads count best [] = bestAt before none threads count best := rfl

/-- Stacks that cannot go on need not be told apart from others. -/
lemma follow_cons (count : Nat) (best : Option Nat) :
    follow before threads count best (c :: rest) =
      follow (some c) (advance (waysOfAll ⟨before, some c⟩ threads).1 c) (count + 1)
        (bestAt before (some c) threads count best) rest := by
  -- Without any stack the search is over.
  have hnone (text : List Char) (best : Option Nat) :
      follow (some c) [] (count + 1) best text = best := by
    cases text <;> rfl
  rw [follow]
  simp only
  split
  · rename_i hadvance
    rw [hadvance, hnone]
    rfl
  · rfl

lemma covers_of_bestAt (rest : List Char) {count length : Nat} {best : Option Nat}
    (h : bestAt before rest.head? threads count best = some length) :
    best = some length ∨ (length = count ∧ AnyCovers threads before [] rest) := by
  unfold bestAt at h
  split_ifs at h with hstops
  · exact .inr ⟨(Option.some.inj h).symm, anyCovers_nil.2 hstops⟩
  · exact .inl h

/-- What is found is the best match so far, or a word of one of the stacks.  The induction is on the
text. -/
lemma covers_of_follow {text : List Char} {count length : Nat} {best : Option Nat}
    (h : follow before threads count best text = some length) :
    best = some length ∨ ∃ word rest, text = word ++ rest ∧ length = count + word.length ∧
      AnyCovers threads before word rest := by
  induction text generalizing before threads count best with
  | nil =>
    rw [follow_nil] at h
    rcases covers_of_bestAt [] h with hbest | ⟨rfl, hcovers⟩
    · exact .inl hbest
    · exact .inr ⟨[], [], rfl, rfl, hcovers⟩
  | cons c text ih =>
    rw [follow_cons] at h
    rcases ih h with hbest | ⟨word, rest, rfl, rfl, hcovers⟩
    -- Behind the first character there was no word, so the best match was there before or stops
    -- right here.
    · rcases covers_of_bestAt (c :: text) hbest with hbest | ⟨rfl, hcovers⟩
      · exact .inl hbest
      · exact .inr ⟨[], c :: text, rfl, rfl, hcovers⟩
    · have hlength : count + 1 + word.length = count + (c :: word).length := by
        simp only [List.length_cons]
        omega
      exact .inr ⟨c :: word, rest, rfl, hlength, anyCovers_cons_of_advance hcovers⟩

lemma isSome_bestAt {behind : Option Char} {count : Nat} {best : Option Nat}
    (h : best.isSome = true) : (bestAt before behind threads count best).isSome = true := by
  unfold bestAt
  split_ifs
  · rfl
  · exact h

/-- What has been found is not lost. -/
lemma isSome_follow_of_best {text : List Char} {count : Nat} {best : Option Nat}
    (h : best.isSome = true) : (follow before threads count best text).isSome = true := by
  induction text generalizing before threads count best with
  | nil => exact isSome_bestAt h
  | cons c text ih =>
    rw [follow_cons]
    exact ih (isSome_bestAt h)

/-- A word that one of the stacks covers is found, or a better one.  The induction is on the word. -/
lemma isSome_follow_of_covers {count : Nat} {best : Option Nat}
    (h : AnyCovers threads before word rest) :
    (follow before threads count best (word ++ rest)).isSome = true := by
  induction word generalizing before threads count best with
  | nil =>
    -- The word is read, and a stack stops here, which makes a match.
    have hstops := anyCovers_nil.1 h
    cases rest with
    | nil =>
      rw [List.nil_append, follow_nil, bestAt]
      simp only [List.head?_nil] at hstops
      rw [if_pos hstops]
      rfl
    | cons c rest =>
      rw [List.nil_append, follow_cons, bestAt]
      simp only [List.head?_cons] at hstops
      rw [if_pos hstops]
      exact isSome_follow_of_best rfl
  | cons c word ih =>
    rw [List.cons_append, follow_cons]
    -- A stack that stops replaces what is tried behind it, but leaves a match.
    cases hstops : (waysOfAll ⟨before, some c⟩ threads).2 with
    | true =>
      rw [bestAt, if_pos hstops]
      exact isSome_follow_of_best rfl
    | false => exact ih (anyCovers_advance_of_cons hstops h)

/-- What is found is the best match so far, or no shorter than what has been read.  The induction is
on the text. -/
lemma follow_eq_or_le (before : Option Char) (threads : List Stack) (text : List Char) (count : Nat)
    (best : Option Nat) :
    follow before threads count best text = best ∨
      ∃ length, follow before threads count best text = some length ∧ count ≤ length := by
  cases hfollow : follow before threads count best text with
  | none =>
    cases best with
    | none => exact .inl rfl
    | some length =>
      have hsome : (follow before threads count (some length) text).isSome = true :=
        isSome_follow_of_best rfl
      rw [hfollow] at hsome
      cases hsome
  | some length =>
    rcases covers_of_follow hfollow with hbest | ⟨word, rest, -, rfl, -⟩
    · exact .inl hbest.symm
    · exact .inr ⟨_, rfl, Nat.le_add_right _ _⟩

end Follow

/-! ## Matches of expressions -/

namespace Expr

variable {e : Expr} {before : Option Char} {text : List Char} {length : Nat}

lemma anyCovers_run {word rest : List Char} :
    AnyCovers [[.run e]] before word rest ↔ e.Covers before word rest := by
  simp only [AnyCovers, List.mem_singleton, exists_eq_left, Stack.covers_singleton]
  rfl

/-- **What an expression takes is one of its words.** -/
theorem covers_of_matchLength? (h : e.matchLength? before text = some length) :
    e.Covers before (text.take length) (text.drop length) := by
  rcases covers_of_follow h with hbest | ⟨word, rest, rfl, rfl, hcovers⟩
  · cases hbest
  · simpa using anyCovers_run.1 hcovers

/-- **An expression matches where it covers some start of the text.** -/
theorem isSome_matchLength?_iff :
    (e.matchLength? before text).isSome = true ↔
      ∃ word rest, text = word ++ rest ∧ e.Covers before word rest := by
  constructor
  · intro h
    obtain ⟨length, hlength⟩ := Option.isSome_iff_exists.1 h
    exact ⟨_, _, (List.take_append_drop length text).symm, covers_of_matchLength? hlength⟩
  · rintro ⟨word, rest, rfl, hcovers⟩
    exact isSome_follow_of_covers (anyCovers_run.2 hcovers)

/-! ## The length of a match -/

lemma minLength?_le_rounds {body : Expr} {least : Nat} (hbody : ∀ before word rest,
      body.Covers before word rest → least ≤ word.length) {count : Nat} {word rest : List Char}
    (h : body.Covers.rounds count before word rest) : least * count ≤ word.length := by
  induction count generalizing before word with
  | zero => exact Nat.zero_le _
  | succ count ih =>
    obtain ⟨first, second, rfl, hfirst, hsecond⟩ := h
    have hone := hbody _ _ _ hfirst
    have hothers := ih hsecond
    rw [List.length_append, Nat.mul_succ]
    omega

/-- The form of an expression bounds the length of its words.  The induction is on the expression. -/
lemma minLength?_le_of_covers {least : Nat} (hleast : e.minLength? = some least)
    {word rest : List Char} (h : e.Covers before word rest) : least ≤ word.length := by
  induction e generalizing before word rest least with
  | empty =>
    obtain rfl := Option.some.inj hleast
    exact Nat.zero_le _
  | lit text =>
    obtain rfl := Option.some.inj hleast
    obtain rfl : word = text := h
    exact Nat.le_refl _
  | set chars =>
    unfold minLength? at hleast
    split_ifs at hleast
    obtain rfl := Option.some.inj hleast
    obtain ⟨c, -, rfl⟩ := h
    exact Nat.le_refl _
  | look condition =>
    obtain rfl := Option.some.inj hleast
    exact Nat.zero_le _
  | rep body min max greedy ih =>
    obtain ⟨one, hone, rfl⟩ := Option.map_eq_some_iff.1 hleast
    obtain ⟨count, hmin, -, hrounds⟩ := h
    calc one * min ≤ one * count := Nat.mul_le_mul_left one hmin
      _ ≤ word.length := minLength?_le_rounds (fun _ _ _ => ih hone) hrounds
  | capture body ih => exact ih hleast h
  | seq first second ihfirst ihsecond =>
    obtain ⟨one, hone, hleast⟩ := Option.bind_eq_some_iff.1 hleast
    obtain ⟨two, htwo, hleast⟩ := Option.bind_eq_some_iff.1 hleast
    obtain rfl := Option.some.inj hleast
    obtain ⟨start, behind, rfl, hstart, hbehind⟩ := h
    have hle := ihfirst hone hstart
    have hle' := ihsecond htwo hbehind
    rw [List.length_append]
    omega
  | alt first second ihfirst ihsecond =>
    obtain ⟨one, hone, hleast⟩ := Option.bind_eq_some_iff.1 hleast
    obtain ⟨two, htwo, hleast⟩ := Option.bind_eq_some_iff.1 hleast
    obtain rfl := Option.some.inj hleast
    rcases h with hfirst | hsecond
    · have := ihfirst hone hfirst
      omega
    · have := ihsecond htwo hsecond
      omega

/-- **A match is no shorter than the form of the expression tells.** -/
theorem minLength?_le_matchLength? {least : Nat} (hleast : e.minLength? = some least)
    (h : e.matchLength? before text = some length) : least ≤ length := by
  have hcovers := minLength?_le_of_covers hleast (covers_of_matchLength? h)
  rw [List.length_take] at hcovers
  omega

end Expr

/-! ## Matches without conditions on places -/

/-- No condition on a place stands in what remains to be matched. -/
def Frame.LookFree : Frame → Prop
  | run e => e.LookFree
  | again body _ => body.LookFree

def Stack.LookFree (stack : Stack) : Prop :=
  ∀ frame ∈ stack, frame.LookFree

def Ways.LookFree (ways : Ways) : Prop :=
  ∀ go ∈ ways.early ++ ways.late, Stack.LookFree go.stack

namespace Ways

variable {first second ways : Ways} {frames : Stack}

lemma lookFree_stop : stop.LookFree := by
  simp [LookFree, stop]

lemma lookFree_read {symbol : Symbol} {stack : Stack} (h : Stack.LookFree stack) :
    (read symbol stack).LookFree := by
  simpa [LookFree, read] using h

lemma LookFree.andThen (hfirst : first.LookFree) (hframes : Stack.LookFree frames)
    (hsecond : second.LookFree) : (first.andThen frames second).LookFree := by
  -- The frames put behind add no condition of their own.
  have hfollow : ∀ go ∈ follow first.early frames ++ follow first.late frames,
      Stack.LookFree go.stack := by
    intro go hgo
    rw [follow, follow, ← List.map_append] at hgo
    obtain ⟨go, hmem, rfl⟩ := List.mem_map.1 hgo
    intro frame hframe
    rcases List.mem_append.1 hframe with hframe | hframe
    · exact hfirst go hmem frame hframe
    · exact hframes frame hframe
  unfold Ways.andThen
  intro go hgo
  split_ifs at hgo
  · simp only [List.mem_append] at hgo
    rcases hgo with (hgo | hgo) | hgo | hgo
    · exact hfollow go (List.mem_append_left _ hgo)
    · exact hsecond go (List.mem_append_left _ hgo)
    · exact hsecond go (List.mem_append_right _ hgo)
    · exact hfollow go (List.mem_append_right _ hgo)
  · exact hfollow go hgo

lemma LookFree.orElse (hfirst : first.LookFree) (hsecond : second.LookFree) :
    (first.orElse second).LookFree := by
  unfold Ways.orElse
  intro go hgo
  have hcases : go ∈ first.early ++ first.late ∨ go ∈ second.early ++ second.late := by
    split_ifs at hgo <;> grind
  rcases hcases with hgo | hgo
  · exact hfirst go hgo
  · exact hsecond go hgo

lemma LookFree.orStop (h : ways.LookFree) (greedy : Bool) : (ways.orStop greedy).LookFree := by
  unfold Ways.orStop
  split_ifs
  · exact h.orElse lookFree_stop
  · exact lookFree_stop.orElse h

lemma LookFree.withoutStop (h : ways.LookFree) : ways.withoutStop.LookFree := by
  intro go hgo
  exact h go (by simpa [Ways.withoutStop] using hgo)

end Ways

section Rounds

variable {body : Expr} {greedy : Bool} {round : Ways}

lemma lookFree_run {e : Expr} (h : e.LookFree) : Stack.LookFree [.run e] := by
  simpa [Stack.LookFree, Frame.LookFree] using h

lemma lookFree_again {body : Expr} (h : body.LookFree) (greedy : Bool) :
    Stack.LookFree [.again body greedy] := by
  simpa [Stack.LookFree, Frame.LookFree] using h

lemma lookFree_waysUpTo (hbody : body.LookFree) (hround : round.LookFree) (count : Nat) :
    (waysUpTo body greedy round count).LookFree := by
  induction count with
  | zero => exact Ways.lookFree_stop
  | succ count ih =>
    have hrest : Expr.LookFree (.rep body 0 (some count) greedy) := hbody
    exact (hround.andThen (lookFree_run hrest) ih).orStop greedy

lemma lookFree_waysBetween (hbody : body.LookFree) (hround : round.LookFree) (more min : Nat) :
    (waysBetween body greedy round more min).LookFree := by
  induction min with
  | zero => exact lookFree_waysUpTo hbody hround more
  | succ min ih =>
    have hrest : Expr.LookFree (.rep body min (some (min + more)) greedy) := hbody
    exact hround.andThen (lookFree_run hrest) ih

lemma lookFree_waysFrom (hbody : body.LookFree) (hround : round.LookFree) (min : Nat) :
    (waysFrom body greedy round min).LookFree := by
  have hagain := lookFree_again hbody greedy
  fun_induction waysFrom body greedy round min with
  | case1 => exact (hround.andThen hagain Ways.lookFree_stop).orStop greedy
  | case2 => exact hround.andThen hagain Ways.lookFree_stop
  | case3 min ih =>
    have hrest : Expr.LookFree (.rep body (min + 1) none greedy) := hbody
    exact hround.andThen (lookFree_run hrest) ih

end Rounds

namespace Expr.LookFree

/-- What remains has no conditions on places, either. -/
lemma ways {e : Expr} (h : e.LookFree) (place : Place) : (e.ways place).LookFree := by
  induction e with
  | empty => exact Ways.lookFree_stop
  | lit text =>
    match text with
    | [] => exact Ways.lookFree_stop
    | [c] => exact Ways.lookFree_read (by simp [Stack.LookFree])
    | c :: d :: text => exact Ways.lookFree_read (lookFree_run (e := lit (d :: text)) trivial)
  | set chars => exact Ways.lookFree_read (by simp [Stack.LookFree])
  | look condition => exact h.elim
  | rep body min max greedy ih =>
    cases max with
    | none =>
      have hbody : body.LookFree := h
      exact lookFree_waysFrom hbody (ih hbody) min
    | some most =>
      have hbody : body.LookFree := h
      exact lookFree_waysBetween hbody (ih hbody) (most - min) min
  | capture body ih => exact ih h
  | seq first second ihfirst ihsecond =>
    exact (ihfirst h.1).andThen (lookFree_run h.2) (ihsecond h.2)
  | alt first second ihfirst ihsecond => exact (ihfirst h.1).orElse (ihsecond h.2)

/-- The ways are the same at all places. -/
lemma ways_eq {e : Expr} (h : e.LookFree) (place place' : Place) :
    e.ways place = e.ways place' := by
  induction e with
  | look condition => exact h.elim
  | rep body min max greedy ih => simp only [Expr.ways, ih h]
  | capture body ih => exact ih h
  | seq first second ihfirst ihsecond =>
    simp only [Expr.ways, ihfirst h.1, ihsecond h.2]
  | alt first second ihfirst ihsecond =>
    simp only [Expr.ways, ihfirst h.1, ihsecond h.2]
  | lit text =>
    cases text with
    | nil => rfl
    | cons c rest => cases rest <;> rfl
  | _ => rfl

end Expr.LookFree

section LookFree

variable {threads : List Stack}

lemma Frame.LookFree.ways {frame : Frame} (h : frame.LookFree) (place : Place) :
    (frame.ways place).LookFree := by
  cases frame with
  | run e => exact Expr.LookFree.ways h place
  | again body greedy =>
    have hbody : (body.ways place).LookFree := Expr.LookFree.ways h place
    exact (hbody.withoutStop.andThen (lookFree_again h greedy) Ways.lookFree_stop).orStop greedy

lemma Frame.LookFree.ways_eq {frame : Frame} (h : frame.LookFree) (place place' : Place) :
    frame.ways place = frame.ways place' := by
  cases frame with
  | run e => exact Expr.LookFree.ways_eq h place place'
  | again body greedy => simp only [Frame.ways, Expr.LookFree.ways_eq h place place']

lemma Stack.LookFree.ways {stack : Stack} (h : Stack.LookFree stack) (place : Place) :
    (Stack.ways place stack).LookFree := by
  induction stack with
  | nil => exact Ways.lookFree_stop
  | cons frame stack ih =>
    have hstack : Stack.LookFree stack := fun f hf => h f (List.mem_cons_of_mem _ hf)
    have hframe : frame.LookFree := h frame List.mem_cons_self
    exact (hframe.ways place).andThen hstack (ih hstack)

lemma Stack.LookFree.ways_eq {stack : Stack} (h : Stack.LookFree stack) (place place' : Place) :
    Stack.ways place stack = Stack.ways place' stack := by
  induction stack with
  | nil => rfl
  | cons frame stack ih =>
    have hstack : Stack.LookFree stack := fun f hf => h f (List.mem_cons_of_mem _ hf)
    have hframe : frame.LookFree := h frame List.mem_cons_self
    rw [Stack.ways, Stack.ways, hframe.ways_eq place place', ih hstack]

lemma waysOfAll_eq (h : ∀ thread ∈ threads, Stack.LookFree thread) (place place' : Place) :
    waysOfAll place threads = waysOfAll place' threads := by
  induction threads with
  | nil => rfl
  | cons thread threads ih =>
    have hfirst := (h thread List.mem_cons_self).ways_eq place place'
    have hothers := ih fun other hother => h other (List.mem_cons_of_mem _ hother)
    rw [waysOfAll, waysOfAll, hfirst, hothers]

lemma bestAt_eq (h : ∀ thread ∈ threads, Stack.LookFree thread) (before before' : Option Char)
    (behind behind' : Option Char) (count : Nat) (best : Option Nat) :
    bestAt before behind threads count best = bestAt before' behind' threads count best := by
  unfold bestAt
  rw [waysOfAll_eq h ⟨before, behind⟩ ⟨before', behind'⟩]

lemma lookFree_advance (h : ∀ thread ∈ threads, Stack.LookFree thread) (place : Place) (c : Char) :
    ∀ thread ∈ advance (waysOfAll place threads).1 c, Stack.LookFree thread := by
  intro stack hstack
  obtain ⟨go, hgo, -, rfl⟩ := mem_advance.1 hstack
  obtain ⟨thread, hthread, hgo⟩ := mem_waysOfAll hgo
  exact (h thread hthread).ways place go hgo

/-- What is found in the first part of a text is found in that part by itself, wherever it stands.
The induction is on that part. -/
lemma follow_append (h : ∀ thread ∈ threads, Stack.LookFree thread) {text more : List Char}
    {before before' : Option Char} {count : Nat} {best : Option Nat}
    (hle : ∀ length, follow before threads count best (text ++ more) = some length →
      length ≤ count + text.length) :
    follow before' threads count best text = follow before threads count best (text ++ more) := by
  induction text generalizing before before' threads count best with
  | nil =>
    -- The part is read. A match behind it would be longer than `hle` allows, so the best so far
    -- stands.
    rw [follow_nil, List.nil_append]
    cases more with
    | nil => exact bestAt_eq h before' before none none count best
    | cons c more =>
      rw [List.nil_append, follow_cons] at hle
      rw [follow_cons, bestAt_eq h before' before none (some c)]
      rcases follow_eq_or_le (some c) (advance (waysOfAll ⟨before, some c⟩ threads).1 c) more
          (count + 1) (bestAt before (some c) threads count best) with
        hsame | ⟨length, hlength, hlong⟩
      · exact hsame.symm
      · have := hle length hlength
        simp only [List.length_nil] at this
        omega
  | cons c text ih =>
    rw [List.cons_append, follow_cons] at hle ⊢
    -- The place does not enter the ways, only the characters do.
    rw [follow_cons, bestAt_eq h before' before (some c) (some c),
      waysOfAll_eq h ⟨before', some c⟩ ⟨before, some c⟩]
    refine ih (lookFree_advance h ⟨before, some c⟩ c) fun length hlength => ?_
    have hlong := hle length hlength
    rw [List.length_cons] at hlong
    omega

end LookFree

namespace Expr.LookFree

variable {e : Expr} {text more : List Char}

/-- **A text can be cut off behind a match**, and anywhere where there is no match. -/
theorem matchLength?_append (h : e.LookFree) {before : Option Char} (before' : Option Char)
    (hle : ∀ length, e.matchLength? before (text ++ more) = some length → length ≤ text.length) :
    e.matchLength? before' text = e.matchLength? before (text ++ more) := by
  refine follow_append (fun thread hthread => ?_) fun length hlength => ?_
  · obtain rfl := List.mem_singleton.1 hthread
    exact lookFree_run h
  · simpa using hle length hlength

end Expr.LookFree

end Lexical.Regex
