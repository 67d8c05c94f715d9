import Lexical.Proofs.Regex.Tries

/-!
# Matches in order of preference

`Expr.matchLength?` follows all ways through an expression side by side, and never goes back.  What it
finds is nevertheless what a search with backtracking would try first
(`Expr.matchLength?_eq_head?_tries`).  To follow ways side by side means to follow those that come
together only once, which is why the lists of what is tried are compared up to what is repeated.
-/

namespace Lexical.Regex

/-! ## The ways through an expression -/

/-- What ways of going on come to, once the next character has been read. -/
def Go.tries (gos : List Go) (c : Char) (rest : List Char) : List Nat :=
  gos.flatMap fun go =>
    if go.symbol.admits c then (Stack.tries go.stack (some c) rest).map (· + 1) else []

/-- What can be tried on some ways through a text. -/
def Ways.tries (ways : Ways) : List Char → List Nat
  | [] => if ways.stops then [0] else []
  | c :: rest =>
    Go.tries ways.early c rest ++ ((if ways.stops then [0] else []) ++ Go.tries ways.late c rest)

/-- At a place, the ways come to the tries in order. -/
def Ways.Try (ways : Ways) (place : Place) (tries : Tries) : Prop :=
  ∀ text, place.behind = text.head? → SameFirsts (ways.tries text) (tries place.before text)

lemma Stack.tries_append (stack frames : Stack) :
    Stack.tries (stack ++ frames) = (Stack.tries stack).andThen (Stack.tries frames) := by
  induction stack with
  | nil => exact (Tries.nothing_andThen _).symm
  | cons frame stack ih => rw [List.cons_append, Stack.tries, ih, Stack.tries, Tries.andThen_assoc]

lemma Stack.tries_singleton (frame : Frame) : Stack.tries [frame] = frame.tries :=
  Tries.andThen_nothing _

namespace Ways

variable {first second ways : Ways} {place : Place} {S T : Tries} {frames : Stack} {c : Char}
  {rest text : List Char}

lemma pos_of_mem_tries_go {gos : List Go} {n : Nat} (h : n ∈ Go.tries gos c rest) : 0 < n := by
  obtain ⟨go, -, hn⟩ := List.mem_flatMap.1 h
  split_ifs at hn
  · obtain ⟨m, -, rfl⟩ := List.mem_map.1 hn
    exact Nat.succ_pos m
  · cases hn

lemma tries_go_append (gos others : List Go) :
    Go.tries (gos ++ others) c rest = Go.tries gos c rest ++ Go.tries others c rest :=
  List.flatMap_append

/-- Frames that are left behind what is read are tried behind each length. -/
lemma tries_go_follow (gos : List Go) (frames : Stack) (before : Option Char) :
    Go.tries (follow gos frames) c rest = (Go.tries gos c rest).flatMap fun n =>
      (Stack.tries frames (lastOf before ((c :: rest).take n)) ((c :: rest).drop n)).map (n + ·) := by
  simp only [Go.tries, follow, List.flatMap_map, List.flatMap_assoc, Stack.tries_append]
  congr 1
  funext go
  split_ifs
  · simp only [Tries.andThen, List.map_flatMap, List.flatMap_map, List.map_map, Function.comp_def,
      List.take_succ_cons, lastOf_cons, List.drop_succ_cons, Nat.add_right_comm]
  · rfl

@[simp] lemma tries_go_nil : Go.tries [] c rest = [] := rfl

lemma tries_nil (ways : Ways) : ways.tries [] = if ways.stops then [0] else [] := rfl

lemma tries_cons (ways : Ways) (c : Char) (rest : List Char) :
    ways.tries (c :: rest) = Go.tries ways.early c rest ++
      ((if ways.stops then [0] else []) ++ Go.tries ways.late c rest) := rfl

lemma tries_read_cons (symbol : Symbol) (stack : Stack) :
    (read symbol stack).tries (c :: rest) =
      if symbol.admits c then (Stack.tries stack (some c) rest).map (· + 1) else [] := by
  simp [read, tries_cons, Go.tries]

/-- The second ways are tried where the first ones stop. -/
lemma tries_andThen (before : Option Char) (text : List Char) :
    (first.andThen frames second).tries text = (first.tries text).flatMap fun n =>
      if n = 0 then second.tries text
      else (Stack.tries frames (lastOf before (text.take n)) (text.drop n)).map (n + ·) := by
  cases text with
  | nil =>
    unfold Ways.andThen
    cases hstops : first.stops <;> simp [tries_nil, hstops]
  | cons c rest =>
    -- Ways that read something leave the frames to be tried behind it, which is what `n` other
    -- than zero says.
    have hgo (gos : List Go) : (Go.tries gos c rest).flatMap (fun n =>
        if n = 0 then second.tries (c :: rest)
        else (Stack.tries frames (lastOf before ((c :: rest).take n)) ((c :: rest).drop n)).map
          (n + ·)) = Go.tries (follow gos frames) c rest := by
      rw [tries_go_follow gos frames before]
      refine List.flatMap_congr fun n hn => ?_
      rw [if_neg (Nat.ne_of_gt (pos_of_mem_tries_go hn))]
    rw [tries_cons first, List.flatMap_append, List.flatMap_append, hgo, hgo]
    unfold Ways.andThen
    split_ifs with hstops
    · simp [tries_cons, tries_go_append]
    · simp [tries_cons]

lemma Try.andThen (hfirst : first.Try place S) (hframes : Stack.tries frames = T)
    (hsecond : second.Try place T) : (first.andThen frames second).Try place (S.andThen T) := by
  intro text hbehind
  rw [tries_andThen place.before, hframes]
  refine (hfirst text hbehind).flatMap fun n _ => ?_
  split_ifs with hzero
  · subst hzero
    simpa using hsecond text hbehind
  · exact .refl _

lemma try_stop : stop.Try place .nothing := by
  intro text _
  cases text <;> exact .refl _

/-- Where both can stop, they do so for the first one. -/
lemma Try.orElse (hfirst : first.Try place S) (hsecond : second.Try place T) :
    (first.orElse second).Try place (S.orElse T) := by
  intro text hbehind
  refine SameFirsts.trans ?_ ((hfirst text hbehind).append (hsecond text hbehind))
  unfold Ways.orElse
  cases text with
  | nil =>
    by_cases hstops : first.stops = true
    -- The second stop is tried behind the first one, and so never first.
    · by_cases hstops' : second.stops = true
      · have hone := SameFirsts.append_cons (List.mem_singleton_self 0) []
        simpa [tries, hstops, hstops'] using hone.symm
      · simpa [tries, hstops, hstops'] using SameFirsts.refl [0]
    · simpa [tries, hstops] using SameFirsts.refl _
  | cons c rest =>
    by_cases hstops : first.stops = true
    · by_cases hstops' : second.stops = true
      · have hzero : 0 ∈ Go.tries first.early c rest ++ 0 :: (Go.tries first.late c rest ++
            Go.tries second.early c rest) := by simp
        have hone := SameFirsts.append_cons hzero (Go.tries second.late c rest)
        simpa [tries, hstops, hstops', tries_go_append] using hone.symm
      · simpa [tries, hstops, hstops', tries_go_append] using SameFirsts.refl _
    · simpa [tries, hstops, tries_go_append] using SameFirsts.refl _

lemma Try.orStop (h : ways.Try place S) (greedy : Bool) :
    (ways.orStop greedy).Try place (S.orNothing greedy) := by
  unfold Ways.orStop Tries.orNothing
  split_ifs
  · exact h.orElse try_stop
  · exact try_stop.orElse h

lemma Try.withoutStop (h : ways.Try place S) : ways.withoutStop.Try place S.taking := by
  -- Ways that go on take a character, so that only stopping takes nothing.
  have hfilter (gos : List Go) (c : Char) (rest : List Char) :
      (Go.tries gos c rest).filter (0 < ·) = Go.tries gos c rest :=
    List.filter_eq_self.2 fun n hn => decide_eq_true (pos_of_mem_tries_go hn)
  intro text hbehind
  have hways : ways.withoutStop.tries text = (ways.tries text).filter (0 < ·) := by
    cases text with
    | nil => cases hstops : ways.stops <;> simp [Ways.withoutStop, tries_nil, hstops]
    | cons c rest =>
      cases hstops : ways.stops <;>
        simp [Ways.withoutStop, tries_cons, tries_go_append, List.filter_append, hfilter, hstops]
  rw [hways]
  exact (h text hbehind).filter _

end Ways

section Rounds

variable {body : Expr} {greedy : Bool} {round : Ways} {place : Place} 

lemma try_waysUpTo (h : round.Try place body.tries) (count : Nat) :
    (waysUpTo body greedy round count).Try place (body.tries.upTo greedy count) := by
  induction count with
  | zero => exact Ways.try_stop
  | succ count ih =>
    -- What is left behind the first round is the repetition with one round less.
    have hframes : Stack.tries [.run (.rep body 0 (some count) greedy)] =
        body.tries.upTo greedy count := Stack.tries_singleton _
    exact (h.andThen hframes ih).orStop greedy

lemma try_waysBetween (h : round.Try place body.tries) (more min : Nat) :
    (waysBetween body greedy round more min).Try place (body.tries.between greedy more min) := by
  induction min with
  | zero => exact try_waysUpTo h more
  | succ min ih =>
    have hframes : Stack.tries [.run (.rep body min (some (min + more)) greedy)] =
        body.tries.between greedy more min := by
      rw [Stack.tries_singleton, Frame.tries, Expr.tries]
      simp only [Nat.add_sub_cancel_left]
    exact h.andThen hframes ih

/-- A round that takes nothing leaves the repetition. -/
lemma try_andThen_again (h : round.Try place body.tries) :
    (round.andThen [.again body greedy] .stop).Try place (body.tries.oneOrMore greedy) := by
  intro text hbehind
  rw [Ways.tries_andThen place.before, Stack.tries_singleton]
  refine (h text hbehind).flatMap fun n _ => ?_
  split_ifs
  · exact Ways.try_stop text hbehind
  · exact .refl _

lemma try_waysFrom (h : round.Try place body.tries) (min : Nat) :
    (waysFrom body greedy round min).Try place (body.tries.atLeast greedy min) := by
  fun_induction waysFrom body greedy round min with
  | case1 => exact (try_andThen_again h).orStop greedy
  | case2 => exact try_andThen_again h
  | case3 min ih =>
    have hframes : Stack.tries [.run (.rep body (min + 1) none greedy)] =
        body.tries.atLeast greedy (min + 1) := Stack.tries_singleton _
    exact h.andThen hframes ih

end Rounds

namespace Expr

lemma try_ways_lit (place : Place) (word : List Char) :
    ((lit word).ways place).Try place (lit word).tries := by
  intro text _
  match word, text with
  | [], [] => exact .refl _
  | [], c :: rest => exact .refl _
  | [d], [] => exact .refl _
  | d :: e :: word, [] => exact .refl _
  | [d], c :: rest =>
    rw [ways, Ways.tries_read_cons]
    by_cases heq : c = d
    · subst heq
      simpa [Symbol.admits, tries, Stack.tries, Tries.nothing] using SameFirsts.refl [1]
    · simpa [Symbol.admits, tries, heq, Ne.symm heq] using SameFirsts.refl []
  | d :: e :: word, c :: rest =>
    have hways : (lit (d :: e :: word)).ways place = .read (.char d) [.run (lit (e :: word))] := rfl
    rw [hways, Ways.tries_read_cons, Stack.tries_singleton, Frame.tries]
    by_cases heq : c = d
    · subst heq
      by_cases hword : (e :: word).isPrefixOf rest = true
      · simpa [Symbol.admits, tries, hword] using SameFirsts.refl [word.length + 1 + 1]
      · simpa [Symbol.admits, tries, hword] using SameFirsts.refl []
    · simpa [Symbol.admits, tries, heq, Ne.symm heq] using SameFirsts.refl []

/-- **The ways through an expression come to its tries, in order.**  The induction is on the
expression. -/
theorem try_ways (place : Place) (e : Expr) : (e.ways place).Try place e.tries := by
  induction e with
  | empty => exact Ways.try_stop
  | lit word => exact try_ways_lit place word
  | set chars =>
    intro text _
    cases text with
    | nil => exact .refl _
    | cons c rest =>
      rw [ways, Ways.tries_read_cons]
      exact .refl _
  | look condition =>
    intro text hbehind
    have hplace : (⟨place.before, text.head?⟩ : Place) = place := by rw [← hbehind]
    simp only [ways, tries, hplace]
    split_ifs
    · exact Ways.try_stop text hbehind
    · cases text <;> exact .refl _
  | rep body min max greedy ih =>
    cases max with
    | none => exact try_waysFrom ih min
    | some most => exact try_waysBetween ih (most - min) min
  | capture body ih => exact ih
  | seq first second ihfirst ihsecond => exact ihfirst.andThen (Stack.tries_singleton _) ihsecond
  | alt first second ihfirst ihsecond => exact ihfirst.orElse ihsecond

end Expr

lemma Frame.try_ways (place : Place) (frame : Frame) : (frame.ways place).Try place frame.tries := by
  cases frame with
  | run e => exact e.try_ways place
  | again body greedy =>
    -- Rounds that take nothing are left out, as they come to where they started.
    rw [Frame.tries, body.tries_again_eq]
    refine Ways.Try.orStop (fun text hbehind => ?_) greedy
    have hround := (body.try_ways place).withoutStop
    rw [Ways.tries_andThen place.before, Stack.tries_singleton]
    refine (hround text hbehind).flatMap fun n hn => ?_
    have hpos := (body.advances_taking place.before text n hn).1
    rw [if_neg (Nat.ne_of_gt hpos)]
    exact .refl _

lemma Stack.try_ways (place : Place) (stack : Stack) :
    (Stack.ways place stack).Try place (Stack.tries stack) := by
  induction stack with
  | nil => exact Ways.try_stop
  | cons frame stack ih => exact (frame.try_ways place).andThen rfl ih

/-! ## Following stacks through a text -/

section Follow

variable {before : Option Char} {threads : List Stack} {text : List Char}

/-- The first that is tried by some stacks, one after the other. -/
def firstTry (threads : List Stack) (before : Option Char) (text : List Char) : Option Nat :=
  (threads.flatMap fun thread => Stack.tries thread before text).head?

/-- What is given up behind a stack that stops would not be tried first. -/
lemma firstTry_eq (threads : List Stack) (before : Option Char) (text : List Char) :
    firstTry threads before text =
      (Ways.tries ⟨(waysOfAll ⟨before, text.head?⟩ threads).1,
        (waysOfAll ⟨before, text.head?⟩ threads).2, []⟩ text).head? := by
  induction threads with
  | nil => cases text <;> rfl
  | cons thread threads ih =>
    have hthread := (Stack.try_ways ⟨before, text.head?⟩ thread text rfl).head?_eq
    -- The first try is that of the first stack, or else that of the others.
    have hcons : firstTry (thread :: threads) before text =
        ((Stack.ways ⟨before, text.head?⟩ thread).tries text).head?.or
          (firstTry threads before text) := by
      rw [hthread, firstTry, List.flatMap_cons, List.head?_append]
      rfl
    rw [hcons, ih, waysOfAll]
    generalize (⟨before, text.head?⟩ : Place) = place
    -- A stack that stops takes nothing, so that what comes behind it in the order is never tried
    -- first.
    cases hstops : (Stack.ways place thread).stops with
    | false =>
      cases text <;>
        simp [Ways.tries_nil, Ways.tries_cons, Ways.tries_go_append, hstops, List.head?_append,
          Option.or_assoc]
    | true =>
      cases text with
      | nil => simp [Ways.tries_nil, hstops]
      | cons c rest =>
        simp only [Ways.tries_cons, hstops, if_true, List.head?_append, List.head?_cons,
          Option.some_or, Ways.tries_go_nil, List.append_nil]
        cases (Go.tries (Stack.ways place thread).early c rest).head? <;> rfl

lemma findSome?_distinct {α β : Type} [DecidableEq α] (f : α → Option β) {seen l : List α}
    (hseen : ∀ a ∈ seen, f a = none) : (distinct seen l).findSome? f = l.findSome? f := by
  induction l generalizing seen with
  | nil => rfl
  | cons a l ih =>
    unfold distinct
    split_ifs with hmem
    · rw [ih hseen, List.findSome?_cons, hseen a hmem]
    -- An element that has been seen has no result, or the search would have ended there.
    · rw [List.findSome?_cons, List.findSome?_cons]
      cases hfa : f a with
      | some b => rfl
      | none =>
        refine ih fun b hb => ?_
        rcases List.mem_cons.1 hb with rfl | hb
        · exact hfa
        · exact hseen b hb

/-- Stacks that are the same are followed only once. -/
lemma firstTry_advance (gos : List Go) (c : Char) (rest : List Char) :
    (firstTry (advance gos c) (some c) rest).map (· + 1) = (Go.tries gos c rest).head? := by
  unfold firstTry advance
  rw [List.head?_flatMap, findSome?_distinct _ (by simp)]
  induction gos with
  | nil => rfl
  | cons go gos ih =>
    have hcons : Go.tries (go :: gos) c rest =
        (if go.symbol.admits c then (Stack.tries go.stack (some c) rest).map (· + 1) else []) ++
          Go.tries gos c rest := rfl
    rw [hcons, List.head?_append, ← ih]
    cases hadmits : go.symbol.admits c with
    | false => simp [hadmits]
    | true =>
      simp only [hadmits, List.filter_cons_of_pos, List.map_cons, List.findSome?_cons, if_true,
        List.head?_map]
      cases (Stack.tries go.stack (some c) rest).head? <;> rfl

/-- **Following all ways side by side finds what is tried first.**  The induction is on the text. -/
theorem follow_eq (before : Option Char) (threads : List Stack) (count : Nat) (best : Option Nat)
    (text : List Char) :
    follow before threads count best text =
      ((firstTry threads before text).map (count + ·)).or best := by
  induction text generalizing before threads count best with
  | nil =>
    rw [follow_nil, firstTry_eq, bestAt, Ways.tries_nil, List.head?_nil]
    split_ifs <;> rfl
  | cons c rest ih =>
    rw [follow_cons, ih, firstTry_eq threads, Ways.tries_cons, List.head?_append,
      ← firstTry_advance, bestAt, List.head?_cons]
    -- What goes on behind the character comes before stopping here, as stacks behind one that
    -- stops are given up.
    cases firstTry (advance (waysOfAll ⟨before, some c⟩ threads).1 c) (some c) rest with
    | some n => simp [Nat.add_assoc, Nat.add_comm 1 n]
    | none => split_ifs <;> rfl

end Follow

/-- **The length of a match is what a search with backtracking tries first.** -/
theorem Expr.matchLength?_eq_head?_tries (e : Expr) (before : Option Char) (text : List Char) :
    e.matchLength? before text = (e.tries before text).head? := by
  rw [matchLength?, follow_eq, firstTry]
  simp [Stack.tries_singleton, Frame.tries]

end Lexical.Regex
