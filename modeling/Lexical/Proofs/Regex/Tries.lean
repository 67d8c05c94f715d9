import Lexical.Proofs.Regex.Matching
import Mathlib.Data.List.Basic

/-!
# What a search with backtracking tries

A search with backtracking tries the alternatives of an expression one after the other, and takes the
first that comes to its end.  `Expr.tries` lists the lengths that such a search would find at a place,
in the order in which it would, by the form of the expression.  Every one of them is the length of a
word (`Expr.within_tries`).

Lists of lengths are compared up to what is repeated (`SameFirsts`): a length that has been tried
already, and has not led to the end, will not do so the second time.
-/

namespace Lexical.Regex

/-! ## Lists up to what is repeated -/

/-- Whatever is looked for, the first that is found in one list is the first in the other. -/
def SameFirsts (s t : List Nat) : Prop :=
  ∀ p : Nat → Bool, s.find? p = t.find? p

namespace SameFirsts

variable {s t u s' t' : List Nat}

lemma refl (s : List Nat) : SameFirsts s s := fun _ => rfl

lemma symm (h : SameFirsts s t) : SameFirsts t s := fun p => (h p).symm

lemma trans (h : SameFirsts s t) (h' : SameFirsts t u) : SameFirsts s u := fun p =>
  (h p).trans (h' p)

lemma append (h : SameFirsts s t) (h' : SameFirsts s' t') : SameFirsts (s ++ s') (t ++ t') := by
  intro p
  rw [List.find?_append, List.find?_append, h p, h' p]

lemma findSome?_eq {α : Type} (f : Nat → Option α) (s : List Nat) :
    s.findSome? f = (s.find? fun n => (f n).isSome).bind f := by
  induction s with
  | nil => rfl
  | cons n s ih =>
    rw [List.findSome?_cons, List.find?_cons]
    cases hf : f n with
    | none => simpa using ih
    | some a => simp [hf]

lemma flatMap (h : SameFirsts s t) {f g : Nat → List Nat} (hfg : ∀ n ∈ t, SameFirsts (f n) (g n)) :
    SameFirsts (s.flatMap f) (t.flatMap g) := by
  intro p
  have hsame : t.findSome? (fun n => (f n).find? p) = t.findSome? (fun n => (g n).find? p) := by
    clear h
    induction t with
    | nil => rfl
    | cons n t ih =>
      rw [List.findSome?_cons, List.findSome?_cons, hfg n List.mem_cons_self p,
        ih fun m hm => hfg m (List.mem_cons_of_mem _ hm)]
  rw [List.find?_flatMap, List.find?_flatMap, ← hsame, findSome?_eq, findSome?_eq, h]

lemma map (h : SameFirsts s t) (f : Nat → Nat) : SameFirsts (s.map f) (t.map f) := by
  intro p
  rw [List.find?_map, List.find?_map, h]

lemma filter (h : SameFirsts s t) (p : Nat → Bool) : SameFirsts (s.filter p) (t.filter p) := by
  intro q
  rw [List.find?_filter, List.find?_filter, h]

/-- What stands in a list already can be left out behind it. -/
lemma append_cons {n : Nat} (hmem : n ∈ s) (t : List Nat) : SameFirsts (s ++ n :: t) (s ++ t) := by
  intro p
  rw [List.find?_append, List.find?_append]
  -- Either something in front is found first, or what is left out would not have been found there
  -- either.
  cases hfound : s.find? p with
  | some m => rfl
  | none =>
    have hnot : ¬ p n = true := by
      rw [List.find?_eq_none] at hfound
      exact hfound n hmem
    rw [Option.none_or, Option.none_or, List.find?_cons_of_neg hnot]

/-- Where all lengths are the same, it matters only whether there is one. -/
lemma of_forall_eq {k : Nat} (hs : ∀ n ∈ s, n = k) (ht : ∀ n ∈ t, n = k) (h : s = [] ↔ t = []) :
    SameFirsts s t := by
  -- Such a list is as good as its first element, or the empty list.
  have hfind {l : List Nat} (hl : ∀ n ∈ l, n = k) (p : Nat → Bool) :
      l.find? p = if l = [] then none else if p k then some k else none := by
    induction l with
    | nil => rfl
    | cons n l ih =>
      obtain rfl := hl n List.mem_cons_self
      rw [List.find?_cons, ih fun m hm => hl m (List.mem_cons_of_mem _ hm)]
      cases hp : p n <;> simp
  intro p
  rw [hfind hs, hfind ht, if_congr h rfl rfl]

lemma head?_eq (h : SameFirsts s t) : s.head? = t.head? := by
  have hhead (l : List Nat) : l.head? = l.find? fun _ => true := by
    cases l <;> rfl
  rw [hhead, hhead, h]

end SameFirsts

/-! ## What a search with backtracking tries -/

/-- The lengths that are tried behind a character at the start of a text, the preferred ones first. -/
abbrev Tries := Option Char → List Char → List Nat

namespace Tries

/-- To take nothing. -/
def nothing : Tries :=
  fun _ _ => [0]

/-- All that the second ones try behind each length that the first ones try. -/
def andThen (first second : Tries) : Tries := fun before text =>
  (first before text).flatMap fun n =>
    (second (lastOf before (text.take n)) (text.drop n)).map (n + ·)

def orElse (first second : Tries) : Tries := fun before text =>
  first before text ++ second before text

/-- A greedy choice goes on before it takes nothing. -/
def orNothing (tries : Tries) (greedy : Bool) : Tries :=
  if greedy then tries.orElse nothing else nothing.orElse tries

/-- Those that take something. -/
def taking (tries : Tries) : Tries := fun before text =>
  (tries before text).filter (0 < ·)

section Rounds

variable (round : Tries) (greedy : Bool)

/-- At most `count` rounds. -/
def upTo : Nat → Tries
  | 0 => nothing
  | count + 1 => (round.andThen (upTo count)).orNothing greedy

/-- Between `min` and `min + more` rounds. -/
def between (more : Nat) : Nat → Tries
  | 0 => round.upTo greedy more
  | min + 1 => round.andThen (between more min)

/-- Any number of rounds that take something; there cannot be more of them than characters. -/
def again : Tries := fun before text =>
  round.taking.upTo greedy text.length before text

/-- A round, and any number of rounds behind it unless it takes nothing. -/
def oneOrMore : Tries := fun before text =>
  (round before text).flatMap fun n =>
    if n = 0 then [0]
    else (round.again greedy (lastOf before (text.take n)) (text.drop n)).map (n + ·)

/-- Rounds without an upper bound. -/
def atLeast : Nat → Tries
  | 0 => (round.oneOrMore greedy).orNothing greedy
  | 1 => round.oneOrMore greedy
  | min + 2 => round.andThen (atLeast (min + 1))

end Rounds

end Tries

/-- The lengths that an expression tries. -/
def Expr.tries : Expr → Tries
  | empty => .nothing
  | lit word => fun _ text => if word.isPrefixOf text then [word.length] else []
  | set chars => fun
    | _, [] => []
    | _, c :: _ => if chars.containsChar c then [1] else []
  | look condition => fun before text => if Place.holds ⟨before, text.head?⟩ condition then [0] else []
  | rep body min max greedy =>
    match max with
    | some max => body.tries.between greedy (max - min) min
    | none => body.tries.atLeast greedy min
  | capture body => body.tries
  | seq first rest => first.tries.andThen rest.tries
  | alt first rest => first.tries.orElse rest.tries

def Frame.tries : Frame → Tries
  | run e => e.tries
  | again body greedy => body.tries.again greedy

def Stack.tries : Stack → Tries
  | [] => .nothing
  | frame :: stack => frame.tries.andThen (Stack.tries stack)

/-! ## Lengths of words -/

namespace Tries

/-- What is tried are lengths of words of a language. -/
def Within (tries : Tries) (L : Language) : Prop :=
  ∀ before text n, n ∈ tries before text →
    ∃ word rest, text = word ++ rest ∧ n = word.length ∧ L before word rest

variable {first second round : Tries} {L M : Language} {greedy : Bool}

lemma within_nothing : nothing.Within Language.nothing := by
  intro before text n hn
  obtain rfl : n = 0 := List.mem_singleton.1 hn
  exact ⟨[], text, rfl, rfl, rfl⟩

lemma Within.andThen (hfirst : first.Within L) (hsecond : second.Within M) :
    (first.andThen second).Within (L.andThen M) := by
  intro before text n hn
  obtain ⟨m, hm, hn⟩ := List.mem_flatMap.1 hn
  obtain ⟨k, hk, rfl⟩ := List.mem_map.1 hn
  obtain ⟨word, rest, rfl, rfl, hword⟩ := hfirst _ _ _ hm
  rw [List.take_left, List.drop_left] at hk
  obtain ⟨behind, rest, rfl, rfl, hbehind⟩ := hsecond _ _ _ hk
  exact ⟨word ++ behind, rest, by rw [List.append_assoc], by rw [List.length_append], word, behind,
    rfl, hword, hbehind⟩

lemma Within.mono (h : first.Within L) (hsub : ∀ before word rest, L before word rest → M before word rest) :
    first.Within M := by
  intro before text n hn
  obtain ⟨word, rest, htext, hlength, hword⟩ := h _ _ _ hn
  exact ⟨word, rest, htext, hlength, hsub _ _ _ hword⟩

lemma Within.orElse (hfirst : first.Within L) (hsecond : second.Within L) :
    (first.orElse second).Within L := by
  intro before text n hn
  rcases List.mem_append.1 hn with hn | hn
  · exact hfirst _ _ _ hn
  · exact hsecond _ _ _ hn

lemma Within.orNothing (h : first.Within L)
    (hempty : ∀ before rest, L before [] rest) : (first.orNothing greedy).Within L := by
  have hnothing : nothing.Within L := within_nothing.mono fun before word rest hword => by
    obtain rfl : word = [] := hword
    exact hempty before rest
  unfold Tries.orNothing
  split_ifs
  · exact h.orElse hnothing
  · exact hnothing.orElse h

lemma Within.taking (h : first.Within L) : first.taking.Within L := fun before text n hn =>
  h before text n (List.mem_filter.1 hn).1

section Rounds

variable {body : Expr}

lemma zero_mem_orNothing (tries : Tries) (greedy : Bool) (before : Option Char) (text : List Char) :
    0 ∈ tries.orNothing greedy before text := by
  unfold Tries.orNothing
  split_ifs <;> simp [Tries.orElse, nothing]

lemma zero_mem_upTo (round : Tries) (greedy : Bool) (count : Nat) (before : Option Char)
    (text : List Char) : 0 ∈ round.upTo greedy count before text := by
  cases count with
  | zero => exact List.mem_singleton_self 0
  | succ count => exact zero_mem_orNothing _ _ _ _

lemma within_upTo (h : round.Within body.Covers) (count : Nat) :
    (round.upTo greedy count).Within (body.RoundsIn 0 (some count)) := by
  have hempty (count : Nat) (before : Option Char) (rest : List Char) :
      body.RoundsIn 0 (some count) before [] rest :=
    ⟨0, Nat.le_refl _, fun _ _ => Nat.zero_le _, rfl⟩
  induction count with
  | zero =>
    refine within_nothing.mono fun before word rest hword => ?_
    obtain rfl : word = [] := hword
    exact hempty 0 before rest
  | succ count ih =>
    refine Within.orNothing ((h.andThen ih).mono fun before word rest hword => ?_) (hempty _)
    obtain ⟨rounds, -, hmost, hrounds⟩ := Expr.roundsIn_succ.2 hword
    exact ⟨rounds, Nat.zero_le _, hmost, hrounds⟩

lemma within_between (h : round.Within body.Covers) (more min : Nat) :
    (round.between greedy more min).Within (body.RoundsIn min (some (min + more))) := by
  induction min with
  | zero => simpa [between] using within_upTo h more
  | succ min ih =>
    refine (h.andThen ih).mono fun before word rest hword => ?_
    have hmore := Expr.roundsIn_succ.2 hword
    rwa [Option.map_some, Nat.add_right_comm] at hmore

lemma within_again (h : round.Within body.Covers) :
    (round.again greedy).Within (body.RoundsIn 0 none) := by
  intro before text n hn
  obtain ⟨word, rest, htext, hlength, rounds, hmin, -, hrounds⟩ :=
    within_upTo h.taking text.length before text n hn
  exact ⟨word, rest, htext, hlength, rounds, hmin, by simp, hrounds⟩

/-- A round that takes nothing is not told apart from one with no round behind it. -/
lemma mem_andThen_again {before : Option Char} {text : List Char} {n : Nat}
    (hn : n ∈ round.oneOrMore greedy before text) :
    n ∈ round.andThen (round.again greedy) before text := by
  obtain ⟨m, hm, hn⟩ := List.mem_flatMap.1 hn
  refine List.mem_flatMap.2 ⟨m, hm, ?_⟩
  -- Behind a round that takes nothing stands the choice to make no other.
  split_ifs at hn with hzero
  · subst hzero
    obtain rfl : n = 0 := List.mem_singleton.1 hn
    exact List.mem_map.2 ⟨0, zero_mem_upTo _ _ _ _ _, rfl⟩
  · exact hn

lemma within_oneOrMore (h : round.Within body.Covers) :
    (round.oneOrMore greedy).Within (body.RoundsIn 1 none) := by
  intro before text n hn
  obtain ⟨word, rest, htext, hlength, hword⟩ :=
    (h.andThen (within_again h)) before text n (mem_andThen_again hn)
  exact ⟨word, rest, htext, hlength, Expr.roundsIn_succ.2 hword⟩

lemma within_atLeast (h : round.Within body.Covers) (min : Nat) :
    (round.atLeast greedy min).Within (body.RoundsIn min none) := by
  fun_induction Tries.atLeast round greedy min with
  | case1 =>
    have hempty (before : Option Char) (rest : List Char) : body.RoundsIn 0 none before [] rest :=
      ⟨0, Nat.le_refl _, by simp, rfl⟩
    refine Within.orNothing ((within_oneOrMore h).mono ?_) hempty
    rintro before word rest ⟨rounds, -, hmost, hrounds⟩
    exact ⟨rounds, Nat.zero_le _, hmost, hrounds⟩
  | case2 => exact within_oneOrMore h
  | case3 min ih => exact (h.andThen ih).mono fun _ _ _ hword => Expr.roundsIn_succ.2 hword

end Rounds

end Tries

namespace Expr

/-- **What is tried are lengths of words.**  The induction is on the expression. -/
theorem within_tries (e : Expr) : e.tries.Within e.Covers := by
  induction e with
  | empty => exact Tries.within_nothing
  | lit word =>
    intro before text n hn
    simp only [tries, List.mem_ite_nil_right, List.isPrefixOf_iff_prefix, List.mem_singleton] at hn
    obtain ⟨⟨rest, rfl⟩, rfl⟩ := hn
    exact ⟨word, rest, rfl, rfl, rfl⟩
  | set chars =>
    intro before text n hn
    cases text with
    | nil => cases hn
    | cons c rest =>
      simp only [tries, List.mem_ite_nil_right, List.mem_singleton] at hn
      obtain ⟨hc, rfl⟩ := hn
      exact ⟨[c], rest, rfl, rfl, c, hc, rfl⟩
  | look condition =>
    intro before text n hn
    simp only [tries, List.mem_ite_nil_right, List.mem_singleton] at hn
    obtain ⟨hholds, rfl⟩ := hn
    exact ⟨[], text, rfl, rfl, rfl, hholds⟩
  | rep body min max greedy ih =>
    cases max with
    | none =>
      refine (Tries.within_atLeast ih min).mono ?_
      rintro before word rest ⟨count, hmin, -, hrounds⟩
      exact ⟨count, hmin, by simp, hrounds⟩
    | some most =>
      refine (Tries.within_between ih (most - min) min).mono ?_
      rintro before word rest ⟨count, hmin, hmost, hrounds⟩
      refine ⟨count, hmin, ?_, hrounds⟩
      rintro _ ⟨⟩
      have hle := hmost _ rfl
      change count ≤ max min most
      omega
  | capture body ih => exact ih
  | seq first second ihfirst ihsecond => exact ihfirst.andThen ihsecond
  | alt first second ihfirst ihsecond =>
    exact (ihfirst.mono fun _ _ _ h => .inl h).orElse (ihsecond.mono fun _ _ _ h => .inr h)

lemma le_of_mem_tries {e : Expr} {before : Option Char} {text : List Char} {n : Nat}
    (h : n ∈ e.tries before text) : n ≤ text.length := by
  obtain ⟨word, rest, rfl, rfl, -⟩ := e.within_tries before text n h
  rw [List.length_append]
  exact Nat.le_add_right _ _

end Expr

/-! ## Sequences and rounds -/

namespace Tries

lemma andThen_assoc (first second third : Tries) :
    (first.andThen second).andThen third = first.andThen (second.andThen third) := by
  funext before text
  simp only [andThen, List.flatMap_assoc, List.map_flatMap, List.flatMap_map, List.map_map,
    Function.comp_def, List.take_add, lastOf_append, List.drop_drop, Nat.add_assoc]

@[simp] lemma nothing_andThen (tries : Tries) : nothing.andThen tries = tries := by
  funext before text
  simp [andThen, nothing]

@[simp] lemma andThen_nothing (tries : Tries) : tries.andThen nothing = tries := by
  funext before text
  simp [andThen, nothing]

/-- Something of the text is taken. -/
def Advances (tries : Tries) : Prop :=
  ∀ before text n, n ∈ tries before text → 0 < n ∧ n ≤ text.length

variable {round : Tries}

lemma Advances.eq_nil (h : round.Advances) (before : Option Char) : round before [] = [] := by
  refine List.eq_nil_iff_forall_not_mem.2 fun n hn => ?_
  obtain ⟨hpos, hle⟩ := h before [] n hn
  simp only [List.length_nil] at hle
  omega

lemma orNothing_congr {first second : Tries} {before : Option Char} {text : List Char}
    (h : first before text = second before text) (greedy : Bool) :
    first.orNothing greedy before text = second.orNothing greedy before text := by
  unfold Tries.orNothing
  split_ifs <;> simp only [Tries.orElse, h]

lemma upTo_nil (h : round.Advances) (greedy : Bool) (count : Nat) (before : Option Char) :
    round.upTo greedy count before [] = [0] := by
  cases count with
  | zero => rfl
  | succ count =>
    have hempty : round.andThen (round.upTo greedy count) before [] = [] := by
      simp [andThen, h.eq_nil]
    unfold Tries.upTo Tries.orNothing
    split_ifs <;> simp [Tries.orElse, hempty, nothing]

/-- There cannot be more rounds than characters.  The induction is on the rounds that are allowed on
one side. -/
lemma upTo_eq (h : round.Advances) (greedy : Bool) {count count' : Nat} {before : Option Char}
    {text : List Char} (hcount : text.length ≤ count) (hcount' : text.length ≤ count') :
    round.upTo greedy count before text = round.upTo greedy count' before text := by
  induction count generalizing count' before text with
  | zero =>
    obtain rfl := List.length_eq_zero_iff.1 (Nat.le_zero.1 hcount)
    rw [upTo_nil h, upTo_nil h]
  | succ count ih =>
    cases count' with
    | zero =>
      obtain rfl := List.length_eq_zero_iff.1 (Nat.le_zero.1 hcount')
      rw [upTo_nil h, upTo_nil h]
    | succ count' =>
      refine orNothing_congr (List.flatMap_congr fun n hn => ?_) greedy
      have hpos := (h before text n hn).1
      have hdrop : (text.drop n).length = text.length - n := List.length_drop
      have hsame : round.upTo greedy count (lastOf before (text.take n)) (text.drop n) =
          round.upTo greedy count' (lastOf before (text.take n)) (text.drop n) :=
        ih (by omega) (by omega)
      rw [hsame]

end Tries

lemma Expr.advances_taking (e : Expr) : e.tries.taking.Advances := by
  intro before text n hn
  obtain ⟨hmem, hpos⟩ := List.mem_filter.1 hn
  exact ⟨of_decide_eq_true hpos, le_of_mem_tries hmem⟩

/-- One more round, and again any number of rounds behind it. -/
lemma Expr.tries_again_eq (e : Expr) (greedy : Bool) :
    e.tries.again greedy = (e.tries.taking.andThen (e.tries.again greedy)).orNothing greedy := by
  have hadvances := e.advances_taking
  funext before text
  have hmore : e.tries.again greedy before text =
      e.tries.taking.upTo greedy (text.length + 1) before text :=
    Tries.upTo_eq hadvances greedy (Nat.le_refl _) (Nat.le_succ _)
  rw [hmore]
  refine Tries.orNothing_congr (List.flatMap_congr fun n _ => ?_) greedy
  have hdrop : (text.drop n).length = text.length - n := List.length_drop
  have hsame : e.tries.taking.upTo greedy text.length (lastOf before (text.take n)) (text.drop n) =
      e.tries.again greedy (lastOf before (text.take n)) (text.drop n) :=
    Tries.upTo_eq hadvances greedy (by omega) (Nat.le_refl _)
  rw [hsame]

/-! ## Rounds without an upper bound -/

namespace Tries

variable {round first second : Tries} {before : Option Char} {text : List Char}

lemma Advances.taking_eq (h : round.Advances) : round.taking = round := by
  funext before text
  exact List.filter_eq_self.2 fun n hn => decide_eq_true (h before text n hn).1

lemma Advances.oneOrMore_eq (h : round.Advances) (greedy : Bool) {more : Nat}
    (hmore : text.length ≤ more) :
    round.oneOrMore greedy before text = round.andThen (round.upTo greedy more) before text := by
  refine List.flatMap_congr fun n hn => ?_
  have hpos := (h before text n hn).1
  have hdrop : (text.drop n).length = text.length - n := List.length_drop
  rw [if_neg (Nat.ne_of_gt hpos), again, h.taking_eq,
    upTo_eq h greedy (Nat.le_refl _) (by omega : (text.drop n).length ≤ more)]

/-- As long as rounds take something, a bound on their number is none if it is not below that of the
characters.  The induction is on the rounds that there must be. -/
lemma Advances.atLeast_eq (h : round.Advances) (greedy : Bool) (min : Nat) {more : Nat}
    (hmore : text.length ≤ more) :
    round.atLeast greedy min before text = round.between greedy more min before text := by
  fun_induction Tries.atLeast round greedy min generalizing before text with
  | case1 =>
    calc (round.oneOrMore greedy).orNothing greedy before text
      _ = (round.andThen (round.upTo greedy more)).orNothing greedy before text :=
        orNothing_congr (h.oneOrMore_eq greedy hmore) greedy
      _ = round.upTo greedy (more + 1) before text := rfl
      _ = round.upTo greedy more before text := upTo_eq h greedy (by omega) hmore
  | case2 => exact h.oneOrMore_eq greedy hmore
  | case3 min ih =>
    refine List.flatMap_congr fun n _ => ?_
    have hdrop : (text.drop n).length = text.length - n := List.length_drop
    rw [ih (by omega)]

/-- Nothing of the text is taken. -/
def StandsStill (tries : Tries) : Prop :=
  ∀ before text n, n ∈ tries before text → n = 0

lemma standsStill_nothing : nothing.StandsStill := fun _ _ _ hn => List.mem_singleton.1 hn

lemma StandsStill.andThen (hfirst : first.StandsStill) (hsecond : second.StandsStill) :
    (first.andThen second).StandsStill := by
  intro before text n hn
  obtain ⟨m, hm, hn⟩ := List.mem_flatMap.1 hn
  obtain ⟨k, hk, rfl⟩ := List.mem_map.1 hn
  rw [hfirst before text m hm, hsecond _ _ k hk]

lemma StandsStill.orNothing (h : first.StandsStill) (greedy : Bool) :
    (first.orNothing greedy).StandsStill := by
  intro before text n hn
  unfold Tries.orNothing at hn
  split_ifs at hn
  · rcases List.mem_append.1 hn with hn | hn
    · exact h before text n hn
    · exact List.mem_singleton.1 hn
  · rcases List.mem_append.1 hn with hn | hn
    · exact List.mem_singleton.1 hn
    · exact h before text n hn

lemma StandsStill.andThen_eq_nil_iff (h : first.StandsStill) :
    first.andThen second before text = [] ↔ first before text = [] ∨ second before text = [] := by
  rw [Tries.andThen, List.flatMap_eq_nil_iff]
  constructor
  · intro hall
    cases hfirst : first before text with
    | nil => exact .inl rfl
    | cons n others =>
      have hmem : n ∈ first before text := by simp [hfirst]
      obtain rfl := h before text n hmem
      exact .inr (by simpa using hall 0 hmem)
  · intro hempty n hn
    obtain rfl := h before text n hn
    rcases hempty with hfirst | hsecond
    · simp [hfirst] at hn
    · simpa using hsecond

lemma StandsStill.between (h : round.StandsStill) (greedy : Bool) (more min : Nat) :
    (round.between greedy more min).StandsStill := by
  induction min with
  | zero =>
    show (round.upTo greedy more).StandsStill
    induction more with
    | zero => exact standsStill_nothing
    | succ more ih => exact (h.andThen ih).orNothing greedy
  | succ min ih => exact h.andThen ih

lemma StandsStill.between_eq_nil_iff (h : round.StandsStill) (greedy : Bool) (more min : Nat) :
    round.between greedy more min before text = [] ↔ 0 < min ∧ round before text = [] := by
  induction min with
  | zero =>
    have hzero := zero_mem_upTo round greedy more before text
    simpa [Tries.between] using List.ne_nil_of_mem hzero
  | succ min ih =>
    rw [Tries.between, h.andThen_eq_nil_iff, ih]
    simp

lemma StandsStill.oneOrMore_eq (h : round.StandsStill) (greedy : Bool) :
    round.oneOrMore greedy = round := by
  funext before text
  calc round.oneOrMore greedy before text
    _ = (round before text).flatMap fun n => [n] := List.flatMap_congr fun n hn => by
      rw [h before text n hn, if_pos rfl]
    _ = round before text := by simp

lemma StandsStill.atLeast (h : round.StandsStill) (greedy : Bool) (min : Nat) :
    (round.atLeast greedy min).StandsStill := by
  fun_induction Tries.atLeast round greedy min with
  | case1 =>
    rw [h.oneOrMore_eq greedy]
    exact h.orNothing greedy
  | case2 =>
    rw [h.oneOrMore_eq greedy]
    exact h
  | case3 min ih => exact h.andThen ih

lemma StandsStill.atLeast_eq_nil_iff (h : round.StandsStill) (greedy : Bool) (min : Nat) :
    round.atLeast greedy min before text = [] ↔ 0 < min ∧ round before text = [] := by
  fun_induction Tries.atLeast round greedy min with
  | case1 =>
    have hzero := zero_mem_orNothing (round.oneOrMore greedy) greedy before text
    simpa using List.ne_nil_of_mem hzero
  | case2 => simp [h.oneOrMore_eq greedy]
  | case3 min ih =>
    rw [h.andThen_eq_nil_iff, ih]
    simp

/-- **Any bound that is not below the number of characters is none**, if either all rounds take
something or none does. -/
theorem sameFirsts_atLeast (h : round.Advances ∨ round.StandsStill) (greedy : Bool) (min : Nat)
    {more : Nat} (hmore : text.length ≤ more) (before : Option Char) :
    SameFirsts (round.atLeast greedy min before text) (round.between greedy more min before text) := by
  rcases h with h | h
  · rw [h.atLeast_eq greedy min hmore]
    exact .refl _
  · refine .of_forall_eq (h.atLeast greedy min before text) (h.between greedy _ min before text) ?_
    rw [h.atLeast_eq_nil_iff, h.between_eq_nil_iff]

end Tries

end Lexical.Regex
