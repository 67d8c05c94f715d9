import Lexical.Lexer.Stack
import Mathlib.Data.Fintype.Pigeonhole

/-!
# Going round in circles

A lexer that takes no text moves by its current state alone: each state stops, stays, or changes the
stack of states in its own way (`StateStack.step?`).  Such a walk ends soon or never.  Without going
back it passes through each state once, or it is in a circle; and where it goes back to a part of the
stack that it has put there itself, it has been there before.  So it has to leave the states of the
stack that it started with one after the other (`StateStack.endless_or_stops`).
-/

namespace Lexical

/-! ## Steps that can be impossible -/

section Iterate

variable {α β : Type} {f : α → Option α} {g : β → Option β} {a b : α}

/-- Where a number of steps lead, if all of them are possible. -/
def iterate? (f : α → Option α) : Nat → α → Option α
  | 0, a => some a
  | count + 1, a => (f a).bind (iterate? f count)

/-- Every number of steps is possible. -/
def Endless (f : α → Option α) (a : α) : Prop :=
  ∀ count, (iterate? f count a).isSome = true

lemma iterate?_add (f : α → Option α) (count more : Nat) (a : α) :
    iterate? f (count + more) a = (iterate? f count a).bind (iterate? f more) := by
  induction count generalizing a with
  | zero => simp [iterate?]
  | succ count ih =>
    rw [Nat.succ_add]
    show (f a).bind (iterate? f (count + more)) = ((f a).bind (iterate? f count)).bind _
    rw [Option.bind_assoc]
    exact Option.bind_congr fun a' _ => ih a'

lemma iterate?_succ (f : α → Option α) (count : Nat) (a : α) :
    iterate? f (count + 1) a = (iterate? f count a).bind f := by
  rw [iterate?_add]
  have hone : iterate? f 1 = f := by
    funext b
    simp [iterate?]
  rw [hone]

lemma isSome_iterate?_of_le {count more : Nat} (hle : count ≤ more)
    (h : (iterate? f more a).isSome = true) : (iterate? f count a).isSome = true := by
  obtain ⟨behind, rfl⟩ := Nat.exists_eq_add_of_le hle
  rw [iterate?_add] at h
  exact Option.isSome_of_isSome_bind h

lemma Endless.of_iterate? {count : Nat} (h : Endless f b) (hsteps : iterate? f count a = some b) :
    Endless f a := by
  intro more
  have hfar : (iterate? f (count + more) a).isSome = true := by
    rw [iterate?_add, hsteps]
    exact h more
  exact isSome_iterate?_of_le (Nat.le_add_left more count) hfar

/-- What comes back to where it was never ends. -/
lemma endless_of_circle {count : Nat} (h : iterate? f (count + 1) a = some a) : Endless f a := by
  have hround (rounds : Nat) : iterate? f ((count + 1) * rounds) a = some a := by
    induction rounds with
    | zero => rfl
    | succ rounds ih =>
      rw [Nat.mul_succ, iterate?_add, ih]
      exact h
  intro steps
  have hle : steps ≤ (count + 1) * steps := Nat.le_mul_of_pos_left steps (Nat.succ_pos count)
  refine isSome_iterate?_of_le hle ?_
  rw [hround steps]
  rfl

lemma endless_of_repeat {first second : Nat} (hless : first < second)
    (hfirst : iterate? f first a = some b) (hsecond : iterate? f second a = some b) :
    Endless f a := by
  obtain ⟨between, rfl⟩ := Nat.exists_eq_add_of_lt hless
  have hcircle : iterate? f (between + 1) b = some b := by
    rwa [Nat.add_assoc, iterate?_add, hfirst] at hsecond
  exact (endless_of_circle hcircle).of_iterate? hfirst

/-- Among finitely many, as many steps as there are make a circle. -/
lemma endless_of_isSome_card [Fintype α] (h : (iterate? f (Fintype.card α) a).isSome = true) :
    Endless f a := by
  have hsome (count : Fin (Fintype.card α + 1)) : (iterate? f count a).isSome = true :=
    isSome_iterate?_of_le (Nat.lt_succ_iff.1 count.isLt) h
  obtain ⟨first, second, hne, hsame⟩ := Fintype.exists_ne_map_eq_of_card_lt
    (fun count : Fin (Fintype.card α + 1) => (iterate? f count a).get (hsome count)) (by simp)
  have hfirst := (Option.some_get (hsome first)).symm
  have hsecond := (Option.some_get (hsome second)).symm
  -- Whichever of the two places comes first, the walk is in a circle from there on.
  rcases lt_or_gt_of_ne hne with hless | hless
  · exact endless_of_repeat hless hfirst (hsame ▸ hsecond)
  · exact endless_of_repeat hless hsecond (hsame ▸ hfirst)

/-- What ends has a last place. -/
lemma exists_last_of_eq_none {count : Nat} (h : iterate? f count a = none) :
    ∃ before < count, ∃ last, iterate? f before a = some last ∧ f last = none := by
  induction count with
  | zero => cases h
  | succ count ih =>
    rw [iterate?_succ] at h
    cases hbefore : iterate? f count a with
    | none =>
      obtain ⟨before, hless, last, hlast⟩ := ih hbefore
      exact ⟨before, Nat.lt_succ_of_lt hless, last, hlast⟩
    | some last =>
      rw [hbefore] at h
      exact ⟨count, Nat.lt_succ_self count, last, hbefore, h⟩

lemma endless_or_exists_last [Fintype α] (f : α → Option α) (a : α) :
    Endless f a ∨ ∃ count < Fintype.card α, ∃ last,
      iterate? f count a = some last ∧ f last = none := by
  by_cases hsome : (iterate? f (Fintype.card α) a).isSome = true
  · exact .inl (endless_of_isSome_card hsome)
  · exact .inr (exists_last_of_eq_none (by simpa using hsome))

/-- What can do each step of something else can do all of them. -/
lemma exists_iterate?_of_simulates {R : α → β → Prop}
    (hstep : ∀ a a' b, R a b → f a = some a' → ∃ b', g b = some b' ∧ R a' b') {count : Nat}
    {a' : α} {b : β} (hrel : R a b) (h : iterate? f count a = some a') :
    ∃ b', iterate? g count b = some b' ∧ R a' b' := by
  induction count generalizing a' with
  | zero =>
    obtain rfl := Option.some.inj h
    exact ⟨b, rfl, hrel⟩
  | succ count ih =>
    rw [iterate?_succ] at h
    obtain ⟨middle, hmiddle, hlast⟩ := Option.bind_eq_some_iff.1 h
    obtain ⟨middle', hmiddle', hrel'⟩ := ih hmiddle
    obtain ⟨b', hb', hrel''⟩ := hstep middle a' middle' hrel' hlast
    refine ⟨b', ?_, hrel''⟩
    rw [iterate?_succ, hmiddle']
    exact hb'

lemma Endless.simulates {R : α → β → Prop}
    (hstep : ∀ a a' b, R a b → f a = some a' → ∃ b', g b = some b' ∧ R a' b') {b : β}
    (h : Endless f a) (hrel : R a b) : Endless g b := by
  intro count
  obtain ⟨a', ha'⟩ := Option.isSome_iff_exists.1 (h count)
  obtain ⟨b', hb', -⟩ := exists_iterate?_of_simulates hstep hrel ha'
  rw [hb']
  rfl

end Iterate

namespace StateStack

variable {σ : Type}

/-! ## Going back -/

lemma depth_popFrom (top : σ) (below : List σ) (count : Nat) :
    (popFrom top below count).depth = below.length - count + 1 := by
  induction count generalizing top below with
  | zero =>
    rw [popFrom]
    rfl
  | succ count ih =>
    match below with
    | [] => simp [popFrom, depth]
    | next :: below =>
      rw [popFrom, ih, List.length_cons]
      omega

lemma depth_pop (stack : StateStack σ) (count : Nat) :
    (stack.pop count).depth = stack.depth - (count + 1) + 1 := by
  rw [pop, depth_popFrom, depth]
  omega

lemma pop_zero (stack : StateStack σ) : stack.pop 0 = stack := by
  rw [pop, popFrom]

/-- Behind the first step back the current state does not matter. -/
lemma pop_succ_eq {stack other : StateStack σ} (h : stack.below = other.below)
    (hne : other.below ≠ []) (count : Nat) : stack.pop (count + 1) = other.pop (count + 1) := by
  obtain ⟨next, below, hbelow⟩ := List.exists_cons_of_ne_nil hne
  rw [pop, pop, h, hbelow]
  rfl

lemma pop_succ_of_below {stack other : StateStack σ} (h : stack.below = other.top :: other.below)
    (count : Nat) : stack.pop (count + 1) = other.pop count := by
  rw [pop, h]
  rfl

lemma depth_apply_le (stack : StateStack σ) (change : Transition σ) :
    (stack.apply change).depth ≤ stack.depth + 1 := by
  cases change with
  | push state => exact Nat.le_refl _
  | next state => exact Nat.le_succ _
  | pop count =>
    have hpos : 0 < stack.depth := Nat.succ_pos _
    show (stack.pop count).depth ≤ stack.depth + 1
    rw [depth_pop]
    omega

/-! ## Moves by the current state -/

section Moves

/-- A change that goes back too far. -/
def falls (stack : StateStack σ) : Option (Transition σ) → Bool
  | some (.pop count) => stack.depth ≤ count
  | _ => false

variable (moves : σ → Option (Option (Transition σ)))

/-- A step by what the current state does: stop, stay, or change the stack. -/
def step? (stack : StateStack σ) : Option (StateStack σ) :=
  match moves stack.top with
  | none => none
  | some change =>
    if stack.falls change then none else some ((change.map stack.apply).getD stack)

/-- The state to which a step leads that does not go back. -/
def climb? (state : σ) : Option σ :=
  match moves state with
  | some none => some state
  | some (some (.push target)) => some target
  | some (some (.next target)) => some target
  | _ => none

variable {moves} {stack : StateStack σ}

lemma step?_eq_some_iff {later : StateStack σ} :
    step? moves stack = some later ↔ ∃ change, moves stack.top = some change ∧
      stack.falls change = false ∧ (change.map stack.apply).getD stack = later := by
  unfold step?
  cases moves stack.top with
  | none => simp
  | some change => simp

/-- A step that does not go back leaves the stack below as it is, with the current state on it or
without. -/
lemma exists_step?_of_climb? {target : σ} (h : climb? moves stack.top = some target) :
    ∃ later, step? moves stack = some later ∧ later.top = target ∧
      (later.below = stack.below ∨ later.below = stack.top :: stack.below) := by
  unfold climb? at h
  split at h
  · rename_i hmoves
    obtain rfl := Option.some.inj h
    exact ⟨stack, step?_eq_some_iff.2 ⟨none, hmoves, rfl, rfl⟩, rfl, .inl rfl⟩
  · rename_i target' hmoves
    obtain rfl := Option.some.inj h
    exact ⟨stack.push target', step?_eq_some_iff.2 ⟨_, hmoves, rfl, rfl⟩, rfl, .inr rfl⟩
  · rename_i target' hmoves
    obtain rfl := Option.some.inj h
    exact ⟨stack.next target', step?_eq_some_iff.2 ⟨_, hmoves, rfl, rfl⟩, rfl, .inl rfl⟩
  · cases h

/-- A step that is no way up goes back. -/
lemma exists_pop_of_step? {later : StateStack σ} (hclimb : climb? moves stack.top = none)
    (h : step? moves stack = some later) :
    ∃ count < stack.depth, later = stack.pop count := by
  obtain ⟨change, hmoves, hfalls, rfl⟩ := step?_eq_some_iff.1 h
  unfold climb? at hclimb
  rw [hmoves] at hclimb
  match change with
  | none => cases hclimb
  | some (.push target) => cases hclimb
  | some (.next target) => cases hclimb
  | some (.pop count) => exact ⟨count, by simpa [falls] using hfalls, rfl⟩

/-- A way up: it does not come below where it started, and all stacks that are below it now, down to
there, it has come by. -/
structure ClimbsTo (moves : σ → Option (Option (Transition σ))) (stack : StateStack σ)
    (count : Nat) (later : StateStack σ) : Prop where
  steps : iterate? (step? moves) count stack = some later
  depth_le : stack.depth ≤ later.depth
  le_depth : later.depth ≤ stack.depth + count
  passed : ∀ back, stack.depth + back ≤ later.depth →
    ∃ before ≤ count, iterate? (step? moves) before stack = some (later.pop back)

lemma ClimbsTo.refl (stack : StateStack σ) : ClimbsTo moves stack 0 stack := by
  refine ⟨rfl, Nat.le_refl _, Nat.le_refl _, fun back hback => ?_⟩
  obtain rfl : back = 0 := by omega
  rw [pop_zero]
  exact ⟨0, Nat.le_refl 0, rfl⟩

lemma ClimbsTo.step {count : Nat} {later target : StateStack σ}
    (h : ClimbsTo moves stack count later) (hstep : step? moves later = some target)
    (hbelow : target.below = later.below ∨ target.below = later.top :: later.below) :
    ClimbsTo moves stack (count + 1) target := by
  have hsteps : iterate? (step? moves) (count + 1) stack = some target := by
    rw [iterate?_succ, h.steps]
    exact hstep
  have hhigher : later.depth ≤ target.depth ∧ target.depth ≤ later.depth + 1 := by
    rw [depth, depth]
    rcases hbelow with hbelow | hbelow <;> rw [hbelow]
    · omega
    · rw [List.length_cons]
      omega
  have hlow := h.depth_le
  have hhigh := h.le_depth
  refine ⟨hsteps, by omega, by omega, fun back hback => ?_⟩
  cases back with
  | zero =>
    rw [pop_zero]
    exact ⟨count + 1, Nat.le_refl _, hsteps⟩
  | succ back =>
    rcases hbelow with hbelow | hbelow
    -- The state on top is changed, so going back leads where it led before.
    · have hdepth : target.depth = later.depth := by
        rw [depth, depth, hbelow]
      -- Only the bottom state has nothing below, and from there is no way back.
      have hne : later.below ≠ [] := by
        intro hempty
        have hflat : later.depth = 1 := by
          rw [depth, hempty]
          rfl
        have hpos : 0 < stack.depth := Nat.succ_pos _
        omega
      obtain ⟨before, hbefore, hpassed⟩ := h.passed (back + 1) (by omega)
      refine ⟨before, by omega, ?_⟩
      rw [hpassed, pop_succ_eq hbelow hne]
    -- A pushed state is one more to go back over.
    · have hdepth : target.depth = later.depth + 1 := by
        rw [depth, depth, hbelow]
        rfl
      obtain ⟨before, hbefore, hpassed⟩ := h.passed back (by omega)
      refine ⟨before, by omega, ?_⟩
      rw [hpassed, pop_succ_of_below hbelow]

lemma exists_climbsTo {count : Nat} {top : σ}
    (h : iterate? (climb? moves) count stack.top = some top) :
    ∃ later, ClimbsTo moves stack count later ∧ later.top = top := by
  induction count generalizing top with
  | zero => exact ⟨stack, .refl stack, Option.some.inj h⟩
  | succ count ih =>
    rw [iterate?_succ] at h
    obtain ⟨middle, hmiddle, hlast⟩ := Option.bind_eq_some_iff.1 h
    obtain ⟨later, hlater, rfl⟩ := ih hmiddle
    obtain ⟨target, hstep, htop, hbelow⟩ := exists_step?_of_climb? hlast
    exact ⟨target, hlater.step hstep hbelow, htop⟩

/-- What goes up for ever goes on for ever. -/
lemma endless_of_climb (h : Endless (climb? moves) stack.top) : Endless (step? moves) stack := by
  intro count
  obtain ⟨top, htop⟩ := Option.isSome_iff_exists.1 (h count)
  obtain ⟨later, hlater, -⟩ := exists_climbsTo htop
  rw [hlater.steps]
  rfl

/-- Going back to what has been put on the stack on the way up is to come back to where one was. -/
lemma ClimbsTo.endless_of_pop {count back : Nat} {later : StateStack σ}
    (h : ClimbsTo moves stack count later) (hstep : step? moves later = some (later.pop back))
    (hback : stack.depth + back ≤ later.depth) : Endless (step? moves) stack := by
  obtain ⟨before, hbefore, hpassed⟩ := h.passed back hback
  have hagain : iterate? (step? moves) (count + 1) stack = some (later.pop back) := by
    rw [iterate?_succ, h.steps]
    exact hstep
  exact endless_of_repeat (Nat.lt_succ_of_le hbefore) hpassed hagain

/-- **A walk by the current state ends soon or never.**  The induction is on the depth of the stack:
a walk that ends goes up, past each state once at most, and then back below where it started. -/
theorem endless_or_stops [Fintype σ] (moves : σ → Option (Option (Transition σ)))
    (stack : StateStack σ) :
    Endless (step? moves) stack ∨ ∃ count ≤ stack.depth * Fintype.card σ, ∃ last,
      iterate? (step? moves) count stack = some last ∧ step? moves last = none ∧
        last.depth ≤ stack.depth + Fintype.card σ := by
  induction hdepth : stack.depth using Nat.strong_induction_on generalizing stack with
  | _ depth ih =>
    subst hdepth
    -- First the walk goes up, by the state on top alone, for ever or past each state once at
    -- most.
    rcases endless_or_exists_last (climb? moves) stack.top with hendless |
      ⟨up, hup, top, htop, hlast⟩
    · exact .inl (endless_of_climb hendless)
    · obtain ⟨later, hclimbs, rfl⟩ := exists_climbsTo htop
      have hpos : 0 < stack.depth := Nat.succ_pos _
      have hcard : Fintype.card σ ≤ stack.depth * Fintype.card σ :=
        Nat.le_mul_of_pos_left _ hpos
      cases hstep : step? moves later with
      | none =>
        have hhigh := hclimbs.le_depth
        exact .inr ⟨up, by omega, later, hclimbs.steps, hstep, by omega⟩
      -- From the top of the way up the only step is back.
      | some target =>
        obtain ⟨back, hback, rfl⟩ := exists_pop_of_step? hlast hstep
        -- Back to a stack that was come by on the way up is a circle; below it the depth has
        -- become less.
        by_cases hinside : stack.depth + back ≤ later.depth
        · exact .inl (hclimbs.endless_of_pop hstep hinside)
        · have htarget : (later.pop back).depth < stack.depth := by
            rw [depth_pop]
            omega
          have hsteps : iterate? (step? moves) (up + 1) stack = some (later.pop back) := by
            rw [iterate?_succ, hclimbs.steps]
            exact hstep
          rcases ih _ htarget (later.pop back) rfl with hendless |
            ⟨count, hcount, last, hlast, hstops, hlow⟩
          · exact .inl (hendless.of_iterate? hsteps)
          -- The way up and the way from below it fit into the bounds.
          · refine .inr ⟨up + 1 + count, ?_, last, ?_, hstops, by omega⟩
            · calc up + 1 + count
                  ≤ Fintype.card σ + (later.pop back).depth * Fintype.card σ := by omega
                _ = ((later.pop back).depth + 1) * Fintype.card σ := by
                  rw [Nat.succ_mul, Nat.add_comm]
                _ ≤ stack.depth * Fintype.card σ := Nat.mul_le_mul_right _ htarget
            · rw [iterate?_add, hsteps]
              exact hlast

end Moves

end StateStack

end Lexical
