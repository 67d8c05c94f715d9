import Lexical.Source
import Mathlib.Logic.Function.Iterate
import Mathlib.Logic.Relation

/-!
# How token sources behave

A layer knows the source below it only by its answers.  This file gives names to what a source can
do: the states that it can come to (`TokenSource.Reachable`), what it comes to by giving tokens
(`TokenSource.Advances`, `TokenSource.Emits`), and that it gives a fixed list of tokens and then
nothing for ever (`TokenSource.Supplies`).  Two sources that answer alike for ever cannot be told apart
(`TokenSource.Alike`), and resuming is seamless if it leads to such a one (`TokenSource.Seamless`).

`Script tokens final` is the simplest source of all, one that gives the tokens of a list.
-/

namespace Lexical

namespace TokenSource

variable {σ : Type} [TokenSource σ]

/-- What a source comes to: it is reset to the start of some text, gives tokens, and may be resumed
from what it saved, now or before. -/
inductive Reachable (origin : σ) : σ → Prop
  | reset (text : List Char) : Reachable origin (TokenSource.reset origin text none)
  | next {source : σ} (h : Reachable origin source) :
      Reachable origin (TokenSource.next source).state
  | resume {source other : σ} (h : Reachable origin source) (hother : Reachable origin other)
      (text : List Char) : Reachable origin (TokenSource.reset other text (some (save source)))

/-- The second source is what is left of the first after some tokens. -/
def Advances : σ → σ → Prop :=
  Relation.ReflTransGen fun source later => later = (next source).state

/-- The source gives a token sooner or later. -/
def Emits (source : σ) (token : Token) : Prop :=
  ∃ later, Advances source later ∧ (next later).result = .ok (some token)

lemma Advances.next (source : σ) : Advances source (TokenSource.next source).state :=
  .single rfl

lemma Reachable.of_advances {origin source later : σ} (h : Reachable origin source)
    (hadvances : Advances source later) : Reachable origin later := by
  induction hadvances with
  | refl => exact h
  | tail _ hstep ih =>
    rw [hstep]
    exact ih.next

lemma Emits.of_advances {source later : σ} {token : Token} (hadvances : Advances source later)
    (h : Emits later token) : Emits source token := by
  obtain ⟨last, hlast, hresult⟩ := h
  exact ⟨last, hadvances.trans hlast, hresult⟩

/-- The source is at its end: it gives nothing, however often it is asked, and stays at the given
position. -/
def Exhausted (source : σ) (final : Position) : Prop :=
  ∀ later, Advances source later →
    (next later).result = .ok none ∧ TokenSource.position later = final

lemma Exhausted.next {source : σ} {final : Position} (h : Exhausted source final) :
    Exhausted (TokenSource.next source).state final :=
  fun later hlater => h later ((Advances.next source).trans hlater)

/-- The source gives these tokens in order and then nothing for ever, at the given position.  Its
budget covers them. -/
def Supplies (source : σ) (final : Position) : List Token → Prop
  | [] => Exhausted source final
  | token :: rest =>
    (next source).result = .ok (some token) ∧ rest.length < budget source ∧
      Supplies (next source).state final rest

lemma Supplies.length_le_budget {source : σ} {final : Position} {tokens : List Token}
    (h : Supplies source final tokens) : tokens.length ≤ budget source := by
  cases tokens with
  | nil => exact Nat.zero_le _
  | cons token rest => exact h.2.1

/-! ### Sources that cannot be told apart -/

/-- The source behind a call. -/
def advance (source : σ) : σ :=
  (next source).state

lemma Reachable.iterate_advance {origin source : σ} (h : Reachable origin source) (count : Nat) :
    Reachable origin (advance^[count] source) := by
  induction count generalizing source with
  | zero => exact h
  | succ count ih => exact ih h.next

/-- Two sources that answer alike, however often they are asked: the same results, and between calls
the same position and the same bound on what is left. -/
structure Alike (a b : σ) : Prop where
  result_eq : ∀ count, (next (advance^[count] a)).result = (next (advance^[count] b)).result
  position_eq : ∀ count, TokenSource.position (advance^[count] a)
    = TokenSource.position (advance^[count] b)
  budget_eq : ∀ count, budget (advance^[count] a) = budget (advance^[count] b)

lemma Alike.first_result_eq {a b : σ} (h : Alike a b) :
    (TokenSource.next a).result = (TokenSource.next b).result :=
  h.result_eq 0

lemma Alike.first_position_eq {a b : σ} (h : Alike a b) :
    TokenSource.position a = TokenSource.position b :=
  h.position_eq 0

lemma Alike.first_budget_eq {a b : σ} (h : Alike a b) : budget a = budget b :=
  h.budget_eq 0

lemma Alike.next {a b : σ} (h : Alike a b) :
    Alike (TokenSource.next a).state (TokenSource.next b).state :=
  ⟨fun count => h.result_eq (count + 1), fun count => h.position_eq (count + 1),
    fun count => h.budget_eq (count + 1)⟩

/-- What one call keeps, any number of calls keeps. -/
lemma iterate_advance_of_step {R : σ → σ → Prop}
    (hstep : ∀ {a b}, R a b → R (TokenSource.next a).state (TokenSource.next b).state) {a b : σ}
    (h : R a b) (count : Nat) : R (advance^[count] a) (advance^[count] b) := by
  induction count generalizing a b with
  | zero => exact h
  | succ count ih => exact ih (hstep h)

/-- Sources are alike if what relates them shows in their answers and is kept by every call. -/
lemma Alike.of_step {R : σ → σ → Prop}
    (hstep : ∀ {a b}, R a b → R (TokenSource.next a).state (TokenSource.next b).state)
    (hresult : ∀ {a b}, R a b → (TokenSource.next a).result = (TokenSource.next b).result)
    (hposition : ∀ {a b}, R a b → TokenSource.position a = TokenSource.position b)
    (hbudget : ∀ {a b}, R a b → budget a = budget b) {a b : σ} (h : R a b) : Alike a b :=
  ⟨fun count => hresult (iterate_advance_of_step hstep h count),
    fun count => hposition (iterate_advance_of_step hstep h count),
    fun count => hbudget (iterate_advance_of_step hstep h count)⟩

/-- Resuming is seamless here, where `unread` is what a source has not read of its text: when `other` is
reset to the unread text of `source` and to what `source` saved, it goes on as if nothing had been
interrupted. -/
def Seamless (unread : σ → List Char) (source other : σ) : Prop :=
  Alike (TokenSource.reset other (unread source) (some (save source))) source

end TokenSource

/-! ## A source that reads a list -/

/-- A source in the middle of a list of tokens, which ends at `final`. -/
structure Script (tokens : List Token) (final : Position) where
  rest : List Token
  /-- What is left is the end of the list. -/
  suffix : rest <:+ tokens

namespace Script

variable {tokens : List Token} {final : Position}

def start (tokens : List Token) (final : Position) : Script tokens final :=
  ⟨tokens, List.suffix_refl tokens⟩

def tail (script : Script tokens final) : Script tokens final :=
  ⟨script.rest.tail, (List.tail_suffix script.rest).trans script.suffix⟩

end Script

/-- Saving a script keeps what is left of it; a reset goes back to its start or to what was kept. -/
instance (tokens : List Token) (final : Position) : TokenSource (Script tokens final) where
  State := Script tokens final
  next script := ⟨.ok script.rest.head?, script.tail, []⟩
  reset _ _ state := state.getD (.start tokens final)
  resetEvents _ _ := []
  save script := script
  has _ kind := tokens.any (·.kind = kind)
  formatError? _ _ message := some message
  position script := (script.rest.head?.map Token.position).getD final
  budget script := script.rest.length

namespace Script

variable {tokens : List Token} {final : Position}

lemma result_next (script : Script tokens final) :
    (TokenSource.next script).result = .ok script.rest.head? := rfl

lemma state_next (script : Script tokens final) : (TokenSource.next script).state = script.tail :=
  rfl

lemma mem_of_result_next {script : Script tokens final} {token : Token}
    (h : (TokenSource.next script).result = .ok (some token)) : token ∈ tokens := by
  rw [result_next] at h
  exact script.suffix.subset (List.mem_of_mem_head? (Except.ok.inj h))

lemma rest_eq_nil_of_advances {script later : Script tokens final} (hrest : script.rest = [])
    (h : TokenSource.Advances script later) : later.rest = [] := by
  induction h with
  | refl => exact hrest
  | tail _ hstep ih =>
    simp only [hstep, state_next, tail, ih, List.tail_nil]

/-- A script supplies what is left of it. -/
lemma supplies (script : Script tokens final) :
    TokenSource.Supplies script final script.rest := by
  obtain ⟨rest, hsuffix⟩ := script
  induction rest with
  | nil =>
    intro later hlater
    have hnil := rest_eq_nil_of_advances rfl hlater
    rw [result_next, hnil]
    exact ⟨rfl, by simp [TokenSource.position, hnil]⟩
  | cons token rest ih =>
    exact ⟨rfl, Nat.lt_succ_self _, ih ((List.suffix_cons token rest).trans hsuffix)⟩

end Script

end Lexical
