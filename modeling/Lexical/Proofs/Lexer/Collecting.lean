import Lexical.Proofs.Lexer.Patience
import Lexical.Proofs.Lexer.Resume
import Lexical.Proofs.Lexer.Tiling
import Lexical.Source

/-!
# Reading all tokens

`TokenSource.collect` calls a lexer until it ends or fails.  Behind a row of matches that starts with
the lexer, it comes to the same as from the lexer behind the row, with the tokens of the row in front
(`Lexer.Passes.collect_continues`); and lexers that agree come to the same (`Lexer.Agrees.collect`).
Where the matches go on for ever, both ways do not end, and that is all that is said of them.
-/

namespace Lexical

open TokenSource

variable {lexicon : Lexicon}

namespace Collected

/-- The reading was given up, as the matches go on for ever. -/
def Stalled (collected : Collected (Lexer lexicon)) : Prop :=
  ∃ position, collected.error = some (.stalled position)

/-- A reading is one of some tokens and then goes on as another one, to the same end. -/
structure Continues (whole : Collected (Lexer lexicon)) (first : List Token)
    (second : Collected (Lexer lexicon)) : Prop where
  tokens_eq : whole.tokens = first ++ second.tokens
  ended_eq : whole.ended = second.ended
  final : (whole.error = second.error ∧ whole.source.position = second.source.position
      ∧ whole.source.stack = second.source.stack) ∨ (whole.Stalled ∧ second.Stalled)

variable {whole second third : Collected (Lexer lexicon)} {first others : List Token}

lemma Continues.trans (h : whole.Continues first second) (h' : second.Continues others third) :
    whole.Continues (first ++ others) third := by
  refine ⟨?_, h.ended_eq.trans h'.ended_eq, ?_⟩
  · rw [h.tokens_eq, h'.tokens_eq, List.append_assoc]
  · rcases h.final with ⟨herror, hposition, hstack⟩ | ⟨hwhole, hsecond⟩
    · rcases h'.final with ⟨herror', hposition', hstack'⟩ | ⟨⟨position, hsecond⟩, hthird⟩
      · exact .inl ⟨herror.trans herror', hposition.trans hposition', hstack.trans hstack'⟩
      · exact .inr ⟨⟨position, herror.trans hsecond⟩, hthird⟩
    · rcases h'.final with ⟨herror', -⟩ | ⟨-, hthird⟩
      · obtain ⟨position, hposition⟩ := hsecond
        exact .inr ⟨hwhole, position, herror'.symm.trans hposition⟩
      · exact .inr ⟨hwhole, hthird⟩

end Collected

namespace Lexer

variable {lexer rest a b : Lexer lexicon} {m : Match lexicon}

/-! ## One call -/

/-- The events of a call. -/
def events (run : Run lexicon) : List Event :=
  run.taken.flatMap Match.events

lemma collect_succ (limit : Nat) (lexer : Lexer lexicon) :
    collect (limit + 1) lexer = match lexer.next.result with
      | .error error => ⟨[], some error, true, lexer.next.lexer, events lexer.next⟩
      | .ok none => ⟨[], none, true, lexer.next.lexer, events lexer.next⟩
      | .ok (some token) =>
        { collect limit lexer.next.lexer with
          tokens := token :: (collect limit lexer.next.lexer).tokens
          events := events lexer.next ++ (collect limit lexer.next.lexer).events } := rfl

lemma collect_of_token {t : Token} (h : lexer.next.result = .ok (some t)) (limit : Nat) :
    (collect (limit + 1) lexer).Continues [t] (collect limit lexer.next.lexer) := by
  rw [collect_succ, h]
  exact ⟨rfl, rfl, .inl ⟨rfl, rfl, rfl⟩⟩

lemma collect_of_nothing (h : lexer.next.result = .ok none) (limit : Nat) :
    collect (limit + 1) lexer = ⟨[], none, true, lexer.next.lexer, events lexer.next⟩ := by
  rw [collect_succ, h]

lemma collect_of_stalled (h : lexer.next.Stalled) (limit : Nat) :
    (collect (limit + 1) lexer).tokens = [] ∧ (collect (limit + 1) lexer).ended = true ∧
      (collect (limit + 1) lexer).Stalled := by
  obtain ⟨position, hposition⟩ := h
  rw [collect_succ, hposition]
  exact ⟨rfl, rfl, position, rfl⟩

/-- Calls with the same result, behind which the readings come to the same. -/
lemma collect_of_next (hresult : a.next.result = b.next.result)
    (hagrees : Agrees a.next.lexer b.next.lexer) {limit : Nat}
    (hrest : (collect limit a.next.lexer).Continues [] (collect limit b.next.lexer)) :
    (collect (limit + 1) a).Continues [] (collect (limit + 1) b) := by
  rw [collect_succ, collect_succ, hresult]
  match b.next.result with
  | .error error => exact ⟨rfl, rfl, .inl ⟨rfl, hagrees.position_eq, hagrees.stack_eq⟩⟩
  | .ok none => exact ⟨rfl, rfl, .inl ⟨rfl, hagrees.position_eq, hagrees.stack_eq⟩⟩
  | .ok (some token) =>
    have htokens : token :: (collect limit a.next.lexer).tokens =
        [] ++ token :: (collect limit b.next.lexer).tokens := by
      rw [hrest.tokens_eq]
      rfl
    exact ⟨htokens, hrest.ended_eq, hrest.final⟩

/-! ## All calls -/

/-- **Lexers that agree are read alike.**  The induction is on the number of calls. -/
theorem Agrees.collect (h : Agrees a b) (limit : Nat) :
    (TokenSource.collect limit a).Continues [] (TokenSource.collect limit b) := by
  induction limit generalizing a b with
  | zero => exact ⟨rfl, rfl, .inl ⟨rfl, h.position_eq, h.stack_eq⟩⟩
  | succ limit ih =>
    have hnext := h.nextWithin a.patience
    obtain ⟨-, hresult, hlexer⟩ : _ ∧ a.next.result = b.next.result ∧
        Agrees a.next.lexer b.next.lexer := by
      rw [next, next, ← h.patience_eq]
      exact hnext
    exact collect_of_next hresult hlexer (ih hlexer)

lemma agrees_refl (lexer : Lexer lexicon) : Agrees lexer lexer :=
  ⟨rfl, rfl, rfl⟩

/-- Reading goes on behind a match that gives no token. -/
lemma collect_of_skip? (h : lexer.skip? = some rest) (limit : Nat) :
    (collect (limit + 1) lexer).Continues [] (collect (limit + 1) rest) := by
  by_cases hstalled : rest.next.Stalled
  · obtain ⟨htokens, hended, hwhole⟩ := collect_of_stalled (stalled_next_of_skip? h hstalled) limit
    obtain ⟨htokens', hended', hrest⟩ := collect_of_stalled hstalled limit
    exact ⟨by rw [htokens, htokens']; rfl, by rw [hended, hended'], .inr ⟨hwhole, hrest⟩⟩
  · obtain ⟨hresult, hlexer⟩ := next_of_skip? h hstalled
    have hagrees : Agrees lexer.next.lexer rest.next.lexer := by
      rw [hlexer]
      exact agrees_refl _
    exact collect_of_next hresult hagrees (hagrees.collect limit)

/-- **Reading goes on behind a row of matches**, the tokens of which are read first.  The induction is
on the row. -/
theorem Passes.collect_continues {taken : List (Match lexicon)} {last : Lexer lexicon}
    (h : Passes lexer taken last) (limit : Nat) :
    (collect ((Match.tokens taken).length + (limit + 1)) lexer).Continues (Match.tokens taken)
      (collect (limit + 1) last) := by
  induction h with
  | nil lexer => simpa [Match.tokens] using (agrees_refl lexer).collect (limit + 1)
  | @cons lexer rest last m others first more ih =>
    by_cases hignored : m.entry.isIgnored = true
    · have htokens : Match.tokens (m :: others) = Match.tokens others := by
        simp [Match.tokens, hignored]
      have hskip := collect_of_skip? (skip?_eq_some_iff.2 ⟨m, first, hignored⟩)
        ((Match.tokens others).length + limit)
      rw [htokens]
      exact hskip.trans ih
    · have hkept : m.entry.isIgnored = false := by simpa using hignored
      have htokens : Match.tokens (m :: others) = m.token :: Match.tokens others := by
        simp [Match.tokens, hkept]
      have hnext := next_of_kept first hkept
      have hone := collect_of_token (t := m.token) (by rw [hnext])
        ((Match.tokens others).length + (limit + 1))
      rw [hnext] at hone
      rw [htokens, List.length_cons, Nat.succ_add]
      exact hone.trans ih

end Lexer

end Lexical
