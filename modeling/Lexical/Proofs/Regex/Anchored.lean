import Lexical.Proofs.Regex.NormalForm
import Lexical.Regex.Search

/-!
# Matches at the start of the text

An expression behind the condition that the text starts here (`Expr.anchored`) is found at the start
of the text or not at all, and what is found there is the match of the expression itself
(`Expr.find?_anchored`).  That is what a `^` in front of an item makes of it
(`Expr.ofTerm?_seq_startLine`).
-/

namespace Lexical.Regex

/-! ## Following stacks -/

/-- What comes of stacks is a matter of their ways at the place where they are followed. -/
lemma follow_congr {before : Option Char} {threads threads' : List Stack}
    (h : ∀ behind, waysOfAll ⟨before, behind⟩ threads = waysOfAll ⟨before, behind⟩ threads')
    (count : Nat) (best : Option Nat) (text : List Char) :
    follow before threads count best text = follow before threads' count best text := by
  cases text with
  | nil => rw [follow, follow, h]
  | cons c rest => rw [follow, follow, h]

/-- A match does not go beyond the text.  The induction is on the text. -/
lemma le_of_follow {text : List Char} {before : Option Char} {threads : List Stack}
    {count length : Nat} {best : Option Nat} (hbest : ∀ n, best = some n → n ≤ count)
    (h : follow before threads count best text = some length) : length ≤ count + text.length := by
  induction text generalizing before threads count best with
  | nil =>
    rw [follow] at h
    split_ifs at h with hstops
    · exact Nat.le_of_eq (Option.some.inj h).symm
    · exact hbest _ h
  | cons c rest ih =>
    rw [follow] at h
    simp only at h
    -- A better match found here ends where the search is, and not behind it.
    have hbetter : ∀ n,
        (if (waysOfAll ⟨before, some c⟩ threads).2 then some count else best) = some n →
          n ≤ count := by
      intro n hn
      split_ifs at hn
      · exact Nat.le_of_eq (Option.some.inj hn).symm
      · exact hbest n hn
    rw [List.length_cons]
    split at h
    · have := hbetter _ h
      omega
    · have := ih (fun n hn => Nat.le_succ_of_le (hbetter n hn)) h
      omega

namespace Expr

lemma matchLength?_le {e : Expr} {before : Option Char} {text : List Char} {length : Nat}
    (h : e.matchLength? before text = some length) : length ≤ text.length := by
  simpa using le_of_follow (by simp) h

lemma le_of_findFrom? {e : Expr} {text : List Char} {before : Option Char}
    {skipped start length : Nat} (h : e.findFrom? before skipped text = some (start, length)) :
    skipped ≤ start := by
  induction text generalizing before skipped with
  | nil =>
    unfold findFrom? at h
    split at h
    · exact Nat.le_of_eq (Prod.mk.inj (Option.some.inj h)).1
    · cases h
  | cons c rest ih =>
    unfold findFrom? at h
    split at h
    · exact Nat.le_of_eq (Prod.mk.inj (Option.some.inj h)).1
    · split_ifs at h
      exact Nat.le_of_succ_le (ih h)

/-- What is found lies within the text. -/
lemma findFrom?_le {e : Expr} {text : List Char} {before : Option Char}
    {skipped start length : Nat} (h : e.findFrom? before skipped text = some (start, length)) :
    start + length ≤ skipped + text.length := by
  induction text generalizing before skipped with
  | nil =>
    unfold findFrom? at h
    split at h
    · rename_i found hfound
      obtain ⟨rfl, rfl⟩ := Prod.mk.inj (Option.some.inj h)
      exact Nat.add_le_add_left (matchLength?_le hfound) _
    · cases h
  | cons c rest ih =>
    unfold findFrom? at h
    split at h
    · rename_i found hfound
      obtain ⟨rfl, rfl⟩ := Prod.mk.inj (Option.some.inj h)
      exact Nat.add_le_add_left (matchLength?_le hfound) _
    · split_ifs at h
      have hrest := ih h
      rw [List.length_cons]
      omega

/-- The first match is at the start of the text exactly if there is a match there. -/
lemma find?_eq_some_zero_iff {e : Expr} {text : List Char} {length : Nat} :
    e.find? text = some (0, length) ↔ e.matchLength? none text = some length := by
  unfold find? findFrom?
  cases e.matchLength? none text with
  | some found => simp
  | none =>
    cases text with
    | nil => simp
    | cons c rest =>
      simp only [Option.ite_none_left_eq_some, reduceCtorEq, iff_false, not_and]
      intro _ h
      exact absurd (le_of_findFrom? h) (by decide)

/-! ## The start of the text -/

/-- An expression at the start of the text only. -/
def anchored (e : Expr) : Expr :=
  ofParts (look .textStart :: e.parts)

lemma anchored_eq (e : Expr) (h : e.Tidy) :
    e.anchored = if e = empty then look .textStart else seq (look .textStart) e := by
  unfold anchored
  split_ifs with hempty
  · rw [hempty]
    rfl
  · rw [ofParts_cons (mt parts_eq_nil_iff.1 hempty), h.ofParts_parts]

lemma isAnchored_anchored (e : Expr) : e.anchored.isAnchored = true := by
  unfold anchored
  cases e.parts <;> rfl

lemma not_isAlt_anchored (e : Expr) : ¬ e.anchored.IsAlt := by
  unfold anchored
  cases e.parts <;> exact id

lemma ways_anchored {e : Expr} (h : e.Tidy) (behind : Option Char) :
    e.anchored.ways ⟨none, behind⟩ = e.ways ⟨none, behind⟩ := by
  rw [anchored_eq e h]
  split_ifs with hempty
  · rw [hempty]
    rfl
  · simp [ways, Place.holds, Ways.andThen, Ways.stop, Ways.follow]

/-- **A search for an expression at the start of the text finds its match there, or nothing.** -/
theorem find?_anchored {e : Expr} (h : e.Tidy) (text : List Char) :
    e.anchored.find? text = (e.matchLength? none text).map fun length => (0, length) := by
  -- At the start of the text the condition holds, and the ways are those of the expression.
  have hmatch : e.anchored.matchLength? none text = e.matchLength? none text := by
    refine follow_congr (fun behind => ?_) 0 none text
    have hstack : Stack.ways ⟨none, behind⟩ [.run e.anchored]
        = Stack.ways ⟨none, behind⟩ [.run e] := by
      simp only [Stack.ways, Frame.ways, ways_anchored h]
    simp only [waysOfAll, hstack]
  unfold find? findFrom?
  rw [hmatch]
  cases e.matchLength? none text with
  | some length => rfl
  | none =>
    cases text with
    | nil => rfl
    -- Behind the start the search gives up at once, as an anchored expression cannot match there.
    | cons c rest => simp [isAnchored_anchored]

/-- An item behind a `^`. -/
lemma ofTerm?_seq_startLine {item : Term} :
    ofTerm? (.seq (.assertion .startLine) item) = (ofTerm? item).map anchored := by
  have hlook : alternation [look .textStart] = look .textStart := alternation_singleton id
  have hkind : Assertion.startLine.look .initial = .textStart := rfl
  have hconcat (e : Expr) : concat (look .textStart) e = e.anchored := by
    simp [concat, anchored, parts, joinParts]
  cases hes : branchesOfTerm? .initial item with
  | none => simp [ofTerm?, branchesOfTerm?, hes]
  | some found =>
    obtain ⟨es, flags⟩ := found
    simp [ofTerm?, branchesOfTerm?, hes, hkind, hlook, hconcat,
      alternation_singleton (not_isAlt_anchored _)]

end Expr

end Lexical.Regex
