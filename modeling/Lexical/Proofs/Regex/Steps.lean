import Lexical.Regex.Term.Parser
import Mathlib.Logic.Relation
import Mathlib.Tactic.Lemma

/-!
# The reader of regular expressions, step by step

`Reading.run` takes steps up to the end of the text with a bound on their number.  Here is the same
without the bound: `Reading.Next` is a step from one configuration to another, `Reading.Steps` are
any number of them, and `Reading.Accepts` tells that a configuration comes to the end of its text
with no group open.  Steps are determined by where they start, so parts of a run can be followed one
by one (`Reading.Accepts.of_steps`).
-/

namespace Lexical.Regex

namespace Reading

/-- What has been read, and the text that is left. -/
abbrev Configuration := Reading × List Char

/-- One step of the reader. -/
def Next (a b : Configuration) : Prop :=
  ∃ c rest, skipBlanks a.1.blanks a.2 = c :: rest ∧ a.1.step c rest = some b

/-- Any number of steps. -/
abbrev Steps : Configuration → Configuration → Prop :=
  Relation.ReflTransGen Next

/-- There is nothing left that counts. -/
def AtEnd (a : Configuration) : Prop :=
  skipBlanks a.1.blanks a.2 = []

/-- The text is read to its end, where all groups are closed. -/
structure Accepts (a b : Configuration) : Prop where
  steps : Steps a b
  atEnd : AtEnd b
  groups_eq : b.1.groups = []

variable {a b c : Configuration}

lemma Next.unique (h : Next a b) (h' : Next a c) : b = c := by
  obtain ⟨d, rest, htext, hstep⟩ := h
  obtain ⟨d', rest', htext', hstep'⟩ := h'
  obtain ⟨rfl, rfl⟩ := List.cons.inj (htext.symm.trans htext')
  exact Option.some.inj (hstep.symm.trans hstep')

lemma AtEnd.not_next (h : AtEnd a) : ¬ Next a b := by
  rintro ⟨d, rest, htext, -⟩
  rw [h] at htext
  cases htext

lemma AtEnd.eq_of_steps (h : AtEnd a) (hsteps : Steps a b) : a = b := by
  cases hsteps.cases_head with
  | inl heq => exact heq
  | inr hnext =>
    obtain ⟨later, hnext, -⟩ := hnext
    exact absurd hnext h.not_next

/-- Two runs from one configuration are on one way: the one that is at its end is the longer one. -/
lemma Steps.of_atEnd (h : Steps a b) (h' : Steps a c) (hend : AtEnd c) : Steps b c := by
  induction h with
  | refl => exact h'
  | tail _ hnext ih =>
    rcases ih.cases_head with heq | ⟨later, hnext', hsteps⟩
    · exact absurd hnext (heq ▸ hend).not_next
    · exact hnext.unique hnext' ▸ hsteps

lemma Accepts.of_steps (h : Accepts a c) (hsteps : Steps a b) : Accepts b c :=
  ⟨hsteps.of_atEnd h.steps h.atEnd, h.atEnd, h.groups_eq⟩

/-- A configuration at the end of its text is accepted as it is. -/
lemma Accepts.eq_of_atEnd (h : Accepts a b) (hend : AtEnd a) : a = b :=
  hend.eq_of_steps h.steps

lemma atEnd_nil (r : Reading) : AtEnd (r, []) := by
  unfold AtEnd skipBlanks skipBlanks.skip
  split <;> rfl

/-- The induction is on the bound. -/
lemma exists_accepts_of_run {fuel : Nat} {r : Reading} {text : List Char} {term : Term}
    (h : run fuel r text = some term) :
    ∃ b, Accepts (r, text) b ∧ b.1.branches.term = term := by
  induction fuel generalizing r text with
  | zero => cases h
  | succ fuel ih =>
    unfold run at h
    cases htext : skipBlanks r.blanks text with
    | nil =>
      simp only [htext, Option.ite_none_right_eq_some, Option.some.injEq,
        List.isEmpty_iff] at h
      exact ⟨(r, text), ⟨.refl, htext, h.1⟩, h.2⟩
    | cons c rest =>
      simp only [htext] at h
      cases hstep : r.step c rest with
      | none => simp [hstep] at h
      | some later =>
        simp only [hstep] at h
        obtain ⟨b, haccepts, hterm⟩ := ih h
        exact ⟨b, ⟨.head ⟨c, rest, htext, hstep⟩ haccepts.steps, haccepts.atEnd,
          haccepts.groups_eq⟩, hterm⟩

end Reading

/-- A text that is a regular expression is read to its end. -/
lemma Term.exists_accepts_of_ofText? {text : List Char} {term : Term}
    (h : Term.ofText? text = some term) :
    ∃ b, Reading.Accepts (Reading.start, text) b ∧ b.1.branches.term = term := by
  unfold Term.ofText? at h
  simp only [Option.bind_eq_bind, Option.bind_eq_some_iff, Option.ite_none_right_eq_some,
    Option.some.injEq] at h
  obtain ⟨read, hrun, -, rfl⟩ := h
  exact Reading.exists_accepts_of_run hrun

end Lexical.Regex
