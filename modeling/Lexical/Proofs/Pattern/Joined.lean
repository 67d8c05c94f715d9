import Lexical.Proofs.Pattern.Anchored
import Lexical.Proofs.Regex.Builders

/-!
# Patterns as the branches of one expression

A state with a fallback rule looks for the next match of any of its patterns with one expression,
which is made of their texts with bars between them.  As each text is one item for the reader, the
branches of that expression are the patterns (`Term.eq_ofBranches_of_writeBranches`), and it covers
what one of them covers (`Pattern.covers_writeBranches`).
-/

namespace Lexical

open Regex Reading

/-! ## Reading branches -/

/-- A text that is read as an item wherever it stands. -/
def IsItem (text : List Char) (item : Term) : Prop :=
  ∃ names, ReadsAs text item names

lemma accepts_bar {r : Reading} {more : List Char} {b : Configuration} (hblanks : r.blanks = false)
    (h : Accepts (r, '|' :: more) b) : Accepts ({ r with branches := r.branches.bar }, more) b :=
  h.of_steps (steps_of_step hblanks rfl)

/-- The induction is on the texts, with the branches that are done on the side of the reader. -/
lemma term_of_accepts_writeBranches {texts : List (List Char)} {items : List Term}
    (hitems : List.Forall₂ IsItem texts items) (hne : texts ≠ []) {r : Reading} {done : List Term}
    (hr : r.branches = ⟨done, []⟩) (hblanks : r.blanks = false) {b : Configuration}
    (h : Accepts (r, Pattern.writeBranches texts) b) :
    b.1.branches.term = Term.ofBranches (done.reverse ++ items) := by
  induction hitems generalizing r done with
  | nil => exact absurd rfl hne
  | @cons text item texts items hitem hitems ih =>
    obtain ⟨names, hreads⟩ := hitem
    have hpush : (r.push item).branches = ⟨done, [item]⟩ := by
      show r.branches.push item = ⟨done, [item]⟩
      rw [hr]
      rfl
    cases hitems with
    | nil =>
      have htext : Pattern.writeBranches [text] = text ++ [] := by
        simp [Pattern.writeBranches]
      rw [htext] at h
      have hlast := hreads r [] b trails_nil hblanks h
      obtain rfl := hlast.eq_of_atEnd (atEnd_nil _)
      show (r.push item).branches.term = Term.ofBranches (done.reverse ++ [item])
      rw [hpush, ← List.reverse_cons]
      rfl
    | @cons next item' texts items hitem' hitems =>
      have htext : Pattern.writeBranches (text :: next :: texts) =
          text ++ '|' :: Pattern.writeBranches (next :: texts) := by
        simp [Pattern.writeBranches, List.intercalate]
      rw [htext] at h
      have hitem : Accepts ({ r.push item with names := names ++ r.names },
          '|' :: Pattern.writeBranches (next :: texts)) b :=
        hreads r _ b (trails_cons (by decide) _) hblanks h
      have hblanks' : ({ r.push item with names := names ++ r.names } : Reading).blanks = false :=
        hblanks
      have hbehind := accepts_bar hblanks' hitem
      obtain ⟨later, hlater, hblanks', haccepts⟩ : ∃ later : Reading,
          later.branches = ⟨item :: done, []⟩ ∧ later.blanks = false ∧
            Accepts (later, Pattern.writeBranches (next :: texts)) b := by
        refine ⟨_, ?_, ?_, hbehind⟩
        · show (r.push item).branches.bar = ⟨item :: done, []⟩
          rw [hpush]
          rfl
        · exact hblanks
      rw [ih (by simp) hlater hblanks' haccepts, List.reverse_cons, List.append_assoc]
      rfl

/-- **Texts with bars between them are read as their items.** -/
theorem Regex.Term.eq_ofBranches_of_writeBranches {texts : List (List Char)} {items : List Term}
    (hitems : List.Forall₂ IsItem texts items) (hne : texts ≠ []) {term : Term}
    (h : Term.ofText? (Pattern.writeBranches texts) = some term) : term = Term.ofBranches items := by
  obtain ⟨last, haccepts, rfl⟩ := Term.exists_accepts_of_ofText? h
  exact term_of_accepts_writeBranches hitems hne rfl rfl haccepts

/-! ## The expression of branches -/

namespace Regex.Expr

/-- The flags do not change from one branch to the next. -/
lemma branchesOfTerm?_ofBranches {flags behind : Flags} {items : List Term}
    (hkeeps : ∀ item ∈ items, item.KeepsFlags) (hne : items ≠ []) {es : List Expr}
    (h : branchesOfTerm? flags (Term.ofBranches items) = some (es, behind)) :
    behind = flags ∧ ∃ each, List.Forall₂ (fun item branches =>
      branchesOfTerm? flags item = some (branches, flags)) items each ∧ es = each.flatten := by
  induction items generalizing es with
  | nil => exact absurd rfl hne
  | cons item items ih =>
    have hkeep := hkeeps item List.mem_cons_self
    cases items with
    | nil =>
      obtain rfl := hkeep flags es behind h
      exact ⟨rfl, [es], .cons h .nil, by simp⟩
    | cons next items =>
      obtain ⟨⟨first, inside⟩, hfirst, h⟩ := Option.bind_eq_some_iff.1 h
      obtain ⟨⟨others, inside'⟩, hothers, h⟩ := Option.bind_eq_some_iff.1 h
      obtain ⟨rfl, rfl⟩ := Prod.mk.inj (Option.some.inj h)
      obtain rfl := hkeep flags first inside hfirst
      have hrest : ∀ item ∈ next :: items, item.KeepsFlags := fun item hitem =>
        hkeeps item (List.mem_cons_of_mem _ hitem)
      obtain ⟨rfl, each, heach, rfl⟩ := ih hrest (by simp) hothers
      exact ⟨rfl, first :: each, .cons hfirst heach, by simp⟩

variable {before : Option Char} {word rest : List Char}

/-- An alternation covers what one of its branches covers by itself. -/
lemma covers_ofTerm?_ofBranches {items : List Term} (hkeeps : ∀ item ∈ items, item.KeepsFlags)
    (hne : items ≠ []) {joined : Expr} (h : ofTerm? (Term.ofBranches items) = some joined) :
    joined.Covers before word rest ↔
      ∃ item ∈ items, ∃ e, ofTerm? item = some e ∧ e.Covers before word rest := by
  obtain ⟨⟨es, behind⟩, hes, h⟩ := Option.bind_eq_some_iff.1 h
  obtain rfl := Option.some.inj h
  obtain ⟨-, each, heach, rfl⟩ := branchesOfTerm?_ofBranches hkeeps hne hes
  have hone {item : Term} {branches : List Expr}
      (hitem : branchesOfTerm? .initial item = some (branches, .initial)) :
      (∃ e, ofTerm? item = some e ∧ e.Covers before word rest) ↔
        ∃ branch ∈ branches, branch.Covers before word rest := by
    have hterm : ofTerm? item = some (alternation branches) := by
      simp [ofTerm?, hitem]
    simp only [hterm, Option.some.injEq, exists_eq_left', covers_alternation]
  have hall {items : List Term} {each : List (List Expr)}
      (heach : List.Forall₂ (fun item branches =>
        branchesOfTerm? .initial item = some (branches, .initial)) items each) :
      (∃ branch ∈ each.flatten, branch.Covers before word rest) ↔
        ∃ item ∈ items, ∃ e, ofTerm? item = some e ∧ e.Covers before word rest := by
    induction heach with
    | nil => simp
    | cons hitem _ ih =>
      rw [List.exists_mem_cons_iff, ← ih, hone hitem]
      simp only [List.flatten_cons, List.mem_append, or_and_right, exists_or]
  rw [covers_alternation]
  exact hall heach

end Regex.Expr

/-! ## The branches of patterns -/

namespace Pattern

lemma isItem {pattern : Pattern} (hvalid : pattern.SourcesValid)
    (hwritten : (Expr.ofText? pattern.write).isSome = true) : IsItem pattern.write pattern.item := by
  obtain ⟨e, he⟩ := Option.isSome_iff_exists.1 hwritten
  obtain ⟨term, hterm, -⟩ := Option.bind_eq_some_iff.1 he
  exact (exists_readsAs hvalid hterm).2

/-- **The expression of several patterns covers what one of them covers.** -/
theorem covers_writeBranches {patterns : List Pattern} (hne : patterns ≠ [])
    (hvalid : ∀ pattern ∈ patterns, pattern.SourcesValid)
    (hwritten : ∀ pattern ∈ patterns, (Expr.ofText? pattern.write).isSome = true) {joined : Expr}
    (h : Expr.ofText? (writeBranches (patterns.map write)) = some joined) {before : Option Char}
    {word rest : List Char} :
    joined.Covers before word rest ↔
      ∃ pattern ∈ patterns, ∃ e, pattern.expr? = some e ∧ e.Covers before word rest := by
  obtain ⟨term, hterm, hjoined⟩ := Option.bind_eq_some_iff.1 h
  have hread : List.Forall₂ IsItem (patterns.map write) (patterns.map item) := by
    rw [List.forall₂_map_left_iff, List.forall₂_map_right_iff, List.forall₂_same]
    exact fun pattern hmem => isItem (hvalid pattern hmem) (hwritten pattern hmem)
  obtain rfl := Term.eq_ofBranches_of_writeBranches hread (by simpa using hne) hterm
  have hkeeps : ∀ term ∈ patterns.map item, term.KeepsFlags := by
    intro _ hitem
    obtain ⟨pattern, -, rfl⟩ := List.mem_map.1 hitem
    exact pattern.keepsFlags_item
  rw [Expr.covers_ofTerm?_ofBranches hkeeps (by simpa using hne) hjoined]
  simp only [List.mem_map, exists_exists_and_eq_and]
  refine exists_congr fun pattern => and_congr_right fun hmem => ?_
  rw [expr?_eq_ofTerm? (hvalid pattern hmem) (hwritten pattern hmem)]

end Pattern

end Lexical
