import Lexical.Proofs.Lexicon.Declared
import Lexical.Proofs.Pattern.Reading
import Lexical.Proofs.Regex.Anchored
import Lexical.Proofs.Regex.Caret

/-!
# Patterns at the start of the text

A lexicon matches a pattern by the text of the pattern with a `^` in front of it.  That this `^`
ties every match to the start, and changes nothing else, is a statement about texts: it holds
because the text of a pattern is one item for the reader (`Pattern.exists_readsAs`).

The main result is `Pattern.Anchors.find?_eq`: a lexicon finds just those matches of a pattern that
the pattern's own expression (`Pattern.expr?`) has at the start of the text.
-/

namespace Lexical

open Regex Reading

/-! ## Texts that are one item -/

/-- A `^` in front of it applies to the item as a whole. -/
lemma ReadsAs.term_eq_of_accepts_anchor {text : List Char} {item : Term} {names : List String}
    (h : ReadsAs text item names) {last : Configuration}
    (haccepts : Accepts (Reading.start, anchor text) last) :
    last.1.branches.term = .seq .caret item := by
  have hcaret : Steps (Reading.start, anchor text) (Reading.start.push .caret, text) :=
    steps_of_step rfl rfl
  have hbehind := haccepts.of_steps hcaret
  rw [← List.append_nil text] at hbehind
  have hpushed := h _ [] last trails_nil rfl hbehind
  obtain rfl := hpushed.eq_of_atEnd (atEnd_nil _)
  rfl

namespace Pattern

lemma depth_item (pattern : Pattern) (row : Row) : pattern.item.depth row = pattern.item.depth .none := by
  cases pattern with
  | charClass set =>
    rw [item, CharSet.term]
    split_ifs <;> rfl
  | literal _ | literals _ | repetition _ _ _ | regex _ | any => rfl

/-- **The text of an accepted pattern is accepted behind a `^`, too**, unless it nests as deep as a text
may already. -/
theorem ofText?_anchor {pattern : Pattern} (hvalid : pattern.SourcesValid) {term : Term}
    (hterm : Term.ofText? pattern.write = some term) :
    Term.ofText? (anchor pattern.write) =
      if pattern.item.depth .none < Term.maxDepth then some (.seq .caret pattern.item) else none := by
  obtain ⟨-, names, hreads⟩ := exists_readsAs hvalid hterm
  obtain ⟨read, hrun, -⟩ := Option.bind_eq_some_iff.1 hterm
  have hstart : Reading.start.Fronted (Reading.start.push .caret) := .outside (.first []) false []
  obtain ⟨tied, htied⟩ := hstart.exists_run hrun
  have hanchor : Reading.start.run ((anchor pattern.write).length + 1) (anchor pattern.write) =
      some tied := htied
  obtain ⟨last, haccepts, rfl⟩ := exists_accepts_of_run hanchor
  have hdepth : (Term.seq .caret pattern.item).depth .none = pattern.item.depth .none + 1 := by
    simp [Term.depth, pattern.depth_item .sequence]
  rw [Term.ofText?, hanchor, hreads.term_eq_of_accepts_anchor haccepts, Option.bind_eq_bind,
    Option.bind_some, hdepth]
  rfl

/-! ## The expression of a pattern -/

/-- The expression of a pattern by itself: that of the regular expression that it was given, or that
of the text as which it is written. -/
def expr? : Pattern → Option Expr
  | regex source => Expr.ofText? source.toList
  | pattern => Expr.ofText? pattern.write

/-- The group around a regular expression does not change what it means. -/
lemma expr?_eq {pattern : Pattern} (hvalid : pattern.SourcesValid) {e : Expr}
    (h : Expr.ofText? pattern.write = some e) : pattern.expr? = some e := by
  cases pattern with
  | regex source =>
    obtain ⟨own, hown⟩ := Option.isSome_iff_exists.1 hvalid
    obtain ⟨term, hterm, -⟩ := Option.bind_eq_some_iff.1 hown
    obtain ⟨written, hwritten, he⟩ := Option.bind_eq_some_iff.1 h
    rcases readsAs_or_overruns_regex hterm with ⟨names, hreads⟩ | hends
    · obtain rfl := hreads.eq_of_ofText? hwritten
      rw [Expr.ofTerm?_group] at he
      exact Option.bind_eq_some_iff.2 ⟨term, hterm, he⟩
    · rw [write, hends.ofText?_eq_none] at hwritten
      cases hwritten
  | _ => exact h

/-- The expression of a pattern is that of its item. -/
lemma expr?_eq_ofTerm? {pattern : Pattern} (hvalid : pattern.SourcesValid)
    (hwritten : (Expr.ofText? pattern.write).isSome = true) :
    pattern.expr? = Expr.ofTerm? pattern.item := by
  obtain ⟨e, he⟩ := Option.isSome_iff_exists.1 hwritten
  obtain ⟨term, hterm, hofTerm⟩ := Option.bind_eq_some_iff.1 he
  obtain rfl := (exists_readsAs hvalid hterm).1
  rw [expr?_eq hvalid he, hofTerm]

/-- **A pattern is matched by its own expression, tied to the start of the text.** -/
theorem Anchors.exists_eq_anchored {pattern : Pattern} {matcher : Expr}
    (h : pattern.Anchors matcher) (hvalid : pattern.SourcesValid) {kind : String}
    (hcheck : checkPattern kind pattern = .ok pattern.write) :
    ∃ e, pattern.expr? = some e ∧ e.Tidy ∧ matcher = e.anchored := by
  obtain ⟨-, e, hwritten, -⟩ := exists_of_checkPattern hcheck
  obtain ⟨term, hterm, he⟩ := Option.bind_eq_some_iff.1 hwritten
  obtain ⟨tied, htied, hmatcher⟩ := Option.bind_eq_some_iff.1 h
  obtain ⟨rfl, -⟩ := exists_readsAs hvalid hterm
  rw [ofText?_anchor hvalid hterm, Option.ite_none_right_eq_some] at htied
  obtain rfl := Option.some.inj htied.2
  rw [Expr.ofTerm?_seq_startLine, he] at hmatcher
  exact ⟨e, expr?_eq hvalid hwritten, Expr.tidy_of_ofTerm? he, (Option.some.inj hmatcher).symm⟩

/-- A pattern has a match of the given length at the start of a text: the first match of its own
expression is there. -/
def Matches (pattern : Pattern) (text : List Char) (length : Nat) : Prop :=
  ∃ e, pattern.expr? = some e ∧ e.find? text = some (0, length)

lemma Matches.le_length {pattern : Pattern} {text : List Char} {length : Nat}
    (h : pattern.Matches text length) : length ≤ text.length := by
  obtain ⟨e, -, hfind⟩ := h
  exact Expr.matchLength?_le (Expr.find?_eq_some_zero_iff.1 hfind)

lemma Matches.unique {pattern : Pattern} {text : List Char} {length length' : Nat}
    (h : pattern.Matches text length) (h' : pattern.Matches text length') : length = length' := by
  obtain ⟨e, he, hfind⟩ := h
  obtain ⟨e', he', hfind'⟩ := h'
  obtain rfl := Option.some.inj (he.symm.trans he')
  exact (Prod.mk.inj (Option.some.inj (hfind.symm.trans hfind'))).2

/-- **A lexicon finds the matches of a pattern at the start of the text**, and nothing else. -/
theorem Anchors.find?_eq {pattern : Pattern} {matcher : Expr} (h : pattern.Anchors matcher)
    (hvalid : pattern.SourcesValid) {kind : String}
    (hcheck : checkPattern kind pattern = .ok pattern.write) {text : List Char}
    {start length : Nat} :
    matcher.find? text = some (start, length) ↔ start = 0 ∧ pattern.Matches text length := by
  obtain ⟨e, he, htidy, rfl⟩ := h.exists_eq_anchored hvalid hcheck
  rw [Expr.find?_anchored htidy]
  simp only [Matches, he, Option.some.injEq, exists_eq_left', Expr.find?_eq_some_zero_iff,
    Option.map_eq_some_iff, Prod.mk.injEq]
  constructor
  · rintro ⟨found, hfound, rfl, rfl⟩
    exact ⟨rfl, hfound⟩
  · rintro ⟨rfl, hfound⟩
    exact ⟨length, hfound, rfl, rfl⟩

end Pattern

end Lexical
