import Lexical.Proofs.Regex.Builders
import Lexical.Proofs.Regex.Extension.Reader

/-!
# A caret in front of a text

The `^` in front of a regular expression is one more item of its first branch.  For a text that is a
regular expression by itself, that is all that it changes: a branch behind a bar does not see it, and
neither does what stands in groups.  So what the text with the `^` covers is covered by the text
itself (`Expr.covers_of_covers_caret`), whatever the text is.

The reader is followed on both texts at once, with `Reading.Fronted` between its states.
-/

namespace Lexical.Regex

/-- The item that a `^` is. -/
abbrev Term.caret : Term :=
  .assertion .startLine

/-! ## Reading behind a caret -/

/-- The first branch of the second ones has a `^` in front, which the first ones do not have. -/
inductive Branches.Fronted : Branches → Branches → Prop
  | first (items : List Term) : Fronted ⟨[], items⟩ ⟨[], items ++ [.caret]⟩
  | later (done items first : List Term) :
      Fronted ⟨done ++ [.ofItems first], items⟩ ⟨done ++ [.ofItems (.caret :: first)], items⟩

/-- The second reader has a `^` in front of what it has read, outside all groups. -/
inductive Reading.Fronted : Reading → Reading → Prop
  | outside {branches branches' : Branches} (h : branches.Fronted branches') (blanks : Bool)
      (names : List String) : Fronted ⟨branches, [], blanks, names⟩ ⟨branches', [], blanks, names⟩
  | inside {around around' : Branches} (h : around.Fronted around') (branches : Branches)
      (inner : List OpenGroup) (kind : GroupKind) (outside blanks : Bool) (names : List String) :
      Fronted ⟨branches, inner ++ [⟨kind, around, outside⟩], blanks, names⟩
        ⟨branches, inner ++ [⟨kind, around', outside⟩], blanks, names⟩

namespace Branches.Fronted

variable {b b' : Branches}

lemma push (h : b.Fronted b') (item : Term) : (b.push item).Fronted (b'.push item) := by
  cases h with
  | first items => exact .first (item :: items)
  | later done items first => exact .later done (item :: items) first

lemma bar (h : b.Fronted b') : b.bar.Fronted b'.bar := by
  cases h with
  | first items =>
    -- The branch that is closed first is the one with the `^`.
    have hitems : (items ++ [Term.caret]).reverse = .caret :: items.reverse := by simp
    unfold Branches.bar
    rw [hitems]
    exact .later [] [] items.reverse
  | later done items first => exact .later (Term.ofItems items.reverse :: done) [] first

/-- The last item can be changed if it is not the `^` itself. -/
lemma replaceLast (h : b.Fronted b') {body : Term} {items : List Term}
    (hitems : b.items = body :: items) (item : Term) :
    ∃ items', b'.items = body :: items' ∧
      Fronted { b with items := item :: items } { b' with items := item :: items' } := by
  cases h with
  | first items' =>
    obtain rfl : items' = body :: items := hitems
    exact ⟨items ++ [Term.caret], rfl, .first (item :: items)⟩
  | later done items' first =>
    obtain rfl : items' = body :: items := hitems
    exact ⟨items, rfl, .later done (item :: items) first⟩

/-- The terms of the branches differ in the first branch, which has the `^` in front. -/
lemma exists_term_eq (h : b.Fronted b') : ∃ first others,
    b.term = Term.ofBranches (.ofItems first :: others) ∧
      b'.term = Term.ofBranches (.ofItems (.caret :: first) :: others) := by
  cases h with
  | first items => exact ⟨items.reverse, [], rfl, by simp [Branches.term, Branches.bar]⟩
  | later done items first =>
    exact ⟨first, done.reverse ++ [.ofItems items.reverse], by simp [Branches.term, Branches.bar],
      by simp [Branches.term, Branches.bar]⟩

end Branches.Fronted

namespace Reading

namespace Fronted

variable {r r' later : Reading} {text rest : List Char}

lemma blanks_eq (h : r.Fronted r') : r'.blanks = r.blanks := by
  cases h <;> rfl

lemma names_eq (h : r.Fronted r') : r'.names = r.names := by
  cases h <;> rfl

lemma push (h : r.Fronted r') (item : Term) : (r.push item).Fronted (r'.push item) := by
  cases h with
  | outside h blanks names => exact .outside (h.push item) blanks names
  | inside h branches inner kind outside blanks names =>
    exact .inside h (branches.push item) inner kind outside blanks names

lemma bar (h : r.Fronted r') :
    Fronted { r with branches := r.branches.bar } { r' with branches := r'.branches.bar } := by
  cases h with
  | outside h blanks names => exact .outside h.bar blanks names
  | inside h branches inner kind outside blanks names =>
    exact .inside h branches.bar inner kind outside blanks names

lemma withBlanks (h : r.Fronted r') (blanks : Bool) :
    Fronted { r with blanks } { r' with blanks } := by
  cases h with
  | outside h _ names => exact .outside h blanks names
  | inside h branches inner kind outside _ names =>
    exact .inside h branches inner kind outside blanks names

lemma withNames (h : r.Fronted r') (names : List String) :
    Fronted { r with names } { r' with names } := by
  cases h with
  | outside h blanks _ => exact .outside h blanks names
  | inside h branches inner kind outside blanks _ =>
    exact .inside h branches inner kind outside blanks names

lemma openGroup (h : r.Fronted r') (kind : GroupKind) (blanks : Bool) :
    (r.openGroup kind blanks).Fronted (r'.openGroup kind blanks) := by
  cases h with
  | outside h outside names => exact .inside h .start [] kind outside blanks names
  | inside h branches inner kind' outside' outside names =>
    exact .inside h .start (⟨kind, branches, outside⟩ :: inner) kind' outside' blanks names

lemma closeGroup? (h : r.Fronted r') (hlater : r.closeGroup? = some later) :
    ∃ later', r'.closeGroup? = some later' ∧ later.Fronted later' := by
  cases h with
  | outside h blanks names => cases hlater
  | inside h branches inner kind outside blanks names =>
    -- Closing the outermost group comes back to the branches with the `^`; inside it does not
    -- show.
    cases inner with
    | nil =>
      obtain rfl := Option.some.inj hlater
      exact ⟨_, rfl, .outside (h.push _) outside names⟩
    | cons group inner =>
      obtain rfl := Option.some.inj hlater
      exact ⟨_, rfl, .inside h _ inner kind outside group.blanks names⟩

lemma withBranches (h : r.Fronted r') {body : Term} {items : List Term}
    (hitems : r.branches.items = body :: items) (item : Term) :
    ∃ items', r'.branches.items = body :: items' ∧
      Fronted { r with branches.items := item :: items }
        { r' with branches.items := item :: items' } := by
  cases h with
  | outside h blanks names =>
    obtain ⟨items', hitems', hbranches⟩ := h.replaceLast hitems item
    exact ⟨items', hitems', .outside hbranches blanks names⟩
  | inside h branches inner kind outside blanks names =>
    exact ⟨items, hitems, .inside h _ inner kind outside blanks names⟩

/-- What can be repeated by itself is an item of the text, and no `^` in front of it. -/
lemma repeatLast? {min : Nat} {max : Option Nat} {greedy : Bool} (h : r.Fronted r')
    (hlater : r.repeatLast? min max greedy = some later) :
    ∃ later', r'.repeatLast? min max greedy = some later' ∧ later.Fronted later' := by
  unfold Reading.repeatLast? at hlater ⊢
  split at hlater
  · cases hlater
  · cases hlater
  · rename_i body items hswitch hitems
    obtain rfl := Option.some.inj hlater
    obtain ⟨items', hitems', hlater'⟩ := h.withBranches hitems (.repetition body min max greedy)
    rw [hitems']
    refine ⟨_, ?_, hlater'⟩
    -- The item is no switch, so that it can be repeated there as well.
    cases body with
    | switch flags => exact absurd rfl (hswitch flags)
    | _ => rfl

/-! ### Steps -/

/-- A reading of the text is one behind the `^`, too. -/
def Lifts (read read' : Option (Reading × List Char)) : Prop :=
  ∀ later rest, read = some (later, rest) →
    ∃ later', read' = some (later', rest) ∧ later.Fronted later'

lemma named (h : r.Fronted r') (text : List Char) :
    Lifts (readGroup.named r text) (readGroup.named r' text) := by
  intro later rest hread
  unfold readGroup.named at hread ⊢
  simp only [Option.bind_eq_bind, Option.bind_eq_some_iff] at hread
  obtain ⟨⟨name, behind⟩, hname, hread⟩ := hread
  simp only [hname, Option.bind_eq_bind, Option.bind_some, h.names_eq]
  split_ifs at hread ⊢
  obtain ⟨rfl, rfl⟩ := Prod.mk.inj (Option.some.inj hread)
  have hopened := (h.withNames (name :: r.names)).openGroup .capture r.blanks
  refine ⟨_, rfl, ?_⟩
  rw [h.blanks_eq] at hopened ⊢
  exact hopened

lemma readFlags (h : r.Fronted r') (text : List Char) :
    Lifts (r.readFlags text) (r'.readFlags text) := by
  intro later rest hread
  unfold Reading.readFlags at hread ⊢
  simp only [Option.bind_eq_bind, Option.bind_eq_some_iff] at hread
  obtain ⟨⟨switches, close, behind⟩, hswitches, hread⟩ := hread
  simp only [hswitches, Option.bind_eq_bind, Option.bind_some, h.blanks_eq]
  split_ifs at hread ⊢
  · obtain ⟨rfl, rfl⟩ := Prod.mk.inj (Option.some.inj hread)
    exact ⟨_, rfl, h.openGroup _ _⟩
  · obtain ⟨rfl, rfl⟩ := Prod.mk.inj (Option.some.inj hread)
    exact ⟨_, rfl, (h.withBlanks _).push _⟩

lemma readQuestion (h : r.Fronted r') (text : List Char) :
    Lifts (r.readQuestion text) (r'.readQuestion text) := by
  unfold Reading.readQuestion
  split
  iterate 4
    · intro later rest hread
      cases hread
  · exact h.named _
  · exact h.named _
  · exact h.readFlags _

lemma readGroup (h : r.Fronted r') (text : List Char) :
    Lifts (r.readGroup text) (r'.readGroup text) := by
  by_cases hquestion : ∃ behind, skipBlanks r.blanks text = '?' :: behind
  · obtain ⟨behind, htext⟩ := hquestion
    have htext' : skipBlanks r'.blanks text = '?' :: behind := by
      rw [h.blanks_eq, htext]
    rw [readGroup_of_question htext, readGroup_of_question htext']
    exact h.readQuestion behind
  · have hne (behind : List Char) : skipBlanks r.blanks text ≠ '?' :: behind :=
      fun heq => hquestion ⟨behind, heq⟩
    have hne' (behind : List Char) : skipBlanks r'.blanks text ≠ '?' :: behind := by
      rw [h.blanks_eq]
      exact hne behind
    intro later rest hread
    rw [readGroup_of_ne_question hne] at hread
    obtain ⟨rfl, rfl⟩ := Prod.mk.inj (Option.some.inj hread)
    rw [readGroup_of_ne_question hne', h.blanks_eq]
    exact ⟨_, rfl, h.openGroup _ _⟩

lemma readRepetition (h : r.Fronted r') (min : Nat) (max : Option Nat) (text : List Char) :
    Lifts (r.readRepetition min max text) (r'.readRepetition min max text) := by
  intro later rest hread
  unfold Reading.readRepetition at hread ⊢
  split at hread
  all_goals
    obtain ⟨repeated, hrepeated, heq⟩ := Option.map_eq_some_iff.1 hread
    obtain ⟨rfl, rfl⟩ := Prod.mk.inj heq
    obtain ⟨later', hlater', hfronted⟩ := h.repeatLast? hrepeated
    simp only [hlater', Option.map_some]
    exact ⟨later', rfl, hfronted⟩

lemma step (h : r.Fronted r') (c : Char) (text : List Char) :
    Lifts (r.step c text) (r'.step c text) := by
  -- Whatever is read becomes the last item in both.
  have hpush {item : Term} {behind : List Char} :
      Lifts (some (r.push item, behind)) (some (r'.push item, behind)) := by
    intro later rest hread
    obtain ⟨rfl, rfl⟩ := Prod.mk.inj (Option.some.inj hread)
    exact ⟨_, rfl, h.push item⟩
  unfold Reading.step
  split
  · exact h.readGroup text
  · intro later rest hread
    obtain ⟨closed, hclosed, heq⟩ := Option.map_eq_some_iff.1 hread
    obtain ⟨rfl, rfl⟩ := Prod.mk.inj heq
    obtain ⟨later', hlater', hfronted⟩ := h.closeGroup? hclosed
    exact ⟨later', by rw [hlater']; rfl, hfronted⟩
  · intro later rest hread
    obtain ⟨rfl, rfl⟩ := Prod.mk.inj (Option.some.inj hread)
    exact ⟨_, rfl, h.bar⟩
  · rw [h.blanks_eq]
    cases readBracket r.blanks text with
    | none => exact fun _ _ hread => by cases hread
    | some found => exact hpush
  · exact h.readRepetition _ _ text
  · exact h.readRepetition _ _ text
  · exact h.readRepetition _ _ text
  · rw [h.blanks_eq]
    cases readBounds r.blanks text with
    | none => exact fun _ _ hread => by cases hread
    | some found => exact h.readRepetition _ _ _
  · rw [h.blanks_eq]
    cases readEscape r.blanks text with
    | none => exact fun _ _ hread => by cases hread
    | some found => exact hpush
  all_goals exact hpush

/-- **What is accepted by itself is accepted behind the `^`.**  The induction is on the steps. -/
lemma exists_accepts {a b : Configuration} (haccepts : Accepts a b) (h : a.1.Fronted r') :
    ∃ b', Accepts (r', a.2) b' ∧ b.1.Fronted b'.1 := by
  obtain ⟨hsteps, hend, hgroups⟩ := haccepts
  induction hsteps using Relation.ReflTransGen.head_induction_on generalizing r' with
  | refl =>
    have hend' : AtEnd (r', b.2) := by
      unfold AtEnd
      rw [h.blanks_eq]
      exact hend
    -- At the end no group is open, so that the `^` stands in the branches themselves.
    have hgroups' : r'.groups = [] := by
      obtain ⟨b, rest⟩ := b
      cases h with
      | outside => rfl
      | inside => simp at hgroups
    exact ⟨(r', b.2), ⟨.refl, hend', hgroups'⟩, h⟩
  | head hnext _ ih =>
    obtain ⟨c, rest, htext, hstep⟩ := hnext
    obtain ⟨later', hstep', hfronted⟩ := h.step c rest _ _ hstep
    obtain ⟨b', haccepts, hb'⟩ := ih hfronted
    have hnext' : Next (r', _) (later', _) := ⟨c, rest, by rw [h.blanks_eq]; exact htext, hstep'⟩
    exact ⟨b', ⟨.head hnext' haccepts.steps, haccepts.atEnd, haccepts.groups_eq⟩, hb'⟩

lemma groups_isEmpty (h : r.Fronted r') : r'.groups.isEmpty = r.groups.isEmpty := by
  cases h with
  | outside => rfl
  | inside _ _ inner => cases inner <;> rfl

/-- A `^` does not take more steps.  The induction is on their bound. -/
lemma exists_run {fuel : Nat} {text : List Char} {term : Term} (h : r.Fronted r')
    (hrun : run fuel r text = some term) : ∃ term', run fuel r' text = some term' := by
  induction fuel generalizing r r' text with
  | zero => cases hrun
  | succ fuel ih =>
    unfold run at hrun ⊢
    rw [h.blanks_eq, h.groups_isEmpty]
    cases htext : skipBlanks r.blanks text with
    | nil =>
      simp only [htext, Option.ite_none_right_eq_some] at hrun
      exact ⟨_, if_pos hrun.1⟩
    | cons c rest =>
      simp only [htext] at hrun
      cases hstep : r.step c rest with
      | none => simp [hstep] at hrun
      | some later =>
        obtain ⟨later', hstep', hfronted⟩ := h.step c rest _ _ hstep
        simp only [hstep] at hrun
        simp only [hstep']
        exact ih hfronted hrun

end Fronted

end Reading

/-- A text with a `^` in front is the same text with the `^` in its first branch. -/
lemma Term.exists_eq_of_ofText?_caret {text : List Char} {term term' : Term}
    (h : Term.ofText? text = some term) (h' : Term.ofText? ('^' :: text) = some term') :
    ∃ first others, term = .ofBranches (.ofItems first :: others) ∧
      term' = .ofBranches (.ofItems (.caret :: first) :: others) := by
  obtain ⟨last, haccepts, rfl⟩ := Term.exists_accepts_of_ofText? h
  obtain ⟨last', haccepts', rfl⟩ := Term.exists_accepts_of_ofText? h'
  have hcaret : Reading.Next (Reading.start, '^' :: text) (Reading.start.push .caret, text) :=
    ⟨'^', text, rfl, rfl⟩
  have hstart : Reading.start.Fronted (Reading.start.push .caret) := .outside (.first []) false []
  obtain ⟨b, hb, hfronted⟩ := Reading.Fronted.exists_accepts haccepts hstart
  -- From the `^` on, the second run takes the steps of the first, and a run ends in one place
  -- only.
  have hsame : b = last' := by
    have hbehind := haccepts'.of_steps (.single hcaret)
    exact hb.atEnd.eq_of_steps (hb.steps.of_atEnd hbehind.steps hbehind.atEnd)
  subst hsame
  have hgroups := haccepts.groups_eq
  obtain ⟨r, rest⟩ := last
  obtain ⟨r', rest'⟩ := b
  cases hfronted with
  | outside hbranches => exact hbranches.exists_term_eq
  | inside => simp at hgroups

/-! ## What is covered -/

namespace Expr

variable {before : Option Char} {word rest : List Char}

/-- One of some branches covers a word. -/
def AnyBranchCovers (es : List Expr) : Language :=
  fun before word rest => ∃ e ∈ es, e.Covers before word rest

lemma anyBranchCovers_append {es others : List Expr} :
    AnyBranchCovers (es ++ others) before word rest ↔
      AnyBranchCovers es before word rest ∨ AnyBranchCovers others before word rest := by
  simp only [AnyBranchCovers, List.mem_append, or_and_right, exists_or]

/-- The `^` reads nothing, so what is covered behind it is covered without it. -/
lemma anyBranchCovers_of_caret {flags flags' : Flags} {items : List Term} {es es' : List Expr}
    (h : branchesOfTerm? .initial (Term.ofItems items) = some (es, flags))
    (h' : branchesOfTerm? .initial (Term.ofItems (.caret :: items)) = some (es', flags')) :
    flags' = flags ∧ (AnyBranchCovers es' before word rest → AnyBranchCovers es before word rest) := by
  -- Only the first branch differs; an empty one becomes the `^` alone.
  cases items with
  | nil =>
    obtain ⟨rfl, rfl⟩ := Prod.mk.inj (Option.some.inj h)
    obtain ⟨rfl, rfl⟩ := Prod.mk.inj (Option.some.inj h')
    refine ⟨rfl, ?_⟩
    rintro ⟨e, he, hcovers⟩
    obtain rfl := List.mem_singleton.1 he
    have hword : word = [] := hcovers.1
    exact ⟨empty, List.mem_singleton_self _, hword⟩
  | cons item items =>
    obtain ⟨⟨others, behind⟩, hothers, heq⟩ : ∃ found,
        branchesOfTerm? .initial (Term.ofItems (item :: items)) = some found ∧
          some ([concat (alternation [look .textStart]) (alternation found.1)], found.2)
            = some (es', flags') :=
      Option.bind_eq_some_iff.1 h'
    obtain ⟨rfl, rfl⟩ := Prod.mk.inj (Option.some.inj (hothers.symm.trans h))
    obtain ⟨rfl, rfl⟩ := Prod.mk.inj (Option.some.inj heq)
    refine ⟨rfl, ?_⟩
    rintro ⟨e, he, hcovers⟩
    obtain rfl := List.mem_singleton.1 he
    -- What covers the `^` is the empty word.
    obtain ⟨first, second, rfl, hfirst, hsecond⟩ := (covers_concat _ _).1 hcovers
    obtain ⟨e, he, hlook⟩ := (covers_alternation _).1 hfirst
    obtain rfl := List.mem_singleton.1 he
    obtain rfl : first = [] := hlook.1
    exact (covers_alternation _).1 hsecond

/-- **What a text with a `^` in front covers, it covers without it.** -/
theorem covers_of_covers_caret {text : List Char} {e e' : Expr} (h : ofText? text = some e)
    (h' : ofText? ('^' :: text) = some e') (hcovers : e'.Covers before word rest) :
    e.Covers before word rest := by
  obtain ⟨term, hterm, h⟩ := Option.bind_eq_some_iff.1 h
  obtain ⟨term', hterm', h'⟩ := Option.bind_eq_some_iff.1 h'
  obtain ⟨first, others, rfl, rfl⟩ := Term.exists_eq_of_ofText?_caret hterm hterm'
  obtain ⟨⟨es, flags⟩, hes, h⟩ := Option.bind_eq_some_iff.1 h
  obtain ⟨⟨es', flags'⟩, hes', h'⟩ := Option.bind_eq_some_iff.1 h'
  obtain rfl := Option.some.inj h
  obtain rfl := Option.some.inj h'
  rw [covers_alternation] at hcovers ⊢
  cases others with
  | nil => exact (anyBranchCovers_of_caret hes hes').2 hcovers
  | cons second others =>
    obtain ⟨⟨one, inside⟩, hone, hes⟩ := Option.bind_eq_some_iff.1 hes
    obtain ⟨⟨one', inside'⟩, hone', hes'⟩ := Option.bind_eq_some_iff.1 hes'
    -- The `^` leaves the flags as they are, so the other branches are translated alike.
    obtain ⟨rfl, hfirst⟩ := anyBranchCovers_of_caret hone hone'
    obtain ⟨⟨more, behind⟩, hmore, hes⟩ := Option.bind_eq_some_iff.1 hes
    obtain ⟨⟨more', behind'⟩, hmore', hes'⟩ := Option.bind_eq_some_iff.1 hes'
    obtain ⟨rfl, rfl⟩ := Prod.mk.inj (Option.some.inj (hmore.symm.trans hmore'))
    obtain ⟨rfl, -⟩ := Prod.mk.inj (Option.some.inj hes)
    obtain ⟨rfl, -⟩ := Prod.mk.inj (Option.some.inj hes')
    rcases anyBranchCovers_append.1 hcovers with hone | hmore
    · exact anyBranchCovers_append.2 (.inl (hfirst hone))
    · exact anyBranchCovers_append.2 (.inr hmore)

end Expr

end Lexical.Regex
