import Lexical.Regex.Expr.OfTerm
import Mathlib.Tactic.Lemma
import Mathlib.Tactic.SplitIfs

/-!
# The simple form of expressions

`Expr.concat` and `Expr.alternation` take their arguments apart and build them up again.  That loses
nothing as long as the arguments are in the form which these functions produce: an expression is
`Expr.Tidy` if every sequence in it leans to the right and has no empty part.  Every expression of a
term is tidy (`Expr.tidy_of_ofTerm?`), and to put such an expression into a group changes nothing
(`Expr.alternation_alternation`).
-/

namespace Lexical.Regex.Expr

/-! ## Parts -/

/-- An expression can be a part of a sequence. -/
def IsPart : Expr → Prop
  | empty => False
  | seq _ _ => False
  | _ => True

/-- Sequences lean to the right and have no empty part, in all branches. -/
def Tidy : Expr → Prop
  | seq first rest => first.IsPart ∧ first.Tidy ∧ rest ≠ empty ∧ rest.Tidy
  | alt first rest => first.Tidy ∧ rest.Tidy
  | _ => True

/-- The parts of a tidy sequence. -/
def TidyParts (parts : List Expr) : Prop :=
  ∀ part ∈ parts, part.IsPart ∧ part.Tidy

@[simp] lemma tidy_empty : empty.Tidy := trivial

@[simp] lemma tidyParts_nil : TidyParts [] := by
  simp [TidyParts]

@[simp] lemma tidyParts_cons {part : Expr} {parts : List Expr} :
    TidyParts (part :: parts) ↔ (part.IsPart ∧ part.Tidy) ∧ TidyParts parts := by
  simp [TidyParts]

lemma IsPart.ne_empty {e : Expr} (h : e.IsPart) : e ≠ empty := by
  rintro rfl
  exact h

lemma IsPart.parts_eq {e : Expr} (h : e.IsPart) : e.parts = [e] := by
  cases e with
  | empty => exact h.elim
  | seq first rest => exact h.elim
  | _ => rfl

lemma parts_eq_nil_iff {e : Expr} : e.parts = [] ↔ e = empty := by
  cases e <;> simp [parts]

lemma ofParts_cons {part : Expr} {parts : List Expr} (h : parts ≠ []) :
    ofParts (part :: parts) = seq part (ofParts parts) := by
  cases parts with
  | nil => exact absurd rfl h
  | cons => rfl

lemma TidyParts.ofParts_ne_empty {parts : List Expr} (h : TidyParts parts) (hne : parts ≠ []) :
    ofParts parts ≠ empty := by
  cases parts with
  | nil => exact absurd rfl hne
  | cons part rest =>
    cases rest with
    | nil => exact (tidyParts_cons.1 h).1.1.ne_empty
    | cons => simp [ofParts]

lemma TidyParts.tidy_ofParts {parts : List Expr} (h : TidyParts parts) : (ofParts parts).Tidy := by
  induction parts with
  | nil => exact tidy_empty
  | cons part rest ih =>
    obtain ⟨⟨hpart, htidy⟩, hrest⟩ := tidyParts_cons.1 h
    by_cases hne : rest = []
    · rw [hne]
      exact htidy
    · rw [ofParts_cons hne]
      exact ⟨hpart, htidy, hrest.ofParts_ne_empty hne, ih hrest⟩

lemma TidyParts.parts_ofParts {parts : List Expr} (h : TidyParts parts) :
    (ofParts parts).parts = parts := by
  induction parts with
  | nil => rfl
  | cons part rest ih =>
    obtain ⟨⟨hpart, -⟩, hrest⟩ := tidyParts_cons.1 h
    by_cases hne : rest = []
    · rw [hne]
      exact hpart.parts_eq
    · rw [ofParts_cons hne, Expr.parts, ih hrest]

lemma Tidy.tidyParts {e : Expr} (h : e.Tidy) : TidyParts e.parts := by
  induction e with
  | empty => exact tidyParts_nil
  | seq first rest _ ih => exact tidyParts_cons.2 ⟨⟨h.1, h.2.1⟩, ih h.2.2.2⟩
  | alt first rest => exact tidyParts_cons.2 ⟨⟨trivial, h⟩, tidyParts_nil⟩
  | _ => exact tidyParts_cons.2 ⟨⟨trivial, trivial⟩, tidyParts_nil⟩

/-- A tidy expression is made up of its parts. -/
lemma Tidy.ofParts_parts {e : Expr} (h : e.Tidy) : ofParts e.parts = e := by
  induction e with
  | seq first rest _ ih =>
    rw [Expr.parts, ofParts_cons (mt parts_eq_nil_iff.1 h.2.2.1), ih h.2.2.2]
  | _ => rfl

lemma TidyParts.joinParts {parts others : List Expr} (h : TidyParts parts)
    (hothers : TidyParts others) : TidyParts (joinParts parts others) := by
  fun_induction Expr.joinParts with
  | case1 => exact hothers
  | case2 => exact tidyParts_cons.2 ⟨⟨trivial, trivial⟩, (tidyParts_cons.1 hothers).2⟩
  | case3 others part rest _ ih =>
    obtain ⟨hpart, hrest⟩ := tidyParts_cons.1 h
    exact tidyParts_cons.2 ⟨hpart, ih hrest hothers⟩

lemma Tidy.concat {a b : Expr} (ha : a.Tidy) (hb : b.Tidy) : (a.concat b).Tidy :=
  (ha.tidyParts.joinParts hb.tidyParts).tidy_ofParts

lemma TidyParts.concat_ofParts {parts : List Expr} (h : TidyParts parts) (b : Expr) :
    concat (ofParts parts) b = ofParts (Expr.joinParts parts b.parts) := by
  rw [Expr.concat, h.parts_ofParts]

/-! ## Branches -/

/-- Whether an expression is an alternation. -/
def IsAlt : Expr → Prop
  | alt _ _ => True
  | _ => False

lemma branches_eq_singleton {e : Expr} (h : ¬ e.IsAlt) : e.branches = [e] := by
  cases e with
  | alt first rest => exact absurd trivial h
  | _ => rfl

lemma not_isAlt_of_mem_branches {e branch : Expr} (h : branch ∈ e.branches) : ¬ branch.IsAlt := by
  induction e with
  | alt first rest ihfirst ihrest =>
    rcases List.mem_append.1 h with h | h
    · exact ihfirst h
    · exact ihrest h
  | _ =>
    obtain rfl := List.mem_singleton.1 h
    exact id

lemma Tidy.of_mem_branches {e branch : Expr} (h : e.Tidy) (hmem : branch ∈ e.branches) :
    branch.Tidy := by
  induction e with
  | alt first rest ihfirst ihrest =>
    rcases List.mem_append.1 hmem with hmem | hmem
    · exact ihfirst h.1 hmem
    · exact ihrest h.2 hmem
  | _ =>
    obtain rfl := List.mem_singleton.1 hmem
    exact h

lemma tidy_of_mem_flatMap_branches {es : List Expr} (h : ∀ e ∈ es, e.Tidy) :
    ∀ e ∈ es.flatMap branches, e.Tidy := by
  intro branch hbranch
  obtain ⟨e, he, hmem⟩ := List.mem_flatMap.1 hbranch
  exact (h e he).of_mem_branches hmem

lemma ofBranches_cons {e : Expr} {es : List Expr} (h : es ≠ []) :
    ofBranches (e :: es) = alt e (ofBranches es) := by
  cases es with
  | nil => exact absurd rfl h
  | cons => rfl

lemma tidy_ofBranches {es : List Expr} (h : ∀ e ∈ es, e.Tidy) : (ofBranches es).Tidy := by
  induction es with
  | nil => trivial
  | cons e es ih =>
    by_cases hne : es = []
    · rw [hne]
      exact h e List.mem_cons_self
    · rw [ofBranches_cons hne]
      exact ⟨h e List.mem_cons_self, ih fun e' he' => h e' (List.mem_cons_of_mem _ he')⟩

/-- Branches that are no alternations can be told apart again. -/
lemma branches_ofBranches {es : List Expr} (hne : es ≠ []) (h : ∀ e ∈ es, ¬ e.IsAlt) :
    (ofBranches es).branches = es := by
  induction es with
  | nil => exact absurd rfl hne
  | cons e es ih =>
    have he := branches_eq_singleton (h e List.mem_cons_self)
    by_cases hes : es = []
    · rw [hes]
      exact he
    · rw [ofBranches_cons hes, Expr.branches, he,
        ih hes fun e' he' => h e' (List.mem_cons_of_mem _ he')]
      rfl

/-! ## Alternations -/

lemma tidy_ofSet (chars : CodeSet) : (ofSet chars).Tidy := by
  unfold ofSet
  split <;> trivial

lemma not_isAlt_ofSet (chars : CodeSet) : ¬ (ofSet chars).IsAlt := by
  unfold ofSet
  split <;> exact id

lemma tidyParts_commonParts {as bs : List Expr} (h : TidyParts as) :
    TidyParts (commonParts as bs) := by
  fun_induction commonParts with
  | case1 a as bs ih =>
    obtain ⟨ha, has⟩ := tidyParts_cons.1 h
    exact tidyParts_cons.2 ⟨ha, ih has⟩
  | case2 => exact tidyParts_nil
  | case3 => exact tidyParts_nil

lemma tidyParts_sharedParts {es : List Expr} (h : ∀ e ∈ es, e.Tidy) :
    TidyParts (sharedParts es) := by
  -- Parts that are shared with one more branch are among those shared before.
  have hfold (shared : List Expr) (hshared : TidyParts shared) (es : List Expr) :
      TidyParts (es.foldl (fun shared e => commonParts shared e.parts) shared) := by
    induction es generalizing shared with
    | nil => exact hshared
    | cons e es ih => exact ih _ (tidyParts_commonParts hshared)
  cases es with
  | nil => exact tidyParts_nil
  | cons first rest =>
    rw [sharedParts]
    split_ifs
    · exact hfold _ (h first List.mem_cons_self).tidyParts rest
    · exact tidyParts_nil

/-- Whatever is taken out in front of the branches, the rests of them are tidy. -/
lemma tidy_rests {es : List Expr} (h : ∀ e ∈ es, e.Tidy) (count : Nat) :
    ∀ e ∈ es.map fun e => ofParts (e.parts.drop count), e.Tidy := by
  intro rest hrest
  obtain ⟨e, he, rfl⟩ := List.mem_map.1 hrest
  have hdrop : TidyParts (e.parts.drop count) := fun part hpart =>
    (h e he).tidyParts part (List.mem_of_mem_drop hpart)
  exact hdrop.tidy_ofParts

/-- What an alternation of more than one branch comes to. -/
inductive Alternated (fuel : Nat) (es : List Expr) : Expr → Prop
  | chars {sets : List CodeSet} : es.mapM chars? = some sets →
      Alternated fuel es (ofSet (CodeSet.unions sets))
  | branches : es.mapM chars? = none → sharedParts es = [] → Alternated fuel es (ofBranches es)
  | shared : sharedParts es ≠ [] → Alternated fuel es
      (concat (ofParts (sharedParts es)) (alternationWith fuel
        (es.map fun e => ofParts (e.parts.drop (sharedParts es).length))))

lemma alternated_alternationWith (fuel : Nat) {es flat : List Expr}
    (h : es.flatMap Expr.branches = flat) (hmany : 1 < flat.length) :
    Alternated fuel flat (alternationWith (fuel + 1) es) := by
  unfold alternationWith
  rw [h]
  match flat, hmany with
  | first :: second :: rest, _ =>
    simp only
    cases hchars : (first :: second :: rest).mapM chars? with
    | some sets => exact .chars hchars
    | none =>
      simp only
      cases hshared : sharedParts (first :: second :: rest) with
      | nil => exact .branches hchars hshared
      | cons part parts =>
        have hne : sharedParts (first :: second :: rest) ≠ [] := by simp [hshared]
        have hresult : Alternated fuel _ _ := .shared hne
        simpa only [hshared] using hresult

/-- The induction is on the fuel. -/
lemma tidy_alternationWith (fuel : Nat) {es : List Expr} (h : ∀ e ∈ es, e.Tidy) :
    (alternationWith fuel es).Tidy := by
  induction fuel generalizing es with
  | zero => exact tidy_ofBranches h
  | succ fuel ih =>
    have hflat := tidy_of_mem_flatMap_branches h
    match hbranches : es.flatMap Expr.branches with
    | [] =>
      unfold alternationWith
      rw [hbranches]
      trivial
    | [e] =>
      unfold alternationWith
      rw [hbranches]
      exact hflat e (by simp [hbranches])
    | first :: second :: rest =>
      rw [hbranches] at hflat
      have hcases := alternated_alternationWith fuel hbranches (by simp)
      -- Which of the three an alternation comes to is all that is needed of it.
      generalize alternationWith (fuel + 1) es = e at hcases ⊢
      cases hcases with
      | chars => exact tidy_ofSet _
      | branches => exact tidy_ofBranches hflat
      | shared =>
        exact (tidyParts_sharedParts hflat).tidy_ofParts.concat (ih (tidy_rests hflat _))

lemma tidy_alternation {es : List Expr} (h : ∀ e ∈ es, e.Tidy) : (alternation es).Tidy :=
  tidy_alternationWith _ h

/-! ## Alternations of one expression -/

lemma joinParts_ne_nil {parts others : List Expr} (h : parts ≠ [] ∨ others ≠ []) :
    joinParts parts others ≠ [] := by
  fun_cases joinParts with
  | case1 => simpa using h
  | case2 => simp
  | case3 => simp

lemma not_isAlt_ofParts_joinParts {parts others : List Expr} (hparts : parts ≠ [])
    (hothers : others ≠ []) : ¬ (ofParts (joinParts parts others)).IsAlt := by
  fun_cases joinParts with
  | case1 => exact absurd rfl hparts
  | case2 a b others =>
    cases others <;> exact id
  | case3 others part rest =>
    rw [ofParts_cons (joinParts_ne_nil (.inr hothers))]
    exact id

lemma branches_ne_nil (e : Expr) : e.branches ≠ [] := by
  induction e with
  | alt first rest ih => simp [branches, ih]
  | _ => simp [branches]

lemma length_le_length_flatMap_branches (es : List Expr) :
    es.length ≤ (es.flatMap branches).length := by
  induction es with
  | nil => simp
  | cons e es ih =>
    have hpos := List.length_pos_iff.2 (branches_ne_nil e)
    rw [List.flatMap_cons, List.length_append, List.length_cons]
    omega

lemma isAlt_ofBranches {es : List Expr} (hmany : 1 < es.length) : (ofBranches es).IsAlt := by
  match es, hmany with
  | first :: second :: rest, _ => trivial

lemma IsAlt.ne_empty {e : Expr} (h : e.IsAlt) : e ≠ empty := by
  rintro rfl
  exact h

lemma ofSet_ne_empty (chars : CodeSet) : ofSet chars ≠ empty := by
  unfold ofSet
  split <;> simp

/-- An alternation of several expressions is not empty. -/
lemma alternationWith_ne_empty (fuel : Nat) {es : List Expr} (h : ∀ e ∈ es, e.Tidy)
    (hmany : 1 < es.length) : alternationWith fuel es ≠ empty := by
  cases fuel with
  | zero => exact (isAlt_ofBranches hmany).ne_empty
  | succ fuel =>
    have hflat := tidy_of_mem_flatMap_branches h
    have hmany := Nat.lt_of_lt_of_le hmany (length_le_length_flatMap_branches es)
    have hcases := alternated_alternationWith fuel rfl hmany
    generalize alternationWith (fuel + 1) es = e at hcases ⊢
    cases hcases with
    | chars => exact ofSet_ne_empty _
    | branches => exact (isAlt_ofBranches hmany).ne_empty
    | shared hshared =>
      have hfirst := tidyParts_sharedParts hflat
      have hsecond := tidy_alternationWith fuel
        (tidy_rests hflat (sharedParts (es.flatMap Expr.branches)).length)
      rw [hfirst.concat_ofParts]
      exact (hfirst.joinParts hsecond.tidyParts).ofParts_ne_empty (joinParts_ne_nil (.inl hshared))

/-- An alternation with a common beginning taken out of its branches is a sequence. -/
lemma not_isAlt_concat_sharedParts {fuel : Nat} {es : List Expr} (h : ∀ e ∈ es, e.Tidy)
    (hmany : 1 < es.length) (hshared : sharedParts es ≠ []) :
    ¬ (concat (ofParts (sharedParts es)) (alternationWith fuel
      (es.map fun e => ofParts (e.parts.drop (sharedParts es).length)))).IsAlt := by
  -- The rests of the branches are several, so their alternation adds a part, and the whole is a
  -- sequence.
  have hrests := alternationWith_ne_empty fuel (tidy_rests h (sharedParts es).length)
    (by simpa using hmany)
  rw [(tidyParts_sharedParts h).concat_ofParts]
  exact not_isAlt_ofParts_joinParts hshared (mt parts_eq_nil_iff.1 hrests)

/-- An expression that is no alternation is the alternation of just itself. -/
lemma alternation_singleton {e : Expr} (h : ¬ e.IsAlt) : alternation [e] = e := by
  simp [alternation, alternationWith, branches_eq_singleton h]

/-- Only what has nothing to be simplified any more is left as an alternation. -/
lemma alternation_eq_ofBranches {es : List Expr} (h : ∀ e ∈ es, e.Tidy)
    (halt : (alternation es).IsAlt) :
    alternation es = ofBranches (es.flatMap branches) ∧ 1 < (es.flatMap branches).length
      ∧ (es.flatMap branches).mapM chars? = none ∧ sharedParts (es.flatMap branches) = [] := by
  unfold alternation at halt ⊢
  match hbranches : es.flatMap branches with
  | [] =>
    unfold alternationWith at halt
    rw [hbranches] at halt
    exact halt.elim
  | [e] =>
    unfold alternationWith at halt
    rw [hbranches] at halt
    have hmem : e ∈ es.flatMap branches := by simp [hbranches]
    obtain ⟨outer, -, hbranch⟩ := List.mem_flatMap.1 hmem
    -- A single branch is no alternation, since branches are flat.
    exact absurd halt (not_isAlt_of_mem_branches hbranch)
  | first :: second :: rest =>
    have hflat := tidy_of_mem_flatMap_branches h
    rw [hbranches] at hflat
    have hcases := alternated_alternationWith (sizes es) hbranches (by simp)
    generalize alternationWith (sizes es + 1) es = e at hcases halt ⊢
    cases hcases with
    -- Neither a set nor a sequence is an alternation, which leaves the second case.
    | chars => exact absurd halt (not_isAlt_ofSet _)
    | branches hchars hshared => exact ⟨rfl, by simp, hchars, hshared⟩
    | shared hshared => exact absurd halt (not_isAlt_concat_sharedParts hflat (by simp) hshared)

/-- **An alternation of one expression is that expression** if it is one already. -/
theorem alternation_alternation {es : List Expr} (h : ∀ e ∈ es, e.Tidy) :
    alternation [alternation es] = alternation es := by
  by_cases halt : (alternation es).IsAlt
  · obtain ⟨heq, hmany, hchars, hshared⟩ := alternation_eq_ofBranches h halt
    -- The branches are taken apart again as they were, and for the same reasons nothing is
    -- simplified.
    have hplain : ∀ e ∈ es.flatMap branches, ¬ e.IsAlt := by
      intro branch hbranch
      obtain ⟨e, -, hmem⟩ := List.mem_flatMap.1 hbranch
      exact not_isAlt_of_mem_branches hmem
    have hne : es.flatMap branches ≠ [] := List.ne_nil_of_length_pos (by omega)
    have hflat : [ofBranches (es.flatMap branches)].flatMap branches = es.flatMap branches := by
      simpa using branches_ofBranches hne hplain
    rw [heq, alternation]
    have hcases := alternated_alternationWith (sizes [ofBranches (es.flatMap branches)])
      hflat hmany
    generalize alternationWith _ [ofBranches (es.flatMap branches)] = e at hcases ⊢
    cases hcases with
    | chars hsome => exact absurd hsome (by simp [hchars])
    | branches => rfl
    | shared hsome => exact absurd hshared hsome
  · exact alternation_singleton halt

/-! ## The expressions of terms -/

lemma Tidy.repeat {body : Expr} (h : body.Tidy) (min : Nat) (max : Option Nat) (greedy : Bool) :
    (body.repeat min max greedy).Tidy := by
  unfold Expr.repeat
  simp only
  generalize (if body.isZeroWidth then _ else _ : Nat × Option Nat) = bounds
  split_ifs
  · exact tidy_empty
  · exact h
  · trivial

lemma Tidy.of_one {e : Expr} {es : List Expr} {flags behind : Flags}
    (h : some ([e], flags) = some (es, behind)) (he : e.Tidy) : ∀ e ∈ es, e.Tidy := by
  obtain ⟨rfl, -⟩ := Prod.mk.inj (Option.some.inj h)
  simpa using he

/-- The branches of a term are tidy.  The induction is on the term. -/
lemma tidy_of_branchesOfTerm? {term : Term} {flags behind : Flags} {es : List Expr}
    (h : branchesOfTerm? flags term = some (es, behind)) : ∀ e ∈ es, e.Tidy := by
  induction term generalizing flags behind es with
  | empty => exact Tidy.of_one h tidy_empty
  | switch switches => exact Tidy.of_one h tidy_empty
  | literal char =>
    obtain ⟨e, he, h⟩ := Option.bind_eq_some_iff.1 h
    obtain ⟨c, -, he⟩ := Option.bind_eq_some_iff.1 he
    exact Tidy.of_one h (Option.some.inj he ▸ tidy_ofSet _)
  | dot =>
    obtain ⟨e, he, h⟩ := Option.bind_eq_some_iff.1 h
    unfold Flags.dot? at he
    refine Tidy.of_one h ?_
    split_ifs at he <;> exact Option.some.inj he ▸ trivial
  | assertion kind => exact Tidy.of_one h trivial
  | charClass chars =>
    obtain ⟨set, -, h⟩ := Option.bind_eq_some_iff.1 h
    exact Tidy.of_one h (tidy_ofSet set)
  | repetition body min max greedy ih =>
    obtain ⟨⟨inner, flags'⟩, hinner, h⟩ := Option.bind_eq_some_iff.1 h
    have htidy := tidy_alternation (ih hinner)
    exact Tidy.of_one h (htidy.repeat _ _ _)
  | capture body ih =>
    obtain ⟨⟨inner, flags'⟩, -, h⟩ := Option.bind_eq_some_iff.1 h
    exact Tidy.of_one h trivial
  | group switches body ih =>
    obtain ⟨⟨inner, flags'⟩, hinner, h⟩ := Option.bind_eq_some_iff.1 h
    exact Tidy.of_one h (tidy_alternation (ih hinner))
  | seq first rest ihfirst ihrest =>
    obtain ⟨⟨inner, flags'⟩, hinner, h⟩ := Option.bind_eq_some_iff.1 h
    obtain ⟨⟨others, flags''⟩, hothers, h⟩ := Option.bind_eq_some_iff.1 h
    -- Each part comes back as an alternation of its branches.
    have hfirst := tidy_alternation (ihfirst hinner)
    have hrest := tidy_alternation (ihrest hothers)
    exact Tidy.of_one h (hfirst.concat hrest)
  | alt first rest ihfirst ihrest =>
    obtain ⟨⟨inner, flags'⟩, hinner, h⟩ := Option.bind_eq_some_iff.1 h
    obtain ⟨⟨others, flags''⟩, hothers, h⟩ := Option.bind_eq_some_iff.1 h
    obtain ⟨rfl, -⟩ := Prod.mk.inj (Option.some.inj h)
    intro e he
    rcases List.mem_append.1 he with he | he
    · exact ihfirst hinner e he
    · exact ihrest hothers e he

/-- **The expression of a term is tidy.** -/
theorem tidy_of_ofTerm? {term : Term} {e : Expr} (h : ofTerm? term = some e) : e.Tidy := by
  obtain ⟨⟨es, flags⟩, hes, h⟩ := Option.bind_eq_some_iff.1 h
  obtain rfl := Option.some.inj h
  exact tidy_alternation (tidy_of_branchesOfTerm? hes)

/-- A group that switches nothing means what is in it. -/
lemma ofTerm?_group {term : Term} : ofTerm? (.group [] term) = ofTerm? term := by
  cases hes : branchesOfTerm? .initial term with
  | none => simp [ofTerm?, branchesOfTerm?, Flags.apply, hes]
  | some found =>
    obtain ⟨es, flags⟩ := found
    have hidem := alternation_alternation (tidy_of_branchesOfTerm? hes)
    simp [ofTerm?, branchesOfTerm?, Flags.apply, hes, hidem]

end Lexical.Regex.Expr
