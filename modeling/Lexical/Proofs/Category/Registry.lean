import Lexical.Proofs.Category.Sets
import Mathlib.Data.List.Nodup
import Mathlib.Logic.Relation
import Mathlib.Order.Defs.Unbundled

/-!
# What a registry of categories knows

A caller creates categories one after the other and may fail in between.  What creating a category
comes to is said once (`create_eq_ok_iff`, `create_eq_error_iff`); a registry stays `Lawful` by it,
behind any calls.  In a lawful registry a category has a greater id than its parents, and its
ancestors, though put together from those of its parents when it is created, are all categories to
which parents lead (`Descends`).

The main result is `CategoryRegistry.sound_performAll`.
-/

namespace Lexical

/-- A call that is to create a category. -/
structure Creation where
  name : String
  parents : List CategoryId
deriving DecidableEq

namespace CategoryRegistry

variable {registry next later : CategoryRegistry} {name : String} {parents : List CategoryId}
  {id ancestor : CategoryId} {error : ConfigError}

/-! ## Calls -/

/-- The answer to a call, and the registry behind it.  A call that fails leaves it as it was. -/
def perform (registry : CategoryRegistry) (call : Creation) :
    Except ConfigError CategoryId × CategoryRegistry :=
  match registry.create call.name call.parents with
  | .ok (next, id) => (.ok id, next)
  | .error error => (.error error, registry)

/-- The registry behind calls made one after the other. -/
def performAll (registry : CategoryRegistry) : List Creation → CategoryRegistry
  | [] => registry
  | call :: rest => performAll (registry.perform call).2 rest

/-- The answers to calls made one after the other. -/
def answers (registry : CategoryRegistry) : List Creation → List (Except ConfigError CategoryId)
  | [] => []
  | call :: rest => (registry.perform call).1 :: answers (registry.perform call).2 rest

/-! ## Creating a category -/

/-- The registry with one more category, which has all ancestors of its parents. -/
def added (registry : CategoryRegistry) (name : String) (parents : List CategoryId) :
    CategoryRegistry :=
  ⟨registry.entries ++ [⟨name, parents, (registry.closure parents).insert registry.size⟩]⟩

/-- Why a category cannot be created: its name is taken, or one of its parents, of which the first is
named, is not known. -/
inductive Refuses (registry : CategoryRegistry) (name : String) (parents : List CategoryId) :
    ConfigError → Prop
  | taken {id : CategoryId} (known : registry.lookup name = some id) :
      Refuses registry name parents (.duplicateCategory name)
  | foreign {before behind : List CategoryId} {id : CategoryId} (fresh : registry.lookup name = none)
      (parents_eq : parents = before ++ id :: behind)
      (known : ∀ parent ∈ before, registry.contains parent = true)
      (unknown : registry.contains id = false) :
      Refuses registry name parents (unknownId id)

lemma lookup_eq_none_iff : registry.lookup name = none ↔ ¬ registry.names.contains name = true := by
  simp [lookup]

lemma create_eq_ok_iff : registry.create name parents = .ok (next, id) ↔
    registry.lookup name = none ∧ (∀ parent ∈ parents, registry.contains parent = true) ∧
      next = registry.added name parents ∧ id = registry.size := by
  rw [lookup_eq_none_iff]
  unfold create
  by_cases htaken : registry.names.contains name = true
  · rw [if_pos htaken]
    constructor
    · intro h
      cases h
    · rintro ⟨hfresh, -⟩
      exact absurd htaken hfresh
  · rw [if_neg htaken]
    cases hfind : parents.find? fun parent => !registry.contains parent with
    | some parent =>
      have hmem := List.mem_of_find?_eq_some hfind
      have hunknown := List.find?_some hfind
      constructor
      · intro h
        cases h
      · rintro ⟨-, hknown, -⟩
        simp [hknown parent hmem] at hunknown
    | none =>
      have hknown : ∀ parent ∈ parents, registry.contains parent = true := by
        simpa using List.find?_eq_none.1 hfind
      constructor
      · intro h
        obtain ⟨rfl, rfl⟩ := Prod.mk.inj (Except.ok.inj h)
        exact ⟨htaken, hknown, rfl, rfl⟩
      · rintro ⟨-, -, rfl, rfl⟩
        rfl

lemma create_eq_error_iff :
    registry.create name parents = .error error ↔ registry.Refuses name parents error := by
  unfold create
  by_cases htaken : registry.names.contains name = true
  · rw [if_pos htaken]
    constructor
    · intro h
      obtain rfl := Except.error.inj h
      cases hlookup : registry.lookup name with
      | none => exact absurd htaken (lookup_eq_none_iff.1 hlookup)
      | some id => exact .taken hlookup
    · rintro (hknown | ⟨hfresh, -, -, -⟩)
      · rfl
      · exact absurd htaken (lookup_eq_none_iff.1 hfresh)
  · have hfresh : registry.lookup name = none := lookup_eq_none_iff.2 htaken
    rw [if_neg htaken]
    cases hfind : parents.find? fun parent => !registry.contains parent with
    | some first =>
      -- The parent that the search stops at is the first unknown one: all before it are known.
      obtain ⟨hunknown, before, behind, hparents, hknown⟩ := List.find?_eq_some_iff_append.1 hfind
      have hrefuses : registry.Refuses name parents (unknownId first) :=
        .foreign hfresh hparents (by simpa using hknown) (by simpa using hunknown)
      constructor
      · intro h
        obtain rfl := Except.error.inj h
        exact hrefuses
      · rintro (hknown | ⟨-, hsplit, hbefore, hid⟩)
        · rw [hfresh] at hknown
          cases hknown
        -- A list has one first unknown parent, so the one of the split is the one found.
        · have hfirst : parents.find? (fun parent => !registry.contains parent) = some _ :=
            List.find?_eq_some_iff_append.2
              ⟨by simpa using hid, _, _, hsplit, by simpa using hbefore⟩
          rw [hfind] at hfirst
          obtain rfl := Option.some.inj hfirst
          rfl
    | none =>
      constructor
      · intro h
        cases h
      · rintro (hknown | ⟨-, hsplit, -, hid⟩)
        · rw [hfresh] at hknown
          cases hknown
        · have hcontains := List.find?_eq_none.1 hfind _
            (hsplit ▸ List.mem_append_right _ List.mem_cons_self)
          simp [hid] at hcontains

/-! ### What a new category changes -/

lemma contains_iff : registry.contains id = true ↔ id < registry.size := by
  simp [contains]

lemma getElem?_entries_of_contains (h : registry.contains id = true) :
    ∃ category, registry.entries[id]? = some category :=
  ⟨_, List.getElem?_eq_getElem (contains_iff.1 h)⟩

lemma parents_of_not_contains (h : ¬ registry.contains id = true) : registry.parents id = [] := by
  have hnone : registry.entries[id]? = none :=
    List.getElem?_eq_none (Nat.le_of_not_lt fun hlt => h (contains_iff.2 hlt))
  rw [CategoryRegistry.parents, hnone]

lemma size_added : (registry.added name parents).size = registry.size + 1 := by
  simp [added, size]

lemma getElem?_entries_added_size : (registry.added name parents).entries[registry.size]? =
    some ⟨name, parents, (registry.closure parents).insert registry.size⟩ := by
  simp [added, size]

/-- What a registry knows is still known where entries have only been added at the end. -/
lemma getElem?_entries_of_extends (hextends : registry.entries <+: later.entries)
    (h : registry.contains id = true) : later.entries[id]? = registry.entries[id]? := by
  obtain ⟨more, hmore⟩ := hextends
  rw [← hmore, List.getElem?_append_left (contains_iff.1 h)]

lemma extends_added (registry : CategoryRegistry) (name : String) (parents : List CategoryId) :
    registry.entries <+: (registry.added name parents).entries :=
  List.prefix_append _ _

/-! ## Descent -/

/-- Parents lead, in any number of steps, from a category to another. -/
def Descends (registry : CategoryRegistry) (id ancestor : CategoryId) : Prop :=
  Relation.ReflTransGen (fun child parent => parent ∈ registry.parents child) id ancestor

/-- A registry in which names are distinct, parents come before their children, and the ancestors
that are kept with a category are those to which parents lead. -/
structure Lawful (registry : CategoryRegistry) : Prop where
  nodup_names : registry.names.Nodup
  parents_lt : ∀ id, ∀ parent ∈ registry.parents id, parent < id
  ancestors : ∀ id, registry.contains id = true → ∃ set, registry.ancestors? id = some set ∧
    set.Ascending ∧ ∀ ancestor, set.contains ancestor = true ↔ registry.Descends id ancestor

namespace Lawful

lemma contains_parent (h : registry.Lawful) {parent : CategoryId}
    (hparent : parent ∈ registry.parents id) : registry.contains parent = true := by
  have hid : registry.contains id = true := by
    by_contra hnot
    rw [parents_of_not_contains hnot] at hparent
    cases hparent
  exact contains_iff.2 (Nat.lt_trans (h.parents_lt id parent hparent) (contains_iff.1 hid))

lemma le_of_descends (h : registry.Lawful) (hdescends : registry.Descends id ancestor) :
    ancestor ≤ id := by
  induction hdescends with
  | refl => exact Nat.le_refl id
  | tail _ hparent ih => exact Nat.le_trans (Nat.le_of_lt (h.parents_lt _ _ hparent)) ih

lemma isA_iff_descends (h : registry.Lawful) (hid : registry.contains id = true) :
    registry.isA id ancestor = true ↔ registry.Descends id ancestor := by
  obtain ⟨set, hset, -, hdescends⟩ := h.ancestors id hid
  rw [isA_iff, hset]
  constructor
  · rintro ⟨found, hfound, hcontains⟩
    obtain rfl := Option.some.inj hfound
    exact (hdescends ancestor).1 hcontains
  · intro hancestor
    exact ⟨set, rfl, (hdescends ancestor).2 hancestor⟩

lemma lookup_eq_some_iff (h : registry.Lawful) :
    registry.lookup name = some id ↔ registry.name? id = some name := by
  have hname : registry.name? id = registry.names[id]? := by rw [name?, names, List.getElem?_map]
  rw [hname, lookup, List.idxOf?_eq_some_iff, List.getElem?_eq_some_iff]
  constructor
  · rintro ⟨hlt, hget, -⟩
    exact ⟨hlt, hget⟩
  · rintro ⟨hlt, hget⟩
    refine ⟨hlt, hget, fun earlier hearlier hsame => ?_⟩
    have heq := (h.nodup_names.getElem_inj_iff).1 (hsame.trans hget.symm)
    omega

end Lawful

lemma lawful_empty : empty.Lawful where
  nodup_names := List.nodup_nil
  parents_lt id parent hparent := by simp [CategoryRegistry.parents, empty] at hparent
  ancestors id hid := by simp [contains, size, empty] at hid

/-! ### Descent behind a new category -/

section Added

variable (h : registry.Lawful)
include h

/-- Where entries have only been added, the parents of a category lead where they did.  The induction is
on the steps; all that are taken stay among the old categories. -/
lemma descends_iff_of_extends (hextends : registry.entries <+: later.entries)
    (hid : registry.contains id = true) :
    later.Descends id ancestor ↔ registry.Descends id ancestor := by
  have hparents {child : CategoryId} (hchild : registry.contains child = true) :
      later.parents child = registry.parents child := by
    rw [CategoryRegistry.parents, CategoryRegistry.parents,
      getElem?_entries_of_extends hextends hchild]
  constructor
  · intro hdescends
    -- The step away from an old category stays among them, as parents are known.
    induction hdescends using Relation.ReflTransGen.head_induction_on with
    | refl => exact .refl
    | head hparent _ ih =>
      rw [hparents hid] at hparent
      exact .head hparent (ih (h.contains_parent hparent))
  · intro hdescends
    induction hdescends using Relation.ReflTransGen.head_induction_on with
    | refl => exact .refl
    | head hparent _ ih =>
      have hlater := hparent
      rw [← hparents hid] at hlater
      exact .head hlater (ih (h.contains_parent hparent))

/-- From the new category, parents lead to itself and to where they lead from its parents. -/
lemma descends_added_size (hknown : ∀ parent ∈ parents, registry.contains parent = true) :
    (registry.added name parents).Descends registry.size ancestor ↔
      ancestor = registry.size ∨ ∃ parent ∈ parents, registry.Descends parent ancestor := by
  have hparents : (registry.added name parents).parents registry.size = parents := by
    rw [CategoryRegistry.parents, getElem?_entries_added_size]
  rw [Descends, Relation.ReflTransGen.cases_head_iff, hparents]
  constructor
  · rintro (heq | ⟨parent, hparent, hdescends⟩)
    · exact .inl heq.symm
    · exact .inr ⟨parent, hparent,
        (descends_iff_of_extends h (extends_added ..) (hknown parent hparent)).1 hdescends⟩
  · rintro (heq | ⟨parent, hparent, hdescends⟩)
    · exact .inl heq.symm
    · exact .inr ⟨parent, hparent,
        (descends_iff_of_extends h (extends_added ..) (hknown parent hparent)).2 hdescends⟩

/-- **A new category keeps a registry lawful.** -/
lemma Lawful.added (hfresh : registry.lookup name = none)
    (hknown : ∀ parent ∈ parents, registry.contains parent = true) :
    (registry.added name parents).Lawful := by
  have hcases {id : CategoryId} (hid : (registry.added name parents).contains id = true) :
      registry.contains id = true ∨ id = registry.size := by
    rw [contains_iff, size_added] at hid
    rw [contains_iff]
    exact Nat.lt_succ_iff_lt_or_eq.1 hid
  refine ⟨?_, fun id parent hparent => ?_, fun id hid => ?_⟩
  · have hnew : name ∉ registry.names := by
      simpa using lookup_eq_none_iff.1 hfresh
    have hnames : (registry.added name parents).names = registry.names ++ [name] := by
      simp [CategoryRegistry.added, names]
    rw [hnames]
    exact h.nodup_names.append (List.nodup_singleton name) (by simpa using hnew)
  · by_cases hid : (registry.added name parents).contains id = true
    -- The parents of an old category have not changed, and those of the new one are all older
    -- than it.
    · rw [CategoryRegistry.parents] at hparent
      rcases hcases hid with hold | rfl
      · rw [getElem?_entries_of_extends (extends_added ..) hold] at hparent
        exact h.parents_lt id parent hparent
      · rw [getElem?_entries_added_size] at hparent
        exact contains_iff.1 (hknown parent hparent)
    · rw [parents_of_not_contains hid] at hparent
      cases hparent
  · rw [ancestors?]
    rcases hcases hid with hold | rfl
    -- Nothing new can be reached from an old category, so its ancestors are still right.
    · obtain ⟨set, hset, hascending, hdescends⟩ := h.ancestors id hold
      refine ⟨set, ?_, hascending, fun ancestor => ?_⟩
      · rw [getElem?_entries_of_extends (extends_added ..) hold]
        exact hset
      · rw [hdescends, descends_iff_of_extends h (extends_added ..) hold]
    · rw [getElem?_entries_added_size]
      refine ⟨_, rfl, (registry.ascending_closure parents).insert _, fun ancestor => ?_⟩
      rw [CategorySet.contains_insert, contains_closure, descends_added_size h hknown]
      -- The new ancestors were put together from the kept sets of the parents, which are right by
      -- `h`.
      refine or_congr_right (exists_congr fun parent => and_congr_right fun hparent => ?_)
      exact h.isA_iff_descends (hknown parent hparent)

end Added

/-! ## Calls one after the other -/

lemma perform_of_error {call : Creation} (h : registry.create call.name call.parents = .error error) :
    registry.perform call = (.error error, registry) := by
  rw [perform, h]

/-- A call adds a category and answers with its id, or it fails and adds nothing. -/
lemma perform_cases (registry : CategoryRegistry) (call : Creation) :
    (registry.lookup call.name = none ∧
        (∀ parent ∈ call.parents, registry.contains parent = true) ∧
        registry.perform call = (.ok registry.size, registry.added call.name call.parents)) ∨
      ∃ error, registry.perform call = (.error error, registry) := by
  cases hcreate : registry.create call.name call.parents with
  | error error => exact .inr ⟨error, perform_of_error hcreate⟩
  | ok created =>
    obtain ⟨next, id⟩ := created
    obtain ⟨hfresh, hknown, rfl, rfl⟩ := create_eq_ok_iff.1 hcreate
    refine .inl ⟨hfresh, hknown, ?_⟩
    rw [perform, hcreate]

lemma Lawful.perform (h : registry.Lawful) (call : Creation) : (registry.perform call).2.Lawful := by
  rcases registry.perform_cases call with ⟨hfresh, hknown, heq⟩ | ⟨error, heq⟩
  · rw [heq]
    exact h.added hfresh hknown
  · rw [heq]
    exact h

/-- The induction is on the calls. -/
lemma Lawful.performAll (h : registry.Lawful) (calls : List Creation) :
    (registry.performAll calls).Lawful := by
  induction calls generalizing registry with
  | nil => exact h
  | cons call calls ih => exact ih (h.perform call)

/-- Calls only add entries at the end.  The induction is on the calls. -/
lemma extends_performAll (registry : CategoryRegistry) (calls : List Creation) :
    registry.entries <+: (registry.performAll calls).entries := by
  induction calls generalizing registry with
  | nil => exact List.prefix_rfl
  | cons call calls ih =>
    have hfirst : registry.entries <+: (registry.perform call).2.entries := by
      rcases registry.perform_cases call with ⟨-, -, heq⟩ | ⟨error, heq⟩
      · rw [heq]
        exact extends_added ..
      · exact heq ▸ List.prefix_rfl
    exact hfirst.trans (ih _)

lemma performAll_append (registry : CategoryRegistry) (calls others : List Creation) :
    registry.performAll (calls ++ others) = (registry.performAll calls).performAll others := by
  induction calls generalizing registry with
  | nil => rfl
  | cons call calls ih => exact ih _

/-- The ids that calls give count on from those that there are.  The induction is on the calls. -/
lemma answers_eq_range (registry : CategoryRegistry) (calls : List Creation) :
    ∃ count, (registry.answers calls).filterMap Except.toOption = List.range' registry.size count ∧
      (registry.performAll calls).size = registry.size + count := by
  induction calls generalizing registry with
  | nil => exact ⟨0, rfl, rfl⟩
  | cons call calls ih =>
    obtain ⟨count, hanswers, hsize⟩ := ih (registry.perform call).2
    rcases registry.perform_cases call with ⟨-, -, heq⟩ | ⟨error, heq⟩
    · rw [heq, size_added] at hanswers hsize
      refine ⟨count + 1, ?_, ?_⟩
      · rw [answers, heq, List.range'_succ, ← hanswers]
        rfl
      · rw [performAll, heq, hsize]
        omega
    · rw [heq] at hanswers hsize
      refine ⟨count, ?_, ?_⟩
      · rw [answers, heq, ← hanswers]
        rfl
      · rw [performAll, heq, hsize]

/-! ## What a caller can rely on -/

/-- The categories that there are. -/
abbrev Known (registry : CategoryRegistry) : Type :=
  { id : CategoryId // registry.contains id = true }

/-- What can be relied on of a registry. -/
structure Sound (registry : CategoryRegistry) : Prop where
  /-- Names and ids lead to each other. -/
  lookup_iff : ∀ name id, registry.lookup name = some id ↔ registry.name? id = some name
  named_iff : ∀ id, registry.contains id = true ↔ ∃ name, registry.name? id = some name
  parents_lt : ∀ id, ∀ parent ∈ registry.parents id, parent < id
  /-- The ancestors are all categories to which parents lead. -/
  ancestors_iff : ∀ id, registry.contains id = true → ∃ set, registry.ancestors? id = some set ∧
    ∀ ancestor, set.contains ancestor = true ↔ registry.Descends id ancestor
  isA_order : IsPartialOrder registry.Known fun id ancestor => registry.isA id ancestor = true
  create_error_iff : ∀ name parents error,
    registry.create name parents = .error error ↔ registry.Refuses name parents error
  /-- What is created gets the next id. -/
  create_ok : ∀ name parents next id, registry.create name parents = .ok (next, id) →
    id = registry.size ∧ next.size = id + 1 ∧ next.name? id = some name ∧ next.parents id = parents

lemma Lawful.isA_order (h : registry.Lawful) :
    IsPartialOrder registry.Known fun id ancestor => registry.isA id ancestor = true where
  refl id := (h.isA_iff_descends id.2).2 .refl
  trans id middle ancestor hfirst hsecond := by
    rw [h.isA_iff_descends id.2] at hfirst ⊢
    rw [h.isA_iff_descends middle.2] at hsecond
    exact hfirst.trans hsecond
  antisymm id ancestor hfirst hsecond := by
    rw [h.isA_iff_descends id.2] at hfirst
    rw [h.isA_iff_descends ancestor.2] at hsecond
    exact Subtype.ext (Nat.le_antisymm (h.le_of_descends hsecond) (h.le_of_descends hfirst))

lemma Lawful.sound (h : registry.Lawful) : registry.Sound where
  lookup_iff _ _ := h.lookup_eq_some_iff
  named_iff id := by
    constructor
    · intro hid
      obtain ⟨category, hcategory⟩ := getElem?_entries_of_contains hid
      exact ⟨category.name, by rw [name?, hcategory, Option.map_some]⟩
    · rintro ⟨name, hname⟩
      obtain ⟨category, hcategory, -⟩ := Option.map_eq_some_iff.1 hname
      exact contains_iff.2 (List.getElem?_eq_some_iff.1 hcategory).1
  parents_lt := h.parents_lt
  ancestors_iff id hid := by
    obtain ⟨set, hset, -, hdescends⟩ := h.ancestors id hid
    exact ⟨set, hset, hdescends⟩
  isA_order := h.isA_order
  create_error_iff _ _ _ := create_eq_error_iff
  create_ok name parents next id hcreate := by
    obtain ⟨-, -, rfl, rfl⟩ := create_eq_ok_iff.1 hcreate
    refine ⟨rfl, size_added, ?_, ?_⟩
    · rw [name?, getElem?_entries_added_size, Option.map_some]
    · rw [CategoryRegistry.parents, getElem?_entries_added_size]

/-- **Behind any calls a registry is sound.**  The ids that were given count from zero, calls that
failed might as well not have been made, and later calls leave what is known of a category as it
is. -/
theorem sound_performAll (calls : List Creation) :
    (empty.performAll calls).Sound ∧
      (empty.answers calls).filterMap Except.toOption
        = List.range (empty.performAll calls).size ∧
      (∀ call error, (empty.performAll calls).create call.name call.parents = .error error →
        ∀ others, empty.performAll (calls ++ call :: others) = empty.performAll (calls ++ others)) ∧
      ∀ others id, (empty.performAll calls).contains id = true →
        (empty.performAll (calls ++ others)).ancestors? id = (empty.performAll calls).ancestors? id ∧
        (empty.performAll (calls ++ others)).parents id = (empty.performAll calls).parents id ∧
        (empty.performAll (calls ++ others)).name? id = (empty.performAll calls).name? id := by
  refine ⟨(lawful_empty.performAll calls).sound, ?_, fun call error hfails others => ?_,
    fun others id hid => ?_⟩
  · obtain ⟨count, hanswers, hsize⟩ := answers_eq_range empty calls
    have hcount : (empty.performAll calls).size = count := hsize.trans (Nat.zero_add count)
    rw [hanswers, hcount, List.range_eq_range']
    rfl
  · rw [performAll_append, performAll_append, performAll, perform_of_error hfails]
  · have hentry := getElem?_entries_of_extends (extends_performAll (empty.performAll calls) others) hid
    rw [performAll_append]
    refine ⟨?_, ?_, ?_⟩
    · rw [ancestors?, ancestors?, hentry]
    · rw [CategoryRegistry.parents, CategoryRegistry.parents, hentry]
    · rw [name?, name?, hentry]

/-- Two calls that fail on the way to a category with two parents. -/
example : empty.answers [⟨"value", []⟩, ⟨"literal", [0]⟩, ⟨"value", [1]⟩, ⟨"name", [0, 7]⟩,
    ⟨"number", [1, 0]⟩] =
      [.ok 0, .ok 1, .error (.duplicateCategory "value"), .error (.unknownCategory "#7"), .ok 2] := by
  decide +kernel

end CategoryRegistry

end Lexical
