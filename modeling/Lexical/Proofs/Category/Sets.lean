import Lexical.Category
import Mathlib.Data.List.Basic

/-!
# Sets of categories

A set of categories lists its ids in ascending order (`CategorySet.Ascending`).  All that makes sets
keeps to this order, and a set in this order is made of its list again (`CategorySet.ofList_ids`).
What is in a set is told by `contains_insert` and `contains_union`, and of the categories with all
their ancestors by `CategoryRegistry.contains_closure`.
-/

namespace Lexical

namespace CategorySet

variable {set other : CategorySet} {id member : CategoryId}

/-! ## What is in a set -/

/-- The induction is on the list. -/
lemma mem_insertId {ids : List CategoryId} :
    member ∈ insertId id ids ↔ member = id ∨ member ∈ ids := by
  induction ids with
  | nil => simp [insertId]
  | cons next rest ih =>
    unfold insertId
    by_cases hlt : id < next
    · simp [hlt]
    · by_cases heq : id = next
      · simp [heq]
      · simp [hlt, heq, ih, or_left_comm]

lemma not_contains_empty (id : CategoryId) : ¬ empty.contains id = true := by
  simp [empty, contains]

lemma contains_insert :
    (set.insert id).contains member = true ↔ member = id ∨ set.contains member = true := by
  simp only [contains, insert, List.contains_iff_mem, mem_insertId]

/-- The induction is on the ids that are inserted. -/
lemma contains_foldl_insert {ids : List CategoryId} :
    (ids.foldl insert set).contains member = true ↔
      set.contains member = true ∨ member ∈ ids := by
  induction ids generalizing set with
  | nil => simp
  | cons first ids ih =>
    rw [List.foldl_cons, ih, contains_insert, List.mem_cons]
    constructor
    · rintro ((rfl | hset) | hids)
      · exact .inr (.inl rfl)
      · exact .inl hset
      · exact .inr (.inr hids)
    · rintro (hset | rfl | hids)
      · exact .inl (.inr hset)
      · exact .inl (.inl rfl)
      · exact .inr hids

lemma contains_union : (set.union other).contains member = true ↔
    set.contains member = true ∨ other.contains member = true := by
  rw [union, contains_foldl_insert, contains, contains, List.contains_iff_mem, List.contains_iff_mem]

/-- The induction is on the sets that are joined. -/
lemma contains_foldl_union {sets : List CategorySet} :
    (sets.foldl union set).contains member = true ↔
      set.contains member = true ∨ ∃ other ∈ sets, other.contains member = true := by
  induction sets generalizing set with
  | nil => simp
  | cons first sets ih =>
    rw [List.foldl_cons, ih, contains_union, or_assoc, List.exists_mem_cons_iff]

/-! ## The order of the ids -/

/-- The ids stand in ascending order, each of them once. -/
def Ascending (set : CategorySet) : Prop :=
  set.ids.Pairwise (· < ·)

instance (set : CategorySet) : Decidable set.Ascending :=
  inferInstanceAs (Decidable (set.ids.Pairwise (· < ·)))

lemma ascending_empty : empty.Ascending :=
  List.Pairwise.nil

/-- The induction is on the list; an id goes in front of the first that is greater. -/
lemma pairwise_insertId {ids : List CategoryId} (h : ids.Pairwise (· < ·)) :
    (insertId id ids).Pairwise (· < ·) := by
  induction ids with
  | nil => exact List.pairwise_singleton _ _
  | cons next rest ih =>
    obtain ⟨hnext, hrest⟩ := List.pairwise_cons.1 h
    unfold insertId
    split_ifs with hlt heq
    · refine List.pairwise_cons.2 ⟨fun member hmember => ?_, h⟩
      rcases List.mem_cons.1 hmember with rfl | hmember
      · exact hlt
      · exact Nat.lt_trans hlt (hnext member hmember)
    · exact h
    · refine List.pairwise_cons.2 ⟨fun member hmember => ?_, ih hrest⟩
      rcases mem_insertId.1 hmember with rfl | hmember
      · exact Nat.lt_of_le_of_ne (Nat.le_of_not_lt hlt) (Ne.symm heq)
      · exact hnext member hmember

lemma Ascending.insert (h : set.Ascending) (id : CategoryId) : (set.insert id).Ascending :=
  pairwise_insertId h

lemma Ascending.foldl_insert (h : set.Ascending) (ids : List CategoryId) :
    (ids.foldl CategorySet.insert set).Ascending := by
  induction ids generalizing set with
  | nil => exact h
  | cons first ids ih => exact ih (h.insert first)

lemma Ascending.foldl_union (h : set.Ascending) (sets : List CategorySet) :
    (sets.foldl union set).Ascending := by
  induction sets generalizing set with
  | nil => exact h
  | cons first sets ih => exact ih (h.foldl_insert first.ids)

/-- An id that is greater than all others goes to the end. -/
lemma insertId_of_forall_lt {ids : List CategoryId} (h : ∀ member ∈ ids, member < id) :
    insertId id ids = ids ++ [id] := by
  induction ids with
  | nil => rfl
  | cons next rest ih =>
    have hnext := h next List.mem_cons_self
    have hrest := ih fun member hmember => h member (List.mem_cons_of_mem next hmember)
    unfold insertId
    rw [if_neg (Nat.lt_asymm hnext), if_neg (Nat.ne_of_gt hnext), hrest, List.cons_append]

/-- The induction is on the ids that are still to be inserted. -/
lemma foldl_insert_eq (before : List CategoryId) {ids : List CategoryId}
    (h : (before ++ ids).Pairwise (· < ·)) :
    ids.foldl CategorySet.insert ⟨before⟩ = ⟨before ++ ids⟩ := by
  induction ids generalizing before with
  | nil => simp
  | cons first ids ih =>
    have hbefore : ∀ member ∈ before, member < first := by
      intro member hmember
      exact (List.pairwise_append.1 h).2.2 member hmember first List.mem_cons_self
    have hsplit : before ++ first :: ids = before ++ [first] ++ ids := by simp
    have hinsert : CategorySet.insert ⟨before⟩ first = ⟨before ++ [first]⟩ :=
      congrArg CategorySet.mk (insertId_of_forall_lt hbefore)
    rw [hsplit] at h ⊢
    rw [List.foldl_cons, hinsert, ih (before ++ [first]) h]

/-- **A set comes back from its list.** -/
lemma ofList_ids (h : set.Ascending) : ofList set.ids = set :=
  foldl_insert_eq [] h

end CategorySet

namespace CategoryRegistry

variable {registry : CategoryRegistry} {ids : List CategoryId} {id ancestor : CategoryId}

lemma isA_iff : registry.isA id ancestor = true ↔
    ∃ set, registry.ancestors? id = some set ∧ set.contains ancestor = true := by
  unfold isA
  cases registry.ancestors? id <;> simp

/-- What is in the closure of some categories is what one of them is. -/
lemma contains_closure : (registry.closure ids).contains ancestor = true ↔
    ∃ id ∈ ids, registry.isA id ancestor = true := by
  rw [closure, CategorySet.contains_foldl_union]
  constructor
  · rintro (hempty | ⟨set, hset, hcontains⟩)
    · exact absurd hempty (CategorySet.not_contains_empty ancestor)
    · obtain ⟨id, hid, hancestors⟩ := List.mem_filterMap.1 hset
      exact ⟨id, hid, isA_iff.2 ⟨set, hancestors, hcontains⟩⟩
  · rintro ⟨id, hid, hisA⟩
    obtain ⟨set, hancestors, hcontains⟩ := isA_iff.1 hisA
    exact .inr ⟨set, List.mem_filterMap.2 ⟨id, hid, hancestors⟩, hcontains⟩

lemma ascending_closure (registry : CategoryRegistry) (ids : List CategoryId) :
    (registry.closure ids).Ascending :=
  CategorySet.ascending_empty.foldl_union _

end CategoryRegistry

end Lexical
