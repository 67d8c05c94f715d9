import Lexical.Config.Json
import Lexical.Proofs.Json.Spelling
import Mathlib.Data.List.Nodup

/-!
# Records, lists and maps in JSON

What is written as a list, a map or a record comes back from it.  A list comes back if its items do
(`list?_map`), and a map with its entries in order, whether names stand in it once or more often
(`entries?_map`).  A record leaves out fields that are missing, and each field comes back under its
own name or as missing (`fields?_given`).
-/

namespace Lexical.Json

/-! ## Lists and maps -/

section Items

variable {α : Type} {read : Json → Option α} {write : α → Json}

lemma list?_map {items : List α} (h : ∀ a ∈ items, read (write a) = some a) :
    (Json.array (items.map write)).list? read = some items := by
  unfold list?
  induction items with
  | nil => rfl
  | cons a items ih =>
    have ha := h a List.mem_cons_self
    have hitems := ih fun b hb => h b (List.mem_cons_of_mem a hb)
    simp [ha, hitems]

lemma entries?_map (write : α → Json) {entries : List (String × α)}
    (h : ∀ entry ∈ entries, read (write entry.2) = some entry.2) :
    (record (entries.map fun (name, a) => (name, write a))).entries? read = some entries := by
  simp only [record, entries?, List.map_map]
  induction entries with
  | nil => rfl
  | cons entry entries ih =>
    have hentry := h entry List.mem_cons_self
    have hentries := ih fun other hother => h other (List.mem_cons_of_mem entry hother)
    rw [List.map_cons, List.mapM_cons, hentries]
    simp [hentry]

/-- A value that may be missing comes back as a field. -/
lemma orElse?_optional? {a : Option α}
    (h : ∀ b ∈ a, read (write b) = some b ∧ write b ≠ null) :
    orElse? none (·.optional? read) (a.map write) = some a := by
  cases a with
  | none => rfl
  | some a =>
    obtain ⟨hread, hnull⟩ := h a rfl
    simp [orElse?, optional?, hread]

/-- A list that is left out where it is empty comes back. -/
lemma orElse?_nil {items : List α} {readAll : Json → Option (List α)} {json : Json}
    (h : readAll json = some items) :
    orElse? [] readAll (if !items.isEmpty then some json else none) = some items := by
  cases items with
  | nil => rfl
  | cons a items => exact h

end Items

lemma list?_text (texts : List String) : (Json.array (texts.map text)).list? text? = some texts :=
  list?_map fun _ _ => rfl

lemma orElse?_text (text : Option String) :
    orElse? none (·.optional? text?) (text.map Json.text) = some text :=
  orElse?_optional? fun _ _ => ⟨rfl, by simp [Json.text]⟩

/-! ## Records -/

/-- The fields that are there, with their names. -/
def given (fields : List (String × Option Json)) : List (String × Json) :=
  fields.filterMap fun (name, value) => value.map (name, ·)

@[simp] lemma given_nil : given [] = [] := rfl

@[simp] lemma given_cons (name : String) (value : Option Json) (fields : List (String × Option Json)) :
    given ((name, value) :: fields) = value.toList.map (name, ·) ++ given fields := by
  cases value <;> rfl

lemma sublist_map_given (fields : List (String × Option Json)) :
    ((given fields).map (·.1)).Sublist (fields.map (·.1)) := by
  induction fields with
  | nil => exact .slnil
  | cons field fields ih =>
    obtain ⟨name, _ | value⟩ := field
    · exact .cons name ih
    · exact .cons_cons name ih

lemma lookup_given_eq_none {fields : List (String × Option Json)} {name : String}
    (h : name ∉ fields.map (·.1)) : (given fields).lookup name = none := by
  refine List.lookup_eq_none_iff.2 fun field hfield => ?_
  have hmem := (sublist_map_given fields).subset (List.mem_map_of_mem hfield)
  simpa using fun heq : name = field.1 => h (heq ▸ hmem)

lemma lookup_given_cons (name : String) (value : Option Json)
    (fields : List (String × Option Json)) (other : String) :
    (given ((name, value) :: fields)).lookup other =
      if other = name then value.or ((given fields).lookup other)
      else (given fields).lookup other := by
  cases value with
  | none => simp
  | some value =>
    split_ifs with h
    · simp [h]
    · have hne : (other == name) = false := by simp [h]
      simp [List.lookup_cons, hne]

/-- The induction is on the fields; as their names differ, no field hides one behind it. -/
lemma map_lookup_given {fields : List (String × Option Json)} (hnodup : (fields.map (·.1)).Nodup) :
    (fields.map (·.1)).map (fun name => (given fields).lookup name) = fields.map (·.2) := by
  induction fields with
  | nil => rfl
  | cons field fields ih =>
    obtain ⟨name, value⟩ := field
    obtain ⟨hnew, hrest⟩ := List.nodup_cons.1 hnodup
    have hfirst : (given ((name, value) :: fields)).lookup name = value := by
      rw [lookup_given_cons, if_pos rfl, lookup_given_eq_none hnew, Option.or_none]
    have hothers : ∀ other ∈ fields.map (·.1),
        (given ((name, value) :: fields)).lookup other = (given fields).lookup other := by
      intro other hother
      rw [lookup_given_cons, if_neg (by rintro rfl; exact hnew hother)]
    rw [List.map_cons, List.map_cons, hfirst, List.map_congr_left hothers, ih hrest]
    rfl

/-- All names of a record are texts. -/
lemma mapM_named (fields : List (String × Json)) :
    (fields.map fun field => ((some field.1, field.2) : Json.Text × Json)).mapM
      (fun field => field.1.bind fun name => some (name, field.2)) = some fields := by
  induction fields with
  | nil => rfl
  | cons field fields ih => simp [ih]

/-- **The fields of a record come back**, each under its name and those that are missing as missing. -/
lemma fields?_given (fields : List (String × Option Json)) (hnodup : (fields.map (·.1)).Nodup)
    (closed : Bool) :
    (record (given fields)).fields? (fields.map (·.1)) closed = some (fields.map (·.2)) := by
  have hsublist := sublist_map_given fields
  have hknown : ((given fields).map (·.1)).any (fun name => closed && !(fields.map (·.1)).contains name)
      = false := by
    simp only [List.any_eq_false, Bool.and_eq_true, not_and, Bool.not_eq_true', Bool.not_eq_false,
      List.contains_iff_mem]
    exact fun name hname _ => hsublist.subset hname
  have honce : (fields.map (·.1)).any (fun name => 1 < ((given fields).map (·.1)).count name)
      = false := by
    simp only [List.any_eq_false, decide_eq_true_eq, not_lt]
    exact fun name _ => List.nodup_iff_count_le_one.1 (hnodup.sublist hsublist) name
  simp only [record, fields?, Option.bind_eq_bind, mapM_named, Option.bind_some, hknown, honce,
    Bool.false_eq_true, if_false, map_lookup_given hnodup]

lemma fieldIf_eq_given (present : Bool) (name : String) (value : Json) :
    fieldIf present name value = given [(name, if present then some value else none)] := by
  cases present <;> rfl

lemma fieldOf_eq_given {α : Type} (name : String) (toJson : α → Json) (a : Option α) :
    fieldOf name toJson a = given [(name, a.map toJson)] := by
  cases a <;> rfl

end Lexical.Json
