import Lexical.Proofs.Category.Registry
import Lexical.Proofs.Lexer.Library

/-!
# The categories of tokens

A kind can be tagged with categories in many places: by rules of the kind and by keywords of the kind,
in any state, whether their matches are ignored or not (`Tagged`).  All tags of a kind count for all
its tokens.  So a token is of a category if and only if a tag of its kind is of that category
(`Lexer.next_categories`), and it makes no difference whether the token got its kind from a rule or
from a keyword.  The library lists each kind that can be produced once, with the same categories.
-/

namespace Lexical

/-! ## The tags of a kind -/

/-- The rule tags a kind with a category: its own kind, or that of one of its keywords. -/
def Rule.TagsWith (rule : Rule) (kind : String) (id : CategoryId) : Prop :=
  rule.kind = kind ∧ id ∈ rule.categories ∨
    ∃ keyword ∈ rule.keywords, keyword.kind = kind ∧ id ∈ keyword.categories

/-- Some rule of some state tags a kind with a category. -/
def Tagged (declared : List Declaration) (kind : String) (id : CategoryId) : Prop :=
  ∃ declaration ∈ declared, ∃ rule ∈ declaration.2, rule.TagsWith kind id

variable {declared : List Declaration} {categories : CategoryRegistry} {options : LexerOptions}
  {lexicon : Lexicon} {kind : String} {id ancestor : CategoryId}

lemma Rule.tagsWith_iff {rule : Rule} :
    rule.TagsWith kind id ↔ ∃ tag ∈ rule.tags, tag.1 = kind ∧ id ∈ tag.2 := by
  simp [Rule.TagsWith, Rule.tags]

lemma tagged_iff : Tagged declared kind id ↔ ∃ tag ∈ allTags declared, tag.1 = kind ∧ id ∈ tag.2 := by
  simp only [allTags, List.mem_flatMap]
  constructor
  · rintro ⟨declaration, hdeclaration, rule, hrule, htags⟩
    obtain ⟨tag, htag, hkind⟩ := Rule.tagsWith_iff.1 htags
    exact ⟨tag, ⟨declaration, hdeclaration, rule, hrule, htag⟩, hkind⟩
  · rintro ⟨tag, ⟨declaration, hdeclaration, rule, hrule, htag⟩, hkind⟩
    exact ⟨declaration, hdeclaration, rule, hrule, Rule.tagsWith_iff.2 ⟨tag, htag, hkind⟩⟩

/-- The closure of a kind holds what any tag of the kind is. -/
lemma contains_closureOf : (closureOf categories (allTags declared) kind).contains ancestor = true ↔
    ∃ id, Tagged declared kind id ∧ categories.isA id ancestor = true := by
  rw [closureOf, CategoryRegistry.contains_closure]
  refine exists_congr fun id => and_congr_left fun _ => ?_
  rw [tagged_iff, List.mem_flatMap]
  simp only [List.mem_filter, decide_eq_true_eq, and_assoc]

/-! ## The categories that a lexicon keeps -/

namespace Lexicon

/-- A kind without tags has no categories, so that all kinds are treated alike. -/
lemma closure_eq (h : lexicon.ComposedOf declared categories options) (kind : String) :
    lexicon.closure kind = closureOf categories (allTags declared) kind := by
  have hmem : kind ∈ firstOccurrences ((allTags declared).map (·.1)) ↔
      kind ∈ (allTags declared).map (·.1) := by
    simp [firstOccurrences, Regex.mem_distinct]
  rw [closure, h.closures_eq, lookup_map_pair]
  by_cases hkind : kind ∈ (allTags declared).map (·.1)
  · rw [if_pos (hmem.2 hkind), Option.getD_some]
  -- Only tagged kinds have an entry.  For the others both sides are the empty set.
  · have hnone : (allTags declared).filter (·.1 = kind) = [] := by
      refine List.filter_eq_nil_iff.2 fun tag htag hsame => hkind ?_
      exact List.mem_map.2 ⟨tag, htag, by simpa using hsame⟩
    rw [if_neg (hmem.not.2 hkind), closureOf, hnone]
    rfl

lemma contains_closure_iff (h : lexicon.ComposedOf declared categories options) :
    (lexicon.closure kind).contains ancestor = true ↔
      ∃ id, Tagged declared kind id ∧ categories.isA id ancestor = true := by
  rw [closure_eq h, contains_closureOf]

end Lexicon

/-! ### The library -/

/-- The induction is on the list. -/
lemma nodup_distinct {α : Type} [DecidableEq α] (seen items : List α) :
    (Regex.distinct seen items).Nodup := by
  induction items generalizing seen with
  | nil => exact List.nodup_nil
  | cons a items ih =>
    unfold Regex.distinct
    by_cases hseen : a ∈ seen
    · rw [if_pos hseen]
      exact ih seen
    · rw [if_neg hseen]
      refine List.nodup_cons.2 ⟨fun hmem => ?_, ih (a :: seen)⟩
      exact (Regex.mem_distinct.1 hmem).2 List.mem_cons_self

/-- Tokens of the kind can be produced: by a rule that is not ignored, or by one of its keywords. -/
def Produced (declared : List Declaration) (kind : String) : Prop :=
  ∃ declaration ∈ declared, ∃ rule ∈ declaration.2, rule.isIgnored = false ∧
    (kind = rule.kind ∨ ∃ keyword ∈ rule.keywords, kind = keyword.kind)

namespace Lexicon

lemma map_fst_library (lexicon : Lexicon) : lexicon.library.map (·.1) = lexicon.kinds := by
  simp [library, Function.comp_def]

lemma nodup_library (h : lexicon.ComposedOf declared categories options) :
    (lexicon.library.map (·.1)).Nodup := by
  rw [map_fst_library, h.kinds_eq]
  exact nodup_distinct [] _

lemma mem_library_iff (h : lexicon.ComposedOf declared categories options) :
    kind ∈ lexicon.library.map (·.1) ↔ Produced declared kind := by
  rw [map_fst_library, ← List.contains_iff_mem]
  exact has_iff h

lemma eq_closure_of_mem_library {set : CategorySet} (h : (kind, set) ∈ lexicon.library) :
    set = lexicon.closure kind := by
  obtain ⟨listed, -, hentry⟩ := List.mem_map.1 h
  obtain ⟨rfl, rfl⟩ := Prod.mk.inj hentry
  rfl

end Lexicon

/-! ## Tokens -/

namespace Lexer

/-- **A token is of the categories that the tags of its kind are of**, and of no others, wherever the
tags stand.  The library has one entry for each kind that can be produced, with the same
categories. -/
theorem next_categories (hcompiled : Lexicon.ofStates declared categories options = .ok lexicon) :
    (∀ (lexer : Lexer lexicon) (t : Token), lexer.next.result = .ok (some t) →
      (∀ id, (Target.category id).admits t = true ↔
        ∃ tag, Tagged declared t.kind tag ∧ categories.isA tag id = true) ∧
      ∀ set, (t.kind, set) ∈ lexicon.library → set = t.categories) ∧
    (lexicon.library.map (·.1)).Nodup ∧
    (∀ kind, kind ∈ lexicon.library.map (·.1) ↔ Produced declared kind) ∧
    ∀ kind set, (kind, set) ∈ lexicon.library → ∀ id, set.contains id = true ↔
      ∃ tag, Tagged declared kind tag ∧ categories.isA tag id = true := by
  have hcomposed := Lexicon.composedOf_of_ofStates hcompiled
  refine ⟨fun lexer t ht => ?_, Lexicon.nodup_library hcomposed,
    fun kind => Lexicon.mem_library_iff hcomposed, fun kind set hset id => ?_⟩
  · obtain ⟨-, start, m, -, -, -, -, htake, rfl⟩ := exists_take_of_next ht
    obtain ⟨-, length, htakes⟩ := take_eq_some_iff.1 htake
    obtain ⟨declaration, rule, -, -, hentry⟩ := htakes.exists_rule hcompiled
    have hcategories : m.token.categories = lexicon.closure m.token.kind := by
      apply Match.categories_token
      rw [hentry.categories_eq, hentry.kind_eq]
    refine ⟨fun id => ?_, fun set hset => ?_⟩
    · rw [Target.admits, hcategories, Lexicon.contains_closure_iff hcomposed]
    · rw [hcategories, Lexicon.eq_closure_of_mem_library hset]
  · rw [Lexicon.eq_closure_of_mem_library hset, Lexicon.contains_closure_iff hcomposed]

/-! ### A kind that is tagged in three places -/

/-- A number is a literal, and a literal is a value; a unit stands by itself. -/
def valueCategories : CategoryRegistry :=
  CategoryRegistry.empty.performAll [⟨"value", []⟩, ⟨"literal", [0]⟩, ⟨"number", [1]⟩, ⟨"unit", []⟩]

/-- Names, of which some are numbers, and a state in which numbers are ignored. -/
def numberStates : List Declaration :=
  [("text", [(Rule.regex "name" "[a-z]+").withKeywords [⟨"number", ["one"], [2]⟩, ⟨"name", ["x"], [0]⟩],
      Rule.literal "blank" " "]),
    ("digits", [((Rule.regex "number" "[0-9]+").withCategories [3, 3]).ignore])]

def numberLexicon : Lexicon :=
  (Lexicon.ofStates numberStates valueCategories .standard).toOption.get (by decide +kernel)

def numberLexer : Lexer numberLexicon :=
  (initial numberLexicon).reset "one".toList none

/-- A keyword has the categories of its own tag with their ancestors, and that of the ignored rule. -/
theorem next_categories_numberLexer :
    Lexicon.ofStates numberStates valueCategories .standard = .ok numberLexicon ∧
      (∃ t, numberLexer.next.result = .ok (some t) ∧ t.kind = "number" ∧ t.categories = ⟨[0, 1, 2, 3]⟩ ∧
        ∀ id, (Target.category id).admits t = true ↔
          ∃ tag, Tagged numberStates t.kind tag ∧ valueCategories.isA tag id = true) ∧
      numberLexicon.library =
        [("name", ⟨[0]⟩), ("number", ⟨[0, 1, 2, 3]⟩), ("blank", ⟨[]⟩)] := by
  have hcompiled : Lexicon.ofStates numberStates valueCategories .standard = .ok numberLexicon :=
    eq_ok_get_toOption _
  have hresult : numberLexer.next.result.toOption.join.map (fun t => (t.kind, t.categories))
      = some ("number", ⟨[0, 1, 2, 3]⟩) := by
    decide +kernel
  obtain ⟨t, ht, hread⟩ := exists_token_of_map hresult
  obtain ⟨hkind, hcategories⟩ := Prod.mk.inj hread
  have hlibrary : numberLexicon.library =
      [("name", ⟨[0]⟩), ("number", ⟨[0, 1, 2, 3]⟩), ("blank", ⟨[]⟩)] := by
    decide +kernel
  exact ⟨hcompiled, ⟨t, ht, hkind, hcategories, ((next_categories hcompiled).1 numberLexer t ht).1⟩,
    hlibrary⟩

end Lexer

end Lexical
