import Lexical.Proofs.Lexicon.Declared
import Lexical.Proofs.Regex.Matching

/-!
# Where the kinds of tokens come from

The kind of a token is that of a rule or of a keyword.  A keyword is looked up in the table that all
rules of one kind share in a state, so it need not be a keyword of the rule that matched
(`Rule.Grants`).  Each state has tables of its own, which compiling the others leaves alone
(`table_of_compileRules`, `table_of_compileStates`).

The kinds that a lexicon lists are those of the rules that are not ignored, and of their own keywords
(`Lexicon.has_iff`).
-/

namespace Lexical

/-! ## Tables of keywords -/

/-- A text is a keyword of the rule, of the given kind. -/
def Rule.Grants (rule : Rule) (text kind : String) : Prop :=
  ∃ keyword ∈ rule.keywords, text ∈ keyword.values ∧ keyword.kind = kind

lemma mem_of_lookup_eq_some {α β : Type} [BEq α] [LawfulBEq α] {a : α} {b : β}
    {entries : List (α × β)} (h : entries.lookup a = some b) : (a, b) ∈ entries := by
  induction entries with
  | nil => cases h
  | cons entry entries ih =>
    obtain ⟨key, value⟩ := entry
    rw [List.lookup_cons] at h
    by_cases hkey : a = key
    · subst hkey
      rw [BEq.rfl] at h
      obtain rfl := Option.some.inj h
      exact List.mem_cons_self
    · rw [beq_false_of_ne hkey] at h
      exact List.mem_cons_of_mem _ (ih h)

/-- Looking up in a list of keys with what a function makes of them. -/
lemma lookup_map_pair {α β : Type} [DecidableEq α] (f : α → β) (keys : List α) (key : α) :
    (keys.map fun key => (key, f key)).lookup key = if key ∈ keys then some (f key) else none := by
  induction keys with
  | nil => rfl
  | cons first keys ih =>
    rw [List.map_cons, List.lookup_cons, ih]
    by_cases hkey : key = first
    · simp [hkey]
    · simp [hkey, beq_false_of_ne hkey]

lemma lookup_filter_ne {β : Type} {key other : Nat × String} (h : other ≠ key)
    (entries : List ((Nat × String) × β)) :
    (entries.filter (·.1 ≠ key)).lookup other = entries.lookup other := by
  induction entries with
  | nil => rfl
  | cons entry entries ih =>
    by_cases hkey : entry.1 = key
    · have hother : (other == entry.1) = false := beq_false_of_ne (hkey ▸ h)
      rw [List.filter_cons_of_neg (by simpa using hkey), ih, List.lookup_cons, hother]
    · rw [List.filter_cons_of_pos (by simpa using hkey), List.lookup_cons, List.lookup_cons, ih]

namespace KeywordTable

lemma mem_claims_of_lookup {table : KeywordTable} {text keyword : String}
    (h : table.lookup text = some keyword) :
    (text, keyword) ∈ table.claims :=
  mem_of_lookup_eq_some h

end KeywordTable

namespace KeywordDispatcher

variable {dispatcher : KeywordDispatcher} {state other : Nat} {kind kind' : String}

lemma table_setTable (table : KeywordTable) :
    (dispatcher.setTable state kind table).table other kind' =
      if other = state ∧ kind' = kind then table else dispatcher.table other kind' := by
  unfold setTable KeywordDispatcher.table
  rw [List.lookup_cons]
  by_cases hkey : (other, kind') = (state, kind)
  · obtain ⟨rfl, rfl⟩ := Prod.mk.inj hkey
    rw [BEq.rfl, if_pos ⟨rfl, rfl⟩]
    rfl
  · have hne : ¬ (other = state ∧ kind' = kind) := by
      rintro ⟨rfl, rfl⟩
      exact hkey rfl
    rw [beq_false_of_ne hkey, if_neg hne, lookup_filter_ne hkey]

/-- Registering a rule's keywords leaves the tables of other states alone. -/
lemma table_register_of_ne (dispatcher : KeywordDispatcher) (kind : String) (keywords : List Keyword)
    (hother : other ≠ state) (kind' : String) :
    (dispatcher.register state kind keywords).1.table other kind' = dispatcher.table other kind' := by
  have htable : (dispatcher.register state kind keywords).1 =
      dispatcher.setTable state kind ((dispatcher.table state kind).insertAll keywords).1 := rfl
  rw [htable, table_setTable, if_neg fun h => hother h.1]

end KeywordDispatcher

/-! ## Compiling -/

section Compiling

variable [Regex.Engine] {names : List String} {closure : String → CategorySet} {index other : Nat}
  {keywords keywords' : KeywordDispatcher}

/-- Rules leave the tables of other states alone.  The induction is on the rules. -/
lemma table_of_compileRules {state : String} {rules : List Rule}
    {before entries : List (Entry names.length (List Char))}
    (h : compileRules names closure index state before keywords rules = .ok (entries, keywords'))
    (hother : other ≠ index) (kind : String) :
    keywords'.table other kind = keywords.table other kind := by
  induction rules generalizing before keywords with
  | nil =>
    obtain ⟨-, rfl⟩ := Prod.mk.inj (Except.ok.inj h)
    rfl
  | cons rule rules ih =>
    obtain ⟨entry, registered, -, hregistered, h⟩ := compileRules_cons_eq_ok h
    have hregister := keywords.table_register_of_ne rule.kind rule.keywords hother kind
    rw [hregistered] at hregister
    exact (ih h).trans hregister

/-- States leave the tables of those before them alone.  The induction is on the states. -/
lemma table_of_compileStates {declared : List Declaration}
    {tables : { tables : List (StateTable names.length) // tables.length = declared.length }}
    (h : compileStates names closure index keywords declared = .ok (tables, keywords'))
    (hother : other < index) (kind : String) :
    keywords'.table other kind = keywords.table other kind := by
  induction declared generalizing index keywords with
  | nil =>
    obtain ⟨-, rfl⟩ := Prod.mk.inj (Except.ok.inj h)
    rfl
  | cons declaration rest ih =>
    obtain ⟨name, rules⟩ := declaration
    obtain ⟨-, entries, registered, table, tables', hentries, -, htables, -⟩ :=
      compileStates_cons_eq_ok h
    have hlater : keywords'.table other kind = registered.table other kind :=
      ih htables (Nat.lt_succ_of_lt hother)
    exact hlater.trans (table_of_compileRules hentries (Nat.ne_of_lt hother) kind)

end Compiling

namespace Lexicon

variable {lexicon : Lexicon} {declared : List Declaration} {categories : CategoryRegistry}
  {options : LexerOptions} {kind text keyword : String}

/-! ## The kinds that are listed -/

/-- A lexicon lists the kinds of the rules that are not ignored, and of their keywords. -/
lemma has_iff (h : lexicon.ComposedOf declared categories options) :
    lexicon.has kind = true ↔ ∃ declaration ∈ declared, ∃ rule ∈ declaration.2,
      rule.isIgnored = false ∧ (kind = rule.kind ∨ ∃ k ∈ rule.keywords, kind = k.kind) := by
  rw [has, h.kinds_eq, List.contains_iff_mem, producedKinds, firstOccurrences, Regex.mem_distinct]
  simp only [List.mem_flatMap, List.mem_filter, List.mem_map, Rule.tags, List.mem_cons,
    Bool.not_eq_true', List.not_mem_nil, not_false_eq_true, and_true]
  constructor
  · rintro ⟨declaration, hdeclaration, rule, ⟨hrule, hignored⟩, tag, htag | hkeyword, rfl⟩
    · exact ⟨declaration, hdeclaration, rule, hrule, hignored, .inl (by rw [htag])⟩
    · obtain ⟨k, hk, rfl⟩ := hkeyword
      exact ⟨declaration, hdeclaration, rule, hrule, hignored, .inr ⟨k, hk, rfl⟩⟩
  · rintro ⟨declaration, hdeclaration, rule, hrule, hignored, rfl | ⟨k, hk, rfl⟩⟩
    · exact ⟨declaration, hdeclaration, rule, ⟨hrule, hignored⟩, _, .inl rfl, rfl⟩
    · exact ⟨declaration, hdeclaration, rule, ⟨hrule, hignored⟩, _, .inr ⟨k, hk, rfl⟩, rfl⟩

/-- The library gives each kind that is listed its categories. -/
lemma lookup_library (hhas : lexicon.has kind = true) :
    lexicon.library.lookup kind = some (lexicon.closure kind) := by
  rw [library, lookup_map_pair, if_pos (List.contains_iff_mem.1 hhas)]

end Lexicon

end Lexical
