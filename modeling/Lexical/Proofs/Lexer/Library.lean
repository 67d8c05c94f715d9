import Lexical.Proofs.Lexer.Take
import Lexical.Proofs.Lexicon.Dispatch

/-!
# What a lexicon says of its tokens

A lexicon lists the kinds of its tokens with their categories (`Lexicon.library`).  A token's
categories are always those of its kind (`Match.categories_token`), and its kind is listed where rules
with keywords that share a kind in a state are all ignored, or none of them is
(`Lexer.next_library`).

Without that condition it fails: a rule that is not ignored finds the keywords of one that is, and
the kinds of these are not listed (`Lexer.next_unlistedKeyword`).
-/

namespace Lexical

/-! ## The kind of a match -/

namespace Match

variable {lexicon : Lexicon} {m : Match lexicon}

lemma kind_token (m : Match lexicon) : m.token.kind = m.keyword?.getD m.entry.kind := by
  unfold token
  cases m.keyword? <;> rfl

/-- **The categories of a token are those of its kind.** -/
theorem categories_token (hentry : m.entry.categories = lexicon.closure m.entry.kind) :
    m.token.categories = lexicon.closure m.token.kind := by
  unfold token
  cases m.keyword? with
  | none => exact hentry
  | some keyword => rfl

end Match

namespace Lexer

variable {lexicon : Lexicon} {declared : List Declaration} {categories : CategoryRegistry}
  {options : LexerOptions}

/-- A token is that of a match that the call takes. -/
lemma exists_mem_taken_of_next {lexer : Lexer lexicon} {t : Token}
    (ht : lexer.next.result = .ok (some t)) :
    ∃ m ∈ lexer.next.taken, m.entry.isIgnored = false ∧ m.token = t := by
  obtain ⟨skipped, start, m, htaken, -, -, hkept, -, htoken⟩ := exists_take_of_next ht
  refine ⟨m, ?_, hkept, htoken⟩
  rw [htaken]
  exact List.mem_append_right _ List.mem_cons_self

/-- The rule that a match is of, and the declaration of the state in which it was found. -/
lemma Takes.exists_rule (hcompiled : Lexicon.ofStates declared categories options = .ok lexicon)
    {lexer rest : Lexer lexicon} {length : Nat} {m : Match lexicon}
    (h : lexer.Takes length m rest) :
    ∃ declaration rule, declared[m.state.val]? = some declaration ∧ rule ∈ declaration.2 ∧
      m.entry.Implements Pattern.Anchors lexicon.closure declaration.1 rule := by
  obtain ⟨rules, hdeclared, htable⟩ :=
    (Lexicon.implements_of_ofStates hcompiled).exists_declaration lexer.stack.top
  obtain ⟨rule, hrule, hentry⟩ :=
    htable.exists_rule (StateTable.mem_entries_of_choose h.chosen)
  rw [← h.state_eq] at hdeclared
  exact ⟨_, rule, hdeclared, hrule, h.state_eq ▸ hentry⟩

/-! ## Tokens and the library -/

/-- Where rules with keywords share a kind in a state, all of them are ignored, or none. -/
def KeywordsAgree (declared : List Declaration) : Prop :=
  ∀ declaration ∈ declared, ∀ rule ∈ declaration.2, ∀ other ∈ declaration.2,
    rule.kind = other.kind → rule.keywords ≠ [] → other.keywords ≠ [] →
      rule.isIgnored = other.isIgnored

instance (declared : List Declaration) : Decidable (KeywordsAgree declared) :=
  inferInstanceAs (Decidable (∀ declaration ∈ declared, ∀ rule ∈ declaration.2,
    ∀ other ∈ declaration.2, rule.kind = other.kind → rule.keywords ≠ [] → other.keywords ≠ [] →
      rule.isIgnored = other.isIgnored))

/-- **The library knows every token**, where rules that share keywords agree on being ignored.  The
kind of a token is listed, and with just the categories that the token has. -/
theorem next_library (hcompiled : Lexicon.ofStates declared categories options = .ok lexicon)
    (hagree : KeywordsAgree declared) (lexer : Lexer lexicon) {t : Token}
    (ht : lexer.next.result = .ok (some t)) :
    lexicon.has t.kind = true ∧ lexicon.library.lookup t.kind = some t.categories := by
  have hcomposed := Lexicon.composedOf_of_ofStates hcompiled
  obtain ⟨m, hm, hkept, rfl⟩ := exists_mem_taken_of_next ht
  obtain ⟨-, start, -, rest, -, htake, -⟩ := (passes_nextWithin _ lexer).1.exists_take hm
  obtain ⟨-, length, htakes⟩ := take_eq_some_iff.1 htake
  obtain ⟨declaration, rule, hdeclaration, hrule, hentry⟩ := htakes.exists_rule hcompiled
  have hmem : declaration ∈ declared := List.mem_of_getElem? hdeclaration
  have hnotIgnored : rule.isIgnored = false := by rw [← hentry.isIgnored_eq, hkept]
  have hhas : lexicon.has m.token.kind = true := by
    rw [Lexicon.has_iff hcomposed, Match.kind_token]
    cases hkeyword : m.keyword? with
    | none =>
      have hkind : m.entry.kind = rule.kind := hentry.kind_eq
      exact ⟨declaration, hmem, rule, hrule, hnotIgnored, .inl hkind⟩
    | some keyword =>
      unfold Match.keyword? at hkeyword
      split_ifs at hkeyword with hhasKeywords
      -- The keyword may come from another rule of the kind, as these share a table.  That rule is
      -- not ignored either, so its keywords are listed.
      obtain ⟨granter, hgranter, hkind, k, hk, -, rfl⟩ :=
        Lexicon.exists_grants_of_resolve hcomposed hdeclaration hkeyword
      have hown : rule.keywords ≠ [] := by
        rw [hentry.hasKeywords_eq] at hhasKeywords
        simpa using hhasKeywords
      have hsame : granter.kind = rule.kind := by rw [hkind, hentry.kind_eq]
      have hignored := hagree declaration hmem granter hgranter rule hrule hsame
        (List.ne_nil_of_mem hk) hown
      rw [hnotIgnored] at hignored
      exact ⟨declaration, hmem, granter, hgranter, hignored, .inr ⟨k, hk, rfl⟩⟩
  have hcategories : m.entry.categories = lexicon.closure m.entry.kind := by
    rw [hentry.categories_eq, hentry.kind_eq]
  rw [Match.categories_token hcategories]
  exact ⟨hhas, Lexicon.lookup_library hhas⟩

/-! ### Keywords of names, and of names that are ignored -/

/-- Names in small letters with a keyword of their own, and such in capitals with another one. -/
def nameStates (capitals : Rule → Rule) : List Declaration :=
  [("text", [(Rule.regex "name" "[a-z]+").withKeywords [⟨"while", ["while"], []⟩],
    capitals ((Rule.regex "name" "[A-Z]+").withKeywords [⟨"if", ["if"], []⟩])])]

def nameLexicon : Lexicon :=
  (Lexicon.ofStates (nameStates id) .empty .standard).toOption.get (by decide +kernel)

def nameLexer : Lexer nameLexicon :=
  (initial nameLexicon).reset "if".toList none

/-- A result with a token that reads in the given way. -/
lemma exists_token_of_map {α : Type} {result : Except LexerError (Option Token)} {read : Token → α}
    {a : α} (h : result.toOption.join.map read = some a) :
    ∃ t, result = .ok (some t) ∧ read t = a := by
  cases result with
  | error error => cases h
  | ok found =>
    cases found with
    | none => cases h
    | some t => exact ⟨t, rfl, Option.some.inj h⟩

/-- Names in small letters find the keyword of those in capitals. -/
theorem next_library_nameLexer :
    Lexicon.ofStates (nameStates id) .empty .standard = .ok nameLexicon ∧
      KeywordsAgree (nameStates id) ∧
      ∃ t, nameLexer.next.result = .ok (some t) ∧ t.kind = "if" ∧
        nameLexicon.has t.kind = true ∧
        nameLexicon.library.lookup t.kind = some t.categories := by
  have hcompiled : Lexicon.ofStates (nameStates id) .empty .standard = .ok nameLexicon :=
    eq_ok_get_toOption _
  have hagree : KeywordsAgree (nameStates id) := by decide
  have hresult : nameLexer.next.result.toOption.join.map Token.kind = some "if" := by
    decide +kernel
  obtain ⟨t, ht, hkind⟩ := exists_token_of_map hresult
  exact ⟨hcompiled, hagree, t, ht, hkind, next_library hcompiled hagree nameLexer ht⟩

def ignoringLexicon : Lexicon :=
  (Lexicon.ofStates (nameStates Rule.ignore) .empty .standard).toOption.get (by decide +kernel)

def ignoringLexer : Lexer ignoringLexicon :=
  (initial ignoringLexicon).reset "if".toList none

/-- Where the names in capitals are ignored, their keyword is not listed, but it is still found. -/
theorem next_unlistedKeyword :
    Lexicon.ofStates (nameStates Rule.ignore) .empty .standard = .ok ignoringLexicon ∧
      ∃ t, ignoringLexer.next.result = .ok (some t) ∧ t.kind = "if" ∧
        ignoringLexicon.has t.kind = false ∧ ignoringLexicon.library.lookup t.kind = none := by
  have hcompiled :
      Lexicon.ofStates (nameStates Rule.ignore) .empty .standard = .ok ignoringLexicon :=
    eq_ok_get_toOption _
  have hresult : ignoringLexer.next.result.toOption.join.map Token.kind = some "if" := by
    decide +kernel
  have hhas : ignoringLexicon.has "if" = false := by decide +kernel
  have hlookup : ignoringLexicon.library.lookup "if" = none := by decide +kernel
  obtain ⟨t, ht, hkind⟩ := exists_token_of_map hresult
  refine ⟨hcompiled, t, ht, hkind, ?_, ?_⟩
  · rw [hkind]
    exact hhas
  · rw [hkind]
    exact hlookup

end Lexer

end Lexical
