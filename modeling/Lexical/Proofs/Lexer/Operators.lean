import Lexical.Proofs.Lexer.Failure
import Lexical.Proofs.Lexer.MaximalMunch
import Lexical.Proofs.Lexer.Tiling
import Lexical.Proofs.Pattern.Meaning

/-!
# Tables of operators

Operators are declared as texts, of which some begin like others.  Where all patterns of a state list
their texts (`Rule.ListsWords`), it does not matter how the texts are spread over rules and in which
order they stand: the lexer takes the longest text of any rule that comes next, for the first rule that
lists it (`Lexer.next_longestWord`).

That takes three things together.  A pattern tries its longest texts first, so it does not stop at a
shorter one (`Pattern.matches_iff_longestWord`); each pattern is tied to the start of the text by
itself; and of the matches of several rules the longest one is taken.
-/

namespace Lexical

/-! ## The texts of a pattern -/

namespace Pattern

/-- The texts that a pattern lists. -/
def words : Pattern → List String
  | literal word => [word]
  | literals words => words
  | _ => []

/-- The pattern lists the texts that it matches. -/
def ListsWords : Pattern → Prop
  | literal _ => True
  | literals _ => True
  | _ => False

instance : (pattern : Pattern) → Decidable pattern.ListsWords
  | literal _ | literals _ => .isTrue trivial
  | charClass _ | repetition _ _ _ | regex _ | any => .isFalse id

variable {pattern : Pattern} {text : List Char}

lemma ListsWords.isDirect (h : pattern.ListsWords) : pattern.IsDirect := by
  cases pattern with
  | literal _ | literals _ => trivial
  | charClass _ | repetition _ _ _ | regex _ | any => exact h.elim

lemma mem_wordLengths {word : String} {length : Nat} :
    length ∈ wordLengths word text ↔ word.toList <+: text ∧ word.length = length := by
  rw [wordLengths, List.mem_ite_nil_right, List.isPrefixOf_iff_prefix, List.mem_singleton,
    String.length_toList, eq_comm]

lemma ListsWords.lengths_eq (h : pattern.ListsWords) :
    pattern.lengths text = (byLength pattern.words).flatMap fun word => wordLengths word text := by
  cases pattern with
  | literal word => simp [lengths, words, byLength]
  | literals words => rfl
  | charClass _ | repetition _ _ _ | regex _ | any => exact h.elim

lemma ListsWords.mem_lengths_iff (h : pattern.ListsWords) {length : Nat} :
    length ∈ pattern.lengths text ↔
      ∃ word ∈ pattern.words, word.toList <+: text ∧ word.length = length := by
  rw [h.lengths_eq, List.mem_flatMap]
  simp only [byLength, List.mem_mergeSort, mem_wordLengths]

/-- Of two texts that come next, the one with more bytes is not shorter. -/
lemma length_le_of_utf8ByteSize_le {word other : String} (hword : word.toList <+: text)
    (hother : other.toList <+: text) (h : other.utf8ByteSize ≤ word.utf8ByteSize) :
    -- Lengths of prefixes are ordered like their numbers of bytes.
    other.length ≤ word.length := by
  have hbytes {word : String} (hword : word.toList <+: text) :
      word.utf8ByteSize = bytesOf text word.length := by
    have hsize := Text.utf8ByteSize_ofList word.toList
    rw [String.ofList_toList] at hsize
    rw [bytesOf, hsize, ← String.length_toList, ← List.prefix_iff_eq_take.1 hword]
  by_contra hlt
  have hmore : bytesOf text word.length < bytesOf text other.length :=
    bytesOf_strictMono (Nat.not_le.1 hlt) (String.length_toList ▸ hother.length_le)
  rw [← hbytes hword, ← hbytes hother] at hmore
  omega

/-- The longest texts are tried first. -/
lemma ListsWords.pairwise_lengths (h : pattern.ListsWords) :
    (pattern.lengths text).Pairwise fun first later => later ≤ first := by
  have hsorted := (longestFirst_spec pattern.words).1
  rw [longestFirst_eq_byLength] at hsorted
  rw [h.lengths_eq, List.pairwise_flatMap]
  refine ⟨fun word _ => ?_, hsorted.imp fun hbytes first hfirst later hlater => ?_⟩
  · unfold wordLengths
    split_ifs <;> simp
  · obtain ⟨hword, rfl⟩ := mem_wordLengths.1 hfirst
    obtain ⟨hother, rfl⟩ := mem_wordLengths.1 hlater
    exact length_le_of_utf8ByteSize_le hword hother hbytes

/-- The first of a list in descending order is the greatest. -/
lemma head?_eq_some_iff_of_pairwise {l : List Nat} (h : l.Pairwise fun first later => later ≤ first)
    {n : Nat} : l.head? = some n ↔ n ∈ l ∧ ∀ m ∈ l, m ≤ n := by
  cases l with
  | nil => simp
  | cons first l =>
    have hfirst := (List.pairwise_cons.1 h).1
    rw [List.head?_cons, Option.some.injEq]
    constructor
    · rintro rfl
      exact ⟨List.mem_cons_self, fun m hm => (List.mem_cons.1 hm).elim Nat.le_of_eq (hfirst m)⟩
    · rintro ⟨hmem, hgreatest⟩
      refine Nat.le_antisymm (hgreatest first List.mem_cons_self) ?_
      exact (List.mem_cons.1 hmem).elim Nat.le_of_eq (hfirst n)

/-- **An accepted list of texts matches the longest one that comes next.** -/
theorem matches_iff_longestWord (h : pattern.ListsWords) {kind : String} {source : List Char}
    (hcheck : checkPattern kind pattern = .ok source) {length : Nat} :
    pattern.Matches text length ↔
      (∃ word ∈ pattern.words, word.toList <+: text ∧ word.length = length) ∧
        ∀ word ∈ pattern.words, word.toList <+: text → word.length ≤ length := by
  rw [matches_iff_head?_lengths h.isDirect hcheck, head?_eq_some_iff_of_pairwise h.pairwise_lengths,
    h.mem_lengths_iff]
  refine and_congr_right fun _ => ⟨fun hall word hmem hword => ?_, fun hall m hm => ?_⟩
  · exact hall _ (h.mem_lengths_iff.2 ⟨word, hmem, hword, rfl⟩)
  · obtain ⟨word, hmem, hword, rfl⟩ := h.mem_lengths_iff.1 hm
    exact hall word hmem hword

end Pattern

/-! ## The texts of a state -/

/-- The rule lists the texts that it matches, unless it is a special one. -/
def Rule.ListsWords (rule : Rule) : Prop :=
  ∀ pattern ∈ rule.matching?, pattern.ListsWords

instance (rule : Rule) : Decidable rule.ListsWords :=
  inferInstanceAs (Decidable (∀ pattern ∈ rule.matching?, pattern.ListsWords))

lemma Rule.ListsWords.sourcesValid {rule : Rule} (h : rule.ListsWords) : rule.SourcesValid :=
  fun pattern hpattern => (h pattern hpattern).isDirect.sourcesValid

/-- The rule at a place lists a text that comes next. -/
def Offers (rules : List Rule) (text : List Char) (index : Nat) (word : String) : Prop :=
  ∃ rule pattern, rules[index]? = some rule ∧ rule.matching? = some pattern ∧
    word ∈ pattern.words ∧ word.toList <+: text

/-- The longest of the texts that come next, and the first rule that lists it. -/
structure LongestWord (rules : List Rule) (text : List Char) (index : Nat) (word : String) :
    Prop where
  offers : Offers rules text index word
  longest : ∀ other word', Offers rules text other word' → word'.length ≤ word.length
  earliest : ∀ other, Offers rules text other word → index ≤ other

section Table

variable {names : List String} {closure : String → CategorySet} {declaration : Declaration}
  {table : StateTable names.length} {text : List Char}

/-- What a rule matches is one of its texts. -/
lemma StateTable.Implements.exists_offers (h : table.Implements closure declaration)
    (hwords : ∀ rule ∈ declaration.2, rule.ListsWords) {index length : Nat}
    (hmatch : MatchesAt declaration.2 text index length) :
    ∃ word, Offers declaration.2 text index word ∧ word.length = length := by
  obtain ⟨rule, hrule, pattern, hpattern, hmatches⟩ := hmatch
  have hmem := List.mem_of_getElem? hrule
  have hcheck := h.checkPattern_eq_ok hmem hpattern
  obtain ⟨⟨word, hword, hnext, hlength⟩, -⟩ :=
    (Pattern.matches_iff_longestWord (hwords rule hmem pattern hpattern) hcheck).1 hmatches
  exact ⟨word, ⟨rule, pattern, hrule, hpattern, hword, hnext⟩, hlength⟩

/-- A rule that offers a text has a match that is at least as long. -/
lemma StateTable.Implements.exists_matchesAt (h : table.Implements closure declaration)
    (hwords : ∀ rule ∈ declaration.2, rule.ListsWords) {index : Nat} {word : String}
    (hoffers : Offers declaration.2 text index word) :
    ∃ length, MatchesAt declaration.2 text index length ∧ word.length ≤ length := by
  obtain ⟨rule, pattern, hrule, hpattern, hword, hnext⟩ := hoffers
  have hlists := hwords rule (List.mem_of_getElem? hrule) pattern hpattern
  have hcheck := h.checkPattern_eq_ok (List.mem_of_getElem? hrule) hpattern
  have hmem : word.length ∈ pattern.lengths text :=
    hlists.mem_lengths_iff.2 ⟨word, hword, hnext, rfl⟩
  obtain ⟨length, others, hlengths⟩ := List.exists_cons_of_ne_nil (List.ne_nil_of_mem hmem)
  have hhead : (pattern.lengths text).head? = some length := by
    rw [hlengths]
    rfl
  refine ⟨length, ⟨rule, hrule, pattern, hpattern, ?_⟩, ?_⟩
  · exact (Pattern.matches_iff_head?_lengths hlists.isDirect hcheck).2 hhead
  · exact ((Pattern.head?_eq_some_iff_of_pairwise hlists.pairwise_lengths).1 hhead).2 _ hmem

/-- The rule and the length that a state of listed texts selects are those of the longest text. -/
lemma StateTable.Implements.exists_longestWord (h : table.Implements closure declaration)
    (hwords : ∀ rule ∈ declaration.2, rule.ListsWords) {index length : Nat}
    (hmatch : MatchesAt declaration.2 text index length)
    (hlongest : ∀ other length', MatchesAt declaration.2 text other length' →
      bytesOf text length' ≤ bytesOf text length)
    (hearliest : ∀ other length', MatchesAt declaration.2 text other length' →
      bytesOf text length' = bytesOf text length → index ≤ other) :
    ∃ word, LongestWord declaration.2 text index word ∧ word.length = length := by
  obtain ⟨word, hoffers, hlength⟩ := h.exists_offers hwords hmatch
  -- Fewer bytes are fewer characters only within the text, to which a match is confined.
  have hle {other length' : Nat} (hother : MatchesAt declaration.2 text other length') :
      length' ≤ length := by
    by_contra hlt
    have hbound : length' ≤ text.length := by
      obtain ⟨rule, -, hmatches⟩ := hother
      exact hmatches.le_length
    have hmore := bytesOf_strictMono (Nat.not_le.1 hlt) hbound
    have hless := hlongest other length' hother
    omega
  refine ⟨word, ⟨hoffers, fun other word' hother => ?_, fun other hother => ?_⟩, hlength⟩
  · obtain ⟨length', hmatch', hword'⟩ := h.exists_matchesAt hwords hother
    have hbound := hle hmatch'
    omega
  · obtain ⟨length', hmatch', hword'⟩ := h.exists_matchesAt hwords hother
    have hbound := hle hmatch'
    obtain rfl : length' = length := by omega
    exact hearliest other length' hmatch' rfl

end Table

/-! ## What a lexer takes -/

lemma matching?_eq_none_of_isFallback {rule : Rule} (h : rule.isFallback = true) :
    rule.matching? = none := by
  simp [Rule.matching?, h]

lemma matching?_eq_none_of_isCatchAll {rule : Rule} (h : rule.isCatchAll = true) :
    rule.matching? = none := by
  simp [Rule.matching?, h]

namespace Lexer

variable {lexicon : Lexicon} {declared : List Declaration} {categories : CategoryRegistry}
  {options : LexerOptions}

/-- **The longest operator is taken**, of all that the rules of a state list, for the first rule that
lists it.  Only where none of them comes next, no pattern applies: it is left to a special rule, and
where there is none to an error. -/
theorem next_longestWord (hcompiled : Lexicon.ofStates declared categories options = .ok lexicon)
    {lexer : Lexer lexicon} (hahead : lexer.ahead ≠ []) {rules : List Rule}
    (hrules : (lexer.currentState, rules) ∈ declared) (hwords : ∀ rule ∈ rules, rule.ListsWords) :
    (∃ index word rule entry, LongestWord rules lexer.ahead index word
        ∧ rules[index]? = some rule
        ∧ entry.Implements Pattern.Anchors lexicon.closure lexer.currentState rule
        ∧ lexer.BeginsWith entry word.length) ∨
      (∀ index word, ¬ Offers rules lexer.ahead index word) ∧
        ((∃ rule ∈ rules, ∃ entry length, rule.matching? = none
            ∧ entry.Implements Pattern.Anchors lexicon.closure lexer.currentState rule
            ∧ lexer.BeginsWith entry length) ∨
          lexer.next =
            ⟨[], .error (.noMatch lexer.position lexer.currentState lexer.ahead.head?), lexer⟩) := by
  -- A listed text is escaped, so that the source of each rule is valid and the selection is the
  -- one that the declared rules determine.
  have htable : lexer.table.Implements lexicon.closure (lexer.currentState, rules) :=
    (Lexicon.implements_of_ofStates hcompiled).of_mem hrules
  have hvalid : ∀ rule ∈ rules, rule.SourcesValid := fun rule hrule => (hwords rule hrule).sourcesValid
  obtain ⟨selected, hselects, htake⟩ := take_selects_of_implements htable hvalid hahead
  -- A text on offer would be matched by the rule that lists it.
  have hnothing (hunmatched : ∀ other length', ¬ MatchesAt rules lexer.ahead other length')
      (index : Nat) (word : String) : ¬ Offers rules lexer.ahead index word := by
    intro hoffers
    obtain ⟨length, hmatch, -⟩ := htable.exists_matchesAt hwords hoffers
    exact hunmatched index length hmatch
  -- A special rule is found by its kind, and has no pattern.
  have hspecial {p : Rule → Bool} {index length : Nat} (hfirst : rules.findIdx? p = some index)
      (hnone : ∀ rule, p rule = true → rule.matching? = none) (htake : ∃ rule entry,
        rules[index]? = some rule
          ∧ entry.Implements Pattern.Anchors lexicon.closure lexer.currentState rule
          ∧ lexer.take = (lexer.takeMatch entry length).map some) :
      ∃ rule ∈ rules, ∃ entry length, rule.matching? = none
        ∧ entry.Implements Pattern.Anchors lexicon.closure lexer.currentState rule
        ∧ lexer.BeginsWith entry length := by
    obtain ⟨rule, entry, hrule, hentry, htake⟩ := htake
    obtain ⟨hbound, hp, -⟩ := List.findIdx?_eq_some_iff_getElem.1 hfirst
    obtain ⟨_, rfl⟩ := List.getElem?_eq_some_iff.1 hrule
    exact ⟨_, List.getElem_mem hbound, entry, length, hnone _ hp, hentry, beginsWith_of_take htake⟩
  -- What the table selects is longest and earliest among matches, which the listed words turn
  -- into longest and earliest among words.
  cases hselects with
  | pattern matchesAt longest earliest =>
    obtain ⟨rule, entry, hrule, hentry, htake⟩ := htake
    obtain ⟨word, hword, rfl⟩ := htable.exists_longestWord hwords matchesAt longest earliest
    exact .inl ⟨_, word, rule, entry, hword, hrule, hentry, beginsWith_of_take htake⟩
  | fallback length unmatched first =>
    exact .inr ⟨hnothing unmatched,
      .inl (hspecial first (fun _ => matching?_eq_none_of_isFallback) htake)⟩
  | catchAll unmatched no_fallback first =>
    exact .inr ⟨hnothing unmatched,
      .inl (hspecial first (fun _ => matching?_eq_none_of_isCatchAll) htake)⟩
  | nothing unmatched no_fallback no_catchAll =>
    exact .inr ⟨hnothing unmatched, .inr (next_of_take_error htake)⟩

/-- Angle brackets, single and doubled, one of them in two rules. -/
def angleRules : List Rule :=
  [.ofPattern "angle" (.literals ["<", "<<"]), .ofPattern "assign" (.literals ["<<=", "<="]),
    .literal "shift" "<<="]

def angleLexicon : Lexicon :=
  (Lexicon.ofStates [("code", angleRules)] .empty .standard).toOption.get (by decide +kernel)

def angleLexer : Lexer angleLexicon :=
  (initial angleLexicon).reset "<<=<".toList none

/-- The longest bracket is listed by two rules, of which the first one is not the first of all. -/
theorem next_longestWord_angleLexer :
    Lexicon.ofStates [("code", angleRules)] .empty .standard = .ok angleLexicon ∧
      angleLexer.ahead ≠ [] ∧ (angleLexer.currentState, angleRules) ∈ [("code", angleRules)] ∧
      (∀ rule ∈ angleRules, rule.ListsWords) ∧
      (angleLexer.next.taken.map fun m => (m.entry.kind, m.text)) = [("assign", ['<', '<', '='])] ∧
      ((∃ index word rule entry, LongestWord angleRules angleLexer.ahead index word
          ∧ angleRules[index]? = some rule
          ∧ entry.Implements Pattern.Anchors angleLexicon.closure angleLexer.currentState rule
          ∧ angleLexer.BeginsWith entry word.length) ∨
        (∀ index word, ¬ Offers angleRules angleLexer.ahead index word) ∧
          ((∃ rule ∈ angleRules, ∃ entry length, rule.matching? = none
              ∧ entry.Implements Pattern.Anchors angleLexicon.closure angleLexer.currentState rule
              ∧ angleLexer.BeginsWith entry length) ∨
            angleLexer.next = ⟨[], .error (.noMatch angleLexer.position angleLexer.currentState
              angleLexer.ahead.head?), angleLexer⟩)) := by
  have hcompiled : Lexicon.ofStates [("code", angleRules)] .empty .standard = .ok angleLexicon :=
    eq_ok_get_toOption _
  have hahead : angleLexer.ahead ≠ [] := by decide
  have hrules : (angleLexer.currentState, angleRules) ∈ [("code", angleRules)] := by
    have hstate : angleLexer.currentState = "code" := by decide +kernel
    rw [hstate]
    exact List.mem_singleton_self _
  have hwords : ∀ rule ∈ angleRules, rule.ListsWords := by decide
  have htaken : (angleLexer.next.taken.map fun m => (m.entry.kind, m.text)) =
      [("assign", ['<', '<', '='])] := by
    decide +kernel
  exact ⟨hcompiled, hahead, hrules, hwords, htaken,
    next_longestWord hcompiled hahead hrules hwords⟩

end Lexer

end Lexical
