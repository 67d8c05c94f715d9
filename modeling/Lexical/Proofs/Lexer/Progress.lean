import Lexical.Proofs.Lexer.Collecting
import Lexical.Proofs.Lexer.Library
import Lexical.Proofs.Regex.Caret
import Lexical.Proofs.Regex.Matching

/-!
# Progress

A lexer that takes some text with every match comes to the end of every text.  That no pattern matches
the empty text is checked when rules are compiled, by the length of the shortest match as far as the
form of the pattern tells.  Where the form tells it, the check is enough (`Lexer.next_progress`): all
matches take text, no call goes on for ever, and there are no more tokens than there are bytes.

The form does not tell it of a pattern that has a part which can match nothing at all, and the check
lets such a pattern pass.  With one of them, a lexer can give tokens without text for ever
(`Lexer.collect_emptyMatches`).
-/

namespace Lexical

open Regex TokenSource

/-- A character takes a byte at least. -/
lemma Text.length_le_byteLength (text : List Char) : text.length ≤ Text.byteLength text := by
  induction text with
  | nil => exact Nat.le_refl 0
  | cons c rest ih =>
    have hpos := c.utf8Size_pos
    rw [List.length_cons, Text.byteLength_cons]
    omega

/-! ## Patterns whose shortest match is known -/

/-- The form of a rule's pattern tells the length of its shortest match. -/
def Rule.Measured (rule : Rule) : Prop :=
  ∀ pattern, rule.matching? = some pattern →
    ∀ e, Expr.ofText? pattern.write = some e → e.minLength? ≠ none

instance (rule : Rule) : Decidable rule.Measured :=
  inferInstanceAs (Decidable (∀ pattern ∈ rule.matching?,
    ∀ e ∈ Expr.ofText? pattern.write, e.minLength? ≠ none))

/-- What is found is a match somewhere in the text. -/
lemma Regex.Expr.exists_matchLength?_of_findFrom? {e : Expr} {text : List Char}
    {before : Option Char} {skipped start length : Nat}
    (h : e.findFrom? before skipped text = some (start, length)) :
    ∃ before' behind, e.matchLength? before' behind = some length := by
  induction text generalizing before skipped with
  | nil =>
    unfold findFrom? at h
    split at h
    · rename_i found hfound
      obtain ⟨-, rfl⟩ := Prod.mk.inj (Option.some.inj h)
      exact ⟨before, [], hfound⟩
    · cases h
  | cons c rest ih =>
    unfold findFrom? at h
    split at h
    · rename_i found hfound
      obtain ⟨-, rfl⟩ := Prod.mk.inj (Option.some.inj h)
      exact ⟨before, c :: rest, hfound⟩
    · split_ifs at h
      exact ih h

/-- **A pattern that has passed the check does not match the empty text**, if its shortest match is
known.  The `^` in front of it cannot make a match shorter. -/
lemma Pattern.Anchors.pos_of_find? {pattern : Pattern} {matcher : Expr}
    (h : pattern.Anchors matcher) {kind : String}
    (hcheck : checkPattern kind pattern = .ok pattern.write)
    (hmeasured : ∀ e, Expr.ofText? pattern.write = some e → e.minLength? ≠ none)
    {text : List Char} {start length : Nat} (hfind : matcher.find? text = some (start, length)) :
    0 < length := by
  obtain ⟨-, e, he, hempty⟩ := exists_of_checkPattern hcheck
  obtain ⟨least, hleast⟩ := Option.ne_none_iff_exists'.1 (hmeasured e he)
  have hpos : 0 < least := by
    refine Nat.pos_of_ne_zero fun hzero => hempty ?_
    rw [hleast, hzero]
  -- The matcher is the pattern behind `^`, so what it covers the pattern covers.
  obtain ⟨before, behind, hmatch⟩ := Expr.exists_matchLength?_of_findFrom? hfind
  have hcovers := Expr.covers_of_covers_caret he h (Expr.covers_of_matchLength? hmatch)
  have hlong := Expr.minLength?_le_of_covers hleast hcovers
  rw [List.length_take] at hlong
  omega

/-! ## What a state takes -/

/-- The next match of a fallback rule does not start where the text does. -/
lemma StateTable.pos_of_nextStart? {n : Nat} {table : StateTable n} {text : List Char} {start : Nat}
    (h : table.nextStart? text = some start) : 0 < start := by
  unfold nextStart? at h
  obtain ⟨scanner, -, h⟩ := Option.bind_eq_some_iff.1 h
  obtain ⟨⟨first, length⟩, hfirst, h⟩ := Option.bind_eq_some_iff.1 h
  simp only at h
  split_ifs at h with hpos
  · exact Option.some.inj h ▸ hpos
  · obtain ⟨⟨second, size⟩, hsecond, h⟩ := Option.bind_eq_some_iff.1 h
    have hle {place start size : Nat}
        (hfound : nextStart?.findAt text scanner place = some (start, size)) : place ≤ start := by
      unfold nextStart?.findAt at hfound
      split_ifs at hfound
      exact Expr.le_of_findFrom? hfound
    simp only at h
    split_ifs at h with hagain
    · obtain ⟨⟨third, size'⟩, hthird, rfl⟩ := Option.map_eq_some_iff.1 h
      have := hle hthird
      show 0 < third
      omega
    · obtain rfl := Option.some.inj h
      have hbehind := hle hsecond
      refine Nat.pos_of_ne_zero fun hzero => hagain ?_
      -- an empty match at the start of the text is what a search from there finds again
      obtain rfl : length = 0 := by omega
      obtain rfl : first = 0 := Nat.eq_zero_of_not_pos hpos
      have hsame : nextStart?.findAt text scanner 0 = scanner.find? text := rfl
      rw [hsame, hfirst] at hsecond
      obtain ⟨-, rfl⟩ := Prod.mk.inj (Option.some.inj hsecond)
      simp [hzero]

namespace StateTable.Implements

variable {names : List String} {closure : String → CategorySet} {declaration : Declaration}
  {table : StateTable names.length} {text : List Char}

lemma pos_of_find? (h : table.Implements closure declaration)
    (hmeasured : ∀ rule ∈ declaration.2, rule.Measured) {entry : Entry names.length Expr}
    (hentry : entry ∈ table.entries) {start length : Nat}
    (hfind : entry.find? text = some (start, length)) : 0 < length := by
  obtain ⟨rule, hrule, himplements⟩ := h.exists_rule hentry
  rcases himplements.trigger_cases with
    ⟨matcher, pattern, htrigger, -, -, hmatching, hcheck, hanchors⟩ | ⟨htrigger, -⟩ | ⟨htrigger, -⟩
  · rw [Entry.find?, htrigger] at hfind
    exact hanchors.pos_of_find? hcheck (hmeasured rule hrule pattern hmatching) hfind
  · rw [Entry.find?, htrigger] at hfind
    cases hfind
  · rw [Entry.find?, htrigger] at hfind
    cases hfind

/-- The longest match takes something. -/
lemma pos_of_longest (h : table.Implements closure declaration)
    (hmeasured : ∀ rule ∈ declaration.2, rule.Measured) {index length : Nat}
    (hlongest : table.matcher.longest text = some (index, length)) : 0 < length := by
  obtain ⟨entry, start, size, hentry, hfind, rfl⟩ := StateTable.exists_find?_of_longest hlongest
  have hpos := h.pos_of_find? hmeasured (List.mem_of_getElem? hentry) hfind
  omega

/-- **A state takes something of every text that has something.** -/
theorem pos_of_choose (h : table.Implements closure declaration)
    (hmeasured : ∀ rule ∈ declaration.2, rule.Measured) (htext : text ≠ [])
    {entry : Entry names.length Expr} {length : Nat}
    (hchosen : table.choose text = some (entry, length)) : 0 < length := by
  have hlength : 0 < text.length := List.length_pos_iff.2 htext
  unfold choose at hchosen
  split at hchosen
  · rename_i index most hlongest
    obtain ⟨_, -, hsame⟩ := Option.map_eq_some_iff.1 hchosen
    obtain ⟨-, rfl⟩ := Prod.mk.inj hsame
    exact h.pos_of_longest hmeasured hlongest
  -- Without a longest match the rest of the text is taken, up to the next match if that is a
  -- fallback's.
  · split at hchosen
    · obtain ⟨-, rfl⟩ := Prod.mk.inj (Option.some.inj hchosen)
      cases hstart : table.nextStart? text with
      | none => exact hlength
      | some start => exact pos_of_nextStart? hstart
    · obtain ⟨_, -, hsame⟩ := Option.map_eq_some_iff.1 hchosen
      obtain ⟨-, rfl⟩ := Prod.mk.inj hsame
      exact hlength

end StateTable.Implements

/-! ## What a lexer takes -/

namespace Lexer

variable {lexicon : Lexicon} {declared : List Declaration} {lexer rest last : Lexer lexicon}
  {m : Match lexicon} {taken : List (Match lexicon)}

section Measured

variable (himplements : lexicon.Implements declared)
  (hmeasured : ∀ declaration ∈ declared, ∀ rule ∈ declaration.2, rule.Measured)

include himplements hmeasured

/-- Each match takes text, and less is left behind it. -/
lemma progress_take (h : lexer.take = .ok (some (m, rest))) :
    m.text ≠ [] ∧ rest.ahead.length < lexer.ahead.length := by
  obtain ⟨hahead, length, htakes⟩ := take_eq_some_iff.1 h
  obtain ⟨rules, hdeclared, htable⟩ := himplements.exists_declaration lexer.stack.top
  have hrules := hmeasured _ (List.mem_of_getElem? hdeclared)
  have hpos := htable.pos_of_choose hrules hahead htakes.chosen
  have hlength : 0 < lexer.ahead.length := List.length_pos_iff.2 hahead
  constructor
  · rw [htakes.text_eq, Ne, ← List.length_eq_zero_iff, List.length_take]
    omega
  · rw [htakes.drop_eq, List.length_drop]
    omega

/-- Matches in a row take as many characters at least.  The induction is on the row. -/
lemma Passes.progress (h : Passes lexer taken last) :
    (∀ m ∈ taken, m.text ≠ []) ∧ taken.length + last.ahead.length ≤ lexer.ahead.length := by
  induction h with
  | nil => simp
  | @cons lexer rest last m others first more ih =>
    obtain ⟨htext, hshorter⟩ := progress_take himplements hmeasured first
    obtain ⟨hothers, hlength⟩ := ih
    refine ⟨List.forall_mem_cons.2 ⟨htext, hothers⟩, ?_⟩
    rw [List.length_cons]
    omega

/-- No call goes on for ever: its patience is more than there is text. -/
lemma not_stalled_next (lexer : Lexer lexicon) : ¬ lexer.next.Stalled := by
  rintro ⟨position, hstalled⟩
  obtain ⟨hpasses, hends⟩ := passes_nextWithin lexer.patience lexer
  have hcount := (hpasses.progress himplements hmeasured).2
  -- A call may take a multiple of one match more than there are characters.
  have hpatience : lexer.ahead.length < lexer.patience := by
    unfold patience
    simp only
    rw [Nat.mul_assoc, Nat.lt_succ_iff]
    refine (Nat.le_succ _).trans (Nat.le_mul_of_pos_right _ ?_)
    exact Nat.mul_pos (Nat.succ_pos _) (Nat.mul_pos (Nat.succ_pos _) (Nat.succ_pos _))
  have hresult : (lexer.nextWithin lexer.patience).result = .error (.stalled position) := hstalled
  generalize lexer.nextWithin lexer.patience = run at hcount hends hresult
  cases hends with
  | token skipped kept => cases hresult
  | nothing skipped atEnd => cases hresult
  | failed skipped failure =>
    obtain rfl := Except.error.inj hresult
    exact take_ne_stalled _ position failure
  | stalled skipped exhausted =>
    simp only at hcount
    omega

/-- A token has text, and less is left behind it. -/
lemma progress_next {t : Token} (h : lexer.next.result = .ok (some t)) :
    t.text ≠ "" ∧ lexer.next.lexer.ahead.length < lexer.ahead.length := by
  obtain ⟨m, hm, -, rfl⟩ := exists_mem_taken_of_next h
  have hpasses : Passes lexer lexer.next.taken lexer.next.lexer := (passes_nextWithin _ lexer).1
  obtain ⟨htexts, hcount⟩ := hpasses.progress himplements hmeasured
  constructor
  · have hne := htexts m hm
    intro hempty
    rw [← Match.text_token, hempty] at hne
    exact hne rfl
  · have hpos := List.length_pos_of_mem hm
    omega

/-- As many calls as there are characters, and one more, come to the end or fail. -/
lemma ended_collect {limit : Nat} (hlimit : lexer.ahead.length < limit) :
    (collect limit lexer).ended = true ∧
      (collect limit lexer).tokens.length ≤ lexer.ahead.length := by
  induction limit generalizing lexer with
  | zero => omega
  | succ limit ih =>
    rw [collect_succ]
    match hresult : lexer.next.result with
    | .error error => exact ⟨rfl, Nat.zero_le _⟩
    | .ok none => exact ⟨rfl, Nat.zero_le _⟩
    | .ok (some t) =>
      obtain ⟨-, hshorter⟩ := progress_next himplements hmeasured hresult
      have hrest : lexer.next.lexer.ahead.length < limit := by omega
      obtain ⟨hended, htokens⟩ := ih hrest
      refine ⟨hended, ?_⟩
      show (collect limit lexer.next.lexer).tokens.length + 1 ≤ lexer.ahead.length
      omega

end Measured

/-- **A lexer makes progress**, if the shortest match of each pattern is known.  Every match takes text,
so a call comes to an end, a token has text, and a text of some bytes has as many tokens at most. -/
theorem next_progress {categories : CategoryRegistry} {options : LexerOptions}
    (hcompiled : Lexicon.ofStates declared categories options = .ok lexicon)
    (hmeasured : ∀ declaration ∈ declared, ∀ rule ∈ declaration.2, rule.Measured)
    (lexer : Lexer lexicon) :
    (∀ m ∈ lexer.next.taken, 1 ≤ Text.byteLength m.text) ∧ ¬ lexer.next.Stalled
      ∧ (∀ t, lexer.next.result = .ok (some t) → t.text ≠ "")
      ∧ ∀ limit > Text.byteLength lexer.ahead, (collect limit lexer).ended = true
        ∧ (collect limit lexer).tokens.length ≤ Text.byteLength lexer.ahead := by
  have himplements := Lexicon.implements_of_ofStates hcompiled
  have hbytes := Text.length_le_byteLength
  refine ⟨fun m hm => ?_, not_stalled_next himplements hmeasured lexer, fun t ht => ?_,
    fun limit hlimit => ?_⟩
  · have hpasses : Passes lexer lexer.next.taken lexer.next.lexer := (passes_nextWithin _ lexer).1
    have hne := (hpasses.progress himplements hmeasured).1 m hm
    exact Nat.le_trans (List.length_pos_iff.2 hne) (hbytes m.text)
  · exact (progress_next himplements hmeasured ht).1
  · have hlong := hbytes lexer.ahead
    obtain ⟨hended, htokens⟩ := ended_collect himplements hmeasured (Nat.lt_of_le_of_lt hlong hlimit)
    exact ⟨hended, Nat.le_trans htokens hlong⟩

/-! ### Words, and a pattern that takes nothing -/

/-- Words with ignored blanks between them. -/
def wordStates : List Declaration :=
  [("text", [.regex "word" "[a-z]+|é", (Rule.regex "blank" " ?[ ]").ignore])]

def wordLexicon : Lexicon :=
  (Lexicon.ofStates wordStates .empty .standard).toOption.get (by decide +kernel)

def wordLexer : Lexer wordLexicon :=
  (initial wordLexicon).reset "  ab é".toList none

/-- Two tokens and two ignored matches are made of seven bytes. -/
theorem next_progress_wordLexer :
    Lexicon.ofStates wordStates .empty .standard = .ok wordLexicon
      ∧ (∀ declaration ∈ wordStates, ∀ rule ∈ declaration.2, rule.Measured)
      ∧ (collect 8 wordLexer).tokens.map Token.text = ["ab", "é"]
      ∧ wordLexer.next.taken.map Match.text = ["  ".toList, "ab".toList]
      ∧ Text.byteLength wordLexer.ahead = 7
      ∧ (∀ m ∈ wordLexer.next.taken, 1 ≤ Text.byteLength m.text) ∧ ¬ wordLexer.next.Stalled
      ∧ (∀ t, wordLexer.next.result = .ok (some t) → t.text ≠ "")
      ∧ ∀ limit > Text.byteLength wordLexer.ahead, (collect limit wordLexer).ended = true
        ∧ (collect limit wordLexer).tokens.length ≤ Text.byteLength wordLexer.ahead := by
  have hcompiled : Lexicon.ofStates wordStates .empty .standard = .ok wordLexicon :=
    eq_ok_get_toOption _
  have hmeasured : ∀ declaration ∈ wordStates, ∀ rule ∈ declaration.2, rule.Measured := by
    decide +kernel
  have htexts : (collect 8 wordLexer).tokens.map Token.text = ["ab", "é"] := by decide +kernel
  have htaken : wordLexer.next.taken.map Match.text = ["  ".toList, "ab".toList] := by
    decide +kernel
  have hbytes : Text.byteLength wordLexer.ahead = 7 := by decide +kernel
  exact ⟨hcompiled, hmeasured, htexts, htaken, hbytes, next_progress hcompiled hmeasured wordLexer⟩

/-- A lexer that comes back to where it was with each token gives that token for ever.  The induction
is on the number of calls. -/
lemma collect_eq_replicate {t : Token} (hresult : lexer.next.result = .ok (some t))
    (hagrees : Agrees lexer.next.lexer lexer) (limit : Nat) :
    (collect limit lexer).tokens = List.replicate limit t ∧ (collect limit lexer).ended = false := by
  induction limit with
  | zero => exact ⟨rfl, rfl⟩
  | succ limit ih =>
    have hrest := hagrees.collect limit
    have hwhole := (collect_of_token hresult limit).trans hrest
    refine ⟨?_, hwhole.ended_eq.trans ih.2⟩
    rw [hwhole.tokens_eq, ih.1]
    rfl

/-- A pattern that matches no character, once or not at all. -/
def nothingStates : List Declaration :=
  [("text", [.regex "nothing" "[^\\s\\S]?"])]

def nothingLexicon : Lexicon :=
  (Lexicon.ofStates nothingStates .empty .standard).toOption.get (by decide +kernel)

def nothingLexer : Lexer nothingLexicon :=
  (initial nothingLexicon).reset "a".toList none

/-- The pattern passes the check, and there is no end of tokens without text. -/
theorem collect_emptyMatches :
    Lexicon.ofStates nothingStates .empty .standard = .ok nothingLexicon
      ∧ ∃ t, t.text = "" ∧ ∀ limit, (collect limit nothingLexer).tokens = List.replicate limit t
        ∧ (collect limit nothingLexer).ended = false := by
  have hcompiled : Lexicon.ofStates nothingStates .empty .standard = .ok nothingLexicon :=
    eq_ok_get_toOption _
  have htext : nothingLexer.next.result.toOption.join.map Token.text = some "" := by decide +kernel
  have hagrees : Agrees nothingLexer.next.lexer nothingLexer := by
    refine ⟨?_, ?_, ?_⟩ <;> decide +kernel
  obtain ⟨t, ht, hempty⟩ := exists_token_of_map htext
  exact ⟨hcompiled, t, hempty, collect_eq_replicate ht hagrees⟩

end Lexer

end Lexical
