import Lexical.Proofs.Lexicon.Selection
import Lexical.Proofs.Pattern.Joined
import Lexical.Proofs.Regex.Matching

/-!
# How far a fallback rule goes

Where no rule of a state matches, its fallback rule takes the text up to the next match.  The state
looks for that with one expression, made of the texts of all its patterns.  This file says where the
search ends in terms of the rules: at the first place at which one of them matches, or at the end of
the text (`StateTable.Implements.endsGap`).

The rules are to be without conditions on places.  A rule with one may match where the text is cut off
and not where the search passes, as the search knows what stands before.
-/

namespace Lexical

open Regex

/-! ## Rules that match -/

/-- No condition on a place stands in the pattern of a rule. -/
def Rule.LookFree (rule : Rule) : Prop :=
  ∀ pattern, rule.matching? = some pattern → ∀ e, pattern.expr? = some e → e.LookFree

instance (rule : Rule) : Decidable rule.LookFree :=
  inferInstanceAs (Decidable (∀ pattern ∈ rule.matching?, ∀ e ∈ pattern.expr?, e.LookFree))

/-- Some rule matches at the start of a text. -/
def Hit (rules : List Rule) (text : List Char) : Prop :=
  ∃ index length, MatchesAt rules text index length

lemma Rule.matches_iff {rule : Rule} {text : List Char} {length : Nat} :
    rule.Matches text length ↔ ∃ pattern e, rule.matching? = some pattern ∧
      pattern.expr? = some e ∧ e.matchLength? none text = some length := by
  simp only [Rule.Matches, Pattern.Matches, Expr.find?_eq_some_zero_iff, exists_and_left]

lemma mem_patternsOf {rules : List Rule} {pattern : Pattern} :
    pattern ∈ patternsOf rules ↔ ∃ rule ∈ rules, rule.matching? = some pattern :=
  List.mem_filterMap

lemma hit_iff {rules : List Rule} {text : List Char} :
    Hit rules text ↔ ∃ pattern ∈ patternsOf rules, ∃ e, pattern.expr? = some e ∧
      (e.matchLength? none text).isSome = true := by
  constructor
  · rintro ⟨index, length, rule, hrule, hmatches⟩
    obtain ⟨pattern, e, hmatching, he, hlength⟩ := Rule.matches_iff.1 hmatches
    have hmem := mem_patternsOf.2 ⟨rule, List.mem_of_getElem? hrule, hmatching⟩
    exact ⟨pattern, hmem, e, he, by rw [hlength]; rfl⟩
  · rintro ⟨pattern, hmem, e, he, hsome⟩
    obtain ⟨rule, hrule, hmatching⟩ := mem_patternsOf.1 hmem
    obtain ⟨index, hindex⟩ := List.mem_iff_getElem?.1 hrule
    obtain ⟨length, hlength⟩ := Option.isSome_iff_exists.1 hsome
    exact ⟨index, length, rule, hindex, Rule.matches_iff.2 ⟨pattern, e, hmatching, he, hlength⟩⟩

/-! ## Searching for a match -/

/-- A gap of the given length: nothing is hit inside it, and something is hit where it ends, unless
that is the end of the text. -/
structure EndsGap (hit : List Char → Prop) (text : List Char) (length : Nat) : Prop where
  le_length : length ≤ text.length
  inside : ∀ place < length, ¬ hit (text.drop place)
  hit_at : length < text.length → hit (text.drop length)

section EndsGap

variable {hit : List Char → Prop} {text : List Char} {length length' : Nat}

lemma EndsGap.not_lt (h : EndsGap hit text length) (h' : EndsGap hit text length') :
    ¬ length < length' := by
  intro hless
  have hshort : length < text.length := Nat.lt_of_lt_of_le hless h'.le_length
  exact h'.inside length hless (h.hit_at hshort)

/-- A gap has one end. -/
lemma EndsGap.unique (h : EndsGap hit text length) (h' : EndsGap hit text length') :
    length = length' := by
  have hless := h.not_lt h'
  have hless' := h'.not_lt h
  omega

lemma endsGap_zero (h : hit text) : EndsGap hit text 0 :=
  ⟨Nat.zero_le _, by simp, fun _ => h⟩

/-- One more character is inside the gap. -/
lemma EndsGap.cons {c : Char} (h : EndsGap hit text length) (hc : ¬ hit (c :: text)) :
    EndsGap hit (c :: text) (length + 1) := by
  refine ⟨Nat.succ_le_succ h.le_length, fun place hplace => ?_, fun hshort => ?_⟩
  · cases place with
    | zero => exact hc
    | succ place => exact h.inside place (Nat.lt_of_succ_lt_succ hplace)
  · exact h.hit_at (Nat.lt_of_succ_lt_succ hshort)

/-- Where nothing is hit at all, the gap is the whole text. -/
lemma endsGap_length (h : ∀ text, ¬ hit text) : EndsGap hit text text.length :=
  ⟨Nat.le_refl _, fun _ _ => h _, fun hless => absurd hless (Nat.lt_irrefl _)⟩

end EndsGap

namespace Regex.Expr

/-- What is tied to the start of the text covers nothing behind a character. -/
lemma not_covers_of_isAnchored {e : Expr} (h : e.isAnchored = true) {c : Char}
    {word rest : List Char} : ¬ e.Covers (some c) word rest := by
  induction e generalizing word rest with
  | empty => cases h
  | lit text => cases h
  | set chars => cases h
  | look condition =>
    cases condition with
    | textStart =>
      rintro ⟨-, hholds⟩
      cases hholds
    | _ => cases h
  | rep body min max greedy ih =>
    simp only [isAnchored, Bool.and_eq_true, decide_eq_true_eq] at h
    rintro ⟨count, hmin, -, hrounds⟩
    -- At least one round is made, and the first round is tied to the start already.
    obtain ⟨others, rfl⟩ := Nat.exists_eq_succ_of_ne_zero (Nat.lt_of_lt_of_le h.1 hmin).ne'
    obtain ⟨first, second, rfl, hfirst, -⟩ := hrounds
    exact ih h.2 hfirst
  | capture body ih => exact ih h
  | seq first second ihfirst ihsecond =>
    rintro ⟨start, behind, rfl, hstart, -⟩
    exact ihfirst h hstart
  | alt first second ihfirst ihsecond =>
    simp only [isAnchored, Bool.and_eq_true] at h
    rintro (hfirst | hsecond)
    · exact ihfirst h.1 hfirst
    · exact ihsecond h.2 hsecond

section Search

variable {e : Expr} {hit : List Char → Prop}

/-- The place of the first match, seen from where the search starts, or the end of the text. -/
def gapFrom (e : Expr) (before : Option Char) (skipped : Nat) (text : List Char) : Nat :=
  ((e.findFrom? before skipped text).map fun found => found.1 - skipped).getD text.length

/-- **A search ends where something is hit for the first time**, if whether an expression matches is a
matter of the text behind the place alone.  The induction is on that text. -/
theorem endsGap_gapFrom
    (hhit : ∀ before text, (e.matchLength? before text).isSome = true ↔ hit text)
    (before : Option Char) (skipped : Nat) (text : List Char) :
    EndsGap hit text (e.gapFrom before skipped text) := by
  induction text generalizing before skipped with
  | nil =>
    unfold gapFrom findFrom?
    split
    · rename_i length hlength
      have hhere : hit [] := (hhit before []).1 (by rw [hlength]; rfl)
      simpa using endsGap_zero hhere
    · exact ⟨Nat.le_refl _, by simp, by simp⟩
  | cons c rest ih =>
    unfold gapFrom findFrom?
    cases hmatch : e.matchLength? before (c :: rest) with
    | some length =>
      have hhere : hit (c :: rest) := (hhit before (c :: rest)).1 (by rw [hmatch]; rfl)
      simpa using endsGap_zero hhere
    | none =>
      have hnot : ¬ hit (c :: rest) := by
        rw [← hhit before, hmatch]
        exact Bool.false_ne_true
      by_cases hanchored : e.isAnchored = true
      -- The search gives up here.  That misses nothing, as nothing is covered behind a character.
      · have hnever : ∀ text, ¬ hit text := by
          intro text htext
          obtain ⟨word, rest, -, hcovers⟩ :=
            isSome_matchLength?_iff.1 ((hhit (some c) text).2 htext)
          exact not_covers_of_isAnchored hanchored hcovers
        have hall : EndsGap hit (c :: rest) (c :: rest).length := endsGap_length hnever
        simpa [hanchored] using hall
      -- A found place counts from the start of the whole search, and a gap from where it begins.
      · have hrest := (ih (some c) (skipped + 1)).cons hnot
        simp only [hanchored]
        unfold gapFrom at hrest
        cases hfound : e.findFrom? (some c) (skipped + 1) rest with
        | none => simpa [hfound] using hrest
        | some found =>
          have hbehind : skipped + 1 ≤ found.1 := le_of_findFrom? hfound
          have hplace : found.1 - (skipped + 1) + 1 = found.1 - skipped := by omega
          simpa [hfound, hplace] using hrest

end Search

end Regex.Expr

/-! ## The scanner of a state -/

/-- Where the first match is not at the start of the text, it is the next one. -/
lemma StateTable.nextStart?_eq {n : Nat} {table : StateTable n} {scanner : Expr} {text : List Char}
    (hscanner : table.scanner = some scanner)
    (hpos : ∀ found, scanner.find? text = some found → 0 < found.1) :
    table.nextStart? text = (scanner.find? text).map (·.1) := by
  unfold nextStart?
  rw [hscanner]
  cases hfound : scanner.find? text with
  | none => simp [hfound]
  | some found => simp [hfound, hpos found hfound]

namespace StateTable.Implements

variable {names : List String} {closure : String → CategorySet} {declaration : Declaration}
  {table : StateTable names.length} {text : List Char}

/-- The texts of all patterns have passed the check. -/
lemma isSome_ofText? (h : table.Implements closure declaration) {pattern : Pattern}
    (hpattern : pattern ∈ patternsOf declaration.2) :
    (Expr.ofText? pattern.write).isSome = true := by
  obtain ⟨rule, hrule, hmatching⟩ := mem_patternsOf.1 hpattern
  obtain ⟨-, e, he, -⟩ := exists_of_checkPattern (h.checkPattern_eq_ok hrule hmatching)
  rw [he]
  rfl

/-- **The scanner of a state matches where one of the rules does.** -/
theorem isSome_matchLength?_scanner (h : table.Implements closure declaration)
    (hvalid : ∀ rule ∈ declaration.2, rule.SourcesValid)
    (hlook : ∀ rule ∈ declaration.2, rule.LookFree) {scanner : Expr}
    (hscanner : table.scanner = some scanner) (before : Option Char) (text : List Char) :
    (scanner.matchLength? before text).isSome = true ↔ Hit declaration.2 text := by
  have hscans := h.scanner
  unfold Scans at hscans
  split_ifs at hscans with hnone
  · rw [hscanner] at hscans
    cases hscans
  · obtain ⟨joined, hjoined, htext⟩ := hscans
    obtain rfl := Option.some.inj (hscanner.symm.trans hjoined)
    have hpatterns : patternsOf declaration.2 ≠ [] := fun hempty => hnone (.inl hempty)
    have hvalid' : ∀ pattern ∈ patternsOf declaration.2, pattern.SourcesValid := by
      intro pattern hpattern
      obtain ⟨rule, hrule, hmatching⟩ := mem_patternsOf.1 hpattern
      exact hvalid rule hrule pattern hmatching
    have hcovers (word rest : List Char) : scanner.Covers before word rest ↔
        ∃ pattern ∈ patternsOf declaration.2, ∃ e, pattern.expr? = some e ∧
          e.Covers none word rest := by
      rw [Pattern.covers_writeBranches hpatterns hvalid' (fun _ => h.isSome_ofText?) htext]
      refine exists_congr fun pattern => and_congr_right fun hpattern => ?_
      refine exists_congr fun e => and_congr_right fun he => ?_
      -- Conditions on places are excluded, so it does not matter that the search knows what
      -- stands before.
      obtain ⟨rule, hrule, hmatching⟩ := mem_patternsOf.1 hpattern
      exact (hlook rule hrule pattern hmatching e he).covers_iff
    rw [hit_iff]
    simp only [Expr.isSome_matchLength?_iff, hcovers]
    constructor
    · rintro ⟨word, rest, htext, pattern, hpattern, e, he, hword⟩
      exact ⟨pattern, hpattern, e, he, word, rest, htext, hword⟩
    · rintro ⟨pattern, hpattern, e, he, word, rest, htext, hword⟩
      exact ⟨word, rest, htext, pattern, hpattern, e, he, hword⟩

lemma any_isFallback (h : table.Implements closure declaration)
    {entry : Entry names.length Expr} (hfallback : table.fallback? = some entry) :
    declaration.2.any (·.isFallback) = true := by
  have hentry : entry ∈ table.entries := List.mem_of_find?_eq_some hfallback
  have htrigger : entry.trigger.isFallback = true := by
    simpa using List.find?_some hfallback
  obtain ⟨rule, hrule, himplements⟩ := h.exists_rule hentry
  rw [himplements.trigger.isFallback_eq] at htrigger
  exact List.any_eq_true.2 ⟨rule, hrule, htrigger⟩

/-- **A fallback rule takes the text up to the first place where a rule matches.** -/
theorem endsGap (h : table.Implements closure declaration)
    (hvalid : ∀ rule ∈ declaration.2, rule.SourcesValid)
    (hlook : ∀ rule ∈ declaration.2, rule.LookFree) {entry : Entry names.length Expr}
    (hfallback : table.fallback? = some entry) (hunmatched : ¬ Hit declaration.2 text) :
    EndsGap (Hit declaration.2) text ((table.nextStart? text).getD text.length) := by
  cases hscanner : table.scanner with
  | none =>
    have hnever : ∀ text, ¬ Hit declaration.2 text := by
      -- With a fallback rule, a scanner is missing only where no rule has a pattern.
      intro text htext
      have hscans := h.scanner
      unfold Scans at hscans
      split_ifs at hscans with hnone
      · rcases hnone with hempty | hnone
        · obtain ⟨pattern, hpattern, -⟩ := hit_iff.1 htext
          rw [hempty] at hpattern
          cases hpattern
        · rw [h.any_isFallback hfallback] at hnone
          cases hnone
      · obtain ⟨e, he, -⟩ := hscans
        rw [hscanner] at he
        cases he
    have hstart : table.nextStart? text = none := by
      simp [nextStart?, hscanner]
    rw [hstart]
    exact endsGap_length hnever
  | some scanner =>
    have hgap := Expr.endsGap_gapFrom
      (h.isSome_matchLength?_scanner hvalid hlook hscanner) none 0 text
    have hpos : ∀ found, scanner.find? text = some found → 0 < found.1 := by
      rintro ⟨start, length⟩ hfound
      -- A match right at the start would be a hit of the state, and there is none.
      refine Nat.pos_of_ne_zero fun hzero => hunmatched ?_
      obtain rfl : start = 0 := hzero
      have hmatch := Expr.find?_eq_some_zero_iff.1 hfound
      exact (h.isSome_matchLength?_scanner hvalid hlook hscanner none text).1 (by rw [hmatch]; rfl)
    have hstart : (table.nextStart? text).getD text.length = scanner.gapFrom none 0 text := by
      rw [nextStart?_eq hscanner hpos]
      rfl
    rw [hstart]
    exact hgap

end StateTable.Implements

end Lexical
