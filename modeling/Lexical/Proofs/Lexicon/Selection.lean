import Lexical.Proofs.Pattern.Anchored

/-!
# What a state selects

`Selects` says which rule of a state applies to a text, in terms of the rules as they are declared
and of what their patterns match by themselves: the longest match, the first rule with one as long,
and a special rule only where there is no match.  Rules are known by their place among all rules of
the state, special ones included.

`StateTable.choose` selects just that (`StateTable.Implements.choose_selects`), though it numbers
patterns and rules apart, and matches expressions with a `^` in front.
-/

namespace Lexical

/-! ## Selecting a rule -/

/-- The pattern of a rule matches at the start of a text.  Special rules match nothing. -/
def Rule.Matches (rule : Rule) (text : List Char) (length : Nat) : Prop :=
  ∃ pattern, rule.matching? = some pattern ∧ pattern.Matches text length

/-- The rule at a place matches at the start of a text. -/
def MatchesAt (rules : List Rule) (text : List Char) (index length : Nat) : Prop :=
  ∃ rule, rules[index]? = some rule ∧ rule.Matches text length

/-- The number of bytes of the first characters of a text. -/
def bytesOf (text : List Char) (length : Nat) : Nat :=
  Text.byteLength (text.take length)

/-- The place of the rule that applies to a text, and the number of characters that it takes.  How
far a fallback rule goes is left open here. -/
inductive Selects (rules : List Rule) (text : List Char) : Option (Nat × Nat) → Prop
  | pattern {index length : Nat} (matchesAt : MatchesAt rules text index length)
      (longest : ∀ other length', MatchesAt rules text other length' →
        bytesOf text length' ≤ bytesOf text length)
      (earliest : ∀ other length', MatchesAt rules text other length' →
        bytesOf text length' = bytesOf text length → index ≤ other) :
      Selects rules text (some (index, length))
  | fallback {index : Nat} (length : Nat)
      (unmatched : ∀ other length', ¬ MatchesAt rules text other length')
      (first : rules.findIdx? (·.isFallback) = some index) :
      Selects rules text (some (index, length))
  | catchAll {index : Nat}
      (unmatched : ∀ other length', ¬ MatchesAt rules text other length')
      (no_fallback : rules.findIdx? (·.isFallback) = none)
      (first : rules.findIdx? Rule.isCatchAll = some index) :
      Selects rules text (some (index, text.length))
  | nothing (unmatched : ∀ other length', ¬ MatchesAt rules text other length')
      (no_fallback : rules.findIdx? (·.isFallback) = none)
      (no_catchAll : rules.findIdx? Rule.isCatchAll = none) :
      Selects rules text none

/-! ## Rules and their entries -/

/-- The match of an entry's pattern, if it has one. -/
def Entry.find? {n : Nat} (entry : Entry n Regex.Expr) (text : List Char) : Option (Nat × Nat) :=
  entry.trigger.pattern?.bind fun matcher => matcher.find? text

section Entries

variable {names : List String} {closure : String → CategorySet} {state : String} {rule : Rule}
  {entry : Entry names.length Regex.Expr} {text : List Char}

lemma Rule.Matches.le_length {length : Nat} (h : rule.Matches text length) :
    length ≤ text.length := by
  obtain ⟨pattern, -, hmatches⟩ := h
  exact hmatches.le_length

lemma Rule.Matches.unique {length length' : Nat} (h : rule.Matches text length)
    (h' : rule.Matches text length') : length = length' := by
  obtain ⟨pattern, hpattern, hmatches⟩ := h
  obtain ⟨pattern', hpattern', hmatches'⟩ := h'
  obtain rfl := Option.some.inj (hpattern.symm.trans hpattern')
  exact hmatches.unique hmatches'

/-- The pattern of a rule is made of regular expressions that are well-formed by themselves. -/
def Rule.SourcesValid (rule : Rule) : Prop :=
  ∀ pattern, rule.matching? = some pattern → pattern.SourcesValid

instance (rule : Rule) : Decidable rule.SourcesValid :=
  inferInstanceAs (Decidable (∀ pattern ∈ rule.matching?, pattern.SourcesValid))

namespace Entry.Implements

/-- The three roles that a rule can have in its state. -/
lemma trigger_cases (h : entry.Implements Pattern.Anchors closure state rule) :
    (∃ matcher pattern, entry.trigger = .pattern matcher ∧ rule.isFallback = false
        ∧ rule.isCatchAll = false ∧ rule.matching? = some pattern
        ∧ checkPattern rule.kind pattern = .ok pattern.write ∧ pattern.Anchors matcher)
      ∨ (entry.trigger = .fallback ∧ rule.isFallback = true ∧ rule.matching? = none)
      ∨ (entry.trigger = .catchAll ∧ rule.isFallback = false ∧ rule.isCatchAll = true
        ∧ rule.matching? = none) := by
  have htrigger := h.trigger
  cases ht : entry.trigger with
  | pattern matcher =>
    rw [ht] at htrigger
    obtain ⟨pattern, hmatching, hcheck, hanchors⟩ := htrigger
    have hroles := hmatching
    unfold Rule.matching? at hroles
    split_ifs at hroles with hspecial
    simp only [Bool.or_eq_true, not_or, Bool.not_eq_true] at hspecial
    exact .inl ⟨matcher, pattern, rfl, hspecial.1, hspecial.2, hmatching, hcheck, hanchors⟩
  | fallback =>
    rw [ht] at htrigger
    have hfallback : rule.isFallback = true := htrigger
    exact .inr (.inl ⟨rfl, hfallback, by simp [Rule.matching?, hfallback]⟩)
  | catchAll =>
    rw [ht] at htrigger
    exact .inr (.inr ⟨rfl, htrigger.1, htrigger.2, by simp [Rule.matching?, htrigger.2]⟩)

/-- An entry takes all the rest if its rule does, and is no fallback. -/
lemma isCatchAll_eq (h : entry.Implements Pattern.Anchors closure state rule)
    (hfallback : rule.isFallback = false) : entry.trigger.isCatchAll = rule.isCatchAll := by
  rcases h.trigger_cases with ⟨matcher, pattern, ht, -, hcatch, -⟩ | ⟨-, hfallback', -⟩ |
    ⟨ht, -, hcatch, -⟩
  · rw [ht, hcatch]
    rfl
  · rw [hfallback] at hfallback'
    cases hfallback'
  · rw [ht, hcatch]
    rfl

/-- The matcher of an entry finds the matches of its rule. -/
lemma find?_iff (h : entry.Implements Pattern.Anchors closure state rule)
    (hvalid : rule.SourcesValid) {start length : Nat} :
    entry.find? text = some (start, length)
      ↔ start = 0 ∧ rule.Matches text length := by
  -- A special rule has no pattern, and so no match either.
  have hnone (hmatching : rule.matching? = none) : ¬ rule.Matches text length := by
    rintro ⟨pattern, hsome, -⟩
    rw [hmatching] at hsome
    cases hsome
  rcases h.trigger_cases with ⟨matcher, pattern, ht, -, -, hmatching, hcheck, hanchors⟩ |
    ⟨ht, -, hmatching⟩ | ⟨ht, -, -, hmatching⟩
  · have hfind : matcher.find? text = some (start, length)
        ↔ start = 0 ∧ pattern.Matches text length :=
      hanchors.find?_eq (hvalid pattern hmatching) hcheck
    simpa [Entry.find?, ht, Trigger.pattern?, Rule.Matches, hmatching] using hfind
  · simp [Entry.find?, ht, Trigger.pattern?, hnone hmatching]
  · simp [Entry.find?, ht, Trigger.pattern?, hnone hmatching]

end Entry.Implements

end Entries

/-! ## The longest match -/

/-- The better of the best match so far and the match that was found, if any, for a rule. -/
def better (best : Option (Nat × Nat)) (rule : Nat) (found : Option (Nat × Nat)) :
    Option (Nat × Nat) :=
  match found, best with
  | none, _ => best
  | some (start, length), none => some (rule, start + length)
  | some (start, length), some (_, most) =>
    if most < start + length then some (rule, start + length) else best

lemma foldl_range_eq {α β : Type} {f : β → α → β} {g : β → Nat → β} {as : List α}
    (h : ∀ b index a, as[index]? = some a → g b index = f b a) (b : β) :
    (List.range as.length).foldl g b = as.foldl f b := by
  induction as generalizing g b with
  | nil => rfl
  | cons a as ih =>
    rw [List.length_cons, List.range_succ_eq_map, List.foldl_cons, List.foldl_map, List.foldl_cons,
      h b 0 a rfl]
    exact ih (fun b index a' ha' => h b (index + 1) a' ha') _

/-- The set of the patterns that match only spares the others a second try. -/
lemma longest_eq_foldl (patterns : List (Regex.Expr × Nat)) (text : List Char) :
    (StateMatcher.mk (patterns.map (·.1)) (patterns.map (·.2))).longest text
      = patterns.foldl (fun best p => better best p.2 (p.1.find? text)) none := by
  -- Patterns that do not match change nothing, so that filtering them out makes no difference.
  unfold StateMatcher.longest StateMatcher.matching
  rw [List.foldl_filter, List.length_map]
  refine foldl_range_eq (fun best index p hp => ?_) none
  simp only [StateMatcher.longest.better, StateMatcher.find?, List.getElem?_map, hp,
    Option.map_some, Option.bind_some]
  cases p.1.find? text with
  | none => rfl
  | some found => cases best <;> rfl

/-- The numbers of the patterns and the places of their rules lead to the same as the entries with
their places. -/
lemma StateTable.longest_matcher {n : Nat} (table : StateTable n) (text : List Char) :
    table.matcher.longest text
      = table.entries.zipIdx.foldl (fun best p => better best p.2 (p.1.find? text)) none := by
  unfold StateTable.matcher
  simp only
  rw [longest_eq_foldl, List.foldl_filterMap]
  congr 1
  funext best p
  unfold Entry.find?
  cases p.1.trigger.pattern? with
  | none => cases best <;> rfl
  | some matcher => rfl

/-- A better match is the best so far, or the one that was found. -/
lemma eq_or_found_of_better {best found : Option (Nat × Nat)} {rule : Nat} {result : Nat × Nat}
    (h : better best rule found = some result) :
    best = some result ∨ ∃ start length, found = some (start, length)
      ∧ result = (rule, start + length) := by
  cases found with
  | none => exact .inl h
  | some hit =>
    obtain ⟨start, length⟩ := hit
    cases best with
    | none => exact .inr ⟨start, length, rfl, (Option.some.inj h).symm⟩
    | some longest =>
      unfold better at h
      simp only at h
      split_ifs at h
      · exact .inr ⟨start, length, rfl, (Option.some.inj h).symm⟩
      · exact .inl h

/-- The longest match was found for the entry at its place.  The induction is on the entries that are
tried. -/
lemma StateTable.exists_find?_of_longest {n : Nat} {table : StateTable n} {text : List Char}
    {result : Nat × Nat} (h : table.matcher.longest text = some result) :
    ∃ entry start length, table.entries[result.1]? = some entry
      ∧ entry.find? text = some (start, length) ∧ result.2 = start + length := by
  -- The result is the best so far, or that of one of the entries tried behind it.
  have hfold (tried : List (Entry n Regex.Expr × Nat)) (best : Option (Nat × Nat))
      (hresult : tried.foldl (fun best p => better best p.2 (p.1.find? text)) best = some result) :
      best = some result ∨ ∃ p ∈ tried, p.2 = result.1 ∧ ∃ start length,
        p.1.find? text = some (start, length) ∧ result.2 = start + length := by
    induction tried generalizing best with
    | nil => exact .inl hresult
    | cons p tried ih =>
      rcases ih _ hresult with hbetter | ⟨q, hq, hfound⟩
      · rcases eq_or_found_of_better hbetter with hbest | ⟨start, length, hfound, rfl⟩
        · exact .inl hbest
        · exact .inr ⟨p, List.mem_cons_self, rfl, start, length, hfound, rfl⟩
      · exact .inr ⟨q, List.mem_cons_of_mem _ hq, hfound⟩
  rw [longest_matcher] at h
  rcases hfold _ none h with hnone | ⟨p, hp, hplace, start, length, hfound, hlength⟩
  · cases hnone
  · rw [← hplace]
    exact ⟨p.1, start, length, List.mem_zipIdx_iff_getElem?.1 hp, hfound, hlength⟩

section Longest

variable {names : List String} {closure : String → CategorySet} {state : String}
  {rules : List Rule} {rule : Rule} {entry : Entry names.length Regex.Expr} {text : List Char}
  {best : Option (Nat × Nat)}

lemma matchesAt_append_singleton {index length : Nat} :
    MatchesAt (rules ++ [rule]) text index length
      ↔ MatchesAt rules text index length ∨ index = rules.length ∧ rule.Matches text length := by
  unfold MatchesAt
  rcases lt_trichotomy index rules.length with hlt | rfl | hgt
  · simp [List.getElem?_append_left hlt, hlt.ne]
  · simp
  · have hnone : rules[index]? = none := List.getElem?_eq_none hgt.le
    have hnone' : (rules ++ [rule])[index]? = none := List.getElem?_eq_none (by simp; omega)
    simp [hnone, hnone', hgt.ne']

/-- The best match of some rules: there is none, or it is the longest one, of the first rule among
those. -/
inductive Best (rules : List Rule) (text : List Char) : Option (Nat × Nat) → Prop
  | nothing (unmatched : ∀ index length, ¬ MatchesAt rules text index length) :
      Best rules text none
  | found {index length : Nat} (matchesAt : MatchesAt rules text index length)
      (best : ∀ other length', MatchesAt rules text other length' →
        length' < length ∨ length' = length ∧ index ≤ other) :
      Best rules text (some (index, length))

/-- There is one best match. -/
lemma Best.unique {best' : Option (Nat × Nat)} (h : Best rules text best)
    (h' : Best rules text best') : best = best' := by
  cases h with
  | nothing unmatched =>
    cases h' with
    | nothing => rfl
    | found matchesAt' => exact absurd matchesAt' (unmatched _ _)
  | found matchesAt best =>
    cases h' with
    | nothing unmatched' => exact absurd matchesAt (unmatched' _ _)
    | found matchesAt' best' =>
      -- Each of the two is no worse than the other.
      have hfirst := best _ _ matchesAt'
      have hsecond := best' _ _ matchesAt
      rw [Option.some.injEq, Prod.mk.injEq]
      omega

/-- A rule without a match leaves the best one as it is. -/
lemma Best.append_of_not_matches (h : Best rules text best)
    (hunmatched : ∀ length, ¬ rule.Matches text length) : Best (rules ++ [rule]) text best := by
  have hold {other length : Nat} (hother : MatchesAt (rules ++ [rule]) text other length) :
      MatchesAt rules text other length := by
    rcases matchesAt_append_singleton.1 hother with hold | ⟨-, hlast⟩
    · exact hold
    · exact absurd hlast (hunmatched length)
  cases h with
  | nothing unmatched =>
    exact .nothing fun other length hother => unmatched other length (hold hother)
  | found matchesAt best =>
    exact .found (matchesAt_append_singleton.2 (.inl matchesAt))
      fun other length' hother => best other length' (hold hother)

/-- A match has to be longer than the best one so far to take its place. -/
lemma Best.append_of_matches {length : Nat} (h : Best rules text best)
    (hmatches : rule.Matches text length) :
    Best (rules ++ [rule]) text (better best rules.length (some (0, length))) := by
  -- A rule has one match, so the new one is known by its rule.
  have honly {length' : Nat} (h' : rule.Matches text length') : length' = length :=
    h'.unique hmatches
  have hlast : MatchesAt (rules ++ [rule]) text rules.length length :=
    matchesAt_append_singleton.2 (.inr ⟨rfl, hmatches⟩)
  cases h with
  | nothing unmatched =>
    simp only [better, Nat.zero_add]
    refine .found hlast fun other length' hother => ?_
    rcases matchesAt_append_singleton.1 hother with hold | ⟨rfl, hnew⟩
    · exact absurd hold (unmatched other length')
    · exact .inr ⟨honly hnew, le_rfl⟩
  | found matchesAt best =>
    simp only [better, Nat.zero_add]
    split_ifs with hlonger
    -- The new match is longer than the best, and so than all others.
    · refine .found hlast fun other length' hother => ?_
      rcases matchesAt_append_singleton.1 hother with hold | ⟨rfl, hnew⟩
      · have := best other length' hold
        omega
      · exact .inr ⟨honly hnew, le_rfl⟩
    -- Otherwise the best one keeps its place, as its rule comes first.
    · refine .found (matchesAt_append_singleton.2 (.inl matchesAt)) fun other length' hother => ?_
      rcases matchesAt_append_singleton.1 hother with hold | ⟨rfl, hnew⟩
      · exact best other length' hold
      · obtain ⟨first, hfirst, -⟩ := matchesAt
        have hbefore := (List.getElem?_eq_some_iff.1 hfirst).1
        have := honly hnew
        omega

/-- One more rule, by what its entry finds. -/
lemma Best.append (h : Best rules text best)
    (hentry : entry.Implements Pattern.Anchors closure state rule) (hvalid : rule.SourcesValid) :
    Best (rules ++ [rule]) text (better best rules.length (entry.find? text)) := by
  cases hfound : entry.find? text with
  | none =>
    refine h.append_of_not_matches fun length hmatches => ?_
    have hsome := (hentry.find?_iff hvalid).2 ⟨rfl, hmatches⟩
    rw [hfound] at hsome
    cases hsome
  | some found =>
    obtain ⟨start, length⟩ := found
    obtain ⟨rfl, hmatches⟩ := (hentry.find?_iff hvalid).1 hfound
    exact h.append_of_matches hmatches

/-- The entries of more rules, one after the other.  The induction is on the rules with their
entries. -/
lemma Best.foldl {others : List Rule} {later : List (Entry names.length Regex.Expr)}
    (h : Best rules text best)
    (hentries : List.Forall₂ (Entry.Implements Pattern.Anchors closure state) others later)
    (hvalid : ∀ rule ∈ others, rule.SourcesValid) :
    Best (rules ++ others) text ((later.zipIdx rules.length).foldl
      (fun best p => better best p.2 (p.1.find? text)) best) := by
  induction hentries generalizing rules best with
  | nil => simpa using h
  | @cons rule entry others later hentry _ ih =>
    have hstep := h.append hentry (hvalid rule List.mem_cons_self)
    have hrest := ih hstep fun rule hrule => hvalid rule (List.mem_cons_of_mem _ hrule)
    simpa using hrest

end Longest

/-! ## Characters and bytes -/

lemma bytesOf_add (text : List Char) (length more : Nat) :
    bytesOf text (length + more)
      = bytesOf text length + Text.byteLength ((text.drop length).take more) := by
  rw [bytesOf, bytesOf, List.take_add, Text.byteLength_append]

lemma bytesOf_mono {text : List Char} {length length' : Nat} (h : length ≤ length') :
    bytesOf text length ≤ bytesOf text length' := by
  obtain ⟨more, rfl⟩ := Nat.exists_eq_add_of_le h
  rw [bytesOf_add]
  exact Nat.le_add_right _ _

lemma bytesOf_strictMono {text : List Char} {length length' : Nat} (h : length < length')
    (hbound : length' ≤ text.length) : bytesOf text length < bytesOf text length' := by
  obtain ⟨more, rfl⟩ := Nat.exists_eq_add_of_lt h
  rw [Nat.add_assoc, bytesOf_add]
  have hdrop : text.drop length ≠ [] := by
    rw [Ne, List.drop_eq_nil_iff]
    omega
  obtain ⟨c, rest, hrest⟩ := List.exists_cons_of_ne_nil hdrop
  rw [hrest, List.take_succ_cons, Text.byteLength_cons]
  have := c.utf8Size_pos
  omega

/-! ## Choosing -/

section Choose

variable {names : List String} {closure : String → CategorySet} {declaration : Declaration}
  {table : StateTable names.length} {text : List Char}

/-- What is looked for among entries is found at the place of its rule. -/
lemma find?_of_forall₂ {α β : Type} {R : α → β → Prop} {p : α → Bool} {q : β → Bool}
    {as : List α} {bs : List β} (h : List.Forall₂ R as bs)
    (hsame : ∀ a ∈ as, ∀ b, R a b → q b = p a) :
    match bs.find? q with
    | none => as.findIdx? p = none
    | some b => ∃ index a, as.findIdx? p = some index ∧ as[index]? = some a ∧ R a b := by
  induction h with
  | nil => rfl
  | @cons a b as bs hhead _ ih =>
    have heq := hsame a List.mem_cons_self b hhead
    have hrest := ih fun a' ha' => hsame a' (List.mem_cons_of_mem _ ha')
    rw [List.find?_cons, List.findIdx?_cons, heq]
    cases p a with
    | true => exact ⟨0, a, rfl, rfl, hhead⟩
    | false =>
      simp only [Bool.false_eq_true, if_false]
      cases hfound : bs.find? q with
      | none =>
        rw [hfound] at hrest
        simpa using hrest
      | some b' =>
        rw [hfound] at hrest
        obtain ⟨index, a', hindex, hget, hR⟩ := hrest
        exact ⟨index + 1, a', by simp [hindex], hget, hR⟩

lemma Best.selects {rules : List Rule} {index length : Nat}
    (h : Best rules text (some (index, length))) :
    Selects rules text (some (index, length)) ∧ ∃ rule, rules[index]? = some rule := by
  cases h with
  | found matchesAt best =>
    obtain ⟨rule, hrule, hmatches⟩ := matchesAt
    refine ⟨.pattern ⟨rule, hrule, hmatches⟩ ?_ ?_, rule, hrule⟩
    -- Characters and bytes put prefixes of a text in the same order.
    · intro other length' hother
      rcases best other length' hother with hlt | ⟨rfl, -⟩
      · exact bytesOf_mono hlt.le
      · exact le_rfl
    · intro other length' hother hbytes
      rcases best other length' hother with hlt | ⟨-, hle⟩
      · have := bytesOf_strictMono hlt hmatches.le_length
        omega
      · exact hle

/-- What stands at a place is related to what stands there on the other side. -/
lemma exists_rel_of_getElem? {α β : Type} {R : α → β → Prop} {as : List α} {bs : List β}
    (h : List.Forall₂ R as bs) {index : Nat} {a : α} (ha : as[index]? = some a) :
    ∃ b, bs[index]? = some b ∧ R a b := by
  obtain ⟨hbound, rfl⟩ := List.getElem?_eq_some_iff.1 ha
  have hbound' : index < bs.length := h.length_eq ▸ hbound
  exact ⟨bs[index], List.getElem?_eq_getElem hbound', h.get hbound hbound'⟩

/-- The patterns of a state have been checked. -/
lemma StateTable.Implements.checkPattern_eq_ok (h : table.Implements closure declaration)
    {rule : Rule} (hrule : rule ∈ declaration.2) {pattern : Pattern}
    (hpattern : rule.matching? = some pattern) :
    checkPattern rule.kind pattern = .ok pattern.write := by
  obtain ⟨index, hindex⟩ := List.mem_iff_getElem?.1 hrule
  obtain ⟨entry, -, hentry⟩ := exists_rel_of_getElem? h.entries hindex
  rcases hentry.trigger_cases with ⟨matcher, own, -, -, -, hown, hcheck, -⟩ | ⟨-, -, hnone⟩ |
    ⟨-, -, -, hnone⟩
  · obtain rfl := Option.some.inj (hown.symm.trans hpattern)
    exact hcheck
  · rw [hpattern] at hnone
    cases hnone
  · rw [hpattern] at hnone
    cases hnone

/-- The longest match that a state finds is the best one of its rules. -/
lemma StateTable.Implements.best_longest (h : table.Implements closure declaration)
    (hvalid : ∀ rule ∈ declaration.2, rule.SourcesValid) (text : List Char) :
    Best declaration.2 text (table.matcher.longest text) := by
  have hempty : Best [] text none := .nothing fun index length ⟨rule, hrule, _⟩ => by
    simp at hrule
  rw [StateTable.longest_matcher]
  exact hempty.foldl h.entries hvalid

/-- **A state chooses what its rules select.**  The entry that applies is that of the rule at the
selected place. -/
theorem StateTable.Implements.choose_selects (h : table.Implements closure declaration)
    (hvalid : ∀ rule ∈ declaration.2, rule.SourcesValid) (text : List Char) :
    match table.choose text with
    | none => Selects declaration.2 text none
    | some (entry, length) => ∃ index rule, Selects declaration.2 text (some (index, length))
        ∧ declaration.2[index]? = some rule
        ∧ entry.Implements Pattern.Anchors closure declaration.1 rule := by
  have hbest := h.best_longest hvalid text
  -- The entries carry the roles of their rules, and so the first one of a role is at the same
  -- place.
  have hfallback := find?_of_forall₂ (p := (·.isFallback)) (q := (·.trigger.isFallback)) h.entries
    fun rule _ entry hentry => hentry.trigger.isFallback_eq
  unfold StateTable.choose
  cases hlongest : table.matcher.longest text with
  | some found =>
    obtain ⟨index, length⟩ := found
    rw [hlongest] at hbest
    obtain ⟨hselects, rule, hrule⟩ := hbest.selects
    obtain ⟨entry, hentry, himplements⟩ := exists_rel_of_getElem? h.entries hrule
    simp only [hentry, Option.map_some]
    exact ⟨index, rule, hselects, hrule, himplements⟩
  | none =>
    rw [hlongest] at hbest
    -- Nothing matches, so that the special rules decide.
    obtain ⟨unmatched⟩ := hbest
    simp only
    unfold StateTable.fallback?
    cases hfound : table.entries.find? (·.trigger.isFallback) with
    | some entry =>
      rw [hfound] at hfallback
      obtain ⟨index, rule, hindex, hrule, hentry⟩ := hfallback
      exact ⟨index, rule, .fallback _ unmatched hindex, hrule, hentry⟩
    | none =>
      rw [hfound] at hfallback
      have hnone : ∀ rule ∈ declaration.2, rule.isFallback = false := by
        simpa using hfallback
      have hcatchAll := find?_of_forall₂ (p := Rule.isCatchAll) (q := (·.trigger.isCatchAll))
        h.entries fun rule hrule entry hentry => hentry.isCatchAll_eq (hnone rule hrule)
      unfold StateTable.catchAll?
      cases hcatch : table.entries.find? (·.trigger.isCatchAll) with
      | none =>
        rw [hcatch] at hcatchAll
        exact .nothing unmatched hfallback hcatchAll
      | some entry =>
        rw [hcatch] at hcatchAll
        obtain ⟨index, rule, hindex, hrule, hentry⟩ := hcatchAll
        exact ⟨index, rule, .catchAll unmatched hfallback hindex, hrule, hentry⟩

end Choose

end Lexical
