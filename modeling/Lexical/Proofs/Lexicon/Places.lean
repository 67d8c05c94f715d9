import Lexical.Proofs.Lexicon.Selection

/-!
# The place of the rule that applies

A state chooses an entry for a text.  `StateTable.select?` tells the place of that entry among those
of the state, which is the place of its rule among the declared ones.  What is selected can be looked
up: there is an entry at the place, and the text is long enough for what the entry takes
(`StateTable.exists_entry_of_select?`).

On the way to a place there are more lookups: by the number of a pattern, a state finds the expression
of the pattern and the place of its rule.  `StateTable.trySelect` makes them without a way out, and
still comes to what is selected (`StateTable.trySelect_eq`).
-/

namespace Lexical

/-! ## Looking up patterns -/

namespace StateMatcher

/-- The better of the best match so far and that of a pattern, if the pattern can be looked up. -/
def tryBetter (matcher : StateMatcher) (text : List Char) (best : Option (Nat × Nat)) (pattern : Nat) :
    Option (Option (Nat × Nat)) := do
  let anchored ← matcher.anchored[pattern]?
  match anchored.find? text with
  | none => some best
  | some (start, length) =>
    if best.all fun (_, most) => most < start + length then do
      let rule ← matcher.ruleOf[pattern]?
      some (some (rule, start + length))
    else some best

/-- The longest match, if all patterns can be looked up that are tried. -/
def tryLongest (matcher : StateMatcher) (text : List Char) : Option (Option (Nat × Nat)) :=
  (matcher.matching text).foldlM (matcher.tryBetter text) none

/-- Each pattern has the place of a rule. -/
def Complete (matcher : StateMatcher) : Prop :=
  matcher.ruleOf.length = matcher.anchored.length

lemma tryBetter_eq {matcher : StateMatcher} (h : matcher.Complete) {pattern : Nat}
    (hpattern : pattern < matcher.anchored.length) (text : List Char) (best : Option (Nat × Nat)) :
    matcher.tryBetter text best pattern = some (longest.better matcher text best pattern) := by
  have hrule : pattern < matcher.ruleOf.length := h ▸ hpattern
  unfold tryBetter longest.better find?
  rw [List.getElem?_eq_getElem hpattern, List.getElem?_eq_getElem hrule]
  simp only [Option.bind_eq_bind, Option.bind_some]
  cases matcher.anchored[pattern].find? text with
  | none => rfl
  | some found =>
    obtain ⟨start, length⟩ := found
    rcases best with _ | ⟨place, most⟩
    · rfl
    · by_cases hmost : most < start + length <;> simp [hmost]

/-- The induction is on the patterns that are tried. -/
lemma tryLongest_eq {matcher : StateMatcher} (h : matcher.Complete) (text : List Char) :
    matcher.tryLongest text = some (matcher.longest text) := by
  have hfold (patterns : List Nat) (hpatterns : ∀ pattern ∈ patterns, pattern < matcher.anchored.length)
      (best : Option (Nat × Nat)) : patterns.foldlM (matcher.tryBetter text) best
        = some (patterns.foldl (longest.better matcher text) best) := by
    induction patterns generalizing best with
    | nil => rfl
    | cons pattern patterns ih =>
      rw [List.foldlM_cons, tryBetter_eq h (hpatterns pattern List.mem_cons_self), List.foldl_cons]
      exact ih (fun other hother => hpatterns other (List.mem_cons_of_mem _ hother)) _
  refine hfold _ (fun pattern hpattern => ?_) none
  exact List.mem_range.1 (List.mem_filter.1 hpattern).1

end StateMatcher

namespace StateTable

variable {n : Nat} {table : StateTable n} {text : List Char} {place length : Nat}

lemma complete_matcher (table : StateTable n) : table.matcher.Complete := by
  simp [StateMatcher.Complete, matcher]

/-! ## Looking up entries -/

/-- The place of the special entry that applies where no pattern matches, and the number of characters
that it takes. -/
def special? (table : StateTable n) (text : List Char) : Option (Nat × Nat) :=
  match table.entries.findIdx? (·.trigger.isFallback) with
  | some place => some (place, (table.nextStart? text).getD text.length)
  | none => (table.entries.findIdx? (·.trigger.isCatchAll)).map fun place => (place, text.length)

/-- The place of the entry that applies to a text, and the number of characters that it takes. -/
def select? (table : StateTable n) (text : List Char) : Option (Nat × Nat) :=
  (table.matcher.longest text).or (table.special? text)

/-- What is selected, if all patterns can be looked up that are tried. -/
def trySelect (table : StateTable n) (text : List Char) : Option (Option (Nat × Nat)) :=
  (table.matcher.tryLongest text).map fun best => best.or (table.special? text)

/-- **All patterns that are tried can be looked up.** -/
theorem trySelect_eq (table : StateTable n) (text : List Char) :
    table.trySelect text = some (table.select? text) := by
  rw [trySelect, StateMatcher.tryLongest_eq table.complete_matcher]
  rfl

/-- What is found first stands at the first place. -/
lemma find?_eq_bind_findIdx? {α : Type} (p : α → Bool) (as : List α) :
    as.find? p = (as.findIdx? p).bind fun place => as[place]? := by
  induction as with
  | nil => rfl
  | cons a as ih =>
    rw [List.find?_cons, List.findIdx?_cons]
    cases p a with
    | true => rfl
    | false =>
      simp only [Bool.false_eq_true, if_false, ih]
      cases as.findIdx? p <;> simp

/-- **What is chosen is what stands at the selected place.** -/
theorem choose_eq_bind_select? (table : StateTable n) (text : List Char) :
    table.choose text = (table.select? text).bind fun (place, length) =>
      table.entries[place]?.map fun entry => (entry, length) := by
  unfold choose select? fallback? catchAll?
  cases table.matcher.longest text with
  | some found => rfl
  | none =>
    rw [Option.none_or, special?]
    simp only [find?_eq_bind_findIdx?]
    cases hfallback : table.entries.findIdx? (·.trigger.isFallback) with
    | some place =>
      obtain ⟨hplace, -⟩ := List.findIdx?_eq_some_iff_getElem.1 hfallback
      simp [List.getElem?_eq_getElem hplace]
    | none => cases table.entries.findIdx? (·.trigger.isCatchAll) <;> simp

/-- The next match starts within the text. -/
lemma le_length_of_nextStart? {start : Nat} (h : table.nextStart? text = some start) :
    start ≤ text.length := by
  have hfound {scanner : Regex.Expr} {place start length : Nat}
      (h : nextStart?.findAt text scanner place = some (start, length)) : start ≤ text.length := by
    unfold nextStart?.findAt at h
    split_ifs at h with hplace
    have hle := Regex.Expr.findFrom?_le h
    rw [List.length_drop] at hle
    omega
  unfold nextStart? at h
  obtain ⟨scanner, -, h⟩ := Option.bind_eq_some_iff.1 h
  obtain ⟨⟨first, size⟩, hfirst, h⟩ := Option.bind_eq_some_iff.1 h
  simp only at h
  split_ifs at h with hpos
  · obtain rfl := Option.some.inj h
    have hle := Regex.Expr.findFrom?_le hfirst
    omega
  · obtain ⟨⟨second, size'⟩, hsecond, h⟩ := Option.bind_eq_some_iff.1 h
    simp only at h
    split_ifs at h with hagain
    · obtain ⟨⟨third, size''⟩, hthird, rfl⟩ := Option.map_eq_some_iff.1 h
      exact hfound hthird
    · obtain rfl := Option.some.inj h
      exact hfound hsecond

/-- **What is selected is there**: an entry at the place, and as much text as it takes. -/
theorem exists_entry_of_select? (h : table.select? text = some (place, length)) :
    length ≤ text.length ∧
      ∃ entry, table.entries[place]? = some entry ∧ table.choose text = some (entry, length) := by
  have hchoose {entry : Entry n Regex.Expr} (hentry : table.entries[place]? = some entry) :
      table.choose text = some (entry, length) := by
    rw [choose_eq_bind_select?, h, Option.bind_some]
    simp only [hentry, Option.map_some]
  rcases Option.or_eq_some_iff.1 h with hlongest | ⟨-, hspecial⟩
  · obtain ⟨entry, start, size, hentry, hfind, hlength⟩ := exists_find?_of_longest hlongest
    obtain ⟨matcher, -, hmatch⟩ := Option.bind_eq_some_iff.1 hfind
    have hle := Regex.Expr.findFrom?_le hmatch
    exact ⟨by omega, entry, hentry, hchoose hentry⟩
  · unfold special? at hspecial
    split at hspecial
    · rename_i first hfirst
      obtain ⟨rfl, rfl⟩ := Prod.mk.inj (Option.some.inj hspecial)
      obtain ⟨hplace, -⟩ := List.findIdx?_eq_some_iff_getElem.1 hfirst
      refine ⟨?_, _, List.getElem?_eq_getElem hplace, hchoose (List.getElem?_eq_getElem hplace)⟩
      cases hstart : table.nextStart? text with
      | none => exact Nat.le_refl _
      | some start => exact le_length_of_nextStart? hstart
    · obtain ⟨first, hfirst, hsame⟩ := Option.map_eq_some_iff.1 hspecial
      obtain ⟨rfl, rfl⟩ := Prod.mk.inj hsame
      obtain ⟨hplace, -⟩ := List.findIdx?_eq_some_iff_getElem.1 hfirst
      exact ⟨Nat.le_refl _, _, List.getElem?_eq_getElem hplace,
        hchoose (List.getElem?_eq_getElem hplace)⟩

/-- Where nothing is chosen, nothing is selected. -/
lemma select?_eq_none_iff : table.select? text = none ↔ table.choose text = none := by
  constructor
  · intro h
    rw [choose_eq_bind_select?, h]
    rfl
  · intro h
    cases hselected : table.select? text with
    | none => rfl
    | some selected =>
      obtain ⟨-, entry, -, hchosen⟩ := exists_entry_of_select? hselected
      rw [h] at hchosen
      cases hchosen

lemma exists_select?_of_choose {entry : Entry n Regex.Expr}
    (h : table.choose text = some (entry, length)) :
    ∃ place, table.select? text = some (place, length) ∧ table.entries[place]? = some entry := by
  rw [choose_eq_bind_select?] at h
  obtain ⟨⟨place, length'⟩, hselected, h⟩ := Option.bind_eq_some_iff.1 h
  obtain ⟨entry', hentry, hsame⟩ := Option.map_eq_some_iff.1 h
  obtain ⟨rfl, rfl⟩ := Prod.mk.inj hsame
  exact ⟨place, hselected, hentry⟩

end StateTable

end Lexical
