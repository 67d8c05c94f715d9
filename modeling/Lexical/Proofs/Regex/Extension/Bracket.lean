import Lexical.Proofs.Regex.Extension.Escape
import Mathlib.Data.List.TakeWhile

/-!
# Reading a bracketed class in front of another text

A bracket has to be closed in its text, so whatever is read of it by itself is read in front of
another text, too (`readBracket_append`).  The one thing that is found by looking far ahead is the
name of a class such as `[:alpha:]`; what is found behind the parenthesis is no such name.
-/

namespace Lexical.Regex

variable {added : List Char} {blanks : Bool} {text rest : List Char}

/-! ## The start of a bracket -/

/-- What `openBracket` reads behind the `^`, if there is one. -/
def openItems (blanks negated : Bool) (text : List Char) : Option (OpenBracket × List Char) :=
  let (hyphens, text) := takeWhileSignificant blanks (· = '-') false text
  match hyphens.map fun c => ClassTerm.literal (verbatim c), text with
  | _, [] => none
  | [], ']' :: rest =>
    match skipBlanks blanks rest with
    | [] => none
    | text => some (⟨negated, none, [.literal (verbatim ']')]⟩, text)
  | items, text => some (⟨negated, none, items⟩, text)

lemma openBracket_of_caret (h : skipBlanks blanks text = '^' :: rest) :
    openBracket blanks text = openItems blanks true (skipBlanks blanks rest) := by
  simp only [openBracket, h]
  rfl

lemma openBracket_of_ne_caret (h : ∀ rest, skipBlanks blanks text ≠ '^' :: rest) :
    openBracket blanks text = openItems blanks false (skipBlanks blanks text) := by
  generalize htext : skipBlanks blanks text = behind at h
  simp only [openBracket, htext]
  rfl

lemma openItems_append {negated : Bool} {bracket : OpenBracket}
    (h : openItems blanks negated text = some (bracket, rest)) :
    rest ≠ [] ∧ openItems blanks negated (text ++ added) = some (bracket, rest ++ added) := by
  unfold openItems at h ⊢
  cases htaken : takeWhileSignificant blanks (· = '-') false text with
  | mk hyphens behind =>
  cases behind with
  | nil => simp [htaken] at h
  | cons c behind =>
    rw [takeWhileSignificant_append htaken]
    simp only [htaken] at h
    -- By itself the bracket has something behind its hyphens, and so the branch is the same.
    split at h
    · rename_i heq
      cases heq
    · rename_i rest' hitems heq
      obtain ⟨rfl, rfl⟩ := List.cons.inj heq
      cases hskip : skipBlanks blanks behind with
      | nil => simp [hskip] at h
      | cons d behind' =>
        simp only [hskip] at h
        obtain ⟨rfl, rfl⟩ := Prod.mk.inj (Option.some.inj h)
        exact ⟨by simp, by simp only [hitems, skipBlanks_append hskip, List.cons_append]⟩
    · rename_i items behind' hnil hbracket
      obtain ⟨rfl, rfl⟩ := Prod.mk.inj (Option.some.inj h)
      refine ⟨by simp, ?_⟩
      simp only
      split
      · rename_i heq
        cases heq
      · rename_i hitems heq
        obtain ⟨rfl, -⟩ := List.cons.inj heq
        exact (hbracket behind hitems rfl).elim
      · rfl

lemma openBracket_append {bracket : OpenBracket}
    (h : openBracket blanks text = some (bracket, rest)) :
    rest ≠ [] ∧ openBracket blanks (text ++ added) = some (bracket, rest ++ added) := by
  by_cases hcaret : ∃ behind, skipBlanks blanks text = '^' :: behind
  · obtain ⟨behind, htext⟩ := hcaret
    rw [openBracket_of_caret htext] at h
    rw [openBracket_of_caret (skipBlanks_append htext)]
    cases hbehind : skipBlanks blanks behind with
    | nil =>
      rw [hbehind] at h
      cases h
    | cons c behind' =>
      rw [hbehind] at h
      rw [skipBlanks_append hbehind, ← List.cons_append]
      exact openItems_append h
  · have hne (behind : List Char) : skipBlanks blanks text ≠ '^' :: behind :=
      fun heq => hcaret ⟨behind, heq⟩
    rw [openBracket_of_ne_caret hne] at h
    cases htext : skipBlanks blanks text with
    | nil =>
      rw [htext] at h
      cases h
    | cons c behind =>
      rw [htext] at h
      have hadded : skipBlanks blanks (text ++ added) = c :: (behind ++ added) :=
        skipBlanks_append htext
      have hne' (others : List Char) : skipBlanks blanks (text ++ added) ≠ '^' :: others := by
        rw [hadded]
        intro heq
        exact hne behind (by rw [htext, (List.cons.inj heq).1])
      rw [openBracket_of_ne_caret hne', hadded, ← List.cons_append]
      exact openItems_append h

/-! ## Class names -/

lemma drop_length_takeWhile {α : Type} (p : α → Bool) (l : List α) :
    l.drop (l.takeWhile p).length = l.dropWhile p := by
  induction l with
  | nil => rfl
  | cons a l ih =>
    by_cases ha : p a
    · simp [ha, ih]
    · simp [ha]

lemma dropWhile_append_cons {α : Type} {p : α → Bool} {l behind : List α} {a : α}
    (others : List α) (h : l.dropWhile p = a :: behind) :
    (l ++ others).dropWhile p = a :: (behind ++ others) ∧
      (l ++ others).takeWhile p = l.takeWhile p := by
  induction l with
  | nil => cases h
  | cons b l ih =>
    by_cases hb : p b
    · simp only [List.dropWhile_cons, hb, if_true] at h
      obtain ⟨hdrop, htake⟩ := ih h
      simp [hb, hdrop, htake]
    · simp only [List.dropWhile_cons, hb] at h
      obtain ⟨rfl, rfl⟩ := List.cons.inj h
      simp [hb]

lemma named_append {negated : Bool} {set : ClassTerm}
    (h : readAsciiClass?.named negated text = some (set, rest)) :
    readAsciiClass?.named negated (text ++ added) = some (set, rest ++ added) := by
  simp only [readAsciiClass?.named, drop_length_takeWhile] at h ⊢
  split at h
  · rename_i behind hdrop
    obtain ⟨hdrop', htake'⟩ := dropWhile_append_cons added hdrop
    rw [hdrop', htake']
    simp only [List.cons_append]
    obtain ⟨name, hname, heq⟩ := Option.map_eq_some_iff.1 h
    obtain ⟨rfl, rfl⟩ := Prod.mk.inj heq
    rw [hname]
    rfl
  · cases h

/-- No class has a name with a parenthesis in it. -/
lemma asciiClass?_of_mem {name : List Char} (h : ')' ∈ name) :
    asciiClass? (String.ofList name) = none := by
  cases hclass : asciiClass? (String.ofList name) with
  | none => rfl
  | some found =>
    have hname : name = (String.ofList name).toList := String.toList_ofList.symm
    unfold asciiClass? at hclass
    -- The fourteen names are looked through one by one.
    split at hclass
    iterate 14
      · rename_i heq
        rw [hname, heq] at h
        exact absurd h (by decide)
    · cases hclass

/-- A name that does not end by itself does not end behind the parenthesis, either. -/
lemma named_append_of_none (hadded : ClosesGroup added) {negated : Bool}
    (h : readAsciiClass?.named negated text = none) :
    readAsciiClass?.named negated (text ++ added) = none := by
  simp only [readAsciiClass?.named, drop_length_takeWhile] at h ⊢
  cases hdrop : text.dropWhile (· ≠ ':') with
  | nil =>
    -- Without a colon in the text the name would go on over the parenthesis.
    have hall := List.dropWhile_eq_nil_iff.1 hdrop
    obtain ⟨more, rfl⟩ := hadded.exists_cons
    have hname : ')' ∈ (text ++ ')' :: more).takeWhile (· ≠ ':') := by
      rw [List.takeWhile_append_of_pos hall]
      simp
    rw [asciiClass?_of_mem hname]
    split <;> rfl
  | cons c behind =>
    obtain ⟨hdrop', htake'⟩ := dropWhile_append_cons added hdrop
    rw [hdrop', htake']
    rw [hdrop] at h
    cases behind with
    -- The colon comes last, and no `]` follows it, since a parenthesis does.
    | nil =>
      obtain ⟨more, rfl⟩ := hadded.exists_cons
      simp
    | cons d behind =>
      split
      · rename_i rest' heq
        simp only [List.cons_append, List.cons.injEq] at heq
        obtain ⟨rfl, rfl, -⟩ := heq
        simpa using h
      · rfl

lemma readAsciiClass?_of_colon (h : text.head? ≠ some '^') :
    readAsciiClass? (':' :: text) = readAsciiClass?.named false text := by
  unfold readAsciiClass?
  split
  · rename_i heq
    obtain ⟨-, rfl⟩ := List.cons.inj heq
    exact absurd rfl h
  · rename_i heq
    obtain ⟨-, rfl⟩ := List.cons.inj heq
    rfl
  · rename_i hcolon
    exact absurd rfl (hcolon text)

lemma readAsciiClass?_of_ne_colon (h : text.head? ≠ some ':') : readAsciiClass? text = none := by
  unfold readAsciiClass?
  split
  · exact absurd rfl h
  · exact absurd rfl h
  · rfl

lemma readAsciiClass?_append {set : ClassTerm} (h : readAsciiClass? text = some (set, rest)) :
    readAsciiClass? (text ++ added) = some (set, rest ++ added) := by
  unfold readAsciiClass? at h
  split at h
  · exact named_append h
  · rename_i behind hcaret
    cases behind with
    | nil => simp [readAsciiClass?.named] at h
    | cons c behind =>
      have hc : (c :: behind ++ added).head? ≠ some '^' := by
        simp only [List.cons_append, List.head?_cons, ne_eq, Option.some.injEq]
        rintro rfl
        exact hcaret behind rfl
      rw [List.cons_append, readAsciiClass?_of_colon hc]
      exact named_append h
  · cases h

lemma readAsciiClass?_append_of_none (hadded : ClosesGroup added)
    (h : readAsciiClass? text = none) :
    readAsciiClass? (text ++ added) = none := by
  unfold readAsciiClass? at h
  split at h
  · exact named_append_of_none hadded h
  · rename_i behind hcaret
    have hc : (behind ++ added).head? ≠ some '^' := by
      cases behind with
      | nil => simp [hadded.head_eq]
      | cons c behind =>
        simp only [List.cons_append, List.head?_cons, ne_eq, Option.some.injEq]
        rintro rfl
        exact hcaret behind rfl
    rw [List.cons_append, readAsciiClass?_of_colon hc]
    exact named_append_of_none hadded h
  · rename_i hcolon
    apply readAsciiClass?_of_ne_colon
    cases text with
    | nil => simp [hadded.head_eq]
    | cons c behind =>
      simp only [List.cons_append, List.head?_cons, ne_eq, Option.some.injEq]
      rintro rfl
      exact hcolon behind rfl

/-! ## Items -/

lemma readItem_carries (blanks : Bool) : Carries (readItem blanks) := by
  intro text escape rest h
  unfold readItem at h
  split at h
  · cases h
  · exact readEscape_carries blanks h
  · rename_i c behind hbackslash
    -- An escape may have a comment behind it; any other item is one character.
    obtain ⟨rfl, rfl⟩ := Prod.mk.inj (Option.some.inj h)
    left
    intro added _
    rw [List.cons_append]
    unfold readItem
    split
    · rename_i heq
      cases heq
    · rename_i heq
      exact (hbackslash (List.cons.inj heq).1).elim
    · rename_i heq
      obtain ⟨rfl, rfl⟩ := List.cons.inj heq
      rfl

lemma peek_append {comment : Bool} {c : Char} (h : peekSignificant.peek comment text = some c) :
    peekSignificant.peek comment (text ++ added) = some c := by
  induction text generalizing comment with
  | nil => cases h
  | cons d text ih =>
    simp only [List.cons_append, peekSignificant.peek] at h ⊢
    split_ifs at h ⊢
    · exact ih h
    · exact ih h
    · exact h

/-- Where there is nothing to peek at, nothing counts. -/
lemma skip_of_peek_eq_none {comment : Bool} (h : peekSignificant.peek comment text = none) :
    skipBlanks.skip comment text = [] ∧
      (comment = true → skipBlanks.skip false text = []) := by
  induction text generalizing comment with
  | nil => exact ⟨rfl, fun _ => rfl⟩
  | cons c text ih =>
    simp only [peekSignificant.peek] at h
    simp only [skipBlanks.skip]
    split_ifs at h with hblank hhash
    · obtain ⟨hskip, hfalse⟩ := ih h
      cases comment with
      | false => simp [hblank, hskip]
      -- A comment that is being skipped hides what would count outside of it, which the second
      -- part of the statement is about.
      | true =>
        have hfalse := hfalse rfl
        by_cases hc : c = '\n'
        · subst hc
          simp [hblank, hfalse]
        · simp [hblank, hc, hfalse, hskip]
    · simp only [Bool.and_eq_true, Bool.not_eq_true', decide_eq_true_eq] at hhash
      obtain ⟨rfl, rfl⟩ := hhash
      simp [hblank, (ih h).1]

/-- Where something counts behind a hyphen, the reader peeks at it, whatever follows. -/
lemma peekSignificant_append {c : Char} (h : skipBlanks blanks text = c :: rest) :
    peekSignificant blanks (text ++ added) = peekSignificant blanks text := by
  unfold skipBlanks at h
  unfold peekSignificant
  split_ifs at h ⊢
  · cases hpeek : peekSignificant.peek false text with
    | none =>
      rw [(skip_of_peek_eq_none hpeek).1] at h
      cases h
    | some d =>
      rw [peek_append hpeek, Option.some_or, Option.some_or]
  · rw [h]
    rfl

lemma isBlank_bracket : isBlank ']' = false := by
  decide +kernel

lemma isBlank_hyphen : isBlank '-' = false := by
  decide +kernel

lemma peekSignificant_append_of_eq {c : Char} (h : peekSignificant blanks text = some c)
    (hblank : isBlank c = false) (hhash : c ≠ '#') :
    peekSignificant blanks (text ++ added) = some c := by
  unfold peekSignificant at h ⊢
  cases text with
  | nil => simp [peekSignificant.peek] at h
  | cons d text =>
    split_ifs at h ⊢
    · cases hpeek : peekSignificant.peek false (d :: text) with
      | some d' =>
        rw [hpeek] at h
        rw [peek_append hpeek]
        exact h
      | none =>
        rw [hpeek] at h
        obtain rfl : d = c := Option.some.inj h
        -- Something that is neither a blank nor the start of a comment would have been peeked at.
        simp [peekSignificant.peek, hblank, hhash] at hpeek
    · exact h

/-- An item behind which something counts. -/
lemma readItem_append (hadded : ClosesGroup added) {escape : Escape} {behind : List Char} {c : Char}
    (h : readItem blanks text = some (escape, rest))
    (hskip : skipBlanks blanks rest = c :: behind) :
    readItem blanks (text ++ added) = some (escape, rest ++ added) := by
  cases rest with
  | nil =>
    rw [skipBlanks_nil] at hskip
    cases hskip
  | cons d rest => exact (readItem_carries blanks).of_cons hadded h

/-- The range between two items, if they are characters in order. -/
def Escape.range? (first last : Escape) : Option ClassTerm :=
  match first, last with
  | .literal first, .literal last =>
    if first.char ≤ last.char then some (.range first last) else none
  | _, _ => none

section Range

variable {first : Escape} {behind after : List Char}

lemma readRange_of_ne_hyphen {c : Char} (hfirst : readItem blanks text = some (first, behind))
    (hskip : skipBlanks blanks behind = c :: after) (hc : c ≠ '-') :
    readRange blanks text = first.item?.map fun item => (item, c :: after) := by
  simp only [readRange, hfirst, Option.bind_eq_bind, Option.bind_some, hskip]
  split
  · cases ‹_ :: _ = []›
  · rename_i heq
    exact absurd (List.cons.inj heq).1 hc
  · rw [Option.map_eq_bind]
    rfl

lemma readRange_of_peek (hfirst : readItem blanks text = some (first, behind))
    (hskip : skipBlanks blanks behind = '-' :: after)
    (hpeek : peekSignificant blanks after = some ']' ∨ peekSignificant blanks after = some '-') :
    readRange blanks text = first.item?.map fun item => (item, '-' :: after) := by
  simp only [readRange, hfirst, Option.bind_eq_bind, Option.bind_some, hskip, Bool.or_eq_true,
    decide_eq_true_eq, if_pos hpeek]
  rw [Option.map_eq_bind]
  rfl

lemma readRange_of_hyphen (hfirst : readItem blanks text = some (first, behind))
    (hskip : skipBlanks blanks behind = '-' :: after)
    (hpeek : ¬ (peekSignificant blanks after = some ']' ∨
      peekSignificant blanks after = some '-')) :
    readRange blanks text = (readItem blanks (skipBlanks blanks after)).bind fun (last, rest) =>
      (first.range? last).map fun range => (range, rest) := by
  simp only [readRange, hfirst, Option.bind_eq_bind, Option.bind_some, hskip, Bool.or_eq_true,
    decide_eq_true_eq, if_neg hpeek]
  congr 1
  funext ⟨last, rest⟩
  cases first <;> cases last <;> try rfl
  simp only [Escape.range?]
  split_ifs <;> rfl

end Range

lemma readRange_carries (blanks : Bool) : Carries (readRange blanks) := by
  intro text set rest h
  cases hfirst : readItem blanks text with
  | none => simp [readRange, hfirst] at h
  | some item =>
  obtain ⟨first, behind⟩ := item
  cases hskip : skipBlanks blanks behind with
  | nil => simp [readRange, hfirst, hskip] at h
  -- Something that counts is behind the first item, so that it is read in front of `added` as
  -- well.
  | cons c after =>
    have hskip' (added : List Char) :
        skipBlanks blanks (behind ++ added) = c :: (after ++ added) :=
      skipBlanks_append hskip
    by_cases hc : c = '-'
    · subst hc
      -- The hyphen is an item of its own where a bracket or another hyphen follows, and peeking
      -- that far finds the same in front of `added`.
      by_cases hpeek : peekSignificant blanks after = some ']' ∨
          peekSignificant blanks after = some '-'
      · left
        intro added hadded
        have hpeek' : peekSignificant blanks (after ++ added) = some ']' ∨
            peekSignificant blanks (after ++ added) = some '-' := by
          rcases hpeek with hbracket | hhyphen
          · exact .inl (peekSignificant_append_of_eq hbracket isBlank_bracket (by decide))
          · exact .inr (peekSignificant_append_of_eq hhyphen isBlank_hyphen (by decide))
        rw [readRange_of_peek hfirst hskip hpeek] at h
        rw [readRange_of_peek (readItem_append hadded hfirst hskip) (hskip' added) hpeek']
        obtain ⟨item, hitem, heq⟩ := Option.map_eq_some_iff.1 h
        obtain ⟨rfl, rfl⟩ := Prod.mk.inj heq
        rw [hitem]
        rfl
      · rw [readRange_of_hyphen hfirst hskip hpeek] at h
        obtain ⟨⟨last, behind'⟩, hlast, h⟩ := Option.bind_eq_some_iff.1 h
        obtain ⟨range, hrange, heq⟩ := Option.map_eq_some_iff.1 h
        obtain ⟨rfl, rfl⟩ := Prod.mk.inj heq
        cases hafter : skipBlanks blanks after with
        | nil =>
          rw [hafter] at hlast
          cases hlast
        | cons d after' =>
          rw [hafter] at hlast
          have hread (added : List Char) (hadded : ClosesGroup added) :
              readRange blanks (text ++ added) =
                (readItem blanks ((d :: after') ++ added)).bind fun (last, rest) =>
                  (first.range? last).map fun range => (range, rest) := by
            have hpeek' : ¬ (peekSignificant blanks (after ++ added) = some ']' ∨
                peekSignificant blanks (after ++ added) = some '-') := by
              rwa [peekSignificant_append hafter]
            rw [readRange_of_hyphen (readItem_append hadded hfirst hskip) (hskip' added) hpeek',
              skipBlanks_append hafter, ← List.cons_append]
          -- Only the last item of the range may come at the end of the text.
          rcases readItem_carries blanks hlast with hsame | ⟨hnil, hends⟩
          · left
            intro added hadded
            simp only [hread added hadded, hsame added hadded, Option.bind_some, hrange,
              Option.map_some]
          · refine .inr ⟨hnil, fun added hadded hnewline => ?_⟩
            simp only [hread added hadded, hends added hadded hnewline, Option.bind_some, hrange,
              Option.map_some]
    · left
      intro added hadded
      rw [readRange_of_ne_hyphen hfirst hskip hc] at h
      rw [readRange_of_ne_hyphen (readItem_append hadded hfirst hskip) (hskip' added) hc]
      obtain ⟨item, hitem, heq⟩ := Option.map_eq_some_iff.1 h
      obtain ⟨rfl, rfl⟩ := Prod.mk.inj heq
      rw [hitem]
      rfl

/-! ## The reader of brackets -/

/-- An item that is followed by something. -/
lemma readRange_append (hadded : ClosesGroup added) {set : ClassTerm}
    (h : readRange blanks text = some (set, rest)) (hrest : rest ≠ []) :
    readRange blanks (text ++ added) = some (set, rest ++ added) := by
  cases rest with
  | nil => exact absurd rfl hrest
  | cons c rest => exact (readRange_carries blanks).of_cons hadded h

lemma readBracketFrom_nil {fuel : Nat} {bracket : OpenBracket} {outer : List OpenBracket} :
    readBracketFrom blanks fuel bracket outer [] = none := by
  cases fuel with
  | zero => rfl
  | succ fuel => simp [readBracketFrom]

lemma readRange_singleton (blanks : Bool) (c : Char) : readRange blanks [c] = none := by
  by_cases hc : c = '\\'
  · subst hc
    rfl
  · have hitem : readItem blanks [c] = some (.literal (verbatim c), []) := by
      unfold readItem
      split
      · cases ‹[c] = []›
      · exact absurd (List.cons.inj ‹[c] = _›).1 hc
      · rename_i heq
        obtain ⟨rfl, rfl⟩ := List.cons.inj heq
        rfl
    simp [readRange, hitem]

/-- The text goes on with a character that is not punctuation inside of brackets. -/
def StartsItem (c d : Char) : Prop :=
  c ≠ '[' ∧ c ≠ ']' ∧ ¬ (c = '&' ∧ d = '&') ∧ ¬ (c = '-' ∧ d = '-') ∧ ¬ (c = '~' ∧ d = '~')

lemma readBracketFrom_of_startsItem {fuel : Nat} {bracket : OpenBracket}
    {outer : List OpenBracket} {c d : Char} {behind : List Char} (h : StartsItem c d)
    (hskip : skipBlanks blanks text = c :: d :: behind) :
    readBracketFrom blanks (fuel + 1) bracket outer text =
      match readRange blanks (c :: d :: behind) with
      | none => none
      | some (item, rest) => readBracketFrom blanks fuel (bracket.push item) outer rest := by
  obtain ⟨hopen, hclose, hinter, hdiff, hsymm⟩ := h
  rw [readBracketFrom, hskip]
  split
  · cases ‹_ :: _ = []›
  · exact absurd (List.cons.inj ‹_ = '[' :: _›).1 hopen
  · exact absurd (List.cons.inj ‹_ = ']' :: _›).1 hclose
  · rename_i heq
    simp only [List.cons.injEq] at heq
    exact absurd ⟨heq.1, heq.2.1⟩ hinter
  · rename_i heq
    simp only [List.cons.injEq] at heq
    exact absurd ⟨heq.1, heq.2.1⟩ hdiff
  · rename_i heq
    simp only [List.cons.injEq] at heq
    exact absurd ⟨heq.1, heq.2.1⟩ hsymm
  · rfl

/-- The induction is on the fuel; a bracket that gets closed has something behind each of its
items. -/
lemma readBracketFrom_append (hadded : ClosesGroup added) {fuel more : Nat} (hfuel : fuel ≤ more)
    {bracket : OpenBracket} {outer : List OpenBracket} {set : ClassTerm}
    (h : readBracketFrom blanks fuel bracket outer text = some (set, rest)) :
    readBracketFrom blanks more bracket outer (text ++ added) = some (set, rest ++ added) := by
  induction fuel generalizing more bracket outer text with
  | zero => cases h
  | succ fuel ih =>
    obtain ⟨more, rfl⟩ : ∃ n, more = n + 1 := ⟨more - 1, by omega⟩
    have hfuel : fuel ≤ more := by omega
    unfold readBracketFrom at h
    cases hskip : skipBlanks blanks text with
    | nil => simp [hskip] at h
    | cons c behind =>
      have hskip' : skipBlanks blanks (text ++ added) = c :: (behind ++ added) :=
        skipBlanks_append hskip
      simp only [hskip] at h
      split at h
      · cases ‹_ :: _ = []›
      · rename_i behind heq
        obtain ⟨rfl, rfl⟩ := List.cons.inj heq
        rw [readBracketFrom, hskip']
        simp only
        cases hclass : readAsciiClass? behind with
        | some item =>
          obtain ⟨item, behind'⟩ := item
          simp only [hclass] at h
          simp only [readAsciiClass?_append hclass]
          exact ih hfuel h
        | none =>
          simp only [hclass] at h
          -- `[:` without a name opens a bracket, in front of `added` as well.
          simp only [readAsciiClass?_append_of_none hadded hclass]
          cases hopen : openBracket blanks behind with
          | none => simp [hopen] at h
          | some opened =>
            obtain ⟨inner, behind'⟩ := opened
            simp only [hopen] at h
            simp only [(openBracket_append hopen).2]
            exact ih hfuel h
      · rename_i behind heq
        obtain ⟨rfl, rfl⟩ := List.cons.inj heq
        rw [readBracketFrom, hskip']
        simp only
        cases outer with
        | nil =>
          obtain ⟨rfl, rfl⟩ := Prod.mk.inj (Option.some.inj h)
          rfl
        | cons next outer => exact ih hfuel h
      iterate 3
        · rename_i behind heq
          obtain ⟨rfl, rfl⟩ := List.cons.inj heq
          rw [readBracketFrom, hskip']
          exact ih hfuel h
      · rename_i hopen hclose hinter hdiff hsymm
        cases hrange : readRange blanks (c :: behind) with
        | none => simp [hrange] at h
        | some item =>
          obtain ⟨item, behind'⟩ := item
          simp only [hrange] at h
          -- A bracket that gets closed is not at its end here.
          have hbehind' : behind' ≠ [] := by
            rintro rfl
            rw [readBracketFrom_nil] at h
            cases h
          cases behind with
          | nil =>
            rw [readRange_singleton] at hrange
            cases hrange
          | cons d behind =>
            -- The branches that were not taken say how the item does not start.
            have hstarts : StartsItem c d := by
              refine ⟨?_, ?_, ?_, ?_, ?_⟩
              · exact fun hc => hopen (d :: behind) (by rw [hc])
              · exact fun hc => hclose (d :: behind) (by rw [hc])
              · exact fun ⟨hc, hd⟩ => hinter behind (by rw [hc, hd])
              · exact fun ⟨hc, hd⟩ => hdiff behind (by rw [hc, hd])
              · exact fun ⟨hc, hd⟩ => hsymm behind (by rw [hc, hd])
            have hrange' : readRange blanks (c :: d :: (behind ++ added)) =
                some (item, behind' ++ added) :=
              readRange_append hadded hrange hbehind'
            rw [List.cons_append] at hskip'
            rw [readBracketFrom_of_startsItem hstarts hskip', hrange']
            exact ih hfuel h

/-- **A bracketed class is read in front of any text as it is by itself.** -/
theorem readBracket_append (hadded : ClosesGroup added) {set : ClassTerm}
    (h : readBracket blanks text = some (set, rest)) :
    readBracket blanks (text ++ added) = some (set, rest ++ added) := by
  unfold readBracket at h ⊢
  simp only [Option.bind_eq_bind, Option.bind_eq_some_iff] at h
  obtain ⟨⟨bracket, behind⟩, hopen, h⟩ := h
  simp only [(openBracket_append hopen).2, Option.bind_eq_bind, Option.bind_some]
  refine readBracketFrom_append hadded ?_ h
  simp only [List.length_append]
  omega

end Lexical.Regex
