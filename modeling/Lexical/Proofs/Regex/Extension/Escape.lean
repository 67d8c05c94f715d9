import Lexical.Proofs.Regex.Steps
import Mathlib.Tactic.SplitIfs

/-!
# Reading a text in front of another

A regular expression that is put into a group is read as it is by itself: the parts of the reader
look ahead by a few characters only, and what they find behind the regular expression is a closing
parenthesis.  There is one exception.  Where blanks are skipped, the text may end in a comment,
which then goes on behind it, to the end of the line.

`ClosesGroup added` says of the text behind what is needed of it.  A part of the reader that has
found its own end reads in front of `added` what it reads by itself.  One that may stop at the end
of the text either does so, too, whatever `added` is, or runs with its comment over every `added`
that is on one line (`Carries`).  The result for the whole reader is `Reading.Accepts.within`.
-/

namespace Lexical.Regex

/-- A text that closes a group. -/
def ClosesGroup (added : List Char) : Prop :=
  added.head? = some ')'

variable {added : List Char} {α : Type}

/-- What is read is also read in front of a text that closes a group, except that the comment behind
it may run on. -/
def Carries (read : List Char → Option (α × List Char)) : Prop :=
  ∀ ⦃text a rest⦄, read text = some (a, rest) →
    (∀ added, ClosesGroup added → read (text ++ added) = some (a, rest ++ added)) ∨
      rest = [] ∧
        ∀ added, ClosesGroup added → '\n' ∉ added → read (text ++ added) = some (a, [])

lemma closesGroup_cons (more : List Char) : ClosesGroup (')' :: more) := rfl

lemma ClosesGroup.head_eq (hadded : ClosesGroup added) : added.head? = some ')' :=
  hadded

lemma ClosesGroup.exists_cons (hadded : ClosesGroup added) : ∃ more, added = ')' :: more := by
  unfold ClosesGroup at hadded
  cases added with
  | nil => cases hadded
  | cons c more => exact ⟨more, by rw [Option.some.inj hadded]⟩

/-! ## Blanks -/

@[simp] lemma skipBlanks_nil (blanks : Bool) : skipBlanks blanks [] = [] := by
  unfold skipBlanks skipBlanks.skip
  split <;> rfl

lemma skip_append {comment : Bool} {text rest : List Char} {c : Char}
    (h : skipBlanks.skip comment text = c :: rest) :
    skipBlanks.skip comment (text ++ added) = c :: (rest ++ added) := by
  induction text generalizing comment with
  | nil => cases h
  | cons d text ih =>
    simp only [List.cons_append, skipBlanks.skip] at h ⊢
    split_ifs at h ⊢
    · exact ih h
    · exact ih h
    · exact ih h
    · obtain ⟨rfl, rfl⟩ := List.cons.inj h
      rfl

lemma skipBlanks_append {blanks : Bool} {text rest : List Char} {c : Char}
    (h : skipBlanks blanks text = c :: rest) :
    skipBlanks blanks (text ++ added) = c :: (rest ++ added) := by
  unfold skipBlanks at h ⊢
  split_ifs at h ⊢
  · exact skip_append h
  · rw [h, List.cons_append]

/-- A comment swallows what is on its line. -/
lemma skip_comment {text : List Char} (h : '\n' ∉ text) : skipBlanks.skip true text = [] := by
  induction text with
  | nil => rfl
  | cons c text ih =>
    simp only [List.mem_cons, not_or] at h
    have hc : c ≠ '\n' := Ne.symm h.1
    simp only [skipBlanks.skip, if_pos, hc, ne_eq, not_false_eq_true, decide_true]
    exact ih h.2

lemma isBlank_parenthesis : isBlank ')' = false := by
  decide +kernel

/-- Where nothing is left of a text, what follows is left, or it is part of a comment. -/
lemma skip_append_of_nil {comment : Bool} {text : List Char}
    (h : skipBlanks.skip comment text = []) :
    (∀ added, ClosesGroup added → skipBlanks.skip comment (text ++ added) = added) ∨
      ∀ added, '\n' ∉ added → skipBlanks.skip comment (text ++ added) = [] := by
  induction text generalizing comment with
  | nil =>
    cases comment with
    -- Outside of a comment the parenthesis counts, so that nothing of what follows is skipped.
    | true => exact .inr fun added hnewline => skip_comment hnewline
    | false =>
      left
      intro added hadded
      obtain ⟨more, rfl⟩ := hadded.exists_cons
      simp [skipBlanks.skip, isBlank_parenthesis]
  | cons c text ih =>
    simp only [List.cons_append, skipBlanks.skip] at h ⊢
    split_ifs at h ⊢
    · exact ih h
    · exact ih h
    · exact ih h

lemma skipBlanks_append_of_nil {blanks : Bool} {text : List Char}
    (h : skipBlanks blanks text = []) :
    (∀ added, ClosesGroup added → skipBlanks blanks (text ++ added) = added) ∨
      ∀ added, '\n' ∉ added → skipBlanks blanks (text ++ added) = [] := by
  unfold skipBlanks at h ⊢
  split_ifs at h ⊢
  · exact skip_append_of_nil h
  · rw [h]
    exact .inl fun _ _ => rfl

lemma takeUntil_append {blanks : Bool} {close : Char} {comment : Bool}
    {text taken rest : List Char} (h : takeUntil blanks close comment text = some (taken, rest)) :
    takeUntil blanks close comment (text ++ added) = some (taken, rest ++ added) := by
  induction text generalizing comment taken with
  | nil => cases h
  | cons c text ih =>
    simp only [List.cons_append, takeUntil] at h ⊢
    split_ifs at h ⊢
    · exact ih h
    · exact ih h
    · exact ih h
    · obtain ⟨rfl, rfl⟩ := Prod.mk.inj (Option.some.inj h)
      rfl
    · obtain ⟨⟨others, behind⟩, hothers, heq⟩ := Option.map_eq_some_iff.1 h
      obtain ⟨rfl, rfl⟩ := Prod.mk.inj heq
      rw [ih hothers]
      rfl

lemma takeWhileSignificant_append {blanks : Bool} {p : Char → Bool} {comment : Bool} {c : Char}
    {text taken rest : List Char}
    (h : takeWhileSignificant blanks p comment text = (taken, c :: rest)) :
    takeWhileSignificant blanks p comment (text ++ added) = (taken, c :: (rest ++ added)) := by
  induction text generalizing comment taken with
  | nil => cases h
  | cons d text ih =>
    simp only [List.cons_append, takeWhileSignificant] at h ⊢
    split_ifs at h ⊢
    · exact ih h
    · exact ih h
    · exact ih h
    · obtain ⟨hothers, hrest⟩ := Prod.mk.inj h
      rw [ih (Prod.ext rfl hrest)]
      rw [← hothers]
    · obtain ⟨rfl, hrest⟩ := Prod.mk.inj h
      obtain ⟨rfl, rfl⟩ := List.cons.inj hrest
      rfl

/-! ## Escapes -/

lemma takeSignificant_carries (blanks : Bool) (count : Nat) :
    Carries (takeSignificant blanks count) := by
  intro text taken rest h
  induction count generalizing text taken with
  | zero =>
    obtain ⟨rfl, rfl⟩ := Prod.mk.inj (Option.some.inj h)
    exact .inl fun _ _ => rfl
  | succ count ih =>
    cases text with
    | nil => cases h
    | cons c text =>
      simp only [List.cons_append, takeSignificant] at h ⊢
      obtain ⟨⟨others, behind⟩, hothers, heq⟩ := Option.map_eq_some_iff.1 h
      obtain ⟨rfl, rfl⟩ := Prod.mk.inj heq
      cases hskip : skipBlanks blanks text with
      | cons d text' =>
        have hskip' (added : List Char) :
            skipBlanks blanks (text ++ added) = (d :: text') ++ added :=
          skipBlanks_append hskip
        rw [hskip] at hothers
        rcases ih hothers with hsame | ⟨hnil, hends⟩
        · left
          intro added hadded
          rw [hskip', hsame added hadded]
          rfl
        · refine .inr ⟨hnil, fun added hadded hnewline => ?_⟩
          rw [hskip', hends added hadded hnewline]
          rfl
      -- The text ends behind the last character that counts, and a comment may run on from here.
      | nil =>
        rw [hskip] at hothers
        cases count with
        | succ count => cases hothers
        | zero =>
          obtain ⟨rfl, rfl⟩ := Prod.mk.inj (Option.some.inj hothers)
          rcases skipBlanks_append_of_nil hskip with hsame | hends
          · left
            intro added hadded
            rw [hsame added hadded]
            rfl
          · refine .inr ⟨rfl, fun added _ hnewline => ?_⟩
            rw [hends added hnewline]
            rfl

lemma Carries.map {β : Type} {read : List Char → Option (α × List Char)} (h : Carries read)
    (f : α → β) : Carries fun text => (read text).map fun (a, rest) => (f a, rest) := by
  intro text b rest hmap
  obtain ⟨⟨a, behind⟩, hread, heq⟩ := Option.map_eq_some_iff.1 hmap
  obtain ⟨rfl, rfl⟩ := Prod.mk.inj heq
  rcases h hread with hsame | ⟨hnil, hends⟩
  · left
    intro added hadded
    simp only [hsame added hadded, Option.map_some]
  · refine .inr ⟨hnil, fun added hadded hnewline => ?_⟩
    simp only [hends added hadded hnewline, Option.map_some]

/-- A reader that has not come to the end of its text reads on as it did. -/
lemma Carries.of_cons (hadded : ClosesGroup added) {read : List Char → Option (α × List Char)}
    (h : Carries read) {text rest : List Char} {a : α} {c : Char}
    (hread : read text = some (a, c :: rest)) :
    read (text ++ added) = some (a, c :: (rest ++ added)) := by
  rcases h hread with hsame | ⟨hnil, -⟩
  · exact hsame added hadded
  · cases hnil

lemma readHex_carries (blanks : Bool) (count : Nat) : Carries (readHex blanks count) := by
  intro text escape rest h
  unfold readHex at h ⊢
  cases htext : skipBlanks blanks text with
  -- Without digits there is no number, so the text has something in it.
  | nil =>
    simp only [htext, Option.bind_eq_bind, Option.bind_eq_some_iff] at h
    obtain ⟨⟨digits, behind⟩, hdigits, number, hnumber, -⟩ := h
    cases count with
    | zero =>
      obtain ⟨rfl, -⟩ := Prod.mk.inj (Option.some.inj hdigits)
      cases hnumber
    | succ count => cases hdigits
  | cons c text =>
    have htext' (added : List Char) : skipBlanks blanks (_ ++ added) = c :: (text ++ added) :=
      skipBlanks_append htext
    simp only [htext] at h
    split at h
    · rename_i rest' heq
      obtain ⟨rfl, rfl⟩ := List.cons.inj heq
      simp only [Option.bind_eq_bind, Option.bind_eq_some_iff] at h
      obtain ⟨⟨digits, behind⟩, hdigits, number, hnumber, char, hchar, heq⟩ := h
      obtain ⟨rfl, rfl⟩ := Prod.mk.inj (Option.some.inj heq)
      left
      intro added _
      simp only [htext', Option.bind_eq_bind, Option.bind_eq_some_iff]
      exact ⟨(digits, behind ++ added), takeUntil_append hdigits, number, hnumber, char, hchar, rfl⟩
    -- Digits that are counted may be the last of the text, while those in braces are not.
    · rename_i hbrace
      simp only [Option.bind_eq_bind, Option.bind_eq_some_iff] at h
      obtain ⟨⟨digits, behind⟩, hdigits, number, hnumber, char, hchar, heq⟩ := h
      obtain ⟨rfl, rfl⟩ := Prod.mk.inj (Option.some.inj heq)
      have hbrace' (added others : List Char) : c :: (text ++ added) ≠ '{' :: others :=
        fun heq => hbrace text (by rw [(List.cons.inj heq).1])
      dsimp only at hnumber
      rcases takeSignificant_carries blanks count hdigits with hsame | ⟨hnil, hends⟩
      · left
        intro added hadded
        have htaken := hsame added hadded
        rw [List.cons_append] at htaken
        rw [htext']
        split
        · exact absurd ‹_› (hbrace' added _)
        · simp only [htaken, Option.bind_eq_bind, Option.bind_some, hnumber, hchar]
      · refine .inr ⟨hnil, fun added hadded hnewline => ?_⟩
        have htaken := hends added hadded hnewline
        rw [List.cons_append] at htaken
        rw [htext']
        split
        · exact absurd ‹_› (hbrace' added _)
        · simp only [htaken, Option.bind_eq_bind, Option.bind_some, hnumber, hchar]

lemma readProperty_append {blanks negated : Bool} {text rest : List Char} {escape : Escape}
    (h : readProperty blanks negated text = some (escape, rest)) :
    readProperty blanks negated (text ++ added) = some (escape, rest ++ added) := by
  unfold readProperty at h ⊢
  cases htext : skipBlanks blanks text with
  | nil => simp [htext] at h
  | cons c text =>
    rw [skipBlanks_append htext]
    simp only [htext] at h
    split at h
    · rename_i heq
      cases heq
    · rename_i rest' heq
      obtain ⟨rfl, rfl⟩ := List.cons.inj heq
      simp only [Option.bind_eq_bind, Option.bind_eq_some_iff] at h ⊢
      obtain ⟨⟨name, behind⟩, hname, heq⟩ := h
      obtain ⟨rfl, rfl⟩ := Prod.mk.inj (Option.some.inj heq)
      exact ⟨(name, behind ++ added), takeUntil_append hname, rfl⟩
    · cases h
    · rename_i hbrace hbackslash heq
      obtain ⟨rfl, rfl⟩ := List.cons.inj heq
      -- Neither a brace nor a backslash comes next, whatever is added.
      obtain ⟨rfl, rfl⟩ := Prod.mk.inj (Option.some.inj h)
      split <;> simp_all

lemma readBoundary_append (hadded : ClosesGroup added) {blanks : Bool} {text rest : List Char}
    {escape : Escape} (h : readBoundary blanks text = some (escape, rest)) :
    readBoundary blanks (text ++ added) = some (escape, rest ++ added) := by
  unfold readBoundary at h
  split at h
  · rename_i text
    cases htext : skipBlanks blanks text with
    | nil => simp [htext] at h
    | cons c behind =>
      simp only [htext] at h
      simp only [readBoundary, List.cons_append, skipBlanks_append htext]
      split_ifs at h ⊢
      · simp only [Option.bind_eq_bind, Option.bind_eq_some_iff] at h ⊢
        obtain ⟨⟨name, behind⟩, hname, kind, hkind, heq⟩ := h
        obtain ⟨rfl, rfl⟩ := Prod.mk.inj (Option.some.inj heq)
        exact ⟨(name, behind ++ added), takeUntil_append hname, kind, hkind, rfl⟩
      · obtain ⟨rfl, rfl⟩ := Prod.mk.inj (Option.some.inj h)
        rfl
  -- A parenthesis is no brace, so `\b` at the end of the text stays a plain boundary.
  · rename_i hbrace
    obtain ⟨rfl, rfl⟩ := Prod.mk.inj (Option.some.inj h)
    obtain ⟨more, rfl⟩ := hadded.exists_cons
    unfold readBoundary
    split
    · rename_i heq
      cases text with
      | nil => simp at heq
      | cons c text =>
        obtain ⟨rfl, -⟩ := List.cons.inj heq
        exact absurd rfl (hbrace text)
    · rfl

lemma readEscape_carries (blanks : Bool) : Carries (readEscape blanks) := by
  intro text escape rest h
  cases text with
  | nil => cases h
  | cons c text =>
    simp only [readEscape] at h
    split at h
    · exact readHex_carries blanks 2 h
    · exact readHex_carries blanks 4 h
    · exact readHex_carries blanks 8 h
    · exact .inl fun _ _ => readProperty_append h
    · exact .inl fun _ _ => readProperty_append h
    iterate 8
      · obtain ⟨rfl, rfl⟩ := Prod.mk.inj (Option.some.inj h)
        exact .inl fun _ _ => rfl
    · exact .inl fun _ hadded => readBoundary_append hadded h
    iterate 3
      · obtain ⟨rfl, rfl⟩ := Prod.mk.inj (Option.some.inj h)
        exact .inl fun _ _ => rfl
    -- What is left are characters that are escaped, or letters that stand for a character, for
    -- which the next one alone counts.
    · left
      intro added _
      simp only [readEscape, List.cons_append]
      split_ifs at h ⊢
      · obtain ⟨rfl, rfl⟩ := Prod.mk.inj (Option.some.inj h)
        rfl
      · obtain ⟨d, hd, heq⟩ := Option.map_eq_some_iff.1 h
        obtain ⟨rfl, rfl⟩ := Prod.mk.inj heq
        rw [hd]
        rfl

end Lexical.Regex
