import Lexical.Proofs.Pattern.Pieces
import Lexical.Regex.Expr.OfTerm

/-!
# How the text of a pattern is read

The text of a pattern is one item for the reader (`Pattern.item`): nothing in it ends before its end,
so what stands around it applies to it as a whole (`Pattern.readsAs_or_overruns`).  For most patterns
that is so because of the characters of which they are written.  For regular expressions it holds of
those that are well-formed by themselves; with other ones, such as `a)|(?:b`, the group around them can
be closed too early.

The group may also be closed too late, or never, where a regular expression ends in a comment
(`Overruns`).  As no pattern is accepted whose own text is not, that is not a case to come back to
(`Pattern.exists_readsAs`).
-/

namespace Lexical

open Regex Reading

/-- The regular expressions that a pattern is given are well-formed by themselves. -/
def Pattern.SourcesValid : Pattern → Prop
  | regex source => (Expr.ofText? source.toList).isSome = true
  | repetition body _ _ => body.SourcesValid
  | _ => True

instance Pattern.decidableSourcesValid : (pattern : Pattern) → Decidable pattern.SourcesValid
  | regex source => inferInstanceAs (Decidable ((Expr.ofText? source.toList).isSome = true))
  | repetition body _ _ => body.decidableSourcesValid
  | literal _ | literals _ | charClass _ | any => .isTrue trivial

/-- A text that may stand behind a pattern: it makes no repetition lazy. -/
def Trails (more : List Char) : Prop :=
  more.head? ≠ some '?'

/-- A text is read as one item, which comes with names of captures.  Where it is read as anything
else, the reader fails later on. -/
def ReadsAs (text : List Char) (item : Term) (names : List String) : Prop :=
  ∀ r more b, Trails more → r.blanks = false → Accepts (r, text ++ more) b →
    Accepts ({ r.push item with names := names ++ r.names }, more) b

/-- A text that ends in a comment: what stands behind it on the same line belongs to it. -/
def Overruns (text : List Char) : Prop :=
  ∀ r more b, Trails more → '\n' ∉ more → r.blanks = false → ¬ Accepts (r, text ++ more) b

/-- The flags that hold behind a term are those that hold before it. -/
def Regex.Term.KeepsFlags (term : Term) : Prop :=
  ∀ flags es behind, Expr.branchesOfTerm? flags term = some (es, behind) → behind = flags

lemma trails_nil : Trails [] := by
  simp [Trails]

lemma trails_cons {c : Char} (h : c ≠ '?') (more : List Char) : Trails (c :: more) := by
  simpa [Trails] using h

/-! ## Flags -/

lemma keepsFlags_charClass (set : ClassTerm) : (Term.charClass set).KeepsFlags := by
  intro flags es behind h
  obtain ⟨chars, -, h⟩ := Option.bind_eq_some_iff.1 h
  exact (Prod.mk.inj (Option.some.inj h)).2.symm

/-- What is switched in a group holds to its end. -/
lemma keepsFlags_group (switches : Switches) (body : Term) :
    (Term.group switches body).KeepsFlags := by
  intro flags es behind h
  obtain ⟨⟨inner, inside⟩, -, h⟩ := Option.bind_eq_some_iff.1 h
  exact (Prod.mk.inj (Option.some.inj h)).2.symm

lemma Regex.Term.KeepsFlags.repetition {body : Term} (h : body.KeepsFlags) (min : Nat)
    (max : Option Nat) (greedy : Bool) : (Term.repetition body min max greedy).KeepsFlags := by
  intro flags es behind hes
  obtain ⟨⟨inner, inside⟩, hinner, hes⟩ := Option.bind_eq_some_iff.1 hes
  obtain ⟨-, rfl⟩ := Prod.mk.inj (Option.some.inj hes)
  exact h flags inner _ hinner

/-! ## Groups -/

lemma skipBlanks_of_parenthesis (blanks : Bool) (more : List Char) :
    skipBlanks blanks (')' :: more) = ')' :: more := by
  unfold skipBlanks
  split_ifs
  · simp [skipBlanks.skip, isBlank_parenthesis]
  · rfl

/-- The reader in the group that a non-capturing parenthesis opens. -/
def Regex.Reading.opened (r : Reading) : Reading :=
  r.openGroup (.switches []) false

lemma steps_of_step {r : Reading} {c : Char} {rest : List Char} {b : Configuration}
    (hblanks : r.blanks = false) (h : r.step c rest = some b) : Steps (r, c :: rest) b :=
  .single ⟨c, rest, by rw [hblanks, skipBlanks_false], h⟩

lemma not_accepts_of_step {r : Reading} {c : Char} {rest : List Char} {b : Configuration}
    (hblanks : r.blanks = false) (h : r.step c rest = none) : ¬ Accepts (r, c :: rest) b := by
  intro haccepts
  rcases haccepts.steps.cases_head with rfl | ⟨later, ⟨d, rest', htext, hstep⟩, -⟩
  · have hend := haccepts.atEnd
    unfold AtEnd at hend
    rw [hblanks] at hend
    cases hend
  · rw [hblanks, skipBlanks_false] at htext
    obtain ⟨rfl, rfl⟩ := List.cons.inj htext
    rw [h] at hstep
    cases hstep

lemma steps_opened {r : Reading} (hblanks : r.blanks = false) (rest : List Char) :
    Steps (r, '(' :: '?' :: ':' :: rest) (r.opened, rest) := by
  have htext : skipBlanks r.blanks ('?' :: ':' :: rest) = '?' :: ':' :: rest := by
    rw [hblanks, skipBlanks_false]
  have hgroup : r.readGroup ('?' :: ':' :: rest) = r.readQuestion (':' :: rest) :=
    readGroup_of_question htext
  apply steps_of_step hblanks
  change r.readGroup _ = _
  -- None of the branches for other groups applies behind `?:`.
  rw [hgroup]
  simp [readQuestion, readFlags, readSwitches, Switches.find?, opened, hblanks]

lemma steps_closed {r : Reading} {more : List Char} (hblanks : r.blanks = false) (inner : Reading)
    (hgroups : inner.groups = r.opened.groups) {rest : List Char}
    (hrest : skipBlanks inner.blanks rest = ')' :: more) :
    Steps (inner, rest)
      ({ r.push (.group [] inner.branches.term) with names := inner.names }, more) := by
  refine .single ⟨')', more, hrest, ?_⟩
  change (inner.closeGroup?.map fun r => (r, more)) = _
  simp [closeGroup?, hgroups, opened, openGroup, hblanks, push, GroupKind.close]

/-! ## Escaped texts -/

/-- A text that changes the branches in the same way wherever it is read. -/
def Fills (text : List Char) (fill : Branches → Branches) : Prop :=
  ∀ r more, r.blanks = false →
    Steps (r, text ++ more) ({ r with branches := fill r.branches }, more)

lemma Fills.nil : Fills [] id :=
  fun _ _ _ => .refl

lemma Fills.append {text others : List Char} {fill more : Branches → Branches}
    (h : Fills text fill) (h' : Fills others more) : Fills (text ++ others) (more ∘ fill) := by
  intro r behind hblanks
  rw [List.append_assoc]
  exact (h r (others ++ behind) hblanks).trans (h' _ behind hblanks)

lemma fills_bar : Fills ['|'] Branches.bar :=
  fun _ _ hblanks => steps_of_step hblanks rfl

/-- A character without a meaning of its own stands for itself. -/
lemma step_of_not_isMeta {c : Char} (h : isMeta c = false) (r : Reading) (more : List Char) :
    r.step c more = some (r.push (.literal (verbatim c)), more) := by
  unfold step
  split
  -- The twelve characters that the reader treats by themselves all have a meaning of their own.
  iterate 12
    · exact absurd h (by decide)
  · rfl

/-- A character as it is written in a literal text. -/
lemma fills_escaped (c : Char) :
    Fills (if isMeta c then ['\\', c] else [c]) fun branches => branches.push (.literal (verbatim c)) := by
  intro r more hblanks
  by_cases hmeta : isMeta c = true
  · rw [if_pos hmeta]
    apply steps_of_step hblanks
    have hread : readEscape r.blanks (c :: more) = some (.literal (verbatim c), more) := by
      rw [hblanks]
      exact readEscape_of_isMeta hmeta more
    change ((readEscape r.blanks (c :: more)).map fun read => (r.push read.1.term, read.2)) = _
    rw [hread]
    rfl
  · rw [if_neg hmeta]
    exact steps_of_step hblanks (step_of_not_isMeta (by simpa using hmeta) r more)

namespace Pattern

/-- The characters of a text, each as an item. -/
def textItems (text : String) : List Term :=
  text.toList.map fun c => .literal (verbatim c)

/-- The term of a text that stands for itself. -/
def textTerm (text : String) : Term :=
  .ofItems (textItems text)

/-- A text stands for itself. -/
lemma fills_escape (text : String) :
    Fills (escape text) fun branches =>
      { branches with items := (textItems text).reverse ++ branches.items } := by
  unfold escape textItems
  induction text.toList with
  | nil => exact .nil
  | cons c text ih =>
    -- The items are kept in reverse, as they have been pushed.
    have hboth := (fills_escaped c).append ih
    simp only [Function.comp_def, Branches.push] at hboth
    simpa using hboth

/-- Texts with bars between them are the branches.  The induction is on the texts behind the first. -/
lemma exists_fills_writeBranches_cons (text : String) (texts : List String) :
    ∃ fill, Fills (writeBranches ((text :: texts).map escape)) fill ∧
      ∀ done, (fill ⟨done, []⟩).term = Term.ofBranches (done.reverse ++ (text :: texts).map textTerm) := by
  induction texts generalizing text with
  | nil =>
    refine ⟨_, by simpa [writeBranches] using fills_escape text, fun done => ?_⟩
    simp [Branches.term, Branches.bar, textTerm]
  | cons next texts ih =>
    obtain ⟨fill, hfill, hterm⟩ := ih next
    have hwritten : writeBranches ((text :: next :: texts).map escape) =
        escape text ++ (['|'] ++ writeBranches ((next :: texts).map escape)) := by
      simp [writeBranches, List.intercalate]
    rw [hwritten]
    refine ⟨_, (fills_escape text).append (fills_bar.append hfill), fun done => ?_⟩
    simp [Branches.bar, hterm, textTerm]

lemma exists_fills_writeBranches (texts : List String) :
    ∃ fill, Fills (writeBranches (texts.map escape)) fill ∧
      (fill .start).term = Term.ofBranches (texts.map textTerm) := by
  cases texts with
  | nil => exact ⟨id, .nil, rfl⟩
  | cons text texts =>
    obtain ⟨fill, hfill, hterm⟩ := exists_fills_writeBranches_cons text texts
    exact ⟨fill, hfill, hterm []⟩

end Pattern

/-- A group around a text that fills its branches. -/
lemma Fills.readsAs_writeGroup {text : List Char} {fill : Branches → Branches}
    (h : Fills text fill) :
    ReadsAs (Pattern.writeGroup text) (.group [] (fill .start).term) [] := by
  intro r more b _ hblanks haccepts
  have htext : Pattern.writeGroup text ++ more = '(' :: '?' :: ':' :: (text ++ ')' :: more) := by
    simp [Pattern.writeGroup]
  rw [htext] at haccepts
  have hinner := h r.opened (')' :: more) rfl
  -- The parenthesis ends the group, as the text has left none open inside.
  have hclosed := steps_closed hblanks { r.opened with branches := fill r.opened.branches } rfl
    (skipBlanks_of_parenthesis _ more)
  exact haccepts.of_steps ((steps_opened hblanks _).trans (hinner.trans hclosed))

/-! ## Patterns -/

lemma readsAs_charClass (set : CharSet) : ReadsAs set.write (.charClass set.term) [] := by
  obtain ⟨text, htext, hread⟩ := exists_readBracket_write set
  intro r more b _ hblanks haccepts
  rw [htext, List.cons_append] at haccepts
  -- A bracket with a range that runs backwards is refused, and then nothing was accepted.
  have hstep : r.step '[' (text ++ more) =
      if set.Ordered then some (r.push (.charClass set.term), more) else none := by
    change ((readBracket r.blanks (text ++ more)).map fun read =>
      (r.push (.charClass read.1), read.2)) = _
    rw [hblanks, hread more]
    split_ifs <;> rfl
  by_cases hordered : set.Ordered
  · rw [if_pos hordered] at hstep
    exact haccepts.of_steps (steps_of_step hblanks hstep)
  · rw [if_neg hordered] at hstep
    exact absurd haccepts (not_accepts_of_step hblanks hstep)

/-- The pattern for any character is a group in which the dot admits line breaks. -/
lemma readsAs_any : ReadsAs Pattern.any.write (.group [(.dotAll, true)] .dot) [] := by
  intro r more b _ hblanks haccepts
  have hread : Steps (r, '(' :: '?' :: 's' :: ':' :: '.' :: ')' :: more)
      (r.push (.group [(.dotAll, true)] .dot), more) := by
    have htext : skipBlanks r.blanks ('?' :: 's' :: ':' :: '.' :: ')' :: more) =
        '?' :: 's' :: ':' :: '.' :: ')' :: more := by
      rw [hblanks, skipBlanks_false]
    have hgroup := readGroup_of_question htext
    have hopened : Steps (r, '(' :: '?' :: 's' :: ':' :: '.' :: ')' :: more)
        (r.openGroup (.switches [(.dotAll, true)]) false, '.' :: ')' :: more) := by
      apply steps_of_step hblanks
      change r.readGroup _ = _
      rw [hgroup]
      simp [readQuestion, readFlags, readSwitches, Switches.find?, flag?, hblanks]
      rfl
    have hdot : Steps (r.openGroup (.switches [(.dotAll, true)]) false, '.' :: ')' :: more)
        ((r.openGroup (.switches [(.dotAll, true)]) false).push .dot, ')' :: more) :=
      steps_of_step rfl rfl
    have hclosed : Steps ((r.openGroup (.switches [(.dotAll, true)]) false).push .dot, ')' :: more)
        (r.push (.group [(.dotAll, true)] .dot), more) := by
      apply steps_of_step rfl
      have hterm : (Branches.start.push .dot).term = .dot := rfl
      simp [step, closeGroup?, openGroup, push, GroupKind.close, hblanks, hterm]
    exact hopened.trans (hdot.trans hclosed)
  exact haccepts.of_steps hread

/-- The text of a regular expression that is well-formed by itself makes one group, unless a comment
runs over the parenthesis at its end. -/
lemma readsAs_or_overruns_regex {source : List Char} {term : Term}
    (h : Term.ofText? source = some term) :
    (∃ names, ReadsAs (Pattern.writeGroup source) (.group [] term) names) ∨
      Overruns (Pattern.writeGroup source) := by
  obtain ⟨last, haccepts, rfl⟩ := Term.exists_accepts_of_ofText? h
  have htext (more : List Char) : Pattern.writeGroup source ++ more =
      '(' :: '?' :: ':' :: (source ++ ')' :: more) := by
    simp [Pattern.writeGroup]
  -- Inside the group the reader is as at the start of a text, but for what is open and taken
  -- around it.
  have hopened {r : Reading} : r.opened = Reading.start.within r.opened.groups r.names := by
    simp [opened, openGroup, start, within]
  rcases haccepts.within with hinside | hends
  · refine .inl ⟨last.1.names, fun r more b _ hblanks hall => ?_⟩
    rw [htext] at hall
    have hbody := hall.of_steps (steps_opened hblanks _)
    rw [hopened] at hbody
    -- The text ends in front of the parenthesis, or runs over it with a comment.
    obtain ⟨rest, hrest, hbehind⟩ := hinside _ (closesGroup_cons more) _ _ b hbody
    have hgroups : (last.1.within r.opened.groups r.names).groups = r.opened.groups := by
      simp [within, haccepts.groups_eq]
    exact hbehind.of_steps (steps_closed hblanks _ hgroups hrest)
  · refine .inr fun r more b _ hnewline hblanks hall => ?_
    rw [htext] at hall
    have hbody := hall.of_steps (steps_opened hblanks _)
    rw [hopened] at hbody
    exact hends _ (closesGroup_cons more) (by simpa using hnewline) _ _ b (by simp [opened, openGroup]) hbody

/-! ## Repetitions -/

lemma newline_not_mem_writeCount (min : Nat) (max : Option Nat) :
    '\n' ∉ Pattern.writeCount min max := by
  have hdigits (n : Nat) : '\n' ∉ Nat.toDigits 10 n := by
    intro hmem
    have hdigit := Nat.isDigit_of_mem_toDigits (by decide) (by decide) hmem
    revert hdigit
    decide
  unfold Pattern.writeCount
  split
  · split_ifs <;> simp [hdigits]
  · split <;> simp [hdigits]

lemma step_repetition (r : Reading) {more : List Char} (h : Trails more)
    (flags : Switches) (body : Term) (min : Nat) (max : Option Nat) :
    (r.push (.group flags body)).readRepetition min max more =
      some (r.push (.repetition (.group flags body) min max true), more) := by
  unfold readRepetition
  split
  · exact absurd rfl h
  · rfl

/-- What is written behind a group repeats it. -/
lemma accepts_of_writeCount {flags : Switches} {body : Term} {min : Nat} {max : Option Nat}
    {r : Reading} {more : List Char} {b : Configuration} (htrails : Trails more)
    (hblanks : r.blanks = false)
    (h : Accepts (r.push (.group flags body), Pattern.writeCount min max ++ more) b) :
    Accepts (r.push (.repetition (.group flags body) min max true), more) b := by
  have hcount := Pattern.countText_writeCount min max
  -- All that matters of the count is how it is read, which `CountText` tells.
  generalize Pattern.writeCount min max = text at h hcount
  have hrepeat := step_repetition r htrails flags body min max
  cases hcount with
  | star => exact h.of_steps (steps_of_step hblanks hrepeat)
  | plus => exact h.of_steps (steps_of_step hblanks hrepeat)
  | @braces _ _ text hbounds =>
    have hblanks' : (r.push (.group flags body)).blanks = false := hblanks
    have hstep : (r.push (.group flags body)).step '{' (text ++ more) =
        if Pattern.CountFits min max then
          some (r.push (.repetition (.group flags body) min max true), more) else none := by
      simp only [step, hblanks', hbounds, skipBlanks_false, Option.bind_eq_bind]
      split_ifs
      · exact hrepeat
      · rfl
    by_cases hfits : Pattern.CountFits min max
    · rw [if_pos hfits] at hstep
      exact h.of_steps (steps_of_step hblanks hstep)
    · rw [if_neg hfits] at hstep
      exact absurd h (not_accepts_of_step hblanks hstep)

section Repetition

variable {body : List Char} {item : Term} {names : List String}

lemma writeGroup_writeCount (body more : List Char) (min : Nat) (max : Option Nat) :
    (Pattern.writeGroup body ++ Pattern.writeCount min max) ++ more =
      '(' :: '?' :: ':' :: (body ++ ')' :: (Pattern.writeCount min max ++ more)) := by
  simp [Pattern.writeGroup]

/-- A repeated group is one item, too. -/
lemma ReadsAs.repetition (h : ReadsAs body item names) (min : Nat) (max : Option Nat) :
    ReadsAs (Pattern.writeGroup body ++ Pattern.writeCount min max)
      (.repetition (.group [] item) min max true) names := by
  intro r more b htrails hblanks hall
  rw [writeGroup_writeCount] at hall
  have hinside := hall.of_steps (steps_opened hblanks _)
  -- Inside the group what follows is the parenthesis, which is no question mark.
  have hbody := h r.opened _ b (trails_cons (by decide) _) rfl hinside
  have hbehind := hbody.of_steps
    (steps_closed hblanks { r.opened.push item with names := names ++ r.names } rfl
      (skipBlanks_of_parenthesis _ _))
  exact accepts_of_writeCount (r := { r with names := names ++ r.names }) htrails hblanks hbehind

/-- A comment runs over what repeats the group, too. -/
lemma Overruns.repetition (h : Overruns body) (min : Nat) (max : Option Nat) :
    Overruns (Pattern.writeGroup body ++ Pattern.writeCount min max) := by
  intro r more b _ hnewline hblanks hall
  rw [writeGroup_writeCount] at hall
  have hinside := hall.of_steps (steps_opened hblanks _)
  have hline : '\n' ∉ ')' :: (Pattern.writeCount min max ++ more) := by
    simp [newline_not_mem_writeCount, hnewline]
  exact h r.opened _ b (trails_cons (by decide) _) hline rfl hinside

end Repetition

namespace Pattern

/-- The item as which the text of a pattern is read. -/
def item : Pattern → Term
  | literal text => .group [] (textTerm text)
  | literals texts => .group [] (.ofBranches ((longestFirst texts).map textTerm))
  | charClass set => .charClass set.term
  | repetition body min max => .repetition (.group [] body.item) min max true
  | regex source => .group [] ((Term.ofText? source.toList).getD .empty)
  | any => .group [(.dotAll, true)] .dot

lemma keepsFlags_item (pattern : Pattern) : pattern.item.KeepsFlags := by
  cases pattern with
  | charClass set => exact keepsFlags_charClass set.term
  | repetition body min max => exact (keepsFlags_group [] body.item).repetition min max true
  | literal _ | literals _ | regex _ | any => exact keepsFlags_group _ _

/-- **The text of a pattern is read as one item**, as long as the regular expressions in it are
well-formed by themselves; only a comment can run over its end.  The induction is on the pattern; only
repetitions have a part. -/
theorem readsAs_or_overruns {pattern : Pattern} (hvalid : pattern.SourcesValid) :
    (∃ names, ReadsAs pattern.write pattern.item names) ∨ Overruns pattern.write := by
  induction pattern with
  | literal text =>
    have hreads := (fills_escape text).readsAs_writeGroup
    have hterm : (⟨Branches.start.done, (textItems text).reverse ++ Branches.start.items⟩ :
        Branches).term = textTerm text := by
      simp [Branches.term, Branches.bar, Branches.start, textTerm, Term.ofBranches]
    rw [hterm] at hreads
    exact .inl ⟨_, hreads⟩
  | literals texts =>
    obtain ⟨fill, hfill, hterm⟩ := exists_fills_writeBranches (longestFirst texts)
    have hreads := hfill.readsAs_writeGroup
    rw [hterm] at hreads
    exact .inl ⟨_, hreads⟩
  | charClass set => exact .inl ⟨_, readsAs_charClass set⟩
  | repetition body min max ih =>
    -- What is said of the part holds of the group around it.
    rcases ih hvalid with ⟨names, hbody⟩ | hends
    · exact .inl ⟨names, hbody.repetition min max⟩
    · exact .inr (hends.repetition min max)
  | regex source =>
    obtain ⟨e, he⟩ := Option.isSome_iff_exists.1 hvalid
    obtain ⟨term, hterm, -⟩ := Option.bind_eq_some_iff.1 he
    rcases readsAs_or_overruns_regex hterm with ⟨names, hnames⟩ | hends
    · refine .inl ⟨names, ?_⟩
      rw [item, hterm]
      exact hnames
    · exact .inr hends
  | any => exact .inl ⟨_, readsAs_any⟩

end Pattern

/-! ## Texts that are accepted -/

/-- A text that is read as an item is that item. -/
lemma ReadsAs.eq_of_ofText? {text : List Char} {item term : Term} {names : List String}
    (h : ReadsAs text item names) (hterm : Term.ofText? text = some term) : term = item := by
  obtain ⟨last, haccepts, rfl⟩ := Term.exists_accepts_of_ofText? hterm
  -- A text by itself is one with nothing behind it.
  rw [← List.append_nil text] at haccepts
  have hpushed := h Reading.start [] last trails_nil rfl haccepts
  obtain rfl := hpushed.eq_of_atEnd (atEnd_nil _)
  rfl

lemma Overruns.ofText?_eq_none {text : List Char} (h : Overruns text) : Term.ofText? text = none := by
  cases hterm : Term.ofText? text with
  | none => rfl
  | some term =>
    obtain ⟨last, haccepts, -⟩ := Term.exists_accepts_of_ofText? hterm
    rw [← List.append_nil text] at haccepts
    exact absurd haccepts (h Reading.start [] last trails_nil (by simp) rfl)

/-- **A pattern whose text is accepted is read as its item**, wherever it stands. -/
theorem Pattern.exists_readsAs {pattern : Pattern} (hvalid : pattern.SourcesValid) {term : Term}
    (hterm : Term.ofText? pattern.write = some term) :
    term = pattern.item ∧ ∃ names, ReadsAs pattern.write pattern.item names := by
  rcases readsAs_or_overruns hvalid with ⟨names, hreads⟩ | hends
  · exact ⟨hreads.eq_of_ofText? hterm, names, hreads⟩
  · rw [hends.ofText?_eq_none] at hterm
    cases hterm

end Lexical
