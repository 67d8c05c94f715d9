import Lexical.Proofs.Lexer.Library
import Lexical.Proofs.Lexer.Tiling
import Mathlib.Data.List.TakeWhile

/-!
# Lines and columns

A lexer reckons lines and columns match by match, and stops counting at `Position.maxCount`.  This
file gives the closed form (`Position.behind`): the line is that of the start and one more for each
line break that counts, and the column is what stands behind the last of these, or behind the start
if there is none.  A line break counts if the rule of the match that holds it counts line breaks
(`Match.marks`).

`Position.past_behind` is the step: the position behind a match depends on the closed form before it
alone.  Every row of calls keeps it (`Lexer.Tracked.performAll`), whatever is ignored or fails on the
way, and so each token carries the closed form of what was read before it
(`Lexer.position_performAll_reset`).
-/

namespace Lexical

/-! ## Texts with the line breaks that count -/

/-- A character of a text, and whether it is a line break that counts. -/
structure Mark where
  char : Char
  counts : Bool
deriving DecidableEq

namespace Mark

/-- The characters without their marks. -/
def text (marks : List Mark) : List Char :=
  marks.map Mark.char

/-- The number of line breaks that count. -/
def breaks (marks : List Mark) : Nat :=
  marks.countP Mark.counts

/-- The number of characters behind the last line break that counts. -/
def tail (marks : List Mark) : Nat :=
  (marks.reverse.takeWhile fun mark => !mark.counts).length

@[simp] lemma text_append (marks more : List Mark) : text (marks ++ more) = text marks ++ text more :=
  List.map_append

@[simp] lemma breaks_append (marks more : List Mark) :
    breaks (marks ++ more) = breaks marks + breaks more :=
  List.countP_append

@[simp] lemma length_text (marks : List Mark) : (text marks).length = marks.length :=
  List.length_map _

lemma tail_append_of_breaks_eq_zero {marks more : List Mark} (h : breaks more = 0) :
    tail (marks ++ more) = tail marks + more.length := by
  have hnone : ∀ mark ∈ more.reverse, (!mark.counts) = true := by
    intro mark hmark
    have hcounts := List.countP_eq_zero.1 h mark (List.mem_reverse.1 hmark)
    simpa using hcounts
  rw [tail, List.reverse_append, List.takeWhile_append_of_pos hnone, List.length_append,
    List.length_reverse, Nat.add_comm, tail]

/-- What stands before a line break that counts is no part of the tail. -/
lemma tail_append_of_breaks_pos {marks more : List Mark} (h : 0 < breaks more) :
    tail (marks ++ more) = tail more := by
  obtain ⟨mark, hmark, hcounts⟩ := List.countP_pos_iff.1 h
  -- The marks from the end stop at the one that counts, and so do not reach across the whole of
  -- `more`.
  have hlength : (more.reverse.takeWhile fun mark => !mark.counts).length ≠ more.reverse.length := by
    intro hlength
    have hall := (List.takeWhile_prefix (fun mark : Mark => !mark.counts)).eq_of_length hlength
    have hmarks := List.takeWhile_eq_self_iff.1 hall mark (List.mem_reverse.2 hmark)
    simp [hcounts] at hmarks
  rw [tail, List.reverse_append, List.takeWhile_append, if_neg hlength, tail]

end Mark

/-! ## The closed form of a position -/

namespace Position

/-- The line and the column are numbers that can be counted to. -/
def Countable (position : Position) : Prop :=
  position.line ≤ maxCount ∧ position.column ≤ maxCount

instance (position : Position) : Decidable position.Countable :=
  inferInstanceAs (Decidable (_ ∧ _))

/-- The position behind a text that begins at `start`.  Behind a line break that counts, columns are
reckoned from it. -/
def behind (start : Position) (marks : List Mark) : Position where
  offset := moveOffset start.offset (Text.byteLength (Mark.text marks))
  line := min maxCount (start.line + Mark.breaks marks)
  column :=
    if Mark.breaks marks = 0 then min maxCount (start.column + marks.length)
    else min maxCount (1 + Mark.tail marks)

lemma behind_nil {start : Position} (h : start.Countable) :
    start.behind [] = ⟨moveOffset start.offset 0, start.line, start.column⟩ := by
  obtain ⟨hline, hcolumn⟩ := h
  simp [behind, Mark.breaks, Mark.text, Nat.min_eq_right hline, Nat.min_eq_right hcolumn]

/-- **The closed form goes on from a match to the next.**  The breaks in the match that count have
been counted as far as counting goes, and columns are reckoned from its last line break. -/
lemma past_behind (start : Position) (marks : List Mark) {more : List Mark} {lineBreaks : Nat}
    (hcounted : lineBreaks = min maxCount (Mark.breaks more))
    (htail : 0 < Mark.breaks more → (Text.lastLine (Mark.text more)).length = Mark.tail more) :
    (start.behind marks).past (Mark.text more) lineBreaks = start.behind (marks ++ more) := by
  have hmax : 0 < maxCount := by decide
  by_cases hbreaks : Mark.breaks more = 0
  · have hzero : ¬ 0 < lineBreaks := by omega
    -- Nothing new counts, so the line stays, and the column goes on from where it was.
    simp only [past, behind, if_neg hzero, Mark.text_append, Text.byteLength_append,
      Mark.breaks_append, hbreaks, Mark.tail_append_of_breaks_eq_zero hbreaks, Mark.length_text,
      List.length_append, addCount, Position.mk.injEq]
    refine ⟨moveOffset_moveOffset _ _ _, by omega, ?_⟩
    split_ifs <;> omega
  · have hpos : 0 < lineBreaks := by omega
    -- With a new line break the column starts again behind it, whatever it was before.
    have hsome : Mark.breaks marks + Mark.breaks more ≠ 0 := by omega
    simp only [past, behind, if_pos hpos, Mark.text_append, Text.byteLength_append,
      Mark.breaks_append, if_neg hsome, htail (Nat.pos_of_ne_zero hbreaks),
      Mark.tail_append_of_breaks_pos (Nat.pos_of_ne_zero hbreaks), addCount, Position.mk.injEq]
    exact ⟨moveOffset_moveOffset _ _ _, by omega, by omega⟩

end Position

/-! ## The marks of matches -/

namespace Match

variable {lexicon : Lexicon}

/-- The text of a match; its line breaks count if its rule counts them. -/
def marks (m : Match lexicon) : List Mark :=
  m.text.map fun c => ⟨c, m.entry.lineBreaks && c = '\n'⟩

/-- The texts of matches, one after the other. -/
def allMarks (taken : List (Match lexicon)) : List Mark :=
  taken.flatMap marks

@[simp] lemma allMarks_append (taken others : List (Match lexicon)) :
    allMarks (taken ++ others) = allMarks taken ++ allMarks others :=
  List.flatMap_append

@[simp] lemma text_marks (m : Match lexicon) : Mark.text m.marks = m.text := by
  simp [Mark.text, marks, Function.comp_def]

lemma text_allMarks (taken : List (Match lexicon)) : Mark.text (allMarks taken) = texts taken := by
  induction taken with
  | nil => rfl
  | cons m taken ih =>
    have hmarks : allMarks (m :: taken) = m.marks ++ allMarks taken := rfl
    rw [hmarks, Mark.text_append, text_marks, ih, texts_cons]

lemma breaks_marks (m : Match lexicon) :
    Mark.breaks m.marks = if m.entry.lineBreaks then Text.lineBreaks m.text else 0 := by
  cases hbreaks : m.entry.lineBreaks with
  | true => simp [Mark.breaks, marks, hbreaks, List.countP_map, Function.comp_def, Text.lineBreaks,
      List.count_eq_countP, BEq.beq]
  | false => simp [Mark.breaks, marks, hbreaks, List.countP_map, Function.comp_def]

/-- Where line breaks count, the last of them is the last of the text. -/
lemma tail_marks {m : Match lexicon} (h : 0 < Mark.breaks m.marks) :
    (Text.lastLine m.text).length = Mark.tail m.marks := by
  rw [breaks_marks] at h
  split_ifs at h with hbreaks
  · simp [Text.lastLine, Mark.tail, marks, hbreaks, ← List.map_reverse, List.takeWhile_map,
      Function.comp_def]
  · omega

end Match

namespace Lexer

variable {lexicon : Lexicon}

/-! ## One match -/

/-- The line breaks that are counted are those that count. -/
lemma Takes.lineBreaks_eq {lexer rest : Lexer lexicon} {length : Nat} {m : Match lexicon}
    (h : lexer.Takes length m rest) :
    m.lineBreaks = min Position.maxCount (Mark.breaks m.marks) := by
  have hcounted := h.counted
  rw [Match.breaks_marks]
  unfold countLineBreaks at hcounted
  cases hbreaks : m.entry.lineBreaks with
  | true =>
    simp only [hbreaks, Bool.or_true, if_true] at hcounted ⊢
    rw [← Except.ok.inj hcounted, Nat.min_comm]
  | false =>
    simp only [hbreaks, Bool.or_false, decide_eq_true_eq] at hcounted
    split_ifs at hcounted with hnone hstrict
    -- Line breaks that the rule does not declare are not counted, or they are an error.
    · rw [← Except.ok.inj hcounted, hnone]
      rfl
    · exact (Except.ok.inj hcounted).symm

/-- Where line breaks must be declared, all of them count. -/
lemma Takes.counts_of_strict {lexer rest : Lexer lexicon} {length : Nat} {m : Match lexicon}
    (h : lexer.Takes length m rest) (hstrict : lexicon.options.strictLineBreaks = true)
    {mark : Mark} (hmark : mark ∈ m.marks) (hchar : mark.char = '\n') : mark.counts = true := by
  obtain ⟨c, hc, rfl⟩ := List.mem_map.1 hmark
  obtain rfl : c = '\n' := hchar
  have hcounted := h.counted
  have hpos : Text.lineBreaks m.text ≠ 0 := Nat.pos_iff_ne_zero.1 (List.count_pos_iff.2 hc)
  unfold countLineBreaks at hcounted
  simp only [Bool.or_eq_true, decide_eq_true_eq, hpos, false_or, hstrict, if_true] at hcounted
  split_ifs at hcounted with hbreaks
  simp [hbreaks]

/-! ## Calls -/

/-- The position of a lexer and of each match that it has taken are the closed form of what was read
before. -/
structure Tracked (start : Position) (taken : List (Match lexicon)) (lexer : Lexer lexicon) :
    Prop where
  position_eq : lexer.position = start.behind (Match.allMarks taken)
  starts : ∀ before m behind, taken = before ++ m :: behind →
    m.start = start.behind (Match.allMarks before)

namespace Tracked

variable {start : Position} {taken others : List (Match lexicon)} {lexer rest : Lexer lexicon}

lemma takes (h : Tracked start taken lexer) {length : Nat} {m : Match lexicon}
    (htakes : lexer.Takes length m rest) : Tracked start (taken ++ [m]) rest where
  position_eq := by
    have hmarks : Match.allMarks [m] = m.marks := List.append_nil _
    have hstep := Position.past_behind start (Match.allMarks taken) htakes.lineBreaks_eq
      (by rw [Match.text_marks]; exact Match.tail_marks)
    rw [Match.text_marks] at hstep
    rw [htakes.position_eq, h.position_eq, hstep, Match.allMarks_append, hmarks]
  starts before other behind hsplit := by
    -- The match is the new one, or it stands in the old row.
    rcases List.eq_nil_or_concat behind with rfl | ⟨behind, last, rfl⟩
    · obtain ⟨rfl, hlast⟩ := List.append_inj' hsplit rfl
      obtain rfl := List.singleton_inj.1 hlast
      rw [htakes.start_eq, h.position_eq]
    · rw [List.concat_eq_append, ← List.cons_append, ← List.append_assoc] at hsplit
      exact h.starts before other behind (List.append_inj' hsplit rfl).1

/-- Where a change by hand leaves the stack does not matter. -/
lemma sameText (h : Tracked start taken lexer) (hsame : SameText lexer rest) :
    Tracked start taken rest := by
  obtain ⟨stack, rfl⟩ := hsame
  exact ⟨h.position_eq, h.starts⟩

/-- **The closed form holds behind every row of calls.** -/
lemma performAll (h : Tracked start taken lexer) (commands : List Command) :
    Tracked start (taken ++ lexer.takenOver commands) (lexer.performAll commands) :=
  performAll_preserves (P := Tracked start) (fun h _ => h.takes) (fun h => h.sameText) h commands

end Tracked

/-- Where a lexer that is reset starts. -/
def startOf (state : Option LexerState) : Position :=
  (state.map LexerState.position).getD .start

lemma tracked_reset (origin : Lexer lexicon) (text : List Char) {state : Option LexerState}
    (hcountable : (startOf state).Countable) :
    Tracked (startOf state) [] (origin.reset text state) := by
  refine ⟨?_, by simp⟩
  have hnil : Match.allMarks ([] : List (Match lexicon)) = [] := rfl
  rw [hnil, Position.behind_nil hcountable]
  cases state with
  | none => rfl
  | some state => rfl

/-! ## The whole run -/

variable {declared : List Declaration} {categories : CategoryRegistry} {options : LexerOptions}

/-- **Lines and columns are those of the text that was read.**  A lexer is reset to a text, with or
without a saved state, and called in any way.  The marks of the matches that it takes are what it has
read, where a line break counts just if the rule of its match counts line breaks.  Behind the calls
the lexer is at the closed form of all marks.  Each token that it gives is at the closed form of the
marks before it, and has the number of line breaks that count in its text.  Where line breaks must be
declared, every one that has been read counts. -/
theorem position_performAll_reset
    (hcompiled : Lexicon.ofStates declared categories options = .ok lexicon)
    (origin : Lexer lexicon) (text : List Char) (state : Option LexerState)
    (hcountable : (startOf state).Countable) (commands : List Command) :
    let lexer := origin.reset text state
    let taken := lexer.takenOver commands
    let stop := lexer.performAll commands
    (text = Mark.text (Match.allMarks taken) ++ stop.ahead
        ∧ ∀ m ∈ taken, ∃ declaration rule, declared[m.state.val]? = some declaration
          ∧ rule ∈ declaration.2 ∧ m.entry.kind = rule.kind
          ∧ m.marks = m.text.map fun c => ⟨c, rule.lineBreaks && c = '\n'⟩)
      ∧ stop.position = (startOf state).behind (Match.allMarks taken)
      ∧ (∀ t ∈ lexer.tokensOver commands, ∃ before m behind, taken = before ++ m :: behind
        ∧ t = m.token ∧ t.text.toList = Mark.text m.marks
        ∧ t.position = (startOf state).behind (Match.allMarks before)
        ∧ t.lineBreaks = min Position.maxCount (Mark.breaks m.marks))
      ∧ (options.strictLineBreaks = true →
        ∀ mark ∈ Match.allMarks taken, mark.char = '\n' → mark.counts = true) := by
  intro lexer taken stop
  have htracked := (tracked_reset origin text hcountable).performAll commands
  have htiled := (tiled_reset origin text state).performAll commands
  have hoptions := (Lexicon.composedOf_of_ofStates hcompiled).options_eq
  refine ⟨⟨?_, fun m hm => ?_⟩, htracked.position_eq, fun t ht => ?_, fun hstrict mark hmark => ?_⟩
  -- Matches tile what has been read, so their marks spell it.
  · rw [Match.text_allMarks]
    exact htiled.text_eq
  · obtain ⟨before, length, rest, htakes⟩ := exists_takes_of_mem_takenOver hm
    obtain ⟨declaration, rule, hdeclaration, hrule, hentry⟩ := htakes.exists_rule hcompiled
    exact ⟨declaration, rule, hdeclaration, hrule, hentry.kind_eq, by
      rw [Match.marks, hentry.lineBreaks_eq]⟩
  · have htokens : lexer.tokensOver commands = Match.tokens taken := tokensOver_eq lexer commands
    rw [htokens] at ht
    obtain ⟨m, hm, rfl⟩ := Match.exists_of_mem_tokens ht
    obtain ⟨_, length, rest, htakes⟩ := exists_takes_of_mem_takenOver hm
    obtain ⟨before, behind, hsplit⟩ := List.append_of_mem hm
    have hstart : m.start = (startOf state).behind (Match.allMarks before) :=
      htracked.starts before m behind hsplit
    refine ⟨before, m, behind, hsplit, rfl, ?_, hstart, htakes.lineBreaks_eq⟩
    rw [Match.text_token, Match.text_marks]
  · obtain ⟨m, hm, hmark⟩ := List.mem_flatMap.1 hmark
    obtain ⟨_, length, rest, htakes⟩ := exists_takes_of_mem_takenOver hm
    rw [← hoptions] at hstrict
    exact htakes.counts_of_strict hstrict hmark

/-! ### Rows of words, near the end of counting -/

/-- Words, ignored gaps whose line breaks count, and a mark with a line break that does not. -/
def rowStates : List Declaration :=
  [("rows", [.regex "word" "[a-z]+|é", (Rule.regex "gap" "[ \n]+").withLineBreaks.ignore,
    .literal "mark" "#\n"])]

def rowLexicon : Lexicon :=
  (Lexicon.ofStates rowStates .empty .standard).toOption.get (by decide +kernel)

/-- The text goes on in the last line but one that can be counted. -/
def rowState : LexerState :=
  ⟨40, Position.maxCount - 1, 9, ["rows"]⟩

def rowLexer : Lexer rowLexicon :=
  (initial rowLexicon).reset "é#\nab \n\n c".toList (some rowState)

/-- The break in the mark does not count and those in the gap do, though there are no lines for
both. -/
theorem position_performAll_reset_rowLexer :
    Lexicon.ofStates rowStates .empty .standard = .ok rowLexicon
      ∧ (startOf (some rowState)).Countable
      ∧ (rowLexer.tokensOver (List.replicate 4 .next)).map Token.position
        = [⟨40, Position.maxCount - 1, 9⟩, ⟨42, Position.maxCount - 1, 10⟩,
          ⟨44, Position.maxCount - 1, 12⟩, ⟨50, Position.maxCount, 2⟩]
      ∧ (rowLexer.performAll (List.replicate 4 .next)).position = ⟨51, Position.maxCount, 3⟩
      ∧ (rowLexer.performAll (List.replicate 4 .next)).position
        = (startOf (some rowState)).behind
          (Match.allMarks (rowLexer.takenOver (List.replicate 4 .next))) := by
  have hcompiled : Lexicon.ofStates rowStates .empty .standard = .ok rowLexicon :=
    eq_ok_get_toOption _
  have hcountable : (startOf (some rowState)).Countable := by decide
  have htokens : (rowLexer.tokensOver (List.replicate 4 .next)).map Token.position
      = [⟨40, Position.maxCount - 1, 9⟩, ⟨42, Position.maxCount - 1, 10⟩,
        ⟨44, Position.maxCount - 1, 12⟩, ⟨50, Position.maxCount, 2⟩] := by decide +kernel
  have hstop : (rowLexer.performAll (List.replicate 4 .next)).position
      = ⟨51, Position.maxCount, 3⟩ := by decide +kernel
  exact ⟨hcompiled, hcountable, htokens, hstop,
    (position_performAll_reset hcompiled (initial rowLexicon) _ (some rowState) hcountable _).2.1⟩

end Lexer

end Lexical
