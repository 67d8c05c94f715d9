import Lexical.Proofs.Excerpt
import Lexical.Proofs.Lexer.Tracking

/-!
# Excerpts of the text of a lexer

Where all line breaks count, because they must be declared or because every rule counts them, the position
of a lexer and of its tokens are those of the text that stands before them (`Lexer.position_eq_ofText`).  So
a message about a token, or about where the lexer is, shows the line that this is in, with its true number,
and the caret in its place there (`Lexer.formatError?_reset`), unless the line is too long to be pointed
into, when there is no message at all (`Lexer.formatError?_longLine`).
-/

namespace Lexical

/-! ## Positions where all line breaks count -/

/-- All line breaks count. -/
def Mark.AllCount (marks : List Mark) : Prop :=
  ∀ mark ∈ marks, mark.counts = decide (mark.char = '\n')

namespace Mark.AllCount

variable {marks : List Mark}

lemma eq_map (h : AllCount marks) : marks = (text marks).map fun c => ⟨c, decide (c = '\n')⟩ := by
  have hmark : ∀ mark ∈ marks, (⟨mark.char, decide (mark.char = '\n')⟩ : Mark) = id mark := by
    intro mark hmark
    rw [← h mark hmark]
    rfl
  rw [text, List.map_map]
  exact ((List.map_congr_left hmark).trans (List.map_id marks)).symm

lemma breaks_eq (h : AllCount marks) : breaks marks = Text.lineBreaks (text marks) := by
  rw [h.eq_map]
  simp [breaks, text, Text.lineBreaks, List.countP_map, List.count_eq_countP, Function.comp_def,
    BEq.beq]

lemma tail_eq (h : AllCount marks) : tail marks = (Text.lastLine (text marks)).length := by
  rw [h.eq_map]
  simp [tail, text, Text.lastLine, ← List.map_reverse, List.takeWhile_map, Function.comp_def]

end Mark.AllCount

/-- A character takes four bytes at most. -/
lemma Text.byteLength_le (text : List Char) : Text.byteLength text ≤ 4 * text.length := by
  induction text with
  | nil => exact Nat.le_refl 0
  | cons c rest ih =>
    have hsize := c.utf8Size_le_four
    rw [List.length_cons, Text.byteLength_cons]
    omega

/-- The closed form from the start of a stream is the position behind the text, as long as everything can
be counted.  No offset starts over then. -/
lemma Position.behind_eq_ofText {marks : List Mark} (h : Mark.AllCount marks)
    (hlength : marks.length < maxCount) :
    Position.start.behind marks = .ofText (Mark.text marks) := by
  have hlast := Text.length_lastLine_le (Mark.text marks)
  have hcount : Text.lineBreaks (Mark.text marks) ≤ (Mark.text marks).length :=
    List.count_le_length
  have hbytes := Text.byteLength_le (Mark.text marks)
  rw [Mark.length_text] at hlast hcount hbytes
  have hbounds : 4 * maxCount < offsetBound := by decide
  -- A character takes four bytes at most, so what can be counted stays below the bound of
  -- offsets.
  have hoffset : moveOffset 0 (Text.byteLength (Mark.text marks)) = Text.byteLength (Mark.text marks) := by
    rw [moveOffset_of_lt (by omega), Nat.zero_add]
  simp only [behind, ofText, start, h.breaks_eq, h.tail_eq, hoffset, Position.mk.injEq, true_and]
  refine ⟨by omega, ?_⟩
  split_ifs with hnone
  · rw [Text.lastLine_of_not_mem (List.count_eq_zero.1 hnone), Mark.length_text]
    omega
  · omega

namespace Lexer

variable {lexicon : Lexicon} {declared : List Declaration} {categories : CategoryRegistry}
  {options : LexerOptions}

/-- Whether the lexer refuses line breaks that are not declared, or all rules declare them, all line breaks
that it takes count. -/
lemma Takes.allCount (hcompiled : Lexicon.ofStates declared categories options = .ok lexicon)
    (hbreaks : options.strictLineBreaks = true ∨
      ∀ declaration ∈ declared, ∀ rule ∈ declaration.2, rule.lineBreaks = true)
    {lexer rest : Lexer lexicon} {length : Nat} {m : Match lexicon}
    (h : lexer.Takes length m rest) : Mark.AllCount m.marks := by
  intro mark hmark
  obtain ⟨c, -, rfl⟩ := List.mem_map.1 hmark
  rcases hbreaks with hstrict | hdeclared
  -- Only a line break can count, and where they must be declared every one does.
  · by_cases hc : c = '\n'
    · have hoptions := (Lexicon.composedOf_of_ofStates hcompiled).options_eq
      have hcounts := h.counts_of_strict (hoptions ▸ hstrict) hmark hc
      rw [hcounts]
      simp [hc]
    · simp [hc]
  · obtain ⟨declaration, rule, hdeclaration, hrule, hentry⟩ := h.exists_rule hcompiled
    have hrule := hdeclared declaration (List.mem_of_getElem? hdeclaration) rule hrule
    simp [hentry.lineBreaks_eq, hrule]

lemma allCount_allMarks (hcompiled : Lexicon.ofStates declared categories options = .ok lexicon)
    (hbreaks : options.strictLineBreaks = true ∨
      ∀ declaration ∈ declared, ∀ rule ∈ declaration.2, rule.lineBreaks = true)
    (lexer : Lexer lexicon) (commands : List Command) :
    Mark.AllCount (Match.allMarks (lexer.takenOver commands)) := by
  intro mark hmark
  obtain ⟨m, hm, hmark⟩ := List.mem_flatMap.1 hmark
  obtain ⟨_, length, rest, htakes⟩ := exists_takes_of_mem_takenOver hm
  exact htakes.allCount hcompiled hbreaks mark hmark

/-- Where the closed form counts all line breaks of the first matches, it is the position behind their
text. -/
lemma behind_allMarks {text ahead : List Char} {before : List (Match lexicon)}
    (hcounts : Mark.AllCount (Match.allMarks before))
    (htext : text = Match.texts before ++ ahead) (hlength : text.length < Position.maxCount) :
    Position.start.behind (Match.allMarks before) = .ofText (Match.texts before) := by
  have hmarks : (Match.allMarks before).length = (Match.texts before).length := by
    rw [← Match.text_allMarks, Mark.length_text]
  rw [htext, List.length_append] at hlength
  rw [Position.behind_eq_ofText hcounts (by omega), Match.text_allMarks]

/-- Behind a row of calls the lexer stands where the text that it has read ends, and so does each match
behind those before it. -/
lemma position_eq_ofText (hcompiled : Lexicon.ofStates declared categories options = .ok lexicon)
    (hbreaks : options.strictLineBreaks = true ∨
      ∀ declaration ∈ declared, ∀ rule ∈ declaration.2, rule.lineBreaks = true)
    (origin : Lexer lexicon) {text : List Char} (hlength : text.length < Position.maxCount)
    (commands : List Command) :
    let taken := (origin.reset text none).takenOver commands
    ((origin.reset text none).performAll commands).position = .ofText (Match.texts taken) ∧
      ∀ before m behind, taken = before ++ m :: behind → m.start = .ofText (Match.texts before) := by
  intro taken
  have hcountable : (startOf none).Countable := by decide
  have htracked := (tracked_reset origin text hcountable).performAll commands
  have htext := ((tiled_reset origin text none).performAll commands).text_eq
  have hcounts := allCount_allMarks hcompiled hbreaks (origin.reset text none) commands
  refine ⟨htracked.position_eq.trans (behind_allMarks hcounts htext hlength),
    fun before m behind hsplit => ?_⟩
  -- The marks before a match are some of all marks.
  have hcounts' : Mark.AllCount (Match.allMarks before) := by
    intro mark hmark
    refine hcounts mark ?_
    rw [show (origin.reset text none).takenOver commands = _ from hsplit, Match.allMarks_append]
    exact List.mem_append_left _ hmark
  have hstart := htracked.starts before m behind (by rw [List.nil_append]; exact hsplit)
  rw [List.nil_append, show (origin.reset text none).takenOver commands = _ from hsplit,
    Match.texts_append, List.append_assoc] at htext
  exact hstart.trans (behind_allMarks hcounts' htext hlength)

/-- A message about a place in the text that the lexer was reset to. -/
lemma formatError?_of_ofText {lexer : Lexer lexicon} {before after : List Char}
    {token : Option Token} (hbase : lexer.base = 0) (hbuffer : lexer.buffer = before ++ after)
    (hposition : (token.map Token.position).getD lexer.position = .ofText before)
    (message : String) :
    lexer.formatError? token message =
      if Excerpt.Fits (before ++ after) before then
        some ("\n".intercalate
          (Excerpt.header (.ofText before)
            (if message.isEmpty then Excerpt.defaultMessage else message) :: "" ::
          (Excerpt.display (before ++ after) before).map String.ofList))
      else none := by
  rw [formatError?, hbase, hbuffer, hposition]
  exact Excerpt.render?_ofText before after _

/-- **A message points at the right place.**  A lexer in which all line breaks count is reset to a text that
is not too long to be counted, and called in any way.  The offset of a token that it has given, or else its
own, cuts the text in two.  A message about it is the line that names the position, an empty line and what
is to be shown for the place, if the caret can be written there, and there is no message if it cannot. -/
theorem formatError?_reset
    (hcompiled : Lexicon.ofStates declared categories options = .ok lexicon)
    (hbreaks : options.strictLineBreaks = true ∨
      ∀ declaration ∈ declared, ∀ rule ∈ declaration.2, rule.lineBreaks = true)
    (origin : Lexer lexicon) (text : List Char) (hlength : text.length < Position.maxCount)
    (commands : List Command) (token : Option Token)
    (htoken : ∀ t ∈ token, t ∈ (origin.reset text none).tokensOver commands) (message : String) :
    let lexer := (origin.reset text none).performAll commands
    ∃ before after, text = before ++ after
      ∧ Text.byteLength before = ((token.map Token.position).getD lexer.position).offset
      ∧ (Text.lines text)[Text.lineBreaks before]? =
        some (Text.lastLine before ++ after.takeWhile (· ≠ '\n'))
      ∧ lexer.formatError? token message =
        if Excerpt.Fits text before then
          some ("\n".intercalate
            (Excerpt.header (.ofText before)
              (if message.isEmpty then Excerpt.defaultMessage else message) :: "" ::
            (Excerpt.display text before).map String.ofList))
        else none := by
  intro lexer
  have htiled := (tiled_reset origin text none).performAll commands
  obtain ⟨hcurrent, hstarts⟩ := position_eq_ofText hcompiled hbreaks origin hlength commands
  -- The rest is one statement about a place in the text, whether it is that of the lexer or of a
  -- token.
  suffices hplace : ∃ before after, text = before ++ after ∧
      (token.map Token.position).getD lexer.position = .ofText before by
    obtain ⟨before, after, htext, hposition⟩ := hplace
    have hbuffer : lexer.buffer = before ++ after := htiled.buffer_eq.trans htext
    refine ⟨before, after, htext, by rw [hposition]; rfl, ?_, ?_⟩
    · rw [htext]
      exact Text.getElem?_lines_append before after
    · rw [formatError?_of_ofText htiled.base_eq hbuffer hposition, htext]
  cases token with
  | none => exact ⟨_, _, htiled.text_eq, hcurrent⟩
  | some t =>
    have ht := htoken t rfl
    rw [tokensOver_eq] at ht
    obtain ⟨m, hm, rfl⟩ := Match.exists_of_mem_tokens ht
    obtain ⟨before, behind, hsplit⟩ := List.append_of_mem hm
    have htext := htiled.text_eq
    rw [List.nil_append, hsplit, Match.texts_append, List.append_assoc] at htext
    exact ⟨Match.texts before, _, htext, hstarts before m behind hsplit⟩

/-! ### A page of words -/

/-- Words and ignored gaps; line breaks must be declared, and the gaps declare them. -/
def pageStates : List Declaration :=
  [("page", [.regex "word" "[a-z]+", (Rule.regex "gap" "[ \r\n]+").withLineBreaks.ignore])]

def pageOptions : LexerOptions :=
  { LexerOptions.standard with strictLineBreaks := true }

def pageLexicon : Lexicon :=
  (Lexicon.ofStates pageStates .empty pageOptions).toOption.get (by decide +kernel)

def pageText : List Char :=
  "one\r\ntwo\n three four\n\nfive".toList

/-- The third of the words that four calls give. -/
def pageToken? : Option Token :=
  (((initial pageLexicon).reset pageText none).tokensOver (List.replicate 4 .next))[2]?

theorem formatError?_reset_pageText :
    Lexicon.ofStates pageStates .empty pageOptions = .ok pageLexicon
      ∧ pageOptions.strictLineBreaks = true ∧ pageText.length < Position.maxCount
      ∧ (∀ t ∈ pageToken?,
        t ∈ ((initial pageLexicon).reset pageText none).tokensOver (List.replicate 4 .next))
      ∧ pageToken?.map Token.position = some ⟨10, 3, 2⟩
      ∧ (((initial pageLexicon).reset pageText none).performAll
          (List.replicate 4 .next)).formatError? pageToken? "odd" =
        some "odd at line 3 col 2:\n\n1  one\n2  two\n3   three four\n    ^\n4  \n5  five"
      ∧ ∃ before after, pageText = before ++ after ∧ Excerpt.Fits pageText before
        ∧ (Text.lines pageText)[Text.lineBreaks before]? =
          some (Text.lastLine before ++ after.takeWhile (· ≠ '\n')) := by
  have hcompiled : Lexicon.ofStates pageStates .empty pageOptions = .ok pageLexicon :=
    eq_ok_get_toOption _
  have hlength : pageText.length < Position.maxCount := by decide
  have htoken : ∀ t ∈ pageToken?,
      t ∈ ((initial pageLexicon).reset pageText none).tokensOver (List.replicate 4 .next) :=
    fun t ht => List.mem_of_getElem? ht
  have hplace : pageToken?.map Token.position = some ⟨10, 3, 2⟩ := by decide +kernel
  have hshown : (((initial pageLexicon).reset pageText none).performAll
      (List.replicate 4 .next)).formatError? pageToken? "odd" =
        some "odd at line 3 col 2:\n\n1  one\n2  two\n3   three four\n    ^\n4  \n5  five" := by
    decide +kernel
  obtain ⟨before, after, htext, -, hline, hmessage⟩ :=
    formatError?_reset hcompiled (.inl rfl) (initial pageLexicon) pageText hlength
      (List.replicate 4 .next) pageToken? htoken "odd"
  rw [hshown] at hmessage
  have hfits : Excerpt.Fits pageText before := by
    by_contra hnot
    rw [if_neg hnot] at hmessage
    cases hmessage
  exact ⟨hcompiled, rfl, hlength, htoken, hplace, hshown, before, after, htext, hfits, hline⟩

/-! ### A line that is too long -/

/-- One rule, which takes all the rest. -/
def restStates : List Declaration :=
  [("start", [Rule.error "rest"])]

def restLexicon : Lexicon :=
  (Lexicon.ofStates restStates .empty .standard).toOption.get (by decide +kernel)

def restEntry : Entry restLexicon.names.length Regex.Expr :=
  (restLexicon.table restLexicon.start).catchAll?.get (by decide +kernel)

def restLexer (text : List Char) : Lexer restLexicon :=
  (initial restLexicon).reset text none

/-- The first match is the whole text. -/
lemma exists_takes_restLexer (text : List Char) :
    ∃ m rest, (restLexer text).Takes text.length m rest ∧ m.entry.isIgnored = false := by
  refine ⟨⟨restLexicon.start, restEntry, text.take text.length, .start,
    min (Text.lineBreaks (text.take text.length)) Position.maxCount, .single restLexicon.start⟩, _,
    ⟨rfl, rfl, rfl, rfl, ?_, rfl, rfl, rfl⟩, rfl⟩
  have hcounts : restEntry.lineBreaks = true := rfl
  simp [countLineBreaks, hcounts]

/-- The first call reads the whole text. -/
lemma ahead_performAll_restLexer {text : List Char} (hne : text ≠ []) :
    ((restLexer text).performAll [.next]).ahead = [] := by
  obtain ⟨m, rest, htakes, hkept⟩ := exists_takes_restLexer text
  have htake : (restLexer text).take = .ok (some (m, rest)) := take_eq_some_iff.2 ⟨hne, _, htakes⟩
  have hnext : (restLexer text).next.lexer = rest := by
    rw [next, patience, nextWithin, htake]
    simp [hkept]
  show (restLexer text).next.lexer.ahead = []
  rw [hnext, htakes.drop_eq]
  exact List.drop_length

lemma restStates_lineBreaks :
    ∀ declaration ∈ restStates, ∀ rule ∈ declaration.2, rule.lineBreaks = true := by
  decide

/-- At the end of a text whose last line is too long there is no message. -/
lemma formatError?_restLexer {text : List Char} (hne : text ≠ [])
    (hlength : text.length < Position.maxCount) (hfits : ¬ Excerpt.Fits text text)
    (message : String) :
    ((restLexer text).performAll [.next]).position = .ofText text ∧
      ((restLexer text).performAll [.next]).formatError? none message = none := by
  have hcompiled : Lexicon.ofStates restStates .empty .standard = .ok restLexicon :=
    eq_ok_get_toOption _
  have htiled : Tiled 0 text _ ((restLexer text).performAll [.next]) :=
    (tiled_reset (initial restLexicon) text none).performAll [.next]
  have hread : text = Match.texts ((restLexer text).takenOver [.next]) := by
    have htext := htiled.text_eq
    rwa [ahead_performAll_restLexer hne, List.append_nil] at htext
  have hplace := (position_eq_ofText hcompiled (.inr restStates_lineBreaks) (initial restLexicon)
    hlength [.next]).1
  have hposition : ((restLexer text).performAll [.next]).position = .ofText text :=
    hplace.trans (congrArg Position.ofText hread.symm)
  have hbuffer : ((restLexer text).performAll [.next]).buffer = text ++ [] :=
    htiled.buffer_eq.trans (List.append_nil _).symm
  have hmessage := @formatError?_of_ofText _ _ text [] none htiled.base_eq hbuffer hposition message
  rw [List.append_nil, if_neg hfits] at hmessage
  exact ⟨hposition, hmessage⟩

def longLine : List Char :=
  List.replicate 65533 'a'

lemma newline_not_mem_longLine : '\n' ∉ longLine :=
  fun h => absurd (List.eq_of_mem_replicate h) (by decide)

lemma lineBreaks_longLine : Text.lineBreaks longLine = 0 :=
  List.count_eq_zero.2 newline_not_mem_longLine

lemma length_lastLine_longLine : (Text.lastLine longLine).length = 65533 := by
  rw [Text.lastLine_of_not_mem newline_not_mem_longLine, longLine, List.length_replicate]

lemma not_fits_longLine : ¬ Excerpt.Fits longLine longLine := by
  have hlines : (Text.lines longLine).length = 1 := by
    rw [Text.length_lines, lineBreaks_longLine]
  have hgutter : Excerpt.gutterAround longLine 1 = 1 := by
    rw [Excerpt.gutterAround, hlines]
    decide
  rw [Excerpt.Fits, lineBreaks_longLine, hgutter, length_lastLine_longLine]
  decide

/-- The rule counts line breaks and the text is short enough to be counted, but at its end there is no
message. -/
theorem formatError?_longLine :
    Lexicon.ofStates restStates .empty .standard = .ok restLexicon
      ∧ (∀ declaration ∈ restStates, ∀ rule ∈ declaration.2, rule.lineBreaks = true)
      ∧ longLine.length < Position.maxCount
      ∧ ((restLexer longLine).performAll [.next]).position = .ofText longLine
      ∧ ((restLexer longLine).performAll [.next]).formatError? none "m" = none := by
  have hne : longLine ≠ [] := List.cons_ne_nil _ _
  have hlength : longLine.length < Position.maxCount := by
    rw [longLine, List.length_replicate]
    decide
  obtain ⟨hposition, hmessage⟩ := formatError?_restLexer hne hlength not_fits_longLine "m"
  exact ⟨eq_ok_get_toOption _, restStates_lineBreaks, hlength, hposition, hmessage⟩

end Lexer

end Lexical
