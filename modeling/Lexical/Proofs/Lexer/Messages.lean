import Lexical.Proofs.Lexer.Excerpts
import Lexical.Proofs.Lexer.Raw

/-!
# Messages over all that a lexer is given

A stream may come in several texts, between which a lexer is saved and resumed, and a lexer may be reset to
other streams.  `Lexer.Reading` is what has been read of a stream over all its texts.  Whatever is done with
a lexer, it stands behind its reading, and each token that it has given behind a part of the reading of its
time (`Lexer.exists_readBefore`).  So the column of a place is known from the matches that stand before it in
its stream.

A message is padded at the numbers of its lines and in front of its caret.  The numbers are always short
enough for it.  The caret is not, as nothing bounds the length of a line: there is a message just if the caret
can be written or the place lies outside of the text (`Lexer.formatError?_actAll`).
-/

namespace Lexical

namespace Lexer

variable {lexicon : Lexicon}

/-! ## Streams in several texts -/

/-- What has been read of a stream: where it started, and the matches that have been taken since. -/
structure Reading (lexicon : Lexicon) where
  start : Position
  taken : List (Match lexicon)

/-- The state that a lexer is reset to, if any, is at a line and a column that can be counted to. -/
def Action.Countable : Action → Prop
  | .reset _ state => (startOf state).Countable
  | _ => True

instance (action : Action) : Decidable action.Countable :=
  match action with
  | .reset _ state => inferInstanceAs (Decidable (startOf state).Countable)
  | .call _ => .isTrue trivial
  | .resume _ => .isTrue trivial

namespace Reading

/-- Nothing has been read yet. -/
def empty : Reading lexicon :=
  ⟨.start, []⟩

/-- The position behind what has been read. -/
def position (reading : Reading lexicon) : Position :=
  reading.start.behind (Match.allMarks reading.taken)

/-- The column behind what has been read, where counting has no end. -/
def column (reading : Reading lexicon) : Nat :=
  if Mark.breaks (Match.allMarks reading.taken) = 0 then
    reading.start.column + (Match.allMarks reading.taken).length
  else 1 + Mark.tail (Match.allMarks reading.taken)

lemma line_position_le (reading : Reading lexicon) :
    reading.position.line ≤ Position.maxCount :=
  Nat.min_le_left _ _

lemma column_position (reading : Reading lexicon) :
    reading.position.column = min Position.maxCount reading.column := by
  simp only [position, Position.behind, column]
  split_ifs <;> rfl

/-- A lexer that is resumed with another text goes on in the same stream, and one that is reset begins with
another stream. -/
def act (reading : Reading lexicon) (lexer : Lexer lexicon) : Action → Reading lexicon
  | .call command => { reading with taken := reading.taken ++ lexer.taken command }
  | .reset _ state => ⟨startOf state, []⟩
  | .resume _ => reading

/-- What has been read of the last stream behind all that is done. -/
def actAll (reading : Reading lexicon) (lexer : Lexer lexicon) : List Action → Reading lexicon
  | [] => reading
  | action :: actions => (reading.act lexer action).actAll (lexer.act action).2 actions

end Reading

/-! ## Where a lexer stands in its stream -/

/-- One thing that is done keeps a lexer behind its reading. -/
lemma Tracked.act {reading : Reading lexicon} {lexer : Lexer lexicon} {action : Action}
    (h : Tracked reading.start reading.taken lexer) (hcountable : action.Countable) :
    Tracked (reading.act lexer action).start (reading.act lexer action).taken (lexer.act action).2 := by
  cases action with
  | call command =>
    exact perform_preserves (P := Tracked reading.start) (fun h _ => h.takes) (fun h => h.sameText) h
      command
  | reset text state => exact tracked_reset lexer text hcountable
  | resume text =>
    -- the new text starts where the lexer was, and the matches before it stay those of the stream
    exact ⟨(position_reset_save lexer lexer text).trans h.position_eq, h.starts⟩

/-- **A lexer stands behind its reading, whatever is done with it.**  The induction is on what is done. -/
lemma Tracked.actAll {reading : Reading lexicon} {lexer : Lexer lexicon} {actions : List Action}
    (h : Tracked reading.start reading.taken lexer) (hcountable : ∀ action ∈ actions, action.Countable) :
    Tracked (reading.actAll lexer actions).start (reading.actAll lexer actions).taken
      (lexer.actAll actions).2 := by
  induction actions generalizing reading lexer with
  | nil => exact h
  | cons action actions ih =>
    obtain ⟨hfirst, hrest⟩ := List.forall_mem_cons.1 hcountable
    exact ih (h.act hfirst) hrest

/-- The tokens among the answers to what is done. -/
def tokensOf (answers : List (Option Reply × View)) : List Token :=
  answers.filterMap fun answer => answer.1.bind givenToken?

/-- A token that is given belongs to the reading behind the call that gives it.  The induction is on what is
done. -/
lemma exists_of_mem_tokensOf {lexer : Lexer lexicon} {actions : List Action} {t : Token}
    (ht : t ∈ tokensOf (lexer.actAll actions).1) (reading : Reading lexicon) :
    ∃ earlier later, actions = earlier ++ later ∧
      t ∈ Match.tokens (reading.actAll lexer earlier).taken := by
  induction actions generalizing reading lexer with
  | nil => cases ht
  | cons action actions ih =>
    obtain ⟨answer, hanswer, hgiven⟩ := List.mem_filterMap.1 ht
    rcases List.mem_cons.1 hanswer with rfl | hlater
    · cases action with
      | call command =>
        have htokens := givenToken?_perform lexer command
        have hreply : givenToken? (lexer.perform command).1 = some t := hgiven
        rw [hreply, Option.toList_some] at htokens
        -- The first call is enough: its match is the last one taken by then.
        refine ⟨[.call command], actions, rfl, ?_⟩
        show t ∈ Match.tokens (reading.taken ++ lexer.taken command)
        rw [Match.tokens_append, ← htokens]
        simp
      | reset text state => cases hgiven
      | resume text => cases hgiven
    · have hrest : t ∈ tokensOf ((lexer.act action).2.actAll actions).1 :=
        List.mem_filterMap.2 ⟨answer, hlater, hgiven⟩
      obtain ⟨earlier, later, rfl, htokens⟩ := ih hrest (reading.act lexer action)
      exact ⟨action :: earlier, later, rfl, htokens⟩

/-- What has been read of the last stream behind all that is done with a new lexer. -/
def readBehind (lexicon : Lexicon) (actions : List Action) : Reading lexicon :=
  Reading.empty.actAll (initial lexicon) actions

lemma tracked_readBehind {actions : List Action} (hcountable : ∀ action ∈ actions, action.Countable) :
    Tracked (readBehind lexicon actions).start (readBehind lexicon actions).taken
      ((initial lexicon).actAll actions).2 := by
  have hstart : (startOf none).Countable := by decide
  have hempty : Tracked (.empty : Reading lexicon).start [] (initial lexicon) :=
    tracked_reset (initial lexicon) [] hstart
  exact hempty.actAll hcountable

/-- What stands before a place in its stream: all that has been read where the lexer itself is meant, and the
matches before its own for a token. -/
inductive ReadBefore (actions : List Action) : Option Token → Reading lexicon → Prop
  | here : ReadBefore actions none (readBehind lexicon actions)
  | token {earlier later : List Action} {start : Position} {before behind : List (Match lexicon)}
      {m : Match lexicon} (split : actions = earlier ++ later)
      (read : readBehind lexicon earlier = ⟨start, before ++ m :: behind⟩) :
      ReadBefore actions (some m.token) ⟨start, before⟩

/-- **Each place is behind what stands before it in its stream.** -/
theorem exists_readBefore {actions : List Action} (hcountable : ∀ action ∈ actions, action.Countable)
    {token : Option Token}
    (htoken : ∀ t ∈ token, t ∈ tokensOf ((initial lexicon).actAll actions).1) :
    ∃ reading : Reading lexicon, ReadBefore actions token reading ∧
      (token.map Token.position).getD ((initial lexicon).actAll actions).2.position =
        reading.position := by
  cases token with
  | none => exact ⟨_, .here, (tracked_readBehind hcountable).position_eq⟩
  | some t =>
    obtain ⟨earlier, later, hsplit, ht⟩ := exists_of_mem_tokensOf (htoken t rfl) .empty
    obtain ⟨m, hm, rfl⟩ := Match.exists_of_mem_tokens ht
    obtain ⟨before, behind, htaken⟩ := List.append_of_mem hm
    -- Only what was done up to the call that gave the token is part of its reading.
    have hearlier : ∀ action ∈ earlier, action.Countable := fun action haction =>
      hcountable action (hsplit ▸ List.mem_append_left _ haction)
    have hread : readBehind lexicon earlier =
        ⟨(readBehind lexicon earlier).start, before ++ m :: behind⟩ :=
      congrArg (Reading.mk (readBehind lexicon earlier).start) htaken
    exact ⟨_, .token hsplit hread, (tracked_readBehind hearlier).starts before m behind htaken⟩

/-! ## What can be written -/

/-- **A message is missing only where the caret would be too far to the right.**  Whatever is done with a
lexer, and wherever in its stream a token that it has given is, or else the lexer itself: the numbers of the
lines that are shown have no more than ten digits, and the caret is indented by the column and one blank more
than that.  There is no message just if the place lies in the text and the caret cannot be indented so far.
So there is one wherever the column is a little below what can be written. -/
theorem formatError?_actAll (actions : List Action)
    (hcountable : ∀ action ∈ actions, action.Countable) (token : Option Token)
    (htoken : ∀ t ∈ token, t ∈ tokensOf ((initial lexicon).actAll actions).1) (message : String) :
    let lexer := ((initial lexicon).actAll actions).2
    let widths? := Excerpt.widths? lexer.buffer lexer.base
      ((token.map Token.position).getD lexer.position)
    ∃ reading : Reading lexicon, ReadBefore actions token reading
      ∧ (∀ gutter caret, widths? = some (gutter, caret) → 0 < gutter ∧ gutter ≤ 10
        ∧ caret = gutter + 1 + min Position.maxCount reading.column)
      ∧ (lexer.formatError? token message = none ↔ ∃ gutter caret, widths? = some (gutter, caret)
        ∧ Excerpt.maxWidth < gutter + 1 + reading.column)
      ∧ (reading.column + 11 ≤ Excerpt.maxWidth →
        (lexer.formatError? token message).isSome = true) := by
  intro lexer widths?
  have hmax : Excerpt.maxWidth = 65535 := rfl
  have hcount : Position.maxCount = 4294967295 := rfl
  obtain ⟨reading, hread, hplace⟩ := exists_readBefore hcountable htoken
  have hwidths : ∀ gutter caret, widths? = some (gutter, caret) → 0 < gutter ∧ gutter ≤ 10
      ∧ caret = gutter + 1 + min Position.maxCount reading.column := by
    intro gutter caret h
    have hline : ((token.map Token.position).getD lexer.position).line ≤ Position.maxCount :=
      hplace ▸ reading.line_position_le
    have hbounds := Excerpt.widths?_bounds hline h
    rwa [hplace, reading.column_position] at hbounds
  have hnone : lexer.formatError? token message = none ↔
      ∃ gutter caret, widths? = some (gutter, caret) ∧
        Excerpt.maxWidth < gutter + 1 + reading.column := by
    rw [formatError?, Excerpt.render?_eq_none_iff]
    refine exists_congr fun gutter => exists_congr fun caret => and_congr_right fun h => ?_
    obtain ⟨-, hgutter, hcaret⟩ := hwidths gutter caret h
    -- counting ends far behind what can be written, so the column may be taken without its bound
    omega
  refine ⟨reading, hread, hwidths, hnone, fun hcolumn => ?_⟩
  rw [Option.isSome_iff_ne_none, Ne, hnone]
  rintro ⟨gutter, caret, h, hwide⟩
  obtain ⟨-, hgutter, -⟩ := hwidths gutter caret h
  omega

/-! ### Words at the far end of a line -/

/-- The line of a text from elsewhere goes on, and the lexer is resumed in it. -/
def farActions : List Action :=
  [.reset "ab".toList (some ⟨65530, 1, 65531, ["page"]⟩), .call .next, .resume "c d".toList, .call .next,
    .call .next]

/-- The second of the words that are given. -/
def farToken? : Option Token :=
  (tokensOf ((initial pageLexicon).actAll farActions).1)[1]?

/-- The caret can just be written. -/
theorem formatError?_actAll_farActions :
    (∀ action ∈ farActions, action.Countable)
      ∧ (∀ t ∈ farToken?, t ∈ tokensOf ((initial pageLexicon).actAll farActions).1)
      ∧ farToken?.map Token.position = some ⟨65532, 1, 65533⟩
      ∧ (((initial pageLexicon).actAll farActions).2.formatError? farToken? "odd").isSome = true
      ∧ ∃ reading : Reading pageLexicon, ReadBefore farActions farToken? reading
        ∧ reading.column = 65533 := by
  have hcountable : ∀ action ∈ farActions, action.Countable := by decide
  have htoken : ∀ t ∈ farToken?, t ∈ tokensOf ((initial pageLexicon).actAll farActions).1 :=
    fun t ht => List.mem_of_getElem? ht
  have hplace : farToken?.map Token.position = some ⟨65532, 1, 65533⟩ := by decide +kernel
  obtain ⟨reading, hread, hwidths, hnone, -⟩ :=
    formatError?_actAll farActions hcountable farToken? htoken "odd"
  rw [hplace] at hwidths hnone
  have hshown : Excerpt.widths? ((initial pageLexicon).actAll farActions).2.buffer
      ((initial pageLexicon).actAll farActions).2.base ⟨65532, 1, 65533⟩ = some (1, 65535) := by
    decide +kernel
  obtain ⟨-, -, hcaret⟩ := hwidths 1 65535 hshown
  have hmax : Position.maxCount = 4294967295 := rfl
  have hcolumn : reading.column = 65533 := by omega
  refine ⟨hcountable, htoken, hplace, ?_, reading, hread, hcolumn⟩
  rw [Option.isSome_iff_ne_none, Ne, hnone]
  rintro ⟨gutter, caret, h, hwide⟩
  obtain ⟨rfl, -⟩ := Prod.mk.inj (Option.some.inj (hshown.symm.trans h))
  rw [hcolumn] at hwide
  exact absurd hwide (by decide)

/-! ### A line that is too long, in two texts -/

lemma ofText_longLine : Position.ofText longLine = ⟨65533, 1, 65534⟩ := by
  have hbytes : Text.byteLength longLine = 65533 := Text.byteLength_replicate 65533 'a'
  rw [Position.ofText, hbytes, lineBreaks_longLine, length_lastLine_longLine]

/-- A text is read to its end, and the stream goes on with another. -/
def resumedLexer (text more : List Char) : Lexer restLexicon :=
  ((initial restLexicon).actAll [.reset text none, .call .next, .resume more]).2

/-- The resumed lexer is where the first text ends. -/
lemma position_resumedLexer (text more : List Char) :
    (resumedLexer text more).position = ((restLexer text).performAll [.next]).position :=
  position_reset_save _ ((restLexer text).performAll [.next]) more

lemma base_resumedLexer (text more : List Char) :
    (resumedLexer text more).base = ((restLexer text).performAll [.next]).position.offset := rfl

lemma buffer_resumedLexer (text more : List Char) : (resumedLexer text more).buffer = more := rfl

/-- The lexer stands at the start of a text of one character, but far behind the start of its line: the
numbers can be written and the caret cannot, so there is no message. -/
theorem formatError?_resumedLine :
    Lexicon.ofStates restStates .empty .standard = .ok restLexicon
      ∧ (resumedLexer longLine ['b']).position = ⟨65533, 1, 65534⟩
      ∧ (resumedLexer longLine ['b']).base = 65533 ∧ (resumedLexer longLine ['b']).buffer = ['b']
      ∧ Excerpt.widths? ['b'] 65533 ⟨65533, 1, 65534⟩ = some (1, 65536) ∧ Excerpt.maxWidth < 65536
      ∧ (resumedLexer longLine ['b']).formatError? none "m" = none := by
  have hlength : longLine.length < Position.maxCount := by
    rw [longLine, List.length_replicate]
    decide
  have hne : longLine ≠ [] := List.cons_ne_nil _ _
  have hread := (formatError?_restLexer hne hlength not_fits_longLine "m").1
  rw [ofText_longLine] at hread
  have hposition : (resumedLexer longLine ['b']).position = ⟨65533, 1, 65534⟩ :=
    (position_resumedLexer longLine ['b']).trans hread
  have hbase : (resumedLexer longLine ['b']).base = 65533 := by
    rw [base_resumedLexer, hread]
  have hwidths : Excerpt.widths? ['b'] 65533 ⟨65533, 1, 65534⟩ = some (1, 65536) := by decide +kernel
  refine ⟨eq_ok_get_toOption _, hposition, hbase, buffer_resumedLexer _ _, hwidths, by decide, ?_⟩
  rw [formatError?, hbase, buffer_resumedLexer, Excerpt.render?_eq_none_iff, Option.map_none,
    Option.getD_none, hposition]
  exact ⟨1, 65536, hwidths, .inr (by decide)⟩

end Lexer

end Lexical
