import Lexical.Proofs.Indent.Lines
import Lexical.Proofs.Source

/-!
# Sources that fail in between

A source may fail without having taken anything, and go on when it is asked again
(`TokenSource.Answers`).  Somebody who asks again after each failure gets all of its tokens
(`TokenSource.persist`).

Somebody who asks a layer so gets more than the off-side rule of `offSide`, which ends with the first line
that stands at no block: when asked again the layer gives the content of that line, and goes on in the block
that it was in.  `offSideAll` is the rule with that.

A layer holds no more than one token back, so not every failure of its source can be made good
(`Place.Harmless`): behind a line break, or behind the white space at the start of a line, what has been
taken is lost.  `Calm` says of the answers of a source that it does not fail there.
-/

namespace Lexical

/-! ## Answers -/

/-- An answer of a source, as long as it has not ended. -/
abbrev Answer := Except LexerError Token

/-- The tokens among some answers. -/
def granted (answers : List Answer) : List Token :=
  answers.filterMap Except.toOption

section Granted

variable {token : Token} {error : LexerError} {answers : List Answer}

@[simp] lemma granted_nil : granted [] = [] := rfl

@[simp] lemma granted_ok : granted (.ok token :: answers) = token :: granted answers := rfl

@[simp] lemma granted_error : granted (.error error :: answers) = granted answers := rfl

@[simp] lemma granted_map_ok (tokens : List Token) : granted (tokens.map .ok) = tokens := by
  induction tokens with
  | nil => rfl
  | cons token tokens ih => simp [ih]

end Granted

namespace TokenSource

variable {σ : Type} [TokenSource σ]

/-- The source gives these answers in order and then nothing for ever, at the given position.  Its budget
covers the tokens. -/
def Answers (source : σ) (final : Position) : List Answer → Prop
  | [] => Exhausted source final
  | .ok token :: rest =>
    (next source).result = .ok (some token) ∧ (granted rest).length < budget source ∧
      Answers (next source).state final rest
  | .error error :: rest =>
    (next source).result = .error error ∧ (granted rest).length ≤ budget source ∧
      Answers (next source).state final rest

lemma Answers.length_le_budget {source : σ} {final : Position} {answers : List Answer}
    (h : Answers source final answers) : (granted answers).length ≤ budget source := by
  rcases answers with _ | ⟨error | token, answers⟩
  · exact Nat.zero_le _
  · exact h.2.1
  · exact h.2.1

/-- A source that supplies tokens answers with them. -/
lemma Supplies.answers {source : σ} {final : Position} {tokens : List Token}
    (h : Supplies source final tokens) : Answers source final (tokens.map .ok) := by
  induction tokens generalizing source with
  | nil => exact h
  | cons token tokens ih =>
    obtain ⟨hresult, hbudget, hrest⟩ := h
    exact ⟨hresult, by simpa using hbudget, ih hrest⟩

/-- What a source gives to somebody who asks again after each failure, if the source ends within so many
calls. -/
def persist : Nat → σ → Option (List Token)
  | 0, _ => none
  | calls + 1, source =>
    let outcome := next source
    match outcome.result with
    | .error _ => persist calls outcome.state
    | .ok none => some []
    | .ok (some token) => (persist calls outcome.state).map (token :: ·)

section Persist

variable {calls : Nat} {source : σ} {tokens : List Token}

lemma persist_of_error {error : LexerError} (h : (next source).result = .error error) :
    persist (calls + 1) source = persist calls (next source).state := by
  simp only [persist, h]

lemma persist_of_none (h : (next source).result = .ok none) :
    persist (calls + 1) source = some [] := by
  simp only [persist, h]

lemma persist_of_token {token : Token} (h : (next source).result = .ok (some token)) :
    persist (calls + 1) source = (persist calls (next source).state).map (token :: ·) := by
  simp only [persist, h]

/-- More calls make no difference.  The induction is on the calls. -/
lemma persist_mono {more : Nat} (hle : calls ≤ more) (h : persist calls source = some tokens) :
    persist more source = some tokens := by
  induction calls generalizing more source tokens with
  | zero => cases h
  | succ calls ih =>
    obtain ⟨more, rfl⟩ := Nat.exists_eq_succ_of_ne_zero (by omega : more ≠ 0)
    rcases hresult : (next source).result with error | _ | token
    · rw [persist_of_error hresult] at h ⊢
      exact ih (by omega) h
    · rw [persist_of_none hresult] at h ⊢
      exact h
    · rw [persist_of_token hresult] at h ⊢
      obtain ⟨rest, hrest, rfl⟩ := Option.map_eq_some_iff.1 h
      rw [ih (by omega) hrest, Option.map_some]

end Persist

end TokenSource

/-! ## All lines -/

namespace OffSide

variable (options : IndentOptions) (final : Position)

/-- What the lines behind a line come to when those that stand at no block are not the end: they go on in
the current block, with no token in front. -/
def followAll (current : Nat) (enclosing : List Nat) (ending : Position) : List Line → List Token
  | [] => List.replicate enclosing.length (.synthetic options.dedent final)
  | line :: rest =>
    let width := line.width options
    if width = current then
      .synthetic options.newline ending ::
        (line.content options ++ followAll current enclosing line.ending rest)
    else if current < width then
      .synthetic options.indent ending ::
        (line.content options ++ followAll width (current :: enclosing) line.ending rest)
    else match enclosing.idxOf? width with
      | some index =>
        List.replicate (index + 1) (.synthetic options.dedent ending) ++
          (line.content options ++
            followAll width (enclosing.drop (index + 1)) line.ending rest)
      | none => line.content options ++ followAll current enclosing line.ending rest

/-- What the tokens from the middle of a line on come to. -/
def fromWithinAll (current : Nat) (enclosing : List Nat) (tokens : List Token) : List Token :=
  match lines options final tokens with
  | [] => []
  | line :: rest =>
    line.content options ++ followAll options final current enclosing line.ending
      (rest.filter fun line => !line.isBlank options)

end OffSide

/-- What the tokens of a text come to, with the lines that stand at no block. -/
def offSideAll (options : IndentOptions) (final : Position) (tokens : List Token) : List Token :=
  match filledLines options final tokens with
  | [] => []
  | line :: rest =>
    line.content options ++
      OffSide.followAll options final (line.width options) [] line.ending rest

namespace OffSide

variable {options : IndentOptions} {final : Position} {token : Token} {tokens : List Token}
  {current : Nat} {enclosing : List Nat}

lemma fromWithinAll_nil : fromWithinAll options final current enclosing [] =
    List.replicate enclosing.length (.synthetic options.dedent final) := rfl

lemma fromWithinAll_of_newline (h : token.kind = options.newline) :
    fromWithinAll options final current enclosing (token :: tokens) =
      followAll options final current enclosing token.position
        (filledLines options final tokens) := by
  rw [fromWithinAll, lines_of_newline h]
  rfl

lemma fromWithinAll_of_ne_newline (h : token.kind ≠ options.newline) :
    fromWithinAll options final current enclosing (token :: tokens) =
      (if token.kind = options.whitespace then [] else [token]) ++
        fromWithinAll options final current enclosing tokens := by
  obtain ⟨line, rest, hlines, hpushed⟩ := exists_lines_of_ne_newline final tokens h
  simp only [fromWithinAll, hlines, hpushed, Line.push, Line.content]
  split_ifs with hwhitespace
  · simp [hwhitespace]
  · simp [hwhitespace]

lemma InLine.fromWithinAll_eq {line : Line} {rest : List Line}
    (h : InLine options final line rest tokens) (current : Nat) (enclosing : List Nat) :
    fromWithinAll options final current enclosing tokens =
      line.content options ++ followAll options final current enclosing line.ending rest := by
  obtain ⟨own, others, hlines, hcontent, hending, rfl⟩ := h
  rw [fromWithinAll, hlines, ← hcontent, ← hending]

lemma content_of_isBlank {line : Line} (h : line.isBlank options) : line.content options = [] := by
  unfold Line.isBlank at h
  split at h
  · rename_i htokens
    simp [Line.content, htokens]
  · rename_i htokens
    simpa [Line.content, htokens] using h
  · cases h

/-- Blank lines come to no more than the end. -/
lemma fromWithinAll_of_filledLines_eq_nil (h : filledLines options final tokens = []) :
    fromWithinAll options final current enclosing tokens =
      List.replicate enclosing.length (.synthetic options.dedent final) := by
  unfold filledLines at h
  unfold fromWithinAll
  cases hlines : lines options final tokens with
  | nil => exact absurd hlines (lines_ne_nil options final tokens)
  | cons line rest =>
    rw [hlines, List.filter_cons] at h
    split_ifs at h with hblank
    have hblank : line.isBlank options = true := by simpa using hblank
    simp only [content_of_isBlank hblank, h]
    rfl

end OffSide

/-! ## Harmless failures -/

/-- Where the reading of a text stands: before the first line that is not blank, at the start of a line
(`outset`) or behind the white space there (`outsetIndent`); in a line that is not blank (`within`); or
behind such a line, at the start of one (`start`) or behind the white space there (`indent`). -/
inductive Place where
  | outset
  | outsetIndent
  | within
  | start
  | indent

namespace Place

variable (options : IndentOptions)

/-- The place behind a token. -/
def after (token : Token) : Place → Place
  | .outset =>
    if token.kind = options.newline then .outset
    else if token.kind = options.whitespace then .outsetIndent
    else .within
  | .outsetIndent => if token.kind = options.newline then .outset else .within
  | .within => if token.kind = options.newline then .start else .within
  | .start =>
    if token.kind = options.newline then .start
    else if token.kind = options.whitespace then .indent
    else .within
  | .indent => if token.kind = options.newline then .start else .within

/-- Whether a failure at this place does no harm, where these tokens come after it: within a line it does
none, and before the first line only behind white space that belongs to that line.  Between lines it does
none if no other line comes. -/
def Harmless (tokens : List Token) : Place → Prop
  | .outset | .within => True
  | .outsetIndent => ∀ token ∈ tokens.head?, token.kind = options.newline
  | .start => ∀ final, filledLines options final tokens = []
  | .indent => (∀ token ∈ tokens.head?, token.kind = options.newline) ∧
      ∀ final, filledLines options final tokens = []

end Place

/-- From the given place on, all failures among the answers are harmless. -/
def Calm (options : IndentOptions) : Place → List Answer → Prop
  | _, [] => True
  | place, .error _ :: answers => place.Harmless options (granted answers) ∧ Calm options place answers
  | place, .ok token :: answers => Calm options (place.after options token) answers

namespace Calm

variable {options : IndentOptions} {place : Place} {answers : List Answer} {token : Token}

/-- Where nothing fails, nothing has to be made good. -/
lemma map_ok (tokens : List Token) : Calm options place (tokens.map .ok) := by
  induction tokens generalizing place with
  | nil => trivial
  | cons token tokens ih => exact ih

/-- Behind the white space of a blank line nothing has been lost before the first line. -/
lemma outset (h : Calm options .outsetIndent answers)
    (hblank : ∀ token ∈ (granted answers).head?, token.kind = options.newline) :
    Calm options .outset answers := by
  induction answers with
  | nil => trivial
  | cons answer answers ih =>
    cases answer with
    | error error => exact ⟨trivial, ih h.2 hblank⟩
    | ok token =>
      have hnewline : token.kind = options.newline := hblank token rfl
      simp only [Calm, Place.after, if_pos hnewline] at h ⊢
      exact h

/-- What is calm between two lines is calm within one.  The induction is on the answers, from both places
between lines. -/
lemma within (h : Calm options .start answers ∨ Calm options .indent answers) :
    Calm options .within answers := by
  induction answers with
  | nil => trivial
  | cons answer answers ih =>
    cases answer with
    | error error => exact ⟨trivial, ih (h.imp And.right And.right)⟩
    | ok token =>
      simp only [Calm, Place.after] at h ⊢
      split_ifs at h ⊢ with hnewline hwhitespace
      · exact h.elim id id
      · exact h.elim (fun h => ih (.inr h)) id
      · exact h.elim id id

end Calm

/-! ## Starts of lines -/

/-- The start of a line that does not belong to one that is not blank. -/
def Place.IsStart (place : Place) : Prop :=
  place = .outset ∨ place = .start

/-- Reading can go on with these answers after a failure at the start of a line: before the first line as
if nothing had been read, and between lines as if the last one went on, as no other comes. -/
def Recovers (options : IndentOptions) (answers : List Answer) : Place → Prop
  | .outset => Calm options .outset answers
  | _ => Calm options .within answers ∧ ∀ final, filledLines options final (granted answers) = []

namespace Place.IsStart

variable {options : IndentOptions} {place : Place} {answers : List Answer} {token next : Token}
  {error : LexerError}

lemma after_newline (h : place.IsStart) (hnewline : token.kind = options.newline) :
    place.after options token = place := by
  obtain rfl | rfl := h <;> exact if_pos hnewline

lemma after_bare (h : place.IsStart) (hnewline : token.kind ≠ options.newline)
    (hwhitespace : token.kind ≠ options.whitespace) : place.after options token = .within := by
  obtain rfl | rfl := h <;> simp [after, hnewline, hwhitespace]

lemma after_blank (h : place.IsStart) (hnewline : token.kind ≠ options.newline)
    (hwhitespace : token.kind = options.whitespace) (hnext : next.kind = options.newline) :
    (place.after options token).after options next = place := by
  rw [hwhitespace] at hnewline
  obtain rfl | rfl := h <;> simp [after, hnewline, hwhitespace, hnext]

lemma after_indented (h : place.IsStart) (hnewline : token.kind ≠ options.newline)
    (hwhitespace : token.kind = options.whitespace) (hnext : next.kind ≠ options.newline) :
    (place.after options token).after options next = .within := by
  rw [hwhitespace] at hnewline
  obtain rfl | rfl := h <;> simp [after, hnewline, hwhitespace, hnext]

/-- A harmless failure at the start of a line. -/
lemma recovers (h : place.IsStart) (hcalm : Calm options place (.error error :: answers)) :
    Recovers options answers place := by
  obtain rfl | rfl := h
  · exact hcalm.2
  · exact ⟨.within (.inl hcalm.2), hcalm.1⟩

/-- A harmless failure behind the white space there. -/
lemma recovers_indented (h : place.IsStart) (hnewline : token.kind ≠ options.newline)
    (hwhitespace : token.kind = options.whitespace)
    (hcalm : Calm options place (.ok token :: .error error :: answers)) :
    Recovers options answers place ∧
      ∀ next ∈ (granted answers).head?, next.kind = options.newline := by
  rw [hwhitespace] at hnewline
  obtain rfl | rfl := h
  · simp only [Calm, Place.after, hwhitespace, if_neg hnewline, if_pos] at hcalm
    exact ⟨hcalm.2.outset hcalm.1, hcalm.1⟩
  · simp only [Calm, Place.after, hwhitespace, if_neg hnewline, if_pos] at hcalm
    exact ⟨⟨.within (.inr hcalm.2), hcalm.1.2⟩, hcalm.1.1⟩

end Place.IsStart

/-- In a line a token that does not end it changes nothing. -/
lemma Calm.cons_of_ne_newline {options : IndentOptions} {answers : List Answer} {token : Token}
    (h : token.kind ≠ options.newline) :
    Calm options .within (.ok token :: answers) ↔ Calm options .within answers := by
  simp only [Calm, Place.after, if_neg h]

/-! ## A source that reads a list of answers -/

/-- A source with these answers left, which ends at `final`. -/
structure Rehearsal (final : Position) where
  rest : List Answer

/-- Saving keeps what is left, and a reset goes back to what was kept. -/
instance (final : Position) : TokenSource (Rehearsal final) where
  State := Rehearsal final
  next source :=
    match source.rest with
    | [] => ⟨.ok none, source, []⟩
    | .ok token :: rest => ⟨.ok (some token), ⟨rest⟩, []⟩
    | .error error :: rest => ⟨.error error, ⟨rest⟩, []⟩
  reset source _ state := state.getD source
  resetEvents _ _ := []
  save source := source
  has source kind := (granted source.rest).any (·.kind = kind)
  formatError? _ _ message := some message
  position _ := final
  budget source := (granted source.rest).length

/-- It answers with what is left. -/
lemma Rehearsal.answers {final : Position} (answers : List Answer) :
    TokenSource.Answers (⟨answers⟩ : Rehearsal final) final answers := by
  induction answers with
  | nil =>
    intro later hlater
    have hrest : later.rest = [] := by
      induction hlater with
      | refl => rfl
      | @tail middle later _ hstep ih =>
        obtain ⟨rest⟩ := middle
        obtain rfl : rest = [] := ih
        rw [hstep]
        rfl
    obtain ⟨rest⟩ := later
    obtain rfl : rest = [] := hrest
    exact ⟨rfl, rfl⟩
  | cons answer answers ih =>
    cases answer with
    | error error => exact ⟨rfl, Nat.le_refl _, ih⟩
    | ok token => exact ⟨rfl, Nat.lt_succ_self _, ih⟩

end Lexical
