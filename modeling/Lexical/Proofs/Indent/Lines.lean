import Lexical.Indent.Layer
import Mathlib.Data.List.Basic
import Mathlib.Tactic.Lemma
import Mathlib.Tactic.SplitIfs

/-!
# The off-side rule on lists of lines

What the tokens of a text come to under the off-side rule, told without a layer: the tokens are
split into lines (`lines`), blank lines are dropped, and each line is led in by what its width says
against the widths of the blocks around it (`OffSide.follow`).  `offSide` is the rule for a whole
text, and `OffSide.fromWithin` is what it comes to from the middle of a line on.
-/

namespace Lexical

/-- The tokens of a line, without the one that ends it, and where that one is. -/
structure Line where
  tokens : List Token
  ending : Position

namespace Line

def push (token : Token) (line : Line) : Line :=
  { line with tokens := token :: line.tokens }

variable (options : IndentOptions)

/-- Whether there is no token in a line, or exactly one of white space. -/
def isBlank (line : Line) : Bool :=
  match line.tokens with
  | [] => true
  | [token] => token.kind = options.whitespace
  | _ => false

/-- The number of characters of the white space token at the start. -/
def width (line : Line) : Nat :=
  match line.tokens with
  | [] => 0
  | token :: _ => if token.kind = options.whitespace then token.value.length else 0

/-- The tokens that are not white space. -/
def content (line : Line) : List Token :=
  line.tokens.filter (·.kind ≠ options.whitespace)

/-- Where the first token behind the white space token at the start is. -/
def start (line : Line) : Position :=
  match line.tokens with
  | [] => line.ending
  | token :: rest =>
    if token.kind = options.whitespace then (rest.head?.map Token.position).getD line.ending
    else token.position

end Line

/-- The lines of a list of tokens, of which the last ends at `final`. -/
def lines (options : IndentOptions) (final : Position) : List Token → List Line
  | [] => [⟨[], final⟩]
  | token :: tokens =>
    if token.kind = options.newline then ⟨[], token.position⟩ :: lines options final tokens
    else (lines options final tokens).modifyHead (Line.push token)

/-- The lines that are not blank. -/
def filledLines (options : IndentOptions) (final : Position) (tokens : List Token) : List Line :=
  (lines options final tokens).filter fun line => !line.isBlank options

/-- Some tokens, and the failure that ends them. -/
structure Expected where
  tokens : List Token
  error : Option LexerError

namespace Expected

/-- The same with tokens in front. -/
def after (tokens : List Token) (expected : Expected) : Expected :=
  { expected with tokens := tokens ++ expected.tokens }

@[simp] lemma after_nil (expected : Expected) : expected.after [] = expected := rfl

@[simp] lemma after_after (tokens others : List Token) (expected : Expected) :
    (expected.after others).after tokens = expected.after (tokens ++ others) := by
  simp only [after, List.append_assoc]

end Expected

/-! ## The rule -/

namespace OffSide

variable (options : IndentOptions) (final : Position)

/-- The width that a line is measured against in vain: the nearest one that is not greater, else the
outermost. -/
def nearest (width current : Nat) (enclosing : List Nat) : Nat :=
  (enclosing.find? (· ≤ width)).getD ((current :: enclosing).getLast (List.cons_ne_nil _ _))

/-- What the lines behind a line come to, in a block of width `current` with the blocks of the
widths `enclosing` around it, the nearest first.  The line before them ended at `ending`. -/
def follow (current : Nat) (enclosing : List Nat) (ending : Position) : List Line → Expected
  | [] => ⟨List.replicate enclosing.length (.synthetic options.dedent final), none⟩
  | line :: rest =>
    let width := line.width options
    if width = current then
      (follow current enclosing line.ending rest).after
        (.synthetic options.newline ending :: line.content options)
    else if current < width then
      (follow width (current :: enclosing) line.ending rest).after
        (.synthetic options.indent ending :: line.content options)
    else match enclosing.idxOf? width with
      | some index =>
        (follow width (enclosing.drop (index + 1)) line.ending rest).after
          (List.replicate (index + 1) (.synthetic options.dedent ending) ++ line.content options)
      | none =>
        ⟨[], some (.inconsistentIndentation (line.start options) width
          (nearest width current enclosing))⟩

/-- What the tokens from the middle of a line on come to. -/
def fromWithin (current : Nat) (enclosing : List Nat) (tokens : List Token) : Expected :=
  match lines options final tokens with
  | [] => ⟨[], none⟩
  | line :: rest =>
    (follow options final current enclosing line.ending
      (rest.filter fun line => !line.isBlank options)).after (line.content options)

end OffSide

/-- What the tokens of a text come to: the first line is taken as it is, and the others follow. -/
def offSide (options : IndentOptions) (final : Position) (tokens : List Token) : Expected :=
  match filledLines options final tokens with
  | [] => ⟨[], none⟩
  | line :: rest =>
    (OffSide.follow options final (line.width options) [] line.ending rest).after
      (line.content options)

/-! ## Lines -/

variable {options : IndentOptions} {final : Position} {token : Token} {tokens : List Token}

lemma lines_ne_nil (options : IndentOptions) (final : Position) (tokens : List Token) :
    lines options final tokens ≠ [] := by
  induction tokens with
  | nil => simp [lines]
  | cons token tokens ih =>
    unfold lines
    split_ifs
    · simp
    · cases hlines : lines options final tokens with
      | nil => exact absurd hlines ih
      | cons line rest => simp

lemma lines_of_newline (h : token.kind = options.newline) :
    lines options final (token :: tokens) =
      ⟨[], token.position⟩ :: lines options final tokens := by
  rw [lines, if_pos h]

lemma exists_lines_of_ne_newline (final : Position) (tokens : List Token)
    (h : token.kind ≠ options.newline) :
    ∃ line rest, lines options final tokens = line :: rest ∧
      lines options final (token :: tokens) = line.push token :: rest := by
  cases hlines : lines options final tokens with
  | nil => exact absurd hlines (lines_ne_nil options final tokens)
  | cons line rest => exact ⟨line, rest, rfl, by rw [lines, if_neg h, hlines, List.modifyHead_cons]⟩

lemma filledLines_nil : filledLines options final [] = [] := by
  simp [filledLines, lines, Line.isBlank]

lemma filledLines_of_newline (h : token.kind = options.newline) :
    filledLines options final (token :: tokens) = filledLines options final tokens := by
  simp [filledLines, lines_of_newline h, Line.isBlank]

lemma filledLines_whitespace (h : token.kind = options.whitespace) :
    filledLines options final [token] = [] := by
  by_cases hnewline : token.kind = options.newline
  · rw [filledLines_of_newline hnewline, filledLines_nil]
  · rw [h] at hnewline
    simp [filledLines, lines, hnewline, Line.push, Line.isBlank, h]

lemma filledLines_whitespace_newline {next : Token} (h : token.kind = options.whitespace)
    (hnext : next.kind = options.newline) :
    filledLines options final (token :: next :: tokens) = filledLines options final tokens := by
  by_cases hnewline : token.kind = options.newline
  · rw [filledLines_of_newline hnewline, filledLines_of_newline hnext]
  · rw [h] at hnewline
    simp [filledLines, lines, hnewline, hnext, Line.push, Line.isBlank, h]

/-- White space in front of a line break, or of nothing, is part of a blank line. -/
lemma filledLines_of_blank (h : token.kind = options.whitespace)
    (hblank : ∀ next ∈ tokens.head?, next.kind = options.newline) :
    filledLines options final (token :: tokens) = filledLines options final tokens := by
  cases tokens with
  | nil => rw [filledLines_whitespace h, filledLines_nil]
  | cons next tokens =>
    have hnext : next.kind = options.newline := hblank next rfl
    rw [filledLines_whitespace_newline h hnext, filledLines_of_newline hnext]

namespace OffSide

variable {current : Nat} {enclosing : List Nat}

/-! ## From the middle of a line on -/

lemma fromWithin_nil :
    fromWithin options final current enclosing [] =
      ⟨List.replicate enclosing.length (.synthetic options.dedent final), none⟩ := rfl

lemma fromWithin_of_newline (h : token.kind = options.newline) :
    fromWithin options final current enclosing (token :: tokens) =
      follow options final current enclosing token.position (filledLines options final tokens) := by
  rw [fromWithin, lines_of_newline h]
  rfl

lemma fromWithin_of_ne_newline (h : token.kind ≠ options.newline) :
    fromWithin options final current enclosing (token :: tokens) =
      (fromWithin options final current enclosing tokens).after
        (if token.kind = options.whitespace then [] else [token]) := by
  obtain ⟨line, rest, hlines, hpushed⟩ := exists_lines_of_ne_newline final tokens h
  simp only [fromWithin, hlines, hpushed, Line.push, Line.content, Expected.after_after]
  split_ifs with hwhitespace
  · simp [hwhitespace]
  · simp [hwhitespace]

/-- From the first of the tokens on it is `line` that is read, up to its end; white space may have been
read before.  The lines behind it that are not blank are `rest`. -/
def InLine (options : IndentOptions) (final : Position) (line : Line) (rest : List Line)
    (tokens : List Token) : Prop :=
  ∃ own others, lines options final tokens = own :: others ∧
    own.content options = line.content options ∧ own.ending = line.ending ∧
    rest = others.filter fun line => !line.isBlank options

lemma InLine.fromWithin_eq {line : Line} {rest : List Line}
    (h : InLine options final line rest tokens) (current : Nat) (enclosing : List Nat) :
    fromWithin options final current enclosing tokens =
      (follow options final current enclosing line.ending rest).after (line.content options) := by
  obtain ⟨own, others, hlines, hcontent, hending, rfl⟩ := h
  rw [fromWithin, hlines, ← hcontent, ← hending]

/-- A line that is not blank, from its first token on. -/
lemma exists_filledLines_of_ne_whitespace (h : token.kind ≠ options.newline)
    (hwhitespace : token.kind ≠ options.whitespace) :
    ∃ line rest, filledLines options final (token :: tokens) = line :: rest ∧
      line.width options = 0 ∧ line.start options = token.position ∧
      InLine options final line rest (token :: tokens) := by
  obtain ⟨line, rest, -, hpushed⟩ := exists_lines_of_ne_newline final tokens h
  refine ⟨line.push token, rest.filter fun line => !line.isBlank options, ?_, ?_, ?_, ?_⟩
  · have hfilled : (line.push token).isBlank options = false := by
      unfold Line.isBlank Line.push
      split <;> simp_all
    simp [filledLines, hpushed, hfilled]
  · simp [Line.width, Line.push, hwhitespace]
  · simp [Line.start, Line.push, hwhitespace]
  · exact ⟨_, _, hpushed, rfl, rfl, rfl⟩

/-- A line that is not blank, from behind the white space at its start on. -/
lemma exists_filledLines_of_whitespace {next : Token} (h : token.kind ≠ options.newline)
    (hwhitespace : token.kind = options.whitespace) (hnext : next.kind ≠ options.newline) :
    ∃ line rest, filledLines options final (token :: next :: tokens) = line :: rest ∧
      line.width options = token.value.length ∧ line.start options = next.position ∧
      InLine options final line rest (next :: tokens) := by
  obtain ⟨line, rest, hlines, hnexted⟩ := exists_lines_of_ne_newline final tokens hnext
  refine ⟨(line.push next).push token, rest.filter fun line => !line.isBlank options,
    ?_, ?_, ?_, ?_⟩
  · simp [filledLines, lines, h, hnext, hlines, Line.push, Line.isBlank]
  · simp [Line.width, Line.push, hwhitespace]
  · simp [Line.start, Line.push, hwhitespace]
  · refine ⟨_, _, hnexted, ?_, rfl, rfl⟩
    simp [Line.push, Line.content, hwhitespace]

end OffSide

end Lexical
