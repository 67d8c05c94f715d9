import Lexical.Excerpt
import Lexical.Proofs.Text.Lines
import Mathlib.Data.Nat.Digits.Defs

/-!
# Excerpts of whole texts

What an excerpt shows, told by the text and by what of it stands before the place (`Excerpt.display`): the
lines are numbered from one, those around the line of the place are shown with their numbers, and below that
line stands the caret, behind as many characters as the line has before the place.

`Excerpt.render?` reckons the first number back from the line of the position, and finds the line again by
counting line breaks.  Where the text is the whole stream and the position is that of the place
(`Position.ofText`), it comes to the same (`Excerpt.render?_ofText`), unless the caret would stand too far to
the right to be written at all (`Excerpt.Fits`).

For positions in general, the widths that have to be written are known (`Excerpt.widths?_bounds`), and nothing
but these keeps an excerpt from being written (`Excerpt.render?_eq_none_iff`).
-/

namespace Lexical

/-- The position behind a text that is read from the start of a stream. -/
def Position.ofText (before : List Char) : Position where
  offset := Text.byteLength before
  line := Text.lineBreaks before + 1
  column := (Text.lastLine before).length + 1

namespace Excerpt

/-! ## What is shown -/

/-- The lines of a text with their numbers, each without the carriage return at its end. -/
def numbered (text : List Char) : List (List Char × Nat) :=
  ((Text.lines text).map trimReturn).zipIdx 1

/-- A line behind its number. -/
def numberedLine (gutter : Nat) (entry : List Char × Nat) : List Char :=
  alignRight gutter entry.2 ++ [' ', ' '] ++ entry.1

/-- The width of the number of the last line that is shown around the one with this number. -/
def gutterAround (text : List Char) (line : Nat) : Nat :=
  (Nat.toDigits 10 (min (line + contextLines) (Text.lines text).length)).length

/-- The lines that are shown for a place in a text, where `before` is what stands before it: the line of
the place and two on either side, as far as there are such, and the caret. -/
def display (text before : List Char) : List (List Char) :=
  let line := Text.lineBreaks before + 1
  let gutter := gutterAround text line
  let caret := List.replicate (gutter + 2 + (Text.lastLine before).length) ' ' ++ ['^']
  (((numbered text).take line).drop (line - 1 - contextLines)).map (numberedLine gutter) ++
    caret :: (((numbered text).drop line).take contextLines).map (numberedLine gutter)

/-- The caret does not stand too far to the right. -/
def Fits (text before : List Char) : Prop :=
  gutterAround text (Text.lineBreaks before + 1) + 2 + (Text.lastLine before).length ≤ maxWidth

instance (text before : List Char) : Decidable (Fits text before) :=
  inferInstanceAs (Decidable (_ ≤ _))

/-! ## Writing lines -/

section WriteLines

variable {gutter caret place row number : Nat} {lines : List (List Char)}

lemma writeLines_append (lines others : List (List Char)) :
    writeLines gutter caret place row number (lines ++ others) =
      writeLines gutter caret place row number lines ++
        writeLines gutter caret place (row + lines.length) (number + lines.length) others := by
  induction lines generalizing row number with
  | nil => rfl
  | cons line lines ih =>
    simp only [List.cons_append, writeLines, ih, List.length_cons, List.append_assoc,
      Nat.add_assoc, Nat.add_comm 1]

/-- Behind the line of the place there is no caret. -/
lemma writeLines_of_lt (h : place < row) :
    writeLines gutter caret place row number lines =
      ((lines.zipIdx number).map (numberedLine gutter)).flatMap ('\n' :: ·) := by
  induction lines generalizing row number with
  | nil => rfl
  | cons line lines ih =>
    have hne : row ≠ place := Nat.ne_of_gt h
    simp [writeLines, hne, ih (Nat.lt_succ_of_lt h), numberedLine]

/-- The line of the place is followed by the caret. -/
lemma writeLines_of_last (hne : lines ≠ []) (h : row + lines.length = place + 1) :
    writeLines gutter caret place row number lines =
      ((lines.zipIdx number).map (numberedLine gutter)).flatMap ('\n' :: ·) ++
        '\n' :: (List.replicate caret ' ' ++ ['^']) := by
  induction lines generalizing row number with
  | nil => exact absurd rfl hne
  | cons line lines ih =>
    cases lines with
    | nil =>
      obtain rfl : row = place := by simpa using h
      simp [writeLines, numberedLine]
    | cons next lines =>
      simp only [List.length_cons] at h
      have hrow : row ≠ place := by omega
      have hrest := @ih (row + 1) (number + 1) (by simp) (by simp only [List.length_cons]; omega)
      rw [writeLines, hrest]
      simp [hrow, numberedLine]

end WriteLines

/-- Lines behind a first one, as a text. -/
lemma intercalate_cons (first : String) (lines : List (List Char)) :
    "\n".intercalate (first :: lines.map String.ofList) =
      first ++ String.ofList (lines.flatMap ('\n' :: ·)) := by
  induction lines generalizing first with
  | nil => simp
  | cons line lines ih =>
    have hbreak : "\n" = String.ofList ['\n'] := rfl
    rw [List.map_cons, String.intercalate_cons_cons, ih, hbreak, String.append_assoc,
      ← String.ofList_append, ← String.ofList_append]
    rfl

/-! ## The lines around a place -/

lemma take_zipIdx {α : Type} (items : List α) (first count : Nat) :
    (items.zipIdx first).take count = (items.take count).zipIdx first := by
  refine List.ext_getElem (by simp) fun n hn hn' => ?_
  simp

lemma drop_zipIdx {α : Type} (items : List α) (first count : Nat) :
    (items.zipIdx first).drop count = (items.drop count).zipIdx (first + count) := by
  refine List.ext_getElem (by simp) fun n hn hn' => ?_
  simp [Nat.add_assoc]

section Around

variable {text : List Char} {place : Nat}

/-- The lines that are shown are those up to that of the place and two more. -/
lemma window_eq (text : List Char) (place : Nat) :
    window text place =
      (((Text.lines text).map trimReturn).take (place + 1)).drop (firstRow place) ++
        (((Text.lines text).map trimReturn).drop (place + 1)).take contextLines := by
  have hfirst : firstRow place ≤ place := Nat.sub_le _ _
  have hcount : place - firstRow place + contextLines + 1 =
      (place + 1 - firstRow place) + contextLines := by omega
  have hrest : firstRow place + (place + 1 - firstRow place) = place + 1 := by omega
  rw [window, hcount, List.map_take, List.map_drop, List.take_add, List.drop_take, List.drop_drop,
    hrest]

lemma length_above (h : place < (Text.lines text).length) :
    ((((Text.lines text).map trimReturn).take (place + 1)).drop (firstRow place)).length =
      place + 1 - firstRow place := by
  simp only [List.length_drop, List.length_take, List.length_map]
  omega

lemma length_window (h : place < (Text.lines text).length) :
    firstRow place + (window text place).length =
      min (place + 1 + contextLines) (Text.lines text).length := by
  have hfirst : firstRow place ≤ place := Nat.sub_le _ _
  rw [window_eq, List.length_append, length_above h]
  simp only [List.length_drop, List.length_take, List.length_map]
  omega

/-- Written out, the lines around a place are those with the numbers around that of its line, and the
caret is below it. -/
lemma writeLines_window (h : place < (Text.lines text).length) (gutter caret : Nat) :
    writeLines gutter caret place (firstRow place) (firstRow place + 1) (window text place) =
      ((((numbered text).take (place + 1)).drop (firstRow place)).map (numberedLine gutter) ++
        (List.replicate caret ' ' ++ ['^']) ::
          (((numbered text).drop (place + 1)).take contextLines).map
            (numberedLine gutter)).flatMap ('\n' :: ·) := by
  have hfirst : firstRow place ≤ place := Nat.sub_le _ _
  have habove := length_above h
  have hne : (((Text.lines text).map trimReturn).take (place + 1)).drop (firstRow place) ≠ [] := by
    rw [← List.length_pos_iff, habove]
    omega
  rw [window_eq, writeLines_append, writeLines_of_last hne (by omega),
    writeLines_of_lt (by omega), habove, numbered, take_zipIdx, drop_zipIdx, drop_zipIdx,
    take_zipIdx]
  have hnumber : firstRow place + 1 + (place + 1 - firstRow place) = 1 + (place + 1) := by omega
  rw [hnumber, Nat.add_comm (firstRow place) 1]
  simp

end Around

/-! ## Rendering -/

section Render

variable (before after : List Char)

lemma index?_ofText : index? (before ++ after) 0 (Position.ofText before) =
    some (Text.byteLength before) := by
  simp [index?, Position.ofText]

lemma row_append : row (before ++ after) (Text.byteLength before) = Text.lineBreaks before := by
  rw [row, Text.takeBytes_append]

lemma firstNumber_ofText : firstNumber (Position.ofText before) (Text.lineBreaks before) =
    firstRow (Text.lineBreaks before) + 1 := by
  simp only [firstNumber, Position.ofText, firstRow]
  omega

lemma lineBreaks_lt_length_lines :
    Text.lineBreaks before < (Text.lines (before ++ after)).length := by
  rw [Text.length_lines, Text.lineBreaks, Text.lineBreaks, List.count_append]
  omega

lemma gutter_window : gutter (firstRow (Text.lineBreaks before) + 1)
    (window (before ++ after) (Text.lineBreaks before)).length =
      gutterAround (before ++ after) (Text.lineBreaks before + 1) := by
  have hplace := lineBreaks_lt_length_lines before after
  have hwindow := length_window hplace
  have hfirst : firstRow (Text.lineBreaks before) ≤ Text.lineBreaks before := Nat.sub_le _ _
  have hcontext : contextLines = 2 := rfl
  have hlast : firstRow (Text.lineBreaks before) + 1 +
      ((window (before ++ after) (Text.lineBreaks before)).length - 1) =
        min (Text.lineBreaks before + 1 + contextLines)
          (Text.lines (before ++ after)).length := by omega
  rw [gutter, hlast, gutterAround]

lemma caretIndent_ofText (gutter : Nat) : caretIndent gutter (Position.ofText before) =
    gutter + 2 + (Text.lastLine before).length := by
  simp only [caretIndent, Position.ofText]
  omega

/-- The lines around the place and the caret are what is to be shown. -/
lemma writeLines_display :
    let place := Text.lineBreaks before
    let gutter := gutterAround (before ++ after) (place + 1)
    writeLines gutter (gutter + 2 + (Text.lastLine before).length) place (firstRow place)
        (firstRow place + 1) (window (before ++ after) place) =
      (display (before ++ after) before).flatMap ('\n' :: ·) :=
  writeLines_window (lineBreaks_lt_length_lines before after) _ _

/-- **An excerpt of a whole text shows the place.**  Where a position is that behind the first part of a
text, the excerpt is the line that names the position, an empty line and what is to be shown for the
place. -/
theorem render?_ofText (message : String) :
    render? (before ++ after) 0 (Position.ofText before) message =
      if Fits (before ++ after) before then
        some ("\n".intercalate (header (Position.ofText before) message :: "" ::
          (display (before ++ after) before).map String.ofList))
      else none := by
  have hjoined := intercalate_cons (header (Position.ofText before) message)
    ([] :: display (before ++ after) before)
  have hempty : "\n" ++ String.ofList ((display (before ++ after) before).flatMap ('\n' :: ·)) =
      String.ofList (([] :: display (before ++ after) before).flatMap ('\n' :: ·)) := by
    rw [List.flatMap_cons, List.singleton_append, String.ofList_cons]
    rfl
  unfold render?
  rw [index?_ofText]
  simp only [row_append, firstNumber_ofText, gutter_window, caretIndent_ofText,
    writeLines_display]
  by_cases hfits : Fits (before ++ after) before
  · have hcondition := hfits
    unfold Fits at hcondition
    rw [if_pos hfits, if_pos (by simp only [Bool.and_eq_true, decide_eq_true_eq]; omega),
      String.append_assoc, hempty]
    exact congrArg some hjoined.symm
  · have hcondition := hfits
    unfold Fits at hcondition
    rw [if_neg hfits, if_neg (by simp only [Bool.and_eq_true, decide_eq_true_eq]; omega)]

end Render

/-! ## What can be written -/

/-- The widths to which parts of an excerpt are padded: that of the numbers, and that of the blanks in front
of the caret. -/
def widths? (text : List Char) (base : Nat) (position : Position) : Option (Nat × Nat) :=
  (index? text base position).map fun index =>
    let place := row text index
    let gutter := gutter (firstNumber position place) (window text place).length
    (gutter, caretIndent gutter position)

section Widths

variable {text : List Char} {base : Nat} {position : Position}

/-- Only a part that would be too wide keeps a message from being written. -/
lemma render?_eq_none_iff {message : String} : render? text base position message = none ↔
    ∃ gutter caret, widths? text base position = some (gutter, caret) ∧
      (maxWidth < gutter ∨ maxWidth < caret) := by
  unfold render? widths?
  cases index? text base position with
  | none => simp
  | some index =>
    simp only [Option.map_some, Option.some.injEq, Prod.mk.injEq]
    constructor
    · intro h
      split_ifs at h with hfits
      rw [Bool.and_eq_true, decide_eq_true_eq, decide_eq_true_eq] at hfits
      exact ⟨_, _, ⟨rfl, rfl⟩, by omega⟩
    · rintro ⟨_, _, ⟨rfl, rfl⟩, hwide⟩
      rw [if_neg]
      rw [Bool.and_eq_true, decide_eq_true_eq, decide_eq_true_eq]
      omega

/-- There are never more lines than the one of the place and those on either side. -/
lemma length_window_le (text : List Char) (place : Nat) :
    (window text place).length ≤ contextLines + contextLines + 1 := by
  have htake : (window text place).length ≤ place - firstRow place + contextLines + 1 := by
    rw [window, List.length_map]
    exact List.length_take_le _ _
  have hfirst : firstRow place = place - contextLines := rfl
  omega

/-- A line that can be counted leaves no more than ten digits for the numbers around it. -/
lemma gutter_le_of_line_le (h : position.line ≤ Position.maxCount) (text : List Char) (place : Nat) :
    gutter (firstNumber position place) (window text place).length ≤ 10 := by
  have hmax : Position.maxCount = 4294967295 := rfl
  have hcontext : contextLines = 2 := rfl
  have hwindow := length_window_le text place
  have hfirst : firstNumber position place ≤ Position.maxCount := by
    rw [firstNumber]
    omega
  exact Nat.toDigits_length 10 _ 10 (by decide) (by omega)

/-- The widths of a message about a position that can be counted. -/
lemma widths?_bounds (hposition : position.line ≤ Position.maxCount) {gutter caret : Nat}
    (h : widths? text base position = some (gutter, caret)) :
    0 < gutter ∧ gutter ≤ 10 ∧ caret = gutter + 1 + position.column := by
  obtain ⟨index, -, hwidths⟩ := Option.map_eq_some_iff.1 h
  obtain ⟨rfl, rfl⟩ := Prod.mk.inj hwidths
  refine ⟨List.length_pos_iff.2 Nat.toDigits_ne_nil, gutter_le_of_line_le hposition text _, ?_⟩
  rw [caretIndent]
  omega

end Widths

end Excerpt

end Lexical
