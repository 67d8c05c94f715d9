import Lexical.Proofs.Indent.OffSide
import Mathlib.Data.List.DropRight
import Mathlib.Data.List.Forall2

/-!
# White space that does not count

Lines of white space and white space at the end are no part of the structure of a text.  What a layer
gives is compared up to places (`Collected.outline`), since everything behind such a line stands further
down.

A layer takes a line to be blank if there is at most one token of white space in it.  That is all that
is needed (`Layer.outline_collect_of_pads`): on lists of lines, white space of that kind leaves the
widths and the contents of the lines that are not blank as they are (`shapes_of_pads`), and the
off-side rule looks at nothing else (`OffSide.outline_follow`).  Two tokens of white space in a line of
their own do open a block (`Layer.kinds_of_comment_line`).
-/

namespace Lexical

/-! ## Outlines -/

/-- What a token says apart from its place: its kind, its value and its text. -/
def Token.label (token : Token) : String × String × String :=
  (token.kind, token.value, token.text)

/-- What an error says apart from its place: its code, and the widths that do not go together. -/
def LexerError.cause : LexerError → String × Option (Nat × Nat)
  | inconsistentIndentation position width expected =>
    ((inconsistentIndentation position width expected).code, some (width, expected))
  | error => (error.code, none)

/-- What is expected, apart from places. -/
def Expected.outline (expected : Expected) :
    List (String × String × String) × Option (String × Option (Nat × Nat)) :=
  (expected.tokens.map Token.label, expected.error.map LexerError.cause)

/-- What a source gave, apart from places, and whether it came to its end or to a failure. -/
def Collected.outline {σ : Type} (collected : Collected σ) :
    List (String × String × String) × Option (String × Option (Nat × Nat)) × Bool :=
  (collected.tokens.map Token.label, collected.error.map LexerError.cause, collected.ended)

lemma Expected.outline_after (tokens : List Token) (expected : Expected) :
    (expected.after tokens).outline =
      (tokens.map Token.label ++ expected.outline.1, expected.outline.2) := by
  simp only [outline, after, List.map_append]

@[simp] lemma Token.label_synthetic (kind : String) (position : Position) :
    (Token.synthetic kind position).label = (kind, "", "") := rfl

lemma Layer.outline_collect_of_gives {σ : Type} [TokenSource σ] {final : Position}
    {layer : Layer σ} {expected : Expected} (h : Gives final expected layer.next) (limit : Nat) :
    (TokenSource.collect limit layer).outline =
      (expected.outline.1.take limit,
        (if expected.outline.1.length < limit then expected.outline.2 else none),
        decide (expected.outline.1.length < limit)) := by
  obtain ⟨htokens, herror, hended⟩ := collect_of_gives_take h limit
  simp only [Collected.outline, Expected.outline, htokens, herror, hended, List.map_take,
    List.length_map]
  split_ifs <;> rfl

/-! ## What the off-side rule looks at -/

variable {options : IndentOptions} {final final' : Position}

/-- The width of a line and what its content says. -/
def Line.shape (options : IndentOptions) (line : Line) : Nat × List (String × String × String) :=
  (line.width options, (line.content options).map Token.label)

/-- The shapes of the lines that are not blank. -/
def shapes (options : IndentOptions) (final : Position) (tokens : List Token) :
    List (Nat × List (String × String × String)) :=
  (filledLines options final tokens).map (Line.shape options)

/-- The induction is on the lines; both runs take the same of the four branches at each. -/
lemma OffSide.outline_follow {ls others : List Line}
    (h : others.map (Line.shape options) = ls.map (Line.shape options)) (current : Nat)
    (enclosing : List Nat) (ending ending' : Position) :
    (follow options final' current enclosing ending' others).outline =
      (follow options final current enclosing ending ls).outline := by
  induction ls generalizing others current enclosing ending ending' with
  | nil =>
    obtain rfl : others = [] := by simpa using h
    simp [follow, Expected.outline]
  | cons line rest ih =>
    cases others with
    | nil => simp at h
    | cons other others =>
      obtain ⟨hshape, hrest⟩ := List.cons.inj h
      have hwidth : other.width options = line.width options := congrArg Prod.fst hshape
      have hcontent : (other.content options).map Token.label =
          (line.content options).map Token.label := congrArg Prod.snd hshape
      simp only [follow, hwidth]
      -- The branch depends on the width alone; only positions differ in what it gives.
      split_ifs
      · simp [Expected.outline_after, hcontent, ih hrest current enclosing line.ending other.ending]
      · simp [Expected.outline_after, hcontent,
          ih hrest (line.width options) (current :: enclosing) line.ending other.ending]
      · cases enclosing.idxOf? (line.width options) with
        | none => rfl
        | some index =>
          simp [Expected.outline_after, hcontent, ih hrest (line.width options)
            (enclosing.drop (index + 1)) line.ending other.ending]

lemma outline_offSide {tokens others : List Token}
    (h : shapes options final' others = shapes options final tokens) :
    (offSide options final' others).outline = (offSide options final tokens).outline := by
  unfold shapes at h
  unfold offSide
  cases hlines : filledLines options final tokens with
  | nil =>
    obtain hothers : filledLines options final' others = [] := by simpa [hlines] using h
    rw [hothers]
  -- The first line sets the width of the outermost block in both runs.
  | cons line rest =>
    cases hothers : filledLines options final' others with
    | nil => simp [hlines, hothers] at h
    | cons other others =>
      rw [hlines, hothers] at h
      obtain ⟨hshape, hrest⟩ := List.cons.inj h
      have hwidth : other.width options = line.width options := congrArg Prod.fst hshape
      have hcontent : (other.content options).map Token.label =
          (line.content options).map Token.label := congrArg Prod.snd hshape
      have hfollow :
          (OffSide.follow options final' (line.width options) [] other.ending others).outline =
            (OffSide.follow options final (line.width options) [] line.ending rest).outline :=
        OffSide.outline_follow hrest _ _ _ _
      simp only [Expected.outline_after, hwidth, hcontent, hfollow]

/-! ## Lines that look alike -/

/-- Both lines are blank, or none of them is and they have the same shape. -/
structure Line.Alike (options : IndentOptions) (line other : Line) : Prop where
  isBlank_eq : line.isBlank options = other.isBlank options
  shape_eq : other.isBlank options = false → line.shape options = other.shape options

lemma shapes_of_alike {ls others : List Line} (h : List.Forall₂ (Line.Alike options) ls others) :
    (ls.filter fun line => !line.isBlank options).map (Line.shape options) =
      (others.filter fun line => !line.isBlank options).map (Line.shape options) := by
  induction h with
  | nil => rfl
  | cons halike _ ih =>
    rw [List.filter_cons, List.filter_cons, halike.isBlank_eq]
    split_ifs with hfilled
    · rw [List.map_cons, List.map_cons, halike.shape_eq (by simpa using hfilled), ih]
    · exact ih

lemma Line.Alike.refl (line : Line) : line.Alike options line := ⟨rfl, fun _ => rfl⟩

/-- Nothing but the labels of the tokens in a line is looked at. -/
lemma Line.alike_of_labels {line other : Line}
    (h : line.tokens.map Token.label = other.tokens.map Token.label) :
    line.Alike options other := by
  -- The kinds are part of the labels, and so is what is in a line besides white space.
  have hkinds : line.tokens.map (·.kind) = other.tokens.map (·.kind) := by
    simpa [Function.comp_def, Token.label] using congrArg (List.map Prod.fst) h
  have hcontent : (line.content options).map Token.label =
      (other.content options).map Token.label := by
    have hfilter := congrArg (List.filter fun label => label.1 ≠ options.whitespace) h
    rw [List.filter_map, List.filter_map] at hfilter
    exact hfilter
  constructor
  -- Whether a line is blank depends on how many tokens there are, and on the kind of a single
  -- one.
  · unfold isBlank
    cases hline : line.tokens with
    | nil =>
      obtain hother : other.tokens = [] := by simpa [hline] using h
      rw [hother]
    | cons token tokens =>
      cases hother : other.tokens with
      | nil => simp [hline, hother] at h
      | cons token' tokens' =>
        rw [hline, hother] at hkinds
        obtain ⟨hkind, htail⟩ := List.cons.inj hkinds
        cases tokens with
        | nil =>
          obtain rfl : tokens' = [] := by simpa using htail
          simp [hkind]
        | cons _ _ =>
          cases tokens' with
          | nil => simp at htail
          | cons _ _ => rfl
  · refine fun _ => Prod.ext ?_ hcontent
    -- So does the width, and on the text of the first token.
    change line.width options = other.width options
    unfold width
    cases hline : line.tokens with
    | nil =>
      obtain hother : other.tokens = [] := by simpa [hline] using h
      rw [hother]
    | cons token tokens =>
      cases hother : other.tokens with
      | nil => simp [hline, hother] at h
      | cons token' tokens' =>
        rw [hline, hother] at h
        obtain ⟨hlabel, -⟩ := List.cons.inj h
        have hkind : token.kind = token'.kind := congrArg Prod.fst hlabel
        have hvalue : token.value = token'.value := congrArg (·.2.1) hlabel
        simp only [hkind, hvalue]

/-- The induction is on the tokens; they are split at the same places. -/
lemma labels_lines {tokens others : List Token}
    (h : others.map Token.label = tokens.map Token.label) :
    List.Forall₂ (fun line other => line.tokens.map Token.label = other.tokens.map Token.label)
      (lines options final' others) (lines options final tokens) := by
  induction tokens generalizing others with
  | nil =>
    obtain rfl : others = [] := by simpa using h
    exact .cons rfl .nil
  | cons token tokens ih =>
    cases others with
    | nil => simp at h
    | cons other others =>
      obtain ⟨hlabel, hrest⟩ := List.cons.inj h
      have hkind : other.kind = token.kind := congrArg Prod.fst hlabel
      by_cases hnewline : token.kind = options.newline
      · rw [lines_of_newline hnewline, lines_of_newline (hkind.trans hnewline)]
        exact .cons rfl (ih hrest)
      · obtain ⟨line, rest, hlines, hpushed⟩ := exists_lines_of_ne_newline final tokens hnewline
        obtain ⟨line', rest', hlines', hpushed'⟩ :=
          exists_lines_of_ne_newline final' others (hkind ▸ hnewline)
        have hlabels := ih hrest
        rw [hlines, hlines'] at hlabels
        obtain ⟨hline, hlabels⟩ := List.forall₂_cons.mp hlabels
        rw [hpushed, hpushed']
        exact .cons (by simp only [Line.push, List.map_cons, hlabel, hline]) hlabels

lemma shapes_of_labels {tokens others : List Token}
    (h : others.map Token.label = tokens.map Token.label) :
    shapes options final' others = shapes options final tokens :=
  shapes_of_alike ((labels_lines h).imp fun _ _ => Line.alike_of_labels)

/-! ## White space in a list of tokens -/

variable {token newline : Token} {tokens before behind white row : List Token}

/-- The tokens behind the last line break. -/
def lastLine (options : IndentOptions) (tokens : List Token) : List Token :=
  tokens.rtakeWhile (·.kind ≠ options.newline)

/-- `padded` is `tokens` with white space where it should not count: as a line of its own, or at the
end.  Then `row` is what is in that line, or in the last line with the white space behind it. -/
inductive Pads (options : IndentOptions) : List Token → List Token → List Token → Prop
  | line {before behind white : List Token} {newline : Token}
      (hbefore : ∀ token ∈ before.getLast?, token.kind = options.newline)
      (hwhite : ∀ token ∈ white, token.kind = options.whitespace)
      (hnewline : newline.kind = options.newline) :
      Pads options white (before ++ behind) (before ++ (white ++ newline :: behind))
  | ending {tokens white : List Token}
      (hwhite : ∀ token ∈ white, token.kind = options.whitespace) :
      Pads options (lastLine options tokens ++ white) tokens (tokens ++ white)

/-- The induction is on the tokens in front, which end with a line break if there are any. -/
lemma exists_lines_append (hbefore : ∀ token ∈ before.getLast?, token.kind = options.newline) :
    ∃ whole, (before ≠ [] → whole ≠ []) ∧
      ∀ final behind, lines options final (before ++ behind) =
        whole ++ lines options final behind := by
  induction before with
  | nil => exact ⟨[], fun hne => absurd rfl hne, fun final behind => rfl⟩
  | cons token before ih =>
    by_cases hnewline : token.kind = options.newline
    -- The line break makes an empty line of its own, in front of what is behind.
    · obtain ⟨whole, -, hwhole⟩ := ih fun last hlast => hbefore last (List.mem_getLast?_cons hlast)
      refine ⟨⟨[], token.position⟩ :: whole, fun _ => List.cons_ne_nil _ _, fun final behind => ?_⟩
      rw [List.cons_append, lines_of_newline hnewline, hwhole, List.cons_append]
    -- The token joins the first line of what is in front, which ends with a line break and so is
    -- not empty.
    · have hne : before ≠ [] := by
        rintro rfl
        exact hnewline (hbefore token (by simp))
      obtain ⟨whole, hfilled, hwhole⟩ :=
        ih fun last hlast => hbefore last (List.mem_getLast?_cons hlast)
      obtain ⟨line, rest, rfl⟩ := List.exists_cons_of_ne_nil (hfilled hne)
      refine ⟨line.push token :: rest, fun _ => List.cons_ne_nil _ _, fun final behind => ?_⟩
      rw [List.cons_append, lines, if_neg hnewline, hwhole]
      rfl

lemma lines_of_row (hrow : ∀ token ∈ row, token.kind ≠ options.newline) :
    lines options final row = [⟨row, final⟩] := by
  induction row with
  | nil => rfl
  | cons token row ih =>
    obtain ⟨hne, hrow⟩ := List.forall_mem_cons.mp hrow
    rw [lines, if_neg hne, ih hrow]
    rfl

lemma lines_of_row_newline (hrow : ∀ token ∈ row, token.kind ≠ options.newline)
    (hnewline : newline.kind = options.newline) :
    lines options final (row ++ newline :: tokens) =
      ⟨row, newline.position⟩ :: lines options final tokens := by
  induction row with
  | nil => exact lines_of_newline hnewline
  | cons token row ih =>
    obtain ⟨hne, hrow⟩ := List.forall_mem_cons.mp hrow
    rw [List.cons_append, lines, if_neg hne, ih hrow]
    rfl

lemma filledLines_newlines (h : ∀ token ∈ tokens, token.kind = options.newline) :
    filledLines options final tokens = [] := by
  induction tokens with
  | nil => exact filledLines_nil
  | cons token tokens ih =>
    obtain ⟨hnewline, h⟩ := List.forall_mem_cons.mp h
    rw [filledLines_of_newline hnewline, ih h]

lemma filledLines_blank_line (hwhite : ∀ token ∈ white, token.kind = options.whitespace)
    (hlength : white.length ≤ 1) (hnewline : newline.kind = options.newline) :
    filledLines options final (white ++ newline :: behind) = filledLines options final behind := by
  match white, hlength with
  | [], _ => exact filledLines_of_newline hnewline
  | [token], _ => exact filledLines_whitespace_newline (hwhite token (by simp)) hnewline

lemma Line.isBlank_eq_false {line : Line} (hmem : token ∈ line.tokens)
    (h : token.kind ≠ options.whitespace) : line.isBlank options = false := by
  obtain ⟨tokens, ending⟩ := line
  match tokens, hmem with
  | [other], hmem =>
    obtain rfl := List.mem_singleton.mp hmem
    simp [isBlank, h]
  | _ :: _ :: _, _ => rfl

/-- White space behind a line leaves it as it is, unless it makes a line of several tokens of white
space. -/
lemma Line.alike_append_white (hwhite : ∀ token ∈ white, token.kind = options.whitespace)
    (hrow : (row ++ white).length ≤ 1 ∨ ∃ token ∈ row ++ white, token.kind ≠ options.whitespace)
    (ending ending' : Position) : (⟨row ++ white, ending⟩ : Line).Alike options ⟨row, ending'⟩ := by
  by_cases hempty : white = []
  · subst hempty
    exact alike_of_labels (by simp)
  rcases hrow with hlength | ⟨token, hmem, hne⟩
  -- A row of one token that is white space is blank, with it or without it.
  · obtain ⟨rfl, token, rfl⟩ : row = [] ∧ ∃ token, white = [token] := by
      have hpositive := List.length_pos_iff.mpr hempty
      rw [List.length_append] at hlength
      exact ⟨List.length_eq_zero_iff.mp (by omega), List.length_eq_one_iff.mp (by omega)⟩
    have hkind := hwhite token (by simp)
    exact ⟨by simp [isBlank, hkind], by simp [isBlank]⟩
  -- Something in the row counts, so that both are lines with content, and white space is no part
  -- of that.
  · have hinside : token ∈ row :=
      (List.mem_append.mp hmem).resolve_right fun hmem => hne (hwhite token hmem)
    have hpadded : (⟨row ++ white, ending⟩ : Line).isBlank options = false :=
      isBlank_eq_false hmem hne
    have hplain : (⟨row, ending'⟩ : Line).isBlank options = false := isBlank_eq_false hinside hne
    refine ⟨hpadded.trans hplain.symm, fun _ => ?_⟩
    have hdropped : white.filter (·.kind ≠ options.whitespace) = [] := by
      simpa [List.filter_eq_nil_iff] using hwhite
    obtain ⟨first, rest, rfl⟩ := List.exists_cons_of_ne_nil (List.ne_nil_of_mem hinside)
    refine Prod.ext rfl ?_
    simp only [shape, content, List.filter_append, hdropped, List.append_nil]

lemma append_lastLine (options : IndentOptions) (tokens : List Token) :
    ∃ before, tokens = before ++ lastLine options tokens ∧
      (∀ token ∈ before.getLast?, token.kind = options.newline) ∧
      ∀ token ∈ lastLine options tokens, token.kind ≠ options.newline := by
  refine ⟨tokens.rdropWhile (·.kind ≠ options.newline), ?_, ?_, ?_⟩
  · exact List.rdropWhile_append_rtakeWhile.symm
  · intro token hlast
    obtain ⟨hne, rfl⟩ := List.mem_getLast?_eq_getLast hlast
    simpa using List.rdropWhile_last_not _ _ hne
  · intro token hmem
    simpa using List.mem_rtakeWhile_imp hmem

lemma shapes_append (hbefore : ∀ token ∈ before.getLast?, token.kind = options.newline)
    {others : List Token} (h : shapes options final others = shapes options final tokens) :
    shapes options final (before ++ others) = shapes options final (before ++ tokens) := by
  obtain ⟨whole, -, hwhole⟩ := exists_lines_append hbefore
  unfold shapes filledLines at *
  rw [hwhole, hwhole, List.filter_append, List.filter_append, List.map_append, List.map_append, h]

/-- White space that is of the kind of line breaks ends the line; else it stands in it. -/
lemma shapes_row_append (hwhite : ∀ token ∈ white, token.kind = options.whitespace)
    (hplain : ∀ token ∈ row, token.kind ≠ options.newline)
    (hrow : (row ++ white).length ≤ 1 ∨ ∃ token ∈ row ++ white, token.kind ≠ options.whitespace) :
    shapes options final (row ++ white) = shapes options final row := by
  -- White space and line breaks may be given the same kind, and then the first such token ends
  -- the line.
  by_cases hsame : options.whitespace = options.newline
  · rw [hsame] at hwhite
    cases white with
    | nil => rw [List.append_nil]
    | cons token white =>
      obtain ⟨htoken, hwhite⟩ := List.forall_mem_cons.mp hwhite
      have hempty : filledLines options final white = [] := filledLines_newlines hwhite
      have halike : (⟨row, token.position⟩ : Line).Alike options ⟨row, final⟩ :=
        Line.alike_of_labels rfl
      have hshapes := shapes_of_alike (.cons halike .nil)
      unfold shapes filledLines at *
      rw [lines_of_row_newline hplain htoken, lines_of_row hplain, List.filter_cons, hempty]
      rwa [List.filter_cons, List.filter_nil] at hshapes
  · have hpadded : ∀ token ∈ row ++ white, token.kind ≠ options.newline := by
      intro token hmem
      rcases List.mem_append.mp hmem with hmem | hmem
      · exact hplain token hmem
      · rw [hwhite token hmem]
        exact hsame
    unfold shapes filledLines
    rw [lines_of_row hpadded, lines_of_row hplain]
    exact shapes_of_alike (.cons (Line.alike_append_white hwhite hrow final final) .nil)

/-- **White space that makes a blank line, or none, leaves the lines that count as they are.** -/
lemma shapes_of_pads {padded : List Token} (h : Pads options row tokens padded)
    (hrow : row.length ≤ 1 ∨ ∃ token ∈ row, token.kind ≠ options.whitespace) :
    shapes options final padded = shapes options final tokens := by
  cases h with
  | @line before behind _ newline hbefore hwhite hnewline =>
    -- In a line of its own there is only white space, so the row has to be short.
    have hlength : row.length ≤ 1 :=
      hrow.resolve_right fun ⟨token, hmem, hne⟩ => hne (hwhite token hmem)
    refine shapes_append hbefore ?_
    rw [shapes, filledLines_blank_line hwhite hlength hnewline, shapes]
  | ending hwhite =>
    -- At the end the row is the last line of the tokens with the white space behind it.
    obtain ⟨before, htokens, hbefore, hplain⟩ := append_lastLine options tokens
    have hlast : shapes options final (lastLine options tokens ++ _) =
        shapes options final (lastLine options tokens) :=
      shapes_row_append hwhite hplain hrow
    have hshapes := shapes_append hbefore hlast
    rwa [← List.append_assoc, ← htokens] at hshapes

namespace Layer

variable {σ τ : Type} [TokenSource σ] [TokenSource τ]

/-- **Blank lines do not count.**  Let `others` be the tokens of a source with white space where it
should not count, at whatever places they stand then.  If there is at most one token in the line that
the white space makes, or one that is not white space, layers over both sources give the same outline. -/
theorem outline_collect_of_pads (options : IndentOptions) {row tokens padded others : List Token}
    {source : σ} {other : τ} (hpads : Pads options row tokens padded)
    (hrow : row.length ≤ 1 ∨ ∃ token ∈ row, token.kind ≠ options.whitespace)
    (hlabels : others.map Token.label = padded.map Token.label)
    (hsource : TokenSource.Supplies source final tokens)
    (hother : TokenSource.Supplies other final' others) (limit : Nat) :
    (TokenSource.collect limit (initial other options)).outline =
      (TokenSource.collect limit (initial source options)).outline := by
  have hshapes : shapes options final' others = shapes options final tokens :=
    (shapes_of_labels hlabels).trans (shapes_of_pads hpads hrow)
  rw [outline_collect_of_gives (next_initial_gives options hother) limit,
    outline_collect_of_gives (next_initial_gives options hsource) limit, outline_offSide hshapes]

/-- A token of white space. -/
def whiteToken (value : String) (position : Position) : Token :=
  { Token.synthetic "ws" position with value }

/-- A blank line behind the first line of the uneven outline. -/
theorem outline_collect_of_pads_unevenOutline :
    let white := whiteToken "   " ⟨2, 2, 1⟩
    let newline := Token.synthetic "nl" ⟨5, 2, 4⟩
    let padded := unevenOutline.take 2 ++ ([white] ++ newline :: unevenOutline.drop 2)
    Pads .standard [white] unevenOutline padded ∧
      TokenSource.Supplies (Script.start unevenOutline ⟨22, 7, 3⟩) ⟨22, 7, 3⟩ unevenOutline ∧
      TokenSource.Supplies (Script.start padded ⟨26, 8, 3⟩) ⟨26, 8, 3⟩ padded ∧
      (TokenSource.collect 20 (initial (Script.start padded ⟨26, 8, 3⟩) .standard)).outline =
        (TokenSource.collect 20
          (initial (Script.start unevenOutline ⟨22, 7, 3⟩) .standard)).outline := by
  intro white newline padded
  have hpads : Pads .standard [white] unevenOutline padded := by
    rw [← List.take_append_drop 2 unevenOutline]
    exact .line (by decide) (by decide) rfl
  have hsource := Script.supplies (Script.start unevenOutline ⟨22, 7, 3⟩)
  have hother := Script.supplies (Script.start padded ⟨26, 8, 3⟩)
  exact ⟨hpads, hsource, hother, outline_collect_of_pads .standard hpads
    (.inl (by decide)) rfl hsource hother 20⟩

/-- Two tokens of white space in a line of their own, as they come from white space on both sides of a
comment that is dropped, open a block and close it. -/
theorem kinds_of_comment_line :
    let white := [whiteToken "  " ⟨2, 2, 1⟩, whiteToken " " ⟨8, 2, 7⟩]
    let tokens := [Token.synthetic "a" ⟨0, 1, 1⟩, .synthetic "nl" ⟨1, 1, 2⟩,
      .synthetic "b" ⟨10, 3, 1⟩]
    let padded := [Token.synthetic "a" ⟨0, 1, 1⟩, .synthetic "nl" ⟨1, 1, 2⟩] ++
      (white ++ .synthetic "nl" ⟨9, 2, 8⟩ :: [.synthetic "b" ⟨10, 3, 1⟩])
    Pads .standard white tokens padded ∧
      (TokenSource.collect 9 (initial (Script.start tokens ⟨11, 3, 2⟩)
          .standard)).tokens.map (·.kind) = ["a", "nl", "b"] ∧
      (TokenSource.collect 9 (initial (Script.start padded ⟨11, 3, 2⟩)
          .standard)).tokens.map (·.kind) = ["a", "indent", "dedent", "b"] := by
  intro white tokens padded
  refine ⟨?_, by decide +kernel, by decide +kernel⟩
  have hsplit : tokens = tokens.take 2 ++ tokens.drop 2 := rfl
  rw [hsplit]
  exact .line (by decide) (by decide) rfl

end Layer

end Lexical
