import Lexical.Pattern
import Lexical.Proofs.Regex.Extension.Reader
import Lexical.Proofs.Text.Digits

/-!
# Reading the pieces of a written pattern

The text of a pattern is put together of escaped characters, of characters by number, of ranges and
of counts.  Where blanks are not skipped, the reader takes each of these pieces up to its end,
whatever follows, and makes of it just what was written: escaped characters stand for themselves, and
numbers for their characters.  Only two things are refused: a range that runs backwards
(`CharSet.Ordered`), and a count that is out of range (`Pattern.CountFits`).
-/

namespace Lexical

open Regex

/-! ## Digits -/

lemma isBlank_of_mem_toDigits {n : Nat} {c : Char} (h : c ∈ Nat.toDigits 10 n) :
    isBlank c = false := by
  obtain ⟨k, hk, rfl⟩ := exists_digitChar_of_mem_toDigits (by decide) h
  have hdigits : ∀ k < 10, isBlank (Nat.digitChar k) = false := by decide +kernel
  exact hdigits k hk

lemma brace_not_mem_toDigits (n : Nat) : '}' ∉ (Nat.toDigits 16 n).map Char.toUpper := by
  intro h
  obtain ⟨c, hc, hupper⟩ := List.mem_map.1 h
  obtain ⟨k, hk, rfl⟩ := exists_digitChar_of_mem_toDigits (by decide) hc
  have hdigits : ∀ k < 16, (Nat.digitChar k).toUpper ≠ '}' := by decide
  exact hdigits k hk hupper

/-! ## Characters -/

@[simp] lemma skipBlanks_false (text : List Char) : skipBlanks false text = text := rfl

lemma takeUntil_of_not_mem {close : Char} {text : List Char} (h : close ∉ text)
    (more : List Char) :
    takeUntil false close false (text ++ close :: more) = some (text, more) := by
  induction text with
  | nil => simp [takeUntil]
  | cons c text ih =>
    simp only [List.mem_cons, not_or] at h
    have hc : c ≠ close := Ne.symm h.1
    simp [takeUntil, hc, ih h.2]

/-- A character with a meaning of its own stands for itself behind a backslash. -/
lemma readEscape_of_isMeta {c : Char} (h : isMeta c = true) (more : List Char) :
    readEscape false (c :: more) = some (.literal (verbatim c), more) := by
  have hmem : c ∈ ['\\', '.', '+', '*', '?', '(', ')', '|', '[', ']', '\x7b', '\x7d', '^', '$', '#',
      '&', '-', '~'] := by
    simpa [isMeta] using h
  simp only [List.mem_cons, List.not_mem_nil, or_false] at hmem
  rcases hmem with rfl | rfl | rfl | rfl | rfl | rfl | rfl | rfl | rfl | rfl | rfl | rfl | rfl |
    rfl | rfl | rfl | rfl | rfl <;> rfl

lemma charOfNat?_toNat (c : Char) : charOfNat? c.toNat = some c := by
  have hvalid : c.toNat.isValidChar := c.valid
  rw [charOfNat?, if_pos hvalid, Char.ofNat_toNat]

/-- A character by its number is that character. -/
lemma readItem_writeChar (c : Char) (more : List Char) :
    readItem false (CharSet.writeChar c ++ more) = some (.literal (verbatim c), more) := by
  have hdigits := takeUntil_of_not_mem (brace_not_mem_toDigits c.toNat) more
  have hne : ((Nat.toDigits 16 c.toNat).map Char.toUpper).isEmpty = false := by
    simp [Nat.toDigits_ne_nil]
  -- The digits are read up to the brace, which is none of them.
  have hnumber : hexNumber? ((Nat.toDigits 16 c.toNat).map Char.toUpper) = some c.toNat := by
    simp only [hexNumber?, hne, foldlM_toDigits, Bool.false_eq_true, if_false]
  have hwritten : CharSet.writeChar c ++ more =
      '\\' :: 'x' :: '{' :: ((Nat.toDigits 16 c.toNat).map Char.toUpper ++ '}' :: more) := by
    simp [CharSet.writeChar]
  rw [hwritten]
  simp only [readItem, readEscape, readHex, skipBlanks_false, hdigits, Option.bind_eq_bind,
    Option.bind_some, hnumber, charOfNat?_toNat]
  rfl

/-! ## Character sets -/

namespace CharSet

/-- A range as an item of a class. -/
def rangeTerm : Char × Char → ClassTerm
  | (first, last) =>
    if first = last then .literal (verbatim first) else .range (verbatim first) (verbatim last)

/-- The set as a bracketed class. -/
def term (set : CharSet) : ClassTerm :=
  if set.ranges.isEmpty then .bracketed true (rangeTerm ('\x00', Char.ofNat 0x10FFFF))
  else .bracketed false (.ofItems (set.ranges.map rangeTerm))

/-- No range runs backwards. -/
def Ordered (set : CharSet) : Prop :=
  ∀ range ∈ set.ranges, range.1 ≤ range.2

instance (set : CharSet) : Decidable set.Ordered :=
  inferInstanceAs (Decidable (∀ range ∈ set.ranges, range.1 ≤ range.2))

end CharSet

lemma writeChar_eq_cons (c : Char) : ∃ digits, CharSet.writeChar c = '\\' :: digits :=
  ⟨_, rfl⟩

lemma writeRange_eq_cons (range : Char × Char) :
    ∃ behind, CharSet.writeRange range = '\\' :: behind := by
  obtain ⟨first, last⟩ := range
  simp only [CharSet.writeRange]
  split_ifs <;> exact ⟨_, rfl⟩

/-- A range, in front of another one or of the end of the bracket. -/
lemma readRange_writeRange (range : Char × Char) {c : Char} (hc : c ≠ '-') (more : List Char) :
    readRange false (CharSet.writeRange range ++ c :: more) =
      if range.1 ≤ range.2 then some (CharSet.rangeTerm range, c :: more) else none := by
  obtain ⟨first, last⟩ := range
  by_cases heq : first = last
  · subst heq
    simp only [CharSet.writeRange, CharSet.rangeTerm, Std.le_refl, if_true]
    exact readRange_of_ne_hyphen (readItem_writeChar first (c :: more)) rfl hc
  -- A range of several characters has a hyphen in the middle, and behind it no character that
  -- would make the hyphen an item.
  · obtain ⟨digits, hdigits⟩ := writeChar_eq_cons last
    have htext : CharSet.writeRange (first, last) ++ c :: more =
        CharSet.writeChar first ++ '-' :: (CharSet.writeChar last ++ c :: more) := by
      simp [CharSet.writeRange, heq]
    have hpeek : peekSignificant false (CharSet.writeChar last ++ c :: more) = some '\\' := by
      rw [hdigits]
      rfl
    rw [htext, readRange_of_hyphen (readItem_writeChar first _) rfl (by rw [hpeek]; decide),
      skipBlanks_false, readItem_writeChar, Option.bind_some]
    have hrange : Escape.range? (.literal (verbatim first)) (.literal (verbatim last)) =
        if first ≤ last then some (.range (verbatim first) (verbatim last)) else none := rfl
    simp only [hrange, CharSet.rangeTerm, if_neg heq]
    split_ifs <;> rfl

lemma exists_flatMap_writeRange_eq_cons (ranges : List (Char × Char)) (more : List Char) :
    ∃ c text, ranges.flatMap CharSet.writeRange ++ ']' :: more = c :: text ∧ c ≠ '-' ∧ c ≠ '^' := by
  cases ranges with
  | nil => exact ⟨']', more, rfl, by decide, by decide⟩
  | cons range ranges =>
    obtain ⟨behind, hbehind⟩ := writeRange_eq_cons range
    refine ⟨'\\', behind ++ (ranges.flatMap CharSet.writeRange ++ ']' :: more), ?_,
      by decide, by decide⟩
    simp [hbehind]

lemma readBracketFrom_backslash (fuel : Nat) (bracket : OpenBracket) (text : List Char) :
    readBracketFrom false (fuel + 1) bracket [] ('\\' :: text) =
      match readRange false ('\\' :: text) with
      | none => none
      | some (item, rest) => readBracketFrom false fuel (bracket.push item) [] rest := rfl

/-- The induction is on the ranges, each of which is an item of the bracket. -/
lemma readBracketFrom_writeRanges (ranges : List (Char × Char)) (bracket : OpenBracket)
    {fuel : Nat} (hfuel : ranges.length < fuel) (more : List Char) :
    readBracketFrom false fuel bracket [] (ranges.flatMap CharSet.writeRange ++ ']' :: more) =
      if ∀ range ∈ ranges, range.1 ≤ range.2 then
        some ({ bracket with
          items := (ranges.map CharSet.rangeTerm).reverse ++ bracket.items }.close, more)
      else none := by
  induction ranges generalizing bracket fuel with
  | nil =>
    obtain ⟨fuel, rfl⟩ : ∃ n, fuel = n + 1 := ⟨fuel - 1, by omega⟩
    simp only [List.not_mem_nil, false_implies, implies_true, if_true]
    rfl
  | cons range ranges ih =>
    simp only [List.length_cons] at hfuel
    obtain ⟨fuel, rfl⟩ : ∃ n, fuel = n + 1 := ⟨fuel - 1, by omega⟩
    -- Behind a range comes a backslash or the bracket that closes, and no hyphen.
    obtain ⟨behind, hbehind⟩ := writeRange_eq_cons range
    obtain ⟨c, text, htext, hc, -⟩ := exists_flatMap_writeRange_eq_cons ranges more
    have hread := readRange_writeRange range hc text
    rw [← htext] at hread
    rw [List.flatMap_cons, List.append_assoc]
    rw [hbehind, List.cons_append] at hread ⊢
    rw [readBracketFrom_backslash, hread]
    simp only [List.forall_mem_cons]
    -- A range that runs backwards makes the whole bracket unreadable.
    by_cases hrange : range.1 ≤ range.2
    · simp only [hrange, if_true, true_and]
      rw [ih (bracket.push _) (by omega)]
      simp [OpenBracket.push]
    · simp only [hrange, if_false, false_and]

lemma length_le_length_flatMap_writeRange (ranges : List (Char × Char)) :
    ranges.length ≤ (ranges.flatMap CharSet.writeRange).length := by
  induction ranges with
  | nil => rfl
  | cons range ranges ih =>
    obtain ⟨behind, hbehind⟩ := writeRange_eq_cons range
    simp only [List.flatMap_cons, List.length_append, List.length_cons, hbehind]
    omega

/-- Ranges in a bracket, from behind what opens it on. -/
lemma openItems_writeRanges {ranges : List (Char × Char)} (hranges : ranges ≠ [])
    (negated : Bool) (more : List Char) :
    ((openItems false negated (ranges.flatMap CharSet.writeRange ++ ']' :: more)).bind
        fun (bracket, rest) => readBracketFrom false (rest.length + 1) bracket [] rest) =
      if ∀ range ∈ ranges, range.1 ≤ range.2 then
        some (.bracketed negated (.ofItems (ranges.map CharSet.rangeTerm)), more)
      else none := by
  have hopen : openItems false negated (ranges.flatMap CharSet.writeRange ++ ']' :: more) =
      some (⟨negated, none, []⟩, ranges.flatMap CharSet.writeRange ++ ']' :: more) := by
    cases ranges with
    | nil => exact absurd rfl hranges
    | cons range ranges =>
      obtain ⟨behind, hbehind⟩ := writeRange_eq_cons range
      simp only [List.flatMap_cons, hbehind, List.cons_append]
      rfl
  have hlength := length_le_length_flatMap_writeRange ranges
  -- The fuel is one for each character, and each range has at least one.
  have hfuel : ranges.length < (ranges.flatMap CharSet.writeRange ++ ']' :: more).length + 1 := by
    simp only [List.length_append]
    omega
  have hread := readBracketFrom_writeRanges ranges ⟨negated, none, []⟩ hfuel more
  rw [hopen, Option.bind_some]
  refine hread.trans ?_
  simp [OpenBracket.close, OpenBracket.set]

/-- A set of characters from behind its opening bracket on. -/
lemma exists_readBracket_write (set : CharSet) :
    ∃ text, set.write = '[' :: text ∧ ∀ more,
      readBracket false (text ++ more) = if set.Ordered then some (set.term, more) else none := by
  -- An empty set is written as the complement of all characters.
  by_cases hempty : set.ranges = []
  · refine ⟨'^' :: ([('\x00', Char.ofNat 0x10FFFF)].flatMap CharSet.writeRange ++ [']']), ?_,
      fun more => ?_⟩
    · simp only [CharSet.write, hempty, List.isEmpty_nil, if_true]
      decide
    · have hread := openItems_writeRanges
        (List.cons_ne_nil ('\x00', Char.ofNat 0x10FFFF) []) true more
      have hopen (text : List Char) : openBracket false ('^' :: text) = openItems false true text :=
        openBracket_of_caret rfl
      have hordered : set.Ordered := by simp [CharSet.Ordered, hempty]
      rw [if_pos (by decide)] at hread
      rw [if_pos hordered, CharSet.term, hempty, readBracket, List.cons_append, hopen,
        List.append_assoc]
      exact hread
  · refine ⟨set.ranges.flatMap CharSet.writeRange ++ [']'], ?_, fun more => ?_⟩
    · simp [CharSet.write, hempty]
    · have hread := openItems_writeRanges hempty false more
      -- A bracket that starts with a range does not start with a `^`.
      obtain ⟨c, behind, hbehind, -, hc⟩ := exists_flatMap_writeRange_eq_cons set.ranges more
      have hcaret (others : List Char) : skipBlanks false (c :: behind) ≠ '^' :: others :=
        fun heq => hc (List.cons.inj heq).1
      have hterm : set.term = .bracketed false (.ofItems (set.ranges.map CharSet.rangeTerm)) := by
        simp [CharSet.term, hempty]
      rw [hbehind] at hread
      rw [readBracket, List.append_assoc, List.singleton_append, hbehind,
        openBracket_of_ne_caret hcaret, hterm]
      exact hread

/-! ## Counts -/

lemma takeWhileSignificant_of_forall {p : Char → Bool} {text : List Char}
    (h : ∀ c ∈ text, p c = true) {c : Char} (hc : p c = false) (more : List Char) :
    takeWhileSignificant false p false (text ++ c :: more) = (text, c :: more) := by
  induction text with
  | nil => simp [takeWhileSignificant, hc]
  | cons d text ih =>
    have hd : p d = true := h d List.mem_cons_self
    have hrest := ih fun e he => h e (List.mem_cons_of_mem d he)
    simp [takeWhileSignificant, hd, hrest]

/-- A number is read as that number, unless it is too great. -/
lemma readCount_toDigits (n : Nat) {c : Char} (hc : isBlank c = false) (hdigit : c.isDigit = false)
    (more : List Char) :
    readCount false (Nat.toDigits 10 n ++ c :: more) =
      if n < UInt32.size then some (some n, c :: more) else none := by
  have hdigits : ∀ d ∈ Nat.toDigits 10 n, d.isDigit = true :=
    fun d hd => Nat.isDigit_of_mem_toDigits (by decide) (by decide) hd
  have hblanks : ∀ d ∈ Nat.toDigits 10 n, isBlank d = false :=
    fun d hd => isBlank_of_mem_toDigits hd
  have hne : Nat.toDigits 10 n ≠ [] := Nat.toDigits_ne_nil
  have hvalue := foldl_toDigits n
  -- All that matters of the digits is that they are some and are not blanks, and what number they
  -- make.
  generalize Nat.toDigits 10 n = digits at hdigits hblanks hne hvalue
  have hdrop : (digits ++ c :: more).dropWhile isBlank = digits ++ c :: more := by
    cases digits with
    | nil => exact absurd rfl hne
    | cons d digits => simp [hblanks d List.mem_cons_self]
  have hdrop' : (c :: more).dropWhile isBlank = c :: more := by simp [hc]
  simp only [readCount, hdrop, takeWhileSignificant_of_forall hdigits hdigit, hdrop',
    List.isEmpty_iff, if_neg hne, hvalue]

lemma isBlank_comma : isBlank ',' = false := by
  decide +kernel

lemma isBlank_brace : isBlank '}' = false := by
  decide +kernel

/-- The bounds of a repetition can be told: they are numbers below 2 ^ 32, and in order. -/
structure Pattern.CountFits (min : Nat) (max : Option Nat) : Prop where
  min_lt : min < UInt32.size
  max_lt : ∀ most ∈ max, most < UInt32.size
  min_le : ∀ most ∈ max, min ≤ most

instance (min : Nat) (max : Option Nat) : Decidable (Pattern.CountFits min max) :=
  decidable_of_iff
    (min < UInt32.size ∧ (∀ most ∈ max, most < UInt32.size) ∧ ∀ most ∈ max, min ≤ most)
    ⟨fun ⟨hmin, hmax, hle⟩ => ⟨hmin, hmax, hle⟩, fun h => ⟨h.min_lt, h.max_lt, h.min_le⟩⟩

lemma readBounds_exactly (n : Nat) (more : List Char) :
    readBounds false (Nat.toDigits 10 n ++ '}' :: more) =
      if Pattern.CountFits n (some n) then some (n, some n, more) else none := by
  have hread := readCount_toDigits n isBlank_brace (by decide) more
  -- Of the three conditions two are void here.
  have hfits : Pattern.CountFits n (some n) ↔ n < UInt32.size :=
    ⟨fun h => h.min_lt, fun h => ⟨h, by simpa using h, by simp⟩⟩
  by_cases hlt : n < UInt32.size
  · rw [if_pos hlt] at hread
    rw [if_pos (hfits.2 hlt)]
    simp only [readBounds, skipBlanks_false, hread, Option.bind_eq_bind, Option.bind_some]
  · rw [if_neg hlt] at hread
    rw [if_neg (mt hfits.1 hlt)]
    simp only [readBounds, skipBlanks_false, hread, Option.bind_eq_bind, Option.bind_none]

lemma readBounds_atLeast (n : Nat) (more : List Char) :
    readBounds false (Nat.toDigits 10 n ++ ',' :: '}' :: more) =
      if Pattern.CountFits n none then some (n, none, more) else none := by
  have hread := readCount_toDigits n isBlank_comma (by decide) ('}' :: more)
  have hfits : Pattern.CountFits n none ↔ n < UInt32.size :=
    ⟨fun h => h.min_lt, fun h => ⟨h, by simp, by simp⟩⟩
  by_cases hlt : n < UInt32.size
  · rw [if_pos hlt] at hread
    rw [if_pos (hfits.2 hlt)]
    simp only [readBounds, skipBlanks_false, hread, Option.bind_eq_bind, Option.bind_some]
  · rw [if_neg hlt] at hread
    rw [if_neg (mt hfits.1 hlt)]
    simp only [readBounds, skipBlanks_false, hread, Option.bind_eq_bind, Option.bind_none]

lemma exists_toDigits_append_eq_cons (n : Nat) (more : List Char) :
    ∃ c rest, Nat.toDigits 10 n ++ more = c :: rest ∧ c ≠ '}' := by
  cases htext : Nat.toDigits 10 n with
  | nil => exact absurd htext Nat.toDigits_ne_nil
  | cons c digits =>
    have hdigit : c.isDigit = true :=
      Nat.isDigit_of_mem_toDigits (by decide) (by decide) (htext ▸ List.mem_cons_self)
    exact ⟨c, digits ++ more, rfl, fun heq => by simp [heq] at hdigit⟩

lemma readBounds_between (min max : Nat) (more : List Char) :
    readBounds false (Nat.toDigits 10 min ++ ',' :: (Nat.toDigits 10 max ++ '}' :: more)) =
      if Pattern.CountFits min (some max) then some (min, some max, more) else none := by
  have hread := readCount_toDigits min isBlank_comma (by decide)
    (Nat.toDigits 10 max ++ '}' :: more)
  have hread' := readCount_toDigits max isBlank_brace (by decide) more
  have hfits : Pattern.CountFits min (some max) ↔
      min < UInt32.size ∧ max < UInt32.size ∧ min ≤ max :=
    ⟨fun h => ⟨h.min_lt, h.max_lt max rfl, h.min_le max rfl⟩,
      fun h => ⟨h.1, by simpa using h.2.1, by simpa using h.2.2⟩⟩
  obtain ⟨d, digits, htext, hd⟩ := exists_toDigits_append_eq_cons max ('}' :: more)
  rw [htext] at hread hread' ⊢
  have hbrace (others : List Char) : d :: digits ≠ '}' :: others :=
    fun heq => hd (List.cons.inj heq).1
  -- Either count may be too great, and each is checked where it is read.
  by_cases hlt : min < UInt32.size
  · rw [if_pos hlt] at hread
    simp only [readBounds, skipBlanks_false, hread, Option.bind_eq_bind, Option.bind_some, hread',
      hfits, hlt, true_and]
    by_cases hlt' : max < UInt32.size
    · simp only [hlt', if_true, Option.bind_some, true_and]
    · simp only [hlt', if_false, Option.bind_none, false_and]
  · rw [if_neg hlt] at hread
    rw [if_neg fun h => hlt (hfits.1 h).1]
    simp only [readBounds, skipBlanks_false, hread, Option.bind_eq_bind, Option.bind_none]

/-- How a count is written. -/
inductive Pattern.CountText : Nat → Option Nat → List Char → Prop
  | star : CountText 0 none ['*']
  | plus : CountText 1 none ['+']
  | braces {min : Nat} {max : Option Nat} {text : List Char}
      (h : ∀ more, readBounds false (text ++ more) =
        if CountFits min max then some (min, max, more) else none) :
      CountText min max ('{' :: text)

lemma Pattern.countText_writeCount (min : Nat) (max : Option Nat) :
    CountText min max (writeCount min max) := by
  cases max with
  | none =>
    match min with
    | 0 => exact .star
    | 1 => exact .plus
    | n + 2 =>
      have hwritten : writeCount (n + 2) none = '{' :: (Nat.toDigits 10 (n + 2) ++ [',', '}']) := rfl
      rw [hwritten]
      refine .braces fun more => ?_
      rw [← readBounds_atLeast (n + 2) more, List.append_assoc]
      rfl
  | some max =>
    by_cases heq : max = min
    · subst heq
      have hwritten : writeCount max (some max) = '{' :: (Nat.toDigits 10 max ++ ['}']) := by
        simp [writeCount]
      rw [hwritten]
      refine .braces fun more => ?_
      rw [← readBounds_exactly max more, List.append_assoc]
      rfl
    · have hwritten : writeCount min (some max) =
          '{' :: (Nat.toDigits 10 min ++ ',' :: (Nat.toDigits 10 max ++ ['}'])) := by
        simp [writeCount, heq]
      rw [hwritten]
      refine .braces fun more => ?_
      rw [← readBounds_between min max more]
      simp

end Lexical
