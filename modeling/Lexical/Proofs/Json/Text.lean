import Lexical.Json.Parser
import Lexical.Json.Printer
import Lexical.Proofs.Text.Digits
import Mathlib.Data.Char
import Mathlib.Data.List.TakeWhile
import Mathlib.Data.Nat.Digits.Defs

/-!
# Strings and numbers in JSON

A string comes back as it was written (`exists_writeText_eq`): quotes, backslashes and controls by their
escapes, every other character as itself.  A number comes back in front of any text with which it does
not go on (`readNumber_toDigits`).
-/

namespace Lexical.Json

/-! ## Strings -/

lemma hexDigit?_hexDigit {n : Nat} (h : n < 16) : CodeSet.hexDigit? (hexDigit n) = some n := by
  revert n
  decide

/-- An escape by number is read as the code of its character. -/
lemma hexCode?_of_lt {code : Nat} (h : code < 0x20) :
    hexCode? '0' '0' (hexDigit (code / 16)) (hexDigit (code % 16)) = some code := by
  have hzero : CodeSet.hexDigit? '0' = some 0 := by decide
  have hhigh := hexDigit?_hexDigit (n := code / 16) (by omega)
  have hlow := hexDigit?_hexDigit (n := code % 16) (by omega)
  simp only [hexCode?, hzero, hhigh, hlow, Option.bind_eq_bind, Option.bind_some]
  congr 1
  omega

/-- What is read of a string that begins with the code and goes on with the rest. -/
private lemma bind_cons_eq_map {α β : Type} (a : α) (result : Option (List α × β)) :
    (result.bind fun read => some (a :: read.1, read.2)) =
      result.map fun (read, rest) => (a :: read, rest) := by
  cases result <;> rfl

lemma readCodes_cons {c : Char} (hquote : c ≠ '"') (hbackslash : c ≠ '\\')
    (hcontrol : ¬ c.toNat < 0x20) (rest : List Char) :
    readCodes (c :: rest) = (readCodes rest).map fun (codes, rest) => (c.toNat :: codes, rest) := by
  rw [readCodes.eq_5 _ _ hquote (by simp [hbackslash]) (by simp [hbackslash])]
  simp [hcontrol, hbackslash, bind_cons_eq_map]

/-- What a character is written as is read as its code. -/
lemma readCodes_escape (c : Char) (rest : List Char) :
    readCodes (escape c ++ rest) =
      (readCodes rest).map fun (codes, rest) => (c.toNat :: codes, rest) := by
  unfold escape
  split
  case h_8 c hquote hbackslash _ _ _ _ _ =>
    split_ifs with hcontrol
    · simp [readCodes, hexCode?_of_lt hcontrol, bind_cons_eq_map]
    · exact readCodes_cons hquote hbackslash hcontrol rest
  all_goals simp [readCodes, escapedChar?, bind_cons_eq_map]

/-- The induction is on the characters. -/
lemma readCodes_flatMap_escape (chars rest : List Char) :
    readCodes (chars.flatMap escape ++ '"' :: rest) = some (chars.map Char.toNat, rest) := by
  induction chars with
  | nil => rfl
  | cons c chars ih =>
    rw [List.flatMap_cons, List.append_assoc, readCodes_escape, ih]
    rfl

/-- No character is a surrogate. -/
lemma isSurrogate_toNat (c : Char) :
    isHighSurrogate c.toNat = false ∧ isLowSurrogate c.toNat = false := by
  have hvalid : c.toNat < 0xD800 ∨ 0xDFFF < c.toNat ∧ c.toNat < 0x110000 := c.valid
  simp only [isHighSurrogate, isLowSurrogate, Bool.and_eq_false_iff, decide_eq_false_iff_not]
  omega

/-- The induction is on the characters. -/
lemma decodeCodes_map_toNat (chars : List Char) :
    decodeCodes (chars.map Char.toNat) = some chars := by
  induction chars with
  | nil => rfl
  | cons c rest ih =>
    obtain ⟨hhigh, hlow⟩ := isSurrogate_toNat c
    cases rest with
    | nil => simp [decodeCodes, hhigh, hlow]
    | cons d rest =>
      rw [List.map_cons] at ih
      simp [decodeCodes, hhigh, hlow, ih]

/-- **Strings come back.**  What is written of a text, or of a string that stands for none, begins with
a quote, and behind that the same is read. -/
lemma exists_writeText_eq (text : Json.Text) : ∃ body, writeText text = '"' :: body ∧
    ∀ rest, readText (body ++ rest) = some (text, rest) := by
  cases text with
  | none =>
    refine ⟨['\\', 'u', 'D', '8', '0', '0', '"'], by decide, fun rest => ?_⟩
    have hcode : hexCode? 'D' '8' '0' '0' = some 0xD800 := by decide
    have hnone : decodeCodes [0xD800] = none := by decide
    simp [readText, readCodes, hcode, hnone]
  | some text =>
    refine ⟨text.toList.flatMap escape ++ ['"'], rfl, fun rest => ?_⟩
    rw [List.append_assoc, List.singleton_append, readText, readCodes_flatMap_escape]
    simp [decodeCodes_map_toNat]

/-! ## Numbers -/

/-- A text with which a number does not go on. -/
def EndsNumber (rest : List Char) : Prop :=
  ∀ c ∈ rest.head?, c.isDigit = false ∧ c ≠ '.' ∧ c ≠ 'e' ∧ c ≠ 'E'

lemma takeWhile_isDigit {rest : List Char} (h : EndsNumber rest) :
    rest.takeWhile Char.isDigit = [] := by
  cases rest with
  | nil => rfl
  | cons c rest => exact List.takeWhile_cons_of_neg (by simp [(h c rfl).1])

lemma readDigits_append {digits rest : List Char} (hnil : digits ≠ [])
    (hdigits : ∀ c ∈ digits, c.isDigit) (hrest : EndsNumber rest) :
    readDigits (digits ++ rest) = some (digits, rest) := by
  have htake : (digits ++ rest).takeWhile Char.isDigit = digits := by
    rw [List.takeWhile_append_of_pos hdigits, takeWhile_isDigit hrest, List.append_nil]
  simp [readDigits, htake, hnil]

lemma readFraction_of_endsNumber {rest : List Char} (h : EndsNumber rest) :
    readFraction rest = some (false, rest) := by
  cases rest with
  | nil => rfl
  | cons c rest =>
    unfold readFraction
    split
    · next heq =>
      injection heq with hc _
      exact absurd hc (h c rfl).2.1
    · rfl

lemma readExponent_of_endsNumber {rest : List Char} (h : EndsNumber rest) :
    readExponent rest = some (false, rest) := by
  cases rest with
  | nil => rfl
  | cons c rest =>
    obtain ⟨-, -, hsmall, hbig⟩ := h c rfl
    simp [readExponent, hsmall, hbig]

lemma exists_toDigits_eq_cons (n : Nat) :
    ∃ c rest, Nat.toDigits 10 n = c :: rest ∧ ∀ d ∈ c :: rest, d.isDigit := by
  obtain ⟨c, rest, hcons⟩ := List.exists_cons_of_ne_nil (Nat.toDigits_ne_nil (n := n) (b := 10))
  refine ⟨c, rest, hcons, fun d hd => ?_⟩
  rw [← hcons] at hd
  exact Nat.isDigit_of_mem_toDigits (by omega) (by omega) hd

/-- Only zero begins with a zero.  The induction is on the number. -/
lemma head?_toDigits_ne {n : Nat} (h : 0 < n) : (Nat.toDigits 10 n).head? ≠ some '0' := by
  induction n using Nat.strongRecOn with
  | ind n ih =>
    rcases Nat.lt_or_ge n 10 with hlt | hge
    · rw [Nat.toDigits_of_lt_base hlt]
      simp [Nat.digitChar_eq_zero]
      omega
    · obtain ⟨c, rest, hcons, -⟩ := exists_toDigits_eq_cons (n / 10)
      have hhead := ih (n / 10) (by omega) (by omega)
      rw [Nat.toDigits_of_base_le (by omega) hge]
      rw [hcons] at hhead ⊢
      exact hhead

lemma length_toDigits_of_head? {n : Nat} (h : (Nat.toDigits 10 n).head? = some '0') :
    (Nat.toDigits 10 n).length = 1 := by
  rcases Nat.eq_zero_or_pos n with rfl | hpos
  · rfl
  · exact absurd h (head?_toDigits_ne hpos)

/-- **Numbers come back**, in front of a text with which they do not go on. -/
lemma readNumber_toDigits (n : Nat) {rest : List Char} (h : EndsNumber rest) :
    readNumber (Nat.toDigits 10 n ++ rest) = some (.nat n, rest) := by
  have hvalue := foldl_toDigits n
  have hzero := length_toDigits_of_head? (n := n)
  obtain ⟨c, more, hcons, hdigits⟩ := exists_toDigits_eq_cons n
  have hread := readDigits_append (List.cons_ne_nil c more) hdigits h
  have hsign : c ≠ '-' := by
    rintro rfl
    exact absurd (hdigits '-' List.mem_cons_self) (by decide)
  rw [hcons] at hvalue hzero ⊢
  rw [List.cons_append] at hread ⊢
  simpa [readNumber, hsign, hread, hvalue, readFraction_of_endsNumber h,
    readExponent_of_endsNumber h, -List.foldl_cons, -List.head?_cons, -List.length_cons] using hzero

lemma readNumber_minusZero {rest : List Char} (h : EndsNumber rest) :
    readNumber ('-' :: '0' :: rest) = some (.otherNumber, rest) := by
  have hread : readDigits (['0'] ++ rest) = some (['0'], rest) :=
    readDigits_append (by simp) (by simp) h
  rw [List.singleton_append] at hread
  simp [readNumber, hread, readFraction_of_endsNumber h, readExponent_of_endsNumber h]

end Lexical.Json
