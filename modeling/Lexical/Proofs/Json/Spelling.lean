import Lexical.Proofs.Json.Text

/-!
# Spellings of JSON values

A value can be spelled in many ways, since blanks may stand between the words and signs of a document
(`Spells`).  Whatever spells a value is read as that value (`Spells.readsAs`), and writing a value,
on one line or on many, spells it.  So every value comes back: `parse?_write`, `parse?_writePretty`.
-/

namespace Lexical.Json

/-! ## Spellings -/

/-- Nothing but blanks. -/
def Blank (text : List Char) : Prop :=
  ∀ c ∈ text, isBlank c

/-- A value that holds no others. -/
def IsAtom : Json → Prop
  | array _ => False
  | object _ => False
  | _ => True

/-- What is spelled: a value, or what stands behind the opening bracket of an array or the opening brace
of an object that is not empty. -/
inductive Part where
  | value (json : Json)
  | items (items : List Json)
  | fields (fields : List (Json.Text × Json))

/-- A text that spells a part of a document, in which blanks stand between the words and signs
anywhere. -/
inductive Spells : Part → List Char → Prop
  | atom {json : Json} (h : json.IsAtom) : Spells (.value json) (writeAtom json)
  | noItems {blanks : List Char} (hblanks : Blank blanks) :
      Spells (.value (.array [])) ('[' :: blanks ++ [']'])
  | array {items : List Json} {text : List Char} (h : Spells (.items items) text) :
      Spells (.value (.array items)) ('[' :: text)
  | noFields {blanks : List Char} (hblanks : Blank blanks) :
      Spells (.value (.object [])) ('{' :: blanks ++ ['}'])
  | object {fields : List (Json.Text × Json)} {text : List Char} (h : Spells (.fields fields) text) :
      Spells (.value (.object fields)) ('{' :: text)
  | lastItem {item : Json} {before text behind : List Char} (hbefore : Blank before)
      (h : Spells (.value item) text) (hbehind : Blank behind) :
      Spells (.items [item]) (before ++ text ++ behind ++ [']'])
  | item {item : Json} {items : List Json} {before text behind rest : List Char}
      (hbefore : Blank before) (h : Spells (.value item) text) (hbehind : Blank behind)
      (hrest : Spells (.items items) rest) :
      Spells (.items (item :: items)) (before ++ text ++ behind ++ ',' :: rest)
  | lastField (name : Json.Text) {value : Json} {before between around text behind : List Char}
      (hbefore : Blank before) (hbetween : Blank between) (haround : Blank around)
      (h : Spells (.value value) text) (hbehind : Blank behind) :
      Spells (.fields [(name, value)])
        (before ++ writeText name ++ between ++ ':' :: around ++ text ++ behind ++ ['}'])
  | field (name : Json.Text) {value : Json} {fields : List (Json.Text × Json)}
      {before between around text behind rest : List Char}
      (hbefore : Blank before) (hbetween : Blank between) (haround : Blank around)
      (h : Spells (.value value) text) (hbehind : Blank behind)
      (hrest : Spells (.fields fields) rest) :
      Spells (.fields ((name, value) :: fields))
        (before ++ writeText name ++ between ++ ':' :: around ++ text ++ behind ++ ',' :: rest)

/-! ### Blanks -/

lemma blank_nil : Blank [] := by simp [Blank]

lemma skipBlanks_append {blanks : List Char} (h : Blank blanks) (text : List Char) :
    skipBlanks (blanks ++ text) = skipBlanks text :=
  List.dropWhile_append_of_pos h

lemma skipBlanks_cons {c : Char} (h : isBlank c = false) (rest : List Char) :
    skipBlanks (c :: rest) = c :: rest :=
  List.dropWhile_cons_of_neg (by simp [h])

lemma skipBlanks_append_cons {blanks : List Char} (h : Blank blanks) {c : Char}
    (hc : isBlank c = false) (rest : List Char) : skipBlanks (blanks ++ c :: rest) = c :: rest := by
  rw [skipBlanks_append h, skipBlanks_cons hc]

lemma endsNumber_cons {c : Char} (rest : List Char)
    (h : c.isDigit = false ∧ c ≠ '.' ∧ c ≠ 'e' ∧ c ≠ 'E') : EndsNumber (c :: rest) := by
  intro d hd
  obtain rfl : c = d := Option.some.inj hd
  exact h

lemma endsNumber_of_isBlank {c : Char} (h : isBlank c) (rest : List Char) :
    EndsNumber (c :: rest) := by
  have hblank : c = ' ' ∨ c = '\t' ∨ c = '\n' ∨ c = '\r' := by simpa [isBlank, or_assoc] using h
  rcases hblank with rfl | rfl | rfl | rfl <;> exact endsNumber_cons _ (by decide)

/-- Blanks end a number like the text behind them does. -/
lemma EndsNumber.append {blanks rest : List Char} (hblanks : Blank blanks) (h : EndsNumber rest) :
    EndsNumber (blanks ++ rest) := by
  cases blanks with
  | nil => exact h
  | cons c blanks => exact endsNumber_of_isBlank (hblanks c List.mem_cons_self) _

/-! ### Where values start -/

/-- A character that is no blank and closes nothing. -/
def Opens (c : Char) : Prop :=
  isBlank c = false ∧ c ≠ ']'

lemma opens_of_isDigit {c : Char} (h : c.isDigit) : Opens c := by
  constructor
  · by_contra hblank
    have hends := endsNumber_of_isBlank (by simpa using hblank) [] c rfl
    rw [hends.1] at h
    contradiction
  · rintro rfl
    contradiction

lemma exists_writeAtom_eq {json : Json} (h : json.IsAtom) :
    ∃ c rest, writeAtom json = c :: rest ∧ Opens c := by
  cases json with
  | null => exact ⟨'n', _, rfl, by decide, by decide⟩
  | bool value => cases value with
    | false => exact ⟨'f', _, rfl, by decide, by decide⟩
    | true => exact ⟨'t', _, rfl, by decide, by decide⟩
  | nat n =>
    obtain ⟨c, rest, hcons, hdigits⟩ := exists_toDigits_eq_cons n
    exact ⟨c, rest, hcons, opens_of_isDigit (hdigits c List.mem_cons_self)⟩
  | otherNumber => exact ⟨'-', _, rfl, by decide, by decide⟩
  | string text =>
    obtain ⟨body, hbody, -⟩ := exists_writeText_eq text
    exact ⟨'"', body, hbody, by decide, by decide⟩
  | array items => exact h.elim
  | object fields => exact h.elim

lemma Spells.exists_cons {json : Json} {text : List Char} (h : Spells (.value json) text) :
    ∃ c rest, text = c :: rest ∧ Opens c := by
  cases h with
  | atom h => exact exists_writeAtom_eq h
  | noItems _ => exact ⟨'[', _, rfl, by decide, by decide⟩
  | array _ => exact ⟨'[', _, rfl, by decide, by decide⟩
  | noFields _ => exact ⟨'{', _, rfl, by decide, by decide⟩
  | object _ => exact ⟨'{', _, rfl, by decide, by decide⟩

/-- What blanks in front of a value leave. -/
lemma Spells.skipBlanks_eq {json : Json} {before text : List Char} (hbefore : Blank before)
    (h : Spells (.value json) text) (rest : List Char) :
    skipBlanks (before ++ (text ++ rest)) = text ++ rest := by
  obtain ⟨c, more, rfl, hblank, -⟩ := h.exists_cons
  rw [List.cons_append, skipBlanks_append_cons hbefore hblank]

/-! ## Reading what is spelled -/

lemma readValue_writeAtom {json : Json} (hatom : json.IsAtom) (fuel : Nat) {rest : List Char}
    (h : EndsNumber rest) : readValue (fuel + 1) (writeAtom json ++ rest) = some (json, rest) := by
  cases json with
  | null => simp [writeAtom, readValue, dropWord?]
  | bool value => cases value <;> simp [writeAtom, readValue, dropWord?]
  | nat n =>
    have hread := readNumber_toDigits n h
    obtain ⟨c, more, hcons, hdigits⟩ := exists_toDigits_eq_cons n
    have hdigit : c.isDigit := hdigits c List.mem_cons_self
    have hne {d : Char} (hd : d.isDigit = false) : c ≠ d := by
      rintro rfl
      simp [hd] at hdigit
    rw [hcons, List.cons_append] at hread
    rw [writeAtom, hcons, List.cons_append]
    simp [readValue, hne, hread]
  | otherNumber => simp [writeAtom, readValue, readNumber_minusZero h]
  | string text =>
    obtain ⟨body, hbody, hread⟩ := exists_writeText_eq text
    simp [writeAtom, hbody, readValue, hread]
  | array items => exact hatom.elim
  | object fields => exact hatom.elim

lemma readValue_noItems {blanks : List Char} (hblanks : Blank blanks) (fuel : Nat)
    (rest : List Char) :
    readValue (fuel + 1) ('[' :: (blanks ++ ']' :: rest)) = some (.array [], rest) := by
  simp [readValue, skipBlanks_append_cons hblanks (c := ']') (by decide)]

lemma readValue_noFields {blanks : List Char} (hblanks : Blank blanks) (fuel : Nat)
    (rest : List Char) :
    readValue (fuel + 1) ('{' :: (blanks ++ '}' :: rest)) = some (.object [], rest) := by
  simp [readValue, skipBlanks_append_cons hblanks (c := '}') (by decide)]

section Reading

variable {fuel : Nat} {text more behind rest : List Char}

lemma readValue_array {c : Char} {items : List Json} (hopens : Opens c)
    (htext : skipBlanks text = c :: more)
    (h : readItems fuel (skipBlanks text) = some (items, rest)) :
    readValue (fuel + 1) ('[' :: text) = some (.array items, rest) := by
  rw [htext] at h
  simp [readValue, htext, hopens.2, h]

lemma readValue_object {fields : List (Json.Text × Json)} (htext : skipBlanks text = '"' :: more)
    (h : readFields fuel (skipBlanks text) = some (fields, rest)) :
    readValue (fuel + 1) ('{' :: text) = some (.object fields, rest) := by
  rw [htext] at h
  simp [readValue, htext, h]

variable (hbehind : Blank behind)
include hbehind

lemma readItems_last {item : Json}
    (hitem : readValue fuel text = some (item, behind ++ ']' :: rest)) :
    readItems (fuel + 1) text = some ([item], rest) := by
  simp [readItems, hitem, skipBlanks_append_cons hbehind (c := ']') (by decide)]

lemma readItems_item {item : Json} {items : List Json}
    (hitem : readValue fuel text = some (item, behind ++ ',' :: more))
    (hmore : readItems fuel (skipBlanks more) = some (items, rest)) :
    readItems (fuel + 1) text = some (item :: items, rest) := by
  simp [readItems, hitem, skipBlanks_append_cons hbehind (c := ',') (by decide), hmore]

variable {name : Json.Text} {between around : List Char} (hbetween : Blank between) {value : Json}
include hbetween

lemma readFields_last
    (hvalue : readValue fuel (skipBlanks text) = some (value, behind ++ '}' :: rest)) :
    readFields (fuel + 1) (writeText name ++ (between ++ ':' :: text)) =
      some ([(name, value)], rest) := by
  obtain ⟨body, hbody, hname⟩ := exists_writeText_eq name
  simp [readFields, hbody, hname, skipBlanks_append_cons hbetween (c := ':') (by decide), hvalue,
    skipBlanks_append_cons hbehind (c := '}') (by decide)]

lemma readFields_field {fields : List (Json.Text × Json)}
    (hvalue : readValue fuel (skipBlanks text) = some (value, behind ++ ',' :: more))
    (hmore : readFields fuel (skipBlanks more) = some (fields, rest)) :
    readFields (fuel + 1) (writeText name ++ (between ++ ':' :: text)) =
      some ((name, value) :: fields, rest) := by
  obtain ⟨body, hbody, hname⟩ := exists_writeText_eq name
  simp [readFields, hbody, hname, skipBlanks_append_cons hbetween (c := ':') (by decide), hvalue,
    skipBlanks_append_cons hbehind (c := ',') (by decide), hmore]

end Reading

/-- The part is read, with the given fuel, from the start of a text. -/
def ReadsAs (fuel : Nat) (text : List Char) (part : Part) (rest : List Char) : Prop :=
  match part with
  | .value json => readValue fuel text = some (json, rest)
  | .items items => readItems fuel (skipBlanks text) = some (items, rest)
  | .fields fields => readFields fuel (skipBlanks text) = some (fields, rest)

lemma Spells.exists_cons_items {items : List Json} {text : List Char}
    (h : Spells (.items items) text) (rest : List Char) :
    ∃ c more, skipBlanks (text ++ rest) = c :: more ∧ Opens c := by
  cases h with
  | lastItem hbefore h _ =>
    obtain ⟨c, more, hcons, hopens⟩ := h.exists_cons
    simp only [List.append_assoc, h.skipBlanks_eq hbefore]
    exact ⟨c, _, by rw [hcons]; rfl, hopens⟩
  | item hbefore h _ _ =>
    obtain ⟨c, more, hcons, hopens⟩ := h.exists_cons
    simp only [List.append_assoc, h.skipBlanks_eq hbefore]
    exact ⟨c, _, by rw [hcons]; rfl, hopens⟩

/-- What blanks in front of a name leave. -/
lemma skipBlanks_writeText {before : List Char} (hbefore : Blank before) (name : Json.Text)
    (rest : List Char) : skipBlanks (before ++ (writeText name ++ rest)) = writeText name ++ rest := by
  obtain ⟨body, hbody, -⟩ := exists_writeText_eq name
  rw [hbody, List.cons_append, skipBlanks_append_cons hbefore (by decide)]

lemma Spells.exists_cons_fields {fields : List (Json.Text × Json)} {text : List Char}
    (h : Spells (.fields fields) text) (rest : List Char) :
    ∃ more, skipBlanks (text ++ rest) = '"' :: more := by
  cases h with
  | @lastField name _ _ _ _ _ _ hbefore _ _ _ _ =>
    obtain ⟨body, hbody, -⟩ := exists_writeText_eq name
    simp only [List.append_assoc, skipBlanks_writeText hbefore]
    exact ⟨_, by rw [hbody]; rfl⟩
  | @field name _ _ _ _ _ _ _ _ hbefore _ _ _ _ _ =>
    obtain ⟨body, hbody, -⟩ := exists_writeText_eq name
    simp only [List.append_assoc, skipBlanks_writeText hbefore]
    exact ⟨_, by rw [hbody]; rfl⟩

/-- **What is spelled is read**, in front of a text with which a number does not go on.  The induction is
on the spelling; two units of fuel for each character are enough. -/
theorem Spells.readsAs {part : Part} {text : List Char} (h : Spells part text) {fuel : Nat}
    (hfuel : 2 * text.length ≤ fuel) {rest : List Char} (hrest : EndsNumber rest) :
    ReadsAs fuel (text ++ rest) part rest := by
  induction h generalizing fuel rest with
  | @atom json hatom =>
    obtain ⟨c, more, hcons, -⟩ := exists_writeAtom_eq hatom
    obtain _ | fuel := fuel
    · simp [hcons] at hfuel
    · exact readValue_writeAtom hatom fuel hrest
  | @noItems blanks hblanks =>
    obtain _ | fuel := fuel
    · simp at hfuel
    · simpa [ReadsAs] using readValue_noItems hblanks fuel rest
  | @array items text h ih =>
    obtain _ | fuel := fuel
    · simp at hfuel
    · obtain ⟨c, more, hcons, hopens⟩ := h.exists_cons_items rest
      have hitems : ReadsAs fuel (text ++ rest) (.items items) rest :=
        ih (by simp at hfuel; omega) hrest
      exact readValue_array hopens hcons hitems
  | @noFields blanks hblanks =>
    obtain _ | fuel := fuel
    · simp at hfuel
    · simpa [ReadsAs] using readValue_noFields hblanks fuel rest
  | @object fields text h ih =>
    obtain _ | fuel := fuel
    · simp at hfuel
    · obtain ⟨more, hcons⟩ := h.exists_cons_fields rest
      have hfields : ReadsAs fuel (text ++ rest) (.fields fields) rest :=
        ih (by simp at hfuel; omega) hrest
      exact readValue_object hcons hfields
  | @lastItem item before text behind hbefore h hbehind ih =>
    obtain _ | fuel := fuel
    · simp at hfuel
    · have hitem : ReadsAs fuel (text ++ (behind ++ ']' :: rest)) (.value item) (behind ++ ']' :: rest) :=
        ih (by simp at hfuel; omega) (.append hbehind (endsNumber_cons _ (by decide)))
      simp only [ReadsAs, List.append_assoc, List.singleton_append, h.skipBlanks_eq hbefore]
      exact readItems_last hbehind hitem
  | @item item items before text behind more hbefore h hbehind _ ih ihmore =>
    obtain _ | fuel := fuel
    · simp at hfuel
    · have hitem : ReadsAs fuel (text ++ (behind ++ ',' :: (more ++ rest))) (.value item)
          (behind ++ ',' :: (more ++ rest)) :=
        ih (by simp at hfuel; omega) (.append hbehind (endsNumber_cons _ (by decide)))
      have hmore : ReadsAs fuel (more ++ rest) (.items items) rest :=
        ihmore (by simp at hfuel; omega) hrest
      simp only [ReadsAs, List.append_assoc, List.cons_append, h.skipBlanks_eq hbefore]
      exact readItems_item hbehind hitem hmore
  | @lastField name value before between around text behind hbefore hbetween haround h hbehind ih =>
    obtain _ | fuel := fuel
    · simp at hfuel
    · have hvalue : ReadsAs fuel (text ++ (behind ++ '}' :: rest)) (.value value)
          (behind ++ '}' :: rest) :=
        ih (by simp at hfuel; omega) (.append hbehind (endsNumber_cons _ (by decide)))
      rw [ReadsAs, ← h.skipBlanks_eq haround] at hvalue
      simp only [ReadsAs, List.append_assoc, List.cons_append, List.nil_append,
        skipBlanks_writeText hbefore]
      exact readFields_last hbehind hbetween hvalue
  | @field name value fields before between around text behind more hbefore hbetween haround h hbehind
      _ ih ihmore =>
    obtain _ | fuel := fuel
    · simp at hfuel
    · have hvalue : ReadsAs fuel (text ++ (behind ++ ',' :: (more ++ rest))) (.value value)
          (behind ++ ',' :: (more ++ rest)) :=
        ih (by simp at hfuel; omega) (.append hbehind (endsNumber_cons _ (by decide)))
      have hmore : ReadsAs fuel (more ++ rest) (.fields fields) rest :=
        ihmore (by simp at hfuel; omega) hrest
      rw [ReadsAs, ← h.skipBlanks_eq haround] at hvalue
      simp only [ReadsAs, List.append_assoc, List.cons_append, skipBlanks_writeText hbefore]
      exact readFields_field hbehind hbetween hvalue hmore

/-- **A spelled value is the value of its document.** -/
theorem parse?_of_spells {json : Json} {text : List Char} (h : Spells (.value json) text) :
    parse? text = some json := by
  have hread : ReadsAs (2 * text.length + 2) (text ++ []) (.value json) [] :=
    h.readsAs (by omega) (by simp [EndsNumber])
  have hstart := h.skipBlanks_eq blank_nil []
  simp only [ReadsAs, List.append_nil, List.nil_append] at hread hstart
  rw [parse?, hstart, hread]
  rfl

/-! ## The writers -/

lemma blank_space : Blank [' '] := by simp [Blank, isBlank]

lemma blank_newLine (depth : Nat) : Blank (newLine depth) := by
  intro c hc
  rcases List.mem_cons.1 hc with rfl | hc
  · rfl
  · rw [List.eq_of_mem_replicate hc]
    rfl

mutual

/-- A value on one line is spelled.  The induction is on the value. -/
theorem spells_write : (json : Json) → Spells (.value json) json.write
  | null => .atom trivial
  | bool true => .atom trivial
  | bool false => .atom trivial
  | nat _ => .atom trivial
  | otherNumber => .atom trivial
  | string _ => .atom trivial
  | array [] => .noItems blank_nil
  | array (item :: items) => .array (spells_writeItems (item :: items) (List.cons_ne_nil _ _))
  | object [] => .noFields blank_nil
  | object (field :: fields) => .object (spells_writeFields (field :: fields) (List.cons_ne_nil _ _))

theorem spells_writeItems : (items : List Json) → items ≠ [] →
    Spells (.items items) (writeItems items ++ [']'])
  | [], h => absurd rfl h
  | [item], _ => by
    simpa [writeItems] using Spells.lastItem blank_nil (spells_write item) blank_nil
  | item :: next :: items, _ => by
    simpa [writeItems] using Spells.item blank_nil (spells_write item) blank_nil
      (spells_writeItems (next :: items) (List.cons_ne_nil _ _))

theorem spells_writeFields : (fields : List (Json.Text × Json)) → fields ≠ [] →
    Spells (.fields fields) (writeFields fields ++ ['}'])
  | [], h => absurd rfl h
  | [(name, value)], _ => by
    simpa [writeFields] using
      Spells.lastField name blank_nil blank_nil blank_nil (spells_write value) blank_nil
  | (name, value) :: next :: fields, _ => by
    simpa [writeFields] using
      Spells.field name blank_nil blank_nil blank_nil (spells_write value) blank_nil
        (spells_writeFields (next :: fields) (List.cons_ne_nil _ _))

end

mutual

/-- A value with its parts on lines of their own is spelled.  The induction is on the value. -/
theorem spells_writePretty : (json : Json) → (depth : Nat) →
    Spells (.value json) (json.writePretty depth)
  | null, _ => .atom trivial
  | bool true, _ => .atom trivial
  | bool false, _ => .atom trivial
  | nat _, _ => .atom trivial
  | otherNumber, _ => .atom trivial
  | string _, _ => .atom trivial
  | array [], _ => .noItems blank_nil
  | array (item :: items), depth => by
    simpa [writePretty] using
      Spells.array (spells_writePrettyItems (item :: items) (List.cons_ne_nil _ _) depth)
  | object [], _ => .noFields blank_nil
  | object (field :: fields), depth => by
    simpa [writePretty] using
      Spells.object (spells_writePrettyFields (field :: fields) (List.cons_ne_nil _ _) depth)

theorem spells_writePrettyItems : (items : List Json) → items ≠ [] → (depth : Nat) →
    Spells (.items items) (writePrettyItems (depth + 1) items ++ newLine depth ++ [']'])
  | [], h, _ => absurd rfl h
  | [item], _, depth => by
    simpa [writePrettyItems] using
      Spells.lastItem (blank_newLine (depth + 1)) (spells_writePretty item (depth + 1))
        (blank_newLine depth)
  | item :: next :: items, _, depth => by
    simpa [writePrettyItems] using
      Spells.item (blank_newLine (depth + 1)) (spells_writePretty item (depth + 1)) blank_nil
        (spells_writePrettyItems (next :: items) (List.cons_ne_nil _ _) depth)

theorem spells_writePrettyFields : (fields : List (Json.Text × Json)) → fields ≠ [] →
    (depth : Nat) →
    Spells (.fields fields) (writePrettyFields (depth + 1) fields ++ newLine depth ++ ['}'])
  | [], h, _ => absurd rfl h
  | [(name, value)], _, depth => by
    simpa [writePrettyFields] using
      Spells.lastField name (blank_newLine (depth + 1)) blank_nil blank_space
        (spells_writePretty value (depth + 1)) (blank_newLine depth)
  | (name, value) :: next :: fields, _, depth => by
    simpa [writePrettyFields] using
      Spells.field name (blank_newLine (depth + 1)) blank_nil blank_space
        (spells_writePretty value (depth + 1)) blank_nil
        (spells_writePrettyFields (next :: fields) (List.cons_ne_nil _ _) depth)

end

/-- **What is written is read**, on one line or on many. -/
theorem parse?_write (json : Json) : parse? json.write = some json :=
  parse?_of_spells (spells_write json)

theorem parse?_writePretty (json : Json) (depth : Nat) :
    parse? (json.writePretty depth) = some json :=
  parse?_of_spells (spells_writePretty json depth)

end Lexical.Json
