import Lexical.Json.State
import Lexical.Proofs.Category.Sets
import Lexical.Proofs.Json.Records

/-!
# Tokens and saved states come back from JSON

Tokens and states are written as records of all their fields, so what comes back of one field is settled
field by field (`Json.allFields?_record`).  Numbers come back below the bounds that reading sets them, and
a set of categories from the list of its ids in order.  What keeps to the bounds is representable
(`Token.Representable`, `LexerState.Representable`, `IndentState.Representable`); all that is
representable comes back from its form.  It comes back from the documents of that, too
(`Json.Survives`), as long as it is not nested deeper than documents may be; else those are refused
(`Json.Refused`).

The state of a layer holds that of the source below it.  It comes back if that does
(`IndentState.ofJson?_toJson`), whatever sort of state that is, and is nested one deeper than that or
than its tokens (`IndentState.nesting_toJson`).
-/

namespace Lexical

namespace Json

/-! ## Nesting -/

lemma nestingOfItems_le {items : List Json} {n : Nat} (h : ∀ item ∈ items, item.nesting ≤ n) :
    nestingOfItems items ≤ n := by
  induction items with
  | nil => exact Nat.zero_le n
  | cons item items ih =>
    have hitem := h item List.mem_cons_self
    have hitems := ih fun other hother => h other (List.mem_cons_of_mem item hother)
    exact Nat.max_le.2 ⟨hitem, hitems⟩

/-- A list of values without parts is nested once. -/
lemma nesting_array_map {α : Type} {write : α → Json} (h : ∀ a, (write a).nesting = 0)
    (items : List α) : (array (items.map write)).nesting = 1 := by
  have hitems : nestingOfItems (items.map write) ≤ 0 := by
    refine nestingOfItems_le fun item hitem => ?_
    obtain ⟨a, -, rfl⟩ := List.mem_map.1 hitem
    exact (h a).le
  rw [nesting, Nat.le_zero.1 hitems]

lemma nesting_ofOption {α : Type} {write : α → Json} {n : Nat} (h : ∀ a, (write a).nesting ≤ n)
    (a : Option α) : (ofOption write a).nesting ≤ n := by
  cases a with
  | none => exact Nat.zero_le n
  | some a => exact h a

/-! ## Documents -/

section Documents

variable {α : Type} [JsonForm α] {a : α}

/-- A value whose form is read back comes out of its document just if it is not nested too deep. -/
lemma decode?_of_parse? {text : List Char} (hform : ofJson? (toJson a) = some a)
    (hparse : parse? text = some (toJson a)) :
    decode? text = if (toJson a).nesting ≤ nestingLimit then some a else none := by
  rw [decode?, hparse, Option.bind_some, hform]
  by_cases hlimit : (toJson a).nesting ≤ nestingLimit
  · rw [if_pos hlimit, Option.filter_some, if_pos (decide_eq_true hlimit)]
  · rw [if_neg hlimit, Option.filter_some, if_neg (by simpa using hlimit)]

/-- What is written as JSON is read back: the form of a value, and the documents of that on one line and on
many. -/
structure Survives (a : α) : Prop where
  form : ofJson? (toJson a) = some a
  compact : decode? (toJson a).write = some a
  pretty : ∀ depth, decode? ((toJson a).writePretty depth) = some a

lemma Survives.of_form (hform : ofJson? (toJson a) = some a)
    (hlimit : (toJson a).nesting ≤ nestingLimit) : Survives a := by
  refine ⟨hform, ?_, fun depth => ?_⟩
  · rw [decode?_of_parse? hform (parse?_write _), if_pos hlimit]
  · rw [decode?_of_parse? hform (parse?_writePretty _ _), if_pos hlimit]

/-- The documents of a value that is nested too deep are refused. -/
structure Refused (a : α) : Prop where
  compact : decode? (toJson a).write = (none : Option α)
  pretty : ∀ depth, decode? ((toJson a).writePretty depth) = (none : Option α)

lemma Refused.of_form (hform : ofJson? (toJson a) = some a)
    (hlimit : nestingLimit < (toJson a).nesting) : Refused a := by
  refine ⟨?_, fun depth => ?_⟩
  · rw [decode?_of_parse? hform (parse?_write _), if_neg (Nat.not_le.2 hlimit)]
  · rw [decode?_of_parse? hform (parse?_writePretty _ _), if_neg (Nat.not_le.2 hlimit)]

end Documents

/-! ## Records of all their fields -/

lemma given_map_some (fields : List (String × Json)) :
    given (fields.map fun (name, value) => (name, some value)) = fields := by
  induction fields with
  | nil => rfl
  | cons field fields ih =>
    rw [List.map_cons, given_cons, ih]
    rfl

/-- The fields of a record come back, each under its name, as all of them are there. -/
lemma allFields?_record (fields : List (String × Json)) (hnodup : (fields.map (·.1)).Nodup) :
    (record fields).allFields? (fields.map (·.1)) = some (fields.map fun field => some field.2) := by
  have hnames : (fields.map fun (name, value) => (name, some value)).map (·.1) = fields.map (·.1) := by
    simp
  have hfields := fields?_given (fields.map fun (name, value) => (name, some value))
    (hnames ▸ hnodup) false
  rw [given_map_some, hnames, List.map_map] at hfields
  rw [allFields?, hfields]
  rfl

lemma natBelow?_nat {bound n : Nat} (h : n < bound) : (nat n).natBelow? bound = some n :=
  if_pos h

lemma list?_nat {bound : Nat} {ns : List Nat} (h : ∀ n ∈ ns, n < bound) :
    (array (ns.map nat)).list? (·.natBelow? bound) = some ns :=
  list?_map fun n hn => natBelow?_nat (h n hn)

/-- A value that may be missing comes back, if null does not stand for it. -/
lemma optional?_ofOption {α : Type} {read : Json → Option α} {write : α → Json} {a : Option α}
    (h : ∀ b ∈ a, read (write b) = some b ∧ write b ≠ null) :
    (ofOption write a).optional? read = some a := by
  cases a with
  | none => rfl
  | some a =>
    obtain ⟨hread, hnull⟩ := h a rfl
    show (write a).optional? read = some (some a)
    simp [optional?, hread]

end Json

/-! ## Categories -/

/-- A set in order, of ids that can be written. -/
structure CategorySet.Representable (set : CategorySet) : Prop where
  ascending : set.Ascending
  ids_lt : ∀ id ∈ set.ids, id < Json.countBound

instance (set : CategorySet) : Decidable set.Representable :=
  decidable_of_iff (set.Ascending ∧ ∀ id ∈ set.ids, id < Json.countBound)
    ⟨fun ⟨hascending, hids⟩ => ⟨hascending, hids⟩, fun h => ⟨h.ascending, h.ids_lt⟩⟩

/-- The ids are put into a set one by one, which is the one that they were listed from. -/
lemma CategorySet.ofJson?_toJson {set : CategorySet} (h : set.Representable) :
    CategorySet.ofJson? set.toJson = some set := by
  rw [CategorySet.ofJson?, CategorySet.toJson, Json.list?_nat h.ids_lt]
  exact congrArg some (ofList_ids h.ascending)

/-! ## Tokens -/

/-- A token with an offset, counts and categories that can be written. -/
structure Token.Representable (token : Token) : Prop where
  offset_lt : token.offset < Json.offsetBound
  lineBreaks_lt : token.lineBreaks < Json.countBound
  line_lt : token.line < Json.countBound
  column_lt : token.column < Json.countBound
  categories : token.categories.Representable

instance (token : Token) : Decidable token.Representable :=
  decidable_of_iff (token.offset < Json.offsetBound ∧ token.lineBreaks < Json.countBound ∧
      token.line < Json.countBound ∧ token.column < Json.countBound ∧ token.categories.Representable)
    ⟨fun ⟨hoffset, hlineBreaks, hline, hcolumn, hcategories⟩ =>
      ⟨hoffset, hlineBreaks, hline, hcolumn, hcategories⟩,
    fun h => ⟨h.offset_lt, h.lineBreaks_lt, h.line_lt, h.column_lt, h.categories⟩⟩

lemma Token.ofJson?_toJson {token : Token} (h : token.Representable) :
    ofJson? (toJson token) = some token := by
  have hnodup : ["kind", "value", "text", "offset", "line_breaks", "line", "col", "categories",
    "error"].Nodup := by decide
  have hfields := Json.allFields?_record
    [("kind", .text token.kind), ("value", .text token.value), ("text", .text token.text),
      ("offset", .nat token.offset), ("line_breaks", .nat token.lineBreaks),
      ("line", .nat token.line), ("col", .nat token.column),
      ("categories", token.categories.toJson), ("error", .bool token.isError)] hnodup
  simp only [List.map_cons, List.map_nil] at hfields
  simp only [ofJson?, toJson, hfields]
  simp [Json.natBelow?_nat h.offset_lt, Json.natBelow?_nat h.lineBreaks_lt,
    Json.natBelow?_nat h.line_lt, Json.natBelow?_nat h.column_lt,
    CategorySet.ofJson?_toJson h.categories, Json.text?, Json.text, Json.bool?]

/-- Only the list of the categories lies in the record of a token. -/
lemma Token.nesting_toJson (token : Token) : (toJson token).nesting = 2 := by
  have hcategories : token.categories.toJson.nesting = 1 := Json.nesting_array_map (fun _ => rfl) _
  simp [toJson, Json.record, Json.nesting, Json.nestingOfFields, Json.text, hcategories]

lemma Token.survives {token : Token} (h : token.Representable) : Json.Survives token :=
  .of_form (Token.ofJson?_toJson h) (by rw [nesting_toJson]; decide)

lemma Token.toJson_ne_null (token : Token) : toJson token ≠ .null := by
  simp [toJson, Json.record]

/-! ## States -/

/-- A state with an offset, a line and a column that can be written. -/
structure LexerState.Representable (state : LexerState) : Prop where
  offset_lt : state.offset < Json.offsetBound
  line_lt : state.line < Json.countBound
  column_lt : state.column < Json.countBound

instance (state : LexerState) : Decidable state.Representable :=
  decidable_of_iff (state.offset < Json.offsetBound ∧ state.line < Json.countBound ∧
      state.column < Json.countBound)
    ⟨fun ⟨hoffset, hline, hcolumn⟩ => ⟨hoffset, hline, hcolumn⟩,
      fun h => ⟨h.offset_lt, h.line_lt, h.column_lt⟩⟩

lemma LexerState.ofJson?_toJson {state : LexerState} (h : state.Representable) :
    ofJson? (toJson state) = some state := by
  have hnodup : ["offset", "line", "col", "stack"].Nodup := by decide
  have hfields := Json.allFields?_record
    [("offset", .nat state.offset), ("line", .nat state.line), ("col", .nat state.column),
      ("stack", .array (state.stack.map .text))] hnodup
  simp only [List.map_cons, List.map_nil] at hfields
  simp only [ofJson?, toJson, hfields]
  simp [Json.natBelow?_nat h.offset_lt, Json.natBelow?_nat h.line_lt,
    Json.natBelow?_nat h.column_lt, Json.list?_text]

/-- Only the list of the stack lies in the record of a state. -/
lemma LexerState.nesting_toJson (state : LexerState) : (toJson state).nesting = 2 := by
  have hstack : (Json.array (state.stack.map .text)).nesting = 1 :=
    Json.nesting_array_map (fun _ => rfl) _
  have hform : (toJson state).nesting
      = max 0 (max 0 (max 0 (max (Json.array (state.stack.map .text)).nesting 0))) + 1 := rfl
  rw [hform, hstack]
  rfl

/-- A state of a layer with widths and tokens that can be written, and with a state of the source that
`below` holds of. -/
structure IndentState.Representable {α : Type} (below : α → Prop) (state : IndentState α) : Prop where
  source : below state.source
  indent_lt : ∀ width ∈ state.indent, width < Json.offsetBound
  stack_lt : ∀ width ∈ state.stack, width < Json.offsetBound
  queue : ∀ token ∈ state.queue, token.Representable
  here : ∀ token ∈ state.here, token.Representable

lemma IndentState.ofJson?_toJson {α : Type} [JsonForm α] {below : α → Prop}
    (hbelow : ∀ a, below a → ofJson? (toJson a) = some a) {state : IndentState α}
    (h : state.Representable below) : ofJson? (toJson state) = some state := by
  have hnodup : ["source", "indent", "stack", "queue", "here"].Nodup := by decide
  have hfields := Json.allFields?_record
    [("source", toJson state.source), ("indent", .ofOption .nat state.indent),
      ("stack", .array (state.stack.map .nat)), ("queue", .array (state.queue.map toJson)),
      ("here", .ofOption toJson state.here)] hnodup
  have hindent : (Json.ofOption .nat state.indent).optional? (·.natBelow? Json.offsetBound)
      = some state.indent :=
    Json.optional?_ofOption fun width hwidth =>
      ⟨Json.natBelow?_nat (h.indent_lt width hwidth), by simp⟩
  have hqueue : (Json.array (state.queue.map toJson)).list? ofJson? = some state.queue :=
    Json.list?_map fun token htoken => Token.ofJson?_toJson (h.queue token htoken)
  have hhere : (Json.ofOption toJson state.here).optional? ofJson? = some state.here :=
    Json.optional?_ofOption fun token htoken =>
      ⟨Token.ofJson?_toJson (h.here token htoken), token.toJson_ne_null⟩
  simp only [List.map_cons, List.map_nil] at hfields
  unfold toJson ofJson? instJsonFormIndentState
  simp only [hfields]
  simp [hbelow _ h.source, hindent, Json.list?_nat h.stack_lt, hqueue, hhere]

/-- Besides the state of the source a layer has tokens in its list, which lie three deep. -/
lemma IndentState.nesting_toJson {α : Type} [JsonForm α] (state : IndentState α) :
    (toJson state.source).nesting + 1 ≤ (toJson state).nesting ∧
      (toJson state).nesting ≤ max (toJson state.source).nesting 3 + 1 := by
  have hindent : (Json.ofOption .nat state.indent).nesting ≤ 0 :=
    Json.nesting_ofOption (fun _ => Nat.le_refl 0) _
  have hstack : (Json.array (state.stack.map .nat)).nesting = 1 :=
    Json.nesting_array_map (fun _ => rfl) _
  have hqueue : (Json.array (state.queue.map toJson)).nesting ≤ 3 := by
    refine Nat.succ_le_succ (Json.nestingOfItems_le fun item hitem => ?_)
    obtain ⟨token, -, rfl⟩ := List.mem_map.1 hitem
    exact token.nesting_toJson.le
  have hhere : (Json.ofOption toJson state.here).nesting ≤ 2 :=
    Json.nesting_ofOption (fun token => token.nesting_toJson.le) _
  have hform : (toJson state).nesting
      = max (toJson state.source).nesting (max (Json.ofOption .nat state.indent).nesting
        (max (Json.array (state.stack.map .nat)).nesting
          (max (Json.array (state.queue.map toJson)).nesting
            (max (Json.ofOption toJson state.here).nesting 0)))) + 1 := rfl
  omega

end Lexical
