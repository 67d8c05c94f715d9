import Lexical.Proofs.Json.Records

/-!
# Descriptions of lexers come back

A description of a lexer is written as a record with fewer fields than it has: empty lists and maps and
missing values are left out.  Each such field reads as what it was left out for, and maps come back
with all their entries in order, those under one name too.  So reading gives back what was written
(`LexerConfig.ofText?_toText`), for every description whose numbers are machine words.
-/

namespace Lexical

open Json (given)

namespace OneOrMany

lemma toJson_ne_null (texts : OneOrMany) : texts.toJson ≠ .null := by
  cases texts <;> simp [toJson, Json.text]

/-- One text comes back as one, and a list as a list, if of one text or of none. -/
lemma ofJson?_toJson (texts : OneOrMany) : ofJson? texts.toJson = some texts := by
  cases texts with
  | one text => rfl
  | many texts => simp only [toJson, ofJson?, Json.list?_text, Option.map_some]

end OneOrMany

namespace RuleConfig

/-- A rule that goes back by a number of states that is a machine word, if by any. -/
def Representable (rule : RuleConfig) : Prop :=
  ∀ count ∈ rule.pop, count < UInt64.size

instance (rule : RuleConfig) : Decidable rule.Representable :=
  inferInstanceAs (Decidable (∀ count ∈ rule.pop, count < UInt64.size))

/-- The fields of a rule with their values, in order. -/
def fields (rule : RuleConfig) : List (String × Option Json) :=
  [("type", some (.text rule.kind)),
    ("match", rule.literal.map OneOrMany.toJson),
    ("regex", rule.regex.map .text),
    ("lineBreaks", some (.bool rule.lineBreaks)),
    ("push", rule.push.map .text),
    ("pop", rule.pop.map .nat),
    ("next", rule.next.map .text),
    ("error", some (.bool rule.error)),
    ("ignore", some (.bool rule.ignore)),
    ("fallback", some (.bool rule.fallback)),
    ("categories",
      if !rule.categories.isEmpty then some (.array (rule.categories.map .text)) else none),
    ("keywords",
      if !rule.keywords.isEmpty then
        some (.record (rule.keywords.map fun (kind, values) => (kind, values.toJson)))
      else none)]

lemma toJson_eq_record (rule : RuleConfig) : rule.toJson = .record (given rule.fields) := by
  simp only [toJson, fields, Json.fieldOf_eq_given, Json.fieldIf_eq_given, Json.given_cons,
    Json.given_nil, Option.toList_some, List.map_cons, List.map_nil, List.cons_append,
    List.nil_append, List.append_nil, List.append_assoc]

lemma fields?_toJson (rule : RuleConfig) :
    rule.toJson.fields? fieldNames true = some (rule.fields.map (·.2)) := by
  have hnodup : fieldNames.Nodup := by decide
  rw [toJson_eq_record]
  exact Json.fields?_given rule.fields hnodup true

lemma ofJson?_toJson {rule : RuleConfig} (h : rule.Representable) :
    ofJson? rule.toJson = some rule := by
  have hliteral : Json.orElse? none (·.optional? OneOrMany.ofJson?)
      (rule.literal.map OneOrMany.toJson) = some rule.literal :=
    Json.orElse?_optional? fun texts _ => ⟨texts.ofJson?_toJson, texts.toJson_ne_null⟩
  have hpop : Json.orElse? none (·.optional? (·.natBelow? UInt64.size)) (rule.pop.map .nat)
      = some rule.pop :=
    Json.orElse?_optional? fun count hcount => ⟨if_pos (h count hcount), by simp⟩
  have hcategories := Json.orElse?_nil (Json.list?_text rule.categories)
  have hentries : (Json.record (rule.keywords.map fun (kind, values) => (kind, values.toJson))).entries?
      OneOrMany.ofJson? = some rule.keywords :=
    Json.entries?_map OneOrMany.toJson fun entry _ => entry.2.ofJson?_toJson
  have hkeywords := Json.orElse?_nil hentries
  have hfields := fields?_toJson rule
  simp only [fields, List.map_cons, List.map_nil] at hfields
  rw [ofJson?, hfields]
  dsimp only [Option.bind_eq_bind, Option.bind_some]
  rw [hliteral, hpop, hcategories, hkeywords, Json.orElse?_text, Json.orElse?_text,
    Json.orElse?_text]
  rfl

end RuleConfig

namespace LexerOptions

/-- A start that is not given is written as null. -/
lemma ofJson?_toJson (options : LexerOptions) : ofJson? options.toJson = some options := by
  obtain ⟨strictLineBreaks, partialInput, start⟩ := options
  have hnodup : ["strictLineBreaks", "partialInput", "start"].Nodup := by decide
  have hfields (start : Json) := Json.fields?_given
    [("strictLineBreaks", some (.bool strictLineBreaks)), ("partialInput", some (.bool partialInput)),
      ("start", some start)] hnodup false
  cases start with
  | none =>
    rw [ofJson?, toJson]
    exact congrArg (Option.bind · _) (hfields .null)
  | some name =>
    rw [ofJson?, toJson]
    exact congrArg (Option.bind · _) (hfields (.text name))

end LexerOptions

namespace LexerConfig

/-- All rules of a description. -/
def ruleConfigs (config : LexerConfig) : List RuleConfig :=
  config.states.flatMap (·.2) ++ config.rules

/-- The fields of a description with their values, in order. -/
def fields (config : LexerConfig) : List (String × Option Json) :=
  [("categories",
      if !config.categories.isEmpty then
        some (.record (config.categories.map fun (name, parents) =>
          (name, .array (parents.map .text))))
      else none),
    ("states",
      if !config.states.isEmpty then
        some (.record (config.states.map fun (name, rules) =>
          (name, .array (rules.map RuleConfig.toJson))))
      else none),
    ("rules",
      if !config.rules.isEmpty then some (.array (config.rules.map RuleConfig.toJson)) else none),
    ("options", some config.options.toJson)]

lemma toJson_eq_record (config : LexerConfig) : config.toJson = .record (given config.fields) := by
  simp only [toJson, fields, Json.fieldIf_eq_given, Json.given_cons, Json.given_nil,
    Option.toList_some, List.map_cons, List.map_nil, List.append_nil, List.append_assoc]

lemma fields?_toJson (config : LexerConfig) :
    config.toJson.fields? ["categories", "states", "rules", "options"] true =
      some (config.fields.map (·.2)) := by
  have hnodup : ["categories", "states", "rules", "options"].Nodup := by decide
  rw [toJson_eq_record]
  exact Json.fields?_given config.fields hnodup true

lemma ofJson?_toJson {config : LexerConfig} (h : ∀ rule ∈ config.ruleConfigs, rule.Representable) :
    ofJson? config.toJson = some config := by
  have hread (rules : List RuleConfig) (hrules : ∀ rule ∈ rules, rule ∈ config.ruleConfigs) :
      (Json.array (rules.map RuleConfig.toJson)).list? RuleConfig.ofJson? = some rules :=
    Json.list?_map fun rule hrule => RuleConfig.ofJson?_toJson (h rule (hrules rule hrule))
  have hparents : (Json.record (config.categories.map fun (name, parents) =>
      (name, .array (parents.map .text)))).entries? (·.list? Json.text?) = some config.categories :=
    Json.entries?_map (fun parents => .array (parents.map .text)) fun entry _ =>
      Json.list?_text entry.2
  have hcategories := Json.orElse?_nil hparents
  have hstated : (Json.record (config.states.map fun (name, rules) =>
      (name, .array (rules.map RuleConfig.toJson)))).entries? (·.list? RuleConfig.ofJson?)
        = some config.states :=
    Json.entries?_map (fun rules => .array (rules.map RuleConfig.toJson)) fun entry hentry =>
      hread entry.2 fun rule hrule =>
        List.mem_append_left _ (List.mem_flatMap.2 ⟨entry, hentry, hrule⟩)
  have hstates := Json.orElse?_nil hstated
  have hrules := Json.orElse?_nil (hread config.rules fun rule => List.mem_append_right _)
  have hoptions : Json.orElse? .standard LexerOptions.ofJson? (some config.options.toJson)
      = some config.options :=
    config.options.ofJson?_toJson
  have hfields := fields?_toJson config
  simp only [fields, List.map_cons, List.map_nil] at hfields
  rw [ofJson?, hfields]
  dsimp only [Option.bind_eq_bind, Option.bind_some]
  rw [hcategories, hstates, hrules, hoptions]
  rfl

/-- **A description that was written is read as itself**, whatever its names and texts, the order of its
states, categories, rules and keywords, and names that stand in it more than once. -/
theorem ofText?_toText (config : LexerConfig)
    (h : ∀ rule ∈ config.ruleConfigs, rule.Representable) :
    ofText? config.toText = .ok config := by
  simp only [ofText?, toText, String.toList_ofList, Json.parse?_writePretty, Option.bind_some,
    ofJson?_toJson h]

/-! ### A description with names that stand twice -/

/-- Categories and keywords of one name, a rule that matches none of no texts, one that goes back as far as
can be written, and characters that have to be escaped. -/
def twiceNamed : LexerConfig where
  categories := [("word", []), ("word", ["word", "é\x01"])]
  states := [("a", [
      { kind := "never", literal := some (.many []), regex := none, lineBreaks := true, push := none,
        pop := none, next := some "a", error := true, ignore := false, fallback := false,
        categories := [], keywords := [("if", .one "if"), ("if", .many ["\"if\"\n"])] },
      { kind := "", literal := some (.one ""), regex := some "\\s", lineBreaks := false, push := some "",
        pop := some (UInt64.size - 1), next := none, error := false, ignore := true, fallback := true,
        categories := ["word", "word"], keywords := [] }]),
    ("a", [])]
  rules := []
  options := { strictLineBreaks := true, partialInput := false, start := some "a" }

theorem ofText?_toText_twiceNamed :
    (∀ rule ∈ twiceNamed.ruleConfigs, rule.Representable) ∧
      ofText? twiceNamed.toText = .ok twiceNamed := by
  have hrepresentable : ∀ rule ∈ twiceNamed.ruleConfigs, rule.Representable := by decide +kernel
  exact ⟨hrepresentable, ofText?_toText twiceNamed hrepresentable⟩

end LexerConfig

end Lexical
