import ResultLint.Proofs.Plan
import ResultLint.Proofs.ReturnType.Layers
import ResultLint.Proofs.Sorting

/-!
The options that hold under a configuration: each list as a whole from the user's table, else from
the preset, else the rule's own. Whether the rule is in force and how severe its findings are is
said in the same table, but never seen as an option.
-/
namespace ResultLint

open ReturnType

namespace Toml

/-- A text, or a date or time as a text. -/
def word? : Toml → Option String
  | .string s => some s
  | .moment t => some t
  | _ => none

/-- A list of texts. -/
def words? : Toml → Option (List String)
  | .array items => items.mapM word?
  | _ => none

theorem itemsToJson_eq_map (items : List Toml) : itemsToJson items = items.map toJson := by
  induction items with
  | nil => rfl
  | cons v vs ih => rw [itemsToJson, ih, List.map_cons]

theorem text_toJson_iff (v : Toml) (s : String) :
    Json.text v.toJson = .ok s ↔ v.word? = some s := by
  cases v <;> simp [toJson, Json.text, word?]

/-- A value is read as an option's list just if it is one. -/
theorem entry_toJson_iff (v : Toml) (list : Option (List String)) :
    Options.entry v.toJson = .ok list ↔ ∃ words, v.words? = some words ∧ list = some words := by
  cases v with
  | array items =>
    have read (words : List String) :
        (items.map toJson).mapM Json.text = .ok words ↔ items.mapM word? = some words := by
      rw [mapM_ok_iff, mapM_some_iff, List.forall₂_map_left_iff]
      simp only [text_toJson_iff]
    rw [toJson, itemsToJson_eq_map, words?]
    change ((items.map toJson).mapM Json.text).map some = _ ↔ _
    cases decoded : (items.map toJson).mapM Json.text with
    | ok words => simp [Except.map, (read words).mp decoded, eq_comm]
    | error e =>
      have none (words : List String) : items.mapM word? ≠ some words := by
        rw [ne_eq, ← read, decoded]
        simp
      simp [Except.map, none]
  | _ => simp [toJson, Options.entry, Json.nullable, Json.list, words?, Except.map]

/-- The list that a table's entries say under a name. -/
def listAt? (entries : List (String × Toml)) (name : String) : Option (List String) :=
  ((entries.filter fun e => e.1 == name).filterMap fun e => e.2.words?).getLast?

/-- Entries that are all options of the rule, with lists of texts as their values. -/
def AreOptions (entries : List (String × Toml)) : Prop :=
  ∀ e ∈ entries, (∃ key : Options.Key, e.1 = key.name) ∧ ∃ words, e.2.words? = some words

theorem listAt?_cons (e : String × Toml) (entries : List (String × Toml)) (words : List String)
    (read : e.2.words? = some words) (name : String) :
    listAt? (e :: entries) name =
      (listAt? entries name).or (if e.1 = name then some words else none) := by
  unfold listAt?
  by_cases same : e.1 = name
  · rw [List.filter_cons_of_pos (by simpa using same), if_pos same]
    simp only [List.filterMap_cons, read, List.getLast?_cons]
    cases ((entries.filter fun e => e.1 == name).filterMap fun e => e.2.words?).getLast? <;> rfl
  · rw [List.filter_cons_of_neg (by simpa using same), if_neg same, Option.or_none]

theorem areOptions_cons (e : String × Toml) (entries : List (String × Toml)) :
    AreOptions (e :: entries) ↔
      ((∃ key : Options.Key, e.1 = key.name) ∧ ∃ words, e.2.words? = some words) ∧
        AreOptions entries :=
  List.forall_mem_cons

/-- A list that is read into options lies over what they say. -/
theorem listAt?_cons_or_get (e : String × Toml) (entries : List (String × Toml))
    (words : List String) (read : e.2.words? = some words) (o : Options) (key other : Options.Key)
    (named : e.1 = key.name) :
    (listAt? (e :: entries) other.name).or (o.get other) =
      (listAt? entries other.name).or ((o.set (some words) key).get other) := by
  rw [listAt?_cons e entries words read, Option.or_assoc, Options.get_set, named]
  by_cases same : other = key
  · rw [if_pos (congrArg _ same.symm), if_pos same, Option.some_or]
  · have different : key.name ≠ other.name := by
      intro equal
      cases key <;> cases other <;> simp_all [Options.Key.name]
    rw [if_neg different, if_neg same, Option.none_or]

/-- Entries are read as options just if they are some; a list that is said lies over what was there
before. -/
theorem readFields_ok_iff (entries : List (String × Toml)) (o o' : Options) :
    (entriesToJson entries).foldlM Options.readField o = .ok o' ↔
      AreOptions entries ∧ ∀ key, o'.get key = (listAt? entries key.name).or (o.get key) := by
  induction entries generalizing o with
  | nil =>
    rw [entriesToJson, List.foldlM_nil, pure_ok_iff]
    constructor
    · rintro rfl
      exact ⟨by simp [AreOptions], fun key => by simp [listAt?]⟩
    · rintro ⟨-, same⟩
      exact Options.ext_get fun key => by simpa [listAt?] using (same key).symm
  | cons e entries ih =>
    rw [entriesToJson, List.foldlM_cons, bind_ok_iff, areOptions_cons]
    simp only [Options.readField_ok_iff, ih, entry_toJson_iff]
    constructor
    · rintro ⟨_, ⟨key, _, named, ⟨words, read, rfl⟩, rfl⟩, options, said⟩
      refine ⟨⟨⟨⟨key, named⟩, words, read⟩, options⟩, fun other => ?_⟩
      rw [said, listAt?_cons_or_get e entries words read o key other named]
    · rintro ⟨⟨⟨⟨key, named⟩, words, read⟩, options⟩, said⟩
      refine ⟨_, ⟨key, _, named, ⟨words, read, rfl⟩, rfl⟩, options, fun other => ?_⟩
      rw [said, listAt?_cons_or_get e entries words read o key other named]

/-- Sorting entries by their names changes nothing about what they say. -/
theorem listAt?_mergeSort (entries : List (String × Toml)) (name : String) :
    listAt? (entries.mergeSort fun a b => decide (a.1 ≤ b.1)) name = listAt? entries name := by
  unfold listAt?
  rw [filter_mergeSort]
  · simpa using fun _ _ _ => String.le_trans
  · simpa using fun a b => String.le_total a b
  · intro a b first second
    rw [beq_iff_eq] at first second
    simp [first, second]

theorem areOptions_mergeSort (entries : List (String × Toml)) :
    AreOptions (entries.mergeSort fun a b => decide (a.1 ≤ b.1)) ↔ AreOptions entries := by
  simp [AreOptions]

end Toml

namespace Config

/-- What the user's table says about a list. -/
def userList? (config : Config) (key : Options.Key) : Option (List String) :=
  (config.rule? ruleName).bind fun rule => Toml.listAt? rule.options key.name

/-- What a preset says about a list. -/
def presetList? (preset : Option Preset) (key : Options.Key) : Option (List String) :=
  preset.bind fun p => p.options.get key

/-- The user's table for the rule, if there is one, has nothing but options in it. -/
def HasOptions (config : Config) : Prop :=
  ∀ rule, config.rule? ruleName = some rule → Toml.AreOptions rule.options

theorem tableOptions_iff_userList? (config : Config) (own : Options) :
    config.tableOptions = .ok own ↔
      config.HasOptions ∧ ∀ key, own.get key = config.userList? key := by
  unfold tableOptions HasOptions userList?
  cases said : config.rule? ruleName with
  | none =>
    simp only [Except.ok.injEq, Option.bind_none]
    constructor
    · rintro rfl
      exact ⟨by simp, Options.get_none⟩
    · rintro ⟨-, silent⟩
      exact Options.ext_get fun key => by rw [Options.get_none, silent]
  | some rule =>
    simp only [mapError_ok_iff, RuleConfig.toJson, Options.ofJson, Toml.readFields_ok_iff,
      Toml.areOptions_mergeSort, Toml.listAt?_mergeSort, Options.get_none, Option.or_none,
      Option.some.injEq, forall_eq', Option.bind_some]

/-- The options that hold are there just if the preset is known and the user's table is one of
options. Each list is then the user's, else the preset's, else the rule's own. -/
theorem effectiveOptions_ok_iff (config : Config) (o : Options) :
    config.effectiveOptions = .ok o ↔
      ∃ preset, config.chosenPreset = .ok preset ∧ config.HasOptions ∧
        ∀ key, o.get key =
          some (((config.userList? key).or (presetList? preset key)).getD key.standard) := by
  have layers (preset : Option Preset) (own : Options) (key : Options.Key) :
      (layered preset own).get key =
        some (((own.get key).or (presetList? preset key)).getD key.standard) := by
    have named : ((preset.map Preset.options).getD .none).get key = presetList? preset key := by
      cases preset with
      | none => exact Options.get_none key
      | some p => rfl
    rw [layered, Options.get_overriddenBy, Options.get_overriddenBy, Options.get_defaults, named]
    cases own.get key <;> cases presetList? preset key <;> rfl
  unfold effectiveOptions
  simp only [bind_ok_iff, pure_ok_iff, tableOptions_iff_userList?]
  constructor
  · rintro ⟨preset, chosen, own, ⟨valid, said⟩, rfl⟩
    refine ⟨preset, chosen, valid, fun key => ?_⟩
    rw [← said]
    exact layers preset own key
  · rintro ⟨preset, chosen, valid, holds⟩
    refine ⟨preset, chosen, .ofGet config.userList?, ⟨valid, Options.get_ofGet _⟩, ?_⟩
    refine Options.ext_get fun key => ?_
    rw [holds, ← Options.get_ofGet config.userList?]
    exact layers preset _ key

theorem entry_ok_iff {α : Type} (entries : List (String × Toml)) (key : String) (absent a : α)
    (read : Toml → Option α) :
    entry entries key absent read = .ok a ↔
      (Toml.entry? entries key = none ∧ a = absent) ∨
        ∃ value, Toml.entry? entries key = some value ∧ read value = some a := by
  unfold entry
  cases Toml.entry? entries key with
  | none => simp [eq_comm]
  | some value => cases known : read value <;> simp [known]

/-- What is said about a rule is read from the table under its name. -/
theorem rule_of_readRules (entries : List (String × Toml)) (rules : List (String × RuleConfig))
    (read : readRules entries = .ok rules) (name : String) (rule : RuleConfig)
    (said : rules.lookup name = some rule) :
    ∃ value, Toml.entry? entries name = some value ∧ readRule name value = .ok rule := by
  unfold Toml.entry?
  have each := (mapM_ok_iff _ entries rules).mp read
  clear read
  induction each with
  | nil => cases said
  | @cons e r entries rules here _ ih =>
    simp only [bind_ok_iff, pure_ok_iff] at here
    obtain ⟨own, table, rfl⟩ := here
    rw [List.lookup_cons] at said ⊢
    cases same : name == e.1 with
    | false =>
      rw [same] at said
      exact ih said
    | true =>
      rw [same] at said
      cases said
      rw [beq_iff_eq.mp same]
      exact ⟨e.2, rfl, table⟩

/-- The options of a rule are the entries of its table but those that say whether it is in force and
how severe its findings are. -/
theorem options_of_readRule (name : String) (value : Toml) (rule : RuleConfig)
    (read : readRule name value = .ok rule) :
    ∃ entries, value = .table entries ∧
      rule.options = entries.filter fun e => e.1 ≠ "enabled" ∧ e.1 ≠ "severity" := by
  cases value with
  | table entries =>
    simp only [readRule, bind_ok_iff, pure_ok_iff] at read
    obtain ⟨_, -, _, -, rfl⟩ := read
    exact ⟨entries, rfl, List.filter_congr fun e _ => by simp [ruleKeys]⟩
  | _ => cases read

theorem options_of_parse (text : List Char) (config : Config) (parsed : parse text = .ok config)
    (name : String) (rule : RuleConfig) (said : config.rule? name = some rule) :
    ∃ document rules entries, Toml.read text = .ok document ∧
      Toml.entry? document "rules" = some (.table rules) ∧
      Toml.entry? rules name = some (.table entries) ∧
      rule.options = entries.filter fun e => e.1 ≠ "enabled" ∧ e.1 ≠ "severity" := by
  unfold parse at parsed
  split at parsed
  · next document read =>
    simp only [ofEntries, bind_ok_iff, pure_ok_iff] at parsed
    obtain ⟨_, -, _, -, _, -, _, -, rules, listed, own, ruled, rfl⟩ := parsed
    obtain ⟨value, entered, table⟩ := rule_of_readRules rules own ruled name rule said
    obtain ⟨entries, rfl, options⟩ := options_of_readRule name value rule table
    rcases (entry_ok_iff document "rules" [] rules table?).mp listed with
      ⟨-, rfl⟩ | ⟨value, there, isTable⟩
    · cases entered
    · cases value with
      | table _ =>
        cases isTable
        exact ⟨document, rules, entries, read, there, entered, options⟩
      | _ => cases isTable
  · cases parsed

/-- A configuration that says something else about which rules are in force and how severe their
findings are. -/
def regraded (config : Config) (enabled : String → Option Bool)
    (severity : String → Option Severity) : Config :=
  { config with rules := config.rules.map fun r =>
      (r.1, { r.2 with enabled := enabled r.1, severity := severity r.1 }) }

theorem rule?_regraded (config : Config) (enabled : String → Option Bool)
    (severity : String → Option Severity) (name : String) :
    (config.regraded enabled severity).rule? name = (config.rule? name).map fun rule =>
      { rule with enabled := enabled name, severity := severity name } := by
  unfold rule? regraded
  dsimp only
  induction config.rules with
  | nil => rfl
  | cons r rules ih =>
    rw [List.map_cons, List.lookup_cons, List.lookup_cons, ih]
    cases same : name == r.1 with
    | false => rfl
    | true =>
      rw [beq_iff_eq.mp same]
      rfl

theorem effectiveOptions_regraded (config : Config) (enabled : String → Option Bool)
    (severity : String → Option Severity) :
    (config.regraded enabled severity).effectiveOptions = config.effectiveOptions := by
  have table : (config.regraded enabled severity).tableOptions = config.tableOptions := by
    unfold tableOptions
    rw [rule?_regraded]
    cases config.rule? ruleName <;> rfl
  unfold effectiveOptions
  rw [table]
  rfl

theorem configuredRules_default :
    default.configuredRules = .ok [ReturnType.rule .default .error] := rfl

/-- Layers of options, wherever they are laid over one another. In a fold the last layer that says a
list decides on it, so layering is associative and silence is neutral. Under a configuration each
list is the user's, else the preset's, else the rule's own; what the user's table says about the
rule being in force and its severity is no option. Policies are the same whether the defaults were
laid beneath the options or not, and the default policy is that of no options and of no
configuration. -/
theorem options_in_layers :
    (∀ base (layers : List Options) key, (layers.foldl Options.overriddenBy base).get key =
      ((layers.filterMap fun layer => layer.get key).getLast?).or (base.get key)) ∧
    (∀ a b c : Options, (a.overriddenBy b).overriddenBy c = a.overriddenBy (b.overriddenBy c)) ∧
    (∀ o : Options, Options.none.overriddenBy o = o ∧ o.overriddenBy .none = o) ∧
    (∀ (config : Config) (o : Options), config.effectiveOptions = .ok o ↔
      ∃ preset, config.chosenPreset = .ok preset ∧ config.HasOptions ∧ ∀ key, o.get key =
        some (((config.userList? key).or (presetList? preset key)).getD key.standard)) ∧
    (∀ text config, parse text = .ok config → ∀ name rule, config.rule? name = some rule →
      ∃ document rules entries, Toml.read text = .ok document ∧
        Toml.entry? document "rules" = some (.table rules) ∧
        Toml.entry? rules name = some (.table entries) ∧
        rule.options = entries.filter fun e => e.1 ≠ "enabled" ∧ e.1 ≠ "severity") ∧
    (∀ (config : Config) enabled severity,
      (config.regraded enabled severity).effectiveOptions = config.effectiveOptions) ∧
    (∀ o : Options, Policy.compile (Options.defaults.overriddenBy o) = Policy.compile o) ∧
    Policy.compile .none = .ok .default ∧
    default.configuredRules = .ok [ReturnType.rule .default .error] :=
  ⟨Options.get_foldl_overriddenBy, Options.overriddenBy_assoc,
    fun o => ⟨o.none_overriddenBy, o.overriddenBy_none⟩, effectiveOptions_ok_iff, options_of_parse,
    effectiveOptions_regraded, Policy.compile_defaults_overriddenBy, Policy.compile_none,
    configuredRules_default⟩

/-- The statement at a configuration in which a preset is named and one list is said. -/
theorem options_in_layers_one_list :
    let text := "preset = \"strict\"\n[rules.require-result-return-type]\n" ++
      "enabled = true\nseverity = \"warning\"\nexemptFunctions = [\"f\"]\n"
    ∃ config, parse text.toList = .ok config ∧
      config.effectiveOptions = .ok { Preset.strict.options with exemptFunctions := some ["f"] } ∧
      ∀ rule, config.rule? ruleName = some rule → ∀ e ∈ rule.options, e.1 ≠ "enabled" := by
  intro text
  have lists : (parse text.toList).toOption.map (fun config => (config.preset,
      config.userList? .allowedReturnTypes, config.userList? .exemptFunctions,
      config.userList? .exemptPatterns)) = some (some "strict", none, some ["f"], none) := by
    decide +kernel
  have table : (parse text.toList).toOption.bind (fun config =>
      (config.rule? ruleName).map fun rule => rule.options.map fun e => (e.1, e.2.words?)) =
      some [("exemptFunctions", some ["f"])] := by
    decide +kernel
  cases parsed : parse text.toList with
  | error fault => simp [parsed, Except.toOption] at table
  | ok config =>
    simp only [parsed, Except.toOption, Option.map_some, Option.some.injEq,
      Prod.mk.injEq] at lists
    obtain ⟨preset, allowed, exempt, patterns⟩ := lists
    simp only [parsed, Except.toOption, Option.bind_some] at table
    obtain ⟨-, -, -, effective, written, -⟩ := options_in_layers
    have chosen : config.chosenPreset = .ok (some .strict) := by
      unfold chosenPreset
      rw [preset]
      rfl
    refine ⟨config, rfl, (effective config _).mpr ⟨some .strict, chosen, ?_, ?_⟩, ?_⟩
    · intro rule said e member
      rw [said, Option.map_some, Option.some.injEq] at table
      have entry : (e.1, e.2.words?) ∈ rule.options.map fun e => (e.1, e.2.words?) :=
        List.mem_map_of_mem member
      rw [table, List.mem_singleton, Prod.mk.injEq] at entry
      exact ⟨⟨.exemptFunctions, entry.1⟩, ["f"], entry.2⟩
    · intro key
      cases key with
      | allowedReturnTypes => rw [allowed]; rfl
      | exemptFunctions => rw [exempt]; rfl
      | exemptPatterns => rw [patterns]; rfl
    · intro rule said e member
      obtain ⟨_, _, entries, -, -, -, options⟩ := written _ config parsed ruleName rule said
      rw [options] at member
      exact (of_decide_eq_true (List.mem_filter.mp member).2).1

end Config

end ResultLint
