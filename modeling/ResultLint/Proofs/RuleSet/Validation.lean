import ResultLint.Proofs.RuleSet

/-!
Which configurations are accepted. The preset is looked at first, then the form of the rule's table,
then the patterns that hold, one after another; a pattern that another layer replaces is not
compiled, and it does not matter whether the rule is in force.
-/
namespace ResultLint

open ReturnType

namespace Toml

/-- What is wrong with an entry of the rule's table that is no option of the rule, or none with a
list of texts. -/
inductive WrongEntry : String × Toml → Json.Fault → Prop
  | unknown (name : String) (value : Toml) (other : ∀ key : Options.Key, name ≠ key.name) :
      WrongEntry (name, value) (.unknownField name Options.keys)
  | notList (key : Options.Key) (value : Toml) (other : ∀ items, value ≠ .array items) :
      WrongEntry (key.name, value) (.wrongType value.toJson "a sequence")
  | notText (key : Options.Key) (front : List Toml) (item : Toml) (rest : List Toml)
      (texts : ∀ v ∈ front, ∃ s, v.word? = some s) (other : item.word? = none) :
      WrongEntry (key.name, .array (front ++ item :: rest)) (.wrongType item.toJson "a string")

theorem text_toJson_error_iff (v : Toml) (fault : Json.Fault) :
    Json.text v.toJson = .error fault ↔
      v.word? = none ∧ fault = .wrongType v.toJson "a string" := by
  cases v <;> simp [toJson, Json.text, word?, eq_comm]

/-- A list of texts is refused for the first of its items that is none. -/
theorem texts_toJson_error_iff (items : List Toml) (fault : Json.Fault) :
    (items.map toJson).mapM Json.text = .error fault ↔
      ∃ front item rest, items = front ++ item :: rest ∧ (∀ v ∈ front, ∃ s, v.word? = some s) ∧
        item.word? = none ∧ fault = .wrongType item.toJson "a string" := by
  rw [List.mapM_map, mapM_error_iff]
  simp only [FirstFault, Function.comp_apply, text_toJson_error_iff, text_toJson_iff]

theorem entry_toJson_error_iff (v : Toml) (fault : Json.Fault) :
    Options.entry v.toJson = .error fault ↔
      ((∀ items, v ≠ .array items) ∧ fault = .wrongType v.toJson "a sequence") ∨
        ∃ front item rest, v = .array (front ++ item :: rest) ∧
          (∀ v ∈ front, ∃ s, v.word? = some s) ∧ item.word? = none ∧
          fault = .wrongType item.toJson "a string" := by
  cases v with
  | array items =>
    rw [toJson, itemsToJson_eq_map]
    change ((items.map toJson).mapM Json.text).map some = _ ↔ _
    rw [map_error_iff, texts_toJson_error_iff]
    simp
  | _ => simp [toJson, Options.entry, Json.nullable, Json.list, Except.map, eq_comm]

/-- An entry is refused for what is wrong with it, whatever was read before. -/
theorem readField_error_iff (o : Options) (e : String × Toml) (fault : Json.Fault) :
    o.readField (e.1, e.2.toJson) = .error fault ↔ WrongEntry e fault := by
  obtain ⟨name, value⟩ := e
  rw [Options.readField_error_iff, entry_toJson_error_iff]
  constructor
  · rintro (⟨key, rfl, ⟨other, rfl⟩ | ⟨front, item, rest, rfl, texts, other, rfl⟩⟩ | ⟨other, rfl⟩)
    · exact .notList key value other
    · exact .notText key front item rest texts other
    · exact .unknown name value other
  · intro wrong
    cases wrong with
    | unknown _ _ other => exact .inr ⟨other, rfl⟩
    | notList key _ other => exact .inl ⟨key, rfl, .inl ⟨other, rfl⟩⟩
    | notText key front item rest texts other =>
      exact .inl ⟨key, rfl, .inr ⟨front, item, rest, rfl, texts, other, rfl⟩⟩

/-- Entries are refused for the first of them with which something is wrong. -/
theorem readFields_error_iff (entries : List (String × Toml)) (o : Options) (fault : Json.Fault) :
    (entriesToJson entries).foldlM Options.readField o = .error fault ↔
      ∃ front e rest, entries = front ++ e :: rest ∧ AreOptions front ∧ WrongEntry e fault := by
  induction entries generalizing o with
  | nil => simp [entriesToJson, pure_error_iff]
  | cons e entries ih =>
    rw [entriesToJson, List.foldlM_cons, bind_error_iff, readField_error_iff]
    simp only [ih, Options.readField_ok_iff, entry_toJson_iff]
    constructor
    · rintro (wrong |
        ⟨_, ⟨key, _, named, ⟨words, read, rfl⟩, rfl⟩, front, x, rest, rfl, options, wrong⟩)
      · exact ⟨[], e, entries, rfl, by simp [AreOptions], wrong⟩
      · exact ⟨e :: front, x, rest, rfl,
          (areOptions_cons e front).mpr ⟨⟨⟨key, named⟩, words, read⟩, options⟩, wrong⟩
    · rintro ⟨front, x, rest, whole, options, wrong⟩
      cases front with
      | nil =>
        cases whole
        exact .inl wrong
      | cons y front =>
        cases whole
        obtain ⟨⟨⟨key, named⟩, words, read⟩, options⟩ := (areOptions_cons _ _).mp options
        exact .inr
          ⟨_, ⟨key, _, named, ⟨words, read, rfl⟩, rfl⟩, front, x, rest, rfl, options, wrong⟩

/-- The entries of a rule's table in a document; none where there is no such table. -/
def ruleEntries (document : List (String × Toml)) (rule : String) : List (String × Toml) :=
  match entry? document "rules" with
  | some (.table rules) =>
    match entry? rules rule with
    | some (.table entries) => entries
    | _ => []
  | _ => []

/-- The entries of a rule's table that are to be options. -/
def optionEntries (document : List (String × Toml)) (rule : String) : List (String × Toml) :=
  (ruleEntries document rule).filter fun e => e.1 ≠ "enabled" ∧ e.1 ≠ "severity"

end Toml

/-- A preset is known by its name. -/
theorem Preset.ofName?_eq_some_iff (name : String) (p : Preset) :
    Preset.ofName? name = some p ↔ name = p.name := by
  constructor
  · intro found
    unfold ofName? at found
    have same := List.find?_some found
    exact (beq_iff_eq.mp same).symm
  · rintro rfl
    cases p <;> rfl

namespace Config

/-- Something is said about a rule just if there is a table under its name. -/
theorem lookup_readRules_eq_none_iff (entries : List (String × Toml))
    (rules : List (String × RuleConfig)) (read : readRules entries = .ok rules) (name : String) :
    rules.lookup name = none ↔ Toml.entry? entries name = none := by
  unfold Toml.entry?
  have each := (mapM_ok_iff _ entries rules).mp read
  clear read
  induction each with
  | nil => simp
  | @cons e r entries rules here _ ih =>
    simp only [bind_ok_iff, pure_ok_iff] at here
    obtain ⟨own, -, rfl⟩ := here
    rw [List.lookup_cons, List.lookup_cons]
    cases name == e.1 with
    | false => exact ih
    | true => simp

/-- What the user's table says about the rule, nothing if there is no such table. -/
def ownOptions (config : Config) : List (String × Toml) :=
  ((config.rule? ruleName).map RuleConfig.options).getD []

theorem ownOptions_of_parse (text : List Char) (config : Config)
    (parsed : parse text = .ok config) :
    ∃ document, Toml.read text = .ok document ∧
      config.ownOptions = Toml.optionEntries document ruleName := by
  unfold ownOptions Toml.optionEntries Toml.ruleEntries
  cases said : config.rule? ruleName with
  | some rule =>
    obtain ⟨document, rules, entries, read, listed, table, options⟩ :=
      options_of_parse text config parsed ruleName rule said
    refine ⟨document, read, ?_⟩
    rw [listed]
    dsimp only
    rw [table]
    exact options
  | none =>
    unfold parse at parsed
    split at parsed
    · next document read =>
      refine ⟨document, read, ?_⟩
      simp only [ofEntries, bind_ok_iff, pure_ok_iff] at parsed
      obtain ⟨_, -, _, -, _, -, _, -, rules, listed, own, ruled, rfl⟩ := parsed
      have absent := (lookup_readRules_eq_none_iff rules own ruled ruleName).mp said
      rcases (entry_ok_iff document "rules" [] rules table?).mp listed with
        ⟨silent, rfl⟩ | ⟨value, there, isTable⟩
      · rw [silent]
        rfl
      · cases value with
        | table _ =>
          cases isTable
          rw [there]
          dsimp only
          rw [absent]
          rfl
        | _ => cases isTable
    · cases parsed

theorem hasOptions_iff (config : Config) :
    config.HasOptions ↔ Toml.AreOptions config.ownOptions := by
  unfold HasOptions ownOptions
  cases config.rule? ruleName <;> simp [Toml.AreOptions]

theorem userList?_eq (config : Config) (key : Options.Key) :
    config.userList? key = Toml.listAt? config.ownOptions key.name := by
  unfold userList? ownOptions
  cases config.rule? ruleName <;> simp [Toml.listAt?]

theorem chosenPreset_ok_iff (config : Config) (preset : Option Preset) :
    config.chosenPreset = .ok preset ↔ config.preset = preset.map Preset.name := by
  unfold chosenPreset
  cases config.preset with
  | none => cases preset <;> simp
  | some name =>
    cases preset with
    | none => cases known : Preset.ofName? name <;> simp [known]
    | some p =>
      rw [Option.map_some, Option.some.injEq, ← Preset.ofName?_eq_some_iff]
      cases known : Preset.ofName? name <;> simp [known]

theorem chosenPreset_error_iff_unknown (config : Config) (e : ConfigError) :
    config.chosenPreset = .error e ↔
      ∃ name, config.preset = some name ∧ (∀ p : Preset, name ≠ p.name) ∧
        e = .unknownPreset name := by
  rw [chosenPreset_error_iff]
  simp only [Option.eq_none_iff_forall_ne_some, ne_eq, Preset.ofName?_eq_some_iff]

/-- The table is refused for the first wrong one of its entries, in the order of their keys. -/
theorem tableOptions_error_iff_wrongEntry (config : Config) (e : ConfigError) :
    config.tableOptions = .error e ↔
      ∃ front entry rest fault,
        (config.ownOptions.mergeSort fun a b => decide (a.1 ≤ b.1)) = front ++ entry :: rest ∧
          Toml.AreOptions front ∧ Toml.WrongEntry entry fault ∧
            e = .wrongOptions ruleName fault := by
  rw [tableOptions_error_iff]
  unfold ownOptions
  cases config.rule? ruleName with
  | none => simp
  | some rule =>
    simp only [RuleConfig.toJson, Options.ofJson, Toml.readFields_error_iff, Option.some.injEq,
      Option.map_some, Option.getD_some]
    constructor
    · rintro ⟨_, fault, rfl, ⟨front, entry, rest, whole, options, wrong⟩, rfl⟩
      exact ⟨front, entry, rest, fault, whole, options, wrong, rfl⟩
    · rintro ⟨front, entry, rest, fault, whole, options, wrong, rfl⟩
      exact ⟨rule, fault, rfl, ⟨front, entry, rest, whole, options, wrong⟩, rfl⟩

/-- The patterns that hold: the user's, else the preset's, else none. -/
def patternsInForce (own : List (String × Toml)) (preset : Option Preset) : List String :=
  ((Toml.listAt? own Options.Key.exemptPatterns.name).or
    (presetList? preset .exemptPatterns)).getD []

/-- Why a configuration is refused: for its preset, else for the form of its table, else for the
first pattern in force that is malformed. -/
inductive Refused (config : Config) (own : List (String × Toml)) : ConfigError → Prop
  | unknownPreset (name : String) (named : config.preset = some name)
      (unknown : ∀ p : Preset, name ≠ p.name) : Refused config own (.unknownPreset name)
  | wrongOptions (preset : Option Preset) (known : config.preset = preset.map Preset.name)
      (front rest : List (String × Toml)) (entry : String × Toml) (fault : Json.Fault)
      (whole : (own.mergeSort fun a b => decide (a.1 ≤ b.1)) = front ++ entry :: rest)
      (before : Toml.AreOptions front) (wrong : Toml.WrongEntry entry fault) :
      Refused config own (.wrongOptions ruleName fault)
  | malformedPattern (preset : Option Preset) (known : config.preset = preset.map Preset.name)
      (options : Toml.AreOptions own) (front rest : List String) (pattern : String)
      (reason : Regex.Pattern.Error)
      (whole : patternsInForce own preset = front ++ pattern :: rest)
      (before : ∀ p ∈ front, ∃ r, Regex.Pattern.parse p.toList = .ok r)
      (malformed : Regex.Pattern.parse pattern.toList = .error reason) :
      Refused config own (.refusedOptions ruleName (.invalidPattern pattern reason))

/-- Options hold just if the preset is known and the table has options only; their patterns are then
those in force. -/
theorem effectiveOptions_patterns_iff (config : Config) (patterns : List String) :
    (∃ o, config.effectiveOptions = .ok o ∧ o.patternList = patterns) ↔
      ∃ preset : Option Preset, config.preset = preset.map Preset.name ∧
        Toml.AreOptions config.ownOptions ∧
          patternsInForce config.ownOptions preset = patterns := by
  have inForce (o : Options) (preset : Option Preset)
      (lists : ∀ key, o.get key =
        some (((config.userList? key).or (presetList? preset key)).getD key.standard)) :
      o.patternList = patternsInForce config.ownOptions preset := by
    have said : o.exemptPatterns = some (patternsInForce config.ownOptions preset) := by
      have here := lists .exemptPatterns
      rw [userList?_eq] at here
      exact here
    rw [Options.patternList, said, Option.getD_some]
  simp only [effectiveOptions_ok_iff, chosenPreset_ok_iff, hasOptions_iff]
  constructor
  · rintro ⟨o, ⟨preset, known, options, lists⟩, rfl⟩
    exact ⟨preset, known, options, (inForce o preset lists).symm⟩
  · rintro ⟨preset, known, options, rfl⟩
    have lists := Options.get_ofGet fun key =>
      some (((config.userList? key).or (presetList? preset key)).getD key.standard)
    exact ⟨_, ⟨preset, known, options, lists⟩, inForce _ preset lists⟩

theorem effectiveOptions_error_iff (config : Config) (e : ConfigError) :
    config.effectiveOptions = .error e ↔
      config.chosenPreset = .error e ∨
        (∃ preset, config.chosenPreset = .ok preset) ∧ config.tableOptions = .error e := by
  unfold effectiveOptions
  simp only [bind_error_iff, pure_error_iff, and_false, exists_false, or_false, exists_and_right]

theorem compile_ok_iff (o : Options) :
    (∃ policy, Policy.compile o = .ok policy) ↔
      ∀ pattern ∈ o.patternList, ∃ r, Regex.Pattern.parse pattern.toList = .ok r := by
  rw [Policy.compile_eq]
  simp only [← Policy.compilePattern_ok_iff]
  rw [← exists_forall₂_iff]
  simp only [← mapM_ok_iff]
  cases o.patternList.mapM Policy.compilePattern <;> simp [Except.map]

theorem compilePattern_error_iff (pattern : String) (error : OptionsError) :
    Policy.compilePattern pattern = .error error ↔
      ∃ reason, Regex.Pattern.parse pattern.toList = .error reason ∧
        error = .invalidPattern pattern reason := by
  unfold Policy.compilePattern
  cases Regex.Pattern.parse pattern.toList <;> simp [eq_comm]

/-- Options are refused for the first of their patterns that is malformed. -/
theorem compile_error_iff (o : Options) (error : OptionsError) :
    Policy.compile o = .error error ↔ FirstFault Policy.compilePattern o.patternList error := by
  rw [Policy.compile_eq, map_error_iff, mapM_error_iff]

/-- A configuration is accepted if its preset is known, its table has options only and every pattern
in force can be compiled. -/
theorem configuredRules_ok_iff (config : Config) :
    (∃ rules, config.configuredRules = .ok rules) ↔
      ∃ preset : Option Preset, config.preset = preset.map Preset.name ∧
        Toml.AreOptions config.ownOptions ∧
        ∀ pattern ∈ patternsInForce config.ownOptions preset,
          ∃ r, Regex.Pattern.parse pattern.toList = .ok r := by
  have steps : (∃ rules, config.configuredRules = .ok rules) ↔
      ∃ patterns, (∃ o, config.effectiveOptions = .ok o ∧ o.patternList = patterns) ∧
        ∀ pattern ∈ patterns, ∃ r, Regex.Pattern.parse pattern.toList = .ok r := by
    unfold configuredRules policy
    simp only [bind_ok_iff, pure_ok_iff, mapError_ok_iff]
    constructor
    · rintro ⟨_, policy, ⟨o, holds, compiled⟩, -⟩
      exact ⟨_, ⟨o, holds, rfl⟩, (compile_ok_iff o).mp ⟨policy, compiled⟩⟩
    · rintro ⟨_, ⟨o, holds, rfl⟩, valid⟩
      obtain ⟨policy, compiled⟩ := (compile_ok_iff o).mpr valid
      exact ⟨_, policy, ⟨o, holds, compiled⟩, rfl⟩
  rw [steps]
  simp only [effectiveOptions_patterns_iff]
  constructor
  · rintro ⟨_, ⟨preset, known, options, rfl⟩, valid⟩
    exact ⟨preset, known, options, valid⟩
  · rintro ⟨preset, known, options, valid⟩
    exact ⟨_, ⟨preset, known, options, rfl⟩, valid⟩

theorem configuredRules_error_iff_refused (config : Config) (e : ConfigError) :
    config.configuredRules = .error e ↔ config.Refused config.ownOptions e := by
  have steps : config.configuredRules = .error e ↔
      config.effectiveOptions = .error e ∨
        ∃ patterns, (∃ o, config.effectiveOptions = .ok o ∧ o.patternList = patterns) ∧
          ∃ error, FirstFault Policy.compilePattern patterns error ∧
            e = .refusedOptions ruleName error := by
    unfold configuredRules policy
    simp only [bind_error_iff, pure_error_iff, and_false, exists_false, or_false,
      mapError_error_iff, compile_error_iff]
    refine or_congr_right ⟨?_, ?_⟩
    · rintro ⟨o, holds, malformed⟩
      exact ⟨_, ⟨o, holds, rfl⟩, malformed⟩
    · rintro ⟨_, ⟨o, holds, rfl⟩, malformed⟩
      exact ⟨o, holds, malformed⟩
  rw [steps, effectiveOptions_error_iff]
  simp only [effectiveOptions_patterns_iff, chosenPreset_error_iff_unknown, chosenPreset_ok_iff,
    tableOptions_error_iff_wrongEntry]
  constructor
  · rintro ((⟨name, named, unknown, rfl⟩ |
      ⟨⟨preset, known⟩, front, entry, rest, fault, whole, before, wrong, rfl⟩) |
      ⟨_, ⟨preset, known, options, rfl⟩, _, ⟨front, pattern, rest, whole, before, failed⟩, rfl⟩)
    · exact .unknownPreset name named unknown
    · exact .wrongOptions preset known front rest entry fault whole before wrong
    · simp only [Policy.compilePattern_ok_iff] at before
      obtain ⟨reason, malformed, rfl⟩ := (compilePattern_error_iff pattern _).mp failed
      exact .malformedPattern preset known options front rest pattern reason whole before malformed
  · intro refused
    cases refused with
    | unknownPreset name named unknown => exact .inl (.inl ⟨name, named, unknown, rfl⟩)
    | wrongOptions preset known front rest entry fault whole before wrong =>
      exact .inl (.inr ⟨⟨preset, known⟩, front, entry, rest, fault, whole, before, wrong, rfl⟩)
    | malformedPattern preset known options front rest pattern reason whole before malformed =>
      refine .inr ⟨_, ⟨preset, known, options, rfl⟩, _, ⟨front, pattern, rest, whole, ?_,
        (compilePattern_error_iff pattern _).mpr ⟨reason, malformed, rfl⟩⟩, rfl⟩
      simpa only [Policy.compilePattern_ok_iff] using before

/-- A configuration that was read is accepted exactly if its preset, if it names one, is known, the
rule's table has nothing but the three lists besides what it says on the rule being in force and its
severity, and every pattern in force can be compiled. Else it is refused for the preset, or for
the first wrong entry of the table, or for the first pattern in force that cannot be compiled. The
patterns of a layer that another one replaces are not compiled, and whether the rule is in force
does not matter. -/
theorem configuredRules_validated (text : List Char) (config : Config)
    (parsed : parse text = .ok config) :
    ∃ document, Toml.read text = .ok document ∧
      ((∃ rules, config.configuredRules = .ok rules) ↔
        ∃ preset : Option Preset, config.preset = preset.map Preset.name ∧
          Toml.AreOptions (Toml.optionEntries document ruleName) ∧
          ∀ pattern ∈ patternsInForce (Toml.optionEntries document ruleName) preset,
            ∃ r, Regex.Pattern.parse pattern.toList = .ok r) ∧
      (∀ e, config.configuredRules = .error e ↔
        config.Refused (Toml.optionEntries document ruleName) e) ∧
      (∀ enabled severity,
        (config.regraded enabled severity).configuredRules = config.configuredRules) ∧
      ∀ (base o : Options) (error : OptionsError),
        Policy.compile (base.overriddenBy o) = .error error ↔
          FirstFault Policy.compilePattern (o.exemptPatterns.getD base.patternList) error := by
  obtain ⟨document, read, own⟩ := ownOptions_of_parse text config parsed
  refine ⟨document, read, ?_⟩
  rw [← own]
  refine ⟨configuredRules_ok_iff config, configuredRules_error_iff_refused config,
    fun enabled severity => ?_, fun base o error => ?_⟩
  · unfold configuredRules policy
    rw [effectiveOptions_regraded]
  · have patterns : (base.overriddenBy o).patternList =
        o.exemptPatterns.getD base.patternList := by
      unfold Options.patternList Options.overriddenBy
      cases o.exemptPatterns <;> rfl
    rw [compile_error_iff, patterns]

/-- A rule that is not in force, with a malformed pattern behind a good one in place of those of the
preset. -/
theorem configuredRules_validated_not_in_force :
    let text := "preset = \"strict\"\n[rules.require-result-return-type]\n" ++
      "enabled = false\nexemptPatterns = [\"^a\", \"(\"]\n"
    ∃ config, parse text.toList = .ok config ∧ config.isEnabled ruleName = false ∧
      config.configuredRules =
        .error (.refusedOptions ruleName (.invalidPattern "(" .malformed)) := by
  intro text
  have switches : (parse text.toList).toOption.map (fun config =>
      (config.preset, config.isEnabled ruleName)) = some (some "strict", false) := by
    decide +kernel
  have table : (Toml.read text.toList).toOption.map (fun document =>
      ((Toml.optionEntries document ruleName).map fun e => (e.1, e.2.words?),
        patternsInForce (Toml.optionEntries document ruleName) (some .strict))) =
      some ([("exemptPatterns", some ["^a", "("])], ["^a", "("]) := by
    decide +kernel
  cases parsed : parse text.toList with
  | error fault => simp [parsed, Except.toOption] at switches
  | ok config =>
    simp only [parsed, Except.toOption, Option.map_some, Option.some.injEq,
      Prod.mk.injEq] at switches
    obtain ⟨document, read, -, refused, -⟩ := configuredRules_validated text.toList config parsed
    simp only [read, Except.toOption, Option.map_some, Option.some.injEq, Prod.mk.injEq] at table
    obtain ⟨entries, patterns⟩ := table
    have options : Toml.AreOptions (Toml.optionEntries document ruleName) := by
      intro e member
      have entry : (e.1, e.2.words?) ∈ (Toml.optionEntries document ruleName).map
          fun e => (e.1, e.2.words?) := List.mem_map_of_mem member
      rw [entries, List.mem_singleton, Prod.mk.injEq] at entry
      exact ⟨⟨.exemptPatterns, entry.1⟩, _, entry.2⟩
    have good : (Regex.Pattern.parse "^a".toList).isOk = true := by decide +kernel
    refine ⟨config, rfl, switches.2, (refused _).mpr (.malformedPattern (some .strict) switches.1
      options ["^a"] [] "(" .malformed patterns ?_ rfl)⟩
    rw [List.forall_mem_singleton]
    exact exists_ok_of_isOk good

end Config

end ResultLint
