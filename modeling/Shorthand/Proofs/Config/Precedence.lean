import Shorthand.Config
import Shorthand.Proofs.Routing.Validation

/-!
# Options before the file

For each field of a configuration the client's option counts before the file, and the file
before what is built in.  The two tables are merged before they are read, and what is read is
the server's own section where the merged table has one.  So the order holds for the
languages as long as the file has no such section among its file types; one that it has
counts alone.
-/

namespace Shorthand

/-! ## Options -/

/-- The value that a payload gives an option, if it gives one but null. -/
def Value.option? : Value → String → Option Value
  | .object fields, key => Table.setting? fields key
  | _, _ => none

/-- The languages that options route to a grammar. -/
def Options.languages (options : Options) : Grammar → Option (List String)
  | .markup => options.markup
  | .stylesheet => options.stylesheet

theorem Options.languages_ofPayload
    {payload : Value} {options : Options} (hoptions : ofPayload payload = .ok options)
    (grammar : Grammar) :
    options.languages grammar = (payload.option? grammar.settingsKey).map normalizeNames := by
  cases payload with
  | object fields =>
      simp only [ofPayload] at hoptions
      split at hoptions
      · cases hoptions
        cases grammar with
        | markup => exact Table.names?_eq fields markupKey
        | stylesheet => exact Table.names?_eq fields stylesheetKey
      · cases hoptions
      · cases hoptions
      · cases hoptions
  | _ =>
      cases hoptions
      cases grammar <;> rfl

/-! ## The merged table -/

/-- The table of what options say about languages. -/
def Options.fields (options : Options) : Table :=
  [(markupKey, namesValue options.markup), (stylesheetKey, namesValue options.stylesheet)]

theorem Options.nodup_fields (options : Options) : (options.fields.map Prod.fst).Nodup := by
  have hkeys : [markupKey, stylesheetKey].Nodup := by decide
  exact hkeys

theorem Options.setting?_fields (options : Options) (grammar : Grammar) :
    options.fields.setting? grammar.settingsKey =
      (options.languages grammar).map fun names => .list (names.map .str) := by
  have hkeys : markupKey ≠ stylesheetKey := by decide
  cases grammar with
  | markup =>
      simp only [fields, Table.setting?, Table.get?_cons, Grammar.settingsKey, languages]
      cases options.markup <;> rfl
  | stylesheet =>
      simp only [fields, Table.setting?, Table.get?_cons, Grammar.settingsKey, languages,
        if_neg hkeys]
      cases options.stylesheet <;> rfl

theorem Options.setting?_fields_settingsSection (options : Options) :
    options.fields.setting? settingsSection = none := by
  have hmarkup : markupKey ≠ settingsSection := by decide
  have hstylesheet : stylesheetKey ≠ settingsSection := by decide
  simp only [fields, Table.setting?, Table.get?_cons, if_neg hmarkup, if_neg hstylesheet]
  rfl

/-- The settings that the languages are read from. -/
def Options.laidOver (options : Options) (filetypes : Table) : Table :=
  options.fields.merge filetypes

theorem Options.setting?_laidOver
    {options : Options} (filetypes : Table) (grammar : Grammar) :
    (options.laidOver filetypes).setting? grammar.settingsKey =
      ((options.languages grammar).map fun names => .list (names.map .str)).or
        (filetypes.setting? grammar.settingsKey) := by
  rw [laidOver, Table.setting?, Table.get?_merge options.nodup_fields, options.setting?_fields]
  cases options.languages grammar <;> rfl

theorem Options.get?_laidOver_settingsSection (options : Options) (filetypes : Table) :
    (options.laidOver filetypes).get? settingsSection = filetypes.get? settingsSection := by
  rw [laidOver, Table.get?_merge options.nodup_fields, setting?_fields_settingsSection]
  rfl

/-! ## The languages of a configuration -/

/-- Without a section of the server's among the file types, options come first. -/
theorem ServerConfig.languages_merge_of_flat
    {options : Options} {payload : Value} (hoptions : Options.ofPayload payload = .ok options)
    {file : Table}
    (hflat : ∀ inner, (file.section "filetypes").get? settingsSection ≠ some (.object inner))
    (grammar : Grammar) :
    (merge options file).routing.languages grammar =
      (((payload.option? grammar.settingsKey).or
        ((file.section "filetypes").setting? grammar.settingsKey)).map normalizeNames).getD
          (Routing.initial.languages grammar) := by
  let settings := options.laidOver (file.section "filetypes")
  have hself : effectiveSettings settingsSection settings = settings := by
    unfold effectiveSettings
    split
    · next inner hinner =>
      rw [options.get?_laidOver_settingsSection] at hinner
      exact absurd hinner (hflat inner)
    · rfl
  have hrouting : (merge options file).routing =
      Routing.initial.update (effectiveSettings settingsSection settings) := rfl
  rw [hrouting, hself, Routing.languages_update, Options.setting?_laidOver,
    Options.languages_ofPayload hoptions]
  cases payload.option? grammar.settingsKey with
  | none => rfl
  | some value => exact normalizeNames_normalizeNames value

/-- A section of the server's among the file types counts alone. -/
theorem ServerConfig.languages_merge_of_nested
    (options : Options) {file inner : Table}
    (hinner : (file.section "filetypes").get? settingsSection = some (.object inner))
    (grammar : Grammar) :
    (merge options file).routing.languages grammar =
      ((inner.setting? grammar.settingsKey).map normalizeNames).getD
        (Routing.initial.languages grammar) := by
  let settings := options.laidOver (file.section "filetypes")
  have heffective : effectiveSettings settingsSection settings = inner := by
    rw [effectiveSettings, options.get?_laidOver_settingsSection, hinner]
  have hrouting : (merge options file).routing =
      Routing.initial.update (effectiveSettings settingsSection settings) := rfl
  rw [hrouting, heffective, Routing.languages_update]

/-- The configuration of every client with valid options and of every file.  An option comes
first, then the file, then what is built in: always for the replacement of abbreviations, and
for the languages unless the file types hold a section of the server's.  Then that section
and what is built in decide alone. -/
theorem options_precede_file
    (env : Environment) (root explicit : Option (List Char)) (payload : Value)
    {options : Options} {file : Table}
    (hoptions : Options.ofPayload payload = .ok options)
    (hfile : loadConfig env root explicit = .ok file) :
    let filetypes := file.section "filetypes"
    let completion := file.section "completion"
    ∃ config, ServerConfig.resolve env root explicit payload = .ok config ∧
      config.routing.Valid ∧
      config.replaceAbbreviation = options.replaceAbbreviation.getD
        (((completion.get? "replace_abbreviation").map Value.isOn).getD false) ∧
      ((∀ inner, filetypes.get? settingsSection ≠ some (.object inner)) →
        ∀ grammar : Grammar, config.routing.languages grammar =
          (((payload.option? grammar.settingsKey).or
            (filetypes.setting? grammar.settingsKey)).map normalizeNames).getD
              (Routing.initial.languages grammar)) ∧
      ∀ inner : Table, filetypes.get? settingsSection = some (.object inner) →
        ∀ grammar : Grammar, config.routing.languages grammar =
          ((inner.setting? grammar.settingsKey).map normalizeNames).getD
            (Routing.initial.languages grammar) := by
  intro filetypes completion
  refine ⟨ServerConfig.merge options file, ?_, ?_, rfl, ?_, ?_⟩
  · simp [ServerConfig.resolve, hoptions, hfile, Except.map]
  · exact Routing.valid_initial.update _
  · exact ServerConfig.languages_merge_of_flat hoptions
  · intro inner hinner
    exact ServerConfig.languages_merge_of_nested options hinner

/-- A client's languages count although the file names others. -/
theorem option_precedes_entry_of_file :
    let text := "[filetypes]\nhtml_filetypes='php'\n[completion]\nreplace_abbreviation=true"
    let env : Environment :=
      ⟨fun _ => .file (text.toList.map Char.toNat), fun _ => true, some ['/'], 900⟩
    let payload : Value := .object [(markupKey, .str " vue,, html"), ("replaceAbbreviation", .null)]
    ∃ options file config, Options.ofPayload payload = .ok options ∧
      loadConfig env none none = .ok file ∧
      (file.section "filetypes").names? markupKey = some ["php"] ∧
      ServerConfig.resolve env none none payload = .ok config ∧
      config.replaceAbbreviation = true ∧
      config.routing.languages .markup = ["vue", "html"] := by
  intro text env payload
  cases hfile : loadConfig env none none with
  | error error =>
      have hloads : (loadConfig env none none).isOk = true := by decide +kernel
      rw [hfile] at hloads
      cases hloads
  | ok file =>
      have hread : (loadConfig env none none).toOption.map (fun file =>
          ((file.section "filetypes").names? markupKey,
            ((file.section "filetypes").get? settingsSection).isNone,
            ((file.section "completion").get? "replace_abbreviation").map Value.isOn)) =
          some (some ["php"], true, some true) := by
        decide +kernel
      rw [hfile] at hread
      have hpair := Option.some.inj hread
      simp only [Prod.mk.injEq] at hpair
      obtain ⟨hnames, hflat, hreplaces⟩ := hpair
      have hoptions : Options.ofPayload payload =
          .ok ⟨some (normalizeNames (.str " vue,, html")), none, none, none⟩ := rfl
      obtain ⟨config, hconfig, -, hreplacement, hlanguages, -⟩ :=
        options_precede_file env none none payload hoptions hfile
      refine ⟨_, file, config, hoptions, rfl, hnames, hconfig, ?_, ?_⟩
      · rw [hreplacement, hreplaces]
        rfl
      · have hflat : ∀ inner,
            (file.section "filetypes").get? settingsSection ≠ some (.object inner) := by
          intro inner hinner
          rw [hinner] at hflat
          cases hflat
        have hchosen : payload.option? Grammar.markup.settingsKey =
            some (.str " vue,, html") := rfl
        have hlisted : normalizeNames (.str " vue,, html") = ["vue", "html"] := by decide +kernel
        rw [hlanguages hflat .markup, hchosen]
        exact hlisted

/-- A section of the server's among the file types makes an option lose. -/
theorem inner_section_overrules_option :
    let text := "[filetypes.emmet_ls]\nhtml_filetypes='php'"
    let env : Environment :=
      ⟨fun _ => .file (text.toList.map Char.toNat), fun _ => true, some ['/'], 900⟩
    let payload : Value := .object [(markupKey, .str "vue")]
    payload.option? markupKey = some (.str "vue") ∧
      ∃ config, ServerConfig.resolve env none none payload = .ok config ∧
        config.routing.languages .markup ≠ normalizeNames (.str "vue") := by
  intro text env payload
  refine ⟨rfl, ?_⟩
  have hlanguages : (ServerConfig.resolve env none none payload).toOption.map
      (fun config => config.routing.languages .markup) = some ["php"] := by
    decide +kernel
  cases hconfig : ServerConfig.resolve env none none payload with
  | error error =>
      rw [hconfig] at hlanguages
      cases hlanguages
  | ok config =>
      rw [hconfig] at hlanguages
      have hinner : config.routing.languages .markup = ["php"] := Option.some.inj hlanguages
      refine ⟨config, rfl, ?_⟩
      rw [hinner]
      decide +kernel

end Shorthand
