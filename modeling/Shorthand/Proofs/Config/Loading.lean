import Shorthand.Config
import Shorthand.Proofs.Text.Lines
import Shorthand.Proofs.Text.Utf8
import Shorthand.Proofs.Toml.Depth
import Shorthand.Proofs.Toml.Reader

/-!
# Loading a configuration

What is no configuration counts as an empty one.  A few things are not let through in that way:
a working directory that is gone, a path that no file can have, octets that are no text, a
numeral that is too long to be converted, and values that lie too deep in each other.
-/

namespace Shorthand

namespace Toml

theorem IsNumeral.ne_newline
    {run digits : List Char} (hnumeral : IsNumeral Char.isDigit run digits) :
    ∀ c ∈ run, c ≠ '\n' := by
  induction hnumeral with
  | nil => nofun
  | digit hc _ ih =>
      refine List.forall_mem_cons.mpr ⟨?_, ih⟩
      rintro rfl
      cases hc
  | low _ ih => exact List.forall_mem_cons.mpr ⟨by decide, ih⟩

/-- A numeral of a file as it is read is one of the file. -/
theorem HasLongNumeral.of_universalNewlines {text : List Char} {count : Nat}
    (hlong : HasLongNumeral (universalNewlines text) count) : HasLongNumeral text count := by
  obtain ⟨hexceeds, run, digits, hrun, hnumeral, hcount⟩ := hlong
  exact ⟨hexceeds, run, digits, infix_of_infix_universalNewlines hnumeral.ne_newline hrun,
    hnumeral, hcount⟩

theorem levels_universalNewlines (text : List Char) :
    levels (universalNewlines text) = levels text := by
  have hlists := count_universalNewlines (c := '[') (by decide) (by decide) text
  have htables := count_universalNewlines (c := '{') (by decide) (by decide) text
  rw [levels, levels, hlists, htables]

end Toml

/-! ## Files -/

/-- The octets at a place encode a document that writes a table. -/
def Entry.Writes (entry : Entry) (table : Table) : Prop :=
  ∃ text depth, entry = .file (Utf8.encode text) ∧
    Toml.parse depth (universalNewlines text) = .ok table

/-- What stops a file from being read, where another one would count as empty. -/
inductive Entry.Stops (depth : Nat) : Entry → ConfigError → Prop
  | noText {octets : List Nat} :
      (∀ text, Utf8.encode text ≠ octets) → Stops depth (.file octets) .noText
  | tooManyDigits {text : List Char} {count : Nat} :
      Toml.parse depth (universalNewlines text) = .error (.tooManyDigits count) →
      Toml.HasLongNumeral text count →
      Stops depth (.file (Utf8.encode text)) (.tooManyDigits count)
  | tooDeep {text : List Char} :
      Toml.parse depth (universalNewlines text) = .error .tooDeep →
      depth ≤ Toml.levels text + 1 → Stops depth (.file (Utf8.encode text)) .tooDeep

namespace Entry

variable {entry : Entry} {depth : Nat}

theorem table_file_encode (depth : Nat) (text : List Char) :
    (file (Utf8.encode text)).table depth =
      documentTable (Toml.parse depth (universalNewlines text)) := by
  simp only [Entry.table, Utf8.decode?_encode]

theorem Stops.table_eq {error : ConfigError} (hstops : entry.Stops depth error) :
    entry.table depth = .error error := by
  cases hstops with
  | noText hnone => simp only [Entry.table, Utf8.decode?_eq_none_iff.mpr hnone]
  | tooManyDigits hparse _ | tooDeep hparse _ =>
      rw [table_file_encode, hparse]
      rfl

theorem parse_of_writes_encode {text : List Char} {table : Table}
    (hwrites : (file (Utf8.encode text)).Writes table) :
    ∃ depth, Toml.parse depth (universalNewlines text) = .ok table := by
  obtain ⟨other, depth, hother, hparse⟩ := hwrites
  have hsame : some text = some other := by
    rw [← Utf8.decode?_encode text, Entry.file.inj hother, Utf8.decode?_encode]
  exact ⟨depth, Option.some.inj hsame ▸ hparse⟩

/-- What the document of a file writes at one depth it writes at every depth that suffices. -/
theorem parse_eq_of_writes_encode {text : List Char} {table : Table}
    (hwrites : (file (Utf8.encode text)).Writes table)
    (hread : Toml.parse depth (universalNewlines text) ≠ .error .tooDeep) :
    Toml.parse depth (universalNewlines text) = .ok table := by
  obtain ⟨other, hparse⟩ := parse_of_writes_encode hwrites
  rw [← hparse]
  exact Toml.parse_eq_parse hread (by rw [hparse]; nofun)

theorem table_cases (entry : Entry) (depth : Nat) :
    (∃ table, entry.table depth = .ok table ∧ ∀ other, entry.Writes other ↔ other = table) ∨
    (∃ error, entry.table depth = .error error ∧ entry.Stops depth error) ∨
    entry.table depth = .ok [] ∧ ∀ table, ¬ entry.Writes table := by
  cases entry with
  | missing | directory | unreadable => exact .inr (.inr ⟨rfl, nofun⟩)
  | file octets =>
      cases hdecode : Utf8.decode? octets with
      | none =>
          have hstops : (file octets).Stops depth .noText :=
            .noText (Utf8.decode?_eq_none_iff.mp hdecode)
          exact .inr (.inl ⟨_, hstops.table_eq, hstops⟩)
      | some text =>
          obtain rfl := Utf8.decode?_eq_some_iff.mp hdecode
          rw [table_file_encode]
          cases hparse : Toml.parse depth (universalNewlines text) with
          | ok table =>
              refine .inl ⟨table, rfl, fun other => ⟨fun hwrites => ?_, ?_⟩⟩
              · have hother := parse_eq_of_writes_encode hwrites (by rw [hparse]; nofun)
                rw [hparse] at hother
                exact (Except.ok.inj hother).symm
              · rintro rfl
                exact ⟨text, depth, rfl, hparse⟩
          | error error =>
              cases Toml.hasCause_of_parse hparse with
              | invalid =>
                  refine .inr (.inr ⟨rfl, fun table hwrites => ?_⟩)
                  have htable := parse_eq_of_writes_encode hwrites (by rw [hparse]; nofun)
                  rw [hparse] at htable
                  cases htable
              | tooManyDigits hlong =>
                  exact .inr (.inl ⟨_, rfl, .tooManyDigits hparse hlong.of_universalNewlines⟩)
              | tooDeep hdepth =>
                  rw [Toml.levels_universalNewlines] at hdepth
                  exact .inr (.inl ⟨_, rfl, .tooDeep hparse (by omega)⟩)

theorem table_eq_error_iff (entry : Entry) (depth : Nat) (error : ConfigError) :
    entry.table depth = .error error ↔ entry.Stops depth error := by
  refine ⟨fun htable => ?_, Stops.table_eq⟩
  rcases entry.table_cases depth with ⟨table, hok, -⟩ | ⟨other, hother, hstops⟩ | ⟨hok, -⟩
  · cases htable.symm.trans hok
  · cases htable.symm.trans hother
    exact hstops
  · cases htable.symm.trans hok

theorem table_eq_ok_iff (entry : Entry) (depth : Nat) (table : Table) :
    entry.table depth = .ok table ↔
      (∀ error, ¬ entry.Stops depth error) ∧
        (entry.Writes table ∨ table = [] ∧ ∀ other, ¬ entry.Writes other) := by
  simp only [← table_eq_error_iff]
  rcases entry.table_cases depth with ⟨written, hok, hwrites⟩ | ⟨error, herror, -⟩ | ⟨hok, hnone⟩
  · simp [hok, hwrites, eq_comm]
  · simp [herror]
  · simp [hok, hnone, eq_comm]

end Entry

/-! ## The place that is looked at -/

/-- What stops a configuration from being loaded. -/
inductive Environment.Stops (env : Environment) (root explicit : Option (List Char)) :
    ConfigError → Prop
  | noDirectory :
      explicit = none → root = none → env.directory = none → Stops env root explicit .noDirectory
  | unencodablePath {path : List Char} :
      env.configPath root explicit = .ok path → env.encodes path = false →
      Stops env root explicit .unencodablePath
  | zeroInPath {path : List Char} :
      env.configPath root explicit = .ok path → env.encodes path = true → '\x00' ∈ path →
      Stops env root explicit .zeroInPath
  | entry {path : List Char} {error : ConfigError} :
      env.configPath root explicit = .ok path → env.encodes path = true → '\x00' ∉ path →
      (env.entry path).Stops env.depth error → Stops env root explicit error

section
variable {env : Environment} {root explicit : Option (List Char)}

theorem Environment.configPath_eq_error_iff {error : ConfigError} :
    env.configPath root explicit = .error error ↔
      explicit = none ∧ root = none ∧ env.directory = none ∧ error = .noDirectory := by
  unfold configPath
  cases explicit with
  | some path => simp
  | none =>
      cases root with
      | some directory => simp
      | none => cases env.directory <;> simp [eq_comm]

theorem Environment.tableAt_cases (env : Environment) (path : List Char) :
    (env.encodes path = false ∧ env.tableAt path = .error .unencodablePath) ∨
    (env.encodes path = true ∧ '\x00' ∈ path ∧ env.tableAt path = .error .zeroInPath) ∨
    (env.encodes path = true ∧ '\x00' ∉ path ∧
      env.tableAt path = (env.entry path).table env.depth) := by
  unfold tableAt
  cases hencodes : env.encodes path with
  | false => exact .inl ⟨rfl, rfl⟩
  | true => by_cases hzero : '\x00' ∈ path <;> simp [hzero]

theorem loadConfig_of_configPath
    {path : List Char} (hpath : env.configPath root explicit = .ok path) :
    loadConfig env root explicit = env.tableAt path := by
  rw [loadConfig, hpath]
  rfl

theorem Environment.Stops.loadConfig_eq
    {error : ConfigError} (hstops : env.Stops root explicit error) :
    loadConfig env root explicit = .error error := by
  cases hstops with
  | noDirectory hexplicit hroot hdirectory =>
      rw [loadConfig, configPath_eq_error_iff.mpr ⟨hexplicit, hroot, hdirectory, rfl⟩]
      rfl
  | unencodablePath hpath hencodes =>
      simp [loadConfig_of_configPath hpath, tableAt, hencodes]
  | zeroInPath hpath hencodes hzero =>
      simp [loadConfig_of_configPath hpath, tableAt, hencodes, hzero]
  | entry hpath hencodes hzero hentry =>
      simp [loadConfig_of_configPath hpath, tableAt, hencodes, hzero, hentry.table_eq]

/-- Something stops a configuration, or what lies at its place is read. -/
theorem loadConfig_cases (env : Environment) (root explicit : Option (List Char)) :
    (∃ error, env.Stops root explicit error) ∨
    ∃ path, env.configPath root explicit = .ok path ∧ env.encodes path = true ∧ '\x00' ∉ path ∧
      loadConfig env root explicit = (env.entry path).table env.depth := by
  cases hpath : env.configPath root explicit with
  | error error =>
      obtain ⟨hexplicit, hroot, hdirectory, -⟩ := Environment.configPath_eq_error_iff.mp hpath
      exact .inl ⟨_, .noDirectory hexplicit hroot hdirectory⟩
  | ok path =>
      rcases env.tableAt_cases path with
        ⟨hencodes, -⟩ | ⟨hencodes, hzero, -⟩ | ⟨hencodes, hzero, htable⟩
      · exact .inl ⟨_, .unencodablePath hpath hencodes⟩
      · exact .inl ⟨_, .zeroInPath hpath hencodes hzero⟩
      · exact .inr ⟨path, rfl, hencodes, hzero, (loadConfig_of_configPath hpath).trans htable⟩

theorem loadConfig_eq_error_iff {error : ConfigError} :
    loadConfig env root explicit = .error error ↔ env.Stops root explicit error := by
  refine ⟨fun hloaded => ?_, Environment.Stops.loadConfig_eq⟩
  rcases loadConfig_cases env root explicit with
    ⟨other, hstops⟩ | ⟨path, hpath, hencodes, hzero, htable⟩
  · cases hloaded.symm.trans hstops.loadConfig_eq
    exact hstops
  · exact .entry hpath hencodes hzero
      ((Entry.table_eq_error_iff _ _ _).mp (htable.symm.trans hloaded))

theorem loadConfig_eq_ok_iff {table : Table} :
    loadConfig env root explicit = .ok table ↔
      (∀ error, ¬ env.Stops root explicit error) ∧
        ∃ path, env.configPath root explicit = .ok path ∧
          ((env.entry path).Writes table ∨
            table = [] ∧ ∀ other, ¬ (env.entry path).Writes other) := by
  rcases loadConfig_cases env root explicit with
    ⟨error, hstops⟩ | ⟨path, hpath, hencodes, hzero, htable⟩
  · rw [hstops.loadConfig_eq]
    refine iff_of_false nofun ?_
    rintro ⟨hfree, -⟩
    exact hfree error hstops
  · rw [htable, Entry.table_eq_ok_iff]
    have hsame : ∀ error,
        env.Stops root explicit error ↔ (env.entry path).Stops env.depth error := by
      intro error
      rw [← loadConfig_eq_error_iff, htable, Entry.table_eq_error_iff]
    simp [hsame, hpath]

end

/-! ## Sections -/

theorem Table.section_eq_iff (table : Table) (name : String) (fields : Table) :
    table.section name = fields ↔
      table.get? name = some (.object fields) ∨
        fields = [] ∧ ∀ inner, table.get? name ≠ some (.object inner) := by
  unfold Table.section
  split
  next inner hinner =>
    simp only [hinner, Option.some.injEq, Value.object.injEq, ne_eq, forall_eq', and_false,
      or_false]
  next hother =>
    have hnone : ∀ inner, table.get? name ≠ some (.object inner) := hother
    simp only [hnone, ne_eq, not_false_eq_true, implies_true, and_true, false_or]
    exact eq_comm

/-- Every configuration that is looked for, whatever lies at its path.  It is the table of the
document if the octets of a file encode one, and else it is empty, unless something stops it:
there is no working directory to look in, or the path or the file is at fault, each with its
own error.  A document is stopped for its depth only if its brackets need more levels than
there are.  A section is the table under its name, and empty if there is none; no section fails
where the configuration has loaded. -/
theorem configuration_loads_unless_stopped
    (env : Environment) (root explicit : Option (List Char)) :
    let loaded := loadConfig env root explicit
    (∀ table, loaded = .ok table ↔
      (∀ error, ¬ env.Stops root explicit error) ∧
        ∃ path, env.configPath root explicit = .ok path ∧
          ((env.entry path).Writes table ∨
            table = [] ∧ ∀ other, ¬ (env.entry path).Writes other)) ∧
    (∀ error, loaded = .error error ↔ env.Stops root explicit error) ∧
    ∀ name,
      (∀ fields, loaded.map (·.section name) = .ok fields ↔
        ∃ table, loaded = .ok table ∧
          (table.get? name = some (.object fields) ∨
            fields = [] ∧ ∀ inner, table.get? name ≠ some (.object inner))) ∧
      ∀ error, loaded.map (·.section name) = .error error ↔ loaded = .error error := by
  intro loaded
  refine ⟨fun _ => loadConfig_eq_ok_iff, fun _ => loadConfig_eq_error_iff, ?_⟩
  intro name
  simp only [← Table.section_eq_iff]
  cases loaded <;> simp [Except.map]

/-- An octet that begins no character keeps a configuration from being loaded. -/
theorem octets_without_text_are_not_empty_configuration :
    let env : Environment := ⟨fun _ => .file [0xff], fun _ => true, some ['/'], 900⟩
    ∀ table, loadConfig env none none ≠ .ok table := by
  intro env table hloaded
  cases hloaded

end Shorthand
