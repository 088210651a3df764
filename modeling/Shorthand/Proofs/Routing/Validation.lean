import Shorthand.Routing
import Shorthand.Proofs.Text.Names
import Shorthand.Proofs.Value.Table

/-!
# Valid routings

A routing is valid when its own settings describe it, that is, when its names are clean.
Every routing that a table describes is valid, and stays so under any settings.  For such a
routing, settings may as well be laid over its own and the whole be read anew.
-/

namespace Shorthand

/-! ## The list of a grammar -/

def Grammar.settingsKey : Grammar → String
  | .markup => markupKey
  | .stylesheet => stylesheetKey

def Routing.languages (routing : Routing) : Grammar → List String
  | .markup => routing.markup
  | .stylesheet => routing.stylesheet

theorem Routing.ext_languages
    {routing other : Routing}
    (hlanguages : ∀ grammar, routing.languages grammar = other.languages grammar) :
    routing = other := by
  have hmarkup := hlanguages .markup
  have hstylesheet := hlanguages .stylesheet
  cases routing
  cases other
  simp_all [Routing.languages]

theorem Table.names?_eq (table : Table) (key : String) :
    table.names? key = (table.setting? key).map normalizeNames := by
  cases hvalue : table.get? key with
  | none => simp [names?, setting?, hvalue]
  | some value => cases value <;> simp [names?, setting?, hvalue, Option.filter, Value.isNull]

theorem Routing.languages_update (routing : Routing) (table : Table) (grammar : Grammar) :
    (routing.update table).languages grammar =
      ((table.setting? grammar.settingsKey).map normalizeNames).getD
        (routing.languages grammar) := by
  cases grammar with
  | markup => simp only [update, languages, Grammar.settingsKey, Table.names?_eq]
  | stylesheet => simp only [update, languages, Grammar.settingsKey, Table.names?_eq]

theorem Routing.languages_ofTable (table : Table) (grammar : Grammar) :
    (ofTable table).languages grammar =
      ((table.get? grammar.settingsKey).map normalizeNames).getD
        (initial.languages grammar) := by
  cases grammar <;> rfl

/-! ## Validity -/

/-- The settings that describe a routing. -/
def Routing.settings (routing : Routing) : Table :=
  [(markupKey, .list (routing.markup.map .str)),
    (stylesheetKey, .list (routing.stylesheet.map .str))]

/-- A routing is what its own settings describe. -/
def Routing.Valid (routing : Routing) : Prop := Routing.ofTable routing.settings = routing

theorem Routing.get?_settings (routing : Routing) (grammar : Grammar) :
    routing.settings.get? grammar.settingsKey =
      some (.list ((routing.languages grammar).map .str)) := by
  have hkeys : (markupKey == stylesheetKey) = false := by decide
  cases grammar with
  | markup => simp [settings, Table.get?, Grammar.settingsKey, languages]
  | stylesheet => simp [settings, Table.get?, Grammar.settingsKey, languages, hkeys]

theorem Routing.valid_iff (routing : Routing) :
    routing.Valid ↔ ∀ grammar, ∀ name ∈ routing.languages grammar, IsCleanName name := by
  have hread : ∀ grammar, (ofTable routing.settings).languages grammar =
      normalizeNames (.list ((routing.languages grammar).map .str)) := by
    intro grammar
    rw [languages_ofTable, get?_settings]
    rfl
  constructor
  · intro hvalid grammar name hname
    rw [← hvalid, hread] at hname
    exact isCleanName_of_mem_normalizeNames hname
  · intro hclean
    apply ext_languages
    intro grammar
    rw [hread, normalizeNames_of_clean (hclean grammar)]

theorem Routing.valid_initial : Routing.initial.Valid := by
  rw [Valid]
  decide +kernel

theorem Routing.valid_ofTable (table : Table) : (ofTable table).Valid := by
  rw [valid_iff]
  intro grammar name hname
  rw [languages_ofTable] at hname
  cases hvalue : table.get? grammar.settingsKey with
  | none =>
      rw [hvalue] at hname
      exact (valid_iff initial).mp valid_initial grammar name hname
  | some value =>
      rw [hvalue] at hname
      exact isCleanName_of_mem_normalizeNames hname

theorem Routing.Valid.update
    {routing : Routing} (hvalid : routing.Valid) (table : Table) :
    (routing.update table).Valid := by
  rw [valid_iff] at hvalid ⊢
  intro grammar name hname
  rw [languages_update] at hname
  cases hvalue : table.setting? grammar.settingsKey with
  | none =>
      rw [hvalue] at hname
      exact hvalid grammar name hname
  | some value =>
      rw [hvalue] at hname
      exact isCleanName_of_mem_normalizeNames hname

/-! ## Reading anew -/

/-- A routing whose settings are read anew with the fields of a table laid over them. -/
def Routing.revalidate (routing : Routing) (table : Table) : Routing :=
  .ofTable ((table.restrict [markupKey, stylesheetKey]).merge routing.settings)

/-- Settings change a valid routing as if it were read anew with them. -/
theorem Routing.Valid.update_eq_revalidate
    {routing : Routing} (hvalid : routing.Valid) (table : Table) :
    routing.update table = routing.revalidate table := by
  apply ext_languages
  intro grammar
  have hclean := (valid_iff routing).mp hvalid grammar
  have hknown : grammar.settingsKey ∈ [markupKey, stylesheetKey] := by
    cases grammar <;> simp [Grammar.settingsKey]
  have hfields : (table.restrict [markupKey, stylesheetKey]).setting? grammar.settingsKey =
      table.setting? grammar.settingsKey := by
    rw [Table.setting?, Table.setting?, Table.get?_restrict, if_pos hknown]
  have hkeys : [markupKey, stylesheetKey].Nodup := by decide
  rw [languages_update, revalidate, languages_ofTable,
    Table.get?_merge (table.nodup_restrict hkeys), hfields, get?_settings]
  cases table.setting? grammar.settingsKey with
  | none => exact (normalizeNames_of_clean hclean).symm
  | some value => rfl

end Shorthand
