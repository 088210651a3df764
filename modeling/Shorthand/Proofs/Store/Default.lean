import Shorthand.Proofs.Routing.Validation
import Shorthand.Proofs.Store.Settlement

/-!
# The default of a settings store

A client changes the default by payloads that write the list of one grammar, of both, or of
none.  However long the history, each list is the one that was written last, on its own.  It
does not matter that every change reads the whole default anew, since the default of a store
that began with a valid one is always valid.
-/

namespace Shorthand

/-! ## What a payload writes -/

/-- A payload speaks through the object in the server's section, if there is one, and
otherwise through itself. -/
inductive Value.Speaks : Value → Table → Prop
  | nested {outer inner : Table} :
      outer.get? settingsSection = some (.object inner) → Speaks (.object outer) inner
  | whole {outer : Table} :
      (∀ inner, outer.get? settingsSection ≠ some (.object inner)) →
      Speaks (.object outer) outer

/-- A payload writes a value other than null under a key. -/
def Value.Writes (payload : Value) (key : String) (value : Value) : Prop :=
  ∃ table, payload.Speaks table ∧ table.get? key = some value ∧ value.isNull = false

theorem Value.speaks_iff (payload : Value) (table : Table) :
    payload.Speaks table ↔
      ∃ outer, payload = .object outer ∧ effectiveSettings settingsSection outer = table := by
  constructor
  · intro hspeaks
    cases hspeaks with
    | @nested outer inner hinner => exact ⟨outer, rfl, by simp [effectiveSettings, hinner]⟩
    | whole hnone =>
        refine ⟨table, rfl, ?_⟩
        unfold effectiveSettings
        split
        · next inner hinner => exact absurd hinner (hnone inner)
        · rfl
  · rintro ⟨outer, rfl, rfl⟩
    unfold effectiveSettings
    split
    · next inner hinner => exact .nested hinner
    · next hnone => exact .whole fun inner hinner => hnone inner hinner

theorem Value.writes_iff (payload : Value) (key : String) (value : Value) :
    payload.Writes key value ↔
      ∃ outer, payload = .object outer ∧
        (effectiveSettings settingsSection outer).setting? key = some value := by
  simp only [Writes, speaks_iff, Table.setting?, Option.filter_eq_some_iff,
    Bool.not_eq_true']
  constructor
  · rintro ⟨table, ⟨outer, rfl, rfl⟩, hvalue⟩
    exact ⟨outer, rfl, hvalue⟩
  · rintro ⟨outer, rfl, hvalue⟩
    exact ⟨_, ⟨outer, rfl, rfl⟩, hvalue⟩

/-- The warning that the settings in a payload are no object. -/
def refusedSettings (payload : Value) : Record :=
  ⟨warningLevel, "ignoring invalid settings payload: ".toList ++
    (NoObject.mk payload.typeName).message⟩

namespace Store

/-! ## One change -/

theorem change_null (store : Store) : store.change .null = ⟨store, []⟩ := rfl

theorem change_object (store : Store) (table : Table) :
    store.change (.object table) =
      ⟨{ store with
          default := store.default.update (effectiveSettings settingsSection table) }, []⟩ := rfl

theorem change_of_not_settings
    (store : Store) {payload : Value} (hpayload : payload.isSettings = false) :
    store.change payload = ⟨store, [refusedSettings payload]⟩ := by
  cases payload with
  | null => cases hpayload
  | object fields => cases hpayload
  | _ => rfl

theorem change_languages_cases (store : Store) (payload : Value) (grammar : Grammar) :
    (∃ value, payload.Writes grammar.settingsKey value ∧
      (store.change payload).result.default.languages grammar = normalizeNames value) ∨
    ((∀ value, ¬ payload.Writes grammar.settingsKey value) ∧
      (store.change payload).result.default.languages grammar =
        store.default.languages grammar) := by
  simp only [Value.writes_iff]
  cases payload with
  | object table =>
      have hlanguages := store.default.languages_update
        (effectiveSettings settingsSection table) grammar
      rw [change_object]
      cases hvalue : (effectiveSettings settingsSection table).setting?
          grammar.settingsKey with
      | none =>
          rw [hvalue] at hlanguages
          refine .inr ⟨?_, hlanguages⟩
          rintro value ⟨outer, hsame, hwritten⟩
          cases hsame
          rw [hvalue] at hwritten
          cases hwritten
      | some value =>
          rw [hvalue] at hlanguages
          exact .inl ⟨value, ⟨table, rfl, hvalue⟩, hlanguages⟩
  | null => exact .inr ⟨by simp, rfl⟩
  | _ =>
      rw [change_of_not_settings store rfl]
      exact .inr ⟨by simp, rfl⟩

theorem change_records (store : Store) (payload : Value) :
    (store.change payload).records =
      if payload.isSettings then [] else [refusedSettings payload] := by
  cases hpayload : payload.isSettings with
  | false =>
      rw [change_of_not_settings store hpayload]
      rfl
  | true =>
      cases payload with
      | null => rfl
      | object table => rfl
      | _ => cases hpayload

theorem valid_change
    {store : Store} (hvalid : store.default.Valid) (payload : Value) :
    (store.change payload).result.default.Valid := by
  cases hpayload : payload.isSettings with
  | false =>
      rw [change_of_not_settings store hpayload]
      exact hvalid
  | true =>
      cases payload with
      | null => exact hvalid
      | object table => exact hvalid.update _
      | _ => cases hpayload

/-! ## Any number of changes -/

theorem run_changes_cons (store : Store) (payload : Value) (rest : List Value) :
    store.run ((payload :: rest).map .change) =
      ⟨((store.change payload).result.run (rest.map .change)).result,
        (store.change payload).records ++
          ((store.change payload).result.run (rest.map .change)).records⟩ := rfl

theorem run_changes_frame (store : Store) (payloads : List Value) :
    ∃ default, (store.run (payloads.map .change)).result = { store with default } := by
  induction payloads generalizing store with
  | nil => exact ⟨store.default, rfl⟩
  | cons payload rest ih =>
      obtain ⟨first, hfirst⟩ := store.change_cases payload
      obtain ⟨last, hlast⟩ := ih (store.change payload).result
      refine ⟨last, ?_⟩
      rw [run_changes_cons, hlast, hfirst]

theorem run_changes_records (store : Store) (payloads : List Value) :
    (store.run (payloads.map .change)).records =
      (payloads.filter (!·.isSettings)).map refusedSettings := by
  induction payloads generalizing store with
  | nil => rfl
  | cons payload rest ih =>
      rw [run_changes_cons, change_records, ih]
      cases hpayload : payload.isSettings <;> simp [hpayload]

theorem valid_run_changes
    {store : Store} (hvalid : store.default.Valid) (payloads : List Value) :
    (store.run (payloads.map .change)).result.default.Valid := by
  induction payloads generalizing store with
  | nil => exact hvalid
  | cons payload rest ih => exact ih (valid_change hvalid payload)

/-- The list of a grammar after changes: the one that was written last, or that of before. -/
theorem run_changes_languages (store : Store) (payloads : List Value) (grammar : Grammar) :
    let final := (store.run (payloads.map .change)).result
    (∃ before payload rest value, payloads = before ++ payload :: rest ∧
      payload.Writes grammar.settingsKey value ∧
      (∀ later ∈ rest, ∀ other, ¬ later.Writes grammar.settingsKey other) ∧
      final.default.languages grammar = normalizeNames value) ∨
    ((∀ payload ∈ payloads, ∀ value, ¬ payload.Writes grammar.settingsKey value) ∧
      final.default.languages grammar = store.default.languages grammar) := by
  induction payloads generalizing store with
  | nil => exact .inr ⟨by simp, rfl⟩
  | cons payload rest ih =>
      intro final
      have hfinal : final =
          ((store.change payload).result.run (rest.map .change)).result := rfl
      rw [hfinal]
      rcases ih (store.change payload).result with
        ⟨before, last, more, value, hrest, hwrites, hsilent, hlanguages⟩ | ⟨hsilent, hkept⟩
      · refine .inl ⟨payload :: before, last, more, value, ?_, hwrites, hsilent, hlanguages⟩
        rw [hrest, List.cons_append]
      · rw [hkept]
        rcases store.change_languages_cases payload grammar with
          ⟨value, hwrites, hlanguages⟩ | ⟨hnot, hsame⟩
        · exact .inl ⟨[], payload, rest, value, rfl, hwrites, hsilent, hlanguages⟩
        · refine .inr ⟨?_, hsame⟩
          intro other hother
          rcases List.mem_cons.mp hother with rfl | hlater
          · exact hnot
          · exact hsilent other hlater

/-- Any number of changes of the settings, of any kind.  Each list of the default is the one
that was written last, or the first when none was; the rest of the store stays as it was.
Null says nothing; whatever else is no object says nothing and leaves one warning; what
stands beside the server's section does not count.  A default that was valid is valid after
all changes, and a further change reads it anew with what the payload says laid over it. -/
theorem default_is_last_written (store : Store) (payloads : List Value) :
    let changed := store.run (payloads.map .change)
    let final := changed.result
    (∀ grammar : Grammar,
      (∃ before payload rest value, payloads = before ++ payload :: rest ∧
        payload.Writes grammar.settingsKey value ∧
        (∀ later ∈ rest, ∀ other, ¬ later.Writes grammar.settingsKey other) ∧
        final.default.languages grammar = normalizeNames value) ∨
      ((∀ payload ∈ payloads, ∀ value, ¬ payload.Writes grammar.settingsKey value) ∧
        final.default.languages grammar = store.default.languages grammar)) ∧
    final = { store with default := final.default } ∧
    changed.records = (payloads.filter (!·.isSettings)).map refusedSettings ∧
    (∀ payload,
      (final.change payload).result.cache = final.cache ∧
      (payload.isNull = true → final.change payload = ⟨final, []⟩) ∧
      (payload.isSettings = false →
        final.change payload = ⟨final, [refusedSettings payload]⟩) ∧
      (∀ table, payload.Speaks table → (final.change payload).records = [] ∧
        ∀ other, other.Speaks table → final.change other = final.change payload)) ∧
    (store.default.Valid → final.default.Valid ∧
      ∀ payload table, payload.Speaks table →
        (final.change payload).result.default = final.default.revalidate table) := by
  intro changed final
  refine ⟨store.run_changes_languages payloads, ?_, store.run_changes_records payloads, ?_, ?_⟩
  · obtain ⟨default, hframe⟩ := store.run_changes_frame payloads
    have hfinal : final = { store with default } := hframe
    rw [hfinal]
  · intro payload
    obtain ⟨default, hframe⟩ := final.change_cases payload
    refine ⟨by rw [hframe], ?_, final.change_of_not_settings, ?_⟩
    · intro hnull
      cases payload with
      | null => exact final.change_null
      | _ => cases hnull
    · intro table hspeaks
      obtain ⟨outer, rfl, htable⟩ := (payload.speaks_iff table).mp hspeaks
      refine ⟨rfl, ?_⟩
      intro other hother
      obtain ⟨otherOuter, rfl, hsame⟩ := (other.speaks_iff table).mp hother
      rw [change_object, change_object, htable, hsame]
  · intro hvalid
    have hfinal : final.default.Valid := valid_run_changes hvalid payloads
    refine ⟨hfinal, ?_⟩
    intro payload table hspeaks
    obtain ⟨outer, rfl, rfl⟩ := (payload.speaks_iff table).mp hspeaks
    exact hfinal.update_eq_revalidate _

/-- The last writer of each list counts, wherever in its payload it writes. -/
example :
    let own := .object [("emmet_ls", .object [("html_filetypes", .str " vue,, html ")]),
      ("css_filetypes", .str "less")]
    let payloads := [.object [("css_filetypes", .str "scss")], own, .null, .int 3,
      .object [("html_filetypes", .null)]]
    ((fresh .initial true).run (payloads.map .change)).result.default =
      ⟨["vue", "html"], ["scss"]⟩ := by
  decide +kernel

end Store

end Shorthand
