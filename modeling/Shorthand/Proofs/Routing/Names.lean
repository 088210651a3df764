import Shorthand.Config
import Shorthand.Proofs.Routing.Validation

/-!
# Forms of a name list

A list of texts lists the same names as the one text that holds them all with commas between.
The lists that arise are those of clean names, and reading leaves just these alone, so that a
routing is none the worse for being validated again.
-/

namespace Shorthand

/-! ## Texts with commas between -/

theorem splitAt_ne_nil (separator : Char) (text : List Char) : splitAt separator text ≠ [] := by
  cases text with
  | nil => exact List.cons_ne_nil [] []
  | cons c rest =>
      rw [splitAt]
      split
      · exact List.cons_ne_nil _ _
      · split
        · exact List.cons_ne_nil _ _
        · exact List.cons_ne_nil _ _

/-- A separator stands between the parts before it and those behind it. -/
theorem splitAt_append_cons (separator : Char) (front rest : List Char) :
    splitAt separator (front ++ separator :: rest) =
      splitAt separator front ++ splitAt separator rest := by
  induction front with
  | nil => simp [splitAt]
  | cons c front ih =>
      rw [List.cons_append, splitAt, splitAt, ih]
      split
      · rfl
      · cases hfront : splitAt separator front with
        | nil => exact absurd hfront (splitAt_ne_nil separator front)
        | cons part parts => rfl

theorem namesIn_append_cons (front rest : List Char) :
    namesIn (front ++ ',' :: rest) = namesIn front ++ namesIn rest := by
  rw [namesIn, splitAt_append_cons, List.map_append, List.filter_append]
  rfl

theorem namesIn_intercalate (texts : List (List Char)) :
    namesIn ([','].intercalate texts) = texts.flatMap namesIn := by
  induction texts with
  | nil => rfl
  | cons first rest ih =>
      cases rest with
      | nil => rw [List.intercalate_singleton, List.flatMap_singleton]
      | cons second rest =>
          calc namesIn ([','].intercalate (first :: second :: rest))
              = namesIn (first ++ ',' :: [','].intercalate (second :: rest)) := by
                rw [List.intercalate_cons_cons, List.append_assoc, List.singleton_append]
            _ = namesIn first ++ (second :: rest).flatMap namesIn := by
                rw [namesIn_append_cons, ih]
            _ = (first :: second :: rest).flatMap namesIn := List.flatMap_cons.symm

theorem names_intercalate (texts : List String) :
    names (",".intercalate texts) = texts.flatMap names := by
  rw [names, String.toList_intercalate]
  change (namesIn ([','].intercalate (texts.map String.toList))).map String.ofList = _
  rw [namesIn_intercalate, List.flatMap_map, List.map_flatMap]
  rfl

/-- The texts among the items of a list. -/
def textsAmong (items : List Value) : List String :=
  items.filterMap fun
    | .str text => some text
    | _ => none

theorem flatMap_names_textsAmong (items : List Value) :
    (textsAmong items).flatMap names = items.flatMap itemNames := by
  induction items with
  | nil => rfl
  | cons item rest ih =>
      rw [List.flatMap_cons, ← ih]
      cases item with
      | str text => rfl
      | _ => rfl

theorem normalizeNames_list (items : List Value) :
    normalizeNames (.list items) = normalizeNames (.str (",".intercalate (textsAmong items))) := by
  rw [normalizeNames, normalizeNames, names_intercalate, flatMap_names_textsAmong]

/-! ## The lists that arise -/

theorem normalizeNames_append (items more : List Value) :
    normalizeNames (.list (items ++ more)) =
      normalizeNames (.list items) ++ normalizeNames (.list more) :=
  List.flatMap_append

/-- The lists that arise are those of clean names. -/
theorem exists_normalizeNames_eq_iff {listed : List String} :
    (∃ value, normalizeNames value = listed) ↔ ∀ name ∈ listed, IsCleanName name := by
  constructor
  · rintro ⟨value, rfl⟩ name hname
    exact isCleanName_of_mem_normalizeNames hname
  · intro hclean
    exact ⟨_, normalizeNames_of_clean hclean⟩

/-! ## Routings -/

/-- A routing that a table describes, or that settings make of another one. -/
inductive Routing.Built : Routing → Prop
  | ofTable (table : Table) : Built (.ofTable table)
  | ofSettings {fallback routing : Routing} {sectionName : String} {payload : Value} :
      Built fallback → Routing.ofSettings sectionName fallback payload = .ok routing →
        Built routing

theorem Routing.Built.valid {routing : Routing} (hbuilt : routing.Built) : routing.Valid := by
  induction hbuilt with
  | ofTable table => exact valid_ofTable table
  | @ofSettings fallback routing sectionName payload _ hsettings ih =>
      cases payload with
      | null =>
          obtain rfl := Except.ok.inj hsettings
          exact ih
      | object table =>
          obtain rfl := Except.ok.inj hsettings
          exact ih.update _
      | _ => cases hsettings

theorem Routing.built_of_resolve
    {env : Environment} {root explicit : Option (List Char)} {options : Value}
    {config : ServerConfig}
    (hresolve : ServerConfig.resolve env root explicit options = .ok config) :
    config.routing.Built := by
  unfold ServerConfig.resolve at hresolve
  split at hresolve
  · cases hresolve
  · next read _ =>
    cases hload : loadConfig env root explicit with
    | error error =>
        rw [hload] at hresolve
        cases hresolve
    | ok file =>
        rw [hload] at hresolve
        obtain rfl := Except.ok.inj hresolve
        have hmerged : Routing.ofSettings settingsSection Routing.initial
            (.object (Table.merge
              [(markupKey, namesValue read.markup), (stylesheetKey, namesValue read.stylesheet)]
              (file.section "filetypes"))) = .ok (ServerConfig.merge read file).routing :=
          rfl
        exact .ofSettings (.ofTable []) hmerged

/-- For all lists of values, a list reads as its texts joined by commas, and lists behind one
another read as their names behind one another.  A list of names is left alone exactly if it
arises at all, and this is so exactly if its names are clean.  Hence no routing is changed by
being validated again, however it was built. -/
theorem name_lists_read_alike_in_every_form :
    (∀ items, normalizeNames (.list items) =
      normalizeNames (.str (",".intercalate (textsAmong items)))) ∧
    (∀ items more, normalizeNames (.list (items ++ more)) =
      normalizeNames (.list items) ++ normalizeNames (.list more)) ∧
    (∀ listed : List String,
      (normalizeNames (.list (listed.map .str)) = listed ↔
        ∃ value, normalizeNames value = listed) ∧
      ((∃ value, normalizeNames value = listed) ↔ ∀ name ∈ listed, IsCleanName name)) ∧
    ∀ routing : Routing, routing.Built → Routing.ofTable routing.settings = routing := by
  refine ⟨normalizeNames_list, normalizeNames_append, ?_, fun _ => Routing.Built.valid⟩
  intro listed
  refine ⟨?_, exists_normalizeNames_eq_iff⟩
  constructor
  · intro hfixed
    exact ⟨_, hfixed⟩
  · rintro ⟨value, rfl⟩
    exact normalizeNames_normalizeNames value

end Shorthand
