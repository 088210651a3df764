import Shorthand.Value

/-!
# Tables by their keys

What stands under a key of a table that was set or merged.  A payload laid over defaults
counts where it says something, which null does not.
-/

namespace Shorthand

namespace Table

/-- The value under a key, if there is one but null. -/
def setting? (table : Table) (key : String) : Option Value :=
  (table.get? key).filter (!·.isNull)

theorem get?_cons (field : String × Value) (rest : Table) (key : String) :
    get? (field :: rest) key = if field.1 = key then some field.2 else get? rest key := by
  by_cases hkey : field.1 = key
  · simp [get?, hkey]
  · have hhead : (field.1 == key) = false := by simpa using hkey
    simp only [get?, List.find?_cons, hhead, if_neg hkey]

theorem get?_eq_none_of_not_mem
    {table : Table} {key : String} (hkey : key ∉ table.map Prod.fst) :
    table.get? key = none := by
  induction table with
  | nil => rfl
  | cons field rest ih =>
      rw [List.map_cons, List.mem_cons, not_or] at hkey
      rw [get?_cons, if_neg (Ne.symm hkey.1), ih hkey.2]

theorem get?_overwrite_self
    {table : Table} {key : String} (value : Value)
    (hany : table.any (·.1 == key) = true) :
    get? (table.map fun field => if field.1 == key then (key, value) else field) key =
      some value := by
  induction table with
  | nil => cases hany
  | cons field rest ih =>
      rw [List.map_cons, get?_cons]
      by_cases hfield : field.1 = key
      · simp [hfield]
      · have hhead : (field.1 == key) = false := by simpa using hfield
        rw [List.any_cons, hhead, Bool.false_or] at hany
        simp only [hhead, Bool.false_eq_true, if_false, if_neg hfield, ih hany]

theorem get?_overwrite_of_ne
    (table : Table) {key other : String} (value : Value) (hne : other ≠ key) :
    get? (table.map fun field => if field.1 == key then (key, value) else field) other =
      table.get? other := by
  induction table with
  | nil => rfl
  | cons field rest ih =>
      rw [List.map_cons, get?_cons, ih, get?_cons]
      by_cases hfield : field.1 = key
      · simp [hfield, Ne.symm hne]
      · simp [hfield]

theorem get?_append (table more : Table) (key : String) :
    get? (table ++ more) key = (table.get? key).or (more.get? key) := by
  induction table with
  | nil => rfl
  | cons field rest ih =>
      rw [List.cons_append, get?_cons, ih, get?_cons]
      split <;> rfl

theorem get?_set (table : Table) (key other : String) (value : Value) :
    (table.set key value).get? other = if other = key then some value else table.get? other := by
  cases hany : table.any (·.1 == key) with
  | true =>
      rw [set, if_pos hany]
      by_cases hother : other = key
      · rw [if_pos hother, hother, get?_overwrite_self value hany]
      · rw [if_neg hother, get?_overwrite_of_ne table value hother]
  | false =>
      have habsent : table.get? key = none := by
        apply get?_eq_none_of_not_mem
        intro hmem
        obtain ⟨field, hfield, hkey⟩ := List.mem_map.mp hmem
        have hnot := List.any_eq_false.mp hany field hfield
        exact hnot (by simpa using hkey)
      rw [set, hany, if_neg (by simp), get?_append, get?_cons]
      by_cases hother : other = key
      · subst other
        simp [habsent]
      · simp [hother, Ne.symm hother, get?]

/-! ## Some fields of a table -/

/-- The fields of a table that stand under given keys. -/
def restrict (table : Table) (keys : List String) : Table :=
  keys.filterMap fun key => (table.get? key).map (key, ·)

theorem get?_restrict (table : Table) (keys : List String) (key : String) :
    (table.restrict keys).get? key = if key ∈ keys then table.get? key else none := by
  induction keys with
  | nil => rfl
  | cons first rest ih =>
      rw [restrict] at ih ⊢
      by_cases hkey : first = key
      · subst first
        cases hvalue : table.get? key with
        | none => simp [hvalue, ih]
        | some value => simp [hvalue, get?_cons]
      · cases hvalue : table.get? first with
        | none => simp [hvalue, ih, Ne.symm hkey]
        | some value => simp [hvalue, get?_cons, hkey, ih, Ne.symm hkey]

theorem nodup_restrict (table : Table) {keys : List String} (hkeys : keys.Nodup) :
    ((table.restrict keys).map Prod.fst).Nodup := by
  have hsublist : ((table.restrict keys).map Prod.fst).Sublist keys := by
    clear hkeys
    induction keys with
    | nil => exact List.Sublist.refl []
    | cons first rest ih =>
        rw [restrict] at ih ⊢
        cases hvalue : table.get? first with
        | none => simpa [hvalue] using ih.cons first
        | some value => simpa [hvalue] using ih.cons_cons first
  exact hkeys.sublist hsublist

/-! ## A payload over defaults -/

/-- Under a key of a payload laid over defaults stands what the payload sets, or else what
the defaults hold. -/
theorem get?_merge
    {payload : Table} (hkeys : (payload.map Prod.fst).Nodup) (defaults : Table)
    (key : String) :
    (merge payload defaults).get? key = (payload.setting? key).or (defaults.get? key) := by
  induction payload generalizing defaults with
  | nil => rfl
  | cons field rest ih =>
      rw [List.map_cons, List.nodup_cons] at hkeys
      have hrest := ih hkeys.2
      simp only [merge, List.foldl_cons, setting?, get?_cons] at hrest ⊢
      rw [hrest]
      by_cases hkey : field.1 = key
      · subst key
        rw [get?_eq_none_of_not_mem hkeys.1]
        cases hnull : field.2.isNull with
        | true => simp [Option.filter, hnull]
        | false => simp [Option.filter, hnull, get?_set]
      · rw [if_neg hkey]
        cases hnull : field.2.isNull with
        | true => rfl
        | false => simp [get?_set, Ne.symm hkey]

end Table

end Shorthand
