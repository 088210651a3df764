/-!
# Items with one key, numbered anew

A list is reduced to its items with one key, which keep their order and get numbers of
their own.
-/

namespace Shorthand

variable {α : Type} (key : α → String) (name : String)

/-- The number of an item among those that have a key. -/
def rank (items : List α) (number : Nat) : Nat := (items.take number).countP (key · == name)

theorem getElem?_filter_rank
    {items : List α} {number : Nat} {item : α} (hitem : items[number]? = some item)
    (hkey : key item = name) :
    (items.filter (key · == name))[rank key name items number]? = some item := by
  induction items generalizing number with
  | nil => simp at hitem
  | cons head rest ih =>
      cases number with
      | zero =>
          obtain rfl : head = item := by simpa using hitem
          simp [rank, hkey]
      | succ number =>
          have hrest := ih (by simpa using hitem)
          by_cases hhead : key head = name
          · simpa [rank, hhead] using hrest
          · simpa [rank, hhead] using hrest

theorem filter_set_rank
    {items : List α} {number : Nat} {item : α} (next : α) (hitem : items[number]? = some item)
    (hkey : key item = name) (hnext : key next = name) :
    (items.set number next).filter (key · == name) =
      (items.filter (key · == name)).set (rank key name items number) next := by
  induction items generalizing number with
  | nil => simp at hitem
  | cons head rest ih =>
      cases number with
      | zero =>
          obtain rfl : head = item := by simpa using hitem
          simp [rank, hkey, hnext]
      | succ number =>
          have hrest := ih (by simpa using hitem)
          by_cases hhead : key head = name
          · simpa [rank, hhead] using hrest
          · simpa [rank, hhead] using hrest

theorem filter_set_of_ne
    {items : List α} {number : Nat} {item : α} (next : α) (hitem : items[number]? = some item)
    (hkey : key item ≠ name) (hnext : key next ≠ name) :
    (items.set number next).filter (key · == name) = items.filter (key · == name) := by
  induction items generalizing number with
  | nil => rfl
  | cons head rest ih =>
      cases number with
      | zero =>
          obtain rfl : head = item := by simpa using hitem
          simp [hkey, hnext]
      | succ number =>
          have hrest := ih (by simpa using hitem)
          by_cases hhead : key head = name
          · simpa [hhead] using hrest
          · simpa [hhead] using hrest

theorem rank_lt_rank
    {items : List α} {first second : Nat} {item : α} (hitem : items[first]? = some item)
    (hkey : key item = name) (hlt : first < second) :
    rank key name items first < rank key name items second := by
  induction items generalizing first second with
  | nil => simp at hitem
  | cons head rest ih =>
      obtain ⟨second, rfl⟩ := Nat.exists_eq_succ_of_ne_zero (Nat.ne_zero_of_lt hlt)
      cases first with
      | zero =>
          obtain rfl : head = item := by simpa using hitem
          simp [rank, hkey]
      | succ first =>
          have hrest := ih (by simpa using hitem) (Nat.lt_of_succ_lt_succ hlt)
          by_cases hhead : key head = name
          · simpa [rank, hhead] using hrest
          · simpa [rank, hhead] using hrest

theorem rank_inj
    {items : List α} {first second : Nat} {one other : α} (hfirst : items[first]? = some one)
    (hsecond : items[second]? = some other) (hone : key one = name) (hother : key other = name)
    (hrank : rank key name items first = rank key name items second) : first = second := by
  rcases Nat.lt_trichotomy first second with hlt | heq | hgt
  · have := rank_lt_rank key name hfirst hone hlt
    omega
  · exact heq
  · have := rank_lt_rank key name hsecond hother hgt
    omega

/-- The number of an item is the same in a list that begins with the same keys. -/
theorem rank_eq_of_keys
    {items more : List α} {number : Nat} (hle : number ≤ items.length)
    (hkeys : ∀ {index : Nat} {item : α}, items[index]? = some item →
      ∃ next, more[index]? = some next ∧ key next = key item) :
    rank key name more number = rank key name items number := by
  have hsame : (more.take number).map key = (items.take number).map key := by
    apply List.ext_getElem?
    intro index
    by_cases hlt : index < number
    · have hindex := List.getElem?_eq_getElem (Nat.lt_of_lt_of_le hlt hle)
      obtain ⟨next, hnext, hkey⟩ := hkeys hindex
      simp [hlt, hnext, hindex, hkey]
    · have hbehind : ∀ list : List α, (list.take number)[index]? = none := by
        intro list
        rw [List.getElem?_take, if_neg hlt]
      rw [List.getElem?_map, List.getElem?_map, hbehind, hbehind]
  have hcount : ∀ list : List α, list.countP (key · == name) = (list.map key).count name := by
    intro list
    rw [List.count, List.countP_map]
    rfl
  rw [rank, rank, hcount, hcount, hsame]

theorem rank_length (items : List α) :
    rank key name items items.length = (items.filter (key · == name)).length := by
  rw [rank, List.take_length, List.countP_eq_length_filter]

end Shorthand
