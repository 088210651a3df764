import Mathlib.Algebra.Group.Nat.Defs
import Mathlib.Tactic.SplitIfs
import Shorthand.Text.Utf8

/-!
# Octets of texts

Decoding undoes encoding, whatever is behind the text, and octets that are decoded without a
flaw are the encoding of what was decoded.  So the octets of a file are those of one text, or
of none.
-/

namespace Shorthand.Utf8

def octets (c : Char) : List Nat := (String.utf8EncodeChar c).map UInt8.toNat

def encode (text : List Char) : List Nat := text.flatMap octets

@[simp]
theorem encode_nil : encode [] = [] := rfl

@[simp]
theorem encode_cons (c : Char) (text : List Char) : encode (c :: text) = octets c ++ encode text :=
  rfl

/-! ## The octets of a character -/

/-- The last octets of a code point, six bits each. -/
def lastOctets : Nat → Nat → List Nat
  | 0, _ => []
  | count + 1, n => (0x80 + n / 0x40 ^ count % 0x40) :: lastOctets count n

/-- Code points are below the end of the code space, and none of them is a surrogate. -/
theorem toNat_valid (c : Char) : c.toNat < 0xd800 ∨ 0xdfff < c.toNat ∧ c.toNat < 0x110000 :=
  c.valid

/-- The octets of the character with a code point. -/
def octetsOf (n : Nat) : List Nat :=
  if n ≤ 0x7f then [n]
  else if n ≤ 0x7ff then (0xc0 + n / 0x40) :: lastOctets 1 n
  else if n ≤ 0xffff then (0xe0 + n / 0x1000) :: lastOctets 2 n
  else (0xf0 + n / 0x40000) :: lastOctets 3 n

theorem octets_eq_octetsOf (c : Char) : octets c = octetsOf c.toNat := by
  have hvalid := toNat_valid c
  simp only [octets, octetsOf, String.utf8EncodeChar, Char.toNat_val]
  generalize c.toNat = n at hvalid
  split_ifs
  all_goals
    simp [lastOctets]
    omega

theorem octets_ofNat {n : Nat} (hvalid : n.isValidChar) : octets (Char.ofNat n) = octetsOf n := by
  rw [octets_eq_octetsOf, Char.ofNat, dif_pos hvalid]
  rfl

theorem octets_of_ascii {c : Char} (hc : c.toNat < 0x80) : octets c = [c.toNat] := by
  rw [octets_eq_octetsOf, octetsOf, if_pos (Nat.le_of_lt_succ hc)]

theorem lt_of_mem_octets {c : Char} {octet : Nat} (hoctet : octet ∈ octets c) : octet < 0x100 := by
  obtain ⟨byte, -, rfl⟩ := List.mem_map.mp hoctet
  exact byte.toNat_lt

/-- Six more bits of a number. -/
theorem div_mul_add_mod (n count : Nat) :
    n / 0x40 ^ (count + 1) * 0x40 + n / 0x40 ^ count % 0x40 = n / 0x40 ^ count := by
  rw [Nat.pow_succ, ← Nat.div_div_eq_div_mul, Nat.div_add_mod']

/-- An open sequence that the last octets of a code point complete. -/
structure Sequence.Expects (s : Sequence) (count n : Nat) : Prop where
  remaining : s.remaining = count + 1
  bits : s.bits = n / 0x40 ^ (count + 1)
  lowest : s.lowest ≤ 0x80 + n / 0x40 ^ count % 0x40
  highest : 0x80 + n / 0x40 ^ count % 0x40 ≤ s.highest

/-- Behind its first octet, a sequence takes any six bits. -/
theorem Sequence.Expects.next (n count : Nat) :
    Sequence.Expects ⟨n / 0x40 ^ (count + 1), count + 1, 0x80, 0xbf⟩ count n :=
  ⟨rfl, rfl, by simp, by simp; omega⟩

/-- The octets that begin a sequence, by its length. -/
theorem start_eq_sequence_iff (octet : Nat) (s : Sequence) :
    start octet = .sequence s ↔
      (0xc2 ≤ octet ∧ octet < 0xe0 ∧ s = ⟨octet - 0xc0, 1, 0x80, 0xbf⟩) ∨
      (0xe0 ≤ octet ∧ octet < 0xf0 ∧ s = ⟨octet - 0xe0, 2, if octet = 0xe0 then 0xa0 else 0x80,
        if octet = 0xed then 0x9f else 0xbf⟩) ∨
      (0xf0 ≤ octet ∧ octet < 0xf5 ∧ s = ⟨octet - 0xf0, 3, if octet = 0xf0 then 0x90 else 0x80,
        if octet = 0xf4 then 0x8f else 0xbf⟩) := by
  unfold start
  grind

/-- A character is one octet, or its first octet begins a sequence that the others complete. -/
theorem octets_cases (c : Char) :
    (octets c = [c.toNat] ∧ start c.toNat = .char c) ∨
      ∃ first count s, octets c = first :: lastOctets (count + 1) c.toNat ∧
        start first = .sequence s ∧ s.Expects count c.toNat := by
  have hvalid := toNat_valid c
  have hchar : Char.ofNat c.toNat = c := c.ofNat_toNat
  rw [octets_eq_octetsOf, octetsOf]
  generalize c.toNat = n at hvalid hchar
  split_ifs with hone htwo hthree
  · exact .inl ⟨rfl, by rw [start, if_pos (Nat.lt_succ_of_le hone), hchar]⟩
  · refine .inr ⟨0xc0 + n / 0x40, 0, _, rfl,
      (start_eq_sequence_iff _ _).mpr (.inl ⟨by omega, by omega, rfl⟩), ?_⟩
    exact ⟨rfl, by simp, by simp, by simp; omega⟩
  · refine .inr ⟨0xe0 + n / 0x1000, 1, _, rfl,
      (start_eq_sequence_iff _ _).mpr (.inr (.inl ⟨by omega, by omega, rfl⟩)), ?_⟩
    exact ⟨rfl, by simp, by simp only; split_ifs <;> omega, by simp only; split_ifs <;> omega⟩
  · refine .inr ⟨0xf0 + n / 0x40000, 2, _, rfl,
      (start_eq_sequence_iff _ _).mpr (.inr (.inr ⟨by omega, by omega, rfl⟩)), ?_⟩
    exact ⟨rfl, by simp, by simp only; split_ifs <;> omega, by simp only; split_ifs <;> omega⟩

/-! ## Reading what was encoded -/

theorem decodeFrom_lastOctets
    {s : Sequence} {count n : Nat} (hexpects : s.Expects count n) (rest : List Nat) :
    decodeFrom (some s) (lastOctets (count + 1) n ++ rest) =
      some (Char.ofNat n) :: decodeFrom none rest := by
  induction count generalizing s with
  | zero =>
      have hall : s.bits * 64 + n / 0x40 ^ 0 % 64 = n := by
        rw [hexpects.bits, div_mul_add_mod, Nat.pow_zero, Nat.div_one]
      rw [lastOctets, List.cons_append, decodeFrom, if_pos ⟨hexpects.lowest, hexpects.highest⟩]
      simp only [hexpects.remaining, Nat.add_sub_cancel_left, hall]
      rfl
  | succ count ih =>
      rw [lastOctets, List.cons_append, decodeFrom, if_pos ⟨hexpects.lowest, hexpects.highest⟩]
      simp only [hexpects.remaining, hexpects.bits, Nat.add_sub_cancel_left, div_mul_add_mod]
      rw [if_neg (by omega)]
      exact ih (.next n count)

theorem decodeFrom_octets (c : Char) (rest : List Nat) :
    decodeFrom none (octets c ++ rest) = some c :: decodeFrom none rest := by
  rcases octets_cases c with ⟨hoctets, hstart⟩ | ⟨first, count, s, hoctets, hstart, hexpects⟩
  · rw [hoctets, List.singleton_append, decodeFrom, hstart]
  · rw [hoctets, List.cons_append, decodeFrom, hstart]
    exact (decodeFrom_lastOctets hexpects rest).trans (by rw [c.ofNat_toNat])

theorem decodeFrom_encode (text : List Char) :
    decodeFrom none (encode text) = text.map some := by
  induction text with
  | nil => rfl
  | cons c text ih => rw [encode_cons, decodeFrom_octets, ih, List.map_cons]

/-! ## Encoding what was read -/

/-- An open sequence behind the octets that began it.  They and the last octets that it takes
are a character. -/
structure Sequence.Begun (s : Sequence) (front : List Nat) : Prop where
  remaining : 0 < s.remaining
  bounds : 0x80 ≤ s.lowest ∧ s.highest ≤ 0xbf
  completed : ∀ count n, s.Expects count n →
    octets (Char.ofNat n) = front ++ lastOctets (count + 1) n

theorem begun_of_start {octet : Nat} {s : Sequence} (hstart : start octet = .sequence s) :
    s.Begun [octet] := by
  -- The bounds on the second octet are what makes the code point a valid one of its length.
  rcases (start_eq_sequence_iff octet s).mp hstart with
    ⟨hlow, hhigh, rfl⟩ | ⟨hlow, hhigh, rfl⟩ | ⟨hlow, hhigh, rfl⟩
  · refine ⟨Nat.one_pos, ⟨Nat.le_refl _, Nat.le_refl _⟩, ?_⟩
    rintro count n ⟨hremaining, hbits, -, -⟩
    obtain rfl : count = 0 := by simpa using hremaining.symm
    simp only at hbits
    have hfirst : 0xc0 + n / 0x40 = octet := by omega
    rw [octets_ofNat (.inl (by omega)), octetsOf, if_neg (by omega), if_pos (by omega), hfirst]
    rfl
  · refine ⟨Nat.succ_pos _, ?_, ?_⟩
    · constructor <;> simp only <;> split_ifs <;> decide
    · rintro count n ⟨hremaining, hbits, hlowest, hhighest⟩
      obtain rfl : count = 1 := by simpa using hremaining.symm
      simp only at hbits hlowest hhighest
      have hfirst : 0xe0 + n / 0x1000 = octet := by omega
      have hlength : ¬ n ≤ 0x7ff := by split_ifs at hlowest <;> omega
      have hvalid : n.isValidChar := by
        unfold Nat.isValidChar
        split_ifs at hhighest <;> omega
      rw [octets_ofNat hvalid, octetsOf, if_neg (by omega), if_neg hlength, if_pos (by omega),
        hfirst]
      rfl
  · refine ⟨Nat.succ_pos _, ?_, ?_⟩
    · constructor <;> simp only <;> split_ifs <;> decide
    · rintro count n ⟨hremaining, hbits, hlowest, hhighest⟩
      obtain rfl : count = 2 := by simpa using hremaining.symm
      simp only at hbits hlowest hhighest
      have hfirst : 0xf0 + n / 0x40000 = octet := by omega
      have hlength : ¬ n ≤ 0xffff := by split_ifs at hlowest <;> omega
      have hvalid : n.isValidChar := by
        unfold Nat.isValidChar
        split_ifs at hhighest <;> omega
      rw [octets_ofNat hvalid, octetsOf, if_neg (by omega), if_neg (by omega), if_neg hlength,
        hfirst]
      rfl

theorem Sequence.Begun.more
    {s : Sequence} {front : List Nat} {octet : Nat} (hbegun : s.Begun front)
    (hremaining : 1 < s.remaining) (hoctet : s.lowest ≤ octet ∧ octet ≤ s.highest) :
    Sequence.Begun ⟨s.bits * 64 + (octet - 0x80), s.remaining - 1, 0x80, 0xbf⟩
      (front ++ [octet]) := by
  obtain ⟨-, ⟨hlow, hhigh⟩, hcompleted⟩ := hbegun
  refine ⟨Nat.sub_pos_of_lt hremaining, ⟨Nat.le_refl _, Nat.le_refl _⟩, ?_⟩
  rintro count n ⟨hcount, hbits, -, -⟩
  simp only at hcount hbits
  have hsplit := div_mul_add_mod n (count + 1)
  have hnext : 0x80 + n / 0x40 ^ (count + 1) % 0x40 = octet := by omega
  have hexpects : s.Expects (count + 1) n := ⟨by omega, by omega, by omega, by omega⟩
  rw [hcompleted (count + 1) n hexpects, lastOctets, hnext, List.append_assoc,
    List.singleton_append]

theorem Sequence.Begun.last
    {s : Sequence} {front : List Nat} {octet : Nat} (hbegun : s.Begun front)
    (hremaining : s.remaining ≤ 1) (hoctet : s.lowest ≤ octet ∧ octet ≤ s.highest) :
    octets (Char.ofNat (s.bits * 64 + (octet - 0x80))) = front ++ [octet] := by
  obtain ⟨hpositive, ⟨hlow, hhigh⟩, hcompleted⟩ := hbegun
  have hnext : 0x80 + (s.bits * 64 + (octet - 0x80)) / 0x40 ^ 0 % 0x40 = octet := by omega
  have hexpects : s.Expects 0 (s.bits * 64 + (octet - 0x80)) :=
    ⟨by omega, by omega, by omega, by omega⟩
  rw [hcompleted 0 _ hexpects, lastOctets, hnext, lastOctets]

theorem octets_of_start {octet : Nat} {c : Char} (hstart : start octet = .char c) :
    octets c = [octet] := by
  unfold start at hstart
  split_ifs at hstart with hone
  obtain rfl := Start.char.inj hstart
  rw [octets_ofNat (.inl (by omega)), octetsOf, if_pos (Nat.le_of_lt_succ hone)]

/-- The octets that have been taken off without a character to show for them. -/
def Pending : Option Sequence → List Nat → Prop
  | none, front => front = []
  | some s, front => s.Begun front

/-- What was read without a flaw encodes to the octets. -/
theorem eq_encode_of_decodeFrom
    {state : Option Sequence} {front rest : List Nat} {text : List Char}
    (hpending : Pending state front) (hread : decodeFrom state rest = text.map some) :
    front ++ rest = encode text := by
  -- An open sequence is either continued, completed, or given up with a flaw.
  fun_induction decodeFrom state rest generalizing front text with
  | case1 =>
      obtain rfl := List.map_eq_nil_iff.mp hread.symm
      rw [show front = [] from hpending, List.nil_append, encode_nil]
  | case3 octet rest c hstart ih =>
      obtain ⟨d, text, rfl, hd, hrest⟩ := List.map_eq_cons_iff.mp hread.symm
      have hfront : front = [] := hpending
      rw [hfront, Option.some.inj hd, encode_cons, octets_of_start hstart, ← ih rfl hrest.symm]
      rfl
  | case4 octet rest s hstart ih =>
      have hfront : front = [] := hpending
      rw [hfront]
      exact ih (begun_of_start hstart) hread
  | case6 s octet rest hoctet _ hlast =>
      rename_i ih
      obtain ⟨d, text, rfl, hd, hrest⟩ := List.map_eq_cons_iff.mp hread.symm
      rw [encode_cons, Option.some.inj hd, Sequence.Begun.last hpending hlast hoctet,
        ← ih rfl hrest.symm, List.nil_append, List.append_assoc, List.singleton_append]
  | case7 s octet rest hoctet _ hmore =>
      rename_i ih
      have hnext := Sequence.Begun.more hpending (Nat.lt_of_not_le hmore) hoctet
      rw [← ih hnext hread, List.append_assoc, List.singleton_append]
  | case2 | case5 | case8 | case9 | case10 => cases text <;> simp at hread

/-! ## Texts and octets -/

theorem decodeLossy_encode (text : List Char) : decodeLossy (encode text) = text := by
  rw [decodeLossy, decodeFrom_encode, List.map_map]
  exact List.map_id text

theorem mapM_id_eq_some_iff {α : Type} {list : List (Option α)} {result : List α} :
    list.mapM id = some result ↔ list = result.map some := by
  induction list generalizing result with
  | nil => cases result <;> simp
  | cons first rest ih =>
      cases first with
      | none => cases result <;> simp
      | some a => cases result <;> simp [Option.bind_eq_some_iff, ih, and_assoc, and_comm]

/-- Octets are read as a text exactly if they encode it. -/
theorem decode?_eq_some_iff {octets : List Nat} {text : List Char} :
    decode? octets = some text ↔ encode text = octets := by
  rw [decode?, mapM_id_eq_some_iff]
  constructor
  · intro hread
    have hpending : Pending none [] := rfl
    exact (eq_encode_of_decodeFrom hpending hread).symm
  · rintro rfl
    exact decodeFrom_encode text

@[simp]
theorem decode?_encode (text : List Char) : decode? (encode text) = some text :=
  decode?_eq_some_iff.mpr rfl

theorem decode?_eq_none_iff {octets : List Nat} :
    decode? octets = none ↔ ∀ text, encode text ≠ octets := by
  simp only [Option.eq_none_iff_forall_ne_some, ne_eq, decode?_eq_some_iff]

end Shorthand.Utf8
