import Shorthand.Proofs.Text.Utf8
import Shorthand.Text.Percent

/-!
# Escaped paths

A path may be written in a URI in many ways: some characters have to be escaped, slashes must
not be, and all others may be, each digit of an escape in either case.  Every path can be
written so, and decoding undoes each of these ways.
-/

namespace Shorthand.Percent

/-! ## Escapes -/

def lowerDigits : List Char := "0123456789abcdef".toList

def upperDigits : List Char := "0123456789ABCDEF".toList

/-- Whether a character writes a number below sixteen, in either case. -/
def IsDigit (c : Char) (value : Nat) : Prop :=
  lowerDigits[value]? = some c ∨ upperDigits[value]? = some c

/-- The escapes of octets, one behind another. -/
inductive Escapes : List Nat → List Char → Prop
  | nil : Escapes [] []
  | cons {octet : Nat} {octets : List Nat} {high low : Char} {text : List Char} :
      IsDigit high (octet / 16) → IsDigit low (octet % 16) → Escapes octets text →
        Escapes (octet :: octets) ('%' :: high :: low :: text)

/-- Whether a character has to be escaped in the path of a URI: one outside of ASCII, a
control, a blank, or a sign of the syntax.  The delete character may as well stand. -/
def mustEscape (c : Char) : Bool :=
  c.toNat ≤ 0x20 || 0x7f < c.toNat || c == '%' || c == '?' || c == '#'

theorem mustEscape_eq_false_iff {c : Char} :
    mustEscape c = false ↔
      0x20 < c.toNat ∧ c.toNat < 0x80 ∧ c ≠ '%' ∧ c ≠ '?' ∧ c ≠ '#' := by
  simp only [mustEscape, Bool.or_eq_false_iff, decide_eq_false_iff_not, beq_eq_false_iff_ne,
    Nat.not_le, Nat.not_lt, Nat.lt_succ_iff, and_assoc]

/-- The ways to write a path in a URI. -/
inductive Encodes : List Char → List Char → Prop
  | nil : Encodes [] []
  | plain {c : Char} {path text : List Char} :
      mustEscape c = false → Encodes path text → Encodes (c :: path) (c :: text)
  | escaped {c : Char} {path front text : List Char} :
      c ≠ '/' → Escapes (Utf8.octets c) front → Encodes path text →
        Encodes (c :: path) (front ++ text)

theorem hexValue?_of_getElem?
    {digits : List Char} (hvalues : digits.map hexValue? = (List.range 16).map some)
    {c : Char} {value : Nat} (hc : digits[value]? = some c) : hexValue? c = some value := by
  have hsame : (digits.map hexValue?)[value]? = ((List.range 16).map some)[value]? := by
    rw [hvalues]
  rw [List.getElem?_map, List.getElem?_map, hc, Option.map_some, eq_comm,
    Option.map_eq_some_iff] at hsame
  obtain ⟨_, hrange, hvalue⟩ := hsame
  obtain ⟨_, rfl⟩ := List.getElem?_eq_some_iff.mp hrange
  rw [← hvalue, List.getElem_range]

theorem hexValue?_of_isDigit {c : Char} {value : Nat} (hdigit : IsDigit c value) :
    hexValue? c = some value := by
  rcases hdigit with hlower | hupper
  · exact hexValue?_of_getElem? (by decide) hlower
  · exact hexValue?_of_getElem? (by decide) hupper

theorem mustEscape_of_isDigit {c : Char} {value : Nat} (hdigit : IsDigit c value) :
    mustEscape c = false := by
  have hdigits : (lowerDigits ++ upperDigits).all (!mustEscape ·) = true := by decide
  have hc : c ∈ lowerDigits ++ upperDigits := by
    rcases hdigit with hlower | hupper
    · exact List.mem_append_left _ (List.mem_of_getElem? hlower)
    · exact List.mem_append_right _ (List.mem_of_getElem? hupper)
  simpa using List.all_eq_true.mp hdigits c hc

theorem exists_isDigit {value : Nat} (hvalue : value < 16) : ∃ c, IsDigit c value :=
  ⟨lowerDigits[value], .inl (List.getElem?_eq_getElem _)⟩

/-! ## Every path can be written -/

theorem exists_escapes {octets : List Nat} (hoctets : ∀ octet ∈ octets, octet < 0x100) :
    ∃ text, Escapes octets text := by
  induction octets with
  | nil => exact ⟨[], .nil⟩
  | cons octet rest ih =>
      rw [List.forall_mem_cons] at hoctets
      obtain ⟨text, htext⟩ := ih hoctets.2
      obtain ⟨high, hhigh⟩ : ∃ c, IsDigit c (octet / 16) := exists_isDigit (by omega)
      obtain ⟨low, hlow⟩ : ∃ c, IsDigit c (octet % 16) := exists_isDigit (by omega)
      exact ⟨_, .cons hhigh hlow htext⟩

theorem exists_encodes (path : List Char) : ∃ text, Encodes path text := by
  induction path with
  | nil => exact ⟨[], .nil⟩
  | cons c path ih =>
      obtain ⟨text, htext⟩ := ih
      cases hc : mustEscape c with
      | false => exact ⟨c :: text, .plain hc htext⟩
      | true =>
          have hslash : c ≠ '/' := by
            rintro rfl
            exact absurd hc (by decide)
          obtain ⟨front, hfront⟩ : ∃ front, Escapes (Utf8.octets c) front :=
            exists_escapes fun _ => Utf8.lt_of_mem_octets
          exact ⟨front ++ text, .escaped hslash hfront htext⟩

/-! ## Decoding -/

theorem symbols_cons_of_ne {c : Char} (hc : c ≠ '%') (text : List Char) :
    symbols (c :: text) = plain c :: symbols text := by
  apply symbols.eq_3
  rintro _ _ _ rfl
  exact absurd rfl hc

theorem symbols_escapes
    {octets : List Nat} {front : List Char} (hfront : Escapes octets front) (text : List Char) :
    symbols (front ++ text) = octets.map .octet ++ symbols text := by
  induction hfront with
  | nil => rfl
  | @cons octet octets high low rest hhigh hlow _ ih =>
      have hoctet : octet / 16 * 16 + octet % 16 = octet := Nat.div_add_mod' octet 16
      simp only [List.cons_append, symbols, hexValue?_of_isDigit hhigh,
        hexValue?_of_isDigit hlow, ih, hoctet, List.map_cons]

theorem symbols_of_encodes {path text : List Char} (hencodes : Encodes path text) :
    symbols text = (Utf8.encode path).map .octet := by
  induction hencodes with
  | nil => rfl
  | @plain c path text hc _ ih =>
      obtain ⟨-, hascii, hsign, -⟩ := mustEscape_eq_false_iff.mp hc
      rw [symbols_cons_of_ne hsign, ih, plain, if_pos hascii, Utf8.encode_cons,
        Utf8.octets_of_ascii hascii]
      rfl
  | escaped _ hfront _ ih =>
      rw [symbols_escapes hfront, ih, Utf8.encode_cons, List.map_append]

theorem assemble_octets (front octets : List Nat) :
    assemble front (octets.map .octet) = Utf8.decodeLossy (front ++ octets) := by
  induction octets generalizing front with
  | nil => rw [List.map_nil, assemble, List.append_nil]
  | cons octet rest ih =>
      rw [List.map_cons, assemble, ih, List.append_assoc, List.singleton_append]

/-- Decoding undoes every way to write a path. -/
theorem decode_of_encodes {path text : List Char} (hencodes : Encodes path text) :
    decode text = path := by
  rw [decode, symbols_of_encodes hencodes, assemble_octets, List.nil_append,
    Utf8.decodeLossy_encode]

/-! ## What an encoding looks like -/

theorem mustEscape_of_mem_escapes
    {octets : List Nat} {text : List Char} (hescapes : Escapes octets text) :
    ∀ c ∈ text, c = '%' ∨ mustEscape c = false := by
  induction hescapes with
  | nil => simp
  | cons hhigh hlow _ ih =>
      intro c hc
      simp only [List.mem_cons] at hc
      rcases hc with rfl | rfl | rfl | hrest
      · exact .inl rfl
      · exact .inr (mustEscape_of_isDigit hhigh)
      · exact .inr (mustEscape_of_isDigit hlow)
      · exact ih c hrest

/-- But for the signs of its escapes, an encoding has no character that must be escaped. -/
theorem mustEscape_of_mem_encodes
    {path text : List Char} (hencodes : Encodes path text) :
    ∀ c ∈ text, c = '%' ∨ mustEscape c = false := by
  induction hencodes with
  | nil => simp
  | plain hc _ ih => exact List.forall_mem_cons.mpr ⟨.inr hc, ih⟩
  | escaped _ hfront _ ih =>
      exact List.forall_mem_append.mpr ⟨mustEscape_of_mem_escapes hfront, ih⟩

theorem exists_of_encodes_slash {path text : List Char} (hencodes : Encodes ('/' :: path) text) :
    ∃ rest, text = '/' :: rest := by
  cases hencodes with
  | plain _ _ => exact ⟨_, rfl⟩
  | escaped hslash _ _ => exact absurd rfl hslash

end Shorthand.Percent
