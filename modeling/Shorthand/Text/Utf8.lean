/-!
# UTF-8

Reading octets as characters.  An ill-formed stretch is reported once for each
of its longest beginnings of a well-formed sequence, or once for an octet that
begins none.
-/

namespace Shorthand.Utf8

/-- A sequence that has begun: the bits so far, the octets still to come, and
the bounds of the next one. -/
structure Sequence where
  bits : Nat
  remaining : Nat
  lowest : Nat
  highest : Nat
  deriving DecidableEq, Repr

/-- What an octet begins: a character, a longer sequence, or nothing. -/
inductive Start
  | char (c : Char)
  | sequence (s : Sequence)
  | invalid

/-- What an octet begins.  The bounds on the second octet leave out overlong
forms, surrogates and what lies beyond the last code point. -/
def start (octet : Nat) : Start :=
  if octet < 0x80 then .char (Char.ofNat octet)
  else if octet < 0xc2 then .invalid
  else if octet < 0xe0 then .sequence ⟨octet - 0xc0, 1, 0x80, 0xbf⟩
  else if octet < 0xf0 then
    .sequence ⟨octet - 0xe0, 2, if octet = 0xe0 then 0xa0 else 0x80,
      if octet = 0xed then 0x9f else 0xbf⟩
  else if octet < 0xf5 then
    .sequence ⟨octet - 0xf0, 3, if octet = 0xf0 then 0x90 else 0x80,
      if octet = 0xf4 then 0x8f else 0xbf⟩
  else .invalid

/-- The characters of octets, `none` for each ill-formed stretch, with the
sequence that is open before them. -/
def decodeFrom : Option Sequence → List Nat → List (Option Char)
  | none, [] => []
  | some _, [] => [none]
  | none, octet :: rest =>
    match start octet with
    | .char c => some c :: decodeFrom none rest
    | .sequence s => decodeFrom (some s) rest
    | .invalid => none :: decodeFrom none rest
  | some s, octet :: rest =>
    if s.lowest ≤ octet ∧ octet ≤ s.highest then
      let bits := s.bits * 64 + (octet - 0x80)
      if s.remaining ≤ 1 then some (Char.ofNat bits) :: decodeFrom none rest
      else decodeFrom (some ⟨bits, s.remaining - 1, 0x80, 0xbf⟩) rest
    else
      match start octet with
      | .char c => none :: some c :: decodeFrom none rest
      | .sequence s => none :: decodeFrom (some s) rest
      | .invalid => none :: none :: decodeFrom none rest

/-- The text that octets encode, if they are well-formed. -/
def decode? (octets : List Nat) : Option (List Char) := (decodeFrom none octets).mapM id

/-- The text that octets encode, with a replacement character for each ill-formed stretch. -/
def decodeLossy (octets : List Nat) : List Char :=
  (decodeFrom none octets).map (·.getD '\ufffd')

end Shorthand.Utf8
