import Shorthand.Text.Split

/-!
# Hosts in brackets

Square brackets in a URI hold an address of version six or of a later one.
-/

namespace Shorthand.Uri

/-- Whether a text is a number of an address of version four. -/
def isOctet (text : List Char) : Bool :=
  !text.isEmpty && text.all Char.isDigit && text.length ≤ 3 &&
    (text == ['0'] || text.head? != some '0') &&
    text.foldl (fun n c => n * 10 + (c.toNat - '0'.toNat)) 0 ≤ 255

def isVersion4 (text : List Char) : Bool :=
  let octets := splitAt '.' text
  octets.length == 4 && octets.all isOctet

def isHexDigit (c : Char) : Bool :=
  c.isDigit || ('a' ≤ c && c ≤ 'f') || ('A' ≤ c && c ≤ 'F')

/-- Whether a text is a group of an address of version six. -/
def isGroup (text : List Char) : Bool :=
  !text.isEmpty && text.all isHexDigit && text.length ≤ 4

/-- The groups of an address of version six.  An address of version four at the
end stands for two of them. -/
def groups? (text : List Char) : Option (List (List Char)) :=
  let parts := splitAt ':' text
  if parts.length < 3 then none
  else
    match parts.getLast? with
    | some last =>
      if !last.contains '.' then some parts
      else if isVersion4 last then some (parts.dropLast ++ [['0'], ['0']])
      else none
    | none => none

/-- Whether groups form an address: eight of them, or fewer around one gap.  At an
end of the address the gap takes up an empty group more. -/
def isAddress (groups : List (List Char)) : Bool :=
  let inner := (groups.drop 1).dropLast
  let gaps := (inner.filter List.isEmpty).length
  if groups.length > 9 || gaps > 1 then false
  else if gaps = 0 then groups.length == 8 && groups.all isGroup
  else
    let high := groups.takeWhile (!·.isEmpty)
    let startsOpen := (groups.head?.map List.isEmpty).getD false
    let endsOpen := (groups.getLast?.map List.isEmpty).getD false
    let high := if startsOpen then inner.takeWhile (!·.isEmpty) else high
    let low := (inner.dropWhile (!·.isEmpty)).drop 1 ++
      (if endsOpen then [] else groups.getLast?.toList)
    (!startsOpen || high.isEmpty) && (!endsOpen || low.isEmpty) &&
      high.length + low.length ≤ 7 && high.all isGroup && low.all isGroup

/-- Whether a text is an address of version six, perhaps with a zone. -/
def isVersion6 (text : List Char) : Bool :=
  let address :=
    match cutAt? '%' text with
    | none => some text
    | some (address, zone) =>
      if zone.isEmpty || zone.contains '%' then none else some address
  match address.bind groups? with
  | some groups => isAddress groups
  | none => false

/-- Whether a text is an address of a later version. -/
def isLaterVersion (text : List Char) : Bool :=
  match text with
  | 'v' :: rest =>
    match cutAt? '.' rest with
    | some (version, address) =>
      !version.isEmpty && version.all isHexDigit && !address.isEmpty
    | none => false
  | _ => false

end Shorthand.Uri
