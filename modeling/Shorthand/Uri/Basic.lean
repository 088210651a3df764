import Shorthand.Text.Blank
import Shorthand.Text.Percent
import Shorthand.Text.Quoted
import Shorthand.Uri.Host

/-!
# URIs

A URI is cut into a scheme, an authority and a path; a query and a fragment are
left aside.
-/

namespace Shorthand.Uri

/-- Why a text is no URI. -/
inductive Error
  /-- A square bracket of the authority has no partner. -/
  | unbalancedBrackets
  /-- The brackets hold an address of version four. -/
  | version4
  /-- The brackets hold no address of the later version that they claim. -/
  | laterVersion
  /-- The brackets hold no address. -/
  | noAddress (text : List Char)
  /-- The authority has a character that is equivalent to a sign of the syntax. -/
  | disguisedSign (authority : List Char)
  deriving DecidableEq, Repr

def Error.message : Error → List Char
  | .unbalancedBrackets => "Invalid IPv6 URL".toList
  | .version4 => "An IPv4 address cannot be in brackets".toList
  | .laterVersion => "IPvFuture address is invalid".toList
  | .noAddress text => quoted text ++ " does not appear to be an IPv4 or IPv6 address".toList
  | .disguisedSign authority =>
    "netloc '".toList ++ authority ++
      "' contains invalid characters under NFKC normalization".toList

/-- The characters with an equivalent that holds a sign of the syntax. -/
def disguises : List Char :=
  ['\u2047', '\u2048', '\u2049', '\u2100', '\u2101', '\u2105', '\u2106', '\u2a74', '\ufe13',
    '\ufe16', '\ufe55', '\ufe56', '\ufe5f', '\ufe6b', '\uff03', '\uff0f', '\uff1a', '\uff1f',
    '\uff20']

def isSchemeChar (c : Char) : Bool := c.isAlphanum || c == '+' || c == '-' || c == '.'

/-- The scheme in lower case, empty if there is none, and what follows. -/
def takeScheme (text : List Char) : List Char × List Char :=
  match cutAt? ':' text with
  | some (scheme, rest) =>
    if (scheme.head?.map Char.isAlpha).getD false && scheme.all isSchemeChar then
      (scheme.map Char.toLower, rest)
    else ([], text)
  | none => ([], text)

def endsAuthority (c : Char) : Bool := c == '/' || c == '?' || c == '#'

/-- The authority, empty if there is none, and what follows. -/
def takeAuthority : List Char → List Char × List Char
  | '/' :: '/' :: rest =>
    (rest.takeWhile (!endsAuthority ·), rest.dropWhile (!endsAuthority ·))
  | text => ([], text)

/-- Checks the brackets of an authority and what they hold. -/
def checkBrackets (authority : List Char) : Except Error Unit :=
  if authority.contains '[' != authority.contains ']' then .error .unbalancedBrackets
  else
    match cutAt? '[' authority with
    | none => .ok ()
    | some (_, inner) =>
      let host := inner.takeWhile (· != ']')
      if host.head? == some 'v' then
        if isLaterVersion host then .ok () else .error .laterVersion
      else if isVersion4 host then .error .version4
      else if isVersion6 host then .ok ()
      else .error (.noAddress host)

/-- The parts of a URI that say where a file lies. -/
structure Parts where
  scheme : List Char
  path : List Char
  deriving DecidableEq, Repr

/-- The parts of a URI.  Controls and blanks in front, tabs and line ends anywhere
do not belong to it. -/
def Parts.of (text : List Char) : Except Error Parts := do
  let text := (text.dropWhile (·.toNat ≤ 0x20)).filter fun c =>
    !(c == '\t' || c == '\r' || c == '\n')
  let (scheme, rest) := takeScheme text
  let (authority, rest) := takeAuthority rest
  checkBrackets authority
  if authority.any disguises.contains then throw (.disguisedSign authority)
  return ⟨scheme, rest.takeWhile fun c => c != '#' && c != '?'⟩

/-- The file that a URI names.  A URI of another scheme than `file` is a path itself. -/
def filePath (text : List Char) : Except Error (List Char) := do
  let parts ← Parts.of text
  return if parts.scheme == "file".toList then Percent.decode parts.path else text

end Shorthand.Uri
