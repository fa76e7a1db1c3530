import RestGateway.Url.Address
import RestGateway.Url.Domain
import RestGateway.Url.Path

/-!
# URLs

Absolute URLs as the URL standard reads and writes them, for schemes that are not `file`. The schemes
`http` and `https` are special: they always have a host and a path, backslashes count as slashes, and
their default port is not written.
-/

set_option autoImplicit false

namespace RestGateway

inductive Host where
  /-- A domain, or the text of a host that is not read further. -/
  | name (text : List Char)
  | ipv4 (n : Nat)
  | ipv6 (pieces : List Nat)
  deriving DecidableEq, Repr

structure Url where
  scheme : List Char
  username : List Char
  password : List Char
  host : Option Host
  port : Option Nat
  path : Url.Path
  query : Option (List Char)
  fragment : Option (List Char)
  deriving DecidableEq, Repr

namespace Host

def chars : Host → List Char
  | .name text => text
  | .ipv4 n => Url.ipv4Text n
  | .ipv6 pieces => '[' :: Url.ipv6Text pieces ++ [']']

def bracketed? (text : List Char) : Option (List Char) :=
  match text with
  | '[' :: rest => some rest
  | _ => none

def parseIpv6 (rest : List Char) : Option Host :=
  if rest.getLast? = some ']' then (Url.ipv6? rest.dropLast).map .ipv6 else none

/-- The host of a special URL: an address or a domain, never empty. -/
def parseSpecial (text : List Char) : Option Host :=
  match bracketed? text with
  | some rest => parseIpv6 rest
  | none => do
    let decoded := (Utf8.lossy (Percent.decode (Utf8.encode text))).toList
    let domain ← Url.toAscii? decoded
    if domain.isEmpty then none
    else if Url.endsInNumber domain then (Url.ipv4? domain).map .ipv4
    else some (.name domain)

def isRefused (c : Char) : Bool :=
  ['\x00', '\t', '\n', '\r', ' ', '#', '/', ':', '<', '>', '?', '@', '[', '\\', ']', '^',
    '|'].contains c

def parseOther (text : List Char) : Option Host :=
  match bracketed? text with
  | some rest => parseIpv6 rest
  | none =>
    if text.any isRefused then none else some (.name (Percent.encode Percent.inControls text))

end Host

namespace Url

def isSpecialScheme (scheme : List Char) : Bool :=
  scheme == "http".toList || scheme == "https".toList

def defaultPort (scheme : List Char) : Option Nat :=
  if scheme = "http".toList then some 80
  else if scheme = "https".toList then some 443
  else none

def isSpecial (u : Url) : Bool := isSpecialScheme u.scheme

def userInfo (u : Url) : List Char :=
  if u.username.isEmpty ∧ u.password.isEmpty then []
  else u.username ++ (if u.password.isEmpty then [] else ':' :: u.password) ++ ['@']

def authority (u : Url) : List Char :=
  match u.host with
  | none => []
  | some h =>
    '/' :: '/' :: u.userInfo ++ h.chars ++
      match u.port with
      | some p => ':' :: Nat.toDigits 10 p
      | none => []

/-- Without a host, a path that begins with two slashes is kept apart from a host by a dot. -/
def pathMark (u : Url) : List Char :=
  match u.host, u.path with
  | none, .segments ([] :: _ :: _) => ['/', '.']
  | _, _ => []

def part (mark : Char) : Option (List Char) → List Char
  | some text => mark :: text
  | none => []

def chars (u : Url) : List Char :=
  u.scheme ++ ':' :: u.authority ++ u.pathMark ++ u.path.chars ++ part '?' u.query ++
    part '#' u.fragment

def text (u : Url) : String := String.ofList u.chars

def isSchemeChar (c : Char) : Bool :=
  c.isAlphanum || c == '+' || c == '-' || c == '.'

def scheme? (input : List Char) : Option (List Char × List Char) :=
  match input.takeWhile isSchemeChar, input.dropWhile isSchemeChar with
  | c :: cs, ':' :: rest => if c.isAlpha then some (Ascii.lower (c :: cs), rest) else none
  | _, _ => none

def trimmed (input : List Char) : List Char :=
  let isEdge (c : Char) : Bool := c.toNat ≤ 0x20
  let inner := ((input.dropWhile isEdge).reverse.dropWhile isEdge).reverse
  inner.filter fun c => c != '\t' && c != '\n' && c != '\r'

def cut (mark : Char) (cs : List Char) : List Char × Option (List Char) :=
  match Text.splitOnce? mark cs with
  | some (before, after) => (before, some after)
  | none => (cs, none)

def splitUser (authority : List Char) : Option (List Char) × List Char :=
  let host := (authority.reverse.takeWhile (· != '@')).reverse
  if host.length < authority.length then
    (some (authority.take (authority.length - host.length - 1)), host)
  else (none, host)

/-- The host's text ends at the first colon outside brackets. -/
def hostText : Bool → List Char → List Char
  | _, [] => []
  | inside, c :: rest =>
    if c = ':' ∧ !inside then []
    else c :: hostText (if c = '[' then true else if c = ']' then false else inside) rest

/-- A port: `some none` where none is written or the default one is. -/
def port? (scheme : List Char) (digits : List Char) : Option (Option Nat) :=
  if digits.isEmpty then some none
  else if digits.all Ascii.isDigit then
    let n := Ascii.ofDigits 0 digits
    if 65535 < n then none
    else if defaultPort scheme = some n then some none
    else some (some n)
  else none

structure Authority where
  username : List Char
  password : List Char
  host : Host
  port : Option Nat

def authority? (scheme : List Char) (text : List Char) : Option Authority := do
  let special := isSpecialScheme scheme
  let (user, rest) := splitUser text
  let (username, password) := cut ':' (user.getD [])
  let encoded (cs : List Char) := Percent.encode Percent.inUserInfo cs
  let name := hostText false rest
  let afterName := rest.drop name.length
  let host ← if special then (if name.isEmpty then none else Host.parseSpecial name)
    else Host.parseOther name
  if host = .name [] ∧ (user.isSome ∨ !afterName.isEmpty) then none
  else
    let port ← port? scheme (afterName.drop 1)
    some ⟨encoded username, encoded (password.getD []), host, port⟩

def afterScheme? (scheme rest : List Char) (query fragment : Option (List Char)) : Option Url :=
  let special := isSpecialScheme scheme
  let withAuthority (text : List Char) : Option Url := do
    let a ← authority? scheme (text.takeWhile fun c => !isSlash special c)
    let path := text.dropWhile fun c => !isSlash special c
    some ⟨scheme, a.username, a.password, some a.host, a.port, .segments (segments special path),
      query, fragment⟩
  if special then withAuthority (rest.dropWhile (isSlash true))
  else
    match rest with
    | '/' :: '/' :: text => withAuthority text
    | '/' :: _ => some ⟨scheme, [], [], none, none, .segments (segments false rest), query, fragment⟩
    | _ =>
      some ⟨scheme, [], [], none, none, .opaqueText (Percent.encode Percent.inControls rest), query,
        fragment⟩

def parse? (input : String) : Option Url := do
  let (scheme, rest) ← scheme? (trimmed input.toList)
  let (beforeFragment, fragment) := cut '#' rest
  let (beforeQuery, query) := cut '?' beforeFragment
  let querySet := if isSpecialScheme scheme then Percent.inSpecialQuery else Percent.inQuery
  afterScheme? scheme beforeQuery (query.map (Percent.encode querySet))
    (fragment.map (Percent.encode Percent.inFragment))

/-- The URL with another path. Tabs and line ends in the path are dropped; where the path has no
structure a slash at its front is percent-encoded, so that the URL keeps its form. -/
def setPath (u : Url) (path : String) : Url :=
  let cs := path.toList.filter fun c => c != '\t' && c != '\n' && c != '\r'
  match u.path with
  | .opaqueText _ =>
    let encodeAll (cs : List Char) :=
      Percent.encode (fun c => Percent.inControls c || c == '?' || c == '#') cs
    { u with path := .opaqueText (match cs with
        | '/' :: rest => "%2F".toList ++ encodeAll rest
        | _ => encodeAll cs) }
  | .segments _ => { u with path := .segments (segments u.isSpecial cs) }

end Url

end RestGateway
