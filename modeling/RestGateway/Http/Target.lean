import RestGateway.Text.Ascii
import RestGateway.Text.Split
import RestGateway.Text.Utf8

/-!
# Request targets

What stands between the method and the version of a request: a path with a query, a whole URL, the
address of a host, or an asterisk. Most bytes are taken as they are; only those that no client sends
are refused.
-/

set_option autoImplicit false

namespace RestGateway.Http

/-- The path as it was written, and the query. A target without a path has an empty one. -/
structure Target where
  path : List Char
  query : List Char
  deriving DecidableEq, Repr

namespace Target

def isPathChar (c : Char) : Bool :=
  0x21 ≤ c.toNat && !(['#', '<', '>', '?', '`'].contains c)

def isQueryChar (c : Char) : Bool :=
  0x21 ≤ c.toNat && !(['"', '#', '<', '>'].contains c)

def isSchemeChar (c : Char) : Bool :=
  c.isAlphanum || c == '+' || c == '-' || c == '.'

def isAuthorityChar (c : Char) : Bool :=
  c.isAlphanum || ['!', '$', '&', '\'', '(', ')', '*', '+', ',', '-', '.', ':', ';', '=', '@', '[',
    ']', '_', '~'].contains c

/-- A path with what follows it; a fragment is dropped. An empty path is the root. -/
def ofPath? (cs : List Char) : Option Target :=
  let path := cs.takeWhile fun c => c != '?' && c != '#'
  let query := match cs.dropWhile fun c => c != '?' && c != '#' with
    | '?' :: rest => rest.takeWhile (· != '#')
    | _ => []
  if path.all isPathChar && query.all isQueryChar then
    some ⟨if path.isEmpty then ['/'] else path, query⟩
  else none

structure Seen where
  colons : Nat
  opened : Bool
  closed : Bool
  percent : Bool
  last : Option Char

def Seen.step? (s : Seen) (c : Char) : Option Seen :=
  let s := { s with last := some c }
  if c = ':' then if 8 ≤ s.colons then none else some { s with colons := s.colons + 1 }
  else if c = '[' then if s.percent || s.opened then none else some { s with opened := true }
  else if c = ']' then
    if !s.opened || s.closed then none
    else some { s with closed := true, colons := 0, percent := false }
  else if c = '@' then some { s with colons := 0, percent := false }
  else if c = '%' then some { s with percent := true }
  else if isAuthorityChar c then some s
  else none

/-- User and host: brackets in pairs, one colon at most outside them, and a host after an `@`. -/
def isAuthority (cs : List Char) : Bool :=
  match cs.foldlM Seen.step? ⟨0, false, false, false, none⟩ with
  | some s => s.opened == s.closed && s.colons ≤ 1 && s.last != some '@' && !s.percent
  | none => false

def isAuthorityEnd (c : Char) : Bool := c == '/' || c == '?' || c == '#'

def afterScheme? (cs : List Char) : Option (Option (List Char)) :=
  match cs.dropWhile isSchemeChar with
  | ':' :: '/' :: '/' :: rest =>
    if 64 < cs.length - rest.length - 3 then none else some (some rest)
  | _ => some none

def maximum : Nat := 65534

def parse? (text : String) : Option Target :=
  let cs := text.toList
  if maximum < (Utf8.bytes text).length then none
  else
    match cs with
    | [] => none
    | ['*'] => some ⟨['*'], []⟩
    | '/' :: _ => ofPath? cs
    | _ =>
      match afterScheme? cs with
      | none => none
      | some none => if isAuthority cs then some ⟨[], []⟩ else none
      | some (some rest) =>
        let authority := rest.takeWhile fun c => !isAuthorityEnd c
        if authority.isEmpty || !isAuthority authority then none
        else ofPath? (rest.dropWhile fun c => !isAuthorityEnd c)

end Target

end RestGateway.Http
