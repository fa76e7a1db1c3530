import RestGateway.Backend.Client
import RestGateway.Digest.Blake3

/-!
# Cached clients

At most `capacity` clients are kept, each under the digest of its host, kind, name and secret, so that
secrets are no keys themselves. Each part of what is digested has its length before it, so no two
callers share their material. Which entry a full cache gives up is left open: `choice` is an
arbitrary number.
-/

set_option autoImplicit false

namespace RestGateway

namespace CacheKey

/-- A text with its length in eight bytes before it. -/
def part (s : String) : List UInt8 :=
  let bs := Utf8.bytes s
  Blake3.littleEndian 8 bs.length ++ bs

def kind (c : Credentials) : String := if c.isUser then "user" else "script"

def material (host : String) (c : Credentials) : List UInt8 :=
  part host ++ part (kind c) ++ part c.name ++ part c.secret

def make (host : String) (c : Credentials) : String :=
  String.ofList ((Blake3.hash (material host c)).flatMap fun b => Ascii.digits 16 2 b.toNat)

end CacheKey

structure Cache where
  host : String
  apiPath : String
  capacity : Nat
  entries : List (String × Client)

namespace Cache

/-- An empty cache; it keeps one client at least. -/
def make (host apiPath : String) (limit : Nat) : Cache := ⟨host, apiPath, max limit 1, []⟩

def size (c : Cache) : Nat := c.entries.length

def isEmpty (c : Cache) : Bool := c.entries.isEmpty

def key (c : Cache) (credentials : Credentials) : String := CacheKey.make c.host credentials

def connect (c : Cache) (credentials : Credentials) : Except CallError Client :=
  Client.make c.host c.apiPath credentials

def find? (c : Cache) (key : String) : Option Client := c.entries.lookup key

def remove (c : Cache) (key : String) : Cache :=
  { c with entries := c.entries.filter fun e => e.1 != key }

def insert (c : Cache) (key : String) (client : Client) : Cache :=
  { c with entries := (key, client) :: (c.remove key).entries }

def isFull (c : Cache) : Bool := c.capacity ≤ c.size

def victim? (c : Cache) (choice : Nat) : Option String :=
  (c.entries[choice % c.size]?).map Prod.fst

def makeRoom (c : Cache) (choice : Nat) : Cache :=
  if c.isFull then
    match c.victim? choice with
    | some k => c.remove k
    | none => c
  else c

def getOrConnect (c : Cache) (choice : Nat) (credentials : Credentials) :
    Except CallError (Client × Cache) :=
  let k := c.key credentials
  match c.find? k with
  | some client => .ok (client, c)
  | none => do
    let client ← c.connect credentials
    .ok (client, (c.makeRoom choice).insert k client)

end Cache

end RestGateway
