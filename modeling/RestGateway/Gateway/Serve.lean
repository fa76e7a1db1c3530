import RestGateway.Gateway.Entities
import RestGateway.Gateway.Route
import RestGateway.Gateway.Versions
import RestGateway.Http.Form

/-!
# Serving requests

A request for entities is first authenticated, whatever its method is; then its path, its query and
its body are read, in this order.
-/

set_option autoImplicit false

namespace RestGateway

/-- The largest body that is read where nothing sets a smaller limit, in bytes. -/
def readLimit : Nat := 2097152

namespace Serve

def badUrl (fault : String) : Http.Response := .plain 400 ("Invalid URL: " ++ fault)

def segment (name : String) (raw : List Char) : Except Http.Response String :=
  match Utf8.string? (Percent.decode (Utf8.encode raw)) with
  | some s => .ok s
  | none => .error (badUrl ("Invalid UTF-8 in `" ++ name ++ "`"))

def typeSegment (raw : List Char) : Except Http.Response String := segment "entity_type" raw

def entitySegments (rawType rawId : List Char) : Except Http.Response (String × Int) := do
  let entityType ← typeSegment rawType
  let id ← segment "id" rawId
  match Parameters.word? id with
  | some n => .ok (entityType, n)
  | none =>
    .error (badUrl ("Cannot parse value at index 1 with value `" ++ id ++ "` to a `i64`"))

def readBody (limit : Nat) (r : Http.Request) : Except Http.Response (List UInt8) :=
  if r.body.length ≤ limit then .ok r.body
  else .error (.plain 413 "Failed to buffer the request body: length limit exceeded")

def parameters (r : Http.Request) : Parameters := Http.Form.parse r.target.query

def isRead (r : Http.Request) : Bool := r.method == "GET" || r.isHead

def notAllowed : Plan := .answer (.empty 405)

def operation (g : Gateway) (limit : Nat) (r : Http.Request) (client : Client) (route : Route) :
    Except Http.Response Plan := do
  if !route.allows r.method then .ok notAllowed
  else
    match route with
    | .versions | .icon => .ok notAllowed
    | .collection rawType =>
      let entityType ← typeSegment rawType
      if isRead r then .ok (Entities.list client g.formats entityType (parameters r))
      else .ok (Entities.create client entityType (← readBody limit r))
    | .summary rawType =>
      .ok (Entities.summarize client g.formats (← typeSegment rawType) (parameters r))
    | .entity rawType rawId =>
      let (entityType, id) ← entitySegments rawType rawId
      if isRead r then .ok (Entities.get client entityType id (parameters r))
      else if r.method = "PATCH" then
        .ok (Entities.update client entityType id (← readBody limit r))
      else .ok (Entities.delete client entityType id)
    | .revival rawType rawId =>
      let (entityType, id) ← entitySegments rawType rawId
      .ok (Entities.revive client entityType id)

def authenticate (g : Gateway) (choice : Nat) (r : Http.Request) :
    Except GatewayError (Client × Gateway) := do
  let credentials ← Authorization.parse (r.headers.values "authorization")
  let (client, clients) ← (g.clients.getOrConnect choice credentials).mapError .call
  .ok (client, { g with clients })

def entityPlan (g : Gateway) (choice limit : Nat) (r : Http.Request) (route : Route) :
    Plan × Gateway :=
  match authenticate g choice r with
  | .error e => (.answer e.response, g)
  | .ok (client, g) =>
    match operation g limit r client route with
    | .ok plan => (plan, g)
    | .error response => (.answer response, g)

/-- The plan for a request and the state after it. `choice` picks the cached client that is given up
if there is no room for another one; bodies of more than `limit` bytes are refused. -/
def plan (g : Gateway) (choice limit : Nat) (r : Http.Request) : Plan × Gateway :=
  match Route.ofPath? r.target.path with
  | none => (.answer (.empty 404), g)
  | some .versions => (if isRead r then Versions.plan g r else notAllowed, g)
  | some .icon => (if isRead r then .answer (.empty 404) else notAllowed, g)
  | some route => entityPlan g choice limit r route

def addAllowed (r : Http.Request) (response : Http.Response) : Http.Response :=
  match Route.ofPath? r.target.path with
  | some route =>
    if route.allows r.method then response
    else response.addHeader "allow" (",".intercalate route.methods)
  | none => response

/-- `HEAD` gets no body. -/
def dropBody (r : Http.Request) (response : Http.Response) : Http.Response :=
  if r.isHead then { response with body := "" } else response

def finish (r : Http.Request) (p : Plan) : Plan :=
  p.map fun response => dropBody r (addAllowed r response)

end Serve

/-- Serves a request without the server's pipeline around it. -/
def Gateway.serve (g : Gateway) (choice : Nat) (r : Http.Request) : Plan × Gateway :=
  let (p, g) := Serve.plan g choice readLimit r
  (Serve.finish r p, g)

end RestGateway
