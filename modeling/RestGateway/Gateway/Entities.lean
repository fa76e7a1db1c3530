import RestGateway.Classifier
import RestGateway.Gateway.Plan
import RestGateway.Parameters

/-!
# Entities

Each operation on entities becomes one call. What callers send is checked before the call. An
exception that the backend reports for a write is classified by its message; one for a read is
passed on as it is.
-/

set_option autoImplicit false

namespace RestGateway.Entities

def readResults {α : Type} (results : Json.Decoder α) (o : Outcome) :
    Except GatewayError (Option α) := do
  let e ← o.envelope results
  if e.exception then .error (.exception e.message) else .ok e.results

def writeResults {α : Type} (rules : Classifier) (results : Json.Decoder α) (o : Outcome) :
    Except GatewayError (Option α) := do
  let e ← o.envelope results
  match GatewayError.ofCategory (rules.classify e.exception e.message) e.message with
  | some error => .error error
  | none => .ok e.results

/-- The entities of a read, none where the results are missing. -/
def entities (o : Outcome) : Except GatewayError (List Members) := do
  .ok ((← readResults EntityPage.decoder o).getD .blank).entities

def ask (c : Call) (finish : Outcome → Except GatewayError Http.Response) : Plan :=
  .ask c fun o => GatewayError.orResponse (finish o)

def orRefuse (plan : Except GatewayError Plan) : Plan :=
  match plan with
  | .ok p => p
  | .error e => .answer e.response

def listResponse (found : List Members) : Http.Response :=
  if found.isEmpty then .empty 204 else .json 200 (.list (found.map .object))

def list (client : Client) (formats : Registry) (entityType : String) (ps : Parameters) : Plan :=
  orRefuse do
    let q ← ps.applyRead formats (.ofType entityType)
    .ok (ask (client.call "read" q.toJson) fun o => do .ok (listResponse (← entities o)))

def get (client : Client) (entityType : String) (id : Int) (ps : Parameters) : Plan :=
  ask (client.call "read" (ps.applyFields (.byId entityType id)).toJson) fun o => do
    match (← entities o).head? with
    | some entity => .ok (.json 200 (.object entity))
    | none => .error (.notFound (entityType ++ " " ++ toString id ++ " not found"))

def summarize (client : Client) (formats : Registry) (entityType : String) (ps : Parameters) :
    Plan :=
  orRefuse do
    let q ← ps.applySummarize formats (.ofType entityType)
    .ok (ask (client.call "summarize" q.toJson) fun o => do
      .ok (.json 200 ((← readResults SummaryResults.decoder o).getD .blank).toJson))

def decodeBody (body : List UInt8) : Except GatewayError Members :=
  (Json.Decoder.members.decode body).mapError .badRequest

/-- The object that a write gave back, empty where the results are missing. -/
def written (status : Http.Status) (results : Option Members) : Http.Response :=
  .json status (.object (results.getD []))

def create (client : Client) (entityType : String) (body : List UInt8) : Plan :=
  orRefuse do
    let members ← decodeBody body
    .ok (ask (client.call "create" (CreateQuery.make entityType members).toJson) fun o => do
      .ok (written 201 (← writeResults .forCreate .members o)))

def update (client : Client) (entityType : String) (id : Int) (body : List UInt8) : Plan :=
  orRefuse do
    let members ← decodeBody body
    .ok (ask (client.call "update" (UpdateQuery.make entityType id members).toJson) fun o => do
      .ok (written 200 (← writeResults .forUpdate .members o)))

/-- Retires or restores an entity; the backend confirms it by `true`. -/
def change (client : Client) (method : String) (rules : Classifier) (entityType : String)
    (id : Int) : Plan :=
  ask (client.call method (EntityRef.toJson ⟨entityType, id⟩)) fun o => do
    if (← writeResults rules .boolean o) = some true then .ok (.empty 200)
    else
      .error (.notFound
        (entityType ++ " " ++ toString id ++ " was not changed by " ++ method))

def delete (client : Client) (entityType : String) (id : Int) : Plan :=
  change client "delete" .forDelete entityType id

def revive (client : Client) (entityType : String) (id : Int) : Plan :=
  change client "revive" .forRevive entityType id

end RestGateway.Entities
