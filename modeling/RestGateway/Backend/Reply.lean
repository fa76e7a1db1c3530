import RestGateway.Json.Decoder

/-!
# What the backend answers

Every method but `info` answers with an envelope of the results and, where it failed, an exception
flag with a message.
-/

set_option autoImplicit false

namespace RestGateway

structure Envelope (α : Type) where
  results : Option α
  exception : Bool
  message? : Option String
  errorCode : Option Int

namespace Envelope

variable {α : Type}

def blank : Envelope α := ⟨none, false, none, none⟩

def message (e : Envelope α) : String := e.message?.getD ""

open Json.Reader in
def decoder (results : Json.Decoder α) : Json.Decoder (Envelope α) :=
  .record "RpcResponse" blank fun depth => [
    optional "results" (fun v e => { e with results := v }) (results depth),
    defaulted "exception" (fun v e => { e with exception := v }) (Json.Decoder.boolean depth),
    optional "message" (fun v e => { e with message? := v }) (Json.Decoder.string depth),
    optional "error_code" (fun v e => { e with errorCode := v }) (Json.Decoder.word depth)]

end Envelope

structure EntityPage where
  entities : List Members
  pagingInfo : Option Members

namespace EntityPage

def blank : EntityPage := ⟨[], none⟩

def toJson (p : EntityPage) : Json :=
  .object (("entities", .list (p.entities.map .object)) ::
    match p.pagingInfo with
    | some info => [("paging_info", .object info)]
    | none => [])

open Json.Reader in
def decoder : Json.Decoder EntityPage :=
  .record "EntityPage" blank fun depth => [
    defaulted "entities" (fun v p => { p with entities := v })
      (Json.Decoder.list .members depth),
    defaulted "paging_info" (fun v p => { p with pagingInfo := v })
      (option (Json.Decoder.members depth))]

end EntityPage

structure SummaryGroup where
  value : Json
  name : Json
  summaries : Members
  groups : List SummaryGroup

namespace SummaryGroup

mutual

def toJson : SummaryGroup → Json
  | ⟨value, name, summaries, groups⟩ =>
    .object ([("group_value", value), ("group_name", name), ("summaries", .object summaries)] ++
      match groups with
      | [] => []
      | g :: gs => [("groups", .list (g.toJson :: listToJson gs))])

def listToJson : List SummaryGroup → List Json
  | [] => []
  | g :: gs => g.toJson :: listToJson gs

end

open Json.Reader in
def members (groups : Option (Json.Reader SummaryGroup)) (depth : Nat) :
    List (Member SummaryGroup) := [
  required "group_value" (fun v g => { g with value := v }) (Json.Decoder.value depth),
  required "group_name" (fun v g => { g with name := v }) (Json.Decoder.value depth),
  defaulted "summaries" (fun v g => { g with summaries := v }) (Json.Decoder.members depth),
  defaulted "groups" (fun v g => { g with groups := v }) (listWith groups)]

def blank : SummaryGroup := ⟨.null, .null, [], []⟩

def decoder : Json.Decoder SummaryGroup
  | 0 => Json.Reader.record "SummaryGroup" blank none
  | 1 => Json.Reader.record "SummaryGroup" blank (some (members none 0))
  | depth + 2 =>
    Json.Reader.record "SummaryGroup" blank (some (members (some (decoder depth)) (depth + 1)))

end SummaryGroup

structure SummaryResults where
  summaries : Members
  groups : List SummaryGroup

namespace SummaryResults

def blank : SummaryResults := ⟨[], []⟩

def toJson (r : SummaryResults) : Json :=
  .object [("summaries", .object r.summaries), ("groups", .list (r.groups.map SummaryGroup.toJson))]

open Json.Reader in
def decoder : Json.Decoder SummaryResults :=
  .record "SummaryResults" blank fun depth => [
    defaulted "summaries" (fun v r => { r with summaries := v }) (Json.Decoder.members depth),
    defaulted "groups" (fun v r => { r with groups := v })
      (Json.Decoder.list SummaryGroup.decoder depth)]

end SummaryResults

structure ServerInfo where
  version : List Json

namespace ServerInfo

open Json.Reader in
def decoder : Json.Decoder ServerInfo :=
  .record "ServerInfo" ⟨[]⟩ fun depth => [
    defaulted "version" (fun v i => { i with version := v }) (Json.Decoder.list .value depth)]

def part : Json → Option Int
  | .number n => some n.toWord
  | _ => none

/-- The first three parts, where they are numbers. -/
def versionText (i : ServerInfo) : Option String :=
  match i.version with
  | a :: b :: c :: _ => do
    let major ← part a
    let minor ← part b
    let patch ← part c
    some ("v" ++ toString major ++ "." ++ toString minor ++ "." ++ toString patch)
  | _ => none

end ServerInfo

end RestGateway
