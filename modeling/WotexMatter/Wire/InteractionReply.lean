/-
# WotexMatter.Wire.InteractionReply -- what the host answers an interaction with

`InteractionResponse` and `valid_interaction_response` (`interaction.cpp`), the JSON of paths,
attributes, events and errors, and the part of `ProcessLineImpl` (`protocol.cpp`) behind
`backend_.Interact` that turns a response of the backend into the frame of the reply.

The backend is not trusted here: `interactionReply` is defined on every response, and answers
`invalid_backend_result` for those that are not valid.  `nlohmann::json` keeps the members of an
object in the order of their keys, and so do the documents below.  `interactionLine` is the line of
the reply, which is not written for every document.
-/
import WotexMatter.Storage.JsonText
import WotexMatter.Wire.BoundedSax
import WotexMatter.Wire.InteractionParameters

set_option autoImplicit false

namespace WotexMatter.Wire

open WotexMatter.Native.Elements (Element validateElement)
open WotexMatter.Storage

def kMaximumInteractionReports : Nat := 1024

def kMaximumInteractionResultBytes : Nat := 98304

/-- `valid_encoded_result_size`. -/
def validEncodedResultSize (bytes : Nat) : Bool := bytes ≤ kMaximumInteractionResultBytes

inductive InteractionEffect where
  | none
  | unknown
  deriving DecidableEq

structure ConcretePath where
  fabricId : UInt64
  nodeId : UInt64
  endpoint : UInt16
  cluster : UInt32
  member : UInt32
  deriving DecidableEq

structure InteractionError where
  code : Bytes
  status : Option UInt8 := .none
  clusterStatus : Option UInt8 := .none
  effect : InteractionEffect := .none
  deriving DecidableEq

structure AttributeData where
  path : ConcretePath
  value : Element
  dataVersion : Option UInt32

inductive TimestampKind where
  | system
  | epoch
  deriving DecidableEq

structure EventData where
  path : ConcretePath
  value : Element
  eventNumber : UInt64
  priority : UInt8
  timestampKind : TimestampKind
  timestampValue : UInt64

structure PathResult where
  path : ConcretePath
  attributeData : Option AttributeData := .none
  event : Option EventData := .none
  error : Option InteractionError := .none

structure InteractionResponse where
  ok : Bool
  error : Option InteractionError := .none
  results : List PathResult := []
  responsePath : Option ConcretePath := .none
  responseValue : Option Element := .none
  status : UInt8 := 0

/-! ## Which responses are valid -/

/-- `Selected`. -/
def isSelected (selector : PathSelector) (path : ConcretePath) : Bool :=
  selector.fabricId = path.fabricId && selector.nodeId = path.nodeId &&
    selector.endpoint.all (· = path.endpoint) && selector.cluster.all (· = path.cluster) &&
    selector.member.all (· = path.member)

/-- `ValidPathResult`. -/
def validPathResult (request : InteractionRequest) (result : PathResult) : Bool :=
  if ¬request.paths.any fun path => isSelected path result.path then false
  else
    match result.attributeData, result.event, result.error with
    | some report, .none, .none =>
        request.kind ≠ .readEvents && result.path = report.path &&
          validateElement .attribute result.path.cluster result.path.member .read report.value = .none
    | .none, some event, .none =>
        request.kind = .readEvents && result.path = event.path &&
          validateElement .event result.path.cluster result.path.member .read event.value = .none
    | .none, .none, some error => error.code ≠ [] && error.effect = .none
    | _, _, _ => false

/-- `all_wildcard` over the paths. -/
def allWildcard (paths : List PathSelector) : Bool :=
  paths.all fun path => path.endpoint.isNone || path.cluster.isNone || path.member.isNone

/-- `valid_interaction_response`. -/
def validInteractionResponse (request : InteractionRequest) (response : InteractionResponse) :
    Bool :=
  if ¬response.ok then
    (response.error.any fun error => error.code ≠ []) && response.results.isEmpty &&
      response.responsePath.isNone && response.responseValue.isNone
  else if response.error.isSome ∨ kMaximumInteractionReports < response.results.length then false
  else
    match request.kind, request.paths with
    | .write, [target] =>
        response.results.isEmpty && response.status = 0 &&
          response.responsePath.any (isSelected target) && response.responseValue.isNone
    | .invoke, [target] =>
        response.results.isEmpty && response.status = 0 &&
          match response.responsePath, response.responseValue with
          | .none, .none => true
          | some path, some value =>
              path.fabricId = target.fabricId && path.nodeId = target.nodeId &&
                target.endpoint = some path.endpoint && target.cluster = some path.cluster &&
                validateElement .command path.cluster path.member .invoke value = .none
          | _, _ => false
    | .write, _ => false
    | .invoke, _ => false
    | _, _ =>
        (!response.results.isEmpty ||
            (request.kind = .readAttributes && allWildcard request.paths) ||
            request.kind = .readEvents) &&
          response.results.all (validPathResult request)

/-! ## Documents -/

/-- `PathJson`. -/
def pathJson (path : ConcretePath) : Json :=
  .object
    [(ascii "cluster", .unsigned path.cluster.toUInt64),
      (ascii "endpoint", .unsigned path.endpoint.toUInt64),
      (ascii "fabric_id", .unsigned path.fabricId),
      (ascii "member", .unsigned path.member.toUInt64),
      (ascii "node_id", .unsigned path.nodeId)]

def effectName : InteractionEffect → Bytes
  | .none => ascii "none"
  | .unknown => ascii "unknown"

/-- A member that is there when the value is. -/
def optionalMember (key : Bytes) (value : Option UInt8) : List (Bytes × Json) :=
  (value.map fun number => (key, .unsigned number.toUInt64)).toList

/-- `ErrorJson`. -/
def errorJson (error : InteractionError) : Json :=
  .object
    (optionalMember (ascii "cluster_status") error.clusterStatus ++
      (ascii "code", .string error.code) :: (ascii "effect", .string (effectName error.effect)) ::
        optionalMember (ascii "status") error.status)

def versionJson : Option UInt32 → Json
  | some version => .unsigned version.toUInt64
  | .none => .null

/-- `AttributeJson`. -/
def attributeJson (report : AttributeData) : Json :=
  .object
    [(ascii "data_version", versionJson report.dataVersion), (ascii "path", pathJson report.path),
      (ascii "value", elementJson report.value)]

def timestampKindName : TimestampKind → Bytes
  | .epoch => ascii "epoch"
  | .system => ascii "system"

/-- The `timestamp` of an event. -/
def timestampJson (event : EventData) : Json :=
  .object
    [(ascii "kind", .string (timestampKindName event.timestampKind)),
      (ascii "value", .unsigned event.timestampValue)]

/-- `EventJson`. -/
def eventJson (event : EventData) : Json :=
  .object
    [(ascii "event_number", .unsigned event.eventNumber),
      (ascii "path", pathJson event.path),
      (ascii "priority", .unsigned event.priority.toUInt64),
      (ascii "status", .integer 0),
      (ascii "timestamp", timestampJson event), (ascii "value", elementJson event.value)]

/-- The loop body over the results; it is reached with an error, an attribute or an event. -/
def resultJson (result : PathResult) : Option Json :=
  let entry := fun outcome : Bytes × Json => some
    (Json.object [(ascii "path", pathJson result.path), (ascii "result", .object [outcome])])
  match result.error, result.attributeData, result.event with
  | some error, _, _ => entry (ascii "error", errorJson error)
  | .none, some report, _ => entry (ascii "ok", attributeJson report)
  | .none, .none, some event => entry (ascii "ok", eventJson event)
  | .none, .none, .none => .none

/-- `InteractionJson`. -/
def interactionJson (request : InteractionRequest) (response : InteractionResponse) : Option Json :=
  if ¬validInteractionResponse request response ∨ ¬response.ok then .none
  else
    match request.kind with
    | .readAttribute =>
        match response.results with
        | [result] => if result.error.isSome then .none else result.attributeData.map attributeJson
        | _ => .none
    | .readAttributes => (response.results.mapM resultJson).map .array
    | .readEvents => (response.results.mapM resultJson).map .array
    | .write =>
        response.responsePath.map fun path =>
          .object [(ascii "path", pathJson path), (ascii "status", .integer 0)]
    | .invoke =>
        some (.object
          [(ascii "path", (response.responsePath.map pathJson).getD .null),
            (ascii "status", .integer 0),
            (ascii "value", (response.responseValue.map elementJson).getD .null)])

/-! ## Frames -/

/-- The frame of a reply; `id` is the request's. -/
def replyFrame (id : Json) (ok : Bool) (last : Bytes × Json) : Json :=
  if ok then
    .object
      [(ascii "id", id), (ascii "ok", .boolean true), last,
        (ascii "version", .unsigned kProtocolVersion)]
  else
    .object
      [last, (ascii "id", id), (ascii "ok", .boolean false),
        (ascii "version", .unsigned kProtocolVersion)]

/-- `Success`. -/
def success (id result : Json) : Json := replyFrame id true (ascii "result", result)

/-- `Failure`. -/
def failure (id : Json) (code : Bytes) : Json :=
  replyFrame id false (ascii "error", .object [(ascii "code", .string code)])

/-- `InteractionFailure`. -/
def interactionFailure (id : Json) (error : InteractionError) : Json :=
  replyFrame id false (ascii "error", errorJson error)

/-- `BackendFailure` for an interaction. -/
def backendFailure (id : Json) (kind : InteractionKind) (code : Bytes) : Json :=
  if kind.mutates then interactionFailure id { code, effect := .unknown } else failure id code

/-- The reply to a read of one attribute whose path result is an error. -/
def singleError (request : InteractionRequest) (response : InteractionResponse) :
    Option InteractionError :=
  match request.kind, response.results with
  | .readAttribute, [result] => result.error
  | _, _ => .none

/-- The reply of `ProcessLineImpl` to an admitted interaction that the backend has answered. -/
def interactionReply (id : Json) (request : InteractionRequest) (response : InteractionResponse) :
    Json :=
  if ¬response.ok then
    match response.error with
    | .none => backendFailure id request.kind (ascii "invalid_backend_result")
    | some error =>
        if error.code = [] then backendFailure id request.kind (ascii "invalid_backend_result")
        else interactionFailure id error
  else
    match singleError request response with
    | some error => interactionFailure id error
    | .none =>
        match interactionJson request response with
        | .none => backendFailure id request.kind (ascii "invalid_backend_result")
        | some result =>
            if validEncodedResultSize result.dumpText.length then success id result
            else backendFailure id request.kind (ascii "response_limit")

/-! ## Lines -/

mutual

/-- Every string is UTF-8; `dump` throws on one that is not. -/
def isText : Json → Bool
  | .string text => stringValid text
  | .array items => areTexts items
  | .object members => membersAreTexts members
  | _ => true

def areTexts : List Json → Bool
  | [] => true
  | item :: rest => isText item && areTexts rest

def membersAreTexts : List (Bytes × Json) → Bool
  | [] => true
  | (key, value) :: rest => stringValid key && isText value && membersAreTexts rest

end

/-- The line of a document: none where `dump` throws, and where `Enqueue` refuses the frame for its
size.  The text of a document is never empty; the writer is taken to be healthy and to have room. -/
def lineOf (maximumFrameBytes : Nat) (document : Json) : Option Bytes :=
  if isText document ∧ document.dumpText.length < maximumFrameBytes then some document.dumpText
  else .none

/-- The line `RunHost` writes for the interaction.  A result is dumped before its frame is, to
measure it. -/
def interactionLine (id : Json) (request : InteractionRequest) (response : InteractionResponse) :
    Option Bytes :=
  if (interactionJson request response).all isText then
    lineOf kMaximumFrameBytes (interactionReply id request response)
  else .none

end WotexMatter.Wire
