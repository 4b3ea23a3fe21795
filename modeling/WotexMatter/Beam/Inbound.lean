/-
# WotexMatter.Beam.Inbound -- how the BEAM reads a frame of the host

`Wotex.Matter.Native.Wire` (`native/wire.ex`), the constructors of `Wotex.Matter.Error`
(`error.ex`), and `decode_response` and `decode_operation_reply` (`native/connection.ex`).

The text of a frame is parsed outside of the repository: `Wotex.JSON.decode` is a parameter, and
`Decodes` is what is counted on.  What it makes of a document is a term in which objects are maps
with binary keys and numbers are integers (`termOf`).
-/
import WotexMatter.Tlv.Codec
import WotexMatter.Value.Address
import WotexMatter.Wire.BoundedSax
import WotexMatter.Wire.Request

set_option autoImplicit false

namespace WotexMatter.Beam.Inbound

open WotexMatter.Storage
open WotexMatter.Tlv (Width Element Tag)
open WotexMatter.Value (Address)
open WotexMatter.Wire (Term Key Admissible nodeCount)

variable {F : Type}

/-! ## What a document is parsed to -/

mutual

/-- The term a document is parsed to.  A floating number is a term that is none of the others. -/
def termOf : Json → Term
  | .null => Term.nil
  | .boolean value => .atom (if value then ascii "true" else ascii "false")
  | .unsigned value => .integer value.toNat
  | .integer value => .integer value
  | .floating _ => .other 0
  | .string text => .binary text
  | .array items => .list (termsOf items) true
  | .object members => .map (membersOf members)

def termsOf : List Json → List Term
  | [] => []
  | item :: rest => termOf item :: termsOf rest

def membersOf : List (Bytes × Json) → List (Key × Term)
  | [] => []
  | (key, value) :: rest => (.binary key, termOf value) :: membersOf rest

end

/-! ## The limits of a frame -/

mutual

/-- The whole numbers fit into 64 bits. -/
def worded : Json → Bool
  | .integer value => -0x8000000000000000 ≤ value && value ≤ 0xFFFFFFFFFFFFFFFF
  | .array items => wordedItems items
  | .object members => wordedMembers members
  | _ => true

def wordedItems : List Json → Bool
  | [] => true
  | item :: rest => worded item && wordedItems rest

def wordedMembers : List (Bytes × Json) → Bool
  | [] => true
  | (_, value) :: rest => worded value && wordedMembers rest

end

def kMaxBytes : Nat := 131071

def kFrameNodes : Int := 4096

/-- A document within `@frame_limits`, in numbers of 64 bits.  `Admissible` has the depth of 24 and
the 1024 entries; `max_string_bytes` is `max_bytes`. -/
structure WithinLimits (document : Json) : Prop where
  bytes : document.dumpText.length ≤ kMaxBytes
  collections : Admissible 0 document
  nodes : (nodeCount document : Int) ≤ kFrameNodes
  numbers : worded document = true

/-- **What is counted on** of `Wotex.JSON.decode` for the text of a document: it decodes what is
within the limits, it decodes nothing beyond those of size and shape, and what it decodes is the
document. -/
structure Decodes (json : Bytes → Option Term) (document : Json) : Prop where
  within : WithinLimits document → (json document.dumpText).isSome
  beyond : (json document.dumpText).isSome →
    document.dumpText.length ≤ kMaxBytes ∧ Admissible 0 document
  same : ∀ term, json document.dumpText = some term → term = termOf document

mutual

/-- `frame_budget`. -/
def frameBudget : Term → Int → Int
  | .integer value, budget =>
      if budget ≤ 0 ∨ value < -0x8000000000000000 ∨ 0xFFFFFFFFFFFFFFFF < value then -1
      else budget - 1
  | .map members, budget => if budget ≤ 0 then -1 else memberBudget members (budget - 1)
  | .list items _, budget => if budget ≤ 0 then -1 else itemBudget items (budget - 1)
  | _, budget => if budget ≤ 0 then -1 else budget - 1

def memberBudget : List (Key × Term) → Int → Int
  | [], remaining => remaining
  | (_, child) :: rest, remaining =>
      if 0 ≤ frameBudget child (remaining - 1) then
        memberBudget rest (frameBudget child (remaining - 1))
      else -1

def itemBudget : List Term → Int → Int
  | [], remaining => remaining
  | child :: rest, remaining =>
      if 0 ≤ frameBudget child remaining then itemBudget rest (frameBudget child remaining) else -1

end

/-- `frame`. -/
def frame (json : Bytes → Option Term) (line : Bytes) : Option Term :=
  (json line).filter fun value => 0 ≤ frameBudget value kFrameNodes

/-! ## Terms -/

/-- The value under a key of a map. -/
def field (key : String) : Term → Option Term
  | .map members => members.lookup (.binary (ascii key))
  | _ => none

/-- `map_size`, of a map. -/
def mapSize : Term → Option Nat
  | .map members => some members.length
  | _ => none

def integerIn (low high : Int) : Term → Option Int
  | .integer value => if low ≤ value ∧ value ≤ high then some value else none
  | _ => none

def binary : Term → Option Bytes
  | .binary text => some text
  | _ => none

def isNil : Term → Bool
  | .atom text => text = ascii "nil"
  | _ => false

def boolean : Term → Option Bool
  | .atom text =>
      if text = ascii "true" then some true else if text = ascii "false" then some false else none
  | _ => none

/-- `nil`, or such a value. -/
def nullable {α : Type} (read : Term → Option α) (term : Term) : Option (Option α) :=
  if isNil term then some none else (read term).map some

/-! ## Paths -/

def pathKeys : List Bytes :=
  [ascii "fabric_id", ascii "node_id", ascii "endpoint", ascii "cluster", ascii "member"]

def integer : Term → Option Int
  | .integer value => some value
  | _ => none

/-- The argument of `Address.new`: `none` where a field is not an integer. -/
def addressOf (value : Term) : Option Address := do
  let fabricId ← (field "fabric_id" value).bind integer
  let nodeId ← (field "node_id" value).bind integer
  let endpoint ← (field "endpoint" value).bind integer
  let cluster ← (field "cluster" value).bind integer
  let member ← (field "member" value).bind integer
  some { fabricId, nodeId, endpoint, cluster, member }

/-- `path`. -/
def path : Term → Option Address
  | .map members =>
      if members.length = 5 ∧ (members.map Prod.fst).isPerm (pathKeys.map Key.binary) then
        Address.new (addressOf (.map members))
      else none
  | _ => none

/-! ## Elements -/

inductive ElementType where
  | null
  | i16
  | unsigned (width : Width)
  | boolean
  | structure : ElementType
  | array

/-- `tag`. -/
def tag : Term → Option Tag
  | .binary text => if text = ascii "anonymous" then some .anonymous else none
  | .list [.binary text, .integer id] true =>
      if text = ascii "context" ∧ 0 ≤ id ∧ id ≤ 255 then some (.context id) else none
  | _ => none

/-- `type`. -/
def type (term : Term) : Option ElementType := do
  let text ← binary term
  if text = ascii "null" then some .null
  else if text = ascii "i16" then some .i16
  else if text = ascii "u8" then some (.unsigned .w8)
  else if text = ascii "u16" then some (.unsigned .w16)
  else if text = ascii "u32" then some (.unsigned .w32)
  else if text = ascii "u64" then some (.unsigned .w64)
  else if text = ascii "boolean" then some .boolean
  else if text = ascii "structure" then some .structure
  else if text = ascii "array" then some .array
  else none

/-- The highest number of a width. -/
def highest : Width → Int
  | .w8 => 0xFF
  | .w16 => 0xFFFF
  | .w32 => 0xFFFFFFFF
  | .w64 => 0xFFFFFFFFFFFFFFFF

/-- The items of a list, each read. -/
def traverse {α : Type} (read : Term → Option α) : Term → Option (List α)
  | .list items true => items.mapM read
  | _ => none

/-- `element_value`, into the element with this tag. -/
def elementValue (child : Term → Option (Element F)) (tag : Tag) :
    ElementType → Term → Option (Element F)
  | .null, value => if isNil value then some (.scalar tag .null) else none
  | .i16, value => (integerIn (-32768) 32767 value).map fun n => .scalar tag (.signed .w16 n)
  | .unsigned width, value =>
      (integerIn 0 (highest width) value).map fun n => .scalar tag (.unsigned width n)
  | .boolean, value => (boolean value).map fun b => .scalar tag (.boolean b)
  | .structure, value => (traverse child value).map (.container tag .structure)
  | .array, value => (traverse child value).map (.container tag .array)

/-- `element`, to a nesting. -/
def elementAt : Nat → Term → Option (Element F)
  | 0, _ => none
  | levels + 1, term => do
      guard (mapSize term = some 3)
      let tag ← (field "tag" term).bind tag
      let type ← (field "type" term).bind type
      let value ← field "value" term
      elementValue (elementAt levels) tag type value

mutual

/-- The nesting of a term. -/
def height : Term → Nat
  | .list items _ => itemHeight items + 1
  | .map members => memberHeight members + 1
  | .tuple items => itemHeight items + 1
  | _ => 1

def itemHeight : List Term → Nat
  | [] => 0
  | item :: rest => max (height item) (itemHeight rest)

def memberHeight : List (Key × Term) → Nat
  | [] => 0
  | (_, value) :: rest => max (height value) (memberHeight rest)

end

/-- `element`; a term does not contain itself, so its own nesting is enough. -/
def element (term : Term) : Option (Element F) := elementAt (height term) term

/-! ## Errors -/

/-- The codes of `error_code`, and those this side of the wire adds. -/
inductive ErrorCode where
  | authorityInvalid
  | controllerAlreadyOpen
  | controllerClosed
  | controllerStartFailed
  | controllerStartTimeout
  | busy
  | commissioningFailed
  | commissioningSubmitFailed
  | timeout
  | commissioningUnavailable
  | fabricMismatch
  | interactionBusy
  | interactionFailed
  | interactionNoResponse
  | interactionSubmitFailed
  | interactionStatus
  | interactionUnavailable
  | commissioningWindowFailed
  | commissioningWindowSubmitFailed
  | commissioningWindowUnavailable
  | invalidAttributeData
  | invalidTransportReturn
  | invalidControllerIdentity
  | invalidEventData
  | invalidRequest
  | invalidResponsePath
  | missingPathResult
  | notSupported
  | paaTrustStoreInvalid
  | responseLimit
  | queueOverflow
  | receiverClosed
  | sdkStorageFailed
  | sessionEstablishmentFailed
  | sessionLost
  | storageOpenFailed
  | subscriptionFailed
  | subscriptionSubmitFailed
  | subscriptionUnavailable
  | invalidHandle
  | invalidSubscriptionReport
  | invalidSubscriptionResult
  | unsupportedSchema
  | unsupportedTimestamp
  | nativeError
  | invalidFrame
  deriving DecidableEq

/-- The clauses of `error_code` but the last. -/
def errorCodes : List (Bytes × ErrorCode) :=
  [(ascii "authority_invalid", .authorityInvalid),
    (ascii "controller_already_open", .controllerAlreadyOpen),
    (ascii "controller_closed", .controllerClosed),
    (ascii "controller_start_failed", .controllerStartFailed),
    (ascii "controller_start_timeout", .controllerStartTimeout),
    (ascii "commissioning_busy", .busy),
    (ascii "commissioning_failed", .commissioningFailed),
    (ascii "commissioning_submit_failed", .commissioningSubmitFailed),
    (ascii "commissioning_timeout", .timeout),
    (ascii "commissioning_unavailable", .commissioningUnavailable),
    (ascii "fabric_mismatch", .fabricMismatch),
    (ascii "interaction_busy", .interactionBusy),
    (ascii "interaction_failed", .interactionFailed),
    (ascii "interaction_no_response", .interactionNoResponse),
    (ascii "interaction_submit_failed", .interactionSubmitFailed),
    (ascii "interaction_status", .interactionStatus),
    (ascii "interaction_timeout", .timeout),
    (ascii "interaction_unavailable", .interactionUnavailable),
    (ascii "window_busy", .busy),
    (ascii "window_failed", .commissioningWindowFailed),
    (ascii "window_submit_failed", .commissioningWindowSubmitFailed),
    (ascii "window_timeout", .timeout),
    (ascii "window_unavailable", .commissioningWindowUnavailable),
    (ascii "invalid_attribute_data", .invalidAttributeData),
    (ascii "invalid_backend_result", .invalidTransportReturn),
    (ascii "invalid_controller_identity", .invalidControllerIdentity),
    (ascii "invalid_event_data", .invalidEventData),
    (ascii "invalid_request", .invalidRequest),
    (ascii "invalid_response_path", .invalidResponsePath),
    (ascii "missing_path_result", .missingPathResult),
    (ascii "not_supported", .notSupported),
    (ascii "paa_trust_store_invalid", .paaTrustStoreInvalid),
    (ascii "response_limit", .responseLimit),
    (ascii "queue_overflow", .queueOverflow),
    (ascii "receiver_closed", .receiverClosed),
    (ascii "sdk_storage_failed", .sdkStorageFailed),
    (ascii "session_establishment_failed", .sessionEstablishmentFailed),
    (ascii "session_lost", .sessionLost),
    (ascii "storage_open_failed", .storageOpenFailed),
    (ascii "subscription_busy", .busy),
    (ascii "subscription_cancel_timeout", .timeout),
    (ascii "subscription_failed", .subscriptionFailed),
    (ascii "subscription_submit_failed", .subscriptionSubmitFailed),
    (ascii "subscription_timeout", .timeout),
    (ascii "subscription_unavailable", .subscriptionUnavailable),
    (ascii "invalid_subscription", .invalidHandle),
    (ascii "invalid_subscription_report", .invalidSubscriptionReport),
    (ascii "invalid_subscription_result", .invalidSubscriptionResult),
    (ascii "unsupported_schema", .unsupportedSchema),
    (ascii "unsupported_timestamp", .unsupportedTimestamp)]

/-- `error_code`. -/
def errorCode (code : Bytes) : ErrorCode := (errorCodes.lookup code).getD .nativeError

inductive ErrorClass where
  | timeout
  | unavailable
  | rateLimited
  | protocol
  | permanent
  deriving DecidableEq

/-- `classify`, on the codes above. -/
def classify : ErrorCode → Option ErrorClass
  | .timeout => some .timeout
  | .controllerStartFailed | .subscriptionFailed => some .unavailable
  | .busy => some .rateLimited
  | .invalidFrame | .invalidTransportReturn | .responseLimit => some .protocol
  | .fabricMismatch | .invalidHandle | .invalidRequest | .notSupported | .receiverClosed
  | .unsupportedSchema | .unsupportedTimestamp => some .permanent
  | _ => none

def retries (errorClass : Option ErrorClass) : Bool :=
  errorClass = some .timeout || errorClass = some .unavailable || errorClass = some .rateLimited

inductive Effect where
  | none
  | unknown
  deriving DecidableEq

structure Details where
  status : Option Int := none
  clusterStatus : Option Int := none
  sdkStatus : Option Int := none
  deriving DecidableEq

/-- `%Wotex.Matter.Error{}` with no field. -/
structure Error where
  code : ErrorCode
  details : Details
  errorClass : Option ErrorClass
  retryable : Bool
  effect : Effect
  deriving DecidableEq

namespace Error

/-- `Error.new`. -/
def new (code : ErrorCode) (details : Details) : Error where
  code
  details
  errorClass := classify code
  retryable := retries (classify code)
  effect := .none

/-- `Error.with_effect`. -/
def withEffect (error : Error) : Effect → Error
  | .unknown => { error with effect := .unknown, errorClass := some .permanent, retryable := false }
  | .none =>
      { error with
        effect := .none
        errorClass := classify error.code
        retryable := retries (classify error.code) }

end Error

def errorKeys : List Bytes :=
  [ascii "code", ascii "effect", ascii "status", ascii "cluster_status", ascii "sdk_status"]

/-- `effect`, of a key that may be absent. -/
def effect : Option Term → Option Effect
  | none => some .none
  | some (.binary text) =>
      if text = ascii "none" then some .none
      else if text = ascii "unknown" then some .unknown
      else none
  | some _ => none

/-- `status` and `sdk_status`, of a key that may be absent. -/
def statusIn (high : Int) : Option Term → Option (Option Int)
  | none => some none
  | some term => nullable (integerIn 0 high) term

/-- `error`. -/
def error : Term → Option Error
  | .map members => do
      guard (1 ≤ members.length ∧ members.length ≤ 4)
      let code ← (field "code" (.map members)).bind binary
      guard (members.all fun member => (errorKeys.map Key.binary).contains member.1)
      let effect ← effect (field "effect" (.map members))
      let status ← statusIn 255 (field "status" (.map members))
      let clusterStatus ← statusIn 255 (field "cluster_status" (.map members))
      let sdkStatus ← statusIn 0xFFFFFFFF (field "sdk_status" (.map members))
      some ((Error.new (errorCode code) { status, clusterStatus, sdkStatus }).withEffect effect)
  | _ => none

/-! ## Results -/

structure AttributeReply (F : Type) where
  path : Address
  value : Element F
  dataVersion : Option Int

inductive TimestampKind where
  | epoch
  | system
  deriving DecidableEq

structure EventReply (F : Type) where
  path : Address
  value : Element F
  eventNumber : Int
  priority : Int
  timestampKind : TimestampKind
  timestampValue : Int

/-- An entry of a batch: `{:ok, report}` or `{:error, error}` under its path. -/
structure PathReply (R : Type) where
  path : Address
  result : Except Error R

/-- `attribute`. -/
def attributeReply (report : Term) : Option (AttributeReply F) := do
  guard (mapSize report = some 3)
  let dataVersion ← (field "data_version" report).bind (nullable (integerIn 0 0xFFFFFFFF))
  let path ← (field "path" report).bind path
  let value ← (field "value" report).bind element
  some { path, value, dataVersion }

def timestampKind (term : Term) : Option TimestampKind := do
  let text ← binary term
  if text = ascii "epoch" then some .epoch
  else if text = ascii "system" then some .system
  else none

/-- `timestamp`. -/
def timestamp (term : Term) : Option (TimestampKind × Int) := do
  guard (mapSize term = some 2)
  let kind ← (field "kind" term).bind timestampKind
  let value ← (field "value" term).bind (integerIn 0 0xFFFFFFFFFFFFFFFF)
  some (kind, value)

/-- The value under the key is the integer 0. -/
def zeroStatus (term : Term) : Option Int := (field "status" term).bind (integerIn 0 0)

/-- `event`. -/
def eventReply (event : Term) : Option (EventReply F) := do
  guard (mapSize event = some 6)
  let _ ← zeroStatus event
  let eventNumber ← (field "event_number" event).bind (integerIn 0 0xFFFFFFFFFFFFFFFF)
  let priority ← (field "priority" event).bind (integerIn 0 255)
  let path ← (field "path" event).bind path
  let value ← (field "value" event).bind element
  let stamp ← (field "timestamp" event).bind timestamp
  some { path, value, eventNumber, priority, timestampKind := stamp.1, timestampValue := stamp.2 }

section Batches

variable {R : Type} (read : Term → Option R) (pathIn : R → Address)

/-- `path_result`. -/
def pathResult (result : Term) : Option (Except Error R) := do
  guard (mapSize result = some 1)
  match field "ok" result with
  | some report => (read report).map Except.ok
  | none => ((field "error" result).bind error).map Except.error

/-- `result_path?`. -/
def resultPath (expected : Address) : Except Error R → Bool
  | .ok report => pathIn report = expected
  | .error _ => true

/-- The function given to `traverse` by `path_results`. -/
def pathEntry (entry : Term) : Option (PathReply R) := do
  guard (mapSize entry = some 2)
  let path ← (field "path" entry).bind path
  let result ← (field "result" entry).bind (pathResult read)
  if resultPath pathIn path result then some { path, result } else none

/-- `path_results`. -/
def pathResults : Term → Option (List (PathReply R))
  | .list results true => if results.length ≤ 1024 then results.mapM (pathEntry read pathIn) else none
  | _ => none

end Batches

inductive OperationType where
  | read
  | readPaths
  | readEvents
  | write
  | invoke
  deriving DecidableEq

/-- `@mutating_operations`, of these. -/
def OperationType.mutates : OperationType → Bool
  | .write | .invoke => true
  | _ => false

inductive Reply (F : Type) where
  | read (report : AttributeReply F)
  | readPaths (results : List (PathReply (AttributeReply F)))
  | readEvents (results : List (PathReply (EventReply F)))
  | write (path : Address)
  | invoke (path : Option Address) (value : Option (Element F))

/-- `decode`; `none` is `:invalid_frame`. -/
def decode (operation : OperationType) (result : Term) : Option (Reply F) :=
  match operation with
  | .read => (attributeReply result).map .read
  | .readPaths => (pathResults attributeReply AttributeReply.path result).map .readPaths
  | .readEvents => (pathResults eventReply EventReply.path result).map .readEvents
  | .write => do
      guard (mapSize result = some 2)
      let _ ← zeroStatus result
      let path ← (field "path" result).bind path
      some (.write path)
  | .invoke => do
      guard (mapSize result = some 3)
      let _ ← zeroStatus result
      let path ← (field "path" result).bind (nullable path)
      let value ← (field "value" result).bind (nullable element)
      some (.invoke path value)

/-! ## Frames -/

/-- `decode_response` under the id of the request. -/
inductive Response where
  | result (result : Term)
  | error (error : Error)
  | other

/-- The version and the id of a reply. -/
def answers (id : Bytes) (frame : Term) : Bool :=
  mapSize frame = some 4 && ((field "version" frame).bind (integerIn 1 1)).isSome &&
    (field "id" frame).bind binary = some id

/-- `decode_response`. -/
def decodeResponse (frame : Term) (id : Bytes) : Response :=
  if answers id frame then
    match (field "ok" frame).bind boolean, field "result" frame, field "error" frame with
    | some true, some result, _ => .result result
    | some false, _, some detail => .error ((error detail).getD (Error.new .invalidFrame {}))
    | _, _, _ => .other
  else .other

/-- What a call is told of the frame it waits for: a result or an error; `broken` ends the session
with `:invalid_frame`, and `other` is a frame of a subscription. -/
inductive Received (F : Type) where
  | reply (reply : Reply F)
  | failed (error : Error)
  | stopped (error : Error)
  | broken
  | other

/-- What a response comes to for a call of this operation. -/
def received (operation : OperationType) : Response → Received F
  | .result result =>
      match decode operation result with
      | some reply => .reply reply
      | none =>
          .stopped ((Error.new .invalidFrame {}).withEffect
            (if operation.mutates then .unknown else .none))
  | .error error => .failed error
  | .other => .other

/-- A line, as a call of this operation takes it that waits for the id. -/
def receive (json : Bytes → Option Term) (operation : OperationType) (id line : Bytes) :
    Received F :=
  match frame json line with
  | some frame => received operation (decodeResponse frame id)
  | none => .broken

end WotexMatter.Beam.Inbound
