/-
# WotexMatter.Native.RequestMachine -- lines that arrive inside a backend call

`ProcessLine`, `ProcessLineImpl`, `RequestClose` and `Close` of `native/src/protocol.cpp`, with
the control pump of `RunHost`.  A backend call that waits lets the pump read more lines, so one
line is processed inside another.  The function is cut where it calls the backend: `processLine`
runs to the first call or to the end, `resume` runs on from a call that has returned, and `stack`
holds the calls in between, the innermost first.  Only `Open` does not pump.

What the report flow knows of a stream (`AddStream`, `IsLive`, `Acknowledge` and the others, under
`subscription_mutex_`) is an input of each stretch, as is a channel that fails during it: callbacks
of the SDK change both at any time.  What reads the parameters of a request and writes the result
of an interaction is a `Codec`.
-/
import WotexMatter.Native.HostProtocol
import WotexMatter.Theory.Monitor
import WotexMatter.Wire.BoundedSax
import WotexMatter.Wire.RequestEnvelope

set_option autoImplicit false

namespace WotexMatter.Native.RequestMachine

open WotexMatter.Storage WotexMatter.Theory WotexMatter.Wire

/-! ## Requests and responses of the backend -/

structure NativeOpenOptions where
  fabricId : Nat
  controllerNodeId : Nat
  vendorId : Nat
  timeoutMs : Nat := 0

structure CommissioningRequest where
  nodeId : Nat
  setupPin : Nat
  discriminator : Nat
  timeoutMs : Nat

structure CommissioningError where
  code : String
  sdkStatus : Option Nat := none
  effect : InteractionEffect := .none

structure CommissioningResponse where
  ok : Bool
  error : Option CommissioningError := none
  nodeId : Nat := 0
  fabricId : Nat := 0
  caseEstablished : Bool := false

structure CommissioningWindowRequest where
  nodeId : Nat
  timeoutS : Nat
  iterationCount : Nat
  discriminator : Nat
  timeoutMs : Nat

structure CommissioningWindowResponse where
  ok : Bool
  error : Option CommissioningError := none
  nodeId : Nat := 0
  setupPin : Nat := 0
  discriminator : Nat := 0
  expiresInS : Nat := 0
  manualCode : String := ""
  qrCode : String := ""

structure SubscriptionRequest where
  subscriptionId : Bytes
  fabricId : Nat
  resubscribe : Bool
  queueLimit : Nat
  timeoutMs : Nat

structure SubscriptionResponse where
  ok : Bool
  errorCode : String := ""
  subscriptionId : Bytes := []
  generation : Nat := 0
  minIntervalS : Nat := 0
  maxIntervalS : Nat := 0
  sdkSubscriptionId : Nat := 0

inductive InteractionKind where
  | readAttribute
  | readAttributes
  | readEvents
  | write
  | invoke
  deriving DecidableEq

/-- `rest` is what only the backend and `Codec.interactionJson` read. -/
structure InteractionRequest (Q : Type) where
  kind : InteractionKind
  fabricId : Nat
  rest : Q

/-- `results` are the errors of the paths, `none` for a path with a value. -/
structure InteractionResponse (A : Type) where
  ok : Bool
  error : Option InteractionError := none
  results : List (Option InteractionError) := []
  rest : A

/-- The readers of parameters, the checks of responses and the writer of a result. -/
structure Codec (Q A : Type) where
  reader : JsonReader
  openOptions : List (Bytes × Json) → Option NativeOpenOptions
  commissioningParameters : List (Bytes × Json) → Nat → Option CommissioningRequest
  commissioningWindowParameters : List (Bytes × Json) → Nat → Option CommissioningWindowRequest
  subscriptionParameters : List (Bytes × Json) → Nat → Option SubscriptionRequest
  unsubscribeParameters : List (Bytes × Json) → Option (Bytes × Nat)
  interactionParameters : Bytes → List (Bytes × Json) → Nat → Option (InteractionRequest Q)
  validCommissioningResponse : CommissioningRequest → CommissioningResponse → Bool
  validCommissioningWindowResponse :
    CommissioningWindowRequest → CommissioningWindowResponse → Bool
  interactionJson : InteractionRequest Q → InteractionResponse A → Option Json
  encodedSize : Json → Nat

/-! ## Replies -/

/-- The parts of a request that passed `ValidRequestEnvelope`. -/
structure Request where
  document : Json
  operation : Bytes
  parameters : List (Bytes × Json)
  timeoutMs : Nat

inductive ReplyResult where
  | null
  | opened (fabricId controllerNodeId vendorId : Nat)
  | health (fabricId : Nat)
  | commissioned (nodeId fabricId : Nat)
  | window (nodeId setupPin discriminator : Nat) (manualCode qrCode : String) (expiresInS : Nat)
  | subscribed (subscriptionId : Bytes)
      (generation minIntervalS maxIntervalS sdkSubscriptionId : Nat)
  | interaction (value : Json)

/-- The frame that answers a request. -/
inductive Reply where
  | success (request : Json) (result : ReplyResult)
  | failure (request : Json) (code : String)
  | interactionFailure (request : Json) (error : InteractionError)
  | commissioningFailure (request : Json) (error : CommissioningError)

def Reply.ok : Reply → Bool
  | .success _ _ => true
  | _ => false

/-- `BackendFailure`. -/
def backendFailure (request : Request) (code : String) : Reply :=
  if request.operation ∈
      [ascii "write", ascii "invoke", ascii "commission_on_network", ascii "open_window"] then
    .interactionFailure request.document
      { code := code, status := none, clusterStatus := none, effect := .unknown }
  else .failure request.document code

structure ProcessResult where
  keepRunning : Bool := false
  frame : Option Reply := none
  activateSubscription : Option (Bytes × Nat) := none

/-- `{true, frame}`. -/
def answered (frame : Reply) : ProcessResult := { keepRunning := true, frame := some frame }

/-! ## State -/

/-- `HostProtocol::State`. -/
inductive State where
  | awaitFlow
  | awaitOpen
  | opened
  | closing
  | closed
  deriving DecidableEq

inductive Operation where
  | openController
  | commission
  | openWindow
  | subscribe
  | cancelSubscription
  | interact
  deriving DecidableEq

/-- A call of the backend with what the code after it still reads; `refuse` is the
`CancelSubscription` of a subscription that was not admitted. -/
inductive Call (Q : Type) where
  | openController (options : NativeOpenOptions)
  | commission (commissioning : CommissioningRequest)
  | openWindow (window : CommissioningWindowRequest)
  | subscribe (subscription : SubscriptionRequest)
  | refuse (subscriptionId : Bytes) (generation : Nat)
  | cancel (subscriptionId : Bytes) (generation : Nat)
  | interact (interaction : InteractionRequest Q)

def Call.operation {Q : Type} : Call Q → Operation
  | .openController _ => .openController
  | .commission _ => .commission
  | .openWindow _ => .openWindow
  | .subscribe _ => .subscribe
  | .refuse _ _ => .cancelSubscription
  | .cancel _ _ => .cancelSubscription
  | .interact _ => .interact

/-- A call that has not returned.  `late` says how the processing of its line started, and
`interrupted` that a close has been requested since the call began. -/
structure Pending (Q : Type) where
  request : Request
  call : Call Q
  late : Bool
  interrupted : Bool := false

/-- A call that was made: how many others it was made inside, whether `Open` had succeeded, and
whether its line started late. -/
structure Entry where
  operation : Operation
  below : Nat
  opened : Bool
  late : Bool

/-- A line that was answered. -/
structure Answer where
  result : ProcessResult
  interrupted : Bool := false

/-- From `opened` on, the fields are what has happened so far; the source does not keep them. -/
structure Host (Q : Type) where
  state : State := .awaitFlow
  channelFailed : Bool := false
  closeRequested : Bool := false
  cancellationPending : Bool := false
  greatestRequestId : Nat := 0
  sessionGeneration : Bytes := []
  fabricId : Nat := 0
  processingDepth : Nat := 0
  stack : List (Pending Q) := []
  opened : Bool := false
  closeSeen : Bool := false
  malformed : Bool := false
  accepted : List Nat := []
  entries : List Entry := []
  answers : List Answer := []
  closes : Nat := 0

/-- What a stretch of `ProcessLineImpl` ends with: its result, or a call. -/
inductive Outcome (Q : Type) where
  | returns (result : ProcessResult)
  | calls (request : Request) (call : Call Q)

/-- What the report flow and `subscriptions_` say of the stream of an `unsubscribe`. -/
inductive StreamStatus where
  | mismatched
  | retired
  | notLive
  | live
  deriving DecidableEq

/-- What a stretch reads besides its line: `failing` that the channel fails before its end,
`isOpen` the backend's answer to `Close`, and what the report flow answers. -/
structure Surroundings where
  failing : Bool := false
  isOpen : Bool := true
  acknowledged : Bool := true
  stream : StreamStatus := .live
  admitted : Bool := true
  gone : Bool := false
  retired : Bool := true

inductive Response (A : Type) where
  | opened (result : BackendResult)
  | commissioned (response : CommissioningResponse)
  | window (response : CommissioningWindowResponse)
  | subscribed (response : SubscriptionResponse)
  | cancelled (result : BackendResult)
  | interacted (response : InteractionResponse A)

namespace Host

variable {Q A : Type}

/-! ## Closing -/

def healthy (h : Host Q) : Bool := !h.channelFailed

def failChannel (h : Host Q) : Host Q := { h with channelFailed := true }

/-- `RequestClose`. -/
def requestClose (h : Host Q) : Host Q :=
  { h with
    closeRequested := true
    state := if h.state = .closed then .closed else .closing
    closeSeen := true
    stack := h.stack.map fun pending => { pending with interrupted := true } }

/-- `Close`. -/
def close (h : Host Q) (isOpen : Bool) : Host Q :=
  if 1 < h.processingDepth then h.requestClose
  else if h.state = .closed then h
  else
    { h with
      state := .closed, closeSeen := true, closes := if isOpen then h.closes + 1 else h.closes }

/-- `Close` after a frame that is not allowed where it arrived. -/
def reject (h : Host Q) (isOpen : Bool) : Host Q := { h with malformed := true }.close isOpen

/-! ## One line -/

/-- `CanonicalGeneration`. -/
def canonicalGeneration : Json → Option Bytes
  | .string text =>
      if text.length = 32 ∧ text.all fun byte => isDigit byte || (97 ≤ byte && byte ≤ 102) then
        some text
      else none
  | _ => none

/-- The handshake, `flow_open`. -/
def flowOpen : Json → Option Bytes
  | .object members =>
      if exactKeys members [ascii "version", ascii "event", ascii "session_generation"] then
        match members.lookup (ascii "version"), members.lookup (ascii "event"),
          members.lookup (ascii "session_generation") with
        | some (.unsigned version), some (.string event), some generation =>
            if version = kProtocolVersion ∧ event = ascii "flow_open" then
              canonicalGeneration generation
            else none
        | _, _, _ => none
      else none
  | _ => none

/-- A document with the keys of a `report_ack`. -/
def acknowledges : Json → Bool
  | .object members =>
      exactKeys members
        [ascii "version", ascii "event", ascii "session_generation", ascii "report_sequence",
          ascii "acknowledged_bytes"]
  | _ => false

/-- `valid` of a `report_ack`, whose counters are any numbers of 64 bits. -/
def validAcknowledgement (h : Host Q) : Json → Bool
  | .object members =>
      match members.lookup (ascii "version"), members.lookup (ascii "event"),
        members.lookup (ascii "session_generation"), members.lookup (ascii "report_sequence"),
        members.lookup (ascii "acknowledged_bytes") with
      | some (.unsigned version), some (.string event), some generation, some (.unsigned _),
          some (.unsigned _) =>
          version = kProtocolVersion && event = ascii "report_ack" &&
            canonicalGeneration generation = some h.sessionGeneration
      | _, _, _, _, _ => false
  | _ => false

/-- `ValidRequestEnvelope` with the parts the rest of the function takes from the request. -/
def readRequest (document : Json) : Option (Option Nat × Request) :=
  match validRequestEnvelope document, document with
  | some id, .object members =>
      match members.lookup (ascii "operation"), members.lookup (ascii "parameters"),
        members.lookup (ascii "timeout_ms") with
      | some (.string operation), some (.object parameters), some (.unsigned timeout) =>
          some (id, ⟨document, operation, parameters, timeout.toNat⟩)
      | _, _, _ => none
  | _, _ => none

/-- `{true, Failure(request, code)}`. -/
def refused (request : Request) (code : String) : Outcome Q :=
  .returns (answered (.failure request.document code))

/-- The state `AwaitOpen`, up to the call of `Open`. -/
def awaitOpen (codec : Codec Q A) (h : Host Q) (request : Request) (around : Surroundings) :
    Host Q × Outcome Q :=
  match if request.operation = ascii "open" then codec.openOptions request.parameters else none with
  | none =>
      (h.close around.isOpen,
        .returns { frame := some (.failure request.document "invalid_request") })
  | some options =>
      (h, .calls request (.openController { options with timeoutMs := request.timeoutMs }))

/-- The operation `unsubscribe`, up to the call of `CancelSubscription`. -/
def unsubscribe (codec : Codec Q A) (h : Host Q) (request : Request) (around : Surroundings) :
    Host Q × Outcome Q :=
  if h.cancellationPending then (h, refused request "subscription_busy")
  else
    match codec.unsubscribeParameters request.parameters with
    | none => (h, refused request "invalid_request")
    | some (subscriptionId, generation) =>
        match around.stream with
        | .mismatched => (h, refused request "invalid_subscription")
        | .retired => (h, .returns (answered (.success request.document .null)))
        | .notLive => (h, refused request "invalid_subscription")
        | .live =>
            ({ h with cancellationPending := true },
              .calls request (.cancel subscriptionId generation))

/-- A `fabric_id` among the parameters that is a number and not the host's. -/
def otherFabric (h : Host Q) (request : Request) : Bool :=
  match request.parameters.lookup (ascii "fabric_id") with
  | some (.unsigned fabricId) => fabricId.toNat != h.fabricId
  | _ => false

/-- The operations of the SDK, up to the call of the backend. -/
def operate (codec : Codec Q A) (h : Host Q) (request : Request) (around : Surroundings) :
    Host Q × Outcome Q :=
  if request.operation = ascii "commission_on_network" then
    match codec.commissioningParameters request.parameters request.timeoutMs with
    | none => (h, refused request "invalid_request")
    | some commissioning => (h, .calls request (.commission commissioning))
  else if request.operation = ascii "open_window" then
    match codec.commissioningWindowParameters request.parameters request.timeoutMs with
    | none => (h, refused request "invalid_request")
    | some window => (h, .calls request (.openWindow window))
  else if request.operation = ascii "subscribe" then
    match codec.subscriptionParameters request.parameters request.timeoutMs with
    | none => (h, refused request "invalid_request")
    | some subscription =>
        if subscription.fabricId ≠ h.fabricId then (h, refused request "fabric_mismatch")
        else (h, .calls request (.subscribe subscription))
  else if request.operation = ascii "unsubscribe" then h.unsubscribe codec request around
  else if h.otherFabric request then (h, refused request "fabric_mismatch")
  else
    match codec.interactionParameters request.operation request.parameters request.timeoutMs with
    | some interaction =>
        if interaction.fabricId ≠ h.fabricId then (h, refused request "fabric_mismatch")
        else (h, .calls request (.interact interaction))
    | none =>
        if request.operation ∈
            [ascii "read", ascii "read_paths", ascii "read_events", ascii "write",
              ascii "invoke"] then
          (h, refused request "invalid_request")
        else (h, refused request "not_supported")

/-- An accepted request, from the state `AwaitOpen` on. -/
def dispatch (codec : Codec Q A) (h : Host Q) (request : Request) (around : Surroundings) :
    Host Q × Outcome Q :=
  if h.state = .awaitOpen then h.awaitOpen codec request around
  else if h.state ≠ .opened then (h, .returns {})
  else if request.operation = ascii "close" ∧ request.parameters = [] then
    (h.close around.isOpen, .returns { frame := some (.success request.document .null) })
  else if request.operation = ascii "health" ∧ request.parameters = [] then
    (h, .returns (answered (.success request.document (.health h.fabricId))))
  else if 1 < h.processingDepth ∧ request.operation ≠ ascii "unsubscribe" then
    (h, refused request "interaction_busy")
  else h.operate codec request around

/-- A number above `greatest_request_id_`. -/
def accept (h : Host Q) (id : Nat) : Host Q :=
  { h with greatestRequestId := id, accepted := h.accepted ++ [id] }

/-- `ProcessLineImpl`, up to the first call of the backend. -/
def processLineImpl (codec : Codec Q A) (h : Host Q) (line : Bytes) (around : Surroundings) :
    Host Q × Outcome Q :=
  if h.healthy = false then (h.close around.isOpen, .returns {})
  else
    match parseBounded codec.reader line with
    | none => (h.reject around.isOpen, .returns {})
    | some document =>
        if h.state = .awaitFlow then
          match flowOpen document with
          | none => (h.reject around.isOpen, .returns {})
          | some generation =>
              ({ h with sessionGeneration := generation, state := .awaitOpen },
                .returns { keepRunning := true })
        else if h.state = .opened ∧ acknowledges document = true then
          if h.validAcknowledgement document && around.acknowledged then
            (h, .returns { keepRunning := true })
          else (h.failChannel.reject around.isOpen, .returns {})
        else
          match readRequest document with
          | none => (h.reject around.isOpen, .returns {})
          | some (none, request) =>
              if h.state ≠ .opened then (h.reject around.isOpen, .returns {})
              else h.dispatch codec request around
          | some (some id, request) =>
              if id ≤ h.greatestRequestId then (h.reject around.isOpen, .returns {})
              else (h.accept id).dispatch codec request around

/-! ## Behind a call -/

/-- `error_code`, or the code for a response that has none. -/
def orCode (code default : String) : String := if code = "" then default else code

/-- Behind `Open`. -/
def afterOpen (h : Host Q) (request : Request) (options : NativeOpenOptions)
    (result : BackendResult) (around : Surroundings) : Host Q × Outcome Q :=
  if h.closeRequested ∨ h.healthy = false then (h, .returns {})
  else if result.ok = false then
    (h.close around.isOpen,
      .returns
        { frame := some
            (.failure request.document (orCode result.errorCode "controller_start_failed")) })
  else
    ({ h with fabricId := options.fabricId, state := .opened, opened := true },
      .returns (answered (.success request.document
        (.opened options.fabricId options.controllerNodeId options.vendorId))))

/-- Behind `Commission`; `*response.error` is there in a response that is valid and not `ok`. -/
def afterCommission (codec : Codec Q A) (h : Host Q) (request : Request)
    (commissioning : CommissioningRequest) (response : CommissioningResponse) : Outcome Q :=
  if h.closeRequested ∨ h.healthy = false then .returns {}
  else if codec.validCommissioningResponse commissioning response = false then
    .returns (answered (backendFailure request "invalid_backend_result"))
  else if response.ok = false then
    .returns (answered
      (.commissioningFailure request.document (response.error.getD { code := "" })))
  else
    .returns (answered
      (.success request.document (.commissioned response.nodeId response.fabricId)))

/-- Behind `OpenWindow`. -/
def afterOpenWindow (codec : Codec Q A) (h : Host Q) (request : Request)
    (window : CommissioningWindowRequest) (response : CommissioningWindowResponse) : Outcome Q :=
  if h.closeRequested ∨ h.healthy = false then .returns {}
  else if codec.validCommissioningWindowResponse window response = false then
    .returns (answered (backendFailure request "invalid_backend_result"))
  else if response.ok = false then
    .returns (answered
      (.commissioningFailure request.document (response.error.getD { code := "" })))
  else
    .returns (answered
      (.success request.document
        (.window response.nodeId response.setupPin response.discriminator response.manualCode
          response.qrCode response.expiresInS)))

/-- Behind `Subscribe`. -/
def afterSubscribe (h : Host Q) (request : Request) (subscription : SubscriptionRequest)
    (response : SubscriptionResponse) (around : Surroundings) : Outcome Q :=
  if h.closeRequested ∨ h.healthy = false then .returns {}
  else if response.ok = false then
    refused request (orCode response.errorCode "subscription_failed")
  else if response.subscriptionId ≠ subscription.subscriptionId ∨ response.generation = 0 ∨
      response.maxIntervalS = 0 ∨ response.maxIntervalS < response.minIntervalS then
    .returns (answered (backendFailure request "invalid_backend_result"))
  else if around.admitted = false then
    .calls request (.refuse response.subscriptionId response.generation)
  else
    .returns
      { answered (.success request.document
          (.subscribed response.subscriptionId response.generation response.minIntervalS
            response.maxIntervalS response.sdkSubscriptionId)) with
        activateSubscription := some (response.subscriptionId, response.generation) }

/-- Behind the `CancelSubscription` of an `unsubscribe`. -/
def afterCancel (h : Host Q) (request : Request) (cancelled : BackendResult)
    (around : Surroundings) : Host Q × Outcome Q :=
  let h := { h with cancellationPending := false }
  if h.closeRequested ∨ h.healthy = false then (h, .returns {})
  else if around.gone then (h, .returns (answered (.success request.document .null)))
  else if cancelled.ok = false then
    (h, refused request (orCode cancelled.errorCode "invalid_subscription"))
  else if around.retired = false then (h.close around.isOpen, .returns {})
  else (h, .returns (answered (.success request.document .null)))

/-- Behind `Interact`. -/
def afterInteract (codec : Codec Q A) (h : Host Q) (request : Request)
    (interaction : InteractionRequest Q) (response : InteractionResponse A) : Outcome Q :=
  if h.closeRequested ∨ h.healthy = false then .returns {}
  else if response.ok = false then
    match response.error with
    | none => .returns (answered (backendFailure request "invalid_backend_result"))
    | some error =>
        if error.code = "" then
          .returns (answered (backendFailure request "invalid_backend_result"))
        else .returns (answered (.interactionFailure request.document error))
  else
    match interaction.kind, response.results with
    | .readAttribute, [some error] =>
        .returns (answered (.interactionFailure request.document error))
    | _, _ =>
        match codec.interactionJson interaction response with
        | none => .returns (answered (backendFailure request "invalid_backend_result"))
        | some result =>
            if 98304 < codec.encodedSize result then
              .returns (answered (backendFailure request "response_limit"))
            else .returns (answered (.success request.document (.interaction result)))

/-- `ProcessLineImpl` from the return of a call on, `none` where the response is no answer to the
call. -/
def resumeImpl (codec : Codec Q A) (h : Host Q) (request : Request) (around : Surroundings) :
    Call Q → Response A → Option (Host Q × Outcome Q)
  | .openController options, .opened result => some (h.afterOpen request options result around)
  | .commission commissioning, .commissioned response =>
      some (h, h.afterCommission codec request commissioning response)
  | .openWindow window, .window response => some (h, h.afterOpenWindow codec request window response)
  | .subscribe subscription, .subscribed response =>
      some (h, h.afterSubscribe request subscription response around)
  | .refuse _ _, .cancelled _ => some (h, refused request "subscription_busy")
  | .cancel _ _, .cancelled cancelled => some (h.afterCancel request cancelled around)
  | .interact interaction, .interacted response =>
      some (h, h.afterInteract codec request interaction response)
  | _, _ => none

/-! ## `ProcessLine` -/

def answer (h : Host Q) (interrupted : Bool) (result : ProcessResult) : Host Q :=
  { h with answers := h.answers ++ [⟨result, interrupted⟩] }

/-- The end of `ProcessLine`: the close that waited for the outermost line. -/
def leave (h : Host Q) (interrupted : Bool) (result : ProcessResult) (around : Surroundings) :
    Host Q :=
  let h := { h with
    processingDepth := h.processingDepth - 1
    channelFailed := h.channelFailed || around.failing }
  if h.processingDepth = 0 ∧ (h.closeRequested ∨ h.healthy = false) then
    (h.close around.isOpen).answer interrupted {}
  else h.answer interrupted result

/-- A call of the backend begins. -/
def enter (h : Host Q) (late : Bool) (request : Request) (call : Call Q) : Host Q :=
  { h with
    entries := h.entries ++ [⟨call.operation, h.stack.length, h.opened, late⟩]
    stack := { request := request, call := call, late := late } :: h.stack }

def conclude (late interrupted : Bool) (around : Surroundings) : Host Q × Outcome Q → Host Q
  | (h, .returns result) => h.leave interrupted result around
  | (h, .calls request call) => h.enter late request call

/-- A close was requested, a frame was malformed or the channel has failed. -/
def late (h : Host Q) : Bool := h.closeSeen || h.malformed || h.channelFailed

/-- `ProcessLine`, up to the first call of the backend. -/
def processLine (codec : Codec Q A) (h : Host Q) (line : Bytes) (around : Surroundings) :
    Host Q :=
  conclude h.late false around
    ({ h with processingDepth := h.processingDepth + 1 }.processLineImpl codec line around)

/-- The innermost call returns. -/
def resume (codec : Codec Q A) (h : Host Q) (response : Response A) (around : Surroundings) :
    Option (Host Q) :=
  match h.stack with
  | [] => none
  | pending :: outer =>
      ({ h with stack := outer }.resumeImpl codec pending.request around pending.call
        response).map (conclude pending.late pending.interrupted around)

/-- The control pump runs, or the loop of `RunHost` does. -/
def reads (h : Host Q) : Bool :=
  match h.stack with
  | [] => true
  | pending :: _ => pending.call.operation != .openController

end Host

/-! ## Runs -/

inductive Event (A : Type) where
  | line (line : Bytes) (around : Surroundings)
  | resume (response : Response A) (around : Surroundings)
  | failChannel
  | requestClose
  | finish (isOpen : Bool)

variable {Q A : Type}

def step (codec : Codec Q A) (h : Host Q) : Event A → Option (Host Q)
  | .line line around => if h.reads then some (h.processLine codec line around) else none
  | .resume response around => h.resume codec response around
  | .failChannel => some h.failChannel
  | .requestClose => some h.requestClose
  | .finish isOpen => if h.processingDepth = 0 then some (h.close isOpen) else none

def start : Host Q := {}

end WotexMatter.Native.RequestMachine
