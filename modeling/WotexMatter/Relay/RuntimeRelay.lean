/-
# WotexMatter.Relay.RuntimeRelay -- the process between a subscription and a Runtime stream

`Wotex.Matter.RuntimeRelay` (`lib/wotex/matter/runtime_relay.ex`).  The relay owns one
subscription.  It turns each report into a frame for its owner, keeps the report's delivery
under the token of the frame, and sends the consumption message of the delivery when the owner
has the frame decoded.  Every error ends the stream and gives the subscription and the session
back.

The functions of the source are functions on the process state; what they do to the outside is
kept in `log`, in order.  `RelayWorld` answers what the process asks of the outside.  Calls of
processes other than the owner, and frames nobody was sent, are inputs like the others.
-/
import WotexMatter.Theory.Table
import WotexMatter.Read.EventResults

set_option autoImplicit false
set_option linter.unusedSectionVars false

namespace WotexMatter.Relay

open WotexMatter.Theory WotexMatter.Value WotexMatter.Tlv WotexMatter.Read

/-- `@opening_limit`. -/
def openingLimit : Nat := 64

inductive StreamOperation where
  | observeproperty
  | subscribeevent
deriving DecidableEq, Repr

inductive StreamKind where
  | attribute
  | event
deriving DecidableEq, Repr

def StreamKind.member : StreamKind → MemberKind
  | .attribute => .attribute
  | .event => .event

/-- `identity`: the request the owner has to name to have a frame decoded. -/
structure Route where
  requestId : String
  operation : StreamOperation
  kind : StreamKind
  address : Address
deriving DecidableEq

/-! ## Reports -/

/-- The value under a key of a map. -/
inductive MapEntry where
  | absent
  | null
  | integer (value : Int)
  | other
deriving DecidableEq, Repr

/-- What `project` reads of the metadata.  `none` is a missing key; a path and a timestamp of
another shape are `some none`. -/
structure Metadata where
  kind : Option StreamKind
  path : Option (Option Address)
  status : MapEntry := .absent
  dataVersion : MapEntry := .absent
  eventNumber : MapEntry := .absent
  priority : MapEntry := .absent
  timestamp : Option (Option Timestamp) := none
deriving DecidableEq

/-- What follows the reference in a `:wotex_matter` message. -/
inductive Notice (F : Type) where
  | ok (value : Option (Element F)) (metadata : Metadata)
  | error (code : String)
  | status
  | other
deriving DecidableEq

structure Delivery (F : Type) where
  connection : Nat
  generation : String
  reference : Nat
  sequence : Nat
  token : Nat
  value : Notice F
deriving DecidableEq

/-- The metadata of a frame. -/
inductive Projected where
  | attribute (path : Address) (dataVersion : Option Int)
  | event (path : Address) (eventNumber priority : Int) (timestamp : Timestamp)
deriving DecidableEq

structure Payload (F : Type) where
  value : Element F
  metadata : Projected
deriving DecidableEq

/-- `invalidElement` is the error of `Descriptor.validate_element`, `client` one that came from
the client. -/
inductive RelayError where
  | client (code : String)
  | invalidPath
  | invalidElement
  | invalidTransportReturn
  | receiverOverflow
  | transportClosed
  | unsupportedStreamStatus
deriving DecidableEq, Repr

inductive TransportStatus where
  | transportDown
  | sessionLost
deriving DecidableEq, Repr

/-- `success_status?`. -/
def successStatus (metadata : Metadata) : Bool :=
  metadata.status = .absent || metadata.status = .integer 0

section Project

variable {F : Type} (floats : Floats F)

/-- `{:ok, ^address} <- Address.new(path)`. -/
def samePath (address : Address) (path : Option Address) : Except RelayError Unit :=
  match Address.new path with
  | none => .error .invalidPath
  | some path => if path = address then .ok () else .error .invalidTransportReturn

/-- The last check of both clauses of `project`. -/
def projectElement (kind : MemberKind) (address : Address) (value : Option (Element F)) :
    Except RelayError (Element F) :=
  match Descriptor.validateElement floats kind (some address) .read value with
  | none => .error .invalidElement
  | some value => .ok value

/-- `true <- …` in a `with`. -/
def require (holds : Bool) : Except RelayError Unit :=
  if holds then .ok () else .error .invalidTransportReturn

/-- `is_nil(version) or version in 0..0xFFFFFFFF`. -/
def dataVersion : MapEntry → Except RelayError (Option Int)
  | .null => .ok none
  | .integer version =>
      if inRange version 0 0xFFFFFFFF then .ok (some version) else .error .invalidTransportReturn
  | .absent | .other => .error .invalidTransportReturn

/-- `is_integer(number) and number in low..high`. -/
def integerIn (low high : Int) : MapEntry → Except RelayError Int
  | .integer value =>
      if inRange value low high then .ok value else .error .invalidTransportReturn
  | .absent | .null | .other => .error .invalidTransportReturn

/-- `valid_timestamp?`. -/
def validTimestamp : Option Timestamp → Except RelayError Timestamp
  | some timestamp =>
      if uint64 timestamp.value then .ok timestamp else .error .invalidTransportReturn
  | none => .error .invalidTransportReturn

def project (route : Route) (value : Option (Element F)) (metadata : Metadata) :
    Except RelayError (Payload F) :=
  match route.kind, metadata.kind, metadata.path with
  | .attribute, some .attribute, some path =>
      if metadata.dataVersion = .absent then .error .invalidTransportReturn
      else do
        samePath route.address path
        require (successStatus metadata)
        let version ← dataVersion metadata.dataVersion
        let value ← projectElement floats .attribute route.address value
        return { value, metadata := .attribute route.address version }
  | .event, some .event, some path =>
      match metadata.timestamp with
      | none => .error .invalidTransportReturn
      | some timestamp =>
          if metadata.eventNumber = .absent ∨ metadata.priority = .absent then
            .error .invalidTransportReturn
          else do
            samePath route.address path
            require (successStatus metadata)
            let number ← integerIn 0 0xFFFFFFFFFFFFFFFF metadata.eventNumber
            let priority ← integerIn 0 255 metadata.priority
            let timestamp ← validTimestamp timestamp
            let value ← projectElement floats .event route.address value
            return { value, metadata := .event route.address number priority timestamp }
  | _, _, _ => .error .invalidTransportReturn

end Project

/-! ## The process -/

/-- A message of the relay's mailbox. -/
inductive RelayInfo (F : Type) where
  | notice (reference : Nat) (notice : Notice F)
  | delivery (reference : Nat) (delivery : Delivery F)
  | down (monitor process : Nat)
  | other
deriving DecidableEq

/-- What the process does to the outside.  `framed` is the frame sent to the owner with the
delivery it was made from, which stays with the relay; `returned` is the reply to `decode`. -/
inductive RelayEvent (F : Type) where
  | framed (token : Nat) (payload : Payload F) (native : Option (Delivery F))
  | consumed (delivery : Delivery F)
  | returned (caller token : Nat) (payload : Payload F)
  | errored (error : RelayError)
  | demonitored
  | unsubscribed
  | disconnected
  | statused (status : TransportStatus)
deriving DecidableEq

inductive RelayState where
  | bound
  | closing
  | closed
deriving DecidableEq, Repr

structure RuntimeRelay (F : Type) where
  owner : Nat
  route : Route
  /-- The process and the generation of the handle when the client is `Native`. -/
  native : Option (Nat × String)
  ownerMonitor : Nat
  nativeMonitor : Option Nat
  reference : Nat
  generation : String
  ownerQueueLimit : Nat
  state : RelayState := .bound
  opening : List (RelayInfo F) := []
  pending : Table Nat (Route × Payload F × Option (Delivery F)) := ∅
  closed : Bool := false
  /-- The next value of `make_ref`. -/
  references : Nat := 0
  stopped : Bool := false
  looks : Nat := 0
  log : List (RelayEvent F) := []

/-- The queue length of the owner at each look, and what the facade answers at the end. -/
structure RelayWorld where
  messageQueueLen : Nat → Option Nat
  unsubscribe : Except RelayError Unit
  disconnect : Except RelayError Unit

namespace RuntimeRelay

variable {F : Type} (floats : Floats F) (world : RelayWorld)

def report (r : RuntimeRelay F) (event : RelayEvent F) : RuntimeRelay F :=
  { r with log := r.log ++ [event] }

/-- The process state `close_resources` returns. -/
def released (r : RuntimeRelay F) : RuntimeRelay F :=
  { r with
    state := .closed
    pending := ∅
    closed := true
    log := r.log ++ (if r.nativeMonitor.isSome then [.demonitored] else []) ++
      [.unsubscribed, .disconnected] }

def closeResources (r : RuntimeRelay F) : Except RelayError Unit × RuntimeRelay F :=
  if r.closed then (.ok (), r)
  else
    (match world.unsubscribe, world.disconnect with
      | .ok (), .ok () => .ok ()
      | .error error, _ => .error error
      | .ok (), .error error => .error error,
      r.released)

/-- `{:stop, :normal, state}`; `terminate` then releases what is not yet released. -/
def stop (r : RuntimeRelay F) : RuntimeRelay F :=
  if r.closed then { r with stopped := true }
  else { (closeResources world r).2 with stopped := true }

def terminateStream (r : RuntimeRelay F) (error : RelayError) (status : TransportStatus) :
    RuntimeRelay F :=
  stop world
    ((closeResources world { r.report (.errored error) with state := .closing }).2.report
      (.statused status))

def terminalStatus (code : String) : TransportStatus :=
  if code = "receiver_overflow" then .transportDown else .sessionLost

/-- A frame is sent to the owner and its delivery kept under the token. -/
def sendFrame (r : RuntimeRelay F) (payload : Payload F) (native : Option (Delivery F)) :
    RuntimeRelay F :=
  { r.report (.framed r.references payload native) with
    references := r.references + 1
    pending := r.pending.insert r.references (r.route, payload, native) }

def enqueue (r : RuntimeRelay F) (payload : Payload F) (native : Option (Delivery F)) :
    RuntimeRelay F :=
  if Table.size r.pending ≥ openingLimit then
    terminateStream world r .receiverOverflow .transportDown
  else
    let looked := { r with looks := r.looks + 1 }
    match world.messageQueueLen r.looks with
    | some length =>
        if length < r.ownerQueueLimit then looked.sendFrame payload native
        else terminateStream world looked .receiverOverflow .transportDown
    | none => terminateStream world looked .receiverOverflow .transportDown

/-- The clauses of `handle_info` for a message under the relay's reference. -/
def handleNotice (r : RuntimeRelay F) (notice : Notice F) (native : Option (Delivery F)) :
    RuntimeRelay F :=
  match notice with
  | .ok value metadata =>
      match project floats r.route value metadata with
      | .ok payload => enqueue world r payload native
      | .error error => terminateStream world r error .transportDown
  | .error code => terminateStream world r (.client code) (terminalStatus code)
  | .status => terminateStream world r .unsupportedStreamStatus .transportDown
  | .other => r

def handleInfo (r : RuntimeRelay F) : RelayInfo F → RuntimeRelay F
  | .delivery reference delivery =>
      if r.state = .bound ∧ reference = r.reference ∧ delivery.reference = r.reference ∧
          r.native = some (delivery.connection, delivery.generation) then
        handleNotice floats world r delivery.value (some delivery)
      else r
  | .notice reference notice =>
      if r.state = .bound ∧ reference = r.reference then
        handleNotice floats world r notice none
      else r
  | .down monitor process =>
      if monitor = r.ownerMonitor ∧ process = r.owner then
        stop world (closeResources world { r with state := .closing }).2
      else if r.nativeMonitor = some monitor ∧ r.state = .bound then
        terminateStream world r .transportClosed .sessionLost
      else r
  | .other => r

/-! ## Calls -/

/-- The value of a frame, as the caller of `decode` gives it. -/
inductive FrameValue (F : Type) where
  | value (payload : Payload F)
  | other
deriving DecidableEq

inductive RelayCall (F : Type) where
  | handle
  | decode (generation : String) (token : Nat) (value : FrameValue F) (identity : Route)
  | close (generation : String)
  | other
deriving DecidableEq

inductive RelayReply (F : Type) where
  | handle (generation : String)
  | decoded (payload : Payload F)
  | ignore
  | closed (result : Except RelayError Unit)
  | invalidHandle

variable [DecidableEq F]

/-- The pending entry is handed out: its credit goes back to the connection, its value to the
caller. -/
def handOut (r : RuntimeRelay F) (caller token : Nat) (payload : Payload F)
    (native : Option (Delivery F)) : RuntimeRelay F :=
  { r with
    pending := r.pending.erase token
    log := r.log ++ (native.toList.map .consumed) ++ [.returned caller token payload] }

def handleCall (r : RuntimeRelay F) (caller : Nat) :
    RelayCall F → RelayReply F × RuntimeRelay F
  | .handle => (if r.state = .bound then .handle r.generation else .invalidHandle, r)
  | .decode generation token value identity =>
      if caller = r.owner ∧ generation = r.generation ∧ r.state = .bound then
        match r.pending.lookup token with
        | some (route, payload, native) =>
            if identity = route ∧ value = .value payload then
              (.decoded payload, r.handOut caller token payload native)
            else (.ignore, r)
        | none => (.ignore, r)
      else (.ignore, r)
  | .close generation =>
      if generation = r.generation then
        let released := closeResources world { r with state := .closing }
        (.closed released.1, stop world released.2)
      else (.invalidHandle, r)
  | .other => (.invalidHandle, r)

/-! ## Start and runs -/

/-- What `init` binds the relay with. -/
structure Binding where
  owner : Nat
  route : Route
  native : Option (Nat × String)
  ownerMonitor : Nat
  nativeMonitor : Option Nat
  reference : Nat
  generation : String
  ownerQueueLimit : Nat

def RelayInfo.under (reference : Nat) : RelayInfo F → Bool
  | .notice told _ | .delivery told _ => told = reference
  | .down .. | .other => false

/-- `opening_reports`: the messages under the reference, unless there are too many. -/
def openingReports (reference : Nat) (mailbox : List (RelayInfo F)) :
    Option (List (RelayInfo F)) :=
  let reports := mailbox.filter (RelayInfo.under reference)
  if reports.length ≤ openingLimit then some reports else none

def bound (binding : Binding) (opening : List (RelayInfo F)) : RuntimeRelay F where
  owner := binding.owner
  route := binding.route
  native := binding.native
  ownerMonitor := binding.ownerMonitor
  nativeMonitor := binding.nativeMonitor
  reference := binding.reference
  generation := binding.generation
  ownerQueueLimit := binding.ownerQueueLimit
  opening := opening

/-- `Enum.reduce_while` over the opening messages. -/
def flushMessages (r : RuntimeRelay F) : List (RelayInfo F) → RuntimeRelay F
  | [] => r
  | message :: messages =>
      if (handleInfo floats world r message).stopped then handleInfo floats world r message
      else flushMessages (handleInfo floats world r message) messages

/-- `handle_continue(:flush_opening, …)`. -/
def flushOpening (r : RuntimeRelay F) : RuntimeRelay F :=
  flushMessages floats world { r with opening := [] } r.opening

/-- The end of `init` and the continuation it asks for; `none` is `:receiver_overflow`. -/
def start (binding : Binding) (mailbox : List (RelayInfo F)) : Option (RuntimeRelay F) :=
  (openingReports binding.reference mailbox).map fun opening =>
    flushOpening floats world (bound binding opening)

inductive RelayInput (F : Type) where
  | info (message : RelayInfo F)
  | call (caller : Nat) (call : RelayCall F)

def step (r : RuntimeRelay F) (input : RelayInput F) : RuntimeRelay F :=
  if r.stopped then r
  else
    match input with
    | .info message => handleInfo floats world r message
    | .call caller call => (handleCall world r caller call).2

def run (r : RuntimeRelay F) (inputs : List (RelayInput F)) : RuntimeRelay F :=
  inputs.foldl (step floats world) r

end RuntimeRelay

end WotexMatter.Relay
