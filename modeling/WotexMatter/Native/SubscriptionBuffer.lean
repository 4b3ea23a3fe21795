/-
# WotexMatter.Native.SubscriptionBuffer -- the reports of one SDK subscription

`SubscriptionBuffer` and `SubscriptionRecovery` (`native/src/subscription.cpp`): the
queue between the SDK callbacks and the sinks of the host, and the count of recovery
attempts.  A value is any type; of an event the buffer reads the number.
-/
import WotexMatter.Native.HostProtocol

set_option autoImplicit false

namespace WotexMatter.Native

deriving instance DecidableEq for SubscriptionReport

structure ConcretePath where
  fabricId : Nat
  nodeId : Nat
  endpoint : Nat
  cluster : Nat
  member : Nat
deriving DecidableEq, Repr

structure PathSelector where
  fabricId : Nat
  nodeId : Nat
  endpoint : Option Nat
  cluster : Option Nat
  member : Option Nat
deriving DecidableEq, Repr

/-- `Matches`; an absent part of the selector equals no number. -/
def PathSelector.admits (selector : PathSelector) (path : ConcretePath) : Bool :=
  decide (selector.fabricId = path.fabricId ∧ selector.nodeId = path.nodeId ∧
    selector.endpoint = some path.endpoint ∧ selector.cluster = some path.cluster ∧
    selector.member = some path.member)

inductive SubscriptionKind where
  | attributes
  | events
deriving DecidableEq, Repr

/-- `EventData`; priority and timestamp are part of the value. -/
structure EventData (V : Type) where
  eventNumber : Nat
  value : V
deriving DecidableEq, Repr

structure PathResult (V : Type) where
  path : ConcretePath
  attributeData : Option V := none
  event : Option (EventData V) := none
  error : Option InteractionError := none
deriving DecidableEq, Repr

/-- What identifies an event. -/
def PathResult.identity? {V : Type} (result : PathResult V) : Option (ConcretePath × Nat) :=
  result.event.map fun event => (result.path, event.eventNumber)

structure SubscriptionRequest where
  subscriptionId : String
  kind : SubscriptionKind
  paths : List PathSelector
  minIntervalS : Nat := 1
  maxIntervalS : Nat := 60
  resubscribe : Bool := false
  queueLimit : Nat := 1000
deriving DecidableEq, Repr

/-- What a `SubscriptionReport` carries besides the identity of its stream. -/
structure ReportBody (V : Type) where
  kind : SubscriptionKind
  result : PathResult V
  initial : Bool
  reportId : Nat
  minIntervalS : Nat
  maxIntervalS : Nat
  sdkSubscriptionId : Nat
deriving DecidableEq, Repr

abbrev NativeReport (V : Type) := SubscriptionReport (ReportBody V)

/-- `valid_subscription_report`. -/
def validSubscriptionReport {V : Type} (request : SubscriptionRequest) (report : NativeReport V) :
    Bool :=
  decide (report.subscriptionId = request.subscriptionId) && decide (report.generation ≠ 0) &&
    decide (report.payload.kind = request.kind) && decide (report.payload.reportId ≠ 0) &&
    decide (report.payload.maxIntervalS ≠ 0) &&
    decide (report.payload.minIntervalS ≤ report.payload.maxIntervalS) &&
    (match request.kind with
      | .attributes => report.payload.result.attributeData.isSome &&
          report.payload.result.event.isNone && report.payload.result.error.isNone
      | .events => report.payload.result.event.isSome &&
          report.payload.result.attributeData.isNone && report.payload.result.error.isNone) &&
    request.paths.any fun path => path.admits report.payload.result.path

structure SubscriptionBuffer (V : Type) where
  request : SubscriptionRequest
  buffered : List (NativeReport V) := []
  ready : List (NativeReport V) := []
  currentAttributePaths : List ConcretePath := []
  currentEventIds : List (ConcretePath × Nat) := []
  initialAttributePaths : List ConcretePath := []
  eventIdCache : List (ConcretePath × Nat) := []
  generation : Nat := 1
  reportId : Nat := 0
  sdkSubscriptionId : Nat := 0
  revisedMinIntervalS : Nat := 0
  revisedMaxIntervalS : Nat := 0
  inReport : Bool := false
  established : Bool := false
  activated : Bool := false
  active : Bool := true
deriving DecidableEq

namespace SubscriptionBuffer

variable {V : Type}

def beginReport (b : SubscriptionBuffer V) : SubscriptionBuffer V :=
  if !b.active ∨ b.inReport ∨ b.reportId = maxU64 then { b with active := false }
  else { b with
    reportId := b.reportId + 1
    inReport := true
    currentAttributePaths := []
    currentEventIds := [] }

def duplicateInCurrentReport (b : SubscriptionBuffer V) (result : PathResult V) : Bool :=
  match b.request.kind with
  | .attributes => decide (result.path ∈ b.currentAttributePaths)
  | .events => result.identity?.any fun identity => decide (identity ∈ b.currentEventIds)

def suppressedDuplicate (b : SubscriptionBuffer V) (result : PathResult V) : Bool :=
  match b.request.kind with
  | .attributes => !b.established && decide (result.path ∈ b.initialAttributePaths)
  | .events => result.identity?.any fun identity => decide (identity ∈ b.eventIdCache)

/-- The report `Add` builds around a result. -/
def stamped (b : SubscriptionBuffer V) (result : PathResult V) : NativeReport V where
  subscriptionId := b.request.subscriptionId
  generation := b.generation
  payload :=
    { kind := b.request.kind
      result
      initial := !b.established
      reportId := b.reportId
      minIntervalS := if b.established then b.revisedMinIntervalS else b.request.minIntervalS
      maxIntervalS := if b.established then b.revisedMaxIntervalS else b.request.maxIntervalS
      sdkSubscriptionId := b.sdkSubscriptionId }

/-- The cache forgets its oldest identity beyond 1024. -/
def remember (b : SubscriptionBuffer V) (result : PathResult V) : SubscriptionBuffer V :=
  match b.request.kind with
  | .attributes => { b with
      currentAttributePaths := b.currentAttributePaths ++ [result.path]
      initialAttributePaths :=
        if b.established then b.initialAttributePaths else b.initialAttributePaths ++ [result.path] }
  | .events =>
      match result.identity? with
      | none => b
      | some identity =>
          let cache := b.eventIdCache ++ [identity]
          { b with
            currentEventIds := b.currentEventIds ++ [identity]
            eventIdCache := if cache.length > 1024 then cache.tail else cache }

def store (b : SubscriptionBuffer V) (report : NativeReport V) : SubscriptionBuffer V :=
  if b.activated then { b with ready := b.ready ++ [report] }
  else { b with buffered := b.buffered ++ [report] }

def add (b : SubscriptionBuffer V) (result : PathResult V) : Bool × SubscriptionBuffer V :=
  if !b.active ∨ !b.inReport then (false, b)
  else if b.duplicateInCurrentReport result || b.suppressedDuplicate result then (true, b)
  else if !validSubscriptionReport b.request (b.stamped result) ∨
      b.buffered.length + b.ready.length ≥ b.request.queueLimit then
    (false, { b with active := false })
  else (true, (b.remember result).store (b.stamped result))

def endReport (b : SubscriptionBuffer V) : SubscriptionBuffer V := { b with inReport := false }

/-- The intervals and the SDK identifier of a report that was buffered before them. -/
def revised (report : NativeReport V) (sdkSubscriptionId minimum maximum : Nat) : NativeReport V :=
  { report with payload := { report.payload with
      sdkSubscriptionId, minIntervalS := minimum, maxIntervalS := maximum } }

def establish (b : SubscriptionBuffer V)
    (sdkSubscriptionId revisedMinIntervalS revisedMaxIntervalS : Nat) :
    Bool × SubscriptionBuffer V :=
  if !b.active ∨ b.established ∨ revisedMaxIntervalS = 0 ∨
      revisedMinIntervalS > revisedMaxIntervalS then
    (false, { b with active := false })
  else
    (true, { b with
      sdkSubscriptionId
      revisedMinIntervalS
      revisedMaxIntervalS
      established := true
      buffered := b.buffered.map fun report =>
        revised report sdkSubscriptionId revisedMinIntervalS revisedMaxIntervalS })

/-- The state `PrepareRecovery` leaves when it accepts: all but the event cache is new. -/
def recovered (b : SubscriptionBuffer V) (generation : Nat) : SubscriptionBuffer V where
  request := b.request
  eventIdCache := b.eventIdCache
  generation
  active := b.active

/-- The guard of `PrepareRecovery`. -/
def admitsRecovery (b : SubscriptionBuffer V) (generation : Nat) : Bool :=
  b.active && decide (generation ≠ 0 ∧ b.generation ≠ maxU64 ∧ generation = b.generation + 1)

def prepareRecovery (b : SubscriptionBuffer V) (generation : Nat) : Bool × SubscriptionBuffer V :=
  if b.admitsRecovery generation then (true, b.recovered generation)
  else (false, { b with active := false })

def activate (b : SubscriptionBuffer V) : SubscriptionBuffer V :=
  if !b.active ∨ !b.established ∨ b.activated then b
  else { b with activated := true, ready := b.ready ++ b.buffered, buffered := [] }

def cancel (b : SubscriptionBuffer V) : SubscriptionBuffer V :=
  { b with active := false, buffered := [], ready := [] }

def takeReady (b : SubscriptionBuffer V) : List (NativeReport V) × SubscriptionBuffer V :=
  (b.ready, { b with ready := [] })

/-- The reports still in the buffer. -/
def held (b : SubscriptionBuffer V) : List (NativeReport V) := b.buffered ++ b.ready

end SubscriptionBuffer

/-! ## Recovery attempts -/

def kMaximumAttempts : Nat := 5
def kMaximumDurationMs : Nat := 60000

inductive RecoveryAction where
  | disabled
  | retry
  | exhausted
deriving DecidableEq, Repr

/-- `SubscriptionRecovery::Decision`. -/
structure Decision where
  action : RecoveryAction
  generation : Nat
  attempt : Nat
  remainingMs : Nat
deriving DecidableEq, Repr

structure SubscriptionRecovery where
  enabled : Bool
  recovering : Bool := false
  startedMs : Nat := 0
  generation : Nat := 1
  attempts : Nat := 0
deriving DecidableEq, Repr

namespace SubscriptionRecovery

/-- The state in which `Next` measures: a new loss window starts at this reading. -/
def entered (r : SubscriptionRecovery) (nowMs : Nat) : SubscriptionRecovery :=
  if r.recovering then r
  else { r with
    recovering := true
    startedMs := nowMs
    attempts := 0
    generation := r.generation + 1 }

/-- The clock may run backwards; `Nat` subtraction is the source's guarded one. -/
def next (r : SubscriptionRecovery) (nowMs : Nat) : Decision × SubscriptionRecovery :=
  if !r.enabled then (⟨.disabled, r.generation, 0, 0⟩, r)
  else if !r.recovering ∧ r.generation = maxU64 then (⟨.exhausted, r.generation, 0, 0⟩, r)
  else
    let window := r.entered nowMs
    let elapsed := nowMs - window.startedMs
    if elapsed ≥ kMaximumDurationMs ∨ window.attempts ≥ kMaximumAttempts then
      (⟨.exhausted, window.generation, window.attempts, 0⟩, window)
    else
      (⟨.retry, window.generation, window.attempts + 1, kMaximumDurationMs - elapsed⟩,
        { window with attempts := window.attempts + 1 })

def establishedAgain (r : SubscriptionRecovery) : SubscriptionRecovery :=
  { r with recovering := false, startedMs := 0, attempts := 0 }

def cancel (r : SubscriptionRecovery) : SubscriptionRecovery :=
  { r.establishedAgain with enabled := false }

end SubscriptionRecovery

end WotexMatter.Native
