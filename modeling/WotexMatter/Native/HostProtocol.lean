/-
# WotexMatter.Native.HostProtocol -- the host's side of a subscription

The parts of `HostProtocol` (`native/src/protocol.cpp`) that touch the report flow,
from the moment `open` has succeeded.  SDK callbacks and the input thread meet only
under `subscription_mutex_`, so each function below is one locked block: the three
sinks as a whole, and `subscribe` and `unsubscribe` cut where the source releases
the mutex.

The output sink is any function on the state of a writer.  `channel_failed_` sits
beside that state, because `WriteFrame` is what the account calls to transmit.
`written` repeats the frames the sink took; nothing reads it.  `report_flow_` is
absent only in the closed state, where no block below is entered.
-/
import WotexMatter.Native.FlowTrace

set_option autoImplicit false

namespace WotexMatter.Native

open WotexMatter.Theory ReportCreditManager

inductive InteractionEffect where
  | none
  | unknown
deriving DecidableEq, Repr

structure InteractionError where
  code : String
  status : Option Nat := none
  clusterStatus : Option Nat := none
  effect : InteractionEffect := .none
deriving DecidableEq, Repr

structure SubscriptionReport (P : Type) where
  subscriptionId : String
  generation : Nat
  payload : P

inductive SubscriptionStatusKind where
  | resubscribing
  | resubscribed
deriving DecidableEq, Repr

inductive SubscriptionContinuity where
  | lost
  | unknown
deriving DecidableEq, Repr

structure SubscriptionStatus where
  subscriptionId : String
  generation : Nat
  status : SubscriptionStatusKind
  continuity : SubscriptionContinuity
  attempt : Nat
  minIntervalS : Nat := 0
  maxIntervalS : Nat := 0
  sdkSubscriptionId : Nat := 0

structure ActiveSubscription where
  generation : Nat
  queueLimit : Nat
  resubscribe : Bool
  recovering : Bool := false
  recoveryAttempt : Nat := 0
deriving DecidableEq, Repr

/-- `State` from `Open` on. -/
inductive HostState where
  | opened
  | closing
  | closed
deriving DecidableEq, Repr

structure Output (ω F : Type) where
  writer : ω
  channelFailed : Bool := false
  written : List F := []

/-- `WriteFrame`. -/
def writeFrame {ω F : Type} (outputSink : ω → F → Bool × ω) (output : Output ω F) (frame : F) :
    Bool × Output ω F :=
  if output.channelFailed then (false, output)
  else
    let sent := outputSink output.writer frame
    if sent.1 then
      (true, { output with writer := sent.2, written := output.written ++ [frame] })
    else (false, { output with writer := sent.2, channelFailed := true })

structure HostProtocol (ω P : Type) where
  flow : Flow (Output ω (HostFrame P InteractionError)) P InteractionError
  state : HostState := .opened
  sessionGeneration : String
  subscriptions : Table String ActiveSubscription := ∅
  cancellationPending : Bool := false
  closeRequested : Bool := false

/-- `BackendResult`. -/
structure BackendResult where
  ok : Bool
  errorCode : String := ""
deriving DecidableEq, Repr

namespace HostProtocol

variable {ω P : Type}

def healthy (h : HostProtocol ω P) : Bool := !h.flow.sink.channelFailed

def failChannel (h : HostProtocol ω P) : HostProtocol ω P :=
  { h with flow := { h.flow with sink := { h.flow.sink with channelFailed := true } } }

/-- `RequestClose`, and what `Close` does while an outer line is being processed. -/
def requestClose (h : HostProtocol ω P) : HostProtocol ω P :=
  { h with
    closeRequested := true
    state := if h.state = .closed then .closed else .closing }

def close (h : HostProtocol ω P) : HostProtocol ω P :=
  { h with state := .closed, subscriptions := ∅ }

section Blocks

variable [Text (HostFrame P InteractionError)]
  (outputSink : ω → HostFrame P InteractionError → Bool × ω)

/-- A frame the protocol writes on its own account. -/
def write (h : HostProtocol ω P) (frame : HostFrame P InteractionError) :
    Bool × HostProtocol ω P :=
  let sent := writeFrame outputSink h.flow.sink frame
  (sent.1, { h with
    flow := { h.flow with
      sink := sent.2
      events := if sent.1 then h.flow.events ++ [.wrote frame] else h.flow.events } })

/-- `report_flow_->Retire` with the barrier built from `last_transmitted`. -/
def retireStream (h : HostProtocol ω P) (subscriptionId : String) (generation : Nat) :
    Bool × HostProtocol ω P :=
  let retired := h.flow.retire (writeFrame outputSink) subscriptionId generation
    (barrierFrame h.sessionGeneration h.flow subscriptionId generation)
  (retired.1, { h with flow := retired.2 })

/-- The error frame and the barrier of a stream that ends on the native side. -/
def failStream (h : HostProtocol ω P) (subscriptionId : String) (generation : Nat)
    (error : InteractionError) : HostProtocol ω P :=
  let wrote := h.write outputSink (.error h.sessionGeneration subscriptionId generation error)
  if wrote.1 then
    let retired := wrote.2.retireStream outputSink subscriptionId generation
    let settled := if retired.1 then retired.2 else retired.2.failChannel
    { settled with subscriptions := settled.subscriptions.erase subscriptionId }
  else wrote.2

def emitReport (h : HostProtocol ω P) (report : SubscriptionReport P) :
    Bool × HostProtocol ω P :=
  if !h.healthy ∨ h.state ≠ .opened ∨ !h.flow.isLive report.subscriptionId report.generation then
    (false, h)
  else
    let submitted := h.flow.submit (writeFrame outputSink) report.subscriptionId report.generation
      (reportEncoder h.sessionGeneration report.subscriptionId report.generation report.payload)
    let next := { h with flow := submitted.2 }
    match submitted.1 with
    | .transmitted => (true, next)
    | .queued => (true, next)
    | .streamOverflow =>
        (false, next.failStream outputSink report.subscriptionId report.generation
          { code := "queue_overflow" })
    | .invalid => (false, next.failChannel)

def emitFailure (h : HostProtocol ω P) (subscriptionId : String) (generation : Nat)
    (error : InteractionError) : HostProtocol ω P :=
  if !h.healthy ∨ h.state ≠ .opened ∨ !h.flow.isLive subscriptionId generation then h
  else h.failStream outputSink subscriptionId generation error

/-- The `resubscribing` half of `EmitStatus`; a first attempt moves the stream on. -/
def emitResubscribing (h : HostProtocol ω P) (status : SubscriptionStatus)
    (active : ActiveSubscription) : Bool × HostProtocol ω P :=
  let first := !active.recovering
  if (first ∧ (active.generation = maxU64 ∨ status.generation ≠ active.generation + 1 ∨
        status.attempt ≠ 1)) ∨
      (!first ∧ (status.generation ≠ active.generation ∨
        status.attempt ≠ active.recoveryAttempt + 1)) ∨
      status.continuity ≠ .lost then
    (false, h)
  else
    let wrote := h.write outputSink
      (.resubscribing h.sessionGeneration status.subscriptionId status.generation status.attempt)
    if !wrote.1 then (false, wrote.2)
    else if first then
      let moved := wrote.2.flow.beginRecovery (writeFrame outputSink) status.subscriptionId
        active.generation status.generation active.queueLimit
        (barrierFrame h.sessionGeneration wrote.2.flow status.subscriptionId active.generation)
      let next := { wrote.2 with flow := moved.2 }
      if moved.1 then
        (true, { next with
          subscriptions := next.subscriptions.insert status.subscriptionId
            { active with
              generation := status.generation
              recovering := true
              recoveryAttempt := status.attempt } })
      else (false, next.failChannel)
    else
      (true, { wrote.2 with
        subscriptions := wrote.2.subscriptions.insert status.subscriptionId
          { active with recoveryAttempt := status.attempt } })

/-- The `resubscribed` half of `EmitStatus`. -/
def emitResubscribed (h : HostProtocol ω P) (status : SubscriptionStatus)
    (active : ActiveSubscription) : Bool × HostProtocol ω P :=
  if status.status ≠ .resubscribed ∨ !active.recovering ∨
      active.generation ≠ status.generation ∨ active.recoveryAttempt ≠ status.attempt ∨
      status.continuity ≠ .unknown ∨ status.maxIntervalS = 0 ∨
      status.minIntervalS > status.maxIntervalS then
    (false, h)
  else
    let wrote := h.write outputSink
      (.resubscribed h.sessionGeneration status.subscriptionId status.generation status.attempt
        status.minIntervalS status.maxIntervalS status.sdkSubscriptionId)
    if wrote.1 then
      (true, { wrote.2 with
        subscriptions := wrote.2.subscriptions.insert status.subscriptionId
          { active with recovering := false, recoveryAttempt := 0 } })
    else (false, wrote.2)

def emitStatus (h : HostProtocol ω P) (status : SubscriptionStatus) : Bool × HostProtocol ω P :=
  if !h.healthy ∨ h.state ≠ .opened ∨ status.subscriptionId.isEmpty ∨ status.generation = 0 ∨
      status.attempt = 0 ∨ status.attempt > 5 then
    (false, h)
  else
    match (h.subscriptions.lookup status.subscriptionId).filter (fun active => active.resubscribe)
    with
    | none => (false, h)
    | some active =>
        match status.status with
        | .resubscribing => h.emitResubscribing outputSink status active
        | .resubscribed => h.emitResubscribed outputSink status active

/-- The block of `subscribe` that admits the established stream; `emplace` keeps an
entry that is already there. -/
def admitSubscription (h : HostProtocol ω P) (subscriptionId : String)
    (generation queueLimit : Nat) (resubscribe : Bool) : Bool × HostProtocol ω P :=
  let added := h.flow.addStream subscriptionId generation queueLimit
  let next := { h with flow := added.2 }
  if added.1 then
    (true, { next with
      subscriptions :=
        if (h.subscriptions.lookup subscriptionId).isSome then h.subscriptions
        else h.subscriptions.insert subscriptionId { generation, queueLimit, resubscribe } })
  else (false, next)

/-- What a block of `unsubscribe` decides: an answer, going on, or the end of the host. -/
inductive Unsubscribe (P : Type) where
  | answer (frame : HostFrame P InteractionError)
  | proceed
  | stop

/-- `unsubscribe` up to `CancelSubscription`. -/
def unsubscribeBegin (h : HostProtocol ω P) (id subscriptionId : String) (generation : Nat) :
    Unsubscribe P × HostProtocol ω P :=
  if h.cancellationPending then (.answer (.failure id "subscription_busy"), h)
  else if (h.subscriptions.lookup subscriptionId).any (fun active =>
      active.generation != generation) then
    (.answer (.failure id "invalid_subscription"), h)
  else if h.flow.isRetired subscriptionId generation then (.answer (.success id), h)
  else if h.flow.isLive subscriptionId generation then
    (.proceed, { h with cancellationPending := true })
  else (.answer (.failure id "invalid_subscription"), h)

/-- From the return of `CancelSubscription` to the second unlock. -/
def unsubscribeCancelled (h : HostProtocol ω P) (id subscriptionId : String) (generation : Nat)
    (cancelled : BackendResult) : Unsubscribe P × HostProtocol ω P :=
  let next := { h with cancellationPending := false }
  if next.closeRequested ∨ !next.healthy then (.stop, next)
  else if (next.subscriptions.lookup subscriptionId).all (fun active =>
      active.generation == generation && next.flow.isRetired subscriptionId generation) then
    (.answer (.success id), next)
  else if cancelled.ok then (.proceed, next)
  else
    (.answer (.failure id (if cancelled.errorCode.isEmpty then "invalid_subscription"
      else cancelled.errorCode)), next)

/-- The block that writes the barrier of the cancelled stream; without one the host ends. -/
def unsubscribeRetire (h : HostProtocol ω P) (subscriptionId : String) (generation : Nat) :
    Unsubscribe P × HostProtocol ω P :=
  if h.flow.isLive subscriptionId generation then
    let retired := h.retireStream outputSink subscriptionId generation
    if retired.1 then (.proceed, retired.2) else (.stop, retired.2.close)
  else (.stop, h.close)

/-- The last block of `unsubscribe`. -/
def unsubscribeFinish (h : HostProtocol ω P) (id subscriptionId : String) :
    Unsubscribe P × HostProtocol ω P :=
  (.answer (.success id), { h with subscriptions := h.subscriptions.erase subscriptionId })

/-- A `report_ack` line of this session. -/
def reportAck (h : HostProtocol ω P) (reportSequence acknowledgedBytes : Nat) :
    Bool × HostProtocol ω P :=
  if h.state ≠ .opened then (false, h)
  else
    let taken := h.flow.acknowledge (writeFrame outputSink) reportSequence acknowledgedBytes
    let next := { h with flow := taken.2 }
    if taken.1 then (true, next) else (false, next.failChannel.close)

end Blocks

end HostProtocol

end WotexMatter.Native
