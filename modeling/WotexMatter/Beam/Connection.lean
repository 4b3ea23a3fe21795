/-
# WotexMatter.Beam.Connection -- the process that owns the native session

The subscription side of `Wotex.Matter.Native.Connection`
(`lib/wotex/matter/native/connection.ex`).  Each function of the source is a function
on the process state; what it does to the outside is kept in `effects`: the messages
it sent, the lines the Port took, and how often it looked at the world.

`World` answers those looks: the queue length of a receiver, whether the Port takes a
line, the clock, whether a process is alive.  An answer depends on nothing but the
number of looks before it, so a property for every world is one for every answer.

A message that was sent stays sent when a function gives its state up: `Decoded.error`
and `Decoded.crash` carry the effects without the state.
-/
import WotexMatter.Native.HostProtocol
import WotexMatter.Beam.ReportLedger

set_option autoImplicit false
set_option linter.unusedSectionVars false

namespace WotexMatter.Beam

open WotexMatter.Theory WotexMatter.Native

/-- `@maximum_request_id`. -/
def maximumRequestId : Nat := 18446744073709551615

/-- `@cancellation_timeout`. -/
def cancellationTimeout : Int := 750

inductive Status where
  | establishing
  | active
  | recovering
  | closing
deriving DecidableEq, Repr

/-- The entry of `subscriptions`.  `admits` stands for the kind and the paths of the
request, which only `Wire.subscription` and `delivery_path_matches?` read. -/
structure Subscription (P : Type) where
  nativeId : String
  generation : Nat := 1
  acknowledged : Bool
  streamOwner : Option Nat := none
  streamMonitor : Option Nat := none
  monitor : Nat
  queueLimit : Nat
  resubscribe : Bool
  admits : P → Bool := fun _ => true
  status : Status := .establishing
  closeResult : String := "cancelled"
  nativeTerminalReceived : Bool := false
  retiringGeneration : Option Nat := none
  retiringLastReportSequence : Option Nat := none
  recoveryAttempt : Nat := 0
  buffered : List (P × Nat × Nat) := []
  lastReportSequence : Nat := 0

/-- What a receiver is told under its reference. -/
inductive Delivered (P : Type) where
  | error (code : String)
  | status (status : SubscriptionStatusKind) (generation attempt : Nat)
  | report (payload : P)
  | envelope (sequence token : Nat) (payload : P)
deriving DecidableEq, Repr

inductive Message (P : Type) where
  | receiver (reference : Nat) (delivered : Delivered P)
  | streamOwner (reference sequence token : Nat) (payload : P)
  | flushSubscription (reference : Nat)
  | nativeInputFailed
  | requestIdsExhausted
deriving DecidableEq, Repr

/-- A line for the host. -/
inductive HostLine where
  | reportAck (sessionGeneration : String) (reportSequence acknowledgedBytes : Nat)
  | subscribe (id subscriptionId : String) (queueLimit : Nat) (resubscribe : Bool)
  | unsubscribe (id subscriptionId : String) (generation : Nat)
  | request (id : String)
deriving DecidableEq, Repr

structure World where
  messageQueueLen : Nat → Option Nat
  portCommand : Nat → Bool
  monotonicTime : Nat → Int
  alive : Nat → Bool

structure Effects (P : Type) where
  ticks : Nat := 0
  sent : List (Message P) := []
  written : List HostLine := []
deriving DecidableEq, Repr

/-- The call whose response the process waits for. -/
inductive Await where
  | subscribe (id : String) (reference : Nat)
  | unsubscribe (id : String) (reference : Nat)
  | request (id : String)
deriving DecidableEq, Repr

def Await.id : Await → String
  | .subscribe id _ => id
  | .unsubscribe id _ => id
  | .request id => id

structure Connection (P : Type) where
  generation : String
  nextId : Option Nat := some 2
  subscriptions : Table Nat (Subscription P) := ∅
  subscriptionIds : Table (String × Nat) Nat := ∅
  subscriptionMonitors : Table Nat Nat := ∅
  closedReferences : Finset Nat := ∅
  reportLedger : ReportLedger (Nat × Nat) Nat := {}
  internalRequests : Table String Nat := ∅
  cancellationDeadlines : Table Nat Int := ∅
  channelFailed : Bool := false
  /-- The next value of `make_ref` and `Process.monitor`. -/
  references : Nat := 0
  awaiting : Option Await := none
  stopped : Bool := false
  effects : Effects P := {}

namespace Connection

variable {P E : Type}

/-! ## The outside -/

@[simps generation nextId subscriptions subscriptionIds subscriptionMonitors closedReferences
  reportLedger internalRequests cancellationDeadlines channelFailed references awaiting stopped]
def tick (c : Connection P) : Connection P :=
  { c with effects := { c.effects with ticks := c.effects.ticks + 1 } }

/-- `send/2`. -/
@[simps generation nextId subscriptions subscriptionIds subscriptionMonitors closedReferences
  reportLedger internalRequests cancellationDeadlines channelFailed references awaiting stopped]
def post (c : Connection P) (message : Message P) : Connection P :=
  { c with effects := { c.effects with sent := c.effects.sent ++ [message] } }

/-- `send_frame`. -/
def sendFrame (world : World) (c : Connection P) (line : HostLine) : Bool × Connection P :=
  if world.portCommand c.effects.ticks then
    (true, { c.tick with effects := { c.tick.effects with
      written := c.effects.written ++ [line] } })
  else (false, c.tick)

/-- `put_in(state, [:subscriptions, reference, …], …)`. -/
def update (c : Connection P) (reference : Nat) (change : Subscription P → Subscription P) :
    Connection P :=
  match c.subscriptions.lookup reference with
  | some subscription =>
      { c with subscriptions := c.subscriptions.insert reference (change subscription) }
  | none => c

def failNativeInput (c : Connection P) : Connection P :=
  if c.channelFailed then c
  else { c.post .nativeInputFailed with channelFailed := true }

/-! ## Credit -/

def advanceAcknowledgement (world : World) (c : Connection P) : Connection P :=
  match c.reportLedger.advance with
  | (none, _) => c
  | (some ack, ledger) =>
      let sent := c.sendFrame world
        (.reportAck c.generation ack.reportSequence ack.acknowledgedBytes)
      if sent.1 then { sent.2 with reportLedger := ledger } else sent.2.failNativeInput

def acknowledgeReport (world : World) (c : Connection P) (sequence encodedBytes : Nat) :
    Connection P :=
  match c.reportLedger.pending.lookup sequence with
  | some report =>
      if report.bytes = encodedBytes then
        match c.reportLedger.consume report.stream sequence report.token with
        | some ledger => ({ c with reportLedger := ledger }).advanceAcknowledgement world
        | none => c
      else c
  | none => c

/-- The token of the pending report is a fresh reference. -/
def registerReport (c : Connection P) (reference sequence encodedBytes : Nat) :
    Option (Connection P) :=
  match c.subscriptions.lookup reference with
  | none => none
  | some subscription =>
      match c.reportLedger.register (reference, subscription.generation) sequence encodedBytes
        c.references with
      | none => none
      | some ledger =>
          some (({ c with reportLedger := ledger, references := c.references + 1 }).update
            reference fun subscription => { subscription with lastReportSequence := sequence })

/-- `none` is the failed match on `ReportLedger.retire`. -/
def consumeRetiredReports (world : World) (c : Connection P)
    (reference generation lastSequence : Nat) : Option (Connection P) :=
  match c.reportLedger.retire (reference, generation) lastSequence with
  | some ledger => some (({ c with reportLedger := ledger }).advanceAcknowledgement world)
  | none => none

/-! ## Cancellation -/

def takeRequestId (c : Connection P) : Option (String × Connection P) :=
  match c.nextId with
  | none => none
  | some id =>
      if id = maximumRequestId then
        some (Nat.repr id, { c.post .requestIdsExhausted with nextId := none })
      else some (Nat.repr id, { c with nextId := some (id + 1) })

/-- `Map.put_new` keeps the first deadline. -/
def watchCancellation (world : World) (c : Connection P) (reference : Nat) : Connection P :=
  let deadline := world.monotonicTime c.effects.ticks + cancellationTimeout
  if (c.cancellationDeadlines.lookup reference).isSome then c.tick
  else { c.tick with
    cancellationDeadlines := c.cancellationDeadlines.insert reference deadline }

def markClosing (c : Connection P) (reference : Nat) (result : String) : Connection P :=
  c.update reference fun subscription =>
    { subscription with status := .closing, closeResult := result }

def submitCancellation (world : World) (c : Connection P) (subscription : Subscription P)
    (reference : Nat) (result id : String) : Connection P :=
  let sent := c.sendFrame world
    (.unsubscribe id subscription.nativeId subscription.generation)
  if sent.1 then
    { sent.2.markClosing reference result with
      internalRequests := c.internalRequests.insert id reference }
  else sent.2.failNativeInput

/-- Killing the stream owner leaves no trace in the state. -/
def cancelSubscription (world : World) (c : Connection P) (reference : Nat) (result : String) :
    Connection P :=
  match c.subscriptions.lookup reference with
  | none => c
  | some subscription =>
      if subscription.status = .closing then c
      else
        let closing := (c.markClosing reference result).watchCancellation world reference
        if subscription.status = .establishing then closing.failNativeInput
        else
          match closing.takeRequestId with
          | some (id, next) => next.submitCancellation world subscription reference result id
          | none => closing.failNativeInput

/-- The reference has been retired and no unsubscribe of it is unanswered. -/
def cancelled (c : Connection P) (reference : Nat) : Bool :=
  reference ∈ c.closedReferences &&
    Table.count (fun owner => owner == reference) c.internalRequests == 0

def completeCancellation (world : World) (c : Connection P) (reference : Nat) : Connection P :=
  match c.cancellationDeadlines.lookup reference with
  | none => c
  | some deadline =>
      let looked := c.tick
      if deadline ≤ world.monotonicTime c.effects.ticks then looked.failNativeInput
      else if looked.cancelled reference then
        { looked with cancellationDeadlines := looked.cancellationDeadlines.erase reference }
      else looked

/-! ## Dropping a subscription -/

/-- The reduction over the ledger's streams: those of the reference are retired, each at
its own last sequence. -/
def retireStreams (ledger : ReportLedger (Nat × Nat) Nat) (reference : Nat) :
    ReportLedger (Nat × Nat) Nat :=
  { ledger with
    pending := Table.filterMap (fun _ report =>
      if report.stream.1 = reference ∧ (ledger.streams.lookup report.stream).isSome then
        some { report with consumed := true }
      else some report) ledger.pending
    streams := Table.filterMap (fun stream last =>
      if stream.1 = reference then none else some last) ledger.streams }

/-- `Map.delete(monitors, subscription.stream_monitor)`. -/
def dropStreamMonitor (monitors : Table Nat Nat) : Option Nat → Table Nat Nat
  | some monitor => monitors.erase monitor
  | none => monitors

def dropSubscription (c : Connection P) (reference : Nat) : Connection P :=
  match c.subscriptions.lookup reference with
  | none => c
  | some subscription =>
      { c with
        reportLedger := retireStreams c.reportLedger reference
        subscriptions := c.subscriptions.erase reference
        subscriptionIds := Table.filterMap (fun _ owner =>
          if owner = reference then none else some owner) c.subscriptionIds
        subscriptionMonitors := dropStreamMonitor
          (c.subscriptionMonitors.erase subscription.monitor) subscription.streamMonitor }

def retireSubscription (world : World) (c : Connection P) (reference : Nat) : Connection P :=
  ({ c.dropSubscription reference with
    closedReferences := insert reference c.closedReferences }).completeCancellation world reference

/-! ## Reports -/

def overflowSubscription (world : World) (c : Connection P)
    (reference sequence encodedBytes : Nat) : Connection P :=
  ((c.post (.receiver reference (.error "receiver_overflow"))).acknowledgeReport world sequence
    encodedBytes).cancelSubscription world reference "receiver_overflow"

/-- Whether the sampled queue has room; a dead process has no queue length. -/
def hasRoom (world : World) (c : Connection P) (limit : Nat) : Bool :=
  (world.messageQueueLen c.effects.ticks).any fun length => length < limit

/-- What `deliver_report` sends, to the stream owner if there is one. -/
def envelope (subscription : Subscription P) (reference sequence token : Nat) (delivery : P) :
    Message P :=
  if subscription.streamOwner.isSome then .streamOwner reference sequence token delivery
  else .receiver reference (.envelope sequence token delivery)

/-- The queue `deliver_report` looks at is the stream owner's, if there is one. -/
def deliveryLimit (subscription : Subscription P) : Nat :=
  if subscription.streamOwner.isSome then 64 else subscription.queueLimit

/-- The process dies when the report is no longer pending. -/
def deliverReport (world : World) (c : Connection P) (reference : Nat) (delivery : P)
    (sequence encodedBytes : Nat) : Connection P :=
  match c.subscriptions.lookup reference with
  | none => { c with stopped := true }
  | some subscription =>
      if c.hasRoom world (deliveryLimit subscription) then
        match c.reportLedger.pending.lookup sequence with
        | some report =>
            c.tick.post (envelope subscription reference sequence report.token delivery)
        | none => { c.tick with stopped := true }
      else c.tick.overflowSubscription world reference sequence encodedBytes

/-- `none` is `{:error, invalid_frame}`. -/
def admitReport (world : World) (c : Connection P) (reference : Nat) (delivery : P)
    (sequence encodedBytes : Nat) : Option (Connection P) :=
  match c.subscriptions.lookup reference with
  | none => none
  | some subscription =>
      match subscription.status with
      | .establishing =>
          if subscription.buffered.length < subscription.queueLimit then
            some (c.update reference fun subscription =>
              { subscription with
                buffered := subscription.buffered ++ [(delivery, sequence, encodedBytes)] })
          else some (c.overflowSubscription world reference sequence encodedBytes)
      | .active => some (c.deliverReport world reference delivery sequence encodedBytes)
      | .closing => some (c.acknowledgeReport world sequence encodedBytes)
      | .recovering => none

/-- One round of the reduction in `flush_subscription`. -/
def flushReport (world : World) (reference : Nat) (c : Connection P) :
    P × Nat × Nat → Connection P
  | (delivery, sequence, bytes) =>
      if c.stopped then c
      else if (c.subscriptions.lookup reference).isSome then
        c.deliverReport world reference delivery sequence bytes
      else c.acknowledgeReport world sequence bytes

def flushSubscription (world : World) (c : Connection P) (reference : Nat) : Connection P :=
  match c.subscriptions.lookup reference with
  | none => c
  | some subscription =>
      if subscription.status = .active then
        subscription.buffered.foldl (flushReport world reference)
          (c.update reference fun subscription => { subscription with buffered := [] })
      else c

/-! ## Recovery -/

/-- The Boolean is `false` for `{:overflow, _}`.  The callers hold the subscription. -/
def deliverSubscriptionStatus (world : World) (c : Connection P) (reference : Nat)
    (status : SubscriptionStatusKind) (generation attempt : Nat) : Bool × Connection P :=
  match c.subscriptions.lookup reference with
  | none => (false, c)
  | some subscription =>
      if c.hasRoom world subscription.queueLimit then
        (true, c.tick.post (.receiver reference (.status status generation attempt)))
      else
        (false, (c.tick.post (.receiver reference (.error "receiver_overflow"))).cancelSubscription
          world reference "receiver_overflow")

/-- What a `with` or `case` above a recovery transition sees. -/
inductive Recovery (P : Type) where
  | ok (next : Connection P)
  | overflow (closing : Connection P)
  | error
  | crash

def Recovery.ofStatus (delivered : Bool × Connection P) : Recovery P :=
  if delivered.1 then .ok delivered.2 else .overflow delivered.2

/-- A first attempt moves an active subscription to its next generation. -/
def startsRecovery (subscription : Subscription P) (generation attempt : Nat) : Bool :=
  subscription.resubscribe && decide (subscription.status = .active) &&
    decide (generation = subscription.generation + 1) && decide (attempt = 1) &&
    subscription.retiringGeneration.isNone

def continuesRecovery (subscription : Subscription P) (generation attempt : Nat) : Bool :=
  decide (subscription.status = .recovering) && decide (generation = subscription.generation) &&
    decide (attempt = subscription.recoveryAttempt + 1)

/-- The state after the transition to `:recovering`, before the status is delivered. -/
def recovering (c : Connection P) (reference : Nat) (subscription : Subscription P)
    (generation attempt : Nat) (ledger : ReportLedger (Nat × Nat) Nat) : Connection P :=
  { c with
    subscriptions := c.subscriptions.insert reference { subscription with
      status := .recovering
      retiringGeneration := some subscription.generation
      retiringLastReportSequence := some subscription.lastReportSequence
      generation
      recoveryAttempt := attempt
      lastReportSequence := 0 }
    subscriptionIds := c.subscriptionIds.insert (subscription.nativeId, generation) reference
    reportLedger := ledger }

def beginRecovery (world : World) (c : Connection P) (reference generation attempt : Nat) :
    Recovery P :=
  match c.subscriptions.lookup reference with
  | none => .crash
  | some subscription =>
      if startsRecovery subscription generation attempt then
        match c.reportLedger.openStream (reference, generation) with
        | none => .crash
        | some ledger =>
            .ofStatus ((c.recovering reference subscription generation attempt
              ledger).deliverSubscriptionStatus world reference .resubscribing generation attempt)
      else if continuesRecovery subscription generation attempt then
        .ofStatus ((c.update reference fun subscription =>
          { subscription with recoveryAttempt := attempt }).deliverSubscriptionStatus world
            reference .resubscribing generation attempt)
      else .error

def endsRecovery (subscription : Subscription P) (generation attempt : Nat) : Bool :=
  decide (subscription.status = .recovering) && decide (generation = subscription.generation) &&
    decide (attempt = subscription.recoveryAttempt) && subscription.retiringGeneration.isNone

def finishRecovery (world : World) (c : Connection P) (reference generation attempt : Nat) :
    Recovery P :=
  match c.subscriptions.lookup reference with
  | none => .crash
  | some subscription =>
      if endsRecovery subscription generation attempt then
        let delivered := c.deliverSubscriptionStatus world reference .resubscribed generation
          attempt
        if delivered.1 then
          .ok (delivered.2.update reference fun subscription =>
            { subscription with status := .active })
        else .ok delivered.2
      else .error

/-! ## Frames of the host -/

/-- The result of `decode_async_frame`; a crash is a failed match inside it. -/
inductive Decoded (P : Type) where
  | ok (next : Connection P)
  | error (effects : Effects P)
  | crash (effects : Effects P)

/-- How the `with` forms treat a recovery transition: only `{:ok, _}` matches. -/
def Decoded.ofRecovery (c : Connection P) : Recovery P → Decoded P
  | .ok next => .ok next
  | .overflow closing => .error closing.effects
  | .error => .error c.effects
  | .crash => .crash c.effects

def Decoded.ofOption (c : Connection P) : Option (Connection P) → Decoded P
  | some next => .ok next
  | none => .error c.effects

/-- `for {reference, subscription} <- state.subscriptions, …`; references are numbered in the
order they are made. -/
def matching (c : Connection P) (p : Subscription P → Bool) : List Nat :=
  (List.range c.references).filter fun reference => (c.subscriptions.lookup reference).any p

/-- `subscription_reference`: the one subscription with this native identifier. -/
def subscriptionReference (c : Connection P) (nativeId : String) : Option Nat :=
  match c.matching fun subscription => subscription.nativeId == nativeId with
  | [reference] => some reference
  | _ => none

def retireStreamGeneration (world : World) (c : Connection P)
    (reference generation lastSequence : Nat) : Decoded P :=
  match c.subscriptions.lookup reference with
  | none => .crash c.effects
  | some subscription =>
      if subscription.retiringGeneration = some generation ∧
          subscription.retiringLastReportSequence = some lastSequence ∧
          (subscription.status = .recovering ∨ subscription.status = .closing) then
        match c.consumeRetiredReports world reference generation lastSequence with
        | none => .crash c.effects
        | some consumed =>
            .ok (({ consumed with
              subscriptionIds := consumed.subscriptionIds.erase
                (subscription.nativeId, generation) }).update reference fun subscription =>
                  { subscription with
                    retiringGeneration := none
                    retiringLastReportSequence := none })
      else if subscription.status = .closing ∧ subscription.generation = generation ∧
          subscription.lastReportSequence = lastSequence ∧
          subscription.retiringGeneration.isNone then
        match c.consumeRetiredReports world reference generation lastSequence with
        | none => .crash c.effects
        | some consumed => .ok (consumed.retireSubscription world reference)
      else .error c.effects

/-- The `subscription_error` clause; `code` is what `Wire.error` reads. -/
def receiveError (world : World) (c : Connection P) (reference : Nat) (code : String) :
    Decoded P :=
  match c.subscriptions.lookup reference with
  | none => .crash c.effects
  | some subscription =>
      if subscription.nativeTerminalReceived then .error c.effects
      else
        let told := if subscription.status = .closing then c
          else c.post (.receiver reference (.error code))
        .ok ((told.update reference fun subscription =>
          { subscription with
            status := .closing
            nativeTerminalReceived := true
            closeResult :=
              if subscription.status = .closing then subscription.closeResult else code
            }).watchCancellation world reference)

/-- `wireError` is `Wire.error`, and the identifiers are looked up as each clause does. -/
def decodeAsyncFrame (world : World) (wireError : E → Option String) (c : Connection P)
    (encodedBytes : Nat) : HostFrame P E → Decoded P
  | .resubscribing session nativeId generation attempt =>
      if session = c.generation ∧ 1 < generation ∧ 1 ≤ attempt ∧ attempt ≤ 5 then
        match c.subscriptionReference nativeId with
        | none => .error c.effects
        | some reference =>
            .ofRecovery c (c.beginRecovery world reference generation attempt)
      else .error c.effects
  | .resubscribed session nativeId generation attempt minimum maximum sdkId =>
      if session = c.generation ∧ 1 < generation ∧ 1 ≤ attempt ∧ attempt ≤ 5 ∧
          minimum ≤ 65535 ∧ 1 ≤ maximum ∧ maximum ≤ 65535 ∧ minimum ≤ maximum ∧
          sdkId ≤ 4294967295 then
        match c.subscriptionIds.lookup (nativeId, generation) with
        | none => .error c.effects
        | some reference => .ofRecovery c (c.finishRecovery world reference generation attempt)
      else .error c.effects
  | .report session nativeId generation sequence payload =>
      if session = c.generation ∧ 0 < generation ∧ 0 < sequence then
        match c.subscriptionIds.lookup (nativeId, generation) with
        | none => .error c.effects
        | some reference =>
            match c.subscriptions.lookup reference with
            | none => .crash c.effects
            | some subscription =>
                if subscription.admits payload then
                  match c.registerReport reference sequence encodedBytes with
                  | none => .error c.effects
                  | some registered =>
                      .ofOption c (registered.admitReport world reference payload sequence
                        encodedBytes)
                else .error c.effects
      else .error c.effects
  | .retired session nativeId generation lastSequence =>
      if session = c.generation ∧ 0 < generation then
        match c.subscriptionIds.lookup (nativeId, generation) with
        | none => .error c.effects
        | some reference => c.retireStreamGeneration world reference generation lastSequence
      else .error c.effects
  | .success id =>
      match c.internalRequests.lookup id with
      | none => .error c.effects
      | some reference =>
          .ok (({ c with internalRequests := c.internalRequests.erase id }).completeCancellation
            world reference)
  | .error session nativeId generation error =>
      if session = c.generation ∧ 0 < generation then
        match c.subscriptionIds.lookup (nativeId, generation), wireError error with
        | some reference, some code => c.receiveError world reference code
        | _, _ => .error c.effects
      else .error c.effects
  | .established .. => .error c.effects
  | .failure .. => .error c.effects

/-! ## Ends of the session -/

def notifyOne (code : String) (subscription : Subscription P) : Subscription P :=
  if subscription.status = .closing then subscription
  else { subscription with status := .closing, closeResult := code }

def notifySessionFailure (c : Connection P) (code : String) : Connection P :=
  { c with
    subscriptions := Table.filterMap (fun _ subscription => some (notifyOne code subscription))
      c.subscriptions
    effects := { c.effects with
      sent := c.effects.sent ++
        (c.matching fun subscription => decide (subscription.status ≠ .closing)).map
          fun reference => .receiver reference (.error code) } }

def dropAwaited (c : Connection P) : Connection P :=
  match c.awaiting with
  | some (.subscribe _ reference) => c.dropSubscription reference
  | _ => c

/-- `{:stop, :normal, …, notify_session_failure(error, state)}`; a subscription whose
request is still waiting for its answer is dropped first. -/
def endSession (c : Connection P) (code : String) : Connection P :=
  { c.dropAwaited.notifySessionFailure code with stopped := true }

/-! ## What the process receives -/

/-- The result of the stream owner's admission. -/
inductive Admission (P : Type) where
  | ok (delivery : P)
  | receiverOverflow
  | invalid

/-- A message of the mailbox.  `encodes` is whether `Request.encode` takes the frame of an
ordinary request, whose parameters are the caller's; the frames of `subscribe` and `unsubscribe`
are well within its limits.  `failed` is every event that stops the process with a session
failure (the Port's exit, an overlong line, the owner's death, a deadline), `closed` a stop that
was asked for. -/
inductive Input (P E : Type) where
  | subscribe (acknowledged : Bool) (nativeId : String) (queueLimit : Nat) (resubscribe : Bool)
      (admits : P → Bool)
  | unsubscribe (reference : Nat)
  | request (encodes : Bool)
  | line (encodedBytes : Nat) (frame : Option (HostFrame P E))
  | reportAdmitted (owner : Nat) (generation : String) (reference sequence token : Nat)
      (admission : Admission P)
  | reportConsumed (generation : String) (reference sequence token : Nat)
  | nativeInputFailed (generation : String)
  | down (monitor : Nat)
  | flushSubscription (reference : Nat)
  | failed (code : String)
  | closed

/-- The report a consumption message names, if it is still to be consumed. -/
def pendingReport (c : Connection P) (reference sequence token : Nat) :
    Option (Report (Nat × Nat) Nat) :=
  (c.reportLedger.pending.lookup sequence).filter fun report =>
    report.stream.1 == reference && report.token == token && !report.consumed

def reportAdmitted (world : World) (c : Connection P) (owner : Nat)
    (generation : String) (reference sequence token : Nat) (admission : Admission P) :
    Connection P :=
  match (c.subscriptions.lookup reference).filter (fun subscription =>
      decide (generation = c.generation) && decide (subscription.streamOwner = some owner) &&
        !subscription.acknowledged && decide (subscription.status = .active)),
    c.pendingReport reference sequence token with
  | some subscription, some report =>
      match admission with
      | .ok delivery =>
          if c.hasRoom world subscription.queueLimit then
            (c.tick.post (.receiver reference (.report delivery))).acknowledgeReport world sequence
              report.bytes
          else c.tick.overflowSubscription world reference sequence report.bytes
      | .receiverOverflow => c.overflowSubscription world reference sequence report.bytes
      | .invalid => c.failNativeInput.notifySessionFailure "invalid_frame"
  | _, _ => c

def reportConsumed (world : World) (c : Connection P) (generation : String)
    (reference sequence token : Nat) : Connection P :=
  match (c.subscriptions.lookup reference).filter (fun subscription =>
      decide (generation = c.generation) && subscription.acknowledged),
    c.pendingReport reference sequence token with
  | some _, some report => c.acknowledgeReport world sequence report.bytes
  | _, _ => c

/-- The `DOWN` of a receiver or a stream owner. -/
def down (world : World) (c : Connection P) (monitor : Nat) : Connection P :=
  match c.subscriptionMonitors.lookup monitor with
  | none => c
  | some reference =>
      match c.subscriptions.lookup reference with
      | none => { c with stopped := true }
      | some subscription =>
          if subscription.streamMonitor = some monitor ∧ subscription.status ≠ .closing then
            (c.post (.receiver reference (.error "owner_closed"))).cancelSubscription world
              reference "owner_closed"
          else c.cancelSubscription world reference "receiver_closed"

/-- `put_subscription` of a new subscription, `none` when the ledger has no room for it.
An ordinary subscription has a stream owner with its own monitor. -/
def putSubscription (c : Connection P) (acknowledged : Bool) (nativeId : String)
    (queueLimit : Nat) (resubscribe : Bool) (admits : P → Bool) :
    Option (Nat × Connection P) :=
  let reference := c.references
  let subscription : Subscription P :=
    { nativeId, acknowledged, queueLimit, resubscribe, admits
      monitor := reference + 1
      streamOwner := if acknowledged then none else some (reference + 2)
      streamMonitor := if acknowledged then none else some (reference + 3) }
  match c.reportLedger.openStream (reference, 1) with
  | none => none
  | some ledger =>
      let monitors := c.subscriptionMonitors.insert (reference + 1) reference
      some (reference, { c with
        references := reference + 4
        reportLedger := ledger
        subscriptions := c.subscriptions.insert reference subscription
        subscriptionIds := c.subscriptionIds.insert (nativeId, 1) reference
        subscriptionMonitors :=
          if acknowledged then monitors else monitors.insert (reference + 3) reference })

/-- `request_frame` up to the wait for the answer. -/
def requestFrame (world : World) (c : Connection P) (line : String → HostLine)
    (await : String → Await) : Connection P :=
  match c.takeRequestId with
  | none => ({ c with awaiting := some (await "") }).endSession "transport_closed"
  | some (id, next) =>
      let sent := next.sendFrame world (line id)
      let waiting := { sent.2 with awaiting := some (await id) }
      if sent.1 then waiting else waiting.endSession "transport_closed"

def subscribe (world : World) (c : Connection P) (acknowledged : Bool) (nativeId : String)
    (queueLimit : Nat) (resubscribe : Bool) (admits : P → Bool) : Connection P :=
  if 64 ≤ Table.size c.subscriptions ∨ 1024 ≤ c.closedReferences.card then c
  else if !world.alive c.effects.ticks then c.tick
  else
    match c.tick.putSubscription acknowledged nativeId queueLimit resubscribe admits with
    | none => { c.tick with stopped := true }
    | some (reference, prepared) =>
        prepared.requestFrame world (.subscribe · nativeId queueLimit resubscribe)
          (.subscribe · reference)

/-- `unsubscribe` of a handle; joining a cancellation under way only waits. -/
def unsubscribe (world : World) (c : Connection P) (reference : Nat) : Connection P :=
  match c.subscriptions.lookup reference with
  | none => c
  | some subscription =>
      if subscription.status = .closing then c
      else (c.markClosing reference "cancelled").requestFrame world
        (.unsubscribe · subscription.nativeId subscription.generation) (.unsubscribe · reference)

/-- What an answer to a request holds. -/
inductive Answer where
  | nothing
  | established (nativeId : String) (generation minimum maximum sdkId : Nat)
  | failure (code : String)
deriving DecidableEq, Repr

/-- `decode_response`. -/
def answer? : HostFrame P E → Option (String × Answer)
  | .success id => some (id, .nothing)
  | .established id nativeId generation minimum maximum sdkId =>
      some (id, .established nativeId generation minimum maximum sdkId)
  | .failure id code => some (id, .failure code)
  | _ => none

/-- `decode_subscription_result`. -/
def subscriptionResult (subscription : Subscription P) : Answer → Bool
  | .established nativeId generation minimum maximum sdkId =>
      decide (nativeId = subscription.nativeId ∧ generation = subscription.generation ∧
        minimum ≤ 65535 ∧ 1 ≤ maximum ∧ maximum ≤ 65535 ∧ minimum ≤ maximum ∧
        sdkId ≤ 4294967295)
  | _ => false

/-- `establish_subscription`; the two looks are at the receiver and at the stream owner. -/
def establishSubscription (world : World) (c : Connection P) (reference : Nat)
    (answer : Answer) : Connection P :=
  let looked := c.tick.tick
  let receiverAlive := world.alive c.effects.ticks
  let ownerAlive := world.alive (c.effects.ticks + 1)
  match (c.subscriptions.lookup reference).filter (fun subscription =>
      decide (subscription.status = .establishing) && receiverAlive &&
        (subscription.streamOwner.isNone || ownerAlive)) with
  | some subscription =>
      if subscriptionResult subscription answer then
        ({ (looked.update reference fun subscription =>
          { subscription with status := .active }) with awaiting := none }).post
            (.flushSubscription reference)
      else looked.endSession "invalid_frame"
  | none => looked.endSession (if receiverAlive then "owner_closed" else "receiver_closed")

/-- A native failure of the request itself: the session goes on unless it names a
timeout or the channel has failed. -/
def requestFailed (c : Connection P) (code : String) : Connection P :=
  if code = "timeout" ∨ c.channelFailed then c.endSession code
  else { c.dropAwaited with awaiting := none }

/-- `execute`.  A frame that `Request.encode` refuses has taken its id: nothing is written, and the
caller has the error at once. -/
def execute (world : World) (c : Connection P) (encodes : Bool) : Connection P :=
  if encodes then c.requestFrame world .request .request
  else
    match c.takeRequestId with
    | none => c.endSession "transport_closed"
    | some (_, next) => next.requestFailed "invalid_request"

/-- The waiting request has its answer. -/
def answered (world : World) (c : Connection P) : Await → Answer → Connection P
  | _, .failure code => c.requestFailed code
  | .subscribe _ reference, answer => c.establishSubscription world reference answer
  | .unsubscribe _ reference, answer =>
      if answer = .nothing ∧ (c.subscriptions.lookup reference).isNone then
        { c with awaiting := none }
      else c.endSession "invalid_frame"
  | .request _, _ => { c with awaiting := none }

def receiveAsync (world : World) (wireError : E → Option String) (c : Connection P)
    (encodedBytes : Nat) (frame : HostFrame P E) : Connection P :=
  match c.decodeAsyncFrame world wireError encodedBytes frame with
  | .ok next => next
  | .error effects => ({ c with effects }).endSession "invalid_frame"
  | .crash effects => { c with effects, stopped := true }

/-- The line after `Wire.frame`: the answer to the waiting request, or an asynchronous frame. -/
def receiveLine (world : World) (wireError : E → Option String) (c : Connection P)
    (encodedBytes : Nat) : Option (HostFrame P E) → Connection P
  | none => c.endSession "invalid_frame"
  | some frame =>
      match c.awaiting, answer? frame with
      | some await, some (id, answer) =>
          if id = await.id then c.answered world await answer
          else c.receiveAsync world wireError encodedBytes frame
      | _, _ => c.receiveAsync world wireError encodedBytes frame

/-- One message of the mailbox.  A call is taken up only while no other waits. -/
def step (world : World) (wireError : E → Option String) (c : Connection P) (input : Input P E) :
    Connection P :=
  if c.stopped then c
  else
    match input with
    | .subscribe acknowledged nativeId queueLimit resubscribe admits =>
        if c.awaiting.isNone then
          c.subscribe world acknowledged nativeId queueLimit resubscribe admits
        else c
    | .unsubscribe reference =>
        if c.awaiting.isNone then c.unsubscribe world reference else c
    | .request encodes =>
        if c.awaiting.isNone then c.execute world encodes else c
    | .line encodedBytes frame => c.receiveLine world wireError encodedBytes frame
    | .reportAdmitted owner generation reference sequence token admission =>
        c.reportAdmitted world owner generation reference sequence token admission
    | .reportConsumed generation reference sequence token =>
        c.reportConsumed world generation reference sequence token
    | .nativeInputFailed generation =>
        if generation = c.generation ∧ (c.channelFailed ∨ c.awaiting.isSome) then
          c.endSession "transport_closed"
        else c
    | .down monitor => c.down world monitor
    | .flushSubscription reference => c.flushSubscription world reference
    | .failed code => c.endSession code
    | .closed => { c with stopped := true }

def run (world : World) (wireError : E → Option String) (c : Connection P)
    (inputs : List (Input P E)) : Connection P :=
  inputs.foldl (step world wireError) c

end Connection

end WotexMatter.Beam
