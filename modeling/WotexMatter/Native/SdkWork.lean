/-
# WotexMatter.Native.SdkWork -- contexts, and the raw pointers the SDK holds to them

`SdkControllerBackend::Impl` of `native/src/controller.cpp`.  A call makes a context
(`Pending`, `PendingCommissioning`, `PendingWindow` or `NativeSubscription`), keeps it in
`pending_`, `commissioning_`, `window_` or `subscriptions_`, and hands its bare address to
the SDK thread with `ScheduleWork`.  The work of `StartX`, `ReapX` and
`CancelSubscriptionWork`, and the timer of `RecoveryDeadline`, are such addresses; only
`CancelWork` of a commissioning or a window brings a `shared_ptr` of its own.

Two threads take steps.  The input thread's calls stand on a stack, since a call that waits
runs the control pump, which may call again.  The SDK thread takes one work item or one
callback at a time.  A step is one block under a mutex or one call into the SDK, whose
answer is part of the step.  An object lives in the heap at an address and is freed with
its last `shared_ptr`; `make_shared` may then use the address again.

Of a context only what decides its lifetime is here; what it answers is in
`Native.PendingMutation` and `Native.NativeSubscription`.  The SDK calls a started context
back as long as the context exists: destroying it takes its callbacks and clients out.
-/
import WotexMatter.Native.SubscriptionBuffer
import Mathlib.Logic.Function.Basic

set_option autoImplicit false

namespace WotexMatter.Native.SdkWork

inductive ContextKind where
  | interaction
  | commissioning
  | window
  | subscription
deriving DecidableEq

/-- A typed address, and the object that was there when the address was taken. -/
structure Pointer where
  kind : ContextKind
  address : Nat
  serial : Nat
deriving DecidableEq

structure Context where
  kind : ContextKind
  serial : Nat
  node : UInt64
  /-- `Start` has run. -/
  started : Bool
  published : Bool
  done : Bool
  cancelScheduled : Bool
  cancelled : Bool
  /-- `response_.ok` of a subscription. -/
  established : Bool
  failureEmitted : Bool
deriving DecidableEq

def Context.create (kind : ContextKind) (serial : Nat) (node : UInt64) : Context where
  kind := kind
  serial := serial
  node := node
  started := false
  published := false
  done := false
  cancelScheduled := false
  cancelled := false
  established := false
  failureEmitted := false

/-- An item of the platform manager's queue. -/
inductive Work where
  | start (context : Pointer)
  | reap (context : Pointer)
  /-- `CancelSubscriptionWork`. -/
  | cancel (context : Pointer)
  /-- `CancelWork`, with the `shared_ptr` it holds. -/
  | abort (holder : Pointer)
  /-- `Work` with `Action::Shutdown`. -/
  | shutdown
deriving DecidableEq

/-- The bare address of an item. -/
def Work.raw : Work → Option Pointer
  | .start p | .reap p | .cancel p => some p
  | .abort _ | .shutdown => none

def Work.holder : Work → Option Pointer
  | .abort p => some p
  | _ => none

/-- Where a call of the input thread stands.  `unscheduled` is after `ScheduleWork` has refused
the start, `dropping` between `done_` and `Reap` in `Interact`, and `marked` between the two
blocks of `MarkDone`.  `finding` has the subscription that a cancellation or an activation
asked for. -/
inductive CallPoint where
  | admitted
  | unscheduled
  | dropping
  | marked
  | waiting
  | expired
  | finding
  | awaitingEnd
deriving DecidableEq

/-- In `WaitForControl`, where the control pump runs. -/
def CallPoint.resting : CallPoint → Bool
  | .waiting | .awaitingEnd => true
  | _ => false

/-- A call on the stack, with its `shared_ptr`. -/
structure Call where
  context : Pointer
  point : CallPoint
deriving DecidableEq

/-- `Cleanup`. -/
inductive ClosePoint where
  | open
  | shuttingDown
  | stopping
  | stopped
  | closed
deriving DecidableEq

structure Controller where
  /-- `accepting_interactions_`. -/
  accepting : Bool
  heap : Nat → Option Context
  /-- `pending_`, `commissioning_`, `window_` and `subscriptions_`. -/
  slots : ContextKind → List Pointer
  queue : List Work
  /-- The timers of `RecoveryDeadline` in the system layer. -/
  timers : List Pointer
  /-- The SDK thread's calls of `MarkDone` between their two blocks. -/
  marking : List Pointer
  /-- `ReleaseUnusedSessionSetup` of a node, past its check. -/
  releasing : Option UInt64
  /-- The event loop runs. -/
  looping : Bool
  calls : List Call
  closing : ClosePoint
  /-- The next object's number. -/
  serial : Nat
  /-- A freed object has been used. -/
  fault : Bool

namespace Controller

/-- After `Open`. -/
def opened : Controller where
  accepting := true
  heap := fun _ => none
  slots := fun _ => []
  queue := []
  timers := []
  marking := []
  releasing := none
  looping := true
  calls := []
  closing := .open
  serial := 0
  fault := false

/-! ## Objects -/

/-- The object a pointer was taken to, unless it has been freed. -/
def read (s : Controller) (p : Pointer) : Option Context :=
  (s.heap p.address).filter fun c => c.kind == p.kind && c.serial == p.serial

def faulted (s : Controller) : Controller := { s with fault := true }

/-- Writes through a pointer. -/
def modify (s : Controller) (p : Pointer) (f : Context → Context) : Controller :=
  match s.read p with
  | some c => { s with heap := Function.update s.heap p.address (some (f c)) }
  | none => s.faulted

/-- The `shared_ptr`s. -/
def references (s : Controller) : List Pointer :=
  s.slots .interaction ++ s.slots .commissioning ++ s.slots .window ++ s.slots .subscription ++
    s.calls.map Call.context ++ s.queue.filterMap Work.holder

/-- Frees what no `shared_ptr` refers to. -/
def collect (s : Controller) : Controller :=
  { s with heap := fun a => if s.references.any (·.address == a) then s.heap a else none }

def publish (s : Controller) (p : Pointer) : Controller :=
  s.modify p fun c => { c with published := true }

/-! ## Scheduling -/

def scheduleWork (s : Controller) (work : Work) (accepted : Bool) : Controller :=
  if accepted then { s with queue := s.queue ++ [work] } else s

/-- `ScheduleCancel` of a subscription. -/
def scheduleCancel (s : Controller) (p : Pointer) (accepted : Bool) : Controller :=
  match s.read p with
  | none => s.faulted
  | some c =>
      if c.cancelScheduled || c.done then s
      else if accepted then
        (s.modify p fun c => { c with cancelScheduled := true }).scheduleWork (.cancel p) true
      else s.modify p fun c => { c with cancelScheduled := true, done := true }

/-- The first block of `MarkDone`, and whether there is a second. -/
def markDone (s : Controller) (p : Pointer) : Controller × Bool :=
  match s.read p with
  | none => (s.faulted, false)
  | some c => if c.done then (s, false) else (s.modify p fun c => { c with done := true }, true)

/-- `MarkDone` on the SDK thread, up to its second block. -/
def sdkMarkDone (s : Controller) (p : Pointer) : Controller :=
  match s.markDone p with
  | (marked, true) => { marked with marking := marked.marking ++ [p] }
  | (unmarked, false) => unmarked

def failActive (s : Controller) (p : Pointer) (accepted : Bool) : Controller :=
  match s.read p with
  | none => s.faulted
  | some c =>
      if c.failureEmitted then s
      else (s.modify p fun c => { c with failureEmitted := true, published := true }).scheduleCancel
        p accepted

def cancelRecoveryTimer (s : Controller) (p : Pointer) : Controller :=
  { s with timers := s.timers.filter (· != p) }

def cancelOnSdkThread (s : Controller) (p : Pointer) : Controller :=
  ((s.modify p fun c => { c with cancelled := true }).cancelRecoveryTimer p).sdkMarkDone p

/-- `Pending::AbortOnSdkThread`, which schedules no reap. -/
def abortInteraction (s : Controller) (p : Pointer) : Controller :=
  (s.publish p).modify p fun c => { c with done := true }

/-- `AbortOnSdkThread` of a commissioning or a window. -/
def abortOnSdkThread (s : Controller) (p : Pointer) : Controller := (s.publish p).sdkMarkDone p

/-! ## Reaping -/

/-- `Reap`: the slot is compared by address. -/
def reap (s : Controller) (p : Pointer) : Controller :=
  { s with
    slots := Function.update s.slots p.kind
      ((s.slots p.kind).filter fun q => q.address != p.address || (s.read q).all fun c => !c.done) }

/-- The contexts the controller keeps. -/
def kept (s : Controller) : List Pointer :=
  s.slots .interaction ++ s.slots .commissioning ++ s.slots .window ++ s.slots .subscription

/-- `ReleaseUnusedSessionSetup`, up to the release itself. -/
def releaseUnusedSessionSetup (s : Controller) (node : UInt64) : Controller :=
  if s.kept.any fun p => (s.read p).any fun c => c.node == node && !c.done then s
  else { s with releasing := some node }

/-- `ReapPending`, `ReapCommissioning`, `ReapWindow` and `ReapSubscription`. -/
def reapContext (s : Controller) (p : Pointer) : Controller :=
  match s.read p with
  | none => s.faulted
  | some c => (s.reap p).collect.releaseUnusedSessionSetup c.node

/-! ## The SDK thread -/

/-- `Work` with `Action::Shutdown`. -/
def shutdown (s : Controller) : Controller :=
  let cancelled := (s.slots .subscription).foldl cancelOnSdkThread s
  let dropped := (s.slots .interaction).foldl abortInteraction cancelled
  let aborted := (s.slots .commissioning ++ s.slots .window).foldl abortOnSdkThread dropped
  { aborted with closing := .stopping }

/-- `Start`: the flag tells whether it publishes a failure at once. -/
def start (s : Controller) (p : Pointer) (fails : Bool) : Controller :=
  let started := s.modify p fun c => { c with started := true }
  if fails then (started.publish p).sdkMarkDone p else started

def perform (s : Controller) (fails : Bool) : Work → Controller
  | .start p => s.start p fails
  | .reap p => s.reapContext p
  | .cancel p => s.cancelOnSdkThread p
  | .abort p => (s.abortOnSdkThread p).collect
  | .shutdown => s.shutdown

/-- The SDK thread may take the next item or callback. -/
def idle (s : Controller) : Bool := s.looping && s.marking.isEmpty && s.releasing.isNone

/-- The SDK may call the context back. -/
def callable (s : Controller) (p : Pointer) : Bool := s.idle && (s.read p).any (·.started)

end Controller

/-- What becomes of `OnSubscriptionEstablished`. -/
inductive Establishment where
  | invalid
  | established
  | recovered
  /-- The recovery's status was refused. -/
  | unannounced
  /-- A report held back during the recovery was refused. -/
  | undelivered
deriving DecidableEq

namespace Controller

def onSubscriptionEstablished (s : Controller) (p : Pointer) (outcome : Establishment)
    (accepted : Bool) : Controller :=
  match outcome with
  | .invalid =>
      if (s.read p).any (·.established) then s.failActive p accepted
      else (s.publish p).scheduleCancel p accepted
  | .established => s.modify p fun c => { c with established := true, published := true }
  | .recovered => s.cancelRecoveryTimer p
  | .unannounced => (s.cancelRecoveryTimer p).failActive p accepted
  | .undelivered => (s.cancelRecoveryTimer p).scheduleCancel p accepted

/-- `OnResubscriptionNeeded`: whether the call starts the timer, and whether it goes on to
`FailActive`. -/
def onResubscriptionNeeded (s : Controller) (p : Pointer) (timed fails accepted : Bool) :
    Controller :=
  if (s.read p).any fun c => !c.established || c.cancelled || c.done then s
  else
    let armed := if timed then { s with timers := p :: s.timers.filter (· != p) } else s
    if fails then armed.failActive p accepted else armed

/-- A callback that publishes and ends in `MarkDone`.  `OnDone` of a subscription takes the
timer out and calls `FailActive` where the stream was live. -/
def finish (s : Controller) (p : Pointer) (fails accepted : Bool) : Controller :=
  if p.kind = .subscription then
    let stopped := s.cancelRecoveryTimer p
    let failed := if fails then stopped.failActive p accepted else stopped.publish p
    failed.sdkMarkDone p
  else (s.publish p).sdkMarkDone p

/-- `OnCommissioningComplete`, for whatever pairing it comes from; `fails` where it ends the
context, by a failure, by another node's identifier or by the CASE probe's answer. -/
def onCommissioningComplete (s : Controller) (fails : Bool) : Controller :=
  match s.slots .commissioning with
  | [] => s
  | p :: _ => if fails then (s.publish p).sdkMarkDone p else s

/-! ## The input thread -/

/-- The input thread may make a call: it reads a line, or the control pump does. -/
def pumping (s : Controller) : Bool :=
  s.closing == .open && s.calls.head?.all (·.point.resting)

/-- The admission's test that there is room. -/
def room (s : Controller) : ContextKind → Bool
  | .interaction => (s.slots .interaction).length < 64
  | .commissioning | .window =>
      (s.slots .commissioning).isEmpty && (s.slots .window).isEmpty &&
        (s.slots .interaction).length < 64
  | .subscription => (s.slots .subscription).length < 64

/-- `Interact`, `Commission`, `OpenWindow` and `Subscribe` up to the end of the admission. -/
def admitContext (s : Controller) (kind : ContextKind) (node : UInt64) (address : Nat) :
    Controller :=
  let p : Pointer := { kind, address, serial := s.serial }
  { s with
    heap := Function.update s.heap address (some (Context.create kind s.serial node))
    serial := s.serial + 1
    slots := Function.update s.slots kind (s.slots kind ++ [p])
    calls := { context := p, point := .admitted } :: s.calls }

/-- The innermost call goes on to a point. -/
def goTo (s : Controller) (point : CallPoint) : Controller :=
  match s.calls with
  | [] => s
  | call :: rest => { s with calls := { call with point } :: rest }

/-- The innermost call returns and drops its `shared_ptr`. -/
def leave (s : Controller) : Controller := { s with calls := s.calls.tail }.collect

end Controller

/-- One step of either thread.  `accepted` is what `ScheduleWork` answered. -/
inductive Step where
  /-- A call with valid arguments, and the address its context gets. -/
  | call (kind : ContextKind) (node : UInt64) (address : Nat)
  | schedule (accepted : Bool)
  | markUnscheduled
  | drop
  | scheduleReap (accepted : Bool)
  /-- `WaitForControl` gives up. -/
  | expire
  | scheduleAbort (accepted : Bool)
  | answer
  /-- `CancelSubscription` or `ActivateSubscription` finds the subscription. -/
  | find (context : Pointer)
  /-- `ScheduleCancel` of the subscription found; a cancellation then waits. -/
  | scheduleFound (waits accepted : Bool)
  /-- The activation's reports were taken. -/
  | activated
  | cancelEnds
  | close (accepted : Bool)
  | stopLoop
  | clear
  /-- The SDK thread takes the next item; a start that fails does so at once. -/
  | work (fails : Bool)
  | scheduleMarked (accepted : Bool)
  | release
  | finish (context : Pointer) (fails accepted : Bool)
  | complete (fails : Bool)
  | fail (context : Pointer) (accepted : Bool)
  /-- A report was refused. -/
  | undelivered (context : Pointer) (accepted : Bool)
  | resubscribe (context : Pointer) (timed fails accepted : Bool)
  | establish (context : Pointer) (outcome : Establishment) (accepted : Bool)
  | deadline (context : Pointer) (accepted : Bool)
deriving DecidableEq

namespace Controller

/-- The innermost call, where it stands at the point. -/
def callAt (s : Controller) (point : CallPoint) : Option Pointer :=
  match s.calls with
  | [] => none
  | call :: _ => if call.point = point then some call.context else none

/-- A step; nothing where the thread that would take it is not there. -/
def step (s : Controller) : Step → Option Controller
  | .call kind node address =>
      if s.pumping && (s.heap address).isNone then
        some (if s.accepting && s.room kind then s.admitContext kind node address else s)
      else none
  | .schedule accepted =>
      (s.callAt .admitted).map fun p =>
        if accepted then (s.scheduleWork (.start p) true).goTo .waiting
        else (s.publish p).goTo .unscheduled
  | .markUnscheduled =>
      (s.callAt .unscheduled).map fun p =>
        if p.kind = .interaction then (s.modify p fun c => { c with done := true }).goTo .dropping
        else match s.markDone p with
          | (marked, true) => marked.goTo .marked
          | (unmarked, false) => unmarked.goTo .waiting
  | .drop => (s.callAt .dropping).map fun p => (s.reap p).goTo .waiting
  | .scheduleReap accepted =>
      (s.callAt .marked).map fun p => (s.scheduleWork (.reap p) accepted).goTo .waiting
  | .expire =>
      (s.callAt .waiting).map fun p =>
        if p.kind = .interaction then (s.publish p).leave else (s.publish p).goTo .expired
  | .scheduleAbort accepted =>
      (s.callAt .expired).map fun p =>
        if p.kind = .subscription then (s.scheduleCancel p accepted).leave
        else (s.scheduleWork (.abort p) accepted).leave
  | .answer =>
      (s.callAt .waiting).bind fun p =>
        if (s.read p).any (·.published) then some s.leave else none
  | .find p =>
      if s.pumping && (s.slots .subscription).contains p && !(s.read p).any (·.done) then
        some { s with calls := { context := p, point := .finding } :: s.calls }
      else none
  | .scheduleFound waits accepted =>
      (s.callAt .finding).map fun p =>
        if waits then (s.scheduleCancel p accepted).goTo .awaitingEnd
        else (s.scheduleCancel p accepted).leave
  | .activated => (s.callAt .finding).map fun _ => s.leave
  | .cancelEnds => (s.callAt .awaitingEnd).map fun _ => s.leave
  | .close accepted =>
      if s.closing = .open ∧ s.calls = [] then
        some { s.scheduleWork .shutdown accepted with
          accepting := false
          closing := if accepted then .shuttingDown else .stopping }
      else none
  | .stopLoop =>
      if s.closing = .stopping && s.idle then
        some { s with looping := false, closing := .stopped }
      else none
  | .clear =>
      if s.closing = .stopped then
        some { s with slots := fun _ => [], closing := .closed }.collect
      else none
  | .work fails =>
      match s.queue with
      | [] => none
      | work :: rest => if s.idle then some ({ s with queue := rest }.perform fails work) else none
  | .scheduleMarked accepted =>
      match s.marking with
      | [] => none
      | p :: rest => some ({ s with marking := rest }.scheduleWork (.reap p) accepted)
  | .release => s.releasing.map fun _ => { s with releasing := none }
  | .finish p fails accepted => if s.callable p then some (s.finish p fails accepted) else none
  | .complete fails => if s.idle then some (s.onCommissioningComplete fails) else none
  | .fail p accepted =>
      if s.callable p && p.kind = .subscription then some (s.failActive p accepted) else none
  | .undelivered p accepted =>
      if s.callable p && p.kind = .subscription then some (s.scheduleCancel p accepted) else none
  | .resubscribe p timed fails accepted =>
      if s.callable p && p.kind = .subscription then
        some (s.onResubscriptionNeeded p timed fails accepted)
      else none
  | .establish p outcome accepted =>
      if s.callable p && p.kind = .subscription then
        some (s.onSubscriptionEstablished p outcome accepted)
      else none
  | .deadline p accepted =>
      if s.idle && s.timers.contains p then
        some ((s.cancelRecoveryTimer p).failActive p accepted)
      else none

def run : Controller → List Step → Option Controller
  | s, [] => some s
  | s, first :: rest => (s.step first).bind (·.run rest)

end Controller

end WotexMatter.Native.SdkWork
