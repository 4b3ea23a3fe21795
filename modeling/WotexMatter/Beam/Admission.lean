/-
# WotexMatter.Beam.Admission -- the callers of a connection, its slots and its markers

`Wotex.Matter.Native.Admission` and the way of a call through `Connection`: `call`,
`await_call` and `call_error` in the caller's process; `enqueue_call`, `drain_calls`,
`dispatch_request_frame`, `submit_request`, `finish_call`, `reap_admission` and
`terminate` in the connection's.  A step is one operation on the table, on a marker or
on the Port, or one message taken; the processes' steps interleave freely, and whatever
they read from the clock is part of the step.

A call makes a token for each slot it tries and only the token of the slot it got is ever
stored, so the call's number stands for it.  Of a call that is no `request`
(`health`, `subscribe`, `unsubscribe`) the model keeps its slot, its place in the queue and
its frame; its other answers are any.
-/
import Mathlib.Data.List.Nodup
import Mathlib.Data.Finset.Card
import Mathlib.Order.Interval.Finset.Nat
import Mathlib.Logic.Function.Basic

set_option autoImplicit false

namespace WotexMatter.Beam.Calls

/-! ## Calls, replies and errors -/

/-- The `code` of an error; `other` is one that only the host or a decoder knows. -/
inductive ErrorCode where
  | timeout
  | transportClosed
  | invalidHandle
  | invalidRequest
  | busy
  | ownerClosed
  | invalidFrame
  | responseLimit
  | other (name : String)
deriving DecidableEq

inductive Effect where
  | none
  | unknown
deriving DecidableEq

/-- `Error.new` gives the effect none, `Error.with_effect` another. -/
structure Error where
  code : ErrorCode
  effect : Effect := .none
deriving DecidableEq

/-- What a call returns.  `native` is an error that `Wire.error` decoded from an error reply
of the host; every `error` is made on this side. -/
inductive Reply where
  | ok
  | error (error : Error)
  | native (error : Error)
deriving DecidableEq

inductive Operation where
  | read
  | readPaths
  | readEvents
  | write
  | invoke
  | commissionOnNetwork
  | openWindow
  | other (name : String)
deriving DecidableEq

/-- `@mutating_operations`. -/
def Operation.mutating : Operation → Bool
  | .write | .invoke | .commissionOnNetwork | .openWindow => true
  | _ => false

/-- `valid` is the outcome of the checks `dispatch_call` makes of a request's map. -/
inductive Message where
  | request (type : Operation) (valid : Bool) (timeout : Nat)
  | health (timeout : Nat)
  | subscribe (timeout : Nat)
  | unsubscribe (timeout : Nat)
deriving DecidableEq

def Message.timeout : Message → Nat
  | .request _ _ timeout | .health timeout | .subscribe timeout | .unsubscribe timeout => timeout

/-- `ordinary_message?`. -/
def Message.ordinary (message : Message) : Bool :=
  decide (1 ≤ message.timeout ∧ message.timeout ≤ 60000)

def Message.mutating : Message → Bool
  | .request type _ _ => type.mutating
  | _ => false

/-- What a call passes: the handle's process and generation, the message and its deadline. -/
structure Request where
  owner : Nat
  generation : String
  message : Message
  deadline : Int
deriving DecidableEq

/-- A connection and the calls made to it, by number. -/
structure Setting where
  pid : Nat
  generation : String
  request : Nat → Request

def Setting.mutates (setting : Setting) (call : Nat) : Bool :=
  (setting.request call).message.mutating

def Setting.deadline (setting : Setting) (call : Nat) : Int := (setting.request call).deadline

/-- The effect of an error that ends a submitted call. -/
def effectOf (message : Message) : Effect := if message.mutating then .unknown else .none

/-! ## The state -/

/-- The marker of a token: 0, 1 and 2. -/
inductive Cell where
  | unsubmitted
  | submitted
  | cancelled
deriving DecidableEq

/-- Where a caller stands.  `scanning` to `rechecking` are in `reserve` at the call's slot,
`releasing` gives the slot back and returns the code, `caught` is the `catch` clause. -/
inductive Phase where
  | starting
  | validating
  | checking
  | scanning
  | inserting
  | rechecking
  | releasing (code : ErrorCode)
  | admitted
  | waiting
  | caught (code : ErrorCode)
  | returned (reply : Reply)
deriving DecidableEq

/-- The call has not sent its message. -/
def Phase.early : Phase → Bool
  | .waiting | .caught _ | .returned _ => false
  | _ => true

/-- The call holds a lease that `acquire` returned. -/
def Phase.leased : Phase → Bool
  | .admitted | .waiting | .caught _ => true
  | _ => false

/-- A row of the table: the slot and the token of a lease. -/
structure Lease where
  slot : Nat
  call : Nat
deriving DecidableEq

/-- Where the control message of a close is. -/
inductive Control where
  | unsent
  | waiting
  | taken
deriving DecidableEq

/-- The closing record, whether its owner lives, and its owner's control message. -/
structure CloseRecord where
  deadline : Int
  alive : Bool := true
  control : Control := .unsent
deriving DecidableEq

/-- What the connection is doing.  `awaiting` and `disconnecting` are in `await_owner_line`,
which serves the other messages; `terminating` has these calls left to answer. -/
inductive Stage where
  | idle
  | dispatching (call : Nat)
  | marking (call : Nat)
  | marked (call : Nat)
  | clearing (call : Nat)
  | awaiting (call : Nat)
  | replying (call : Nat) (reply : Reply) (stop : Bool)
  | disconnecting
  | terminating (remaining : List Nat)
  | dead
deriving DecidableEq

namespace Stage

/-- `active_call`. -/
def active : Stage → Option Nat
  | .dispatching call | .marking call | .marked call | .clearing call | .awaiting call
  | .replying call _ _ => some call
  | _ => none

/-- The active call, as long as the Port has not taken its frame. -/
def unwritten : Stage → Option Nat
  | .dispatching call | .marking call | .marked call | .clearing call => some call
  | _ => none

def remaining : Stage → List Nat
  | .terminating remaining => remaining
  | _ => []

/-- The connection takes messages. -/
def serves : Stage → Bool
  | .idle | .awaiting _ | .disconnecting => true
  | _ => false

end Stage

/-- `saved` are the calls of the state that `:drain_calls` was handled in, `reaping` the clock
and the reservations that `reap_admission` still has to look at, `written` the calls whose
frame `Port.command` accepted. -/
structure State where
  rows : List Lease := []
  closing : Option CloseRecord := none
  phase : Nat → Phase := fun _ => .starting
  slot : Nat → Nat := fun _ => 1
  cell : Nat → Cell := fun _ => .unsubmitted
  alive : Nat → Bool := fun _ => true
  replies : Nat → Option Reply := fun _ => none
  mailbox : List Nat := []
  calls : List Nat := []
  order : List Nat := []
  saved : List Nat := []
  stage : Stage := .idle
  reaping : Option (Int × List Lease) := none
  written : List Nat := []

/-! ## The table -/

namespace State

def closed (s : State) : Bool := s.closing.isSome

def taken (s : State) (slot : Nat) : Bool := s.rows.any fun row => row.slot == slot

/-- `owned?`, for the lease of `call`. -/
def owned (s : State) (call : Nat) : Bool := decide (⟨s.slot call, call⟩ ∈ s.rows)

/-- `release`. -/
def release (s : State) (lease : Lease) : State :=
  { s with rows := s.rows.filter fun row => row != lease }

def lease (s : State) (call : Nat) : Lease := ⟨s.slot call, call⟩

/-- `GenServer.reply`: of two replies to one call the caller takes the first. -/
def reply (s : State) (call : Nat) (reply : Reply) : State :=
  { s with replies := Function.update s.replies call (some ((s.replies call).getD reply)) }

def enter (s : State) (call : Nat) (phase : Phase) : State :=
  { s with phase := Function.update s.phase call phase }

def mark (s : State) (call : Nat) (cell : Cell) : State :=
  { s with cell := Function.update s.cell call cell }

def goTo (s : State) (stage : Stage) : State := { s with stage }

/-! ## The caller -/

def fail (s : State) (call : Nat) (code : ErrorCode) : State :=
  s.enter call (.returned (.error { code }))

/-- `reserve`, one slot further. -/
def scanNext (s : State) (call : Nat) : State :=
  { s with slot := Function.update s.slot call (s.slot call + 1) }.enter call .scanning

/-- `call_error`. -/
def callError (setting : Setting) (s : State) (call : Nat) (code : ErrorCode) : State :=
  match s.cell call with
  | .submitted =>
      s.enter call (.returned (.error ⟨code, effectOf (setting.request call).message⟩))
  | _ => (s.mark call .cancelled).fail call code

/-- The caller's next operation, when it does not wait.  Every operation on the table of a
dead connection raises, and `acquire` and `release` rescue it. -/
def advance (setting : Setting) (s : State) (call : Nat) (now : Int) : Option State :=
  match s.phase call with
  | .starting =>
      if setting.deadline call ≤ now then some (s.fail call .timeout)
      else some (s.enter call .validating)
  | .validating =>
      if s.stage = .dead then some (s.fail call .transportClosed)
      else if (setting.request call).owner = setting.pid ∧
          (setting.request call).generation = setting.generation then
        some (s.enter call .checking)
      else some (s.fail call .invalidHandle)
  | .checking =>
      if s.stage = .dead ∨ s.closed then some (s.fail call .transportClosed)
      else some (s.enter call .scanning)
  | .scanning =>
      if s.slot call = 65 then some (s.fail call .busy)
      else if s.stage = .dead then some (s.fail call .transportClosed)
      else if s.taken (s.slot call) then some (s.scanNext call)
      else some ((s.mark call .unsubmitted).enter call .inserting)
  | .inserting =>
      if s.stage = .dead then some (s.fail call .transportClosed)
      else if s.taken (s.slot call) then some (s.scanNext call)
      else some ({ s with rows := s.rows ++ [s.lease call] }.enter call .rechecking)
  | .rechecking =>
      if s.stage = .dead then some (s.fail call .transportClosed)
      else if s.closed then some (s.enter call (.releasing .transportClosed))
      else some (s.enter call .admitted)
  | .releasing code => some ((s.release (s.lease call)).fail call code)
  | .admitted =>
      if 0 < setting.deadline call - now then
        if s.stage = .dead then some (s.enter call .waiting)
        else some ({ s with mailbox := s.mailbox ++ [call] }.enter call .waiting)
      else some (s.enter call (.releasing .timeout))
  | .caught code => some (s.callError setting call code)
  | .waiting | .returned _ => none

/-! ## The connection -/

/-- `finish_call`. -/
def finishCall (s : State) (call : Nat) (answer : Reply) : State :=
  if call ∈ s.calls then
    { (s.release (s.lease call)).reply call answer with
      calls := s.calls.filter (· != call)
      order := s.order.filter (· != call) }
  else s

/-- The end of a callback with `:stop`: `terminate` has the calls left to answer. -/
def terminate (s : State) (remaining : List Nat) : State :=
  { s with
    stage := .terminating remaining
    calls := []
    order := []
    reaping := none }

/-- The process and its table are gone. -/
def exit (s : State) : State :=
  { s with
    stage := .dead
    rows := []
    closing := none
    mailbox := []
    calls := []
    order := []
    reaping := none }

/-- `enqueue_call`, with its two readings of the clock. -/
def enqueueCall (setting : Setting) (s : State) (call : Nat) (now later : Int) : State :=
  let received := { s with mailbox := s.mailbox.filter (· != call) }
  let released := received.release (s.lease call)
  if setting.deadline call ≤ now ∧ s.owned call = false then
    received.reply call (.error { code := .timeout })
  else if s.owned call = false ∨ call ∈ s.calls then
    received.reply call (.error { code := .invalidHandle })
  else if s.closed then released.reply call (.error { code := .transportClosed })
  else if s.alive call = false ∨ setting.deadline call ≤ later then
    released.reply call (.error { code := .timeout })
  else if (setting.request call).message.ordinary = false then
    released.reply call (.error { code := .invalidRequest })
  else { received with calls := s.calls ++ [call], order := s.order ++ [call] }

/-- `:drain_calls`, up to `dispatch_call`. -/
def drain (setting : Setting) (s : State) (now : Int) : Option State :=
  match s.order with
  | [] => none
  | call :: rest =>
      let taken := { s with order := rest, saved := s.calls }
      if s.closed then some (taken.goTo (.replying call (.error { code := .transportClosed }) false))
      else if s.alive call = false then
        some (taken.goTo (.replying call (.error { code := .ownerClosed }) false))
      else if setting.deadline call - now ≤ 0 then
        some (taken.goTo (.replying call (.error { code := .timeout }) false))
      else some (taken.goTo (.dispatching call))

end State

/-- What comes of the frame of a call: no identifier is left, it does not encode or is too
long, encoding raises, or it is ready.  `answered` is any answer that `health`, `subscribe`
and `unsubscribe` give without a frame. -/
inductive Framing where
  | exhausted
  | unencodable
  | raised
  | encoded
  | answered (reply : Reply) (stop : Bool)
deriving DecidableEq

/-- `Port.command`: it returns, or it raises an `ArgumentError` or something else. -/
inductive Command where
  | accepted
  | refused
  | badArgument
  | raised
deriving DecidableEq

/-- How the wait for a response ends.  `result` carries what `Wire.decode` or the caller's own
check makes of it and two readings of the clock; `failure` is an error reply that
`Wire.error` decodes and `malformedFailure` one that it rejects; `channel` is everything
else. -/
inductive Answer where
  | result (rejected : Option ErrorCode) (now later : Int)
  | failure (error : Error)
  | malformedFailure
  | channel (code : ErrorCode)
deriving DecidableEq

/-- The `:channel_error` branch of `dispatch_request_frame`; the channel has failed, so
`error_reply` stops. -/
def channelError (message : Message) (code : ErrorCode) : Reply × Bool :=
  (.error ⟨code, effectOf message⟩, true)

/-- `decode_received_response`, `dispatch_request_frame`, `error_reply` and
`decode_operation_reply`: the reply, and whether the connection stops. -/
def conclude (message : Message) (deadline : Int) : Answer → Reply × Bool
  | .result rejected now later =>
      if now ≤ deadline then
        match rejected with
        | some code => (.error ⟨code, effectOf message⟩, true)
        | none =>
            if later ≤ deadline then (.ok, false)
            else (.error ⟨.timeout, effectOf message⟩, true)
      else channelError message .timeout
  | .failure error => (.native error, error.code == .timeout)
  | .malformedFailure => (.error { code := .invalidFrame }, false)
  | .channel code => channelError message code

namespace State

/-- `request_frame` and `send_request_frame`, up to the submission. -/
def sendRequestFrame (setting : Setting) (s : State) (call : Nat) (framing : Framing) (now : Int) :
    Option State :=
  match framing with
  | .exhausted => some (s.goTo (.replying call (.error { code := .transportClosed }) true))
  | .unencodable => some (s.goTo (.replying call (.error { code := .invalidRequest }) false))
  | .raised => some (s.goTo (.replying call (.error { code := .transportClosed }) true))
  | .encoded =>
      if setting.deadline call ≤ now then
        some (s.goTo (.replying call (.error { code := .timeout }) true))
      else some (s.goTo (.marking call))
  | .answered reply stop =>
      match (setting.request call).message with
      | .request .. => none
      | _ => some (s.goTo (.replying call reply stop))

/-- `dispatch_call`. -/
def dispatch (setting : Setting) (s : State) (framing : Framing) (now : Int) : Option State :=
  match s.stage with
  | .dispatching call =>
      if (setting.request call).generation = setting.generation then
        match (setting.request call).message with
        | .request _ false _ =>
            some (s.goTo (.replying call (.error { code := .invalidRequest }) false))
        | _ => s.sendRequestFrame setting call framing now
      else some (s.goTo (.replying call (.error { code := .invalidHandle }) false))
  | _ => none

/-- `mark_submission`. -/
def markSubmission (s : State) : Option State :=
  match s.stage with
  | .marking call =>
      match s.cell call with
      | .unsubmitted => some ((s.mark call .submitted).goTo (.marked call))
      | _ => some (s.goTo (.replying call (.error { code := .timeout }) true))
  | _ => none

/-- `Port.command` in `submit_request`; only an `ArgumentError` is rescued there. -/
def command (s : State) (outcome : Command) : Option State :=
  match s.stage with
  | .marked call =>
      match outcome with
      | .accepted => some { s with stage := .awaiting call, written := s.written ++ [call] }
      | .refused | .badArgument => some (s.goTo (.clearing call))
      | .raised => some (s.goTo (.replying call (.error { code := .transportClosed }) true))
  | _ => none

/-- `clear_submission`. -/
def clearSubmission (s : State) : Option State :=
  match s.stage with
  | .clearing call =>
      some ((s.mark call .cancelled).goTo
        (.replying call (.error { code := .transportClosed }) true))
  | _ => none

/-- The end of a wait with a channel error, whoever waits. -/
def breakOff (setting : Setting) (s : State) (code : ErrorCode) : Option State :=
  match s.stage with
  | .awaiting call =>
      let ending := channelError (setting.request call).message code
      some { s with stage := .replying call ending.1 ending.2, reaping := none }
  | .idle | .disconnecting => some (s.terminate s.calls)
  | _ => none

/-- `close_failure`. -/
def closeFailure (s : State) (now : Int) : Option ErrorCode :=
  s.closing.bind fun record =>
    if record.alive = false then some .ownerClosed
    else if record.deadline ≤ now then some .timeout
    else none

/-- One reservation of `reap_admission`: a message that waits is answered, and the slot is
released. -/
def reapOne (setting : Setting) (s : State) (now : Int) (lease : Lease) : State :=
  if (lease.call ∈ s.calls ∧ s.slot lease.call = lease.slot) ∨
      (now < setting.deadline lease.call ∧ s.alive lease.call = true) then s
  else if lease.call ∈ s.mailbox ∧ s.slot lease.call = lease.slot then
    ({ s with mailbox := s.mailbox.filter (· != lease.call) }.reply lease.call
      (.error { code := .timeout })).release lease
  else s.release lease

end State

/-! ## Steps and runs -/

inductive Step where
  /-- The caller. -/
  | advance (call : Nat) (now : Int)
  | receive (call : Nat)
  | timeout (call : Nat)
  | down (call : Nat)
  | die (call : Nat)
  /-- A caller of `close`. -/
  | beginClose (deadline : Int)
  | requestClose
  | closerDies
  /-- The connection. -/
  | enqueue (call : Nat) (now later : Int)
  | drain (now : Int)
  | dispatch (framing : Framing) (now : Int)
  | mark
  | command (outcome : Command)
  | clear
  | answer (answer : Answer)
  | finish
  | expire (call : Nat)
  | callerDown (call : Nat)
  | closeControl (invalidate : Bool) (now : Int)
  | reap (now : Int)
  | reapNext
  | reapEnd (cancellationExpired : Bool)
  | stop
  | raised
  | terminateNext
  | exit
  | kill
deriving DecidableEq

namespace State

def serves (s : State) : Bool := s.stage.serves && s.reaping.isNone

def step (setting : Setting) (s : State) : Step → Option State
  | .advance call now => if s.alive call then s.advance setting call now else none
  | .receive call =>
      match s.alive call, s.phase call, s.replies call with
      | true, .waiting, some reply => some (s.enter call (.returned reply))
      | _, _, _ => none
  | .timeout call =>
      if s.alive call ∧ s.phase call = .waiting then some (s.enter call (.caught .timeout)) else none
  | .down call =>
      if s.alive call ∧ s.phase call = .waiting ∧ s.stage = .dead ∧ s.replies call = none then
        some (s.enter call (.caught .transportClosed))
      else none
  | .die call => some { s with alive := Function.update s.alive call false }
  | .beginClose deadline =>
      if s.stage = .dead ∨ s.closed then none
      else some { s with closing := some { deadline } }
  | .requestClose =>
      match s.closing with
      | some record =>
          if record.alive ∧ record.control = .unsent ∧ s.stage ≠ .dead then
            some { s with closing := some { record with control := .waiting } }
          else none
      | none => none
  | .closerDies =>
      s.closing.map fun record => { s with closing := some { record with alive := false } }
  | .enqueue call now later =>
      if s.serves ∧ call ∈ s.mailbox then some (s.enqueueCall setting call now later) else none
  | .drain now =>
      if s.stage = .idle ∧ s.reaping = none then s.drain setting now else none
  | .dispatch framing now => s.dispatch setting framing now
  | .mark => s.markSubmission
  | .command outcome => s.command outcome
  | .clear => s.clearSubmission
  | .answer answer =>
      match s.stage, s.reaping with
      | .awaiting call, none =>
          let ending := conclude (setting.request call).message (setting.deadline call) answer
          some (s.goTo (.replying call ending.1 ending.2))
      | _, _ => none
  | .finish =>
      match s.stage with
      | .replying call reply stop =>
          let finished := s.finishCall call reply
          some (if stop then finished.terminate finished.calls else finished.goTo .idle)
      | _ => none
  | .expire call =>
      if s.serves ∧ s.stage.active ≠ some call then
        some (s.finishCall call (.error { code := .timeout }))
      else none
  | .callerDown call =>
      if s.serves ∧ s.stage.active ≠ some call ∧ s.alive call = false then
        some (s.finishCall call (.error { code := .ownerClosed }))
      else none
  | .closeControl invalidate now =>
      match s.closing with
      | some record =>
          if s.serves ∧ record.control = .waiting then
            let taken := { s with closing := some { record with control := .taken } }
            if s.stage = .idle ∧ invalidate = false ∧ now < record.deadline then
              some (taken.goTo .disconnecting)
            else taken.breakOff setting .transportClosed
          else none
      | none => none
  | .reap now => if s.serves then some { s with reaping := some (now, s.rows) } else none
  | .reapNext =>
      match s.reaping with
      | some (now, lease :: rest) =>
          some { s.reapOne setting now lease with reaping := some (now, rest) }
      | _ => none
  | .reapEnd cancellationExpired =>
      match s.reaping with
      | some (now, []) =>
          match s.closeFailure now, cancellationExpired with
          | none, false => some { s with reaping := none }
          | none, true => s.breakOff setting .timeout
          | some code, _ => s.breakOff setting code
      | _ => none
  | .stop =>
      if s.serves ∧ s.stage.active = none then some (s.terminate s.calls) else none
  | .raised =>
      match s.stage with
      | .dispatching _ | .awaiting _ => some (s.terminate s.saved)
      | _ => none
  | .terminateNext =>
      match s.stage with
      | .terminating (call :: rest) =>
          some (((s.release (s.lease call)).reply call (.error { code := .transportClosed })).goTo
            (.terminating rest))
      | _ => none
  | .exit => if s.stage = .terminating [] then some s.exit else none
  | .kill => if s.stage = .dead then none else some s.exit

def run (setting : Setting) (s : State) : List Step → Option State
  | [] => some s
  | step :: rest => (s.step setting step).bind fun next => next.run setting rest

/-- A step of a connection whose host answers a submitted mutation with no error reply that
`Wire.error` rejects, and which does not raise while it waits for that answer. -/
def orderly (setting : Setting) (s : State) : Step → Bool
  | .answer .malformedFailure | .raised =>
      match s.stage with
      | .awaiting call => !setting.mutates call
      | _ => true
  | _ => true

def orderlyRun (setting : Setting) (s : State) : List Step → Bool
  | [] => true
  | step :: rest =>
      s.orderly setting step &&
        match s.step setting step with
        | some next => next.orderlyRun setting rest
        | none => true

end State

end WotexMatter.Beam.Calls
