/-
# WotexMatter.Beam.RequestFrames -- the request frames a connection writes

Every request frame of `connection.ex` after the handshake: those of awaited calls
(`request_frame`, `take_request_id`, `dispatch_request_frame`, `send_request_frame`), of
cancellations nobody awaits (`cancel_subscription`, `submit_cancellation`) and of the closes
(`close_control`, `request_ids_exhausted`).  A call keeps what its frame is made of.  The
readings of the clock, the outcome of `Request.encode`, of `mark_submission` and of the Port,
and what the host answers are part of the input.

Messages the connection sends itself arrive in their order, `mailbox`.  Everything else may
arrive between any two of them, and while a response is awaited.
-/
import WotexMatter.Wire.RequestEnvelope

set_option autoImplicit false

namespace WotexMatter.Beam.RequestFrames

open WotexMatter.Storage
open WotexMatter.Wire

/-! ## State -/

def maximumRequestId : Nat := 0xFFFFFFFFFFFFFFFF

def cleanupTimeout : Int := 1000

/-- `state.next_id`. -/
inductive NextId where
  | id (n : Nat)
  | exhausted
  deriving DecidableEq

inductive Status where
  | establishing
  | active
  | recovering
  | closing
  deriving DecidableEq

/-- The fields of a subscription that a frame is made of, and its status. -/
structure Subscription where
  status : Status
  nativeId : Bytes
  generation : Nat

/-- What a call asks for.  The parameters of a `request` are its map without the type, those of
a `subscribe` the normalized request. -/
inductive Kind where
  | request (type : Bytes) (parameters : List (Bytes × Json))
  | health
  | subscribe (nativeId : Bytes) (parameters : List (Bytes × Json))
  | unsubscribe (reference : Nat)

structure Call where
  kind : Kind
  timeout : Int
  deadline : Int

/-- `valid_timeout?`. -/
def Call.ordinary (call : Call) : Bool := 1 ≤ call.timeout && call.timeout ≤ 60000

/-- The messages a connection sends itself, as far as frames come of them. -/
inductive Message where
  | drainCalls
  | requestIdsExhausted
  | nativeInputFailed
  deriving DecidableEq

/-- What a connection that is not between two messages waits for: the response to a call, the
retirement a call has joined, or the response to its own close. -/
inductive Wait where
  | call (subscribed : Option Nat)
  | retirement
  | close
  deriving DecidableEq

structure Connection where
  nextId : NextId
  written : List Frame
  mailbox : List Message
  callOrder : List Call
  drainScheduled : Bool
  waiting : Option Wait
  subscriptions : Nat → Option Subscription
  nextReference : Nat
  channelFailed : Bool
  stopped : Bool

/-- The state `init` leaves; the id of the open frame was `"1"`. -/
def initial : Connection where
  nextId := .id 2
  written := []
  mailbox := []
  callOrder := []
  drainScheduled := false
  waiting := none
  subscriptions := fun _ => none
  nextReference := 0
  channelFailed := false
  stopped := false

/-- What a request meets on its way out: two readings of the clock and three outcomes. -/
structure Sending where
  now : Int
  later : Int
  monotonic : now ≤ later
  encodes : Bool
  marked : Bool
  taken : Bool

/-- What a drained call meets: the reading for its remaining time, whether a check before
`request_frame` turns it away, and its sending. -/
structure Dispatch where
  now : Int
  refused : Bool
  sending : Sending
  monotonic : now ≤ sending.now

namespace Connection

/-! ## Requests -/

def post (c : Connection) (message : Message) : Connection :=
  { c with mailbox := c.mailbox ++ [message] }

/-- `fail_native_input`. -/
def failNativeInput (c : Connection) : Connection :=
  if c.channelFailed then c else { c.post .nativeInputFailed with channelFailed := true }

/-- `take_request_id`. -/
def takeRequestId (c : Connection) (operation : Bytes) : Option (Bytes × Connection) :=
  match c.nextId with
  | .exhausted => if operation = ascii "close" then some (ascii "close", c) else none
  | .id n =>
      if n = maximumRequestId then
        some (dumpNumber n, { c.post .requestIdsExhausted with nextId := .exhausted })
      else some (dumpNumber n, { c with nextId := .id (n + 1) })

/-- How `request_frame` ends before a response is awaited. -/
inductive Requested where
  | waiting
  | failed (timeout : Bool)
  deriving DecidableEq

/-- `send_request_frame`. -/
def sendRequestFrame (c : Connection) (frame : Frame) (deadline : Int) (sending : Sending) :
    Requested × Connection :=
  let frame := { frame with timeoutMs := min frame.timeoutMs (max 0 (deadline - sending.now)) }
  if sending.encodes then
    if deadline ≤ sending.later then (.failed true, c)
    else if sending.marked then
      if sending.taken then (.waiting, { c with written := c.written ++ [frame] })
      else (.failed false, { c with channelFailed := true })
    else (.failed true, c)
  else (.failed false, c)

/-- `request_frame`. -/
def requestFrame (c : Connection) (operation : Bytes) (parameters : List (Bytes × Json))
    (timeout deadline : Int) (sending : Sending) : Requested × Connection :=
  match c.takeRequestId operation with
  | some (id, c) => c.sendRequestFrame ⟨id, operation, parameters, timeout⟩ deadline sending
  | none => (.failed false, { c with channelFailed := true })

/-! ## Calls -/

/-- `schedule_drain`. -/
def scheduleDrain (c : Connection) : Connection :=
  if c.waiting = none ∧ c.drainScheduled = false ∧ c.callOrder ≠ [] then
    { c.post .drainCalls with drainScheduled := true }
  else c

/-- A request that is not awaited has failed, and `error_reply` ends the connection with it
when it timed out or the channel has failed. -/
def settle (c : Connection) (wait : Wait) : Requested → Connection
  | .waiting => { c with waiting := some wait }
  | .failed timeout =>
      if timeout || c.channelFailed then { c with stopped := true } else c.scheduleDrain

def setSubscription (c : Connection) (reference : Nat) (subscription : Option Subscription) :
    Connection :=
  { c with subscriptions := Function.update c.subscriptions reference subscription }

/-- `"subscription_id"` and `"generation"`. -/
def handleParameters (subscription : Subscription) : List (Bytes × Json) :=
  [(ascii "subscription_id", .string subscription.nativeId),
    (ascii "generation", numberDocument subscription.generation)]

/-- `subscribe`. -/
def subscribe (c : Connection) (nativeId : Bytes) (parameters : List (Bytes × Json))
    (timeout deadline : Int) (sending : Sending) : Connection :=
  let reference := c.nextReference
  let prepared : Connection :=
    { c.setSubscription reference (some ⟨.establishing, nativeId, 1⟩) with
      nextReference := reference + 1 }
  let requested := prepared.requestFrame (ascii "subscribe")
    (parameters ++ [(ascii "subscription_id", .string nativeId)]) timeout deadline sending
  match requested.1 with
  | .waiting => settle requested.2 (.call (some reference)) .waiting
  | failed => settle (requested.2.setSubscription reference none) (.call none) failed

/-- `unsubscribe_active`, and `join_cancellation` for a subscription that is closing or gone. -/
def unsubscribe (c : Connection) (reference : Nat) (timeout deadline : Int) (sending : Sending) :
    Connection :=
  match c.subscriptions reference with
  | some subscription =>
      if subscription.status = .closing then { c with waiting := some .retirement }
      else
        let closing := c.setSubscription reference (some { subscription with status := .closing })
        let requested := closing.requestFrame (ascii "unsubscribe") (handleParameters subscription)
          timeout deadline sending
        settle requested.2 (.call none) requested.1
  | none => { c with waiting := some .retirement }

/-- `dispatch_call`, as far as its own checks let the call through. -/
def dispatchCall (c : Connection) (call : Call) (timeout : Int) (sending : Sending) : Connection :=
  match call.kind with
  | .request type parameters =>
      let requested := c.requestFrame type parameters timeout call.deadline sending
      settle requested.2 (.call none) requested.1
  | .health =>
      let requested := c.requestFrame (ascii "health") [] timeout call.deadline sending
      settle requested.2 (.call none) requested.1
  | .subscribe nativeId parameters =>
      c.subscribe nativeId parameters timeout call.deadline sending
  | .unsubscribe reference => c.unsubscribe reference timeout call.deadline sending

/-- `drain_calls`; the message is taken. -/
def drainCalls (c : Connection) (d : Dispatch) : Connection :=
  match c.callOrder with
  | [] => { c with drainScheduled := false }
  | call :: rest =>
      let active := { c with callOrder := rest, drainScheduled := false }
      let remaining := call.deadline - d.now
      if d.refused || remaining ≤ 0 then active.scheduleDrain
      else active.dispatchCall call (min call.timeout remaining) d.sending

/-- `dispatch_call` of a disconnect, which ends the connection unless its close is written. -/
def disconnect (c : Connection) (deadline : Int) (sending : Sending) : Connection :=
  let requested := c.requestFrame (ascii "close") [] cleanupTimeout deadline sending
  match requested.1 with
  | .waiting => { requested.2 with waiting := some .close }
  | .failed _ => { requested.2 with stopped := true }

/-! ## Cancellations -/

/-- `submit_cancellation`; `taken` is the outcome of `send_frame`. -/
def submitCancellation (c : Connection) (subscription : Subscription) (id : Bytes)
    (taken : Bool) : Connection :=
  if taken then
    { c with
      written := c.written ++
        [⟨id, ascii "unsubscribe", handleParameters subscription, cleanupTimeout⟩] }
  else c.failNativeInput

/-- `cancel_subscription`. -/
def cancelSubscription (c : Connection) (reference : Nat) (taken : Bool) : Connection :=
  match c.subscriptions reference with
  | some subscription =>
      if subscription.status = .closing then c
      else
        let closing := c.setSubscription reference (some { subscription with status := .closing })
        if subscription.status = .establishing then closing.failNativeInput
        else
          match closing.takeRequestId (ascii "unsubscribe") with
          | some (id, next) => next.submitCancellation subscription id taken
          | none => closing.failNativeInput
  | none => c

end Connection

/-! ## Inputs -/

/-- `respond` is the end of a wait with the reply it makes; `subscription` is what a frame of
the host, or the end of a subscription, leaves of it. -/
inductive Input where
  | enqueue (call : Call)
  | withdraw (position : Nat)
  | drain (dispatch : Dispatch)
  | respond (accepted : Bool)
  | cancel (reference : Nat) (taken : Bool)
  | subscription (reference : Nat) (subscription : Option Subscription)
  | closeControl (deadline now : Int) (sending : Sending)
  | exhausted (now : Int) (sending : Sending)
  | inputFailed
  | stop

namespace Connection

/-- What becomes of a subscription when the wait for its response ends. -/
def established (c : Connection) (accepted : Bool) : Option Nat → Connection
  | some reference =>
      c.setSubscription reference
        (if accepted then
          (c.subscriptions reference).map fun subscription => { subscription with status := .active }
        else none)
  | none => c

/-- One input; `none` where the connection cannot take it. -/
def step (c : Connection) (input : Input) : Option Connection :=
  if c.stopped then none
  else
    match input with
    | .enqueue call =>
        if call.ordinary then
          some (scheduleDrain { c with callOrder := c.callOrder ++ [call] })
        else some c
    | .withdraw position => some { c with callOrder := c.callOrder.eraseIdx position }
    | .drain dispatch =>
        match c.waiting, c.mailbox with
        | none, .drainCalls :: rest => some (drainCalls { c with mailbox := rest } dispatch)
        | _, _ => none
    | .respond accepted =>
        match c.waiting with
        | some (.call subscribed) =>
            some (scheduleDrain { c.established accepted subscribed with waiting := none })
        | some .retirement => some (scheduleDrain { c with waiting := none })
        | _ => none
    | .cancel reference taken => some (c.cancelSubscription reference taken)
    | .subscription reference subscription => some (c.setSubscription reference subscription)
    | .closeControl deadline now sending =>
        if c.waiting = none ∧ now < deadline then some (c.disconnect deadline sending)
        else some { c with stopped := true }
    | .exhausted now sending =>
        match c.waiting, c.mailbox with
        | none, .requestIdsExhausted :: rest =>
            some (disconnect { c with mailbox := rest } (now + cleanupTimeout) sending)
        | _, _ => none
    | .inputFailed =>
        if .nativeInputFailed ∈ c.mailbox then some { c with stopped := true } else none
    | .stop => some { c with stopped := true }

def run (c : Connection) : List Input → Option Connection
  | [] => some c
  | input :: rest => (c.step input).bind fun next => next.run rest

end Connection

/-! ## What one input writes -/

/-- The counter behind a number it gave out. -/
def NextId.after (n : Nat) : NextId := if n = maximumRequestId then .exhausted else .id (n + 1)

/-- What an input does to the counter and to the Port: nothing, a number taken with no frame
written, a number taken and written, or the reserved id written.  In the last case `quiet`
is what makes the frame one that only closes. -/
inductive Emits (quiet : Prop) (c c' : Connection) : Prop where
  | nothing (nextId : c'.nextId = c.nextId) (written : c'.written = c.written)
  | skipped (n : Nat) (was : c.nextId = .id n) (nextId : c'.nextId = .after n)
      (written : c'.written = c.written)
  | numbered (n : Nat) (frame : Frame) (was : c.nextId = .id n) (nextId : c'.nextId = .after n)
      (written : c'.written = c.written ++ [frame]) (id : frame.id = dumpNumber n)
      (timely : frame.Timely)
  | reserved (frame : Frame) (was : c.nextId = .exhausted) (nextId : c'.nextId = .exhausted)
      (written : c'.written = c.written ++ [frame]) (id : frame.id = ascii "close")
      (operation : frame.operation = ascii "close") (timely : frame.Timely)
      (empty : quiet → frame.parameters = [])

/-- Only the counter and what is written count, on both sides. -/
theorem Emits.congr {quiet : Prop} {c d c' d' : Connection} (emits : Emits quiet c c')
    (before : c.nextId = d.nextId ∧ c.written = d.written)
    (behind : d'.nextId = c'.nextId ∧ d'.written = c'.written) : Emits quiet d d' := by
  obtain ⟨nextId, written⟩ := before
  obtain ⟨nextId', written'⟩ := behind
  cases emits with
  | nothing same none => exact .nothing (by rw [nextId', same, nextId]) (by rw [written', none, written])
  | skipped n was next none =>
      exact .skipped n (nextId ▸ was) (nextId'.trans next) (by rw [written', none, written])
  | numbered n frame was next one id timely =>
      exact .numbered n frame (nextId ▸ was) (nextId'.trans next) (by rw [written', one, written]) id
        timely
  | reserved frame was next one id operation timely empty =>
      exact .reserved frame (nextId ▸ was) (nextId'.trans next) (by rw [written', one, written]) id
        operation timely empty

namespace Connection

variable (c : Connection)

@[simp] theorem post_nextId (message : Message) : (c.post message).nextId = c.nextId := rfl
@[simp] theorem post_written (message : Message) : (c.post message).written = c.written := rfl
@[simp] theorem post_callOrder (message : Message) : (c.post message).callOrder = c.callOrder := rfl

@[simp] theorem setSubscription_nextId (reference : Nat) (subscription : Option Subscription) :
    (c.setSubscription reference subscription).nextId = c.nextId := rfl
@[simp] theorem setSubscription_written (reference : Nat) (subscription : Option Subscription) :
    (c.setSubscription reference subscription).written = c.written := rfl
@[simp] theorem setSubscription_callOrder (reference : Nat) (subscription : Option Subscription) :
    (c.setSubscription reference subscription).callOrder = c.callOrder := rfl

@[simp] theorem failNativeInput_nextId : c.failNativeInput.nextId = c.nextId := by
  unfold failNativeInput
  split <;> rfl
@[simp] theorem failNativeInput_written : c.failNativeInput.written = c.written := by
  unfold failNativeInput
  split <;> rfl
@[simp] theorem failNativeInput_callOrder : c.failNativeInput.callOrder = c.callOrder := by
  unfold failNativeInput
  split <;> rfl

@[simp] theorem scheduleDrain_nextId : c.scheduleDrain.nextId = c.nextId := by
  unfold scheduleDrain
  split <;> rfl
@[simp] theorem scheduleDrain_written : c.scheduleDrain.written = c.written := by
  unfold scheduleDrain
  split <;> rfl
@[simp] theorem scheduleDrain_callOrder : c.scheduleDrain.callOrder = c.callOrder := by
  unfold scheduleDrain
  split <;> rfl

theorem settle_same (wait : Wait) (requested : Requested) :
    (c.settle wait requested).nextId = c.nextId ∧ (c.settle wait requested).written = c.written ∧
      (c.settle wait requested).callOrder = c.callOrder := by
  cases requested with
  | waiting => exact ⟨rfl, rfl, rfl⟩
  | failed timeout =>
      simp only [settle]
      split <;> simp

theorem established_same (accepted : Bool) (subscribed : Option Nat) :
    (c.established accepted subscribed).nextId = c.nextId ∧
      (c.established accepted subscribed).written = c.written ∧
      (c.established accepted subscribed).callOrder = c.callOrder := by
  cases subscribed <;> exact ⟨rfl, rfl, rfl⟩

variable {c}

/-- Every way to take an id. -/
theorem takeRequestId_cases {operation id : Bytes} {next : Connection}
    (took : c.takeRequestId operation = some (id, next)) :
    next.written = c.written ∧ next.callOrder = c.callOrder ∧
      ((∃ n, c.nextId = .id n ∧ next.nextId = .after n ∧ id = dumpNumber n) ∨
        c.nextId = .exhausted ∧ next.nextId = .exhausted ∧ operation = ascii "close" ∧
          id = ascii "close") := by
  simp only [takeRequestId] at took
  split at took
  · rename_i was
    split at took
    · rename_i close
      cases took
      exact ⟨rfl, rfl, .inr ⟨was, was, close, rfl⟩⟩
    · cases took
  · rename_i n was
    split at took
    · rename_i last
      cases took
      exact ⟨rfl, rfl, .inl ⟨n, was, by simp [NextId.after, last], rfl⟩⟩
    · rename_i more
      cases took
      exact ⟨rfl, rfl, .inl ⟨n, was, by simp [NextId.after, more], rfl⟩⟩

/-- A request that is written is written with a timeout between its own and the deadline, which
lies ahead when the second reading is made. -/
theorem sendRequestFrame_cases (frame : Frame) (deadline : Int) (sending : Sending)
    (timely : frame.Timely) :
    (c.sendRequestFrame frame deadline sending).2.nextId = c.nextId ∧
      (c.sendRequestFrame frame deadline sending).2.callOrder = c.callOrder ∧
      ((c.sendRequestFrame frame deadline sending).2.written = c.written ∨
        ∃ timeout, Frame.Timely { frame with timeoutMs := timeout } ∧
          (c.sendRequestFrame frame deadline sending).2.written =
            c.written ++ [{ frame with timeoutMs := timeout }]) := by
  simp only [sendRequestFrame]
  split
  · split
    · exact ⟨rfl, rfl, .inl rfl⟩
    · rename_i ahead
      split
      · split
        · refine ⟨rfl, rfl, .inr ⟨_, ?_, rfl⟩⟩
          have := sending.monotonic
          obtain ⟨low, high⟩ := timely
          constructor
          · show 1 ≤ min frame.timeoutMs (max 0 (deadline - sending.now))
            omega
          · show min frame.timeoutMs (max 0 (deadline - sending.now)) ≤ 60000
            omega
        · exact ⟨rfl, rfl, .inl rfl⟩
      · exact ⟨rfl, rfl, .inl rfl⟩
  · exact ⟨rfl, rfl, .inl rfl⟩

theorem requestFrame_emits (c : Connection) (operation : Bytes) (parameters : List (Bytes × Json))
    {timeout : Int} (deadline : Int) (sending : Sending) (bounds : 1 ≤ timeout ∧ timeout ≤ 60000)
    (quiet : Prop)
    (empty : quiet → c.nextId = .exhausted → operation = ascii "close" → parameters = []) :
    Emits quiet c (c.requestFrame operation parameters timeout deadline sending).2 ∧
      (c.requestFrame operation parameters timeout deadline sending).2.callOrder = c.callOrder := by
  simp only [requestFrame]
  split
  · rename_i id next took
    obtain ⟨written, order, taken⟩ := takeRequestId_cases took
    obtain ⟨nextId, sameOrder, sent⟩ :=
      sendRequestFrame_cases (c := next) ⟨id, operation, parameters, timeout⟩ deadline sending bounds
    refine ⟨?_, sameOrder.trans order⟩
    obtain ⟨n, was, behind, rfl⟩ | ⟨was, behind, close, rfl⟩ := taken
    · obtain none | ⟨shorter, timely, one⟩ := sent
      · exact .skipped n was (nextId.trans behind) (none.trans written)
      · exact .numbered n _ was (nextId.trans behind) (written ▸ one) rfl timely
    · obtain none | ⟨shorter, timely, one⟩ := sent
      · exact .nothing (by rw [nextId, behind, was]) (none.trans written)
      · exact .reserved _ was (nextId.trans behind) (written ▸ one) rfl close timely
          fun quiet => empty quiet was close
  · exact ⟨.nothing rfl rfl, rfl⟩

/-- A request of a call, from what was prepared to what is settled. -/
theorem requestFrame_settles (c prepared : Connection) (operation : Bytes)
    (parameters : List (Bytes × Json)) {timeout : Int} (deadline : Int) (sending : Sending)
    (bounds : 1 ≤ timeout ∧ timeout ≤ 60000) {quiet : Prop}
    (empty : quiet → c.nextId = .exhausted → operation = ascii "close" → parameters = [])
    (nextId : prepared.nextId = c.nextId) (written : prepared.written = c.written)
    (order : prepared.callOrder = c.callOrder) (wait : Wait) :
    let requested := prepared.requestFrame operation parameters timeout deadline sending
    Emits quiet c (settle requested.2 wait requested.1) ∧
      (settle requested.2 wait requested.1).callOrder = c.callOrder := by
  intro requested
  obtain ⟨emits, sameOrder⟩ := requestFrame_emits prepared operation parameters deadline sending
    bounds quiet fun quiet was => empty quiet (nextId ▸ was)
  obtain ⟨settledId, settledWritten, settledOrder⟩ := settle_same requested.2 wait requested.1
  exact ⟨emits.congr ⟨nextId, written⟩ ⟨settledId, settledWritten⟩,
    settledOrder.trans (sameOrder.trans order)⟩

theorem subscribe_emits (nativeId : Bytes) (parameters : List (Bytes × Json)) {timeout : Int}
    (deadline : Int) (sending : Sending) (bounds : 1 ≤ timeout ∧ timeout ≤ 60000) (quiet : Prop) :
    Emits quiet c (c.subscribe nativeId parameters timeout deadline sending) ∧
      (c.subscribe nativeId parameters timeout deadline sending).callOrder = c.callOrder := by
  simp only [subscribe]
  obtain ⟨emits, order⟩ := requestFrame_emits
    { c.setSubscription c.nextReference (some ⟨.establishing, nativeId, 1⟩) with
      nextReference := c.nextReference + 1 } (ascii "subscribe")
    (parameters ++ [(ascii "subscription_id", .string nativeId)]) deadline sending bounds quiet
    fun _ _ other => absurd other (by decide)
  split
  · obtain ⟨nextId, written, same⟩ := settle_same _ _ _
    exact ⟨emits.congr ⟨rfl, rfl⟩ ⟨nextId, written⟩, same.trans order⟩
  · obtain ⟨nextId, written, same⟩ := settle_same _ _ _
    exact ⟨emits.congr ⟨rfl, rfl⟩ ⟨nextId, written⟩, same.trans order⟩

theorem unsubscribe_emits (reference : Nat) {timeout : Int} (deadline : Int) (sending : Sending)
    (bounds : 1 ≤ timeout ∧ timeout ≤ 60000) (quiet : Prop) :
    Emits quiet c (c.unsubscribe reference timeout deadline sending) ∧
      (c.unsubscribe reference timeout deadline sending).callOrder = c.callOrder := by
  simp only [unsubscribe]
  split
  · rename_i subscription _
    split
    · exact ⟨.nothing rfl rfl, rfl⟩
    · exact requestFrame_settles c
        (c.setSubscription reference (some { subscription with status := .closing }))
        (ascii "unsubscribe") _ deadline sending bounds
        (fun _ _ other => absurd other (by decide)) rfl rfl rfl _
  · exact ⟨.nothing rfl rfl, rfl⟩

theorem dispatchCall_emits (c : Connection) (call : Call) (timeout : Int) (sending : Sending)
    (bounds : 1 ≤ timeout ∧ timeout ≤ 60000) (quiet : Prop)
    (empty : quiet → c.nextId = .exhausted → ∀ parameters,
      call.kind = .request (ascii "close") parameters → parameters = []) :
    Emits quiet c (c.dispatchCall call timeout sending) ∧
      (c.dispatchCall call timeout sending).callOrder = c.callOrder := by
  simp only [dispatchCall]
  split
  · rename_i type parameters kind
    refine requestFrame_settles c c type parameters _ sending bounds ?_ rfl rfl rfl _
    rintro quiet was rfl
    exact empty quiet was parameters kind
  · exact requestFrame_settles c c (ascii "health") [] _ sending bounds (fun _ _ _ => rfl) rfl rfl
      rfl _
  · exact subscribe_emits _ _ _ sending bounds quiet
  · exact unsubscribe_emits _ _ sending bounds quiet

theorem disconnect_emits (deadline : Int) (sending : Sending) (quiet : Prop) :
    Emits quiet c (c.disconnect deadline sending) ∧
      (c.disconnect deadline sending).callOrder = c.callOrder := by
  have bounds : 1 ≤ cleanupTimeout ∧ cleanupTimeout ≤ 60000 := by decide
  obtain ⟨emits, order⟩ := requestFrame_emits c (ascii "close") [] deadline sending bounds quiet
    fun _ _ _ => rfl
  simp only [disconnect]
  split
  · exact ⟨emits.congr ⟨rfl, rfl⟩ ⟨rfl, rfl⟩, order⟩
  · exact ⟨emits.congr ⟨rfl, rfl⟩ ⟨rfl, rfl⟩, order⟩

theorem cancelSubscription_emits (reference : Nat) (taken : Bool) (quiet : Prop) :
    Emits quiet c (c.cancelSubscription reference taken) ∧
      (c.cancelSubscription reference taken).callOrder = c.callOrder := by
  simp only [cancelSubscription]
  split
  · split
    · exact ⟨.nothing rfl rfl, rfl⟩
    · split
      · exact ⟨.nothing (by simp) (by simp), by simp⟩
      · split
        · rename_i id next took
          obtain ⟨written, order, ⟨n, was, behind, rfl⟩ | ⟨_, _, close, _⟩⟩ := takeRequestId_cases took
          · simp only [submitCancellation]
            split
            · have timely : 1 ≤ cleanupTimeout ∧ cleanupTimeout ≤ 60000 := by decide
              exact ⟨.numbered n _ was behind (congrArg (· ++ _) written) rfl timely, order⟩
            · exact ⟨.skipped n was (by simpa using behind) (by simpa using written),
                by simpa using order⟩
          · exact absurd close (by decide)
        · exact ⟨.nothing (by simp) (by simp), by simp⟩
  · exact ⟨.nothing rfl rfl, rfl⟩

end Connection

/-! ## One input -/

/-- The condition on an input: a call drained after the last number was given out does not ask
for a close with parameters. -/
def Input.quiet (c : Connection) : Input → Bool
  | .drain _ =>
      match c.nextId, c.callOrder with
      | .exhausted, ⟨.request type parameters, _, _⟩ :: _ =>
          type ≠ ascii "close" || parameters.isEmpty
      | _, _ => true
  | _ => true

/-- Every input of a run meets the condition. -/
def Connection.quietRun (c : Connection) : List Input → Bool
  | [] => true
  | input :: rest =>
      input.quiet c &&
        match c.step input with
        | some next => next.quietRun rest
        | none => true

/-- The calls in the queue have timeouts the connection admits. -/
def Queued (c : Connection) : Prop := ∀ call ∈ c.callOrder, call.ordinary = true

theorem drainCalls_emits {c : Connection} (queued : Queued c) (d : Dispatch) {rest : List Message} :
    Emits ((Input.drain d).quiet c = true) c (Connection.drainCalls { c with mailbox := rest } d) ∧
      Queued (Connection.drainCalls { c with mailbox := rest } d) := by
  simp only [Connection.drainCalls]
  split
  · exact ⟨.nothing rfl rfl, queued⟩
  · rename_i call more order
    have queue : c.callOrder = call :: more := order
    have later : ∀ call ∈ more, call.ordinary = true := fun call listed =>
      queued call (queue ▸ List.mem_cons_of_mem _ listed)
    split
    · refine ⟨.nothing (by simp) (by simp), ?_⟩
      intro call listed
      rw [Connection.scheduleDrain_callOrder] at listed
      exact later call listed
    · rename_i goes
      have ordinary := queued call (queue ▸ List.mem_cons_self)
      simp only [Call.ordinary, Bool.and_eq_true, decide_eq_true_eq] at ordinary
      simp only [Bool.or_eq_true, decide_eq_true_eq, not_or, Int.not_le] at goes
      obtain ⟨emits, same⟩ := Connection.dispatchCall_emits
        { c with mailbox := rest, callOrder := more, drainScheduled := false } call
        (min call.timeout (call.deadline - d.now)) d.sending (by omega) ((Input.drain d).quiet c = true)
        fun quiet was parameters kind => by
          obtain ⟨_, timeout, deadline⟩ := call
          cases kind
          simpa [Input.quiet, queue, show c.nextId = .exhausted from was] using quiet
      refine ⟨emits.congr ⟨rfl, rfl⟩ ⟨rfl, rfl⟩, ?_⟩
      intro call listed
      rw [same] at listed
      exact later call listed

/-- **What an input does**, to the counter, to the Port and to the queue. -/
theorem step_emits {c c' : Connection} {input : Input} (queued : Queued c)
    (stepped : c.step input = some c') : Emits (input.quiet c = true) c c' ∧ Queued c' := by
  simp only [Connection.step] at stepped
  split at stepped
  · cases stepped
  · cases input with
    | enqueue call =>
        simp only at stepped
        split at stepped
        · rename_i ordinary
          cases stepped
          refine ⟨.nothing (by simp) (by simp), ?_⟩
          intro other listed
          rw [Connection.scheduleDrain_callOrder] at listed
          rcases List.mem_append.mp listed with old | new
          · exact queued other old
          · exact List.mem_singleton.mp new ▸ ordinary
        · cases stepped
          exact ⟨.nothing rfl rfl, queued⟩
    | withdraw position =>
        cases stepped
        exact ⟨.nothing rfl rfl, fun call listed => queued call (List.mem_of_mem_eraseIdx listed)⟩
    | drain dispatch =>
        simp only at stepped
        split at stepped
        · cases stepped
          exact drainCalls_emits queued dispatch
        · cases stepped
    | respond accepted =>
        simp only at stepped
        split at stepped
        · rename_i subscribed _
          cases stepped
          obtain ⟨nextId, written, order⟩ := c.established_same accepted subscribed
          refine ⟨.nothing (by simpa using nextId) (by simpa using written), ?_⟩
          intro call listed
          rw [Connection.scheduleDrain_callOrder] at listed
          exact queued call (order ▸ listed)
        · cases stepped
          refine ⟨.nothing (by simp) (by simp), ?_⟩
          intro call listed
          rw [Connection.scheduleDrain_callOrder] at listed
          exact queued call listed
        · cases stepped
    | cancel reference taken =>
        cases stepped
        obtain ⟨emits, order⟩ := Connection.cancelSubscription_emits (c := c) reference taken
          ((Input.cancel reference taken).quiet c = true)
        exact ⟨emits, fun call listed => queued call (order ▸ listed)⟩
    | subscription reference subscription =>
        cases stepped
        exact ⟨.nothing rfl rfl, queued⟩
    | closeControl deadline now sending =>
        simp only at stepped
        split at stepped
        · cases stepped
          obtain ⟨emits, order⟩ := Connection.disconnect_emits (c := c) deadline sending
            ((Input.closeControl deadline now sending).quiet c = true)
          exact ⟨emits, fun call listed => queued call (order ▸ listed)⟩
        · cases stepped
          exact ⟨.nothing rfl rfl, queued⟩
    | exhausted now sending =>
        simp only at stepped
        split at stepped
        · rename_i rest _ _
          cases stepped
          obtain ⟨emits, order⟩ := Connection.disconnect_emits (c := { c with mailbox := rest })
            (now + cleanupTimeout) sending ((Input.exhausted now sending).quiet c = true)
          exact ⟨emits.congr ⟨rfl, rfl⟩ ⟨rfl, rfl⟩, fun call listed => queued call (order ▸ listed)⟩
        · cases stepped
    | inputFailed =>
        simp only at stepped
        split at stepped
        · cases stepped
          exact ⟨.nothing rfl rfl, queued⟩
        · cases stepped
    | stop =>
        cases stepped
        exact ⟨.nothing rfl rfl, queued⟩

/-! ## Runs -/

/-- The frames written: numbered ones, their ids the canonical decimals of `ids`, and behind
them the closes that use the reserved id. -/
structure Ordered (c : Connection) (ids : List Nat) (closes : List Frame) : Prop where
  written : ∃ numbered, c.written = numbered ++ closes ∧
    numbered.map Frame.id = ids.map dumpNumber
  increasing : ids.Pairwise (· < ·)
  range : ∀ id ∈ ids, 1 < id ∧ id ≤ maximumRequestId
  reserved : ∀ frame ∈ closes, frame.id = ascii "close" ∧ frame.operation = ascii "close"
  exhausted : closes ≠ [] → c.nextId = .exhausted
  timely : ∀ frame ∈ c.written, frame.Timely

/-- The counter is above every number given out. -/
def Ahead (c : Connection) (ids : List Nat) : Prop :=
  ∀ n, c.nextId = .id n → 1 < n ∧ n ≤ maximumRequestId ∧ ∀ id ∈ ids, id < n

/-- The host has accepted every frame, and the next number is one it will accept. -/
def Accepted (c : Connection) : Prop :=
  ∃ greatest, receiveRequests 1 c.written = some greatest ∧
    ∀ n, c.nextId = .id n → greatest < n

theorem after_ne_exhausted {n m : Nat} (next : NextId.after n = .id m) :
    m = n + 1 ∧ n ≠ maximumRequestId := by
  simp only [NextId.after] at next
  split at next
  · cases next
  · rename_i more
    cases next
    exact ⟨rfl, more⟩

/-- The counter moves on past the number it gave out. -/
theorem ahead_after {c c' : Connection} {ids ids' : List Nat} {n : Nat} (ahead : Ahead c ids)
    (was : c.nextId = .id n) (next : c'.nextId = .after n) (listed : ∀ id ∈ ids', id ≤ n) :
    Ahead c' ids' := by
  intro m counter
  obtain ⟨rfl, more⟩ := after_ne_exhausted (next.symm.trans counter)
  obtain ⟨low, high, _⟩ := ahead n was
  exact ⟨by omega, by omega, fun id present => Nat.lt_succ_of_le (listed id present)⟩

theorem emits_ordered {quiet : Prop} {c c' : Connection} {ids : List Nat} {closes : List Frame}
    (emits : Emits quiet c c') (ordered : Ordered c ids closes) (ahead : Ahead c ids) :
    ∃ ids' closes', Ordered c' ids' closes' ∧ Ahead c' ids' := by
  obtain ⟨numbered, written, spelled⟩ := ordered.written
  cases emits with
  | nothing nextId none =>
      refine ⟨ids, closes, { ordered with
        written := ⟨numbered, none.trans written, spelled⟩
        exhausted := fun some => nextId.trans (ordered.exhausted some)
        timely := none ▸ ordered.timely }, ?_⟩
      exact fun n counter => ahead n (nextId ▸ counter)
  | skipped n was nextId none =>
      -- a number was left, so no close has been written
      have noClose : closes = [] := by
        by_contra some
        cases was.symm.trans (ordered.exhausted some)
      refine ⟨ids, closes, { ordered with
        written := ⟨numbered, none.trans written, spelled⟩
        exhausted := fun some => absurd noClose some
        timely := none ▸ ordered.timely }, ?_⟩
      exact ahead_after ahead was nextId fun id listed => ((ahead n was).2.2 id listed).le
  | numbered n frame was nextId one id timely =>
      have noClose : closes = [] := by
        by_contra some
        cases was.symm.trans (ordered.exhausted some)
      subst noClose
      rw [List.append_nil] at written
      obtain ⟨low, high, above⟩ := ahead n was
      refine ⟨ids ++ [n], [], ⟨⟨numbered ++ [frame], ?_, ?_⟩, ?_, ?_, by simp, by simp, ?_⟩, ?_⟩
      · rw [one, written, List.append_nil]
      · rw [List.map_append, List.map_append, spelled, List.map_singleton, List.map_singleton, id]
      · refine List.pairwise_append.mpr ⟨ordered.increasing, List.pairwise_singleton _ _, ?_⟩
        intro earlier listed later last
        exact List.mem_singleton.mp last ▸ above earlier listed
      · intro number listed
        rcases List.mem_append.mp listed with old | new
        · exact ordered.range number old
        · exact List.mem_singleton.mp new ▸ ⟨low, high⟩
      · rw [one]
        intro other listed
        rcases List.mem_append.mp listed with old | new
        · exact ordered.timely other old
        · exact List.mem_singleton.mp new ▸ timely
      · refine ahead_after ahead was nextId fun number listed => ?_
        rcases List.mem_append.mp listed with old | new
        · exact (above number old).le
        · exact (List.mem_singleton.mp new).le
  | reserved frame was nextId one id operation timely empty =>
      refine ⟨ids, closes ++ [frame], { ordered with
        written := ⟨numbered, by rw [one, written, List.append_assoc], spelled⟩
        reserved := ?_, exhausted := fun _ => nextId, timely := ?_ }, ?_⟩
      · intro other listed
        rcases List.mem_append.mp listed with old | new
        · exact ordered.reserved other old
        · exact List.mem_singleton.mp new ▸ ⟨id, operation⟩
      · rw [one]
        intro other listed
        rcases List.mem_append.mp listed with old | new
        · exact ordered.timely other old
        · exact List.mem_singleton.mp new ▸ timely
      · intro n counter
        cases nextId.symm.trans counter

/-- One frame more is accepted: a number is above every one before, and a close with nothing else
is the reserved one. -/
theorem emits_accepted {quiet : Prop} {c c' : Connection} {ids : List Nat}
    (emits : Emits quiet c c') (holds : quiet) (ahead : Ahead c ids) (accepted : Accepted c) :
    Accepted c' := by
  obtain ⟨greatest, received, below⟩ := accepted
  cases emits with
  | nothing nextId none => exact ⟨greatest, none ▸ received, fun n counter => below n (nextId ▸ counter)⟩
  | skipped n was nextId none =>
      refine ⟨greatest, none ▸ received, fun m counter => ?_⟩
      obtain ⟨rfl, _⟩ := after_ne_exhausted (nextId.symm.trans counter)
      exact Nat.lt_succ_of_lt (below n was)
  | numbered n frame was nextId one id timely =>
      have last := receiveRequest_number timely id (below n was) (ahead n was).2.1
      refine ⟨n, ?_, fun m counter => ?_⟩
      · rw [one, receiveRequests_append, received, Option.bind_some, receiveRequests, last]
        rfl
      · obtain ⟨rfl, _⟩ := after_ne_exhausted (nextId.symm.trans counter)
        exact Nat.lt_succ_self n
  | reserved frame was nextId one id operation timely empty =>
      have last := receiveRequest_close greatest timely id operation
      rw [if_pos (empty holds)] at last
      refine ⟨greatest, ?_, fun m counter => ?_⟩
      · rw [one, receiveRequests_append, received, Option.bind_some, receiveRequests, last]
        rfl
      · cases nextId.symm.trans counter

theorem run_cons {c c' : Connection} {input : Input} {rest : List Input}
    (ran : c.run (input :: rest) = some c') : ∃ next, c.step input = some next ∧ next.run rest = some c' :=
  Option.bind_eq_some_iff.mp ran

theorem run_append {c c' : Connection} (before after : List Input) :
    c.run (before ++ after) = some c' ↔
      ∃ middle, c.run before = some middle ∧ middle.run after = some c' := by
  induction before generalizing c with
  | nil => simp [Connection.run]
  | cons input rest ih =>
      simp only [List.cons_append, Connection.run, Option.bind_eq_some_iff, ih]
      constructor
      · rintro ⟨next, stepped, middle, ran, goes⟩
        exact ⟨middle, ⟨next, stepped, ran⟩, goes⟩
      · rintro ⟨middle, ⟨next, stepped, ran⟩, goes⟩
        exact ⟨next, stepped, middle, ran, goes⟩

theorem run_queued (inputs : List Input) {c c' : Connection} (ran : c.run inputs = some c')
    (queued : Queued c) : Queued c' := by
  induction inputs generalizing c with
  | nil =>
      cases ran
      exact queued
  | cons input rest ih =>
      obtain ⟨next, stepped, ran⟩ := run_cons ran
      exact ih ran (step_emits queued stepped).2

/-- In every run the ids go up, whatever the calls ask for. -/
theorem run_ordered (inputs : List Input) {c c' : Connection} {ids : List Nat} {closes : List Frame}
    (ran : c.run inputs = some c') (queued : Queued c) (ordered : Ordered c ids closes)
    (ahead : Ahead c ids) : ∃ ids' closes', Ordered c' ids' closes' ∧ Ahead c' ids' := by
  induction inputs generalizing c ids closes with
  | nil =>
      cases ran
      exact ⟨ids, closes, ordered, ahead⟩
  | cons input rest ih =>
      obtain ⟨next, stepped, ran⟩ := run_cons ran
      obtain ⟨emits, queued⟩ := step_emits queued stepped
      obtain ⟨ids, closes, ordered, ahead⟩ := emits_ordered emits ordered ahead
      exact ih ran queued ordered ahead

/-- In a quiet run the host accepts every frame. -/
theorem run_accepted (inputs : List Input) {c c' : Connection} {ids : List Nat} {closes : List Frame}
    (ran : c.run inputs = some c') (quiet : c.quietRun inputs = true) (queued : Queued c)
    (ordered : Ordered c ids closes) (ahead : Ahead c ids) (accepted : Accepted c) : Accepted c' := by
  induction inputs generalizing c ids closes with
  | nil =>
      cases ran
      exact accepted
  | cons input rest ih =>
      obtain ⟨next, stepped, ran⟩ := run_cons ran
      rw [Connection.quietRun, stepped, Bool.and_eq_true] at quiet
      obtain ⟨emits, queued⟩ := step_emits queued stepped
      have accepted := emits_accepted emits quiet.1 ahead accepted
      obtain ⟨ids, closes, ordered, ahead⟩ := emits_ordered emits ordered ahead
      exact ih ran quiet.2 queued ordered ahead accepted

/-- Once the numbers are exhausted, only closes are written. -/
theorem run_exhausted (inputs : List Input) {c c' : Connection} (ran : c.run inputs = some c')
    (queued : Queued c) (was : c.nextId = .exhausted) :
    ∃ closes, c'.written = c.written ++ closes ∧
      ∀ frame ∈ closes, frame.id = ascii "close" ∧ frame.operation = ascii "close" := by
  induction inputs generalizing c with
  | nil =>
      cases ran
      exact ⟨[], by simp, by simp⟩
  | cons input rest ih =>
      obtain ⟨next, stepped, ran⟩ := run_cons ran
      obtain ⟨emits, queued⟩ := step_emits queued stepped
      cases emits with
      | nothing nextId none =>
          obtain ⟨closes, written, reserved⟩ := ih ran queued (nextId.trans was)
          exact ⟨closes, none ▸ written, reserved⟩
      | skipped n counter | numbered n frame counter => cases was.symm.trans counter
      | reserved frame _ nextId one id operation =>
          obtain ⟨closes, written, reserved⟩ := ih ran queued nextId
          refine ⟨frame :: closes, by rw [written, one, List.append_assoc]; rfl, ?_⟩
          exact List.forall_mem_cons.mpr ⟨⟨id, operation⟩, reserved⟩

theorem ordered_initial : Ordered initial [] [] where
  written := ⟨[], rfl, rfl⟩
  increasing := .nil
  range := by simp
  reserved := by simp
  exhausted := by simp
  timely := by simp [initial]

theorem ahead_initial : Ahead initial [] := by
  rintro n ⟨⟩
  exact ⟨by omega, by decide, by simp⟩

theorem accepted_initial : Accepted initial := by
  refine ⟨1, rfl, ?_⟩
  rintro n ⟨⟩
  omega

/-- **The frames of a run are admissible.**  Their ids are the decimals of increasing numbers
above 1, then the reserved id; their timeouts are within bounds; once the numbers are
exhausted only closes are written; and the host accepts all of them in order. -/
theorem run_requests_admissible (before after : List Input) (middle c : Connection)
    (ran : initial.run before = some middle) (goes : middle.run after = some c)
    (quiet : initial.quietRun (before ++ after) = true) :
    (∃ ids closes, Ordered c ids closes) ∧
      (middle.nextId = .exhausted → ∃ closes, c.written = middle.written ++ closes ∧
        ∀ frame ∈ closes, frame.id = ascii "close" ∧ frame.operation = ascii "close") ∧
      ∃ greatest, receiveRequests 1 c.written = some greatest := by
  have whole : initial.run (before ++ after) = some c := (run_append before after).mpr ⟨middle, ran, goes⟩
  have queued : Queued initial := by simp [Queued, initial]
  obtain ⟨ids, closes, ordered, _⟩ := run_ordered _ whole queued ordered_initial ahead_initial
  obtain ⟨greatest, received, _⟩ :=
    run_accepted _ whole quiet queued ordered_initial ahead_initial accepted_initial
  exact ⟨⟨ids, closes, ordered⟩, run_exhausted after goes (run_queued before ran queued), greatest,
    received⟩

/-- Nothing in the way of a request. -/
def clear : Sending := ⟨0, 0, Int.le_refl 0, true, true, true⟩

def promptly : Dispatch := ⟨0, false, clear, Int.le_refl 0⟩

/-- A health call and its response. -/
def healthCall : List Input := [.enqueue ⟨.health, 1000, 1000⟩, .drain promptly, .respond true]

theorem run_requests_admissible_health :
    ∃ c, initial.run (healthCall ++ [.closeControl 1000 0 clear]) = some c ∧
      ∃ greatest, receiveRequests 1 c.written = some greatest := by
  obtain ⟨middle, ran⟩ : ∃ middle, initial.run healthCall = some middle := ⟨_, rfl⟩
  obtain ⟨c, goes⟩ : ∃ c, middle.run [.closeControl 1000 0 clear] = some c := by
    cases ran
    exact ⟨_, rfl⟩
  exact ⟨c, (run_append _ _).mpr ⟨middle, ran, goes⟩,
    (run_requests_admissible healthCall [.closeControl 1000 0 clear] middle c ran goes (by decide)).2.2⟩

/-! ## A close that says too much -/

/-- A connection between two messages, with nothing to do and numbers left. -/
structure Idle (c : Connection) (n : Nat) : Prop where
  nextId : c.nextId = .id n
  mailbox : c.mailbox = []
  callOrder : c.callOrder = []
  drainScheduled : c.drainScheduled = false
  waiting : c.waiting = none
  channel : c.channelFailed = false
  runs : c.stopped = false

/-- A health call takes one number and leaves everything else. -/
theorem run_healthCall {c : Connection} {n : Nat} (idle : Idle c n) (more : n ≠ maximumRequestId) :
    ∃ c', c.run healthCall = some c' ∧ Idle c' (n + 1) ∧ c'.subscriptions = c.subscriptions := by
  obtain ⟨nextId, written, mailbox, callOrder, drainScheduled, waiting, subscriptions, nextReference,
    channelFailed, stopped⟩ := c
  obtain ⟨rfl, rfl, rfl, rfl, rfl, rfl, rfl⟩ := idle
  have ran : Connection.run ⟨.id n, written, [], [], false, none, subscriptions, nextReference, false,
      false⟩ healthCall =
      some ⟨.id (n + 1), written ++ [⟨dumpNumber n, ascii "health", [], 1000⟩], [], [], false, none,
        subscriptions, nextReference, false, false⟩ := by
    simp [healthCall, Connection.run, Connection.step, Call.ordinary, Connection.scheduleDrain,
      Connection.post, Connection.drainCalls, promptly, Connection.dispatchCall,
      Connection.requestFrame, Connection.takeRequestId, more, Connection.sendRequestFrame, clear,
      Connection.settle, Connection.established]
  exact ⟨_, ran, ⟨rfl, rfl, rfl, rfl, rfl, rfl, rfl⟩, rfl⟩

/-- Health calls, one after the other. -/
def healthCalls : Nat → List Input
  | 0 => []
  | k + 1 => healthCall ++ healthCalls k

theorem run_healthCalls (k : Nat) {c : Connection} {n : Nat} (idle : Idle c n)
    (enough : n + k ≤ maximumRequestId) :
    ∃ c', c.run (healthCalls k) = some c' ∧ Idle c' (n + k) ∧ c'.subscriptions = c.subscriptions := by
  induction k generalizing c n with
  | zero => exact ⟨c, rfl, idle, rfl⟩
  | succ k ih =>
      obtain ⟨middle, ran, idle, same⟩ := run_healthCall idle (by omega)
      obtain ⟨c', goes, idle, same'⟩ := ih idle (by omega)
      refine ⟨c', (run_append _ _).mpr ⟨middle, ran, goes⟩, ?_, same'.trans same⟩
      rw [Nat.add_assoc, Nat.add_comm 1] at idle
      exact idle

def switchId : Bytes := ascii "00112233445566778899aabbccddeeff"

/-- The on/off attribute of one endpoint. -/
def switchRequest : List (Bytes × Json) :=
  [(ascii "kind", .string (ascii "attribute")),
    (ascii "paths", .array [.object
      [(ascii "fabric_id", .unsigned 1), (ascii "node_id", .unsigned 2),
        (ascii "endpoint", .unsigned 1), (ascii "cluster", .unsigned 6),
        (ascii "member", .unsigned 0)]]),
    (ascii "min_interval_s", .unsigned 0), (ascii "max_interval_s", .unsigned 60),
    (ascii "resubscribe", .boolean false), (ascii "queue_limit", .unsigned 64)]

/-- A subscription that the host has accepted. -/
def subscribed : List Input :=
  [.enqueue ⟨.subscribe switchId switchRequest, 1000, 1000⟩, .drain promptly, .respond true]

/-- A caller asks for a close and names a fabric.  Before its call is drained, the receiver of
the subscription dies, and the cancellation takes the last number. -/
def closeOnFabric : List Input :=
  [.enqueue ⟨.request (ascii "close") [(ascii "fabric_id", .unsigned 1)], 1000, 1000⟩,
    .cancel 0 true, .drain promptly]

/-- All numbers but the last are used up before. -/
def lastNumberCancelled : List Input :=
  subscribed ++ (healthCalls (maximumRequestId - 3) ++ closeOnFabric)

theorem run_closeOnFabric {c : Connection} (idle : Idle c maximumRequestId)
    (active : c.subscriptions 0 = some ⟨.active, switchId, 1⟩) :
    ∃ c' numbered, c.run closeOnFabric = some c' ∧ c'.written =
      numbered ++ [⟨ascii "close", ascii "close", [(ascii "fabric_id", .unsigned 1)], 1000⟩] := by
  obtain ⟨nextId, written, mailbox, callOrder, drainScheduled, waiting, subscriptions, nextReference,
    channelFailed, stopped⟩ := c
  obtain ⟨rfl, rfl, rfl, rfl, rfl, rfl, rfl⟩ := idle
  simp only at active
  have ran : Connection.run ⟨.id maximumRequestId, written, [], [], false, none, subscriptions,
      nextReference, false, false⟩ closeOnFabric =
      some ⟨.exhausted, written ++
        [⟨dumpNumber maximumRequestId, ascii "unsubscribe",
          Connection.handleParameters ⟨.active, switchId, 1⟩, cleanupTimeout⟩] ++
        [⟨ascii "close", ascii "close", [(ascii "fabric_id", .unsigned 1)], 1000⟩],
        [.requestIdsExhausted], [], false, some (.call none),
        Function.update subscriptions 0 (some ⟨.closing, switchId, 1⟩), nextReference, false,
        false⟩ := by
    simp [closeOnFabric, Connection.run, Connection.step, Call.ordinary, Connection.scheduleDrain,
      Connection.post, Connection.cancelSubscription, active, Connection.setSubscription,
      Connection.takeRequestId, Connection.submitCancellation, Connection.drainCalls, promptly,
      Connection.dispatchCall, Connection.requestFrame, Connection.sendRequestFrame, clear,
      Connection.settle]
  exact ⟨_, _, ran, rfl⟩

/-- **A close that says more than close is refused.**  The call gets the reserved id, and the
host, which takes that id with empty parameters only, ends the session. -/
theorem requests_refused_close :
    ∃ c, initial.run lastNumberCancelled = some c ∧ receiveRequests 1 c.written = none := by
  obtain ⟨first, begun, idle, active⟩ : ∃ first, initial.run subscribed = some first ∧
      Idle first 3 ∧ first.subscriptions 0 = some ⟨.active, switchId, 1⟩ :=
    ⟨_, rfl, ⟨rfl, rfl, rfl, rfl, rfl, rfl, rfl⟩, rfl⟩
  have below : 3 ≤ maximumRequestId := by decide
  obtain ⟨last, used, idle, same⟩ := run_healthCalls (maximumRequestId - 3) idle (by omega)
  rw [show 3 + (maximumRequestId - 3) = maximumRequestId by omega] at idle
  obtain ⟨c, numbered, closed, written⟩ := run_closeOnFabric idle (same ▸ active)
  refine ⟨c, (run_append _ _).mpr ⟨first, begun, (run_append _ _).mpr ⟨last, used, closed⟩⟩, ?_⟩
  rw [written, receiveRequests_append]
  cases receiveRequests 1 numbered with
  | none => rfl
  | some greatest =>
      have timely : (Frame.mk (ascii "close") (ascii "close") [(ascii "fabric_id", .unsigned 1)]
        1000).Timely := by
        constructor <;> decide
      rw [Option.bind_some, receiveRequests, receiveRequest_close greatest timely rfl rfl]
      rfl

end WotexMatter.Beam.RequestFrames
