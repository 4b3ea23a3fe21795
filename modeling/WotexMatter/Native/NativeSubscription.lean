/-
# WotexMatter.Native.NativeSubscription -- the SDK callbacks of one subscription

`NativeSubscription` (`native/src/controller.cpp`) from the moment its read client has
been started.  The SDK calls it back on one thread; what a callback does to the host goes
through the three sinks, so the state is the subscription together with the
`HostProtocol` behind them.

Each callback is given what the platform answers: whether `ScheduleWork` and `StartTimer`
succeed, whether the status sink is there, the clock, and the reporting intervals of the
read client.  A decoded value or the error it gave stands for the SDK's data callbacks,
which differ only in how they decode.  The read client itself and the condition variable
have no part in what is modelled.
-/
import WotexMatter.Native.SubscriptionBuffer

set_option autoImplicit false

namespace WotexMatter.Native

/-- `SubscriptionResponse`. -/
structure NativeResponse where
  ok : Bool := false
  errorCode : String := ""
  generation : Nat := 0
  minIntervalS : Nat := 0
  maxIntervalS : Nat := 0
  sdkSubscriptionId : Nat := 0
deriving DecidableEq, Repr

structure NativeSubscription (V : Type) where
  request : SubscriptionRequest
  buffer : SubscriptionBuffer V
  recovery : SubscriptionRecovery
  response : NativeResponse := {}
  published : Bool := false
  cancelled : Bool := false
  failureEmitted : Bool := false
  cancelScheduled : Bool := false
  done : Bool := false
  recoveryTimerActive : Bool := false
  recoveryAttempt : Nat := 0

/-- What the platform answers during one callback. -/
structure Platform where
  scheduled : Bool := true
  timerStarts : Bool := true
  statusSink : Bool := true
deriving DecidableEq, Repr

namespace NativeSubscription

variable {V : Type}

/-- The constructor. -/
def create (request : SubscriptionRequest) : NativeSubscription V where
  request
  buffer := { request }
  recovery := { enabled := request.resubscribe }

/-- Without the work item the cancellation can only be given up. -/
def scheduleCancel (n : NativeSubscription V) (platform : Platform) : NativeSubscription V :=
  if n.cancelScheduled ∨ n.done then n
  else { n with cancelScheduled := true, done := !platform.scheduled }

def markDone (n : NativeSubscription V) : NativeSubscription V := { n with done := true }

def publishFailure (n : NativeSubscription V) (code : String) : NativeSubscription V :=
  if n.published then n
  else { n with response := { n.response with errorCode := code }, published := true }

def cancelOnSdkThread (n : NativeSubscription V) : NativeSubscription V :=
  { n with
    cancelled := true
    recovery := n.recovery.cancel
    buffer := n.buffer.cancel
    recoveryTimerActive := false
    done := true }

/-- The locked block of `FailActive`. -/
def failed (n : NativeSubscription V) (error : InteractionError) : NativeSubscription V :=
  let failed := { n with failureEmitted := true, buffer := n.buffer.cancel }
  if n.response.ok then failed else failed.publishFailure error.code

/-- The locked block of `OnResubscriptionNeeded`: the decision, and whether the buffer is
prepared for it. -/
def nextAttempt (n : NativeSubscription V) (nowMs : Nat) :
    Decision × Bool × NativeSubscription V :=
  let (decision, recovery) := n.recovery.next nowMs
  let prepared := if decision.action = .retry ∧ decision.attempt = 1 then
      n.buffer.prepareRecovery decision.generation
    else (true, n.buffer)
  (decision, prepared.1, { n with
    recovery
    buffer := prepared.2
    recoveryAttempt := decision.attempt })

def resubscribing (n : NativeSubscription V) (decision : Decision) : SubscriptionStatus where
  subscriptionId := n.request.subscriptionId
  generation := decision.generation
  status := .resubscribing
  continuity := .lost
  attempt := decision.attempt

def resubscribed (n : NativeSubscription V) (sdkSubscriptionId minimum maximum : Nat) :
    SubscriptionStatus where
  subscriptionId := n.request.subscriptionId
  generation := n.recovery.generation
  status := .resubscribed
  continuity := .unknown
  attempt := n.recoveryAttempt
  minIntervalS := minimum
  maxIntervalS := maximum
  sdkSubscriptionId := sdkSubscriptionId

/-- The locked block of `Activate`; `OnSubscriptionEstablished` has the same one for a stream
that was recovering. -/
def release (n : NativeSubscription V) : List (NativeReport V) × NativeSubscription V :=
  let released := n.buffer.activate.takeReady
  (released.1, { n with buffer := released.2 })

end NativeSubscription

/-- A subscription with the host behind its sinks. -/
structure NativeStream (ω V : Type) where
  subscription : NativeSubscription V
  host : HostProtocol ω (ReportBody V)

/-- The length of a text matters to the credit only, so one will do to run the model. -/
instance : Text (HostFrame (ReportBody Nat) InteractionError) where
  size _ := 64

/-- What the SDK, or the work item of a cancellation, calls. -/
inductive Callback (V : Type) where
  | reportBegin
  | reportEnd
  | data (decoded : Except InteractionError (PathResult V))
  | established (sdkSubscriptionId : Nat) (intervals : Option (Nat × Nat))
  | resubscriptionNeeded (nowMs : Nat)
  | error
  | recoveryDeadline
  | done
  | cancelWork

namespace NativeStream

variable {ω V : Type} [Text (HostFrame (ReportBody V) InteractionError)]
  (outputSink : ω → HostFrame (ReportBody V) InteractionError → Bool × ω)

/-- `Emit`: the first report the host refuses ends the batch and the subscription. -/
def emit (s : NativeStream ω V) (platform : Platform) :
    List (NativeReport V) → Bool × NativeStream ω V
  | [] => (true, s)
  | report :: reports =>
      let sent := s.host.emitReport outputSink report
      if sent.1 then emit { s with host := sent.2 } platform reports
      else (false, { subscription := s.subscription.scheduleCancel platform, host := sent.2 })

def failActive (s : NativeStream ω V) (platform : Platform) (error : InteractionError) :
    NativeStream ω V :=
  if s.subscription.failureEmitted then s
  else
    { subscription := (s.subscription.failed error).scheduleCancel platform
      host := if s.subscription.response.ok then
          s.host.emitFailure outputSink s.subscription.request.subscriptionId
            s.subscription.recovery.generation error
        else s.host }

/-- `owner_.EmitStatus`; without a sink nothing reaches the host. -/
def emitStatus (s : NativeStream ω V) (platform : Platform) (status : SubscriptionStatus) :
    Bool × NativeStream ω V :=
  if platform.statusSink then
    let sent := s.host.emitStatus outputSink status
    (sent.1, { s with host := sent.2 })
  else (false, s)

def withSubscription (s : NativeStream ω V) (subscription : NativeSubscription V) :
    NativeStream ω V :=
  { s with subscription }

def onReportEnd (s : NativeStream ω V) (platform : Platform) : NativeStream ω V :=
  let taken := s.subscription.buffer.endReport.takeReady
  ((s.withSubscription { s.subscription with buffer := taken.2 }).emit outputSink platform
    taken.1).2

def add (s : NativeStream ω V) (platform : Platform) (result : PathResult V) :
    NativeStream ω V :=
  let added := s.subscription.buffer.add result
  let next := s.withSubscription { s.subscription with buffer := added.2 }
  if added.1 then next
  else next.failActive outputSink platform { code := "invalid_subscription_report" }

/-- `Activate`, on the input thread. -/
def activate (s : NativeStream ω V) (platform : Platform) : Bool × NativeStream ω V :=
  if !s.subscription.response.ok ∨ s.subscription.done ∨ s.subscription.cancelled then (false, s)
  else
    let released := s.subscription.release
    (s.withSubscription released.2).emit outputSink platform released.1

/-- The recovery of an established subscription: the status comes before the reports. -/
def reestablished (s : NativeStream ω V) (platform : Platform)
    (sdkSubscriptionId minimum maximum : Nat) : NativeStream ω V :=
  let released := s.subscription.release
  let quiet := s.withSubscription { released.2 with recoveryTimerActive := false }
  let told := quiet.emitStatus outputSink platform
    (quiet.subscription.resubscribed sdkSubscriptionId minimum maximum)
  if told.1 then
    ((told.2.withSubscription { told.2.subscription with
      recovery := told.2.subscription.recovery.establishedAgain }).emit outputSink platform
        released.1).2
  else told.2.failActive outputSink platform { code := "subscription_unavailable" }

def onSubscriptionEstablished (s : NativeStream ω V) (platform : Platform)
    (sdkSubscriptionId : Nat) : Option (Nat × Nat) → NativeStream ω V
  | none =>
      if s.subscription.response.ok then
        s.failActive outputSink platform { code := "invalid_subscription_result" }
      else s.withSubscription
        ((s.subscription.publishFailure "invalid_subscription_result").scheduleCancel platform)
  | some (minimum, maximum) =>
      let established := s.subscription.buffer.establish sdkSubscriptionId minimum maximum
      let next := { s.subscription with buffer := established.2 }
      if s.subscription.recovery.recovering then
        if established.1 then
          (s.withSubscription next).reestablished outputSink platform sdkSubscriptionId minimum
            maximum
        else (s.withSubscription next).failActive outputSink platform
          { code := "invalid_subscription_result" }
      else if established.1 then
        s.withSubscription { next with
          response :=
            { ok := true
              generation := next.buffer.generation
              minIntervalS := minimum
              maxIntervalS := maximum
              sdkSubscriptionId }
          published := true }
      else s.withSubscription ({ next with
        response := { next.response with errorCode := "invalid_subscription_result" }
        published := true }.scheduleCancel platform)

def onResubscriptionNeeded (s : NativeStream ω V) (platform : Platform) (nowMs : Nat) :
    NativeStream ω V :=
  if !s.subscription.response.ok ∨ s.subscription.cancelled ∨ s.subscription.done then s
  else
    let (decision, prepared, next) := s.subscription.nextAttempt nowMs
    let attempt := s.withSubscription next
    if !prepared ∨ decision.action ≠ .retry then
      attempt.failActive outputSink platform { code := "session_lost" }
    else if decision.attempt = 1 ∧ !platform.timerStarts then
      attempt.failActive outputSink platform { code := "subscription_unavailable" }
    else
      let timed := attempt.withSubscription { next with recoveryTimerActive := true }
      let told := timed.emitStatus outputSink platform (next.resubscribing decision)
      if told.1 then told.2
      else told.2.failActive outputSink platform { code := "subscription_unavailable" }

def onDone (s : NativeStream ω V) (platform : Platform) : NativeStream ω V :=
  let quiet := s.withSubscription { s.subscription with recoveryTimerActive := false }
  let told := if quiet.subscription.response.ok ∧ !quiet.subscription.cancelled then
      quiet.failActive outputSink platform { code := "session_lost" }
    else quiet
  told.withSubscription told.subscription.markDone

def onRecoveryDeadline (s : NativeStream ω V) (platform : Platform) : NativeStream ω V :=
  (s.withSubscription { s.subscription with recoveryTimerActive := false }).failActive outputSink
    platform { code := "session_lost" }

def callback (s : NativeStream ω V) (platform : Platform) : Callback V → NativeStream ω V
  | .reportBegin => s.withSubscription { s.subscription with
      buffer := s.subscription.buffer.beginReport }
  | .reportEnd => s.onReportEnd outputSink platform
  | .data (.ok result) => s.add outputSink platform result
  | .data (.error error) => s.failActive outputSink platform error
  | .established sdkSubscriptionId intervals =>
      s.onSubscriptionEstablished outputSink platform sdkSubscriptionId intervals
  | .resubscriptionNeeded nowMs => s.onResubscriptionNeeded outputSink platform nowMs
  | .error => s.failActive outputSink platform { code := "session_lost" }
  | .recoveryDeadline => s.onRecoveryDeadline outputSink platform
  | .done => s.onDone outputSink platform
  | .cancelWork => s.withSubscription s.subscription.cancelOnSdkThread

end NativeStream

/-! ## What the parts leave alone -/

namespace NativeSubscription

variable {V : Type} (n : NativeSubscription V) (platform : Platform)

@[simp] theorem scheduleCancel_request : (n.scheduleCancel platform).request = n.request := by
  unfold scheduleCancel
  split <;> rfl

/-- What is buffered stays until the work item runs. -/
@[simp] theorem scheduleCancel_buffer : (n.scheduleCancel platform).buffer = n.buffer := by
  unfold scheduleCancel
  split <;> rfl

/-- The recovery is cancelled by the work item, not by scheduling it. -/
@[simp] theorem scheduleCancel_recovery : (n.scheduleCancel platform).recovery = n.recovery := by
  unfold scheduleCancel
  split <;> rfl

/-- The answer to `Subscribe` stands, also where the cancellation is given up. -/
@[simp] theorem scheduleCancel_response : (n.scheduleCancel platform).response = n.response := by
  unfold scheduleCancel
  split <;> rfl

/-- A subscription counts as cancelled only once the work item has run. -/
@[simp] theorem scheduleCancel_cancelled :
    (n.scheduleCancel platform).cancelled = n.cancelled := by
  unfold scheduleCancel
  split <;> rfl

@[simp] theorem scheduleCancel_failureEmitted :
    (n.scheduleCancel platform).failureEmitted = n.failureEmitted := by
  unfold scheduleCancel
  split <;> rfl

/-- A failure of the answer leaves the reports alone. -/
@[simp] theorem publishFailure_buffer (code : String) :
    (n.publishFailure code).buffer = n.buffer := by
  unfold publishFailure
  split <;> rfl

@[simp] theorem publishFailure_recovery (code : String) :
    (n.publishFailure code).recovery = n.recovery := by
  unfold publishFailure
  split <;> rfl

@[simp] theorem publishFailure_failureEmitted (code : String) :
    (n.publishFailure code).failureEmitted = n.failureEmitted := by
  unfold publishFailure
  split <;> rfl

@[simp] theorem publishFailure_request (code : String) :
    (n.publishFailure code).request = n.request := by
  unfold publishFailure
  split <;> rfl

/-- The code of a failure does not turn an established response into a failed one. -/
@[simp] theorem publishFailure_ok (code : String) :
    (n.publishFailure code).response.ok = n.response.ok := by
  unfold publishFailure
  split <;> rfl

@[simp] theorem failed_request (error : InteractionError) :
    (n.failed error).request = n.request := by
  unfold failed
  split <;> simp

/-- The buffer is cancelled whether the failure is published or goes out as a frame. -/
@[simp] theorem failed_buffer (error : InteractionError) :
    (n.failed error).buffer = n.buffer.cancel := by
  unfold failed
  split <;> simp

@[simp] theorem failed_recovery (error : InteractionError) :
    (n.failed error).recovery = n.recovery := by
  unfold failed
  split <;> simp

/-- The mark that keeps a second failure from being emitted. -/
@[simp] theorem failed_failureEmitted (error : InteractionError) :
    (n.failed error).failureEmitted = true := by
  unfold failed
  split <;> simp

/-- A failure of an established subscription leaves its response established. -/
@[simp] theorem failed_ok (error : InteractionError) :
    (n.failed error).response.ok = n.response.ok := by
  unfold failed
  split <;> simp

end NativeSubscription

namespace NativeStream

variable {ω V : Type} [Text (HostFrame (ReportBody V) InteractionError)]
  {outputSink : ω → HostFrame (ReportBody V) InteractionError → Bool × ω}
  (s : NativeStream ω V) (platform : Platform)

/-- A status is the host's business: the subscription does not change with it. -/
@[simp] theorem emitStatus_subscription (status : SubscriptionStatus) :
    (s.emitStatus outputSink platform status).2.subscription = s.subscription := by
  unfold emitStatus
  split <;> rfl

/-- A second failure does nothing, and the buffer is as the first one left it. -/
theorem failActive_buffer (error : InteractionError) :
    (s.failActive outputSink platform error).subscription.buffer =
      if s.subscription.failureEmitted then s.subscription.buffer
      else s.subscription.buffer.cancel := by
  unfold failActive
  split <;> simp

@[simp] theorem failActive_recovery (error : InteractionError) :
    (s.failActive outputSink platform error).subscription.recovery = s.subscription.recovery := by
  unfold failActive
  split <;> simp

/-- Whichever failure came first. -/
@[simp] theorem failActive_failureEmitted (error : InteractionError) :
    (s.failActive outputSink platform error).subscription.failureEmitted = true := by
  unfold failActive
  split
  · assumption
  · simp

@[simp] theorem failActive_request (error : InteractionError) :
    (s.failActive outputSink platform error).subscription.request = s.subscription.request := by
  unfold failActive
  split <;> simp

/-- Where the response was established the failure is a frame, and the response stays. -/
@[simp] theorem failActive_ok (error : InteractionError) :
    (s.failActive outputSink platform error).subscription.response.ok =
      s.subscription.response.ok := by
  unfold failActive
  split <;> simp

end NativeStream

end WotexMatter.Native
