/-
# WotexMatter.Session.Joint -- the two programs and the channels between them

The BEAM process and the host, each as its own model has it.  The frames on their way
to the BEAM are the state of the host's output writer: `WriteFrame` appends the
subscription events, `EnqueueReply` the answers, the BEAM takes the first.  The lines on
their way to the host are those the BEAM has written and the host has not read.

The input thread of the host is a stack.  A backend call waits with its operation on
top, and while it waits the control pump reads further lines: another data operation is
refused there, an `unsubscribe` is not.  Between the locked blocks of `unsubscribe` the
SDK thread may run, the pump does not.
-/
import WotexMatter.Session.CreditAgreement
import WotexMatter.Beam.Connection

set_option autoImplicit false
set_option linter.unusedSectionVars false

namespace WotexMatter.Session

open WotexMatter.Theory WotexMatter.Native WotexMatter.Beam

/-- Where an `unsubscribe` stands: it waits in `CancelSubscription`, is about to write its
barrier, or is about to erase the subscription. -/
inductive Stage where
  | cancelling
  | cancelled
  | retired
deriving DecidableEq, Repr

/-- An operation the input thread has begun and not answered. -/
inductive Operation where
  | request (id : String)
  | subscribe (id subscriptionId : String) (queueLimit : Nat) (resubscribe : Bool)
  | unsubscribe (id subscriptionId : String) (generation : Nat) (stage : Stage)
deriving DecidableEq, Repr

def Operation.id : Operation → String
  | .request id => id
  | .subscribe id _ _ _ => id
  | .unsubscribe id _ _ _ => id

/-- The operation waits for the backend, and the pump runs meanwhile. -/
def Operation.waits : Operation → Bool
  | .unsubscribe _ _ _ stage => decide (stage = .cancelling)
  | _ => true

/-- `SubscriptionResponse`; a failure has its code. -/
inductive SubscriptionResponse where
  | established (subscriptionId : String) (generation minIntervalS maxIntervalS : Nat)
      (sdkSubscriptionId : Nat)
  | failed (errorCode : String)
deriving DecidableEq, Repr

structure Joint (P : Type) where
  beam : Connection P
  host : HostProtocol (List (HostFrame P InteractionError)) P
  taken : Nat := 0
  operations : List Operation := []
  running : Bool := true

/-- What happens next.  `beam` is anything the process receives but a line of the host. -/
inductive Event (P : Type) where
  | beam (input : Connection.Input P InteractionError)
  | receive
  | report (report : SubscriptionReport P)
  | status (status : SubscriptionStatus)
  | failure (subscriptionId : String) (generation : Nat) (error : InteractionError)
  | take (health : Bool)
  | answered (errorCode : Option String)
  | subscribed (response : SubscriptionResponse)
  | cancelled (result : BackendResult)
  | proceed

namespace Joint

variable {P : Type}

def initial (session : String) : Joint P where
  beam := { generation := session }
  host := { flow := { sink := { writer := [] } }, sessionGeneration := session }

/-- The frames on their way to the BEAM. -/
def frames (s : Joint P) : List (HostFrame P InteractionError) := s.host.flow.sink.writer

/-- The lines on their way to the host. -/
def lines (s : Joint P) : List HostLine := s.beam.effects.written.drop s.taken

def withFrames (s : Joint P) (frames : List (HostFrame P InteractionError)) : Joint P :=
  { s with host := { s.host with
    flow := { s.host.flow with sink := { s.host.flow.sink with writer := frames } } } }

/-- `EnqueueReply`. -/
def reply (s : Joint P) (frame : HostFrame P InteractionError) : Joint P :=
  s.withFrames (s.frames ++ [frame])

/-- `running` of `RunHost` becomes false, and the protocol is closed. -/
def ended (s : Joint P) : Joint P := { s with host := s.host.close, running := false }

/-- What the dispatcher does with an outcome of `unsubscribe`. -/
def dispatch (s : Joint P) (proceeds : Joint P → Joint P) :
    HostProtocol.Unsubscribe P × HostProtocol (List (HostFrame P InteractionError)) P → Joint P
  | (.answer frame, host) => ({ s with host }).reply frame
  | (.proceed, host) => proceeds { s with host }
  | (.stop, host) => ({ s with host }).ended

section Steps

variable [Text (HostFrame P InteractionError)]

/-- The next line of the BEAM, read at the top or by the pump.  `health` tells the one
request that is answered at once. -/
def takeLine (s : Joint P) (health : Bool) : HostLine → Joint P
  | .reportAck session sequence bytes =>
      if session = s.host.sessionGeneration then
        let taken := s.host.reportAck deliver sequence bytes
        if taken.1 then { s with host := taken.2 } else ({ s with host := taken.2 }).ended
      else ({ s with host := s.host.failChannel.close }).ended
  | .unsubscribe id subscriptionId generation =>
      s.dispatch (fun s => { s with
          operations := .unsubscribe id subscriptionId generation .cancelling :: s.operations })
        (s.host.unsubscribeBegin id subscriptionId generation)
  | .subscribe id subscriptionId queueLimit resubscribe =>
      if s.operations.isEmpty then
        { s with operations := [.subscribe id subscriptionId queueLimit resubscribe] }
      else s.reply (.failure id "interaction_busy")
  | .request id =>
      if health then s.reply (.success id)
      else if s.operations.isEmpty then { s with operations := [.request id] }
      else s.reply (.failure id "interaction_busy")

/-- The subscription the backend established. -/
def admitStream (s : Joint P) (id subscriptionId : String) (queueLimit : Nat) (resubscribe : Bool) :
    SubscriptionResponse → Joint P
  | .failed code =>
      s.reply (.failure id (if code.isEmpty then "subscription_failed" else code))
  | .established named generation minimum maximum sdkId =>
      if named ≠ subscriptionId ∨ generation = 0 ∨ maximum = 0 ∨ maximum < minimum then
        s.reply (.failure id "invalid_backend_result")
      else
        let admitted := s.host.admitSubscription named generation queueLimit resubscribe
        if admitted.1 then
          ({ s with host := admitted.2 }).reply
            (.established id named generation minimum maximum sdkId)
        else ({ s with host := admitted.2 }).reply (.failure id "subscription_busy")

/-- The innermost operation is done, or goes on to its next block. -/
def resume (s : Joint P) : Operation → Event P → Joint P
  | .request id, .answered errorCode =>
      if !s.host.healthy then s.ended
      else
        match errorCode with
        | none => s.reply (.success id)
        | some code => s.reply (.failure id code)
  | .subscribe id subscriptionId queueLimit resubscribe, .subscribed response =>
      if !s.host.healthy then s.ended
      else s.admitStream id subscriptionId queueLimit resubscribe response
  | .unsubscribe id subscriptionId generation .cancelling, .cancelled result =>
      s.dispatch (fun s => { s with
          operations := .unsubscribe id subscriptionId generation .cancelled :: s.operations })
        (s.host.unsubscribeCancelled id subscriptionId generation result)
  | .unsubscribe id subscriptionId generation .cancelled, .proceed =>
      s.dispatch (fun s => { s with
          operations := .unsubscribe id subscriptionId generation .retired :: s.operations })
        (s.host.unsubscribeRetire deliver subscriptionId generation)
  | .unsubscribe id subscriptionId _ .retired, .proceed =>
      s.dispatch (fun s => s) (s.host.unsubscribeFinish id subscriptionId)
  | operation, _ => { s with operations := operation :: s.operations }

/-- An event of the host's input thread. -/
def host? (s : Joint P) (event : Event P) : Joint P :=
  match s.operations with
  | [] => s
  | operation :: rest =>
      if s.running then ({ s with operations := rest }).resume operation event else s

def step (world : World) (wireError : InteractionError → Option String) (s : Joint P) :
    Event P → Joint P
  | .beam input =>
      match input with
      | .line .. => s
      | _ => { s with beam := s.beam.step world wireError input }
  | .receive =>
      match s.frames with
      | [] => s
      | frame :: rest =>
          let line := Connection.Input.line (Text.size frame + 1) (some frame)
          ({ s with beam := s.beam.step world wireError line }).withFrames rest
  | .report report => { s with host := (s.host.emitReport deliver report).2 }
  | .status status => { s with host := (s.host.emitStatus deliver status).2 }
  | .failure subscriptionId generation error =>
      { s with host := s.host.emitFailure deliver subscriptionId generation error }
  | .take health =>
      match s.lines with
      | [] => s
      | line :: _ =>
          if s.running && (s.operations.head?.all Operation.waits) then
            let read := { s with taken := s.taken + 1 }
            if s.host.healthy then read.takeLine health line else read.ended
          else s
  | .answered errorCode => s.host? (.answered errorCode)
  | .subscribed response => s.host? (.subscribed response)
  | .cancelled result => s.host? (.cancelled result)
  | .proceed => s.host? .proceed

def run (world : World) (wireError : InteractionError → Option String) (s : Joint P)
    (events : List (Event P)) : Joint P :=
  events.foldl (step world wireError) s

end Steps

end Joint

end WotexMatter.Session
