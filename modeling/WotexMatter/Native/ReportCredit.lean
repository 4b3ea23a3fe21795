/-
# WotexMatter.Native.ReportCredit -- the host's report credit account

`ReportCreditManager` (`native/src/subscription.cpp`) hands out the credit under
which the host may write subscription reports to the Port.  It keeps a table of
streams keyed by `subscription_id ":" generation`, the frames written and not yet
acknowledged (`outstanding_`), and the frames waiting for credit (`queued_`).

The text of a frame is any type with a size: the account reads nothing else of a
`std::string`.  An encoder is a function of the report sequence, so it is pure by
construction.  `transmit_` is a function on the state of whatever it writes to;
that state lives in `sink`, which makes the channel, the output backlog or a bare
trace instances of one model.

Two fields have no counterpart in the source and are read by no operation:
`events` is the history of what the account did, and `wrapped` records whether
some `size_t` subtraction was ever asked for more than it had.
-/
import Mathlib.Algebra.GroupWithZero.Nat
import WotexMatter.Theory.Table
import Std.Data.String.ToNat

set_option autoImplicit false

namespace WotexMatter.Native

open WotexMatter.Theory

/-- The text of an encoded frame; only `size()` is read. -/
class Text (T : Type) where
  size : T → Nat

instance : Text String := ⟨String.utf8ByteSize⟩

def kSessionReportCredit : Nat := 64
def kSessionByteCredit : Nat := 1048576
def kStreamReportCredit : Nat := 16
def kMaximumQueuedReports : Nat := 64
def kMaximumQueuedBytes : Nat := 1048576

/-- `std::numeric_limits<std::uint64_t>::max()`. -/
def maxU64 : Nat := 18446744073709551615

/-- `size_t` subtraction. -/
def subSize (a b : Nat) : Nat := (a + 2 ^ 64 - b) % 2 ^ 64

theorem subSize_of_le {a b : Nat} (bound : a < 2 ^ 64) (le : b ≤ a) : subSize a b = a - b := by
  unfold subSize
  have : a + 2 ^ 64 - b = (a - b) + 2 ^ 64 := by omega
  rw [this, Nat.add_mod_right, Nat.mod_eq_of_lt (by omega)]

structure Stream where
  generation : Nat
  queueLimit : Nat
  outstanding : Nat := 0
  queued : Nat := 0
  lastTransmitted : Nat := 0
  live : Bool := true
deriving DecidableEq, Repr

structure Frame (T : Type) where
  subscriptionId : String
  generation : Nat
  sequence : Nat
  encoded : T
  encode : Nat → T
  cumulativeBytes : Nat

inductive SubmitResult where
  | transmitted
  | queued
  | streamOverflow
  | invalid
deriving DecidableEq, Repr

/-- What the account did, in order.  A discard names the stream whose retirement
caused it; a skip is a frame that `Drain` dropped because its stream was gone. -/
inductive FlowEvent (T : Type) where
  | added (subscriptionId : String) (generation : Nat)
  | accepted (subscriptionId : String) (generation : Nat) (encode : Nat → T)
  | wrote (text : T)
  | discarded (subscriptionId : String) (generation : Nat) (frame : Frame T)
  | skipped (frame : Frame T)

structure ReportCreditManager (σ T : Type) where
  streams : Table String Stream := ∅
  queued : List (Frame T) := []
  outstanding : List (Frame T) := []
  nextSequence : Nat := 1
  cumulativeTransmittedBytes : Nat := 0
  acknowledgedSequence : Nat := 0
  acknowledgedBytes : Nat := 0
  queuedBytes : Nat := 0
  outstandingBytes : Nat := 0
  sink : σ
  events : List (FlowEvent T) := []
  wrapped : Bool := false

/-- `Key`: the stream table is indexed by text, not by the pair. -/
def key (subscriptionId : String) (generation : Nat) : String :=
  subscriptionId ++ ":" ++ Nat.repr generation

def Frame.key {T : Type} (frame : Frame T) : String :=
  Native.key frame.subscriptionId frame.generation

/-- `next_report_byte_count`. -/
def nextReportByteCount (current encodedBytes : Nat) : Option Nat :=
  if encodedBytes > maxU64 - current then none else some (current + encodedBytes)

namespace ReportCreditManager

variable {σ T : Type}

structure CreditSnapshot where
  queued : Nat
  frameCredit : Nat
  byteCredit : Nat
  queuedBytes : Nat

def snapshot (s : ReportCreditManager σ T) : CreditSnapshot where
  queued := s.queued.length
  frameCredit := subSize kSessionReportCredit s.outstanding.length
  byteCredit := subSize kSessionByteCredit s.outstandingBytes
  queuedBytes := s.queuedBytes

def stream? (s : ReportCreditManager σ T) (subscriptionId : String) (generation : Nat) :
    Option Stream :=
  s.streams.lookup (key subscriptionId generation)

def isLive (s : ReportCreditManager σ T) (subscriptionId : String) (generation : Nat) : Bool :=
  (s.stream? subscriptionId generation).any fun stream => stream.live

def isRetired (s : ReportCreditManager σ T) (subscriptionId : String) (generation : Nat) : Bool :=
  (s.stream? subscriptionId generation).any fun stream => !stream.live

def lastTransmitted (s : ReportCreditManager σ T) (subscriptionId : String)
    (generation : Nat) : Nat :=
  (s.stream? subscriptionId generation).elim 0 fun stream => stream.lastTransmitted

def liveStreams (s : ReportCreditManager σ T) : Nat :=
  Table.count (fun stream => stream.live) s.streams

/-- The state after `streams_.emplace`. -/
@[simps streams queued outstanding nextSequence cumulativeTransmittedBytes acknowledgedSequence
  acknowledgedBytes queuedBytes outstandingBytes sink events wrapped]
def added (s : ReportCreditManager σ T) (subscriptionId : String)
    (generation queueLimit : Nat) : ReportCreditManager σ T :=
  { s with
    streams := s.streams.insert (key subscriptionId generation) { generation, queueLimit }
    events := s.events ++ [.added subscriptionId generation] }

def addStream (s : ReportCreditManager σ T) (subscriptionId : String)
    (generation queueLimit : Nat) : Bool × ReportCreditManager σ T :=
  if subscriptionId.isEmpty ∨ generation = 0 ∨ queueLimit = 0 ∨ queueLimit > 10000 ∨
      s.liveStreams ≥ 64 ∨ Table.size s.streams ≥ 128 ∨
      (s.stream? subscriptionId generation).isSome then
    (false, s)
  else (true, s.added subscriptionId generation queueLimit)

def canTransmit (s : ReportCreditManager σ T) (stream : Stream) (bytes : Nat) : Bool :=
  s.outstanding.length < kSessionReportCredit &&
    s.outstandingBytes ≤ kSessionByteCredit &&
    bytes ≤ kSessionByteCredit - s.outstandingBytes &&
    stream.outstanding < min kStreamReportCredit stream.queueLimit

section Transmission

variable [Text T] (transmit : σ → T → Bool × σ)

/-- The state after `transmit_` accepted the frame's final text. -/
@[simps streams queued outstanding nextSequence cumulativeTransmittedBytes acknowledgedSequence
  acknowledgedBytes queuedBytes outstandingBytes sink events wrapped]
def transmitted (s : ReportCreditManager σ T) (stream : Stream) (frame : Frame T)
    (cumulative : Nat) (sink : σ) : ReportCreditManager σ T :=
  { s with
    streams := s.streams.insert frame.key
      { stream with
        outstanding := stream.outstanding + 1
        lastTransmitted := s.nextSequence }
    outstanding := s.outstanding ++
      [{ frame with
          sequence := s.nextSequence
          encoded := frame.encode s.nextSequence
          cumulativeBytes := cumulative }]
    nextSequence := s.nextSequence + 1
    cumulativeTransmittedBytes := cumulative
    outstandingBytes := s.outstandingBytes + (Text.size (frame.encode s.nextSequence) + 1)
    sink
    events := s.events ++ [.wrote (frame.encode s.nextSequence)] }

/-- The sequence number and the final text are fixed here, not at submission. -/
def transmitFrame (s : ReportCreditManager σ T) (frame : Frame T) :
    Bool × ReportCreditManager σ T :=
  match s.streams.lookup frame.key with
  | none => (false, s)
  | some stream =>
      let encoded := frame.encode s.nextSequence
      if !stream.live ∨ s.nextSequence = maxU64 then (false, s)
      else if Text.size encoded = 0 ∨ Text.size encoded ≥ kSessionByteCredit then (false, s)
      else
        match nextReportByteCount s.cumulativeTransmittedBytes (Text.size encoded + 1) with
        | none => (false, s)
        | some cumulative =>
            let sent := transmit s.sink encoded
            if sent.1 then (true, s.transmitted stream frame cumulative sent.2)
            else (false, { s with sink := sent.2 })

/-- The state after the frame entered the queue with its reservation. -/
@[simps streams queued outstanding nextSequence cumulativeTransmittedBytes acknowledgedSequence
  acknowledgedBytes queuedBytes outstandingBytes sink events wrapped]
def enqueued (s : ReportCreditManager σ T) (stream : Stream) (frame : Frame T) :
    ReportCreditManager σ T :=
  { s with
    queuedBytes := s.queuedBytes + (Text.size frame.encoded + 1)
    streams := s.streams.insert frame.key { stream with queued := stream.queued + 1 }
    queued := s.queued ++ [frame]
    events := s.events ++ [.accepted frame.subscriptionId frame.generation frame.encode] }

/-- A frame is admitted to the queue by its size at the largest sequence number. -/
def submit (s : ReportCreditManager σ T) (subscriptionId : String) (generation : Nat)
    (encode : Nat → T) : SubmitResult × ReportCreditManager σ T :=
  match s.stream? subscriptionId generation with
  | none => (.invalid, s)
  | some stream =>
      let encoded := encode s.nextSequence
      let bytes := Text.size encoded + 1
      if !stream.live ∨ s.nextSequence = maxU64 then (.invalid, s)
      else if Text.size encoded = 0 ∨ bytes > kSessionByteCredit then (.streamOverflow, s)
      else
        let frame : Frame T :=
          { subscriptionId, generation, sequence := s.nextSequence, encoded, encode,
            cumulativeBytes := 0 }
        if s.canTransmit stream bytes ∧ s.queued.isEmpty then
          let sent := s.transmitFrame transmit frame
          if sent.1 then
            (.transmitted, { sent.2 with
              events := sent.2.events ++ [.accepted subscriptionId generation encode] })
          else (.invalid, sent.2)
        else
          let waiting : Frame T := { frame with sequence := 0, encoded := encode maxU64 }
          let queuedBytes := Text.size waiting.encoded + 1
          if s.queued.length ≥ kMaximumQueuedReports ∨ s.queuedBytes > kMaximumQueuedBytes ∨
              queuedBytes > kMaximumQueuedBytes - s.queuedBytes ∨
              stream.queued ≥ stream.queueLimit then
            (.streamOverflow, s)
          else (.queued, s.enqueued stream waiting)

/-- The queue's head leaves it, with its reservation. -/
@[simps streams queued outstanding nextSequence cumulativeTransmittedBytes acknowledgedSequence
  acknowledgedBytes queuedBytes outstandingBytes sink events wrapped]
def dequeue (s : ReportCreditManager σ T) (stream : Stream) (pending : Frame T)
    (rest : List (Frame T)) : ReportCreditManager σ T :=
  { s with
    queuedBytes := subSize s.queuedBytes (Text.size pending.encoded + 1)
    streams := s.streams.insert pending.key { stream with queued := subSize stream.queued 1 }
    queued := rest
    wrapped := s.wrapped || decide (s.queuedBytes < Text.size pending.encoded + 1) ||
      decide (stream.queued < 1) }

def drainLoop : List (Frame T) → ReportCreditManager σ T → Bool × ReportCreditManager σ T
  | [], s => (true, s)
  | pending :: rest, s =>
      match (s.streams.lookup pending.key).filter (fun stream => stream.live) with
      | none =>
          let bytes := Text.size pending.encoded + 1
          drainLoop rest { s with
            queuedBytes := subSize s.queuedBytes bytes
            queued := rest
            events := s.events ++ [.skipped pending]
            wrapped := s.wrapped || decide (s.queuedBytes < bytes) }
      | some stream =>
          if s.canTransmit stream (Text.size (pending.encode s.nextSequence) + 1) then
            let sent := (s.dequeue stream pending rest).transmitFrame transmit pending
            if sent.1 then drainLoop rest sent.2 else (false, sent.2)
          else (true, s)

def drain (s : ReportCreditManager σ T) : Bool × ReportCreditManager σ T :=
  drainLoop transmit s.queued s

/-- One pass of the loop in `Acknowledge`: the oldest outstanding frame is released. -/
def releaseFrame (s : ReportCreditManager σ T) (frame : Frame T) (rest : List (Frame T)) :
    ReportCreditManager σ T :=
  let bytes := Text.size frame.encoded + 1
  let s' := { s with
    outstanding := rest
    outstandingBytes := subSize s.outstandingBytes bytes
    wrapped := s.wrapped || decide (s.outstandingBytes < bytes) }
  match s.streams.lookup frame.key with
  | none => s'
  | some stream =>
      if stream.outstanding > 0 then
        let released := { stream with outstanding := stream.outstanding - 1 }
        if !released.live ∧ released.outstanding = 0 ∧ released.queued = 0 then
          { s' with streams := s.streams.erase frame.key }
        else { s' with streams := s.streams.insert frame.key released }
      else s'

def acknowledgeLoop (reportSequence : Nat) :
    List (Frame T) → ReportCreditManager σ T → ReportCreditManager σ T
  | [], s => s
  | frame :: rest, s =>
      if frame.sequence ≤ reportSequence then
        acknowledgeLoop reportSequence rest (s.releaseFrame frame rest)
      else s

/-- The state in which `Acknowledge` calls `Drain`. -/
def acknowledged (s : ReportCreditManager σ T) (reportSequence acknowledgedBytes : Nat) :
    ReportCreditManager σ T :=
  { acknowledgeLoop reportSequence s.outstanding s with
    acknowledgedSequence := reportSequence
    acknowledgedBytes }

def acknowledge (s : ReportCreditManager σ T) (reportSequence acknowledgedBytes : Nat) :
    Bool × ReportCreditManager σ T :=
  if reportSequence ≤ s.acknowledgedSequence ∨ s.outstanding.isEmpty then (false, s)
  else
    match s.outstanding.find? (fun frame => frame.sequence == reportSequence) with
    | none => (false, s)
    | some target =>
        if target.cumulativeBytes ≠ acknowledgedBytes then (false, s)
        else drain transmit (s.acknowledged reportSequence acknowledgedBytes)

/-- The loop of `Retire`: the retired stream's frames leave the queue, the others
keep their order.  `s.queued` holds the frames kept so far. -/
def discardLoop (subscriptionId : String) (generation : Nat) :
    List (Frame T) → ReportCreditManager σ T → ReportCreditManager σ T
  | [], s => s
  | frame :: rest, s =>
      if frame.subscriptionId = subscriptionId ∧ frame.generation = generation then
        let bytes := Text.size frame.encoded + 1
        let stream := (s.stream? subscriptionId generation).getD { generation, queueLimit := 0 }
        discardLoop subscriptionId generation rest { s with
          queuedBytes := subSize s.queuedBytes bytes
          streams := s.streams.insert (key subscriptionId generation)
            { stream with queued := subSize stream.queued 1 }
          events := s.events ++ [.discarded subscriptionId generation frame]
          wrapped := s.wrapped || decide (s.queuedBytes < bytes) || decide (stream.queued < 1) }
      else
        discardLoop subscriptionId generation rest { s with queued := s.queued ++ [frame] }

/-- The stream is marked dead and its queued frames are gone; the barrier is next. -/
def retiring (s : ReportCreditManager σ T) (subscriptionId : String) (generation : Nat)
    (stream : Stream) : ReportCreditManager σ T :=
  discardLoop subscriptionId generation s.queued
    { s with
      streams := s.streams.insert (key subscriptionId generation) { stream with live := false }
      queued := [] }

/-- The barrier has been written; a stream with nothing outstanding is forgotten. -/
def retired (s : ReportCreditManager σ T) (subscriptionId : String) (generation : Nat)
    (stream : Stream) (barrier : T) (sink : σ) : ReportCreditManager σ T :=
  let marked := s.retiring subscriptionId generation stream
  let written : ReportCreditManager σ T :=
    { marked with sink, events := marked.events ++ [.wrote barrier] }
  match written.stream? subscriptionId generation with
  | none => written
  | some left =>
      if left.outstanding = 0 then
        { written with streams := written.streams.erase (key subscriptionId generation) }
      else written

def retire (s : ReportCreditManager σ T) (subscriptionId : String) (generation : Nat)
    (barrier : T) : Bool × ReportCreditManager σ T :=
  match (s.stream? subscriptionId generation).filter (fun stream => stream.live) with
  | none => (false, s)
  | some stream =>
      let marked := s.retiring subscriptionId generation stream
      let sent := transmit marked.sink barrier
      if sent.1 then
        drain transmit (s.retired subscriptionId generation stream barrier sent.2)
      else (false, { marked with sink := sent.2 })

def beginRecovery (s : ReportCreditManager σ T) (subscriptionId : String)
    (previousGeneration nextGeneration queueLimit : Nat) (barrier : T) :
    Bool × ReportCreditManager σ T :=
  if nextGeneration = 0 ∨ previousGeneration = nextGeneration ∨
      (s.stream? subscriptionId nextGeneration).isSome then
    (false, s)
  else
    let previous := s.retire transmit subscriptionId previousGeneration barrier
    if previous.1 then previous.2.addStream subscriptionId nextGeneration queueLimit
    else (false, previous.2)

end Transmission

end ReportCreditManager

/-! ## The stream key -/

/-- A decimal generation holds no colon. -/
theorem colon_notMem_repr (generation : Nat) : ':' ∉ (Nat.repr generation).toList := by
  rw [Nat.toList_repr]
  intro member
  have := Nat.isDigit_of_mem_toDigits (by decide) (by decide) member
  exact absurd this (by decide)

/-- Two lists with one separator each at the end of a separator-free suffix agree
part by part. -/
theorem append_cons_inj_of_notMem {α : Type} {sep : α} :
    ∀ {left left' right right' : List α}, sep ∉ right → sep ∉ right' →
      left ++ sep :: right = left' ++ sep :: right' → left = left' ∧ right = right'
  | [], [], _, _, _, _, same => ⟨rfl, (List.cons.inj same).2⟩
  | [], x :: left', right, right', free, _, same => by
      have : right = left' ++ sep :: right' := (List.cons.inj same).2
      exact absurd (by rw [this]; simp) free
  | x :: left, [], right, right', _, free', same => by
      have : left ++ sep :: right = right' := (List.cons.inj same).2
      exact absurd (by rw [← this]; simp) free'
  | x :: left, y :: left', right, right', free, free', same => by
      obtain ⟨rfl, tail⟩ := List.cons.inj same
      obtain ⟨rfl, rfl⟩ := append_cons_inj_of_notMem free free' tail
      exact ⟨rfl, rfl⟩

/-- Distinct pairs have distinct keys, whatever text the identifier holds. -/
theorem key_inj {id id' : String} {generation generation' : Nat} :
    key id generation = key id' generation' ↔ id = id' ∧ generation = generation' := by
  constructor
  · intro same
    have chars : id.toList ++ ':' :: (Nat.repr generation).toList =
        id'.toList ++ ':' :: (Nat.repr generation').toList := by
      have := congrArg String.toList same
      simpa [key, String.toList_append] using this
    obtain ⟨ids, generations⟩ := append_cons_inj_of_notMem
      (colon_notMem_repr generation) (colon_notMem_repr generation') chars
    exact ⟨String.toList_injective ids, Nat.repr_injective (String.toList_injective generations)⟩
  · rintro ⟨rfl, rfl⟩
    rfl

end WotexMatter.Native
