/-
# WotexMatter.Native.ReportCreditRuns -- the credit account over whole runs

A run is a list of calls with any arguments.  Two results hold in every state a run
reaches while `transmit_` accepts what it is given:

* `run_representation`: the books balance, no counter ever wrapped, and `Drain`
  never met a frame of a dead stream;
* `run_unblocked`: a waiting report waits for credit that an acknowledgement can
  return, and acknowledging what is outstanding empties the queue.

The second needs sequence numbers and byte counts to be left; `Exhausted` and
`RoomFor` say so of one state, not of the run.  `run_unblocked_exhausted` is a run
that spends them: at the end of the byte counter a report does stay behind.
-/
import WotexMatter.Native.ReportCreditCalls

set_option autoImplicit false

namespace WotexMatter.Native.ReportCreditManager

open WotexMatter.Theory

variable {σ T : Type} [Text T]

/-- The public mutating interface of the account. -/
inductive Call (T : Type) where
  | addStream (subscriptionId : String) (generation queueLimit : Nat)
  | beginRecovery (subscriptionId : String) (previousGeneration nextGeneration queueLimit : Nat)
      (barrier : T)
  | submit (subscriptionId : String) (generation : Nat) (encode : Nat → T)
  | acknowledge (reportSequence acknowledgedBytes : Nat)
  | retire (subscriptionId : String) (generation : Nat) (barrier : T)

def call (transmit : σ → T → Bool × σ) (s : ReportCreditManager σ T) :
    Call T → ReportCreditManager σ T
  | .addStream subscriptionId generation queueLimit =>
      (s.addStream subscriptionId generation queueLimit).2
  | .beginRecovery subscriptionId previousGeneration nextGeneration queueLimit barrier =>
      (s.beginRecovery transmit subscriptionId previousGeneration nextGeneration queueLimit
        barrier).2
  | .submit subscriptionId generation encode =>
      (s.submit transmit subscriptionId generation encode).2
  | .acknowledge reportSequence acknowledgedBytes =>
      (s.acknowledge transmit reportSequence acknowledgedBytes).2
  | .retire subscriptionId generation barrier =>
      (s.retire transmit subscriptionId generation barrier).2

def run (transmit : σ → T → Bool × σ) (s : ReportCreditManager σ T) (calls : List (Call T)) :
    ReportCreditManager σ T :=
  calls.foldl (call transmit) s

/-- `transmit_` accepts every text. -/
def Accepting (transmit : σ → T → Bool × σ) : Prop := ∀ sink text, (transmit sink text).1 = true

variable {transmit : σ → T → Bool × σ} {s : ReportCreditManager σ T}

/-- The reports a call submits are encoded as `okEncode` asks. -/
def Call.Encodes (okEncode : String → Nat → (Nat → T) → Prop) : Call T → Prop
  | .submit subscriptionId generation encode => okEncode subscriptionId generation encode
  | _ => True

/-- An invariant that survives a failed call as well holds after every call. -/
theorem call_keeps {okEncode : String → Nat → (Nat → T) → Prop} {I : ReportCreditManager σ T → Prop}
    (keeps : Keeps transmit okEncode (fun _ _ _ _ => True) I (fun s => Accounted s ∧ I s))
    (books : Accounted s) (inv : I s) (c : Call T) (encodes : c.Encodes okEncode) :
    Accounted (s.call transmit c) ∧ I (s.call transmit c) := by
  have both : ∀ {result : Bool × ReportCreditManager σ T} {I' : ReportCreditManager σ T → Prop},
      (∀ s', I' s' → I s') → Outcome I' (fun s => Accounted s ∧ I s) result →
        Accounted result.2 ∧ I result.2 := by
    intro result I' implies outcome
    unfold Outcome at outcome
    split at outcome
    · exact ⟨outcome.1, implies _ outcome.2⟩
    · exact outcome
  cases c with
  | addStream subscriptionId generation queueLimit =>
      exact both (fun _ => id) (addStream_keeps keeps books inv _ _ _)
  | beginRecovery subscriptionId previousGeneration nextGeneration queueLimit barrier =>
      exact both (fun _ => id) (beginRecovery_keeps keeps books inv trivial _ _)
  | submit subscriptionId generation encode =>
      exact both (fun _ => id) (submit_keeps keeps books inv encodes)
  | acknowledge reportSequence acknowledgedBytes =>
      exact both (fun _ => And.left) (acknowledge_keeps keeps books inv _ _)
  | retire subscriptionId generation barrier =>
      exact both (fun _ => And.left) (retire_keeps keeps books inv trivial)

theorem run_keeps {okEncode : String → Nat → (Nat → T) → Prop} {I : ReportCreditManager σ T → Prop}
    (keeps : Keeps transmit okEncode (fun _ _ _ _ => True) I (fun s => Accounted s ∧ I s))
    (calls : List (Call T)) (encodes : ∀ c ∈ calls, c.Encodes okEncode)
    {s : ReportCreditManager σ T} (books : Accounted s) (inv : I s) :
    Accounted (s.run transmit calls) ∧ I (s.run transmit calls) := by
  induction calls generalizing s with
  | nil => exact ⟨books, inv⟩
  | cons c calls ih =>
      obtain ⟨books', inv'⟩ := call_keeps keeps books inv c (encodes c (by simp))
      exact ih (fun c' member => encodes c' (by simp [member])) books' inv'

/-! ## The representation invariant -/

/-- The books of the account, counter by counter. -/
structure Representation (s : ReportCreditManager σ T) : Prop where
  sequences : s.outstanding.map Frame.sequence =
    List.range' (s.acknowledgedSequence + 1) (s.nextSequence - 1 - s.acknowledgedSequence)
  next : s.acknowledgedSequence < s.nextSequence
  outstandingBytes_eq : s.outstandingBytes =
    (s.outstanding.map fun frame => Text.size frame.encoded + 1).sum
  outstandingBytes_le : s.outstandingBytes ≤ 1048576
  outstanding_le : s.outstanding.length ≤ 64
  queuedBytes_eq : s.queuedBytes = (s.queued.map fun frame => Text.size frame.encoded + 1).sum
  queuedBytes_le : s.queuedBytes ≤ 1048576
  queued_le : s.queued.length ≤ 64
  stream_outstanding : ∀ k stream, s.streams.lookup k = some stream →
    stream.outstanding = s.outstanding.countP (fun frame => frame.key == k) ∧
      stream.outstanding ≤ min 16 stream.queueLimit
  stream_queued : ∀ k stream, s.streams.lookup k = some stream →
    stream.queued = s.queued.countP (fun frame => frame.key == k)
  queued_live : ∀ frame ∈ s.queued, s.isLive frame.subscriptionId frame.generation = true
  outstanding_known : ∀ frame ∈ s.outstanding,
    (s.stream? frame.subscriptionId frame.generation).isSome = true
  dead : ∀ k stream, s.streams.lookup k = some stream → stream.live = false →
    0 < stream.outstanding ∧ stream.queued = 0
  live_le : s.liveStreams ≤ 64
  streams_le : Table.size s.streams ≤ 128
  neverSkipped : ∀ frame, FlowEvent.skipped frame ∉ s.events
  neverWrapped : s.wrapped = false
  snapshot_exact : s.snapshot.frameCredit + s.outstanding.length = 64 ∧
    s.snapshot.byteCredit + s.outstandingBytes = 1048576

/-- No frame of a dead stream was dropped. -/
def NeverSkipped (s : ReportCreditManager σ T) : Prop :=
  ∀ frame, FlowEvent.skipped frame ∉ s.events

omit [Text T] in
theorem snapshot_of_le (frames : s.outstanding.length ≤ kSessionReportCredit)
    (bytes : s.outstandingBytes ≤ kSessionByteCredit) :
    s.snapshot.frameCredit + s.outstanding.length = 64 ∧
      s.snapshot.byteCredit + s.outstandingBytes = 1048576 := by
  unfold snapshot
  dsimp only
  rw [subSize_of_le (by unfold kSessionReportCredit; omega) frames,
    subSize_of_le (by unfold kSessionByteCredit; omega) bytes]
  unfold kSessionReportCredit kSessionByteCredit at *
  omega

theorem representation_of_accounted (books : Accounted s) (never : NeverSkipped s) :
    Representation s := by
  have numbered := books.numbered
  have next := numbered.next
  have count : s.nextSequence - 1 - s.acknowledgedSequence = s.outstanding.length := by omega
  exact
    { sequences := by rw [count]; exact numbered.consecutive
      next := by omega
      outstandingBytes_eq := numbered.bytes_eq
      outstandingBytes_le := numbered.bytes_le
      outstanding_le := numbered.frames_le
      queuedBytes_eq := books.reserved.bytes_eq
      queuedBytes_le := books.reserved.bytes_le
      queued_le := books.reserved.frames_le
      stream_outstanding := fun k stream found =>
        ⟨(books.tabled.stream_ok found).outstanding_eq,
          (books.tabled.stream_ok found).outstanding_le⟩
      stream_queued := fun k stream found => (books.tabled.stream_ok found).queued_eq
      queued_live := by
        intro frame member
        obtain ⟨stream, found, live⟩ := books.tabled.queued_live frame member
        unfold isLive stream?
        rw [Frame.key] at found
        rw [found, Option.any_some, live]
      outstanding_known := by
        intro frame member
        obtain ⟨stream, found⟩ := books.tabled.outstanding_known frame member
        unfold stream?
        rw [Frame.key] at found
        rw [found, Option.isSome_some]
      dead := fun k stream found => (books.tabled.stream_ok found).dead
      live_le := books.tabled.live_le
      streams_le := books.tabled.size_le
      neverSkipped := never
      neverWrapped := books.unwrapped
      snapshot_exact := snapshot_of_le numbered.frames_le numbered.bytes_le }

theorem neverSkipped_keeps (accepting : Accepting transmit) :
    Keeps transmit (fun _ _ _ => True) (fun _ _ _ _ => True) NeverSkipped
      (fun s => Accounted s ∧ NeverSkipped s) where
  forwarded := by
    intro s stream pending rest cumulative sink _ never _ _ _ frame member
    simp only [forwarded_events, List.mem_append, List.mem_singleton] at member
    rcases member with before | impossible
    · exact never frame before
    · cases impossible
  lost := by
    intro s stream pending rest sink books never forwards refuses
    refine ⟨?_, never⟩
    have balanced := dequeue_accounted books forwards.head forwards.found forwards.live
    exact ⟨balanced.numbered, balanced.reserved, balanced.tabled, balanced.unwrapped⟩
  added := by
    intro s subscriptionId generation queueLimit _ never _ frame member
    simp only [added_events, List.mem_append, List.mem_singleton] at member
    rcases member with before | impossible
    · exact never frame before
    · cases impossible
  sent := by
    intro s stream subscriptionId generation encode cumulative sink _ never _ _ _ _ _ _ frame member
    simp only [sent_events, transmitted_events, List.mem_append, List.mem_singleton] at member
    rcases member with (before | impossible) | impossible
    · exact never frame before
    · cases impossible
    · cases impossible
  enqueued := by
    intro s stream subscriptionId generation encode _ never _ _ _ _ frame member
    simp only [enqueued_events, List.mem_append, List.mem_singleton] at member
    rcases member with before | impossible
    · exact never frame before
    · cases impossible
  retired := by
    intro s subscriptionId generation stream barrier sink books never _ found _ _ frame member
    rw [retired_eq books found] at member
    simp only [List.mem_append, List.mem_map, List.mem_singleton] at member
    rcases member with (before | ⟨other, -, impossible⟩) | impossible
    · exact never frame before
    · cases impossible
    · cases impossible
  released := fun _ never _ _ => never
  weaken := fun books never => ⟨books, never⟩
  refused := by
    intro s text sink _ _ refused
    exact absurd (accepting s.sink text) (by rw [refused]; simp)
  unbarred := by
    intro s subscriptionId generation stream barrier sink _ _ _ _ _ refused
    exact absurd (accepting s.sink barrier) (by rw [refused]; simp)

/-- **The representation invariant** of the account, in every state of every run whose
texts are all accepted.  Neither empty texts nor exhausted counters disturb it. -/
theorem run_representation (accepting : Accepting transmit) (sink : σ) (calls : List (Call T)) :
    Representation (run transmit { sink } calls) := by
  obtain ⟨books, never⟩ := run_keeps (neverSkipped_keeps accepting) calls
    (fun c _ => by cases c <;> trivial) (accounted_initial sink)
    (fun frame member => by cases member)
  exact representation_of_accounted books never

/-- Texts are recorded in order. -/
def record (sink : List String) (text : String) : Bool × List String := (true, sink ++ [text])

/-- One credit, two reports: the second waits until the first is acknowledged. -/
theorem run_representation_queued :
    Accepting record ∧
      (run record { sink := [] } [.addStream "a" 1 1, .submit "a" 1 (fun n => Nat.repr n),
        .submit "a" 1 (fun n => Nat.repr n)]).queued.length = 1 ∧
      Representation (run record { sink := [] } [.addStream "a" 1 1,
        .submit "a" 1 (fun n => Nat.repr n), .submit "a" 1 (fun n => Nat.repr n)]) :=
  ⟨fun _ _ => rfl, by decide, run_representation (fun _ _ => rfl) _ _⟩

/-! ## No report is stranded -/

/-- A report's text is never empty and never longer than at the largest sequence
number, at which the queue measured it. -/
structure Measured (encode : Nat → T) : Prop where
  nonempty : ∀ sequence ≤ maxU64, 0 < Text.size (encode sequence)
  bounded : ∀ sequence ≤ maxU64, Text.size (encode sequence) ≤ Text.size (encode maxU64)

structure QueueMeasured (s : ReportCreditManager σ T) : Prop where
  next_le : s.nextSequence ≤ maxU64
  encoders : ∀ frame ∈ s.queued, Measured frame.encode
  encoded : ∀ frame ∈ s.queued, frame.encoded = frame.encode maxU64

/-- Some report that the credit admits could no longer be numbered or counted. -/
def Exhausted (s : ReportCreditManager σ T) : Prop :=
  s.nextSequence = maxU64 ∨ maxU64 < s.cumulativeTransmittedBytes + kSessionByteCredit

theorem size_lt_of_fits {stream : Stream} {encode : Nat → T} (fits : s.fits stream encode = true) :
    Text.size (encode s.nextSequence) + 1 ≤ kSessionByteCredit := by
  have := ((canTransmit_iff _ _ _).1 fits).2.1
  omega

/-- Where the counters and the channel allow it, the head that `Drain` takes off can be written. -/
theorem ready_of_accepted {stream : Stream}
    {pending : Frame T} {rest : List (Frame T)} (forwards : Forwards s stream pending rest)
    (accepted : (transmit s.sink (pending.encode s.nextSequence)).1 = true)
    (nonempty : 0 < Text.size (pending.encode s.nextSequence)) (numbered : s.nextSequence ≠ maxU64)
    (countable : s.cumulativeTransmittedBytes +
      (Text.size (pending.encode s.nextSequence) + 1) ≤ maxU64) {sink : σ} :
    ¬ Refuses transmit (s.dequeue stream pending rest) pending sink := by
  intro refuses
  have small := size_lt_of_fits forwards.fits
  cases refuses with
  | unready never =>
      exact never { stream with queued := subSize stream.queued 1 } _
        { found := Table.lookup_insert_self _ _ _
          live := forwards.live
          numbered
          nonempty
          small
          counted := rfl
          countable }
  | unwritten refused =>
      have taken : (transmit (s.dequeue stream pending rest).sink
        (pending.encode (s.dequeue stream pending rest).nextSequence)).1 = true := accepted
      rw [refused] at taken
      cases taken

theorem ready_of_forwards (accepting : Accepting transmit) {stream : Stream}
    {pending : Frame T} {rest : List (Frame T)} (forwards : Forwards s stream pending rest)
    (nonempty : 0 < Text.size (pending.encode s.nextSequence)) (numbered : s.nextSequence ≠ maxU64)
    (countable : s.cumulativeTransmittedBytes +
      (Text.size (pending.encode s.nextSequence) + 1) ≤ maxU64) {sink : σ} :
    ¬ Refuses transmit (s.dequeue stream pending rest) pending sink :=
  ready_of_accepted forwards (accepting _ _) nonempty numbered countable

/-- What is asked of a frame when it is queued holds as long as it waits. -/
theorem waiting_keeps (accepting : Accepting transmit)
    {okEncode : String → Nat → (Nat → T) → Prop} {ok : Frame T → Prop}
    (admits : ∀ {subscriptionId generation encode}, okEncode subscriptionId generation encode →
      ok (waitingFrame subscriptionId generation encode)) :
    Keeps transmit okEncode (fun _ _ _ _ => True)
      (fun s => s.nextSequence ≤ maxU64 ∧ ∀ frame ∈ s.queued, ok frame)
      (fun s => Accounted s ∧ s.nextSequence ≤ maxU64 ∧ ∀ frame ∈ s.queued, ok frame) where
  forwarded := by
    intro s stream pending rest cumulative sink _ waiting forwards ready _
    refine ⟨Nat.lt_of_le_of_ne waiting.1 ready.numbered, fun frame member => waiting.2 frame ?_⟩
    rw [forwards.head]
    exact List.mem_cons_of_mem _ member
  lost := by
    intro s stream pending rest sink books waiting forwards _
    have balanced := dequeue_accounted books forwards.head forwards.found forwards.live
    refine ⟨⟨balanced.numbered, balanced.reserved, balanced.tabled, balanced.unwrapped⟩,
      waiting.1, fun frame member => waiting.2 frame ?_⟩
    rw [forwards.head]
    exact List.mem_cons_of_mem _ member
  added := fun _ waiting _ => waiting
  sent := fun _ waiting _ _ _ _ ready _ =>
    ⟨Nat.lt_of_le_of_ne waiting.1 ready.numbered, waiting.2⟩
  enqueued := by
    intro s stream subscriptionId generation encode _ waiting encodes _ _ _
    refine ⟨waiting.1, fun frame member => ?_⟩
    rw [enqueued_queued, List.mem_append, List.mem_singleton] at member
    rcases member with before | rfl
    · exact waiting.2 frame before
    · exact admits encodes
  retired := by
    intro s subscriptionId generation stream barrier sink books waiting _ found _ _
    rw [retired_eq books found]
    exact ⟨waiting.1, fun frame member => waiting.2 frame (List.mem_of_mem_filter member)⟩
  released := fun _ waiting _ _ => waiting
  weaken := fun books waiting => ⟨books, waiting⟩
  refused := by
    intro s text sink _ _ refused
    exact absurd (accepting s.sink text) (by rw [refused]; simp)
  unbarred := by
    intro s subscriptionId generation stream barrier sink _ _ _ _ _ refused
    exact absurd (accepting s.sink barrier) (by rw [refused]; simp)

theorem queueMeasured_iff {s : ReportCreditManager σ T} :
    QueueMeasured s ↔ s.nextSequence ≤ maxU64 ∧
      ∀ frame ∈ s.queued, Measured frame.encode ∧ frame.encoded = frame.encode maxU64 :=
  ⟨fun measured => ⟨measured.next_le, fun frame member =>
      ⟨measured.encoders frame member, measured.encoded frame member⟩⟩,
    fun ⟨next_le, frames⟩ => ⟨next_le, fun frame member => (frames frame member).1,
      fun frame member => (frames frame member).2⟩⟩

theorem queueMeasured_keeps (accepting : Accepting transmit) :
    Keeps transmit (fun _ _ encode => Measured encode) (fun _ _ _ _ => True) QueueMeasured
      (fun s => Accounted s ∧ QueueMeasured s) := by
  have same : (QueueMeasured : ReportCreditManager σ T → Prop) = fun s =>
      s.nextSequence ≤ maxU64 ∧
        ∀ frame ∈ s.queued, Measured frame.encode ∧ frame.encoded = frame.encode maxU64 :=
    funext fun _ => propext queueMeasured_iff
  rw [same]
  exact waiting_keeps accepting fun encodes => ⟨encodes, rfl⟩

/-- No call gives a sequence number or a byte count back. -/
theorem exhausted_keeps (accepting : Accepting transmit) :
    Keeps transmit (fun _ _ _ => True) (fun _ _ _ _ => True) Exhausted
      (fun s => Accounted s ∧ Exhausted s) where
  forwarded := by
    intro s stream pending rest cumulative sink _ exhausted _ ready _
    rcases exhausted with last | uncounted
    · exact absurd last ready.numbered
    · have counted := ready.counted
      rw [dequeue_cumulativeTransmittedBytes] at counted
      refine Or.inr ?_
      rw [forwarded_cumulativeTransmittedBytes]
      omega
  lost := by
    intro s stream pending rest sink books exhausted forwards _
    have balanced := dequeue_accounted books forwards.head forwards.found forwards.live
    exact ⟨⟨balanced.numbered, balanced.reserved, balanced.tabled, balanced.unwrapped⟩, exhausted⟩
  added := fun _ exhausted _ => exhausted
  sent := by
    intro s stream subscriptionId generation encode cumulative sink _ exhausted _ _ _ _ ready _
    rcases exhausted with last | uncounted
    · exact absurd last ready.numbered
    · have counted := ready.counted
      refine Or.inr ?_
      rw [sent_cumulativeTransmittedBytes, transmitted_cumulativeTransmittedBytes]
      omega
  enqueued := fun _ exhausted _ _ _ _ => exhausted
  retired := by
    intro s subscriptionId generation stream barrier sink books exhausted _ found _ _
    rw [retired_eq books found]
    exact exhausted
  released := fun _ exhausted _ _ => exhausted
  weaken := fun books exhausted => ⟨books, exhausted⟩
  refused := by
    intro s text sink _ _ refused
    exact absurd (accepting s.sink text) (by rw [refused]; simp)
  unbarred := by
    intro s subscriptionId generation stream barrier sink _ _ _ _ _ refused
    exact absurd (accepting s.sink barrier) (by rw [refused]; simp)

/-- `Drain` stops at a blocked head, or the counters ran out under it. -/
theorem drain_unblocked (accepting : Accepting transmit) (books : Accounted s)
    (measured : QueueMeasured s) :
    HeadBlocked (s.drain transmit).2 ∨ Exhausted (s.drain transmit).2 := by
  have forwards : KeepsForward transmit QueueMeasured (Exhausted (T := T)) := by
    refine ⟨(queueMeasured_keeps accepting).forwarded, ?_⟩
    intro s stream pending rest sink _ measured forwards refuses
    have small := size_lt_of_fits forwards.fits
    by_contra left
    rw [Exhausted, not_or] at left
    have counted : ¬ maxU64 < s.cumulativeTransmittedBytes + kSessionByteCredit := left.2
    have nonempty := (measured.encoders pending (by rw [forwards.head]; simp)).nonempty _
      measured.next_le
    exact ready_of_forwards accepting forwards nonempty left.1 (by omega) refuses
  have outcome := drain_keeps forwards books measured
  unfold Outcome at outcome
  split at outcome
  · exact Or.inl outcome.2.2
  · exact Or.inr outcome

theorem headBlocked_of_empty (empty : s.queued = []) : HeadBlocked s := by
  intro pending head
  rw [empty] at head
  cases head

theorem addStream_unblocked (books : Accounted s) (blocked : HeadBlocked s)
    (subscriptionId : String) (generation queueLimit : Nat) :
    HeadBlocked (s.addStream subscriptionId generation queueLimit).2 := by
  rcases addStream_cases s subscriptionId generation queueLimit with refused | ⟨admits, result⟩
  · rw [refused]
    exact blocked
  · rw [result]
    intro pending head stream found
    obtain ⟨stream', found', -⟩ := books.tabled.queued_live pending (List.mem_of_mem_head? head)
    have different : pending.key ≠ key subscriptionId generation := by
      intro same
      rw [same, admits.fresh] at found'
      cases found'
    rw [added_streams, Table.lookup_insert, if_neg different] at found
    exact blocked pending head stream found

theorem enqueued_unblocked (blocked : HeadBlocked s) {stream : Stream} {subscriptionId : String}
    {generation : Nat} {encode : Nat → T} (submits : Submits s stream subscriptionId generation encode)
    (waits : s.fits stream encode = false ∨ s.queued ≠ []) :
    HeadBlocked (s.enqueued stream (waitingFrame subscriptionId generation encode)) := by
  intro pending head stream' found
  have unfit : ∀ old, s.streams.lookup pending.key = some old → s.fits old pending.encode = false := by
    cases front : s.queued with
    | nil =>
        rw [enqueued_queued, front, List.nil_append, List.head?_cons, Option.mem_some_iff] at head
        subst head
        intro old found'
        obtain rfl : stream = old := Option.some.inj (submits.found.symm.trans found')
        exact waits.resolve_right (fun some => some front)
    | cons first rest =>
        rw [enqueued_queued, front, List.cons_append, List.head?_cons, Option.mem_some_iff] at head
        subst head
        exact blocked first (by rw [front]; rfl)
  rw [enqueued_streams, Table.lookup_insert] at found
  split at found
  · rename_i same
    obtain rfl := Option.some.inj found
    have found' : s.streams.lookup pending.key = some stream := by rw [same]; exact submits.found
    exact unfit stream found'
  · exact unfit stream' found

theorem retire_unblocked (accepting : Accepting transmit) (books : Accounted s)
    (measured : QueueMeasured s) (blocked : HeadBlocked s) (subscriptionId : String)
    (generation : Nat) (barrier : T) :
    HeadBlocked (s.retire transmit subscriptionId generation barrier).2 ∨
      Exhausted (s.retire transmit subscriptionId generation barrier).2 := by
  rcases retire_cases transmit s subscriptionId generation barrier with
    ⟨refused, -⟩ | ⟨stream, found, live, ⟨sink, written, result⟩ | ⟨sink, refused, result⟩⟩
  · rw [refused]
    exact Or.inl blocked
  · rw [result]
    exact drain_unblocked accepting (retired_books books found barrier sink)
      ((queueMeasured_keeps accepting).retired books measured trivial found live written)
  · exact absurd (accepting s.sink barrier) (by rw [refused]; simp)

theorem call_unblocked (accepting : Accepting transmit) (books : Accounted s)
    (measured : QueueMeasured s) (blocked : HeadBlocked s ∨ Exhausted s) (c : Call T) :
    HeadBlocked (s.call transmit c) ∨ Exhausted (s.call transmit c) := by
  rcases blocked with blocked | exhausted
  · cases c with
    | addStream subscriptionId generation queueLimit =>
        exact Or.inl (addStream_unblocked books blocked _ _ _)
    | beginRecovery subscriptionId previousGeneration nextGeneration queueLimit barrier =>
        simp only [call, beginRecovery]
        split
        · exact Or.inl blocked
        · have kept := call_keeps (queueMeasured_keeps accepting) books measured
            (.retire subscriptionId previousGeneration barrier) trivial
          have left := retire_unblocked accepting books measured blocked subscriptionId
            previousGeneration barrier
          split
          · rcases left with blocked' | exhausted
            · exact Or.inl (addStream_unblocked kept.1 blocked' _ _ _)
            · exact Or.inr (call_keeps (exhausted_keeps accepting) kept.1 exhausted
                (.addStream subscriptionId nextGeneration queueLimit) trivial).2
          · exact left
    | submit subscriptionId generation encode =>
        simp only [call]
        rcases submit_cases transmit s subscriptionId generation encode with
          ⟨result, -⟩ | ⟨result, -⟩ | ⟨stream, submits, fits, empty, written⟩ |
          ⟨stream, submits, waits, room, result⟩
        · rw [result]
          exact Or.inl blocked
        · rw [result]
          exact Or.inl blocked
        · rcases written with ⟨cumulative, sink, -, -, result⟩ | ⟨sink, -, result⟩
          · rw [result]
            exact Or.inl (headBlocked_of_empty empty)
          · rw [result]
            exact Or.inl (headBlocked_of_empty empty)
        · rw [result]
          exact Or.inl (enqueued_unblocked blocked submits waits)
    | acknowledge reportSequence acknowledgedBytes =>
        simp only [call]
        rcases acknowledge_cases transmit books reportSequence acknowledgedBytes with
          refused | ⟨front, target, rest, -, -, -, -, balanced, result⟩
        · rw [refused]
          exact Or.inl blocked
        · rw [result]
          exact drain_unblocked accepting balanced
            ⟨measured.next_le, measured.encoders, measured.encoded⟩
    | retire subscriptionId generation barrier =>
        exact retire_unblocked accepting books measured blocked _ _ _
  · exact Or.inr (call_keeps (exhausted_keeps accepting) books exhausted c
      (by cases c <;> trivial)).2

theorem run_headBlocked (accepting : Accepting transmit) (calls : List (Call T))
    (encodes : ∀ c ∈ calls, c.Encodes fun _ _ encode => Measured encode)
    {s : ReportCreditManager σ T} (books : Accounted s) (measured : QueueMeasured s)
    (blocked : HeadBlocked s ∨ Exhausted s) :
    HeadBlocked (s.run transmit calls) ∨ Exhausted (s.run transmit calls) := by
  induction calls generalizing s with
  | nil => exact blocked
  | cons c calls ih =>
      obtain ⟨books', measured'⟩ :=
        call_keeps (queueMeasured_keeps accepting) books measured c (encodes c (by simp))
      exact ih (fun c' member => encodes c' (by simp [member])) books' measured'
        (call_unblocked accepting books measured blocked c)

/-- With nothing outstanding every waiting report has its credit. -/
theorem outstanding_of_blocked (books : Accounted s) (measured : QueueMeasured s)
    (blocked : HeadBlocked s) {pending : Frame T} {rest : List (Frame T)}
    (head : s.queued = pending :: rest) : s.outstanding ≠ [] := by
  intro none
  have member : pending ∈ s.queued := by rw [head]; simp
  obtain ⟨stream, found, -⟩ := books.tabled.queued_live pending member
  have ok := books.tabled.stream_ok found
  have unfit := blocked pending (by rw [head]; rfl) stream found
  have reserved := books.reserved.bytes_le
  rw [books.reserved.bytes_eq, head, frameBytes_cons, Frame.bytes,
    measured.encoded pending member] at reserved
  have shorter := (measured.encoders pending member).bounded s.nextSequence measured.next_le
  have held := books.numbered.bytes_eq
  have share := ok.outstanding_eq
  have limit := ok.limit_pos
  rw [none, frameBytes_nil] at held
  rw [none, carried_nil] at share
  have fit : s.fits stream pending.encode = true := by
    rw [fits, canTransmit_iff, none, held, share, List.length_nil]
    unfold kSessionReportCredit kSessionByteCredit kStreamReportCredit
    unfold kMaximumQueuedBytes at reserved
    omega
  rw [fit] at unfit
  cases unfit

/-- The counters can number and count everything that is queued. -/
structure RoomFor (s : ReportCreditManager σ T) : Prop where
  sequences : s.nextSequence + s.queued.length ≤ maxU64
  bytes : s.cumulativeTransmittedBytes + frameBytes s.queued ≤ maxU64

theorem roomFor_forward (measured : QueueMeasured s) (room : RoomFor s) {stream : Stream}
    {pending : Frame T} {rest : List (Frame T)} (forwards : Forwards s stream pending rest) :
    s.nextSequence + 1 + rest.length ≤ maxU64 ∧
      s.cumulativeTransmittedBytes + (Text.size (pending.encode s.nextSequence) + 1) +
        frameBytes rest ≤ maxU64 := by
  have sequences := room.sequences
  have bytes := room.bytes
  have member : pending ∈ s.queued := by rw [forwards.head]; simp
  have shorter := (measured.encoders pending member).bounded s.nextSequence measured.next_le
  rw [forwards.head, List.length_cons] at sequences
  rw [forwards.head, frameBytes_cons, Frame.bytes, measured.encoded pending member] at bytes
  omega

/-- `Acknowledge` of the last outstanding report with its exact byte count. -/
def acknowledgeAll (transmit : σ → T → Bool × σ) (s : ReportCreditManager σ T) :
    Bool × ReportCreditManager σ T :=
  match s.outstanding.getLast? with
  | none => (false, s)
  | some last => s.acknowledge transmit last.sequence last.cumulativeBytes

theorem acknowledgeAll_progress (accepting : Accepting transmit) (books : Accounted s)
    (measured : QueueMeasured s) (room : RoomFor s) (some : s.outstanding ≠ []) :
    (s.acknowledgeAll transmit).1 = true ∧ Accounted (s.acknowledgeAll transmit).2 ∧
      QueueMeasured (s.acknowledgeAll transmit).2 ∧ RoomFor (s.acknowledgeAll transmit).2 ∧
      HeadBlocked (s.acknowledgeAll transmit).2 ∧
      (s.queued ≠ [] → (s.acknowledgeAll transmit).2.queued.length < s.queued.length) := by
  have last := List.getLast?_eq_some_getLast some
  obtain ⟨front, rest, split, -, balanced, result⟩ :=
    acknowledge_accepts transmit books (List.getLast_mem some)
  have equation : s.acknowledgeAll transmit =
      (s.released (s.outstanding.getLast some) rest).drain transmit := by
    unfold acknowledgeAll
    rw [last]
    exact result
  have none : rest = [] := by
    have consecutive := books.numbered.consecutive
    by_contra more
    have lastOfRest : s.outstanding.getLast some = rest.getLast more := by
      apply Option.some.inj
      rw [← last, split, List.getLast?_append, List.getLast?_cons_of_ne_nil more,
        List.getLast?_eq_some_getLast more]
      rfl
    have member : rest.getLast more ∈ rest := List.getLast_mem more
    have twice : (s.outstanding.map Frame.sequence).Nodup := by
      rw [consecutive]
      exact List.nodup_range'
    rw [split, List.map_append, List.map_cons, List.nodup_append, List.nodup_cons] at twice
    exact twice.2.1.1 (List.mem_map.2 ⟨_, member, by rw [lastOfRest]⟩)
  subst none
  let start := s.released (s.outstanding.getLast some) []
  have forwards : KeepsForward transmit
      (fun s' => QueueMeasured s' ∧ RoomFor s' ∧
        (s' = start ∨ s'.queued.length < s.queued.length))
      (fun _ => False) := by
    refine ⟨?_, ?_⟩
    · rintro s' stream pending rest cumulative sink books' ⟨measured', room', shorter⟩ forwards
        ready written
      have left := roomFor_forward measured' room' forwards
      have counted := ready.counted
      simp only [dequeue_cumulativeTransmittedBytes, dequeue_nextSequence] at counted
      refine ⟨(queueMeasured_keeps accepting).forwarded books' measured' forwards ready written,
        ⟨left.1, ?_⟩, Or.inr ?_⟩
      · rw [forwarded_cumulativeTransmittedBytes, counted]
        exact left.2
      · have count : s'.queued.length ≤ s.queued.length := by
          rcases shorter with rfl | less
          · exact le_rfl
          · exact less.le
        rw [forwards.head, List.length_cons] at count
        exact count
    · rintro s' stream pending rest sink - ⟨measured', room', -⟩ forwards refuses
      have left := roomFor_forward measured' room' forwards
      have nonempty := (measured'.encoders pending (by rw [forwards.head]; simp)).nonempty _
        measured'.next_le
      exact ready_of_forwards accepting forwards nonempty (by omega) (by omega) refuses
  have outcome := drain_keeps forwards balanced
    ⟨⟨measured.next_le, measured.encoders, measured.encoded⟩, ⟨room.sequences, room.bytes⟩,
      Or.inl rfl⟩
  rw [equation]
  unfold Outcome at outcome
  split at outcome
  · rename_i succeeded
    obtain ⟨books', ⟨measured', room', shorter⟩, blocked⟩ := outcome
    refine ⟨succeeded, books', measured', room', blocked, ?_⟩
    intro waiting
    rcases shorter with same | less
    · obtain ⟨pending, rest, head⟩ := List.exists_cons_of_ne_nil waiting
      rw [same] at blocked measured'
      exact absurd rfl (outstanding_of_blocked balanced measured' blocked head)
    · exact less
  · exact outcome.elim

/-- Acknowledging everything that is outstanding, again and again, empties the queue. -/
theorem acknowledgeAll_empties (accepting : Accepting transmit) (n : Nat) :
    ∀ {s : ReportCreditManager σ T}, Accounted s → QueueMeasured s → RoomFor s → HeadBlocked s →
      s.queued.length ≤ n →
      ∃ steps ≤ n, ((fun s => (acknowledgeAll transmit s).2)^[steps] s).queued = [] := by
  induction n with
  | zero =>
      intro s _ _ _ _ short
      exact ⟨0, le_rfl, List.eq_nil_of_length_eq_zero (Nat.le_zero.1 short)⟩
  | succ n ih =>
      intro s books measured room blocked short
      cases queue : s.queued with
      | nil => exact ⟨0, Nat.zero_le _, queue⟩
      | cons pending rest =>
          have some := outstanding_of_blocked books measured blocked queue
          obtain ⟨-, books', measured', room', blocked', less⟩ :=
            acknowledgeAll_progress accepting books measured room some
          have shorter := less (by rw [queue]; simp)
          obtain ⟨steps, few, emptied⟩ := ih books' measured' room' blocked' (by omega)
          exact ⟨steps + 1, by omega, by rw [Function.iterate_succ_apply]; exact emptied⟩

/-- The counters have room for a full queue. -/
structure Room (s : ReportCreditManager σ T) : Prop where
  sequences : s.nextSequence + kMaximumQueuedReports ≤ maxU64
  bytes : s.cumulativeTransmittedBytes + kMaximumQueuedBytes ≤ maxU64

/-- **No stranded report.**  In every reached state whose counters have room, a waiting
report waits because its credit is out, something is outstanding that an
acknowledgement can return, and acknowledging it empties the queue in at most as many
steps as there are reports waiting. -/
theorem run_unblocked (accepting : Accepting transmit) (sink : σ) (calls : List (Call T))
    (encodes : ∀ c ∈ calls, c.Encodes fun _ _ encode => Measured encode)
    (room : Room (run transmit { sink } calls)) :
    (∀ pending rest, (run transmit { sink } calls).queued = pending :: rest →
      (∃ stream, (run transmit { sink } calls).stream? pending.subscriptionId
          pending.generation = some stream ∧
        (run transmit { sink } calls).canTransmit stream
          (Text.size (pending.encode (run transmit { sink } calls).nextSequence) + 1) = false) ∧
      (run transmit { sink } calls).outstanding ≠ []) ∧
    ((run transmit { sink } calls).outstanding ≠ [] →
      ((run transmit { sink } calls).acknowledgeAll transmit).1 = true) ∧
    ∃ steps ≤ (run transmit { sink } calls).queued.length,
      ((fun s => (acknowledgeAll transmit s).2)^[steps] (run transmit { sink } calls)).queued =
        [] := by
  have start : QueueMeasured ({ sink } : ReportCreditManager σ T) :=
    { next_le := show 1 ≤ maxU64 by decide
      encoders := fun _ member => by cases member
      encoded := fun _ member => by cases member }
  obtain ⟨books, measured⟩ := run_keeps (queueMeasured_keeps accepting) calls encodes
    (accounted_initial sink) start
  have blocked := run_headBlocked accepting calls encodes (accounted_initial sink) start
    (Or.inl (headBlocked_of_empty rfl))
  generalize run transmit { sink } calls = s at *
  have sequences := room.sequences
  have bytes := room.bytes
  have frames := books.reserved.frames_le
  have queued := books.reserved.bytes_eq
  have reserved := books.reserved.bytes_le
  have unexhausted : ¬ Exhausted s := by
    unfold Exhausted
    unfold kMaximumQueuedReports at sequences
    unfold kSessionByteCredit
    unfold kMaximumQueuedBytes at bytes
    omega
  have blocked := blocked.resolve_right unexhausted
  have roomFor : RoomFor s := ⟨by omega, by omega⟩
  refine ⟨?_, fun some => (acknowledgeAll_progress accepting books measured roomFor some).1,
    acknowledgeAll_empties accepting _ books measured roomFor blocked le_rfl⟩
  intro pending rest head
  obtain ⟨stream, found, -⟩ := books.tabled.queued_live pending (by rw [head]; simp)
  exact ⟨⟨stream, found, blocked pending (by rw [head]; rfl) stream found⟩,
    outstanding_of_blocked books measured blocked head⟩

/-- A text whose length grows with the sequence number, as a report's does. -/
def shortThenLong (sequence : Nat) : String := if sequence < 10 then "1" else "18446744073709551615"

/-- The second report waits for the first one's credit and leaves after one step. -/
theorem run_unblocked_queued :
    (run record { sink := [] } [.addStream "a" 1 1, .submit "a" 1 shortThenLong,
      .submit "a" 1 shortThenLong]).queued.length = 1 ∧
    ∃ steps ≤ (run record { sink := [] } [.addStream "a" 1 1, .submit "a" 1 shortThenLong,
        .submit "a" 1 shortThenLong]).queued.length,
      ((fun s => (acknowledgeAll record s).2)^[steps] (run record { sink := [] }
        [.addStream "a" 1 1, .submit "a" 1 shortThenLong,
          .submit "a" 1 shortThenLong])).queued = [] := by
  refine ⟨by decide, (run_unblocked (fun _ _ => rfl) _ _ ?_ ?_).2.2⟩
  · have measured : Measured shortThenLong := by
      refine ⟨fun sequence _ => ?_, fun sequence _ => ?_⟩ <;> unfold shortThenLong <;>
        split <;> decide
    intro c member
    simp only [List.mem_cons, List.not_mem_nil, or_false] at member
    rcases member with rfl | rfl | rfl
    · trivial
    · exact measured
    · exact measured
  · exact ⟨by decide, by decide⟩

/-! ## The counters do run out -/

theorem submit_transmitted (accepting : Accepting transmit) {stream : Stream} {id : String}
    {g : Nat} {encode : Nat → T} (submits : Submits s stream id g encode)
    (fits : s.fits stream encode = true) (empty : s.queued = [])
    (countable : s.cumulativeTransmittedBytes + (Text.size (encode s.nextSequence) + 1) ≤ maxU64) :
    s.submit transmit id g encode = (.transmitted, s.sent stream (s.reportFrame id g encode)
      (s.cumulativeTransmittedBytes + (Text.size (encode s.nextSequence) + 1))
      (transmit s.sink (encode s.nextSequence)).2) := by
  rcases submit_cases transmit s id g encode with
    ⟨-, unknown | last⟩ | ⟨-, full⟩ | ⟨stream', submits', -, -, written⟩ |
    ⟨stream', submits', waits, -, -⟩
  · simp [stream?, submits.found, submits.live] at unknown
  · exact absurd last submits.numbered
  · rcases (full stream submits).1 with unfit | waits
    · exact absurd fits (by rw [unfit]; simp)
    · exact absurd empty waits
  · obtain rfl : stream = stream' :=
      Option.some.inj (submits.found.symm.trans submits'.found)
    rcases written with ⟨cumulative, sink, ready, accepted, result⟩ | ⟨sink, refuses, -⟩
    · rw [result, accepted, ready.counted]
      rfl
    · cases refuses with
      | unready never =>
          exact absurd ⟨submits.found, submits.live, submits.numbered, submits.nonempty,
            submits.small, rfl, countable⟩ (never stream _)
      | unwritten refused =>
          have := accepting s.sink ((s.reportFrame id g encode).encode s.nextSequence)
          rw [refused] at this
          cases this
  · obtain rfl : stream = stream' :=
      Option.some.inj (submits.found.symm.trans submits'.found)
    rcases waits with unfit | waits
    · exact absurd fits (by rw [unfit]; simp)
    · exact absurd empty waits

theorem submit_queued {stream : Stream} {id : String} {g : Nat} {encode : Nat → T}
    (submits : Submits s stream id g encode) (unfit : s.fits stream encode = false)
    (room : HasRoom s stream (waitingFrame id g encode)) :
    s.submit transmit id g encode = (.queued, s.enqueued stream (waitingFrame id g encode)) := by
  rcases submit_cases transmit s id g encode with
    ⟨-, unknown | last⟩ | ⟨-, full⟩ | ⟨stream', submits', fits, -, -⟩ |
    ⟨stream', submits', -, -, result⟩
  · simp [stream?, submits.found, submits.live] at unknown
  · exact absurd last submits.numbered
  · exact absurd room (full stream submits).2
  · obtain rfl : stream = stream' :=
      Option.some.inj (submits.found.symm.trans submits'.found)
    exact absurd fits (by rw [unfit]; simp)
  · obtain rfl : stream = stream' :=
      Option.some.inj (submits.found.symm.trans submits'.found)
    exact result

/-- One live stream that has sent `sent` reports of `bytes` each, `acked` of them
acknowledged, with `queue` waiting. -/
structure Lockstep (id : String) (g limit bytes sent acked : Nat) (queue : List (Frame T))
    (s : ReportCreditManager σ T) : Prop where
  books : Accounted s
  acknowledged : s.acknowledgedSequence = acked
  behind : acked ≤ sent
  count : s.outstanding.length = sent - acked
  cumulative : ∀ frame ∈ s.outstanding, frame.cumulativeBytes = frame.sequence * bytes
  held : s.outstandingBytes = (sent - acked) * bytes
  transmitted : s.cumulativeTransmittedBytes = sent * bytes
  queued : s.queued = queue
  live : ∃ stream, s.streams.lookup (key id g) = some stream ∧ stream.live = true ∧
    stream.queueLimit = limit ∧ stream.outstanding = sent - acked

section Lockstep

variable {id : String} {g limit bytes sent acked : Nat} {queue : List (Frame T)}
  {encode : Nat → T}

theorem Lockstep.next (lockstep : Lockstep id g limit bytes sent acked queue s) :
    s.nextSequence = sent + 1 := by
  have next := lockstep.books.numbered.next
  rw [lockstep.acknowledged, lockstep.count] at next
  have := lockstep.behind
  omega

theorem Lockstep.sink (lockstep : Lockstep id g limit bytes sent acked queue s) (sink : σ) :
    Lockstep id g limit bytes sent acked queue { s with sink } :=
  ⟨⟨lockstep.books.numbered, lockstep.books.reserved, lockstep.books.tabled,
    lockstep.books.unwrapped⟩, lockstep.acknowledged, lockstep.behind, lockstep.count,
    lockstep.cumulative, lockstep.held, lockstep.transmitted, lockstep.queued, lockstep.live⟩

theorem lockstep_added (empty : id.isEmpty = false) (positive : 0 < g) (limit_pos : 0 < limit)
    (limit_le : limit ≤ 10000) (sink : σ) :
    Lockstep id g limit bytes 0 0 []
      (({ sink } : ReportCreditManager σ T).addStream id g limit).2 := by
  rcases addStream_cases ({ sink } : ReportCreditManager σ T) id g limit with
    refused | ⟨admits, result⟩
  · have admitted : (({ sink } : ReportCreditManager σ T).addStream id g limit).1 = true := by
      unfold addStream
      rw [if_neg]
      push Not
      exact ⟨by simp [empty], by omega, by omega, limit_le, by simp [liveStreams, Table.count],
        by simp [Table.size], by simp [stream?]⟩
    rw [refused] at admitted
    cases admitted
  · rw [result]
    exact
      { books := added_accounted (accounted_initial sink) admits
        acknowledged := rfl
        behind := Nat.le_refl _
        count := rfl
        cumulative := fun _ member => by cases member
        held := by rw [Nat.zero_mul]; rfl
        transmitted := by rw [Nat.zero_mul]; rfl
        queued := rfl
        live := ⟨_, Table.lookup_insert_self _ _ _, rfl, rfl, rfl⟩ }

/-- A report that the credit admits is written. -/
theorem lockstep_sent (accepting : Accepting transmit)
    (lockstep : Lockstep id g limit bytes sent acked [] s)
    (size : Text.size (encode (sent + 1)) + 1 = bytes) (nonempty : 1 < bytes)
    (share : sent - acked < min kStreamReportCredit limit)
    (room : (sent - acked) * bytes + bytes ≤ kSessionByteCredit)
    (countable : sent * bytes + bytes ≤ maxU64) :
    (s.submit transmit id g encode).2.sink = (transmit s.sink (encode (sent + 1))).2 ∧
      Lockstep id g limit bytes (sent + 1) acked [] (s.submit transmit id g encode).2 := by
  obtain ⟨stream, found, live, limited, share_eq⟩ := lockstep.live
  have next := lockstep.next
  have behind := lockstep.behind
  have numbered : s.nextSequence ≠ maxU64 := by
    have : (sent + 1) * 2 ≤ (sent + 1) * bytes := Nat.mul_le_mul_left _ nonempty
    rw [Nat.add_mul, Nat.add_mul] at this
    unfold maxU64 at countable ⊢
    omega
  have fits : s.fits stream encode = true := by
    rw [fits, canTransmit_iff, next, size, lockstep.held, lockstep.count, limited, share_eq]
    unfold kStreamReportCredit at share
    unfold kSessionReportCredit kStreamReportCredit
    omega
  have submits : Submits s stream id g encode :=
    ⟨found, live, numbered, by rw [next]; omega, by rw [next]; omega⟩
  have result := submit_transmitted accepting submits fits lockstep.queued
    (by rw [lockstep.transmitted, next, size]; exact countable)
  have balanced := transmitted_accounted lockstep.books
    (show s.streams.lookup (s.reportFrame id g encode).key = some stream from found)
    fits (s.cumulativeTransmittedBytes + (Text.size (encode s.nextSequence) + 1))
    (transmit s.sink (encode s.nextSequence)).2
  rw [result]
  refine ⟨by rw [← next]; rfl, ?_⟩
  exact
    { books := ⟨balanced.numbered, balanced.reserved, balanced.tabled, balanced.unwrapped⟩
      acknowledged := lockstep.acknowledged
      behind := by omega
      count := by
        rw [sent_outstanding, transmitted_outstanding, List.length_append, lockstep.count,
          List.length_singleton]
        omega
      cumulative := by
        intro frame member
        rw [sent_outstanding, transmitted_outstanding, List.mem_append,
          List.mem_singleton] at member
        rcases member with before | rfl
        · exact lockstep.cumulative frame before
        · dsimp only
          rw [lockstep.transmitted, next, size, Nat.add_mul, Nat.one_mul]
      held := by
        rw [sent_outstandingBytes, transmitted_outstandingBytes, lockstep.held]
        simp only [reportFrame]
        rw [next, size, Nat.sub_add_comm behind, Nat.add_mul, Nat.one_mul]
      transmitted := by
        rw [sent_cumulativeTransmittedBytes, transmitted_cumulativeTransmittedBytes,
          lockstep.transmitted, next, size, Nat.add_mul, Nat.one_mul]
      queued := lockstep.queued
      live := by
        refine ⟨_, Table.lookup_insert_self _ _ _, live, limited, ?_⟩
        dsimp only
        rw [share_eq]
        omega }

/-- A report beyond the stream's credit waits. -/
theorem lockstep_queued (transmit : σ → T → Bool × σ)
    (lockstep : Lockstep id g limit bytes sent acked queue s)
    (nonempty : 0 < Text.size (encode (sent + 1)))
    (small : Text.size (encode (sent + 1)) < kSessionByteCredit) (last : sent + 1 ≠ maxU64)
    (spent : min kStreamReportCredit limit ≤ sent - acked)
    (frames : queue.length < kMaximumQueuedReports)
    (reserved : frameBytes queue + (Text.size (encode maxU64) + 1) ≤ kMaximumQueuedBytes)
    (share : carried (key id g) queue < limit) :
    (s.submit transmit id g encode).2.sink = s.sink ∧
      Lockstep id g limit bytes sent acked (queue ++ [waitingFrame id g encode])
        (s.submit transmit id g encode).2 := by
  obtain ⟨stream, found, live, limited, share_eq⟩ := lockstep.live
  have next := lockstep.next
  have submits : Submits s stream id g encode :=
    ⟨found, live, by rw [next]; exact last, by rw [next]; exact nonempty,
      by rw [next]; exact small⟩
  have unfit : s.fits stream encode = false := by
    rw [Bool.eq_false_iff]
    intro fits
    have credit := ((canTransmit_iff _ _ _).1 fits).2.2.2
    rw [limited, share_eq] at credit
    omega
  have room : HasRoom s stream (waitingFrame id g encode) := by
    refine ⟨by rw [lockstep.queued]; exact frames, ?_, ?_⟩
    · rw [lockstep.books.reserved.bytes_eq, lockstep.queued]
      exact reserved
    · rw [(lockstep.books.tabled.stream_ok found).queued_eq, lockstep.queued, limited]
      exact share
  rw [submit_queued submits unfit room]
  refine ⟨rfl, ?_⟩
  exact
    { books := enqueued_accounted lockstep.books submits.found submits.live room
      acknowledged := lockstep.acknowledged
      behind := lockstep.behind
      count := lockstep.count
      cumulative := lockstep.cumulative
      held := lockstep.held
      transmitted := lockstep.transmitted
      queued := by rw [enqueued_queued, lockstep.queued]
      live := ⟨_, Table.lookup_insert_self _ _ _, live, limited, share_eq⟩ }

/-- The state in which `Acknowledge` of everything sent calls `Drain`. -/
theorem lockstep_released (transmit : σ → T → Bool × σ)
    (lockstep : Lockstep id g limit bytes sent acked queue s)
    (some : acked < sent) :
    ∃ target, s.acknowledge transmit sent (sent * bytes) = (s.released target []).drain transmit ∧
      Lockstep id g limit bytes sent sent queue (s.released target []) ∧
      (s.released target []).sink = s.sink := by
  have length := lockstep.count
  have consecutive := lockstep.books.numbered.consecutive
  obtain ⟨front, target, split⟩ : ∃ front target, s.outstanding = front ++ [target] := by
    refine ⟨_, _, (List.dropLast_append_getLast (l := s.outstanding) ?_).symm⟩
    rintro none
    rw [none, List.length_nil] at length
    omega
  have count : front.length + 1 = sent - acked := by
    rw [← length, split, List.length_append, List.length_singleton]
  have last : target.sequence = sent := by
    have nth := congrArg (fun l => l[front.length]?) consecutive
    rw [lockstep.acknowledged, split, List.map_append] at nth
    simp only [List.length_append, List.length_singleton] at nth
    rw [List.getElem?_append_right (by simp), List.length_map, Nat.sub_self, List.map_singleton,
      List.getElem?_cons_zero, List.getElem?_range' (by omega)] at nth
    have := Option.some.inj nth
    omega
  obtain ⟨front', rest, split', here, balanced, result⟩ :=
    acknowledge_accepts transmit lockstep.books
      (show target ∈ s.outstanding by rw [split]; simp)
  obtain rfl : rest = [] := by
    have lengths := congrArg List.length split'
    rw [length, List.length_append, List.length_cons] at lengths
    rw [last, lockstep.acknowledged] at here
    exact List.eq_nil_of_length_eq_zero (by omega)
  rw [last, lockstep.cumulative target (by rw [split]; simp), last] at result
  refine ⟨target, result, ?_, rfl⟩
  obtain ⟨stream, found, live, limited, -⟩ := lockstep.live
  exact
    { books := balanced
      acknowledged := last
      behind := Nat.le_refl _
      count := by rw [Nat.sub_self]; rfl
      cumulative := fun _ member => by cases member
      held := by rw [Nat.sub_self, Nat.zero_mul]; rfl
      transmitted := lockstep.transmitted
      queued := lockstep.queued
      live := by
        refine ⟨{ stream with outstanding := 0 }, ?_, live, limited, (Nat.sub_self _).symm⟩
        rw [released_streams, leaving_streams, settled, Table.lookup_filterMap, found,
          Option.bind_some, settle, if_neg (by rw [live]; simp), carried_nil] }

theorem lockstep_acknowledged (transmit : σ → T → Bool × σ)
    (lockstep : Lockstep id g limit bytes sent acked [] s)
    (some : acked < sent) :
    (s.acknowledge transmit sent (sent * bytes)).2.sink = s.sink ∧
      Lockstep id g limit bytes sent sent [] (s.acknowledge transmit sent (sent * bytes)).2 := by
  obtain ⟨target, result, released, sink⟩ := lockstep_released transmit lockstep some
  have unchanged : (s.released target []).drain transmit = (true, s.released target []) := by
    rw [drain, released.queued, drainLoop]
  rw [result, unchanged]
  exact ⟨sink, released⟩

/-- A waiting report that the byte counter cannot count is lost, and `Acknowledge` fails
with the reports behind it still waiting. -/
theorem lockstep_exhausted (transmit : σ → T → Bool × σ) {rest : List (Frame T)}
    (lockstep : Lockstep id g limit bytes sent acked (waitingFrame id g encode :: rest) s)
    (some : acked < sent) (limit_pos : 0 < limit)
    (small : Text.size (encode (sent + 1)) < kSessionByteCredit)
    (uncounted : maxU64 < sent * bytes + (Text.size (encode (sent + 1)) + 1)) :
    (s.acknowledge transmit sent (sent * bytes)).1 = false ∧
      (s.acknowledge transmit sent (sent * bytes)).2.queued = rest ∧
      (s.acknowledge transmit sent (sent * bytes)).2.outstanding = [] := by
  obtain ⟨target, result, released, -⟩ := lockstep_released transmit lockstep some
  obtain ⟨stream, found, live, limited, share⟩ := released.live
  have next := released.next
  have bytes_eq := released.held
  have count := released.count
  rw [Nat.sub_self, Nat.zero_mul] at bytes_eq
  rw [Nat.sub_self] at share count
  have empty := List.eq_nil_of_length_eq_zero count
  rw [result]
  generalize s.released target [] = t at *
  have fits : t.canTransmit stream
      (Text.size ((waitingFrame id g encode).encode t.nextSequence) + 1) = true := by
    rw [canTransmit_iff, next, bytes_eq, count, limited, share]
    simp only [waitingFrame]
    unfold kSessionReportCredit kStreamReportCredit
    omega
  obtain ⟨sink, refused⟩ : ∃ sink, (t.dequeue stream (waitingFrame id g encode) rest).transmitFrame
      transmit (waitingFrame id g encode) =
        (false, { t.dequeue stream (waitingFrame id g encode) rest with sink }) := by
    rcases transmitFrame_cases transmit (t.dequeue stream (waitingFrame id g encode) rest)
      (waitingFrame id g encode) with ⟨_, cumulative, _, ready, -, -⟩ | ⟨sink, -, failed⟩
    · have counted := ready.counted
      have countable := ready.countable
      rw [dequeue_cumulativeTransmittedBytes, dequeue_nextSequence, released.transmitted,
        next] at counted
      simp only [waitingFrame] at counted
      omega
    · exact ⟨sink, failed⟩
  have head : (t.streams.lookup (waitingFrame id g encode).key).filter
      (fun stream => stream.live) = Option.some stream :=
    Option.filter_eq_some_iff.2 ⟨found, live⟩
  have drained : t.drain transmit =
      (false, { t.dequeue stream (waitingFrame id g encode) rest with sink }) := by
    rw [drain, released.queued, drainLoop, head]
    dsimp only
    rw [if_pos fits, refused]
    rfl
  rw [drained]
  exact ⟨rfl, rfl, empty⟩

end Lockstep

/-- Reports sent one at a time, each acknowledged before the next. -/
def rounds (encode : Nat → T) (bytes n : Nat) : List (Call T) :=
  (List.range n).flatMap fun sent =>
    [.submit "a" 1 encode, .acknowledge (sent + 1) ((sent + 1) * bytes)]

/-- `n` such rounds, then four reports at once and the acknowledgement of the first two. -/
def overrun (encode : Nat → T) (bytes n : Nat) : List (Call T) :=
  .addStream "a" 1 2 :: rounds encode bytes n ++
    [.submit "a" 1 encode, .submit "a" 1 encode, .submit "a" 1 encode, .submit "a" 1 encode,
      .acknowledge (n + 2) ((n + 2) * bytes)]

theorem run_append (s : ReportCreditManager σ T) (front back : List (Call T)) :
    run transmit s (front ++ back) = run transmit (run transmit s front) back :=
  List.foldl_append

section Overrun

variable {encode : Nat → T} {bytes : Nat}

theorem lockstep_rounds (accepting : Accepting transmit) (sink : σ)
    (sized : ∀ sequence, Text.size (encode sequence) + 1 = bytes) (nonempty : 1 < bytes)
    (small : bytes ≤ kSessionByteCredit) (n : Nat) (few : n * bytes ≤ maxU64) :
    Lockstep "a" 1 2 bytes n n []
      (run transmit { sink } (.addStream "a" 1 2 :: rounds encode bytes n)) := by
  induction n with
  | zero => exact lockstep_added (by decide) (by decide) (by decide) (by decide) _
  | succ n ih =>
      rw [Nat.succ_mul] at few
      have sent := (lockstep_sent accepting (ih (by omega)) (sized _) nonempty
        (by rw [Nat.sub_self]; decide) (by rw [Nat.sub_self]; omega) few).2
      have acknowledged := (lockstep_acknowledged transmit sent
        (Nat.lt_succ_self n)).2
      rw [rounds, List.range_succ, List.flatMap_append, ← List.cons_append, run_append, ← rounds]
      exact acknowledged

/-- When the byte counter ends within the third report, `Acknowledge` fails and leaves
the fourth waiting with nothing outstanding. -/
theorem run_overrun (accepting : Accepting transmit) (sink : σ)
    (sized : ∀ sequence, Text.size (encode sequence) + 1 = bytes) (nonempty : 1 < bytes)
    (half : bytes + bytes ≤ kSessionByteCredit) (n : Nat) (room : (n + 2) * bytes ≤ maxU64)
    (full : maxU64 < (n + 3) * bytes) :
    (run transmit { sink } (overrun encode bytes n)).queued.length = 1 ∧
      (run transmit { sink } (overrun encode bytes n)).outstanding = [] := by
  have queuedBytes : kMaximumQueuedBytes = kSessionByteCredit := rfl
  rw [Nat.add_mul] at room full
  have lockstep := lockstep_rounds accepting sink sized nonempty (by omega) n (by omega)
  rw [overrun, run_append]
  generalize run transmit { sink } (.addStream "a" 1 2 :: rounds encode bytes n) = s at *
  have one : n + 1 - n = 1 := Nat.add_sub_cancel_left n 1
  have two : n + 1 + 1 - n = 2 := Nat.add_sub_cancel_left n 2
  have first := (lockstep_sent accepting lockstep (sized _) nonempty
    (by rw [Nat.sub_self]; decide) (by rw [Nat.sub_self]; omega) (by omega)).2
  have second := (lockstep_sent accepting first (sized _) nonempty (by rw [one]; decide)
    (by rw [one]; omega) (by rw [Nat.succ_mul]; omega)).2
  have last : n + 1 + 1 + 1 ≠ maxU64 := by
    have : n * 2 ≤ n * bytes := Nat.mul_le_mul_left _ nonempty
    unfold maxU64 at room ⊢
    omega
  have positive : ∀ sequence, 0 < Text.size (encode sequence) := fun sequence => by
    have := sized sequence
    omega
  have short : ∀ sequence, Text.size (encode sequence) < kSessionByteCredit := fun sequence => by
    have := sized sequence
    omega
  have third := (lockstep_queued transmit second (positive _) (short _) last
    (by rw [two]; decide) (show 0 < 64 by decide) (by rw [sized, frameBytes_nil]; omega)
    (show 0 < 2 by decide)).2
  have reserved : frameBytes [waitingFrame "a" 1 encode] = bytes := by
    rw [frameBytes_cons, Frame.bytes, waitingFrame, sized]
    rfl
  have fourth := (lockstep_queued transmit third (positive _) (short _) last
    (by rw [two]; decide) (show 1 < 64 by decide)
    (by rw [List.nil_append, reserved, sized, queuedBytes]; exact half)
    (by rw [List.nil_append, carried_cons, carried_nil]; split <;> decide)).2
  obtain ⟨-, queue, empty⟩ := lockstep_exhausted transmit fourth (by omega)
    (by decide) (short _) (by rw [sized, Nat.succ_mul, Nat.succ_mul]; omega)
  exact ⟨congrArg List.length queue, empty⟩

omit [Text T] in
theorem overrun_encodes {okEncode : String → Nat → (Nat → T) → Prop} (ok : okEncode "a" 1 encode)
    (n : Nat) : ∀ c ∈ overrun encode bytes n, c.Encodes okEncode := by
  intro c member
  rw [overrun, List.mem_append, List.mem_cons, rounds, List.mem_flatMap] at member
  rcases member with (rfl | ⟨sent, -, inRound⟩) | inLast
  · trivial
  · simp only [List.mem_cons, List.not_mem_nil, or_false] at inRound
    rcases inRound with rfl | rfl
    · exact ok
    · trivial
  · simp only [List.mem_cons, List.not_mem_nil, or_false] at inLast
    rcases inLast with rfl | rfl | rfl | rfl | rfl
    · exact ok
    · exact ok
    · exact ok
    · exact ok
    · trivial

end Overrun

theorem utf8ByteSize_replicate (n : Nat) :
    (String.ofList (List.replicate n 'x')).utf8ByteSize = n := by
  induction n with
  | zero => rfl
  | succ n ih =>
      rw [List.replicate_succ, String.ofList_cons, String.utf8ByteSize_append, ih,
        String.utf8ByteSize_singleton]
      exact Nat.add_comm 1 n

/-- A text that takes half of the session's byte credit, newline included. -/
@[irreducible] def halfCredit (_ : Nat) : String := String.ofList (List.replicate 524287 'x')

theorem size_halfCredit (sequence : Nat) : Text.size (halfCredit sequence) = 524287 := by
  unfold halfCredit
  exact utf8ByteSize_replicate 524287

/-- Where the byte counter ends, a report stays waiting with nothing outstanding. -/
theorem run_unblocked_exhausted :
    Accepting record ∧
      (∀ c ∈ overrun halfCredit 524288 35184372088829,
        c.Encodes fun _ _ encode => Measured encode) ∧
      (run record { sink := [] } (overrun halfCredit 524288 35184372088829)).queued.length = 1 ∧
      (run record { sink := [] } (overrun halfCredit 524288 35184372088829)).outstanding = [] := by
  have measured : Measured halfCredit := by
    refine ⟨fun sequence _ => ?_, fun sequence _ => ?_⟩
    · rw [size_halfCredit]
      decide
    · rw [size_halfCredit, size_halfCredit]
  have sized : ∀ sequence, Text.size (halfCredit sequence) + 1 = 524288 :=
    fun sequence => by rw [size_halfCredit]
  exact ⟨fun _ _ => rfl, overrun_encodes measured _,
    run_overrun (fun _ _ => rfl) _ sized (by decide) (by decide) _ (by decide) (by decide)⟩

end WotexMatter.Native.ReportCreditManager
