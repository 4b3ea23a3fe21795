/-
# WotexMatter.Native.ReportCreditCalls -- what a call to the credit account can do

Every call is a sequence of six state changes: a stream is `added`, a frame is
written straight away (`sent`), a frame is `enqueued`, the queue's head is
forwarded (`dequeue` then `transmitted`), a stream is `retired`, the outstanding
prefix is `acknowledged`.  A call fails either before any of them, or because
`transmit_` refused a text, or because `Drain` took a frame off the queue that it
could not number or count.

`Keeps` collects what an invariant must do at each of these points, and
`submit_keeps`, `drain_keeps`, `acknowledge_keeps`, `retire_keeps` and
`beginRecovery_keeps` carry it through the calls.  An invariant proved this way
never unfolds a call.
-/
import WotexMatter.Native.ReportCreditInvariant

set_option autoImplicit false

namespace WotexMatter.Native.ReportCreditManager

open WotexMatter.Theory

variable {σ T : Type} [Text T] {transmit : σ → T → Bool × σ} {s : ReportCreditManager σ T}

/-! ## Writing one frame -/

/-- The tests of `TransmitFrame` before it writes. -/
structure Ready (s : ReportCreditManager σ T) (stream : Stream) (frame : Frame T)
    (cumulative : Nat) : Prop where
  found : s.streams.lookup frame.key = some stream
  live : stream.live = true
  numbered : s.nextSequence ≠ maxU64
  nonempty : 0 < Text.size (frame.encode s.nextSequence)
  small : Text.size (frame.encode s.nextSequence) < kSessionByteCredit
  counted : cumulative =
    s.cumulativeTransmittedBytes + (Text.size (frame.encode s.nextSequence) + 1)
  countable : cumulative ≤ maxU64

/-- Why `TransmitFrame` returned false, with the sink it left. -/
inductive Refuses (transmit : σ → T → Bool × σ) (s : ReportCreditManager σ T) (frame : Frame T) :
    σ → Prop where
  | unready (never : ∀ stream cumulative, ¬ Ready s stream frame cumulative) :
      Refuses transmit s frame s.sink
  | unwritten {sink : σ}
      (refused : transmit s.sink (frame.encode s.nextSequence) = (false, sink)) :
      Refuses transmit s frame sink

theorem transmitFrame_cases (transmit : σ → T → Bool × σ) (s : ReportCreditManager σ T)
    (frame : Frame T) :
    (∃ stream cumulative sink, Ready s stream frame cumulative ∧
      transmit s.sink (frame.encode s.nextSequence) = (true, sink) ∧
      s.transmitFrame transmit frame = (true, s.transmitted stream frame cumulative sink)) ∨
    (∃ sink, Refuses transmit s frame sink ∧
      s.transmitFrame transmit frame = (false, { s with sink })) := by
  unfold transmitFrame
  split
  · rename_i unknown
    refine Or.inr ⟨s.sink, .unready fun stream _ ready => ?_, rfl⟩
    exact absurd ready.found (by simp [unknown])
  · rename_i stream found
    have same : ∀ {stream'}, s.streams.lookup frame.key = some stream' → stream' = stream :=
      fun found' => Option.some.inj (found'.symm.trans found)
    dsimp only
    split
    · rename_i closed
      refine Or.inr ⟨s.sink, .unready fun stream' _ ready => ?_, rfl⟩
      obtain rfl := same ready.found
      rcases closed with isDead | last
      · simp [ready.live] at isDead
      · exact ready.numbered last
    · rename_i closed
      push Not at closed
      split
      · rename_i unsized
        refine Or.inr ⟨s.sink, .unready fun _ _ ready => ?_, rfl⟩
        have := ready.nonempty
        have := ready.small
        omega
      · rename_i unsized
        push Not at unsized
        unfold nextReportByteCount
        split
        · rename_i uncounted
          refine Or.inr ⟨s.sink, .unready fun _ _ ready => ?_, rfl⟩
          have := ready.counted
          have := ready.countable
          split at uncounted
          · omega
          · cases uncounted
        · rename_i cumulative counted
          split at counted
          · cases counted
          · rename_i fits
            cases sent : transmit s.sink (frame.encode s.nextSequence) with
            | mk accepted sink =>
                cases accepted with
                | true =>
                    refine Or.inl ⟨stream, cumulative, sink, ?_, rfl, by simp⟩
                    have total := Option.some.inj counted
                    exact
                      { found
                        live := by simpa using closed.1
                        numbered := closed.2
                        nonempty := Nat.pos_of_ne_zero unsized.1
                        small := unsized.2
                        counted := total.symm
                        countable := by
                          unfold maxU64 at fits ⊢
                          omega }
                | false => exact Or.inr ⟨sink, .unwritten sent, by simp⟩

/-! ## The sink is touched only by `transmit_` -/

section Sink

variable {R : σ → Prop} (preserves : ∀ sink text, R sink → R (transmit sink text).2)

include preserves

theorem transmitFrame_sink (frame : Frame T) (holds : R s.sink) :
    R (s.transmitFrame transmit frame).2.sink := by
  rcases transmitFrame_cases transmit s frame with
    ⟨stream, cumulative, sink, -, written, result⟩ | ⟨sink, refuses, result⟩
  · have := preserves s.sink (frame.encode s.nextSequence) holds
    rw [written] at this
    rw [result]
    exact this
  · rw [result]
    cases refuses with
    | unready never => exact holds
    | unwritten refused =>
        have := preserves s.sink (frame.encode s.nextSequence) holds
        rw [refused] at this
        exact this

theorem drainLoop_sink (frames : List (Frame T)) :
    ∀ {s : ReportCreditManager σ T}, R s.sink → R (drainLoop transmit frames s).2.sink := by
  induction frames with
  | nil => exact fun holds => holds
  | cons pending rest ih =>
      intro s holds
      rw [drainLoop]
      split
      · exact ih holds
      · rename_i stream _
        split
        · dsimp only
          split
          · exact ih (transmitFrame_sink preserves (s := s.dequeue stream pending rest) pending
              holds)
          · exact transmitFrame_sink preserves (s := s.dequeue stream pending rest) pending holds
        · exact holds

theorem retire_sink (subscriptionId : String) (generation : Nat) (barrier : T)
    (holds : R s.sink) : R (s.retire transmit subscriptionId generation barrier).2.sink := by
  unfold retire
  split
  · exact holds
  · rename_i stream _
    have marked : (s.retiring subscriptionId generation stream).sink = s.sink :=
      discardLoop_sink _ _ _ _
    have sent := preserves s.sink barrier holds
    dsimp only
    rw [marked]
    split
    · apply drainLoop_sink preserves
      unfold retired
      dsimp only
      split
      · exact sent
      · split <;> exact sent
    · exact sent

theorem acknowledge_sink (reportSequence acknowledgedBytes : Nat) (holds : R s.sink) :
    R (s.acknowledge transmit reportSequence acknowledgedBytes).2.sink := by
  have kept : ∀ (frames : List (Frame T)) (t : ReportCreditManager σ T),
      (acknowledgeLoop reportSequence frames t).sink = t.sink := by
    intro frames
    induction frames with
    | nil => exact fun _ => rfl
    | cons frame rest ih =>
        intro t
        rw [acknowledgeLoop]
        split
        · rw [ih]
          unfold releaseFrame
          dsimp only
          split
          · rfl
          · split
            · split <;> rfl
            · rfl
        · rfl
  unfold acknowledge
  split
  · exact holds
  · split
    · exact holds
    · split
      · exact holds
      · apply drainLoop_sink preserves
        change R (acknowledgeLoop reportSequence s.outstanding s).sink
        rw [kept]
        exact holds

end Sink

/-! ## Submitting one report -/

/-- The frame `Submit` builds for a report. -/
def reportFrame (s : ReportCreditManager σ T) (subscriptionId : String) (generation : Nat)
    (encode : Nat → T) : Frame T :=
  { subscriptionId, generation, sequence := s.nextSequence, encoded := encode s.nextSequence,
    encode, cumulativeBytes := 0 }

/-- The same frame as it waits: unnumbered, measured at the largest sequence number. -/
def waitingFrame (subscriptionId : String) (generation : Nat) (encode : Nat → T) : Frame T :=
  { subscriptionId, generation, sequence := 0, encoded := encode maxU64, encode,
    cumulativeBytes := 0 }

/-- The state after `Submit` wrote its report. -/
@[simps streams queued outstanding nextSequence cumulativeTransmittedBytes acknowledgedSequence
  acknowledgedBytes queuedBytes outstandingBytes sink events wrapped]
def sent (s : ReportCreditManager σ T) (stream : Stream) (frame : Frame T) (cumulative : Nat)
    (sink : σ) : ReportCreditManager σ T :=
  { s.transmitted stream frame cumulative sink with
    events := (s.transmitted stream frame cumulative sink).events ++
      [.accepted frame.subscriptionId frame.generation frame.encode] }

/-- A report that `Submit` may write or queue, and the credit it would take. -/
structure Submits (s : ReportCreditManager σ T) (stream : Stream) (subscriptionId : String)
    (generation : Nat) (encode : Nat → T) : Prop where
  found : s.streams.lookup (key subscriptionId generation) = some stream
  live : stream.live = true
  numbered : s.nextSequence ≠ maxU64
  nonempty : 0 < Text.size (encode s.nextSequence)
  small : Text.size (encode s.nextSequence) < kSessionByteCredit

/-- `CanTransmit` for the report at the next sequence number. -/
def fits (s : ReportCreditManager σ T) (stream : Stream) (encode : Nat → T) : Bool :=
  s.canTransmit stream (Text.size (encode s.nextSequence) + 1)

theorem submit_cases (transmit : σ → T → Bool × σ) (s : ReportCreditManager σ T)
    (subscriptionId : String) (generation : Nat) (encode : Nat → T) :
    (s.submit transmit subscriptionId generation encode = (.invalid, s) ∧
      ((s.stream? subscriptionId generation).any (fun stream => stream.live) = false ∨
        s.nextSequence = maxU64)) ∨
    (s.submit transmit subscriptionId generation encode = (.streamOverflow, s) ∧
      ∀ stream, Submits s stream subscriptionId generation encode →
        (s.fits stream encode = false ∨ s.queued ≠ []) ∧
          ¬ HasRoom s stream (waitingFrame subscriptionId generation encode)) ∨
    (∃ stream, Submits s stream subscriptionId generation encode ∧
      s.fits stream encode = true ∧ s.queued = [] ∧
      ((∃ cumulative sink,
        Ready s stream (s.reportFrame subscriptionId generation encode) cumulative ∧
        transmit s.sink (encode s.nextSequence) = (true, sink) ∧
        s.submit transmit subscriptionId generation encode =
          (.transmitted,
            s.sent stream (s.reportFrame subscriptionId generation encode) cumulative sink)) ∨
      (∃ sink, Refuses transmit s (s.reportFrame subscriptionId generation encode) sink ∧
        s.submit transmit subscriptionId generation encode = (.invalid, { s with sink })))) ∨
    (∃ stream, Submits s stream subscriptionId generation encode ∧
      (s.fits stream encode = false ∨ s.queued ≠ []) ∧
      HasRoom s stream (waitingFrame subscriptionId generation encode) ∧
      s.submit transmit subscriptionId generation encode =
        (.queued, s.enqueued stream (waitingFrame subscriptionId generation encode))) := by
  unfold submit
  split
  · rename_i unknown
    exact Or.inl ⟨rfl, Or.inl (by simp [unknown])⟩
  · rename_i stream found
    dsimp only
    split
    · rename_i closed
      refine Or.inl ⟨rfl, ?_⟩
      rcases closed with isDead | last
      · exact Or.inl (by simpa [found] using isDead)
      · exact Or.inr last
    · rename_i closed
      push Not at closed
      split
      · rename_i unsized
        refine Or.inr (Or.inl ⟨rfl, fun _ submits => absurd unsized ?_⟩)
        have nonempty := submits.nonempty
        have small := submits.small
        omega
      · rename_i unsized
        push Not at unsized
        have submits : Submits s stream subscriptionId generation encode :=
          { found
            live := by simpa using closed.1
            numbered := closed.2
            nonempty := Nat.pos_of_ne_zero unsized.1
            small := unsized.2 }
        split
        · rename_i direct
          refine Or.inr (Or.inr (Or.inl ⟨stream, submits, direct.1, ?_, ?_⟩))
          · simpa using direct.2
          · rcases transmitFrame_cases transmit s (s.reportFrame subscriptionId generation encode)
              with ⟨stream', cumulative, sink, ready, written, result⟩ | ⟨sink, refuses, result⟩
            · obtain rfl : stream' = stream := Option.some.inj (ready.found.symm.trans found)
              refine Or.inl ⟨cumulative, sink, ready, written, ?_⟩
              unfold reportFrame at result
              rw [result]
              rfl
            · refine Or.inr ⟨sink, refuses, ?_⟩
              unfold reportFrame at result
              rw [result]
              rfl
        · rename_i indirect
          have waits : s.fits stream encode = false ∨ s.queued ≠ [] := by
            rw [not_and_or] at indirect
            rcases indirect with unfit | waiting
            · exact Or.inl (by simpa [fits] using unfit)
            · exact Or.inr (by simpa using waiting)
          split
          · rename_i full
            refine Or.inr (Or.inl ⟨rfl, fun stream' submits' => ?_⟩)
            obtain rfl : stream = stream' :=
              Option.some.inj (submits.found.symm.trans submits'.found)
            refine ⟨waits, fun room => absurd full ?_⟩
            have bytes := room.bytes_le
            simp only [Frame.bytes, waitingFrame] at bytes
            exact not_or.2 ⟨Nat.not_le.2 room.frames_lt, not_or.2 ⟨by omega, not_or.2
              ⟨by omega, Nat.not_le.2 room.share_lt⟩⟩⟩
          · rename_i full
            push Not at full
            refine Or.inr (Or.inr (Or.inr ⟨stream, submits, waits, ?_, rfl⟩))
            · obtain ⟨frames, held, room, share⟩ := full
              refine ⟨frames, ?_, share⟩
              simp only [Frame.bytes, waitingFrame]
              omega

/-! ## Forwarding the queue -/

/-- The state after the queue's head was taken off and written. -/
@[simps! streams queued outstanding nextSequence cumulativeTransmittedBytes acknowledgedSequence
  acknowledgedBytes queuedBytes outstandingBytes sink events]
def forwarded (s : ReportCreditManager σ T) (stream : Stream) (pending : Frame T)
    (rest : List (Frame T)) (cumulative : Nat) (sink : σ) : ReportCreditManager σ T :=
  (s.dequeue stream pending rest).transmitted { stream with queued := subSize stream.queued 1 }
    pending cumulative sink

/-- `Drain` is about to take `pending` off the queue. -/
structure Forwards (s : ReportCreditManager σ T) (stream : Stream) (pending : Frame T)
    (rest : List (Frame T)) : Prop where
  head : s.queued = pending :: rest
  found : s.streams.lookup pending.key = some stream
  live : stream.live = true
  fits : s.fits stream pending.encode = true

theorem forwarded_accounted (books : Accounted s) {stream : Stream} {pending : Frame T}
    {rest : List (Frame T)} (forwards : Forwards s stream pending rest) (cumulative : Nat)
    (sink : σ) : Accounted (s.forwarded stream pending rest cumulative sink) := by
  apply transmitted_accounted (dequeue_accounted books forwards.head forwards.found forwards.live)
    (Table.lookup_insert_self _ _ _)
  have room := forwards.fits
  simp only [fits, canTransmit, dequeue_outstanding, dequeue_outstandingBytes,
    dequeue_nextSequence] at room ⊢
  exact room

/-- The queue's head, if there is one, cannot be sent now. -/
def HeadBlocked (s : ReportCreditManager σ T) : Prop :=
  ∀ pending ∈ s.queued.head?, ∀ stream, s.streams.lookup pending.key = some stream →
    s.fits stream pending.encode = false

/-! ## Invariants of the calls -/

/-- What an invariant `I` must do where `Drain` forwards the queue's head, and what is
left of it (`J`) where the head is taken off and cannot be written. -/
structure KeepsForward (transmit : σ → T → Bool × σ) (I J : ReportCreditManager σ T → Prop) :
    Prop where
  forwarded : ∀ {s stream pending rest cumulative sink}, Accounted s → I s →
    Forwards s stream pending rest →
    Ready (s.dequeue stream pending rest) { stream with queued := subSize stream.queued 1 }
      pending cumulative →
    transmit s.sink (pending.encode s.nextSequence) = (true, sink) →
    I (s.forwarded stream pending rest cumulative sink)
  lost : ∀ {s stream pending rest sink}, Accounted s → I s → Forwards s stream pending rest →
    Refuses transmit (s.dequeue stream pending rest) pending sink →
    J { s.dequeue stream pending rest with sink }

/-- The same for every other state change.  `okEncode` and `okBarrier` restrict the
reports that are submitted and the barriers that are handed over. -/
structure Keeps (transmit : σ → T → Bool × σ) (okEncode : String → Nat → (Nat → T) → Prop)
    (okBarrier : ReportCreditManager σ T → String → Nat → T → Prop)
    (I J : ReportCreditManager σ T → Prop) : Prop extends KeepsForward transmit I J where
  added : ∀ {s subscriptionId generation queueLimit}, Accounted s → I s →
    Admits s subscriptionId generation queueLimit →
    I (s.added subscriptionId generation queueLimit)
  sent : ∀ {s stream subscriptionId generation encode cumulative sink}, Accounted s → I s →
    okEncode subscriptionId generation encode →
    Submits s stream subscriptionId generation encode → s.fits stream encode = true →
    s.queued = [] → Ready s stream (s.reportFrame subscriptionId generation encode) cumulative →
    transmit s.sink (encode s.nextSequence) = (true, sink) →
    I (s.sent stream (s.reportFrame subscriptionId generation encode) cumulative sink)
  enqueued : ∀ {s stream subscriptionId generation encode}, Accounted s → I s →
    okEncode subscriptionId generation encode →
    Submits s stream subscriptionId generation encode →
    (s.fits stream encode = false ∨ s.queued ≠ []) →
    HasRoom s stream (waitingFrame subscriptionId generation encode) →
    I (s.enqueued stream (waitingFrame subscriptionId generation encode))
  retired : ∀ {s subscriptionId generation stream barrier sink}, Accounted s → I s →
    okBarrier s subscriptionId generation barrier →
    s.streams.lookup (key subscriptionId generation) = some stream → stream.live = true →
    transmit s.sink barrier = (true, sink) →
    I (s.retired subscriptionId generation stream barrier sink)
  released : ∀ {s front target rest}, Accounted s → I s →
    s.outstanding = front ++ target :: rest →
    target.sequence = s.acknowledgedSequence + 1 + front.length → I (s.released target rest)
  weaken : ∀ {s}, Accounted s → I s → J s
  refused : ∀ {s text sink}, Accounted s → I s → transmit s.sink text = (false, sink) →
    J { s with sink }
  unbarred : ∀ {s subscriptionId generation stream barrier sink}, Accounted s → I s →
    okBarrier s subscriptionId generation barrier →
    s.streams.lookup (key subscriptionId generation) = some stream → stream.live = true →
    transmit s.sink barrier = (false, sink) →
    J { s.retiring subscriptionId generation stream with sink }

/-- Two invariants that are kept are kept together. -/
theorem Keeps.and {okEncode : String → Nat → (Nat → T) → Prop}
    {okBarrier : ReportCreditManager σ T → String → Nat → T → Prop}
    {I I' J J' : ReportCreditManager σ T → Prop} (left : Keeps transmit okEncode okBarrier I J)
    (right : Keeps transmit okEncode okBarrier I' J') :
    Keeps transmit okEncode okBarrier (fun s => I s ∧ I' s) (fun s => J s ∧ J' s) where
  forwarded := fun books inv forwards ready written =>
    ⟨left.forwarded books inv.1 forwards ready written,
      right.forwarded books inv.2 forwards ready written⟩
  lost := fun books inv forwards refuses =>
    ⟨left.lost books inv.1 forwards refuses, right.lost books inv.2 forwards refuses⟩
  added := fun books inv admits =>
    ⟨left.added books inv.1 admits, right.added books inv.2 admits⟩
  sent := fun books inv ok submits fits empty ready written =>
    ⟨left.sent books inv.1 ok submits fits empty ready written,
      right.sent books inv.2 ok submits fits empty ready written⟩
  enqueued := fun books inv ok submits waits room =>
    ⟨left.enqueued books inv.1 ok submits waits room,
      right.enqueued books inv.2 ok submits waits room⟩
  retired := fun books inv ok found live written =>
    ⟨left.retired books inv.1 ok found live written,
      right.retired books inv.2 ok found live written⟩
  released := fun books inv split here =>
    ⟨left.released books inv.1 split here, right.released books inv.2 split here⟩
  weaken := fun books inv => ⟨left.weaken books inv.1, right.weaken books inv.2⟩
  refused := fun books inv refused =>
    ⟨left.refused books inv.1 refused, right.refused books inv.2 refused⟩
  unbarred := fun books inv ok found live refused =>
    ⟨left.unbarred books inv.1 ok found live refused,
      right.unbarred books inv.2 ok found live refused⟩

/-- Fewer reports to submit. -/
theorem Keeps.restrict {okEncode okEncode' : String → Nat → (Nat → T) → Prop}
    {okBarrier : ReportCreditManager σ T → String → Nat → T → Prop}
    {I J : ReportCreditManager σ T → Prop} (keeps : Keeps transmit okEncode okBarrier I J)
    (stronger : ∀ {subscriptionId generation encode},
      okEncode' subscriptionId generation encode → okEncode subscriptionId generation encode) :
    Keeps transmit okEncode' okBarrier I J :=
  { keeps with
    sent := fun books inv ok => keeps.sent books inv (stronger ok)
    enqueued := fun books inv ok => keeps.enqueued books inv (stronger ok) }

theorem Keeps.mono {okEncode : String → Nat → (Nat → T) → Prop}
    {okBarrier : ReportCreditManager σ T → String → Nat → T → Prop}
    {I J J' : ReportCreditManager σ T → Prop} (keeps : Keeps transmit okEncode okBarrier I J)
    (weaker : ∀ {s}, J s → J' s) : Keeps transmit okEncode okBarrier I J' :=
  { keeps with
    lost := fun books inv forwards refuses => weaker (keeps.lost books inv forwards refuses)
    weaken := fun books inv => weaker (keeps.weaken books inv)
    refused := fun books inv refused => weaker (keeps.refused books inv refused)
    unbarred := fun books inv ok found live refused =>
      weaker (keeps.unbarred books inv ok found live refused) }

/-- A call that returned true kept the books and the invariant. -/
def Outcome (I J : ReportCreditManager σ T → Prop) (result : Bool × ReportCreditManager σ T) :
    Prop :=
  if result.1 then Accounted result.2 ∧ I result.2 else J result.2

section Calls

variable {okEncode : String → Nat → (Nat → T) → Prop}
  {okBarrier : ReportCreditManager σ T → String → Nat → T → Prop}
  {I J : ReportCreditManager σ T → Prop}

theorem addStream_keeps (keeps : Keeps transmit okEncode okBarrier I J) (books : Accounted s)
    (inv : I s) (subscriptionId : String) (generation queueLimit : Nat) :
    Outcome I J (s.addStream subscriptionId generation queueLimit) := by
  rcases addStream_cases s subscriptionId generation queueLimit with refused | ⟨admits, result⟩
  · rw [refused]
    exact keeps.weaken books inv
  · rw [result]
    exact ⟨added_accounted books admits, keeps.added books inv admits⟩

theorem submit_keeps (keeps : Keeps transmit okEncode okBarrier I J) (books : Accounted s)
    (inv : I s) {subscriptionId : String} {generation : Nat} {encode : Nat → T}
    (ok : okEncode subscriptionId generation encode) :
    Outcome I J ((s.submit transmit subscriptionId generation encode).1 != .invalid,
      (s.submit transmit subscriptionId generation encode).2) := by
  rcases submit_cases transmit s subscriptionId generation encode with
    ⟨result, -⟩ | ⟨result, -⟩ | ⟨stream, submits, fits, empty, written⟩ |
    ⟨stream, submits, waits, room, result⟩
  · rw [result]
    exact keeps.weaken books inv
  · rw [result]
    exact ⟨books, inv⟩
  · rcases written with ⟨cumulative, sink, ready, accepted, result⟩ | ⟨sink, refuses, result⟩
    · rw [result]
      refine ⟨?_, keeps.sent books inv ok submits fits empty ready accepted⟩
      have balanced := transmitted_accounted books ready.found fits cumulative sink
      exact ⟨balanced.numbered, balanced.reserved, balanced.tabled, balanced.unwrapped⟩
    · rw [result]
      cases refuses with
      | unready never => exact keeps.weaken books inv
      | unwritten refused => exact keeps.refused books inv refused
  · rw [result]
    exact ⟨enqueued_accounted books submits.found submits.live room,
      keeps.enqueued books inv ok submits waits room⟩

theorem drainLoop_keeps (keeps : KeepsForward transmit I J) (frames : List (Frame T)) :
    ∀ {s : ReportCreditManager σ T}, Accounted s → I s → s.queued = frames →
      Outcome (fun s' => I s' ∧ HeadBlocked s') J (drainLoop transmit frames s) := by
  induction frames with
  | nil =>
      intro s books inv empty
      refine ⟨books, inv, ?_⟩
      intro pending head
      rw [drainLoop, empty] at head
      cases head
  | cons pending rest ih =>
      intro s books inv head
      obtain ⟨stream, found, live⟩ := books.tabled.queued_live pending (by rw [head]; simp)
      have alive : (s.streams.lookup pending.key).filter (fun stream => stream.live) =
          some stream := by
        rw [found, Option.filter_some, if_pos live]
      simp only [drainLoop, alive]
      split
      · rename_i fits
        have forwards : Forwards s stream pending rest := ⟨head, found, live, fits⟩
        rcases transmitFrame_cases transmit (s.dequeue stream pending rest) pending with
          ⟨stream', cumulative, sink, ready, written, result⟩ | ⟨sink, refuses, result⟩
        · obtain rfl : { stream with queued := subSize stream.queued 1 } = stream' :=
            Option.some.inj ((Table.lookup_insert_self _ _ _).symm.trans ready.found)
          rw [result, if_pos rfl]
          exact ih (forwarded_accounted books forwards cumulative sink)
            (keeps.forwarded books inv forwards ready written) rfl
        · rw [result, if_neg (by simp)]
          exact keeps.lost books inv forwards refuses
      · rename_i unfit
        refine ⟨books, inv, ?_⟩
        intro pending' head' stream' found'
        rw [head, List.head?_cons, Option.mem_some_iff] at head'
        subst head'
        obtain rfl := Option.some.inj (found'.symm.trans found)
        simpa [ReportCreditManager.fits] using unfit

theorem drain_keeps (keeps : KeepsForward transmit I J) (books : Accounted s) (inv : I s) :
    Outcome (fun s' => I s' ∧ HeadBlocked s') J (s.drain transmit) :=
  drainLoop_keeps keeps s.queued books inv rfl

theorem acknowledge_cases (transmit : σ → T → Bool × σ) (books : Accounted s)
    (reportSequence acknowledgedBytes : Nat) :
    s.acknowledge transmit reportSequence acknowledgedBytes = (false, s) ∨
    ∃ front target rest, s.outstanding = front ++ target :: rest ∧
      target.sequence = s.acknowledgedSequence + 1 + front.length ∧
      target.sequence = reportSequence ∧ target.cumulativeBytes = acknowledgedBytes ∧
      Accounted (s.released target rest) ∧
      s.acknowledge transmit reportSequence acknowledgedBytes =
        (s.released target rest).drain transmit := by
  unfold acknowledge
  split
  · exact Or.inl rfl
  · split
    · exact Or.inl rfl
    · rename_i target found
      split
      · exact Or.inl rfl
      · rename_i exact
        push Not at exact
        have sequence : target.sequence = reportSequence := by
          simpa using List.find?_some found
        obtain ⟨front, rest, split, here, equation, balanced⟩ :=
          acknowledged_eq books (List.mem_of_find?_eq_some found)
        rw [sequence, exact] at equation
        exact Or.inr ⟨front, target, rest, split, here, sequence, exact, balanced,
          by rw [equation]⟩

/-- An acknowledgement that names an outstanding frame and its byte count is taken. -/
theorem acknowledge_accepts (transmit : σ → T → Bool × σ) (books : Accounted s)
    {target : Frame T} (member : target ∈ s.outstanding) :
    ∃ front rest, s.outstanding = front ++ target :: rest ∧
      target.sequence = s.acknowledgedSequence + 1 + front.length ∧
      Accounted (s.released target rest) ∧
      s.acknowledge transmit target.sequence target.cumulativeBytes =
        (s.released target rest).drain transmit := by
  obtain ⟨front, rest, split, here, equation, balanced⟩ := acknowledged_eq books member
  refine ⟨front, rest, split, here, balanced, ?_⟩
  have consecutive := books.numbered.consecutive
  rw [split, List.length_append, ← List.range'_append_1, List.map_append] at consecutive
  have before := (List.append_inj consecutive (by simp)).1
  have earlier : front.find? (fun frame => frame.sequence == target.sequence) = none := by
    rw [List.find?_eq_none]
    intro frame inFront
    have numbered : frame.sequence ∈ List.range' (s.acknowledgedSequence + 1) front.length :=
      before ▸ List.mem_map_of_mem inFront
    rw [List.mem_range'_1] at numbered
    simp only [beq_iff_eq]
    omega
  have hit : s.outstanding.find? (fun frame => frame.sequence == target.sequence) =
      some target := by
    rw [split, List.find?_append, earlier, Option.none_or, List.find?_cons_of_pos (by simp)]
  have nonempty : s.outstanding.isEmpty = false := by
    rw [split]
    simp
  unfold acknowledge
  rw [if_neg (by rw [nonempty]; simp; omega), hit]
  dsimp only
  rw [if_neg (by simp), equation]

theorem acknowledge_keeps (keeps : Keeps transmit okEncode okBarrier I J) (books : Accounted s)
    (inv : I s) (reportSequence acknowledgedBytes : Nat) :
    Outcome (fun s' => I s' ∧ HeadBlocked s') J
      (s.acknowledge transmit reportSequence acknowledgedBytes) := by
  rcases acknowledge_cases transmit books reportSequence acknowledgedBytes with
    refused | ⟨front, target, rest, split, here, -, -, balanced, result⟩
  · rw [refused]
    exact keeps.weaken books inv
  · rw [result]
    exact drain_keeps keeps.toKeepsForward balanced (keeps.released books inv split here)

theorem retired_books (books : Accounted s) {subscriptionId : String} {generation : Nat}
    {stream : Stream} (found : s.streams.lookup (key subscriptionId generation) = some stream)
    (barrier : T) (sink : σ) :
    Accounted (s.retired subscriptionId generation stream barrier sink) := by
  have balanced := retired_accounted books found barrier sink
  have same : (s.retired subscriptionId generation stream barrier sink).acknowledgedSequence =
      s.acknowledgedSequence := by
    rw [retired_eq books found]
  rw [Accounted, same]
  exact balanced

theorem retire_cases (transmit : σ → T → Bool × σ) (s : ReportCreditManager σ T)
    (subscriptionId : String) (generation : Nat) (barrier : T) :
    (s.retire transmit subscriptionId generation barrier = (false, s) ∧
      s.isLive subscriptionId generation = false) ∨
    ∃ stream, s.streams.lookup (key subscriptionId generation) = some stream ∧
      stream.live = true ∧
      ((∃ sink, transmit s.sink barrier = (true, sink) ∧
        s.retire transmit subscriptionId generation barrier =
          (s.retired subscriptionId generation stream barrier sink).drain transmit) ∨
      (∃ sink, transmit s.sink barrier = (false, sink) ∧
        s.retire transmit subscriptionId generation barrier =
          (false, { s.retiring subscriptionId generation stream with sink }))) := by
  have sink : ∀ stream, (s.retiring subscriptionId generation stream).sink = s.sink := by
    intro stream
    unfold retiring
    exact discardLoop_sink _ _ _ _
  unfold retire
  split
  · rename_i gone
    refine Or.inl ⟨rfl, ?_⟩
    unfold isLive
    cases found : s.stream? subscriptionId generation <;> simp_all [Option.filter]
  · rename_i stream found
    rw [Option.filter_eq_some_iff] at found
    refine Or.inr ⟨stream, found.1, found.2, ?_⟩
    dsimp only
    rw [sink]
    cases sent : transmit s.sink barrier with
    | mk accepted sink =>
        cases accepted with
        | true => exact Or.inl ⟨sink, rfl, by simp⟩
        | false => exact Or.inr ⟨sink, rfl, by simp⟩

theorem retire_keeps (keeps : Keeps transmit okEncode okBarrier I J) (books : Accounted s)
    (inv : I s) {subscriptionId : String} {generation : Nat} {barrier : T}
    (ok : okBarrier s subscriptionId generation barrier) :
    Outcome (fun s' => I s' ∧ HeadBlocked s') J
      (s.retire transmit subscriptionId generation barrier) := by
  rcases retire_cases transmit s subscriptionId generation barrier with
    ⟨refused, -⟩ | ⟨stream, found, live, ⟨sink, written, result⟩ | ⟨sink, refused, result⟩⟩
  · rw [refused]
    exact keeps.weaken books inv
  · rw [result]
    exact drain_keeps keeps.toKeepsForward (retired_books books found barrier sink)
      (keeps.retired books inv ok found live written)
  · rw [result]
    exact keeps.unbarred books inv ok found live refused

theorem beginRecovery_keeps (keeps : Keeps transmit okEncode okBarrier I J) (books : Accounted s)
    (inv : I s) {subscriptionId : String} {previousGeneration : Nat} {barrier : T}
    (ok : okBarrier s subscriptionId previousGeneration barrier)
    (nextGeneration queueLimit : Nat) :
    Outcome I J (s.beginRecovery transmit subscriptionId previousGeneration nextGeneration
      queueLimit barrier) := by
  unfold beginRecovery
  split
  · exact keeps.weaken books inv
  · have previous := retire_keeps keeps books inv ok
    dsimp only
    split
    · rename_i succeeded
      rw [Outcome, if_pos succeeded] at previous
      exact addStream_keeps keeps previous.1 previous.2.1 _ _ _
    · rename_i failed
      rw [Outcome, if_neg failed] at previous
      exact previous

end Calls

end WotexMatter.Native.ReportCreditManager
