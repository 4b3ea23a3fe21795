/-
# WotexMatter.Session.HostAnswers -- only the dispatcher answers

The subscription events of the host are reports, errors, barriers and statuses.  None of
them is an answer to a request, so the answers on their way to the BEAM are those
`EnqueueReply` put there.
-/
import WotexMatter.Session.Joint
import WotexMatter.Native.AcknowledgeExact

set_option autoImplicit false
set_option linter.unusedSectionVars false

namespace WotexMatter.Session

open WotexMatter.Theory WotexMatter.Native WotexMatter.Beam
open WotexMatter.Native.ReportCreditManager WotexMatter.Beam.Connection

variable {P : Type}

abbrev Frames (P : Type) := List (HostFrame P InteractionError)

/-- The answers among the frames. -/
def answersOf (frames : Frames P) : List (String × Answer) := frames.filterMap answer?

theorem answersOf_append (front back : Frames P) :
    answersOf (front ++ back) = answersOf front ++ answersOf back := by
  simp [answersOf]

/-- An event that is written leaves the answers as they are. -/
theorem writeFrame_answers {sink sink' : Output (Frames P) (HostFrame P InteractionError)}
    {frame : HostFrame P InteractionError} (event : answer? frame = none)
    (written : writeFrame deliver sink frame = (true, sink')) :
    answersOf sink'.writer = answersOf sink.writer := by
  unfold writeFrame at written
  split at written
  · cases written
  · simp only [deliver, if_true] at written
    obtain ⟨-, rfl⟩ := Prod.mk.inj written
    simp [answersOf, event]

/-- Only a failed channel refuses a frame, and it keeps nothing of it. -/
theorem writeFrame_refused {sink sink' : Output (Frames P) (HostFrame P InteractionError)}
    {frame : HostFrame P InteractionError}
    (refused : writeFrame deliver sink frame = (false, sink')) : sink' = sink := by
  unfold writeFrame at refused
  split at refused
  · exact (Prod.mk.inj refused).2.symm
  · simp only [deliver, if_true] at refused
    cases refused

variable [Text (HostFrame P InteractionError)]

abbrev HostFlow (P : Type) := Flow (Output (Frames P) (HostFrame P InteractionError)) P
  InteractionError

def Answering (answers : List (String × Answer)) (s : HostFlow P) : Prop :=
  answersOf s.sink.writer = answers

theorem encodes_event {session subscriptionId : String} {generation : Nat}
    {encode : Nat → HostFrame P InteractionError}
    (encodes : EncodesReport session subscriptionId generation encode) (sequence : Nat) :
    answer? (encode sequence) = none := by
  obtain ⟨payload, rfl⟩ := encodes
  rfl

theorem answering_keeps (session : String) (answers : List (String × Answer)) :
    Keeps (writeFrame deliver) (EncodesReport session) (IsBarrier session)
      (fun s : HostFlow P => Encoded session s ∧ Answering answers s) (Answering answers) where
  forwarded := by
    rintro s stream pending rest cumulative sink - ⟨encoded, answering⟩ forwards - written
    have head := encoded pending (by rw [forwards.head]; simp)
    have tail : ∀ frame ∈ rest, frame ∈ s.queued :=
      fun frame member => by rw [forwards.head]; exact List.mem_cons_of_mem _ member
    refine ⟨fun frame member => encoded frame (tail frame member), ?_⟩
    rw [Answering, forwarded_sink, writeFrame_answers (encodes_event head _) written]
    exact answering
  lost := by
    rintro s stream pending rest sink - ⟨-, answering⟩ - refuses
    cases refuses with
    | unready never => exact answering
    | unwritten refused =>
        obtain rfl := writeFrame_refused refused
        exact answering
  added := by
    rintro s subscriptionId generation queueLimit - ⟨encoded, answering⟩ -
    exact ⟨encoded, answering⟩
  sent := by
    rintro s stream subscriptionId generation encode cumulative sink - ⟨encoded, answering⟩ encodes
      - - - - written
    refine ⟨encoded, ?_⟩
    rw [Answering, sent_sink, transmitted_sink, writeFrame_answers (encodes_event encodes _) written]
    exact answering
  enqueued := by
    rintro s stream subscriptionId generation encode - ⟨encoded, answering⟩ encodes - - -
    refine ⟨fun frame member => ?_, answering⟩
    rw [enqueued_queued, List.mem_append, List.mem_singleton] at member
    rcases member with before | rfl
    · exact encoded frame before
    · exact encodes
  retired := by
    rintro s subscriptionId generation stream _ sink books ⟨encoded, answering⟩ rfl found - written
    rw [retired_eq books found]
    refine ⟨fun frame member => encoded frame (List.mem_of_mem_filter member), ?_⟩
    exact (writeFrame_answers rfl written).trans answering
  released := fun _ inv _ _ => inv
  weaken := fun _ inv => inv.2
  refused := by
    rintro s text sink - ⟨-, answering⟩ refused
    obtain rfl := writeFrame_refused refused
    exact answering
  unbarred := by
    rintro s subscriptionId generation stream _ sink - ⟨-, answering⟩ - - - refused
    obtain rfl := writeFrame_refused refused
    exact answering

/-! ## The blocks of the host -/

abbrev Host (P : Type) := HostProtocol (Frames P) P

/-- The waiting reports of an open host are reports, and these are the answers it has sent. -/
structure HostSound (answers : List (String × Answer)) (h : Host P) : Prop where
  flow : h.healthy = true → h.state = .opened →
    Accounted h.flow ∧ Encoded h.sessionGeneration h.flow
  answers : Answering answers h.flow

variable {answers : List (String × Answer)} {h : Host P}

/-- A call of the account, successful or followed by the end of the channel or the host. -/
theorem answering_of_outcome {Q : HostFlow P → Prop}
    (parts : ∀ s, Q s → Encoded h.sessionGeneration s ∧ Answering answers s)
    {result : Bool × HostFlow P} (outcome : Outcome Q (Answering answers) result) :
    Answering answers result.2 ∧ (result.1 = true →
      Accounted result.2 ∧ Encoded h.sessionGeneration result.2) := by
  unfold Outcome at outcome
  split at outcome
  · exact ⟨(parts _ outcome.2).2, fun _ => ⟨outcome.1, (parts _ outcome.2).1⟩⟩
  · rename_i failed
    exact ⟨outcome, fun succeeded => absurd succeeded failed⟩

theorem accounted_wrote {s : HostFlow P} (books : Accounted s)
    (sink : Output (Frames P) (HostFrame P InteractionError))
    (events : List (FlowEvent (HostFrame P InteractionError))) :
    Accounted { s with sink, events } :=
  ⟨books.numbered, books.reserved, books.tabled, books.unwrapped⟩

omit [Text (HostFrame P InteractionError)] in
/-- A channel that takes a frame is healthy before and after. -/
theorem healthy_of_writeFrame {frame : HostFrame P InteractionError}
    {sink : Output (Frames P) (HostFrame P InteractionError)}
    (accepted : writeFrame deliver h.flow.sink frame = (true, sink)) :
    h.healthy = true ∧ sink.channelFailed = false := by
  unfold writeFrame at accepted
  split at accepted
  · cases accepted
  · rename_i healthy
    simp only [deliver, if_true] at accepted
    obtain ⟨-, rfl⟩ := Prod.mk.inj accepted
    exact ⟨by simpa [HostProtocol.healthy] using healthy, by simpa using healthy⟩

/-- An event the protocol writes itself. -/
theorem write_sound (sound : HostSound answers h) (frame : HostFrame P InteractionError)
    (event : answer? frame = none) :
    HostSound answers (h.write deliver frame).2 := by
  rcases HostProtocol.write_cases deliver h frame with ⟨sink, accepted, wrote⟩ | ⟨refused, down⟩
  · rw [wrote]
    refine ⟨fun up opened => ?_, (writeFrame_answers event accepted).trans sound.answers⟩
    obtain ⟨books, encoded⟩ := sound.flow (healthy_of_writeFrame accepted).1 opened
    exact ⟨accounted_wrote books _ _, encoded⟩
  · refine ⟨fun up => (by rw [down] at up; cases up), ?_⟩
    have same : (h.write deliver frame).2.flow.sink = h.flow.sink := by
      cases sent : writeFrame deliver h.flow.sink frame with
      | mk accepted sink =>
          cases accepted with
          | true => simp [HostProtocol.write, sent] at refused
          | false =>
              obtain rfl := writeFrame_refused sent
              simp [HostProtocol.write, sent]
    rw [Answering, same]
    exact sound.answers

theorem retireStream_answering (books : Accounted h.flow)
    (encoded : Encoded h.sessionGeneration h.flow) (answering : Answering answers h.flow)
    (subscriptionId : String) (generation : Nat) :
    Answering answers (h.retireStream deliver subscriptionId generation).2.flow ∧
      ((h.retireStream deliver subscriptionId generation).1 = true →
        Accounted (h.retireStream deliver subscriptionId generation).2.flow ∧
          Encoded h.sessionGeneration
            (h.retireStream deliver subscriptionId generation).2.flow) :=
  answering_of_outcome (fun _ => And.left)
    (retire_keeps (answering_keeps h.sessionGeneration answers) books ⟨encoded, answering⟩
      (IsBarrier.intro _ _ subscriptionId generation))

theorem failStream_sound (sound : HostSound answers h) (opened : h.state = .opened)
    (subscriptionId : String) (generation : Nat) (error : InteractionError) :
    HostSound answers (h.failStream deliver subscriptionId generation error) := by
  have told := write_sound sound
    (.error h.sessionGeneration subscriptionId generation error) rfl
  unfold HostProtocol.failStream
  dsimp only
  split
  · rename_i wrote
    rcases HostProtocol.write_cases deliver h (.error h.sessionGeneration subscriptionId generation
      error) with ⟨sink, accepted, result⟩ | ⟨refused, -⟩
    · rw [result] at told ⊢
      have up : HostProtocol.healthy ({ h with flow := { h.flow with
          sink, events := h.flow.events ++ [.wrote (.error h.sessionGeneration subscriptionId
            generation error)] } } : Host P) = true := by
        simp [HostProtocol.healthy, (healthy_of_writeFrame accepted).2]
      obtain ⟨books, encoded⟩ := told.flow up opened
      obtain ⟨answering, kept⟩ := retireStream_answering books encoded told.answers subscriptionId
        generation
      dsimp only
      split
      · rename_i retired
        exact ⟨fun _ _ => kept retired, answering⟩
      · exact ⟨fun up => (by cases up), answering⟩
    · rw [refused] at wrote
      cases wrote
  · exact told

theorem emitFailure_sound (sound : HostSound answers h) (subscriptionId : String)
    (generation : Nat) (error : InteractionError) :
    HostSound answers (h.emitFailure deliver subscriptionId generation error) := by
  unfold HostProtocol.emitFailure
  split
  · exact sound
  · rename_i guards
    push Not at guards
    exact failStream_sound sound guards.2.1 subscriptionId generation error

theorem emitReport_sound (sound : HostSound answers h) (report : SubscriptionReport P) :
    HostSound answers (h.emitReport deliver report).2 := by
  unfold HostProtocol.emitReport
  split
  · exact sound
  · rename_i guards
    push Not at guards
    obtain ⟨up, opened, live⟩ := guards
    simp only [ne_eq, Bool.not_eq_true', Bool.not_eq_false] at up live
    obtain ⟨books, encoded⟩ := sound.flow up opened
    have outcome := submit_keeps (answering_keeps h.sessionGeneration answers) books
      ⟨encoded, sound.answers⟩ (EncodesReport.intro h.sessionGeneration report.subscriptionId
        report.generation report.payload)
    obtain ⟨answering, kept⟩ := answering_of_outcome (h := h) (fun _ => id) outcome
    rcases submit_cases (writeFrame deliver) h.flow report.subscriptionId report.generation
        (reportEncoder h.sessionGeneration report.subscriptionId report.generation report.payload)
      with ⟨result, -⟩ | ⟨result, -⟩ |
        ⟨stream, -, -, -, ⟨_, _, -, -, result⟩ | ⟨sink, -, result⟩⟩ | ⟨stream, -, -, -, result⟩
    all_goals
      rw [result] at answering kept
      simp only [result]
    · exact ⟨fun up => (by cases up), answering⟩
    · exact failStream_sound sound opened _ _ _
    · exact ⟨fun _ _ => kept rfl, answering⟩
    · exact ⟨fun up => (by cases up), answering⟩
    · exact ⟨fun _ _ => kept rfl, answering⟩

theorem emitStatus_sound (sound : HostSound answers h) (status : SubscriptionStatus) :
    HostSound answers (h.emitStatus deliver status).2 := by
  unfold HostProtocol.emitStatus
  split
  · exact sound
  · rename_i guards
    push Not at guards
    obtain ⟨up, opened, -⟩ := guards
    split
    · exact sound
    · rename_i active _
      split
      · unfold HostProtocol.emitResubscribing
        dsimp only
        split
        · exact sound
        · have told := write_sound sound (.resubscribing h.sessionGeneration
            status.subscriptionId status.generation status.attempt) rfl
          rcases HostProtocol.write_cases deliver h (.resubscribing h.sessionGeneration
            status.subscriptionId status.generation status.attempt) with
            ⟨sink, accepted, result⟩ | ⟨refused, -⟩
          · rw [result] at told ⊢
            have healthy : HostProtocol.healthy ({ h with flow := { h.flow with
                sink, events := h.flow.events ++ [.wrote (.resubscribing h.sessionGeneration
                  status.subscriptionId status.generation status.attempt)] } } : Host P) = true := by
              simp [HostProtocol.healthy, (healthy_of_writeFrame accepted).2]
            obtain ⟨books, encoded⟩ := told.flow healthy opened
            have outcome := beginRecovery_keeps (answering_keeps h.sessionGeneration answers) books
              ⟨encoded, told.answers⟩
              (IsBarrier.intro _ _ status.subscriptionId active.generation)
              status.generation active.queueLimit
            obtain ⟨answering, kept⟩ := answering_of_outcome (h := h) (fun _ => id) outcome
            simp only [Bool.not_true, Bool.false_eq_true, if_false]
            split
            · split
              · rename_i moved
                exact ⟨fun _ _ => kept moved, answering⟩
              · exact ⟨fun up => (by cases up), answering⟩
            · exact ⟨fun _ _ => ⟨books, encoded⟩, told.answers⟩
          · simp only [refused, Bool.not_false, if_true]
            exact told
      · unfold HostProtocol.emitResubscribed
        dsimp only
        split
        · exact sound
        · have told := write_sound sound (.resubscribed h.sessionGeneration
            status.subscriptionId status.generation status.attempt status.minIntervalS
            status.maxIntervalS status.sdkSubscriptionId) rfl
          split
          · exact ⟨told.flow, told.answers⟩
          · exact told

theorem admitSubscription_sound (sound : HostSound answers h) (subscriptionId : String)
    (generation queueLimit : Nat) (resubscribe : Bool) :
    HostSound answers (h.admitSubscription subscriptionId generation queueLimit resubscribe).2 := by
  unfold HostProtocol.admitSubscription
  rcases addStream_cases h.flow subscriptionId generation queueLimit with
    refused | ⟨admits, result⟩
  · simp only [refused, Bool.false_eq_true, ↓reduceIte]
    exact sound
  · simp only [result, ↓reduceIte]
    refine ⟨fun up opened => ?_, sound.answers⟩
    obtain ⟨books, encoded⟩ := sound.flow up opened
    exact ⟨added_accounted books admits, encoded⟩

/-- A failed channel takes no barrier and keeps its frames. -/
theorem retireStream_failed (down : h.healthy = false) (subscriptionId : String)
    (generation : Nat) :
    (h.retireStream deliver subscriptionId generation).2.flow.sink = h.flow.sink := by
  have failed : h.flow.sink.channelFailed = true := by simpa [HostProtocol.healthy] using down
  refine retire_sink (R := fun sink => sink = h.flow.sink) ?_ subscriptionId generation _ rfl
  rintro sink text rfl
  simp [writeFrame, failed]

/-- The counters have room for the reports of other streams that wait for credit. -/
def hasRoom (h : Host P) (subscriptionId : String) (generation : Nat) : Bool :=
  h.flow.queued.all (fun frame => frame.key == key subscriptionId generation) ||
    (h.flow.nextSequence + (kSessionReportCredit - h.flow.outstanding.length) ≤ maxU64 &&
      h.flow.cumulativeTransmittedBytes + (kSessionByteCredit - h.flow.outstandingBytes) ≤ maxU64)

/-- A channel that is up takes every frame of the host. -/
theorem writeFrame_takes : Takes (writeFrame (deliver (P := P) (E := InteractionError)))
    fun sink => sink.channelFailed = false := by
  intro sink frame up
  simp [writeFrame, deliver, up]

/-- With room in the counters the barrier of a live stream is written. -/
theorem retireStream_succeeds
    (written : ∀ frame : HostFrame P InteractionError, 0 < Text.size frame)
    (books : Accounted h.flow) (up : h.healthy = true) {subscriptionId : String}
    {generation : Nat} (live : h.flow.isLive subscriptionId generation = true)
    (room : hasRoom h subscriptionId generation = true) :
    (h.retireStream deliver subscriptionId generation).1 = true := by
  have open' : h.flow.sink.channelFailed = false := by simpa [HostProtocol.healthy] using up
  simp only [HostProtocol.retireStream]
  rcases retire_cases (writeFrame deliver) h.flow subscriptionId generation
      (barrierFrame h.sessionGeneration h.flow subscriptionId generation) with
    ⟨-, dead⟩ | ⟨stream, found, alive, ⟨sink, taken, result⟩ | ⟨sink, refused, -⟩⟩
  · rw [live] at dead
    cases dead
  · have still := (writeFrame_takes h.flow.sink
      (barrierFrame h.sessionGeneration h.flow subscriptionId generation) open').2
    rw [taken] at still
    have balanced := retired_books books found
      (barrierFrame h.sessionGeneration h.flow subscriptionId generation) sink
    rw [result]
    simp only [hasRoom, Bool.or_eq_true, Bool.and_eq_true, decide_eq_true_eq] at room
    rcases room with alone | ⟨sequences, bytes⟩
    · have empty : (h.flow.retired subscriptionId generation stream
          (barrierFrame h.sessionGeneration h.flow subscriptionId generation) sink).queued = [] := by
        rw [retired_eq books found]
        refine List.filter_eq_nil_iff.2 fun frame member => ?_
        simpa using List.all_eq_true.1 alone frame member
      rw [drain, empty, drainLoop]
    · refine (ReportCreditManager.drain_succeeds writeFrame_takes ?_ balanced ?_ ?_).1
      · rw [retired_eq books found]
        exact still
      · rw [retired_eq books found]
        exact ⟨by dsimp only; omega, fun frame _ sequence _ => written _⟩
      · rw [retired_eq books found]
        exact ⟨sequences, bytes⟩
  · have taken := (writeFrame_takes h.flow.sink
      (barrierFrame h.sessionGeneration h.flow subscriptionId generation) open').1
    rw [refused] at taken
    cases taken

theorem unsubscribeRetire_sound (sound : HostSound answers h) (opened : h.state = .opened)
    (subscriptionId : String) (generation : Nat) :
    HostSound answers (h.unsubscribeRetire deliver subscriptionId generation).2 := by
  unfold HostProtocol.unsubscribeRetire
  split
  · cases up : h.healthy with
    | true =>
        obtain ⟨books, encoded⟩ := sound.flow up opened
        obtain ⟨answering, kept⟩ := retireStream_answering books encoded sound.answers
          subscriptionId generation
        dsimp only
        split
        · rename_i retired
          exact ⟨fun _ _ => kept retired, answering⟩
        · exact ⟨fun _ ended => (by cases ended), answering⟩
    | false =>
        have same := retireStream_failed up subscriptionId generation
        have answering : Answering answers (h.retireStream deliver subscriptionId
            generation).2.flow := by
          rw [Answering, same]
          exact sound.answers
        dsimp only
        split
        · refine ⟨fun up' => ?_, answering⟩
          rw [HostProtocol.healthy, same] at up'
          rw [HostProtocol.healthy, up'] at up
          cases up
        · exact ⟨fun _ ended => (by cases ended), answering⟩
  · exact ⟨fun _ ended => (by cases ended), sound.answers⟩

theorem reportAck_sound (sound : HostSound answers h) (up : h.healthy = true)
    (reportSequence acknowledgedBytes : Nat) :
    HostSound answers (h.reportAck deliver reportSequence acknowledgedBytes).2 := by
  unfold HostProtocol.reportAck
  split
  · exact sound
  · rename_i opened
    rw [ne_eq, not_not] at opened
    obtain ⟨books, encoded⟩ := sound.flow up opened
    obtain ⟨answering, kept⟩ := answering_of_outcome (h := h) (fun _ => And.left)
      (acknowledge_keeps (answering_keeps h.sessionGeneration answers) books
        ⟨encoded, sound.answers⟩ reportSequence acknowledgedBytes)
    dsimp only
    split
    · rename_i taken
      exact ⟨fun _ _ => kept taken, answering⟩
    · exact ⟨fun _ ended => (by cases ended), answering⟩

/-! ## The state of the host -/

/-- The SDK thread neither opens nor closes the host, and does not repair its channel. -/
structure Steady (h h' : Host P) : Prop where
  state : h'.state = h.state
  down : h.healthy = false → h'.healthy = false

theorem Steady.refl (h : Host P) : Steady h h := ⟨rfl, id⟩

theorem failStream_state (subscriptionId : String) (generation : Nat) (error : InteractionError) :
    (h.failStream deliver subscriptionId generation error).state = h.state := by
  unfold HostProtocol.failStream
  dsimp only
  split
  · split <;> rfl
  · rfl

theorem emitFailure_steady (subscriptionId : String) (generation : Nat)
    (error : InteractionError) :
    Steady h (h.emitFailure deliver subscriptionId generation error) := by
  unfold HostProtocol.emitFailure
  split
  · exact Steady.refl h
  · rename_i guards
    push Not at guards
    simp only [ne_eq, Bool.not_eq_true', Bool.not_eq_false] at guards
    exact ⟨failStream_state subscriptionId generation error,
      fun down => by rw [guards.1] at down; cases down⟩

theorem emitReport_steady (report : SubscriptionReport P) :
    Steady h (h.emitReport deliver report).2 := by
  unfold HostProtocol.emitReport
  split
  · exact Steady.refl h
  · rename_i guards
    push Not at guards
    simp only [ne_eq, Bool.not_eq_true', Bool.not_eq_false] at guards
    refine ⟨?_, fun down => by rw [guards.1] at down; cases down⟩
    dsimp only
    split
    · rfl
    · rfl
    · exact failStream_state _ _ _
    · rfl

theorem emitStatus_steady (status : SubscriptionStatus) :
    Steady h (h.emitStatus deliver status).2 := by
  unfold HostProtocol.emitStatus
  split
  · exact Steady.refl h
  · rename_i guards
    push Not at guards
    simp only [ne_eq, Bool.not_eq_true', Bool.not_eq_false] at guards
    refine ⟨?_, fun down => by rw [guards.1] at down; cases down⟩
    split
    · rfl
    · split
      · unfold HostProtocol.emitResubscribing
        dsimp only
        split_ifs <;> rfl
      · unfold HostProtocol.emitResubscribed
        dsimp only
        split_ifs <;> rfl

end WotexMatter.Session
