/-
# WotexMatter.Native.HostTrace -- what the host writes over a whole session

A session is any sequence of the locked blocks of `HostProtocol`, in any order and
with any arguments: the interleavings of the input thread and the SDK callbacks are
among them.  As long as the channel is healthy and the host open, the frames it
wrote satisfy `HostOutput`.
-/
import WotexMatter.Native.HostProtocol

set_option autoImplicit false

namespace WotexMatter.Native

open WotexMatter.Theory ReportCreditManager

variable {ω P : Type} [Text (HostFrame P InteractionError)]

/-- A flow whose history the output recorded. -/
structure Flowing (session : String) (failing : Option (String × Nat))
    (s : Flow (Output ω (HostFrame P InteractionError)) P InteractionError) : Prop where
  books : Accounted s
  encoded : Encoded session s
  traced : Traced failing s
  conserved : Conserved s
  ledgered : ∃ past, Ledgered s past
  recorded : s.sink.written = writes s.events

variable {outputSink : ω → HostFrame P InteractionError → Bool × ω} {session : String}
  {s : Flow (Output ω (HostFrame P InteractionError)) P InteractionError}

omit [Text (HostFrame P InteractionError)] in
theorem writeFrame_written {output output' : Output ω (HostFrame P InteractionError)}
    {frame : HostFrame P InteractionError}
    (accepted : writeFrame outputSink output frame = (true, output')) :
    output'.written = output.written ++ [frame] := by
  unfold writeFrame at accepted
  split at accepted
  · cases accepted
  · dsimp only at accepted
    split at accepted
    · cases accepted
      rfl
    · cases accepted

/-- The four invariants travel together. -/
theorem flowing_keeps (outputSink : ω → HostFrame P InteractionError → Bool × ω)
    (session : String) :
    Keeps (writeFrame outputSink) (EncodesReport session) (IsBarrier session)
      (fun s => ((Encoded session s ∧ Traced none s) ∧ Encoded session s ∧ Conserved s) ∧
        (Encoded session s ∧ ∃ past, Ledgered s past) ∧
        Encoded session s ∧ s.sink.written = writes s.events)
      (fun _ => True) :=
  (((traced_keeps _ session).and (conserved_keeps _ session)).and
    ((ledgered_keeps _ session).and
      (recorded_keeps session Output.written fun _ _ _ => writeFrame_written))).mono
    fun _ => trivial

theorem Flowing.parts (flowing : Flowing session none s) :
    ((Encoded session s ∧ Traced none s) ∧ Encoded session s ∧ Conserved s) ∧
      (Encoded session s ∧ ∃ past, Ledgered s past) ∧
      Encoded session s ∧ s.sink.written = writes s.events :=
  ⟨⟨⟨flowing.encoded, flowing.traced⟩, flowing.encoded, flowing.conserved⟩,
    ⟨flowing.encoded, flowing.ledgered⟩, flowing.encoded, flowing.recorded⟩

theorem flowing_of_parts (books : Accounted s)
    (parts : ((Encoded session s ∧ Traced none s) ∧ Encoded session s ∧ Conserved s) ∧
      (Encoded session s ∧ ∃ past, Ledgered s past) ∧
      Encoded session s ∧ s.sink.written = writes s.events) : Flowing session none s :=
  { books
    encoded := parts.1.1.1
    traced := parts.1.1.2
    conserved := parts.1.2.2
    ledgered := parts.2.1.2
    recorded := parts.2.2.2 }

/-- A call of the account that returned true kept the flow. -/
theorem flowing_of_outcome {Q : Flow (Output ω (HostFrame P InteractionError)) P InteractionError →
    Prop} {result : Bool × Flow (Output ω (HostFrame P InteractionError)) P InteractionError}
    (parts : ∀ s, Q s →
      ((Encoded session s ∧ Traced none s) ∧ Encoded session s ∧ Conserved s) ∧
        (Encoded session s ∧ ∃ past, Ledgered s past) ∧
        Encoded session s ∧ s.sink.written = writes s.events)
    (outcome : Outcome Q (fun _ => True) result) (succeeded : result.1 = true) :
    Flowing session none result.2 := by
  rw [Outcome, if_pos succeeded] at outcome
  exact flowing_of_parts outcome.1 (parts _ outcome.2)

/-! ## Frames the protocol writes itself -/

omit [Text (HostFrame P InteractionError)] in
theorem writtenOf_other {id : String} {g : Nat}
    {frame : HostFrame P InteractionError} (other : frame.payload? = none)
    (events : List (FlowEvent (HostFrame P InteractionError))) :
    writtenOf id g (events ++ [.wrote frame]) = writtenOf id g events := by
  rw [writtenOf_append]
  cases frame <;> first | exact List.append_nil _ | cases other

/-- A frame that is no report enters the history. -/
theorem flowing_wrote {failing failing' : Option (String × Nat)}
    (frame : HostFrame P InteractionError) (flowing : Flowing session failing s)
    (other : frame.payload? = none) {sink : Output ω (HostFrame P InteractionError)}
    (accepted : writeFrame outputSink s.sink frame = (true, sink))
    (traced : Traced failing' { s with sink, events := s.events ++ [.wrote frame] }) :
    Flowing session failing' { s with sink, events := s.events ++ [.wrote frame] } where
  books := ⟨flowing.books.numbered, flowing.books.reserved, flowing.books.tabled,
    flowing.books.unwrapped⟩
  encoded := flowing.encoded
  traced := traced
  conserved := by
    have submitted : ∀ id g, submittedOf id g (s.events ++ [.wrote frame]) =
        submittedOf id g s.events := fun id g => by
      rw [submittedOf_append]
      exact List.append_nil _
    have discarded : ∀ id g, discardedOf id g (s.events ++ [.wrote frame]) =
        discardedOf id g s.events := fun id g => by
      rw [discardedOf_append]
      exact List.append_nil _
    refine ⟨fun id g => ?_, fun id g => ?_, fun id g frame' member => ?_⟩
    · rw [writtenOf_other other, submitted]
      exact flowing.conserved.ordered id g
    · rw [writtenOf_other other, submitted, discarded]
      exact flowing.conserved.accounted id g
    · exact flowing.conserved.own id g frame'
        (mem_of_mem_append_wrote (by intros; simp) member)
  ledgered := by
    obtain ⟨past, ledgered⟩ := flowing.ledgered
    refine ⟨past, ledgered_of_same ledgered ?_ rfl rfl rfl rfl rfl⟩
    rw [writes_append, reportsOf_append]
    cases frame <;> first | exact List.append_nil _ | cases other
  recorded := by
    rw [writeFrame_written accepted, flowing.recorded, writes_append]
    rfl

omit [Text (HostFrame P InteractionError)] in
/-- The error of a live stream: its barrier is due. -/
theorem traced_error {sink : Output ω (HostFrame P InteractionError)} (traced : Traced none s)
    {subscriptionId : String} {generation : Nat}
    (live : s.isLive subscriptionId generation = true) (error : InteractionError) :
    Traced (some (subscriptionId, generation)) { s with
      sink
      events := s.events ++ [.wrote (.error session subscriptionId generation error)] } := by
  intro id g
  have found : (s.stream? subscriptionId generation).any (fun stream => stream.live) = true := live
  rw [phaseOf_snoc (traced id g)]
  simp only [Phase.next, FlowEvent.signal, HostFrame.signal]
  change _ = some (phaseAt _ id g (s.stream? id g))
  by_cases same : subscriptionId = id ∧ generation = g
  · obtain ⟨rfl, rfl⟩ := same
    cases entry : s.stream? subscriptionId generation with
    | none => simp [entry] at found
    | some stream =>
        rw [entry, Option.any_some] at found
        simp [phaseAt, found, Phase.step]
  · have other : (some (subscriptionId, generation) : Option (String × Nat)) ≠ some (id, g) :=
      fun h => same (by simpa using h)
    rw [if_neg same]
    cases s.stream? id g <;> simp [phaseAt, other]

/-- Retiring a stream, failed or not, settles its history. -/
theorem retire_flowing {failing : Option (String × Nat)} (flowing : Flowing session failing s)
    {subscriptionId : String} {generation : Nat}
    (own : failing = none ∨ failing = some (subscriptionId, generation))
    (live : s.isLive subscriptionId generation = true)
    (succeeded : (s.retire (writeFrame outputSink) subscriptionId generation
      (barrierFrame session s subscriptionId generation)).1 = true) :
    Flowing session none (s.retire (writeFrame outputSink) subscriptionId generation
      (barrierFrame session s subscriptionId generation)).2 := by
  rcases retire_cases (writeFrame outputSink) s subscriptionId generation
      (barrierFrame session s subscriptionId generation) with
    ⟨-, dead⟩ | ⟨stream, found, alive, ⟨sink, written, result⟩ | ⟨sink, -, result⟩⟩
  · rw [live] at dead
    cases dead
  · rw [result] at succeeded ⊢
    have books := flowing.books
    have conserved := (conserved_keeps (writeFrame outputSink) session).retired books
      ⟨flowing.encoded, flowing.conserved⟩ rfl found alive written
    have ledgered := (ledgered_keeps (writeFrame outputSink) session).retired books
      ⟨flowing.encoded, flowing.ledgered⟩ rfl found alive written
    have records : Keeps (writeFrame outputSink) (EncodesReport session) (IsBarrier session) _ _ :=
      recorded_keeps session Output.written fun _ _ _ => writeFrame_written
    have recorded := records.retired books
      ⟨flowing.encoded, flowing.recorded⟩ rfl found alive written
    have traced := retired_traced session books flowing.traced own found alive sink
    exact flowing_of_outcome (fun _ => And.left)
      (drain_keeps (flowing_keeps outputSink session).toKeepsForward
        (retired_books books found _ sink)
        ⟨⟨⟨conserved.1, traced⟩, conserved⟩, ledgered, recorded⟩) succeeded
  · rw [result] at succeeded
    cases succeeded

namespace HostProtocol

/-! ## Sessions -/

/-- The locked blocks, as the two threads enter them. -/
inductive Call (P : Type) where
  | admitSubscription (subscriptionId : String) (generation queueLimit : Nat) (resubscribe : Bool)
  | emitReport (report : SubscriptionReport P)
  | emitStatus (status : SubscriptionStatus)
  | emitFailure (subscriptionId : String) (generation : Nat) (error : InteractionError)
  | unsubscribeBegin (id subscriptionId : String) (generation : Nat)
  | unsubscribeCancelled (id subscriptionId : String) (generation : Nat) (cancelled : BackendResult)
  | unsubscribeRetire (subscriptionId : String) (generation : Nat)
  | unsubscribeFinish (id subscriptionId : String)
  | reportAck (reportSequence acknowledgedBytes : Nat)
  | requestClose
  | close

def call (outputSink : ω → HostFrame P InteractionError → Bool × ω) (h : HostProtocol ω P) :
    Call P → HostProtocol ω P
  | .admitSubscription subscriptionId generation queueLimit resubscribe =>
      (h.admitSubscription subscriptionId generation queueLimit resubscribe).2
  | .emitReport report => (h.emitReport outputSink report).2
  | .emitStatus status => (h.emitStatus outputSink status).2
  | .emitFailure subscriptionId generation error =>
      h.emitFailure outputSink subscriptionId generation error
  | .unsubscribeBegin id subscriptionId generation =>
      (h.unsubscribeBegin id subscriptionId generation).2
  | .unsubscribeCancelled id subscriptionId generation cancelled =>
      (h.unsubscribeCancelled id subscriptionId generation cancelled).2
  | .unsubscribeRetire subscriptionId generation =>
      (h.unsubscribeRetire outputSink subscriptionId generation).2
  | .unsubscribeFinish id subscriptionId => (h.unsubscribeFinish id subscriptionId).2
  | .reportAck reportSequence acknowledgedBytes =>
      (h.reportAck outputSink reportSequence acknowledgedBytes).2
  | .requestClose => h.requestClose
  | .close => h.close

def runCalls (outputSink : ω → HostFrame P InteractionError → Bool × ω) (writer : ω)
    (sessionGeneration : String) (calls : List (Call P)) : HostProtocol ω P :=
  calls.foldl (call outputSink) { flow := { sink := { writer } }, sessionGeneration }

variable {h : HostProtocol ω P}

/-- The flow is in order while the channel is up and the host open. -/
def Ordered (h : HostProtocol ω P) : Prop :=
  h.healthy = true → h.state = .opened → Flowing h.sessionGeneration none h.flow

omit [Text (HostFrame P InteractionError)] in
omit [Text (HostFrame P InteractionError)] in
/-- `WriteFrame` either takes the frame or leaves a failed channel. -/
theorem write_cases (outputSink : ω → HostFrame P InteractionError → Bool × ω)
    (h : HostProtocol ω P) (frame : HostFrame P InteractionError) :
    (∃ sink, writeFrame outputSink h.flow.sink frame = (true, sink) ∧
      h.write outputSink frame = (true, { h with
        flow := { h.flow with sink, events := h.flow.events ++ [.wrote frame] } })) ∨
    ((h.write outputSink frame).1 = false ∧ (h.write outputSink frame).2.healthy = false) := by
  unfold write
  cases sent : writeFrame outputSink h.flow.sink frame with
  | mk accepted sink =>
      cases accepted with
      | true => exact Or.inl ⟨sink, rfl, rfl⟩
      | false =>
          refine Or.inr ⟨rfl, ?_⟩
          unfold writeFrame at sent
          split at sent
          · rename_i failed
            obtain ⟨-, rfl⟩ := Prod.mk.inj sent
            simp [healthy, failed]
          · dsimp only at sent
            split at sent
            · cases sent
            · obtain ⟨-, rfl⟩ := Prod.mk.inj sent
              rfl

omit [Text (HostFrame P InteractionError)] in
/-- A failed channel stays failed. -/
theorem writeFrame_failed (outputSink : ω → HostFrame P InteractionError → Bool × ω)
    (sink : Output ω (HostFrame P InteractionError)) (text : HostFrame P InteractionError)
    (failed : sink.channelFailed = true) :
    (writeFrame outputSink sink text).2.channelFailed = true := by
  simp [writeFrame, failed]

theorem failStream_ordered (flowing : Flowing h.sessionGeneration none h.flow)
    {subscriptionId : String} {generation : Nat}
    (live : h.flow.isLive subscriptionId generation = true) (error : InteractionError) :
    Ordered (h.failStream outputSink subscriptionId generation error) := by
  intro up _
  unfold failStream at up ⊢
  rcases write_cases outputSink h (.error h.sessionGeneration subscriptionId generation error) with
    ⟨sink, accepted, wrote⟩ | ⟨refused, down⟩
  · have failed := flowing_wrote (.error h.sessionGeneration subscriptionId generation error)
      flowing rfl accepted (traced_error flowing.traced live error)
    simp only [wrote, ↓reduceIte] at up ⊢
    split at up
    · rename_i succeeded
      rw [if_pos succeeded]
      exact retire_flowing failed (Or.inr rfl) live succeeded
    · cases up
  · simp only [refused, Bool.false_eq_true, ↓reduceIte] at up
    rw [down] at up
    cases up

theorem emitReport_ordered (ordered : Ordered h) (report : SubscriptionReport P) :
    Ordered (h.emitReport outputSink report).2 := by
  unfold emitReport
  split
  · exact ordered
  · rename_i guards
    push Not at guards
    obtain ⟨up, opened, live⟩ := guards
    simp only [ne_eq, Bool.not_eq_true', Bool.not_eq_false] at up live
    have flowing := ordered up opened
    have outcome := submit_keeps (flowing_keeps outputSink h.sessionGeneration) flowing.books
      flowing.parts (EncodesReport.intro h.sessionGeneration report.subscriptionId
        report.generation report.payload)
    rcases submit_cases (writeFrame outputSink) h.flow report.subscriptionId report.generation
        (reportEncoder h.sessionGeneration report.subscriptionId report.generation report.payload)
      with ⟨result, -⟩ | ⟨result, -⟩ |
        ⟨stream, -, -, -, ⟨_, _, -, -, result⟩ | ⟨sink, -, result⟩⟩ | ⟨stream, -, -, -, result⟩
    all_goals rw [result] at outcome
    · simp only [result]
      exact fun up => by cases up
    · simp only [result]
      exact failStream_ordered (h := { h with flow := h.flow }) flowing live _
    · simp only [result]
      exact fun _ _ => flowing_of_outcome (fun _ => id) outcome rfl
    · simp only [result]
      exact fun up => by cases up
    · simp only [result]
      exact fun _ _ => flowing_of_outcome (fun _ => id) outcome rfl

theorem emitFailure_ordered (ordered : Ordered h) (subscriptionId : String) (generation : Nat)
    (error : InteractionError) :
    Ordered (h.emitFailure outputSink subscriptionId generation error) := by
  unfold emitFailure
  split
  · exact ordered
  · rename_i guards
    push Not at guards
    obtain ⟨up, opened, live⟩ := guards
    simp only [ne_eq, Bool.not_eq_true', Bool.not_eq_false] at up live
    exact failStream_ordered (ordered up opened) live error

/-- A status frame says nothing about any stream's reports. -/
theorem status_flowing (frame : HostFrame P InteractionError)
    (flowing : Flowing session none s) (other : frame.payload? = none)
    (silent : ∀ id g, frame.signal id g = none) {sink : Output ω (HostFrame P InteractionError)}
    (accepted : writeFrame outputSink s.sink frame = (true, sink)) :
    Flowing session none { s with sink, events := s.events ++ [.wrote frame] } :=
  flowing_wrote frame flowing other accepted
    (traced_of_same flowing.traced [.wrote frame] rfl
      (fun id g event member => by rw [List.mem_singleton.1 member]; exact silent id g)
      (fun _ _ => rfl))

theorem emitResubscribing_ordered (up : h.healthy = true) (opened : h.state = .opened)
    (ordered : Ordered h) (status : SubscriptionStatus) (active : ActiveSubscription) :
    Ordered (h.emitResubscribing outputSink status active).2 := by
  unfold emitResubscribing
  dsimp only
  split
  · exact ordered
  · have flowing := ordered up opened
    rcases write_cases outputSink h (.resubscribing h.sessionGeneration status.subscriptionId
        status.generation status.attempt) with ⟨sink, accepted, wrote⟩ | ⟨refused, down⟩
    · have told := status_flowing (.resubscribing h.sessionGeneration status.subscriptionId
        status.generation status.attempt) flowing rfl (fun _ _ => rfl) accepted
      simp only [wrote, Bool.not_true, Bool.false_eq_true, ↓reduceIte]
      split
      · split
        · rename_i moved
          have outcome := beginRecovery_keeps (flowing_keeps outputSink h.sessionGeneration)
            told.books told.parts (IsBarrier.intro _ _ status.subscriptionId active.generation)
            status.generation active.queueLimit
          exact fun _ _ => flowing_of_outcome (fun _ => id) outcome moved
        · exact fun up => by cases up
      · exact fun _ _ => told
    · simp only [refused, Bool.not_false, ↓reduceIte]
      exact fun up => by rw [down] at up; cases up

theorem emitResubscribed_ordered (up : h.healthy = true) (opened : h.state = .opened)
    (ordered : Ordered h) (status : SubscriptionStatus) (active : ActiveSubscription) :
    Ordered (h.emitResubscribed outputSink status active).2 := by
  unfold emitResubscribed
  split
  · exact ordered
  · have flowing := ordered up opened
    rcases write_cases outputSink h (.resubscribed h.sessionGeneration status.subscriptionId
        status.generation status.attempt status.minIntervalS status.maxIntervalS
        status.sdkSubscriptionId) with ⟨sink, accepted, wrote⟩ | ⟨refused, down⟩
    · have told := status_flowing (.resubscribed h.sessionGeneration status.subscriptionId
        status.generation status.attempt status.minIntervalS status.maxIntervalS
        status.sdkSubscriptionId) flowing rfl (fun _ _ => rfl) accepted
      simp only [wrote, ↓reduceIte]
      exact fun _ _ => told
    · simp only [refused, Bool.false_eq_true, ↓reduceIte]
      exact fun up => by rw [down] at up; cases up

theorem emitStatus_ordered (ordered : Ordered h) (status : SubscriptionStatus) :
    Ordered (h.emitStatus outputSink status).2 := by
  unfold emitStatus
  split
  · exact ordered
  · rename_i guards
    push Not at guards
    obtain ⟨up, opened, -⟩ := guards
    simp only [ne_eq, Bool.not_eq_true', Bool.not_eq_false] at up
    split
    · exact ordered
    · split
      · exact emitResubscribing_ordered up opened ordered _ _
      · exact emitResubscribed_ordered up opened ordered _ _

theorem admitSubscription_ordered (ordered : Ordered h) (subscriptionId : String)
    (generation queueLimit : Nat) (resubscribe : Bool) :
    Ordered (h.admitSubscription subscriptionId generation queueLimit resubscribe).2 := by
  unfold admitSubscription
  rcases addStream_cases h.flow subscriptionId generation queueLimit with
    refused | ⟨admits, result⟩
  · simp only [refused, Bool.false_eq_true, ↓reduceIte]
    exact ordered
  · simp only [result, ↓reduceIte]
    intro up opened
    have flowing := ordered up opened
    have kept := (flowing_keeps (fun (writer : ω) _ => (true, writer)) h.sessionGeneration).added
      flowing.books flowing.parts admits
    exact flowing_of_parts (added_accounted flowing.books admits) kept

theorem unsubscribeRetire_ordered (ordered : Ordered h) (subscriptionId : String)
    (generation : Nat) : Ordered (h.unsubscribeRetire outputSink subscriptionId generation).2 := by
  unfold unsubscribeRetire
  split
  · rename_i live
    dsimp only
    split
    · rename_i retired
      intro up opened
      have before : h.healthy = true := by
        by_contra down
        have failed : h.flow.sink.channelFailed = true := by simpa [healthy] using down
        have still := retire_sink (writeFrame_failed outputSink) subscriptionId generation
          (barrierFrame h.sessionGeneration h.flow subscriptionId generation) failed
        simp only [retireStream, healthy] at up
        rw [still] at up
        cases up
      exact retire_flowing (ordered before opened) (Or.inl rfl) live retired
    · exact fun _ opened => by cases opened
  · exact fun _ opened => by cases opened

theorem reportAck_ordered (ordered : Ordered h) (reportSequence acknowledgedBytes : Nat) :
    Ordered (h.reportAck outputSink reportSequence acknowledgedBytes).2 := by
  unfold reportAck
  split
  · exact ordered
  · dsimp only
    split
    · rename_i taken
      intro up opened
      have before : h.healthy = true := by
        by_contra down
        have failed : h.flow.sink.channelFailed = true := by simpa [healthy] using down
        have still := acknowledge_sink (writeFrame_failed outputSink) reportSequence
          acknowledgedBytes failed
        simp only [healthy] at up
        rw [still] at up
        cases up
      have flowing := ordered before opened
      exact flowing_of_outcome (fun _ => And.left)
        (acknowledge_keeps (flowing_keeps outputSink h.sessionGeneration) flowing.books
          flowing.parts reportSequence acknowledgedBytes) taken
    · exact fun _ opened => by cases opened

theorem call_ordered (ordered : Ordered h) (c : Call P) : Ordered (h.call outputSink c) := by
  cases c with
  | admitSubscription => exact admitSubscription_ordered ordered _ _ _ _
  | emitReport => exact emitReport_ordered ordered _
  | emitStatus => exact emitStatus_ordered ordered _
  | emitFailure => exact emitFailure_ordered ordered _ _ _
  | unsubscribeBegin id subscriptionId generation =>
      simp only [call, unsubscribeBegin]
      split_ifs <;> exact ordered
  | unsubscribeCancelled id subscriptionId generation cancelled =>
      simp only [call, unsubscribeCancelled]
      split_ifs <;> exact ordered
  | unsubscribeRetire => exact unsubscribeRetire_ordered ordered _ _
  | unsubscribeFinish => exact ordered
  | reportAck => exact reportAck_ordered ordered _ _
  | requestClose =>
      intro up opened
      simp only [call, requestClose] at opened
      split at opened <;> cases opened
  | close => exact fun _ opened => by cases opened

theorem runCalls_ordered (outputSink : ω → HostFrame P InteractionError → Bool × ω) (writer : ω)
    (sessionGeneration : String) (calls : List (Call P)) :
    Ordered (runCalls outputSink writer sessionGeneration calls) := by
  suffices run : ∀ h : HostProtocol ω P, Ordered h → Ordered (calls.foldl (call outputSink) h) by
    refine run _ fun _ _ => ?_
    exact
      { books := accounted_initial _
        encoded := fun _ member => by cases member
        traced := fun _ _ => rfl
        conserved := ⟨fun _ _ => List.Sublist.refl _, fun _ _ => List.Perm.refl _,
          fun _ _ _ member => by cases member⟩
        ledgered := ⟨[], rfl, rfl, rfl, rfl, trivial, rfl, Nat.zero_le _,
          show 1 ≤ maxU64 by decide⟩
        recorded := rfl }
  induction calls with
  | nil => exact fun _ ordered => ordered
  | cons c calls ih => exact fun h ordered => ih _ (call_ordered ordered c)

/-! ## Reading the histories -/

section Lawful

omit [Text (HostFrame P InteractionError)]

variable {events : List (FlowEvent (HostFrame P InteractionError))} {id : String} {g : Nat}
  {phase : Phase}

/-- Between two frames of which the first closes a stream and the second needs it, the
stream is added again. -/
theorem added_between (lawful : phaseOf id g events = some phase)
    {before between after : List (FlowEvent (HostFrame P InteractionError))}
    {first second : FlowEvent (HostFrame P InteractionError)} {p : Phase → Prop}
    (split : events = before ++ first :: between ++ second :: after)
    (closes : ∀ {phase phase'}, Phase.next id g phase first = some phase' → p phase')
    (closed : ∀ {phase signal phase'}, signal ≠ Signal.added → p phase →
      phase.step signal = some phase' → p phase')
    (needs : ∀ {phase}, p phase → Phase.next id g phase second = none) :
    FlowEvent.added id g ∈ between := by
  by_contra never
  rw [phaseOf, split, List.append_assoc, List.cons_append] at lawful
  obtain ⟨start, -, tail⟩ := Monitor.exists_of_run_append lawful
  obtain ⟨shut, step, tail⟩ := Monitor.exists_of_run_cons tail
  obtain ⟨reached, quiet, tail⟩ := Monitor.exists_of_run_append tail
  obtain ⟨_, last, -⟩ := Monitor.exists_of_run_cons tail
  have still : p reached := by
    have unreset : ∀ event ∈ between, ¬ event = FlowEvent.added id g := by
      rintro event member rfl
      exact never member
    refine Monitor.persists (fun {phase event phase'} other holds next => ?_) unreset
      (closes step) quiet
    unfold Phase.next at next
    split at next
    · obtain rfl := Option.some.inj next
      exact holds
    · rename_i signal about
      refine closed (fun isAdded => other ?_) holds next
      subst isAdded
      cases event with
      | added id' g' =>
          simp only [FlowEvent.signal] at about
          split at about
          · rename_i same
            rw [same.1, same.2]
          · cases about
      | wrote frame =>
          cases frame <;> simp only [FlowEvent.signal, HostFrame.signal] at about <;>
            first | (split at about <;> cases about) | cases about
      | _ => cases about
  rw [needs still] at last
  cases last

/-- No report can follow: the stream is absent or its barrier is due. -/
def Shut (phase : Phase) : Prop := ∀ last, phase ≠ .opened last

theorem shut_closed {phase phase' : Phase} {signal : Signal} (other : signal ≠ .added)
    (shut : Shut phase) (step : phase.step signal = some phase') : Shut phase' := by
  cases phase <;> cases signal <;> simp only [Phase.step, reduceCtorEq, ne_eq,
    not_true_eq_false] at step other
  case opened.report | opened.error | opened.barrier => exact absurd rfl (shut _)
  case failed.barrier =>
    split at step
    · cases step
      exact fun _ impossible => by cases impossible
    · cases step

theorem absent_closed {phase phase' : Phase} {signal : Signal} (other : signal ≠ .added)
    (absent : phase = .absent) (step : phase.step signal = some phase') : phase' = .absent := by
  subst absent
  cases signal <;> simp_all [Phase.step]

theorem barrier_closes {phase phase' : Phase} {session : String} {last : Nat}
    (step : Phase.next id g phase
      (.wrote (.retired session id g last : HostFrame P InteractionError)) = some phase') :
    phase' = .absent := by
  simp only [Phase.next, FlowEvent.signal, HostFrame.signal, and_self, ↓reduceIte] at step
  cases phase <;> simp only [Phase.step, reduceCtorEq] at step
  all_goals
    split at step
    · exact (Option.some.inj step).symm
    · cases step

end Lawful

/-- What the frames of a session satisfy.  `history` is the host's output with the moments
at which streams were added and reports accepted or discarded. -/
structure HostOutput (h : HostProtocol ω P)
    (history : List (FlowEvent (HostFrame P InteractionError))) : Prop where
  written : h.flow.sink.written = writes history
  sequences : (reportsOf (writes history)).map Entry.sequence =
    List.range' 1 (reportsOf (writes history)).length
  ordered : ∀ id g, List.Sublist (writtenOf id g history) (submittedOf id g history)
  accounted : ∀ id g, List.Perm (submittedOf id g history)
    (writtenOf id g history ++ waitingOf id g h.flow.queued ++ discardedOf id g history)
  own : ∀ id g frame, FlowEvent.discarded id g frame ∈ history →
    frame.subscriptionId = id ∧ frame.generation = g
  oneError : ∀ id g before between after session session' error error',
    history = before ++ .wrote (.error session id g error) :: between ++
      .wrote (.error session' id g error') :: after → FlowEvent.added id g ∈ between
  oneBarrier : ∀ id g before between after session session' last last',
    history = before ++ .wrote (.retired session id g last) :: between ++
      .wrote (.retired session' id g last') :: after → FlowEvent.added id g ∈ between
  barrierLast : ∀ id g before after session last,
    history = before ++ .wrote (.retired session id g last) :: after →
      last = lastWritten id g (writes before)
  noneAfterBarrier : ∀ id g before between after session session' last sequence payload,
    history = before ++ .wrote (.retired session id g last) :: between ++
      .wrote (.report session' id g sequence payload) :: after → FlowEvent.added id g ∈ between

/-- **The output trace of the host**, in every session, while the channel is up and the
host open. -/
theorem runCalls_output (outputSink : ω → HostFrame P InteractionError → Bool × ω) (writer : ω)
    (sessionGeneration : String) (calls : List (Call P))
    (up : (runCalls outputSink writer sessionGeneration calls).healthy = true)
    (opened : (runCalls outputSink writer sessionGeneration calls).state = .opened) :
    HostOutput (runCalls outputSink writer sessionGeneration calls)
      (runCalls outputSink writer sessionGeneration calls).flow.events := by
  have flowing := runCalls_ordered outputSink writer sessionGeneration calls up
    opened
  generalize runCalls outputSink writer sessionGeneration calls = h at *
  obtain ⟨past, ledgered⟩ := flowing.ledgered
  have lawful := fun id g => flowing.traced id g
  exact
    { written := flowing.recorded
      sequences := by
        have consecutive := flowing.books.numbered.consecutive
        rw [ledgered.reports, List.map_append, ledgered.sequences, List.map_map,
          List.length_append, List.length_map, ← List.range'_append_1, ledgered.count,
          Nat.add_comm 1]
        exact congrArg _ consecutive
      ordered := fun id g => (List.sublist_append_left _ _).trans (flowing.conserved.ordered id g)
      accounted := flowing.conserved.accounted
      own := flowing.conserved.own
      oneError := by
        intro id g before between after session session' error error' split
        refine added_between (lawful id g) (p := Shut) split ?_ shut_closed ?_
        · intro phase phase' step
          simp only [Phase.next, FlowEvent.signal, HostFrame.signal, and_self, ↓reduceIte] at step
          cases phase <;> simp only [Phase.step, reduceCtorEq] at step
          obtain rfl := Option.some.inj step
          exact fun _ impossible => by cases impossible
        · intro phase shut
          simp only [Phase.next, FlowEvent.signal, HostFrame.signal, and_self, ↓reduceIte]
          cases phase with
          | opened last => exact absurd rfl (shut last)
          | _ => rfl
      oneBarrier := by
        intro id g before between after session session' last last' split
        refine added_between (lawful id g) (p := (· = .absent)) split ?_ absent_closed ?_
        · intro phase phase' step
          exact barrier_closes step
        · rintro phase rfl
          simp [Phase.next, FlowEvent.signal, HostFrame.signal, Phase.step]
      barrierLast := fun id g before after session last split => barrier_last (lawful id g) split
      noneAfterBarrier := by
        intro id g before between after session session' last sequence payload split
        refine added_between (lawful id g) (p := (· = .absent)) split ?_ absent_closed ?_
        · intro phase phase' step
          exact barrier_closes step
        · rintro phase rfl
          simp [Phase.next, FlowEvent.signal, HostFrame.signal, Phase.step] }

/-- Two reports on one credit, then the stream fails: the second report is discarded and
the barrier names the first. -/
theorem runCalls_output_failed :
    (runCalls (fun _ _ => (true, ())) () "s" [.admitSubscription "a" 1 1 false,
      .emitReport ⟨"a", 1, 100⟩, .emitReport ⟨"a", 1, 200⟩,
      .emitFailure "a" 1 { code := "session_lost" }]).flow.sink.written =
      [.report "s" "a" 1 1 100, .error "s" "a" 1 { code := "session_lost" },
        .retired "s" "a" 1 1] ∧
    HostOutput (runCalls (fun _ _ => (true, ())) () "s" [.admitSubscription "a" 1 1 false,
      .emitReport ⟨"a", 1, 100⟩, .emitReport ⟨"a", 1, 200⟩,
      .emitFailure "a" 1 { code := "session_lost" }])
      (runCalls (fun _ _ => (true, ())) () "s" [.admitSubscription "a" 1 1 false,
        .emitReport ⟨"a", 1, 100⟩, .emitReport ⟨"a", 1, 200⟩,
        .emitFailure "a" 1 { code := "session_lost" }]).flow.events :=
  ⟨by decide, runCalls_output _ _ _ _ (by decide) (by decide)⟩

end HostProtocol

end WotexMatter.Native
