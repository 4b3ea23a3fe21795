/-
# WotexMatter.Native.DeliveryOrder -- two threads that emit one stream

A batch is taken from the buffer under the subscription's mutex and emitted outside it,
report by report: by `Activate` on the input thread, by `OnReportEnd` on the SDK thread.
`Delivery` has the batch each thread is emitting, the reports in the order they reached
`EmitReport`, and those `Add` accepted.  A step is one locked block or one call of
`EmitReport`, whose answer is part of the step.

The input thread's batch is the older one.  `run_inOrder` is about the interleavings in
which the SDK thread emits nothing before that batch is out (`inTurn`), and
`run_inOrder_overtaken` is one in which it does.
-/
import WotexMatter.Native.NativeSubscription

set_option autoImplicit false
set_option linter.unusedSectionVars false

namespace WotexMatter.Native

structure Delivery (ω V : Type) where
  stream : NativeStream ω V
  /-- What `Activate` has still to emit; `none` before it is called. -/
  input : Option (List (NativeReport V)) := none
  /-- What `OnReportEnd` has still to emit. -/
  sdk : List (NativeReport V) := []
  emitted : List (NativeReport V) := []
  accepted : List (NativeReport V) := []

inductive DeliveryStep (V : Type) where
  | reportBegin
  | data (decoded : Except InteractionError (PathResult V))
  | reportEnd
  | established (sdkSubscriptionId : Nat) (intervals : Option (Nat × Nat))
  | activate
  | emitInput
  | emitSdk

namespace Delivery

variable {ω V : Type} [Text (HostFrame (ReportBody V) InteractionError)]
  (outputSink : ω → HostFrame (ReportBody V) InteractionError → Bool × ω)

/-- A callback that emits nothing. -/
def callback (d : Delivery ω V) (platform : Platform) (callback : Callback V) : Delivery ω V :=
  { d with stream := d.stream.callback outputSink platform callback }

/-- The reports `Add` has put into the buffer. -/
def acceptedBy (d : Delivery ω V) (result : PathResult V) : List (NativeReport V) :=
  let b := d.stream.subscription.buffer
  if b.held.length < (b.add result).2.held.length then [b.stamped result] else []

/-- One round of the loop of `Emit`: what is left of the batch. -/
def emitOne (d : Delivery ω V) (platform : Platform) (report : NativeReport V)
    (rest : List (NativeReport V)) : List (NativeReport V) × Delivery ω V :=
  let sent := d.stream.host.emitReport outputSink report
  let next := { d with emitted := d.emitted ++ [report] }
  if sent.1 then (rest, { next with stream := { d.stream with host := sent.2 } })
  else ([], { next with stream :=
    { subscription := d.stream.subscription.scheduleCancel platform, host := sent.2 } })

/-- A callback runs while the SDK thread is not emitting. -/
def step (d : Delivery ω V) (platform : Platform) : DeliveryStep V → Delivery ω V
  | .reportBegin => if d.sdk.isEmpty then d.callback outputSink platform .reportBegin else d
  | .data (.error error) =>
      if d.sdk.isEmpty then d.callback outputSink platform (.data (.error error)) else d
  | .data (.ok result) =>
      if d.sdk.isEmpty then
        { d.callback outputSink platform (.data (.ok result)) with
          accepted := d.accepted ++ d.acceptedBy result }
      else d
  | .reportEnd =>
      if d.sdk.isEmpty then
        let taken := d.stream.subscription.buffer.endReport.takeReady
        { d with
          stream := d.stream.withSubscription { d.stream.subscription with buffer := taken.2 }
          sdk := taken.1 }
      else d
  | .established sdkSubscriptionId intervals =>
      if d.sdk.isEmpty then
        d.callback outputSink platform (.established sdkSubscriptionId intervals)
      else d
  | .activate =>
      if d.input.isNone ∧ d.stream.subscription.response.ok ∧ !d.stream.subscription.done ∧
          !d.stream.subscription.cancelled then
        let released := d.stream.subscription.release
        { d with stream := d.stream.withSubscription released.2, input := some released.1 }
      else d
  | .emitInput =>
      match d.input with
      | some (report :: rest) =>
          let sent := d.emitOne outputSink platform report rest
          { sent.2 with input := some sent.1 }
      | _ => d
  | .emitSdk =>
      match d.sdk with
      | report :: rest =>
          let sent := d.emitOne outputSink platform report rest
          { sent.2 with sdk := sent.1 }
      | [] => d

def run (d : Delivery ω V) (steps : List (Platform × DeliveryStep V)) : Delivery ω V :=
  steps.foldl (fun d step => d.step outputSink step.1 step.2) d

/-- The SDK thread emits only when `Activate` has emitted its batch. -/
def inTurn (d : Delivery ω V) : DeliveryStep V → Bool
  | .emitSdk => (d.input.getD []).isEmpty
  | _ => true

def inTurnRun (d : Delivery ω V) : List (Platform × DeliveryStep V) → Bool
  | [] => true
  | (platform, step) :: steps =>
      d.inTurn step && (d.step outputSink platform step).inTurnRun steps

/-! ## What is still to be emitted -/

/-- A report without what its establishment revises. -/
def stamp (report : NativeReport V) : Nat × Bool × PathResult V :=
  (report.payload.reportId, report.payload.initial, report.payload.result)

/-- Everything accepted that has not been dropped, in the order in which it leaves. -/
def pending (d : Delivery ω V) : List (NativeReport V) :=
  d.emitted ++ (d.input.getD [] ++ (d.sdk ++ (d.stream.subscription.buffer.ready ++
    d.stream.subscription.buffer.buffered)))

/-- The later report is not of an earlier SDK report, and is not initial after one that is
not. -/
def Follows (earlier later : NativeReport V) : Prop :=
  earlier.payload.reportId ≤ later.payload.reportId ∧
    (later.payload.initial = true → earlier.payload.initial = true)

/-- Where the batches and the buffer stand to each other. -/
structure Stages (input : Option (List (NativeReport V))) (sdk : List (NativeReport V))
    (b : SubscriptionBuffer V) : Prop where
  waiting : b.activated = false → b.ready = [] ∧ sdk = [] ∧ input.getD [] = []
  activated : b.activated = true → b.buffered = [] ∧ input ≠ none

structure InOrder (d : Delivery ω V) : Prop where
  order : (d.pending.map stamp).Sublist (d.accepted.map stamp)
  sorted : d.accepted.Pairwise Follows
  latest : ∀ report ∈ d.accepted,
    report.payload.reportId ≤ d.stream.subscription.buffer.reportId ∧
      (d.stream.subscription.buffer.established = false → report.payload.initial = true)
  stages : Stages d.input d.sdk d.stream.subscription.buffer
  settled : d.stream.subscription.recovery.recovering = false

variable {outputSink : ω → HostFrame (ReportBody V) InteractionError → Bool × ω}
  {d : Delivery ω V} {platform : Platform} {b b' : SubscriptionBuffer V}

/-! ## Buffers that take nothing in -/

/-- The buffer may drop reports, count on and be established, and does nothing else. -/
structure Shrinks (b b' : SubscriptionBuffer V) : Prop where
  ready : (b'.ready.map stamp).Sublist (b.ready.map stamp)
  buffered : (b'.buffered.map stamp).Sublist (b.buffered.map stamp)
  reportId : b.reportId ≤ b'.reportId
  established : b'.established = false → b.established = false
  activated : b'.activated = b.activated

theorem Shrinks.refl (b : SubscriptionBuffer V) : Shrinks b b :=
  ⟨List.Sublist.refl _, List.Sublist.refl _, Nat.le_refl _, id, rfl⟩

theorem Shrinks.trans {b b' b'' : SubscriptionBuffer V} (first : Shrinks b b')
    (second : Shrinks b' b'') : Shrinks b b'' where
  ready := second.ready.trans first.ready
  buffered := second.buffered.trans first.buffered
  reportId := first.reportId.trans second.reportId
  established := fun waiting => first.established (second.established waiting)
  activated := second.activated.trans first.activated

theorem beginReport_shrinks (b : SubscriptionBuffer V) : Shrinks b b.beginReport := by
  unfold SubscriptionBuffer.beginReport
  split
  · exact ⟨List.Sublist.refl _, List.Sublist.refl _, Nat.le_refl _, id, rfl⟩
  · exact ⟨List.Sublist.refl _, List.Sublist.refl _, Nat.le_succ _, id, rfl⟩

theorem cancel_shrinks (b : SubscriptionBuffer V) : Shrinks b b.cancel :=
  ⟨List.nil_sublist _, List.nil_sublist _, Nat.le_refl _, id, rfl⟩

theorem establish_shrinks (b : SubscriptionBuffer V) (sdkSubscriptionId minimum maximum : Nat) :
    Shrinks b (b.establish sdkSubscriptionId minimum maximum).2 := by
  unfold SubscriptionBuffer.establish
  split
  · exact ⟨List.Sublist.refl _, List.Sublist.refl _, Nat.le_refl _, id, rfl⟩
  · refine ⟨List.Sublist.refl _, ?_, Nat.le_refl _, fun waiting => (by cases waiting), rfl⟩
    rw [List.map_map]
    exact List.Sublist.refl _

theorem failActive_shrinks
    (outputSink : ω → HostFrame (ReportBody V) InteractionError → Bool × ω)
    (s : NativeStream ω V) (platform : Platform)
    (error : InteractionError) :
    Shrinks s.subscription.buffer
      (s.failActive outputSink platform error).subscription.buffer := by
  rw [NativeStream.failActive_buffer]
  split
  · exact Shrinks.refl _
  · exact cancel_shrinks _

theorem eq_nil_of_stamps {reports reports' : List (NativeReport V)}
    (within : (reports'.map stamp).Sublist (reports.map stamp)) (empty : reports = []) :
    reports' = [] := by
  rw [empty, List.map_nil, List.sublist_nil, List.map_eq_nil_iff] at within
  exact within

theorem Stages.shrinks {input : Option (List (NativeReport V))} {sdk : List (NativeReport V)}
    (stages : Stages input sdk b) (shrinks : Shrinks b b') : Stages input sdk b' where
  waiting := fun inactive => by
    obtain ⟨ready, rest⟩ := stages.waiting (shrinks.activated ▸ inactive)
    exact ⟨eq_nil_of_stamps shrinks.ready ready, rest⟩
  activated := fun active => by
    obtain ⟨buffered, rest⟩ := stages.activated (shrinks.activated ▸ active)
    exact ⟨eq_nil_of_stamps shrinks.buffered buffered, rest⟩

/-- A callback that takes nothing in keeps the order. -/
theorem shrinks_inOrder (inOrder : InOrder d) {stream : NativeStream ω V}
    (shrinks : Shrinks d.stream.subscription.buffer stream.subscription.buffer)
    (settled : stream.subscription.recovery.recovering = false) :
    InOrder { d with stream } where
  order := by
    refine List.Sublist.trans ?_ inOrder.order
    simp only [pending, List.map_append]
    exact (List.Sublist.refl _).append ((List.Sublist.refl _).append ((List.Sublist.refl _).append
      (shrinks.ready.append shrinks.buffered)))
  sorted := inOrder.sorted
  latest := fun report member => by
    obtain ⟨number, initial⟩ := inOrder.latest report member
    exact ⟨number.trans shrinks.reportId, fun waiting => initial (shrinks.established waiting)⟩
  stages := inOrder.stages.shrinks shrinks
  settled := settled

/-! ## Callbacks -/

theorem established_inOrder (inOrder : InOrder d) (sdkSubscriptionId : Nat)
    (intervals : Option (Nat × Nat)) :
    InOrder (d.callback outputSink platform (.established sdkSubscriptionId intervals)) := by
  refine shrinks_inOrder inOrder ?_ ?_
  · simp only [NativeStream.callback]
    cases intervals with
    | none =>
        rw [NativeStream.onSubscriptionEstablished]
        split
        · exact failActive_shrinks _ _ _ _
        · simp only [NativeStream.withSubscription, NativeSubscription.scheduleCancel_buffer,
            NativeSubscription.publishFailure_buffer]
          exact Shrinks.refl _
    | some interval =>
        rw [NativeStream.onSubscriptionEstablished]
        simp only [inOrder.settled, Bool.false_eq_true, ↓reduceIte]
        split
        · exact establish_shrinks _ _ _ _
        · simp only [NativeStream.withSubscription, NativeSubscription.scheduleCancel_buffer]
          exact establish_shrinks _ _ _ _
  · simp only [NativeStream.callback]
    cases intervals with
    | none =>
        rw [NativeStream.onSubscriptionEstablished]
        split
        · rw [NativeStream.failActive_recovery]
          exact inOrder.settled
        · simp only [NativeStream.withSubscription, NativeSubscription.scheduleCancel_recovery,
            NativeSubscription.publishFailure_recovery]
          exact inOrder.settled
    | some interval =>
        rw [NativeStream.onSubscriptionEstablished]
        simp only [inOrder.settled, Bool.false_eq_true, ↓reduceIte]
        split
        · exact inOrder.settled
        · simp only [NativeStream.withSubscription, NativeSubscription.scheduleCancel_recovery]
          exact inOrder.settled

theorem stamped_follows (inOrder : InOrder d) (result : PathResult V) :
    ∀ report ∈ d.accepted, Follows report (d.stream.subscription.buffer.stamped result) := by
  intro report member
  obtain ⟨number, initial⟩ := inOrder.latest report member
  refine ⟨number, fun first => initial ?_⟩
  simpa [SubscriptionBuffer.stamped] using first

/-- What `Add` does to the queues: nothing, or one more report at the end. -/
theorem add_queues (b : SubscriptionBuffer V) (result : PathResult V) :
    Shrinks b (b.add result).2 ∧ (b.add result).2.held.length = b.held.length ∨
    (b.add result).1 = true ∧ ∃ b' : SubscriptionBuffer V, b.activated = b'.activated ∧ b.ready = b'.ready ∧
      b.buffered = b'.buffered ∧ b.reportId = b'.reportId ∧ b.established = b'.established ∧
      (b.add result).2 = b'.store (b.stamped result) := by
  unfold SubscriptionBuffer.add
  split
  · exact .inl ⟨Shrinks.refl _, rfl⟩
  · split
    · exact .inl ⟨Shrinks.refl _, rfl⟩
    · split
      · exact .inl ⟨⟨List.Sublist.refl _, List.Sublist.refl _, Nat.le_refl _, id, rfl⟩, rfl⟩
      · refine .inr ⟨rfl, b.remember result, ?_⟩
        unfold SubscriptionBuffer.remember
        split
        · exact ⟨rfl, rfl, rfl, rfl, rfl, rfl⟩
        · split <;> exact ⟨rfl, rfl, rfl, rfl, rfl, rfl⟩

theorem add_stream (outputSink : ω → HostFrame (ReportBody V) InteractionError → Bool × ω)
    (d : Delivery ω V) (platform : Platform) (result : PathResult V) :
    Shrinks (d.stream.subscription.buffer.add result).2
        (d.stream.add outputSink platform result).subscription.buffer ∧
      (d.stream.add outputSink platform result).subscription.recovery =
        d.stream.subscription.recovery ∧
      ((d.stream.subscription.buffer.add result).1 = true →
        (d.stream.add outputSink platform result).subscription.buffer =
          (d.stream.subscription.buffer.add result).2) := by
  unfold NativeStream.add
  dsimp only
  split
  · exact ⟨Shrinks.refl _, rfl, fun _ => rfl⟩
  · rename_i refused
    have failing := failActive_shrinks outputSink (d.stream.withSubscription
      { d.stream.subscription with buffer := (d.stream.subscription.buffer.add result).2 }) platform
      { code := "invalid_subscription_report" }
    refine ⟨failing, NativeStream.failActive_recovery _ _ _, fun accepted => ?_⟩
    exact absurd accepted refused

/-- The queues after one more report at the end of theirs. -/
theorem stored_inOrder (inOrder : InOrder d) (report : NativeReport V)
    {stream : NativeStream ω V} {b' : SubscriptionBuffer V}
    (activated : d.stream.subscription.buffer.activated = b'.activated)
    (ready : d.stream.subscription.buffer.ready = b'.ready)
    (buffered : d.stream.subscription.buffer.buffered = b'.buffered)
    (reportId : d.stream.subscription.buffer.reportId = b'.reportId)
    (established : d.stream.subscription.buffer.established = b'.established)
    (stored : stream.subscription.buffer = b'.store report)
    (settled : stream.subscription.recovery.recovering = false)
    (follows : ∀ earlier ∈ d.accepted, Follows earlier report)
    (number : report.payload.reportId ≤ b'.reportId)
    (initial : b'.established = false → report.payload.initial = true) :
    InOrder { d with stream, accepted := d.accepted ++ [report] } := by
  have sorted : (d.accepted ++ [report]).Pairwise Follows := by
    rw [List.pairwise_append]
    refine ⟨inOrder.sorted, List.pairwise_singleton _ _, fun earlier member later here => ?_⟩
    obtain rfl := List.mem_singleton.1 here
    exact follows earlier member
  have latest : ∀ other ∈ d.accepted ++ [report], other.payload.reportId ≤ b'.reportId ∧
      (b'.established = false → other.payload.initial = true) := by
    intro other member
    rcases List.mem_append.1 member with earlier | here
    · rw [← reportId, ← established]
      exact inOrder.latest other earlier
    · obtain rfl := List.mem_singleton.1 here
      exact ⟨number, initial⟩
  have order := inOrder.order.append (List.Sublist.refl [stamp report])
  unfold pending at order
  rw [ready, buffered] at order
  have stages := inOrder.stages
  by_cases active : b'.activated = true
  · obtain ⟨empty, begun⟩ := stages.activated (activated.trans active)
    rw [buffered] at empty
    rw [SubscriptionBuffer.store, if_pos active] at stored
    refine ⟨?_, sorted, ?_, ⟨fun inactive => ?_, fun _ => ?_⟩, settled⟩
    · simp only [pending, stored]
      simpa [empty] using order
    · rw [stored]
      exact latest
    · rw [stored, show b'.activated = true from active] at inactive
      cases inactive
    · rw [stored]
      exact ⟨empty, begun⟩
  · obtain ⟨unready, idle⟩ := stages.waiting (activated.trans (by simpa using active))
    rw [ready] at unready
    rw [SubscriptionBuffer.store, if_neg active] at stored
    refine ⟨?_, sorted, ?_, ⟨fun _ => ?_, fun wrong => ?_⟩, settled⟩
    · simp only [pending, stored]
      simpa using order
    · rw [stored]
      exact latest
    · rw [stored]
      exact ⟨unready, idle⟩
    · rw [stored] at wrong
      exact absurd wrong active

theorem add_inOrder (inOrder : InOrder d) (result : PathResult V) :
    InOrder { d.callback outputSink platform (.data (.ok result)) with
      accepted := d.accepted ++ d.acceptedBy result } := by
  obtain ⟨shrinks, recovery, accepted⟩ :=
    add_stream outputSink d platform result
  have settled : (d.stream.add outputSink platform result).subscription.recovery.recovering =
      false := by
    rw [recovery]
    exact inOrder.settled
  rcases add_queues d.stream.subscription.buffer result with
    ⟨kept, same⟩ | ⟨taken, b', activated, ready, buffered, reportId, established, stored⟩
  · have nothing : d.acceptedBy result = [] := by
      unfold acceptedBy
      dsimp only
      rw [same, if_neg (Nat.lt_irrefl _)]
    rw [nothing, List.append_nil]
    exact shrinks_inOrder inOrder (kept.trans shrinks) settled
  · have one : d.acceptedBy result = [d.stream.subscription.buffer.stamped result] := by
      unfold acceptedBy
      dsimp only
      rw [if_pos]
      rw [stored]
      unfold SubscriptionBuffer.store SubscriptionBuffer.held
      split
      · rw [buffered, ready]
        simp
      · rw [buffered, ready]
        simp
    rw [one]
    refine stored_inOrder inOrder _ activated ready buffered reportId established
      ((accepted taken).trans stored) settled (stamped_follows inOrder result) ?_ ?_
    · rw [← reportId]
      exact Nat.le_refl _
    · rw [← established]
      intro waiting
      simp [SubscriptionBuffer.stamped, waiting]

/-! ## Batches -/

theorem reportEnd_inOrder (inOrder : InOrder d) (idle : d.sdk = []) :
    InOrder { d with
      stream := d.stream.withSubscription { d.stream.subscription with
        buffer := d.stream.subscription.buffer.endReport.takeReady.2 }
      sdk := d.stream.subscription.buffer.ready } where
  order := by
    have order := inOrder.order
    rw [pending, idle, List.nil_append] at order
    exact order
  sorted := inOrder.sorted
  latest := inOrder.latest
  stages := by
    refine ⟨fun inactive => ?_, fun active => ?_⟩
    · obtain ⟨ready, -, nothing⟩ := inOrder.stages.waiting inactive
      exact ⟨rfl, ready, nothing⟩
    · exact inOrder.stages.activated active
  settled := inOrder.settled

/-- Before `Activate` neither thread has anything to emit. -/
theorem activate_inOrder (inOrder : InOrder d) (first : d.input = none) :
    InOrder { d with
      stream := d.stream.withSubscription d.stream.subscription.release.2
      input := some d.stream.subscription.release.1 } := by
  have inactive : d.stream.subscription.buffer.activated = false := by
    by_contra active
    exact (inOrder.stages.activated (by simpa using active)).2 first
  obtain ⟨ready, idle, -⟩ := inOrder.stages.waiting inactive
  have order := inOrder.order
  rw [pending, first, Option.getD_none, List.nil_append, idle, List.nil_append, ready,
    List.nil_append] at order
  simp only [NativeSubscription.release, NativeStream.withSubscription]
  unfold SubscriptionBuffer.activate
  split
  · refine ⟨?_, inOrder.sorted, inOrder.latest, ⟨fun _ => ?_, fun active => ?_⟩, inOrder.settled⟩
    · simpa [pending, SubscriptionBuffer.takeReady, ready, idle] using order
    · exact ⟨rfl, idle, ready⟩
    · rw [show (d.stream.subscription.buffer.takeReady.2).activated =
        d.stream.subscription.buffer.activated from rfl, inactive] at active
      cases active
  · refine ⟨?_, inOrder.sorted, inOrder.latest, ⟨fun wrong => ?_, fun _ => ?_⟩, inOrder.settled⟩
    · simpa [pending, SubscriptionBuffer.takeReady, ready, idle] using order
    · cases wrong
    · exact ⟨rfl, Option.some_ne_none _⟩

/-- What `Emit` does with one report of a batch. -/
theorem emitOne_cases (outputSink : ω → HostFrame (ReportBody V) InteractionError → Bool × ω)
    (d : Delivery ω V) (platform : Platform) (report : NativeReport V)
    (rest : List (NativeReport V)) :
    ∃ stream left, d.emitOne outputSink platform report rest =
        (left, { d with stream, emitted := d.emitted ++ [report] }) ∧
      (left.map stamp).Sublist (rest.map stamp) ∧
      stream.subscription.buffer = d.stream.subscription.buffer ∧
      stream.subscription.recovery = d.stream.subscription.recovery := by
  unfold emitOne
  dsimp only
  split
  · exact ⟨_, _, rfl, List.Sublist.refl _, rfl, rfl⟩
  · exact ⟨_, _, rfl, List.nil_sublist _, by simp, by simp⟩

theorem emitInput_inOrder (inOrder : InOrder d) {report : NativeReport V}
    {rest : List (NativeReport V)} (batch : d.input = some (report :: rest)) :
    InOrder { (d.emitOne outputSink platform report rest).2 with
      input := some (d.emitOne outputSink platform report rest).1 } := by
  obtain ⟨stream, left, result, within, buffer, recovery⟩ :=
    emitOne_cases outputSink d platform report rest
  rw [result]
  refine ⟨List.Sublist.trans ?_ inOrder.order, inOrder.sorted, ?_, ⟨fun inactive => ?_,
    fun active => ?_⟩, ?_⟩
  · simp only [pending, batch, Option.getD_some, List.map_append, List.map_cons, List.append_assoc,
      buffer]
    exact (List.Sublist.refl _).append ((within.append (List.Sublist.refl _)).cons_cons _)
  · rw [buffer]
    exact inOrder.latest
  · rw [buffer] at inactive
    have nothing := (inOrder.stages.waiting inactive).2.2
    rw [batch] at nothing
    cases nothing
  · rw [buffer] at active ⊢
    exact ⟨(inOrder.stages.activated active).1, Option.some_ne_none _⟩
  · rw [recovery]
    exact inOrder.settled

theorem emitSdk_inOrder (inOrder : InOrder d) {report : NativeReport V}
    {rest : List (NativeReport V)} (batch : d.sdk = report :: rest) (turn : d.input.getD [] = []) :
    InOrder { (d.emitOne outputSink platform report rest).2 with
      sdk := (d.emitOne outputSink platform report rest).1 } := by
  obtain ⟨stream, left, result, within, buffer, recovery⟩ :=
    emitOne_cases outputSink d platform report rest
  rw [result]
  refine ⟨List.Sublist.trans ?_ inOrder.order, inOrder.sorted, ?_, ⟨fun inactive => ?_,
    fun active => ?_⟩, ?_⟩
  · simp only [pending, batch, turn, List.nil_append, List.map_append, List.map_cons,
      List.append_assoc, buffer]
    exact (List.Sublist.refl _).append ((within.append (List.Sublist.refl _)).cons_cons _)
  · rw [buffer]
    exact inOrder.latest
  · rw [buffer] at inactive
    have nothing := (inOrder.stages.waiting inactive).2.1
    rw [batch] at nothing
    cases nothing
  · rw [buffer] at active ⊢
    exact inOrder.stages.activated active
  · rw [recovery]
    exact inOrder.settled

/-! ## Steps and runs -/

theorem step_inOrder (inOrder : InOrder d) (step : DeliveryStep V)
    (turn : d.inTurn step = true) : InOrder (d.step outputSink platform step) := by
  cases step with
  | reportBegin =>
      simp only [Delivery.step]
      split
      · exact shrinks_inOrder inOrder (beginReport_shrinks _) inOrder.settled
      · exact inOrder
  | data decoded =>
      cases decoded with
      | error error =>
          simp only [Delivery.step]
          split
          · refine shrinks_inOrder inOrder (failActive_shrinks _ _ _ _) ?_
            rw [NativeStream.callback, NativeStream.failActive_recovery]
            exact inOrder.settled
          · exact inOrder
      | ok result =>
          simp only [Delivery.step]
          split
          · exact add_inOrder inOrder result
          · exact inOrder
  | reportEnd =>
      simp only [Delivery.step]
      split
      · rename_i idle
        exact reportEnd_inOrder inOrder (List.isEmpty_iff.1 idle)
      · exact inOrder
  | established sdkSubscriptionId intervals =>
      simp only [Delivery.step]
      split
      · exact established_inOrder inOrder sdkSubscriptionId intervals
      · exact inOrder
  | activate =>
      simp only [Delivery.step]
      split
      · rename_i guards
        exact activate_inOrder inOrder (Option.isNone_iff_eq_none.1 guards.1)
      · exact inOrder
  | emitInput =>
      simp only [Delivery.step]
      split
      · rename_i report rest batch
        exact emitInput_inOrder inOrder batch
      · exact inOrder
  | emitSdk =>
      simp only [Delivery.step]
      split
      · rename_i report rest batch
        exact emitSdk_inOrder inOrder batch (List.isEmpty_iff.1 turn)
      · exact inOrder

theorem run_keeps_inOrder (steps : List (Platform × DeliveryStep V)) :
    ∀ {d : Delivery ω V}, InOrder d → d.inTurnRun outputSink steps = true →
      InOrder (d.run outputSink steps) := by
  induction steps with
  | nil => exact fun inOrder _ => inOrder
  | cons step steps ih =>
      intro d inOrder turns
      simp only [inTurnRun, Bool.and_eq_true] at turns
      exact ih (step_inOrder inOrder step.2 turns.1) turns.2

/-- **Order of delivery.**  In every interleaving in which the SDK thread emits nothing while
`Activate` has reports to emit, the reports reach `EmitReport` in the order in which `Add`
accepted them: the initial ones first, and no report identifier below an earlier one. -/
theorem run_inOrder (outputSink : ω → HostFrame (ReportBody V) InteractionError → Bool × ω)
    (request : SubscriptionRequest) (host : HostProtocol ω (ReportBody V))
    (steps : List (Platform × DeliveryStep V))
    (turns : ({ stream := { subscription := NativeSubscription.create request, host } } :
      Delivery ω V).inTurnRun outputSink steps = true) :
    let d := ({ stream := { subscription := NativeSubscription.create request, host } } :
      Delivery ω V).run outputSink steps
    (d.emitted.map stamp).Sublist (d.accepted.map stamp) ∧
      (d.emitted.map fun report => report.payload.reportId).Pairwise (· ≤ ·) ∧
      (d.emitted.map fun report => report.payload.initial).Pairwise
        (fun earlier later => later = true → earlier = true) := by
  intro d
  have start : InOrder ({ stream := { subscription := NativeSubscription.create request, host } } :
      Delivery ω V) :=
    ⟨List.nil_sublist _, List.Pairwise.nil, fun _ member => (nomatch member),
      ⟨fun _ => ⟨rfl, rfl, rfl⟩, fun active => by cases active⟩, rfl⟩
  have inOrder : InOrder d := run_keeps_inOrder steps start turns
  have sub : (d.emitted.map stamp).Sublist (d.accepted.map stamp) := by
    refine List.Sublist.trans ?_ inOrder.order
    rw [pending, List.map_append]
    exact List.sublist_append_left _ _
  have sorted : (d.accepted.map stamp).Pairwise (fun earlier later =>
      earlier.1 ≤ later.1 ∧ (later.2.1 = true → earlier.2.1 = true)) := by
    rw [List.pairwise_map]
    exact inOrder.sorted
  have stamps := sorted.sublist sub
  rw [List.pairwise_map] at stamps
  exact ⟨sub, List.pairwise_map.2 (stamps.imp And.left), List.pairwise_map.2 (stamps.imp And.right)⟩

/-! ## Two reports of one switch -/

/-- The state of a switch, reported before the activation. -/
def switchRequest : SubscriptionRequest where
  subscriptionId := "00000000000000000000000000000003"
  kind := .attributes
  paths := [⟨1, 2, some 1, some 6, some 0⟩]

def switchReport (value : Nat) : DeliveryStep Nat :=
  .data (.ok { path := ⟨1, 2, 1, 6, 0⟩, attributeData := some value })

/-- Its host, with a writer that takes every frame. -/
def switchDelivery : Delivery Unit Nat where
  stream :=
    { subscription := NativeSubscription.create switchRequest
      host := (HostProtocol.admitSubscription
        { flow := { sink := { writer := () } }, sessionGeneration := "s" }
        switchRequest.subscriptionId 1 1000 false).2 }

/-- The initial report is taken by `Activate`, the next one by `OnReportEnd`; then the two
threads emit in the given order. -/
def twoBatches (emits : List (DeliveryStep Nat)) : List (Platform × DeliveryStep Nat) :=
  ([.reportBegin, switchReport 1, .reportEnd, .established 7 (some (1, 60)), .activate,
    .reportBegin, switchReport 2, .reportEnd] ++ emits).map fun step => ({}, step)

theorem run_inOrder_two :
    let d := switchDelivery.run (fun writer _ => (true, writer)) (twoBatches [.emitInput, .emitSdk])
    d.emitted.length = 2 ∧ (d.emitted.map stamp).Sublist (d.accepted.map stamp) :=
  ⟨by decide, (run_inOrder (fun writer _ => (true, writer)) switchRequest
    switchDelivery.stream.host (twoBatches [.emitInput, .emitSdk]) (by decide)).1⟩

/-- The SDK thread overtakes `Activate`: the newer value reaches the host first, the initial
one last. -/
theorem run_inOrder_overtaken :
    let d := switchDelivery.run (fun writer _ => (true, writer)) (twoBatches [.emitSdk, .emitInput])
    (d.accepted.map fun report => report.payload.reportId) = [1, 2] ∧
      (d.emitted.map fun report => report.payload.reportId) = [2, 1] ∧
      (d.emitted.map fun report => report.payload.initial) = [false, true] := by
  decide

end Delivery

end WotexMatter.Native
