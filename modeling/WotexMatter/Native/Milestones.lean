/-
# WotexMatter.Native.Milestones -- the turns in the life of one subscription

Of the history of a host the milestones of a subscription are the moments its streams are
added and retired and the frames that speak of its recovery or its failure; reports come
between them.  Each block of `HostProtocol` adds a few milestones, and the ones below say
which: the account itself adds none while it forwards, acknowledges or discards reports,
whoever they belong to.

Which generation is live can be read off the milestones (`isLive_of_milestones`).
-/
import WotexMatter.Native.HostTrace

set_option autoImplicit false
set_option linter.unusedSectionVars false

namespace WotexMatter.Native

open WotexMatter.Theory ReportCreditManager

inductive Milestone where
  | added (generation : Nat)
  | resubscribing (generation attempt : Nat)
  | resubscribed (generation attempt : Nat)
  | failed (generation : Nat)
  | retired (generation : Nat)
deriving DecidableEq, Repr

section History

variable {P E : Type}

def HostFrame.milestone (subscriptionId : String) : HostFrame P E → Option Milestone
  | .retired _ id generation _ => if id = subscriptionId then some (.retired generation) else none
  | .error _ id generation _ => if id = subscriptionId then some (.failed generation) else none
  | .resubscribing _ id generation attempt =>
      if id = subscriptionId then some (.resubscribing generation attempt) else none
  | .resubscribed _ id generation attempt _ _ _ =>
      if id = subscriptionId then some (.resubscribed generation attempt) else none
  | _ => none

def FlowEvent.milestone (subscriptionId : String) : FlowEvent (HostFrame P E) → Option Milestone
  | .added id generation => if id = subscriptionId then some (.added generation) else none
  | .wrote frame => frame.milestone subscriptionId
  | _ => none

def milestones (subscriptionId : String) (events : List (FlowEvent (HostFrame P E))) :
    List Milestone :=
  events.filterMap (FlowEvent.milestone subscriptionId)

@[simp] theorem milestones_append (subscriptionId : String)
    (front back : List (FlowEvent (HostFrame P E))) :
    milestones subscriptionId (front ++ back) =
      milestones subscriptionId front ++ milestones subscriptionId back := by
  simp [milestones]

theorem milestones_wrote (subscriptionId : String) (frame : HostFrame P E) :
    milestones subscriptionId [FlowEvent.wrote frame] =
      (frame.milestone subscriptionId).toList := by
  cases found : frame.milestone subscriptionId <;>
    simp [milestones, FlowEvent.milestone, found]

/-- Milestones of the subscription `id`, as `subscriptionId` sees them. -/
def ownMilestones (subscriptionId id : String) (own : List Milestone) : List Milestone :=
  if id = subscriptionId then own else []

@[simp] theorem ownMilestones_self (id : String) (own : List Milestone) :
    ownMilestones id id own = own := by
  simp [ownMilestones]

theorem ownMilestones_other {subscriptionId id : String} (other : id ≠ subscriptionId)
    (own : List Milestone) : ownMilestones subscriptionId id own = [] := by
  simp [ownMilestones, other]

theorem ownMilestones_append (subscriptionId id : String) (front back : List Milestone) :
    ownMilestones subscriptionId id (front ++ back) =
      ownMilestones subscriptionId id front ++ ownMilestones subscriptionId id back := by
  unfold ownMilestones
  split <;> simp

/-- A frame that speaks of `id` is a milestone of it alone. -/
theorem toList_ownMilestones (subscriptionId id : String) (milestone : Milestone) :
    (if id = subscriptionId then some milestone else none).toList =
      ownMilestones subscriptionId id [milestone] := by
  unfold ownMilestones
  split <;> rfl

theorem milestones_retired (subscriptionId session id : String) (generation last : Nat) :
    milestones subscriptionId
        [(FlowEvent.wrote (.retired session id generation last) : FlowEvent (HostFrame P E))] =
      ownMilestones subscriptionId id [.retired generation] := by
  rw [milestones_wrote]
  exact toList_ownMilestones subscriptionId id _

theorem milestones_error (subscriptionId session id : String) (generation : Nat) (error : E) :
    milestones subscriptionId
        [(FlowEvent.wrote (.error session id generation error) : FlowEvent (HostFrame P E))] =
      ownMilestones subscriptionId id [.failed generation] := by
  rw [milestones_wrote]
  exact toList_ownMilestones subscriptionId id _

theorem milestones_resubscribing (subscriptionId session id : String)
    (generation attempt : Nat) :
    milestones subscriptionId
        [(FlowEvent.wrote (.resubscribing session id generation attempt) :
          FlowEvent (HostFrame P E))] =
      ownMilestones subscriptionId id [.resubscribing generation attempt] := by
  rw [milestones_wrote]
  exact toList_ownMilestones subscriptionId id _

theorem milestones_resubscribed (subscriptionId session id : String)
    (generation attempt minimum maximum sdkSubscriptionId : Nat) :
    milestones subscriptionId
        [(FlowEvent.wrote (.resubscribed session id generation attempt minimum maximum
          sdkSubscriptionId) : FlowEvent (HostFrame P E))] =
      ownMilestones subscriptionId id [.resubscribed generation attempt] := by
  rw [milestones_wrote]
  exact toList_ownMilestones subscriptionId id _

end History

/-! ## The account -/

section Account

variable {σ P E : Type} [Text (HostFrame P E)] {transmit : σ → HostFrame P E → Bool × σ}
  {session : String} {s : Flow σ P E} (subscriptionId : String)

/-- Forwarded frames are reports. -/
theorem milestones_forward (transmit : σ → HostFrame P E → Bool × σ) (session : String)
    (past : List Milestone) :
    KeepsForward transmit
      (fun s : Flow σ P E => Encoded session s ∧ milestones subscriptionId s.events = past)
      (fun _ => True) where
  forwarded := by
    rintro s stream pending rest cumulative sink - ⟨encoded, known⟩ forwards - -
    refine ⟨?_, ?_⟩
    · intro frame waits
      refine encoded frame ?_
      rw [forwards.head]
      exact List.mem_cons_of_mem _ (by simpa using waits)
    · obtain ⟨payload, encode⟩ := encoded pending (by rw [forwards.head]; simp)
      rw [forwarded_events, encode, milestones_append, known, milestones_wrote]
      exact List.append_nil _
  lost := fun _ _ _ _ => trivial

theorem drain_milestones (books : Accounted s) (encoded : Encoded session s)
    (drained : (s.drain transmit).1 = true) :
    milestones subscriptionId (s.drain transmit).2.events = milestones subscriptionId s.events := by
  have outcome := drain_keeps (milestones_forward subscriptionId transmit session _) books
    ⟨encoded, rfl⟩
  rw [Outcome, if_pos drained] at outcome
  exact outcome.2.1.2

theorem acknowledge_milestones (books : Accounted s) (encoded : Encoded session s)
    {reportSequence acknowledgedBytes : Nat}
    (taken : (s.acknowledge transmit reportSequence acknowledgedBytes).1 = true) :
    milestones subscriptionId (s.acknowledge transmit reportSequence acknowledgedBytes).2.events =
      milestones subscriptionId s.events := by
  rcases acknowledge_cases transmit books reportSequence acknowledgedBytes with
    refused | ⟨front, target, rest, -, -, -, -, balanced, result⟩
  · rw [refused] at taken
    cases taken
  · rw [result] at taken ⊢
    have still : Encoded session (s.released target rest) := encoded
    exact drain_milestones subscriptionId balanced still taken

theorem retire_milestones (books : Accounted s) (encoded : Encoded session s) {id : String}
    {generation : Nat} (retired : (s.retire transmit id generation
      (barrierFrame session s id generation)).1 = true) :
    milestones subscriptionId (s.retire transmit id generation
        (barrierFrame session s id generation)).2.events =
      milestones subscriptionId s.events ++
        ownMilestones subscriptionId id [.retired generation] := by
  rcases retire_cases transmit s id generation (barrierFrame session s id generation) with
    ⟨refused, -⟩ | ⟨stream, found, live, ⟨sink, -, result⟩ | ⟨sink, -, result⟩⟩
  · rw [refused] at retired
    cases retired
  · rw [result] at retired ⊢
    have still : Encoded session
        (s.retired id generation stream (barrierFrame session s id generation) sink) := by
      rw [retired_eq books found]
      intro frame waits
      exact encoded frame (List.mem_of_mem_filter waits)
    rw [drain_milestones subscriptionId (retired_books books found _ sink) still retired, retired_eq books found]
    have discards : ∀ frames : List (Frame (HostFrame P E)), milestones subscriptionId
        (frames.map (FlowEvent.discarded id generation)) = [] := by
      intro frames
      simp [milestones, List.filterMap_map, FlowEvent.milestone]
    dsimp only
    rw [milestones_append, milestones_append, discards, List.append_nil, barrierFrame,
      milestones_retired]
  · rw [result] at retired
    cases retired

theorem addStream_milestones {id : String} {generation queueLimit : Nat}
    (admitted : (s.addStream id generation queueLimit).1 = true) :
    milestones subscriptionId (s.addStream id generation queueLimit).2.events =
      milestones subscriptionId s.events ++
        ownMilestones subscriptionId id [.added generation] := by
  rcases addStream_cases s id generation queueLimit with refused | ⟨-, result⟩
  · rw [refused] at admitted
    cases admitted
  · rw [result, added_events, milestones_append]
    unfold ownMilestones
    by_cases same : id = subscriptionId <;> simp [milestones, FlowEvent.milestone, same]

theorem beginRecovery_milestones (books : Accounted s) (encoded : Encoded session s) {id : String}
    {previous next queueLimit : Nat} (moved : (s.beginRecovery transmit id previous next queueLimit
      (barrierFrame session s id previous)).1 = true) :
    milestones subscriptionId (s.beginRecovery transmit id previous next queueLimit
        (barrierFrame session s id previous)).2.events =
      milestones subscriptionId s.events ++
        ownMilestones subscriptionId id [.retired previous, .added next] := by
  unfold beginRecovery at moved ⊢
  split at moved
  · cases moved
  · rename_i guards
    rw [if_neg guards]
    dsimp only at moved ⊢
    split at moved
    · rename_i retired
      rw [if_pos retired, addStream_milestones _ moved, retire_milestones _ books encoded retired,
        List.append_assoc, ← ownMilestones_append]
      rfl
    · cases moved

theorem submit_milestones (transmit : σ → HostFrame P E → Bool × σ) (session : String)
    (s : Flow σ P E) (id : String) (generation : Nat) (payload : P)
    (taken : (s.submit transmit id generation (reportEncoder session id generation payload)).1 ≠
      .invalid) :
    milestones subscriptionId
        (s.submit transmit id generation (reportEncoder session id generation payload)).2.events =
      milestones subscriptionId s.events := by
  rcases submit_cases transmit s id generation (reportEncoder session id generation payload) with
    ⟨result, -⟩ | ⟨result, -⟩ | ⟨stream, -, -, -, ⟨_, _, -, -, result⟩ | ⟨sink, -, result⟩⟩ |
    ⟨stream, -, -, -, result⟩
  · rw [result] at taken
    exact absurd rfl taken
  · rw [result]
  · rw [result, sent_events, transmitted_events, milestones_append, milestones_append,
      milestones_wrote]
    exact (List.append_nil _).trans (List.append_nil _)
  · rw [result] at taken
    exact absurd rfl taken
  · rw [result, enqueued_events, milestones_append]
    exact List.append_nil _

end Account

/-! ## The live generation -/

/-- Generation `generation` was added and has not been retired since. -/
def opened (generation : Nat) (history : List Milestone) : Bool :=
  history.foldl (fun isOpen milestone =>
    match milestone with
    | .added g => if g = generation then true else isOpen
    | .retired g => if g = generation then false else isOpen
    | _ => isOpen) false

theorem opened_snoc (generation : Nat) (history : List Milestone) (milestone : Milestone) :
    opened generation (history ++ [milestone]) =
      match milestone with
      | .added g => if g = generation then true else opened generation history
      | .retired g => if g = generation then false else opened generation history
      | _ => opened generation history := by
  rw [opened, List.foldl_append]
  rfl

theorem opened_turn (generation : Nat) (history : List Milestone) (subscriptionId id : String)
    {milestone : Milestone} (stays : ∀ g, milestone ≠ .added g ∧ milestone ≠ .retired g) :
    opened generation (history ++ ownMilestones subscriptionId id [milestone]) =
      opened generation history := by
  by_cases own : id = subscriptionId
  · subst own
    rw [ownMilestones_self, opened_snoc]
    cases milestone with
    | added g => exact absurd rfl (stays g).1
    | retired g => exact absurd rfl (stays g).2
    | _ => rfl
  · rw [ownMilestones_other own, List.append_nil]

section Live

variable {σ P E : Type}

/-- In a lawful history the milestones say whether a stream is there. -/
theorem opened_of_phaseOf {id : String} {g : Nat} (events : List (FlowEvent (HostFrame P E))) :
    ∀ {phase : Phase}, phaseOf id g events = some phase →
      opened g (milestones id events) = decide (phase ≠ .absent) := by
  induction events using List.reverseRecOn with
  | nil =>
      intro phase lawful
      obtain rfl := Option.some.inj lawful
      rfl
  | append_singleton events event ih =>
      intro phase lawful
      rw [phaseOf, Monitor.run_snoc, Option.bind_eq_some_iff] at lawful
      obtain ⟨before, earlier, step⟩ := lawful
      have known := ih earlier
      cases event with
      | added id' g' =>
          simp only [Phase.next, FlowEvent.signal] at step
          by_cases same : id' = id
          · subst same
            rw [milestones_append, show milestones id' [FlowEvent.added id' g'] =
              ([.added g'] : List Milestone) by simp [milestones, FlowEvent.milestone], opened_snoc]
            by_cases here : g' = g
            · subst here
              cases before <;> simp [Phase.step] at step ⊢
              simp [← step]
            · simp only [here, and_false, ↓reduceIte, Option.some.injEq] at step ⊢
              rw [known, step]
          · simp only [same, false_and, ↓reduceIte, Option.some.injEq] at step
            rw [milestones_append, show milestones id [FlowEvent.added id' g'] =
              ([] : List Milestone) by simp [milestones, FlowEvent.milestone, same],
              List.append_nil, known, step]
      | wrote frame =>
          simp only [Phase.next, FlowEvent.signal] at step
          cases frame with
          | report session id' g' sequence payload =>
              rw [milestones_append, show milestones id
                [FlowEvent.wrote (HostFrame.report session id' g' sequence payload : HostFrame P E)] =
                ([] : List Milestone) from rfl, List.append_nil, known]
              by_cases same : id' = id ∧ g' = g
              · simp only [HostFrame.signal, same, and_self, ↓reduceIte] at step
                cases before <;> simp [Phase.step] at step
                simp [← step]
              · simp only [HostFrame.signal, same, ↓reduceIte, Option.some.injEq] at step
                rw [step]
          | retired session id' g' last =>
              rw [milestones_append, milestones_retired]
              by_cases same : id' = id ∧ g' = g
              · obtain ⟨rfl, rfl⟩ := same
                simp only [HostFrame.signal, and_self, ↓reduceIte] at step
                rw [ownMilestones_self, opened_snoc]
                have gone : phase = .absent := by
                  cases before <;> simp only [Phase.step, reduceCtorEq] at step
                  all_goals
                    split at step
                    · exact (Option.some.inj step).symm
                    · cases step
                simp [gone]
              · simp only [HostFrame.signal, same, ↓reduceIte, Option.some.injEq] at step
                rw [← step, ← known]
                by_cases own : id' = id
                · subst own
                  rw [ownMilestones_self, opened_snoc]
                  have other : g' ≠ g := fun here => same ⟨rfl, here⟩
                  simp [other]
                · rw [ownMilestones_other own, List.append_nil]
          | error session id' g' error =>
              rw [milestones_append, milestones_error, opened_turn _ _ _ _ (by simp), known]
              by_cases same : id' = id ∧ g' = g
              · simp only [HostFrame.signal, same, and_self, ↓reduceIte] at step
                cases before <;> simp [Phase.step] at step
                simp [← step]
              · simp only [HostFrame.signal, same, ↓reduceIte, Option.some.injEq] at step
                rw [step]
          | resubscribing session id' g' attempt =>
              obtain rfl := Option.some.inj step
              rw [milestones_append, milestones_resubscribing, opened_turn _ _ _ _ (by simp), known]
          | resubscribed session id' g' attempt minimum maximum sdkSubscriptionId =>
              obtain rfl := Option.some.inj step
              rw [milestones_append, milestones_resubscribed, opened_turn _ _ _ _ (by simp), known]
          | established | success | failure =>
              obtain rfl := Option.some.inj step
              rw [milestones_append, ← known]
              exact congrArg _ (List.append_nil _)
      | accepted id' g' encode | discarded id' g' pending | skipped pending =>
          obtain rfl := Option.some.inj step
          rw [milestones_append, ← known]
          exact congrArg _ (List.append_nil _)

theorem isLive_of_milestones {s : Flow σ P E} (traced : Traced none s) (id : String) (g : Nat) :
    s.isLive id g = opened g (milestones id s.events) := by
  rw [opened_of_phaseOf s.events (traced id g), isLive]
  cases s.stream? id g with
  | none => rfl
  | some stream => cases live : stream.live <;> simp [phaseAt, live]

end Live

/-! ## The blocks of the host -/

namespace HostProtocol

variable {ω P : Type} [Text (HostFrame P InteractionError)]
  {outputSink : ω → HostFrame P InteractionError → Bool × ω} {h : HostProtocol ω P}
  {subscriptionId : String}

/-- The channel is healthy and the host open. -/
def up (h : HostProtocol ω P) : Bool := h.healthy && decide (h.state = .opened)

theorem up_iff : h.up = true ↔ h.healthy = true ∧ h.state = .opened := by
  simp [up]

/-- What a block adds to the milestones of `subscriptionId`. -/
structure Adds (subscriptionId : String) (own : List Milestone) (h next : HostProtocol ω P) :
    Prop where
  milestones : Native.milestones subscriptionId next.flow.events =
    Native.milestones subscriptionId h.flow.events ++ own
  state : next.state = h.state

theorem Adds.same (h : HostProtocol ω P) : Adds subscriptionId [] h h :=
  ⟨(List.append_nil _).symm, rfl⟩

theorem accounted_of_wrote {s : Flow (Output ω (HostFrame P InteractionError)) P InteractionError}
    (books : Accounted s) (sink : Output ω (HostFrame P InteractionError))
    (events : List (FlowEvent (HostFrame P InteractionError))) :
    Accounted { s with sink, events } :=
  ⟨books.numbered, books.reserved, books.tabled, books.unwrapped⟩

theorem retireStream_adds {id : String} {generation : Nat}
    (retired : (h.retireStream outputSink id generation).1 = true) (books : Accounted h.flow)
    (encoded : Encoded h.sessionGeneration h.flow) :
    Adds subscriptionId (ownMilestones subscriptionId id [.retired generation]) h
      (h.retireStream outputSink id generation).2 :=
  ⟨retire_milestones subscriptionId books encoded retired, rfl⟩

/-- The error frame and the barrier come together, or the channel has failed. -/
theorem failStream_adds (subscriptionId : String)
    (flowing : Flowing h.sessionGeneration none h.flow) (id : String)
    (generation : Nat) (error : InteractionError)
    (healthy : (h.failStream outputSink id generation error).healthy = true) :
    Adds subscriptionId (ownMilestones subscriptionId id [.failed generation, .retired generation])
        h (h.failStream outputSink id generation error) ∧
      (h.failStream outputSink id generation error).subscriptions = h.subscriptions.erase id := by
  unfold failStream at healthy ⊢
  rcases write_cases outputSink h (.error h.sessionGeneration id generation error) with
    ⟨sink, accepted, wrote⟩ | ⟨refused, down⟩
  · simp only [wrote, ↓reduceIte] at healthy ⊢
    split at healthy
    · rename_i succeeded
      rw [if_pos succeeded]
      have moved : Adds subscriptionId _ _ _ := retireStream_adds succeeded
        (accounted_of_wrote flowing.books sink _) flowing.encoded
      refine ⟨⟨?_, rfl⟩, rfl⟩
      refine moved.milestones.trans ?_
      dsimp only
      rw [milestones_append, milestones_error, List.append_assoc, ← ownMilestones_append]
      rfl
    · cases healthy
  · simp only [refused, Bool.false_eq_true, ↓reduceIte] at healthy
    rw [down] at healthy
    cases healthy

theorem emitFailure_adds (subscriptionId : String) (ordered : Ordered h) (up : h.up = true)
    {id : String} {generation : Nat} (live : h.flow.isLive id generation = true) (error : InteractionError)
    (healthy : (h.emitFailure outputSink id generation error).healthy = true) :
    Adds subscriptionId (ownMilestones subscriptionId id [.failed generation, .retired generation])
        h (h.emitFailure outputSink id generation error) ∧
      (h.emitFailure outputSink id generation error).subscriptions = h.subscriptions.erase id := by
  obtain ⟨isHealthy, isOpen⟩ := up_iff.1 up
  unfold emitFailure at healthy ⊢
  rw [if_neg (by simp [isHealthy, isOpen, live])] at healthy ⊢
  exact failStream_adds subscriptionId (ordered isHealthy isOpen) id generation error healthy

/-- A failure of a generation that is not live is dropped. -/
theorem emitFailure_dead {id : String} {generation : Nat}
    (dead : h.flow.isLive id generation = false) (error : InteractionError) :
    h.emitFailure outputSink id generation error = h := by
  unfold emitFailure
  rw [if_pos (by simp [dead])]

/-- A report adds no milestone, or its stream overflows and ends. -/
theorem emitReport_adds (subscriptionId : String) (ordered : Ordered h) (up : h.up = true)
    (report : SubscriptionReport P)
    (healthy : (h.emitReport outputSink report).2.healthy = true) :
    (Adds subscriptionId [] h (h.emitReport outputSink report).2 ∧
        (h.emitReport outputSink report).2.subscriptions = h.subscriptions) ∨
      ((h.emitReport outputSink report).1 = false ∧
        h.flow.isLive report.subscriptionId report.generation = true ∧
        Adds subscriptionId (ownMilestones subscriptionId report.subscriptionId
          [.failed report.generation, .retired report.generation]) h
          (h.emitReport outputSink report).2 ∧
        (h.emitReport outputSink report).2.subscriptions =
          h.subscriptions.erase report.subscriptionId) := by
  obtain ⟨isHealthy, isOpen⟩ := up_iff.1 up
  have flowing := ordered isHealthy isOpen
  unfold emitReport at healthy ⊢
  split at healthy
  · rename_i guards
    rw [if_pos guards]
    exact .inl ⟨Adds.same h, rfl⟩
  · rename_i guards
    rw [if_neg guards]
    have live : h.flow.isLive report.subscriptionId report.generation = true := by
      by_contra dead
      exact guards (.inr (.inr (by simpa using dead)))
    have told := submit_milestones subscriptionId (writeFrame outputSink) h.sessionGeneration
      h.flow report.subscriptionId report.generation report.payload
    dsimp only at healthy ⊢
    generalize submission : h.flow.submit (writeFrame outputSink) report.subscriptionId
      report.generation (reportEncoder h.sessionGeneration report.subscriptionId report.generation
        report.payload) = submitted at healthy told ⊢
    obtain ⟨result, flow⟩ := submitted
    cases result with
    | transmitted | queued =>
        exact .inl ⟨⟨(told (by simp)).trans (List.append_nil _).symm, rfl⟩, rfl⟩
    | streamOverflow =>
        have same : flow = h.flow := by
          rcases submit_cases (writeFrame outputSink) h.flow report.subscriptionId
              report.generation (reportEncoder h.sessionGeneration report.subscriptionId
                report.generation report.payload) with
            ⟨other, -⟩ | ⟨overflow, -⟩ | ⟨stream, -, -, -, ⟨_, _, -, -, other⟩ | ⟨_, -, other⟩⟩ |
            ⟨stream, -, -, -, other⟩
          · cases submission.symm.trans other
          · exact (Prod.mk.inj (submission.symm.trans overflow)).2
          · cases submission.symm.trans other
          · cases submission.symm.trans other
          · cases submission.symm.trans other
        subst same
        obtain ⟨adds, subscriptions⟩ := failStream_adds subscriptionId flowing
          report.subscriptionId report.generation { code := "queue_overflow" } healthy
        exact .inr ⟨rfl, live, adds, subscriptions⟩
    | invalid => cases healthy

end HostProtocol

namespace ActiveSubscription

/-- The checks `EmitStatus` makes of a status against the entry of its subscription. -/
def takes (active : ActiveSubscription) (status : SubscriptionStatus) : Bool :=
  match status.status with
  | .resubscribing =>
      decide (status.continuity = .lost) &&
        if active.recovering then decide (status.generation = active.generation ∧
          status.attempt = active.recoveryAttempt + 1)
        else decide (active.generation ≠ maxU64 ∧ status.generation = active.generation + 1 ∧
          status.attempt = 1)
  | .resubscribed =>
      active.recovering && decide (active.generation = status.generation ∧
        active.recoveryAttempt = status.attempt ∧ status.continuity = .unknown ∧
        status.maxIntervalS ≠ 0 ∧ status.minIntervalS ≤ status.maxIntervalS)

/-- The entry after a status it takes. -/
def after (active : ActiveSubscription) (status : SubscriptionStatus) : ActiveSubscription :=
  match status.status with
  | .resubscribing =>
      if active.recovering then { active with recoveryAttempt := status.attempt }
      else { active with
        generation := status.generation
        recovering := true
        recoveryAttempt := status.attempt }
  | .resubscribed => { active with recovering := false, recoveryAttempt := 0 }

/-- What a status it takes adds to the milestones. -/
def turns (active : ActiveSubscription) (status : SubscriptionStatus) : List Milestone :=
  match status.status with
  | .resubscribing =>
      if active.recovering then [.resubscribing status.generation status.attempt]
      else [.resubscribing status.generation status.attempt, .retired active.generation,
        .added status.generation]
  | .resubscribed => [.resubscribed status.generation status.attempt]

end ActiveSubscription

namespace HostProtocol

variable {ω P : Type} [Text (HostFrame P InteractionError)]
  {outputSink : ω → HostFrame P InteractionError → Bool × ω} {h : HostProtocol ω P}
  {subscriptionId : String}

/-- What a status that was taken has done. -/
structure Told (subscriptionId : String) (status : SubscriptionStatus) (active : ActiveSubscription)
    (h next : HostProtocol ω P) : Prop where
  adds : Adds subscriptionId
    (ownMilestones subscriptionId status.subscriptionId (active.turns status)) h next
  subscriptions : next.subscriptions =
    h.subscriptions.insert status.subscriptionId (active.after status)

/-- `EmitStatus` leaves the host alone unless the entry takes the status. -/
theorem emitResubscribing_cases (subscriptionId : String)
    (flowing : Flowing h.sessionGeneration none h.flow)
    {status : SubscriptionStatus} (kind : status.status = .resubscribing)
    (active : ActiveSubscription)
    (healthy : (h.emitResubscribing outputSink status active).2.healthy = true) :
    (active.takes status = false ∧ h.emitResubscribing outputSink status active = (false, h)) ∨
      (active.takes status = true ∧ (h.emitResubscribing outputSink status active).1 = true ∧
        Told subscriptionId status active h (h.emitResubscribing outputSink status active).2) := by
  unfold emitResubscribing at healthy ⊢
  dsimp only at healthy ⊢
  split at healthy
  · rename_i guards
    rw [if_pos guards]
    refine .inl ⟨?_, rfl⟩
    cases recovering : active.recovering <;> simp_all [ActiveSubscription.takes] <;> grind
  · rename_i guards
    rw [if_neg guards]
    have takes : active.takes status = true := by
      cases recovering : active.recovering <;> simp_all [ActiveSubscription.takes]
    refine .inr ⟨takes, ?_⟩
    rcases write_cases outputSink h (.resubscribing h.sessionGeneration status.subscriptionId
        status.generation status.attempt) with ⟨sink, accepted, wrote⟩ | ⟨refused, down⟩
    · simp only [wrote, Bool.not_true, Bool.false_eq_true, ↓reduceIte] at healthy ⊢
      cases recovering : active.recovering with
      | false =>
          simp only [recovering, Bool.not_false, ↓reduceIte] at healthy ⊢
          split at healthy
          · rename_i moved
            rw [if_pos moved]
            have told := beginRecovery_milestones subscriptionId
              (accounted_of_wrote flowing.books sink _) flowing.encoded moved
            refine ⟨rfl, ⟨⟨told.trans ?_, rfl⟩, ?_⟩⟩
            · dsimp only
              rw [milestones_append, milestones_resubscribing, List.append_assoc,
                ← ownMilestones_append]
              simp [ActiveSubscription.turns, kind, recovering]
            · simp [ActiveSubscription.after, kind, recovering]
          · cases healthy
      | true =>
          simp only [recovering, Bool.not_true, Bool.false_eq_true, ↓reduceIte] at healthy ⊢
          refine ⟨trivial, ⟨⟨?_, rfl⟩, ?_⟩⟩
          · dsimp only
            rw [milestones_append, milestones_resubscribing]
            simp [ActiveSubscription.turns, kind, recovering]
          · simp [ActiveSubscription.after, kind, recovering]
    · simp only [refused, Bool.not_false, ↓reduceIte] at healthy
      rw [down] at healthy
      cases healthy

theorem emitResubscribed_cases (subscriptionId : String) {status : SubscriptionStatus}
    (kind : status.status = .resubscribed) (active : ActiveSubscription)
    (healthy : (h.emitResubscribed outputSink status active).2.healthy = true) :
    (active.takes status = false ∧ h.emitResubscribed outputSink status active = (false, h)) ∨
      (active.takes status = true ∧ (h.emitResubscribed outputSink status active).1 = true ∧
        Told subscriptionId status active h (h.emitResubscribed outputSink status active).2) := by
  unfold emitResubscribed at healthy ⊢
  split at healthy
  · rename_i guards
    rw [if_pos guards]
    refine .inl ⟨?_, rfl⟩
    cases recovering : active.recovering with
    | false => simp [ActiveSubscription.takes, kind, recovering]
    | true =>
        simp_all [ActiveSubscription.takes]
        grind
  · rename_i guards
    rw [if_neg guards]
    have takes : active.takes status = true := by
      cases recovering : active.recovering <;> simp_all [ActiveSubscription.takes]
    refine .inr ⟨takes, ?_⟩
    rcases write_cases outputSink h (.resubscribed h.sessionGeneration status.subscriptionId
        status.generation status.attempt status.minIntervalS status.maxIntervalS
        status.sdkSubscriptionId) with ⟨sink, accepted, wrote⟩ | ⟨refused, down⟩
    · simp only [wrote, ↓reduceIte]
      refine ⟨trivial, ⟨⟨?_, rfl⟩, ?_⟩⟩
      · dsimp only
        rw [milestones_append, milestones_resubscribed]
        simp [ActiveSubscription.turns, kind]
      · simp [ActiveSubscription.after, kind]
    · simp only [refused, Bool.false_eq_true, ↓reduceIte] at healthy
      rw [down] at healthy
      cases healthy

/-- The status names a subscription the host recovers, and its entry takes it. -/
def takesStatus (h : HostProtocol ω P) (status : SubscriptionStatus) : Bool :=
  !status.subscriptionId.isEmpty && decide (status.generation ≠ 0 ∧ status.attempt ≠ 0 ∧
    status.attempt ≤ 5) &&
    (h.subscriptions.lookup status.subscriptionId).any fun active =>
      active.resubscribe && active.takes status

/-- **`EmitStatus`** takes a status exactly if its entry does, and otherwise leaves the host
alone; anything else is a channel that failed. -/
theorem emitStatus_cases (subscriptionId : String) (ordered : Ordered h) (up : h.up = true)
    (status : SubscriptionStatus)
    (healthy : (h.emitStatus outputSink status).2.healthy = true) :
    (h.takesStatus status = false ∧ h.emitStatus outputSink status = (false, h)) ∨
      (∃ active, h.subscriptions.lookup status.subscriptionId = some active ∧
        h.takesStatus status = true ∧ (h.emitStatus outputSink status).1 = true ∧
        Told subscriptionId status active h (h.emitStatus outputSink status).2) := by
  obtain ⟨isHealthy, isOpen⟩ := up_iff.1 up
  have flowing := ordered isHealthy isOpen
  unfold emitStatus at healthy ⊢
  split at healthy
  · rename_i guards
    rw [if_pos guards]
    refine .inl ⟨?_, rfl⟩
    simp only [isHealthy, isOpen] at guards
    simp only [takesStatus, Bool.and_eq_false_iff]
    grind
  · rename_i guards
    rw [if_neg guards]
    push Not at guards
    obtain ⟨-, -, named, numbered, attempted, few⟩ := guards
    cases found : h.subscriptions.lookup status.subscriptionId with
    | none => exact .inl ⟨by simp [takesStatus, found], by simp⟩
    | some active =>
        cases resubscribe : active.resubscribe with
        | false =>
            simp only [Option.filter_some, resubscribe, Bool.false_eq_true, ↓reduceIte]
            exact .inl ⟨by simp [takesStatus, found, resubscribe], trivial⟩
        | true =>
            have known : h.takesStatus status = active.takes status := by
              simp [takesStatus, found, resubscribe, named, numbered, attempted, few]
            simp only [found, Option.filter_some, resubscribe, ↓reduceIte] at healthy ⊢
            cases kind : status.status with
            | resubscribing =>
                simp only [kind] at healthy
                rcases emitResubscribing_cases subscriptionId flowing kind active
                  healthy with ⟨refuses, same⟩ | ⟨takes, told⟩
                · exact .inl ⟨known.trans refuses, same⟩
                · exact .inr ⟨active, rfl, known.trans takes, told⟩
            | resubscribed =>
                simp only [kind] at healthy
                rcases emitResubscribed_cases subscriptionId kind active healthy
                  with ⟨refuses, same⟩ | ⟨takes, told⟩
                · exact .inl ⟨known.trans refuses, same⟩
                · exact .inr ⟨active, rfl, known.trans takes, told⟩

/-! ## What the other subscriptions do -/

/-- The subscription a block is about. -/
def Call.subject? : Call P → Option String
  | .admitSubscription id _ _ _ | .emitFailure id _ _ | .unsubscribeBegin _ id _
  | .unsubscribeCancelled _ id _ _ | .unsubscribeRetire id _ | .unsubscribeFinish _ id => some id
  | .emitReport report => some report.subscriptionId
  | .emitStatus status => some status.subscriptionId
  | .reportAck _ _ | .requestClose | .close => none

theorem emitReport_down (down : h.up = false) (report : SubscriptionReport P) :
    h.emitReport outputSink report = (false, h) := by
  unfold emitReport
  rw [if_pos]
  cases healthy : h.healthy <;> simp_all [up]

theorem emitFailure_down (down : h.up = false) (id : String) (generation : Nat)
    (error : InteractionError) : h.emitFailure outputSink id generation error = h := by
  unfold emitFailure
  rw [if_pos]
  cases healthy : h.healthy <;> simp_all [up]

theorem emitStatus_down (down : h.up = false) (status : SubscriptionStatus) :
    h.emitStatus outputSink status = (false, h) := by
  unfold emitStatus
  rw [if_pos]
  cases healthy : h.healthy <;> simp_all [up]

/-- A channel that is healthy after a barrier was healthy before it. -/
theorem healthy_of_retireStream {id : String} {generation : Nat}
    (after : (h.retireStream outputSink id generation).2.healthy = true) : h.healthy = true := by
  by_contra down
  have failed : h.flow.sink.channelFailed = true := by simpa [healthy] using down
  have still := retire_sink (writeFrame_failed outputSink) id generation
    (barrierFrame h.sessionGeneration h.flow id generation) failed
  simp only [retireStream, healthy] at after
  rw [still] at after
  cases after

theorem healthy_of_acknowledge {reportSequence acknowledgedBytes : Nat}
    (after : (h.flow.acknowledge (writeFrame outputSink) reportSequence
      acknowledgedBytes).2.sink.channelFailed = false) : h.healthy = true := by
  by_contra down
  have failed : h.flow.sink.channelFailed = true := by simpa [healthy] using down
  rw [acknowledge_sink (writeFrame_failed outputSink) _ _ failed] at after
  cases after

/-- A host that is up was up before. -/
theorem up_of_call (c : Call P) (after : (h.call outputSink c).up = true) : h.up = true := by
  by_contra down
  rw [Bool.not_eq_true] at down
  cases c with
  | emitReport report =>
      rw [call, emitReport_down down, down] at after
      cases after
  | emitStatus status =>
      rw [call, emitStatus_down down, down] at after
      cases after
  | emitFailure id generation error =>
      rw [call, emitFailure_down down, down] at after
      cases after
  | admitSubscription id generation queueLimit resubscribe =>
      have same : (h.call outputSink (.admitSubscription id generation queueLimit resubscribe)).up =
          h.up := by
        simp only [call, admitSubscription]
        rcases addStream_cases h.flow id generation queueLimit with refused | ⟨-, result⟩
        · simp only [refused, Bool.false_eq_true, ↓reduceIte]
        · simp only [result, ↓reduceIte]
          rfl
      rw [same, down] at after
      cases after
  | unsubscribeBegin id subscriptionId generation =>
      have same : (h.call outputSink (.unsubscribeBegin id subscriptionId generation)).up = h.up := by
        simp only [call, unsubscribeBegin]
        split_ifs <;> rfl
      rw [same, down] at after
      cases after
  | unsubscribeCancelled id subscriptionId generation cancelled =>
      have same : (h.call outputSink
          (.unsubscribeCancelled id subscriptionId generation cancelled)).up = h.up := by
        simp only [call, unsubscribeCancelled]
        split_ifs <;> rfl
      rw [same, down] at after
      cases after
  | unsubscribeRetire id generation =>
      simp only [call, unsubscribeRetire] at after
      split at after
      · split at after
        · obtain ⟨isHealthy, isOpen⟩ := up_iff.1 after
          have before : h.up = true := up_iff.2 ⟨healthy_of_retireStream isHealthy, isOpen⟩
          rw [before] at down
          cases down
        · cases (up_iff.1 after).2
      · cases (up_iff.1 after).2
  | unsubscribeFinish id subscriptionId =>
      have same : (h.call outputSink (.unsubscribeFinish id subscriptionId)).up = h.up := rfl
      rw [same, down] at after
      cases after
  | reportAck reportSequence acknowledgedBytes =>
      simp only [call, reportAck] at after
      split at after
      · rw [down] at after
        cases after
      · split at after
        · obtain ⟨isHealthy, isOpen⟩ := up_iff.1 after
          have before : h.up = true :=
            up_iff.2 ⟨healthy_of_acknowledge (by simpa [healthy] using isHealthy), isOpen⟩
          rw [before] at down
          cases down
        · cases (up_iff.1 after).2
  | requestClose =>
      have shut := (up_iff.1 after).2
      simp only [call, requestClose] at shut
      split at shut <;> cases shut
  | close => cases (up_iff.1 after).2

/-- What a block leaves of a subscription it is not about. -/
structure Spares (subscriptionId : String) (h next : HostProtocol ω P) : Prop where
  milestones : Native.milestones subscriptionId next.flow.events =
    Native.milestones subscriptionId h.flow.events
  entry : next.subscriptions.lookup subscriptionId = h.subscriptions.lookup subscriptionId

theorem Adds.spares {next : HostProtocol ω P} (adds : Adds subscriptionId [] h next)
    (entry : next.subscriptions.lookup subscriptionId = h.subscriptions.lookup subscriptionId) :
    Spares subscriptionId h next :=
  ⟨adds.milestones.trans (List.append_nil _), entry⟩

theorem call_spares (ordered : Ordered h) (c : Call P) (other : c.subject? ≠ some subscriptionId)
    (after : (h.call outputSink c).up = true) :
    Spares subscriptionId h (h.call outputSink c) := by
  have up := up_of_call c after
  obtain ⟨isHealthy, isOpen⟩ := up_iff.1 up
  have flowing := ordered isHealthy isOpen
  have healthy := (up_iff.1 after).1
  have same : Spares subscriptionId h h := ⟨rfl, rfl⟩
  cases c with
  | admitSubscription id generation queueLimit resubscribe =>
      have different : id ≠ subscriptionId := fun here => other (by simp [Call.subject?, here])
      simp only [call, admitSubscription]
      split
      · rename_i admitted
        refine ⟨?_, ?_⟩
        · dsimp only
          rw [addStream_milestones subscriptionId admitted, ownMilestones_other different,
            List.append_nil]
        · dsimp only
          split
          · rfl
          · rw [Table.lookup_insert, if_neg (Ne.symm different)]
      · rename_i refused
        rcases addStream_cases h.flow id generation queueLimit with result | ⟨-, result⟩
        · rw [result]
          exact ⟨rfl, rfl⟩
        · rw [result] at refused
          exact absurd rfl refused
  | emitReport report =>
      have different : report.subscriptionId ≠ subscriptionId :=
        fun here => other (by simp [Call.subject?, here])
      rcases emitReport_adds subscriptionId ordered up report healthy with
        ⟨adds, subscriptions⟩ | ⟨-, -, adds, subscriptions⟩
      · exact adds.spares (congrArg _ subscriptions)
      · rw [ownMilestones_other different] at adds
        refine adds.spares ?_
        rw [subscriptions, Table.lookup_erase, if_neg (Ne.symm different)]
  | emitStatus status =>
      have different : status.subscriptionId ≠ subscriptionId :=
        fun here => other (by simp [Call.subject?, here])
      rcases emitStatus_cases subscriptionId ordered up status healthy with
        ⟨-, refused⟩ | ⟨active, -, -, -, told⟩
      · simp only [call, refused]
        exact same
      · have adds := told.adds
        rw [ownMilestones_other different] at adds
        refine adds.spares ?_
        rw [told.subscriptions, Table.lookup_insert, if_neg (Ne.symm different)]
  | emitFailure id generation error =>
      have different : id ≠ subscriptionId := fun here => other (by simp [Call.subject?, here])
      cases live : h.flow.isLive id generation with
      | false =>
          rw [call, emitFailure_dead live]
          exact same
      | true =>
          obtain ⟨adds, subscriptions⟩ := emitFailure_adds subscriptionId ordered up live error healthy
          rw [ownMilestones_other different] at adds
          refine adds.spares ?_
          rw [subscriptions, Table.lookup_erase, if_neg (Ne.symm different)]
  | unsubscribeBegin id subscriptionId' generation =>
      simp only [call, unsubscribeBegin]
      split_ifs <;> exact ⟨rfl, rfl⟩
  | unsubscribeCancelled id subscriptionId' generation cancelled =>
      simp only [call, unsubscribeCancelled]
      split_ifs <;> exact ⟨rfl, rfl⟩
  | unsubscribeRetire id generation =>
      have different : id ≠ subscriptionId := fun here => other (by simp [Call.subject?, here])
      simp only [call, unsubscribeRetire] at after ⊢
      split
      · rename_i live
        rw [if_pos live] at after
        split
        · rename_i retired
          have adds : Adds subscriptionId _ _ _ :=
            retireStream_adds retired flowing.books flowing.encoded
          rw [ownMilestones_other different] at adds
          exact adds.spares rfl
        · rename_i refused
          rw [if_neg refused] at after
          cases (up_iff.1 after).2
      · rename_i dead
        rw [if_neg dead] at after
        cases (up_iff.1 after).2
  | unsubscribeFinish id subscriptionId' =>
      have different : subscriptionId' ≠ subscriptionId :=
        fun here => other (by simp [Call.subject?, here])
      refine ⟨rfl, ?_⟩
      rw [call, unsubscribeFinish, Table.lookup_erase, if_neg (Ne.symm different)]
  | reportAck reportSequence acknowledgedBytes =>
      simp only [call, reportAck] at after ⊢
      rw [if_neg (by simp [isOpen])] at after ⊢
      split
      · rename_i taken
        exact ⟨acknowledge_milestones subscriptionId flowing.books flowing.encoded taken, rfl⟩
      · rename_i refused
        rw [if_neg refused] at after
        cases (up_iff.1 after).2
  | requestClose => exact ⟨rfl, rfl⟩
  | close => cases (up_iff.1 after).2

end HostProtocol

end WotexMatter.Native
