/-
# WotexMatter.Native.StreamEnd -- the BEAM is told of every stream that fails

A subscription that has been established, admitted and activated, and every run of its SDK
callbacks, with the blocks that other subscriptions and acknowledgements enter in between.
As long as it has not failed, the generation that `SubscriptionRecovery` holds is the one
that is live in `report_flow_` (`Following`); once its error and its barrier are written
nothing more is said of it (`Ended`).

`OnResubscriptionNeeded` moves the recovery to the next generation before it prepares the
buffer, starts the timer and tells the host.  If one of these fails, `FailActive` names a
generation that is not live and the failure is dropped: `run_told` is about the runs in
which the first attempt of each loss window goes through (`opensCleanly`), and
`run_told_timer` is one in which its timer does not start.
-/
import WotexMatter.Native.Milestones
import WotexMatter.Native.RecoveryAttempts

set_option autoImplicit false
set_option linter.unusedSectionVars false

namespace WotexMatter.Native

open WotexMatter.Theory HostProtocol

/-- The live generation of a subscription along its milestones, as long as it does not
fail. -/
def Milestone.next : Option Nat → Milestone → Option (Option Nat)
  | some live, .retired generation => if generation = live then some none else none
  | some live, .resubscribing _ _ => some (some live)
  | some live, .resubscribed _ _ => some (some live)
  | none, .added generation => some (some generation)
  | _, _ => none

/-- From `first` on, `history` replaces one live generation by the next and leaves `last`. -/
def Replaces (first : Nat) (history : List Milestone) (last : Nat) : Prop :=
  Monitor.run Milestone.next (some first) history = some (some last)

/-- A callback of the subscription, or a block of the host that is not about it. -/
inductive StreamMove (V : Type) where
  | callback (platform : Platform) (callback : Callback V)
  | block (block : Call (ReportBody V))

namespace NativeSubscription

variable {V : Type}

/-- The next `OnResubscriptionNeeded` opens a loss window. -/
def opensWindow (n : NativeSubscription V) : Bool :=
  n.response.ok && !n.cancelled && !n.done && n.recovery.enabled && !n.recovery.recovering &&
    decide (n.recovery.generation ≠ maxU64)

end NativeSubscription

namespace NativeStream

variable {ω V : Type} [Text (HostFrame (ReportBody V) InteractionError)]
  (outputSink : ω → HostFrame (ReportBody V) InteractionError → Bool × ω)

def subscriptionId (s : NativeStream ω V) : String := s.subscription.request.subscriptionId

def take (s : NativeStream ω V) : StreamMove V → NativeStream ω V
  | .callback platform callback => s.callback outputSink platform callback
  | .block block => { s with host := s.host.call outputSink block }

def run (s : NativeStream ω V) (moves : List (StreamMove V)) : NativeStream ω V :=
  moves.foldl (take outputSink) s

/-- The subscription is not cancelled from outside: the work item of a cancellation runs only
when a failure has scheduled it, and no block is about this subscription. -/
def undisturbed (s : NativeStream ω V) : StreamMove V → Bool
  | .callback _ .cancelWork => s.subscription.cancelScheduled
  | .callback _ _ => true
  | .block block => decide (block.subject? ≠ some s.subscriptionId)

/-- The first attempt of a loss window of a live stream finds the buffer active, its timer
starts and the status sink is there. -/
def opensCleanly (s : NativeStream ω V) : StreamMove V → Bool
  | .callback platform (.resubscriptionNeeded _) =>
      !(s.host.flow.isLive s.subscriptionId s.subscription.recovery.generation &&
        s.subscription.opensWindow) ||
        s.subscription.buffer.active && platform.timerStarts && platform.statusSink
  | _ => true

/-- The moves meet a condition, each in the state it is made in. -/
def eachMove (condition : NativeStream ω V → StreamMove V → Bool) (s : NativeStream ω V) :
    List (StreamMove V) → Bool
  | [] => true
  | move :: moves => condition s move && (s.take outputSink move).eachMove condition moves

end NativeStream

/-! ## The invariant -/

section Invariant

variable {ω V : Type} [Text (HostFrame (ReportBody V) InteractionError)]
  {outputSink : ω → HostFrame (ReportBody V) InteractionError → Bool × ω}
  {past : List Milestone} {first : Nat}

/-- The stream is live, and the three parties agree on its generation. -/
structure Following (past : List Milestone) (first : Nat) (s : NativeStream ω V) : Prop where
  ordered : Ordered s.host
  ok : s.subscription.response.ok = true
  unfailed : s.subscription.failureEmitted = false
  named : s.subscriptionId.isEmpty = false
  buffered : s.subscription.buffer.generation = s.subscription.recovery.generation
  history : ∃ history, milestones s.subscriptionId s.host.flow.events = past ++ history ∧
    Replaces first history s.subscription.recovery.generation
  only : ∀ g, opened g (milestones s.subscriptionId s.host.flow.events) = true ↔
    g = s.subscription.recovery.generation
  entry : ∃ active, s.host.subscriptions.lookup s.subscriptionId = some active ∧
    active.generation = s.subscription.recovery.generation ∧
    active.resubscribe = s.subscription.request.resubscribe ∧
    (s.subscription.cancelled = false →
      active.recovering = s.subscription.recovery.recovering)
  enabled : s.subscription.cancelled = false →
    s.subscription.recovery.enabled = s.subscription.request.resubscribe

/-- The host has nothing of the subscription. -/
structure Absent (subscriptionId : String) (h : HostProtocol ω (ReportBody V)) : Prop where
  ordered : Ordered h
  gone : ∀ g, opened g (milestones subscriptionId h.flow.events) = false
  entry : h.subscriptions.lookup subscriptionId = none

/-- The error and the barrier of the generation that was live are written, and the host has
nothing left of the subscription. -/
structure Ended (past : List Milestone) (first : Nat) (subscriptionId : String)
    (h : HostProtocol ω (ReportBody V)) : Prop where
  absent : Absent subscriptionId h
  history : ∃ history generation, milestones subscriptionId h.flow.events =
      past ++ history ++ [.failed generation, .retired generation] ∧
    Replaces first history generation

/-! ## Before the admission and after the end -/

/-- The blocks an SDK callback enters. -/
def HostProtocol.Call.emits {P : Type} : Call P → Bool
  | .emitReport _ | .emitStatus _ | .emitFailure _ _ _ => true
  | _ => false

theorem up_of_calls {h : HostProtocol ω (ReportBody V)} (calls : List (Call (ReportBody V)))
    (after : (calls.foldl (call outputSink) h).up = true) : h.up = true := by
  induction calls generalizing h with
  | nil => exact after
  | cons c calls ih => exact up_of_call c (ih after)

theorem Absent.live {subscriptionId : String} {h : HostProtocol ω (ReportBody V)}
    (absent : Absent subscriptionId h) (up : h.up = true) (g : Nat) :
    h.flow.isLive subscriptionId g = false := by
  obtain ⟨isHealthy, isOpen⟩ := up_iff.1 up
  rw [isLive_of_milestones (absent.ordered isHealthy isOpen).traced, absent.gone g]

theorem Absent.spared {subscriptionId : String} {h next : HostProtocol ω (ReportBody V)}
    (absent : Absent subscriptionId h) (ordered : Ordered next)
    (spares : Spares subscriptionId h next) : Absent subscriptionId next where
  ordered := ordered
  gone := by rw [spares.milestones]; exact absent.gone
  entry := spares.entry.trans absent.entry

/-- No block of a callback says anything of a subscription the host does not have. -/
theorem call_absent {subscriptionId : String} {h : HostProtocol ω (ReportBody V)}
    (absent : Absent subscriptionId h) (c : Call (ReportBody V))
    (about : c.emits = true ∨ c.subject? ≠ some subscriptionId)
    (after : (h.call outputSink c).up = true) : Spares subscriptionId h (h.call outputSink c) := by
  have up := up_of_call c after
  by_cases own : c.subject? = some subscriptionId
  · have emits := about.resolve_right (fun other => other own)
    cases c with
    | emitReport report =>
        obtain rfl : report.subscriptionId = subscriptionId := Option.some.inj own
        rcases emitReport_adds report.subscriptionId absent.ordered up report
          (up_iff.1 after).1 with ⟨adds, subscriptions⟩ | ⟨-, live, -⟩
        · exact adds.spares (congrArg _ subscriptions)
        · rw [absent.live up] at live
          cases live
    | emitStatus status =>
        obtain rfl : status.subscriptionId = subscriptionId := Option.some.inj own
        rcases emitStatus_cases status.subscriptionId absent.ordered up status
          (up_iff.1 after).1 with ⟨-, refused⟩ | ⟨active, found, -⟩
        · simp only [call, refused]
          exact ⟨rfl, rfl⟩
        · rw [absent.entry] at found
          cases found
    | emitFailure id generation error =>
        obtain rfl : id = subscriptionId := Option.some.inj own
        rw [call, emitFailure_dead (absent.live up generation)]
        exact ⟨rfl, rfl⟩
    | _ => cases emits
  · exact call_spares absent.ordered c own after

theorem calls_absent {subscriptionId : String} {h : HostProtocol ω (ReportBody V)}
    (absent : Absent subscriptionId h) (calls : List (Call (ReportBody V)))
    (emits : ∀ c ∈ calls, c.emits = true)
    (after : (calls.foldl (call outputSink) h).up = true) :
    Absent subscriptionId (calls.foldl (call outputSink) h) ∧
      Spares subscriptionId h (calls.foldl (call outputSink) h) := by
  induction calls generalizing h with
  | nil => exact ⟨absent, rfl, rfl⟩
  | cons c calls ih =>
      have spares := call_absent absent c (.inl (emits c (by simp))) (up_of_calls calls after)
      have next := absent.spared (call_ordered absent.ordered c) spares
      have rest := ih next (fun other member => emits other (List.mem_cons_of_mem _ member)) after
      exact ⟨rest.1, rest.2.milestones.trans spares.milestones,
        rest.2.entry.trans spares.entry⟩

theorem Ended.spared {subscriptionId : String} {h next : HostProtocol ω (ReportBody V)}
    (ended : Ended past first subscriptionId h) (ordered : Ordered next)
    (spares : Spares subscriptionId h next) : Ended past first subscriptionId next where
  absent := ended.absent.spared ordered spares
  history := by rw [spares.milestones]; exact ended.history

end Invariant

/-! ## What a callback does to the host -/

namespace NativeStream

variable {ω V : Type} [Text (HostFrame (ReportBody V) InteractionError)]
  {outputSink : ω → HostFrame (ReportBody V) InteractionError → Bool × ω}

/-- `next` comes from `h` through blocks of the SDK thread. -/
def Emitted (outputSink : ω → HostFrame (ReportBody V) InteractionError → Bool × ω)
    (h next : HostProtocol ω (ReportBody V)) : Prop :=
  ∃ calls : List (Call (ReportBody V)), (∀ c ∈ calls, c.emits = true) ∧
    next = calls.foldl (HostProtocol.call outputSink) h

theorem Emitted.refl (h : HostProtocol ω (ReportBody V)) : Emitted outputSink h h :=
  ⟨[], by simp, rfl⟩

theorem Emitted.trans {h middle next : HostProtocol ω (ReportBody V)}
    (front : Emitted outputSink h middle) (back : Emitted outputSink middle next) :
    Emitted outputSink h next := by
  obtain ⟨calls, emits, rfl⟩ := front
  obtain ⟨more, further, rfl⟩ := back
  refine ⟨calls ++ more, ?_, by rw [List.foldl_append]⟩
  intro c member
  rcases List.mem_append.1 member with early | late
  · exact emits c early
  · exact further c late

theorem Emitted.one (h : HostProtocol ω (ReportBody V)) (c : Call (ReportBody V))
    (emits : c.emits = true) : Emitted outputSink h (h.call outputSink c) :=
  ⟨[c], by simpa using emits, rfl⟩

theorem emit_emitted (reports : List (NativeReport V)) (s : NativeStream ω V)
    (platform : Platform) :
    Emitted outputSink s.host (s.emit outputSink platform reports).2.host := by
  induction reports generalizing s with
  | nil => exact Emitted.refl _
  | cons report reports ih =>
      have sent : Emitted outputSink s.host (s.host.call outputSink (.emitReport report)) :=
        Emitted.one _ _ rfl
      simp only [emit]
      split
      · exact sent.trans (ih _)
      · exact sent

theorem failActive_emitted (s : NativeStream ω V) (platform : Platform)
    (error : InteractionError) :
    Emitted outputSink s.host (s.failActive outputSink platform error).host := by
  simp only [failActive]
  split
  · exact Emitted.refl _
  · dsimp only
    split
    · exact Emitted.one s.host (.emitFailure _ _ error) rfl
    · exact Emitted.refl _

theorem emitStatus_emitted (s : NativeStream ω V) (platform : Platform)
    (status : SubscriptionStatus) :
    Emitted outputSink s.host (s.emitStatus outputSink platform status).2.host := by
  simp only [emitStatus]
  split
  · exact Emitted.one s.host (.emitStatus status) rfl
  · exact Emitted.refl _

theorem add_emitted (s : NativeStream ω V) (platform : Platform) (result : PathResult V) :
    Emitted outputSink s.host (s.add outputSink platform result).host := by
  simp only [add]
  split
  · exact Emitted.refl _
  · exact failActive_emitted _ _ _

theorem reestablished_emitted (s : NativeStream ω V) (platform : Platform)
    (sdkSubscriptionId minimum maximum : Nat) :
    Emitted outputSink s.host
      (s.reestablished outputSink platform sdkSubscriptionId minimum maximum).host := by
  have told (status : SubscriptionStatus) : Emitted outputSink s.host
      ((s.withSubscription { s.subscription.release.2 with
        recoveryTimerActive := false }).emitStatus outputSink platform status).2.host :=
    emitStatus_emitted (s.withSubscription _) platform status
  simp only [reestablished]
  split
  · exact Emitted.trans (told _) (emit_emitted _ (NativeStream.withSubscription _ _) _)
  · exact Emitted.trans (told _) (failActive_emitted _ _ _)

theorem onSubscriptionEstablished_emitted (s : NativeStream ω V) (platform : Platform)
    (sdkSubscriptionId : Nat) (intervals : Option (Nat × Nat)) :
    Emitted outputSink s.host
      (s.onSubscriptionEstablished outputSink platform sdkSubscriptionId intervals).host := by
  cases intervals with
  | none =>
      simp only [onSubscriptionEstablished]
      split
      · exact failActive_emitted _ _ _
      · exact Emitted.refl _
  | some intervals =>
      simp only [onSubscriptionEstablished]
      split
      · split
        · exact reestablished_emitted _ _ _ _ _
        · exact failActive_emitted _ _ _
      · split
        · exact Emitted.refl _
        · exact Emitted.refl _

theorem onResubscriptionNeeded_emitted (s : NativeStream ω V) (platform : Platform)
    (nowMs : Nat) :
    Emitted outputSink s.host (s.onResubscriptionNeeded outputSink platform nowMs).host := by
  have told (subscription : NativeSubscription V) (status : SubscriptionStatus) :
      Emitted outputSink s.host
        ((s.withSubscription subscription).emitStatus outputSink platform status).2.host :=
    emitStatus_emitted (s.withSubscription subscription) platform status
  simp only [onResubscriptionNeeded]
  split
  · exact Emitted.refl _
  · split
    · exact failActive_emitted _ _ _
    · split
      · exact failActive_emitted _ _ _
      · split
        · exact told _ _
        · exact Emitted.trans (told _ _) (failActive_emitted _ _ _)

theorem callback_emitted (s : NativeStream ω V) (platform : Platform) (callback : Callback V) :
    Emitted outputSink s.host (s.callback outputSink platform callback).host := by
  cases callback with
  | reportBegin => exact Emitted.refl _
  | reportEnd => exact emit_emitted _ _ _
  | data decoded =>
      cases decoded with
      | ok result => exact add_emitted _ _ _
      | error error => exact failActive_emitted _ _ _
  | established sdkSubscriptionId intervals => exact onSubscriptionEstablished_emitted _ _ _ _
  | resubscriptionNeeded nowMs => exact onResubscriptionNeeded_emitted _ _ _
  | error => exact failActive_emitted _ _ _
  | recoveryDeadline => exact failActive_emitted _ _ _
  | done =>
      simp only [callback, onDone]
      split
      · exact failActive_emitted _ _ _
      · exact Emitted.refl _
  | cancelWork => exact Emitted.refl _

theorem Emitted.up {h next : HostProtocol ω (ReportBody V)} (emitted : Emitted outputSink h next)
    (after : next.up = true) : h.up = true := by
  obtain ⟨calls, -, rfl⟩ := emitted
  exact up_of_calls calls after

end NativeStream

/-! ## While the stream is live -/

section Live

variable {ω V : Type} [Text (HostFrame (ReportBody V) InteractionError)]
  {outputSink : ω → HostFrame (ReportBody V) InteractionError → Bool × ω}
  {past : List Milestone} {first : Nat} {s : NativeStream ω V} {platform : Platform}

/-- The stream is live, or the BEAM has been told of its end. -/
def Answered (past : List Milestone) (first : Nat) (s : NativeStream ω V) : Prop :=
  Following past first s ∨ Ended past first s.subscriptionId s.host

/-- What the agreement is about is the same in both. -/
structure Unmoved (n n' : NativeSubscription V) : Prop where
  request : n'.request = n.request
  ok : n'.response.ok = n.response.ok
  failureEmitted : n'.failureEmitted = n.failureEmitted
  cancelled : n'.cancelled = n.cancelled
  buffered : n'.buffer.generation = n.buffer.generation
  generation : n'.recovery.generation = n.recovery.generation
  recovering : n'.recovery.recovering = n.recovery.recovering
  enabled : n'.recovery.enabled = n.recovery.enabled

theorem Following.unmoved (following : Following past first s) {n : NativeSubscription V}
    (unmoved : Unmoved s.subscription n) : Following past first (s.withSubscription n) := by
  have same : (s.withSubscription n).subscriptionId = s.subscriptionId :=
    congrArg SubscriptionRequest.subscriptionId unmoved.request
  obtain ⟨ordered, ok, unfailed, named, buffered, history, only, entry, enabled⟩ := following
  refine ⟨ordered, unmoved.ok.trans ok, unmoved.failureEmitted.trans unfailed, same ▸ named,
    unmoved.buffered.trans (buffered.trans unmoved.generation.symm), ?_, ?_, ?_, ?_⟩
  · rw [same]
    show ∃ history, _ ∧ Replaces first history n.recovery.generation
    rw [unmoved.generation]
    exact history
  · intro g
    rw [same]
    show _ ↔ g = n.recovery.generation
    rw [unmoved.generation]
    exact only g
  · obtain ⟨active, found, generation, resubscribe, recovering⟩ := entry
    refine ⟨active, same ▸ found, generation.trans unmoved.generation.symm, ?_, ?_⟩
    · show active.resubscribe = n.request.resubscribe
      rw [unmoved.request]
      exact resubscribe
    · intro uncancelled
      exact (recovering (unmoved.cancelled.symm.trans uncancelled)).trans unmoved.recovering.symm
  · intro uncancelled
    show n.recovery.enabled = n.request.resubscribe
    rw [unmoved.enabled, unmoved.request]
    exact enabled (unmoved.cancelled.symm.trans uncancelled)

theorem Following.spared (following : Following past first s) {next : HostProtocol ω (ReportBody V)}
    (ordered : Ordered next) (spares : Spares s.subscriptionId s.host next) :
    Following past first { s with host := next } where
  ordered := ordered
  ok := following.ok
  unfailed := following.unfailed
  named := following.named
  buffered := following.buffered
  history := by
    show ∃ history, milestones s.subscriptionId next.flow.events = _ ∧ _
    rw [spares.milestones]
    exact following.history
  only := by
    intro g
    show opened g (milestones s.subscriptionId next.flow.events) = true ↔ _
    rw [spares.milestones]
    exact following.only g
  entry := by
    show ∃ active, next.subscriptions.lookup s.subscriptionId = some active ∧ _
    rw [spares.entry]
    exact following.entry
  enabled := following.enabled

theorem Following.live (following : Following past first s) (up : s.host.up = true) (g : Nat) :
    s.host.flow.isLive s.subscriptionId g = true ↔ g = s.subscription.recovery.generation := by
  obtain ⟨isHealthy, isOpen⟩ := up_iff.1 up
  rw [isLive_of_milestones (following.ordered isHealthy isOpen).traced]
  exact following.only g

/-- The two frames of a failure end the generation that is live. -/
theorem Following.ended (following : Following past first s) {next : HostProtocol ω (ReportBody V)}
    (ordered : Ordered next)
    (adds : Adds s.subscriptionId [.failed s.subscription.recovery.generation,
      .retired s.subscription.recovery.generation] s.host next)
    (erased : next.subscriptions = s.host.subscriptions.erase s.subscriptionId) :
    Ended past first s.subscriptionId next where
  absent :=
    { ordered
      gone := by
        intro g
        rw [adds.milestones, List.append_cons, opened_snoc, opened_snoc]
        by_cases here : s.subscription.recovery.generation = g
        · simp [here]
        · simp only [here, ↓reduceIte]
          rw [← Bool.not_eq_true, following.only g]
          exact fun same => here same.symm
      entry := by rw [erased, Table.lookup_erase, if_pos rfl] }
  history := by
    obtain ⟨history, known, replaces⟩ := following.history
    exact ⟨history, _, by rw [adds.milestones, known], replaces⟩

/-- **`FailActive`** of a live stream is told. -/
theorem failActive_ended (following : Following past first s) (error : InteractionError)
    (after : (s.failActive outputSink platform error).host.up = true) :
    Ended past first s.subscriptionId (s.failActive outputSink platform error).host := by
  have up := (NativeStream.failActive_emitted s platform error).up after
  have live := (following.live up _).2 rfl
  have sent : (s.failActive outputSink platform error).host =
      s.host.emitFailure outputSink s.subscriptionId s.subscription.recovery.generation error := by
    simp only [NativeStream.failActive, following.unfailed, following.ok, Bool.false_eq_true,
      ↓reduceIte]
    rfl
  rw [sent] at after ⊢
  obtain ⟨adds, erased⟩ := emitFailure_adds s.subscriptionId following.ordered up live error
    (up_iff.1 after).1
  rw [ownMilestones_self] at adds
  exact following.ended (emitFailure_ordered following.ordered _ _ _) adds erased

theorem Following.failActive (following : Following past first s) (error : InteractionError)
    (after : (s.failActive outputSink platform error).host.up = true) :
    Answered past first (s.failActive outputSink platform error) := by
  have same : (s.failActive outputSink platform error).subscriptionId = s.subscriptionId :=
    congrArg SubscriptionRequest.subscriptionId (NativeStream.failActive_request s platform error)
  refine .inr ?_
  rw [same]
  exact failActive_ended following error after

/-- A report leaves the stream live unless it overflows its queue, and then it is refused. -/
theorem emitReport_answered (following : Following past first s) (report : NativeReport V)
    (after : (s.host.emitReport outputSink report).2.up = true) :
    Following past first { s with host := (s.host.emitReport outputSink report).2 } ∨
      ((s.host.emitReport outputSink report).1 = false ∧
        Ended past first s.subscriptionId (s.host.emitReport outputSink report).2) := by
  have up := up_of_call (.emitReport report) after
  have ordered : Ordered (s.host.emitReport outputSink report).2 :=
    emitReport_ordered following.ordered report
  rcases emitReport_adds s.subscriptionId following.ordered up report (up_iff.1 after).1 with
    ⟨adds, subscriptions⟩ | ⟨refused, live, adds, erased⟩
  · exact .inl (following.spared ordered (adds.spares (congrArg _ subscriptions)))
  · by_cases own : report.subscriptionId = s.subscriptionId
    · rw [own] at live adds erased
      rw [ownMilestones_self, (following.live up _).1 live] at adds
      exact .inr ⟨refused, following.ended ordered adds erased⟩
    · rw [ownMilestones_other own] at adds
      refine .inl (following.spared ordered (adds.spares ?_))
      rw [erased, Table.lookup_erase, if_neg (Ne.symm own)]

theorem scheduleCancel_unmoved (n : NativeSubscription V) (platform : Platform) :
    Unmoved n (n.scheduleCancel platform) :=
  ⟨by simp, by simp, by simp, by simp, by simp, by simp, by simp, by simp⟩

/-- A batch is told to its end, or the stream has ended and the rest is refused. -/
theorem emit_answered (reports : List (NativeReport V)) :
    ∀ s : NativeStream ω V, Following past first s →
      (s.emit outputSink platform reports).2.host.up = true →
      Following past first (s.emit outputSink platform reports).2 ∨
        ((s.emit outputSink platform reports).1 = false ∧
          Ended past first (s.emit outputSink platform reports).2.subscriptionId
            (s.emit outputSink platform reports).2.host) := by
  induction reports with
  | nil => exact fun s following _ => .inl following
  | cons report reports ih =>
      intro s following after
      rw [NativeStream.emit] at after ⊢
      split at after
      · rename_i taken
        rw [if_pos taken]
        have middle := (NativeStream.emit_emitted reports _ platform).up after
        rcases emitReport_answered following report middle with still | ⟨refused, -⟩
        · exact ih _ still after
        · rw [taken] at refused
          cases refused
      · rename_i refused
        rw [if_neg refused]
        have same : (s.subscription.scheduleCancel platform).request = s.subscription.request := by
          simp
        rcases emitReport_answered following report after with still | ⟨-, ended⟩
        · exact .inl (still.unmoved (scheduleCancel_unmoved _ _))
        · refine .inr ⟨rfl, ?_⟩
          show Ended past first (s.subscription.scheduleCancel platform).request.subscriptionId _
          rw [same]
          exact ended

/-! ### Statuses -/

theorem Replaces.append {history turns : List Milestone} {middle last : Nat}
    (front : Replaces first history middle) (back : Replaces middle turns last) :
    Replaces first (history ++ turns) last := by
  rw [Replaces, Monitor.run_append, front]
  exact back

/-- The host leaves a status alone or takes it. -/
theorem emitStatus_turns (following : Following past first s) (status : SubscriptionStatus)
    (own : status.subscriptionId = s.subscriptionId)
    (after : (s.emitStatus outputSink platform status).2.host.up = true) :
    s.emitStatus outputSink platform status = (false, s) ∧
        ¬ (platform.statusSink = true ∧ s.host.takesStatus status = true) ∨
      ∃ active next, s.host.subscriptions.lookup s.subscriptionId = some active ∧
        active.takes status = true ∧ Ordered next ∧
        s.emitStatus outputSink platform status = (true, { s with host := next }) ∧
        Told s.subscriptionId status active s.host next := by
  have up := (NativeStream.emitStatus_emitted s platform status).up after
  cases sink : platform.statusSink with
  | false => exact .inl ⟨by simp [NativeStream.emitStatus, sink], by simp⟩
  | true =>
      simp only [NativeStream.emitStatus, sink, ↓reduceIte] at after ⊢
      rcases emitStatus_cases s.subscriptionId following.ordered up status (up_iff.1 after).1 with
        ⟨refuses, same⟩ | ⟨active, found, takes, sent, told⟩
      · exact .inl ⟨by rw [same], by simp [refuses]⟩
      · refine .inr ⟨active, _, own ▸ found, ?_, emitStatus_ordered following.ordered status,
          by rw [sent], told⟩
        simp only [takesStatus, found, Option.any_some, Bool.and_eq_true] at takes
        exact takes.2.2

/-- A status of the live generation keeps it. -/
theorem Following.turned (following : Following past first s) {status : SubscriptionStatus}
    (own : status.subscriptionId = s.subscriptionId) {active : ActiveSubscription}
    {next : HostProtocol ω (ReportBody V)}
    (found : s.host.subscriptions.lookup s.subscriptionId = some active)
    (ordered : Ordered next) (told : Told s.subscriptionId status active s.host next)
    {turn : Milestone} (turns : active.turns status = [turn])
    (stays : ∀ g, turn ≠ .added g ∧ turn ≠ .retired g ∧ turn ≠ .failed g)
    (same : (active.after status).generation = active.generation ∧
      (active.after status).resubscribe = active.resubscribe)
    {recovery : SubscriptionRecovery}
    (generation : recovery.generation = s.subscription.recovery.generation)
    (enabled : recovery.enabled = s.subscription.recovery.enabled)
    (recovering : s.subscription.cancelled = false →
      (active.after status).recovering = recovery.recovering) :
    Following past first
      { subscription := { s.subscription with recovery }, host := next } := by
  have adds := told.adds
  rw [own, turns, ownMilestones_self] at adds
  refine
    { ordered
      ok := following.ok
      unfailed := following.unfailed
      named := following.named
      buffered := following.buffered.trans generation.symm
      history := ?_
      only := ?_
      entry := ?_
      enabled := fun uncancelled => enabled.trans (following.enabled uncancelled) }
  · obtain ⟨history, known, replaces⟩ := following.history
    refine ⟨history ++ [turn], ?_, replaces.append ?_⟩
    · exact adds.milestones.trans (by rw [known, List.append_assoc])
    · show Replaces _ _ recovery.generation
      rw [generation]
      cases turn with
      | added g => exact absurd rfl (stays g).1
      | retired g => exact absurd rfl (stays g).2.1
      | failed g => exact absurd rfl (stays g).2.2
      | _ => rfl
  · intro g
    show opened g (milestones s.subscriptionId next.flow.events) = true ↔ g = recovery.generation
    rw [generation, adds.milestones, ← following.only g, opened_snoc]
    cases turn with
    | added g => exact absurd rfl (stays g).1
    | retired g => exact absurd rfl (stays g).2.1
    | _ => rfl
  · obtain ⟨entry, known, number, resubscribe, -⟩ := following.entry
    obtain rfl := Option.some.inj (found.symm.trans known)
    refine ⟨active.after status, ?_, ?_, same.2.trans resubscribe, recovering⟩
    · show next.subscriptions.lookup s.subscriptionId = _
      rw [told.subscriptions, own, Table.lookup_insert, if_pos rfl]
    · exact same.1.trans (number.trans generation.symm)

theorem established_unmoved (n : NativeSubscription V) (sdkSubscriptionId minimum maximum : Nat) :
    (n.buffer.establish sdkSubscriptionId minimum maximum).2.generation = n.buffer.generation := by
  unfold SubscriptionBuffer.establish
  split <;> rfl

theorem store_generation (b : SubscriptionBuffer V) (report : NativeReport V) :
    (b.store report).generation = b.generation := by
  unfold SubscriptionBuffer.store
  split <;> rfl

theorem remember_generation (b : SubscriptionBuffer V) (result : PathResult V) :
    (b.remember result).generation = b.generation := by
  unfold SubscriptionBuffer.remember
  split
  · rfl
  · split <;> rfl

theorem add_generation (b : SubscriptionBuffer V) (result : PathResult V) :
    (b.add result).2.generation = b.generation := by
  unfold SubscriptionBuffer.add
  split
  · rfl
  · split
    · rfl
    · split
      · rfl
      · exact (store_generation _ _).trans (remember_generation _ _)

theorem release_unmoved (n : NativeSubscription V) : Unmoved n n.release.2 := by
  refine ⟨rfl, rfl, rfl, rfl, ?_, rfl, rfl, rfl⟩
  show n.buffer.activate.takeReady.2.generation = n.buffer.generation
  unfold SubscriptionBuffer.activate
  split <;> rfl

theorem reestablished_answered (following : Following past first s)
    (sdkSubscriptionId minimum maximum : Nat)
    (after : (s.reestablished outputSink platform sdkSubscriptionId minimum maximum).host.up =
      true) :
    Answered past first
      (s.reestablished outputSink platform sdkSubscriptionId minimum maximum) := by
  have quiet : Following past first (s.withSubscription
      { s.subscription.release.2 with recoveryTimerActive := false }) :=
    following.unmoved { release_unmoved s.subscription with }
  simp only [NativeStream.reestablished] at after ⊢
  generalize s.withSubscription { s.subscription.release.2 with
    recoveryTimerActive := false } = t at quiet after ⊢
  split at after
  · rename_i taken
    rw [if_pos taken]
    have middle := (NativeStream.emit_emitted _ _ _).up after
    rcases emitStatus_turns quiet _ rfl middle with
      ⟨refused, -⟩ | ⟨active, next, found, takes, ordered, sent, told⟩
    · rw [refused] at taken
      cases taken
    · rw [sent] at after ⊢
      refine (emit_answered _ _ ?_ after).imp id And.right
      exact quiet.turned rfl found ordered told rfl (by simp) ⟨rfl, rfl⟩ rfl rfl (fun _ => rfl)
  · rename_i refused
    rw [if_neg refused]
    have middle := (NativeStream.failActive_emitted _ _ _).up after
    rcases emitStatus_turns quiet _ rfl middle with
      ⟨same, -⟩ | ⟨active, next, found, takes, ordered, sent, told⟩
    · rw [same] at after ⊢
      exact quiet.failActive _ after
    · rw [sent] at refused
      exact absurd rfl refused

theorem onSubscriptionEstablished_answered (following : Following past first s)
    (sdkSubscriptionId : Nat) (intervals : Option (Nat × Nat))
    (after : (s.onSubscriptionEstablished outputSink platform sdkSubscriptionId
      intervals).host.up = true) :
    Answered past first
      (s.onSubscriptionEstablished outputSink platform sdkSubscriptionId intervals) := by
  cases intervals with
  | none =>
      simp only [NativeStream.onSubscriptionEstablished, following.ok, ↓reduceIte] at after ⊢
      exact following.failActive _ after
  | some intervals =>
      obtain ⟨minimum, maximum⟩ := intervals
      have settled : Unmoved s.subscription { s.subscription with
          buffer := (s.subscription.buffer.establish sdkSubscriptionId minimum maximum).2 } :=
        ⟨rfl, rfl, rfl, rfl, established_unmoved _ _ _ _, rfl, rfl, rfl⟩
      simp only [NativeStream.onSubscriptionEstablished] at after ⊢
      split at after
      · rename_i recovering
        rw [if_pos recovering]
        split at after
        · rename_i established
          rw [if_pos established]
          exact reestablished_answered (following.unmoved settled) _ _ _ after
        · rename_i refused
          rw [if_neg refused]
          exact (following.unmoved settled).failActive _ after
      · rename_i settledDown
        rw [if_neg settledDown]
        split
        · exact .inl (following.unmoved { settled with ok := following.ok.symm })
        · refine .inl (following.unmoved ?_)
          exact ⟨by simp, by simp, by simp, by simp, by simpa using settled.buffered, by simp,
            by simp, by simp⟩

/-! ### Attempts -/

theorem SubscriptionRecovery.next_opens {r : SubscriptionRecovery} (enabled : r.enabled = true)
    (settled : r.recovering = false) (room : r.generation ≠ maxU64) (nowMs : Nat) :
    r.next nowMs = (⟨.retry, r.generation + 1, 1, kMaximumDurationMs⟩, { r with
      recovering := true
      startedMs := nowMs
      generation := r.generation + 1
      attempts := 1 }) := by
  simp [next, entered, enabled, settled, room, kMaximumDurationMs, kMaximumAttempts]

/-- Outside the opening of a window the generation stays, and only a window grants an
attempt. -/
theorem SubscriptionRecovery.next_stays {r : SubscriptionRecovery}
    (stays : ¬ (r.enabled = true ∧ r.recovering = false ∧ r.generation ≠ maxU64)) (nowMs : Nat) :
    ((r.next nowMs).2.generation = r.generation ∧ (r.next nowMs).2.recovering = r.recovering ∧
      (r.next nowMs).2.enabled = r.enabled) ∧ (r.next nowMs).1.generation = r.generation ∧
      ((r.next nowMs).1.action = .retry → r.recovering = true) := by
  unfold next
  split
  · exact ⟨⟨rfl, rfl, rfl⟩, rfl, by simp⟩
  · rename_i enabled
    split
    · exact ⟨⟨rfl, rfl, rfl⟩, rfl, by simp⟩
    · rename_i room
      have recovering : r.recovering = true := by
        by_contra settled
        simp only [Bool.not_eq_true] at settled
        exact stays ⟨by simpa using enabled, settled, by simpa [settled] using room⟩
      have window : r.entered nowMs = r := by simp [entered, recovering]
      simp only [window]
      split
      · exact ⟨⟨rfl, rfl, rfl⟩, rfl, by simp⟩
      · exact ⟨⟨rfl, rfl, rfl⟩, rfl, fun _ => recovering⟩

/-- Without a new window the buffer keeps its generation. -/
theorem nextAttempt_unmoved (following : Following past first s)
    (stays : ¬ (s.subscription.recovery.enabled = true ∧
      s.subscription.recovery.recovering = false ∧
      s.subscription.recovery.generation ≠ maxU64)) (nowMs : Nat) :
    Unmoved s.subscription (s.subscription.nextAttempt nowMs).2.2 := by
  obtain ⟨⟨generation, recovering, enabled⟩, named, -⟩ :=
    SubscriptionRecovery.next_stays stays nowMs
  refine ⟨rfl, rfl, rfl, rfl, ?_, generation, recovering, enabled⟩
  simp only [NativeSubscription.nextAttempt]
  split
  · unfold SubscriptionBuffer.prepareRecovery
    split
    · rename_i admits
      simp only [SubscriptionBuffer.admitsRecovery, Bool.and_eq_true, decide_eq_true_eq] at admits
      have successor := admits.2.2.2
      rw [named, following.buffered] at successor
      omega
    · rfl
  · rfl

/-- A later attempt is told under the generation that is live. -/
theorem attempted_answered (following : Following past first s)
    (uncancelled : s.subscription.cancelled = false)
    (recovering : s.subscription.recovery.recovering = true) {status : SubscriptionStatus}
    (kind : status.status = .resubscribing) (own : status.subscriptionId = s.subscriptionId)
    {error : InteractionError}
    (after : (if (s.emitStatus outputSink platform status).1 then
        (s.emitStatus outputSink platform status).2
      else (s.emitStatus outputSink platform status).2.failActive outputSink platform
        error).host.up = true) :
    Answered past first
      (if (s.emitStatus outputSink platform status).1 then
        (s.emitStatus outputSink platform status).2
      else (s.emitStatus outputSink platform status).2.failActive outputSink platform error) := by
  split at after
  · rename_i taken
    rw [if_pos taken]
    rcases emitStatus_turns following status own after with
      ⟨refused, -⟩ | ⟨active, next, found, -, ordered, sent, told⟩
    · rw [refused] at taken
      cases taken
    · obtain ⟨entry, known, -, -, agree⟩ := following.entry
      obtain rfl := Option.some.inj (found.symm.trans known)
      have entered : active.recovering = true := (agree uncancelled).trans recovering
      have turns : active.turns status = [.resubscribing status.generation status.attempt] := by
        simp [ActiveSubscription.turns, kind, entered]
      rw [sent]
      refine .inl (following.turned own found ordered told turns (by simp) ?_ rfl rfl ?_)
      · simp [ActiveSubscription.after, kind, entered]
      · intro _
        simp [ActiveSubscription.after, kind, entered, recovering]
  · rename_i refused
    rw [if_neg refused]
    have middle := (NativeStream.failActive_emitted _ _ _).up after
    rcases emitStatus_turns following status own middle with
      ⟨same, -⟩ | ⟨active, next, -, -, -, sent, -⟩
    · rw [same] at after ⊢
      exact following.failActive _ after
    · rw [sent] at refused
      exact absurd rfl refused

theorem laterAttempt_answered (following : Following past first s)
    (stays : ¬ (s.subscription.recovery.enabled = true ∧
      s.subscription.recovery.recovering = false ∧
      s.subscription.recovery.generation ≠ maxU64)) (nowMs : Nat)
    (after : (s.onResubscriptionNeeded outputSink platform nowMs).host.up = true) :
    Answered past first (s.onResubscriptionNeeded outputSink platform nowMs) := by
  have unmoved := nextAttempt_unmoved following stays nowMs
  obtain ⟨-, named, retries⟩ := SubscriptionRecovery.next_stays stays nowMs
  simp only [NativeStream.onResubscriptionNeeded] at after ⊢
  split at after
  · rename_i early
    rw [if_pos early]
    exact .inl following
  · rename_i going
    rw [if_neg going]
    split at after
    · rename_i refused
      rw [if_pos refused]
      exact (following.unmoved unmoved).failActive _ after
    · rename_i granted
      rw [if_neg granted]
      split at after
      · rename_i timer
        rw [if_pos timer]
        exact (following.unmoved unmoved).failActive _ after
      · rename_i timed
        rw [if_neg timed]
        have uncancelled : s.subscription.cancelled = false := by
          by_contra cancelled
          exact going (.inr (.inl (by simpa using cancelled)))
        have retry : (s.subscription.recovery.next nowMs).1.action = .retry := by
          by_contra other
          exact granted (.inr other)
        have waiting : Following past first ((s.withSubscription _).withSubscription
            { (s.subscription.nextAttempt nowMs).2.2 with recoveryTimerActive := true }) :=
          (following.unmoved unmoved).unmoved ⟨rfl, rfl, rfl, rfl, rfl, rfl, rfl, rfl⟩
        exact attempted_answered waiting uncancelled
          (unmoved.recovering.trans (retries retry)) rfl rfl after

/-- The subscription after the first attempt of a loss window. -/
def NativeSubscription.lost (n : NativeSubscription V) (nowMs : Nat) : NativeSubscription V :=
  { n with
    recovery := { n.recovery with
      recovering := true
      startedMs := nowMs
      generation := n.recovery.generation + 1
      attempts := 1 }
    buffer := n.buffer.recovered (n.recovery.generation + 1)
    recoveryTimerActive := true
    recoveryAttempt := 1 }

/-- With an active buffer and a timer the first attempt gets as far as the host. -/
theorem firstAttempt_told (following : Following past first s)
    (opens : s.subscription.opensWindow = true) (active : s.subscription.buffer.active = true)
    (timer : platform.timerStarts = true) (nowMs : Nat) :
    let told := (s.withSubscription (s.subscription.lost nowMs)).emitStatus outputSink platform
      ((s.subscription.lost nowMs).resubscribing
        ⟨.retry, s.subscription.recovery.generation + 1, 1, kMaximumDurationMs⟩)
    s.onResubscriptionNeeded outputSink platform nowMs = if told.1 then told.2
      else told.2.failActive outputSink platform { code := "subscription_unavailable" } := by
  simp only [NativeSubscription.opensWindow, Bool.and_eq_true, Bool.not_eq_true',
    decide_eq_true_eq] at opens
  obtain ⟨⟨⟨⟨⟨ok, uncancelled⟩, unfinished⟩, enabled⟩, settled⟩, room⟩ := opens
  have decided := SubscriptionRecovery.next_opens enabled settled room nowMs
  have admits : s.subscription.buffer.admitsRecovery
      (s.subscription.recovery.generation + 1) = true := by
    simp [SubscriptionBuffer.admitsRecovery, active, following.buffered, room]
  have attempt : s.subscription.nextAttempt nowMs =
      (⟨.retry, s.subscription.recovery.generation + 1, 1, kMaximumDurationMs⟩, true,
        { s.subscription.lost nowMs with
          recoveryTimerActive := s.subscription.recoveryTimerActive }) := by
    simp [NativeSubscription.nextAttempt, decided, SubscriptionBuffer.prepareRecovery, admits,
      NativeSubscription.lost]
  simp only [NativeStream.onResubscriptionNeeded, attempt]
  rw [if_neg (by simp [ok, uncancelled, unfinished]), if_neg (by simp), if_neg (by simp [timer])]
  rfl

/-- The host has moved to the generation the subscription waits for. -/
theorem Following.advanced (following : Following past first s) {entry : ActiveSubscription}
    {next : HostProtocol ω (ReportBody V)} {attempt : Nat} (nowMs : Nat) (ordered : Ordered next)
    (adds : Adds s.subscriptionId
      [.resubscribing (s.subscription.recovery.generation + 1) attempt,
        .retired s.subscription.recovery.generation,
        .added (s.subscription.recovery.generation + 1)] s.host next)
    (found : next.subscriptions.lookup s.subscriptionId = some entry)
    (number : entry.generation = s.subscription.recovery.generation + 1)
    (resubscribe : entry.resubscribe = s.subscription.request.resubscribe)
    (recovering : entry.recovering = true) :
    Following past first { subscription := s.subscription.lost nowMs, host := next } where
  ordered := ordered
  ok := following.ok
  unfailed := following.unfailed
  named := following.named
  buffered := rfl
  history := by
    obtain ⟨history, known, replaces⟩ := following.history
    refine ⟨history ++ [.resubscribing (s.subscription.recovery.generation + 1) attempt,
      .retired s.subscription.recovery.generation,
      .added (s.subscription.recovery.generation + 1)], ?_, replaces.append ?_⟩
    · exact adds.milestones.trans (by rw [known, List.append_assoc])
    · simp [Replaces, Monitor.run, Milestone.next, NativeSubscription.lost]
  only := by
    intro g
    have moved := adds.milestones
    rw [List.append_cons, List.append_cons] at moved
    show opened g (milestones s.subscriptionId next.flow.events) = true ↔
      g = s.subscription.recovery.generation + 1
    rw [moved, opened_snoc, opened_snoc, opened_snoc]
    dsimp only
    by_cases fresh : s.subscription.recovery.generation + 1 = g
    · simp [fresh]
    · by_cases stale : s.subscription.recovery.generation = g
      · simp [stale]
      · simp only [fresh, stale, ↓reduceIte]
        rw [following.only g]
        constructor
        · exact fun same => absurd same.symm stale
        · exact fun same => absurd same.symm fresh
  entry := ⟨entry, found, number, resubscribe, fun _ => recovering⟩
  enabled := following.enabled

/-- **The first attempt of a loss window**: the three parties move on together. -/
theorem firstAttempt_following (following : Following past first s)
    (opens : s.subscription.opensWindow = true) (active : s.subscription.buffer.active = true)
    (timer : platform.timerStarts = true) (sink : platform.statusSink = true) (nowMs : Nat)
    (after : (s.onResubscriptionNeeded outputSink platform nowMs).host.up = true) :
    Following past first (s.onResubscriptionNeeded outputSink platform nowMs) := by
  have going := opens
  simp only [NativeSubscription.opensWindow, Bool.and_eq_true, Bool.not_eq_true',
    decide_eq_true_eq] at going
  obtain ⟨⟨⟨⟨⟨ok, uncancelled⟩, unfinished⟩, enabled⟩, settled⟩, room⟩ := going
  obtain ⟨entry, found, number, resubscribe, recovering⟩ := following.entry
  have recoverable : entry.resubscribe = true :=
    resubscribe.trans ((following.enabled uncancelled).symm.trans enabled)
  have resting : entry.recovering = false := (recovering uncancelled).trans settled
  have up := (NativeStream.onResubscriptionNeeded_emitted s platform nowMs).up after
  rw [firstAttempt_told following opens active timer nowMs] at after ⊢
  generalize status : (s.subscription.lost nowMs).resubscribing
    ⟨.retry, s.subscription.recovery.generation + 1, 1, kMaximumDurationMs⟩ = lost at after ⊢
  have kind : lost.status = .resubscribing := by rw [← status]; rfl
  have own : lost.subscriptionId = s.subscriptionId := by rw [← status]; rfl
  have next : lost.generation = s.subscription.recovery.generation + 1 := by rw [← status]; rfl
  have continuity : lost.continuity = .lost := by rw [← status]; rfl
  have attempt : lost.attempt = 1 := by rw [← status]; rfl
  have takes : s.host.takesStatus lost = true := by
    have known : s.host.subscriptions.lookup lost.subscriptionId = some entry := own ▸ found
    simp [takesStatus, own ▸ following.named, known, recoverable, ActiveSubscription.takes, kind,
      resting, number, next, attempt, continuity, room]
  simp only [NativeStream.emitStatus, sink, ↓reduceIte] at after ⊢
  rw [show (s.withSubscription (s.subscription.lost nowMs)).host = s.host from rfl] at after ⊢
  have told : (s.host.emitStatus outputSink lost).1 = true ∧
      Told s.subscriptionId lost entry s.host (s.host.emitStatus outputSink lost).2 := by
    have healthy : (s.host.emitStatus outputSink lost).2.healthy = true := by
      split at after
      · exact (up_iff.1 after).1
      · exact (up_iff.1 ((NativeStream.failActive_emitted _ _ _).up after)).1
    rcases emitStatus_cases s.subscriptionId following.ordered up lost healthy with
      ⟨refuses, -⟩ | ⟨active, known, -, sent, told⟩
    · rw [takes] at refuses
      cases refuses
    · rw [own] at known
      obtain rfl := Option.some.inj (found.symm.trans known)
      exact ⟨sent, told⟩
  rw [if_pos told.1]
  have adds := told.2.adds
  rw [own, ownMilestones_self, ActiveSubscription.turns, kind] at adds
  simp only [resting, Bool.false_eq_true, ↓reduceIte, number, next] at adds
  have known : (s.host.emitStatus outputSink lost).2.subscriptions.lookup s.subscriptionId =
      some (entry.after lost) := by
    rw [told.2.subscriptions, own, Table.lookup_insert, if_pos rfl]
  refine following.advanced nowMs (emitStatus_ordered following.ordered lost) adds known ?_ ?_ ?_
  · simp [ActiveSubscription.after, kind, resting, next]
  · simp [ActiveSubscription.after, kind, resting, resubscribe]
  · simp [ActiveSubscription.after, kind, resting]

/-! ### Runs -/

theorem callback_following (following : Following past first s) (callback : Callback V)
    (clean : s.opensCleanly (.callback platform callback) = true)
    (after : (s.callback outputSink platform callback).host.up = true) :
    Answered past first (s.callback outputSink platform callback) := by
  have up := (NativeStream.callback_emitted s platform callback).up after
  cases callback with
  | reportBegin =>
      refine .inl (following.unmoved ⟨rfl, rfl, rfl, rfl, ?_, rfl, rfl, rfl⟩)
      simp only [SubscriptionBuffer.beginReport]
      split <;> rfl
  | reportEnd =>
      refine (emit_answered _ _ (following.unmoved ?_) after).imp id And.right
      exact ⟨rfl, rfl, rfl, rfl, rfl, rfl, rfl, rfl⟩
  | data decoded =>
      cases decoded with
      | ok result =>
          have added : Following past first (s.withSubscription { s.subscription with
              buffer := (s.subscription.buffer.add result).2 }) := by
            refine following.unmoved ⟨rfl, rfl, rfl, rfl, ?_, rfl, rfl, rfl⟩
            exact add_generation _ _
          simp only [NativeStream.callback, NativeStream.add] at after ⊢
          split at after
          · rename_i accepted
            rw [if_pos accepted]
            exact .inl added
          · rename_i refused
            rw [if_neg refused]
            exact added.failActive _ after
      | error error => exact following.failActive _ after
  | established sdkSubscriptionId intervals =>
      exact onSubscriptionEstablished_answered following _ _ after
  | resubscriptionNeeded nowMs =>
      by_cases opens : s.subscription.opensWindow = true
      · have live := (following.live up _).2 rfl
        simp only [NativeStream.opensCleanly, live, opens, Bool.and_self, Bool.not_true,
          Bool.false_or, Bool.and_eq_true] at clean
        obtain ⟨⟨active, timer⟩, sink⟩ := clean
        exact .inl (firstAttempt_following following opens active timer sink nowMs after)
      · by_cases early : s.subscription.cancelled = true ∨ s.subscription.done = true
        · have same : s.onResubscriptionNeeded outputSink platform nowMs = s := by
            unfold NativeStream.onResubscriptionNeeded
            rw [if_pos (.inr early)]
          rw [NativeStream.callback, same]
          exact .inl following
        · refine laterAttempt_answered following ?_ nowMs after
          push Not at early
          simp only [NativeSubscription.opensWindow, following.ok, Bool.true_and, Bool.and_eq_true,
            Bool.not_eq_true', decide_eq_true_eq, Bool.not_eq_true] at opens early ⊢
          grind
  | error => exact following.failActive _ after
  | recoveryDeadline =>
      refine Following.failActive (following.unmoved ?_) _ after
      exact ⟨rfl, rfl, rfl, rfl, rfl, rfl, rfl, rfl⟩
  | done =>
      have quiet : Following past first (s.withSubscription { s.subscription with
          recoveryTimerActive := false }) :=
        following.unmoved ⟨rfl, rfl, rfl, rfl, rfl, rfl, rfl, rfl⟩
      simp only [NativeStream.callback, NativeStream.onDone] at after ⊢
      split at after
      · rename_i terminal
        rw [if_pos terminal]
        exact (quiet.failActive _ after).imp
          (fun still => still.unmoved ⟨rfl, rfl, rfl, rfl, rfl, rfl, rfl, rfl⟩) id
      · rename_i silent
        rw [if_neg silent]
        exact .inl (quiet.unmoved ⟨rfl, rfl, rfl, rfl, rfl, rfl, rfl, rfl⟩)
  | cancelWork =>
      refine .inl { following with entry := ?_, enabled := ?_ }
      · obtain ⟨active, found, number, resubscribe, -⟩ := following.entry
        exact ⟨active, found, number, resubscribe, by simp [NativeStream.callback,
          NativeStream.withSubscription, NativeSubscription.cancelOnSdkThread]⟩
      · simp [NativeStream.callback, NativeStream.withSubscription,
          NativeSubscription.cancelOnSdkThread]

theorem emit_request (reports : List (NativeReport V)) : ∀ s : NativeStream ω V,
    (s.emit outputSink platform reports).2.subscription.request = s.subscription.request := by
  induction reports with
  | nil => exact fun s => rfl
  | cons report reports ih =>
      intro s
      simp only [NativeStream.emit]
      split
      · exact ih _
      · simp

theorem callback_request (s : NativeStream ω V) (callback : Callback V) :
    (s.callback outputSink platform callback).subscription.request = s.subscription.request := by
  cases callback with
  | reportBegin | cancelWork => rfl
  | reportEnd => exact emit_request _ _
  | data decoded =>
      cases decoded with
      | ok result =>
          simp only [NativeStream.callback, NativeStream.add]
          split
          · rfl
          · exact NativeStream.failActive_request _ _ _
      | error error => exact NativeStream.failActive_request _ _ _
  | established sdkSubscriptionId intervals =>
      cases intervals with
      | none =>
          simp only [NativeStream.callback, NativeStream.onSubscriptionEstablished]
          split
          · exact NativeStream.failActive_request _ _ _
          · simp [NativeStream.withSubscription]
      | some intervals =>
          simp only [NativeStream.callback, NativeStream.onSubscriptionEstablished]
          split
          · split
            · simp only [NativeStream.reestablished]
              split
              · rw [emit_request]
                simp [NativeStream.withSubscription, NativeSubscription.release]
              · simp [NativeStream.withSubscription, NativeSubscription.release]
            · exact NativeStream.failActive_request _ _ _
          · split
            · rfl
            · simp [NativeStream.withSubscription]
  | resubscriptionNeeded nowMs =>
      simp only [NativeStream.callback, NativeStream.onResubscriptionNeeded]
      split
      · rfl
      · split
        · exact NativeStream.failActive_request _ _ _
        · split
          · exact NativeStream.failActive_request _ _ _
          · split <;> simp [NativeStream.withSubscription, NativeSubscription.nextAttempt]
  | error => exact NativeStream.failActive_request _ _ _
  | recoveryDeadline => exact NativeStream.failActive_request _ _ _
  | done =>
      simp only [NativeStream.callback, NativeStream.onDone]
      split
      · exact NativeStream.failActive_request _ _ _
      · rfl

theorem take_subscriptionId (s : NativeStream ω V) (move : StreamMove V) :
    (s.take outputSink move).subscriptionId = s.subscriptionId := by
  cases move with
  | callback platform callback =>
      exact congrArg SubscriptionRequest.subscriptionId (callback_request s callback)
  | block block => rfl

theorem run_subscriptionId (moves : List (StreamMove V)) : ∀ s : NativeStream ω V,
    (s.run outputSink moves).subscriptionId = s.subscriptionId := by
  induction moves with
  | nil => exact fun s => rfl
  | cons move moves ih => exact fun s => (ih _).trans (take_subscriptionId s move)

/-- A move whose host is up was made in a host that was up. -/
theorem up_of_take (s : NativeStream ω V) (move : StreamMove V)
    (after : (s.take outputSink move).host.up = true) : s.host.up = true := by
  cases move with
  | callback platform callback => exact (NativeStream.callback_emitted s platform callback).up after
  | block block => exact up_of_call block after

theorem up_of_run (moves : List (StreamMove V)) : ∀ s : NativeStream ω V,
    (s.run outputSink moves).host.up = true → s.host.up = true := by
  induction moves with
  | nil => exact fun s after => after
  | cons move moves ih => exact fun s after => up_of_take s move (ih _ after)

/-- **One move.** -/
theorem take_answered (answered : Answered past first s) (move : StreamMove V)
    (undisturbed : s.undisturbed move = true) (clean : s.opensCleanly move = true)
    (after : (s.take outputSink move).host.up = true) :
    Answered past first (s.take outputSink move) := by
  cases move with
  | callback platform callback =>
      rcases answered with following | ended
      · exact callback_following following callback clean after
      · refine .inr ?_
        rw [take_subscriptionId]
        have emitted : NativeStream.Emitted outputSink s.host
            (s.callback outputSink platform callback).host :=
          NativeStream.callback_emitted s platform callback
        obtain ⟨calls, emits, same⟩ := emitted
        simp only [NativeStream.take] at after ⊢
        rw [same] at after ⊢
        obtain ⟨absent, spares⟩ := calls_absent ended.absent calls emits after
        exact ended.spared absent.ordered spares
  | block block =>
      have other : block.subject? ≠ some s.subscriptionId := by
        simpa [NativeStream.undisturbed] using undisturbed
      rcases answered with following | ended
      · exact .inl (following.spared (call_ordered following.ordered block)
          (call_spares following.ordered block other after))
      · exact .inr (ended.spared (call_ordered ended.absent.ordered block)
          (call_absent ended.absent block (.inr other) after))

/-- **Runs.** -/
theorem run_answered (moves : List (StreamMove V)) : ∀ s : NativeStream ω V,
    Answered past first s → s.eachMove outputSink NativeStream.undisturbed moves = true →
      s.eachMove outputSink NativeStream.opensCleanly moves = true →
      (s.run outputSink moves).host.up = true →
      Answered past first (s.run outputSink moves) := by
  induction moves with
  | nil => exact fun s answered _ _ _ => answered
  | cons move moves ih =>
      intro s answered undisturbed clean after
      simp only [NativeStream.eachMove, Bool.and_eq_true] at undisturbed clean
      have middle := up_of_run moves _ after
      exact ih _ (take_answered answered move undisturbed.1 clean.1 middle) undisturbed.2 clean.2
        after

end Live

/-! ## The end is told -/

section Activated

variable {ω V : Type} [Text (HostFrame (ReportBody V) InteractionError)]

/-- A subscription that is established, in `report_flow_` and active, and has neither failed
nor been cancelled. -/
structure Activated (s : NativeStream ω V) : Prop where
  ordered : Ordered s.host
  ok : s.subscription.response.ok = true
  unfailed : s.subscription.failureEmitted = false
  uncancelled : s.subscription.cancelled = false
  named : s.subscriptionId.isEmpty = false
  buffered : s.subscription.buffer.generation = s.subscription.recovery.generation
  only : ∀ g, opened g (milestones s.subscriptionId s.host.flow.events) = true ↔
    g = s.subscription.recovery.generation
  entry : ∃ active, s.host.subscriptions.lookup s.subscriptionId = some active ∧
    active.generation = s.subscription.recovery.generation ∧
    active.resubscribe = s.subscription.request.resubscribe ∧
    active.recovering = s.subscription.recovery.recovering
  enabled : s.subscription.recovery.enabled = s.subscription.request.resubscribe

theorem Activated.following {s : NativeStream ω V} (activated : Activated s) :
    Following (milestones s.subscriptionId s.host.flow.events) s.subscription.recovery.generation
      s where
  ordered := activated.ordered
  ok := activated.ok
  unfailed := activated.unfailed
  named := activated.named
  buffered := activated.buffered
  history := ⟨[], (List.append_nil _).symm, rfl⟩
  only := activated.only
  entry := by
    obtain ⟨active, found, number, resubscribe, recovering⟩ := activated.entry
    exact ⟨active, found, number, resubscribe, fun _ => recovering⟩
  enabled := fun _ => activated.enabled

theorem Following.activated {past : List Milestone} {first : Nat} {s : NativeStream ω V}
    (following : Following past first s) (uncancelled : s.subscription.cancelled = false) :
    Activated s where
  ordered := following.ordered
  ok := following.ok
  unfailed := following.unfailed
  uncancelled := uncancelled
  named := following.named
  buffered := following.buffered
  only := following.only
  entry := by
    obtain ⟨active, found, number, resubscribe, recovering⟩ := following.entry
    exact ⟨active, found, number, resubscribe, recovering uncancelled⟩
  enabled := following.enabled uncancelled

end Activated

/-! ### Up to the activation -/

section Waiting

variable {ω V : Type} [Text (HostFrame (ReportBody V) InteractionError)]
  {outputSink : ω → HostFrame (ReportBody V) InteractionError → Bool × ω}
  {s : NativeStream ω V} {platform : Platform}

namespace NativeSubscription

/-- The subscription has failed or been cancelled. -/
def isOver (n : NativeSubscription V) : Bool := n.failureEmitted || n.cancelled

/-- No loss window has been opened. -/
structure Unopened (n : NativeSubscription V) : Prop where
  recovery : n.recovery = { enabled := n.request.resubscribe }
  buffered : n.buffer.generation = 1
  response : n.response.ok = true → n.response.generation = 1

@[simp] theorem scheduleCancel_over (n : NativeSubscription V) (platform : Platform) :
    (n.scheduleCancel platform).isOver = n.isOver := by
  simp [isOver]

theorem Unopened.scheduleCancel {n : NativeSubscription V} (unopened : n.Unopened)
    (platform : Platform) : (n.scheduleCancel platform).Unopened :=
  ⟨by simpa using unopened.recovery, by simpa using unopened.buffered,
    by simpa using unopened.response⟩

end NativeSubscription

theorem emit_subscription (reports : List (NativeReport V)) : ∀ s : NativeStream ω V,
    (s.emit outputSink platform reports).2.subscription = s.subscription ∨
      (s.emit outputSink platform reports).2.subscription =
        s.subscription.scheduleCancel platform := by
  induction reports with
  | nil => exact fun s => .inl rfl
  | cons report reports ih =>
      intro s
      simp only [NativeStream.emit]
      split
      · exact ih _
      · exact .inr rfl

theorem failActive_over (s : NativeStream ω V) (platform : Platform) (error : InteractionError) :
    (s.failActive outputSink platform error).subscription.isOver = true := by
  simp [NativeSubscription.isOver]

theorem emit_over (reports : List (NativeReport V)) (s : NativeStream ω V) :
    (s.emit outputSink platform reports).2.subscription.isOver = s.subscription.isOver := by
  rcases emit_subscription reports s with same | same
  · rw [same]
  · rw [same, NativeSubscription.scheduleCancel_over]

theorem emit_cancelled (reports : List (NativeReport V)) (s : NativeStream ω V) :
    (s.emit outputSink platform reports).2.subscription.cancelled = s.subscription.cancelled := by
  rcases emit_subscription reports s with same | same
  · rw [same]
  · rw [same, NativeSubscription.scheduleCancel_cancelled]

/-- What is over stays over. -/
theorem callback_over (callback : Callback V) (ended : s.subscription.isOver = true) :
    (s.callback outputSink platform callback).subscription.isOver = true := by
  cases callback with
  | reportBegin => exact ended
  | reportEnd => exact (emit_over _ _).trans ended
  | data decoded =>
      cases decoded with
      | ok result =>
          simp only [NativeStream.callback, NativeStream.add]
          split
          · exact ended
          · exact failActive_over _ _ _
      | error error => exact failActive_over _ _ _
  | established sdkSubscriptionId intervals =>
      cases intervals with
      | none =>
          simp only [NativeStream.callback, NativeStream.onSubscriptionEstablished]
          split
          · exact failActive_over _ _ _
          · simp only [NativeStream.withSubscription, NativeSubscription.scheduleCancel_over]
            unfold NativeSubscription.publishFailure
            split <;> exact ended
      | some intervals =>
          simp only [NativeStream.callback, NativeStream.onSubscriptionEstablished]
          split
          · split
            · simp only [NativeStream.reestablished]
              split
              · rw [emit_over]
                simpa [NativeStream.withSubscription, NativeSubscription.isOver,
                  NativeSubscription.release] using ended
              · exact failActive_over _ _ _
            · exact failActive_over _ _ _
          · split
            · exact ended
            · simpa [NativeStream.withSubscription, NativeSubscription.isOver] using ended
  | resubscriptionNeeded nowMs =>
      simp only [NativeStream.callback, NativeStream.onResubscriptionNeeded]
      split
      · exact ended
      · split
        · exact failActive_over _ _ _
        · split
          · exact failActive_over _ _ _
          · split
            · simpa [NativeStream.withSubscription, NativeSubscription.nextAttempt,
                NativeSubscription.isOver] using ended
            · exact failActive_over _ _ _
  | error => exact failActive_over _ _ _
  | recoveryDeadline => exact failActive_over _ _ _
  | done =>
      simp only [NativeStream.callback, NativeStream.onDone]
      split
      · exact failActive_over _ _ _
      · exact ended
  | cancelWork => simp [NativeStream.callback, NativeStream.withSubscription,
      NativeSubscription.cancelOnSdkThread, NativeSubscription.isOver]

theorem emit_unopened (reports : List (NativeReport V)) (s : NativeStream ω V)
    (unopened : s.subscription.Unopened) :
    (s.emit outputSink platform reports).2.subscription.Unopened := by
  rcases emit_subscription reports s with same | same
  · rw [same]
    exact unopened
  · rw [same]
    exact unopened.scheduleCancel platform

/-- The host does not take a status of a subscription it does not have. -/
theorem emitStatus_absent {status : SubscriptionStatus}
    (absent : s.host.subscriptions.lookup status.subscriptionId = none) :
    (s.emitStatus outputSink platform status).1 = false := by
  unfold NativeStream.emitStatus
  split
  · simp only [HostProtocol.emitStatus, absent]
    split <;> rfl
  · rfl

theorem callback_unopened (absent : Absent s.subscriptionId s.host)
    (unopened : s.subscription.Unopened) (callback : Callback V)
    (going : (s.callback outputSink platform callback).subscription.isOver = false) :
    (s.callback outputSink platform callback).subscription.Unopened := by
  have failed : ∀ {t : NativeStream ω V} {error : InteractionError} {P : Prop},
      (t.failActive outputSink platform error).subscription.isOver = false → P := by
    intro t error P impossible
    rw [failActive_over] at impossible
    cases impossible
  have settled : s.subscription.recovery.recovering = false := by rw [unopened.recovery]
  cases callback with
  | reportBegin =>
      refine { unopened with buffered := ?_ }
      simp only [NativeStream.callback, NativeStream.withSubscription,
        SubscriptionBuffer.beginReport]
      split <;> exact unopened.buffered
  | reportEnd =>
      simp only [NativeStream.callback, NativeStream.onReportEnd]
      exact emit_unopened _ _ { unopened with }
  | data decoded =>
      cases decoded with
      | ok result =>
          simp only [NativeStream.callback, NativeStream.add] at going ⊢
          split at going
          · rename_i accepted
            rw [if_pos accepted]
            exact { unopened with buffered := (add_generation _ _).trans unopened.buffered }
          · exact failed going
      | error error => exact failed going
  | established sdkSubscriptionId intervals =>
      cases intervals with
      | none =>
          simp only [NativeStream.callback, NativeStream.onSubscriptionEstablished] at going ⊢
          split at going
          · exact failed going
          · rename_i pending
            rw [if_neg pending]
            refine NativeSubscription.Unopened.scheduleCancel ?_ platform
            refine ⟨by simpa using unopened.recovery, by simpa using unopened.buffered, ?_⟩
            simp [pending]
      | some intervals =>
          obtain ⟨minimum, maximum⟩ := intervals
          have kept := (established_unmoved s.subscription sdkSubscriptionId minimum maximum).trans
            unopened.buffered
          simp only [NativeStream.callback, NativeStream.onSubscriptionEstablished, settled,
            Bool.false_eq_true, ↓reduceIte]
          split
          · exact { unopened with buffered := kept, response := fun _ => kept }
          · refine NativeSubscription.Unopened.scheduleCancel ?_ platform
            exact { unopened with buffered := kept }
  | resubscriptionNeeded nowMs =>
      simp only [NativeStream.callback, NativeStream.onResubscriptionNeeded] at going ⊢
      split at going
      · rename_i early
        rw [if_pos early]
        exact unopened
      · split at going
        · exact failed going
        · split at going
          · exact failed going
          · rw [emitStatus_absent] at going
            · exact failed going
            · exact absent.entry
  | error => exact failed going
  | recoveryDeadline => exact failed going
  | done =>
      simp only [NativeStream.callback, NativeStream.onDone] at going ⊢
      split at going
      · exact failed going
      · rename_i silent
        rw [if_neg silent]
        exact { unopened with }
  | cancelWork => simp [NativeStream.callback, NativeStream.withSubscription,
      NativeSubscription.cancelOnSdkThread, NativeSubscription.isOver] at going

/-- A subscription the host does not have yet. -/
structure Waiting (s : NativeStream ω V) : Prop where
  absent : Absent s.subscriptionId s.host
  unopened : s.subscription.isOver = false → s.subscription.Unopened

theorem create_waiting (request : SubscriptionRequest) (host : HostProtocol ω (ReportBody V))
    (absent : Absent request.subscriptionId host) :
    Waiting { subscription := NativeSubscription.create request, host } :=
  ⟨absent, fun _ => ⟨rfl, rfl, fun established => by cases established⟩⟩

theorem take_waiting (waiting : Waiting s) (move : StreamMove V)
    (undisturbed : s.undisturbed move = true)
    (after : (s.take outputSink move).host.up = true) : Waiting (s.take outputSink move) := by
  cases move with
  | callback platform callback =>
      refine ⟨?_, ?_⟩
      · have emitted : NativeStream.Emitted outputSink s.host
            (s.callback outputSink platform callback).host :=
          NativeStream.callback_emitted s platform callback
        obtain ⟨calls, emits, same⟩ := emitted
        rw [take_subscriptionId]
        simp only [NativeStream.take] at after ⊢
        rw [same] at after ⊢
        exact (calls_absent waiting.absent calls emits after).1
      · intro going
        cases ended : s.subscription.isOver with
        | true =>
            rw [NativeStream.take, callback_over callback ended] at going
            cases going
        | false => exact callback_unopened waiting.absent (waiting.unopened ended) callback going
  | block block =>
      have other : block.subject? ≠ some s.subscriptionId := by
        simpa [NativeStream.undisturbed] using undisturbed
      refine ⟨?_, waiting.unopened⟩
      exact waiting.absent.spared (call_ordered waiting.absent.ordered block)
        (call_absent waiting.absent block (.inr other) after)

theorem run_waiting (moves : List (StreamMove V)) : ∀ s : NativeStream ω V, Waiting s →
    s.eachMove outputSink NativeStream.undisturbed moves = true →
      (s.run outputSink moves).host.up = true → Waiting (s.run outputSink moves) := by
  induction moves with
  | nil => exact fun s waiting _ _ => waiting
  | cons move moves ih =>
      intro s waiting undisturbed after
      simp only [NativeStream.eachMove, Bool.and_eq_true] at undisturbed
      exact ih _ (take_waiting waiting move undisturbed.1 (up_of_run moves _ after)) undisturbed.2
        after

/-- The block of `subscribe` that admits the stream the SDK has established. -/
def NativeStream.admitStream (s : NativeStream ω V) : Bool × NativeStream ω V :=
  let added := s.host.admitSubscription s.subscriptionId s.subscription.response.generation
    s.subscription.request.queueLimit s.subscription.request.resubscribe
  (added.1, { s with host := added.2 })

theorem admit_following (waiting : Waiting s) (ok : s.subscription.response.ok = true)
    (going : s.subscription.isOver = false) (named : s.subscriptionId.isEmpty = false)
    (admitted : s.admitStream.1 = true) :
    Following (milestones s.subscriptionId s.admitStream.2.host.flow.events) 1 s.admitStream.2 := by
  obtain ⟨recovery, buffered, response⟩ := waiting.unopened going
  have generation : s.subscription.recovery.generation = 1 := by rw [recovery]
  have added : (s.host.flow.addStream s.subscriptionId 1 s.subscription.request.queueLimit).1 =
      true := by
    simp only [NativeStream.admitStream, HostProtocol.admitSubscription, response ok] at admitted
    split at admitted
    · assumption
    · cases admitted
  have next : s.admitStream.2.host.flow =
      (s.host.flow.addStream s.subscriptionId 1 s.subscription.request.queueLimit).2 := by
    simp only [NativeStream.admitStream, HostProtocol.admitSubscription, response ok, added, ↓reduceIte]
  have told := addStream_milestones s.subscriptionId added
  rw [← next, ownMilestones_self] at told
  refine
    { ordered := admitSubscription_ordered waiting.absent.ordered _ _ _ _
      ok
      unfailed := (Bool.or_eq_false_iff.1 going).1
      named
      buffered := buffered.trans generation.symm
      history := ⟨[], (List.append_nil _).symm, congrArg (some ∘ some) generation.symm⟩
      only := ?_
      entry := ?_
      enabled := fun _ => by
        show s.subscription.recovery.enabled = _
        rw [recovery]
        rfl }
  · intro g
    show opened g (milestones s.subscriptionId s.admitStream.2.host.flow.events) = true ↔
      g = s.subscription.recovery.generation
    rw [told, opened_snoc, generation]
    simp only [waiting.absent.gone g]
    by_cases here : 1 = g
    · simp [here]
    · simp [here, Ne.symm here]
  · refine ⟨{ generation := 1
              queueLimit := s.subscription.request.queueLimit
              resubscribe := s.subscription.request.resubscribe }, ?_, ?_, rfl, ?_⟩
    · show s.admitStream.2.host.subscriptions.lookup s.subscriptionId = _
      simp only [NativeStream.admitStream, HostProtocol.admitSubscription, response ok, added,
        ↓reduceIte, waiting.absent.entry, Option.isSome_none, Bool.false_eq_true]
      rw [Table.lookup_insert, if_pos rfl]
    · exact generation.symm
    · intro _
      show false = s.subscription.recovery.recovering
      rw [recovery]

/-- **The start of the runs below**: the SDK establishes a subscription, the host admits it and
`Activate` hands over what it has gathered. -/
theorem activate_activated (waiting : Waiting s) (ok : s.subscription.response.ok = true)
    (going : s.subscription.isOver = false) (named : s.subscriptionId.isEmpty = false)
    (admitted : s.admitStream.1 = true) (taken : (s.admitStream.2.activate outputSink platform).1 = true)
    (after : (s.admitStream.2.activate outputSink platform).2.host.up = true) :
    Activated (s.admitStream.2.activate outputSink platform).2 := by
  have following := admit_following waiting ok going named admitted
  unfold NativeStream.activate at taken after ⊢
  split at taken
  · cases taken
  · rename_i guards
    rw [if_neg guards] at after ⊢
    push Not at guards
    have released : Following _ _ (s.admitStream.2.withSubscription s.admitStream.2.subscription.release.2) :=
      following.unmoved (release_unmoved _)
    rcases emit_answered _ _ released after with still | ⟨refused, -⟩
    · refine still.activated ?_
      refine (emit_cancelled _ _).trans ?_
      show s.admitStream.2.subscription.cancelled = false
      simpa using guards.2.2
    · rw [refused] at taken
      cases taken

end Waiting

/-! ### The runs -/

/-- **No stream dies silently**: in every run of callbacks on an active subscription whose
loss windows open cleanly, a failure is told by one error and one barrier of the generation
that is live, and nothing after them; before them generations only replace each other. -/
theorem run_told {ω V : Type} [Text (HostFrame (ReportBody V) InteractionError)]
    (outputSink : ω → HostFrame (ReportBody V) InteractionError → Bool × ω)
    (s : NativeStream ω V) (activated : Activated s) (moves : List (StreamMove V))
    (undisturbed : s.eachMove outputSink NativeStream.undisturbed moves = true)
    (clean : s.eachMove outputSink NativeStream.opensCleanly moves = true)
    (up : (s.run outputSink moves).host.up = true)
    (failed : (s.run outputSink moves).subscription.failureEmitted = true) :
    ∃ history generation,
      milestones s.subscriptionId (s.run outputSink moves).host.flow.events =
        milestones s.subscriptionId s.host.flow.events ++ history ++
          [.failed generation, .retired generation] ∧
      Replaces s.subscription.recovery.generation history generation := by
  rcases run_answered moves s (.inl activated.following) undisturbed clean up with
    following | ended
  · rw [following.unfailed] at failed
    cases failed
  · rw [run_subscriptionId] at ended
    exact ended.history

/-- A subscription to the state of one switch, before the SDK has established it. -/
def switchWaiting : NativeStream Unit Nat where
  subscription := NativeSubscription.create switchState
  host := { flow := { sink := { writer := () } }, sessionGeneration := "s" }

/-- It is established, admitted and activated. -/
def switchActive : NativeStream Unit Nat :=
  ((switchWaiting.run accepting [.callback {} (.established 7 (some (1, 60)))]).admitStream.2.activate
    accepting {}).2

theorem switchActive_activated : Activated switchActive := by
  have absent : Absent switchState.subscriptionId switchWaiting.host :=
    ⟨runCalls_ordered accepting () "s" [], fun _ => rfl, rfl⟩
  have waiting : Waiting
      (switchWaiting.run accepting [.callback {} (.established 7 (some (1, 60)))]) :=
    run_waiting _ _ (create_waiting switchState _ absent) (by decide) (by decide)
  exact activate_activated waiting (by decide) (by decide) (by decide) (by decide) (by decide)
    (by decide)

/-- Two windows, and the error of the SDK in the second one. -/
def switchLosses : List (StreamMove Nat) :=
  [.callback {} (.resubscriptionNeeded 0), .callback {} (.resubscriptionNeeded 4000),
    .callback {} (.established 8 (some (1, 60))), .callback {} (.resubscriptionNeeded 90000),
    .callback {} .error]

theorem run_told_twice :
    ∃ history generation,
      milestones switchState.subscriptionId
          (switchActive.run accepting switchLosses).host.flow.events =
        milestones switchState.subscriptionId switchActive.host.flow.events ++ history ++
          [.failed generation, .retired generation] ∧
      Replaces 1 history generation :=
  run_told accepting switchActive switchActive_activated switchLosses (by decide) (by decide)
    (by decide) (by decide)

/-- The timer of the first attempt does not start: the failure is spent on generation 2, which
is not live, and the BEAM is told nothing of the stream of generation 1. -/
theorem run_told_timer :
    let moves : List (StreamMove Nat) :=
      [.callback { timerStarts := false } (.resubscriptionNeeded 0), .callback {} .error,
        .callback {} .done]
    let run := switchActive.run accepting moves
    Activated switchActive ∧ switchActive.eachMove accepting NativeStream.undisturbed moves = true ∧
      run.host.up = true ∧ run.subscription.failureEmitted = true ∧
      run.host.flow.isLive switchState.subscriptionId 1 = true ∧
      milestones switchState.subscriptionId run.host.flow.events = [.added 1] :=
  ⟨switchActive_activated, by decide, by decide, by decide, by decide, by decide⟩

end WotexMatter.Native
