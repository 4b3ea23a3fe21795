/-
# WotexMatter.Native.SdkSlots -- sessions released, slots given back

Two more things about a controller's run.  `ReleaseUnusedSessionSetup` looks for unfinished
contexts of the node under the mutexes and releases the session setup after it has let them
go; the input thread may admit a context in between, but only the SDK thread starts one, so
no operation in progress loses its session (`run_release_unused`).  And the room in the
slots is bounded, and a finished context gives its place back: once the queue is worked off,
no slot holds one (`run_slots`).
-/
import WotexMatter.Native.SdkWorkSafety

set_option autoImplicit false

namespace WotexMatter.Native.SdkWork

/-- A step with which the SDK thread takes something up. -/
def Step.takesUp : Step → Bool
  | .work _ | .complete _ | .deadline _ _ | .finish _ _ _ | .fail _ _ | .undelivered _ _ => true
  | .resubscribe _ _ _ _ | .establish _ _ _ | .stopLoop => true
  | _ => false

/-- `ScheduleWork` refuses no reap and no cancellation. -/
def Step.keepsReaps : Step → Bool
  | .scheduleReap accepted | .scheduleAbort accepted | .scheduleFound _ accepted => accepted
  | .scheduleMarked accepted | .finish _ _ accepted | .fail _ accepted => accepted
  | .undelivered _ accepted | .resubscribe _ _ _ accepted | .establish _ _ accepted => accepted
  | .deadline _ accepted => accepted
  | _ => true

namespace Controller

/-! ## Releasing a session's setup -/

/-- Contexts are only made, finished and freed. -/
structure Ages (s s' : Controller) : Prop where
  contexts : ∀ p c, s'.read p = some c → c.started = true →
    ∃ d, s.read p = some d ∧ d.started = true ∧ d.node = c.node ∧ (d.done = true → c.done = true)
  releasing : s'.releasing = s.releasing

section Ages

variable {s s' s'' : Controller} {p : Pointer} {c : Context}

theorem Ages.refl (s : Controller) : Ages s s :=
  ⟨fun _ c found started => ⟨c, found, started, rfl, id⟩, rfl⟩

theorem Ages.trans (first : Ages s s') (second : Ages s' s'') : Ages s s'' := by
  refine ⟨?_, second.releasing.trans first.releasing⟩
  intro p c found started
  obtain ⟨d, found', started', node, done⟩ := second.contexts p c found started
  obtain ⟨e, found'', started'', node', done'⟩ := first.contexts p d found' started'
  exact ⟨e, found'', started'', node'.trans node, fun was => done (done' was)⟩

/-- Freeing contexts makes none younger. -/
theorem ages_of_read (fewer : ∀ p c, s'.read p = some c → s.read p = some c)
    (releasing : s'.releasing = s.releasing) : Ages s s' :=
  ⟨fun p c found started => ⟨c, fewer p c found, started, rfl, id⟩, releasing⟩

/-- A write that keeps a context's identity, and does not take back `done_`, ages it. -/
theorem ages_modify (found : s.read p = some c) {f : Context → Context}
    (kind : (f c).kind = c.kind) (serial : (f c).serial = c.serial)
    (node : (f c).node = c.node) (started : (f c).started = c.started)
    (done : c.done = true → (f c).done = true) : Ages s (s.modify p f) := by
  refine ⟨?_, modify_releasing⟩
  intro q d found' started'
  rw [read_modify found kind serial] at found'
  split at found'
  · rename_i same
    cases found'
    exact ⟨c, same ▸ found, started ▸ started', node.symm, done⟩
  · exact ⟨d, found', started', rfl, id⟩

/-- What is collected was there before, with the same fields. -/
theorem collect_read {q : Pointer} {d : Context} (found : s.collect.read q = some d) :
    s.read q = some d := by
  obtain ⟨there, kind, serial⟩ := read_eq_some.mp found
  simp only [Controller.collect] at there
  split at there
  · exact read_eq_some.mpr ⟨there, kind, serial⟩
  · cases there

theorem goTo_read {point : CallPoint} {q : Pointer} : (s.goTo point).read q = s.read q := by
  unfold Controller.goTo
  split <;> rfl

/-- Where a call stands is not part of a context. -/
theorem ages_goTo {point : CallPoint} : Ages s (s.goTo point) := by
  refine ages_of_read (fun _ _ found => goTo_read ▸ found) ?_
  unfold Controller.goTo
  split <;> rfl

theorem ages_leave : Ages s s.leave :=
  ages_of_read (fun _ _ found => collect_read (s := { s with calls := s.calls.tail }) found) rfl

theorem ages_scheduleWork {work : Work} {accepted : Bool} :
    Ages s (s.scheduleWork work accepted) := by
  unfold Controller.scheduleWork
  split
  · exact ages_of_read (fun _ _ => id) rfl
  · exact .refl s

/-- Scheduling the cancellation finishes the context at most. -/
theorem ages_scheduleCancel (found : s.read p = some c) (accepted : Bool) :
    Ages s (s.scheduleCancel p accepted) := by
  simp only [Controller.scheduleCancel, found]
  split
  · exact .refl s
  · split
    · have flagged : Ages s (s.modify p fun c => { c with cancelScheduled := true }) :=
        ages_modify found rfl rfl rfl rfl id
      exact flagged.trans ages_scheduleWork
    · exact ages_modify found rfl rfl rfl rfl fun _ => rfl

/-- A response may be published without the context being started. -/
theorem ages_publish (found : s.read p = some c) : Ages s (s.publish p) :=
  ages_modify found rfl rfl rfl rfl id

theorem ages_markUnscheduled (found : s.read p = some c) :
    Ages s (if p.kind = .interaction then
        (s.modify p fun c => { c with done := true }).goTo .dropping
      else match s.markDone p with
        | (marked, true) => marked.goTo .marked
        | (unmarked, false) => unmarked.goTo .waiting) := by
  have marked : Ages s (s.modify p fun c => { c with done := true }) :=
    ages_modify found rfl rfl rfl rfl fun _ => rfl
  split
  · exact marked.trans ages_goTo
  · simp only [markDone, found]
    by_cases done : c.done = true
    · simp only [done, if_true]
      exact ages_goTo
    · simp only [done, Bool.false_eq_true, if_false]
      exact marked.trans ages_goTo

/-- A context is admitted unstarted, so it needs no session yet. -/
theorem ages_admit {kind : ContextKind} {node : UInt64} {address : Nat}
    (vacant : s.heap address = none) : Ages s (s.admitContext kind node address) := by
  refine ⟨?_, rfl⟩
  intro q d found started
  rw [read_admitContext vacant] at found
  split at found
  · cases found
    cases started
  · exact ⟨d, found, started, rfl, id⟩

/-- **Only the SDK thread starts a context**: any other step leaves those that have started older.
-/
theorem step_ages (t : Sound s) {first : Step} (input : first.takesUp = false)
    (other : first ≠ .release) (took : s.step first = some s') : Ages s s' := by
  have live : ∀ {point p}, s.callAt point = some p → ∃ c, s.read p = some c :=
    fun stands => t.of_call (Sound.mem_of_callAt stands)
  cases first with
  | call kind node address =>
      simp only [step, Option.ite_none_right_eq_some, Bool.and_eq_true, Option.isNone_iff_eq_none,
        Option.some.injEq] at took
      obtain ⟨⟨-, vacant⟩, rfl⟩ := took
      split
      · exact ages_admit vacant
      · exact .refl s
  | schedule accepted =>
      obtain ⟨p, stands, rfl⟩ := Option.map_eq_some_iff.mp took
      obtain ⟨c, found⟩ := live stands
      split
      · exact ages_scheduleWork.trans ages_goTo
      · exact (ages_publish found).trans ages_goTo
  | markUnscheduled =>
      obtain ⟨p, stands, rfl⟩ := Option.map_eq_some_iff.mp took
      obtain ⟨c, found⟩ := live stands
      exact ages_markUnscheduled found
  | drop =>
      obtain ⟨p, stands, rfl⟩ := Option.map_eq_some_iff.mp took
      exact (ages_of_read (fun _ _ => id) rfl : Ages s (s.reap p)).trans ages_goTo
  | scheduleReap accepted =>
      obtain ⟨p, stands, rfl⟩ := Option.map_eq_some_iff.mp took
      exact ages_scheduleWork.trans ages_goTo
  | expire =>
      obtain ⟨p, stands, rfl⟩ := Option.map_eq_some_iff.mp took
      obtain ⟨c, found⟩ := live stands
      split
      · exact (ages_publish found).trans ages_leave
      · exact (ages_publish found).trans ages_goTo
  | scheduleAbort accepted =>
      obtain ⟨p, stands, rfl⟩ := Option.map_eq_some_iff.mp took
      obtain ⟨c, found⟩ := live stands
      split
      · exact (ages_scheduleCancel found accepted).trans ages_leave
      · exact ages_scheduleWork.trans ages_leave
  | answer =>
      obtain ⟨p, stands, answers⟩ := Option.bind_eq_some_iff.mp took
      rw [Option.ite_none_right_eq_some, Option.some.injEq] at answers
      exact answers.2 ▸ ages_leave
  | find p =>
      simp only [step, Option.ite_none_right_eq_some, Option.some.injEq] at took
      exact took.2 ▸ ages_of_read (fun _ _ => id) rfl
  | scheduleFound waits accepted =>
      obtain ⟨p, stands, rfl⟩ := Option.map_eq_some_iff.mp took
      obtain ⟨c, found⟩ := live stands
      split
      · exact (ages_scheduleCancel found accepted).trans ages_goTo
      · exact (ages_scheduleCancel found accepted).trans ages_leave
  | activated =>
      obtain ⟨p, stands, rfl⟩ := Option.map_eq_some_iff.mp took
      exact ages_leave
  | cancelEnds =>
      obtain ⟨p, stands, rfl⟩ := Option.map_eq_some_iff.mp took
      exact ages_leave
  | close accepted =>
      simp only [step, Option.ite_none_right_eq_some, Option.some.injEq] at took
      obtain ⟨-, rfl⟩ := took
      have queued : Ages s (s.scheduleWork .shutdown accepted) := ages_scheduleWork
      exact queued.trans (ages_of_read (fun _ _ => id) rfl)
  | clear =>
      simp only [step, Option.ite_none_right_eq_some, Option.some.injEq] at took
      obtain ⟨-, rfl⟩ := took
      exact ages_of_read (fun _ _ found =>
        collect_read (s := { s with slots := fun _ => [], closing := .closed }) found) rfl
  | scheduleMarked accepted =>
      simp only [step] at took
      split at took
      · cases took
      · rename_i p rest marking
        have fewer : Ages s { s with marking := rest } := ages_of_read (fun _ _ => id) rfl
        rw [Option.some.injEq] at took
        exact took ▸ fewer.trans ages_scheduleWork
  | release => exact absurd rfl other
  | stopLoop | work _ | complete _ | deadline _ _ | finish _ _ _ | fail _ _ | undelivered _ _
  | resubscribe _ _ _ _ | establish _ _ _ => cases input

/-- The SDK thread takes nothing up while a call of its own is unfinished. -/
theorem idle_of_step {first : Step} (up : first.takesUp = true) (took : s.step first = some s') :
    s.idle = true := by
  by_contra busy
  rw [Bool.not_eq_true] at busy
  have shut : ∀ q, s.callable q = false := by simp [Controller.callable, busy]
  cases first with
  | work fails =>
      simp only [step, busy] at took
      split at took <;> simp at took
  | stopLoop | complete _ | deadline _ _ => simp [step, busy] at took
  | finish _ _ _ | fail _ _ | undelivered _ _ | resubscribe _ _ _ _ | establish _ _ _ =>
      simp [step, shut] at took
  | _ => cases up

end Ages

/-- Every operation of the node that has started is done. -/
def Unused (s : Controller) (node : UInt64) : Prop :=
  ∀ p c, s.read p = some c → c.node = node → c.started = true → c.done = true

section Release

variable {s s' : Controller} {p : Pointer} {c : Context}

/-- An unused node stays unused while its contexts only age. -/
theorem Ages.unused (ages : Ages s s') {node : UInt64} (unused : s.Unused node) :
    s'.Unused node := by
  intro p c found here started
  obtain ⟨d, found', started', node', done⟩ := ages.contexts p c found started
  exact done (unused p d found' (node'.trans here) started')

/-- The check of `ReleaseUnusedSessionSetup` sees everything unfinished. -/
theorem Sound.unused_of_reap (t : Sound s) (loops : s.looping = true) {node : UInt64}
    (before : s.releasing = none) :
    (s.releaseUnusedSessionSetup node).releasing = none ∨
      ∃ checked, (s.releaseUnusedSessionSetup node).releasing = some checked ∧
        (s.releaseUnusedSessionSetup node).Unused checked := by
  by_cases active : (s.kept.any fun p => (s.read p).any fun c => c.node == node && !c.done) = true
  · rw [releaseUnusedSessionSetup, if_pos active]
    exact .inl before
  · rw [releaseUnusedSessionSetup, if_neg active]
    refine .inr ⟨node, rfl, ?_⟩
    intro p c found here _
    change s.read p = some c at found
    by_contra undone
    rw [Bool.not_eq_true] at undone
    apply active
    refine List.any_eq_true.mpr ⟨p, ?_, by simp [found, here, undone]⟩
    have kept := t.owned loops p c found undone
    unfold Controller.kept
    cases kind : p.kind <;> simp_all

/-- The end of an operation releases no session; the reap does. -/
theorem finish_releasing (found : s.read p = some c) (fails accepted : Bool) :
    (s.finish p fails accepted).releasing = s.releasing := by
  unfold Controller.finish
  split
  · cases fails with
    | true =>
        have written := written_failActive (s := s.cancelRecoveryTimer p) found accepted
        exact framed_sdkMarkDone.releasing.trans written.releasing
    | false =>
        have published : Framed (s.cancelRecoveryTimer p) ((s.cancelRecoveryTimer p).publish p) :=
          framed_modify
        exact framed_sdkMarkDone.releasing.trans published.releasing
  · have published : Framed s (s.publish p) := framed_modify
    exact framed_sdkMarkDone.releasing.trans published.releasing

theorem onSubscriptionEstablished_releasing (found : s.read p = some c) (outcome : Establishment)
    (accepted : Bool) :
    (s.onSubscriptionEstablished p outcome accepted).releasing = s.releasing := by
  cases outcome with
  | invalid =>
      simp only [Controller.onSubscriptionEstablished]
      split
      · exact (written_failActive found accepted).releasing
      · have published : Written s (s.publish p) := written_modify found rfl rfl
        obtain ⟨d, found'⟩ := Option.isSome_iff_exists.mp (published.read p (found ▸ rfl))
        exact (published.trans (written_scheduleCancel found' accepted)).releasing
  | established => exact modify_releasing
  | recovered => rfl
  | unannounced => exact (written_failActive (s := s.cancelRecoveryTimer p) found accepted).releasing
  | undelivered =>
      exact (written_scheduleCancel (s := s.cancelRecoveryTimer p) found accepted).releasing

theorem onResubscriptionNeeded_releasing (found : s.read p = some c)
    (timed fails accepted : Bool) :
    (s.onResubscriptionNeeded p timed fails accepted).releasing = s.releasing := by
  simp only [Controller.onResubscriptionNeeded]
  split
  · rfl
  · cases timed <;> cases fails
    · rfl
    · exact (written_failActive found accepted).releasing
    · rfl
    · exact (written_failActive
        (s := { s with timers := p :: s.timers.filter (· != p) }) found accepted).releasing

theorem onCommissioningComplete_releasing (fails : Bool) :
    (s.onCommissioningComplete fails).releasing = s.releasing := by
  unfold Controller.onCommissioningComplete
  split
  · rfl
  · split
    · rename_i p _ _ _
      have published : Framed s (s.publish p) := framed_modify
      exact framed_sdkMarkDone.releasing.trans published.releasing
    · rfl

/-- `Shutdown` frees contexts without the check for their node. -/
theorem shutdown_releasing : s.shutdown.releasing = s.releasing := by
  have folds : ∀ {op : Controller → Pointer → Controller}, (∀ s p, Framed s (op s p)) →
      ∀ (contexts : List Pointer) (s : Controller),
        (contexts.foldl op s).releasing = s.releasing := by
    intro op framed contexts
    induction contexts with
    | nil => exact fun _ => rfl
    | cons p rest ih => exact fun s => (ih (op s p)).trans (framed s p).releasing
  exact ((folds (fun _ _ => framed_abortOnSdkThread) _ _).trans
    (folds (fun _ _ => framed_abortInteraction) _ _)).trans
      (folds (fun _ _ => framed_cancelOnSdkThread) _ _)

theorem start_releasing (fails : Bool) : (s.start p fails).releasing = s.releasing := by
  have begun : Framed s (s.modify p fun c => { c with started := true }) := framed_modify
  unfold Controller.start
  split
  · have published : Framed s ((s.modify p fun c => { c with started := true }).publish p) :=
      begun.trans framed_modify
    exact framed_sdkMarkDone.releasing.trans published.releasing
  · exact begun.releasing

/-- Of what the SDK thread takes up, only a reap goes on to a release, and then after its check. -/
theorem step_releasing (t : Sound s) {first : Step} (up : first.takesUp = true)
    (timely : s.timely first = true) (took : s.step first = some s') :
    s'.releasing = none ∨ ∃ node, s'.releasing = some node ∧ s'.Unused node := by
  have idle := idle_of_step up took
  have before : s.releasing = none := by
    simp only [Controller.idle, Bool.and_eq_true, Option.isNone_iff_eq_none] at idle
    exact idle.2
  have found : ∀ {p}, s.callable p = true → ∃ c, s.read p = some c := fun callable => by
    obtain ⟨-, c, found, -⟩ := loops_of_callable callable
    exact ⟨c, found⟩
  cases first with
  | work fails =>
      simp only [step] at took
      split at took
      · cases took
      · rename_i work rest queue
        rw [Option.ite_none_right_eq_some, Option.some.injEq] at took
        rw [← took.2]
        cases work with
        | start p => exact .inl ((start_releasing fails).trans before)
        | cancel p => exact .inl (framed_cancelOnSdkThread.releasing.trans before)
        | abort p => exact .inl (framed_abortOnSdkThread.releasing.trans before)
        | shutdown => exact .inl (shutdown_releasing.trans before)
        | reap p =>
            simp only [Controller.idle, Bool.and_eq_true, List.isEmpty_iff] at idle
            obtain ⟨c, found', reaped⟩ := t.reaped idle.1.1 queue idle.1.2
            have found'' : ({ s with queue := rest } : Controller).read p = some c := found'
            simp only [perform, reapContext, found'']
            exact reaped.unused_of_reap idle.1.1 before
  | stopLoop =>
      simp only [step, Option.ite_none_right_eq_some, Option.some.injEq] at took
      exact .inl (took.2 ▸ before)
  | complete fails =>
      simp only [step, Option.ite_none_right_eq_some, Option.some.injEq] at took
      exact .inl (took.2 ▸ (onCommissioningComplete_releasing fails).trans before)
  | deadline p accepted =>
      simp only [step, Option.ite_none_right_eq_some, Bool.and_eq_true, Option.some.injEq,
        List.contains_iff_mem] at took
      obtain ⟨⟨-, timed⟩, rfl⟩ := took
      simp only [Controller.idle, Bool.and_eq_true] at idle
      obtain ⟨c, found, -⟩ := t.timed idle.1.1 p timed
      exact .inl ((written_failActive (s := s.cancelRecoveryTimer p) found
        accepted).releasing.trans before)
  | finish p fails accepted =>
      simp only [step, Option.ite_none_right_eq_some, Option.some.injEq] at took
      obtain ⟨c, found⟩ := found took.1
      exact .inl (took.2 ▸ (finish_releasing found fails accepted).trans before)
  | fail p accepted =>
      simp only [step, Option.ite_none_right_eq_some, Bool.and_eq_true, Option.some.injEq] at took
      obtain ⟨c, found⟩ := found took.1.1
      exact .inl (took.2 ▸ (written_failActive found accepted).releasing.trans before)
  | undelivered p accepted =>
      simp only [step, Option.ite_none_right_eq_some, Bool.and_eq_true, Option.some.injEq] at took
      obtain ⟨c, found⟩ := found took.1.1
      exact .inl (took.2 ▸ (written_scheduleCancel found accepted).releasing.trans before)
  | resubscribe p timed fails accepted =>
      simp only [step, Option.ite_none_right_eq_some, Bool.and_eq_true, Option.some.injEq] at took
      obtain ⟨c, found⟩ := found took.1.1
      exact .inl (took.2 ▸ (onResubscriptionNeeded_releasing found timed fails accepted).trans
        before)
  | establish p outcome accepted =>
      simp only [step, Option.ite_none_right_eq_some, Bool.and_eq_true, Option.some.injEq] at took
      obtain ⟨c, found⟩ := found took.1.1
      exact .inl (took.2 ▸ (onSubscriptionEstablished_releasing found outcome accepted).trans
        before)
  | _ => cases up

/-- **A release takes no session away.**  From the check of `ReleaseUnusedSessionSetup` to the
release of the node's session setup, every operation and subscription of that node that the
SDK thread has started is done. -/
theorem run_release_unused (steps : List Step) (timely : opened.timelyRun steps = true)
    (ran : opened.run steps = some s) {node : UInt64} (releasing : s.releasing = some node) :
    ∀ p c, s.read p = some c → c.node = node → c.started = true → c.done = true := by
  have kept : ∀ (steps : List Step) (s s' : Controller), Sound s →
      (∀ node, s.releasing = some node → s.Unused node) → s.timelyRun steps = true →
      s.run steps = some s' → ∀ node, s'.releasing = some node → s'.Unused node := by
    intro steps
    induction steps with
    | nil => exact fun s s' _ unused _ ran => Option.some.inj ran ▸ unused
    | cons first rest ih =>
        intro s s' t unused timely ran
        obtain ⟨next, took, ran⟩ := Option.bind_eq_some_iff.mp ran
        simp only [timelyRun, took, Bool.and_eq_true] at timely
        refine ih next s' (step_sound t timely.1 took) ?_ timely.2 ran
        intro node releasing
        by_cases up : first.takesUp = true
        · rcases step_releasing t up timely.1 took with none | ⟨node', same, unused'⟩
          · rw [none] at releasing
            cases releasing
          · rw [same, Option.some.injEq] at releasing
            exact releasing ▸ unused'
        · rw [Bool.not_eq_true] at up
          by_cases ends : first = .release
          · subst ends
            obtain ⟨_, -, rfl⟩ := Option.map_eq_some_iff.mp took
            cases releasing
          · have ages := step_ages t up ends took
            exact ages.unused (unused node (ages.releasing ▸ releasing))
  exact kept steps opened s sound_opened (fun _ none => by cases none) timely ran node releasing

/-- Two operations of a node are done, and the second is reaped.  Between the check and the
release, the input thread admits a subscription of the node. -/
def releasingFive : List Step :=
  [.call .interaction 5 0, .schedule true, .work false, .call .interaction 5 1, .schedule true,
    .work true, .scheduleMarked true, .finish ⟨.interaction, 0, 0⟩ false true, .scheduleMarked true,
    .work false, .call .subscription 5 2]

theorem run_release_unused_five : ∃ s, opened.run releasingFive = some s ∧
    (∃ p c, s.read p = some c ∧ c.node = 5 ∧ c.started = true) ∧
    s.slots .subscription ≠ [] ∧
    ∀ p c, s.read p = some c → c.node = 5 → c.started = true → c.done = true := by
  have took : (opened.run releasingFive).isSome = true := by decide
  obtain ⟨s, ran⟩ := Option.isSome_iff_exists.mp took
  have sees : (opened.run releasingFive).map (fun s => (s.releasing, (s.slots .subscription).length,
      (s.read ⟨.interaction, 0, 0⟩).map fun c => (c.node, c.started))) =
        some (some 5, 1, some (5, true)) := by decide
  rw [ran, Option.map_some, Option.some.injEq, Prod.mk.injEq, Prod.mk.injEq] at sees
  obtain ⟨releasing, admitted, stands⟩ := sees
  obtain ⟨c, found, same⟩ := Option.map_eq_some_iff.mp stands
  rw [Prod.mk.injEq] at same
  refine ⟨s, ran, ⟨_, c, found, same⟩, fun empty => ?_,
    run_release_unused releasingFive (by decide) ran releasing⟩
  rw [empty] at admitted
  cases admitted

end Release

/-! ## Room in the slots -/

/-- How often the context is about to leave its slot. -/
def leavings (s : Controller) (p : Pointer) : Nat :=
  s.endings p + s.calls.count { context := p, point := .dropping }

/-- Every finished context in a slot has its reap before it. -/
def Reclaims (s : Controller) : Prop :=
  s.closing = .open → ∀ kind, ∀ p ∈ s.slots kind, s.isDone p = true → 0 < s.leavings p

/-- What is newly finished has its reap under way. -/
structure Tends (s s' : Controller) : Prop where
  closing : s'.closing = .open → s.closing = .open
  slots : s'.closing = .open → ∀ kind, ∀ p ∈ s'.slots kind, s'.isDone p = true →
    0 < s'.leavings p ∨ (p ∈ s.slots kind ∧ s.isDone p = true ∧ s.leavings p ≤ s'.leavings p)

section Room

variable {s s' s'' : Controller} {p : Pointer} {c : Context}

theorem Tends.refl (s : Controller) : Tends s s :=
  ⟨id, fun _ _ _ kept done => .inr ⟨kept, done, Nat.le_refl _⟩⟩

/-- A context that is finished in between has its reap at the end. -/
theorem Tends.trans (first : Tends s s') (second : Tends s' s'') : Tends s s'' := by
  refine ⟨fun opened => first.closing (second.closing opened), fun opened kind p kept done => ?_⟩
  rcases second.slots opened kind p kept done with ended | ⟨kept', done', more⟩
  · exact .inl ended
  · rcases first.slots (second.closing opened) kind p kept' done' with ended | ⟨kept'', done'', more'⟩
    · exact .inl (lt_of_lt_of_le ended more)
    · exact .inr ⟨kept'', done'', more'.trans more⟩

/-- **The invariant of the slots**, carried over one step. -/
theorem Tends.reclaims (tends : Tends s s') (reclaims : Reclaims s) : Reclaims s' := by
  intro opened kind p kept done
  rcases tends.slots opened kind p kept done with ended | ⟨kept', done', more⟩
  · exact ended
  · exact lt_of_lt_of_le (reclaims (tends.closing opened) kind p kept' done') more

/-- Neither slots nor reaps nor `done_` change. -/
theorem tends_of_same (closing : s'.closing = s.closing) (slots : s'.slots = s.slots)
    (done : ∀ p, s'.isDone p = true → s.isDone p = true)
    (more : ∀ p, s.leavings p ≤ s'.leavings p) : Tends s s' :=
  ⟨fun opened => closing ▸ opened, fun _ _ p kept finished =>
    .inr ⟨slots ▸ kept, done p finished, more p⟩⟩

/-- A write that leaves `done_` alone owes no reap. -/
theorem tends_modify (found : s.read p = some c) {f : Context → Context}
    (kind : (f c).kind = c.kind) (serial : (f c).serial = c.serial)
    (done : (f c).done = c.done) : Tends s (s.modify p f) := by
  refine tends_of_same modify_closing modify_slots (fun q finished => ?_)
    fun q => by simp [leavings]
  rw [isDone, read_modify found kind serial] at finished
  split at finished
  · rename_i same
    rw [isDone, same, found]
    simpa [done] using finished
  · exact finished

/-- More work delays no reap and drops none. -/
theorem tends_scheduleWork {work : Work} {accepted : Bool} :
    Tends s (s.scheduleWork work accepted) := by
  unfold Controller.scheduleWork
  split
  · refine tends_of_same rfl rfl (fun _ => id) fun q => ?_
    simp only [leavings, endings, List.count_append]
    omega
  · exact .refl s

/-- A cancellation that is accepted finishes nothing yet. -/
theorem tends_scheduleCancel (found : s.read p = some c) :
    Tends s (s.scheduleCancel p true) := by
  simp only [Controller.scheduleCancel, found]
  split
  · exact .refl s
  · have flagged : Tends s (s.modify p fun c => { c with cancelScheduled := true }) :=
      tends_modify found rfl rfl rfl
    rw [if_pos trivial]
    exact flagged.trans tends_scheduleWork

/-- A failure goes through the cancellation, which is accepted here. -/
theorem tends_failActive (found : s.read p = some c) : Tends s (s.failActive p true) := by
  simp only [Controller.failActive, found]
  split
  · exact .refl s
  · have written := written_modify
      (f := fun c => { c with failureEmitted := true, published := true }) found rfl rfl
    obtain ⟨d, found'⟩ := Option.isSome_iff_exists.mp (written.read p (found ▸ rfl))
    have flagged : Tends s (s.modify p fun c =>
        { c with failureEmitted := true, published := true }) := tends_modify found rfl rfl rfl
    exact flagged.trans (tends_scheduleCancel found')

/-- Setting `done_` on the SDK thread comes with the reap. -/
theorem tends_sdkMarkDone (found : s.read p = some c) : Tends s (s.sdkMarkDone p) := by
  simp only [Controller.sdkMarkDone, markDone, found]
  by_cases done : c.done = true
  · simp only [done, if_true]
    exact .refl s
  · simp only [done, Bool.false_eq_true, if_false]
    refine ⟨fun opened => by simpa using opened, fun _ kind q kept finished => ?_⟩
    have more : ∀ q, leavings { s.modify p (fun c => { c with done := true }) with
        marking := (s.modify p fun c => { c with done := true }).marking ++ [p] } q =
          s.leavings q + if p = q then 1 else 0 := by
      intro q
      simp only [leavings, endings, modify_queue, modify_marking, modify_calls, List.count_append,
        List.count_singleton, beq_iff_eq]
      omega
    rw [more]
    by_cases same : p = q
    · simp [same]
    · refine .inr ⟨by simpa using kept, ?_, by simp [same]⟩
      have reads : (s.modify p fun c => { c with done := true }).read q = s.read q := by
        rw [read_modify (c := c) found rfl rfl, if_neg fun same' => same same'.symm]
      change (s.modify p fun c => { c with done := true }).isDone q = true at finished
      rwa [isDone, reads] at finished

theorem tends_publishDone (found : s.read p = some c) : Tends s ((s.publish p).sdkMarkDone p) := by
  have found' : (s.publish p).read p = some { c with published := true } := by
    rw [Controller.publish, read_modify (c := c) found rfl rfl, if_pos rfl]
  have published : Tends s (s.publish p) := tends_modify found rfl rfl rfl
  exact published.trans (tends_sdkMarkDone found')

theorem tends_cancelRecoveryTimer : Tends s (s.cancelRecoveryTimer p) :=
  tends_of_same rfl rfl (fun _ => id) fun _ => Nat.le_refl _

/-- The work item of a cancellation ends in `done_`, and so with the reap. -/
theorem tends_cancelOnSdkThread (found : s.read p = some c) : Tends s (s.cancelOnSdkThread p) := by
  have flagged : Tends s (s.modify p fun c => { c with cancelled := true }) :=
    tends_modify found rfl rfl rfl
  have found' : ((s.modify p fun c => { c with cancelled := true }).cancelRecoveryTimer p).read p =
      some { c with cancelled := true } := by
    have written : (s.modify p fun c => { c with cancelled := true }).read p =
        some { c with cancelled := true } := by
      rw [read_modify (c := c) found rfl rfl, if_pos rfl]
    exact written
  exact (flagged.trans tends_cancelRecoveryTimer).trans (tends_sdkMarkDone found')

/-- Freeing a context takes it out of no slot: it was in none. -/
theorem tends_collect : Tends s s.collect := by
  refine tends_of_same rfl rfl (fun q finished => ?_) fun _ => Nat.le_refl _
  rw [isDone] at finished ⊢
  cases found : s.collect.read q with
  | none =>
      rw [found] at finished
      cases finished
  | some d =>
      rw [collect_read found]
      rwa [found] at finished

/-- Where the start fails the context is finished at once, with its reap. -/
theorem tends_start (found : s.read p = some c) (fails : Bool) : Tends s (s.start p fails) := by
  have begun : Tends s (s.modify p fun c => { c with started := true }) :=
    tends_modify found rfl rfl rfl
  have found' : (s.modify p fun c => { c with started := true }).read p =
      some { c with started := true } := by
    rw [read_modify (c := c) found rfl rfl, if_pos rfl]
  unfold Controller.start
  split
  · exact begun.trans (tends_publishDone found')
  · exact begun

/-- A call that is not about to reap moves on freely. -/
theorem tends_goTo {from' : CallPoint} (stands : s.callAt from' = some p)
    (unmarked : from' ≠ .marked) (undropping : from' ≠ .dropping) (point : CallPoint) :
    Tends s (s.goTo point) := by
  obtain ⟨rest, calls, moved⟩ := calls_goTo stands point
  rw [moved]
  refine tends_of_same rfl rfl (fun _ => id) fun q => ?_
  simp only [leavings, endings, calls, List.count_cons, beq_iff_eq, Call.mk.injEq, unmarked,
    undropping, and_false, if_false]
  omega

/-- A call that is not about to reap may return. -/
theorem tends_leave {from' : CallPoint} (stands : s.callAt from' = some p)
    (unmarked : from' ≠ .marked) (undropping : from' ≠ .dropping) : Tends s s.leave := by
  obtain ⟨rest, calls⟩ := callAt_eq_some.mp stands
  have fewer : Tends s { s with calls := s.calls.tail } := by
    refine tends_of_same rfl rfl (fun _ => id) fun q => ?_
    simp only [leavings, endings, calls, List.tail_cons, List.count_cons, beq_iff_eq, Call.mk.injEq,
      unmarked, undropping, and_false, if_false]
    omega
  exact fewer.trans tends_collect

theorem callAt_written (written : Written s s') {point : CallPoint} :
    s'.callAt point = s.callAt point := by
  rw [callAt, callAt, written.calls]

/-- The mark of the innermost call becomes a reap. -/
theorem tends_scheduleReap (stands : s.callAt .marked = some p) :
    Tends s ((s.scheduleWork (.reap p) true).goTo .waiting) := by
  obtain ⟨rest, calls, moved⟩ := calls_goTo stands .waiting
  rw [goTo_scheduleWork, moved]
  refine tends_of_same rfl rfl (fun _ => id) fun q => ?_
  simp only [leavings, endings, scheduleWork, if_true, calls, List.count_append,
    List.count_cons, beq_iff_eq, Call.mk.injEq, Work.reap.injEq, and_true, reduceCtorEq, and_false,
    if_false]
  omega

/-- What the SDK thread has marked done is next given its reap. -/
theorem tends_scheduleMarked {rest : List Pointer} (marking : s.marking = p :: rest) :
    Tends s ({ s with marking := rest }.scheduleWork (.reap p) true) := by
  refine tends_of_same rfl rfl (fun _ => id) fun q => ?_
  simp only [leavings, endings, scheduleWork, if_true, marking, List.count_append,
    List.count_cons, beq_iff_eq, Work.reap.injEq]
  omega

/-- A new context is unfinished, and owes nothing. -/
theorem tends_admit {kind : ContextKind} {node : UInt64} {address : Nat}
    (vacant : s.heap address = none) : Tends s (s.admitContext kind node address) := by
  refine ⟨id, fun _ kind' q kept finished => ?_⟩
  rw [isDone, read_admitContext vacant] at finished
  split at finished
  · cases finished
  · rename_i different
    refine .inr ⟨?_, finished, ?_⟩
    · simp only [Controller.admitContext] at kept
      by_cases same : kind' = kind
      · subst same
        rw [Function.update_self] at kept
        rcases List.mem_append.mp kept with before | new
        · exact before
        · exact absurd (List.mem_singleton.mp new) different
      · rwa [Function.update_of_ne same] at kept
    · simp [leavings, endings, Controller.admitContext]

/-- `Reap` leaves no finished context at its address in the slot. -/
theorem mem_reap (t : Sound s) (found : s.read p = some c) {kind : ContextKind} {q : Pointer}
    (kept : q ∈ (s.reap p).slots kind) (finished : s.isDone q = true) :
    q ∈ s.slots kind ∧ q ≠ p := by
  simp only [Controller.reap] at kept
  by_cases same : kind = p.kind
  · subst same
    rw [Function.update_self, List.mem_filter] at kept
    refine ⟨kept.1, ?_⟩
    rintro rfl
    rw [isDone, found] at finished
    rw [found] at kept
    simp_all
  · rw [Function.update_of_ne same] at kept
    refine ⟨kept, ?_⟩
    rintro rfl
    exact same (t.kinds kind q kept).symm

/-- The context whose reap is the head of the queue leaves its slot. -/
theorem Sound.tends_reap (t : Sound s) (loops : s.looping = true) {rest : List Work}
    (queue : s.queue = .reap p :: rest) : Tends s ({ s with queue := rest }.reapContext p) := by
  have queued : Work.reap p ∈ s.queue := queue ▸ List.mem_cons_self
  obtain ⟨c, found⟩ := t.of_slot (t.lent loops p (mem_borrowed.mpr (.inl ⟨_, queued, rfl⟩)))
  have left : Tends s ({ s with queue := rest }.reap p) := by
    refine ⟨id, fun _ kind q kept finished => .inr ?_⟩
    obtain ⟨before, different⟩ := mem_reap t found kept finished
    refine ⟨before, finished, ?_⟩
    change s.leavings q ≤ leavings { s with queue := rest } q
    simp only [leavings, endings, queue, List.count_cons, beq_iff_eq, Work.reap.injEq]
    rw [if_neg fun same => different same.symm]
    omega
  have found' : ({ s with queue := rest } : Controller).read p = some c := found
  have released : ∀ s : Controller, Tends s (s.releaseUnusedSessionSetup c.node) := by
    intro s
    unfold releaseUnusedSessionSetup
    split
    · exact .refl s
    · exact tends_of_same rfl rfl (fun _ => id) fun _ => Nat.le_refl _
  simp only [Controller.reapContext, found']
  exact (left.trans tends_collect).trans (released _)

/-- An interaction whose work was refused is taken out by its own call. -/
theorem Sound.tends_drop (t : Sound s) (stands : s.callAt .dropping = some p) :
    Tends s ((s.reap p).goTo .waiting) := by
  obtain ⟨c, found⟩ := t.of_call (Sound.mem_of_callAt stands)
  have stands' : (s.reap p).callAt .dropping = some p := stands
  obtain ⟨rest, calls, moved⟩ := calls_goTo stands' .waiting
  rw [moved]
  refine ⟨id, fun _ kind q kept finished => .inr ?_⟩
  obtain ⟨before, different⟩ := mem_reap t found kept finished
  refine ⟨before, finished, ?_⟩
  change s.calls = _ at calls
  simp only [leavings, endings, Controller.reap, calls, List.count_cons, beq_iff_eq,
    Call.mk.injEq, reduceCtorEq, and_false, and_true, if_false]
  rw [if_neg fun same => different same.symm]

/-- Refused work finishes the context; its call then drops it or schedules the reap. -/
theorem tends_markUnscheduled (found : s.read p = some c)
    (stands : s.callAt .unscheduled = some p) :
    Tends s (if p.kind = .interaction then
        (s.modify p fun c => { c with done := true }).goTo .dropping
      else match s.markDone p with
        | (marked, true) => marked.goTo .marked
        | (unmarked, false) => unmarked.goTo .waiting) := by
  have stands' : (s.modify p fun c => { c with done := true }).callAt .unscheduled = some p := by
    simpa [callAt] using stands
  have reads : ∀ q, q ≠ p → (s.modify p fun c => { c with done := true }).read q = s.read q := by
    intro q different
    rw [read_modify (c := c) found rfl rfl, if_neg different]
  have ends : ∀ point, point = .dropping ∨ point = .marked →
      Tends s ((s.modify p fun c => { c with done := true }).goTo point) := by
    intro point leaves
    obtain ⟨rest, calls, moved⟩ := calls_goTo stands' point
    rw [moved]
    rw [modify_calls] at calls
    refine ⟨fun opened => by simpa using opened, fun _ kind q kept finished => ?_⟩
    by_cases same : q = p
    · subst same
      refine .inl ?_
      rcases leaves with rfl | rfl
      · exact Nat.add_pos_right _ (by simp)
      · exact Nat.add_pos_left (endings_pos.mpr (.inr (.inr List.mem_cons_self))) _
    · refine .inr ⟨by simpa using kept, ?_, ?_⟩
      · change (s.modify p fun c => { c with done := true }).isDone q = true at finished
        rwa [isDone, reads q same] at finished
      · simp only [leavings, endings, modify_queue, modify_marking, calls, List.count_cons,
          beq_iff_eq, Call.mk.injEq, reduceCtorEq, and_false, if_false]
        omega
  split
  · exact ends .dropping (.inl rfl)
  · simp only [markDone, found]
    by_cases done : c.done = true
    · simp only [done, if_true]
      exact tends_goTo stands (by simp) (by simp) .waiting
    · simp only [done, Bool.false_eq_true, if_false]
      exact ends .marked (.inr rfl)

/-- An interaction's end marks it done with its reap, which is accepted here. -/
theorem tends_finish (found : s.read p = some c) (fails : Bool) :
    Tends s (s.finish p fails true) := by
  unfold Controller.finish
  split
  · have stopped : Tends s (s.cancelRecoveryTimer p) := tends_cancelRecoveryTimer
    cases fails with
    | true =>
        have written := written_failActive (s := s.cancelRecoveryTimer p) found true
        obtain ⟨d, found'⟩ := Option.isSome_iff_exists.mp (written.read p (found ▸ rfl))
        exact (stopped.trans (tends_failActive found)).trans (tends_sdkMarkDone found')
    | false => exact stopped.trans (tends_publishDone (s := s.cancelRecoveryTimer p) found)
  · exact tends_publishDone found

theorem tends_onSubscriptionEstablished (found : s.read p = some c) (outcome : Establishment) :
    Tends s (s.onSubscriptionEstablished p outcome true) := by
  cases outcome with
  | invalid =>
      simp only [Controller.onSubscriptionEstablished]
      split
      · exact tends_failActive found
      · have published : Tends s (s.publish p) := tends_modify found rfl rfl rfl
        have found' : (s.publish p).read p = some { c with published := true } := by
          rw [Controller.publish, read_modify (c := c) found rfl rfl, if_pos rfl]
        exact published.trans (tends_scheduleCancel found')
  | established => exact tends_modify found rfl rfl rfl
  | recovered => exact tends_cancelRecoveryTimer
  | unannounced =>
      exact tends_cancelRecoveryTimer.trans (tends_failActive (s := s.cancelRecoveryTimer p) found)
  | undelivered =>
      exact tends_cancelRecoveryTimer.trans
        (tends_scheduleCancel (s := s.cancelRecoveryTimer p) found)

theorem tends_onResubscriptionNeeded (found : s.read p = some c) (timed fails : Bool) :
    Tends s (s.onResubscriptionNeeded p timed fails true) := by
  simp only [Controller.onResubscriptionNeeded]
  split
  · exact .refl s
  · have armed : Tends s (if timed then { s with timers := p :: s.timers.filter (· != p) } else s) := by
      split
      · exact tends_of_same rfl rfl (fun _ => id) fun _ => Nat.le_refl _
      · exact .refl s
    cases fails with
    | false => exact armed
    | true =>
        cases timed with
        | false => exact armed.trans (tends_failActive found)
        | true =>
            exact armed.trans (tends_failActive
              (s := { s with timers := p :: s.timers.filter (· != p) }) found)

theorem Sound.tends_complete (t : Sound s) (fails : Bool) :
    Tends s (s.onCommissioningComplete fails) := by
  unfold Controller.onCommissioningComplete
  split
  · exact .refl s
  · rename_i p rest slots
    have kept : p ∈ s.slots .commissioning := slots ▸ List.mem_cons_self
    obtain ⟨c, found⟩ := t.of_slot kept
    split
    · exact tends_publishDone found
    · exact .refl s

/-- **Each work item keeps the reaps**, the reap itself by leaving the slot. -/
theorem Sound.tends_perform (t : Sound s) (idle : s.idle = true) {work : Work} {rest : List Work}
    (queue : s.queue = work :: rest) (fails : Bool) :
    Tends s ({ s with queue := rest }.perform fails work) := by
  simp only [Controller.idle, Bool.and_eq_true, List.isEmpty_iff] at idle
  obtain ⟨⟨loops, unmarked⟩, -⟩ := idle
  have queued : work ∈ s.queue := queue ▸ List.mem_cons_self
  have lent : ∀ p, work.raw = some p → ∃ c, s.read p = some c := fun p raw =>
    t.of_slot (t.lent loops p (mem_borrowed.mpr (.inl ⟨_, queued, raw⟩)))
  have popped : (∀ p, work ≠ .reap p) → Tends s { s with queue := rest } := by
    intro other
    refine tends_of_same rfl rfl (fun _ => id) fun q => ?_
    simp only [leavings, endings, queue, List.count_cons, beq_iff_eq]
    rw [if_neg (other q)]
    omega
  cases work with
  | start p =>
      obtain ⟨c, found⟩ := lent p rfl
      exact (popped fun _ => by simp).trans (tends_start (s := { s with queue := rest }) found fails)
  | reap p => exact t.tends_reap loops queue
  | cancel p =>
      obtain ⟨c, found⟩ := lent p rfl
      exact (popped fun _ => by simp).trans
        (tends_cancelOnSdkThread (s := { s with queue := rest }) found)
  | abort p =>
      have live := t.live p (mem_references.mpr (.inr (.inr queued)))
      obtain ⟨c, found⟩ := Option.isSome_iff_exists.mp live
      have aborted := (popped fun _ => by simp).trans
        (tends_publishDone (s := { s with queue := rest }) found)
      exact aborted.trans tends_collect
  | shutdown => exact ⟨fun shut => (by cases shut), fun shut => (by cases shut)⟩

/-- **Every step keeps the reaps**, if `ScheduleWork` refuses none of them. -/
theorem step_tends (t : Sound s) {first : Step} (keeps : first.keepsReaps = true)
    (took : s.step first = some s') : Tends s s' := by
  have live : ∀ {point p}, s.callAt point = some p → ∃ c, s.read p = some c :=
    fun stands => t.of_call (Sound.mem_of_callAt stands)
  have published : ∀ {point p}, s.callAt point = some p →
      Tends s (s.publish p) ∧ (s.publish p).callAt point = some p := fun stands => by
    obtain ⟨c, found⟩ := live stands
    refine ⟨tends_modify found rfl rfl rfl, ?_⟩
    simpa [callAt, Controller.publish] using stands
  have cancelled : ∀ {point p}, s.callAt point = some p →
      Tends s (s.scheduleCancel p true) ∧ (s.scheduleCancel p true).callAt point = some p :=
    fun stands => by
      obtain ⟨c, found⟩ := live stands
      exact ⟨tends_scheduleCancel found, (callAt_written (written_scheduleCancel found true)).trans
        stands⟩
  have found : ∀ {p}, s.callable p = true → ∃ c, s.read p = some c := fun callable => by
    obtain ⟨-, c, found, -⟩ := loops_of_callable callable
    exact ⟨c, found⟩
  cases first with
  | call kind node address =>
      simp only [step, Option.ite_none_right_eq_some, Bool.and_eq_true, Option.isNone_iff_eq_none,
        Option.some.injEq] at took
      obtain ⟨⟨-, vacant⟩, rfl⟩ := took
      split
      · exact tends_admit vacant
      · exact .refl s
  | schedule accepted =>
      obtain ⟨p, stands, rfl⟩ := Option.map_eq_some_iff.mp took
      split
      · rw [goTo_scheduleWork]
        exact (tends_goTo stands (by simp) (by simp) .waiting).trans tends_scheduleWork
      · obtain ⟨tends, stands'⟩ := published stands
        exact tends.trans (tends_goTo stands' (by simp) (by simp) .unscheduled)
  | markUnscheduled =>
      obtain ⟨p, stands, rfl⟩ := Option.map_eq_some_iff.mp took
      obtain ⟨c, found⟩ := live stands
      exact tends_markUnscheduled found stands
  | drop =>
      obtain ⟨p, stands, rfl⟩ := Option.map_eq_some_iff.mp took
      exact t.tends_drop stands
  | scheduleReap accepted =>
      obtain ⟨p, stands, rfl⟩ := Option.map_eq_some_iff.mp took
      change accepted = true at keeps
      exact keeps ▸ tends_scheduleReap stands
  | expire =>
      obtain ⟨p, stands, rfl⟩ := Option.map_eq_some_iff.mp took
      obtain ⟨tends, stands'⟩ := published stands
      split
      · exact tends.trans (tends_leave stands' (by simp) (by simp))
      · exact tends.trans (tends_goTo stands' (by simp) (by simp) .expired)
  | scheduleAbort accepted =>
      obtain ⟨p, stands, rfl⟩ := Option.map_eq_some_iff.mp took
      change accepted = true at keeps
      subst keeps
      split
      · obtain ⟨tends, stands'⟩ := cancelled stands
        exact tends.trans (tends_leave stands' (by simp) (by simp))
      · have queued : Tends s (s.scheduleWork (.abort p) true) := tends_scheduleWork
        exact queued.trans (tends_leave stands (by simp) (by simp))
  | answer =>
      obtain ⟨p, stands, answers⟩ := Option.bind_eq_some_iff.mp took
      rw [Option.ite_none_right_eq_some, Option.some.injEq] at answers
      exact answers.2 ▸ tends_leave stands (by simp) (by simp)
  | find p =>
      simp only [step, Option.ite_none_right_eq_some, Option.some.injEq] at took
      rw [← took.2]
      refine tends_of_same rfl rfl (fun _ => id) fun q => ?_
      simp [leavings, endings]
  | scheduleFound waits accepted =>
      obtain ⟨p, stands, rfl⟩ := Option.map_eq_some_iff.mp took
      change accepted = true at keeps
      subst keeps
      obtain ⟨tends, stands'⟩ := cancelled stands
      split
      · exact tends.trans (tends_goTo stands' (by simp) (by simp) .awaitingEnd)
      · exact tends.trans (tends_leave stands' (by simp) (by simp))
  | activated =>
      obtain ⟨p, stands, rfl⟩ := Option.map_eq_some_iff.mp took
      exact tends_leave stands (by simp) (by simp)
  | cancelEnds =>
      obtain ⟨p, stands, rfl⟩ := Option.map_eq_some_iff.mp took
      exact tends_leave stands (by simp) (by simp)
  | close accepted =>
      simp only [step, Option.ite_none_right_eq_some, Option.some.injEq] at took
      rw [← took.2]
      have shut : (if accepted then ClosePoint.shuttingDown else .stopping) ≠ .open := by
        cases accepted <;> simp
      exact ⟨fun opened => absurd opened shut, fun opened => absurd opened shut⟩
  | stopLoop =>
      simp only [step, Option.ite_none_right_eq_some, Option.some.injEq] at took
      rw [← took.2]
      exact ⟨fun shut => (by cases shut), fun shut => (by cases shut)⟩
  | clear =>
      simp only [step, Option.ite_none_right_eq_some, Option.some.injEq] at took
      rw [← took.2]
      exact ⟨fun shut => (by cases shut), fun shut => (by cases shut)⟩
  | work fails =>
      simp only [step] at took
      split at took
      · cases took
      · rename_i queue
        rw [Option.ite_none_right_eq_some, Option.some.injEq] at took
        exact took.2 ▸ t.tends_perform took.1 queue fails
  | scheduleMarked accepted =>
      simp only [step] at took
      split at took
      · cases took
      · rename_i marking
        rw [Option.some.injEq] at took
        change accepted = true at keeps
        exact took ▸ keeps ▸ tends_scheduleMarked marking
  | release =>
      obtain ⟨node, -, rfl⟩ := Option.map_eq_some_iff.mp took
      exact tends_of_same rfl rfl (fun _ => id) fun _ => Nat.le_refl _
  | complete fails =>
      simp only [step, Option.ite_none_right_eq_some, Option.some.injEq] at took
      exact took.2 ▸ t.tends_complete fails
  | deadline p accepted =>
      simp only [step, Option.ite_none_right_eq_some, Bool.and_eq_true, Option.some.injEq,
        List.contains_iff_mem] at took
      obtain ⟨⟨idle, timed⟩, rfl⟩ := took
      simp only [Controller.idle, Bool.and_eq_true] at idle
      obtain ⟨c, found, -⟩ := t.timed idle.1.1 p timed
      change accepted = true at keeps
      exact keeps ▸ tends_cancelRecoveryTimer.trans
        (tends_failActive (s := s.cancelRecoveryTimer p) found)
  | finish p fails accepted =>
      simp only [step, Option.ite_none_right_eq_some, Option.some.injEq] at took
      obtain ⟨c, found⟩ := found took.1
      change accepted = true at keeps
      exact took.2 ▸ keeps ▸ tends_finish found fails
  | fail p accepted =>
      simp only [step, Option.ite_none_right_eq_some, Bool.and_eq_true, Option.some.injEq] at took
      obtain ⟨c, found⟩ := found took.1.1
      change accepted = true at keeps
      exact took.2 ▸ keeps ▸ tends_failActive found
  | undelivered p accepted =>
      simp only [step, Option.ite_none_right_eq_some, Bool.and_eq_true, Option.some.injEq] at took
      obtain ⟨c, found⟩ := found took.1.1
      change accepted = true at keeps
      exact took.2 ▸ keeps ▸ tends_scheduleCancel found
  | resubscribe p timed fails accepted =>
      simp only [step, Option.ite_none_right_eq_some, Bool.and_eq_true, Option.some.injEq] at took
      obtain ⟨c, found⟩ := found took.1.1
      change accepted = true at keeps
      exact took.2 ▸ keeps ▸ tends_onResubscriptionNeeded found timed fails
  | establish p outcome accepted =>
      simp only [step, Option.ite_none_right_eq_some, Bool.and_eq_true, Option.some.injEq] at took
      obtain ⟨c, found⟩ := found took.1.1
      change accepted = true at keeps
      exact took.2 ▸ keeps ▸ tends_onSubscriptionEstablished found outcome

end Room

/-! ## Bounds -/

/-- The bounds of the four slots; `commissioning_` and `window_` exclude each other. -/
structure Seated (s : Controller) : Prop where
  interactions : (s.slots .interaction).length ≤ 64
  subscriptions : (s.slots .subscription).length ≤ 64
  control : (s.slots .commissioning).length + (s.slots .window).length ≤ 1

section Bounds

variable {s s' : Controller} {p : Pointer}

@[simp] theorem publish_slots : (s.publish p).slots = s.slots := modify_slots

@[simp] theorem cancelRecoveryTimer_slots : (s.cancelRecoveryTimer p).slots = s.slots := rfl

@[simp] theorem scheduleWork_slots {work : Work} {accepted : Bool} :
    (s.scheduleWork work accepted).slots = s.slots := by
  unfold Controller.scheduleWork
  split <;> rfl

@[simp] theorem goTo_slots {point : CallPoint} : (s.goTo point).slots = s.slots := by
  unfold Controller.goTo
  split <;> rfl

@[simp] theorem leave_slots : s.leave.slots = s.slots := rfl

@[simp] theorem scheduleCancel_slots {accepted : Bool} :
    (s.scheduleCancel p accepted).slots = s.slots := by
  unfold Controller.scheduleCancel
  split
  · rfl
  · split
    · rfl
    · split <;> simp

@[simp] theorem failActive_slots {accepted : Bool} : (s.failActive p accepted).slots = s.slots := by
  unfold Controller.failActive
  split
  · rfl
  · split <;> simp

@[simp] theorem sdkMarkDone_slots : (s.sdkMarkDone p).slots = s.slots := framed_sdkMarkDone.slots

/-- A loop over contexts leaves the slots alone if its body does. -/
theorem foldl_slots {op : Controller → Pointer → Controller} (framed : ∀ s p, Framed s (op s p))
    (contexts : List Pointer) (s : Controller) : (contexts.foldl op s).slots = s.slots := by
  induction contexts generalizing s with
  | nil => rfl
  | cons p rest ih => exact (ih (op s p)).trans (framed s p).slots

/-- What ends an operation leaves the slots to the reap. -/
theorem finish_slots {fails accepted : Bool} : (s.finish p fails accepted).slots = s.slots := by
  unfold Controller.finish
  split
  · cases fails <;> simp
  · simp

theorem onSubscriptionEstablished_slots {outcome : Establishment} {accepted : Bool} :
    (s.onSubscriptionEstablished p outcome accepted).slots = s.slots := by
  cases outcome <;> simp only [Controller.onSubscriptionEstablished]
  case invalid => split <;> simp
  all_goals simp

theorem onResubscriptionNeeded_slots {timed fails accepted : Bool} :
    (s.onResubscriptionNeeded p timed fails accepted).slots = s.slots := by
  simp only [Controller.onResubscriptionNeeded]
  split
  · rfl
  · cases timed <;> cases fails <;> simp

theorem onCommissioningComplete_slots {fails : Bool} :
    (s.onCommissioningComplete fails).slots = s.slots := by
  unfold Controller.onCommissioningComplete
  split
  · rfl
  · split <;> simp

/-- A reap only takes out. -/
theorem reap_slots (kind : ContextKind) : ((s.reap p).slots kind).Sublist (s.slots kind) := by
  simp only [Controller.reap]
  by_cases same : kind = p.kind
  · subst same
    rw [Function.update_self]
    exact List.filter_sublist
  · rw [Function.update_of_ne same]

theorem reapContext_slots (kind : ContextKind) :
    ((s.reapContext p).slots kind).Sublist (s.slots kind) := by
  unfold Controller.reapContext
  split
  · exact List.Sublist.refl _
  · unfold releaseUnusedSessionSetup
    split <;> exact reap_slots kind

/-- No work item admits a context. -/
theorem perform_slots {work : Work} {fails : Bool} (kind : ContextKind) :
    ((s.perform fails work).slots kind).Sublist (s.slots kind) := by
  cases work with
  | start p =>
      simp only [perform, Controller.start]
      split <;> simp
  | reap p => exact reapContext_slots kind
  | cancel p =>
      have same : (s.cancelOnSdkThread p).slots = s.slots := framed_cancelOnSdkThread.slots
      exact same ▸ List.Sublist.refl _
  | abort p =>
      have same : (s.abortOnSdkThread p).slots = s.slots := framed_abortOnSdkThread.slots
      exact same ▸ List.Sublist.refl _
  | shutdown =>
      have same : s.shutdown.slots = s.slots :=
        ((foldl_slots (fun _ _ => framed_abortOnSdkThread) _ _).trans
          (foldl_slots (fun _ _ => framed_abortInteraction) _ _)).trans
            (foldl_slots (fun _ _ => framed_cancelOnSdkThread) _ _)
      exact same ▸ List.Sublist.refl _

/-- Only an admission adds to a slot, and only where there is room. -/
theorem step_slots {first : Step} (took : s.step first = some s') :
    (∃ kind node address, s.room kind = true ∧ s' = s.admitContext kind node address) ∨
      ∀ kind, (s'.slots kind).Sublist (s.slots kind) := by
  have same : s'.slots = s.slots → ∀ kind, (s'.slots kind).Sublist (s.slots kind) :=
    fun same _ => same ▸ List.Sublist.refl _
  cases first with
  | call kind node address =>
      simp only [step, Option.ite_none_right_eq_some, Option.some.injEq] at took
      by_cases admits : (s.accepting && s.room kind) = true
      · rw [if_pos admits] at took
        simp only [Bool.and_eq_true] at admits
        exact .inl ⟨kind, node, address, admits.2, took.2.symm⟩
      · rw [if_neg admits] at took
        exact .inr (same (took.2 ▸ rfl))
  | schedule accepted =>
      obtain ⟨p, -, rfl⟩ := Option.map_eq_some_iff.mp took
      exact .inr (same (by split <;> simp))
  | markUnscheduled =>
      obtain ⟨p, -, rfl⟩ := Option.map_eq_some_iff.mp took
      refine .inr (same ?_)
      split
      · simp
      · unfold markDone
        cases s.read p with
        | none => simp [faulted]
        | some c =>
            by_cases done : c.done = true <;> simp [done]
  | drop =>
      obtain ⟨p, -, rfl⟩ := Option.map_eq_some_iff.mp took
      exact .inr fun kind => by
        rw [goTo_slots]
        exact reap_slots kind
  | scheduleReap accepted =>
      obtain ⟨p, -, rfl⟩ := Option.map_eq_some_iff.mp took
      exact .inr (same (by simp))
  | expire =>
      obtain ⟨p, -, rfl⟩ := Option.map_eq_some_iff.mp took
      exact .inr (same (by split <;> simp))
  | scheduleAbort accepted =>
      obtain ⟨p, -, rfl⟩ := Option.map_eq_some_iff.mp took
      exact .inr (same (by split <;> simp))
  | answer =>
      obtain ⟨p, -, answers⟩ := Option.bind_eq_some_iff.mp took
      rw [Option.ite_none_right_eq_some, Option.some.injEq] at answers
      exact .inr (same (answers.2 ▸ rfl))
  | scheduleFound waits accepted =>
      obtain ⟨p, -, rfl⟩ := Option.map_eq_some_iff.mp took
      exact .inr (same (by split <;> simp))
  | activated =>
      obtain ⟨p, -, rfl⟩ := Option.map_eq_some_iff.mp took
      exact .inr (same rfl)
  | cancelEnds =>
      obtain ⟨p, -, rfl⟩ := Option.map_eq_some_iff.mp took
      exact .inr (same rfl)
  | close accepted =>
      simp only [step, Option.ite_none_right_eq_some, Option.some.injEq] at took
      exact .inr (same (took.2 ▸ scheduleWork_slots))
  | clear =>
      simp only [step, Option.ite_none_right_eq_some, Option.some.injEq] at took
      exact .inr fun kind => took.2 ▸ List.nil_sublist _
  | work fails =>
      simp only [step] at took
      split at took
      · cases took
      · rw [Option.ite_none_right_eq_some, Option.some.injEq] at took
        exact .inr fun kind => took.2 ▸ perform_slots kind
  | scheduleMarked accepted =>
      simp only [step] at took
      split at took
      · cases took
      · rw [Option.some.injEq] at took
        exact .inr (same (took ▸ scheduleWork_slots))
  | release =>
      obtain ⟨node, -, rfl⟩ := Option.map_eq_some_iff.mp took
      exact .inr (same rfl)
  | finish _ _ _ =>
      simp only [step, Option.ite_none_right_eq_some, Option.some.injEq] at took
      exact .inr (same (took.2 ▸ finish_slots))
  | complete _ =>
      simp only [step, Option.ite_none_right_eq_some, Option.some.injEq] at took
      exact .inr (same (took.2 ▸ onCommissioningComplete_slots))
  | resubscribe _ _ _ _ =>
      simp only [step, Option.ite_none_right_eq_some, Option.some.injEq] at took
      exact .inr (same (took.2 ▸ onResubscriptionNeeded_slots))
  | establish _ _ _ =>
      simp only [step, Option.ite_none_right_eq_some, Option.some.injEq] at took
      exact .inr (same (took.2 ▸ onSubscriptionEstablished_slots))
  | find _ | stopLoop | fail _ _ | undelivered _ _ | deadline _ _ =>
      simp only [step, Option.ite_none_right_eq_some, Option.some.injEq] at took
      exact .inr (same (took.2 ▸ by simp))

/-- Fewer contexts are within the bounds. -/
theorem Seated.shrinks (seated : s.Seated)
    (fewer : ∀ kind, (s'.slots kind).Sublist (s.slots kind)) : s'.Seated :=
  ⟨(fewer _).length_le.trans seated.interactions, (fewer _).length_le.trans seated.subscriptions,
    (Nat.add_le_add (fewer _).length_le (fewer _).length_le).trans seated.control⟩

/-- An admission takes one slot, of its kind. -/
theorem admitContext_length (s : Controller) (kind other : ContextKind) (node : UInt64)
    (address : Nat) : ((s.admitContext kind node address).slots other).length =
      (s.slots other).length + if other = kind then 1 else 0 := by
  unfold Controller.admitContext
  dsimp only
  rw [Function.update_apply]
  split
  · rename_i same
    rw [same, List.length_append, List.length_singleton]
  · rfl

/-- The room that was checked is the room that is taken. -/
theorem Seated.admitContext (seated : s.Seated) {kind : ContextKind} (room : s.room kind = true)
    (node : UInt64) (address : Nat) : (s.admitContext kind node address).Seated := by
  obtain ⟨interactions, subscriptions, control⟩ := seated
  have grown := fun other => admitContext_length s kind other node address
  cases kind with
  | interaction =>
      have fits : (s.slots .interaction).length < 64 := of_decide_eq_true room
      exact ⟨by rw [grown]; exact fits, by rw [grown]; exact subscriptions,
        by rw [grown, grown]; exact control⟩
  | subscription =>
      have fits : (s.slots .subscription).length < 64 := of_decide_eq_true room
      exact ⟨by rw [grown]; exact interactions, by rw [grown]; exact fits,
        by rw [grown, grown]; exact control⟩
  | commissioning | window =>
      -- both of these are free when one is admitted
      simp only [Controller.room, Bool.and_eq_true, List.isEmpty_iff] at room
      exact ⟨by rw [grown]; exact interactions, by rw [grown]; exact subscriptions,
        by rw [grown, grown, room.1.1, room.1.2]; exact Nat.le_refl 1⟩

/-- **The bounds hold in every run**, whatever `ScheduleWork` answers. -/
theorem run_seated {steps : List Step} (seated : s.Seated) (ran : s.run steps = some s') :
    s'.Seated := by
  induction steps generalizing s with
  | nil => exact Option.some.inj ran ▸ seated
  | cons first rest ih =>
      obtain ⟨next, took, ran⟩ := Option.bind_eq_some_iff.mp ran
      refine ih ?_ ran
      rcases step_slots took with ⟨kind, node, address, room, rfl⟩ | fewer
      · exact seated.admitContext room node address
      · exact seated.shrinks fewer

/-- **Slots are bounded and given back.**  At most 64 interactions and 64 subscriptions stand in
their slots, and a commissioning and a window exclude each other; and where no reap and no
cancellation was refused, a controller with its queue worked off and no call under way keeps
nothing that is finished. -/
theorem run_slots (steps : List Step) (ran : opened.run steps = some s) :
    s.Seated ∧ (opened.timelyRun steps = true → steps.all Step.keepsReaps = true →
      s.closing = .open → s.queue = [] → s.marking = [] → s.calls = [] →
      ∀ kind, ∀ p ∈ s.slots kind, ∃ c, s.read p = some c ∧ c.done = false) := by
  refine ⟨run_seated ⟨by simp [opened], by simp [opened], by simp [opened]⟩ ran, ?_⟩
  intro timely keeps open' worked unmarked quiet
  have kept : ∀ (steps : List Step) (s s' : Controller), Sound s → Reclaims s →
      s.timelyRun steps = true → steps.all Step.keepsReaps = true → s.run steps = some s' →
      Sound s' ∧ Reclaims s' := by
    intro steps
    induction steps with
    | nil => exact fun s s' t reclaims _ _ ran => Option.some.inj ran ▸ ⟨t, reclaims⟩
    | cons first rest ih =>
        intro s s' t reclaims timely keeps ran
        obtain ⟨next, took, ran⟩ := Option.bind_eq_some_iff.mp ran
        simp only [timelyRun, took, Bool.and_eq_true] at timely
        rw [List.all_cons, Bool.and_eq_true] at keeps
        exact ih next s' (step_sound t timely.1 took)
          ((step_tends t keeps.1 took).reclaims reclaims) timely.2 keeps.2 ran
  obtain ⟨t, reclaims⟩ := kept steps opened s sound_opened (fun _ _ _ kept => by cases kept)
    timely keeps ran
  intro kind p held
  obtain ⟨c, found⟩ := t.of_slot held
  refine ⟨c, found, ?_⟩
  by_contra done
  rw [Bool.not_eq_false] at done
  have leaving := reclaims open' kind p held (by simp [isDone, found, done])
  simp [leavings, endings, worked, unmarked, quiet] at leaving

/-- An interaction that fails at once, then a subscription that is established. -/
def settling : List Step :=
  [.call .interaction 5 0, .schedule true, .work true, .scheduleMarked true, .answer, .work false,
    .release, .call .subscription 5 0, .schedule true, .work false,
    .establish { kind := .subscription, address := 0, serial := 1 } .established true, .answer]

theorem run_slots_settling : ∃ s, opened.run settling = some s ∧
    s.slots .subscription = [{ kind := .subscription, address := 0, serial := 1 }] ∧
    ∀ kind, ∀ p ∈ s.slots kind, ∃ c, s.read p = some c ∧ c.done = false := by
  have took : (opened.run settling).isSome = true := by decide
  obtain ⟨s, ran⟩ := Option.isSome_iff_exists.mp took
  have ends : (opened.run settling).map (fun s => (s.closing, s.queue, s.marking, s.calls,
      s.slots .subscription)) =
        some (.open, [], [], [], [{ kind := .subscription, address := 0, serial := 1 }]) := by
    decide
  rw [ran, Option.map_some, Option.some.injEq] at ends
  simp only [Prod.mk.injEq] at ends
  obtain ⟨open', worked, unmarked, quiet, kept⟩ := ends
  exact ⟨s, ran, kept,
    (run_slots settling ran).2 (by decide) (by decide) open' worked unmarked quiet⟩

end Bounds

end Controller

end WotexMatter.Native.SdkWork
