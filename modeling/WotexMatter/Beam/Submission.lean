/-
# WotexMatter.Beam.Submission -- an error of effect none, and the frame it speaks of

`Truthful` says where a call can be (in the mailbox, in the queue, active, done) and that
whoever tells a caller that nothing happened is right: its frame was not given to the
Port, and the marker or its absence from every queue keeps it so (`quiet`).  Every step of an
orderly run keeps it.
-/
import WotexMatter.Beam.Admission

set_option autoImplicit false

namespace WotexMatter.Beam.Calls

namespace State

/-! ## What a call that claims no effect has behind it -/

/-- The Port may still be given the frame of `call`. -/
def pending (s : State) (call : Nat) : Prop :=
  call ∈ s.mailbox ∨ call ∈ s.order ∨ s.stage.unwritten = some call

/-- The frame of `call` was not written, and it cannot be. -/
def quiet (s : State) (call : Nat) : Prop :=
  call ∉ s.written ∧ (s.cell call = .cancelled ∨ ¬ s.pending call)

end State

/-- An error made on this side, of effect none. -/
def Reply.claimsNone : Reply → Bool
  | .error failure => failure.effect == .none
  | _ => false

/-- The invariant of a run.  `unsent` to `saved` say where a call can be; the last four say that
whoever claims that nothing happened is right. -/
structure Truthful (setting : Setting) (s : State) : Prop where
  unsent : ∀ call, (s.phase call).early → call ∉ s.mailbox ∧ call ∉ s.calls ∧ call ∉ s.saved ∧
    call ∉ s.stage.remaining ∧ call ∉ s.written ∧ s.replies call = none
  mailed : ∀ call ∈ s.mailbox, call ∉ s.calls ∧ call ∉ s.saved ∧ call ∉ s.stage.remaining ∧
    call ∉ s.written
  ordered : ∀ call ∈ s.order, call ∈ s.calls ∧ call ∉ s.written ∧ s.stage.active ≠ some call
  distinct : s.order.Nodup
  stopped : ∀ call ∈ s.stage.remaining, call ∉ s.order
  active : ∀ call, s.stage.active = some call → call ∈ s.calls
  unwritten : ∀ call, s.stage.unwritten = some call → call ∉ s.written
  marked : ∀ call, s.stage = .marked call → s.cell call = .submitted
  submitted : ∀ call ∈ s.written, s.cell call = .submitted
  called : ∀ call ∈ s.calls, call ∈ s.written → s.stage.active = some call
  saved : ∀ call ∈ s.saved, call ∈ s.written → s.stage.active.isSome → s.stage.active = some call
  remaining : ∀ call ∈ s.stage.remaining, setting.mutates call → call ∉ s.written
  replying : ∀ call reply stop, s.stage = .replying call reply stop → reply.claimsNone →
    setting.mutates call → call ∉ s.written
  replied : ∀ call reply, s.replies call = some reply → reply.claimsNone →
    setting.mutates call → s.quiet call
  returned : ∀ call reply, s.phase call = .returned reply → reply.claimsNone →
    setting.mutates call → s.quiet call

namespace State

variable {setting : Setting} {s next : State} {call : Nat}

theorem truthful_start (setting : Setting) : Truthful setting {} where
  unsent _ _ := by simp [Stage.remaining]
  mailed _ mailed := by cases mailed
  ordered _ ordered := by cases ordered
  distinct := List.nodup_nil
  stopped _ remaining := by cases remaining
  active _ active := by cases active
  unwritten _ unwritten := by cases unwritten
  marked _ marked := by cases marked
  submitted _ written := by cases written
  called _ called := by cases called
  saved _ saved := by cases saved
  remaining _ remaining := by cases remaining
  replying _ _ _ replying := by cases replying
  replied _ _ replied := by cases replied
  returned _ _ returned := by cases returned

theorem quiet.mono (quiet : s.quiet call) (written : call ∈ next.written → call ∈ s.written)
    (cell : s.cell call = .cancelled → next.cell call = .cancelled)
    (pending : next.pending call → s.pending call) : next.quiet call :=
  ⟨fun sent => quiet.1 (written sent),
    quiet.2.imp cell fun settled again => settled (pending again)⟩

/-! ## The caller's steps -/

theorem active_of_unwritten {stage : Stage} (unwritten : stage.unwritten = some call) :
    stage.active = some call := by
  cases stage <;> simp_all [Stage.unwritten, Stage.active]

/-- Before its message is sent, nothing of a call is anywhere. -/
theorem quiet_of_early (t : Truthful setting s) (early : (s.phase call).early) :
    s.quiet call := by
  obtain ⟨unmailed, uncalled, -, -, unwritten, -⟩ := t.unsent call early
  refine ⟨unwritten, .inr ?_⟩
  rintro (mailed | ordered | active)
  · exact unmailed mailed
  · exact uncalled (t.ordered call ordered).1
  · exact uncalled (t.active call (active_of_unwritten active))

@[simp] theorem enter_self (s : State) (call : Nat) (phase : Phase) :
    (s.enter call phase).phase call = phase := by
  simp [enter]

theorem enter_other (s : State) {call other : Nat} (phase : Phase) (different : other ≠ call) :
    (s.enter call phase).phase other = s.phase other := by
  simp [enter, different]

theorem enter_truthful {phase : Phase} (t : Truthful setting s)
    (early : phase.early → (s.phase call).early)
    (returns : ∀ reply, phase = .returned reply → reply.claimsNone → setting.mutates call →
      s.quiet call) :
    Truthful setting (s.enter call phase) :=
  { t with
    unsent := by
      intro other unsent
      by_cases same : other = call
      · rw [same, enter_self] at unsent
        rw [same]
        exact t.unsent call (early unsent)
      · rw [enter_other s phase same] at unsent
        exact t.unsent other unsent
    returned := by
      intro other reply returned
      by_cases same : other = call
      · rw [same, enter_self] at returned
        rw [same]
        exact returns reply returned
      · rw [enter_other s phase same] at returned
        exact t.returned other reply returned }

theorem fail_truthful {code : ErrorCode} (t : Truthful setting s)
    (early : (s.phase call).early) : Truthful setting (s.fail call code) :=
  enter_truthful t (fun absurd => by cases absurd) fun _ _ _ _ => quiet_of_early t early

/-- The caller goes on and does not return. -/
theorem proceed_truthful {phase : Phase} (t : Truthful setting s)
    (early : phase.early → (s.phase call).early) (proceeds : ∀ reply, phase ≠ .returned reply) :
    Truthful setting (s.enter call phase) :=
  enter_truthful t early fun reply returned => absurd returned (proceeds reply)

/-- A marker can be set to `cell`, unless that undoes a submission or a cancellation of a call
on its way. -/
theorem mark_truthful {cell : Cell} (t : Truthful setting s)
    (marked : s.stage = .marked call → cell = .submitted)
    (written : call ∈ s.written → cell = .submitted)
    (cancelled : s.cell call = .cancelled → cell = .cancelled ∨ (s.phase call).early) :
    Truthful setting (s.mark call cell) := by
  have self : (s.mark call cell).cell call = cell := by simp [mark]
  have other : ∀ {k}, k ≠ call → (s.mark call cell).cell k = s.cell k := by
    intro k different
    simp [mark, different]
  have quiet : ∀ {k}, (s.phase k).early = false → s.quiet k → (s.mark call cell).quiet k := by
    intro k sent quiet
    refine quiet.mono id (fun was => ?_) id
    by_cases same : k = call
    · subst same
      rcases cancelled was with set | early
      · rw [self, set]
      · rw [sent] at early
        cases early
    · rw [other same, was]
  exact { t with
    marked := by
      intro k isMarked
      by_cases same : k = call
      · subst same
        rw [self, marked isMarked]
      · rw [other same]
        exact t.marked k isMarked
    submitted := by
      intro k isWritten
      by_cases same : k = call
      · subst same
        rw [self, written isWritten]
      · rw [other same]
        exact t.submitted k isWritten
    replied := by
      intro k reply replied none mutates
      refine quiet ?_ (t.replied k reply replied none mutates)
      by_contra early
      have unreplied := (t.unsent k (by simpa using early)).2.2.2.2.2
      exact absurd (unreplied.symm.trans replied) (by simp)
    returned := by
      intro k reply returned none mutates
      refine quiet ?_ (t.returned k reply returned none mutates)
      rw [show s.phase k = .returned reply from returned]
      rfl }

/-- `call_error`: it claims no effect only where it has cancelled the marker or found it
cancelled. -/
theorem callError_truthful {code : ErrorCode} (t : Truthful setting s) :
    Truthful setting (s.callError setting call code) := by
  have cancelled (unsubmitted : s.cell call ≠ .submitted) :
      Truthful setting ((s.mark call .cancelled).fail call code) := by
    have unwritten : call ∉ s.written := fun written => unsubmitted (t.submitted call written)
    have marked : Truthful setting (s.mark call .cancelled) :=
      mark_truthful t (fun marked => absurd (t.marked call marked) unsubmitted)
        (fun written => absurd written unwritten) (fun _ => .inl rfl)
    refine enter_truthful marked (fun absurd => by cases absurd) fun _ _ _ _ => ?_
    exact ⟨unwritten, .inl (by simp [mark])⟩
  cases cell : s.cell call with
  | unsubmitted =>
      simpa [callError, cell] using cancelled (by simp [cell])
  | cancelled =>
      simpa [callError, cell] using cancelled (by simp [cell])
  | submitted =>
      simp only [callError, cell]
      refine enter_truthful t (fun absurd => by cases absurd) fun reply returned none mutates => ?_
      have claimed := Phase.returned.inj returned
      have unknown : effectOf (setting.request call).message = .unknown := by
        simpa [effectOf, Setting.mutates] using mutates
      rw [← claimed, unknown] at none
      cases none

theorem send_truthful (t : Truthful setting s) (early : (s.phase call).early) :
    Truthful setting ({ s with mailbox := s.mailbox ++ [call] }.enter call .waiting) := by
  have entered : Truthful setting (s.enter call .waiting) :=
    proceed_truthful t (fun absurd => by cases absurd) (by simp)
  obtain ⟨-, uncalled, unsaved, unremaining, unwritten, unreplied⟩ := t.unsent call early
  have pending : ∀ {k}, k ≠ call →
      ({ s with mailbox := s.mailbox ++ [call] }.enter call .waiting).pending k → s.pending k := by
    intro k different
    simp [State.pending, enter, different]
  exact { entered with
    unsent := by
      intro k unsent
      have different : k ≠ call := by
        rintro rfl
        rw [enter_self] at unsent
        cases unsent
      rw [enter_other _ _ different] at unsent
      obtain ⟨unmailed, rest⟩ := t.unsent k unsent
      exact ⟨by simp [enter, unmailed, different], rest⟩
    mailed := by
      intro k mailed
      rcases List.mem_append.mp mailed with mailed | new
      · exact t.mailed k mailed
      · cases List.mem_singleton.mp new
        exact ⟨uncalled, unsaved, unremaining, unwritten⟩
    replied := by
      intro k reply replied none mutates
      have different : k ≠ call := by
        rintro rfl
        exact absurd (unreplied.symm.trans replied) (by simp)
      exact (t.replied k reply replied none mutates).mono id id (pending different)
    returned := by
      intro k reply returned none mutates
      have different : k ≠ call := by
        rintro rfl
        rw [enter_self] at returned
        cases returned
      rw [enter_other _ _ different] at returned
      exact (t.returned k reply returned none mutates).mono id id (pending different) }

theorem advance_truthful {now : Int} (t : Truthful setting s)
    (advanced : s.advance setting call now = some next) : Truthful setting next := by
  cases phase : s.phase call with
  | starting =>
      have early : (s.phase call).early := by rw [phase]; rfl
      simp only [advance, phase] at advanced
      split at advanced
      · cases advanced
        exact fail_truthful t early
      · cases advanced
        exact proceed_truthful t (fun _ => early) (by simp)
  | validating =>
      have early : (s.phase call).early := by rw [phase]; rfl
      simp only [advance, phase] at advanced
      split at advanced
      · cases advanced
        exact fail_truthful t early
      · split at advanced
        · cases advanced
          exact proceed_truthful t (fun _ => early) (by simp)
        · cases advanced
          exact fail_truthful t early
  | checking =>
      have early : (s.phase call).early := by rw [phase]; rfl
      simp only [advance, phase] at advanced
      split at advanced
      · cases advanced
        exact fail_truthful t early
      · cases advanced
        exact proceed_truthful t (fun _ => early) (by simp)
  | scanning =>
      have early : (s.phase call).early := by rw [phase]; rfl
      simp only [advance, phase] at advanced
      split at advanced
      · cases advanced
        exact fail_truthful t early
      · split at advanced
        · cases advanced
          exact fail_truthful t early
        · split at advanced
          · cases advanced
            have moved : Truthful setting
                { s with slot := Function.update s.slot call (s.slot call + 1) } := { t with }
            exact proceed_truthful moved (fun _ => early) (by simp)
          · cases advanced
            -- A new token; the call is on no list yet.
            have made : Truthful setting (s.mark call .unsubmitted) := by
              obtain ⟨-, uncalled, -, -, unwritten, -⟩ := t.unsent call early
              refine mark_truthful t (fun marked => ?_) (fun written => absurd written unwritten)
                (fun _ => .inr early)
              exact absurd (t.active call (by rw [marked]; rfl)) uncalled
            exact proceed_truthful made (fun _ => early) (by simp)
  | inserting =>
      have early : (s.phase call).early := by rw [phase]; rfl
      simp only [advance, phase] at advanced
      split at advanced
      · cases advanced
        exact fail_truthful t early
      · split at advanced
        · cases advanced
          have moved : Truthful setting
              { s with slot := Function.update s.slot call (s.slot call + 1) } := { t with }
          exact proceed_truthful moved (fun _ => early) (by simp)
        · cases advanced
          have inserted : Truthful setting { s with rows := s.rows ++ [s.lease call] } := { t with }
          exact proceed_truthful inserted (fun _ => early) (by simp)
  | rechecking =>
      have early : (s.phase call).early := by rw [phase]; rfl
      simp only [advance, phase] at advanced
      split at advanced
      · cases advanced
        exact fail_truthful t early
      · split at advanced
        · cases advanced
          exact proceed_truthful t (fun _ => early) (by simp)
        · cases advanced
          exact proceed_truthful t (fun _ => early) (by simp)
  | releasing code =>
      have early : (s.phase call).early := by rw [phase]; rfl
      simp only [advance, phase] at advanced
      cases advanced
      have released : Truthful setting (s.release (s.lease call)) := { t with }
      exact fail_truthful released early
  | admitted =>
      have early : (s.phase call).early := by rw [phase]; rfl
      simp only [advance, phase] at advanced
      split at advanced
      · split at advanced
        · cases advanced
          exact proceed_truthful t (fun _ => early) (by simp)
        · cases advanced
          exact send_truthful t early
      · cases advanced
        exact proceed_truthful t (fun _ => early) (by simp)
  | waiting => simp [advance, phase] at advanced
  | caught code =>
      simp only [advance, phase] at advanced
      cases advanced
      exact callError_truthful t
  | returned reply => simp [advance, phase] at advanced

/-! ## The connection's steps -/

theorem reply_truthful (call : Nat) (reply : Reply) (t : Truthful setting s)
    (sent : (s.phase call).early = false)
    (none : reply.claimsNone → setting.mutates call → s.quiet call) :
    Truthful setting (s.reply call reply) :=
  { t with
    unsent := by
      intro k unsent
      have different : k ≠ call := by
        rintro rfl
        rw [show (s.reply k reply).phase k = s.phase k from rfl, sent] at unsent
        cases unsent
      have stored : (s.reply call reply).replies k = s.replies k := by
        simp [State.reply, different]
      rw [stored]
      exact t.unsent k unsent
    replied := by
      intro k answer replied claims mutates
      by_cases same : k = call
      · rw [same] at replied mutates ⊢
        cases before : s.replies call with
        | none =>
            simp only [State.reply, Function.update_self, before, Option.getD_none,
              Option.some.injEq] at replied
            rw [← replied] at claims
            exact none claims mutates
        | some first =>
            simp only [State.reply, Function.update_self, before, Option.getD_some,
              Option.some.injEq] at replied
            rw [← replied] at claims
            exact t.replied call first before claims mutates
      · simp only [State.reply, Function.update_of_ne same] at replied
        exact t.replied k answer replied claims mutates }

theorem shrink_truthful {mailbox calls order : List Nat} (t : Truthful setting s)
    (mailed : mailbox ⊆ s.mailbox) (called : calls ⊆ s.calls) (ordered : order.Sublist s.order)
    (kept : order ⊆ calls) (active : ∀ k, s.stage.active = some k → k ∈ calls) :
    Truthful setting { s with mailbox, calls, order } := by
  have pending : ∀ {k}, { s with mailbox, calls, order }.pending k → s.pending k :=
    fun waits => waits.imp (mailed ·) (Or.imp_left (ordered.subset ·))
  exact { t with
    unsent := by
      intro k early
      obtain ⟨unmailed, uncalled, rest⟩ := t.unsent k early
      exact ⟨fun h => unmailed (mailed h), fun h => uncalled (called h), rest⟩
    mailed := by
      intro k waits
      obtain ⟨uncalled, rest⟩ := t.mailed k (mailed waits)
      exact ⟨fun h => uncalled (called h), rest⟩
    ordered := fun k waits => ⟨kept waits, (t.ordered k (ordered.subset waits)).2⟩
    distinct := t.distinct.sublist ordered
    stopped := fun k remaining waits => t.stopped k remaining (ordered.subset waits)
    active := active
    called := fun k h => t.called k (called h)
    replied := fun k reply replied none mutates =>
      (t.replied k reply replied none mutates).mono id id pending
    returned := fun k reply returned none mutates =>
      (t.returned k reply returned none mutates).mono id id pending }

/-- The connection turns to a stage in which no call is active. -/
theorem rest_truthful {mailbox calls order : List Nat} (stage : Stage) (t : Truthful setting s)
    (mailed : mailbox ⊆ s.mailbox) (called : calls ⊆ s.calls) (ordered : order.Sublist s.order)
    (kept : order ⊆ calls) (rests : stage.active = none) (unwritten : ∀ k ∈ calls, k ∉ s.written)
    (stopped : ∀ k ∈ stage.remaining, k ∉ order)
    (remaining : ∀ k ∈ stage.remaining, (k ∈ s.calls ∨ k ∈ s.saved ∨ k ∈ s.stage.remaining) ∧
      (setting.mutates k → k ∉ s.written)) :
    Truthful setting { s with mailbox, calls, order, stage } := by
  have idle : ∀ k, stage.unwritten ≠ some k := by
    intro k active
    rw [active_of_unwritten active] at rests
    cases rests
  have pending : ∀ {k}, { s with mailbox, calls, order, stage }.pending k → s.pending k := by
    rintro k (waits | waits | active)
    · exact .inl (mailed waits)
    · exact .inr (.inl (ordered.subset waits))
    · exact absurd active (idle k)
  exact {
    unsent := by
      intro k early
      obtain ⟨unmailed, uncalled, unsaved, unremaining, rest⟩ := t.unsent k early
      refine ⟨fun h => unmailed (mailed h), fun h => uncalled (called h), unsaved, ?_, rest⟩
      exact fun h => (remaining k h).1.elim uncalled (Or.elim · unsaved unremaining)
    mailed := by
      intro k waits
      obtain ⟨uncalled, unsaved, unremaining, rest⟩ := t.mailed k (mailed waits)
      refine ⟨fun h => uncalled (called h), unsaved, ?_, rest⟩
      exact fun h => (remaining k h).1.elim uncalled (Or.elim · unsaved unremaining)
    ordered := by
      intro k waits
      refine ⟨kept waits, (t.ordered k (ordered.subset waits)).2.1, ?_⟩
      simp [rests]
    distinct := t.distinct.sublist ordered
    stopped := stopped
    active := fun k active => absurd (rests.symm.trans active) (by simp)
    unwritten := fun k active => absurd active (idle k)
    marked := by
      rintro k rfl
      cases rests
    submitted := t.submitted
    called := fun k h written => absurd written (unwritten k h)
    saved := fun k _ _ active => absurd active (by simp [rests])
    remaining := fun k h => (remaining k h).2
    replying := by
      rintro k reply stop rfl
      cases rests
    replied := fun k reply replied none mutates =>
      (t.replied k reply replied none mutates).mono id id pending
    returned := fun k reply returned none mutates =>
      (t.returned k reply returned none mutates).mono id id pending }

/-- The active call goes on. -/
theorem goTo_truthful {stage : Stage} (t : Truthful setting s) (was : s.stage.active = some call)
    (is : stage.active = some call)
    (unwritten : stage.unwritten = some call → s.stage.unwritten = some call)
    (marked : stage = .marked call → s.cell call = .submitted)
    (replying : ∀ reply stop, stage = .replying call reply stop → reply.claimsNone →
      setting.mutates call → call ∉ s.written) :
    Truthful setting (s.goTo stage) := by
  have only : ∀ {k}, stage.unwritten = some k → k = call := fun active =>
    Option.some.inj ((active_of_unwritten active).symm.trans is)
  have still : ∀ {k}, stage.unwritten = some k → s.stage.unwritten = some k := by
    intro k active
    cases only active
    exact unwritten active
  have pending : ∀ {k}, (s.goTo stage).pending k → s.pending k :=
    fun waits => waits.imp id (Or.imp id still)
  have none : stage.remaining = [] := by
    cases stage <;> simp_all [Stage.remaining, Stage.active]
  have called : call ∈ s.calls := t.active call was
  exact { t with
    unsent := by
      intro k early
      obtain ⟨unmailed, uncalled, unsaved, -, rest⟩ := t.unsent k early
      exact ⟨unmailed, uncalled, unsaved, by simp [goTo, none], rest⟩
    mailed := by
      intro k waits
      obtain ⟨uncalled, unsaved, -, unwritten⟩ := t.mailed k waits
      exact ⟨uncalled, unsaved, by simp [goTo, none], unwritten⟩
    ordered := by
      intro k waits
      obtain ⟨called, unwritten, inactive⟩ := t.ordered k waits
      exact ⟨called, unwritten, by rwa [show (s.goTo stage).stage = stage from rfl, is, ← was]⟩
    stopped := by
      intro k remaining
      rw [show (s.goTo stage).stage = stage from rfl, none] at remaining
      cases remaining
    active := by
      intro k active
      cases Option.some.inj (is.symm.trans active)
      exact called
    unwritten := fun k active => t.unwritten k (still active)
    marked := by
      intro k isMarked
      have same : k = call := only (by rw [show stage = .marked k from isMarked]; rfl)
      subst same
      exact marked isMarked
    called := fun k h written => is.trans (was.symm.trans (t.called k h written))
    saved := fun k h written _ =>
      is.trans (was.symm.trans (t.saved k h written (by simp [was])))
    remaining := by
      intro k h
      rw [show (s.goTo stage).stage = stage from rfl, none] at h
      cases h
    replying := by
      intro k reply stop isReplying
      have same : k = call := by
        have active : stage.active = some k := by
          rw [show stage = .replying k reply stop from isReplying]
          rfl
        exact Option.some.inj (active.symm.trans is)
      subst same
      exact replying reply stop isReplying
    replied := fun k reply replied none mutates =>
      (t.replied k reply replied none mutates).mono id id pending
    returned := fun k reply returned none mutates =>
      (t.returned k reply returned none mutates).mono id id pending }

/-- A call whose message is taken and which is not in the queue can be answered. -/
theorem sent_of_called (t : Truthful setting s) (called : call ∈ s.calls) :
    (s.phase call).early = false := by
  by_contra early
  exact (t.unsent call (by simpa using early)).2.1 called

theorem sent_of_mailed (t : Truthful setting s) (mailed : call ∈ s.mailbox) :
    (s.phase call).early = false := by
  by_contra early
  exact (t.unsent call (by simpa using early)).1 mailed

theorem release_truthful (t : Truthful setting s) (lease : Lease) :
    Truthful setting (s.release lease) := { t with }

theorem filter_sublist (calls : List Nat) (call : Nat) :
    (calls.filter (· != call)).Sublist calls := List.filter_sublist

theorem not_mem_filter (calls : List Nat) (call : Nat) : call ∉ calls.filter (· != call) := by
  simp

theorem mem_filter_of_ne {calls : List Nat} {k : Nat} (mem : k ∈ calls) (different : k ≠ call) :
    k ∈ calls.filter (· != call) := by
  simp [mem, different]

/-- `finish_call` of a call that waits in the queue. -/
theorem finishCall_truthful {answer : Reply} (t : Truthful setting s)
    (inactive : s.stage.active ≠ some call) : Truthful setting (s.finishCall call answer) := by
  by_cases called : call ∈ s.calls
  · have unwritten : call ∉ s.written := fun written => inactive (t.called call called written)
    have left : Truthful setting
        { s with
          calls := s.calls.filter (· != call)
          order := s.order.filter (· != call) } := by
      refine shrink_truthful t (List.Subset.refl _) (filter_sublist _ _).subset
        (filter_sublist _ _) ?_ ?_
      · intro k waits
        obtain ⟨waits, different⟩ := List.mem_filter.mp waits
        exact mem_filter_of_ne (t.ordered k waits).1 (by simpa using different)
      · intro k active
        exact mem_filter_of_ne (t.active k active) (fun same => inactive (same ▸ active))
    have sent := sent_of_called t called
    have answered := reply_truthful call answer (release_truthful left (s.lease call)) sent ?_
    · simpa [finishCall, called, State.reply, release] using answered
    · intro _ _
      refine ⟨unwritten, .inr ?_⟩
      rintro (mailed | ordered | active)
      · exact (t.mailed call mailed).1 called
      · exact not_mem_filter _ _ ordered
      · exact inactive (active_of_unwritten active)
  · simpa [finishCall, called] using t

/-- The connection takes a message and answers it at once. -/
theorem refuse_truthful (t : Truthful setting s) (mailed : call ∈ s.mailbox) (answer : Reply) :
    Truthful setting
      ({ s with mailbox := s.mailbox.filter (· != call) }.reply call answer) := by
  obtain ⟨uncalled, -, -, unwritten⟩ := t.mailed call mailed
  have received : Truthful setting { s with mailbox := s.mailbox.filter (· != call) } :=
    shrink_truthful t (filter_sublist _ _).subset (List.Subset.refl _) (List.Sublist.refl _)
      (fun k waits => (t.ordered k waits).1) t.active
  have sent := sent_of_mailed t mailed
  refine reply_truthful call answer received sent fun _ _ => ⟨unwritten, .inr ?_⟩
  rintro (waits | ordered | active)
  · exact not_mem_filter _ _ waits
  · exact uncalled (t.ordered call ordered).1
  · exact uncalled (t.active call (active_of_unwritten active))

/-- The connection takes a message into its queue. -/
theorem accept_truthful (t : Truthful setting s) (mailed : call ∈ s.mailbox) :
    Truthful setting
      { s with
        mailbox := s.mailbox.filter (· != call)
        calls := s.calls ++ [call]
        order := s.order ++ [call] } := by
  obtain ⟨uncalled, unsaved, unremaining, unwritten⟩ := t.mailed call mailed
  have sent := sent_of_mailed t mailed
  have pending : ∀ {k}, { s with
      mailbox := s.mailbox.filter (· != call)
      calls := s.calls ++ [call]
      order := s.order ++ [call] }.pending k → s.pending k := by
    rintro k (waits | waits | active)
    · exact .inl ((filter_sublist _ _).subset waits)
    · rcases List.mem_append.mp waits with waits | new
      · exact .inr (.inl waits)
      · exact .inl (List.mem_singleton.mp new ▸ mailed)
    · exact .inr (.inr active)
  exact { t with
    unsent := by
      intro k early
      obtain ⟨unmailed, notCalled, rest⟩ := t.unsent k early
      refine ⟨fun h => unmailed ((filter_sublist _ _).subset h), ?_, rest⟩
      intro h
      rcases List.mem_append.mp h with h | new
      · exact notCalled h
      · rw [List.mem_singleton.mp new, sent] at early
        cases early
    mailed := by
      intro k waits
      obtain ⟨waits, different⟩ := List.mem_filter.mp waits
      obtain ⟨notCalled, rest⟩ := t.mailed k waits
      exact ⟨by simpa [notCalled] using different, rest⟩
    ordered := by
      intro k waits
      rcases List.mem_append.mp waits with waits | new
      · obtain ⟨called, rest⟩ := t.ordered k waits
        exact ⟨List.mem_append_left _ called, rest⟩
      · cases List.mem_singleton.mp new
        exact ⟨by simp, unwritten, fun active => uncalled (t.active _ active)⟩
    distinct := by
      refine t.distinct.append (List.nodup_singleton call) ?_
      intro k waits new
      cases List.mem_singleton.mp new
      exact uncalled (t.ordered _ waits).1
    stopped := by
      intro k remaining waits
      rcases List.mem_append.mp waits with waits | new
      · exact t.stopped k remaining waits
      · exact unremaining (List.mem_singleton.mp new ▸ remaining)
    active := fun k active => List.mem_append_left _ (t.active k active)
    called := by
      intro k called written
      rcases List.mem_append.mp called with called | new
      · exact t.called k called written
      · exact absurd (List.mem_singleton.mp new ▸ written) unwritten
    replied := fun k reply replied none mutates =>
      (t.replied k reply replied none mutates).mono id id pending
    returned := fun k reply returned none mutates =>
      (t.returned k reply returned none mutates).mono id id pending }

theorem enqueueCall_truthful {now later : Int} (t : Truthful setting s)
    (mailed : call ∈ s.mailbox) : Truthful setting (s.enqueueCall setting call now later) := by
  have refused (answer : Reply) :
      Truthful setting (({ s with mailbox := s.mailbox.filter (· != call) }.release
        (s.lease call)).reply call answer) :=
    { refuse_truthful t mailed answer with }
  simp only [enqueueCall]
  split
  · exact refuse_truthful t mailed _
  · split
    · exact refuse_truthful t mailed _
    · split
      · exact refused _
      · split
        · exact refused _
        · split
          · exact refused _
          · exact accept_truthful t mailed

/-- The head of the queue becomes the active call. -/
theorem take_truthful {rest : List Nat} {stage : Stage} (t : Truthful setting s)
    (idle : s.stage.active = none) (order : s.order = call :: rest)
    (is : stage.active = some call) (unmarked : stage ≠ .marked call) :
    Truthful setting { s with order := rest, saved := s.calls, stage } := by
  obtain ⟨called, unwritten, -⟩ := t.ordered call (by simp [order])
  obtain ⟨absent, distinct⟩ := List.nodup_cons.mp (order ▸ t.distinct)
  have noneWritten : ∀ k ∈ s.calls, k ∉ s.written := by
    intro k called written
    exact absurd (idle.symm.trans (t.called k called written)) (by simp)
  have waited : ∀ {k}, k ∈ rest → k ∈ s.order := by
    intro k waits
    simp [order, waits]
  have none : stage.remaining = [] := by
    cases stage <;> simp_all [Stage.remaining, Stage.active]
  have pending : ∀ {k}, { s with order := rest, saved := s.calls, stage }.pending k →
      s.pending k := by
    rintro k (waits | waits | active)
    · exact .inl waits
    · exact .inr (.inl (waited waits))
    · cases Option.some.inj ((active_of_unwritten active).symm.trans is)
      exact .inr (.inl (by simp [order]))
  exact { t with
    unsent := by
      intro k early
      obtain ⟨unmailed, uncalled, -, -, rest⟩ := t.unsent k early
      exact ⟨unmailed, uncalled, uncalled, by simp [none], rest⟩
    mailed := by
      intro k waits
      obtain ⟨uncalled, -, -, unwritten⟩ := t.mailed k waits
      exact ⟨uncalled, uncalled, by simp [none], unwritten⟩
    ordered := by
      intro k waits
      obtain ⟨called, unwritten, -⟩ := t.ordered k (waited waits)
      refine ⟨called, unwritten, ?_⟩
      rw [is]
      rintro ⟨⟩
      exact absent waits
    distinct := distinct
    stopped := by simp [none]
    active := by
      intro k active
      cases Option.some.inj (is.symm.trans active)
      exact called
    unwritten := by
      intro k active
      cases Option.some.inj (is.symm.trans (active_of_unwritten active))
      exact unwritten
    marked := by
      rintro k rfl
      cases Option.some.inj is
      exact absurd rfl unmarked
    called := fun k called written => absurd written (noneWritten k called)
    saved := fun k called written => absurd written (noneWritten k called)
    remaining := by simp [none]
    replying := by
      rintro k reply stop rfl - -
      cases Option.some.inj is
      exact unwritten
    replied := fun k reply replied none mutates =>
      (t.replied k reply replied none mutates).mono id id pending
    returned := fun k reply returned none mutates =>
      (t.returned k reply returned none mutates).mono id id pending }

theorem drain_truthful {now : Int} (t : Truthful setting s) (idle : s.stage = .idle)
    (drained : s.drain setting now = some next) : Truthful setting next := by
  have inactive : s.stage.active = none := by rw [idle]; rfl
  cases order : s.order with
  | nil => simp [drain, order] at drained
  | cons call rest =>
      have taken (stage : Stage) (is : stage.active = some call) (unmarked : stage ≠ .marked call) :
          Truthful setting ({ s with order := rest, saved := s.calls }.goTo stage) := by
        have active := take_truthful t inactive order is unmarked
        exact active
      simp only [drain, order] at drained
      split at drained
      · cases drained
        exact taken _ rfl (by simp)
      · split at drained
        · cases drained
          exact taken _ rfl (by simp)
        · split at drained
          · cases drained
            exact taken _ rfl (by simp)
          · cases drained
            exact taken _ rfl (by simp)

/-- A call that was not written is answered. -/
theorem answer_truthful (t : Truthful setting s) (unwritten : s.stage.unwritten = some call)
    (reply : Reply) (stop : Bool) : Truthful setting (s.goTo (.replying call reply stop)) := by
  refine goTo_truthful t (active_of_unwritten unwritten) rfl (by simp [Stage.unwritten]) (by simp) ?_
  intro _ _ _ _ _
  exact t.unwritten call unwritten

theorem sendRequestFrame_truthful {framing : Framing} {now : Int} (t : Truthful setting s)
    (dispatching : s.stage = .dispatching call)
    (framed : s.sendRequestFrame setting call framing now = some next) :
    Truthful setting next := by
  have unwritten : s.stage.unwritten = some call := by rw [dispatching]; rfl
  have marking : Truthful setting (s.goTo (.marking call)) :=
    goTo_truthful t (active_of_unwritten unwritten) rfl (fun _ => unwritten) (by simp) (by simp)
  have answered (reply : Reply) (stop : Bool) := answer_truthful t unwritten reply stop
  cases framing with
  | exhausted | unencodable | raised =>
      cases framed
      exact answered _ _
  | encoded =>
      simp only [sendRequestFrame] at framed
      split at framed
      · cases framed
        exact answered _ _
      · cases framed
        exact marking
  | answered reply stop =>
      simp only [sendRequestFrame] at framed
      split at framed
      · cases framed
      · cases framed
        exact answered _ _

theorem dispatch_truthful {framing : Framing} {now : Int} (t : Truthful setting s)
    (dispatched : s.dispatch setting framing now = some next) : Truthful setting next := by
  cases stage : s.stage with
  | dispatching call =>
      have unwritten : s.stage.unwritten = some call := by rw [stage]; rfl
      simp only [dispatch, stage] at dispatched
      split at dispatched
      · split at dispatched
        · cases dispatched
          exact answer_truthful t unwritten _ _
        · exact sendRequestFrame_truthful t stage dispatched
      · cases dispatched
        exact answer_truthful t unwritten _ _
  | _ => simp [dispatch, stage] at dispatched

theorem markSubmission_truthful (t : Truthful setting s) (marks : s.markSubmission = some next) :
    Truthful setting next := by
  cases stage : s.stage with
  | marking call =>
      have unwritten : s.stage.unwritten = some call := by rw [stage]; rfl
      cases cell : s.cell call with
      | unsubmitted =>
          simp only [markSubmission, stage, cell, Option.some.injEq] at marks
          rw [← marks]
          have marked : Truthful setting (s.mark call .submitted) :=
            mark_truthful t (fun _ => rfl) (fun _ => rfl) (by simp [cell])
          refine goTo_truthful marked (active_of_unwritten unwritten) rfl (fun _ => unwritten)
            (fun _ => ?_) (by simp)
          simp [mark]
      | _ =>
          simp only [markSubmission, stage, cell, Option.some.injEq] at marks
          rw [← marks]
          exact answer_truthful t unwritten _ _
  | _ => simp [markSubmission, stage] at marks

/-- The Port takes the frame of the active call. -/
theorem write_truthful (t : Truthful setting s) (stage : s.stage = .marked call) :
    Truthful setting { s with stage := .awaiting call, written := s.written ++ [call] } := by
  have active : s.stage.active = some call := by rw [stage]; rfl
  have called : call ∈ s.calls := t.active call active
  have other : ∀ {k}, k ≠ call → k ∉ s.written → k ∉ s.written ++ [call] := by
    intro k different unwritten
    simp [different, unwritten]
  have quiet : ∀ {k}, s.quiet k →
      { s with stage := .awaiting call, written := s.written ++ [call] }.quiet k := by
    intro k quiet
    have different : k ≠ call := by
      rintro rfl
      rcases quiet.2 with cancelled | settled
      · rw [t.marked k stage] at cancelled
        cases cancelled
      · exact settled (.inr (.inr (by rw [stage]; rfl)))
    refine quiet.mono (fun written => ?_) id ?_
    · exact absurd written (other different quiet.1)
    · rintro (waits | waits | absurd)
      · exact .inl waits
      · exact .inr (.inl waits)
      · cases absurd
  exact {
    unsent := by
      intro k early
      obtain ⟨unmailed, uncalled, unsaved, -, unwritten, unreplied⟩ := t.unsent k early
      have different : k ≠ call := fun same => uncalled (same ▸ called)
      exact ⟨unmailed, uncalled, unsaved, by simp [Stage.remaining], other different unwritten,
        unreplied⟩
    mailed := by
      intro k waits
      obtain ⟨uncalled, unsaved, -, unwritten⟩ := t.mailed k waits
      have different : k ≠ call := fun same => uncalled (same ▸ called)
      exact ⟨uncalled, unsaved, by simp [Stage.remaining], other different unwritten⟩
    ordered := by
      intro k waits
      obtain ⟨queued, unwritten, inactive⟩ := t.ordered k waits
      have different : k ≠ call := fun same => inactive (same ▸ active)
      exact ⟨queued, other different unwritten, fun same => inactive (active.trans same)⟩
    distinct := t.distinct
    stopped := by
      rintro k ⟨⟩
    active := by
      rintro k ⟨⟩
      exact called
    unwritten := by
      rintro k ⟨⟩
    marked := by
      rintro k ⟨⟩
    submitted := by
      intro k written
      rcases List.mem_append.mp written with written | new
      · exact t.submitted k written
      · rw [List.mem_singleton.mp new]
        exact t.marked call stage
    called := by
      intro k queued written
      rcases List.mem_append.mp written with written | new
      · exact active.symm.trans (t.called k queued written)
      · rw [List.mem_singleton.mp new]
        rfl
    saved := by
      intro k saved written _
      rcases List.mem_append.mp written with written | new
      · exact active.symm.trans (t.saved k saved written (by simp [active]))
      · rw [List.mem_singleton.mp new]
        rfl
    remaining := by
      rintro k ⟨⟩
    replying := by
      rintro k reply stop ⟨⟩
    replied := fun k reply replied none mutates =>
      quiet (t.replied k reply replied none mutates)
    returned := fun k reply returned none mutates =>
      quiet (t.returned k reply returned none mutates) }

theorem command_truthful {outcome : Command} (t : Truthful setting s)
    (commanded : s.command outcome = some next) : Truthful setting next := by
  cases stage : s.stage with
  | marked call =>
      have unwritten : s.stage.unwritten = some call := by rw [stage]; rfl
      have clearing : Truthful setting (s.goTo (.clearing call)) :=
        goTo_truthful t (active_of_unwritten unwritten) rfl (fun _ => unwritten) (by simp) (by simp)
      cases outcome with
      | accepted =>
          simp only [command, stage, Option.some.injEq] at commanded
          rw [← commanded]
          exact write_truthful t stage
      | refused | badArgument =>
          simp only [command, stage, Option.some.injEq] at commanded
          rw [← commanded]
          exact clearing
      | raised =>
          simp only [command, stage, Option.some.injEq] at commanded
          rw [← commanded]
          exact answer_truthful t unwritten _ _
  | _ => simp [command, stage] at commanded

theorem clearSubmission_truthful (t : Truthful setting s)
    (cleared : s.clearSubmission = some next) : Truthful setting next := by
  cases stage : s.stage with
  | clearing call =>
      have unwritten : s.stage.unwritten = some call := by rw [stage]; rfl
      simp only [clearSubmission, stage, Option.some.injEq] at cleared
      rw [← cleared]
      have marked : Truthful setting (s.mark call .cancelled) :=
        mark_truthful t (by simp [stage])
          (fun written => absurd written (t.unwritten call unwritten)) (fun _ => .inl rfl)
      exact answer_truthful marked unwritten _ _
  | _ => simp [clearSubmission, stage] at cleared

/-- After a submission only a rejected error reply is answered with effect none. -/
theorem conclude_claimsNone {message : Message} {deadline : Int} {answer : Answer}
    (mutates : message.mutating) (orderly : answer ≠ .malformedFailure) :
    (conclude message deadline answer).1.claimsNone = false := by
  have unknown : effectOf message = .unknown := by simp [effectOf, mutates]
  cases answer with
  | result rejected now later =>
      simp only [conclude, channelError, unknown]
      repeat' split
      all_goals rfl
  | failure error => rfl
  | malformedFailure => exact absurd rfl orderly
  | channel code => simp [conclude, channelError, unknown, Reply.claimsNone]

theorem conclude_truthful (answer : Answer) (t : Truthful setting s)
    (stage : s.stage = .awaiting call)
    (orderly : setting.mutates call → answer ≠ .malformedFailure) :
    Truthful setting (s.goTo (.replying call
      (conclude (setting.request call).message (setting.deadline call) answer).1
      (conclude (setting.request call).message (setting.deadline call) answer).2)) := by
  have active : s.stage.active = some call := by rw [stage]; rfl
  refine goTo_truthful t active rfl (by simp [Stage.unwritten]) (by simp) ?_
  intro reply stop replying none mutates
  simp only [Stage.replying.injEq, true_and] at replying
  rw [← replying.1, conclude_claimsNone mutates (orderly mutates)] at none
  cases none

/-- `terminate` is left with calls that were not written, or that do not mutate. -/
theorem terminate_truthful {remaining : List Nat} (t : Truthful setting s)
    (known : ∀ k ∈ remaining, (k ∈ s.calls ∨ k ∈ s.saved ∨ k ∈ s.stage.remaining) ∧
      (setting.mutates k → k ∉ s.written)) :
    Truthful setting (s.terminate remaining) := by
  have resting : Truthful setting
      { s with
        mailbox := s.mailbox
        calls := []
        order := []
        stage := .terminating remaining } :=
    rest_truthful _ t (List.Subset.refl _) (List.nil_subset _) (List.nil_sublist _)
      (List.nil_subset _) rfl (by simp) (by simp) known
  exact { resting with }

theorem terminateCalls_truthful (t : Truthful setting s) (inactive : s.stage.active = none) :
    Truthful setting (s.terminate s.calls) := by
  refine terminate_truthful t fun k called => ⟨.inl called, fun _ written => ?_⟩
  exact absurd (inactive.symm.trans (t.called k called written)) (by simp)

/-- `terminate` with the state that `:drain_calls` was handled in. -/
theorem raised_truthful (t : Truthful setting s) (active : s.stage.active = some call)
    (unwritten : setting.mutates call → call ∉ s.written) :
    Truthful setting (s.terminate s.saved) := by
  refine terminate_truthful t fun k saved => ⟨.inr (.inl saved), fun mutates written => ?_⟩
  have same := t.saved k saved written (by simp [active])
  cases Option.some.inj (active.symm.trans same)
  exact unwritten mutates written

theorem disconnect_truthful (t : Truthful setting s) (inactive : s.stage.active = none) :
    Truthful setting (s.goTo .disconnecting) := by
  have turned := rest_truthful .disconnecting t (List.Subset.refl _) (List.Subset.refl _)
    (List.Sublist.refl _) (fun k waits => (t.ordered k waits).1) rfl ?_ (by simp [Stage.remaining])
    (by simp [Stage.remaining])
  · exact turned
  · intro k called written
    exact absurd (inactive.symm.trans (t.called k called written)) (by simp)

theorem exit_truthful (t : Truthful setting s) : Truthful setting s.exit := by
  have resting : Truthful setting
      { s with
        mailbox := []
        calls := []
        order := []
        stage := .dead } :=
    rest_truthful _ t (List.nil_subset _) (List.nil_subset _) (List.nil_sublist _)
      (List.nil_subset _) rfl (by simp) (by simp) (by simp [Stage.remaining])
  exact { resting with }

theorem breakOff_truthful {code : ErrorCode} (t : Truthful setting s)
    (broken : s.breakOff setting code = some next) : Truthful setting next := by
  cases stage : s.stage with
  | awaiting call =>
      simp only [breakOff, stage, Option.some.injEq] at broken
      rw [← broken]
      have concluded := conclude_truthful (.channel code) t stage (by simp)
      exact { concluded with }
  | idle | disconnecting =>
      simp only [breakOff, stage, Option.some.injEq] at broken
      rw [← broken]
      exact terminateCalls_truthful t (by rw [stage]; rfl)
  | _ => simp [breakOff, stage] at broken

/-- `finish_call` of the active call, and the turn to the next or to `terminate`. -/
theorem finish_truthful {reply : Reply} {stop : Bool} (t : Truthful setting s)
    (stage : s.stage = .replying call reply stop) :
    Truthful setting ((s.finishCall call reply).goTo .idle) := by
  have active : s.stage.active = some call := by rw [stage]; rfl
  have called : call ∈ s.calls := t.active call active
  have left : Truthful setting
      { s with
        mailbox := s.mailbox
        calls := s.calls.filter (· != call)
        order := s.order.filter (· != call)
        stage := .idle } := by
    refine rest_truthful _ t (List.Subset.refl _) (filter_sublist _ _).subset (filter_sublist _ _)
      ?_ rfl ?_ (by simp [Stage.remaining]) (by simp [Stage.remaining])
    · intro k waits
      obtain ⟨waits, different⟩ := List.mem_filter.mp waits
      exact mem_filter_of_ne (t.ordered k waits).1 (by simpa using different)
    · intro k kept written
      obtain ⟨queued, different⟩ := List.mem_filter.mp kept
      have same := Option.some.inj (active.symm.trans (t.called k queued written))
      simp [same] at different
  have sent := sent_of_called t called
  have answered := reply_truthful call reply (release_truthful left (s.lease call)) sent ?_
  · simpa [finishCall, called, State.reply, release, goTo] using answered
  · intro none mutates
    refine ⟨t.replying call reply stop stage none mutates, .inr ?_⟩
    rintro (mailed | ordered | absurd)
    · exact (t.mailed call mailed).1 called
    · exact not_mem_filter _ _ ordered
    · cases absurd

theorem reapOne_truthful {now : Int} {lease : Lease} (t : Truthful setting s) :
    Truthful setting (s.reapOne setting now lease) := by
  simp only [reapOne]
  split
  · exact t
  · split
    · rename_i waits
      exact { refuse_truthful t waits.1 _ with }
    · exact release_truthful t lease

theorem terminateNext_truthful {rest : List Nat} (t : Truthful setting s)
    (stage : s.stage = .terminating (call :: rest)) :
    Truthful setting (((s.release (s.lease call)).reply call
      (.error { code := .transportClosed })).goTo (.terminating rest)) := by
  have head : call ∈ s.stage.remaining := by simp [stage, Stage.remaining]
  have sent : (s.phase call).early = false := by
    by_contra early
    exact (t.unsent call (by simpa using early)).2.2.2.1 head
  have quiet : setting.mutates call → s.quiet call := by
    intro mutates
    refine ⟨t.remaining call head mutates, .inr ?_⟩
    rintro (mailed | ordered | active)
    · exact (t.mailed call mailed).2.2.1 head
    · exact t.stopped call head ordered
    · rw [stage] at active
      cases active
  have unwritten : ∀ k ∈ s.calls, k ∉ s.written := by
    intro k called written
    have active := t.called k called written
    rw [stage] at active
    cases active
  have fewer : ∀ {k}, k ∈ rest → k ∈ s.stage.remaining := by
    intro k left
    simp [stage, Stage.remaining, left]
  have answered := reply_truthful call (.error { code := .transportClosed })
    (release_truthful t (s.lease call)) sent (fun _ mutates => quiet mutates)
  have turned := rest_truthful (.terminating rest) answered (List.Subset.refl _)
    (List.Subset.refl _) (List.Sublist.refl _) (fun k waits => (t.ordered k waits).1) rfl unwritten
    (fun k left => t.stopped k (fewer left))
    (fun k left => ⟨.inr (.inr (fewer left)), t.remaining k (fewer left)⟩)
  exact turned

/-! ## Steps and runs -/

/-- **A step keeps the invariant**, in an orderly run. -/
theorem step_truthful {step : Step} (t : Truthful setting s) (orderly : s.orderly setting step)
    (stepped : s.step setting step = some next) : Truthful setting next := by
  cases step with
  | advance call now =>
      simp only [State.step] at stepped
      split at stepped
      · exact advance_truthful t stepped
      · cases stepped
  | receive call =>
      simp only [State.step] at stepped
      split at stepped
      · rename_i reply _ _ replied
        cases stepped
        refine enter_truthful t (fun absurd => by cases absurd) fun answer returned none mutates => ?_
        cases returned
        exact t.replied call reply replied none mutates
      · cases stepped
  | timeout call =>
      simp only [State.step] at stepped
      split at stepped
      · cases stepped
        exact proceed_truthful t (fun absurd => by cases absurd) (by simp)
      · cases stepped
  | down call =>
      simp only [State.step] at stepped
      split at stepped
      · cases stepped
        exact proceed_truthful t (fun absurd => by cases absurd) (by simp)
      · cases stepped
  | die call =>
      cases stepped
      exact { t with }
  | beginClose deadline =>
      simp only [State.step] at stepped
      split at stepped
      · cases stepped
      · cases stepped
        exact { t with }
  | requestClose =>
      simp only [State.step] at stepped
      split at stepped
      · split at stepped
        · cases stepped
          exact { t with }
        · cases stepped
      · cases stepped
  | closerDies =>
      simp only [State.step, Option.map_eq_some_iff] at stepped
      obtain ⟨record, -, rfl⟩ := stepped
      exact { t with }
  | enqueue call now later =>
      simp only [State.step] at stepped
      split at stepped
      · rename_i serves
        cases stepped
        exact enqueueCall_truthful t serves.2
      · cases stepped
  | drain now =>
      simp only [State.step] at stepped
      split at stepped
      · rename_i idle
        exact drain_truthful t idle.1 stepped
      · cases stepped
  | dispatch framing now => exact dispatch_truthful t stepped
  | mark => exact markSubmission_truthful t stepped
  | command outcome => exact command_truthful t stepped
  | clear => exact clearSubmission_truthful t stepped
  | answer answer =>
      simp only [State.step] at stepped
      split at stepped
      · rename_i call stage _
        cases stepped
        refine conclude_truthful answer t stage ?_
        rintro mutates rfl
        simp [State.orderly, stage, mutates] at orderly
      · cases stepped
  | finish =>
      simp only [State.step] at stepped
      split at stepped
      · rename_i call reply stop stage
        have finished := finish_truthful t stage
        cases stop with
        | false =>
            cases stepped
            exact finished
        | true =>
            cases stepped
            exact { terminateCalls_truthful finished rfl with }
      · cases stepped
  | expire call =>
      simp only [State.step] at stepped
      split at stepped
      · rename_i inactive
        cases stepped
        exact finishCall_truthful t inactive.2
      · cases stepped
  | callerDown call =>
      simp only [State.step] at stepped
      split at stepped
      · rename_i inactive
        cases stepped
        exact finishCall_truthful t inactive.2.1
      · cases stepped
  | closeControl invalidate now =>
      simp only [State.step] at stepped
      split at stepped
      · rename_i record _
        have taken : Truthful setting
            { s with closing := some { record with control := .taken } } := { t with }
        split at stepped
        · split at stepped
          · rename_i idle
            cases stepped
            exact disconnect_truthful taken (by rw [idle.1]; rfl)
          · exact breakOff_truthful taken stepped
        · cases stepped
      · cases stepped
  | reap now =>
      simp only [State.step] at stepped
      split at stepped
      · cases stepped
        exact { t with }
      · cases stepped
  | reapNext =>
      simp only [State.step] at stepped
      split at stepped
      · rename_i now lease rest _
        cases stepped
        exact { reapOne_truthful t with }
      · cases stepped
  | reapEnd cancellationExpired =>
      simp only [State.step] at stepped
      split at stepped
      · split at stepped
        · cases stepped
          exact { t with }
        · exact breakOff_truthful t stepped
        · exact breakOff_truthful t stepped
      · cases stepped
  | stop =>
      simp only [State.step] at stepped
      split at stepped
      · rename_i inactive
        cases stepped
        exact terminateCalls_truthful t inactive.2
      · cases stepped
  | raised =>
      simp only [State.step] at stepped
      split at stepped
      · rename_i call stage
        cases stepped
        have unwritten := t.unwritten call (by rw [stage]; rfl)
        exact raised_truthful t (by rw [stage]; rfl) (fun _ => unwritten)
      · rename_i call stage
        cases stepped
        refine raised_truthful t (by rw [stage]; rfl) fun mutates => ?_
        simp [State.orderly, stage, mutates] at orderly
      · cases stepped
  | terminateNext =>
      simp only [State.step] at stepped
      split at stepped
      · rename_i call rest stage
        cases stepped
        exact terminateNext_truthful t stage
      · cases stepped
  | exit =>
      simp only [State.step] at stepped
      split at stepped
      · cases stepped
        exact exit_truthful t
      · cases stepped
  | kill =>
      simp only [State.step] at stepped
      split at stepped
      · cases stepped
      · cases stepped
        exact exit_truthful t

theorem run_truthful {steps : List Step} (t : Truthful setting s)
    (orderly : s.orderlyRun setting steps) (ran : s.run setting steps = some next) :
    Truthful setting next := by
  induction steps generalizing s with
  | nil =>
      cases ran
      exact t
  | cons step rest ih =>
      simp only [run, Option.bind_eq_some_iff] at ran
      obtain ⟨middle, stepped, ran⟩ := ran
      simp only [orderlyRun, stepped, Bool.and_eq_true] at orderly
      exact ih (step_truthful t orderly.1 stepped) orderly.2 ran

end State

end WotexMatter.Beam.Calls
