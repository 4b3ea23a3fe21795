/-
# WotexMatter.Beam.Leases -- at most 64 leases, and none once a close has begun

The rows of the table have different slots between 1 and 64 whatever the callers and
the connection do, and a call that had no lease when a closing record was there is never
handed one.  `run_effect_none` puts this beside what errors of effect none are worth;
`run_effect_none_malformed` is a run in which the host's error reply is malformed.
-/
import WotexMatter.Beam.Submission

set_option autoImplicit false

namespace WotexMatter.Beam.Calls

/-- A step of the caller's own process. -/
def Step.ofCaller : Step → Bool
  | .advance .. | .receive _ | .timeout _ | .down _ => true
  | _ => false

/-- No lease is handed out any more. -/
def State.shut (s : State) : Prop := s.closing.isSome ∨ s.stage = .dead

/-- What every other step does to the table: rows go, and nothing is reopened. -/
structure Served (s next : State) : Prop where
  rows : next.rows.Sublist s.rows
  slot : next.slot = s.slot
  phase : next.phase = s.phase
  shut : s.shut → next.shut

theorem Served.trans {s middle next : State} (first : Served s middle) (second : Served middle next) :
    Served s next where
  rows := second.rows.trans first.rows
  slot := second.slot.trans first.slot
  phase := second.phase.trans first.phase
  shut shut := second.shut (first.shut shut)

namespace State

variable {setting : Setting} {s next : State} {call : Nat}

/-! ## The connection's steps -/

theorem served_of_closing (rows : next.rows.Sublist s.rows) (slot : next.slot = s.slot)
    (phase : next.phase = s.phase) (closing : next.closing = s.closing)
    (stage : s.stage ≠ .dead) : Served s next where
  rows := rows
  slot := slot
  phase := phase
  shut := by
    rintro (closed | dead)
    · exact .inl (by rwa [closing])
    · exact absurd dead stage

theorem served_goTo (stage : Stage) (alive : s.stage ≠ .dead) : Served s (s.goTo stage) :=
  served_of_closing (List.Sublist.refl _) rfl rfl rfl alive

theorem release_sublist (s : State) (lease : Lease) : (s.release lease).rows.Sublist s.rows :=
  List.filter_sublist

theorem served_exit (s : State) : Served s s.exit where
  rows := List.nil_sublist _
  slot := rfl
  phase := rfl
  shut _ := .inr rfl

theorem served_terminate (remaining : List Nat) (alive : s.stage ≠ .dead) :
    Served s (s.terminate remaining) :=
  served_of_closing (List.Sublist.refl _) rfl rfl rfl alive

theorem served_finishCall (answer : Reply) (alive : s.stage ≠ .dead) :
    Served s (s.finishCall call answer) := by
  by_cases called : call ∈ s.calls
  · simp only [finishCall, called, if_true]
    exact served_of_closing (release_sublist s _) rfl rfl rfl alive
  · simp only [finishCall, called, if_false]
    exact served_of_closing (List.Sublist.refl _) rfl rfl rfl alive

@[simp] theorem finishCall_stage (s : State) (call : Nat) (answer : Reply) :
    (s.finishCall call answer).stage = s.stage := by
  simp only [finishCall]
  split <;> rfl

theorem alive_of_serves (serves : s.serves) : s.stage ≠ .dead := by
  intro dead
  simp [State.serves, dead, Stage.serves] at serves

theorem served_breakOff {code : ErrorCode} (broken : s.breakOff setting code = some next) :
    Served s next := by
  cases stage : s.stage with
  | awaiting call =>
      simp only [breakOff, stage, Option.some.injEq] at broken
      rw [← broken]
      exact served_of_closing (List.Sublist.refl _) rfl rfl rfl (by simp [stage])
  | idle | disconnecting =>
      simp only [breakOff, stage, Option.some.injEq] at broken
      rw [← broken]
      exact served_terminate _ (by simp [stage])
  | _ => simp [breakOff, stage] at broken

theorem served_enqueueCall {now later : Int} (alive : s.stage ≠ .dead) :
    Served s (s.enqueueCall setting call now later) := by
  simp only [enqueueCall]
  repeat' split
  all_goals first
    | exact served_of_closing (List.Sublist.refl _) rfl rfl rfl alive
    | exact served_of_closing (release_sublist s _) rfl rfl rfl alive

theorem served_drain {now : Int} (alive : s.stage ≠ .dead)
    (drained : s.drain setting now = some next) : Served s next := by
  simp only [drain] at drained
  repeat' split at drained
  all_goals cases drained
  all_goals exact served_of_closing (List.Sublist.refl _) rfl rfl rfl alive

theorem served_dispatch {framing : Framing} {now : Int}
    (dispatched : s.dispatch setting framing now = some next) : Served s next := by
  simp only [dispatch, sendRequestFrame] at dispatched
  repeat' split at dispatched
  all_goals cases dispatched
  all_goals exact served_goTo _ (by simp [*])

theorem served_markSubmission (marks : s.markSubmission = some next) : Served s next := by
  simp only [markSubmission] at marks
  repeat' split at marks
  all_goals cases marks
  all_goals exact served_of_closing (List.Sublist.refl _) rfl rfl rfl (by simp [*])

theorem served_command {outcome : Command} (commanded : s.command outcome = some next) :
    Served s next := by
  simp only [command] at commanded
  repeat' split at commanded
  all_goals cases commanded
  all_goals exact served_of_closing (List.Sublist.refl _) rfl rfl rfl (by simp [*])

theorem served_clearSubmission (cleared : s.clearSubmission = some next) : Served s next := by
  simp only [clearSubmission] at cleared
  split at cleared
  · cases cleared
    exact served_of_closing (List.Sublist.refl _) rfl rfl rfl (by simp [*])
  · cases cleared

theorem served_reapOne {now : Int} {lease : Lease} (rest : List Lease) :
    Served s { s.reapOne setting now lease with reaping := some (now, rest) } := by
  simp only [reapOne]
  repeat' split
  all_goals first
    | exact ⟨List.Sublist.refl _, rfl, rfl, id⟩
    | exact ⟨release_sublist s _, rfl, rfl, id⟩

/-- **Only its caller moves a call**, and no other step fills a slot or reopens the table. -/
theorem step_served {step : Step} (other : step.ofCaller = false)
    (stepped : s.step setting step = some next) : Served s next := by
  cases step with
  | advance call now => cases other
  | receive call => cases other
  | timeout call => cases other
  | down call => cases other
  | die call =>
      cases stepped
      exact ⟨List.Sublist.refl _, rfl, rfl, id⟩
  | beginClose deadline =>
      simp only [State.step] at stepped
      split at stepped
      · cases stepped
      · cases stepped
        exact ⟨List.Sublist.refl _, rfl, rfl, fun _ => .inl rfl⟩
  | requestClose =>
      simp only [State.step] at stepped
      split at stepped
      · split at stepped
        · cases stepped
          exact ⟨List.Sublist.refl _, rfl, rfl, fun _ => .inl rfl⟩
        · cases stepped
      · cases stepped
  | closerDies =>
      simp only [State.step, Option.map_eq_some_iff] at stepped
      obtain ⟨record, -, rfl⟩ := stepped
      exact ⟨List.Sublist.refl _, rfl, rfl, fun _ => .inl rfl⟩
  | enqueue call now later =>
      simp only [State.step] at stepped
      split at stepped
      · rename_i serves
        cases stepped
        exact served_enqueueCall (alive_of_serves serves.1)
      · cases stepped
  | drain now =>
      simp only [State.step] at stepped
      split at stepped
      · rename_i idle
        exact served_drain (by simp [idle.1]) stepped
      · cases stepped
  | dispatch framing now => exact served_dispatch stepped
  | mark => exact served_markSubmission stepped
  | command outcome => exact served_command stepped
  | clear => exact served_clearSubmission stepped
  | answer answer =>
      simp only [State.step] at stepped
      split at stepped
      · rename_i stage _
        cases stepped
        exact served_goTo _ (by simp [stage])
      · cases stepped
  | finish =>
      simp only [State.step] at stepped
      split at stepped
      · rename_i call reply stop stage
        have finished : Served s (s.finishCall call reply) := served_finishCall _ (by simp [stage])
        have alive : (s.finishCall call reply).stage ≠ .dead := by
          rw [finishCall_stage, stage]
          simp
        cases stepped
        split
        · exact finished.trans (served_terminate _ alive)
        · exact finished.trans (served_goTo _ alive)
      · cases stepped
  | expire call =>
      simp only [State.step] at stepped
      split at stepped
      · rename_i serves
        cases stepped
        exact served_finishCall _ (alive_of_serves serves.1)
      · cases stepped
  | callerDown call =>
      simp only [State.step] at stepped
      split at stepped
      · rename_i serves
        cases stepped
        exact served_finishCall _ (alive_of_serves serves.1)
      · cases stepped
  | closeControl invalidate now =>
      simp only [State.step] at stepped
      split at stepped
      · rename_i record _
        have taken : Served s { s with closing := some { record with control := .taken } } :=
          ⟨List.Sublist.refl _, rfl, rfl, fun _ => .inl rfl⟩
        split at stepped
        · rename_i serves
          split at stepped
          · cases stepped
            exact taken.trans (served_goTo _ (alive_of_serves serves.1))
          · exact taken.trans (served_breakOff stepped)
        · cases stepped
      · cases stepped
  | reap now =>
      simp only [State.step] at stepped
      split at stepped
      · cases stepped
        exact ⟨List.Sublist.refl _, rfl, rfl, id⟩
      · cases stepped
  | reapNext =>
      simp only [State.step] at stepped
      split at stepped
      · cases stepped
        exact served_reapOne _
      · cases stepped
  | reapEnd cancellationExpired =>
      simp only [State.step] at stepped
      split at stepped
      · split at stepped
        · cases stepped
          exact ⟨List.Sublist.refl _, rfl, rfl, id⟩
        · exact served_breakOff stepped
        · exact served_breakOff stepped
      · cases stepped
  | stop =>
      simp only [State.step] at stepped
      split at stepped
      · rename_i serves
        cases stepped
        exact served_terminate _ (alive_of_serves serves.1)
      · cases stepped
  | raised =>
      simp only [State.step] at stepped
      split at stepped
      · cases stepped
        exact served_terminate _ (by simp [*])
      · cases stepped
        exact served_terminate _ (by simp [*])
      · cases stepped
  | terminateNext =>
      simp only [State.step] at stepped
      split at stepped
      · rename_i stage
        cases stepped
        exact served_of_closing (release_sublist s _) rfl rfl rfl (by simp [stage])
      · cases stepped
  | exit =>
      simp only [State.step] at stepped
      split at stepped
      · cases stepped
        exact served_exit s
      · cases stepped
  | kill =>
      simp only [State.step] at stepped
      split at stepped
      · cases stepped
      · cases stepped
        exact served_exit s

/-! ## At most 64 rows -/

/-- The rows have their own slots, and `reserve` tries the slots up to 64. -/
structure Seated (s : State) : Prop where
  bounds : ∀ row ∈ s.rows, row.slot ∈ Finset.Icc 1 64
  distinct : (s.rows.map Lease.slot).Nodup
  slot : ∀ call, 1 ≤ s.slot call ∧ s.slot call ≤ 65
  trying : ∀ call, s.phase call = .inserting → s.slot call ≤ 64

theorem Seated.length_le (seated : Seated s) : s.rows.length ≤ 64 := by
  have within : (s.rows.map Lease.slot).toFinset ⊆ Finset.Icc 1 64 := by
    intro slot mem
    simp only [List.mem_toFinset, List.mem_map] at mem
    obtain ⟨row, present, rfl⟩ := mem
    exact seated.bounds row present
  calc s.rows.length = (s.rows.map Lease.slot).toFinset.card := by
        rw [List.toFinset_card_of_nodup seated.distinct, List.length_map]
    _ ≤ (Finset.Icc 1 64).card := Finset.card_le_card within
    _ = 64 := by simp

theorem seated_of_served (served : Served s next) (seated : Seated s) : Seated next where
  bounds row present := seated.bounds row (served.rows.subset present)
  distinct := seated.distinct.sublist (served.rows.map Lease.slot)
  slot call := by
    rw [served.slot]
    exact seated.slot call
  trying call inserting := by
    rw [served.slot]
    rw [served.phase] at inserting
    exact seated.trying call inserting

theorem enter_seated {phase : Phase} (seated : Seated s)
    (trying : phase = .inserting → s.slot call ≤ 64) : Seated (s.enter call phase) :=
  { seated with
    trying := by
      intro k inserting
      by_cases same : k = call
      · subst same
        rw [enter_self] at inserting
        exact trying inserting
      · rw [enter_other s phase same] at inserting
        exact seated.trying k inserting }

theorem scanNext_seated (seated : Seated s) (within : s.slot call ≤ 64) :
    Seated (s.scanNext call) := by
  have slot : ∀ k, 1 ≤ (s.scanNext call).slot k ∧ (s.scanNext call).slot k ≤ 65 := by
    intro k
    by_cases same : k = call
    · subst same
      simp only [scanNext, enter, Function.update_self]
      omega
    · simp only [scanNext, enter, Function.update_of_ne same]
      exact seated.slot k
  refine ⟨seated.bounds, seated.distinct, slot, ?_⟩
  intro k inserting
  by_cases same : k = call
  · subst same
    simp [scanNext] at inserting
  · simp only [scanNext, enter, Function.update_of_ne same] at inserting ⊢
    exact seated.trying k inserting

/-- `insert_new` succeeds. -/
theorem insert_seated (seated : Seated s) (within : s.slot call ≤ 64)
    (free : s.taken (s.slot call) = false) :
    Seated { s with rows := s.rows ++ [s.lease call] } := by
  refine ⟨?_, ?_, seated.slot, seated.trying⟩
  · intro row present
    rcases List.mem_append.mp present with present | new
    · exact seated.bounds row present
    · cases List.mem_singleton.mp new
      exact Finset.mem_Icc.mpr ⟨(seated.slot call).1, within⟩
  · rw [List.map_append]
    refine seated.distinct.append (List.nodup_singleton _) ?_
    intro slot present new
    obtain ⟨row, mem, rfl⟩ := List.mem_map.mp present
    have same : row.slot = s.slot call := by simpa [lease] using new
    simp only [taken, List.any_eq_false] at free
    exact free row mem (by simp [same])

theorem advance_seated {now : Int} (seated : Seated s)
    (advanced : s.advance setting call now = some next) : Seated next := by
  have bound := (seated.slot call).2
  cases phase : s.phase call with
  | scanning =>
      simp only [advance, phase] at advanced
      split at advanced
      · cases advanced
        exact enter_seated seated (by simp)
      · have within : s.slot call ≤ 64 := by omega
        split at advanced
        · cases advanced
          exact enter_seated seated (by simp)
        · split at advanced
          · cases advanced
            exact scanNext_seated seated within
          · cases advanced
            have marked : Seated (s.mark call .unsubmitted) := { seated with }
            exact enter_seated marked (fun _ => within)
  | inserting =>
      have within := seated.trying call phase
      simp only [advance, phase] at advanced
      split at advanced
      · cases advanced
        exact enter_seated seated (by simp)
      · split at advanced
        · cases advanced
          exact scanNext_seated seated within
        · rename_i free
          cases advanced
          exact enter_seated (insert_seated seated within (by simpa using free)) (by simp)
  | releasing code =>
      simp only [advance, phase] at advanced
      cases advanced
      have released : Seated (s.release (s.lease call)) :=
        ⟨fun row present => seated.bounds row ((release_sublist s _).subset present),
          seated.distinct.sublist ((release_sublist s _).map _), seated.slot, seated.trying⟩
      exact enter_seated released (by simp)
  | admitted =>
      simp only [advance, phase] at advanced
      repeat' split at advanced
      all_goals cases advanced
      · exact enter_seated seated (by simp)
      · have mailed : Seated { s with mailbox := s.mailbox ++ [call] } := { seated with }
        exact enter_seated mailed (by simp)
      · exact enter_seated seated (by simp)
  | caught code =>
      simp only [advance, phase, callError] at advanced
      have marked : Seated (s.mark call .cancelled) := { seated with }
      split at advanced
      · cases advanced
        exact enter_seated seated (by simp)
      · cases advanced
        exact enter_seated marked (by simp)
  | _ =>
      simp only [advance, phase] at advanced
      repeat' split at advanced
      all_goals cases advanced
      all_goals exact enter_seated seated (by simp)

theorem step_seated {step : Step} (seated : Seated s) (stepped : s.step setting step = some next) :
    Seated next := by
  cases own : step.ofCaller with
  | false => exact seated_of_served (step_served own stepped) seated
  | true =>
      cases step with
      | advance call now =>
          simp only [State.step] at stepped
          split at stepped
          · exact advance_seated seated stepped
          · cases stepped
      | receive call | timeout call | down call =>
          simp only [State.step] at stepped
          split at stepped
          · cases stepped
            exact enter_seated seated (by simp)
          · cases stepped
      | _ => cases own

/-! ## No lease after the closing record -/

/-- The table is shut and `call` holds no lease. -/
def refused (s : State) (call : Nat) : Prop := s.shut ∧ (s.phase call).leased = false

theorem enter_refused {other : Nat} {phase : Phase} (refused : s.refused call)
    (unleased : other = call → phase.leased = false) : (s.enter other phase).refused call := by
  refine ⟨refused.1, ?_⟩
  by_cases same : call = other
  · subst same
    rw [enter_self]
    exact unleased rfl
  · rw [enter_other s phase same]
    exact refused.2

/-- `reserve` looks for the closing record once more after its row is in. -/
theorem advance_refused {other : Nat} {now : Int} (refused : s.refused call)
    (advanced : s.advance setting other now = some next) : next.refused call := by
  cases phase : s.phase other with
  | rechecking =>
      simp only [advance, phase] at advanced
      split at advanced
      · cases advanced
        exact enter_refused refused (fun _ => rfl)
      · rename_i alive
        split at advanced
        · cases advanced
          exact enter_refused refused (fun _ => rfl)
        · rename_i unclosed
          exact absurd (refused.1.resolve_right alive) unclosed
  | admitted =>
      have different : other ≠ call := by
        rintro rfl
        have leased := refused.2
        rw [phase] at leased
        cases leased
      simp only [advance, phase] at advanced
      repeat' split at advanced
      all_goals cases advanced
      · exact enter_refused refused (fun same => absurd same different)
      · have mailed : { s with mailbox := s.mailbox ++ [other] }.refused call := refused
        exact enter_refused mailed (fun same => absurd same different)
      · exact enter_refused refused (fun same => absurd same different)
  | caught code =>
      simp only [advance, phase, callError] at advanced
      have marked : (s.mark other .cancelled).refused call := refused
      split at advanced
      · cases advanced
        exact enter_refused refused (fun _ => rfl)
      · cases advanced
        exact enter_refused marked (fun _ => rfl)
  | scanning =>
      have marked : (s.mark other .unsubmitted).refused call := refused
      have scanned : { s with slot := Function.update s.slot other (s.slot other + 1) }.refused call :=
        refused
      simp only [advance, phase] at advanced
      repeat' split at advanced
      all_goals cases advanced
      · exact enter_refused refused (fun _ => rfl)
      · exact enter_refused refused (fun _ => rfl)
      · exact enter_refused scanned (fun _ => rfl)
      · exact enter_refused marked (fun _ => rfl)
  | inserting =>
      have scanned : { s with slot := Function.update s.slot other (s.slot other + 1) }.refused call :=
        refused
      have inserted : { s with rows := s.rows ++ [s.lease other] }.refused call := refused
      simp only [advance, phase] at advanced
      repeat' split at advanced
      all_goals cases advanced
      · exact enter_refused refused (fun _ => rfl)
      · exact enter_refused scanned (fun _ => rfl)
      · exact enter_refused inserted (fun _ => rfl)
  | releasing code =>
      simp only [advance, phase] at advanced
      cases advanced
      have released : (s.release (s.lease other)).refused call := refused
      exact enter_refused released (fun _ => rfl)
  | _ =>
      simp only [advance, phase] at advanced
      repeat' split at advanced
      all_goals cases advanced
      all_goals exact enter_refused refused (fun _ => rfl)

theorem step_refused {step : Step} (refused : s.refused call)
    (stepped : s.step setting step = some next) : next.refused call := by
  cases own : step.ofCaller with
  | false =>
      have served := step_served own stepped
      exact ⟨served.shut refused.1, by rw [served.phase]; exact refused.2⟩
  | true =>
      have different {other : Nat} (waiting : s.phase other = .waiting) : other ≠ call := by
        rintro rfl
        have leased := refused.2
        rw [waiting] at leased
        cases leased
      cases step with
      | advance other now =>
          simp only [State.step] at stepped
          split at stepped
          · exact advance_refused refused stepped
          · cases stepped
      | receive other =>
          simp only [State.step] at stepped
          split at stepped
          · cases stepped
            exact enter_refused refused (fun _ => rfl)
          · cases stepped
      | timeout other =>
          simp only [State.step] at stepped
          split at stepped
          · rename_i waiting
            cases stepped
            exact enter_refused refused (fun same => absurd same (different waiting.2))
          · cases stepped
      | down other =>
          simp only [State.step] at stepped
          split at stepped
          · rename_i waiting
            cases stepped
            exact enter_refused refused (fun same => absurd same (different waiting.2.1))
          · cases stepped
      | _ => cases own

/-! ## Runs -/

theorem run_seated {steps : List Step} (seated : Seated s) (ran : s.run setting steps = some next) :
    Seated next := by
  induction steps generalizing s with
  | nil =>
      cases ran
      exact seated
  | cons step rest ih =>
      simp only [run, Option.bind_eq_some_iff] at ran
      obtain ⟨middle, stepped, ran⟩ := ran
      exact ih (step_seated seated stepped) ran

theorem run_refused {steps : List Step} (refused : s.refused call)
    (ran : s.run setting steps = some next) : next.refused call := by
  induction steps generalizing s with
  | nil =>
      cases ran
      exact refused
  | cons step rest ih =>
      simp only [run, Option.bind_eq_some_iff] at ran
      obtain ⟨middle, stepped, ran⟩ := ran
      exact ih (step_refused refused stepped) ran

theorem seated_start : Seated {} := by
  refine ⟨by simp, by simp, by simp, by simp⟩

/-- What a call returned stays returned. -/
theorem step_returned {step : Step} {reply : Reply} (returned : s.phase call = .returned reply)
    (stepped : s.step setting step = some next) : next.phase call = .returned reply := by
  have different {other : Nat} {phase : Phase} (stands : s.phase other = phase)
      (going : phase ≠ .returned reply) : call ≠ other := by
    rintro rfl
    exact going (stands.symm.trans returned)
  cases own : step.ofCaller with
  | false =>
      rw [(step_served own stepped).phase]
      exact returned
  | true =>
      cases step with
      | advance other now =>
          simp only [State.step] at stepped
          split at stepped
          · cases phase : s.phase other with
            | returned => simp [advance, phase] at stepped
            | _ =>
                have apart := different phase (by simp)
                simp only [advance, phase, callError, scanNext, fail] at stepped
                repeat' split at stepped
                all_goals cases stepped
                all_goals
                  rw [enter_other _ _ apart]
                  exact returned
          · cases stepped
      | receive other =>
          simp only [State.step] at stepped
          split at stepped
          · rename_i waiting _
            cases stepped
            rw [enter_other _ _ (different waiting (by simp))]
            exact returned
          · cases stepped
      | timeout other | down other =>
          simp only [State.step] at stepped
          split at stepped
          · rename_i waiting
            cases stepped
            rw [enter_other _ _ (different (by simp [waiting] : s.phase other = .waiting) (by simp))]
            exact returned
          · cases stepped
      | _ => cases own

theorem run_returned {steps : List Step} {reply : Reply} (returned : s.phase call = .returned reply)
    (ran : s.run setting steps = some next) : next.phase call = .returned reply := by
  induction steps generalizing s with
  | nil =>
      cases ran
      exact returned
  | cons step rest ih =>
      simp only [run, Option.bind_eq_some_iff] at ran
      obtain ⟨middle, stepped, ran⟩ := ran
      exact ih (step_returned returned stepped) ran

/-- **Effect none means never written.**  In every interleaving of callers, connection and
closers: an orderly run tells the caller of a mutation, in an error made on this side,
that nothing happened only if its frame was not accepted by the Port and is not accepted in
whatever follows; at most 64 leases exist; and a call that holds no lease while a closing
record exists is handed none. -/
theorem run_effect_none (setting : Setting) (before after : List Step) (s next : State)
    (ran : ({} : State).run setting before = some s) (later : s.run setting after = some next) :
    (({} : State).orderlyRun setting before → s.orderlyRun setting after →
      ∀ call error, setting.mutates call → s.phase call = .returned (.error error) →
        error.effect = .none → call ∉ s.written ∧ call ∉ next.written) ∧
      s.rows.length ≤ 64 ∧
      (s.closing.isSome → ∀ call, (s.phase call).leased = false →
        (next.phase call).leased = false) := by
  refine ⟨?_, (run_seated seated_start ran).length_le, ?_⟩
  · intro early late call error mutates returned none
    have truthful := run_truthful (truthful_start setting) early ran
    have still := run_truthful truthful late later
    have claims : (Reply.error error).claimsNone := by simp [Reply.claimsNone, none]
    exact ⟨(truthful.returned call _ returned claims mutates).1,
      (still.returned call _ (run_returned returned later) claims mutates).1⟩
  · intro closing call unleased
    exact (run_refused ⟨.inl closing, unleased⟩ later).2

/-- One call: a write with a deadline of a second. -/
def switchWrite : Setting where
  pid := 7
  generation := "a"
  request _ := ⟨7, "a", .request .write true 1000, 1000⟩

/-- The caller gets its slot and sends its message. -/
def admission : List Step := List.replicate 7 (.advance 0 0)

/-- The caller gives up while its message waits; the connection then finds the marker
cancelled. -/
theorem run_effect_none_cancelled :
    ∃ s next, ({} : State).run switchWrite (admission ++ [.timeout 0, .advance 0 0]) = some s ∧
      s.run switchWrite [.enqueue 0 0 0, .drain 0, .dispatch .encoded 0, .mark, .finish] =
        some next ∧
      s.phase 0 = .returned (.error { code := .timeout }) ∧
      (0 ∉ s.written ∧ 0 ∉ next.written) ∧ s.rows.length ≤ 64 := by
  obtain ⟨s, ran⟩ := Option.isSome_iff_exists.mp
    (show (({} : State).run switchWrite (admission ++ [.timeout 0, .advance 0 0])).isSome from by
      decide)
  obtain ⟨next, later⟩ := Option.isSome_iff_exists.mp
    (show (s.run switchWrite
      [.enqueue 0 0 0, .drain 0, .dispatch .encoded 0, .mark, .finish]).isSome from by
        cases ran
        decide)
  have returned : s.phase 0 = .returned (.error { code := .timeout }) := by
    cases ran
    rfl
  obtain ⟨unwritten, bounded, -⟩ := run_effect_none switchWrite _ _ s next ran later
  exact ⟨s, next, ran, later, returned,
    unwritten (by decide) (by cases ran; decide) 0 _ rfl returned rfl, bounded⟩

/-- The host answers a submitted write with an error reply that `Wire.error` rejects: the caller
is told that nothing happened. -/
theorem run_effect_none_malformed :
    ∃ s, ({} : State).run switchWrite (admission ++
        [.enqueue 0 0 0, .drain 0, .dispatch .encoded 0, .mark, .command .accepted,
          .answer .malformedFailure, .finish, .receive 0]) = some s ∧
      switchWrite.mutates 0 ∧
      s.phase 0 = .returned (.error { code := .invalidFrame, effect := .none }) ∧
      0 ∈ s.written := by
  refine ⟨_, rfl, rfl, rfl, by decide⟩

end State

end WotexMatter.Beam.Calls
