/-
# WotexMatter.Native.EventSuppression -- which events a buffer may suppress

An event is remembered in `eventIdCache` across recoveries, while a recovery empties the
queues.  `Known` says that a remembered event has been handed out or is still held; a
recovery breaks it exactly where it drops an event it goes on remembering.
`run_suppressed` reads off it that a suppressed event is not lost, and
`run_suppressed_dropped` is a run with such a recovery, after which it is.
-/
import WotexMatter.Native.SubscriptionBuffer

set_option autoImplicit false

namespace WotexMatter.Native

inductive BufferCall (V : Type) where
  | beginReport
  | add (result : PathResult V)
  | endReport
  | establish (sdkSubscriptionId revisedMinIntervalS revisedMaxIntervalS : Nat)
  | activate
  | takeReady
  | prepareRecovery (generation : Nat)

/-- A buffer with the reports `TakeReady` has handed out. -/
structure Handing (V : Type) where
  buffer : SubscriptionBuffer V
  handed : List (NativeReport V) := []

namespace Handing

variable {V : Type}

def step (s : Handing V) : BufferCall V → Handing V
  | .beginReport => { s with buffer := s.buffer.beginReport }
  | .add result => { s with buffer := (s.buffer.add result).2 }
  | .endReport => { s with buffer := s.buffer.endReport }
  | .establish sdkId minimum maximum =>
      { s with buffer := (s.buffer.establish sdkId minimum maximum).2 }
  | .activate => { s with buffer := s.buffer.activate }
  | .takeReady =>
      { buffer := s.buffer.takeReady.2, handed := s.handed ++ s.buffer.takeReady.1 }
  | .prepareRecovery generation =>
      { s with buffer := (s.buffer.prepareRecovery generation).2 }

def run (s : Handing V) (calls : List (BufferCall V)) : Handing V := calls.foldl step s

/-- The event a report carries. -/
def carried (report : NativeReport V) : Option (ConcretePath × Nat) :=
  report.payload.result.identity?

/-- A recovery that is admitted drops no event it goes on remembering. -/
def dropsNoEvent (s : Handing V) : BufferCall V → Bool
  | .prepareRecovery generation =>
      !s.buffer.admitsRecovery generation || s.buffer.held.all fun report =>
        (carried report).all fun identity => !s.buffer.eventIdCache.contains identity
  | _ => true

def dropsNoEventRun (s : Handing V) : List (BufferCall V) → Bool
  | [] => true
  | call :: calls => s.dropsNoEvent call && (s.step call).dropsNoEventRun calls

/-! ## What is remembered -/

/-- The event has been handed out or is still held. -/
def Kept (s : Handing V) (identity : ConcretePath × Nat) : Prop :=
  ∃ report ∈ s.handed ++ s.buffer.held, carried report = some identity

structure Known (s : Handing V) : Prop where
  kind : s.buffer.request.kind = .events
  current : ∀ identity ∈ s.buffer.currentEventIds, s.Kept identity
  cached : ∀ identity ∈ s.buffer.eventIdCache, s.Kept identity

variable {s s' : Handing V}

/-- Whatever keeps the reports and remembers no more keeps the invariant. -/
theorem Known.mono (known : Known s) (request : s'.buffer.request = s.buffer.request)
    (current : s'.buffer.currentEventIds ⊆ s.buffer.currentEventIds)
    (cache : s'.buffer.eventIdCache ⊆ s.buffer.eventIdCache)
    (kept : ∀ identity, s.Kept identity → s'.Kept identity) : Known s' where
  kind := by rw [request]; exact known.kind
  current := fun identity member => kept _ (known.current identity (current member))
  cached := fun identity member => kept _ (known.cached identity (cache member))

theorem known_new (request : SubscriptionRequest) (kind : request.kind = .events) :
    Known ({ buffer := { request } } : Handing V) where
  kind := kind
  current := fun _ member => by cases member
  cached := fun _ member => by cases member

theorem beginReport_known (known : Known s) : Known (s.step .beginReport) := by
  simp only [step, SubscriptionBuffer.beginReport]
  split
  · exact known.mono rfl (List.Subset.refl _) (List.Subset.refl _) fun _ => id
  · exact known.mono rfl (List.nil_subset _) (List.Subset.refl _) fun _ => id

theorem establish_known (known : Known s) (sdkId minimum maximum : Nat) :
    Known (s.step (.establish sdkId minimum maximum)) := by
  simp only [step, SubscriptionBuffer.establish]
  split
  · exact known.mono rfl (List.Subset.refl _) (List.Subset.refl _) fun _ => id
  · refine known.mono rfl (List.Subset.refl _) (List.Subset.refl _) ?_
    rintro identity ⟨report, member, same⟩
    simp only [SubscriptionBuffer.held, List.mem_append] at member
    rcases member with gone | waiting | ready
    · exact ⟨report, by simp [gone], same⟩
    · refine ⟨SubscriptionBuffer.revised report sdkId minimum maximum, ?_, same⟩
      simp only [SubscriptionBuffer.held, List.mem_append, List.mem_map]
      exact .inr (.inl ⟨report, waiting, rfl⟩)
    · exact ⟨report, by simp [SubscriptionBuffer.held, ready], same⟩

theorem activate_known (known : Known s) : Known (s.step .activate) := by
  simp only [step, SubscriptionBuffer.activate]
  split
  · exact known
  · refine known.mono rfl (List.Subset.refl _) (List.Subset.refl _) ?_
    rintro identity ⟨report, member, same⟩
    refine ⟨report, ?_, same⟩
    simp only [SubscriptionBuffer.held, List.mem_append, List.not_mem_nil, false_or] at member ⊢
    rcases member with gone | waiting | ready
    · exact .inl gone
    · exact .inr (.inr waiting)
    · exact .inr (.inl ready)

theorem takeReady_known (known : Known s) : Known (s.step .takeReady) := by
  refine known.mono rfl (List.Subset.refl _) (List.Subset.refl _) ?_
  rintro identity ⟨report, member, same⟩
  refine ⟨report, ?_, same⟩
  simp only [step, SubscriptionBuffer.takeReady, SubscriptionBuffer.held, List.mem_append,
    List.not_mem_nil, or_false] at member ⊢
  rcases member with gone | waiting | ready
  · exact .inl (.inl gone)
  · exact .inr waiting
  · exact .inl (.inr ready)

/-- A recovery empties the queues, but nothing in them is remembered. -/
theorem prepareRecovery_known (known : Known s) (generation : Nat)
    (drops : s.dropsNoEvent (.prepareRecovery generation)) :
    Known (s.step (.prepareRecovery generation)) := by
  simp only [step, SubscriptionBuffer.prepareRecovery]
  split
  · rename_i admitted
    simp only [dropsNoEvent, admitted, Bool.not_true, Bool.false_or, List.all_eq_true] at drops
    refine ⟨known.kind, fun _ member => (nomatch member), fun identity member => ?_⟩
    obtain ⟨report, found, same⟩ := known.cached identity member
    rcases List.mem_append.1 found with gone | stays
    · exact ⟨report, List.mem_append_left _ gone, same⟩
    · have forgotten := drops report stays
      have held : s.buffer.eventIdCache.contains identity = true := List.contains_iff_mem.2 member
      rw [same, Option.all_some, held] at forgotten
      cases forgotten
  · exact known.mono rfl (List.Subset.refl _) (List.Subset.refl _) fun _ => id

/-! ## Adding a result -/

theorem event_of_valid {request : SubscriptionRequest} {report : NativeReport V}
    (kind : request.kind = .events) (valid : validSubscriptionReport request report = true) :
    ∃ identity, carried report = some identity := by
  simp only [validSubscriptionReport, kind, Bool.and_eq_true] at valid
  obtain ⟨event, found⟩ := Option.isSome_iff_exists.1 valid.1.2.1.1
  exact ⟨(_, event.eventNumber), by rw [carried, PathResult.identity?, found]; rfl⟩

/-- What `Add` does to a buffer of events. -/
theorem add_cases (kind : s.buffer.request.kind = .events) (result : PathResult V) :
    (∃ active, s.buffer.add result = (false, { s.buffer with active })) ∨
    (∃ identity, result.identity? = some identity ∧
      (identity ∈ s.buffer.currentEventIds ∨ identity ∈ s.buffer.eventIdCache) ∧
      s.buffer.add result = (true, s.buffer)) ∨
    (∃ identity, result.identity? = some identity ∧
      s.buffer.add result =
        (true, (s.buffer.remember result).store (s.buffer.stamped result))) := by
  unfold SubscriptionBuffer.add
  split
  · exact .inl ⟨s.buffer.active, rfl⟩
  · split
    · rename_i duplicate
      refine .inr (.inl ?_)
      simp only [SubscriptionBuffer.duplicateInCurrentReport,
        SubscriptionBuffer.suppressedDuplicate, kind, Bool.or_eq_true] at duplicate
      cases identity : result.identity? with
      | none => simp [identity] at duplicate
      | some found => exact ⟨found, rfl, by simpa [identity] using duplicate, rfl⟩
    · split
      · exact .inl ⟨false, rfl⟩
      · rename_i valid
        refine .inr (.inr ?_)
        have accepted : validSubscriptionReport s.buffer.request (s.buffer.stamped result) = true := by
          by_contra refused
          exact valid (.inl (by simpa using refused))
        obtain ⟨identity, found⟩ := event_of_valid kind accepted
        exact ⟨identity, found, rfl⟩

theorem remember_events (kind : s.buffer.request.kind = .events) {result : PathResult V}
    {identity : ConcretePath × Nat} (found : result.identity? = some identity) :
    ∃ cache, cache ⊆ s.buffer.eventIdCache ++ [identity] ∧
      s.buffer.remember result = { s.buffer with
        currentEventIds := s.buffer.currentEventIds ++ [identity]
        eventIdCache := cache } := by
  unfold SubscriptionBuffer.remember
  rw [kind]
  dsimp only
  rw [found]
  dsimp only
  split
  · exact ⟨_, List.tail_subset _, rfl⟩
  · exact ⟨_, List.Subset.refl _, rfl⟩

theorem store_remembered (b : SubscriptionBuffer V) (report : NativeReport V) :
    (b.store report).request = b.request ∧
      (b.store report).currentEventIds = b.currentEventIds ∧
      (b.store report).eventIdCache = b.eventIdCache := by
  unfold SubscriptionBuffer.store
  split <;> exact ⟨rfl, rfl, rfl⟩

theorem held_store (b : SubscriptionBuffer V) (report : NativeReport V) :
    ∀ other, other ∈ (b.store report).held ↔ other ∈ b.held ∨ other = report := by
  intro other
  unfold SubscriptionBuffer.store SubscriptionBuffer.held
  split
  · simp [or_assoc]
  · simp only [List.mem_append, List.mem_singleton]
    tauto

theorem add_known (known : Known s) (result : PathResult V) : Known (s.step (.add result)) := by
  simp only [step]
  rcases add_cases known.kind result with ⟨active, same⟩ | ⟨identity, -, -, same⟩ |
    ⟨identity, found, stored⟩
  · rw [same]
    exact known.mono rfl (List.Subset.refl _) (List.Subset.refl _) fun _ => id
  · rw [same]
    exact known
  · obtain ⟨cache, within, remembered⟩ := remember_events known.kind found
    have before : ∀ other, s.Kept other →
        Kept { s with buffer := (s.buffer.remember result).store (s.buffer.stamped result) }
          other := by
      rintro other ⟨report, member, same⟩
      refine ⟨report, ?_, same⟩
      rw [List.mem_append, held_store, remembered]
      rcases List.mem_append.1 member with gone | stays
      · exact .inl gone
      · exact .inr (.inl stays)
    have now : Kept { s with buffer := (s.buffer.remember result).store (s.buffer.stamped result) }
        identity := by
      refine ⟨s.buffer.stamped result, ?_, found⟩
      rw [List.mem_append, held_store]
      exact .inr (.inr rfl)
    obtain ⟨request, current, cached⟩ :=
      store_remembered (s.buffer.remember result) (s.buffer.stamped result)
    rw [stored]
    refine ⟨?_, fun other member => ?_, fun other member => ?_⟩
    · dsimp only
      rw [request, remembered]
      exact known.kind
    · dsimp only at member
      rw [current, remembered, List.mem_append, List.mem_singleton] at member
      rcases member with earlier | rfl
      · exact before _ (known.current other earlier)
      · exact now
    · dsimp only at member
      rw [cached, remembered] at member
      rcases List.mem_append.1 (within member) with earlier | here
      · exact before _ (known.cached other earlier)
      · obtain rfl := List.mem_singleton.1 here
        exact now

/-! ## Steps and runs -/

theorem step_known (known : Known s) (call : BufferCall V) (drops : s.dropsNoEvent call) :
    Known (s.step call) := by
  cases call with
  | beginReport => exact beginReport_known known
  | add result => exact add_known known result
  | endReport => exact known.mono rfl (List.Subset.refl _) (List.Subset.refl _) fun _ => id
  | establish sdkId minimum maximum => exact establish_known known sdkId minimum maximum
  | activate => exact activate_known known
  | takeReady => exact takeReady_known known
  | prepareRecovery generation => exact prepareRecovery_known known generation drops

theorem run_known (calls : List (BufferCall V)) :
    ∀ {s : Handing V}, Known s → s.dropsNoEventRun calls → Known (s.run calls) := by
  induction calls with
  | nil => exact fun known _ => known
  | cons call calls ih =>
      intro s known drops
      simp only [dropsNoEventRun, Bool.and_eq_true] at drops
      exact ih (step_known known call drops.1) drops.2

/-- An addition that succeeds and changes nothing was suppressed. -/
theorem suppressed_of_add (known : Known s) {result : PathResult V}
    (suppressed : s.buffer.add result = (true, s.buffer)) :
    ∃ identity, result.identity? = some identity ∧ s.Kept identity := by
  rcases add_cases known.kind result with ⟨active, same⟩ | ⟨identity, found, remembered, -⟩ |
    ⟨identity, found, stored⟩
  · rw [same] at suppressed
    cases (Prod.mk.inj suppressed).1
  · refine ⟨identity, found, ?_⟩
    rcases remembered with here | earlier
    · exact known.current identity here
    · exact known.cached identity earlier
  · -- storing puts the identity among those of the current report
    obtain ⟨cache, -, remembered⟩ := remember_events known.kind found
    rw [stored, remembered] at suppressed
    have same := congrArg SubscriptionBuffer.currentEventIds (Prod.mk.inj suppressed).2
    rw [(store_remembered _ _).2.1] at same
    simp at same

/-- **No suppressed event is lost.**  In every run whose recoveries drop no remembered event,
an event that `Add` takes without storing it has been handed out or is still held. -/
theorem run_suppressed (request : SubscriptionRequest) (kind : request.kind = .events)
    (calls : List (BufferCall V))
    (drops : ({ buffer := { request } } : Handing V).dropsNoEventRun calls)
    (result : PathResult V)
    (suppressed : (({ buffer := { request } } : Handing V).run calls).buffer.add result =
      (true, (({ buffer := { request } } : Handing V).run calls).buffer)) :
    ∃ identity, result.identity? = some identity ∧
      ∃ report ∈ (({ buffer := { request } } : Handing V).run calls).handed ++
          (({ buffer := { request } } : Handing V).run calls).buffer.held,
        report.payload.result.identity? = some identity :=
  suppressed_of_add (run_known calls (known_new request kind) drops) suppressed

/-- A request for the reachable-changed events of one bridged device. -/
def bridgedEvents : SubscriptionRequest where
  subscriptionId := "00000000000000000000000000000001"
  kind := .events
  paths := [⟨1, 2, some 1, some 57, some 3⟩]

/-- Its event with number 7. -/
def reachableChanged : PathResult Unit where
  path := ⟨1, 2, 1, 57, 3⟩
  event := some { eventNumber := 7, value := () }

/-- The event is handed out, the session is lost, and the device reports the event again. -/
def reportedAgain : Handing Unit :=
  ({ buffer := { request := bridgedEvents } } : Handing Unit).run
    [.beginReport, .add reachableChanged, .endReport, .establish 1 1 60, .activate, .takeReady,
      .prepareRecovery 2, .beginReport]

theorem run_suppressed_handed :
    ∃ identity, reachableChanged.identity? = some identity ∧
      ∃ report ∈ reportedAgain.handed ++ reportedAgain.buffer.held,
        report.payload.result.identity? = some identity :=
  run_suppressed bridgedEvents rfl
    [.beginReport, .add reachableChanged, .endReport, .establish 1 1 60, .activate, .takeReady,
      .prepareRecovery 2, .beginReport] (by decide) reachableChanged (by decide)

/-- The session is lost inside the report that brings the event.  The device reports it
again, `Add` takes it for a duplicate, and it is nowhere. -/
theorem run_suppressed_dropped :
    let s := ({ buffer := { request := bridgedEvents } } : Handing Unit).run
      [.beginReport, .endReport, .establish 1 1 60, .activate, .takeReady, .beginReport,
        .add reachableChanged, .prepareRecovery 2, .beginReport]
    s.buffer.add reachableChanged = (true, s.buffer) ∧
      ¬ ∃ report ∈ s.handed ++ s.buffer.held,
        report.payload.result.identity? = reachableChanged.identity? := by
  decide

end Handing

end WotexMatter.Native
