/-
# WotexMatter.Native.DeliveryLaws -- what one buffer hands out over its whole life

`SubscriptionBuffer` (`native/src/subscription.cpp`) under its eight calls, in any order.  A
`Served` buffer has a log of what its calls did: reports taken, generations established and
activated, cancellations, reports handed out.

`Move` says once what a call can do.  Each law is an invariant of its own over `Move`: the queues
(`Queued`), the stamps of the reports (`Stamped`), the filters of attribute paths (`Filtered`), the
memory of events (`Remembered`) and the milestones of a generation (`Marked`).  `run_laws` is the
laws together.
-/
import WotexMatter.Native.EventSuppression
import WotexMatter.Theory.Recent

set_option autoImplicit false

namespace WotexMatter.Native

open WotexMatter.Theory

inductive BufferOperation (V : Type) where
  | beginReport
  | add (result : PathResult V)
  | endReport
  | establish (sdkSubscriptionId revisedMinIntervalS revisedMaxIntervalS : Nat)
  | prepareRecovery (generation : Nat)
  | activate
  | cancel
  | takeReady

inductive Happening (V : Type) where
  | accepted (report : NativeReport V)
  | established (generation : Nat)
  | activated (generation : Nat)
  | cancelled
  | handed (report : NativeReport V)

namespace Happening

variable {V : Type}

def accepted? : Happening V → Option (NativeReport V)
  | .accepted report => some report
  | _ => none

def handed? : Happening V → Option (NativeReport V)
  | .handed report => some report
  | _ => none

end Happening

/-- A buffer with the log of what has happened to it. -/
structure Served (V : Type) where
  buffer : SubscriptionBuffer V
  log : List (Happening V) := []

namespace Served

variable {V : Type}

/-- The reports that were put into the buffer, as `Add` stamped them. -/
def accepted (s : Served V) : List (NativeReport V) := s.log.filterMap Happening.accepted?

/-- The reports of every `TakeReady`, one batch after the other. -/
def handed (s : Served V) : List (NativeReport V) := s.log.filterMap Happening.handed?

/-- A call: the buffer it leaves, and what it did. -/
def call (b : SubscriptionBuffer V) :
    BufferOperation V → SubscriptionBuffer V × List (Happening V)
  | .beginReport => (b.beginReport, [])
  | .add result =>
      -- `Add` also answers true for a duplicate, which it does not store
      let next := (b.add result).2
      (next, if b.held.length < next.held.length then [.accepted (b.stamped result)] else [])
  | .endReport => (b.endReport, [])
  | .establish sdkId minimum maximum =>
      let answer := b.establish sdkId minimum maximum
      (answer.2, if answer.1 then [.established b.generation] else [])
  | .prepareRecovery generation => ((b.prepareRecovery generation).2, [])
  | .activate =>
      let next := b.activate
      (next, if !b.activated && next.activated then [.activated b.generation] else [])
  | .cancel => (b.cancel, [.cancelled])
  | .takeReady => (b.takeReady.2, b.takeReady.1.map .handed)

def step (s : Served V) (operation : BufferOperation V) : Served V where
  buffer := (call s.buffer operation).1
  log := s.log ++ (call s.buffer operation).2

def run (s : Served V) (operations : List (BufferOperation V)) : Served V :=
  operations.foldl step s

/-! ## What a call can do -/

inductive Move (b : SubscriptionBuffer V) : SubscriptionBuffer V → List (Happening V) → Prop where
  | quiet (active inReport : Bool) (ends : active = true → b.active = true) :
      Move b { b with active, inReport } []
  | opened (alive : b.active = true) :
      Move b { b with
        reportId := b.reportId + 1
        inReport := true
        currentAttributePaths := []
        currentEventIds := [] } []
  | stored (result : PathResult V) (alive : b.active = true)
      (fresh : b.duplicateInCurrentReport result = false)
      (unseen : b.suppressedDuplicate result = false)
      (valid : validSubscriptionReport b.request (b.stamped result) = true)
      (room : b.buffered.length + b.ready.length < b.request.queueLimit) :
      Move b ((b.remember result).store (b.stamped result)) [.accepted (b.stamped result)]
  | established (sdkSubscriptionId minimum maximum : Nat) (alive : b.active = true)
      (first : b.established = false) :
      Move b { b with
        sdkSubscriptionId
        revisedMinIntervalS := minimum
        revisedMaxIntervalS := maximum
        established := true
        buffered := b.buffered.map fun report =>
          SubscriptionBuffer.revised report sdkSubscriptionId minimum maximum }
        [.established b.generation]
  | recovered (alive : b.active = true) : Move b (b.recovered (b.generation + 1)) []
  | activated (alive : b.active = true) (established : b.established = true)
      (first : b.activated = false) :
      Move b { b with activated := true, ready := b.ready ++ b.buffered, buffered := [] }
        [.activated b.generation]
  | cancelled : Move b b.cancel [.cancelled]
  | handed : Move b b.takeReady.2 (b.ready.map .handed)

theorem Move.same {b : SubscriptionBuffer V} : Move b b [] := .quiet b.active b.inReport id

theorem Move.fails {b : SubscriptionBuffer V} : Move b { b with active := false } [] :=
  .quiet false b.inReport nofun

/-- `Add` writes its filters and nothing else before it stores. -/
theorem remember_frame (b : SubscriptionBuffer V) (result : PathResult V) :
    ∃ paths ids initial cache, b.remember result = { b with
      currentAttributePaths := paths
      currentEventIds := ids
      initialAttributePaths := initial
      eventIdCache := cache } := by
  unfold SubscriptionBuffer.remember
  split
  · exact ⟨_, _, _, _, rfl⟩
  · split
    · exact ⟨_, _, _, _, rfl⟩
    · exact ⟨_, _, _, _, rfl⟩

theorem held_length_store (b : SubscriptionBuffer V) (result : PathResult V) :
    ((b.remember result).store (b.stamped result)).held.length = b.held.length + 1 := by
  obtain ⟨paths, ids, initial, cache, same⟩ := remember_frame b result
  rw [same, SubscriptionBuffer.store]
  split
  · simp [SubscriptionBuffer.held]
    omega
  · simp [SubscriptionBuffer.held]
    omega

theorem add_moves (b : SubscriptionBuffer V) (result : PathResult V) :
    Move b (call b (.add result)).1 (call b (.add result)).2 := by
  simp only [call, SubscriptionBuffer.add]
  split
  · rw [if_neg (Nat.lt_irrefl _)]
    exact .same
  rename_i gathering
  split
  · rw [if_neg (Nat.lt_irrefl _)]
    exact .same
  rename_i new
  split
  · show Move b { b with active := false } (if b.held.length < b.held.length then _ else [])
    rw [if_neg (Nat.lt_irrefl _)]
    exact .fails
  rename_i fits
  rw [held_length_store, if_pos (Nat.lt_succ_self _)]
  simp only [Bool.not_eq_true', not_or, Bool.not_eq_false, Bool.or_eq_true, Bool.not_eq_true,
    not_le] at gathering new fits
  exact .stored result gathering.1 new.1 new.2 fits.1 fits.2

theorem call_moves (b : SubscriptionBuffer V) (operation : BufferOperation V) :
    Move b (call b operation).1 (call b operation).2 := by
  cases operation with
  | beginReport =>
      simp only [call, SubscriptionBuffer.beginReport]
      split
      · exact .fails
      · rename_i opens
        simp only [Bool.not_eq_true', not_or, Bool.not_eq_false] at opens
        exact .opened opens.1
  | add result => exact add_moves b result
  | endReport => exact .quiet b.active false id
  | establish sdkId minimum maximum =>
      simp only [call, SubscriptionBuffer.establish]
      split
      · exact .fails
      · rename_i establishes
        simp only [Bool.not_eq_true', not_or, Bool.not_eq_false, Bool.not_eq_true] at establishes
        exact .established sdkId minimum maximum establishes.1 establishes.2.1
  | prepareRecovery generation =>
      simp only [call, SubscriptionBuffer.prepareRecovery]
      split
      · rename_i admitted
        simp only [SubscriptionBuffer.admitsRecovery, Bool.and_eq_true, decide_eq_true_eq]
          at admitted
        obtain ⟨alive, -, -, rfl⟩ := admitted
        exact .recovered alive
      · exact .fails
  | activate =>
      simp only [call, SubscriptionBuffer.activate]
      split
      · rename_i still
        cases b.activated <;> exact .same
      · rename_i activates
        simp only [Bool.not_eq_true', not_or, Bool.not_eq_false, Bool.not_eq_true] at activates
        rw [activates.2.2]
        exact .activated activates.1 activates.2.1 activates.2.2
  | cancel => exact .cancelled
  | takeReady => exact .handed

/-! ## Histories -/

section

variable (b : SubscriptionBuffer V) (log happened : List (Happening V))

@[simp] theorem accepted_append : accepted ⟨b, log ++ happened⟩ =
    accepted ⟨b, log⟩ ++ happened.filterMap Happening.accepted? :=
  List.filterMap_append

@[simp] theorem handed_append : handed ⟨b, log ++ happened⟩ =
    handed ⟨b, log⟩ ++ happened.filterMap Happening.handed? :=
  List.filterMap_append

end

theorem filterMap_accepted_handed (reports : List (NativeReport V)) :
    (reports.map Happening.handed).filterMap Happening.accepted? = [] := by
  induction reports with
  | nil => rfl
  | cons report rest ih => rw [List.map_cons, List.filterMap_cons_none rfl, ih]

theorem filterMap_handed_handed (reports : List (NativeReport V)) :
    (reports.map Happening.handed).filterMap Happening.handed? = reports := by
  induction reports with
  | nil => rfl
  | cons report rest ih => simp [Happening.handed?, ih]

/-- A report without what an establishment revises. -/
def unrevised (report : NativeReport V) : NativeReport V :=
  SubscriptionBuffer.revised report 0 0 0

@[simp] theorem unrevised_revised (report : NativeReport V) (sdkId minimum maximum : Nat) :
    unrevised (SubscriptionBuffer.revised report sdkId minimum maximum) = unrevised report := rfl

/-! ## The queues -/

/-- What the buffer would hand out next, in order. -/
def pending (b : SubscriptionBuffer V) : List (NativeReport V) := b.ready ++ b.buffered

structure Queued (s : Served V) : Prop where
  bounded : s.buffer.buffered.length + s.buffer.ready.length ≤ s.buffer.request.queueLimit
  waiting : s.buffer.activated = false → s.buffer.ready = []
  merged : s.buffer.activated = true → s.buffer.buffered = []
  current : ∀ report ∈ pending s.buffer, report.generation = s.buffer.generation
  inOrder : ((s.handed ++ pending s.buffer).map unrevised).Sublist (s.accepted.map unrevised)

variable {s : Served V} {b' : SubscriptionBuffer V} {happened : List (Happening V)}

theorem pending_store (b : SubscriptionBuffer V) (result : PathResult V)
    (merged : b.activated = true → b.buffered = []) :
    pending ((b.remember result).store (b.stamped result)) = pending b ++ [b.stamped result] := by
  obtain ⟨paths, ids, initial, cache, same⟩ := remember_frame b result
  rw [same, SubscriptionBuffer.store]
  split
  · rename_i active
    simp [pending, merged active]
  · simp [pending]

theorem queued_store (queued : Queued s) (result : PathResult V)
    (room : s.buffer.buffered.length + s.buffer.ready.length < s.buffer.request.queueLimit) :
    Queued ⟨(s.buffer.remember result).store (s.buffer.stamped result),
      s.log ++ [.accepted (s.buffer.stamped result)]⟩ := by
  have next := pending_store s.buffer result queued.merged
  have count : ((s.buffer.remember result).store (s.buffer.stamped result)).held.length =
      s.buffer.held.length + 1 := held_length_store s.buffer result
  obtain ⟨paths, ids, initial, cache, same⟩ := remember_frame s.buffer result
  have kept : ((s.buffer.remember result).store (s.buffer.stamped result)).request =
        s.buffer.request ∧
      ((s.buffer.remember result).store (s.buffer.stamped result)).generation =
        s.buffer.generation := by
    rw [same, SubscriptionBuffer.store]
    split <;> exact ⟨rfl, rfl⟩
  refine ⟨?_, ?_, ?_, ?_, ?_⟩
  · rw [kept.1]
    simp only [SubscriptionBuffer.held, List.length_append] at count
    dsimp only
    omega
  · rw [same, SubscriptionBuffer.store]
    split
    · rename_i active
      intro inactive
      exact absurd (inactive.symm.trans active) Bool.false_ne_true
    · exact queued.waiting
  · rw [same, SubscriptionBuffer.store]
    split
    · exact queued.merged
    · rename_i inactive
      intro active
      exact absurd active inactive
  · intro report inside
    rw [kept.2]
    rw [next, List.mem_append, List.mem_singleton] at inside
    rcases inside with inside | rfl
    · exact queued.current report inside
    · rfl
  · rw [next]
    have grown := queued.inOrder.append (List.Sublist.refl [unrevised (s.buffer.stamped result)])
    simpa [accepted, handed, List.filterMap_cons, Happening.accepted?, Happening.handed?]
      using grown

/-- A call that takes and hands out nothing, and empties the queues. -/
theorem Queued.drop (queued : Queued s) (accepted : happened.filterMap Happening.accepted? = [])
    (handed : happened.filterMap Happening.handed? = []) (ready : b'.ready = [])
    (buffered : b'.buffered = []) : Queued ⟨b', s.log ++ happened⟩ where
  bounded := by simp [ready, buffered]
  waiting := fun _ => ready
  merged := fun _ => buffered
  current := by simp [pending, ready, buffered]
  inOrder := by
    rw [accepted_append, handed_append, accepted, handed]
    simp only [pending, ready, buffered, List.append_nil]
    exact (List.sublist_append_left _ _).trans (List.map_append ▸ queued.inOrder)

/-- A call that takes and hands out nothing, and at most revises what waits. -/
theorem Queued.keep (queued : Queued s) (accepted : happened.filterMap Happening.accepted? = [])
    (handed : happened.filterMap Happening.handed? = [])
    (request : b'.request = s.buffer.request) (generation : b'.generation = s.buffer.generation)
    (activated : b'.activated = s.buffer.activated) (ready : b'.ready = s.buffer.ready)
    (buffered : b'.buffered.map unrevised = s.buffer.buffered.map unrevised) :
    Queued ⟨b', s.log ++ happened⟩ where
  bounded := by
    have count := congrArg List.length buffered
    rw [List.length_map, List.length_map] at count
    simp only [request, ready, count]
    exact queued.bounded
  waiting := by
    simp only [activated, ready]
    exact queued.waiting
  merged := by
    simp only [activated]
    intro active
    rw [queued.merged active, List.map_nil] at buffered
    exact List.map_eq_nil_iff.mp buffered
  current := by
    intro report inside
    have seen : unrevised report ∈ (pending s.buffer).map unrevised := by
      rw [pending, List.map_append, ← ready, ← buffered, ← List.map_append]
      exact List.mem_map_of_mem inside
    obtain ⟨other, waits, same⟩ := List.mem_map.mp seen
    have generations : other.generation = report.generation := congrArg (·.generation) same
    rw [← generations, queued.current other waits, generation]
  inOrder := by
    have order := queued.inOrder
    rw [accepted_append, handed_append, accepted, handed, List.append_nil, List.append_nil]
    simp only [pending, List.map_append, ready, buffered] at order ⊢
    exact order

theorem Queued.move (queued : Queued s) (move : Move s.buffer b' happened) :
    Queued ⟨b', s.log ++ happened⟩ := by
  cases move with
  | quiet active inReport ends => exact queued.keep rfl rfl rfl rfl rfl rfl rfl
  | opened alive => exact queued.keep rfl rfl rfl rfl rfl rfl rfl
  | stored result alive fresh unseen valid room => exact queued_store queued result room
  | established sdkId minimum maximum alive first =>
      refine queued.keep rfl rfl rfl rfl rfl rfl ?_
      rw [List.map_map]
      exact List.map_congr_left fun report _ => unrevised_revised report sdkId minimum maximum
  | recovered alive => exact queued.drop rfl rfl rfl rfl
  | activated alive established first =>
      have empty := queued.waiting first
      refine ⟨?_, nofun, fun _ => rfl, ?_, ?_⟩
      · simpa [Nat.add_comm] using queued.bounded
      · simpa [pending] using queued.current
      · simpa [pending, accepted, handed, List.filterMap_cons, Happening.accepted?,
          Happening.handed?] using queued.inOrder
  | cancelled => exact queued.drop rfl rfl rfl rfl
  | handed =>
      refine ⟨?_, fun _ => rfl, queued.merged, ?_, ?_⟩
      · exact (Nat.le_add_right _ _).trans queued.bounded
      · exact fun report inside => queued.current report (List.mem_append_right _ inside)
      · rw [accepted_append, handed_append, filterMap_accepted_handed, filterMap_handed_handed,
          List.append_nil, List.append_assoc]
        exact queued.inOrder

/-! ## The stamps -/

/-- Generations do not fall, and within one generation report identifiers do not. -/
def InOrder (first second : NativeReport V) : Prop :=
  first.generation < second.generation ∨
    first.generation = second.generation ∧ first.payload.reportId ≤ second.payload.reportId

/-- The report is not of a later generation or report than the buffer. -/
def NotAfter (b : SubscriptionBuffer V) (report : NativeReport V) : Prop :=
  report.generation < b.generation ∨
    report.generation = b.generation ∧ report.payload.reportId ≤ b.reportId

structure Stamped (s : Served V) : Prop where
  ordered : s.accepted.Pairwise InOrder
  latest : ∀ report ∈ s.accepted, NotAfter s.buffer report

/-- A call that takes nothing, and does not go back. -/
theorem Stamped.keep (stamped : Stamped s) (accepted : happened.filterMap Happening.accepted? = [])
    (later : ∀ report, NotAfter s.buffer report → NotAfter b' report) :
    Stamped ⟨b', s.log ++ happened⟩ where
  ordered := by
    rw [accepted_append, accepted, List.append_nil]
    exact stamped.ordered
  latest := by
    rw [accepted_append, accepted, List.append_nil]
    exact fun report taken => later report (stamped.latest report taken)

theorem store_frame (b : SubscriptionBuffer V) (report : NativeReport V) :
    ∃ buffered ready, b.store report = { b with buffered, ready } := by
  rw [SubscriptionBuffer.store]
  split <;> exact ⟨_, _, rfl⟩

theorem accepted_stored (b' : SubscriptionBuffer V) (report : NativeReport V) :
    accepted ⟨b', s.log ++ [.accepted report]⟩ = s.accepted ++ [report] := by
  rw [accepted_append]
  rfl

theorem stamped_store (stamped : Stamped s) (result : PathResult V) :
    Stamped ⟨(s.buffer.remember result).store (s.buffer.stamped result),
      s.log ++ [.accepted (s.buffer.stamped result)]⟩ := by
  obtain ⟨paths, ids, initial, cache, remembered⟩ := remember_frame s.buffer result
  obtain ⟨buffered, ready, stored⟩ :=
    store_frame (s.buffer.remember result) (s.buffer.stamped result)
  have new : NotAfter s.buffer (s.buffer.stamped result) := .inr ⟨rfl, le_rfl⟩
  rw [stored, remembered]
  refine ⟨?_, ?_⟩
  · rw [accepted_stored, List.pairwise_append]
    refine ⟨stamped.ordered, List.pairwise_singleton _ _, ?_⟩
    intro report taken other here
    obtain rfl := List.mem_singleton.mp here
    exact stamped.latest report taken
  · rw [accepted_stored]
    intro report taken
    rcases List.mem_append.mp taken with earlier | here
    · exact stamped.latest report earlier
    · obtain rfl := List.mem_singleton.mp here
      exact new

theorem Stamped.move (stamped : Stamped s) (move : Move s.buffer b' happened) :
    Stamped ⟨b', s.log ++ happened⟩ := by
  cases move with
  | quiet active inReport ends => exact stamped.keep rfl fun _ => id
  | opened alive =>
      refine stamped.keep rfl fun report before => ?_
      exact before.imp_right fun same => ⟨same.1, same.2.trans (Nat.le_succ _)⟩
  | stored result alive fresh unseen valid room => exact stamped_store stamped result
  | established sdkId minimum maximum alive first => exact stamped.keep rfl fun _ => id
  | recovered alive =>
      refine stamped.keep rfl fun report before => .inl ?_
      show report.generation < s.buffer.generation + 1
      rcases before with before | same
      · omega
      · omega
  | activated alive established first => exact stamped.keep rfl fun _ => id
  | cancelled => exact stamped.keep rfl fun _ => id
  | handed => exact stamped.keep (filterMap_accepted_handed _) fun _ => id

/-! ## The filters of attribute paths -/

/-- No path comes twice in one report, or twice among the initial reports of one generation. -/
def DistinctPaths (reports : List (NativeReport V)) : Prop :=
  reports.Pairwise fun first second => first.generation = second.generation →
    (first.payload.reportId = second.payload.reportId ∨
      first.payload.initial = true ∧ second.payload.initial = true) →
    first.payload.result.path ≠ second.payload.result.path

structure Filtered (s : Served V) : Prop where
  kind : s.buffer.request.kind = .attributes
  inReport : ∀ report ∈ s.accepted, report.generation = s.buffer.generation →
    report.payload.reportId = s.buffer.reportId →
    report.payload.result.path ∈ s.buffer.currentAttributePaths
  initial : ∀ report ∈ s.accepted, report.generation = s.buffer.generation →
    report.payload.initial = true →
    report.payload.result.path ∈ s.buffer.initialAttributePaths
  apart : DistinctPaths s.accepted

/-- A call that takes nothing, and after which what must be filtered is. -/
theorem Filtered.keep (filtered : Filtered s)
    (accepted : happened.filterMap Happening.accepted? = [])
    (request : b'.request = s.buffer.request)
    (inReport : ∀ report ∈ s.accepted, report.generation = b'.generation →
      report.payload.reportId = b'.reportId →
      report.payload.result.path ∈ b'.currentAttributePaths)
    (initial : ∀ report ∈ s.accepted, report.generation = b'.generation →
      report.payload.initial = true → report.payload.result.path ∈ b'.initialAttributePaths) :
    Filtered ⟨b', s.log ++ happened⟩ := by
  have same : Served.accepted ⟨b', s.log ++ happened⟩ = s.accepted := by
    rw [accepted_append, accepted, List.append_nil]
    rfl
  refine ⟨?_, ?_, ?_, ?_⟩
  · dsimp only
    rw [request]
    exact filtered.kind
  · rw [same]
    exact inReport
  · rw [same]
    exact initial
  · rw [same]
    exact filtered.apart

theorem filtered_store (filtered : Filtered s) {result : PathResult V}
    (fresh : s.buffer.duplicateInCurrentReport result = false)
    (unseen : s.buffer.suppressedDuplicate result = false) :
    Filtered ⟨(s.buffer.remember result).store (s.buffer.stamped result),
      s.log ++ [.accepted (s.buffer.stamped result)]⟩ := by
  obtain ⟨buffered, ready, stored⟩ :=
    store_frame (s.buffer.remember result) (s.buffer.stamped result)
  rw [stored, SubscriptionBuffer.remember, filtered.kind]
  simp only [SubscriptionBuffer.duplicateInCurrentReport, filtered.kind,
    decide_eq_false_iff_not] at fresh
  simp only [SubscriptionBuffer.suppressedDuplicate, filtered.kind, Bool.and_eq_false_iff,
    Bool.not_eq_false', decide_eq_false_iff_not] at unseen
  refine ⟨filtered.kind, ?_, ?_, ?_⟩
  · rw [accepted_stored]
    intro report taken generation reportId
    rcases List.mem_append.mp taken with earlier | here
    · exact List.mem_append_left _ (filtered.inReport report earlier generation reportId)
    · obtain rfl := List.mem_singleton.mp here
      exact List.mem_append_right _ List.mem_cons_self
  · rw [accepted_stored]
    intro report taken generation initial
    show report.payload.result.path ∈ if s.buffer.established then s.buffer.initialAttributePaths
      else s.buffer.initialAttributePaths ++ [result.path]
    rcases List.mem_append.mp taken with earlier | here
    · have known := filtered.initial report earlier generation initial
      split
      · exact known
      · exact List.mem_append_left _ known
    · obtain rfl := List.mem_singleton.mp here
      have before : s.buffer.established = false := by
        simpa [SubscriptionBuffer.stamped] using initial
      rw [before]
      exact List.mem_append_right _ List.mem_cons_self
  · rw [accepted_stored]
    refine List.pairwise_append.mpr ⟨filtered.apart, List.pairwise_singleton _ _, ?_⟩
    intro report taken other here generation meets same
    obtain rfl := List.mem_singleton.mp here
    rcases meets with reportId | ⟨initial, initial'⟩
    · exact fresh (same ▸ filtered.inReport report taken generation reportId)
    · have before : s.buffer.established = false := by
        simpa [SubscriptionBuffer.stamped] using initial'
      rcases unseen with established | unseen
      · exact Bool.false_ne_true (before.symm.trans established)
      · exact unseen (same ▸ filtered.initial report taken generation initial)

theorem Filtered.move (filtered : Filtered s) (stamped : Stamped s)
    (move : Move s.buffer b' happened) : Filtered ⟨b', s.log ++ happened⟩ := by
  cases move with
  | quiet active inReport ends =>
      exact filtered.keep rfl rfl filtered.inReport filtered.initial
  | opened alive =>
      -- no report of the next identifier has been taken
      refine filtered.keep rfl rfl (fun report taken generation reportId => ?_) filtered.initial
      have before := stamped.latest report taken
      simp only [NotAfter] at before generation reportId
      omega
  | stored result alive fresh unseen valid room => exact filtered_store filtered fresh unseen
  | established sdkId minimum maximum alive first =>
      exact filtered.keep rfl rfl filtered.inReport filtered.initial
  | recovered alive =>
      -- no report of the next generation has been taken
      have older : ∀ report ∈ s.accepted, report.generation ≠ s.buffer.generation + 1 := by
        intro report taken
        have before := stamped.latest report taken
        simp only [NotAfter] at before
        omega
      exact filtered.keep rfl rfl
        (fun report taken generation _ => absurd generation (older report taken))
        (fun report taken generation _ => absurd generation (older report taken))
  | activated alive established first =>
      exact filtered.keep rfl rfl filtered.inReport filtered.initial
  | cancelled => exact filtered.keep rfl rfl filtered.inReport filtered.initial
  | handed =>
      exact filtered.keep (filterMap_accepted_handed _) rfl filtered.inReport filtered.initial

/-! ## The memory of events -/

/-- The events that were put into the buffer. -/
def events (s : Served V) : List (ConcretePath × Nat) := s.accepted.filterMap Handing.carried

structure Remembered (s : Served V) : Prop where
  cache : s.buffer.eventIdCache = Recent.recent 1024 s.events
  spaced : Recent.Spaced 1024 s.events

theorem Remembered.keep (remembered : Remembered s)
    (accepted : happened.filterMap Happening.accepted? = [])
    (cache : b'.eventIdCache = s.buffer.eventIdCache) :
    Remembered ⟨b', s.log ++ happened⟩ := by
  have same : Served.events ⟨b', s.log ++ happened⟩ = s.events := by
    rw [events, accepted_append, accepted, List.append_nil]
    rfl
  refine ⟨?_, ?_⟩
  · rw [same, ← remembered.cache]
    exact cache
  · rw [same]
    exact remembered.spaced

theorem no_event_of_valid {request : SubscriptionRequest} {report : NativeReport V}
    (kind : request.kind = .attributes) (valid : validSubscriptionReport request report = true) :
    Handing.carried report = none := by
  simp only [validSubscriptionReport, kind, Bool.and_eq_true] at valid
  have none : report.payload.result.event = none := Option.isNone_iff_eq_none.mp valid.1.2.1.2
  rw [Handing.carried, PathResult.identity?, none]
  rfl

theorem remembered_store (remembered : Remembered s) {result : PathResult V}
    (unseen : s.buffer.suppressedDuplicate result = false)
    (valid : validSubscriptionReport s.buffer.request (s.buffer.stamped result) = true) :
    Remembered ⟨(s.buffer.remember result).store (s.buffer.stamped result),
      s.log ++ [.accepted (s.buffer.stamped result)]⟩ := by
  obtain ⟨buffered, ready, stored⟩ :=
    store_frame (s.buffer.remember result) (s.buffer.stamped result)
  have events : Served.events ⟨(s.buffer.remember result).store (s.buffer.stamped result),
      s.log ++ [.accepted (s.buffer.stamped result)]⟩ =
        s.events ++ [s.buffer.stamped result].filterMap Handing.carried := by
    rw [Served.events, accepted_stored, List.filterMap_append]
    rfl
  cases kind : s.buffer.request.kind with
  | attributes =>
      have none : Handing.carried (s.buffer.stamped result) = none := no_event_of_valid kind valid
      rw [List.filterMap_cons_none none, List.filterMap_nil, List.append_nil] at events
      refine ⟨?_, ?_⟩
      · rw [events, ← remembered.cache, stored, SubscriptionBuffer.remember, kind]
      · rw [events]
        exact remembered.spaced
  | events =>
      obtain ⟨identity, found⟩ := Handing.event_of_valid kind valid
      have found' : result.identity? = some identity := found
      rw [List.filterMap_cons_some found, List.filterMap_nil] at events
      have fresh : identity ∉ Recent.recent 1024 s.events := by
        rw [← remembered.cache]
        simpa [SubscriptionBuffer.suppressedDuplicate, kind, found'] using unseen
      refine ⟨?_, ?_⟩
      · rw [events, Recent.recent_snoc, ← remembered.cache, stored, SubscriptionBuffer.remember,
          kind]
        simp only [found']
      · rw [events]
        exact Recent.spaced_snoc remembered.spaced fresh

theorem Remembered.move (remembered : Remembered s) (move : Move s.buffer b' happened) :
    Remembered ⟨b', s.log ++ happened⟩ := by
  cases move with
  | quiet active inReport ends => exact remembered.keep rfl rfl
  | opened alive => exact remembered.keep rfl rfl
  | stored result alive fresh unseen valid room => exact remembered_store remembered unseen valid
  | established sdkId minimum maximum alive first => exact remembered.keep rfl rfl
  | recovered alive => exact remembered.keep rfl rfl
  | activated alive established first => exact remembered.keep rfl rfl
  | cancelled => exact remembered.keep rfl rfl
  | handed => exact remembered.keep (filterMap_accepted_handed _) rfl

/-! ## Milestones -/

/-- The generation was established and then activated. -/
def Released (log : List (Happening V)) (generation : Nat) : Prop :=
  ∃ first middle last,
    log = first ++ .established generation :: (middle ++ .activated generation :: last)

theorem Released.append {log : List (Happening V)} {generation : Nat}
    (released : Released log generation) (more : List (Happening V)) :
    Released (log ++ more) generation := by
  obtain ⟨first, middle, last, rfl⟩ := released
  exact ⟨first, middle, last ++ more, by simp⟩

/-- A report may be handed out after this. -/
def MayHand (log : List (Happening V)) (report : NativeReport V) : Prop :=
  .cancelled ∉ log ∧ Released log report.generation

structure Marked (s : Served V) : Prop where
  established : s.buffer.established = true → .established s.buffer.generation ∈ s.log
  activated : s.buffer.activated = true → Released s.log s.buffer.generation
  released : ∀ before report after, s.log = before ++ .handed report :: after →
    MayHand before report
  cancelled : .cancelled ∈ s.log → s.buffer.active = false ∧ s.buffer.ready = []

/-- An entry of a log that has grown stands in the old part or in the new one. -/
theorem split_append {log more before after : List (Happening V)} {entry : Happening V}
    (same : log ++ more = before ++ entry :: after) :
    (∃ rest, log = before ++ entry :: rest) ∨
      ∃ front, before = log ++ front ∧ more = front ++ entry :: after := by
  rcases List.append_eq_append_iff.mp same with ⟨front, longer, rest⟩ | ⟨back, shorter, rest⟩
  · exact .inr ⟨front, longer, rest⟩
  · cases back with
    | nil => exact .inr ⟨[], by simpa using shorter.symm, by simpa using rest.symm⟩
    | cons first back =>
        obtain ⟨rfl, -⟩ := List.cons.inj rest
        exact .inl ⟨back, shorter⟩

/-- A call that hands out nothing and does not cancel. -/
theorem Marked.keep (marked : Marked s) (none : ∀ report, .handed report ∉ happened)
    (alive : .cancelled ∉ happened)
    (established : b'.established = true →
      .established b'.generation ∈ s.log ++ happened)
    (activated : b'.activated = true → Released (s.log ++ happened) b'.generation)
    (cancelled : s.buffer.active = false → s.buffer.ready = [] →
      b'.active = false ∧ b'.ready = []) : Marked ⟨b', s.log ++ happened⟩ where
  established := established
  activated := activated
  released := by
    intro before report after same
    rcases split_append same with ⟨rest, same⟩ | ⟨front, -, same⟩
    · exact marked.released before report rest same
    · exact absurd (same ▸ List.mem_append_right _ List.mem_cons_self) (none report)
  cancelled := by
    intro inside
    rcases List.mem_append.mp inside with earlier | here
    · exact cancelled (marked.cancelled earlier).1 (marked.cancelled earlier).2
    · exact absurd here alive

theorem marked_handed (marked : Marked s) (queued : Queued s) :
    Marked ⟨s.buffer.takeReady.2, s.log ++ s.buffer.ready.map .handed⟩ where
  established := fun flag => List.mem_append_left _ (marked.established flag)
  activated := fun flag => (marked.activated flag).append _
  released := by
    intro before report after same
    rcases split_append same with ⟨rest, old⟩ | ⟨front, rfl, new⟩
    · exact marked.released before report rest old
    have ready : report ∈ s.buffer.ready := by
      have inside : Happening.handed report ∈ s.buffer.ready.map Happening.handed :=
        new ▸ List.mem_append_right _ List.mem_cons_self
      simpa using inside
    have active : s.buffer.activated = true := by
      by_contra inactive
      rw [queued.waiting (Bool.not_eq_true _ ▸ inactive)] at ready
      cases ready
    constructor
    · intro inside
      rcases List.mem_append.mp inside with earlier | here
      · rw [(marked.cancelled earlier).2] at ready
        cases ready
      · have handed : Happening.cancelled ∈ s.buffer.ready.map Happening.handed :=
          new ▸ List.mem_append_left _ here
        simp at handed
    · rw [queued.current report (List.mem_append_left _ ready)]
      exact (marked.activated active).append front
  cancelled := by
    intro inside
    rcases List.mem_append.mp inside with earlier | here
    · exact ⟨(marked.cancelled earlier).1, rfl⟩
    · simp at here

theorem Marked.move (marked : Marked s) (queued : Queued s) (move : Move s.buffer b' happened) :
    Marked ⟨b', s.log ++ happened⟩ := by
  have kept : s.buffer.established = true →
      .established s.buffer.generation ∈ s.log ++ happened :=
    fun flag => List.mem_append_left _ (marked.established flag)
  have still : s.buffer.activated = true → Released (s.log ++ happened) s.buffer.generation :=
    fun flag => (marked.activated flag).append _
  cases move with
  | quiet active inReport ends =>
      refine marked.keep (by simp) (by simp) kept still fun ended ready => ⟨?_, ready⟩
      by_contra revived
      exact Bool.false_ne_true (ended.symm.trans (ends (Bool.not_eq_false _ ▸ revived)))
  | opened alive =>
      exact marked.keep (by simp) (by simp) kept still fun ended =>
        absurd (ended.symm.trans alive) Bool.false_ne_true
  | stored result alive fresh unseen valid room =>
      obtain ⟨buffered, ready, stored⟩ :=
        store_frame (s.buffer.remember result) (s.buffer.stamped result)
      obtain ⟨paths, ids, initial, cache, remembered⟩ := remember_frame s.buffer result
      rw [stored, remembered]
      exact marked.keep (by simp) (by simp) kept still fun ended =>
        absurd (ended.symm.trans alive) Bool.false_ne_true
  | established sdkId minimum maximum alive first =>
      exact marked.keep (by simp) (by simp) (fun _ => by simp) still fun ended =>
        absurd (ended.symm.trans alive) Bool.false_ne_true
  | recovered alive =>
      exact marked.keep (by simp) (by simp) nofun nofun fun ended =>
        absurd (ended.symm.trans alive) Bool.false_ne_true
  | activated alive established first =>
      refine marked.keep (by simp) (by simp) kept (fun _ => ?_) fun ended =>
        absurd (ended.symm.trans alive) Bool.false_ne_true
      obtain ⟨front, back, same⟩ := List.append_of_mem (marked.established established)
      exact ⟨front, back, [], by simp [same]⟩
  | cancelled =>
      refine ⟨kept, still, ?_, fun _ => ⟨rfl, rfl⟩⟩
      intro before report after same
      rcases split_append same with ⟨rest, old⟩ | ⟨front, -, new⟩
      · exact marked.released before report rest old
      · have handed : Happening.handed report ∈ [Happening.cancelled] :=
          new ▸ List.mem_append_right _ List.mem_cons_self
        simp at handed
  | handed => exact marked_handed marked queued

/-! ## Runs -/

theorem Move.request {b : SubscriptionBuffer V} (move : Move b b' happened) :
    b'.request = b.request := by
  cases move with
  | stored result alive fresh unseen valid room =>
      obtain ⟨buffered, ready, stored⟩ := store_frame (b.remember result) (b.stamped result)
      obtain ⟨paths, ids, initial, cache, remembered⟩ := remember_frame b result
      rw [stored, remembered]
  | _ => rfl

structure Tracked (request : SubscriptionRequest) (s : Served V) : Prop where
  unchanged : s.buffer.request = request
  queued : Queued s
  stamped : Stamped s
  filtered : request.kind = .attributes → Filtered s
  remembered : Remembered s
  marked : Marked s

theorem tracked_new (request : SubscriptionRequest) :
    Tracked request ({ buffer := { request } } : Served V) where
  unchanged := rfl
  queued :=
    { bounded := Nat.zero_le _
      waiting := fun _ => rfl
      merged := fun _ => rfl
      current := fun _ waits => absurd waits List.not_mem_nil
      inOrder := List.Sublist.refl _ }
  stamped := ⟨.nil, fun _ taken => absurd taken List.not_mem_nil⟩
  filtered := fun kind =>
    { kind
      inReport := fun _ taken => absurd taken List.not_mem_nil
      initial := fun _ taken => absurd taken List.not_mem_nil
      apart := .nil }
  remembered := ⟨(Recent.recent_of_short (Nat.zero_le _)).symm, Recent.spaced_nil _⟩
  marked :=
    { established := fun flag => absurd flag Bool.false_ne_true
      activated := fun flag => absurd flag Bool.false_ne_true
      released := fun before _ _ same => by simp at same
      cancelled := fun inside => absurd inside List.not_mem_nil }

theorem step_tracked {request : SubscriptionRequest} (tracked : Tracked request s)
    (operation : BufferOperation V) : Tracked request (s.step operation) := by
  have move := call_moves s.buffer operation
  exact
    { unchanged := move.request.trans tracked.unchanged
      queued := tracked.queued.move move
      stamped := tracked.stamped.move move
      filtered := fun kind => (tracked.filtered kind).move tracked.stamped move
      remembered := tracked.remembered.move move
      marked := tracked.marked.move tracked.queued move }

theorem run_tracked {request : SubscriptionRequest} (operations : List (BufferOperation V)) :
    ∀ {s : Served V}, Tracked request s → Tracked request (s.run operations) := by
  induction operations with
  | nil => exact fun tracked => tracked
  | cons operation rest ih => exact fun tracked => ih (step_tracked tracked operation)

/-! ## The laws -/

/-- Another event than this one. -/
def others (identity : ConcretePath × Nat) (reports : List (NativeReport V)) :
    List (ConcretePath × Nat) :=
  (reports.filterMap Handing.carried).filter (· ≠ identity)

structure DeliveryLaws (request : SubscriptionRequest) (s : Served V) : Prop where
  /-- The two queues together stay within the limit. -/
  bounded : s.buffer.buffered.length + s.buffer.ready.length ≤ request.queueLimit
  /-- What is handed out was taken, and in this order. -/
  subsequence : (s.handed.map unrevised).Sublist (s.accepted.map unrevised)
  ordered : s.handed.Pairwise InOrder
  /-- A report is handed out after its generation was established and activated, and before any
  cancellation. -/
  released : ∀ before report after, s.log = before ++ .handed report :: after →
    MayHand before report
  distinct : request.kind = .attributes → DistinctPaths s.accepted ∧ DistinctPaths s.handed
  /-- An event is handed out again only if 1024 others were taken between the two. -/
  spaced : ∀ first second identity, [first, second].Sublist s.handed →
    Handing.carried first = some identity → Handing.carried second = some identity →
    ∃ before taken between again after,
      s.accepted = before ++ taken :: (between ++ again :: after) ∧
        unrevised taken = unrevised first ∧ unrevised again = unrevised second ∧
        1024 ≤ (others identity between).length

theorem Tracked.within {request : SubscriptionRequest} (tracked : Tracked request s) :
    (s.handed.map unrevised).Sublist (s.accepted.map unrevised) :=
  (List.map_append ▸ List.sublist_append_left _ _).trans tracked.queued.inOrder

/-- What holds between the reports that were taken holds between those handed out. -/
theorem pairwise_handed {request : SubscriptionRequest} (tracked : Tracked request s)
    {related : NativeReport V → NativeReport V → Prop}
    (reads : ∀ first second, related (unrevised first) (unrevised second) ↔ related first second)
    (taken : s.accepted.Pairwise related) : s.handed.Pairwise related := by
  have through := List.pairwise_map.mpr (taken.imp fun {first second} => (reads first second).mpr)
  exact (List.pairwise_map.mp (through.sublist tracked.within)).imp fun {first second} =>
    (reads first second).mp

theorem two_taken {reports : List (NativeReport V)} {first second : NativeReport V}
    (twice : [first, second].Sublist reports) :
    ∃ before between after, reports = before ++ first :: (between ++ second :: after) := by
  obtain ⟨front, back, rfl, inside, rest⟩ := List.cons_sublist_iff.mp twice
  obtain ⟨before, left, rfl⟩ := List.append_of_mem inside
  obtain ⟨right, after, rfl⟩ := List.append_of_mem (List.singleton_sublist.mp rest)
  exact ⟨before, left ++ right, after, by simp⟩

theorem spaced_of_remembered (remembered : Remembered s)
    {before between after : List (NativeReport V)} {taken again : NativeReport V}
    {identity : ConcretePath × Nat}
    (same : s.accepted = before ++ taken :: (between ++ again :: after))
    (first : Handing.carried taken = some identity)
    (second : Handing.carried again = some identity) :
    1024 ≤ (others identity between).length := by
  refine remembered.spaced (before.filterMap Handing.carried)
    (between.filterMap Handing.carried) (after.filterMap Handing.carried) identity ?_
  rw [events, same, List.filterMap_append, List.filterMap_cons_some first, List.filterMap_append,
    List.filterMap_cons_some second]

theorem Tracked.laws {request : SubscriptionRequest} (tracked : Tracked request s) :
    DeliveryLaws request s where
  bounded := tracked.unchanged ▸ tracked.queued.bounded
  subsequence := tracked.within
  ordered := pairwise_handed tracked (fun _ _ => Iff.rfl) tracked.stamped.ordered
  released := tracked.marked.released
  distinct := fun kind => ⟨(tracked.filtered kind).apart,
    pairwise_handed tracked (fun _ _ => Iff.rfl) (tracked.filtered kind).apart⟩
  spaced := by
    intro first second identity twice carried carried'
    obtain ⟨pair, taken, same⟩ :=
      List.sublist_map_iff.mp ((twice.map unrevised).trans tracked.within)
    obtain ⟨taken₁, rest, rfl, same₁, tail⟩ := List.map_eq_cons_iff.mp same.symm
    obtain ⟨taken₂, none, rfl, same₂, done⟩ := List.map_eq_cons_iff.mp tail
    obtain rfl := List.map_eq_nil_iff.mp done
    obtain ⟨before, between, after, cut⟩ := two_taken taken
    refine ⟨before, taken₁, between, taken₂, after, cut, same₁, same₂, ?_⟩
    have first' : Handing.carried taken₁ = some identity :=
      (congrArg Handing.carried same₁).trans carried
    have second' : Handing.carried taken₂ = some identity :=
      (congrArg Handing.carried same₂).trans carried'
    exact spaced_of_remembered tracked.remembered cut first' second'

/-- **The delivery laws hold in every run** of the eight calls, for every request. -/
theorem run_laws (request : SubscriptionRequest) (operations : List (BufferOperation V)) :
    DeliveryLaws request (({ buffer := { request } } : Served V).run operations) :=
  (run_tracked operations (tracked_new request)).laws

/-- The next event of the same device. -/
def reachableAgain : PathResult Unit :=
  { Handing.reachableChanged with event := some { eventNumber := 8, value := () } }

/-- Paths are only kept apart among attributes: two events of one path come in the first report of
a generation, and both are handed out as initial. -/
theorem run_laws_initial_events :
    ¬ (({ buffer := { request := Handing.bridgedEvents } } : Served Unit).run
      [.beginReport, .add Handing.reachableChanged, .add reachableAgain, .endReport,
        .establish 1 1 60, .activate, .takeReady]).handed.Pairwise fun first second =>
          first.generation = second.generation →
            first.payload.initial = true ∧ second.payload.initial = true →
            first.payload.result.path ≠ second.payload.result.path := by
  decide

end Served

end WotexMatter.Native
