/-
# WotexMatter.Native.SdkWorkSafety -- no bare address outlives its object

`Sound` is the invariant of a controller's run.  Its heart is that a context leaves its slot
only through its reap, that the reap is the last item of the queue with its address, and
that what is not done yet is still in its slot: so every address the SDK thread holds is
the address of an object in a slot (`run_no_dangling`).

One callback can break it.  `OnCommissioningComplete` names no context, so a late one of an
earlier pairing ends whatever `commissioning_` holds, at once where it failed or names another
node, or with the CASE probe it starts; where `Commission` has put its context there and not yet
scheduled its start, the reap is queued before the start (`timely`).
-/
import WotexMatter.Native.SdkWork
import Mathlib.Data.List.Count

set_option autoImplicit false

namespace WotexMatter.Native.SdkWork

/-- The SDK thread has not been given the context. -/
def Call.unsent (call : Call) : Bool :=
  call.point == .admitted || call.point == .dropping ||
    (call.point == .unscheduled && call.context.kind != .commissioning)

namespace Controller

/-- The addresses the SDK thread holds without a `shared_ptr`. -/
def borrowed (s : Controller) : List Pointer :=
  s.queue.filterMap Work.raw ++ s.marking ++ s.timers

/-- How many reaps of the context are queued or about to be scheduled. -/
def endings (s : Controller) (p : Pointer) : Nat :=
  s.queue.count (.reap p) + s.marking.count p + s.calls.count { context := p, point := .marked }

/-- `done_`. -/
def isDone (s : Controller) (p : Pointer) : Bool := (s.read p).any (·.done)

structure Sound (s : Controller) : Prop where
  safe : s.fault = false
  live : ∀ p ∈ s.references, (s.read p).isSome
  kinds : ∀ kind, ∀ p ∈ s.slots kind, p.kind = kind
  fresh : ∀ address c, s.heap address = some c → c.serial < s.serial
  owned : s.looping = true → ∀ p c, s.read p = some c → c.done = false → p ∈ s.slots p.kind
  lent : s.looping = true → ∀ p ∈ s.borrowed, p ∈ s.slots p.kind
  last : s.queue.Pairwise fun work later => ∀ p, work = .reap p → later.raw ≠ some p
  once : ∀ p, s.endings p ≤ 1
  ended : s.looping = true → ∀ p, 0 < s.endings p → s.isDone p = true ∧ p ∉ s.timers
  marks : s.looping = true → ∀ p, { context := p, point := .marked } ∈ s.calls →
    p ∈ s.slots p.kind
  starts : s.looping = true → ∀ p, .start p ∈ s.queue →
    ∃ c, s.read p = some c ∧ c.started = false
  startOnce : s.queue.Pairwise fun work later => ∀ p, work = .start p → later ≠ .start p
  timed : s.looping = true → ∀ p ∈ s.timers, ∃ c, s.read p = some c ∧ c.started = true
  clocks : ∀ p ∈ s.timers, p.kind = .subscription
  early : ∀ call ∈ s.calls, call.unsent = true → call.context ∉ s.borrowed ∧
    ∃ c, s.read call.context = some c ∧ c.started = false ∧
      (call.point = .admitted → c.done = false)
  held : ∀ p, .abort p ∈ s.queue → ∀ call ∈ s.calls, call.context = p → call.unsent = false
  aborts : ∀ p, .abort p ∈ s.queue → p.kind ≠ .subscription
  dropping : ∀ p, { context := p, point := .dropping } ∈ s.calls → p.kind = .interaction
  stack : ∀ call ∈ s.calls.tail, call.point.resting = true
  quiet : s.closing ≠ .open → s.calls = []
  loops : s.closing = .open → s.looping = true
  halted : s.closing = .stopped ∨ s.closing = .closed → s.looping = false
  shutting : .shutdown ∈ s.queue → s.closing ≠ .open

theorem sound_opened : Sound opened := by
  constructor <;> simp [opened, references, borrowed, endings, isDone, read]

section Fields

variable {s : Controller} {p q : Pointer} {c : Context} {f : Context → Context}

theorem read_eq_some : s.read p = some c ↔
    s.heap p.address = some c ∧ c.kind = p.kind ∧ c.serial = p.serial := by
  simp [read, Option.filter_eq_some_iff]

theorem modify_found (found : s.read p = some c) :
    s.modify p f = { s with heap := Function.update s.heap p.address (some (f c)) } := by
  simp [modify, found]

/-- Two live pointers to one address are the same. -/
theorem pointer_unique {d : Context} (found : s.read p = some c) (other : s.read q = some d)
    (same : q.address = p.address) : q = p := by
  obtain ⟨there, kind, serial⟩ := read_eq_some.mp found
  obtain ⟨there', kind', serial'⟩ := read_eq_some.mp other
  rw [same, there, Option.some.injEq] at there'
  subst there'
  cases p
  cases q
  simp_all

theorem read_modify (found : s.read p = some c) (kind : (f c).kind = c.kind)
    (serial : (f c).serial = c.serial) :
    (s.modify p f).read q = if q = p then some (f c) else s.read q := by
  obtain ⟨there, kind', serial'⟩ := read_eq_some.mp found
  rw [modify_found found]
  split
  · rename_i same
    subst same
    apply read_eq_some.mpr
    simp [kind, serial, kind', serial']
  · rename_i different
    by_cases same : q.address = p.address
    · have gone : ∀ d, s.read q ≠ some d := fun d other => different (pointer_unique found other same)
      have gone' : ∀ d, ({ s with heap := Function.update s.heap p.address (some (f c)) } :
          Controller).read q ≠ some d := by
        intro d other
        obtain ⟨there', kind'', serial''⟩ := read_eq_some.mp other
        simp only [same, Function.update_self, Option.some.injEq] at there'
        subst there'
        apply gone c
        apply read_eq_some.mpr
        exact ⟨same ▸ there, kind.symm.trans kind'', serial.symm.trans serial''⟩
      rw [Option.eq_none_iff_forall_not_mem.mpr fun d => gone d,
        Option.eq_none_iff_forall_not_mem.mpr fun d => gone' d]
    · simp [read, Function.update_of_ne same]

@[simp] theorem modify_slots : (s.modify p f).slots = s.slots := by
  unfold modify faulted
  split <;> rfl

@[simp] theorem modify_queue : (s.modify p f).queue = s.queue := by
  unfold modify faulted
  split <;> rfl

@[simp] theorem modify_timers : (s.modify p f).timers = s.timers := by
  unfold modify faulted
  split <;> rfl

@[simp] theorem modify_marking : (s.modify p f).marking = s.marking := by
  unfold modify faulted
  split <;> rfl

@[simp] theorem modify_calls : (s.modify p f).calls = s.calls := by
  unfold modify faulted
  split <;> rfl

@[simp] theorem modify_looping : (s.modify p f).looping = s.looping := by
  unfold modify faulted
  split <;> rfl

@[simp] theorem modify_closing : (s.modify p f).closing = s.closing := by
  unfold modify faulted
  split <;> rfl

@[simp] theorem modify_serial : (s.modify p f).serial = s.serial := by
  unfold modify faulted
  split <;> rfl

@[simp] theorem modify_releasing : (s.modify p f).releasing = s.releasing := by
  unfold modify faulted
  split <;> rfl

@[simp] theorem modify_references : (s.modify p f).references = s.references := by
  simp [references]

@[simp] theorem modify_borrowed : (s.modify p f).borrowed = s.borrowed := by
  simp [borrowed]

@[simp] theorem modify_endings : (s.modify p f).endings q = s.endings q := by
  simp [endings]

theorem mem_references : p ∈ s.references ↔ (∃ kind, p ∈ s.slots kind) ∨
    (∃ call ∈ s.calls, call.context = p) ∨ .abort p ∈ s.queue := by
  have holder : (∃ work ∈ s.queue, work.holder = some p) ↔ .abort p ∈ s.queue := by
    constructor
    · rintro ⟨work, queued, holds⟩
      cases work <;> simp [Work.holder] at holds
      exact holds ▸ queued
    · exact fun queued => ⟨_, queued, rfl⟩
  simp only [references, List.mem_append, List.mem_map, List.mem_filterMap, holder]
  constructor
  · rintro (((((h | h) | h) | h) | h) | h)
    · exact .inl ⟨_, h⟩
    · exact .inl ⟨_, h⟩
    · exact .inl ⟨_, h⟩
    · exact .inl ⟨_, h⟩
    · exact .inr (.inl h)
    · exact .inr (.inr h)
  · rintro (⟨kind, h⟩ | h | h)
    · cases kind <;> simp [h]
    · exact .inl (.inr h)
    · exact .inr h

theorem mem_borrowed : p ∈ s.borrowed ↔
    (∃ work ∈ s.queue, work.raw = some p) ∨ p ∈ s.marking ∨ p ∈ s.timers := by
  simp only [borrowed, List.mem_append, List.mem_filterMap, or_assoc]

theorem endings_pos : 0 < s.endings p ↔ .reap p ∈ s.queue ∨ p ∈ s.marking ∨
    { context := p, point := .marked } ∈ s.calls := by
  simp only [endings, Nat.add_pos_iff_pos_or_pos, List.count_pos_iff, or_assoc]

theorem Sound.of_slot (t : Sound s) {kind : ContextKind} (kept : p ∈ s.slots kind) :
    ∃ c, s.read p = some c :=
  Option.isSome_iff_exists.mp (t.live p (mem_references.mpr (.inl ⟨kind, kept⟩)))

theorem Sound.of_call (t : Sound s) {call : Call} (stands : call ∈ s.calls) :
    ∃ c, s.read call.context = some c :=
  Option.isSome_iff_exists.mp (t.live _ (mem_references.mpr (.inr (.inl ⟨call, stands, rfl⟩))))

end Fields

section Operations

variable {s : Controller} {p : Pointer} {c : Context}

/-- A write that forgets neither `done_` nor `Start`, nor, before the SDK has the context, that
it is new. -/
theorem Sound.modify (t : Sound s) (found : s.read p = some c) {f : Context → Context}
    (kind : (f c).kind = c.kind) (serial : (f c).serial = c.serial)
    (keeps : c.done = true → (f c).done = true) (began : c.started = true → (f c).started = true)
    (unbegun : .start p ∈ s.queue → c.started = false → (f c).started = false)
    (early : ∀ call ∈ s.calls, call.context = p → call.unsent = true →
      (f c).started = false ∧ (call.point = .admitted → (f c).done = false)) :
    Sound (s.modify p f) := by
  have reads : ∀ q, (s.modify p f).read q = if q = p then some (f c) else s.read q :=
    fun q => read_modify found kind serial
  have done : ∀ q, s.isDone q = true → (s.modify p f).isDone q = true := by
    intro q was
    rw [isDone, reads]
    split
    · rename_i same
      subst same
      rw [isDone, found] at was
      simpa using keeps (by simpa using was)
    · exact was
  rw [modify_found found] at reads done ⊢
  refine { t with
    live := ?live, fresh := ?fresh, owned := ?owned, ended := ?ended, starts := ?starts,
    timed := ?timed, early := ?early }
  case live =>
      intro q referred
      rw [reads]
      split
      · rfl
      · exact t.live q referred
  case fresh =>
      intro address d there
      by_cases same : address = p.address
      · subst same
        simp only [Function.update_self, Option.some.injEq] at there
        subst there
        rw [serial]
        exact t.fresh _ _ (read_eq_some.mp found).1
      · simp only [Function.update_of_ne same] at there
        exact t.fresh _ _ there
  case owned =>
      intro loops q d other undone
      rw [reads] at other
      split at other
      · rename_i same
        subst same
        cases other
        exact t.owned loops q c found (by cases was : c.done <;> simp_all)
      · exact t.owned loops q d other undone
  case ended =>
      intro loops q stands
      obtain ⟨was, untimed⟩ := t.ended loops q stands
      exact ⟨done q was, untimed⟩
  case starts =>
      intro loops q queued
      obtain ⟨d, there, unstarted⟩ := t.starts loops q queued
      rw [reads]
      split
      · rename_i same
        subst same
        rw [found, Option.some.injEq] at there
        subst there
        exact ⟨_, rfl, unbegun queued unstarted⟩
      · exact ⟨d, there, unstarted⟩
  case timed =>
      intro loops q armed
      obtain ⟨d, there, started⟩ := t.timed loops q armed
      rw [reads]
      split
      · rename_i same
        subst same
        rw [found, Option.some.injEq] at there
        subst there
        exact ⟨_, rfl, began started⟩
      · exact ⟨d, there, started⟩
  case early =>
      intro call stands unsent
      obtain ⟨unlent, d, there, unstarted, undone⟩ := t.early call stands unsent
      refine ⟨unlent, ?_⟩
      rw [reads]
      split
      · rename_i same
        exact ⟨f c, rfl, early call stands same unsent⟩
      · exact ⟨d, there, unstarted, undone⟩

/-- A write of anything but `done_` and `started`. -/
theorem Sound.annotate (t : Sound s) (found : s.read p = some c) {f : Context → Context}
    (kind : (f c).kind = c.kind) (serial : (f c).serial = c.serial)
    (started : (f c).started = c.started) (done : (f c).done = c.done) :
    Sound (s.modify p f) := by
  refine t.modify found kind serial (fun was => done.trans was) (fun was => started.trans was)
    (fun _ was => started.trans was) ?_
  rintro call stands rfl unsent
  obtain ⟨-, d, there, unstarted, undone⟩ := t.early call stands unsent
  rw [found, Option.some.injEq] at there
  subst there
  exact ⟨started.trans unstarted, fun admitted => done.trans (undone admitted)⟩

theorem Sound.publish (t : Sound s) (found : s.read p = some c) : Sound (s.publish p) :=
  t.annotate found rfl rfl rfl rfl

/-- Fewer work items, timers, marks and calls. -/
theorem Sound.shrink (t : Sound s) {queue : List Work} {timers marking : List Pointer}
    {calls : List Call} (items : queue.Sublist s.queue) (armed : timers.Sublist s.timers)
    (marks : marking.Sublist s.marking) (stands : calls.Sublist s.calls) :
    Sound { s with queue, timers, marking, calls } := by
  have borrowed : ∀ q, q ∈ borrowed { s with queue, timers, marking, calls } → q ∈ s.borrowed := by
    intro q lent
    simp only [Controller.borrowed, List.mem_append] at lent ⊢
    exact lent.imp (Or.imp (fun h => (items.filterMap _).subset h) fun h => marks.subset h)
      fun h => armed.subset h
  have fewer : ∀ q, endings { s with queue, timers, marking, calls } q ≤ s.endings q := fun q =>
    Nat.add_le_add (Nat.add_le_add (items.count_le _) (marks.count_le _)) (stands.count_le _)
  refine { t with
    live := ?live, lent := ?lent, last := ?last, once := ?once, ended := ?ended,
    starts := ?starts, startOnce := ?startOnce, timed := ?timed, early := ?early, held := ?held,
    dropping := ?dropping, stack := ?stack, quiet := ?quiet, shutting := ?shutting,
    clocks := ?clocks, aborts := ?aborts, marks := ?marks }
  case live =>
      intro q referred
      apply t.live q
      rw [mem_references] at referred ⊢
      refine referred.imp id (Or.imp ?_ ?_)
      · rintro ⟨call, listed, same⟩
        exact ⟨call, stands.subset listed, same⟩
      · exact fun queued => items.subset queued
  case lent => exact fun loops q lent => t.lent loops q (borrowed q lent)
  case last => exact t.last.sublist items
  case once => exact fun q => (fewer q).trans (t.once q)
  case ended =>
      intro loops q some
      have ended := t.ended loops q (lt_of_lt_of_le some (fewer q))
      exact ⟨ended.1, fun held => ended.2 (armed.subset held)⟩
  case starts => exact fun loops q queued => t.starts loops q (items.subset queued)
  case startOnce => exact t.startOnce.sublist items
  case timed => exact fun loops q held => t.timed loops q (armed.subset held)
  case clocks => exact fun q timed => t.clocks q (armed.subset timed)
  case marks => exact fun loops q listed => t.marks loops q (stands.subset listed)
  case early =>
      intro call listed unsent
      obtain ⟨unlent, rest⟩ := t.early call (stands.subset listed) unsent
      exact ⟨fun lent => unlent (borrowed _ lent), rest⟩
  case aborts => exact fun q queued => t.aborts q (items.subset queued)
  case held =>
      exact fun q queued call listed => t.held q (items.subset queued) call (stands.subset listed)
  case dropping => exact fun q listed => t.dropping q (stands.subset listed)
  case stack => exact fun call listed => t.stack call (stands.tail.subset listed)
  case quiet =>
      intro shut
      exact List.sublist_nil.mp (t.quiet shut ▸ stands)
  case shutting => exact fun queued => t.shutting (items.subset queued)

/-- What no `shared_ptr` refers to goes. -/
theorem Sound.collect (t : Sound s) : Sound s.collect := by
  have fewer : ∀ q d, s.collect.read q = some d → s.read q = some d := by
    intro q d found
    obtain ⟨there, kind, serial⟩ := read_eq_some.mp found
    simp only [Controller.collect] at there
    split at there
    · exact read_eq_some.mpr ⟨there, kind, serial⟩
    · cases there
  have same : ∀ q ∈ s.references, s.collect.read q = s.read q := by
    intro q referred
    have kept : s.references.any (·.address == q.address) = true :=
      List.any_eq_true.mpr ⟨q, referred, beq_self_eq_true _⟩
    simp only [read, Controller.collect, kept, if_true]
  have slot : ∀ q kind, q ∈ s.slots kind → s.collect.read q = s.read q :=
    fun q kind kept => same q (mem_references.mpr (.inl ⟨kind, kept⟩))
  have call : ∀ call ∈ s.calls, s.collect.read call.context = s.read call.context :=
    fun call stands => same _ (mem_references.mpr (.inr (.inl ⟨call, stands, rfl⟩)))
  have lent : s.looping = true → ∀ q ∈ s.borrowed, s.collect.read q = s.read q :=
    fun loops q held => slot q _ (t.lent loops q held)
  refine { t with
    live := ?live, fresh := ?fresh, owned := ?owned, ended := ?ended, starts := ?starts,
    timed := ?timed, early := ?early }
  case live =>
      intro q referred
      rw [same q referred]
      exact t.live q referred
  case fresh =>
      intro address d there
      simp only [Controller.collect] at there
      split at there
      · exact t.fresh address d there
      · cases there
  case owned => exact fun loops q d found undone => t.owned loops q d (fewer q d found) undone
  case ended =>
      intro loops q stands
      obtain ⟨done, untimed⟩ := t.ended loops q stands
      refine ⟨?_, untimed⟩
      rw [isDone] at done ⊢
      have known : s.collect.read q = s.read q := by
        change 0 < s.endings q at stands
        rcases endings_pos.mp stands with queued | marked | called
        · exact lent loops q (mem_borrowed.mpr (.inl ⟨_, queued, rfl⟩))
        · exact lent loops q (mem_borrowed.mpr (.inr (.inl marked)))
        · exact call _ called
      rw [known]
      exact done
  case starts =>
      intro loops q queued
      obtain ⟨d, there, unstarted⟩ := t.starts loops q queued
      have known := lent loops q (mem_borrowed.mpr (.inl ⟨_, queued, rfl⟩))
      exact ⟨d, known.trans there, unstarted⟩
  case timed =>
      intro loops q held
      obtain ⟨d, there, started⟩ := t.timed loops q held
      exact ⟨d, (lent loops q (mem_borrowed.mpr (.inr (.inr held)))).trans there, started⟩
  case early =>
      intro called stands unsent
      obtain ⟨unlent, d, there, rest⟩ := t.early called stands unsent
      exact ⟨unlent, d, (call called stands).trans there, rest⟩

/-- An address is queued for a context that is in its slot and has no reap behind it. -/
theorem Sound.enqueue (t : Sound s) {work : Work} (raw : work.raw = some p)
    (kept : s.looping = true → p ∈ s.slots p.kind) (unended : s.endings p = 0)
    (sent : ∀ call ∈ s.calls, call.context = p → call.unsent = false)
    (starting : work = .start p → .start p ∉ s.queue ∧
      ∃ c, s.read p = some c ∧ c.started = false)
    (reaping : work = .reap p → s.looping = true → s.isDone p = true ∧ p ∉ s.timers) :
    Sound (s.scheduleWork work true) := by
  have known : ∀ q, (s.scheduleWork work true).read q = s.read q := fun _ => rfl
  have borrowed : ∀ q, q ∈ (s.scheduleWork work true).borrowed ↔ q ∈ s.borrowed ∨ q = p := by
    intro q
    simp only [mem_borrowed, scheduleWork, if_true, List.mem_append, List.mem_singleton]
    constructor
    · rintro (⟨work', queued | rfl, holds⟩ | held)
      · exact .inl (.inl ⟨work', queued, holds⟩)
      · exact .inr (Option.some.inj (holds.symm.trans raw))
      · exact .inl (.inr held)
    · rintro ((⟨work', queued, holds⟩ | held) | rfl)
      · exact .inl ⟨work', .inl queued, holds⟩
      · exact .inr held
      · exact .inl ⟨work, .inr rfl, raw⟩
  have more : ∀ q, (s.scheduleWork work true).endings q =
      s.endings q + if work = .reap q then 1 else 0 := by
    intro q
    simp only [endings, scheduleWork, if_true, List.count_append, List.count_singleton, beq_iff_eq]
    omega
  have named : ∀ {q}, work = .reap q ∨ work = .start q → q = p := by
    rintro q (rfl | rfl) <;> exact Option.some.inj raw
  refine { t with
    live := ?live, lent := ?lent, last := ?last, once := ?once, ended := ?ended,
    starts := ?starts, startOnce := ?startOnce, early := ?early, held := ?held,
    shutting := ?shutting, aborts := ?aborts }
  case live =>
      intro q referred
      apply t.live q
      rw [mem_references] at referred ⊢
      refine referred.imp id (Or.imp id fun queued => ?_)
      rcases List.mem_append.mp queued with before | last
      · exact before
      · rw [List.mem_singleton] at last
        rw [← last] at raw
        cases raw
  case lent =>
      intro loops q lent
      rcases (borrowed q).mp lent with before | rfl
      · exact t.lent loops q before
      · exact kept loops
  case last =>
      refine List.pairwise_append.mpr ⟨t.last, List.pairwise_singleton _ _, ?_⟩
      rintro before queued later last q rfl holds
      rw [List.mem_singleton.mp last, raw] at holds
      cases holds
      have some := endings_pos.mpr (.inl queued)
      omega
  case once =>
      intro q
      rw [more]
      split
      · rename_i same
        rw [named (.inl same), unended]
      · exact t.once q
  case ended =>
      intro loops q stands
      rw [more] at stands
      split at stands
      · rename_i same
        have named := named (.inl same)
        subst named
        exact reaping same loops
      · exact t.ended loops q (by omega)
  case starts =>
      intro loops q queued
      rcases List.mem_append.mp queued with before | last
      · exact t.starts loops q before
      · rw [List.mem_singleton] at last
        have named := named (.inr last.symm)
        subst named
        exact (starting last.symm).2
  case startOnce =>
      refine List.pairwise_append.mpr ⟨t.startOnce, List.pairwise_singleton _ _, ?_⟩
      rintro before queued later last q rfl again
      rw [List.mem_singleton.mp last] at again
      have named := named (.inr again)
      subst named
      exact (starting again).1 queued
  case early =>
      intro call stands unsent
      obtain ⟨unlent, rest⟩ := t.early call stands unsent
      refine ⟨fun lent => ?_, rest⟩
      rcases (borrowed _).mp lent with before | same
      · exact unlent before
      · rw [sent call stands same] at unsent
        cases unsent
  case aborts =>
      intro q queued
      rcases List.mem_append.mp queued with before | last
      · exact t.aborts q before
      · rw [← List.mem_singleton.mp last] at raw
        cases raw
  case held =>
      intro q queued
      rcases List.mem_append.mp queued with before | last
      · exact t.held q before
      · rw [← List.mem_singleton.mp last] at raw
        cases raw
  case shutting =>
      intro queued
      rcases List.mem_append.mp queued with before | last
      · exact t.shutting before
      · rw [← List.mem_singleton.mp last] at raw
        cases raw

/-- Work that holds no bare address. -/
theorem Sound.hold (t : Sound s) {work : Work} (raw : work.raw = none)
    (live : ∀ q, work.holder = some q → (s.read q).isSome)
    (sent : ∀ q, work.holder = some q → ∀ call ∈ s.calls, call.context = q → call.unsent = false)
    (kind : ∀ q, work.holder = some q → q.kind ≠ .subscription)
    (shutting : work = .shutdown → s.closing ≠ .open) : Sound (s.scheduleWork work true) := by
  have borrowed : ∀ q, q ∈ (s.scheduleWork work true).borrowed ↔ q ∈ s.borrowed := by
    intro q
    simp only [mem_borrowed, scheduleWork, if_true, List.mem_append, List.mem_singleton]
    constructor
    · rintro (⟨work', queued | rfl, holds⟩ | held)
      · exact .inl ⟨work', queued, holds⟩
      · rw [raw] at holds
        cases holds
      · exact .inr held
    · rintro (⟨work', queued, holds⟩ | held)
      · exact .inl ⟨work', .inl queued, holds⟩
      · exact .inr held
  have bare : ∀ {q}, work ≠ .reap q ∧ work ≠ .start q := by
    intro q
    constructor <;> rintro rfl <;> cases raw
  have same : ∀ q, (s.scheduleWork work true).endings q = s.endings q := by
    intro q
    simp [endings, scheduleWork, bare.1]
  refine { t with
    live := ?live, lent := ?lent, last := ?last, once := ?once, ended := ?ended,
    starts := ?starts, startOnce := ?startOnce, early := ?early, held := ?held,
    shutting := ?shutting, aborts := ?aborts }
  case live =>
      intro q referred
      rw [mem_references] at referred
      rcases referred with kept | called | queued
      · exact t.live q (mem_references.mpr (.inl kept))
      · exact t.live q (mem_references.mpr (.inr (.inl called)))
      · rcases List.mem_append.mp queued with before | last
        · exact t.live q (mem_references.mpr (.inr (.inr before)))
        · exact live q (by rw [← List.mem_singleton.mp last]; rfl)
  case lent => exact fun loops q lent => t.lent loops q ((borrowed q).mp lent)
  case last =>
      refine List.pairwise_append.mpr ⟨t.last, List.pairwise_singleton _ _, ?_⟩
      intro before queued later last q reaps holds
      rw [List.mem_singleton.mp last, raw] at holds
      cases holds
  case once => exact fun q => (same q).trans_le (t.once q)
  case ended => exact fun loops q stands => t.ended loops q (by rwa [same] at stands)
  case starts =>
      intro loops q queued
      rcases List.mem_append.mp queued with before | last
      · exact t.starts loops q before
      · exact absurd (List.mem_singleton.mp last).symm bare.2
  case startOnce =>
      refine List.pairwise_append.mpr ⟨t.startOnce, List.pairwise_singleton _ _, ?_⟩
      intro before queued later last q starts again
      exact bare.2 ((List.mem_singleton.mp last).symm.trans again)
  case early =>
      intro call stands unsent
      obtain ⟨unlent, rest⟩ := t.early call stands unsent
      exact ⟨fun lent => unlent ((borrowed _).mp lent), rest⟩
  case aborts =>
      intro q queued
      rcases List.mem_append.mp queued with before | last
      · exact t.aborts q before
      · exact kind q (by rw [← List.mem_singleton.mp last]; rfl)
  case held =>
      intro q queued
      rcases List.mem_append.mp queued with before | last
      · exact t.held q before
      · exact sent q (by rw [← List.mem_singleton.mp last]; rfl)
  case shutting =>
      intro queued
      rcases List.mem_append.mp queued with before | last
      · exact t.shutting before
      · exact shutting (List.mem_singleton.mp last).symm

/-- Only the calls change, with no new context among them. -/
theorem Sound.recalled (t : Sound s) {calls : List Call}
    (listed : ∀ call ∈ calls, ∃ before ∈ s.calls, before.context = call.context ∧
      (call.unsent = true → before.unsent = true) ∧
      (call.point = .admitted → before.point = .admitted))
    (marked : ∀ q, calls.count { context := q, point := .marked } ≤
      s.calls.count { context := q, point := .marked })
    (dropping : ∀ q, { context := q, point := .dropping } ∈ calls → q.kind = .interaction)
    (stack : ∀ call ∈ calls.tail, call.point.resting = true) : Sound { s with calls } := by
  have fewer : ∀ q, endings { s with calls } q ≤ s.endings q :=
    fun q => Nat.add_le_add (Nat.le_refl _) (marked q)
  refine { t with
    live := ?live, once := ?once, ended := ?ended, early := ?early, held := ?held,
    dropping := ?dropping, stack := ?stack, quiet := ?quiet, marks := ?marks }
  case live =>
      intro q referred
      rw [mem_references] at referred
      rcases referred with kept | ⟨call, stands, rfl⟩ | queued
      · exact t.live q (mem_references.mpr (.inl kept))
      · obtain ⟨before, stood, same, -⟩ := listed call stands
        exact t.live _ (mem_references.mpr (.inr (.inl ⟨before, stood, same⟩)))
      · exact t.live q (mem_references.mpr (.inr (.inr queued)))
  case once => exact fun q => (fewer q).trans (t.once q)
  case ended => exact fun loops q stands => t.ended loops q (lt_of_lt_of_le stands (fewer q))
  case marks =>
      intro loops q listed
      have some := List.count_pos_iff.mpr listed
      exact t.marks loops q (List.count_pos_iff.mp (lt_of_lt_of_le some (marked q)))
  case early =>
      intro call stands unsent
      obtain ⟨before, stood, same, unsent', admitted⟩ := listed call stands
      obtain ⟨unlent, d, there, unstarted, undone⟩ := t.early before stood (unsent' unsent)
      rw [same] at unlent there
      exact ⟨unlent, d, there, unstarted, fun here => undone (admitted here)⟩
  case held =>
      intro q queued call stands same
      obtain ⟨before, stood, same', unsent, -⟩ := listed call stands
      exact Bool.eq_false_iff.mpr fun open' =>
        Bool.eq_false_iff.mp (t.held q queued before stood (same'.trans same)) (unsent open')
  case dropping => exact dropping
  case stack => exact stack
  case quiet =>
      intro shut
      have none := t.quiet shut
      by_contra some
      obtain ⟨call, stands⟩ := List.exists_mem_of_ne_nil _ some
      obtain ⟨before, stood, -⟩ := listed call stands
      simp [none] at stood

/-- The innermost call moves to a point other than `marked`. -/
theorem Sound.goTo (t : Sound s) {from' : CallPoint} (stands : s.callAt from' = some p)
    (point : CallPoint) (unmarked : point ≠ .marked) (unadmitted : point ≠ .admitted)
    (unsent : ({ context := p, point } : Call).unsent = true →
      ({ context := p, point := from' } : Call).unsent = true)
    (dropping : point = .dropping → p.kind = .interaction) : Sound (s.goTo point) := by
  unfold callAt at stands
  unfold Controller.goTo
  cases calls : s.calls with
  | nil => exact t
  | cons call rest =>
      simp only [calls] at stands
      split at stands
      · rename_i here
        cases stands
        apply t.recalled
        · intro called listed
          rw [calls]
          rcases List.mem_cons.mp listed with rfl | later
          · refine ⟨call, List.mem_cons_self, rfl, ?_, fun absurd' => absurd absurd' unadmitted⟩
            intro unsent'
            have before := unsent unsent'
            rwa [← here] at before
          · exact ⟨called, List.mem_cons_of_mem _ later, rfl, id, id⟩
        · intro q
          rw [calls, List.count_cons, List.count_cons]
          have : ({ context := call.context, point } : Call) ≠ { context := q, point := .marked } :=
            fun same => unmarked (congrArg Call.point same)
          simp [this]
        · intro q listed
          rcases List.mem_cons.mp listed with same | later
          · cases same
            exact dropping rfl
          · exact t.dropping q (calls ▸ List.mem_cons_of_mem _ later)
        · have stack := t.stack
          rw [calls] at stack
          exact stack
      · cases stands

/-- The innermost call returns. -/
theorem Sound.leave (t : Sound s) : Sound s.leave :=
  (t.shrink (List.Sublist.refl _) (List.Sublist.refl _) (List.Sublist.refl _)
    (List.tail_sublist _)).collect

/-- The innermost call has set `done_` in `MarkDone`. -/
theorem Sound.goToMarked (t : Sound s) {from' : CallPoint} (stands : s.callAt from' = some p)
    (kept : s.looping = true → p ∈ s.slots p.kind) (unended : s.endings p = 0)
    (ends : s.looping = true → s.isDone p = true ∧ p ∉ s.timers) : Sound (s.goTo .marked) := by
  unfold callAt at stands
  unfold Controller.goTo
  cases calls : s.calls with
  | nil => exact t
  | cons call rest =>
      simp only [calls] at stands
      split at stands
      · cases stands
        change Sound { s with calls := { call with point := .marked } :: rest }
        have more : ∀ q, endings { s with calls := { call with point := .marked } :: rest } q ≤
            s.endings q + if call.context = q then 1 else 0 := by
          intro q
          simp only [endings, calls, List.count_cons, beq_iff_eq, Call.mk.injEq, and_true]
          omega
        refine { t with
          live := ?live, once := ?once, ended := ?ended, early := ?early, held := ?held,
          dropping := ?dropping, stack := ?stack, quiet := ?quiet, marks := ?marks }
        case live =>
            intro q referred
            apply t.live q
            rw [mem_references] at referred ⊢
            refine referred.imp id (Or.imp ?_ id)
            rintro ⟨called, listed, rfl⟩
            rcases List.mem_cons.mp listed with rfl | later
            · exact ⟨call, calls ▸ List.mem_cons_self, rfl⟩
            · exact ⟨called, calls ▸ List.mem_cons_of_mem _ later, rfl⟩
        case once =>
            intro q
            have more := more q
            split at more
            · rename_i same
              subst same
              omega
            · exact more.trans (t.once q)
        case ended =>
            intro loops q some
            have more := more q
            split at more
            · rename_i same
              subst same
              exact ends loops
            · exact t.ended loops q (by omega)
        case marks =>
            intro loops q listed
            rcases List.mem_cons.mp listed with same | later
            · cases same
              exact kept loops
            · exact t.marks loops q (calls ▸ List.mem_cons_of_mem _ later)
        case early =>
            intro called listed unsent
            rcases List.mem_cons.mp listed with rfl | later
            · simp [Call.unsent] at unsent
            · exact t.early called (calls ▸ List.mem_cons_of_mem _ later) unsent
        case held =>
            intro q queued called listed same
            rcases List.mem_cons.mp listed with rfl | later
            · simp [Call.unsent]
            · exact t.held q queued called (calls ▸ List.mem_cons_of_mem _ later) same
        case dropping =>
            intro q listed
            rcases List.mem_cons.mp listed with same | later
            · cases same
            · exact t.dropping q (calls ▸ List.mem_cons_of_mem _ later)
        case stack =>
            have stack := t.stack
            rw [calls] at stack
            exact stack
        case quiet =>
            intro shut
            have none := t.quiet shut
            simp [calls] at none
      · cases stands

/-- The SDK thread has set `done_` in `MarkDone`. -/
theorem Sound.mark (t : Sound s) (kept : p ∈ s.slots p.kind) (unended : s.endings p = 0)
    (done : s.isDone p = true) (untimed : p ∉ s.timers)
    (sent : ∀ call ∈ s.calls, call.context = p → call.unsent = false) :
    Sound { s with marking := s.marking ++ [p] } := by
  have borrowed : ∀ q, q ∈ borrowed { s with marking := s.marking ++ [p] } ↔
      q ∈ s.borrowed ∨ q = p := by
    intro q
    simp only [mem_borrowed, List.mem_append, List.mem_singleton]
    constructor
    · rintro (queued | (marked | rfl) | held)
      exacts [.inl (.inl queued), .inl (.inr (.inl marked)), .inr rfl, .inl (.inr (.inr held))]
    · rintro ((queued | marked | held) | rfl)
      exacts [.inl queued, .inr (.inl (.inl marked)), .inr (.inr held), .inr (.inl (.inr rfl))]
  have more : ∀ q, endings { s with marking := s.marking ++ [p] } q =
      s.endings q + if p = q then 1 else 0 := by
    intro q
    simp only [endings, List.count_append, List.count_singleton, beq_iff_eq]
    omega
  refine { t with lent := ?lent, once := ?once, ended := ?ended, early := ?early }
  case lent =>
      intro loops q lent
      rcases (borrowed q).mp lent with before | rfl
      · exact t.lent loops q before
      · exact kept
  case once =>
      intro q
      rw [more]
      split
      · rename_i same
        rw [← same, unended]
      · exact t.once q
  case ended =>
      intro loops q stands
      rw [more] at stands
      split at stands
      · rename_i same
        subst same
        exact ⟨done, untimed⟩
      · exact t.ended loops q stands
  case early =>
      intro call stands unsent
      obtain ⟨unlent, rest⟩ := t.early call stands unsent
      refine ⟨fun lent => ?_, rest⟩
      rcases (borrowed _).mp lent with before | same
      · exact unlent before
      · rw [sent call stands same] at unsent
        cases unsent

/-- `Reap` takes a done context out of its slot, once the SDK thread has let go of it. -/
theorem Sound.reap (t : Sound s) (found : s.read p = some c)
    (unlent : s.looping = true → p ∉ s.borrowed)
    (unmarked : { context := p, point := .marked } ∉ s.calls) : Sound (s.reap p) := by
  have slots : ∀ kind q, q ∈ (s.reap p).slots kind ↔ q ∈ s.slots kind ∧
      (kind = p.kind → q.address ≠ p.address ∨ s.isDone q = false) := by
    intro kind q
    have done : ((s.read q).all fun c => !c.done) = !s.isDone q := by
      rw [isDone]
      cases s.read q <;> simp
    simp only [Controller.reap]
    by_cases same : kind = p.kind
    · subst same
      simp [done]
    · simp [same]
  refine { t with
    live := ?live, kinds := ?kinds, owned := ?owned, lent := ?lent, marks := ?marks }
  case live =>
      intro q referred
      apply t.live q
      rw [mem_references] at referred ⊢
      refine referred.imp ?_ id
      rintro ⟨kind, kept⟩
      exact ⟨kind, ((slots kind q).mp kept).1⟩
  case kinds => exact fun kind q kept => t.kinds kind q ((slots kind q).mp kept).1
  case owned =>
      intro loops q d found' undone
      change s.read q = some d at found'
      refine (slots _ _).mpr ⟨t.owned loops q d found' undone, fun _ => .inr ?_⟩
      simp [isDone, found', undone]
  case marks =>
      intro loops q listed
      have kept := t.marks loops q listed
      refine (slots _ _).mpr ⟨kept, fun _ => .inl fun same => ?_⟩
      obtain ⟨d, found'⟩ := t.of_slot kept
      have other := pointer_unique found found' same
      subst other
      exact unmarked listed
  case lent =>
      intro loops q lent
      have kept := t.lent loops q lent
      refine (slots _ _).mpr ⟨kept, fun _ => .inl fun same => ?_⟩
      obtain ⟨d, found'⟩ := t.of_slot kept
      have other := pointer_unique found found' same
      subst other
      exact unlent loops lent

/-- `StartTimer` for a live subscription. -/
theorem Sound.arm (t : Sound s) (found : s.read p = some c) (kept : p ∈ s.slots p.kind)
    (started : c.started = true) (kind : p.kind = .subscription) (unended : s.endings p = 0)
    (sent : ∀ call ∈ s.calls, call.context = p → call.unsent = false) :
    Sound { s with timers := p :: s.timers.filter (· != p) } := by
  have timers : ∀ q, q ∈ p :: s.timers.filter (· != p) ↔ q ∈ s.timers ∨ q = p := by
    intro q
    by_cases same : q = p <;> simp [same]
  have borrowed : ∀ q, q ∈ borrowed { s with timers := p :: s.timers.filter (· != p) } ↔
      q ∈ s.borrowed ∨ q = p := by
    intro q
    simp only [mem_borrowed, timers, or_assoc]
  refine { t with
    lent := ?lent, ended := ?ended, timed := ?timed, early := ?early, clocks := ?clocks }
  case lent =>
      intro loops q lent
      rcases (borrowed q).mp lent with before | rfl
      · exact t.lent loops q before
      · exact kept
  case ended =>
      intro loops q stands
      change 0 < s.endings q at stands
      obtain ⟨done, untimed⟩ := t.ended loops q stands
      refine ⟨done, fun timed => ?_⟩
      rcases (timers q).mp timed with before | rfl
      · exact untimed before
      · omega
  case timed =>
      intro loops q timed
      rcases (timers q).mp timed with before | rfl
      · exact t.timed loops q before
      · exact ⟨c, found, started⟩
  case clocks =>
      intro q timed
      rcases (timers q).mp timed with before | rfl
      · exact t.clocks q before
      · exact kind
  case early =>
      intro call stands unsent
      obtain ⟨unlent, rest⟩ := t.early call stands unsent
      refine ⟨fun lent => ?_, rest⟩
      rcases (borrowed _).mp lent with before | same
      · exact unlent before
      · rw [sent call stands same] at unsent
        cases unsent

end Operations

/-! ## The functions of the source -/

section Functions

variable {s : Controller} {p : Pointer} {c : Context}

theorem Sound.sent_of_lent (t : Sound s) (lent : p ∈ s.borrowed) :
    ∀ call ∈ s.calls, call.context = p → call.unsent = false := by
  rintro call stands rfl
  exact Bool.eq_false_iff.mpr fun unsent => (t.early call stands unsent).1 lent

theorem Sound.sent_of_started (t : Sound s) (found : s.read p = some c)
    (started : c.started = true) : ∀ call ∈ s.calls, call.context = p → call.unsent = false := by
  rintro call stands rfl
  refine Bool.eq_false_iff.mpr fun unsent => ?_
  obtain ⟨-, d, there, unstarted, -⟩ := t.early call stands unsent
  rw [found, Option.some.injEq] at there
  subst there
  rw [started] at unstarted
  cases unstarted

/-- What is not done has no reap under way. -/
theorem Sound.unended (t : Sound s) (loops : s.looping = true) (found : s.read p = some c)
    (undone : c.done = false) : s.endings p = 0 := by
  by_contra some
  have done := (t.ended loops p (Nat.pos_of_ne_zero some)).1
  simp [isDone, found, undone] at done

theorem Sound.finishes (t : Sound s) (found : s.read p = some c)
    (sent : ∀ call ∈ s.calls, call.context = p → call.unsent = false)
    {f : Context → Context} (kind : (f c).kind = c.kind) (serial : (f c).serial = c.serial)
    (started : (f c).started = c.started) (done : c.done = true → (f c).done = true) :
    Sound (s.modify p f) := by
  refine t.modify found kind serial done (fun was => started.trans was)
    (fun _ was => started.trans was) ?_
  intro call stands same unsent
  rw [sent call stands same] at unsent
  cases unsent

theorem Sound.sdkMarkDone (t : Sound s) (loops : s.looping = true) (found : s.read p = some c)
    (untimed : p ∉ s.timers) (sent : ∀ call ∈ s.calls, call.context = p → call.unsent = false) :
    Sound (s.sdkMarkDone p) := by
  simp only [Controller.sdkMarkDone, markDone, found]
  by_cases done : c.done = true
  · simpa only [done, if_true] using t
  · rw [Bool.not_eq_true] at done
    simp only [done, Bool.false_eq_true, if_false]
    have marked := t.finishes (f := fun c => { c with done := true }) found sent rfl rfl rfl
      fun _ => rfl
    apply marked.mark
    · simpa using t.owned loops p c found done
    · simpa using t.unended loops found done
    · rw [isDone, read_modify (c := c) found rfl rfl]
      simp
    · simpa using untimed
    · simpa using sent

theorem Sound.scheduleCancel (t : Sound s) (loops : s.looping = true) (found : s.read p = some c)
    (sent : ∀ call ∈ s.calls, call.context = p → call.unsent = false) (accepted : Bool) :
    Sound (s.scheduleCancel p accepted) := by
  simp only [Controller.scheduleCancel, found]
  by_cases idle : (c.cancelScheduled || c.done) = true
  · simpa only [idle, if_true] using t
  · rw [Bool.not_eq_true] at idle
    have undone : c.done = false := (Bool.or_eq_false_iff.mp idle).2
    simp only [idle, Bool.false_eq_true, if_false]
    cases accepted with
    | true =>
        simp only [if_true]
        have flagged := t.annotate (f := fun c => { c with cancelScheduled := true }) found
          rfl rfl rfl rfl
        apply flagged.enqueue (p := p) rfl
        · exact fun _ => by simpa using t.owned loops p c found undone
        · simpa using t.unended loops found undone
        · simpa using sent
        · exact fun starts => nomatch starts
        · exact fun reaps => nomatch reaps
    | false =>
        simp only [Bool.false_eq_true, if_false]
        exact t.finishes found sent rfl rfl rfl fun _ => rfl

theorem Sound.failActive (t : Sound s) (loops : s.looping = true) (found : s.read p = some c)
    (sent : ∀ call ∈ s.calls, call.context = p → call.unsent = false) (accepted : Bool) :
    Sound (s.failActive p accepted) := by
  simp only [Controller.failActive, found]
  split
  · exact t
  · have flagged := t.annotate (f := fun c => { c with failureEmitted := true, published := true })
      found rfl rfl rfl rfl
    have found' : (s.modify p fun c => { c with failureEmitted := true, published := true }).read p =
        some { c with failureEmitted := true, published := true } := by
      rw [read_modify (c := c) found rfl rfl, if_pos rfl]
    exact flagged.scheduleCancel (by simpa using loops) found' (by simpa using sent) accepted

theorem Sound.cancelRecoveryTimer (t : Sound s) : Sound (s.cancelRecoveryTimer p) :=
  t.shrink (List.Sublist.refl _) List.filter_sublist (List.Sublist.refl _) (List.Sublist.refl _)

theorem not_mem_cancelRecoveryTimer : p ∉ (s.cancelRecoveryTimer p).timers := by
  simp [Controller.cancelRecoveryTimer]

theorem Sound.cancelOnSdkThread (t : Sound s) (loops : s.looping = true)
    (found : s.read p = some c)
    (sent : ∀ call ∈ s.calls, call.context = p → call.unsent = false) :
    Sound (s.cancelOnSdkThread p) := by
  have flagged := t.annotate (f := fun c => { c with cancelled := true }) found rfl rfl rfl rfl
  have found' : ((s.modify p fun c => { c with cancelled := true }).cancelRecoveryTimer p).read p =
      some { c with cancelled := true } := by
    have written : (s.modify p fun c => { c with cancelled := true }).read p =
        some { c with cancelled := true } := by
      rw [read_modify (c := c) found rfl rfl, if_pos rfl]
    exact written
  refine flagged.cancelRecoveryTimer.sdkMarkDone ?_ found' not_mem_cancelRecoveryTimer ?_
  · simpa [Controller.cancelRecoveryTimer] using loops
  · simpa [Controller.cancelRecoveryTimer] using sent

/-- `Publish`, then the first block of `MarkDone`. -/
theorem Sound.publishDone (t : Sound s) (loops : s.looping = true) (found : s.read p = some c)
    (untimed : p ∉ s.timers) (sent : ∀ call ∈ s.calls, call.context = p → call.unsent = false) :
    Sound ((s.publish p).sdkMarkDone p) := by
  have found' : (s.publish p).read p = some { c with published := true } := by
    rw [Controller.publish, read_modify (c := c) found rfl rfl, if_pos rfl]
  refine (t.publish found).sdkMarkDone ?_ found' ?_ ?_
  · simpa [Controller.publish] using loops
  · simpa [Controller.publish] using untimed
  · simpa [Controller.publish] using sent

/-- What the SDK thread's operations on a context leave alone. -/
structure Framed (s s' : Controller) : Prop where
  slots : s'.slots = s.slots
  queue : s'.queue = s.queue
  calls : s'.calls = s.calls
  looping : s'.looping = s.looping
  closing : s'.closing = s.closing
  releasing : s'.releasing = s.releasing

theorem framed_modify {f : Context → Context} : Framed s (s.modify p f) := by
  constructor <;> simp

theorem Framed.trans {s' s'' : Controller} (first : Framed s s') (second : Framed s' s'') :
    Framed s s'' :=
  ⟨second.slots.trans first.slots, second.queue.trans first.queue, second.calls.trans first.calls,
    second.looping.trans first.looping, second.closing.trans first.closing,
    second.releasing.trans first.releasing⟩

theorem framed_sdkMarkDone : Framed s (s.sdkMarkDone p) := by
  unfold Controller.sdkMarkDone markDone
  cases s.read p with
  | none => exact ⟨rfl, rfl, rfl, rfl, rfl, rfl⟩
  | some c =>
      by_cases done : c.done = true
      · simp only [done, if_true]
        exact ⟨rfl, rfl, rfl, rfl, rfl, rfl⟩
      · simp only [done, Bool.false_eq_true, if_false]
        constructor <;> simp

theorem framed_cancelOnSdkThread : Framed s (s.cancelOnSdkThread p) := by
  have flagged : Framed s (s.modify p fun c => { c with cancelled := true }) := framed_modify
  have stopped : Framed s ((s.modify p fun c => { c with cancelled := true }).cancelRecoveryTimer p) :=
    flagged.trans ⟨rfl, rfl, rfl, rfl, rfl, rfl⟩
  exact stopped.trans framed_sdkMarkDone

theorem framed_abortInteraction : Framed s (s.abortInteraction p) :=
  framed_modify.trans framed_modify

theorem framed_abortOnSdkThread : Framed s (s.abortOnSdkThread p) :=
  framed_modify.trans framed_sdkMarkDone

theorem Sound.abortInteraction (t : Sound s) (found : s.read p = some c)
    (sent : ∀ call ∈ s.calls, call.context = p → call.unsent = false) :
    Sound (s.abortInteraction p) := by
  have found' : (s.publish p).read p = some { c with published := true } := by
    rw [Controller.publish, read_modify (c := c) found rfl rfl, if_pos rfl]
  refine (t.publish found).finishes found' ?_ rfl rfl rfl fun _ => rfl
  simpa [Controller.publish] using sent

theorem Sound.abortOnSdkThread (t : Sound s) (loops : s.looping = true)
    (found : s.read p = some c) (kind : p.kind ≠ .subscription)
    (sent : ∀ call ∈ s.calls, call.context = p → call.unsent = false) :
    Sound (s.abortOnSdkThread p) :=
  t.publishDone loops found (fun timed => kind (t.clocks p timed)) sent

/-- One operation after another, on contexts in their slots, with no call under way. -/
theorem Sound.fold {op : Controller → Pointer → Controller}
    (framed : ∀ s p, Framed s (op s p)) (t : Sound s) (loops : s.looping = true)
    (none : s.calls = []) (contexts : List Pointer)
    (each : ∀ p ∈ contexts, ∀ s c, Sound s → s.looping = true → s.calls = [] →
      s.read p = some c → Sound (op s p))
    (kept : ∀ p ∈ contexts, p ∈ s.slots p.kind) :
    Sound (contexts.foldl op s) ∧ Framed s (contexts.foldl op s) := by
  induction contexts generalizing s with
  | nil => exact ⟨t, rfl, rfl, rfl, rfl, rfl, rfl⟩
  | cons p rest ih =>
      have frame := framed s p
      obtain ⟨c, found⟩ := t.of_slot (kept p List.mem_cons_self)
      have next := ih (each p List.mem_cons_self s c t loops none found)
        (frame.looping.trans loops) (frame.calls.trans none)
        (fun q later => each q (List.mem_cons_of_mem _ later))
        (by rw [frame.slots]; exact fun q later => kept q (List.mem_cons_of_mem _ later))
      exact ⟨next.1, frame.trans next.2⟩

theorem Sound.shutdown (t : Sound s) (loops : s.looping = true) (none : s.calls = []) :
    Sound s.shutdown := by
  have sent : ∀ {s' : Controller} {q : Pointer}, s'.calls = [] →
      ∀ call ∈ s'.calls, call.context = q → call.unsent = false := by
    intro s' q none call stands
    rw [none] at stands
    cases stands
  have kinds : ∀ p ∈ s.slots .commissioning ++ s.slots .window,
      p.kind ≠ .subscription ∧ p ∈ s.slots p.kind := by
    intro p kept
    rcases List.mem_append.mp kept with kept | kept <;>
      exact ⟨by simp [t.kinds _ p kept], by rwa [t.kinds _ p kept]⟩
  obtain ⟨cancelled, frame⟩ := t.fold (fun _ _ => framed_cancelOnSdkThread) loops none
    (s.slots .subscription)
    (fun p _ s c t loops none found => t.cancelOnSdkThread loops found (sent none))
    (fun p kept => by rwa [t.kinds _ p kept])
  obtain ⟨dropped, frame'⟩ := cancelled.fold (fun _ _ => framed_abortInteraction)
    (frame.looping.trans loops) (frame.calls.trans none) (s.slots .interaction)
    (fun p _ s c t _ none found => t.abortInteraction found (sent none))
    (by rw [frame.slots]; exact fun p kept => by rwa [t.kinds _ p kept])
  have frame := frame.trans frame'
  obtain ⟨aborted, frame'⟩ := dropped.fold (fun _ _ => framed_abortOnSdkThread)
    (frame.looping.trans loops) (frame.calls.trans none)
    (s.slots .commissioning ++ s.slots .window)
    (fun p kept s c t loops none found =>
      t.abortOnSdkThread loops found (kinds p kept).1 (sent none))
    (by rw [frame.slots]; exact fun p kept => (kinds p kept).2)
  have quiet := (frame.trans frame').calls.trans none
  exact { aborted with
    quiet := fun _ => quiet
    loops := by simp [Controller.shutdown]
    halted := by simp [Controller.shutdown]
    shutting := by simp [Controller.shutdown] }

/-- A reap at the head of the queue is the last that the SDK thread knows of its context. -/
theorem Sound.reap_last (t : Sound s) (loops : s.looping = true) {rest : List Work}
    (queue : s.queue = .reap p :: rest) (unmarked : s.marking = []) :
    p ∉ borrowed { s with queue := rest } := by
  intro lent
  rcases mem_borrowed.mp lent with ⟨work, queued, holds⟩ | marked | timed
  · have last := t.last
    rw [queue] at last
    exact (List.pairwise_cons.mp last).1 work queued p rfl holds
  · change p ∈ s.marking at marked
    simp [unmarked] at marked
  · have queued : Work.reap p ∈ s.queue := queue ▸ List.mem_cons_self
    exact (t.ended loops p (endings_pos.mpr (.inl queued))).2 timed

/-- The reap at the head of the queue, up to the check for the session. -/
theorem Sound.reaped (t : Sound s) (loops : s.looping = true) {rest : List Work}
    (queue : s.queue = .reap p :: rest) (unmarked : s.marking = []) :
    ∃ c, s.read p = some c ∧ Sound (({ s with queue := rest }.reap p).collect) := by
  have queued : Work.reap p ∈ s.queue := queue ▸ List.mem_cons_self
  obtain ⟨c, found⟩ := t.of_slot (t.lent loops p (mem_borrowed.mpr (.inl ⟨_, queued, rfl⟩)))
  have popped : Sound { s with queue := rest } :=
    t.shrink (queue ▸ List.sublist_cons_self _ _) (List.Sublist.refl _) (List.Sublist.refl _)
      (List.Sublist.refl _)
  have unlent := fun (_ : s.looping = true) => t.reap_last loops queue unmarked
  refine ⟨c, found, (popped.reap found unlent fun marked => ?_).collect⟩
  have once := t.once p
  have called := List.count_pos_iff.mpr marked
  have first := List.count_pos_iff.mpr queued
  change 0 < s.calls.count _ at called
  unfold endings at once
  omega

theorem Sound.reapContext (t : Sound s) (loops : s.looping = true) {rest : List Work}
    (queue : s.queue = .reap p :: rest) (unmarked : s.marking = []) :
    Sound ({ s with queue := rest }.reapContext p) := by
  obtain ⟨c, found, reaped⟩ := t.reaped loops queue unmarked
  have found' : ({ s with queue := rest } : Controller).read p = some c := found
  simp only [Controller.reapContext, found', releaseUnusedSessionSetup]
  split
  · exact reaped
  · exact { reaped with }

theorem Sound.start (t : Sound s) (loops : s.looping = true) (found : s.read p = some c)
    (unstarted : c.started = false) (once : .start p ∉ s.queue)
    (sent : ∀ call ∈ s.calls, call.context = p → call.unsent = false) (fails : Bool) :
    Sound (s.start p fails) := by
  have begun : Sound (s.modify p fun c => { c with started := true }) := by
    refine t.modify found rfl rfl id (fun _ => rfl) (fun queued => absurd queued once) ?_
    intro call stands same unsent
    rw [sent call stands same] at unsent
    cases unsent
  have found' : (s.modify p fun c => { c with started := true }).read p =
      some { c with started := true } := by
    rw [read_modify (c := c) found rfl rfl, if_pos rfl]
  unfold Controller.start
  cases fails with
  | false => exact begun
  | true =>
      apply begun.publishDone (by simpa using loops) found'
      · intro timed
        rw [modify_timers] at timed
        obtain ⟨d, there, started⟩ := t.timed loops p timed
        rw [found, Option.some.injEq] at there
        subst there
        rw [unstarted] at started
        cases started
      · simpa using sent

/-- The SDK thread takes the item at the head of the queue. -/
theorem Sound.perform (t : Sound s) (idle : s.idle = true) {work : Work} {rest : List Work}
    (queue : s.queue = work :: rest) (fails : Bool) :
    Sound ({ s with queue := rest }.perform fails work) := by
  simp only [Controller.idle, Bool.and_eq_true, List.isEmpty_iff] at idle
  obtain ⟨⟨loops, unmarked⟩, -⟩ := idle
  have queued : work ∈ s.queue := queue ▸ List.mem_cons_self
  have popped : Sound { s with queue := rest } :=
    t.shrink (queue ▸ List.sublist_cons_self _ _) (List.Sublist.refl _) (List.Sublist.refl _)
      (List.Sublist.refl _)
  cases work with
  | start p =>
      obtain ⟨c, found, unstarted⟩ := t.starts loops p queued
      have sent := t.sent_of_lent (mem_borrowed.mpr (.inl ⟨_, queued, rfl⟩))
      refine popped.start loops found unstarted ?_ sent fails
      have once := t.startOnce
      rw [queue] at once
      exact fun again => (List.pairwise_cons.mp once).1 _ again p rfl rfl
  | reap p => exact t.reapContext loops queue unmarked
  | cancel p =>
      have lent : p ∈ s.borrowed := mem_borrowed.mpr (.inl ⟨_, queued, rfl⟩)
      obtain ⟨c, found⟩ := t.of_slot (t.lent loops p lent)
      exact popped.cancelOnSdkThread loops found (t.sent_of_lent lent)
  | abort p =>
      have live := t.live p (mem_references.mpr (.inr (.inr queued)))
      obtain ⟨c, found⟩ := Option.isSome_iff_exists.mp live
      have aborted := popped.abortOnSdkThread loops found (t.aborts p queued) (t.held p queued)
      exact aborted.collect
  | shutdown =>
      exact popped.shutdown loops (t.quiet (t.shutting queued))

theorem Sound.resting (t : Sound s) (pumping : s.pumping = true) :
    ∀ call ∈ s.calls, call.point.resting = true := by
  simp only [Controller.pumping, Bool.and_eq_true] at pumping
  intro call stands
  cases calls : s.calls with
  | nil =>
      rw [calls] at stands
      cases stands
  | cons first rest =>
      have stack := t.stack
      rw [calls] at stands stack pumping
      rcases List.mem_cons.mp stands with rfl | later
      · simpa using pumping.2
      · exact stack call later

theorem Sound.find (t : Sound s) (pumping : s.pumping = true) (kept : p ∈ s.slots .subscription) :
    Sound { s with calls := { context := p, point := .finding } :: s.calls } := by
  have open' : s.closing = .open := by
    simp only [Controller.pumping, Bool.and_eq_true, beq_iff_eq] at pumping
    exact pumping.1
  have same : ∀ q, endings { s with calls := { context := p, point := .finding } :: s.calls } q =
      s.endings q := by
    intro q
    simp [endings]
  refine { t with
    live := ?live, once := ?once, ended := ?ended, early := ?early, held := ?held,
    dropping := ?dropping, stack := ?stack, quiet := ?quiet, marks := ?marks }
  case live =>
      intro q referred
      rcases mem_references.mp referred with kept' | ⟨call, listed, rfl⟩ | queued
      · exact t.live q (mem_references.mpr (.inl kept'))
      · rcases List.mem_cons.mp listed with rfl | before
        · exact t.live p (mem_references.mpr (.inl ⟨_, kept⟩))
        · exact t.live _ (mem_references.mpr (.inr (.inl ⟨call, before, rfl⟩)))
      · exact t.live q (mem_references.mpr (.inr (.inr queued)))
  case once => exact fun q => (same q).trans_le (t.once q)
  case ended => exact fun loops q stands => t.ended loops q (by rwa [same] at stands)
  case marks =>
      intro loops q listed
      rcases List.mem_cons.mp listed with same | before
      · cases same
      · exact t.marks loops q before
  case early =>
      intro call listed unsent
      rcases List.mem_cons.mp listed with rfl | before
      · simp [Call.unsent] at unsent
      · exact t.early call before unsent
  case held =>
      intro q queued call listed same
      rcases List.mem_cons.mp listed with rfl | before
      · simp [Call.unsent]
      · exact t.held q queued call before same
  case dropping =>
      intro q listed
      rcases List.mem_cons.mp listed with same | before
      · cases same
      · exact t.dropping q before
  case stack => exact fun call listed => t.resting pumping call listed
  case quiet => exact fun shut => absurd open' shut

/-- The object that a call made at an address nobody used. -/
theorem read_admitContext {kind : ContextKind} {node : UInt64} {address : Nat} {q : Pointer}
    (vacant : s.heap address = none) :
    (s.admitContext kind node address).read q =
      if q = { kind, address, serial := s.serial } then some (Context.create kind s.serial node)
      else s.read q := by
  split
  · rename_i same
    subst same
    apply read_eq_some.mpr
    simp [Controller.admitContext, Context.create]
  · rename_i different
    by_cases same : q.address = address
    · have before : s.read q = none := by
        simp [read, same, vacant]
      have after : ∀ d, (s.admitContext kind node address).read q ≠ some d := by
        intro d found
        obtain ⟨there, kind', serial'⟩ := read_eq_some.mp found
        simp only [Controller.admitContext, same, Function.update_self, Option.some.injEq] at there
        subst there
        apply different
        cases q
        simp_all [Context.create]
      rw [before, Option.eq_none_iff_forall_not_mem.mpr fun d => after d]
    · simp [read, Controller.admitContext, Function.update_of_ne same]

/-- A new context takes its slot before anyone else knows it. -/
theorem Sound.admitContext (t : Sound s) (pumping : s.pumping = true) {kind : ContextKind}
    {node : UInt64} {address : Nat} (vacant : s.heap address = none) :
    Sound (s.admitContext kind node address) := by
  have open' : s.closing = .open := by
    simp only [Controller.pumping, Bool.and_eq_true, beq_iff_eq] at pumping
    exact pumping.1
  have loops : s.looping = true := t.loops open'
  let p : Pointer := { kind, address, serial := s.serial }
  have reads : ∀ q, (s.admitContext kind node address).read q =
      if q = p then some (Context.create kind s.serial node) else s.read q :=
    fun q => read_admitContext vacant
  have unknown : s.read p = none := by
    simp [read, p, vacant]
  have known : ∀ q, (s.read q).isSome → q ≠ p := by
    rintro q live rfl
    simp [unknown] at live
  have unlent : p ∉ s.borrowed := by
    intro lent
    obtain ⟨c, found⟩ := t.of_slot (t.lent loops p lent)
    exact known p (found ▸ rfl) rfl
  have slots : ∀ kind' q, q ∈ (s.admitContext kind node address).slots kind' ↔
      q ∈ s.slots kind' ∨ (kind' = kind ∧ q = p) := by
    intro kind' q
    by_cases same : kind' = kind
    · subst same
      simp [Controller.admitContext, p]
    · simp [Controller.admitContext, same]
  have same : ∀ q, (s.admitContext kind node address).endings q = s.endings q := by
    intro q
    simp [endings, Controller.admitContext]
  have kept : ∀ q ∈ s.references, (s.admitContext kind node address).read q = s.read q := by
    intro q referred
    rw [reads, if_neg (known q (t.live q referred))]
  refine { t with
    live := ?live, kinds := ?kinds, fresh := ?fresh, owned := ?owned, lent := ?lent,
    once := ?once, ended := ?ended, starts := ?starts, timed := ?timed, early := ?early,
    held := ?held, dropping := ?dropping, stack := ?stack, quiet := ?quiet, marks := ?marks }
  case live =>
      intro q referred
      rw [reads]
      split
      · rfl
      · rename_i different
        apply t.live q
        rw [mem_references] at referred ⊢
        refine referred.imp ?_ (Or.imp ?_ id)
        · rintro ⟨kind', stands⟩
          rcases (slots kind' q).mp stands with before | ⟨-, new⟩
          · exact ⟨kind', before⟩
          · exact absurd new different
        · rintro ⟨call, listed, rfl⟩
          rcases List.mem_cons.mp listed with rfl | before
          · exact absurd rfl different
          · exact ⟨call, before, rfl⟩
  case kinds =>
      intro kind' q stands
      rcases (slots kind' q).mp stands with before | ⟨rfl, rfl⟩
      · exact t.kinds kind' q before
      · rfl
  case fresh =>
      intro address' d there
      by_cases here : address' = address
      · subst here
        simp only [Controller.admitContext, Function.update_self, Option.some.injEq] at there
        subst there
        exact Nat.lt_succ_self _
      · simp only [Controller.admitContext, Function.update_of_ne here] at there
        exact (t.fresh _ _ there).trans (Nat.lt_succ_self _)
  case owned =>
      intro _ q d found undone
      rw [reads] at found
      split at found
      · rename_i new
        exact (slots _ q).mpr (.inr ⟨by rw [new], new⟩)
      · exact (slots _ q).mpr (.inl (t.owned loops q d found undone))
  case lent => exact fun _ q lent => (slots _ q).mpr (.inl (t.lent loops q lent))
  case once => exact fun q => (same q).trans_le (t.once q)
  case ended =>
      intro _ q stands
      rw [same] at stands
      obtain ⟨done, untimed⟩ := t.ended loops q stands
      refine ⟨?_, untimed⟩
      rw [isDone] at done ⊢
      rw [reads]
      split
      · rename_i new
        rw [new, unknown] at done
        cases done
      · exact done
  case starts =>
      intro _ q queued
      obtain ⟨d, there, unstarted⟩ := t.starts loops q queued
      exact ⟨d, by rw [reads, if_neg (known q (there ▸ rfl))]; exact there, unstarted⟩
  case timed =>
      intro _ q armed
      obtain ⟨d, there, started⟩ := t.timed loops q armed
      exact ⟨d, by rw [reads, if_neg (known q (there ▸ rfl))]; exact there, started⟩
  case marks =>
      intro _ q listed
      rcases List.mem_cons.mp listed with same | before
      · cases same
      · exact (slots _ q).mpr (.inl (t.marks loops q before))
  case early =>
      intro call listed unsent
      rcases List.mem_cons.mp listed with rfl | before
      · exact ⟨unlent, _, by rw [reads]; exact if_pos rfl, rfl, fun _ => rfl⟩
      · obtain ⟨unlent', d, there, rest⟩ := t.early call before unsent
        exact ⟨unlent', d, by rw [reads, if_neg (known _ (there ▸ rfl))]; exact there, rest⟩
  case held =>
      intro q queued call listed same
      rcases List.mem_cons.mp listed with rfl | before
      · exact absurd same.symm (known q (t.live q (mem_references.mpr (.inr (.inr queued)))))
      · exact t.held q queued call before same
  case dropping =>
      intro q listed
      rcases List.mem_cons.mp listed with new | before
      · cases new
      · exact t.dropping q before
  case stack => exact fun call listed => t.resting pumping call listed
  case quiet => exact fun shut => absurd open' shut

/-- What scheduling a cancellation leaves alone. -/
structure Written (s s' : Controller) : Prop where
  slots : s'.slots = s.slots
  timers : s'.timers = s.timers
  calls : s'.calls = s.calls
  looping : s'.looping = s.looping
  releasing : s'.releasing = s.releasing
  read : ∀ q, (s.read q).isSome → (s'.read q).isSome

theorem written_modify (found : s.read p = some c) {f : Context → Context}
    (kind : (f c).kind = c.kind) (serial : (f c).serial = c.serial) : Written s (s.modify p f) := by
  refine ⟨by simp, by simp, by simp, by simp, by simp, ?_⟩
  intro q live
  rw [read_modify found kind serial]
  split
  · rfl
  · exact live

theorem Written.trans {s' s'' : Controller} (first : Written s s') (second : Written s' s'') :
    Written s s'' :=
  ⟨second.slots.trans first.slots, second.timers.trans first.timers,
    second.calls.trans first.calls, second.looping.trans first.looping,
    second.releasing.trans first.releasing, fun q live => second.read q (first.read q live)⟩

theorem written_scheduleCancel (found : s.read p = some c) (accepted : Bool) :
    Written s (s.scheduleCancel p accepted) := by
  simp only [Controller.scheduleCancel, found]
  split
  · exact ⟨rfl, rfl, rfl, rfl, rfl, fun _ => id⟩
  · split
    · have flagged := written_modify (f := fun c => { c with cancelScheduled := true }) found rfl rfl
      exact flagged.trans ⟨rfl, rfl, rfl, rfl, rfl, fun _ => id⟩
    · exact written_modify found rfl rfl

theorem written_failActive (found : s.read p = some c) (accepted : Bool) :
    Written s (s.failActive p accepted) := by
  simp only [Controller.failActive, found]
  split
  · exact ⟨rfl, rfl, rfl, rfl, rfl, fun _ => id⟩
  · have flagged := written_modify
      (f := fun c => { c with failureEmitted := true, published := true }) found rfl rfl
    obtain ⟨d, found'⟩ := Option.isSome_iff_exists.mp (flagged.read p (found ▸ rfl))
    exact flagged.trans (written_scheduleCancel found' accepted)

theorem Sound.finish (t : Sound s) (loops : s.looping = true) (found : s.read p = some c)
    (sent : ∀ call ∈ s.calls, call.context = p → call.unsent = false) (fails accepted : Bool) :
    Sound (s.finish p fails accepted) := by
  unfold Controller.finish
  split
  · have stopped : Sound (s.cancelRecoveryTimer p) := t.cancelRecoveryTimer
    cases fails with
    | true =>
        have written := written_failActive (s := s.cancelRecoveryTimer p) found accepted
        obtain ⟨d, found'⟩ := Option.isSome_iff_exists.mp (written.read p (found ▸ rfl))
        refine (stopped.failActive loops found sent accepted).sdkMarkDone ?_ found' ?_ ?_
        · rw [written.looping]
          exact loops
        · rw [written.timers]
          exact not_mem_cancelRecoveryTimer
        · rw [written.calls]
          exact sent
    | false => exact stopped.publishDone loops found not_mem_cancelRecoveryTimer sent
  · rename_i other
    exact t.publishDone loops found (fun timed => other (t.clocks p timed)) sent

theorem Sound.onSubscriptionEstablished (t : Sound s) (loops : s.looping = true)
    (found : s.read p = some c)
    (sent : ∀ call ∈ s.calls, call.context = p → call.unsent = false) (outcome : Establishment)
    (accepted : Bool) : Sound (s.onSubscriptionEstablished p outcome accepted) := by
  cases outcome with
  | invalid =>
      simp only [Controller.onSubscriptionEstablished]
      split
      · exact t.failActive loops found sent accepted
      · have found' : (s.publish p).read p = some { c with published := true } := by
          rw [Controller.publish, read_modify (c := c) found rfl rfl, if_pos rfl]
        apply (t.publish found).scheduleCancel _ found'
        · simpa [Controller.publish] using sent
        · simpa [Controller.publish] using loops
  | established => exact t.annotate found rfl rfl rfl rfl
  | recovered => exact t.cancelRecoveryTimer
  | unannounced => exact (t.cancelRecoveryTimer (p := p)).failActive loops found sent accepted
  | undelivered => exact (t.cancelRecoveryTimer (p := p)).scheduleCancel loops found sent accepted

theorem Sound.onResubscriptionNeeded (t : Sound s) (loops : s.looping = true)
    (found : s.read p = some c) (started : c.started = true) (kind : p.kind = .subscription)
    (timed fails accepted : Bool) : Sound (s.onResubscriptionNeeded p timed fails accepted) := by
  have sent := t.sent_of_started found started
  simp only [Controller.onResubscriptionNeeded, found]
  split
  · exact t
  · rename_i live
    have undone : c.done = false := by
      simp at live
      exact live.2
    have armed : Sound (if timed then { s with timers := p :: s.timers.filter (· != p) } else s) := by
      split
      · exact t.arm found (t.owned loops p c found undone) started kind
          (t.unended loops found undone) sent
      · exact t
    split
    · cases timed
      · exact t.failActive loops found sent accepted
      · exact armed.failActive loops found sent accepted
    · exact armed

end Functions

/-! ## Steps of the input thread -/

section Calls

variable {s : Controller} {p : Pointer} {c : Context} {point : CallPoint}

theorem callAt_eq_some : s.callAt point = some p ↔
    ∃ rest, s.calls = { context := p, point } :: rest := by
  unfold callAt
  cases s.calls with
  | nil => simp
  | cons call rest =>
      obtain ⟨context, point'⟩ := call
      by_cases here : point' = point
      · simp [here]
      · simp [here]

theorem goTo_scheduleWork (work : Work) (accepted : Bool) :
    (s.scheduleWork work accepted).goTo point = (s.goTo point).scheduleWork work accepted := by
  cases accepted with
  | false => rfl
  | true =>
      simp only [Controller.goTo, scheduleWork, if_true]
      split <;> rfl

theorem Sound.mem_of_callAt (stands : s.callAt point = some p) :
    { context := p, point } ∈ s.calls := by
  obtain ⟨rest, calls⟩ := callAt_eq_some.mp stands
  exact calls ▸ List.mem_cons_self

/-- The event loop runs while a call is under way. -/
theorem Sound.loops_of_callAt (t : Sound s) (stands : s.callAt point = some p) :
    s.looping = true := by
  apply t.loops
  by_contra shut
  have none := t.quiet shut
  have some := Sound.mem_of_callAt stands
  simp [none] at some

/-- The calls of a context at which the SDK does not have it are innermost. -/
theorem Sound.only_innermost (t : Sound s) (stands : s.callAt point = some p) {call : Call}
    (listed : call ∈ s.calls) (unsent : call.unsent = true) : call = { context := p, point } := by
  obtain ⟨rest, calls⟩ := callAt_eq_some.mp stands
  have stack := t.stack
  rw [calls] at listed stack
  rcases List.mem_cons.mp listed with same | later
  · exact same
  · have resting := stack call later
    obtain ⟨context, point'⟩ := call
    cases point' <;> simp_all [Call.unsent, CallPoint.resting]

theorem Sound.sent_of_callAt (t : Sound s) (stands : s.callAt point = some p)
    (sent : ({ context := p, point } : Call).unsent = false) :
    ∀ call ∈ s.calls, call.context = p → call.unsent = false := by
  intro call listed _
  refine Bool.eq_false_iff.mpr fun unsent => ?_
  rw [t.only_innermost stands listed unsent, sent] at unsent
  cases unsent

theorem calls_goTo (stands : s.callAt point = some p) (next : CallPoint) :
    ∃ rest, s.calls = { context := p, point } :: rest ∧
      s.goTo next = { s with calls := { context := p, point := next } :: rest } := by
  obtain ⟨rest, calls⟩ := callAt_eq_some.mp stands
  refine ⟨rest, calls, ?_⟩
  unfold Controller.goTo
  rw [calls]

/-- After the innermost call has come to rest nothing is unsent. -/
theorem Sound.sent_goTo (t : Sound s) (stands : s.callAt point = some p) {q : Pointer} :
    ∀ call ∈ (s.goTo .waiting).calls, call.context = q → call.unsent = false := by
  obtain ⟨rest, calls, moved⟩ := calls_goTo stands .waiting
  have stack := t.stack
  rw [calls] at stack
  rw [moved]
  intro call listed _
  rcases List.mem_cons.mp listed with rfl | later
  · rfl
  · have resting := stack call later
    obtain ⟨context, point'⟩ := call
    cases point' <;> simp_all [Call.unsent, CallPoint.resting]

theorem Sound.schedule (t : Sound s) (stands : s.callAt .admitted = some p) (accepted : Bool) :
    Sound (if accepted then (s.scheduleWork (.start p) true).goTo .waiting
      else (s.publish p).goTo .unscheduled) := by
  have listed := Sound.mem_of_callAt stands
  obtain ⟨unlent, c, found, unstarted, undone⟩ := t.early _ listed rfl
  have loops := t.loops_of_callAt stands
  cases accepted with
  | true =>
      have waiting := t.goTo stands .waiting (by simp) (by simp) (by simp [Call.unsent]) (by simp)
      obtain ⟨rest, calls, moved⟩ := calls_goTo stands .waiting
      rw [if_pos rfl, goTo_scheduleWork]
      have found' : (s.goTo .waiting).read p = some c := by
        rw [moved]
        exact found
      apply waiting.enqueue (p := p) rfl
      · intro loops'
        exact waiting.owned loops' p c found' (undone rfl)
      · exact waiting.unended (by rw [moved]; exact loops) found' (undone rfl)
      · exact t.sent_goTo stands
      · intro _
        rw [moved]
        exact ⟨fun queued => unlent (mem_borrowed.mpr (.inl ⟨.start p, queued, rfl⟩)), c, found,
          unstarted⟩
      · exact fun reaps => nomatch reaps
  | false =>
      have stands' : (s.publish p).callAt .admitted = some p := by
        simpa [callAt, Controller.publish] using stands
      exact (t.publish found).goTo stands' .unscheduled (by simp) (by simp) (by simp [Call.unsent])
        (by simp)

/-- The start was refused: the call marks its context done itself. -/
theorem Sound.markUnscheduled (t : Sound s) (stands : s.callAt .unscheduled = some p) :
    Sound (if p.kind = .interaction then
        (s.modify p fun c => { c with done := true }).goTo .dropping
      else match s.markDone p with
        | (marked, true) => marked.goTo .marked
        | (unmarked, false) => unmarked.goTo .waiting) := by
  have listed := Sound.mem_of_callAt stands
  obtain ⟨c, found⟩ := t.of_call listed
  have loops := t.loops_of_callAt stands
  have marked : Sound (s.modify p fun c => { c with done := true }) := by
    refine t.modify found rfl rfl (fun _ => rfl) (fun was => was) (fun _ was => was) ?_
    intro call listed' same unsent
    obtain ⟨-, d, there, unstarted, -⟩ := t.early call listed' unsent
    rw [same, found, Option.some.injEq] at there
    subst there
    refine ⟨unstarted, fun admitted => ?_⟩
    rw [t.only_innermost stands listed' unsent] at admitted
    cases admitted
  have stands' : (s.modify p fun c => { c with done := true }).callAt .unscheduled = some p := by
    simpa [callAt] using stands
  split
  · rename_i kind
    exact marked.goTo stands' .dropping (by simp) (by simp) (by simp [Call.unsent, kind])
      fun _ => kind
  · simp only [markDone, found]
    by_cases done : c.done = true
    · simp only [done, if_true]
      exact t.goTo stands .waiting (by simp) (by simp) (by simp [Call.unsent]) (by simp)
    · rw [Bool.not_eq_true] at done
      simp only [done, Bool.false_eq_true, if_false]
      have kept := t.owned loops p c found done
      refine marked.goToMarked stands' (fun _ => by simpa using kept) ?_ fun _ => ⟨?_, ?_⟩
      · simpa using t.unended loops found done
      · rw [isDone, read_modify (c := c) found rfl rfl]
        simp
      · rw [modify_timers]
        intro timed
        by_cases kind : p.kind = .commissioning
        · rw [t.clocks p timed] at kind
          cases kind
        · have unsent : ({ context := p, point := .unscheduled } : Call).unsent = true := by
            simp [Call.unsent, kind]
          exact (t.early _ listed unsent).1 (mem_borrowed.mpr (.inr (.inr timed)))

theorem Sound.drop (t : Sound s) (stands : s.callAt .dropping = some p) :
    Sound ((s.reap p).goTo .waiting) := by
  have listed := Sound.mem_of_callAt stands
  obtain ⟨unlent, c, found, -⟩ := t.early _ listed rfl
  have stands' : (s.reap p).callAt .dropping = some p := stands
  refine (t.reap found (fun _ => unlent) ?_).goTo stands' .waiting (by simp) (by simp)
    (by simp [Call.unsent]) (by simp)
  obtain ⟨rest, calls⟩ := callAt_eq_some.mp stands
  have stack := t.stack
  rw [calls] at stack ⊢
  intro marked
  rcases List.mem_cons.mp marked with same | later
  · cases same
  · exact absurd (stack _ later) (by simp [CallPoint.resting])

/-- A mark and the reap that comes of it count the same. -/
theorem Sound.scheduleReap (t : Sound s) (stands : s.callAt .marked = some p) (accepted : Bool) :
    Sound ((s.scheduleWork (.reap p) accepted).goTo .waiting) := by
  have listed := Sound.mem_of_callAt stands
  have loops := t.loops_of_callAt stands
  have waiting := t.goTo stands .waiting (by simp) (by simp) (by simp [Call.unsent]) (by simp)
  rw [goTo_scheduleWork]
  cases accepted with
  | false => exact waiting
  | true =>
      obtain ⟨rest, calls, moved⟩ := calls_goTo stands .waiting
      have ended := t.ended loops p (endings_pos.mpr (.inr (.inr listed)))
      apply waiting.enqueue (p := p) rfl
      · intro _
        rw [moved]
        exact t.marks loops p listed
      · have once := t.once p
        rw [moved]
        simp only [endings, calls, List.count_cons_self] at once ⊢
        simp only [List.count_cons, beq_iff_eq, Call.mk.injEq, reduceCtorEq, and_false, if_false]
        omega
      · exact t.sent_goTo stands
      · exact fun starts => nomatch starts
      · intro _ _
        rw [moved]
        exact ended

theorem Sound.expire (t : Sound s) (stands : s.callAt .waiting = some p) :
    Sound (if p.kind = .interaction then (s.publish p).leave else (s.publish p).goTo .expired) := by
  obtain ⟨c, found⟩ := t.of_call (Sound.mem_of_callAt stands)
  have published := t.publish found
  have stands' : (s.publish p).callAt .waiting = some p := by
    simpa [callAt, Controller.publish] using stands
  split
  · exact published.leave
  · exact published.goTo stands' .expired (by simp) (by simp) (by simp [Call.unsent]) (by simp)

theorem Sound.scheduleAbort (t : Sound s) (stands : s.callAt .expired = some p) (accepted : Bool) :
    Sound (if p.kind = .subscription then (s.scheduleCancel p accepted).leave
      else (s.scheduleWork (.abort p) accepted).leave) := by
  have sent := t.sent_of_callAt stands rfl
  obtain ⟨c, found⟩ := t.of_call (Sound.mem_of_callAt stands)
  split
  · exact (t.scheduleCancel (t.loops_of_callAt stands) found sent accepted).leave
  · rename_i other
    cases accepted with
    | false => exact t.leave
    | true =>
        refine (t.hold rfl ?_ ?_ ?_ ?_).leave
        · rintro q ⟨⟩
          exact found ▸ rfl
        · rintro q ⟨⟩
          exact sent
        · rintro q ⟨⟩
          exact other
        · exact fun shuts => nomatch shuts

theorem Sound.scheduleFound (t : Sound s) (stands : s.callAt .finding = some p)
    (waits accepted : Bool) :
    Sound (if waits then (s.scheduleCancel p accepted).goTo .awaitingEnd
      else (s.scheduleCancel p accepted).leave) := by
  have sent := t.sent_of_callAt stands rfl
  obtain ⟨c, found⟩ := t.of_call (Sound.mem_of_callAt stands)
  have scheduled := t.scheduleCancel (t.loops_of_callAt stands) found sent accepted
  split
  · have stands' : (s.scheduleCancel p accepted).callAt .finding = some p := by
      rw [callAt, (written_scheduleCancel found accepted).calls]
      exact stands
    exact scheduled.goTo stands' .awaitingEnd (by simp) (by simp) (by simp [Call.unsent]) (by simp)
  · exact scheduled.leave

theorem Sound.close (t : Sound s) (none : s.calls = []) (accepted : Bool) :
    Sound { s.scheduleWork .shutdown accepted with
      accepting := false
      closing := if accepted then .shuttingDown else .stopping } := by
  cases accepted with
  | false =>
      exact { t with
        quiet := fun _ => none
        loops := by simp
        halted := by simp
        shutting := by simp }
  | true =>
      have shutting : Sound { s with accepting := false, closing := .shuttingDown } :=
        { t with
          quiet := fun _ => none
          loops := by simp
          halted := by simp
          shutting := by simp }
      have held : Sound (Controller.scheduleWork
          { s with accepting := false, closing := .shuttingDown } .shutdown true) :=
        shutting.hold rfl (by simp [Work.holder]) (by simp [Work.holder]) (by simp [Work.holder])
          (by simp)
      exact held

end Calls

/-! ## Runs -/

/-- No completion, and no answer of the CASE probe behind one, ends a commissioning whose start
is not scheduled yet. -/
def timely (s : Controller) : Step → Bool
  | .complete true => s.calls.all fun call =>
      call.point != .admitted || call.context.kind != .commissioning
  | _ => true

def timelyRun : Controller → List Step → Bool
  | _, [] => true
  | s, first :: rest =>
      s.timely first &&
        match s.step first with
        | some next => next.timelyRun rest
        | none => true

section Runs

variable {s s' : Controller} {p : Pointer} {c : Context}

theorem Sound.complete (t : Sound s) (loops : s.looping = true) {fails : Bool}
    (timely : s.timely (.complete fails) = true) : Sound (s.onCommissioningComplete fails) := by
  unfold Controller.onCommissioningComplete
  split
  · exact t
  · rename_i p rest slots
    have kept : p ∈ s.slots .commissioning := slots ▸ List.mem_cons_self
    have kind := t.kinds _ p kept
    obtain ⟨c, found⟩ := t.of_slot kept
    cases fails with
    | false => exact t
    | true =>
        refine t.publishDone loops found (fun timed => ?_) ?_
        · rw [t.clocks p timed] at kind
          cases kind
        · intro call listed same
          have before := List.all_eq_true.mp timely call listed
          by_cases drops : call.point = .dropping
          · obtain ⟨context, point⟩ := call
            subst drops
            rw [← same, t.dropping context listed] at kind
            cases kind
          · simp_all [Call.unsent]

theorem Sound.scheduleMarked (t : Sound s) {rest : List Pointer} (marking : s.marking = p :: rest)
    (accepted : Bool) : Sound ({ s with marking := rest }.scheduleWork (.reap p) accepted) := by
  have fewer : Sound { s with marking := rest } :=
    t.shrink (List.Sublist.refl _) (List.Sublist.refl _) (marking ▸ List.sublist_cons_self _ _)
      (List.Sublist.refl _)
  have listed : p ∈ s.marking := marking ▸ List.mem_cons_self
  have lent : p ∈ s.borrowed := mem_borrowed.mpr (.inr (.inl listed))
  cases accepted with
  | false => exact fewer
  | true =>
      refine fewer.enqueue rfl (fun loops => t.lent loops p lent) ?_ (t.sent_of_lent lent)
        (fun starts => nomatch starts) ?_
      · have once := t.once p
        simp only [endings, marking, List.count_cons_self] at once ⊢
        omega
      · exact fun _ loops => t.ended loops p (endings_pos.mpr (.inr (.inl listed)))

theorem loops_of_callable (callable : s.callable p = true) :
    s.looping = true ∧ ∃ c, s.read p = some c ∧ c.started = true := by
  simp only [Controller.callable, Controller.idle, Bool.and_eq_true] at callable
  obtain ⟨⟨⟨loops, -⟩, -⟩, started⟩ := callable
  cases found : s.read p with
  | none => simp [found] at started
  | some c => exact ⟨loops, c, rfl, by simpa [found] using started⟩

theorem Sound.clear (t : Sound s) (stopped : s.closing = .stopped) :
    Sound { s with slots := fun _ => [], closing := .closed }.collect := by
  have halted := t.halted (.inl stopped)
  have emptied : Sound { s with slots := fun _ => [], closing := .closed } :=
    { t with
      live := by
        intro q referred
        apply t.live q
        rw [mem_references] at referred ⊢
        exact referred.imp (fun ⟨kind, kept⟩ => nomatch kept) id
      kinds := by simp
      owned := by simp [halted]
      lent := by simp [halted]
      marks := by simp [halted]
      quiet := fun _ => t.quiet (by simp [stopped])
      loops := by simp
      halted := fun _ => halted
      shutting := by simp }
  exact emptied.collect

theorem step_sound (t : Sound s) {first : Step} (timely : s.timely first = true)
    (took : s.step first = some s') : Sound s' := by
  cases first with
  | call kind node address =>
      simp only [step, Option.ite_none_right_eq_some, Bool.and_eq_true, Option.isNone_iff_eq_none,
        Option.some.injEq] at took
      obtain ⟨⟨pumping, vacant⟩, rfl⟩ := took
      split
      · exact t.admitContext pumping vacant
      · exact t
  | schedule accepted =>
      obtain ⟨p, stands, rfl⟩ := Option.map_eq_some_iff.mp took
      exact t.schedule stands accepted
  | markUnscheduled =>
      obtain ⟨p, stands, rfl⟩ := Option.map_eq_some_iff.mp took
      exact t.markUnscheduled stands
  | drop =>
      obtain ⟨p, stands, rfl⟩ := Option.map_eq_some_iff.mp took
      exact t.drop stands
  | scheduleReap accepted =>
      obtain ⟨p, stands, rfl⟩ := Option.map_eq_some_iff.mp took
      exact t.scheduleReap stands accepted
  | expire =>
      obtain ⟨p, stands, rfl⟩ := Option.map_eq_some_iff.mp took
      exact t.expire stands
  | scheduleAbort accepted =>
      obtain ⟨p, stands, rfl⟩ := Option.map_eq_some_iff.mp took
      exact t.scheduleAbort stands accepted
  | answer =>
      obtain ⟨p, stands, answers⟩ := Option.bind_eq_some_iff.mp took
      rw [Option.ite_none_right_eq_some, Option.some.injEq] at answers
      exact answers.2 ▸ t.leave
  | find p =>
      simp only [step, Option.ite_none_right_eq_some, Bool.and_eq_true, Option.some.injEq,
        List.contains_iff_mem] at took
      obtain ⟨⟨⟨pumping, kept⟩, -⟩, rfl⟩ := took
      exact t.find pumping kept
  | scheduleFound waits accepted =>
      obtain ⟨p, stands, rfl⟩ := Option.map_eq_some_iff.mp took
      exact t.scheduleFound stands waits accepted
  | activated =>
      obtain ⟨p, stands, rfl⟩ := Option.map_eq_some_iff.mp took
      exact t.leave
  | cancelEnds =>
      obtain ⟨p, stands, rfl⟩ := Option.map_eq_some_iff.mp took
      exact t.leave
  | close accepted =>
      simp only [step, Option.ite_none_right_eq_some, Option.some.injEq] at took
      obtain ⟨⟨-, none⟩, rfl⟩ := took
      exact t.close none accepted
  | stopLoop =>
      simp only [step, Option.ite_none_right_eq_some, Bool.and_eq_true, decide_eq_true_eq,
        Option.some.injEq] at took
      obtain ⟨⟨stopping, -⟩, rfl⟩ := took
      exact { t with
        owned := by simp
        lent := by simp
        ended := by simp
        marks := by simp
        starts := by simp
        timed := by simp
        quiet := fun _ => t.quiet (by simp [stopping])
        loops := by simp
        halted := fun _ => rfl
        shutting := by simp }
  | clear =>
      simp only [step, Option.ite_none_right_eq_some, Option.some.injEq] at took
      obtain ⟨stopped, rfl⟩ := took
      exact t.clear stopped
  | work fails =>
      simp only [step] at took
      split at took
      · cases took
      · rename_i queue
        rw [Option.ite_none_right_eq_some, Option.some.injEq] at took
        exact took.2 ▸ t.perform took.1 queue fails
  | scheduleMarked accepted =>
      simp only [step] at took
      split at took
      · cases took
      · rename_i marking
        rw [Option.some.injEq] at took
        exact took ▸ t.scheduleMarked marking accepted
  | release =>
      obtain ⟨node, -, rfl⟩ := Option.map_eq_some_iff.mp took
      exact { t with }
  | finish p fails accepted =>
      simp only [step, Option.ite_none_right_eq_some, Option.some.injEq] at took
      obtain ⟨callable, rfl⟩ := took
      obtain ⟨loops, c, found, started⟩ := loops_of_callable callable
      exact t.finish loops found (t.sent_of_started found started) fails accepted
  | complete fails =>
      simp only [step, Option.ite_none_right_eq_some, Option.some.injEq] at took
      obtain ⟨idle, rfl⟩ := took
      simp only [Controller.idle, Bool.and_eq_true] at idle
      exact t.complete idle.1.1 timely
  | fail p accepted =>
      simp only [step, Option.ite_none_right_eq_some, Bool.and_eq_true, Option.some.injEq] at took
      obtain ⟨⟨callable, -⟩, rfl⟩ := took
      obtain ⟨loops, c, found, started⟩ := loops_of_callable callable
      exact t.failActive loops found (t.sent_of_started found started) accepted
  | undelivered p accepted =>
      simp only [step, Option.ite_none_right_eq_some, Bool.and_eq_true, Option.some.injEq] at took
      obtain ⟨⟨callable, -⟩, rfl⟩ := took
      obtain ⟨loops, c, found, started⟩ := loops_of_callable callable
      exact t.scheduleCancel loops found (t.sent_of_started found started) accepted
  | resubscribe p timed fails accepted =>
      simp only [step, Option.ite_none_right_eq_some, Bool.and_eq_true, decide_eq_true_eq,
        Option.some.injEq] at took
      obtain ⟨⟨callable, kind⟩, rfl⟩ := took
      obtain ⟨loops, c, found, started⟩ := loops_of_callable callable
      exact t.onResubscriptionNeeded loops found started kind timed fails accepted
  | establish p outcome accepted =>
      simp only [step, Option.ite_none_right_eq_some, Bool.and_eq_true, Option.some.injEq] at took
      obtain ⟨⟨callable, -⟩, rfl⟩ := took
      obtain ⟨loops, c, found, started⟩ := loops_of_callable callable
      exact t.onSubscriptionEstablished loops found (t.sent_of_started found started) outcome
        accepted
  | deadline p accepted =>
      simp only [step, Option.ite_none_right_eq_some, Bool.and_eq_true, Option.some.injEq,
        List.contains_iff_mem] at took
      obtain ⟨⟨idle, timed⟩, rfl⟩ := took
      simp only [Controller.idle, Bool.and_eq_true] at idle
      obtain ⟨c, found, started⟩ := t.timed idle.1.1 p timed
      exact t.cancelRecoveryTimer.failActive idle.1.1 found (t.sent_of_started found started)
        accepted

theorem run_sound {steps : List Step} (t : Sound s) (timely : s.timelyRun steps = true)
    (ran : s.run steps = some s') : Sound s' := by
  induction steps generalizing s with
  | nil => exact Option.some.inj ran ▸ t
  | cons first rest ih =>
      obtain ⟨next, took, ran⟩ := Option.bind_eq_some_iff.mp ran
      simp only [timelyRun, took, Bool.and_eq_true] at timely
      exact ih (step_sound t timely.1 took) timely.2 ran

/-- **No freed context is used.**  Whatever the two threads do in whatever order, and wherever
the allocator puts the contexts, every address the SDK holds in its queue, in a timer or in
a `MarkDone` is that of the context it was taken from, which is still in its slot. -/
theorem run_no_dangling (steps : List Step) (timely : opened.timelyRun steps = true)
    (ran : opened.run steps = some s) :
    s.fault = false ∧
      (s.looping = true → ∀ p : Pointer,
        ((∃ work ∈ s.queue, work.raw = some p) ∨ p ∈ s.marking ∨ p ∈ s.timers) →
          p ∈ s.slots p.kind ∧ (s.read p).isSome = true) := by
  have t := run_sound sound_opened timely ran
  refine ⟨t.safe, fun loops p held => ?_⟩
  have kept := t.lent loops p (mem_borrowed.mpr held)
  obtain ⟨c, found⟩ := t.of_slot kept
  exact ⟨kept, found ▸ rfl⟩

/-- A subscription whose establishment times out: its cancellation is queued, its client ends
before, and the second context gets the address of the first. -/
def expiring : List Step :=
  [.call .subscription 5 0, .schedule true, .work false, .expire, .scheduleAbort true,
    .finish { kind := .subscription, address := 0, serial := 0 } true true, .scheduleMarked true,
    .work false, .work false, .release, .call .interaction 5 0, .schedule true]

theorem run_no_dangling_expiring : ∃ s, opened.run expiring = some s ∧
    s.queue = [.start { kind := .interaction, address := 0, serial := 1 }] ∧ s.fault = false := by
  have took : (opened.run expiring).isSome = true := by decide
  obtain ⟨s, ran⟩ := Option.isSome_iff_exists.mp took
  have queue : (opened.run expiring).map (·.queue) =
      some [.start { kind := .interaction, address := 0, serial := 1 }] := by decide
  rw [ran] at queue
  exact ⟨s, ran, Option.some.inj queue, (run_no_dangling expiring (by decide) ran).1⟩

/-- The completion of an earlier pairing fails the commissioning that has just taken the slot;
its reap runs first, the call returns, and `Start` runs on the freed context. -/
theorem run_stale_completion : (opened.run [.call .commissioning 5 0, .complete true,
    .scheduleMarked true, .schedule true, .work false, .release, .answer, .work false]).map
      (·.fault) = some true := by
  decide

end Runs

end Controller

end WotexMatter.Native.SdkWork
