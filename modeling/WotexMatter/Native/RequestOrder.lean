/-
# WotexMatter.Native.RequestOrder -- the order of requests on one thread

What holds in every run of `RequestMachine`, for any lines, at any depth: numbers increase, an
operation is alone on the stack unless it is a cancellation, nothing is called before `Open` has
succeeded or by a line that started late, a call that a close overtook answers with no success,
and the backend is closed once.  Behind the close every line is answered with nothing.

`Settled` is what every stretch keeps.  Between two stretches the depth is the height of the stack
(`Stable`); within one it is one more, and the call that runs on is off the stack (`Working`).  Of
a call at most one thing has to be known when it is made (`Permits`): the stack is empty, or it is a
cancellation.
-/
import WotexMatter.Native.RequestMachine
import WotexMatter.Wire.LineReader

set_option autoImplicit false

namespace WotexMatter.Native.RequestMachine

open WotexMatter.Storage WotexMatter.Theory WotexMatter.Wire Host

variable {Q A : Type} {codec : Codec Q A} {h : Host Q}

/-! ## What is kept -/

/-- What has happened in the run so far. -/
structure Safe (h : Host Q) : Prop where
  increasing : h.accepted.Pairwise (· < ·)
  alone : ∀ entry ∈ h.entries, entry.operation ≠ .cancelSubscription → entry.below = 0
  opened : ∀ entry ∈ h.entries, entry.operation ≠ .openController → entry.opened = true
  prompt : ∀ entry ∈ h.entries, entry.late = false
  silent : ∀ answer ∈ h.answers, answer.interrupted = true →
    ∀ reply ∈ answer.result.frame, reply.ok = false
  once : h.closes ≤ 1

/-- The session has not come to `Open`. -/
def Early (h : Host Q) : Prop := h.state = .awaitFlow ∨ h.state = .awaitOpen

structure Settled (within : Nat) (h : Host Q) : Prop where
  depth : h.processingDepth = h.stack.length + within
  seen : h.closeSeen = true → h.state = .closing ∨ h.state = .closed
  malformed : h.malformed = true → h.closeSeen = true
  closed : h.state = .closed → h.closeSeen = true ∧ h.stack = []
  closing : h.state = .closing → h.closeRequested = true
  requested : ∀ pending ∈ h.stack, pending.interrupted = true → h.closeRequested = true
  prompt : ∀ pending ∈ h.stack, pending.late = false
  early : Early h → ∀ pending ∈ h.stack, pending.call.operation = .openController
  opened : h.state = .opened → h.opened = true
  data : ∀ pending ∈ h.stack, pending.call.operation ≠ .openController → h.opened = true
  unclosed : h.state ≠ .closed → h.closes = 0
  bounded : ∀ id ∈ h.accepted, id ≤ h.greatestRequestId
  safe : Safe h

/-- Between two stretches. -/
structure Stable (h : Host Q) : Prop where
  settled : Settled 0 h
  single : ∀ pending ∈ h.stack, pending.call.operation = .openController → h.stack = [pending]

/-- Within a stretch. -/
structure Working (h : Host Q) : Prop where
  settled : Settled 1 h
  pumping : ∀ pending ∈ h.stack, pending.call.operation ≠ .openController

theorem Working.early (working : Working h) (early : Early h) : h.stack = [] :=
  List.eq_nil_iff_forall_not_mem.mpr fun pending member =>
    working.pumping pending member (working.settled.early early pending member)

/-! ## Closing -/

theorem Settled.failChannel {within : Nat} (settled : Settled within h) :
    Settled within h.failChannel :=
  ⟨settled.depth, settled.seen, settled.malformed, settled.closed, settled.closing,
    settled.requested, settled.prompt, settled.early, settled.opened, settled.data, settled.unclosed,
    settled.bounded, ⟨settled.safe.increasing, settled.safe.alone, settled.safe.opened,
      settled.safe.prompt, settled.safe.silent, settled.safe.once⟩⟩

theorem requestClose_state (h : Host Q) :
    h.requestClose.state = .closing ∨ h.state = .closed ∧ h.requestClose.state = .closed := by
  rw [requestClose]
  by_cases closed : h.state = .closed
  · exact Or.inr ⟨closed, if_pos closed⟩
  · exact Or.inl (if_neg closed)

theorem mem_requestClose {pending : Pending Q} (member : pending ∈ h.requestClose.stack) :
    ∃ before ∈ h.stack, pending = { before with interrupted := true } := by
  obtain ⟨before, inside, same⟩ := List.mem_map.mp member
  exact ⟨before, inside, same.symm⟩

/-- `RequestClose` keeps everything, whether a malformed frame is behind it or not. -/
theorem Settled.requestClose {within : Nat} (settled : Settled within h) (malformed : Bool) :
    Settled within ({ h with malformed := malformed } : Host Q).requestClose := by
  have state := requestClose_state ({ h with malformed := malformed } : Host Q)
  constructor
  case depth =>
      simpa [Host.requestClose] using settled.depth
  case seen =>
      intro _
      rcases state with closing | ⟨_, closed⟩
      · exact Or.inl closing
      · exact Or.inr closed
  case malformed => exact fun _ => rfl
  case closed =>
      intro closed
      rcases state with closing | ⟨already, _⟩
      · rw [closing] at closed
        cases closed
      · refine ⟨rfl, ?_⟩
        simp [Host.requestClose, (settled.closed already).2]
  case closing => exact fun _ => rfl
  case requested => exact fun _ _ _ => rfl
  case prompt =>
      intro pending member
      obtain ⟨before, inside, rfl⟩ := mem_requestClose member
      exact settled.prompt before inside
  case early =>
      intro early
      rcases state with closing | ⟨_, closed⟩
      · rw [Early, closing] at early
        simp at early
      · rw [Early, closed] at early
        simp at early
  case opened =>
      intro opened
      rcases state with closing | ⟨_, closed⟩
      · rw [closing] at opened
        cases opened
      · rw [closed] at opened
        cases opened
  case data =>
      intro pending member
      obtain ⟨before, inside, rfl⟩ := mem_requestClose member
      exact settled.data before inside
  case unclosed =>
      intro unclosed
      rcases state with closing | ⟨already, closed⟩
      · refine settled.unclosed fun already => ?_
        simp [Host.requestClose, already] at closing
      · exact absurd closed unclosed
  case bounded => exact settled.bounded
  case safe =>
      exact ⟨settled.safe.increasing, settled.safe.alone, settled.safe.opened,
        settled.safe.prompt, settled.safe.silent, settled.safe.once⟩

/-- `Close` does too, where a depth of at most one means an empty stack. -/
theorem Settled.close {within : Nat} (settled : Settled within h) (malformed isOpen : Bool)
    (outermost : h.processingDepth ≤ 1 → h.stack = []) :
    Settled within (({ h with malformed := malformed } : Host Q).close isOpen) := by
  rw [Host.close]
  split
  · exact settled.requestClose malformed
  rename_i shallow
  have empty : h.stack = [] := outermost (Nat.le_of_not_lt shallow)
  split
  · rename_i closed
    exact { settled with
      malformed := fun _ => (settled.closed closed).1
      safe := { settled.safe with } }
  rename_i unclosed
  have none : h.closes = 0 := settled.unclosed unclosed
  constructor
  case depth => exact settled.depth
  case seen => exact fun _ => Or.inr rfl
  case malformed => exact fun _ => rfl
  case closed => exact fun _ => ⟨rfl, empty⟩
  case closing => exact fun closing => by cases closing
  case requested => exact settled.requested
  case prompt => exact settled.prompt
  case early =>
      intro early
      simp [Early] at early
  case opened => exact fun opened => by cases opened
  case data => exact settled.data
  case unclosed => exact fun unclosed => absurd rfl unclosed
  case bounded => exact settled.bounded
  case safe =>
      refine ⟨settled.safe.increasing, settled.safe.alone, settled.safe.opened,
        settled.safe.prompt, settled.safe.silent, ?_⟩
      show (if isOpen then h.closes + 1 else h.closes) ≤ 1
      split <;> omega

theorem Working.outermost (working : Working h) (shallow : h.processingDepth ≤ 1) :
    h.stack = [] := by
  have depth := working.settled.depth
  exact List.length_eq_zero_iff.mp (by omega)

theorem Working.close (working : Working h) (malformed isOpen : Bool) :
    Working (({ h with malformed := malformed } : Host Q).close isOpen) := by
  refine ⟨working.settled.close malformed isOpen working.outermost, ?_⟩
  intro pending member
  rw [Host.close] at member
  split at member
  · obtain ⟨before, inside, rfl⟩ := mem_requestClose member
    exact working.pumping before inside
  · split at member
    · exact working.pumping pending member
    · exact working.pumping pending member

theorem Working.failChannel (working : Working h) : Working h.failChannel :=
  ⟨working.settled.failChannel, working.pumping⟩

/-! ## Calls -/

/-- What is known of a call when it is made. -/
structure Permits (h : Host Q) (call : Call Q) : Prop where
  alone : call.operation ≠ .cancelSubscription → h.stack = []
  opened : call.operation ≠ .openController → h.opened = true
  early : Early h → call.operation = .openController
  unclosed : h.state ≠ .closed

/-- What a stretch must come to for the run to be kept. -/
def Proceeds (late interrupted : Bool) : Host Q × Outcome Q → Prop
  | (h, .returns result) =>
      Working h ∧ (interrupted = true → ∀ reply ∈ result.frame, reply.ok = false)
  | (h, .calls _ call) => Working h ∧ late = false ∧ Permits h call

/-- A result of a line that no call has interrupted. -/
theorem Working.returns (working : Working h) (late : Bool) (result : ProcessResult) :
    Proceeds late false (h, .returns result) :=
  ⟨working, fun interrupted => by cases interrupted⟩

theorem Safe.answer (safe : Safe h) {interrupted : Bool} {result : ProcessResult}
    (silent : interrupted = true → ∀ reply ∈ result.frame, reply.ok = false) :
    Safe (h.answer interrupted result) :=
  { safe with
    silent := by
      intro answer member
      rcases List.mem_append.mp member with before | last
      · exact safe.silent answer before
      · obtain rfl := List.mem_singleton.mp last
        exact silent }

theorem Stable.answer (stable : Stable h) {interrupted : Bool} {result : ProcessResult}
    (silent : interrupted = true → ∀ reply ∈ result.frame, reply.ok = false) :
    Stable (h.answer interrupted result) :=
  ⟨{ stable.settled with safe := stable.settled.safe.answer silent }, stable.single⟩

theorem Stable.failChannel (stable : Stable h) : Stable h.failChannel :=
  ⟨stable.settled.failChannel, stable.single⟩

theorem Stable.requestClose (stable : Stable h) : Stable h.requestClose := by
  refine ⟨stable.settled.requestClose h.malformed, ?_⟩
  intro pending member waiting
  obtain ⟨before, inside, rfl⟩ := mem_requestClose member
  have alone := stable.single before inside waiting
  simp [Host.requestClose, alone]

/-- `Close` where no line is being processed. -/
theorem Stable.close (stable : Stable h) (isOpen : Bool) (idle : h.processingDepth = 0) :
    Stable (h.close isOpen) := by
  have empty : h.stack = [] := by
    have depth := stable.settled.depth
    exact List.length_eq_zero_iff.mp (by omega)
  refine ⟨stable.settled.close h.malformed isOpen fun _ => empty, ?_⟩
  intro pending member
  rw [Host.close, if_neg (by omega)] at member
  split at member
  · rw [empty] at member
    cases member
  · rw [show ({ h with state := .closed, closeSeen := true, closes := _ } : Host Q).stack = h.stack
      from rfl, empty] at member
    cases member

/-- The depth goes down as the line leaves. -/
theorem Working.leaves (working : Working h) (failing : Bool) :
    Stable ({ h with
      processingDepth := h.processingDepth - 1
      channelFailed := h.channelFailed || failing } : Host Q) := by
  have settled := working.settled
  constructor
  case settled =>
      exact { settled with
        depth := by
          show h.processingDepth - 1 = h.stack.length + 0
          rw [settled.depth]
          omega
        safe := { settled.safe with } }
  case single => exact fun pending member waiting => absurd waiting (working.pumping pending member)

theorem Working.leave (working : Working h) {interrupted : Bool} {result : ProcessResult}
    (silent : interrupted = true → ∀ reply ∈ result.frame, reply.ok = false)
    (around : Surroundings) : Stable (h.leave interrupted result around) := by
  have leaves := working.leaves around.failing
  rw [Host.leave]
  split
  · rename_i last
    exact (leaves.close around.isOpen last.1).answer fun _ reply member => by cases member
  · exact leaves.answer silent

theorem Working.enter (working : Working h) {late : Bool} (prompt : late = false)
    (request : Request) {call : Call Q} (permits : Permits h call) :
    Stable (h.enter late request call) := by
  have settled := working.settled
  subst prompt
  constructor
  case settled =>
      constructor
      case depth => exact settled.depth
      case seen => exact settled.seen
      case malformed => exact settled.malformed
      case closed => exact fun closed => absurd closed permits.unclosed
      case closing => exact settled.closing
      case requested =>
          intro pending member interrupted
          rcases List.mem_cons.mp member with rfl | below
          · cases interrupted
          · exact settled.requested pending below interrupted
      case prompt =>
          intro pending member
          rcases List.mem_cons.mp member with rfl | below
          · rfl
          · exact settled.prompt pending below
      case early =>
          intro early pending member
          rcases List.mem_cons.mp member with rfl | below
          · exact permits.early early
          · exact settled.early early pending below
      case opened => exact settled.opened
      case data =>
          intro pending member
          rcases List.mem_cons.mp member with rfl | below
          · exact permits.opened
          · exact settled.data pending below
      case unclosed => exact settled.unclosed
      case bounded => exact settled.bounded
      case safe =>
          refine ⟨settled.safe.increasing, ?_, ?_, ?_, settled.safe.silent, settled.safe.once⟩
          · intro entry member
            rcases List.mem_append.mp member with before | last
            · exact settled.safe.alone entry before
            · obtain rfl := List.mem_singleton.mp last
              intro data
              show h.stack.length = 0
              rw [permits.alone data]
              rfl
          · intro entry member
            rcases List.mem_append.mp member with before | last
            · exact settled.safe.opened entry before
            · obtain rfl := List.mem_singleton.mp last
              exact permits.opened
          · intro entry member
            rcases List.mem_append.mp member with before | last
            · exact settled.safe.prompt entry before
            · obtain rfl := List.mem_singleton.mp last
              rfl
  case single =>
      intro pending member waiting
      rcases List.mem_cons.mp member with rfl | below
      · have empty : h.stack = [] := permits.alone fun cancels => by
          rw [show call.operation = .openController from waiting] at cancels
          cases cancels
        show (_ :: h.stack) = _
        rw [empty]
      · exact absurd waiting (working.pumping pending below)

/-- A stretch that proceeds leaves the run as it should be. -/
theorem conclude_stable {late interrupted : Bool} {reached : Host Q × Outcome Q}
    (proceeds : Proceeds late interrupted reached) (around : Surroundings) :
    Stable (conclude late interrupted around reached) := by
  obtain ⟨h, outcome⟩ := reached
  cases outcome with
  | returns result => exact proceeds.1.leave proceeds.2 around
  | calls request call => exact proceeds.1.enter proceeds.2.1 request proceeds.2.2

/-! ## One line -/

theorem Working.cancellation (working : Working h) (cancellationPending : Bool) :
    Working ({ h with cancellationPending := cancellationPending } : Host Q) :=
  ⟨{ working.settled with safe := { working.settled.safe with } }, working.pumping⟩

/-- In the open state an operation may be called if it cancels or nothing else is on the
stack. -/
theorem Working.permits (working : Working h) (state : h.state = .opened) {call : Call Q}
    (alone : call.operation = .cancelSubscription ∨ h.processingDepth ≤ 1) : Permits h call := by
  constructor
  case alone => exact fun other => working.outermost (alone.resolve_left other)
  case opened => exact fun _ => working.settled.opened state
  case early =>
      intro early
      simp [Early, state] at early
  case unclosed => simp [state]

theorem Working.unsubscribe (working : Working h) (state : h.state = .opened)
    (request : Request) (around : Surroundings) :
    Proceeds false false (h.unsubscribe codec request around) := by
  rw [Host.unsubscribe]
  split
  · exact working.returns false _
  split
  · exact working.returns false _
  split
  · exact working.returns false _
  · exact working.returns false _
  · exact working.returns false _
  · have pending := working.cancellation true
    exact ⟨pending, rfl, pending.permits state (Or.inl rfl)⟩

theorem Working.operate (working : Working h) (state : h.state = .opened) (request : Request)
    (around : Surroundings)
    (alone : request.operation = ascii "unsubscribe" ∨ h.processingDepth ≤ 1) :
    Proceeds false false (h.operate codec request around) := by
  have calls : ∀ {call : Call Q}, request.operation ≠ ascii "unsubscribe" →
      Proceeds false false (h, .calls request call) :=
    fun other => ⟨working, rfl, working.permits state (Or.inr (alone.resolve_left other))⟩
  rw [Host.operate]
  split
  · rename_i operation
    split
    · exact working.returns false _
    · exact calls (by rw [operation]; decide)
  split
  · rename_i operation
    split
    · exact working.returns false _
    · exact calls (by rw [operation]; decide)
  split
  · rename_i operation
    split
    · exact working.returns false _
    · split
      · exact working.returns false _
      · exact calls (by rw [operation]; decide)
  split
  · exact working.unsubscribe state request around
  rename_i other
  split
  · exact working.returns false _
  split
  · split
    · exact working.returns false _
    · exact calls other
  · split
    · exact working.returns false _
    · exact working.returns false _

theorem Working.awaitOpen (working : Working h) (state : h.state = .awaitOpen)
    (request : Request) (around : Surroundings) :
    Proceeds false false (h.awaitOpen codec request around) := by
  rw [Host.awaitOpen]
  split
  · exact (working.close _ around.isOpen).returns false _
  · refine ⟨working, rfl, ?_⟩
    constructor
    case alone => exact fun _ => working.early (Or.inr state)
    case opened => exact fun other => absurd rfl other
    case early => exact fun _ => rfl
    case unclosed => simp [state]

/-- An accepted request, where a state that lets it through means that its line is not late. -/
theorem Working.dispatch (working : Working h) {late : Bool}
    (prompt : h.state = .awaitOpen ∨ h.state = .opened → late = false) (request : Request)
    (around : Surroundings) : Proceeds late false (h.dispatch codec request around) := by
  rw [Host.dispatch]
  split
  · rename_i state
    rw [prompt (Or.inl state)]
    exact working.awaitOpen state request around
  split
  · exact working.returns late _
  rename_i _ state
  have state : h.state = .opened := Classical.not_not.mp state
  rw [prompt (Or.inr state)]
  split
  · exact (working.close _ around.isOpen).returns false _
  split
  · exact working.returns false _
  split
  · exact working.returns false _
  rename_i shallow
  refine working.operate state request around ?_
  by_cases operation : request.operation = ascii "unsubscribe"
  · exact Or.inl operation
  · exact Or.inr (Nat.le_of_not_lt fun deep => shallow ⟨deep, operation⟩)

/-- A number above every number so far. -/
theorem Working.accept (working : Working h) {id : Nat} (above : h.greatestRequestId < id) :
    Working (h.accept id) := by
  have settled := working.settled
  refine ⟨{ settled with bounded := ?_, safe := { settled.safe with increasing := ?_ } },
    working.pumping⟩
  · intro other member
    rcases List.mem_append.mp member with before | last
    · exact (settled.bounded other before).trans (Nat.le_of_lt above)
    · exact Nat.le_of_eq (List.mem_singleton.mp last)
  · refine List.pairwise_append.mpr ⟨settled.safe.increasing, List.pairwise_singleton _ _, ?_⟩
    intro other member last here
    obtain rfl := List.mem_singleton.mp here
    exact Nat.lt_of_le_of_lt (settled.bounded other member) above

/-- The handshake. -/
theorem Working.flow (working : Working h) (state : h.state = .awaitFlow) (generation : Bytes) :
    Working ({ h with sessionGeneration := generation, state := .awaitOpen } : Host Q) := by
  have settled := working.settled
  refine ⟨?_, working.pumping⟩
  exact { settled with
    seen := fun seen => by
      have state' := settled.seen seen
      simp [state] at state'
    closed := fun closed => by cases closed
    closing := fun closing => by cases closing
    early := fun _ => settled.early (Or.inl state)
    opened := fun opened => by cases opened
    unclosed := fun _ => settled.unclosed (by simp [state])
    safe := { settled.safe with } }

theorem Working.processLineImpl (working : Working h) {late : Bool}
    (prompt : h.channelFailed = false → h.state = .awaitOpen ∨ h.state = .opened → late = false)
    (line : Bytes) (around : Surroundings) :
    Proceeds late false (h.processLineImpl codec line around) := by
  rw [Host.processLineImpl]
  split
  · exact (working.close _ around.isOpen).returns late _
  rename_i healthy
  have prompt := prompt (by simpa [Host.healthy] using healthy)
  split
  · exact (working.close true around.isOpen).returns late _
  split
  · rename_i state
    split
    · exact (working.close true around.isOpen).returns late _
    · exact (working.flow state _).returns late _
  split
  · split
    · exact working.returns late _
    · exact (working.failChannel.close true around.isOpen).returns late _
  split
  · exact (working.close true around.isOpen).returns late _
  · split
    · exact (working.close true around.isOpen).returns late _
    · exact working.dispatch prompt _ around
  · split
    · exact (working.close true around.isOpen).returns late _
    · rename_i above
      exact (working.accept (Nat.lt_of_not_le above)).dispatch prompt _ around

/-- A line may be read: no `Open` waits. -/
theorem Stable.works (stable : Stable h) (reads : h.reads = true) :
    Working ({ h with processingDepth := h.processingDepth + 1 } : Host Q) := by
  have settled := stable.settled
  constructor
  case settled =>
      exact { settled with
        depth := by
          show h.processingDepth + 1 = h.stack.length + 1
          rw [settled.depth]
        safe := { settled.safe with } }
  case pumping =>
      intro pending member waiting
      have alone := stable.single pending member waiting
      simp [Host.reads, alone, waiting] at reads

theorem Stable.processLine (stable : Stable h) (reads : h.reads = true) (line : Bytes)
    (around : Surroundings) : Stable (h.processLine codec line around) := by
  refine conclude_stable ((stable.works reads).processLineImpl ?_ line around) around
  intro healthy state
  have unseen : h.closeSeen = false := by
    by_contra seen
    have closing := stable.settled.seen (Bool.eq_true_of_not_eq_false seen)
    rcases state with state | state <;> simp [show h.state = _ from state] at closing
  have formed : h.malformed = false := by
    by_contra malformed
    have seen := stable.settled.malformed (Bool.eq_true_of_not_eq_false malformed)
    rw [unseen] at seen
    cases seen
  simp [Host.late, unseen, formed, show h.channelFailed = false from healthy]

/-! ## Behind a call -/

/-- The innermost call has returned and is off the stack. -/
structure Resumed (h : Host Q) (pending : Pending Q) : Prop where
  working : Working h
  requested : pending.interrupted = true → h.closeRequested = true
  early : Early h → pending.call.operation = .openController
  data : pending.call.operation ≠ .openController → h.opened = true
  unclosed : h.state ≠ .closed

variable {pending : Pending Q}

/-- What `close_requested_ || !healthy()` asks behind every call. -/
def Overtaken (h : Host Q) : Prop := h.closeRequested = true ∨ h.healthy = false

/-- Once a close has been requested, or the channel has failed, nothing is answered. -/
theorem Resumed.quiet (resumed : Resumed h pending) (interrupted : Bool) :
    Proceeds false interrupted (h, .returns {}) :=
  ⟨resumed.working, fun _ reply member => by cases member⟩

/-- Otherwise nothing has interrupted the call, and it may answer as it likes. -/
theorem Resumed.answers (resumed : Resumed h pending) (calm : ¬ Overtaken h) {h' : Host Q}
    (reached : Working h') (result : ProcessResult) :
    Proceeds false pending.interrupted (h', .returns result) :=
  ⟨reached, fun interrupted => absurd (Or.inl (resumed.requested interrupted)) calm⟩

/-- `Open` has succeeded. -/
theorem Resumed.opens (resumed : Resumed h pending) (calm : ¬ Overtaken h) (fabricId : Nat) :
    Working ({ h with fabricId := fabricId, state := .opened, opened := true } : Host Q) := by
  have settled := resumed.working.settled
  refine ⟨?_, resumed.working.pumping⟩
  exact { settled with
    seen := fun seen => by
      rcases settled.seen seen with closing | closed
      · exact absurd (Or.inl (settled.closing closing)) calm
      · exact absurd closed resumed.unclosed
    closed := fun closed => by cases closed
    closing := fun closing => by cases closing
    early := fun early => by simp [Early] at early
    opened := fun _ => rfl
    data := fun _ _ _ => rfl
    unclosed := fun _ => settled.unclosed resumed.unclosed
    safe := { settled.safe with } }

theorem Resumed.afterOpen (resumed : Resumed h pending) (request : Request)
    (options : NativeOpenOptions) (result : BackendResult) (around : Surroundings) :
    Proceeds false pending.interrupted (h.afterOpen request options result around) := by
  rw [Host.afterOpen]
  split
  · exact resumed.quiet _
  rename_i calm
  split
  · exact resumed.answers calm (resumed.working.close _ around.isOpen) _
  · exact resumed.answers calm (resumed.opens calm options.fabricId) _

theorem Resumed.afterCommission (resumed : Resumed h pending) (request : Request)
    (commissioning : CommissioningRequest) (response : CommissioningResponse) :
    Proceeds false pending.interrupted
      (h, h.afterCommission codec request commissioning response) := by
  rw [Host.afterCommission]
  split
  · exact resumed.quiet _
  rename_i calm
  split
  · exact resumed.answers calm resumed.working _
  split
  · exact resumed.answers calm resumed.working _
  · exact resumed.answers calm resumed.working _

theorem Resumed.afterOpenWindow (resumed : Resumed h pending) (request : Request)
    (window : CommissioningWindowRequest) (response : CommissioningWindowResponse) :
    Proceeds false pending.interrupted (h, h.afterOpenWindow codec request window response) := by
  rw [Host.afterOpenWindow]
  split
  · exact resumed.quiet _
  rename_i calm
  split
  · exact resumed.answers calm resumed.working _
  split
  · exact resumed.answers calm resumed.working _
  · exact resumed.answers calm resumed.working _

/-- The only call that leads to another: the subscription that is not admitted is cancelled. -/
theorem Resumed.afterSubscribe (resumed : Resumed h pending)
    (data : pending.call.operation ≠ .openController) (request : Request)
    (subscription : SubscriptionRequest) (response : SubscriptionResponse)
    (around : Surroundings) :
    Proceeds false pending.interrupted
      (h, h.afterSubscribe request subscription response around) := by
  rw [Host.afterSubscribe]
  split
  · exact resumed.quiet _
  rename_i calm
  split
  · exact resumed.answers calm resumed.working _
  split
  · exact resumed.answers calm resumed.working _
  split
  · refine ⟨resumed.working, rfl, ?_⟩
    constructor
    case alone => exact fun other => absurd rfl other
    case opened => exact fun _ => resumed.data data
    case early => exact fun early => absurd (resumed.early early) data
    case unclosed => exact resumed.unclosed
  · exact resumed.answers calm resumed.working _

theorem Resumed.afterCancel (resumed : Resumed h pending) (request : Request)
    (cancelled : BackendResult) (around : Surroundings) :
    Proceeds false pending.interrupted (h.afterCancel request cancelled around) := by
  have reached := resumed.working.cancellation false
  rw [Host.afterCancel]
  split
  · exact ⟨reached, fun _ reply member => by cases member⟩
  rename_i calm
  split
  · exact resumed.answers calm reached _
  split
  · exact resumed.answers calm reached _
  split
  · exact resumed.answers calm (reached.close _ around.isOpen) _
  · exact resumed.answers calm reached _

theorem Resumed.afterInteract (resumed : Resumed h pending) (request : Request)
    (interaction : InteractionRequest Q) (response : InteractionResponse A) :
    Proceeds false pending.interrupted
      (h, h.afterInteract codec request interaction response) := by
  rw [Host.afterInteract]
  split
  · exact resumed.quiet _
  rename_i calm
  have answers := resumed.answers calm resumed.working
  split
  · split
    · exact answers _
    · split
      · exact answers _
      · exact answers _
  · split
    · exact answers _
    · split
      · exact answers _
      · split
        · exact answers _
        · exact answers _

theorem Resumed.resumeImpl (resumed : Resumed h pending) (request : Request)
    (around : Surroundings) (response : Response A) {reached : Host Q × Outcome Q}
    (resumes : h.resumeImpl codec request around pending.call response = some reached) :
    Proceeds false pending.interrupted reached := by
  have data : ∀ {call : Call Q}, pending.call = call → call.operation ≠ .openController →
      pending.call.operation ≠ .openController := fun same other => same ▸ other
  cases call : pending.call <;> cases response <;> rw [call] at resumes <;> cases resumes
  case openController.opened options result =>
      exact resumed.afterOpen request options result around
  case commission.commissioned commissioning response =>
      exact resumed.afterCommission request commissioning response
  case openWindow.window window response => exact resumed.afterOpenWindow request window response
  case subscribe.subscribed subscription response =>
      refine resumed.afterSubscribe (data call ?_) request subscription response around
      simp [Call.operation]
  case refuse.cancelled =>
      refine ⟨resumed.working, fun _ reply member => ?_⟩
      obtain rfl := Option.some.inj member
      rfl
  case cancel.cancelled cancelled => exact resumed.afterCancel request cancelled around
  case interact.interacted interaction response =>
      exact resumed.afterInteract request interaction response

/-- A call that returns comes off the stack. -/
theorem Stable.returned (stable : Stable h) {outer : List (Pending Q)}
    (top : h.stack = pending :: outer) :
    Resumed ({ h with stack := outer } : Host Q) pending := by
  have settled := stable.settled
  have member : pending ∈ h.stack := by simp [top]
  have below : ∀ {other}, other ∈ outer → other ∈ h.stack := by
    intro other inside
    simp [top, inside]
  have unclosed : h.state ≠ .closed := by
    intro closed
    rw [(settled.closed closed).2] at top
    cases top
  refine ⟨⟨?_, ?_⟩, settled.requested pending member,
    fun early => settled.early early pending member, settled.data pending member, unclosed⟩
  · exact { settled with
      depth := by
        show h.processingDepth = outer.length + 1
        rw [settled.depth, top]
        rfl
      closed := fun closed => absurd closed unclosed
      requested := fun other inside => settled.requested other (below inside)
      prompt := fun other inside => settled.prompt other (below inside)
      early := fun early other inside => settled.early early other (below inside)
      data := fun other inside => settled.data other (below inside)
      safe := { settled.safe with } }
  · intro other inside waiting
    have alone := stable.single other (below inside) waiting
    rw [top] at alone
    obtain ⟨_, rfl⟩ := List.cons.inj alone
    cases inside

theorem Stable.resume (stable : Stable h) {response : Response A} {around : Surroundings}
    {h' : Host Q} (resumes : h.resume codec response around = some h') : Stable h' := by
  rw [Host.resume] at resumes
  split at resumes
  · cases resumes
  rename_i pending outer top
  obtain ⟨reached, impl, rfl⟩ := Option.map_eq_some_iff.mp resumes
  have prompt : pending.late = false := stable.settled.prompt pending (by simp [top])
  rw [prompt]
  exact conclude_stable ((stable.returned top).resumeImpl pending.request around response impl)
    around

/-! ## Runs -/

theorem step_stable (stable : Stable h) {event : Event A} {h' : Host Q}
    (next : step codec h event = some h') : Stable h' := by
  cases event with
  | line line around =>
      rw [step] at next
      split at next
      · rename_i reads
        obtain rfl := Option.some.inj next
        exact stable.processLine reads line around
      · cases next
  | resume response around => exact stable.resume next
  | failChannel =>
      obtain rfl := Option.some.inj next
      exact stable.failChannel
  | requestClose =>
      obtain rfl := Option.some.inj next
      exact stable.requestClose
  | finish isOpen =>
      rw [step] at next
      split at next
      · rename_i idle
        obtain rfl := Option.some.inj next
        exact stable.close isOpen idle
      · cases next

theorem start_stable : Stable (start : Host Q) := by
  refine ⟨⟨rfl, ?_, ?_, ?_, ?_, ?_, ?_, ?_, ?_, ?_, ?_, ?_, ?_⟩, ?_⟩
  case refine_12 => exact ⟨List.Pairwise.nil, by simp [start], by simp [start], by simp [start],
    by simp [start], Nat.zero_le 1⟩
  all_goals simp [start]

theorem run_stable {events : List (Event A)} (ran : Monitor.run (step codec) start events = some h) :
    Stable h :=
  have closed : ∀ {s event s'}, ¬False → Stable s → step codec s event = some s' → Stable s' :=
    fun _ stable next => step_stable stable next
  Monitor.persists closed (fun _ _ absurd => absurd) start_stable ran

/-! ## Behind the close -/

/-- The session is over: nothing brings it back, and every line is answered with nothing. -/
structure Ended (codec : Codec Q A) (h : Host Q) : Prop where
  stays : ∀ {event : Event A} {h' : Host Q}, step codec h event = some h' → h'.state = .closed
  answers : ∀ line around, ∃ h', step codec h (.line line around) = some h' ∧
    h'.answers = h.answers ++ [{ result := {} }]

theorem close_closed (closed : h.state = .closed) (shallow : h.processingDepth ≤ 1)
    (isOpen : Bool) : h.close isOpen = h := by
  rw [Host.close, if_neg (by omega), if_pos closed]

theorem dispatch_closed (closed : h.state = .closed) (request : Request)
    (around : Surroundings) : h.dispatch codec request around = (h, .returns {}) := by
  simp [Host.dispatch, closed]

/-- A line of a closed host changes nothing but the number it may carry, and comes to nothing. -/
theorem processLineImpl_closed (codec : Codec Q A) {h : Host Q} (closed : h.state = .closed)
    (shallow : h.processingDepth ≤ 1) (line : Bytes) (around : Surroundings) :
    ∃ h', h.processLineImpl codec line around = (h', .returns {}) ∧ h'.state = .closed ∧
      h'.answers = h.answers ∧ h'.processingDepth = h.processingDepth := by
  have rejected : h.reject around.isOpen = { h with malformed := true } :=
    close_closed (h := { h with malformed := true }) closed shallow around.isOpen
  rw [Host.processLineImpl, close_closed closed shallow, rejected]
  split
  · exact ⟨h, rfl, closed, rfl, rfl⟩
  split
  · exact ⟨_, rfl, closed, rfl, rfl⟩
  have opened : h.state ≠ .opened := by simp [closed]
  rw [if_neg (show h.state ≠ .awaitFlow by simp [closed]),
    if_neg fun acknowledgement => opened acknowledgement.1]
  split
  · exact ⟨_, rfl, closed, rfl, rfl⟩
  · rw [if_pos opened]
    exact ⟨_, rfl, closed, rfl, rfl⟩
  · split
    · exact ⟨_, rfl, closed, rfl, rfl⟩
    · rename_i id request _ _
      exact ⟨h.accept id, dispatch_closed (h := h.accept id) closed request around, closed, rfl,
        rfl⟩

theorem leave_closed (closed : h.state = .closed) (shallow : h.processingDepth ≤ 1)
    (around : Surroundings) :
    (h.leave false {} around).state = .closed ∧
      (h.leave false {} around).answers = h.answers ++ [{ result := {} }] := by
  have lowered := close_closed
    (h := { h with
      processingDepth := h.processingDepth - 1
      channelFailed := h.channelFailed || around.failing })
    closed (show h.processingDepth - 1 ≤ 1 by omega) around.isOpen
  rw [Host.leave]
  split
  · rw [lowered]
    exact ⟨closed, rfl⟩
  · exact ⟨closed, rfl⟩

theorem Stable.ended (stable : Stable h) (closed : h.state = .closed) : Ended codec h := by
  have empty : h.stack = [] := (stable.settled.closed closed).2
  have idle : h.processingDepth = 0 := by
    rw [stable.settled.depth, empty]
    rfl
  have line : ∀ line around, (h.processLine codec line around).state = .closed ∧
      (h.processLine codec line around).answers = h.answers ++ [{ result := {} }] := by
    intro line around
    obtain ⟨h', impl, state, answers, depth⟩ := processLineImpl_closed codec
      (h := { h with processingDepth := h.processingDepth + 1 }) closed
      (show h.processingDepth + 1 ≤ 1 by omega) line around
    have shallow : h'.processingDepth ≤ 1 := by
      rw [depth]
      show h.processingDepth + 1 ≤ 1
      omega
    have left := leave_closed state shallow around
    rw [answers] at left
    rw [Host.processLine, impl]
    exact left
  constructor
  case stays =>
      intro event h' next
      cases event with
      | line text around =>
          rw [step] at next
          split at next
          · obtain rfl := Option.some.inj next
            exact (line text around).1
          · cases next
      | resume response around =>
          rw [step, Host.resume, empty] at next
          cases next
      | failChannel =>
          obtain rfl := Option.some.inj next
          exact closed
      | requestClose =>
          obtain rfl := Option.some.inj next
          simp [Host.requestClose, closed]
      | finish isOpen =>
          rw [step, if_pos idle, close_closed closed (by omega)] at next
          obtain rfl := Option.some.inj next
          exact closed
  case answers =>
      intro text around
      have reads : h.reads = true := by simp [Host.reads, empty]
      exact ⟨_, by rw [step, if_pos reads], (line text around).2⟩

/-- **In every run, whatever the lines and however deep they arrive, requests are taken in the
order of their numbers, operations run alone, after `Open` and before any close, no call that a
close overtakes succeeds, the backend is closed once, and a closed host answers with nothing.** -/
theorem run_requests_orderly (codec : Codec Q A) {events : List (Event A)} {h : Host Q}
    (ran : Monitor.run (step codec) start events = some h) :
    Safe h ∧ (h.state = .closed → Ended codec h) :=
  ⟨(run_stable ran).settled.safe, (run_stable ran).ended⟩

/-! ### A close inside a commissioning -/

def nestedCodec : Codec Unit Unit where
  reader := compactReader
  openOptions _ := some { fabricId := 1, controllerNodeId := 2, vendorId := 3 }
  commissioningParameters _ timeoutMs := some ⟨5, 20202021, 3840, timeoutMs⟩
  commissioningWindowParameters _ _ := none
  subscriptionParameters _ _ := none
  unsubscribeParameters _ := none
  interactionParameters _ _ _ := none
  validCommissioningResponse _ _ := true
  validCommissioningWindowResponse _ _ := true
  interactionJson _ _ := none
  encodedSize _ := 0

def handshakeLine : Bytes :=
  jasonText
    (.object
      [(ascii "version", .unsigned 1), (ascii "event", .string (ascii "flow_open")),
        (ascii "session_generation", .string (List.replicate 32 97))])

def requestLine (id operation : String) : Bytes :=
  jasonText
    (Frame.document ⟨ascii id, ascii operation, [], 1000⟩)

def nestedEvents : List (Event Unit) :=
  [.line handshakeLine {}, .line (requestLine "1" "open") {}, .resume (.opened ⟨true, ""⟩) {},
    .line (requestLine "2" "commission_on_network") {}, .line (requestLine "close" "close") {},
    .resume (.commissioned { ok := true, nodeId := 5, fabricId := 1, caseEstablished := true }) {}]

theorem run_requests_orderly_nested :
    ∃ h, Monitor.run (step nestedCodec) start nestedEvents = some h ∧ h.state = .closed ∧
      h.answers.length = 4 ∧ Safe h ∧ (h.state = .closed → Ended nestedCodec h) := by
  have ends : (Monitor.run (step nestedCodec) start nestedEvents).map
      (fun h => (h.state, h.answers.length)) = some (.closed, 4) := by decide +kernel
  obtain ⟨h, ran, both⟩ := Option.map_eq_some_iff.mp ends
  obtain ⟨closed, answered⟩ := Prod.mk.inj both
  exact ⟨h, ran, closed, answered, run_requests_orderly nestedCodec ran⟩

end WotexMatter.Native.RequestMachine
