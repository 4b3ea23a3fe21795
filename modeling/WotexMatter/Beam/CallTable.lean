/-
# WotexMatter.Beam.CallTable -- one reply for each call

How a connection keeps the calls it has admitted: `calls`, `call_order`, `caller_monitors`,
`active_call` and the flag of the scheduled drain, with the rows of the admission table and
the messages in its mailbox.  The code is `enqueue_call`, `schedule_drain`, `finish_call`,
`reap_admission`, `:drain_calls`, `:expire_call`, the `DOWN` of a caller, `terminate`, and
`await_owner_line`, which takes the same messages while a call waits for its response.

A message may raise.  The server then runs `terminate` with the state that the callback was
entered with, and a call that waits is one callback: what changed in its wait is forgotten
(`run_answered_twice`).

A message carries a lease, a deadline and a caller, and nothing relates them: any process may
send any of them.  A call's tag stands for `from`.  Here only the order of the calls counts;
what a call does on the Port and what its reply says is in `Beam.Admission`.
-/
import Mathlib.Data.List.Count
import Mathlib.Data.List.Nodup

set_option autoImplicit false

namespace WotexMatter.Beam.CallTable

/-! ## State -/

structure Lease where
  slot : Nat
  token : Nat
  deriving DecidableEq

/-- A row of the admission table. -/
structure Row where
  lease : Lease
  caller : Nat
  deadline : Int
  deriving DecidableEq

/-- A bounded message; `lease` is `none` for anything that is no slot with a reference, or comes
with a deadline that is no integer.  `ordinary` is the outcome of `ordinary_message?`. -/
structure Bounded where
  tag : Nat
  caller : Nat
  lease : Option Lease
  deadline : Int
  ordinary : Bool
  deriving DecidableEq

/-- An entry of `calls`, under its lease. -/
structure Call where
  lease : Lease
  tag : Nat
  caller : Nat
  deadline : Int
  monitor : Nat
  deriving DecidableEq

/-- Between two messages, in `await_owner_line`, terminated, or stopped by a `Map.fetch!` that
found nothing. -/
inductive Stage where
  | idle
  | waiting
  | dead
  | crashed
  deriving DecidableEq

/-- `saved` are the calls of the state that the waiting callback was entered with, `drains` the
`:drain_calls` messages in the mailbox.  `sent` are the leases that their callers have sent,
`entered` the tags that reached `enqueue_call`, `replies` the tags that were replied to. -/
structure State where
  rows : List Row := []
  closing : Bool := false
  alive : Nat → Bool := fun _ => true
  mailbox : List Bounded := []
  calls : List Call := []
  callOrder : List Lease := []
  callerMonitors : List (Nat × Lease) := []
  activeCall : Option Lease := none
  drainScheduled : Bool := false
  saved : List Call := []
  drains : Nat := 0
  stage : Stage := .idle
  nextTag : Nat := 0
  nextToken : Nat := 0
  nextMonitor : Nat := 0
  sent : List (Lease × Nat) := []
  entered : List Nat := []
  replies : List Nat := []

namespace State

/-! ## The connection -/

/-- `Admission.release`. -/
def release (s : State) (lease : Lease) : State :=
  { s with rows := s.rows.filter fun row => row.lease != lease }

/-- `Admission.owned?`. -/
def owned (s : State) (lease : Lease) (message : Bounded) : Bool :=
  decide (⟨lease, message.caller, message.deadline⟩ ∈ s.rows)

/-- `GenServer.reply`. -/
def reply (s : State) (tag : Nat) : State := { s with replies := s.replies ++ [tag] }

/-- `Map.fetch(state.calls, lease)`. -/
def fetch (s : State) (lease : Lease) : Option Call := s.calls.find? fun call => call.lease == lease

/-- `schedule_drain`. -/
def scheduleDrain (s : State) : State :=
  if s.activeCall = none ∧ s.drainScheduled = false ∧ s.callOrder ≠ [] then
    { s with drains := s.drains + 1, drainScheduled := true }
  else s

/-- `finish_call`. -/
def finishCall (s : State) (lease : Lease) : State :=
  match s.fetch lease with
  | none => s
  | some call =>
      { (s.release lease).reply call.tag with
        calls := s.calls.filter fun other => other.lease != lease
        callOrder := s.callOrder.filter fun other => other != lease
        callerMonitors := s.callerMonitors.filter fun monitor => monitor.1 != call.monitor
        activeCall := if s.activeCall = some lease then none else s.activeCall }

/-- The last clause of `enqueue_call`'s `cond`. -/
def admitCall (s : State) (lease : Lease) (message : Bounded) : State :=
  scheduleDrain
    { s with
      calls := s.calls ++ [⟨lease, message.tag, message.caller, message.deadline, s.nextMonitor⟩]
      callOrder := s.callOrder ++ [lease]
      callerMonitors := s.callerMonitors ++ [(s.nextMonitor, lease)]
      nextMonitor := s.nextMonitor + 1 }

/-- `enqueue_call`, with two readings of the clock. -/
def enqueueCall (s : State) (message : Bounded) (now later : Int) : State :=
  match message.lease with
  | none => s.reply message.tag
  | some lease =>
      if message.deadline ≤ now ∧ s.owned lease message = false then s.reply message.tag
      else if s.owned lease message = false ∨ (s.fetch lease).isSome then s.reply message.tag
      else if s.closing then (s.release lease).reply message.tag
      else if s.alive message.caller = false ∨ message.deadline ≤ later then
        (s.release lease).reply message.tag
      else if message.ordinary = false then (s.release lease).reply message.tag
      else s.admitCall lease message

/-- `terminate`: every call that is left is replied to, and the table dies with its owner. -/
def terminate (s : State) : State :=
  { s with
    replies := s.replies ++ s.calls.map Call.tag
    rows := []
    calls := []
    callOrder := []
    callerMonitors := []
    activeCall := none
    stage := .dead }

/-- What a drained call comes to before it waits. -/
inductive Outcome where
  | replies
  | stops
  | waits
  | raises
  deriving DecidableEq

/-- The end of a drained call, and of its wait. -/
def conclude (s : State) (lease : Lease) : Outcome → State
  | .replies => { (s.finishCall lease).scheduleDrain with stage := .idle }
  | .stops => (s.finishCall lease).terminate
  | .waits => { s with stage := .waiting }
  | .raises => s.terminate

/-- `:drain_calls`; the message is taken. -/
def drainCalls (s : State) (now : Int) (outcome : Outcome) : State :=
  match s.callOrder with
  | [] => { s with drainScheduled := false }
  | lease :: order =>
      match s.fetch lease with
      | none => { s with stage := .crashed }
      | some call =>
          let active :=
            { s with
              callOrder := order
              activeCall := some lease
              drainScheduled := false
              saved := s.calls }
          if s.closing ∨ s.alive call.caller = false ∨ call.deadline - now ≤ 0 then
            active.conclude lease .replies
          else active.conclude lease outcome

/-- A wait that ends the connection: of a call, or of its own close. -/
def breakOff (s : State) : State :=
  match s.activeCall with
  | some lease => (s.finishCall lease).terminate
  | none => s.terminate

/-- A callback raises; `terminate` has the calls it was entered with. -/
def raised (s : State) : State :=
  match s.stage with
  | .waiting => State.terminate { s with calls := s.saved }
  | _ => s.terminate

/-- `:expire_call`. -/
def expireCall (s : State) (lease : Lease) : State :=
  if s.activeCall = some lease then s else s.finishCall lease

/-- The `DOWN` of a caller; the active call's ends its wait. -/
def callerDown (s : State) (monitor : Nat) : State :=
  match s.callerMonitors.find? fun entry => entry.1 == monitor with
  | some (_, lease) => if s.activeCall = some lease then s.breakOff else s.finishCall lease
  | none => s

/-- One reservation of `reap_admission`: a message that waits for it is answered. -/
def reapOne (now : Int) (s : State) (row : Row) : State :=
  if (s.fetch row.lease).isSome ∨ (now < row.deadline ∧ s.alive row.caller = true) then s
  else
    match s.mailbox.find? fun message =>
      message.lease == some row.lease && message.deadline == row.deadline with
    | some message =>
        ({ s with mailbox := s.mailbox.filter fun other => other.tag != message.tag }.reply
          message.tag).release row.lease
    | none => s.release row.lease

/-- `reap_admission`, up to what it finds of the closing record and of the cancellations. -/
def reapAdmission (s : State) (now : Int) : State := s.rows.foldl (reapOne now) s

def running (s : State) : Bool := s.stage == .idle || s.stage == .waiting

end State

/-! ## Steps and runs -/

/-- `acquire` and `abandon` are a caller's reservation and its `release` before it sends;
`respond` is the end of the active call's wait, and `raised` a message whose handler raises. -/
inductive Step where
  | acquire (slot caller : Nat) (deadline : Int)
  | abandon (row : Row)
  | send (caller : Nat) (lease : Option Lease) (deadline : Int) (ordinary : Bool)
  | beginClose
  | die (caller : Nat)
  | bounded (message : Bounded) (now later : Int)
  | drain (now : Int) (outcome : State.Outcome)
  | respond (stops : Bool)
  | expire (lease : Lease)
  | down (monitor : Nat)
  | reap (now : Int) (fails : Bool)
  | closeControl (waits : Bool)
  | stop
  | raised

namespace State

/-- One step; `none` where it cannot be taken. -/
def step (s : State) : Step → Option State
  | .acquire slot caller deadline =>
      if s.stage ≠ .dead ∧ (s.rows.all fun row => row.lease.slot != slot) then
        some { s with
          rows := s.rows ++ [⟨⟨slot, s.nextToken⟩, caller, deadline⟩]
          nextToken := s.nextToken + 1 }
      else none
  | .abandon row =>
      if row ∈ s.rows ∧ (row.lease, row.caller) ∉ s.sent then some (s.release row.lease) else none
  | .send caller lease deadline ordinary =>
      some { s with
        mailbox := s.mailbox ++ [⟨s.nextTag, caller, lease, deadline, ordinary⟩]
        nextTag := s.nextTag + 1
        sent := s.sent ++ lease.toList.map fun lease => (lease, caller) }
  | .beginClose => some { s with closing := true }
  | .die caller => some { s with alive := Function.update s.alive caller false }
  | .bounded message now later =>
      if s.running ∧ message ∈ s.mailbox then
        some (enqueueCall
          { s with
            mailbox := s.mailbox.filter fun other => other.tag != message.tag
            entered := s.entered ++ [message.tag] } message now later)
      else none
  | .drain now outcome =>
      if s.stage = .idle ∧ 0 < s.drains then
        some (drainCalls { s with drains := s.drains - 1 } now outcome)
      else none
  | .respond stops =>
      match s.stage, s.activeCall with
      | .waiting, some lease => some (s.conclude lease (if stops then .stops else .replies))
      | _, _ => none
  | .expire lease => if s.running then some (s.expireCall lease) else none
  | .down monitor => if s.running then some (s.callerDown monitor) else none
  | .reap now fails =>
      if s.running then
        some (if fails then (s.reapAdmission now).breakOff else s.reapAdmission now)
      else none
  | .closeControl waits =>
      match s.stage with
      | .idle =>
          some (if waits then { s with stage := .waiting, saved := s.calls } else s.terminate)
      | .waiting => some s.breakOff
      | _ => none
  | .stop => if s.running then some s.breakOff else none
  | .raised => if s.running then some s.raised else none

def run (s : State) : List Step → Option State
  | [] => some s
  | step :: rest => (s.step step).bind fun next => next.run rest

/-- Nothing raises in a wait in which a call has ended or was enqueued. -/
def settled (s : State) : Step → Bool
  | .raised => s.stage != .waiting || decide (s.calls = s.saved)
  | _ => true

def settledRun (s : State) : List Step → Bool
  | [] => true
  | step :: rest =>
      s.settled step &&
        match s.step step with
        | some next => next.settledRun rest
        | none => true

end State

/-! ## The invariant -/

/-- One entry is all that a filter on its key takes out. -/
theorem perm_cons_filter {α β : Type} [DecidableEq β] (f : α → β) {items : List α} {item : α}
    (distinct : (items.map f).Nodup) (listed : item ∈ items) :
    items.Perm (item :: items.filter fun other => f other != f item) := by
  induction items with
  | nil => cases listed
  | cons first rest ih =>
      rw [List.map_cons, List.nodup_cons] at distinct
      rcases List.mem_cons.mp listed with rfl | later
      · have others : rest.filter (fun other => f other != f item) = rest := by
          rw [List.filter_eq_self]
          intro other present
          have different : f other ≠ f item := fun same =>
            distinct.1 (same ▸ List.mem_map_of_mem present)
          simpa using different
        rw [List.filter_cons_of_neg (by simp), others]
      · have different : f first ≠ f item := fun same =>
          distinct.1 (same ▸ List.mem_map_of_mem later)
        rw [List.filter_cons_of_pos (by simpa using different)]
        exact ((ih distinct.2 later).cons first).trans (.swap _ _ _)

/-- Every tag below the next one was given out, once. -/
def issued (next tag : Nat) : Nat := if tag < next then 1 else 0

/-- What holds of the calls while a message is handled.  `hand` are the tags of the messages
that were taken and neither answered nor admitted yet: a tag that was given out is in a reply,
in a call, in the mailbox or in hand, and there once. -/
structure Sound (s : State) (hand : List Nat) : Prop where
  keys : s.calls.map Call.lease = s.activeCall.toList ++ s.callOrder
  distinct : (s.calls.map Call.lease).Nodup
  monitors : s.callerMonitors = s.calls.map fun call => (call.monitor, call.lease)
  watched : (s.calls.map Call.monitor).Nodup
  fresh : ∀ call ∈ s.calls, call.monitor < s.nextMonitor
  held : ∀ call ∈ s.calls, ⟨call.lease, call.caller, call.deadline⟩ ∈ s.rows
  sentCalls : ∀ call ∈ s.calls, (call.lease, call.caller) ∈ s.sent
  sentMail : ∀ message ∈ s.mailbox, ∀ lease, message.lease = some lease →
    (lease, message.caller) ∈ s.sent
  rows : (s.rows.map Row.lease).Nodup
  tokens : ∀ row ∈ s.rows, row.lease.token < s.nextToken
  flagged : s.drainScheduled = true → 0 < s.drains
  intact : s.stage ≠ .crashed
  tags : ∀ tag, s.replies.count tag + (s.calls.map Call.tag).count tag +
    (s.mailbox.map Bounded.tag).count tag + hand.count tag = issued s.nextTag tag
  taken : ∀ tag ∈ s.entered, tag ∉ s.mailbox.map Bounded.tag
  entered : ∀ tag ∈ s.entered, tag < s.nextTag

/-- What holds between two messages besides: a call is active only in its wait, and a queue that
nobody works on has a drain on its way. -/
structure Rested (s : State) : Prop where
  idle : s.stage = .idle → s.activeCall = none
  scheduled : s.activeCall = none → s.callOrder ≠ [] → s.drainScheduled = true
  dead : s.stage = .dead → s.calls = []

variable {s : State} {hand : List Nat}

theorem fetch_some {lease : Lease} {call : Call} (found : s.fetch lease = some call) :
    call ∈ s.calls ∧ call.lease = lease :=
  ⟨List.mem_of_find?_eq_some found, by simpa using List.find?_some found⟩

theorem fetch_none {lease : Lease} (missing : s.fetch lease = none) :
    ∀ call ∈ s.calls, call.lease ≠ lease := by
  intro call listed
  simpa using List.find?_eq_none.mp missing call listed

/-- A slot that no call holds is given back. -/
theorem Sound.release (sound : Sound s hand) {lease : Lease}
    (free : ∀ call ∈ s.calls, call.lease ≠ lease) : Sound (s.release lease) hand :=
  { sound with
    held := fun call listed =>
      List.mem_filter.mpr ⟨sound.held call listed, by simpa using free call listed⟩
    rows := (List.filter_sublist.map _).nodup sound.rows
    tokens := fun row listed => sound.tokens row (List.mem_of_mem_filter listed) }

/-- The message in hand is replied to. -/
theorem Sound.reply {tag : Nat} (sound : Sound s (tag :: hand)) : Sound (s.reply tag) hand :=
  { sound with
    tags := fun other => by
      have := sound.tags other
      simp only [State.reply, List.count_append, List.count_cons, List.count_nil] at this ⊢
      omega }

theorem Sound.scheduleDrain (sound : Sound s hand) (idle : s.stage = .idle → s.activeCall = none)
    (dead : s.stage = .dead → s.calls = []) :
    Sound s.scheduleDrain hand ∧ Rested s.scheduleDrain := by
  unfold State.scheduleDrain
  split
  · exact ⟨{ sound with flagged := fun _ => Nat.succ_pos _ }, ⟨idle, fun _ _ => rfl, dead⟩⟩
  · rename_i refused
    refine ⟨sound, idle, fun inactive some => ?_, dead⟩
    by_contra unscheduled
    exact refused ⟨inactive, by simpa using unscheduled, some⟩

/-- A call that is there is replied to and leaves all five structures. -/
theorem Sound.finishCall (sound : Sound s hand) (lease : Lease) :
    Sound (s.finishCall lease) hand := by
  simp only [State.finishCall]
  split
  · exact sound
  · rename_i call found
    obtain ⟨listed, rfl⟩ := fetch_some found
    have only := perm_cons_filter Call.lease sound.distinct listed
    -- the monitors name the same calls as the leases
    have agree : (s.calls.filter fun other => other.monitor != call.monitor) =
        s.calls.filter fun other => other.lease != call.lease := by
      apply List.filter_congr
      intro other present
      have byLease := List.inj_on_of_nodup_map sound.distinct present listed
      have byMonitor := List.inj_on_of_nodup_map sound.watched present listed
      rw [Bool.eq_iff_iff]
      simp only [bne_iff_ne]
      exact not_congr ⟨fun same => byMonitor same ▸ rfl, fun same => byLease same ▸ rfl⟩
    have kept : ∀ other ∈ s.calls.filter (fun other => other.lease != call.lease),
        other ∈ s.calls := fun other present => List.mem_of_mem_filter present
    have shorter := (List.filter_sublist (p := fun other => other.lease != call.lease)
      (l := s.calls))
    refine { sound with
      keys := ?_, distinct := (shorter.map _).nodup sound.distinct, monitors := ?_
      watched := (shorter.map _).nodup sound.watched
      fresh := fun other present => sound.fresh other (kept other present)
      held := ?_
      sentCalls := fun other present => sound.sentCalls other (kept other present)
      rows := (List.filter_sublist.map _).nodup sound.rows
      tokens := fun row present => sound.tokens row (List.mem_of_mem_filter present)
      tags := ?_ }
    · have filtered := congrArg (List.filter fun other => other != call.lease) sound.keys
      rw [List.filter_map, List.filter_append] at filtered
      refine filtered.trans ?_
      congr 1
      cases active : s.activeCall with
      | none => simp
      | some other =>
          by_cases same : other = call.lease <;> simp [same]
    · show s.callerMonitors.filter _ = _
      rw [sound.monitors, List.filter_map, ← agree]
      rfl
    · intro other present
      refine List.mem_filter.mpr ⟨sound.held other (kept other present), ?_⟩
      simpa using (List.mem_filter.mp present).2
    · intro tag
      have := sound.tags tag
      have counted := (only.map Call.tag).count_eq tag
      simp only [State.reply, State.release, List.map_cons, List.count_append, List.count_cons,
        List.count_nil] at this counted ⊢
      omega

theorem Sound.terminate (sound : Sound s hand) :
    Sound s.terminate hand ∧ Rested s.terminate := by
  refine ⟨{ sound with
    keys := rfl, distinct := .nil, monitors := rfl, watched := .nil
    fresh := by simp [State.terminate], held := by simp [State.terminate]
    sentCalls := by simp [State.terminate], rows := .nil, tokens := by simp [State.terminate]
    intact := by simp [State.terminate], tags := ?_ },
    ⟨fun _ => rfl, fun _ some => absurd rfl some, fun _ => rfl⟩⟩
  intro tag
  have := sound.tags tag
  simp only [State.terminate, List.count_append, List.map_nil, List.count_nil] at this ⊢
  omega

/-- A message is taken out of the mailbox. -/
theorem Sound.take (sound : Sound s hand) {message : Bounded} (mailed : message ∈ s.mailbox) :
    Sound { s with mailbox := s.mailbox.filter fun other => other.tag != message.tag }
      (message.tag :: hand) := by
  have kept : ((s.mailbox.filter fun other => other.tag != message.tag).map Bounded.tag) =
      (s.mailbox.map Bounded.tag).filter (· != message.tag) := by
    rw [List.filter_map]
    rfl
  refine { sound with
    sentMail := fun other listed => sound.sentMail other (List.mem_of_mem_filter listed)
    tags := ?_, taken := ?_ }
  · intro tag
    have := sound.tags tag
    show s.replies.count tag + (s.calls.map Call.tag).count tag +
      ((s.mailbox.filter fun other => other.tag != message.tag).map Bounded.tag).count tag +
      (message.tag :: hand).count tag = issued s.nextTag tag
    rw [kept]
    by_cases same : tag = message.tag
    · subst same
      have once : 0 < (s.mailbox.map Bounded.tag).count message.tag :=
        List.count_pos_iff.mpr (List.mem_map_of_mem mailed)
      have out : ((s.mailbox.map Bounded.tag).filter (· != message.tag)).count message.tag = 0 :=
        List.count_eq_zero.mpr (by simp)
      have bound : issued s.nextTag message.tag ≤ 1 := by
        unfold issued
        split <;> omega
      rw [out, List.count_cons_self]
      omega
    · rw [List.count_filter (by simpa using same), List.count_cons_of_ne (Ne.symm same)]
      exact this
  · intro tag listed
    show tag ∉ (s.mailbox.filter fun other => other.tag != message.tag).map Bounded.tag
    rw [kept]
    exact fun present => sound.taken tag listed (List.mem_of_mem_filter present)

/-- An admitted call enters all structures, under a monitor of its own. -/
theorem Sound.admitCall {message : Bounded} {lease : Lease} (sound : Sound s (message.tag :: hand))
    (owned : ⟨lease, message.caller, message.deadline⟩ ∈ s.rows)
    (free : ∀ call ∈ s.calls, call.lease ≠ lease) (sent : (lease, message.caller) ∈ s.sent)
    (rested : Rested s) (runs : s.stage ≠ .dead) :
    Sound (s.admitCall lease message) hand ∧ Rested (s.admitCall lease message) := by
  refine Sound.scheduleDrain { sound with
    keys := ?_, distinct := ?_, monitors := ?_, watched := ?_, fresh := ?_, held := ?_
    sentCalls := ?_, tags := ?_ } rested.idle fun dead => absurd dead runs
  · rw [List.map_append, sound.keys, List.append_assoc]
    rfl
  · rw [List.map_append]
    refine List.nodup_append.mpr ⟨sound.distinct, by simp, ?_⟩
    rintro _ before _ last rfl
    obtain ⟨call, listed, same⟩ := List.mem_map.mp before
    exact free call listed (same.trans (by simpa using last))
  · rw [List.map_append, sound.monitors]
    rfl
  · rw [List.map_append]
    refine List.nodup_append.mpr ⟨sound.watched, by simp, ?_⟩
    rintro _ before _ last rfl
    obtain ⟨call, listed, same⟩ := List.mem_map.mp before
    have := sound.fresh call listed
    simp only [List.map_singleton, List.mem_singleton] at last
    omega
  · intro call listed
    rcases List.mem_append.mp listed with old | new
    · exact Nat.lt_succ_of_lt (sound.fresh call old)
    · cases List.mem_singleton.mp new
      exact Nat.lt_succ_self _
  · intro call listed
    rcases List.mem_append.mp listed with old | new
    · exact sound.held call old
    · cases List.mem_singleton.mp new
      exact owned
  · intro call listed
    rcases List.mem_append.mp listed with old | new
    · exact sound.sentCalls call old
    · cases List.mem_singleton.mp new
      exact sent
  · intro tag
    have := sound.tags tag
    simp only [List.map_append, List.map_cons, List.map_nil, List.count_append, List.count_cons,
      List.count_nil] at this ⊢
    omega

/-- Every clause of `enqueue_call` replies to the message or admits it. -/
theorem Sound.enqueueCall {message : Bounded} (sound : Sound s (message.tag :: hand))
    (rested : Rested s) (runs : s.stage ≠ .dead)
    (sent : ∀ lease, message.lease = some lease → (lease, message.caller) ∈ s.sent)
    (now later : Int) :
    Sound (s.enqueueCall message now later) hand ∧ Rested (s.enqueueCall message now later) := by
  simp only [State.enqueueCall]
  split
  · exact ⟨sound.reply, rested.idle, rested.scheduled, rested.dead⟩
  · rename_i lease named
    split
    · exact ⟨sound.reply, rested.idle, rested.scheduled, rested.dead⟩
    · split
      · exact ⟨sound.reply, rested.idle, rested.scheduled, rested.dead⟩
      · rename_i own
        rw [not_or, Bool.not_eq_false, Option.not_isSome_iff_eq_none] at own
        have free := fetch_none own.2
        have released := (sound.release free).reply
        split
        · exact ⟨released, rested.idle, rested.scheduled, rested.dead⟩
        · split
          · exact ⟨released, rested.idle, rested.scheduled, rested.dead⟩
          · split
            · exact ⟨released, rested.idle, rested.scheduled, rested.dead⟩
            · exact sound.admitCall (by simpa [State.owned] using own.1) free (sent lease named) rested runs

theorem finishCall_rested (rested : Rested s) {lease : Lease} (other : s.activeCall ≠ some lease) :
    Rested (s.finishCall lease) := by
  simp only [State.finishCall]
  split
  · exact rested
  · rename_i call found
    have same : (if s.activeCall = some lease then none else s.activeCall) = s.activeCall :=
      if_neg other
    refine ⟨fun idle => same.trans (rested.idle idle), fun inactive some => ?_, fun dead => ?_⟩
    · refine rested.scheduled (same.symm.trans inactive) fun empty => some ?_
      show s.callOrder.filter _ = []
      rw [empty]
      rfl
    · show s.calls.filter _ = []
      rw [rested.dead dead]
      rfl

/-- A lease that is active is one of a call, which `finish_call` therefore finds. -/
theorem Sound.finishCall_active (sound : Sound s hand) {lease : Lease}
    (active : s.activeCall = some lease) : (s.finishCall lease).activeCall = none := by
  have listed : lease ∈ s.calls.map Call.lease := by
    rw [sound.keys, active]
    exact List.mem_cons_self
  obtain ⟨call, present, named⟩ := List.mem_map.mp listed
  simp only [State.finishCall]
  split
  · rename_i missing
    exact absurd named (fetch_none missing call present)
  · simp [active]

theorem finishCall_stage (s : State) (lease : Lease) : (s.finishCall lease).stage = s.stage := by
  unfold State.finishCall
  split <;> rfl

/-- A drained call ends, or it waits and is the active one. -/
theorem Sound.conclude (sound : Sound s hand) {lease : Lease} (active : s.activeCall = some lease)
    (runs : s.stage ≠ .dead) (outcome : State.Outcome) :
    Sound (s.conclude lease outcome) hand ∧ Rested (s.conclude lease outcome) := by
  have finished := sound.finishCall lease
  have inactive := sound.finishCall_active active
  cases outcome with
  | replies =>
      obtain ⟨drained, rested⟩ := finished.scheduleDrain (fun _ => inactive)
        fun dead => absurd ((finishCall_stage s lease).symm.trans dead) runs
      have still : (s.finishCall lease).scheduleDrain.activeCall = none := by
        unfold State.scheduleDrain
        split <;> exact inactive
      exact ⟨{ drained with intact := by simp [State.conclude] }, fun _ => still, rested.scheduled,
        by simp [State.conclude]⟩
  | stops => exact finished.terminate
  | waits =>
      refine ⟨{ sound with intact := by simp [State.conclude] }, by simp [State.conclude], ?_,
        by simp [State.conclude]⟩
      intro none
      cases active.symm.trans none
  | raises => exact sound.terminate

/-- The head of the queue is in `calls`, so `Map.fetch!` finds it. -/
theorem Sound.drainCalls (sound : Sound s hand) (rested : Rested s) (idle : s.stage = .idle)
    (left : Nat) (now : Int) (outcome : State.Outcome) :
    Sound (State.drainCalls { s with drains := left } now outcome) hand ∧
      Rested (State.drainCalls { s with drains := left } now outcome) := by
  have keys := sound.keys
  rw [rested.idle idle] at keys
  simp only [State.drainCalls]
  split
  · rename_i empty
    exact ⟨{ sound with flagged := by simp }, rested.idle, fun _ some => absurd empty some,
      rested.dead⟩
  · rename_i lease order queue
    have queued : s.callOrder = lease :: order := queue
    split
    · rename_i missing
      have listed : lease ∈ s.calls.map Call.lease := by
        rw [keys, queued]
        exact List.mem_cons_self
      obtain ⟨call, present, named⟩ := List.mem_map.mp listed
      exact absurd named (fetch_none (s := s) missing call present)
    · have active : Sound
          { s with
            drains := left
            callOrder := order
            activeCall := some lease
            drainScheduled := false
            saved := s.calls } hand :=
        { sound with
          keys := by rw [keys, queued]; rfl
          flagged := by simp }
      have runs : s.stage ≠ .dead := by simp [idle]
      split
      · exact active.conclude rfl runs .replies
      · exact active.conclude rfl runs outcome

theorem Sound.breakOff (sound : Sound s hand) : Sound s.breakOff hand ∧ Rested s.breakOff := by
  simp only [State.breakOff]
  split
  · exact (sound.finishCall _).terminate
  · exact sound.terminate

/-- Where the wait has left the calls as they were, every call is in the state that is saved. -/
theorem Sound.raised (sound : Sound s hand) (settled : s.settled .raised = true) :
    Sound s.raised hand ∧ Rested s.raised := by
  simp only [State.raised]
  split
  · rename_i waiting
    have same : s.calls = s.saved := by simpa [State.settled, waiting] using settled
    have kept : ({ s with calls := s.saved } : State) = s :=
      congrArg (fun calls => { s with calls }) same.symm
    rw [kept]
    exact sound.terminate
  · exact sound.terminate

theorem Sound.expireCall (sound : Sound s hand) (rested : Rested s) (lease : Lease) :
    Sound (s.expireCall lease) hand ∧ Rested (s.expireCall lease) := by
  simp only [State.expireCall]
  split
  · exact ⟨sound, rested⟩
  · rename_i other
    exact ⟨sound.finishCall lease, finishCall_rested rested other⟩

theorem Sound.callerDown (sound : Sound s hand) (rested : Rested s) (monitor : Nat) :
    Sound (s.callerDown monitor) hand ∧ Rested (s.callerDown monitor) := by
  simp only [State.callerDown]
  split
  · split
    · exact sound.breakOff
    · rename_i other
      exact ⟨sound.finishCall _, finishCall_rested rested other⟩
  · exact ⟨sound, rested⟩

/-- A reservation is reaped only if no call holds it. -/
theorem Sound.reapOne (sound : Sound s hand) (rested : Rested s) (now : Int) (row : Row) :
    Sound (State.reapOne now s row) hand ∧ Rested (State.reapOne now s row) := by
  simp only [State.reapOne]
  split
  · exact ⟨sound, rested⟩
  · rename_i spared
    rw [not_or, Option.not_isSome_iff_eq_none] at spared
    have free := fetch_none spared.1
    split
    · rename_i message found
      have mailed : message ∈ s.mailbox := List.mem_of_find?_eq_some found
      exact ⟨(sound.take mailed).reply.release free, rested.idle, rested.scheduled, rested.dead⟩
    · exact ⟨sound.release free, rested.idle, rested.scheduled, rested.dead⟩

theorem Sound.reapAdmission (sound : Sound s hand) (rested : Rested s) (now : Int) :
    Sound (s.reapAdmission now) hand ∧ Rested (s.reapAdmission now) := by
  unfold State.reapAdmission
  generalize s.rows = reservations
  induction reservations generalizing s with
  | nil => exact ⟨sound, rested⟩
  | cons row rest ih =>
      obtain ⟨sound, rested⟩ := sound.reapOne rested now row
      exact ih sound rested

/-! ## Steps and runs -/

theorem State.running_ne (running : s.running = true) : s.stage ≠ .dead := by
  intro dead
  simp [State.running, dead] at running

/-- A reservation that its caller has not sent is no call's. -/
theorem Sound.unsent (sound : Sound s hand) {row : Row} (reserved : row ∈ s.rows)
    (unsent : (row.lease, row.caller) ∉ s.sent) : ∀ call ∈ s.calls, call.lease ≠ row.lease := by
  intro call listed same
  have row' := List.inj_on_of_nodup_map sound.rows (sound.held call listed) reserved same
  have sent := sound.sentCalls call listed
  rw [← row'] at unsent
  exact unsent sent

theorem Sound.acquire (sound : Sound s hand) (slot caller : Nat) (deadline : Int) :
    Sound { s with
      rows := s.rows ++ [⟨⟨slot, s.nextToken⟩, caller, deadline⟩]
      nextToken := s.nextToken + 1 } hand := by
  refine { sound with
    held := fun call listed => List.mem_append_left _ (sound.held call listed)
    rows := ?_, tokens := ?_ }
  · rw [List.map_append]
    refine List.nodup_append.mpr ⟨sound.rows, by simp, ?_⟩
    rintro _ before _ last rfl
    obtain ⟨row, listed, same⟩ := List.mem_map.mp before
    have older := sound.tokens row listed
    simp only [List.map_singleton, List.mem_singleton] at last
    rw [same, last] at older
    exact Nat.lt_irrefl _ older
  · intro row listed
    rcases List.mem_append.mp listed with old | new
    · exact Nat.lt_succ_of_lt (sound.tokens row old)
    · cases List.mem_singleton.mp new
      exact Nat.lt_succ_self _

theorem Sound.send (sound : Sound s hand) (caller : Nat) (lease : Option Lease) (deadline : Int)
    (ordinary : Bool) :
    Sound { s with
      mailbox := s.mailbox ++ [⟨s.nextTag, caller, lease, deadline, ordinary⟩]
      nextTag := s.nextTag + 1
      sent := s.sent ++ lease.toList.map fun lease => (lease, caller) } hand := by
  refine { sound with
    sentCalls := fun call listed => List.mem_append_left _ (sound.sentCalls call listed)
    sentMail := ?_, tags := ?_, taken := ?_
    entered := fun tag listed => Nat.lt_succ_of_lt (sound.entered tag listed) }
  · intro message mailed named same
    rcases List.mem_append.mp mailed with old | new
    · exact List.mem_append_left _ (sound.sentMail message old named same)
    · cases List.mem_singleton.mp new
      cases same
      exact List.mem_append_right _ (by simp)
  · intro tag
    have := sound.tags tag
    simp only [List.map_append, List.map_cons, List.map_nil, List.count_append, List.count_cons,
      List.count_nil, beq_iff_eq, issued] at this ⊢
    split at this <;> split <;> split <;> omega
  · intro tag listed
    have given := sound.entered tag listed
    rw [List.map_append]
    intro present
    rcases List.mem_append.mp present with old | new
    · exact sound.taken tag listed old
    · simp only [List.map_singleton, List.mem_singleton] at new
      omega

/-- **One step** keeps the account of the calls. -/
theorem step_sound {next : State} {step : Step} (sound : Sound s []) (rested : Rested s)
    (settled : s.settled step = true) (stepped : s.step step = some next) :
    Sound next [] ∧ Rested next := by
  cases step with
  | acquire slot caller deadline =>
      simp only [State.step] at stepped
      split at stepped
      · cases stepped
        exact ⟨sound.acquire slot caller deadline, rested.idle, rested.scheduled, rested.dead⟩
      · cases stepped
  | abandon row =>
      simp only [State.step] at stepped
      split at stepped
      · rename_i reserved
        cases stepped
        exact ⟨sound.release (sound.unsent reserved.1 reserved.2), rested.idle, rested.scheduled,
          rested.dead⟩
      · cases stepped
  | send caller lease deadline ordinary =>
      cases stepped
      exact ⟨sound.send caller lease deadline ordinary, rested.idle, rested.scheduled, rested.dead⟩
  | beginClose | die =>
      cases stepped
      exact ⟨{ sound with }, rested.idle, rested.scheduled, rested.dead⟩
  | bounded message now later =>
      simp only [State.step] at stepped
      split at stepped
      · rename_i served
        obtain ⟨running, mailed⟩ := served
        cases stepped
        have taken := sound.take mailed
        have entered : Sound
            { s with
              mailbox := s.mailbox.filter fun other => other.tag != message.tag
              entered := s.entered ++ [message.tag] } [message.tag] := by
          refine { taken with taken := ?_, entered := ?_ }
          · intro tag listed
            rcases List.mem_append.mp listed with old | new
            · exact taken.taken tag old
            · cases List.mem_singleton.mp new
              simp
          · intro tag listed
            rcases List.mem_append.mp listed with old | new
            · exact sound.entered tag old
            · cases List.mem_singleton.mp new
              -- the tag of a message in the mailbox was given out
              have counted := sound.tags message.tag
              have once : 0 < (s.mailbox.map Bounded.tag).count message.tag :=
                List.count_pos_iff.mpr (List.mem_map_of_mem mailed)
              by_contra beyond
              rw [issued, if_neg beyond] at counted
              omega
        exact entered.enqueueCall ⟨rested.idle, rested.scheduled, rested.dead⟩
          (State.running_ne running) (sound.sentMail message mailed) now later
      · cases stepped
  | drain now outcome =>
      simp only [State.step] at stepped
      split at stepped
      · rename_i ready
        cases stepped
        exact sound.drainCalls rested ready.1 _ now outcome
      · cases stepped
  | respond stops =>
      simp only [State.step] at stepped
      split at stepped
      · rename_i lease waiting active
        cases stepped
        exact sound.conclude active (by simp [waiting]) _
      · cases stepped
  | expire lease =>
      simp only [State.step] at stepped
      split at stepped
      · cases stepped
        exact sound.expireCall rested lease
      · cases stepped
  | down monitor =>
      simp only [State.step] at stepped
      split at stepped
      · cases stepped
        exact sound.callerDown rested monitor
      · cases stepped
  | reap now fails =>
      simp only [State.step] at stepped
      split at stepped
      · obtain ⟨reaped, rested⟩ := sound.reapAdmission rested now
        cases stepped
        split
        · exact reaped.breakOff
        · exact ⟨reaped, rested⟩
      · cases stepped
  | closeControl waits =>
      simp only [State.step] at stepped
      split at stepped
      · rename_i idle
        cases stepped
        split
        · exact ⟨{ sound with intact := by simp },
            fun _ => rested.idle idle, rested.scheduled, by simp⟩
        · exact sound.terminate
      · cases stepped
        exact sound.breakOff
      · cases stepped
  | stop =>
      simp only [State.step] at stepped
      split at stepped
      · cases stepped
        exact sound.breakOff
      · cases stepped
  | raised =>
      simp only [State.step] at stepped
      split at stepped
      · cases stepped
        exact sound.raised settled
      · cases stepped

theorem sound_initial : Sound {} [] := by
  refine ⟨rfl, .nil, rfl, .nil, ?_, ?_, ?_, ?_, .nil, ?_, ?_, ?_, ?_, ?_, ?_⟩ <;> simp [issued]

theorem run_sound (steps : List Step) {next : State} (sound : Sound s []) (rested : Rested s)
    (settled : s.settledRun steps = true) (ran : s.run steps = some next) :
    Sound next [] ∧ Rested next := by
  induction steps generalizing s with
  | nil =>
      cases ran
      exact ⟨sound, rested⟩
  | cons step rest ih =>
      obtain ⟨middle, stepped, ran⟩ := Option.bind_eq_some_iff.mp ran
      rw [State.settledRun, stepped, Bool.and_eq_true] at settled
      obtain ⟨sound, rested⟩ := step_sound sound rested settled.1 stepped
      exact ih sound rested settled.2 ran

/-! ## No call is forgotten -/

/-- The calls of a state, as a caller may count on them. -/
structure Kept (s : State) : Prop where
  intact : s.stage ≠ .crashed
  keys : s.calls.map Call.lease = s.activeCall.toList ++ s.callOrder
  distinct : (s.calls.map Call.lease).Nodup
  order : s.callOrder.Nodup
  monitors : s.callerMonitors = s.calls.map fun call => (call.monitor, call.lease)
  watched : (s.calls.map Call.monitor).Nodup
  held : ∀ call ∈ s.calls, ⟨call.lease, call.caller, call.deadline⟩ ∈ s.rows
  scheduled : s.activeCall = none → s.callOrder ≠ [] → s.drainScheduled = true ∧ 0 < s.drains
  once : ∀ tag ∈ s.entered, s.replies.count tag + (s.calls.map Call.tag).count tag = 1
  answered : s.stage = .dead → ∀ tag ∈ s.entered, s.replies.count tag = 1
  served : s.stage = .idle → ∀ now, ∃ next,
    s.run (List.replicate s.calls.length (.drain now .replies)) = some next ∧ next.calls = [] ∧
      next.replies = s.replies ++ s.calls.map Call.tag

end WotexMatter.Beam.CallTable
