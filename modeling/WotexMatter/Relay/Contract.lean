/-
# WotexMatter.Relay.Contract -- what the relay owes its owner and the connection

`next` is an automaton over what a relay does.  It gives out frames with fresh tokens, at most
64 of them at a time; it sends a consumption message only when the owner's frame is handed out
in the same breath, and hands a frame out once; after an error it sends nothing but the status,
and it gives its subscription and its session back once.

`run_faithful` says that the relay of the source keeps to it in every run, whatever arrives in
whatever order.  `run_credit` and `run_owner` are read off the automaton.
-/
import WotexMatter.Theory.Monitor
import WotexMatter.Relay.RuntimeRelay

set_option autoImplicit false
set_option linter.unusedSectionVars false

namespace WotexMatter.Relay

open WotexMatter.Theory WotexMatter.Value WotexMatter.Tlv

variable {F : Type} [DecidableEq F]

/-! ## The automaton -/

/-- `failed` tells whether an error was sent before. -/
inductive Phase where
  | live
  | failing
  | letting (failed : Bool)
  | leaving (failed : Bool)
  | left (failed : Bool)
  | ended
deriving DecidableEq

structure Account (F : Type) where
  outstanding : Table Nat (Payload F × Option (Delivery F)) := ∅
  /-- No token from here on has been given out. -/
  issued : Nat := 0
  /-- The delivery whose credit went back and whose frame is not handed out yet. -/
  owed : Option (Delivery F) := none
  phase : Phase := .live

/-- What may follow in a phase. -/
def Phase.next : Phase → RelayEvent F → Option Phase
  | .live, .framed .. | .live, .consumed _ | .live, .returned .. => some .live
  | .live, .errored _ => some .failing
  | .live, .demonitored => some (.letting false)
  | .failing, .demonitored => some (.letting true)
  | .live, .unsubscribed => some (.leaving false)
  | .failing, .unsubscribed => some (.leaving true)
  | .letting failed, .unsubscribed => some (.leaving failed)
  | .leaving failed, .disconnected => some (.left failed)
  | .left true, .statused _ => some .ended
  | _, _ => none

/-- What may follow, and what it leaves outstanding. -/
def Account.next (owner : Nat) (a : Account F) (event : RelayEvent F) : Option (Account F) :=
  (a.phase.next event).bind fun phase =>
    match event with
    | .framed token payload native =>
        if a.owed = none ∧ token = a.issued ∧ Table.size a.outstanding < openingLimit then
          some { a with
            outstanding := a.outstanding.insert token (payload, native)
            issued := a.issued + 1 }
        else none
    | .consumed delivery => if a.owed = none then some { a with owed := some delivery } else none
    | .returned caller token payload =>
        if caller = owner ∧ a.outstanding.lookup token = some (payload, a.owed) then
          some { a with outstanding := a.outstanding.erase token, owed := none }
        else none
    | _ => if a.owed = none then some { a with phase } else none

/-- The event belongs to the end of the stream. -/
def RelayEvent.parting : RelayEvent F → Bool
  | .framed .. | .consumed _ | .returned .. => false
  | _ => true

section Moves

variable {owner : Nat} {a : Account F} {event : RelayEvent F} {phase : Phase}

/-- A parting event is taken where the phase admits it. -/
theorem Account.next_parting (goes : a.phase.next event = some phase) (unowed : a.owed = none)
    (parting : event.parting = true) : a.next owner event = some { a with phase } := by
  rw [Account.next, goes, Option.bind_some]
  cases event with
  | framed | consumed | returned => cases parting
  | errored | demonitored | unsubscribed | disconnected | statused => exact if_pos unowed

/-- A live relay may give out a frame while there is room. -/
theorem Account.next_framed (live : a.phase = .live) (unowed : a.owed = none)
    (room : Table.size a.outstanding < openingLimit) (payload : Payload F)
    (native : Option (Delivery F)) :
    a.next owner (.framed a.issued payload native) = some { a with
      outstanding := a.outstanding.insert a.issued (payload, native)
      issued := a.issued + 1 } := by
  rw [Account.next, live]
  refine (if_pos ⟨unowed, rfl, room⟩).trans ?_
  rw [← live]

/-- It may owe one delivery's credit at a time. -/
theorem Account.next_consumed (live : a.phase = .live) (unowed : a.owed = none)
    (delivery : Delivery F) :
    a.next owner (.consumed delivery) = some { a with owed := some delivery } := by
  rw [Account.next, live]
  refine (if_pos unowed).trans ?_
  rw [← live]

/-- A frame is handed out to its owner, with the credit that is owed for it. -/
theorem Account.next_returned (live : a.phase = .live) {token : Nat} {payload : Payload F}
    (stands : a.outstanding.lookup token = some (payload, a.owed)) :
    a.next owner (.returned owner token payload) =
      some { a with outstanding := a.outstanding.erase token, owed := none } := by
  rw [Account.next, live]
  refine (if_pos ⟨rfl, stands⟩).trans ?_
  rw [← live]

end Moves

/-- The log is accepted and leaves `a`. -/
def Accepts (owner : Nat) (log : List (RelayEvent F)) (a : Account F) : Prop :=
  Monitor.run (Account.next owner) {} log = some a

theorem Accepts.snoc {owner : Nat} {log : List (RelayEvent F)} {a b : Account F}
    {e : RelayEvent F} (accepts : Accepts owner log a) (moves : a.next owner e = some b) :
    Accepts owner (log ++ [e]) b := by
  rw [Accepts, Monitor.run_snoc, accepts, Option.bind_some, moves]

/-! ## The relay keeps to it -/

/-- The relay is bound, and what is pending is what is outstanding. -/
structure Live (r : RuntimeRelay F) (a : Account F) : Prop where
  state : r.state = .bound
  closed : r.closed = false
  stopped : r.stopped = false
  phase : a.phase = .live
  owed : a.owed = none
  issued : a.issued = r.references
  pending : ∀ token, r.pending.lookup token =
    (a.outstanding.lookup token).map fun entry => (r.route, entry.1, entry.2)
  fresh : ∀ token, r.references ≤ token → a.outstanding.lookup token = none
  room : Table.size a.outstanding ≤ openingLimit

/-- The relay has stopped, with a status when it had failed. -/
structure Gone (r : RuntimeRelay F) (a : Account F) : Prop where
  stopped : r.stopped = true
  owed : a.owed = none
  phase : a.phase = .left false ∨ a.phase = .ended

/-- The log of the relay is accepted. -/
structure Faithful (r : RuntimeRelay F) : Prop where
  intro ::
  account : ∃ a, Accepts r.owner r.log a ∧ (Live r a ∨ Gone r a)

theorem Live.size {r : RuntimeRelay F} {a : Account F} (live : Live r a) :
    Table.size r.pending = Table.size a.outstanding := by
  unfold Table.size
  congr 1
  ext token
  rw [Table.mem_keys_iff, Table.mem_keys_iff, live.pending, Option.isSome_map]

section Steps

variable {r : RuntimeRelay F} {a : Account F} (floats : Floats F) (world : RelayWorld)

theorem bound_faithful (binding : RuntimeRelay.Binding) (opening : List (RelayInfo F)) :
    Faithful (RuntimeRelay.bound binding opening) := by
  refine ⟨{}, rfl, Or.inl ⟨rfl, rfl, rfl, rfl, rfl, rfl, ?_, ?_, ?_⟩⟩
  · intro token
    simp [RuntimeRelay.bound]
  · intro token _
    simp
  · simp [Table.size, openingLimit]

/-- Giving the subscription and the session back. -/
theorem released_accepts {failed : Bool} (accepts : Accepts r.owner r.log a)
    (unowed : a.owed = none) (phase : a.phase = if failed then .failing else .live) :
    Accepts r.owner r.released.log { a with phase := .left failed } := by
  have lets : ∀ {log : List (RelayEvent F)} {b : Account F}, Accepts r.owner log b →
      b.owed = none → (b.phase = (if failed then .failing else .live) ∨ b.phase = .letting failed) →
      Accepts r.owner (log ++ [.unsubscribed, .disconnected]) { b with phase := .left failed } := by
    intro log b accepted unowed phases
    have leaves : b.next r.owner .unsubscribed = some { b with phase := .leaving failed } := by
      refine Account.next_parting ?_ unowed rfl
      rcases phases with phases | phases
      · rw [phases]
        cases failed <;> rfl
      · rw [phases]
        rfl
    have goes := (accepted.snoc leaves).snoc (e := .disconnected)
      (b := { b with phase := .left failed }) (Account.next_parting rfl unowed rfl)
    simpa using goes
  unfold RuntimeRelay.released
  dsimp only
  split
  · have demonitors : a.next r.owner .demonitored = some { a with phase := .letting failed } := by
      refine Account.next_parting ?_ unowed rfl
      rw [phase]
      cases failed <;> rfl
    have goes := lets (accepts.snoc demonitors) unowed (Or.inr rfl)
    exact goes
  · rw [List.append_nil]
    exact lets accepts unowed (Or.inl phase)

theorem closeResources_open (open' : r.closed = false) :
    (r.closeResources world).2 = r.released := by
  simp [RuntimeRelay.closeResources, open']

theorem stop_closed (closed : r.closed = true) : r.stop world = { r with stopped := true } := by
  simp [RuntimeRelay.stop, closed]

/-- The relay lets go without an error. -/
theorem part_faithful (accepts : Accepts r.owner r.log a) (live : Live r a) :
    Faithful (RuntimeRelay.stop world
      (RuntimeRelay.closeResources world { r with state := .closing }).2) := by
  rw [closeResources_open world (by exact live.closed), stop_closed world rfl]
  have parts : Accepts r.owner _ { a with phase := .left false } :=
    released_accepts (r := { r with state := .closing }) accepts
    live.owed (by exact live.phase)
  exact ⟨_, parts, Or.inr ⟨rfl, live.owed, Or.inl rfl⟩⟩

theorem terminateStream_faithful (accepts : Accepts r.owner r.log a) (live : Live r a)
    (error : RelayError) (status : TransportStatus) :
    Faithful (r.terminateStream world error status) := by
  unfold RuntimeRelay.terminateStream
  rw [closeResources_open world (by exact live.closed), stop_closed world rfl]
  have fails : a.next r.owner (.errored error) = some { a with phase := .failing } := by
    refine Account.next_parting ?_ live.owed rfl
    rw [live.phase]
    rfl
  have parts : Accepts r.owner _ { a with phase := .left true } :=
    released_accepts (r := { r.report (.errored error) with state := .closing })
      (a := { a with phase := .failing }) (accepts.snoc fails) live.owed rfl
  have tells := parts.snoc (e := .statused status)
    (b := { a with phase := .ended }) (Account.next_parting rfl live.owed rfl)
  exact ⟨_, tells, Or.inr ⟨rfl, live.owed, Or.inr rfl⟩⟩

theorem sendFrame_faithful (accepts : Accepts r.owner r.log a) (live : Live r a)
    (room : Table.size r.pending < openingLimit) (payload : Payload F)
    (native : Option (Delivery F)) : Faithful (r.sendFrame payload native) := by
  rw [live.size] at room
  have gives : a.next r.owner (.framed r.references payload native) = some { a with
      outstanding := a.outstanding.insert r.references (payload, native)
      issued := a.issued + 1 } := by
    rw [← live.issued]
    exact Account.next_framed live.phase live.owed room payload native
  refine ⟨_, accepts.snoc gives, Or.inl ⟨live.state, live.closed, live.stopped, live.phase,
    live.owed, ?_, ?_, ?_, ?_⟩⟩
  · simp [RuntimeRelay.sendFrame, live.issued]
  · intro token
    simp only [RuntimeRelay.sendFrame, RuntimeRelay.report, Table.lookup_insert]
    split
    · rfl
    · exact live.pending token
  · intro token above
    have above' : r.references + 1 ≤ token := above
    rw [Table.lookup_insert, if_neg (by omega)]
    exact live.fresh token (by omega)
  · rw [Table.size_insert_of_fresh _ (live.fresh _ le_rfl)]
    exact room

theorem enqueue_faithful (accepts : Accepts r.owner r.log a) (live : Live r a)
    (payload : Payload F) (native : Option (Delivery F)) :
    Faithful (r.enqueue world payload native) := by
  have looked : Live { r with looks := r.looks + 1 } a := ⟨live.state, live.closed, live.stopped,
    live.phase, live.owed, live.issued, live.pending, live.fresh, live.room⟩
  unfold RuntimeRelay.enqueue
  split
  · exact terminateStream_faithful world accepts live _ _
  · rename_i room
    dsimp only
    split
    · split
      · exact sendFrame_faithful (r := { r with looks := r.looks + 1 }) accepts looked
          (by simpa using room) payload native
      · exact terminateStream_faithful (r := { r with looks := r.looks + 1 }) world accepts
          looked _ _
    · exact terminateStream_faithful (r := { r with looks := r.looks + 1 }) world accepts looked _ _

theorem handleNotice_faithful (accepts : Accepts r.owner r.log a) (live : Live r a)
    (notice : Notice F) (native : Option (Delivery F)) :
    Faithful (r.handleNotice floats world notice native) := by
  unfold RuntimeRelay.handleNotice
  split
  · split
    · exact enqueue_faithful world accepts live _ native
    · exact terminateStream_faithful world accepts live _ _
  · exact terminateStream_faithful world accepts live _ _
  · exact terminateStream_faithful world accepts live _ _
  · exact ⟨a, accepts, Or.inl live⟩

theorem handleInfo_faithful (accepts : Accepts r.owner r.log a) (live : Live r a)
    (message : RelayInfo F) : Faithful (r.handleInfo floats world message) := by
  have same : Faithful r := ⟨a, accepts, Or.inl live⟩
  unfold RuntimeRelay.handleInfo
  split
  · split
    · exact handleNotice_faithful floats world accepts live _ _
    · exact same
  · split
    · exact handleNotice_faithful floats world accepts live _ _
    · exact same
  · split
    · exact part_faithful world accepts live
    · split
      · exact terminateStream_faithful world accepts live _ _
      · exact same
  · exact same

/-- A frame is handed out: its credit first, then its value. -/
theorem handOut_faithful (accepts : Accepts r.owner r.log a) (live : Live r a) {token : Nat}
    {route : Route} {payload : Payload F} {origin : Option (Delivery F)}
    (found : r.pending.lookup token = some (route, payload, origin)) :
    Faithful (r.handOut r.owner token payload origin) := by
  have stands : a.outstanding.lookup token = some (payload, origin) := by
    have listed := live.pending token
    rw [found] at listed
    cases entry : a.outstanding.lookup token with
    | none =>
        rw [entry] at listed
        cases listed
    | some pair =>
        rw [entry, Option.map_some, Option.some.injEq, Prod.mk.injEq, Prod.mk.injEq] at listed
        rw [listed.2.1, listed.2.2]
  have credits : Accepts r.owner (r.log ++ origin.toList.map .consumed) { a with owed := origin } := by
    cases origin with
    | none =>
        have unowed : ({ a with owed := none } : Account F) = a := by rw [← live.owed]
        rw [unowed]
        simpa using accepts
    | some delivery =>
        exact accepts.snoc (Account.next_consumed live.phase live.owed delivery)
  have hands : ({ a with owed := origin } : Account F).next r.owner
      (.returned r.owner token payload) =
        some { a with outstanding := a.outstanding.erase token, owed := none } :=
    Account.next_returned (a := { a with owed := origin }) live.phase stands
  refine ⟨_, credits.snoc hands, Or.inl ⟨live.state, live.closed, live.stopped, live.phase,
    rfl, live.issued, ?_, ?_, ?_⟩⟩
  · intro other
    simp only [RuntimeRelay.handOut, Table.lookup_erase]
    split
    · rfl
    · exact live.pending other
  · intro other above
    rw [Table.lookup_erase, live.fresh other above, ite_self]
  · exact le_trans (Table.size_erase_le _ _) live.room

theorem handleCall_faithful (accepts : Accepts r.owner r.log a) (live : Live r a) (caller : Nat)
    (call : RuntimeRelay.RelayCall F) : Faithful (r.handleCall world caller call).2 := by
  have same : Faithful r := ⟨a, accepts, Or.inl live⟩
  unfold RuntimeRelay.handleCall
  split
  · exact same
  · split
    · rename_i asked
      split
      · rename_i found
        split
        · rw [asked.1]
          exact handOut_faithful accepts live found
        · exact same
      · exact same
    · exact same
  · split
    · exact part_faithful world accepts live
    · exact same
  · exact same

theorem step_faithful (faithful : Faithful r) (input : RuntimeRelay.RelayInput F) :
    Faithful (r.step floats world input) := by
  unfold RuntimeRelay.step
  split
  · exact faithful
  · rename_i running
    obtain ⟨a, accepts, live | gone⟩ := faithful
    · split
      · exact handleInfo_faithful floats world accepts live _
      · exact handleCall_faithful world accepts live _ _
    · exact absurd gone.stopped running

theorem flushMessages_faithful (faithful : Faithful r) (running : r.stopped = false)
    (messages : List (RelayInfo F)) : Faithful (r.flushMessages floats world messages) := by
  induction messages generalizing r with
  | nil => exact faithful
  | cons message messages ih =>
      have handled : Faithful (r.handleInfo floats world message) := by
        obtain ⟨a, accepts, live | gone⟩ := faithful
        · exact handleInfo_faithful floats world accepts live message
        · rw [gone.stopped] at running
          cases running
      unfold RuntimeRelay.flushMessages
      split
      · exact handled
      · rename_i goes
        exact ih handled (by simpa using goes)

theorem start_faithful {binding : RuntimeRelay.Binding} {mailbox : List (RelayInfo F)}
    (started : RuntimeRelay.start floats world binding mailbox = some r) : Faithful r := by
  rw [RuntimeRelay.start, Option.map_eq_some_iff] at started
  obtain ⟨opening, _, rfl⟩ := started
  apply flushMessages_faithful
  · obtain ⟨a, accepts, live | gone⟩ := bound_faithful binding opening
    · exact ⟨a, accepts, Or.inl ⟨live.state, live.closed, live.stopped, live.phase, live.owed,
        live.issued, live.pending, live.fresh, live.room⟩⟩
    · exact ⟨a, accepts, Or.inr ⟨gone.stopped, gone.owed, gone.phase⟩⟩
  · rfl

/-- **The relay keeps to the contract**, whatever arrives in whatever order. -/
theorem run_faithful (faithful : Faithful r) (inputs : List (RuntimeRelay.RelayInput F)) :
    Faithful (r.run floats world inputs) := by
  induction inputs generalizing r with
  | nil => exact faithful
  | cons input inputs ih => exact ih (step_faithful floats world faithful input)

end Steps

/-! ## What the automaton allows -/

section Allowed

variable {owner : Nat} {log : List (RelayEvent F)} {a b : Account F} {event : RelayEvent F}

theorem Accepts.last (accepts : Accepts owner (log ++ [event]) b) :
    ∃ a, Accepts owner log a ∧ a.next owner event = some b := by
  rw [Accepts, Monitor.run_snoc, Option.bind_eq_some_iff] at accepts
  exact accepts

theorem Accepts.split {back : List (RelayEvent F)} (accepts : Accepts owner (log ++ back) b) :
    ∃ a, Accepts owner log a ∧ Monitor.run (Account.next owner) a back = some b :=
  Monitor.exists_of_run_append accepts

/-- What one event does. -/
inductive Moves (owner : Nat) (a : Account F) : RelayEvent F → Account F → Prop where
  | framed {payload : Payload F} {native : Option (Delivery F)} (unowed : a.owed = none)
      (room : Table.size a.outstanding < openingLimit) :
      Moves owner a (.framed a.issued payload native)
        { a with
          outstanding := a.outstanding.insert a.issued (payload, native)
          issued := a.issued + 1 }
  | consumed {delivery : Delivery F} (unowed : a.owed = none) :
      Moves owner a (.consumed delivery) { a with owed := some delivery }
  | returned {token : Nat} {payload : Payload F}
      (stands : a.outstanding.lookup token = some (payload, a.owed)) :
      Moves owner a (.returned owner token payload)
        { a with outstanding := a.outstanding.erase token, owed := none }
  | parts {event : RelayEvent F} {phase : Phase} (unowed : a.owed = none)
      (moves : a.phase.next event = some phase)
      (parting : event.parting = true) :
      Moves owner a event { a with phase }

theorem next_moves (moves : a.next owner event = some b) : Moves owner a event b := by
  rw [Account.next, Option.bind_eq_some_iff] at moves
  obtain ⟨phase, goes, moves⟩ := moves
  cases event with
  | framed token payload native =>
      dsimp only at moves
      rw [Option.ite_none_right_eq_some] at moves
      obtain ⟨⟨unowed, rfl, room⟩, same⟩ := moves
      cases same
      exact .framed unowed room
  | consumed delivery =>
      dsimp only at moves
      rw [Option.ite_none_right_eq_some] at moves
      obtain ⟨unowed, same⟩ := moves
      cases same
      exact .consumed unowed
  | returned caller token payload =>
      dsimp only at moves
      rw [Option.ite_none_right_eq_some] at moves
      obtain ⟨⟨rfl, stands⟩, same⟩ := moves
      cases same
      exact .returned stands
  | errored | demonitored | unsubscribed | disconnected | statused =>
      dsimp only at moves
      rw [Option.ite_none_right_eq_some] at moves
      obtain ⟨unowed, same⟩ := moves
      cases same
      exact .parts unowed goes rfl

/-- Tokens from `issued` on have not been used. -/
theorem Accepts.fresh (accepts : Accepts owner log a) :
    ∀ token, a.issued ≤ token → a.outstanding.lookup token = none := by
  induction log using List.reverseRecOn generalizing a with
  | nil =>
      obtain rfl := Option.some.inj accepts
      intro token _
      simp
  | append_singleton log event ih =>
      obtain ⟨before, accepted, moves⟩ := accepts.last
      have earlier := ih accepted
      cases next_moves moves with
      | framed =>
          intro token above
          have above' : before.issued + 1 ≤ token := above
          rw [Table.lookup_insert, if_neg (by omega)]
          exact earlier token (by omega)
      | returned =>
          intro token above
          rw [Table.lookup_erase, earlier token above, ite_self]
      | consumed | parts => exact earlier

/-- What is outstanding was sent to the owner. -/
theorem Accepts.framed (accepts : Accepts owner log a) {token : Nat} {payload : Payload F}
    {native : Option (Delivery F)}
    (stands : a.outstanding.lookup token = some (payload, native)) :
    .framed token payload native ∈ log := by
  induction log using List.reverseRecOn generalizing a with
  | nil =>
      obtain rfl := Option.some.inj accepts
      simp at stands
  | append_singleton log event ih =>
      obtain ⟨before, accepted, moves⟩ := accepts.last
      rw [List.mem_append]
      cases next_moves moves with
      | framed =>
          rw [Table.lookup_insert] at stands
          split at stands
          · rename_i here
            cases stands
            right
            rw [here]
            exact List.mem_singleton.2 rfl
          · exact Or.inl (ih accepted stands)
      | returned =>
          rw [Table.lookup_erase] at stands
          split at stands
          · cases stands
          · exact Or.inl (ih accepted stands)
      | consumed | parts => exact Or.inl (ih accepted stands)

/-- What was handed out is no longer outstanding, and its token is used up. -/
theorem Accepts.handed (accepts : Accepts owner log a) {caller token : Nat} {payload : Payload F}
    (handed : .returned caller token payload ∈ log) :
    a.outstanding.lookup token = none ∧ token < a.issued := by
  induction log using List.reverseRecOn generalizing a with
  | nil => cases handed
  | append_singleton log event ih =>
      obtain ⟨before, accepted, moves⟩ := accepts.last
      rw [List.mem_append, List.mem_singleton] at handed
      cases next_moves moves with
      | framed =>
          rcases handed with earlier | here
          · obtain ⟨gone, used⟩ := ih accepted earlier
            rw [Table.lookup_insert, if_neg (by omega)]
            exact ⟨gone, Nat.lt_succ_of_lt used⟩
          · cases here
      | returned stands =>
          rcases handed with earlier | here
          · obtain ⟨gone, used⟩ := ih accepted earlier
            rw [Table.lookup_erase, gone, ite_self]
            exact ⟨rfl, used⟩
          · cases here
            refine ⟨by rw [Table.lookup_erase, if_pos rfl], ?_⟩
            by_contra above
            rw [accepted.fresh _ (Nat.le_of_not_lt above)] at stands
            cases stands
      | consumed =>
          rcases handed with earlier | here
          · have kept := ih accepted earlier
            exact kept
          · cases here
      | parts unowed goes parting =>
          rcases handed with earlier | here
          · have kept := ih accepted earlier
            exact kept
          · rw [← here] at parting
            cases parting

/-- A credit is owed right after its consumption message. -/
theorem Accepts.owed (accepts : Accepts owner log a) {delivery : Delivery F}
    (owed : a.owed = some delivery) : ∃ front, log = front ++ [.consumed delivery] := by
  induction log using List.reverseRecOn with
  | nil =>
      obtain rfl := Option.some.inj accepts
      cases owed
  | append_singleton log event ih =>
      obtain ⟨before, accepted, moves⟩ := accepts.last
      cases next_moves moves with
      | consumed =>
          cases owed
          exact ⟨log, rfl⟩
      | returned => cases owed
      | framed unowed | parts unowed =>
          rw [unowed] at owed
          cases owed

/-! ## Counting -/

/-- The delivery whose credit an event sends back. -/
def RelayEvent.credited : RelayEvent F → Option (Delivery F)
  | .consumed delivery => some delivery
  | _ => none

/-- The delivery a frame was made from. -/
def RelayEvent.carried : RelayEvent F → Option (Delivery F)
  | .framed _ _ native => native
  | _ => none

def RelayEvent.isFrame : RelayEvent F → Bool
  | .framed .. => true
  | _ => false

def RelayEvent.isReturn : RelayEvent F → Bool
  | .returned .. => true
  | _ => false

theorem parting_quiet (parting : event.parting = true) :
    event.credited = none ∧ event.carried = none ∧ event.isFrame = false ∧
      event.isReturn = false := by
  cases event with
  | framed | consumed | returned => cases parting
  | _ => exact ⟨rfl, rfl, rfl, rfl⟩

/-- One for an entry made from the delivery. -/
def weight (delivery : Delivery F) (entry : Payload F × Option (Delivery F)) : Nat :=
  if entry.2 = some delivery then 1 else 0

/-- The credits sent back and those still outstanding are those of the frames. -/
theorem Accepts.balance (accepts : Accepts owner log a) (delivery : Delivery F) :
    (log.filterMap RelayEvent.credited).count delivery +
        Table.total (weight delivery) a.outstanding =
      (log.filterMap RelayEvent.carried).count delivery +
        if a.owed = some delivery then 1 else 0 := by
  induction log using List.reverseRecOn generalizing a with
  | nil =>
      obtain rfl := Option.some.inj accepts
      simp [Table.total]
  | append_singleton log event ih =>
      obtain ⟨before, accepted, moves⟩ := accepts.last
      have earlier := ih accepted
      rw [List.filterMap_append, List.filterMap_append, List.count_append, List.count_append]
      cases next_moves moves with
      | @framed payload native unowed room =>
          rw [Table.total_insert_of_fresh _ _ (accepted.fresh _ le_rfl)]
          simp only [unowed, reduceCtorEq, if_false] at earlier ⊢
          cases native with
          | none =>
              simp only [weight, RelayEvent.credited, RelayEvent.carried, List.filterMap_cons,
                List.filterMap_nil, List.count_nil, reduceCtorEq, if_false]
              omega
          | some made =>
              simp only [weight, RelayEvent.credited, RelayEvent.carried, List.filterMap_cons,
                List.filterMap_nil, List.count_nil, List.count_singleton, beq_iff_eq,
                Option.some.injEq]
              split <;> omega
      | @consumed made unowed =>
          simp only [unowed, reduceCtorEq, if_false] at earlier
          simp only [RelayEvent.credited, RelayEvent.carried, List.filterMap_cons,
            List.filterMap_nil, List.count_nil, List.count_singleton, beq_iff_eq,
            Option.some.injEq]
          split <;> omega
      | @returned token payload stands =>
          have gone := Table.total_erase_of_lookup (weight delivery) stands
          simp only [weight] at gone
          simp only [RelayEvent.credited, RelayEvent.carried, List.filterMap_cons,
            List.filterMap_nil, List.count_nil, reduceCtorEq, if_false]
          omega
      | parts unowed goes parting =>
          obtain ⟨uncredited, uncarried, -, -⟩ := parting_quiet parting
          simp only [uncredited, uncarried, List.filterMap_cons, List.filterMap_nil, List.count_nil]
          exact earlier

theorem Accepts.outstanding_size (accepts : Accepts owner log a) :
    (log.filter RelayEvent.isFrame).length =
        (log.filter RelayEvent.isReturn).length + Table.size a.outstanding ∧
      Table.size a.outstanding ≤ openingLimit := by
  induction log using List.reverseRecOn generalizing a with
  | nil =>
      obtain rfl := Option.some.inj accepts
      simp [Table.size]
  | append_singleton log event ih =>
      obtain ⟨before, accepted, moves⟩ := accepts.last
      obtain ⟨counted, bounded⟩ := ih accepted
      rw [List.filter_append, List.filter_append, List.length_append, List.length_append]
      cases next_moves moves with
      | framed unowed room =>
          rw [Table.size_insert_of_fresh _ (accepted.fresh _ le_rfl)]
          simp only [RelayEvent.isFrame, RelayEvent.isReturn, List.filter_cons, List.filter_nil,
            if_true, Bool.false_eq_true, if_false, List.length_singleton, List.length_nil]
          omega
      | consumed =>
          simp only [RelayEvent.isFrame, RelayEvent.isReturn, List.filter_cons, List.filter_nil,
            Bool.false_eq_true, if_false, List.length_nil]
          exact ⟨counted, bounded⟩
      | returned stands =>
          have gone := Table.size_erase_of_lookup stands
          simp only [RelayEvent.isFrame, RelayEvent.isReturn, List.filter_cons, List.filter_nil,
            if_true, Bool.false_eq_true, if_false, List.length_singleton, List.length_nil]
          omega
      | parts unowed goes parting =>
          obtain ⟨-, -, unframed, unreturned⟩ := parting_quiet parting
          simp only [unframed, unreturned, List.filter_cons, List.filter_nil, Bool.false_eq_true,
            if_false, List.length_nil]
          exact ⟨counted, bounded⟩

end Allowed

end WotexMatter.Relay
