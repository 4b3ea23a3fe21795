/-
# WotexMatter.Relay.Credit -- when a relay returns credit, and what its owner sees

Two results about every run of a relay.  `run_credit`: a consumption message goes out right
before the value of the frame made from that report is handed to the owner, who named the
request and the value; a report is consumed no more often than it arrived.  `run_owner`: the
owner receives frames and then, if at all, one error and one status; at most 64 frames are
waiting, and the subscription and the session are given back exactly when the relay stops.
-/
import WotexMatter.Relay.Contract
import WotexMatter.Tlv.RoundTrip

set_option autoImplicit false
set_option linter.unusedSectionVars false

namespace WotexMatter.Relay

open WotexMatter.Theory WotexMatter.Value WotexMatter.Tlv

variable {F : Type} [DecidableEq F]

/-! ## Where frames come from -/

/-- The delivery is one of the relay's connection and subscription, and the payload is what
`project` makes of it. -/
structure Admits (floats : Floats F) (binding : RuntimeRelay.Binding) (delivery : Delivery F)
    (payload : Payload F) : Prop where
  native : binding.native = some (delivery.connection, delivery.generation)
  reference : delivery.reference = binding.reference
  projected : ∃ value metadata, delivery.value = .ok value metadata ∧
    project floats binding.route value metadata = .ok payload

/-- The deliveries among the messages. -/
def RelayInfo.arrival : RelayInfo F → Option (Delivery F)
  | .delivery _ sent => some sent
  | _ => none

structure Sourced (floats : Floats F) (binding : RuntimeRelay.Binding) (arrived : List (Delivery F))
    (r : RuntimeRelay F) : Prop where
  owner : r.owner = binding.owner
  route : r.route = binding.route
  native : r.native = binding.native
  reference : r.reference = binding.reference
  carried : (r.log.filterMap RelayEvent.carried).Sublist arrived
  admits : ∀ token payload delivery, .framed token payload (some delivery) ∈ r.log →
    Admits floats binding delivery payload

section Sources

variable {floats : Floats F} {world : RelayWorld} {binding : RuntimeRelay.Binding}
  {arrived arrived' : List (Delivery F)} {r r' : RuntimeRelay F}

/-- The relay has the same binding and has sent no further frame. -/
structure Unframed (r r' : RuntimeRelay F) : Prop where
  owner : r'.owner = r.owner
  route : r'.route = r.route
  native : r'.native = r.native
  reference : r'.reference = r.reference
  log : ∃ tail, r'.log = r.log ++ tail ∧ ∀ event ∈ tail, event.isFrame = false

theorem Unframed.silent (owner : r'.owner = r.owner) (route : r'.route = r.route)
    (native : r'.native = r.native) (reference : r'.reference = r.reference)
    (log : r'.log = r.log) : Unframed r r' := by
  refine ⟨owner, route, native, reference, [], ?_, ?_⟩
  · rw [log, List.append_nil]
  · intro event member
    exact absurd member List.not_mem_nil

theorem Unframed.refl (r : RuntimeRelay F) : Unframed r r := .silent rfl rfl rfl rfl rfl

theorem Unframed.trans {r'' : RuntimeRelay F} (first : Unframed r r') (second : Unframed r' r'') :
    Unframed r r'' := by
  obtain ⟨tail, appended, quiet⟩ := first.log
  obtain ⟨tail', appended', quiet'⟩ := second.log
  refine ⟨second.owner.trans first.owner, second.route.trans first.route,
    second.native.trans first.native, second.reference.trans first.reference, tail ++ tail', ?_, ?_⟩
  · rw [appended', appended, List.append_assoc]
  · intro event member
    rcases List.mem_append.1 member with member | member
    · exact quiet event member
    · exact quiet' event member

theorem carried_of_unframed {tail : List (RelayEvent F)}
    (quiet : ∀ event ∈ tail, event.isFrame = false) : tail.filterMap RelayEvent.carried = [] := by
  rw [List.filterMap_eq_nil_iff]
  intro event member
  cases event with
  | framed => cases quiet _ member
  | _ => rfl

theorem Sourced.unframed (sourced : Sourced floats binding arrived r) (same : Unframed r r') :
    Sourced floats binding arrived r' := by
  obtain ⟨tail, appended, quiet⟩ := same.log
  refine ⟨same.owner.trans sourced.owner, same.route.trans sourced.route,
    same.native.trans sourced.native, same.reference.trans sourced.reference, ?_, ?_⟩
  · rw [appended, List.filterMap_append, carried_of_unframed quiet, List.append_nil]
    exact sourced.carried
  · intro token payload delivery member
    rw [appended, List.mem_append] at member
    rcases member with member | member
    · exact sourced.admits token payload delivery member
    · cases quiet _ member

theorem Sourced.more (sourced : Sourced floats binding arrived r)
    (more : arrived.Sublist arrived') : Sourced floats binding arrived' r :=
  { sourced with carried := sourced.carried.trans more }

theorem report_unframed {event : RelayEvent F} (quiet : event.isFrame = false) :
    Unframed r (r.report event) := by
  refine ⟨rfl, rfl, rfl, rfl, [event], rfl, ?_⟩
  intro other member
  rw [List.mem_singleton.1 member, quiet]

theorem released_unframed (r : RuntimeRelay F) : Unframed r r.released := by
  refine ⟨rfl, rfl, rfl, rfl, (if r.nativeMonitor.isSome then [.demonitored] else []) ++
    [.unsubscribed, .disconnected], ?_, ?_⟩
  · simp [RuntimeRelay.released]
  · intro event member
    split at member <;> simp only [List.nil_append, List.cons_append, List.mem_cons,
      List.not_mem_nil, or_false] at member <;> rcases member with rfl | rfl | rfl <;> rfl

theorem closeResources_unframed (r : RuntimeRelay F) : Unframed r (r.closeResources world).2 := by
  unfold RuntimeRelay.closeResources
  split
  · exact Unframed.refl r
  · exact released_unframed r

theorem stop_unframed (r : RuntimeRelay F) : Unframed r (r.stop world) := by
  have stops : ∀ r : RuntimeRelay F, Unframed r { r with stopped := true } :=
    fun _ => .silent rfl rfl rfl rfl rfl
  unfold RuntimeRelay.stop
  split
  · exact stops r
  · exact (closeResources_unframed r).trans (stops _)

theorem closing_unframed (r : RuntimeRelay F) : Unframed r { r with state := .closing } :=
  .silent rfl rfl rfl rfl rfl

theorem part_unframed (r : RuntimeRelay F) : Unframed r (RuntimeRelay.stop world
    (RuntimeRelay.closeResources world { r with state := .closing }).2) :=
  (closing_unframed r).trans ((closeResources_unframed _).trans (stop_unframed _))

theorem terminateStream_unframed (r : RuntimeRelay F) (error : RelayError)
    (status : TransportStatus) : Unframed r (r.terminateStream world error status) := by
  unfold RuntimeRelay.terminateStream
  have told : Unframed r { r.report (.errored error) with state := .closing } :=
    (report_unframed rfl).trans (closing_unframed _)
  exact told.trans ((closeResources_unframed _).trans ((report_unframed rfl).trans
    (stop_unframed _)))

/-- A frame is sent for a delivery, or the stream ends. -/
theorem enqueue_sourced (sourced : Sourced floats binding arrived r) {payload : Payload F}
    {origin : Option (Delivery F)}
    (made : ∀ delivery, origin = some delivery → Admits floats binding delivery payload) :
    Sourced floats binding (arrived ++ origin.toList) (r.enqueue world payload origin) := by
  have more : arrived.Sublist (arrived ++ origin.toList) := List.sublist_append_left _ _
  have looked : Unframed r { r with looks := r.looks + 1 } := .silent rfl rfl rfl rfl rfl
  have carries : [RelayEvent.framed r.references payload origin].filterMap RelayEvent.carried =
      origin.toList := by
    cases origin <;> rfl
  unfold RuntimeRelay.enqueue
  split
  · exact (sourced.unframed (terminateStream_unframed r _ _)).more more
  · dsimp only
    split
    · split
      · refine ⟨sourced.owner, sourced.route, sourced.native, sourced.reference, ?_, ?_⟩
        · simp only [RuntimeRelay.sendFrame, RuntimeRelay.report, List.filterMap_append]
          rw [carries]
          exact sourced.carried.append (List.Sublist.refl _)
        · intro token payload' delivery member
          simp only [RuntimeRelay.sendFrame, RuntimeRelay.report, List.mem_append,
            List.mem_singleton] at member
          rcases member with member | member
          · exact sourced.admits _ _ _ member
          · cases member
            exact made _ rfl
      · exact (sourced.unframed (looked.trans (terminateStream_unframed _ _ _))).more more
    · exact (sourced.unframed (looked.trans (terminateStream_unframed _ _ _))).more more

/-- A report, an error or a status under the reference. -/
theorem handleNotice_sourced (sourced : Sourced floats binding arrived r) {notice : Notice F}
    {origin : Option (Delivery F)}
    (made : ∀ delivery, origin = some delivery → delivery.value = notice ∧
      r.native = some (delivery.connection, delivery.generation) ∧
      delivery.reference = r.reference) :
    Sourced floats binding (arrived ++ origin.toList) (r.handleNotice floats world notice origin) := by
  have more : arrived.Sublist (arrived ++ origin.toList) := List.sublist_append_left _ _
  unfold RuntimeRelay.handleNotice
  split
  · rename_i value metadata
    split
    · rename_i payload projected
      apply enqueue_sourced sourced
      intro delivery from'
      obtain ⟨same, connected, referenced⟩ := made delivery from'
      rw [sourced.route] at projected
      exact ⟨sourced.native ▸ connected, referenced.trans sourced.reference,
        value, metadata, same, projected⟩
    · exact (sourced.unframed (terminateStream_unframed r _ _)).more more
  · exact (sourced.unframed (terminateStream_unframed r _ _)).more more
  · exact (sourced.unframed (terminateStream_unframed r _ _)).more more
  · exact sourced.more more

theorem handleInfo_sourced (sourced : Sourced floats binding arrived r) (message : RelayInfo F) :
    Sourced floats binding (arrived ++ message.arrival.toList)
      (r.handleInfo floats world message) := by
  have more : arrived.Sublist (arrived ++ message.arrival.toList) := List.sublist_append_left _ _
  cases message with
  | delivery reference delivery =>
      unfold RuntimeRelay.handleInfo
      dsimp only
      split
      · rename_i here
        obtain ⟨-, -, referenced, connected⟩ := here
        apply handleNotice_sourced sourced
        intro other same
        cases same
        exact ⟨rfl, connected, referenced⟩
      · exact sourced.more more
  | notice reference notice =>
      unfold RuntimeRelay.handleInfo
      dsimp only
      split
      · have told : Sourced floats binding (arrived ++ (none : Option (Delivery F)).toList)
            (r.handleNotice floats world notice none) := by
          apply handleNotice_sourced sourced
          intro delivery same
          cases same
        exact told
      · exact sourced.more more
  | down monitor process =>
      unfold RuntimeRelay.handleInfo
      dsimp only
      split
      · exact (sourced.unframed (part_unframed r)).more more
      · split
        · exact (sourced.unframed (terminateStream_unframed r _ _)).more more
        · exact sourced.more more
  | other => exact sourced.more more

theorem handOut_unframed (r : RuntimeRelay F) (caller token : Nat) (payload : Payload F)
    (native : Option (Delivery F)) : Unframed r (r.handOut caller token payload native) := by
  refine ⟨rfl, rfl, rfl, rfl, native.toList.map .consumed ++ [.returned caller token payload],
    by simp [RuntimeRelay.handOut], ?_⟩
  intro event member
  rw [List.mem_append, List.mem_map, List.mem_singleton] at member
  rcases member with ⟨delivery, -, rfl⟩ | rfl <;> rfl

theorem handleCall_unframed (r : RuntimeRelay F) (caller : Nat) (call : RuntimeRelay.RelayCall F) :
    Unframed r (r.handleCall world caller call).2 := by
  unfold RuntimeRelay.handleCall
  split
  · exact Unframed.refl r
  · split
    · split
      · split
        · exact handOut_unframed r _ _ _ _
        · exact Unframed.refl r
      · exact Unframed.refl r
    · exact Unframed.refl r
  · split
    · exact part_unframed r
    · exact Unframed.refl r
  · exact Unframed.refl r

/-- The delivery an input brings. -/
def RuntimeRelay.RelayInput.arrival : RuntimeRelay.RelayInput F → Option (Delivery F)
  | .info message => message.arrival
  | .call .. => none

theorem step_sourced (sourced : Sourced floats binding arrived r)
    (input : RuntimeRelay.RelayInput F) :
    Sourced floats binding (arrived ++ input.arrival.toList) (r.step floats world input) := by
  have more : arrived.Sublist (arrived ++ input.arrival.toList) := List.sublist_append_left _ _
  unfold RuntimeRelay.step
  split
  · exact sourced.more more
  · split
    · exact handleInfo_sourced sourced _
    · exact (sourced.unframed (handleCall_unframed r _ _)).more more

theorem filterMap_cons_toList {A B : Type} (f : A → Option B) (first : A) (rest : List A) :
    (first :: rest).filterMap f = (f first).toList ++ rest.filterMap f := by
  rw [List.filterMap_cons]
  cases f first <;> rfl

theorem run_sourced (sourced : Sourced floats binding arrived r)
    (inputs : List (RuntimeRelay.RelayInput F)) :
    Sourced floats binding (arrived ++ inputs.filterMap RuntimeRelay.RelayInput.arrival)
      (r.run floats world inputs) := by
  induction inputs generalizing r arrived with
  | nil => exact sourced.more (List.sublist_append_left _ _)
  | cons input inputs ih =>
      rw [filterMap_cons_toList, ← List.append_assoc]
      exact ih (step_sourced sourced input)

theorem flushMessages_sourced (sourced : Sourced floats binding arrived r)
    (messages : List (RelayInfo F)) :
    Sourced floats binding (arrived ++ messages.filterMap RelayInfo.arrival)
      (r.flushMessages floats world messages) := by
  induction messages generalizing r arrived with
  | nil => exact sourced.more (List.sublist_append_left _ _)
  | cons message messages ih =>
      rw [filterMap_cons_toList, ← List.append_assoc]
      have handled : Sourced floats binding (arrived ++ message.arrival.toList)
          (r.handleInfo floats world message) := handleInfo_sourced sourced message
      unfold RuntimeRelay.flushMessages
      split
      · exact handled.more (List.sublist_append_left _ _)
      · exact ih handled

/-- What arrives under the reference before the relay is bound is taken first. -/
theorem start_sourced {mailbox : List (RelayInfo F)}
    (started : RuntimeRelay.start floats world binding mailbox = some r) :
    Sourced floats binding (mailbox.filterMap RelayInfo.arrival) r := by
  rw [RuntimeRelay.start, Option.map_eq_some_iff] at started
  obtain ⟨opening, listed, rfl⟩ := started
  rw [RuntimeRelay.openingReports, Option.ite_none_right_eq_some] at listed
  obtain ⟨-, same⟩ := listed
  cases same
  have fresh : ∀ opening, Sourced floats binding []
      ({ RuntimeRelay.bound binding opening with opening := [] } : RuntimeRelay F) := by
    intro opening
    refine ⟨rfl, rfl, rfl, rfl, List.Sublist.refl _, ?_⟩
    intro token payload delivery member
    exact absurd member List.not_mem_nil
  exact (flushMessages_sourced (fresh _) _).more (List.filter_sublist.filterMap _)

end Sources

/-! ## Credit -/

/-- What the log says about credit, given the deliveries that arrived. -/
structure Credit (floats : Floats F) (binding : RuntimeRelay.Binding) (arrived : List (Delivery F))
    (log : List (RelayEvent F)) : Prop where
  /-- Right after a consumption message the owner gets the value made from that report. -/
  consumed : ∀ before delivery after, log = before ++ .consumed delivery :: after →
    ∃ token payload rest, after = .returned binding.owner token payload :: rest ∧
      .framed token payload (some delivery) ∈ before ∧ Admits floats binding delivery payload
  /-- A frame is handed out once, to the owner, and not without the credit of its report. -/
  handed : ∀ before caller token payload after,
    log = before ++ .returned caller token payload :: after →
      caller = binding.owner ∧
      (∀ caller' payload', .returned caller' token payload' ∉ before) ∧
      ∃ native, .framed token payload native ∈ before ∧
        ∀ delivery, native = some delivery → ∃ front, before = front ++ [.consumed delivery]
  once : ∀ delivery, (log.filterMap RelayEvent.credited).count delivery ≤ arrived.count delivery

section Accepted

variable {owner : Nat} {log : List (RelayEvent F)} {a : Account F}

/-- The consumption message is followed by the frame it pays for. -/
theorem Accepts.consumed (accepts : Accepts owner log a) (unowed : a.owed = none)
    {before after : List (RelayEvent F)} {delivery : Delivery F}
    (split : log = before ++ .consumed delivery :: after) :
    ∃ token payload rest, after = .returned owner token payload :: rest ∧
      .framed token payload (some delivery) ∈ before := by
  rw [split] at accepts
  obtain ⟨first, accepted, runs⟩ := accepts.split
  obtain ⟨second, moves, runs⟩ := Monitor.exists_of_run_cons runs
  cases next_moves moves with
  | parts _ _ parting => cases parting
  | consumed =>
      cases after with
      | nil =>
          obtain rfl := Option.some.inj runs
          cases unowed
      | cons event rest =>
          obtain ⟨third, moves, -⟩ := Monitor.exists_of_run_cons runs
          cases next_moves moves with
          | returned stands => exact ⟨_, _, rest, rfl, accepted.framed stands⟩
          | framed owes | consumed owes | parts owes => cases owes

theorem Accepts.returned (accepts : Accepts owner log a) {before after : List (RelayEvent F)}
    {caller token : Nat} {payload : Payload F}
    (split : log = before ++ .returned caller token payload :: after) :
    caller = owner ∧ (∀ caller' payload', .returned caller' token payload' ∉ before) ∧
      ∃ native, .framed token payload native ∈ before ∧
        ∀ delivery, native = some delivery → ∃ front, before = front ++ [.consumed delivery] := by
  rw [split] at accepts
  obtain ⟨first, accepted, runs⟩ := accepts.split
  obtain ⟨second, moves, -⟩ := Monitor.exists_of_run_cons runs
  cases next_moves moves with
  | parts _ _ parting => cases parting
  | returned stands =>
      refine ⟨rfl, ?_, first.owed, accepted.framed stands, fun delivery owed => accepted.owed owed⟩
      intro caller' payload' handed
      rw [(accepted.handed handed).1] at stands
      cases stands

end Accepted

theorem Faithful.settled {r : RuntimeRelay F} (faithful : Faithful r) :
    ∃ a, Accepts r.owner r.log a ∧ a.owed = none := by
  obtain ⟨a, accepts, live | gone⟩ := faithful
  · exact ⟨a, accepts, live.owed⟩
  · exact ⟨a, accepts, gone.owed⟩

/-- **Credit goes back with the frame it belongs to**: only for a report of this stream that was
projected, only when the owner takes its frame, and no more often than the report arrived. -/
theorem run_credit (floats : Floats F) (world : RelayWorld) {binding : RuntimeRelay.Binding}
    {mailbox : List (RelayInfo F)} {r : RuntimeRelay F}
    (started : RuntimeRelay.start floats world binding mailbox = some r)
    (inputs : List (RuntimeRelay.RelayInput F)) :
    Credit floats binding (mailbox.filterMap RelayInfo.arrival ++
        inputs.filterMap RuntimeRelay.RelayInput.arrival) (r.run floats world inputs).log := by
  have sourced : Sourced floats binding _ (r.run floats world inputs) :=
    run_sourced (start_sourced started) inputs
  obtain ⟨a, accepts, unowed⟩ :=
    (run_faithful floats world (start_faithful floats world started) inputs).settled
  rw [sourced.owner] at accepts
  refine ⟨?_, ?_, ?_⟩
  · intro before delivery after split
    obtain ⟨token, payload, rest, next, framed⟩ := accepts.consumed unowed split
    refine ⟨token, payload, rest, next, framed, ?_⟩
    apply sourced.admits token payload delivery
    rw [split]
    exact List.mem_append_left _ framed
  · intro before caller token payload after split
    exact accepts.returned split
  · intro delivery
    have balance := accepts.balance delivery
    have arrives := sourced.carried.count_le delivery
    simp only [unowed, reduceCtorEq, if_false] at balance
    omega

/-- A lamp whose state is observed. -/
def lampBinding : RuntimeRelay.Binding where
  owner := 1
  route := ⟨"r1", .observeproperty, .attribute, ⟨1, 2, 1, 6, 0⟩⟩
  native := some (2, "g")
  ownerMonitor := 10
  nativeMonitor := some 11
  reference := 5
  generation := "relay"
  ownerQueueLimit := 1000

def lampReport (sequence token : Nat) (lit : Bool) : Delivery Empty where
  connection := 2
  generation := "g"
  reference := 5
  sequence := sequence
  token := token
  value := .ok (some (.scalar .anonymous (.boolean lit)))
    { kind := some .attribute, path := some (some ⟨1, 2, 1, 6, 0⟩), dataVersion := .integer 7 }

def lampFrame (lit : Bool) : Payload Empty where
  value := .scalar .anonymous (.boolean lit)
  metadata := .attribute ⟨1, 2, 1, 6, 0⟩ (some 7)

def quietWorld : RelayWorld where
  messageQueueLen := fun _ => some 0
  unsubscribe := .ok ()
  disconnect := .ok ()

/-- The owner decodes the first report; a stranger and a second try get nothing. -/
def lampInputs : List (RuntimeRelay.RelayInput Empty) :=
  [.call 9 (.decode "relay" 0 (.value (lampFrame true)) lampBinding.route),
    .call 1 (.decode "relay" 0 (.value (lampFrame true)) lampBinding.route),
    .call 1 (.decode "relay" 0 (.value (lampFrame true)) lampBinding.route),
    .info (.delivery 5 (lampReport 2 21 false)), .info (.down 11 2)]

theorem run_credit_lamp : ∃ r, RuntimeRelay.start noFloats quietWorld lampBinding
      [.delivery 5 (lampReport 1 20 true)] = some r ∧
    (r.run noFloats quietWorld lampInputs).log.filterMap RelayEvent.credited =
      [lampReport 1 20 true] ∧
    Credit noFloats lampBinding [lampReport 1 20 true, lampReport 2 21 false]
      (r.run noFloats quietWorld lampInputs).log := by
  refine ⟨_, rfl, by decide, ?_⟩
  exact @run_credit Empty _ noFloats quietWorld lampBinding
    [.delivery 5 (lampReport 1 20 true)] _ rfl lampInputs

/-! ## The owner's view -/

/-- What is sent to the owner. -/
inductive OwnerMessage (F : Type) where
  | frame (token : Nat) (payload : Payload F)
  | error (error : RelayError)
  | status (status : TransportStatus)
deriving DecidableEq

def RelayEvent.toOwner : RelayEvent F → Option (OwnerMessage F)
  | .framed token payload _ => some (.frame token payload)
  | .errored error => some (.error error)
  | .statused status => some (.status status)
  | _ => none

def OwnerMessage.isFrame : OwnerMessage F → Bool
  | .frame .. => true
  | _ => false

/-- What follows the frames in a phase. -/
def Phase.Tail : Phase → List (OwnerMessage F) → Prop
  | .live, tail | .letting false, tail | .leaving false, tail | .left false, tail => tail = []
  | .failing, tail | .letting true, tail | .leaving true, tail | .left true, tail =>
      ∃ error, tail = [.error error]
  | .ended, tail => ∃ error status, tail = [.error error, .status status]

/-- Whether the subscription has been given back, and the session. -/
def Phase.givenBack : Phase → Bool × Bool
  | .live | .failing | .letting _ => (false, false)
  | .leaving _ => (true, false)
  | .left _ | .ended => (true, true)

/-- The frames, the end and what was given back, as the phase has it. -/
structure Told (log : List (RelayEvent F)) (phase : Phase) : Prop where
  messages : ∃ frames tail, log.filterMap RelayEvent.toOwner = frames ++ tail ∧
    (∀ message ∈ frames, message.isFrame = true) ∧ phase.Tail tail
  unsubscribed : log.count .unsubscribed = phase.givenBack.1.toNat
  disconnected : log.count .disconnected = phase.givenBack.2.toNat

theorem next_phase {owner : Nat} {a b : Account F} {event : RelayEvent F}
    (moves : a.next owner event = some b) : a.phase.next event = some b.phase := by
  have goes := next_moves moves
  rw [Account.next, Option.bind_eq_some_iff] at moves
  obtain ⟨phase, goes', -⟩ := moves
  cases goes with
  | parts _ moved => exact moved
  | framed | consumed | returned =>
      revert goes'
      cases a.phase <;> simp [Phase.next]

/-- The event tells the owner nothing and leaves what was said before it. -/
theorem Told.quiet {log : List (RelayEvent F)} {event : RelayEvent F} {phase phase' : Phase}
    (told : Told log phase) (silent : event.toOwner = none)
    (ends : ∀ tail : List (OwnerMessage F), phase.Tail tail → phase'.Tail tail)
    (unsubscribed : phase'.givenBack.1.toNat =
      phase.givenBack.1.toNat + [event].count .unsubscribed)
    (disconnected : phase'.givenBack.2.toNat =
      phase.givenBack.2.toNat + [event].count .disconnected) : Told (log ++ [event]) phase' := by
  obtain ⟨⟨frames, tail, listed, only, ending⟩, before, before'⟩ := told
  refine ⟨⟨frames, tail, ?_, only, ends tail ending⟩, ?_, ?_⟩
  · rw [List.filterMap_append, listed, List.filterMap_cons_none silent]
    simp
  · rw [List.count_append, before, unsubscribed]
  · rw [List.count_append, before', disconnected]

theorem Told.says {log : List (RelayEvent F)} {event : RelayEvent F} {phase phase' : Phase}
    {message : OwnerMessage F} (told : Told log phase) (said : event.toOwner = some message)
    (same : phase'.givenBack = phase.givenBack) (unreleased : event ≠ .unsubscribed)
    (connected : event ≠ .disconnected)
    (ends : ∀ frames tail : List (OwnerMessage F), (∀ message ∈ frames, message.isFrame = true) →
      phase.Tail tail → ∃ frames' tail', frames ++ tail ++ [message] = frames' ++ tail' ∧
        (∀ message ∈ frames', message.isFrame = true) ∧ phase'.Tail tail') :
    Told (log ++ [event]) phase' := by
  obtain ⟨⟨frames, tail, listed, only, ending⟩, before, before'⟩ := told
  obtain ⟨frames', tail', relisted, only', ending'⟩ := ends frames tail only ending
  refine ⟨⟨frames', tail', ?_, only', ending'⟩, ?_, ?_⟩
  · rw [List.filterMap_append, listed, List.filterMap_cons_some said, List.filterMap_nil, relisted]
  · rw [List.count_append, before, same, List.count_singleton, if_neg (by simpa using unreleased)]
    rfl
  · rw [List.count_append, before', same, List.count_singleton, if_neg (by simpa using connected)]
    rfl

theorem Told.next {log : List (RelayEvent F)} {event : RelayEvent F} {phase phase' : Phase}
    (told : Told log phase) (goes : phase.next event = some phase') : Told (log ++ [event]) phase' := by
  cases event with
  | framed token payload native =>
      cases phase with
      | live =>
          cases goes
          refine told.says rfl rfl (by simp) (by simp) ?_
          rintro frames tail only rfl
          refine ⟨frames ++ [.frame token payload], [], by simp, ?_, rfl⟩
          intro message member
          rcases List.mem_append.1 member with member | member
          · exact only message member
          · rw [List.mem_singleton.1 member]
            rfl
      | _ => simp [Phase.next] at goes
  | errored error =>
      cases phase with
      | live =>
          cases goes
          refine told.says rfl rfl (by simp) (by simp) ?_
          rintro frames tail only rfl
          exact ⟨frames, [.error error], by simp, only, error, rfl⟩
      | _ => simp [Phase.next] at goes
  | statused status =>
      cases phase with
      | left failed =>
          cases failed with
          | true =>
              cases goes
              refine told.says rfl rfl (by simp) (by simp) ?_
              rintro frames tail only ⟨error, rfl⟩
              exact ⟨frames, [.error error, .status status], by simp, only, error, status, rfl⟩
          | false => cases goes
      | _ => simp [Phase.next] at goes
  | consumed | returned =>
      cases phase with
      | live =>
          cases goes
          exact told.quiet rfl (fun _ => id) (by simp) (by simp)
      | _ => simp [Phase.next] at goes
  | demonitored =>
      cases phase with
      | live | failing =>
          cases goes
          exact told.quiet rfl (fun _ => id) (by simp [Phase.givenBack]) (by simp [Phase.givenBack])
      | _ => simp [Phase.next] at goes
  | unsubscribed =>
      cases phase with
      | live | failing =>
          cases goes
          exact told.quiet rfl (fun _ => id) (by simp [Phase.givenBack]) (by simp [Phase.givenBack])
      | letting failed =>
          cases goes
          refine told.quiet rfl ?_ (by simp [Phase.givenBack]) (by simp [Phase.givenBack])
          cases failed <;> exact fun _ => id
      | _ => simp [Phase.next] at goes
  | disconnected =>
      cases phase with
      | leaving failed =>
          cases goes
          refine told.quiet rfl ?_ (by simp [Phase.givenBack]) (by simp [Phase.givenBack])
          cases failed <;> exact fun _ => id
      | _ => simp [Phase.next] at goes

theorem Accepts.told {owner : Nat} {log : List (RelayEvent F)} {a : Account F}
    (accepts : Accepts owner log a) : Told log a.phase := by
  induction log using List.reverseRecOn generalizing a with
  | nil =>
      obtain rfl := Option.some.inj accepts
      refine ⟨⟨[], [], rfl, ?_, rfl⟩, rfl, rfl⟩
      intro message member
      exact absurd member List.not_mem_nil
  | append_singleton log event ih =>
      obtain ⟨before, accepted, moves⟩ := accepts.last
      exact (ih accepted).next (next_phase moves)

/-- What the owner of a relay sees of it. -/
structure OwnerView (r : RuntimeRelay F) : Prop where
  /-- Frames, and then nothing, or one error and one status. -/
  messages : ∃ frames tail, r.log.filterMap RelayEvent.toOwner = frames ++ tail ∧
    (∀ message ∈ frames, message.isFrame = true) ∧
    (tail = [] ∨ r.stopped = true ∧ ∃ error status, tail = [.error error, .status status])
  /-- At most 64 frames are waiting to be decoded. -/
  waiting : (r.log.filter RelayEvent.isFrame).length ≤
    (r.log.filter RelayEvent.isReturn).length + openingLimit
  unsubscribed : r.log.count .unsubscribed = r.stopped.toNat
  disconnected : r.log.count .disconnected = r.stopped.toNat

/-- **The owner's view**: frames and one end, a bounded number of them waiting, and the
subscription and the session given back once, when the relay stops. -/
theorem run_owner (floats : Floats F) (world : RelayWorld) {binding : RuntimeRelay.Binding}
    {mailbox : List (RelayInfo F)} {r : RuntimeRelay F}
    (started : RuntimeRelay.start floats world binding mailbox = some r)
    (inputs : List (RuntimeRelay.RelayInput F)) : OwnerView (r.run floats world inputs) := by
  obtain ⟨a, accepts, stands⟩ :=
    run_faithful floats world (start_faithful floats world started) inputs
  obtain ⟨⟨frames, tail, listed, only, ends⟩, unsubscribed, disconnected⟩ := accepts.told
  obtain ⟨counted, bounded⟩ := accepts.outstanding_size
  have waiting : ((r.run floats world inputs).log.filter RelayEvent.isFrame).length ≤
      ((r.run floats world inputs).log.filter RelayEvent.isReturn).length + openingLimit := by
    omega
  rcases stands with live | gone
  · rw [live.phase] at ends unsubscribed disconnected
    refine ⟨⟨frames, tail, listed, only, Or.inl ends⟩, waiting, ?_, ?_⟩
    · rw [unsubscribed, live.stopped]
      rfl
    · rw [disconnected, live.stopped]
      rfl
  · have back : a.phase.givenBack = (true, true) := by
      rcases gone.phase with phase | phase <;> rw [phase] <;> rfl
    rw [back] at unsubscribed disconnected
    rw [← gone.stopped] at unsubscribed disconnected
    refine ⟨⟨frames, tail, listed, only, ?_⟩, waiting, unsubscribed, disconnected⟩
    rcases gone.phase with phase | phase
    · rw [phase] at ends
      exact Or.inl ends
    · rw [phase] at ends
      exact Or.inr ⟨gone.stopped, ends⟩

theorem run_owner_lamp : ∃ r, RuntimeRelay.start noFloats quietWorld lampBinding
      [.delivery 5 (lampReport 1 20 true)] = some r ∧
    (r.run noFloats quietWorld lampInputs).log.filterMap RelayEvent.toOwner =
      [.frame 0 (lampFrame true), .frame 1 (lampFrame false), .error .transportClosed,
        .status .sessionLost] ∧
    OwnerView (r.run noFloats quietWorld lampInputs) := by
  refine ⟨_, rfl, by decide, ?_⟩
  exact @run_owner Empty _ noFloats quietWorld lampBinding
    [.delivery 5 (lampReport 1 20 true)] _ rfl lampInputs

end WotexMatter.Relay
