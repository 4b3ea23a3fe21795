/-
# WotexMatter.Beam.Requests -- the requests a process has open

Whatever the process does, its lines, its identifiers and its record of internal
requests move together: an acknowledgement is written, an identifier is spent, a
cancellation or a call takes the next identifier and writes its line under it.
`Requests.Step` says that once, and `step_grows` shows that every message of the
mailbox amounts to such steps unless it stops the process.  The answers to requests
are the exception, and the subject of the modules that build on this one.
-/
import WotexMatter.Beam.Connection

set_option autoImplicit false
set_option linter.unusedSectionVars false

namespace WotexMatter.Beam

open WotexMatter.Theory WotexMatter.Native

/-- The part of the state that says which requests are open. -/
@[ext] structure Requests where
  written : List HostLine
  internal : Table String Nat
  awaiting : Option Await
  nextId : Option Nat

/-- The identifier after `id`. -/
def afterId (id : Nat) : Option Nat := if id = maximumRequestId then none else some (id + 1)

/-- The identifier under which the host answers a line. -/
def HostLine.id? : HostLine → Option String
  | .reportAck .. => none
  | .subscribe id .. => some id
  | .unsubscribe id .. => some id
  | .request id => some id

inductive Requests.Step : Requests → Requests → Prop where
  | acknowledge (r : Requests) (session : String) (sequence bytes : Nat) :
      Step r { r with written := r.written ++ [.reportAck session sequence bytes] }
  | spend (r : Requests) {id : Nat} (next : r.nextId = some id) :
      Step r { r with nextId := afterId id }
  | cancel (r : Requests) {id : Nat} (next : r.nextId = some id) (reference : Nat)
      (nativeId : String) (generation : Nat) :
      Step r { r with
        nextId := afterId id
        written := r.written ++ [.unsubscribe (Nat.repr id) nativeId generation]
        internal := r.internal.insert (Nat.repr id) reference }
  | call (r : Requests) {id : Nat} (idle : r.awaiting = none) (next : r.nextId = some id)
      (line : HostLine) (await : Await) (named : line.id? = some (Nat.repr id))
      (awaited : await.id = Nat.repr id) :
      Step r { r with
        nextId := afterId id
        written := r.written ++ [line]
        awaiting := some await }

namespace Connection

variable {P E : Type}

def requests (c : Connection P) : Requests :=
  ⟨c.effects.written, c.internalRequests, c.awaiting, c.nextId⟩

/-- The requests of the second state come from those of the first. -/
def Grows (c c' : Connection P) : Prop :=
  Relation.ReflTransGen Requests.Step c.requests c'.requests

/-- What leaves the requests alone is a run of no steps. -/
theorem Grows.of_eq {c c' : Connection P} (same : c'.requests = c.requests) : Grows c c' := by
  unfold Grows
  rw [same]

theorem Grows.refl (c : Connection P) : Grows c c := Relation.ReflTransGen.refl

theorem Grows.trans {a b c : Connection P} (first : Grows a b) (second : Grows b c) : Grows a c :=
  Relation.ReflTransGen.trans first second

theorem Grows.single {c c' : Connection P} (step : Requests.Step c.requests c'.requests) :
    Grows c c' :=
  Relation.ReflTransGen.single step

/-! ## What leaves the requests alone -/

@[simp] theorem requests_tick (c : Connection P) : c.tick.requests = c.requests := rfl

@[simp] theorem requests_post (c : Connection P) (message : Message P) :
    (c.post message).requests = c.requests := rfl

/-- A subscription is no request. -/
@[simp] theorem requests_update (c : Connection P) (reference : Nat)
    (change : Subscription P → Subscription P) :
    (c.update reference change).requests = c.requests := by
  unfold update
  split <;> rfl

/-- The channel fails by a message to the process itself. -/
@[simp] theorem requests_failNativeInput (c : Connection P) :
    c.failNativeInput.requests = c.requests := by
  unfold failNativeInput
  split <;> rfl

@[simp] theorem requests_markClosing (c : Connection P) (reference : Nat) (result : String) :
    (c.markClosing reference result).requests = c.requests := requests_update c reference _

@[simp] theorem requests_watchCancellation (world : World) (c : Connection P) (reference : Nat) :
    (c.watchCancellation world reference).requests = c.requests := by
  unfold watchCancellation
  dsimp only
  split <;> rfl

/-- The end of a cancellation drops its deadline; the record of the request goes with the answer. -/
@[simp] theorem requests_completeCancellation (world : World) (c : Connection P)
    (reference : Nat) : (c.completeCancellation world reference).requests = c.requests := by
  unfold completeCancellation
  split
  · rfl
  · dsimp only
    split
    · rw [requests_failNativeInput, requests_tick]
    · split <;> rfl

/-- A dropped subscription may leave its cancellation open. -/
@[simp] theorem requests_dropSubscription (c : Connection P) (reference : Nat) :
    (c.dropSubscription reference).requests = c.requests := by
  unfold dropSubscription
  split <;> rfl

@[simp] theorem requests_retireSubscription (world : World) (c : Connection P) (reference : Nat) :
    (c.retireSubscription world reference).requests = c.requests := by
  unfold retireSubscription
  rw [requests_completeCancellation]
  exact requests_dropSubscription c reference

@[simp] theorem requests_dropAwaited (c : Connection P) : c.dropAwaited.requests = c.requests := by
  unfold dropAwaited
  split
  · exact requests_dropSubscription c _
  · rfl

theorem requests_registerReport {c registered : Connection P} {reference sequence bytes : Nat}
    (result : c.registerReport reference sequence bytes = some registered) :
    registered.requests = c.requests := by
  unfold registerReport at result
  split at result
  · cases result
  · split at result
    · cases result
    · obtain rfl := Option.some.inj result
      rw [requests_update]
      rfl

/-! ## Acknowledgements and cancellations -/

/-- A line that the port takes is written last. -/
theorem requests_sendFrame_taken {world : World} {c : Connection P} {line : HostLine}
    (taken : (c.sendFrame world line).1 = true) :
    (c.sendFrame world line).2.requests =
      { c.requests with written := c.requests.written ++ [line] } := by
  unfold sendFrame at taken ⊢
  split
  · rfl
  · rename_i refused
    rw [if_neg refused] at taken
    cases taken

/-- A line that it refuses is not written at all. -/
theorem requests_sendFrame_refused {world : World} {c : Connection P} {line : HostLine}
    (refused : ¬ (c.sendFrame world line).1 = true) :
    (c.sendFrame world line).2.requests = c.requests := by
  unfold sendFrame at refused ⊢
  split
  · rename_i taken
    rw [if_pos taken] at refused
    exact absurd rfl refused
  · rfl

/-- One acknowledgement at most, with the credit collected since the last. -/
theorem advanceAcknowledgement_grows (world : World) (c : Connection P) :
    Grows c (c.advanceAcknowledgement world) := by
  unfold advanceAcknowledgement
  split
  · exact Grows.refl c
  · rename_i ack ledger _
    dsimp only
    split
    · rename_i taken
      refine Grows.single ?_
      have requests := requests_sendFrame_taken taken
      change Requests.Step c.requests (c.sendFrame world _).2.requests
      rw [requests]
      exact .acknowledge c.requests _ _ _
    · rename_i refused
      exact Grows.of_eq (by rw [requests_failNativeInput, requests_sendFrame_refused refused])

theorem acknowledgeReport_grows (world : World) (c : Connection P) (sequence bytes : Nat) :
    Grows c (c.acknowledgeReport world sequence bytes) := by
  unfold acknowledgeReport
  split
  · split
    · split
      · rename_i ledger _
        exact Grows.trans (b := { c with reportLedger := ledger }) (Grows.of_eq rfl)
          (advanceAcknowledgement_grows world _)
      · exact Grows.refl c
    · exact Grows.refl c
  · exact Grows.refl c

/-- A retired stream gives its credit back in one acknowledgement. -/
theorem consumeRetiredReports_grows {world : World} {c consumed : Connection P}
    {reference generation lastSequence : Nat}
    (result : c.consumeRetiredReports world reference generation lastSequence = some consumed) :
    Grows c consumed := by
  unfold consumeRetiredReports at result
  split at result
  · rename_i ledger _
    obtain rfl := Option.some.inj result
    exact Grows.trans (b := { c with reportLedger := ledger }) (Grows.of_eq rfl)
      (advanceAcknowledgement_grows world _)
  · cases result

/-- Identifiers are taken in order, and the last one only once. -/
theorem requests_takeRequestId {c next : Connection P} {id : String}
    (taken : c.takeRequestId = some (id, next)) :
    ∃ n, c.nextId = some n ∧ id = Nat.repr n ∧
      next.requests = { c.requests with nextId := afterId n } := by
  unfold takeRequestId at taken
  split at taken
  · cases taken
  · rename_i n present
    refine ⟨n, present, ?_⟩
    unfold afterId
    split at taken
    · rename_i last
      obtain ⟨rfl, rfl⟩ := Prod.mk.inj (Option.some.inj taken)
      rw [if_pos last]
      exact ⟨rfl, rfl⟩
    · rename_i last
      obtain ⟨rfl, rfl⟩ := Prod.mk.inj (Option.some.inj taken)
      rw [if_neg last]
      exact ⟨rfl, rfl⟩

/-- A cancellation is recorded if its line is written. -/
theorem requests_submitCancellation (world : World) (c : Connection P)
    (subscription : Subscription P) (reference : Nat) (result id : String) :
    (c.submitCancellation world subscription reference result id).requests =
      if (c.sendFrame world (.unsubscribe id subscription.nativeId subscription.generation)).1 then
        { c.requests with
          written := c.requests.written ++
            [.unsubscribe id subscription.nativeId subscription.generation]
          internal := c.requests.internal.insert id reference }
      else c.requests := by
  have internal : ∀ (d : Connection P) (table : Table String Nat),
      ({ d with internalRequests := table } : Connection P).requests =
        { d.requests with internal := table } := fun _ _ => rfl
  unfold submitCancellation
  dsimp only
  split
  · rename_i taken
    rw [internal (markClosing _ reference result), requests_markClosing,
      requests_sendFrame_taken taken]
    rfl
  · rename_i refused
    rw [requests_failNativeInput, requests_sendFrame_refused refused]

/-- **A cancellation is one step at most**: an identifier with its line and record, or alone. -/
theorem cancelSubscription_grows (world : World) (c : Connection P) (reference : Nat)
    (result : String) : Grows c (c.cancelSubscription world reference result) := by
  unfold cancelSubscription
  split
  · exact Grows.refl c
  · rename_i subscription _
    split
    · exact Grows.refl c
    · dsimp only
      have watched : ((c.markClosing reference result).watchCancellation world
          reference).requests = c.requests := by simp
      split
      · exact Grows.of_eq (by rw [requests_failNativeInput, watched])
      · split
        · rename_i id after taken
          obtain ⟨n, present, rfl, spent⟩ := requests_takeRequestId taken
          rw [watched] at spent
          have next : c.requests.nextId = some n := by rw [← watched]; exact present
          refine Grows.single ?_
          rw [requests_submitCancellation, spent]
          split
          · exact .cancel c.requests next reference subscription.nativeId subscription.generation
          · exact .spend c.requests next
        · exact Grows.of_eq (by rw [requests_failNativeInput, watched])

/-! ## Reports and recovery -/

theorem overflowSubscription_grows (world : World) (c : Connection P)
    (reference sequence bytes : Nat) :
    Grows c (c.overflowSubscription world reference sequence bytes) :=
  Grows.trans (b := c.post (.receiver reference (.error "receiver_overflow"))) (Grows.of_eq rfl)
    ((acknowledgeReport_grows world _ sequence bytes).trans
      (cancelSubscription_grows world _ reference _))

/-- A delivery to a full queue acknowledges the report and cancels; any other writes nothing. -/
theorem deliverReport_grows (world : World) (c : Connection P) (reference : Nat) (delivery : P)
    (sequence bytes : Nat) : Grows c (c.deliverReport world reference delivery sequence bytes) := by
  unfold deliverReport
  split
  · exact Grows.of_eq rfl
  · split
    · split <;> exact Grows.of_eq rfl
    · exact Grows.trans (b := c.tick) (Grows.of_eq rfl)
        (overflowSubscription_grows world _ reference sequence bytes)

theorem admitReport_grows {world : World} {c next : Connection P} {reference : Nat} {delivery : P}
    {sequence bytes : Nat}
    (result : c.admitReport world reference delivery sequence bytes = some next) :
    Grows c next := by
  unfold admitReport at result
  split at result
  · cases result
  · split at result
    · split at result
      · obtain rfl := Option.some.inj result
        exact Grows.of_eq (requests_update c reference _)
      · obtain rfl := Option.some.inj result
        exact overflowSubscription_grows world c reference sequence bytes
    · obtain rfl := Option.some.inj result
      exact deliverReport_grows world c reference delivery sequence bytes
    · obtain rfl := Option.some.inj result
      exact acknowledgeReport_grows world c sequence bytes
    · cases result

theorem flushReport_grows (world : World) (reference : Nat) (c : Connection P)
    (report : P × Nat × Nat) : Grows c (flushReport world reference c report) := by
  obtain ⟨delivery, sequence, bytes⟩ := report
  simp only [flushReport]
  split
  · exact Grows.refl c
  · split
    · exact deliverReport_grows world c reference delivery sequence bytes
    · exact acknowledgeReport_grows world c sequence bytes

/-- Each buffered report is delivered like one that has just come. -/
theorem flushSubscription_grows (world : World) (c : Connection P) (reference : Nat) :
    Grows c (c.flushSubscription world reference) := by
  have rounds : ∀ (reports : List (P × Nat × Nat)) (d : Connection P), Grows c d →
      Grows c (reports.foldl (flushReport world reference) d) := by
    intro reports
    induction reports with
    | nil => exact fun _ grown => grown
    | cons report rest ih =>
        exact fun d grown => ih _ (grown.trans (flushReport_grows world reference d report))
  unfold flushSubscription
  split
  · exact Grows.refl c
  · split
    · exact rounds _ _ (Grows.of_eq (requests_update c reference _))
    · exact Grows.refl c

/-- A status to a full queue cancels as well. -/
theorem deliverSubscriptionStatus_grows (world : World) (c : Connection P) (reference : Nat)
    (status : SubscriptionStatusKind) (generation attempt : Nat) :
    Grows c (c.deliverSubscriptionStatus world reference status generation attempt).2 := by
  unfold deliverSubscriptionStatus
  split
  · exact Grows.refl c
  · split
    · exact Grows.of_eq rfl
    · exact Grows.trans (b := c.tick.post (.receiver reference (.error "receiver_overflow")))
        (Grows.of_eq rfl) (cancelSubscription_grows world _ reference _)

theorem ofStatus_eq_ok {delivered : Bool × Connection P} {next : Connection P}
    (ok : Recovery.ofStatus delivered = .ok next) : next = delivered.2 := by
  unfold Recovery.ofStatus at ok
  split at ok
  · exact (Recovery.ok.inj ok).symm
  · cases ok

theorem beginRecovery_grows {world : World} {c next : Connection P}
    {reference generation attempt : Nat}
    (ok : c.beginRecovery world reference generation attempt = .ok next) : Grows c next := by
  unfold beginRecovery at ok
  split at ok
  · cases ok
  · rename_i subscription _
    split at ok
    · split at ok
      · cases ok
      · rename_i ledger _
        obtain rfl := ofStatus_eq_ok ok
        exact Grows.trans (b := c.recovering reference subscription generation attempt ledger)
          (Grows.of_eq rfl) (deliverSubscriptionStatus_grows world _ reference _ _ _)
    · split at ok
      · obtain rfl := ofStatus_eq_ok ok
        exact Grows.trans (Grows.of_eq (requests_update c reference _))
          (deliverSubscriptionStatus_grows world _ reference _ _ _)
      · cases ok

theorem finishRecovery_grows {world : World} {c next : Connection P}
    {reference generation attempt : Nat}
    (ok : c.finishRecovery world reference generation attempt = .ok next) : Grows c next := by
  unfold finishRecovery at ok
  split at ok
  · cases ok
  · split at ok
    · have told := deliverSubscriptionStatus_grows world c reference .resubscribed generation attempt
      dsimp only at ok
      split at ok
      · obtain rfl := Recovery.ok.inj ok
        exact told.trans (Grows.of_eq (requests_update _ reference _))
      · obtain rfl := Recovery.ok.inj ok
        exact told
    · cases ok

/-- Credit of the retired generation, and nothing else, goes back to the host. -/
theorem retireStreamGeneration_grows {world : World} {c next : Connection P}
    {reference generation lastSequence : Nat}
    (ok : c.retireStreamGeneration world reference generation lastSequence = .ok next) :
    Grows c next := by
  unfold retireStreamGeneration at ok
  split at ok
  · cases ok
  · split at ok
    · split at ok
      · cases ok
      · rename_i consumed result
        obtain rfl := Decoded.ok.inj ok
        refine (consumeRetiredReports_grows result).trans (Grows.of_eq ?_)
        rw [requests_update]
        rfl
    · split at ok
      · split at ok
        · cases ok
        · rename_i consumed result
          obtain rfl := Decoded.ok.inj ok
          exact (consumeRetiredReports_grows result).trans
            (Grows.of_eq (requests_retireSubscription world consumed reference))
      · cases ok

/-- An error frame ends a subscription and writes nothing. -/
theorem requests_receiveError {world : World} {c next : Connection P} {reference : Nat}
    {code : String} (ok : c.receiveError world reference code = .ok next) :
    next.requests = c.requests := by
  unfold receiveError at ok
  split at ok
  · cases ok
  · split at ok
    · cases ok
    · obtain rfl := Decoded.ok.inj ok
      rw [requests_watchCancellation, requests_update]
      split <;> rfl

/-- An event frame that is accepted. -/
theorem decodeAsyncFrame_grows {world : World} {wireError : E → Option String}
    {c next : Connection P} {bytes : Nat} {frame : HostFrame P E} (event : answer? frame = none)
    (ok : c.decodeAsyncFrame world wireError bytes frame = .ok next) : Grows c next := by
  cases frame with
  | resubscribing session nativeId generation attempt =>
      simp only [decodeAsyncFrame] at ok
      split at ok
      · split at ok
        · cases ok
        · rename_i reference _
          cases recovery : c.beginRecovery world reference generation attempt with
          | ok reached =>
              rw [recovery] at ok
              obtain rfl := Decoded.ok.inj ok
              exact beginRecovery_grows recovery
          | overflow closing => rw [recovery] at ok; cases ok
          | error => rw [recovery] at ok; cases ok
          | crash => rw [recovery] at ok; cases ok
      · cases ok
  | resubscribed session nativeId generation attempt minimum maximum sdkId =>
      simp only [decodeAsyncFrame] at ok
      split at ok
      · split at ok
        · cases ok
        · rename_i reference _
          cases recovery : c.finishRecovery world reference generation attempt with
          | ok reached =>
              rw [recovery] at ok
              obtain rfl := Decoded.ok.inj ok
              exact finishRecovery_grows recovery
          | overflow closing => rw [recovery] at ok; cases ok
          | error => rw [recovery] at ok; cases ok
          | crash => rw [recovery] at ok; cases ok
      · cases ok
  | report session nativeId generation sequence payload =>
      simp only [decodeAsyncFrame] at ok
      split at ok
      · split at ok
        · cases ok
        · rename_i reference _
          split at ok
          · cases ok
          · split at ok
            · split at ok
              · cases ok
              · rename_i registered result
                cases admitted : registered.admitReport world reference payload sequence bytes with
                | none => rw [admitted] at ok; cases ok
                | some admittedNext =>
                    rw [admitted] at ok
                    obtain rfl := Decoded.ok.inj ok
                    exact Grows.trans (Grows.of_eq (requests_registerReport result))
                      (admitReport_grows admitted)
            · cases ok
      · cases ok
  | retired session nativeId generation lastSequence =>
      simp only [decodeAsyncFrame] at ok
      split at ok
      · split at ok
        · cases ok
        · exact retireStreamGeneration_grows ok
      · cases ok
  | error session nativeId generation error =>
      simp only [decodeAsyncFrame] at ok
      split at ok
      · split at ok
        · exact Grows.of_eq (requests_receiveError ok)
        · cases ok
      · cases ok
  | success id => cases event
  | established id nativeId generation minimum maximum sdkId => cases event
  | failure id code => cases event

/-! ## Messages -/

theorem reportAdmitted_grows (world : World) (c : Connection P) (owner : Nat)
    (generation : String) (reference sequence token : Nat) (admission : Admission P) :
    Grows c (c.reportAdmitted world owner generation reference sequence token admission) := by
  unfold reportAdmitted
  split
  · rename_i subscription report _ _
    cases admission with
    | ok delivery =>
        dsimp only
        split
        · exact Grows.trans (b := c.tick.post (.receiver reference (.report delivery)))
            (Grows.of_eq rfl) (acknowledgeReport_grows world _ sequence report.bytes)
        · exact Grows.trans (b := c.tick) (Grows.of_eq rfl)
            (overflowSubscription_grows world _ reference sequence report.bytes)
    | receiverOverflow =>
        exact overflowSubscription_grows world c reference sequence report.bytes
    | invalid => exact Grows.of_eq (requests_failNativeInput c)
  · exact Grows.refl c

theorem reportConsumed_grows (world : World) (c : Connection P) (generation : String)
    (reference sequence token : Nat) :
    Grows c (c.reportConsumed world generation reference sequence token) := by
  unfold reportConsumed
  split
  · exact acknowledgeReport_grows world c sequence _
  · exact Grows.refl c

/-- The end of an owner or a receiver cancels what was theirs. -/
theorem down_grows (world : World) (c : Connection P) (monitor : Nat) :
    Grows c (c.down world monitor) := by
  unfold down
  split
  · exact Grows.refl c
  · rename_i reference _
    split
    · exact Grows.of_eq rfl
    · split
      · exact Grows.trans (b := c.post (.receiver reference (.error "owner_closed")))
          (Grows.of_eq rfl) (cancelSubscription_grows world _ reference _)
      · exact cancelSubscription_grows world c reference _

/-- A call takes an identifier, writes its line and waits, or ends the session. -/
theorem requestFrame_grows (world : World) {c : Connection P} (idle : c.awaiting = none)
    (line : String → HostLine) (await : String → Await) (named : ∀ id, (line id).id? = some id)
    (awaited : ∀ id, (await id).id = id) :
    (c.requestFrame world line await).stopped = true ∨
      Grows c (c.requestFrame world line await) := by
  unfold requestFrame
  split
  · exact Or.inl rfl
  · rename_i id after taken
    obtain ⟨n, present, rfl, spent⟩ := requests_takeRequestId taken
    dsimp only
    split
    · rename_i sent
      refine Or.inr (Grows.single ?_)
      have wrote := requests_sendFrame_taken sent
      rw [spent] at wrote
      have waiting : ∀ (d : Connection P) (call : Await),
          ({ d with awaiting := some call } : Connection P).requests =
            { d.requests with awaiting := some call } := fun _ _ => rfl
      rw [waiting (after.sendFrame world _).2, wrote]
      exact .call c.requests idle present _ _ (named _) (awaited _)
    · exact Or.inl rfl

/-- A request that has failed waits no longer, if the session goes on. -/
theorem requests_requestFailed (c : Connection P) (code : String) :
    (c.requestFailed code).stopped = true ∨
      (c.requestFailed code).requests = { c.requests with awaiting := none } := by
  unfold requestFailed
  split
  · exact Or.inl rfl
  · have dropped := requests_dropAwaited c
    exact Or.inr (congrArg (fun r : Requests => { r with awaiting := none }) dropped)

/-- A frame that is not encoded spends its identifier. -/
theorem execute_grows (world : World) {c : Connection P} (idle : c.awaiting = none)
    (encodes : Bool) : (c.execute world encodes).stopped = true ∨
      Grows c (c.execute world encodes) := by
  unfold execute
  split
  · exact requestFrame_grows world idle _ _ (fun _ => rfl) fun _ => rfl
  · split
    · exact Or.inl rfl
    · rename_i id next taken
      obtain ⟨n, present, -, spent⟩ := requests_takeRequestId taken
      refine (requests_requestFailed next "invalid_request").imp_right fun failed => ?_
      have quiet : { next.requests with awaiting := none } = next.requests := by
        rw [spent]
        exact congrArg (fun awaiting => { c.requests with awaiting, nextId := afterId n }) idle.symm
      refine Grows.single ?_
      rw [failed, quiet, spent]
      exact .spend c.requests present

theorem requests_putSubscription {c prepared : Connection P} {acknowledged : Bool}
    {nativeId : String} {queueLimit : Nat} {resubscribe : Bool} {admits : P → Bool}
    {reference : Nat}
    (put : c.putSubscription acknowledged nativeId queueLimit resubscribe admits =
      some (reference, prepared)) : prepared.requests = c.requests := by
  unfold putSubscription at put
  dsimp only at put
  split at put
  · cases put
  · obtain ⟨-, rfl⟩ := Prod.mk.inj (Option.some.inj put)
    rfl

/-- The record of the subscription comes first, and is no request. -/
theorem subscribe_grows (world : World) {c : Connection P} (idle : c.awaiting = none)
    (acknowledged : Bool) (nativeId : String) (queueLimit : Nat) (resubscribe : Bool)
    (admits : P → Bool) :
    (c.subscribe world acknowledged nativeId queueLimit resubscribe admits).stopped = true ∨
      Grows c (c.subscribe world acknowledged nativeId queueLimit resubscribe admits) := by
  unfold Connection.subscribe
  split
  · exact Or.inr (Grows.refl c)
  · split
    · exact Or.inr (Grows.of_eq rfl)
    · split
      · exact Or.inl rfl
      · rename_i reference prepared put
        have same := requests_putSubscription put
        refine (requestFrame_grows world ((congrArg Requests.awaiting same).trans idle) _ _
          (fun _ => rfl) (fun _ => rfl)).imp_right fun grown => ?_
        exact Grows.trans (Grows.of_eq same) grown

/-- So does the mark that it is closing. -/
theorem unsubscribe_grows (world : World) {c : Connection P} (idle : c.awaiting = none)
    (reference : Nat) :
    (c.unsubscribe world reference).stopped = true ∨ Grows c (c.unsubscribe world reference) := by
  unfold unsubscribe
  split
  · exact Or.inr (Grows.refl c)
  · rename_i subscription _
    split
    · exact Or.inr (Grows.refl c)
    · have marked := requests_markClosing c reference "cancelled"
      refine (requestFrame_grows world ((congrArg Requests.awaiting marked).trans idle) _ _
        (fun _ => rfl) (fun _ => rfl)).imp_right fun grown => ?_
      exact Grows.trans (Grows.of_eq marked) grown

/-- Everything but a line of the host. -/
theorem step_grows (world : World) (wireError : E → Option String) (c : Connection P)
    {input : Input P E} (local' : ∀ bytes frame, input ≠ .line bytes frame) :
    (c.step world wireError input).stopped = true ∨ Grows c (c.step world wireError input) := by
  unfold step
  split
  · exact Or.inr (Grows.refl c)
  cases input with
  | subscribe acknowledged nativeId queueLimit resubscribe admits =>
      dsimp only
      split
      · rename_i idle
        exact subscribe_grows world (Option.isNone_iff_eq_none.1 idle) _ _ _ _ _
      · exact Or.inr (Grows.refl c)
  | unsubscribe reference =>
      dsimp only
      split
      · rename_i idle
        exact unsubscribe_grows world (Option.isNone_iff_eq_none.1 idle) reference
      · exact Or.inr (Grows.refl c)
  | request encodes =>
      dsimp only
      split
      · rename_i idle
        exact execute_grows world (Option.isNone_iff_eq_none.1 idle) encodes
      · exact Or.inr (Grows.refl c)
  | line bytes frame => exact absurd rfl (local' bytes frame)
  | reportAdmitted owner generation reference sequence token admission =>
      exact Or.inr (reportAdmitted_grows world c _ _ _ _ _ _)
  | reportConsumed generation reference sequence token =>
      exact Or.inr (reportConsumed_grows world c _ _ _ _)
  | nativeInputFailed generation =>
      dsimp only
      split
      · exact Or.inl rfl
      · exact Or.inr (Grows.refl c)
  | down monitor => exact Or.inr (down_grows world c monitor)
  | flushSubscription reference => exact Or.inr (flushSubscription_grows world c reference)
  | failed code => exact Or.inl rfl
  | closed => exact Or.inl rfl

/-- A line that is no answer. -/
theorem receiveLine_grows (world : World) (wireError : E → Option String) (c : Connection P)
    (bytes : Nat) {frame : HostFrame P E} (event : answer? frame = none) :
    (c.receiveLine world wireError bytes (some frame)).stopped = true ∨
      Grows c (c.receiveLine world wireError bytes (some frame)) := by
  simp only [receiveLine, event, receiveAsync]
  cases decoded : c.decodeAsyncFrame world wireError bytes frame with
  | ok next =>
      refine Or.inr ?_
      split
      · rename_i impossible
        cases impossible
      · exact decodeAsyncFrame_grows event decoded
  | error effects =>
      refine Or.inl ?_
      split
      · rename_i impossible
        cases impossible
      · rfl
  | crash effects =>
      refine Or.inl ?_
      split
      · rename_i impossible
        cases impossible
      · rfl

end Connection

end WotexMatter.Beam
