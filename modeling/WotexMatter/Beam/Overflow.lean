/-
# WotexMatter.Beam.Overflow -- a status frame that finds its receiver full

`deliver_subscription_status` tells a full receiver so and cancels the subscription,
two calls below `decode_async_frame`.  `finish_recovery` turns that outcome into
`{:ok, closing}`; `begin_recovery` hands it up as it is, and the `with` above takes it
for a malformed frame.  So the overflow of a `resubscribed` status stays with its
subscription, and that of a `resubscribing` status never does
(`decodeAsyncFrame_overflow`).
-/
import WotexMatter.Beam.Terminal

set_option autoImplicit false
set_option linter.unusedSectionVars false

namespace WotexMatter.Beam

open WotexMatter.Theory WotexMatter.Native

namespace Connection

variable {P E : Type}

/-- The frame is a status, and the recovery state of the subscription admits it. -/
def admitsStatus (c : Connection P) (reference : Nat) (subscription : Subscription P) :
    HostFrame P E → Bool
  | .resubscribing session nativeId generation attempt =>
      decide (session = c.generation ∧ 1 < generation ∧ 1 ≤ attempt ∧ attempt ≤ 5) &&
        decide (c.subscriptionReference nativeId = some reference) &&
        (startsRecovery subscription generation attempt ||
          continuesRecovery subscription generation attempt)
  | .resubscribed session nativeId generation attempt minimum maximum sdkId =>
      decide (session = c.generation ∧ 1 < generation ∧ 1 ≤ attempt ∧ attempt ≤ 5 ∧
          minimum ≤ 65535 ∧ 1 ≤ maximum ∧ maximum ≤ 65535 ∧ minimum ≤ maximum ∧
          sdkId ≤ 4294967295) &&
        decide (c.subscriptionIds.lookup (nativeId, generation) = some reference) &&
        endsRecovery subscription generation attempt
  | _ => false

def isResubscribed : HostFrame P E → Bool
  | .resubscribed .. => true
  | _ => false

/-- A message to the process itself after which the session ends. -/
def endsSession : Message P → Bool
  | .nativeInputFailed => true
  | .requestIdsExhausted => true
  | _ => false

/-- Only this subscription is touched: it is closing, its cancellation is on its way, and
nothing ends the session. -/
structure Contained (c : Connection P) (reference : Nat) (next : Connection P) : Prop where
  closing : ∃ subscription, next.subscriptions.lookup reference = some subscription ∧
    subscription.status = .closing
  submitted : ∃ id nativeId generation,
    next.effects.written = c.effects.written ++ [.unsubscribe id nativeId generation] ∧
      next.internalRequests.lookup id = some reference
  subscriptions : ∀ other, other ≠ reference →
    next.subscriptions.lookup other = c.subscriptions.lookup other
  streams : ∀ stream, stream.1 ≠ reference →
    next.reportLedger.streams.lookup stream = c.reportLedger.streams.lookup stream
  monitors : ∀ monitor, c.subscriptionMonitors.lookup monitor ≠ some reference →
    next.subscriptionMonitors.lookup monitor = c.subscriptionMonitors.lookup monitor
  session : next.stopped = c.stopped ∧
    next.effects.sent.filter endsSession = c.effects.sent.filter endsSession

/-- What the receiver is told before does not matter. -/
theorem contained_post_iff {c : Connection P} {reference : Nat} {delivered : Delivered P}
    {next : Connection P} :
    Contained (c.tick.post (.receiver reference delivered)) reference next ↔
      Contained c reference next := by
  have same : (c.tick.post (.receiver reference delivered)).effects.sent.filter endsSession =
      c.effects.sent.filter endsSession := by
    simp [post, tick, endsSession]
  constructor
  · rintro ⟨closing, submitted, subscriptions, streams, monitors, stopped, sent⟩
    exact ⟨closing, submitted, subscriptions, streams, monitors, stopped, sent.trans same⟩
  · rintro ⟨closing, submitted, subscriptions, streams, monitors, stopped, sent⟩
    exact ⟨closing, submitted, subscriptions, streams, monitors, stopped, sent.trans same.symm⟩

/-! ## What a cancellation does -/

theorem markClosing_of_found {c : Connection P} {reference : Nat} {subscription : Subscription P}
    (found : c.subscriptions.lookup reference = some subscription) (result : String) :
    c.markClosing reference result = { c with
      subscriptions := c.subscriptions.insert reference
        { subscription with status := .closing, closeResult := result } } := by
  unfold markClosing update
  rw [found]

/-- Marking a subscription again changes nothing. -/
theorem markClosing_of_marked {c : Connection P} {reference : Nat} {result : String}
    {subscription : Subscription P}
    (marked : c.subscriptions.lookup reference =
      some { subscription with status := .closing, closeResult := result }) :
    c.markClosing reference result = c := by
  rw [markClosing_of_found marked]
  have same := Table.insert_of_lookup marked
  dsimp only at same ⊢
  rw [same]

/-- The subscription is `:closing` and its cancellation is watched. -/
def watched (world : World) (c : Connection P) (reference : Nat) (result : String) :
    Connection P :=
  (c.markClosing reference result).watchCancellation world reference

/-- Marking and watching touch the subscription, its deadline and the clock. -/
theorem watched_eq (world : World) {c : Connection P} {reference : Nat}
    {subscription : Subscription P} (found : c.subscriptions.lookup reference = some subscription)
    (result : String) :
    c.watched world reference result = { c with
      subscriptions := c.subscriptions.insert reference
        { subscription with status := .closing, closeResult := result }
      cancellationDeadlines := (c.watched world reference result).cancellationDeadlines
      effects := { c.effects with ticks := c.effects.ticks + 1 } } := by
  have ticked : ∀ d : Connection P, d.watchCancellation world reference = { d.tick with
      cancellationDeadlines := (d.watchCancellation world reference).cancellationDeadlines } := by
    intro d
    unfold watchCancellation
    dsimp only
    split <;> rfl
  unfold watched
  rw [ticked, markClosing_of_found found]
  rfl

/-- The subscription is established and not yet cancelled. -/
def Running (subscription : Subscription P) : Prop :=
  subscription.status = .active ∨ subscription.status = .recovering

theorem cancelSubscription_of_running (world : World) {c : Connection P} {reference : Nat}
    {subscription : Subscription P} (found : c.subscriptions.lookup reference = some subscription)
    (running : Running subscription) (result : String) :
    c.cancelSubscription world reference result =
      match (c.watched world reference result).takeRequestId with
      | some (id, next) => next.submitCancellation world subscription reference result id
      | none => (c.watched world reference result).failNativeInput := by
  unfold cancelSubscription
  rw [found]
  dsimp only
  rw [if_neg (by rcases running with active | recovering <;> simp [*]),
    if_neg (by rcases running with active | recovering <;> simp [*])]
  rfl

theorem failNativeInput_written (c : Connection P) :
    c.failNativeInput.effects.written = c.effects.written := by
  unfold failNativeInput
  split <;> rfl

theorem failNativeInput_sent (c : Connection P) :
    ∃ more, c.failNativeInput.effects.sent = c.effects.sent ++ more := by
  unfold failNativeInput
  split
  · exact ⟨[], (List.append_nil _).symm⟩
  · exact ⟨[.nativeInputFailed], rfl⟩

theorem submitCancellation_sent (world : World) (c : Connection P)
    (subscription : Subscription P) (reference : Nat) (result id : String) :
    ∃ more, (c.submitCancellation world subscription reference result id).effects.sent =
      c.effects.sent ++ more := by
  have marked : ∀ d : Connection P, (d.markClosing reference result).effects = d.effects := by
    intro d
    unfold markClosing update
    split <;> rfl
  unfold submitCancellation
  by_cases taken : world.portCommand c.effects.ticks = true
  · refine ⟨[], ?_⟩
    simp [sendFrame, taken, marked, tick]
  · obtain ⟨more, sent⟩ := failNativeInput_sent c.tick
    refine ⟨more, ?_⟩
    simp only [sendFrame, taken]
    exact sent

/-- The condition under which a cancellation is submitted and the session goes on: a request
identifier that is not the last, and a Port that takes the line. -/
def cancellable (world : World) (c : Connection P) (ticks : Nat) : Bool :=
  (c.nextId.any fun id => id != maximumRequestId) && world.portCommand ticks

/-- The cancellation that the Port takes. -/
theorem cancelSubscription_submitted {world : World} {c : Connection P} {reference id : Nat}
    {subscription : Subscription P} (found : c.subscriptions.lookup reference = some subscription)
    (running : Running subscription) (result : String)
    (next : c.nextId = some id) (below : id ≠ maximumRequestId)
    (taken : world.portCommand (c.effects.ticks + 1) = true) :
    c.cancelSubscription world reference result = { c with
      subscriptions := c.subscriptions.insert reference
        { subscription with status := .closing, closeResult := result }
      cancellationDeadlines := (c.watched world reference result).cancellationDeadlines
      nextId := some (id + 1)
      internalRequests := c.internalRequests.insert (Nat.repr id) reference
      effects := { c.effects with
        ticks := c.effects.ticks + 2
        written := c.effects.written ++ [.unsubscribe (Nat.repr id) subscription.nativeId
          subscription.generation] } } := by
  rw [cancelSubscription_of_running world found running, watched_eq world found]
  simp only [takeRequestId, next, below, if_false, submitCancellation, sendFrame, taken, if_true]
  rw [markClosing_of_marked (show Finmap.lookup reference (c.subscriptions.insert reference _) = _
    from Table.lookup_insert_self _ _ _)]
  rfl

theorem contained_of_cancelled {world : World} {c : Connection P} {reference : Nat}
    {subscription : Subscription P} (found : c.subscriptions.lookup reference = some subscription)
    (running : Running subscription) (result : String)
    (able : c.cancellable world (c.effects.ticks + 1) = true) :
    Contained c reference (c.cancelSubscription world reference result) := by
  simp only [cancellable, Bool.and_eq_true] at able
  obtain ⟨id, next, below⟩ := (Option.any_eq_true _ _).1 able.1
  rw [cancelSubscription_submitted found running result next (by simpa using below) able.2]
  refine ⟨⟨_, Table.lookup_insert_self _ _ _, rfl⟩, ⟨_, _, _, rfl, Table.lookup_insert_self _ _ _⟩,
    fun other different => Finmap.lookup_insert_of_ne _ different, fun _ _ => rfl,
    fun _ _ => rfl, rfl, rfl⟩

/-- A cancellation that is contained was submitted: the identifiers were not exhausted and the
Port took the line. -/
theorem cancellable_of_contained {world : World} {c : Connection P} {reference : Nat}
    {subscription : Subscription P} (found : c.subscriptions.lookup reference = some subscription)
    (running : Running subscription) (result : String)
    (contained : Contained c reference (c.cancelSubscription world reference result)) :
    c.cancellable world (c.effects.ticks + 1) = true := by
  obtain ⟨id', nativeId, generation, written, -⟩ := contained.submitted
  obtain ⟨-, sent⟩ := contained.session
  rw [cancelSubscription_of_running world found running, watched_eq world found] at written sent
  cases next : c.nextId with
  | none =>
      simp [takeRequestId, next, failNativeInput_written] at written
  | some id =>
      by_cases last : id = maximumRequestId
      · -- The message about the exhausted identifiers is among those sent.
        exfalso
        simp only [takeRequestId, next, last, if_true] at sent
        obtain ⟨more, sent'⟩ := submitCancellation_sent world _ subscription reference result
          (Nat.repr maximumRequestId)
        rw [sent'] at sent
        simp [post, endsSession] at sent
      · by_cases taken : world.portCommand (c.effects.ticks + 1) = true
        · simp [cancellable, next, last, taken]
        · simp [takeRequestId, next, last, submitCancellation, sendFrame, taken,
            failNativeInput_written, tick] at written

/-! ## Status frames -/

/-- A `resubscribing` frame without room is refused, or fails on the ledger. -/
theorem beginRecovery_full {world : World} {c : Connection P} {reference : Nat}
    {subscription : Subscription P} (found : c.subscriptions.lookup reference = some subscription)
    (full : c.hasRoom world subscription.queueLimit = false) (generation attempt : Nat)
    (next : Connection P) : c.beginRecovery world reference generation attempt ≠ .ok next := by
  unfold beginRecovery
  rw [found]
  dsimp only
  split
  · split
    · simp
    · rename_i ledger _
      have found' : (c.recovering reference subscription generation attempt
          ledger).subscriptions.lookup reference = _ := Table.lookup_insert_self _ _ _
      have full' : (c.recovering reference subscription generation attempt ledger).hasRoom world
          subscription.queueLimit = false := full
      simp [deliverSubscriptionStatus, found', full', Recovery.ofStatus]
  · split
    · have found' := lookup_update found fun s => { s with recoveryAttempt := attempt }
      have full' : (c.update reference fun s => { s with recoveryAttempt := attempt }).hasRoom world
          subscription.queueLimit = false := by
        unfold update
        rw [found]
        exact full
      simp [deliverSubscriptionStatus, found', full', Recovery.ofStatus]
    · simp

theorem finishRecovery_full {world : World} {c : Connection P} {reference : Nat}
    {subscription : Subscription P} (found : c.subscriptions.lookup reference = some subscription)
    (full : c.hasRoom world subscription.queueLimit = false) {generation attempt : Nat}
    (ends : endsRecovery subscription generation attempt = true) :
    c.finishRecovery world reference generation attempt =
      .ok ((c.tick.post (.receiver reference (.error "receiver_overflow"))).cancelSubscription world
        reference "receiver_overflow") := by
  simp [finishRecovery, found, ends, deliverSubscriptionStatus, full]

/-- **An overflow stays with its subscription, or ends the session.**  The receiver of an
admitted status frame is full.  The frame closes that subscription and touches no other
exactly if it is a `resubscribed` frame, a request identifier below the last is left and the
Port takes the cancellation. -/
theorem decodeAsyncFrame_overflow (world : World) (wireError : E → Option String)
    (c : Connection P) (bytes : Nat) (frame : HostFrame P E) (reference : Nat)
    (subscription : Subscription P) (length : Nat)
    (found : c.subscriptions.lookup reference = some subscription)
    (admitted : c.admitsStatus reference subscription frame = true)
    (sampled : world.messageQueueLen c.effects.ticks = some length)
    (full : subscription.queueLimit ≤ length) :
    (∃ next, c.decodeAsyncFrame world wireError bytes frame = .ok next ∧
        Contained c reference next) ↔
      (isResubscribed frame = true ∧ c.cancellable world (c.effects.ticks + 2) = true) := by
  have noRoom : c.hasRoom world subscription.queueLimit = false := by
    simp [hasRoom, sampled, Nat.not_lt.2 full]
  cases frame with
  | resubscribing session nativeId generation attempt =>
      simp only [admitsStatus, Bool.and_eq_true, decide_eq_true_eq] at admitted
      obtain ⟨⟨checked, named⟩, -⟩ := admitted
      constructor
      · rintro ⟨next, decoded, -⟩
        simp only [decodeAsyncFrame, if_pos checked, named] at decoded
        cases recovery : c.beginRecovery world reference generation attempt with
        | ok reached => exact absurd recovery (beginRecovery_full found noRoom generation attempt _)
        | overflow closing => rw [recovery] at decoded; cases decoded
        | error => rw [recovery] at decoded; cases decoded
        | crash => rw [recovery] at decoded; cases decoded
      · rintro ⟨impossible, -⟩
        cases impossible
  | resubscribed session nativeId generation attempt minimum maximum sdkId =>
      simp only [admitsStatus, Bool.and_eq_true, decide_eq_true_eq] at admitted
      obtain ⟨⟨checked, named⟩, ends⟩ := admitted
      have running : Running subscription := by
        simp only [endsRecovery, Bool.and_eq_true, decide_eq_true_eq] at ends
        exact Or.inr ends.1.1.1
      have decoded : c.decodeAsyncFrame world wireError bytes
          (.resubscribed session nativeId generation attempt minimum maximum sdkId) =
            .ok ((c.tick.post (.receiver reference (.error "receiver_overflow"))).cancelSubscription
              world reference "receiver_overflow") := by
        simp only [decodeAsyncFrame, if_pos checked, named]
        rw [finishRecovery_full found noRoom ends]
        rfl
      have told : (c.tick.post (.receiver reference
          (.error "receiver_overflow"))).subscriptions.lookup reference = some subscription := found
      rw [decoded]
      constructor
      · rintro ⟨next, same, contained⟩
        obtain rfl := Decoded.ok.inj same
        exact ⟨rfl, cancellable_of_contained told running _ (contained_post_iff.2 contained)⟩
      · rintro ⟨-, able⟩
        exact ⟨_, rfl, contained_post_iff.1 (contained_of_cancelled told running _ able)⟩
  | report => cases admitted
  | retired => cases admitted
  | success => cases admitted
  | error => cases admitted
  | established => cases admitted
  | failure => cases admitted

/-- Every queue is empty for the first `ticks` looks and holds one message afterwards. -/
def crowdedFrom (ticks : Nat) : World where
  messageQueueLen := fun tick => some (if tick < ticks then 0 else 1)
  portCommand := fun _ => true
  monotonicTime := fun _ => 0
  alive := fun _ => true

/-- A subscription with room for one message, established. -/
def establishedInputs : List (Input Unit Unit) :=
  [.subscribe true "s" 1 true (fun _ => true),
    .line 96 (some (.established "2" "s" 1 0 60 7))]

/-- The recovery of the subscription has started and its first generation is retired. -/
def recoveredInputs : List (Input Unit Unit) :=
  establishedInputs ++
    [.line 112 (some (.resubscribing "g" "s" 2 1)), .line 104 (some (.retired "g" "s" 1 0))]

def recovered : Connection Unit :=
  run (crowdedFrom 5) (fun _ => none) { generation := "g" } recoveredInputs

theorem recovered_lookup : (recovered.subscriptions.lookup 0).isSome = true := by
  decide +kernel

theorem decodeAsyncFrame_overflow_resubscribed :
    (∃ next, recovered.decodeAsyncFrame (E := Unit) (crowdedFrom 5) (fun _ => none) 144
        (.resubscribed "g" "s" 2 1 0 60 8) = .ok next ∧ Contained recovered 0 next) ↔
      (isResubscribed (.resubscribed "g" "s" 2 1 0 60 8 : HostFrame Unit Unit) = true ∧
        recovered.cancellable (crowdedFrom 5) (recovered.effects.ticks + 2) = true) :=
  decodeAsyncFrame_overflow (crowdedFrom 5) (fun _ => none) recovered 144
    (.resubscribed "g" "s" 2 1 0 60 8) 0
    ((recovered.subscriptions.lookup 0).get recovered_lookup) 1 (Option.some_get _).symm
    (by decide +kernel) (by decide +kernel) (by decide +kernel)

def established : Connection Unit :=
  run (crowdedFrom 4) (fun _ => none) { generation := "g" } establishedInputs

theorem established_lookup : (established.subscriptions.lookup 0).isSome = true := by
  decide +kernel

/-- The same receiver, full when the recovery starts: the frame is admitted and refused. -/
theorem decodeAsyncFrame_overflow_refused :
    (∃ subscription, established.subscriptions.lookup 0 = some subscription ∧
        established.admitsStatus (E := Unit) 0 subscription (.resubscribing "g" "s" 2 1) = true ∧
        (crowdedFrom 4).messageQueueLen established.effects.ticks = some 1 ∧
        subscription.queueLimit ≤ 1) ∧
      ¬ ∃ next, established.decodeAsyncFrame (E := Unit) (crowdedFrom 4) (fun _ => none) 112
          (.resubscribing "g" "s" 2 1) = .ok next ∧ Contained established 0 next := by
  refine ⟨⟨(established.subscriptions.lookup 0).get established_lookup, (Option.some_get _).symm,
    by decide +kernel, by decide +kernel, by decide +kernel⟩, ?_⟩
  rintro ⟨next, decoded, -⟩
  have refused : (match established.decodeAsyncFrame (E := Unit) (crowdedFrom 4) (fun _ => none) 112
      (.resubscribing "g" "s" 2 1) with
        | .ok _ => true
        | _ => false) = false := by decide +kernel
  rw [decoded] at refused
  cases refused

end Connection

end WotexMatter.Beam
