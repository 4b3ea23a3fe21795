/-
# WotexMatter.Beam.Book -- what a step of the process does to its books

The process keeps its subscriptions, two indexes into them and the report ledger, and it
sends messages.  `Book` is that part of the state.  `Book.Step` lists every change the
source makes to it, each with the guard under which it is made, and `step_moves` shows
that one message of the mailbox amounts to such changes.  An invariant of the books is
then one small argument for each change, and no argument about the functions.

Four guards are not in the source: a report is handed out behind an empty buffer, a
recovery ends with an empty buffer, a consumption message carries a token that was
handed out, a random native identifier is new.  `Rules` says which of them are asked for.
-/
import WotexMatter.Beam.Requests

set_option autoImplicit false
set_option linter.unusedSectionVars false

namespace WotexMatter.Beam

open WotexMatter.Theory WotexMatter.Native

structure Book (P : Type) where
  subscriptions : Table Nat (Subscription P)
  ids : Table (String × Nat) Nat
  monitors : Table Nat Nat
  ledger : ReportLedger (Nat × Nat) Nat
  references : Nat
  sent : List (Message P)

/-- The reference, the sequence and the token of an envelope. -/
def Message.envelope? {P : Type} : Message P → Option (Nat × Nat × Nat)
  | .receiver reference (.envelope sequence token _) => some (reference, sequence, token)
  | .streamOwner reference sequence token _ => some (reference, sequence, token)
  | _ => none

/-- What is asked of a run beyond what the source checks. -/
structure Rules where
  /-- A report for an active subscription finds the buffer empty. -/
  flushed : Prop
  /-- A recovery ends with the buffer empty. -/
  settled : Prop
  /-- A consumption message carries a token that was handed out. -/
  genuine : Prop
  /-- A new subscription has a native identifier of its own. -/
  distinct : Prop

namespace ReportLedger

variable {K R : Type} [DecidableEq K] [DecidableEq R]

/-- What an acknowledgement attempt leaves: the advanced ledger once the line is taken. -/
def Settles (ledger ledger' : ReportLedger K R) : Prop :=
  ledger' = ledger ∨ ledger' = ledger.advance.2

/-- The report with this sequence, if there is one, has been marked as consumed. -/
def Acknowledges (ledger : ReportLedger K R) (sequence : Nat) (ledger' : ReportLedger K R) : Prop :=
  ledger' = ledger ∨ ∃ report consumed, ledger.pending.lookup sequence = some report ∧
    ledger.consume report.stream sequence report.token = some consumed ∧ Settles consumed ledger'

end ReportLedger

/-- A subscription that ends keeps everything but its status and its result. -/
def Closes {P : Type} (subscription closed : Subscription P) : Prop :=
  closed = { subscription with
    status := .closing
    closeResult := closed.closeResult
    nativeTerminalReceived := closed.nativeTerminalReceived }

/-- The sequences that wait in the buffer. -/
def sequences {P : Type} (buffered : List (P × Nat × Nat)) : List Nat :=
  buffered.map fun entry => entry.2.1

namespace Book

variable {P : Type}

/-- The envelopes that were sent. -/
def envelopes (b : Book P) : List (Nat × Nat × Nat) := b.sent.filterMap Message.envelope?

def tell (b : Book P) (message : Message P) : Book P := { b with sent := b.sent ++ [message] }

def write (b : Book P) (reference : Nat) (subscription : Subscription P) : Book P :=
  { b with subscriptions := b.subscriptions.insert reference subscription }

/-- The books after a report was registered under `subscription`. -/
def registered (b : Book P) (reference : Nat) (subscription : Subscription P)
    (ledger : ReportLedger (Nat × Nat) Nat) : Book P :=
  { b.write reference subscription with ledger, references := b.references + 1 }

/-- The books after a subscription was dropped. -/
def dropped (b : Book P) (reference : Nat) (subscription : Subscription P) : Book P :=
  { b with
    ledger := Connection.retireStreams b.ledger reference
    subscriptions := b.subscriptions.erase reference
    ids := Table.filterMap (fun _ owner => if owner = reference then none else some owner) b.ids
    monitors := Connection.dropStreamMonitor (b.monitors.erase subscription.monitor)
      subscription.streamMonitor }

/-- Whose report it is decides whether it may be marked as consumed. -/
def Permitted (rules : Rules) (b : Book P) (sequence : Nat) (report : Report (Nat × Nat) Nat) :
    Prop :=
  (∃ subscription, b.subscriptions.lookup report.stream.1 = some subscription ∧
    subscription.status = .closing) ∨
  (rules.genuine → (report.stream.1, sequence, report.token) ∈ b.envelopes)

inductive Step (rules : Rules) : Book P → Book P → Prop where
  | tell (b : Book P) (message : Message P) (plain : message.envelope? = none) :
      Step rules b (b.tell message)
  | close (b : Book P) {reference : Nat} {subscription closed : Subscription P}
      (found : b.subscriptions.lookup reference = some subscription)
      (closes : Closes subscription closed) :
      Step rules b (b.write reference closed)
  | closeAll (b : Book P) (code : String) :
      Step rules b { b with
        subscriptions := Table.filterMap
          (fun _ subscription => some (Connection.notifyOne code subscription)) b.subscriptions }
  | attempt (b : Book P) {reference : Nat} {subscription : Subscription P}
      (found : b.subscriptions.lookup reference = some subscription) (attempt : Nat) :
      Step rules b (b.write reference { subscription with recoveryAttempt := attempt })
  | establish (b : Book P) {reference : Nat} {subscription : Subscription P}
      (found : b.subscriptions.lookup reference = some subscription)
      (establishing : subscription.status = .establishing) :
      Step rules b (b.write reference { subscription with status := .active })
  | resume (b : Book P) {reference : Nat} {subscription : Subscription P}
      (found : b.subscriptions.lookup reference = some subscription)
      (recovering : subscription.status = .recovering)
      (moved : subscription.retiringGeneration = none)
      (settled : rules.settled → subscription.buffered = []) :
      Step rules b (b.write reference { subscription with status := .active })
  | acknowledge (b : Book P) {sequence : Nat} {ledger : ReportLedger (Nat × Nat) Nat}
      (permitted : ∀ report, b.ledger.pending.lookup sequence = some report →
        Permitted rules b sequence report)
      (acknowledges : b.ledger.Acknowledges sequence ledger) :
      Step rules b { b with ledger }
  | overflow (b : Book P) {reference sequence : Nat} {subscription closed : Subscription P}
      {ledger : ReportLedger (Nat × Nat) Nat}
      (found : b.subscriptions.lookup reference = some subscription)
      (closes : Closes subscription closed)
      (owned : (∀ report, b.ledger.pending.lookup sequence = some report →
        report.stream.1 = reference) ∨ sequence ∈ sequences subscription.buffered)
      (acknowledges : b.ledger.Acknowledges sequence ledger) :
      Step rules b { b.write reference closed with ledger }
  | register (b : Book P) {reference sequence bytes : Nat} {subscription : Subscription P}
      {ledger : ReportLedger (Nat × Nat) Nat}
      (found : b.subscriptions.lookup reference = some subscription)
      (registers : b.ledger.register (reference, subscription.generation) sequence bytes
        b.references = some ledger) :
      Step rules b (b.registered reference { subscription with lastReportSequence := sequence }
        ledger)
  | buffer (b : Book P) {reference sequence bytes : Nat} {subscription : Subscription P}
      {ledger : ReportLedger (Nat × Nat) Nat} (delivery : P)
      (found : b.subscriptions.lookup reference = some subscription)
      (establishing : subscription.status = .establishing)
      (registers : b.ledger.register (reference, subscription.generation) sequence bytes
        b.references = some ledger) :
      Step rules b (b.registered reference { subscription with
        lastReportSequence := sequence
        buffered := subscription.buffered ++ [(delivery, sequence, bytes)] } ledger)
  | deliver (b : Book P) {reference sequence bytes : Nat} {subscription : Subscription P}
      {ledger : ReportLedger (Nat × Nat) Nat} (delivery : P)
      (found : b.subscriptions.lookup reference = some subscription)
      (active : subscription.status = .active)
      (flushed : rules.flushed → subscription.buffered = [])
      (registers : b.ledger.register (reference, subscription.generation) sequence bytes
        b.references = some ledger) :
      Step rules b ((b.registered reference { subscription with lastReportSequence := sequence }
        ledger).tell (Connection.envelope subscription reference sequence b.references delivery))
  | flush (b : Book P) {reference sequence bytes : Nat} {subscription : Subscription P}
      {delivery : P} {rest : List (P × Nat × Nat)} {report : Report (Nat × Nat) Nat}
      (found : b.subscriptions.lookup reference = some subscription)
      (first : subscription.buffered = (delivery, sequence, bytes) :: rest)
      (pending : b.ledger.pending.lookup sequence = some report) :
      Step rules b ((b.write reference { subscription with buffered := rest }).tell
        (Connection.envelope subscription reference sequence report.token delivery))
  | skip (b : Book P) {reference : Nat} {subscription : Subscription P}
      {entry : P × Nat × Nat} {rest : List (P × Nat × Nat)}
      (found : b.subscriptions.lookup reference = some subscription)
      (first : subscription.buffered = entry :: rest) :
      Step rules b (b.write reference { subscription with buffered := rest })
  | recover (b : Book P) {reference : Nat} {subscription : Subscription P}
      {ledger : ReportLedger (Nat × Nat) Nat}
      (found : b.subscriptions.lookup reference = some subscription)
      (active : subscription.status = .active)
      (settled : subscription.retiringGeneration = none)
      (opens : b.ledger.openStream (reference, subscription.generation + 1) = some ledger) :
      Step rules b { b.write reference { subscription with
          status := .recovering
          retiringGeneration := some subscription.generation
          retiringLastReportSequence := some subscription.lastReportSequence
          generation := subscription.generation + 1
          recoveryAttempt := 1
          lastReportSequence := 0 } with
        ids := b.ids.insert (subscription.nativeId, subscription.generation + 1) reference
        ledger }
  | retireGeneration (b : Book P) {reference generation last : Nat}
      {subscription : Subscription P} {retired ledger : ReportLedger (Nat × Nat) Nat}
      (found : b.subscriptions.lookup reference = some subscription)
      (retiring : subscription.retiringGeneration = some generation)
      (paused : subscription.status = .recovering ∨ subscription.status = .closing)
      (retires : b.ledger.retire (reference, generation) last = some retired)
      (settles : retired.Settles ledger) :
      Step rules b { b.write reference { subscription with
          retiringGeneration := none
          retiringLastReportSequence := none } with
        ids := b.ids.erase (subscription.nativeId, generation)
        ledger }
  | retireLast (b : Book P) {reference last : Nat} {subscription : Subscription P}
      {retired ledger : ReportLedger (Nat × Nat) Nat}
      (found : b.subscriptions.lookup reference = some subscription)
      (closing : subscription.status = .closing)
      (retires : b.ledger.retire (reference, subscription.generation) last = some retired)
      (settles : retired.Settles ledger) :
      Step rules b (dropped { b with ledger } reference subscription)
  | drop (b : Book P) {reference : Nat} {subscription : Subscription P}
      (found : b.subscriptions.lookup reference = some subscription) :
      Step rules b (b.dropped reference subscription)
  | put (b : Book P) {subscription : Subscription P} {ledger : ReportLedger (Nat × Nat) Nat}
      {monitors : Table Nat Nat} {references : Nat}
      (few : Table.size b.subscriptions < 64)
      (opens : b.ledger.openStream (b.references, 1) = some ledger)
      (first : subscription.generation = 1) (unread : subscription.lastReportSequence = 0)
      (settled : subscription.retiringGeneration = none ∧
        subscription.retiringLastReportSequence = none)
      (empty : subscription.buffered = [])
      (distinct : rules.distinct → ∀ reference other,
        b.subscriptions.lookup reference = some other → other.nativeId ≠ subscription.nativeId)
      (watched : ∀ monitor owner, monitors.lookup monitor = some owner →
        (owner = b.references ∧ (monitor = subscription.monitor ∨
          subscription.streamMonitor = some monitor)) ∨ b.monitors.lookup monitor = some owner)
      (later : b.references < references) :
      Step rules b { b.write b.references subscription with
        references, ledger, monitors
        ids := b.ids.insert (subscription.nativeId, 1) b.references }

variable {rules : Rules}

/-- The books of the second state come from those of the first. -/
def Moves (rules : Rules) (b b' : Book P) : Prop := Relation.ReflTransGen (Book.Step rules) b b'

/-- What leaves the books alone is a run of no steps. -/
theorem Moves.of_eq {b b' : Book P} (same : b' = b) : Moves rules b b' := by
  rw [same]
  exact Relation.ReflTransGen.refl

theorem Moves.trans {a b c : Book P} (first : Moves rules a b) (second : Moves rules b c) :
    Moves rules a c :=
  Relation.ReflTransGen.trans first second

theorem Moves.single {b b' : Book P} (step : Book.Step rules b b') : Moves rules b b' :=
  Relation.ReflTransGen.single step

theorem Moves.step {a b c : Book P} (first : Book.Step rules a b) (second : Moves rules b c) :
    Moves rules a c :=
  Relation.ReflTransGen.head first second

/-! ## Messages that are no envelopes -/

/-- Nothing but plain messages is added. -/
def Tells (b b' : Book P) : Prop :=
  ∃ messages : List (Message P), (∀ message ∈ messages, message.envelope? = none) ∧
    b' = { b with sent := b.sent ++ messages }

theorem Tells.refl (b : Book P) : Tells b b := ⟨[], by simp, by simp⟩

theorem Tells.of_eq {b b' : Book P} (same : b' = b) : Tells b b' := by
  rw [same]
  exact Tells.refl b

theorem Tells.trans {a b c : Book P} (first : Tells a b) (second : Tells b c) : Tells a c := by
  obtain ⟨front, plainFront, rfl⟩ := first
  obtain ⟨back, plainBack, rfl⟩ := second
  refine ⟨front ++ back, ?_, by simp⟩
  intro message member
  rcases List.mem_append.1 member with inFront | inBack
  · exact plainFront message inFront
  · exact plainBack message inBack

/-- Each plain message is a step of its own. -/
theorem Tells.moves {b b' : Book P} (tells : Tells b b') : Moves rules b b' := by
  obtain ⟨messages, plain, rfl⟩ := tells
  induction messages generalizing b with
  | nil => exact Moves.of_eq (by simp)
  | cons message rest ih =>
      refine Moves.step (.tell b message (plain message (by simp))) ?_
      have further := @ih (b.tell message) fun other member =>
        plain other (List.mem_cons_of_mem _ member)
      simpa [Book.tell] using further

/-- The last write of a subscription stands. -/
theorem write_write (b : Book P) (reference : Nat) (first second : Subscription P) :
    (b.write reference first).write reference second = b.write reference second := by
  unfold Book.write
  dsimp only
  rw [Table.insert_insert_self]

/-- A subscription written as it is changes nothing. -/
theorem write_of_lookup {b : Book P} {reference : Nat} {subscription : Subscription P}
    (found : b.subscriptions.lookup reference = some subscription) :
    b.write reference subscription = b := by
  unfold Book.write
  rw [Table.insert_of_lookup found]

end Book

namespace Connection

variable {P E : Type} {rules : Rules}

def book (c : Connection P) : Book P :=
  ⟨c.subscriptions, c.subscriptionIds, c.subscriptionMonitors, c.reportLedger, c.references,
    c.effects.sent⟩

@[simp] theorem book_tick (c : Connection P) : c.tick.book = c.book := rfl

theorem book_post (c : Connection P) (message : Message P) :
    (c.post message).book = c.book.tell message := rfl

/-- A message is plain unless it carries an envelope. -/
theorem tells_post (c : Connection P) {message : Message P} (plain : message.envelope? = none) :
    Book.Tells c.book (c.post message).book :=
  ⟨[message], by simpa using plain, rfl⟩

/-- Lines to the host are not in the books. -/
@[simp] theorem book_sendFrame (world : World) (c : Connection P) (line : HostLine) :
    (c.sendFrame world line).2.book = c.book := by
  unfold sendFrame
  split <;> rfl

/-- A failed channel is a message of the process to itself. -/
theorem failNativeInput_tells (c : Connection P) : Book.Tells c.book c.failNativeInput.book := by
  unfold failNativeInput
  split
  · exact Book.Tells.refl c.book
  · exact tells_post c rfl

@[simp] theorem book_watchCancellation (world : World) (c : Connection P) (reference : Nat) :
    (c.watchCancellation world reference).book = c.book := by
  unfold watchCancellation
  dsimp only
  split <;> rfl

/-- A cancellation that ends too late fails the channel. -/
theorem completeCancellation_tells (world : World) (c : Connection P) (reference : Nat) :
    Book.Tells c.book (c.completeCancellation world reference).book := by
  unfold completeCancellation
  split
  · exact Book.Tells.refl c.book
  · dsimp only
    split
    · exact failNativeInput_tells c.tick
    · split <;> exact Book.Tells.refl c.book

/-- The last identifier comes with the message that there are no more. -/
theorem takeRequestId_tells {c next : Connection P} {id : String}
    (taken : c.takeRequestId = some (id, next)) : Book.Tells c.book next.book := by
  unfold takeRequestId at taken
  split at taken
  · cases taken
  · split at taken
    · obtain ⟨-, rfl⟩ := Prod.mk.inj (Option.some.inj taken)
      exact tells_post c rfl
    · obtain ⟨-, rfl⟩ := Prod.mk.inj (Option.some.inj taken)
      exact Book.Tells.refl c.book

/-- A change to a subscription that is there is one write. -/
theorem book_update {c : Connection P} {reference : Nat} {subscription : Subscription P}
    (found : c.subscriptions.lookup reference = some subscription)
    (change : Subscription P → Subscription P) :
    (c.update reference change).book = c.book.write reference (change subscription) := by
  unfold update
  rw [found]
  rfl

/-! ## Credit and cancellation -/

/-- The ledger advances if the line was taken. -/
theorem advanceAcknowledgement_book (world : World) (c : Connection P) :
    ∃ ledger, c.reportLedger.Settles ledger ∧
      Book.Tells { c.book with ledger } (c.advanceAcknowledgement world).book := by
  unfold advanceAcknowledgement
  split
  · exact ⟨c.reportLedger, Or.inl rfl, Book.Tells.refl c.book⟩
  · rename_i ack ledger proposed
    dsimp only
    split
    · refine ⟨ledger, Or.inr (by rw [proposed]), Book.Tells.of_eq ?_⟩
      have same := book_sendFrame world c
        (.reportAck c.generation ack.reportSequence ack.acknowledgedBytes)
      change { (c.sendFrame world _).2.book with ledger := ledger } = _
      rw [same]
    · refine ⟨c.reportLedger, Or.inl rfl, ?_⟩
      have told := failNativeInput_tells (c.sendFrame world
        (.reportAck c.generation ack.reportSequence ack.acknowledgedBytes)).2
      rw [book_sendFrame] at told
      exact told

/-- The report is marked first, then the acknowledgement is attempted. -/
theorem acknowledgeReport_book (world : World) (c : Connection P) (sequence bytes : Nat) :
    ∃ ledger, c.reportLedger.Acknowledges sequence ledger ∧
      Book.Tells { c.book with ledger } (c.acknowledgeReport world sequence bytes).book := by
  unfold acknowledgeReport
  split
  · rename_i report found
    split
    · split
      · rename_i consumed consumes
        obtain ⟨ledger, settles, tells⟩ := advanceAcknowledgement_book world
          { c with reportLedger := consumed }
        exact ⟨ledger, Or.inr ⟨report, consumed, found, consumes, settles⟩, tells⟩
      · exact ⟨c.reportLedger, Or.inl rfl, Book.Tells.refl c.book⟩
    · exact ⟨c.reportLedger, Or.inl rfl, Book.Tells.refl c.book⟩
  · exact ⟨c.reportLedger, Or.inl rfl, Book.Tells.refl c.book⟩

/-- **One step for an acknowledgement**, if the report may be marked at all. -/
theorem acknowledgeReport_moves (world : World) (c : Connection P) (sequence bytes : Nat)
    (permitted : ∀ report, c.reportLedger.pending.lookup sequence = some report →
      Book.Permitted rules c.book sequence report) :
    Book.Moves rules c.book (c.acknowledgeReport world sequence bytes).book := by
  obtain ⟨ledger, acknowledges, tells⟩ := acknowledgeReport_book world c sequence bytes
  exact Book.Moves.step (.acknowledge c.book permitted acknowledges) tells.moves

/-- A retirement is the ledger's, followed by one attempt. -/
theorem consumeRetiredReports_book {world : World} {c consumed : Connection P}
    {reference generation last : Nat}
    (result : c.consumeRetiredReports world reference generation last = some consumed) :
    ∃ retired ledger, c.reportLedger.retire (reference, generation) last = some retired ∧
      retired.Settles ledger ∧ Book.Tells { c.book with ledger } consumed.book := by
  unfold consumeRetiredReports at result
  split at result
  · rename_i retired retires
    obtain rfl := Option.some.inj result
    obtain ⟨ledger, settles, tells⟩ := advanceAcknowledgement_book world
      { c with reportLedger := retired }
    exact ⟨retired, ledger, retires, settles, tells⟩
  · cases result

/-- Written or not, the subscription is closing. -/
theorem submitCancellation_book (world : World) {c : Connection P} {b : Book P}
    {reference : Nat} {closed : Subscription P} (subscription : Subscription P) (result id : String)
    (tells : Book.Tells (b.write reference closed) c.book)
    (marked : { closed with status := .closing, closeResult := result } = closed) :
    Book.Tells (b.write reference closed)
      (c.submitCancellation world subscription reference result id).book := by
  unfold submitCancellation
  dsimp only
  split
  · obtain ⟨messages, plain, same⟩ := tells
    refine ⟨messages, plain, ?_⟩
    have sent := book_sendFrame world c
      (.unsubscribe id subscription.nativeId subscription.generation)
    rw [same] at sent
    have found : (c.sendFrame world
        (.unsubscribe id subscription.nativeId subscription.generation)).2.subscriptions.lookup
          reference = some closed := by
      have table := congrArg Book.subscriptions sent
      change (c.sendFrame world _).2.subscriptions = _ at table
      rw [table]
      exact Table.lookup_insert_self _ _ _
    have written := book_update found fun subscription =>
      { subscription with status := .closing, closeResult := result }
    rw [sent, marked] at written
    refine Eq.trans ?_ (written.trans ?_)
    · rfl
    · unfold Book.write
      dsimp only
      rw [Table.insert_insert_self]
  · have told := failNativeInput_tells (c.sendFrame world
      (.unsubscribe id subscription.nativeId subscription.generation)).2
    rw [book_sendFrame] at told
    exact tells.trans told

/-- A cancelled subscription is closing, and plain messages may have been sent. -/
theorem cancelSubscription_book (world : World) {c : Connection P} {reference : Nat}
    {subscription : Subscription P}
    (found : c.subscriptions.lookup reference = some subscription) (result : String) :
    ∃ closed, Closes subscription closed ∧
      closed.nativeTerminalReceived = subscription.nativeTerminalReceived ∧
      Book.Tells (c.book.write reference closed) (c.cancelSubscription world reference result).book := by
  unfold cancelSubscription
  rw [found]
  dsimp only
  split
  · rename_i closing
    refine ⟨subscription, ?_, rfl, Book.Tells.of_eq ?_⟩
    · unfold Closes
      rw [← closing]
    · exact (Book.write_of_lookup found).symm
  · refine ⟨{ subscription with status := .closing, closeResult := result }, rfl, rfl, ?_⟩
    have marked : ((c.markClosing reference result).watchCancellation world reference).book =
        c.book.write reference { subscription with status := .closing, closeResult := result } := by
      rw [book_watchCancellation]
      exact book_update found _
    split
    · have told := failNativeInput_tells ((c.markClosing reference result).watchCancellation world
        reference)
      rw [marked] at told
      exact told
    · split
      · rename_i id next taken
        refine submitCancellation_book world subscription result id ?_ rfl
        have told := takeRequestId_tells taken
        rw [marked] at told
        exact told
      · have told := failNativeInput_tells ((c.markClosing reference result).watchCancellation world
          reference)
        rw [marked] at told
        exact told

/-! ## Reports -/

/-- The report that did not fit is marked as consumed, and its subscription closes. -/
theorem overflowSubscription_book (world : World) {c : Connection P}
    {reference : Nat} {subscription : Subscription P}
    (found : c.subscriptions.lookup reference = some subscription) (sequence bytes : Nat) :
    ∃ closed ledger, Closes subscription closed ∧
      closed.nativeTerminalReceived = subscription.nativeTerminalReceived ∧
      c.reportLedger.Acknowledges sequence ledger ∧
      Book.Tells { c.book.write reference closed with ledger }
        (c.overflowSubscription world reference sequence bytes).book := by
  unfold overflowSubscription
  obtain ⟨ledger, acknowledges, told⟩ := acknowledgeReport_book world
    (c.post (.receiver reference (.error "receiver_overflow"))) sequence bytes
  have still : ((c.post (.receiver reference (.error "receiver_overflow"))).acknowledgeReport world
      sequence bytes).subscriptions.lookup reference = some subscription := by
    obtain ⟨messages, -, same⟩ := told
    have table := congrArg Book.subscriptions same
    change ((c.post _).acknowledgeReport world sequence bytes).subscriptions = c.subscriptions
      at table
    rw [table]
    exact found
  obtain ⟨closed, closes, terminal, cancelled⟩ :=
    cancelSubscription_book world still "receiver_overflow"
  refine ⟨closed, ledger, closes, terminal, acknowledges, Book.Tells.trans ?_ cancelled⟩
  obtain ⟨messages, plain, same⟩ := told
  refine ⟨.receiver reference (.error "receiver_overflow") :: messages, ?_, ?_⟩
  · intro message member
    rcases List.mem_cons.1 member with rfl | later
    · rfl
    · exact plain message later
  · rw [same]
    simp [Book.write, book, post]

/-- What `deliver_report` can do: hand the report out, overflow, or die. -/
theorem deliverReport_cases (world : World) {c : Connection P} {reference : Nat}
    {subscription : Subscription P}
    (found : c.subscriptions.lookup reference = some subscription) (delivery : P)
    (sequence bytes : Nat) :
    (∃ report, c.reportLedger.pending.lookup sequence = some report ∧
      c.deliverReport world reference delivery sequence bytes =
        c.tick.post (envelope subscription reference sequence report.token delivery)) ∨
    (c.reportLedger.pending.lookup sequence = none ∧
      c.deliverReport world reference delivery sequence bytes = { c.tick with stopped := true }) ∨
    c.deliverReport world reference delivery sequence bytes =
      c.tick.overflowSubscription world reference sequence bytes := by
  unfold deliverReport
  rw [found]
  dsimp only
  split
  · cases pending : c.reportLedger.pending.lookup sequence with
    | some report => exact Or.inl ⟨report, rfl, rfl⟩
    | none => exact Or.inr (Or.inl ⟨rfl, rfl⟩)
  · exact Or.inr (Or.inr rfl)

/-- `register_report` makes a pending report of the subscription's current generation. -/
theorem registerReport_book {c registered : Connection P} {reference sequence bytes : Nat}
    (result : c.registerReport reference sequence bytes = some registered) :
    ∃ subscription ledger, c.subscriptions.lookup reference = some subscription ∧
      c.reportLedger.register (reference, subscription.generation) sequence bytes c.references =
        some ledger ∧
      registered.subscriptions.lookup reference =
        some { subscription with lastReportSequence := sequence } ∧
      registered.reportLedger = ledger ∧
      registered.book = c.book.registered reference
        { subscription with lastReportSequence := sequence } ledger := by
  unfold registerReport at result
  split at result
  · cases result
  · rename_i subscription found
    split at result
    · cases result
    · rename_i ledger registers
      obtain rfl := Option.some.inj result
      have present : ({ c with reportLedger := ledger, references := c.references + 1 } :
          Connection P).subscriptions.lookup reference = some subscription := found
      have written := book_update present fun subscription =>
        { subscription with lastReportSequence := sequence }
      refine ⟨subscription, ledger, found, registers, ?_, congrArg Book.ledger written, written⟩
      rw [show (update _ reference _).subscriptions = _ from congrArg Book.subscriptions written]
      exact Table.lookup_insert_self _ _ _

/-- Registering adds the one report under the next sequence. -/
theorem register_pending {ledger registered : ReportLedger (Nat × Nat) Nat} {stream : Nat × Nat}
    {sequence bytes token : Nat}
    (result : ledger.register stream sequence bytes token = some registered) :
    registered = { ledger with
      nextSequence := sequence + 1
      pending := ledger.pending.insert sequence { stream, bytes, token }
      streams := ledger.streams.insert stream sequence } ∧
    sequence = ledger.nextSequence ∧ (ledger.streams.lookup stream).isSome := by
  unfold ReportLedger.register at result
  split at result
  · split at result
    · rename_i admitted
      exact ⟨(Option.some.inj result).symm, admitted.1, admitted.2.1⟩
    · cases result
  · cases result

/-- A report that is registered and then admitted. -/
theorem admitReport_moves {world : World} {c registered next : Connection P} {reference : Nat}
    {delivery : P} {sequence bytes : Nat}
    (result : c.registerReport reference sequence bytes = some registered)
    (flushed : rules.flushed → ∀ subscription, c.subscriptions.lookup reference =
      some subscription → subscription.status = .active → subscription.buffered = [])
    (admitted : registered.admitReport world reference delivery sequence bytes = some next) :
    Book.Moves rules c.book next.book := by
  obtain ⟨subscription, ledger, found, registers, present, sameLedger, same⟩ :=
    registerReport_book result
  have pending : registered.reportLedger.pending.lookup sequence = some
      { stream := (reference, subscription.generation), bytes := bytes, token := c.references } := by
    rw [sameLedger, (register_pending registers).1]
    exact Table.lookup_insert_self _ _ _
  have register : Book.Step rules c.book registered.book := by
    rw [same]
    exact .register c.book found registers
  have owned : ∀ report, registered.reportLedger.pending.lookup sequence = some report →
      report.stream.1 = reference := by
    intro report here
    rw [pending] at here
    obtain rfl := Option.some.inj here
    rfl
  have overflows : Book.Moves rules c.book
      (registered.overflowSubscription world reference sequence bytes).book := by
    obtain ⟨closed, after, closes, -, acknowledges, tells⟩ :=
      overflowSubscription_book world present sequence bytes
    exact Book.Moves.step register (Book.Moves.step
      (.overflow registered.book present closes (Or.inl owned) acknowledges) tells.moves)
  unfold admitReport at admitted
  rw [present] at admitted
  dsimp only at admitted
  cases status : subscription.status with
  | establishing =>
      rw [status] at admitted
      dsimp only at admitted
      split at admitted
      · obtain rfl := Option.some.inj admitted
        rw [book_update present, same]
        unfold Book.registered
        have step : Book.Step rules c.book _ := .buffer c.book delivery found status registers
        have rewritten : ∀ subscription' : Subscription P,
            ({ c.book.write reference { subscription with lastReportSequence := sequence } with
              ledger := ledger, references := c.book.references + 1 } : Book P).write reference
                subscription' = c.book.registered reference subscription' ledger := by
          intro subscription'
          unfold Book.registered Book.write
          dsimp only
          rw [Table.insert_insert_self]
        rw [rewritten]
        exact Book.Moves.single step
      · obtain rfl := Option.some.inj admitted
        exact overflows
  | active =>
      rw [status] at admitted
      obtain rfl := Option.some.inj admitted
      rcases deliverReport_cases world present delivery sequence bytes with
        ⟨report, here, delivered⟩ | ⟨gone, -⟩ | overflowed
      · rw [pending] at here
        obtain rfl := Option.some.inj here
        rw [delivered, book_post, book_tick, same]
        exact Book.Moves.single (.deliver c.book delivery found status
          (fun asked => flushed asked subscription found status) registers)
      · rw [pending] at gone
        cases gone
      · rw [overflowed]
        have ticked : registered.tick.subscriptions.lookup reference =
            some { subscription with lastReportSequence := sequence } := present
        obtain ⟨closed, after, closes, -, acknowledges, tells⟩ :=
          overflowSubscription_book world ticked sequence bytes
        exact Book.Moves.step register (Book.Moves.step
          (.overflow registered.book present closes (Or.inl owned) acknowledges) tells.moves)
  | closing =>
      rw [status] at admitted
      obtain rfl := Option.some.inj admitted
      refine Book.Moves.step register (acknowledgeReport_moves world registered sequence bytes ?_)
      intro report here
      refine Or.inl ⟨{ subscription with lastReportSequence := sequence }, ?_, status⟩
      rw [owned report here]
      exact present
  | recovering =>
      rw [status] at admitted
      cases admitted

/-! ## The buffer -/

/-- One entry leaves the buffer: `buffered` is what the books still show of it, while the
state of the process has none of it left. -/
theorem flushReport_moves (world : World) {c : Connection P} (running : c.stopped = false)
    {reference : Nat} {subscription : Subscription P}
    (found : c.subscriptions.lookup reference = some subscription)
    (entry : P × Nat × Nat) (rest : List (P × Nat × Nat)) :
    ∃ subscription', (flushReport world reference c entry).subscriptions.lookup reference =
        some subscription' ∧ subscription'.buffered = subscription.buffered ∧
      Book.Moves rules (c.book.write reference { subscription with buffered := entry :: rest })
        ((flushReport world reference c entry).book.write reference
          { subscription' with buffered := rest }) := by
  obtain ⟨delivery, sequence, bytes⟩ := entry
  have here : (c.book.write reference { subscription with
      buffered := (delivery, sequence, bytes) :: rest }).subscriptions.lookup reference =
        some { subscription with buffered := (delivery, sequence, bytes) :: rest } :=
    Table.lookup_insert_self _ _ _
  have skipped : Book.Moves rules
      (c.book.write reference { subscription with buffered := (delivery, sequence, bytes) :: rest })
      (c.book.write reference { subscription with buffered := rest }) := by
    have step : Book.Step rules _ _ := .skip _ here rfl
    rw [Book.write_write] at step
    exact Book.Moves.single step
  have isSome : (c.subscriptions.lookup reference).isSome = true := by
    rw [found]
    rfl
  have unfolded : flushReport world reference c (delivery, sequence, bytes) =
      c.deliverReport world reference delivery sequence bytes := by
    simp [flushReport, running, isSome]
  rw [unfolded]
  rcases deliverReport_cases world found delivery sequence bytes with
    ⟨report, pending, delivered⟩ | ⟨-, died⟩ | overflowed
  · rw [delivered]
    refine ⟨subscription, found, rfl, ?_⟩
    have step : Book.Step rules _ _ := .flush _ here rfl pending
    rw [Book.write_write] at step
    exact Book.Moves.single step
  · rw [died]
    exact ⟨subscription, found, rfl, skipped⟩
  · rw [overflowed]
    have ticked : c.tick.subscriptions.lookup reference = some subscription := found
    obtain ⟨closed, ledger, closes, -, acknowledges, messages, plain, same⟩ :=
      overflowSubscription_book world ticked sequence bytes
    have table := congrArg Book.subscriptions same
    refine ⟨closed, ?_, ?_, ?_⟩
    · change (c.tick.overflowSubscription world reference sequence bytes).subscriptions = _ at table
      rw [table]
      exact Table.lookup_insert_self _ _ _
    · rw [closes]
    · have closesHere : Closes { subscription with buffered := (delivery, sequence, bytes) :: rest }
          { closed with buffered := (delivery, sequence, bytes) :: rest } := by
        unfold Closes at closes ⊢
        rw [closes]
      have overflow : Book.Step rules _ _ :=
        .overflow _ here closesHere (Or.inr (by simp [sequences])) acknowledges
      refine Book.Moves.step overflow (Book.Moves.step
        (.skip _ (Table.lookup_insert_self _ _ _) rfl) ?_)
      refine Book.Tells.moves ⟨messages, plain, ?_⟩
      rw [same]
      simp [Book.write]

/-- A process that has died flushes nothing more. -/
theorem flushReport_of_stopped (world : World) {c : Connection P} (stopped : c.stopped = true)
    (reference : Nat) (entry : P × Nat × Nat) : flushReport world reference c entry = c := by
  obtain ⟨delivery, sequence, bytes⟩ := entry
  simp [flushReport, stopped]

/-- **The flush**, by induction on what is left in the buffer. -/
theorem foldl_flushReport_moves (world : World) (reference : Nat) (entries : List (P × Nat × Nat)) :
    ∀ {c : Connection P} {subscription : Subscription P},
      c.subscriptions.lookup reference = some subscription → subscription.buffered = [] →
      Book.Moves rules (c.book.write reference { subscription with buffered := entries })
        (entries.foldl (flushReport world reference) c).book := by
  induction entries with
  | nil =>
      intro c subscription found empty
      refine Book.Moves.of_eq ?_
      have same : { subscription with buffered := [] } = subscription := by rw [← empty]
      rw [same, Book.write_of_lookup found]
      rfl
  | cons entry rest ih =>
      intro c subscription found empty
      rw [List.foldl_cons]
      cases stopped : c.stopped with
      | true =>
          rw [flushReport_of_stopped world stopped]
          refine Book.Moves.step (.skip _ (Table.lookup_insert_self _ _ _) rfl) ?_
          rw [Book.write_write]
          exact @ih c subscription found empty
      | false =>
          obtain ⟨subscription', found', same, moves⟩ :=
            flushReport_moves world stopped found entry rest
          exact moves.trans (ih found' (same.trans empty))

theorem flushSubscription_moves (world : World) (c : Connection P) (reference : Nat) :
    Book.Moves rules c.book (c.flushSubscription world reference).book := by
  unfold flushSubscription
  split
  · exact Book.Moves.of_eq rfl
  · rename_i subscription found
    split
    · have updated := book_update found fun subscription => { subscription with buffered := [] }
      have present : (c.update reference fun subscription =>
          { subscription with buffered := [] }).subscriptions.lookup reference =
            some { subscription with buffered := [] } := by
        rw [show (update _ reference _).subscriptions = _ from congrArg Book.subscriptions updated]
        exact Table.lookup_insert_self _ _ _
      have moves : Book.Moves rules _ _ :=
        foldl_flushReport_moves world reference subscription.buffered present rfl
      rw [updated, Book.write_write] at moves
      exact Book.Moves.trans (Book.Moves.of_eq (Book.write_of_lookup found)) moves
    · exact Book.Moves.of_eq rfl

/-! ## Recovery -/

/-- A status is delivered, or its subscription is cancelled for want of room. -/
theorem deliverSubscriptionStatus_cases (world : World) {c : Connection P} {reference : Nat}
    {subscription : Subscription P}
    (found : c.subscriptions.lookup reference = some subscription)
    (status : SubscriptionStatusKind) (generation attempt : Nat) :
    ((c.deliverSubscriptionStatus world reference status generation attempt).1 = true ∧
      (c.deliverSubscriptionStatus world reference status generation attempt).2 =
        c.tick.post (.receiver reference (.status status generation attempt))) ∨
    ((c.deliverSubscriptionStatus world reference status generation attempt).1 = false ∧
      ∃ closed, Closes subscription closed ∧ Book.Tells (c.book.write reference closed)
        (c.deliverSubscriptionStatus world reference status generation attempt).2.book) := by
  unfold deliverSubscriptionStatus
  rw [found]
  dsimp only
  split
  · exact Or.inl ⟨rfl, rfl⟩
  · have present : (c.tick.post (.receiver reference (.error
        "receiver_overflow"))).subscriptions.lookup reference = some subscription := found
    obtain ⟨closed, closes, -, tells⟩ := cancelSubscription_book world present "receiver_overflow"
    refine Or.inr ⟨rfl, closed, closes, Book.Tells.trans ?_ tells⟩
    exact ⟨[.receiver reference (.error "receiver_overflow")], by
      intro message member
      rw [List.mem_singleton.1 member]
      rfl, rfl⟩

/-- Telling the receiver, which may close the subscription. -/
theorem deliverSubscriptionStatus_moves (world : World) {c : Connection P} {reference : Nat}
    {subscription : Subscription P}
    (found : c.subscriptions.lookup reference = some subscription)
    (status : SubscriptionStatusKind) (generation attempt : Nat) :
    Book.Moves rules c.book
      (c.deliverSubscriptionStatus world reference status generation attempt).2.book := by
  rcases deliverSubscriptionStatus_cases world found status generation attempt with
    ⟨-, told⟩ | ⟨-, closed, closes, tells⟩
  · rw [told]
    exact (tells_post c.tick rfl).moves
  · exact Book.Moves.step (.close c.book found closes) tells.moves

theorem update_lookup {c : Connection P} {reference : Nat} {subscription : Subscription P}
    (found : c.subscriptions.lookup reference = some subscription)
    (change : Subscription P → Subscription P) :
    (c.update reference change).subscriptions.lookup reference = some (change subscription) := by
  rw [show (c.update reference change).subscriptions = _ from
    congrArg Book.subscriptions (book_update found change)]
  exact Table.lookup_insert_self _ _ _

/-- What `begin_recovery` matches on, as the source writes it. -/
theorem startsRecovery_iff {subscription : Subscription P} {generation attempt : Nat} :
    startsRecovery subscription generation attempt = true ↔
      subscription.resubscribe = true ∧ subscription.status = .active ∧
        generation = subscription.generation + 1 ∧ attempt = 1 ∧
        subscription.retiringGeneration = none := by
  simp [startsRecovery, and_assoc]

theorem endsRecovery_iff {subscription : Subscription P} {generation attempt : Nat} :
    endsRecovery subscription generation attempt = true ↔
      subscription.status = .recovering ∧ generation = subscription.generation ∧
        attempt = subscription.recoveryAttempt ∧ subscription.retiringGeneration = none := by
  simp [endsRecovery, and_assoc]

/-- A transition whose state is given up has only told the receiver something. -/
def Recovery.Moved (rules : Rules) (c : Connection P) : Recovery P → Prop
  | .ok next => Book.Moves rules c.book next.book
  | .overflow closing => Book.Tells c.book { c.book with sent := closing.effects.sent }
  | _ => True

/-- After the transition comes its status, delivered or not. -/
theorem ofStatus_moved {world : World} {c d : Connection P} {reference : Nat}
    {subscription : Subscription P}
    (found : d.subscriptions.lookup reference = some subscription)
    (effects : d.effects = c.effects) (moves : Book.Moves rules c.book d.book)
    (status : SubscriptionStatusKind) (generation attempt : Nat) :
    Recovery.Moved rules c
      (.ofStatus (d.deliverSubscriptionStatus world reference status generation attempt)) := by
  unfold Recovery.ofStatus
  rcases deliverSubscriptionStatus_cases world found status generation attempt with
    ⟨told, -⟩ | ⟨refused, closed, closes, messages, plain, same⟩
  · rw [told]
    exact moves.trans (deliverSubscriptionStatus_moves world found status generation attempt)
  · rw [refused]
    refine ⟨messages, plain, ?_⟩
    have sent : (d.deliverSubscriptionStatus world reference status generation
        attempt).2.effects.sent = d.effects.sent ++ messages := congrArg Book.sent same
    rw [effects] at sent
    rw [sent]
    rfl

/-- The new stream, the old generation set aside, then the status. -/
theorem beginRecovery_moves (world : World) (c : Connection P)
    (reference generation attempt : Nat) :
    (c.beginRecovery world reference generation attempt).Moved rules c := by
  unfold beginRecovery
  split
  · trivial
  · rename_i subscription found
    split
    · rename_i starts
      obtain ⟨-, active, rfl, rfl, settled⟩ := startsRecovery_iff.1 starts
      split
      · trivial
      · rename_i ledger opens
        have present : (c.recovering reference subscription (subscription.generation + 1) 1
          ledger).subscriptions.lookup reference = some _ := Table.lookup_insert_self _ _ _
        exact ofStatus_moved (c := c) present rfl
          (Book.Moves.single (.recover c.book found active settled opens)) _ _ _
    · split
      · have present := update_lookup found fun subscription =>
          { subscription with recoveryAttempt := attempt }
        refine ofStatus_moved present ?_ ?_ _ _ _
        · unfold update
          rw [found]
        · rw [book_update found]
          exact Book.Moves.single (.attempt c.book found attempt)
      · trivial

/-- The subscription is active again behind an empty buffer, where that is asked for. -/
theorem finishRecovery_moves {world : World} {c next : Connection P}
    {reference generation attempt : Nat}
    (settled : rules.settled → ∀ subscription, c.subscriptions.lookup reference =
      some subscription → subscription.status = .recovering → subscription.buffered = [])
    (ok : c.finishRecovery world reference generation attempt = .ok next) :
    Book.Moves rules c.book next.book := by
  unfold finishRecovery at ok
  split at ok
  · cases ok
  · rename_i subscription found
    split at ok
    · rename_i ends
      obtain ⟨recovering, -, -, moved⟩ := endsRecovery_iff.1 ends
      dsimp only at ok
      split at ok
      · rename_i delivered
        obtain rfl := Recovery.ok.inj ok
        rcases deliverSubscriptionStatus_cases world found .resubscribed generation attempt with
          ⟨-, told⟩ | ⟨refused, -⟩
        · rw [told]
          have present : (c.tick.post (.receiver reference (.status .resubscribed generation
              attempt))).subscriptions.lookup reference = some subscription := found
          have tells : Book.Tells c.book (c.tick.post (.receiver reference (.status .resubscribed
            generation attempt))).book := tells_post c.tick rfl
          rw [book_update present]
          refine tells.moves.trans (Book.Moves.single ?_)
          exact .resume _ present recovering moved fun asked =>
            settled asked subscription found recovering
        · rw [refused] at delivered
          cases delivered
      · obtain rfl := Recovery.ok.inj ok
        exact deliverSubscriptionStatus_moves world found _ _ _
    · cases ok

/-! ## Frames of the host -/

theorem book_dropSubscription {c : Connection P} {reference : Nat} {subscription : Subscription P}
    (found : c.subscriptions.lookup reference = some subscription) :
    (c.dropSubscription reference).book = c.book.dropped reference subscription := by
  unfold dropSubscription
  rw [found]
  rfl

theorem dropSubscription_moves (c : Connection P) (reference : Nat) :
    Book.Moves rules c.book (c.dropSubscription reference).book := by
  cases found : c.subscriptions.lookup reference with
  | none =>
      unfold dropSubscription
      rw [found]
      exact Book.Moves.of_eq rfl
  | some subscription =>
      rw [book_dropSubscription found]
      exact Book.Moves.single (.drop c.book found)

theorem retireSubscription_tells (world : World) (c : Connection P) (reference : Nat) :
    Book.Tells (c.dropSubscription reference).book (c.retireSubscription world reference).book :=
  completeCancellation_tells world
    { c.dropSubscription reference with
      closedReferences := insert reference c.closedReferences } reference

def Decoded.Moved (rules : Rules) (c : Connection P) : Decoded P → Prop
  | .ok next => Book.Moves rules c.book next.book
  | .error effects => Book.Tells c.book { c.book with sent := effects.sent }
  | .crash effects => Book.Tells c.book { c.book with sent := effects.sent }

/-- The generation set aside, the last one, or an answer that matches neither. -/
theorem retireStreamGeneration_moves (world : World) (c : Connection P)
    (reference generation last : Nat) :
    (c.retireStreamGeneration world reference generation last).Moved rules c := by
  unfold retireStreamGeneration
  split
  · exact Book.Tells.refl c.book
  · rename_i subscription found
    split
    · rename_i retiring
      split
      · exact Book.Tells.refl c.book
      · rename_i consumed result
        obtain ⟨retired, ledger, retires, settles, messages, plain, same⟩ :=
          consumeRetiredReports_book result
        have table : consumed.subscriptions = c.subscriptions := congrArg Book.subscriptions same
        let erased : Connection P := { consumed with
          subscriptionIds := consumed.subscriptionIds.erase (subscription.nativeId, generation) }
        have present : erased.subscriptions.lookup reference = some subscription := by
          change consumed.subscriptions.lookup reference = _
          rw [table]
          exact found
        refine Book.Moves.step (.retireGeneration c.book found retiring.1 retiring.2.2 retires settles)
          (Book.Tells.moves ⟨messages, plain, ?_⟩)
        have unindexed : erased.book = { consumed.book with
            ids := consumed.book.ids.erase (subscription.nativeId, generation) } := rfl
        change (erased.update reference _).book = _
        rw [book_update present, unindexed, same]
        rfl
    · split
      · rename_i closing
        split
        · exact Book.Tells.refl c.book
        · rename_i consumed result
          obtain ⟨retired, ledger, retires, settles, messages, plain, same⟩ :=
            consumeRetiredReports_book result
          have table : consumed.subscriptions = c.subscriptions := congrArg Book.subscriptions same
          have present : consumed.subscriptions.lookup reference = some subscription := by
            rw [table]
            exact found
          obtain ⟨closed, sameGeneration, -⟩ := closing
          rw [← sameGeneration] at retires
          refine Book.Moves.step (.retireLast c.book found closed retires settles) ?_
          refine Book.Moves.trans (Book.Tells.moves ⟨messages, plain, ?_⟩)
            (retireSubscription_tells world consumed reference).moves
          rw [book_dropSubscription present, same]
          rfl
      · exact Book.Tells.refl c.book

/-- The receiver of a live subscription is told, and the subscription is closing. -/
theorem receiveError_moves (world : World) (c : Connection P) (reference : Nat) (code : String) :
    (c.receiveError world reference code).Moved rules c := by
  unfold receiveError
  split
  · exact Book.Tells.refl c.book
  · rename_i subscription found
    split
    · exact Book.Tells.refl c.book
    · dsimp only
      have told : Book.Tells c.book (if subscription.status = .closing then c
          else c.post (.receiver reference (.error code))).book := by
        split
        · exact Book.Tells.refl c.book
        · exact tells_post c rfl
      have present : (if subscription.status = .closing then c
          else c.post (.receiver reference (.error code))).subscriptions.lookup reference =
            some subscription := by
        split <;> exact found
      change Book.Moves rules c.book (watchCancellation world _ reference).book
      rw [book_watchCancellation, book_update present]
      exact told.moves.trans (Book.Moves.single (.close _ present rfl))

theorem ofRecovery_moved {c : Connection P} {recovery : Recovery P}
    (moved : recovery.Moved rules c) : (Decoded.ofRecovery c recovery).Moved rules c := by
  cases recovery with
  | ok next => exact moved
  | overflow closing => exact moved
  | error => exact Book.Tells.refl c.book
  | crash => exact Book.Tells.refl c.book

/-- The guards of `Rules` at one frame. -/
def Obeys (rules : Rules) (c : Connection P) : HostFrame P E → Prop
  | .report _ nativeId generation _ _ => rules.flushed → ∀ reference subscription,
      c.subscriptionIds.lookup (nativeId, generation) = some reference →
      c.subscriptions.lookup reference = some subscription → subscription.status = .active →
      subscription.buffered = []
  | .resubscribed _ nativeId generation _ _ _ _ => rules.settled → ∀ reference subscription,
      c.subscriptionIds.lookup (nativeId, generation) = some reference →
      c.subscriptions.lookup reference = some subscription → subscription.status = .recovering →
      subscription.buffered = []
  | _ => True

theorem finishRecovery_moved {world : World} {c : Connection P}
    {reference generation attempt : Nat}
    (settled : rules.settled → ∀ subscription, c.subscriptions.lookup reference =
      some subscription → subscription.status = .recovering → subscription.buffered = []) :
    (c.finishRecovery world reference generation attempt).Moved rules c := by
  cases result : c.finishRecovery world reference generation attempt with
  | ok next => exact finishRecovery_moves settled result
  | overflow closing =>
      unfold finishRecovery at result
      split at result
      · cases result
      · split at result
        · dsimp only at result
          split at result <;> cases result
        · cases result
  | error => trivial
  | crash => trivial

theorem decodeAsyncFrame_moves (world : World) (wireError : E → Option String)
    (c : Connection P) (bytes : Nat) (frame : HostFrame P E) (obeys : Obeys rules c frame) :
    (c.decodeAsyncFrame world wireError bytes frame).Moved rules c := by
  cases frame with
  | resubscribing session nativeId generation attempt =>
      simp only [decodeAsyncFrame]
      split
      · split
        · exact Book.Tells.refl c.book
        · exact ofRecovery_moved (beginRecovery_moves world c _ _ _)
      · exact Book.Tells.refl c.book
  | resubscribed session nativeId generation attempt minimum maximum sdkId =>
      simp only [decodeAsyncFrame]
      split
      · split
        · exact Book.Tells.refl c.book
        · rename_i reference known
          exact ofRecovery_moved (finishRecovery_moved fun asked subscription found =>
            obeys asked reference subscription known found)
      · exact Book.Tells.refl c.book
  | report session nativeId generation sequence payload =>
      simp only [decodeAsyncFrame]
      split
      · split
        · exact Book.Tells.refl c.book
        · rename_i reference known
          split
          · exact Book.Tells.refl c.book
          · split
            · split
              · exact Book.Tells.refl c.book
              · rename_i registered result
                cases admitted : registered.admitReport world reference payload sequence bytes with
                | none => exact Book.Tells.refl c.book
                | some next =>
                    exact admitReport_moves result (fun asked subscription found =>
                      obeys asked reference subscription known found) admitted
            · exact Book.Tells.refl c.book
      · exact Book.Tells.refl c.book
  | retired session nativeId generation lastSequence =>
      simp only [decodeAsyncFrame]
      split
      · split
        · exact Book.Tells.refl c.book
        · exact retireStreamGeneration_moves world c _ _ _
      · exact Book.Tells.refl c.book
  | success id =>
      simp only [decodeAsyncFrame]
      split
      · exact Book.Tells.refl c.book
      · rename_i reference _
        exact (completeCancellation_tells world
          { c with internalRequests := c.internalRequests.erase id } reference).moves
  | error session nativeId generation error =>
      simp only [decodeAsyncFrame]
      split
      · split
        · exact receiveError_moves world c _ _
        · exact Book.Tells.refl c.book
      · exact Book.Tells.refl c.book
  | established id nativeId generation minimum maximum sdkId => exact Book.Tells.refl c.book
  | failure id code => exact Book.Tells.refl c.book

/-! ## Ends of the session -/

/-- Every subscription is told once and closed. -/
theorem notifySessionFailure_moves (c : Connection P) (code : String) :
    Book.Moves rules c.book (c.notifySessionFailure code).book := by
  refine Book.Moves.step (.closeAll c.book code) (Book.Tells.moves ⟨_, ?_, rfl⟩)
  intro message member
  obtain ⟨reference, -, rfl⟩ := List.mem_map.1 member
  rfl

theorem dropAwaited_moves (c : Connection P) : Book.Moves rules c.book c.dropAwaited.book := by
  unfold dropAwaited
  split
  · exact dropSubscription_moves c _
  · exact Book.Moves.of_eq rfl

theorem endSession_moves (c : Connection P) (code : String) :
    Book.Moves rules c.book (c.endSession code).book :=
  (dropAwaited_moves c).trans (notifySessionFailure_moves c.dropAwaited code)

/-- **A frame of the host moves the books**, also where the process dies of it. -/
theorem receiveAsync_moves (world : World) (wireError : E → Option String) (c : Connection P)
    (bytes : Nat) (frame : HostFrame P E) (obeys : Obeys rules c frame) :
    Book.Moves rules c.book (c.receiveAsync world wireError bytes frame).book := by
  have moved := decodeAsyncFrame_moves world wireError c bytes frame obeys
  unfold receiveAsync
  cases decoded : c.decodeAsyncFrame world wireError bytes frame with
  | ok next =>
      rw [decoded] at moved
      exact moved
  | error effects =>
      rw [decoded] at moved
      exact moved.moves.trans (endSession_moves { c with effects } "invalid_frame")
  | crash effects =>
      rw [decoded] at moved
      exact moved.moves

/-! ## Messages -/

/-- The token of a consumption message was handed out. -/
def HandedOut (rules : Rules) (c : Connection P) (reference sequence token : Nat) : Prop :=
  rules.genuine → (reference, sequence, token) ∈ c.book.envelopes

theorem pendingReport_some {c : Connection P} {reference sequence token : Nat}
    {report : Report (Nat × Nat) Nat}
    (pending : c.pendingReport reference sequence token = some report) :
    c.reportLedger.pending.lookup sequence = some report ∧ report.stream.1 = reference ∧
      report.token = token ∧ report.consumed = false := by
  unfold pendingReport at pending
  obtain ⟨found, matched⟩ := Option.filter_eq_some_iff.1 pending
  simp only [Bool.and_eq_true, beq_iff_eq, Bool.not_eq_true'] at matched
  exact ⟨found, matched.1.1, matched.1.2, matched.2⟩

/-- A token that was handed out permits the mark. -/
theorem permitted_of_handedOut {c : Connection P} {reference sequence token : Nat}
    {report : Report (Nat × Nat) Nat} (handed : HandedOut rules c reference sequence token)
    (pending : c.pendingReport reference sequence token = some report)
    {b : Book P} (kept : ∀ entry ∈ c.book.envelopes, entry ∈ b.envelopes) :
    ∀ other, c.reportLedger.pending.lookup sequence = some other →
      Book.Permitted rules b sequence other := by
  obtain ⟨found, rfl, rfl, -⟩ := pendingReport_some pending
  intro other here
  rw [found] at here
  obtain rfl := Option.some.inj here
  exact Or.inr fun asked => kept _ (handed asked)

theorem reportConsumed_moves (world : World) (c : Connection P) (generation : String)
    {reference sequence token : Nat} (handed : HandedOut rules c reference sequence token) :
    Book.Moves rules c.book (c.reportConsumed world generation reference sequence token).book := by
  unfold reportConsumed
  split
  · rename_i subscription report _ pending
    exact acknowledgeReport_moves world c sequence report.bytes
      (permitted_of_handedOut handed pending fun _ member => member)
  · exact Book.Moves.of_eq rfl

theorem overflow_of_pending (world : World) {c : Connection P} {reference sequence token : Nat}
    {subscription : Subscription P} {report : Report (Nat × Nat) Nat}
    (found : c.subscriptions.lookup reference = some subscription)
    (pending : c.pendingReport reference sequence token = some report) (bytes : Nat) :
    Book.Moves rules c.book (c.overflowSubscription world reference sequence bytes).book := by
  obtain ⟨closed, ledger, closes, -, acknowledges, tells⟩ :=
    overflowSubscription_book world found sequence bytes
  refine Book.Moves.step (.overflow c.book found closes (Or.inl ?_) acknowledges) tells.moves
  intro other here
  obtain ⟨known, owner, -, -⟩ := pendingReport_some pending
  change c.reportLedger.pending.lookup sequence = _ at here
  rw [known] at here
  obtain rfl := Option.some.inj here
  exact owner

/-- An owner's answer acknowledges the report, cancels the subscription or fails the channel. -/
theorem reportAdmitted_moves (world : World) (c : Connection P) (owner : Nat)
    (generation : String) {reference sequence token : Nat} (admission : Admission P)
    (handed : HandedOut rules c reference sequence token) :
    Book.Moves rules c.book
      (c.reportAdmitted world owner generation reference sequence token admission).book := by
  unfold reportAdmitted
  split
  · rename_i subscription report matched pending
    obtain ⟨found, -⟩ := Option.filter_eq_some_iff.1 matched
    cases admission with
    | ok delivery =>
        dsimp only
        split
        · have tells : Book.Tells c.book (c.tick.post (.receiver reference (.report delivery))).book :=
            tells_post c.tick rfl
          refine tells.moves.trans (acknowledgeReport_moves world _ sequence report.bytes ?_)
          refine permitted_of_handedOut handed pending fun entry member => ?_
          change entry ∈ (c.effects.sent ++ [_]).filterMap Message.envelope?
          rw [List.filterMap_append]
          exact List.mem_append_left _ member
        · exact overflow_of_pending world (c := c.tick) found pending report.bytes
    | receiverOverflow => exact overflow_of_pending world found pending report.bytes
    | invalid =>
        exact (failNativeInput_tells c).moves.trans
          (notifySessionFailure_moves c.failNativeInput "invalid_frame")
  · exact Book.Moves.of_eq rfl

theorem cancelSubscription_moves (world : World) (c : Connection P) (reference : Nat)
    (result : String) : Book.Moves rules c.book (c.cancelSubscription world reference result).book := by
  cases found : c.subscriptions.lookup reference with
  | none =>
      unfold cancelSubscription
      rw [found]
      exact Book.Moves.of_eq rfl
  | some subscription =>
      obtain ⟨closed, closes, -, tells⟩ := cancelSubscription_book world found result
      exact Book.Moves.step (.close c.book found closes) tells.moves

theorem down_moves (world : World) (c : Connection P) (monitor : Nat) :
    Book.Moves rules c.book (c.down world monitor).book := by
  unfold down
  split
  · exact Book.Moves.of_eq rfl
  · rename_i reference _
    split
    · exact Book.Moves.of_eq rfl
    · split
      · have tells : Book.Tells c.book (c.post (.receiver reference (.error "owner_closed"))).book :=
          tells_post c rfl
        exact tells.moves.trans (cancelSubscription_moves world _ reference _)
      · exact cancelSubscription_moves world c reference _

/-- A new subscription comes with its first stream, its index and its monitors. -/
theorem putSubscription_moves {c prepared : Connection P} {acknowledged : Bool}
    {nativeId : String} {queueLimit : Nat} {resubscribe : Bool} {admits : P → Bool}
    {reference : Nat} (few : Table.size c.subscriptions < 64)
    (distinct : rules.distinct → ∀ reference other,
      c.subscriptions.lookup reference = some other → other.nativeId ≠ nativeId)
    (put : c.putSubscription acknowledged nativeId queueLimit resubscribe admits =
      some (reference, prepared)) : Book.Moves rules c.book prepared.book := by
  unfold putSubscription at put
  dsimp only at put
  split at put
  · cases put
  · rename_i ledger opens
    obtain ⟨-, rfl⟩ := Prod.mk.inj (Option.some.inj put)
    refine Book.Moves.single (.put c.book few opens rfl rfl ⟨rfl, rfl⟩ rfl distinct ?_ ?_)
    · intro monitor owner watched
      cases acknowledged with
      | true =>
          simp only [if_true, Table.lookup_insert] at watched
          split at watched
          · rename_i here
            exact Or.inl ⟨(Option.some.inj watched).symm, Or.inl here⟩
          · exact Or.inr watched
      | false =>
          simp only [Bool.false_eq_true, if_false, Table.lookup_insert] at watched
          split at watched
          · rename_i here
            exact Or.inl ⟨(Option.some.inj watched).symm, Or.inr (congrArg some here.symm)⟩
          · split at watched
            · rename_i here
              exact Or.inl ⟨(Option.some.inj watched).symm, Or.inl here⟩
            · exact Or.inr watched
    · exact Nat.lt_add_of_pos_right (by decide)

theorem requestFrame_moves (world : World) (c : Connection P) (line : String → HostLine)
    (await : String → Await) :
    Book.Moves rules c.book (c.requestFrame world line await).book := by
  unfold requestFrame
  split
  · exact endSession_moves { c with awaiting := some (await "") } _
  · rename_i id next taken
    have told := (takeRequestId_tells taken).trans
      (Book.Tells.of_eq (book_sendFrame world next (line id)))
    dsimp only
    split
    · exact told.moves
    · exact told.moves.trans
        (endSession_moves { (next.sendFrame world (line id)).2 with awaiting := some (await id) } _)

theorem subscribe_moves (world : World) (c : Connection P) (acknowledged : Bool)
    {nativeId : String} (queueLimit : Nat) (resubscribe : Bool) (admits : P → Bool)
    (distinct : rules.distinct → ∀ reference other,
      c.subscriptions.lookup reference = some other → other.nativeId ≠ nativeId) :
    Book.Moves rules c.book
      (c.subscribe world acknowledged nativeId queueLimit resubscribe admits).book := by
  unfold Connection.subscribe
  split
  · exact Book.Moves.of_eq rfl
  · rename_i room
    split
    · exact Book.Moves.of_eq rfl
    · split
      · exact Book.Moves.of_eq rfl
      · rename_i reference prepared put
        have few : Table.size c.tick.subscriptions < 64 := by
          rw [not_or, not_le] at room
          exact room.1
        exact (putSubscription_moves few distinct put).trans (requestFrame_moves world prepared _ _)

/-- The caller's cancellation closes the subscription before its request goes out. -/
theorem markClosing_moves {c : Connection P} {reference : Nat} {subscription : Subscription P}
    (found : c.subscriptions.lookup reference = some subscription) (result : String) :
    Book.Moves rules c.book (c.markClosing reference result).book := by
  unfold markClosing
  rw [book_update found]
  exact Book.Moves.single (.close c.book found rfl)

theorem unsubscribe_moves (world : World) (c : Connection P) (reference : Nat) :
    Book.Moves rules c.book (c.unsubscribe world reference).book := by
  unfold unsubscribe
  split
  · exact Book.Moves.of_eq rfl
  · rename_i subscription found
    split
    · exact Book.Moves.of_eq rfl
    · exact (markClosing_moves found "cancelled").trans (requestFrame_moves world _ _ _)

/-- The answer makes the subscription active; the flush is a later message. -/
theorem establishSubscription_moves (world : World) (c : Connection P) (reference : Nat)
    (answer : Answer) :
    Book.Moves rules c.book (c.establishSubscription world reference answer).book := by
  unfold establishSubscription
  dsimp only
  split
  · rename_i subscription matched
    obtain ⟨found, checked⟩ := Option.filter_eq_some_iff.1 matched
    have establishing : subscription.status = .establishing := by
      simp only [Bool.and_eq_true, decide_eq_true_eq] at checked
      exact checked.1.1
    split
    · have present : c.tick.tick.subscriptions.lookup reference = some subscription := found
      have updated := book_update present fun subscription => { subscription with status := .active }
      have tells : Book.Tells (c.tick.tick.update reference fun subscription =>
          { subscription with status := .active }).book
          (({ (c.tick.tick.update reference fun subscription =>
            { subscription with status := .active }) with awaiting := none }).post
              (.flushSubscription reference)).book :=
        tells_post { (c.tick.tick.update reference fun subscription =>
          { subscription with status := .active }) with awaiting := none } rfl
      refine Book.Moves.trans ?_ tells.moves
      rw [updated]
      exact Book.Moves.single (.establish c.book found establishing)
    · exact endSession_moves c.tick.tick _
  · exact endSession_moves c.tick.tick _

theorem requestFailed_moves (c : Connection P) (code : String) :
    Book.Moves rules c.book (c.requestFailed code).book := by
  unfold requestFailed
  split
  · exact endSession_moves c code
  · exact dropAwaited_moves c

theorem execute_moves (world : World) (c : Connection P) (encodes : Bool) :
    Book.Moves rules c.book (c.execute world encodes).book := by
  unfold execute
  split
  · exact requestFrame_moves world c _ _
  · split
    · exact endSession_moves c _
    · rename_i taken
      exact (takeRequestId_tells taken).moves.trans (requestFailed_moves _ _)

theorem answered_moves (world : World) (c : Connection P) (await : Await) (answer : Answer) :
    Book.Moves rules c.book (c.answered world await answer).book := by
  unfold answered
  split
  · exact requestFailed_moves c _
  · exact establishSubscription_moves world c _ _
  · split
    · exact Book.Moves.of_eq rfl
    · exact endSession_moves c _
  · exact Book.Moves.of_eq rfl

/-- The guards of `Rules` at one message of the mailbox. -/
def Keeps (rules : Rules) (c : Connection P) : Input P E → Prop
  | .subscribe _ nativeId _ _ _ => rules.distinct → ∀ reference other,
      c.subscriptions.lookup reference = some other → other.nativeId ≠ nativeId
  | .line _ (some frame) => Obeys rules c frame
  | .reportAdmitted _ _ reference sequence token _ => HandedOut rules c reference sequence token
  | .reportConsumed _ reference sequence token => HandedOut rules c reference sequence token
  | _ => True

theorem receiveLine_moves (world : World) (wireError : E → Option String) (c : Connection P)
    (bytes : Nat) (frame : Option (HostFrame P E))
    (keeps : Keeps rules c (Input.line bytes frame)) :
    Book.Moves rules c.book (c.receiveLine world wireError bytes frame).book := by
  unfold receiveLine
  split
  · exact endSession_moves c _
  · split
    · split
      · exact answered_moves world c _ _
      · exact receiveAsync_moves world wireError c bytes _ keeps
    · exact receiveAsync_moves world wireError c bytes _ keeps

/-- **One message of the mailbox.** -/
theorem step_moves (world : World) (wireError : E → Option String) (c : Connection P)
    {input : Input P E} (keeps : Keeps rules c input) :
    Book.Moves rules c.book (c.step world wireError input).book := by
  unfold step
  split
  · exact Book.Moves.of_eq rfl
  cases input with
  | subscribe acknowledged nativeId queueLimit resubscribe admits =>
      dsimp only
      split
      · exact subscribe_moves world c _ _ _ _ keeps
      · exact Book.Moves.of_eq rfl
  | unsubscribe reference =>
      dsimp only
      split
      · exact unsubscribe_moves world c reference
      · exact Book.Moves.of_eq rfl
  | request encodes =>
      dsimp only
      split
      · exact execute_moves world c encodes
      · exact Book.Moves.of_eq rfl
  | line bytes frame => exact receiveLine_moves world wireError c bytes frame keeps
  | reportAdmitted owner generation reference sequence token admission =>
      exact reportAdmitted_moves world c owner generation admission keeps
  | reportConsumed generation reference sequence token =>
      exact reportConsumed_moves world c generation keeps
  | nativeInputFailed generation =>
      dsimp only
      split
      · exact endSession_moves c _
      · exact Book.Moves.of_eq rfl
  | down monitor => exact down_moves world c monitor
  | flushSubscription reference => exact flushSubscription_moves world c reference
  | failed code => exact endSession_moves c code
  | closed => exact Book.Moves.of_eq rfl

/-! ## Runs -/

/-- What every change keeps, a sequence of changes keeps. -/
theorem moves_keep {invariant : Book P → Prop}
    (kept : ∀ {b b'}, Book.Step rules b b' → invariant b → invariant b') {b b' : Book P}
    (moves : Book.Moves rules b b') (holds : invariant b) : invariant b' := by
  induction moves with
  | refl => exact holds
  | tail _ step before => exact kept step before

/-- Every message of a run satisfies `p` in the state it is taken up in. -/
def Always (world : World) (wireError : E → Option String) (p : Connection P → Input P E → Prop) :
    Connection P → List (Input P E) → Prop
  | _, [] => True
  | c, input :: rest => p c input ∧ Always world wireError p (c.step world wireError input) rest

instance (world : World) (wireError : E → Option String) (p : Connection P → Input P E → Prop)
    [∀ c input, Decidable (p c input)] (c : Connection P) (inputs : List (Input P E)) :
    Decidable (Always world wireError p c inputs) := by
  induction inputs generalizing c with
  | nil => exact inferInstanceAs (Decidable True)
  | cons input rest ih =>
      have := ih (c.step world wireError input)
      exact inferInstanceAs (Decidable (_ ∧ _))

/-- What holds of the books at first and is kept by every change holds after a run. -/
theorem run_keeps {world : World} {wireError : E → Option String} {invariant : Book P → Prop}
    (kept : ∀ {b b'}, Book.Step rules b b' → invariant b → invariant b')
    (inputs : List (Input P E)) : ∀ {c : Connection P},
      Always world wireError (Keeps rules) c inputs → invariant c.book →
      invariant (c.run world wireError inputs).book := by
  induction inputs with
  | nil => exact fun _ holds => holds
  | cons input rest ih =>
      intro c keeps holds
      exact ih keeps.2 (moves_keep kept (step_moves world wireError c keeps.1) holds)

/-- A stronger condition on each step is one on the run. -/
theorem Always.imp {world : World} {wireError : E → Option String}
    {p q : Connection P → Input P E → Prop} (implies : ∀ c input, p c input → q c input)
    (inputs : List (Input P E)) : ∀ {c : Connection P},
      Always world wireError p c inputs → Always world wireError q c inputs := by
  induction inputs with
  | nil => exact fun _ => trivial
  | cons input rest ih => exact fun holds => ⟨implies _ _ holds.1, ih holds.2⟩

end Connection

end WotexMatter.Beam
