/-
# WotexMatter.Session.CreditAgreement -- the two accounts never disagree

The host's credit account and the BEAM's ledger, joined by two FIFO channels: the
account's sink is the list of frames on their way to the BEAM, `acks` the list of
acknowledgements on their way back.  `Step` interleaves the calls of the host with
what the BEAM does: opening streams, registering reports, retiring streams at their
barriers, consuming reports in any order, proposing acknowledgements.

The assumptions are on two steps.  A submitted report fits a frame of the Port, as
the output writer checks.  A report or barrier is received only while the BEAM has
opened its stream once more than it has seen barriers of it.

`Agreed` is the invariant; `credit_agreement` reads off it that registration, barrier
and acknowledgement are always accepted.  The one exception is the end of the counters:
`credit_agreement_exhausted` is a session that reaches it.
-/
import WotexMatter.Native.HostTrace
import WotexMatter.Beam.ReportLedger

set_option autoImplicit false
set_option linter.unusedSectionVars false

namespace WotexMatter.Session

open WotexMatter.Theory WotexMatter.Native WotexMatter.Beam
open WotexMatter.Native.ReportCreditManager

variable {P E R : Type} [Text (HostFrame P E)] [DecidableEq R]

/-- The channel to the BEAM takes every frame. -/
def deliver (channel : List (HostFrame P E)) (frame : HostFrame P E) :
    Bool × List (HostFrame P E) :=
  (true, channel ++ [frame])

theorem deliver_accepting : Accepting (deliver (P := P) (E := E)) := fun _ _ => rfl

/-- `kMaximumFrameBytes` with the newline bounds what the output writer takes. -/
def Framed (encode : Nat → HostFrame P E) : Prop :=
  ∀ sequence ≤ maxU64, 0 < Text.size (encode sequence) ∧ Text.size (encode sequence) < 131072

structure CreditSession (P E R : Type) where
  native : Flow (List (HostFrame P E)) P E := { sink := [] }
  ledger : ReportLedger (String × Nat) R := {}
  acks : List Acknowledgement := []
  received : List (HostFrame P E) := []
  opens : String × Nat → Nat := fun _ => 0
  barriers : String × Nat → Nat := fun _ => 0

/-- The BEAM has opened the stream since its last barrier. -/
def CreditSession.Opened (c : CreditSession P E R) (stream : String × Nat) : Prop :=
  c.barriers stream < c.opens stream

inductive Step (session : String) : CreditSession P E R → CreditSession P E R → Prop where
  | addStream {c} (subscriptionId : String) (generation queueLimit : Nat) :
      Step session c { c with
        native := (c.native.addStream subscriptionId generation queueLimit).2 }
  | submit {c} (subscriptionId : String) (generation : Nat) (payload : P)
      (framed : Framed (E := E) (reportEncoder session subscriptionId generation payload)) :
      Step session c { c with
        native := (c.native.submit deliver subscriptionId generation
          (reportEncoder session subscriptionId generation payload)).2 }
  | retire {c} (subscriptionId : String) (generation : Nat) :
      Step session c { c with
        native := (c.native.retire deliver subscriptionId generation
          (barrierFrame session c.native subscriptionId generation)).2 }
  | beginRecovery {c} (subscriptionId : String)
      (previousGeneration nextGeneration queueLimit : Nat) :
      Step session c { c with
        native := (c.native.beginRecovery deliver subscriptionId previousGeneration
          nextGeneration queueLimit
          (barrierFrame session c.native subscriptionId previousGeneration)).2 }
  | acknowledge {c} {ack : Acknowledgement} {rest : List Acknowledgement}
      (arrives : c.acks = ack :: rest) :
      Step session c { c with
        native := (c.native.acknowledge deliver ack.reportSequence ack.acknowledgedBytes).2
        acks := rest }
  | openStream {c} {stream : String × Nat} {opened : ReportLedger (String × Nat) R}
      (opens : c.ledger.openStream stream = some opened) :
      Step session c { c with
        ledger := opened
        opens := Function.update c.opens stream (c.opens stream + 1) }
  | register {c} {generated subscriptionId : String} {generation sequence : Nat} {payload : P}
      {rest : List (HostFrame P E)} (token : R)
      (arrives : c.native.sink =
        .report generated subscriptionId generation sequence payload :: rest)
      (opened : c.Opened (subscriptionId, generation)) :
      Step session c { c with
        native := { c.native with sink := rest }
        received := c.received ++
          [.report generated subscriptionId generation sequence payload]
        ledger := (c.ledger.register (subscriptionId, generation) sequence
          (Text.size (.report generated subscriptionId generation sequence payload :
            HostFrame P E) + 1) token).getD c.ledger }
  | barrier {c} {generated subscriptionId : String} {generation last : Nat}
      {rest : List (HostFrame P E)}
      (arrives : c.native.sink = .retired generated subscriptionId generation last :: rest)
      (opened : c.Opened (subscriptionId, generation)) :
      Step session c { c with
        native := { c.native with sink := rest }
        received := c.received ++ [.retired generated subscriptionId generation last]
        ledger := (c.ledger.retire (subscriptionId, generation) last).getD c.ledger
        barriers := Function.update c.barriers (subscriptionId, generation)
          (c.barriers (subscriptionId, generation) + 1) }
  | consume {c} {stream : String × Nat} {sequence : Nat} {token : R}
      {consumed : ReportLedger (String × Nat) R}
      (consumes : c.ledger.consume stream sequence token = some consumed) :
      Step session c { c with ledger := consumed }
  | advance {c} {ack : Acknowledgement} {advanced : ReportLedger (String × Nat) R}
      (proposes : c.ledger.advance = (some ack, advanced)) :
      Step session c { c with ledger := advanced, acks := c.acks ++ [ack] }

/-- The states of every interleaving. -/
def Reachable (session : String) (c : CreditSession P E R) : Prop :=
  Relation.ReflTransGen (Step session) {} c

/-! ## The host's side -/

/-- The queued and written reports fit a frame. -/
structure FramedFlow (s : Flow (List (HostFrame P E)) P E) : Prop where
  next_le : s.nextSequence ≤ maxU64
  queued : ∀ frame ∈ s.queued, Framed frame.encode
  written : ∀ entry ∈ reportsOf (writes s.events), 1 ≤ entry.bytes ∧ entry.bytes ≤ 131072

/-- What holds of the host's account whatever the BEAM does. -/
structure NativeOk (session : String) (received : List (HostFrame P E))
    (s : Flow (List (HostFrame P E)) P E) : Prop where
  books : Accounted s
  encoded : Encoded session s
  traced : Traced none s
  ledgered : ∃ past, Ledgered s past
  channel : received ++ s.sink = writes s.events
  framed : FramedFlow s

/-- A report encoder whose texts fit a frame. -/
def EncodesFrame (session subscriptionId : String) (generation : Nat)
    (encode : Nat → HostFrame P E) : Prop :=
  EncodesReport session subscriptionId generation encode ∧ Framed encode

variable {session : String} {received : List (HostFrame P E)}
  {s : Flow (List (HostFrame P E)) P E}

theorem framed_wrote (framed : FramedFlow s) {subscriptionId : String} {generation : Nat}
    {payload : P} {encode : Nat → HostFrame P E}
    (reports : encode = reportEncoder session subscriptionId generation payload)
    (fits : Framed encode) :
    ∀ entry ∈ reportsOf (writes s.events ++ [encode s.nextSequence]),
      1 ≤ entry.bytes ∧ entry.bytes ≤ 131072 := by
  intro entry member
  rw [reportsOf_append, List.mem_append] at member
  rcases member with before | new
  · exact framed.written entry before
  · have bounds := fits s.nextSequence framed.next_le
    subst reports
    simp only [reportsOf, reportEncoder, HostFrame.entryOf, List.filterMap_cons,
      List.filterMap_nil, List.mem_singleton] at new
    subst new
    simp only [reportEncoder] at bounds
    dsimp only
    omega

theorem framed_keeps (session : String) :
    Keeps (deliver (P := P) (E := E)) (EncodesFrame session) (IsBarrier session)
      (fun s => Encoded session s ∧ FramedFlow s)
      (fun s => Accounted s ∧ Encoded session s ∧ FramedFlow s) where
  forwarded := by
    rintro s stream pending rest cumulative sink - ⟨encoded, framed⟩ forwards ready -
    have tail : ∀ frame ∈ rest, frame ∈ s.queued :=
      fun frame member => by rw [forwards.head]; exact List.mem_cons_of_mem _ member
    have head : pending ∈ s.queued := by rw [forwards.head]; simp
    obtain ⟨payload, encode⟩ := encoded pending head
    refine ⟨fun frame member => encoded frame (tail frame member),
      Nat.lt_of_le_of_ne framed.next_le ready.numbered,
      fun frame member => framed.queued frame (tail frame member), ?_⟩
    rw [forwarded_events, writes_append]
    exact framed_wrote framed encode (framed.queued pending head)
  lost := by
    rintro s stream pending rest sink books ⟨encoded, framed⟩ forwards -
    have tail : ∀ frame ∈ rest, frame ∈ s.queued :=
      fun frame member => by rw [forwards.head]; exact List.mem_cons_of_mem _ member
    have balanced := dequeue_accounted books forwards.head forwards.found forwards.live
    exact ⟨⟨balanced.numbered, balanced.reserved, balanced.tabled, balanced.unwrapped⟩,
      fun frame member => encoded frame (tail frame member), framed.next_le,
      fun frame member => framed.queued frame (tail frame member), framed.written⟩
  added := by
    rintro s subscriptionId generation queueLimit - ⟨encoded, framed⟩ -
    refine ⟨encoded, framed.next_le, framed.queued, ?_⟩
    rw [added_events, writes_append]
    exact (List.append_nil (writes s.events)).symm ▸ framed.written
  sent := by
    rintro s stream subscriptionId generation encode cumulative sink - ⟨encoded, framed⟩
      ⟨⟨payload, rfl⟩, fits⟩ - - - ready -
    refine ⟨encoded, Nat.lt_of_le_of_ne framed.next_le ready.numbered, framed.queued, ?_⟩
    rw [sent_events, transmitted_events, writes_append, writes_append]
    exact (List.append_nil _).symm ▸ framed_wrote framed rfl fits
  enqueued := by
    rintro s stream subscriptionId generation encode - ⟨encoded, framed⟩ ⟨reports, fits⟩ - - -
    refine ⟨fun frame member => ?_, framed.next_le, fun frame member => ?_, ?_⟩
    · rw [enqueued_queued, List.mem_append, List.mem_singleton] at member
      rcases member with before | rfl
      · exact encoded frame before
      · exact reports
    · rw [enqueued_queued, List.mem_append, List.mem_singleton] at member
      rcases member with before | rfl
      · exact framed.queued frame before
      · exact fits
    · rw [enqueued_events, writes_append]
      exact (List.append_nil (writes s.events)).symm ▸ framed.written
  retired := by
    rintro s subscriptionId generation stream _ sink books ⟨encoded, framed⟩ rfl found - -
    rw [retired_eq books found]
    refine ⟨fun frame member => encoded frame (List.mem_of_mem_filter member), framed.next_le,
      fun frame member => framed.queued frame (List.mem_of_mem_filter member), ?_⟩
    dsimp only
    rw [writes_append, writes_append, writes_discards, List.append_nil, reportsOf_append]
    exact (List.append_nil (reportsOf (writes s.events))).symm ▸ framed.written
  released := fun _ inv _ _ => ⟨inv.1, inv.2.next_le, inv.2.queued, inv.2.written⟩
  weaken := fun books inv => ⟨books, inv.1, inv.2⟩
  refused := by
    intro s text sink _ _ refused
    cases refused
  unbarred := by
    intro s subscriptionId generation stream barrier sink _ _ _ _ _ refused
    cases refused

/-- The parts of `NativeOk` that the calls carry. -/
def NativeParts (session : String) (received : List (HostFrame P E))
    (s : Flow (List (HostFrame P E)) P E) : Prop :=
  (((Encoded session s ∧ Traced none s) ∧ Encoded session s ∧ ∃ past, Ledgered s past) ∧
    Encoded session s ∧ received ++ s.sink = writes s.events) ∧ Encoded session s ∧ FramedFlow s

theorem NativeOk.parts (ok : NativeOk session received s) : NativeParts session received s :=
  ⟨⟨⟨⟨ok.encoded, ok.traced⟩, ok.encoded, ok.ledgered⟩, ok.encoded, ok.channel⟩, ok.encoded,
    ok.framed⟩

theorem nativeOk_of_parts (books : Accounted s) (parts : NativeParts session received s) :
    NativeOk session received s :=
  { books
    encoded := parts.2.1
    traced := parts.1.1.1.2
    ledgered := parts.1.1.2.2
    channel := parts.1.2.2
    framed := parts.2.2 }

theorem native_keeps (session : String) (received : List (HostFrame P E)) :
    Keeps (deliver (P := P) (E := E)) (EncodesFrame session) (IsBarrier session)
      (NativeParts session received) (NativeOk session received) := by
  have records : ∀ (sink : List (HostFrame P E)) text sink', deliver sink text = (true, sink') →
      received ++ sink' = received ++ sink ++ [text] := by
    intro sink text sink' accepted
    obtain rfl := (Prod.mk.inj accepted).2
    rw [List.append_assoc]
  have flow : Keeps deliver (EncodesFrame session) _ _ _ :=
    (((traced_keeps (deliver (P := P) (E := E)) session).and
      (ledgered_keeps deliver session)).and
      (recorded_keeps session (received ++ ·) records)).restrict fun ok => ok.1
  refine (flow.and (framed_keeps session)).mono ?_
  rintro s ⟨⟨⟨traced, ledgered⟩, channel⟩, books, encoded, framed⟩
  exact
    { books
      encoded
      traced := (traced deliver_accepting).2.2
      ledgered := (ledgered deliver_accepting).2.2
      channel := (channel deliver_accepting).2.2
      framed }

/-- After any call, successful or not. -/
theorem nativeOk_of_outcome {Q : Flow (List (HostFrame P E)) P E → Prop}
    {result : Bool × Flow (List (HostFrame P E)) P E}
    (parts : ∀ s, Q s → NativeParts session received s)
    (outcome : Outcome Q (NativeOk session received) result) :
    NativeOk session received result.2 := by
  unfold Outcome at outcome
  split at outcome
  · exact nativeOk_of_parts outcome.1 (parts _ outcome.2)
  · exact outcome

/-! ## What a call does to the acknowledged prefix -/

theorem drain_acknowledgedSequence (books : Accounted s) :
    (s.drain deliver).2.acknowledgedSequence = s.acknowledgedSequence := by
  have forwards : KeepsForward (deliver (P := P) (E := E))
      (fun s' => s'.acknowledgedSequence = s.acknowledgedSequence)
      (fun s' => s'.acknowledgedSequence = s.acknowledgedSequence) :=
    ⟨fun _ same _ _ _ => same, fun _ same _ _ => same⟩
  have outcome := drain_keeps forwards books rfl
  unfold Outcome at outcome
  split at outcome
  · exact outcome.2.1
  · exact outcome

theorem submit_acknowledgedSequence (subscriptionId : String) (generation : Nat)
    (encode : Nat → HostFrame P E) :
    (s.submit deliver subscriptionId generation encode).2.acknowledgedSequence =
      s.acknowledgedSequence := by
  rcases submit_cases deliver s subscriptionId generation encode with
    ⟨result, -⟩ | ⟨result, -⟩ | ⟨stream, -, -, -, ⟨_, _, -, -, result⟩ | ⟨_, -, result⟩⟩ |
    ⟨stream, -, -, -, result⟩
  · rw [result]
  · rw [result]
  · rw [result]
    rfl
  · rw [result]
  · rw [result]
    rfl

theorem addStream_acknowledgedSequence (subscriptionId : String) (generation queueLimit : Nat) :
    (s.addStream subscriptionId generation queueLimit).2.acknowledgedSequence =
      s.acknowledgedSequence := by
  rcases addStream_cases s subscriptionId generation queueLimit with result | ⟨-, result⟩
  · rw [result]
  · rw [result]
    rfl

theorem retire_acknowledgedSequence (books : Accounted s) (subscriptionId : String)
    (generation : Nat) (barrier : HostFrame P E) :
    (s.retire deliver subscriptionId generation barrier).2.acknowledgedSequence =
      s.acknowledgedSequence := by
  rcases retire_cases deliver s subscriptionId generation barrier with
    ⟨result, -⟩ | ⟨stream, found, live, ⟨sink, written, result⟩ | ⟨sink, refused, -⟩⟩
  · rw [result]
  · rw [result, drain_acknowledgedSequence (retired_books books found barrier sink),
      retired_eq books found]
  · cases refused

theorem beginRecovery_acknowledgedSequence (books : Accounted s) (subscriptionId : String)
    (previousGeneration nextGeneration queueLimit : Nat) (barrier : HostFrame P E) :
    (s.beginRecovery deliver subscriptionId previousGeneration nextGeneration queueLimit
      barrier).2.acknowledgedSequence = s.acknowledgedSequence := by
  have retires := retire_acknowledgedSequence books subscriptionId previousGeneration barrier
  unfold beginRecovery
  split
  · rfl
  · dsimp only
    split
    · rw [addStream_acknowledgedSequence, retires]
    · exact retires

/-! ## What `Drain` forwards -/

/-- `Drain` succeeds unless the session's counters run out under it. -/
theorem drain_succeeds (books : Accounted s)
    (framed : ∀ frame ∈ s.queued, Framed frame.encode) (next_le : s.nextSequence ≤ maxU64) :
    (s.drain deliver).1 = true ∨ Exhausted (s.drain deliver).2 := by
  have forwards : KeepsForward (deliver (P := P) (E := E))
      (fun s' => (∀ frame ∈ s'.queued, Framed frame.encode) ∧ s'.nextSequence ≤ maxU64)
      Exhausted := by
    refine ⟨?_, ?_⟩
    · rintro s' stream pending rest cumulative sink books' ⟨fits, bound⟩ forwards ready -
      refine ⟨fun frame member => fits frame ?_, ?_⟩
      · rw [forwards.head]
        exact List.mem_cons_of_mem _ member
      · have numbered : s'.nextSequence ≠ maxU64 := ready.numbered
        rw [forwarded_nextSequence]
        omega
    · rintro s' stream pending rest sink books' ⟨fits, bound⟩ forwards refuses
      have credit := ((canTransmit_iff _ _ _).1 forwards.fits).2.1
      cases refuses with
      | unready never =>
          have bounds := fits pending (by rw [forwards.head]; simp) s'.nextSequence bound
          by_contra left
          rw [Exhausted, not_or] at left
          have counted : ¬ maxU64 < s'.cumulativeTransmittedBytes + kSessionByteCredit := left.2
          refine never { stream with queued := subSize stream.queued 1 } _
            { found := Table.lookup_insert_self _ _ _
              live := forwards.live
              numbered := left.1
              nonempty := bounds.1
              small := ?_
              counted := rfl
              countable := ?_ }
          · rw [dequeue_nextSequence]
            omega
          · rw [dequeue_cumulativeTransmittedBytes, dequeue_nextSequence]
            omega
      | unwritten refused => cases refused
  have outcome := drain_keeps forwards books ⟨framed, next_le⟩
  unfold Outcome at outcome
  split at outcome
  · exact Or.inl ‹_›
  · exact Or.inr outcome

/-! ## What is in flight -/

/-- A written report as the ledger books it. -/
def Entry.booked (entry : Entry) : (String × Nat) × Nat :=
  ((entry.subscriptionId, entry.generation), entry.bytes)

/-- The reports the BEAM has received, as its ledger books them. -/
def got (received : List (HostFrame P E)) : List ((String × Nat) × Nat) :=
  (reportsOf received).map Entry.booked

theorem sumBytes_booked (entries : List Entry) :
    ReportLedger.sumBytes (entries.map Entry.booked) = entryBytes entries := by
  simp [ReportLedger.sumBytes, entryBytes, Entry.booked, Function.comp_def]

/-- The acknowledgements in flight lead from the host's acknowledged prefix to the
ledger's, each with the bytes of its own prefix. -/
def AckChain (reports : List ((String × Nat) × Nat)) : Nat → List Acknowledgement → Nat → Prop
  | low, [], high => low = high
  | low, ack :: rest, high =>
      low < ack.reportSequence ∧
        ack.acknowledgedBytes = ReportLedger.sumBytes (reports.take ack.reportSequence) ∧
        AckChain reports ack.reportSequence rest high

section AckChain

variable {reports : List ((String × Nat) × Nat)} {acks : List Acknowledgement} {low high : Nat}

theorem AckChain.le (chain : AckChain reports low acks high) : low ≤ high := by
  induction acks generalizing low with
  | nil => exact Nat.le_of_eq chain
  | cons ack rest ih => exact chain.1.le.trans (ih chain.2.2)

theorem AckChain.snoc (chain : AckChain reports low acks high) {ack : Acknowledgement}
    (later : high < ack.reportSequence)
    (bytes : ack.acknowledgedBytes = ReportLedger.sumBytes (reports.take ack.reportSequence)) :
    AckChain reports low (acks ++ [ack]) ack.reportSequence := by
  induction acks generalizing low with
  | nil =>
      obtain rfl : low = high := chain
      exact ⟨later, bytes, rfl⟩
  | cons first rest ih => exact ⟨chain.1, chain.2.1, ih chain.2.2⟩

/-- Later reports change no earlier prefix. -/
theorem AckChain.extend (chain : AckChain reports low acks high) (known : high ≤ reports.length)
    (more : List ((String × Nat) × Nat)) : AckChain (reports ++ more) low acks high := by
  induction acks generalizing low with
  | nil => exact chain
  | cons ack rest ih =>
      have within : ack.reportSequence ≤ reports.length := chain.2.2.le.trans known
      refine ⟨chain.1, ?_, ih chain.2.2⟩
      rw [List.take_append_of_le_length within]
      exact chain.2.1

end AckChain

/-! ## The invariant -/

/-- The two accounts and the channels between them. -/
structure Agreed (session : String) (c : CreditSession P E R) : Prop where
  native : NativeOk session c.received c.native
  follows : ReportLedger.Follows c.ledger (got c.received)
  chain : AckChain (got c.received) c.native.acknowledgedSequence c.acks
    c.ledger.acknowledgedSequence
  streams : ∀ id g, c.ledger.streams.lookup (id, g) =
    if c.barriers (id, g) < c.opens (id, g) then some (lastWritten id g c.received) else none
  counts : ∀ stream, c.barriers stream ≤ c.opens stream ∧ c.opens stream ≤ c.barriers stream + 1
  unopened : ∀ id g, ¬ c.Opened (id, g) → lastWritten id g c.received = 0

theorem agreed_initial (session : String) : Agreed session ({} : CreditSession P E R) where
  native :=
    { books := accounted_initial _
      encoded := fun _ member => by cases member
      traced := fun _ _ => rfl
      ledgered := ⟨[], rfl, rfl, rfl, rfl, trivial, rfl, Nat.zero_le _, show 1 ≤ maxU64 by decide⟩
      channel := rfl
      framed := ⟨show 1 ≤ maxU64 by decide, fun _ member => (by cases member),
        fun _ member => (by cases member)⟩ }
  follows := ReportLedger.follows_new
  chain := rfl
  streams := fun id g => by simp
  counts := fun _ => ⟨Nat.le_refl _, Nat.zero_le _⟩
  unopened := fun _ _ _ => rfl

variable {c : CreditSession P E R}

/-- A call of the host that leaves the acknowledged prefix alone. -/
theorem agreed_of_native (agreed : Agreed session c) {native : Flow (List (HostFrame P E)) P E}
    (ok : NativeOk session c.received native)
    (same : native.acknowledgedSequence = c.native.acknowledgedSequence) :
    Agreed session { c with native } where
  native := ok
  follows := agreed.follows
  chain := by
    dsimp only
    rw [same]
    exact agreed.chain
  streams := agreed.streams
  counts := agreed.counts
  unopened := agreed.unopened

/-- Taking a frame off the channel. -/
theorem nativeOk_received {frame : HostFrame P E} {rest : List (HostFrame P E)}
    (ok : NativeOk session received s) (arrives : s.sink = frame :: rest) :
    NativeOk session (received ++ [frame]) { s with sink := rest } where
  books := ⟨ok.books.numbered, ok.books.reserved, ok.books.tabled, ok.books.unwrapped⟩
  encoded := ok.encoded
  traced := ok.traced
  ledgered := by
    obtain ⟨past, ledgered⟩ := ok.ledgered
    exact ⟨past, ledgered_of_same ledgered rfl rfl rfl rfl rfl rfl⟩
  channel := by
    dsimp only
    rw [List.append_assoc, List.singleton_append, ← arrives]
    exact ok.channel
  framed := ⟨ok.framed.next_le, ok.framed.queued, ok.framed.written⟩

/-- The reports written so far are the received ones, then those in the channel. -/
theorem reports_split (ok : NativeOk session received s) :
    reportsOf (writes s.events) = reportsOf received ++ reportsOf s.sink := by
  rw [← ok.channel, reportsOf_append]

theorem reports_sequences (ok : NativeOk session received s) :
    (reportsOf (writes s.events)).map Entry.sequence =
        List.range' 1 (reportsOf (writes s.events)).length ∧
      (reportsOf (writes s.events)).length = s.acknowledgedSequence + s.outstanding.length := by
  obtain ⟨past, ledgered⟩ := ok.ledgered
  have outstanding : (s.outstanding.map Frame.entry).map Entry.sequence =
      List.range' (s.acknowledgedSequence + 1) s.outstanding.length := by
    rw [List.map_map]
    exact ok.books.numbered.consecutive
  rw [ledgered.reports]
  refine ⟨?_, by simp [ledgered.count]⟩
  rw [List.map_append, ledgered.sequences, outstanding, List.length_append, List.length_map,
    ← List.range'_append_1, ledgered.count, Nat.add_comm 1]

/-! ## Receiving a report -/

theorem got_snoc_report (received : List (HostFrame P E)) (generated id : String)
    (g sequence : Nat) (payload : P) :
    got (received ++ [.report generated id g sequence payload]) = got received ++
      [((id, g), Text.size (.report generated id g sequence payload : HostFrame P E) + 1)] := by
  simp [got, reportsOf, HostFrame.entryOf, Entry.booked]

theorem got_snoc_retired (received : List (HostFrame P E)) (generated id : String)
    (g last : Nat) : got (received ++ [.retired generated id g last]) = got received := by
  simp [got, reportsOf, HostFrame.entryOf]

/-- The reports beyond the host's acknowledged prefix fit its session credit. -/
theorem unacknowledged_le (ok : NativeOk session received s) {acknowledged : Nat}
    (later : s.acknowledgedSequence ≤ acknowledged) :
    entryBytes ((reportsOf (writes s.events)).drop acknowledged) ≤ kSessionByteCredit := by
  obtain ⟨past, ledgered⟩ := ok.ledgered
  have outstanding : (reportsOf (writes s.events)).drop s.acknowledgedSequence =
      s.outstanding.map Frame.entry := by
    rw [ledgered.reports, ← ledgered.count, List.drop_left]
  have fewer : List.Sublist (((reportsOf (writes s.events)).drop acknowledged).map Entry.bytes)
      ((s.outstanding.map Frame.entry).map Entry.bytes) := by
    rw [← outstanding]
    exact (List.drop_sublist_drop_left _ later).map _
  have bounded := ok.books.numbered.bytes_le
  rw [ok.books.numbered.bytes_eq, ← entryBytes_entries] at bounded
  exact fewer.sum_le_sum (fun _ _ => Nat.zero_le _) |>.trans bounded

/-- **Registration.**  The ledger takes the report at the head of the channel. -/
theorem register_of_agreed (agreed : Agreed session c) {generated id : String}
    {g sequence : Nat} {payload : P} {rest : List (HostFrame P E)}
    (arrives : c.native.sink = .report generated id g sequence payload :: rest)
    (opened : c.Opened (id, g)) (token : R) :
    c.ledger.register (id, g) sequence
        (Text.size (.report generated id g sequence payload : HostFrame P E) + 1) token =
      some { c.ledger with
        nextSequence := sequence + 1
        pending := c.ledger.pending.insert sequence
          { stream := (id, g)
            bytes := Text.size (.report generated id g sequence payload : HostFrame P E) + 1
            token }
        streams := c.ledger.streams.insert (id, g) sequence } := by
  have ok := agreed.native
  obtain ⟨sequences, count⟩ := reports_sequences ok
  have split := reports_split ok
  obtain ⟨past, ledgered⟩ := ok.ledgered
  have behind := agreed.chain.le
  have length : (got c.received).length = (reportsOf c.received).length := List.length_map _
  rw [arrives, show reportsOf (.report generated id g sequence payload :: rest :
    List (HostFrame P E)) = ⟨id, g, sequence, Text.size (.report generated id g sequence payload :
      HostFrame P E) + 1⟩ :: reportsOf rest from rfl] at split
  have total : (reportsOf (writes c.native.events)).length =
      (got c.received).length + ((reportsOf rest).length + 1) := by
    rw [split, List.length_append, List.length_cons, length]
  have frames := ok.books.numbered.frames_le
  have next := ok.books.numbered.next
  have next_le := ledgered.next_le
  have here : sequence = (got c.received).length + 1 := by
    have nth := congrArg (fun l => l[(got c.received).length]?) sequences
    simp only [split, List.map_append, List.map_cons] at nth
    rw [List.getElem?_append_right (by simp [length]), List.length_map, ← length, Nat.sub_self,
      List.getElem?_cons_zero, List.getElem?_range' (by rw [← split, total]; omega)] at nth
    have := Option.some.inj nth
    omega
  unfold kSessionReportCredit at frames
  refine ReportLedger.register_accepts agreed.follows here ?_ ?_ ?_ ?_ ?_ ?_ ?_ token
  · unfold maximumCounter
    unfold maxU64 at next_le
    omega
  · omega
  · have bound := ok.framed.written ⟨id, g, sequence, Text.size
      (.report generated id g sequence payload : HostFrame P E) + 1⟩ (by rw [split]; simp)
    exact bound.2
  · rw [agreed.streams, if_pos (show c.barriers (id, g) < c.opens (id, g) from opened)]
    rfl
  · omega
  · have credit := unacknowledged_le ok behind
    have known := agreed.follows.acknowledged_le
    rw [split, List.drop_append_of_le_length (by omega), entryBytes_append] at credit
    unfold got
    rw [← List.map_drop, sumBytes_booked]
    simp only [entryBytes, List.map_cons, List.sum_cons] at credit ⊢
    unfold kSessionByteCredit at credit
    omega
  · have counted := ledgered.total_le
    rw [ledgered.total, ledgered.bytes, ← entryBytes_entries, ← entryBytes_append,
      ← ledgered.reports, split, entryBytes_append] at counted
    unfold got
    rw [sumBytes_booked]
    simp only [entryBytes, List.map_cons, List.sum_cons] at counted ⊢
    unfold maxU64 at counted
    unfold maximumCounter
    omega

/-! ## Receiving a barrier -/

/-- **Barriers.**  The barrier at the head of the channel names the report the ledger has
last registered for its stream. -/
theorem barrier_of_agreed (agreed : Agreed session c) {generated id : String} {g last : Nat}
    {rest : List (HostFrame P E)}
    (arrives : c.native.sink = .retired generated id g last :: rest)
    (opened : c.Opened (id, g)) : c.ledger.streams.lookup (id, g) = some last := by
  have history := agreed.native.channel
  rw [arrives] at history
  obtain ⟨before, after, split, prior⟩ := exists_split_of_writes history.symm
  rw [barrier_last (agreed.native.traced id g) split, prior, agreed.streams,
    if_pos (show c.barriers (id, g) < c.opens (id, g) from opened)]

/-! ## Receiving an acknowledgement -/

/-- The acknowledgement at the head of its channel names an outstanding report and its
byte count. -/
theorem target_of_agreed (agreed : Agreed session c) {ack : Acknowledgement}
    {rest : List Acknowledgement} (arrives : c.acks = ack :: rest) :
    ∃ target ∈ c.native.outstanding, target.sequence = ack.reportSequence ∧
      target.cumulativeBytes = ack.acknowledgedBytes := by
  have ok := agreed.native
  have chain := agreed.chain
  rw [arrives] at chain
  obtain ⟨later, bytes, onward⟩ := chain
  have known := onward.le.trans agreed.follows.acknowledged_le
  obtain ⟨-, count⟩ := reports_sequences ok
  have split := reports_split ok
  have length : (got c.received).length = (reportsOf c.received).length := List.length_map _
  obtain ⟨past, ledgered⟩ := ok.ledgered
  have total := congrArg List.length split
  rw [List.length_append] at total
  -- the position of the target among the outstanding frames
  obtain ⟨position, place⟩ : ∃ position, ack.reportSequence =
      c.native.acknowledgedSequence + 1 + position := ⟨_, (Nat.add_sub_of_le later).symm⟩
  have within : position < c.native.outstanding.length := by omega
  have cut := List.take_append_drop position c.native.outstanding
  rw [List.drop_eq_getElem_cons within] at cut
  refine ⟨c.native.outstanding[position], List.getElem_mem within, ?_, ?_⟩
  · have nth := congrArg (fun l => l[position]?) ok.books.numbered.consecutive
    simp only [List.getElem?_map, List.getElem?_eq_getElem within, Option.map_some,
      List.getElem?_range' within] at nth
    have := Option.some.inj nth
    omega
  · have cumulated := ledgered.cumulated
    rw [← cut, cumulated_append] at cumulated
    have upto : (reportsOf c.received).take ack.reportSequence =
        past ++ (c.native.outstanding.take position ++ [c.native.outstanding[position]]).map
          Frame.entry := by
      have front : (reportsOf (writes c.native.events)).take ack.reportSequence =
          (reportsOf c.received).take ack.reportSequence := by
        rw [split, List.take_append_of_le_length (by omega)]
      rw [← front, ledgered.reports, List.take_append, List.take_of_length_le
        (by rw [ledgered.count]; omega), ledgered.count, place,
        show c.native.acknowledgedSequence + 1 + position - c.native.acknowledgedSequence =
          position + 1 by omega, ← List.map_take, List.take_add_one,
        List.getElem?_eq_getElem within]
      rfl
    rw [cumulated.2.1, bytes, got, ← List.map_take, sumBytes_booked, upto, entryBytes_append,
      entryBytes_entries, frameBytes_append, frameBytes_cons, frameBytes_nil, ledgered.bytes]
    omega

/-- **Acknowledgement.**  `Acknowledge` takes the acknowledgement at the head of its
channel, and fails only if the counters run out while it writes the waiting reports. -/
theorem acknowledge_of_agreed (agreed : Agreed session c) {ack : Acknowledgement}
    {rest : List Acknowledgement} (arrives : c.acks = ack :: rest) :
    ((c.native.acknowledge deliver ack.reportSequence ack.acknowledgedBytes).1 = true ∨
      Exhausted (c.native.acknowledge deliver ack.reportSequence ack.acknowledgedBytes).2) ∧
    (c.native.acknowledge deliver ack.reportSequence
      ack.acknowledgedBytes).2.acknowledgedSequence = ack.reportSequence := by
  obtain ⟨target, member, sequence, bytes⟩ := target_of_agreed agreed arrives
  obtain ⟨front, later, -, -, balanced, result⟩ :=
    acknowledge_accepts deliver agreed.native.books member
  rw [sequence, bytes] at result
  rw [result]
  refine ⟨drain_succeeds balanced agreed.native.framed.queued agreed.native.framed.next_le, ?_⟩
  rw [drain_acknowledgedSequence balanced, released_acknowledgedSequence]
  exact sequence

/-! ## Steps and runs -/

theorem lastWritten_snoc (id : String) (g : Nat) (frames : List (HostFrame P E))
    (frame : HostFrame P E) :
    lastWritten id g (frames ++ [frame]) =
      match frame.signal id g with
      | some (.report sequence) => sequence
      | some (.barrier _) => 0
      | _ => lastWritten id g frames := by
  rw [lastWritten, List.foldl_append]
  rfl

theorem agreed_registered (agreed : Agreed session c) {generated id : String}
    {g sequence : Nat} {payload : P} {rest : List (HostFrame P E)}
    (arrives : c.native.sink = .report generated id g sequence payload :: rest)
    (opened : c.Opened (id, g)) {registered : ReportLedger (String × Nat) R} {token : R}
    (result : c.ledger.register (id, g) sequence
      (Text.size (.report generated id g sequence payload : HostFrame P E) + 1) token =
        some registered) :
    Agreed session { c with
      native := { c.native with sink := rest }
      received := c.received ++ [.report generated id g sequence payload]
      ledger := registered } := by
  have follows := ReportLedger.register_follows agreed.follows result
  rw [register_of_agreed agreed arrives opened] at result
  obtain rfl := Option.some.inj result
  have latest : ∀ id' g', lastWritten id' g' (c.received ++
      [.report generated id g sequence payload]) =
      if id = id' ∧ g = g' then sequence else lastWritten id' g' c.received := by
    intro id' g'
    rw [lastWritten_snoc]
    simp only [HostFrame.signal]
    split <;> simp_all
  exact
    { native := nativeOk_received agreed.native arrives
      follows := by
        rw [got_snoc_report]
        exact follows
      chain := by
        rw [got_snoc_report]
        exact agreed.chain.extend agreed.follows.acknowledged_le _
      streams := by
        intro id' g'
        dsimp only
        rw [Table.lookup_insert, latest, agreed.streams id' g']
        by_cases same : id = id' ∧ g = g'
        · obtain ⟨rfl, rfl⟩ := same
          rw [if_pos rfl, if_pos (show c.barriers (id, g) < c.opens (id, g) from opened),
            if_pos ⟨rfl, rfl⟩]
        · rw [if_neg (fun h => same ⟨(Prod.mk.inj h).1.symm, (Prod.mk.inj h).2.symm⟩),
            if_neg same]
      counts := agreed.counts
      unopened := by
        intro id' g' closed
        have other : ¬ (id = id' ∧ g = g') := by
          rintro ⟨rfl, rfl⟩
          exact closed opened
        dsimp only
        rw [latest, if_neg other]
        exact agreed.unopened id' g' closed }

theorem agreed_retired (agreed : Agreed session c) {generated id : String} {g last : Nat}
    {rest : List (HostFrame P E)}
    (arrives : c.native.sink = .retired generated id g last :: rest)
    (opened : c.Opened (id, g)) {retired : ReportLedger (String × Nat) R}
    (result : c.ledger.retire (id, g) last = some retired)
    (streams : retired.streams = c.ledger.streams.erase (id, g))
    (prefixed : retired.acknowledgedSequence = c.ledger.acknowledgedSequence) :
    Agreed session { c with
      native := { c.native with sink := rest }
      received := c.received ++ [.retired generated id g last]
      ledger := retired
      barriers := Function.update c.barriers (id, g) (c.barriers (id, g) + 1) } := by
  have once : c.opens (id, g) = c.barriers (id, g) + 1 :=
    Nat.le_antisymm (agreed.counts (id, g)).2 opened
  have latest : ∀ id' g', lastWritten id' g' (c.received ++ [.retired generated id g last]) =
      if id = id' ∧ g = g' then 0 else lastWritten id' g' c.received := by
    intro id' g'
    rw [lastWritten_snoc]
    simp only [HostFrame.signal]
    split <;> simp_all
  have elsewhere : ∀ id' g', ¬ (id = id' ∧ g = g') → (id', g') ≠ (id, g) :=
    fun id' g' other h => other ⟨(Prod.mk.inj h).1.symm, (Prod.mk.inj h).2.symm⟩
  exact
    { native := nativeOk_received agreed.native arrives
      follows := by
        rw [got_snoc_retired]
        exact ReportLedger.retire_follows agreed.follows result
      chain := by
        dsimp only
        rw [got_snoc_retired, prefixed]
        exact agreed.chain
      streams := by
        intro id' g'
        dsimp only
        rw [streams, Table.lookup_erase, latest]
        by_cases same : id = id' ∧ g = g'
        · obtain ⟨rfl, rfl⟩ := same
          rw [if_pos rfl, if_neg]
          rw [Function.update_self, once]
          exact Nat.lt_irrefl _
        · rw [if_neg (elsewhere id' g' same), if_neg same, agreed.streams id' g']
          simp only [Function.update_of_ne (elsewhere id' g' same)]
      counts := by
        intro stream
        dsimp only
        by_cases same : stream = (id, g)
        · rw [same, Function.update_self]
          omega
        · rw [Function.update_of_ne same]
          exact agreed.counts stream
      unopened := by
        intro id' g' closed
        dsimp only
        rw [latest]
        by_cases same : id = id' ∧ g = g'
        · rw [if_pos same]
        · rw [if_neg same]
          refine agreed.unopened id' g' fun open' => closed ?_
          simp only [CreditSession.Opened, Function.update_of_ne (elsewhere id' g' same)]
          exact open' }

theorem agreed_openStream (agreed : Agreed session c) {stream : String × Nat}
    {opened : ReportLedger (String × Nat) R}
    (result : c.ledger.openStream stream = some opened) :
    Agreed session { c with
      ledger := opened
      opens := Function.update c.opens stream (c.opens stream + 1) } := by
  obtain ⟨id, g⟩ := stream
  obtain ⟨fresh, streams⟩ := ReportLedger.openStream_streams result
  have closed : ¬ c.Opened (id, g) := by
    intro opened
    rw [agreed.streams, if_pos (show c.barriers (id, g) < c.opens (id, g) from opened)] at fresh
    cases fresh
  have count : c.opens (id, g) ≤ c.barriers (id, g) := Nat.le_of_not_lt closed
  have same : opened.acknowledgedSequence = c.ledger.acknowledgedSequence := by
    unfold ReportLedger.openStream at result
    split at result
    · obtain rfl := Option.some.inj result
      rfl
    · cases result
  exact
    { native := agreed.native
      follows := ReportLedger.openStream_follows agreed.follows result
      chain := by
        dsimp only
        rw [same]
        exact agreed.chain
      streams := by
        intro id' g'
        dsimp only
        rw [streams, Table.lookup_insert]
        by_cases here : (id', g') = (id, g)
        · obtain ⟨rfl, rfl⟩ := Prod.mk.inj here
          rw [if_pos rfl, if_pos, agreed.unopened id' g' closed]
          rw [Function.update_self]
          exact Nat.lt_succ_of_le (agreed.counts (id', g')).1
        · rw [if_neg here, agreed.streams id' g']
          simp only [Function.update_of_ne here]
      counts := by
        intro stream
        dsimp only
        by_cases here : stream = (id, g)
        · have bounds := agreed.counts (id, g)
          rw [here, Function.update_self]
          omega
        · rw [Function.update_of_ne here]
          exact agreed.counts stream
      unopened := by
        intro id' g' closed'
        by_cases here : (id', g') = (id, g)
        · obtain ⟨rfl, rfl⟩ := Prod.mk.inj here
          exact agreed.unopened id' g' closed
        · refine agreed.unopened id' g' fun open' => closed' ?_
          simp only [CreditSession.Opened, Function.update_of_ne here]
          exact open' }

theorem step_agreed {c' : CreditSession P E R} (agreed : Agreed session c)
    (step : Step session c c') : Agreed session c' := by
  have keeps := native_keeps session c.received
  have books := agreed.native.books
  have parts := agreed.native.parts
  cases step with
  | addStream subscriptionId generation queueLimit =>
      exact agreed_of_native agreed
        (nativeOk_of_outcome (fun _ => id) (addStream_keeps keeps books parts _ _ _))
        (addStream_acknowledgedSequence _ _ _)
  | submit subscriptionId generation payload framed =>
      exact agreed_of_native agreed
        (nativeOk_of_outcome (fun _ => id)
          (submit_keeps keeps books parts ⟨⟨payload, rfl⟩, framed⟩))
        (submit_acknowledgedSequence _ _ _)
  | retire subscriptionId generation =>
      exact agreed_of_native agreed
        (nativeOk_of_outcome (fun _ => And.left) (retire_keeps keeps books parts rfl))
        (retire_acknowledgedSequence books _ _ _)
  | beginRecovery subscriptionId previousGeneration nextGeneration queueLimit =>
      exact agreed_of_native agreed
        (nativeOk_of_outcome (fun _ => id) (beginRecovery_keeps keeps books parts rfl _ _))
        (beginRecovery_acknowledgedSequence books _ _ _ _ _)
  | acknowledge arrives =>
      rename_i ack rest
      have chain := agreed.chain
      rw [arrives] at chain
      exact
        { native := nativeOk_of_outcome (fun _ => And.left) (acknowledge_keeps keeps books parts _ _)
          follows := agreed.follows
          chain := by
            dsimp only
            rw [(acknowledge_of_agreed agreed arrives).2]
            exact chain.2.2
          streams := agreed.streams
          counts := agreed.counts
          unopened := agreed.unopened }
  | openStream opens => exact agreed_openStream agreed opens
  | register token arrives opened =>
      have result := register_of_agreed agreed arrives opened token
      rw [result]
      exact agreed_registered agreed arrives opened result
  | barrier arrives opened =>
      obtain ⟨retired, result, streams, same⟩ :=
        ReportLedger.retire_accepts (barrier_of_agreed agreed arrives opened)
      rw [result]
      exact agreed_retired agreed arrives opened result streams same
  | consume consumes =>
      have same := ReportLedger.consume_streams consumes
      exact
        { native := agreed.native
          follows := ReportLedger.consume_follows agreed.follows consumes
          chain := by
            dsimp only
            rw [ReportLedger.consume_acknowledgedSequence consumes]
            exact agreed.chain
          streams := by
            dsimp only
            rw [same]
            exact agreed.streams
          counts := agreed.counts
          unopened := agreed.unopened }
  | advance proposes =>
      obtain ⟨follows, later, reached, bytes, same⟩ :=
        ReportLedger.advance_follows agreed.follows proposes
      exact
        { native := agreed.native
          follows
          chain := by
            dsimp only
            rw [reached]
            exact agreed.chain.snoc later bytes
          streams := by
            dsimp only
            rw [same]
            exact agreed.streams
          counts := agreed.counts
          unopened := agreed.unopened }

theorem reachable_agreed (reachable : Reachable session c) : Agreed session c := by
  induction reachable with
  | refl => exact agreed_initial session
  | tail _ step ih => exact step_agreed ih step

/-- **Credit agreement.**  In every interleaving the ledger registers each report that
arrives, each barrier that arrives names the last report the ledger registered for its
stream and retires it, and `Acknowledge` takes each acknowledgement that arrives: it
returns `true` unless the session's counters run out while it writes what was waiting. -/
theorem credit_agreement (session : String) (c : CreditSession P E R)
    (reachable : Reachable session c) :
    (∀ generated id g sequence payload rest token,
      c.native.sink = .report generated id g sequence payload :: rest → c.Opened (id, g) →
      ∃ registered, c.ledger.register (id, g) sequence
        (Text.size (.report generated id g sequence payload : HostFrame P E) + 1) token =
          some registered) ∧
    (∀ ack rest, c.acks = ack :: rest →
      (c.native.acknowledge deliver ack.reportSequence
        ack.acknowledgedBytes).2.acknowledgedSequence = ack.reportSequence ∧
      ((c.native.acknowledge deliver ack.reportSequence ack.acknowledgedBytes).1 = true ∨
        Exhausted (c.native.acknowledge deliver ack.reportSequence ack.acknowledgedBytes).2)) ∧
    (∀ generated id g last rest,
      c.native.sink = .retired generated id g last :: rest → c.Opened (id, g) →
      c.ledger.streams.lookup (id, g) = some last ∧
        ∃ retired, c.ledger.retire (id, g) last = some retired) := by
  have agreed := reachable_agreed reachable
  refine ⟨?_, ?_, ?_⟩
  · intro generated id g sequence payload rest token arrives opened
    exact ⟨_, register_of_agreed agreed arrives opened token⟩
  · intro ack rest arrives
    obtain ⟨taken, moved⟩ := acknowledge_of_agreed agreed arrives
    exact ⟨moved, taken⟩
  · intro generated id g last rest arrives opened
    have known := barrier_of_agreed agreed arrives opened
    obtain ⟨retired, result, -, -⟩ := ReportLedger.retire_accepts known
    exact ⟨known, retired, result⟩

/-! ## The counters do run out -/

section Exhaustion

variable {E : Type}

/-- A session of one stream in which every report has made its round. -/
structure InStep (bytes n : Nat) (c : CreditSession Nat E Nat) : Prop where
  reachable : Reachable "s" c
  native : Lockstep "a" 1 1 bytes n n [] c.native
  idle : c.native.sink = []
  acks : c.acks = []
  opened : c.Opened ("a", 1)

theorem exists_inStep (bytes : Nat) : ∃ c : CreditSession Nat E Nat, InStep bytes 0 c := by
  have opens : (({} : CreditSession Nat E Nat).ledger.openStream ("a", 1)).isSome := by
    simp [ReportLedger.openStream, Table.size]
  obtain ⟨ledger, opens⟩ := Option.isSome_iff_exists.1 opens
  have added : Step "s" ({} : CreditSession Nat E Nat) _ := .addStream "a" 1 1
  exact ⟨_,
    { reachable := (Relation.ReflTransGen.single added).tail (.openStream opens)
      native := lockstep_added (by decide) (by decide) (by decide) (by decide) []
      idle := rfl
      acks := rfl
      opened := by simp [CreditSession.Opened] }⟩

theorem digits_le {sequence : Nat} (bound : sequence ≤ maxU64) :
    (Nat.toDigits 10 sequence).length ≤ 20 := by
  rw [Nat.length_toDigits_le_iff (by decide) (by decide)]
  exact Nat.lt_of_le_of_lt bound (by decide)

/-- A payload that leaves room for every sequence number fits a frame. -/
theorem framed_of_le {payload : Nat} (short : payload ≤ 131051) :
    Framed (E := E) (reportEncoder "s" "a" 1 payload) := by
  intro sequence bound
  have digits := digits_le bound
  have positive : 0 < (Nat.toDigits 10 sequence).length := Nat.length_toDigits_pos
  simp only [reportEncoder, Text.size]
  omega

variable {bytes n : Nat} {c : CreditSession Nat E Nat}

/-- The report in the channel is registered and consumed, and its acknowledgement sent. -/
theorem round_trip {queue : List (Frame (HostFrame Nat E))} {payload : Nat}
    (reachable : Reachable "s" c) (native : Lockstep "a" 1 1 bytes (n + 1) n queue c.native)
    (arrives : c.native.sink = [.report "s" "a" 1 (n + 1) payload]) (acks : c.acks = [])
    (opened : c.Opened ("a", 1)) :
    ∃ c' : CreditSession Nat E Nat, Reachable "s" c' ∧
      c'.native = { c.native with sink := [] } ∧
      c'.acks = [⟨n + 1, (n + 1) * bytes⟩] ∧ c'.Opened ("a", 1) := by
  have agreed := reachable_agreed reachable
  have low : c.ledger.acknowledgedSequence = n := by
    have chain := agreed.chain
    rw [acks] at chain
    exact (chain : c.native.acknowledgedSequence = _).symm.trans native.acknowledged
  have result := register_of_agreed agreed arrives opened (0 : Nat)
  have registered := reachable.tail (.register (0 : Nat) arrives opened)
  rw [result, Option.getD_some] at registered
  have consumes := ReportLedger.consume_registered c.ledger ("a", 1) (n + 1)
    (Text.size (.report "s" "a" 1 (n + 1) payload : HostFrame Nat E) + 1) 0 (n + 1 + 1)
    (c.ledger.streams.insert ("a", 1) (n + 1))
  have consumed := registered.tail (.consume consumes)
  have settled := reachable_agreed consumed
  obtain ⟨ack, advanced, proposes⟩ := ReportLedger.advance_proposes settled.follows
    (by dsimp only; rw [low]; exact Table.lookup_insert_self _ _ _) rfl
  have sent := consumed.tail (.advance proposes)
  obtain ⟨target, member, sequence, count⟩ :=
    target_of_agreed (reachable_agreed sent)
      (show c.acks ++ [ack] = ack :: [] by rw [acks]; rfl)
  have only : target.sequence = n + 1 := by
    have numbered : target.sequence ∈ c.native.outstanding.map Frame.sequence :=
      List.mem_map_of_mem member
    rw [native.books.numbered.consecutive, native.acknowledged, native.count,
      List.mem_range'_1] at numbered
    omega
  have exactly : ack = ⟨n + 1, (n + 1) * bytes⟩ := by
    rw [native.cumulative target member, only] at count
    rw [only] at sequence
    cases ack
    simp only [Acknowledgement.mk.injEq]
    exact ⟨sequence.symm, count.symm⟩
  refine ⟨_, sent, rfl, ?_, opened⟩
  dsimp only
  rw [acks, exactly]
  rfl

/-- A report of `bytes` is written at once. -/
theorem exists_sent (step : InStep bytes n c) (large : 131053 = bytes)
    (countable : n * bytes + bytes ≤ maxU64) :
    ∃ (payload : Nat) (c' : CreditSession Nat E Nat), Reachable "s" c' ∧
      Lockstep "a" 1 1 bytes (n + 1) n [] c'.native ∧
      c'.native.sink = [.report "s" "a" 1 (n + 1) payload] ∧ c'.acks = [] ∧
      c'.Opened ("a", 1) := by
  have bound : n + 1 ≤ maxU64 := by
    have : n * 1 ≤ n * bytes := Nat.mul_le_mul_left _ (by omega)
    omega
  have digits := digits_le bound
  have positive : 0 < (Nat.toDigits 10 (n + 1)).length := Nat.length_toDigits_pos
  -- the payload makes up for the digits of its sequence number
  obtain ⟨payload, whole⟩ : ∃ payload, payload + (Nat.toDigits 10 (n + 1)).length = 131052 :=
    ⟨_, Nat.sub_add_cancel (by omega)⟩
  obtain ⟨sink, sent⟩ := lockstep_sent deliver_accepting step.native
    (show Text.size (reportEncoder "s" "a" 1 payload (n + 1) : HostFrame Nat E) + 1 = bytes by
      simp only [reportEncoder, Text.size]; omega) (by omega)
    (by rw [Nat.sub_self]; decide) (by rw [Nat.sub_self, Nat.zero_mul, ← large]; decide) countable
  rw [step.idle] at sink
  exact ⟨payload, _, step.reachable.tail (.submit "a" 1 payload (framed_of_le (by omega))), sent,
    sink, step.acks, step.opened⟩

theorem exists_inStep_succ (step : InStep bytes n c) (large : 131053 = bytes)
    (countable : n * bytes + bytes ≤ maxU64) :
    ∃ c' : CreditSession Nat E Nat, InStep bytes (n + 1) c' := by
  obtain ⟨payload, c₁, submitted, sent, arrives, none, opened⟩ := exists_sent step large countable
  obtain ⟨c₂, reachable, native, acks, opened⟩ := round_trip submitted sent arrives none opened
  have idle := sent.sink []
  rw [← native] at idle
  obtain ⟨unsent, acknowledged⟩ :=
    lockstep_acknowledged deliver idle (Nat.lt_succ_self n)
  exact ⟨_,
    { reachable := reachable.tail (.acknowledge acks)
      native := acknowledged
      idle := unsent.trans (by rw [native])
      acks := rfl
      opened }⟩

theorem exists_inStep_of_countable (large : 131053 = bytes) (n : Nat)
    (countable : n * bytes ≤ maxU64) : ∃ c : CreditSession Nat E Nat, InStep bytes n c := by
  induction n with
  | zero => exact exists_inStep bytes
  | succ n ih =>
      rw [Nat.succ_mul] at countable
      obtain ⟨c, step⟩ := ih (by omega)
      exact exists_inStep_succ step large countable

/-- At the end of the byte counter a proposed acknowledgement is refused. -/
theorem exists_refused (large : 131053 = bytes) (n : Nat) (room : n * bytes + bytes ≤ maxU64)
    (full : maxU64 < n * bytes + bytes + bytes) :
    ∃ c : CreditSession Nat E Nat, Reachable "s" c ∧ ∃ ack, c.acks = [ack] ∧
      (c.native.acknowledge deliver ack.reportSequence ack.acknowledgedBytes).1 = false := by
  obtain ⟨c, step⟩ := exists_inStep_of_countable (E := E) large n (by omega)
  obtain ⟨payload, c₁, submitted, sent, arrives, none, opened⟩ := exists_sent step large room
  have last : n + 1 + 1 < maxU64 := by
    have : n * 2 ≤ n * bytes := Nat.mul_le_mul_left _ (by omega)
    omega
  have next := digits_le last.le
  have final := digits_le (Nat.le_refl maxU64)
  have positive : 0 < (Nat.toDigits 10 (n + 1 + 1)).length := Nat.length_toDigits_pos
  obtain ⟨unsent, waiting⟩ := lockstep_queued deliver sent
    (show 0 < Text.size (reportEncoder "s" "a" 1 131051 (n + 1 + 1) : HostFrame Nat E) by
      simp only [reportEncoder, Text.size]; omega)
    (by simp only [reportEncoder, Text.size, kSessionByteCredit]; omega) last.ne
    (by rw [Nat.add_sub_cancel_left]; decide) (show 0 < 64 by decide)
    (by simp only [reportEncoder, Text.size, frameBytes_nil, kMaximumQueuedBytes]; omega)
    (show 0 < 1 by decide)
  have queued := submitted.tail (.submit "a" 1 131051 (framed_of_le (Nat.le_refl _)))
  obtain ⟨c₂, reachable, native, acks, -⟩ :=
    round_trip queued waiting (unsent.trans arrives) none opened
  have idle := waiting.sink []
  rw [← native, List.nil_append] at idle
  have refused := lockstep_exhausted deliver idle (Nat.lt_succ_self n) (by decide)
    (by simp only [reportEncoder, Text.size, kSessionByteCredit]; omega)
    (by simp only [reportEncoder, Text.size]; rw [Nat.succ_mul]; omega)
  exact ⟨c₂, reachable, _, acks, refused.1⟩

end Exhaustion

/-- The first report of a stream is registered when it arrives. -/
theorem credit_agreement_registers :
    ∃ c : CreditSession Nat Unit Nat, Reachable "s" c ∧ c.Opened ("a", 1) ∧
      ∃ payload, c.native.sink = [.report "s" "a" 1 1 payload] ∧
        ∃ registered, c.ledger.register ("a", 1) 1
          (Text.size (.report "s" "a" 1 1 payload : HostFrame Nat Unit) + 1) 0 =
            some registered := by
  obtain ⟨c, step⟩ := exists_inStep (E := Unit) 131053
  obtain ⟨payload, c', reachable, -, arrives, -, opened⟩ := exists_sent step rfl (by decide)
  exact ⟨c', reachable, opened, payload, arrives,
    (credit_agreement "s" c' reachable).1 _ _ _ _ _ _ _ arrives opened⟩

/-- After 140757892407724 reports of 131053 bytes the byte counter has no room for the
waiting one, and the acknowledgement that would let it out fails. -/
theorem credit_agreement_exhausted :
    ∃ c : CreditSession Nat Unit Nat, Reachable "s" c ∧ ∃ ack, c.acks = [ack] ∧
      (c.native.acknowledge deliver ack.reportSequence ack.acknowledgedBytes).1 = false :=
  exists_refused rfl 140757892407723 (by decide) (by decide)

end WotexMatter.Session
