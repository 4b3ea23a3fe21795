/-
# WotexMatter.Native.FlowTrace -- the history of the credit account

The account writes reports and barriers; its `events` are the history.  Three
invariants tie the history to the state, each carried through the calls by `Keeps`:

* `Traced`: every stream's history is lawful, and the phase it ends in is the one
  the stream table shows;
* `Conserved`: an accepted report is written, waiting, or discarded by the
  retirement of its own stream, and the written ones keep their order;
* `Ledgered`: the outstanding frames are the last written reports, numbered and
  summed from the start of the session.

A failed call leaves them intact unless `transmit_` refused a text.
-/
import WotexMatter.Native.HostFrame
import WotexMatter.Native.ReportCreditRuns

set_option autoImplicit false

namespace WotexMatter.Native

open WotexMatter.Theory ReportCreditManager

variable {σ P E : Type} [Text (HostFrame P E)]

/-- The account of a host. -/
abbrev Flow (σ P E : Type) := ReportCreditManager σ (HostFrame P E)

/-- The encoder `EmitReport` hands to `Submit`. -/
def reportEncoder (session subscriptionId : String) (generation : Nat) (payload : P) :
    Nat → HostFrame P E :=
  fun sequence => .report session subscriptionId generation sequence payload

def EncodesReport (session subscriptionId : String) (generation : Nat)
    (encode : Nat → HostFrame P E) : Prop :=
  ∃ payload, encode = reportEncoder session subscriptionId generation payload

omit [Text (HostFrame P E)] in
theorem EncodesReport.intro (session subscriptionId : String) (generation : Nat) (payload : P) :
    EncodesReport session subscriptionId generation
      (reportEncoder session subscriptionId generation payload : Nat → HostFrame P E) :=
  ⟨payload, rfl⟩

/-- The barrier every retiring path builds. -/
def barrierFrame (session : String) (s : Flow σ P E) (subscriptionId : String) (generation : Nat) :
    HostFrame P E :=
  .retired session subscriptionId generation (s.lastTransmitted subscriptionId generation)

def IsBarrier (session : String) (s : Flow σ P E) (subscriptionId : String) (generation : Nat)
    (barrier : HostFrame P E) : Prop :=
  barrier = barrierFrame session s subscriptionId generation

omit [Text (HostFrame P E)] in
theorem IsBarrier.intro (session : String) (s : Flow σ P E) (subscriptionId : String)
    (generation : Nat) :
    IsBarrier session s subscriptionId generation
      (barrierFrame session s subscriptionId generation) :=
  rfl

/-- The waiting frames hold report encoders. -/
def Encoded (session : String) (s : Flow σ P E) : Prop :=
  ∀ frame ∈ s.queued, EncodesReport session frame.subscriptionId frame.generation frame.encode

/-- What a failed call leaves of an invariant when no text is refused. -/
def Unless (transmit : σ → HostFrame P E → Bool × σ) (session : String) (J : Flow σ P E → Prop)
    (s : Flow σ P E) : Prop :=
  Accepting transmit → Accounted s ∧ Encoded session s ∧ J s

variable {transmit : σ → HostFrame P E → Bool × σ} {session : String}

/-- The state changes of an account that submits report encoders and hands over its own
barriers. -/
theorem keeps_of_changes {I J : Flow σ P E → Prop}
    (forwarded : ∀ {s stream pending rest cumulative sink}, Accounted s → Encoded session s → I s →
      Forwards s stream pending rest →
      Ready (s.dequeue stream pending rest) { stream with queued := subSize stream.queued 1 }
        pending cumulative →
      transmit s.sink (pending.encode s.nextSequence) = (true, sink) →
      I (s.forwarded stream pending rest cumulative sink))
    (lost : ∀ {s stream pending rest}, Accounted s → Encoded session s → I s →
      Forwards s stream pending rest → J (s.dequeue stream pending rest))
    (added : ∀ {s subscriptionId generation queueLimit}, Accounted s → I s →
      Admits s subscriptionId generation queueLimit →
      I (s.added subscriptionId generation queueLimit))
    (sent : ∀ {s stream subscriptionId generation payload cumulative sink}, Accounted s → I s →
      s.queued = [] →
      Ready s stream (s.reportFrame subscriptionId generation
        (reportEncoder session subscriptionId generation payload)) cumulative →
      transmit s.sink (reportEncoder session subscriptionId generation payload s.nextSequence) =
        (true, sink) →
      I (s.sent stream (s.reportFrame subscriptionId generation
        (reportEncoder session subscriptionId generation payload)) cumulative sink))
    (enqueued : ∀ {s stream subscriptionId generation payload}, Accounted s → I s →
      s.streams.lookup (key subscriptionId generation) = some stream → stream.live = true →
      I (s.enqueued stream (waitingFrame subscriptionId generation
        (reportEncoder session subscriptionId generation payload))))
    (retired : ∀ {s subscriptionId generation stream sink}, Accounted s → Encoded session s →
      I s → s.streams.lookup (key subscriptionId generation) = some stream → stream.live = true →
      transmit s.sink (barrierFrame session s subscriptionId generation) = (true, sink) →
      I (s.retired subscriptionId generation stream
        (barrierFrame session s subscriptionId generation) sink))
    (released : ∀ {s front target rest}, Accounted s → I s →
      s.outstanding = front ++ target :: rest →
      target.sequence = s.acknowledgedSequence + 1 + front.length → I (s.released target rest))
    (weaken : ∀ {s}, I s → J s) :
    Keeps transmit (EncodesReport session) (IsBarrier session)
      (fun s => Encoded session s ∧ I s) (Unless transmit session J) where
  forwarded := by
    rintro s stream pending rest cumulative sink books ⟨encoded, inv⟩ forwards ready written
    refine ⟨fun frame member => ?_, forwarded books encoded inv forwards ready written⟩
    exact encoded frame (by rw [forwards.head]; exact List.mem_cons_of_mem _ member)
  lost := by
    rintro s stream pending rest sink books ⟨encoded, inv⟩ forwards refuses accepting
    cases refuses with
    | unready never =>
        refine ⟨dequeue_accounted books forwards.head forwards.found forwards.live,
          fun frame member => ?_, lost books encoded inv forwards⟩
        exact encoded frame (by rw [forwards.head]; exact List.mem_cons_of_mem _ member)
    | unwritten refused =>
        exact absurd (accepting (s.dequeue stream pending rest).sink _) (by rw [refused]; simp)
  added := fun books inv admits => ⟨inv.1, added books inv.2 admits⟩
  sent := by
    rintro s stream subscriptionId generation _ cumulative sink books ⟨encoded, inv⟩
      ⟨payload, rfl⟩ submits - empty ready written
    exact ⟨encoded, sent books inv empty ready written⟩
  enqueued := by
    rintro s stream subscriptionId generation _ books ⟨encoded, inv⟩ ⟨payload, rfl⟩ submits - -
    refine ⟨fun frame member => ?_, enqueued books inv submits.found submits.live⟩
    rw [enqueued_queued, List.mem_append, List.mem_singleton] at member
    rcases member with before | rfl
    · exact encoded frame before
    · exact ⟨payload, rfl⟩
  retired := by
    rintro s subscriptionId generation stream _ sink books ⟨encoded, inv⟩ rfl found live written
    refine ⟨fun frame member => ?_, retired books encoded inv found live written⟩
    rw [retired_eq books found] at member
    exact encoded frame (List.mem_of_mem_filter member)
  released := fun books inv split here => ⟨inv.1, released books inv.2 split here⟩
  weaken := fun books inv _ => ⟨books, inv.1, weaken inv.2⟩
  refused := by
    intro s text sink _ _ refused accepting
    exact absurd (accepting s.sink text) (by rw [refused]; simp)
  unbarred := by
    intro s subscriptionId generation stream barrier sink _ _ _ _ _ refused accepting
    exact absurd (accepting s.sink barrier) (by rw [refused]; simp)

/-! ## The history of each stream -/

/-- The phase a stream table entry stands for.  `failing` names the stream whose error
has been written and whose barrier is due. -/
def phaseAt (failing : Option (String × Nat)) (subscriptionId : String) (generation : Nat) :
    Option Stream → Phase
  | none => .absent
  | some stream =>
      if stream.live then
        if failing = some (subscriptionId, generation) then .failed stream.lastTransmitted
        else .opened stream.lastTransmitted
      else .absent

/-- Every stream's history is lawful and ends where the table says. -/
def Traced (failing : Option (String × Nat)) (s : Flow σ P E) : Prop :=
  ∀ subscriptionId generation, phaseOf subscriptionId generation s.events =
    some (phaseAt failing subscriptionId generation (s.stream? subscriptionId generation))

omit [Text (HostFrame P E)] in
theorem phaseOf_snoc {subscriptionId : String} {generation : Nat}
    {events : List (FlowEvent (HostFrame P E))} {phase : Phase}
    (before : phaseOf subscriptionId generation events = some phase)
    (event : FlowEvent (HostFrame P E)) :
    phaseOf subscriptionId generation (events ++ [event]) =
      phase.next subscriptionId generation event := by
  rw [phaseOf, Monitor.run_snoc, ← phaseOf, before, Option.bind_some]

omit [Text (HostFrame P E)] in
/-- Events that say nothing about any stream leave the phases alone. -/
theorem phaseOf_append_silent (subscriptionId : String) (generation : Nat)
    (events : List (FlowEvent (HostFrame P E))) {silent : List (FlowEvent (HostFrame P E))}
    (mute : ∀ event ∈ silent, event.signal subscriptionId generation = none) :
    phaseOf subscriptionId generation (events ++ silent) =
      phaseOf subscriptionId generation events := by
  rw [phaseOf, Monitor.run_append, ← phaseOf]
  cases phaseOf subscriptionId generation events with
  | none => rfl
  | some phase =>
      rw [Option.bind_some]
      exact Monitor.run_of_silent (fun event member s => by simp [Phase.next, mute event member]) _

omit [Text (HostFrame P E)] in
theorem stream?_of_insert {s s' : Flow σ P E} {id : String} {g : Nat} {stream : Stream}
    (streams : s'.streams = s.streams.insert (key id g) stream) (id' : String) (g' : Nat) :
    s'.stream? id' g' = if id' = id ∧ g' = g then some stream else s.stream? id' g' := by
  rw [stream?, streams, Table.lookup_insert]
  by_cases same : id' = id ∧ g' = g
  · rw [if_pos (key_inj.2 same), if_pos same]
  · rw [if_neg (fun h => same (key_inj.1 h)), if_neg same]
    rfl

omit [Text (HostFrame P E)] in
/-- Writing a report of a live stream. -/
theorem traced_wrote {s s' : Flow σ P E} (traced : Traced none s) {subscriptionId : String}
    {generation : Nat} {stream : Stream} (stream' : Stream) (payload : P)
    (found : s.stream? subscriptionId generation = some stream) (live : stream.live = true)
    (live' : stream'.live = true) (last : stream'.lastTransmitted = s.nextSequence)
    (streams : s'.streams = s.streams.insert (key subscriptionId generation) stream')
    (events : s'.events = s.events ++
      [.wrote (reportEncoder session subscriptionId generation payload s.nextSequence)]) :
    Traced none s' := by
  intro id g
  rw [events, phaseOf_snoc (traced id g)]
  simp only [Phase.next, FlowEvent.signal, reportEncoder, HostFrame.signal]
  rw [stream?_of_insert streams]
  by_cases same : subscriptionId = id ∧ generation = g
  · obtain ⟨rfl, rfl⟩ := same
    simp [found, phaseAt, live, live', last, Phase.step]
  · rw [if_neg same, if_neg (fun h => same ⟨h.1.symm, h.2.symm⟩)]

omit [Text (HostFrame P E)] in
/-- A change of the table that neither adds, ends nor advances a stream. -/
theorem traced_of_same {s s' : Flow σ P E} {failing : Option (String × Nat)}
    (traced : Traced failing s) (silent : List (FlowEvent (HostFrame P E)))
    (events : s'.events = s.events ++ silent)
    (mute : ∀ id g, ∀ event ∈ silent, event.signal id g = none)
    (same : ∀ id g, phaseAt failing id g (s'.stream? id g) = phaseAt failing id g (s.stream? id g)) :
    Traced failing s' := by
  intro id g
  rw [events, phaseOf_append_silent _ _ _ (mute id g), traced id g, same]

omit [Text (HostFrame P E)] in
/-- Writing the barrier of a live stream, failed or not. -/
theorem traced_retired {s s' : Flow σ P E} {failing : Option (String × Nat)}
    (traced : Traced failing s) {subscriptionId : String} {generation : Nat} {stream : Stream}
    (own : failing = none ∨ failing = some (subscriptionId, generation))
    (found : s.stream? subscriptionId generation = some stream) (live : stream.live = true)
    (silent : List (FlowEvent (HostFrame P E)))
    (mute : ∀ id g, ∀ event ∈ silent, event.signal id g = none)
    (events : s'.events = s.events ++ silent ++
      [.wrote (barrierFrame session s subscriptionId generation)])
    (gone : phaseAt none subscriptionId generation (s'.stream? subscriptionId generation) = .absent)
    (elsewhere : ∀ id g, ¬ (id = subscriptionId ∧ g = generation) →
      s'.stream? id g = s.stream? id g) :
    Traced none s' := by
  intro id g
  have before : phaseOf id g (s.events ++ silent) =
      some (phaseAt failing id g (s.stream? id g)) := by
    rw [phaseOf_append_silent _ _ _ (mute id g), traced id g]
  rw [events, phaseOf_snoc before]
  simp only [Phase.next, FlowEvent.signal, barrierFrame, HostFrame.signal]
  by_cases same : subscriptionId = id ∧ generation = g
  · obtain ⟨rfl, rfl⟩ := same
    rw [gone]
    have last : s.lastTransmitted subscriptionId generation = stream.lastTransmitted := by
      simp [lastTransmitted, found]
    rcases own with rfl | rfl <;> simp [found, phaseAt, live, last, Phase.step]
  · rw [if_neg same, elsewhere id g (fun h => same ⟨h.1.symm, h.2.symm⟩)]
    rcases own with rfl | rfl
    · rfl
    · have other : (some (subscriptionId, generation) : Option (String × Nat)) ≠ some (id, g) :=
        fun h => same (by simpa using h)
      cases s.stream? id g <;> simp [phaseAt, other]

theorem retired_traced (session : String) {s : Flow σ P E} {failing : Option (String × Nat)}
    (books : Accounted s)
    (traced : Traced failing s) {subscriptionId : String} {generation : Nat} {stream : Stream}
    (own : failing = none ∨ failing = some (subscriptionId, generation))
    (found : s.streams.lookup (key subscriptionId generation) = some stream)
    (live : stream.live = true) (sink : σ) :
    Traced none (s.retired subscriptionId generation stream
      (barrierFrame session s subscriptionId generation) sink) := by
  apply traced_retired traced own found live
    ((s.queued.filter fun f => f.key == key subscriptionId generation).map
      (.discarded subscriptionId generation))
  · intro id g event member
    obtain ⟨frame, -, rfl⟩ := List.mem_map.1 member
    rfl
  · rw [retired_eq books found]
  · rw [retired_eq books found, stream?]
    split <;> simp [phaseAt]
  · intro id g different
    have distinct : key id g ≠ key subscriptionId generation := fun h => different (key_inj.1 h)
    rw [retired_eq books found, stream?]
    split
    · rw [Table.lookup_erase, if_neg distinct]
      rfl
    · rw [Table.lookup_insert, if_neg distinct]
      rfl

omit [Text (HostFrame P E)] in
theorem phaseAt_settle (rest : List (Frame (HostFrame P E))) (id : String) (g : Nat)
    (entry : Option Stream) :
    phaseAt none id g (entry.bind (settle rest (key id g))) = phaseAt none id g entry := by
  cases entry with
  | none => rfl
  | some stream =>
      rw [Option.bind_some, settle]
      split
      · rename_i gone
        simp [phaseAt, gone.1]
      · rfl

theorem traced_keeps (transmit : σ → HostFrame P E → Bool × σ) (session : String) :
    Keeps transmit (EncodesReport session) (IsBarrier session)
      (fun s => Encoded session s ∧ Traced none s) (Unless transmit session (Traced none)) := by
  apply keeps_of_changes
  · intro s stream pending rest cumulative sink _ encoded traced forwards _ _
    obtain ⟨payload, encode⟩ := encoded pending (by rw [forwards.head]; simp)
    apply traced_wrote traced
      { stream with
        queued := subSize stream.queued 1
        outstanding := stream.outstanding + 1
        lastTransmitted := s.nextSequence } payload forwards.found forwards.live forwards.live rfl
    · rw [forwarded_streams, Frame.key]
    · rw [forwarded_events, encode]
  · intro s stream pending rest _ _ traced forwards
    refine traced_of_same traced [] (List.append_nil _).symm (fun _ _ _ member => by cases member) ?_
    intro id g
    rw [stream?_of_insert (dequeue_streams s stream pending rest)]
    split
    · rename_i same
      obtain ⟨rfl, rfl⟩ := same
      rw [show s.stream? _ _ = some stream from forwards.found]
      simp only [phaseAt]
    · rfl
  · intro s subscriptionId generation queueLimit _ traced admits id g
    rw [added_events, phaseOf_snoc (traced id g)]
    simp only [Phase.next, FlowEvent.signal]
    rw [stream?_of_insert (added_streams s subscriptionId generation queueLimit)]
    by_cases same : subscriptionId = id ∧ generation = g
    · obtain ⟨rfl, rfl⟩ := same
      have fresh : s.stream? subscriptionId generation = none := admits.fresh
      simp [fresh, phaseAt, Phase.step]
    · rw [if_neg same, if_neg (fun h => same ⟨h.1.symm, h.2.symm⟩)]
  · intro s stream subscriptionId generation payload cumulative sink _ traced _ ready _
    have written : Traced none (s.transmitted stream (s.reportFrame subscriptionId generation
        (reportEncoder session subscriptionId generation payload)) cumulative sink) :=
      traced_wrote traced
        { stream with
          outstanding := stream.outstanding + 1
          lastTransmitted := s.nextSequence } payload ready.found ready.live ready.live rfl rfl rfl
    exact traced_of_same written [_] rfl
      (fun _ _ event member => by rw [List.mem_singleton.1 member]; rfl) (fun _ _ => rfl)
  · intro s stream subscriptionId generation payload _ traced found _
    refine traced_of_same traced [_] rfl
      (fun _ _ event member => by rw [List.mem_singleton.1 member]; rfl) ?_
    intro id g
    rw [stream?_of_insert (enqueued_streams s stream _)]
    split
    · rename_i same
      obtain ⟨rfl, rfl⟩ := same
      rw [show s.stream? _ _ = some stream from found]
      rfl
    · rfl
  · intro s subscriptionId generation stream sink books _ traced found live _
    exact retired_traced session books traced (Or.inl rfl) found live sink
  · intro s front target rest _ traced _ _
    refine traced_of_same traced [] (List.append_nil _).symm (fun _ _ _ member => by cases member) ?_
    intro id g
    rw [stream?, released_streams, leaving_streams, settled, Table.lookup_filterMap,
      phaseAt_settle]
    rfl
  · exact id

/-! ## No report is lost, repeated or reordered -/

def HostFrame.payload? : HostFrame P E → Option P
  | .report _ _ _ _ payload => some payload
  | _ => none

/-- The payloads accepted for a stream, in order of submission. -/
def submittedOf (subscriptionId : String) (generation : Nat)
    (events : List (FlowEvent (HostFrame P E))) : List P :=
  events.filterMap fun
    | .accepted id g encode =>
        if id = subscriptionId ∧ g = generation then (encode 0).payload? else none
    | _ => none

/-- The payloads written for a stream, in order. -/
def writtenOf (subscriptionId : String) (generation : Nat)
    (events : List (FlowEvent (HostFrame P E))) : List P :=
  events.filterMap fun
    | .wrote (.report _ id g _ payload) =>
        if id = subscriptionId ∧ g = generation then some payload else none
    | _ => none

/-- The payloads discarded by the retirement of a stream. -/
def discardedOf (subscriptionId : String) (generation : Nat)
    (events : List (FlowEvent (HostFrame P E))) : List P :=
  events.filterMap fun
    | .discarded id g frame =>
        if id = subscriptionId ∧ g = generation then (frame.encode 0).payload? else none
    | _ => none

/-- The payloads a queue holds for a stream. -/
def waitingOf (subscriptionId : String) (generation : Nat)
    (queued : List (Frame (HostFrame P E))) : List P :=
  queued.filterMap fun frame =>
    if frame.subscriptionId = subscriptionId ∧ frame.generation = generation then
      (frame.encode 0).payload?
    else none

/-- Each accepted report is written in its turn, waiting, or discarded with its own
stream. -/
structure Conserved (s : Flow σ P E) : Prop where
  ordered : ∀ id g, List.Sublist (writtenOf id g s.events ++ waitingOf id g s.queued)
    (submittedOf id g s.events)
  accounted : ∀ id g, List.Perm (submittedOf id g s.events)
    (writtenOf id g s.events ++ waitingOf id g s.queued ++ discardedOf id g s.events)
  own : ∀ id g frame, FlowEvent.discarded id g frame ∈ s.events →
    frame.subscriptionId = id ∧ frame.generation = g

section Payloads

omit [Text (HostFrame P E)]

variable {id : String} {g : Nat} {front back : List (FlowEvent (HostFrame P E))}

theorem submittedOf_append :
    submittedOf id g (front ++ back) = submittedOf id g front ++ submittedOf id g back := by
  simp [submittedOf]

theorem writtenOf_append :
    writtenOf id g (front ++ back) = writtenOf id g front ++ writtenOf id g back := by
  simp [writtenOf]

theorem discardedOf_append :
    discardedOf id g (front ++ back) = discardedOf id g front ++ discardedOf id g back := by
  simp [discardedOf]

theorem waitingOf_append (first last : List (Frame (HostFrame P E))) :
    waitingOf id g (first ++ last) = waitingOf id g first ++ waitingOf id g last := by
  simp [waitingOf]

/-- One frame's share of the payloads of a stream. -/
def share (id : String) (g : Nat) (id' : String) (g' : Nat) (payload : P) : List P :=
  if id' = id ∧ g' = g then [payload] else []

theorem writtenOf_report (id' : String) (g' sequence : Nat) (payload : P) :
    writtenOf id g [(.wrote (reportEncoder session id' g' payload sequence) :
      FlowEvent (HostFrame P E))] = share id g id' g' payload := by
  by_cases same : id' = id ∧ g' = g <;> simp [writtenOf, reportEncoder, share, same]

theorem submittedOf_report (id' : String) (g' : Nat) (payload : P) :
    submittedOf id g [(.accepted id' g' (reportEncoder session id' g' payload) :
      FlowEvent (HostFrame P E))] = share id g id' g' payload := by
  by_cases same : id' = id ∧ g' = g <;>
    simp [submittedOf, reportEncoder, HostFrame.payload?, share, same]

theorem waitingOf_cons {frame : Frame (HostFrame P E)} {rest : List (Frame (HostFrame P E))}
    (session : String) (payload : P)
    (encode : frame.encode =
      reportEncoder session frame.subscriptionId frame.generation payload) :
    waitingOf id g (frame :: rest) =
      share id g frame.subscriptionId frame.generation payload ++ waitingOf id g rest := by
  by_cases same : frame.subscriptionId = id ∧ frame.generation = g <;>
    simp [waitingOf, encode, reportEncoder, HostFrame.payload?, share, same]

theorem waitingOf_filter (id' : String) (g' : Nat) (queued : List (Frame (HostFrame P E))) :
    waitingOf id g (queued.filter fun f => !(f.key == key id' g')) =
      if id' = id ∧ g' = g then [] else waitingOf id g queued := by
  induction queued with
  | nil => simp [waitingOf]
  | cons frame rest ih =>
      rw [List.filter_cons]
      by_cases mine : (frame.key == key id' g') = true
      · rw [mine, if_neg (by simp), ih]
        rw [← owned_iff] at mine
        by_cases same : id' = id ∧ g' = g
        · rw [if_pos same, if_pos same]
        · rw [if_neg same, if_neg same]
          simp [waitingOf, mine.1, mine.2, same]
      · rw [Bool.not_eq_true] at mine
        rw [mine, if_pos (by simp), waitingOf, List.filterMap_cons, ← waitingOf, ih]
        rw [← Bool.not_eq_true, ← owned_iff] at mine
        by_cases same : id' = id ∧ g' = g
        · obtain ⟨rfl, rfl⟩ := same
          simp [mine]
        · simp [waitingOf, same, List.filterMap_cons]

theorem discardedOf_discards (id' : String) (g' : Nat) (queued : List (Frame (HostFrame P E))) :
    discardedOf id g ((queued.filter fun f => f.key == key id' g').map
      (.discarded id' g')) = if id' = id ∧ g' = g then waitingOf id g queued else [] := by
  induction queued with
  | nil => simp [waitingOf, discardedOf]
  | cons frame rest ih =>
      rw [List.filter_cons]
      by_cases mine : (frame.key == key id' g') = true
      · rw [if_pos mine, List.map_cons, discardedOf, List.filterMap_cons, ← discardedOf, ih]
        rw [← owned_iff] at mine
        by_cases same : id' = id ∧ g' = g
        · simp [waitingOf, List.filterMap_cons, mine.1, mine.2, same]
        · simp [same]
      · rw [if_neg mine, ih]
        rw [← owned_iff] at mine
        by_cases same : id' = id ∧ g' = g
        · obtain ⟨rfl, rfl⟩ := same
          simp [waitingOf, mine]
        · simp [same]

/-- Discards and barriers neither submit nor write reports. -/
theorem payloads_of_retirement (session id : String) (g : Nat) (id' : String) (g' last : Nat)
    (frames : List (Frame (HostFrame P E))) :
    submittedOf id g (frames.map (.discarded id' g') ++
      [.wrote (.retired session id' g' last)]) = [] ∧
    writtenOf id g (frames.map (.discarded id' g') ++
      [.wrote (.retired session id' g' last)]) = [] ∧
    discardedOf id g [(.wrote (.retired session id' g' last) : FlowEvent (HostFrame P E))] = [] := by
  refine ⟨?_, ?_, rfl⟩
  · simp [submittedOf, List.filterMap_append, List.filterMap_map]
  · simp [writtenOf, List.filterMap_append, List.filterMap_map]

end Payloads

omit [Text (HostFrame P E)] in
theorem mem_of_mem_append_wrote {id : String} {g : Nat} {frame : Frame (HostFrame P E)}
    {events : List (FlowEvent (HostFrame P E))} {event : FlowEvent (HostFrame P E)}
    (other : ∀ id g frame, event ≠ .discarded id g frame)
    (member : FlowEvent.discarded id g frame ∈ events ++ [event]) :
    FlowEvent.discarded id g frame ∈ events := by
  rw [List.mem_append, List.mem_singleton] at member
  exact member.resolve_right (fun same => other _ _ _ same.symm)

theorem conserved_forwarded {s : Flow σ P E} (encoded : Encoded session s) (conserved : Conserved s)
    {stream : Stream} {pending : Frame (HostFrame P E)} {rest : List (Frame (HostFrame P E))}
    (head : s.queued = pending :: rest) (cumulative : Nat) (sink : σ) :
    Conserved (s.forwarded stream pending rest cumulative sink) := by
  obtain ⟨payload, encode⟩ := encoded pending (by rw [head]; simp)
  -- the head moves from the front of the queue to the end of what is written
  have moved : ∀ id g, writtenOf id g (s.forwarded stream pending rest cumulative sink).events ++
      waitingOf id g rest = writtenOf id g s.events ++ waitingOf id g s.queued := by
    intro id g
    rw [forwarded_events, encode, writtenOf_append, writtenOf_report, head, waitingOf_cons session payload encode,
      List.append_assoc]
  have submitted : ∀ id g, submittedOf id g (s.forwarded stream pending rest cumulative
      sink).events = submittedOf id g s.events := by
    intro id g
    rw [forwarded_events, submittedOf_append]
    exact List.append_nil _
  have discarded : ∀ id g, discardedOf id g (s.forwarded stream pending rest cumulative
      sink).events = discardedOf id g s.events := by
    intro id g
    rw [forwarded_events, discardedOf_append]
    exact List.append_nil _
  refine ⟨fun id g => ?_, fun id g => ?_, fun id g frame member => ?_⟩
  · rw [forwarded_queued, moved, submitted]
    exact conserved.ordered id g
  · rw [forwarded_queued, moved, submitted, discarded]
    exact conserved.accounted id g
  · rw [forwarded_events] at member
    exact conserved.own id g frame (mem_of_mem_append_wrote (by intros; simp) member)

theorem conserved_sent {s : Flow σ P E} (conserved : Conserved s) (empty : s.queued = [])
    (stream : Stream) (subscriptionId : String) (generation : Nat) (payload : P) (cumulative : Nat)
    (sink : σ) :
    Conserved (s.sent stream (s.reportFrame subscriptionId generation
      (reportEncoder session subscriptionId generation payload)) cumulative sink) := by
  have submitted : ∀ id g, submittedOf id g (s.sent stream (s.reportFrame subscriptionId generation
      (reportEncoder session subscriptionId generation payload)) cumulative sink).events =
      submittedOf id g s.events ++ share id g subscriptionId generation payload := by
    intro id g
    rw [sent_events, transmitted_events, submittedOf_append, submittedOf_append]
    congr 1
    · exact List.append_nil _
    · exact submittedOf_report _ _ _
  have written : ∀ id g, writtenOf id g (s.sent stream (s.reportFrame subscriptionId generation
      (reportEncoder session subscriptionId generation payload)) cumulative sink).events =
      writtenOf id g s.events ++ share id g subscriptionId generation payload := by
    intro id g
    rw [sent_events, transmitted_events, writtenOf_append, writtenOf_append]
    refine (List.append_nil _).trans (congrArg _ ?_)
    exact writtenOf_report _ _ _ _
  have discarded : ∀ id g, discardedOf id g (s.sent stream (s.reportFrame subscriptionId generation
      (reportEncoder session subscriptionId generation payload)) cumulative sink).events =
      discardedOf id g s.events := by
    intro id g
    rw [sent_events, transmitted_events, discardedOf_append, discardedOf_append]
    exact (List.append_nil _).trans (List.append_nil _)
  have waiting : ∀ id g, waitingOf id g s.queued = [] := by
    intro id g
    rw [empty]
    rfl
  refine ⟨fun id g => ?_, fun id g => ?_, fun id g frame member => ?_⟩
  · have old := conserved.ordered id g
    rw [waiting, List.append_nil] at old
    rw [sent_queued, transmitted_queued, waiting, written, submitted, List.append_nil]
    exact old.append (List.Sublist.refl _)
  · have old := conserved.accounted id g
    rw [waiting, List.append_nil] at old
    rw [sent_queued, transmitted_queued, waiting, written, submitted, discarded, List.append_nil]
    refine (old.append_right _).trans ?_
    rw [List.append_assoc, List.append_assoc]
    exact List.Perm.append_left _ List.perm_append_comm
  · rw [sent_events, transmitted_events] at member
    exact conserved.own id g frame (mem_of_mem_append_wrote (by intros; simp)
      (mem_of_mem_append_wrote (by intros; simp) member))

theorem conserved_enqueued {s : Flow σ P E} (conserved : Conserved s) (stream : Stream)
    (subscriptionId : String) (generation : Nat) (payload : P) :
    Conserved (s.enqueued stream (waitingFrame subscriptionId generation
      (reportEncoder session subscriptionId generation payload))) := by
  have waiting : ∀ id g, waitingOf id g (s.queued ++ [waitingFrame subscriptionId generation
      (reportEncoder session subscriptionId generation payload)]) =
      waitingOf id g s.queued ++ share id g subscriptionId generation payload := by
    intro id g
    rw [waitingOf_append, waitingOf_cons session payload rfl]
    exact congrArg _ (List.append_nil _)
  have submitted : ∀ id g, submittedOf id g (s.events ++ [.accepted subscriptionId generation
      (reportEncoder session subscriptionId generation payload)]) =
      submittedOf id g s.events ++ share id g subscriptionId generation payload := by
    intro id g
    rw [submittedOf_append, submittedOf_report]
  have written : ∀ id g, writtenOf id g (s.events ++ [.accepted subscriptionId generation
      (reportEncoder session subscriptionId generation payload)]) = writtenOf id g s.events := by
    intro id g
    rw [writtenOf_append]
    exact List.append_nil _
  have discarded : ∀ id g, discardedOf id g (s.events ++ [.accepted subscriptionId generation
      (reportEncoder session subscriptionId generation payload)]) =
      discardedOf id g s.events := by
    intro id g
    rw [discardedOf_append]
    exact List.append_nil _
  have events : (s.enqueued stream (waitingFrame subscriptionId generation
      (reportEncoder session subscriptionId generation payload))).events =
      s.events ++ [.accepted subscriptionId generation
        (reportEncoder session subscriptionId generation payload)] := rfl
  refine ⟨fun id g => ?_, fun id g => ?_, fun id g frame member => ?_⟩
  · rw [enqueued_queued, events, waiting, written, submitted, ← List.append_assoc]
    exact (conserved.ordered id g).append (List.Sublist.refl _)
  · rw [enqueued_queued, events, waiting, written, submitted, discarded]
    refine ((conserved.accounted id g).append_right _).trans ?_
    simp only [List.append_assoc]
    exact List.Perm.append_left _ (List.Perm.append_left _ List.perm_append_comm)
  · rw [events] at member
    exact conserved.own id g frame (mem_of_mem_append_wrote (by intros; simp) member)

theorem conserved_retired {s : Flow σ P E} (books : Accounted s) (conserved : Conserved s)
    {subscriptionId : String} {generation : Nat} {stream : Stream}
    (found : s.streams.lookup (key subscriptionId generation) = some stream) (last : Nat)
    (sink : σ) :
    Conserved (s.retired subscriptionId generation stream
      (.retired session subscriptionId generation last) sink) := by
  have payloads := fun id g => payloads_of_retirement session id g
    subscriptionId generation last
    (s.queued.filter fun f => f.key == key subscriptionId generation)
  rw [retired_eq books found]
  refine ⟨fun id g => ?_, fun id g => ?_, fun id g frame member => ?_⟩
  · dsimp only
    rw [List.append_assoc, submittedOf_append, writtenOf_append, (payloads id g).1,
      (payloads id g).2.1, List.append_nil, List.append_nil, waitingOf_filter]
    split
    · rw [List.append_nil]
      exact (List.sublist_append_left _ _).trans (conserved.ordered id g)
    · exact conserved.ordered id g
  · dsimp only
    rw [List.append_assoc s.events, submittedOf_append, writtenOf_append, (payloads id g).1,
      (payloads id g).2.1, List.append_nil, List.append_nil, discardedOf_append, discardedOf_append,
      (payloads id g).2.2, List.append_nil, discardedOf_discards, waitingOf_filter]
    have old := conserved.accounted id g
    split
    · refine old.trans ?_
      rw [List.append_nil, List.append_assoc]
      exact List.Perm.append_left _ List.perm_append_comm
    · rw [List.append_nil]
      exact old
  · dsimp only at member
    rw [List.mem_append, List.mem_append, List.mem_singleton] at member
    rcases member with (before | discards) | impossible
    · exact conserved.own id g frame before
    · obtain ⟨frame', member', same⟩ := List.mem_map.1 discards
      obtain ⟨rfl, rfl, rfl⟩ := FlowEvent.discarded.inj same
      exact (owned_iff _ _ _).2 (List.mem_filter.1 member').2
    · cases impossible

theorem conserved_keeps (transmit : σ → HostFrame P E → Bool × σ) (session : String) :
    Keeps transmit (EncodesReport session) (IsBarrier session)
      (fun s => Encoded session s ∧ Conserved s) (Unless transmit session fun _ => True) := by
  apply keeps_of_changes
  · intro s stream pending rest cumulative sink _ encoded conserved forwards _ _
    exact conserved_forwarded encoded conserved forwards.head cumulative sink
  · intros
    trivial
  · intro s subscriptionId generation queueLimit _ conserved _
    have silent : ∀ id g,
        submittedOf id g (s.events ++ [.added subscriptionId generation]) =
          submittedOf id g s.events ∧
        writtenOf id g (s.events ++ [.added subscriptionId generation]) =
          writtenOf id g s.events ∧
        discardedOf id g (s.events ++ [.added subscriptionId generation]) =
          discardedOf id g s.events := by
      intro id g
      rw [submittedOf_append, writtenOf_append, discardedOf_append]
      exact ⟨List.append_nil _, List.append_nil _, List.append_nil _⟩
    refine ⟨fun id g => ?_, fun id g => ?_, fun id g frame member => ?_⟩
    · rw [added_events, added_queued, (silent id g).1, (silent id g).2.1]
      exact conserved.ordered id g
    · rw [added_events, added_queued, (silent id g).1, (silent id g).2.1, (silent id g).2.2]
      exact conserved.accounted id g
    · rw [added_events] at member
      exact conserved.own id g frame (mem_of_mem_append_wrote (by intros; simp) member)
  · intro s stream subscriptionId generation payload cumulative sink _ conserved empty _ _
    exact conserved_sent conserved empty _ _ _ _ _ _
  · intro s stream subscriptionId generation payload _ conserved _ _
    exact conserved_enqueued conserved _ _ _ _
  · intro s subscriptionId generation stream sink books _ conserved found _ _
    exact conserved_retired books conserved found _ _
  · intro s front target rest _ conserved _ _
    exact ⟨conserved.ordered, conserved.accounted, conserved.own⟩
  · intros
    trivial

/-! ## The outstanding frames are the last reports written -/

/-- What the two sides account of one written report. -/
structure Entry where
  subscriptionId : String
  generation : Nat
  sequence : Nat
  bytes : Nat
deriving DecidableEq

def HostFrame.entryOf (frame : HostFrame P E) : Option Entry :=
  match frame with
  | .report _ subscriptionId generation sequence _ =>
      some { subscriptionId, generation, sequence, bytes := Text.size frame + 1 }
  | _ => none

def reportsOf (frames : List (HostFrame P E)) : List Entry := frames.filterMap HostFrame.entryOf

def Frame.entry (frame : Frame (HostFrame P E)) : Entry :=
  { subscriptionId := frame.subscriptionId, generation := frame.generation,
    sequence := frame.sequence, bytes := frame.bytes }

def entryBytes (entries : List Entry) : Nat := (entries.map Entry.bytes).sum

theorem entryBytes_append (front back : List Entry) :
    entryBytes (front ++ back) = entryBytes front + entryBytes back := by
  simp [entryBytes]

theorem entryBytes_entries (frames : List (Frame (HostFrame P E))) :
    entryBytes (frames.map Frame.entry) = frameBytes frames := by
  simp [entryBytes, frameBytes, Function.comp_def, Frame.entry]

theorem reportsOf_append (front back : List (HostFrame P E)) :
    reportsOf (front ++ back) = reportsOf front ++ reportsOf back := by
  simp [reportsOf]

/-- Each frame's cumulative count continues from `base`. -/
def Cumulated : Nat → List (Frame (HostFrame P E)) → Prop
  | _, [] => True
  | base, frame :: rest =>
      frame.cumulativeBytes = base + frame.bytes ∧ Cumulated (base + frame.bytes) rest

theorem cumulated_append (front back : List (Frame (HostFrame P E))) (base : Nat) :
    Cumulated base (front ++ back) ↔
      Cumulated base front ∧ Cumulated (base + frameBytes front) back := by
  induction front generalizing base with
  | nil => simp [Cumulated]
  | cons frame rest ih =>
      simp only [List.cons_append, Cumulated, ih, frameBytes_cons, Nat.add_assoc, and_assoc]

/-- The written reports are the acknowledged ones followed by the outstanding ones, with
the counts of both. -/
structure Ledgered (s : Flow σ P E) (past : List Entry) : Prop where
  reports : reportsOf (writes s.events) = past ++ s.outstanding.map Frame.entry
  count : past.length = s.acknowledgedSequence
  bytes : s.acknowledgedBytes = entryBytes past
  sequences : past.map Entry.sequence = List.range' 1 past.length
  cumulated : Cumulated s.acknowledgedBytes s.outstanding
  total : s.cumulativeTransmittedBytes = s.acknowledgedBytes + frameBytes s.outstanding
  total_le : s.cumulativeTransmittedBytes ≤ maxU64
  next_le : s.nextSequence ≤ maxU64

theorem ledgered_wrote {s s' : Flow σ P E} {past : List Entry} (ledgered : Ledgered s past)
    (frame : Frame (HostFrame P E)) (session : String) (payload : P) {cumulative : Nat}
    (outstanding : s'.outstanding = s.outstanding ++
      [{ frame with
          sequence := s.nextSequence
          encoded := reportEncoder session frame.subscriptionId frame.generation payload
            s.nextSequence
          cumulativeBytes := cumulative }])
    (events : writes s'.events = writes s.events ++
      [reportEncoder session frame.subscriptionId frame.generation payload s.nextSequence])
    (counted : cumulative = s.cumulativeTransmittedBytes +
      (Text.size (reportEncoder session frame.subscriptionId frame.generation payload
        s.nextSequence : HostFrame P E) + 1))
    (countable : cumulative ≤ maxU64) (numbered : s.nextSequence ≠ maxU64)
    (next : s'.nextSequence = s.nextSequence + 1)
    (total : s'.cumulativeTransmittedBytes = cumulative)
    (sequence : s'.acknowledgedSequence = s.acknowledgedSequence)
    (bytes : s'.acknowledgedBytes = s.acknowledgedBytes) : Ledgered s' past where
  reports := by
    rw [events, outstanding, reportsOf_append, ledgered.reports, List.map_append,
      List.append_assoc]
    rfl
  count := by rw [sequence]; exact ledgered.count
  bytes := by rw [bytes]; exact ledgered.bytes
  sequences := ledgered.sequences
  cumulated := by
    rw [outstanding, bytes, cumulated_append]
    refine ⟨ledgered.cumulated, ?_, trivial⟩
    rw [← ledgered.total]
    exact counted
  total := by
    rw [total, bytes, outstanding, frameBytes_append, ← Nat.add_assoc, ← ledgered.total, counted]
    rfl
  total_le := by rw [total]; exact countable
  next_le := by
    have := ledgered.next_le
    omega

theorem ledgered_of_same {s s' : Flow σ P E} {past : List Entry} (ledgered : Ledgered s past)
    (events : reportsOf (writes s'.events) = reportsOf (writes s.events))
    (outstanding : s'.outstanding = s.outstanding) (next : s'.nextSequence = s.nextSequence)
    (total : s'.cumulativeTransmittedBytes = s.cumulativeTransmittedBytes)
    (sequence : s'.acknowledgedSequence = s.acknowledgedSequence)
    (bytes : s'.acknowledgedBytes = s.acknowledgedBytes) : Ledgered s' past where
  reports := by rw [events, outstanding]; exact ledgered.reports
  count := by rw [sequence]; exact ledgered.count
  bytes := by rw [bytes]; exact ledgered.bytes
  sequences := ledgered.sequences
  cumulated := by rw [outstanding, bytes]; exact ledgered.cumulated
  total := by rw [total, bytes, outstanding]; exact ledgered.total
  total_le := by rw [total]; exact ledgered.total_le
  next_le := by rw [next]; exact ledgered.next_le

omit [Text (HostFrame P E)] in
theorem writes_discards (subscriptionId : String) (generation : Nat)
    (frames : List (Frame (HostFrame P E))) :
    writes (frames.map (.discarded subscriptionId generation)) = [] := by
  simp [writes, List.filterMap_map]

theorem ledgered_keeps (transmit : σ → HostFrame P E → Bool × σ) (session : String) :
    Keeps transmit (EncodesReport session) (IsBarrier session)
      (fun s => Encoded session s ∧ ∃ past, Ledgered s past)
      (Unless transmit session fun s => ∃ past, Ledgered s past) := by
  apply keeps_of_changes
  · rintro s stream pending rest cumulative sink - encoded ⟨past, ledgered⟩ forwards ready -
    obtain ⟨payload, encode⟩ := encoded pending (by rw [forwards.head]; simp)
    have counted := ready.counted
    have numbered := ready.numbered
    rw [dequeue_nextSequence] at numbered
    rw [dequeue_nextSequence, dequeue_cumulativeTransmittedBytes, encode] at counted
    refine ⟨past, ledgered_wrote ledgered pending session payload ?_ ?_ counted ready.countable
      numbered rfl rfl rfl rfl⟩
    · rw [forwarded_outstanding, encode]
    · rw [forwarded_events, encode, writes_append]
      rfl
  · rintro s stream pending rest - - ⟨past, ledgered⟩ forwards
    exact ⟨past, ledgered_of_same ledgered rfl rfl rfl rfl rfl rfl⟩
  · rintro s subscriptionId generation queueLimit - ⟨past, ledgered⟩ -
    refine ⟨past, ledgered_of_same ledgered ?_ rfl rfl rfl rfl rfl⟩
    rw [added_events, writes_append]
    exact congrArg _ (List.append_nil _)
  · rintro s stream subscriptionId generation payload cumulative sink - ⟨past, ledgered⟩ - ready -
    refine ⟨past, ledgered_wrote ledgered (s.reportFrame subscriptionId generation
      (reportEncoder session subscriptionId generation payload)) session payload rfl ?_
      ready.counted ready.countable ready.numbered rfl rfl rfl rfl⟩
    rw [sent_events, transmitted_events, writes_append, writes_append]
    exact List.append_nil _
  · rintro s stream subscriptionId generation payload - ⟨past, ledgered⟩ - -
    refine ⟨past, ledgered_of_same ledgered ?_ rfl rfl rfl rfl rfl⟩
    rw [enqueued_events, writes_append]
    exact congrArg _ (List.append_nil _)
  · rintro s subscriptionId generation stream sink books - ⟨past, ledgered⟩ found - -
    refine ⟨past, ?_⟩
    rw [retired_eq books found]
    refine ledgered_of_same ledgered ?_ rfl rfl rfl rfl rfl
    dsimp only
    rw [writes_append, writes_append, writes_discards, List.append_nil, reportsOf_append]
    exact List.append_nil _
  · rintro s front target rest books ⟨past, ledgered⟩ split here
    have cumulated := ledgered.cumulated
    rw [split, cumulated_append] at cumulated
    obtain ⟨-, exact, onward⟩ := cumulated
    have upto : (front ++ [target]).map Frame.sequence =
        List.range' (s.acknowledgedSequence + 1) (front.length + 1) := by
      have consecutive := books.numbered.consecutive
      rw [split, List.append_cons, List.length_append, ← List.range'_append_1,
        List.map_append] at consecutive
      simpa using (List.append_inj consecutive (by simp)).1
    refine ⟨past ++ (front ++ [target]).map Frame.entry, ?_⟩
    have bytes : (s.released target rest).acknowledgedBytes =
        entryBytes (past ++ (front ++ [target]).map Frame.entry) := by
      rw [released_acknowledgedBytes, exact, ledgered.bytes, entryBytes_append, entryBytes_entries,
        frameBytes_append, frameBytes_cons, frameBytes_nil]
      omega
    have length : (past ++ (front ++ [target]).map Frame.entry).length =
        s.acknowledgedSequence + (front.length + 1) := by
      simp [ledgered.count]
    exact
      { reports := by
          rw [released_events, leaving_events, released_outstanding, leaving_outstanding,
            ledgered.reports, split]
          simp
        count := by
          rw [length, released_acknowledgedSequence, here]
          omega
        bytes
        sequences := by
          rw [length, List.map_append, ledgered.sequences, ledgered.count, List.map_map,
            ← List.range'_append_1, Nat.add_comm 1]
          exact congrArg _ upto
        cumulated := by
          rw [released_acknowledgedBytes, released_outstanding, leaving_outstanding, exact]
          exact onward
        total := by
          rw [released_cumulativeTransmittedBytes, leaving_cumulativeTransmittedBytes,
            released_acknowledgedBytes, released_outstanding, leaving_outstanding, exact,
            ledgered.total, split, frameBytes_append, frameBytes_cons]
          omega
        total_le := ledgered.total_le
        next_le := ledgered.next_le }
  · exact id

/-! ## A sink that records what it takes -/

/-- The sink holds the written frames, if it records every text it accepts. -/
theorem recorded_keeps (session : String) (record : σ → List (HostFrame P E))
    (records : ∀ sink text sink', transmit sink text = (true, sink') →
      record sink' = record sink ++ [text]) :
    Keeps transmit (EncodesReport session) (IsBarrier session)
      (fun s => Encoded session s ∧ record s.sink = writes s.events)
      (Unless transmit session fun s => record s.sink = writes s.events) := by
  apply keeps_of_changes
  · intro s stream pending rest cumulative sink _ _ recorded _ _ written
    rw [forwarded_sink, forwarded_events, records _ _ _ written, recorded, writes_append]
    rfl
  · intro s stream pending rest _ _ recorded _
    exact recorded
  · intro s subscriptionId generation queueLimit _ recorded _
    rw [added_sink, added_events, recorded, writes_append]
    exact (List.append_nil _).symm
  · intro s stream subscriptionId generation payload cumulative sink _ recorded _ _ written
    rw [sent_sink, transmitted_sink, sent_events, transmitted_events, records _ _ _ written,
      recorded, writes_append, writes_append]
    exact (List.append_nil _).symm
  · intro s stream subscriptionId generation payload _ recorded _ _
    rw [enqueued_sink, enqueued_events, recorded, writes_append]
    exact (List.append_nil _).symm
  · intro s subscriptionId generation stream sink books _ recorded found _ written
    rw [retired_eq books found]
    dsimp only
    rw [records _ _ _ written, recorded, writes_append, writes_append, writes_discards,
      List.append_nil]
    rfl
  · intro s front target rest _ recorded _ _
    exact recorded
  · exact id

end WotexMatter.Native
