/-
# WotexMatter.Native.AcknowledgeExact -- what an acknowledgement does to the account

`Acknowledge` releases the frames up to one sequence number and then drains the queue.  A drain
only adds: it sends frames behind those that are outstanding (`Drained`), so everything an
acknowledgement takes away is what the loop has released.

Reports are never empty texts (`Written`), as a report is a JSON object.  With room in the counters
a drain then always succeeds, and the answer is that of the comparison with the outstanding frames
(`run_acknowledge_exact`).
-/
import WotexMatter.Native.ReportCreditRuns

set_option autoImplicit false

namespace WotexMatter.Native.ReportCreditManager

open WotexMatter.Theory

variable {σ T : Type} [Text T] {transmit : σ → T → Bool × σ} {s : ReportCreditManager σ T}

/-- An encoder that never returns an empty text. -/
def Written (encode : Nat → T) : Prop := ∀ sequence ≤ maxU64, 0 < Text.size (encode sequence)

/-- Every waiting report has such an encoder. -/
def QueueWritten (s : ReportCreditManager σ T) : Prop :=
  s.nextSequence ≤ maxU64 ∧ ∀ frame ∈ s.queued, Written frame.encode

theorem queueWritten_keeps (accepting : Accepting transmit) :
    Keeps transmit (fun _ _ encode => Written encode) (fun _ _ _ _ => True) QueueWritten
      (fun s => Accounted s ∧ QueueWritten s) :=
  waiting_keeps accepting fun encodes => encodes

/-! ## A drain -/

/-- A drain from `before` to `after` has sent these frames and changed nothing else that an
acknowledgement looks at. -/
structure Drained (before after : ReportCreditManager σ T) (sent : List (Frame T)) : Prop where
  outstanding : after.outstanding = before.outstanding ++ sent
  bytes : after.outstandingBytes = before.outstandingBytes + frameBytes sent
  numbers : ∀ frame ∈ sent, before.nextSequence ≤ frame.sequence
  next : before.nextSequence ≤ after.nextSequence
  acknowledged : after.acknowledgedSequence = before.acknowledgedSequence
  known : ∀ k, (after.streams.lookup k).isSome = (before.streams.lookup k).isSome

theorem Drained.refl (s : ReportCreditManager σ T) : Drained s s [] where
  outstanding := (List.append_nil _).symm
  bytes := rfl
  numbers := fun _ member => nomatch member
  next := le_rfl
  acknowledged := rfl
  known := fun _ => rfl

theorem Drained.forward {before after : ReportCreditManager σ T} {sent : List (Frame T)}
    (drained : Drained before after sent) {stream : Stream} {pending : Frame T}
    {rest : List (Frame T)} (forwards : Forwards after stream pending rest) (cumulative : Nat)
    (sink : σ) :
    ∃ sent, Drained before (after.forwarded stream pending rest cumulative sink) sent := by
  refine ⟨sent ++ [{ pending with
      sequence := after.nextSequence
      encoded := pending.encode after.nextSequence
      cumulativeBytes := cumulative }], ?_, ?_, ?_, ?_, drained.acknowledged, ?_⟩
  · rw [forwarded_outstanding, drained.outstanding, List.append_assoc]
  · rw [forwarded_outstandingBytes, drained.bytes, frameBytes_append, frameBytes_cons,
      frameBytes_nil, Nat.add_zero, Nat.add_assoc]
    rfl
  · intro frame member
    rw [List.mem_append, List.mem_singleton] at member
    rcases member with before | rfl
    · exact drained.numbers frame before
    · exact drained.next
  · rw [forwarded_nextSequence]
    exact drained.next.trans (Nat.le_succ _)
  · intro k
    rw [← drained.known, forwarded_streams, Table.lookup_insert]
    split
    · rename_i same
      rw [same, forwards.found]
      rfl
    · rfl

/-- The counters can number and count whatever a drain has credit for. -/
structure DrainRoom (s : ReportCreditManager σ T) : Prop where
  sequences : s.nextSequence + (kSessionReportCredit - s.outstanding.length) ≤ maxU64
  bytes : s.cumulativeTransmittedBytes + (kSessionByteCredit - s.outstandingBytes) ≤ maxU64

theorem DrainRoom.forward (room : DrainRoom s) {stream : Stream} {pending : Frame T}
    {rest : List (Frame T)} (forwards : Forwards s stream pending rest) :
    s.nextSequence < maxU64 ∧
      s.cumulativeTransmittedBytes + (Text.size (pending.encode s.nextSequence) + 1) ≤ maxU64 ∧
      ∀ sink, DrainRoom (s.forwarded stream pending rest
        (s.cumulativeTransmittedBytes + (Text.size (pending.encode s.nextSequence) + 1)) sink) := by
  obtain ⟨frames, bytes, -, -⟩ := (canTransmit_iff _ _ _).1 forwards.fits
  have sequences := room.sequences
  have counted := room.bytes
  refine ⟨by omega, by omega, fun sink => ⟨?_, ?_⟩⟩
  · rw [forwarded_nextSequence, forwarded_outstanding, List.length_append, List.length_singleton]
    omega
  · rw [forwarded_cumulativeTransmittedBytes, forwarded_outstandingBytes]
    omega

/-- A channel that is up takes a text, and is still up. -/
def Takes (transmit : σ → T → Bool × σ) (up : σ → Prop) : Prop :=
  ∀ sink text, up sink → (transmit sink text).1 = true ∧ up (transmit sink text).2

omit [Text T] in
theorem takes_of_accepting (accepting : Accepting transmit) : Takes transmit fun _ => True :=
  fun sink text _ => ⟨accepting sink text, trivial⟩

/-- **With room in the counters a drain succeeds** as long as the channel is up. -/
theorem drain_succeeds {up : σ → Prop} (takes : Takes transmit up) (ready : up s.sink)
    (books : Accounted s) (written : QueueWritten s) (room : DrainRoom s) :
    (s.drain transmit).1 = true ∧ Accounted (s.drain transmit).2 ∧
      ∃ sent, Drained s (s.drain transmit).2 sent := by
  have forwards : KeepsForward transmit
      (fun s' => up s'.sink ∧ QueueWritten s' ∧ DrainRoom s' ∧ ∃ sent, Drained s s' sent)
      (fun _ => False) := by
    refine ⟨?_, ?_⟩
    · rintro s' stream pending rest cumulative sink - ⟨ready', written', room', sent, drained⟩
        forwards ready accepted
      obtain rfl := ready.counted
      have still := (takes s'.sink (pending.encode s'.nextSequence) ready').2
      rw [accepted] at still
      refine ⟨still, ⟨Nat.lt_of_le_of_ne written'.1 ready.numbered, fun frame member => ?_⟩,
        (room'.forward forwards).2.2 sink, drained.forward forwards _ sink⟩
      refine written'.2 frame ?_
      rw [forwards.head]
      exact List.mem_cons_of_mem _ member
    · rintro s' stream pending rest sink - ⟨ready', written', room', -⟩ forwards refuses
      obtain ⟨numbered, countable, -⟩ := room'.forward forwards
      have nonempty := written'.2 pending (by rw [forwards.head]; simp) _ written'.1
      exact ready_of_accepted forwards (takes _ _ ready').1 nonempty numbered.ne countable refuses
  have outcome := drain_keeps forwards books ⟨ready, written, room, [], Drained.refl s⟩
  unfold Outcome at outcome
  split at outcome
  · rename_i succeeded
    exact ⟨succeeded, outcome.1, outcome.2.1.2.2.2⟩
  · exact outcome.elim

/-! ## The released prefix -/

omit [Text T] in
/-- Numbered frames split at one of them are those up to its number and those beyond. -/
theorem filter_at_sequence {first : Nat} {front rest : List (Frame T)} {target : Frame T}
    (consecutive : (front ++ target :: rest).map Frame.sequence =
      List.range' first (front ++ target :: rest).length) :
    ((front ++ target :: rest).filter fun frame => frame.sequence ≤ target.sequence) =
        front ++ [target] ∧
      ((front ++ target :: rest).filter fun frame => target.sequence < frame.sequence) = rest := by
  have ordered : ((front ++ target :: rest).map Frame.sequence).Pairwise (· < ·) := by
    rw [consecutive]
    exact List.pairwise_lt_range'
  rw [List.map_append, List.map_cons, List.pairwise_append, List.pairwise_cons] at ordered
  obtain ⟨-, ⟨later, -⟩, earlier⟩ := ordered
  have beyond : ∀ frame ∈ rest, target.sequence < frame.sequence := fun frame member =>
    later _ (List.mem_map_of_mem member)
  have below : ∀ frame ∈ front, frame.sequence < target.sequence := fun frame member =>
    earlier _ (List.mem_map_of_mem member) _ List.mem_cons_self
  constructor
  · rw [List.filter_append, List.filter_cons_of_pos (by simp), List.filter_eq_self.2,
      List.filter_eq_nil_iff.2]
    · intro frame member
      simpa using beyond frame member
    · intro frame member
      simpa using (below frame member).le
  · rw [List.filter_append, List.filter_cons_of_neg (by simp), List.filter_eq_nil_iff.2,
      List.filter_eq_self.2, List.nil_append]
    · intro frame member
      simpa using beyond frame member
    · intro frame member
      simpa using (below frame member).le

/-- A stream is forgotten when it is retired and its last outstanding frame is released. -/
theorem released_lookup (books : Accounted s) {front rest : List (Frame T)} {target : Frame T}
    (split : s.outstanding = front ++ target :: rest) (k : String) :
    (s.released target rest).streams.lookup k = none ↔
      s.streams.lookup k = none ∨
        ((s.streams.lookup k).any fun stream => !stream.live) = true ∧
          (∃ frame ∈ front ++ [target], frame.key = k) ∧ ∀ frame ∈ rest, frame.key ≠ k := by
  rw [released_streams, leaving_streams, settled, Table.lookup_filterMap]
  cases found : s.streams.lookup k with
  | none => simp
  | some stream =>
      have ok := books.tabled.stream_ok found
      have count := ok.outstanding_eq
      rw [split, List.append_cons, carried_append] at count
      have left : carried k rest = 0 ↔ ∀ frame ∈ rest, frame.key ≠ k := by
        simp [carried, List.countP_eq_zero]
      rw [Option.bind_some, settle, ← left, ← carried_pos]
      constructor
      · intro gone
        split at gone
        · rename_i forgotten
          have busy := (ok.dead forgotten.1).1
          exact .inr ⟨by simp [forgotten.1], by omega, forgotten.2⟩
        · cases gone
      · rintro (missing | ⟨retired, -, none⟩)
        · cases missing
        · rw [if_pos ⟨by simpa using retired, none⟩]

/-- One acknowledgement after another releases what the later one does alone. -/
theorem released_released (s : ReportCreditManager σ T) (target later : Frame T)
    (front rest : List (Frame T)) :
    (s.released target (front ++ later :: rest)).released later rest = s.released later rest := by
  have settles : settled rest (settled (front ++ later :: rest) s.streams) =
      settled rest s.streams := by
    rw [List.append_cons]
    exact settled_settled s.streams
  simp only [released, leaving, settles]

/-! ## An acknowledgement -/

/-- What an acknowledgement of `sequence` that is accepted does: it takes away the frames up to
`sequence`, gives back their credit, and forgets the retired streams that have lost their last
outstanding frame.  The drain behind it sends frames of its own. -/
structure Acknowledges (transmit : σ → T → Bool × σ) (before after : ReportCreditManager σ T)
    (sequence : Nat) (sent : List (Frame T)) : Prop where
  outstanding : after.outstanding =
    (before.outstanding.filter fun frame => sequence < frame.sequence) ++ sent
  numbers : ∀ frame ∈ sent, before.nextSequence ≤ frame.sequence
  frameCredit : after.snapshot.frameCredit + sent.length = before.snapshot.frameCredit +
    (before.outstanding.filter fun frame => frame.sequence ≤ sequence).length
  byteCredit : after.snapshot.byteCredit + frameBytes sent = before.snapshot.byteCredit +
    frameBytes (before.outstanding.filter fun frame => frame.sequence ≤ sequence)
  forgotten : ∀ k, after.streams.lookup k = none ↔ before.streams.lookup k = none ∨
    ((before.streams.lookup k).any fun stream => !stream.live) = true ∧
      (∃ frame ∈ before.outstanding, frame.sequence ≤ sequence ∧ frame.key = k) ∧
      ∀ frame ∈ before.outstanding, frame.key = k → frame.sequence ≤ sequence
  repeated : ∀ earlier ≤ sequence, ∀ bytes, after.acknowledge transmit earlier bytes = (false, after)

theorem acknowledge_old (transmit : σ → T → Bool × σ) {sequence : Nat}
    (old : sequence ≤ s.acknowledgedSequence) (bytes : Nat) :
    s.acknowledge transmit sequence bytes = (false, s) := by
  rw [acknowledge, if_pos (.inl old)]

/-- The drain behind an accepted acknowledgement succeeds. -/
theorem released_drain (accepting : Accepting transmit) (written : QueueWritten s) (room : Room s)
    {target : Frame T} {rest : List (Frame T)} (balanced : Accounted (s.released target rest)) :
    ((s.released target rest).drain transmit).1 = true ∧
      Accounted ((s.released target rest).drain transmit).2 ∧
      ∃ sent, Drained (s.released target rest) ((s.released target rest).drain transmit).2 sent := by
  have sequences := room.sequences
  have bytes := room.bytes
  refine drain_succeeds (takes_of_accepting accepting) trivial balanced written ⟨?_, ?_⟩
  · rw [released_nextSequence, leaving_nextSequence]
    unfold kMaximumQueuedReports at sequences
    unfold kSessionReportCredit
    omega
  · rw [released_cumulativeTransmittedBytes, leaving_cumulativeTransmittedBytes]
    unfold kMaximumQueuedBytes at bytes
    unfold kSessionByteCredit
    omega

theorem acknowledge_acknowledges (books : Accounted s) {front rest sent : List (Frame T)}
    {target : Frame T} {after : ReportCreditManager σ T}
    (split : s.outstanding = front ++ target :: rest) (balanced : Accounted after)
    (drained : Drained (s.released target rest) after sent) :
    Acknowledges transmit s after target.sequence sent := by
  have consecutive := books.numbered.consecutive
  rw [split] at consecutive
  obtain ⟨gone, left⟩ := filter_at_sequence consecutive
  rw [← split] at gone left
  have before := snapshot_of_le books.numbered.frames_le books.numbered.bytes_le
  have behind := snapshot_of_le balanced.numbered.frames_le balanced.numbered.bytes_le
  have frames := congrArg List.length drained.outstanding
  have bytes := drained.bytes
  have held := books.numbered.bytes_eq
  rw [released_outstanding, leaving_outstanding, List.length_append] at frames
  rw [released_outstandingBytes, leaving_outstandingBytes] at bytes
  rw [split, List.append_cons, frameBytes_append] at held
  have count : s.outstanding.length = (front ++ [target]).length + rest.length := by
    rw [split, List.append_cons, List.length_append]
  refine ⟨?_, drained.numbers, ?_, ?_, ?_, ?_⟩
  · rw [left]
    exact drained.outstanding
  · rw [gone]
    omega
  · rw [gone]
    omega
  · intro k
    have left_iff : (∀ frame ∈ rest, frame.key ≠ k) ↔
        ∀ frame ∈ s.outstanding, frame.key = k → frame.sequence ≤ target.sequence := by
      simp only [← left, List.mem_filter, decide_eq_true_eq, and_imp, ne_eq]
      exact forall₂_congr fun frame _ => by rw [imp_not_comm, not_lt]
    have same : after.streams.lookup k = none ↔
        (s.released target rest).streams.lookup k = none := by
      rw [← Option.not_isSome_iff_eq_none, drained.known, Option.not_isSome_iff_eq_none]
    rw [same, released_lookup books split, ← gone, left_iff]
    simp only [List.mem_filter, decide_eq_true_eq, and_assoc]
  · intro earlier old bytes
    refine acknowledge_old transmit ?_ bytes
    rw [drained.acknowledged]
    exact old

/-- An answer that is true names an outstanding frame and its byte count. -/
theorem acknowledge_named {sequence bytes : Nat}
    (accepted : (s.acknowledge transmit sequence bytes).1 = true) :
    ∃ frame ∈ s.outstanding, frame.sequence = sequence ∧ frame.cumulativeBytes = bytes := by
  unfold acknowledge at accepted
  split at accepted
  · cases accepted
  split at accepted
  · cases accepted
  · rename_i target found
    split at accepted
    · cases accepted
    · rename_i counted
      exact ⟨target, List.mem_of_find?_eq_some found, by simpa using List.find?_some found,
        not_not.1 counted⟩

/-- An acknowledgement of an outstanding frame is accepted. -/
theorem acknowledge_outstanding (accepting : Accepting transmit) (books : Accounted s)
    (written : QueueWritten s) (room : Room s) {frame : Frame T} (member : frame ∈ s.outstanding) :
    (s.acknowledge transmit frame.sequence frame.cumulativeBytes).1 = true ∧
      ∃ sent, Acknowledges transmit s
        (s.acknowledge transmit frame.sequence frame.cumulativeBytes).2 frame.sequence sent := by
  obtain ⟨front, rest, split, -, balanced, result⟩ := acknowledge_accepts transmit books member
  obtain ⟨succeeded, books', sent, drained⟩ := released_drain accepting written room balanced
  rw [result]
  exact ⟨succeeded, sent, acknowledge_acknowledges books split books' drained⟩

/-- With an empty queue an accepted acknowledgement is the release alone. -/
theorem acknowledge_quiet (transmit : σ → T → Bool × σ) (books : Accounted s)
    (empty : s.queued = []) {frame : Frame T} (member : frame ∈ s.outstanding) :
    ∃ front rest, s.outstanding = front ++ frame :: rest ∧ Accounted (s.released frame rest) ∧
      s.acknowledge transmit frame.sequence frame.cumulativeBytes = (true, s.released frame rest) := by
  obtain ⟨front, rest, split, -, balanced, result⟩ := acknowledge_accepts transmit books member
  refine ⟨front, rest, split, balanced, ?_⟩
  rw [result, drain, released_queued, leaving_queued, empty, drainLoop]

/-- **A later acknowledgement stands for the earlier one** where nothing waits. -/
theorem acknowledge_later (books : Accounted s) (empty : s.queued = []) {sequence bytes : Nat}
    {later laterBytes : Nat} (less : sequence < later)
    (accepted : (s.acknowledge transmit later laterBytes).1 = true) :
    (s.acknowledge transmit sequence bytes).2.acknowledge transmit later laterBytes =
      s.acknowledge transmit later laterBytes := by
  rcases acknowledge_cases transmit books sequence bytes with
    refused | ⟨_, target, _, place, -, rfl, rfl, -, -⟩
  · rw [refused]
  obtain ⟨front, rest, split, balanced, first⟩ := acknowledge_quiet transmit books empty
    (show target ∈ s.outstanding by rw [place]; simp)
  obtain ⟨frame, member, rfl, rfl⟩ := acknowledge_named accepted
  obtain ⟨front', rest', split', -, second⟩ := acknowledge_quiet transmit books empty member
  have consecutive := books.numbered.consecutive
  have left := consecutive
  rw [split] at left
  have left := (filter_at_sequence left).2
  rw [split'] at consecutive
  have behind := (filter_at_sequence consecutive).2
  rw [← split] at left
  rw [← split'] at behind
  have there : frame ∈ rest := by
    rw [← left, List.mem_filter]
    exact ⟨member, by simpa using less⟩
  obtain ⟨front'', rest'', split'', -, third⟩ := acknowledge_quiet transmit balanced
    (by rw [released_queued, leaving_queued, empty])
    (show frame ∈ (s.released target rest).outstanding by
      rw [released_outstanding, leaving_outstanding]
      exact there)
  rw [released_outstanding, leaving_outstanding] at split''
  have same : rest'' = rest' := by
    have inner := balanced.numbered.consecutive
    rw [released_outstanding, leaving_outstanding, split''] at inner
    have inner := (filter_at_sequence inner).2
    rw [← split'', ← left, List.filter_filter] at inner
    rw [← inner, ← behind]
    refine List.filter_congr fun other _ => ?_
    simp only [Bool.and_eq_decide, decide_eq_true_eq, decide_eq_decide]
    exact ⟨And.left, fun beyond => ⟨beyond, less.trans beyond⟩⟩
  rw [first, third, second, same, split'', same, released_released]

/-- **An acknowledgement is exact** in every state of every run whose texts are all accepted and
never empty, while the counters have room.  It is accepted if and only if an outstanding frame has
its sequence number and byte count; it changes nothing where it is refused, and releases the frames
up to that number, with their credit and the retired streams that end with them, where it is
accepted.  With an empty queue a later one does what both do. -/
theorem run_acknowledge_exact (accepting : Accepting transmit) (sink : σ) (calls : List (Call T))
    (encodes : ∀ c ∈ calls, c.Encodes fun _ _ encode => Written encode)
    (room : Room (run transmit { sink } calls)) (sequence bytes : Nat) :
    (((run transmit { sink } calls).acknowledge transmit sequence bytes).1 = true ↔
      ∃ frame ∈ (run transmit { sink } calls).outstanding,
        frame.sequence = sequence ∧ frame.cumulativeBytes = bytes) ∧
    (((run transmit { sink } calls).acknowledge transmit sequence bytes).1 = false →
      ((run transmit { sink } calls).acknowledge transmit sequence bytes).2 =
        run transmit { sink } calls) ∧
    (((run transmit { sink } calls).acknowledge transmit sequence bytes).1 = true →
      ∃ sent, Acknowledges transmit (run transmit { sink } calls)
        ((run transmit { sink } calls).acknowledge transmit sequence bytes).2 sequence sent) ∧
    ((run transmit { sink } calls).queued = [] → ∀ later laterBytes, sequence < later →
      ((run transmit { sink } calls).acknowledge transmit later laterBytes).1 = true →
      ((run transmit { sink } calls).acknowledge transmit sequence bytes).2.acknowledge transmit
          later laterBytes =
        (run transmit { sink } calls).acknowledge transmit later laterBytes) := by
  obtain ⟨books, written⟩ := run_keeps (queueWritten_keeps accepting) calls encodes
    (accounted_initial sink) ⟨show 1 ≤ maxU64 by decide, fun _ member => nomatch member⟩
  generalize run transmit { sink } calls = s at *
  have outstanding : ∀ {frame}, frame ∈ s.outstanding → _ := fun member =>
    acknowledge_outstanding accepting books written room member
  refine ⟨⟨acknowledge_named, ?_⟩, ?_, ?_, fun empty later laterBytes less accepted =>
    acknowledge_later books empty less accepted⟩
  · rintro ⟨frame, member, rfl, rfl⟩
    exact (outstanding member).1
  · intro refused
    rcases acknowledge_cases transmit books sequence bytes with
      same | ⟨_, target, _, place, -, rfl, rfl, -, -⟩
    · rw [same]
    · rw [(outstanding (show target ∈ s.outstanding by rw [place]; simp)).1] at refused
      cases refused
  · intro accepted
    obtain ⟨frame, member, rfl, rfl⟩ := acknowledge_named accepted
    exact (outstanding member).2

/-- Three reports of a stream that is then retired. -/
def threeReports : List (Call String) :=
  [.addStream "a" 1 4, .submit "a" 1 (fun _ => "r"), .submit "a" 1 (fun _ => "r"),
    .submit "a" 1 (fun _ => "r"), .retire "a" 1 "b"]

/-- All three are acknowledged at once, and the stream is forgotten. -/
theorem run_acknowledge_exact_three :
    ((run record { sink := [] } threeReports).acknowledge record 3 6).1 = true ∧
      ∃ sent, Acknowledges record (run record { sink := [] } threeReports)
        ((run record { sink := [] } threeReports).acknowledge record 3 6).2 3 sent := by
  have accepting : Accepting record := fun _ _ => rfl
  have written : Written (fun _ => "r") := by
    intro sequence _
    show 0 < Text.size "r"
    decide
  have exact := run_acknowledge_exact (T := String) accepting [] threeReports
    (fun c member => by
      simp only [threeReports, List.mem_cons, List.not_mem_nil, or_false] at member
      rcases member with rfl | rfl | rfl | rfl | rfl
      · trivial
      · exact written
      · exact written
      · exact written
      · trivial)
    ⟨by decide, by decide⟩ 3 6
  have accepted : ((run record { sink := [] } threeReports).acknowledge record 3 6).1 = true := by
    decide
  exact ⟨accepted, exact.2.2.1 accepted⟩

/-- Two reports are outstanding and two wait, the last of which is an empty text at the number
it is drained with. -/
def emptyWaiting : List (Call String) :=
  [.addStream "a" 1 2, .submit "a" 1 (fun _ => "r"), .submit "a" 1 (fun _ => "r"),
    .submit "a" 1 (fun _ => "r"), .submit "a" 1 (fun sequence => if sequence = 4 then "" else "r")]

/-- The acknowledgement of an outstanding frame is answered with failure, and its frames are
gone. -/
theorem run_acknowledge_empty :
    Accepting record ∧ Room (run record { sink := [] } emptyWaiting) ∧
      (∃ frame ∈ (run record { sink := [] } emptyWaiting).outstanding,
        frame.sequence = 2 ∧ frame.cumulativeBytes = 4) ∧
      ((run record { sink := [] } emptyWaiting).acknowledge record 2 4).1 = false ∧
      (∀ frame ∈ ((run record { sink := [] } emptyWaiting).acknowledge record 2 4).2.outstanding,
        frame.sequence ≠ 2) := by
  exact ⟨fun _ _ => rfl, ⟨by decide, by decide⟩, by decide, by decide, by decide⟩

end WotexMatter.Native.ReportCreditManager
