/-
# WotexMatter.Native.ReportCreditInvariant -- the books of the credit account balance

`AccountedFrom first s` says that every counter of the account is the total it
stands for: the byte counters are the sums over the two queues, each stream's
counts are the numbers of its frames, and the outstanding frames carry the
consecutive sequence numbers from `first`.  In a state between two calls `first`
is `acknowledged_sequence_ + 1` (`Accounted`); inside the loop of `Acknowledge` it
runs ahead of that field, which is why it is a parameter.

Each state change the operations are made of keeps the books balanced:
`added`, `transmitted`, `enqueued`, `dequeue`, `retired` and `releaseFrame`.  The
stream tables they leave are given by `lookup`, so no later proof unfolds a loop.
-/
import WotexMatter.Native.ReportCredit

set_option autoImplicit false

namespace WotexMatter.Native

open WotexMatter.Theory

variable {σ T : Type} [Text T]

/-- The credit a frame takes: its text and the newline. -/
def Frame.bytes (frame : Frame T) : Nat := Text.size frame.encoded + 1

omit [Text T] in
/-- How many of `frames` belong to the stream at `k`. -/
def carried (k : String) (frames : List (Frame T)) : Nat :=
  frames.countP fun frame => frame.key == k

def frameBytes (frames : List (Frame T)) : Nat := (frames.map Frame.bytes).sum

section Totals

omit [Text T] in
@[simp] theorem carried_nil (k : String) : carried k ([] : List (Frame T)) = 0 := rfl

omit [Text T] in
theorem carried_cons (k : String) (frame : Frame T) (rest : List (Frame T)) :
    carried k (frame :: rest) = carried k rest + if frame.key = k then 1 else 0 := by
  simp [carried, List.countP_cons]

omit [Text T] in
theorem carried_append (k : String) (front back : List (Frame T)) :
    carried k (front ++ back) = carried k front + carried k back :=
  List.countP_append

omit [Text T] in
theorem carried_snoc (k : String) (front : List (Frame T)) (frame : Frame T) :
    carried k (front ++ [frame]) = carried k front + if frame.key = k then 1 else 0 := by
  rw [carried_append, carried_cons, carried_nil, Nat.zero_add]

omit [Text T] in
theorem carried_pos {k : String} {frames : List (Frame T)} :
    0 < carried k frames ↔ ∃ frame ∈ frames, frame.key = k := by
  simp [carried, List.countP_pos_iff]

@[simp] theorem frameBytes_nil : frameBytes ([] : List (Frame T)) = 0 := rfl

@[simp] theorem frameBytes_cons (frame : Frame T) (rest : List (Frame T)) :
    frameBytes (frame :: rest) = frame.bytes + frameBytes rest := by
  simp [frameBytes]

@[simp] theorem frameBytes_append (front back : List (Frame T)) :
    frameBytes (front ++ back) = frameBytes front + frameBytes back := by
  simp [frameBytes]

end Totals

/-- The outstanding frames are numbered from `first` on and hold at most the
session's credit. -/
structure Numbered (first nextSequence outstandingBytes : Nat) (outstanding : List (Frame T)) :
    Prop where
  consecutive : outstanding.map Frame.sequence = List.range' first outstanding.length
  next : nextSequence = first + outstanding.length
  bytes_eq : outstandingBytes = frameBytes outstanding
  bytes_le : outstandingBytes ≤ kSessionByteCredit
  frames_le : outstanding.length ≤ kSessionReportCredit

/-- The queue's reservation is the sum of its frames and within its limits. -/
structure Reserved (queuedBytes : Nat) (queued : List (Frame T)) : Prop where
  bytes_eq : queuedBytes = frameBytes queued
  bytes_le : queuedBytes ≤ kMaximumQueuedBytes
  frames_le : queued.length ≤ kMaximumQueuedReports

omit [Text T] in
/-- One entry of the stream table agrees with the two queues. -/
structure StreamOk (k : String) (stream : Stream) (outstanding queued : List (Frame T)) :
    Prop where
  outstanding_eq : stream.outstanding = carried k outstanding
  outstanding_le : stream.outstanding ≤ min kStreamReportCredit stream.queueLimit
  queued_eq : stream.queued = carried k queued
  dead : stream.live = false → 0 < stream.outstanding ∧ stream.queued = 0
  limit_pos : 0 < stream.queueLimit
  limit_le : stream.queueLimit ≤ 10000

omit [Text T] in
/-- The stream table as a whole. -/
structure Tabled (streams : Table String Stream) (outstanding queued : List (Frame T)) :
    Prop where
  stream_ok : ∀ {k stream}, streams.lookup k = some stream →
    StreamOk k stream outstanding queued
  outstanding_known : ∀ frame ∈ outstanding, ∃ stream, streams.lookup frame.key = some stream
  queued_live : ∀ frame ∈ queued, ∃ stream, streams.lookup frame.key = some stream ∧
    stream.live = true
  live_le : Table.count (fun stream : Stream => stream.live) streams ≤ 64
  size_le : Table.size streams ≤ 128

/-- Every counter is the total it stands for, the outstanding frames being numbered
from `first` on. -/
structure AccountedFrom (first : Nat) (s : ReportCreditManager σ T) : Prop where
  numbered : Numbered first s.nextSequence s.outstandingBytes s.outstanding
  reserved : Reserved s.queuedBytes s.queued
  tabled : Tabled s.streams s.outstanding s.queued
  unwrapped : s.wrapped = false

/-- The representation invariant between two calls. -/
def Accounted (s : ReportCreditManager σ T) : Prop :=
  AccountedFrom (s.acknowledgedSequence + 1) s

/-! ## Changing one entry of the stream table -/

namespace Tabled

omit [Text T]

variable {streams : Table String Stream} {outstanding queued outstanding' queued' : List (Frame T)}
  {k : String} {stream : Stream}

/-- A frame whose count elsewhere is unchanged still has its stream. -/
theorem known_of_carried {frames frames' : List (Frame T)} {p : Stream → Prop}
    (known : ∀ frame ∈ frames, ∃ stream, streams.lookup frame.key = some stream ∧ p stream)
    {frame : Frame T} (same : carried frame.key frames' = carried frame.key frames)
    (member : frame ∈ frames') : ∃ stream, streams.lookup frame.key = some stream ∧ p stream := by
  have carries : 0 < carried frame.key frames := same ▸ carried_pos.2 ⟨frame, member, rfl⟩
  obtain ⟨other, otherMember, sameKey⟩ := carried_pos.1 carries
  rw [← sameKey]
  exact known other otherMember

theorem insert (books : Tabled streams outstanding queued)
    (elsewhere : ∀ k', k' ≠ k → carried k' outstanding' = carried k' outstanding ∧
      carried k' queued' = carried k' queued)
    (ok : StreamOk k stream outstanding' queued')
    (live_le : Table.count (fun stream : Stream => stream.live) (streams.insert k stream) ≤ 64)
    (size_le : Table.size (streams.insert k stream) ≤ 128) :
    Tabled (streams.insert k stream) outstanding' queued' where
  stream_ok := by
    intro k' found' found
    rw [Table.lookup_insert] at found
    split at found
    · rename_i same
      obtain rfl := Option.some.inj found
      exact same ▸ ok
    · rename_i different
      have old := books.stream_ok found
      exact
        { outstanding_eq := by rw [(elsewhere k' different).1]; exact old.outstanding_eq
          outstanding_le := old.outstanding_le
          queued_eq := by rw [(elsewhere k' different).2]; exact old.queued_eq
          dead := old.dead
          limit_pos := old.limit_pos
          limit_le := old.limit_le }
  outstanding_known := by
    intro frame member
    rw [Table.lookup_insert]
    split
    · exact ⟨stream, rfl⟩
    · rename_i different
      obtain ⟨found, hit, -⟩ := known_of_carried (p := fun _ => True)
        (fun frame member => (books.outstanding_known frame member).imp fun _ h => ⟨h, trivial⟩)
        (elsewhere frame.key different).1 member
      exact ⟨found, hit⟩
  queued_live := by
    intro frame member
    rw [Table.lookup_insert]
    split
    · rename_i same
      refine ⟨stream, rfl, ?_⟩
      by_contra notLive
      have none := (ok.dead (by simpa using notLive)).2
      rw [ok.queued_eq] at none
      exact absurd (carried_pos.2 ⟨frame, member, same⟩) (by omega)
    · rename_i different
      exact known_of_carried books.queued_live (elsewhere frame.key different).2 member
  live_le := live_le
  size_le := size_le

/-- Rewriting a stream that stays as live as it was. -/
theorem update (books : Tabled streams outstanding queued) {old : Stream}
    (found : streams.lookup k = some old)
    (elsewhere : ∀ k', k' ≠ k → carried k' outstanding' = carried k' outstanding ∧
      carried k' queued' = carried k' queued)
    (ok : StreamOk k stream outstanding' queued') (live : stream.live = true → old.live = true) :
    Tabled (streams.insert k stream) outstanding' queued' := by
  apply books.insert elsewhere ok
  · exact (Table.count_insert_of_lookup_le found live).trans books.live_le
  · rw [Table.size_insert_of_lookup found]
    exact books.size_le

/-- Forgetting a stream none of whose frames is left. -/
theorem erase (books : Tabled streams outstanding queued)
    (elsewhere : ∀ k', k' ≠ k → carried k' outstanding' = carried k' outstanding ∧
      carried k' queued' = carried k' queued)
    (noneOutstanding : carried k outstanding' = 0) (noneQueued : carried k queued' = 0) :
    Tabled (streams.erase k) outstanding' queued' where
  stream_ok := by
    intro k' stream' found
    rw [Table.lookup_erase] at found
    split at found
    · cases found
    · rename_i different
      have old := books.stream_ok found
      exact
        { outstanding_eq := by rw [(elsewhere k' different).1]; exact old.outstanding_eq
          outstanding_le := old.outstanding_le
          queued_eq := by rw [(elsewhere k' different).2]; exact old.queued_eq
          dead := old.dead
          limit_pos := old.limit_pos
          limit_le := old.limit_le }
  outstanding_known := by
    intro frame member
    have different : frame.key ≠ k := by
      rintro rfl
      exact absurd (carried_pos.2 ⟨frame, member, rfl⟩) (by omega)
    rw [Table.lookup_erase, if_neg different]
    obtain ⟨found, hit, -⟩ := known_of_carried (p := fun _ => True)
      (fun frame member => (books.outstanding_known frame member).imp fun _ h => ⟨h, trivial⟩)
      (elsewhere frame.key different).1 member
    exact ⟨found, hit⟩
  queued_live := by
    intro frame member
    have different : frame.key ≠ k := by
      rintro rfl
      exact absurd (carried_pos.2 ⟨frame, member, rfl⟩) (by omega)
    rw [Table.lookup_erase, if_neg different]
    exact known_of_carried books.queued_live (elsewhere frame.key different).2 member
  live_le := (Table.count_erase_le _ _ _).trans books.live_le
  size_le := (Table.size_erase_le _ _).trans books.size_le

/-- Frames of an unknown stream are in neither queue. -/
theorem carried_of_fresh (books : Tabled streams outstanding queued)
    (fresh : streams.lookup k = none) : carried k outstanding = 0 ∧ carried k queued = 0 := by
  constructor
  · by_contra carries
    obtain ⟨frame, member, rfl⟩ := carried_pos.1 (Nat.pos_of_ne_zero carries)
    obtain ⟨stream, found⟩ := books.outstanding_known frame member
    rw [fresh] at found
    cases found
  · by_contra carries
    obtain ⟨frame, member, rfl⟩ := carried_pos.1 (Nat.pos_of_ne_zero carries)
    obtain ⟨stream, found, -⟩ := books.queued_live frame member
    rw [fresh] at found
    cases found

end Tabled

namespace ReportCreditManager

variable {first : Nat} {s : ReportCreditManager σ T}

/-- A new account, whatever it writes to. -/
theorem accounted_initial (sink : σ) : Accounted ({ sink } : ReportCreditManager σ T) where
  numbered := ⟨rfl, rfl, rfl, Nat.zero_le _, Nat.zero_le _⟩
  reserved := ⟨rfl, Nat.zero_le _, Nat.zero_le _⟩
  tabled :=
    { stream_ok := fun found => by simp at found
      outstanding_known := fun _ member => by simp at member
      queued_live := fun _ member => by simp at member
      live_le := by simp [Table.count]
      size_le := by simp [Table.size] }
  unwrapped := rfl

/-! ## Adding a stream -/

omit [Text T] in
/-- The tests of `AddStream`. -/
structure Admits (s : ReportCreditManager σ T) (subscriptionId : String)
    (generation queueLimit : Nat) : Prop where
  named : subscriptionId.isEmpty = false
  positive : 0 < generation
  limit_pos : 0 < queueLimit
  limit_le : queueLimit ≤ 10000
  live_lt : s.liveStreams < 64
  size_lt : Table.size s.streams < 128
  fresh : s.streams.lookup (key subscriptionId generation) = none

omit [Text T] in
theorem addStream_cases (s : ReportCreditManager σ T) (subscriptionId : String)
    (generation queueLimit : Nat) :
    (s.addStream subscriptionId generation queueLimit = (false, s)) ∨
      (Admits s subscriptionId generation queueLimit ∧
        s.addStream subscriptionId generation queueLimit =
          (true, s.added subscriptionId generation queueLimit)) := by
  unfold addStream
  split
  · exact Or.inl rfl
  · rename_i admitted
    push Not at admitted
    obtain ⟨named, positive, limitPos, limitLe, liveLt, sizeLt, fresh⟩ := admitted
    refine Or.inr ⟨⟨by simpa using named, by omega, by omega, by omega, liveLt, sizeLt, ?_⟩, rfl⟩
    simpa [stream?] using fresh

theorem added_accounted (books : AccountedFrom first s) {subscriptionId : String}
    {generation queueLimit : Nat} (admits : Admits s subscriptionId generation queueLimit) :
    AccountedFrom first (s.added subscriptionId generation queueLimit) where
  numbered := books.numbered
  reserved := books.reserved
  tabled := by
    obtain ⟨noneOutstanding, noneQueued⟩ := books.tabled.carried_of_fresh admits.fresh
    apply books.tabled.insert (fun _ _ => ⟨rfl, rfl⟩)
    · exact
        { outstanding_eq := noneOutstanding.symm
          outstanding_le := Nat.zero_le _
          queued_eq := noneQueued.symm
          dead := fun isDead => by cases isDead
          limit_pos := admits.limit_pos
          limit_le := admits.limit_le }
    · exact (Table.count_insert_le _ _ _ _).trans admits.live_lt
    · exact (Table.size_insert_le _ _ _).trans admits.size_lt
  unwrapped := books.unwrapped

/-! ## Writing and queueing a frame -/

omit [Text T] in
theorem canTransmit_iff (s : ReportCreditManager σ T) (stream : Stream) (bytes : Nat) :
    s.canTransmit stream bytes = true ↔
      s.outstanding.length < kSessionReportCredit ∧
        s.outstandingBytes + bytes ≤ kSessionByteCredit ∧
        (s.outstandingBytes ≤ kSessionByteCredit) ∧
        stream.outstanding < min kStreamReportCredit stream.queueLimit := by
  simp only [canTransmit, Bool.and_eq_true, decide_eq_true_eq]
  constructor
  · rintro ⟨⟨⟨frames, held⟩, room⟩, share⟩
    exact ⟨frames, by omega, held, share⟩
  · rintro ⟨frames, room, held, share⟩
    exact ⟨⟨⟨frames, held⟩, by omega⟩, share⟩

theorem transmitted_accounted (books : AccountedFrom first s) {stream : Stream} {frame : Frame T}
    (found : s.streams.lookup frame.key = some stream)
    (fits : s.canTransmit stream (Text.size (frame.encode s.nextSequence) + 1) = true)
    (cumulative : Nat) (sink : σ) :
    AccountedFrom first (s.transmitted stream frame cumulative sink) := by
  obtain ⟨frames, room, -, share⟩ := (canTransmit_iff _ _ _).1 fits
  have old := books.tabled.stream_ok found
  refine ⟨?_, books.reserved, ?_, books.unwrapped⟩
  · refine ⟨?_, ?_, ?_, room, ?_⟩
    · simp [books.numbered.consecutive, List.range'_concat, books.numbered.next]
    · simp [books.numbered.next, Nat.add_assoc]
    · simp [books.numbered.bytes_eq, Frame.bytes]
    · simpa using Nat.succ_le_of_lt frames
  · apply books.tabled.update found
    · intro k different
      refine ⟨?_, rfl⟩
      rw [transmitted_outstanding, carried_snoc, if_neg (fun same => different same.symm),
        Nat.add_zero]
    · exact
        { outstanding_eq := by simp [carried_snoc, Frame.key, old.outstanding_eq]
          outstanding_le := share
          queued_eq := old.queued_eq
          dead := fun isDead => ⟨Nat.succ_pos _, (old.dead isDead).2⟩
          limit_pos := old.limit_pos
          limit_le := old.limit_le }
    · exact id

/-- The queue has room for `frame`. -/
structure HasRoom (s : ReportCreditManager σ T) (stream : Stream) (frame : Frame T) : Prop where
  frames_lt : s.queued.length < kMaximumQueuedReports
  bytes_le : s.queuedBytes + frame.bytes ≤ kMaximumQueuedBytes
  share_lt : stream.queued < stream.queueLimit

theorem enqueued_accounted (books : AccountedFrom first s) {stream : Stream} {frame : Frame T}
    (found : s.streams.lookup frame.key = some stream) (live : stream.live = true)
    (room : HasRoom s stream frame) : AccountedFrom first (s.enqueued stream frame) := by
  have old := books.tabled.stream_ok found
  refine ⟨books.numbered, ⟨?_, room.bytes_le, ?_⟩, ?_, books.unwrapped⟩
  · simp [books.reserved.bytes_eq, Frame.bytes]
  · simpa using Nat.succ_le_of_lt room.frames_lt
  · apply books.tabled.update found
    · intro k different
      refine ⟨rfl, ?_⟩
      rw [enqueued_queued, carried_snoc, if_neg (fun same => different same.symm), Nat.add_zero]
    · exact
        { outstanding_eq := old.outstanding_eq
          outstanding_le := old.outstanding_le
          queued_eq := by rw [enqueued_queued, carried_snoc, if_pos rfl, ← old.queued_eq]
          dead := fun isDead => by rw [live] at isDead; cases isDead
          limit_pos := old.limit_pos
          limit_le := old.limit_le }
    · exact id

/-! ## Taking a frame off the queue -/

theorem small_of_le_credit {n : Nat} (bound : n ≤ kMaximumQueuedBytes) : n < 2 ^ 64 := by
  unfold kMaximumQueuedBytes at bound
  omega

/-- On balanced books neither subtraction of `dequeue` falls below zero. -/
theorem dequeue_eq (books : AccountedFrom first s) {stream : Stream} {pending : Frame T}
    {rest : List (Frame T)} (head : s.queued = pending :: rest)
    (found : s.streams.lookup pending.key = some stream) :
    s.dequeue stream pending rest =
      { s with
        queuedBytes := frameBytes rest
        streams := s.streams.insert pending.key
          { stream with queued := carried pending.key rest }
        queued := rest } := by
  have bytes : s.queuedBytes = (Text.size pending.encoded + 1) + frameBytes rest := by
    rw [books.reserved.bytes_eq, head, frameBytes_cons, Frame.bytes]
  have count : stream.queued = carried pending.key rest + 1 := by
    rw [(books.tabled.stream_ok found).queued_eq, head, carried_cons, if_pos rfl]
  have framesLe := books.reserved.frames_le
  have carriedLe : carried pending.key rest ≤ rest.length := List.countP_le_length
  rw [head, List.length_cons, kMaximumQueuedReports] at framesLe
  have bytesLe := small_of_le_credit books.reserved.bytes_le
  have leftBytes : subSize s.queuedBytes (Text.size pending.encoded + 1) = frameBytes rest := by
    rw [subSize_of_le bytesLe (by omega)]
    omega
  have leftCount : subSize stream.queued 1 = carried pending.key rest := by
    rw [subSize_of_le (by omega) (by omega)]
    omega
  have enough : ¬ s.queuedBytes < Text.size pending.encoded + 1 := by omega
  have counted : ¬ stream.queued < 1 := by omega
  simp only [dequeue, leftBytes, leftCount, books.unwrapped, enough, counted, decide_false,
    Bool.or_false]

theorem dequeue_accounted (books : AccountedFrom first s) {stream : Stream} {pending : Frame T}
    {rest : List (Frame T)} (head : s.queued = pending :: rest)
    (found : s.streams.lookup pending.key = some stream) (live : stream.live = true) :
    AccountedFrom first (s.dequeue stream pending rest) := by
  rw [dequeue_eq books head found]
  have old := books.tabled.stream_ok found
  have bytesLe := books.reserved.bytes_le
  have framesLe := books.reserved.frames_le
  rw [books.reserved.bytes_eq, head, frameBytes_cons] at bytesLe
  rw [head, List.length_cons] at framesLe
  refine ⟨books.numbered, ⟨rfl, (Nat.le_add_left _ _).trans bytesLe,
    (Nat.le_succ _).trans framesLe⟩, ?_, books.unwrapped⟩
  apply books.tabled.update found
  · intro k different
    refine ⟨rfl, ?_⟩
    rw [head, carried_cons, if_neg (fun same => different same.symm), Nat.add_zero]
  · exact
      { outstanding_eq := old.outstanding_eq
        outstanding_le := old.outstanding_le
        queued_eq := rfl
        dead := fun isDead => by rw [live] at isDead; cases isDead
        limit_pos := old.limit_pos
        limit_le := old.limit_le }
  · exact id

/-! ## Retiring a stream -/

omit [Text T] in
/-- `Retire` recognises its frames by the pair; the table does so by the key. -/
theorem owned_iff (frame : Frame T) (subscriptionId : String) (generation : Nat) :
    (frame.subscriptionId = subscriptionId ∧ frame.generation = generation) ↔
      (frame.key == key subscriptionId generation) = true := by
  rw [beq_iff_eq, Frame.key, key_inj]

/-- The discards write nothing. -/
theorem discardLoop_sink (subscriptionId : String) (generation : Nat) (frames : List (Frame T))
    (t : ReportCreditManager σ T) :
    (discardLoop subscriptionId generation frames t).sink = t.sink := by
  induction frames generalizing t with
  | nil => rfl
  | cons frame rest ih =>
      rw [discardLoop]
      split <;> exact ih _

theorem frameBytes_filter (p : Frame T → Bool) (frames : List (Frame T)) :
    frameBytes frames = frameBytes (frames.filter p) + frameBytes (frames.filter fun f => !p f) := by
  induction frames with
  | nil => rfl
  | cons frame rest ih =>
      cases accepted : p frame <;> simp [accepted, ih] <;> omega

theorem discardLoop_eq (subscriptionId : String) (generation : Nat) (frames : List (Frame T))
    (t : ReportCreditManager σ T) (stream : Stream)
    (found : t.streams.lookup (key subscriptionId generation) = some stream)
    (bytesLt : t.queuedBytes < 2 ^ 64) (countLt : stream.queued < 2 ^ 64)
    (bytes : frameBytes (frames.filter fun f => f.key == key subscriptionId generation) ≤
      t.queuedBytes)
    (count : (frames.filter fun f => f.key == key subscriptionId generation).length ≤
      stream.queued) :
    discardLoop subscriptionId generation frames t =
      { t with
        queued := t.queued ++ frames.filter fun f => !(f.key == key subscriptionId generation)
        queuedBytes := t.queuedBytes -
          frameBytes (frames.filter fun f => f.key == key subscriptionId generation)
        streams := t.streams.insert (key subscriptionId generation)
          { stream with
            queued := stream.queued -
              (frames.filter fun f => f.key == key subscriptionId generation).length }
        events := t.events ++
          (frames.filter fun f => f.key == key subscriptionId generation).map
            (.discarded subscriptionId generation) } := by
  induction frames generalizing t stream with
  | nil => simp [discardLoop, Table.insert_of_lookup found]
  | cons frame rest ih =>
      rw [discardLoop]
      split
      · rename_i owned
        rw [owned_iff] at owned
        simp only [List.filter_cons, owned, ↓reduceIte, frameBytes_cons, List.length_cons,
          Frame.bytes] at bytes count
        have leftBytes := subSize_of_le bytesLt (b := Text.size frame.encoded + 1) (by omega)
        have leftCount := subSize_of_le countLt (b := 1) (by omega)
        have enough : ¬ t.queuedBytes < Text.size frame.encoded + 1 := by omega
        have counted : ¬ stream.queued < 1 := by omega
        simp only [stream?, found, Option.getD_some, leftBytes, leftCount, enough, counted,
          decide_false, Bool.or_false]
        rw [ih _ { stream with queued := stream.queued - 1 } (Table.lookup_insert_self _ _ _)
          (by dsimp only; omega) (by dsimp only; omega) (by dsimp only; omega)
          (by dsimp only; omega)]
        simp only [Table.insert_insert_self, List.filter_cons, owned, ↓reduceIte, frameBytes_cons,
          List.length_cons, List.map_cons, Bool.not_true, Bool.false_eq_true, Frame.bytes,
          List.append_assoc, List.singleton_append, Nat.sub_sub, Nat.add_comm 1]
      · rename_i foreign
        rw [owned_iff, Bool.not_eq_true] at foreign
        simp only [List.filter_cons, foreign, Bool.false_eq_true, ↓reduceIte] at bytes count
        rw [ih { t with queued := t.queued ++ [frame] } stream found bytesLt countLt bytes count]
        simp only [List.filter_cons, foreign, Bool.false_eq_true, ↓reduceIte, Bool.not_false,
          List.append_assoc, List.singleton_append]

omit [Text T] in
theorem length_filter_key (k : String) (frames : List (Frame T)) :
    (frames.filter fun f => f.key == k).length = carried k frames :=
  (List.countP_eq_length_filter).symm

theorem retiring_eq (books : AccountedFrom first s) {subscriptionId : String} {generation : Nat}
    {stream : Stream} (found : s.streams.lookup (key subscriptionId generation) = some stream) :
    s.retiring subscriptionId generation stream =
      { s with
        queued := s.queued.filter fun f => !(f.key == key subscriptionId generation)
        queuedBytes := frameBytes
          (s.queued.filter fun f => !(f.key == key subscriptionId generation))
        streams := s.streams.insert (key subscriptionId generation)
          { stream with live := false, queued := 0 }
        events := s.events ++
          (s.queued.filter fun f => f.key == key subscriptionId generation).map
            (.discarded subscriptionId generation) } := by
  have split := frameBytes_filter (fun f => f.key == key subscriptionId generation) s.queued
  have count := (books.tabled.stream_ok found).queued_eq
  rw [← length_filter_key] at count
  have bytesLe := small_of_le_credit books.reserved.bytes_le
  have framesLe := books.reserved.frames_le
  have filterLe := List.length_filter_le (fun f => f.key == key subscriptionId generation) s.queued
  rw [kMaximumQueuedReports] at framesLe
  have bytes := books.reserved.bytes_eq
  rw [retiring, discardLoop_eq subscriptionId generation s.queued
    { s with
      streams := s.streams.insert (key subscriptionId generation) { stream with live := false }
      queued := [] }
    { stream with live := false } (Table.lookup_insert_self _ _ _) bytesLe
    (by dsimp only; omega) (by dsimp only; omega) (by dsimp only; omega)]
  have left : s.queuedBytes -
      frameBytes (s.queued.filter fun f => f.key == key subscriptionId generation) =
      frameBytes (s.queued.filter fun f => !(f.key == key subscriptionId generation)) := by
    omega
  simp only [List.nil_append, left, Table.insert_insert_self, count, Nat.sub_self]

theorem retired_eq (books : AccountedFrom first s) {subscriptionId : String} {generation : Nat}
    {stream : Stream} (found : s.streams.lookup (key subscriptionId generation) = some stream)
    (barrier : T) (sink : σ) :
    s.retired subscriptionId generation stream barrier sink =
      { s with
        queued := s.queued.filter fun f => !(f.key == key subscriptionId generation)
        queuedBytes := frameBytes
          (s.queued.filter fun f => !(f.key == key subscriptionId generation))
        streams :=
          if stream.outstanding = 0 then s.streams.erase (key subscriptionId generation)
          else s.streams.insert (key subscriptionId generation)
            { stream with live := false, queued := 0 }
        sink
        events := s.events ++
          (s.queued.filter fun f => f.key == key subscriptionId generation).map
            (.discarded subscriptionId generation) ++ [.wrote barrier] } := by
  simp only [retired, retiring_eq books found, stream?, Table.lookup_insert_self]
  split
  · simp only [Table.erase_insert_self]
  · rfl

omit [Text T] in
theorem carried_filter_ne (k k' : String) (frames : List (Frame T)) :
    carried k' (frames.filter fun f => !(f.key == k)) =
      if k' = k then 0 else carried k' frames := by
  induction frames with
  | nil => simp
  | cons frame rest ih =>
      by_cases same : frame.key = k
      · by_cases other : k' = k <;> simp_all [carried_cons]
        exact fun back => other back.symm
      · by_cases other : k' = k
        · subst other
          simp_all [carried_cons]
        · simp_all [carried_cons]

theorem retired_accounted (books : AccountedFrom first s) {subscriptionId : String}
    {generation : Nat} {stream : Stream}
    (found : s.streams.lookup (key subscriptionId generation) = some stream)
    (barrier : T) (sink : σ) :
    AccountedFrom first (s.retired subscriptionId generation stream barrier sink) := by
  rw [retired_eq books found]
  have old := books.tabled.stream_ok found
  have split := frameBytes_filter (fun f => f.key == key subscriptionId generation) s.queued
  have bytes := books.reserved.bytes_eq
  have bytesLe := books.reserved.bytes_le
  have elsewhere : ∀ k', k' ≠ key subscriptionId generation →
      carried k' s.outstanding = carried k' s.outstanding ∧
        carried k' (s.queued.filter fun f => !(f.key == key subscriptionId generation)) =
          carried k' s.queued :=
    fun k' different => ⟨rfl, by rw [carried_filter_ne, if_neg different]⟩
  have noneQueued : carried (key subscriptionId generation)
      (s.queued.filter fun f => !(f.key == key subscriptionId generation)) = 0 := by
    rw [carried_filter_ne, if_pos rfl]
  refine ⟨books.numbered, ⟨rfl, by dsimp only; omega,
    (List.length_filter_le _ _).trans books.reserved.frames_le⟩, ?_, books.unwrapped⟩
  dsimp only
  split
  · rename_i empty
    exact books.tabled.erase elsewhere (old.outstanding_eq ▸ empty) noneQueued
  · rename_i busy
    apply books.tabled.update found elsewhere
    · exact
        { outstanding_eq := old.outstanding_eq
          outstanding_le := old.outstanding_le
          queued_eq := noneQueued.symm
          dead := fun _ => ⟨Nat.pos_of_ne_zero busy, rfl⟩
          limit_pos := old.limit_pos
          limit_le := old.limit_le }
    · exact fun impossible => by cases impossible

/-! ## Releasing acknowledged frames -/

omit [Text T] in
/-- What an acknowledgement that leaves `rest` outstanding does to one stream. -/
def settle (rest : List (Frame T)) (k : String) (stream : Stream) : Option Stream :=
  if stream.live = false ∧ carried k rest = 0 then none
  else some { stream with outstanding := carried k rest }

omit [Text T] in
def settled (rest : List (Frame T)) (streams : Table String Stream) : Table String Stream :=
  Table.filterMap (settle rest) streams

omit [Text T] in
/-- On balanced books there is nothing to settle. -/
theorem settled_self {streams : Table String Stream} {outstanding queued : List (Frame T)}
    (books : Tabled streams outstanding queued) : settled outstanding streams = streams := by
  apply Finmap.ext_lookup
  intro k
  rw [settled, Table.lookup_filterMap]
  cases found : streams.lookup k with
  | none => rfl
  | some stream =>
      have ok := books.stream_ok found
      rw [Option.bind_some, settle, if_neg, ← ok.outstanding_eq]
      rintro ⟨isDead, none⟩
      have := (ok.dead isDead).1
      rw [ok.outstanding_eq] at this
      omega

omit [Text T] in
theorem settled_settled (streams : Table String Stream) {rest front : List (Frame T)} :
    settled rest (settled (front ++ rest) streams) = settled rest streams := by
  apply Finmap.ext_lookup
  intro k
  simp only [settled, Table.lookup_filterMap]
  cases streams.lookup k with
  | none => rfl
  | some stream =>
      simp only [Option.bind_some, settle, carried_append]
      split
      · rename_i gone
        rw [if_pos ⟨gone.1, by omega⟩]
        rfl
      · rfl

/-- The account with `rest` outstanding and every stream settled against it. -/
@[simps streams queued outstanding nextSequence cumulativeTransmittedBytes acknowledgedSequence
  acknowledgedBytes queuedBytes outstandingBytes sink events wrapped]
def leaving (s : ReportCreditManager σ T) (rest : List (Frame T)) : ReportCreditManager σ T :=
  { s with
    outstanding := rest
    outstandingBytes := frameBytes rest
    streams := settled rest s.streams }

theorem leaving_self (books : AccountedFrom first s) : s.leaving s.outstanding = s := by
  have same := settled_self books.tabled
  have bytes := books.numbered.bytes_eq
  cases s
  simp_all [leaving]

theorem leaving_leaving (s : ReportCreditManager σ T) (front rest : List (Frame T)) :
    (s.leaving (front ++ rest)).leaving rest = s.leaving rest := by
  simp only [leaving, settled_settled]

theorem releaseFrame_eq (books : AccountedFrom first s) {frame : Frame T} {rest : List (Frame T)}
    (head : s.outstanding = frame :: rest) : s.releaseFrame frame rest = s.leaving rest := by
  have bytes : s.outstandingBytes = (Text.size frame.encoded + 1) + frameBytes rest := by
    rw [books.numbered.bytes_eq, head, frameBytes_cons, Frame.bytes]
  have bytesLe : s.outstandingBytes < 2 ^ 64 := small_of_le_credit books.numbered.bytes_le
  have left : subSize s.outstandingBytes (Text.size frame.encoded + 1) = frameBytes rest := by
    rw [subSize_of_le bytesLe (by omega)]
    omega
  have enough : ¬ s.outstandingBytes < Text.size frame.encoded + 1 := by omega
  obtain ⟨stream, found⟩ := books.tabled.outstanding_known frame (by rw [head]; simp)
  have ok := books.tabled.stream_ok found
  have count : stream.outstanding = carried frame.key rest + 1 := by
    rw [ok.outstanding_eq, head, carried_cons, if_pos rfl]
  -- every other stream carries what it carried before, so settling leaves it alone
  have elsewhere : ∀ k, k ≠ frame.key →
      (s.streams.lookup k).bind (settle rest k) = s.streams.lookup k := by
    intro k different
    cases other : s.streams.lookup k with
    | none => rfl
    | some stream' =>
        have ok' := books.tabled.stream_ok other
        have count' := ok'.outstanding_eq
        rw [head, carried_cons, if_neg (Ne.symm different), Nat.add_zero] at count'
        rw [Option.bind_some, settle, ← count', if_neg]
        rintro ⟨isDead, none⟩
        have := (ok'.dead isDead).1
        omega
  have table : settled rest s.streams =
      if stream.live = false ∧ carried frame.key rest = 0 then s.streams.erase frame.key
      else s.streams.insert frame.key { stream with outstanding := carried frame.key rest } := by
    apply Finmap.ext_lookup
    intro k
    rw [settled, Table.lookup_filterMap]
    by_cases same : k = frame.key
    · subst same
      rw [found, Option.bind_some, settle]
      split <;> simp
    · rw [elsewhere k same]
      split
      · rw [Table.lookup_erase, if_neg same]
      · rw [Table.lookup_insert, if_neg same]
  have positive : stream.outstanding > 0 := by omega
  have back : stream.outstanding - 1 = carried frame.key rest := by omega
  simp only [leaving, table, releaseFrame, found, left, books.unwrapped, enough, decide_false,
    Bool.or_false, positive, ↓reduceIte, back, Bool.not_eq_eq_eq_not, Bool.not_true]
  by_cases gone : stream.live = false ∧ carried frame.key rest = 0
  · rw [if_pos gone, if_pos ⟨gone.1, gone.2, (ok.dead gone.1).2⟩]
  · rw [if_neg gone, if_neg (fun all => gone ⟨all.1, all.2.1⟩)]

theorem releaseFrame_accounted (books : AccountedFrom first s) {frame : Frame T}
    {rest : List (Frame T)} (head : s.outstanding = frame :: rest) :
    AccountedFrom (first + 1) (s.releaseFrame frame rest) := by
  rw [releaseFrame_eq books head]
  have numbered := books.numbered
  rw [head] at numbered
  have consecutive := numbered.consecutive
  simp only [List.map_cons, List.length_cons, List.range'_succ, List.cons.injEq] at consecutive
  have bytesLe := numbered.bytes_le
  have framesLe := numbered.frames_le
  have next := numbered.next
  rw [numbered.bytes_eq, frameBytes_cons] at bytesLe
  rw [List.length_cons] at framesLe next
  have carriedLe : ∀ k, carried k rest ≤ carried k s.outstanding := by
    intro k
    rw [head, carried_cons]
    omega
  refine ⟨⟨consecutive.2, by rw [leaving_nextSequence, leaving_outstanding]; omega, rfl,
    by rw [leaving_outstandingBytes]; omega, by rw [leaving_outstanding]; omega⟩,
    books.reserved, ?_, books.unwrapped⟩
  simp only [leaving_streams, leaving_outstanding, leaving_queued]
  have lookup : ∀ k, (settled rest s.streams).lookup k =
      (s.streams.lookup k).bind (settle rest k) := fun k => Table.lookup_filterMap _ _ _
  refine
    { stream_ok := ?_
      outstanding_known := ?_
      queued_live := ?_
      live_le := ?_
      size_le := ?_ }
  · intro k stream found
    rw [lookup, Option.bind_eq_some_iff] at found
    obtain ⟨before, found, settles⟩ := found
    have ok := books.tabled.stream_ok found
    rw [settle] at settles
    split at settles
    · cases settles
    · rename_i kept
      obtain rfl := Option.some.inj settles
      exact
        { outstanding_eq := rfl
          outstanding_le := (carriedLe k).trans (ok.outstanding_eq ▸ ok.outstanding_le)
          queued_eq := ok.queued_eq
          dead := fun isDead =>
            ⟨Nat.pos_of_ne_zero fun none => kept ⟨isDead, none⟩, (ok.dead isDead).2⟩
          limit_pos := ok.limit_pos
          limit_le := ok.limit_le }
  · intro frame' member
    obtain ⟨stream, found⟩ := books.tabled.outstanding_known frame' (by rw [head]; simp [member])
    have carries : 0 < carried frame'.key rest := carried_pos.2 ⟨frame', member, rfl⟩
    rw [lookup, found, Option.bind_some, settle, if_neg (by omega)]
    exact ⟨_, rfl⟩
  · intro frame' member
    obtain ⟨stream, found, live⟩ := books.tabled.queued_live frame' member
    rw [lookup, found, Option.bind_some, settle, if_neg (by simp [live])]
    exact ⟨_, rfl, live⟩
  · refine (Table.count_filterMap_le fun k stream after settles => ?_).trans books.tabled.live_le
    rw [settle] at settles
    split at settles
    · cases settles
    · obtain rfl := Option.some.inj settles
      exact id
  · exact (Table.size_filterMap_le _ _).trans books.tabled.size_le

/-- The loop of `Acknowledge` drops the acknowledged prefix and settles every stream
against what is left. -/
theorem acknowledgeLoop_eq (reportSequence : Nat) (frames : List (Frame T)) :
    ∀ {first : Nat} {s : ReportCreditManager σ T}, AccountedFrom first s →
      s.outstanding = frames →
      acknowledgeLoop reportSequence frames s =
        s.leaving (frames.dropWhile fun frame => decide (frame.sequence ≤ reportSequence)) ∧
      AccountedFrom (first + (frames.takeWhile fun frame =>
        decide (frame.sequence ≤ reportSequence)).length)
        (acknowledgeLoop reportSequence frames s) := by
  induction frames with
  | nil =>
      intro first s books none
      refine ⟨?_, books⟩
      rw [List.dropWhile_nil, ← none, leaving_self books, none]
      rfl
  | cons frame rest ih =>
      intro first s books head
      rw [acknowledgeLoop]
      split
      · rename_i covered
        have released := releaseFrame_eq books head
        have outstanding : (s.releaseFrame frame rest).outstanding = rest := by
          rw [released, leaving_outstanding]
        obtain ⟨equation, balanced⟩ := ih (releaseFrame_accounted books head) outstanding
        rw [List.takeWhile_cons_of_pos (by simpa using covered), List.length_cons,
          Nat.add_comm _ 1, ← Nat.add_assoc, List.dropWhile_cons_of_pos (by simpa using covered)]
        refine ⟨?_, balanced⟩
        have twice := leaving_leaving s
          (rest.takeWhile fun frame => decide (frame.sequence ≤ reportSequence))
          (rest.dropWhile fun frame => decide (frame.sequence ≤ reportSequence))
        rw [List.takeWhile_append_dropWhile] at twice
        rw [equation, released, twice]
      · rename_i later
        rw [List.takeWhile_cons_of_neg (by simpa using later),
          List.dropWhile_cons_of_neg (by simpa using later), ← head, leaving_self books]
        exact ⟨rfl, books⟩

omit [Text T] in
/-- Around any of the consecutively numbered frames the list splits by number. -/
theorem split_at_sequence {frames : List (Frame T)}
    (consecutive : frames.map Frame.sequence = List.range' first frames.length)
    {target : Frame T} (member : target ∈ frames) :
    ∃ front rest, frames = front ++ target :: rest ∧ target.sequence = first + front.length ∧
      (frames.takeWhile fun frame => decide (frame.sequence ≤ target.sequence)) =
        front ++ [target] ∧
      (frames.dropWhile fun frame => decide (frame.sequence ≤ target.sequence)) = rest := by
  obtain ⟨front, rest, rfl⟩ := List.append_of_mem member
  rw [List.length_append, ← List.range'_append_1, List.length_cons, List.range'_succ,
    List.map_append, List.map_cons] at consecutive
  obtain ⟨before, after⟩ := List.append_inj consecutive (by simp)
  obtain ⟨here, later⟩ := List.cons.inj after
  have early : ∀ frame ∈ front, decide (frame.sequence ≤ target.sequence) = true := by
    intro frame inFront
    have numbered : frame.sequence ∈ List.range' first front.length :=
      before ▸ List.mem_map_of_mem inFront
    rw [List.mem_range'_1] at numbered
    simp only [decide_eq_true_eq]
    omega
  have late : rest.takeWhile (fun frame => decide (frame.sequence ≤ target.sequence)) = [] ∧
      rest.dropWhile (fun frame => decide (frame.sequence ≤ target.sequence)) = rest := by
    cases rest with
    | nil => exact ⟨rfl, rfl⟩
    | cons frame rest =>
        rw [List.map_cons, List.length_cons, List.range'_succ] at later
        have := (List.cons.inj later).1
        have beyond : ¬ frame.sequence ≤ target.sequence := by omega
        exact ⟨List.takeWhile_cons_of_neg (by simpa using beyond),
          List.dropWhile_cons_of_neg (by simpa using beyond)⟩
  refine ⟨front, rest, rfl, here, ?_, ?_⟩
  · rw [List.takeWhile_append_of_pos early, List.takeWhile_cons_of_pos (by simp), late.1]
  · rw [List.dropWhile_append_of_pos early, List.dropWhile_cons_of_pos (by simp), late.2]

/-- The account after `target` and everything before it were acknowledged. -/
@[simps streams queued outstanding nextSequence cumulativeTransmittedBytes acknowledgedSequence
  acknowledgedBytes queuedBytes outstandingBytes sink events wrapped]
def released (s : ReportCreditManager σ T) (target : Frame T) (rest : List (Frame T)) :
    ReportCreditManager σ T :=
  { s.leaving rest with
    acknowledgedSequence := target.sequence
    acknowledgedBytes := target.cumulativeBytes }

theorem acknowledged_eq (books : Accounted s) {target : Frame T} (member : target ∈ s.outstanding) :
    ∃ front rest, s.outstanding = front ++ target :: rest ∧
      target.sequence = s.acknowledgedSequence + 1 + front.length ∧
      s.acknowledged target.sequence target.cumulativeBytes = s.released target rest ∧
      Accounted (s.released target rest) := by
  obtain ⟨front, rest, split, here, taken, dropped⟩ :=
    split_at_sequence books.numbered.consecutive member
  obtain ⟨equation, balanced⟩ := acknowledgeLoop_eq target.sequence s.outstanding books rfl
  rw [dropped] at equation
  rw [equation, taken, List.length_append, List.length_singleton] at balanced
  refine ⟨front, rest, split, here, ?_, ?_⟩
  · rw [acknowledged, equation]
    rfl
  · have next : s.acknowledgedSequence + 1 + (front.length + 1) = target.sequence + 1 := by omega
    rw [next] at balanced
    exact ⟨balanced.numbered, balanced.reserved, balanced.tabled, balanced.unwrapped⟩

end ReportCreditManager

end WotexMatter.Native
