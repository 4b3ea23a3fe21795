/-
# WotexMatter.Session.Cancellation -- cancellations that cross

An internal `unsubscribe` is remembered in `internal_requests` and must be answered with
success: `decode_async_frame` takes any other answer for a malformed frame.  The host
gives another answer when a cancellation is already pending, when the record of the
retired stream is gone, when the stream has moved to another generation, and when the
backend could not cancel.  So crossing cancellations end the session in general
(`run_refusedAnswer`).

`Tracked` follows the identifiers: an open request is a line on its way, an operation of
the host or an answer on its way, each once, and whoever will receive the answer knows
its identifier.  In every run in which no `unsubscribe` takes one of the branches above,
every answer to an internal request is accepted (`run_acceptsAnswers`).
-/
import WotexMatter.Session.HostAnswers
import WotexMatter.Beam.Requests

set_option autoImplicit false
set_option linter.unusedSectionVars false

namespace WotexMatter.Session

open WotexMatter.Theory WotexMatter.Native WotexMatter.Beam
open WotexMatter.Beam.Connection

/-! ## The open requests -/

/-- The identifier was taken from the counter. -/
def Issued (r : Requests) (id : String) : Prop :=
  ∃ n, id = Nat.repr n ∧ ∀ next, r.nextId = some next → n < next

def Awaits (r : Requests) (id : String) : Prop := r.awaiting.map Await.id = some id

/-- An open request, and whether only the waiting call can receive its answer. -/
abbrev Entry := String × Bool

structure Tracked (r : Requests) (entries : List Entry) : Prop where
  once : (entries.map Prod.fst).Nodup
  owned : ∀ entry ∈ entries,
    Awaits r entry.1 ∨ (entry.2 = false ∧ (r.internal.lookup entry.1).isSome = true)
  issued : ∀ entry ∈ entries, Issued r entry.1
  awaited : ∀ id, Awaits r id → Issued r id ∧ r.internal.lookup id = none
  recorded : ∀ id, (r.internal.lookup id).isSome = true → Issued r id

variable {r r' : Requests} {entries rest : List Entry} {id : String} {flag flag' : Bool}

theorem Tracked.perm (tracked : Tracked r entries) {entries' : List Entry}
    (same : entries.Perm entries') : Tracked r entries' where
  once := (same.map Prod.fst).nodup_iff.1 tracked.once
  owned := fun entry member => tracked.owned entry (same.mem_iff.2 member)
  issued := fun entry member => tracked.issued entry (same.mem_iff.2 member)
  awaited := tracked.awaited
  recorded := tracked.recorded

theorem Tracked.tail {entry : Entry} (tracked : Tracked r (entry :: rest)) : Tracked r rest where
  once := (List.nodup_cons.1 tracked.once).2
  owned := fun e member => tracked.owned e (List.mem_cons_of_mem _ member)
  issued := fun e member => tracked.issued e (List.mem_cons_of_mem _ member)
  awaited := tracked.awaited
  recorded := tracked.recorded

theorem Tracked.different (tracked : Tracked r ((id, flag) :: rest)) {entry : Entry}
    (member : entry ∈ rest) : entry.1 ≠ id := by
  have absent : id ∉ rest.map Prod.fst := (List.nodup_cons.1 tracked.once).1
  rintro rfl
  exact absent (List.mem_map.2 ⟨entry, member, rfl⟩)

/-- An answer other than success may only go to the waiting call. -/
theorem Tracked.answer (tracked : Tracked r ((id, flag) :: rest))
    (allowed : flag' = true → flag = true ∨ r.internal.lookup id = none) :
    Tracked r ((id, flag') :: rest) where
  once := tracked.once
  owned := by
    intro entry member
    rcases List.mem_cons.1 member with rfl | later
    · have owned := tracked.owned (id, flag) (List.mem_cons_self ..)
      rcases owned with awaits | ⟨plain, present⟩
      · exact Or.inl awaits
      · cases flag' with
        | false => exact Or.inr ⟨rfl, present⟩
        | true =>
            rcases allowed rfl with call | absent
            · rw [show flag = false from plain] at call
              cases call
            · rw [show r.internal.lookup id = none from absent] at present
              cases present
    · exact tracked.owned entry (List.mem_cons_of_mem _ later)
  issued := by
    intro entry member
    rcases List.mem_cons.1 member with rfl | later
    · exact tracked.issued (id, flag) (List.mem_cons_self ..)
    · exact tracked.issued entry (List.mem_cons_of_mem _ later)
  awaited := tracked.awaited
  recorded := tracked.recorded

/-- The waiting call has its answer. -/
theorem Tracked.released (tracked : Tracked r ((id, flag) :: rest)) (awaits : Awaits r id) :
    Tracked { r with awaiting := none } rest where
  once := tracked.tail.once
  owned := by
    intro entry member
    rcases tracked.tail.owned entry member with also | present
    · exact absurd (Option.some.inj (also.symm.trans awaits)) (tracked.different member)
    · exact Or.inr present
  issued := tracked.tail.issued
  awaited := fun _ waits => by cases waits
  recorded := tracked.recorded

/-- The internal request has its answer. -/
theorem Tracked.completed (tracked : Tracked r ((id, flag) :: rest)) :
    Tracked { r with internal := r.internal.erase id } rest where
  once := tracked.tail.once
  owned := by
    intro entry member
    refine (tracked.tail.owned entry member).imp_right fun present => ⟨present.1, ?_⟩
    rw [Table.lookup_erase, if_neg (tracked.different member)]
    exact present.2
  issued := tracked.tail.issued
  awaited := by
    intro other waits
    refine ⟨(tracked.awaited other waits).1, ?_⟩
    dsimp only
    rw [Table.lookup_erase]
    split
    · rfl
    · exact (tracked.awaited other waits).2
  recorded := by
    intro other present
    dsimp only at present
    rw [Table.lookup_erase] at present
    split at present
    · cases present
    · exact tracked.recorded other present

/-! ## What the process does -/

/-- The open requests among the lines. -/
def lineEntry : HostLine → Option Entry
  | .reportAck .. => none
  | .subscribe id _ _ _ => some (id, true)
  | .unsubscribe id _ _ => some (id, false)
  | .request id => some (id, true)

theorem lineEntry_of_id {line : HostLine} (named : line.id? = some id) :
    ∃ flag, lineEntry line = some (id, flag) := by
  cases line with
  | reportAck => cases named
  | subscribe => obtain rfl := Option.some.inj named; exact ⟨true, rfl⟩
  | unsubscribe => obtain rfl := Option.some.inj named; exact ⟨false, rfl⟩
  | request => obtain rfl := Option.some.inj named; exact ⟨true, rfl⟩

theorem repr_injective {m n : Nat} (same : Nat.repr m = Nat.repr n) : m = n := by
  have digits := congrArg String.toNat? same
  simpa using digits

/-- An identifier taken before the counter moved on. -/
theorem Issued.later {n : Nat} (issued : Issued r id) (next : r.nextId = some n)
    (after : r'.nextId = afterId n) : Issued r' id := by
  obtain ⟨m, rfl, below⟩ := issued
  refine ⟨m, rfl, fun next' taken => ?_⟩
  have before := below n next
  rw [after, afterId] at taken
  split at taken
  · cases taken
  · obtain rfl := Option.some.inj taken
    omega

theorem issued_now {n : Nat} (after : r'.nextId = afterId n) : Issued r' (Nat.repr n) := by
  refine ⟨n, rfl, fun next' taken => ?_⟩
  rw [after, afterId] at taken
  split at taken
  · cases taken
  · obtain rfl := Option.some.inj taken
    omega

/-- The next identifier is new. -/
theorem Issued.ne {n : Nat} (issued : Issued r id) (next : r.nextId = some n) :
    id ≠ Nat.repr n := by
  obtain ⟨m, rfl, below⟩ := issued
  intro same
  have := below n next
  rw [repr_injective same] at this
  omega

/-- The requests with the lines the host has not read. -/
def Followed (r : Requests) (taken : Nat) (others : List Entry) : Prop :=
  taken ≤ r.written.length ∧ Tracked r ((r.written.drop taken).filterMap lineEntry ++ others)

theorem unread_append {taken : Nat} (read : taken ≤ r.written.length) (line : HostLine) :
    ((r.written ++ [line]).drop taken).filterMap lineEntry =
      (r.written.drop taken).filterMap lineEntry ++ (lineEntry line).toList := by
  rw [List.drop_append_of_le_length read, List.filterMap_append]
  cases entry : lineEntry line <;> simp [entry]

theorem followed_step {taken : Nat} {others : List Entry} (followed : Followed r taken others)
    (step : Requests.Step r r') : Followed r' taken others := by
  obtain ⟨read, tracked⟩ := followed
  cases step with
  | acknowledge session sequence bytes =>
      refine ⟨by simp; omega, ?_⟩
      dsimp only
      rw [unread_append read]
      simp only [lineEntry, Option.toList_none, List.append_nil]
      exact ⟨tracked.once, tracked.owned, tracked.issued, tracked.awaited, tracked.recorded⟩
  | spend next =>
      refine ⟨read, tracked.once, tracked.owned, fun e member => ?_, fun other waits => ?_,
        fun other present => ?_⟩
      · exact (tracked.issued e member).later next rfl
      · exact ⟨(tracked.awaited other waits).1.later next rfl, (tracked.awaited other waits).2⟩
      · exact (tracked.recorded other present).later next rfl
  | @cancel n next reference nativeId generation =>
      refine ⟨by simp; omega, ?_⟩
      dsimp only
      rw [unread_append read]
      simp only [lineEntry, Option.toList_some, List.append_assoc, List.singleton_append]
      refine Tracked.perm ?_ List.perm_middle.symm
      have kept : ∀ other, other ≠ Nat.repr n →
          (r.internal.insert (Nat.repr n) reference).lookup other = r.internal.lookup other :=
        fun other different => Finmap.lookup_insert_of_ne _ different
      refine ⟨?_, ?_, ?_, ?_, ?_⟩
      · refine List.nodup_cons.2 ⟨fun member => ?_, tracked.once⟩
        obtain ⟨entry, inside, same⟩ := List.mem_map.1 member
        exact (tracked.issued entry inside).ne next same
      · intro entry member
        rcases List.mem_cons.1 member with rfl | before
        · exact Or.inr ⟨rfl, by simp⟩
        · refine (tracked.owned entry before).imp_right fun present => ⟨present.1, ?_⟩
          dsimp only
          rw [kept _ ((tracked.issued entry before).ne next)]
          exact present.2
      · intro entry member
        rcases List.mem_cons.1 member with rfl | before
        · exact issued_now rfl
        · exact (tracked.issued entry before).later next rfl
      · intro other waits
        have known := tracked.awaited other waits
        refine ⟨known.1.later next rfl, ?_⟩
        dsimp only
        rw [kept _ (known.1.ne next)]
        exact known.2
      · intro other present
        by_cases new : other = Nat.repr n
        · rw [new]
          exact issued_now rfl
        · dsimp only at present
          rw [kept other new] at present
          exact (tracked.recorded other present).later next rfl
  | @call n idle next line await named awaited =>
      obtain ⟨flag, entry⟩ := lineEntry_of_id named
      refine ⟨by simp; omega, ?_⟩
      dsimp only
      rw [unread_append read, entry]
      simp only [Option.toList_some, List.append_assoc, List.singleton_append]
      refine Tracked.perm ?_ List.perm_middle.symm
      have unawaited : ∀ other, ¬ Awaits r other := by
        intro other waits
        rw [Awaits, idle] at waits
        cases waits
      refine ⟨?_, ?_, ?_, ?_, ?_⟩
      · refine List.nodup_cons.2 ⟨fun member => ?_, tracked.once⟩
        obtain ⟨entry, inside, same⟩ := List.mem_map.1 member
        exact (tracked.issued entry inside).ne next same
      · intro e member
        rcases List.mem_cons.1 member with rfl | before
        · exact Or.inl (by simp [Awaits, awaited])
        · exact Or.inr ((tracked.owned e before).resolve_left (unawaited _))
      · intro e member
        rcases List.mem_cons.1 member with rfl | before
        · exact issued_now rfl
        · exact (tracked.issued e before).later next rfl
      · intro other waits
        have same : other = Nat.repr n := by
          have := Option.some.inj waits
          rw [← this, awaited]
        subst same
        refine ⟨issued_now rfl, ?_⟩
        by_contra present
        have recorded := tracked.recorded (Nat.repr n) (Option.isSome_iff_ne_none.2 present)
        exact recorded.ne next rfl
      · intro other present
        exact (tracked.recorded other present).later next rfl

theorem followed_grows {P : Type} {c c' : Connection P} {taken : Nat} {others : List Entry}
    (grows : Grows c c') (followed : Followed c.requests taken others) :
    Followed c'.requests taken others := by
  unfold Grows at grows
  generalize c'.requests = reached at grows ⊢
  induction grows with
  | refl => exact followed
  | tail _ step ih => exact followed_step ih step

/-! ## Answers -/

section Answers

variable {P E : Type} {world : World} {wireError : E → Option String} {c : Connection P}

/-- The answer to an internal request: success, for a request that is recorded. -/
theorem decodeAsyncFrame_success {reference : Nat}
    (recorded : c.internalRequests.lookup id = some reference) (bytes : Nat) :
    c.decodeAsyncFrame world wireError bytes (.success id) =
      .ok (({ c with internalRequests := c.internalRequests.erase id }).completeCancellation world
        reference) := by
  simp only [decodeAsyncFrame, recorded]

/-- The waiting call takes its answer, and waits no longer or ends the session. -/
theorem answered_requests (await : Await) (answer : Answer) :
    (c.answered world await answer).stopped = true ∨
      (c.answered world await answer).requests = { c.requests with awaiting := none } := by
  unfold answered
  split
  · exact requests_requestFailed c _
  · unfold establishSubscription
    dsimp only
    split
    · split
      · exact Or.inr (congrArg (fun r : Requests => { r with awaiting := none })
          (requests_update c.tick.tick _ _))
      · exact Or.inl rfl
    · exact Or.inl rfl
  · split
    · exact Or.inr rfl
    · exact Or.inl rfl
  · exact Or.inr rfl

/-- A frame that answers with success. -/
theorem frame_of_success {frame : HostFrame P E} (answers : answer? frame = some (id, .nothing)) :
    frame = .success id := by
  cases frame with
  | success => cases answers; rfl
  | established => cases answers
  | failure => cases answers
  | report => cases answers
  | retired => cases answers
  | error => cases answers
  | resubscribing => cases answers
  | resubscribed => cases answers

/-- A frame that answers no waiting call is an asynchronous one. -/
theorem receiveLine_unawaited {frame : HostFrame P E} {answer : Answer}
    (answers : answer? frame = some (id, answer)) (unawaited : ¬ Awaits c.requests id)
    (bytes : Nat) :
    c.receiveLine world wireError bytes (some frame) =
      c.receiveAsync world wireError bytes frame := by
  simp only [receiveLine, answers]
  split
  · rename_i await id' answer' waiting same
    obtain ⟨rfl, rfl⟩ := Prod.mk.inj (Option.some.inj same)
    rw [if_neg]
    rintro rfl
    exact unawaited (by simp [Awaits, requests, waiting])
  · rfl

theorem receiveLine_awaited {frame : HostFrame P E} {answer : Answer} {await : Await}
    (answers : answer? frame = some (id, answer)) (waiting : c.awaiting = some await)
    (same : await.id = id) (bytes : Nat) :
    c.receiveLine world wireError bytes (some frame) = c.answered world await answer := by
  simp [receiveLine, answers, waiting, same]

end Answers

namespace Joint

variable {P : Type}

def operationEntry : Operation → Entry
  | .unsubscribe id _ _ _ => (id, false)
  | operation => (operation.id, true)

def answerEntry (answer : String × Answer) : Entry := (answer.1, decide (answer.2 ≠ .nothing))

/-- The requests the host has read and the BEAM has no answer to. -/
def inHand (s : Joint P) : List Entry :=
  s.operations.map operationEntry ++ (answersOf s.frames).map answerEntry

variable [Text (HostFrame P InteractionError)]

structure Lawful (s : Joint P) : Prop where
  host : HostSound (answersOf s.frames) s.host
  followed : s.beam.stopped = true ∨ Followed s.beam.requests s.taken s.inHand
  opened : s.running = true → s.host.state = .opened
  survives : s.running = true ∨ s.host.healthy = false

/-- A change of the host that answers nothing. -/
theorem lawful_of_host {s : Joint P} (lawful : Lawful s) {host : Host P}
    (sound : HostSound (answersOf s.frames) host) (steady : Steady s.host host) :
    Lawful { s with host } := by
  have same : answersOf (frames { s with host }) = answersOf s.frames := sound.answers
  refine ⟨same ▸ sound, ?_, fun running => ?_, lawful.survives.imp_right steady.down⟩
  · have inHand : inHand { s with host } = s.inHand := by
      unfold Joint.inHand
      rw [same]
    rw [inHand]
    exact lawful.followed
  · exact steady.state.trans (lawful.opened running)

theorem hostSound_frames {s : Joint P} {answers : List (String × Answer)}
    (sound : HostSound answers s.host) (frames : Frames P) :
    HostSound (answersOf frames) (s.withFrames frames).host := by
  refine ⟨fun up opened => ?_, rfl⟩
  obtain ⟨books, encoded⟩ := sound.flow up opened
  exact ⟨accounted_wrote books _ _, encoded⟩

theorem step_stopped {E : Type} {world : World} {wireError : E → Option String} {c : Connection P}
    (stopped : c.stopped = true) (input : Input P E) : c.step world wireError input = c := by
  simp [Connection.step, stopped]

theorem step_line {E : Type} {world : World} {wireError : E → Option String} {c : Connection P}
    (going : ¬ c.stopped = true) (bytes : Nat) (frame : Option (HostFrame P E)) :
    c.step world wireError (.line bytes frame) = c.receiveLine world wireError bytes frame := by
  simp [Connection.step, going]

/-- The internal request of an answer at hand is recorded and answered with success. -/
theorem success_of_tracked {r : Requests} {entries : List Entry} {id : String} {answer : Answer}
    (tracked : Tracked r (answerEntry (id, answer) :: entries)) (unawaited : ¬ Awaits r id) :
    answer = .nothing ∧ (r.internal.lookup id).isSome = true := by
  obtain ⟨plain, present⟩ := (tracked.owned _ (List.mem_cons_self ..)).resolve_left unawaited
  exact ⟨by simpa [answerEntry] using plain, present⟩

theorem followed_answer {world : World} {wireError : InteractionError → Option String}
    {c : Connection P} {frame : HostFrame P InteractionError} {id : String} {answer : Answer}
    (answers : answer? frame = some (id, answer)) {taken : Nat} {front back : List Entry}
    (followed : Followed c.requests taken (front ++ answerEntry (id, answer) :: back))
    (bytes : Nat) :
    (c.receiveLine world wireError bytes (some frame)).stopped = true ∨
      Followed (c.receiveLine world wireError bytes (some frame)).requests taken
        (front ++ back) := by
  obtain ⟨read, tracked⟩ := followed
  have tracked' : Tracked c.requests (answerEntry (id, answer) ::
      ((c.requests.written.drop taken).filterMap lineEntry ++ (front ++ back))) := by
    refine tracked.perm ?_
    rw [← List.append_assoc, ← List.append_assoc]
    exact List.perm_middle
  by_cases awaits : Awaits c.requests id
  · obtain ⟨await, waiting, same⟩ := Option.map_eq_some_iff.1 awaits
    rw [receiveLine_awaited answers waiting same]
    refine (answered_requests await answer).imp_right fun requests => ?_
    rw [requests]
    exact ⟨read, tracked'.released awaits⟩
  · obtain ⟨rfl, present⟩ := success_of_tracked tracked' awaits
    obtain rfl := frame_of_success answers
    obtain ⟨reference, recorded⟩ := Option.isSome_iff_exists.1 present
    rw [receiveLine_unawaited answers awaits, receiveAsync, decodeAsyncFrame_success recorded]
    refine Or.inr ?_
    dsimp only
    rw [requests_completeCancellation]
    exact ⟨read, tracked'.completed⟩

theorem receive_lawful {s : Joint P} (lawful : Lawful s) (world : World)
    (wireError : InteractionError → Option String) :
    Lawful (s.step world wireError .receive) := by
  simp only [step]
  cases arrives : s.frames with
  | nil => exact lawful
  | cons frame rest =>
      dsimp only
      refine ⟨hostSound_frames lawful.host rest, ?_, lawful.opened, lawful.survives⟩
      have frames : answersOf s.frames = (answer? frame).toList ++ answersOf rest := by
        rw [arrives, answersOf, List.filterMap_cons]
        cases answer? frame <;> rfl
      rcases lawful.followed with stopped | followed
      · exact Or.inl (by rw [withFrames, step_stopped stopped]; exact stopped)
      · by_cases stopped : s.beam.stopped = true
        · exact Or.inl (by rw [withFrames, step_stopped stopped]; exact stopped)
        · unfold inHand at followed
          rw [frames] at followed
          simp only [withFrames, step_line stopped]
          cases answers : answer? frame with
          | none =>
              rw [answers] at followed
              refine (receiveLine_grows world wireError s.beam _ answers).imp_right fun grows => ?_
              exact followed_grows grows followed
          | some answer =>
              rw [answers] at followed
              exact followed_answer answers followed _

/-! ## The input thread -/

/-- The host has a request in its hands and is still to decide what becomes of it. -/
structure Held (s : Joint P) (entry : Entry) : Prop where
  host : HostSound (answersOf s.frames) s.host
  followed : s.beam.stopped = true ∨ Followed s.beam.requests s.taken (entry :: s.inHand)
  opened : s.host.state = .opened
  running : s.running = true

variable {s : Joint P} {id : String} {flag : Bool}

theorem followed_cons {r : Requests} {taken : Nat} {entry : Entry} {others : List Entry} :
    Followed r taken (entry :: others) ↔ taken ≤ r.written.length ∧
      Tracked r (entry :: ((r.written.drop taken).filterMap lineEntry ++ others)) :=
  and_congr_right fun _ =>
    ⟨fun tracked => tracked.perm List.perm_middle, fun tracked => tracked.perm List.perm_middle.symm⟩

/-- Success answers everyone, another answer only the waiting call. -/
theorem reply_lawful (held : Held s (id, flag)) {frame : HostFrame P InteractionError}
    {answer : Answer} (answers : answer? frame = some (id, answer))
    (allowed : answer ≠ .nothing → flag = true ∨ s.beam.internalRequests.lookup id = none) :
    Lawful (s.reply frame) := by
  have frames : answersOf (s.frames ++ [frame]) = answersOf s.frames ++ [(id, answer)] := by
    rw [answersOf_append]
    simp [answersOf, answers]
  refine ⟨hostSound_frames held.host _, ?_, fun _ => held.opened, Or.inl held.running⟩
  refine held.followed.imp_right fun followed => ?_
  obtain ⟨read, tracked⟩ := followed_cons.1 followed
  have answered : Tracked s.beam.requests (answerEntry (id, answer) :: _) :=
    tracked.answer (fun failed => allowed (by simpa using failed))
  refine ⟨read, answered.perm ?_⟩
  have inHand : (s.reply frame).inHand = s.inHand ++ [answerEntry (id, answer)] := by
    change s.operations.map operationEntry ++ (answersOf (s.frames ++ [frame])).map answerEntry = _
    rw [frames]
    simp [Joint.inHand]
  rw [inHand, ← List.append_assoc]
  exact (List.perm_append_singleton _ _).symm

theorem push_lawful (operation : Operation) (held : Held s (operationEntry operation)) :
    Lawful { s with operations := operation :: s.operations } :=
  ⟨held.host, held.followed, fun _ => held.opened, Or.inl held.running⟩

/-- The host is closed with its channel down. -/
theorem ended_lawful (host : HostSound (answersOf s.frames) s.host)
    (followed : s.beam.stopped = true ∨ Followed s.beam.requests s.taken s.inHand)
    (down : s.host.healthy = false) : Lawful s.ended := by
  refine ⟨⟨fun up => ?_, host.answers⟩, followed, fun running => (by cases running), Or.inr down⟩
  exact absurd (show s.host.healthy = true from up) (by rw [down]; simp)

/-- A request is dropped. -/
theorem followed_drop {r : Requests} {taken : Nat} {entry : Entry} {others : List Entry}
    (followed : s.beam.stopped = true ∨ Followed r taken (entry :: others)) :
    s.beam.stopped = true ∨ Followed r taken others := by
  refine followed.imp_right fun kept => ?_
  obtain ⟨read, tracked⟩ := followed_cons.1 kept
  exact ⟨read, tracked.tail⟩

theorem followed_host {entry : Entry} (held : Held s entry) {host : Host P}
    (sound : HostSound (answersOf s.frames) host) :
    HostSound (answersOf (frames { s with host })) host ∧
      (s.beam.stopped = true ∨
        Followed s.beam.requests s.taken (entry :: inHand { s with host })) := by
  have same : answersOf (frames { s with host }) = answersOf s.frames := sound.answers
  have inHand : inHand { s with host } = s.inHand := by
    unfold Joint.inHand
    rw [same]
  rw [inHand, same]
  exact ⟨sound, held.followed⟩

theorem held_host {entry : Entry} (held : Held s entry) (host : Host P)
    (sound : HostSound (answersOf s.frames) host) (opened : host.state = .opened) :
    Held { s with host } entry :=
  ⟨(followed_host held sound).1, (followed_host held sound).2, opened, held.running⟩

theorem held_of_operation (lawful : Lawful s) {operation : Operation} {rest : List Operation}
    (top : s.operations = operation :: rest) (running : s.running = true) :
    Held { s with operations := rest } (operationEntry operation) := by
  refine ⟨lawful.host, ?_, lawful.opened running, running⟩
  have inHand : s.inHand = operationEntry operation :: inHand { s with operations := rest } := by
    unfold Joint.inHand
    rw [top]
    rfl
  rw [← inHand]
  exact lawful.followed

theorem followed_read {r : Requests} {taken : Nat} {others : List Entry} {line : HostLine}
    {rest : List HostLine} (arrives : r.written.drop taken = line :: rest)
    (followed : Followed r taken others) :
    Followed r (taken + 1) ((lineEntry line).toList ++ others) := by
  obtain ⟨read, tracked⟩ := followed
  have within : taken < r.written.length := by
    by_contra none
    rw [List.drop_eq_nil_of_le (by omega)] at arrives
    cases arrives
  have later : r.written.drop (taken + 1) = rest := by
    rw [← List.tail_drop, arrives]
    rfl
  refine ⟨within, ?_⟩
  rw [later]
  rw [arrives] at tracked
  cases entry : lineEntry line with
  | none =>
      rw [List.filterMap_cons_none entry] at tracked
      exact tracked
  | some entry' =>
      rw [List.filterMap_cons_some entry] at tracked
      exact tracked.perm List.perm_middle.symm

/-! ## The branches that answer with success -/

/-- `unsubscribe` finds its stream, live or retired, and no cancellation pending. -/
def finds (h : Host P) (subscriptionId : String) (generation : Nat) : Bool :=
  !h.cancellationPending &&
    (h.subscriptions.lookup subscriptionId).all (fun active => active.generation == generation) &&
    (h.flow.isRetired subscriptionId generation || h.flow.isLive subscriptionId generation)

/-- The stream is gone by the time `CancelSubscription` has returned. -/
def settled (h : Host P) (subscriptionId : String) (generation : Nat) : Bool :=
  (h.subscriptions.lookup subscriptionId).all fun active =>
    active.generation == generation && h.flow.isRetired subscriptionId generation

theorem unsubscribeBegin_cases (h : Host P) (id subscriptionId : String) (generation : Nat) :
    h.unsubscribeBegin id subscriptionId generation = (.answer (.success id), h) ∨
    h.unsubscribeBegin id subscriptionId generation =
      (.proceed, { h with cancellationPending := true }) ∨
    (finds h subscriptionId generation = false ∧ ∃ code,
      h.unsubscribeBegin id subscriptionId generation = (.answer (.failure id code), h)) := by
  unfold HostProtocol.unsubscribeBegin
  split
  · rename_i pending
    exact Or.inr (Or.inr ⟨by simp [finds, pending], _, rfl⟩)
  · split
    · rename_i moved
      refine Or.inr (Or.inr ⟨?_, _, rfl⟩)
      obtain ⟨active, found, different⟩ := (Option.any_eq_true _ _).1 moved
      have different' : (active.generation == generation) = false := by simpa using different
      simp [finds, found, different']
    · split
      · exact Or.inl rfl
      · rename_i notRetired
        split
        · exact Or.inr (Or.inl rfl)
        · rename_i notLive
          exact Or.inr (Or.inr ⟨by simp [finds, notRetired, notLive], _, rfl⟩)

theorem unsubscribeCancelled_cases (h : Host P) (id subscriptionId : String) (generation : Nat)
    (result : BackendResult) :
    let next := { h with cancellationPending := false }
    ((h.closeRequested = true ∨ h.healthy = false) ∧
      h.unsubscribeCancelled id subscriptionId generation result = (.stop, next)) ∨
    h.unsubscribeCancelled id subscriptionId generation result = (.answer (.success id), next) ∨
    h.unsubscribeCancelled id subscriptionId generation result = (.proceed, next) ∨
    (settled h subscriptionId generation = false ∧ result.ok = false ∧ ∃ code,
      h.unsubscribeCancelled id subscriptionId generation result =
        (.answer (.failure id code), next)) := by
  intro next
  unfold HostProtocol.unsubscribeCancelled
  dsimp only
  split
  · rename_i stops
    refine Or.inl ⟨stops.imp_right fun down => ?_, rfl⟩
    have down' : (!h.healthy) = true := down
    simpa using down'
  · split
    · exact Or.inr (Or.inl rfl)
    · rename_i unsettled
      split
      · exact Or.inr (Or.inr (Or.inl rfl))
      · rename_i failed
        exact Or.inr (Or.inr (Or.inr ⟨Bool.eq_false_iff.2 unsettled, Bool.eq_false_iff.2 failed, _,
          rfl⟩))

/-- The BEAM remembers the request as one of its own. -/
def isInternal (s : Joint P) (id : String) : Bool := (s.beam.internalRequests.lookup id).isSome

/-- The line that is read next, if the input thread can read. -/
def next? (s : Joint P) : Option HostLine :=
  if s.running && s.host.healthy && s.operations.head?.all Operation.waits then s.lines.head?
  else none

/-- No `unsubscribe` is refused: an internal one finds its stream and is cancelled, and the
barrier of a cancelled stream is due while the stream is live and the counters have room. -/
def unrefused (s : Joint P) : Event P → Bool
  | .take _ =>
      s.next?.all fun
        | .unsubscribe id subscriptionId generation =>
            !s.isInternal id || finds s.host subscriptionId generation
        | _ => true
  | .cancelled result =>
      !s.running || s.operations.head?.all fun
        | .unsubscribe id subscriptionId generation .cancelling =>
            !s.host.closeRequested &&
              (!s.isInternal id || result.ok || settled s.host subscriptionId generation)
        | _ => true
  | .proceed =>
      !s.running || s.operations.head?.all fun
        | .unsubscribe _ subscriptionId generation .cancelled =>
            !s.host.healthy || (s.host.flow.isLive subscriptionId generation &&
              hasRoom s.host subscriptionId generation)
        | _ => true
  | _ => true

theorem unsubscribeBegin_lawful {subscriptionId : String} {generation : Nat}
    (held : Held s (id, false))
    (kept : s.isInternal id = false ∨ finds s.host subscriptionId generation = true) :
    Lawful (s.dispatch (fun s => { s with
        operations := .unsubscribe id subscriptionId generation .cancelling :: s.operations })
      (s.host.unsubscribeBegin id subscriptionId generation)) := by
  rcases unsubscribeBegin_cases s.host id subscriptionId generation with
    result | result | ⟨lost, code, result⟩
  · rw [result]
    exact reply_lawful held rfl (fun other => absurd rfl other)
  · rw [result]
    have pending := held_host held { s.host with cancellationPending := true }
      ⟨held.host.flow, held.host.answers⟩ held.opened
    exact push_lawful _ pending
  · rw [result]
    refine reply_lawful held rfl fun _ => Or.inr ?_
    have external := kept.resolve_right (by rw [lost]; simp)
    simpa [isInternal] using external

theorem unsubscribeCancelled_lawful {subscriptionId : String} {generation : Nat}
    {result : BackendResult} (held : Held s (id, false)) (unasked : s.host.closeRequested = false)
    (kept : s.isInternal id = false ∨ result.ok = true ∨
      settled s.host subscriptionId generation = true) :
    Lawful (s.dispatch (fun s => { s with
        operations := .unsubscribe id subscriptionId generation .cancelled :: s.operations })
      (s.host.unsubscribeCancelled id subscriptionId generation result)) := by
  have released := held_host held { s.host with cancellationPending := false }
    ⟨held.host.flow, held.host.answers⟩ held.opened
  rcases unsubscribeCancelled_cases s.host id subscriptionId generation result with
    ⟨stops, outcome⟩ | outcome | outcome | ⟨unsettled, failed, code, outcome⟩
  · rw [outcome]
    have down : s.host.healthy = false := stops.resolve_left (by rw [unasked]; simp)
    exact ended_lawful released.host (followed_drop released.followed) down
  · rw [outcome]
    exact reply_lawful released rfl (fun other => absurd rfl other)
  · rw [outcome]
    exact push_lawful _ released
  · rw [outcome]
    refine reply_lawful released rfl fun _ => Or.inr ?_
    have external := kept.resolve_right (by rw [failed, unsettled]; simp)
    simpa [isInternal] using external

theorem unsubscribeRetire_lawful
    (written : ∀ frame : HostFrame P InteractionError, 0 < Text.size frame)
    {subscriptionId : String} {generation : Nat} (held : Held s (id, false))
    (kept : s.host.healthy = false ∨ (s.host.flow.isLive subscriptionId generation = true ∧
      hasRoom s.host subscriptionId generation = true)) :
    Lawful (s.dispatch (fun s => { s with
        operations := .unsubscribe id subscriptionId generation .retired :: s.operations })
      (s.host.unsubscribeRetire deliver subscriptionId generation)) := by
  have sound := unsubscribeRetire_sound held.host held.opened subscriptionId generation
  cases outcome : s.host.unsubscribeRetire deliver subscriptionId generation with
  | mk decision host =>
      rw [outcome] at sound
      unfold HostProtocol.unsubscribeRetire at outcome
      split at outcome
      · dsimp only at outcome
        split at outcome
        · obtain ⟨rfl, rfl⟩ := Prod.mk.inj outcome
          exact push_lawful _ (held_host held _ sound held.opened)
        · rename_i unretired
          obtain ⟨rfl, rfl⟩ := Prod.mk.inj outcome
          have down : s.host.healthy = false := by
            rcases kept with down | ⟨live, room⟩
            · exact down
            · by_contra up
              have up' : s.host.healthy = true := by simpa using up
              exact unretired (retireStream_succeeds written (held.host.flow up' held.opened).1 up'
                live room)
          have down' : (s.host.retireStream deliver subscriptionId generation).2.close.healthy =
              false := by
            unfold HostProtocol.healthy at down ⊢
            change (!(s.host.retireStream deliver subscriptionId
              generation).2.flow.sink.channelFailed) = false
            rw [retireStream_failed down]
            exact down
          exact ended_lawful (followed_host held sound).1
            (followed_drop (followed_host held sound).2) down'
      · rename_i dead
        obtain ⟨rfl, rfl⟩ := Prod.mk.inj outcome
        have down := kept.resolve_right fun both => dead both.1
        exact ended_lawful (followed_host held sound).1
          (followed_drop (followed_host held sound).2) down

theorem unsubscribeFinish_lawful {subscriptionId : String} (held : Held s (id, false)) :
    Lawful (s.dispatch (fun s => s) (s.host.unsubscribeFinish id subscriptionId)) := by
  have erased := held_host held
    { s.host with subscriptions := s.host.subscriptions.erase subscriptionId }
    ⟨held.host.flow, held.host.answers⟩ held.opened
  exact reply_lawful erased rfl (fun other => absurd rfl other)

theorem admit_lawful {subscriptionId : String} (held : Held s (id, true)) (queueLimit : Nat)
    (resubscribe : Bool) (response : SubscriptionResponse) :
    Lawful (s.admitStream id subscriptionId queueLimit resubscribe response) := by
  cases response with
  | failed code => exact reply_lawful held rfl fun _ => Or.inl rfl
  | established named generation minimum maximum sdkId =>
      simp only [admitStream]
      split
      · exact reply_lawful held rfl fun _ => Or.inl rfl
      · have sound := admitSubscription_sound held.host named generation queueLimit resubscribe
        have opened : (s.host.admitSubscription named generation queueLimit resubscribe).2.state =
            .opened := by
          unfold HostProtocol.admitSubscription
          dsimp only
          split <;> exact held.opened
        have admitted := held_host held _ sound opened
        split
        · exact reply_lawful admitted rfl fun _ => Or.inl rfl
        · exact reply_lawful admitted rfl fun _ => Or.inl rfl

theorem resume_lawful
    (written : ∀ frame : HostFrame P InteractionError, 0 < Text.size frame)
    {operation : Operation} (held : Held s (operationEntry operation)) {event : Event P}
    (kept : unrefused { s with operations := operation :: s.operations } event = true) :
    Lawful (s.resume operation event) := by
  have back := push_lawful operation held
  unfold resume
  split
  · split
    · rename_i down
      exact ended_lawful held.host (followed_drop held.followed) (by simpa using down)
    · split
      · exact reply_lawful held rfl fun _ => Or.inl rfl
      · exact reply_lawful held rfl fun _ => Or.inl rfl
  · split
    · rename_i down
      exact ended_lawful held.host (followed_drop held.followed) (by simpa using down)
    · exact admit_lawful held _ _ _
  · rename_i id subscriptionId generation result
    simp only [unrefused, held.running, List.head?_cons, Option.all_some, Bool.not_true,
      Bool.false_or, Bool.and_eq_true, Bool.not_eq_true', Bool.or_eq_true] at kept
    refine unsubscribeCancelled_lawful held kept.1 ?_
    rcases kept.2 with (external | ok) | gone
    · exact Or.inl external
    · exact Or.inr (Or.inl ok)
    · exact Or.inr (Or.inr gone)
  · rename_i id subscriptionId generation
    simp only [unrefused, held.running, List.head?_cons, Option.all_some, Bool.not_true,
      Bool.false_or, Bool.and_eq_true, Bool.not_eq_true', Bool.or_eq_true] at kept
    exact unsubscribeRetire_lawful written held kept
  · exact unsubscribeFinish_lawful held
  · exact back

/-- An acknowledgement that an open host refuses brings its channel down. -/
theorem reportAck_state {h : Host P} (opened : h.state = .opened) (sequence bytes : Nat) :
    ((h.reportAck deliver sequence bytes).1 = true ∧
        (h.reportAck deliver sequence bytes).2.state = .opened) ∨
      ((h.reportAck deliver sequence bytes).1 = false ∧
        (h.reportAck deliver sequence bytes).2.healthy = false) := by
  unfold HostProtocol.reportAck
  rw [if_neg (by simp [opened])]
  dsimp only
  split
  · exact Or.inl ⟨rfl, opened⟩
  · exact Or.inr ⟨rfl, rfl⟩

theorem takeLine_lawful {line : HostLine}
    (host : HostSound (answersOf s.frames) s.host)
    (followed : s.beam.stopped = true ∨
      Followed s.beam.requests s.taken ((lineEntry line).toList ++ s.inHand))
    (opened : s.host.state = .opened) (running : s.running = true)
    (up : s.host.healthy = true) (health : Bool)
    (kept : ∀ id subscriptionId generation, line = .unsubscribe id subscriptionId generation →
      s.isInternal id = false ∨ finds s.host subscriptionId generation = true) :
    Lawful (s.takeLine health line) := by
  cases line with
  | reportAck session sequence bytes =>
      have sound := reportAck_sound host up sequence bytes
      have same : answersOf (frames { s with
          host := (s.host.reportAck deliver sequence bytes).2 }) = answersOf s.frames :=
        sound.answers
      have hands : inHand { s with host := (s.host.reportAck deliver sequence bytes).2 } =
          s.inHand := by
        unfold Joint.inHand
        rw [same]
      simp only [takeLine]
      split
      · rcases reportAck_state opened sequence bytes with ⟨taken, still⟩ | ⟨refused, down⟩
        · rw [if_pos taken]
          exact ⟨same ▸ sound, hands ▸ followed, fun _ => still, Or.inl running⟩
        · rw [if_neg (by rw [refused]; simp)]
          exact ended_lawful (same ▸ sound) (hands ▸ followed) down
      · have closed : HostSound (answersOf s.frames) s.host.failChannel.close :=
          ⟨nofun, host.answers⟩
        exact ended_lawful closed followed rfl
  | unsubscribe id subscriptionId generation =>
      have held : Held s (id, false) := ⟨host, followed, opened, running⟩
      exact unsubscribeBegin_lawful held (kept id subscriptionId generation rfl)
  | subscribe id subscriptionId queueLimit resubscribe =>
      have held : Held s (id, true) := ⟨host, followed, opened, running⟩
      simp only [takeLine]
      split
      · rename_i empty
        have pushed := push_lawful (.subscribe id subscriptionId queueLimit resubscribe) held
        rw [List.isEmpty_iff.1 empty] at pushed
        exact pushed
      · exact reply_lawful held rfl fun _ => Or.inl rfl
  | request id =>
      have held : Held s (id, true) := ⟨host, followed, opened, running⟩
      simp only [takeLine]
      split
      · exact reply_lawful held rfl fun _ => Or.inl rfl
      · split
        · rename_i empty
          have pushed := push_lawful (.request id) held
          rw [List.isEmpty_iff.1 empty] at pushed
          exact pushed
        · exact reply_lawful held rfl fun _ => Or.inl rfl

theorem take_lawful (lawful : Lawful s) (world : World)
    (wireError : InteractionError → Option String) (health : Bool)
    (kept : s.unrefused (.take health) = true) :
    Lawful (s.step world wireError (.take health)) := by
  simp only [step]
  cases arrives : s.lines with
  | nil => exact lawful
  | cons line rest =>
      dsimp only
      split
      · rename_i ready
        rw [Bool.and_eq_true] at ready
        have read : s.beam.stopped = true ∨ Followed s.beam.requests (s.taken + 1)
            ((lineEntry line).toList ++ s.inHand) :=
          lawful.followed.imp_right fun followed => followed_read arrives followed
        split
        · rename_i up
          refine takeLine_lawful (s := { s with taken := s.taken + 1 }) lawful.host read
            (lawful.opened ready.1) ready.1 up health ?_
          rintro id subscriptionId generation rfl
          have next : s.next? = some (.unsubscribe id subscriptionId generation) := by
            simp [next?, ready.1, ready.2, up, arrives]
          simp only [unrefused, next, Option.all_some, Bool.or_eq_true, Bool.not_eq_true'] at kept
          exact kept
        · rename_i down
          have dropped : s.beam.stopped = true ∨
              Followed s.beam.requests (s.taken + 1) s.inHand := by
            cases entry : lineEntry line with
            | none =>
                rw [entry] at read
                exact read
            | some e =>
                rw [entry] at read
                exact followed_drop read
          exact ended_lawful (s := { s with taken := s.taken + 1 }) lawful.host dropped
            (by simpa using down)
      · exact lawful

theorem host_lawful (written : ∀ frame : HostFrame P InteractionError, 0 < Text.size frame)
    (lawful : Lawful s) {event : Event P} (kept : s.unrefused event = true) :
    Lawful (s.host? event) := by
  unfold host?
  split
  · exact lawful
  · rename_i operation rest top
    split
    · rename_i running
      refine resume_lawful written (held_of_operation lawful top running) ?_
      rw [← top]
      exact kept
    · exact lawful

theorem step_lawful (written : ∀ frame : HostFrame P InteractionError, 0 < Text.size frame)
    (lawful : Lawful s) (world : World)
    (wireError : InteractionError → Option String) {event : Event P}
    (kept : s.unrefused event = true) : Lawful (s.step world wireError event) := by
  cases event with
  | beam input =>
      have still : ∀ input' : Input P InteractionError,
          (∀ bytes frame, input' ≠ .line bytes frame) →
          Lawful { s with beam := s.beam.step world wireError input' } := by
        intro input' local'
        refine ⟨lawful.host, ?_, lawful.opened, lawful.survives⟩
        rcases lawful.followed with stopped | followed
        · exact Or.inl (by rw [step_stopped stopped]; exact stopped)
        · exact (step_grows world wireError s.beam local').imp_right fun grows =>
            followed_grows grows followed
      cases input with
      | line bytes frame => exact lawful
      | _ => exact still _ (fun _ _ => nofun)
  | receive => exact receive_lawful lawful world wireError
  | report report =>
      exact lawful_of_host lawful (emitReport_sound lawful.host report) (emitReport_steady report)
  | status status =>
      exact lawful_of_host lawful (emitStatus_sound lawful.host status) (emitStatus_steady status)
  | failure subscriptionId generation error =>
      exact lawful_of_host lawful (emitFailure_sound lawful.host subscriptionId generation error)
        (emitFailure_steady subscriptionId generation error)
  | take health => exact take_lawful lawful world wireError health kept
  | answered errorCode => exact host_lawful written lawful kept
  | subscribed response => exact host_lawful written lawful kept
  | cancelled result => exact host_lawful written lawful kept
  | proceed => exact host_lawful written lawful kept

/-! ## Runs -/

theorem lawful_initial (session : String) : Lawful (initial session : Joint P) where
  host := ⟨fun _ _ => ⟨ReportCreditManager.accounted_initial _, fun _ member => by cases member⟩, rfl⟩
  followed := by
    refine Or.inr ⟨Nat.le_refl _, ?_⟩
    exact
      { once := List.nodup_nil
        owned := fun _ member => by cases member
        issued := fun _ member => by cases member
        awaited := fun _ waits => by cases waits
        recorded := fun _ present => by cases present }
  opened := fun _ => rfl
  survives := Or.inl rfl

/-- No `unsubscribe` of the run is refused. -/
def unrefusedRun (world : World) (wireError : InteractionError → Option String) :
    Joint P → List (Event P) → Bool
  | _, [] => true
  | s, event :: rest =>
      s.unrefused event && unrefusedRun world wireError (s.step world wireError event) rest

theorem run_lawful (written : ∀ frame : HostFrame P InteractionError, 0 < Text.size frame)
    {world : World} {wireError : InteractionError → Option String} (events : List (Event P)) :
    ∀ {s : Joint P}, Lawful s → unrefusedRun world wireError s events = true →
      Lawful (s.run world wireError events) := by
  induction events with
  | nil => exact fun lawful _ => lawful
  | cons event rest ih =>
      intro s lawful kept
      rw [unrefusedRun, Bool.and_eq_true] at kept
      exact ih (step_lawful written lawful world wireError kept.1) kept.2

/-- The answer closed its own request and nothing else; only a cancellation past its
deadline still ends the session. -/
structure Undisturbed (world : World) (c : Connection P) (id : String) (next : Connection P) :
    Prop where
  subscriptions : next.subscriptions = c.subscriptions
  subscriptionIds : next.subscriptionIds = c.subscriptionIds
  subscriptionMonitors : next.subscriptionMonitors = c.subscriptionMonitors
  reportLedger : next.reportLedger = c.reportLedger
  stopped : next.stopped = c.stopped
  channel : next.channelFailed = c.channelFailed ∨
    ∃ reference deadline, c.internalRequests.lookup id = some reference ∧
      c.cancellationDeadlines.lookup reference = some deadline ∧
      deadline ≤ world.monotonicTime c.effects.ticks

theorem undisturbed_completed (world : World) (c : Connection P) {reference : Nat}
    (recorded : c.internalRequests.lookup id = some reference) :
    Undisturbed world c id
      (({ c with internalRequests := c.internalRequests.erase id }).completeCancellation world
        reference) := by
  have failing : ∀ d : Connection P, d.failNativeInput.subscriptions = d.subscriptions ∧
      d.failNativeInput.subscriptionIds = d.subscriptionIds ∧
      d.failNativeInput.subscriptionMonitors = d.subscriptionMonitors ∧
      d.failNativeInput.reportLedger = d.reportLedger ∧ d.failNativeInput.stopped = d.stopped := by
    intro d
    unfold failNativeInput
    split <;> exact ⟨rfl, rfl, rfl, rfl, rfl⟩
  unfold completeCancellation
  split
  · exact ⟨rfl, rfl, rfl, rfl, rfl, Or.inl rfl⟩
  · rename_i deadline watched
    dsimp only
    split
    · rename_i late
      obtain ⟨first, second, third, fourth, fifth⟩ := failing
        (tick { c with internalRequests := c.internalRequests.erase id })
      exact ⟨first, second, third, fourth, fifth,
        Or.inr ⟨reference, deadline, recorded, watched, late⟩⟩
    · split
      · exact ⟨rfl, rfl, rfl, rfl, rfl, Or.inl rfl⟩
      · exact ⟨rfl, rfl, rfl, rfl, rfl, Or.inl rfl⟩

/-- **Crossing cancellations that are not refused do not hurt.**  Whatever the BEAM
cancels and the host retires, and in whatever order the two read each other, as long as no
`unsubscribe` is refused: the host runs while its channel is up, and the answer to an
internal request is accepted and touches no subscription. -/
theorem run_acceptsAnswers
    (written : ∀ frame : HostFrame P InteractionError, 0 < Text.size frame)
    (world : World) (wireError : InteractionError → Option String) (session : String)
    (events : List (Event P))
    (kept : unrefusedRun world wireError (initial session) events = true) :
    ((run world wireError (initial session) events).host.healthy = true →
      (run world wireError (initial session) events).running = true) ∧
    ∀ frame rest id answer,
      (run world wireError (initial session) events).beam.stopped = false →
      (run world wireError (initial session) events).frames = frame :: rest →
      answer? frame = some (id, answer) →
      (run world wireError (initial session) events).isInternal id = true →
      ∃ next, (run world wireError (initial session) events).beam.decodeAsyncFrame world wireError
          (Text.size frame + 1) frame = .ok next ∧
        ((run world wireError (initial session) events).step world wireError .receive).beam = next ∧
        Undisturbed world (run world wireError (initial session) events).beam id next := by
  have lawful := run_lawful written events (lawful_initial session) kept
  generalize run world wireError (initial session) events = s at lawful ⊢
  refine ⟨fun up => lawful.survives.resolve_right (by rw [up]; simp), ?_⟩
  intro frame rest id answer going arrives answers internal
  have going' : ¬ s.beam.stopped = true := by rw [going]; simp
  obtain ⟨read, tracked⟩ := lawful.followed.resolve_left going'
  have unawaited : ¬ Awaits s.beam.requests id := by
    intro awaits
    have absent := (tracked.awaited id awaits).2
    rw [isInternal, show s.beam.internalRequests.lookup id = none from absent] at internal
    cases internal
  have tracked' : Tracked s.beam.requests (answerEntry (id, answer) ::
      ((s.beam.requests.written.drop s.taken).filterMap lineEntry ++
        (s.operations.map operationEntry ++ (answersOf rest).map answerEntry))) := by
    refine tracked.perm ?_
    rw [inHand, arrives, answersOf, List.filterMap_cons_some answers, List.map_cons,
      ← List.append_assoc, ← List.append_assoc]
    exact List.perm_middle
  obtain ⟨rfl, -⟩ := success_of_tracked tracked' unawaited
  obtain rfl := frame_of_success answers
  obtain ⟨reference, recorded⟩ := Option.isSome_iff_exists.1 internal
  refine ⟨_, decodeAsyncFrame_success recorded _, ?_, undisturbed_completed world s.beam recorded⟩
  simp only [step, arrives, withFrames, step_line going', receiveLine_unawaited answers unawaited,
    receiveAsync, decodeAsyncFrame_success recorded]

/-- Every queue is empty, the Port takes every line and every process lives. -/
def calm : World where
  messageQueueLen := fun _ => some 0
  portCommand := fun _ => true
  monotonicTime := fun _ => 0
  alive := fun _ => true

def errorCode (error : InteractionError) : Option String := some error.code

/-- A subscription is made and established. -/
def establishes (nativeId : String) : List (Event Nat) :=
  [.beam (.subscribe true nativeId 1 false (fun _ => true)), .take false,
    .subscribed (.established nativeId 1 0 60 7), .receive]

/-- The receiver dies while the host loses the session of its stream; a report of the stream
is not acknowledged yet. -/
def crossing : List (Event Nat) :=
  establishes "s" ++
    [.report ⟨"s", 1, 100⟩, .beam (.down 1), .failure "s" 1 { code := "session_lost" }, .take false,
      .receive, .receive, .receive]

theorem written_frame (frame : HostFrame Nat InteractionError) : 0 < Text.size frame := by
  cases frame with
  | report session id generation sequence bytes =>
      have digits := Nat.length_toDigits_pos (b := 10) (n := sequence)
      exact Nat.add_pos_right _ digits
  | _ => exact (show 0 < 64 by decide)

theorem run_acceptsAnswers_crossing :
    unrefusedRun calm errorCode (initial "g") crossing = true ∧
      ∃ next, (run calm errorCode (initial "g") crossing).beam.decodeAsyncFrame calm errorCode
          (Text.size (.success "3" : HostFrame Nat InteractionError) + 1) (.success "3") =
          .ok next ∧
        ((run calm errorCode (initial "g") crossing).step calm errorCode .receive).beam = next ∧
        Undisturbed calm (run calm errorCode (initial "g") crossing).beam "3" next :=
  ⟨by decide +kernel, (run_acceptsAnswers written_frame calm errorCode "g" crossing
      (by decide +kernel)).2 (.success "3") [] "3" .nothing (by decide +kernel) (by decide +kernel) rfl
      (by decide +kernel)⟩

/-- The same crossing without an unacknowledged report: the record of the stream is gone. -/
def forgotten : List (Event Nat) :=
  establishes "s" ++
    [.beam (.down 1), .failure "s" 1 { code := "session_lost" }, .take false, .receive, .receive]

/-- Two receivers die; the second cancellation is read while the first waits. -/
def nested : List (Event Nat) :=
  establishes "s" ++ establishes "t" ++ [.beam (.down 1), .beam (.down 5), .take false, .take false]

theorem run_refusedAnswer :
    ((run calm errorCode (initial "g") forgotten).frames =
        [.failure "3" "invalid_subscription"] ∧
      (run calm errorCode (initial "g") forgotten).isInternal "3" = true ∧
      (run calm errorCode (initial "g") forgotten).beam.stopped = false ∧
      (run calm errorCode (initial "g") (forgotten ++ [.receive])).beam.stopped = true) ∧
    ((run calm errorCode (initial "g") nested).frames = [.failure "5" "subscription_busy"] ∧
      (run calm errorCode (initial "g") nested).isInternal "5" = true ∧
      (run calm errorCode (initial "g") nested).beam.stopped = false ∧
      (run calm errorCode (initial "g") (nested ++ [.receive])).beam.stopped = true) := by
  decide +kernel

end Joint

end WotexMatter.Session
