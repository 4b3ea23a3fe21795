/-
# WotexMatter.Native.HostFrame -- the frames the host writes

One constructor for each JSON object the host sends after `open`
(`native/src/protocol.cpp`): the subscription events, each with the session
generation it carries, and the replies to `subscribe` and `unsubscribe`.  The
value and metadata of a report are one payload, the error object is one value;
both stay abstract, as do the lengths of the texts.

`Phase` is what a reader of the output may expect of one stream: reports while it
is open, at most one error, then exactly one barrier that names the last report.
-/
import WotexMatter.Native.ReportCredit
import WotexMatter.Theory.Monitor

set_option autoImplicit false

namespace WotexMatter.Native

open WotexMatter.Theory

inductive HostFrame (P E : Type) where
  | report (sessionGeneration subscriptionId : String) (generation reportSequence : Nat)
      (payload : P)
  | retired (sessionGeneration subscriptionId : String) (generation lastReportSequence : Nat)
  | error (sessionGeneration subscriptionId : String) (generation : Nat) (error : E)
  | resubscribing (sessionGeneration subscriptionId : String) (generation attempt : Nat)
  | resubscribed (sessionGeneration subscriptionId : String)
      (generation attempt minIntervalS maxIntervalS sdkSubscriptionId : Nat)
  | established (id subscriptionId : String)
      (generation minIntervalS maxIntervalS sdkSubscriptionId : Nat)
  | success (id : String)
  | failure (id code : String)
deriving DecidableEq, Repr

variable {P E : Type}

/-- Reports whose payload is the length of their text without the digits of the sequence
number, which is enough to run the model. -/
instance : Text (HostFrame Nat E) where
  size
    | .report _ _ _ sequence bytes => bytes + (Nat.toDigits 10 sequence).length
    | _ => 64

/-! ## What an output may say about one stream -/

/-- What one event says about a stream. -/
inductive Signal where
  | added
  | report (sequence : Nat)
  | error
  | barrier (last : Nat)
deriving DecidableEq

/-- The part of a frame that concerns the stream `(subscriptionId, generation)`. -/
def HostFrame.signal (subscriptionId : String) (generation : Nat) : HostFrame P E → Option Signal
  | .report _ id g sequence _ =>
      if id = subscriptionId ∧ g = generation then some (.report sequence) else none
  | .retired _ id g last =>
      if id = subscriptionId ∧ g = generation then some (.barrier last) else none
  | .error _ id g _ => if id = subscriptionId ∧ g = generation then some .error else none
  | _ => none

def FlowEvent.signal (subscriptionId : String) (generation : Nat) :
    FlowEvent (HostFrame P E) → Option Signal
  | .added id g => if id = subscriptionId ∧ g = generation then some .added else none
  | .wrote frame => frame.signal subscriptionId generation
  | _ => none

/-- Where a stream stands: not present, open with its last report, or failed with its
error written and its barrier due. -/
inductive Phase where
  | absent
  | opened (last : Nat)
  | failed (last : Nat)
deriving DecidableEq

def Phase.step : Phase → Signal → Option Phase
  | .absent, .added => some (.opened 0)
  | .opened _, .report sequence => some (.opened sequence)
  | .opened last, .error => some (.failed last)
  | .opened last, .barrier named => if named = last then some .absent else none
  | .failed last, .barrier named => if named = last then some .absent else none
  | _, _ => none

def Phase.next (subscriptionId : String) (generation : Nat) (phase : Phase)
    (event : FlowEvent (HostFrame P E)) : Option Phase :=
  match event.signal subscriptionId generation with
  | none => some phase
  | some signal => phase.step signal

/-- The phase a history leaves the stream in, if the history is lawful for it. -/
def phaseOf (subscriptionId : String) (generation : Nat)
    (events : List (FlowEvent (HostFrame P E))) : Option Phase :=
  Monitor.run (Phase.next subscriptionId generation) .absent events

/-- The frames of a history, in the order they were written. -/
def writes (events : List (FlowEvent (HostFrame P E))) : List (HostFrame P E) :=
  events.filterMap fun
    | .wrote frame => some frame
    | _ => none

/-- The sequence of the last report of a stream since its last barrier, 0 if none. -/
def lastWritten (subscriptionId : String) (generation : Nat) (frames : List (HostFrame P E)) :
    Nat :=
  frames.foldl (fun last frame =>
    match frame.signal subscriptionId generation with
    | some (.report sequence) => sequence
    | some (.barrier _) => 0
    | _ => last) 0

def Phase.last : Phase → Nat
  | .absent => 0
  | .opened last => last
  | .failed last => last

@[simp] theorem writes_nil : writes ([] : List (FlowEvent (HostFrame P E))) = [] := rfl

@[simp] theorem writes_append (front back : List (FlowEvent (HostFrame P E))) :
    writes (front ++ back) = writes front ++ writes back := by
  simp [writes]

theorem Phase.last_step {phase phase' : Phase} {signal : Signal}
    (step : phase.step signal = some phase') :
    phase'.last = match signal with
      | .report sequence => sequence
      | .barrier _ => 0
      | _ => phase.last := by
  cases phase <;> cases signal <;> simp only [Phase.step, reduceCtorEq] at step
  case opened.barrier | failed.barrier =>
    split at step
    · cases step
      rfl
    · cases step
  all_goals
    obtain rfl := Option.some.inj step
    rfl

/-- In a lawful history the phase remembers the last report. -/
theorem lastWritten_of_phaseOf {subscriptionId : String} {generation : Nat}
    (events : List (FlowEvent (HostFrame P E))) :
    ∀ {phase : Phase}, phaseOf subscriptionId generation events = some phase →
      lastWritten subscriptionId generation (writes events) = phase.last := by
  induction events using List.reverseRecOn with
  | nil =>
      intro phase lawful
      obtain rfl := Option.some.inj lawful
      rfl
  | append_singleton events event ih =>
      intro phase lawful
      rw [phaseOf, Monitor.run_snoc, Option.bind_eq_some_iff] at lawful
      obtain ⟨before, earlier, step⟩ := lawful
      have known := ih earlier
      rw [writes_append]
      cases event with
      | wrote frame =>
          rw [show writes [FlowEvent.wrote frame] = [frame] from rfl, lastWritten,
            List.foldl_append, ← lastWritten, known]
          simp only [Phase.next, FlowEvent.signal] at step
          simp only [List.foldl_cons, List.foldl_nil]
          cases signal : frame.signal subscriptionId generation with
          | none =>
              rw [signal] at step
              obtain rfl := Option.some.inj step
              rfl
          | some s =>
              rw [signal] at step
              rw [Phase.last_step step]
              cases s <;> rfl
      | added id g =>
          rw [show writes [(FlowEvent.added id g : FlowEvent (HostFrame P E))] = [] from rfl,
            List.append_nil, known]
          simp only [Phase.next] at step
          split at step
          · obtain rfl := Option.some.inj step
            rfl
          · rename_i signal found
            rw [Phase.last_step step]
            simp only [FlowEvent.signal] at found
            split at found
            · obtain rfl := Option.some.inj found
              rfl
            · cases found
      | accepted id g encode =>
          rw [show writes [(FlowEvent.accepted id g encode : FlowEvent (HostFrame P E))] = [] from
            rfl, List.append_nil, known]
          obtain rfl := Option.some.inj step
          rfl
      | discarded id g frame =>
          rw [show writes [(FlowEvent.discarded id g frame : FlowEvent (HostFrame P E))] = [] from
            rfl, List.append_nil, known]
          obtain rfl := Option.some.inj step
          rfl
      | skipped frame =>
          rw [show writes [(FlowEvent.skipped frame : FlowEvent (HostFrame P E))] = [] from rfl,
            List.append_nil, known]
          obtain rfl := Option.some.inj step
          rfl

/-- A barrier names the last report before it. -/
theorem barrier_last {subscriptionId : String} {generation : Nat}
    {events before after : List (FlowEvent (HostFrame P E))} {phase : Phase}
    (lawful : phaseOf subscriptionId generation events = some phase) {session : String}
    {last : Nat}
    (split : events = before ++ .wrote (.retired session subscriptionId generation last) :: after) :
    last = lastWritten subscriptionId generation (writes before) := by
  rw [phaseOf, split] at lawful
  obtain ⟨start, earlier, tail⟩ := Monitor.exists_of_run_append lawful
  obtain ⟨_, step, -⟩ := Monitor.exists_of_run_cons tail
  rw [lastWritten_of_phaseOf before earlier]
  simp only [Phase.next, FlowEvent.signal, HostFrame.signal, and_self, ↓reduceIte] at step
  cases start with
  | absent => cases step
  | opened known =>
      simp only [Phase.step] at step
      split at step
      · assumption
      · cases step
  | failed known =>
      simp only [Phase.step] at step
      split at step
      · assumption
      · cases step

/-- A written frame has its place in the history. -/
theorem exists_split_of_writes {events : List (FlowEvent (HostFrame P E))} :
    ∀ {front back : List (HostFrame P E)} {frame : HostFrame P E},
      writes events = front ++ frame :: back →
      ∃ before after, events = before ++ .wrote frame :: after ∧ writes before = front := by
  induction events with
  | nil =>
      intro front back frame same
      simp at same
  | cons event events ih =>
      intro front back frame same
      cases event with
      | wrote first =>
          cases front with
          | nil =>
              obtain ⟨rfl, -⟩ := List.cons.inj same
              exact ⟨[], events, rfl, rfl⟩
          | cons other front =>
              obtain ⟨rfl, tail⟩ := List.cons.inj same
              obtain ⟨before, after, rfl, prior⟩ := ih tail
              exact ⟨.wrote first :: before, after, rfl, congrArg (first :: ·) prior⟩
      | added id g | accepted id g encode | discarded id g pending | skipped pending =>
          obtain ⟨before, after, rfl, prior⟩ := ih same
          exact ⟨_ :: before, after, rfl, prior⟩

end WotexMatter.Native
