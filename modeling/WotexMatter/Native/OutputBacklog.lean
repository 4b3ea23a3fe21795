/-
# WotexMatter.Native.OutputBacklog -- the credit account over the writer thread

`BoundedOutput` (`native/src/protocol.cpp`) queues frames for a writer thread and bounds
each class of them.  Reports have the limits of the session's credit, 64 frames and
1048576 bytes, but the two let go of a report at different events: the account when the
acknowledgement comes, the writer when it has counted the frame off after writing it.
The peer can acknowledge a frame between its write and that count, and then the account
hands out a credit that the backlog does not have.

`OutputSystem` is the account writing to such an output, the writer's three steps and the peer.
`run_reports_fit` says that an acknowledgement which never overtakes the count is enough
for every report to find room.
-/
import WotexMatter.Native.FlowTrace

set_option autoImplicit false
set_option linter.unusedSectionVars false

namespace WotexMatter.Native

open WotexMatter.Theory ReportCreditManager

/-- `kMaximumFrameBytes`. -/
def kMaximumFrameBytes : Nat := 131072

inductive OutputClass where
  | report
  | control
  | reply
deriving DecidableEq, Repr

structure PendingOutput (F : Type) where
  frame : F
  classification : OutputClass
deriving DecidableEq, Repr

/-- What the writer thread holds outside the lock: a frame it has popped, or one it has
written and not yet counted off. -/
inductive Held (F : Type) where
  | nothing
  | popped (pending : PendingOutput F)
  | written (pending : PendingOutput F)
deriving DecidableEq, Repr

/-- `visible` is what the stream has taken.  `reportsRefused` is set where `EnqueueReport`
fails for lack of frames or bytes; nothing reads it. -/
structure BoundedOutput (F : Type) where
  pending : List (PendingOutput F) := []
  reportFrames : Nat := 0
  reportBytes : Nat := 0
  controlFrames : Nat := 0
  controlBytes : Nat := 0
  replyFrames : Nat := 0
  replyBytes : Nat := 0
  healthy : Bool := true
  stopping : Bool := false
  held : Held F := .nothing
  visible : List F := []
  reportsRefused : Bool := false

namespace BoundedOutput

variable {F : Type} [Text F]

def frames (o : BoundedOutput F) : OutputClass → Nat
  | .report => o.reportFrames
  | .control => o.controlFrames
  | .reply => o.replyFrames

def retained (o : BoundedOutput F) : OutputClass → Nat
  | .report => o.reportBytes
  | .control => o.controlBytes
  | .reply => o.replyBytes

def counted (o : BoundedOutput F) (classification : OutputClass) (frames retained : Nat) :
    BoundedOutput F :=
  match classification with
  | .report => { o with reportFrames := frames, reportBytes := retained }
  | .control => { o with controlFrames := frames, controlBytes := retained }
  | .reply => { o with replyFrames := frames, replyBytes := retained }

def fail (o : BoundedOutput F) : BoundedOutput F :=
  if !o.healthy then o else { o with healthy := false, stopping := true, pending := [] }

/-- The frame is counted and pending. -/
def entered (o : BoundedOutput F) (frame : F) (classification : OutputClass) :
    BoundedOutput F :=
  { o.counted classification (o.frames classification + 1)
      (o.retained classification + (Text.size frame + 1)) with
    pending := o.pending ++ [⟨frame, classification⟩] }

def enqueue (o : BoundedOutput F) (frame : F) (classification : OutputClass)
    (maximumFrames maximumBytes maximumFrameBytes : Nat) : Bool × BoundedOutput F :=
  if !o.healthy ∨ o.stopping then (false, o)
  else if Text.size frame = 0 ∨ Text.size frame ≥ maximumFrameBytes then (false, o.fail)
  else
    let bytes := Text.size frame + 1
    if o.frames classification ≥ maximumFrames ∨ o.retained classification > maximumBytes ∨
        bytes > maximumBytes - o.retained classification then
      (false, { o.fail with
        reportsRefused := o.reportsRefused || decide (classification = .report) })
    else (true, o.entered frame classification)

def enqueueReport (o : BoundedOutput F) (frame : F) : Bool × BoundedOutput F :=
  o.enqueue frame .report 64 1048576 kMaximumFrameBytes

def enqueueControl (o : BoundedOutput F) (frame : F) : Bool × BoundedOutput F :=
  o.enqueue frame .control 256 (256 * 4096) 4096

def enqueueReply (o : BoundedOutput F) (frame : F) : Bool × BoundedOutput F :=
  o.enqueue frame .reply 64 (64 * kMaximumFrameBytes) kMaximumFrameBytes

def stop (o : BoundedOutput F) : BoundedOutput F := { o with stopping := true }

/-- The first locked block of `Write`. -/
def pop (o : BoundedOutput F) : BoundedOutput F :=
  match o.held, o.pending with
  | .nothing, first :: rest => { o with held := .popped first, pending := rest }
  | _, _ => o

/-- The write, outside the lock: the peer can read the frame from here on. -/
def write (o : BoundedOutput F) : BoundedOutput F :=
  match o.held with
  | .popped first => { o with held := .written first, visible := o.visible ++ [first.frame] }
  | _ => o

/-- The last locked block of `Write`, after a write that succeeded. -/
def countOff (o : BoundedOutput F) : BoundedOutput F :=
  match o.held with
  | .written first =>
      { o.counted first.classification (subSize (o.frames first.classification) 1)
          (subSize (o.retained first.classification) (Text.size first.frame + 1)) with
        held := .nothing }
  | _ => o

end BoundedOutput

/-! ## The account, the writer and the peer -/

/-- The number of a report frame. -/
def HostFrame.sequence? {P E : Type} : HostFrame P E → Option Nat
  | .report _ _ _ sequence _ => some sequence
  | _ => none

section System

variable {P E : Type} [Text (HostFrame P E)]

/-- The output sink that `RunHost` installs. -/
def hostSink (o : BoundedOutput (HostFrame P E)) (frame : HostFrame P E) :
    Bool × BoundedOutput (HostFrame P E) :=
  if frame.sequence?.isSome then o.enqueueReport frame else o.enqueueControl frame

structure OutputSystem (P E : Type) where
  flow : Flow (BoundedOutput (HostFrame P E)) P E
  /-- The channel has failed, and no call reaches the account any more. -/
  failed : Bool := false

/-- A locked block of one of the threads.  `control` is a frame the protocol writes on its
own account, `reply` the answer to a line. -/
inductive OutputMove (P E : Type) where
  | addStream (subscriptionId : String) (generation queueLimit : Nat)
  | submit (subscriptionId : String) (generation : Nat) (payload : P)
  | acknowledge (reportSequence acknowledgedBytes : Nat)
  | retire (subscriptionId : String) (generation : Nat)
  | beginRecovery (subscriptionId : String) (previousGeneration nextGeneration queueLimit : Nat)
  | control (frame : HostFrame P E)
  | reply (frame : HostFrame P E)
  | pop
  | write
  | countOff
  | stop

namespace OutputSystem

/-- The result of a call whose failure ends the session. -/
def ofResult (result : Bool × Flow (BoundedOutput (HostFrame P E)) P E) : OutputSystem P E :=
  { flow := result.2, failed := !result.1 }

def onOutput (y : OutputSystem P E) (o : BoundedOutput (HostFrame P E)) : OutputSystem P E :=
  { y with flow := { y.flow with sink := o } }

/-- A call of the protocol; what it writes on its own account or answers is no report. -/
def call (session : String) (y : OutputSystem P E) : OutputMove P E → OutputSystem P E
  | .addStream subscriptionId generation queueLimit =>
      { y with flow := (y.flow.addStream subscriptionId generation queueLimit).2 }
  | .submit subscriptionId generation payload =>
      let result := y.flow.submit hostSink subscriptionId generation
        (reportEncoder session subscriptionId generation payload)
      ofResult (result.1 != .invalid, result.2)
  | .acknowledge reportSequence acknowledgedBytes =>
      ofResult (y.flow.acknowledge hostSink reportSequence acknowledgedBytes)
  | .retire subscriptionId generation =>
      ofResult (y.flow.retire hostSink subscriptionId generation
        (barrierFrame session y.flow subscriptionId generation))
  | .beginRecovery subscriptionId previousGeneration nextGeneration queueLimit =>
      ofResult (y.flow.beginRecovery hostSink subscriptionId previousGeneration nextGeneration
        queueLimit (barrierFrame session y.flow subscriptionId previousGeneration))
  | .control frame =>
      if frame.sequence?.isSome then y
      else
        let sent := y.flow.sink.enqueueControl frame
        { y.onOutput sent.2 with failed := !sent.1 }
  | .reply frame =>
      if frame.sequence?.isSome then y
      else
        let sent := y.flow.sink.enqueueReply frame
        { y.onOutput sent.2 with failed := !sent.1 }
  | _ => y

def step (session : String) (y : OutputSystem P E) : OutputMove P E → OutputSystem P E
  | .pop => y.onOutput y.flow.sink.pop
  | .write => y.onOutput y.flow.sink.write
  | .countOff => y.onOutput y.flow.sink.countOff
  | .stop => y.onOutput y.flow.sink.stop
  | move => if y.failed then y else y.call session move

def run (session : String) (y : OutputSystem P E) (moves : List (OutputMove P E)) : OutputSystem P E :=
  moves.foldl (step session) y

/-- Nothing has been sent yet. -/
def initial : OutputSystem P E := { flow := { sink := {} } }

end OutputSystem

/-! ## The backlog -/

namespace BoundedOutput

variable {o : BoundedOutput (HostFrame P E)}

/-- What the writer's counters still count: what it holds and what is pending. -/
def queue (o : BoundedOutput (HostFrame P E)) : List (PendingOutput (HostFrame P E)) :=
  match o.held with
  | .nothing => o.pending
  | .popped first => first :: o.pending
  | .written first => first :: o.pending

/-- What the peer cannot read yet. -/
def unwritten (o : BoundedOutput (HostFrame P E)) : List (PendingOutput (HostFrame P E)) :=
  match o.held with
  | .popped first => first :: o.pending
  | _ => o.pending

/-- The reports that are still counted, oldest first. -/
def backlog (o : BoundedOutput (HostFrame P E)) : List (HostFrame P E) :=
  (o.queue.filter fun pending => decide (pending.classification = .report)).map (·.frame)

/-- The numbers of the reports that were enqueued, in order. -/
def numbers (o : BoundedOutput (HostFrame P E)) : List Nat :=
  o.visible.filterMap HostFrame.sequence? ++
    (o.unwritten.map (·.frame)).filterMap HostFrame.sequence?

def textBytes (texts : List (HostFrame P E)) : Nat := (texts.map fun text => Text.size text + 1).sum

/-- The counted reports are the last of the outstanding ones, and they are counted right. -/
structure Backlogged (o : BoundedOutput (HostFrame P E)) (outstanding : List (HostFrame P E))
    (nextSequence : Nat) : Prop where
  classified : ∀ pending ∈ o.queue,
    pending.classification = .report ↔ pending.frame.sequence?.isSome = true
  latest : o.backlog <:+ outstanding
  frames_eq : o.reportFrames = o.backlog.length
  bytes_eq : o.reportBytes = textBytes o.backlog
  numbered : o.numbers = List.range' 1 (nextSequence - 1)
  positive : 0 < nextSequence

theorem textBytes_suffix {front back : List (HostFrame P E)} (suffix : back <:+ front) :
    textBytes back ≤ textBytes front := by
  obtain ⟨rest, rfl⟩ := suffix
  simp [textBytes]

@[simp] theorem textBytes_append (front back : List (HostFrame P E)) :
    textBytes (front ++ back) = textBytes front + textBytes back := by
  simp [textBytes]

@[simp] theorem reportsRefused_fail (o : BoundedOutput (HostFrame P E)) :
    o.fail.reportsRefused = o.reportsRefused := by
  unfold fail
  split <;> rfl

/-- The outcomes of `Enqueue`. -/
theorem enqueue_cases (o : BoundedOutput (HostFrame P E)) (frame : HostFrame P E)
    (classification : OutputClass) (maximumFrames maximumBytes maximumFrameBytes : Nat) :
    (∃ o', o.enqueue frame classification maximumFrames maximumBytes maximumFrameBytes =
        (false, o') ∧ o'.reportsRefused = o.reportsRefused) ∨
      (o.healthy = true ∧ Text.size frame < maximumFrameBytes ∧
        (o.frames classification < maximumFrames →
          o.retained classification + (Text.size frame + 1) ≤ maximumBytes → False) ∧
        ∃ o', o.enqueue frame classification maximumFrames maximumBytes maximumFrameBytes =
          (false, o') ∧
          o'.reportsRefused = (o.reportsRefused || decide (classification = .report))) ∨
      (o.healthy = true ∧
        o.enqueue frame classification maximumFrames maximumBytes maximumFrameBytes =
          (true, o.entered frame classification)) := by
  unfold enqueue
  split
  · exact Or.inl ⟨o, rfl, rfl⟩
  · rename_i running
    have healthy : o.healthy = true := by
      cases healthy : o.healthy <;> simp_all
    split
    · exact Or.inl ⟨o.fail, rfl, reportsRefused_fail o⟩
    · rename_i sized
      dsimp only
      split
      · rename_i full
        refine Or.inr (Or.inl ⟨healthy, by omega, fun _ _ => by omega, _, rfl, rfl⟩)
      · exact Or.inr (Or.inr ⟨healthy, rfl⟩)

section Entered

variable (frame : HostFrame P E) (classification : OutputClass)

@[simp] theorem held_entered : (o.entered frame classification).held = o.held := by
  cases classification <;> rfl

@[simp] theorem visible_entered : (o.entered frame classification).visible = o.visible := by
  cases classification <;> rfl

@[simp] theorem healthy_entered : (o.entered frame classification).healthy = o.healthy := by
  cases classification <;> rfl

@[simp] theorem reportsRefused_entered :
    (o.entered frame classification).reportsRefused = o.reportsRefused := by
  cases classification <;> rfl

@[simp] theorem queue_entered :
    (o.entered frame classification).queue = o.queue ++ [⟨frame, classification⟩] := by
  unfold queue
  rw [held_entered]
  cases o.held <;> rfl

@[simp] theorem unwritten_entered :
    (o.entered frame classification).unwritten = o.unwritten ++ [⟨frame, classification⟩] := by
  unfold unwritten
  rw [held_entered]
  cases o.held <;> rfl

theorem numbers_entered :
    (o.entered frame classification).numbers = o.numbers ++ frame.sequence?.toList := by
  unfold numbers
  rw [visible_entered, unwritten_entered, List.map_append, List.filterMap_append,
    ← List.append_assoc]
  cases number : frame.sequence? <;> simp [number]

end Entered

theorem classified_entered {frame : HostFrame P E} {classification : OutputClass}
    (classified : ∀ pending ∈ o.queue,
      pending.classification = .report ↔ pending.frame.sequence?.isSome = true)
    (here : classification = .report ↔ frame.sequence?.isSome = true) :
    ∀ pending ∈ (o.entered frame classification).queue,
      pending.classification = .report ↔ pending.frame.sequence?.isSome = true := by
  intro pending member
  rw [queue_entered, List.mem_append, List.mem_singleton] at member
  rcases member with before | rfl
  · exact classified pending before
  · exact here

/-- A report that is enqueued is the last one outstanding. -/
theorem Backlogged.reported {outstanding : List (HostFrame P E)} {nextSequence : Nat}
    (backlogged : Backlogged o outstanding nextSequence) {frame : HostFrame P E}
    (number : frame.sequence? = some nextSequence) :
    Backlogged (o.entered frame .report) (outstanding ++ [frame]) (nextSequence + 1) := by
  have backlog : (o.entered frame .report).backlog = o.backlog ++ [frame] := by
    unfold BoundedOutput.backlog
    rw [queue_entered]
    simp
  refine
    { classified := classified_entered backlogged.classified (by simp [number])
      latest := ?_
      frames_eq := ?_
      bytes_eq := ?_
      numbered := ?_
      positive := Nat.succ_pos _ }
  · rw [backlog]
    obtain ⟨rest, split⟩ := backlogged.latest
    exact ⟨rest, by rw [← List.append_assoc, split]⟩
  · rw [backlog, List.length_append]
    exact congrArg (· + 1) backlogged.frames_eq
  · rw [backlog, textBytes_append, ← backlogged.bytes_eq]
    simp [textBytes, entered, counted, retained]
  · obtain ⟨n, rfl⟩ : ∃ n, nextSequence = n + 1 :=
      ⟨nextSequence - 1, (Nat.succ_pred_eq_of_pos backlogged.positive).symm⟩
    rw [numbers_entered, backlogged.numbered, number]
    simp [List.range'_concat, Nat.add_comm]

/-- Another frame leaves the reports alone. -/
theorem Backlogged.plain {outstanding : List (HostFrame P E)} {nextSequence : Nat}
    (backlogged : Backlogged o outstanding nextSequence) {frame : HostFrame P E}
    (plain : frame.sequence? = none) {classification : OutputClass}
    (other : classification ≠ .report) :
    Backlogged (o.entered frame classification) outstanding nextSequence := by
  have counts : (o.entered frame classification).reportFrames = o.reportFrames ∧
      (o.entered frame classification).reportBytes = o.reportBytes := by
    cases classification with
    | report => exact absurd rfl other
    | control => exact ⟨rfl, rfl⟩
    | reply => exact ⟨rfl, rfl⟩
  have backlog : (o.entered frame classification).backlog = o.backlog := by
    unfold BoundedOutput.backlog
    rw [queue_entered]
    simp [other]
  refine
    { classified := classified_entered backlogged.classified (by simp [plain, other])
      latest := ?_
      frames_eq := ?_
      bytes_eq := ?_
      numbered := ?_
      positive := backlogged.positive }
  · rw [backlog]
    exact backlogged.latest
  · rw [backlog]
    exact counts.1.trans backlogged.frames_eq
  · rw [backlog]
    exact counts.2.trans backlogged.bytes_eq
  · rw [numbers_entered, plain]
    simpa using backlogged.numbered

/-! ## The writer -/

/-- The writer's steps do not touch what was refused. -/
theorem reportsRefused_pop : o.pop.reportsRefused = o.reportsRefused := by
  unfold pop
  split <;> rfl

theorem reportsRefused_write : o.write.reportsRefused = o.reportsRefused := by
  unfold write
  split <;> rfl

theorem reportsRefused_counted (classification : OutputClass) (frames retained : Nat) :
    (o.counted classification frames retained).reportsRefused = o.reportsRefused := by
  cases classification <;> rfl

theorem healthy_counted (classification : OutputClass) (frames retained : Nat) :
    (o.counted classification frames retained).healthy = o.healthy := by
  cases classification <;> rfl

theorem reportsRefused_countOff : o.countOff.reportsRefused = o.reportsRefused := by
  unfold countOff
  split
  · exact reportsRefused_counted _ _ _
  · rfl

theorem healthy_pop : o.pop.healthy = o.healthy := by
  unfold pop
  split <;> rfl

theorem healthy_write : o.write.healthy = o.healthy := by
  unfold write
  split <;> rfl

theorem healthy_countOff : o.countOff.healthy = o.healthy := by
  unfold countOff
  split
  · exact healthy_counted _ _ _
  · rfl

/-- The same reports are counted, and the same were enqueued. -/
theorem Backlogged.of_same {o' : BoundedOutput (HostFrame P E)} {outstanding : List (HostFrame P E)}
    {nextSequence : Nat} (backlogged : Backlogged o outstanding nextSequence)
    (queue : o'.queue = o.queue) (frames : o'.reportFrames = o.reportFrames)
    (bytes : o'.reportBytes = o.reportBytes) (numbers : o'.numbers = o.numbers) :
    Backlogged o' outstanding nextSequence := by
  have backlog : o'.backlog = o.backlog := by
    unfold BoundedOutput.backlog
    rw [queue]
  exact
    { classified := by rw [queue]; exact backlogged.classified
      latest := by rw [backlog]; exact backlogged.latest
      frames_eq := by rw [backlog, frames]; exact backlogged.frames_eq
      bytes_eq := by rw [backlog, bytes]; exact backlogged.bytes_eq
      numbered := by rw [numbers]; exact backlogged.numbered
      positive := backlogged.positive }

theorem Backlogged.pop {outstanding : List (HostFrame P E)} {nextSequence : Nat}
    (backlogged : Backlogged o outstanding nextSequence) :
    Backlogged o.pop outstanding nextSequence := by
  unfold BoundedOutput.pop
  split
  · rename_i first rest held pending
    refine backlogged.of_same ?_ rfl rfl ?_
    · simp only [queue, held, pending]
    · simp only [numbers, unwritten, held, pending]
  · exact backlogged

theorem Backlogged.write {outstanding : List (HostFrame P E)} {nextSequence : Nat}
    (backlogged : Backlogged o outstanding nextSequence) :
    Backlogged o.write outstanding nextSequence := by
  unfold BoundedOutput.write
  split
  · rename_i first held
    refine backlogged.of_same ?_ rfl rfl ?_
    · simp only [queue, held]
    · simp only [numbers, unwritten, held, List.map_cons, List.filterMap_append,
        List.append_assoc]
      cases number : first.frame.sequence? <;> simp [number]
  · exact backlogged

/-- The frame leaves the queue, whatever the counters say. -/
theorem released_queue {first : PendingOutput (HostFrame P E)} (held : o.held = .written first)
    (frames retained : Nat) :
    BoundedOutput.queue { o.counted first.classification frames retained with held := .nothing } =
        o.pending ∧
      BoundedOutput.numbers
        { o.counted first.classification frames retained with held := .nothing } = o.numbers := by
  have pending : (o.counted first.classification frames retained).pending = o.pending := by
    cases first.classification <;> rfl
  have visible : (o.counted first.classification frames retained).visible = o.visible := by
    cases first.classification <;> rfl
  refine ⟨pending, ?_⟩
  simp only [numbers, unwritten, held, pending, visible]

/-- The reports that are counted while the writer holds a frame it has written. -/
theorem backlog_written {first : PendingOutput (HostFrame P E)} (held : o.held = .written first) :
    o.backlog = (if first.classification = .report then [first.frame] else []) ++
      (o.pending.filter fun pending => decide (pending.classification = .report)).map (·.frame) := by
  have queued : o.queue = first :: o.pending := by simp only [queue, held]
  unfold backlog
  rw [queued]
  split
  · rename_i report
    simp [report]
  · rename_i other
    simp [other]

/-- The frame is counted off with the right counters. -/
theorem Backlogged.released {outstanding : List (HostFrame P E)} {nextSequence : Nat}
    (backlogged : Backlogged o outstanding nextSequence)
    {first : PendingOutput (HostFrame P E)} (held : o.held = .written first)
    {frames retained : Nat} (framesRight : first.classification = .report →
      frames + 1 = o.reportFrames)
    (bytesRight : first.classification = .report →
      retained + (Text.size first.frame + 1) = o.reportBytes) :
    Backlogged { o.counted first.classification frames retained with held := .nothing }
      outstanding nextSequence := by
  obtain ⟨after, same⟩ := released_queue held frames retained
  have counted := backlog_written held
  have remaining : BoundedOutput.backlog
      { o.counted first.classification frames retained with held := .nothing } =
        (o.pending.filter fun pending => decide (pending.classification = .report)).map
          (·.frame) := by
    unfold BoundedOutput.backlog
    rw [after]
  rw [← remaining] at counted
  have counts := backlogged.frames_eq
  have weights := backlogged.bytes_eq
  rw [counted] at counts weights
  refine
    { classified := ?_
      latest := ?_
      frames_eq := ?_
      bytes_eq := ?_
      numbered := same.trans backlogged.numbered
      positive := backlogged.positive }
  · rw [after]
    intro pending member
    refine backlogged.classified pending ?_
    simp only [queue, held]
    exact List.mem_cons_of_mem _ member
  · refine List.IsSuffix.trans ?_ backlogged.latest
    rw [counted]
    exact List.suffix_append _ _
  · by_cases report : first.classification = .report
    · rw [if_pos report, List.length_append, List.length_singleton, ← framesRight report] at counts
      have here : (o.counted first.classification frames retained).reportFrames = frames := by
        rw [report]
        rfl
      refine here.trans ?_
      omega
    · rw [if_neg report] at counts
      refine Eq.trans ?_ counts
      cases which : first.classification with
      | report => exact absurd which report
      | control => rfl
      | reply => rfl
  · by_cases report : first.classification = .report
    · have single : textBytes [first.frame] = Text.size first.frame + 1 := by simp [textBytes]
      rw [if_pos report, textBytes_append, ← bytesRight report, single] at weights
      have here : (o.counted first.classification frames retained).reportBytes = retained := by
        rw [report]
        rfl
      refine here.trans ?_
      omega
    · rw [if_neg report] at weights
      refine Eq.trans ?_ weights
      cases which : first.classification with
      | report => exact absurd which report
      | control => rfl
      | reply => rfl

/-- The counters were what they had to be, so they do not wrap. -/
theorem Backlogged.countOff {outstanding : List (HostFrame P E)} {nextSequence : Nat}
    (backlogged : Backlogged o outstanding nextSequence)
    (few : outstanding.length ≤ kSessionReportCredit)
    (small : textBytes outstanding ≤ kSessionByteCredit) :
    Backlogged o.countOff outstanding nextSequence := by
  have framesLe : o.reportFrames ≤ kSessionReportCredit := by
    rw [backlogged.frames_eq]
    exact backlogged.latest.length_le.trans few
  have bytesLe : o.reportBytes ≤ kSessionByteCredit := by
    rw [backlogged.bytes_eq]
    exact (textBytes_suffix backlogged.latest).trans small
  unfold BoundedOutput.countOff
  split
  · rename_i first held
    have counted := backlog_written held
    refine backlogged.released held (fun report => ?_) (fun report => ?_)
    · have counts := backlogged.frames_eq
      rw [counted, if_pos report, List.length_append, List.length_singleton] at counts
      rw [report, frames, subSize_of_le (by unfold kSessionReportCredit at framesLe; omega) (by omega)]
      omega
    · have weights := backlogged.bytes_eq
      have single : textBytes [first.frame] = Text.size first.frame + 1 := by simp [textBytes]
      rw [counted, if_pos report, textBytes_append, single] at weights
      rw [report, retained, subSize_of_le (by unfold kSessionByteCredit at bytesLe; omega) (by omega)]
      omega
  · exact backlogged

end BoundedOutput

/-! ## The account over the backlog -/

namespace OutputSystem

open BoundedOutput

variable {s : Flow (BoundedOutput (HostFrame P E)) P E}

/-- The reports of the account carry their numbers. -/
structure Numbering (s : Flow (BoundedOutput (HostFrame P E)) P E) : Prop where
  outstanding : ∀ frame ∈ s.outstanding, frame.encoded.sequence? = some frame.sequence
  queued : ∀ frame ∈ s.queued, ∀ number, (frame.encode number).sequence? = some number

/-- While the output is healthy, its backlog is the end of the outstanding reports. -/
structure Fitting (s : Flow (BoundedOutput (HostFrame P E)) P E) : Prop where
  accepted : s.sink.reportsRefused = false
  numbering : Numbering s
  backlogged : s.sink.healthy = true →
    Backlogged s.sink (s.outstanding.map fun frame => frame.encoded) s.nextSequence

theorem textBytes_outstanding (books : Accounted s) :
    textBytes (s.outstanding.map fun frame => frame.encoded) = s.outstandingBytes := by
  rw [books.numbered.bytes_eq, textBytes, frameBytes, List.map_map]
  rfl

/-- A report that the account may transmit finds room in the backlog. -/
theorem hostSink_report (books : Accounted s) (fitting : Fitting s) {stream : Stream}
    {encode : Nat → HostFrame P E} (fits : s.fits stream encode = true)
    (number : (encode s.nextSequence).sequence? = some s.nextSequence) :
    (∃ o, hostSink s.sink (encode s.nextSequence) = (false, o) ∧ o.reportsRefused = false) ∨
      s.sink.healthy = true ∧ hostSink s.sink (encode s.nextSequence) =
        (true, s.sink.entered (encode s.nextSequence) .report) := by
  have routed : hostSink s.sink (encode s.nextSequence) =
      s.sink.enqueue (encode s.nextSequence) .report 64 1048576 kMaximumFrameBytes := by
    unfold hostSink
    rw [number]
    rfl
  rw [routed]
  rcases enqueue_cases s.sink (encode s.nextSequence) .report 64 1048576 kMaximumFrameBytes with
    ⟨o, refused, same⟩ | ⟨healthy, -, full, -⟩ | ⟨healthy, taken⟩
  · exact Or.inl ⟨o, refused, same.trans fitting.accepted⟩
  · exfalso
    have backlogged := fitting.backlogged healthy
    have room := fits
    simp only [ReportCreditManager.fits, canTransmit, Bool.and_eq_true, decide_eq_true_eq] at room
    obtain ⟨⟨⟨frames, held⟩, bytes⟩, -⟩ := room
    have counted := backlogged.latest.length_le
    rw [List.length_map, ← backlogged.frames_eq] at counted
    have weighed := textBytes_suffix backlogged.latest
    rw [textBytes_outstanding books, ← backlogged.bytes_eq] at weighed
    unfold kSessionReportCredit at frames
    unfold kSessionByteCredit at held bytes
    refine full ?_ ?_
    · change s.sink.reportFrames < 64
      omega
    · change s.sink.reportBytes + _ ≤ 1048576
      omega
  · exact Or.inr ⟨healthy, taken⟩

/-- A frame that is no report leaves the reports alone. -/
theorem enqueue_plain (fitting : Fitting s) {frame : HostFrame P E} (plain : frame.sequence? = none)
    {classification : OutputClass} (other : classification ≠ .report)
    (maximumFrames maximumBytes maximumFrameBytes : Nat) :
    (∃ o, s.sink.enqueue frame classification maximumFrames maximumBytes maximumFrameBytes =
        (false, o) ∧ o.reportsRefused = false) ∨
      ∃ o, s.sink.enqueue frame classification maximumFrames maximumBytes maximumFrameBytes =
        (true, o) ∧ Fitting { s with sink := o } := by
  rcases enqueue_cases s.sink frame classification maximumFrames maximumBytes maximumFrameBytes with
    ⟨o, refused, same⟩ | ⟨-, -, -, o, refused, same⟩ | ⟨healthy, taken⟩
  · exact Or.inl ⟨o, refused, same.trans fitting.accepted⟩
  · refine Or.inl ⟨o, refused, same.trans ?_⟩
    simp [fitting.accepted, other]
  · refine Or.inr ⟨_, taken, ?_⟩
    exact
      { accepted := (reportsRefused_entered frame classification).trans fitting.accepted
        numbering := ⟨fitting.numbering.outstanding, fitting.numbering.queued⟩
        backlogged := fun _ => (fitting.backlogged healthy).plain plain other }

/-- A report is transmitted. -/
theorem Fitting.transmitted (fitting : Fitting s) (stream : Stream)
    (frame : Frame (HostFrame P E)) (cumulative : Nat) (healthy : s.sink.healthy = true)
    (number : (frame.encode s.nextSequence).sequence? = some s.nextSequence) :
    Fitting (s.transmitted stream frame cumulative
      (s.sink.entered (frame.encode s.nextSequence) .report)) where
  accepted := (reportsRefused_entered _ _).trans fitting.accepted
  numbering :=
    { outstanding := by
        intro other member
        rw [transmitted_outstanding, List.mem_append, List.mem_singleton] at member
        rcases member with before | rfl
        · exact fitting.numbering.outstanding other before
        · exact number
      queued := fitting.numbering.queued }
  backlogged := by
    intro _
    rw [transmitted_outstanding, List.map_append]
    exact (fitting.backlogged healthy).reported number

/-- `Drain` forwards reports that find room, or stops because the output was not healthy. -/
theorem fitting_keepsForward :
    KeepsForward (hostSink (P := P) (E := E)) Fitting (fun s => s.sink.reportsRefused = false) where
  forwarded := by
    intro s stream pending rest cumulative sink books fitting forwards ready written
    have own := fitting.numbering.queued pending (by rw [forwards.head]; simp) s.nextSequence
    rcases hostSink_report books fitting forwards.fits own with
      ⟨o, refused, -⟩ | ⟨healthy, taken⟩
    · rw [refused] at written
      cases written
    · rw [taken] at written
      obtain rfl := (Prod.mk.inj written).2
      have dequeued : Fitting (s.dequeue stream pending rest) :=
        { accepted := fitting.accepted
          numbering := ⟨fitting.numbering.outstanding, fun frame member =>
            fitting.numbering.queued frame (by rw [forwards.head]; exact List.mem_cons_of_mem _ member)⟩
          backlogged := fitting.backlogged }
      exact dequeued.transmitted _ pending cumulative healthy own
  lost := by
    intro s stream pending rest sink books fitting forwards refuses
    have own := fitting.numbering.queued pending (by rw [forwards.head]; simp) s.nextSequence
    cases refuses with
    | unready never => exact fitting.accepted
    | unwritten refused =>
        rcases hostSink_report books fitting forwards.fits own with
          ⟨o, result, accepted⟩ | ⟨-, taken⟩
        · rw [show hostSink (s.dequeue stream pending rest).sink
            (pending.encode (s.dequeue stream pending rest).nextSequence) = _ from result] at refused
          obtain rfl := (Prod.mk.inj refused).2
          exact accepted
        · rw [show hostSink (s.dequeue stream pending rest).sink
            (pending.encode (s.dequeue stream pending rest).nextSequence) = _ from taken] at refused
          cases refused

/-- What holds of the system: the books and the backlog are right until the channel fails. -/
structure Sound (y : OutputSystem P E) : Prop where
  accepted : y.flow.sink.reportsRefused = false
  books : y.failed = false → Accounted y.flow ∧ Fitting y.flow

/-- A call that succeeded kept both; a call that failed refused no report. -/
theorem sound_of_outcome {result : Bool × Flow (BoundedOutput (HostFrame P E)) P E}
    (outcome : Outcome Fitting (fun s => s.sink.reportsRefused = false) result) :
    Sound (ofResult result) := by
  unfold Outcome at outcome
  cases succeeded : result.1 with
  | true =>
      rw [succeeded, if_pos rfl] at outcome
      exact ⟨outcome.2.accepted, fun _ => outcome⟩
  | false =>
      rw [succeeded, if_neg (by simp)] at outcome
      refine ⟨outcome, fun running => ?_⟩
      rw [ofResult, succeeded] at running
      cases running

theorem outcome_forget {I J K : Flow (BoundedOutput (HostFrame P E)) P E → Prop}
    {result : Bool × Flow (BoundedOutput (HostFrame P E)) P E}
    (outcome : Outcome (fun s => I s ∧ K s) J result) : Outcome I J result := by
  unfold Outcome at outcome ⊢
  split
  · rename_i succeeded
    rw [if_pos succeeded] at outcome
    exact ⟨outcome.1, outcome.2.1⟩
  · rename_i failed
    rw [if_neg failed] at outcome
    exact outcome

theorem submit_sound (session : String) (books : Accounted s) (fitting : Fitting s)
    (subscriptionId : String) (generation : Nat) (payload : P) :
    Outcome Fitting (fun s => s.sink.reportsRefused = false)
      ((s.submit hostSink subscriptionId generation
          (reportEncoder session subscriptionId generation payload)).1 != .invalid,
        (s.submit hostSink subscriptionId generation
          (reportEncoder session subscriptionId generation payload)).2) := by
  rcases submit_cases hostSink s subscriptionId generation
      (reportEncoder session subscriptionId generation payload) with
    ⟨result, -⟩ | ⟨result, -⟩ | ⟨stream, submits, fits, empty, written⟩ |
    ⟨stream, submits, waits, room, result⟩
  · rw [result]
    exact fitting.accepted
  · rw [result]
    exact ⟨books, fitting⟩
  · have routed := hostSink_report books fitting fits rfl
    rcases written with ⟨cumulative, sink, ready, accepted, result⟩ | ⟨sink, refuses, result⟩
    · rw [result]
      rcases routed with ⟨o, refused, -⟩ | ⟨healthy, taken⟩
      · rw [refused] at accepted
        cases accepted
      · rw [taken] at accepted
        obtain rfl := (Prod.mk.inj accepted).2
        have balanced := transmitted_accounted books ready.found fits cumulative
          (s.sink.entered (reportEncoder session subscriptionId generation payload s.nextSequence)
            .report)
        have next := fitting.transmitted stream
          (s.reportFrame subscriptionId generation
            (reportEncoder session subscriptionId generation payload)) cumulative healthy rfl
        exact ⟨⟨balanced.numbered, balanced.reserved, balanced.tabled, balanced.unwrapped⟩,
          ⟨next.accepted, ⟨next.numbering.outstanding, next.numbering.queued⟩, next.backlogged⟩⟩
    · rw [result]
      cases refuses with
      | unready never => exact fitting.accepted
      | unwritten refused =>
          rcases routed with ⟨o, refusal, accepted⟩ | ⟨-, taken⟩
          · rw [show hostSink s.sink ((s.reportFrame subscriptionId generation
              (reportEncoder session subscriptionId generation payload)).encode s.nextSequence) = _
              from refusal] at refused
            obtain rfl := (Prod.mk.inj refused).2
            exact accepted
          · rw [show hostSink s.sink ((s.reportFrame subscriptionId generation
              (reportEncoder session subscriptionId generation payload)).encode s.nextSequence) = _
              from taken] at refused
            cases refused
  · rw [result]
    refine ⟨enqueued_accounted books submits.found submits.live room, ?_⟩
    exact
      { accepted := fitting.accepted
        numbering :=
          { outstanding := fitting.numbering.outstanding
            queued := by
              intro frame member
              rw [enqueued_queued, List.mem_append, List.mem_singleton] at member
              rcases member with before | rfl
              · exact fitting.numbering.queued frame before
              · exact fun _ => rfl }
        backlogged := fitting.backlogged }

/-- The peer acknowledges only what it can read. -/
def obedient (y : OutputSystem P E) : OutputMove P E → Prop
  | .acknowledge reportSequence _ => some reportSequence ∈ y.flow.sink.visible.map HostFrame.sequence?
  | _ => True

/-- The report that is acknowledged is not one the writer has still to count off. -/
def countedFirst (y : OutputSystem P E) : OutputMove P E → Prop
  | .acknowledge reportSequence _ =>
      match y.flow.sink.held with
      | .written first => first.frame.sequence? ≠ some reportSequence
      | _ => True
  | _ => True

instance (y : OutputSystem P E) (move : OutputMove P E) : Decidable (countedFirst y move) := by
  unfold countedFirst
  split
  · split <;> infer_instance
  · infer_instance

instance [DecidableEq P] [DecidableEq E] (y : OutputSystem P E) (move : OutputMove P E) :
    Decidable (obedient y move) := by
  unfold obedient
  split <;> infer_instance

/-- A report that the peer can read and the writer has counted off is not in the backlog. -/
theorem notMem_backlog {o : BoundedOutput (HostFrame P E)} {outstanding : List (HostFrame P E)}
    {nextSequence reportSequence : Nat} (backlogged : Backlogged o outstanding nextSequence)
    (visible : some reportSequence ∈ o.visible.map HostFrame.sequence?)
    (counted : ∀ first, o.held = .written first → first.frame.sequence? ≠ some reportSequence)
    {frame : HostFrame P E} (number : frame.sequence? = some reportSequence) :
    frame ∉ o.backlog := by
  intro member
  have distinct : o.numbers.Nodup := by
    rw [backlogged.numbered]
    exact List.nodup_range'
  rw [numbers, List.nodup_append] at distinct
  have read : reportSequence ∈ o.visible.filterMap HostFrame.sequence? := by
    obtain ⟨text, there, same⟩ := List.mem_map.1 visible
    exact List.mem_filterMap.2 ⟨text, there, same⟩
  obtain ⟨entry, inQueue, rfl⟩ := List.mem_map.1 member
  have queued := (List.mem_filter.1 inQueue).1
  have waits : entry ∈ o.unwritten := by
    cases held : o.held with
    | nothing =>
        simp only [queue, held] at queued
        simpa only [unwritten, held] using queued
    | popped first =>
        simp only [queue, held] at queued
        simpa only [unwritten, held] using queued
    | written first =>
        simp only [queue, held] at queued
        rcases List.mem_cons.1 queued with rfl | rest
        · exact absurd number (counted entry held)
        · simpa only [unwritten, held] using rest
  exact distinct.2.2 reportSequence read reportSequence
    (List.mem_filterMap.2 ⟨entry.frame, List.mem_map_of_mem waits, number⟩) rfl

theorem suffix_of_notMem {α : Type} {back front rest : List α} {target : α}
    (suffix : back <:+ front ++ target :: rest) (gone : target ∉ back) : back <:+ rest := by
  rcases List.suffix_or_suffix_of_suffix suffix (List.suffix_append front (target :: rest)) with
    within | around
  · rcases List.suffix_cons_iff.1 within with rfl | later
    · exact absurd List.mem_cons_self gone
    · exact later
  · exact absurd (around.subset List.mem_cons_self) gone

theorem acknowledge_sound (books : Accounted s) (fitting : Fitting s)
    {reportSequence acknowledgedBytes : Nat}
    (visible : some reportSequence ∈ s.sink.visible.map HostFrame.sequence?)
    (counted : ∀ first, s.sink.held = .written first →
      first.frame.sequence? ≠ some reportSequence) :
    Outcome Fitting (fun s => s.sink.reportsRefused = false)
      (s.acknowledge hostSink reportSequence acknowledgedBytes) := by
  rcases acknowledge_cases hostSink books reportSequence acknowledgedBytes with
    refused | ⟨front, target, rest, split, -, number, -, balanced, result⟩
  · rw [refused]
    exact fitting.accepted
  · rw [result]
    have kept : ∀ frame ∈ rest, frame ∈ s.outstanding := by
      intro frame member
      rw [split]
      exact List.mem_append_right _ (List.mem_cons_of_mem _ member)
    have released : Fitting (s.released target rest) :=
      { accepted := fitting.accepted
        numbering := ⟨fun frame member => fitting.numbering.outstanding frame (kept frame member),
          fitting.numbering.queued⟩
        backlogged := by
          intro healthy
          have backlogged := fitting.backlogged healthy
          have here : target.encoded.sequence? = some reportSequence := by
            rw [← number]
            exact fitting.numbering.outstanding target (by rw [split]; simp)
          have latest := backlogged.latest
          rw [split, List.map_append, List.map_cons] at latest
          exact { backlogged with
            latest := suffix_of_notMem latest (notMem_backlog backlogged visible counted here) } }
    exact outcome_forget (drain_keeps fitting_keepsForward balanced released)

/-- A barrier is no report. -/
theorem hostSink_barrier (fitting : Fitting s) (session subscriptionId : String)
    (generation last : Nat) :
    (∃ o, hostSink s.sink (.retired session subscriptionId generation last) = (false, o) ∧
        o.reportsRefused = false) ∨
      ∃ o, hostSink s.sink (.retired session subscriptionId generation last) = (true, o) ∧
        Fitting { s with sink := o } :=
  enqueue_plain fitting rfl (by simp) 256 (256 * 4096) 4096

theorem retire_sound (session : String) (books : Accounted s) (fitting : Fitting s)
    (subscriptionId : String) (generation : Nat) :
    Outcome Fitting (fun s => s.sink.reportsRefused = false)
      (s.retire hostSink subscriptionId generation
        (barrierFrame session s subscriptionId generation)) := by
  have routed := hostSink_barrier fitting session subscriptionId generation
    (s.lastTransmitted subscriptionId generation)
  rcases retire_cases hostSink s subscriptionId generation
      (barrierFrame session s subscriptionId generation) with
    ⟨refused, -⟩ | ⟨stream, found, live, ⟨sink, written, result⟩ | ⟨sink, refused, result⟩⟩
  · rw [refused]
    exact fitting.accepted
  · rw [result]
    rcases routed with ⟨o, refusal, -⟩ | ⟨o, taken, next⟩
    · rw [barrierFrame, refusal] at written
      cases written
    · rw [barrierFrame, taken] at written
      obtain rfl := (Prod.mk.inj written).2
      have retired : Fitting (s.retired subscriptionId generation stream
          (barrierFrame session s subscriptionId generation) o) := by
        rw [retired_eq books found]
        exact
          { accepted := next.accepted
            numbering := ⟨next.numbering.outstanding, fun frame member =>
              next.numbering.queued frame (List.mem_of_mem_filter member)⟩
            backlogged := next.backlogged }
      exact outcome_forget
        (drain_keeps fitting_keepsForward (retired_books books found _ o) retired)
  · rw [result]
    rcases routed with ⟨o, refusal, accepted⟩ | ⟨o, taken, -⟩
    · rw [barrierFrame, refusal] at refused
      obtain rfl := (Prod.mk.inj refused).2
      exact accepted
    · rw [barrierFrame, taken] at refused
      cases refused

theorem addStream_sound (books : Accounted s) (fitting : Fitting s) (subscriptionId : String)
    (generation queueLimit : Nat) :
    Accounted (s.addStream subscriptionId generation queueLimit).2 ∧
      Fitting (s.addStream subscriptionId generation queueLimit).2 := by
  rcases addStream_cases s subscriptionId generation queueLimit with refused | ⟨admits, result⟩
  · rw [refused]
    exact ⟨books, fitting⟩
  · rw [result]
    exact ⟨added_accounted books admits,
      ⟨fitting.accepted, ⟨fitting.numbering.outstanding, fitting.numbering.queued⟩,
        fitting.backlogged⟩⟩

theorem beginRecovery_sound (session : String) (books : Accounted s) (fitting : Fitting s)
    (subscriptionId : String) (previousGeneration nextGeneration queueLimit : Nat) :
    Outcome Fitting (fun s => s.sink.reportsRefused = false)
      (s.beginRecovery hostSink subscriptionId previousGeneration nextGeneration queueLimit
        (barrierFrame session s subscriptionId previousGeneration)) := by
  have previous := retire_sound session books fitting subscriptionId previousGeneration
  unfold beginRecovery
  split
  · exact fitting.accepted
  · dsimp only
    split
    · rename_i succeeded
      rw [Outcome, if_pos succeeded] at previous
      have added := addStream_sound previous.1 previous.2 subscriptionId nextGeneration queueLimit
      unfold Outcome
      split
      · exact added
      · exact added.2.accepted
    · rename_i failed
      rw [Outcome, if_neg failed] at previous
      exact previous

/-! ## Runs -/

/-- A step of the writer. -/
theorem onOutput_sound {y : OutputSystem P E} (sound : Sound y)
    {o : BoundedOutput (HostFrame P E)} (refused : o.reportsRefused = y.flow.sink.reportsRefused)
    (healthy : o.healthy = y.flow.sink.healthy)
    (backlogged : ∀ outstanding nextSequence, outstanding.length ≤ kSessionReportCredit →
      textBytes outstanding ≤ kSessionByteCredit →
      Backlogged y.flow.sink outstanding nextSequence → Backlogged o outstanding nextSequence) :
    Sound (y.onOutput o) := by
  refine ⟨refused.trans sound.accepted, fun running => ?_⟩
  obtain ⟨books, fitting⟩ := sound.books running
  refine ⟨⟨books.numbered, books.reserved, books.tabled, books.unwrapped⟩, ?_⟩
  exact
    { accepted := refused.trans fitting.accepted
      numbering := ⟨fitting.numbering.outstanding, fitting.numbering.queued⟩
      backlogged := fun up => backlogged _ _
        (by rw [List.length_map]; exact books.numbered.frames_le)
        ((textBytes_outstanding books).trans_le books.numbered.bytes_le)
        (fitting.backlogged (healthy.symm.trans up)) }

/-- A frame that the protocol writes or answers on its own account. -/
theorem enqueued_sound {y : OutputSystem P E} (books : Accounted y.flow) (fitting : Fitting y.flow)
    {frame : HostFrame P E} (plain : frame.sequence? = none) {classification : OutputClass}
    (other : classification ≠ .report) (maximumFrames maximumBytes maximumFrameBytes : Nat) :
    Sound { y.onOutput (y.flow.sink.enqueue frame classification maximumFrames maximumBytes
        maximumFrameBytes).2 with
      failed := !(y.flow.sink.enqueue frame classification maximumFrames maximumBytes
        maximumFrameBytes).1 } := by
  rcases enqueue_plain fitting plain other maximumFrames maximumBytes maximumFrameBytes with
    ⟨o, refused, accepted⟩ | ⟨o, taken, next⟩
  · rw [refused]
    exact ⟨accepted, fun running => by cases running⟩
  · rw [taken]
    exact ⟨next.accepted, fun _ =>
      ⟨⟨books.numbered, books.reserved, books.tabled, books.unwrapped⟩, next⟩⟩

/-- A call of the protocol. -/
theorem call_sound (session : String) {y : OutputSystem P E} (books : Accounted y.flow)
    (fitting : Fitting y.flow) {move : OutputMove P E}
    (obeys : obedient y move) (counted : countedFirst y move) : Sound (y.call session move) := by
  have same : Sound y := ⟨fitting.accepted, fun _ => ⟨books, fitting⟩⟩
  cases move with
  | addStream subscriptionId generation queueLimit =>
      have added := addStream_sound books fitting subscriptionId generation queueLimit
      exact ⟨added.2.accepted, fun _ => added⟩
  | submit subscriptionId generation payload =>
      exact sound_of_outcome (submit_sound session books fitting subscriptionId generation payload)
  | acknowledge reportSequence acknowledgedBytes =>
      refine sound_of_outcome (acknowledge_sound books fitting obeys fun first held => ?_)
      simpa only [countedFirst, held] using counted
  | retire subscriptionId generation =>
      exact sound_of_outcome (retire_sound session books fitting subscriptionId generation)
  | beginRecovery subscriptionId previousGeneration nextGeneration queueLimit =>
      exact sound_of_outcome (beginRecovery_sound session books fitting subscriptionId
        previousGeneration nextGeneration queueLimit)
  | control frame =>
      simp only [call]
      split
      · exact same
      · rename_i plain
        exact enqueued_sound books fitting (by simpa using plain) (by simp) _ _ _
  | reply frame =>
      simp only [call]
      split
      · exact same
      · rename_i plain
        exact enqueued_sound books fitting (by simpa using plain) (by simp) _ _ _
  | pop => exact same
  | write => exact same
  | countOff => exact same
  | stop => exact same

/-- **One step** of the protocol, the writer or the peer. -/
theorem step_sound (session : String) {y : OutputSystem P E} (sound : Sound y)
    {move : OutputMove P E} (obeys : obedient y move) (counted : countedFirst y move) :
    Sound (y.step session move) := by
  have called : Sound (if y.failed then y else y.call session move) := by
    cases running : y.failed with
    | true => exact sound
    | false =>
        obtain ⟨books, fitting⟩ := sound.books running
        exact call_sound session books fitting obeys counted
  cases move with
  | pop => exact onOutput_sound sound reportsRefused_pop healthy_pop fun _ _ _ _ => Backlogged.pop
  | write =>
      exact onOutput_sound sound reportsRefused_write healthy_write fun _ _ _ _ => Backlogged.write
  | countOff =>
      exact onOutput_sound sound reportsRefused_countOff healthy_countOff
        fun _ _ few small backlogged => backlogged.countOff few small
  | stop =>
      exact onOutput_sound sound rfl rfl fun _ _ _ _ backlogged =>
        backlogged.of_same rfl rfl rfl rfl
  | _ => exact called

/-- Every step of a run satisfies `p` where it is taken. -/
def Always (session : String) (p : OutputSystem P E → OutputMove P E → Prop) :
    OutputSystem P E → List (OutputMove P E) → Prop
  | _, [] => True
  | y, move :: rest => p y move ∧ Always session p (y.step session move) rest

instance (session : String) (p : OutputSystem P E → OutputMove P E → Prop)
    [∀ y move, Decidable (p y move)] (y : OutputSystem P E) (moves : List (OutputMove P E)) :
    Decidable (Always session p y moves) := by
  induction moves generalizing y with
  | nil => exact inferInstanceAs (Decidable True)
  | cons move rest ih =>
      have := ih (y.step session move)
      exact inferInstanceAs (Decidable (_ ∧ _))

theorem run_sound (session : String) (moves : List (OutputMove P E)) : ∀ {y : OutputSystem P E},
    Sound y → Always session obedient y moves → Always session countedFirst y moves →
    Sound (y.run session moves) := by
  induction moves with
  | nil => exact fun sound _ _ => sound
  | cons move rest ih =>
      exact fun sound obeys counted =>
        ih (step_sound session sound obeys.1 counted.1) obeys.2 counted.2

theorem sound_initial : Sound (initial : OutputSystem P E) where
  accepted := rfl
  books := fun _ => ⟨accounted_initial _,
    { accepted := rfl
      numbering :=
        { outstanding := fun _ member => by cases member
          queued := fun _ member => by cases member }
      backlogged := fun _ =>
        { classified := fun _ member => by cases member
          latest := List.suffix_rfl
          frames_eq := rfl
          bytes_eq := rfl
          numbered := rfl
          positive := Nat.one_pos } }⟩

/-- **Reports find room.**  In every interleaving of the protocol's calls, the writer's steps and
acknowledgements of reports that the peer can read, with any reports and other frames: as long
as no acknowledgement overtakes the writer's count of the report it names, `EnqueueReport`
never fails for lack of frames or bytes. -/
theorem run_reports_fit (session : String) (moves : List (OutputMove P E))
    (obeys : Always session obedient initial moves)
    (counted : Always session countedFirst initial moves) :
    (initial.run session moves).flow.sink.reportsRefused = false :=
  (run_sound session moves sound_initial obeys counted).accepted

end OutputSystem

end System

namespace OutputSystem

/-- A stream and as many reports as it has credit for. -/
def burst (subscriptionId : String) : List (OutputMove Nat Unit) :=
  .addStream subscriptionId 1 16 :: List.replicate 16 (.submit subscriptionId 1 100)

/-- Four streams take all of the session's credit. -/
def fullBacklog : List (OutputMove Nat Unit) := burst "a" ++ burst "b" ++ burst "c" ++ burst "d"

theorem run_reports_fit_counted :
    (initial.run "g" (burst "a" ++ [.pop, .write, .countOff, .acknowledge 1 102,
      .submit "a" 1 100])).flow.sink.reportsRefused = false :=
  run_reports_fit "g" _ (by decide +kernel) (by decide +kernel)

/-- The writer has written the first report and not counted it off, the peer acknowledges it,
and the next report finds the backlog full. -/
theorem run_reports_refused_overtaken :
    Always "g" obedient initial
        (fullBacklog ++ [.pop, .write, .acknowledge 1 102, .submit "a" 1 100]) ∧
      (initial.run "g" (fullBacklog ++ [.pop, .write, .acknowledge 1 102,
        .submit "a" 1 100])).flow.sink.reportsRefused = true := by
  constructor <;> decide +kernel

end OutputSystem

end WotexMatter.Native
