/-
# WotexMatter.Native.OutputAccounting -- what the counters of the output count

`BoundedOutput` (`native/src/protocol.cpp`) has a pair of counters for each class of frames.  An
enqueuing thread raises them when the frame enters the queue, the writer thread lowers them after
it has written it, and a failure clears the queue while a frame is out of it.

`OutputWriter` adds to the output of `OutputBacklog` the writes that fail and, for the statement
only, the frames that were accepted.  `run_accounted` says what the counters count in any
interleaving of the two threads.
-/
import WotexMatter.Native.OutputBacklog

set_option autoImplicit false
set_option linter.unusedSectionVars false

namespace WotexMatter.Native

variable {F : Type} [Text F]

/-! ## The output and its writer -/

/-- `maximum_frames`. -/
def maximumFrames : OutputClass → Nat
  | .report => 64
  | .control => 256
  | .reply => 64

/-- `maximum_bytes`. -/
def maximumBytes : OutputClass → Nat
  | .report => 1048576
  | .control => 256 * 4096
  | .reply => 64 * kMaximumFrameBytes

/-- `maximum_frame_bytes`. -/
def maximumFrameBytes : OutputClass → Nat
  | .report => kMaximumFrameBytes
  | .control => 4096
  | .reply => kMaximumFrameBytes

namespace BoundedOutput

/-- The call for a class. -/
def enqueueAs (o : BoundedOutput F) (frame : F) : OutputClass → Bool × BoundedOutput F
  | .report => o.enqueueReport frame
  | .control => o.enqueueControl frame
  | .reply => o.enqueueReply frame

end BoundedOutput

/-- `lost` is `written` of `Write`, negated: the stream did not take the frame that is held.
`accepted` are the frames for which an enqueue returned true. -/
structure OutputWriter (F : Type) where
  output : BoundedOutput F := {}
  lost : Bool := false
  accepted : List F := []

/-- A call of `Enqueue…`, or a part of `Write` between two of its locks. -/
inductive WriterMove (F : Type) where
  | enqueue (classification : OutputClass) (frame : F)
  | pop
  | write (succeeds : Bool)
  | countOff
  | stop

namespace OutputWriter

def enqueue (w : OutputWriter F) (classification : OutputClass) (frame : F) : OutputWriter F :=
  let result := w.output.enqueueAs frame classification
  { w with
    output := result.2
    accepted := if result.1 then w.accepted ++ [frame] else w.accepted }

/-- The stream takes the frame, or fails. -/
def write (w : OutputWriter F) (succeeds : Bool) : OutputWriter F :=
  match w.output.held with
  | .popped first =>
      if succeeds then { w with output := w.output.write, lost := false }
      else { w with output := { w.output with held := .written first }, lost := true }
  | _ => w

/-- The last locked block; after a write that failed it is the end of the thread. -/
def countOff (w : OutputWriter F) : OutputWriter F :=
  match w.output.held with
  | .written _ =>
      { w with output := if w.lost then w.output.countOff.fail else w.output.countOff }
  | _ => w

def step (w : OutputWriter F) : WriterMove F → OutputWriter F
  | .enqueue classification frame => w.enqueue classification frame
  | .pop => { w with output := w.output.pop }
  | .write succeeds => w.write succeeds
  | .countOff => w.countOff
  | .stop => { w with output := w.output.stop }

def run (w : OutputWriter F) (moves : List (WriterMove F)) : OutputWriter F := moves.foldl step w

end OutputWriter

/-! ## What is counted -/

/-- The frame that the writer holds, as a list. -/
def Held.frames : Held F → List (PendingOutput F)
  | .nothing => []
  | .popped first => [first]
  | .written first => [first]

def lineBytes (frames : List F) : Nat := (frames.map fun frame => Text.size frame + 1).sum

@[simp] theorem lineBytes_nil : lineBytes ([] : List F) = 0 := rfl

@[simp] theorem lineBytes_cons (frame : F) (frames : List F) :
    lineBytes (frame :: frames) = Text.size frame + 1 + lineBytes frames := by
  simp [lineBytes]

@[simp] theorem lineBytes_append (front back : List F) :
    lineBytes (front ++ back) = lineBytes front + lineBytes back := by
  simp [lineBytes]

/-- The frames of a class. -/
def ofClass (classification : OutputClass) (queue : List (PendingOutput F)) : List F :=
  (queue.filter fun pending => pending.classification = classification).map (·.frame)

@[simp] theorem ofClass_append (classification : OutputClass) (front back : List (PendingOutput F)) :
    ofClass classification (front ++ back) =
      ofClass classification front ++ ofClass classification back := by
  simp [ofClass]

theorem ofClass_single (classification : OutputClass) (pending : PendingOutput F) :
    ofClass classification [pending] =
      if pending.classification = classification then [pending.frame] else [] := by
  by_cases same : pending.classification = classification <;> simp [ofClass, same]

namespace BoundedOutput

/-- The frames of a class that are pending, or popped and not counted off. -/
def outstanding (o : BoundedOutput F) (classification : OutputClass) : List F :=
  ofClass classification (o.held.frames ++ o.pending)

section Counted

variable (o : BoundedOutput F) (classification other : OutputClass) (frames retained : Nat)

@[simp] theorem frames_counted : (o.counted classification frames retained).frames other =
    if classification = other then frames else o.frames other := by
  cases classification <;> cases other <;> rfl

@[simp] theorem retained_counted : (o.counted classification frames retained).retained other =
    if classification = other then retained else o.retained other := by
  cases classification <;> cases other <;> rfl

@[simp] theorem counted_rest : (o.counted classification frames retained).pending = o.pending ∧
    (o.counted classification frames retained).held = o.held ∧
    (o.counted classification frames retained).visible = o.visible ∧
    (o.counted classification frames retained).healthy = o.healthy := by
  cases classification <;> exact ⟨rfl, rfl, rfl, rfl⟩

end Counted

/-- What `Fail` leaves, whatever else is set with it. -/
structure Failed (before after : BoundedOutput F) : Prop where
  healthy : after.healthy = false
  pending : after.pending = []
  held : after.held = before.held
  visible : after.visible = before.visible
  frames : ∀ classification, after.frames classification = before.frames classification
  retained : ∀ classification, after.retained classification = before.retained classification

theorem failed_fail {o : BoundedOutput F} (emptied : o.healthy = false → o.pending = []) :
    Failed o o.fail := by
  rw [fail]
  cases healthy : o.healthy with
  | true => exact ⟨rfl, rfl, rfl, rfl, fun c => by cases c <;> rfl, fun c => by cases c <;> rfl⟩
  | false => exact ⟨healthy, emptied healthy, rfl, rfl, fun _ => rfl, fun _ => rfl⟩

/-- There is room for a frame of this class. -/
def Room (o : BoundedOutput F) (frame : F) (classification : OutputClass) : Prop :=
  o.frames classification < maximumFrames classification ∧
    o.retained classification + (Text.size frame + 1) ≤ maximumBytes classification

/-- The outcomes of an enqueue, by the limits of its class. -/
theorem enqueueAs_cases (o : BoundedOutput F) (frame : F) (classification : OutputClass) :
    (¬(o.healthy = true ∧ o.stopping = false) ∧ o.enqueueAs frame classification = (false, o)) ∨
      (o.healthy = true ∧
        ¬(0 < Text.size frame ∧ Text.size frame < maximumFrameBytes classification ∧
          o.Room frame classification) ∧
        (o.enqueueAs frame classification).1 = false ∧
        Failed o (o.enqueueAs frame classification).2) ∨
      (o.healthy = true ∧ o.stopping = false ∧
        (0 < Text.size frame ∧ Text.size frame < maximumFrameBytes classification ∧
          o.Room frame classification) ∧
        o.enqueueAs frame classification = (true, o.entered frame classification)) := by
  have limits : o.enqueueAs frame classification = o.enqueue frame classification
      (maximumFrames classification) (maximumBytes classification)
      (maximumFrameBytes classification) := by
    cases classification <;> rfl
  rw [limits, enqueue]
  by_cases running : o.healthy = true ∧ o.stopping = false
  · obtain ⟨healthy, going⟩ := running
    have failed : Failed o o.fail := failed_fail fun dead => absurd healthy (by simp [dead])
    rw [if_neg (by simp [healthy, going])]
    by_cases sized : Text.size frame = 0 ∨ Text.size frame ≥ maximumFrameBytes classification
    · rw [if_pos sized]
      exact Or.inr (Or.inl ⟨healthy, fun fits => by omega, rfl, failed⟩)
    · rw [if_neg sized]
      dsimp only
      by_cases full : o.frames classification ≥ maximumFrames classification ∨
          o.retained classification > maximumBytes classification ∨
          Text.size frame + 1 > maximumBytes classification - o.retained classification
      · rw [if_pos full]
        refine Or.inr (Or.inl ⟨healthy, fun fits => ?_, rfl, ?_⟩)
        · obtain ⟨_, _, frames, bytes⟩ := fits
          omega
        · exact ⟨failed.healthy, failed.pending, failed.held, failed.visible, failed.frames,
            failed.retained⟩
      · rw [if_neg full]
        exact Or.inr (Or.inr ⟨healthy, going, ⟨by omega, by omega, by omega, by omega⟩, rfl⟩)
  · rw [if_pos (by simpa [Classical.or_iff_not_imp_left] using running)]
    exact Or.inl ⟨running, rfl⟩

end BoundedOutput

namespace OutputWriter

open BoundedOutput

/-- The frames the stream has yet to take. -/
def unwritten (w : OutputWriter F) : List (PendingOutput F) :=
  match w.output.held with
  | .nothing => w.output.pending
  | .popped first => first :: w.output.pending
  | .written first => if w.lost then first :: w.output.pending else w.output.pending

/-- The invariant of every interleaving. -/
structure Accounted (w : OutputWriter F) : Prop where
  exactly : w.output.healthy = true → ∀ classification,
    w.output.frames classification = (w.output.outstanding classification).length ∧
      w.output.retained classification = lineBytes (w.output.outstanding classification)
  limited : ∀ classification, w.output.frames classification ≤ maximumFrames classification ∧
    w.output.retained classification ≤ maximumBytes classification
  /-- What is held is still counted, also after a failure. -/
  covered : ∀ pending ∈ w.output.held.frames,
    1 ≤ w.output.frames pending.classification ∧
      Text.size pending.frame + 1 ≤ w.output.retained pending.classification
  ordered : w.output.visible ++ w.unwritten.map (·.frame) <+: w.accepted
  whole : w.output.healthy = true → w.output.visible ++ w.unwritten.map (·.frame) = w.accepted
  emptied : w.output.healthy = false → w.output.pending = []

/-- A failure loses what is pending and nothing else. -/
theorem Accounted.fail {w : OutputWriter F} (accounted : Accounted w) {o : BoundedOutput F}
    (failed : Failed w.output o) : Accounted { w with output := o } := by
  have fewer : unwritten { w with output := o } <+: w.unwritten := by
    unfold unwritten
    dsimp only
    rw [failed.held, failed.pending]
    cases w.output.held with
    | nothing => exact List.nil_prefix
    | popped first => exact ⟨w.output.pending, rfl⟩
    | written first =>
        by_cases lost : w.lost = true
        · simp [lost]
        · simp [lost]
  refine
    { exactly := fun healthy => absurd healthy (by simp [failed.healthy])
      limited := ?_
      covered := ?_
      ordered := ?_
      whole := fun healthy => absurd healthy (by simp [failed.healthy])
      emptied := fun _ => failed.pending }
  · intro classification
    show o.frames classification ≤ _ ∧ o.retained classification ≤ _
    rw [failed.frames, failed.retained]
    exact accounted.limited classification
  · intro pending held
    show 1 ≤ o.frames _ ∧ _ ≤ o.retained _
    rw [failed.frames, failed.retained]
    exact accounted.covered pending (failed.held ▸ held)
  · show o.visible ++ _ <+: w.accepted
    rw [failed.visible]
    exact (List.prefix_append_right_inj _).mpr (fewer.map _) |>.trans accounted.ordered

theorem unwritten_entered (w : OutputWriter F) (frame : F) (classification : OutputClass)
    (accepted : List F) :
    unwritten { w with output := w.output.entered frame classification, accepted := accepted } =
      w.unwritten ++ [⟨frame, classification⟩] := by
  obtain ⟨_, held, _, _⟩ := counted_rest w.output classification
    (w.output.frames classification + 1)
    (w.output.retained classification + (Text.size frame + 1))
  unfold unwritten entered
  dsimp only
  rw [held]
  cases w.output.held with
  | nothing => rfl
  | popped first => rfl
  | written first => by_cases lost : w.lost = true <;> simp [lost]

/-- A frame that finds room in its class. -/
theorem Accounted.entered {w : OutputWriter F} (accounted : Accounted w) {frame : F}
    {classification : OutputClass} (healthy : w.output.healthy = true)
    (room : w.output.Room frame classification) :
    Accounted { w with
      output := w.output.entered frame classification, accepted := w.accepted ++ [frame] } := by
  obtain ⟨_, held, visible, alive⟩ := counted_rest w.output classification
    (w.output.frames classification + 1)
    (w.output.retained classification + (Text.size frame + 1))
  have frames : ∀ other, (w.output.entered frame classification).frames other =
      if classification = other then w.output.frames classification + 1
      else w.output.frames other := fun other => frames_counted _ _ other _ _
  have retained : ∀ other, (w.output.entered frame classification).retained other =
      if classification = other then w.output.retained classification + (Text.size frame + 1)
      else w.output.retained other := fun other => retained_counted _ _ other _ _
  have outstanding : ∀ other, (w.output.entered frame classification).outstanding other =
      w.output.outstanding other ++ if classification = other then [frame] else [] := by
    intro other
    have queue : (w.output.entered frame classification).held.frames ++
        (w.output.entered frame classification).pending =
          (w.output.held.frames ++ w.output.pending) ++ [⟨frame, classification⟩] := by
      rw [List.append_assoc]
      exact congrArg (·.frames ++ _) held
    rw [BoundedOutput.outstanding, queue, ofClass_append, ofClass_single]
    rfl
  have whole := accounted.whole healthy
  have order : w.output.visible ++ (w.unwritten ++ [(⟨frame, classification⟩ : PendingOutput F)]).map
      (·.frame) =
      w.accepted ++ [frame] := by
    rw [List.map_append, ← List.append_assoc, whole]
    rfl
  refine
    { exactly := fun _ other => ?_
      limited := fun other => ?_
      covered := fun pending member => ?_
      ordered := ?_
      whole := fun _ => ?_
      emptied := fun dead => Bool.noConfusion ((alive.trans healthy).symm.trans dead) }
  · show (w.output.entered frame classification).frames other = _ ∧
      (w.output.entered frame classification).retained other = _
    obtain ⟨count, bytes⟩ := accounted.exactly healthy other
    rw [frames, retained, outstanding]
    by_cases same : classification = other
    · subst same
      simp [count, bytes]
    · simp [same, count, bytes]
  · show (w.output.entered frame classification).frames other ≤ _ ∧
      (w.output.entered frame classification).retained other ≤ _
    rw [frames, retained]
    by_cases same : classification = other
    · subst same
      rw [if_pos rfl, if_pos rfl]
      exact ⟨room.1, room.2⟩
    · rw [if_neg same, if_neg same]
      exact accounted.limited other
  · have before := accounted.covered pending (held ▸ member)
    show 1 ≤ (w.output.entered frame classification).frames _ ∧
      _ ≤ (w.output.entered frame classification).retained _
    rw [frames, retained]
    by_cases same : classification = pending.classification
    · rw [if_pos same, if_pos same, same]
      omega
    · rw [if_neg same, if_neg same]
      exact before
  · rw [unwritten_entered]
    show (w.output.entered frame classification).visible ++ _ <+: _
    rw [show (w.output.entered frame classification).visible = w.output.visible from visible, order]
  · rw [unwritten_entered]
    show (w.output.entered frame classification).visible ++ _ = _
    rw [show (w.output.entered frame classification).visible = w.output.visible from visible, order]

theorem Accounted.enqueue {w : OutputWriter F} (accounted : Accounted w)
    (classification : OutputClass) (frame : F) : Accounted (w.enqueue classification frame) := by
  unfold OutputWriter.enqueue
  dsimp only
  rcases enqueueAs_cases w.output frame classification with
    ⟨_, same⟩ | ⟨_, _, refused, failed⟩ | ⟨healthy, _, ⟨_, _, room⟩, same⟩
  · rw [same]
    exact accounted
  · rw [refused]
    exact accounted.fail failed
  · rw [same]
    exact accounted.entered healthy room

theorem Accounted.pop {w : OutputWriter F} (accounted : Accounted w) :
    Accounted { w with output := w.output.pop } := by
  unfold BoundedOutput.pop
  split
  · rename_i first rest idle pending
    have healthy : w.output.healthy = true := by
      by_contra dead
      have none := accounted.emptied (by simpa using dead)
      rw [none] at pending
      cases pending
    have outstanding : ∀ classification, w.output.outstanding classification =
        ofClass classification (first :: rest) := by
      intro classification
      rw [BoundedOutput.outstanding, idle, pending]
      rfl
    have unwritten : w.unwritten = first :: rest := by
      rw [OutputWriter.unwritten, idle, pending]
    refine
      { exactly := fun alive classification => ?_
        limited := accounted.limited
        covered := fun held member => ?_
        ordered := ?_
        whole := ?_
        emptied := fun dead => absurd healthy (by simpa using dead) }
    · have before := accounted.exactly alive classification
      rw [outstanding] at before
      exact before
    · obtain rfl := List.mem_singleton.mp member
      obtain ⟨count, bytes⟩ := accounted.exactly healthy held.classification
      rw [outstanding, ← List.singleton_append, ofClass_append, ofClass_single, if_pos rfl] at count bytes
      show 1 ≤ w.output.frames _ ∧ _ ≤ w.output.retained _
      rw [count, bytes]
      simp
    · have before := accounted.ordered
      rw [unwritten] at before
      exact before
    · have before := accounted.whole
      rw [unwritten] at before
      exact before
  · exact accounted

theorem Accounted.write {w : OutputWriter F} (accounted : Accounted w) (succeeds : Bool) :
    Accounted (w.write succeeds) := by
  unfold OutputWriter.write
  split
  · rename_i first held
    have unwritten : w.unwritten = first :: w.output.pending := by
      rw [OutputWriter.unwritten, held]
    have whole := accounted.whole
    have ordered := accounted.ordered
    have covered := accounted.covered
    have exactly := accounted.exactly
    rw [unwritten] at whole ordered
    rw [held] at covered
    unfold BoundedOutput.outstanding at exactly
    rw [held] at exactly
    cases succeeds with
    | true =>
        rw [if_pos rfl, BoundedOutput.write, held]
        refine ⟨exactly, accounted.limited, covered, ?_, ?_, accounted.emptied⟩
        · show (w.output.visible ++ [first.frame]) ++ w.output.pending.map (·.frame) <+: w.accepted
          rw [List.append_assoc]
          exact ordered
        · intro healthy
          show (w.output.visible ++ [first.frame]) ++ w.output.pending.map (·.frame) = w.accepted
          rw [List.append_assoc]
          exact whole healthy
    | false =>
        rw [if_neg Bool.false_ne_true]
        exact ⟨exactly, accounted.limited, covered, ordered, whole, accounted.emptied⟩
  · exact accounted

/-- The counters that `Write` lowers are the ones that its frame raised. -/
structure CountedOff (before after : BoundedOutput F) (first : PendingOutput F) : Prop where
  frames : ∀ other, after.frames other =
    if first.classification = other then before.frames other - 1 else before.frames other
  retained : ∀ other, after.retained other =
    if first.classification = other then before.retained other - (Text.size first.frame + 1)
    else before.retained other
  visible : after.visible = before.visible
  healthy : after.healthy = before.healthy
  pending : after.pending = before.pending
  held : after.held = .nothing

theorem Accounted.countedOff {w : OutputWriter F} (accounted : Accounted w)
    {first : PendingOutput F} (held : w.output.held = .written first) :
    CountedOff w.output w.output.countOff first := by
  obtain ⟨one, enough⟩ := accounted.covered first (by rw [held]; exact List.mem_singleton_self _)
  obtain ⟨few, small⟩ := accounted.limited first.classification
  have limits : maximumFrames first.classification ≤ 256 ∧
      maximumBytes first.classification ≤ 8388608 := by
    cases first.classification <;> decide
  rw [BoundedOutput.countOff, held]
  dsimp only
  rw [subSize_of_le (lt_of_le_of_lt (few.trans limits.1) (by omega)) one,
    subSize_of_le (lt_of_le_of_lt (small.trans limits.2) (by omega)) enough]
  obtain ⟨pending, _, visible, alive⟩ := counted_rest w.output first.classification
    (w.output.frames first.classification - 1)
    (w.output.retained first.classification - (Text.size first.frame + 1))
  refine ⟨fun other => ?_, fun other => ?_, visible, alive, pending, rfl⟩
  · refine (frames_counted w.output first.classification other _ _).trans ?_
    by_cases its : first.classification = other
    · rw [if_pos its, if_pos its, its]
    · rw [if_neg its, if_neg its]
  · refine (retained_counted w.output first.classification other _ _).trans ?_
    by_cases its : first.classification = other
    · rw [if_pos its, if_pos its, its]
    · rw [if_neg its, if_neg its]

theorem CountedOff.le {before after : BoundedOutput F} {first : PendingOutput F}
    (off : CountedOff before after first) (other : OutputClass) :
    after.frames other ≤ before.frames other ∧ after.retained other ≤ before.retained other := by
  rw [off.frames, off.retained]
  by_cases its : first.classification = other
  · rw [if_pos its, if_pos its]
    omega
  · rw [if_neg its, if_neg its]
    omega

/-- The frame is written and counted off. -/
theorem Accounted.taken {w : OutputWriter F} (accounted : Accounted w)
    {first : PendingOutput F} (held : w.output.held = .written first) (kept : w.lost = false) :
    Accounted { w with output := w.output.countOff } := by
  have off := accounted.countedOff held
  have unwritten : OutputWriter.unwritten { w with output := w.output.countOff } = w.unwritten := by
    unfold OutputWriter.unwritten
    dsimp only
    rw [off.held, held, kept]
    exact off.pending
  refine
    { exactly := fun healthy other => ?_
      limited := fun other => ?_
      covered := fun pending member => ?_
      ordered := ?_
      whole := fun healthy => ?_
      emptied := fun dead => off.pending.trans (accounted.emptied (off.healthy ▸ dead)) }
  · have before := accounted.exactly (off.healthy ▸ healthy) other
    show w.output.countOff.frames other = (w.output.countOff.outstanding other).length ∧
      w.output.countOff.retained other = lineBytes (w.output.countOff.outstanding other)
    rw [BoundedOutput.outstanding, held] at before
    rw [off.frames, off.retained, BoundedOutput.outstanding, off.pending, off.held]
    change _ = (ofClass other ([first] ++ w.output.pending)).length ∧
      _ = lineBytes (ofClass other ([first] ++ w.output.pending)) at before
    rw [ofClass_append, ofClass_single] at before
    show _ = (ofClass other ([] ++ w.output.pending)).length ∧
      _ = lineBytes (ofClass other ([] ++ w.output.pending))
    by_cases its : first.classification = other
    · subst its
      simp only [if_true, List.cons_append, List.nil_append, List.length_cons,
        lineBytes_cons] at before ⊢
      omega
    · simpa [its] using before
  · obtain ⟨fewer, smaller⟩ := off.le other
    obtain ⟨few, small⟩ := accounted.limited other
    exact ⟨fewer.trans few, smaller.trans small⟩
  · rw [show w.output.countOff.held = .nothing from off.held] at member
    cases member
  · rw [unwritten]
    show w.output.countOff.visible ++ _ <+: _
    rw [off.visible]
    exact accounted.ordered
  · rw [unwritten]
    show w.output.countOff.visible ++ _ = _
    rw [off.visible]
    exact accounted.whole (off.healthy ▸ healthy)

/-- The stream failed: the frame is counted off, and the output fails. -/
theorem Accounted.broken {w : OutputWriter F} (accounted : Accounted w)
    {first : PendingOutput F} (held : w.output.held = .written first) :
    Accounted { w with output := w.output.countOff.fail } := by
  have off := accounted.countedOff held
  have failed : Failed w.output.countOff w.output.countOff.fail :=
    failed_fail fun dead => off.pending.trans (accounted.emptied (off.healthy ▸ dead))
  have nothing : w.output.countOff.fail.held = .nothing := failed.held.trans off.held
  refine
    { exactly := fun healthy => absurd healthy (by simp [failed.healthy])
      limited := fun other => ?_
      covered := fun pending member => ?_
      ordered := ?_
      whole := fun healthy => absurd healthy (by simp [failed.healthy])
      emptied := fun _ => failed.pending }
  · obtain ⟨fewer, smaller⟩ := off.le other
    obtain ⟨few, small⟩ := accounted.limited other
    show w.output.countOff.fail.frames other ≤ _ ∧ w.output.countOff.fail.retained other ≤ _
    rw [failed.frames, failed.retained]
    exact ⟨fewer.trans few, smaller.trans small⟩
  · rw [show w.output.countOff.fail.held = .nothing from nothing] at member
    cases member
  · have none : OutputWriter.unwritten { w with output := w.output.countOff.fail } = [] := by
      rw [OutputWriter.unwritten, nothing]
      exact failed.pending
    rw [none]
    show w.output.countOff.fail.visible ++ [] <+: w.accepted
    rw [failed.visible, off.visible, List.append_nil]
    exact (List.prefix_append _ _).trans accounted.ordered

theorem Accounted.countOff {w : OutputWriter F} (accounted : Accounted w) : Accounted w.countOff := by
  unfold OutputWriter.countOff
  split
  · rename_i first held
    cases lost : w.lost with
    | true =>
        rw [if_pos rfl, ← lost]
        exact accounted.broken held
    | false =>
        rw [if_neg Bool.false_ne_true, ← lost]
        exact accounted.taken held lost
  · exact accounted

theorem Accounted.stop {w : OutputWriter F} (accounted : Accounted w) :
    Accounted { w with output := w.output.stop } :=
  ⟨accounted.exactly, accounted.limited, accounted.covered, accounted.ordered, accounted.whole,
    accounted.emptied⟩

theorem Accounted.step {w : OutputWriter F} (accounted : Accounted w) (move : WriterMove F) :
    Accounted (w.step move) := by
  cases move with
  | enqueue classification frame => exact accounted.enqueue classification frame
  | pop => exact accounted.pop
  | write succeeds => exact accounted.write succeeds
  | countOff => exact accounted.countOff
  | stop => exact accounted.stop

theorem accounted_initial : Accounted ({} : OutputWriter F) where
  exactly := fun _ classification => by cases classification <;> exact ⟨rfl, rfl⟩
  limited := fun classification => by cases classification <;> exact ⟨Nat.zero_le _, Nat.zero_le _⟩
  covered := nofun
  ordered := List.nil_prefix
  whole := fun _ => rfl
  emptied := fun _ => rfl

theorem Accounted.run {w : OutputWriter F} (accounted : Accounted w) (moves : List (WriterMove F)) :
    Accounted (w.run moves) := by
  induction moves generalizing w with
  | nil => exact accounted
  | cons move moves ih => exact ih (accounted.step move)

/-! ## After a failure -/

theorem step_failed {w : OutputWriter F} (failed : w.output.healthy = false) (move : WriterMove F) :
    (w.step move).output.healthy = false ∧ (w.step move).accepted = w.accepted := by
  cases move with
  | enqueue classification frame =>
      rcases enqueueAs_cases w.output frame classification with
        ⟨_, same⟩ | ⟨healthy, _⟩ | ⟨healthy, _⟩
      · show (w.enqueue classification frame).output.healthy = false ∧
          (w.enqueue classification frame).accepted = w.accepted
        unfold OutputWriter.enqueue
        rw [same]
        exact ⟨failed, rfl⟩
      · exact absurd healthy (by simp [failed])
      · exact absurd healthy (by simp [failed])
  | pop =>
      refine ⟨?_, rfl⟩
      show w.output.pop.healthy = false
      unfold BoundedOutput.pop
      split <;> exact failed
  | write succeeds =>
      show (w.write succeeds).output.healthy = false ∧ (w.write succeeds).accepted = w.accepted
      have kept : w.output.write.healthy = w.output.healthy := by
        unfold BoundedOutput.write
        split <;> rfl
      unfold OutputWriter.write
      split
      · cases succeeds with
        | false => exact ⟨failed, rfl⟩
        | true => exact ⟨kept.trans failed, rfl⟩
      · exact ⟨failed, rfl⟩
  | countOff =>
      show w.countOff.output.healthy = false ∧ w.countOff.accepted = w.accepted
      have still : w.output.countOff.healthy = false := by
        unfold BoundedOutput.countOff
        split
        · exact (counted_rest w.output _ _ _).2.2.2.trans failed
        · exact failed
      unfold OutputWriter.countOff
      split
      · refine ⟨?_, rfl⟩
        dsimp only
        split
        · rw [BoundedOutput.fail, still]
          exact still
        · exact still
      · exact ⟨failed, rfl⟩
  | stop => exact ⟨failed, rfl⟩

theorem run_failed {w : OutputWriter F} (failed : w.output.healthy = false)
    (moves : List (WriterMove F)) : (w.run moves).accepted = w.accepted := by
  induction moves generalizing w with
  | nil => rfl
  | cons move moves ih =>
      obtain ⟨still, same⟩ := step_failed failed move
      exact (ih still).trans same

/-- A running output takes a frame exactly if the limits of its own class allow it. -/
theorem Accounted.takes {w : OutputWriter F} (accounted : Accounted w)
    (healthy : w.output.healthy = true) (running : w.output.stopping = false)
    (classification : OutputClass) (frame : F) :
    (w.output.enqueueAs frame classification).1 = true ↔
      0 < Text.size frame ∧ Text.size frame < maximumFrameBytes classification ∧
        (w.output.outstanding classification).length < maximumFrames classification ∧
        lineBytes (w.output.outstanding classification) + (Text.size frame + 1) ≤
          maximumBytes classification := by
  obtain ⟨count, bytes⟩ := accounted.exactly healthy classification
  rw [← count, ← bytes]
  rcases enqueueAs_cases w.output frame classification with
    ⟨stopped, _⟩ | ⟨_, full, refused, _⟩ | ⟨_, _, room, same⟩
  · exact absurd ⟨healthy, running⟩ stopped
  · rw [refused]
    exact iff_of_false Bool.false_ne_true full
  · rw [same]
    exact iff_of_true rfl room

/-- **The accounts of the output**, after any interleaving of enqueues and of the writer's steps.
Until a failure the counters of a class are the number and the bytes, newlines included, of the
frames that are pending or popped and not counted off; they stay within the limits of the class, and
what `Write` subtracts is in them.  Whether a frame is accepted depends on its own class alone.  The
frames that were written are the first ones accepted, in order, and none is accepted after a
failure. -/
theorem run_accounted (moves : List (WriterMove F)) :
    let w := run ({} : OutputWriter F) moves
    (w.output.healthy = true → ∀ classification,
        w.output.frames classification = (w.output.outstanding classification).length ∧
          w.output.retained classification = lineBytes (w.output.outstanding classification)) ∧
      (∀ classification, w.output.frames classification ≤ maximumFrames classification ∧
        w.output.retained classification ≤ maximumBytes classification) ∧
      (∀ pending, w.output.held = .written pending →
        1 ≤ w.output.frames pending.classification ∧
          Text.size pending.frame + 1 ≤ w.output.retained pending.classification) ∧
      (w.output.healthy = true → w.output.stopping = false → ∀ classification frame,
        ((w.output.enqueueAs frame classification).1 = true ↔
          0 < Text.size frame ∧ Text.size frame < maximumFrameBytes classification ∧
            (w.output.outstanding classification).length < maximumFrames classification ∧
            lineBytes (w.output.outstanding classification) + (Text.size frame + 1) ≤
              maximumBytes classification)) ∧
      w.output.visible <+: w.accepted ∧
      (w.output.healthy = false → ∀ later, (w.run later).accepted = w.accepted) := by
  intro w
  have accounted : Accounted w := accounted_initial.run moves
  refine ⟨accounted.exactly, accounted.limited, fun pending held => ?_, accounted.takes,
    (List.prefix_append _ _).trans accounted.ordered, fun failed later => run_failed failed later⟩
  exact accounted.covered pending (by rw [held]; exact List.mem_singleton_self _)

end OutputWriter

end WotexMatter.Native
