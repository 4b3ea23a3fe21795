/-
# WotexMatter.Storage.CrashConsistency -- a commit is all or nothing

`Commit` replaces the state file under two markers, the temporary file and the intent,
and `Open` refuses a directory that shows either.  The argument is over what a crash can
make of the directory at each point of the commit:

* while the new state is prepared, no change touches the state entry, so the old map is
  read whatever is kept or lost (`Reads`);
* from the first directory sync to the unlink of the intent, the intent is on the disk
  and no change touches it, so nothing opens (`Guarded`);
* after it the new state is on the disk and only the unlink may be lost (`Holds`).

`perform_commit` runs the calls through these three.  `run_invariant` carries `Holds`
over whole histories of processes and crashes, so that every store ever opened starts
from it, and `mutate_survives` is the result about setters.
-/
import WotexMatter.Storage.DurableStorage
import WotexMatter.Storage.JsonText

set_option autoImplicit false

namespace WotexMatter.Storage

open WotexMatter.Theory (Directory File Change replay select mem_of_mem_select replay_of_untouched)

section

variable (library : JsonLibrary) (identity : ControllerIdentity)

/-! ## What a later `Open` can find -/

/-- A file that `ReadState` reads. -/
structure Readable (file : File UInt8) : Prop where
  mode : file.mode = kMode
  nonempty : 0 < file.content.length
  bounded : file.content.length ≤ kMaximumFileBytes

/-- A state file that reads as the map, whatever a crash does. -/
structure Stored (values : Values) (file : File UInt8) : Prop extends Readable file where
  synced : file.synced = true
  parsed : parseState library file.content identity = some values

/-- The state and the lock are on the disk and no later change touches them. -/
structure Reads (values : Values) (directory : StoreDirectory) : Prop where
  lock : ∃ number, directory.durable .lock = some number ∧ (directory.files number).mode = kMode
  state : ∃ number, directory.durable .state = some number ∧
    Stored library identity values (directory.files number)
  untouched : ∀ change ∈ directory.changes, ¬ change.Touches .lock ∧ ¬ change.Touches .state

/-- The intent is on the disk and no later change touches it. -/
structure Guarded (directory : StoreDirectory) : Prop where
  intent : directory.durable .intent ≠ none
  untouched : ∀ change ∈ directory.changes, ¬ change.Touches .intent

/-- Nothing but the removal of an intent is under way. -/
structure Quiescent (directory : StoreDirectory) : Prop where
  temporary : directory.durable .temporary = none
  changes : ∀ change ∈ directory.changes, change = .unlink .intent
  state : ∀ number, directory.durable .state = some number → (directory.files number).synced = true

/-- The directory of a store that holds the map. -/
structure Holds (values : Values) (directory : StoreDirectory) : Prop where
  bounded : directory.Bounded
  reads : Reads library identity values directory
  quiescent : Quiescent directory

/-- A directory without markers in sight that has a state is quiescent: what `Open` may
rely on. -/
structure Rest (directory : StoreDirectory) : Prop where
  bounded : directory.Bounded
  quiescent : directory.entries .temporary = none → directory.entries .intent = none →
    directory.entries .state ≠ none → Quiescent directory

/-- The directory as a later `Open` finds it: as it is, or after a crash. -/
def Later (directory after : StoreDirectory) : Prop :=
  after = directory ∨ ∃ mask garbage, after = directory.crash mask garbage

variable {library identity}

theorem entries_later {directory after : StoreDirectory} {name : StoreFile}
    (later : Later directory after)
    (untouched : ∀ change ∈ directory.changes, ¬ change.Touches name) :
    after.entries name = directory.durable name := by
  rcases later with rfl | ⟨mask, garbage, rfl⟩
  · exact replay_of_untouched untouched _
  · rw [Directory.entries_crash]
    apply replay_of_untouched
    intro change kept
    exact untouched change (mem_of_mem_select kept)

theorem mode_later {directory after : StoreDirectory} (later : Later directory after)
    (number : Nat) : (after.files number).mode = (directory.files number).mode := by
  rcases later with rfl | ⟨mask, garbage, rfl⟩
  · rfl
  · rfl

theorem content_later {directory after : StoreDirectory} (later : Later directory after)
    {number : Nat} (synced : (directory.files number).synced = true) :
    (after.files number).content = (directory.files number).content := by
  rcases later with rfl | ⟨mask, garbage, rfl⟩
  · rfl
  · simp [Directory.crash, synced]

/-! ## `Open` on an existing directory -/

theorem cleanCommitState_true {attempt : Attempt} {directory : StoreDirectory}
    (clean : cleanCommitState attempt directory = true) :
    directory.entries .temporary = none ∧ directory.entries .intent = none := by
  simp [cleanCommitState] at clean
  exact ⟨clean.1.2, clean.2.2⟩

theorem readState_eq_some {attempt : Attempt} {directory : StoreDirectory} {contents : Bytes}
    (found : readState attempt directory = some contents) :
    ∃ number, directory.entries .state = some number ∧ Readable (directory.files number) ∧
      contents = (directory.files number).content := by
  simp only [readState] at found
  split at found
  · cases found
  · split at found
    · cases found
    · rename_i number entry
      refine ⟨number, entry, ?_⟩
      split at found
      · cases found
      · rename_i status
        split at found
        · cases found
        · rename_i size
          simp only [not_or, not_not] at status size
          split at found
          · cases found
          · exact ⟨⟨status.2, by omega, by omega⟩, (Option.some.inj found).symm⟩

variable (library) in
/-- What a successful `Open` of an existing directory has seen. -/
structure Seen (attempt : Attempt) (locked : Bool) (directory : StoreDirectory) (values : Values) :
    Prop where
  identity : validIdentity attempt.identity = true
  locked : locked = false
  temporary : directory.entries .temporary = none
  intent : directory.entries .intent = none
  lock : ∃ number, directory.entries .lock = some number ∧
    (directory.files number).mode = kMode
  state : ∃ number, directory.entries .state = some number ∧ Readable (directory.files number) ∧
    parseState library (directory.files number).content attempt.identity = some values

/-- `OpenLock` on an existing directory does not change it. -/
theorem openLock_existing (umask : Nat) {attempt : Attempt} (locked : Bool)
    (directory : StoreDirectory) (existing : attempt.storageMode = .openExisting) :
    openLock umask attempt locked directory = (false, directory) ∨
      openLock umask attempt locked directory = (true, directory) ∧ locked = false ∧
        ∃ number, directory.entries .lock = some number ∧
          (directory.files number).mode = kMode := by
  simp only [openLock, existing]
  split
  · exact .inl rfl
  · cases entry : directory.entries .lock with
    | none => exact .inl rfl
    | some number =>
        dsimp only
        cases held : (!attempt.fails .lockStatus && (directory.files number).mode == kMode &&
          !attempt.fails .flock && !locked) with
        | false => exact .inl rfl
        | true =>
            simp only [Bool.and_eq_true, Bool.not_eq_true', beq_iff_eq] at held
            exact .inr ⟨rfl, held.2, number, rfl, held.1.1.2⟩

/-- **`Open` of a directory that is there** changes nothing, and opens only what it has
seen. -/
theorem openStore_existing (library : JsonLibrary) (umask : Nat) (attempt : Attempt) (locked : Bool)
    (directory : StoreDirectory) :
    (∃ error, openStore library umask attempt locked (some directory) =
      (.refused error, some directory)) ∨
    ∃ values, openStore library umask attempt locked (some directory) =
        (.opened ⟨attempt.identity, values, false⟩, some directory) ∧
      Seen library attempt locked directory values := by
  simp only [openStore]
  split
  · exact .inl ⟨_, rfl⟩
  · rename_i valid
    cases mode : attempt.storageMode with
    | createNew => exact .inl ⟨_, rfl⟩
    | openExisting =>
        dsimp only
        split
        · exact .inl ⟨_, rfl⟩
        · rcases openLock_existing umask locked directory mode with refused | ⟨held, unlocked, lock⟩
          · simp [openFrom, refused]
          · simp only [openFrom, held, mode]
            split
            · exact .inl ⟨_, rfl⟩
            · rename_i clean
              obtain ⟨temporary, intent⟩ := cleanCommitState_true (Bool.eq_true_of_not_eq_false clean)
              cases read : readState attempt directory with
              | none => exact .inl ⟨_, rfl⟩
              | some contents =>
                  obtain ⟨number, entry, readable, rfl⟩ := readState_eq_some read
                  dsimp only
                  cases parsed : parseState library (directory.files number).content
                    attempt.identity with
                  | none => exact .inl ⟨_, rfl⟩
                  | some values =>
                      refine .inr ⟨values, rfl, ?_, unlocked, temporary, intent, lock, number, entry,
                        readable, parsed⟩
                      simp only [Attempt.invalid, not_or] at valid
                      exact Bool.eq_true_of_not_eq_false valid.2.2.1

/-- Behind the marker, `Open` refuses. -/
theorem openStore_of_guarded {umask : Nat} {directory after : StoreDirectory}
    (guarded : Guarded directory) (later : Later directory after) (attempt : Attempt)
    (locked : Bool) :
    ∃ error, (openStore library umask attempt locked (some after)).1 = .refused error := by
  rcases openStore_existing library umask attempt locked after with ⟨error, refused⟩ | ⟨values, opened, seen⟩
  · exact ⟨error, by rw [refused]⟩
  · have intent := seen.intent
    rw [entries_later later guarded.untouched] at intent
    exact absurd intent guarded.intent

/-- Where the state is safe on the disk, `Open` refuses or reads it. -/
theorem openStore_of_reads {umask : Nat} {values : Values} {directory after : StoreDirectory}
    {attempt : Attempt} (reads : Reads library attempt.identity values directory)
    (later : Later directory after) (locked : Bool) :
    (∃ error, (openStore library umask attempt locked (some after)).1 = .refused error) ∨
      (openStore library umask attempt locked (some after)).1 =
        .opened ⟨attempt.identity, values, false⟩ := by
  rcases openStore_existing library umask attempt locked after with ⟨error, refused⟩ | ⟨found, opened, seen⟩
  · exact .inl ⟨error, by rw [refused]⟩
  · right
    obtain ⟨number, durable, stored⟩ := reads.state
    obtain ⟨seenNumber, entry, _, parsed⟩ := seen.state
    rw [entries_later later fun change present => (reads.untouched change present).2, durable] at entry
    cases entry
    rw [content_later later stored.synced, stored.parsed] at parsed
    cases parsed
    rw [opened]

/-- An attempt to open the existing store with nothing in its way. -/
structure Attempt.Unhindered (attempt : Attempt) : Prop where
  existing : attempt.storageMode = .openExisting
  valid : ¬ attempt.invalid
  working : ∀ call, attempt.fails call = false

/-- With nothing in its way, `Open` reads a quiet directory. -/
theorem openStore_unhindered (umask : Nat) {values : Values} {directory after : StoreDirectory}
    {attempt : Attempt} (unhindered : attempt.Unhindered)
    (reads : Reads library attempt.identity values directory) (later : Later directory after)
    (temporary : after.entries .temporary = none) (intent : after.entries .intent = none) :
    (openStore library umask attempt false (some after)).1 =
      .opened ⟨attempt.identity, values, false⟩ := by
  obtain ⟨lock, lockDurable, lockMode⟩ := reads.lock
  obtain ⟨state, stateDurable, stored⟩ := reads.state
  have lockEntry : after.entries .lock = some lock := by
    rw [entries_later later fun change present => (reads.untouched change present).1, lockDurable]
  have stateEntry : after.entries .state = some state := by
    rw [entries_later later fun change present => (reads.untouched change present).2, stateDurable]
  have content := content_later later stored.synced
  have clean : cleanCommitState attempt after = true := by
    simp [cleanCommitState, unhindered.working, temporary, intent]
  have held : openLock umask attempt false after = (true, after) := by
    simp [openLock, unhindered.existing, unhindered.working, lockEntry, mode_later later, lockMode]
  have read : readState attempt after = some (directory.files state).content := by
    have nonempty := stored.nonempty
    have bounded := stored.bounded
    simp only [readState, unhindered.working, stateEntry, mode_later later, stored.mode, content,
      Bool.false_eq_true, if_false, ne_eq, not_true, or_self, false_or]
    rw [if_neg (by omega)]
  simp [openStore, unhindered.valid, unhindered.existing, unhindered.working, openFrom, held, clean,
    read, stored.parsed]

/-! ## Commit -/

/-- What a row of calls is proved by: at each call, what a cut leaves is good, and the
rest of the row goes on from what the call leaves. -/
theorem perform_cons {umask : Nat} {call : SystemCall} {rest : List SystemCall}
    {session : Session} {Good : Outcome → StoreDirectory → Prop}
    (cut : ∀ outcome written, outcome ≠ .completed → Good outcome (call.cutOff session written))
    (next : ∀ after, call.run umask session = some after → ∀ verdicts,
      Good (perform umask rest verdicts after).1 (perform umask rest verdicts after).2)
    (verdicts : List Verdict) :
    Good (perform umask (call :: rest) verdicts session).1
      (perform umask (call :: rest) verdicts session).2 := by
  simp only [perform]
  split
  · exact cut .died _ (by decide)
  · exact cut .failed _ (by decide)
  · cases ran : call.run umask session with
    | some after => exact next after ran verdicts.tail
    | none =>
        have nothing : call.cutOff session 0 = session.directory := by
          cases call with
          | write bytes =>
              cases descriptor : session.descriptor with
              | none => simp [SystemCall.cutOff, descriptor]
              | some file => simp [SystemCall.run, descriptor] at ran
          | _ => rfl
        have good := cut .failed 0 (by decide)
        rw [nothing] at good
        exact good

/-- The first part of a commit: files and entries of the old directory stay, and only
markers are added. -/
structure Extends (before directory : StoreDirectory) : Prop where
  bounded : directory.Bounded
  durable : directory.durable = before.durable
  next : before.next ≤ directory.next
  files : ∀ number < before.next, directory.files number = before.files number
  changes : ∃ added, directory.changes = before.changes ++ added ∧
    ∀ change ∈ added, ∃ file, change = .link .temporary file ∨ change = .link .intent file

namespace Extends

variable {before directory : StoreDirectory}

theorem refl (bounded : before.Bounded) : Extends before before :=
  ⟨bounded, rfl, Nat.le_refl _, fun _ _ => rfl, [], by simp, by simp⟩

theorem update (extended : Extends before directory) {number : Nat} (new : before.next ≤ number)
    (file : File UInt8) : Extends before (directory.update number file) := by
  refine ⟨extended.bounded.update _ _, extended.durable, extended.next, ?_, extended.changes⟩
  intro old below
  rw [Directory.files_update_of_ne _ _ (by omega)]
  exact extended.files old below

theorem create (extended : Extends before directory) {name : StoreFile}
    (marker : name = .temporary ∨ name = .intent) (mode : Nat) :
    Extends before (directory.create name mode) := by
  have next := extended.next
  refine ⟨extended.bounded.create _ _, extended.durable, Nat.le_succ_of_le next, ?_, ?_⟩
  · intro old below
    rw [Directory.files_create_of_ne _ _ (by omega)]
    exact extended.files old below
  · obtain ⟨added, same, links⟩ := extended.changes
    refine ⟨added ++ [.link name directory.next], ?_, ?_⟩
    · show directory.changes ++ _ = _
      rw [same, List.append_assoc]
    · intro change present
      rcases List.mem_append.mp present with old | new
      · exact links change old
      · cases List.mem_singleton.mp new
        rcases marker with rfl | rfl
        · exact ⟨_, .inl rfl⟩
        · exact ⟨_, .inr rfl⟩

/-- No added change touches a name that is not a marker. -/
theorem untouched (extended : Extends before directory) {name : StoreFile}
    (temporary : name ≠ .temporary) (intent : name ≠ .intent)
    (old : ∀ change ∈ before.changes, ¬ change.Touches name) :
    ∀ change ∈ directory.changes, ¬ change.Touches name := by
  obtain ⟨added, same, links⟩ := extended.changes
  intro change present
  rw [same] at present
  rcases List.mem_append.mp present with kept | new
  · exact old change kept
  · obtain ⟨file, rfl | rfl⟩ := links change new
    · exact fun touched => temporary touched.symm
    · exact fun touched => intent touched.symm

theorem entries (extended : Extends before directory) {name : StoreFile}
    (temporary : name ≠ .temporary) (intent : name ≠ .intent) :
    directory.entries name = before.entries name := by
  obtain ⟨added, same, links⟩ := extended.changes
  have split : directory.entries = replay added before.entries := by
    simp only [Directory.entries, replay, same, extended.durable, List.foldl_append]
  rw [split]
  apply replay_of_untouched
  intro change new
  obtain ⟨file, rfl | rfl⟩ := links change new
  · exact fun touched => temporary touched.symm
  · exact fun touched => intent touched.symm

/-- The old map is still read. -/
theorem reads (extended : Extends before directory) (bounded : before.Bounded) {values : Values}
    (old : Reads library identity values before) : Reads library identity values directory := by
  obtain ⟨lock, lockDurable, lockMode⟩ := old.lock
  obtain ⟨state, stateDurable, stored⟩ := old.state
  refine ⟨⟨lock, ?_, ?_⟩, ⟨state, ?_, ?_⟩, ?_⟩
  · rw [extended.durable, lockDurable]
  · rw [extended.files lock (bounded.durable _ _ lockDurable), lockMode]
  · rw [extended.durable, stateDurable]
  · rw [extended.files state (bounded.durable _ _ stateDurable)]
    exact stored
  · intro change present
    exact ⟨extended.untouched (by decide) (by decide)
        (fun change kept => (old.untouched change kept).1) change present,
      extended.untouched (by decide) (by decide)
        (fun change kept => (old.untouched change kept).2) change present⟩

end Extends

variable (library identity) in
/-- What every point of a commit keeps: a later `Open` finds the old map, the new one, or
the marker. -/
structure Safe (before : StoreDirectory) (new : Values) (directory : StoreDirectory) : Prop where
  rest : Rest directory
  recovers : ∀ old, Reads library identity old before →
    Reads library identity old directory ∨ Reads library identity new directory ∨ Guarded directory

variable (library identity) in
/-- The new map on the disk, with nothing left to do. -/
structure Done (new : Values) (directory : StoreDirectory) : Prop where
  holds : Holds library identity new directory
  intent : directory.durable .intent = none
  changes : directory.changes = []

theorem Done.unmarked {new : Values} {directory : StoreDirectory}
    (done : Done library identity new directory) : directory.entries .intent = none := by
  simp [Directory.entries, done.changes, replay, done.intent]

variable (library identity) in
/-- How a commit ends: safe, and done if it completed. -/
def Ends (before : StoreDirectory) (new : Values) (outcome : Outcome)
    (directory : StoreDirectory) : Prop :=
  Safe library identity before new directory ∧
    (outcome = .completed → Done library identity new directory)

theorem Safe.ends {before directory : StoreDirectory} {new : Values} {outcome : Outcome}
    (safe : Safe library identity before new directory) (cut : outcome ≠ .completed) :
    Ends library identity before new outcome directory :=
  ⟨safe, fun completed => absurd completed cut⟩

theorem Holds.rest {new : Values} {directory : StoreDirectory}
    (holds : Holds library identity new directory) : Rest directory :=
  ⟨holds.bounded, fun _ _ _ => holds.quiescent⟩

theorem Holds.safe {before directory : StoreDirectory} {new : Values}
    (holds : Holds library identity new directory) : Safe library identity before new directory :=
  ⟨holds.rest, fun _ _ => .inr (.inl holds.reads)⟩

theorem Guarded.safe {before directory : StoreDirectory} {new : Values}
    (guarded : Guarded directory) (bounded : directory.Bounded) :
    Safe library identity before new directory := by
  refine ⟨⟨bounded, ?_⟩, fun _ _ => .inr (.inr guarded)⟩
  intro _ intent
  rw [entries_later (.inl rfl) guarded.untouched] at intent
  exact absurd intent guarded.intent

/-- With the temporary file in sight, a directory that only added markers is safe. -/
theorem Extends.safe {before directory : StoreDirectory} {new : Values}
    (extended : Extends before directory) (bounded : before.Bounded)
    (marked : directory.entries .temporary ≠ none) :
    Safe library identity before new directory :=
  ⟨⟨extended.bounded, fun clean => absurd clean marked⟩,
    fun _ old => .inl (extended.reads bounded old)⟩

variable (library identity) in
/-- The last part of a commit: both markers and the new state in place. -/
structure Publishing (new : Values) (directory : StoreDirectory) : Prop where
  bounded : directory.Bounded
  lock : ∃ number, directory.entries .lock = some number ∧ (directory.files number).mode = kMode
  temporary : ∃ number, directory.entries .temporary = some number ∧
    Stored library identity new (directory.files number)
  intent : directory.entries .intent ≠ none

/-- The calls from the first directory sync on. -/
def publishCalls : List SystemCall :=
  [.syncDirectory, .rename .temporary .state, .syncDirectory, .unlink .intent, .syncDirectory]

namespace Publishing

variable {before directory : StoreDirectory} {new : Values}

/-- Between the first directory sync and the unlink, every crash shows the intent. -/
theorem guarded (publishing : Publishing library identity new directory) :
    Guarded directory.sync :=
  ⟨publishing.intent, by simp [Directory.sync]⟩

theorem guarded_renamed (publishing : Publishing library identity new directory) (number : Nat) :
    Guarded (directory.sync.change (.rename .temporary .state number)) := by
  refine ⟨publishing.intent, ?_⟩
  intro change present
  cases List.mem_singleton.mp present
  rintro (touched | touched) <;> cases touched

theorem guarded_published (publishing : Publishing library identity new directory) (number : Nat) :
    Guarded (directory.sync.change (.rename .temporary .state number)).sync := by
  refine ⟨?_, by simp [Directory.sync]⟩
  show (directory.sync.change (.rename .temporary .state number)).entries .intent ≠ none
  simpa [Change.apply] using publishing.intent

theorem bounded_renamed (publishing : Publishing library identity new directory) {number : Nat}
    (temporary : directory.entries .temporary = some number) :
    (directory.sync.change (.rename .temporary .state number)).Bounded :=
  publishing.bounded.sync.change (publishing.bounded.entries temporary)

/-- Once the rename is on the disk, only the removal of the intent is left. -/
theorem holds (publishing : Publishing library identity new directory) {number : Nat}
    (temporary : directory.entries .temporary = some number)
    (stored : Stored library identity new (directory.files number)) :
    Holds library identity new
      ((directory.sync.change (.rename .temporary .state number)).sync.change (.unlink .intent)) := by
  obtain ⟨lock, entry, mode⟩ := publishing.lock
  have durable : ∀ name, (directory.sync.change (.rename .temporary .state number)).sync.durable name =
      (Change.rename .temporary .state number).apply directory.entries name := by
    intro name
    show (directory.sync.change (.rename .temporary .state number)).entries name = _
    rw [Directory.entries_change, Directory.entries_sync]
  have removal : ∀ change ∈ [Change.unlink StoreFile.intent],
      ¬ change.Touches .lock ∧ ¬ change.Touches .state := by
    simp [Change.Touches]
  refine ⟨(publishing.bounded_renamed temporary).sync.change trivial,
    ⟨⟨lock, ?_, mode⟩, ⟨number, ?_, stored⟩, removal⟩, ⟨?_, ?_, ?_⟩⟩
  · exact (durable .lock).trans (by simpa [Change.apply] using entry)
  · exact (durable .state).trans (by simp [Change.apply])
  · exact (durable .temporary).trans (by simp [Change.apply])
  · intro change present
    exact List.mem_singleton.mp present
  · intro other found
    have same := (durable .state).symm.trans found
    simp only [Change.apply, ne_eq, reduceCtorEq, not_false_eq_true, Function.update_of_ne,
      Function.update_self, Option.some.injEq] at same
    subst same
    exact stored.synced

/-- The intent gone from the disk. -/
theorem holds_sync {holding : StoreDirectory} (holds : Holds library identity new holding) :
    Holds library identity new holding.sync := by
  obtain ⟨lock, lockDurable, lockMode⟩ := holds.reads.lock
  obtain ⟨state, stateDurable, stored⟩ := holds.reads.state
  have durable : ∀ name, name ≠ .intent → holding.sync.durable name = holding.durable name := by
    intro name other
    apply replay_of_untouched
    intro change present
    rw [holds.quiescent.changes change present]
    exact fun touched => other touched.symm
  refine ⟨holds.bounded.sync, ⟨⟨lock, ?_, lockMode⟩, ⟨state, ?_, stored⟩, by simp [Directory.sync]⟩,
    ⟨?_, by simp [Directory.sync], ?_⟩⟩
  · rw [durable _ (by decide), lockDurable]
  · rw [durable _ (by decide), stateDurable]
  · rw [durable _ (by decide), holds.quiescent.temporary]
  · intro number found
    rw [durable _ (by decide)] at found
    exact holds.quiescent.state number found

theorem ends (publishing : Publishing library identity new directory) (umask : Nat)
    (safe : Safe library identity before new directory) (verdicts : List Verdict) :
    Ends library identity before new (perform umask publishCalls verdicts ⟨directory, none⟩).1
      (perform umask publishCalls verdicts ⟨directory, none⟩).2 := by
  obtain ⟨number, temporary, stored⟩ := publishing.temporary
  have bounded := publishing.bounded_renamed temporary
  have holds := publishing.holds temporary stored
  refine perform_cons (fun _ _ cut => safe.ends cut) ?_ verdicts
  rintro _ ⟨⟩ verdicts
  refine perform_cons (fun _ _ cut =>
    (publishing.guarded.safe publishing.bounded.sync).ends cut) ?_ verdicts
  intro renamed ran verdicts
  simp only [SystemCall.run, Directory.entries_sync, temporary, Option.map_some,
    Option.some.injEq] at ran
  subst ran
  refine perform_cons (fun _ _ cut =>
    ((publishing.guarded_renamed number).safe bounded).ends cut) ?_ verdicts
  rintro _ ⟨⟩ verdicts
  refine perform_cons (fun _ _ cut =>
    ((publishing.guarded_published number).safe bounded.sync).ends cut) ?_ verdicts
  intro unlinked ran verdicts
  obtain ⟨_, _, rfl⟩ := Option.map_eq_some_iff.mp ran
  refine perform_cons (fun _ _ cut => holds.safe.ends cut) ?_ verdicts
  rintro _ ⟨⟩ verdicts
  have final := holds_sync holds
  refine ⟨final.safe, fun _ => ⟨final, ?_, rfl⟩⟩
  show (Directory.change _ (.unlink StoreFile.intent)).entries StoreFile.intent = none
  simp [Change.apply]

end Publishing

/-- What a commit starts from: a directory at rest, with the lock in place. -/
structure Prepared (directory : StoreDirectory) : Prop where
  rest : Rest directory
  lock : ∃ number, directory.entries .lock = some number ∧ (directory.files number).mode = kMode

/-- The calls on a new file that write its whole content and sync it. -/
def writeCalls (contents : Bytes) (rest : List SystemCall) : List SystemCall :=
  .chmod :: .write contents :: .sync :: .close :: rest

/-- The file those calls leave. -/
def written (directory : StoreDirectory) (number : Nat) (contents : Bytes) : StoreDirectory :=
  ((directory.chmod number kMode).write number contents).syncFile number

/-- Writing a new file out touches nothing else, so every point of it is as safe as an
extension with the temporary file in sight. -/
theorem writeCalls_ends {umask : Nat} {before directory : StoreDirectory} {new : Values}
    {contents : Bytes} {rest : List SystemCall} {number : Nat} (bounded : before.Bounded)
    (extended : Extends before directory) (marked : directory.entries .temporary ≠ none)
    (fresh : before.next ≤ number)
    (next : ∀ verdicts, Ends library identity before new
      (perform umask rest verdicts ⟨written directory number contents, none⟩).1
      (perform umask rest verdicts ⟨written directory number contents, none⟩).2)
    (verdicts : List Verdict) :
    Ends library identity before new
      (perform umask (writeCalls contents rest) verdicts ⟨directory, some number⟩).1
      (perform umask (writeCalls contents rest) verdicts ⟨directory, some number⟩).2 := by
  have safe : ∀ {updated : StoreDirectory}, Extends before updated →
      updated.entries .temporary = directory.entries .temporary →
      Safe library identity before new updated := fun extension same =>
    extension.safe bounded (same ▸ marked)
  have changed := extended.update fresh { directory.files number with mode := kMode }
  refine perform_cons (fun _ _ cut => (safe extended rfl).ends cut) ?_ verdicts
  rintro _ ⟨⟩ verdicts
  refine perform_cons (fun _ _ cut => (safe (changed.update fresh _) rfl).ends cut) ?_ verdicts
  rintro _ ⟨⟩ verdicts
  refine perform_cons (fun _ _ cut => (safe (changed.update fresh _) rfl).ends cut) ?_ verdicts
  rintro _ ⟨⟩ verdicts
  refine perform_cons (fun _ _ cut =>
    (safe ((changed.update fresh _).update fresh _) rfl).ends cut) ?_ verdicts
  rintro _ ⟨⟩ verdicts
  exact next verdicts

theorem Extends.written {before directory : StoreDirectory} (extended : Extends before directory)
    {number : Nat} (fresh : before.next ≤ number) (contents : Bytes) :
    Extends before (written directory number contents) :=
  ((extended.update fresh _).update fresh _).update fresh _

theorem written_entries (directory : StoreDirectory) (number : Nat) (contents : Bytes) :
    (written directory number contents).entries = directory.entries := rfl

theorem written_file {directory : StoreDirectory} {number : Nat}
    (new : (directory.files number).content = []) (contents : Bytes) :
    (written directory number contents).files number = ⟨contents, kMode, true⟩ := by
  simp [written, Directory.syncFile, Directory.write, Directory.chmod, new]

theorem written_other {directory : StoreDirectory} {number other : Nat} (different : other ≠ number)
    (contents : Bytes) :
    (written directory number contents).files other = directory.files other := by
  simp [written, Directory.syncFile, Directory.write, Directory.chmod,
    Directory.files_update_of_ne _ _ different]

/-- The directory with the finished temporary file. -/
def staged (umask : Nat) (before : StoreDirectory) (contents : Bytes) : StoreDirectory :=
  written (before.create .temporary (createdMode umask)) before.next contents

/-- The directory with the intent beside it. -/
def intended (umask : Nat) (before : StoreDirectory) (contents : Bytes) : StoreDirectory :=
  written ((staged umask before contents).create .intent (createdMode umask))
    (staged umask before contents).next (ascii "pending\n")

section Stages

variable {umask : Nat} {before : StoreDirectory} {new : Values} {contents : Bytes}

theorem staged_extends (bounded : before.Bounded) : Extends before (staged umask before contents) :=
  ((Extends.refl bounded).create (.inl rfl) _).written (Nat.le_refl _) contents

theorem staged_temporary :
    (staged umask before contents).entries .temporary = some before.next := by
  simp [staged, written_entries]

theorem staged_file :
    (staged umask before contents).files before.next = ⟨contents, kMode, true⟩ :=
  written_file (by simp) contents

theorem intended_extends (bounded : before.Bounded) :
    Extends before (intended umask before contents) :=
  ((staged_extends bounded).create (.inr rfl) _).written (staged_extends bounded).next _

theorem intended_temporary :
    (intended umask before contents).entries .temporary = some before.next := by
  simp [intended, written_entries, staged_temporary]

theorem intended_file :
    (intended umask before contents).files before.next = ⟨contents, kMode, true⟩ := by
  have different : before.next ≠ (staged umask before contents).next := Nat.ne_of_lt (Nat.lt_succ_self _)
  rw [intended, written_other different, Directory.files_create_of_ne _ _ different, staged_file]

theorem intended_publishing (prepared : Prepared before) (nonempty : 0 < contents.length)
    (fits : contents.length ≤ kMaximumFileBytes)
    (parsed : parseState library contents identity = some new) :
    Publishing library identity new (intended umask before contents) := by
  have bounded := prepared.rest.bounded
  have extended : Extends before (intended umask before contents) := intended_extends bounded
  refine ⟨extended.bounded, ?_, ⟨before.next, intended_temporary, ?_⟩, ?_⟩
  · obtain ⟨lock, entry, mode⟩ := prepared.lock
    refine ⟨lock, ?_, ?_⟩
    · rw [extended.entries (by decide) (by decide), entry]
    · rw [extended.files lock (bounded.entries entry), mode]
  · rw [intended_file]
    exact ⟨⟨rfl, nonempty, fits⟩, rfl, parsed⟩
  · simp [intended, written_entries]

end Stages

/-- **Every way a commit can end** leaves the old map, the new map or the marker to find. -/
theorem perform_commit {before : StoreDirectory} {new : Values} {contents : Bytes}
    (prepared : Prepared before) (nonempty : 0 < contents.length)
    (fits : contents.length ≤ kMaximumFileBytes)
    (parsed : parseState library contents identity = some new) (umask : Nat)
    (verdicts : List Verdict) :
    Ends library identity before new
      (perform umask (commitCalls contents) verdicts ⟨before, none⟩).1
      (perform umask (commitCalls contents) verdicts ⟨before, none⟩).2 := by
  have bounded := prepared.rest.bounded
  have start : Safe library identity before new before := ⟨prepared.rest, fun _ old => .inl old⟩
  have marked : ∀ {directory : StoreDirectory}, directory.entries .temporary = some before.next →
      directory.entries .temporary ≠ none := fun found missing => by simp [found] at missing
  -- `CleanCommitState` and the creation of the temporary file change nothing when they fail.
  refine perform_cons (fun _ _ cut => start.ends cut) ?_ verdicts
  intro session ran verdicts
  simp only [SystemCall.run] at ran
  split at ran <;> cases ran
  refine perform_cons (fun _ _ cut => start.ends cut) ?_ verdicts
  intro session ran verdicts
  simp only [SystemCall.run] at ran
  split at ran <;> cases ran
  refine perform_cons (fun _ _ cut => start.ends cut) ?_ verdicts
  intro session ran verdicts
  simp only [SystemCall.run] at ran
  split at ran <;> cases ran
  refine writeCalls_ends bounded ((Extends.refl bounded).create (.inl rfl) _) (marked (by simp))
    (Nat.le_refl _) ?_ verdicts
  intro verdicts
  -- The intent is made in the same way, beside the finished temporary file.
  have stagedExtends : Extends before (staged umask before contents) := staged_extends bounded
  refine perform_cons (fun _ _ cut =>
    (stagedExtends.safe bounded (marked staged_temporary)).ends cut) ?_ verdicts
  intro session ran verdicts
  simp only [SystemCall.run] at ran
  split at ran <;> cases ran
  have still : ((staged umask before contents).create .intent (createdMode umask)).entries
      .temporary = some before.next := by
    simp [staged_temporary]
  refine writeCalls_ends bounded (stagedExtends.create (.inr rfl) _) (marked still)
    stagedExtends.next ?_ verdicts
  intro verdicts
  exact (intended_publishing prepared nonempty fits parsed).ends umask
    ((intended_extends bounded).safe bounded (marked intended_temporary)) verdicts

/-! ## The store -/

theorem Holds.prepared {values : Values} {directory : StoreDirectory}
    (holds : Holds library identity values directory) : Prepared directory := by
  obtain ⟨lock, durable, mode⟩ := holds.reads.lock
  refine ⟨holds.rest, lock, ?_, mode⟩
  rw [entries_later (.inl rfl) fun change present => (holds.reads.untouched change present).1, durable]

theorem Holds.storable {values : Values} {directory : StoreDirectory}
    (holds : Holds library identity values directory) : Storable values := by
  obtain ⟨_, _, stored⟩ := holds.reads.state
  exact parseState_storable stored.parsed

/-- A setter that passes its checks commits a map that the writer admits. -/
theorem next_storable {values next : Values} {mutation : DurableStorage.Mutation}
    (storable : Storable values) (leads : mutation.next values = .ok next) : Storable next := by
  cases mutation with
  | set key value size =>
      simp only [DurableStorage.Mutation.next] at leads
      split at leads
      · cases leads
      · rename_i normalized valid
        split at leads
        · cases leads
        · split at leads
          · cases leads
          · rename_i room
            cases leads
            constructor
            · rw [Std.ExtTreeMap.size_insert]
              have count := storable.count
              split
              · exact count
              · rename_i missing
                have absent : values[normalized]? = none :=
                  Std.ExtTreeMap.getElem?_eq_none (by simpa using missing)
                simp only [absent, true_and, Nat.not_le] at room
                exact room
            · intro other stored found
              rw [Std.ExtTreeMap.getElem?_insert] at found
              split at found
              · rename_i same
                cases found
                cases Std.LawfulEqCmp.eq_of_compare same
                refine ⟨validKey_admitted valid, ?_⟩
                have small := size.toNat_lt
                rw [List.length_take, kMaximumValueBytes]
                omega
              · exact storable.admitted _ _ found
  | delete key =>
      simp only [DurableStorage.Mutation.next] at leads
      split at leads
      · cases leads
      · split at leads
        · cases leads
        · cases leads
          constructor
          · exact Nat.le_trans Std.ExtTreeMap.size_erase_le storable.count
          · intro other stored found
            rw [Std.ExtTreeMap.getElem?_erase] at found
            split at found
            · cases found
            · exact storable.admitted _ _ found

/-- **`Commit`**: how it ends, and what it leaves of the store. -/
theorem commit_ends (storage : DurableStorage) {new : Values} {directory : StoreDirectory}
    (inverts : library.Inverts) (valid : validIdentity storage.identity = true)
    (storable : Storable new) (prepared : Prepared directory)
    (healthy : storage.poisoned = false) (umask : Nat) (verdicts : List Verdict) :
    ∃ outcome left after,
      storage.commit library umask verdicts new directory = (outcome, left, after) ∧
        Ends library storage.identity directory new outcome after ∧
        left = (if outcome = .failed then storage.poison else storage) := by
  have start : Safe library storage.identity directory new directory :=
    ⟨prepared.rest, fun _ old => .inl old⟩
  simp only [DurableStorage.commit, healthy, Bool.false_eq_true, if_false]
  cases serialized : serializeState library storage.identity new with
  | none => exact ⟨_, _, _, rfl, start.ends (by decide), by simp⟩
  | some contents =>
      obtain ⟨nonempty, fits⟩ := serializeState_bounds serialized
      have parsed := parseState_serializeState inverts valid storable serialized
      have ends := perform_commit prepared nonempty fits parsed umask verdicts
      dsimp only
      generalize perform umask (commitCalls contents) verdicts ⟨directory, none⟩ = result at ends ⊢
      obtain ⟨outcome, after⟩ := result
      cases outcome with
      | completed => exact ⟨_, _, _, rfl, ends, by simp⟩
      | failed => exact ⟨_, _, _, rfl, ends, by simp⟩
      | died => exact ⟨_, _, _, rfl, ends, by simp⟩

/-- A setter that passes its checks: the three ways its commit can end. -/
theorem mutate_ends {storage : DurableStorage} {next : Values} {directory : StoreDirectory}
    {mutation : DurableStorage.Mutation} (inverts : library.Inverts)
    (valid : validIdentity storage.identity = true)
    (holds : Holds library storage.identity storage.values directory)
    (healthy : storage.poisoned = false) (leads : mutation.next storage.values = .ok next)
    (umask : Nat) (verdicts : List Verdict) :
    ∃ reply left after,
      storage.mutate library umask verdicts mutation directory = (reply, left, after) ∧
        Safe library storage.identity directory next after ∧
        (reply = none ∨
          reply = some .noError ∧ Done library storage.identity next after ∧
            left = { storage with values := next } ∨
          reply = some .persistedStorageFailed ∧ left = storage.poison) := by
  obtain ⟨outcome, left, after, committed, ⟨safe, done⟩, kept⟩ :=
    commit_ends storage inverts valid (next_storable holds.storable leads) holds.prepared healthy umask
      verdicts
  simp only [DurableStorage.mutate, healthy, Bool.false_eq_true, if_false, leads,
    DurableStorage.install, committed]
  cases outcome with
  | completed =>
      refine ⟨_, _, _, rfl, safe, .inr (.inl ⟨rfl, done rfl, ?_⟩)⟩
      rw [kept]
      simp [healthy]
  | failed =>
      refine ⟨_, _, _, rfl, safe, .inr (.inr ⟨rfl, ?_⟩)⟩
      rw [kept]
      simp
  | died => exact ⟨_, _, _, rfl, safe, .inl rfl⟩

/-! ## Histories -/

theorem rest_crash {directory : StoreDirectory} (bounded : directory.Bounded) (mask : List Bool)
    (garbage : Nat → Bytes) : Rest (directory.crash mask garbage) := by
  refine ⟨bounded.crash mask garbage, ?_⟩
  intro temporary _ _
  exact ⟨temporary, by simp [Directory.crash], fun _ _ => rfl⟩

/-- What `Open` has seen of a directory at rest makes it the directory of the store. -/
theorem Seen.holds {attempt : Attempt} {locked : Bool} {directory : StoreDirectory} {values : Values}
    (seen : Seen library attempt locked directory values) (rest : Rest directory) :
    Holds library attempt.identity values directory := by
  obtain ⟨lock, lockEntry, lockMode⟩ := seen.lock
  obtain ⟨state, stateEntry, readable, parsed⟩ := seen.state
  have quiescent := rest.quiescent seen.temporary seen.intent (by rw [stateEntry]; simp)
  have untouched : ∀ name, name ≠ .intent → ∀ change ∈ directory.changes, ¬ change.Touches name := by
    intro name other change present
    rw [quiescent.changes change present]
    exact fun touched => other touched.symm
  rw [entries_later (.inl rfl) (untouched _ (by decide))] at lockEntry stateEntry
  refine ⟨rest.bounded, ⟨⟨lock, lockEntry, lockMode⟩, ⟨state, stateEntry, readable, ?_, parsed⟩, ?_⟩,
    quiescent⟩
  · exact quiescent.state state stateEntry
  · intro change present
    exact ⟨untouched _ (by decide) change present, untouched _ (by decide) change present⟩

theorem rest_of_no_state {directory : StoreDirectory} (bounded : directory.Bounded)
    (none : directory.entries .state = none) : Rest directory :=
  ⟨bounded, fun _ _ found => absurd none found⟩

theorem storable_empty : Storable ∅ :=
  ⟨by simp, by simp⟩

/-- A store that is open and healthy: its map is in the directory, and no marker in sight. -/
structure Serves (library : JsonLibrary) (storage : DurableStorage) (directory : StoreDirectory) :
    Prop where
  holds : Holds library storage.identity storage.values directory
  intent : directory.entries .intent = none

/-- What a fresh directory is left as, and what is open on it. -/
def Made (library : JsonLibrary) (result : OpenResult) (directory : StoreDirectory) : Prop :=
  Rest directory ∧ ∀ storage, result = .opened storage →
    validIdentity storage.identity = true ∧ Serves library storage directory

theorem openFrom_created {umask : Nat} {attempt : Attempt} {locked : Bool}
    (inverts : library.Inverts) (valid : validIdentity attempt.identity = true)
    (creates : attempt.storageMode = .createNew) :
    Made library (openFrom library umask attempt locked Directory.empty).1
      (openFrom library umask attempt locked Directory.empty).2 := by
  have emptyRest : Rest (Directory.empty : StoreDirectory) :=
    rest_of_no_state Directory.bounded_empty rfl
  have madeRest : Rest ((Directory.empty : StoreDirectory).create .lock (createdMode umask)) :=
    rest_of_no_state (Directory.bounded_empty.create _ _) rfl
  have nothing : (Directory.empty : StoreDirectory).entries .lock = none := rfl
  simp only [openFrom]
  split
  · rename_i refused made
    simp only [openLock, creates, nothing] at made
    split at made
    · cases made
      exact ⟨emptyRest, by simp⟩
    · obtain ⟨_, rfl⟩ := Prod.mk.inj made
      exact ⟨madeRest, by simp⟩
  · rename_i held made
    simp only [openLock, creates, nothing] at made
    split at made
    · cases made
    · obtain ⟨lockHeld, rfl⟩ := Prod.mk.inj made
      simp only [Bool.and_eq_true, beq_iff_eq] at lockHeld
      have prepared : Prepared ((Directory.empty : StoreDirectory).create .lock (createdMode umask)) :=
        ⟨madeRest, _, by simp, lockHeld.1.1.2⟩
      split
      · exact ⟨madeRest, by simp⟩
      · simp only [creates]
        obtain ⟨outcome, left, after, committed, ⟨safe, done⟩, kept⟩ :=
          commit_ends ⟨attempt.identity, ∅, false⟩ inverts valid storable_empty prepared rfl
            umask attempt.verdicts
        rw [committed]
        cases outcome with
        | completed =>
            refine ⟨safe.rest, ?_⟩
            rintro storage ⟨⟩
            rw [kept]
            exact ⟨valid, (done rfl).holds, (done rfl).unmarked⟩
        | failed => exact ⟨safe.rest, by simp⟩
        | died => exact ⟨safe.rest, by simp⟩

/-- `Open` where there is no directory yet: still none, or one it made. -/
theorem openStore_none (inverts : library.Inverts) (umask : Nat) (attempt : Attempt)
    (locked : Bool) :
    (∃ error, openStore library umask attempt locked none = (.refused error, none)) ∨
      ∃ result directory, openStore library umask attempt locked none = (result, some directory) ∧
        Made library result directory := by
  simp only [openStore]
  split
  · exact .inl ⟨_, rfl⟩
  · rename_i accepted
    cases mode : attempt.storageMode with
    | openExisting => exact .inl ⟨_, rfl⟩
    | createNew =>
        dsimp only
        split
        · exact .inl ⟨_, rfl⟩
        · split
          · exact .inr ⟨_, _, rfl, rest_of_no_state Directory.bounded_empty rfl, by simp⟩
          · simp only [Attempt.invalid, not_or] at accepted
            have valid := Bool.eq_true_of_not_eq_false accepted.2.2.1
            exact .inr ⟨_, _, rfl, openFrom_created inverts valid mode⟩

namespace World

/-- The invariant of histories: the directory is at rest, and serves an open store that is
not poisoned. -/
structure Sound (library : JsonLibrary) (world : World) : Prop where
  rest : ∀ directory, world.directory = some directory → Rest directory
  store : ∀ storage, world.store = some storage → validIdentity storage.identity = true ∧
    ∃ directory, world.directory = some directory ∧
      (storage.poisoned = false → Serves library storage directory)

theorem sound_openStore {world : World} (inverts : library.Inverts) (umask : Nat)
    (sound : Sound library world) (attempt : Attempt) :
    Sound library (world.step library umask (.openStore attempt)) := by
  cases existing : world.directory with
  | some directory =>
      rcases openStore_existing library umask attempt world.store.isSome
        directory with ⟨error, refused⟩ | ⟨values, opened, seen⟩
      · have same : world.step library umask (.openStore attempt) = world := by
          simp only [step, existing, refused]
          rw [← existing]
        rw [same]
        exact sound
      · simp only [step, existing, opened]
        have rest := sound.rest directory existing
        refine ⟨?_, ?_⟩
        · rintro _ ⟨⟩
          exact rest
        · rintro _ ⟨⟩
          exact ⟨seen.identity, directory, rfl, fun _ => ⟨seen.holds rest, seen.intent⟩⟩
  | none =>
      have closed : world.store = none := by
        cases store : world.store with
        | none => rfl
        | some storage =>
            obtain ⟨_, directory, found, _⟩ := sound.store storage store
            rw [existing] at found
            cases found
      rcases openStore_none inverts umask attempt world.store.isSome with
        ⟨error, refused⟩ | ⟨result, directory, made, rest, opened⟩
      · have same : world.step library umask (.openStore attempt) = world := by
          simp only [step, existing, refused]
          rw [← existing]
        rw [same]
        exact sound
      · simp only [step, existing, made]
        cases result with
        | opened storage =>
            obtain ⟨valid, serves⟩ := opened storage rfl
            refine ⟨?_, ?_⟩
            · rintro _ ⟨⟩
              exact rest
            · rintro _ ⟨⟩
              exact ⟨valid, directory, rfl, fun _ => serves⟩
        | refused error =>
            refine ⟨?_, by simp [closed]⟩
            rintro _ ⟨⟩
            exact rest
        | died =>
            refine ⟨?_, by simp [closed]⟩
            rintro _ ⟨⟩
            exact rest

theorem sound_mutate {world : World} (inverts : library.Inverts) (umask : Nat)
    (sound : Sound library world) (mutation : DurableStorage.Mutation) (verdicts : List Verdict) :
    Sound library (world.step library umask (.mutate mutation verdicts)) := by
  cases store : world.store with
  | none =>
      simp only [step, store]
      exact sound
  | some storage =>
      obtain ⟨valid, directory, existing, serves⟩ := sound.store storage store
      have rest := sound.rest directory existing
      simp only [step, store, existing]
      cases poisoned : storage.poisoned with
      | true =>
          -- A poisoned store answers without touching anything.
          simp only [DurableStorage.mutate, poisoned, if_true]
          refine ⟨?_, ?_⟩
          · rintro _ ⟨⟩
            exact rest
          · rintro _ ⟨⟩
            exact ⟨valid, directory, rfl, serves⟩
      | false =>
          cases leads : mutation.next storage.values with
          | error error =>
              simp only [DurableStorage.mutate, poisoned, Bool.false_eq_true, if_false, leads]
              refine ⟨?_, ?_⟩
              · rintro _ ⟨⟩
                exact rest
              · rintro _ ⟨⟩
                exact ⟨valid, directory, rfl, serves⟩
          | ok next =>
              obtain ⟨reply, left, after, result, safe, ends⟩ :=
                mutate_ends inverts valid (serves poisoned).holds poisoned leads umask verdicts
              rw [result]
              rcases ends with rfl | ⟨rfl, done, rfl⟩ | ⟨rfl, rfl⟩
              · refine ⟨?_, by simp⟩
                rintro _ ⟨⟩
                exact safe.rest
              · refine ⟨?_, ?_⟩
                · rintro _ ⟨⟩
                  exact safe.rest
                · rintro _ ⟨⟩
                  exact ⟨valid, after, rfl, fun _ => ⟨done.holds, done.unmarked⟩⟩
              · refine ⟨?_, ?_⟩
                · rintro _ ⟨⟩
                  exact safe.rest
                · rintro _ ⟨⟩
                  exact ⟨valid, after, rfl, by simp [DurableStorage.poison]⟩

theorem sound_step {world : World} (inverts : library.Inverts) (umask : Nat)
    (sound : Sound library world) (event : StoreEvent) :
    Sound library (world.step library umask event) := by
  cases event with
  | openStore attempt => exact sound_openStore inverts umask sound attempt
  | mutate mutation verdicts => exact sound_mutate inverts umask sound mutation verdicts
  | get key buffer size => exact sound
  | exit => exact ⟨sound.rest, by simp [step]⟩
  | crash mask garbage =>
      refine ⟨?_, by simp [step]⟩
      intro directory found
      obtain ⟨before, existing, rfl⟩ := Option.map_eq_some_iff.mp found
      exact rest_crash (sound.rest before existing).bounded mask garbage

/-- **Every history** keeps the invariant. -/
theorem run_sound (inverts : library.Inverts) (umask : Nat) (events : List StoreEvent) :
    Sound library (run library umask events) := by
  induction events using List.reverseRecOn with
  | nil => exact ⟨by simp [run, initial], by simp [run, initial]⟩
  | append_singleton events event ih =>
      rw [run, List.foldl_append]
      exact sound_step inverts umask ih event

end World

/-! ## Setters survive crashes -/

/-- After a failed commit nothing is read or written any more. -/
theorem poisoned_refuses (library : JsonLibrary) {storage : DurableStorage}
    (poisoned : storage.poisoned = true)
    (umask : Nat) :
    (∀ mutation verdicts directory, storage.mutate library umask verdicts mutation directory =
        (some .persistedStorageFailed, storage, directory)) ∧
      ∀ key buffer size, storage.syncGetKeyValue key buffer size = (.persistedStorageFailed, none) := by
  simp [DurableStorage.mutate, DurableStorage.syncGetKeyValue, poisoned]

/-- What is promised of a setter that goes on to commit `next`, by its reply, the store
it leaves and the directory it leaves. -/
structure Survives (library : JsonLibrary) (umask : Nat) (storage : DurableStorage) (next : Values)
    (result : DurableStorage.Reply × DurableStorage × StoreDirectory) : Prop where
  /-- A later `Open`, after a crash or without one, refuses or finds exactly the old or
  exactly the new map. -/
  recovers : ∀ found, Later result.2.2 found → ∀ attempt locked,
    attempt.identity = storage.identity →
      (∃ error, (openStore library umask attempt locked (some found)).1 = .refused error) ∨
      (openStore library umask attempt locked (some found)).1 =
        .opened ⟨storage.identity, storage.values, false⟩ ∨
      (openStore library umask attempt locked (some found)).1 =
        .opened ⟨storage.identity, next, false⟩
  /-- After success it never finds anything but the new map, and nothing but failing calls
  can keep it from opening. -/
  durable : result.1 = some .noError → ∀ found, Later result.2.2 found → ∀ attempt,
    attempt.identity = storage.identity →
      (∀ locked, (∃ error,
          (openStore library umask attempt locked (some found)).1 = .refused error) ∨
        (openStore library umask attempt locked (some found)).1 =
          .opened ⟨storage.identity, next, false⟩) ∧
      (attempt.Unhindered → (openStore library umask attempt false (some found)).1 =
        .opened ⟨storage.identity, next, false⟩)
  /-- After an error the map in memory is the old one, the store is poisoned, and it refuses
  everything from then on. -/
  poisons : ∀ error, result.1 = some error → error ≠ .noError →
    result.2.1.values = storage.values ∧ result.2.1.poisoned = true ∧
      (∀ mutation verdicts directory,
        result.2.1.mutate library umask verdicts mutation directory =
          (some .persistedStorageFailed, result.2.1, directory)) ∧
      ∀ key buffer size,
        result.2.1.syncGetKeyValue key buffer size = (.persistedStorageFailed, none)

/-- **A setter is all or nothing**: after any history, for any healthy store at its end, any
setter whose checks pass and any script of its system calls. -/
theorem mutate_survives (library : JsonLibrary) (inverts : library.Inverts) (umask : Nat)
    (events : List StoreEvent) (storage : DurableStorage) (directory : StoreDirectory)
    (opened : (World.run library umask events).store = some storage)
    (there : (World.run library umask events).directory = some directory)
    (healthy : storage.poisoned = false) (mutation : DurableStorage.Mutation) (next : Values)
    (leads : mutation.next storage.values = .ok next) (verdicts : List Verdict) :
    Survives library umask storage next
      (storage.mutate library umask verdicts mutation directory) := by
  have sound := World.run_sound inverts umask events
  obtain ⟨valid, held, same, serves⟩ := sound.store storage opened
  rw [there] at same
  cases same
  have holding := (serves healthy).holds
  obtain ⟨reply, left, after, result, safe, ends⟩ :=
    mutate_ends inverts valid holding healthy leads umask verdicts
  rw [result]
  refine ⟨?_, ?_, ?_⟩
  · intro found later attempt locked identity
    rw [← identity] at safe holding ⊢
    rcases safe.recovers _ holding.reads with old | new | guarded
    · rcases openStore_of_reads old later locked with refused | same
      · exact .inl refused
      · exact .inr (.inl same)
    · rcases openStore_of_reads new later locked with refused | same
      · exact .inl refused
      · exact .inr (.inr same)
    · exact .inl (openStore_of_guarded guarded later attempt locked)
  · rintro success found later attempt identity
    rcases ends with none | ⟨_, done, _⟩ | ⟨failed, _⟩
    · rw [none] at success
      cases success
    · rw [← identity] at done ⊢
      refine ⟨fun locked => openStore_of_reads done.holds.reads later locked, fun unhindered => ?_⟩
      have none : ∀ change ∈ after.changes, ∀ name, ¬ change.Touches name := by
        simp [done.changes]
      refine openStore_unhindered umask unhindered done.holds.reads later ?_ ?_
      · rw [entries_later later fun change present => none change present _]
        exact done.holds.quiescent.temporary
      · rw [entries_later later fun change present => none change present _]
        exact done.intent
    · rw [failed] at success
      cases success
  · intro error failed different
    rcases ends with none | ⟨success, _, _⟩ | ⟨_, rfl⟩
    · rw [none] at failed
      cases failed
    · rw [success] at failed
      cases failed
      exact absurd rfl different
    · exact ⟨rfl, rfl, poisoned_refuses library rfl umask⟩

/-- A store created at `/s` with nothing in its way. -/
def createAttempt : Attempt where
  path := ascii "/s"
  storageMode := .createNew
  authorityMode := .generateRoot
  identity := ⟨1, 4660, 65521⟩
  fails := fun _ => false
  verdicts := []

/-- The new store: open, healthy and empty. -/
theorem created_store :
    (World.run compact 0 [.openStore createAttempt]).store =
      some ⟨⟨1, 4660, 65521⟩, ∅, false⟩ := by
  have created : (World.run compact 0 [.openStore createAttempt]).store.map
      (fun storage => (storage.identity, storage.poisoned, storage.values.isEmpty)) =
        some (⟨1, 4660, 65521⟩, false, true) := by
    decide +kernel
  obtain ⟨⟨identity, values, poisoned⟩, opened, same⟩ := Option.map_eq_some_iff.mp created
  simp only [Prod.mk.injEq] at same
  obtain ⟨rfl, rfl, nothing⟩ := same
  rw [opened, Std.ExtTreeMap.isEmpty_iff.mp nothing]

/-- The first setter of a new store, cut off in the middle of its write. -/
theorem mutate_survives_first_set :
    ∃ storage directory,
      (World.run compact 0 [.openStore createAttempt]).store = some storage ∧
      (World.run compact 0 [.openStore createAttempt]).directory = some directory ∧
      Survives compact 0 storage ((∅ : Values).insert (ascii "a") [7])
        (storage.mutate compact 0
          [.succeeds, .succeeds, .succeeds, .succeeds, .dies 5] (.set (some (ascii "a")) (some [7]) 1)
          directory) := by
  obtain ⟨_, directory, there, _⟩ :=
    (World.run_sound compact_inverts 0 [.openStore createAttempt]).store _ created_store
  exact ⟨_, directory, created_store, there,
    mutate_survives compact compact_inverts 0 _ _ directory created_store there rfl _ _ rfl _⟩

end

end WotexMatter.Storage
