/-
# WotexMatter.Theory.Directory -- a directory that a crash may roll back

What a program may rely on when it replaces files in one directory.  Names are entries
that point to numbered files.  An entry change is visible at once (`Directory.entries`)
but durable only after the directory is synced; until then a crash keeps an arbitrary
subset of the changes made since (`Directory.crash` with a mask).  A rename is one
change, kept or lost as a whole.  The content of a file is durable once the file is
synced; a crash leaves arbitrary content in every other file.

The lemmas say which entries a replay of changes can move (`replay_of_untouched`) and
that numbers once handed out are not handed out again (`Directory.Bounded`).
-/
import Mathlib.Data.List.Basic
import Mathlib.Logic.Function.Basic

set_option autoImplicit false
set_option linter.unusedSectionVars false

namespace WotexMatter.Theory

/-- A regular file: what processes read, its permission bits, and whether its content is
on the disk. -/
structure File (Byte : Type) where
  content : List Byte
  mode : Nat
  synced : Bool

/-- One change to the entries of a directory. -/
inductive Change (Name : Type) where
  | link (name : Name) (file : Nat)
  | unlink (name : Name)
  | rename (source target : Name) (file : Nat)

variable {Name Byte : Type} [DecidableEq Name]

namespace Change

def apply (entries : Name → Option Nat) : Change Name → Name → Option Nat
  | .link name file => Function.update entries name (some file)
  | .unlink name => Function.update entries name none
  | .rename source target file =>
      Function.update (Function.update entries target (some file)) source none

/-- The change moves the entry of this name. -/
def Touches (name : Name) : Change Name → Prop
  | .link other _ => other = name
  | .unlink other => other = name
  | .rename source target _ => source = name ∨ target = name

/-- The file a change points an entry to lies below the bound. -/
def Below (bound : Nat) : Change Name → Prop
  | .link _ file => file < bound
  | .unlink _ => True
  | .rename _ _ file => file < bound

/-- A change moves the entries it names and no other. -/
theorem apply_of_untouched {entries : Name → Option Nat} {change : Change Name} {name : Name}
    (untouched : ¬ change.Touches name) : change.apply entries name = entries name := by
  cases change with
  | link other file => exact Function.update_of_ne (Ne.symm untouched) _ _
  | unlink other => exact Function.update_of_ne (Ne.symm untouched) _ _
  | rename source target file =>
      simp only [Touches, not_or] at untouched
      simp only [apply]
      rw [Function.update_of_ne (Ne.symm untouched.1), Function.update_of_ne (Ne.symm untouched.2)]

/-- A bound may be raised. -/
theorem Below.mono {change : Change Name} {bound larger : Nat} (below : change.Below bound)
    (le : bound ≤ larger) : change.Below larger := by
  cases change with
  | link name file => exact Nat.lt_of_lt_of_le below le
  | unlink name => trivial
  | rename source target file => exact Nat.lt_of_lt_of_le below le

/-- A change below the bound keeps every entry below it. -/
theorem apply_below {entries : Name → Option Nat} {change : Change Name} {bound : Nat}
    (before : ∀ name file, entries name = some file → file < bound) (below : change.Below bound) :
    ∀ name file, change.apply entries name = some file → file < bound := by
  intro name file found
  cases change with
  | link other linked =>
      simp only [apply, Function.update_apply] at found
      split at found
      · cases found
        exact below
      · exact before _ _ found
  | unlink other =>
      simp only [apply, Function.update_apply] at found
      split at found
      · cases found
      · exact before _ _ found
  | rename source target moved =>
      simp only [apply, Function.update_apply] at found
      split at found
      · cases found
      · split at found
        · cases found
          exact below
        · exact before _ _ found

end Change

/-- Entry changes made one after the other. -/
def replay (changes : List (Change Name)) (entries : Name → Option Nat) : Name → Option Nat :=
  changes.foldl Change.apply entries

/-- The last change is made last. -/
theorem replay_append (changes : List (Change Name)) (change : Change Name)
    (entries : Name → Option Nat) :
    replay (changes ++ [change]) entries = change.apply (replay changes entries) := by
  simp [replay]

/-- **Changes that do not touch a name leave its entry alone.** -/
theorem replay_of_untouched {changes : List (Change Name)} {name : Name}
    (untouched : ∀ change ∈ changes, ¬ change.Touches name) (entries : Name → Option Nat) :
    replay changes entries name = entries name := by
  induction changes generalizing entries with
  | nil => rfl
  | cons change rest ih =>
      have here := untouched change List.mem_cons_self
      have later := ih fun other present => untouched other (List.mem_cons_of_mem _ present)
      show replay rest (change.apply entries) name = entries name
      rw [later, Change.apply_of_untouched here]

/-- **Changes below a bound keep every entry below it.** -/
theorem replay_below {changes : List (Change Name)} {entries : Name → Option Nat} {bound : Nat}
    (before : ∀ name file, entries name = some file → file < bound)
    (below : ∀ change ∈ changes, change.Below bound) :
    ∀ name file, replay changes entries name = some file → file < bound := by
  induction changes generalizing entries with
  | nil => exact before
  | cons change rest ih =>
      apply ih (Change.apply_below before (below change List.mem_cons_self))
      intro other present
      exact below other (List.mem_cons_of_mem _ present)

/-- The changes a crash keeps: those whose place in the mask is `true`. -/
def select (mask : List Bool) (changes : List (Change Name)) : List (Change Name) :=
  ((changes.zip mask).filter Prod.snd).map Prod.fst

/-- A crash invents no change. -/
theorem mem_of_mem_select {mask : List Bool} {changes : List (Change Name)} {change : Change Name}
    (kept : change ∈ select mask changes) : change ∈ changes := by
  obtain ⟨⟨chosen, flag⟩, present, rfl⟩ := List.mem_map.mp kept
  exact (List.of_mem_zip (List.mem_filter.mp present).1).1

/-- A directory: its files by number, the next number to hand out, the entries on the
disk, and the changes made since they were last synced. -/
structure Directory (Name Byte : Type) where
  files : Nat → File Byte
  next : Nat
  durable : Name → Option Nat
  changes : List (Change Name)

namespace Directory

/-- A new directory. -/
def empty : Directory Name Byte where
  files := fun _ => ⟨[], 0, false⟩
  next := 0
  durable := fun _ => none
  changes := []

/-- The entries as processes see them. -/
def entries (directory : Directory Name Byte) : Name → Option Nat :=
  replay directory.changes directory.durable

def change (directory : Directory Name Byte) (change : Change Name) : Directory Name Byte :=
  { directory with changes := directory.changes ++ [change] }

def update (directory : Directory Name Byte) (number : Nat) (file : File Byte) :
    Directory Name Byte :=
  { directory with files := Function.update directory.files number file }

/-- A new empty file under a name; its number is the old `next`. -/
def create (directory : Directory Name Byte) (name : Name) (mode : Nat) : Directory Name Byte :=
  ({ directory with next := directory.next + 1 }.update directory.next ⟨[], mode, false⟩).change
    (.link name directory.next)

def chmod (directory : Directory Name Byte) (number mode : Nat) : Directory Name Byte :=
  directory.update number { directory.files number with mode := mode }

/-- Bytes appended to a file, not yet synced. -/
def write (directory : Directory Name Byte) (number : Nat) (bytes : List Byte) :
    Directory Name Byte :=
  let file := directory.files number
  directory.update number { file with content := file.content ++ bytes, synced := false }

def syncFile (directory : Directory Name Byte) (number : Nat) : Directory Name Byte :=
  directory.update number { directory.files number with synced := true }

def sync (directory : Directory Name Byte) : Directory Name Byte :=
  { directory with durable := directory.entries, changes := [] }

/-- **A crash**: the entries on the disk with the kept changes, and arbitrary content in
every file that was not synced. -/
def crash (directory : Directory Name Byte) (mask : List Bool) (garbage : Nat → List Byte) :
    Directory Name Byte where
  files number :=
    let file := directory.files number
    { file with content := if file.synced then file.content else garbage number, synced := true }
  next := directory.next
  durable := replay (select mask directory.changes) directory.durable
  changes := []

/-! ## What the operations change -/

section Simp

variable (directory : Directory Name Byte) (number : Nat) (name : Name)

/-- A change is visible at once. -/
@[simp] theorem entries_change (step : Change Name) :
    (directory.change step).entries = step.apply directory.entries :=
  replay_append _ _ _

@[simp] theorem entries_update (file : File Byte) :
    (directory.update number file).entries = directory.entries := rfl

@[simp] theorem entries_chmod (mode : Nat) :
    (directory.chmod number mode).entries = directory.entries := rfl

@[simp] theorem entries_write (bytes : List Byte) :
    (directory.write number bytes).entries = directory.entries := rfl

@[simp] theorem entries_syncFile :
    (directory.syncFile number).entries = directory.entries := rfl

/-- Syncing makes changes durable; what processes see stays the same. -/
@[simp] theorem entries_sync : directory.sync.entries = directory.entries := rfl

/-- A new file stands under its name, with the number that was next. -/
@[simp] theorem entries_create (mode : Nat) :
    (directory.create name mode).entries =
      Function.update directory.entries name (some directory.next) :=
  entries_change _ _

/-- After a crash processes see the disk, with the changes that were kept. -/
@[simp] theorem entries_crash (mask : List Bool) (garbage : Nat → List Byte) :
    (directory.crash mask garbage).entries =
      replay (select mask directory.changes) directory.durable := rfl

/-- Writing to one file leaves the others alone. -/
theorem files_update_of_ne {file : File Byte} {other : Nat} (different : other ≠ number) :
    (directory.update number file).files other = directory.files other :=
  Function.update_of_ne different _ _

@[simp] theorem files_update_self (file : File Byte) :
    (directory.update number file).files number = file :=
  Function.update_self _ _ _

/-- A new file replaces none of those with another number. -/
theorem files_create_of_ne {mode other : Nat} (different : other ≠ directory.next) :
    (directory.create name mode).files other = directory.files other :=
  Function.update_of_ne different _ _

@[simp] theorem files_create_self (mode : Nat) :
    (directory.create name mode).files directory.next = ⟨[], mode, false⟩ :=
  Function.update_self _ _ _

end Simp

/-! ## Numbers are handed out once -/

/-- Every entry, on the disk or changed since, points below the next number. -/
structure Bounded (directory : Directory Name Byte) : Prop where
  durable : ∀ name file, directory.durable name = some file → file < directory.next
  changes : ∀ change ∈ directory.changes, change.Below directory.next

namespace Bounded

variable {directory : Directory Name Byte}

/-- What processes see is bounded as well, not only what is on the disk. -/
theorem entries (bounded : directory.Bounded) {name : Name} {file : Nat}
    (found : directory.entries name = some file) : file < directory.next :=
  replay_below bounded.durable bounded.changes name file found

theorem update (bounded : directory.Bounded) (number : Nat) (file : File Byte) :
    (directory.update number file).Bounded :=
  ⟨bounded.durable, bounded.changes⟩

/-- A change below the next number keeps the bound. -/
theorem change (bounded : directory.Bounded) {step : Change Name}
    (below : step.Below directory.next) : (directory.change step).Bounded := by
  refine ⟨bounded.durable, ?_⟩
  intro change present
  rcases List.mem_append.mp present with old | new
  · exact bounded.changes change old
  · cases List.mem_singleton.mp new
    exact below

/-- The number handed out is below the one that is next afterwards. -/
theorem create (bounded : directory.Bounded) (name : Name) (mode : Nat) :
    (directory.create name mode).Bounded := by
  refine ⟨fun other file found => Nat.lt_succ_of_lt (bounded.durable other file found), ?_⟩
  intro change present
  rcases List.mem_append.mp present with old | new
  · exact (bounded.changes change old).mono (Nat.le_succ _)
  · cases List.mem_singleton.mp new
    exact Nat.lt_succ_self _

theorem sync (bounded : directory.Bounded) : directory.sync.Bounded :=
  ⟨fun _ _ found => bounded.entries found, by simp [Directory.sync]⟩

/-- The bound outlives a crash, whatever it keeps. -/
theorem crash (bounded : directory.Bounded) (mask : List Bool) (garbage : Nat → List Byte) :
    (directory.crash mask garbage).Bounded := by
  refine ⟨replay_below bounded.durable ?_, by simp [Directory.crash]⟩
  intro change kept
  exact bounded.changes change (mem_of_mem_select kept)

end Bounded

theorem bounded_empty : (empty : Directory Name Byte).Bounded :=
  ⟨by simp [empty], by simp [empty]⟩

end Directory

end WotexMatter.Theory
