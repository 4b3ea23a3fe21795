/-
# WotexMatter.Storage.DurableStorage -- the durable store and its commit

`DurableStorage` of `native/src/storage.cpp` over a directory that a crash may roll back
(`Theory.Directory`).  `Commit` is a straight line of system calls, each of which ends it
when it fails; `commitCalls` is that line and `perform` runs it under a script that lets
any call succeed, fail, or be the last thing the process ever did.  A failing or
interrupted `WriteAll` leaves a prefix of its bytes.

`World` is the directory over time with at most one process that holds it open, the
lock: processes open, set, get, delete, die and exit in any order, and the machine
crashes whenever it likes.
-/
import WotexMatter.Theory.Directory
import WotexMatter.Storage.StateDocument

set_option autoImplicit false

namespace WotexMatter.Storage

open WotexMatter.Theory (Directory)

/-- `kStateFile`, `kLockFile`, `kTemporaryFile` and `kIntentFile`. -/
inductive StoreFile where
  | state
  | lock
  | temporary
  | intent
  deriving DecidableEq

abbrev StoreDirectory := Directory StoreFile UInt8

/-- `0600`. -/
def kMode : Nat := 0x180

/-- The mode of a file created with `0600` under a umask. -/
def createdMode (umask : Nat) : Nat := kMode &&& (0x1FF ^^^ (umask &&& 0x1FF))

/-! ## Commit -/

/-- The system calls of `Commit`; those without a name are on the open descriptor. -/
inductive SystemCall where
  | absent (name : StoreFile)
  | create (name : StoreFile)
  | chmod
  | write (bytes : Bytes)
  | sync
  | close
  | syncDirectory
  | rename (source target : StoreFile)
  | unlink (name : StoreFile)

/-- What becomes of one call: a failure or the end of the process may come after some
bytes of a write. -/
inductive Verdict where
  | succeeds
  | fails (written : Nat)
  | dies (written : Nat)
  deriving DecidableEq

/-- What `Commit` works on: the directory, and the file it has open. -/
structure Session where
  directory : StoreDirectory
  descriptor : Option Nat

/-- A call that the script lets through; `none` if it fails by itself. -/
def SystemCall.run (umask : Nat) (session : Session) : SystemCall → Option Session
  | .absent name =>
      match session.directory.entries name with
      | none => some session
      | some _ => none
  | .create name =>
      match session.directory.entries name with
      | none =>
          some { directory := session.directory.create name (createdMode umask),
                 descriptor := some session.directory.next }
      | some _ => none
  | .chmod =>
      session.descriptor.map fun file =>
        { session with directory := session.directory.chmod file kMode }
  | .write bytes =>
      session.descriptor.map fun file =>
        { session with directory := session.directory.write file bytes }
  | .sync =>
      session.descriptor.map fun file =>
        { session with directory := session.directory.syncFile file }
  | .close => some { session with descriptor := none }
  | .syncDirectory => some { session with directory := session.directory.sync }
  | .rename source target =>
      (session.directory.entries source).map fun file =>
        { session with directory := session.directory.change (.rename source target file) }
  | .unlink name =>
      (session.directory.entries name).map fun _ =>
        { session with directory := session.directory.change (.unlink name) }

/-- What a call leaves that fails or is interrupted: nothing, except for a write. -/
def SystemCall.cutOff (session : Session) (written : Nat) : SystemCall → StoreDirectory
  | .write bytes =>
      match session.descriptor with
      | some file => session.directory.write file (bytes.take written)
      | none => session.directory
  | _ => session.directory

inductive Outcome where
  | completed
  | failed
  | died
  deriving DecidableEq

/-- Calls in a row, each ending the row when it does not succeed. -/
def perform (umask : Nat) : List SystemCall → List Verdict → Session → Outcome × StoreDirectory
  | [], _, session => (.completed, session.directory)
  | call :: rest, verdicts, session =>
      match verdicts.headD .succeeds with
      | .dies written => (.died, call.cutOff session written)
      | .fails written => (.failed, call.cutOff session written)
      | .succeeds =>
          match call.run umask session with
          | none => (.failed, session.directory)
          | some session => perform umask rest verdicts.tail session

/-- The calls of `Commit`, `CleanCommitState` first. -/
def commitCalls (contents : Bytes) : List SystemCall :=
  [.absent .temporary, .absent .intent,
    .create .temporary, .chmod, .write contents, .sync, .close,
    .create .intent, .chmod, .write (ascii "pending\n"), .sync, .close,
    .syncDirectory,
    .rename .temporary .state, .syncDirectory,
    .unlink .intent, .syncDirectory]

structure DurableStorage where
  identity : ControllerIdentity
  values : Values
  poisoned : Bool

/-- The `CHIP_ERROR`s of the store. -/
inductive ChipError where
  | noError
  | invalidArgument
  | openFailed
  | persistedStorageFailed
  | persistedStorageValueNotFound
  | bufferTooSmall
  deriving DecidableEq

namespace DurableStorage

def poison (storage : DurableStorage) : DurableStorage := { storage with poisoned := true }

/-- `Commit`; the store it returns is the one the call leaves, `values_` still the old. -/
def commit (library : JsonLibrary) (umask : Nat) (verdicts : List Verdict)
    (storage : DurableStorage) (values : Values) (directory : StoreDirectory) :
    Outcome × DurableStorage × StoreDirectory :=
  if storage.poisoned then (.failed, storage.poison, directory)
  else
    match serializeState library storage.identity values with
    | none => (.failed, storage.poison, directory)
    | some contents =>
        match perform umask (commitCalls contents) verdicts ⟨directory, none⟩ with
        | (.failed, directory) => (.failed, storage.poison, directory)
        | (outcome, directory) => (outcome, storage, directory)

/-- What the caller of a setter sees: an error code, or nothing when the process died. -/
abbrev Reply := Option ChipError

/-- `Commit(next)` and, if it succeeded, `values_ = std::move(next)`. -/
def install (library : JsonLibrary) (umask : Nat) (verdicts : List Verdict)
    (storage : DurableStorage) (next : Values) (directory : StoreDirectory) :
    Reply × DurableStorage × StoreDirectory :=
  match storage.commit library umask verdicts next directory with
  | (.completed, storage, directory) => (some .noError, { storage with values := next }, directory)
  | (.failed, storage, directory) => (some .persistedStorageFailed, storage, directory)
  | (.died, storage, directory) => (none, storage, directory)

/-- `SyncSetKeyValue` and `SyncDeleteKeyValue`.  A pointer is the memory behind it, or
`none`. -/
inductive Mutation where
  | set (key value : Option Bytes) (size : UInt16)
  | delete (key : Option Bytes)

/-- The checks of a setter: the map it goes on to commit, or the error it returns. -/
def Mutation.next (values : Values) : Mutation → Except ChipError Values
  | .set key value size =>
      match validKey key with
      | none => .error .invalidArgument
      | some normalized =>
          if value = none ∧ 0 < size then .error .invalidArgument
          else if values[normalized]? = none ∧ kMaximumKeys ≤ values.size then
            .error .persistedStorageFailed
          else .ok (values.insert normalized ((value.getD []).take size.toNat))
  | .delete key =>
      match validKey key with
      | none => .error .invalidArgument
      | some normalized =>
          match values[normalized]? with
          | none => .error .persistedStorageValueNotFound
          | some _ => .ok (values.erase normalized)

/-- `SyncSetKeyValue` or `SyncDeleteKeyValue`. -/
def mutate (library : JsonLibrary) (umask : Nat) (verdicts : List Verdict) (mutation : Mutation)
    (storage : DurableStorage) (directory : StoreDirectory) :
    Reply × DurableStorage × StoreDirectory :=
  if storage.poisoned then (some .persistedStorageFailed, storage, directory)
  else
    match mutation.next storage.values with
    | .error error => (some error, storage, directory)
    | .ok next => storage.install library umask verdicts next directory

/-- `SyncGetKeyValue` with a buffer of `size` bytes (or a null one): the error and the
bytes copied, whose number is the new `size`; `none` where `size` keeps its value. -/
def syncGetKeyValue (storage : DurableStorage) (key : Option Bytes) (buffer : Bool)
    (size : UInt16) : ChipError × Option Bytes :=
  if storage.poisoned then (.persistedStorageFailed, none)
  else
    match validKey key with
    | none => (.invalidArgument, none)
    | some normalized =>
        if buffer = false ∧ 0 < size then (.invalidArgument, none)
        else
          match storage.values[normalized]? with
          | none => (.persistedStorageValueNotFound, none)
          | some value =>
              let copied := min size.toNat value.length
              (if copied < value.length then .bufferTooSmall else .noError,
                some (value.take copied))

end DurableStorage

/-! ## Open -/

inductive StorageMode where
  | createNew
  | openExisting
  deriving DecidableEq

inductive AuthorityMode where
  | generateRoot
  | stored
  deriving DecidableEq

/-- The system calls of `Open`. -/
inductive OpenCall where
  | lstat
  | mkdir
  | validDirectory
  | openDirectory
  | openLock
  | lockStatus
  | flock
  | status (name : StoreFile)
  | openState
  | stateStatus
  | stateSize
  | read
  | close
  deriving DecidableEq

/-- One attempt to open: the arguments of `Open`, and which of its calls fail. -/
structure Attempt where
  path : Bytes
  storageMode : StorageMode
  authorityMode : AuthorityMode
  identity : ControllerIdentity
  fails : OpenCall → Bool
  verdicts : List Verdict

inductive OpenResult where
  | opened (storage : DurableStorage)
  | refused (error : ChipError)
  | died

/-- The arguments `Open` refuses before it looks at the directory. -/
def Attempt.invalid (attempt : Attempt) : Prop :=
  attempt.path.head? ≠ some 47 ∨ 0 ∈ attempt.path ∨ validIdentity attempt.identity = false ∨
    attempt.storageMode = .createNew ∧ attempt.authorityMode ≠ .generateRoot ∨
    attempt.storageMode = .openExisting ∧ attempt.authorityMode ≠ .stored

instance (attempt : Attempt) : Decidable attempt.invalid :=
  inferInstanceAs (Decidable (_ ∨ _))

/-- `OpenLock`: whether the lock is held, and the directory, with the lock file made. -/
def openLock (umask : Nat) (attempt : Attempt) (locked : Bool) (directory : StoreDirectory) :
    Bool × StoreDirectory :=
  let held := fun (directory : StoreDirectory) (file : Nat) =>
    !attempt.fails .lockStatus && (directory.files file).mode == kMode &&
      !attempt.fails .flock && !locked
  if attempt.fails .openLock then (false, directory)
  else
    match attempt.storageMode, directory.entries .lock with
    | .createNew, some _ => (false, directory)
    | .createNew, none =>
        let made := directory.create .lock (createdMode umask)
        (held made directory.next, made)
    | .openExisting, none => (false, directory)
    | .openExisting, some file => (held directory file, directory)

/-- `CleanCommitState`. -/
def cleanCommitState (attempt : Attempt) (directory : StoreDirectory) : Bool :=
  [StoreFile.temporary, .intent].all fun name =>
    !attempt.fails (.status name) && (directory.entries name).isNone

/-- `ReadState`. -/
def readState (attempt : Attempt) (directory : StoreDirectory) : Option Bytes :=
  if attempt.fails .openState then none
  else
    match directory.entries .state with
    | none => none
    | some number =>
        let file := directory.files number
        if attempt.fails .stateStatus ∨ file.mode ≠ kMode then none
        else if attempt.fails .stateSize ∨ file.content.length = 0 ∨
            kMaximumFileBytes < file.content.length then none
        else if attempt.fails .read ∨ attempt.fails .close then none
        else some file.content

/-- `DurableStorage::Open` from the open directory on. -/
def openFrom (library : JsonLibrary) (umask : Nat) (attempt : Attempt) (locked : Bool)
    (directory : StoreDirectory) : OpenResult × StoreDirectory :=
  match openLock umask attempt locked directory with
  | (false, directory) => (.refused .openFailed, directory)
  | (true, directory) =>
      if cleanCommitState attempt directory = false then
        (.refused .persistedStorageFailed, directory)
      else
        match attempt.storageMode with
        | .openExisting =>
            match readState attempt directory with
            | none => (.refused .persistedStorageFailed, directory)
            | some contents =>
                match parseState library contents attempt.identity with
                | none => (.refused .persistedStorageFailed, directory)
                | some values => (.opened ⟨attempt.identity, values, false⟩, directory)
        | .createNew =>
            let opened : DurableStorage := ⟨attempt.identity, ∅, false⟩
            match opened.commit library umask attempt.verdicts opened.values directory with
            | (.completed, storage, directory) => (.opened storage, directory)
            | (.failed, _, directory) => (.refused .persistedStorageFailed, directory)
            | (.died, _, directory) => (.died, directory)

/-- `DurableStorage::Open`, on the directory at its path if there is one.  `locked` is
another process that holds the lock. -/
def openStore (library : JsonLibrary) (umask : Nat) (attempt : Attempt) (locked : Bool)
    (directory : Option StoreDirectory) : OpenResult × Option StoreDirectory :=
  if attempt.invalid then (.refused .invalidArgument, directory)
  else
    match attempt.storageMode, directory with
    | .createNew, some directory => (.refused .openFailed, some directory)
    | .openExisting, none => (.refused .openFailed, none)
    | .createNew, none =>
        if attempt.fails .lstat ∨ attempt.fails .mkdir then (.refused .openFailed, none)
        else if attempt.fails .validDirectory ∨ attempt.fails .openDirectory then
          (.refused .openFailed, some Directory.empty)
        else
          let result := openFrom library umask attempt locked Directory.empty
          (result.1, some result.2)
    | .openExisting, some directory =>
        if attempt.fails .validDirectory ∨ attempt.fails .openDirectory then
          (.refused .openFailed, some directory)
        else
          let result := openFrom library umask attempt locked directory
          (result.1, some result.2)

/-! ## Processes and crashes -/

/-- The directory, if it was made, and the store of the process that has it open. -/
structure World where
  directory : Option StoreDirectory
  store : Option DurableStorage

def World.initial : World := { directory := none, store := none }

inductive StoreEvent where
  | openStore (attempt : Attempt)
  | mutate (mutation : DurableStorage.Mutation) (verdicts : List Verdict)
  | get (key : Option Bytes) (buffer : Bool) (size : UInt16)
  | exit
  | crash (mask : List Bool) (garbage : Nat → Bytes)

namespace World

/-- One event.  A process that dies leaves the directory as it is; only a crash of the
machine loses what was not synced. -/
def step (library : JsonLibrary) (umask : Nat) (world : World) : StoreEvent → World
  | .openStore attempt =>
      match Storage.openStore library umask attempt world.store.isSome world.directory with
      | (.opened storage, directory) => { directory, store := some storage }
      | (_, directory) => { world with directory }
  | .mutate mutation verdicts =>
      match world.store, world.directory with
      | some storage, some directory =>
          match storage.mutate library umask verdicts mutation directory with
          | (none, _, directory) => { directory := some directory, store := none }
          | (some _, storage, directory) => { directory := some directory, store := some storage }
      | _, _ => world
  | .get _ _ _ => world
  | .exit => { world with store := none }
  | .crash mask garbage =>
      { directory := world.directory.map fun directory => directory.crash mask garbage,
        store := none }

def run (library : JsonLibrary) (umask : Nat) (events : List StoreEvent) : World :=
  events.foldl (step library umask) initial

end World

end WotexMatter.Storage
