/-
# WotexMatter.Storage.Restart -- the store is a finite map across restarts

What the SDK sees of `DurableStorage` while the system calls succeed: getters, setters,
deleters, and the store closed and opened again.  `MapStore` is what it should see, a
finite map; the one thing it adds is `shut`.  A commit whose document would be larger
than the file bound fails like any other commit and poisons the store, so until it is
opened again every call fails, though the map on the disk is intact.

`calls_refine` shows that every sequence of calls is answered as the map answers it.
-/
import Mathlib.Algebra.Order.BigOperators.Group.List
import Mathlib.Data.List.Perm.Subperm
import WotexMatter.Storage.CrashConsistency

set_option autoImplicit false

namespace WotexMatter.Storage

open WotexMatter.Theory (Directory Change replay_of_untouched)

/-- A call of the SDK, or a restart. -/
inductive StoreCall where
  | mutate (mutation : DurableStorage.Mutation)
  | get (key : Option Bytes) (buffer : Bool) (size : UInt16)
  | reopen

/-- An error code, and the bytes a getter copied. -/
abbrev Answer := ChipError × Option Bytes

/-! ## The finite map -/

/-- What a getter should answer: the value, cut to the buffer exactly when it does not fit. -/
def lookupAnswer (map : Values) (key : Option Bytes) (buffer : Bool) (size : UInt16) : Answer :=
  match validKey key with
  | none => (.invalidArgument, none)
  | some normalized =>
      if buffer = false ∧ 0 < size then (.invalidArgument, none)
      else
        match map[normalized]? with
        | none => (.persistedStorageValueNotFound, none)
        | some value =>
            if value.length ≤ size.toNat then (.noError, some value)
            else (.bufferTooSmall, some (value.take size.toNat))

/-- A finite map that a commit too large for the file shuts. -/
structure MapStore where
  map : Values
  shut : Bool

namespace MapStore

/-- One call on the map; `fits` tells the maps whose document is within the bound. -/
def call (fits : Values → Bool) (store : MapStore) : StoreCall → Answer × MapStore
  | .get key buffer size =>
      if store.shut then ((.persistedStorageFailed, none), store)
      else (lookupAnswer store.map key buffer size, store)
  | .mutate mutation =>
      if store.shut then ((.persistedStorageFailed, none), store)
      else
        match mutation.next store.map with
        | .error error => ((error, none), store)
        | .ok next =>
            if fits next then ((.noError, none), { store with map := next })
            else ((.persistedStorageFailed, none), { store with shut := true })
  | .reopen => ((.noError, none), { store with shut := false })

/-- Calls in a row, with their answers. -/
def calls (fits : Values → Bool) : MapStore → List StoreCall → List Answer × MapStore
  | store, [] => ([], store)
  | store, call :: rest =>
      let (answer, store) := store.call fits call
      let (answers, store) := calls fits store rest
      (answer :: answers, store)

end MapStore

/-! ## The store -/

namespace World

/-- One call on the store of the world, all system calls succeeding.  A restart is the
end of the process and an `Open` by the next one. -/
def call (library : JsonLibrary) (umask : Nat) (reopening : Attempt) (world : World) :
    StoreCall → Answer × World
  | .get key buffer size =>
      match world.store with
      | some storage => (storage.syncGetKeyValue key buffer size, world)
      | none => ((.openFailed, none), world)
  | .mutate mutation =>
      match world.store, world.directory with
      | some storage, some directory =>
          ((((storage.mutate library umask [] mutation directory).1).getD .openFailed, none),
            world.step library umask (.mutate mutation []))
      | _, _ => ((.openFailed, none), world)
  | .reopen =>
      let exited := world.step library umask .exit
      let opened := exited.step library umask (.openStore reopening)
      match openStore library umask reopening false exited.directory with
      | (.opened _, _) => ((.noError, none), opened)
      | (.refused error, _) => ((error, none), opened)
      | (.died, _) => ((.openFailed, none), opened)

/-- Calls in a row, with their answers. -/
def calls (library : JsonLibrary) (umask : Nat) (reopening : Attempt) :
    World → List StoreCall → List Answer × World
  | world, [] => ([], world)
  | world, call :: rest =>
      let (answer, world) := world.call library umask reopening call
      let (answers, world) := calls library umask reopening world rest
      (answer :: answers, world)

end World

section

variable {library : JsonLibrary}

theorem syncGetKeyValue_lookup {storage : DurableStorage} (healthy : storage.poisoned = false)
    (key : Option Bytes) (buffer : Bool) (size : UInt16) :
    storage.syncGetKeyValue key buffer size = lookupAnswer storage.values key buffer size := by
  simp only [DurableStorage.syncGetKeyValue, healthy, Bool.false_eq_true, if_false, lookupAnswer]
  cases validKey key with
  | none => rfl
  | some normalized =>
      dsimp only
      split
      · rfl
      · cases storage.values[normalized]? with
        | none => rfl
        | some value =>
            dsimp only
            split
            · rename_i short
              rw [if_neg (by omega), Nat.min_eq_left (by omega)]
            · rename_i whole
              rw [if_pos (by omega), Nat.min_eq_right (by omega), List.take_length]

/-- With no call failing and no marker in the way, a commit completes. -/
theorem perform_completes (umask : Nat) {directory : StoreDirectory}
    (temporary : directory.entries .temporary = none) (intent : directory.entries .intent = none)
    (contents : Bytes) :
    (perform umask (commitCalls contents) [] ⟨directory, none⟩).1 = .completed := by
  simp [perform, commitCalls, SystemCall.run, temporary, intent, Change.apply]

theorem Serves.temporary {storage : DurableStorage} {directory : StoreDirectory}
    (serves : Serves library storage directory) : directory.entries .temporary = none := by
  have quiescent := serves.holds.quiescent
  have untouched : ∀ change ∈ directory.changes, ¬ change.Touches .temporary := by
    intro change present
    rw [quiescent.changes change present]
    exact fun touched => by cases touched
  rw [entries_later (.inl rfl) untouched, quiescent.temporary]

/-- Whether the document of a map is within the file bound. -/
def fitsFile (library : JsonLibrary) (identity : ControllerIdentity) (values : Values) : Bool :=
  (serializeState library identity values).isSome

/-- A setter that passes its checks, with no call failing. -/
theorem mutate_unhindered (umask : Nat) {storage : DurableStorage} {next : Values}
    {directory : StoreDirectory}
    {mutation : DurableStorage.Mutation} (inverts : library.Inverts)
    (valid : validIdentity storage.identity = true) (serves : Serves library storage directory)
    (healthy : storage.poisoned = false) (leads : mutation.next storage.values = .ok next) :
    if fitsFile library storage.identity next then
      ∃ after, storage.mutate library umask [] mutation directory =
          (some .noError, { storage with values := next }, after) ∧
        Serves library { storage with values := next } after
    else
      storage.mutate library umask [] mutation directory =
        (some .persistedStorageFailed, storage.poison, directory) := by
  obtain ⟨reply, left, after, result, _, ends⟩ :=
    mutate_ends inverts valid serves.holds healthy leads umask []
  have unfolded : storage.mutate library umask [] mutation directory =
      storage.install library umask [] next directory := by
    simp [DurableStorage.mutate, healthy, leads]
  cases serialized : serializeState library storage.identity next with
  | none =>
      rw [fitsFile, serialized, if_neg (by simp), unfolded]
      simp [DurableStorage.install, DurableStorage.commit, healthy, serialized]
  | some contents =>
      rw [fitsFile, serialized, if_pos (by simp)]
      have completes := perform_completes umask serves.temporary serves.intent contents
      have success : (storage.install library umask [] next directory).1 = some .noError := by
        simp only [DurableStorage.install, DurableStorage.commit, healthy, Bool.false_eq_true,
          if_false, serialized]
        generalize perform umask (commitCalls contents) [] ⟨directory, none⟩ = performed
          at completes ⊢
        obtain ⟨outcome, directory⟩ := performed
        subst completes
        rfl
      rw [← unfolded, result] at success
      rcases ends with none | ⟨_, done, rfl⟩ | ⟨failed, _⟩
      · rw [none] at success
        cases success
      · rw [show reply = _ from success] at result
        exact ⟨after, result, done.holds, done.unmarked⟩
      · rw [failed] at success
        cases success

/-! ## Refinement -/

/-- The store of the world is open on the map, shut or not, and its map is in the
directory. -/
structure Linked (library : JsonLibrary) (identity : ControllerIdentity) (world : World)
    (store : MapStore) : Prop where
  valid : validIdentity identity = true
  opened : world.store = some ⟨identity, store.map, store.shut⟩
  there : ∃ directory, world.directory = some directory ∧
    Serves library ⟨identity, store.map, false⟩ directory

theorem linked_mutate (umask : Nat) {identity : ControllerIdentity} {world : World} {store : MapStore}
    {reopening : Attempt} (inverts : library.Inverts)
    (linked : Linked library identity world store) (mutation : DurableStorage.Mutation) :
    (world.call library umask reopening (.mutate mutation)).1 =
        (store.call (fitsFile library identity) (.mutate mutation)).1 ∧
      Linked library identity (world.call library umask reopening (.mutate mutation)).2
        (store.call (fitsFile library identity) (.mutate mutation)).2 := by
  obtain ⟨map, shut⟩ := store
  obtain ⟨valid, opened, directory, there, serves⟩ := linked
  simp only [World.call, World.step, opened, there, MapStore.call]
  cases shut with
  | true =>
      have refused := (poisoned_refuses library
        (show (⟨identity, map, true⟩ : DurableStorage).poisoned = true from rfl) umask).1
        mutation [] directory
      simp only [refused, if_true]
      exact ⟨rfl, valid, rfl, directory, rfl, serves⟩
  | false =>
      simp only [Bool.false_eq_true, if_false]
      cases leads : mutation.next map with
      | error error =>
          have refused : (⟨identity, map, false⟩ : DurableStorage).mutate library umask [] mutation
              directory = (some error, ⟨identity, map, false⟩, directory) := by
            simp [DurableStorage.mutate, leads]
          simp only [refused]
          exact ⟨rfl, valid, rfl, directory, rfl, serves⟩
      | ok next =>
          have result := mutate_unhindered umask inverts valid serves rfl leads
          dsimp only at result ⊢
          split at result
          · rename_i fits
            obtain ⟨after, done, now⟩ := result
            simp only [done, fits, if_true]
            exact ⟨rfl, valid, rfl, after, rfl, now⟩
          · rename_i large
            simp only [result, large, Bool.false_eq_true, if_false]
            exact ⟨rfl, valid, rfl, directory, rfl, serves⟩

theorem linked_reopen (umask : Nat) {identity : ControllerIdentity} {world : World} {store : MapStore}
    {reopening : Attempt} (unhindered : reopening.Unhindered)
    (same : reopening.identity = identity) (linked : Linked library identity world store) :
    (world.call library umask reopening .reopen).1 =
        (store.call (fitsFile library identity) .reopen).1 ∧
      Linked library identity (world.call library umask reopening .reopen).2
        (store.call (fitsFile library identity) .reopen).2 := by
  subst same
  obtain ⟨map, shut⟩ := store
  obtain ⟨valid, opened, directory, there, serves⟩ := linked
  have result := openStore_unhindered umask unhindered serves.holds.reads (.inl rfl)
    serves.temporary serves.intent
  rcases openStore_existing library umask reopening false directory with ⟨error, refused⟩ |
    ⟨values, found, _⟩
  · rw [refused] at result
    cases result
  · rw [found] at result
    cases result
    simp only [World.call, World.step, there, MapStore.call, Option.isSome_none, found]
    exact ⟨trivial, valid, rfl, directory, rfl, serves⟩

theorem linked_call (umask : Nat) {identity : ControllerIdentity} {world : World} {store : MapStore}
    {reopening : Attempt} (inverts : library.Inverts) (unhindered : reopening.Unhindered)
    (same : reopening.identity = identity) (linked : Linked library identity world store)
    (call : StoreCall) :
    (world.call library umask reopening call).1 =
        (store.call (fitsFile library identity) call).1 ∧
      Linked library identity (world.call library umask reopening call).2
        (store.call (fitsFile library identity) call).2 := by
  cases call with
  | mutate mutation => exact linked_mutate umask inverts linked mutation
  | reopen => exact linked_reopen umask unhindered same linked
  | get key buffer size =>
      obtain ⟨map, shut⟩ := store
      obtain ⟨valid, opened, directory, there, serves⟩ := linked
      simp only [World.call, opened, MapStore.call]
      cases shut with
      | true =>
          have refused := (poisoned_refuses library
            (show (⟨identity, map, true⟩ : DurableStorage).poisoned = true from rfl) umask).2
            key buffer size
          simp only [refused, if_true]
          exact ⟨trivial, valid, opened, directory, there, serves⟩
      | false =>
          rw [syncGetKeyValue_lookup rfl]
          simp only [Bool.false_eq_true, if_false]
          exact ⟨trivial, valid, opened, directory, there, serves⟩

theorem linked_calls (umask : Nat) {identity : ControllerIdentity} {world : World} {store : MapStore}
    {reopening : Attempt} (inverts : library.Inverts) (unhindered : reopening.Unhindered)
    (same : reopening.identity = identity) (linked : Linked library identity world store)
    (calls : List StoreCall) :
    (world.calls library umask reopening calls).1 =
        (store.calls (fitsFile library identity) calls).1 ∧
      Linked library identity (world.calls library umask reopening calls).2
        (store.calls (fitsFile library identity) calls).2 := by
  induction calls generalizing world store with
  | nil => exact ⟨rfl, linked⟩
  | cons call rest ih =>
      obtain ⟨answer, now⟩ := linked_call umask inverts unhindered same linked call
      obtain ⟨answers, final⟩ := ih now
      simp only [World.calls, MapStore.calls]
      exact ⟨by rw [answer, answers], final⟩

/-! ## What the map remembers -/

/-- The map by what was answered: a successful set puts its bytes under the key, a
successful delete takes the key away, and no other call changes anything. -/
def recalled (start : Values) (trace : List (StoreCall × Answer)) : Values :=
  trace.foldl (fun map step =>
    match step with
    | (.mutate (.set key value size), (.noError, _)) =>
        match validKey key with
        | some normalized => map.insert normalized ((value.getD []).take size.toNat)
        | none => map
    | (.mutate (.delete key), (.noError, _)) =>
        match validKey key with
        | some normalized => map.erase normalized
        | none => map
    | _ => map) start

/-- An error of the checks is never `CHIP_NO_ERROR`. -/
theorem next_error {values : Values} {mutation : DurableStorage.Mutation} {error : ChipError}
    (refused : mutation.next values = .error error) : error ≠ .noError := by
  rintro rfl
  cases mutation with
  | set key value size =>
      simp only [DurableStorage.Mutation.next] at refused
      split at refused
      · cases refused
      · split at refused
        · cases refused
        · split at refused <;> cases refused
  | delete key =>
      simp only [DurableStorage.Mutation.next] at refused
      split at refused
      · cases refused
      · split at refused <;> cases refused

/-- The map a setter leads to is the one its success is remembered by. -/
theorem recall_next {values next : Values} {mutation : DurableStorage.Mutation}
    (leads : mutation.next values = .ok next) (copied : Option Bytes) :
    recalled values [(.mutate mutation, (.noError, copied))] = next := by
  cases mutation with
  | set key value size =>
      simp only [DurableStorage.Mutation.next] at leads
      split at leads
      · cases leads
      · rename_i normalized valid
        split at leads
        · cases leads
        · split at leads
          · cases leads
          · cases leads
            simp [recalled, valid]
  | delete key =>
      simp only [DurableStorage.Mutation.next] at leads
      split at leads
      · cases leads
      · rename_i normalized valid
        split at leads
        · cases leads
        · cases leads
          simp [recalled, valid]

theorem call_recall (fits : Values → Bool) (store : MapStore) (call : StoreCall) :
    (store.call fits call).2.map = recalled store.map [(call, (store.call fits call).1)] := by
  cases call with
  | get key buffer size =>
      simp only [MapStore.call]
      split <;> rfl
  | reopen => rfl
  | mutate mutation =>
      simp only [MapStore.call]
      split
      · cases mutation <;> rfl
      · cases leads : mutation.next store.map with
        | error error =>
            have failed := next_error leads
            cases mutation <;> cases error <;> simp_all [recalled]
        | ok next =>
            dsimp only
            split
            · exact (recall_next leads none).symm
            · cases mutation <;> rfl

theorem calls_recall (fits : Values → Bool) (store : MapStore) (calls : List StoreCall) :
    (store.calls fits calls).2.map =
      recalled store.map (calls.zip (store.calls fits calls).1) := by
  induction calls generalizing store with
  | nil => rfl
  | cons call rest ih =>
      simp only [MapStore.calls, List.zip_cons_cons]
      rw [ih, call_recall fits store call]
      rfl

/-- **The store is a finite map across restarts.**  Take any history and a healthy store at
its end, and go on with any calls and restarts, all system calls succeeding.  Every call
is answered as the map answers it; the map is the one its successful sets and deletes
leave; every restart succeeds, and at every point the store holds exactly the map.  And
the reader returns every map the writer writes. -/
theorem calls_refine (library : JsonLibrary) (inverts : library.Inverts) (umask : Nat)
    (events : List StoreEvent) (storage : DurableStorage)
    (opened : (World.run library umask events).store = some storage)
    (healthy : storage.poisoned = false) (reopening : Attempt)
    (unhindered : reopening.Unhindered) (same : reopening.identity = storage.identity)
    (calls : List StoreCall) :
    let world := (World.run library umask events).calls library umask reopening calls
    let store := (⟨storage.values, false⟩ : MapStore).calls
      (fitsFile library storage.identity) calls
    world.1 = store.1 ∧
      store.2.map = recalled storage.values (calls.zip world.1) ∧
      world.2.store = some ⟨storage.identity, store.2.map, store.2.shut⟩ ∧
      ∀ identity values contents, validIdentity identity = true → Storable values →
        serializeState library identity values = some contents →
        parseState library contents identity = some values := by
  obtain ⟨valid, directory, there, serves⟩ := (World.run_sound inverts umask events).store _ opened
  obtain ⟨identity, values, poisoned⟩ := storage
  subst healthy
  have linked : Linked library identity (World.run library umask events) ⟨values, false⟩ :=
    ⟨valid, opened, directory, there, serves rfl⟩
  obtain ⟨answers, final⟩ := linked_calls umask inverts unhindered same linked calls
  refine ⟨answers, ?_, final.opened, ?_⟩
  · rw [answers]
    exact calls_recall _ _ calls
  · intro identity values contents valid storable serialized
    exact parseState_serializeState inverts valid storable serialized

/-- The store created by `createAttempt`, opened again. -/
def reopenAttempt : Attempt where
  path := ascii "/s"
  storageMode := .openExisting
  authorityMode := .stored
  identity := ⟨1, 4660, 65521⟩
  fails := fun _ => false
  verdicts := []

theorem reopenAttempt_unhindered : reopenAttempt.Unhindered :=
  ⟨rfl, by decide, fun _ => rfl⟩

/-- A value set, read, and read again after a restart into a buffer that is too small. -/
theorem calls_refine_restart :
    ((World.run compact 0 [.openStore createAttempt]).calls compact 0 reopenAttempt
        [.mutate (.set (some (ascii "a")) (some [7, 8]) 2), .get (some (ascii "a")) true 2, .reopen,
          .get (some (ascii "a")) true 1]).1 =
      [(.noError, none), (.noError, some [7, 8]), (.noError, none), (.bufferTooSmall, some [7])] := by
  rw [(calls_refine compact compact_inverts 0 _ _ created_store rfl reopenAttempt
    reopenAttempt_unhindered rfl _).1]
  decide +kernel

/-! ## A document too large for the file -/

theorem base64Encode_length (bytes : Bytes) :
    4 * bytes.length ≤ 3 * (base64Encode bytes).length := by
  fun_induction base64Encode bytes with
  | case1 => simp
  | case2 first value => simp
  | case3 first second value => simp
  | case4 first second third rest value more =>
      simp only [List.length_cons]
      omega

theorem dumpString_length (text : Bytes) : text.length ≤ (dumpString text).length := by
  have escaped : ∀ byte, 1 ≤ (escapeByte byte).length := by
    intro byte
    simp only [escapeByte]
    repeat' split
    all_goals simp [ascii]
  have longer : text.length ≤ (text.flatMap escapeByte).length := by
    induction text with
    | nil => simp
    | cons byte rest ih =>
        have := escaped byte
        simp only [List.flatMap_cons, List.length_append, List.length_cons]
        omega
  simp only [dumpString, List.length_cons, List.length_append]
  omega

/-- The text of an object is at least as long as the texts of its values. -/
theorem dumpMembers_sum (members : List (Bytes × Json)) :
    (members.map fun member => member.2.dumpText.length).sum ≤ (dumpMembers members).length := by
  induction members with
  | nil => simp
  | cons member rest ih =>
      obtain ⟨key, value⟩ := member
      simp only [List.map_cons, List.sum_cons, dumpMembers, List.length_cons, List.length_append]
      omega

theorem dumpText_object (members : List (Bytes × Json)) :
    (members.map fun member => member.2.dumpText.length).sum ≤
      (Json.object members).dumpText.length := by
  cases members with
  | nil => simp
  | cons member rest =>
      obtain ⟨key, value⟩ := member
      have tail := dumpMembers_sum rest
      simp only [List.map_cons, List.sum_cons, Json.dumpText, List.length_cons, List.length_append]
      omega

/-- The document is at least as long as the values it holds. -/
theorem stateDocument_length (identity : ControllerIdentity) (values : Values) :
    (values.toList.map fun entry => (base64Encode entry.2).length).sum ≤
      (stateDocument identity values).dumpText.length := by
  have root := dumpText_object
    [(ascii "schema", .string kSchema), (ascii "version", .unsigned 1),
      (ascii "fabric_id", .unsigned identity.fabricId),
      (ascii "controller_node_id", .unsigned identity.controllerNodeId),
      (ascii "vendor_id", .unsigned identity.vendorId.toUInt64),
      (ascii "authority", .string kAuthority), (ascii "values", .object (encodedMembers values))]
  have inner := dumpText_object (encodedMembers values)
  have each : (values.toList.map fun entry => (base64Encode entry.2).length).sum ≤
      ((encodedMembers values).map fun member => member.2.dumpText.length).sum := by
    rw [encodedMembers, List.map_map]
    apply List.sum_le_sum
    intro entry _
    exact dumpString_length _
  simp only [List.map_cons, List.map_nil, List.sum_cons, List.sum_nil] at root
  show _ ≤ (Json.object _).dumpText.length
  refine Nat.le_trans ?_ root
  omega

/-- A key of `n + 1` letters. -/
def bulkKey (n : Nat) : Bytes := List.replicate (n + 1) 98

/-- The largest value. -/
def bulkValue : Bytes := List.replicate 65535 0

theorem bulkValue_length : bulkValue.length = 65535 := by
  rw [bulkValue, List.length_replicate]

/-- Setters of the largest value under `n` keys. -/
def bulk (n : Nat) : List StoreCall :=
  (List.range n).map fun i => .mutate (.set (some (bulkKey i)) (some bulkValue) 65535)

theorem validKey_bulkKey {n : Nat} (short : n < 255) : validKey (some (bulkKey n)) = some (bulkKey n) := by
  have letters : ∀ m, validUtf8 (List.replicate m 98) = true := by
    intro m
    induction m with
    | zero => rfl
    | succ m ih =>
        rw [List.replicate_succ, validUtf8.eq_def]
        exact ih
  have whole : cString (kMaximumKeyBytes + 1) (bulkKey n) = bulkKey n := by
    simp only [cString, bulkKey, kMaximumKeyBytes]
    rw [List.take_of_length_le (by simp; omega), List.takeWhile_replicate]
    simp
  simp only [validKey, whole]
  rw [if_neg, if_pos (show validUtf8 (bulkKey n) = true from letters _)]
  simp only [bulkKey, kMaximumKeyBytes, List.length_replicate]
  omega

theorem bulkKey_injective {m n : Nat} (same : bulkKey m = bulkKey n) : m = n := by
  have lengths := congrArg List.length same
  simp only [bulkKey, List.length_replicate] at lengths
  omega

theorem calls_cons (fits : Values → Bool) (store : MapStore) (call : StoreCall)
    (rest : List StoreCall) :
    store.calls fits (call :: rest) =
      ((store.call fits call).1 :: ((store.call fits call).2.calls fits rest).1,
        ((store.call fits call).2.calls fits rest).2) := rfl

theorem calls_append (fits : Values → Bool) (store : MapStore) (first second : List StoreCall) :
    (store.calls fits (first ++ second)).2 =
      (((store.calls fits first).2).calls fits second).2 := by
  induction first generalizing store with
  | nil => rfl
  | cons call rest ih => exact ih _

/-- After the bulk the map is shut, or it holds every value of it and still fits. -/
theorem bulk_outcome (fits : Values → Bool) (store : MapStore) (n : Nat) (few : n ≤ 255)
    (room : store.map.size + n ≤ kMaximumKeys) (unshut : store.shut = false) :
    let final := (store.calls fits (bulk n)).2
    final.shut = true ∨
      final.shut = false ∧ final.map.size ≤ store.map.size + n ∧ (0 < n → fits final.map = true) ∧
        ∀ i < n, final.map[bulkKey i]? = some bulkValue := by
  induction n with
  | zero => exact .inr ⟨unshut, by simp [bulk, MapStore.calls], by simp, by simp⟩
  | succ n ih =>
      have before := ih (by omega) (by omega)
      have split : bulk (n + 1) =
          bulk n ++ [.mutate (.set (some (bulkKey n)) (some bulkValue) 65535)] := by
        simp [bulk, List.range_succ]
      dsimp only at before ⊢
      rw [split, calls_append]
      generalize (store.calls fits (bulk n)).2 = reached at before ⊢
      rcases before with shut | ⟨still, size, _, held⟩
      · exact .inl (by simp [MapStore.calls, MapStore.call, shut])
      · have leads : DurableStorage.Mutation.next reached.map
            (.set (some (bulkKey n)) (some bulkValue) 65535) =
              .ok (reached.map.insert (bulkKey n) bulkValue) := by
          have whole : (Option.getD (some bulkValue) []).take (65535 : UInt16).toNat = bulkValue :=
            List.take_of_length_le (by rw [Option.getD_some, bulkValue_length]; decide)
          have below : ¬ kMaximumKeys ≤ reached.map.size := by omega
          simp only [DurableStorage.Mutation.next, validKey_bulkKey (show n < 255 by omega), whole,
            below, and_false, if_false]
          rw [if_neg (by simp)]
        simp only [MapStore.calls, MapStore.call, still, leads, Bool.false_eq_true, if_false]
        split
        · rename_i within
          refine .inr ⟨rfl, ?_, fun _ => within, ?_⟩
          · have := Std.ExtTreeMap.size_insert_le (t := reached.map) (k := bulkKey n) (v := bulkValue)
            dsimp only
            omega
          · intro i small
            dsimp only
            rw [Std.ExtTreeMap.getElem?_insert]
            split
            · rfl
            · rename_i other
              apply held
              have : i ≠ n := by
                rintro rfl
                exact other Std.ReflCmp.compare_self
              omega
        · exact .inl rfl

theorem sum_range_const (n c : Nat) : ((List.range n).map fun _ => c).sum = n * c := by
  induction n with
  | zero => simp
  | succ n ih =>
      rw [List.range_succ, List.map_append, List.sum_append, ih]
      simp [Nat.succ_mul]

/-- Two hundred of the largest values do not fit. -/
theorem bulk_too_large {values : Values} (identity : ControllerIdentity)
    (held : ∀ i < 200, values[bulkKey i]? = some bulkValue) :
    fitsFile compact identity values = false := by
  have listed : ((List.range 200).map fun i => (bulkKey i, bulkValue)).Subperm values.toList := by
    apply List.subperm_of_subset
    · apply List.Nodup.map_on _ List.nodup_range
      intro i _ j _ same
      exact bulkKey_injective (Prod.mk.inj same).1
    · intro entry present
      obtain ⟨i, small, rfl⟩ := List.mem_map.mp present
      exact Std.ExtTreeMap.mem_toList_iff_getElem?_eq_some.mpr (held i (List.mem_range.mp small))
  have sum : 200 * (base64Encode bulkValue).length ≤
      (values.toList.map fun entry => (base64Encode entry.2).length).sum := by
    obtain ⟨part, perm, sub⟩ := listed
    calc 200 * (base64Encode bulkValue).length
        = (((List.range 200).map fun i => (bulkKey i, bulkValue)).map
            fun entry => (base64Encode entry.2).length).sum := by
          rw [List.map_map, show ((fun entry : Bytes × Bytes => (base64Encode entry.2).length) ∘
            fun i => (bulkKey i, bulkValue)) = fun _ => (base64Encode bulkValue).length from rfl]
          exact (sum_range_const 200 _).symm
      _ = (part.map fun entry => (base64Encode entry.2).length).sum := (perm.map _).sum_eq.symm
      _ ≤ _ := (sub.map _).sum_le_sum (by simp)
  have long := base64Encode_length bulkValue
  have document := stateDocument_length identity values
  have size := bulkValue_length
  have large : ¬ (stateDocument identity values).dumpText.length + 1 ≤ kMaximumFileBytes := by
    rw [kMaximumFileBytes]
    omega
  simp [fitsFile, serializeState, compact, large]

/-- Whatever a bulk is answered, a value under another key is remembered. -/
theorem recall_bulk (start : Values) (trace : List (StoreCall × Answer)) (key : Bytes)
    (other : ∀ i, bulkKey i ≠ key)
    (bulky : ∀ step ∈ trace, ∃ i < 255,
      step.1 = .mutate (.set (some (bulkKey i)) (some bulkValue) 65535)) :
    (recalled start trace)[key]? = start[key]? := by
  induction trace generalizing start with
  | nil => rfl
  | cons step rest ih =>
      have later := fun start => ih start fun step present =>
        bulky step (List.mem_cons_of_mem _ present)
      obtain ⟨i, small, same⟩ := bulky step List.mem_cons_self
      obtain ⟨call, error, copied⟩ := step
      cases same
      rw [recalled, List.foldl_cons]
      refine (later _).trans ?_
      cases error with
      | noError =>
          dsimp only
          rw [validKey_bulkKey small, Std.ExtTreeMap.getElem?_insert, if_neg]
          exact fun equal => other i (Std.LawfulEqCmp.eq_of_compare equal)
      | _ => rfl

/-- The small value set before the bulk. -/
def smallSet : StoreCall := .mutate (.set (some (ascii "a")) (some [7]) 1)

/-- The identity of the created store. -/
def sampleIdentity : ControllerIdentity := ⟨1, 4660, 65521⟩

/-- The map after the small value. -/
def sampleMap : Values := (∅ : Values).insert (ascii "a") [7]

theorem smallSet_call :
    (⟨∅, false⟩ : MapStore).call (fitsFile compact sampleIdentity) smallSet =
      ((.noError, none), ⟨sampleMap, false⟩) := by
  have fits : fitsFile compact sampleIdentity sampleMap = true := by decide +kernel
  have leads : DurableStorage.Mutation.next ∅ (.set (some (ascii "a")) (some [7]) 1) =
      .ok sampleMap := rfl
  simp [smallSet, MapStore.call, leads, fits]

/-- A bulk of two hundred after the small value shuts the map. -/
theorem bulk_shuts {n : Nat} (many : n = 200) :
    ((⟨∅, false⟩ : MapStore).calls (fitsFile compact sampleIdentity)
      (smallSet :: bulk n)).2.shut = true := by
  have size : sampleMap.size = 1 := by decide
  rw [calls_cons, smallSet_call]
  rcases bulk_outcome (fitsFile compact sampleIdentity) ⟨sampleMap, false⟩ n (by omega)
    (by rw [size, kMaximumKeys]; omega) rfl with shut | ⟨_, _, fits, held⟩
  · exact shut
  · subst many
    have large := bulk_too_large sampleIdentity held
    have within := fits (by omega)
    rw [large] at within
    cases within

/-- The small value is remembered through it. -/
theorem recall_smallSet (n : Nat) (few : n ≤ 255) (answers : List Answer) :
    (recalled ∅ ((smallSet :: bulk n).zip ((.noError, none) :: answers)))[ascii "a"]? = some [7] := by
  have found : sampleMap[ascii "a"]? = some [7] := by decide
  have other : ∀ i, bulkKey i ≠ ascii "a" := by
    intro i
    simp [bulkKey, ascii, List.replicate_succ]
  have start : recalled ∅ [(smallSet, (.noError, none))] = sampleMap := by
    have valid : validKey (some (ascii "a")) = some (ascii "a") := by decide
    simp [recalled, smallSet, valid, sampleMap]
  rw [← found, ← recall_bulk sampleMap ((bulk n).zip answers) (ascii "a") other ?_, ← start]
  · rfl
  · intro step present
    obtain ⟨i, small, same⟩ := List.mem_map.mp (List.of_mem_zip present).1
    have := List.mem_range.mp small
    exact ⟨i, by omega, same.symm⟩

/-- The store answers the getter with an error although the value it asks for was set and
never deleted: the setter that did not fit was not without consequence. -/
theorem get_after_overfull :
    let calls := smallSet :: bulk 200
    let answered := (World.run compact 0 [.openStore createAttempt]).calls compact 0 reopenAttempt calls
    lookupAnswer (recalled ∅ (calls.zip answered.1)) (some (ascii "a")) true 1 =
        (.noError, some [7]) ∧
      (answered.2.call compact 0 reopenAttempt (.get (some (ascii "a")) true 1)).1 =
        (.persistedStorageFailed, none) := by
  obtain ⟨n, many⟩ : ∃ n, n = 200 := ⟨200, rfl⟩
  rw [← many]
  obtain ⟨valid, directory, there, serves⟩ :=
    (World.run_sound compact_inverts 0 [.openStore createAttempt]).store _ created_store
  have linked : Linked compact sampleIdentity (World.run compact 0 [.openStore createAttempt])
      ⟨∅, false⟩ := ⟨valid, created_store, directory, there, serves rfl⟩
  have same : reopenAttempt.identity = sampleIdentity := rfl
  obtain ⟨answers, final⟩ :=
    linked_calls 0 compact_inverts reopenAttempt_unhindered same linked (smallSet :: bulk n)
  constructor
  · have remembered := recall_smallSet n (by omega) ((⟨sampleMap, false⟩ : MapStore).calls
      (fitsFile compact sampleIdentity) (bulk n)).1
    have valid : validKey (some (ascii "a")) = some (ascii "a") := by decide
    rw [answers, calls_cons, smallSet_call]
    simp only [lookupAnswer, valid, remembered]
    rfl
  · have opened := final.opened
    rw [bulk_shuts many] at opened
    simp only [World.call, opened]
    exact (poisoned_refuses compact rfl 0).2 _ _ _

end

end WotexMatter.Storage
