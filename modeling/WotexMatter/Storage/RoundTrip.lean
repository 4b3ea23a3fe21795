/-
# WotexMatter.Storage.RoundTrip -- what `SerializeState` writes, `ParseState` reads

The writer and the reader of the state document check their limits separately.  For
every map the writer admits (`Storable`) and every valid identity the reader returns the
map unchanged (`parseState_serializeState`).  nlohmann/json enters as one assumption,
that `parse` inverts `dump` on these documents (`JsonLibrary.Inverts`).
-/
import WotexMatter.Storage.DuplicateKeys

set_option autoImplicit false

namespace WotexMatter.Storage

/-- `dump` prints every state document of admitted keys and values, and `parse` reads
the text back, with the newline `SerializeState` adds. -/
def JsonLibrary.Inverts (library : JsonLibrary) : Prop :=
  ∀ identity values, Storable values → ∃ text,
    library.dump (stateDocument identity values) = some text ∧
      library.parse (text ++ [10]) = some (stateDocument identity values)

/-! ## No key of the document is repeated -/

theorem not_repeatsUncut_of_nodup {events : List ParseEvent} (once : events.Nodup) :
    ¬ RepeatsUncut events := by
  rintro ⟨before, between, after, depth, name, rfl, _⟩
  have tail := (List.nodup_append.mp once).2.1
  have head := (List.nodup_cons.mp tail).1
  exact head (by simp)

/-- The members of `values` as the writer lists them. -/
def encodedMembers (values : Values) : List (Bytes × Json) :=
  values.toList.map fun entry => (entry.1, .string (base64Encode entry.2))

theorem memberEvents_strings (depth : Nat) (entries : List (Bytes × Bytes)) :
    memberEvents depth (entries.map fun entry => (entry.1, .string (base64Encode entry.2))) =
      (entries.map Prod.fst).map (ParseEvent.key depth) := by
  induction entries with
  | nil => simp [memberEvents]
  | cons entry rest ih => simp [memberEvents, Json.events, ih]

theorem keys_nodup (values : Values) : (values.toList.map Prod.fst).Nodup := by
  rw [Std.ExtTreeMap.map_fst_toList_eq_keys]
  exact Std.ExtTreeMap.nodup_keys

/-- The keys of the root object, in the order they are written. -/
def rootKeys : List Bytes :=
  [ascii "schema", ascii "version", ascii "fabric_id", ascii "controller_node_id",
    ascii "vendor_id", ascii "authority", ascii "values"]

theorem stateDocument_events (identity : ControllerIdentity) (values : Values) :
    (stateDocument identity values).events 0 =
      .objectStart 0 :: (rootKeys.map (.key 1) ++
        .objectStart 1 :: (values.toList.map Prod.fst).map (.key 2)) := by
  rw [← memberEvents_strings]
  simp [stateDocument, Json.events, memberEvents, rootKeys]

theorem stateDocument_quiet (identity : ControllerIdentity) (values : Values) :
    (KeyScan.run ((stateDocument identity values).events 0)).duplicate = false := by
  rw [Bool.eq_false_iff, ne_eq, run_duplicate_iff]
  apply not_repeatsUncut_of_nodup
  rw [stateDocument_events]
  have stored : ((values.toList.map Prod.fst).map (ParseEvent.key 2)).Nodup :=
    (keys_nodup values).map fun _ _ same => (ParseEvent.key.inj same).2
  have root : (ParseEvent.objectStart 0 :: (rootKeys.map (.key 1) ++ [.objectStart 1])).Nodup := by
    decide
  rw [← List.cons_append, List.append_cons, List.nodup_append]
  refine ⟨by simpa using root, stored, ?_⟩
  intro event first other second same
  subst same
  obtain ⟨name, _, rfl⟩ := List.mem_map.mp second
  simp at first

/-! ## The reader accepts the document -/

theorem settled_encodedMembers (values : Values) :
    settled (encodedMembers values) = values.map fun _ value => .string (base64Encode value) := by
  apply Std.ExtTreeMap.ext_getElem?
  intro key
  rw [Std.ExtTreeMap.getElem?_map]
  have distinct : (encodedMembers values).Pairwise fun a b => ¬ compare a.1 b.1 = .eq := by
    rw [encodedMembers, List.pairwise_map]
    exact Std.ExtTreeMap.distinct_keys_toList
  cases found : values[key]? with
  | some value =>
      refine Std.ExtTreeMap.getElem?_ofList_of_mem Std.ReflCmp.compare_self distinct ?_
      exact List.mem_map.mpr ⟨(key, value), Std.ExtTreeMap.mem_toList_iff_getElem?_eq_some.mpr found, rfl⟩
  | none =>
      apply Std.ExtTreeMap.getElem?_ofList_of_contains_eq_false
      rw [encodedMembers, List.map_map]
      show (values.toList.map Prod.fst).contains key = false
      rw [Std.ExtTreeMap.map_fst_toList_eq_keys, ← Bool.not_eq_true, List.contains_iff_mem]
      intro listed
      rw [Std.ExtTreeMap.mem_keys, Std.ExtTreeMap.mem_iff_isSome_getElem?, found] at listed
      cases listed

theorem stateDocument_describes {identity : ControllerIdentity} {values : Values}
    (valid : validIdentity identity = true) (storable : Storable values) :
    ∃ members, stateDocument identity values = .object members ∧
      Describes identity members (encodedMembers values) := by
  refine ⟨_, rfl, rfl, rfl, rfl, rfl, rfl, rfl, rfl, rfl, valid, ?_, ?_⟩
  · rw [settled_encodedMembers, Std.ExtTreeMap.size_map]
    exact storable.count
  · intro key value found
    rw [settled_encodedMembers, Std.ExtTreeMap.getElem?_map, Option.map_eq_some_iff] at found
    obtain ⟨bytes, stored, rfl⟩ := found
    obtain ⟨admitted, fits⟩ := storable.admitted _ _ stored
    exact ⟨admitted, bytes, rfl, fits⟩

/-- The loop of `ParseState` over canonical entries only decodes them. -/
theorem loadValues_encoded (entries : List (Bytes × Bytes)) (loaded : Values)
    (admitted : ∀ entry ∈ entries, AdmittedKey entry.1 ∧ entry.2.length ≤ kMaximumValueBytes) :
    loadValues (entries.map fun entry => (entry.1, .string (base64Encode entry.2))) loaded =
      some (entries.foldl (fun loaded entry => loaded.insertIfNew entry.1 entry.2) loaded) := by
  induction entries generalizing loaded with
  | nil => rfl
  | cons entry rest ih =>
      obtain ⟨key, fits⟩ := admitted entry List.mem_cons_self
      have passed := mt refuses_iff.mp (not_not.mpr key)
      simp only [List.map_cons, loadValues, if_neg passed, base64Decode_encode fits,
        List.foldl_cons]
      exact ih _ fun entry later => admitted entry (List.mem_cons_of_mem _ later)

theorem foldl_insertIfNew (entries : List (Bytes × Bytes)) (loaded : Values)
    (distinct : (entries.map Prod.fst).Nodup) (fresh : ∀ entry ∈ entries, entry.1 ∉ loaded)
    (key value : Bytes) :
    (entries.foldl (fun loaded entry => loaded.insertIfNew entry.1 entry.2) loaded)[key]? =
        some value ↔
      loaded[key]? = some value ∨ (key, value) ∈ entries := by
  induction entries generalizing loaded with
  | nil => simp
  | cons entry rest ih =>
      obtain ⟨head, tail⟩ := List.nodup_cons.mp distinct
      have missing := fresh entry List.mem_cons_self
      have later : ∀ other ∈ rest, other.1 ∉ loaded.insertIfNew entry.1 entry.2 := by
        intro other present
        rw [Std.ExtTreeMap.mem_insertIfNew]
        rintro (same | old)
        · have equal : entry.1 = other.1 := Std.LawfulEqCmp.eq_of_compare same
          exact head (equal ▸ List.mem_map.mpr ⟨other, present, rfl⟩)
        · exact fresh other (List.mem_cons_of_mem _ present) old
      rw [List.foldl_cons, ih _ tail later, Std.ExtTreeMap.getElem?_insertIfNew]
      by_cases same : entry.1 = key
      · subst same
        have absent : loaded[entry.1]? = none := Std.ExtTreeMap.getElem?_eq_none missing
        simp only [Std.ReflCmp.compare_self, missing, not_false_eq_true, and_self, if_true, absent,
          Option.some.injEq, List.mem_cons, reduceCtorEq, false_or]
        constructor
        · rintro (rfl | deeper)
          · exact .inl rfl
          · exact .inr deeper
        · rintro (equal | deeper)
          · exact .inl (by rw [← equal])
          · exact .inr deeper
      · have other : ¬ compare entry.1 key = .eq := fun equal =>
          same (Std.LawfulEqCmp.eq_of_compare equal)
        have pair : ¬ (key, value) = entry := fun equal => same (by rw [← equal])
        simp [other, pair]

theorem loadValues_stored {values : Values} (storable : Storable values) :
    loadValues (settled (encodedMembers values)).toList ∅ = some values := by
  rw [settled_encodedMembers, Std.ExtTreeMap.toList_map, loadValues_encoded]
  · congr 1
    apply Std.ExtTreeMap.ext_getElem?
    intro key
    apply Option.ext
    intro value
    rw [foldl_insertIfNew _ _ (keys_nodup values) (by simp)]
    simp [Std.ExtTreeMap.mem_toList_iff_getElem?_eq_some]
  · intro entry present
    exact storable.admitted _ _ (Std.ExtTreeMap.mem_toList_iff_getElem?_eq_some.mp present)

theorem loadState_stateDocument {identity : ControllerIdentity} {values : Values}
    (valid : validIdentity identity = true) (storable : Storable values) :
    loadState identity (stateDocument identity values) = some values := by
  obtain ⟨members, same, described⟩ := stateDocument_describes valid storable
  rw [same, loadState_of_describes described, loadValues_stored storable]

/-- **The reader returns what the writer wrote**, for every map the writer admits. -/
theorem parseState_serializeState {library : JsonLibrary} {identity : ControllerIdentity}
    {values : Values} {contents : Bytes} (inverts : library.Inverts)
    (valid : validIdentity identity = true) (storable : Storable values)
    (serialized : serializeState library identity values = some contents) :
    parseState library contents identity = some values := by
  obtain ⟨text, dumped, parsed⟩ := inverts identity values storable
  simp only [serializeState, dumped] at serialized
  split at serialized
  · cases serialized
    rw [parseState_of_quiet parsed (stateDocument_quiet identity values)]
    exact loadState_stateDocument valid storable
  · cases serialized

/-- A document the writer hands out fits the reader's file bounds. -/
theorem serializeState_bounds {library : JsonLibrary} {identity : ControllerIdentity}
    {values : Values} {contents : Bytes}
    (serialized : serializeState library identity values = some contents) :
    0 < contents.length ∧ contents.length ≤ kMaximumFileBytes := by
  simp only [serializeState] at serialized
  split at serialized
  · cases serialized
  · split at serialized
    · rename_i fits
      cases serialized
      exact ⟨by simp, fits⟩
    · cases serialized

end WotexMatter.Storage
