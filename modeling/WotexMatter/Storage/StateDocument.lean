/-
# WotexMatter.Storage.StateDocument -- the version-1 state document

`ParseState` and `SerializeState` of `native/src/storage.cpp`.  The JSON text itself is
read and written by nlohmann/json, which is not part of the repository: a
`JsonLibrary` is its `parse` and `dump`.  A parsed text is a `Json`, the tree as it
stands in the text, with the members of an object in their order and repeated keys
still there; an object the program looks into is the map those members leave when a
later value overwrites an earlier one (`Std.ExtTreeMap.ofList`), in the order of
`std::map`.

While nlohmann/json parses, it calls back at every object start, with the depth of the
container around the object, and at every key, with that depth plus one
(`Json.events`).  `ParseState` looks for repeated keys in these callbacks only
(`KeyScan`), and checks everything else on the parsed document (`loadState`).
-/
import Mathlib.Data.Finset.Insert
import WotexMatter.Storage.Encoding

set_option autoImplicit false

namespace WotexMatter.Storage

/-- A JSON text that parsed.  A number is unsigned, signed or anything else; the last
kind keeps its literal, which the program never reads. -/
inductive Json where
  | null
  | boolean (value : Bool)
  | unsigned (value : UInt64)
  | integer (value : Int)
  | floating (literal : Bytes)
  | string (value : Bytes)
  | array (items : List Json)
  | object (members : List (Bytes × Json))

/-- `nlohmann::json::parse` without exceptions (`none` for a discarded value) and `dump`
(`none` where it throws). -/
structure JsonLibrary where
  parse : Bytes → Option Json
  dump : Json → Option Bytes

/-! ## The parser callback -/

/-- The two callbacks `ParseState` looks at. -/
inductive ParseEvent where
  | objectStart (depth : Nat)
  | key (depth : Nat) (name : Bytes)
  deriving DecidableEq

mutual

/-- The callbacks made while a value inside `depth` containers is parsed. -/
def Json.events (depth : Nat) : Json → List ParseEvent
  | .array items => itemEvents (depth + 1) items
  | .object members => .objectStart depth :: memberEvents (depth + 1) members
  | _ => []

def itemEvents (depth : Nat) : List Json → List ParseEvent
  | [] => []
  | item :: rest => item.events depth ++ itemEvents depth rest

def memberEvents (depth : Nat) : List (Bytes × Json) → List ParseEvent
  | [] => []
  | (key, value) :: rest => .key depth key :: (value.events depth ++ memberEvents depth rest)

end

/-- What the callback of `ParseState` keeps: one set of keys for each depth, and the flag. -/
structure KeyScan where
  keys : Nat → Finset Bytes
  duplicate : Bool

namespace KeyScan

def initial : KeyScan := { keys := fun _ => ∅, duplicate := false }

/-- The callback of `ParseState`. -/
def callback (scan : KeyScan) : ParseEvent → KeyScan
  | .objectStart depth => { scan with keys := Function.update scan.keys depth ∅ }
  | .key depth name =>
      if name ∈ scan.keys depth then { scan with duplicate := true }
      else { scan with keys := Function.update scan.keys depth (insert name (scan.keys depth)) }

def run (events : List ParseEvent) : KeyScan := events.foldl callback initial

end KeyScan

/-! ## Identity and values -/

structure ControllerIdentity where
  fabricId : UInt64
  controllerNodeId : UInt64
  vendorId : UInt16
  deriving DecidableEq

def kMaximumOperationalNode : UInt64 := 0xFFFFFFEFFFFFFFFF

def validIdentity (identity : ControllerIdentity) : Bool :=
  0 < identity.fabricId && 0 < identity.controllerNodeId &&
    identity.controllerNodeId ≤ kMaximumOperationalNode && 0 < identity.vendorId &&
    identity.vendorId < 0xFFFF

/-- `std::map<std::string, std::vector<std::uint8_t>>`. -/
abbrev Values := Std.ExtTreeMap Bytes Bytes

def kMaximumKeys : Nat := 4096

def kMaximumFileBytes : Nat := 16 * 1024 * 1024

def kSchema : Bytes := ascii "wotex.matter.store"

def kAuthority : Bytes := ascii "generate_root"

/-- A map that both sides of the document admit. -/
structure Storable (values : Values) : Prop where
  count : values.size ≤ kMaximumKeys
  admitted : ∀ key value, values[key]? = some value →
    AdmittedKey key ∧ value.length ≤ kMaximumValueBytes

/-! ## Reading -/

/-- The set `expected` of `ExactKeys`, in the order of `std::set`. -/
def expectedKeys : List Bytes :=
  [ascii "authority", ascii "controller_node_id", ascii "fabric_id", ascii "schema",
    ascii "values", ascii "vendor_id", ascii "version"]

/-- The members of an object as the parsed document keeps them: the last value of a
repeated key. -/
def settled (members : List (Bytes × Json)) : Std.ExtTreeMap Bytes Json :=
  Std.ExtTreeMap.ofList members

/-- The loop of `ParseState` over the entries of `values`. -/
def loadValues : List (Bytes × Json) → Values → Option Values
  | [], loaded => some loaded
  | (key, value) :: rest, loaded =>
      if key = [] ∨ kMaximumKeyBytes < key.length ∨ validUtf8 key = false then none
      else
        match value with
        | .string encoded =>
            match base64Decode encoded with
            | none => none
            | some decoded => loadValues rest (loaded.insertIfNew key decoded)
        | _ => none

/-- What `ParseState` checks on the parsed document, after the flag of the callback. -/
def loadState (expected : ControllerIdentity) : Json → Option Values
  | .object members =>
      let document := settled members
      if document.keys ≠ expectedKeys then none
      else
        match document[ascii "schema"]?, document[ascii "version"]?,
          document[ascii "fabric_id"]?, document[ascii "controller_node_id"]?,
          document[ascii "vendor_id"]?, document[ascii "authority"]?,
          document[ascii "values"]? with
        | some (.string schema), some (.unsigned version), some (.unsigned fabricId),
          some (.unsigned controllerNodeId), some (.unsigned vendorId), some (.string authority),
          some (.object stored) =>
            if schema ≠ kSchema ∨ version ≠ 1 ∨ authority ≠ kAuthority then none
            else if vendorId = 0 ∨ 0xFFFF ≤ vendorId then none
            else
              let identity : ControllerIdentity := ⟨fabricId, controllerNodeId, vendorId.toUInt16⟩
              if validIdentity identity = false ∨ identity ≠ expected ∨
                  kMaximumKeys < (settled stored).size then none
              else loadValues (settled stored).toList ∅
        | _, _, _, _, _, _, _ => none
  | _ => none

/-- `ParseState`. -/
def parseState (library : JsonLibrary) (contents : Bytes) (expected : ControllerIdentity) :
    Option Values :=
  match library.parse contents with
  | none => none
  | some text =>
      if (KeyScan.run (text.events 0)).duplicate then none else loadState expected text

/-! ## Writing -/

/-- The document `SerializeState` builds. -/
def stateDocument (identity : ControllerIdentity) (values : Values) : Json :=
  .object
    [(ascii "schema", .string kSchema),
      (ascii "version", .unsigned 1),
      (ascii "fabric_id", .unsigned identity.fabricId),
      (ascii "controller_node_id", .unsigned identity.controllerNodeId),
      (ascii "vendor_id", .unsigned identity.vendorId.toUInt64),
      (ascii "authority", .string kAuthority),
      (ascii "values",
        .object (values.toList.map fun entry => (entry.1, .string (base64Encode entry.2))))]

/-- `SerializeState`. -/
def serializeState (library : JsonLibrary) (identity : ControllerIdentity) (values : Values) :
    Option Bytes :=
  match library.dump (stateDocument identity values) with
  | none => none
  | some text =>
      let contents := text ++ [10]
      if contents.length ≤ kMaximumFileBytes then some contents else none

/-! ## What the reader accepts -/

/-- An entry of `values` as the reader wants it. -/
def AdmittedEntry (key : Bytes) (value : Json) : Prop :=
  AdmittedKey key ∧
    ∃ bytes, value = .string (base64Encode bytes) ∧ bytes.length ≤ kMaximumValueBytes

/-- The reader's three checks on a key are the ones the writer makes. -/
theorem refuses_iff {key : Bytes} :
    (key = [] ∨ kMaximumKeyBytes < key.length ∨ validUtf8 key = false) ↔ ¬ AdmittedKey key := by
  rw [AdmittedKey, not_and_or, not_and_or, not_not, Nat.not_le, Bool.not_eq_true]

theorem loadValues_isSome_iff (entries : List (Bytes × Json)) (loaded : Values) :
    (loadValues entries loaded).isSome ↔ ∀ entry ∈ entries, AdmittedEntry entry.1 entry.2 := by
  fun_induction loadValues entries loaded with
  | case1 loaded => simp
  | case2 key value rest loaded refused =>
      constructor
      · intro accepted
        cases accepted
      · intro admitted
        exact absurd (admitted _ List.mem_cons_self).1 (refuses_iff.mp refused)
  | case3 key rest loaded passed encoded decoded =>
      constructor
      · intro accepted
        cases accepted
      · intro admitted
        obtain ⟨_, bytes, same, fits⟩ := admitted _ List.mem_cons_self
        cases same
        simp [base64Decode_encode fits] at decoded
  | case4 key rest loaded passed encoded decoded found ih =>
      rw [ih]
      obtain ⟨same, fits⟩ := base64Decode_eq_some_iff.mp found
      have head : AdmittedEntry key (.string encoded) := by
        exact ⟨not_not.mp fun refused => passed (refuses_iff.mpr refused), decoded, by rw [same], fits⟩
      simp [head]
  | case5 key value rest loaded passed other =>
      constructor
      · intro accepted
        cases accepted
      · intro admitted
        obtain ⟨_, bytes, same, _⟩ := admitted _ List.mem_cons_self
        exact absurd same (other _)

/-- Everything loaded was admitted, and the loop adds at most one key a round. -/
theorem loadValues_storable {entries : List (Bytes × Json)} {loaded values : Values}
    (result : loadValues entries loaded = some values)
    (before : ∀ key value, loaded[key]? = some value →
      AdmittedKey key ∧ value.length ≤ kMaximumValueBytes) :
    values.size ≤ loaded.size + entries.length ∧
      ∀ key value, values[key]? = some value →
        AdmittedKey key ∧ value.length ≤ kMaximumValueBytes := by
  fun_induction loadValues entries loaded with
  | case1 loaded =>
      cases result
      exact ⟨Nat.le_add_right _ _, before⟩
  | case2 key value rest loaded refused => cases result
  | case3 key rest loaded passed encoded decoded => cases result
  | case4 key rest loaded passed encoded decoded found ih =>
      have after : ∀ key' value, (loaded.insertIfNew key decoded)[key']? = some value →
          AdmittedKey key' ∧ value.length ≤ kMaximumValueBytes := by
        intro key' value stored
        rw [Std.ExtTreeMap.getElem?_insertIfNew] at stored
        split at stored
        · rename_i fresh
          cases stored
          have same : key = key' := Std.LawfulEqCmp.eq_of_compare fresh.1
          subst same
          exact ⟨not_not.mp fun refused => passed (refuses_iff.mpr refused),
            (base64Decode_eq_some_iff.mp found).2⟩
        · exact before _ _ stored
      obtain ⟨count, admitted⟩ := ih result after
      refine ⟨?_, admitted⟩
      have := Std.ExtTreeMap.size_insertIfNew_le (t := loaded) (k := key) (v := decoded)
      simp only [List.length_cons]
      omega
  | case5 key value rest loaded passed other => cases result

/-- The members `ParseState` wants of the parsed document, and of its `values`: the
version-1 document of one identity. -/
structure Describes (expected : ControllerIdentity) (members stored : List (Bytes × Json)) :
    Prop where
  keys : (settled members).keys = expectedKeys
  schema : (settled members)[ascii "schema"]? = some (.string kSchema)
  version : (settled members)[ascii "version"]? = some (.unsigned 1)
  fabricId : (settled members)[ascii "fabric_id"]? = some (.unsigned expected.fabricId)
  controllerNodeId :
    (settled members)[ascii "controller_node_id"]? = some (.unsigned expected.controllerNodeId)
  vendorId :
    (settled members)[ascii "vendor_id"]? = some (.unsigned expected.vendorId.toUInt64)
  authority : (settled members)[ascii "authority"]? = some (.string kAuthority)
  values : (settled members)[ascii "values"]? = some (.object stored)
  identity : validIdentity expected = true
  count : (settled stored).size ≤ kMaximumKeys
  entries : ∀ key value, (settled stored)[key]? = some value → AdmittedEntry key value

/-- The parsed document is a state document of the identity. -/
def StateOf (expected : ControllerIdentity) (text : Json) : Prop :=
  ∃ members stored, text = .object members ∧ Describes expected members stored

theorem vendor_toUInt64 {vendor : UInt64} (small : ¬ 0xFFFF ≤ vendor) :
    vendor.toUInt16.toUInt64 = vendor := by
  have bound : vendor < 0xFFFF := UInt64.not_le.mp small
  have wide : vendor.toNat < 0xFFFF := UInt64.lt_iff_toNat_lt.mp bound
  apply UInt64.toNat_inj.mp
  rw [UInt16.toNat_toUInt64, UInt64.toNat_toUInt16]
  omega

theorem vendor_bounds {identity : ControllerIdentity} (valid : validIdentity identity = true) :
    ¬ (identity.vendorId.toUInt64 = 0 ∨ 0xFFFF ≤ identity.vendorId.toUInt64) := by
  simp only [validIdentity, Bool.and_eq_true, decide_eq_true_eq] at valid
  obtain ⟨⟨_, positive⟩, below⟩ := valid
  have h₁ : 0 < identity.vendorId.toNat := UInt16.lt_iff_toNat_lt.mp positive
  have h₂ : identity.vendorId.toNat < 0xFFFF := UInt16.lt_iff_toNat_lt.mp below
  rintro (zero | large)
  · have : identity.vendorId.toUInt64.toNat = 0 := by rw [zero]; rfl
    rw [UInt16.toNat_toUInt64] at this
    omega
  · have : 0xFFFF ≤ identity.vendorId.toUInt64.toNat := UInt64.le_iff_toNat_le.mp large
    rw [UInt16.toNat_toUInt64] at this
    omega

/-- For a document of the identity, all that is left of the checks is the loop. -/
theorem loadState_of_describes {expected : ControllerIdentity}
    {members stored : List (Bytes × Json)} (described : Describes expected members stored) :
    loadState expected (.object members) = loadValues (settled stored).toList ∅ := by
  have vendor : expected.vendorId.toUInt64.toUInt16 = expected.vendorId :=
    UInt16.toUInt16_toUInt64 _
  have identity : (⟨expected.fabricId, expected.controllerNodeId,
      expected.vendorId.toUInt64.toUInt16⟩ : ControllerIdentity) = expected := by
    rw [vendor]
  simp only [loadState, described.keys, described.schema, described.version, described.fabricId,
    described.controllerNodeId, described.vendorId, described.authority, described.values,
    identity, vendor_bounds described.identity, described.identity,
    Nat.not_lt.mpr described.count, ne_eq, not_true, if_false, or_self, Bool.true_eq_false]

/-- **What `ParseState` accepts of a parsed document**, the callback's flag apart. -/
theorem loadState_isSome_iff (expected : ControllerIdentity) (text : Json) :
    (loadState expected text).isSome ↔ StateOf expected text := by
  constructor
  · intro accepted
    cases text with
    | object members =>
        simp only [loadState] at accepted
        split at accepted
        · cases accepted
        · rename_i exactly
          split at accepted
          · rename_i schema version fabricId controllerNodeId vendorId authority stored
              hSchema hVersion hFabric hNode hVendor hAuthority hValues
            split at accepted
            · cases accepted
            · rename_i constants
              split at accepted
              · cases accepted
              · rename_i vendor
                split at accepted
                · cases accepted
                · rename_i checks
                  simp only [not_or, not_not, Bool.not_eq_false, Nat.not_lt] at constants checks vendor
                  obtain ⟨rfl, rfl, rfl⟩ := constants
                  obtain ⟨valid, rfl, count⟩ := checks
                  refine ⟨members, stored, rfl, not_not.mp exactly, hSchema, hVersion, hFabric, hNode,
                    ?_, hAuthority, hValues, valid, count, ?_⟩
                  · rw [hVendor, vendor_toUInt64 vendor.2]
                  · intro key value found
                    have all := (loadValues_isSome_iff _ _).mp accepted
                    exact all (key, value) (Std.ExtTreeMap.mem_toList_iff_getElem?_eq_some.mpr found)
          · cases accepted
    | _ => cases accepted
  · rintro ⟨members, stored, rfl, described⟩
    rw [loadState_of_describes described, loadValues_isSome_iff]
    intro entry present
    exact described.entries _ _ (Std.ExtTreeMap.mem_toList_iff_getElem?_eq_some.mp present)

/-- Everything the reader returns, the writer admits. -/
theorem loadState_storable {expected : ControllerIdentity} {text : Json} {values : Values}
    (loaded : loadState expected text = some values) : Storable values := by
  have accepted : (loadState expected text).isSome := by rw [loaded]; rfl
  obtain ⟨members, stored, rfl, described⟩ := (loadState_isSome_iff _ _).mp accepted
  rw [loadState_of_describes described] at loaded
  obtain ⟨count, admitted⟩ := loadValues_storable loaded (by simp)
  refine ⟨?_, admitted⟩
  have bound := described.count
  rw [Std.ExtTreeMap.length_toList] at count
  simp at count
  omega

/-- Without the callback's flag, the document decides. -/
theorem parseState_of_quiet {library : JsonLibrary} {contents : Bytes} {text : Json}
    {expected : ControllerIdentity} (parsed : library.parse contents = some text)
    (quiet : (KeyScan.run (text.events 0)).duplicate = false) :
    parseState library contents expected = loadState expected text := by
  simp only [parseState, parsed, quiet, Bool.false_eq_true, if_false]

theorem parseState_storable {library : JsonLibrary} {contents : Bytes}
    {expected : ControllerIdentity} {values : Values}
    (parsed : parseState library contents expected = some values) : Storable values := by
  simp only [parseState] at parsed
  split at parsed
  · cases parsed
  · split at parsed
    · cases parsed
    · exact loadState_storable parsed

end WotexMatter.Storage
