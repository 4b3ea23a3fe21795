/-
# WotexMatter.Value.Conversion -- values of Elixir as elements and back

`to_element` and `from_element` of `Wotex.Matter.Descriptor` (`descriptor.ex`).  Three case analyses
over the schemas stand beside each other there: `convert`, `schema_matches?` and `extract`.
`convert` is not told the operation, and `schema_matches?` admits a fabric index to reads only.

A map is what it has under the keys that the module names, and the number of its other keys; two
maps are the same if both are.
-/
import WotexMatter.Value.Descriptor

set_option autoImplicit false

namespace WotexMatter.Value

open WotexMatter.Tlv

/-! ## Values -/

/-- The keys that the module names. -/
inductive FieldName where
  | privilege
  | authMode
  | subjects
  | targets
  | auxiliaryType
  | fabricIndex
  | cluster
  | endpoint
  | deviceType
  | revision
  | reachable
  deriving DecidableEq

def FieldName.all : List FieldName :=
  [.privilege, .authMode, .subjects, .targets, .auxiliaryType, .fabricIndex, .cluster, .endpoint,
    .deviceType, .revision, .reachable]

theorem FieldName.mem_all (name : FieldName) : name ∈ FieldName.all := by cases name <;> decide

/-- An Elixir term.  `other` is one of the kinds that no schema takes: floats, binaries, tuples, atoms
but `nil` and the booleans, and so on. -/
inductive SchemaValue where
  | nil
  | boolean (value : Bool)
  | integer (value : Int)
  | list (items : List SchemaValue) (proper : Bool)
  | map (fields : FieldName → Option SchemaValue) (others : Nat)
  | other (tag : Nat)

namespace SchemaValue

def isNil : SchemaValue → Bool
  | .nil => true
  | _ => false

/-- The named keys of a map. -/
def keys (fields : FieldName → Option SchemaValue) : List FieldName :=
  FieldName.all.filter fun name => (fields name).isSome

/-- `map_size`. -/
def mapSize (fields : FieldName → Option SchemaValue) (others : Nat) : Nat :=
  (keys fields).length + others

/-- `keys -- names == []`. -/
def onlyKeys (fields : FieldName → Option SchemaValue) (others : Nat) (names : List FieldName) :
    Bool :=
  (keys fields).all names.contains && others = 0

end SchemaValue

open SchemaValue

namespace Descriptor

variable {F : Type}

/-! ## Conversion -/

/-- `tagged_scalar` of a number. -/
def taggedScalar (tag : Tag) (width : Width) (low high : Int) : SchemaValue → Option (Element F)
  | .integer value =>
      if inRange value low high then some (.scalar tag (.unsigned width value)) else none
  | _ => none

/-- `scalar`, `scalar_element`, and the clauses of `convert` for a number without a sign. -/
def scalar (width : Width) (low high : Int) (value : SchemaValue) : Option (Element F) :=
  taggedScalar .anonymous width low high value

def convertI16 : SchemaValue → Option (Element F)
  | .integer value =>
      if inRange value (-32768) 32767 then some (.scalar .anonymous (.signed .w16 value)) else none
  | _ => none

/-- The clauses for a schema that admits `nil`. -/
def nullable (convert : SchemaValue → Option (Element F)) : SchemaValue → Option (Element F)
  | .nil => some (.scalar .anonymous .null)
  | value => convert value

/-- `traverse`. -/
def traverse {α β : Type} (converter : α → Option β) : List α → Option (List β)
  | [] => some []
  | value :: rest => do
      let child ← converter value
      let others ← traverse converter rest
      some (child :: others)

/-- A converted list under a tag, if it is no longer than this. -/
def arrayUnder (tag : Tag) (most : Nat) (converter : SchemaValue → Option (Element F)) :
    SchemaValue → Option (Element F)
  | .list items true =>
      if items.length ≤ most then (traverse converter items).map (.container tag .array) else none
  | _ => none

/-- `array`. -/
def array (converter : SchemaValue → Option (Element F)) (values : SchemaValue) :
    Option (Element F) :=
  arrayUnder .anonymous 1023 converter values

/-- An entry of a `:cluster_list`. -/
def clusterEntry : SchemaValue → Option (Element F)
  | .integer value =>
      if validCluster value then scalar .w32 0 0xFFFFFFFF (.integer value) else none
  | _ => none

/-- An entry of a `:device_type_list`. -/
def deviceTypeEntry : SchemaValue → Option (Element F)
  | .map fields others =>
      match fields .deviceType, fields .revision with
      | some deviceType, some revision =>
          if mapSize fields others = 2 then do
            let deviceType ← taggedScalar (.context 0) .w32 0 0xFFFFFFFF deviceType
            let revision ← taggedScalar (.context 1) .w16 0 0xFFFF revision
            some (.container .anonymous .structure [deviceType, revision])
          else none
      | _, _ => none
  | _ => none

/-- `nullable_tagged`; `admits` is the range, or `valid_cluster?` and a range. -/
def nullableTagged (tag : Tag) (width : Width) (admits : Int → Bool) :
    SchemaValue → Option (Element F)
  | .nil => some (.scalar tag .null)
  | .integer value => if admits value then some (.scalar tag (.unsigned width value)) else none
  | _ => none

/-- `access_target`. -/
def accessTarget : SchemaValue → Option (Element F)
  | .map fields others =>
      match fields .cluster, fields .endpoint, fields .deviceType with
      | some cluster, some endpoint, some deviceType =>
          if mapSize fields others = 3 then do
            let clusterField ← nullableTagged (.context 0) .w32
              (fun value => validCluster value && inRange value 0 0xFFFFFFFF) cluster
            let endpointField ← nullableTagged (.context 1) .w16 (inRange · 0 0xFFFE) endpoint
            let deviceField ← nullableTagged (.context 2) .w32 (inRange · 0 0xFFFFFFFF) deviceType
            if validTargetSelectors cluster.isNil endpoint.isNil deviceType.isNil then
              some (.container .anonymous .structure [clusterField, endpointField, deviceField])
            else none
          else none
      | _, _, _ => none
  | _ => none

/-- `nullable_subjects`. -/
def nullableSubjects : SchemaValue → Option (Element F)
  | .nil => some (.scalar (.context 3) .null)
  | subjects => arrayUnder (.context 3) 64 (scalar .w64 0 0xFFFFFFFFFFFFFFFF) subjects

/-- `nullable_targets`. -/
def nullableTargets : SchemaValue → Option (Element F)
  | .nil => some (.scalar (.context 4) .null)
  | targets => arrayUnder (.context 4) 64 accessTarget targets

/-- `optional_access_field`. -/
def optionalAccessField (tag : Int) (low high : Int) : Option SchemaValue → Option (List (Element F))
  | none => some []
  | some value => (taggedScalar (.context tag) .w8 low high value).map fun element => [element]

def entryKeys : List FieldName :=
  [.privilege, .authMode, .subjects, .targets, .auxiliaryType, .fabricIndex]

/-- `access_entry`. -/
def accessEntry : SchemaValue → Option (Element F)
  | .map fields others =>
      match fields .privilege, fields .authMode with
      | some privilege, some authMode =>
          if onlyKeys fields others entryKeys then do
            let privilege ← taggedScalar (.context 1) .w8 1 5 privilege
            let authMode ← taggedScalar (.context 2) .w8 2 3 authMode
            let subjects ← nullableSubjects ((fields .subjects).getD .nil)
            let targets ← nullableTargets ((fields .targets).getD .nil)
            let auxiliary ← optionalAccessField 5 0 1 (fields .auxiliaryType)
            let fabric ← optionalAccessField 254 1 254 (fields .fabricIndex)
            some (.container .anonymous .structure
              ([privilege, authMode, subjects, targets] ++ (auxiliary ++ fabric)))
          else none
      | _, _ => none
  | _ => none

def convert : Schema → SchemaValue → Option (Element F)
  | .nullableI16, value => nullable convertI16 value
  | .i16, value => convertI16 value
  | .u8, value => scalar .w8 0 255 value
  | .boolean, .boolean value => some (.scalar .anonymous (.boolean value))
  | .boolean, _ => none
  | .emptyStructure, .map fields others =>
      if mapSize fields others = 0 then some (.container .anonymous .structure []) else none
  | .emptyStructure, _ => none
  | .clusterList, values => array clusterEntry values
  | .partsList, values => array (scalar .w16 0 0xFFFE) values
  | .deviceTypeList, values => array deviceTypeEntry values
  | .reachableEvent, .map fields others =>
      match fields .reachable with
      | some (.boolean value) =>
          if mapSize fields others = 1 then
            some (.container .anonymous .structure [.scalar (.context 0) (.boolean value)])
          else none
      | _ => none
  | .reachableEvent, _ => none
  | .windowStatus, value => scalar .w8 0 2 value
  | .nullableFabricIndex, value => nullable (scalar .w8 1 254) value
  | .nullableVendorId, value => nullable (scalar .w16 1 65534) value
  | .accessControlList, entries => arrayUnder .anonymous 64 accessEntry entries

/-- `to_element`. -/
def toElement (floats : Floats F) (kind : MemberKind) (path : Option Address)
    (operation : Operation) (nativeValue : SchemaValue) : Option (Element F) := do
  let descriptor ← lookup kind path operation
  let element ← convert descriptor.schema nativeValue
  Tlv.validateElement floats element

/-! ## Extraction -/

/-- `value` of a scalar. -/
def valueOf : Element F → SchemaValue
  | .scalar _ .null => .nil
  | .scalar _ (.boolean value) => .boolean value
  | .scalar _ (.signed _ value) => .integer value
  | .scalar _ (.unsigned _ value) => .integer value
  | _ => .other 0

/-- A map with these fields. -/
def mapOf (fields : List (FieldName × SchemaValue)) : SchemaValue :=
  .map (fun name => fields.lookup name) 0

def extractDeviceType : Element F → SchemaValue
  | .container _ _ [deviceType, revision] =>
      mapOf [(.deviceType, valueOf deviceType), (.revision, valueOf revision)]
  | _ => .other 0

/-- `extract_access_target`. -/
def extractAccessTarget : Element F → SchemaValue
  | .container _ _ [cluster, endpoint, device] =>
      mapOf [(.cluster, valueOf cluster), (.endpoint, valueOf endpoint),
        (.deviceType, valueOf device)]
  | _ => .other 0

/-- `extract_nullable_list`. -/
def extractNullableList (extract : Element F → SchemaValue) : Option (Element F) → SchemaValue
  | some (.scalar _ .null) => .nil
  | some (.container _ _ values) => .list (values.map extract) true
  | _ => .other 0

/-- `maybe_put`. -/
def maybePut (name : FieldName) (field : Option (Element F)) : List (FieldName × SchemaValue) :=
  match field with
  | some field => [(name, valueOf field)]
  | none => []

/-- `extract_access_entry`. -/
def extractAccessEntry : Element F → SchemaValue
  | .container _ _ fields =>
      mapOf
        ([(.privilege, ((byTag fields (.context 1)).map valueOf).getD (.other 0)),
            (.authMode, ((byTag fields (.context 2)).map valueOf).getD (.other 0)),
            (.subjects, extractNullableList valueOf (byTag fields (.context 3))),
            (.targets, extractNullableList extractAccessTarget (byTag fields (.context 4)))] ++
          (maybePut .auxiliaryType (byTag fields (.context 5)) ++
            maybePut .fabricIndex (byTag fields (.context 254))))
  | _ => .other 0

/-- `extract`, of an element that its schema matches. -/
def extract : Schema → Element F → Option SchemaValue
  | .emptyStructure, .container _ .structure [] => some (mapOf [])
  | .emptyStructure, _ => none
  | .clusterList, .container _ _ values => some (.list (values.map valueOf) true)
  | .partsList, .container _ _ values => some (.list (values.map valueOf) true)
  | .deviceTypeList, .container _ _ values => some (.list (values.map extractDeviceType) true)
  | .reachableEvent, .container _ _ [child] => some (mapOf [(.reachable, valueOf child)])
  | .accessControlList, .container _ _ entries => some (.list (entries.map extractAccessEntry) true)
  | .clusterList, _ => none
  | .partsList, _ => none
  | .deviceTypeList, _ => none
  | .reachableEvent, _ => none
  | .accessControlList, _ => none
  | _, element => some (valueOf element)

/-- `from_element`. -/
def fromElement (floats : Floats F) (kind : MemberKind) (path : Option Address)
    (operation : Operation) (element : Option (Element F)) : Option SchemaValue := do
  let descriptor ← lookup kind path operation
  let normalized ← validateElement floats kind path operation element
  extract descriptor.schema normalized

/-! ## What comes back -/

/-- The entry, with `nil` under `:subjects` and `:targets` where they are absent. -/
def filledEntry : SchemaValue → SchemaValue
  | .map fields others =>
      .map (fun name =>
        if name = .subjects ∨ name = .targets then some ((fields name).getD .nil)
        else fields name) others
  | value => value

/-- The value that comes back under a schema. -/
def filled (schema : Schema) (value : SchemaValue) : SchemaValue :=
  match schema, value with
  | .accessControlList, .list entries proper => .list (entries.map filledEntry) proper
  | _, value => value

/-- The value has `:fabric_index`. -/
def fabricEntry : SchemaValue → Bool
  | .map fields _ => (fields .fabricIndex).isSome
  | _ => false

/-- Some entry of the list has `:fabric_index`. -/
def hasFabricIndex : SchemaValue → Bool
  | .list entries _ => entries.any fabricEntry
  | _ => false

end Descriptor

end WotexMatter.Value
