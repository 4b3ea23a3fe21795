/-
# WotexMatter.Wire.Selector -- paths in the parameters of a request

`Unsigned`, `PathComponent` and `Selector` (`protocol.cpp`).  A path is an object with five keys, or
five of the parameters themselves, so the five values are read by `selectorOf` and
`selectorOf_image` says what they were.
-/
import WotexMatter.Native.AccessControl
import WotexMatter.Wire.JsonValue

set_option autoImplicit false

namespace WotexMatter.Wire

open WotexMatter.Native.Elements (validCluster)
open WotexMatter.Storage

structure PathSelector where
  fabricId : UInt64
  nodeId : UInt64
  endpoint : Option UInt16
  cluster : Option UInt32
  member : Option UInt32
  deriving DecidableEq

/-- `Unsigned`. -/
def unsigned (value : Json) (maximum : UInt64) : Option UInt64 :=
  match value with
  | .unsigned number => if number ≤ maximum then some number else none
  | _ => none

/-- `PathComponent`; `some none` is `"any"`. -/
def pathComponent (value : Json) (maximum : UInt64) : Option (Option UInt64) :=
  match value with
  | .string text => if text = ascii "any" then some none else none
  | _ => (unsigned value maximum).map some

/-- `Selector` of the values under the five keys. -/
def selectorOf (fabric node endpoint cluster member : Json) (wildcards : Bool) :
    Option PathSelector := do
  let fabricId ← unsigned fabric 0xFFFFFFFFFFFFFFFF
  let nodeId ← unsigned node kMaximumOperationalNode
  if fabricId = 0 ∨ nodeId = 0 then none
  else
    let endpoint ← pathComponent endpoint 0xFFFE
    let cluster ← pathComponent cluster 0xFFF4FFFE
    let member ← pathComponent member 0xFFFFFFFE
    if ¬wildcards ∧ (endpoint = none ∨ cluster = none ∨ member = none) then none
    else if cluster.any fun cluster => !validCluster cluster.toUInt32 then none
    else
      some
        { fabricId, nodeId
          endpoint := endpoint.map UInt64.toUInt16
          cluster := cluster.map UInt64.toUInt32
          member := member.map UInt64.toUInt32 }

def pathKeys : List Bytes :=
  [ascii "fabric_id", ascii "node_id", ascii "endpoint", ascii "cluster", ascii "member"]

/-- The values under the five keys of an object. -/
def pathValues (members : List (Bytes × Json)) (wildcards : Bool) : Option PathSelector := do
  let fabric ← members.lookup (ascii "fabric_id")
  let node ← members.lookup (ascii "node_id")
  let endpoint ← members.lookup (ascii "endpoint")
  let cluster ← members.lookup (ascii "cluster")
  let member ← members.lookup (ascii "member")
  selectorOf fabric node endpoint cluster member wildcards

/-- `Selector`. -/
def selector (value : Json) (wildcards : Bool) : Option PathSelector :=
  match value with
  | .object members => if exactKeys members pathKeys then pathValues members wildcards else none
  | _ => none

/-- The loop over the paths. -/
def selectors (wildcards : Bool) : List Json → Option (List PathSelector)
  | [] => some []
  | path :: rest => do
      let first ← selector path wildcards
      let others ← selectors wildcards rest
      some (first :: others)

/-! ## The image of a selector -/

/-- A component as it is written. -/
def componentJson : Option UInt64 → Json
  | none => .string (ascii "any")
  | some value => .unsigned value

inductive PathField where
  | fabricId
  | nodeId
  | endpoint
  | cluster
  | member
  deriving DecidableEq

namespace PathField

def key : PathField → Bytes
  | fabricId => ascii "fabric_id"
  | nodeId => ascii "node_id"
  | endpoint => ascii "endpoint"
  | cluster => ascii "cluster"
  | member => ascii "member"

def all : List PathField := [fabricId, nodeId, endpoint, cluster, member]

/-- The field of a path as it is written. -/
def json (path : PathSelector) : PathField → Json
  | fabricId => .unsigned path.fabricId
  | nodeId => .unsigned path.nodeId
  | endpoint => componentJson (path.endpoint.map UInt16.toUInt64)
  | cluster => componentJson (path.cluster.map UInt32.toUInt64)
  | member => componentJson (path.member.map UInt32.toUInt64)

theorem distinct : (all.map key).Nodup := by decide

theorem mem_all (field : PathField) : field ∈ all := by cases field <;> decide

end PathField

def selectorJson (path : PathSelector) : Json :=
  .object (fieldMembers PathField.key PathField.all fun field => some (field.json path))

theorem unsigned_some {value : Json} {maximum number : UInt64}
    (read : unsigned value maximum = some number) : value = .unsigned number ∧ number ≤ maximum := by
  cases value with
  | unsigned found =>
      rw [unsigned, Option.ite_none_right_eq_some] at read
      obtain ⟨small, same⟩ := read
      cases same
      exact ⟨rfl, small⟩
  | _ => cases read

theorem pathComponent_some {value : Json} {maximum : UInt64} {component : Option UInt64}
    (read : pathComponent value maximum = some component) :
    value = componentJson component ∧ ∀ number ∈ component, number ≤ maximum := by
  unfold pathComponent at read
  split at read
  · rename_i text
    rw [Option.ite_none_right_eq_some] at read
    obtain ⟨rfl, same⟩ := read
    cases same
    exact ⟨rfl, fun _ inside => nomatch inside⟩
  · simp only [Option.map_eq_some_iff] at read
    obtain ⟨number, found, rfl⟩ := read
    obtain ⟨rfl, small⟩ := unsigned_some found
    exact ⟨rfl, by simpa using small⟩

/-- What is cut to sixteen bits is kept. -/
theorem toUInt16_kept {component : Option UInt64} {maximum : UInt64} (fits : maximum ≤ 0xFFFF)
    (small : ∀ number ∈ component, number ≤ maximum) :
    (component.map UInt64.toUInt16).map UInt16.toUInt64 = component := by
  cases component with
  | none => rfl
  | some number =>
      have below : number.toNat ≤ 0xFFFF :=
        (UInt64.le_iff_toNat_le.mp (small number rfl)).trans (UInt64.le_iff_toNat_le.mp fits)
      rw [Option.map_some, Option.map_some, Option.some.injEq, ← UInt64.toNat_inj,
        UInt16.toNat_toUInt64, UInt64.toNat_toUInt16]
      omega

theorem toUInt32_kept {component : Option UInt64} {maximum : UInt64}
    (fits : maximum ≤ 0xFFFFFFFF) (small : ∀ number ∈ component, number ≤ maximum) :
    (component.map UInt64.toUInt32).map UInt32.toUInt64 = component := by
  cases component with
  | none => rfl
  | some number =>
      have below : number.toNat ≤ 0xFFFFFFFF :=
        (UInt64.le_iff_toNat_le.mp (small number rfl)).trans (UInt64.le_iff_toNat_le.mp fits)
      rw [Option.map_some, Option.map_some, Option.some.injEq, ← UInt64.toNat_inj,
        UInt32.toNat_toUInt64, UInt64.toNat_toUInt32]
      omega

/-- The five values are the fields of the path that is read from them. -/
theorem selectorOf_image {fabric node endpoint cluster member : Json} {wildcards : Bool}
    {path : PathSelector}
    (read : selectorOf fabric node endpoint cluster member wildcards = some path) :
    fabric = PathField.fabricId.json path ∧ node = PathField.nodeId.json path ∧
      endpoint = PathField.endpoint.json path ∧ cluster = PathField.cluster.json path ∧
      member = PathField.member.json path := by
  simp only [selectorOf, Option.bind_eq_bind, Option.bind_eq_some_iff,
    Option.ite_none_left_eq_some, Option.some.injEq] at read
  obtain ⟨_, first, _, second, -, _, third, _, fourth, _, fifth, -, -, rfl⟩ := read
  obtain ⟨endpointed, short⟩ := pathComponent_some third
  obtain ⟨clustered, middle⟩ := pathComponent_some fourth
  obtain ⟨membered, long⟩ := pathComponent_some fifth
  refine ⟨(unsigned_some first).1, (unsigned_some second).1, ?_, ?_, ?_⟩
  · rw [endpointed, PathField.json, toUInt16_kept (by decide) short]
  · rw [clustered, PathField.json, toUInt32_kept (by decide) middle]
  · rw [membered, PathField.json, toUInt32_kept (by decide) long]

/-- The fields of an object that is read as a path. -/
theorem pathValues_image {members : List (Bytes × Json)} {wildcards : Bool} {path : PathSelector}
    (read : pathValues members wildcards = some path) (field : PathField) :
    members.lookup field.key = some (field.json path) := by
  simp only [pathValues, Option.bind_eq_bind, Option.bind_eq_some_iff] at read
  obtain ⟨_, first, _, second, _, third, _, fourth, _, fifth, read⟩ := read
  obtain ⟨rfl, rfl, rfl, rfl, rfl⟩ := selectorOf_image read
  cases field with
  | fabricId => exact first
  | nodeId => exact second
  | endpoint => exact third
  | cluster => exact fourth
  | member => exact fifth

/-- **A path is the image of the selector it is read as.** -/
theorem selector_image {value : Json} {wildcards : Bool} {path : PathSelector}
    (read : selector value wildcards = some path) :
    canonical value = canonical (selectorJson path) := by
  cases value with
  | object members =>
      rw [selector, Option.ite_none_right_eq_some] at read
      obtain ⟨exact, read⟩ := read
      have fields := pathValues_image read
      have counted : members.length =
          (PathField.all.filter fun field => (members.lookup field.key).isSome).length := by
        rw [exactKeys, Bool.and_eq_true, decide_eq_true_eq] at exact
        rw [exact.1, List.filter_eq_self.mpr fun field _ => by rw [fields field]; rfl]
        rfl
      rw [canonical_perm (counted_perm PathField.distinct counted)
        (fieldMembers_distinct PathField.distinct _), selectorJson,
        canonical_fields_iff PathField.distinct]
      intro field _
      rw [fields field]
  | _ => cases read

theorem selectors_image {wildcards : Bool} {items : List Json} {paths : List PathSelector}
    (read : selectors wildcards items = some paths) :
    canonicalItems items = canonicalItems (paths.map selectorJson) := by
  induction items generalizing paths with
  | nil =>
      cases read
      rfl
  | cons item rest ih =>
      simp only [selectors, Option.bind_eq_bind, Option.bind_eq_some_iff, Option.some.injEq] at read
      obtain ⟨first, one, others, more, rfl⟩ := read
      rw [List.map_cons, canonicalItems, canonicalItems, selector_image one, ih more]

end WotexMatter.Wire
