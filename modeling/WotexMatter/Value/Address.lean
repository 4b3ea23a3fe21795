/-
# WotexMatter.Value.Address -- concrete paths and read selectors

`Wotex.Matter.Address` (`address.ex`) and `Wotex.Matter.ReadPath` (`read_path.ex`).  A term given
for a path is an `Option Address`: five integers under the five keys, or `none`, which is any term
of another shape.  A selector is `none` for `:any`.
-/
import Mathlib.Data.Prod.Lex

set_option autoImplicit false

namespace WotexMatter.Value

structure Address where
  fabricId : Int
  nodeId : Int
  endpoint : Int
  cluster : Int
  member : Int
  deriving DecidableEq

/-- `integer?`. -/
def inRange (value low high : Int) : Bool := low ≤ value && value ≤ high

/-- `qualified?`. -/
def qualified (value : Int) : Bool :=
  inRange value 0 0x7FFF ||
    (inRange value 0x0001FC00 0xFFF4FFFE && inRange (value.tmod 65536) 0xFC00 0xFFFE)

def Address.valid (address : Address) : Bool :=
  inRange address.fabricId 1 0xFFFFFFFFFFFFFFFF && inRange address.nodeId 1 0xFFFFFFEFFFFFFFFF &&
    inRange address.endpoint 0 0xFFFE && qualified address.cluster &&
    inRange address.member 0 0xFFFFFFFE

/-- `Address.new`; `none` is `:invalid_path`. -/
def Address.new : Option Address → Option Address
  | some address => if address.valid then some address else none
  | none => none

theorem Address.new_some {path : Option Address} {address : Address}
    (admitted : Address.new path = some address) :
    path = some address ∧ address.valid = true := by
  cases path with
  | none => cases admitted
  | some given =>
      rw [Address.new, Option.ite_none_right_eq_some] at admitted
      obtain ⟨valid, same⟩ := admitted
      cases same
      exact ⟨rfl, valid⟩

/-- `path_key`, as Elixir compares tuples. -/
def Address.key (path : Address) : Int ×ₗ Int ×ₗ Int ×ₗ Int ×ₗ Int :=
  toLex (path.fabricId, toLex (path.nodeId, toLex (path.endpoint, toLex (path.cluster, path.member))))

/-! ## Read paths -/

structure ReadPath where
  fabricId : Int
  nodeId : Int
  endpoint : Option Int
  cluster : Option Int
  member : Option Int
  deriving DecidableEq

/-- `selected?`. -/
def selected (selector : Option Int) (actual : Int) : Bool :=
  match selector with
  | none => true
  | some expected => expected = actual

namespace ReadPath

/-- `matches?`. -/
def selects (path : ReadPath) (address : Address) : Bool :=
  path.fabricId = address.fabricId && path.nodeId = address.nodeId &&
    selected path.endpoint address.endpoint && selected path.cluster address.cluster &&
    selected path.member address.member

/-- `concrete?`. -/
def concrete (path : ReadPath) : Bool :=
  path.endpoint ≠ none && path.cluster ≠ none && path.member ≠ none

end ReadPath

/-- The selector of one address. -/
def Address.selector (address : Address) : ReadPath where
  fabricId := address.fabricId
  nodeId := address.nodeId
  endpoint := some address.endpoint
  cluster := some address.cluster
  member := some address.member

theorem ReadPath.concrete_selects {path : ReadPath} {address : Address} :
    (path.concrete && path.selects address) = true ↔ path = address.selector := by
  obtain ⟨fabric, node, endpoint, cluster, member⟩ := path
  rw [Bool.and_eq_true]
  constructor
  · rintro ⟨concrete, selects⟩
    cases endpoint <;> cases cluster <;> cases member <;>
      simp_all [ReadPath.concrete, ReadPath.selects, selected, Address.selector]
  · intro same
    rw [same]
    simp [ReadPath.concrete, ReadPath.selects, selected, Address.selector]

end WotexMatter.Value
