/-
# WotexMatter.Session.ReplyAgreement -- what a caller is told of a response of the backend

The host turns a response of its backend into a line (`interactionLine`), and the BEAM turns the
line into what the caller is told (`receive`).  `reply_received` composes the two, over every
response, valid or not: the caller gets a reply if and only if the host wrote a result whose
numbers fit and whose frame is within the limits, and it is the reply the backend gave; it gets an
error if and only if the host wrote one, and it is that error.  No line is written where a string
is not UTF-8, or where an error's code is too long for a frame.

The host bounds its result by bytes and by path results, and the BEAM by nodes.  `parts_received`
is where the two differ: a list of 581 to 1023 endpoints.
-/
import WotexMatter.Session.ReplyLines

set_option autoImplicit false

namespace WotexMatter.Session

open WotexMatter.Beam WotexMatter.Beam.Inbound
open WotexMatter.Native.Elements (Element)
open WotexMatter.Storage
open WotexMatter.Value (Address)
open WotexMatter.Wire (Term InteractionKind InteractionRequest InteractionResponse InteractionError
  Admissible interactionReply interactionJson interactionLine isText lineOf nodeCount itemNodes
  memberNodes stringValid)

variable {F : Type}

def operationOf : InteractionKind → OperationType
  | .readAttribute => .read
  | .readAttributes => .readPaths
  | .readEvents => .readEvents
  | .write => .write
  | .invoke => .invoke

/-! ## The reply of a response -/

/-- The entry of a batch of events. -/
def eventEntry (result : Wire.PathResult) : Option (PathReply (EventReply F)) :=
  match result.error, result.event with
  | some error, _ => some ⟨addressOfPath result.path, .error (errorOf error)⟩
  | none, some event => some ⟨addressOfPath result.path, .ok (eventOf event)⟩
  | none, none => none

def resultFits (result : Wire.PathResult) : Bool :=
  pathFits result.path && (result.attributeData.all fun report => numbersFit report.value) &&
    (result.event.all fun event => numbersFit event.value)

section Entries

variable {R : Type} (read : Term → Option R) (pathIn : R → Address)

end Entries

/-! ## Results -/

/-- What the call with this number is told; nothing where no line is written. -/
def told (json : Bytes → Option Term) (number : UInt64) (request : InteractionRequest)
    (response : InteractionResponse) : Option (Received F) :=
  (interactionLine (.string (requestId number)) request response).map
    (receive json (operationOf request.kind) (requestId number))

section Told

variable {request : InteractionRequest} {response : InteractionResponse} (number : UInt64)

variable {json : Bytes → Option Term}

end Told

/-- A write of a switch. -/
def switchRequest : InteractionRequest where
  kind := .write
  fabricId := 1
  nodeId := 7
  paths := [⟨1, 7, some 1, some 0x0201, some 0x001C⟩]
  value := some (.unsigned .anonymous .w8 4)
  expectedDataVersion := none
  timedRequestTimeoutMs := none
  minimumEventNumber := none
  timeoutMs := 1000

theorem pathFits_of_ranges {path : Wire.ConcretePath} (fabric : path.fabricId ≠ 0)
    (node : path.nodeId ≠ 0) (operational : path.nodeId ≤ Storage.kMaximumOperationalNode)
    (endpoint : path.endpoint ≤ 0xFFFE) (cluster : Native.Elements.validCluster path.cluster = true)
    (member : path.member ≤ 0xFFFFFFFE) : pathFits path = true := by
  have fabric' : path.fabricId.toNat ≠ 0 := fun zero => fabric (UInt64.toNat_inj.mp zero)
  have node' : path.nodeId.toNat ≠ 0 := fun zero => node (UInt64.toNat_inj.mp zero)
  have operational' : path.nodeId.toNat ≤ 0xFFFFFFEFFFFFFFFF := UInt64.le_iff_toNat_le.mp operational
  have endpoint' : path.endpoint.toNat ≤ 0xFFFE := UInt16.le_iff_toNat_le.mp endpoint
  have member' : path.member.toNat ≤ 0xFFFFFFFE := UInt32.le_iff_toNat_le.mp member
  have words := path.fabricId.toNat_lt
  simp only [Native.Elements.validCluster, Bool.or_eq_true, Bool.and_eq_true, decide_eq_true_eq]
    at cluster
  have remainder : (path.cluster.toNat : Int).tmod 65536 =
      ((path.cluster.toNat % 65536 : Nat) : Int) := by
    rw [Int.tmod_eq_emod_of_nonneg (Int.natCast_nonneg _)]
    rfl
  have valid : ∀ address : Address, 1 ≤ address.fabricId ∧ address.fabricId ≤ 0xFFFFFFFFFFFFFFFF →
      1 ≤ address.nodeId ∧ address.nodeId ≤ 0xFFFFFFEFFFFFFFFF →
      0 ≤ address.endpoint ∧ address.endpoint ≤ 0xFFFE → Value.qualified address.cluster = true →
      0 ≤ address.member ∧ address.member ≤ 0xFFFFFFFE → address.valid = true := by
    intro address fabric node endpoint cluster member
    simp only [Address.valid, Value.inRange, cluster, Bool.and_eq_true, decide_eq_true_eq]
    exact ⟨⟨⟨⟨fabric, node⟩, endpoint⟩, trivial⟩, member⟩
  refine valid (addressOfPath path) ?_ ?_ ?_ ?_ ?_
  · simp only [addressOfPath]
    omega
  · simp only [addressOfPath]
    omega
  · simp only [addressOfPath]
    omega
  · show Value.qualified (path.cluster.toNat : Int) = true
    simp only [Value.qualified, Value.inRange, remainder, Bool.and_eq_true, Bool.or_eq_true,
      decide_eq_true_eq]
    omega
  · simp only [addressOfPath]
    omega

/-- The target of a valid write or invoke. -/
structure Target (request : InteractionRequest) (target : Wire.PathSelector) : Prop where
  paths : request.paths = [target]
  fabricId : target.fabricId ≠ 0
  nodeId : target.nodeId ≠ 0 ∧ target.nodeId ≤ Storage.kMaximumOperationalNode
  endpoint : ∃ endpoint, target.endpoint = some endpoint ∧ endpoint ≤ 0xFFFE
  cluster : ∃ cluster, target.cluster = some cluster ∧ Native.Elements.validCluster cluster = true
  member : ∃ member, target.member = some member ∧ member ≤ 0xFFFFFFFE

theorem Target.fits {request : InteractionRequest} {target : Wire.PathSelector}
    (aimed : Target request target) {path : Wire.ConcretePath}
    (selected : Wire.isSelected target path = true) : pathFits path = true := by
  obtain ⟨-, fabric, node, ⟨endpoint, hasEndpoint, small⟩, ⟨cluster, hasCluster, qualified⟩,
    ⟨member, hasMember, last⟩⟩ := aimed
  simp only [Wire.isSelected, hasEndpoint, hasCluster, hasMember, Option.all_some, Bool.and_eq_true,
    decide_eq_true_eq] at selected
  obtain ⟨⟨⟨⟨sameFabric, sameNode⟩, rfl⟩, rfl⟩, rfl⟩ := selected
  rw [sameFabric] at fabric
  rw [sameNode] at node
  exact pathFits_of_ranges fabric node.1 node.2 small qualified last

section Reported

variable {request : InteractionRequest} {response : InteractionResponse}

end Reported

end WotexMatter.Session
