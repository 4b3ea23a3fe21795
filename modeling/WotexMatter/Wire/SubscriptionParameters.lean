/-
# WotexMatter.Wire.SubscriptionParameters -- the parameters of a subscription

`SubscriptionParameters` (`protocol.cpp`), and `AdmittedRecipe` and `valid_subscription_request`
(`subscription.cpp`).  All paths are held against the fabric and the node of the first one.
-/
import WotexMatter.Native.RequestMachine
import WotexMatter.Wire.Selector

set_option autoImplicit false

namespace WotexMatter.Wire

open WotexMatter.Native.RequestMachine.Host (canonicalGeneration)
open WotexMatter.Storage

inductive SubscriptionKind where
  | attribute
  | event
  deriving DecidableEq

structure SubscriptionRequest where
  subscriptionId : Bytes
  kind : SubscriptionKind
  fabricId : UInt64
  nodeId : UInt64
  paths : List PathSelector
  minIntervalS : UInt16
  maxIntervalS : UInt16
  resubscribe : Bool
  queueLimit : UInt16
  timeoutMs : UInt32

/-- `AdmittedRecipe`. -/
def admittedRecipe (kind : SubscriptionKind) (cluster member : UInt32) : Bool :=
  match kind with
  | .event => cluster = 0x0039 && member = 0x0003
  | .attribute =>
      (cluster = 0x0201 && member = 0x0000) || (cluster = 0x0006 && member = 0x0000) ||
        (cluster = 0x0039 && member = 0x0011) || (cluster = 0x0402 && member = 0x0000)

/-- The loop over the paths; `seen` is the set `paths`. -/
def admittedPaths (request : SubscriptionRequest) :
    List (UInt16 × UInt32 × UInt32) → List PathSelector → Bool
  | _, [] => true
  | seen, path :: rest =>
      match path.endpoint, path.cluster, path.member with
      | some endpoint, some cluster, some member =>
          path.fabricId = request.fabricId && path.nodeId = request.nodeId &&
            admittedRecipe request.kind cluster member && (endpoint, cluster, member) ∉ seen &&
            admittedPaths request ((endpoint, cluster, member) :: seen) rest
      | _, _, _ => false

/-- The bytes `0` to `9` and `a` to `f`. -/
def lowerHex (byte : UInt8) : Bool := (48 ≤ byte && byte ≤ 57) || (97 ≤ byte && byte ≤ 102)

/-- `valid_subscription_request`. -/
def validSubscriptionRequest (request : SubscriptionRequest) : Bool :=
  if request.subscriptionId.length ≠ 32 ∨ request.fabricId = 0 ∨ request.nodeId = 0 ∨
      request.paths = [] ∨ 64 < request.paths.length ∨
      request.maxIntervalS < request.minIntervalS ∨ request.maxIntervalS = 0 ∨
      request.queueLimit = 0 ∨ 10000 < request.queueLimit ∨ request.timeoutMs = 0 ∨
      60000 < request.timeoutMs then false
  else if ¬request.subscriptionId.all lowerHex then false
  else admittedPaths request [] request.paths

def subscriptionKind (kind : Bytes) : Option SubscriptionKind :=
  if kind = ascii "attribute" then some .attribute
  else if kind = ascii "event" then some .event
  else none

def subscriptionKeys : List Bytes :=
  [ascii "subscription_id", ascii "kind", ascii "paths", ascii "min_interval_s",
    ascii "max_interval_s", ascii "resubscribe", ascii "queue_limit"]

/-- `SubscriptionParameters` of the values under the seven keys. -/
def subscriptionValues (subscriptionId : Json) (kind : Bytes) (paths : List Json)
    (minimum maximum : Json) (resubscribe : Bool) (queueLimit : Json) (timeoutMs : UInt32) :
    Option SubscriptionRequest := do
  let subscriptionId ← canonicalGeneration subscriptionId
  if paths = [] ∨ 64 < paths.length then none
  else
    let kind ← subscriptionKind kind
    let minimum ← unsigned minimum 65535
    let maximum ← unsigned maximum 65535
    let queueLimit ← unsigned queueLimit 10000
    if maximum = 0 ∨ queueLimit = 0 then none
    else
      let paths ← selectors false paths
      let front ← paths.head?
      let request : SubscriptionRequest :=
        { subscriptionId, kind, fabricId := front.fabricId, nodeId := front.nodeId, paths
          minIntervalS := minimum.toUInt16, maxIntervalS := maximum.toUInt16, resubscribe
          queueLimit := queueLimit.toUInt16, timeoutMs }
      if validSubscriptionRequest request then some request else none

/-- `SubscriptionParameters`. -/
def subscriptionParameters (document : Json) (timeoutMs : UInt32) : Option SubscriptionRequest :=
  match document with
  | .object parameters =>
      if exactKeys parameters subscriptionKeys then
        match parameters.lookup (ascii "subscription_id"), parameters.lookup (ascii "kind"),
          parameters.lookup (ascii "paths"), parameters.lookup (ascii "min_interval_s"),
          parameters.lookup (ascii "max_interval_s"), parameters.lookup (ascii "resubscribe"),
          parameters.lookup (ascii "queue_limit") with
        | some subscriptionId, some (.string kind), some (.array paths), some minimum,
            some maximum, some (.boolean resubscribe), some queueLimit =>
            subscriptionValues subscriptionId kind paths minimum maximum resubscribe queueLimit
              timeoutMs
        | _, _, _, _, _, _, _ => none
      else none
  | _ => none

end WotexMatter.Wire
