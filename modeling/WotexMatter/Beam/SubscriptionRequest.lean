/-
# WotexMatter.Beam.SubscriptionRequest -- a subscription as the BEAM admits it

`Request.subscription` (`native/request.ex`) and the parameters `Connection.subscribe`
(`native/connection.ex`) builds of what it returns.  A term under one of the six keys is `none` where
it is not of the type asked for.
-/
import WotexMatter.Value.Descriptor
import WotexMatter.Wire.RequestEnvelope

set_option autoImplicit false

namespace WotexMatter.Beam.Request

open WotexMatter.Storage WotexMatter.Wire
open WotexMatter.Value (Address Descriptor MemberKind inRange)

/-- A map with the six keys of a subscription request. -/
structure SubscriptionTerm where
  kind : Option MemberKind
  paths : Option (List (Option Address))
  minIntervalS : Option Int
  maxIntervalS : Option Int
  resubscribe : Option Bool
  queueLimit : Option Int

/-- What `Request.subscription` returns. -/
structure Subscription where
  kind : MemberKind
  paths : List Address
  minIntervalS : Int
  maxIntervalS : Int
  resubscribe : Bool
  queueLimit : Int
  deriving DecidableEq

/-- `validate_subscription_paths`. -/
def validateSubscriptionPaths (kind : MemberKind) (fabricId : Int) :
    List (Option Address) → Option (List Address)
  | [] => some []
  | path :: rest => do
      let address ← Address.new path
      if address.fabricId = fabricId then
        let _ ← Descriptor.lookup kind (some address) .subscribe
        let others ← validateSubscriptionPaths kind fabricId rest
        some (address :: others)
      else none

/-- `Request.subscription`; `none` is a request that is no map or has other keys, and every
`{:error, _}`. -/
def subscription (request : Option SubscriptionTerm) (fabricId : Int) : Option Subscription := do
  let request ← request
  let kind ← request.kind
  let paths ← request.paths
  let minIntervalS ← request.minIntervalS
  let maxIntervalS ← request.maxIntervalS
  let resubscribe ← request.resubscribe
  let queueLimit ← request.queueLimit
  if (kind = .attribute ∨ kind = .event) ∧ inRange paths.length 1 64 ∧
      inRange minIntervalS 0 65535 ∧ inRange maxIntervalS 1 65535 ∧
      minIntervalS ≤ maxIntervalS ∧ inRange queueLimit 1 10000 then
    let addresses ← validateSubscriptionPaths kind fabricId paths
    -- `length(paths) == length(Enum.uniq(paths))`
    if addresses.Nodup then
      some { kind, paths := addresses, minIntervalS, maxIntervalS, resubscribe, queueLimit }
    else none
  else none

/-! ## Parameters -/

/-- `Map.from_struct` of an address, with text for keys. -/
def addressJson (address : Address) : Json :=
  .object
    [(ascii "cluster", numberDocument address.cluster),
      (ascii "endpoint", numberDocument address.endpoint),
      (ascii "fabric_id", numberDocument address.fabricId),
      (ascii "member", numberDocument address.member),
      (ascii "node_id", numberDocument address.nodeId)]

def kindText : MemberKind → Bytes
  | .attribute => ascii "attribute"
  | .command => ascii "command"
  | .event => ascii "event"

/-- The parameters of the request `subscribe`, as the host reads them. -/
def Subscription.parameters (subscription : Subscription) (nativeId : Bytes) :
    List (Bytes × Json) :=
  [(ascii "kind", .string (kindText subscription.kind)),
    (ascii "max_interval_s", numberDocument subscription.maxIntervalS),
    (ascii "min_interval_s", numberDocument subscription.minIntervalS),
    (ascii "paths", .array (subscription.paths.map addressJson)),
    (ascii "queue_limit", numberDocument subscription.queueLimit),
    (ascii "resubscribe", .boolean subscription.resubscribe),
    (ascii "subscription_id", .string nativeId)]

/-! ## What is admitted -/

/-- A path the BEAM admits to a subscription. -/
structure AdmittedPath (kind : MemberKind) (fabricId : Int) (address : Address) : Prop where
  valid : address.valid = true
  fabric : address.fabricId = fabricId
  recipe : ∃ descriptor ∈ Descriptor.entries, descriptor.kind = kind ∧
    descriptor.cluster = address.cluster ∧ descriptor.member = address.member ∧
    .subscribe ∈ descriptor.operations

theorem validateSubscriptionPaths_some {kind : MemberKind} {fabricId : Int}
    {paths : List (Option Address)} {addresses : List Address}
    (admitted : validateSubscriptionPaths kind fabricId paths = some addresses) :
    paths = addresses.map some ∧ ∀ address ∈ addresses, AdmittedPath kind fabricId address := by
  induction paths generalizing addresses with
  | nil =>
      cases admitted
      exact ⟨rfl, fun _ listed => nomatch listed⟩
  | cons path rest ih =>
      simp only [validateSubscriptionPaths, Option.bind_eq_bind, Option.bind_eq_some_iff,
        Option.ite_none_right_eq_some, Option.some.injEq] at admitted
      obtain ⟨address, new, fabric, descriptor, found, others, more, rfl⟩ := admitted
      obtain ⟨rfl, valid⟩ := Address.new_some new
      obtain ⟨rfl, behind⟩ := ih more
      refine ⟨rfl, ?_⟩
      rw [List.forall_mem_cons]
      refine ⟨⟨valid, fabric, ?_⟩, behind⟩
      simp only [Descriptor.lookup, Option.bind_eq_bind, Option.bind_eq_some_iff,
        Option.ite_none_right_eq_some, Option.some.injEq] at found
      obtain ⟨_, again, entry, hit, allowed, -⟩ := found
      obtain ⟨same, -⟩ := Address.new_some again
      cases same
      have mine := List.find?_some hit
      simp only [decide_eq_true_eq] at mine
      exact ⟨entry, List.mem_of_find?_eq_some hit, mine.1, mine.2.1, mine.2.2, allowed⟩

/-- What `Request.subscription` has checked. -/
structure AdmittedSubscription (term : SubscriptionTerm) (fabricId : Int)
    (subscription : Subscription) : Prop where
  given : term.paths = some (subscription.paths.map some)
  kind : subscription.kind = .attribute ∨ subscription.kind = .event
  count : 1 ≤ subscription.paths.length ∧ subscription.paths.length ≤ 64
  minimum : 0 ≤ subscription.minIntervalS ∧ subscription.minIntervalS ≤ subscription.maxIntervalS
  maximum : 1 ≤ subscription.maxIntervalS ∧ subscription.maxIntervalS ≤ 65535
  queueLimit : 1 ≤ subscription.queueLimit ∧ subscription.queueLimit ≤ 10000
  paths : ∀ address ∈ subscription.paths, AdmittedPath subscription.kind fabricId address
  distinct : subscription.paths.Nodup

theorem subscription_some {term : SubscriptionTerm} {fabricId : Int} {admitted : Subscription}
    (accepted : subscription (some term) fabricId = some admitted) :
    AdmittedSubscription term fabricId admitted := by
  simp only [subscription, Option.bind_eq_bind, Option.bind_some, Option.bind_eq_some_iff,
    Option.ite_none_right_eq_some, Option.some.injEq, inRange, Bool.and_eq_true,
    decide_eq_true_eq] at accepted
  obtain ⟨kind, -, paths, given, minimum, -, maximum, -, resubscribe, -, queueLimit, -,
    ⟨kinds, count, least, most, ordered, queue⟩, addresses, validated, distinct, rfl⟩ := accepted
  obtain ⟨rfl, each⟩ := validateSubscriptionPaths_some validated
  rw [List.length_map] at count
  exact
    { given
      kind := kinds
      count := by
        dsimp only
        omega
      minimum := ⟨least.1, ordered⟩
      maximum := most
      queueLimit := queue
      paths := each
      distinct }

end WotexMatter.Beam.Request
