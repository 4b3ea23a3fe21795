/-
# WotexMatter.Session.SubscriptionAgreement -- two validators of one subscription

The BEAM asks of every path of a subscription that it is on the fabric of the session, and acquires
the stream's owner and monitor for what it admits.  The host asks of every path that it is on the
fabric and the node of the first one.  Everything else they check alike, so a subscription that the
BEAM admits is read by the host as what it was, if and only if its paths are on one node
(`subscription_agrees`).
-/
import WotexMatter.Beam.SubscriptionRequest
import WotexMatter.Session.SchemaAgreement
import WotexMatter.Wire.SubscriptionParameters

set_option autoImplicit false

namespace WotexMatter.Session

open WotexMatter.Storage WotexMatter.Wire
open WotexMatter.Beam.Request
open WotexMatter.Value (Address MemberKind inRange)

/-! ## One subscription in both languages -/

structure SamePath (address : Address) (path : Wire.PathSelector) : Prop where
  fabricId : (path.fabricId.toNat : Int) = address.fabricId
  nodeId : (path.nodeId.toNat : Int) = address.nodeId
  endpoint : ∃ endpoint, path.endpoint = some endpoint ∧ (endpoint.toNat : Int) = address.endpoint
  cluster : ∃ cluster, path.cluster = some cluster ∧ (cluster.toNat : Int) = address.cluster
  member : ∃ member, path.member = some member ∧ (member.toNat : Int) = address.member

inductive SameSubscriptionKind : MemberKind → Wire.SubscriptionKind → Prop where
  | attribute : SameSubscriptionKind .attribute .attribute
  | event : SameSubscriptionKind .event .event

/-- What the host has read of the parameters is what the BEAM has admitted. -/
structure SameSubscription (subscription : Subscription) (nativeId : Bytes)
    (native : Wire.SubscriptionRequest) : Prop where
  subscriptionId : native.subscriptionId = nativeId
  kind : SameSubscriptionKind subscription.kind native.kind
  paths : List.Forall₂ SamePath subscription.paths native.paths
  minIntervalS : (native.minIntervalS.toNat : Int) = subscription.minIntervalS
  maxIntervalS : (native.maxIntervalS.toNat : Int) = subscription.maxIntervalS
  resubscribe : native.resubscribe = subscription.resubscribe
  queueLimit : (native.queueLimit.toNat : Int) = subscription.queueLimit

/-- The paths of a request are all on one node. -/
def OneNode (term : SubscriptionTerm) : Prop :=
  ∀ paths, term.paths = some paths → ∀ path ∈ paths, ∀ other ∈ paths,
    path.map Address.nodeId = other.map Address.nodeId

/-! ## Numbers -/

theorem toUInt64_toNat {value : Int} (low : 0 ≤ value) (high : value ≤ 0xFFFFFFFFFFFFFFFF) :
    (value.toNat.toUInt64.toNat : Int) = value := by
  have kept : value.toNat.toUInt64.toNat = value.toNat :=
    UInt64.toNat_ofNat_of_lt' (show value.toNat < 0x10000000000000000 by omega)
  omega

theorem toUInt32_toNat {value : Int} (low : 0 ≤ value) (high : value ≤ 0xFFFFFFFF) :
    (value.toNat.toUInt64.toUInt32.toNat : Int) = value := by
  have kept := toUInt64_toNat low (by omega)
  rw [UInt64.toNat_toUInt32]
  omega

theorem toUInt16_toNat {value : Int} (low : 0 ≤ value) (high : value ≤ 0xFFFF) :
    (value.toNat.toUInt64.toUInt16.toNat : Int) = value := by
  have kept := toUInt64_toNat low (by omega)
  rw [UInt64.toNat_toUInt16]
  omega

theorem unsigned_numberDocument {value : Int} {maximum : UInt64} (low : 0 ≤ value)
    (high : value ≤ maximum.toNat) :
    unsigned (numberDocument value) maximum = some value.toNat.toUInt64 := by
  have top : maximum.toNat < 0x10000000000000000 := maximum.toNat_lt
  have kept := toUInt64_toNat low (by omega)
  rw [numberDocument, if_pos low, unsigned, if_pos]
  rw [UInt64.le_iff_toNat_le]
  omega

theorem pathComponent_numberDocument {value : Int} {maximum : UInt64} (low : 0 ≤ value)
    (high : value ≤ maximum.toNat) :
    pathComponent (numberDocument value) maximum = some (some value.toNat.toUInt64) := by
  have read := unsigned_numberDocument low high
  rw [numberDocument, if_pos low] at read ⊢
  rw [Wire.pathComponent, read]
  · rfl
  · exact fun _ => Json.noConfusion

/-! ## Paths -/

/-- The path the host reads of an address. -/
def pathOf (address : Address) : Wire.PathSelector where
  fabricId := address.fabricId.toNat.toUInt64
  nodeId := address.nodeId.toNat.toUInt64
  endpoint := some address.endpoint.toNat.toUInt64.toUInt16
  cluster := some address.cluster.toNat.toUInt64.toUInt32
  member := some address.member.toNat.toUInt64.toUInt32

/-- The ranges of a valid address. -/
structure Ranges (address : Address) : Prop where
  fabricId : 1 ≤ address.fabricId ∧ address.fabricId ≤ 0xFFFFFFFFFFFFFFFF
  nodeId : 1 ≤ address.nodeId ∧ address.nodeId ≤ 0xFFFFFFEFFFFFFFFF
  endpoint : 0 ≤ address.endpoint ∧ address.endpoint ≤ 0xFFFE
  cluster : 0 ≤ address.cluster ∧ address.cluster ≤ 0xFFF4FFFE
  qualified : Value.qualified address.cluster = true
  member : 0 ≤ address.member ∧ address.member ≤ 0xFFFFFFFE

theorem ranges_of_valid {address : Address} (valid : address.valid = true) : Ranges address := by
  simp only [Address.valid, inRange, Bool.and_eq_true, decide_eq_true_eq] at valid
  obtain ⟨⟨⟨⟨fabric, node⟩, endpoint⟩, qualified⟩, member⟩ := valid
  refine ⟨fabric, node, endpoint, ?_, qualified, member⟩
  simp only [Value.qualified, inRange, Bool.or_eq_true, Bool.and_eq_true, decide_eq_true_eq]
    at qualified
  omega

theorem samePath_pathOf {address : Address} (ranges : Ranges address) :
    SamePath address (pathOf address) := by
  obtain ⟨fabric, node, endpoint, cluster, -, member⟩ := ranges
  exact
    { fabricId := toUInt64_toNat (by omega) fabric.2
      nodeId := toUInt64_toNat (by omega) (by omega)
      endpoint := ⟨_, rfl, toUInt16_toNat endpoint.1 (by omega)⟩
      cluster := ⟨_, rfl, toUInt32_toNat cluster.1 (by omega)⟩
      member := ⟨_, rfl, toUInt32_toNat member.1 (by omega)⟩ }

/-- A number that is not zero as an integer is not zero as a word. -/
theorem toUInt64_ne_zero {value : Int} (positive : 1 ≤ value) (high : value ≤ 0xFFFFFFFFFFFFFFFF) :
    value.toNat.toUInt64 ≠ 0 := by
  intro zero
  have kept := toUInt64_toNat (by omega) high
  rw [zero] at kept
  have none : ((0 : UInt64).toNat : Int) = 0 := rfl
  omega

theorem selector_addressJson {address : Address} (ranges : Ranges address) :
    selector (addressJson address) false = some (pathOf address) := by
  obtain ⟨fabric, node, endpoint, cluster, qualified, member⟩ := ranges
  have keys : exactKeys
      [(ascii "cluster", numberDocument address.cluster),
        (ascii "endpoint", numberDocument address.endpoint),
        (ascii "fabric_id", numberDocument address.fabricId),
        (ascii "member", numberDocument address.member),
        (ascii "node_id", numberDocument address.nodeId)] pathKeys = true := rfl
  have kept := toUInt64_toNat cluster.1 (by omega)
  have admitted : Native.Elements.validCluster address.cluster.toNat.toUInt64.toUInt32 = true := by
    rw [← cluster_agrees (by omega), Value.Descriptor.validCluster, kept]
    exact qualified
  rw [addressJson, selector, if_pos keys]
  show selectorOf (numberDocument address.fabricId) (numberDocument address.nodeId)
    (numberDocument address.endpoint) (numberDocument address.cluster)
    (numberDocument address.member) false = _
  have first : unsigned (numberDocument address.fabricId) 0xFFFFFFFFFFFFFFFF = _ :=
    unsigned_numberDocument (by omega) fabric.2
  have second : unsigned (numberDocument address.nodeId) kMaximumOperationalNode = _ :=
    unsigned_numberDocument (by omega) node.2
  have third : pathComponent (numberDocument address.endpoint) 0xFFFE = _ :=
    pathComponent_numberDocument endpoint.1 endpoint.2
  have fourth : pathComponent (numberDocument address.cluster) 0xFFF4FFFE = _ :=
    pathComponent_numberDocument cluster.1 cluster.2
  have fifth : pathComponent (numberDocument address.member) 0xFFFFFFFE = _ :=
    pathComponent_numberDocument member.1 member.2
  simp only [selectorOf, first, second, third, fourth, fifth, Option.bind_eq_bind, Option.bind_some]
  rw [if_neg (not_or.mpr ⟨toUInt64_ne_zero fabric.1 fabric.2,
      toUInt64_ne_zero node.1 (by omega)⟩),
    if_neg (by simp), if_neg (by rw [Option.any_some, admitted]; decide)]
  rfl

theorem selectors_addressJson {addresses : List Address}
    (ranges : ∀ address ∈ addresses, Ranges address) :
    selectors false (addresses.map addressJson) = some (addresses.map pathOf) := by
  induction addresses with
  | nil => rfl
  | cons address rest ih =>
      rw [List.forall_mem_cons] at ranges
      rw [List.map_cons, selectors, selector_addressJson ranges.1, ih ranges.2]
      rfl

/-! ## Recipes -/

/-- The host's name of a kind. -/
def kindOf : MemberKind → Wire.SubscriptionKind
  | .event => .event
  | _ => .attribute

/-- The subscriptions of the BEAM's table are the recipes the host admits. -/
theorem recipes_agree : ∀ descriptor ∈ Value.Descriptor.entries,
    .subscribe ∈ descriptor.operations →
      admittedRecipe (kindOf descriptor.kind) descriptor.cluster.toNat.toUInt64.toUInt32
        descriptor.member.toNat.toUInt64.toUInt32 = true := by decide

/-! ## Paths of one node -/

/-- What the set of the host keeps of a path. -/
def place (address : Address) : UInt16 × UInt32 × UInt32 :=
  (address.endpoint.toNat.toUInt64.toUInt16, address.cluster.toNat.toUInt64.toUInt32,
    address.member.toNat.toUInt64.toUInt32)

theorem place_injective {address other : Address} (first : Ranges address) (second : Ranges other)
    (fabric : address.fabricId = other.fabricId) (node : address.nodeId = other.nodeId)
    (same : place address = place other) : address = other := by
  simp only [place, Prod.mk.injEq] at same
  have endpoint : address.endpoint = other.endpoint := by
    rw [← toUInt16_toNat first.endpoint.1 (by have := first.endpoint.2; omega), same.1,
      toUInt16_toNat second.endpoint.1 (by have := second.endpoint.2; omega)]
  have cluster : address.cluster = other.cluster := by
    rw [← toUInt32_toNat first.cluster.1 (by have := first.cluster.2; omega), same.2.1,
      toUInt32_toNat second.cluster.1 (by have := second.cluster.2; omega)]
  have member : address.member = other.member := by
    rw [← toUInt32_toNat first.member.1 (by have := first.member.2; omega), same.2.2,
      toUInt32_toNat second.member.1 (by have := second.member.2; omega)]
  cases address
  cases other
  congr

theorem admittedPaths_iff {request : SubscriptionRequest} {addresses : List Address}
    {seen : List (UInt16 × UInt32 × UInt32)} :
    admittedPaths request seen (addresses.map pathOf) = true ↔
      (∀ address ∈ addresses, (pathOf address).fabricId = request.fabricId ∧
        (pathOf address).nodeId = request.nodeId ∧
        admittedRecipe request.kind address.cluster.toNat.toUInt64.toUInt32
          address.member.toNat.toUInt64.toUInt32 = true) ∧
      (addresses.map place).Nodup ∧ ∀ address ∈ addresses, place address ∉ seen := by
  induction addresses generalizing seen with
  | nil => simp [admittedPaths]
  | cons address rest ih =>
      rw [List.map_cons, admittedPaths]
      show (decide ((pathOf address).fabricId = request.fabricId) &&
        decide ((pathOf address).nodeId = request.nodeId) &&
        admittedRecipe request.kind address.cluster.toNat.toUInt64.toUInt32
          address.member.toNat.toUInt64.toUInt32 && decide (place address ∉ seen) &&
        admittedPaths request (place address :: seen) (rest.map pathOf)) = true ↔ _
      rw [List.map_cons, List.nodup_cons, List.forall_mem_cons, List.forall_mem_cons]
      simp only [Bool.and_eq_true, decide_eq_true_eq, ih, List.mem_cons, not_or]
      constructor
      · rintro ⟨⟨⟨⟨fabric, node⟩, recipe⟩, unseen⟩, others, apart, fresh⟩
        refine ⟨⟨⟨fabric, node, recipe⟩, others⟩, ⟨?_, apart⟩, unseen,
          fun other listed => (fresh other listed).2⟩
        intro listed
        obtain ⟨other, known, same⟩ := List.mem_map.mp listed
        exact (fresh other known).1 same
      · rintro ⟨⟨⟨fabric, node, recipe⟩, others⟩, ⟨alone, apart⟩, unseen, fresh⟩
        refine ⟨⟨⟨⟨fabric, node⟩, recipe⟩, unseen⟩, others, apart, fun other listed =>
          ⟨fun same => alone ?_, fresh other listed⟩⟩
        rw [← same]
        exact List.mem_map_of_mem listed

/-! ## Subscriptions -/

/-- The request the host builds of the parameters. -/
def requestOf (subscription : Subscription) (front : Address) (nativeId : Bytes)
    (timeoutMs : UInt32) : Wire.SubscriptionRequest where
  subscriptionId := nativeId
  kind := kindOf subscription.kind
  fabricId := (pathOf front).fabricId
  nodeId := (pathOf front).nodeId
  paths := subscription.paths.map pathOf
  minIntervalS := subscription.minIntervalS.toNat.toUInt64.toUInt16
  maxIntervalS := subscription.maxIntervalS.toNat.toUInt64.toUInt16
  resubscribe := subscription.resubscribe
  queueLimit := subscription.queueLimit.toNat.toUInt64.toUInt16
  timeoutMs := timeoutMs

/-- A subscription id: 32 hexadecimal digits in lower case. -/
structure SubscriptionId (nativeId : Bytes) : Prop where
  long : nativeId.length = 32
  digits : ∀ byte ∈ nativeId, lowerHex byte = true

theorem canonicalGeneration_id {nativeId : Bytes} (identity : SubscriptionId nativeId) :
    Native.RequestMachine.Host.canonicalGeneration (.string nativeId) = some nativeId := by
  rw [Native.RequestMachine.Host.canonicalGeneration, if_pos]
  refine ⟨identity.long, ?_⟩
  rw [List.all_eq_true]
  intro byte listed
  have digit := identity.digits byte listed
  exact digit

theorem AdmittedSubscription.ranges {term : SubscriptionTerm} {fabricId : Int}
    {subscription : Subscription} (admitted : AdmittedSubscription term fabricId subscription) :
    ∀ address ∈ subscription.paths, Ranges address :=
  fun address listed => ranges_of_valid (admitted.paths address listed).valid

theorem subscriptionKind_kindText {kind : MemberKind} (known : kind = .attribute ∨ kind = .event) :
    subscriptionKind (kindText kind) = some (kindOf kind) := by
  rcases known with rfl | rfl <;> decide

/-- The host reads admitted parameters up to the check of the whole request. -/
theorem subscriptionParameters_eq {term : SubscriptionTerm} {fabricId : Int}
    {subscription : Subscription} (admitted : AdmittedSubscription term fabricId subscription)
    {front : Address} {rest : List Address} (head : subscription.paths = front :: rest)
    {nativeId : Bytes} (identity : SubscriptionId nativeId) (timeoutMs : UInt32) :
    subscriptionParameters (.object (subscription.parameters nativeId)) timeoutMs =
      if validSubscriptionRequest (requestOf subscription front nativeId timeoutMs) then
        some (requestOf subscription front nativeId timeoutMs)
      else none := by
  have keys : exactKeys (subscription.parameters nativeId) subscriptionKeys = true := rfl
  have minimum : unsigned (numberDocument subscription.minIntervalS) 65535 = _ :=
    unsigned_numberDocument admitted.minimum.1 (admitted.minimum.2.trans admitted.maximum.2)
  have maximum : unsigned (numberDocument subscription.maxIntervalS) 65535 = _ :=
    unsigned_numberDocument (by have := admitted.maximum; omega) admitted.maximum.2
  have queueLimit : unsigned (numberDocument subscription.queueLimit) 10000 = _ :=
    unsigned_numberDocument (by have := admitted.queueLimit; omega) admitted.queueLimit.2
  have some_paths : subscription.paths.map addressJson ≠ [] := by
    rw [head]
    exact List.cons_ne_nil _ _
  have few : (subscription.paths.map addressJson).length ≤ 64 := by
    rw [List.length_map]
    exact admitted.count.2
  rw [subscriptionParameters, if_pos keys]
  show subscriptionValues (.string nativeId) (kindText subscription.kind)
    (subscription.paths.map addressJson) (numberDocument subscription.minIntervalS)
    (numberDocument subscription.maxIntervalS) subscription.resubscribe
    (numberDocument subscription.queueLimit) timeoutMs = _
  rw [subscriptionValues, canonicalGeneration_id identity, Option.bind_eq_bind, Option.bind_some,
    if_neg (not_or.mpr ⟨some_paths, by omega⟩), subscriptionKind_kindText admitted.kind, minimum,
    maximum, queueLimit]
  simp only [Option.bind_eq_bind, Option.bind_some]
  rw [if_neg (not_or.mpr ⟨toUInt64_ne_zero admitted.maximum.1 (by have := admitted.maximum; omega),
      toUInt64_ne_zero admitted.queueLimit.1 (by have := admitted.queueLimit; omega)⟩),
    selectors_addressJson (AdmittedSubscription.ranges admitted)]
  rw [requestOf, head]
  rfl

theorem sameSubscription_requestOf {term : SubscriptionTerm} {fabricId : Int}
    {subscription : Subscription} (admitted : AdmittedSubscription term fabricId subscription)
    (front : Address) (nativeId : Bytes) (timeoutMs : UInt32) :
    SameSubscription subscription nativeId (requestOf subscription front nativeId timeoutMs) where
  subscriptionId := rfl
  kind := by
    show SameSubscriptionKind subscription.kind (kindOf subscription.kind)
    rcases admitted.kind with kind | kind
    · rw [kind]
      exact .attribute
    · rw [kind]
      exact .event
  paths := by
    show List.Forall₂ SamePath subscription.paths (subscription.paths.map pathOf)
    rw [List.forall₂_map_right_iff, List.forall₂_same]
    exact fun path listed => samePath_pathOf (AdmittedSubscription.ranges admitted path listed)
  minIntervalS := toUInt16_toNat admitted.minimum.1
    (admitted.minimum.2.trans admitted.maximum.2)
  maxIntervalS := toUInt16_toNat (by have := admitted.maximum; omega) admitted.maximum.2
  resubscribe := rfl
  queueLimit := toUInt16_toNat (by have := admitted.queueLimit; omega)
    (by have := admitted.queueLimit; omega)

/-- The checks of the whole request before its paths. -/
theorem requestOf_checked {term : SubscriptionTerm} {fabricId : Int}
    {subscription : Subscription} (admitted : AdmittedSubscription term fabricId subscription)
    {front : Address} (ranges : Ranges front) {rest : List Address}
    (head : subscription.paths = front :: rest) {nativeId : Bytes}
    (identity : SubscriptionId nativeId) {timeoutMs : UInt32} (positive : 1 ≤ timeoutMs)
    (bounded : timeoutMs ≤ 60000) :
    ¬((requestOf subscription front nativeId timeoutMs).subscriptionId.length ≠ 32 ∨
      (requestOf subscription front nativeId timeoutMs).fabricId = 0 ∨
      (requestOf subscription front nativeId timeoutMs).nodeId = 0 ∨
      (requestOf subscription front nativeId timeoutMs).paths = [] ∨
      64 < (requestOf subscription front nativeId timeoutMs).paths.length ∨
      (requestOf subscription front nativeId timeoutMs).maxIntervalS <
        (requestOf subscription front nativeId timeoutMs).minIntervalS ∨
      (requestOf subscription front nativeId timeoutMs).maxIntervalS = 0 ∨
      (requestOf subscription front nativeId timeoutMs).queueLimit = 0 ∨
      10000 < (requestOf subscription front nativeId timeoutMs).queueLimit ∨
      (requestOf subscription front nativeId timeoutMs).timeoutMs = 0 ∨
      60000 < (requestOf subscription front nativeId timeoutMs).timeoutMs) := by
  have same := sameSubscription_requestOf admitted front nativeId timeoutMs
  have minimum := same.minIntervalS
  have maximum := same.maxIntervalS
  have queueLimit := same.queueLimit
  have ordered := admitted.minimum.2
  have least := admitted.maximum.1
  have queue := admitted.queueLimit
  simp only [UInt16.lt_iff_toNat_lt, ← UInt16.toNat_inj, not_or, not_not]
  refine ⟨identity.long, toUInt64_ne_zero ranges.fabricId.1 ranges.fabricId.2,
    toUInt64_ne_zero ranges.nodeId.1 (by have := ranges.nodeId.2; omega), ?_, ?_, by omega, ?_, ?_,
    ?_, ?_, UInt32.not_lt.mpr bounded⟩
  · show subscription.paths.map pathOf ≠ []
    rw [head]
    exact List.cons_ne_nil _ _
  · show ¬64 < (subscription.paths.map pathOf).length
    rw [List.length_map]
    exact Nat.not_lt.mpr admitted.count.2
  · rw [UInt16.toNat_zero]
    omega
  · rw [UInt16.toNat_zero]
    omega
  · have limit : (10000 : UInt16).toNat = 10000 := rfl
    rw [limit]
    omega
  · rintro zero
    rw [show timeoutMs = 0 from zero] at positive
    exact absurd positive (by decide)

/-- The check of the whole request comes down to the paths. -/
theorem validSubscriptionRequest_iff {term : SubscriptionTerm} {fabricId : Int}
    {subscription : Subscription} (admitted : AdmittedSubscription term fabricId subscription)
    {front : Address} {rest : List Address} (head : subscription.paths = front :: rest)
    {nativeId : Bytes} (identity : SubscriptionId nativeId) {timeoutMs : UInt32}
    (positive : 1 ≤ timeoutMs) (bounded : timeoutMs ≤ 60000) :
    validSubscriptionRequest (requestOf subscription front nativeId timeoutMs) = true ↔
      ∀ path ∈ subscription.paths, path.nodeId = front.nodeId := by
  have ranges := AdmittedSubscription.ranges admitted
  have fronted : front ∈ subscription.paths := by
    rw [head]
    exact List.mem_cons_self
  have first := ranges front fronted
  have checked := requestOf_checked admitted first head identity positive bounded
  have digits : (requestOf subscription front nativeId timeoutMs).subscriptionId.all lowerHex =
      true := List.all_eq_true.mpr identity.digits
  rw [validSubscriptionRequest, if_neg checked, if_neg (not_not.mpr digits)]
  show admittedPaths _ [] (subscription.paths.map pathOf) = true ↔ _
  rw [admittedPaths_iff]
  constructor
  · rintro ⟨each, -, -⟩ path listed
    have same : (pathOf path).nodeId = (pathOf front).nodeId := (each path listed).2.1
    rw [← (samePath_pathOf (ranges path listed)).nodeId, same, (samePath_pathOf first).nodeId]
  · intro node
    refine ⟨fun path listed => ⟨?_, ?_, ?_⟩, ?_, fun _ _ => List.not_mem_nil⟩
    · show path.fabricId.toNat.toUInt64 = front.fabricId.toNat.toUInt64
      rw [(admitted.paths path listed).fabric, (admitted.paths front fronted).fabric]
    · show path.nodeId.toNat.toUInt64 = front.nodeId.toNat.toUInt64
      rw [node path listed]
    · obtain ⟨descriptor, entry, kind, cluster, member, subscribes⟩ :=
        (admitted.paths path listed).recipe
      have recipe := recipes_agree descriptor entry subscribes
      rw [kind, cluster, member] at recipe
      exact recipe
    · refine admitted.distinct.map_on fun path listed other known same => ?_
      exact place_injective (ranges path listed) (ranges other known)
        ((admitted.paths path listed).fabric.trans (admitted.paths other known).fabric.symm)
        ((node path listed).trans (node other known).symm) same

theorem oneNode_iff {term : SubscriptionTerm} {fabricId : Int} {subscription : Subscription}
    (admitted : AdmittedSubscription term fabricId subscription) {front : Address}
    {rest : List Address} (head : subscription.paths = front :: rest) :
    OneNode term ↔ ∀ path ∈ subscription.paths, path.nodeId = front.nodeId := by
  have fronted : front ∈ subscription.paths := by
    rw [head]
    exact List.mem_cons_self
  constructor
  · intro one path listed
    exact Option.some.inj (one _ admitted.given (some path) (List.mem_map_of_mem listed)
      (some front) (List.mem_map_of_mem fronted))
  · intro node paths given path listed other known
    rw [admitted.given] at given
    cases given
    obtain ⟨first, there, rfl⟩ := List.mem_map.mp listed
    obtain ⟨second, beside, rfl⟩ := List.mem_map.mp known
    exact congrArg some ((node first there).trans (node second beside).symm)

/-- **The host reads a subscription as the BEAM admitted it, if and only if its paths are on one
node.** -/
theorem subscription_agrees (term : SubscriptionTerm) (fabricId : Int) (admitted : Subscription)
    (accepted : subscription (some term) fabricId = some admitted) (nativeId : Bytes)
    (identity : SubscriptionId nativeId) (timeoutMs : UInt32) (positive : 1 ≤ timeoutMs)
    (bounded : timeoutMs ≤ 60000) :
    (∃ native, subscriptionParameters (.object (admitted.parameters nativeId)) timeoutMs =
        some native ∧ SameSubscription admitted nativeId native) ↔ OneNode term := by
  have checked := subscription_some accepted
  obtain ⟨front, rest, head⟩ : ∃ front rest, admitted.paths = front :: rest :=
    List.exists_cons_of_length_pos checked.count.1
  rw [oneNode_iff checked head,
    ← validSubscriptionRequest_iff checked head identity positive bounded,
    subscriptionParameters_eq checked head identity timeoutMs]
  constructor
  · rintro ⟨native, read, -⟩
    rw [Option.ite_none_right_eq_some] at read
    exact read.1
  · intro valid
    exact ⟨_, if_pos valid, sameSubscription_requestOf checked front nativeId timeoutMs⟩

/-- The on-off attribute of endpoint 1 of a node. -/
def onOff (nodeId : Int) : Address where
  fabricId := 1
  nodeId := nodeId
  endpoint := 1
  cluster := 6
  member := 0

/-- The on-off attributes of some nodes. -/
def onOffTerm (nodes : List Int) : SubscriptionTerm where
  kind := some .attribute
  paths := some (nodes.map fun node => some (onOff node))
  minIntervalS := some 1
  maxIntervalS := some 60
  resubscribe := some true
  queueLimit := some 100

def onOffSubscription (nodes : List Int) : Subscription where
  kind := .attribute
  paths := nodes.map onOff
  minIntervalS := 1
  maxIntervalS := 60
  resubscribe := true
  queueLimit := 100

theorem subscriptionId_replicate : SubscriptionId (List.replicate 32 97) where
  long := List.length_replicate
  digits := by
    intro byte listed
    rw [List.eq_of_mem_replicate listed]
    decide

/-- The on-off attributes of two endpoints of a node. -/
def twoLamps : List Address := [onOff 2, { onOff 2 with endpoint := 4 }]

def lampsTerm : SubscriptionTerm := { onOffTerm [] with paths := some (twoLamps.map some) }

def lampsSubscription : Subscription := { onOffSubscription [] with paths := twoLamps }

theorem subscription_agrees_onOff :
    ∃ native, subscriptionParameters
        (.object (lampsSubscription.parameters (List.replicate 32 97))) 1000 = some native ∧
      SameSubscription lampsSubscription (List.replicate 32 97) native :=
  (subscription_agrees lampsTerm 1 lampsSubscription (by decide) (List.replicate 32 97)
    subscriptionId_replicate 1000 (by decide) (by decide)).mpr (by
      have node : ∀ path ∈ twoLamps.map some, path.map Address.nodeId = some 2 := by decide
      intro paths given path listed other known
      cases given
      rw [node path listed, node other known])

/-- A subscription to two nodes is admitted by the BEAM and refused by the host. -/
theorem subscription_twoNodes :
    subscription (some (onOffTerm [2, 3])) 1 = some (onOffSubscription [2, 3]) ∧
      SubscriptionId (List.replicate 32 97) ∧
      subscriptionParameters
        (.object ((onOffSubscription [2, 3]).parameters (List.replicate 32 97))) 1000 = none :=
  ⟨by decide, subscriptionId_replicate, rfl⟩

end WotexMatter.Session
