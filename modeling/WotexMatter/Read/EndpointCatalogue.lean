/-
# WotexMatter.Read.EndpointCatalogue -- the endpoints of a node, as one closed acyclic catalogue

`Wotex.Matter.EndpointCatalogue` (`endpoint_catalogue.ex`).  Each entry holds four reads of one
Descriptor cluster, a value or the error of the read.  The parts of the entries are a directed
graph, which the device supplies: `validate_graph` refuses it unless it is closed and acyclic.

`cycle?` recurses without a set of visited endpoints (`Theory.PathSearch`); its depth is bounded by
a `fuel`, and more fuel than endpoints is enough (`cycle_halts`).  `new_exact` says which entries
make a catalogue, that their order does not matter, and that a catalogue is its own catalogue.

A number given for a field is an `Option Int`, a list an `Option (List _)`: `none` is a term of
another shape.  Lists are proper (`length` raises on any other).  Jason and the two sizes of the
details of an error are parameters.
-/
import WotexMatter.Read.PathResults
import WotexMatter.Theory.PathSearch
import WotexMatter.Theory.Table

set_option autoImplicit false

namespace WotexMatter.Read

open Relation WotexMatter.Theory WotexMatter.Value

variable {D A B : Type}

/-! ## Terms -/

/-- `jasonSize` is the length of what Jason encodes details as, if it can. -/
structure DetailSizes (D : Type) extends Sizes D where
  jasonSize : D → Option Nat

/-- The two fields of a term given for the result of a read. -/
inductive RawDescriptor (D A : Type) where
  | ok (value : Option (List A)) (dataVersion : Option (Option Int))
  | error (error : Error D)
  | other

structure RawDeviceType where
  deviceType : Option Int
  revision : Option Int

/-- The five fields of a term given for an entry. -/
structure RawEndpoint (D : Type) where
  endpoint : Option Int
  deviceTypes : RawDescriptor D (Option RawDeviceType)
  serverClusters : RawDescriptor D (Option Int)
  clientClusters : RawDescriptor D (Option Int)
  parts : RawDescriptor D (Option Int)

structure DeviceType where
  deviceType : Int
  revision : Int
  deriving DecidableEq

inductive DescriptorResult (D A : Type) where
  | ok (value : List A) (dataVersion : Option Int)
  | error (error : Error D)

structure EndpointEntry (D : Type) where
  endpoint : Int
  deviceTypes : DescriptorResult D DeviceType
  serverClusters : DescriptorResult D Int
  clientClusters : DescriptorResult D Int
  parts : DescriptorResult D Int

structure EndpointCatalogue (D : Type) where
  fabricId : Int
  nodeId : Int
  rootEndpoint : Int := 0
  endpoints : List (EndpointEntry D)
  consistency : Datum D := .atom "not_atomic"

/-- A term given for a catalogue: a map of three keys, one of five, or another term.  A struct is
the map of its five fields. -/
inductive Candidate (D : Type) where
  | three (fabricId nodeId : Option Int) (endpoints : Option (List (Option (RawEndpoint D))))
  | five (fabricId nodeId rootEndpoint : Option Int)
      (endpoints : Option (List (Option (RawEndpoint D)))) (consistency : Datum D)
  | other

/-! ## Entries -/

/-- `valid_endpoint?`. -/
def validEndpoint (endpoint : Int) : Bool := (Address.new (some ⟨1, 1, endpoint, 0, 0⟩)).isSome

/-- `valid_cluster?`. -/
def validCluster (cluster : Int) : Bool := (Address.new (some ⟨1, 1, 0, cluster, 0⟩)).isSome

namespace EndpointCatalogue

/-- `valid_error?`: what `PathResults` checks of an error, and that Jason can encode its details. -/
def validError (sizes : DetailSizes D) (error : Error D) : Bool :=
  Read.validError sizes.toSizes error &&
    match error.details with
    | .map details => (sizes.jasonSize details).any fun size => size ≤ 4096
    | _ => false

/-- `device_type`; `none` is a term of another shape. -/
def deviceType : Option RawDeviceType → Except Unit DeviceType
  | some ⟨some deviceType, some revision⟩ =>
      if inRange deviceType 0 0xFFFFFFFF && inRange revision 0 0xFFFF then
        .ok { deviceType, revision }
      else .error ()
  | _ => .error ()

/-- An integer that passes a check. -/
def checked (valid : Int → Bool) : Option Int → Except Unit Int
  | some value => if valid value then .ok value else .error ()
  | none => .error ()

/-- `cluster`. -/
def cluster : Option Int → Except Unit Int := checked validCluster

/-- `endpoint`. -/
def endpoint : Option Int → Except Unit Int := checked validEndpoint

/-- The clauses of `descriptor_values` for `:device_types` and `:clusters`. -/
def descriptorValues (most : Nat) (read : A → Except Unit B) (values : List A) :
    Except Unit (List B) :=
  if values.length ≤ most then Collation.traverse read values else .error ()

/-- The clause of `descriptor_values` for `:parts`. -/
def partValues (values : List (Option Int)) : Except Unit (List Int) :=
  match descriptorValues 64 endpoint values with
  | .ok values => if values.Nodup then .ok values else .error ()
  | .error _ => .error ()

/-- `descriptor_result`. -/
def descriptorResult (sizes : DetailSizes D) (values : List A → Except Unit (List B)) :
    RawDescriptor D A → Except Unit (DescriptorResult D B)
  | .ok (some items) (some dataVersion) =>
      if dataVersion.all fun version => inRange version 0 0xFFFFFFFF then
        match values items with
        | .ok value => .ok (.ok value dataVersion)
        | .error _ => .error ()
      else .error ()
  | .ok _ _ => .error ()
  | .error error => if validError sizes error then .ok (.error error) else .error ()
  | .other => .error ()

/-- `normalize_endpoint`; `none` is a term of another shape. -/
def normalizeEndpoint (sizes : DetailSizes D) :
    Option (RawEndpoint D) → Except Unit (EndpointEntry D)
  | some ⟨some endpoint, deviceTypes, serverClusters, clientClusters, parts⟩ =>
      if validEndpoint endpoint then do
        let deviceTypes ← descriptorResult sizes (descriptorValues 1024 deviceType) deviceTypes
        let serverClusters ← descriptorResult sizes (descriptorValues 1024 cluster) serverClusters
        let clientClusters ← descriptorResult sizes (descriptorValues 1024 cluster) clientClusters
        let parts ← descriptorResult sizes partValues parts
        .ok { endpoint, deviceTypes, serverClusters, clientClusters, parts }
      else .error ()
  | _ => .error ()

/-- `normalize_endpoints`. -/
def normalizeEndpoints (sizes : DetailSizes D) :
    Option (List (Option (RawEndpoint D))) → Except Unit (List (EndpointEntry D))
  | some endpoints =>
      if 1 ≤ endpoints.length ∧ endpoints.length ≤ 64 then
        Collation.traverse (normalizeEndpoint sizes) endpoints
      else .error ()
  | none => .error ()

/-! ## The graph of the parts -/

/-- `parts`. -/
def parts : DescriptorResult D Int → List Int
  | .ok parts _ => parts
  | .error _ => []

/-- `graph` of `validate_graph`. -/
def graph (endpoints : List (EndpointEntry D)) : Table Int (List Int) :=
  Table.ofList (·.endpoint) (fun entry => parts entry.parts) endpoints

/-- `cycle?`. -/
def cycle (graph : Table Int (List Int)) (fuel : Nat) (endpoint : Int) (path : List Int) :
    Except PathSearch.Halt Bool :=
  PathSearch.search graph.lookup fuel endpoint path

/-- `validate_graph`. -/
def validateGraph (fuel : Nat) (endpoints : List (EndpointEntry D)) :
    Except PathSearch.Halt Bool :=
  let ids := endpoints.map (·.endpoint)
  if 0 ∉ ids then .ok false
  else if ¬ ids.Nodup then .ok false
  else if (graph endpoints).count (fun children => children.any (· ∉ ids)) ≠ 0 then .ok false
  else do
    let cyclic ← ids.anyM fun id => cycle (graph endpoints) fuel id []
    .ok !cyclic

/-- `result_length`. -/
def resultLength : DescriptorResult D Int → Nat
  | .ok values _ => values.length
  | .error _ => 0

/-- `cluster_count`. -/
def clusterCount (endpoints : List (EndpointEntry D)) : Nat :=
  endpoints.foldl (fun count entry =>
    count + resultLength entry.serverClusters + resultLength entry.clientClusters) 0

/-! ## Construction -/

/-- The path `build` asks `Address.new` about. -/
def rootPath (fabricId nodeId : Option Int) : Option Address := do
  let fabricId ← fabricId
  let nodeId ← nodeId
  some ⟨fabricId, nodeId, 0, 0, 0⟩

/-- `build`; `none` is `:invalid_endpoint_catalogue`. -/
def build (sizes : DetailSizes D) (fuel : Nat) (fabricId nodeId : Option Int)
    (endpoints : Option (List (Option (RawEndpoint D)))) :
    Except PathSearch.Halt (Option (EndpointCatalogue D)) :=
  match Address.new (rootPath fabricId nodeId), normalizeEndpoints sizes endpoints with
  | some root, .ok endpoints =>
      match validateGraph fuel endpoints with
      | .error halt => .error halt
      | .ok valid =>
          if valid && clusterCount endpoints ≤ 1024 then
            .ok (some
              { fabricId := root.fabricId
                nodeId := root.nodeId
                endpoints := Collation.sortBy (·.endpoint) endpoints })
          else .ok none
  | _, _ => .ok none

/-- `new`. -/
def new (sizes : DetailSizes D) (fuel : Nat) :
    Candidate D → Except PathSearch.Halt (Option (EndpointCatalogue D))
  | .three fabricId nodeId endpoints => build sizes fuel fabricId nodeId endpoints
  | .five fabricId nodeId rootEndpoint endpoints consistency =>
      if rootEndpoint = some 0 && consistency.among ["not_atomic"] then
        build sizes fuel fabricId nodeId endpoints
      else .ok none
  | .other => .ok none

end EndpointCatalogue

/-! ## Well-formed entries -/

/-- The term a result is given as. -/
def DescriptorResult.raw (item : B → A) : DescriptorResult D B → RawDescriptor D A
  | .ok value dataVersion => .ok (some (value.map item)) (some dataVersion)
  | .error failure => .error failure

def DescriptorResult.WellFormed (sizes : DetailSizes D) (admits : List B → Prop) :
    DescriptorResult D B → Prop
  | .ok value dataVersion =>
      admits value ∧ ∀ version ∈ dataVersion, 0 ≤ version ∧ version ≤ 0xFFFFFFFF
  | .error failure => EndpointCatalogue.validError sizes failure = true

def DeviceType.raw (type : DeviceType) : RawDeviceType :=
  ⟨some type.deviceType, some type.revision⟩

def DeviceType.InRange (type : DeviceType) : Prop :=
  (0 ≤ type.deviceType ∧ type.deviceType ≤ 0xFFFFFFFF) ∧ 0 ≤ type.revision ∧ type.revision ≤ 0xFFFF

/-- The term an entry is given as. -/
def EndpointEntry.raw (entry : EndpointEntry D) : RawEndpoint D where
  endpoint := some entry.endpoint
  deviceTypes := entry.deviceTypes.raw fun type => some type.raw
  serverClusters := entry.serverClusters.raw some
  clientClusters := entry.clientClusters.raw some
  parts := entry.parts.raw some

structure EndpointEntry.WellFormed (sizes : DetailSizes D) (entry : EndpointEntry D) : Prop where
  endpoint : validEndpoint entry.endpoint
  deviceTypes : entry.deviceTypes.WellFormed sizes fun types =>
    types.length ≤ 1024 ∧ ∀ type ∈ types, type.InRange
  serverClusters : entry.serverClusters.WellFormed sizes fun clusters =>
    clusters.length ≤ 1024 ∧ ∀ cluster ∈ clusters, validCluster cluster
  clientClusters : entry.clientClusters.WellFormed sizes fun clusters =>
    clusters.length ≤ 1024 ∧ ∀ cluster ∈ clusters, validCluster cluster
  parts : entry.parts.WellFormed sizes fun parts =>
    parts.length ≤ 64 ∧ parts.Nodup ∧ ∀ part ∈ parts, validEndpoint part

namespace EndpointCatalogue

section

variable {sizes : DetailSizes D}

theorem deviceType_ok_iff (raw : Option RawDeviceType) (type : DeviceType) :
    deviceType raw = .ok type ↔ raw = some type.raw ∧ type.InRange := by
  constructor
  · intro read
    rw [deviceType.eq_def] at read
    split at read
    · split at read
      · rename_i inRange
        obtain rfl := Except.ok.inj read
        exact ⟨rfl, by simpa [Value.inRange, DeviceType.InRange] using inRange⟩
      · cases read
    · cases read
  · rintro ⟨rfl, inRange⟩
    rw [DeviceType.raw, deviceType, if_pos]
    simpa [Value.inRange, DeviceType.InRange] using inRange

theorem checked_ok_iff (valid : Int → Bool) (raw : Option Int) (value : Int) :
    checked valid raw = .ok value ↔ raw = some value ∧ valid value := by
  cases raw with
  | none => simp [checked]
  | some given =>
      by_cases passes : valid given
      · rw [checked, if_pos passes, Except.ok.injEq, Option.some.injEq]
        constructor
        · rintro rfl
          exact ⟨rfl, passes⟩
        · exact fun both => both.1
      · rw [checked, if_neg passes, Option.some.injEq]
        constructor
        · intro read
          cases read
        · rintro ⟨rfl, passes'⟩
          exact absurd passes' passes

theorem descriptorValues_ok_iff (most : Nat) {read : A → Except Unit B} {item : B → A}
    {admits : B → Prop}
    (reads : ∀ raw value, read raw = .ok value ↔ raw = item value ∧ admits value)
    (raws : List A) (values : List B) :
    descriptorValues most read raws = .ok values ↔
      raws = values.map item ∧ values.length ≤ most ∧ ∀ value ∈ values, admits value := by
  rw [descriptorValues]
  constructor
  · intro read
    split at read
    · rename_i short
      obtain ⟨rfl, admitted⟩ := (Collation.traverse_ok_iff_map reads).mp read
      rw [List.length_map] at short
      exact ⟨rfl, short, admitted⟩
    · cases read
  · rintro ⟨rfl, short, admitted⟩
    rw [List.length_map, if_pos short]
    exact (Collation.traverse_ok_iff_map reads).mpr ⟨rfl, admitted⟩

theorem partValues_ok_iff (raws : List (Option Int)) (values : List Int) :
    partValues raws = .ok values ↔ raws = values.map some ∧
      values.length ≤ 64 ∧ values.Nodup ∧ ∀ value ∈ values, validEndpoint value := by
  have reads : ∀ values, descriptorValues 64 endpoint raws = .ok values ↔
      raws = values.map some ∧ values.length ≤ 64 ∧ ∀ value ∈ values, validEndpoint value :=
    descriptorValues_ok_iff 64 (checked_ok_iff validEndpoint) raws
  rw [partValues]
  constructor
  · intro read
    split at read
    · rename_i values' read'
      split at read
      · rename_i distinct
        obtain rfl := Except.ok.inj read
        obtain ⟨same, short, valid⟩ := (reads values').mp read'
        exact ⟨same, short, distinct, valid⟩
      · cases read
    · cases read
  · rintro ⟨same, short, distinct, valid⟩
    rw [(reads values).mpr ⟨same, short, valid⟩]
    exact if_pos distinct

theorem descriptorResult_ok_iff (sizes : DetailSizes D) {values : List A → Except Unit (List B)}
    {item : B → A} {admits : List B → Prop}
    (reads : ∀ raws items, values raws = .ok items ↔ raws = items.map item ∧ admits items)
    (raw : RawDescriptor D A) (result : DescriptorResult D B) :
    descriptorResult sizes values raw = .ok result ↔
      raw = result.raw item ∧ result.WellFormed sizes admits := by
  constructor
  · intro read
    rw [descriptorResult.eq_def] at read
    split at read
    · rename_i raws dataVersion
      split at read
      · rename_i versions
        split at read
        · rename_i items read'
          obtain rfl := Except.ok.inj read
          obtain ⟨rfl, admitted⟩ := (reads raws items).mp read'
          exact ⟨rfl, admitted, by simpa [inRange, Option.all_eq_true] using versions⟩
        · cases read
      · cases read
    · cases read
    · split at read
      · rename_i error valid
        obtain rfl := Except.ok.inj read
        exact ⟨rfl, valid⟩
      · cases read
    · cases read
  · rintro ⟨rfl, wellFormed⟩
    cases result with
    | ok items dataVersion =>
        obtain ⟨admitted, versions⟩ := wellFormed
        have passes : (dataVersion.all fun version => inRange version 0 0xFFFFFFFF) = true := by
          simpa [inRange, Option.all_eq_true] using versions
        rw [DescriptorResult.raw, descriptorResult, if_pos passes,
          (reads _ items).mpr ⟨rfl, admitted⟩]
    | error error => exact if_pos wellFormed

theorem bind_ok_iff {ε : Type} {first : Except ε A} {next : A → Except ε B} {result : B} :
    first >>= next = .ok result ↔ ∃ value, first = .ok value ∧ next value = .ok result := by
  cases first with
  | error failure =>
      constructor
      · intro bound
        cases bound
      · rintro ⟨value, done, -⟩
        cases done
  | ok value =>
      constructor
      · exact fun bound => ⟨value, rfl, bound⟩
      · rintro ⟨value', done, bound⟩
        obtain rfl := Except.ok.inj done
        exact bound

/-- The entries that are read are the terms of the well-formed ones. -/
theorem normalizeEndpoint_ok_iff (raw : Option (RawEndpoint D)) (entry : EndpointEntry D) :
    normalizeEndpoint sizes raw = .ok entry ↔ raw = some entry.raw ∧ entry.WellFormed sizes := by
  have types := descriptorResult_ok_iff sizes (descriptorValues_ok_iff 1024 deviceType_ok_iff)
  have clusters := descriptorResult_ok_iff sizes
    (descriptorValues_ok_iff 1024 (checked_ok_iff validCluster))
  have children := descriptorResult_ok_iff sizes partValues_ok_iff
  constructor
  · intro read
    rw [normalizeEndpoint.eq_def] at read
    split at read
    · split at read
      · rename_i valid
        simp only [bind_ok_iff] at read
        obtain ⟨deviceTypes, read₁, server, read₂, client, read₃, parts, read₄, same⟩ := read
        obtain rfl := Except.ok.inj same
        obtain ⟨rfl, wellFormed₁⟩ := (types _ _).mp read₁
        obtain ⟨rfl, wellFormed₂⟩ := (clusters _ _).mp read₂
        obtain ⟨rfl, wellFormed₃⟩ := (clusters _ _).mp read₃
        obtain ⟨rfl, wellFormed₄⟩ := (children _ _).mp read₄
        exact ⟨rfl, valid, wellFormed₁, wellFormed₂, wellFormed₃, wellFormed₄⟩
      · cases read
    · cases read
  · rintro ⟨rfl, wellFormed⟩
    rw [EndpointEntry.raw, normalizeEndpoint, if_pos wellFormed.endpoint]
    simp only [bind_ok_iff]
    exact ⟨_, (types _ _).mpr ⟨rfl, wellFormed.deviceTypes⟩, _,
      (clusters _ _).mpr ⟨rfl, wellFormed.serverClusters⟩, _,
      (clusters _ _).mpr ⟨rfl, wellFormed.clientClusters⟩, _,
      (children _ _).mpr ⟨rfl, wellFormed.parts⟩, rfl⟩

/-- The list of terms entries are given as. -/
def rawEndpoints (entries : List (EndpointEntry D)) : List (Option (RawEndpoint D)) :=
  entries.map fun entry => some entry.raw

theorem normalizeEndpoints_ok_iff (raws : List (Option (RawEndpoint D)))
    (entries : List (EndpointEntry D)) :
    normalizeEndpoints sizes (some raws) = .ok entries ↔ raws = rawEndpoints entries ∧
      (1 ≤ entries.length ∧ entries.length ≤ 64) ∧ ∀ entry ∈ entries, entry.WellFormed sizes := by
  rw [normalizeEndpoints]
  constructor
  · intro read
    split at read
    · rename_i bounded
      obtain ⟨rfl, wellFormed⟩ := (Collation.traverse_ok_iff_map normalizeEndpoint_ok_iff).mp read
      rw [List.length_map] at bounded
      exact ⟨rfl, bounded, wellFormed⟩
    · cases read
  · rintro ⟨rfl, bounded, wellFormed⟩
    rw [rawEndpoints, List.length_map, if_pos bounded]
    exact (Collation.traverse_ok_iff_map normalizeEndpoint_ok_iff).mpr ⟨rfl, wellFormed⟩

end

/-! ## The graph -/

/-- One endpoint names another among its parts. -/
def PartOf (entries : List (EndpointEntry D)) (parent child : Int) : Prop :=
  ∃ entry ∈ entries, entry.endpoint = parent ∧ child ∈ parts entry.parts

/-- What `validate_graph` asks of the entries. -/
structure ValidGraph (entries : List (EndpointEntry D)) : Prop where
  rooted : 0 ∈ entries.map (·.endpoint)
  distinct : (entries.map (·.endpoint)).Nodup
  closed : ∀ parent child, PartOf entries parent child → child ∈ entries.map (·.endpoint)
  acyclic : ∀ endpoint, ¬ TransGen (PartOf entries) endpoint endpoint

section

variable {entries : List (EndpointEntry D)}

theorem edge_iff (distinct : (entries.map (·.endpoint)).Nodup) :
    PathSearch.Edge (graph entries).lookup = PartOf entries := by
  funext parent child
  apply propext
  constructor
  · rintro ⟨below, listed, inside⟩
    obtain ⟨entry, member, same, rfl⟩ := (Table.lookup_ofList distinct).mp listed
    exact ⟨entry, member, same, inside⟩
  · rintro ⟨entry, member, same, inside⟩
    exact ⟨parts entry.parts, (Table.lookup_ofList distinct).mpr ⟨entry, member, same, rfl⟩, inside⟩

theorem closed_iff (distinct : (entries.map (·.endpoint)).Nodup) :
    (graph entries).count (fun children => children.any (· ∉ entries.map (·.endpoint))) = 0 ↔
      ∀ parent child, PartOf entries parent child → child ∈ entries.map (·.endpoint) := by
  rw [Table.count_eq_zero_iff]
  constructor
  · rintro none parent child ⟨entry, member, same, inside⟩
    have stay := none parent (parts entry.parts)
      ((Table.lookup_ofList distinct).mpr ⟨entry, member, same, rfl⟩)
    have inside' := List.any_eq_false.mp stay child inside
    simpa using inside'
  · intro closed parent children listed
    obtain ⟨entry, member, same, rfl⟩ := (Table.lookup_ofList distinct).mp listed
    rw [List.any_eq_false]
    intro child inside
    simpa using closed parent child ⟨entry, member, same, inside⟩

/-- **`cycle?` answers on every graph whose edges stay inside it**, with more fuel than there are
vertices off the path. -/
theorem cycle_halts {graph : Table Int (List Int)}
    (closed : ∀ parent children, graph.lookup parent = some children →
      ∀ child ∈ children, child ∈ graph.keys)
    {fuel : Nat} {endpoint : Int} (inside : endpoint ∈ graph.keys) {path : List Int}
    (fuelled : (graph.keys.filter (· ∉ path)).card < fuel) :
    ∃ answer, cycle graph fuel endpoint path = .ok answer := by
  have stays : PathSearch.Closed graph.lookup graph.keys := by
    intro vertex member
    obtain ⟨children, listed⟩ :=
      Option.isSome_iff_exists.mp ((Table.mem_keys_iff graph vertex).mp member)
    exact ⟨children, listed, closed vertex children listed⟩
  exact PathSearch.search_halts stays inside fuelled

theorem card_keys_graph_le : (graph entries).keys.card ≤ entries.length := by
  have same : (graph entries).keys = (entries.map (·.endpoint)).toFinset := by
    ext endpoint
    rw [graph, Table.mem_keys_ofList, List.mem_toFinset]
  rw [same, ← List.length_map (·.endpoint)]
  exact List.toFinset_card_le _

/-- No endpoint leads `cycle?` to a cycle exactly if the graph has none. -/
theorem cycles_iff (distinct : (entries.map (·.endpoint)).Nodup)
    (closed : ∀ parent child, PartOf entries parent child → child ∈ entries.map (·.endpoint))
    {fuel : Nat} (fuelled : entries.length < fuel) :
    ∃ cyclic, ((entries.map (·.endpoint)).anyM fun id => cycle (graph entries) fuel id []) =
        .ok cyclic ∧
      (cyclic = false ↔ ∀ endpoint, ¬ TransGen (PartOf entries) endpoint endpoint) := by
  have halts : ∀ id ∈ entries.map (·.endpoint),
      ∃ answer, cycle (graph entries) fuel id [] = .ok answer := by
    intro id inside
    refine cycle_halts ?_ (Table.mem_keys_ofList.mpr inside)
      (((Finset.card_filter_le _ _).trans card_keys_graph_le).trans_lt fuelled)
    intro parent children listed child below
    obtain ⟨entry, member, same, rfl⟩ := (Table.lookup_ofList distinct).mp listed
    exact Table.mem_keys_ofList.mpr (closed parent child ⟨entry, member, same, below⟩)
  have covered : ∀ {parent child}, PathSearch.Edge (graph entries).lookup parent child →
      parent ∈ (graph entries).keys :=
    fun ⟨_, listed, _⟩ => Table.mem_keys_of_lookup listed
  have acyclic := PathSearch.acyclic_iff covered
  rw [edge_iff distinct] at acyclic
  obtain ⟨cyclic, answered⟩ := PathSearch.anyM_ok halts
  refine ⟨cyclic, answered, ?_⟩
  rw [← acyclic]
  cases cyclic with
  | true =>
      obtain ⟨id, inside, asked⟩ := PathSearch.anyM_true answered
      exact iff_of_false (by simp) fun leaves =>
        leaves id (Table.mem_keys_ofList.mpr inside) ((PathSearch.search_iff asked).mp rfl)
  | false =>
      refine iff_of_true rfl fun id inside leads => ?_
      have asked := PathSearch.anyM_false answered id (Table.mem_keys_ofList.mp inside)
      exact Bool.false_ne_true ((PathSearch.search_iff asked).mpr leads)

/-- **`validate_graph` answers, and accepts the closed acyclic graphs with a root.** -/
theorem validateGraph_iff {fuel : Nat} (fuelled : entries.length < fuel) :
    ∃ valid, validateGraph fuel entries = .ok valid ∧ (valid = true ↔ ValidGraph entries) := by
  simp only [validateGraph]
  by_cases rooted : 0 ∈ entries.map (·.endpoint)
  · rw [if_neg (not_not.mpr rooted)]
    by_cases distinct : (entries.map (·.endpoint)).Nodup
    · rw [if_neg (not_not.mpr distinct)]
      by_cases closed : (graph entries).count
          (fun children => children.any (· ∉ entries.map (·.endpoint))) = 0
      · rw [if_neg (not_not.mpr closed)]
        have closed' := (closed_iff distinct).mp closed
        obtain ⟨cyclic, answered, acyclic⟩ := cycles_iff distinct closed' fuelled
        refine ⟨!cyclic, by rw [answered]; rfl, ?_⟩
        rw [Bool.not_eq_true', acyclic]
        exact ⟨fun acyclic => ⟨rooted, distinct, closed', acyclic⟩, fun valid => valid.acyclic⟩
      · rw [if_pos closed]
        exact ⟨false, rfl, iff_of_false Bool.false_ne_true fun valid =>
          closed ((closed_iff distinct).mpr valid.closed)⟩
    · rw [if_pos distinct]
      exact ⟨false, rfl, iff_of_false Bool.false_ne_true fun valid => distinct valid.distinct⟩
  · rw [if_pos rooted]
    exact ⟨false, rfl, iff_of_false Bool.false_ne_true fun valid => rooted valid.rooted⟩

/-- The answer does not depend on the fuel. -/
theorem cycle_same {graph : Table Int (List Int)} {fuel fuel' : Nat} {endpoint : Int}
    {path : List Int} {answer answer' : Bool}
    (answered : cycle graph fuel endpoint path = .ok answer)
    (answered' : cycle graph fuel' endpoint path = .ok answer') : answer = answer' := by
  rw [Bool.eq_iff_iff, PathSearch.search_iff answered, PathSearch.search_iff answered']

/-! ## Catalogues -/

theorem clusterCount_eq_sum :
    clusterCount entries = (entries.map fun entry =>
      resultLength entry.serverClusters + resultLength entry.clientClusters).sum := by
  have counts : ∀ count, entries.foldl (fun count entry =>
      count + resultLength entry.serverClusters + resultLength entry.clientClusters) count =
        count + (entries.map fun entry =>
          resultLength entry.serverClusters + resultLength entry.clientClusters).sum := by
    induction entries with
    | nil => simp
    | cons entry rest ih =>
        intro count
        rw [List.foldl_cons, ih, List.map_cons, List.sum_cons]
        omega
  rw [clusterCount, counts, Nat.zero_add]

/-- The entries make a catalogue. -/
structure Accepted (entries : List (EndpointEntry D)) : Prop extends ValidGraph entries where
  clusters : (entries.map fun entry =>
    resultLength entry.serverClusters + resultLength entry.clientClusters).sum ≤ 1024

theorem accepted_congr {others : List (EndpointEntry D)} (perm : others.Perm entries)
    (accepted : Accepted entries) : Accepted others := by
  have ids := perm.map (·.endpoint)
  have partOf : PartOf others = PartOf entries := by
    funext parent child
    simp only [PartOf, perm.mem_iff]
  exact
    { rooted := ids.mem_iff.mpr accepted.rooted
      distinct := ids.nodup_iff.mpr accepted.distinct
      closed := fun parent child edge =>
        ids.mem_iff.mpr (accepted.closed parent child (partOf ▸ edge))
      acyclic := partOf ▸ accepted.acyclic
      clusters := (perm.map _).sum_eq.trans_le accepted.clusters }

/-- The catalogue `build` makes of entries. -/
def gathered (root : Address) (entries : List (EndpointEntry D)) : EndpointCatalogue D where
  fabricId := root.fabricId
  nodeId := root.nodeId
  endpoints := Collation.sortBy (·.endpoint) entries

variable {sizes : DetailSizes D} {fuel : Nat} {fabricId nodeId : Option Int}

theorem build_of_valid {root : Address} {raws : List (Option (RawEndpoint D))} {valid : Bool}
    (addressed : Address.new (rootPath fabricId nodeId) = some root)
    (normal : normalizeEndpoints sizes (some raws) = .ok entries)
    (answered : validateGraph fuel entries = .ok valid) :
    build sizes fuel fabricId nodeId (some raws) =
      .ok (if valid && clusterCount entries ≤ 1024 then some (gathered root entries)
        else none) := by
  simp only [build, addressed, normal, answered]
  split <;> rfl

/-- **`build` answers for well-formed entries**, and gathers those it accepts. -/
theorem build_iff (fabricId nodeId : Option Int) (fuelled : 64 < fuel)
    (bounded : entries.length ≤ 64)
    (wellFormed : ∀ entry ∈ entries, entry.WellFormed sizes) :
    ∃ answer, build sizes fuel fabricId nodeId (some (rawEndpoints entries)) = .ok answer ∧
      ∀ catalogue, answer = some catalogue ↔ ∃ root,
        Address.new (rootPath fabricId nodeId) = some root ∧ Accepted entries ∧
          catalogue = gathered root entries := by
  cases addressed : Address.new (rootPath fabricId nodeId) with
  | none =>
      rw [build, addressed]
      exact ⟨none, rfl, by simp⟩
  | some root =>
      by_cases filled : entries = []
      · subst filled
        refine ⟨none, by rw [build, addressed]; rfl, fun catalogue => iff_of_false nofun ?_⟩
        rintro ⟨-, -, accepted, -⟩
        exact absurd accepted.rooted (by simp)
      · have normal := (normalizeEndpoints_ok_iff (rawEndpoints entries) entries).mpr
          ⟨rfl, ⟨List.length_pos_iff.mpr filled, bounded⟩, wellFormed⟩
        obtain ⟨valid, answered, accepts⟩ := validateGraph_iff (bounded.trans_lt fuelled)
        refine ⟨_, build_of_valid addressed normal answered, fun catalogue => ?_⟩
        have both : (valid && decide (clusterCount entries ≤ 1024)) = true ↔ Accepted entries := by
          rw [Bool.and_eq_true, decide_eq_true_iff, accepts, clusterCount_eq_sum]
          exact ⟨fun ⟨graph, clusters⟩ => { graph with clusters },
            fun accepted => ⟨accepted.toValidGraph, accepted.clusters⟩⟩
        by_cases accepted : Accepted entries
        · rw [if_pos (both.mpr accepted), Option.some.injEq]
          constructor
          · rintro rfl
            exact ⟨root, rfl, accepted, rfl⟩
          · rintro ⟨root', same, -, rfl⟩
            rw [Option.some.inj same]
        · rw [if_neg (mt both.mp accepted)]
          refine iff_of_false nofun ?_
          rintro ⟨-, -, accepted', -⟩
          exact accepted accepted'

theorem gathered_congr {root : Address} {others : List (EndpointEntry D)}
    (perm : others.Perm entries) (accepted : Accepted entries) :
    gathered root others = gathered root entries := by
  rw [gathered, Collation.sortBy_congr perm accepted.distinct]
  rfl

/-- The order of the entries does not matter. -/
theorem build_congr (fuelled : 64 < fuel) (bounded : entries.length ≤ 64)
    (wellFormed : ∀ entry ∈ entries, entry.WellFormed sizes) {others : List (EndpointEntry D)}
    (perm : others.Perm entries) :
    build sizes fuel fabricId nodeId (some (rawEndpoints others)) =
      build sizes fuel fabricId nodeId (some (rawEndpoints entries)) := by
  obtain ⟨answer, built, answers⟩ := build_iff fabricId nodeId fuelled bounded wellFormed
  obtain ⟨answer', built', answers'⟩ := build_iff fabricId nodeId fuelled
    (perm.length_eq.trans_le bounded) fun entry inside => wellFormed entry (perm.mem_iff.mp inside)
  rw [built, built']
  congr 1
  ext catalogue
  rw [answers', answers]
  constructor
  · rintro ⟨root, addressed, accepted, rfl⟩
    exact ⟨root, addressed, accepted_congr perm.symm accepted,
      (gathered_congr perm.symm accepted).symm⟩
  · rintro ⟨root, addressed, accepted, rfl⟩
    exact ⟨root, addressed, accepted_congr perm accepted, (gathered_congr perm accepted).symm⟩

/-- A catalogue as `new` is given it. -/
def candidate (catalogue : EndpointCatalogue D) : Candidate D :=
  .five (some catalogue.fabricId) (some catalogue.nodeId) (some catalogue.rootEndpoint)
    (some (rawEndpoints catalogue.endpoints)) catalogue.consistency

theorem new_candidate_gathered (root : Address) :
    new sizes fuel (gathered root entries).candidate =
      build sizes fuel (some root.fabricId) (some root.nodeId)
        (some (rawEndpoints (gathered root entries).endpoints)) := by
  rw [candidate, new, gathered, if_pos]
  simp [Datum.among]

theorem rootPath_root {root : Address}
    (addressed : Address.new (rootPath fabricId nodeId) = some root) :
    fabricId = some root.fabricId ∧ nodeId = some root.nodeId := by
  cases fabricId with
  | none => cases addressed
  | some fabric =>
      cases nodeId with
      | none => cases addressed
      | some node =>
          have same : some (Address.mk fabric node 0 0 0) = some root :=
            (Address.new_some addressed).1
          obtain rfl := Option.some.inj same
          exact ⟨rfl, rfl⟩

/-- What `new` makes of entries that it accepts for this fabric and node. -/
structure Gathered (sizes : DetailSizes D) (fuel : Nat) (fabricId nodeId : Option Int)
    (entries : List (EndpointEntry D)) (catalogue : EndpointCatalogue D) : Prop where
  fabric : fabricId = some catalogue.fabricId
  node : nodeId = some catalogue.nodeId
  perm : catalogue.endpoints.Perm entries
  sorted : catalogue.endpoints.Pairwise fun first second => first.endpoint < second.endpoint
  again : new sizes fuel catalogue.candidate = .ok (some catalogue)

theorem gathered_spec (fuelled : 64 < fuel) (bounded : entries.length ≤ 64)
    (wellFormed : ∀ entry ∈ entries, entry.WellFormed sizes) {root : Address}
    (addressed : Address.new (rootPath fabricId nodeId) = some root) (accepted : Accepted entries) :
    Gathered sizes fuel fabricId nodeId entries (gathered root entries) := by
  obtain ⟨rfl, rfl⟩ := rootPath_root addressed
  have perm : (gathered root entries).endpoints.Perm entries := Collation.sortBy_perm _ _
  have sorted := Collation.sortBy_strict accepted.distinct
  refine ⟨rfl, rfl, perm, sorted, ?_⟩
  -- the entries of the catalogue are accepted again, and sorting sorted entries changes nothing
  obtain ⟨answer, built, answers⟩ := build_iff (some root.fabricId) (some root.nodeId) fuelled
    (perm.length_eq.trans_le bounded) fun entry inside => wellFormed entry (perm.mem_iff.mp inside)
  have same : gathered root (gathered root entries).endpoints = gathered root entries :=
    gathered_congr perm accepted
  rw [new_candidate_gathered, built,
    (answers _).mpr ⟨root, addressed, accepted_congr perm accepted, same.symm⟩]

end

/-- **Exactly the closed acyclic catalogues are accepted.**  `cycle?` answers on every graph whose
edges stay inside it.  Of well-formed entries, in any order, `new` makes a catalogue if and only if
`Address.new` takes the fabric and the node and the entries are `Accepted`; it lists the entries by
endpoint and is its own catalogue. -/
theorem new_exact (sizes : DetailSizes D) :
    (∀ graph : Table Int (List Int),
      (∀ parent children, graph.lookup parent = some children →
        ∀ child ∈ children, child ∈ graph.keys) →
      ∀ endpoint ∈ graph.keys, ∀ path : List Int,
        ∃ answer, ∀ fuel, graph.keys.card < fuel → cycle graph fuel endpoint path = .ok answer) ∧
    ∀ (fuel : Nat) (fabricId nodeId : Option Int) (entries : List (EndpointEntry D)),
      64 < fuel → entries.length ≤ 64 → (∀ entry ∈ entries, entry.WellFormed sizes) →
      ∃ answer,
        (∀ others : List (EndpointEntry D), others.Perm entries →
          new sizes fuel (.three fabricId nodeId (some (rawEndpoints others))) = .ok answer) ∧
        (answer.isSome = true ↔
          (Address.new (rootPath fabricId nodeId)).isSome = true ∧ Accepted entries) ∧
        ∀ catalogue, answer = some catalogue →
          Gathered sizes fuel fabricId nodeId entries catalogue := by
  constructor
  · intro graph closed endpoint inside path
    have halts : ∀ fuel, graph.keys.card < fuel →
        ∃ answer, cycle graph fuel endpoint path = .ok answer :=
      fun fuel fuelled => cycle_halts closed inside ((Finset.card_filter_le _ _).trans_lt fuelled)
    obtain ⟨answer, answered⟩ := halts _ (Nat.lt_succ_self _)
    refine ⟨answer, fun fuel fuelled => ?_⟩
    obtain ⟨answer', answered'⟩ := halts fuel fuelled
    rw [answered', cycle_same answered answered']
  · intro fuel fabricId nodeId entries fuelled bounded wellFormed
    obtain ⟨answer, built, answers⟩ := build_iff fabricId nodeId fuelled bounded wellFormed
    refine ⟨answer, ?_, ?_, ?_⟩
    · intro others perm
      rw [new, build_congr fuelled bounded wellFormed perm, built]
    · rw [Option.isSome_iff_exists, Option.isSome_iff_exists]
      constructor
      · rintro ⟨catalogue, same⟩
        obtain ⟨root, addressed, accepted, -⟩ := (answers catalogue).mp same
        exact ⟨⟨root, addressed⟩, accepted⟩
      · rintro ⟨⟨root, addressed⟩, accepted⟩
        exact ⟨gathered root entries, (answers _).mpr ⟨root, addressed, accepted, rfl⟩⟩
    · intro catalogue same
      obtain ⟨root, addressed, accepted, rfl⟩ := (answers catalogue).mp same
      exact gathered_spec fuelled bounded wellFormed addressed accepted

/-- Details without members, which Jason writes as two bytes. -/
def noDetails : DetailSizes Unit where
  toSizes := noSizes
  jasonSize _ := some 2

/-- A root endpoint that names these parts. -/
def rootOf (children : List Int) : EndpointEntry Unit where
  endpoint := 0
  deviceTypes := .ok [] none
  serverClusters := .ok [] none
  clientClusters := .ok [] none
  parts := .ok children (some 10)

/-- A dimmable light; its client clusters could not be read. -/
def light : EndpointEntry Unit where
  endpoint := 1
  deviceTypes := .ok [⟨256, 2⟩] (some 11)
  serverClusters := .ok [0x0006, 0x0402] (some 12)
  clientClusters :=
    .error ⟨.atom "unsupported_path", .atom "member", .atom "permanent", .map (), .atom "false",
      .atom "none"⟩
  parts := .ok [] none

theorem rootOf_wellFormed {children : List Int} (few : children.length ≤ 64)
    (distinct : children.Nodup) (valid : ∀ child ∈ children, validEndpoint child) :
    (rootOf children).WellFormed noDetails where
  endpoint := show validEndpoint 0 = true by decide
  deviceTypes := by simp [rootOf, DescriptorResult.WellFormed]
  serverClusters := by simp [rootOf, DescriptorResult.WellFormed]
  clientClusters := by simp [rootOf, DescriptorResult.WellFormed]
  parts := ⟨⟨few, distinct, valid⟩, by simp⟩

theorem light_wellFormed : light.WellFormed noDetails where
  endpoint := by decide
  deviceTypes := by simp [light, DescriptorResult.WellFormed, DeviceType.InRange]
  serverClusters := ⟨by decide, by simp⟩
  clientClusters := by
    show validError noDetails _ = true
    decide
  parts := by simp [light, DescriptorResult.WellFormed]

/-- What the code finds valid is valid. -/
theorem accepted_of_validateGraph {entries : List (EndpointEntry D)} (fuel : Nat)
    (fuelled : entries.length < fuel) (valid : validateGraph fuel entries = .ok true)
    (clusters : clusterCount entries ≤ 1024) : Accepted entries := by
  obtain ⟨valid', answered, accepts⟩ := validateGraph_iff fuelled
  rw [valid] at answered
  exact
    { toValidGraph := accepts.mp (Except.ok.inj answered).symm
      clusters := clusterCount_eq_sum ▸ clusters }

/-- A light and its root in either order; and an endpoint that is its own part, which `cycle?`
answers about. -/
theorem new_exact_light :
    (∃ catalogue,
      new noDetails 65 (.three (some 1) (some 2) (some (rawEndpoints [light, rootOf [1]]))) =
        .ok (some catalogue) ∧
      Gathered noDetails 65 (some 1) (some 2) [light, rootOf [1]] catalogue) ∧
    ∃ answer, ∀ fuel, (graph [rootOf [0]]).keys.card < fuel →
      cycle (graph [rootOf [0]]) fuel 0 [] = .ok answer := by
  constructor
  · obtain ⟨answer, answered, accepts, gathers⟩ := (new_exact noDetails).2 65 (some 1) (some 2)
      [light, rootOf [1]] (by decide) (by decide) (by
        rw [List.forall_mem_cons, List.forall_mem_singleton]
        exact ⟨light_wellFormed, rootOf_wellFormed (by decide) (by decide) (by decide)⟩)
    have accepted : Accepted [light, rootOf [1]] :=
      accepted_of_validateGraph 3 (by decide) (by decide +kernel) (by decide)
    obtain ⟨catalogue, rfl⟩ := Option.isSome_iff_exists.mp (accepts.mpr ⟨by decide, accepted⟩)
    exact ⟨catalogue, answered _ (.refl _), gathers catalogue rfl⟩
  · refine (new_exact noDetails).1 (graph [rootOf [0]]) ?_ 0
      (Table.mem_keys_ofList.mpr (by decide)) []
    intro parent children listed child below
    obtain ⟨entry, member, -, rfl⟩ := (Table.lookup_ofList (by decide)).mp listed
    obtain rfl := List.mem_singleton.mp member
    exact Table.mem_keys_ofList.mpr (by simpa [parts, rootOf] using below)

/-- A node identifier of 64 bits that is not one of an operational node: the entries are accepted,
and no catalogue is made of them. -/
theorem new_exact_unaddressed :
    (∀ entry ∈ [rootOf []], entry.WellFormed noDetails) ∧ Accepted [rootOf []] ∧
      ∀ fuel, new noDetails fuel (.three (some 1) (some 0xFFFFFFF000000001)
        (some (rawEndpoints [rootOf []]))) = .ok none := by
  refine ⟨?_, accepted_of_validateGraph 2 (by decide) (by decide +kernel) (by decide), ?_⟩
  · rw [List.forall_mem_singleton]
    exact rootOf_wellFormed (by decide) (by decide) (by decide)
  · intro fuel
    have refused : Address.new (rootPath (some 1) (some 0xFFFFFFF000000001)) = none := by decide
    rw [new, build, refused]

end EndpointCatalogue

end WotexMatter.Read
