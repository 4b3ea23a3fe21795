/-
# WotexMatter.Wire.InteractionParameters -- the parameters of an interaction

`OptionalUint` and `InteractionParameters` (`protocol.cpp`), and `valid_interaction_request`
(`interaction.cpp`).  The keys are counted and not compared, and the options an operation allows are
checked on the request.

A `value` beside a read is counted and never read.  Such parameters are accepted with a key outside
the allowlist and say nothing in the request; with the `i16` that wraps they are all the parameters
that are not the image of their request (`interactionParameters_exact`).
-/
import WotexMatter.Native.ElementSchema
import WotexMatter.Wire.ElementCodec
import WotexMatter.Wire.Selector

set_option autoImplicit false

namespace WotexMatter.Wire

open WotexMatter.Native.Elements (Element validCluster validateElement)
open WotexMatter.Storage
open WotexMatter.Value (MemberKind Operation)

/-! ## Requests -/

def kMaximumInteractionPaths : Nat := 64

inductive InteractionKind where
  | readAttribute
  | readAttributes
  | readEvents
  | write
  | invoke
  deriving DecidableEq

structure InteractionRequest where
  kind : InteractionKind
  fabricId : UInt64
  nodeId : UInt64
  paths : List PathSelector
  value : Option Element
  expectedDataVersion : Option UInt32
  timedRequestTimeoutMs : Option UInt16
  minimumEventNumber : Option UInt64
  timeoutMs : UInt32

/-- `ValidSelector`. -/
def validSelector (path : PathSelector) (concrete : Bool) : Bool :=
  if path.fabricId = 0 ∨ path.nodeId = 0 ∨ kMaximumOperationalNode < path.nodeId then false
  else if concrete ∧ (path.endpoint = none ∨ path.cluster = none ∨ path.member = none) then false
  else
    path.endpoint.all (· ≤ 0xFFFE) && path.cluster.all validCluster &&
      path.member.all (· ≤ 0xFFFFFFFE)

namespace InteractionKind

/-- `mutation`. -/
def mutates : InteractionKind → Bool
  | write => true
  | invoke => true
  | _ => false

/-- `single`. -/
def single : InteractionKind → Bool
  | readAttribute => true
  | write => true
  | invoke => true
  | _ => false

end InteractionKind

/-- `valid_interaction_request`. -/
def validInteractionRequest (request : InteractionRequest) : Bool :=
  let mutation := request.kind.mutates
  if request.timeoutMs = 0 ∨ 60000 < request.timeoutMs ∨ request.fabricId = 0 ∨
      request.nodeId = 0 ∨ 0xFFFFFFEFFFFFFFFF < request.nodeId ∨ request.paths = [] ∨
      kMaximumInteractionPaths < request.paths.length then false
  else if ¬request.paths.all fun path =>
      path.fabricId = request.fabricId && path.nodeId = request.nodeId &&
        validSelector path (request.kind ≠ .readAttributes) then false
  else if mutation ≠ request.value.isSome then false
  else if request.expectedDataVersion.isSome ∧ request.kind ≠ .write then false
  else if request.timedRequestTimeoutMs.any fun timed =>
      !mutation || timed = 0 || request.timeoutMs < timed.toUInt32 then false
  else if request.minimumEventNumber.isSome ∧ request.kind ≠ .readEvents then false
  else if mutation then
    match request.paths, request.value with
    | [⟨_, _, some _, some cluster, some member⟩], some value =>
        validateElement (if request.kind = .write then .attribute else .command) cluster member
          (if request.kind = .write then .write else .invoke) value = .none
    | _, _ => false
  else
    request.value.isNone && request.expectedDataVersion.isNone &&
      request.timedRequestTimeoutMs.isNone

/-! ## Parameters -/

/-- The kind of an operation. -/
def interactionKind (operation : Bytes) : Option InteractionKind :=
  if operation = ascii "read" then some .readAttribute
  else if operation = ascii "read_paths" then some .readAttributes
  else if operation = ascii "read_events" then some .readEvents
  else if operation = ascii "write" then some .write
  else if operation = ascii "invoke" then some .invoke
  else none

/-- `OptionalUint`. -/
def optionalUint (parameters : List (Bytes × Json)) (key : Bytes) (maximum : UInt64) :
    Option (Option UInt64) :=
  match parameters.lookup key with
  | none => some none
  | some value => (unsigned value maximum).map some

/-- The paths of the parameters. -/
def interactionPaths (kind : InteractionKind) (parameters : List (Bytes × Json)) :
    Option (List PathSelector) :=
  if kind.single then (pathValues parameters false).map fun path => [path]
  else
    match parameters.lookup (ascii "paths") with
    | some (.array paths) =>
        if paths ≠ [] ∧ paths.length ≤ kMaximumInteractionPaths then
          selectors (kind = .readAttributes) paths
        else none
    | _ => none

/-- The value of a mutation. -/
def interactionValue (kind : InteractionKind) (parameters : List (Bytes × Json)) :
    Option (Option Element) :=
  if kind.mutates then
    match parameters.lookup (ascii "value") with
    | some value => (elementDocument value).map some
    | none => none
  else some none

/-- `parameters.contains`, counted. -/
def contained (parameters : List (Bytes × Json)) (key : Bytes) : Nat :=
  (parameters.lookup key).isSome.toNat

/-- `option_keys`. -/
def optionKeys (parameters : List (Bytes × Json)) : Nat :=
  contained parameters (ascii "value") + contained parameters (ascii "expected_data_version") +
    contained parameters (ascii "timed_request_timeout_ms") +
    contained parameters (ascii "min_event_number")

/-- `InteractionParameters`. -/
def interactionParameters (operation : Bytes) (document : Json) (timeoutMs : UInt32) :
    Option InteractionRequest :=
  match interactionKind operation, document with
  | some kind, .object parameters => do
      let paths ← interactionPaths kind parameters
      let front ← paths.head?
      let expected ← optionalUint parameters (ascii "expected_data_version") 0xFFFFFFFF
      let timed ← optionalUint parameters (ascii "timed_request_timeout_ms") 65535
      let minimumEvent ← optionalUint parameters (ascii "min_event_number") 0xFFFFFFFFFFFFFFFF
      if timed = some 0 then none
      else
        let value ← interactionValue kind parameters
        let request : InteractionRequest :=
          { kind, fabricId := front.fabricId, nodeId := front.nodeId, paths, value
            expectedDataVersion := expected.map UInt64.toUInt32
            timedRequestTimeoutMs := timed.map UInt64.toUInt16
            minimumEventNumber := minimumEvent, timeoutMs }
        if parameters.length = (if kind.single then 5 else 1) + optionKeys parameters ∧
            validInteractionRequest request then some request
        else none
  | _, _ => none

/-! ## The shape of an operation -/

inductive ParameterField where
  | path (field : PathField)
  | paths
  | value
  | expectedDataVersion
  | timedRequestTimeoutMs
  | minEventNumber
  deriving DecidableEq

namespace ParameterField

def key : ParameterField → Bytes
  | path field => field.key
  | paths => ascii "paths"
  | value => ascii "value"
  | expectedDataVersion => ascii "expected_data_version"
  | timedRequestTimeoutMs => ascii "timed_request_timeout_ms"
  | minEventNumber => ascii "min_event_number"

/-- The allowlist of an operation. -/
def allows (kind : InteractionKind) : ParameterField → Bool
  | path _ => kind.single
  | paths => !kind.single
  | value => kind.mutates
  | expectedDataVersion => kind = .write
  | timedRequestTimeoutMs => kind.mutates
  | minEventNumber => kind = .readEvents

/-- A field that is no option. -/
def required : ParameterField → Bool
  | path _ => true
  | paths => true
  | value => true
  | _ => false

/-- The fields whose keys are counted. -/
def counted (kind : InteractionKind) : List ParameterField :=
  (if kind.single then PathField.all.map path else [paths]) ++
    [value, expectedDataVersion, timedRequestTimeoutMs, minEventNumber]

/-- A field of a request as it is written. -/
def json (request : InteractionRequest) : ParameterField → Option Json
  | path field => request.paths.head?.map fun path => field.json path
  | paths => some (.array (request.paths.map selectorJson))
  | value => request.value.map elementJson
  | expectedDataVersion => request.expectedDataVersion.map fun value => .unsigned value.toUInt64
  | timedRequestTimeoutMs => request.timedRequestTimeoutMs.map fun value => .unsigned value.toUInt64
  | minEventNumber => request.minimumEventNumber.map .unsigned

theorem distinct (kind : InteractionKind) : ((counted kind).map key).Nodup := by
  cases kind <;> decide

theorem path_counted {kind : InteractionKind} {field : PathField} :
    path field ∈ counted kind ↔ kind.single = true := by
  cases kind <;> simp [counted, InteractionKind.single, PathField.mem_all]

theorem paths_counted {kind : InteractionKind} : paths ∈ counted kind ↔ kind.single = false := by
  cases kind <;> simp [counted, InteractionKind.single]

end ParameterField

/-- The parameters that say what a request says. -/
def parametersJson (request : InteractionRequest) : Json :=
  .object (fieldMembers ParameterField.key (ParameterField.counted request.kind) fun field =>
    field.json request)

/-- The keys of an object are the fields its operation requires and options it allows. -/
structure Shape (kind : InteractionKind) (parameters : List (Bytes × Json)) : Prop where
  distinct : (parameters.map Prod.fst).Nodup
  allowed : ∀ key ∈ parameters.map Prod.fst, ∃ field : ParameterField, field.allows kind = true ∧
    field.key = key
  required : ∀ field : ParameterField, field.allows kind = true → field.required = true →
    field.key ∈ parameters.map Prod.fst

/-- No value beside a read, and no number that wraps in the value of a mutation. -/
def Clean (kind : InteractionKind) (parameters : List (Bytes × Json)) : Prop :=
  ∀ value, parameters.lookup (ascii "value") = some value → kind.mutates = true ∧ ¬Wraps value

/-! ## What is accepted -/

/-- What the reader has checked of parameters it accepts. -/
structure Accepted (parameters : List (Bytes × Json)) (request : InteractionRequest) : Prop where
  paths : interactionPaths request.kind parameters = some request.paths
  expected : optionalUint parameters (ascii "expected_data_version") 0xFFFFFFFF =
    some (request.expectedDataVersion.map UInt32.toUInt64)
  timed : optionalUint parameters (ascii "timed_request_timeout_ms") 65535 =
    some (request.timedRequestTimeoutMs.map UInt16.toUInt64)
  minimum : optionalUint parameters (ascii "min_event_number") 0xFFFFFFFFFFFFFFFF =
    some request.minimumEventNumber
  value : interactionValue request.kind parameters = some request.value
  counted : parameters.length = (if request.kind.single then 5 else 1) + optionKeys parameters
  valid : validInteractionRequest request = true

theorem optionalUint_some {parameters : List (Bytes × Json)} {key : Bytes} {maximum : UInt64}
    {number : Option UInt64} (read : optionalUint parameters key maximum = some number) :
    parameters.lookup key = number.map .unsigned ∧ ∀ value ∈ number, value ≤ maximum := by
  unfold optionalUint at read
  split at read
  · rename_i missing
    cases read
    exact ⟨missing, fun _ inside => nomatch inside⟩
  · rename_i value there
    simp only [Option.map_eq_some_iff] at read
    obtain ⟨found, inside, rfl⟩ := read
    obtain ⟨rfl, small⟩ := unsigned_some inside
    exact ⟨there, by simpa using small⟩

theorem interactionParameters_cases {operation : Bytes} {document : Json} {timeoutMs : UInt32}
    {request : InteractionRequest}
    (read : interactionParameters operation document timeoutMs = some request) :
    ∃ parameters, document = .object parameters ∧ interactionKind operation = some request.kind ∧
      request.timeoutMs = timeoutMs ∧ Accepted parameters request := by
  unfold interactionParameters at read
  split at read
  · rename_i kind parameters named
    simp only [Option.bind_eq_bind, Option.bind_eq_some_iff, Option.ite_none_left_eq_some,
      Option.ite_none_right_eq_some, Option.some.injEq] at read
    obtain ⟨paths, pathed, front, -, expected, first, timed, second, minimum, third, -, value,
      valued, ⟨counted, valid⟩, rfl⟩ := read
    refine ⟨parameters, rfl, named, rfl, pathed, ?_, ?_, third, valued, counted, valid⟩
    · rw [toUInt32_kept (by decide) (optionalUint_some first).2]
      exact first
    · rw [toUInt16_kept (by decide) (optionalUint_some second).2]
      exact second
  · cases read

/-- The options of a valid request are those its operation allows. -/
theorem validInteractionRequest_options {request : InteractionRequest}
    (valid : validInteractionRequest request = true) :
    request.value.isSome = request.kind.mutates ∧
      (request.expectedDataVersion.isSome = true → request.kind = .write) ∧
      (request.timedRequestTimeoutMs.isSome = true → request.kind.mutates = true) ∧
      (request.minimumEventNumber.isSome = true → request.kind = .readEvents) := by
  unfold validInteractionRequest at valid
  dsimp only at valid
  split at valid
  · cases valid
  split at valid
  · cases valid
  split at valid
  · cases valid
  rename_i valued
  split at valid
  · cases valid
  rename_i expected
  split at valid
  · cases valid
  rename_i timed
  split at valid
  · cases valid
  rename_i minimum
  refine ⟨(not_not.mp valued).symm, fun there => ?_, fun there => ?_, fun there => ?_⟩
  · by_contra other
    exact expected ⟨there, other⟩
  · obtain ⟨number, same⟩ := Option.isSome_iff_exists.mp there
    rw [same, Option.any_some, Bool.or_eq_true, Bool.or_eq_true, Bool.not_eq_true'] at timed
    by_contra quiet
    exact timed (.inl (.inl (Bool.eq_false_of_not_eq_true quiet)))
  · by_contra other
    exact minimum ⟨there, other⟩

/-- Every field but the value is found in the request. -/
theorem Accepted.field_image {parameters : List (Bytes × Json)} {request : InteractionRequest}
    (accepted : Accepted parameters request) {field : ParameterField}
    (counted : field ∈ ParameterField.counted request.kind) (other : field ≠ .value) :
    (parameters.lookup field.key).map canonical = (field.json request).map canonical := by
  have pathed := accepted.paths
  unfold interactionPaths at pathed
  cases field with
  | path field =>
      have single := ParameterField.path_counted.mp counted
      rw [if_pos single, Option.map_eq_some_iff] at pathed
      obtain ⟨path, read, same⟩ := pathed
      rw [ParameterField.json, ← same]
      exact congrArg _ (pathValues_image read field)
  | paths =>
      have several := ParameterField.paths_counted.mp counted
      rw [if_neg (by rw [several]; exact Bool.false_ne_true)] at pathed
      split at pathed
      · rename_i items there
        rw [Option.ite_none_right_eq_some] at pathed
        rw [ParameterField.key, there, ParameterField.json, Option.map_some, Option.map_some,
          canonical, canonical, selectors_image pathed.2]
      · cases pathed
  | value => exact absurd rfl other
  | expectedDataVersion =>
      rw [ParameterField.key, (optionalUint_some accepted.expected).1, ParameterField.json]
      simp only [Option.map_map, Function.comp_def]
  | timedRequestTimeoutMs =>
      rw [ParameterField.key, (optionalUint_some accepted.timed).1, ParameterField.json]
      simp only [Option.map_map, Function.comp_def]
  | minEventNumber =>
      rw [ParameterField.key, (optionalUint_some accepted.minimum).1, ParameterField.json]

/-- The value is found in the request if the parameters are clean. -/
theorem Accepted.value_image {parameters : List (Bytes × Json)} {request : InteractionRequest}
    (accepted : Accepted parameters request) :
    (parameters.lookup (ascii "value")).map canonical =
        (ParameterField.value.json request).map canonical ↔
      Clean request.kind parameters := by
  have options := (validInteractionRequest_options accepted.valid).1
  have valued := accepted.value
  unfold interactionValue at valued
  split at valued
  · rename_i mutates
    split at valued
    · rename_i value there
      simp only [Option.map_eq_some_iff] at valued
      obtain ⟨element, read, same⟩ := valued
      rw [there, ParameterField.json, ← same, Option.map_some, Option.map_some, Option.map_some,
        Option.some.injEq, elementDocument_image read]
      constructor
      · intro plain found same
        rw [there] at same
        cases same
        exact ⟨mutates, plain⟩
      · intro clean
        exact (clean value there).2
    · cases valued
  · rename_i quiet
    have missing : request.value = none := (Option.some.inj valued).symm
    rw [ParameterField.json, missing, Option.map_none, Option.map_none, Option.map_eq_none_iff]
    constructor
    · intro absent value there
      rw [absent] at there
      cases there
    · intro clean
      cases there : parameters.lookup (ascii "value") with
      | none => rfl
      | some value => exact absurd (clean value there).1 quiet

/-- The keys of the paths are there. -/
theorem Accepted.path_present {parameters : List (Bytes × Json)} {request : InteractionRequest}
    (accepted : Accepted parameters request) {field : ParameterField}
    (counted : field ∈ if request.kind.single then PathField.all.map .path else [.paths]) :
    (parameters.lookup field.key).isSome = true := by
  have pathed := accepted.paths
  unfold interactionPaths at pathed
  split at counted
  · rename_i single
    obtain ⟨field, -, rfl⟩ := List.mem_map.mp counted
    rw [if_pos single, Option.map_eq_some_iff] at pathed
    obtain ⟨path, read, -⟩ := pathed
    rw [ParameterField.key, pathValues_image read field]
    rfl
  · rename_i several
    rw [List.mem_singleton.mp counted, ParameterField.key]
    rw [if_neg several] at pathed
    split at pathed
    · rename_i there
      rw [there]
      rfl
    · cases pathed

/-- The keys of accepted parameters are among those that are counted. -/
theorem Accepted.perm {parameters : List (Bytes × Json)} {request : InteractionRequest}
    (accepted : Accepted parameters request) :
    parameters.Perm (fieldMembers ParameterField.key (ParameterField.counted request.kind)
      fun field => parameters.lookup field.key) := by
  refine counted_perm (ParameterField.distinct _) ?_
  rw [accepted.counted, ParameterField.counted, List.filter_append, List.length_append,
    List.filter_eq_self.mpr fun field listed => accepted.path_present listed]
  congr 1
  · cases request.kind <;> rfl
  · simp only [optionKeys, contained, ParameterField.key, List.filter_cons, List.filter_nil]
    generalize (parameters.lookup (ascii "value")).isSome = value
    generalize (parameters.lookup (ascii "expected_data_version")).isSome = expected
    generalize (parameters.lookup (ascii "timed_request_timeout_ms")).isSome = timed
    generalize (parameters.lookup (ascii "min_event_number")).isSome = minimum
    cases value <;> cases expected <;> cases timed <;> cases minimum <;> rfl

theorem Accepted.image_iff {parameters : List (Bytes × Json)} {request : InteractionRequest}
    (accepted : Accepted parameters request) :
    canonical (.object parameters) = canonical (parametersJson request) ↔
      Clean request.kind parameters := by
  have distinct := ParameterField.distinct request.kind
  rw [canonical_perm accepted.perm (fieldMembers_distinct distinct _), parametersJson,
    canonical_fields_iff distinct, ← accepted.value_image]
  constructor
  · intro same
    exact same .value (by simp [ParameterField.counted])
  · intro valued field counted
    by_cases value : field = .value
    · rw [value]
      exact valued
    · exact accepted.field_image counted value

theorem mem_keys_of_lookup {parameters : List (Bytes × Json)} {key : Bytes}
    (there : (parameters.lookup key).isSome = true) : key ∈ parameters.map Prod.fst := by
  obtain ⟨value, found⟩ := Option.isSome_iff_exists.mp there
  obtain ⟨before, after, rfl, -⟩ := List.lookup_eq_some_iff.mp found
  simp

/-- A field that is there is one its operation allows, unless it is the value. -/
theorem Accepted.allowed {parameters : List (Bytes × Json)} {request : InteractionRequest}
    (accepted : Accepted parameters request) {field : ParameterField}
    (counted : field ∈ ParameterField.counted request.kind)
    (there : (parameters.lookup field.key).isSome = true) (other : field ≠ .value) :
    field.allows request.kind = true := by
  obtain ⟨-, expected, timed, minimum⟩ := validInteractionRequest_options accepted.valid
  cases field with
  | path field => exact ParameterField.path_counted.mp counted
  | paths =>
      rw [ParameterField.allows, ParameterField.paths_counted.mp counted]
      rfl
  | value => exact absurd rfl other
  | expectedDataVersion =>
      rw [ParameterField.key, (optionalUint_some accepted.expected).1, Option.isSome_map,
        Option.isSome_map] at there
      exact decide_eq_true (expected there)
  | timedRequestTimeoutMs =>
      rw [ParameterField.key, (optionalUint_some accepted.timed).1, Option.isSome_map,
        Option.isSome_map] at there
      exact timed there
  | minEventNumber =>
      rw [ParameterField.key, (optionalUint_some accepted.minimum).1, Option.isSome_map] at there
      exact decide_eq_true (minimum there)

/-- Every field the operation requires is there. -/
theorem Accepted.required {parameters : List (Bytes × Json)} {request : InteractionRequest}
    (accepted : Accepted parameters request) {field : ParameterField}
    (allowed : field.allows request.kind = true) (required : field.required = true) :
    (parameters.lookup field.key).isSome = true := by
  cases field with
  | path field =>
      refine accepted.path_present ?_
      rw [ParameterField.allows] at allowed
      rw [if_pos allowed]
      exact List.mem_map_of_mem (PathField.mem_all field)
  | paths =>
      refine accepted.path_present ?_
      rw [ParameterField.allows, Bool.not_eq_true'] at allowed
      rw [allowed]
      exact List.mem_singleton_self _
  | value =>
      have valued := accepted.value
      unfold interactionValue at valued
      rw [ParameterField.allows] at allowed
      rw [if_pos allowed] at valued
      split at valued
      · rename_i there
        rw [ParameterField.key, there]
        rfl
      · cases valued
  | _ => cases required

/-- Clean parameters have the shape of their operation. -/
theorem Accepted.shape {parameters : List (Bytes × Json)} {request : InteractionRequest}
    (accepted : Accepted parameters request) (clean : Clean request.kind parameters) :
    Shape request.kind parameters := by
  have keys := accepted.perm.map Prod.fst
  rw [fieldMembers_keys] at keys
  refine ⟨?_, ?_, fun field allowed required =>
    mem_keys_of_lookup (accepted.required allowed required)⟩
  · rw [keys.nodup_iff]
    exact (ParameterField.distinct _).sublist (List.filter_sublist.map _)
  · intro key listed
    obtain ⟨field, inside, rfl⟩ := List.mem_map.mp (keys.mem_iff.mp listed)
    obtain ⟨counted, there⟩ := List.mem_filter.mp inside
    refine ⟨field, ?_, rfl⟩
    by_cases value : field = .value
    · subst value
      obtain ⟨value, found⟩ := Option.isSome_iff_exists.mp there
      exact (clean value found).1
    · exact accepted.allowed counted there value

/-! ## The parameters and their request -/

/-- **Parameters are exact where they are clean.**  Accepted parameters have the shape of their
operation and are the image of their request if and only if no value stands beside a read and no
number wraps in the value of a mutation.  Beside clean parameters, others are read as the same
request only if they are the same JSON value or are not clean. -/
theorem interactionParameters_exact (operation : Bytes) (kind : InteractionKind)
    (timeoutMs : UInt32) (request : InteractionRequest) (parameters : List (Bytes × Json))
    (named : interactionKind operation = some kind)
    (read : interactionParameters operation (.object parameters) timeoutMs = some request) :
    ((Shape kind parameters ∧ canonical (.object parameters) = canonical (parametersJson request)) ↔
      Clean kind parameters) ∧
    ∀ others, interactionParameters operation (.object others) timeoutMs = some request →
      Clean kind parameters →
      (canonical (.object others) = canonical (.object parameters) ↔ Clean kind others) := by
  obtain ⟨_, same, named', -, accepted⟩ := interactionParameters_cases read
  cases same
  obtain rfl : kind = request.kind := Option.some.inj (named.symm.trans named')
  refine ⟨⟨fun exact => accepted.image_iff.mp exact.2,
    fun clean => ⟨accepted.shape clean, accepted.image_iff.mpr clean⟩⟩, ?_⟩
  intro others another clean
  obtain ⟨_, same, -, -, accepted'⟩ := interactionParameters_cases another
  cases same
  rw [accepted.image_iff.mpr clean]
  exact accepted'.image_iff

/-- The parameters of a read of the on-off cluster, with other members behind them. -/
def onOffRead (others : List (Bytes × Json)) : List (Bytes × Json) :=
  [(ascii "fabric_id", .unsigned 1), (ascii "node_id", .unsigned 2),
    (ascii "endpoint", .unsigned 1), (ascii "cluster", .unsigned 6),
    (ascii "member", .unsigned 0)] ++ others

def onOffRequest : InteractionRequest where
  kind := .readAttribute
  fabricId := 1
  nodeId := 2
  paths := [⟨1, 2, some 1, some 6, some 0⟩]
  value := none
  expectedDataVersion := none
  timedRequestTimeoutMs := none
  minimumEventNumber := none
  timeoutMs := 1000

theorem onOffRead_plain :
    interactionParameters (ascii "read") (.object (onOffRead [])) 1000 = some onOffRequest := rfl

theorem onOffRead_value :
    interactionParameters (ascii "read") (.object (onOffRead [(ascii "value", .null)])) 1000 =
      some onOffRequest := rfl

theorem interactionParameters_exact_onOff :
    Shape .readAttribute (onOffRead []) ∧
      canonical (.object (onOffRead [])) = canonical (parametersJson onOffRequest) ∧
      canonical (.object (onOffRead [(ascii "value", .null)])) ≠
        canonical (.object (onOffRead [])) := by
  have clean : Clean .readAttribute (onOffRead []) := fun _ there => nomatch there
  have dirty : ¬Clean .readAttribute (onOffRead [(ascii "value", .null)]) :=
    fun clean => nomatch (clean .null rfl).1
  have exact := interactionParameters_exact (ascii "read") .readAttribute 1000 onOffRequest
    (onOffRead []) rfl onOffRead_plain
  obtain ⟨shape, image⟩ := exact.1.mpr clean
  exact ⟨shape, image, fun same => dirty ((exact.2 _ onOffRead_value clean).mp same)⟩

/-- A read with a value is accepted, although its operation does not allow the key, and its request
is that of the read without the value. -/
theorem interactionParameters_unread :
    interactionParameters (ascii "read") (.object (onOffRead [(ascii "value", .null)])) 1000 =
        interactionParameters (ascii "read") (.object (onOffRead [])) 1000 ∧
      (interactionParameters (ascii "read") (.object (onOffRead [])) 1000).isSome = true ∧
      ¬Shape .readAttribute (onOffRead [(ascii "value", .null)]) ∧
      canonical (.object (onOffRead [(ascii "value", .null)])) ≠
        canonical (.object (onOffRead [])) := by
  refine ⟨onOffRead_value.trans onOffRead_plain.symm, rfl, ?_, fun same =>
    absurd (canonical_object_length same) (by decide)⟩
  intro shape
  obtain ⟨field, allowed, same⟩ := shape.allowed (ascii "value") (by simp [onOffRead])
  cases field with
  | path field =>
      cases field <;> revert same <;> decide
  | value => exact nomatch allowed
  | _ =>
      revert same
      decide

end WotexMatter.Wire
