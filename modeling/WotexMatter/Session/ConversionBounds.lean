/-
# WotexMatter.Session.ConversionBounds -- how large a converted value is

An element on the wire has 1024 nodes at most, and `convert` (`native/src/value.cpp`) keeps its lists
to 1023 entries for that.  An identifier is one node; an entry of a device-type list is three.
`convertValue_bounded` says which converted values stay within the bounds of both sides: all but
device-type lists of more than 341 entries.
-/
import WotexMatter.Native.Conversion
import WotexMatter.Session.SchemaAgreement
import WotexMatter.Wire.ElementCodec

set_option autoImplicit false

namespace WotexMatter.Session

open WotexMatter.Native.Elements WotexMatter.Wire WotexMatter.Storage WotexMatter.Theory
open WotexMatter.Tlv (Width Floats encodeElements encodeValue encodeScalar encodeTag)
open WotexMatter.Value (MemberKind Operation Schema)

variable {F : Type}

/-! ## Elements of the host as elements of the BEAM -/

def tlvTag : Tag → Tlv.Tag
  | .anonymous => .anonymous
  | .context id => .context id.toNat

def tlvKind : Kind → Tlv.Container
  | .structure => .structure
  | .array => .array

mutual

def tlvElement : Element → Tlv.Element F
  | .null tag => .scalar (tlvTag tag) .null
  | .i16 tag value => .scalar (tlvTag tag) (.signed .w16 value)
  | .unsigned tag width value => .scalar (tlvTag tag) (.unsigned width value.toNat)
  | .boolean tag value => .scalar (tlvTag tag) (.boolean value)
  | .container tag kind children => .container (tlvTag tag) (tlvKind kind) (tlvElements children)

def tlvElements : List Element → List (Tlv.Element F)
  | [] => []
  | child :: rest => tlvElement child :: tlvElements rest

end

theorem sameTag_tlvTag (tag : Tag) : SameTag (tlvTag tag) tag := by
  cases tag with
  | anonymous => exact .anonymous
  | context id => exact .context id

mutual

theorem same_tlvElement (element : Element) : Same (tlvElement (F := F) element) element := by
  match element with
  | .null tag => exact .null (sameTag_tlvTag tag)
  | .i16 tag value => exact .i16 value (sameTag_tlvTag tag)
  | .unsigned tag width value => exact .unsigned width value (sameTag_tlvTag tag)
  | .boolean tag value => exact .boolean value (sameTag_tlvTag tag)
  | .container tag kind children =>
      refine .container (sameTag_tlvTag tag) ?_ (same_tlvElements children)
      cases kind with
      | array => exact .array
      | _ => exact .structure

theorem same_tlvElements (elements : List Element) :
    List.Forall₂ Same (tlvElements (F := F) elements) elements := by
  match elements with
  | [] => exact .nil
  | child :: rest => exact .cons (same_tlvElement child) (same_tlvElements rest)

end

theorem tag_tlvElement (element : Element) :
    (tlvElement (F := F) element).tag = tlvTag element.tag := by
  cases element <;> rfl

theorem tlvElements_map {α : Type} (write : α → Element) (values : List α) :
    tlvElements (F := F) (values.map write) = values.map fun value => tlvElement (write value) := by
  induction values with
  | nil => rfl
  | cons value rest ih => rw [List.map_cons, tlvElements, ih, List.map_cons]

theorem elementCount_pos (element : Element) : 0 < elementCount element := by
  cases element <;> simp [elementCount]

/-! ## Encoding -/

theorem encodeTag_tlvTag (tag : Tag) :
    ∃ control bytes, encodeTag (tlvTag tag) = some (control, bytes) ∧ bytes.length ≤ 1 := by
  cases tag with
  | anonymous => exact ⟨_, _, rfl, Nat.zero_le _⟩
  | context id =>
      have small : (id.toNat : Int) ≤ 255 := by
        have := id.toNat_lt
        omega
      rw [tlvTag, encodeTag, if_pos ⟨Int.natCast_nonneg _, small⟩]
      exact ⟨_, _, rfl, le_of_eq (LittleEndian.length_toBytes _ _)⟩

/-- A scalar in range can be written, in eight octets at most. -/
theorem encodeScalar_unsigned (floats : Floats F) (width : Width) {value : UInt64}
    (fits : value ≤ maximum width) :
    ∃ type body, encodeScalar floats (.unsigned width value.toNat) = some (type, body) ∧
      body.length ≤ 8 := by
  have below : (value.toNat : Int) < 256 ^ width.octets := by
    have : value.toNat ≤ (maximum width).toNat := UInt64.le_iff_toNat_le.mp fits
    cases width <;> simp [maximum, Width.octets] at this ⊢ <;> omega
  rw [encodeScalar, if_pos ⟨Int.natCast_nonneg _, below⟩]
  refine ⟨_, _, rfl, ?_⟩
  rw [LittleEndian.length_toBytes]
  cases width <;> decide

mutual

/-- **An element within the bounds can be written**, in ten octets a node. -/
theorem encodeElements_tlvElements (floats : Floats F) (elements : List Element) (depth budget : Nat)
    (nodes : elementCounts elements ≤ budget) (small : budget ≤ 1024)
    (deep : depth + heights elements ≤ 8) (fits : allInBounds elements = true) :
    ∃ bytes, encodeElements floats (tlvElements elements) depth budget =
        some (bytes, budget - elementCounts elements) ∧
      bytes.length ≤ 10 * elementCounts elements := by
  match elements with
  | [] => exact ⟨[], rfl, Nat.zero_le _⟩
  | child :: rest =>
      rw [elementCounts] at nodes ⊢
      rw [heights] at deep
      rw [allInBounds, Bool.and_eq_true] at fits
      have positive := elementCount_pos child
      have tall := height_pos child
      obtain ⟨control, tagBytes, tagged, oneTag⟩ := encodeTag_tlvTag child.tag
      obtain ⟨type, body, valued, short⟩ := encodeValue_tlvElement floats child depth
        (budget - 1) (by omega) (by omega) (by omega) fits.1
      obtain ⟨bytes, others, long⟩ := encodeElements_tlvElements floats rest depth
        (budget - elementCount child) (by omega) (by omega) (by omega)
        fits.2
      have left : budget - 1 - (elementCount child - 1) = budget - elementCount child := by omega
      rw [left] at valued
      rw [tlvElements, encodeElements, if_pos (by omega), tag_tlvElement, tagged]
      simp only [Option.bind_eq_bind, Option.bind_some, valued, others]
      rw [if_pos (by omega), Nat.sub_sub]
      refine ⟨_, rfl, ?_⟩
      simp only [List.length_cons, List.length_append]
      omega

theorem encodeValue_tlvElement (floats : Floats F) (element : Element) (depth budget : Nat)
    (nodes : elementCount element ≤ budget + 1) (small : budget ≤ 1023)
    (deep : depth + height element ≤ 8) (fits : inBounds element = true) :
    ∃ type body, encodeValue floats (tlvElement element) depth budget =
        some (type, body, budget - (elementCount element - 1)) ∧
      body.length + 2 ≤ 10 * elementCount element := by
  match element with
  | .null tag => exact ⟨20, [], rfl, by simp [elementCount]⟩
  | .i16 tag value =>
      simp only [inBounds, Bool.and_eq_true, decide_eq_true_eq] at fits
      have signed : LittleEndian.Signed Width.w16.octets value := by
        refine ⟨?_, ?_⟩ <;> simp only [Width.octets] <;> omega
      rw [tlvElement, encodeValue, encodeScalar, if_pos signed]
      refine ⟨_, _, rfl, ?_⟩
      rw [LittleEndian.length_toBytes]
      simp [elementCount, Width.octets]
  | .unsigned tag width value =>
      obtain ⟨type, body, written, short⟩ := encodeScalar_unsigned floats width
        (of_decide_eq_true fits)
      rw [tlvElement, encodeValue, written]
      refine ⟨_, _, rfl, ?_⟩
      rw [elementCount]
      · omega
      · exact nofun
  | .boolean tag value => exact ⟨_, [], rfl, by simp [elementCount]⟩
  | .container tag kind children =>
      rw [elementCount] at nodes ⊢
      rw [height] at deep
      rw [inBounds, Bool.and_eq_true] at fits
      obtain ⟨bytes, below, long⟩ := encodeElements_tlvElements floats children
        (depth + 1) budget (by omega) (by omega) (by omega) fits.2
      rw [tlvElement, encodeValue, if_pos (by omega)]
      simp only [Option.bind_eq_bind, Option.bind_some, below, Nat.add_sub_cancel_left]
      refine ⟨_, _, rfl, ?_⟩
      rw [List.length_append, List.length_singleton]
      omega

end

theorem admissible_of {elements : List (Tlv.Element F)}
    (each : ∀ element ∈ elements,
      Tlv.inside element = true ∧ Tlv.validChildren element.value = true) :
    Tlv.admissible elements = true := by
  induction elements with
  | nil => rfl
  | cons element rest ih =>
      obtain ⟨⟨inside, tags⟩, others⟩ := List.forall_mem_cons.mp each
      rw [Tlv.admissible, inside, tags, ih others]
      rfl

/-- What is within the bounds and tagged as it must be is validated. -/
theorem validateElement_tlvElement (floats : Floats F) {element : Element}
    (outer : element.tag = .anonymous) (nodes : elementCount element ≤ 1024)
    (deep : height element ≤ 8) (fits : inBounds element = true)
    (inside : Tlv.inside (tlvElement (F := F) element) = true)
    (tags : Tlv.validChildren (tlvElement (F := F) element).value = true) :
    Tlv.validateElement floats (tlvElement element) = some (tlvElement element) := by
  have within : Tlv.admissible (tlvElements (F := F) [element]) = true :=
    admissible_of (List.forall_mem_singleton.mpr ⟨inside, tags⟩)
  have free : Tlv.floatFree [tlvElement (F := F) element] = true :=
    same_floatFree _ (same_tlvElements [element])
  obtain ⟨bytes, written, short⟩ := encodeElements_tlvElements floats [element]
    0 1024 (by simpa [elementCounts] using nodes) (le_refl _)
    (by simpa [heights] using deep) (by simpa [allInBounds] using fits)
  have long : bytes.length ≤ 65536 := by
    have : elementCounts [element] ≤ 1024 := by simpa [elementCounts] using nodes
    omega
  have back := Tlv.parse_encoded _ written free false [] []
  rw [List.append_nil, Tlv.parse_nil, if_pos within] at back
  have decoded : Tlv.decode floats bytes = some [tlvElement element] := by
    rw [Tlv.decode, if_pos long, back]
    rfl
  have encoded : Tlv.encode floats [tlvElement element] = some bytes := by
    rw [Tlv.encode, show [tlvElement (F := F) element] = tlvElements [element] from rfl, written]
    simp [long, decoded]
  rw [Tlv.validateElement, tag_tlvElement, outer, if_pos (by rfl), encoded, Option.bind_some, decoded]

/-! ## The size of a converted value -/

section Lists

variable {α : Type} {write : α → Element}

theorem elementCounts_map {nodes : Nat} (each : ∀ value, elementCount (write value) = nodes)
    (values : List α) : elementCounts (values.map write) = nodes * values.length := by
  induction values with
  | nil => rfl
  | cons value rest ih =>
      rw [List.map_cons, elementCounts, each, ih, List.length_cons, Nat.mul_succ, Nat.add_comm]

theorem heights_map {levels : Nat} (each : ∀ value, height (write value) ≤ levels)
    (values : List α) : heights (values.map write) ≤ levels := by
  induction values with
  | nil => exact Nat.zero_le _
  | cons value rest ih => exact max_le (each value) ih

theorem allInBounds_map {values : List α} (each : ∀ value ∈ values, inBounds (write value) = true) :
    allInBounds (values.map write) = true := by
  induction values with
  | nil => rfl
  | cons value rest ih =>
      obtain ⟨first, others⟩ := List.forall_mem_cons.mp each
      rw [List.map_cons, allInBounds, first, ih others]
      rfl

theorem inBounds_array {values : List α} (few : values.length ≤ 1023)
    (each : ∀ value ∈ values, inBounds (write value) = true) :
    inBounds (.container .anonymous .array (values.map write)) = true := by
  rw [inBounds, allInBounds_map each, List.length_map, Bool.and_true]
  exact decide_eq_true few

/-- An array of such elements. -/
theorem array_tlvElement (values : List α) (outer : ∀ value, (write value).tag = .anonymous)
    (inside : ∀ value, Tlv.inside (tlvElement (F := F) (write value)) = true)
    (tags : ∀ value, Tlv.validChildren (tlvElement (F := F) (write value)).value = true) :
    Tlv.inside (tlvElement (F := F) (.container .anonymous .array (values.map write))) = true ∧
      Tlv.validChildren
        (tlvElement (F := F) (.container .anonymous .array (values.map write))).value = true := by
  rw [tlvElement, tlvElements_map]
  constructor
  · exact admissible_of (List.forall_mem_map.mpr fun value _ => ⟨inside value, tags value⟩)
  · refine List.all_eq_true.mpr (List.forall_mem_map.mpr fun value _ => ?_)
    rw [tag_tlvElement, outer]
    rfl

end Lists

theorem inBounds_deviceTypeElement (deviceType : DeviceType) :
    inBounds (deviceTypeElement deviceType) = true := by
  have id := deviceType.id.toNat_lt
  have revision := deviceType.revision.toNat_lt
  simp only [deviceTypeElement, inBounds, allInBounds, maximum, UInt64.le_iff_toNat_le,
    Bool.and_true, Bool.and_eq_true, decide_eq_true_eq, List.length_cons, List.length_nil]
  refine ⟨by omega, ?_, ?_⟩
  · rw [UInt32.toNat_toUInt64]
    show _ ≤ 4294967295
    omega
  · rw [UInt16.toNat_toUInt64]
    show _ ≤ 65535
    omega

theorem count_deviceTypeElement (deviceType : DeviceType) :
    elementCount (deviceTypeElement deviceType) = 3 := rfl

theorem count_identifierElement (width : Width) (identifier : UInt32) :
    elementCount (identifierElement width identifier) = 1 := rfl

/-- What both sides ask of the size of an element, and that both take it. -/
structure Bounded (floats : Floats F) (element : Element) : Prop where
  nodes : elementCount element ≤ 1024
  depth : height element ≤ 8
  native : elementDocument (elementJson element) = some element
  beam : Tlv.validateElement floats (tlvElement element) = some (tlvElement element)

theorem bounded_of {floats : Floats F} {element : Element} (outer : element.tag = .anonymous)
    (nodes : elementCount element ≤ 1024) (depth : height element ≤ 8)
    (fits : inBounds element = true)
    (tlv : Tlv.inside (tlvElement (F := F) element) = true ∧
      Tlv.validChildren (tlvElement (F := F) element).value = true) : Bounded floats element where
  nodes := nodes
  depth := depth
  native := elementDocument_elementJson ⟨nodes, by omega, fits⟩
  beam := validateElement_tlvElement floats outer nodes depth fits tlv.1 tlv.2

/-- A converted value is bounded, unless it is a list of too many device types. -/
theorem Converts.bounded (floats : Floats F) {value : NativeValue} {schema : Schema} {width : Width}
    (converts : Converts value schema width)
    (few : schema = .deviceTypeList → value.kind = .deviceTypes → value.deviceTypes.length ≤ 341) :
    Bounded floats (value.element width) := by
  have outer := tag_element width value
  cases converts with
  | null kind nullable =>
      rw [NativeValue.element, kind] at outer ⊢
      exact bounded_of outer (by simp [elementCount]) (by simp [height]) rfl ⟨rfl, rfl⟩
  | signed kind admitted low high =>
      rw [NativeValue.element, kind] at outer ⊢
      exact bounded_of outer (by simp [elementCount]) (by simp [height])
        (by simp [inBounds, low, high]) ⟨rfl, rfl⟩
  | unsigned kind range above below =>
      rw [NativeValue.element, kind] at outer ⊢
      refine bounded_of outer (by simp [elementCount]) (by simp [height]) ?_ ⟨rfl, rfl⟩
      have fits : value.unsignedValue.toNat ≤ (maximum width).toNat := by
        cases schema <;> cases range <;> exact below.trans (by decide)
      exact decide_eq_true (UInt64.le_iff_toNat_le.mpr fits)
  | boolean kind admitted =>
      rw [NativeValue.element, kind] at outer ⊢
      exact bounded_of outer (by simp [elementCount]) (by simp [height]) rfl ⟨rfl, rfl⟩
  | emptyStructure kind admitted =>
      rw [NativeValue.element, kind] at outer ⊢
      exact bounded_of outer (by simp [elementCount, elementCounts]) (by simp [height, heights]) rfl
        ⟨rfl, rfl⟩
  | deviceTypes kind admitted most =>
      have short := few admitted kind
      rw [NativeValue.element, kind] at outer ⊢
      refine bounded_of outer ?_ ?_ ?_ ?_
      · rw [elementCount, elementCounts_map count_deviceTypeElement]
        omega
      · have tall : heights (value.deviceTypes.map deviceTypeElement) ≤ 2 :=
          heights_map (fun type => le_refl (height (deviceTypeElement type))) value.deviceTypes
        rw [height]
        omega
      · exact inBounds_array most fun deviceType _ => inBounds_deviceTypeElement deviceType
      · exact array_tlvElement _ (fun _ => rfl) (fun _ => rfl) (fun _ => rfl)
  | identifiers kind listed most admitted =>
      rw [NativeValue.element, kind] at outer ⊢
      refine bounded_of outer ?_ ?_ ?_ ?_
      · rw [elementCount, elementCounts_map (count_identifierElement width), Nat.one_mul]
        omega
      · have tall : heights (value.identifiers.map (identifierElement width)) ≤ 1 :=
          heights_map (fun id => le_refl (height (identifierElement width id))) value.identifiers
        rw [height]
        omega
      · refine inBounds_array most fun identifier inside => ?_
        have fits : identifier.toUInt64.toNat ≤ (maximum width).toNat := by
          rw [UInt32.toNat_toUInt64]
          have small := identifier.toNat_lt
          have least := admitted identifier inside
          cases schema with
          | clusterList =>
              cases listed
              show _ ≤ 4294967295
              omega
          | partsList =>
              cases listed
              show _ ≤ 65535
              have := of_decide_eq_true least
              omega
          | _ => cases listed
        exact decide_eq_true (UInt64.le_iff_toNat_le.mpr fits)
      · exact array_tlvElement _ (fun _ => rfl) (fun _ => rfl) (fun _ => rfl)
  | reachable kind admitted =>
      rw [NativeValue.element, kind] at outer ⊢
      exact bounded_of outer (by simp [elementCount, elementCounts]) (by simp [height, heights]) rfl
        ⟨rfl, by simp [tlvElement, tlvElements, Tlv.Element.value, tlvKind, Tlv.validChildren,
          Tlv.Element.tag, tlvTag]⟩

/-- The member that has device types. -/
theorem lookup_deviceTypes {kind : MemberKind} {cluster member : UInt32} {operation : Value.Operation}
    {descriptor : Native.Elements.Descriptor}
    (found : lookupDescriptor kind cluster member = some descriptor)
    (admitted : descriptor.operations &&& operationFlag operation ≠ 0)
    (schema : descriptor.schema = .deviceTypeList) :
    kind = .attribute ∧ cluster = 0x001D ∧ member = 0 ∧ operation = .read := by
  have listed := List.mem_of_find?_eq_some found
  have matched := List.find?_some found
  simp only [Bool.and_eq_true, decide_eq_true_eq] at matched
  obtain ⟨⟨rfl, rfl⟩, rfl⟩ := matched
  have only : ∀ entry ∈ kDescriptors, entry.schema = .deviceTypeList →
      entry = ⟨.attribute, 0x001D, 0, .deviceTypeList, kRead⟩ := by
    simp [kDescriptors]
  obtain rfl := only descriptor listed schema
  refine ⟨rfl, rfl, rfl, ?_⟩
  cases operation with
  | read => rfl
  | _ => exact absurd (by decide) admitted

/-- Device types of an endpoint, more than fit and not more than `convert` takes. -/
def Overfull (kind : MemberKind) (cluster member : UInt32) (operation : Value.Operation)
    (value : NativeValue) : Prop :=
  (kind = .attribute ∧ cluster = 0x001D ∧ member = 0 ∧ operation = .read) ∧
    value.kind = .deviceTypes ∧ 341 < value.deviceTypes.length ∧ value.deviceTypes.length ≤ 1023

theorem convertValue_deviceTypes (value : NativeValue) (kind : value.kind = .deviceTypes)
    (few : value.deviceTypes.length ≤ 1023) :
    (convertValue .attribute 0x001D 0 .read value).element =
        some (.container .anonymous .array (value.deviceTypes.map deviceTypeElement)) ∧
      elementCount (.container .anonymous .array (value.deviceTypes.map deviceTypeElement)) =
        1 + 3 * value.deviceTypes.length := by
  constructor
  · show (if value.kind = .deviceTypes ∧ value.deviceTypes.length ≤ 1023 then
        success (.container .anonymous .array (value.deviceTypes.map deviceTypeElement))
      else failure .invalidValue).element = _
    rw [if_pos ⟨kind, few⟩]
    rfl
  · rw [elementCount, elementCounts_map count_deviceTypeElement]

/-- **The bounds of a converted value** hold, and both sides take it, for every value but a list of
more than 341 device types. -/
theorem convertValue_bounded (floats : Floats F) (kind : MemberKind) (cluster member : UInt32)
    (operation : Value.Operation) (value : NativeValue) :
    (∀ element, (convertValue kind cluster member operation value).element = some element →
        Bounded floats element) ↔ ¬Overfull kind cluster member operation value := by
  constructor
  · rintro bounded ⟨⟨rfl, rfl, rfl, rfl⟩, types, many, few⟩
    obtain ⟨converted, count⟩ := convertValue_deviceTypes value types few
    have nodes := (bounded _ converted).nodes
    rw [count] at nodes
    omega
  · intro fits element converted
    obtain ⟨descriptor, width, found, admitted, converts, rfl⟩ := convertValue_converts converted
    refine Converts.bounded floats converts fun schema types => ?_
    have here := lookup_deviceTypes found admitted schema
    obtain ⟨rfl, rfl, rfl, rfl⟩ := here
    by_contra many
    refine fits ⟨⟨rfl, rfl, rfl, rfl⟩, types, by omega, ?_⟩
    cases converts with
    | deviceTypes _ _ few => exact few
    | null kind => rw [types] at kind; cases kind
    | signed kind => rw [types] at kind; cases kind
    | unsigned kind => rw [types] at kind; cases kind
    | boolean kind => rw [types] at kind; cases kind
    | emptyStructure kind => rw [types] at kind; cases kind
    | identifiers kind => rw [types] at kind; cases kind
    | reachable kind => rw [types] at kind; cases kind

/-- So many device types. -/
def deviceTypeValue (entries : Nat) : NativeValue :=
  { kind := .deviceTypes, deviceTypes := List.replicate entries ⟨0x0100, 2⟩ }

theorem deviceTypeValue_converts (entries : Nat) (few : entries ≤ 1023) :
    ∃ element, (convertValue .attribute 0x001D 0 .read (deviceTypeValue entries)).element =
      some element ∧ elementCount element = 1 + 3 * entries := by
  have long : (deviceTypeValue entries).deviceTypes.length = entries := List.length_replicate
  obtain ⟨converted, count⟩ := convertValue_deviceTypes (deviceTypeValue entries) rfl
    (long.trans_le few)
  rw [long] at count
  exact ⟨_, converted, count⟩

/-- 342 device types convert, to 1027 nodes. -/
theorem convertValue_overfull :
    ∃ element, (convertValue .attribute 0x001D 0 .read (deviceTypeValue 342)).element =
      some element ∧ ¬elementCount element ≤ 1024 := by
  obtain ⟨element, converted, count⟩ := deviceTypeValue_converts 342 (by decide)
  exact ⟨element, converted, by omega⟩

end WotexMatter.Session
