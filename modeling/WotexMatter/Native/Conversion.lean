/-
# WotexMatter.Native.Conversion -- values of the SDK as elements

`convert_value` (`native/src/value.cpp`) writes what the SDK has decoded as an element;
`validate_element`, a switch of its own over the same schemas, judges elements from either side.
`Converts` says once which values convert under which schema and to what, and
`convertValue_validates` reads off that the two switches agree.  `readData` takes the data out of an
element again, by the widths and tags of its schema.
-/
import WotexMatter.Native.ElementSchema

set_option autoImplicit false

namespace WotexMatter.Native.Elements

open WotexMatter.Tlv (Width)
open WotexMatter.Value (MemberKind Operation Schema)

/-! ## Values -/

inductive NativeValueKind where
  | null
  | signed
  | unsigned
  | boolean
  | emptyStructure
  | deviceTypes
  | identifiers
  | reachable
  deriving DecidableEq

structure DeviceType where
  id : UInt32
  revision : UInt16
  deriving DecidableEq

/-- `signedValue` is an `std::int64_t`. -/
structure NativeValue where
  kind : NativeValueKind := .null
  signedValue : Int := 0
  unsignedValue : UInt64 := 0
  booleanValue : Bool := false
  deviceTypes : List DeviceType := []
  identifiers : List UInt32 := []
  deriving DecidableEq

structure Conversion where
  error : ConversionError
  element : Option Element

def success (element : Element) : Conversion := ⟨.none, some element⟩

def failure (error : ConversionError) : Conversion := ⟨error, none⟩

/-! ## Conversion -/

/-- The case of `I16`, into which that of `NullableI16` falls through. -/
def convertI16 (value : NativeValue) : Conversion :=
  if value.kind = .signed ∧ -32768 ≤ value.signedValue ∧ value.signedValue ≤ 32767 then
    success (.i16 .anonymous value.signedValue)
  else failure .invalidValue

/-- An unsigned number in a range, written in this width. -/
def convertUnsigned (width : Width) (low high : Nat) (value : NativeValue) : Conversion :=
  if value.kind = .unsigned ∧ low ≤ value.unsignedValue.toNat ∧ value.unsignedValue.toNat ≤ high then
    success (.unsigned .anonymous width value.unsignedValue)
  else failure .invalidValue

def deviceTypeElement (deviceType : DeviceType) : Element :=
  .container .anonymous .structure
    [.unsigned (.context 0) .w32 deviceType.id.toUInt64,
      .unsigned (.context 1) .w16 deviceType.revision.toUInt64]

def identifierElement (width : Width) (identifier : UInt32) : Element :=
  .unsigned .anonymous width identifier.toUInt64

/-- The loop over identifiers, which an inadmissible one ends. -/
def identifierElements (width : Width) (admits : UInt32 → Bool) :
    List UInt32 → Option (List Element)
  | [] => some []
  | identifier :: rest =>
      if admits identifier then
        (identifierElements width admits rest).map (identifierElement width identifier :: ·)
      else none

/-- `ClusterList` and `PartsList`. -/
def convertIdentifiers (width : Width) (admits : UInt32 → Bool) (value : NativeValue) : Conversion :=
  if value.kind = .identifiers ∧ value.identifiers.length ≤ 1023 then
    match identifierElements width admits value.identifiers with
    | some children => success (.container .anonymous .array children)
    | none => failure .invalidValue
  else failure .invalidValue

def convert (descriptor : Descriptor) (value : NativeValue) : Conversion :=
  match descriptor.schema with
  | .nullableI16 => if value.kind = .null then success (.null .anonymous) else convertI16 value
  | .i16 => convertI16 value
  | .u8 => convertUnsigned .w8 0 0xFF value
  | .boolean =>
      if value.kind = .boolean then success (.boolean .anonymous value.booleanValue)
      else failure .invalidValue
  | .emptyStructure =>
      if value.kind = .emptyStructure then success (.container .anonymous .structure [])
      else failure .invalidValue
  | .deviceTypeList =>
      if value.kind = .deviceTypes ∧ value.deviceTypes.length ≤ 1023 then
        success (.container .anonymous .array (value.deviceTypes.map deviceTypeElement))
      else failure .invalidValue
  | .clusterList => convertIdentifiers .w32 validCluster value
  | .partsList => convertIdentifiers .w16 (fun identifier => identifier.toNat ≤ 0xFFFE) value
  | .reachableEvent =>
      if value.kind = .reachable then
        success (.container .anonymous .structure [.boolean (.context 0) value.booleanValue])
      else failure .invalidValue
  | .windowStatus => convertUnsigned .w8 0 2 value
  | .nullableFabricIndex =>
      if value.kind = .null then success (.null .anonymous) else convertUnsigned .w8 1 254 value
  | .nullableVendorId =>
      if value.kind = .null then success (.null .anonymous) else convertUnsigned .w16 1 0xFFFE value
  | .accessControlList => failure .invalidValue

/-- `convert_value`. -/
def convertValue (kind : MemberKind) (cluster member : UInt32) (operation : Operation)
    (value : NativeValue) : Conversion :=
  match lookupDescriptor kind cluster member with
  | none => failure .unsupportedSchema
  | some descriptor =>
      if descriptor.operations &&& operationFlag operation = 0 then
        failure (if operation = .write then .notWritable else .unsupportedOperation)
      else convert descriptor value

/-! ## What converts -/

/-- The schemas that admit null. -/
def nullableSchema : Schema → Bool
  | .nullableI16 => true
  | .nullableFabricIndex => true
  | .nullableVendorId => true
  | _ => false

/-- The width and the range of a number of a schema. -/
def numberRange : Schema → Option (Width × Nat × Nat)
  | .u8 => some (.w8, 0, 0xFF)
  | .windowStatus => some (.w8, 0, 2)
  | .nullableFabricIndex => some (.w8, 1, 254)
  | .nullableVendorId => some (.w16, 1, 0xFFFE)
  | _ => none

/-- The width and the identifiers of a list. -/
def listRange : Schema → Option (Width × (UInt32 → Bool))
  | .clusterList => some (.w32, validCluster)
  | .partsList => some (.w16, fun identifier => identifier.toNat ≤ 0xFFFE)
  | _ => none

/-- The data of a value as an element, numbers in this width. -/
def NativeValue.element (width : Width) (value : NativeValue) : Element :=
  match value.kind with
  | .null => .null .anonymous
  | .signed => .i16 .anonymous value.signedValue
  | .unsigned => .unsigned .anonymous width value.unsignedValue
  | .boolean => .boolean .anonymous value.booleanValue
  | .emptyStructure => .container .anonymous .structure []
  | .deviceTypes => .container .anonymous .array (value.deviceTypes.map deviceTypeElement)
  | .identifiers => .container .anonymous .array (value.identifiers.map (identifierElement width))
  | .reachable => .container .anonymous .structure [.boolean (.context 0) value.booleanValue]

/-- A value that a schema takes, and the width of its numbers. -/
inductive Converts (value : NativeValue) (schema : Schema) : Width → Prop where
  | null (width : Width) (kind : value.kind = .null) (nullable : nullableSchema schema = true) :
      Converts value schema width
  | signed (width : Width) (kind : value.kind = .signed)
      (admitted : schema = .nullableI16 ∨ schema = .i16)
      (low : -32768 ≤ value.signedValue) (high : value.signedValue ≤ 32767) :
      Converts value schema width
  | unsigned {width : Width} {low high : Nat} (kind : value.kind = .unsigned)
      (range : numberRange schema = some (width, low, high))
      (above : low ≤ value.unsignedValue.toNat) (below : value.unsignedValue.toNat ≤ high) :
      Converts value schema width
  | boolean (width : Width) (kind : value.kind = .boolean) (admitted : schema = .boolean) :
      Converts value schema width
  | emptyStructure (width : Width) (kind : value.kind = .emptyStructure)
      (admitted : schema = .emptyStructure) : Converts value schema width
  | deviceTypes (width : Width) (kind : value.kind = .deviceTypes)
      (admitted : schema = .deviceTypeList) (few : value.deviceTypes.length ≤ 1023) :
      Converts value schema width
  | identifiers {width : Width} {admits : UInt32 → Bool} (kind : value.kind = .identifiers)
      (listed : listRange schema = some (width, admits))
      (few : value.identifiers.length ≤ 1023)
      (admitted : ∀ identifier ∈ value.identifiers, admits identifier = true) :
      Converts value schema width
  | reachable (width : Width) (kind : value.kind = .reachable)
      (admitted : schema = .reachableEvent) : Converts value schema width

theorem identifierElements_iff {width : Width} {admits : UInt32 → Bool} {identifiers : List UInt32}
    {children : List Element} :
    identifierElements width admits identifiers = some children ↔
      (∀ identifier ∈ identifiers, admits identifier = true) ∧
        children = identifiers.map (identifierElement width) := by
  induction identifiers generalizing children with
  | nil =>
      rw [identifierElements, Option.some.injEq, List.map_nil]
      exact ⟨fun same => ⟨nofun, same.symm⟩, fun both => both.2.symm⟩
  | cons identifier rest ih =>
      rw [identifierElements, List.forall_mem_cons]
      by_cases admitted : admits identifier = true
      · rw [if_pos admitted, Option.map_eq_some_iff]
        simp only [ih, admitted, true_and, List.map_cons]
        constructor
        · rintro ⟨others, ⟨all, rfl⟩, rfl⟩
          exact ⟨all, rfl⟩
        · rintro ⟨all, rfl⟩
          exact ⟨_, ⟨all, rfl⟩, rfl⟩
      · simp [admitted]

/-- A conversion that gives this element. -/
theorem guarded_success {guard : Prop} [Decidable guard] {given element : Element}
    (converted : (if guard then success given else failure .invalidValue).element = some element) :
    guard ∧ element = given := by
  by_cases holds : guard
  · rw [if_pos holds] at converted
    exact ⟨holds, (Option.some.inj converted).symm⟩
  · rw [if_neg holds] at converted
    cases converted

theorem convertI16_converts {value : NativeValue} {schema : Schema} {element : Element}
    (admitted : schema = .nullableI16 ∨ schema = .i16)
    (converted : (convertI16 value).element = some element) :
    ∃ width, Converts value schema width ∧ element = value.element width := by
  obtain ⟨⟨kind, low, high⟩, rfl⟩ := guarded_success converted
  refine ⟨.w16, .signed _ kind admitted low high, ?_⟩
  rw [NativeValue.element, kind]

theorem convertUnsigned_converts {value : NativeValue} {schema : Schema} {element : Element}
    {width : Width} {low high : Nat} (range : numberRange schema = some (width, low, high))
    (converted : (convertUnsigned width low high value).element = some element) :
    ∃ width, Converts value schema width ∧ element = value.element width := by
  obtain ⟨⟨kind, above, below⟩, rfl⟩ := guarded_success converted
  refine ⟨width, .unsigned kind range above below, ?_⟩
  rw [NativeValue.element, kind]

theorem convertIdentifiers_converts {value : NativeValue} {schema : Schema} {element : Element}
    {width : Width} {admits : UInt32 → Bool} (listed : listRange schema = some (width, admits))
    (converted : (convertIdentifiers width admits value).element = some element) :
    ∃ width, Converts value schema width ∧ element = value.element width := by
  unfold convertIdentifiers at converted
  split at converted
  · rename_i guard
    split at converted
    · rename_i children written
      obtain ⟨admitted, rfl⟩ := identifierElements_iff.mp written
      refine ⟨width, .identifiers guard.1 listed guard.2 admitted, ?_⟩
      rw [NativeValue.element, guard.1]
      exact (Option.some.inj converted).symm
    · cases converted
  · cases converted

/-- Null where the schema admits it, and else what the rest of the case does. -/
theorem nullable_converts {value : NativeValue} {schema : Schema} {element : Element}
    {conversion : Conversion} (nullable : nullableSchema schema = true)
    (converted : (if value.kind = .null then success (.null .anonymous) else conversion).element =
      some element)
    (other : conversion.element = some element →
      ∃ width, Converts value schema width ∧ element = value.element width) :
    ∃ width, Converts value schema width ∧ element = value.element width := by
  by_cases kind : value.kind = .null
  · rw [if_pos kind] at converted
    refine ⟨.w8, .null _ kind nullable, ?_⟩
    rw [NativeValue.element, kind]
    exact (Option.some.inj converted).symm
  · rw [if_neg kind] at converted
    exact other converted

/-- **What converts**: the element is the value's own data. -/
theorem convert_converts {descriptor : Descriptor} {value : NativeValue} {element : Element}
    (converted : (convert descriptor value).element = some element) :
    ∃ width, Converts value descriptor.schema width ∧ element = value.element width := by
  unfold convert at converted
  cases schema : descriptor.schema with
  | nullableI16 =>
      simp only [schema] at converted
      exact nullable_converts rfl converted (convertI16_converts (Or.inl rfl))
  | i16 =>
      simp only [schema] at converted
      exact convertI16_converts (Or.inr rfl) converted
  | u8 =>
      simp only [schema] at converted
      exact convertUnsigned_converts rfl converted
  | boolean =>
      simp only [schema] at converted
      obtain ⟨kind, rfl⟩ := guarded_success converted
      exact ⟨.w8, .boolean _ kind rfl, by rw [NativeValue.element, kind]⟩
  | emptyStructure =>
      simp only [schema] at converted
      obtain ⟨kind, rfl⟩ := guarded_success converted
      exact ⟨.w8, .emptyStructure _ kind rfl, by rw [NativeValue.element, kind]⟩
  | deviceTypeList =>
      simp only [schema] at converted
      obtain ⟨⟨kind, few⟩, rfl⟩ := guarded_success converted
      exact ⟨.w8, .deviceTypes _ kind rfl few, by rw [NativeValue.element, kind]⟩
  | clusterList =>
      simp only [schema] at converted
      exact convertIdentifiers_converts rfl converted
  | partsList =>
      simp only [schema] at converted
      exact convertIdentifiers_converts rfl converted
  | reachableEvent =>
      simp only [schema] at converted
      obtain ⟨kind, rfl⟩ := guarded_success converted
      exact ⟨.w8, .reachable _ kind rfl, by rw [NativeValue.element, kind]⟩
  | windowStatus =>
      simp only [schema] at converted
      exact convertUnsigned_converts rfl converted
  | nullableFabricIndex =>
      simp only [schema] at converted
      exact nullable_converts rfl converted (convertUnsigned_converts rfl)
  | nullableVendorId =>
      simp only [schema] at converted
      exact nullable_converts rfl converted (convertUnsigned_converts rfl)
  | accessControlList =>
      simp only [schema] at converted
      cases converted

/-- The member is described, admits the operation, and its schema takes the value. -/
theorem convertValue_converts {kind : MemberKind} {cluster member : UInt32} {operation : Operation}
    {value : NativeValue} {element : Element}
    (converted : (convertValue kind cluster member operation value).element = some element) :
    ∃ descriptor width, lookupDescriptor kind cluster member = some descriptor ∧
      descriptor.operations &&& operationFlag operation ≠ 0 ∧
      Converts value descriptor.schema width ∧ element = value.element width := by
  unfold convertValue at converted
  split at converted
  · cases converted
  · rename_i descriptor found
    split at converted
    · cases converted
    · rename_i admitted
      obtain ⟨width, converts, same⟩ := convert_converts converted
      exact ⟨descriptor, width, found, admitted, converts, same⟩

/-! ## What converts is valid -/

theorem tag_element (width : Width) (value : NativeValue) :
    (value.element width).tag = .anonymous := by
  unfold NativeValue.element
  cases value.kind <;> rfl

theorem toUInt32_toUInt64 (value : UInt32) : value.toUInt64.toUInt32 = value := by
  simp

theorem acceptsArray_map {α : Type} {child : Element → Bool} {write : α → Element} {values : List α}
    (few : values.length ≤ 1023) (all : ∀ value ∈ values, child (write value) = true) :
    acceptsArray child (.container .anonymous .array (values.map write)) = true := by
  simp only [acceptsArray, List.length_map, Bool.and_eq_true, decide_eq_true_eq]
  exact ⟨few, List.all_eq_true.mpr (List.forall_mem_map.mpr all)⟩

/-- **The two switches agree.** -/
theorem Converts.accepted {value : NativeValue} {schema : Schema} {width : Width}
    (converts : Converts value schema width) (operation : Operation) :
    acceptsSchema operation (value.element width) schema = true := by
  cases converts with
  | null kind nullable =>
      rw [NativeValue.element, kind]
      cases schema <;> first | rfl | cases nullable
  | signed kind admitted low high =>
      rw [NativeValue.element, kind]
      rcases admitted with rfl | rfl <;> simp [acceptsSchema, acceptsI16, low, high]
  | unsigned kind range above below =>
      rw [NativeValue.element, kind]
      cases schema <;> cases range <;>
        simp [acceptsSchema, Element.unsignedIn, Element.isNull, above, below]
  | boolean kind admitted =>
      rw [NativeValue.element, kind, admitted]
      rfl
  | emptyStructure kind admitted =>
      rw [NativeValue.element, kind, admitted]
      rfl
  | deviceTypes kind admitted few =>
      rw [NativeValue.element, kind, admitted]
      exact acceptsArray_map few fun _ _ => rfl
  | identifiers kind listed few admitted =>
      rw [NativeValue.element, kind]
      cases schema with
      | clusterList =>
          cases listed
          refine acceptsArray_map few fun identifier inside => ?_
          rw [identifierElement, clusterEntry, toUInt32_toUInt64]
          exact admitted identifier inside
      | partsList =>
          cases listed
          refine acceptsArray_map few fun identifier inside => ?_
          rw [identifierElement, partEntry, UInt32.toNat_toUInt64]
          exact admitted identifier inside
      | _ => cases listed
  | reachable kind admitted =>
      rw [NativeValue.element, kind, admitted]
      rfl

/-! ## What an element holds -/

/-- What a value says, by its kind. -/
inductive Data where
  | null
  | signed (value : Int)
  | unsigned (value : Nat)
  | boolean (value : Bool)
  | emptyStructure
  | deviceTypes (entries : List (Nat × Nat))
  | identifiers (entries : List Nat)
  | reachable (value : Bool)
  deriving DecidableEq

def NativeValue.data (value : NativeValue) : Data :=
  match value.kind with
  | .null => .null
  | .signed => .signed value.signedValue
  | .unsigned => .unsigned value.unsignedValue.toNat
  | .boolean => .boolean value.booleanValue
  | .emptyStructure => .emptyStructure
  | .deviceTypes =>
      .deviceTypes (value.deviceTypes.map fun entry => (entry.id.toNat, entry.revision.toNat))
  | .identifiers => .identifiers (value.identifiers.map UInt32.toNat)
  | .reachable => .reachable value.booleanValue

def readNull : Element → Option Data
  | .null .anonymous => some .null
  | _ => none

def readI16 : Element → Option Data
  | .i16 .anonymous value => some (.signed value)
  | _ => none

/-- The number of an element with this tag and width. -/
def readNumber (tag : Tag) (width : Width) : Element → Option Nat
  | .unsigned tag' width' value => if tag' = tag ∧ width' = width then some value.toNat else none
  | _ => none

def readBoolean (tag : Tag) : Element → Option Bool
  | .boolean tag' value => if tag' = tag then some value else none
  | _ => none

def readChildren (kind : Kind) : Element → Option (List Element)
  | .container .anonymous kind' children => if kind' = kind then some children else none
  | _ => none

def readDeviceType (element : Element) : Option (Nat × Nat) :=
  match readChildren .structure element with
  | some [id, revision] => do
      return (← readNumber (.context 0) .w32 id, ← readNumber (.context 1) .w16 revision)
  | _ => none

/-- The data of an element under a schema, every number in the width the schema gives it. -/
def readData (schema : Schema) (element : Element) : Option Data :=
  match schema with
  | .nullableI16 => readNull element <|> readI16 element
  | .i16 => readI16 element
  | .u8 => (readNumber .anonymous .w8 element).map .unsigned
  | .boolean => (readBoolean .anonymous element).map .boolean
  | .emptyStructure =>
      match readChildren .structure element with
      | some [] => some .emptyStructure
      | _ => none
  | .deviceTypeList => do
      return .deviceTypes (← (← readChildren .array element).mapM readDeviceType)
  | .clusterList => do
      return .identifiers (← (← readChildren .array element).mapM (readNumber .anonymous .w32))
  | .partsList => do
      return .identifiers (← (← readChildren .array element).mapM (readNumber .anonymous .w16))
  | .reachableEvent =>
      match readChildren .structure element with
      | some [child] => (readBoolean (.context 0) child).map .reachable
      | _ => none
  | .accessControlList => none
  | .windowStatus => (readNumber .anonymous .w8 element).map .unsigned
  | .nullableFabricIndex =>
      readNull element <|> (readNumber .anonymous .w8 element).map .unsigned
  | .nullableVendorId =>
      readNull element <|> (readNumber .anonymous .w16 element).map .unsigned

/-- A list that was written entry by entry is read entry by entry. -/
theorem mapM_map {α β : Type} {read : Element → Option β} {write : α → Element} {value : α → β}
    (each : ∀ entry, read (write entry) = some (value entry)) (entries : List α) :
    (entries.map write).mapM read = some (entries.map value) := by
  induction entries with
  | nil => rfl
  | cons entry rest ih =>
      rw [List.map_cons, List.mapM_cons, each, ih]
      rfl

theorem readDeviceType_deviceTypeElement (entry : DeviceType) :
    readDeviceType (deviceTypeElement entry) = some (entry.id.toNat, entry.revision.toNat) := by
  simp [readDeviceType, readChildren, deviceTypeElement, readNumber]

theorem readNumber_identifierElement (width : Width) (identifier : UInt32) :
    readNumber .anonymous width (identifierElement width identifier) = some identifier.toNat := by
  simp [readNumber, identifierElement]

/-- **The data read back is the data of the value.** -/
theorem Converts.readData {value : NativeValue} {schema : Schema} {width : Width}
    (converts : Converts value schema width) :
    Elements.readData schema (value.element width) = some value.data := by
  cases converts with
  | null kind nullable =>
      rw [NativeValue.element, NativeValue.data, kind]
      cases schema <;> first | rfl | cases nullable
  | signed kind admitted low high =>
      rw [NativeValue.element, NativeValue.data, kind]
      rcases admitted with rfl | rfl <;> rfl
  | unsigned kind range above below =>
      rw [NativeValue.element, NativeValue.data, kind]
      cases schema <;> cases range <;> simp [Elements.readData, readNull, readNumber]
  | boolean kind admitted =>
      rw [NativeValue.element, NativeValue.data, kind, admitted]
      rfl
  | emptyStructure kind admitted =>
      rw [NativeValue.element, NativeValue.data, kind, admitted]
      rfl
  | deviceTypes kind admitted few =>
      rw [NativeValue.element, NativeValue.data, kind, admitted]
      simp [Elements.readData, readChildren, mapM_map readDeviceType_deviceTypeElement]
  | identifiers kind listed few admitted =>
      rw [NativeValue.element, NativeValue.data, kind]
      cases schema <;> cases listed <;>
        simp [Elements.readData, readChildren, mapM_map (readNumber_identifierElement _)]
  | reachable kind admitted =>
      rw [NativeValue.element, NativeValue.data, kind, admitted]
      rfl

/-- **A converted value is valid under its own schema and carries the value's data**, which the
schema of the member reads back. -/
theorem convertValue_validates {kind : MemberKind} {cluster member : UInt32} {operation : Operation}
    {value : NativeValue} {element : Element}
    (converted : (convertValue kind cluster member operation value).element = some element) :
    validateElement kind cluster member operation element = .none ∧
      ∃ descriptor, lookupDescriptor kind cluster member = some descriptor ∧
        readData descriptor.schema element = some value.data := by
  obtain ⟨descriptor, width, found, admitted, converts, rfl⟩ := convertValue_converts converted
  refine ⟨?_, descriptor, found, converts.readData⟩
  rw [validateElement, found]
  dsimp only
  rw [if_neg admitted, if_neg (by simp [tag_element]), if_pos (converts.accepted operation)]

/-- Two device types, as the SDK gives them. -/
def twoDevices : NativeValue := { kind := .deviceTypes, deviceTypes := [⟨256, 2⟩, ⟨22, 3⟩] }

/-- The list they are written as. -/
def twoDevicesElement : Element :=
  .container .anonymous .array
    [.container .anonymous .structure
      [.unsigned (.context 0) .w32 256, .unsigned (.context 1) .w16 2],
    .container .anonymous .structure
      [.unsigned (.context 0) .w32 22, .unsigned (.context 1) .w16 3]]

theorem convertValue_validates_device :
    validateElement .attribute 0x001D 0 .read twoDevicesElement = .none ∧
      twoDevices.data = .deviceTypes [(256, 2), (22, 3)] ∧
      ∃ descriptor, lookupDescriptor .attribute 0x001D 0 = some descriptor ∧
        readData descriptor.schema twoDevicesElement = some twoDevices.data := by
  have converted : (convertValue .attribute 0x001D 0 .read twoDevices).element =
      some twoDevicesElement := rfl
  obtain ⟨valid, reads⟩ := convertValue_validates converted
  exact ⟨valid, rfl, reads⟩

end WotexMatter.Native.Elements
