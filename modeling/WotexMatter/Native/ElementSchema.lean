/-
# WotexMatter.Native.ElementSchema -- the schemas the host admits

The table of admitted members and `validate_element` (`value.cpp`).  Member kinds, operations and
schemas have the same names on both sides and are shared with the BEAM's table.
-/
import WotexMatter.Native.AccessControl

set_option autoImplicit false

namespace WotexMatter.Native.Elements

open WotexMatter.Tlv (Width)
open WotexMatter.Value (MemberKind Operation Schema)

def kRead : UInt8 := (1 : UInt8) <<< 0

def kWrite : UInt8 := (1 : UInt8) <<< 1

def kInvoke : UInt8 := (1 : UInt8) <<< 2

def kSubscribe : UInt8 := (1 : UInt8) <<< 3

structure Descriptor where
  kind : MemberKind
  cluster : UInt32
  member : UInt32
  schema : Schema
  operations : UInt8

def kDescriptors : List Descriptor :=
  [⟨.attribute, 0x0201, 0x0000, .nullableI16, kRead ||| kSubscribe⟩,
    ⟨.attribute, 0x0201, 0x0011, .i16, kRead ||| kWrite⟩,
    ⟨.attribute, 0x0201, 0x0012, .i16, kRead ||| kWrite⟩,
    ⟨.attribute, 0x0201, 0x001C, .u8, kRead ||| kWrite⟩,
    ⟨.attribute, 0x0006, 0x0000, .boolean, kRead ||| kSubscribe⟩,
    ⟨.command, 0x0006, 0x0000, .emptyStructure, kInvoke⟩,
    ⟨.command, 0x0006, 0x0001, .emptyStructure, kInvoke⟩,
    ⟨.command, 0x0006, 0x0002, .emptyStructure, kInvoke⟩,
    ⟨.attribute, 0x001D, 0x0000, .deviceTypeList, kRead⟩,
    ⟨.attribute, 0x001D, 0x0001, .clusterList, kRead⟩,
    ⟨.attribute, 0x001D, 0x0002, .clusterList, kRead⟩,
    ⟨.attribute, 0x001D, 0x0003, .partsList, kRead⟩,
    ⟨.attribute, 0x0039, 0x0011, .boolean, kRead ||| kSubscribe⟩,
    ⟨.event, 0x0039, 0x0003, .reachableEvent, kRead ||| kSubscribe⟩,
    ⟨.attribute, 0x0402, 0x0000, .nullableI16, kRead ||| kSubscribe⟩,
    ⟨.attribute, 0x001F, 0x0000, .accessControlList, kRead ||| kWrite⟩,
    ⟨.attribute, 0x003C, 0x0000, .windowStatus, kRead⟩,
    ⟨.attribute, 0x003C, 0x0001, .nullableFabricIndex, kRead⟩,
    ⟨.attribute, 0x003C, 0x0002, .nullableVendorId, kRead⟩]

/-- `operation_flag`. -/
def operationFlag : Operation → UInt8
  | .read => kRead
  | .write => kWrite
  | .invoke => kInvoke
  | .subscribe => kSubscribe

/-- `lookup_descriptor`. -/
def lookupDescriptor (kind : MemberKind) (cluster member : UInt32) : Option Descriptor :=
  kDescriptors.find? fun descriptor =>
    descriptor.kind = kind && descriptor.cluster = cluster && descriptor.member = member

inductive ConversionError where
  | none
  | unsupportedSchema
  | unsupportedOperation
  | notWritable
  | invalidValue
  deriving DecidableEq

/-! ## The cases of `validate_element` -/

def acceptsI16 : Element → Bool
  | .i16 _ value => -32768 ≤ value && value ≤ 32767
  | _ => false

/-- An array of at most 1023 such children. -/
def acceptsArray (child : Element → Bool) : Element → Bool
  | .container _ .array children => children.length ≤ 1023 && children.all child
  | _ => false

/-- A number of this tag and width. -/
def unsignedField (tag : Tag) (width : Width) : Element → Bool
  | .unsigned actual width' _ => actual = tag && width' = width
  | _ => false

def deviceTypeEntry : Element → Bool
  | .container .anonymous .structure [first, second] =>
      unsignedField (.context 0) .w32 first && unsignedField (.context 1) .w16 second
  | _ => false

def clusterEntry : Element → Bool
  | .unsigned .anonymous .w32 value => validCluster value.toUInt32
  | _ => false

def partEntry : Element → Bool
  | .unsigned .anonymous .w16 value => value.toNat ≤ 0xFFFE
  | _ => false

def acceptsBoolean : Element → Bool
  | .boolean _ _ => true
  | _ => false

def acceptsEmptyStructure : Element → Bool
  | .container _ .structure [] => true
  | _ => false

def acceptsReachable : Element → Bool
  | .container _ .structure [.boolean tag _] => tag = .context 0
  | _ => false

def acceptsSchema (operation : Operation) (element : Element) : Schema → Bool
  | .nullableI16 => element.isNull || acceptsI16 element
  | .i16 => acceptsI16 element
  | .u8 => element.unsignedIn .w8 0 0xFF
  | .boolean => acceptsBoolean element
  | .emptyStructure => acceptsEmptyStructure element
  | .deviceTypeList => acceptsArray deviceTypeEntry element
  | .clusterList => acceptsArray clusterEntry element
  | .partsList => acceptsArray partEntry element
  | .reachableEvent => acceptsReachable element
  | .windowStatus => element.unsignedIn .w8 0 2
  | .nullableFabricIndex => element.isNull || element.unsignedIn .w8 1 254
  | .nullableVendorId => element.isNull || element.unsignedIn .w16 1 0xFFFE
  | .accessControlList => validAccessControlList element operation

/-- `validate_element`. -/
def validateElement (kind : MemberKind) (cluster member : UInt32) (operation : Operation)
    (element : Element) : ConversionError :=
  match lookupDescriptor kind cluster member with
  | none => .unsupportedSchema
  | some descriptor =>
      if descriptor.operations &&& operationFlag operation = 0 then
        if operation = .write then .notWritable else .unsupportedOperation
      else if element.tag ≠ .anonymous then .invalidValue
      else if acceptsSchema operation element descriptor.schema then .none
      else .invalidValue

end WotexMatter.Native.Elements
