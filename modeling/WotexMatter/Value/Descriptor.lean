/-
# WotexMatter.Value.Descriptor -- the schemas the BEAM admits

`Wotex.Matter.Descriptor` (`descriptor.ex`): the table of admitted members, and the check of one
element against the schema of its member.  `none` and `false` are every `{:error, _}`.

`schema_matches?` is asked about elements that `TLV.validate_element` has passed.
-/
import WotexMatter.Tlv.Codec
import WotexMatter.Value.Address

set_option autoImplicit false

namespace WotexMatter.Value

open WotexMatter.Tlv

variable {F : Type}

inductive MemberKind where
  | attribute
  | command
  | event
  deriving DecidableEq

inductive Operation where
  | read
  | write
  | invoke
  | subscribe
  deriving DecidableEq

inductive Schema where
  | nullableI16
  | i16
  | u8
  | boolean
  | emptyStructure
  | deviceTypeList
  | clusterList
  | partsList
  | reachableEvent
  | accessControlList
  | windowStatus
  | nullableFabricIndex
  | nullableVendorId
  deriving DecidableEq

structure Descriptor where
  kind : MemberKind
  cluster : Int
  member : Int
  schema : Schema
  operations : List Operation
  deriving DecidableEq

namespace Descriptor

/-- `@entries`. -/
def entries : List Descriptor :=
  [⟨.attribute, 0x0201, 0x0000, .nullableI16, [.read, .subscribe]⟩,
    ⟨.attribute, 0x0201, 0x0011, .i16, [.read, .write]⟩,
    ⟨.attribute, 0x0201, 0x0012, .i16, [.read, .write]⟩,
    ⟨.attribute, 0x0201, 0x001C, .u8, [.read, .write]⟩,
    ⟨.attribute, 0x0006, 0x0000, .boolean, [.read, .subscribe]⟩,
    ⟨.command, 0x0006, 0x0000, .emptyStructure, [.invoke]⟩,
    ⟨.command, 0x0006, 0x0001, .emptyStructure, [.invoke]⟩,
    ⟨.command, 0x0006, 0x0002, .emptyStructure, [.invoke]⟩,
    ⟨.attribute, 0x001D, 0x0000, .deviceTypeList, [.read]⟩,
    ⟨.attribute, 0x001D, 0x0001, .clusterList, [.read]⟩,
    ⟨.attribute, 0x001D, 0x0002, .clusterList, [.read]⟩,
    ⟨.attribute, 0x001D, 0x0003, .partsList, [.read]⟩,
    ⟨.attribute, 0x0039, 0x0011, .boolean, [.read, .subscribe]⟩,
    ⟨.event, 0x0039, 0x0003, .reachableEvent, [.read, .subscribe]⟩,
    ⟨.attribute, 0x0402, 0x0000, .nullableI16, [.read, .subscribe]⟩,
    ⟨.attribute, 0x001F, 0x0000, .accessControlList, [.read, .write]⟩,
    ⟨.attribute, 0x003C, 0x0000, .windowStatus, [.read]⟩,
    ⟨.attribute, 0x003C, 0x0001, .nullableFabricIndex, [.read]⟩,
    ⟨.attribute, 0x003C, 0x0002, .nullableVendorId, [.read]⟩]

def find (kind : MemberKind) (cluster member : Int) : Option Descriptor :=
  entries.find? fun entry => entry.kind = kind ∧ entry.cluster = cluster ∧ entry.member = member

def lookup (kind : MemberKind) (path : Option Address) (operation : Operation) :
    Option Descriptor := do
  let address ← Address.new path
  let descriptor ← find kind address.cluster address.member
  if operation ∈ descriptor.operations then some descriptor else none

/-- `valid_cluster?`. -/
def validCluster (value : Int) : Bool := qualified value

/-! ## Access control -/

/-- `privilege?`. -/
def privilege : Element F → Bool
  | .scalar _ (.unsigned .w8 value) => inRange value 1 5
  | _ => false

/-- `auth_mode?`. -/
def authMode : Element F → Bool
  | .scalar _ (.unsigned .w8 value) => inRange value 2 3
  | _ => false

/-- The clauses of `subjects?` and `targets?`. -/
def nullableList (entry : Element F → Bool) : Element F → Bool
  | .scalar _ .null => true
  | .container _ .array entries => entries.length ≤ 64 && entries.all entry
  | _ => false

def subjectElement : Element F → Bool
  | .scalar .anonymous (.unsigned .w64 _) => true
  | _ => false

/-- `subjects?`. -/
def subjects (element : Element F) : Bool := nullableList subjectElement element

/-- `nullable_scalar?`; `admits` is the range, or `valid_cluster?`. -/
def nullableScalar (element : Element F) (tag : Tag) (width : Width) (admits : Int → Bool) : Bool :=
  element.tag = tag &&
    match element with
    | .scalar _ .null => true
    | .scalar _ (.unsigned actual value) => actual = width && admits value
    | _ => false

/-- `is_nil(nullable_value(element))`. -/
def isNull : Element F → Bool
  | .scalar _ .null => true
  | _ => false

/-- `valid_target_selectors?`, of whether each is `nil`. -/
def validTargetSelectors (cluster endpoint deviceType : Bool) : Bool :=
  !(cluster && endpoint && deviceType) && (endpoint || deviceType)

/-- `target_element?`. -/
def targetElement : Element F → Bool
  | .container .anonymous .structure [cluster, endpoint, device] =>
      nullableScalar cluster (.context 0) .w32 validCluster &&
        nullableScalar endpoint (.context 1) .w16 (inRange · 0 0xFFFE) &&
        nullableScalar device (.context 2) .w32 (inRange · 0 0xFFFFFFFF) &&
        validTargetSelectors (isNull cluster) (isNull endpoint) (isNull device)
  | _ => false

/-- `targets?`. -/
def targets (element : Element F) : Bool := nullableList targetElement element

/-- `optional_u8?`. -/
def optionalU8 (low high : Int) : Option (Element F) → Bool
  | none => true
  | some (.scalar _ (.unsigned .w8 value)) => inRange value low high
  | some _ => false

/-- `Map.new(fields, &{&1.tag, &1})`, of which the last field of a tag stays. -/
def byTag (fields : List (Element F)) (tag : Tag) : Option (Element F) :=
  fields.reverse.find? fun field => field.tag = tag

def requiredTags : List Tag := [.context 1, .context 2, .context 3, .context 4]

def allowedTags (operation : Operation) : List Tag :=
  requiredTags ++ [.context 5] ++ if operation = .read then [.context 254] else []

/-- `access_entry_element?`. -/
def accessEntryElement (operation : Operation) : Element F → Bool
  | .container .anonymous .structure fields =>
      decide (fields.map Element.tag).Nodup &&
        (requiredTags.all fun tag => (byTag fields tag).isSome) &&
        (fields.all fun field => (allowedTags operation).contains field.tag) &&
        (byTag fields (.context 1)).any privilege && (byTag fields (.context 2)).any authMode &&
        (byTag fields (.context 3)).any subjects && (byTag fields (.context 4)).any targets &&
        optionalU8 0 1 (byTag fields (.context 5)) && optionalU8 1 254 (byTag fields (.context 254))
  | _ => false

/-! ## Schemas -/

/-- The clauses of `schema_matches?` for `:i16`. -/
def matchesI16 : Element F → Bool
  | .scalar .anonymous (.signed .w16 value) => inRange value (-32768) 32767
  | _ => false

/-- The clauses of `schema_matches?` for a number of one width. -/
def matchesUnsigned (width : Width) (low high : Int) : Element F → Bool
  | .scalar .anonymous (.unsigned actual value) => actual = width && inRange value low high
  | _ => false

def matchesNull : Element F → Bool
  | .scalar .anonymous .null => true
  | _ => false

/-- The clauses of `schema_matches?` for an array. -/
def matchesArray (child : Element F → Bool) : Element F → Bool
  | .container .anonymous .array children => children.all child
  | _ => false

/-- The entries of a `:cluster_list`. -/
def clusterElement : Element F → Bool
  | .scalar .anonymous (.unsigned .w32 value) => validCluster value
  | _ => false

/-- A number of this tag and width. -/
def unsignedField (tag : Tag) (width : Width) : Element F → Bool
  | .scalar actual (.unsigned width' _) => actual = tag && width' = width
  | _ => false

/-- The entries of a `:device_type_list`. -/
def deviceTypeElement : Element F → Bool
  | .container .anonymous .structure [first, second] =>
      unsignedField (.context 0) .w32 first && unsignedField (.context 1) .w16 second
  | _ => false

/-- `schema_matches?`. -/
def schemaMatches (operation : Operation) : Schema → Element F → Bool
  | .nullableI16, element => matchesNull element || matchesI16 element
  | .i16, element => matchesI16 element
  | .u8, element => matchesUnsigned .w8 0 255 element
  | .boolean, .scalar .anonymous (.boolean _) => true
  | .boolean, _ => false
  | .emptyStructure, .container .anonymous .structure [] => true
  | .emptyStructure, _ => false
  | .clusterList, element => matchesArray clusterElement element
  | .partsList, element => matchesArray (matchesUnsigned .w16 0 0xFFFE) element
  | .deviceTypeList, element => matchesArray deviceTypeElement element
  | .reachableEvent, .container .anonymous .structure [.scalar tag (.boolean _)] =>
      tag = .context 0
  | .reachableEvent, _ => false
  | .windowStatus, element => matchesUnsigned .w8 0 2 element
  | .nullableFabricIndex, element => matchesNull element || matchesUnsigned .w8 1 254 element
  | .nullableVendorId, element => matchesNull element || matchesUnsigned .w16 1 65534 element
  | .accessControlList, .container .anonymous .array values =>
      values.length ≤ 64 && values.all (accessEntryElement operation)
  | .accessControlList, _ => false

/-- `validate_element`. -/
def validateElement (floats : Floats F) (kind : MemberKind) (path : Option Address)
    (operation : Operation) (element : Option (Element F)) : Option (Element F) := do
  let descriptor ← lookup kind path operation
  let normalized ← element.bind (Tlv.validateElement floats)
  if schemaMatches operation descriptor.schema normalized then some normalized else none

end Descriptor

end WotexMatter.Value
