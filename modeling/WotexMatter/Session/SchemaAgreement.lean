/-
# WotexMatter.Session.SchemaAgreement -- two validators of one value

The BEAM and the host check a value against the schema of its member with code of their own.
`Same` is one element in both languages.  The tables agree (`schemas_agree`), and so do the checks
of every schema but that of access-control lists (`schema_agrees`).
-/
import WotexMatter.Native.ElementSchema
import WotexMatter.Tlv.Encodable
import WotexMatter.Value.Descriptor

set_option autoImplicit false

namespace WotexMatter.Session

open WotexMatter.Native
open WotexMatter.Tlv (Width Floats)
open WotexMatter.Value (Address MemberKind Schema inRange)

variable {F : Type} {floats : Floats F}

/-! ## One element in both languages -/

inductive SameTag : Tlv.Tag → Elements.Tag → Prop where
  | anonymous : SameTag .anonymous .anonymous
  | context (id : UInt8) : SameTag (.context id.toNat) (.context id)

inductive SameKind : Tlv.Container → Elements.Kind → Prop where
  | structure : SameKind .structure .structure
  | array : SameKind .array .array

inductive Same : Tlv.Element F → Elements.Element → Prop where
  | null {tag : Tlv.Tag} {native : Elements.Tag} (tags : SameTag tag native) :
      Same (.scalar tag .null) (.null native)
  | i16 {tag : Tlv.Tag} {native : Elements.Tag} (value : Int) (tags : SameTag tag native) :
      Same (.scalar tag (.signed .w16 value)) (.i16 native value)
  | unsigned {tag : Tlv.Tag} {native : Elements.Tag} (width : Width) (value : UInt64)
      (tags : SameTag tag native) :
      Same (.scalar tag (.unsigned width value.toNat)) (.unsigned native width value)
  | boolean {tag : Tlv.Tag} {native : Elements.Tag} (value : Bool) (tags : SameTag tag native) :
      Same (.scalar tag (.boolean value)) (.boolean native value)
  | container {tag : Tlv.Tag} {native : Elements.Tag} {kind : Tlv.Container} {kind' : Elements.Kind}
      {children : List (Tlv.Element F)} {children' : List Elements.Element}
      (tags : SameTag tag native) (kinds : SameKind kind kind')
      (inside : List.Forall₂ Same children children') :
      Same (.container tag kind children) (.container native kind' children')

theorem Same.tags {element : Tlv.Element F} {native : Elements.Element}
    (same : Same element native) : SameTag element.tag native.tag := by
  cases same <;> assumption

/-- Both sides agree on which tags are anonymous. -/
theorem SameTag.anonymous_iff {tag : Tlv.Tag} {native : Elements.Tag} (same : SameTag tag native) :
    tag = .anonymous ↔ native = .anonymous := by
  cases same <;> simp

/-- An 8-bit context tag is the same number on both sides. -/
theorem SameTag.context_iff {tag : Tlv.Tag} {native : Elements.Tag} (same : SameTag tag native)
    (id : UInt8) : tag = .context id.toNat ↔ native = .context id := by
  cases same with
  | anonymous => simp
  | context other =>
      simp only [Tlv.Tag.context.injEq, Elements.Tag.context.injEq, Int.natCast_inj]
      exact UInt8.toNat_inj

mutual

/-- The host has no floats, so an element it has a counterpart for holds none. -/
theorem Same.floatFree (element : Tlv.Element F) {native : Elements.Element}
    (same : Same element native) : element.floatFree = true := by
  match element, same with
  | _, .null _ => rfl
  | _, .i16 _ _ => rfl
  | _, .unsigned _ _ _ => rfl
  | _, .boolean _ _ => rfl
  | .container _ _ children, .container _ _ inside => exact same_floatFree children inside

theorem same_floatFree (elements : List (Tlv.Element F)) {natives : List Elements.Element}
    (same : List.Forall₂ Same elements natives) : Tlv.floatFree elements = true := by
  match elements, same with
  | [], _ => rfl
  | element :: others, .cons first rest =>
      rw [Tlv.floatFree, Same.floatFree element first, same_floatFree others rest]
      rfl

end

/-! ## The tables -/

def operationsOf (flags : UInt8) : List Value.Operation :=
  [.read, .write, .invoke, .subscribe].filter fun operation =>
    flags &&& Elements.operationFlag operation ≠ 0

/-- An entry of the host's table as one of the BEAM's. -/
def entryOf (descriptor : Elements.Descriptor) : Value.Descriptor where
  kind := descriptor.kind
  cluster := descriptor.cluster.toNat
  member := descriptor.member.toNat
  schema := descriptor.schema
  operations := operationsOf descriptor.operations

/-- **The tables of the two languages are one table**, entry by entry. -/
theorem entries_agree : Elements.kDescriptors.map entryOf = Value.Descriptor.entries := by decide

/-- The flags of an entry, read as the set they stand for. -/
theorem mem_operationsOf {flags : UInt8} {operation : Value.Operation} :
    operation ∈ operationsOf flags ↔ flags &&& Elements.operationFlag operation ≠ 0 := by
  cases operation <;> simp [operationsOf]

/-- The first entry that matches is the same one, in tables of the same order. -/
theorem lookups_agree (kind : MemberKind) (cluster member : UInt32) :
    Value.Descriptor.find kind cluster.toNat member.toNat =
      (Elements.lookupDescriptor kind cluster member).map entryOf := by
  rw [Value.Descriptor.find, Elements.lookupDescriptor, ← entries_agree, List.find?_map]
  congr 2
  funext descriptor
  rw [Bool.eq_iff_iff]
  simp only [entryOf, Int.natCast_inj, UInt32.toNat_inj, Bool.and_eq_true, decide_eq_true_eq,
    Function.comp_apply, and_assoc]

/-- The address the BEAM checks, for a member the host is asked about. -/
def memberAddress (fabric node endpoint : Int) (cluster member : UInt32) : Address where
  fabricId := fabric
  nodeId := node
  endpoint := endpoint
  cluster := cluster.toNat
  member := member.toNat

/-- Fabric, node and endpoint are as they must be. -/
def ValidPlace (fabric node endpoint : Int) : Prop :=
  (memberAddress fabric node endpoint 0 0).valid = true

/-- The schema of a member, if the operation is admitted. -/
def schemaOf (kind : MemberKind) (cluster member : UInt32) (operation : Value.Operation) :
    Option Schema := do
  let descriptor ← Elements.lookupDescriptor kind cluster member
  if descriptor.operations &&& Elements.operationFlag operation = 0 then none
  else some descriptor.schema

/-- No entry is for a member that an address cannot name. -/
theorem table_valid : ∀ descriptor ∈ Elements.kDescriptors,
    Value.qualified descriptor.cluster.toNat = true ∧
      inRange descriptor.member.toNat 0 0xFFFFFFFE = true := by decide

/-- An address of an admitted member is valid wherever its place is. -/
theorem address_valid {fabric node endpoint : Int} (place : ValidPlace fabric node endpoint)
    {cluster member : UInt32} (admitted : Value.qualified cluster.toNat = true ∧
      inRange member.toNat 0 0xFFFFFFFE = true) :
    (memberAddress fabric node endpoint cluster member).valid = true := by
  simp only [ValidPlace, Address.valid, memberAddress, Bool.and_eq_true] at place ⊢
  exact ⟨⟨place.1.1, admitted.1⟩, admitted.2⟩

/-- **A member has one schema, looked up on either side.** -/
theorem schemas_agree {fabric node endpoint : Int} (place : ValidPlace fabric node endpoint)
    (kind : MemberKind) (cluster member : UInt32) (operation : Value.Operation) :
    (Value.Descriptor.lookup kind (some (memberAddress fabric node endpoint cluster member))
      operation).map Value.Descriptor.schema = schemaOf kind cluster member operation := by
  have found := lookups_agree kind cluster member
  rw [Value.Descriptor.lookup, schemaOf, Address.new]
  cases native : Elements.lookupDescriptor kind cluster member with
  | none =>
      rw [native] at found
      split
      · show (Option.bind (Value.Descriptor.find kind cluster.toNat member.toNat) _).map _ = none
        rw [found]
        rfl
      · rfl
  | some descriptor =>
      rw [native] at found
      have admitted := table_valid descriptor (List.mem_of_find?_eq_some native)
      have mine := List.find?_some native
      simp only [Bool.and_eq_true, decide_eq_true_eq] at mine
      rw [mine.1.2, mine.2] at admitted
      rw [if_pos (address_valid place admitted)]
      show (Option.bind (Value.Descriptor.find kind cluster.toNat member.toNat) _).map _ = _
      rw [found]
      show (if operation ∈ operationsOf descriptor.operations then some (entryOf descriptor)
        else none).map Value.Descriptor.schema =
          if descriptor.operations &&& Elements.operationFlag operation = 0 then none
          else some descriptor.schema
      by_cases flag : descriptor.operations &&& Elements.operationFlag operation = 0
      · rw [if_neg fun listed => mem_operationsOf.mp listed flag, if_pos flag]
        rfl
      · rw [if_pos (mem_operationsOf.mpr flag), if_neg flag]
        rfl

/-- The host's validator says nothing exactly where the schema takes the element. -/
theorem native_none_iff {kind : MemberKind} {cluster member : UInt32} {operation : Value.Operation}
    {element : Elements.Element} (outer : element.tag = .anonymous) :
    Elements.validateElement kind cluster member operation element = .none ↔
      ∃ schema, schemaOf kind cluster member operation = some schema ∧
        Elements.acceptsSchema operation element schema = true := by
  rw [Elements.validateElement, schemaOf]
  cases Elements.lookupDescriptor kind cluster member with
  | none => simp
  | some descriptor =>
      by_cases flag : descriptor.operations &&& Elements.operationFlag operation = 0
      · obtain rfl | other := eq_or_ne operation .write
        · simp [flag]
        · simp [flag, other]
      · simp [flag, outer]

/-- `Descriptor.validate_element` returns the element exactly there, too. -/
theorem beam_some_iff {fabric node endpoint : Int} (place : ValidPlace fabric node endpoint)
    {kind : MemberKind} {cluster member : UInt32} {operation : Value.Operation}
    {element : Tlv.Element F} (validated : Tlv.validateElement floats element = some element) :
    (Value.Descriptor.validateElement floats kind
      (some (memberAddress fabric node endpoint cluster member)) operation
        (some element)).isSome = true ↔
      ∃ schema, schemaOf kind cluster member operation = some schema ∧
        Value.Descriptor.schemaMatches operation schema element = true := by
  have agree := schemas_agree place kind cluster member operation
  rw [Value.Descriptor.validateElement, ← agree]
  cases Value.Descriptor.lookup kind
      (some (memberAddress fabric node endpoint cluster member)) operation with
  | none => simp
  | some descriptor =>
      by_cases fits : Value.Descriptor.schemaMatches operation descriptor.schema element = true <;>
        simp [validated, fits]

/-! ## Numbers and lists -/

theorem cluster_agrees {value : UInt64} (fits : value.toNat < 2 ^ 32) :
    Value.Descriptor.validCluster value.toNat = Elements.validCluster value.toUInt32 := by
  have same : value.toUInt32.toNat = value.toNat := by
    rw [UInt64.toNat_toUInt32]
    exact Nat.mod_eq_of_lt fits
  have remainder : (value.toNat : Int).tmod 65536 = ((value.toNat % 65536 : Nat) : Int) := by
    rw [Int.tmod_eq_emod_of_nonneg (Int.natCast_nonneg _)]
    rfl
  rw [Bool.eq_iff_iff]
  simp only [Value.Descriptor.validCluster, Value.qualified, Value.inRange, Elements.validCluster,
    same, remainder, Bool.or_eq_true, Bool.and_eq_true, decide_eq_true_eq]
  omega

/-- The bounds are the same and the width is part of the type. -/
theorem unsigned_agrees {element : Tlv.Element F} {native : Elements.Element}
    (same : Same element native) (outer : element.tag = .anonymous) (width : Width)
    (low high : Nat) :
    Value.Descriptor.matchesUnsigned width low high element = native.unsignedIn width low high := by
  cases same with
  | unsigned actual value tags =>
      obtain rfl : _ = Tlv.Tag.anonymous := outer
      rw [Bool.eq_iff_iff]
      simp [Value.Descriptor.matchesUnsigned, Elements.Element.unsignedIn, inRange, and_assoc]
  | _ =>
      obtain rfl : _ = Tlv.Tag.anonymous := outer
      rfl

theorem null_agrees {element : Tlv.Element F} {native : Elements.Element}
    (same : Same element native) (outer : element.tag = .anonymous) :
    Value.Descriptor.matchesNull element = native.isNull := by
  cases same with
  | null tags =>
      obtain rfl : _ = Tlv.Tag.anonymous := outer
      rfl
  | _ =>
      obtain rfl : _ = Tlv.Tag.anonymous := outer
      rfl

theorem i16_agrees {element : Tlv.Element F} {native : Elements.Element}
    (same : Same element native) (outer : element.tag = .anonymous) :
    Value.Descriptor.matchesI16 element = Elements.acceptsI16 native := by
  cases same with
  | i16 value tags =>
      obtain rfl : _ = Tlv.Tag.anonymous := outer
      rfl
  | _ =>
      obtain rfl : _ = Tlv.Tag.anonymous := outer
      rfl

theorem all_agree {elements : List (Tlv.Element F)} {natives : List Elements.Element}
    (same : List.Forall₂ Same elements natives) {first : Tlv.Element F → Bool}
    {second : Elements.Element → Bool}
    (each : ∀ element ∈ elements, ∀ native, Same element native → first element = second native) :
    elements.all first = natives.all second := by
  induction same with
  | nil => rfl
  | cons here _ ih =>
      rw [List.all_cons, List.all_cons, each _ List.mem_cons_self _ here,
        ih fun element inside => each element (List.mem_cons_of_mem _ inside)]

/-- An array agrees if its elements do; on the BEAM they are anonymous by well-formedness. -/
theorem array_agrees {element : Tlv.Element F} {native : Elements.Element}
    (same : Same element native) (outer : element.tag = .anonymous)
    (formed : Tlv.WellFormed floats element) {first : Tlv.Element F → Bool}
    {second : Elements.Element → Bool}
    (each : ∀ child, Tlv.WellFormed floats child → child.tag = .anonymous → ∀ native,
      Same child native → first child = second native) :
    Value.Descriptor.matchesArray first element = Elements.acceptsArray second native := by
  cases same with
  | container tags kinds inside =>
      obtain rfl : _ = Tlv.Tag.anonymous := outer
      cases kinds with
      | array =>
          have short := formed.encodable.children.1
          rw [inside.length_eq] at short
          rw [Value.Descriptor.matchesArray, Elements.acceptsArray, decide_eq_true short,
            Bool.true_and]
          exact all_agree inside fun child listed native same =>
            each child (formed.children child listed) (formed.array_tags child listed) native same
      | _ => rfl
  | _ =>
      obtain rfl : _ = Tlv.Tag.anonymous := outer
      rfl

/-! ## Every schema but one -/

/-- A cluster fits 32 bits before it is looked at, so the truncation loses nothing. -/
theorem clusterElement_agrees {element : Tlv.Element F} {native : Elements.Element}
    (same : Same element native) (outer : element.tag = .anonymous)
    (formed : Tlv.WellFormed floats element) :
    Value.Descriptor.clusterElement element = Elements.clusterEntry native := by
  cases same with
  | unsigned width value tags =>
      obtain rfl : _ = Tlv.Tag.anonymous := outer
      cases tags
      have fits := formed.encodable.unsigned.2
      cases width with
      | w32 =>
          refine cluster_agrees ?_
          simp only [Tlv.Width.octets] at fits
          norm_num at fits ⊢
          omega
      | _ => rfl
  | _ =>
      obtain rfl : _ = Tlv.Tag.anonymous := outer
      rfl

theorem partElement_agrees {element : Tlv.Element F} {native : Elements.Element}
    (same : Same element native) (outer : element.tag = .anonymous) :
    Value.Descriptor.matchesUnsigned .w16 0 0xFFFE element = Elements.partEntry native := by
  cases same with
  | unsigned width value tags =>
      obtain rfl : _ = Tlv.Tag.anonymous := outer
      cases tags
      cases width with
      | w16 =>
          rw [Bool.eq_iff_iff]
          simp [Value.Descriptor.matchesUnsigned, Elements.partEntry, inRange]
      | _ => rfl
  | _ =>
      obtain rfl : _ = Tlv.Tag.anonymous := outer
      rfl

/-- A context tag decides the same on both sides. -/
theorem tag_agrees {tag : Tlv.Tag} {native : Elements.Tag} (same : SameTag tag native) (id : UInt8) :
    decide (tag = .context id.toNat) = decide (native = .context id) :=
  decide_eq_decide.mpr (same.context_iff id)

theorem unsignedField_agrees {element : Tlv.Element F} {native : Elements.Element}
    (same : Same element native) (id : UInt8) (width : Width) :
    Value.Descriptor.unsignedField (.context id.toNat) width element =
      Elements.unsignedField (.context id) width native := by
  cases same with
  | unsigned actual value tags =>
      rw [Value.Descriptor.unsignedField, Elements.unsignedField, tag_agrees tags id]
  | _ => rfl

/-- The two fields of a device type, in the order of their tags. -/
theorem deviceType_agrees {element : Tlv.Element F} {native : Elements.Element}
    (same : Same element native) (outer : element.tag = .anonymous) :
    Value.Descriptor.deviceTypeElement element = Elements.deviceTypeEntry native := by
  cases same with
  | container tags kinds inside =>
      obtain rfl : _ = Tlv.Tag.anonymous := outer
      cases tags
      cases kinds with
      | array => rfl
      | _ =>
          cases inside with
          | nil => rfl
          | cons first rest =>
              cases rest with
              | nil => rfl
              | cons second rest =>
                  cases rest with
                  | cons => rfl
                  | nil =>
                      exact congrArg₂ (· && ·) (unsignedField_agrees first 0 .w32)
                        (unsignedField_agrees second 1 .w16)
  | _ =>
      obtain rfl : _ = Tlv.Tag.anonymous := outer
      rfl

/-- The checks of every schema but that of access-control lists are the same. -/
theorem schema_agrees {element : Tlv.Element F} {native : Elements.Element}
    (same : Same element native) (outer : element.tag = .anonymous)
    (formed : Tlv.WellFormed floats element) (operation : Value.Operation) {schema : Schema}
    (other : schema ≠ .accessControlList) :
    Value.Descriptor.schemaMatches operation schema element =
      Elements.acceptsSchema operation native schema := by
  cases schema with
  | nullableI16 =>
      exact congrArg₂ (· || ·) (null_agrees same outer) (i16_agrees same outer)
  | i16 => exact i16_agrees same outer
  | u8 => exact unsigned_agrees same outer .w8 0 0xFF
  | boolean =>
      cases same <;> (obtain rfl : _ = Tlv.Tag.anonymous := outer) <;> rfl
  | emptyStructure =>
      cases same with
      | container tags kinds inside =>
          obtain rfl : _ = Tlv.Tag.anonymous := outer
          cases kinds <;> cases inside <;> rfl
      | _ =>
          obtain rfl : _ = Tlv.Tag.anonymous := outer
          rfl
  | deviceTypeList =>
      exact array_agrees same outer formed fun _ _ outer _ same => deviceType_agrees same outer
  | clusterList =>
      exact array_agrees same outer formed fun _ formed outer _ same =>
        clusterElement_agrees same outer formed
  | partsList =>
      exact array_agrees same outer formed fun _ _ outer _ same => partElement_agrees same outer
  | reachableEvent =>
      cases same with
      | container tags kinds inside =>
          obtain rfl : _ = Tlv.Tag.anonymous := outer
          cases kinds with
          | array => rfl
          | _ =>
              cases inside with
              | nil => rfl
              | cons first rest =>
                  cases rest with
                  | cons => cases first <;> rfl
                  | nil =>
                      cases first with
                      | boolean value tags => exact tag_agrees tags 0
                      | _ => rfl
      | _ =>
          obtain rfl : _ = Tlv.Tag.anonymous := outer
          rfl
  | accessControlList => exact absurd rfl other
  | windowStatus => exact unsigned_agrees same outer .w8 0 2
  | nullableFabricIndex =>
      exact congrArg₂ (· || ·) (null_agrees same outer) (unsigned_agrees same outer .w8 1 254)
  | nullableVendorId =>
      exact congrArg₂ (· || ·) (null_agrees same outer) (unsigned_agrees same outer .w16 1 65534)

end WotexMatter.Session
