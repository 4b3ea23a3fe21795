/-
# WotexMatter.Native.AccessControl -- elements of the host, and access-control lists

`Element` of `value.hpp` and the validator of `value.cpp` in front of a device's access-control
list.  An `Element` is what its type says: the fields of the C++ structure that a type does not use
are left out.

`ContextField` answers with a null pointer for a field that is absent and for one that is repeated,
and an optional field that is null is taken for absent.  `accessEntry_iff` is what follows: an entry
is accepted if it is to the specification (`EntrySpec`), and also if one optional tag stands in it
twice (`EntryRepeats`), whatever the two fields are.
-/
import WotexMatter.Tlv.Codec
import WotexMatter.Value.Descriptor

set_option autoImplicit false

namespace WotexMatter.Native.Elements

open WotexMatter.Tlv (Width)
open WotexMatter.Value (Operation)

inductive Tag where
  | anonymous
  | context (id : UInt8)
  deriving DecidableEq

inductive Kind where
  | structure : Kind
  | array
  deriving DecidableEq

/-- `signed_value` is an `std::int64_t`. -/
inductive Element where
  | null (tag : Tag)
  | i16 (tag : Tag) (signedValue : Int)
  | unsigned (tag : Tag) (width : Width) (unsignedValue : UInt64)
  | boolean (tag : Tag) (booleanValue : Bool)
  | container (tag : Tag) (kind : Kind) (children : List Element)

namespace Element

def tag : Element → Tag
  | .null tag => tag
  | .i16 tag _ => tag
  | .unsigned tag _ _ => tag
  | .boolean tag _ => tag
  | .container tag _ _ => tag

def children : Element → List Element
  | .container _ _ children => children
  | _ => []

def isNull : Element → Bool
  | .null _ => true
  | _ => false

/-- The element has this type, and `unsigned_value` lies in this range. -/
def unsignedIn (width : Width) (low high : Nat) : Element → Bool
  | .unsigned _ actual value => actual = width && low ≤ value.toNat && value.toNat ≤ high
  | _ => false

end Element

/-- `valid_cluster`. -/
def validCluster (value : UInt32) : Bool :=
  value.toNat ≤ 0x7FFF ||
    (0x0001FC00 ≤ value.toNat && value.toNat ≤ 0xFFF4FFFE && 0xFC00 ≤ value.toNat % 65536 &&
      value.toNat % 65536 ≤ 0xFFFE)

/-! ## Lookup -/

/-- The loop of `ContextField`. -/
def contextFieldFrom (id : UInt8) : Option Element → List Element → Option Element
  | result, [] => result
  | result, field :: rest =>
      match field.tag with
      | .anonymous => none
      | .context other =>
          if other = id then
            match result with
            | some _ => none
            | none => contextFieldFrom id (some field) rest
          else contextFieldFrom id result rest

/-- `ContextField`. -/
def contextField (fields : List Element) (id : UInt8) : Option Element :=
  contextFieldFrom id none fields

/-- The fields with this tag. -/
def withTag (fields : List Element) (id : UInt8) : List Element :=
  fields.filter fun field => field.tag = .context id

theorem contextFieldFrom_some {id : UInt8} {fields : List Element} :
    ∀ {result : Option Element} {field : Element},
      contextFieldFrom id result fields = some field ↔
        (∀ other ∈ fields, other.tag ≠ .anonymous) ∧
          result.toList ++ withTag fields id = [field] := by
  induction fields with
  | nil => intro result field; cases result <;> simp [contextFieldFrom, withTag]
  | cons first rest ih =>
      intro result field
      unfold contextFieldFrom
      cases tag : first.tag with
      | anonymous => simp [tag]
      | context other =>
          by_cases same : other = id
          · subst same
            cases result with
            | some found => simp [withTag, tag]
            | none => simp [ih, withTag, tag]
          · simp [ih, withTag, tag, same]

theorem contextField_some {fields : List Element} {id : UInt8} {field : Element} :
    contextField fields id = some field ↔
      (∀ other ∈ fields, other.tag ≠ .anonymous) ∧ withTag fields id = [field] := by
  rw [contextField, contextFieldFrom_some]
  rfl

/-! ## The validator -/

/-- `NullableTargetField`. -/
def nullableTargetField (field : Option Element) (width : Width) (maximum : Nat) (cluster : Bool) :
    Bool :=
  match field with
  | some (.null _) => true
  | some (.unsigned _ actual value) =>
      actual = width && value.toNat ≤ maximum && (!cluster || validCluster value.toUInt32)
  | _ => false

/-- `ValidTarget`. -/
def validTarget : Element → Bool
  | .container .anonymous .structure children =>
      let cluster := contextField children 0
      let endpoint := contextField children 1
      let deviceType := contextField children 2
      children.length = 3 &&
        nullableTargetField cluster .w32 0xFFFFFFFF true &&
        nullableTargetField endpoint .w16 0xFFFE false &&
        nullableTargetField deviceType .w32 0xFFFFFFFF false &&
        !(cluster.any Element.isNull && endpoint.any Element.isNull &&
          deviceType.any Element.isNull) &&
        (endpoint.any Element.isNull || deviceType.any Element.isNull)
  | _ => false

def subjectElement : Element → Bool
  | .unsigned .anonymous .w64 _ => true
  | _ => false

/-- A nullable list of at most 64. -/
def nullableList (entry : Element → Bool) : Element → Bool
  | .null _ => true
  | .container _ .array children => children.length ≤ 64 && children.all entry
  | _ => false

/-- `ValidNullableSubjects`. -/
def validNullableSubjects (subjects : Option Element) : Bool :=
  subjects.any fun field => field.tag = .context 3 && nullableList subjectElement field

/-- `ValidNullableTargets`. -/
def validNullableTargets (targets : Option Element) : Bool :=
  targets.any fun field => field.tag = .context 4 && nullableList validTarget field

def entryTags : List Tag :=
  [.context 1, .context 2, .context 3, .context 4, .context 5, .context 254]

/-- The body of the loop of `valid_access_control_list`. -/
def accessEntry (operation : Operation) : Element → Bool
  | .container .anonymous .structure fields =>
      4 ≤ fields.length && fields.length ≤ 6 &&
        (fields.all fun field => entryTags.contains field.tag) &&
        (contextField fields 1).any (Element.unsignedIn .w8 1 5) &&
        (contextField fields 2).any (Element.unsignedIn .w8 2 3) &&
        validNullableSubjects (contextField fields 3) &&
        validNullableTargets (contextField fields 4) &&
        (contextField fields 5).all (Element.unsignedIn .w8 0 1) &&
        (contextField fields 254).all fun fabric =>
          operation = .read && Element.unsignedIn .w8 1 254 fabric
  | _ => false

/-- `valid_access_control_list`. -/
def validAccessControlList (element : Element) (operation : Operation) : Bool :=
  match element with
  | .container .anonymous .array entries =>
      entries.length ≤ 64 && entries.all (accessEntry operation)
  | _ => false

/-! ## The specification -/

/-- The tag occurs once, on such a field. -/
def Once (fields : List Element) (id : UInt8) (admits : Element → Bool) : Prop :=
  ∃ field, withTag fields id = [field] ∧ admits field = true

/-- The tag does not occur, or once, on such a field. -/
def AtMostOnce (fields : List Element) (id : UInt8) (admits : Element → Bool) : Prop :=
  withTag fields id = [] ∨ Once fields id admits

/-- The field is null, or such a number of this width. -/
def nullOr (width : Width) (admits : UInt64 → Bool) : Element → Bool
  | .null _ => true
  | .unsigned _ actual value => actual = width && admits value
  | _ => false

/-- A target is a structure of a cluster, an endpoint and a device type, each once, of which at
least one is given and endpoint and device type are not both. -/
structure TargetFields (children : List Element) : Prop where
  three : children.length = 3
  cluster : Once children 0 (nullOr .w32 fun value =>
    value.toNat ≤ 0xFFFFFFFF && validCluster value.toUInt32)
  endpoint : Once children 1 (nullOr .w16 fun value => value.toNat ≤ 0xFFFE)
  deviceType : Once children 2 (nullOr .w32 fun value => value.toNat ≤ 0xFFFFFFFF)
  given : ∃ field ∈ children, field.isNull = false
  exclusive : Once children 1 Element.isNull ∨ Once children 2 Element.isNull

def TargetSpec (target : Element) : Prop :=
  ∃ children, target = .container .anonymous .structure children ∧ TargetFields children

/-- The field is null, or an array of at most 64 such entries. -/
def NullableListSpec (entry : Element → Prop) (field : Element) : Prop :=
  field.isNull = true ∨ ∃ tag children, field = .container tag .array children ∧
    children.length ≤ 64 ∧ ∀ child ∈ children, entry child

/-- What is asked of the fields that must be there, and that there is no other tag. -/
structure RequiredFields (fields : List Element) : Prop where
  tags : ∀ field ∈ fields, field.tag ∈ entryTags
  privilege : Once fields 1 (Element.unsignedIn .w8 1 5)
  authMode : Once fields 2 (Element.unsignedIn .w8 2 3)
  subjects : ∃ field, withTag fields 3 = [field] ∧
    NullableListSpec (fun subject => ∃ value, subject = .unsigned .anonymous .w64 value) field
  targets : ∃ field, withTag fields 4 = [field] ∧ NullableListSpec TargetSpec field

/-- An entry as it is specified. -/
structure EntryFields (operation : Operation) (fields : List Element) : Prop where
  required : RequiredFields fields
  auxiliary : AtMostOnce fields 5 (Element.unsignedIn .w8 0 1)
  fabric : AtMostOnce fields 254 fun field =>
    operation = .read && Element.unsignedIn .w8 1 254 field

def EntrySpec (operation : Operation) (entry : Element) : Prop :=
  ∃ fields, entry = .container .anonymous .structure fields ∧ EntryFields operation fields

/-- Every required field is there, and one optional tag stands twice. -/
def EntryRepeats (entry : Element) : Prop :=
  ∃ fields, entry = .container .anonymous .structure fields ∧ RequiredFields fields ∧
    ((withTag fields 5).length = 2 ∧ withTag fields 254 = [] ∨
      (withTag fields 254).length = 2 ∧ withTag fields 5 = [])

/-- An access-control list as it is specified. -/
def AccessControlSpec (operation : Operation) (element : Element) : Prop :=
  ∃ entries, element = .container .anonymous .array entries ∧ entries.length ≤ 64 ∧
    ∀ entry ∈ entries, EntrySpec operation entry

/-! ## Counting tags -/

/-- A field counts for at most one of different tags. -/
theorem tag_counts (field : Element) {ids : List UInt8} (distinct : ids.Nodup) :
    (ids.map fun id => if field.tag = .context id then 1 else 0).sum =
      if ∃ id ∈ ids, field.tag = .context id then 1 else 0 := by
  induction ids with
  | nil => simp
  | cons id rest ih =>
      obtain ⟨fresh, distinct⟩ := List.nodup_cons.mp distinct
      rw [List.map_cons, List.sum_cons, ih distinct]
      by_cases mine : field.tag = .context id
      · have none : ¬ ∃ other ∈ rest, field.tag = .context other := by
          rintro ⟨other, listed, same⟩
          rw [mine] at same
          obtain rfl := Tag.context.inj same
          exact fresh listed
        rw [if_pos mine, if_neg none, if_pos ⟨id, List.mem_cons_self, mine⟩]
      · simp [mine]

theorem tags_count (fields : List Element) {ids : List UInt8} (distinct : ids.Nodup) :
    (ids.map fun id => (withTag fields id).length).sum =
      (fields.filter fun field => decide (∃ id ∈ ids, field.tag = .context id)).length := by
  induction fields with
  | nil => simp [withTag]
  | cons field rest ih =>
      have step : ∀ id, (withTag (field :: rest) id).length =
          (if field.tag = .context id then 1 else 0) + (withTag rest id).length := by
        intro id
        by_cases mine : field.tag = .context id
        · simp [withTag, mine, Nat.add_comm]
        · simp [withTag, mine]
      rw [show (fun id => (withTag (field :: rest) id).length) = fun id =>
        (if field.tag = .context id then 1 else 0) + (withTag rest id).length from funext step,
        List.sum_map_add, ih, tag_counts field distinct]
      by_cases known : ∃ id ∈ ids, field.tag = .context id
      · rw [if_pos known, List.filter_cons, if_pos (decide_eq_true known), List.length_cons,
          Nat.add_comm]
      · rw [if_neg known, List.filter_cons, if_neg (by simpa using known), Nat.zero_add]

/-- Every field has one of these tags if and only if they are as many. -/
theorem tags_all {fields : List Element} {ids : List UInt8} (distinct : ids.Nodup) :
    (∀ field ∈ fields, ∃ id ∈ ids, field.tag = .context id) ↔
      (ids.map fun id => (withTag fields id).length).sum = fields.length := by
  rw [tags_count fields distinct, List.length_filter_eq_length_iff]
  simp

/-! ## Targets -/

theorem nullableTargetField_iff {field : Option Element} {width : Width} {maximum : Nat}
    {cluster : Bool} : nullableTargetField field width maximum cluster = true ↔
      ∃ found, field = some found ∧ nullOr width (fun value => value.toNat ≤ maximum &&
        (!cluster || validCluster value.toUInt32)) found = true := by
  constructor
  · intro valid
    unfold nullableTargetField at valid
    split at valid
    · exact ⟨_, rfl, rfl⟩
    · rw [Bool.and_assoc] at valid
      exact ⟨_, rfl, valid⟩
    · cases valid
  · rintro ⟨found, rfl, valid⟩
    unfold nullOr at valid
    unfold nullableTargetField
    split at valid
    · rfl
    · exact (Bool.and_assoc _ _ _).trans valid
    · cases valid

theorem contextField_of_once {fields : List Element} {id : UInt8} {field : Element}
    (contexts : ∀ other ∈ fields, other.tag ≠ .anonymous) (here : withTag fields id = [field]) :
    contextField fields id = some field :=
  contextField_some.mpr ⟨contexts, here⟩

theorem mem_of_withTag {fields : List Element} {id : UInt8} {field : Element}
    (here : withTag fields id = [field]) : field ∈ fields ∧ field.tag = .context id := by
  have inside : field ∈ withTag fields id := here ▸ List.mem_singleton_self _
  obtain ⟨listed, mine⟩ := List.mem_filter.mp inside
  exact ⟨listed, of_decide_eq_true mine⟩

theorem validTarget_iff {target : Element} : validTarget target = true ↔ TargetSpec target := by
  have targetIds : [(0 : UInt8), 1, 2].Nodup := by decide
  constructor
  · intro valid
    unfold validTarget at valid
    split at valid
    swap
    · cases valid
    rename_i children
    simp only [Bool.and_eq_true, nullableTargetField_iff, decide_eq_true_eq] at valid
    obtain ⟨⟨⟨⟨⟨three, cluster, found0, fine0⟩, endpoint, found1, fine1⟩, device, found2, fine2⟩,
      given⟩, exclusive⟩ := valid
    obtain ⟨contexts, here0⟩ := contextField_some.mp found0
    have here1 := (contextField_some.mp found1).2
    have here2 := (contextField_some.mp found2).2
    rw [found0, found1, found2] at given
    rw [found1, found2] at exclusive
    refine ⟨children, rfl, three, ⟨cluster, here0, by simpa using fine0⟩,
      ⟨endpoint, here1, by simpa using fine1⟩, ⟨device, here2, by simpa using fine2⟩, ?_, ?_⟩
    · simp only [Option.any_some, Bool.not_eq_true', Bool.and_eq_false_iff] at given
      rcases given with (null | null) | null
      · exact ⟨cluster, (mem_of_withTag here0).1, null⟩
      · exact ⟨endpoint, (mem_of_withTag here1).1, null⟩
      · exact ⟨device, (mem_of_withTag here2).1, null⟩
    · simp only [Option.any_some, Bool.or_eq_true] at exclusive
      exact exclusive.imp (fun null => ⟨endpoint, here1, null⟩) fun null => ⟨device, here2, null⟩
  · rintro ⟨children, rfl, three, ⟨cluster, here0, fine0⟩, ⟨endpoint, here1, fine1⟩,
      ⟨device, here2, fine2⟩, ⟨field, listed, given⟩, exclusive⟩
    have all : ∀ field ∈ children, ∃ id ∈ [(0 : UInt8), 1, 2], field.tag = .context id :=
      (tags_all targetIds).mpr (by simp [here0, here1, here2, three])
    have contexts : ∀ other ∈ children, other.tag ≠ .anonymous := by
      intro other inside anonymous
      obtain ⟨id, -, same⟩ := all other inside
      rw [anonymous] at same
      cases same
    have found0 := contextField_of_once contexts here0
    have found1 := contextField_of_once contexts here1
    have found2 := contextField_of_once contexts here2
    have one : field = cluster ∨ field = endpoint ∨ field = device := by
      obtain ⟨id, known, same⟩ := all field listed
      have inside : field ∈ withTag children id := List.mem_filter.mpr ⟨listed, decide_eq_true same⟩
      simp only [List.mem_cons, List.not_mem_nil, or_false] at known
      rcases known with rfl | rfl | rfl
      · exact Or.inl (List.mem_singleton.mp (here0 ▸ inside))
      · exact Or.inr (Or.inl (List.mem_singleton.mp (here1 ▸ inside)))
      · exact Or.inr (Or.inr (List.mem_singleton.mp (here2 ▸ inside)))
    have exclusive' : endpoint.isNull = true ∨ device.isNull = true := by
      refine exclusive.imp ?_ ?_ <;> rintro ⟨found, here, null⟩
      · rw [here1] at here
        rw [(List.cons.inj here).1]
        exact null
      · rw [here2] at here
        rw [(List.cons.inj here).1]
        exact null
    unfold validTarget
    simp only [Bool.and_eq_true, nullableTargetField_iff, decide_eq_true_eq, found0, found1, found2,
      Option.any_some]
    refine ⟨⟨⟨⟨⟨three, cluster, rfl, by simpa using fine0⟩, endpoint, rfl, by simpa using fine1⟩,
      device, rfl, by simpa using fine2⟩, ?_⟩, Bool.or_eq_true_iff.mpr exclusive'⟩
    rcases one with rfl | rfl | rfl <;> simp [given]

/-! ## Entries -/

theorem nullableList_iff {entry : Element → Bool} {spec : Element → Prop}
    (each : ∀ child, entry child = true ↔ spec child) {field : Element} :
    nullableList entry field = true ↔ NullableListSpec spec field := by
  constructor
  · intro valid
    unfold nullableList at valid
    split at valid
    · exact Or.inl rfl
    · simp only [Bool.and_eq_true, decide_eq_true_eq, List.all_eq_true] at valid
      exact Or.inr ⟨_, _, rfl, valid.1, fun child inside => (each child).mp (valid.2 child inside)⟩
    · cases valid
  · rintro (null | ⟨tag, children, rfl, short, fine⟩)
    · cases field <;> first | rfl | cases null
    · simp only [nullableList, Bool.and_eq_true, decide_eq_true_eq, List.all_eq_true]
      exact ⟨short, fun child inside => (each child).mpr (fine child inside)⟩

theorem subjectElement_iff {subject : Element} :
    subjectElement subject = true ↔ ∃ value, subject = .unsigned .anonymous .w64 value := by
  constructor
  · intro valid
    unfold subjectElement at valid
    split at valid
    · exact ⟨_, rfl⟩
    · cases valid
  · rintro ⟨value, rfl⟩
    rfl

section

variable {fields : List Element} (contexts : ∀ other ∈ fields, other.tag ≠ .anonymous)
include contexts

theorem contextField_any {id : UInt8} {admits : Element → Bool} :
    (contextField fields id).any admits = true ↔ Once fields id admits := by
  constructor
  · intro valid
    cases found : contextField fields id with
    | none =>
        rw [found] at valid
        cases valid
    | some field =>
        rw [found] at valid
        exact ⟨field, (contextField_some.mp found).2, valid⟩
  · rintro ⟨field, here, fine⟩
    rw [contextField_of_once contexts here]
    exact fine

/-- A repeated field passes for an absent one. -/
theorem contextField_all {id : UInt8} {admits : Element → Bool} :
    (contextField fields id).all admits = true ↔
      AtMostOnce fields id admits ∨ 2 ≤ (withTag fields id).length := by
  cases here : withTag fields id with
  | nil =>
      have absent : contextField fields id = none := by
        refine Option.eq_none_iff_forall_ne_some.mpr fun field found => ?_
        have only := (contextField_some.mp found).2
        rw [here] at only
        cases only
      simp [absent, AtMostOnce, here]
  | cons field rest =>
      cases rest with
      | nil =>
          rw [contextField_of_once contexts here, AtMostOnce, Once, here]
          simp
      | cons other rest =>
          have repeated : contextField fields id = none := by
            refine Option.eq_none_iff_forall_ne_some.mpr fun field found => ?_
            have only := (contextField_some.mp found).2
            rw [here] at only
            cases only
          simp [repeated]

theorem contextField_list {id : UInt8} {entry : Element → Bool} {spec : Element → Prop}
    (each : ∀ child, entry child = true ↔ spec child) :
    ((contextField fields id).any fun field => field.tag = .context id && nullableList entry field) =
      true ↔ ∃ field, withTag fields id = [field] ∧ NullableListSpec spec field := by
  rw [contextField_any contexts]
  constructor
  · rintro ⟨field, here, fine⟩
    exact ⟨field, here, (nullableList_iff each).mp (Bool.and_eq_true_iff.mp fine).2⟩
  · rintro ⟨field, here, fine⟩
    refine ⟨field, here, Bool.and_eq_true_iff.mpr
      ⟨decide_eq_true (mem_of_withTag here).2, (nullableList_iff each).mpr fine⟩⟩

end

theorem entryTags_context {tag : Tag} :
    tag ∈ entryTags ↔ ∃ id ∈ [(1 : UInt8), 2, 3, 4, 5, 254], tag = .context id := by
  simp [entryTags]

/-- The required fields are four, and the others have an optional tag. -/
theorem RequiredFields.length {fields : List Element} (required : RequiredFields fields) :
    fields.length = 4 + (withTag fields 5).length + (withTag fields 254).length := by
  have sum : (([1, 2, 3, 4, 5, 254] : List UInt8).map fun id => (withTag fields id).length).sum =
      fields.length :=
    (tags_all (by decide)).mp fun field inside => entryTags_context.mp (required.tags field inside)
  obtain ⟨_, one, -⟩ := required.privilege
  obtain ⟨_, two, -⟩ := required.authMode
  obtain ⟨_, three, -⟩ := required.subjects
  obtain ⟨_, four, -⟩ := required.targets
  simp [one, two, three, four] at sum
  omega

theorem accessEntry_fields {operation : Operation} {fields : List Element} :
    accessEntry operation (.container .anonymous .structure fields) = true ↔
      (4 ≤ fields.length ∧ fields.length ≤ 6) ∧ RequiredFields fields ∧
        (AtMostOnce fields 5 (Element.unsignedIn .w8 0 1) ∨ 2 ≤ (withTag fields 5).length) ∧
        ((AtMostOnce fields 254 fun field =>
          operation = .read && Element.unsignedIn .w8 1 254 field) ∨
            2 ≤ (withTag fields 254).length) := by
  have contexts : (∀ field ∈ fields, field.tag ∈ entryTags) →
      ∀ other ∈ fields, other.tag ≠ .anonymous := by
    intro tags other inside anonymous
    have known := tags other inside
    rw [anonymous] at known
    exact absurd known (by decide)
  simp only [accessEntry, Bool.and_eq_true, decide_eq_true_eq, List.all_eq_true,
    List.contains_iff_mem]
  constructor
  · rintro ⟨⟨⟨⟨⟨⟨⟨sizes, tags⟩, one⟩, two⟩, three⟩, four⟩, five⟩, fabric⟩
    have some := contexts tags
    exact ⟨sizes, ⟨tags, (contextField_any some).mp one, (contextField_any some).mp two,
      (contextField_list some fun _ => subjectElement_iff).mp three,
      (contextField_list some fun _ => validTarget_iff).mp four⟩,
      (contextField_all some).mp five, (contextField_all some).mp fabric⟩
  · rintro ⟨sizes, ⟨tags, one, two, three, four⟩, five, fabric⟩
    have some := contexts tags
    exact ⟨⟨⟨⟨⟨⟨⟨sizes, tags⟩, (contextField_any some).mpr one⟩, (contextField_any some).mpr two⟩,
      (contextField_list some fun _ => subjectElement_iff).mpr three⟩,
      (contextField_list some fun _ => validTarget_iff).mpr four⟩,
      (contextField_all some).mpr five⟩, (contextField_all some).mpr fabric⟩

theorem AtMostOnce.length_le {fields : List Element} {id : UInt8} {admits : Element → Bool}
    (few : AtMostOnce fields id admits) : (withTag fields id).length ≤ 1 := by
  rcases few with none | ⟨_, one, -⟩
  · rw [none]
    exact Nat.zero_le _
  · rw [one]
    exact le_refl _

/-- **What an entry must be to be accepted.** -/
theorem accessEntry_iff {operation : Operation} {entry : Element} :
    accessEntry operation entry = true ↔ EntrySpec operation entry ∨ EntryRepeats entry := by
  constructor
  · intro valid
    have shape : ∃ fields, entry = .container .anonymous .structure fields := by
      unfold accessEntry at valid
      split at valid
      · exact ⟨_, rfl⟩
      · cases valid
    obtain ⟨fields, rfl⟩ := shape
    obtain ⟨⟨-, most⟩, required, auxiliary, fabric⟩ := accessEntry_fields.mp valid
    have sum := required.length
    rcases auxiliary with auxiliary | twice
    · rcases fabric with fabric | twice
      · exact Or.inl ⟨fields, rfl, required, auxiliary, fabric⟩
      · exact Or.inr ⟨fields, rfl, required,
          Or.inr ⟨by omega, List.length_eq_zero_iff.mp (by omega)⟩⟩
    · exact Or.inr ⟨fields, rfl, required,
        Or.inl ⟨by omega, List.length_eq_zero_iff.mp (by omega)⟩⟩
  · rintro (⟨fields, rfl, required, auxiliary, fabric⟩ | ⟨fields, rfl, required, twice⟩)
    · have sum := required.length
      have few := auxiliary.length_le
      have few' := fabric.length_le
      exact accessEntry_fields.mpr ⟨by omega, required, Or.inl auxiliary, Or.inl fabric⟩
    · have sum := required.length
      rcases twice with ⟨two, none⟩ | ⟨two, none⟩
      · rw [none, List.length_nil] at sum
        exact accessEntry_fields.mpr
          ⟨by omega, required, Or.inr (by omega), Or.inl (Or.inl none)⟩
      · rw [none, List.length_nil] at sum
        exact accessEntry_fields.mpr
          ⟨by omega, required, Or.inl (Or.inl none), Or.inr (by omega)⟩

theorem EntryRepeats.not_spec {operation : Operation} {entry : Element}
    (repeats : EntryRepeats entry) : ¬ EntrySpec operation entry := by
  rintro ⟨fields, rfl, -, auxiliary, fabric⟩
  obtain ⟨_, same, -, twice⟩ := repeats
  obtain ⟨-, -, rfl⟩ := Element.container.inj same
  have few := auxiliary.length_le
  have few' := fabric.length_le
  omega

/-! ## The list -/

theorem validAccessControlList_iff {element : Element} {operation : Operation} :
    validAccessControlList element operation = true ↔
      ∃ entries, element = .container .anonymous .array entries ∧ entries.length ≤ 64 ∧
        ∀ entry ∈ entries, EntrySpec operation entry ∨ EntryRepeats entry := by
  constructor
  · intro valid
    unfold validAccessControlList at valid
    split at valid
    · simp only [Bool.and_eq_true, decide_eq_true_eq, List.all_eq_true] at valid
      exact ⟨_, rfl, valid.1, fun entry inside => accessEntry_iff.mp (valid.2 entry inside)⟩
    · cases valid
  · rintro ⟨entries, rfl, short, fine⟩
    simp only [validAccessControlList, Bool.and_eq_true, decide_eq_true_eq, List.all_eq_true]
    exact ⟨short, fun entry inside => accessEntry_iff.mpr (fine entry inside)⟩

/-- The list would be to the specification but for entries in which an optional tag stands twice,
and there is one. -/
def Overlooked (operation : Operation) (element : Element) : Prop :=
  ∃ entries, element = .container .anonymous .array entries ∧ entries.length ≤ 64 ∧
    (∀ entry ∈ entries, EntrySpec operation entry ∨ EntryRepeats entry) ∧
    ∃ entry ∈ entries, EntryRepeats entry

/-- **The validator decides the specification unless an optional tag that stands twice is all that
is wrong.** -/
theorem validAccessControlList_exact (element : Element) (operation : Operation) :
    (validAccessControlList element operation = true ↔ AccessControlSpec operation element) ↔
      ¬ Overlooked operation element := by
  rw [validAccessControlList_iff]
  constructor
  · rintro exact ⟨entries, rfl, short, fine, entry, inside, repeats⟩
    obtain ⟨_, same, -, spec⟩ := exact.mp ⟨entries, rfl, short, fine⟩
    obtain ⟨-, -, rfl⟩ := Element.container.inj same
    exact repeats.not_spec (spec entry inside)
  · intro clear
    constructor
    · rintro ⟨entries, rfl, short, fine⟩
      refine ⟨entries, rfl, short, fun entry inside => (fine entry inside).resolve_right ?_⟩
      exact fun repeats => clear ⟨entries, rfl, short, fine, entry, inside, repeats⟩
    · rintro ⟨entries, rfl, short, spec⟩
      exact ⟨entries, rfl, short, fun entry inside => Or.inl (spec entry inside)⟩

/-- A write that carries two fabric indexes. -/
def twoFabrics : Element :=
  .container .anonymous .array [.container .anonymous .structure
    [.unsigned (.context 1) .w8 5, .unsigned (.context 2) .w8 2, .null (.context 3),
      .null (.context 4), .unsigned (.context 254) .w8 1, .unsigned (.context 254) .w8 2]]

theorem validAccessControlList_twoFabrics :
    ¬ ∀ (element : Element) (operation : Operation),
      (validAccessControlList element operation = true ↔ AccessControlSpec operation element) := by
  intro exact
  obtain ⟨_, same, -, spec⟩ := (exact twoFabrics .write).mp (by decide)
  obtain ⟨-, -, rfl⟩ := Element.container.inj same
  obtain ⟨_, same, -, -, fabric⟩ := spec _ List.mem_cons_self
  obtain ⟨-, -, rfl⟩ := Element.container.inj same
  exact absurd fabric.length_le (by decide)

end WotexMatter.Native.Elements
