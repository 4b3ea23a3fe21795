/-
# WotexMatter.Session.AccessControlAgreement -- two validators of one access-control list

In an access-control list the host looks for the three fields of a target by their tags and the
BEAM by their places (`three_agree`).  Both look for the fields of an entry by their tags, which an
element that TLV admits does not repeat.  So the BEAM asks what the host asks and that the fields
of every target are in order (`list_agrees`), and that is all the two validators disagree on
(`validators_agree`).
-/
import WotexMatter.Session.SchemaAgreement

set_option autoImplicit false

namespace WotexMatter.Session

open WotexMatter.Native
open WotexMatter.Tlv (Width Floats)
open WotexMatter.Value (MemberKind inRange)

variable {F : Type} {floats : Floats F}

/-! ## Targets -/

/-- The fields of a target stand in the order of their tags. -/
def TargetInOrder (target : Elements.Element) : Prop :=
  target.children.map Elements.Element.tag = [.context 0, .context 1, .context 2]

def EntryInOrder (entry : Elements.Element) : Prop :=
  ∀ field ∈ entry.children, field.tag = .context 4 → ∀ target ∈ field.children,
    TargetInOrder target

/-- So do those of every target of the list. -/
def TargetsInOrder (element : Elements.Element) : Prop :=
  ∀ entry ∈ element.children, EntryInOrder entry

/-- What both sides ask of a number that may be null. -/
theorem nullableScalar_agrees {element : Tlv.Element F} {native : Elements.Element}
    (same : Same element native) (formed : Tlv.WellFormed floats element) (id : UInt8)
    {width : Width} {admits : Int → Bool} {admits' : UInt64 → Bool}
    (agree : ∀ value : UInt64, value.toNat < 256 ^ width.octets →
      admits value.toNat = admits' value) :
    Value.Descriptor.nullableScalar element (.context id.toNat) width admits = true ↔
      native.tag = .context id ∧ Elements.nullOr width admits' native = true := by
  have tags := tag_agrees same.tags id
  unfold Value.Descriptor.nullableScalar
  rw [tags, Bool.and_eq_true, decide_eq_true_eq]
  refine and_congr_right fun _ => ?_
  cases same with
  | unsigned actual value _ =>
      have fits := formed.encodable.unsigned.2
      by_cases right : actual = width
      · subst right
        have small : value.toNat < 256 ^ actual.octets := by exact_mod_cast fits
        simp [Elements.nullOr, agree value small]
      · simp [Elements.nullOr, right]
  | null _ => simp [Elements.nullOr]
  | _ => simp [Elements.nullOr]

theorem isNull_agrees {element : Tlv.Element F} {native : Elements.Element}
    (same : Same element native) : Value.Descriptor.isNull element = native.isNull := by
  cases same <;> rfl

/-- A target whose fields are in order is what the specification says of each of them. -/
theorem targetFields_ordered {cluster endpoint device : Elements.Element}
    (first : cluster.tag = .context 0) (second : endpoint.tag = .context 1)
    (third : device.tag = .context 2) :
    Elements.TargetFields [cluster, endpoint, device] ↔
      (Elements.nullOr .w32 (fun value => value.toNat ≤ 0xFFFFFFFF &&
          Elements.validCluster value.toUInt32) cluster = true ∧
        Elements.nullOr .w16 (fun value => value.toNat ≤ 0xFFFE) endpoint = true ∧
        Elements.nullOr .w32 (fun value => value.toNat ≤ 0xFFFFFFFF) device = true) ∧
      (cluster.isNull = false ∨ endpoint.isNull = false ∨ device.isNull = false) ∧
      (endpoint.isNull = true ∨ device.isNull = true) := by
  have zero : Elements.withTag [cluster, endpoint, device] 0 = [cluster] := by
    simp [Elements.withTag, first, second, third]
  have one : Elements.withTag [cluster, endpoint, device] 1 = [endpoint] := by
    simp [Elements.withTag, first, second, third]
  have two : Elements.withTag [cluster, endpoint, device] 2 = [device] := by
    simp [Elements.withTag, first, second, third]
  constructor
  · rintro ⟨-, fine0, fine1, fine2, given, exclusive⟩
    simp only [Elements.Once, zero, one, two, List.cons.injEq, and_true, exists_eq_left']
      at fine0 fine1 fine2 exclusive
    exact ⟨⟨fine0, fine1, fine2⟩, by simpa using given, exclusive⟩
  · rintro ⟨⟨fine0, fine1, fine2⟩, given, exclusive⟩
    refine ⟨rfl, ⟨_, zero, fine0⟩, ⟨_, one, fine1⟩, ⟨_, two, fine2⟩, by simpa using given, ?_⟩
    exact exclusive.imp (fun null => ⟨_, one, null⟩) fun null => ⟨_, two, null⟩

theorem inRange_natCast (value : UInt64) (high : Nat) :
    inRange value.toNat 0 high = decide (value.toNat ≤ high) := by
  rw [Bool.eq_iff_iff]
  simp [inRange]

theorem clusterSelector_agrees {value : UInt64} (fits : value.toNat < 256 ^ Width.w32.octets) :
    Value.Descriptor.validCluster value.toNat =
      (decide (value.toNat ≤ 0xFFFFFFFF) && Elements.validCluster value.toUInt32) := by
  norm_num [Tlv.Width.octets] at fits
  rw [cluster_agrees (by omega), decide_eq_true (by omega), Bool.true_and]

theorem three_agree {cluster endpoint device : Tlv.Element F}
    {cluster' endpoint' device' : Elements.Element} (first : Same cluster cluster')
    (second : Same endpoint endpoint') (third : Same device device')
    (formed : ∀ field ∈ [cluster, endpoint, device], Tlv.WellFormed floats field) :
    Value.Descriptor.targetElement
        (.container .anonymous .structure [cluster, endpoint, device]) = true ↔
      Elements.TargetSpec (.container .anonymous .structure [cluster', endpoint', device']) ∧
        TargetInOrder (.container .anonymous .structure [cluster', endpoint', device']) := by
  have clusters : Value.Descriptor.nullableScalar cluster (.context 0) .w32
      Value.Descriptor.validCluster = true ↔ cluster'.tag = .context 0 ∧
        Elements.nullOr .w32 (fun value => value.toNat ≤ 0xFFFFFFFF &&
          Elements.validCluster value.toUInt32) cluster' = true :=
    nullableScalar_agrees first (formed cluster (by simp)) 0 fun _ => clusterSelector_agrees
  have endpoints : Value.Descriptor.nullableScalar endpoint (.context 1) .w16
      (inRange · 0 0xFFFE) = true ↔ endpoint'.tag = .context 1 ∧
        Elements.nullOr .w16 (fun value => value.toNat ≤ 0xFFFE) endpoint' = true :=
    nullableScalar_agrees second (formed endpoint (by simp)) 1
      fun value _ => inRange_natCast value 0xFFFE
  have devices : Value.Descriptor.nullableScalar device (.context 2) .w32
      (inRange · 0 0xFFFFFFFF) = true ↔ device'.tag = .context 2 ∧
        Elements.nullOr .w32 (fun value => value.toNat ≤ 0xFFFFFFFF) device' = true :=
    nullableScalar_agrees third (formed device (by simp)) 2
      fun value _ => inRange_natCast value 0xFFFFFFFF
  have selectors : Value.Descriptor.validTargetSelectors cluster'.isNull endpoint'.isNull
      device'.isNull = true ↔
        (cluster'.isNull = false ∨ endpoint'.isNull = false ∨ device'.isNull = false) ∧
          (endpoint'.isNull = true ∨ device'.isNull = true) := by
    simp [Value.Descriptor.validTargetSelectors, or_assoc]
  simp only [Value.Descriptor.targetElement, Bool.and_eq_true, clusters, endpoints, devices,
    isNull_agrees first, isNull_agrees second, isNull_agrees third, selectors]
  constructor
  · rintro ⟨⟨⟨⟨tag0, fine0⟩, tag1, fine1⟩, tag2, fine2⟩, given, exclusive⟩
    refine ⟨⟨_, rfl, (targetFields_ordered tag0 tag1 tag2).mpr
      ⟨⟨fine0, fine1, fine2⟩, given, exclusive⟩⟩, ?_⟩
    simp [TargetInOrder, Elements.Element.children, tag0, tag1, tag2]
  · rintro ⟨⟨_, same, fields⟩, ordered⟩
    obtain ⟨-, -, rfl⟩ := Elements.Element.container.inj same
    simp only [TargetInOrder, Elements.Element.children, List.map_cons, List.map_nil,
      List.cons.injEq, and_true] at ordered
    obtain ⟨tag0, tag1, tag2⟩ := ordered
    obtain ⟨⟨fine0, fine1, fine2⟩, given, exclusive⟩ :=
      (targetFields_ordered tag0 tag1 tag2).mp fields
    exact ⟨⟨⟨⟨tag0, fine0⟩, tag1, fine1⟩, tag2, fine2⟩, given, exclusive⟩

theorem target_agrees {element : Tlv.Element F} {native : Elements.Element}
    (same : Same element native) (outer : element.tag = .anonymous)
    (formed : Tlv.WellFormed floats element) :
    Value.Descriptor.targetElement element = true ↔
      Elements.TargetSpec native ∧ TargetInOrder native := by
  -- a target of another shape is neither
  have neither : (∀ cluster endpoint device, native ≠
        .container .anonymous .structure [cluster, endpoint, device]) →
      ¬ (Elements.TargetSpec native ∧ TargetInOrder native) := by
    rintro shape ⟨⟨children, rfl, fields⟩, -⟩
    match children, fields.three with
    | [cluster, endpoint, device], _ => exact shape cluster endpoint device rfl
  cases same with
  | container tags kinds inside =>
      obtain rfl : _ = Tlv.Tag.anonymous := outer
      cases tags
      cases kinds with
      | array => exact iff_of_false Bool.false_ne_true (neither fun _ _ _ => nofun)
      | _ =>
          cases inside with
          | nil => exact iff_of_false Bool.false_ne_true (neither fun _ _ _ => nofun)
          | cons cluster rest =>
              cases rest with
              | nil => exact iff_of_false Bool.false_ne_true (neither fun _ _ _ => nofun)
              | cons endpoint rest =>
                  cases rest with
                  | nil => exact iff_of_false Bool.false_ne_true (neither fun _ _ _ => nofun)
                  | cons device rest =>
                      cases rest with
                      | cons => exact iff_of_false Bool.false_ne_true (neither fun _ _ _ => nofun)
                      | nil => exact three_agree cluster endpoint device formed.children
  | _ =>
      obtain rfl : _ = Tlv.Tag.anonymous := outer
      exact iff_of_false Bool.false_ne_true (neither fun _ _ _ => nofun)

/-! ## Fields by tag -/

theorem byTag_filter (fields : List (Tlv.Element F)) (tag : Tlv.Tag) :
    Value.Descriptor.byTag fields tag =
      (fields.filter fun field => field.tag = tag).getLast? := by
  rw [Value.Descriptor.byTag, ← List.head?_filter, List.filter_reverse, List.head?_reverse]

theorem withTag_same {fields : List (Tlv.Element F)} {natives : List Elements.Element}
    (inside : List.Forall₂ Same fields natives) (id : UInt8) :
    List.Forall₂ Same (fields.filter fun field => field.tag = .context id.toNat)
      (Elements.withTag natives id) := by
  induction inside with
  | nil => exact .nil
  | @cons field native _ _ same _ ih =>
      have tags := tag_agrees same.tags id
      rw [Elements.withTag, List.filter_cons, List.filter_cons, tags]
      split
      · exact .cons same ih
      · exact ih

/-- With no tag twice, a tag is on neither side or on one field of both. -/
theorem field_lookup {fields : List (Tlv.Element F)} {natives : List Elements.Element}
    (inside : List.Forall₂ Same fields natives) (distinct : (fields.map Tlv.Element.tag).Nodup)
    (id : UInt8) :
    (Value.Descriptor.byTag fields (.context id.toNat) = none ∧ Elements.withTag natives id = []) ∨
      ∃ field ∈ fields, ∃ native, Same field native ∧
        Value.Descriptor.byTag fields (.context id.toNat) = some field ∧
          Elements.withTag natives id = [native] := by
  have same := withTag_same inside id
  have apart : ((fields.filter fun field => field.tag = .context id.toNat).map
      Tlv.Element.tag).Nodup := distinct.sublist (List.filter_sublist.map _)
  have member : ∀ field ∈ fields.filter (fun field => field.tag = .context id.toNat),
      field ∈ fields ∧ field.tag = .context id.toNat := by
    intro field listed
    obtain ⟨listed, mine⟩ := List.mem_filter.mp listed
    exact ⟨listed, of_decide_eq_true mine⟩
  rw [byTag_filter]
  generalize fields.filter (fun field => field.tag = .context id.toNat) = found
    at same apart member ⊢
  generalize Elements.withTag natives id = there at same ⊢
  cases same with
  | nil => exact Or.inl ⟨rfl, rfl⟩
  | @cons field native _ _ first rest =>
      cases rest with
      | nil => exact Or.inr ⟨field, (member field (by simp)).1, native, first, rfl, rfl⟩
      | @cons other _ _ _ _ _ =>
          rw [List.map_cons, List.map_cons, (member field (by simp)).2,
            (member other (by simp)).2] at apart
          simp at apart

/-- A field that must be there. -/
theorem any_agrees {fields : List (Tlv.Element F)} {natives : List Elements.Element}
    (inside : List.Forall₂ Same fields natives) (distinct : (fields.map Tlv.Element.tag).Nodup)
    (id : UInt8) {check : Tlv.Element F → Bool} {spec : Elements.Element → Prop}
    (each : ∀ field ∈ fields, ∀ native, Same field native → (check field = true ↔ spec native)) :
    (Value.Descriptor.byTag fields (.context id.toNat)).any check = true ↔
      ∃ native, Elements.withTag natives id = [native] ∧ spec native := by
  rcases field_lookup inside distinct id with ⟨none, none'⟩ |
    ⟨field, listed, native, same, found, here⟩
  · rw [none, none']
    simp
  · rw [found, here, Option.any_some, each field listed native same]
    simp

/-- A field that may be missing. -/
theorem optional_agrees {fields : List (Tlv.Element F)} {natives : List Elements.Element}
    (inside : List.Forall₂ Same fields natives) (distinct : (fields.map Tlv.Element.tag).Nodup)
    (id : UInt8) (low high : Nat) :
    Value.Descriptor.optionalU8 low high (Value.Descriptor.byTag fields (.context id.toNat)) = true ↔
      Elements.AtMostOnce natives id (Elements.Element.unsignedIn .w8 low high) := by
  rcases field_lookup inside distinct id with ⟨none, none'⟩ |
    ⟨field, listed, native, same, found, here⟩
  · rw [none]
    exact iff_of_true rfl (Or.inl none')
  · have each : Value.Descriptor.optionalU8 low high (some field) =
        native.unsignedIn .w8 low high := by
      cases same with
      | unsigned width value tags =>
          cases width with
          | w8 =>
              rw [Bool.eq_iff_iff]
              simp [Value.Descriptor.optionalU8, Elements.Element.unsignedIn, inRange]
          | _ => rfl
      | _ => rfl
    rw [found, each, Elements.AtMostOnce, Elements.Once, here]
    simp

theorem number_agrees {element : Tlv.Element F} {native : Elements.Element}
    (same : Same element native) :
    (Value.Descriptor.privilege element = true ↔ native.unsignedIn .w8 1 5 = true) ∧
      (Value.Descriptor.authMode element = true ↔ native.unsignedIn .w8 2 3 = true) := by
  cases same with
  | unsigned width value tags =>
      cases width with
      | w8 =>
          simp [Value.Descriptor.privilege, Value.Descriptor.authMode,
            Elements.Element.unsignedIn, inRange]
      | _ => exact ⟨Iff.rfl, Iff.rfl⟩
  | _ => exact ⟨Iff.rfl, Iff.rfl⟩

theorem forall_agree {elements : List (Tlv.Element F)} {natives : List Elements.Element}
    (same : List.Forall₂ Same elements natives) {check : Tlv.Element F → Bool}
    {spec : Elements.Element → Prop}
    (each : ∀ element ∈ elements, ∀ native, Same element native →
      (check element = true ↔ spec native)) :
    elements.all check = true ↔ ∀ native ∈ natives, spec native := by
  induction same with
  | nil => simp
  | cons here _ ih =>
      rw [List.all_cons, Bool.and_eq_true, each _ List.mem_cons_self _ here,
        ih fun element inside => each element (List.mem_cons_of_mem _ inside),
        List.forall_mem_cons]

theorem nullableList_agrees {element : Tlv.Element F} {native : Elements.Element}
    (same : Same element native) (formed : Tlv.WellFormed floats element)
    {check : Tlv.Element F → Bool} {spec : Elements.Element → Prop}
    (each : ∀ child, Tlv.WellFormed floats child → child.tag = .anonymous → ∀ native,
      Same child native → (check child = true ↔ spec native)) :
    Value.Descriptor.nullableList check element = true ↔
      Elements.NullableListSpec spec native := by
  have neither : native.isNull = false →
      (∀ tag children, native ≠ .container tag .array children) →
        ¬ Elements.NullableListSpec spec native := by
    rintro given shape (null | ⟨tag, children, rfl, -⟩)
    · rw [given] at null
      cases null
    · exact shape tag children rfl
  cases same with
  | null tags => exact iff_of_true rfl (Or.inl rfl)
  | container tags kinds inside =>
      cases kinds with
      | array =>
          have entries := forall_agree inside fun child listed native same =>
            each child (formed.children child listed) (formed.array_tags child listed) native same
          rw [Value.Descriptor.nullableList, Bool.and_eq_true, decide_eq_true_eq, entries,
            inside.length_eq]
          constructor
          · rintro ⟨short, fine⟩
            exact Or.inr ⟨_, _, rfl, short, fine⟩
          · rintro (null | ⟨_, _, same, fine⟩)
            · cases null
            · obtain ⟨-, -, rfl⟩ := Elements.Element.container.inj same
              exact fine
      | _ => exact iff_of_false Bool.false_ne_true (neither rfl fun _ _ => nofun)
  | _ => exact iff_of_false Bool.false_ne_true (neither rfl fun _ _ => nofun)

theorem subject_agrees {element : Tlv.Element F} {native : Elements.Element}
    (same : Same element native) (outer : element.tag = .anonymous) :
    Value.Descriptor.subjectElement element = true ↔
      ∃ value, native = .unsigned .anonymous .w64 value := by
  cases same with
  | unsigned width value tags =>
      obtain rfl : _ = Tlv.Tag.anonymous := outer
      cases tags
      cases width with
      | w64 => exact iff_of_true rfl ⟨value, rfl⟩
      | _ => exact iff_of_false Bool.false_ne_true nofun
  | _ =>
      obtain rfl : _ = Tlv.Tag.anonymous := outer
      exact iff_of_false Bool.false_ne_true nofun

theorem nullableList_and {spec extra : Elements.Element → Prop} {native : Elements.Element} :
    Elements.NullableListSpec (fun child => spec child ∧ extra child) native ↔
      Elements.NullableListSpec spec native ∧ ∀ child ∈ native.children, extra child := by
  constructor
  · rintro (null | ⟨tag, children, rfl, short, fine⟩)
    · refine ⟨Or.inl null, fun child listed => ?_⟩
      cases native with
      | null => cases listed
      | _ => cases null
    · exact ⟨Or.inr ⟨tag, children, rfl, short, fun child listed => (fine child listed).1⟩,
        fun child listed => (fine child listed).2⟩
  · rintro ⟨null | ⟨tag, children, rfl, short, fine⟩, extras⟩
    · exact Or.inl null
    · exact Or.inr ⟨tag, children, rfl, short, fun child listed =>
        ⟨fine child listed, extras child listed⟩⟩

/-! ## Entries -/

theorem tags_agree {fields : List (Tlv.Element F)} {natives : List Elements.Element}
    (inside : List.Forall₂ Same fields natives) (operation : Value.Operation) :
    (fields.all fun field => (Value.Descriptor.allowedTags operation).contains field.tag) = true ↔
      ∀ native ∈ natives, native.tag ∈ Elements.entryTags ∧
        (native.tag = .context 254 → operation = .read) := by
  refine forall_agree inside fun field _ native same => ?_
  have tags := same.tags
  have one : field.tag = .context 1 ↔ native.tag = .context 1 := tags.context_iff 1
  have two : field.tag = .context 2 ↔ native.tag = .context 2 := tags.context_iff 2
  have three : field.tag = .context 3 ↔ native.tag = .context 3 := tags.context_iff 3
  have four : field.tag = .context 4 ↔ native.tag = .context 4 := tags.context_iff 4
  have five : field.tag = .context 5 ↔ native.tag = .context 5 := tags.context_iff 5
  have fabric : field.tag = .context 254 ↔ native.tag = .context 254 := tags.context_iff 254
  by_cases read : operation = .read
  · simp [Value.Descriptor.allowedTags, Value.Descriptor.requiredTags, Elements.entryTags, read,
      one, two, three, four, five, fabric]
  · simp only [Value.Descriptor.allowedTags, Value.Descriptor.requiredTags, Elements.entryTags,
      read, if_false, List.append_nil, List.contains_iff_mem, List.mem_append, List.mem_cons,
      List.not_mem_nil, or_false, one, two, three, four, five]
    constructor
    · rintro ((here | here | here | here) | here) <;> simp [here]
    · rintro ⟨here | here | here | here | here | here, never⟩
      · exact Or.inl (Or.inl here)
      · exact Or.inl (Or.inr (Or.inl here))
      · exact Or.inl (Or.inr (Or.inr (Or.inl here)))
      · exact Or.inl (Or.inr (Or.inr (Or.inr here)))
      · exact Or.inr here
      · exact absurd (never here) id

theorem fields_agree {fields : List (Tlv.Element F)} {natives : List Elements.Element}
    (inside : List.Forall₂ Same fields natives)
    (formed : Tlv.WellFormed floats (.container .anonymous .structure fields))
    (operation : Value.Operation) :
    Value.Descriptor.accessEntryElement operation (.container .anonymous .structure fields) = true ↔
      Elements.EntryFields operation natives ∧ ∀ field ∈ natives, field.tag = .context 4 →
        ∀ target ∈ field.children, TargetInOrder target := by
  have distinct := formed.structure_tags.2
  have privilege : (Value.Descriptor.byTag fields (.context 1)).any Value.Descriptor.privilege =
      true ↔ Elements.Once natives 1 (Elements.Element.unsignedIn .w8 1 5) :=
    any_agrees inside distinct 1 fun _ _ _ same => (number_agrees same).1
  have authMode : (Value.Descriptor.byTag fields (.context 2)).any Value.Descriptor.authMode =
      true ↔ Elements.Once natives 2 (Elements.Element.unsignedIn .w8 2 3) :=
    any_agrees inside distinct 2 fun _ _ _ same => (number_agrees same).2
  have subjects : (Value.Descriptor.byTag fields (.context 3)).any Value.Descriptor.subjects =
      true ↔ ∃ native, Elements.withTag natives 3 = [native] ∧ Elements.NullableListSpec
        (fun subject => ∃ value, subject = .unsigned .anonymous .w64 value) native :=
    any_agrees inside distinct 3 fun field listed _ same =>
      nullableList_agrees same (formed.children field listed)
        fun _ _ outer _ same => subject_agrees same outer
  have targets : (Value.Descriptor.byTag fields (.context 4)).any Value.Descriptor.targets =
      true ↔ ∃ native, Elements.withTag natives 4 = [native] ∧ Elements.NullableListSpec
        (fun target => Elements.TargetSpec target ∧ TargetInOrder target) native :=
    any_agrees inside distinct 4 fun field listed _ same =>
      nullableList_agrees same (formed.children field listed)
        fun _ formed outer _ same => target_agrees same outer formed
  have auxiliary : Value.Descriptor.optionalU8 0 1
      (Value.Descriptor.byTag fields (.context 5)) = true ↔
        Elements.AtMostOnce natives 5 (Elements.Element.unsignedIn .w8 0 1) :=
    optional_agrees inside distinct 5 0 1
  have fabric : Value.Descriptor.optionalU8 1 254
      (Value.Descriptor.byTag fields (.context 254)) = true ↔
        Elements.AtMostOnce natives 254 (Elements.Element.unsignedIn .w8 1 254) :=
    optional_agrees inside distinct 254 1 254
  have some : ∀ {tag : Tlv.Tag} {check : Tlv.Element F → Bool},
      (Value.Descriptor.byTag fields tag).any check = true →
        (Value.Descriptor.byTag fields tag).isSome = true := by
    intro tag check passed
    cases found : Value.Descriptor.byTag fields tag with
    | none =>
        rw [found] at passed
        cases passed
    | some field => rfl
  simp only [Value.Descriptor.accessEntryElement, Bool.and_eq_true, decide_eq_true distinct,
    true_and, tags_agree inside]
  constructor
  · rintro ⟨⟨⟨⟨⟨⟨⟨-, tags⟩, one⟩, two⟩, three⟩, four⟩, five⟩, last⟩
    obtain ⟨native, here, list⟩ := targets.mp four
    obtain ⟨list, ordered⟩ := nullableList_and.mp list
    refine ⟨⟨⟨fun field listed => (tags field listed).1, privilege.mp one, authMode.mp two,
      subjects.mp three, native, here, list⟩, auxiliary.mp five, ?_⟩, ?_⟩
    · refine (fabric.mp last).imp id ?_
      rintro ⟨field, here, fine⟩
      obtain ⟨listed, mine⟩ := Elements.mem_of_withTag here
      exact ⟨field, here, Bool.and_eq_true_iff.mpr
        ⟨decide_eq_true ((tags field listed).2 mine), fine⟩⟩
    · intro field listed mine
      have inside : field ∈ Elements.withTag natives 4 :=
        List.mem_filter.mpr ⟨listed, decide_eq_true mine⟩
      rw [here] at inside
      rw [List.mem_singleton.mp inside]
      exact ordered
  · rintro ⟨⟨⟨tags, one, two, three, native, here, list⟩, five, last⟩, ordered⟩
    obtain ⟨listed, mine⟩ := Elements.mem_of_withTag here
    have one := privilege.mpr one
    have two := authMode.mpr two
    have three := subjects.mpr three
    have four := targets.mpr ⟨native, here, nullableList_and.mpr ⟨list, ordered native listed mine⟩⟩
    have read : ∀ field ∈ natives, field.tag = .context 254 → operation = .read := by
      intro field listed mine
      have inside : field ∈ Elements.withTag natives 254 :=
        List.mem_filter.mpr ⟨listed, decide_eq_true mine⟩
      rcases last with none | ⟨_, -, fine⟩
      · rw [none] at inside
        cases inside
      · exact of_decide_eq_true (Bool.and_eq_true_iff.mp fine).1
    refine ⟨⟨⟨⟨⟨⟨⟨?_, fun field listed => ⟨tags field listed, read field listed⟩⟩, one⟩, two⟩,
      three⟩, four⟩, auxiliary.mpr five⟩, fabric.mpr ?_⟩
    · simp [Value.Descriptor.requiredTags, some one, some two, some three, some four]
    · exact last.imp id fun ⟨field, here, fine⟩ => ⟨field, here, (Bool.and_eq_true_iff.mp fine).2⟩

/-- What the BEAM asks of an entry is the specification with the fields of targets in order. -/
theorem entry_agrees {element : Tlv.Element F} {native : Elements.Element}
    (same : Same element native) (outer : element.tag = .anonymous)
    (formed : Tlv.WellFormed floats element) (operation : Value.Operation) :
    Value.Descriptor.accessEntryElement operation element = true ↔
      Elements.EntrySpec operation native ∧ EntryInOrder native := by
  have neither : (∀ children, native ≠ .container .anonymous .structure children) →
      ¬ (Elements.EntrySpec operation native ∧ EntryInOrder native) := by
    rintro shape ⟨⟨children, rfl, -⟩, -⟩
    exact shape children rfl
  cases same with
  | container tags kinds inside =>
      obtain rfl : _ = Tlv.Tag.anonymous := outer
      cases tags
      cases kinds with
      | array => exact iff_of_false Bool.false_ne_true (neither fun _ => nofun)
      | _ =>
          rw [fields_agree inside formed]
          constructor
          · rintro ⟨fields, ordered⟩
            exact ⟨⟨_, rfl, fields⟩, ordered⟩
          · rintro ⟨⟨_, same, fields⟩, ordered⟩
            obtain ⟨-, -, rfl⟩ := Elements.Element.container.inj same
            exact ⟨fields, ordered⟩
  | _ =>
      obtain rfl : _ = Tlv.Tag.anonymous := outer
      exact iff_of_false Bool.false_ne_true (neither fun _ => nofun)

/-! ## Lists -/

theorem same_mem {elements : List (Tlv.Element F)} {natives : List Elements.Element}
    (same : List.Forall₂ Same elements natives) {native : Elements.Element}
    (listed : native ∈ natives) : ∃ element ∈ elements, Same element native := by
  induction same with
  | nil => cases listed
  | cons first _ ih =>
      rcases List.mem_cons.mp listed with rfl | listed
      · exact ⟨_, List.mem_cons_self, first⟩
      · obtain ⟨element, inside, same⟩ := ih listed
        exact ⟨element, List.mem_cons_of_mem _ inside, same⟩

/-- What the BEAM asks of a list. -/
theorem list_agrees {element : Tlv.Element F} {native : Elements.Element}
    (same : Same element native) (outer : element.tag = .anonymous)
    (formed : Tlv.WellFormed floats element) (operation : Value.Operation) :
    Value.Descriptor.schemaMatches operation .accessControlList element = true ↔
      Elements.AccessControlSpec operation native ∧ TargetsInOrder native := by
  have neither : (∀ entries, native ≠ .container .anonymous .array entries) →
      ¬ (Elements.AccessControlSpec operation native ∧ TargetsInOrder native) := by
    rintro shape ⟨⟨entries, rfl, -⟩, -⟩
    exact shape entries rfl
  cases same with
  | container tags kinds inside =>
      obtain rfl : _ = Tlv.Tag.anonymous := outer
      cases tags
      cases kinds with
      | array =>
          have entries := forall_agree inside fun child listed native same => entry_agrees same
            (formed.array_tags child listed) (formed.children child listed) operation
          rw [Value.Descriptor.schemaMatches, Bool.and_eq_true, decide_eq_true_eq, entries,
            inside.length_eq]
          constructor
          · rintro ⟨short, fine⟩
            exact ⟨⟨_, rfl, short, fun entry listed => (fine entry listed).1⟩,
              fun entry listed => (fine entry listed).2⟩
          · rintro ⟨⟨_, same, short, fine⟩, ordered⟩
            obtain ⟨-, -, rfl⟩ := Elements.Element.container.inj same
            exact ⟨short, fun entry listed => ⟨fine entry listed, ordered entry listed⟩⟩
      | _ => exact iff_of_false Bool.false_ne_true (neither fun _ => nofun)
  | _ =>
      obtain rfl : _ = Tlv.Tag.anonymous := outer
      exact iff_of_false Bool.false_ne_true (neither fun _ => nofun)

/-- No structure of a well-formed element has a tag twice. -/
theorem not_overlooked {element : Tlv.Element F} {native : Elements.Element}
    (same : Same element native) (formed : Tlv.WellFormed floats element)
    (operation : Value.Operation) :
    ¬ Elements.Overlooked operation native := by
  rintro ⟨entries, rfl, -, -, entry, listed, fields, rfl, -, twice⟩
  obtain _ | _ | _ | _ | ⟨_, _, inside⟩ := same
  obtain ⟨entry, listed, same⟩ := same_mem inside listed
  have formed := formed.children entry listed
  obtain _ | _ | _ | _ | ⟨_, kinds, inside⟩ := same
  cases kinds
  have distinct := formed.structure_tags.2
  have once : ∀ id, (Elements.withTag fields id).length ≤ 1 := by
    intro id
    rcases field_lookup inside distinct id with ⟨-, none⟩ | ⟨_, -, _, -, -, one⟩
    · rw [none]
      exact Nat.zero_le _
    · rw [one]
      exact le_refl _
  have five := once 5
  have fabric := once 254
  omega

/-! ## Agreement -/

/-- An access-control list to the specification in which the fields of a target are not in the
order of their tags. -/
def OutOfOrder (kind : MemberKind) (cluster member : UInt32) (operation : Value.Operation)
    (native : Elements.Element) : Prop :=
  schemaOf kind cluster member operation = some .accessControlList ∧
    Elements.AccessControlSpec operation native ∧ ¬ TargetsInOrder native

/-- **The two validators agree on everything but access-control lists with targets out of order.** -/
theorem validators_agree (floats : Floats F) (kind : MemberKind) (fabric node endpoint : Int)
    (cluster member : UInt32) (operation : Value.Operation) (element : Tlv.Element F)
    (native : Elements.Element) (place : ValidPlace fabric node endpoint)
    (same : Same element native) (accepted : (Tlv.validateElement floats element).isSome = true) :
    (Elements.validateElement kind cluster member operation native = .none ↔
      (Value.Descriptor.validateElement floats kind
        (some (memberAddress fabric node endpoint cluster member)) operation
          (some element)).isSome = true) ↔
      ¬ OutOfOrder kind cluster member operation native := by
  obtain ⟨normalized, validated⟩ := Option.isSome_iff_exists.mp accepted
  obtain ⟨rfl, outer, formed⟩ := Tlv.validateElement_wellFormed (Same.floatFree _ same) validated
  have outer' := same.tags.anonymous_iff.mp outer
  rw [native_none_iff outer', beam_some_iff place validated, OutOfOrder]
  cases admitted : schemaOf kind cluster member operation with
  | none => simp
  | some schema =>
      simp only [Option.some.injEq, exists_eq_left']
      by_cases list : schema = .accessControlList
      · subst list
        have exact := (Elements.validAccessControlList_exact native operation).mpr
          (not_overlooked same formed operation)
        rw [Elements.acceptsSchema, exact, list_agrees same outer formed operation]
        constructor
        · rintro agree ⟨-, spec, swapped⟩
          exact swapped (agree.mp spec).2
        · intro clear
          exact ⟨fun spec => ⟨spec, by_contra fun swapped => clear ⟨rfl, spec, swapped⟩⟩, And.left⟩
      · rw [schema_agrees same outer formed operation list]
        simp [list]

/-- A list of one entry with one target that has these fields. -/
def listOf (fields : List (Tlv.Element Empty)) : Tlv.Element Empty :=
  .container .anonymous .array [.container .anonymous .structure
    [.scalar (.context 1) (.unsigned .w8 5), .scalar (.context 2) (.unsigned .w8 2),
      .scalar (.context 3) .null,
      .container (.context 4) .array [.container .anonymous .structure fields]]]

def nativeOf (fields : List Elements.Element) : Elements.Element :=
  .container .anonymous .array [.container .anonymous .structure
    [.unsigned (.context 1) .w8 5, .unsigned (.context 2) .w8 2, .null (.context 3),
      .container (.context 4) .array [.container .anonymous .structure fields]]]

theorem same_listOf {fields : List (Tlv.Element Empty)} {native : List Elements.Element}
    (same : List.Forall₂ Same fields native) : Same (listOf fields) (nativeOf native) :=
  .container .anonymous .array (.cons (.container .anonymous .structure
    (.cons (.unsigned .w8 5 (.context 1)) (.cons (.unsigned .w8 2 (.context 2))
      (.cons (.null (.context 3)) (.cons (.container (.context 4) .array
        (.cons (.container .anonymous .structure same) .nil)) .nil))))) .nil)

/-- A target in order is admitted on both sides. -/
theorem validators_agree_list :
    Elements.validateElement .attribute 0x1F 0 .read
        (nativeOf [.null (.context 0), .unsigned (.context 1) .w16 1, .null (.context 2)]) = .none ∧
      (Value.Descriptor.validateElement Tlv.noFloats .attribute
        (some (memberAddress 1 2 0 0x1F 0)) .read
        (some (listOf [.scalar (.context 0) .null, .scalar (.context 1) (.unsigned .w16 1),
          .scalar (.context 2) .null]))).isSome = true := by
  have accepted : Elements.validateElement .attribute 0x1F 0 .read
      (nativeOf [.null (.context 0), .unsigned (.context 1) .w16 1, .null (.context 2)]) = .none := by
    decide +kernel
  have ordered : ¬ OutOfOrder .attribute 0x1F 0 .read
      (nativeOf [.null (.context 0), .unsigned (.context 1) .w16 1, .null (.context 2)]) := by
    rintro ⟨-, -, swapped⟩
    refine swapped ?_
    simp [TargetsInOrder, EntryInOrder, TargetInOrder, nativeOf, Elements.Element.children,
      Elements.Element.tag]
  exact ⟨accepted, ((validators_agree Tlv.noFloats .attribute 1 2 0 0x1F 0 .read _ _ rfl
    (same_listOf (.cons (.null (.context 0)) (.cons (.unsigned .w16 1 (.context 1))
      (.cons (.null (.context 2)) .nil)))) (by decide +kernel)).mpr ordered).mp accepted⟩

/-- One entry with one target, whose endpoint stands before its cluster. -/
def swappedList : Tlv.Element Empty :=
  listOf [.scalar (.context 1) (.unsigned .w16 1), .scalar (.context 0) .null,
    .scalar (.context 2) .null]

def swappedNative : Elements.Element :=
  nativeOf [.unsigned (.context 1) .w16 1, .null (.context 0), .null (.context 2)]

theorem swapped_same : Same swappedList swappedNative :=
  same_listOf (.cons (.unsigned .w16 1 (.context 1)) (.cons (.null (.context 0))
    (.cons (.null (.context 2)) .nil)))

theorem validators_disagree :
    ¬ ∀ (kind : MemberKind) (fabric node endpoint : Int) (cluster member : UInt32)
      (operation : Value.Operation) (element : Tlv.Element Empty) (native : Elements.Element),
      ValidPlace fabric node endpoint → Same element native →
        (Tlv.validateElement Tlv.noFloats element).isSome = true →
          (Elements.validateElement kind cluster member operation native = .none ↔
            (Value.Descriptor.validateElement Tlv.noFloats kind
              (some (memberAddress fabric node endpoint cluster member)) operation
                (some element)).isSome = true) := by
  intro agree
  have beam := (agree .attribute 1 2 0 0x1F 0 .read swappedList swappedNative rfl
    swapped_same (by decide +kernel)).mp (by decide +kernel)
  exact absurd beam (by decide +kernel)

end WotexMatter.Session
