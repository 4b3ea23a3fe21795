/-
# WotexMatter.Value.RoundTrip -- what `to_element` writes is valid and comes back

An element that `to_element` returns is matched by its schema, and `from_element` gives the value
back, with `nil` for the subjects and targets that an access-control entry leaves out.  The one
exception is an entry that is written with a fabric index (`toElement_round`).
-/
import Mathlib.Data.List.Perm.Subperm
import WotexMatter.Tlv.RoundTrip
import WotexMatter.Value.Conversion

set_option autoImplicit false

namespace WotexMatter.Value

open WotexMatter.Tlv SchemaValue

namespace Descriptor

variable {F : Type}

/-! ## Maps -/

/-- A map of as many keys as these has these and no others. -/
theorem keys_only {fields : FieldName → Option SchemaValue} {others : Nat} {names : List FieldName}
    (distinct : names.Nodup) (present : ∀ name ∈ names, (fields name).isSome = true)
    (size : mapSize fields others = names.length) :
    others = 0 ∧ ∀ name, name ∉ names → fields name = none := by
  have inside : names ⊆ keys fields := fun name listed =>
    List.mem_filter.mpr ⟨FieldName.mem_all name, present name listed⟩
  have sub := distinct.subperm inside
  have few := sub.length_le
  rw [mapSize] at size
  refine ⟨by omega, fun name absent => ?_⟩
  have same := sub.perm_of_length_le (by omega)
  rw [← Option.not_isSome_iff_eq_none]
  exact fun held => absent
    (same.mem_iff.mpr (List.mem_filter.mpr ⟨FieldName.mem_all name, held⟩))

/-- A map of as many keys is the map of what it has under these. -/
theorem map_eq_mapOf {fields : FieldName → Option SchemaValue} {others : Nat}
    {members : List (FieldName × SchemaValue)} (distinct : (members.map Prod.fst).Nodup)
    (present : ∀ member ∈ members, fields member.1 = some member.2)
    (size : mapSize fields others = members.length) : SchemaValue.map fields others = mapOf members := by
  have held : ∀ name ∈ members.map Prod.fst, (fields name).isSome = true := by
    intro name listed
    obtain ⟨member, inside, rfl⟩ := List.mem_map.mp listed
    rw [present member inside]
    rfl
  obtain ⟨none, absent⟩ := keys_only distinct held (by rw [List.length_map, size])
  rw [mapOf, none]
  congr 1
  funext name
  cases found : members.lookup name with
  | none =>
      refine absent name fun listed => ?_
      obtain ⟨member, inside, rfl⟩ := List.mem_map.mp listed
      simpa using List.lookup_eq_none_iff.mp found member inside
  | some value =>
      obtain ⟨front, back, rfl, _⟩ := List.lookup_eq_some_iff.mp found
      exact present (name, value) (by simp)

/-! ## Lists -/

theorem traverse_length {α β : Type} {converter : α → Option β} {values : List α} {children : List β}
    (converted : traverse converter values = some children) : children.length = values.length := by
  induction values generalizing children with
  | nil =>
      obtain rfl := Option.some.inj converted
      rfl
  | cons value rest ih =>
      simp only [traverse, Option.bind_eq_bind, Option.bind_eq_some_iff, Option.some.injEq] at converted
      obtain ⟨child, -, others, rest, rfl⟩ := converted
      rw [List.length_cons, List.length_cons, ih rest]

/-- What is read from the children is read from the values. -/
theorem traverse_map {α β γ : Type} {converter : α → Option β} {values : List α} {children : List β}
    {after : β → γ} {before : α → γ}
    (each : ∀ value child, converter value = some child → after child = before value)
    (converted : traverse converter values = some children) :
    children.map after = values.map before := by
  induction values generalizing children with
  | nil =>
      obtain rfl := Option.some.inj converted
      rfl
  | cons value rest ih =>
      simp only [traverse, Option.bind_eq_bind, Option.bind_eq_some_iff, Option.some.injEq] at converted
      obtain ⟨child, first, others, rest, rfl⟩ := converted
      rw [List.map_cons, List.map_cons, each value child first, ih rest]

theorem traverse_all {α β : Type} {converter : α → Option β} {values : List α} {children : List β}
    {after : β → Bool} {before : α → Bool}
    (each : ∀ value child, converter value = some child → after child = before value)
    (converted : traverse converter values = some children) :
    children.all after = values.all before := by
  have same := congrArg (List.all · id) (traverse_map each converted)
  simpa [List.all_map] using same

theorem traverse_mem {α β : Type} {converter : α → Option β} {values : List α} {children : List β}
    (converted : traverse converter values = some children) :
    ∀ value ∈ values, ∃ child, converter value = some child := by
  induction values generalizing children with
  | nil => exact nofun
  | cons value rest ih =>
      simp only [traverse, Option.bind_eq_bind, Option.bind_eq_some_iff, Option.some.injEq] at converted
      obtain ⟨child, first, others, rest, -⟩ := converted
      exact List.forall_mem_cons.mpr ⟨⟨child, first⟩, ih rest⟩

/-- The values and the children of a converted list. -/
theorem arrayUnder_cases {tag : Tag} {most : Nat} {converter : SchemaValue → Option (Element F)}
    {value : SchemaValue} {element : Element F}
    (converted : arrayUnder tag most converter value = some element) :
    ∃ values children, value = .list values true ∧ values.length ≤ most ∧
      traverse converter values = some children ∧ element = .container tag .array children := by
  unfold arrayUnder at converted
  split at converted
  · rename_i values
    split at converted
    · rename_i few
      obtain ⟨children, traversed, rfl⟩ := Option.map_eq_some_iff.mp converted
      exact ⟨values, children, rfl, few, traversed, rfl⟩
    · cases converted
  · cases converted

/-! ## Scalars -/

theorem taggedScalar_cases {tag : Tag} {width : Width} {low high : Int} {value : SchemaValue}
    {element : Element F} (converted : taggedScalar tag width low high value = some element) :
    ∃ number, value = .integer number ∧ inRange number low high = true ∧
      element = .scalar tag (.unsigned width number) := by
  unfold taggedScalar at converted
  split at converted
  · rename_i number
    split at converted
    · rename_i inside
      exact ⟨number, rfl, inside, (Option.some.inj converted).symm⟩
    · cases converted
  · cases converted

/-- What holds of an element that a value was converted to. -/
structure Round (schema : Schema) (operation : Operation) (value : SchemaValue)
    (element : Element F) : Prop where
  free : element.floatFree = true
  admitted : schemaMatches operation schema element =
    (decide (operation = .read) || !hasFabricIndex value)
  back : extract schema element = some (filled schema value)
  indexed : hasFabricIndex value = true → schema = .accessControlList

section Scalars

variable {schema : Schema} {operation : Operation} {value : SchemaValue} {element : Element F}

/-- Under a schema that takes numbers of a width in a range. -/
theorem round_scalar {width : Width} {low high : Int}
    (matching : ∀ element : Element F, matchesUnsigned width low high element = true →
      schemaMatches operation schema element = true)
    (reads : ∀ element : Element F, extract schema element = some (valueOf element))
    (keeps : ∀ number, filled schema (.integer number) = .integer number)
    (converted : scalar width low high value = some element) :
    Round schema operation value element := by
  obtain ⟨number, rfl, inside, rfl⟩ := taggedScalar_cases converted
  have taken : matchesUnsigned width low high
      (.scalar .anonymous (.unsigned width number) : Element F) = true := by
    simp [matchesUnsigned, inside]
  refine ⟨rfl, ?_, ?_, nofun⟩
  · rw [matching _ taken]
    simp [hasFabricIndex]
  · rw [reads, keeps]
    rfl

theorem round_i16
    (matching : ∀ element : Element F, matchesI16 element = true →
      schemaMatches operation schema element = true)
    (reads : ∀ element : Element F, extract schema element = some (valueOf element))
    (keeps : ∀ number, filled schema (.integer number) = .integer number)
    (converted : convertI16 value = some element) : Round schema operation value element := by
  unfold convertI16 at converted
  split at converted
  · rename_i number
    split at converted
    · rename_i inside
      obtain rfl := Option.some.inj converted
      refine ⟨rfl, ?_, ?_, nofun⟩
      · rw [matching (.scalar .anonymous (.signed .w16 number)) inside]
        simp [hasFabricIndex]
      · rw [reads, keeps]
        rfl
    · cases converted
  · cases converted

theorem round_nullable {convert : SchemaValue → Option (Element F)}
    (matching : schemaMatches operation schema (.scalar .anonymous .null : Element F) = true)
    (reads : extract schema (.scalar .anonymous .null : Element F) = some .nil)
    (keeps : filled schema .nil = .nil)
    (other : convert value = some element → Round schema operation value element)
    (converted : nullable convert value = some element) : Round schema operation value element := by
  unfold nullable at converted
  split at converted
  · obtain rfl := Option.some.inj converted
    refine ⟨rfl, ?_, ?_, nofun⟩
    · rw [matching]
      simp [hasFabricIndex]
    · rw [reads, keeps]
  · exact other converted

end Scalars

/-! ## Lists of values -/

theorem floatFree_of {children : List (Element F)}
    (each : ∀ child ∈ children, child.floatFree = true) : floatFree children = true := by
  induction children with
  | nil => rfl
  | cons child rest ih =>
      obtain ⟨first, others⟩ := List.forall_mem_cons.mp each
      rw [floatFree, first, ih others]
      rfl

/-- A list whose entries are written and read back one by one. -/
theorem round_array {schema : Schema} {operation : Operation} {value : SchemaValue}
    {element : Element F} {most : Nat} {converter : SchemaValue → Option (Element F)}
    {child : Element F → Bool} {read : Element F → SchemaValue} (kept : SchemaValue → SchemaValue)
    (each : ∀ entry written, converter entry = some written → written.floatFree = true ∧
      child written = (decide (operation = .read) || !fabricEntry entry) ∧ read written = kept entry)
    (matching : ∀ children, children.length ≤ most →
      schemaMatches operation schema (.container .anonymous .array children) = children.all child)
    (reads : ∀ children, extract schema (.container .anonymous .array children) =
      some (.list (children.map read) true))
    (keeps : ∀ entries, filled schema (.list entries true) = .list (entries.map kept) true)
    (indexed : ∀ entry written, converter entry = some written → fabricEntry entry = true →
      schema = .accessControlList)
    (converted : arrayUnder .anonymous most converter value = some element) :
    Round schema operation value element := by
  obtain ⟨values, children, rfl, few, traversed, rfl⟩ := arrayUnder_cases converted
  have free := traverse_all (fun entry written converts => (each entry written converts).1.trans
    (rfl : true = (fun _ => true) entry)) traversed
  refine ⟨?_, ?_, ?_, fun held => ?_⟩
  · rw [Element.floatFree]
    refine floatFree_of (List.all_eq_true.mp (free.trans ?_))
    simp
  · rw [matching children ((traverse_length traversed).trans_le few),
      traverse_all (fun entry written converts => (each entry written converts).2.1) traversed,
      hasFabricIndex]
    by_cases reading : operation = .read
    · simp [reading]
    · simp [reading, List.all_eq_not_any_not]
  · rw [reads, keeps,
      traverse_map (fun entry written converts => (each entry written converts).2.2) traversed]
  · obtain ⟨entry, listed, fabric⟩ := List.any_eq_true.mp held
    obtain ⟨written, converts⟩ := traverse_mem traversed entry listed
    exact indexed entry written converts fabric

/-- A list whose entries come back as they are. -/
theorem round_plain {schema : Schema} {operation : Operation} {value : SchemaValue}
    {element : Element F} {converter : SchemaValue → Option (Element F)}
    {child : Element F → Bool} {read : Element F → SchemaValue}
    (each : ∀ entry written, converter entry = some written → written.floatFree = true ∧
      child written = true ∧ fabricEntry entry = false ∧ read written = entry)
    (matching : ∀ children,
      schemaMatches operation schema (.container .anonymous .array children) = children.all child)
    (reads : ∀ children, extract schema (.container .anonymous .array children) =
      some (.list (children.map read) true))
    (keeps : ∀ entries, filled schema (.list entries true) = .list entries true)
    (converted : array converter value = some element) : Round schema operation value element := by
  refine round_array id (fun entry written converts => ?_) (fun children _ => matching children)
    reads (fun entries => by rw [keeps, List.map_id])
    (fun entry written converts fabric => ?_) converted
  swap
  · rw [(each entry written converts).2.2.1] at fabric
    cases fabric
  obtain ⟨free, taken, plain, same⟩ := each entry written converts
  exact ⟨free, by rw [taken, plain]; simp, same⟩

theorem round_clusterEntry {entry : SchemaValue} {written : Element F}
    (converts : clusterEntry entry = some written) : written.floatFree = true ∧
      clusterElement written = true ∧ fabricEntry entry = false ∧ valueOf written = entry := by
  unfold clusterEntry at converts
  split at converts
  · rename_i value
    split at converts
    · rename_i valid
      obtain ⟨number, same, inside, rfl⟩ := taggedScalar_cases converts
      cases same
      exact ⟨rfl, valid, rfl, rfl⟩
    · cases converts
  · cases converts

theorem round_partEntry {entry : SchemaValue} {written : Element F}
    (converts : scalar .w16 0 0xFFFE entry = some written) : written.floatFree = true ∧
      matchesUnsigned .w16 0 0xFFFE written = true ∧ fabricEntry entry = false ∧
      valueOf written = entry := by
  obtain ⟨number, rfl, inside, rfl⟩ := taggedScalar_cases converts
  refine ⟨rfl, ?_, rfl, rfl⟩
  simp [matchesUnsigned, inside]

theorem round_deviceTypeEntry {entry : SchemaValue} {written : Element F}
    (converts : deviceTypeEntry entry = some written) : written.floatFree = true ∧
      deviceTypeElement written = true ∧ fabricEntry entry = false ∧
      extractDeviceType written = entry := by
  unfold deviceTypeEntry at converts
  split at converts
  swap
  · cases converts
  rename_i fields others
  split at converts
  swap
  · cases converts
  rename_i deviceType revision typed revised
  split at converts
  swap
  · cases converts
  rename_i size
  simp only [Option.bind_eq_bind, Option.bind_eq_some_iff, Option.some.injEq] at converts
  obtain ⟨first, wroteType, second, wroteRevision, rfl⟩ := converts
  obtain ⟨type, rfl, -, rfl⟩ := taggedScalar_cases wroteType
  obtain ⟨number, rfl, -, rfl⟩ := taggedScalar_cases wroteRevision
  have whole : SchemaValue.map fields others =
      mapOf [(.deviceType, .integer type), (.revision, .integer number)] :=
    map_eq_mapOf (by simp) (by simp [typed, revised]) size
  rw [whole]
  exact ⟨rfl, by simp [deviceTypeElement, unsignedField], rfl, rfl⟩

/-! ## Access-control entries -/

theorem nullableTagged_cases {tag : Tag} {width : Width} {admits : Int → Bool} {value : SchemaValue}
    {element : Element F} (converted : nullableTagged tag width admits value = some element) :
    (value = .nil ∧ element = .scalar tag .null) ∨
      ∃ number, value = .integer number ∧ admits number = true ∧
        element = .scalar tag (.unsigned width number) := by
  unfold nullableTagged at converted
  split at converted
  · exact Or.inl ⟨rfl, (Option.some.inj converted).symm⟩
  · rename_i number
    split at converted
    · rename_i admitted
      exact Or.inr ⟨number, rfl, admitted, (Option.some.inj converted).symm⟩
    · cases converted
  · cases converted

/-- A field of a target is a scalar that its check takes and that is read back. -/
theorem round_targetField {tag : Tag} {width : Width} {admits : Int → Bool} (checked : Int → Bool)
    {value : SchemaValue} {element : Element F}
    (weaker : ∀ number, admits number = true → checked number = true)
    (converted : nullableTagged tag width admits value = some element) :
    element.floatFree = true ∧ nullableScalar element tag width checked = true ∧
      isNull element = value.isNil ∧ valueOf element = value := by
  rcases nullableTagged_cases converted with ⟨rfl, rfl⟩ | ⟨number, rfl, admitted, rfl⟩
  · exact ⟨rfl, by simp [nullableScalar, Element.tag], rfl, rfl⟩
  · exact ⟨rfl, by simp [nullableScalar, Element.tag, weaker number admitted], rfl, rfl⟩

theorem round_accessTarget {entry : SchemaValue} {written : Element F}
    (converts : accessTarget entry = some written) : written.floatFree = true ∧
      targetElement written = true ∧ extractAccessTarget written = entry := by
  unfold accessTarget at converts
  split at converts
  swap
  · cases converts
  rename_i fields others
  split at converts
  swap
  · cases converts
  rename_i cluster endpoint deviceType clustered ended typed
  split at converts
  swap
  · cases converts
  rename_i size
  simp only [Option.bind_eq_bind, Option.bind_eq_some_iff, Option.ite_none_right_eq_some,
    Option.some.injEq] at converts
  obtain ⟨first, wroteCluster, second, wroteEndpoint, third, wroteType, selected, rfl⟩ := converts
  obtain ⟨freeCluster, takenCluster, nullCluster, readCluster⟩ := round_targetField
    validCluster (fun number both => (Bool.and_eq_true _ _ ▸ both).1) wroteCluster
  obtain ⟨freeEndpoint, takenEndpoint, nullEndpoint, readEndpoint⟩ := round_targetField
    (inRange · 0 0xFFFE) (fun _ inside => inside) wroteEndpoint
  obtain ⟨freeType, takenType, nullType, readType⟩ := round_targetField
    (inRange · 0 0xFFFFFFFF) (fun _ inside => inside) wroteType
  have whole : SchemaValue.map fields others =
      mapOf [(.cluster, cluster), (.endpoint, endpoint), (.deviceType, deviceType)] :=
    map_eq_mapOf (by simp) (by simp [clustered, ended, typed]) size
  refine ⟨?_, ?_, ?_⟩
  · simp [Element.floatFree, floatFree, freeCluster, freeEndpoint, freeType]
  · simp [targetElement, takenCluster, takenEndpoint, takenType, nullCluster, nullEndpoint, nullType,
      selected]
  · rw [whole, extractAccessTarget, readCluster, readEndpoint, readType]

/-- A list of at most 64, under a tag. -/
theorem round_nullableList {id : Int} {converter : SchemaValue → Option (Element F)}
    {check : Element F → Bool} {read : Element F → SchemaValue} {value : SchemaValue}
    {element : Element F}
    (each : ∀ entry written, converter entry = some written →
      written.floatFree = true ∧ check written = true ∧ read written = entry)
    (converted : arrayUnder (.context id) 64 converter value = some element) :
    element.floatFree = true ∧ element.tag = .context id ∧ nullableList check element = true ∧
      extractNullableList read (some element) = value := by
  obtain ⟨values, children, rfl, few, traversed, rfl⟩ := arrayUnder_cases converted
  have free : children.all Element.floatFree = values.all fun _ => true := traverse_all
    (fun entry written converts => (each entry written converts).1) traversed
  have taken : children.all check = values.all fun _ => true := traverse_all
    (fun entry written converts => (each entry written converts).2.1) traversed
  have same : children.map read = values.map fun entry => entry := traverse_map
    (fun entry written converts => (each entry written converts).2.2) traversed
  rw [List.map_id'] at same
  rw [List.all_eq_true.mpr fun _ _ => rfl] at free taken
  refine ⟨?_, rfl, ?_, ?_⟩
  · rw [Element.floatFree]
    exact floatFree_of (List.all_eq_true.mp free)
  · rw [nullableList, taken, Bool.and_true]
    exact decide_eq_true ((traverse_length traversed).trans_le few)
  · rw [extractNullableList, same]

theorem round_nullableSubjects {value : SchemaValue} {element : Element F}
    (converted : nullableSubjects value = some element) :
    element.floatFree = true ∧ element.tag = .context 3 ∧ subjects element = true ∧
      extractNullableList valueOf (some element) = value := by
  unfold nullableSubjects at converted
  split at converted
  · obtain rfl := Option.some.inj converted
    exact ⟨rfl, rfl, rfl, rfl⟩
  · refine round_nullableList (fun entry written converts => ?_) converted
    obtain ⟨number, rfl, -, rfl⟩ := taggedScalar_cases converts
    exact ⟨rfl, rfl, rfl⟩

theorem round_nullableTargets {value : SchemaValue} {element : Element F}
    (converted : nullableTargets value = some element) :
    element.floatFree = true ∧ element.tag = .context 4 ∧ targets element = true ∧
      extractNullableList extractAccessTarget (some element) = value := by
  unfold nullableTargets at converted
  split at converted
  · obtain rfl := Option.some.inj converted
    exact ⟨rfl, rfl, rfl, rfl⟩
  · exact round_nullableList (fun _ _ converts => round_accessTarget converts) converted

theorem optionalAccessField_cases {tag low high : Int} {value : Option SchemaValue}
    {written : List (Element F)} (converted : optionalAccessField tag low high value = some written) :
    (value = none ∧ written = []) ∨
      ∃ number, value = some (.integer number) ∧ inRange number low high = true ∧
        written = [.scalar (.context tag) (.unsigned .w8 number)] := by
  cases value with
  | none => exact Or.inl ⟨rfl, (Option.some.inj converted).symm⟩
  | some value =>
      obtain ⟨element, wrote, rfl⟩ := Option.map_eq_some_iff.mp converted
      obtain ⟨number, rfl, inside, rfl⟩ := taggedScalar_cases wrote
      exact Or.inr ⟨number, rfl, inside, rfl⟩

/-- The fields of a written entry, and what they are made of. -/
structure WrittenEntry (fields : FieldName → Option SchemaValue) (privilege authMode : Int)
    (subjects targets : Element F) (auxiliary fabric : List (Element F)) : Prop where
  privileged : fields .privilege = some (.integer privilege) ∧ inRange privilege 1 5 = true
  moded : fields .authMode = some (.integer authMode) ∧ inRange authMode 2 3 = true
  subjects_round : subjects.floatFree = true ∧ subjects.tag = .context 3 ∧
    Descriptor.subjects subjects = true ∧
    extractNullableList valueOf (some subjects) = (fields .subjects).getD .nil
  targets_round : targets.floatFree = true ∧ targets.tag = .context 4 ∧
    Descriptor.targets targets = true ∧
    extractNullableList extractAccessTarget (some targets) = (fields .targets).getD .nil
  auxiliary_round : (fields .auxiliaryType = none ∧ auxiliary = []) ∨
    ∃ number, fields .auxiliaryType = some (.integer number) ∧ inRange number 0 1 = true ∧
      auxiliary = [.scalar (.context 5) (.unsigned .w8 number)]
  fabric_round : (fields .fabricIndex = none ∧ fabric = []) ∨
    ∃ number, fields .fabricIndex = some (.integer number) ∧ inRange number 1 254 = true ∧
      fabric = [.scalar (.context 254) (.unsigned .w8 number)]

/-- What converts to an access-control entry. -/
theorem accessEntry_cases {entry : SchemaValue} {written : Element F}
    (converts : accessEntry entry = some written) :
    ∃ fields privilege authMode subjects targets auxiliary fabric,
      entry = .map fields 0 ∧ (∀ name, name ∉ entryKeys → fields name = none) ∧
      WrittenEntry fields privilege authMode subjects targets auxiliary fabric ∧
      written = .container .anonymous .structure
        ([.scalar (.context 1) (.unsigned .w8 privilege),
          .scalar (.context 2) (.unsigned .w8 authMode), subjects, targets] ++
            (auxiliary ++ fabric)) := by
  unfold accessEntry at converts
  split at converts
  swap
  · cases converts
  rename_i fields others
  split at converts
  swap
  · cases converts
  rename_i privilege authMode privileged moded
  split at converts
  swap
  · cases converts
  rename_i only
  simp only [onlyKeys, Bool.and_eq_true, decide_eq_true_eq] at only
  obtain ⟨inside, rfl⟩ := only
  simp only [Option.bind_eq_bind, Option.bind_eq_some_iff, Option.some.injEq] at converts
  obtain ⟨first, wrotePrivilege, second, wroteMode, subjects, wroteSubjects, targets, wroteTargets,
    auxiliary, wroteAuxiliary, fabric, wroteFabric, rfl⟩ := converts
  obtain ⟨privilege, rfl, privilegeIn, rfl⟩ := taggedScalar_cases wrotePrivilege
  obtain ⟨authMode, rfl, modeIn, rfl⟩ := taggedScalar_cases wroteMode
  refine ⟨fields, privilege, authMode, subjects, targets, auxiliary, fabric, rfl, ?_, ?_, rfl⟩
  · intro name absent
    rw [← Option.not_isSome_iff_eq_none]
    intro held
    have listed := List.all_eq_true.mp inside name
      (List.mem_filter.mpr ⟨FieldName.mem_all name, held⟩)
    exact absent (by simpa using listed)
  · exact
      { privileged := ⟨privileged, privilegeIn⟩
        moded := ⟨moded, modeIn⟩
        subjects_round := round_nullableSubjects wroteSubjects
        targets_round := round_nullableTargets wroteTargets
        auxiliary_round := optionalAccessField_cases wroteAuxiliary
        fabric_round := optionalAccessField_cases wroteFabric }

/-- Of fields with different tags it does not matter which one is found last. -/
theorem byTag_eq_find {fields : List (Element F)} (distinct : (fields.map Element.tag).Nodup)
    (tag : Tag) : byTag fields tag = fields.find? fun field => field.tag = tag := by
  induction fields with
  | nil => rfl
  | cons field rest ih =>
      rw [List.map_cons, List.nodup_cons] at distinct
      have later : byTag (field :: rest) tag =
          (byTag rest tag).or ([field].find? fun field => field.tag = tag) := by
        rw [byTag, List.reverse_cons, List.find?_append]
        rfl
      rw [later, ih distinct.2]
      by_cases here : field.tag = tag
      · have none : (rest.find? fun field => field.tag = tag) = none := by
          refine List.find?_eq_none.mpr fun other listed same => distinct.1 ?_
          rw [here, ← of_decide_eq_true same]
          exact List.mem_map_of_mem listed
        rw [none, List.find?_cons_of_pos (by simpa using here),
          List.find?_cons_of_pos (by simpa using here), Option.none_or]
      · rw [List.find?_cons_of_neg (by simpa using here),
          List.find?_cons_of_neg (by simpa using here), List.find?_nil, Option.or_none]

@[simp] theorem tag_scalar (tag : Tag) (value : Scalar F) : (Element.scalar tag value).tag = tag := rfl

/-- At most one number, under this tag. -/
def Single (id : Int) (fields : List (Element F)) : Prop :=
  fields = [] ∨ ∃ number, fields = [.scalar (.context id) (.unsigned .w8 number)]

theorem Single.find {id : Int} {fields : List (Element F)} (single : Single id fields) (tag : Tag) :
    (fields.find? fun field => field.tag = tag) = if tag = .context id then fields.head? else none := by
  rcases single with rfl | ⟨number, rfl⟩
  · split <;> rfl
  · by_cases here : tag = .context id
    · rw [if_pos here, List.find?_cons_of_pos (by simp [here])]
      rfl
    · rw [if_neg here, List.find?_cons_of_neg (by simp [Ne.symm here]), List.find?_nil]

/-- What is under each tag of a written entry. -/
theorem byTag_entry (first second : Element F) {subjects targets : Element F}
    {auxiliary fabric : List (Element F)}
    (tagFirst : first.tag = .context 1) (tagSecond : second.tag = .context 2)
    (tagSubjects : subjects.tag = .context 3) (tagTargets : targets.tag = .context 4)
    (oneAuxiliary : Single 5 auxiliary) (oneFabric : Single 254 fabric) :
    let fields := [first, second, subjects, targets] ++ (auxiliary ++ fabric)
    (fields.map Element.tag).Nodup ∧
      (byTag fields (.context 1) = some first ∧ byTag fields (.context 2) = some second ∧
        byTag fields (.context 3) = some subjects ∧ byTag fields (.context 4) = some targets ∧
        byTag fields (.context 5) = auxiliary.head? ∧ byTag fields (.context 254) = fabric.head?) := by
  intro fields
  have distinct : (fields.map Element.tag).Nodup := by
    rcases oneAuxiliary with rfl | ⟨_, rfl⟩ <;> rcases oneFabric with rfl | ⟨_, rfl⟩ <;>
      simp [fields, tagFirst, tagSecond, tagSubjects, tagTargets]
  refine ⟨distinct, ?_⟩
  simp only [byTag_eq_find distinct, fields, List.find?_append, oneAuxiliary.find, oneFabric.find]
  simp [tagFirst, tagSecond, tagSubjects, tagTargets]

theorem WrittenEntry.single {fields : FieldName → Option SchemaValue} {privilege authMode : Int}
    {subjects targets : Element F} {auxiliary fabric : List (Element F)}
    (parts : WrittenEntry fields privilege authMode subjects targets auxiliary fabric) :
    Single 5 auxiliary ∧ Single 254 fabric := by
  constructor
  · rcases parts.auxiliary_round with ⟨-, empty⟩ | ⟨number, -, -, one⟩
    · exact Or.inl empty
    · exact Or.inr ⟨number, one⟩
  · rcases parts.fabric_round with ⟨-, empty⟩ | ⟨number, -, -, one⟩
    · exact Or.inl empty
    · exact Or.inr ⟨number, one⟩

/-- An entry with a fabric index is matched in reads only. -/
theorem WrittenEntry.matched {fields : FieldName → Option SchemaValue} {privilege authMode : Int}
    {subjects targets : Element F} {auxiliary fabric : List (Element F)}
    (parts : WrittenEntry fields privilege authMode subjects targets auxiliary fabric)
    (operation : Operation) :
    accessEntryElement operation (.container .anonymous .structure
        ([.scalar (.context 1) (.unsigned .w8 privilege),
          .scalar (.context 2) (.unsigned .w8 authMode), subjects, targets] ++
            (auxiliary ++ fabric))) =
      (decide (operation = .read) || !(fields .fabricIndex).isSome) := by
  obtain ⟨oneAuxiliary, oneFabric⟩ := parts.single
  obtain ⟨-, tagSubjects, takenSubjects, -⟩ := parts.subjects_round
  obtain ⟨-, tagTargets, takenTargets, -⟩ := parts.targets_round
  obtain ⟨distinct, at1, at2, at3, at4, at5, at254⟩ := byTag_entry
    (.scalar (.context 1) (.unsigned .w8 privilege) : Element F)
    (.scalar (.context 2) (.unsigned .w8 authMode)) rfl rfl tagSubjects tagTargets
    oneAuxiliary oneFabric
  have auxiliaryIn : optionalU8 0 1 auxiliary.head? = true := by
    rcases parts.auxiliary_round with ⟨-, rfl⟩ | ⟨number, -, inside, rfl⟩
    · rfl
    · exact inside
  have fabricIn : optionalU8 1 254 fabric.head? = true := by
    rcases parts.fabric_round with ⟨-, rfl⟩ | ⟨number, -, inside, rfl⟩
    · rfl
    · exact inside
  have auxiliaryAllowed : (auxiliary.all fun field => (allowedTags operation).contains field.tag) =
      true := by
    rcases oneAuxiliary with rfl | ⟨number, rfl⟩ <;> simp [allowedTags]
  have fabricAllowed : (fabric.all fun field => (allowedTags operation).contains field.tag) =
      (decide (operation = .read) || !(fields .fabricIndex).isSome) := by
    rcases parts.fabric_round with ⟨plain, rfl⟩ | ⟨number, plain, -, rfl⟩
    · simp [plain]
    · by_cases reading : operation = .read <;> simp [plain, allowedTags, requiredTags, reading]
  have required : (requiredTags.all fun tag => (byTag
      ([.scalar (.context 1) (.unsigned .w8 privilege),
        .scalar (.context 2) (.unsigned .w8 authMode), subjects, targets] ++
          (auxiliary ++ fabric)) tag).isSome) = true := by
    simp only [requiredTags, List.all_cons, List.all_nil, at1, at2, at3, at4, Option.isSome_some,
      Bool.and_self]
  have front : (([.scalar (.context 1) (.unsigned .w8 privilege),
      .scalar (.context 2) (.unsigned .w8 authMode), subjects, targets] : List (Element F)).all
        fun field => (allowedTags operation).contains field.tag) = true := by
    simp [allowedTags, requiredTags, tagSubjects, tagTargets]
  rw [accessEntryElement, decide_eq_true distinct, required, List.all_append, List.all_append, front,
    auxiliaryAllowed, fabricAllowed, at1, at2, at3, at4, at5, at254, auxiliaryIn, fabricIn]
  simp [Option.any_some, Descriptor.privilege, Descriptor.authMode, parts.privileged.2, parts.moded.2,
    takenSubjects, takenTargets]

/-- An entry comes back filled. -/
theorem WrittenEntry.extracted {fields : FieldName → Option SchemaValue} {privilege authMode : Int}
    {subjects targets : Element F} {auxiliary fabric : List (Element F)}
    (parts : WrittenEntry fields privilege authMode subjects targets auxiliary fabric)
    (absent : ∀ name, name ∉ entryKeys → fields name = none) :
    extractAccessEntry (.container .anonymous .structure
        ([.scalar (.context 1) (.unsigned .w8 privilege),
          .scalar (.context 2) (.unsigned .w8 authMode), subjects, targets] ++
            (auxiliary ++ fabric))) = filledEntry (.map fields 0) := by
  obtain ⟨oneAuxiliary, oneFabric⟩ := parts.single
  obtain ⟨-, tagSubjects, -, readSubjects⟩ := parts.subjects_round
  obtain ⟨-, tagTargets, -, readTargets⟩ := parts.targets_round
  obtain ⟨-, at1, at2, at3, at4, at5, at254⟩ := byTag_entry
    (.scalar (.context 1) (.unsigned .w8 privilege) : Element F)
    (.scalar (.context 2) (.unsigned .w8 authMode)) rfl rfl tagSubjects tagTargets
    oneAuxiliary oneFabric
  have auxiliaryRead : maybePut .auxiliaryType auxiliary.head? =
      ((fields .auxiliaryType).map fun value => (FieldName.auxiliaryType, value)).toList := by
    rcases parts.auxiliary_round with ⟨plain, rfl⟩ | ⟨number, plain, -, rfl⟩ <;> rw [plain] <;> rfl
  have fabricRead : maybePut .fabricIndex fabric.head? =
      ((fields .fabricIndex).map fun value => (FieldName.fabricIndex, value)).toList := by
    rcases parts.fabric_round with ⟨plain, rfl⟩ | ⟨number, plain, -, rfl⟩ <;> rw [plain] <;> rfl
  rw [extractAccessEntry, at1, at2, at3, at4, at5, at254, readSubjects, readTargets, auxiliaryRead,
    fabricRead, mapOf, filledEntry]
  congr 1
  funext name
  cases name with
  | privilege => exact parts.privileged.1.symm
  | authMode => exact parts.moded.1.symm
  | subjects => rfl
  | targets => rfl
  | auxiliaryType => cases fields .auxiliaryType <;> cases fields .fabricIndex <;> rfl
  | fabricIndex => cases fields .auxiliaryType <;> cases fields .fabricIndex <;> rfl
  | _ => cases fields .auxiliaryType <;> cases fields .fabricIndex <;> simp [absent, entryKeys]

/-- An access-control entry is written without floats, matched unless it has a fabric index and is
not read, and read back filled. -/
theorem round_accessEntry (operation : Operation) {entry : SchemaValue} {written : Element F}
    (converts : accessEntry entry = some written) : written.floatFree = true ∧
      accessEntryElement operation written = (decide (operation = .read) || !fabricEntry entry) ∧
      extractAccessEntry written = filledEntry entry := by
  obtain ⟨fields, privilege, authMode, subjects, targets, auxiliary, fabric, rfl, absent, parts,
    rfl⟩ := accessEntry_cases converts
  refine ⟨?_, parts.matched operation, parts.extracted absent⟩
  obtain ⟨oneAuxiliary, oneFabric⟩ := parts.single
  rcases oneAuxiliary with rfl | ⟨_, rfl⟩ <;> rcases oneFabric with rfl | ⟨_, rfl⟩ <;>
    simp [Element.floatFree, floatFree, Scalar.floatFree, parts.subjects_round.1,
      parts.targets_round.1]

/-! ## Every schema -/

/-- **What a schema writes** is matched by it, but for a fabric index, and comes back. -/
theorem convert_round {schema : Schema} (operation : Operation) {value : SchemaValue}
    {element : Element F} (converted : convert schema value = some element) :
    Round schema operation value element := by
  cases schema with
  | nullableI16 =>
      refine round_nullable rfl rfl rfl (fun other => ?_) converted
      exact round_i16 (fun element taken => by rw [schemaMatches, taken, Bool.or_true])
        (fun _ => rfl) (fun _ => rfl) other
  | i16 => exact round_i16 (fun _ taken => taken) (fun _ => rfl) (fun _ => rfl) converted
  | u8 => exact round_scalar (fun _ taken => taken) (fun _ => rfl) (fun _ => rfl) converted
  | boolean =>
      cases value <;> cases converted
      exact ⟨rfl, by simp [schemaMatches, hasFabricIndex], rfl, nofun⟩
  | emptyStructure =>
      cases value with
      | map fields others =>
          rw [convert, Option.ite_none_right_eq_some] at converted
          obtain ⟨size, same⟩ := converted
          obtain rfl := Option.some.inj same
          have whole : SchemaValue.map fields others = mapOf [] :=
            map_eq_mapOf List.nodup_nil (by simp) size
          rw [whole]
          exact ⟨rfl, by simp [schemaMatches, hasFabricIndex, mapOf], rfl, nofun⟩
      | _ => cases converted
  | deviceTypeList =>
      exact round_plain (fun _ _ => round_deviceTypeEntry) (fun _ => rfl) (fun _ => rfl)
        (fun _ => rfl) converted
  | clusterList =>
      exact round_plain (fun _ _ => round_clusterEntry) (fun _ => rfl) (fun _ => rfl)
        (fun _ => rfl) converted
  | partsList =>
      exact round_plain (fun _ _ => round_partEntry) (fun _ => rfl) (fun _ => rfl)
        (fun _ => rfl) converted
  | reachableEvent =>
      cases value with
      | map fields others =>
          rw [convert] at converted
          split at converted
          · rename_i reachable held
            rw [Option.ite_none_right_eq_some] at converted
            obtain ⟨size, same⟩ := converted
            obtain rfl := Option.some.inj same
            have whole : SchemaValue.map fields others = mapOf [(.reachable, .boolean reachable)] :=
              map_eq_mapOf (by simp) (by simp [held]) size
            rw [whole]
            exact ⟨rfl, by simp [schemaMatches, hasFabricIndex, mapOf], rfl, nofun⟩
          · cases converted
      | _ => cases converted
  | accessControlList =>
      refine round_array _ (fun _ _ => round_accessEntry operation) (fun children few => ?_)
        (fun _ => rfl) (fun _ => rfl) (fun _ _ _ _ => rfl) converted
      rw [schemaMatches, decide_eq_true few, Bool.true_and]
  | windowStatus => exact round_scalar (fun _ taken => taken) (fun _ => rfl) (fun _ => rfl) converted
  | nullableFabricIndex =>
      refine round_nullable rfl rfl rfl (fun other => ?_) converted
      exact round_scalar (fun element taken => by rw [schemaMatches, taken, Bool.or_true])
        (fun _ => rfl) (fun _ => rfl) other
  | nullableVendorId =>
      refine round_nullable rfl rfl rfl (fun other => ?_) converted
      exact round_scalar (fun element taken => by rw [schemaMatches, taken, Bool.or_true])
        (fun _ => rfl) (fun _ => rfl) other

theorem lookup_entry {kind : MemberKind} {path : Option Address} {operation : Operation}
    {descriptor : Descriptor} (found : lookup kind path operation = some descriptor) :
    operation ∈ descriptor.operations ∧ descriptor ∈ entries := by
  simp only [lookup, Option.bind_eq_bind, Option.bind_eq_some_iff, Option.ite_none_right_eq_some,
    Option.some.injEq] at found
  obtain ⟨address, -, entry, listed, admitted, rfl⟩ := found
  exact ⟨admitted, List.mem_of_find?_eq_some listed⟩

/-- What is matched in reads only is refused in writes: an access-control list has no other
operation. -/
theorem Round.admitted_iff {kind : MemberKind} {path : Option Address} {operation : Operation}
    {descriptor : Descriptor} {value : SchemaValue} {element : Element F}
    (round : Round descriptor.schema operation value element)
    (found : lookup kind path operation = some descriptor) :
    schemaMatches operation descriptor.schema element = true ↔
      ¬(operation = .write ∧ hasFabricIndex value = true) := by
  rw [round.admitted, Bool.or_eq_true, decide_eq_true_eq, Bool.not_eq_true']
  cases indexed : hasFabricIndex value with
  | false => simp
  | true =>
      have members : ∀ entry ∈ entries, entry.schema = .accessControlList →
          entry.operations = [.read, .write] := by decide
      obtain ⟨admitted, listed⟩ := lookup_entry found
      rw [members descriptor listed (round.indexed indexed)] at admitted
      cases operation <;> simp_all

/-- **Conversion and its inverse.**  An element that `to_element` returns passes `validate_element` and
comes back from `from_element`, access-control entries filled, exactly if it is not written with a
fabric index. -/
theorem toElement_round (floats : Floats F) {kind : MemberKind} {path : Option Address}
    {operation : Operation} {nativeValue : SchemaValue} {element : Element F}
    (converted : toElement floats kind path operation nativeValue = some element) :
    (validateElement floats kind path operation (some element) = some element ∧
        ∃ descriptor, lookup kind path operation = some descriptor ∧
          fromElement floats kind path operation (some element) =
            some (filled descriptor.schema nativeValue)) ↔
      ¬(operation = .write ∧ hasFabricIndex nativeValue = true) := by
  simp only [toElement, Option.bind_eq_bind, Option.bind_eq_some_iff] at converted
  obtain ⟨descriptor, found, written, converts, normalized⟩ := converted
  have round := convert_round operation converts
  obtain rfl := validateElement_same round.free normalized
  have validated : validateElement floats kind path operation (some element) =
      if schemaMatches operation descriptor.schema element then some element else none := by
    simp [validateElement, found, normalized]
  have extracted : fromElement floats kind path operation (some element) =
      if schemaMatches operation descriptor.schema element then
        some (filled descriptor.schema nativeValue)
      else none := by
    rw [fromElement, found, validated]
    by_cases taken : schemaMatches operation descriptor.schema element = true
    · simp [taken, round.back]
    · simp [taken]
  rw [validated, ← round.admitted_iff found]
  constructor
  · rintro ⟨valid, -⟩
    by_contra refused
    rw [if_neg refused] at valid
    cases valid
  · intro taken
    rw [if_pos taken]
    exact ⟨rfl, descriptor, found, by rw [extracted, if_pos taken]⟩

/-- The access-control list of a node. -/
def accessControlPath : Address where
  fabricId := 1
  nodeId := 2
  endpoint := 0
  cluster := 0x001F
  member := 0

/-- An entry as a read returns it. -/
def readEntry (fabric : List (FieldName × SchemaValue)) : SchemaValue :=
  mapOf ([(.privilege, .integer 5), (.authMode, .integer 2)] ++ fabric)

/-- Written back, an entry that was read converts to an element that is refused. -/
theorem toElement_unwritable :
    ∃ element, toElement noFloats .attribute (some accessControlPath) .write
        (.list [readEntry [(.fabricIndex, .integer 1)]] true) = some element ∧
      validateElement noFloats .attribute (some accessControlPath) .write (some element) = none := by
  have written : (toElement noFloats .attribute (some accessControlPath) .write
      (.list [readEntry [(.fabricIndex, .integer 1)]] true)).isSome = true := by decide +kernel
  have refused : ((toElement noFloats .attribute (some accessControlPath) .write
      (.list [readEntry [(.fabricIndex, .integer 1)]] true)).bind fun element =>
        validateElement noFloats .attribute (some accessControlPath) .write (some element)).isNone =
          true := by decide +kernel
  obtain ⟨element, same⟩ := Option.isSome_iff_exists.mp written
  rw [same] at refused
  exact ⟨element, same, Option.isNone_iff_eq_none.mp refused⟩

/-- Without it, the entry comes back with its subjects and targets. -/
theorem toElement_round_entry :
    ∃ element, toElement noFloats .attribute (some accessControlPath) .write
        (.list [readEntry []] true) = some element ∧
      fromElement noFloats .attribute (some accessControlPath) .write (some element) =
        some (.list [filledEntry (readEntry [])] true) := by
  have written : (toElement noFloats .attribute (some accessControlPath) .write
      (.list [readEntry []] true)).isSome = true := by decide +kernel
  obtain ⟨element, same⟩ := Option.isSome_iff_exists.mp written
  obtain ⟨-, descriptor, found, back⟩ := (toElement_round noFloats same).mpr (by decide)
  have listed : lookup .attribute (some accessControlPath) .write =
      some ⟨.attribute, 0x001F, 0, .accessControlList, [.read, .write]⟩ := by decide
  obtain rfl := Option.some.inj (listed.symm.trans found)
  exact ⟨element, same, back⟩

end Descriptor

end WotexMatter.Value
