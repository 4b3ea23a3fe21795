/-
# WotexMatter.Wire.ElementCodec -- elements on the wire of the host

`TagValue`, `ElementValue` and `ElementJson` (`protocol.cpp`).  The reader counts nodes over the
whole element; the nesting it still allows is `levels`, nine at the top.

`is_number_integer` is true of both kinds of whole numbers, and `get<std::int64_t>` of an unsigned
one wraps.  An `i16` whose body is a number near 2^64 is therefore read as a negative value, and
these documents are the only ones that are not the image of the element they are read as
(`elementCodec_exact`).
-/
import WotexMatter.Native.AccessControl
import WotexMatter.Wire.JsonValue

set_option autoImplicit false

namespace WotexMatter.Wire

open WotexMatter.Native.Elements WotexMatter.Storage
open WotexMatter.Tlv (Width)

/-! ## Reading -/

/-- `TagValue`. -/
def tagValue : Json → Option Tag
  | .string text => if text = ascii "anonymous" then some .anonymous else none
  | .array [.string text, .unsigned id] =>
      if text = ascii "context" ∧ id ≤ 255 then some (.context id.toUInt8) else none
  | _ => none

/-- `get<std::int64_t>` of an unsigned number. -/
def wrapped (value : UInt64) : Int :=
  if value.toNat < 0x8000000000000000 then value.toNat else value.toNat - 0x10000000000000000

/-- `get<std::int64_t>` where `is_number_integer`. -/
def numberInteger : Json → Option Int
  | .unsigned value => some (wrapped value)
  | .integer value => some value
  | _ => none

/-- The widths of unsigned numbers, and their maxima. -/
def unsignedType (type : Bytes) : Option (Width × UInt64) :=
  if type = ascii "u8" then some (.w8, 0xFF)
  else if type = ascii "u16" then some (.w16, 0xFFFF)
  else if type = ascii "u32" then some (.w32, 0xFFFFFFFF)
  else if type = ascii "u64" then some (.w64, 0xFFFFFFFFFFFFFFFF)
  else none

/-- The types of containers. -/
def containerType (type : Bytes) : Option Kind :=
  if type = ascii "structure" then some .structure
  else if type = ascii "array" then some .array
  else none

/-- `ElementValue` of a type without children. -/
def scalarElement (tag : Tag) (type : Bytes) (body : Json) : Option Element :=
  if type = ascii "null" then
    match body with
    | .null => some (.null tag)
    | _ => none
  else if type = ascii "i16" then
    match numberInteger body with
    | some integer => if -32768 ≤ integer ∧ integer ≤ 32767 then some (.i16 tag integer) else none
    | none => none
  else if type = ascii "boolean" then
    match body with
    | .boolean value => some (.boolean tag value)
    | _ => none
  else
    match unsignedType type, body with
    | some (width, maximum), .unsigned value =>
        if value ≤ maximum then some (.unsigned tag width value) else none
    | _, _ => none

/-- The loop over the children. -/
def elementItems (child : Json → Nat → Option (Element × Nat)) :
    List Json → Nat → Option (List Element × Nat)
  | [], nodes => some ([], nodes)
  | item :: rest, nodes => do
      let (parsed, nodes) ← child item nodes
      let (others, nodes) ← elementItems child rest nodes
      some (parsed :: others, nodes)

/-- `ElementValue`, with the nodes counted so far. -/
def elementValue : Nat → Json → Nat → Option (Element × Nat)
  | 0, _, _ => none
  | levels + 1, .object members, nodes =>
      if nodes + 1 ≤ 1024 ∧ exactKeys members [ascii "tag", ascii "type", ascii "value"] then
        match members.lookup (ascii "tag"), members.lookup (ascii "type"),
          members.lookup (ascii "value") with
        | some tag, some (.string type), some body =>
            match tagValue tag, containerType type with
            | none, _ => none
            | some tag, none => (scalarElement tag type body).map fun read => (read, nodes + 1)
            | some tag, some kind =>
                match body with
                | .array items =>
                    if items.length ≤ 1023 then
                      (elementItems (elementValue levels) items (nodes + 1)).map
                        fun (children, nodes) => (.container tag kind children, nodes)
                    else none
                | _ => none
        | _, _, _ => none
      else none
  | _ + 1, _, _ => none

/-- `ElementValue` at the top of a value. -/
def elementDocument (document : Json) : Option Element :=
  (elementValue 9 document 0).map Prod.fst

/-! ## Writing -/

def tagJson : Tag → Json
  | .anonymous => .string (ascii "anonymous")
  | .context id => .array [.string (ascii "context"), .unsigned id.toUInt64]

def widthName : Width → Bytes
  | .w8 => ascii "u8"
  | .w16 => ascii "u16"
  | .w32 => ascii "u32"
  | .w64 => ascii "u64"

def kindName : Kind → Bytes
  | .structure => ascii "structure"
  | .array => ascii "array"

/-- The object `ElementJson` returns. -/
def elementObject (tag : Tag) (type : Bytes) (value : Json) : Json :=
  .object [(ascii "tag", tagJson tag), (ascii "type", .string type), (ascii "value", value)]

mutual

/-- `ElementJson`. -/
def elementJson : Element → Json
  | .null tag => elementObject tag (ascii "null") .null
  | .i16 tag value => elementObject tag (ascii "i16") (.integer value)
  | .unsigned tag width value => elementObject tag (widthName width) (.unsigned value)
  | .boolean tag value => elementObject tag (ascii "boolean") (.boolean value)
  | .container tag kind children =>
      elementObject tag (kindName kind) (.array (elementJsons children))

def elementJsons : List Element → List Json
  | [] => []
  | child :: rest => elementJson child :: elementJsons rest

end

/-! ## Elements within the bounds of the wire -/

mutual

def elementCount : Element → Nat
  | .container _ _ children => 1 + elementCounts children
  | _ => 1

def elementCounts : List Element → Nat
  | [] => 0
  | child :: rest => elementCount child + elementCounts rest

end

mutual

/-- The levels of an element; a scalar has one. -/
def height : Element → Nat
  | .container _ _ children => 1 + heights children
  | _ => 1

def heights : List Element → Nat
  | [] => 0
  | child :: rest => max (height child) (heights rest)

end

def maximum : Width → UInt64
  | .w8 => 0xFF
  | .w16 => 0xFFFF
  | .w32 => 0xFFFFFFFF
  | .w64 => 0xFFFFFFFFFFFFFFFF

mutual

/-- Numbers are in the range of their type, and no container has more than 1023 children. -/
def inBounds : Element → Bool
  | .i16 _ value => -32768 ≤ value && value ≤ 32767
  | .unsigned _ width value => value ≤ maximum width
  | .container _ _ children => children.length ≤ 1023 && allInBounds children
  | _ => true

def allInBounds : List Element → Bool
  | [] => true
  | child :: rest => inBounds child && allInBounds rest

end

/-- An element within the bounds of the wire: at most 1024 nodes, at depth 8 at most. -/
structure WireElement (element : Element) : Prop where
  nodes : elementCount element ≤ 1024
  depth : height element ≤ 9
  bounds : inBounds element = true

/-! ## What is written is read back -/

theorem tagValue_tagJson (tag : Tag) : tagValue (tagJson tag) = some tag := by
  cases tag with
  | anonymous => rfl
  | context id =>
      have small : id.toUInt64 ≤ 255 := by
        rw [UInt64.le_iff_toNat_le, UInt8.toNat_toUInt64]
        exact Nat.le_of_lt_succ id.toNat_lt
      simp [tagJson, tagValue, small]

theorem elementValue_object {tag : Tag} {type : Bytes} {value : Json} {levels nodes : Nat}
    (room : nodes + 1 ≤ 1024) :
    elementValue (levels + 1) (elementObject tag type value) nodes =
      match containerType type with
      | none => (scalarElement tag type value).map fun read => (read, nodes + 1)
      | some kind =>
          match value with
          | .array items =>
              if items.length ≤ 1023 then
                (elementItems (elementValue levels) items (nodes + 1)).map
                  fun (children, nodes) => (.container tag kind children, nodes)
              else none
          | _ => none := by
  have keys : ∀ first second third : Json,
      exactKeys [(ascii "tag", first), (ascii "type", second), (ascii "value", third)]
        [ascii "tag", ascii "type", ascii "value"] = true := fun _ _ _ => rfl
  rw [elementObject, elementValue, if_pos ⟨room, keys _ _ _⟩]
  show (match tagValue (tagJson tag), containerType type with
    | none, _ => none
    | some tag, none => (scalarElement tag type value).map fun read => (read, nodes + 1)
    | some tag, some kind =>
        match value with
        | .array items =>
            if items.length ≤ 1023 then
              (elementItems (elementValue levels) items (nodes + 1)).map
                fun (children, nodes) => (.container tag kind children, nodes)
            else none
        | _ => none) = _
  rw [tagValue_tagJson]
  cases containerType type <;> rfl

theorem containerType_kindName (kind : Kind) : containerType (kindName kind) = some kind := by
  cases kind <;> decide

theorem containerType_widthName (width : Width) : containerType (widthName width) = none := by
  cases width <;> decide

theorem scalarElement_i16 {tag : Tag} {value : Int} (low : -32768 ≤ value) (high : value ≤ 32767) :
    scalarElement tag (ascii "i16") (.integer value) = some (.i16 tag value) := by
  show (if -32768 ≤ value ∧ value ≤ 32767 then some (Element.i16 tag value) else none) = _
  exact if_pos ⟨low, high⟩

theorem scalarElement_unsigned {tag : Tag} {width : Width} {value : UInt64}
    (small : value ≤ maximum width) :
    scalarElement tag (widthName width) (.unsigned value) = some (.unsigned tag width value) := by
  cases width <;> exact if_pos small

/-- A scalar takes one node and is read back. -/
theorem elementValue_scalar {tag : Tag} {type : Bytes} {value : Json} {element : Element}
    {levels nodes : Nat} (room : nodes + 1 ≤ 1024) (scalar : containerType type = none)
    (read : scalarElement tag type value = some element) :
    elementValue (levels + 1) (elementObject tag type value) nodes = some (element, nodes + 1) := by
  rw [elementValue_object room, scalar]
  show (scalarElement tag type value).map _ = _
  rw [read, Option.map_some]

theorem length_elementJsons (children : List Element) :
    (elementJsons children).length = children.length := by
  induction children with
  | nil => rfl
  | cons child rest ih => rw [elementJsons, List.length_cons, ih, List.length_cons]

theorem height_pos (element : Element) : 0 < height element := by
  cases element <;> simp only [height] <;> omega

mutual

/-- **What is written of an element within the bounds is read as that element**, and every node is
counted once. -/
theorem elementValue_elementJson (element : Element) (levels nodes : Nat)
    (room : nodes + elementCount element ≤ 1024) (deep : height element ≤ levels)
    (fits : inBounds element = true) :
    elementValue levels (elementJson element) nodes = some (element, nodes + elementCount element) := by
  have one := height_pos element
  obtain ⟨levels, rfl⟩ : ∃ inner, levels = inner + 1 := ⟨levels - 1, by omega⟩
  cases element with
  | null tag => exact elementValue_scalar room (by decide) rfl
  | i16 tag value =>
      simp only [inBounds, Bool.and_eq_true, decide_eq_true_eq] at fits
      exact elementValue_scalar room (by decide) (scalarElement_i16 fits.1 fits.2)
  | unsigned tag width value =>
      simp only [inBounds, decide_eq_true_eq] at fits
      exact elementValue_scalar room (containerType_widthName width) (scalarElement_unsigned fits)
  | boolean tag value => exact elementValue_scalar room (by decide) rfl
  | container tag kind children =>
      simp only [inBounds, Bool.and_eq_true, decide_eq_true_eq] at fits
      simp only [elementCount] at room ⊢
      simp only [height] at deep
      have inside := elementItems_elementJsons children levels (nodes + 1) (by omega) (by omega)
        fits.2
      rw [elementJson, elementValue_object (by omega), containerType_kindName]
      show (if (elementJsons children).length ≤ 1023 then _ else none) = _
      rw [length_elementJsons, if_pos fits.1, inside, Option.map_some]
      simp only [Nat.add_assoc]

theorem elementItems_elementJsons (children : List Element) (levels nodes : Nat)
    (room : nodes + elementCounts children ≤ 1024) (deep : heights children ≤ levels)
    (fits : allInBounds children = true) :
    elementItems (elementValue levels) (elementJsons children) nodes =
      some (children, nodes + elementCounts children) := by
  cases children with
  | nil => rfl
  | cons child rest =>
      simp only [elementCounts] at room ⊢
      simp only [heights, max_le_iff] at deep
      simp only [allInBounds, Bool.and_eq_true] at fits
      have first := elementValue_elementJson child levels nodes (by omega) deep.1 fits.1
      have others := elementItems_elementJsons rest levels (nodes + elementCount child) (by omega)
        deep.2 fits.2
      simp only [elementJsons, elementItems, first, others, Option.bind_eq_bind, Option.bind_some,
        Nat.add_assoc]

end

theorem elementDocument_elementJson {element : Element} (fits : WireElement element) :
    elementDocument (elementJson element) = some element := by
  have counted := fits.nodes
  rw [elementDocument, elementValue_elementJson element 9 0 (by omega) fits.depth fits.bounds]
  rfl

/-! ## What is read -/

/-- The members of an object that is read as an element. -/
structure Fields (members : List (Bytes × Json)) (tag : Tag) (type : Bytes) (body : Json) :
    Prop where
  keys : exactKeys members [ascii "tag", ascii "type", ascii "value"] = true
  tag : ∃ written, members.lookup (ascii "tag") = some written ∧ tagValue written = some tag
  type : members.lookup (ascii "type") = some (.string type)
  value : members.lookup (ascii "value") = some body

theorem elementValue_cases {levels nodes after : Nat} {document : Json} {element : Element}
    (read : elementValue (levels + 1) document nodes = some (element, after)) :
    nodes + 1 ≤ 1024 ∧ ∃ members tag type body, document = .object members ∧
      Fields members tag type body ∧
      ((containerType type = none ∧ scalarElement tag type body = some element ∧
          after = nodes + 1) ∨
        ∃ kind items children, containerType type = some kind ∧ body = .array items ∧
          items.length ≤ 1023 ∧
          elementItems (elementValue levels) items (nodes + 1) = some (children, after) ∧
          element = .container tag kind children) := by
  cases document with
  | object members =>
      rw [elementValue, Option.ite_none_right_eq_some] at read
      obtain ⟨⟨room, keys⟩, read⟩ := read
      split at read
      · rename_i written type body tagged typed valued
        split at read
        · cases read
        · rename_i tag parsed scalar
          simp only [Option.map_eq_some_iff, Prod.mk.injEq] at read
          obtain ⟨_, accepted, rfl, rfl⟩ := read
          exact ⟨room, members, tag, type, body, rfl, ⟨keys, ⟨written, tagged, parsed⟩, typed,
            valued⟩, .inl ⟨scalar, accepted, rfl⟩⟩
        · rename_i tag kind parsed nested
          split at read
          · rename_i items
            rw [Option.ite_none_right_eq_some] at read
            obtain ⟨few, read⟩ := read
            simp only [Option.map_eq_some_iff, Prod.exists, Prod.mk.injEq] at read
            obtain ⟨children, _, inside, rfl, rfl⟩ := read
            exact ⟨room, members, tag, type, _, rfl, ⟨keys, ⟨written, tagged, parsed⟩, typed,
              valued⟩, .inr ⟨kind, items, children, nested, rfl, few, inside, rfl⟩⟩
          · cases read
      · cases read
  | _ => cases read

theorem tagValue_canonical {written : Json} {tag : Tag} (read : tagValue written = some tag) :
    canonical written = canonical (tagJson tag) := by
  unfold tagValue at read
  split at read
  · rename_i text
    rw [Option.ite_none_right_eq_some] at read
    obtain ⟨rfl, same⟩ := read
    cases same
    rfl
  · rename_i text id
    rw [Option.ite_none_right_eq_some] at read
    obtain ⟨⟨rfl, small⟩, same⟩ := read
    cases same
    have below : id.toNat ≤ 255 := UInt64.le_iff_toNat_le.mp small
    have kept : id.toUInt8.toUInt64.toNat = id.toNat := by
      rw [UInt8.toNat_toUInt64, UInt64.toNat_toUInt8]
      omega
    simp only [tagJson, canonical, canonicalItems, kept]
  · cases read

/-- The normal form of an object with the keys of an element. -/
theorem canonical_keys {members : List (Bytes × Json)} {first second third : Json}
    (keys : exactKeys members [ascii "tag", ascii "type", ascii "value"] = true)
    (tagged : members.lookup (ascii "tag") = some first)
    (typed : members.lookup (ascii "type") = some second)
    (valued : members.lookup (ascii "value") = some third) :
    canonical (.object members) = .object [(ascii "tag", canonical first),
      (ascii "type", canonical second), (ascii "value", canonical third)] := by
  have sorted : ([ascii "tag", ascii "type", ascii "value"].map (List.map UInt8.toNat)).Pairwise
      (· < ·) := by decide
  refine canonical_exact [(ascii "tag", first), (ascii "type", second), (ascii "value", third)]
    keys sorted ?_
  simp only [List.forall_mem_cons, List.not_mem_nil, false_implies, implies_true, and_true]
  exact ⟨tagged, typed, valued⟩

theorem canonical_elementObject (tag : Tag) (type : Bytes) (value : Json) :
    canonical (elementObject tag type value) = .object [(ascii "tag", canonical (tagJson tag)),
      (ascii "type", canonical (.string type)), (ascii "value", canonical value)] := by
  rw [elementObject]
  exact canonical_keys rfl rfl rfl rfl

/-- An object that is read as an element beside one that is written of it. -/
theorem Fields.canonical_iff {members : List (Bytes × Json)} {tag : Tag} {type : Bytes}
    {body value : Json} (fields : Fields members tag type body) :
    canonical (.object members) = canonical (elementObject tag type value) ↔
      canonical body = canonical value := by
  obtain ⟨written, tagged, parsed⟩ := fields.tag
  rw [canonical_keys fields.keys tagged fields.type fields.value, tagValue_canonical parsed,
    canonical_elementObject]
  simp only [canonical, Json.object.injEq, List.cons.injEq, Prod.mk.injEq, true_and, and_true]

/-! ## The wrapped numbers -/

/-- An `i16` with a number of 2^63 or more, which wraps, somewhere in a document. -/
inductive Wraps : Json → Prop
  | here {members : List (Bytes × Json)} {value : UInt64}
      (typed : members.lookup (ascii "type") = some (.string (ascii "i16")))
      (valued : members.lookup (ascii "value") = some (.unsigned value))
      (large : 0x8000000000000000 ≤ value.toNat) : Wraps (.object members)
  | inside {members : List (Bytes × Json)} {items : List Json} {item : Json}
      (valued : members.lookup (ascii "value") = some (.array items)) (listed : item ∈ items)
      (wraps : Wraps item) : Wraps (.object members)

theorem wraps_scalar {members : List (Bytes × Json)} {tag : Tag} {type : Bytes} {body : Json}
    (fields : Fields members tag type body) (scalar : ∀ items, body ≠ .array items) :
    Wraps (.object members) ↔
      type = ascii "i16" ∧ ∃ value, body = .unsigned value ∧ 0x8000000000000000 ≤ value.toNat := by
  constructor
  · intro wraps
    cases wraps with
    | here typed valued large =>
        rw [fields.type] at typed
        rw [fields.value] at valued
        cases typed
        exact ⟨rfl, _, Option.some.inj valued, large⟩
    | inside valued listed wraps =>
        rw [fields.value] at valued
        exact absurd (Option.some.inj valued) (scalar _)
  · rintro ⟨rfl, value, rfl, large⟩
    exact .here fields.type fields.value large

theorem wraps_container {members : List (Bytes × Json)} {tag : Tag} {type : Bytes}
    {items : List Json} (fields : Fields members tag type (.array items)) :
    Wraps (.object members) ↔ ∃ item ∈ items, Wraps item := by
  constructor
  · intro wraps
    cases wraps with
    | here typed valued large =>
        rw [fields.value] at valued
        cases valued
    | inside valued listed wraps =>
        rw [fields.value] at valued
        cases valued
        exact ⟨_, listed, wraps⟩
  · rintro ⟨item, listed, wraps⟩
    exact .inside fields.value listed wraps

theorem numberInteger_canonical {body : Json} {integer : Int}
    (whole : numberInteger body = some integer) :
    canonical body = canonical (.integer integer) ↔
      ¬∃ value, body = .unsigned value ∧ 0x8000000000000000 ≤ value.toNat := by
  cases body with
  | unsigned value =>
      have read : wrapped value = integer := Option.some.inj whole
      have bounded : value.toNat < 0x10000000000000000 := value.toNat_lt
      simp only [canonical, Json.integer.injEq, ← read, wrapped, Json.unsigned.injEq,
        exists_eq_left', not_le]
      split <;> omega
  | integer value =>
      have read : value = integer := Option.some.inj whole
      simp [read]
  | _ => cases whole

theorem unsignedType_eq {type : Bytes} {width : Width} {maximum : UInt64}
    (read : unsignedType type = some (width, maximum)) : type = widthName width := by
  unfold unsignedType at read
  split at read
  · cases read
    assumption
  split at read
  · cases read
    assumption
  split at read
  · cases read
    assumption
  split at read
  · cases read
    assumption
  · cases read

theorem containerType_eq {type : Bytes} {kind : Kind} (read : containerType type = some kind) :
    type = kindName kind := by
  unfold containerType at read
  split at read
  · cases read
    assumption
  split at read
  · cases read
    assumption
  · cases read

/-- What a type without children writes for the element it reads: the body it has read, unless
the body is a wrapped number. -/
theorem scalarElement_canonical {tag : Tag} {type : Bytes} {body : Json} {element : Element}
    (read : scalarElement tag type body = some element) :
    (∀ items, body ≠ .array items) ∧ ∃ value, elementJson element = elementObject tag type value ∧
      (canonical body = canonical value ↔ ¬(type = ascii "i16" ∧
        ∃ value, body = .unsigned value ∧ 0x8000000000000000 ≤ value.toNat)) := by
  unfold scalarElement at read
  split at read
  · rename_i named
    split at read
    · cases read
      refine ⟨fun _ => Json.noConfusion, .null, by rw [named, elementJson], ?_⟩
      simp
    · cases read
  · split at read
    · rename_i named
      split at read
      · rename_i integer whole
        rw [Option.ite_none_right_eq_some] at read
        obtain ⟨-, same⟩ := read
        cases same
        refine ⟨?_, .integer integer, by rw [named, elementJson], ?_⟩
        · rintro items rfl
          cases whole
        · rw [numberInteger_canonical whole, and_iff_right named]
      · cases read
    · rename_i other
      split at read
      · split at read
        · cases read
          rename_i named _ _
          refine ⟨fun _ => Json.noConfusion, .boolean _, by rw [named, elementJson], ?_⟩
          simp
        · cases read
      · split at read
        · rename_i width maximum value typed
          rw [Option.ite_none_right_eq_some] at read
          obtain ⟨-, same⟩ := read
          cases same
          refine ⟨fun _ => Json.noConfusion, .unsigned value, ?_, ?_⟩
          · rw [elementJson, unsignedType_eq typed]
          · simp [other]
        · cases read

theorem elementItems_forall {child : Json → Nat → Option (Element × Nat)} {items : List Json}
    {children : List Element} {nodes after : Nat}
    (read : elementItems child items nodes = some (children, after)) :
    List.Forall₂ (fun item element => ∃ before after, child item before = some (element, after))
      items children := by
  induction items generalizing nodes children with
  | nil =>
      cases read
      exact .nil
  | cons item rest ih =>
      simp only [elementItems, Option.bind_eq_bind, Option.bind_eq_some_iff, Prod.exists,
        Option.some.injEq, Prod.mk.injEq] at read
      obtain ⟨parsed, counted, first, others, _, remaining, rfl, rfl⟩ := read
      exact .cons ⟨nodes, counted, first⟩ (ih remaining)

/-- Items are written as they are read if each of them is. -/
theorem canonicalItems_iff {items : List Json} {children : List Element}
    (each : List.Forall₂ (fun item element =>
      canonical item = canonical (elementJson element) ↔ ¬Wraps item) items children) :
    canonicalItems items = canonicalItems (elementJsons children) ↔
      ¬∃ item ∈ items, Wraps item := by
  induction each with
  | nil => simp [elementJsons]
  | cons one rest ih =>
      simp only [canonicalItems, elementJsons, List.cons.injEq, one, ih, List.mem_cons,
        exists_eq_or_imp, not_or]

/-- **A document is the image of the element it is read as, unless a number in it wraps.** -/
theorem elementValue_image {levels nodes after : Nat} {document : Json} {element : Element}
    (read : elementValue levels document nodes = some (element, after)) :
    canonical document = canonical (elementJson element) ↔ ¬Wraps document := by
  induction levels generalizing document element nodes after with
  | zero => cases read
  | succ levels ih =>
      obtain ⟨-, members, tag, type, body, rfl, fields, shape⟩ := elementValue_cases read
      rcases shape with ⟨-, accepted, -⟩ | ⟨kind, items, children, nested, rfl, -, inside, rfl⟩
      · obtain ⟨scalar, value, written, same⟩ := scalarElement_canonical accepted
        rw [written, fields.canonical_iff, same, wraps_scalar fields scalar]
      · have each := (elementItems_forall inside).imp fun item element => by
          rintro ⟨before, after, read⟩
          exact ih read
        have typed : type = kindName kind := containerType_eq nested
        rw [elementJson, ← typed, fields.canonical_iff, canonical, canonical, Json.array.injEq,
          canonicalItems_iff each, wraps_container fields]

/-! ## The codec -/

theorem elementDocument_image {document : Json} {element : Element}
    (read : elementDocument document = some element) :
    canonical document = canonical (elementJson element) ↔ ¬Wraps document := by
  simp only [elementDocument, Option.map_eq_some_iff, Prod.exists, exists_and_right,
    exists_eq_right] at read
  obtain ⟨after, read⟩ := read
  exact elementValue_image read

/-- **The element codec is exact up to wrapped numbers.**  Every element within the bounds is read
back from what is written of it.  A document that is read is the image of its element if and only
if no number in it wraps, and beside such a document another one is read as the same element only
if it is the same JSON value or wraps. -/
theorem elementCodec_exact (document : Json) (element : Element) :
    (WireElement element → elementDocument (elementJson element) = some element) ∧
    (elementDocument document = some element →
      (canonical document = canonical (elementJson element) ↔ ¬Wraps document) ∧
      (¬Wraps document → ∀ other, elementDocument other = some element →
        (canonical other = canonical document ↔ ¬Wraps other))) := by
  refine ⟨elementDocument_elementJson, fun read => ⟨elementDocument_image read, ?_⟩⟩
  intro plain other another
  rw [(elementDocument_image read).mpr plain]
  exact elementDocument_image another

theorem fields_elementObject (tag : Tag) (type : Bytes) (value : Json) :
    Fields [(ascii "tag", tagJson tag), (ascii "type", .string type), (ascii "value", value)] tag
      type value :=
  ⟨rfl, ⟨_, rfl, tagValue_tagJson tag⟩, rfl, rfl⟩

/-- A structure with the field 1 of type `i16`. -/
def signedField (value : Json) : Json :=
  elementObject .anonymous (ascii "structure")
    (.array [elementObject (.context 1) (ascii "i16") value])

theorem wraps_signedField (value : Json) (scalar : ∀ items, value ≠ .array items) :
    Wraps (signedField value) ↔
      ∃ number, value = .unsigned number ∧ 0x8000000000000000 ≤ number.toNat := by
  rw [signedField, elementObject, wraps_container (fields_elementObject _ _ _)]
  simp only [List.mem_singleton, exists_eq_left]
  rw [elementObject, wraps_scalar (fields_elementObject _ _ _) scalar, and_iff_right rfl]

/-- The number of the field may be written with a sign or without one. -/
theorem elementCodec_exact_field :
    elementDocument (signedField (.integer 5)) =
        some (.container .anonymous .structure [.i16 (.context 1) 5]) ∧
      canonical (signedField (.integer 5)) =
        canonical (elementJson (.container .anonymous .structure [.i16 (.context 1) 5])) ∧
      elementDocument (signedField (.unsigned 5)) =
        some (.container .anonymous .structure [.i16 (.context 1) 5]) ∧
      canonical (signedField (.unsigned 5)) = canonical (signedField (.integer 5)) := by
  have read : elementDocument (signedField (.integer 5)) =
      some (.container .anonymous .structure [.i16 (.context 1) 5]) :=
    (elementCodec_exact (signedField (.integer 5))
      (.container .anonymous .structure [.i16 (.context 1) 5])).1 ⟨by decide, by decide, by decide⟩
  have plain : ¬Wraps (signedField (.integer 5)) := by
    rw [wraps_signedField _ fun _ => Json.noConfusion]
    rintro ⟨number, same, -⟩
    cases same
  have small : ¬Wraps (signedField (.unsigned 5)) := by
    rw [wraps_signedField _ fun _ => Json.noConfusion]
    rintro ⟨number, same, large⟩
    cases same
    exact absurd large (by decide)
  have other : elementDocument (signedField (.unsigned 5)) =
      some (.container .anonymous .structure [.i16 (.context 1) 5]) := rfl
  obtain ⟨image, alone⟩ := (elementCodec_exact _ _).2 read
  exact ⟨read, image.mpr plain, other, (alone plain _ other).mpr small⟩

/-- 2^64 - 1 is read as -1, which is another JSON value. -/
theorem elementCodec_wraps :
    elementDocument (elementObject .anonymous (ascii "i16") (.unsigned 18446744073709551615)) =
        some (.i16 .anonymous (-1)) ∧
      elementDocument (elementJson (.i16 .anonymous (-1))) = some (.i16 .anonymous (-1)) ∧
      canonical (elementObject .anonymous (ascii "i16") (.unsigned 18446744073709551615)) ≠
        canonical (elementJson (.i16 .anonymous (-1))) := by
  refine ⟨?_, elementDocument_elementJson ⟨by decide, by decide, by decide⟩, ?_⟩
  · have scalar : scalarElement .anonymous (ascii "i16") (.unsigned 18446744073709551615) =
        some (.i16 .anonymous (-1)) := by
      have negative : wrapped 18446744073709551615 = -1 := by decide
      show (if -32768 ≤ wrapped 18446744073709551615 ∧ wrapped 18446744073709551615 ≤ 32767 then
        some (Element.i16 .anonymous (wrapped 18446744073709551615)) else none) = _
      rw [negative]
      rfl
    rw [elementDocument, elementValue_scalar (by decide) (by decide) scalar]
    rfl
  · rw [elementJson, canonical_elementObject, canonical_elementObject]
    simp [canonical]

end WotexMatter.Wire
