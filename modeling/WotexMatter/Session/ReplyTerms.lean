/-
# WotexMatter.Session.ReplyTerms -- the documents of the host as terms of the BEAM

What `native/wire.ex` reads of the paths, elements, errors and reports `protocol.cpp` writes, each
as an equation: what is read is what was written, and it is read if its numbers are in range.
`frameBudget_termOf` is the budget of a frame, and `frame_within` and `frame_beyond` which lines of the
host are read.
-/
import WotexMatter.Beam.Inbound
import WotexMatter.Session.ConversionBounds
import WotexMatter.Wire.InteractionReply

set_option autoImplicit false

namespace WotexMatter.Session

open WotexMatter.Beam WotexMatter.Beam.Inbound
open WotexMatter.Native.Elements (Element Kind)
open WotexMatter.Storage
open WotexMatter.Tlv (Width)
open WotexMatter.Value (Address)
open WotexMatter.Wire (Term Key nodeCount itemNodes memberNodes)

variable {F : Type}

/-! ## Terms of documents -/

theorem membersOf_length (members : List (Bytes × Json)) :
    (membersOf members).length = members.length := by
  induction members with
  | nil => rfl
  | cons member rest ih => exact congrArg Nat.succ ih

/-- A member is found under its key, read on the BEAM as a binary. -/
theorem membersOf_lookup (members : List (Bytes × Json)) (key : Bytes) :
    (membersOf members).lookup (.binary key) = (members.lookup key).map termOf := by
  induction members with
  | nil => rfl
  | cons member rest ih =>
      obtain ⟨name, value⟩ := member
      show List.lookup _ ((Key.binary name, termOf value) :: membersOf rest) = _
      rw [List.lookup_cons, List.lookup_cons, ih]
      by_cases same : key = name
      · subst same
        simp
      · have keys : (Key.binary key == Key.binary name) = false := by simpa using same
        have names : (key == name) = false := by simpa using same
        simp [keys, names]

/-- `Map.get` of a decoded object is the look-up of its member. -/
@[simp] theorem field_object (key : String) (members : List (Bytes × Json)) :
    field key (termOf (.object members)) = (members.lookup (ascii key)).map termOf :=
  membersOf_lookup members (ascii key)

@[simp] theorem mapSize_object (members : List (Bytes × Json)) :
    mapSize (termOf (.object members)) = some members.length :=
  congrArg some (membersOf_length members)

@[simp] theorem boolean_termOf (value : Bool) : boolean (termOf (.boolean value)) = some value := by
  cases value <;> rfl

/-- An unsigned number is taken if it is within the bounds, and stays what it is. -/
@[simp] theorem integerIn_unsigned (low high : Int) (value : UInt64) :
    integerIn low high (termOf (.unsigned value)) =
      if low ≤ value.toNat ∧ (value.toNat : Int) ≤ high then some (value.toNat : Int) else none := rfl

/-! ## The budget -/

mutual

/-- The budget pays for every node, and is -1 where it does not last or a number is too large. -/
theorem frameBudget_termOf (document : Json) (budget : Int) :
    frameBudget (termOf document) budget =
      if worded document = true ∧ (nodeCount document : Int) ≤ budget then
        budget - nodeCount document
      else -1 := by
  match document with
  | .null | .boolean _ | .floating _ | .string _ =>
      simp only [termOf, Term.nil, frameBudget, nodeCount, worded]
      grind
  | .unsigned value =>
      have := value.toNat_lt
      simp only [termOf, frameBudget, nodeCount, worded]
      grind
  | .integer value =>
      simp only [termOf, frameBudget, nodeCount, worded, Bool.and_eq_true, decide_eq_true_eq]
      grind
  | .array items =>
      rw [termOf, frameBudget, nodeCount, worded]
      by_cases spent : budget ≤ 0
      · rw [if_pos spent, if_neg (by push_cast; omega)]
      · rw [if_neg spent, itemBudget_termsOf items (budget - 1) (by omega)]
        grind
  | .object members =>
      rw [termOf, frameBudget, nodeCount, worded]
      by_cases spent : budget ≤ 0
      · rw [if_pos spent, if_neg (by push_cast; omega)]
      · rw [if_neg spent, memberBudget_membersOf members (budget - 1) (by omega)]
        grind

/-- The items of an array are charged one after the other. -/
theorem itemBudget_termsOf (items : List Json) (remaining : Int) (room : 0 ≤ remaining) :
    itemBudget (termsOf items) remaining =
      if wordedItems items = true ∧ (itemNodes items : Int) ≤ remaining then
        remaining - itemNodes items
      else -1 := by
  match items with
  | [] => simp [termsOf, itemBudget, itemNodes, wordedItems, room]
  | item :: rest =>
      have first := frameBudget_termOf item remaining
      rw [termsOf, itemBudget, itemNodes, wordedItems]
      by_cases lasts : worded item = true ∧ (nodeCount item : Int) ≤ remaining
      · rw [if_pos lasts] at first
        rw [first, if_pos (by omega), itemBudget_termsOf rest _ (by omega)]
        grind
      · rw [if_neg lasts] at first
        rw [first, if_neg (by omega)]
        grind

/-- A member is charged for its key and for its value. -/
theorem memberBudget_membersOf (members : List (Bytes × Json)) (remaining : Int)
    (room : 0 ≤ remaining) :
    memberBudget (membersOf members) remaining =
      if wordedMembers members = true ∧ (memberNodes members : Int) ≤ remaining then
        remaining - memberNodes members
      else -1 := by
  match members with
  | [] => simp [membersOf, memberBudget, memberNodes, wordedMembers, room]
  | (key, value) :: rest =>
      have first := frameBudget_termOf value (remaining - 1)
      rw [membersOf, memberBudget, memberNodes, wordedMembers]
      by_cases lasts : worded value = true ∧ (nodeCount value : Int) ≤ remaining - 1
      · rw [if_pos lasts] at first
        rw [first, if_pos (by omega), memberBudget_membersOf rest _ (by omega)]
        grind
      · rw [if_neg lasts] at first
        rw [first, if_neg (by omega)]
        grind

end

/-! ## Lines -/

section Lines

variable {json : Bytes → Option Term} {document : Json}

/-- The line of a document within the limits is read as the document. -/
theorem frame_within (decodes : Decodes json document) (within : WithinLimits document) :
    frame json document.dumpText = some (termOf document) := by
  obtain ⟨term, decoded⟩ := Option.isSome_iff_exists.mp (decodes.within within)
  have budget := frameBudget_termOf document kFrameNodes
  have nodes := within.nodes
  rw [if_pos ⟨within.numbers, nodes⟩] at budget
  rw [frame, decoded, decodes.same term decoded, Option.filter_some, budget,
    if_pos (decide_eq_true (by omega))]

/-- The line of any other document is not read. -/
theorem frame_beyond (decodes : Decodes json document) (beyond : ¬ WithinLimits document) :
    frame json document.dumpText = none := by
  cases decoded : json document.dumpText with
  | none => rw [frame, decoded, Option.filter_none]
  | some term =>
      obtain ⟨bytes, collections⟩ := decodes.beyond (by rw [decoded]; rfl)
      have budget := frameBudget_termOf document kFrameNodes
      rw [if_neg fun lasts => beyond ⟨bytes, collections, lasts.2, lasts.1⟩] at budget
      rw [frame, decoded, decodes.same term decoded, Option.filter_some, budget]
      rfl

end Lines

/-! ## Paths -/

/-- The address of a path of the host. -/
def addressOfPath (path : Wire.ConcretePath) : Address where
  fabricId := path.fabricId.toNat
  nodeId := path.nodeId.toNat
  endpoint := path.endpoint.toNat
  cluster := path.cluster.toNat
  member := path.member.toNat

/-- The BEAM admits the path. -/
def pathFits (path : Wire.ConcretePath) : Bool := (addressOfPath path).valid

/-- An address is read component by component. -/
theorem addressOf_pathJson (path : Wire.ConcretePath) :
    addressOf (termOf (Wire.pathJson path)) = some (addressOfPath path) := by
  simp only [addressOf, Wire.pathJson, field_object]
  show some (Address.mk _ _ _ _ _) = _
  simp [addressOfPath]

/-- It is taken if it is valid for the BEAM. -/
theorem path_pathJson (path : Wire.ConcretePath) :
    Inbound.path (termOf (Wire.pathJson path)) =
      if pathFits path then some (addressOfPath path) else none := by
  have read := addressOf_pathJson path
  have keys : ∀ a b c d e : Json, ((membersOf
      [(ascii "cluster", a), (ascii "endpoint", b), (ascii "fabric_id", c), (ascii "member", d),
        (ascii "node_id", e)]).map Prod.fst).isPerm (pathKeys.map Key.binary) = true := by
    intro a b c d e
    rfl
  rw [Wire.pathJson, termOf] at read ⊢
  rw [Inbound.path, if_pos ⟨rfl, keys _ _ _ _ _⟩, read]
  rfl

/-! ## Elements -/

mutual

/-- Every number is in the range of its type. -/
def numbersFit : Element → Bool
  | .i16 _ value => -32768 ≤ value && value ≤ 32767
  | .unsigned _ width value => value ≤ Wire.maximum width
  | .container _ _ children => allNumbersFit children
  | _ => true

def allNumbersFit : List Element → Bool
  | [] => true
  | child :: rest => numbersFit child && allNumbersFit rest

end

/-- Both kinds of tag are read as they were written. -/
theorem tag_tagJson (tag : Native.Elements.Tag) :
    Inbound.tag (termOf (Wire.tagJson tag)) = some (tlvTag tag) := by
  cases tag with
  | anonymous => rfl
  | context id =>
      have small : (id.toUInt64.toNat : Int) ≤ 255 := by
        have := id.toNat_lt
        rw [UInt8.toNat_toUInt64]
        omega
      rw [Wire.tagJson, termOf, termsOf, termsOf, termsOf, termOf, termOf, Inbound.tag,
        if_pos ⟨rfl, Int.natCast_nonneg _, small⟩, UInt8.toNat_toUInt64]
      rfl

/-- The fields of an element as the host writes it. -/
theorem elementAt_object (levels : Nat) (tag : Native.Elements.Tag) (name : Bytes) (value : Json)
    (type : ElementType) (named : Inbound.type (.binary name) = some type) :
    elementAt (F := F) (levels + 1) (termOf (Wire.elementObject tag name value)) =
      elementValue (elementAt levels) (tlvTag tag) type (termOf value) := by
  have tags := tag_tagJson tag
  rw [elementAt, Wire.elementObject, mapSize_object, field_object, field_object, field_object]
  show ((Inbound.tag (termOf (Wire.tagJson tag))).bind fun tag =>
    (Inbound.type (.binary name)).bind fun type =>
      elementValue (elementAt levels) tag type (termOf value)) = _
  rw [tags, named]
  rfl

theorem highest_maximum (width : Width) : highest width = (Wire.maximum width).toNat := by
  cases width <;> rfl

mutual

/-- An element is read as it was written, if its numbers are in range. -/
theorem elementAt_elementJson (element : Element) (levels : Nat)
    (enough : Wire.height element ≤ levels) :
    elementAt (F := F) levels (termOf (Wire.elementJson element)) =
      if numbersFit element then some (tlvElement element) else none := by
  obtain _ | levels := levels
  · have := Wire.height_pos element
    omega
  match element with
  | .null tag =>
      rw [Wire.elementJson, elementAt_object levels tag _ _ .null rfl]
      rfl
  | .i16 tag value =>
      rw [Wire.elementJson, elementAt_object levels tag _ _ .i16 rfl]
      simp only [elementValue, termOf, integerIn, numbersFit, Bool.and_eq_true, decide_eq_true_eq]
      split <;> rfl
  | .unsigned tag width value =>
      have type : Inbound.type (.binary (Wire.widthName width)) = some (.unsigned width) := by
        cases width <;> rfl
      rw [Wire.elementJson, elementAt_object levels tag _ _ _ type, elementValue, integerIn_unsigned,
        numbersFit, highest_maximum]
      have same : (0 ≤ (value.toNat : Int) ∧ (value.toNat : Int) ≤ (Wire.maximum width).toNat) ↔
          value ≤ Wire.maximum width := by
        rw [UInt64.le_iff_toNat_le]
        omega
      simp only [same, decide_eq_true_eq]
      split <;> rfl
  | .boolean tag value =>
      rw [Wire.elementJson, elementAt_object levels tag _ _ .boolean rfl, elementValue,
        boolean_termOf]
      rfl
  | .container tag kind children =>
      have inside : traverse (elementAt (F := F) levels)
          (termOf (.array (Wire.elementJsons children))) =
            if allNumbersFit children then some (tlvElements children) else none := by
        rw [Wire.height] at enough
        exact elements_elementJsons children levels (by omega)
      rw [Wire.elementJson]
      cases kind with
      | array =>
          rw [elementAt_object levels tag _ _ .array rfl, elementValue, inside, numbersFit]
          split <;> rfl
      | _ =>
          rw [elementAt_object levels tag _ _ .structure rfl, elementValue, inside,
            numbersFit]
          split <;> rfl

theorem elements_elementJsons (children : List Element) (levels : Nat)
    (enough : Wire.heights children ≤ levels) :
    (termsOf (Wire.elementJsons children)).mapM (elementAt (F := F) levels) =
      if allNumbersFit children then some (tlvElements children) else none := by
  match children with
  | [] => rfl
  | child :: rest =>
      rw [Wire.heights] at enough
      rw [Wire.elementJsons, termsOf, List.mapM_cons, elementAt_elementJson child levels (by omega),
        elements_elementJsons rest levels (by omega), allNumbersFit]
      cases numbersFit child
      · rfl
      · cases allNumbersFit rest <;> rfl

end

mutual

/-- The nesting of the term of an element is not less than the element's. -/
theorem height_elementJson (element : Element) :
    Wire.height element ≤ height (termOf (Wire.elementJson element)) := by
  match element with
  | .null _ | .i16 _ _ | .unsigned _ _ _ | .boolean _ _ =>
      simp only [Wire.elementJson, Wire.elementObject, termOf, membersOf, height, memberHeight,
        Wire.height]
      omega
  | .container tag kind children =>
      have inside := heights_elementJsons children
      simp only [Wire.elementJson, Wire.elementObject, termOf, membersOf, height, memberHeight,
        Wire.height]
      omega

theorem heights_elementJsons (children : List Element) :
    Wire.heights children ≤ itemHeight (termsOf (Wire.elementJsons children)) := by
  match children with
  | [] => simp [Wire.heights]
  | child :: rest =>
      have first := height_elementJson child
      have others := heights_elementJsons rest
      simp only [Wire.heights, Wire.elementJsons, termsOf, itemHeight]
      omega

end

theorem element_elementJson (element : Element) :
    Inbound.element (F := F) (termOf (Wire.elementJson element)) =
      if numbersFit element then some (tlvElement element) else none :=
  elementAt_elementJson element _ (height_elementJson element)

mutual

/-- An element has only numbers of 64 bits if its own are. -/
theorem worded_elementJson (element : Element) (fits : numbersFit element = true) :
    worded (Wire.elementJson element) = true := by
  have tags : ∀ tag : Native.Elements.Tag, worded (Wire.tagJson tag) = true := by
    intro tag
    cases tag <;> rfl
  match element with
  | .null tag | .boolean tag _ | .unsigned tag _ _ =>
      simp [Wire.elementJson, Wire.elementObject, worded, wordedMembers, tags]
  | .i16 tag value =>
      simp only [numbersFit, Bool.and_eq_true, decide_eq_true_eq] at fits
      simp only [Wire.elementJson, Wire.elementObject, worded, wordedMembers, tags, Bool.and_true,
        Bool.true_and, Bool.and_eq_true, decide_eq_true_eq]
      omega
  | .container tag kind children =>
      rw [numbersFit] at fits
      simp [Wire.elementJson, Wire.elementObject, worded, wordedMembers, tags,
        worded_elementJsons children fits]

theorem worded_elementJsons (children : List Element) (fits : allNumbersFit children = true) :
    wordedItems (Wire.elementJsons children) = true := by
  match children with
  | [] => rfl
  | child :: rest =>
      rw [allNumbersFit, Bool.and_eq_true] at fits
      rw [Wire.elementJsons, wordedItems, worded_elementJson child fits.1,
        worded_elementJsons rest fits.2]
      rfl

end

/-! ## Errors -/

def effectOf : Wire.InteractionEffect → Effect
  | .none => .none
  | .unknown => .unknown

/-- The error of the BEAM for an error of the host. -/
def errorOf (error : Wire.InteractionError) : Inbound.Error :=
  (Error.new (errorCode error.code)
    { status := error.status.map fun status => status.toNat
      clusterStatus := error.clusterStatus.map fun status => status.toNat }).withEffect
    (effectOf error.effect)

theorem statusIn_octet (status : UInt8) :
    statusIn 255 (some (termOf (.unsigned status.toUInt64))) = some (some (status.toNat : Int)) := by
  have := status.toNat_lt
  rw [statusIn, nullable, if_neg (by simp [termOf, isNil]), integerIn_unsigned,
    UInt8.toNat_toUInt64, if_pos (by omega)]
  rfl

/-- The two names of an effect are read as the effect. -/
theorem effect_effectName (effect : Wire.InteractionEffect) :
    Inbound.effect (some (.binary (Wire.effectName effect))) = some (effectOf effect) := by
  cases effect <;> rfl

/-- An error is read from its fields, of which all but the code may be left out. -/
theorem error_fields {members : List (Key × Term)} {code : Bytes} {effect : Effect}
    {status clusterStatus : Option Int} (few : 1 ≤ members.length ∧ members.length ≤ 4)
    (known : (members.all fun member => (errorKeys.map Key.binary).contains member.1) = true)
    (coded : field "code" (.map members) = some (.binary code))
    (effects : Inbound.effect (field "effect" (.map members)) = some effect)
    (statuses : statusIn 255 (field "status" (.map members)) = some status)
    (clusters : statusIn 255 (field "cluster_status" (.map members)) = some clusterStatus)
    (sdk : field "sdk_status" (.map members) = none) :
    Inbound.error (.map members) =
      some ((Error.new (errorCode code) { status, clusterStatus }).withEffect effect) := by
  rw [Inbound.error, coded, effects, statuses, clusters, sdk]
  simp only [guard, if_pos few, if_pos known]
  rfl

/-- An error of the host is read back, whatever it says. -/
theorem error_errorJson (error : Wire.InteractionError) :
    Inbound.error (termOf (Wire.errorJson error)) = some (errorOf error) := by
  obtain ⟨code, status, clusterStatus, effect⟩ := error
  have effects := effect_effectName effect
  rw [Wire.errorJson, termOf]
  cases status with
  | none =>
      cases clusterStatus with
      | none => exact error_fields (by simp [Wire.optionalMember, membersOf]) rfl rfl effects rfl rfl rfl
      | some cluster =>
          exact error_fields (by simp [Wire.optionalMember, membersOf]) rfl rfl effects rfl
            (statusIn_octet cluster) rfl
  | some status =>
      cases clusterStatus with
      | none =>
          exact error_fields (by simp [Wire.optionalMember, membersOf]) rfl rfl effects
            (statusIn_octet status) rfl rfl
      | some cluster =>
          exact error_fields (by simp [Wire.optionalMember, membersOf]) rfl rfl effects
            (statusIn_octet status) (statusIn_octet cluster) rfl

/-- An error without an effect is one of effect none. -/
theorem error_code (code : Bytes) :
    Inbound.error (termOf (.object [(ascii "code", .string code)])) = some (errorOf { code }) :=
  error_fields (by simp [membersOf]) rfl rfl rfl rfl rfl rfl

/-! ## Reports -/

theorem nullable_version (version : Option UInt32) :
    nullable (integerIn 0 0xFFFFFFFF) (termOf (Wire.versionJson version)) =
      some (version.map fun version => (version.toNat : Int)) := by
  cases version with
  | none => rfl
  | some version =>
      have := version.toNat_lt
      rw [Wire.versionJson, nullable, if_neg (by simp [termOf, isNil]), integerIn_unsigned,
        UInt32.toNat_toUInt64, if_pos (by omega)]
      rfl

def timestampKindOf : Wire.TimestampKind → TimestampKind
  | .system => .system
  | .epoch => .epoch

def eventOf (event : Wire.EventData) : EventReply F where
  path := addressOfPath event.path
  value := tlvElement event.value
  eventNumber := event.eventNumber.toNat
  priority := event.priority.toNat
  timestampKind := timestampKindOf event.timestampKind
  timestampValue := event.timestampValue.toNat

theorem integerIn_word (value : UInt64) :
    integerIn 0 0xFFFFFFFFFFFFFFFF (termOf (.unsigned value)) = some (value.toNat : Int) := by
  have := value.toNat_lt
  rw [integerIn_unsigned, if_pos (by omega)]

theorem integerIn_octet (value : UInt8) :
    integerIn 0 255 (termOf (.unsigned value.toUInt64)) = some (value.toNat : Int) := by
  have := value.toNat_lt
  rw [integerIn_unsigned, UInt8.toNat_toUInt64, if_pos (by omega)]

/-- Both kinds of timestamp are read with their value. -/
theorem timestamp_event (event : Wire.EventData) :
    timestamp (termOf (Wire.timestampJson event)) =
      some (timestampKindOf event.timestampKind, (event.timestampValue.toNat : Int)) := by
  have words := integerIn_word event.timestampValue
  have kinds : timestampKind (.binary (Wire.timestampKindName event.timestampKind)) =
      some (timestampKindOf event.timestampKind) := by
    cases event.timestampKind <;> rfl
  rw [timestamp, Wire.timestampJson, mapSize_object, field_object, field_object]
  show ((timestampKind (.binary (Wire.timestampKindName event.timestampKind))).bind fun kind =>
    (integerIn 0 0xFFFFFFFFFFFFFFFF (termOf (.unsigned event.timestampValue))).bind fun value =>
      some (kind, value)) = _
  rw [kinds, words]
  rfl

end WotexMatter.Session
