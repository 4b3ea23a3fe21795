/-
# WotexMatter.Tlv.RoundTrip -- decoding and encoding undo each other

Two directions over the same nesting.  `parse_encoded`: what the encoder wrote for a list of
elements, with anything behind it, is read back as that list if the list is `Admissible`, and is
refused if not.  `parse_encodes`: whatever the decoder reads is admissible, and the encoder takes
it back in no more octets, out of the same budget of nodes.

Both are about lists of elements behind which more octets may follow, so that the end marker of a
container needs no argument of its own: no element begins with it.
-/
import WotexMatter.Tlv.Codec

set_option autoImplicit false

namespace WotexMatter.Tlv

open WotexMatter.Storage WotexMatter.Theory WotexMatter.Wire

variable {F : Type} {floats : Floats F}

/-! ## Rounds -/

theorem tag_length {control : Nat} {rest rest' : Bytes} {found : Tag}
    (reads : tag control rest = some (found, rest')) : rest'.length ≤ rest.length := by
  have step : ∀ {width n} {bytes bytes' : Bytes},
      LittleEndian.read width bytes = some (n, bytes') → bytes'.length ≤ bytes.length :=
    fun found => by have := (LittleEndian.read_some found).2; omega
  unfold tag at reads
  split at reads <;> simp only [Option.bind_eq_bind, Option.bind_eq_some_iff, Option.some.injEq,
    Prod.mk.injEq, Prod.exists, reduceCtorEq] at reads
  · exact le_of_eq (congrArg List.length reads.2.symm)
  all_goals first
    | obtain ⟨_, _, first, _, rfl⟩ := reads
      exact step first
    | obtain ⟨_, _, first, _, _, second, _, _, third, _, rfl⟩ := reads
      exact (step third).trans ((step second).trans (step first))

theorem scalarValue_length {type : Nat} {rest rest' : Bytes} {found : Scalar F}
    (reads : scalarValue floats type rest = some (found, rest')) :
    rest'.length ≤ rest.length := by
  have step : ∀ {width n} {bytes bytes' : Bytes},
      LittleEndian.read width bytes = some (n, bytes') → bytes'.length ≤ bytes.length :=
    fun found => by have := (LittleEndian.read_some found).2; omega
  unfold scalarValue at reads
  split at reads
  case h_9 | h_10 | h_13 =>
      obtain ⟨_, rfl⟩ := Prod.mk.inj (Option.some.inj reads)
      exact le_refl _
  case h_11 | h_12 =>
      unfold floatValue at reads
      split at reads
      · obtain ⟨_, _, same⟩ := Option.map_eq_some_iff.mp reads
        obtain ⟨_, rfl⟩ := Prod.mk.inj same
        simp
      · cases reads
  case h_14 =>
      split at reads
      · unfold binaryValue at reads
        simp only [Option.bind_eq_bind, Option.bind_eq_some_iff, Prod.exists] at reads
        obtain ⟨size, behind, read, taken⟩ := reads
        have shorter := step read
        have dropped : (behind.drop size).length ≤ rest.length := by
          rw [List.length_drop]
          omega
        split at taken
        · split at taken
          · obtain ⟨_, rfl⟩ := Prod.mk.inj (Option.some.inj taken)
            exact dropped
          · split at taken
            · obtain ⟨_, rfl⟩ := Prod.mk.inj (Option.some.inj taken)
              exact dropped
            · cases taken
        · cases taken
      · cases reads
  all_goals
    simp only [signedValue, unsignedValue, Option.bind_eq_bind, Option.bind_eq_some_iff,
      Option.some.injEq, Prod.mk.injEq, Prod.exists] at reads
    obtain ⟨_, _, read, _, rfl⟩ := reads
    exact step read

/-- Children take octets off the text. -/
def Shortens (children : Bytes → Nat → Option (List (Element F) × Bytes × Nat)) : Prop :=
  ∀ {rest budget inside rest' budget'},
    children rest budget = some (inside, rest', budget') → rest'.length ≤ rest.length

theorem value_length {children : Bytes → Nat → Option (List (Element F) × Bytes × Nat)}
    (shortens : Shortens children) {type depth budget budget' : Nat} {rest rest' : Bytes}
    {found : Value F}
    (reads : value floats children type rest depth budget = some (found, rest', budget')) :
    rest'.length ≤ rest.length := by
  unfold value at reads
  split at reads
  · split at reads
    · obtain ⟨⟨inside, behind, left⟩, below, same⟩ := Option.map_eq_some_iff.mp reads
      obtain ⟨-, rfl, -⟩ := Prod.mk.inj same |>.imp id Prod.mk.inj
      exact shortens below
    · cases reads
  · obtain ⟨⟨scalar, behind⟩, read, same⟩ := Option.map_eq_some_iff.mp reads
    obtain ⟨-, rfl, -⟩ := Prod.mk.inj same |>.imp id Prod.mk.inj
    exact scalarValue_length read

theorem elements_length (rounds : Nat) : ∀ {bytes rest : Bytes} {depth budget budget' : Nat}
    {nested : Bool} {acc found : List (Element F)},
    elements floats rounds bytes depth budget nested acc = some (found, rest, budget') →
    rest.length ≤ bytes.length := by
  induction rounds with
  | zero =>
      intro bytes rest depth budget budget' nested acc found reads
      cases reads
  | succ rounds ih =>
      intro bytes rest depth budget budget' nested acc found reads
      cases bytes with
      | nil =>
          rw [elements] at reads
          split at reads
          · cases reads
          · obtain ⟨-, rfl, -⟩ := Prod.mk.inj (Option.some.inj reads) |>.imp id Prod.mk.inj
            exact le_refl _
      | cons control behind =>
          rw [elements] at reads
          split at reads
          · obtain ⟨-, rfl, -⟩ := Prod.mk.inj (Option.some.inj reads) |>.imp id Prod.mk.inj
            simp
          split at reads
          · split at reads
            · cases reads
            rename_i read
            split at reads
            · cases reads
            rename_i took
            split at reads
            · have tagged := tag_length read
              have valued := value_length (fun below => ih below) took
              have continued := ih reads
              rw [List.length_cons]
              omega
            · cases reads
          · cases reads

theorem value_congr (first second : Bytes → Nat → Option (List (Element F) × Bytes × Nat))
    {rest : Bytes} {budget : Nat} (same : first rest budget = second rest budget)
    (type depth : Nat) :
    value floats first type rest depth budget = value floats second type rest depth budget := by
  rw [value, value, same]

/-- More rounds than octets are as good as any other such number. -/
theorem elements_rounds (rounds : Nat) : ∀ {others : Nat} {bytes : Bytes} (depth budget : Nat)
    (nested : Bool) (acc : List (Element F)), bytes.length < rounds → bytes.length < others →
    elements floats rounds bytes depth budget nested acc =
      elements floats others bytes depth budget nested acc := by
  induction rounds with
  | zero =>
      intro others bytes depth budget nested acc enough
      omega
  | succ rounds ih =>
      intro others bytes depth budget nested acc enough enough'
      cases others with
      | zero => omega
      | succ others =>
          cases bytes with
          | nil => rfl
          | cons control behind =>
              rw [List.length_cons] at enough enough'
              rw [elements, elements]
              split
              · rfl
              split
              · split
                · rfl
                rename_i found rest read
                have shorter := tag_length read
                have below : ∀ budget,
                    elements floats rounds rest (depth + 1) budget true [] =
                      elements floats others rest (depth + 1) budget true [] :=
                  fun budget => ih _ _ _ _ (by omega) (by omega)
                rw [value_congr _ (fun rest budget =>
                  elements floats others rest (depth + 1) budget true []) (below _)]
                split
                · rfl
                rename_i took
                have less := value_length (fun below => elements_length others below) took
                split
                · exact ih _ _ _ _ (by omega) (by omega)
                · rfl
              · rfl

theorem parse_nil (depth budget : Nat) (nested : Bool) (acc : List (Element F)) :
    parse floats [] depth budget nested acc =
      if nested then none else some (acc.reverse, [], budget) := rfl

/-- **The third clause of `elements`, and the end marker before it.** -/
theorem parse_cons (control : UInt8) (rest : Bytes) (depth budget : Nat) (nested : Bool)
    (acc : List (Element F)) :
    parse floats (control :: rest) depth budget nested acc =
      if nested ∧ control = 24 then some (acc.reverse, rest, budget)
      else if depth ≤ 8 ∧ 0 < budget then
        match tag (control.toNat / 32) rest with
        | none => none
        | some (tag, rest) =>
            match value floats (fun rest budget => parse floats rest (depth + 1) budget true [])
                (control.toNat % 32) rest depth (budget - 1) with
            | none => none
            | some (found, rest, budget) =>
                if validChildren found then
                  parse floats rest depth budget nested (found.tagged tag :: acc)
                else none
      else none := by
  rw [parse, elements]
  split
  · rfl
  split
  · cases read : tag (control.toNat / 32) rest with
    | none => rfl
    | some pair =>
        obtain ⟨tagged, behind⟩ := pair
        have shorter := tag_length read
        have below : elements floats (rest.length + 1) behind (depth + 1) (budget - 1) true [] =
            parse floats behind (depth + 1) (budget - 1) true [] :=
          elements_rounds _ _ _ _ _ (by omega) (by omega)
        dsimp only
        rw [List.length_cons, value_congr _ (fun rest budget =>
          parse floats rest (depth + 1) budget true []) below]
        cases took : value floats (fun rest budget => parse floats rest (depth + 1) budget true [])
            (control.toNat % 32) behind depth (budget - 1) with
        | none => rfl
        | some triple =>
            obtain ⟨found, rest', left⟩ := triple
            have less := value_length (fun below => elements_length _ below) took
            dsimp only
            split
            · exact elements_rounds _ _ _ _ _ (by omega) (by omega)
            · rfl
  · rfl

/-! ## What the decoder asks of elements -/

def Scalar.valid : Scalar F → Bool
  | .utf8 value => stringValid value
  | _ => true

def Element.value : Element F → Value F
  | .scalar _ value => .scalar value
  | .container _ kind children => .container kind children

@[simp] theorem value_tagged (tag : Tag) (value : Value F) : (value.tagged tag).value = value := by
  cases value <;> rfl

@[simp] theorem tag_tagged (tag : Tag) (value : Value F) : (value.tagged tag).tag = tag := by
  cases value <;> rfl

@[simp] theorem tagged_value (element : Element F) : element.value.tagged element.tag = element := by
  cases element <;> rfl

mutual

/-- What is asked of an element before `valid_children?`. -/
def inside : Element F → Bool
  | .scalar _ value => value.valid
  | .container _ _ children => admissible children

/-- Text is UTF-8 and the tags of arrays and structures are as they must be. -/
def admissible : List (Element F) → Bool
  | [] => true
  | element :: tail => inside element && validChildren element.value && admissible tail

end

def Scalar.floatFree : Scalar F → Bool
  | .float32 _ => false
  | .float64 _ => false
  | _ => true

mutual

def Element.floatFree : Element F → Bool
  | .scalar _ value => value.floatFree
  | .container _ _ children => floatFree children

/-- No element is a floating-point value, at any depth. -/
def floatFree : List (Element F) → Bool
  | [] => true
  | element :: tail => element.floatFree && floatFree tail

end

/-! ## What was written is read back -/

theorem toNat_lt_of_cast {id : Int} {bound : Nat} (low : 0 ≤ id) (high : id < bound) :
    id.toNat < bound := by
  omega

theorem read_id (width : Nat) {id : Int} (low : 0 ≤ id) (high : id < (256 ^ width : Nat))
    (rest : Bytes) :
    LittleEndian.read width (LittleEndian.toBytes width id.toNat ++ rest) =
      some (id.toNat, rest) :=
  LittleEndian.read_toBytes (toNat_lt_of_cast low high) rest

theorem tag_encoded {written : Tag} {control : Nat} {bytes : Bytes}
    (encoded : encodeTag written = some (control, bytes)) (rest : Bytes) :
    control < 8 ∧ tag control (bytes ++ rest) = some (written, rest) := by
  cases written with
  | anonymous =>
      obtain ⟨rfl, rfl⟩ := Prod.mk.inj (Option.some.inj encoded)
      exact ⟨by omega, rfl⟩
  | context id =>
      rw [encodeTag] at encoded
      split at encoded
      · rename_i range
        obtain ⟨rfl, rfl⟩ := Prod.mk.inj (Option.some.inj encoded)
        have back := read_id 1 range.1 (by norm_num; omega) rest
        exact ⟨by omega, by simp [tag, back, Int.toNat_of_nonneg range.1]⟩
      · cases encoded
  | common id =>
      rw [encodeTag] at encoded
      split at encoded
      · rename_i range
        obtain ⟨rfl, rfl⟩ := Prod.mk.inj (Option.some.inj encoded)
        have back := read_id 2 range.1 (by norm_num; omega) rest
        exact ⟨by omega, by simp [tag, back, Int.toNat_of_nonneg range.1]⟩
      · split at encoded
        · rename_i range
          obtain ⟨rfl, rfl⟩ := Prod.mk.inj (Option.some.inj encoded)
          have back := read_id 4 range.1 (by norm_num; omega) rest
          exact ⟨by omega, by simp [tag, back, Int.toNat_of_nonneg range.1]⟩
        · cases encoded
  | implicit id =>
      rw [encodeTag] at encoded
      split at encoded
      · rename_i range
        obtain ⟨rfl, rfl⟩ := Prod.mk.inj (Option.some.inj encoded)
        have back := read_id 2 range.1 (by norm_num; omega) rest
        exact ⟨by omega, by simp [tag, back, Int.toNat_of_nonneg range.1]⟩
      · split at encoded
        · rename_i range
          obtain ⟨rfl, rfl⟩ := Prod.mk.inj (Option.some.inj encoded)
          have back := read_id 4 range.1 (by norm_num; omega) rest
          exact ⟨by omega, by simp [tag, back, Int.toNat_of_nonneg range.1]⟩
        · cases encoded
  | qualified vendor profile id =>
      rw [encodeTag] at encoded
      split at encoded
      · rename_i range
        obtain ⟨v0, v1, p0, p1, i0, i1⟩ := range
        have vendors := read_id 2 v0 (by norm_num; omega)
        have profiles := read_id 2 p0 (by norm_num; omega)
        dsimp only at encoded
        split at encoded
        · obtain ⟨rfl, rfl⟩ := Prod.mk.inj (Option.some.inj encoded)
          have back := read_id 2 i0 (by norm_num; omega) rest
          refine ⟨by omega, ?_⟩
          simp [tag, List.append_assoc, vendors, profiles, back, v0, p0, i0]
        · obtain ⟨rfl, rfl⟩ := Prod.mk.inj (Option.some.inj encoded)
          have back := read_id 4 i0 (by norm_num; omega) rest
          refine ⟨by omega, ?_⟩
          simp [tag, List.append_assoc, vendors, profiles, back, v0, p0, i0]
      · cases encoded

theorem binary_encoded {base type : Nat} {value body : Bytes} (encoded :
    encodeBinary base value = some (type, body)) (bases : base = 12 ∨ base = 16) (rest : Bytes) :
    (type = base ∨ type = base + 1) ∧ binaryValue (F := F) type (body ++ rest) =
      if 16 ≤ base then some (.bytes value, rest)
      else if stringValid value then some (.utf8 value, rest)
      else none := by
  have taken : (value ++ rest).take value.length = value := by simp
  have dropped : (value ++ rest).drop value.length = rest := by simp
  rw [encodeBinary] at encoded
  split at encoded
  · rename_i small
    split at encoded
    · obtain ⟨rfl, rfl⟩ := Prod.mk.inj (Option.some.inj encoded)
      have back : LittleEndian.read 1 (LittleEndian.toBytes 1 value.length ++ (value ++ rest)) =
          some (value.length, value ++ rest) := LittleEndian.read_toBytes (by norm_num; omega) _
      refine ⟨Or.inl rfl, ?_⟩
      rcases bases with rfl | rfl <;>
        simp [binaryValue, List.append_assoc, back, taken, dropped,
          show value.length ≤ 65536 by omega]
    · obtain ⟨rfl, rfl⟩ := Prod.mk.inj (Option.some.inj encoded)
      have back : LittleEndian.read 2 (LittleEndian.toBytes 2 value.length ++ (value ++ rest)) =
          some (value.length, value ++ rest) := LittleEndian.read_toBytes (by norm_num; omega) _
      refine ⟨Or.inr rfl, ?_⟩
      rcases bases with rfl | rfl <;>
        simp [binaryValue, List.append_assoc, back, taken, dropped,
          show value.length ≤ 65536 by omega]
  · cases encoded

theorem scalar_encoded {written : Scalar F} {type : Nat} {body : Bytes}
    (encoded : encodeScalar floats written = some (type, body)) (free : written.floatFree = true)
    (rest : Bytes) :
    type ≤ 20 ∧ scalarValue floats type (body ++ rest) =
      if written.valid then some (written, rest) else none := by
  cases written with
  | signed width value =>
      rw [encodeScalar] at encoded
      split at encoded
      · rename_i range
        obtain ⟨rfl, rfl⟩ := Prod.mk.inj (Option.some.inj encoded)
        have back := LittleEndian.read_toBytes (LittleEndian.toTwos_lt width.octets value) rest
        have same := LittleEndian.ofTwos_toTwos range
        cases width <;>
          exact ⟨by decide, by simp [Width.signedType, scalarValue, signedValue, back, same,
            Scalar.valid]⟩
      · cases encoded
  | unsigned width value =>
      rw [encodeScalar] at encoded
      split at encoded
      · rename_i range
        obtain ⟨rfl, rfl⟩ := Prod.mk.inj (Option.some.inj encoded)
        have back := read_id width.octets range.1 (by push_cast; exact range.2) rest
        have same := Int.toNat_of_nonneg range.1
        cases width <;>
          exact ⟨by decide, by simp [Width.unsignedType, scalarValue, unsignedValue, back, range.1,
            Scalar.valid]⟩
      · cases encoded
  | boolean value =>
      obtain ⟨rfl, rfl⟩ := Prod.mk.inj (Option.some.inj encoded)
      cases value <;> exact ⟨by decide, rfl⟩
  | float32 value => cases free
  | float64 value => cases free
  | null =>
      obtain ⟨rfl, rfl⟩ := Prod.mk.inj (Option.some.inj encoded)
      exact ⟨by decide, rfl⟩
  | utf8 value =>
      obtain ⟨types, back⟩ := binary_encoded (F := F) encoded (Or.inl rfl) rest
      rcases types with rfl | rfl <;>
        exact ⟨by decide, back⟩
  | bytes value =>
      obtain ⟨types, back⟩ := binary_encoded (F := F) encoded (Or.inr rfl) rest
      rcases types with rfl | rfl <;>
        exact ⟨by decide, back⟩

theorem ofType_type (kind : Container) : Container.ofType kind.type = some kind := by
  cases kind <;> rfl

theorem ofType_scalar {type : Nat} (scalar : type ≤ 20) : Container.ofType type = none := by
  unfold Container.ofType
  split <;> first | omega | rfl

/-- The control octet holds both parts, and is never the end marker. -/
theorem control_octet {tagControl typeControl : Nat} (tags : tagControl < 8)
    (types : typeControl < 24) :
    (UInt8.ofNat (tagControl * 32 + typeControl)).toNat / 32 = tagControl ∧
      (UInt8.ofNat (tagControl * 32 + typeControl)).toNat % 32 = typeControl ∧
      UInt8.ofNat (tagControl * 32 + typeControl) ≠ 24 := by
  have number : (UInt8.ofNat (tagControl * 32 + typeControl)).toNat =
      tagControl * 32 + typeControl := by
    rw [UInt8.toNat_ofNat']
    omega
  refine ⟨by omega, by omega, fun marker => ?_⟩
  rw [marker] at number
  change 24 = tagControl * 32 + typeControl at number
  omega

mutual

/-- **What the encoder wrote is read back, with anything behind it, if the elements are
admissible, and refused if not.** -/
theorem parse_encoded (elements : List (Element F)) {depth budget budget' : Nat} {bytes : Bytes}
    (encoded : encodeElements floats elements depth budget = some (bytes, budget'))
    (free : floatFree elements = true) (nested : Bool) (acc : List (Element F)) (tail : Bytes) :
    parse floats (bytes ++ tail) depth budget nested acc =
      if admissible elements then
        parse floats tail depth budget' nested (elements.reverse ++ acc)
      else none := by
  match elements with
  | [] =>
      rw [encodeElements] at encoded
      obtain ⟨rfl, rfl⟩ := Prod.mk.inj (Option.some.inj encoded)
      rfl
  | element :: others =>
      rw [encodeElements] at encoded
      split at encoded
      swap
      · cases encoded
      rename_i guard
      simp only [Option.bind_eq_bind, Option.bind_eq_some_iff, Prod.exists] at encoded
      obtain ⟨tagControl, tagBytes, tagged, typeControl, body, left, valued, rest, left', others',
        written⟩ := encoded
      split at written
      swap
      · cases written
      obtain ⟨rfl, rfl⟩ := Prod.mk.inj (Option.some.inj written)
      rw [floatFree, Bool.and_eq_true] at free
      obtain ⟨tags, read⟩ := tag_encoded tagged (body ++ (rest ++ tail))
      obtain ⟨types, took⟩ := value_encoded element valued free.1 (rest ++ tail)
      obtain ⟨high, low, marker⟩ := control_octet tags types
      have text : UInt8.ofNat (tagControl * 32 + typeControl) :: (tagBytes ++ (body ++ rest)) ++
          tail = UInt8.ofNat (tagControl * 32 + typeControl) ::
            (tagBytes ++ (body ++ (rest ++ tail))) := by simp
      rw [text, parse_cons, if_neg fun ends => marker ends.2, if_pos guard, high, low, read]
      dsimp only
      rw [took]
      by_cases within : inside element = true
      · rw [if_pos within]
        dsimp only
        rw [admissible, within, Bool.true_and, tagged_value]
        by_cases children : validChildren element.value = true
        · rw [if_pos children, children, Bool.true_and,
            parse_encoded others others' free.2 nested (element :: acc) tail]
          simp
        · rw [if_neg children, Bool.eq_false_iff.mpr children]
          rfl
      · rw [if_neg within, admissible, Bool.eq_false_iff.mpr within]
        rfl

theorem value_encoded (element : Element F) {depth budget budget' typeControl : Nat}
    {body : Bytes}
    (encoded : encodeValue floats element depth budget = some (typeControl, body, budget'))
    (free : element.floatFree = true) (rest : Bytes) :
    typeControl < 24 ∧
      value floats (fun rest budget => parse floats rest (depth + 1) budget true []) typeControl
        (body ++ rest) depth budget =
      if inside element then some (element.value, rest, budget') else none := by
  match element with
  | .scalar tag written =>
      rw [encodeValue] at encoded
      obtain ⟨⟨type, text⟩, scalar, same⟩ := Option.map_eq_some_iff.mp encoded
      obtain ⟨rfl, rfl, rfl⟩ := Prod.mk.inj same |>.imp id Prod.mk.inj
      rw [Element.floatFree] at free
      obtain ⟨small, back⟩ := scalar_encoded scalar free rest
      refine ⟨by omega, ?_⟩
      rw [value, ofType_scalar small, inside]
      dsimp only
      rw [back]
      split <;> rfl
  | .container tag kind children =>
      rw [encodeValue] at encoded
      split at encoded
      swap
      · cases encoded
      rename_i shallow
      simp only [Option.bind_eq_bind, Option.bind_eq_some_iff, Prod.exists] at encoded
      obtain ⟨text, left, below, written⟩ := encoded
      obtain ⟨rfl, rfl, rfl⟩ := Prod.mk.inj (Option.some.inj written) |>.imp id Prod.mk.inj
      rw [Element.floatFree] at free
      have read := parse_encoded children below free true [] (24 :: rest)
      refine ⟨by cases kind <;> decide, ?_⟩
      rw [value, ofType_type, inside]
      dsimp only
      rw [if_pos shallow, List.append_assoc, List.singleton_append, read]
      by_cases within : admissible children = true
      · rw [if_pos within, if_pos within, parse_cons, if_pos ⟨rfl, rfl⟩]
        simp [Element.value]
      · rw [if_neg within, if_neg within]
        rfl

end

theorem encode_some {values : List (Element F)} {bytes : Bytes}
    (encoded : encode floats values = some bytes) :
    ∃ left, encodeElements floats values 0 1024 = some (bytes, left) ∧ bytes.length ≤ 65536 ∧
      (decode floats bytes).isSome = true := by
  simp only [encode, Option.bind_eq_bind, Option.bind_eq_some_iff, Prod.exists,
    Option.ite_none_right_eq_some, Option.some.injEq] at encoded
  obtain ⟨text, left, written, ⟨fits, reads⟩, rfl⟩ := encoded
  exact ⟨left, written, fits, reads⟩

/-- The encoder reads its text back, so it takes admissible elements only. -/
theorem encode_admissible {values : List (Element F)} {bytes : Bytes}
    (free : floatFree values = true) (encoded : encode floats values = some bytes) :
    admissible values = true ∧ decode floats bytes = some values := by
  obtain ⟨left, written, fits, reads⟩ := encode_some encoded
  have back := parse_encoded values written free false [] []
  rw [List.append_nil, parse_nil, List.append_nil, List.reverse_reverse] at back
  by_cases within : admissible values = true
  · refine ⟨within, ?_⟩
    rw [decode, if_pos fits, back, if_pos within]
    rfl
  · rw [decode, if_pos fits, back, if_neg within] at reads
    cases reads

/-- **Decoding undoes encoding.** -/
theorem decode_encode (floats : Floats F) (values : List (Element F)) (bytes : Bytes)
    (free : floatFree values = true) (encoded : encode floats values = some bytes) :
    decode floats bytes = some values :=
  (encode_admissible free encoded).2

/-- Without floating-point values there is nothing to convert. -/
def noFloats : Floats Empty where
  decode32 _ := none
  decode64 _ := none
  encode32 value := value.elim
  encode64 value := value.elim

def greeting : List (Element Empty) :=
  [.container .anonymous .structure
    [.scalar (.qualified 65521 1 70000) (.signed .w16 (-2)),
      .container (.context 7) .list [.scalar (.common 9) (.utf8 [104, 105])]]]

def greetingBytes : Bytes :=
  [21, 225, 241, 255, 1, 0, 112, 17, 1, 0, 254, 255, 55, 7, 76, 9, 0, 2, 104, 105, 24, 24]

theorem decode_encode_greeting : decode noFloats greetingBytes = some greeting :=
  decode_encode noFloats greeting greetingBytes rfl (by decide +kernel)

/-! ## What was read can be written -/

/-- A tag of one number takes two octets if the number fits, four if not. -/
theorem profile_encodes {make : Int → Tag} (kind : make = .common ∨ make = .implicit) {id : Nat}
    (fits : id < 256 ^ 4) :
    ∃ tagControl bytes, encodeTag (make id) = some (tagControl, bytes) ∧ bytes.length ≤ 4 ∧
      (id < 256 ^ 2 → bytes.length = 2) := by
  norm_num at fits
  rcases kind with rfl | rfl <;> rw [encodeTag]
  all_goals
    by_cases small : id < 65536
    · rw [if_pos (by omega)]
      exact ⟨_, _, rfl, by simp, by simp⟩
    · rw [if_neg (by omega), if_pos (by omega)]
      exact ⟨_, _, rfl, by simp, fun fits => absurd fits (by norm_num; omega)⟩

theorem qualified_encodes {vendor profile id : Nat} (vendors : vendor < 256 ^ 2)
    (profiles : profile < 256 ^ 2) (fits : id < 256 ^ 4) :
    ∃ tagControl bytes, encodeTag (.qualified vendor profile id) = some (tagControl, bytes) ∧
      bytes.length ≤ 8 ∧ (id < 256 ^ 2 → bytes.length = 6) := by
  norm_num at vendors profiles fits
  rw [encodeTag, if_pos (by omega)]
  by_cases small : (id : Int) ≤ 65535
  · rw [if_pos small]
    exact ⟨_, _, rfl, by simp, by simp⟩
  · rw [if_neg small]
    exact ⟨_, _, rfl, by simp, fun fits => absurd fits (by norm_num; omega)⟩

theorem tag_encodes {control : Nat} {rest rest' : Bytes} {found : Tag}
    (reads : tag control rest = some (found, rest')) :
    ∃ tagControl bytes, encodeTag found = some (tagControl, bytes) ∧
      bytes.length + rest'.length ≤ rest.length := by
  have step : ∀ {width n} {bytes bytes' : Bytes},
      LittleEndian.read width bytes = some (n, bytes') →
        n < 256 ^ width ∧ bytes'.length + width = bytes.length :=
    fun found => LittleEndian.read_some found
  have wide : ∀ {n}, n < 256 ^ 2 → n < 256 ^ 4 := fun small => by norm_num at small ⊢; omega
  have narrow : ∀ {make : Int → Tag} {id : Nat}, (make = .common ∨ make = .implicit) →
      LittleEndian.read 2 rest = some (id, rest') →
        ∃ tagControl bytes, encodeTag (make id) = some (tagControl, bytes) ∧
          bytes.length + rest'.length ≤ rest.length := by
    intro make id kind first
    obtain ⟨small, shorter⟩ := step first
    obtain ⟨tagControl, bytes, encoded, -, short⟩ := profile_encodes kind (wide small)
    have two := short small
    exact ⟨tagControl, bytes, encoded, by omega⟩
  have broad : ∀ {make : Int → Tag} {id : Nat}, (make = .common ∨ make = .implicit) →
      LittleEndian.read 4 rest = some (id, rest') →
        ∃ tagControl bytes, encodeTag (make id) = some (tagControl, bytes) ∧
          bytes.length + rest'.length ≤ rest.length := by
    intro make id kind first
    obtain ⟨small, shorter⟩ := step first
    obtain ⟨tagControl, bytes, encoded, four, -⟩ := profile_encodes kind small
    exact ⟨tagControl, bytes, encoded, by omega⟩
  unfold tag at reads
  split at reads <;> simp only [Option.bind_eq_bind, Option.bind_eq_some_iff, Option.some.injEq,
    Prod.mk.injEq, Prod.exists, reduceCtorEq] at reads
  case h_1 =>
      obtain ⟨rfl, rfl⟩ := reads
      exact ⟨0, [], rfl, by simp⟩
  case h_2 =>
      obtain ⟨id, behind, first, rfl, rfl⟩ := reads
      obtain ⟨small, shorter⟩ := step first
      norm_num at small
      refine ⟨1, _, by rw [encodeTag, if_pos (by omega)], ?_⟩
      rw [LittleEndian.length_toBytes]
      omega
  case h_3 =>
      obtain ⟨id, behind, first, rfl, rfl⟩ := reads
      exact narrow (Or.inl rfl) first
  case h_4 =>
      obtain ⟨id, behind, first, rfl, rfl⟩ := reads
      exact broad (Or.inl rfl) first
  case h_5 =>
      obtain ⟨id, behind, first, rfl, rfl⟩ := reads
      exact narrow (Or.inr rfl) first
  case h_6 =>
      obtain ⟨id, behind, first, rfl, rfl⟩ := reads
      exact broad (Or.inr rfl) first
  case h_7 =>
      obtain ⟨vendor, _, first, profile, _, second, id, behind, third, rfl, rfl⟩ := reads
      obtain ⟨vendors, shorter⟩ := step first
      obtain ⟨profiles, shorter'⟩ := step second
      obtain ⟨small, shorter''⟩ := step third
      obtain ⟨tagControl, bytes, encoded, -, short⟩ :=
        qualified_encodes vendors profiles (wide small)
      have six := short small
      exact ⟨tagControl, bytes, encoded, by omega⟩
  case h_8 =>
      obtain ⟨vendor, _, first, profile, _, second, id, behind, third, rfl, rfl⟩ := reads
      obtain ⟨vendors, shorter⟩ := step first
      obtain ⟨profiles, shorter'⟩ := step second
      obtain ⟨small, shorter''⟩ := step third
      obtain ⟨tagControl, bytes, encoded, eight, -⟩ := qualified_encodes vendors profiles small
      exact ⟨tagControl, bytes, encoded, by omega⟩

theorem binary_encodes {base type : Nat} {rest rest' : Bytes} {size : Nat} {value : Bytes}
    (read : LittleEndian.read (1 <<< (type % 4)) rest = some (size, rest'))
    (room : size ≤ rest'.length) (taken : rest'.take size = value) (short : rest.length < 65536) :
    ∃ typeControl body, encodeBinary base value = some (typeControl, body) ∧
      body.length + (rest'.drop size).length ≤ rest.length := by
  obtain ⟨fits, shorter⟩ := LittleEndian.read_some read
  have length : value.length = size := by rw [← taken, List.length_take, Nat.min_eq_left room]
  have widths : 1 ≤ 1 <<< (type % 4) ∧ (256 ≤ size → 2 ≤ 1 <<< (type % 4)) := by
    rw [Nat.shiftLeft_eq, Nat.one_mul] at fits ⊢
    refine ⟨Nat.one_le_two_pow, fun large => ?_⟩
    cases power : type % 4 with
    | zero => rw [power] at fits; omega
    | succ n =>
        rw [pow_succ]
        have := Nat.one_le_two_pow (n := n)
        omega
  rw [encodeBinary, if_pos (by omega)]
  by_cases small : value.length ≤ 255
  · rw [if_pos small]
    refine ⟨_, _, rfl, ?_⟩
    rw [List.length_append, LittleEndian.length_toBytes, List.length_drop]
    omega
  · rw [if_neg small]
    have two := widths.2 (by omega)
    refine ⟨_, _, rfl, ?_⟩
    rw [List.length_append, LittleEndian.length_toBytes, List.length_drop]
    omega

theorem scalar_encodes {type : Nat} {rest rest' : Bytes} {found : Scalar F}
    (reads : scalarValue floats type rest = some (found, rest')) (short : rest.length < 65536) :
    found.valid = true ∧ (found.floatFree = true →
      ∃ typeControl body, encodeScalar floats found = some (typeControl, body) ∧
        body.length + rest'.length ≤ rest.length) := by
  have signed : ∀ (width : Width), signedValue width rest = some (found, rest') →
      found.valid = true ∧ (found.floatFree = true →
        ∃ typeControl body, encodeScalar floats found = some (typeControl, body) ∧
          body.length + rest'.length ≤ rest.length) := by
    intro width read
    simp only [signedValue, Option.bind_eq_bind, Option.bind_eq_some_iff, Option.some.injEq,
      Prod.mk.injEq, Prod.exists] at read
    obtain ⟨value, behind, first, rfl, rfl⟩ := read
    obtain ⟨fits, shorter⟩ := LittleEndian.read_some first
    refine ⟨rfl, fun _ => ⟨_, _, by rw [encodeScalar, if_pos (LittleEndian.ofTwos_signed fits)], ?_⟩⟩
    rw [LittleEndian.length_toBytes]
    omega
  have unsigned : ∀ (width : Width), unsignedValue width rest = some (found, rest') →
      found.valid = true ∧ (found.floatFree = true →
        ∃ typeControl body, encodeScalar floats found = some (typeControl, body) ∧
          body.length + rest'.length ≤ rest.length) := by
    intro width read
    simp only [unsignedValue, Option.bind_eq_bind, Option.bind_eq_some_iff, Option.some.injEq,
      Prod.mk.injEq, Prod.exists] at read
    obtain ⟨value, behind, first, rfl, rfl⟩ := read
    obtain ⟨fits, shorter⟩ := LittleEndian.read_some first
    have range : (0 : Int) ≤ value ∧ (value : Int) < 256 ^ width.octets :=
      ⟨Int.natCast_nonneg _, by exact_mod_cast fits⟩
    refine ⟨rfl, fun _ => ⟨_, _, by rw [encodeScalar, if_pos range], ?_⟩⟩
    rw [LittleEndian.length_toBytes]
    omega
  unfold scalarValue at reads
  split at reads
  case h_1 | h_2 | h_3 | h_4 => exact signed _ reads
  case h_5 | h_6 | h_7 | h_8 => exact unsigned _ reads
  case h_9 | h_10 | h_13 =>
      obtain ⟨rfl, rfl⟩ := Prod.mk.inj (Option.some.inj reads)
      exact ⟨rfl, fun _ => ⟨_, _, rfl, by simp⟩⟩
  case h_11 | h_12 =>
      unfold floatValue at reads
      split at reads
      · obtain ⟨_, _, same⟩ := Option.map_eq_some_iff.mp reads
        obtain ⟨rfl, rfl⟩ := Prod.mk.inj same
        exact ⟨rfl, fun free => nomatch free⟩
      · cases reads
  case h_14 =>
      split at reads
      swap
      · cases reads
      simp only [binaryValue, Option.bind_eq_bind, Option.bind_eq_some_iff, Prod.exists] at reads
      obtain ⟨size, behind, read, taken⟩ := reads
      split at taken
      swap
      · cases taken
      rename_i room
      split at taken
      · obtain ⟨rfl, rfl⟩ := Prod.mk.inj (Option.some.inj taken)
        exact ⟨rfl, fun _ => binary_encodes read room.2 rfl short⟩
      split at taken
      · rename_i utf8
        obtain ⟨rfl, rfl⟩ := Prod.mk.inj (Option.some.inj taken)
        exact ⟨utf8, fun _ => binary_encodes read room.2 rfl short⟩
      · cases taken

theorem value_encodes {type depth budget budget' : Nat} {rest rest' : Bytes} {found : Value F}
    (tag : Tag)
    (below : ∀ {children behind left},
      parse floats rest (depth + 1) budget true [] = some (children, behind, left) →
        admissible children = true ∧ (floatFree children = true →
          ∃ text, encodeElements floats children (depth + 1) budget = some (text, left) ∧
            text.length + behind.length + 1 ≤ rest.length))
    (reads : value floats (fun rest budget => parse floats rest (depth + 1) budget true []) type
      rest depth budget = some (found, rest', budget'))
    (short : rest.length < 65536) :
    inside (found.tagged tag) = true ∧ ((found.tagged tag).floatFree = true →
      ∃ typeControl body,
        encodeValue floats (found.tagged tag) depth budget = some (typeControl, body, budget') ∧
          body.length + rest'.length ≤ rest.length) := by
  unfold value at reads
  split at reads
  · rename_i kind _
    split at reads
    swap
    · cases reads
    rename_i shallow
    obtain ⟨⟨children, behind, left⟩, read, same⟩ := Option.map_eq_some_iff.mp reads
    obtain ⟨rfl, rfl, rfl⟩ := Prod.mk.inj same |>.imp id Prod.mk.inj
    obtain ⟨within, writes⟩ := below read
    refine ⟨within, fun free => ?_⟩
    obtain ⟨text, written, shorter⟩ := writes free
    refine ⟨kind.type, text ++ [24],
      by simp [Value.tagged, encodeValue, shallow, written], ?_⟩
    rw [List.length_append, List.length_singleton]
    omega
  · obtain ⟨⟨scalar, behind⟩, read, same⟩ := Option.map_eq_some_iff.mp reads
    obtain ⟨rfl, rfl, rfl⟩ := Prod.mk.inj same |>.imp id Prod.mk.inj
    obtain ⟨within, writes⟩ := scalar_encodes read short
    refine ⟨within, fun free => ?_⟩
    obtain ⟨typeControl, body, written, shorter⟩ := writes free
    exact ⟨typeControl, body, by simp [Value.tagged, encodeValue, written], shorter⟩

/-- **What the decoder reads is admissible, and the encoder takes it in no more octets, out of the
same budget.** -/
theorem parse_encodes (octets : Nat) : ∀ {bytes rest : Bytes} {depth budget budget' : Nat}
    {nested : Bool} {acc found : List (Element F)},
    parse floats bytes depth budget nested acc = some (found, rest, budget') →
    bytes.length ≤ octets → octets ≤ 65536 →
      ∃ read, found = acc.reverse ++ read ∧ admissible read = true ∧ (floatFree read = true →
        ∃ text, encodeElements floats read depth budget = some (text, budget') ∧
          text.length + rest.length + nested.toNat ≤ bytes.length) := by
  induction octets using Nat.strong_induction_on with
  | _ octets ih =>
      intro bytes rest depth budget budget' nested acc found reads size bound
      cases bytes with
      | nil =>
          rw [parse_nil] at reads
          cases nested with
          | true => cases reads
          | false =>
              obtain ⟨rfl, rfl, rfl⟩ := Prod.mk.inj (Option.some.inj reads) |>.imp id Prod.mk.inj
              exact ⟨[], by simp, rfl, fun _ => ⟨[], by rw [encodeElements], by simp⟩⟩
      | cons control behind =>
          rw [List.length_cons] at size
          rw [parse_cons] at reads
          split at reads
          · rename_i ends
            obtain ⟨rfl, rfl, rfl⟩ := Prod.mk.inj (Option.some.inj reads) |>.imp id Prod.mk.inj
            refine ⟨[], by simp, rfl, fun _ => ⟨[], by rw [encodeElements], ?_⟩⟩
            rw [ends.1]
            simp
          split at reads
          swap
          · cases reads
          rename_i guard
          split at reads
          · cases reads
          rename_i tag behind' tagged
          split at reads
          · cases reads
          rename_i value behind'' left valued
          split at reads
          swap
          · cases reads
          rename_i children
          obtain ⟨tagControl, tagText, tagWritten, tagSize⟩ := tag_encodes tagged
          have shorter := value_length (fun below => elements_length _ below) valued
          obtain ⟨within, valueWrites⟩ := value_encodes tag
            (fun below => by
              obtain ⟨read, rfl, fine, writes⟩ :=
                ih (octets - 1) (by omega) below (by omega) (by omega)
              exact ⟨fine, writes⟩) valued (by omega)
          obtain ⟨others, rfl, fine, writes⟩ :=
            ih (octets - 1) (by omega) reads (by omega) (by omega)
          refine ⟨value.tagged tag :: others, by simp, ?_, fun free => ?_⟩
          · rw [admissible, within, value_tagged, children, fine]
            rfl
          · rw [floatFree, Bool.and_eq_true] at free
            obtain ⟨typeControl, body, valueWritten, valueSize⟩ := valueWrites free.1
            obtain ⟨text, written, textSize⟩ := writes free.2
            refine ⟨UInt8.ofNat (tagControl * 32 + typeControl) :: (tagText ++ (body ++ text)),
              ?_, ?_⟩
            · have fits : body.length + text.length < 65536 := by omega
              rw [encodeElements, if_pos guard, tag_tagged, tagWritten]
              simp [valueWritten, written, fits]
            · simp only [List.length_cons, List.length_append]
              omega

theorem decode_some {bytes : Bytes} {values : List (Element F)}
    (decoded : decode floats bytes = some values) :
    bytes.length ≤ 65536 ∧ ∃ left, parse floats bytes 0 1024 false [] = some (values, [], left) := by
  rw [decode] at decoded
  split at decoded
  · rename_i size
    split at decoded
    · rename_i read
      obtain rfl := Option.some.inj decoded
      exact ⟨size, _, read⟩
    · cases decoded
  · cases decoded

/-- **What the decoder accepts the encoder takes, in no more octets.** -/
theorem encode_decode {bytes : Bytes} {values : List (Element F)}
    (decoded : decode floats bytes = some values) (free : floatFree values = true) :
    ∃ canonical, encode floats values = some canonical ∧ canonical.length ≤ bytes.length ∧
      decode floats canonical = some values := by
  obtain ⟨size, left, read⟩ := decode_some decoded
  obtain ⟨_, rfl, within, writes⟩ := parse_encodes 65536 read size (le_refl _)
  obtain ⟨canonical, written, shorter⟩ := writes free
  have small : canonical.length ≤ bytes.length := by
    rw [List.length_nil] at shorter
    omega
  have back := parse_encoded _ written free false [] []
  rw [List.append_nil, if_pos within, parse_nil, List.append_nil, List.reverse_reverse] at back
  have again : decode floats canonical = some values := by
    rw [decode, if_pos (small.trans size), back]
    rfl
  refine ⟨canonical, ?_, small, again⟩
  rw [encode, written]
  simp [again, small.trans size]

theorem validateElement_some {element normalized : Element F}
    (validated : validateElement floats element = some normalized) :
    element.tag = .anonymous ∧
      ∃ bytes, encode floats [element] = some bytes ∧ decode floats bytes = some [normalized] := by
  rw [validateElement] at validated
  split at validated
  · rename_i outer
    split at validated
    · rename_i read
      obtain rfl := Option.some.inj validated
      exact ⟨outer, Option.bind_eq_some_iff.mp read⟩
    · cases validated
  · cases validated

/-- A validated element is what it was. -/
theorem validateElement_same {element normalized : Element F} (free : element.floatFree = true)
    (validated : validateElement floats element = some normalized) : normalized = element := by
  obtain ⟨-, bytes, encoded, decoded⟩ := validateElement_some validated
  have back := (encode_admissible (by rw [floatFree, free]; rfl) encoded).2
  rw [back] at decoded
  exact (List.cons.inj (Option.some.inj decoded)).1.symm

/-- **Encoding again never fails, never lengthens, and changes no element.**  Validation leaves what
it has validated as it is. -/
theorem reencoding (floats : Floats F) :
    (∀ (bytes : Bytes) (values : List (Element F)), decode floats bytes = some values →
      floatFree values = true →
        ∃ canonical, encode floats values = some canonical ∧ canonical.length ≤ bytes.length ∧
          decode floats canonical = some values) ∧
      ∀ element : Element F, element.floatFree = true →
        (validateElement floats element).bind (validateElement floats) =
          validateElement floats element := by
  refine ⟨fun _ _ => encode_decode, fun element free => ?_⟩
  cases validated : validateElement floats element with
  | none => rfl
  | some normalized =>
      obtain rfl := validateElement_same free validated
      exact validated

/-- A length of four octets and a tag of four are shortened. -/
theorem reencoding_long :
    ∃ canonical, encode noFloats [.scalar (.common 9) (.utf8 [104, 105])] = some canonical ∧
      canonical.length ≤ 11 ∧
      decode noFloats canonical = some [.scalar (.common 9) (.utf8 [104, 105])] :=
  (reencoding noFloats).1 [110, 9, 0, 0, 0, 2, 0, 0, 0, 104, 105]
    [.scalar (.common 9) (.utf8 [104, 105])] (by rfl) rfl

end WotexMatter.Tlv
