/-
# WotexMatter.Tlv.Codec -- Matter Type-Length-Value data

`Wotex.Matter.TLV` (`lib/wotex/matter/tlv.ex`): the elements, their decoder and their encoder.
`none` is `:error` and every `{:error, _}`.  An element whose value has no shape of its type is no
`Element`; the encoder refuses it.

Floating-point values are Erlang's: what a binary pattern makes of four or eight octets, and what
a float is written as, is a `Floats`.

The decoder takes nested containers off one text.  `elements` counts the rounds it has left;
`decode` starts it with more rounds than octets, and `parse_cons` is the source's own clause, in
which there are none.
-/
import WotexMatter.Theory.LittleEndian
import WotexMatter.Wire.Request

set_option autoImplicit false

namespace WotexMatter.Tlv

open WotexMatter.Storage WotexMatter.Theory WotexMatter.Wire

/-! ## Elements -/

inductive Tag where
  | anonymous
  | context (id : Int)
  | common (id : Int)
  | implicit (id : Int)
  | qualified (vendor profile id : Int)
  deriving DecidableEq

inductive Width where
  | w8
  | w16
  | w32
  | w64
  deriving DecidableEq

def Width.octets : Width → Nat
  | .w8 => 1
  | .w16 => 2
  | .w32 => 4
  | .w64 => 8

inductive Container where
  | structure : Container
  | array
  | list
  deriving DecidableEq

inductive Scalar (F : Type) where
  | signed (width : Width) (value : Int)
  | unsigned (width : Width) (value : Int)
  | boolean (value : Bool)
  | float32 (value : F)
  | float64 (value : F)
  | utf8 (value : Bytes)
  | bytes (value : Bytes)
  | null
  deriving DecidableEq

inductive Element (F : Type) where
  | scalar (tag : Tag) (value : Scalar F)
  | container (tag : Tag) (kind : Container) (children : List (Element F))

mutual

def Element.decEq {F : Type} [DecidableEq F] :
    (first second : Element F) → Decidable (first = second)
  | .scalar tag value, .scalar tag' value' =>
      decidable_of_iff (tag = tag' ∧ value = value') (by simp)
  | .container tag kind children, .container tag' kind' children' =>
      have := Element.decEqs children children'
      decidable_of_iff (tag = tag' ∧ kind = kind' ∧ children = children') (by simp)
  | .scalar .., .container .. => isFalse nofun
  | .container .., .scalar .. => isFalse nofun

def Element.decEqs {F : Type} [DecidableEq F] :
    (first second : List (Element F)) → Decidable (first = second)
  | [], [] => isTrue rfl
  | first :: rest, second :: rest' =>
      have := Element.decEq first second
      have := Element.decEqs rest rest'
      decidable_of_iff (first = second ∧ rest = rest') (by simp)
  | [], _ :: _ => isFalse nofun
  | _ :: _, [] => isFalse nofun

end

instance {F : Type} [DecidableEq F] : DecidableEq (Element F) := Element.decEq

/-- `type` and `value` of an element. -/
inductive Value (F : Type) where
  | scalar (value : Scalar F)
  | container (kind : Container) (children : List (Element F))

structure Floats (F : Type) where
  decode32 : Bytes → Option F
  decode64 : Bytes → Option F
  encode32 : F → Option Bytes
  encode64 : F → Option Bytes

variable {F : Type}

def Element.tag : Element F → Tag
  | .scalar tag _ => tag
  | .container tag _ _ => tag

def Value.tagged (tag : Tag) : Value F → Element F
  | .scalar value => .scalar tag value
  | .container kind children => .container tag kind children

/-- `valid_children?`. -/
def validChildren : Value F → Bool
  | .container .array children => children.all fun child => child.tag = .anonymous
  | .container .structure children =>
      let tags := children.map Element.tag
      decide (.anonymous ∉ tags) && decide tags.Nodup
  | _ => true

/-! ## Decoding -/

/-- `tag`. -/
def tag (control : Nat) (rest : Bytes) : Option (Tag × Bytes) :=
  match control with
  | 0 => some (.anonymous, rest)
  | 1 => do
      let (id, rest) ← LittleEndian.read 1 rest
      some (.context id, rest)
  | 2 => do
      let (id, rest) ← LittleEndian.read 2 rest
      some (.common id, rest)
  | 3 => do
      let (id, rest) ← LittleEndian.read 4 rest
      some (.common id, rest)
  | 4 => do
      let (id, rest) ← LittleEndian.read 2 rest
      some (.implicit id, rest)
  | 5 => do
      let (id, rest) ← LittleEndian.read 4 rest
      some (.implicit id, rest)
  | 6 => do
      let (vendor, rest) ← LittleEndian.read 2 rest
      let (profile, rest) ← LittleEndian.read 2 rest
      let (id, rest) ← LittleEndian.read 2 rest
      some (.qualified vendor profile id, rest)
  | 7 => do
      let (vendor, rest) ← LittleEndian.read 2 rest
      let (profile, rest) ← LittleEndian.read 2 rest
      let (id, rest) ← LittleEndian.read 4 rest
      some (.qualified vendor profile id, rest)
  | _ => none

def signedValue (width : Width) (rest : Bytes) : Option (Scalar F × Bytes) := do
  let (value, rest) ← LittleEndian.read width.octets rest
  some (.signed width (LittleEndian.ofTwos width.octets value), rest)

def unsignedValue (width : Width) (rest : Bytes) : Option (Scalar F × Bytes) := do
  let (value, rest) ← LittleEndian.read width.octets rest
  some (.unsigned width value, rest)

def floatValue (width : Nat) (decode : Bytes → Option F) (make : F → Scalar F) (rest : Bytes) :
    Option (Scalar F × Bytes) :=
  if width ≤ rest.length then
    (decode (rest.take width)).map fun value => (make value, rest.drop width)
  else none

/-- The types 12 to 19: text and octets behind a length of `1 <<< rem(type, 4)` octets. -/
def binaryValue (type : Nat) (rest : Bytes) : Option (Scalar F × Bytes) := do
  let (size, rest) ← LittleEndian.read (1 <<< (type % 4)) rest
  if size ≤ 65536 ∧ size ≤ rest.length then
    if 16 ≤ type then some (.bytes (rest.take size), rest.drop size)
    else if stringValid (rest.take size) then some (.utf8 (rest.take size), rest.drop size)
    else none
  else none

/-- The clauses of `value` for a type without children. -/
def scalarValue (floats : Floats F) (type : Nat) (rest : Bytes) : Option (Scalar F × Bytes) :=
  match type with
  | 0 => signedValue .w8 rest
  | 1 => signedValue .w16 rest
  | 2 => signedValue .w32 rest
  | 3 => signedValue .w64 rest
  | 4 => unsignedValue .w8 rest
  | 5 => unsignedValue .w16 rest
  | 6 => unsignedValue .w32 rest
  | 7 => unsignedValue .w64 rest
  | 8 => some (.boolean false, rest)
  | 9 => some (.boolean true, rest)
  | 10 => floatValue 4 floats.decode32 .float32 rest
  | 11 => floatValue 8 floats.decode64 .float64 rest
  | 20 => some (.null, rest)
  | type => if 12 ≤ type ∧ type ≤ 19 then binaryValue type rest else none

def Container.ofType : Nat → Option Container
  | 21 => some .structure
  | 22 => some .array
  | 23 => some .list
  | _ => none

/-- `value`; `children` is `elements(rest, depth + 1, budget, true, [])`. -/
def value (floats : Floats F) (children : Bytes → Nat → Option (List (Element F) × Bytes × Nat))
    (type : Nat) (rest : Bytes) (depth budget : Nat) : Option (Value F × Bytes × Nat) :=
  match Container.ofType type with
  | some kind =>
      if depth < 8 then
        (children rest budget).map fun (inside, rest, budget) =>
          (.container kind inside, rest, budget)
      else none
  | none => (scalarValue floats type rest).map fun (value, rest) => (.scalar value, rest, budget)

/-- `elements`. -/
def elements (floats : Floats F) :
    Nat → Bytes → Nat → Nat → Bool → List (Element F) → Option (List (Element F) × Bytes × Nat)
  | 0, _, _, _, _, _ => none
  | _ + 1, [], _, budget, nested, acc =>
      if nested then none else some (acc.reverse, [], budget)
  | rounds + 1, control :: rest, depth, budget, nested, acc =>
      if nested ∧ control = 24 then some (acc.reverse, rest, budget)
      else if depth ≤ 8 ∧ 0 < budget then
        match tag (control.toNat / 32) rest with
        | none => none
        | some (tag, rest) =>
            match value floats
                (fun rest budget => elements floats rounds rest (depth + 1) budget true [])
                (control.toNat % 32) rest depth (budget - 1) with
            | none => none
            | some (found, rest, budget) =>
                if validChildren found then
                  elements floats rounds rest depth budget nested (found.tagged tag :: acc)
                else none
      else none

/-- `elements` with more rounds than there are octets. -/
def parse (floats : Floats F) (bytes : Bytes) (depth budget : Nat) (nested : Bool)
    (acc : List (Element F)) : Option (List (Element F) × Bytes × Nat) :=
  elements floats (bytes.length + 1) bytes depth budget nested acc

def decode (floats : Floats F) (bytes : Bytes) : Option (List (Element F)) :=
  if bytes.length ≤ 65536 then
    match parse floats bytes 0 1024 false [] with
    | some (values, [], _) => some values
    | _ => none
  else none

/-! ## Encoding -/

/-- `encode_tag`. -/
def encodeTag : Tag → Option (Nat × Bytes)
  | .anonymous => some (0, [])
  | .context id => if 0 ≤ id ∧ id ≤ 255 then some (1, LittleEndian.toBytes 1 id.toNat) else none
  | .common id =>
      if 0 ≤ id ∧ id ≤ 65535 then some (2, LittleEndian.toBytes 2 id.toNat)
      else if 0 ≤ id ∧ id ≤ 4294967295 then some (3, LittleEndian.toBytes 4 id.toNat)
      else none
  | .implicit id =>
      if 0 ≤ id ∧ id ≤ 65535 then some (4, LittleEndian.toBytes 2 id.toNat)
      else if 0 ≤ id ∧ id ≤ 4294967295 then some (5, LittleEndian.toBytes 4 id.toNat)
      else none
  | .qualified vendor profile id =>
      if 0 ≤ vendor ∧ vendor ≤ 65535 ∧ 0 ≤ profile ∧ profile ≤ 65535 ∧ 0 ≤ id ∧
          id ≤ 4294967295 then
        let front := LittleEndian.toBytes 2 vendor.toNat ++ LittleEndian.toBytes 2 profile.toNat
        if id ≤ 65535 then some (6, front ++ LittleEndian.toBytes 2 id.toNat)
        else some (7, front ++ LittleEndian.toBytes 4 id.toNat)
      else none

def Width.signedType : Width → Nat
  | .w8 => 0
  | .w16 => 1
  | .w32 => 2
  | .w64 => 3

def Width.unsignedType : Width → Nat
  | .w8 => 4
  | .w16 => 5
  | .w32 => 6
  | .w64 => 7

def Container.type : Container → Nat
  | .structure => 21
  | .array => 22
  | .list => 23

/-- The clause of `encode_value` for text and octets. -/
def encodeBinary (base : Nat) (value : Bytes) : Option (Nat × Bytes) :=
  if value.length ≤ 65535 then
    if value.length ≤ 255 then some (base, LittleEndian.toBytes 1 value.length ++ value)
    else some (base + 1, LittleEndian.toBytes 2 value.length ++ value)
  else none

/-- The clauses of `encode_value` for a type without children. -/
def encodeScalar (floats : Floats F) : Scalar F → Option (Nat × Bytes)
  | .signed width value =>
      if LittleEndian.Signed width.octets value then
        some (width.signedType,
          LittleEndian.toBytes width.octets (LittleEndian.toTwos width.octets value))
      else none
  | .unsigned width value =>
      if 0 ≤ value ∧ value < 256 ^ width.octets then
        some (width.unsignedType, LittleEndian.toBytes width.octets value.toNat)
      else none
  | .boolean value => some (if value then 9 else 8, [])
  | .float32 value => (floats.encode32 value).map fun body => (10, body)
  | .float64 value => (floats.encode64 value).map fun body => (11, body)
  | .null => some (20, [])
  | .utf8 value => encodeBinary 12 value
  | .bytes value => encodeBinary 16 value

mutual

/-- `encode_elements`. -/
def encodeElements (floats : Floats F) : List (Element F) → Nat → Nat → Option (Bytes × Nat)
  | [], _, budget => some ([], budget)
  | element :: tail, depth, budget =>
      if depth ≤ 8 ∧ 0 < budget then do
        let (tagControl, tagBytes) ← encodeTag element.tag
        let (typeControl, body, budget) ← encodeValue floats element depth (budget - 1)
        let (tail, budget) ← encodeElements floats tail depth budget
        if body.length + tail.length < 65536 then
          some (UInt8.ofNat (tagControl * 32 + typeControl) :: (tagBytes ++ (body ++ tail)), budget)
        else none
      else none

/-- `encode_value`. -/
def encodeValue (floats : Floats F) : Element F → Nat → Nat → Option (Nat × Bytes × Nat)
  | .scalar _ value, _, budget =>
      (encodeScalar floats value).map fun (typeControl, body) => (typeControl, body, budget)
  | .container _ kind children, depth, budget =>
      if depth < 8 then do
        let (body, budget) ← encodeElements floats children (depth + 1) budget
        some (kind.type, body ++ [24], budget)
      else none

end

def encode (floats : Floats F) (values : List (Element F)) : Option Bytes := do
  let (bytes, _) ← encodeElements floats values 0 1024
  if bytes.length ≤ 65536 ∧ (decode floats bytes).isSome then some bytes else none

/-- `validate_element`. -/
def validateElement (floats : Floats F) (element : Element F) : Option (Element F) :=
  if element.tag = .anonymous then
    match (encode floats [element]).bind (decode floats) with
    | some [normalized] => some normalized
    | _ => none
  else none

end WotexMatter.Tlv
