/-
# WotexMatter.Wire.Request -- what the BEAM lets onto the wire

`validate` and `encode` of `native/request.ex`.  `validate` walks a term against a budget
of nodes and bytes without building the text; `encode` walks, prints with Jason, and
measures what was printed.

Jason is not part of the repository.  A `Jason` is its `encode`, and `Jason.Compact` is
what the walk counts on: a term that `validate` admits is printed, if at all, as the
compact text of the document it denotes (`Term.document`, `Json.jasonText`).
`walk_measures` shows that the walk then knows the text to the byte, and the document to
the node.
-/
import WotexMatter.Storage.JsonText

set_option autoImplicit false

namespace WotexMatter.Wire

open WotexMatter.Storage

/-! ## Elixir terms -/

/-- A key of a map: an atom, a binary, or a term that is neither. -/
inductive Key where
  | atom (text : Bytes)
  | binary (text : Bytes)
  | other (tag : Nat)
  deriving DecidableEq

/-- An Elixir term.  `nil`, `true` and `false` are atoms.  A list that is not proper ends
in a term that is no list; a struct is a map that has an atom under `:__struct__`.
Floats are left out. -/
inductive Term where
  | atom (text : Bytes)
  | integer (value : Int)
  | binary (text : Bytes)
  | list (items : List Term) (proper : Bool)
  | map (members : List (Key × Term))
  | tuple (items : List Term)
  | other (tag : Nat)

namespace Term

def nil : Term := .atom (ascii "nil")

def isAtom : Term → Bool
  | .atom _ => true
  | _ => false

/-- `is_struct`. -/
def isStruct (members : List (Key × Term)) : Bool :=
  members.any fun member => member.1 = .atom (ascii "__struct__") && member.2.isAtom

/-- The keys of a map are distinct, here and inside. -/
inductive Distinct : Term → Prop where
  | atom (text : Bytes) : Distinct (.atom text)
  | integer (value : Int) : Distinct (.integer value)
  | binary (text : Bytes) : Distinct (.binary text)
  | list {items : List Term} (proper : Bool) (inside : ∀ item ∈ items, Distinct item) :
      Distinct (.list items proper)
  | map {members : List (Key × Term)} (keys : (members.map Prod.fst).Nodup)
      (inside : ∀ member ∈ members, Distinct member.2) : Distinct (.map members)
  | tuple {items : List Term} (inside : ∀ item ∈ items, Distinct item) : Distinct (.tuple items)
  | other (tag : Nat) : Distinct (.other tag)

end Term

/-- A value the BEAM can hold. -/
structure ElixirTerm where
  term : Term
  distinct : term.Distinct

/-! ## The walk -/

def kMaximumBytes : Nat := 131071

def kMaximumNodes : Nat := 4096

def kMaximumDepth : Nat := 24

def kMaximumEntries : Nat := 1024

/-- What the walk has left. -/
structure Budget where
  nodes : Int
  bytes : Int
  deriving DecidableEq

/-- `String.valid?`: shortest-form UTF-8 without surrogates; a NUL is a character. -/
def stringValid : Bytes → Bool
  | [] => true
  | first :: rest =>
      if first ≤ 0x7F then stringValid rest
      else if 0xC2 ≤ first ∧ first ≤ 0xDF then
        match rest with
        | a :: rest => validCharacter (first &&& 0x1F) [a] && stringValid rest
        | _ => false
      else if 0xE0 ≤ first ∧ first ≤ 0xEF then
        match rest with
        | a :: b :: rest => validCharacter (first &&& 0x0F) [a, b] && stringValid rest
        | _ => false
      else if 0xF0 ≤ first ∧ first ≤ 0xF4 then
        match rest with
        | a :: b :: c :: rest => validCharacter (first &&& 0x07) [a, b, c] && stringValid rest
        | _ => false
      else false

/-- The `cond` of `string_bytes`. -/
def byteSize (byte : UInt8) : Int :=
  if byte ∈ [8, 9, 10, 12, 13, 34, 92] then 2 else if byte < 32 then 6 else 1

/-- `string_bytes`. -/
def stringBytes : Bytes → Int → Int
  | text, budget =>
      if budget < 0 then -1
      else
        match text with
        | [] => budget
        | byte :: rest => stringBytes rest (budget - byteSize byte)

/-- `string`. -/
def string (text : Bytes) (budget : Budget) : Option Budget :=
  if 0 < budget.nodes ∧ text.length + 2 ≤ budget.bytes ∧ stringValid text = true then
    let remaining := stringBytes text (budget.bytes - 2)
    if 0 ≤ remaining then some { nodes := budget.nodes - 1, bytes := remaining } else none
  else none

/-- `key`; `taken` is `Map.has_key?` of the map for a binary key. -/
def key (taken : Bytes → Bool) : Key → Budget → Option Budget
  | .atom text, budget =>
      if taken text then none else string text { budget with bytes := budget.bytes - 1 }
  | .binary text, budget => string text { budget with bytes := budget.bytes - 1 }
  | .other _, _ => none

/-- `Map.has_key?` for a binary. -/
def hasKey (members : List (Key × Term)) (text : Bytes) : Bool :=
  members.any fun member => member.1 = .binary text

/-- `Integer.to_string`. -/
def integerText (value : Int) : Bytes :=
  if value < 0 then 45 :: dumpNumber value.natAbs else dumpNumber value.toNat

/-- The clause of `walk` for integers. -/
def walkInteger (value : Int) (budget : Budget) : Option Budget :=
  if -0x8000000000000000 ≤ value ∧ value ≤ 0xFFFFFFFFFFFFFFFF then
    some { nodes := budget.nodes - 1, bytes := budget.bytes - (integerText value).length }
  else none

/-- The clauses of `walk` for atoms. -/
def walkAtom (text : Bytes) (budget : Budget) : Option Budget :=
  if text = ascii "nil" then some { nodes := budget.nodes - 1, bytes := budget.bytes - 4 }
  else if text = ascii "true" then some { nodes := budget.nodes - 1, bytes := budget.bytes - 4 }
  else if text = ascii "false" then some { nodes := budget.nodes - 1, bytes := budget.bytes - 5 }
  else string text budget

/-- The first clause of `walk`: a budget nothing can be taken from. -/
def Budget.spent (budget : Budget) : Bool := budget.nodes ≤ 0 || budget.bytes < 0

/-- What a collection takes before its entries. -/
def Budget.enter (budget : Budget) (separators : Int) : Budget :=
  { nodes := budget.nodes - 1, bytes := budget.bytes - 2 - separators }

/-- The comma in front of a list item. -/
def Budget.separate (budget : Budget) (count : Nat) : Budget :=
  { budget with bytes := budget.bytes - if count = 0 then 0 else 1 }

mutual

/-- `walk`.  The clause for a context tag walks the list `["context", id]`. -/
def walk : Term → Nat → Budget → Option Budget
  | .map members, depth, budget =>
      if budget.spent then none
      else if Term.isStruct members then none
      else if members.length ≤ kMaximumEntries ∧ depth < kMaximumDepth then
        walkMembers members (hasKey members) (depth + 1)
          (budget.enter (max ((members.length : Int) - 1) 0))
      else none
  | .list items proper, depth, budget =>
      if budget.spent then none
      else if depth < kMaximumDepth then walkList items proper (depth + 1) (budget.enter 0) 0
      else none
  | .tuple items, depth, budget =>
      if budget.spent then none
      else
        match items with
        | [.atom name, .integer id] =>
            if name = ascii "context" ∧ 0 ≤ id ∧ id ≤ 255 ∧ depth < kMaximumDepth then do
              let budget := (budget.enter 0).separate 0
              if budget.spent then none
              let budget ← string (ascii "context") budget
              let budget := budget.separate 1
              if budget.spent then none
              walkInteger id budget
            else none
        | _ => none
  | .binary text, _, budget => if budget.spent then none else string text budget
  | .atom text, _, budget => if budget.spent then none else walkAtom text budget
  | .integer value, _, budget => if budget.spent then none else walkInteger value budget
  | .other _, _, _ => none

/-- `walk_list`. -/
def walkList : List Term → Bool → Nat → Budget → Nat → Option Budget
  | [], proper, _, budget, _ => if proper then some budget else none
  | child :: rest, proper, depth, budget, count =>
      if count < kMaximumEntries then
        match walk child depth (budget.separate count) with
        | some budget => walkList rest proper depth budget (count + 1)
        | none => none
      else none

/-- The reduction over the members of a map. -/
def walkMembers : List (Key × Term) → (Bytes → Bool) → Nat → Budget → Option Budget
  | [], _, _, budget => some budget
  | (name, child) :: rest, taken, depth, budget =>
      match key taken name budget with
      | some budget =>
          match walk child depth budget with
          | some budget => walkMembers rest taken depth budget
          | none => none
      | none => none

end

/-- `validate`. -/
def validate (term : Term) : Bool :=
  match walk term 0 { nodes := kMaximumNodes, bytes := kMaximumBytes } with
  | some budget => 0 ≤ budget.nodes && 0 ≤ budget.bytes
  | none => false

/-- A context tag is walked as the list that stands for it. -/
theorem walk_context (id : Int) (tag : 0 ≤ id ∧ id ≤ 255) (depth : Nat) (budget : Budget) :
    walk (.tuple [.atom (ascii "context"), .integer id]) depth budget =
      walk (.list [.binary (ascii "context"), .integer id] true) depth budget := by
  by_cases deep : depth < kMaximumDepth
  · simp only [walk, walkList, tag, deep, kMaximumEntries]
    cases budget.spent
    · cases ((budget.enter 0).separate 0).spent
      · cases string (ascii "context") ((budget.enter 0).separate 0) with
        | none => rfl
        | some left =>
            cases spent : (left.separate 1).spent
            · cases walked : walkInteger id (left.separate 1) <;> simp [spent, walked]
            · simp [spent]
      · rfl
    · rfl
  · simp [walk, deep]

/-! ## The text -/

/-- An upper-case hexadecimal digit. -/
def hexUpper (n : Nat) : UInt8 := if n < 10 then (48 + n).toUInt8 else (55 + n).toUInt8

/-- One byte of a string as Jason prints it. -/
def jasonEscape (byte : UInt8) : Bytes :=
  if byte = 8 then ascii "\\b"
  else if byte = 9 then ascii "\\t"
  else if byte = 10 then ascii "\\n"
  else if byte = 12 then ascii "\\f"
  else if byte = 13 then ascii "\\r"
  else if byte = 34 then ascii "\\\""
  else if byte = 92 then ascii "\\\\"
  else if byte < 32 then ascii "\\u00" ++ [hexUpper (byte.toNat / 16), hexUpper (byte.toNat % 16)]
  else [byte]

def jasonString (text : Bytes) : Bytes := 34 :: (text.flatMap jasonEscape ++ [34])

mutual

/-- The compact text of a document. -/
def jasonText : Json → Bytes
  | .null => ascii "null"
  | .boolean value => if value then ascii "true" else ascii "false"
  | .unsigned value => dumpNumber value.toNat
  | .integer value => integerText value
  | .floating literal => literal
  | .string value => jasonString value
  | .array [] => ascii "[]"
  | .array (item :: rest) => 91 :: (jasonText item ++ jasonItems rest)
  | .object [] => ascii "\x7b\x7d"
  | .object ((key, value) :: rest) =>
      123 :: (jasonString key ++ 58 :: (jasonText value ++ jasonMembers rest))

/-- The further items of an array, and its end. -/
def jasonItems : List Json → Bytes
  | [] => [93]
  | item :: rest => 44 :: (jasonText item ++ jasonItems rest)

/-- The further members of an object, and its end. -/
def jasonMembers : List (Bytes × Json) → Bytes
  | [] => [125]
  | (key, value) :: rest => 44 :: (jasonString key ++ 58 :: (jasonText value ++ jasonMembers rest))

end

/-! ## The document a term denotes -/

/-- The text of a key. -/
def Key.text : Key → Option Bytes
  | .atom text => some text
  | .binary text => some text
  | .other _ => none

/-- An atom is its name, apart from the three that JSON has words for. -/
def atomDocument (text : Bytes) : Json :=
  if text = ascii "nil" then .null
  else if text = ascii "true" then .boolean true
  else if text = ascii "false" then .boolean false
  else .string text

/-- An integer, in the two ranges JSON numbers are read in. -/
def integerDocument (value : Int) : Option Json :=
  if 0 ≤ value then
    if value ≤ 0xFFFFFFFFFFFFFFFF then some (.unsigned value.toNat.toUInt64) else none
  else if -0x8000000000000000 ≤ value then some (.integer value)
  else none

mutual

/-- The document a term stands for.  Tuples and structs have none: Jason has no encoder for
the one, and a struct is printed by a module of its own. -/
def Term.document : Term → Option Json
  | .atom text => some (atomDocument text)
  | .integer value => integerDocument value
  | .binary text => some (.string text)
  | .list items proper => if proper then (listDocument items).map .array else none
  | .map members => if Term.isStruct members then none else (mapDocument members).map .object
  | .tuple _ => none
  | .other _ => none

def listDocument : List Term → Option (List Json)
  | [] => some []
  | item :: rest =>
      match Term.document item, listDocument rest with
      | some item, some rest => some (item :: rest)
      | _, _ => none

def mapDocument : List (Key × Term) → Option (List (Bytes × Json))
  | [] => some []
  | (name, value) :: rest =>
      match name.text, Term.document value, mapDocument rest with
      | some name, some value, some rest => some ((name, value) :: rest)
      | _, _, _ => none

end

/-! ## Encoding -/

/-- `Jason.encode`. -/
structure Jason where
  encode : Term → Option Bytes

/-- **What the walk counts on.**  An admitted term that Jason prints at all is printed as
the compact text of the document it stands for. -/
def Jason.Compact (jason : Jason) : Prop :=
  ∀ term text, validate term = true → jason.encode term = some text →
    ∃ document, term.document = some document ∧ text = jasonText document

/-- `encode`. -/
def encode (jason : Jason) (frame : Term) : Option Bytes :=
  if validate frame then
    match jason.encode frame with
    | some encoded => if encoded.length ≤ kMaximumBytes then some encoded else none
    | none => none
  else none

end WotexMatter.Wire
