/-
# WotexMatter.Wire.BoundedSax -- what the host lets off the wire

`BoundedSax` and `ParseBounded` of `native/src/protocol.cpp`.  A line is read twice: once
for its events, which `BoundedSax` counts and may stop, and once into a document.  Both
readings are nlohmann/json, which is not part of the repository: a `JsonReader` is the
events it delivers for a text and the document it parses.

The limits are about the document, not about the order of the events.  `Admissible` says
what they come to for the tree, and `run_document` that the events of an admissible
document pass, from any state that has room for them.
-/
import WotexMatter.Storage.StateDocument

set_option autoImplicit false

namespace WotexMatter.Wire

open WotexMatter.Storage

/-! ## Events -/

/-- The calls of `nlohmann::json_sax`. -/
inductive SaxEvent where
  | null
  | boolean (value : Bool)
  | numberInteger (value : Int)
  | numberUnsigned (value : UInt64)
  | numberFloat (literal : Bytes)
  | string (value : Bytes)
  | binary (value : Bytes)
  | startObject
  | key (name : Bytes)
  | endObject
  | startArray
  | endArray
  | parseError
  deriving DecidableEq

mutual

/-- The events of a document, in the order of its text. -/
def saxEvents : Json → List SaxEvent
  | .null => [.null]
  | .boolean value => [.boolean value]
  | .unsigned value => [.numberUnsigned value]
  | .integer value => [.numberInteger value]
  | .floating literal => [.numberFloat literal]
  | .string value => [.string value]
  | .array items => .startArray :: (itemSaxEvents items ++ [.endArray])
  | .object members => .startObject :: (memberSaxEvents members ++ [.endObject])

def itemSaxEvents : List Json → List SaxEvent
  | [] => []
  | item :: rest => saxEvents item ++ itemSaxEvents rest

def memberSaxEvents : List (Bytes × Json) → List SaxEvent
  | [] => []
  | (name, value) :: rest => .key name :: (saxEvents value ++ memberSaxEvents rest)

end

/-! ## The handler -/

def kMaximumFrameBytes : Nat := 131072

def kMaximumSaxDepth : Nat := 24

def kMaximumCollectionEntries : Nat := 1024

def kMaximumSaxNodes : Nat := 4096

inductive Collection where
  | object
  | array
  deriving DecidableEq

/-- The backs of `collections_`, `counts_` and `keys_`, which grow and shrink together. -/
structure Level where
  collection : Collection
  count : Nat
  keys : Finset Bytes

/-- `BoundedSax`; the innermost collection is the first. -/
structure BoundedSax where
  nodes : Nat
  levels : List Level

namespace BoundedSax

def initial : BoundedSax := { nodes := 0, levels := [] }

/-- `++nodes_ <= kMaximumNodes`. -/
def countNode (sax : BoundedSax) : Option BoundedSax :=
  if sax.nodes + 1 ≤ kMaximumSaxNodes then some { sax with nodes := sax.nodes + 1 } else none

/-- `Value`. -/
def value (sax : BoundedSax) : Option BoundedSax :=
  match sax.levels with
  | ⟨.array, count, keys⟩ :: outer =>
      if count + 1 ≤ kMaximumCollectionEntries then
        countNode { sax with levels := ⟨.array, count + 1, keys⟩ :: outer }
      else none
  | _ => countNode sax

/-- `StartCollection`. -/
def startCollection (collection : Collection) (sax : BoundedSax) : Option BoundedSax := do
  let sax ← value sax
  if sax.levels.length + 1 ≤ kMaximumSaxDepth then
    some { sax with levels := ⟨collection, 0, ∅⟩ :: sax.levels }
  else none

/-- `EndCollection`. -/
def endCollection (expected : Collection) (sax : BoundedSax) : Option BoundedSax :=
  match sax.levels with
  | level :: outer => if level.collection = expected then some { sax with levels := outer } else none
  | [] => none

/-- `key`. -/
def key (name : Bytes) (sax : BoundedSax) : Option BoundedSax :=
  match sax.levels with
  | ⟨.object, count, keys⟩ :: outer =>
      if count + 1 ≤ kMaximumCollectionEntries ∧ sax.nodes + 1 ≤ kMaximumSaxNodes ∧ name ∉ keys then
        some { nodes := sax.nodes + 1, levels := ⟨.object, count + 1, insert name keys⟩ :: outer }
      else none
  | _ => none

/-- One call; `none` where it returns false, which ends the reading. -/
def call (sax : BoundedSax) : SaxEvent → Option BoundedSax
  | .null => value sax
  | .boolean _ => value sax
  | .numberInteger _ => value sax
  | .numberUnsigned _ => value sax
  | .numberFloat _ => value sax
  | .string _ => value sax
  | .binary _ => none
  | .startObject => startCollection .object sax
  | .key name => key name sax
  | .endObject => endCollection .object sax
  | .startArray => startCollection .array sax
  | .endArray => endCollection .array sax
  | .parseError => none

def run (sax : BoundedSax) : List SaxEvent → Option BoundedSax
  | [] => some sax
  | event :: rest => (call sax event).bind fun sax => run sax rest

end BoundedSax

/-- `nlohmann::json::sax_parse` as the events it delivers (a text that is not JSON ends in
`parse_error`), and `nlohmann::json::parse` without exceptions. -/
structure JsonReader where
  events : Bytes → List SaxEvent
  parse : Bytes → Option Json

/-- `ParseBounded`. -/
def parseBounded (reader : JsonReader) (line : Bytes) : Option Json :=
  if line = [] ∨ kMaximumFrameBytes < line.length + 1 ∨ 0 ∈ line then none
  else
    match BoundedSax.initial.run (reader.events line) with
    | some _ => reader.parse line
    | none => none

/-! ## Documents within the limits -/

mutual

/-- The nodes of a document, keys included. -/
def nodeCount : Json → Nat
  | .array items => 1 + itemNodes items
  | .object members => 1 + memberNodes members
  | _ => 1

def itemNodes : List Json → Nat
  | [] => 0
  | item :: rest => nodeCount item + itemNodes rest

def memberNodes : List (Bytes × Json) → Nat
  | [] => 0
  | (_, value) :: rest => 1 + nodeCount value + memberNodes rest

end

/-- A document that may stand inside `depth` collections: every collection is within depth
and entries, and no object says a key twice. -/
inductive Admissible : Nat → Json → Prop where
  | null (depth : Nat) : Admissible depth .null
  | boolean (depth : Nat) (value : Bool) : Admissible depth (.boolean value)
  | unsigned (depth : Nat) (value : UInt64) : Admissible depth (.unsigned value)
  | integer (depth : Nat) (value : Int) : Admissible depth (.integer value)
  | string (depth : Nat) (value : Bytes) : Admissible depth (.string value)
  | array {depth : Nat} {items : List Json} (shallow : depth < kMaximumSaxDepth)
      (few : items.length ≤ kMaximumCollectionEntries)
      (inside : ∀ item ∈ items, Admissible (depth + 1) item) : Admissible depth (.array items)
  | object {depth : Nat} {members : List (Bytes × Json)} (shallow : depth < kMaximumSaxDepth)
      (few : members.length ≤ kMaximumCollectionEntries)
      (keys : (members.map Prod.fst).Nodup)
      (inside : ∀ member ∈ members, Admissible (depth + 1) member.2) :
      Admissible depth (.object members)

namespace BoundedSax

/-- The innermost collection has room for one more value. -/
def Room (sax : BoundedSax) : Prop :=
  match sax.levels with
  | ⟨.array, count, _⟩ :: _ => count < kMaximumCollectionEntries
  | _ => True

/-- The levels once a value is counted. -/
def counted : List Level → List Level
  | ⟨.array, count, keys⟩ :: outer => ⟨.array, count + 1, keys⟩ :: outer
  | levels => levels

@[simp]
theorem length_counted (levels : List Level) : (counted levels).length = levels.length := by
  unfold counted
  split <;> rfl

theorem value_eq {sax : BoundedSax} (room : sax.Room) (fits : sax.nodes + 1 ≤ kMaximumSaxNodes) :
    value sax = some { nodes := sax.nodes + 1, levels := counted sax.levels } := by
  obtain ⟨nodes, levels⟩ := sax
  match levels with
  | [] => simp [value, countNode, counted, fits]
  | ⟨.object, count, keys⟩ :: outer => simp [value, countNode, counted, fits]
  | ⟨.array, count, keys⟩ :: outer =>
      have entry : count + 1 ≤ kMaximumCollectionEntries := room
      simp [value, countNode, counted, fits, entry]

theorem startCollection_eq {sax : BoundedSax} (collection : Collection) (room : sax.Room)
    (fits : sax.nodes + 1 ≤ kMaximumSaxNodes) (shallow : sax.levels.length < kMaximumSaxDepth) :
    startCollection collection sax =
      some { nodes := sax.nodes + 1, levels := ⟨collection, 0, ∅⟩ :: counted sax.levels } := by
  have deeper : (counted sax.levels).length + 1 ≤ kMaximumSaxDepth := by
    rw [length_counted]
    exact shallow
  rw [startCollection, value_eq room fits, Option.bind_eq_bind, Option.bind_some, if_pos deeper]

/-- What the events of a document do from a state: they count its nodes, count it in the
array around it, and leave everything else. -/
def Passes (depth : Nat) (document : Json) : Prop :=
  ∀ (sax : BoundedSax) (rest : List SaxEvent), sax.levels.length = depth → sax.Room →
    sax.nodes + nodeCount document ≤ kMaximumSaxNodes →
      sax.run (saxEvents document ++ rest) =
        run { nodes := sax.nodes + nodeCount document, levels := counted sax.levels } rest

/-- The items of an array pass one after the other. -/
theorem run_items {depth : Nat} {items : List Json} (inside : ∀ item ∈ items, Passes (depth + 1) item)
    (count : Nat) (few : count + items.length ≤ kMaximumCollectionEntries) (keys : Finset Bytes)
    (outer : List Level) (level : outer.length = depth) (used : Nat)
    (fits : used + itemNodes items ≤ kMaximumSaxNodes) (rest : List SaxEvent) :
    run { nodes := used, levels := ⟨.array, count, keys⟩ :: outer } (itemSaxEvents items ++ rest) =
      run { nodes := used + itemNodes items, levels := ⟨.array, count + items.length, keys⟩ :: outer }
        rest := by
  induction items generalizing count used with
  | nil => rfl
  | cons item more ih =>
      simp only [itemNodes] at fits ⊢
      simp only [List.length_cons] at few ⊢
      have room : Room { nodes := used, levels := ⟨.array, count, keys⟩ :: outer } := by
        show count < kMaximumCollectionEntries
        omega
      have first := inside item List.mem_cons_self
        { nodes := used, levels := ⟨.array, count, keys⟩ :: outer }
        (itemSaxEvents more ++ rest) (by simp [level]) room (by show used + nodeCount item ≤ _; omega)
      have later := ih (fun item present => inside item (List.mem_cons_of_mem _ present)) (count + 1)
        (by omega) (used + nodeCount item) (by omega)
      rw [itemSaxEvents, List.append_assoc, first]
      show run { nodes := used + nodeCount item, levels := ⟨.array, count + 1, keys⟩ :: outer } _ = _
      rw [later, Nat.add_assoc, Nat.add_assoc count, Nat.add_comm 1]

/-- The members of an object pass if no key is there yet and none comes twice. -/
theorem run_members {depth : Nat} {members : List (Bytes × Json)}
    (inside : ∀ member ∈ members, Passes (depth + 1) member.2)
    (distinct : (members.map Prod.fst).Nodup) (count : Nat)
    (few : count + members.length ≤ kMaximumCollectionEntries) (keys : Finset Bytes)
    (fresh : ∀ name ∈ members.map Prod.fst, name ∉ keys)
    (outer : List Level) (level : outer.length = depth) (used : Nat)
    (fits : used + memberNodes members ≤ kMaximumSaxNodes) (rest : List SaxEvent) :
    ∃ after, run { nodes := used, levels := ⟨.object, count, keys⟩ :: outer }
        (memberSaxEvents members ++ rest) =
      run { nodes := used + memberNodes members,
            levels := ⟨.object, count + members.length, after⟩ :: outer } rest := by
  induction members generalizing count used keys with
  | nil => exact ⟨keys, rfl⟩
  | cons member more ih =>
      obtain ⟨name, value⟩ := member
      simp only [memberNodes] at fits ⊢
      simp only [List.length_cons] at few ⊢
      rw [List.map_cons, List.nodup_cons] at distinct
      have unseen : name ∉ keys := fresh name (by simp)
      have entered : key name { nodes := used, levels := ⟨.object, count, keys⟩ :: outer } =
          some { nodes := used + 1, levels := ⟨.object, count + 1, insert name keys⟩ :: outer } := by
        have entry : count + 1 ≤ kMaximumCollectionEntries := by omega
        have node : used + 1 ≤ kMaximumSaxNodes := by omega
        simp [key, entry, node, unseen]
      have first := inside (name, value) List.mem_cons_self
        { nodes := used + 1, levels := ⟨.object, count + 1, insert name keys⟩ :: outer }
        (memberSaxEvents more ++ rest) (by simp [level]) trivial
        (by show used + 1 + nodeCount value ≤ _; omega)
      -- no later key is the one just entered
      have still : ∀ later ∈ more.map Prod.fst, later ∉ insert name keys := by
        intro later listed present
        rcases Finset.mem_insert.mp present with rfl | old
        · exact distinct.1 listed
        · exact fresh later (List.mem_cons_of_mem _ listed) old
      obtain ⟨after, later⟩ := ih
        (fun member present => inside member (List.mem_cons_of_mem _ present)) distinct.2
        (count + 1) (by omega) (insert name keys) still (used + 1 + nodeCount value) (by omega)
      refine ⟨after, ?_⟩
      rw [memberSaxEvents, List.cons_append, List.append_assoc, run, call, entered,
        Option.bind_some, first]
      show run { nodes := used + 1 + nodeCount value,
                 levels := ⟨.object, count + 1, insert name keys⟩ :: outer } _ = _
      rw [later, Nat.add_assoc count, Nat.add_comm 1]
      congr 2
      omega

/-- **The events of an admissible document pass**, wherever there is room for its nodes. -/
theorem run_document {depth : Nat} {document : Json} (admissible : Admissible depth document) :
    Passes depth document := by
  induction admissible with
  | null | boolean | unsigned | integer | string =>
      intro sax rest _ room fits
      simp only [saxEvents, List.singleton_append, run, call, nodeCount] at fits ⊢
      rw [value_eq room fits, Option.bind_some]
  | @array depth items shallow few inside passes =>
      intro sax rest level room fits
      simp only [nodeCount] at fits ⊢
      have begun := startCollection_eq .array room (by omega) (by omega)
      have filled := run_items passes 0 (by omega) ∅ (counted sax.levels) (by simpa using level)
        (sax.nodes + 1) (by omega) (.endArray :: rest)
      rw [saxEvents, List.cons_append, List.append_assoc, run, call, begun, Option.bind_some,
        List.singleton_append, filled, run]
      simp only [call, endCollection, if_true, Option.bind_some]
      rw [Nat.add_assoc]
  | @object depth members shallow few keys inside passes =>
      intro sax rest level room fits
      simp only [nodeCount] at fits ⊢
      have begun := startCollection_eq .object room (by omega) (by omega)
      obtain ⟨after, filled⟩ := run_members passes keys 0 (by omega) ∅ (by simp)
        (counted sax.levels) (by simpa using level) (sax.nodes + 1) (by omega) (.endObject :: rest)
      rw [saxEvents, List.cons_append, List.append_assoc, run, call, begun, Option.bind_some,
        List.singleton_append, filled, run]
      simp only [call, endCollection, if_true, Option.bind_some]
      rw [Nat.add_assoc]

end BoundedSax

end WotexMatter.Wire
