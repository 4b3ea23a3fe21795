/-
# WotexMatter.Wire.WalkExact -- the walk refuses nothing that fits

`walk_measures` says what a walk that succeeds has established.  This module goes the other way: a
document within the limits, whose nodes and bytes the budget covers, is walked to the end, although
the budget may fall below zero on the way and is tested in several places.  A context tag is walked
as the list that stands for it (`walk_context`), so terms are compared with their documents once the
tags are lists (`Term.untag`).

`validate_exact` puts the two together.  It is about every term: what stands for no document (a
struct, another tuple, an improper list, a key that is neither atom nor binary, an integer of more
than 64 bits) is refused.
-/
import WotexMatter.Wire.FrameAdmission

set_option autoImplicit false

namespace WotexMatter.Wire

open WotexMatter.Storage

/-! ## Context tags as lists -/

mutual

/-- The term with every context tag replaced by the list that is walked for it. -/
def Term.untag : Term → Term
  | .list items proper => .list (untagItems items) proper
  | .map members => .map (untagMembers members)
  | .tuple [.atom name, .integer id] =>
      if name = ascii "context" ∧ 0 ≤ id ∧ id ≤ 255 then
        .list [.binary (ascii "context"), .integer id] true
      else .tuple [.atom name, .integer id]
  | term => term

def untagItems : List Term → List Term
  | [] => []
  | item :: rest => Term.untag item :: untagItems rest

def untagMembers : List (Key × Term) → List (Key × Term)
  | [] => []
  | (name, value) :: rest => (name, Term.untag value) :: untagMembers rest

end

/-- The document a term stands for on the wire. -/
def Term.wireDocument (term : Term) : Option Json := term.untag.document

theorem untagItems_eq (items : List Term) : untagItems items = items.map Term.untag := by
  induction items with
  | nil => rfl
  | cons item rest ih => rw [untagItems, ih, List.map_cons]

theorem untagMembers_eq (members : List (Key × Term)) :
    untagMembers members = members.map fun member => (member.1, member.2.untag) := by
  induction members with
  | nil => rfl
  | cons member rest ih => rw [untagMembers, ih, List.map_cons]

theorem isAtom_untag (term : Term) : term.untag.isAtom = term.isAtom := by
  unfold Term.untag
  split
  · rfl
  · rfl
  · split <;> rfl
  · rfl

theorem isStruct_untag (members : List (Key × Term)) :
    Term.isStruct (untagMembers members) = Term.isStruct members := by
  rw [untagMembers_eq, Term.isStruct, Term.isStruct, List.any_map]
  simp only [Function.comp_def, isAtom_untag]

theorem hasKey_untag (members : List (Key × Term)) : hasKey (untagMembers members) = hasKey members := by
  funext text
  rw [untagMembers_eq, hasKey, hasKey, List.any_map]
  rfl

theorem keys_untag (members : List (Key × Term)) :
    (untagMembers members).map Prod.fst = members.map Prod.fst := by
  rw [untagMembers_eq, List.map_map]
  rfl

theorem distinct_untag {term : Term} (distinct : term.Distinct) : term.untag.Distinct := by
  induction distinct with
  | atom text => exact .atom text
  | integer value => exact .integer value
  | binary text => exact .binary text
  | list proper _ inside =>
      rw [Term.untag, untagItems_eq]
      exact .list proper (List.forall_mem_map.mpr inside)
  | map keys _ inside =>
      rw [Term.untag]
      refine .map (by rwa [keys_untag]) ?_
      rw [untagMembers_eq]
      exact List.forall_mem_map.mpr inside
  | @tuple items inside _ =>
      unfold Term.untag
      split
      · rename_i same
        cases same
      · rename_i same
        cases same
      · split
        · refine .list true fun item listed => ?_
          rcases List.mem_cons.mp listed with rfl | later
          · exact .binary _
          · rw [List.mem_singleton.mp later]
            exact .integer _
        · rename_i same _
          cases same
          exact .tuple inside
      · exact .tuple inside
  | other tag => exact .other tag

mutual

/-- The walk does not see the difference. -/
theorem walk_untag (term : Term) (depth : Nat) (budget : Budget) :
    walk term.untag depth budget = walk term depth budget := by
  match term with
  | .atom _ => rfl
  | .integer _ => rfl
  | .binary _ => rfl
  | .other _ => rfl
  | .list items proper => rw [Term.untag, walk, walk, walkList_untag items]
  | .map members =>
      rw [Term.untag, walk, walk, isStruct_untag, hasKey_untag, walkMembers_untag members]
      simp only [untagMembers_eq, List.length_map]
  | .tuple items =>
      unfold Term.untag
      split
      · rename_i same
        cases same
      · rename_i same
        cases same
      · rename_i name id same
        cases same
        split
        · rename_i tag
          rw [tag.1, walk_context id tag.2]
        · rfl
      · rfl

theorem walkList_untag (items : List Term) (proper : Bool) (depth : Nat) (budget : Budget)
    (count : Nat) :
    walkList (untagItems items) proper depth budget count = walkList items proper depth budget count := by
  match items with
  | [] => rfl
  | item :: rest =>
      rw [untagItems, walkList, walkList, walk_untag item]
      cases walk item depth (budget.separate count) with
      | none => rfl
      | some after => simp only [walkList_untag rest]

theorem walkMembers_untag (members : List (Key × Term)) (taken : Bytes → Bool) (depth : Nat)
    (budget : Budget) :
    walkMembers (untagMembers members) taken depth budget = walkMembers members taken depth budget := by
  match members with
  | [] => rfl
  | (name, value) :: rest =>
      rw [untagMembers, walkMembers, walkMembers]
      cases key taken name budget with
      | none => rfl
      | some entered =>
          simp only [walk_untag value]
          cases walk value depth entered with
          | none => rfl
          | some after => simp only [walkMembers_untag rest]

end

/-! ## What is walked has a document -/

theorem walkInteger_denotes {value : Int} {budget left : Budget}
    (walked : walkInteger value budget = some left) : ∃ document, integerDocument value = some document := by
  unfold walkInteger at walked
  split at walked
  · rename_i range
    unfold integerDocument
    by_cases positive : 0 ≤ value
    · rw [if_pos positive, if_pos range.2]
      exact ⟨_, rfl⟩
    · rw [if_neg positive, if_pos range.1]
      exact ⟨_, rfl⟩
  · cases walked

mutual

theorem walk_denotes (term : Term) {depth : Nat} {budget left : Budget}
    (walked : walk term depth budget = some left) : ∃ document, term.wireDocument = some document := by
  match term with
  | .atom text => exact ⟨_, rfl⟩
  | .integer value =>
      simp only [walk] at walked
      split at walked
      · cases walked
      · exact walkInteger_denotes walked
  | .binary text => exact ⟨_, rfl⟩
  | .other tag => cases walked
  | .list items proper =>
      simp only [walk] at walked
      split at walked
      · cases walked
      split at walked
      · obtain ⟨isProper, documents, listed⟩ := walkList_denotes items walked
        rw [Term.wireDocument, Term.untag, Term.document, if_pos isProper, listed]
        exact ⟨_, rfl⟩
      · cases walked
  | .map members =>
      simp only [walk] at walked
      split at walked
      · cases walked
      split at walked
      · cases walked
      rename_i plain
      split at walked
      · obtain ⟨documents, listed⟩ := walkMembers_denotes members walked
        rw [Term.wireDocument, Term.untag, Term.document, isStruct_untag, if_neg plain, listed]
        exact ⟨_, rfl⟩
      · cases walked
  | .tuple items =>
      simp only [walk] at walked
      split at walked
      · cases walked
      split at walked
      · rename_i name id
        split at walked
        · rename_i tag
          rw [Term.wireDocument, Term.untag, if_pos ⟨tag.1, tag.2.1, tag.2.2.1⟩]
          have small : id ≤ 0xFFFFFFFFFFFFFFFF := by omega
          simp only [Term.document, if_true, listDocument, integerDocument, if_pos tag.2.1,
            if_pos small]
          exact ⟨_, rfl⟩
        · cases walked
      · cases walked

theorem walkList_denotes (items : List Term) {proper : Bool} {depth count : Nat}
    {budget left : Budget} (walked : walkList items proper depth budget count = some left) :
    proper = true ∧ ∃ documents, listDocument (untagItems items) = some documents := by
  match items with
  | [] =>
      simp only [walkList] at walked
      split at walked
      · rename_i isProper
        exact ⟨isProper, _, rfl⟩
      · cases walked
  | item :: rest =>
      obtain ⟨_, after, first, others⟩ := walkList_cons walked
      obtain ⟨document, denotes⟩ := walk_denotes item first
      obtain ⟨isProper, documents, listed⟩ := walkList_denotes rest others
      refine ⟨isProper, document :: documents, ?_⟩
      rw [untagItems, listDocument, show item.untag.document = some document from denotes, listed]

theorem walkMembers_denotes (members : List (Key × Term)) {taken : Bytes → Bool} {depth : Nat}
    {budget left : Budget} (walked : walkMembers members taken depth budget = some left) :
    ∃ documents, mapDocument (untagMembers members) = some documents := by
  match members with
  | [] => exact ⟨_, rfl⟩
  | (name, value) :: rest =>
      obtain ⟨entered, after, named, first, others⟩ := walkMembers_cons walked
      obtain ⟨text, spelled, _⟩ := key_measures named
      obtain ⟨document, denotes⟩ := walk_denotes value first
      obtain ⟨documents, listed⟩ := walkMembers_denotes rest others
      refine ⟨(text, document) :: documents, ?_⟩
      rw [untagMembers, mapDocument, spelled, show value.untag.document = some document from denotes,
        listed]

end

/-! ## What fits is walked -/

/-- `string_bytes` gets to the end of a text that fits. -/
theorem stringBytes_pays (text : Bytes) (budget : Int)
    (enough : ((text.flatMap jasonEscape).length : Int) ≤ budget) :
    stringBytes text budget = budget - (text.flatMap jasonEscape).length := by
  induction text generalizing budget with
  | nil =>
      simp only [List.flatMap_nil, List.length_nil, Nat.cast_zero] at enough ⊢
      rw [stringBytes, if_neg (by omega), Int.sub_zero]
  | cons byte rest ih =>
      have escaped := jasonEscape_length byte
      rw [List.flatMap_cons, List.length_append, Nat.cast_add] at enough ⊢
      rw [stringBytes, if_neg (by omega), ih _ (by omega)]
      omega

theorem jasonEscape_pos (byte : UInt8) : 1 ≤ (jasonEscape byte).length := by
  have escaped := jasonEscape_length byte
  have one : 1 ≤ byteSize byte := by
    unfold byteSize
    split
    · decide
    · split <;> decide
  omega

theorem length_le_escaped (text : Bytes) : text.length ≤ (text.flatMap jasonEscape).length := by
  induction text with
  | nil => exact Nat.zero_le _
  | cons byte rest ih =>
      have one := jasonEscape_pos byte
      rw [List.flatMap_cons, List.length_append, List.length_cons]
      omega

theorem length_jasonString (text : Bytes) :
    (jasonString text).length = (text.flatMap jasonEscape).length + 2 := by
  simp [jasonString]

/-- What is left when a value of so many nodes and bytes is taken. -/
def Budget.less (budget : Budget) (nodes bytes : Nat) : Budget :=
  { nodes := budget.nodes - nodes, bytes := budget.bytes - bytes }

theorem string_pays {text : Bytes} (budget : Budget) (valid : stringValid text = true)
    (nodes : 1 ≤ budget.nodes) (bytes : ((jasonString text).length : Int) ≤ budget.bytes) :
    string text budget = some (budget.less 1 (jasonString text).length) := by
  have long := length_le_escaped text
  rw [length_jasonString] at bytes ⊢
  have paid := stringBytes_pays text (budget.bytes - 2) (by push_cast at bytes; omega)
  rw [string, if_pos ⟨by omega, by push_cast at bytes; omega, valid⟩, paid]
  dsimp only
  rw [if_pos (by push_cast at bytes; omega), Budget.less]
  simp only [Option.some.injEq, Budget.mk.injEq, Nat.cast_one, true_and]
  push_cast
  omega

/-- A walk whose document is within the limits and covered by the budget. -/
def Pays (term : Term) : Prop :=
  ∀ (depth : Nat) (budget : Budget) (document : Json), term.document = some document →
    Admissible depth document → Readable document → (nodeCount document : Int) ≤ budget.nodes →
    ((jasonText document).length : Int) ≤ budget.bytes →
      walk term depth budget = some (budget.less (nodeCount document) (jasonText document).length)

theorem nodeCount_pos (document : Json) : 1 ≤ nodeCount document := by
  cases document <;> simp [nodeCount]

/-- A budget that covers a document is not spent. -/
theorem Budget.not_spent {budget : Budget} {document : Json}
    (nodes : (nodeCount document : Int) ≤ budget.nodes)
    (bytes : ((jasonText document).length : Int) ≤ budget.bytes) : budget.spent = false := by
  have one := nodeCount_pos document
  simp only [Budget.spent, Bool.or_eq_false_iff, decide_eq_false_iff_not]
  omega

theorem pays_integer (value : Int) : Pays (.integer value) := by
  intro depth budget document denotes _ _ nodes bytes
  have unspent := Budget.not_spent nodes bytes
  simp only [Term.document, integerDocument] at denotes
  rw [walk, unspent, if_neg Bool.false_ne_true, walkInteger]
  split at denotes
  · rename_i positive
    split at denotes
    · rename_i small
      cases denotes
      have same : value.toNat.toUInt64.toNat = value.toNat := by
        simp
        omega
      have text : jasonText (.unsigned value.toNat.toUInt64) = integerText value := by
        rw [jasonText, same, integerText, if_neg (by omega)]
      rw [if_pos ⟨by omega, small⟩, text]
      rfl
    · cases denotes
  · split at denotes
    · rename_i negative range
      cases denotes
      rw [if_pos ⟨range, by omega⟩]
      rfl
    · cases denotes

theorem pays_binary (text : Bytes) : Pays (.binary text) := by
  intro depth budget document denotes _ readable nodes bytes
  have unspent := Budget.not_spent nodes bytes
  cases denotes
  cases readable with
  | string valid =>
      rw [walk, unspent, if_neg Bool.false_ne_true]
      exact string_pays _ valid (by simpa [nodeCount] using nodes) bytes

theorem pays_atom (text : Bytes) : Pays (.atom text) := by
  intro depth budget document denotes _ readable nodes bytes
  have unspent := Budget.not_spent nodes bytes
  cases denotes
  rw [walk, unspent, if_neg Bool.false_ne_true, walkAtom]
  simp only [atomDocument] at readable nodes bytes ⊢
  by_cases isNil : text = ascii "nil"
  · rw [if_pos isNil, if_pos isNil]
    rfl
  · by_cases isTrue : text = ascii "true"
    · rw [if_neg isNil, if_neg isNil, if_pos isTrue, if_pos isTrue]
      rfl
    · by_cases isFalse : text = ascii "false"
      · rw [if_neg isNil, if_neg isNil, if_neg isTrue, if_neg isTrue, if_pos isFalse, if_pos isFalse]
        rfl
      · rw [if_neg isNil, if_neg isTrue, if_neg isFalse] at readable nodes bytes ⊢
        rw [if_neg isNil, if_neg isTrue, if_neg isFalse]
        cases readable with
        | string valid => exact string_pays _ valid (by simpa [nodeCount] using nodes) bytes

/-! ## Lists -/

/-- The items behind `count` others; every one of them takes its comma. -/
theorem walkList_pays {items : List Term} (inside : ∀ item ∈ items, Pays item) {depth count : Nat}
    {budget : Budget} {documents : List Json} (denotes : listDocument items = some documents)
    (later : 0 < count) (few : count + documents.length ≤ kMaximumEntries)
    (admissible : ∀ document ∈ documents, Admissible depth document)
    (readable : ∀ document ∈ documents, Readable document)
    (nodes : (itemNodes documents : Int) ≤ budget.nodes)
    (bytes : ((jasonItems documents).length : Int) ≤ budget.bytes + 1) :
    walkList items true depth budget count =
      some { nodes := budget.nodes - itemNodes documents
             bytes := budget.bytes + 1 - (jasonItems documents).length } := by
  induction items generalizing budget count documents with
  | nil =>
      cases denotes
      simp [walkList, itemNodes, jasonItems]
  | cons item rest ih =>
      obtain ⟨document, others, head, tail, rfl⟩ := listDocument_cons denotes
      obtain ⟨goodFirst, goodRest⟩ := List.forall_mem_cons.mp admissible
      obtain ⟨readFirst, readRest⟩ := List.forall_mem_cons.mp readable
      have ended : 1 ≤ (jasonItems others).length := by cases others <;> simp [jasonItems]
      rw [List.length_cons] at few
      simp only [itemNodes, jasonItems, List.length_cons, List.length_append] at nodes bytes ⊢
      push_cast at nodes bytes ⊢
      have first := inside item List.mem_cons_self depth (budget.separate count) document head
        goodFirst readFirst (by simp only [Budget.separate]; omega)
        (by simp only [Budget.separate, if_neg (Nat.pos_iff_ne_zero.mp later)]; omega)
      rw [walkList, if_pos (by omega), first]
      dsimp only
      rw [ih (fun item listed => inside item (List.mem_cons_of_mem _ listed)) tail
        (Nat.succ_pos _) (by omega) goodRest readRest]
      · simp only [Budget.less, Budget.separate, if_neg (Nat.pos_iff_ne_zero.mp later),
          Option.some.injEq, Budget.mk.injEq]
        omega
      · simp only [Budget.less, Budget.separate]
        omega
      · simp only [Budget.less, Budget.separate, if_neg (Nat.pos_iff_ne_zero.mp later)]
        omega

theorem pays_list {items : List Term} (inside : ∀ item ∈ items, Pays item) (proper : Bool) :
    Pays (.list items proper) := by
  intro depth budget document denotes admissible readable nodes bytes
  have unspent := Budget.not_spent nodes bytes
  simp only [Term.document] at denotes
  split at denotes
  swap
  · cases denotes
  rename_i isProper
  obtain ⟨documents, listed, rfl⟩ := Option.map_eq_some_iff.mp denotes
  cases admissible with
  | array shallow few within =>
  cases readable with
  | array reads =>
  rw [walk, unspent, if_neg Bool.false_ne_true, if_pos (show depth < kMaximumDepth from shallow),
    isProper]
  cases items with
  | nil =>
      cases listed
      simp only [walkList, if_true, Option.some.injEq, Budget.enter, Budget.less, Budget.mk.injEq,
        nodeCount, itemNodes, jasonText]
      have : (ascii "[]").length = 2 := rfl
      constructor <;> omega
  | cons item rest =>
      obtain ⟨document, others, head, tail, rfl⟩ := listDocument_cons listed
      obtain ⟨goodFirst, goodRest⟩ := List.forall_mem_cons.mp within
      obtain ⟨readFirst, readRest⟩ := List.forall_mem_cons.mp reads
      have ended : 1 ≤ (jasonItems others).length := by cases others <;> simp [jasonItems]
      rw [List.length_cons] at few
      simp only [nodeCount, itemNodes, jasonText, List.length_cons, List.length_append] at nodes bytes ⊢
      push_cast at nodes bytes ⊢
      have first := inside item List.mem_cons_self (depth + 1) ((budget.enter 0).separate 0) document
        head goodFirst readFirst (by simp only [Budget.separate, Budget.enter]; omega)
        (by simp only [Budget.separate, Budget.enter, if_true]; omega)
      rw [walkList, if_pos (by decide), first]
      dsimp only
      rw [walkList_pays (fun item listed => inside item (List.mem_cons_of_mem _ listed)) tail
        (Nat.succ_pos _) (by rw [Nat.add_comm]; exact few) goodRest readRest]
      · simp only [Budget.less, Budget.separate, Budget.enter, if_true, Option.some.injEq,
          Budget.mk.injEq]
        push_cast
        omega
      · simp only [Budget.less, Budget.separate, Budget.enter]
        omega
      · simp only [Budget.less, Budget.separate, Budget.enter, if_true]
        omega

/-! ## Maps -/

theorem key_pays {taken : Bytes → Bool} {name : Key} {text : Bytes} (budget : Budget)
    (spelled : name.text = some text) (valid : stringValid text = true)
    (free : ∀ atom, name = .atom atom → taken atom = false) (nodes : 1 ≤ budget.nodes)
    (bytes : ((jasonString text).length : Int) + 1 ≤ budget.bytes) :
    key taken name budget = some (budget.less 1 ((jasonString text).length + 1)) := by
  have paid := string_pays { budget with bytes := budget.bytes - 1 } valid nodes
    (by dsimp only; omega)
  have less : Budget.less { budget with bytes := budget.bytes - 1 } 1 (jasonString text).length =
      budget.less 1 ((jasonString text).length + 1) := by
    simp only [Budget.less, Budget.mk.injEq, true_and]
    push_cast
    omega
  cases name with
  | atom atom =>
      obtain rfl := Option.some.inj spelled
      rw [key, free atom rfl, if_neg Bool.false_ne_true, paid, less]
  | binary binary =>
      obtain rfl := Option.some.inj spelled
      rw [key, paid, less]
  | other tag => cases spelled

theorem length_jasonMembers (members : List (Bytes × Json)) :
    members.length + 1 ≤ (jasonMembers members).length := by
  induction members with
  | nil => exact le_refl _
  | cons member rest ih =>
      obtain ⟨name, value⟩ := member
      simp only [jasonMembers, List.length_cons, List.length_append]
      omega

/-- The members of a map; the commas are taken elsewhere. -/
theorem walkMembers_pays {members : List (Key × Term)} (inside : ∀ member ∈ members, Pays member.2)
    {taken : Bytes → Bool} {depth : Nat} {budget : Budget} {documents : List (Bytes × Json)}
    (denotes : mapDocument members = some documents)
    (free : ∀ member ∈ members, ∀ text, member.1 = .atom text → taken text = false)
    (valid : ∀ member ∈ documents, stringValid member.1 = true)
    (admissible : ∀ member ∈ documents, Admissible depth member.2)
    (readable : ∀ member ∈ documents, Readable member.2)
    (nodes : (memberNodes documents : Int) ≤ budget.nodes)
    (bytes : ((jasonMembers documents).length : Int) ≤ budget.bytes + 1 + documents.length) :
    walkMembers members taken depth budget =
      some { nodes := budget.nodes - memberNodes documents
             bytes := budget.bytes + 1 + documents.length - (jasonMembers documents).length } := by
  induction members generalizing budget documents with
  | nil =>
      cases denotes
      simp [walkMembers, memberNodes, jasonMembers]
  | cons member rest ih =>
      obtain ⟨name, value⟩ := member
      obtain ⟨text, document, others, spelled, head, tail, rfl⟩ := mapDocument_cons denotes
      obtain ⟨validFirst, validRest⟩ := List.forall_mem_cons.mp valid
      obtain ⟨goodFirst, goodRest⟩ := List.forall_mem_cons.mp admissible
      obtain ⟨readFirst, readRest⟩ := List.forall_mem_cons.mp readable
      have ended : others.length + 1 ≤ (jasonMembers others).length := length_jasonMembers others
      simp only [memberNodes, jasonMembers, List.length_cons, List.length_append] at nodes bytes ⊢
      push_cast at nodes bytes ⊢
      have named : key taken name budget = some (budget.less 1 ((jasonString text).length + 1)) :=
        key_pays budget spelled validFirst
          (fun atom same => free (name, value) List.mem_cons_self atom same) (by omega) (by omega)
      have first := inside (name, value) List.mem_cons_self depth
        (budget.less 1 ((jasonString text).length + 1)) document head goodFirst readFirst
        (by simp only [Budget.less]; omega) (by simp only [Budget.less]; push_cast; omega)
      rw [walkMembers, named]
      dsimp only
      rw [first]
      dsimp only
      rw [ih (fun member listed => inside member (List.mem_cons_of_mem _ listed)) tail
        (fun member listed => free member (List.mem_cons_of_mem _ listed)) validRest goodRest readRest]
      · simp only [Budget.less, Option.some.injEq, Budget.mk.injEq]
        push_cast
        omega
      · simp only [Budget.less]
        omega
      · simp only [Budget.less]
        push_cast
        omega

/-- Keys with different texts do not collide. -/
theorem keys_free {members : List (Key × Term)} {documents : List (Bytes × Json)}
    (denotes : mapDocument members = some documents) (keys : (documents.map Prod.fst).Nodup) :
    ∀ member ∈ members, ∀ text, member.1 = .atom text → hasKey members text = false := by
  intro member listed text atom
  by_contra taken
  have held : hasKey members text = true := by simpa using taken
  obtain ⟨other, present, same⟩ := List.any_eq_true.mp held
  have binary : other.1 = .binary text := of_decide_eq_true same
  have texts : ((members.map Prod.fst).map Key.text).Nodup := by
    rw [mapDocument_keys denotes]
    exact keys.map (Option.some_injective _)
  have equal := List.inj_on_of_nodup_map texts (List.mem_map_of_mem (f := Prod.fst) listed)
    (List.mem_map_of_mem (f := Prod.fst) present)
    (by rw [atom, binary]; rfl)
  rw [atom, binary] at equal
  cases equal

theorem pays_map {members : List (Key × Term)} (inside : ∀ member ∈ members, Pays member.2) :
    Pays (.map members) := by
  intro depth budget document denotes admissible readable nodes bytes
  have unspent := Budget.not_spent nodes bytes
  simp only [Term.document] at denotes
  split at denotes
  · cases denotes
  rename_i plain
  obtain ⟨documents, listed, rfl⟩ := Option.map_eq_some_iff.mp denotes
  cases admissible with
  | object shallow few keys within =>
  cases readable with
  | object _ valid reads =>
  have same : documents.length = members.length := by
    have := congrArg List.length (mapDocument_keys listed)
    simpa using this.symm
  have text : ((jasonText (.object documents)).length : Int) =
      (jasonMembers documents).length + 1 - min documents.length 1 := by
    match documents with
    | [] =>
        have : (ascii "\x7b\x7d").length = 2 := rfl
        simp [jasonText, jasonMembers, this]
    | (name, value) :: rest =>
        simp only [jasonText, jasonMembers, List.length_cons, List.length_append]
        push_cast
        omega
  rw [text] at bytes
  rw [walk, unspent, if_neg Bool.false_ne_true, if_neg plain,
    if_pos ⟨same ▸ few, show depth < kMaximumDepth from shallow⟩,
    walkMembers_pays inside listed (keys_free listed keys) valid within reads]
  · simp only [Budget.enter, Budget.less, nodeCount, Option.some.injEq, Budget.mk.injEq, text]
    push_cast
    omega
  · simp only [nodeCount] at nodes
    push_cast at nodes
    simp only [Budget.enter]
    omega
  · simp only [Budget.enter]
    omega

/-- **What fits is walked**, to exactly what is left of the budget. -/
theorem walk_pays {term : Term} (distinct : term.Distinct) : Pays term := by
  induction distinct with
  | atom text => exact pays_atom text
  | integer value => exact pays_integer value
  | binary text => exact pays_binary text
  | list proper _ inside => exact pays_list inside proper
  | map _ _ inside => exact pays_map inside
  | tuple | other =>
      intro depth budget document denotes
      cases denotes

/-! ## The account of the walk -/

/-- A walk that succeeds has taken the nodes and the text of the document on the wire. -/
theorem walk_account {term : Term} (distinct : term.Distinct) {depth : Nat} {budget left : Budget}
    (walked : walk term depth budget = some left) :
    ∃ document, term.wireDocument = some document ∧ Measured depth budget left document := by
  obtain ⟨document, denotes⟩ := walk_denotes term walked
  rw [← walk_untag] at walked
  exact ⟨document, denotes, walk_measures (distinct_untag distinct) _ _ _ _ walked denotes⟩

/-- **`validate` is exact.**  It admits a term if and only if the term has a compact JSON text, whose
document says no key of an object twice, has valid strings, at most 1024 entries in a collection, at
most 24 collections around one another, at most 4096 nodes and at most 131071 bytes of text; and a
walk takes from the budget what the document has of both. -/
theorem validate_exact (value : ElixirTerm) :
    (validate value.term = true ↔
        ∃ document, value.term.wireDocument = some document ∧ Admissible 0 document ∧
          Readable document ∧ nodeCount document ≤ 4096 ∧ (jasonText document).length ≤ 131071) ∧
      ∀ (depth : Nat) (budget left : Budget), walk value.term depth budget = some left →
        ∃ document, value.term.wireDocument = some document ∧
          budget.nodes - left.nodes = nodeCount document ∧
          budget.bytes - left.bytes = (jasonText document).length := by
  constructor
  · constructor
    · intro valid
      unfold validate at valid
      split at valid
      · rename_i left walked
        obtain ⟨document, denotes, measured⟩ := walk_account value.distinct walked
        have nodes : left.nodes = (4096 : Int) - nodeCount document := measured.nodes
        have bytes : left.bytes = (131071 : Int) - (jasonText document).length := measured.bytes
        simp only [Bool.and_eq_true, decide_eq_true_eq] at valid
        exact ⟨document, denotes, measured.admissible, measured.readable, by omega, by omega⟩
      · cases valid
    · rintro ⟨document, denotes, admissible, readable, nodes, bytes⟩
      have walked := walk_pays (distinct_untag value.distinct) 0
        { nodes := kMaximumNodes, bytes := kMaximumBytes } document denotes admissible readable
        (Int.ofNat_le.mpr nodes) (Int.ofNat_le.mpr bytes)
      rw [walk_untag] at walked
      rw [validate, walked]
      dsimp only [Budget.less]
      rw [Bool.and_eq_true, decide_eq_true_eq, decide_eq_true_eq, kMaximumNodes, kMaximumBytes]
      constructor <;> omega
  · intro depth budget left walked
    obtain ⟨document, denotes, measured⟩ := walk_account value.distinct walked
    refine ⟨document, denotes, ?_, ?_⟩
    · rw [measured.nodes]
      omega
    · rw [measured.bytes]
      omega

end WotexMatter.Wire
