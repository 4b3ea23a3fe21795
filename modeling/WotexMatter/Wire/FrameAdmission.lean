/-
# WotexMatter.Wire.FrameAdmission -- an encoded frame is an accepted line

Two checkers in two languages: the walk takes from a decreasing budget while it descends a
term, and `BoundedSax` adds to counters while a text goes by.  `walk_measures` is the
account that joins them.  A walk that succeeds has taken exactly the nodes of the document
the term stands for and exactly the bytes of its text, and has seen that the document is
within depth and entries, says no key twice, and reads back.
-/
import WotexMatter.Wire.LineReader

set_option autoImplicit false

namespace WotexMatter.Wire

open WotexMatter.Storage

/-! ## Strings -/

theorem jasonEscape_length (byte : UInt8) : ((jasonEscape byte).length : Int) = byteSize byte := by
  refine escape_cases (P := fun byte => ((jasonEscape byte).length : Int) = byteSize byte) ?_ rfl rfl
    ?_ byte
  · intro n small
    interval_cases n <;> rfl
  · intro byte printable quote backslash
    have other : ∀ n : UInt8, n < 32 → byte ≠ n := by
      rintro n small rfl
      exact printable small
    simp [jasonEscape_raw printable quote backslash, byteSize, other, quote, backslash, printable]

/-- `string_bytes` takes the escaped bytes. -/
theorem stringBytes_measures (text : Bytes) (budget : Int) (left : 0 ≤ stringBytes text budget) :
    stringBytes text budget = budget - (text.flatMap jasonEscape).length := by
  induction text generalizing budget with
  | nil =>
      rw [stringBytes] at left ⊢
      split
      · rename_i negative
        simp [negative] at left
      · simp
  | cons byte rest ih =>
      rw [stringBytes] at left ⊢
      split
      · rename_i negative
        simp [negative] at left
      · rename_i positive
        rw [if_neg positive] at left
        have escaped := jasonEscape_length byte
        rw [ih _ left, List.flatMap_cons, List.length_append]
        push_cast
        omega

theorem string_measures {text : Bytes} {budget left : Budget} (walked : string text budget = some left) :
    left = { nodes := budget.nodes - 1, bytes := budget.bytes - (jasonString text).length } ∧
      stringValid text = true := by
  simp only [string] at walked
  split at walked
  · rename_i admitted
    split at walked
    · rename_i enough
      cases walked
      refine ⟨?_, admitted.2.2⟩
      rw [stringBytes_measures _ _ enough, jasonString, List.length_cons, List.length_append]
      simp only [Budget.mk.injEq, true_and, List.length_singleton]
      push_cast
      omega
    · cases walked
  · cases walked

/-! ## The account -/

/-- What a walk over a term has established about the document it stands for. -/
structure Measured (depth : Nat) (budget left : Budget) (document : Json) : Prop where
  nodes : left.nodes = budget.nodes - nodeCount document
  bytes : left.bytes = budget.bytes - (jasonText document).length
  admissible : Admissible depth document
  readable : Readable document

/-- Every walk over the term that succeeds has measured it. -/
def Walks (term : Term) : Prop :=
  ∀ (depth : Nat) (budget left : Budget) (document : Json),
    walk term depth budget = some left → term.document = some document →
      Measured depth budget left document

theorem walks_integer (value : Int) : Walks (.integer value) := by
  intro depth budget left document walked denotes
  simp only [walk] at walked
  split at walked
  · cases walked
  simp only [walkInteger] at walked
  split at walked
  · rename_i range
    cases walked
    simp only [Term.document, integerDocument] at denotes
    split at denotes
    · rename_i positive
      rw [if_pos range.2] at denotes
      cases denotes
      have same : value.toNat.toUInt64.toNat = value.toNat := by
        have := range.2
        simp
        omega
      refine ⟨rfl, ?_, .unsigned _ _, .unsigned _⟩
      simp [jasonText, integerText, same, show ¬ value < 0 by omega]
    · rename_i negative
      rw [if_pos range.1] at denotes
      cases denotes
      exact ⟨rfl, rfl, .integer _ _, .integer (by omega) range.1⟩
  · cases walked

theorem walks_binary (text : Bytes) : Walks (.binary text) := by
  intro depth budget left document walked denotes
  simp only [walk] at walked
  split at walked
  · cases walked
  cases denotes
  obtain ⟨rfl, valid⟩ := string_measures walked
  exact ⟨rfl, rfl, .string _ _, .string valid⟩

theorem walks_atom (text : Bytes) : Walks (.atom text) := by
  intro depth budget left document walked denotes
  simp only [walk] at walked
  split at walked
  · cases walked
  cases denotes
  simp only [walkAtom, atomDocument] at walked ⊢
  by_cases isNil : text = ascii "nil"
  · rw [if_pos isNil] at walked ⊢
    cases walked
    exact ⟨rfl, rfl, .null _, .null⟩
  · by_cases isTrue : text = ascii "true"
    · rw [if_neg isNil, if_pos isTrue] at walked ⊢
      cases walked
      exact ⟨rfl, rfl, .boolean _ _, .boolean _⟩
    · by_cases isFalse : text = ascii "false"
      · rw [if_neg isNil, if_neg isTrue, if_pos isFalse] at walked ⊢
        cases walked
        exact ⟨rfl, rfl, .boolean _ _, .boolean _⟩
      · rw [if_neg isNil, if_neg isTrue, if_neg isFalse] at walked ⊢
        obtain ⟨rfl, valid⟩ := string_measures walked
        exact ⟨rfl, rfl, .string _ _, .string valid⟩

/-! ## Lists -/

theorem listDocument_cons {item : Term} {items : List Term} {documents : List Json}
    (denotes : listDocument (item :: items) = some documents) :
    ∃ first rest, item.document = some first ∧ listDocument items = some rest ∧
      documents = first :: rest := by
  simp only [listDocument] at denotes
  split at denotes
  · rename_i first rest head tail
    cases denotes
    exact ⟨first, rest, head, tail, rfl⟩
  · cases denotes

theorem walkList_cons {item : Term} {items : List Term} {proper : Bool} {depth count : Nat}
    {budget left : Budget} (walked : walkList (item :: items) proper depth budget count = some left) :
    count < kMaximumEntries ∧ ∃ after, walk item depth (budget.separate count) = some after ∧
      walkList items proper depth after (count + 1) = some left := by
  simp only [walkList] at walked
  split at walked
  · rename_i entry
    split at walked
    · rename_i after first
      exact ⟨entry, after, first, walked⟩
    · cases walked
  · cases walked

/-- What the walk over the items behind `count` others has established. -/
structure ItemsMeasured (depth count : Nat) (budget left : Budget) (documents : List Json) : Prop where
  nodes : left.nodes = budget.nodes - itemNodes documents
  bytes : left.bytes = budget.bytes + 1 - (jasonItems documents).length
  entries : count + documents.length ≤ kMaximumEntries
  admissible : ∀ document ∈ documents, Admissible depth document
  readable : ∀ document ∈ documents, Readable document

theorem walkList_measures {items : List Term} (inside : ∀ item ∈ items, Walks item) {proper : Bool}
    {depth count : Nat} {budget left : Budget} {documents : List Json}
    (walked : walkList items proper depth budget count = some left)
    (denotes : listDocument items = some documents) (later : 0 < count)
    (entries : count ≤ kMaximumEntries) : ItemsMeasured depth count budget left documents := by
  induction items generalizing budget count documents with
  | nil =>
      cases denotes
      simp only [walkList] at walked
      split at walked
      · cases walked
        exact ⟨by simp [itemNodes], by simp [jasonItems], entries, by simp, by simp⟩
      · cases walked
  | cons item more ih =>
      obtain ⟨entry, after, first, rest⟩ := walkList_cons walked
      obtain ⟨document, others, head, tail, rfl⟩ := listDocument_cons denotes
      have measured := inside item List.mem_cons_self _ _ _ _ first head
      have others := ih (fun item listed => inside item (List.mem_cons_of_mem _ listed)) rest tail
        (Nat.succ_pos _) entry
      have nodes := measured.nodes
      have bytes := measured.bytes
      simp only [Budget.separate, show count ≠ 0 by omega, if_false] at nodes bytes
      refine ⟨?_, ?_, ?_, ?_, ?_⟩
      · rw [others.nodes, nodes, itemNodes]
        push_cast
        omega
      · rw [others.bytes, bytes, jasonItems, List.length_cons, List.length_append]
        push_cast
        omega
      · have := others.entries
        rw [List.length_cons]
        omega
      · exact List.forall_mem_cons.mpr ⟨measured.admissible, others.admissible⟩
      · exact List.forall_mem_cons.mpr ⟨measured.readable, others.readable⟩

theorem walks_list {items : List Term} (inside : ∀ item ∈ items, Walks item) (proper : Bool) :
    Walks (.list items proper) := by
  intro depth budget left document walked denotes
  simp only [walk] at walked
  split at walked
  · cases walked
  split at walked
  · rename_i shallow
    simp only [Term.document] at denotes
    split at denotes
    · rename_i isProper
      obtain ⟨documents, listed, rfl⟩ := Option.map_eq_some_iff.mp denotes
      cases items with
      | nil =>
          cases listed
          simp only [walkList, isProper, if_true] at walked
          cases walked
          refine ⟨?_, ?_, .array shallow (by simp) (by simp), .array (by simp)⟩
          · simp [Budget.enter, nodeCount, itemNodes]
          · simp only [Budget.enter, jasonText]
            have : (ascii "[]").length = 2 := rfl
            omega
      | cons item more =>
          obtain ⟨_, after, first, rest⟩ := walkList_cons walked
          obtain ⟨document, others, head, tail, rfl⟩ := listDocument_cons listed
          have measured := inside item List.mem_cons_self _ _ _ _ first head
          have others := walkList_measures
            (fun item listed => inside item (List.mem_cons_of_mem _ listed)) rest tail (by omega)
            (by decide)
          have nodes := measured.nodes
          have bytes := measured.bytes
          simp only [Budget.separate, Budget.enter, if_true] at nodes bytes
          refine ⟨?_, ?_, .array shallow ?_ ?_, .array ?_⟩
          · rw [others.nodes, nodes, nodeCount, itemNodes]
            push_cast
            omega
          · rw [others.bytes, bytes, jasonText, List.length_cons, List.length_append]
            push_cast
            omega
          · have := others.entries
            rw [List.length_cons, Nat.add_comm]
            exact this
          · exact List.forall_mem_cons.mpr ⟨measured.admissible, others.admissible⟩
          · exact List.forall_mem_cons.mpr ⟨measured.readable, others.readable⟩
    · cases denotes
  · cases walked

/-! ## Maps -/

theorem mapDocument_cons {name : Key} {value : Term} {members : List (Key × Term)}
    {documents : List (Bytes × Json)}
    (denotes : mapDocument ((name, value) :: members) = some documents) :
    ∃ text first rest, name.text = some text ∧ value.document = some first ∧
      mapDocument members = some rest ∧ documents = (text, first) :: rest := by
  simp only [mapDocument] at denotes
  split at denotes
  · rename_i text first rest named head tail
    cases denotes
    exact ⟨text, first, rest, named, head, tail, rfl⟩
  · cases denotes

/-- The keys of the object are the texts of the keys of the map. -/
theorem mapDocument_keys {members : List (Key × Term)} {documents : List (Bytes × Json)}
    (denotes : mapDocument members = some documents) :
    (members.map Prod.fst).map Key.text = (documents.map Prod.fst).map some := by
  induction members generalizing documents with
  | nil =>
      cases denotes
      rfl
  | cons member more ih =>
      obtain ⟨name, value⟩ := member
      obtain ⟨text, first, rest, named, _, tail, rfl⟩ := mapDocument_cons denotes
      simp [named, ← ih tail]

theorem walkMembers_cons {name : Key} {value : Term} {members : List (Key × Term)}
    {taken : Bytes → Bool} {depth : Nat} {budget left : Budget}
    (walked : walkMembers ((name, value) :: members) taken depth budget = some left) :
    ∃ entered after, key taken name budget = some entered ∧ walk value depth entered = some after ∧
      walkMembers members taken depth after = some left := by
  simp only [walkMembers] at walked
  split at walked
  · rename_i entered named
    split at walked
    · rename_i after first
      exact ⟨entered, after, named, first, walked⟩
    · cases walked
  · cases walked

/-- An atom key is no binary key of its map, and a key takes its text and a colon. -/
theorem key_measures {taken : Bytes → Bool} {name : Key} {budget left : Budget}
    (entered : key taken name budget = some left) :
    ∃ text, name.text = some text ∧ stringValid text = true ∧
      (∀ atom, name = .atom atom → taken atom = false) ∧
      left.nodes = budget.nodes - 1 ∧ left.bytes = budget.bytes - 1 - (jasonString text).length := by
  cases name with
  | atom text =>
      simp only [key] at entered
      split at entered
      · cases entered
      · rename_i free
        obtain ⟨rfl, valid⟩ := string_measures entered
        refine ⟨text, rfl, valid, ?_, rfl, rfl⟩
        rintro _ ⟨⟩
        exact Bool.not_eq_true _ ▸ free
  | binary text =>
      obtain ⟨rfl, valid⟩ := string_measures entered
      exact ⟨text, rfl, valid, by simp, rfl, rfl⟩
  | other tag => cases entered

/-- What the walk over members has established; the commas are taken elsewhere. -/
structure MembersMeasured (taken : Bytes → Bool) (depth : Nat) (budget left : Budget)
    (members : List (Key × Term)) (documents : List (Bytes × Json)) : Prop where
  nodes : left.nodes = budget.nodes - memberNodes documents
  bytes : left.bytes = budget.bytes + 1 + documents.length - (jasonMembers documents).length
  free : ∀ member ∈ members, ∀ text, member.1 = .atom text → taken text = false
  valid : ∀ member ∈ documents, stringValid member.1 = true
  admissible : ∀ member ∈ documents, Admissible depth member.2
  readable : ∀ member ∈ documents, Readable member.2

theorem walkMembers_measures {members : List (Key × Term)}
    (inside : ∀ member ∈ members, Walks member.2) {taken : Bytes → Bool} {depth : Nat}
    {budget left : Budget} {documents : List (Bytes × Json)}
    (walked : walkMembers members taken depth budget = some left)
    (denotes : mapDocument members = some documents) :
    MembersMeasured taken depth budget left members documents := by
  induction members generalizing budget documents with
  | nil =>
      cases denotes
      cases walked
      exact ⟨by simp [memberNodes], by simp [jasonMembers], by simp, by simp, by simp, by simp⟩
  | cons member more ih =>
      obtain ⟨name, value⟩ := member
      obtain ⟨entered, after, named, first, rest⟩ := walkMembers_cons walked
      obtain ⟨text, document, others, same, head, tail, rfl⟩ := mapDocument_cons denotes
      obtain ⟨_, spelled, valid, free, keyNodes, keyBytes⟩ := key_measures named
      cases same.symm.trans spelled
      have measured := inside (name, value) List.mem_cons_self _ _ _ _ first head
      have others := ih (fun member listed => inside member (List.mem_cons_of_mem _ listed)) rest tail
      refine ⟨?_, ?_, ?_, ?_, ?_, ?_⟩
      · rw [others.nodes, measured.nodes, keyNodes, memberNodes]
        push_cast
        omega
      · rw [others.bytes, measured.bytes, keyBytes, jasonMembers, List.length_cons,
          List.length_cons, List.length_append, List.length_cons, List.length_append]
        push_cast
        omega
      · exact List.forall_mem_cons.mpr ⟨free, others.free⟩
      · exact List.forall_mem_cons.mpr ⟨valid, others.valid⟩
      · exact List.forall_mem_cons.mpr ⟨measured.admissible, others.admissible⟩
      · exact List.forall_mem_cons.mpr ⟨measured.readable, others.readable⟩

/-- Distinct keys have distinct texts when no atom key is spelled like a binary key. -/
theorem keys_distinct {members : List (Key × Term)} {documents : List (Bytes × Json)}
    (denotes : mapDocument members = some documents) (distinct : (members.map Prod.fst).Nodup)
    (free : ∀ member ∈ members, ∀ text, member.1 = .atom text → hasKey members text = false) :
    (documents.map Prod.fst).Nodup := by
  have binary : ∀ name ∈ members.map Prod.fst, ∀ text, name = .binary text →
      hasKey members text = true := by
    rintro name listed text rfl
    obtain ⟨member, present, same⟩ := List.mem_map.mp listed
    exact List.any_eq_true.mpr ⟨member, present, by simp [same]⟩
  have atom : ∀ name ∈ members.map Prod.fst, ∀ text, name = .atom text →
      hasKey members text = false := by
    rintro name listed text rfl
    obtain ⟨member, present, same⟩ := List.mem_map.mp listed
    exact free member present text same
  have spelled : ∀ name ∈ members.map Prod.fst, ∃ text, name.text = some text := by
    intro name listed
    have texts := List.mem_map_of_mem (f := Key.text) listed
    rw [mapDocument_keys denotes] at texts
    obtain ⟨text, _, same⟩ := List.mem_map.mp texts
    exact ⟨text, same.symm⟩
  have injective : ∀ first ∈ members.map Prod.fst, ∀ second ∈ members.map Prod.fst,
      first.text = second.text → first = second := by
    intro first hereFirst second hereSecond same
    match first, second, hereFirst, hereSecond, same with
    | .atom text, .atom _, _, _, rfl => rfl
    | .binary text, .binary _, _, _, rfl => rfl
    | .atom text, .binary _, hereFirst, hereSecond, rfl =>
        have clash := atom _ hereFirst text rfl
        rw [binary _ hereSecond text rfl] at clash
        cases clash
    | .binary text, .atom _, hereFirst, hereSecond, rfl =>
        have clash := atom _ hereSecond text rfl
        rw [binary _ hereFirst text rfl] at clash
        cases clash
    | .other tag, _, hereFirst, _, _ =>
        obtain ⟨_, none⟩ := spelled _ hereFirst
        cases none
    | _, .other tag, _, hereSecond, _ =>
        obtain ⟨_, none⟩ := spelled _ hereSecond
        cases none
  have texts := distinct.map_on injective
  rw [mapDocument_keys denotes] at texts
  exact texts.of_map _

theorem walks_map {members : List (Key × Term)} (distinct : (members.map Prod.fst).Nodup)
    (inside : ∀ member ∈ members, Walks member.2) : Walks (.map members) := by
  intro depth budget left document walked denotes
  simp only [Term.document] at denotes
  simp only [walk] at walked
  split at walked
  · cases walked
  split at walked
  · cases walked
  rename_i plain
  rw [if_neg plain] at denotes
  obtain ⟨documents, listed, rfl⟩ := Option.map_eq_some_iff.mp denotes
  split at walked
  · rename_i limits
    have measured := walkMembers_measures inside walked listed
    have keys := keys_distinct listed distinct measured.free
    have same : documents.length = members.length := by
      have := congrArg List.length (mapDocument_keys listed)
      simpa using this.symm
    have nodes := measured.nodes
    have bytes := measured.bytes
    simp only [Budget.enter] at nodes bytes
    refine ⟨?_, ?_, .object limits.2 (same ▸ limits.1) keys measured.admissible,
      .object keys measured.valid measured.readable⟩
    · rw [nodes, nodeCount]
      push_cast
      omega
    · rw [bytes, same]
      cases documents with
      | nil =>
          simp only [List.length_nil] at same
          have : (ascii "\x7b\x7d").length = 2 := rfl
          simp only [jasonText, jasonMembers, List.length_singleton, this, ← same]
          omega
      | cons member rest =>
          simp only [List.length_cons] at same
          simp only [jasonText, jasonMembers, List.length_cons, List.length_append, ← same]
          push_cast
          omega
  · cases walked

/-- **The walk measures the document**: its nodes, its text, its limits and its keys. -/
theorem walk_measures {term : Term} (distinct : term.Distinct) : Walks term := by
  induction distinct with
  | atom text => exact walks_atom text
  | integer value => exact walks_integer value
  | binary text => exact walks_binary text
  | list proper _ inside => exact walks_list inside proper
  | map keys _ inside => exact walks_map keys inside
  | tuple | other =>
      intro depth budget left document _ denotes
      cases denotes

/-! ## No NUL -/

theorem jasonString_ne_zero (text : Bytes) : 0 ∉ jasonString text := by
  have escaped : ∀ byte, 0 ∉ jasonEscape byte := by
    refine escape_cases ?_ (by decide) (by decide) ?_
    · intro n small
      interval_cases n <;> decide
    · intro byte printable quote backslash zero
      rw [jasonEscape_raw printable quote backslash, List.mem_singleton] at zero
      exact printable (zero ▸ (by decide))
  simp [jasonString, escaped]

theorem dumpNumber_ne_zero (n : Nat) : 0 ∉ dumpNumber n := by
  intro zero
  cases dumpNumber_digits n 0 zero

theorem jasonItems_ne_zero {items : List Json} (inside : ∀ item ∈ items, 0 ∉ jasonText item) :
    0 ∉ jasonItems items := by
  induction items with
  | nil => decide
  | cons item rest ih =>
      simp [jasonItems, inside item List.mem_cons_self,
        ih fun item listed => inside item (List.mem_cons_of_mem _ listed)]

theorem jasonMembers_ne_zero {members : List (Bytes × Json)}
    (inside : ∀ member ∈ members, 0 ∉ jasonText member.2) : 0 ∉ jasonMembers members := by
  induction members with
  | nil => decide
  | cons member rest ih =>
      obtain ⟨name, value⟩ := member
      simp [jasonMembers, jasonString_ne_zero, inside (name, value) List.mem_cons_self,
        ih fun item listed => inside item (List.mem_cons_of_mem _ listed)]

/-- A NUL in a string is escaped, and nothing else prints one. -/
theorem jasonText_ne_zero {document : Json} (readable : Readable document) :
    0 ∉ jasonText document := by
  induction readable with
  | null => decide
  | boolean value => cases value <;> decide
  | unsigned value => exact dumpNumber_ne_zero _
  | @integer value negative bits =>
      simp [jasonText, integerText, negative, dumpNumber_ne_zero]
  | string valid => exact jasonString_ne_zero _
  | @array items _ inside =>
      cases items with
      | nil => decide
      | cons item rest =>
          simp [jasonText, inside item List.mem_cons_self,
            jasonItems_ne_zero fun item listed => inside item (List.mem_cons_of_mem _ listed)]
  | @object members keys valid _ inside =>
      cases members with
      | nil => decide
      | cons member rest =>
          obtain ⟨name, value⟩ := member
          simp [jasonText, jasonString_ne_zero, inside (name, value) List.mem_cons_self,
            jasonMembers_ne_zero fun item listed => inside item (List.mem_cons_of_mem _ listed)]

/-! ## Frames -/

/-- What `validate` lets through, if it stands for a document at all. -/
theorem validate_measures {frame : ElixirTerm} {document : Json}
    (valid : validate frame.term = true) (denotes : frame.term.document = some document) :
    nodeCount document ≤ kMaximumNodes ∧ (jasonText document).length ≤ kMaximumBytes ∧
      Admissible 0 document ∧ Readable document := by
  simp only [validate] at valid
  split at valid
  · rename_i left walked
    have measured := walk_measures frame.distinct _ _ _ _ walked denotes
    have nodes : left.nodes = (kMaximumNodes : Int) - nodeCount document := measured.nodes
    have bytes : left.bytes = (kMaximumBytes : Int) - (jasonText document).length := measured.bytes
    simp only [Bool.and_eq_true, decide_eq_true_eq] at valid
    exact ⟨by omega, by omega, measured.admissible, measured.readable⟩
  · cases valid

/-- The last test of `encode` refuses nothing: the walk has taken every byte of the text. -/
theorem encode_eq_some_iff {jason : Jason} (compact : jason.Compact) (frame : ElixirTerm)
    (line : Bytes) :
    encode jason frame.term = some line ↔
      validate frame.term = true ∧ jason.encode frame.term = some line := by
  constructor
  · intro encoded
    simp only [encode] at encoded
    split at encoded
    · rename_i valid
      split at encoded
      · rename_i text printed
        split at encoded
        · cases encoded
          exact ⟨valid, printed⟩
        · cases encoded
      · cases encoded
    · cases encoded
  · rintro ⟨valid, printed⟩
    obtain ⟨document, denotes, rfl⟩ := compact _ _ valid printed
    have short := (validate_measures valid denotes).2.1
    simp [encode, valid, printed, short]

/-- **Every frame the encoder admits is admitted by the parser**, and parsed as the
document its term stands for. -/
theorem encode_parseBounded {jason : Jason} (compact : jason.Compact) {reader : JsonReader}
    (reads : reader.Reads) (frame : ElixirTerm) (line : Bytes)
    (encoded : encode jason frame.term = some line) :
    ∃ document, frame.term.document = some document ∧ parseBounded reader line = some document ∧
      line.length ≤ kMaximumBytes ∧ 0 ∉ line ∧ nodeCount document ≤ kMaximumSaxNodes ∧
      Admissible 0 document := by
  obtain ⟨valid, printed⟩ := (encode_eq_some_iff compact frame line).mp encoded
  obtain ⟨document, denotes, rfl⟩ := compact _ _ valid printed
  obtain ⟨few, short, admissible, readable⟩ := validate_measures valid denotes
  obtain ⟨events, parsed⟩ := reads document admissible readable
  have noZero := jasonText_ne_zero readable
  have nonempty : jasonText document ≠ [] := by
    obtain ⟨first, tail, same, _⟩ := jasonText_cons readable
    simp [same]
  have within : ¬ kMaximumFrameBytes < (jasonText document).length + 1 := by
    simp only [kMaximumBytes, kMaximumFrameBytes] at short ⊢
    omega
  have room : 0 + nodeCount document ≤ kMaximumSaxNodes := by
    simpa [kMaximumSaxNodes, kMaximumNodes] using few
  have passes := BoundedSax.run_document admissible BoundedSax.initial [] rfl trivial room
  rw [List.append_nil, BoundedSax.run] at passes
  refine ⟨document, denotes, ?_, short, noZero, by simpa using room, admissible⟩
  simp only [parseBounded, nonempty, within, noZero, or_self, if_false]
  rw [events, passes]
  exact parsed

/-- A writer that prints what a term stands for. -/
def compactJason : Jason where
  encode term := term.document.map jasonText

theorem compactJason_compact : compactJason.Compact := by
  intro term text _ printed
  obtain ⟨document, denotes, rfl⟩ := Option.map_eq_some_iff.mp printed
  exact ⟨document, denotes, rfl⟩

/-- `%{id: "7\n", "parameters" => %{depth: -1, close: nil}}`. -/
def nestedFrame : ElixirTerm where
  term := .map
    [(.atom (ascii "id"), .binary (ascii "7\n")),
      (.binary (ascii "parameters"),
        .map [(.atom (ascii "depth"), .integer (-1)), (.atom (ascii "close"), .nil)])]
  distinct := by
    refine .map (by decide) ?_
    simp only [List.mem_cons, List.not_mem_nil, or_false, forall_eq_or_imp, forall_eq]
    refine ⟨.binary _, .map (by decide) ?_⟩
    simp only [List.mem_cons, List.not_mem_nil, or_false, forall_eq_or_imp, forall_eq]
    exact ⟨.integer _, .atom _⟩

/-- The document of `nestedFrame`. -/
def nestedDocument : Json :=
  .object
    [(ascii "id", .string (ascii "7\n")),
      (ascii "parameters", .object [(ascii "depth", .integer (-1)), (ascii "close", .null)])]

theorem encode_parseBounded_nested :
    encode compactJason nestedFrame.term = some (jasonText nestedDocument) ∧
      parseBounded compactReader (jasonText nestedDocument) = some nestedDocument := by
  have denotes : nestedFrame.term.document = some nestedDocument := by rfl
  have valid : validate nestedFrame.term = true := by decide +kernel
  have encoded : encode compactJason nestedFrame.term = some (jasonText nestedDocument) :=
    (encode_eq_some_iff compactJason_compact nestedFrame _).mpr
      ⟨valid, Option.map_eq_some_iff.mpr ⟨_, denotes, rfl⟩⟩
  obtain ⟨document, same, parsed, _⟩ :=
    encode_parseBounded compactJason_compact compactReader_reads nestedFrame _ encoded
  cases denotes.symm.trans same
  exact ⟨encoded, parsed⟩

end WotexMatter.Wire
