/-
# WotexMatter.Wire.LineReader -- reading a line back

What the host counts on when it parses a line: nlohmann/json delivers the events of the
document that the compact text prints, and parses that document (`JsonReader.Reads`).
The texts it is asked about are those of `Readable` documents within the limits.

`compactReader` is a reader that does so.  As for the state document, each of its parts
takes a text and returns what it read with the text behind it.
-/
import WotexMatter.Wire.BoundedSax
import WotexMatter.Wire.Request

set_option autoImplicit false

namespace WotexMatter.Wire

open WotexMatter.Storage

/-- A document whose text is JSON that keeps its values: strings are UTF-8, a signed number
is negative and has 64 bits, no object says a key twice. -/
inductive Readable : Json → Prop where
  | null : Readable .null
  | boolean (value : Bool) : Readable (.boolean value)
  | unsigned (value : UInt64) : Readable (.unsigned value)
  | integer {value : Int} (negative : value < 0) (bits : -0x8000000000000000 ≤ value) :
      Readable (.integer value)
  | string {value : Bytes} (valid : stringValid value = true) : Readable (.string value)
  | array {items : List Json} (inside : ∀ item ∈ items, Readable item) : Readable (.array items)
  | object {members : List (Bytes × Json)} (keys : (members.map Prod.fst).Nodup)
      (valid : ∀ member ∈ members, stringValid member.1 = true)
      (inside : ∀ member ∈ members, Readable member.2) : Readable (.object members)

/-- **What the host counts on.** -/
def JsonReader.Reads (reader : JsonReader) : Prop :=
  ∀ document, Admissible 0 document → Readable document →
    reader.events (jasonText document) = saxEvents document ∧
      reader.parse (jasonText document) = some document

/-! ## Strings -/

/-- The value of a hexadecimal digit of either case. -/
def hexRead (digit : UInt8) : Nat :=
  if digit < 58 then digit.toNat - 48 else if digit < 97 then digit.toNat - 55 else digit.toNat - 87

/-- A string up to its closing quote; the opening one is read. -/
def readChars : Bytes → Option (Bytes × Bytes)
  | 34 :: rest => some ([], rest)
  | 92 :: 117 :: 48 :: 48 :: a :: b :: rest =>
      (readChars rest).map fun found => ((hexRead a * 16 + hexRead b).toUInt8 :: found.1, found.2)
  | 92 :: escaped :: rest =>
      (readChars rest).map fun found =>
        ((if escaped = 98 then 8 else if escaped = 116 then 9 else if escaped = 110 then 10
          else if escaped = 102 then 12 else if escaped = 114 then 13 else escaped) :: found.1,
          found.2)
  | byte :: rest => (readChars rest).map fun found => (byte :: found.1, found.2)
  | [] => none

/-- A byte that is printed as it is. -/
theorem jasonEscape_raw {byte : UInt8} (printable : ¬ byte < 32) (quote : byte ≠ 34)
    (backslash : byte ≠ 92) : jasonEscape byte = [byte] := by
  have other : ∀ n : UInt8, n < 32 → byte ≠ n := by
    rintro n small rfl
    exact printable small
  simp [jasonEscape, other, quote, backslash, printable]

/-- A fact about every byte, from the control bytes, the quote, the backslash and the rest. -/
theorem escape_cases {P : UInt8 → Prop} (control : ∀ n < 32, P n.toUInt8) (quote : P 34)
    (backslash : P 92)
    (raw : ∀ byte : UInt8, ¬ byte < 32 → byte ≠ 34 → byte ≠ 92 → P byte) (byte : UInt8) : P byte := by
  by_cases small : byte < 32
  · have same : byte.toNat.toUInt8 = byte := by simp
    rw [← same]
    exact control byte.toNat (UInt8.lt_iff_toNat_lt.mp small)
  · by_cases isQuote : byte = 34
    · exact isQuote ▸ quote
    · by_cases isBackslash : byte = 92
      · exact isBackslash ▸ backslash
      · exact raw byte small isQuote isBackslash

/-- An escaped byte is read back as itself. -/
theorem readChars_escape (byte : UInt8) (rest : Bytes) :
    readChars (jasonEscape byte ++ rest) =
      (readChars rest).map fun found => (byte :: found.1, found.2) := by
  refine escape_cases (P := fun byte => readChars (jasonEscape byte ++ rest) =
    (readChars rest).map fun found => (byte :: found.1, found.2)) ?_ rfl rfl ?_ byte
  · intro n small
    interval_cases n <;> rfl
  · intro byte printable quote backslash
    rw [jasonEscape_raw printable quote backslash, List.singleton_append, readChars.eq_def]
    split <;> simp_all

theorem readChars_text (text rest : Bytes) :
    readChars (text.flatMap jasonEscape ++ 34 :: rest) = some (text, rest) := by
  induction text with
  | nil => rfl
  | cons byte text ih =>
      rw [List.flatMap_cons, List.append_assoc, readChars_escape, ih]
      rfl

/-! ## Documents -/

/-- The items of an array up to its end, the first one directly ahead. -/
def readItems (read : Bytes → Option (Json × Bytes)) : Nat → Bytes → Option (List Json × Bytes)
  | 0, _ => none
  | fuel + 1, text =>
      match read text with
      | some (item, 44 :: rest) =>
          (readItems read fuel rest).map fun found => (item :: found.1, found.2)
      | some (item, 93 :: rest) => some ([item], rest)
      | _ => none

/-- The members of an object up to its end, the first one directly ahead. -/
def readEntries (read : Bytes → Option (Json × Bytes)) :
    Nat → Bytes → Option (List (Bytes × Json) × Bytes)
  | fuel + 1, 34 :: rest =>
      match readChars rest with
      | some (name, 58 :: rest) =>
          match read rest with
          | some (value, 44 :: rest) =>
              (readEntries read fuel rest).map fun found => ((name, value) :: found.1, found.2)
          | some (value, 125 :: rest) => some ([(name, value)], rest)
          | _ => none
      | _ => none
  | _, _ => none

/-- A value inside at most the given number of collections. -/
def readJson : Nat → Bytes → Option (Json × Bytes)
  | 0, _ => none
  | fuel + 1, text =>
      match text with
      | 110 :: 117 :: 108 :: 108 :: rest => some (.null, rest)
      | 116 :: 114 :: 117 :: 101 :: rest => some (.boolean true, rest)
      | 102 :: 97 :: 108 :: 115 :: 101 :: rest => some (.boolean false, rest)
      | 34 :: rest => (readChars rest).map fun found => (.string found.1, found.2)
      | 91 :: 93 :: rest => some (.array [], rest)
      | 91 :: rest =>
          (readItems (readJson fuel) rest.length rest).map fun found => (.array found.1, found.2)
      | 123 :: 125 :: rest => some (.object [], rest)
      | 123 :: rest =>
          (readEntries (readJson fuel) rest.length rest).map fun found =>
            (.object found.1, found.2)
      | 45 :: rest =>
          if rest.head?.any isDigit then
            some (.integer (-((readNumber rest).1 : Int)), (readNumber rest).2)
          else none
      | text =>
          if text.head?.any isDigit then
            some (.unsigned (readNumber text).1.toUInt64, (readNumber text).2)
          else none

/-- The text behind a value does not go on with its number. -/
def Stops (rest : Bytes) : Prop := rest.head?.all (! isDigit ·) = true

/-- A document that is read back wherever its text stands. -/
def ReadBack (read : Bytes → Option (Json × Bytes)) (document : Json) : Prop :=
  ∀ rest, Stops rest → read (jasonText document ++ rest) = some (document, rest)

theorem stops_items (items : List Json) (rest : Bytes) : Stops (jasonItems items ++ rest) := by
  cases items <;> rfl

theorem stops_members (members : List (Bytes × Json)) (rest : Bytes) :
    Stops (jasonMembers members ++ rest) := by
  cases members with
  | nil => rfl
  | cons member more =>
      obtain ⟨name, value⟩ := member
      rfl

theorem jasonItems_length (items : List Json) : items.length < (jasonItems items).length := by
  induction items with
  | nil => simp [jasonItems]
  | cons item rest ih =>
      simp only [jasonItems, List.length_cons, List.length_append]
      omega

theorem jasonMembers_length (members : List (Bytes × Json)) :
    members.length < (jasonMembers members).length := by
  induction members with
  | nil => simp [jasonMembers]
  | cons member rest ih =>
      obtain ⟨name, value⟩ := member
      simp only [jasonMembers, List.length_cons, List.length_append]
      omega

/-- The text of a document starts, and not with the end of an array. -/
theorem jasonText_cons {document : Json} (readable : Readable document) :
    ∃ first tail, jasonText document = first :: tail ∧ first ≠ 93 := by
  cases readable with
  | null => exact ⟨_, _, rfl, by decide⟩
  | boolean value => cases value <;> exact ⟨_, _, rfl, by decide⟩
  | unsigned value =>
      obtain ⟨first, tail, same, digit⟩ := dumpNumber_cons value.toNat
      refine ⟨first, tail, same, ?_⟩
      rintro rfl
      cases digit
  | @integer value negative bits =>
      refine ⟨45, dumpNumber value.natAbs, ?_, by decide⟩
      simp [jasonText, integerText, negative]
  | string valid => exact ⟨_, _, rfl, by decide⟩
  | @array items inside => cases items <;> exact ⟨_, _, rfl, by decide⟩
  | @object members keys valid inside =>
      cases members with
      | nil => exact ⟨_, _, rfl, by decide⟩
      | cons member more =>
          obtain ⟨name, value⟩ := member
          exact ⟨_, _, rfl, by decide⟩

/-- Items are read back if each of them is. -/
theorem readItems_text {read : Bytes → Option (Json × Bytes)} {item : Json} {items : List Json}
    (reads : ∀ member ∈ item :: items, ReadBack read member) {fuel : Nat}
    (enough : items.length < fuel) (rest : Bytes) :
    readItems read fuel (jasonText item ++ jasonItems items ++ rest) =
      some (item :: items, rest) := by
  induction items generalizing fuel item with
  | nil =>
      obtain ⟨fuel, rfl⟩ : ∃ n, fuel = n + 1 := ⟨fuel - 1, by omega⟩
      have first := reads item List.mem_cons_self (93 :: rest) rfl
      simp [readItems, jasonItems, first]
  | cons next more ih =>
      obtain ⟨fuel, rfl⟩ : ∃ n, fuel = n + 1 := ⟨fuel - 1, by omega⟩
      have first := reads item List.mem_cons_self (jasonItems (next :: more) ++ rest)
        (stops_items _ _)
      have shorter : more.length < fuel := by
        simp only [List.length_cons] at enough
        omega
      have later := ih (fun member present => reads member (List.mem_cons_of_mem _ present)) shorter
      simp only [jasonItems, List.cons_append, List.append_assoc] at first later
      simp [readItems, jasonItems, first, later]

/-- Members are read back if their values are. -/
theorem readEntries_text {read : Bytes → Option (Json × Bytes)} {name : Bytes} {value : Json}
    {members : List (Bytes × Json)}
    (reads : ∀ member ∈ (name, value) :: members, ReadBack read member.2) {fuel : Nat}
    (enough : members.length < fuel) (rest : Bytes) :
    readEntries read fuel
        (jasonString name ++ 58 :: (jasonText value ++ jasonMembers members) ++ rest) =
      some ((name, value) :: members, rest) := by
  induction members generalizing fuel name value with
  | nil =>
      obtain ⟨fuel, rfl⟩ : ∃ n, fuel = n + 1 := ⟨fuel - 1, by omega⟩
      have first := reads _ List.mem_cons_self (125 :: rest) rfl
      simp [jasonString, readEntries, readChars_text, jasonMembers, first]
  | cons member more ih =>
      obtain ⟨fuel, rfl⟩ : ∃ n, fuel = n + 1 := ⟨fuel - 1, by omega⟩
      obtain ⟨nextName, nextValue⟩ := member
      have first := reads _ List.mem_cons_self
        (jasonMembers ((nextName, nextValue) :: more) ++ rest) (stops_members _ _)
      have shorter : more.length < fuel := by
        simp only [List.length_cons] at enough
        omega
      have later := ih (fun member present => reads member (List.mem_cons_of_mem _ present)) shorter
      simp only [jasonMembers, jasonString, List.cons_append, List.append_assoc, List.nil_append]
        at first later
      simp [jasonString, readEntries, readChars_text, jasonMembers, first, later]

/-- No other value starts with a digit. -/
theorem readJson_digit (fuel : Nat) {first : UInt8} (digit : isDigit first = true) (tail : Bytes) :
    readJson (fuel + 1) (first :: tail) =
      some (.unsigned (readNumber (first :: tail)).1.toUInt64, (readNumber (first :: tail)).2) := by
  rw [readJson]
  · rw [List.head?_cons, Option.any_some, digit, if_pos rfl]
  all_goals
    intro tail shape
    obtain ⟨rfl, _⟩ := List.cons.inj shape
    cases digit

/-- An array that is not closed at once has items. -/
theorem readJson_items (fuel : Nat) {first : UInt8} (other : first ≠ 93) (tail : Bytes) :
    readJson (fuel + 1) (91 :: first :: tail) =
      (readItems (readJson fuel) (first :: tail).length (first :: tail)).map
        fun found => (.array found.1, found.2) := by
  rw [readJson]
  intro tail shape
  exact other (List.cons.inj shape).1

theorem readJson_unsigned (fuel n : Nat) {rest : Bytes} (stops : Stops rest) :
    readJson (fuel + 1) (dumpNumber n ++ rest) = some (.unsigned n.toUInt64, rest) := by
  have read := readNumber_stops n stops
  obtain ⟨first, tail, same, digit⟩ := dumpNumber_cons n
  rw [same, List.cons_append] at read ⊢
  rw [readJson_digit fuel digit, read]

theorem readJson_integer (fuel n : Nat) {rest : Bytes} (stops : Stops rest) :
    readJson (fuel + 1) (45 :: (dumpNumber n ++ rest)) = some (.integer (-(n : Int)), rest) := by
  have read := readNumber_stops n stops
  obtain ⟨first, tail, same, digit⟩ := dumpNumber_cons n
  rw [same, List.cons_append] at read ⊢
  show (if isDigit first then some (Json.integer (-((readNumber (first :: (tail ++ rest))).1 : Int)),
    (readNumber (first :: (tail ++ rest))).2) else none) = _
  rw [if_pos digit, read]

theorem readJson_array {fuel : Nat} {items : List Json}
    (reads : ∀ item ∈ items, ReadBack (readJson fuel) item)
    (readable : ∀ item ∈ items, Readable item) :
    ReadBack (readJson (fuel + 1)) (.array items) := by
  intro rest _
  cases items with
  | nil => rfl
  | cons item more =>
      obtain ⟨first, tail, same, other⟩ := jasonText_cons (readable item List.mem_cons_self)
      have enough : more.length < (jasonText item ++ jasonItems more ++ rest).length := by
        have := jasonItems_length more
        simp only [List.length_append]
        omega
      have read := readItems_text reads enough rest
      rw [same, List.cons_append, List.cons_append] at read
      rw [jasonText, same, List.cons_append, List.cons_append, List.cons_append,
        readJson_items fuel other, read]
      rfl

theorem readJson_object {fuel : Nat} {members : List (Bytes × Json)}
    (reads : ∀ member ∈ members, ReadBack (readJson fuel) member.2) :
    ReadBack (readJson (fuel + 1)) (.object members) := by
  intro rest _
  cases members with
  | nil => rfl
  | cons member more =>
      obtain ⟨name, value⟩ := member
      have enough : more.length <
          (jasonString name ++ 58 :: (jasonText value ++ jasonMembers more) ++ rest).length := by
        have := jasonMembers_length more
        simp only [List.length_append, List.length_cons]
        omega
      have read := readEntries_text reads enough rest
      exact congrArg (Option.map fun found => (Json.object found.1, found.2)) read

theorem readJson_scalar (fuel : Nat) {document : Json} (readable : Readable document)
    (notArray : ∀ items, document ≠ .array items)
    (notObject : ∀ members, document ≠ .object members) :
    ReadBack (readJson (fuel + 1)) document := by
  intro rest stops
  cases readable with
  | null => rfl
  | boolean value => cases value <;> rfl
  | unsigned value =>
      have read := readJson_unsigned fuel value.toNat stops
      rw [jasonText, read]
      simp
  | @integer value negative bits =>
      have read := readJson_integer fuel value.natAbs stops
      have same : -(value.natAbs : Int) = value := by omega
      rw [jasonText, integerText, if_pos negative, List.cons_append, read, same]
  | @string text valid =>
      show (readChars (text.flatMap jasonEscape ++ [34] ++ rest)).map
        (fun found => (Json.string found.1, found.2)) = _
      rw [List.append_assoc, List.singleton_append, readChars_text]
      rfl
  | array inside => exact absurd rfl (notArray _)
  | object keys valid inside => exact absurd rfl (notObject _)

/-- **A readable document within the limits is read back from its text.** -/
theorem readJson_text {depth : Nat} {document : Json} (admissible : Admissible depth document)
    (readable : Readable document) {fuel : Nat} (positive : 0 < fuel)
    (enough : kMaximumSaxDepth < fuel + depth) : ReadBack (readJson fuel) document := by
  obtain ⟨fuel, rfl⟩ : ∃ n, fuel = n + 1 := ⟨fuel - 1, by omega⟩
  induction admissible generalizing fuel with
  | null | boolean | unsigned | integer | string =>
      exact readJson_scalar fuel readable (by simp) (by simp)
  | @array depth items shallow few inside reads =>
      obtain ⟨fuel, rfl⟩ : ∃ n, fuel = n + 1 := ⟨fuel - 1, by omega⟩
      cases readable with
      | array inside =>
          exact readJson_array
            (fun item listed => reads item listed (inside item listed) fuel (by omega) (by omega))
            inside
  | @object depth members shallow few keys inside reads =>
      obtain ⟨fuel, rfl⟩ : ∃ n, fuel = n + 1 := ⟨fuel - 1, by omega⟩
      cases readable with
      | object keys valid inside =>
          exact readJson_object fun member listed =>
            reads member listed (inside member listed) fuel (by omega) (by omega)

/-! ## The reader -/

/-- A whole text. -/
def readLine (text : Bytes) : Option Json :=
  match readJson (kMaximumSaxDepth + 1) text with
  | some (document, []) => some document
  | _ => none

def compactReader : JsonReader where
  events text :=
    match readLine text with
    | some document => saxEvents document
    | none => [.parseError]
  parse := readLine

/-- **The assumption can be met.** -/
theorem compactReader_reads : compactReader.Reads := by
  intro document admissible readable
  have read := readJson_text admissible readable (by omega) (Nat.lt_succ_self _) [] rfl
  rw [List.append_nil] at read
  have found : readLine (jasonText document) = some document := by
    rw [readLine, read]
  constructor
  · show (match readLine (jasonText document) with
      | some document => saxEvents document
      | none => [.parseError]) = _
    rw [found]
  · exact found

end WotexMatter.Wire
