/-
# WotexMatter.Storage.JsonText -- compact JSON text

nlohmann/json is a parameter of the store (`JsonLibrary`).  This module is an instance:
`dump` in its compact form, as the library prints with no indent and with UTF-8 left
alone, and a reader for objects of strings, unsigned numbers and further objects, the
shape of every state document.  `compact_inverts` shows that the assumption the store
makes of the library can be met, by a reader and a writer that agree with it on these
documents.

Each reader takes a text and returns what it read with the text behind it, and is paired
with a lemma that it reads back exactly what was printed.
-/
import Mathlib.Data.Nat.Digits.Lemmas
import Mathlib.Tactic.IntervalCases
import WotexMatter.Storage.RoundTrip

set_option autoImplicit false

namespace WotexMatter.Storage

/-! ## Strings -/

/-- A lower-case hexadecimal digit. -/
def hexDigit (n : Nat) : UInt8 := if n < 10 then (48 + n).toUInt8 else (87 + n).toUInt8

/-- One byte of a JSON string, escaped where it has to be. -/
def escapeByte (byte : UInt8) : Bytes :=
  if byte = 8 then ascii "\\b"
  else if byte = 9 then ascii "\\t"
  else if byte = 10 then ascii "\\n"
  else if byte = 12 then ascii "\\f"
  else if byte = 13 then ascii "\\r"
  else if byte = 34 then ascii "\\\""
  else if byte = 92 then ascii "\\\\"
  else if byte < 32 then ascii "\\u00" ++ [hexDigit (byte.toNat / 16), hexDigit (byte.toNat % 16)]
  else [byte]

def dumpString (text : Bytes) : Bytes := 34 :: (text.flatMap escapeByte ++ [34])

/-- The value of a hexadecimal digit. -/
def hexValue (digit : UInt8) : Nat := if digit < 58 then digit.toNat - 48 else digit.toNat - 87

/-- A string up to its closing quote; the opening one is read. -/
def readString : Bytes → Option (Bytes × Bytes)
  | 34 :: rest => some ([], rest)
  | 92 :: 117 :: 48 :: 48 :: a :: b :: rest =>
      (readString rest).map fun found =>
        ((hexValue a * 16 + hexValue b).toUInt8 :: found.1, found.2)
  | 92 :: escaped :: rest =>
      (readString rest).map fun found =>
        ((if escaped = 98 then 8 else if escaped = 116 then 9 else if escaped = 110 then 10
          else if escaped = 102 then 12 else if escaped = 114 then 13 else escaped) :: found.1,
          found.2)
  | byte :: rest => (readString rest).map fun found => (byte :: found.1, found.2)
  | [] => none

theorem readString_control :
    ∀ n < 32, ∀ rest, readString (escapeByte n.toUInt8 ++ rest) =
      (readString rest).map fun found => (n.toUInt8 :: found.1, found.2) := by
  intro n small rest
  interval_cases n <;> rfl

theorem readString_raw {byte : UInt8} (quote : byte ≠ 34) (backslash : byte ≠ 92) (rest : Bytes) :
    readString (byte :: rest) =
      (readString rest).map fun found => (byte :: found.1, found.2) := by
  rw [readString.eq_def]
  split <;> simp_all

/-- An escaped byte is read back as itself. -/
theorem readString_escape (byte : UInt8) (rest : Bytes) :
    readString (escapeByte byte ++ rest) =
      (readString rest).map fun found => (byte :: found.1, found.2) := by
  by_cases control : byte.toNat < 32
  · have same : byte.toNat.toUInt8 = byte := by simp
    rw [← same]
    exact readString_control byte.toNat control rest
  · by_cases quote : byte = 34
    · subst quote
      rfl
    · by_cases backslash : byte = 92
      · subst backslash
        rfl
      · have raw : escapeByte byte = [byte] := by
          have printable : ¬ byte < 32 := fun small => control (UInt8.lt_iff_toNat_lt.mp small)
          have other : ∀ n : UInt8, n < 32 → byte ≠ n := by
            rintro n small rfl
            exact printable small
          simp [escapeByte, other, quote, backslash, printable]
        rw [raw, List.singleton_append, readString_raw quote backslash]

theorem readString_dump (text rest : Bytes) :
    readString (text.flatMap escapeByte ++ 34 :: rest) = some (text, rest) := by
  induction text with
  | nil => rfl
  | cons byte text ih =>
      rw [List.flatMap_cons, List.append_assoc, readString_escape, ih]
      rfl

/-! ## Numbers -/

def dumpNumber (n : Nat) : Bytes :=
  if n = 0 then [48] else (Nat.digits 10 n).reverse.map fun digit => (48 + digit).toUInt8

def isDigit (byte : UInt8) : Bool := 48 ≤ byte && byte ≤ 57

/-- The digits at the front of a text, and the number they write. -/
def readNumber (text : Bytes) : Nat × Bytes :=
  (Nat.ofDigits 10 ((text.takeWhile isDigit).reverse.map fun byte => byte.toNat - 48),
    text.dropWhile isDigit)

/-- What stands behind a value in a document. -/
def Delimited (rest : Bytes) : Prop := ∃ tail, rest = 44 :: tail ∨ rest = 125 :: tail

theorem digit_bytes {digit : Nat} (small : digit < 10) :
    isDigit (48 + digit).toUInt8 = true ∧ (48 + digit).toUInt8.toNat - 48 = digit := by
  interval_cases digit <;> decide

theorem dumpNumber_digits (n : Nat) : ∀ byte ∈ dumpNumber n, isDigit byte = true := by
  intro byte present
  simp only [dumpNumber] at present
  split at present
  · cases List.mem_singleton.mp present
    decide
  · obtain ⟨digit, listed, rfl⟩ := List.mem_map.mp present
    exact (digit_bytes (Nat.digits_lt_base (by decide) (List.mem_reverse.mp listed))).1

theorem dumpNumber_value (n : Nat) :
    Nat.ofDigits 10 ((dumpNumber n).reverse.map fun byte => byte.toNat - 48) = n := by
  simp only [dumpNumber]
  split
  · rename_i zero
    subst zero
    rfl
  · rw [← List.map_reverse, List.reverse_reverse, List.map_map]
    have same : (Nat.digits 10 n).map ((fun byte : UInt8 => byte.toNat - 48) ∘
        fun digit => (48 + digit).toUInt8) = (Nat.digits 10 n).map id :=
      List.map_congr_left fun digit listed =>
        (digit_bytes (Nat.digits_lt_base (by decide) listed)).2
    rw [same, List.map_id, Nat.ofDigits_digits]

/-- A number is read back in front of anything that is no digit. -/
theorem readNumber_stops (n : Nat) {rest : Bytes} (stops : rest.head?.all (! isDigit ·) = true) :
    readNumber (dumpNumber n ++ rest) = (n, rest) := by
  have ends : rest.takeWhile isDigit = [] ∧ rest.dropWhile isDigit = rest := by
    cases rest with
    | nil => exact ⟨rfl, rfl⟩
    | cons first tail =>
        have other : isDigit first = false := by simpa using stops
        simp [other]
  have all := dumpNumber_digits n
  rw [readNumber, List.takeWhile_append_of_pos all, List.dropWhile_append_of_pos all, ends.1,
    ends.2, List.append_nil, dumpNumber_value]

theorem readNumber_dump (n : Nat) {rest : Bytes} (delimited : Delimited rest) :
    readNumber (dumpNumber n ++ rest) = (n, rest) := by
  apply readNumber_stops
  obtain ⟨tail, rfl | rfl⟩ := delimited <;> rfl

/-- A number starts with a digit. -/
theorem dumpNumber_cons (n : Nat) :
    ∃ first tail, dumpNumber n = first :: tail ∧ isDigit first = true := by
  cases dumped : dumpNumber n with
  | nil =>
      simp only [dumpNumber] at dumped
      split at dumped
      · cases dumped
      · rename_i positive
        rw [List.map_eq_nil_iff, List.reverse_eq_nil_iff] at dumped
        exact absurd (Nat.digits_eq_nil_iff_eq_zero.mp dumped) positive
  | cons first tail => exact ⟨first, tail, rfl, dumpNumber_digits n first (by simp [dumped])⟩

/-! ## Values -/

mutual

/-- `dump()`. -/
def Json.dumpText : Json → Bytes
  | .null => ascii "null"
  | .boolean value => if value then ascii "true" else ascii "false"
  | .unsigned value => dumpNumber value.toNat
  | .integer value => if value < 0 then 45 :: dumpNumber value.natAbs else dumpNumber value.toNat
  | .floating literal => literal
  | .string value => dumpString value
  | .array [] => ascii "[]"
  | .array (item :: rest) => 91 :: (item.dumpText ++ dumpItems rest)
  | .object [] => ascii "\x7b\x7d"
  | .object ((key, value) :: rest) =>
      123 :: (dumpString key ++ 58 :: (value.dumpText ++ dumpMembers rest))

/-- The further items of an array, and its end. -/
def dumpItems : List Json → Bytes
  | [] => [93]
  | item :: rest => 44 :: (item.dumpText ++ dumpItems rest)

/-- The further members of an object, and its end. -/
def dumpMembers : List (Bytes × Json) → Bytes
  | [] => [125]
  | (key, value) :: rest => 44 :: (dumpString key ++ 58 :: (value.dumpText ++ dumpMembers rest))

end

/-- The members of an object up to its end, the first one directly ahead. -/
def readMembers (readValue : Bytes → Option (Json × Bytes)) :
    Nat → Bytes → Option (List (Bytes × Json) × Bytes)
  | fuel + 1, 34 :: rest =>
      match readString rest with
      | some (key, 58 :: rest) =>
          match readValue rest with
          | some (value, 44 :: rest) =>
              (readMembers readValue fuel rest).map fun found => ((key, value) :: found.1, found.2)
          | some (value, 125 :: rest) => some ([(key, value)], rest)
          | _ => none
      | _ => none
  | _, _ => none

/-- A string, an unsigned number or an object, to a given depth of objects. -/
def readValue : Nat → Bytes → Option (Json × Bytes)
  | _, 34 :: rest => (readString rest).map fun found => (.string found.1, found.2)
  | depth + 1, 123 :: rest =>
      match rest with
      | 125 :: rest => some (.object [], rest)
      | _ =>
          (readMembers (readValue depth) rest.length rest).map fun found =>
            (.object found.1, found.2)
  | _, text =>
      if (text.head?.map isDigit) = some true then
        some (.unsigned (readNumber text).1.toUInt64, (readNumber text).2)
      else none

/-- A document of strings, unsigned numbers and objects of the depth. -/
inductive Flat : Nat → Json → Prop where
  | string (depth : Nat) (value : Bytes) : Flat depth (.string value)
  | unsigned (depth : Nat) (value : UInt64) : Flat depth (.unsigned value)
  | object {depth : Nat} {members : List (Bytes × Json)}
      (flat : ∀ member ∈ members, Flat depth member.2) : Flat (depth + 1) (.object members)

theorem readValue_number (depth n : Nat) {rest : Bytes} (delimited : Delimited rest) :
    readValue depth (dumpNumber n ++ rest) = some (.unsigned n.toUInt64, rest) := by
  have read := readNumber_dump n delimited
  obtain ⟨first, tail, same, digit⟩ := dumpNumber_cons n
  have notQuote : first ≠ 34 := by rintro rfl; cases digit
  have notBrace : first ≠ 123 := by rintro rfl; cases digit
  rw [same, List.cons_append] at read ⊢
  rw [readValue.eq_def]
  split
  · simp_all
  · simp_all
  · simp [digit, read]

theorem dumpMembers_length (members : List (Bytes × Json)) :
    members.length < (dumpMembers members).length := by
  induction members with
  | nil => simp [dumpMembers]
  | cons member rest ih =>
      obtain ⟨key, value⟩ := member
      simp only [dumpMembers, List.length_cons, List.length_append]
      omega

theorem delimited_members (members : List (Bytes × Json)) (rest : Bytes) :
    Delimited (dumpMembers members ++ rest) := by
  cases members with
  | nil => exact ⟨rest, .inr rfl⟩
  | cons member more =>
      obtain ⟨key, value⟩ := member
      exact ⟨_, .inl rfl⟩

/-- Members are read back if their values are. -/
theorem readMembers_dump {read : Bytes → Option (Json × Bytes)} {key : Bytes} {value : Json}
    {members : List (Bytes × Json)}
    (reads : ∀ member ∈ (key, value) :: members, ∀ rest, Delimited rest →
      read (member.2.dumpText ++ rest) = some (member.2, rest))
    {fuel : Nat} (enough : members.length < fuel) (rest : Bytes) :
    readMembers read fuel
        (dumpString key ++ 58 :: (value.dumpText ++ dumpMembers members) ++ rest) =
      some ((key, value) :: members, rest) := by
  induction members generalizing fuel key value with
  | nil =>
      obtain ⟨fuel, rfl⟩ : ∃ n, fuel = n + 1 := ⟨fuel - 1, by omega⟩
      have first := reads _ List.mem_cons_self (125 :: rest) ⟨rest, .inr rfl⟩
      simp [dumpString, readMembers, readString_dump, dumpMembers, first]
  | cons member more ih =>
      obtain ⟨fuel, rfl⟩ : ∃ n, fuel = n + 1 := ⟨fuel - 1, by omega⟩
      obtain ⟨nextKey, nextValue⟩ := member
      have first := reads _ List.mem_cons_self
        (dumpMembers ((nextKey, nextValue) :: more) ++ rest) (delimited_members _ _)
      have shorter : more.length < fuel := by
        simp only [List.length_cons] at enough
        omega
      have later := ih (fun member present => reads member (List.mem_cons_of_mem _ present)) shorter
      simp only [dumpMembers, dumpString, List.cons_append, List.append_assoc, List.nil_append]
        at first later
      simp [dumpString, readMembers, readString_dump, dumpMembers, first, later]

/-- An object is read back if the values of its members are, whatever follows it. -/
theorem readValue_object {depth : Nat} {members : List (Bytes × Json)}
    (reads : ∀ member ∈ members, ∀ rest, Delimited rest →
      readValue depth (member.2.dumpText ++ rest) = some (member.2, rest)) (rest : Bytes) :
    readValue (depth + 1) ((Json.object members).dumpText ++ rest) = some (.object members, rest) := by
  cases members with
  | nil => rfl
  | cons member more =>
      obtain ⟨key, value⟩ := member
      have enough : more.length <
          (dumpString key ++ 58 :: (value.dumpText ++ dumpMembers more) ++ rest).length := by
        have := dumpMembers_length more
        simp only [List.length_append, List.length_cons]
        omega
      have read := readMembers_dump reads enough rest
      have unfolded : ∀ text, readValue (depth + 1) (123 :: 34 :: text) =
          (readMembers (readValue depth) (34 :: text).length (34 :: text)).map fun found =>
            (.object found.1, found.2) := fun _ => by
        rw [readValue]
        simp
      simp only [dumpString, List.cons_append] at read
      simp only [Json.dumpText, dumpString, List.cons_append]
      rw [unfolded, read]
      rfl

/-- **A flat document is read back from its text.** -/
theorem readValue_dump {depth : Nat} {value : Json} (flat : Flat depth value) (rest : Bytes)
    (delimited : Delimited rest) :
    readValue depth (value.dumpText ++ rest) = some (value, rest) := by
  induction flat generalizing rest with
  | string depth value =>
      simp [Json.dumpText, dumpString, readValue, readString_dump]
  | unsigned depth value =>
      have read := readValue_number depth value.toNat delimited
      rw [Json.dumpText, read]
      simp
  | object flat reads => exact readValue_object reads rest

/-! ## The library -/

/-- A whole document, with the newline behind it. -/
def readDocument (text : Bytes) : Option Json :=
  match readValue 2 text with
  | some (document, [10]) => some document
  | _ => none

/-- The compact writer and its reader. -/
def compact : JsonLibrary where
  parse := readDocument
  dump document := some document.dumpText

theorem stateDocument_flat (identity : ControllerIdentity) (values : Values) :
    ∃ members, stateDocument identity values = .object members ∧
      ∀ member ∈ members, Flat 1 member.2 := by
  refine ⟨_, rfl, ?_⟩
  simp only [List.mem_cons, List.not_mem_nil, or_false, forall_eq_or_imp, forall_eq]
  refine ⟨.string _ _, .unsigned _ _, .unsigned _ _, .unsigned _ _, .unsigned _ _, .string _ _,
    .object ?_⟩
  intro member listed
  obtain ⟨entry, _, rfl⟩ := List.mem_map.mp listed
  exact .string _ _

/-- **The assumption of the store can be met.** -/
theorem compact_inverts : compact.Inverts := by
  intro identity values _
  refine ⟨_, rfl, ?_⟩
  obtain ⟨members, same, flat⟩ := stateDocument_flat identity values
  have read := readValue_object (fun member listed => readValue_dump (flat member listed)) [10]
  show readDocument ((stateDocument identity values).dumpText ++ [10]) = _
  rw [readDocument, same, read]
  rfl

end WotexMatter.Storage
