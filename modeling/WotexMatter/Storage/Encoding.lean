/-
# WotexMatter.Storage.Encoding -- keys and Base64 values of the durable store

`native/src/storage.cpp` writes the SDK's key-value pairs into one JSON document:
keys as JSON strings, values in Base64.  This module is its byte level, `ValidUtf8`,
`ValidKey`, `Base64Encode` and `Base64Decode`, over lists of bytes.

The arithmetic is the source's: shifts, ors and masks on numbers below `2^24`, which
a 32-bit word never wraps.  `group_eq` and `sextets_eq` say once that those are sums
and digits, and `base64Decode_encode` is the round trip the reader relies on.
-/
import Mathlib.Data.List.Basic
import Mathlib.Tactic.IntervalCases

set_option autoImplicit false

namespace WotexMatter.Storage

/-- A `std::string` or a `std::vector<std::uint8_t>`. -/
abbrev Bytes := List UInt8

/-- The bytes of a literal of the source. -/
def ascii (text : String) : Bytes := text.toList.map fun c => UInt8.ofNat c.toNat

/-! ## Keys -/

/-- The byte carries six more bits of a code point: `(byte & 0xC0) == 0x80`. -/
def isContinuation (byte : UInt8) : Bool := byte &&& 0xC0 == 0x80

/-- The loop over the continuation bytes: `codepoint = (codepoint << 6) | (byte & 0x3F)`. -/
def codepoint (leading : Nat) (continuation : Bytes) : Nat :=
  continuation.foldl (fun point byte => point <<< 6 ||| (byte &&& 0x3F).toNat) leading

/-- What `ValidUtf8` asks of one character of more than one byte. -/
def validCharacter (leading : UInt8) (continuation : Bytes) : Bool :=
  let point := codepoint leading.toNat continuation
  continuation.all isContinuation &&
    !(continuation.length = 2 && point < 0x800 || continuation.length = 3 && point < 0x10000 ||
      0xD800 ≤ point && point ≤ 0xDFFF || 0x10FFFF < point)

/-- `ValidUtf8`: shortest-form UTF-8 without surrogates and without a NUL. -/
def validUtf8 : Bytes → Bool
  | [] => true
  | first :: rest =>
      if first = 0 then false
      else if first ≤ 0x7F then validUtf8 rest
      else if 0xC2 ≤ first ∧ first ≤ 0xDF then
        match rest with
        | a :: rest => validCharacter (first &&& 0x1F) [a] && validUtf8 rest
        | _ => false
      else if 0xE0 ≤ first ∧ first ≤ 0xEF then
        match rest with
        | a :: b :: rest => validCharacter (first &&& 0x0F) [a, b] && validUtf8 rest
        | _ => false
      else if 0xF0 ≤ first ∧ first ≤ 0xF4 then
        match rest with
        | a :: b :: c :: rest => validCharacter (first &&& 0x07) [a, b, c] && validUtf8 rest
        | _ => false
      else false

def kMaximumKeyBytes : Nat := 255

def kMaximumValueBytes : Nat := 65535

/-- The bytes before the first NUL among the first `limit`: what `strnlen` measures. -/
def cString (limit : Nat) (memory : Bytes) : Bytes :=
  (memory.take limit).takeWhile fun byte => byte ≠ 0

/-- `ValidKey`: the C string at a pointer (`none` for a null one), cut off after
`kMaximumKeyBytes + 1` bytes, with the normalized key as its result. -/
def validKey : Option Bytes → Option Bytes
  | none => none
  | some memory =>
      let key := cString (kMaximumKeyBytes + 1) memory
      if key.length = 0 ∨ kMaximumKeyBytes < key.length then none
      else if validUtf8 key then some key
      else none

/-- A key both the writer and the reader admit. -/
def AdmittedKey (key : Bytes) : Prop :=
  key ≠ [] ∧ key.length ≤ kMaximumKeyBytes ∧ validUtf8 key = true

theorem validKey_admitted {memory : Option Bytes} {key : Bytes} (valid : validKey memory = some key) :
    AdmittedKey key := by
  cases memory with
  | none => simp [validKey] at valid
  | some memory =>
      simp only [validKey] at valid
      split at valid
      · cases valid
      · rename_i bounds
        split at valid
        · rename_i encoded
          cases valid
          refine ⟨?_, by omega, encoded⟩
          intro empty
          simp [empty] at bounds
        · cases valid

/-! ## Base64 -/

/-- `alphabet`, one character for each six-bit digit. -/
def alphabet : Bytes :=
  ascii "ABCDEFGHIJKLMNOPQRSTUVWXYZabcdefghijklmnopqrstuvwxyz0123456789+/"

/-- The padding character. -/
def pad : UInt8 := 61

/-- `alphabet[digit & 0x3F]`. -/
def letter (digit : Nat) : UInt8 := alphabet.getD (digit &&& 0x3F) 0

/-- The 24 bits of three bytes: `(first << 16) | (second << 8) | third`. -/
def group (first second third : UInt8) : Nat :=
  first.toNat <<< 16 ||| second.toNat <<< 8 ||| third.toNat

/-- `Base64Encode`, three bytes at a time. -/
def base64Encode : Bytes → Bytes
  | [] => []
  | [first] =>
      let value := group first 0 0
      [letter (value >>> 18), letter (value >>> 12), pad, pad]
  | [first, second] =>
      let value := group first second 0
      [letter (value >>> 18), letter (value >>> 12), letter (value >>> 6), pad]
  | first :: second :: third :: rest =>
      let value := group first second third
      letter (value >>> 18) :: letter (value >>> 12) :: letter (value >>> 6) :: letter value ::
        base64Encode rest

/-- `Base64Value`; the source's `-1` is `none`. -/
def base64Value (value : UInt8) : Option Nat :=
  if 65 ≤ value ∧ value ≤ 90 then some (value.toNat - 65)
  else if 97 ≤ value ∧ value ≤ 122 then some (value.toNat - 97 + 26)
  else if 48 ≤ value ∧ value ≤ 57 then some (value.toNat - 48 + 52)
  else if value = 43 then some 62
  else if value = 47 then some 63
  else none

/-- One round of `Base64Decode`: four characters, and whether they are the last four. -/
def decodeGroup (last : Bool) (c₀ c₁ c₂ c₃ : UInt8) : Option Bytes := do
  let padC := c₂ == pad
  let padD := c₃ == pad
  let a ← base64Value c₀
  let b ← base64Value c₁
  let c ← if padC then some 0 else base64Value c₂
  let d ← if padD then some 0 else base64Value c₃
  if !last && (padC || padD) || padC && !padD then none
  else
    let value := a <<< 18 ||| b <<< 12 ||| c <<< 6 ||| d
    some ((value >>> 16 &&& 0xFF).toUInt8 ::
      ((if padC then [] else [(value >>> 8 &&& 0xFF).toUInt8]) ++
        if padD then [] else [(value &&& 0xFF).toUInt8]))

/-- The loop of `Base64Decode`; a length that is not a multiple of four ends in `none`. -/
def decodeGroups : Bytes → Option Bytes
  | [] => some []
  | c₀ :: c₁ :: c₂ :: c₃ :: rest => do
      let bytes ← decodeGroup rest.isEmpty c₀ c₁ c₂ c₃
      let more ← decodeGroups rest
      some (bytes ++ more)
  | _ => none

/-- `Base64Decode`: the bytes, if the text is their canonical encoding and they fit. -/
def base64Decode (encoded : Bytes) : Option Bytes :=
  match decodeGroups encoded with
  | none => none
  | some bytes =>
      if bytes.length ≤ kMaximumValueBytes ∧ base64Encode bytes = encoded then some bytes else none

/-! ## The round trip -/

theorem and_0x3F (n : Nat) : n &&& 0x3F = n % 64 := Nat.and_two_pow_sub_one_eq_mod n 6

theorem and_0xFF (n : Nat) : n &&& 0xFF = n % 256 := Nat.and_two_pow_sub_one_eq_mod n 8

/-- The bits of the three bytes do not overlap, so their or is a sum. -/
theorem group_eq (first second third : UInt8) :
    group first second third = first.toNat * 65536 + second.toNat * 256 + third.toNat := by
  have low : third.toNat < 2 ^ 8 := third.toNat_lt
  have middle : second.toNat <<< 8 ||| third.toNat = second.toNat * 256 + third.toNat := by
    rw [← Nat.shiftLeft_add_eq_or_of_lt low, Nat.shiftLeft_eq]
  have bound : second.toNat * 256 + third.toNat < 2 ^ 16 := by
    have := second.toNat_lt
    omega
  rw [group, Nat.or_assoc, middle, ← Nat.shiftLeft_add_eq_or_of_lt bound, Nat.shiftLeft_eq]
  omega

/-- The same for the four digits the decoder puts together. -/
theorem sextets_eq {a b c d : Nat} (hb : b < 64) (hc : c < 64) (hd : d < 64) :
    a <<< 18 ||| b <<< 12 ||| c <<< 6 ||| d = a * 262144 + b * 4096 + c * 64 + d := by
  have low : c <<< 6 ||| d = c * 64 + d := by
    rw [← Nat.shiftLeft_add_eq_or_of_lt (show d < 2 ^ 6 from hd), Nat.shiftLeft_eq]
  have lowBound : c * 64 + d < 2 ^ 12 := by omega
  have middle : b <<< 12 ||| (c * 64 + d) = b * 4096 + (c * 64 + d) := by
    rw [← Nat.shiftLeft_add_eq_or_of_lt lowBound, Nat.shiftLeft_eq]
  have bound : b * 4096 + (c * 64 + d) < 2 ^ 18 := by omega
  rw [Nat.or_assoc, Nat.or_assoc, low, middle, ← Nat.shiftLeft_add_eq_or_of_lt bound,
    Nat.shiftLeft_eq]
  omega

theorem letters_decode :
    ∀ digit < 64, base64Value (alphabet.getD digit 0) = some digit ∧ alphabet.getD digit 0 ≠ pad := by
  decide +kernel

/-- Every letter of the alphabet stands for its own digit. -/
@[simp] theorem base64Value_letter (n : Nat) : base64Value (letter n) = some (n % 64) := by
  rw [letter, and_0x3F]
  exact (letters_decode (n % 64) (Nat.mod_lt _ (by decide))).1

@[simp] theorem letter_ne_pad (n : Nat) : (letter n == pad) = false := by
  rw [letter, and_0x3F, beq_eq_false_iff_ne]
  exact (letters_decode (n % 64) (Nat.mod_lt _ (by decide))).2

theorem group_bound (first second third : UInt8) : group first second third < 2 ^ 24 := by
  have := first.toNat_lt
  have := second.toNat_lt
  have := third.toNat_lt
  rw [group_eq]
  omega

/-- The digits of a 24-bit group put together again. -/
theorem sextets_group {value : Nat} (bound : value < 2 ^ 24) :
    (value >>> 18 % 64) <<< 18 ||| (value >>> 12 % 64) <<< 12 ||| (value >>> 6 % 64) <<< 6 |||
      value % 64 = value := by
  rw [sextets_eq (Nat.mod_lt _ (by decide)) (Nat.mod_lt _ (by decide)) (Nat.mod_lt _ (by decide))]
  simp only [Nat.shiftRight_eq_div_pow]
  omega

theorem toUInt8_of_mod {n : Nat} (byte : UInt8) (same : n % 256 = byte.toNat) :
    n.toUInt8 = byte := by
  apply UInt8.toNat_inj.mp
  rw [UInt8.toNat_ofNat']
  exact same

/-- The three bytes read back out of their group. -/
theorem bytes_of_group (first second third : UInt8) :
    (group first second third >>> 16 &&& 0xFF).toUInt8 = first ∧
      (group first second third >>> 8 &&& 0xFF).toUInt8 = second ∧
      (group first second third &&& 0xFF).toUInt8 = third := by
  have h₁ := first.toNat_lt
  have h₂ := second.toNat_lt
  have h₃ := third.toNat_lt
  simp only [and_0xFF, group_eq, Nat.shiftRight_eq_div_pow]
  exact ⟨toUInt8_of_mod first (by omega), toUInt8_of_mod second (by omega),
    toUInt8_of_mod third (by omega)⟩

theorem decodeGroup_three (last : Bool) (first second third : UInt8) :
    decodeGroup last (letter (group first second third >>> 18))
      (letter (group first second third >>> 12)) (letter (group first second third >>> 6))
      (letter (group first second third)) = some [first, second, third] := by
  obtain ⟨h₁, h₂, h₃⟩ := bytes_of_group first second third
  simp only [decodeGroup, letter_ne_pad, base64Value_letter, Option.bind_eq_bind,
    Option.bind_some, Bool.or_false, Bool.and_false, Bool.false_and, Bool.false_eq_true,
    if_false, sextets_group (group_bound first second third), h₁, h₂, h₃]
  rfl

theorem decodeGroup_two (first second : UInt8) :
    decodeGroup true (letter (group first second 0 >>> 18)) (letter (group first second 0 >>> 12))
      (letter (group first second 0 >>> 6)) pad = some [first, second] := by
  obtain ⟨h₁, h₂, _⟩ := bytes_of_group first second 0
  have joined := sextets_group (group_bound first second 0)
  have none : group first second 0 % 64 = 0 := by
    rw [group_eq]
    simp
    omega
  rw [none] at joined
  simp only [decodeGroup, letter_ne_pad, base64Value_letter, Option.bind_eq_bind,
    Option.bind_some, beq_self_eq_true, Bool.not_true, Bool.false_and, Bool.or_false,
    Bool.false_eq_true, if_false, if_true, joined, h₁, h₂]
  rfl

theorem decodeGroup_one (first : UInt8) :
    decodeGroup true (letter (group first 0 0 >>> 18)) (letter (group first 0 0 >>> 12)) pad pad =
      some [first] := by
  obtain ⟨h₁, _, _⟩ := bytes_of_group first 0 0
  have joined := sextets_group (group_bound first 0 0)
  have noThird : group first 0 0 % 64 = 0 := by
    rw [group_eq]
    simp
    omega
  have noSecond : group first 0 0 >>> 6 % 64 = 0 := by
    rw [group_eq, Nat.shiftRight_eq_div_pow]
    simp
    omega
  rw [noThird, noSecond] at joined
  simp only [decodeGroup, base64Value_letter, Option.bind_eq_bind,
    Option.bind_some, beq_self_eq_true, Bool.not_true, Bool.false_and, Bool.and_false,
    Bool.or_false, Bool.false_eq_true, if_false, if_true, joined, h₁]
  rfl

theorem decodeGroups_encode (bytes : Bytes) : decodeGroups (base64Encode bytes) = some bytes := by
  fun_induction base64Encode bytes with
  | case1 => rfl
  | case2 first value => simp [decodeGroups, value, decodeGroup_one]
  | case3 first second value => simp [decodeGroups, value, decodeGroup_two]
  | case4 first second third rest value more =>
      simp [decodeGroups, value, decodeGroup_three, more]

/-- **`Base64Decode` inverts `Base64Encode`** on every value the store admits. -/
theorem base64Decode_encode {bytes : Bytes} (fits : bytes.length ≤ kMaximumValueBytes) :
    base64Decode (base64Encode bytes) = some bytes := by
  simp [base64Decode, decodeGroups_encode, fits]

/-- The decoder accepts canonical encodings of admitted values, and nothing else. -/
theorem base64Decode_eq_some_iff {encoded bytes : Bytes} :
    base64Decode encoded = some bytes ↔
      encoded = base64Encode bytes ∧ bytes.length ≤ kMaximumValueBytes := by
  constructor
  · intro decoded
    simp only [base64Decode] at decoded
    split at decoded
    · cases decoded
    · split at decoded
      · rename_i checks
        cases decoded
        exact ⟨checks.2.symm, checks.1⟩
      · cases decoded
  · rintro ⟨rfl, fits⟩
    exact base64Decode_encode fits

/-! ## Canonical text -/

/-- Groups of four letters.  The last group ends in padding where bytes are missing, and the
digit before the padding has no bits of a missing byte. -/
inductive CanonicalText : Bytes → Prop where
  | done : CanonicalText []
  | one {a b : Nat} (low : b % 16 = 0) : CanonicalText [letter a, letter b, pad, pad]
  | two {a b c : Nat} (low : c % 4 = 0) : CanonicalText [letter a, letter b, letter c, pad]
  | three {rest : Bytes} (a b c d : Nat) (more : CanonicalText rest) :
      CanonicalText (letter a :: letter b :: letter c :: letter d :: rest)

/-- The bytes a text stands for, counted on the text. -/
def decodedLength (encoded : Bytes) : Nat := encoded.length / 4 * 3 - encoded.count pad

/-- A letter depends on the low six bits. -/
theorem letter_congr {m n : Nat} (same : m % 64 = n % 64) : letter m = letter n := by
  rw [letter, letter, and_0x3F, and_0x3F, same]

theorem toNat_toUInt8 {n : Nat} (small : n < 256) : n.toUInt8.toNat = n := by
  rw [show n.toUInt8.toNat = n % 256 from UInt8.toNat_ofNat', Nat.mod_eq_of_lt small]

/-- Four digits are the letters of the three bytes they are put together to. -/
theorem letters_of_digits (a b c d : Nat) :
    ∃ first second third : UInt8,
      letter (group first second third >>> 18) = letter a ∧
        letter (group first second third >>> 12) = letter b ∧
        letter (group first second third >>> 6) = letter c ∧
        letter (group first second third) = letter d ∧
        (c % 4 = 0 → d % 64 = 0 → third = 0) ∧
        (b % 16 = 0 → c % 64 = 0 → d % 64 = 0 → second = 0) := by
  obtain ⟨first, hfirst⟩ : ∃ byte : UInt8, byte.toNat = (a % 64) * 4 + b % 64 / 16 :=
    ⟨_, toNat_toUInt8 (by omega)⟩
  obtain ⟨second, hsecond⟩ : ∃ byte : UInt8, byte.toNat = (b % 16) * 16 + c % 64 / 4 :=
    ⟨_, toNat_toUInt8 (by omega)⟩
  obtain ⟨third, hthird⟩ : ∃ byte : UInt8, byte.toNat = (c % 4) * 64 + d % 64 :=
    ⟨_, toNat_toUInt8 (by omega)⟩
  have value : group first second third =
      (a % 64) * 262144 + (b % 64) * 4096 + (c % 64) * 64 + d % 64 := by
    rw [group_eq, hfirst, hsecond, hthird]
    omega
  refine ⟨first, second, third, ?_, ?_, ?_, ?_, ?_, ?_⟩
  · apply letter_congr
    rw [value, Nat.shiftRight_eq_div_pow]
    omega
  · apply letter_congr
    rw [value, Nat.shiftRight_eq_div_pow]
    omega
  · apply letter_congr
    rw [value, Nat.shiftRight_eq_div_pow]
    omega
  · apply letter_congr
    omega
  · intro low last
    apply UInt8.toNat_inj.mp
    rw [hthird, low, last]
    rfl
  · intro low middle _
    apply UInt8.toNat_inj.mp
    rw [hsecond, low, middle]
    rfl

/-- **The encoder writes canonical text, and every canonical text.** -/
theorem canonicalText_iff {encoded : Bytes} :
    CanonicalText encoded ↔ ∃ bytes, base64Encode bytes = encoded := by
  constructor
  · intro canonical
    induction canonical with
    | done => exact ⟨[], rfl⟩
    | @one a b low =>
        obtain ⟨first, second, third, h₁, h₂, _, _, noThird, noSecond⟩ := letters_of_digits a b 0 0
        cases noThird rfl rfl
        cases noSecond low rfl rfl
        exact ⟨[first], by simp only [base64Encode, h₁, h₂]⟩
    | @two a b c low =>
        obtain ⟨first, second, third, h₁, h₂, h₃, _, noThird, _⟩ := letters_of_digits a b c 0
        cases noThird low rfl
        exact ⟨[first, second], by simp only [base64Encode, h₁, h₂, h₃]⟩
    | three a b c d _ more =>
        obtain ⟨bytes, rfl⟩ := more
        obtain ⟨first, second, third, h₁, h₂, h₃, h₄, _⟩ := letters_of_digits a b c d
        exact ⟨first :: second :: third :: bytes, by simp only [base64Encode, h₁, h₂, h₃, h₄]⟩
  · rintro ⟨bytes, rfl⟩
    fun_induction base64Encode bytes with
    | case1 => exact .done
    | case2 first value =>
        refine .one ?_
        show group first 0 0 >>> 12 % 16 = 0
        rw [group_eq, Nat.shiftRight_eq_div_pow]
        simp only [UInt8.toNat_zero]
        omega
    | case3 first second value =>
        refine .two ?_
        show group first second 0 >>> 6 % 4 = 0
        rw [group_eq, Nat.shiftRight_eq_div_pow]
        simp only [UInt8.toNat_zero]
        omega
    | case4 first second third rest value more => exact .three _ _ _ _ more

theorem decodedLength_encode (bytes : Bytes) : decodedLength (base64Encode bytes) = bytes.length := by
  have plain : ∀ n, letter n ≠ pad := fun n => beq_eq_false_iff_ne.mp (letter_ne_pad n)
  have bound : ∀ bytes : Bytes, (base64Encode bytes).count pad ≤ 2 ∧
      (base64Encode bytes).length / 4 * 3 = bytes.length + (base64Encode bytes).count pad := by
    intro bytes
    fun_induction base64Encode bytes with
    | case1 => simp
    | case2 first value => simp [plain]
    | case3 first second value => simp [plain]
    | case4 first second third rest value more =>
        simp only [List.length_cons, List.count_cons_of_ne (plain _)]
        omega
  have counted := bound bytes
  rw [decodedLength]
  omega

/-- **Base64 is a bijection onto canonical text.**  A value the store admits is read back from
what is written of it, and a text is accepted if and only if it is written of such a value: the
canonical texts of at most 65535 bytes. -/
theorem base64_canonical (encoded bytes : Bytes) :
    (bytes.length ≤ kMaximumValueBytes → base64Decode (base64Encode bytes) = some bytes) ∧
      ((base64Decode encoded).isSome = true ↔
        ∃ original, original.length ≤ kMaximumValueBytes ∧ base64Encode original = encoded) ∧
      ((base64Decode encoded).isSome = true ↔
        CanonicalText encoded ∧ decodedLength encoded ≤ kMaximumValueBytes) := by
  have accepted : (base64Decode encoded).isSome = true ↔
      ∃ original, original.length ≤ kMaximumValueBytes ∧ base64Encode original = encoded := by
    simp only [Option.isSome_iff_exists, base64Decode_eq_some_iff]
    constructor
    · rintro ⟨original, same, fits⟩
      exact ⟨original, fits, same.symm⟩
    · rintro ⟨original, fits, same⟩
      exact ⟨original, same.symm, fits⟩
  refine ⟨base64Decode_encode, accepted, accepted.trans ?_⟩
  rw [canonicalText_iff]
  constructor
  · rintro ⟨original, fits, rfl⟩
    exact ⟨⟨original, rfl⟩, by rwa [decodedLength_encode]⟩
  · rintro ⟨⟨original, rfl⟩, fits⟩
    exact ⟨original, by rwa [decodedLength_encode] at fits, rfl⟩

end WotexMatter.Storage
