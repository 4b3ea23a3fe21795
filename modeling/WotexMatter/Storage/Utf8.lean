/-
# WotexMatter.Storage.Utf8 -- which keys are UTF-8

`ValidUtf8` (`native/src/storage.cpp`) against the encoding of characters.  `validUtf8` walks a list
and so cannot leave it; `utf8Loop` is the same loop over an index, where a read past the end and a
loop that does not come to an end are outcomes of their own.  `validUtf8_exact` is both results: the
loop ends within one round a byte and never reads past the end, and it accepts the encodings of
sequences of characters other than NUL, and nothing else.
-/
import WotexMatter.Storage.Encoding

set_option autoImplicit false

namespace WotexMatter.Storage

/-! ## The loop over an index -/

inductive Utf8Outcome where
  | result (valid : Bool)
  | overrun
  | unfinished
  deriving DecidableEq

/-- The class of a first byte of a longer character: how many bytes follow, and its own bits. -/
def leadingByte (first : UInt8) : Option (Nat × Nat) :=
  if 0xC2 ≤ first ∧ first ≤ 0xDF then some (1, (first &&& 0x1F).toNat)
  else if 0xE0 ≤ first ∧ first ≤ 0xEF then some (2, (first &&& 0x0F).toNat)
  else if 0xF0 ≤ first ∧ first ≤ 0xF4 then some (3, (first &&& 0x07).toNat)
  else none

/-- The loop over `offset`. -/
def readContinuation (value : Bytes) (index : Nat) : List Nat → Nat → Except Utf8Outcome Nat
  | [], codepoint => .ok codepoint
  | offset :: rest, codepoint =>
      match value[index + offset]? with
      | none => .error .overrun
      | some byte =>
          if isContinuation byte then
            readContinuation value index rest (codepoint <<< 6 ||| (byte &&& 0x3F).toNat)
          else .error (.result false)

/-- `ValidUtf8` from `index` on, for at most so many rounds. -/
def utf8Loop (value : Bytes) : Nat → Nat → Utf8Outcome
  | 0, _ => .unfinished
  | rounds + 1, index =>
      if index < value.length then
        match value[index]? with
        | none => .overrun
        | some first =>
            if first = 0 then .result false
            else if first ≤ 0x7F then utf8Loop value rounds (index + 1)
            else
              match leadingByte first with
              | none => .result false
              | some (continuation, codepoint) =>
                  if value.length ≤ index + continuation then .result false
                  else
                    match readContinuation value index (List.range' 1 continuation) codepoint with
                    | .error outcome => outcome
                    | .ok codepoint =>
                        if continuation = 2 ∧ codepoint < 0x800 ∨
                            continuation = 3 ∧ codepoint < 0x10000 ∨
                            0xD800 ≤ codepoint ∧ codepoint ≤ 0xDFFF ∨ 0x10FFFF < codepoint then
                          .result false
                        else utf8Loop value rounds (index + continuation + 1)
      else .result true

/-- The bytes behind the index, where there are enough of them. -/
theorem readContinuation_eq {value front following back : Bytes} {first : UInt8} (codepoint : Nat)
    (same : value = front ++ first :: (following ++ back)) :
    readContinuation value front.length (List.range' 1 following.length) codepoint =
      if following.all isContinuation then .ok (Storage.codepoint codepoint following)
      else .error (.result false) := by
  have general : ∀ (done todo : Bytes) (codepoint : Nat), following = done ++ todo →
      readContinuation value front.length (List.range' (1 + done.length) todo.length) codepoint =
        if todo.all isContinuation then .ok (Storage.codepoint codepoint todo)
        else .error (.result false) := by
    intro done todo
    induction todo generalizing done with
    | nil => intro codepoint _; rfl
    | cons byte rest ih =>
        intro codepoint split
        have here : value[front.length + (1 + done.length)]? = some byte := by
          rw [same, List.getElem?_append_right (by omega), show front.length + (1 + done.length) -
            front.length = done.length + 1 by omega, List.getElem?_cons_succ, split,
            List.append_assoc, List.getElem?_append_right (Nat.le_refl _), Nat.sub_self]
          rfl
        rw [List.length_cons, List.range'_succ, readContinuation, here]
        by_cases continues : isContinuation byte = true
        · have later := ih (done ++ [byte]) (codepoint <<< 6 ||| (byte &&& 0x3F).toNat)
            (by rw [split, List.append_assoc]; rfl)
          rw [List.length_append, List.length_singleton, ← Nat.add_assoc] at later
          simp only [continues, if_true, later, List.all_cons, Bool.true_and]
          rfl
        · simp [continues]
  exact general [] following codepoint rfl

theorem getElem?_front {value front rest : Bytes} {first : UInt8}
    (same : value = front ++ first :: rest) : value[front.length]? = some first := by
  rw [same, List.getElem?_append_right (Nat.le_refl _), Nat.sub_self]
  rfl

/-- What is asked of one character, in numbers. -/
theorem validCharacter_iff (leading : UInt8) (following : Bytes) :
    validCharacter leading following = true ↔ following.all isContinuation = true ∧
      ¬(following.length = 2 ∧ codepoint leading.toNat following < 0x800 ∨
        following.length = 3 ∧ codepoint leading.toNat following < 0x10000 ∨
        0xD800 ≤ codepoint leading.toNat following ∧
          codepoint leading.toNat following ≤ 0xDFFF ∨
        0x10FFFF < codepoint leading.toNat following) := by
  simp only [validCharacter, Bool.and_eq_true, Bool.not_eq_true', Bool.or_eq_false_iff,
    Bool.and_eq_false_imp, decide_eq_true_eq, decide_eq_false_iff_not]
  tauto

/-- A character whose bytes are all there takes one round. -/
theorem utf8Loop_character {value front following back : Bytes} {first : UInt8} {leading : UInt8}
    (rounds : Nat) (same : value = front ++ first :: (following ++ back))
    (long : ¬first ≤ 0x7F) (lead : leadingByte first = some (following.length, leading.toNat)) :
    utf8Loop value (rounds + 1) front.length =
      if validCharacter leading following then
        utf8Loop value rounds (front ++ first :: following).length
      else .result false := by
  have size : value.length = front.length + (1 + following.length + back.length) := by
    simp [same]
    omega
  have nonzero : first ≠ 0 := by
    rintro rfl
    exact long (by decide)
  have read := readContinuation_eq leading.toNat same
  rw [utf8Loop, if_pos (by omega), getElem?_front same]
  simp only [nonzero, long, if_false, lead, read,
    show ¬value.length ≤ front.length + following.length by omega]
  by_cases continues : following.all isContinuation = true
  · have checks := validCharacter_iff leading following
    rw [continues] at checks
    simp only [true_and] at checks
    rw [if_pos continues]
    simp only [checks, ite_not, List.length_append, List.length_cons, Nat.add_assoc]
  · simp only [validCharacter, continues, if_false, Bool.false_and, Bool.false_eq_true]

/-- A character whose bytes are not all there ends the loop. -/
theorem utf8Loop_truncated {value front rest : Bytes} {first : UInt8} {continuation leading : Nat}
    (rounds : Nat) (same : value = front ++ first :: rest) (long : ¬first ≤ 0x7F)
    (lead : leadingByte first = some (continuation, leading)) (short : rest.length < continuation) :
    utf8Loop value (rounds + 1) front.length = .result false := by
  have size : value.length = front.length + (rest.length + 1) := by simp [same]
  have nonzero : first ≠ 0 := by
    rintro rfl
    exact long (by decide)
  rw [utf8Loop, if_pos (by omega), getElem?_front same]
  simp only [nonzero, long, if_false, lead,
    show value.length ≤ front.length + continuation by omega, if_true]

/-- **The loop ends, and never reads past the end.** -/
theorem utf8Loop_eq {value : Bytes} (rounds : Nat) :
    ∀ front back, value = front ++ back → back.length < rounds →
      utf8Loop value rounds front.length = .result (validUtf8 back) := by
  induction rounds with
  | zero =>
      intro front back _ few
      omega
  | succ rounds ih =>
      intro front back same few
      cases back with
      | nil =>
          have size : value.length = front.length := by simp [same]
          rw [utf8Loop, if_neg (by omega), validUtf8]
      | cons first rest =>
          have size : value.length = front.length + (rest.length + 1) := by simp [same]
          simp only [List.length_cons] at few
          by_cases zero : first = 0
          · rw [utf8Loop, if_pos (by omega), getElem?_front same]
            rw [validUtf8.eq_def]
            simp only [zero, if_true]
          by_cases short : first ≤ 0x7F
          · have later := ih (front ++ [first]) rest (by simp [same]) (by omega)
            rw [List.length_append, List.length_singleton] at later
            rw [utf8Loop, if_pos (by omega), getElem?_front same]
            rw [validUtf8.eq_def]
            simp only [zero, short, if_false, if_true, later]
          -- one more round behind a character that is all there
          have whole : ∀ (leading : UInt8) (following tail : Bytes), rest = following ++ tail →
              leadingByte first = some (following.length, leading.toNat) →
              utf8Loop value (rounds + 1) front.length =
                .result (validCharacter leading following && validUtf8 tail) := by
            rintro leading following tail rfl lead
            rw [utf8Loop_character rounds same short lead]
            split
            · rename_i valid
              rw [ih (front ++ first :: following) tail (by simp [same])
                (by simp at few; omega), valid, Bool.true_and]
            · rename_i invalid
              rw [Bool.not_eq_true] at invalid
              rw [invalid, Bool.false_and]
          by_cases two : 0xC2 ≤ first ∧ first ≤ 0xDF
          · have lead : leadingByte first = some (1, (first &&& 0x1F).toNat) := if_pos two
            rw [validUtf8.eq_def]
            dsimp only
            rw [if_neg zero, if_neg short, if_pos two]
            match rest, same, whole with
            | [], same, _ => exact utf8Loop_truncated rounds same short lead (by simp)
            | a :: tail, _, whole => exact whole (first &&& 0x1F) [a] tail rfl lead
          by_cases three : 0xE0 ≤ first ∧ first ≤ 0xEF
          · have lead : leadingByte first = some (2, (first &&& 0x0F).toNat) := by
              rw [leadingByte, if_neg two, if_pos three]
            rw [validUtf8.eq_def]
            dsimp only
            rw [if_neg zero, if_neg short, if_neg two, if_pos three]
            match rest, same, whole with
            | [], same, _ => exact utf8Loop_truncated rounds same short lead (by simp)
            | [a], same, _ => exact utf8Loop_truncated rounds same short lead (by simp)
            | a :: b :: tail, _, whole => exact whole (first &&& 0x0F) [a, b] tail rfl lead
          by_cases four : 0xF0 ≤ first ∧ first ≤ 0xF4
          · have lead : leadingByte first = some (3, (first &&& 0x07).toNat) := by
              rw [leadingByte, if_neg two, if_neg three, if_pos four]
            rw [validUtf8.eq_def]
            dsimp only
            rw [if_neg zero, if_neg short, if_neg two, if_neg three, if_pos four]
            match rest, same, whole with
            | [], same, _ => exact utf8Loop_truncated rounds same short lead (by simp)
            | [a], same, _ => exact utf8Loop_truncated rounds same short lead (by simp)
            | [a, b], same, _ =>
                exact utf8Loop_truncated rounds same short lead (by simp)
            | a :: b :: c :: tail, _, whole => exact whole (first &&& 0x07) [a, b, c] tail rfl lead
          have stray : leadingByte first = none := by
            rw [leadingByte, if_neg two, if_neg three, if_neg four]
          rw [utf8Loop, if_pos (by omega), getElem?_front same]
          rw [validUtf8.eq_def]
          simp only [zero, short, two, three, four, if_false, stray]

/-! ## Characters -/

theorem isContinuation_iff (byte : UInt8) :
    isContinuation byte = true ↔ 0x80 ≤ byte.toNat ∧ byte.toNat < 0xC0 := by
  have every : ∀ n < 256, isContinuation n.toUInt8 = true ↔ 0x80 ≤ n ∧ n < 0xC0 := by
    decide +kernel
  have here := every byte.toNat byte.toNat_lt
  rwa [show byte.toNat.toUInt8 = byte from UInt8.ofNat_toNat] at here

/-- The low bits of a first byte. -/
theorem toNat_low (byte : UInt8) :
    (byte &&& 0x1F).toNat = byte.toNat % 32 ∧ (byte &&& 0x0F).toNat = byte.toNat % 16 ∧
      (byte &&& 0x07).toNat = byte.toNat % 8 ∧ (byte &&& 0x3F).toNat = byte.toNat % 64 :=
  ⟨Nat.and_two_pow_sub_one_eq_mod _ 5, Nat.and_two_pow_sub_one_eq_mod _ 4,
    Nat.and_two_pow_sub_one_eq_mod _ 3, Nat.and_two_pow_sub_one_eq_mod _ 6⟩

/-- The bits of a continuation byte do not overlap with the ones before. -/
theorem codepoint_step (point : Nat) (byte : UInt8) :
    point <<< 6 ||| byte.toNat % 64 = point * 64 + byte.toNat % 64 := by
  have small : byte.toNat % 64 < 2 ^ 6 := Nat.mod_lt _ (by decide)
  rw [← Nat.shiftLeft_add_eq_or_of_lt small, Nat.shiftLeft_eq]

/-- What is asked of a character of two bytes. -/
theorem validCharacter_two {a b : UInt8} :
    (0xC2 ≤ a ∧ a ≤ 0xDF) ∧ validCharacter (a &&& 0x1F) [b] = true ↔
      ∃ n, 0x80 ≤ n ∧ n ≤ 0x7FF ∧ a.toNat = n / 64 + 0xC0 ∧ b.toNat = n % 64 + 0x80 := by
  have bound := b.toNat_lt
  simp only [UInt8.le_iff_toNat_le, validCharacter_iff, codepoint, List.foldl_cons, List.foldl_nil,
    codepoint_step, toNat_low, List.all_cons, List.all_nil, Bool.and_true, isContinuation_iff,
    List.length_singleton, UInt8.reduceToNat]
  constructor
  · rintro ⟨range, continues, -⟩
    exact ⟨a.toNat % 32 * 64 + b.toNat % 64, by omega, by omega, by omega, by omega⟩
  · rintro ⟨n, low, high, first, second⟩
    refine ⟨by omega, by omega, ?_⟩
    omega

/-- What is asked of a character of three bytes. -/
theorem validCharacter_three {a b c : UInt8} :
    (0xE0 ≤ a ∧ a ≤ 0xEF) ∧ validCharacter (a &&& 0x0F) [b, c] = true ↔
      ∃ n, 0x800 ≤ n ∧ n ≤ 0xFFFF ∧ (n < 0xD800 ∨ 0xDFFF < n) ∧ a.toNat = n / 4096 + 0xE0 ∧
        b.toNat = n / 64 % 64 + 0x80 ∧ c.toNat = n % 64 + 0x80 := by
  simp only [UInt8.le_iff_toNat_le, validCharacter_iff, codepoint, List.foldl_cons, List.foldl_nil,
    codepoint_step, toNat_low, List.all_cons, List.all_nil, Bool.and_true, isContinuation_iff,
    List.length_cons, List.length_nil, Bool.and_eq_true, true_and, UInt8.reduceToNat]
  constructor
  · rintro ⟨range, ⟨second, third⟩, checks⟩
    exact ⟨(a.toNat % 16 * 64 + b.toNat % 64) * 64 + c.toNat % 64, by omega, by omega, by omega,
      by omega, by omega, by omega⟩
  · rintro ⟨n, low, high, scalar, first, second, third⟩
    refine ⟨by omega, by omega, ?_⟩
    omega

/-- What is asked of a character of four bytes. -/
theorem validCharacter_four {a b c d : UInt8} :
    (0xF0 ≤ a ∧ a ≤ 0xF4) ∧ validCharacter (a &&& 0x07) [b, c, d] = true ↔
      ∃ n, 0x10000 ≤ n ∧ n ≤ 0x10FFFF ∧ a.toNat = n / 262144 + 0xF0 ∧
        b.toNat = n / 4096 % 64 + 0x80 ∧ c.toNat = n / 64 % 64 + 0x80 ∧
        d.toNat = n % 64 + 0x80 := by
  simp only [UInt8.le_iff_toNat_le, validCharacter_iff, codepoint, List.foldl_cons, List.foldl_nil,
    codepoint_step, toNat_low, List.all_cons, List.all_nil, Bool.and_true, isContinuation_iff,
    List.length_cons, List.length_nil, Bool.and_eq_true, true_and, UInt8.reduceToNat]
  constructor
  · rintro ⟨range, ⟨second, third, fourth⟩, checks⟩
    exact ⟨((a.toNat % 8 * 64 + b.toNat % 64) * 64 + c.toNat % 64) * 64 + d.toNat % 64, by omega,
      by omega, by omega, by omega, by omega, by omega⟩
  · rintro ⟨n, low, high, first, second, third, fourth⟩
    refine ⟨by omega, by omega, ?_⟩
    omega

/-! ## The encoding of characters -/

theorem exists_char {n : Nat} (scalar : n < 0xD800 ∨ 0xDFFF < n ∧ n ≤ 0x10FFFF) :
    ∃ character : Char, character.val.toNat = n := by
  have valid : n.isValidChar := by
    rcases scalar with low | high
    · exact Or.inl low
    · exact Or.inr ⟨high.1, by omega⟩
  refine ⟨Char.ofNatAux n valid, ?_⟩
  exact UInt32.toNat_ofNatLT

/-- A byte is what its value says. -/
theorem ofNat_of_toNat {byte : UInt8} {n : Nat} (same : byte.toNat = n) : byte = UInt8.ofNat n := by
  rw [← same, UInt8.ofNat_toNat]

/-- The encoding of a character, by its value. -/
theorem encodeChar_eq {character : Char} {n : Nat} (same : character.val.toNat = n) :
    String.utf8EncodeChar character =
      if n ≤ 0x7F then [UInt8.ofNat n]
      else if n ≤ 0x7FF then [UInt8.ofNat (n / 64 % 0x20 + 0xC0), UInt8.ofNat (n % 0x40 + 0x80)]
      else if n ≤ 0xFFFF then
        [UInt8.ofNat (n / 4096 % 0x10 + 0xE0), UInt8.ofNat (n / 64 % 0x40 + 0x80),
          UInt8.ofNat (n % 0x40 + 0x80)]
      else
        [UInt8.ofNat (n / 262144 % 0x08 + 0xF0), UInt8.ofNat (n / 4096 % 0x40 + 0x80),
          UInt8.ofNat (n / 64 % 0x40 + 0x80), UInt8.ofNat (n % 0x40 + 0x80)] := by
  rw [← same]
  rfl

theorem encodeChar_one {character : Char} (high : character.val.toNat ≤ 0x7F) :
    String.utf8EncodeChar character = [UInt8.ofNat character.val.toNat] :=
  if_pos high

theorem encodeChar_two {character : Char} {n : Nat} (same : character.val.toNat = n)
    (low : 0x80 ≤ n) (high : n ≤ 0x7FF) :
    String.utf8EncodeChar character = [UInt8.ofNat (n / 64 + 0xC0), UInt8.ofNat (n % 64 + 0x80)] := by
  rw [encodeChar_eq same, if_neg (by omega), if_pos high,
    Nat.mod_eq_of_lt (show n / 64 < 0x20 by omega)]

theorem encodeChar_three {character : Char} {n : Nat} (same : character.val.toNat = n)
    (low : 0x800 ≤ n) (high : n ≤ 0xFFFF) :
    String.utf8EncodeChar character =
      [UInt8.ofNat (n / 4096 + 0xE0), UInt8.ofNat (n / 64 % 64 + 0x80),
        UInt8.ofNat (n % 64 + 0x80)] := by
  rw [encodeChar_eq same, if_neg (by omega), if_neg (by omega), if_pos high,
    Nat.mod_eq_of_lt (show n / 4096 < 0x10 by omega)]

theorem encodeChar_four {character : Char} {n : Nat} (same : character.val.toNat = n)
    (low : 0x10000 ≤ n) (high : n ≤ 0x10FFFF) :
    String.utf8EncodeChar character =
      [UInt8.ofNat (n / 262144 + 0xF0), UInt8.ofNat (n / 4096 % 64 + 0x80),
        UInt8.ofNat (n / 64 % 64 + 0x80), UInt8.ofNat (n % 64 + 0x80)] := by
  rw [encodeChar_eq same, if_neg (by omega), if_neg (by omega), if_neg (by omega),
    Nat.mod_eq_of_lt (show n / 262144 < 0x08 by omega)]

/-- A character other than NUL in front of a text changes nothing. -/
theorem validUtf8_encodeChar {character : Char} (nonzero : character.val.toNat ≠ 0) (rest : Bytes) :
    validUtf8 (String.utf8EncodeChar character ++ rest) = validUtf8 rest := by
  obtain ⟨n, same⟩ : ∃ n, character.val.toNat = n := ⟨_, rfl⟩
  have scalar : n < 0xD800 ∨ 0xDFFF < n ∧ n < 0x110000 := same ▸ character.valid
  have value : ∀ m, m < 256 → (UInt8.ofNat m).toNat = m := fun m small => toNat_toUInt8 small
  have above : ∀ {byte : UInt8} {m : Nat}, byte.toNat = m → 0x7F < m →
      byte ≠ 0 ∧ ¬byte ≤ 0x7F := by
    intro byte m same above
    constructor
    · rintro rfl
      simp at same
      omega
    · rw [UInt8.le_iff_toNat_le]
      simp
      omega
  by_cases one : n ≤ 0x7F
  · have byte := value n (by omega)
    have zero : UInt8.ofNat n ≠ 0 := by
      intro zero
      rw [zero] at byte
      simp at byte
      omega
    have short : UInt8.ofNat n ≤ 0x7F := by
      rw [UInt8.le_iff_toNat_le, byte]
      exact one
    rw [encodeChar_one (by omega), same, List.singleton_append, validUtf8.eq_def]
    simp only [zero, short, if_false, if_true]
  by_cases two : n ≤ 0x7FF
  · have first := value (n / 64 + 0xC0) (by omega)
    have second := value (n % 64 + 0x80) (by omega)
    obtain ⟨class₂, valid⟩ := validCharacter_two.mpr ⟨n, by omega, two, first, second⟩
    obtain ⟨zero, short⟩ := above first (by omega)
    rw [encodeChar_two same (by omega) two, List.cons_append, List.singleton_append,
      validUtf8.eq_def]
    simp only [zero, short, class₂, valid, and_self, if_false, if_true, Bool.true_and]
  have notTwo : ∀ {byte : UInt8}, 0xE0 ≤ byte.toNat → ¬(0xC2 ≤ byte ∧ byte ≤ 0xDF) := by
    intro byte high
    simp only [UInt8.le_iff_toNat_le, UInt8.reduceToNat]
    omega
  by_cases three : n ≤ 0xFFFF
  · have first := value (n / 4096 + 0xE0) (by omega)
    have second := value (n / 64 % 64 + 0x80) (by omega)
    have third := value (n % 64 + 0x80) (by omega)
    obtain ⟨class₃, valid⟩ := validCharacter_three.mpr
      ⟨n, by omega, three, by omega, first, second, third⟩
    obtain ⟨zero, short⟩ := above first (by omega)
    rw [encodeChar_three same (by omega) three, List.cons_append, List.cons_append,
      List.singleton_append, validUtf8.eq_def]
    simp only [zero, short, notTwo (by omega : 0xE0 ≤ (UInt8.ofNat (n / 4096 + 0xE0)).toNat),
      class₃, valid, and_self, if_false, if_true, Bool.true_and]
  · have first := value (n / 262144 + 0xF0) (by omega)
    have second := value (n / 4096 % 64 + 0x80) (by omega)
    have third := value (n / 64 % 64 + 0x80) (by omega)
    have fourth := value (n % 64 + 0x80) (by omega)
    obtain ⟨class₄, valid⟩ := validCharacter_four.mpr
      ⟨n, by omega, by omega, first, second, third, fourth⟩
    obtain ⟨zero, short⟩ := above first (by omega)
    have notThree : ¬(0xE0 ≤ UInt8.ofNat (n / 262144 + 0xF0) ∧
        UInt8.ofNat (n / 262144 + 0xF0) ≤ 0xEF) := by
      simp only [UInt8.le_iff_toNat_le, first, UInt8.reduceToNat]
      omega
    rw [encodeChar_four same (by omega) (by omega), List.cons_append, List.cons_append,
      List.cons_append, List.singleton_append, validUtf8.eq_def]
    simp only [zero, short, notTwo (by omega : 0xE0 ≤ (UInt8.ofNat (n / 262144 + 0xF0)).toNat),
      notThree, class₄, valid, and_self, if_false, if_true, Bool.true_and]

/-- The first character of what is accepted. -/
theorem validUtf8_cons {first : UInt8} {rest : Bytes} (valid : validUtf8 (first :: rest) = true) :
    ∃ character : Char, ∃ back, character.val.toNat ≠ 0 ∧
      first :: rest = String.utf8EncodeChar character ++ back ∧ validUtf8 back = true := by
  rw [validUtf8.eq_def] at valid
  dsimp only at valid
  split at valid
  · cases valid
  rename_i zero
  split at valid
  · rename_i short
    rw [UInt8.le_iff_toNat_le] at short
    obtain ⟨character, same⟩ := exists_char (n := first.toNat) (Or.inl (by simp at short; omega))
    refine ⟨character, rest, ?_, ?_, valid⟩
    · rw [same]
      intro none
      exact zero (UInt8.toNat_inj.mp none)
    · rw [encodeChar_one (by rw [same]; exact short), same, UInt8.ofNat_toNat]
      rfl
  split at valid
  · rename_i class₂
    split at valid
    · rename_i a back
      rw [Bool.and_eq_true] at valid
      obtain ⟨n, low, high, h₁, h₂⟩ := validCharacter_two.mp ⟨class₂, valid.1⟩
      obtain ⟨character, same⟩ := exists_char (n := n) (Or.inl (by omega))
      refine ⟨character, back, by omega, ?_, valid.2⟩
      rw [encodeChar_two same low high, ofNat_of_toNat h₁, ofNat_of_toNat h₂]
      rfl
    · cases valid
  split at valid
  · rename_i class₃
    split at valid
    · rename_i a b back
      rw [Bool.and_eq_true] at valid
      obtain ⟨n, low, high, scalar, h₁, h₂, h₃⟩ := validCharacter_three.mp ⟨class₃, valid.1⟩
      obtain ⟨character, same⟩ := exists_char (n := n) (by omega)
      refine ⟨character, back, by omega, ?_, valid.2⟩
      rw [encodeChar_three same low high, ofNat_of_toNat h₁, ofNat_of_toNat h₂, ofNat_of_toNat h₃]
      rfl
    · cases valid
  split at valid
  · rename_i class₄
    split at valid
    · rename_i a b c back
      rw [Bool.and_eq_true] at valid
      obtain ⟨n, low, high, h₁, h₂, h₃, h₄⟩ := validCharacter_four.mp ⟨class₄, valid.1⟩
      obtain ⟨character, same⟩ := exists_char (n := n) (by omega)
      refine ⟨character, back, by omega, ?_, valid.2⟩
      rw [encodeChar_four same low high, ofNat_of_toNat h₁, ofNat_of_toNat h₂, ofNat_of_toNat h₃,
        ofNat_of_toNat h₄]
      rfl
    · cases valid
  · cases valid

/-- **`ValidUtf8` is exact.**  It accepts the UTF-8 encodings of sequences of characters other
than NUL and nothing else; its loop comes to that result within a round a byte and reads no byte
past the end. -/
theorem validUtf8_exact (value : Bytes) :
    (validUtf8 value = true ↔
      ∃ text : List Char, Char.ofNat 0 ∉ text ∧ value = text.flatMap String.utf8EncodeChar) ∧
    ∀ rounds, value.length < rounds → utf8Loop value rounds 0 = .result (validUtf8 value) := by
  refine ⟨⟨?_, ?_⟩, fun rounds enough => utf8Loop_eq rounds [] value rfl enough⟩
  · -- the characters are read off from the front
    induction size : value.length using Nat.strong_induction_on generalizing value with
    | _ size ih =>
      intro valid
      cases value with
      | nil => exact ⟨[], by simp, rfl⟩
      | cons first rest =>
          obtain ⟨character, back, nonzero, same, valid⟩ := validUtf8_cons valid
          have shorter : back.length < (first :: rest).length := by
            have positive := List.length_pos_iff.mpr (String.utf8EncodeChar_ne_nil (c := character))
            rw [same, List.length_append]
            omega
          obtain ⟨text, plain, rfl⟩ := ih back.length (size ▸ shorter) back rfl valid
          refine ⟨character :: text, ?_, same⟩
          rw [List.mem_cons, not_or]
          refine ⟨?_, plain⟩
          rintro rfl
          exact nonzero rfl
  · rintro ⟨text, plain, rfl⟩
    induction text with
    | nil => rfl
    | cons character text ih =>
        rw [List.mem_cons, not_or] at plain
        rw [List.flatMap_cons, validUtf8_encodeChar, ih plain.2]
        intro zero
        exact plain.1 (Char.ext (UInt32.toNat_inj.mp zero.symm))

end WotexMatter.Storage
