/-
# WotexMatter.Theory.LittleEndian -- numbers of a fixed width in octets

A number below `256 ^ width` is `width` octets, the least significant first; a signed number is
the two's complement of that width.  `read` takes a number off the front of a text, which is how
a binary pattern does it, and gives back what `toBytes` wrote, whatever follows.
-/
import Mathlib.Tactic.Positivity
import Mathlib.Data.List.Basic

set_option autoImplicit false

namespace WotexMatter.Theory.LittleEndian

def toBytes : Nat → Nat → List UInt8
  | 0, _ => []
  | width + 1, n => UInt8.ofNat n :: toBytes width (n / 256)

def ofBytes : List UInt8 → Nat
  | [] => 0
  | byte :: rest => byte.toNat + 256 * ofBytes rest

@[simp] theorem length_toBytes (width n : Nat) : (toBytes width n).length = width := by
  induction width generalizing n with
  | zero => rfl
  | succ width ih => rw [toBytes, List.length_cons, ih]

theorem ofBytes_toBytes {width n : Nat} (fits : n < 256 ^ width) :
    ofBytes (toBytes width n) = n := by
  induction width generalizing n with
  | zero =>
      rw [pow_zero] at fits
      rw [toBytes, ofBytes]
      omega
  | succ width ih =>
      have higher : n / 256 < 256 ^ width := by
        rw [pow_succ] at fits
        omega
      rw [toBytes, ofBytes, ih higher, UInt8.toNat_ofNat']
      omega

theorem ofBytes_lt (bytes : List UInt8) : ofBytes bytes < 256 ^ bytes.length := by
  induction bytes with
  | nil => simp [ofBytes]
  | cons byte rest ih =>
      have small := byte.toNat_lt
      rw [ofBytes, List.length_cons, pow_succ]
      omega

/-- The number at the front of a text, and the rest. -/
def read (width : Nat) (bytes : List UInt8) : Option (Nat × List UInt8) :=
  if width ≤ bytes.length then some (ofBytes (bytes.take width), bytes.drop width) else none

theorem read_toBytes {width n : Nat} (fits : n < 256 ^ width) (rest : List UInt8) :
    read width (toBytes width n ++ rest) = some (n, rest) := by
  have front : (toBytes width n ++ rest).take width = toBytes width n := by
    rw [List.take_append_of_le_length (by simp), List.take_of_length_le (by simp)]
  have back : (toBytes width n ++ rest).drop width = rest := by
    rw [List.drop_append_of_le_length (by simp), List.drop_of_length_le (by simp), List.nil_append]
  rw [read, if_pos (by simp), front, back, ofBytes_toBytes fits]

/-- What was read fits its width, and the rest is shorter by that much. -/
theorem read_some {width n : Nat} {bytes rest : List UInt8}
    (found : read width bytes = some (n, rest)) :
    n < 256 ^ width ∧ rest.length + width = bytes.length := by
  rw [read] at found
  split at found
  · rename_i room
    obtain ⟨rfl, rfl⟩ := Prod.mk.inj (Option.some.inj found)
    have below := ofBytes_lt (bytes.take width)
    rw [List.length_take, Nat.min_eq_left room] at below
    refine ⟨below, ?_⟩
    rw [List.length_drop]
    omega
  · cases found

/-! ## Two's complement -/

def toTwos (width : Nat) (value : Int) : Nat := (value % 256 ^ width).toNat

def ofTwos (width n : Nat) : Int := if 2 * n < 256 ^ width then n else (n : Int) - 256 ^ width

/-- The range of a signed number of this width. -/
def Signed (width : Nat) (value : Int) : Prop :=
  -256 ^ width ≤ 2 * value ∧ 2 * value < 256 ^ width

instance (width : Nat) (value : Int) : Decidable (Signed width value) :=
  inferInstanceAs (Decidable (_ ∧ _))

theorem toTwos_lt (width : Nat) (value : Int) : toTwos width value < 256 ^ width := by
  have positive : (0 : Int) < 256 ^ width := by positivity
  have low := Int.emod_nonneg value positive.ne'
  have high := Int.emod_lt_of_pos value positive
  have cast : ((256 ^ width : Nat) : Int) = 256 ^ width := by push_cast; rfl
  rw [toTwos]
  omega

theorem ofTwos_toTwos {width : Nat} {value : Int} (signed : Signed width value) :
    ofTwos width (toTwos width value) = value := by
  obtain ⟨low, high⟩ := signed
  have positive : (0 : Int) < 256 ^ width := by positivity
  have cast : ((256 ^ width : Nat) : Int) = 256 ^ width := by push_cast; rfl
  rcases Int.lt_or_le value 0 with negative | natural
  · have wrapped : value % 256 ^ width = value + 256 ^ width := by
      rw [← Int.add_emod_right]
      exact Int.emod_eq_of_lt (by omega) (by omega)
    rw [ofTwos, toTwos, wrapped, if_neg (by omega)]
    omega
  · have same : value % 256 ^ width = value := Int.emod_eq_of_lt natural (by omega)
    rw [ofTwos, toTwos, same, if_pos (by omega)]
    omega

theorem ofTwos_signed {width n : Nat} (fits : n < 256 ^ width) : Signed width (ofTwos width n) := by
  have cast : ((256 ^ width : Nat) : Int) = 256 ^ width := by push_cast; rfl
  rw [ofTwos]
  constructor <;> split <;> omega

end WotexMatter.Theory.LittleEndian
