/-
# WotexMatter.Wire.RequestEnvelope -- a request frame and the host's check of it

A request frame as `connection.ex` builds it, the document the host reads, and what
`native/src/protocol.cpp` asks of that document before it looks at the operation:
`CanonicalRequestId`, `ValidRequestEnvelope`, and the comparison with
`greatest_request_id_` in `ProcessLineImpl`.
-/
import WotexMatter.Wire.Request

set_option autoImplicit false

namespace WotexMatter.Wire

open WotexMatter.Storage

/-! ## Frames -/

/-- A request frame; the parameters are the members of the object they are printed as. -/
structure Frame where
  id : Bytes
  operation : Bytes
  parameters : List (Bytes × Json)
  timeoutMs : Int

/-- A number as nlohmann reads it. -/
def numberDocument (value : Int) : Json :=
  if 0 ≤ value then .unsigned value.toNat.toUInt64 else .integer value

def Frame.document (frame : Frame) : Json :=
  .object
    [(ascii "version", .unsigned 1), (ascii "id", .string frame.id),
      (ascii "operation", .string frame.operation),
      (ascii "parameters", .object frame.parameters),
      (ascii "timeout_ms", numberDocument frame.timeoutMs)]

/-! ## The host's check -/

def kProtocolVersion : UInt64 := 1

/-- `ExactKeys`. -/
def exactKeys (members : List (Bytes × Json)) (keys : List Bytes) : Bool :=
  members.length = keys.length && keys.all fun key => (members.lookup key).isSome

/-- `CanonicalRequestId`; `std::from_chars` reads digits only and fails above 64 bits. -/
def canonicalRequestId : Json → Option Nat
  | .string text =>
      if text.head?.any isDigit ∧ text.head? ≠ some 48 ∧ (readNumber text).2 = [] ∧
          (readNumber text).1 ≤ 0xFFFFFFFFFFFFFFFF ∧ 0 < (readNumber text).1 then
        some (readNumber text).1
      else none
  | _ => none

/-- `request["id"] == "close"`. -/
def isClose : Json → Bool
  | .string text => text = ascii "close"
  | _ => false

/-- `ValidRequestEnvelope`: `some (some id)` for a request with a number, `some none` for the
reserved close. -/
def validRequestEnvelope : Json → Option (Option Nat)
  | .object members =>
      if exactKeys members
          [ascii "version", ascii "id", ascii "operation", ascii "parameters",
            ascii "timeout_ms"] then
        match members.lookup (ascii "version"), members.lookup (ascii "id"),
          members.lookup (ascii "operation"), members.lookup (ascii "parameters"),
          members.lookup (ascii "timeout_ms") with
        | some (.unsigned version), some id, some (.string operation), some (.object parameters),
            some (.unsigned timeout) =>
            if version = kProtocolVersion ∧ 1 ≤ timeout ∧ timeout ≤ 60000 then
              match canonicalRequestId id with
              | some requestId => some (some requestId)
              | none =>
                  if isClose id ∧ operation = ascii "close" ∧ parameters = [] then some none
                  else none
            else none
        | _, _, _, _, _ => none
      else none
  | _ => none

/-- The envelope part of `ProcessLineImpl` in the open state: `greatest_request_id_` behind the
request, and `none` where the session is closed. -/
def receiveRequest (greatest : Nat) (request : Json) : Option Nat :=
  match validRequestEnvelope request with
  | some (some requestId) => if requestId ≤ greatest then none else some requestId
  | some none => some greatest
  | none => none

/-- Requests in the order of their arrival. -/
def receiveRequests : Nat → List Frame → Option Nat
  | greatest, [] => some greatest
  | greatest, frame :: rest =>
      (receiveRequest greatest frame.document).bind fun greatest => receiveRequests greatest rest

theorem receiveRequests_append (greatest : Nat) (first second : List Frame) :
    receiveRequests greatest (first ++ second) =
      (receiveRequests greatest first).bind fun greatest => receiveRequests greatest second := by
  induction first generalizing greatest with
  | nil => rfl
  | cons frame rest ih =>
      rw [List.cons_append, receiveRequests, receiveRequests, Option.bind_assoc]
      congr 1
      funext greatest
      exact ih greatest

/-! ## Frames the check lets through -/

/-- The first digit of a positive number is not zero. -/
theorem dumpNumber_head {n : Nat} (positive : 0 < n) : (dumpNumber n).head? ≠ some 48 := by
  have nonempty : Nat.digits 10 n ≠ [] := Nat.digits_ne_nil_iff_ne_zero.mpr (by omega)
  have leading := Nat.getLast_digit_ne_zero 10 (m := n) (by omega)
  have small := Nat.digits_lt_base (b := 10) (by omega) (List.getLast_mem nonempty)
  rw [dumpNumber, if_neg (by omega), List.head?_map, List.head?_reverse,
    List.getLast?_eq_some_getLast nonempty]
  intro zero
  have byte : ∀ digit < 10, digit ≠ 0 → (48 + digit).toUInt8 ≠ 48 := by
    intro digit _ _
    interval_cases digit <;> simp_all
  exact byte _ small leading (Option.some.inj zero)

/-- `CanonicalRequestId` reads back what `Integer.to_string` prints. -/
theorem canonicalRequestId_dumpNumber {n : Nat} (positive : 0 < n)
    (bits : n ≤ 0xFFFFFFFFFFFFFFFF) : canonicalRequestId (.string (dumpNumber n)) = some n := by
  have read : readNumber (dumpNumber n ++ []) = (n, []) := readNumber_stops n rfl
  rw [List.append_nil] at read
  obtain ⟨first, tail, same, digit⟩ := dumpNumber_cons n
  have head := dumpNumber_head positive
  have starts : (dumpNumber n).head?.any isDigit = true := by simp [same, digit]
  simp [canonicalRequestId, read, head, starts, bits, positive]

/-- The timeout of a frame is one the host accepts. -/
def Frame.Timely (frame : Frame) : Prop := 1 ≤ frame.timeoutMs ∧ frame.timeoutMs ≤ 60000

theorem Frame.Timely.document {frame : Frame} (timely : frame.Timely) :
    ∃ timeout : UInt64, numberDocument frame.timeoutMs = .unsigned timeout ∧ 1 ≤ timeout ∧
      timeout ≤ 60000 := by
  obtain ⟨low, high⟩ := timely
  refine ⟨frame.timeoutMs.toNat.toUInt64, by rw [numberDocument, if_pos (by omega)], ?_, ?_⟩
  · rw [UInt64.le_iff_toNat_le]
    simp
    omega
  · rw [UInt64.le_iff_toNat_le]
    simp
    omega

/-- What the check comes to for a frame with a timeout it accepts. -/
theorem validRequestEnvelope_frame {frame : Frame} (timely : frame.Timely) :
    validRequestEnvelope frame.document =
      match canonicalRequestId (.string frame.id) with
      | some requestId => some (some requestId)
      | none =>
          if isClose (.string frame.id) ∧ frame.operation = ascii "close" ∧ frame.parameters = []
          then some none else none := by
  obtain ⟨timeout, same, low, high⟩ := timely.document
  have keys : exactKeys
      [(ascii "version", .unsigned 1), (ascii "id", .string frame.id),
        (ascii "operation", .string frame.operation),
        (ascii "parameters", .object frame.parameters), (ascii "timeout_ms", .unsigned timeout)]
      [ascii "version", ascii "id", ascii "operation", ascii "parameters", ascii "timeout_ms"] =
      true := by rfl
  rw [Frame.document, same, validRequestEnvelope, if_pos keys]
  show (if (1 : UInt64) = kProtocolVersion ∧ 1 ≤ timeout ∧ timeout ≤ 60000 then _ else _) = _
  rw [if_pos ⟨rfl, low, high⟩]

/-- A frame with a number above every one before is accepted. -/
theorem receiveRequest_number {frame : Frame} {n greatest : Nat} (timely : frame.Timely)
    (id : frame.id = dumpNumber n) (above : greatest < n) (bits : n ≤ 0xFFFFFFFFFFFFFFFF) :
    receiveRequest greatest frame.document = some n := by
  rw [receiveRequest, validRequestEnvelope_frame timely, id,
    canonicalRequestId_dumpNumber (by omega) bits]
  simp only [Nat.not_le.mpr above, if_false]

/-- The reserved close is accepted if it closes and says nothing else. -/
theorem receiveRequest_close {frame : Frame} (greatest : Nat) (timely : frame.Timely)
    (id : frame.id = ascii "close") (operation : frame.operation = ascii "close") :
    receiveRequest greatest frame.document =
      if frame.parameters = [] then some greatest else none := by
  have unnumbered : canonicalRequestId (.string (ascii "close")) = none := by rfl
  have reserved : isClose (.string (ascii "close")) = true := by rfl
  rw [receiveRequest, validRequestEnvelope_frame timely, id, unnumbered]
  simp only [reserved, operation, true_and]
  by_cases empty : frame.parameters = [] <;> simp [empty]

end WotexMatter.Wire
