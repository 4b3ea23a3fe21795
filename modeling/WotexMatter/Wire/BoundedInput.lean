/-
# WotexMatter.Wire.BoundedInput -- lines out of chunks

`BoundedInput::Next` (`native/include/wotex_matter/input.hpp`).  What the descriptor still has to
say is a list of answers to a `poll` and a `read`: nothing yet, a failure, or a chunk of bytes, and
the end of the stream behind the last of them.  A call that finds a line in its buffer asks for no
answer.  The main loop and the control pump call with different waits and share the object, so a run
is a list of waits.

`run_framing` says that the chunks do not matter: the lines are the newline-terminated segments of
the stream, up to the first segment that is too long, and the result behind them depends on the
stream alone.
-/
import WotexMatter.Wire.BoundedSax

set_option autoImplicit false

namespace WotexMatter.Wire

open WotexMatter.Storage

/-! ## The input -/

inductive InputResult where
  | line (text : Bytes)
  | waiting
  | endOfInput
  | invalid
  deriving DecidableEq

def kReadBytes : Nat := 4096

/-- What `poll` and `read` find: nothing (no data in time, or a call that was interrupted), a
failure, or a chunk. -/
inductive Answer where
  | idle
  | failed
  | chunk (bytes : Bytes) (nonempty : bytes ≠ []) (fits : bytes.length ≤ kReadBytes)

def Answer.bytes : Answer → Bytes
  | .chunk bytes _ _ => bytes
  | _ => []

/-- `BoundedInput`; `buffer` is the whole array, of which `size` bytes are from the last read. -/
structure BoundedInput where
  valid : Bool
  buffer : Bytes
  offset : Nat
  size : Nat
  partialFrame : Bytes
  deriving DecidableEq

namespace BoundedInput

/-- A descriptor that could be made non-blocking. -/
def initial : BoundedInput where
  valid := true
  buffer := List.replicate kReadBytes 0
  offset := 0
  size := 0
  partialFrame := []

/-- The inner loop, over the bytes that are left; `none` is its end. -/
def scan : Nat → BoundedInput → Option InputResult × BoundedInput
  | 0, input => (none, input)
  | left + 1, input =>
      let byte := input.buffer.getD input.offset 0
      let input := { input with offset := input.offset + 1 }
      if byte = 10 then (some (.line input.partialFrame), { input with partialFrame := [] })
      else if kMaximumFrameBytes - 1 ≤ input.partialFrame.length then
        (some .invalid, { input with valid := false })
      else scan left { input with partialFrame := input.partialFrame ++ [byte] }

/-- What `read` leaves behind. -/
def fill (input : BoundedInput) (bytes : Bytes) : BoundedInput :=
  { input with
    buffer := bytes ++ input.buffer.drop bytes.length, offset := 0, size := bytes.length }

/-- `Next`, and the answers that are left. -/
def next (input : BoundedInput) (answers : List Answer) (_waitMs : Int) :
    InputResult × BoundedInput × List Answer :=
  if !input.valid then (.invalid, input, answers)
  else
    match scan (input.size - input.offset) input with
    | (some result, input) => (result, input, answers)
    | (none, input) =>
        match answers with
        | [] => (if input.partialFrame = [] then .endOfInput else .invalid, input, [])
        | .idle :: rest => (.waiting, input, rest)
        | .failed :: rest => (.invalid, input, rest)
        | .chunk bytes _ _ :: rest =>
            match scan bytes.length (input.fill bytes) with
            | (some result, input) => (result, input, rest)
            | (none, input) => (.waiting, input, rest)

/-- Calls with these waits. -/
def run : BoundedInput → List Answer → List Int → List InputResult × BoundedInput × List Answer
  | input, answers, [] => ([], input, answers)
  | input, answers, waitMs :: rest =>
      let (result, input, answers) := input.next answers waitMs
      let (results, input, answers) := run input answers rest
      (result :: results, input, answers)

end BoundedInput

/-! ## The stream -/

def stream (answers : List Answer) : Bytes := answers.flatMap Answer.bytes

/-- The segments of a stream that a newline ends, up to the first one that is too long. -/
def frames (bytes : Bytes) : List Bytes :=
  (bytes.splitOn 10).dropLast.takeWhile fun segment => segment.length ≤ kMaximumFrameBytes - 1

inductive Ending where
  | boundary
  | inside
  | overlong
  deriving DecidableEq

/-- What stands behind the segments: one that is too long, the end of the stream on a line boundary,
or its end inside a segment. -/
def ending (bytes : Bytes) : Ending :=
  if (bytes.splitOn 10).any fun segment => kMaximumFrameBytes - 1 < segment.length then .overlong
  else if (bytes.splitOn 10).getLast? = some [] then .boundary
  else .inside

def InputResult.text? : InputResult → Option Bytes
  | .line text => some text
  | _ => none

/-- The lines among results. -/
def linesOf (results : List InputResult) : List Bytes := results.filterMap InputResult.text?

theorem frames_line {text : Bytes} (plain : 10 ∉ text) (short : text.length ≤ kMaximumFrameBytes - 1)
    (rest : Bytes) : frames (text ++ 10 :: rest) = text :: frames rest ∧
      ending (text ++ 10 :: rest) = ending rest := by
  have split := List.splitOn_append_cons_self_of_not_mem plain rest
  constructor
  · rw [frames, split, List.dropLast_cons_of_ne_nil (List.splitOn_ne_nil _ _),
      List.takeWhile_cons_of_pos (by simpa using short), frames]
  · have last : (text :: rest.splitOn 10).getLast? = (rest.splitOn 10).getLast? := by
      obtain ⟨first, others, same⟩ := List.exists_cons_of_ne_nil (List.splitOn_ne_nil 10 rest)
      rw [same, List.getLast?_cons_cons]
    rw [ending, ending, split, last]
    simp only [List.any_cons, show ¬kMaximumFrameBytes - 1 < text.length by omega, decide_false,
      Bool.false_or]

theorem frames_overlong {text : Bytes} (plain : 10 ∉ text)
    (long : kMaximumFrameBytes - 1 < text.length) (rest : Bytes) :
    frames (text ++ rest) = [] ∧ ending (text ++ rest) = .overlong := by
  obtain ⟨segment, others, split, front⟩ : ∃ segment others,
      (text ++ rest).splitOn 10 = segment :: others ∧ text.length ≤ segment.length := by
    clear long
    induction text with
    | nil =>
        obtain ⟨first, others, same⟩ := List.exists_cons_of_ne_nil (List.splitOn_ne_nil 10 rest)
        exact ⟨first, others, same, Nat.zero_le _⟩
    | cons byte text ih =>
        rw [List.mem_cons, not_or] at plain
        obtain ⟨segment, others, split, front⟩ := ih plain.2
        refine ⟨byte :: segment, others, ?_, Nat.succ_le_succ front⟩
        rw [List.cons_append, List.splitOn_cons_eq_if_modifyHead, if_neg, split]
        · rfl
        · exact fun same => plain.1 (beq_iff_eq.mp same).symm
  constructor
  · rw [frames, split]
    cases others with
    | nil => rfl
    | cons other more =>
        rw [List.dropLast_cons_of_ne_nil (List.cons_ne_nil _ _), List.takeWhile_cons_of_neg]
        simp
        omega
  · rw [ending, split, if_pos]
    exact List.any_eq_true.mpr ⟨segment, List.mem_cons_self, decide_eq_true (by omega)⟩

theorem frames_end {text : Bytes} (plain : 10 ∉ text) (short : text.length ≤ kMaximumFrameBytes - 1) :
    frames text = [] ∧ ending text = if text = [] then .boundary else .inside := by
  have split := List.splitOn_eq_singleton plain
  constructor
  · rw [frames, split]
    rfl
  · rw [ending, split, if_neg]
    · simp
    · simp only [List.any_cons, List.any_nil, Bool.or_false, decide_eq_true_eq]
      omega

/-! ## One scan -/

namespace BoundedInput

/-- What is left of the last read. -/
def unread (input : BoundedInput) : Bytes :=
  (input.buffer.drop input.offset).take (input.size - input.offset)

/-- The buffer stands at these bytes. -/
def At (input : BoundedInput) (bytes : Bytes) : Prop :=
  ∃ tail, input.buffer.drop input.offset = bytes ++ tail

theorem At.cons {input : BoundedInput} {byte : UInt8} {bytes : Bytes} (here : input.At (byte :: bytes)) :
    input.buffer.getD input.offset 0 = byte ∧
      { input with offset := input.offset + 1 }.At bytes := by
  obtain ⟨tail, same⟩ := here
  constructor
  · have front := congrArg (·[0]?) same
    simp only [List.getElem?_drop, Nat.add_zero, List.cons_append, List.getElem?_cons_zero] at front
    rw [List.getD_eq_getElem?_getD, front, Option.getD_some]
  · refine ⟨tail, ?_⟩
    show input.buffer.drop (input.offset + 1) = _
    rw [← List.drop_drop, same]
    rfl

/-- The three ends of a scan: a newline, a byte too many, or no more bytes. -/
inductive Scanned (input : BoundedInput) (bytes : Bytes) :
    Option InputResult × BoundedInput → Prop where
  | line (text rest : Bytes) (split : bytes = text ++ 10 :: rest) (plain : 10 ∉ input.partialFrame ++ text)
      (short : (input.partialFrame ++ text).length ≤ kMaximumFrameBytes - 1) :
      Scanned input bytes (some (.line (input.partialFrame ++ text)),
        { input with offset := input.offset + (text.length + 1), partialFrame := [] })
  | overlong (text rest : Bytes) (byte : UInt8) (split : bytes = text ++ byte :: rest)
      (plain : 10 ∉ input.partialFrame ++ (text ++ [byte]))
      (full : (input.partialFrame ++ text).length = kMaximumFrameBytes - 1) :
      Scanned input bytes (some .invalid,
        { input with
          valid := false, offset := input.offset + (text.length + 1)
          partialFrame := input.partialFrame ++ text })
  | empty (plain : 10 ∉ input.partialFrame ++ bytes)
      (short : (input.partialFrame ++ bytes).length ≤ kMaximumFrameBytes - 1) :
      Scanned input bytes (none,
        { input with
          offset := input.offset + bytes.length, partialFrame := input.partialFrame ++ bytes })

theorem scan_scanned {bytes : Bytes} : ∀ {input : BoundedInput}, input.At bytes →
    10 ∉ input.partialFrame → input.partialFrame.length ≤ kMaximumFrameBytes - 1 →
      Scanned input bytes (scan bytes.length input) := by
  induction bytes with
  | nil =>
      intro input _ plain short
      have done := @Scanned.empty input [] (by simpa using plain)
        (by simpa using short)
      simpa [scan] using done
  | cons byte bytes ih =>
      intro input here plain short
      obtain ⟨found, later⟩ := here.cons
      rw [List.length_cons, scan, found]
      dsimp only
      by_cases newline : byte = 10
      · rw [if_pos newline]
        have done := @Scanned.line input (byte :: bytes) [] bytes
          (by rw [newline]; rfl) (by simpa using plain) (by simpa using short)
        simpa using done
      by_cases full : kMaximumFrameBytes - 1 ≤ input.partialFrame.length
      · rw [if_neg newline, if_pos full]
        have done := @Scanned.overlong input (byte :: bytes) [] bytes byte rfl
          (by simpa [plain] using Ne.symm newline) (by simp; omega)
        simpa using done
      · rw [if_neg newline, if_neg full]
        have still : 10 ∉ input.partialFrame ++ [byte] := by
          simpa [plain] using Ne.symm newline
        have inner := @ih { input with
          offset := input.offset + 1, partialFrame := input.partialFrame ++ [byte] }
          later still (by simp; omega)
        generalize scan bytes.length { input with
          offset := input.offset + 1, partialFrame := input.partialFrame ++ [byte] } = result at inner
        have shift : ∀ text : Bytes, input.partialFrame ++ [byte] ++ text =
            input.partialFrame ++ byte :: text := fun text => by simp
        have moved : ∀ n, input.offset + 1 + n = input.offset + (n + 1) := fun n => by omega
        cases inner with
        | line text rest split plain short =>
            simp only [shift, moved] at plain short ⊢
            exact .line (byte :: text) rest (by rw [split]; rfl) plain short
        | overlong text rest last split plain full =>
            simp only [shift, moved] at plain full ⊢
            exact .overlong (byte :: text) rest last (by rw [split]; rfl) plain full
        | empty plain short =>
            simp only [shift, moved] at plain short ⊢
            exact .empty plain short

/-! ## Runs -/

/-- What the lines to come are made of. -/
def left (input : BoundedInput) (answers : List Answer) : Bytes :=
  input.partialFrame ++ (input.unread ++ stream answers)

/-- The lines handed out so far and what is left make up the frames of the stream. -/
structure Follows (input : BoundedInput) (answers : List Answer) (out : List Bytes)
    (bytes : Bytes) : Prop where
  filled : input.size ≤ input.buffer.length
  plain : 10 ∉ input.partialFrame
  short : input.partialFrame.length ≤ kMaximumFrameBytes - 1
  going : input.valid = true → frames bytes = out ++ frames (input.left answers) ∧
    ending bytes = ending (input.left answers)
  stopped : input.valid = false → out = frames bytes ∧ ending bytes = .overlong

/-- What a call has established with its result. -/
structure Judged (input : BoundedInput) (answers : List Answer) (out : List Bytes)
    (bytes : Bytes) (result : InputResult) : Prop where
  follows : Follows input answers (out ++ result.text?.toList) bytes
  atEnd : result = .endOfInput → out = frames bytes ∧ ending bytes = .boundary
  refused : result = .invalid → out = frames bytes ∧ ending bytes ≠ .boundary

/-- The newlines and answers to come: every call that goes on uses one. -/
def newlines (input : BoundedInput) (answers : List Answer) : Nat :=
  (input.unread ++ stream answers).count 10 + answers.length

theorem unread_at {input : BoundedInput} (filled : input.size ≤ input.buffer.length) :
    input.At input.unread ∧ input.unread.length = input.size - input.offset := by
  constructor
  · exact ⟨(input.buffer.drop input.offset).drop (input.size - input.offset),
      (List.take_append_drop _ _).symm⟩
  · rw [unread, List.length_take, List.length_drop]
    omega

/-- A scan of what is left of a read. -/
theorem Follows.scanned {input : BoundedInput} {answers : List Answer} {out : List Bytes}
    {bytes : Bytes} (follows : Follows input answers out bytes) :
    Scanned input input.unread (scan (input.size - input.offset) input) := by
  obtain ⟨here, long⟩ := unread_at follows.filled
  rw [← long]
  exact scan_scanned here follows.plain follows.short

/-- What a scan of the buffer leaves. -/
theorem Follows.scan_judged {input after : BoundedInput} {answers : List Answer} {out : List Bytes}
    {bytes : Bytes} {result : Option InputResult} (follows : Follows input answers out bytes)
    (valid : input.valid = true) (scanned : Scanned input input.unread (result, after)) :
    match result with
    | some result => Judged after answers out bytes result ∧
        (result = .invalid ∨ newlines after answers < newlines input answers)
    | none => Follows after answers out bytes ∧ after.valid = true ∧ after.unread = [] ∧
        newlines after answers = newlines input answers := by
  obtain ⟨filled, plain, short, going, _⟩ := follows
  obtain ⟨framed, ended⟩ := going valid
  have advanced : ∀ (n : Nat) (frame : Bytes) (still : Bool),
      unread { input with valid := still, offset := input.offset + n, partialFrame := frame } =
        input.unread.drop n := by
    intro n frame still
    rw [unread, unread, ← List.drop_drop, List.drop_take, Nat.sub_add_eq]
  have behind : ∀ (text rest : Bytes) (byte : UInt8),
      (text ++ byte :: rest).drop (text.length + 1) = rest := by
    intro text rest byte
    rw [List.append_cons]
    exact List.drop_left' (by simp)
  cases scanned with
  | line text rest split plainText shortText =>
      have unread := advanced (text.length + 1) [] input.valid
      rw [split, behind] at unread
      have whole : input.left answers =
          (input.partialFrame ++ text) ++ 10 :: (rest ++ stream answers) := by
        rw [left, split]
        simp
      obtain ⟨first, later⟩ := frames_line plainText shortText (rest ++ stream answers)
      refine ⟨⟨⟨filled, by simp, by simp, fun _ => ?_, fun invalid => ?_⟩, nofun, nofun⟩, Or.inr ?_⟩
      · rw [left, unread, framed, ended, whole, first, later]
        simp [InputResult.text?]
      · exact absurd valid (by simpa using invalid)
      · rw [newlines, newlines, unread, split]
        simp only [List.append_assoc, List.cons_append, List.count_append, List.count_cons_self]
        omega
  | overlong text rest byte split plainText full =>
      have whole : input.left answers =
          (input.partialFrame ++ (text ++ [byte])) ++ (rest ++ stream answers) := by
        rw [left, split]
        simp
      obtain ⟨none, long⟩ := frames_overlong plainText
        (by rw [← List.append_assoc, List.length_append, full]; simp) (rest ++ stream answers)
      rw [whole, none, List.append_nil] at framed
      rw [whole, long] at ended
      have plainFrame : 10 ∉ input.partialFrame ++ text := by
        rw [← List.append_assoc] at plainText
        exact fun listed => plainText (List.mem_append_left _ listed)
      refine ⟨⟨⟨filled, plainFrame, full.le, nofun, fun _ => ?_⟩, nofun, fun _ => ?_⟩, Or.inl rfl⟩
      · simpa [InputResult.text?] using ⟨framed.symm, ended⟩
      · exact ⟨framed.symm, by rw [ended]; decide⟩
  | empty plainText shortText =>
      have unread := advanced input.unread.length (input.partialFrame ++ input.unread) input.valid
      rw [List.drop_length] at unread
      refine ⟨⟨filled, plainText, shortText, fun _ => ?_, fun invalid => ?_⟩, valid, unread, ?_⟩
      · rw [left, unread, List.nil_append, List.append_assoc]
        exact ⟨framed, ended⟩
      · exact absurd valid (by simpa using invalid)
      · have none : input.unread.count 10 = 0 :=
          List.count_eq_zero_of_not_mem fun listed => plainText (List.mem_append_right _ listed)
        rw [newlines, newlines, unread, List.nil_append, List.count_append, none, Nat.zero_add]

theorem Follows.filled_fill {input : BoundedInput} {answers : List Answer} {out : List Bytes}
    {bytes chunk : Bytes} {nonempty : chunk ≠ []} {fits : chunk.length ≤ kReadBytes}
    (follows : Follows input (.chunk chunk nonempty fits :: answers) out bytes)
    (unread : input.unread = []) :
    Follows (input.fill chunk) answers out bytes ∧ (input.fill chunk).unread = chunk ∧
      newlines (input.fill chunk) answers < newlines input (.chunk chunk nonempty fits :: answers) := by
  have filled : (input.fill chunk).unread = chunk := by
    rw [BoundedInput.unread]
    show ((chunk ++ input.buffer.drop chunk.length).drop 0).take (chunk.length - 0) = chunk
    rw [List.drop_zero, Nat.sub_zero, List.take_left]
  have same : (input.fill chunk).left answers =
      input.left (.chunk chunk nonempty fits :: answers) := by
    rw [left, left, filled, unread]
    rfl
  refine ⟨⟨?_, follows.plain, follows.short, ?_, follows.stopped⟩, filled, ?_⟩
  · show chunk.length ≤ (chunk ++ input.buffer.drop chunk.length).length
    rw [List.length_append]
    omega
  · intro valid
    rw [same]
    exact follows.going valid
  · rw [newlines, newlines, filled, unread]
    show _ < ([] ++ (chunk ++ stream answers)).count 10 + (answers.length + 1)
    rw [List.nil_append]
    omega

/-- **One call** hands out the next frame, or finds the end, or uses an answer. -/
theorem next_judged {input : BoundedInput} {answers : List Answer} {out : List Bytes} {bytes : Bytes}
    (follows : Follows input answers out bytes) (working : ∀ answer ∈ answers, answer ≠ .failed)
    (waitMs : Int) :
    Judged (input.next answers waitMs).2.1 (input.next answers waitMs).2.2 out bytes
        (input.next answers waitMs).1 ∧
      (∀ answer ∈ (input.next answers waitMs).2.2, answer ∈ answers) ∧
      ((input.next answers waitMs).1 = .endOfInput ∨ (input.next answers waitMs).1 = .invalid ∨
        newlines (input.next answers waitMs).2.1 (input.next answers waitMs).2.2 <
          newlines input answers) := by
  by_cases valid : input.valid = true
  · have scanned := follows.scanned
    rw [next]
    simp only [valid, Bool.not_true, Bool.false_eq_true, if_false]
    generalize scan (input.size - input.offset) input = result at scanned
    obtain ⟨_ | result, after⟩ := result
    · obtain ⟨follows, valid, unread, same⟩ := follows.scan_judged valid scanned
      rw [← same]
      match answers with
      | [] =>
          have whole : after.left [] = after.partialFrame := by
            rw [left, unread, stream, List.flatMap_nil, List.append_nil, List.append_nil]
          obtain ⟨none, ended⟩ := frames_end follows.plain follows.short
          obtain ⟨framed, last⟩ := follows.going valid
          rw [whole, none, List.append_nil] at framed
          rw [whole, ended] at last
          by_cases empty : after.partialFrame = []
          · rw [if_pos empty] at last
            simp only [if_pos empty]
            refine ⟨⟨?_, fun _ => ⟨framed.symm, last⟩, nofun⟩, nofun, Or.inl trivial⟩
            simpa [InputResult.text?] using follows
          · rw [if_neg empty] at last
            simp only [if_neg empty]
            refine ⟨⟨?_, nofun, fun _ => ⟨framed.symm, by rw [last]; decide⟩⟩, nofun,
              Or.inr (Or.inl trivial)⟩
            simpa [InputResult.text?] using follows
      | .idle :: rest =>
          refine ⟨⟨?_, nofun, nofun⟩, fun answer listed => List.mem_cons_of_mem _ listed,
            Or.inr (Or.inr (Nat.lt_succ_self _))⟩
          show Follows after rest (out ++ []) bytes
          rw [List.append_nil]
          exact ⟨follows.filled, follows.plain, follows.short, follows.going, follows.stopped⟩
      | .failed :: rest => exact absurd rfl (working _ List.mem_cons_self)
      | .chunk chunk nonempty fits :: rest =>
          obtain ⟨follows, filled, fewer⟩ := follows.filled_fill unread
          have scanned := follows.scanned
          change Scanned _ _ (scan chunk.length (after.fill chunk)) at scanned
          have kept : ∀ answer ∈ rest, answer ∈ Answer.chunk chunk nonempty fits :: rest :=
            fun answer listed => List.mem_cons_of_mem _ listed
          dsimp only
          generalize scan chunk.length (after.fill chunk) = result at scanned
          obtain ⟨_ | result, last⟩ := result
          · obtain ⟨follows, _, _, same⟩ := follows.scan_judged valid scanned
            refine ⟨⟨?_, nofun, nofun⟩, kept, Or.inr (Or.inr (same ▸ fewer))⟩
            show Follows last rest (out ++ []) bytes
            rw [List.append_nil]
            exact follows
          · obtain ⟨judged, progress⟩ := follows.scan_judged valid scanned
            exact ⟨judged, kept, Or.inr (progress.imp_right fun less => less.trans fewer)⟩
    · obtain ⟨judged, progress⟩ := follows.scan_judged valid scanned
      exact ⟨judged, fun answer listed => listed, Or.inr progress⟩
  · have stopped : input.valid = false := by simpa using valid
    rw [next]
    simp only [stopped, Bool.not_false, if_true]
    obtain ⟨all, ended⟩ := follows.stopped stopped
    refine ⟨⟨?_, nofun, fun _ => ⟨all, by rw [ended]; decide⟩⟩, fun answer listed => listed,
      Or.inr (Or.inl trivial)⟩
    simpa [InputResult.text?] using follows

/-- The lines are the first frames. -/
theorem Follows.prefix_frames {input : BoundedInput} {answers : List Answer} {out : List Bytes}
    {bytes : Bytes} (follows : Follows input answers out bytes) : out <+: frames bytes := by
  by_cases valid : input.valid = true
  · exact ⟨frames (input.left answers), (follows.going valid).1.symm⟩
  · rw [(follows.stopped (by simpa using valid)).1]

/-- What a run of calls has established. -/
structure Framed (input : BoundedInput) (answers : List Answer) (out : List Bytes) (bytes : Bytes)
    (results : List InputResult) : Prop where
  follows : Follows input answers (out ++ linesOf results) bytes
  atEnd : .endOfInput ∈ results → out ++ linesOf results = frames bytes ∧ ending bytes = .boundary
  refused : .invalid ∈ results → out ++ linesOf results = frames bytes ∧ ending bytes ≠ .boundary

theorem Framed.cons {middle last : BoundedInput} {later rest : List Answer} {out : List Bytes}
    {bytes : Bytes} {result : InputResult} {results : List InputResult}
    (judged : Judged middle later out bytes result)
    (framed : Framed last rest (out ++ result.text?.toList) bytes results) :
    Framed last rest out bytes (result :: results) := by
  have lines : linesOf (result :: results) = result.text?.toList ++ linesOf results := by
    rw [linesOf, List.filterMap_cons]
    cases result.text? <;> rfl
  have follows : Follows last rest (out ++ linesOf (result :: results)) bytes := by
    rw [lines, ← List.append_assoc]
    exact framed.follows
  -- a call that has found the end leaves no line for the calls behind it
  have settled : out = frames bytes → out ++ linesOf (result :: results) = frames bytes := by
    intro all
    have front := follows.prefix_frames
    rw [← all] at front ⊢
    exact front.eq_of_length_le (by simp)
  refine ⟨follows, fun listed => ?_, fun listed => ?_⟩
  · rcases List.mem_cons.mp listed with here | later
    · obtain ⟨all, last⟩ := judged.atEnd here.symm
      exact ⟨settled all, last⟩
    · rw [lines, ← List.append_assoc]
      exact framed.atEnd later
  · rcases List.mem_cons.mp listed with here | later
    · obtain ⟨all, last⟩ := judged.refused here.symm
      exact ⟨settled all, last⟩
    · rw [lines, ← List.append_assoc]
      exact framed.refused later

theorem run_framed {bytes : Bytes} (waits : List Int) : ∀ {input : BoundedInput}
    {answers : List Answer} {out : List Bytes}, Follows input answers out bytes →
      (∀ answer ∈ answers, answer ≠ .failed) →
      Framed (run input answers waits).2.1 (run input answers waits).2.2 out bytes
          (run input answers waits).1 ∧
        (newlines input answers < waits.length →
          .endOfInput ∈ (run input answers waits).1 ∨ .invalid ∈ (run input answers waits).1) := by
  induction waits with
  | nil =>
      intro input answers out follows _
      refine ⟨⟨?_, nofun, nofun⟩, fun short => absurd short (Nat.not_lt_zero _)⟩
      simpa [run, linesOf] using follows
  | cons waitMs waits ih =>
      intro input answers out follows working
      obtain ⟨judged, kept, progress⟩ := next_judged follows working waitMs
      obtain ⟨framed, ends⟩ := ih judged.follows fun answer listed => working answer (kept answer listed)
      refine ⟨framed.cons judged, fun enough => ?_⟩
      show _ ∈ _ :: _ ∨ _ ∈ _ :: _
      rw [List.mem_cons, List.mem_cons]
      rcases progress with ended | refused | fewer
      · exact Or.inl (Or.inl ended.symm)
      · exact Or.inr (Or.inl refused.symm)
      · have later := ends (by rw [List.length_cons] at enough; omega)
        exact later.imp Or.inr Or.inr

/-- **Framing.**  Whatever the chunks, the empty polls and the waits, the lines are the first frames
of the stream; the end is reported on a line boundary behind the last frame and nowhere else, a
refusal behind the last frame everywhere else, and enough calls get one of the two.  The frame that
is kept between calls never has more than `131071` bytes. -/
theorem run_framing (answers : List Answer) (waits : List Int)
    (working : ∀ answer ∈ answers, answer ≠ .failed) :
    let (results, input, _) := run initial answers waits
    linesOf results <+: frames (stream answers) ∧
      input.partialFrame.length ≤ 131071 ∧
      (.endOfInput ∈ results →
        linesOf results = frames (stream answers) ∧ ending (stream answers) = .boundary) ∧
      (.invalid ∈ results →
        linesOf results = frames (stream answers) ∧ ending (stream answers) ≠ .boundary) ∧
      ((stream answers).count 10 + answers.length < waits.length →
        .endOfInput ∈ results ∨ .invalid ∈ results) := by
  have unread : initial.unread = [] := rfl
  have start : Follows initial answers [] (stream answers) := by
    refine ⟨Nat.zero_le _, List.not_mem_nil, Nat.zero_le _, fun _ => ?_, nofun⟩
    rw [left, unread]
    exact ⟨rfl, rfl⟩
  obtain ⟨⟨follows, atEnd, refused⟩, ends⟩ := run_framed waits start working
  rw [newlines, unread, List.nil_append] at ends
  exact ⟨follows.prefix_frames, follows.short, atEnd, refused, ends⟩

/-- Two lines in three chunks, with an empty poll in between. -/
theorem run_framing_chunks :
    let answers := [Answer.chunk [97, 10, 98] (by decide) (by decide), .idle,
      .chunk [99] (by decide) (by decide), .chunk [10] (by decide) (by decide)]
    linesOf (run initial answers [-1, 0, -1, 0, -1, -1, -1]).1 = [[97], [98, 99]] := by
  intro answers
  obtain ⟨_, _, atEnd, refused, ends⟩ := run_framing answers [-1, 0, -1, 0, -1, -1, -1]
    (by simp [answers])
  have framed : frames (stream answers) = [[97], [98, 99]] := by decide
  rcases ends (by decide) with ended | invalid
  · exact (atEnd ended).1.trans framed
  · exact absurd (show ending (stream answers) = .boundary by decide) (refused invalid).2

end BoundedInput

end WotexMatter.Wire
