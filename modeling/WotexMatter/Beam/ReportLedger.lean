/-
# WotexMatter.Beam.ReportLedger -- the BEAM's account of native reports

`Wotex.Matter.Native.ReportLedger` (`lib/wotex/matter/native/report_ledger.ex`): the
reports received and not yet acknowledged, with the last sequence of each open
stream.  Stream identities and consumption tokens are the owner's, so both are type
parameters.  `:error` and `:ignore` are `none`.

`Follows ledger got` compares a ledger with the list of reports it has registered
(each with its stream and its bytes).  Every operation keeps it; what `advance`
proposes is then a length and a sum of that list.
-/
import Mathlib.Algebra.GroupWithZero.Nat
import WotexMatter.Theory.Table

set_option autoImplicit false
set_option linter.unusedSectionVars false

namespace WotexMatter.Beam

open WotexMatter.Theory

/-- `@maximum_counter`. -/
def maximumCounter : Nat := 18446744073709551615

structure Report (K R : Type) where
  stream : K
  bytes : Nat
  token : R
  consumed : Bool := false
deriving DecidableEq, Repr

structure ReportLedger (K R : Type) where
  nextSequence : Nat := 1
  acknowledgedSequence : Nat := 0
  acknowledgedBytes : Nat := 0
  pending : Table Nat (Report K R) := ∅
  streams : Table K Nat := ∅

/-- What `advance` proposes to send. -/
structure Acknowledgement where
  reportSequence : Nat
  acknowledgedBytes : Nat
deriving DecidableEq, Repr

namespace ReportLedger

variable {K R : Type} [DecidableEq K] [DecidableEq R]

/-- `open/2`. -/
def openStream (ledger : ReportLedger K R) (stream : K) : Option (ReportLedger K R) :=
  if Table.size ledger.streams < 128 ∧ (ledger.streams.lookup stream).isNone then
    some { ledger with streams := ledger.streams.insert stream 0 }
  else none

def retainedBytes (ledger : ReportLedger K R) : Nat :=
  Table.total (fun report => report.bytes) ledger.pending

def register (ledger : ReportLedger K R) (stream : K) (sequence bytes : Nat) (token : R) :
    Option (ReportLedger K R) :=
  if 0 < sequence ∧ sequence < maximumCounter ∧ 1 ≤ bytes ∧ bytes ≤ 131072 then
    if sequence = ledger.nextSequence ∧ (ledger.streams.lookup stream).isSome ∧
        Table.size ledger.pending < 64 ∧ ledger.retainedBytes + bytes ≤ 1048576 ∧
        ledger.acknowledgedBytes + ledger.retainedBytes + bytes ≤ maximumCounter then
      some { ledger with
        nextSequence := sequence + 1
        pending := ledger.pending.insert sequence { stream, bytes, token }
        streams := ledger.streams.insert stream sequence }
    else none
  else none

def consume (ledger : ReportLedger K R) (stream : K) (sequence : Nat) (token : R) :
    Option (ReportLedger K R) :=
  match ledger.pending.lookup sequence with
  | some report =>
      if report.stream = stream ∧ report.token = token ∧ report.consumed = false then
        some { ledger with
          pending := ledger.pending.insert sequence { report with consumed := true } }
      else none
  | none => none

/-- The reports of a retired stream count as consumed. -/
def discard (stream : K) (report : Report K R) : Report K R :=
  if report.stream = stream then { report with consumed := true } else report

def retire (ledger : ReportLedger K R) (stream : K) (lastSequence : Nat) :
    Option (ReportLedger K R) :=
  if ledger.streams.lookup stream = some lastSequence then
    some { ledger with
      pending := Table.filterMap (fun _ report => some (discard stream report)) ledger.pending
      streams := ledger.streams.erase stream }
  else none

/-- `consume_prefix`; each round takes an entry off `pending`, so its size bounds them. -/
def consumeFrom : Nat → Nat → Nat → Table Nat (Report K R) → Nat × Nat × Table Nat (Report K R)
  | 0, sequence, bytes, pending => (sequence - 1, bytes, pending)
  | rounds + 1, sequence, bytes, pending =>
      match (pending.lookup sequence).filter (fun report => report.consumed) with
      | some report =>
          consumeFrom rounds (sequence + 1) (bytes + report.bytes) (pending.erase sequence)
      | none => (sequence - 1, bytes, pending)

def consumePrefix (sequence bytes : Nat) (pending : Table Nat (Report K R)) :
    Nat × Nat × Table Nat (Report K R) :=
  consumeFrom (Table.size pending) sequence bytes pending

def advance (ledger : ReportLedger K R) : Option Acknowledgement × ReportLedger K R :=
  let (sequence, bytes, pending) :=
    consumePrefix (ledger.acknowledgedSequence + 1) ledger.acknowledgedBytes ledger.pending
  if sequence = ledger.acknowledgedSequence then (none, ledger)
  else
    (some { reportSequence := sequence, acknowledgedBytes := bytes },
      { ledger with acknowledgedSequence := sequence, acknowledgedBytes := bytes, pending })

/-- The rounds never run out: `consumePrefix` satisfies the source's own equation. -/
theorem consumePrefix_eq (sequence bytes : Nat) (pending : Table Nat (Report K R)) :
    consumePrefix sequence bytes pending =
      match (pending.lookup sequence).filter (fun report => report.consumed) with
      | some report =>
          consumePrefix (sequence + 1) (bytes + report.bytes) (pending.erase sequence)
      | none => (sequence - 1, bytes, pending) := by
  unfold consumePrefix
  cases count : Table.size pending with
  | zero =>
      have missing : pending.lookup sequence = none := by
        by_contra present
        obtain ⟨report, found⟩ := Option.ne_none_iff_exists'.1 present
        have := Table.size_erase_of_lookup found
        omega
      rw [missing]
      rfl
  | succ rounds =>
      rw [consumeFrom]
      split
      · rename_i report found
        have member := (Option.filter_eq_some_iff.1 found).1
        have smaller := Table.size_erase_of_lookup member
        rw [show Table.size (pending.erase sequence) = rounds by omega]
      · rfl

/-! ## The ledger and the reports it registered -/

def sumBytes (reports : List (K × Nat)) : Nat := (reports.map Prod.snd).sum

theorem sumBytes_append (front back : List (K × Nat)) :
    sumBytes (front ++ back) = sumBytes front + sumBytes back := by
  simp [sumBytes]

/-- The part of a pending report that `register` fixed. -/
def identity (report : Report K R) : K × Nat := (report.stream, report.bytes)

/-- The ledger holds exactly the reports of `got` beyond its acknowledged prefix. -/
structure Follows (ledger : ReportLedger K R) (got : List (K × Nat)) : Prop where
  next : ledger.nextSequence = got.length + 1
  acknowledged_le : ledger.acknowledgedSequence ≤ got.length
  bytes : ledger.acknowledgedBytes = sumBytes (got.take ledger.acknowledgedSequence)
  pending : ∀ n, (ledger.pending.lookup n).map identity =
    if ledger.acknowledgedSequence < n then got[n - 1]? else none
  size : Table.size ledger.pending = got.length - ledger.acknowledgedSequence
  retained : ledger.retainedBytes = sumBytes (got.drop ledger.acknowledgedSequence)

variable {ledger : ReportLedger K R} {got : List (K × Nat)}

theorem follows_new : Follows ({} : ReportLedger K R) [] where
  next := rfl
  acknowledged_le := Nat.le_refl _
  bytes := rfl
  pending := fun n => by simp
  size := by simp [Table.size]
  retained := by simp [retainedBytes, Table.total, sumBytes]

theorem openStream_follows {stream : K} {opened : ReportLedger K R}
    (follows : Follows ledger got) (result : ledger.openStream stream = some opened) :
    Follows opened got := by
  unfold openStream at result
  split at result
  · obtain rfl := Option.some.inj result
    exact ⟨follows.next, follows.acknowledged_le, follows.bytes, follows.pending, follows.size,
      follows.retained⟩
  · cases result

theorem sumBytes_split (follows : Follows ledger got) :
    ledger.acknowledgedBytes + ledger.retainedBytes = sumBytes got := by
  rw [follows.bytes, follows.retained, ← sumBytes_append, List.take_append_drop]

/-- What `register` needs, in terms of the reports so far. -/
theorem register_accepts (follows : Follows ledger got) {stream : K} {sequence bytes : Nat}
    (next : sequence = got.length + 1) (countable : sequence < maximumCounter)
    (nonempty : 1 ≤ bytes) (short : bytes ≤ 131072)
    (known : (ledger.streams.lookup stream).isSome)
    (frames : got.length - ledger.acknowledgedSequence < 64)
    (retained : sumBytes (got.drop ledger.acknowledgedSequence) + bytes ≤ 1048576)
    (total : sumBytes got + bytes ≤ maximumCounter) (token : R) :
    ledger.register stream sequence bytes token = some { ledger with
      nextSequence := sequence + 1
      pending := ledger.pending.insert sequence { stream, bytes, token }
      streams := ledger.streams.insert stream sequence } := by
  unfold register
  rw [if_pos ⟨by omega, countable, nonempty, short⟩, if_pos]
  refine ⟨next.trans follows.next.symm, known, ?_, ?_, ?_⟩
  · rw [follows.size]
    exact frames
  · rw [follows.retained]
    exact retained
  · rw [sumBytes_split follows]
    exact total

theorem register_follows (follows : Follows ledger got) {stream : K} {sequence bytes : Nat}
    {token : R} {registered : ReportLedger K R}
    (result : ledger.register stream sequence bytes token = some registered) :
    Follows registered (got ++ [(stream, bytes)]) := by
  unfold register at result
  split at result
  · split at result
    · rename_i admitted
      obtain rfl := Option.some.inj result
      have next : sequence = got.length + 1 := admitted.1.trans follows.next
      have le := follows.acknowledged_le
      have fresh : ledger.pending.lookup sequence = none := by
        have here := follows.pending sequence
        rw [if_pos (by omega), next, Nat.add_sub_cancel, List.getElem?_eq_none (Nat.le_refl _)]
          at here
        rw [next]
        exact Option.map_eq_none_iff.1 here
      exact
        { next := by simp [next]
          acknowledged_le := by
            rw [List.length_append]
            exact le.trans (Nat.le_add_right _ _)
          bytes := by
            rw [List.take_append_of_le_length le]
            exact follows.bytes
          pending := by
            intro n
            dsimp only
            rw [Table.lookup_insert]
            split
            · rename_i here
              rw [if_pos (by omega), here, next, Nat.add_sub_cancel, List.getElem?_append_right
                (Nat.le_refl _)]
              simp [identity]
            · rename_i other
              rw [follows.pending n]
              split
              · rcases Nat.lt_or_ge (n - 1) got.length with before | beyond
                · rw [List.getElem?_append_left before]
                · rw [List.getElem?_eq_none beyond, List.getElem?_eq_none]
                  rw [List.length_append, List.length_singleton]
                  omega
              · rfl
          size := by
            dsimp only
            rw [Table.size_insert_of_fresh _ fresh, follows.size, List.length_append,
              List.length_singleton]
            omega
          retained := by
            rw [List.drop_append_of_le_length le, sumBytes_append, ← follows.retained]
            exact Table.total_insert_of_fresh _ _ fresh }
    · cases result
  · cases result

/-- A report can be consumed as soon as it is registered. -/
theorem consume_registered (ledger : ReportLedger K R) (stream : K) (sequence bytes : Nat)
    (token : R) (next : Nat) (streams : Table K Nat) :
    consume { ledger with
        nextSequence := next
        pending := ledger.pending.insert sequence { stream, bytes, token }
        streams } stream sequence token =
      some { ledger with
        nextSequence := next
        pending := (ledger.pending.insert sequence { stream, bytes, token }).insert sequence
          { stream, bytes, token, consumed := true }
        streams } := by
  unfold consume
  rw [Table.lookup_insert_self]
  dsimp only
  rw [if_pos ⟨rfl, rfl, rfl⟩]

/-- Marking reports as consumed changes no identity. -/
theorem follows_of_marked {marked : Table Nat (Report K R)} (follows : Follows ledger got)
    (same : ∀ n, (marked.lookup n).map identity = (ledger.pending.lookup n).map identity)
    (size : Table.size marked = Table.size ledger.pending)
    (total : Table.total (fun report => report.bytes) marked = ledger.retainedBytes)
    (streams : Table K Nat) :
    Follows { ledger with pending := marked, streams } got where
  next := follows.next
  acknowledged_le := follows.acknowledged_le
  bytes := follows.bytes
  pending := fun n => (same n).trans (follows.pending n)
  size := size.trans follows.size
  retained := total.trans follows.retained

theorem consume_follows (follows : Follows ledger got) {stream : K} {sequence : Nat} {token : R}
    {consumed : ReportLedger K R}
    (result : ledger.consume stream sequence token = some consumed) : Follows consumed got := by
  unfold consume at result
  split at result
  · rename_i report found
    split at result
    · obtain rfl := Option.some.inj result
      have total : Table.total (fun report => report.bytes)
          (ledger.pending.insert sequence { report with consumed := true }) =
          ledger.retainedBytes := Table.total_insert_of_lookup found rfl
      refine follows_of_marked follows (fun n => ?_) (Table.size_insert_of_lookup found) total
        ledger.streams
      rw [Table.lookup_insert]
      split
      · rename_i here
        rw [here, found]
        rfl
      · rfl
    · cases result
  · cases result

theorem retire_follows (follows : Follows ledger got) {stream : K} {lastSequence : Nat}
    {retired : ReportLedger K R} (result : ledger.retire stream lastSequence = some retired) :
    Follows retired got := by
  unfold retire at result
  split at result
  · obtain rfl := Option.some.inj result
    have unchanged : ∀ report : Report K R, identity (discard stream report) = identity report := by
      intro report
      unfold discard identity
      split <;> rfl
    have total : Table.total (fun report => report.bytes)
        (Table.filterMap (fun _ report => some (discard stream report)) ledger.pending) =
        ledger.retainedBytes :=
      Table.total_filterMap (fun _ report =>
        ⟨discard stream report, rfl, congrArg Prod.snd (unchanged report)⟩) _
    have size : Table.size
        (Table.filterMap (fun _ report => some (discard stream report)) ledger.pending) =
        Table.size ledger.pending := Table.size_filterMap_of_isSome (fun _ _ => rfl) _
    refine follows_of_marked follows (fun n => ?_) size total _
    rw [Table.lookup_filterMap]
    cases ledger.pending.lookup n with
    | none => rfl
    | some report => simp [unchanged]
  · cases result

/-- Taking the next consumed report off the ledger. -/
theorem follows_step (follows : Follows ledger got) {report : Report K R}
    (found : ledger.pending.lookup (ledger.acknowledgedSequence + 1) = some report) :
    Follows { ledger with
      acknowledgedSequence := ledger.acknowledgedSequence + 1
      acknowledgedBytes := ledger.acknowledgedBytes + report.bytes
      pending := ledger.pending.erase (ledger.acknowledgedSequence + 1) } got := by
  have here := follows.pending (ledger.acknowledgedSequence + 1)
  rw [found, Option.map_some, if_pos (Nat.lt_succ_self _), Nat.add_sub_cancel] at here
  obtain ⟨lt, entry⟩ := List.getElem?_eq_some_iff.1 here.symm
  have bytes : got[ledger.acknowledgedSequence].2 = report.bytes := by rw [entry]; rfl
  exact
    { next := follows.next
      acknowledged_le := lt
      bytes := by
        dsimp only
        rw [List.take_add_one, here.symm, sumBytes_append, ← follows.bytes]
        simp [sumBytes, identity]
      pending := by
        intro n
        dsimp only
        rw [Table.lookup_erase]
        split
        · rename_i same
          rw [if_neg (by omega)]
          rfl
        · rename_i other
          rw [follows.pending n]
          by_cases later : ledger.acknowledgedSequence < n
          · rw [if_pos later, if_pos (by omega)]
          · rw [if_neg later, if_neg (by omega)]
      size := by
        have smaller := Table.size_erase_of_lookup found
        rw [follows.size] at smaller
        dsimp only
        omega
      retained := by
        have left := Table.total_erase_of_lookup (fun report => report.bytes) found
        have before := follows.retained
        unfold retainedBytes at before ⊢
        dsimp only
        rw [before, List.drop_eq_getElem_cons lt] at left
        simp only [sumBytes, List.map_cons, List.sum_cons, bytes] at left ⊢
        omega }

theorem consumePrefix_follows (rounds : Nat) :
    ∀ {ledger : ReportLedger K R}, Follows ledger got →
      Table.size ledger.pending ≤ rounds →
      Follows { ledger with
        acknowledgedSequence := (consumePrefix (ledger.acknowledgedSequence + 1)
          ledger.acknowledgedBytes ledger.pending).1
        acknowledgedBytes := (consumePrefix (ledger.acknowledgedSequence + 1)
          ledger.acknowledgedBytes ledger.pending).2.1
        pending := (consumePrefix (ledger.acknowledgedSequence + 1)
          ledger.acknowledgedBytes ledger.pending).2.2 } got ∧
      ledger.acknowledgedSequence ≤ (consumePrefix (ledger.acknowledgedSequence + 1)
        ledger.acknowledgedBytes ledger.pending).1 := by
  induction rounds with
  | zero =>
      intro ledger follows few
      rw [consumePrefix, Nat.le_zero.1 few]
      exact ⟨follows, Nat.le_refl _⟩
  | succ rounds ih =>
      intro ledger follows few
      rw [consumePrefix_eq]
      split
      · rename_i report found
        have member := (Option.filter_eq_some_iff.1 found).1
        have smaller := Table.size_erase_of_lookup member
        obtain ⟨kept, further⟩ := ih (follows_step follows member) (by dsimp only; omega)
        exact ⟨kept, (Nat.le_succ _).trans further⟩
      · exact ⟨follows, Nat.le_refl _⟩

/-- What `advance` proposes is a longer prefix of the registered reports and its sum. -/
theorem advance_follows (follows : Follows ledger got) {ack : Acknowledgement}
    {advanced : ReportLedger K R} (result : ledger.advance = (some ack, advanced)) :
    Follows advanced got ∧ ledger.acknowledgedSequence < ack.reportSequence ∧
      advanced.acknowledgedSequence = ack.reportSequence ∧
      ack.acknowledgedBytes = sumBytes (got.take ack.reportSequence) ∧
      advanced.streams = ledger.streams := by
  obtain ⟨kept, further⟩ := consumePrefix_follows _ follows (Nat.le_refl _)
  unfold advance at result
  dsimp only at result
  split at result
  · cases result
  · rename_i moved
    obtain ⟨sameAck, rfl⟩ := Prod.mk.inj result
    obtain rfl := Option.some.inj sameAck
    exact ⟨kept, Nat.lt_of_le_of_ne further (Ne.symm moved), rfl, kept.bytes, rfl⟩

/-- `advance` proposes something once the next report is consumed. -/
theorem advance_proposes (follows : Follows ledger got) {report : Report K R}
    (found : ledger.pending.lookup (ledger.acknowledgedSequence + 1) = some report)
    (consumed : report.consumed = true) :
    ∃ ack advanced, ledger.advance = (some ack, advanced) := by
  have further := (consumePrefix_follows _ (follows_step follows found) (Nat.le_refl _)).2
  have unfolded := consumePrefix_eq (ledger.acknowledgedSequence + 1) ledger.acknowledgedBytes
    ledger.pending
  rw [found, Option.filter_some, if_pos consumed] at unfolded
  dsimp only at further unfolded
  rw [← unfolded] at further
  unfold advance
  dsimp only
  rw [if_neg (by omega)]
  exact ⟨_, _, rfl⟩

/-! ## The streams each operation leaves -/

theorem openStream_streams {stream : K} {opened : ReportLedger K R}
    (result : ledger.openStream stream = some opened) :
    ledger.streams.lookup stream = none ∧ opened.streams = ledger.streams.insert stream 0 := by
  unfold openStream at result
  split at result
  · rename_i fresh
    obtain rfl := Option.some.inj result
    exact ⟨by simpa using fresh.2, rfl⟩
  · cases result

theorem consume_streams {stream : K} {sequence : Nat} {token : R} {consumed : ReportLedger K R}
    (result : ledger.consume stream sequence token = some consumed) :
    consumed.streams = ledger.streams := by
  unfold consume at result
  split at result
  · split at result
    · obtain rfl := Option.some.inj result
      rfl
    · cases result
  · cases result

theorem consume_acknowledgedSequence {stream : K} {sequence : Nat} {token : R}
    {consumed : ReportLedger K R}
    (result : ledger.consume stream sequence token = some consumed) :
    consumed.acknowledgedSequence = ledger.acknowledgedSequence := by
  unfold consume at result
  split at result
  · split at result
    · obtain rfl := Option.some.inj result
      rfl
    · cases result
  · cases result

theorem retire_accepts {stream : K} {lastSequence : Nat}
    (known : ledger.streams.lookup stream = some lastSequence) :
    ∃ retired, ledger.retire stream lastSequence = some retired ∧
      retired.streams = ledger.streams.erase stream ∧
      retired.acknowledgedSequence = ledger.acknowledgedSequence := by
  unfold retire
  rw [if_pos known]
  exact ⟨_, rfl, rfl, rfl⟩

end ReportLedger

end WotexMatter.Beam
