/-
# WotexMatter.Beam.EnvelopeOrder -- reports are handed out in the order of their sequences

Reports of one stream reach its receiver on two paths: what arrives while the request
is unanswered waits in the buffer until the process takes up its own
`flush_subscription` message, what arrives later is handed out at once.  The answer
makes the subscription active before the buffer is empty, so a report that the process
takes up between the answer and the flush overtakes the ones that wait.

`InOrder` puts what was sent before what waits: together they increase, and the next
sequence of the ledger lies beyond them.  Every change of the books keeps it if no
report is handed out past a buffer, and `run_envelopes_increase` is that for a whole run.
-/
import WotexMatter.Beam.Book
import WotexMatter.Beam.Terminal

set_option autoImplicit false
set_option linter.unusedSectionVars false

namespace WotexMatter.Beam

open WotexMatter.Theory WotexMatter.Native

namespace ReportLedger

variable {K R : Type} [DecidableEq K] [DecidableEq R] {ledger ledger' : ReportLedger K R}

@[simp] theorem advance_nextSequence (ledger : ReportLedger K R) :
    ledger.advance.2.nextSequence = ledger.nextSequence := by
  simp only [advance]
  split <;> rfl

theorem Settles.nextSequence (settles : ledger.Settles ledger') :
    ledger'.nextSequence = ledger.nextSequence := by
  rcases settles with rfl | rfl
  · rfl
  · simp

theorem consume_nextSequence {stream : K} {sequence : Nat} {token : R}
    (result : ledger.consume stream sequence token = some ledger') :
    ledger'.nextSequence = ledger.nextSequence := by
  unfold consume at result
  split at result
  · split at result
    · obtain rfl := Option.some.inj result
      rfl
    · cases result
  · cases result

theorem Acknowledges.nextSequence {sequence : Nat}
    (acknowledges : ledger.Acknowledges sequence ledger') :
    ledger'.nextSequence = ledger.nextSequence := by
  rcases acknowledges with rfl | ⟨report, consumed, -, consumes, settles⟩
  · rfl
  · rw [settles.nextSequence, consume_nextSequence consumes]

theorem openStream_nextSequence {stream : K} (result : ledger.openStream stream = some ledger') :
    ledger'.nextSequence = ledger.nextSequence := by
  unfold openStream at result
  split at result
  · obtain rfl := Option.some.inj result
    rfl
  · cases result

theorem retire_nextSequence {stream : K} {last : Nat}
    (result : ledger.retire stream last = some ledger') :
    ledger'.nextSequence = ledger.nextSequence := by
  unfold retire at result
  split at result
  · obtain rfl := Option.some.inj result
    rfl
  · cases result

end ReportLedger

namespace Book

variable {P : Type} {rules : Rules} {b b' : Book P} {reference : Nat}

/-- The sequences handed out under a reference, in the order of their messages. -/
def handedOut (b : Book P) (reference : Nat) : List Nat :=
  b.envelopes.filterMap fun entry => if entry.1 = reference then some entry.2.1 else none

/-- The sequences that wait under a reference. -/
def waiting (b : Book P) (reference : Nat) : List Nat :=
  ((b.subscriptions.lookup reference).map fun subscription =>
    sequences subscription.buffered).getD []

structure InOrder (b : Book P) (reference : Nat) : Prop where
  increasing : (b.handedOut reference ++ b.waiting reference).Pairwise (· < ·)
  registered : ∀ n ∈ b.handedOut reference ++ b.waiting reference, n < b.ledger.nextSequence

theorem InOrder.shrink (inOrder : InOrder b reference)
    (fewer : (b'.handedOut reference ++ b'.waiting reference).Sublist
      (b.handedOut reference ++ b.waiting reference))
    (later : b.ledger.nextSequence ≤ b'.ledger.nextSequence) : InOrder b' reference where
  increasing := inOrder.increasing.sublist fewer
  registered := fun n member => (inOrder.registered n (fewer.subset member)).trans_le later

/-- The next sequence of the ledger comes last. -/
theorem InOrder.snoc (inOrder : InOrder b reference)
    (grown : b'.handedOut reference ++ b'.waiting reference =
      b.handedOut reference ++ b.waiting reference ++ [b.ledger.nextSequence])
    (next : b'.ledger.nextSequence = b.ledger.nextSequence + 1) : InOrder b' reference where
  increasing := by
    rw [grown, List.pairwise_append]
    refine ⟨inOrder.increasing, List.pairwise_singleton _ _, ?_⟩
    intro earlier member last here
    rw [List.mem_singleton.1 here]
    exact inOrder.registered earlier member
  registered := by
    intro n member
    rw [grown, List.mem_append, List.mem_singleton] at member
    rw [next]
    rcases member with before | rfl
    · exact (inOrder.registered n before).trans (Nat.lt_succ_self _)
    · exact Nat.lt_succ_self _

theorem waiting_write (b : Book P) (written other : Nat) (subscription : Subscription P) :
    (b.write written subscription).waiting other =
      if other = written then sequences subscription.buffered else b.waiting other := by
  unfold waiting write
  dsimp only
  rw [Table.lookup_insert]
  split <;> rfl

theorem handedOut_registered (b : Book P) (written other : Nat) (subscription : Subscription P)
    (ledger : ReportLedger (Nat × Nat) Nat) :
    (b.registered written subscription ledger).handedOut other = b.handedOut other := rfl

theorem waiting_registered (b : Book P) (written other : Nat) (subscription : Subscription P)
    (ledger : ReportLedger (Nat × Nat) Nat) :
    (b.registered written subscription ledger).waiting other =
      (b.write written subscription).waiting other := rfl

/-- Writing an entry with the same buffer. -/
theorem waiting_write_same {written : Nat} {subscription changed : Subscription P}
    (found : b.subscriptions.lookup written = some subscription)
    (same : changed.buffered = subscription.buffered) (other : Nat) :
    (b.write written changed).waiting other = b.waiting other := by
  rw [waiting_write]
  split
  · rename_i here
    unfold waiting
    rw [here, found, same]
    rfl
  · rfl

theorem waiting_found {subscription : Subscription P}
    (found : b.subscriptions.lookup reference = some subscription) :
    b.waiting reference = sequences subscription.buffered := by
  unfold waiting
  rw [found]
  rfl

theorem handedOut_tell (b : Book P) (message : Message P) (reference : Nat) :
    (b.tell message).handedOut reference = b.handedOut reference ++
      (message.envelope?.toList.filterMap fun entry =>
        if entry.1 = reference then some entry.2.1 else none) := by
  unfold handedOut envelopes tell
  dsimp only
  rw [List.filterMap_append, List.filterMap_append]
  cases known : message.envelope? <;> simp [known]

theorem envelope_some (subscription : Subscription P) (reference sequence token : Nat)
    (delivery : P) : (Connection.envelope subscription reference sequence token
      delivery).envelope? = some (reference, sequence, token) := by
  unfold Connection.envelope
  split <;> rfl

theorem handedOut_envelope (b : Book P) (subscription : Subscription P)
    (written sequence token : Nat) (delivery : P) (reference : Nat) :
    (b.tell (Connection.envelope subscription written sequence token delivery)).handedOut
        reference =
      b.handedOut reference ++ (if written = reference then [sequence] else []) := by
  rw [handedOut_tell, envelope_some]
  congr 1
  simp only [Option.toList_some, List.filterMap_cons, List.filterMap_nil]
  split <;> rename_i same <;> split at same <;> simp_all

theorem sequences_closes {subscription closed : Subscription P}
    (closes : Closes subscription closed) : closed.buffered = subscription.buffered := by
  rw [closes]

/-- Leaving the sent messages and all buffers as they are. -/
theorem InOrder.same (inOrder : InOrder b reference) (sent : b'.sent = b.sent)
    (waits : b'.waiting reference = b.waiting reference)
    (later : b.ledger.nextSequence ≤ b'.ledger.nextSequence) : InOrder b' reference := by
  refine inOrder.shrink ?_ later
  have told : b'.handedOut reference = b.handedOut reference := by
    unfold handedOut envelopes
    rw [sent]
  rw [told, waits]

theorem InOrder.dropped (inOrder : InOrder b reference) (retired : Nat)
    (subscription : Subscription P) : InOrder (b.dropped retired subscription) reference := by
  refine inOrder.shrink ?_ (Nat.le_refl _)
  have told : (b.dropped retired subscription).handedOut reference = b.handedOut reference := rfl
  rw [told]
  refine List.Sublist.append_left ?_ _
  unfold waiting Book.dropped
  dsimp only
  rw [Table.lookup_erase]
  split
  · exact List.nil_sublist _
  · exact List.Sublist.refl _

/-- One change of the books. -/
theorem step_inOrder (asked : rules.flushed) (step : Step rules b b')
    (inOrder : InOrder b reference) : InOrder b' reference := by
  cases step with
  | tell message plain =>
      refine inOrder.shrink ?_ (Nat.le_refl _)
      rw [handedOut_tell, plain, Option.toList_none, List.filterMap_nil, List.append_nil]
      exact List.Sublist.refl _
  | close found closes =>
      exact inOrder.same rfl (waiting_write_same found (sequences_closes closes) _) (Nat.le_refl _)
  | closeAll code =>
      refine inOrder.same rfl ?_ (Nat.le_refl _)
      unfold waiting
      dsimp only
      rw [Table.lookup_filterMap]
      cases b.subscriptions.lookup reference with
      | none => rfl
      | some subscription =>
          simp only [Option.bind_some, Option.map_some, Option.getD_some, Connection.notifyOne]
          split <;> rfl
  | attempt found attempt =>
      exact inOrder.same rfl (waiting_write_same found (by rfl) _) (Nat.le_refl _)
  | establish found establishing =>
      exact inOrder.same rfl (waiting_write_same found (by rfl) _) (Nat.le_refl _)
  | resume found recovering moved settled =>
      exact inOrder.same rfl (waiting_write_same found (by rfl) _) (Nat.le_refl _)
  | acknowledge permitted acknowledges =>
      exact inOrder.same rfl rfl acknowledges.nextSequence.ge
  | overflow found closes owned acknowledges =>
      exact inOrder.same rfl (waiting_write_same found (sequences_closes closes) _)
        acknowledges.nextSequence.ge
  | @register written sequence bytes subscription ledger found registers =>
      obtain ⟨rfl, rfl, -⟩ := Connection.register_pending registers
      exact inOrder.same rfl (waiting_write_same found (by rfl) _) (Nat.le_succ _)
  | @buffer written sequence bytes subscription ledger delivery found establishing registers =>
      obtain ⟨rfl, rfl, -⟩ := Connection.register_pending registers
      by_cases here : reference = written
      · subst here
        refine inOrder.snoc ?_ rfl
        rw [handedOut_registered, waiting_registered, waiting_write, if_pos rfl,
          waiting_found found]
        simp [sequences]
      · refine inOrder.same rfl ?_ (Nat.le_succ _)
        rw [waiting_registered, waiting_write, if_neg here]
  | @deliver written sequence bytes subscription ledger delivery found active flushed registers =>
      obtain ⟨rfl, rfl, -⟩ := Connection.register_pending registers
      have kept : (b.write written { subscription with
          lastReportSequence := b.ledger.nextSequence }).waiting reference =
            b.waiting reference := waiting_write_same found (by rfl) reference
      by_cases here : written = reference
      · subst here
        refine inOrder.snoc ?_ rfl
        have empty : b.waiting written = [] := by
          rw [waiting_found found, flushed asked]
          rfl
        rw [handedOut_envelope, handedOut_registered, if_pos rfl]
        change _ ++ (b.write written _).waiting written = _
        rw [kept, empty, List.append_nil, List.append_nil]
      · refine inOrder.shrink ?_ (Nat.le_succ _)
        rw [handedOut_envelope, handedOut_registered, if_neg here, List.append_nil]
        refine List.Sublist.append (List.Sublist.refl _) ?_
        change ((b.write written _).waiting reference).Sublist _
        rw [kept]
  | @flush written sequence bytes subscription delivery rest report found first pending =>
      refine inOrder.shrink ?_ (Nat.le_refl _)
      rw [handedOut_envelope]
      have waits : ((b.write written { subscription with buffered := rest }).tell
          (Connection.envelope subscription written sequence report.token delivery)).waiting
            reference = if reference = written then sequences rest else b.waiting reference :=
        waiting_write b written reference _
      rw [waits]
      by_cases here : written = reference
      · subst here
        rw [if_pos rfl, if_pos rfl, waiting_found found, first, List.append_assoc]
        exact List.Sublist.refl _
      · rw [if_neg here, if_neg (Ne.symm here), List.append_nil]
        exact List.Sublist.refl _
  | @skip written subscription entry rest found first =>
      refine inOrder.shrink ?_ (Nat.le_refl _)
      refine List.Sublist.append (List.Sublist.refl _) ?_
      rw [waiting_write]
      split
      · rename_i here
        subst here
        rw [waiting_found found, first]
        exact List.sublist_cons_self _ _
      · exact List.Sublist.refl _
  | recover found active settled opens =>
      exact inOrder.same rfl (waiting_write_same found (by rfl) _)
        (ReportLedger.openStream_nextSequence opens).ge
  | retireGeneration found retiring paused retires settles =>
      refine inOrder.same rfl (waiting_write_same found (by rfl) _) ?_
      exact (settles.nextSequence.trans (ReportLedger.retire_nextSequence retires)).ge
  | @retireLast written last subscription retired ledger found closing retires settles =>
      refine InOrder.dropped (b := { b with ledger }) ?_ written subscription
      exact inOrder.same rfl rfl
        (settles.nextSequence.trans (ReportLedger.retire_nextSequence retires)).ge
  | drop found => exact inOrder.dropped _ _
  | @put subscription ledger monitors references few opens first unread settled empty =>
      refine inOrder.shrink ?_ (ReportLedger.openStream_nextSequence opens).ge
      refine List.Sublist.append (List.Sublist.refl _) ?_
      change ((b.write b.references subscription).waiting reference).Sublist _
      rw [waiting_write]
      split
      · rw [empty]
        exact List.nil_sublist _
      · exact List.Sublist.refl _

end Book

namespace Connection

variable {P E : Type}

/-- The sequences of the envelopes sent under a reference. -/
def envelopesTo (c : Connection P) (reference : Nat) : List Nat := c.book.handedOut reference

/-- A report for an active subscription finds nothing waiting in its buffer. -/
def flushedFirst (c : Connection P) : Input P E → Prop
  | .line _ (some (.report _ nativeId generation _ _)) =>
      ((c.subscriptionIds.lookup (nativeId, generation)).bind c.subscriptions.lookup).all
        (fun subscription => subscription.status != .active || subscription.buffered.isEmpty) = true
  | _ => True

instance (c : Connection P) : (input : Input P E) → Decidable (flushedFirst c input)
  | .line _ (some (.report ..)) => instDecidableEqBool _ true
  | .line _ (some (.retired ..)) | .line _ (some (.error ..)) | .line _ (some (.resubscribing ..))
  | .line _ (some (.resubscribed ..)) | .line _ (some (.established ..))
  | .line _ (some (.success _)) | .line _ (some (.failure ..)) | .line _ none => isTrue trivial
  | .subscribe .. | .unsubscribe _ | .request _ | .reportAdmitted .. | .reportConsumed ..
  | .nativeInputFailed _ | .down _ | .flushSubscription _ | .failed _ | .closed => isTrue trivial

theorem keeps_of_flushedFirst {c : Connection P} {input : Input P E}
    (first : flushedFirst c input) : Keeps ⟨True, False, False, False⟩ c input := by
  cases input with
  | line bytes frame =>
      cases frame with
      | none => trivial
      | some frame =>
          cases frame with
          | report session nativeId generation sequence payload =>
              intro _ reference subscription known found active
              simp only [flushedFirst, known, Option.bind_some, found, Option.all_some, active,
                bne_self_eq_false, Bool.false_or, List.isEmpty_iff] at first
              exact first
          | resubscribed => exact fun asked => asked.elim
          | _ => trivial
  | subscribe => exact fun asked => asked.elim
  | reportAdmitted => exact fun asked => asked.elim
  | reportConsumed => exact fun asked => asked.elim
  | _ => trivial

/-- **The order of the envelopes.**  Whatever the process receives and whatever it sees of
the world, the envelopes of one subscription are sent with increasing sequences, as long as
no report for an active subscription is taken up before what waits in its buffer. -/
theorem run_envelopes_increase (world : World) (wireError : E → Option String)
    (generation : String) (inputs : List (Input P E))
    (first : Always world wireError flushedFirst { generation } inputs) (reference : Nat) :
    ((run world wireError { generation } inputs).envelopesTo reference).Pairwise (· < ·) := by
  have initial : Book.InOrder ({ generation } : Connection P).book reference :=
    ⟨List.Pairwise.nil, fun n member => absurd member (List.not_mem_nil)⟩
  have kept := run_keeps (Book.step_inOrder trivial) inputs
    (Always.imp (fun _ _ => keeps_of_flushedFirst) inputs first) initial
  exact (List.pairwise_append.1 kept.increasing).1

/-- Two reports before the answer, the answer and the flush, then a third report. -/
def flushedInputs : List (Input Unit Unit) :=
  [.subscribe true "s" 8 true (fun _ => true),
    .line 120 (some (.report "g" "s" 1 1 ())),
    .line 120 (some (.report "g" "s" 1 2 ())),
    .line 96 (some (.established "2" "s" 1 0 60 7)),
    .flushSubscription 0,
    .line 120 (some (.report "g" "s" 1 3 ()))]

theorem run_envelopes_increase_flushed :
    Always (crowded 0) (fun _ => none) flushedFirst { generation := "g" } flushedInputs ∧
      ((run (crowded 0) (fun _ => none) { generation := "g" } flushedInputs).envelopesTo
        0).Pairwise (· < ·) ∧
      (run (crowded 0) (fun _ => none) { generation := "g" } flushedInputs).envelopesTo 0 =
        [1, 2, 3] :=
  ⟨by decide +kernel, run_envelopes_increase (crowded 0) (fun _ => none) "g" flushedInputs
    (by decide +kernel) 0, by decide +kernel⟩

/-- The second report is in the mailbox when the process takes up the answer, and so before
the flush that the process then sends to itself. -/
theorem run_envelopes_overtake :
    ¬ ((run (crowded 0) (fun _ => none) { generation := "g" }
        ([.subscribe true "s" 8 true (fun _ => true),
          .line 120 (some (.report "g" "s" 1 1 ())),
          .line 96 (some (.established "2" "s" 1 0 60 7)),
          .line 120 (some (.report "g" "s" 1 2 ())),
          .flushSubscription 0] : List (Input Unit Unit))).envelopesTo 0).Pairwise (· < ·) := by
  decide +kernel

end Connection

end WotexMatter.Beam
