/-
# WotexMatter.Beam.NoCrash -- no match of the subscription code fails

`Crashes` names the ways in which a running process dies inside its subscription code:
a ledger that refuses a stream it was asked to open or retire, an index that leads
nowhere, a report that is no longer pending.  None of them is possible while the books
are `Sound` (`not_crashes_of_sound`), and a run keeps them sound as long as no recovery
ends before its buffer was flushed.
-/
import WotexMatter.Beam.Soundness

set_option autoImplicit false
set_option linter.unusedSectionVars false

namespace WotexMatter.Beam

open WotexMatter.Theory WotexMatter.Native

namespace Book

variable {P : Type} {rules : Rules} {b b' : Book P}

/-! ## How many streams there are -/

/-- The streams that the ledger may have for a subscription. -/
def streamsOf (reference : Nat) (subscription : Subscription P) : Finset (Nat × Nat) :=
  insert (reference, subscription.generation)
    (subscription.retiringGeneration.toFinset.image fun generation => (reference, generation))

/-- One stream for the current generation, one for the generation that is retiring. -/
theorem card_streamsOf_le (reference : Nat) (subscription : Subscription P) :
    (streamsOf reference subscription).card ≤ 2 := by
  refine (Finset.card_insert_le _ _).trans (Nat.succ_le_succ ?_)
  refine Finset.card_image_le.trans ?_
  cases subscription.retiringGeneration <;> simp

theorem card_streamsOf_settled {reference : Nat} {subscription : Subscription P}
    (settled : subscription.retiringGeneration = none) :
    (streamsOf reference subscription).card = 1 := by
  simp [streamsOf, settled]

/-- The streams of the subscription under a reference, if there is one. -/
def streamsAt (b : Book P) (reference : Nat) : Finset (Nat × Nat) :=
  (b.subscriptions.lookup reference).elim ∅ (streamsOf reference)

/-- Every stream of the ledger belongs to a subscription. -/
theorem streams_subset (agrees : Agrees b) :
    b.ledger.streams.keys ⊆ b.subscriptions.keys.biUnion b.streamsAt := by
  rintro ⟨reference, generation⟩ member
  rw [Table.mem_keys_iff] at member
  obtain ⟨subscription, found, which⟩ := agrees.known reference generation member
  rw [Finset.mem_biUnion]
  refine ⟨reference, Table.mem_keys_of_lookup found, ?_⟩
  rw [streamsAt, found, Option.elim_some, streamsOf, Finset.mem_insert]
  rcases which with rfl | retiring
  · exact Or.inl rfl
  · refine Or.inr (Finset.mem_image.2 ⟨generation, ?_, rfl⟩)
    rw [retiring]
    simp

theorem card_streamsAt_le (b : Book P) (reference : Nat) : (b.streamsAt reference).card ≤ 2 := by
  unfold streamsAt
  cases b.subscriptions.lookup reference with
  | none => simp
  | some subscription => exact card_streamsOf_le reference subscription

/-- **The streams are at most twice the subscriptions**, so 64 of these fit the 128 of the ledger.
-/
theorem size_streams_le (agrees : Agrees b) :
    Table.size b.ledger.streams ≤ 2 * Table.size b.subscriptions := by
  calc Table.size b.ledger.streams
      ≤ (b.subscriptions.keys.biUnion b.streamsAt).card := Finset.card_le_card (streams_subset agrees)
    _ ≤ b.subscriptions.keys.card * 2 :=
        Finset.card_biUnion_le_card_mul _ _ _ fun reference _ => card_streamsAt_le b reference
    _ = 2 * Table.size b.subscriptions := Nat.mul_comm _ _

/-- A subscription with no generation retiring leaves room for one more stream. -/
theorem size_streams_lt (agrees : Agrees b) {reference : Nat} {subscription : Subscription P}
    (found : b.subscriptions.lookup reference = some subscription)
    (settled : subscription.retiringGeneration = none) :
    Table.size b.ledger.streams < 2 * Table.size b.subscriptions := by
  have member := Table.mem_keys_of_lookup found
  have one : (b.streamsAt reference).card = 1 := by
    rw [streamsAt, found]
    exact card_streamsOf_settled settled
  have rest : ((b.subscriptions.keys.erase reference).biUnion b.streamsAt).card ≤
      (b.subscriptions.keys.erase reference).card * 2 :=
    Finset.card_biUnion_le_card_mul _ _ _ fun other _ => card_streamsAt_le b other
  have total : Table.size b.ledger.streams ≤ (b.streamsAt reference).card +
      ((b.subscriptions.keys.erase reference).biUnion b.streamsAt).card := by
    refine (Finset.card_le_card (streams_subset agrees)).trans ?_
    rw [← Finset.insert_erase member, Finset.biUnion_insert, Finset.erase_insert_eq_erase,
      Finset.erase_idem]
    exact Finset.card_union_le _ _
  rw [Finset.card_erase_of_mem member] at rest
  have positive : 0 < b.subscriptions.keys.card := Finset.card_pos.2 ⟨reference, member⟩
  unfold Table.size at total ⊢
  omega

/-- The ledger refuses a new stream for want of room only. -/
theorem openStream_some {ledger : ReportLedger (Nat × Nat) Nat} {stream : Nat × Nat}
    (few : Table.size ledger.streams < 128) (fresh : ledger.streams.lookup stream = none) :
    ∃ opened, ledger.openStream stream = some opened := by
  unfold ReportLedger.openStream
  rw [if_pos ⟨few, by rw [fresh]; rfl⟩]
  exact ⟨_, rfl⟩

/-- The stream of the next generation can be opened once the last one has retired. -/
theorem openStream_next (agrees : Agrees b) {reference : Nat} {subscription : Subscription P}
    (found : b.subscriptions.lookup reference = some subscription)
    (settled : subscription.retiringGeneration = none) :
    ∃ opened, b.ledger.openStream (reference, subscription.generation + 1) = some opened := by
  refine openStream_some ?_ ?_
  · have lt := size_streams_lt agrees found settled
    have few := agrees.few
    omega
  · by_contra present
    obtain ⟨whose, there, which⟩ := agrees.known reference _ (Option.isSome_iff_ne_none.2 present)
    rw [found] at there
    obtain rfl := Option.some.inj there
    rw [settled] at which
    rcases which with same | absurd
    · omega
    · cases absurd

/-- So can the first stream of a new subscription. -/
theorem openStream_first (agrees : Agrees b) (few : Table.size b.subscriptions < 64) :
    ∃ opened, b.ledger.openStream (b.references, 1) = some opened := by
  refine openStream_some ?_ ?_
  · have le := size_streams_le agrees
    omega
  · by_contra present
    obtain ⟨whose, there, -⟩ := agrees.known b.references 1 (Option.isSome_iff_ne_none.2 present)
    have := agrees.fresh b.references (by rw [there]; rfl)
    omega

end Book

namespace Connection

variable {P E : Type}

/-! ## What never stops the process -/

@[simp] theorem stopped_update (c : Connection P) (reference : Nat)
    (change : Subscription P → Subscription P) :
    (c.update reference change).stopped = c.stopped := by
  unfold update
  split <;> rfl

/-- A refused frame ends no process by itself: the caller does. -/
@[simp] theorem stopped_sendFrame (world : World) (c : Connection P) (line : HostLine) :
    (c.sendFrame world line).2.stopped = c.stopped := by
  unfold sendFrame
  split <;> rfl

@[simp] theorem stopped_failNativeInput (c : Connection P) :
    c.failNativeInput.stopped = c.stopped := by
  unfold failNativeInput
  split <;> rfl

@[simp] theorem stopped_watchCancellation (world : World) (c : Connection P) (reference : Nat) :
    (c.watchCancellation world reference).stopped = c.stopped := by
  unfold watchCancellation
  dsimp only
  split <;> rfl

@[simp] theorem stopped_completeCancellation (world : World) (c : Connection P) (reference : Nat) :
    (c.completeCancellation world reference).stopped = c.stopped := by
  unfold completeCancellation
  split
  · rfl
  · dsimp only
    split
    · simp
    · split <;> rfl

/-- A subscription can end without the session. -/
@[simp] theorem stopped_dropSubscription (c : Connection P) (reference : Nat) :
    (c.dropSubscription reference).stopped = c.stopped := by
  unfold dropSubscription
  split <;> rfl

@[simp] theorem stopped_retireSubscription (world : World) (c : Connection P) (reference : Nat) :
    (c.retireSubscription world reference).stopped = c.stopped := by
  unfold retireSubscription
  rw [stopped_completeCancellation]
  exact stopped_dropSubscription c reference

/-- An acknowledgement that is not written fails the channel, and the process goes on to hear of
it. -/
@[simp] theorem stopped_advanceAcknowledgement (world : World) (c : Connection P) :
    (c.advanceAcknowledgement world).stopped = c.stopped := by
  unfold advanceAcknowledgement
  split
  · rfl
  · dsimp only
    split
    · exact stopped_sendFrame world c _
    · simp

@[simp] theorem stopped_acknowledgeReport (world : World) (c : Connection P)
    (sequence bytes : Nat) : (c.acknowledgeReport world sequence bytes).stopped = c.stopped := by
  unfold acknowledgeReport
  split
  · split
    · split
      · exact stopped_advanceAcknowledgement world _
      · rfl
    · rfl
  · rfl

theorem stopped_takeRequestId {c next : Connection P} {id : String}
    (taken : c.takeRequestId = some (id, next)) : next.stopped = c.stopped := by
  unfold takeRequestId at taken
  split at taken
  · cases taken
  · split at taken
    · obtain ⟨-, rfl⟩ := Prod.mk.inj (Option.some.inj taken)
      rfl
    · obtain ⟨-, rfl⟩ := Prod.mk.inj (Option.some.inj taken)
      rfl

/-- Nor does a cancellation that cannot be written stop it. -/
@[simp] theorem stopped_submitCancellation (world : World) (c : Connection P)
    (subscription : Subscription P) (reference : Nat) (result id : String) :
    (c.submitCancellation world subscription reference result id).stopped = c.stopped := by
  unfold submitCancellation
  dsimp only
  split
  · exact (stopped_update _ _ _).trans (stopped_sendFrame world c _)
  · simp

@[simp] theorem stopped_cancelSubscription (world : World) (c : Connection P) (reference : Nat)
    (result : String) : (c.cancelSubscription world reference result).stopped = c.stopped := by
  have marked : ((c.markClosing reference result).watchCancellation world reference).stopped =
      c.stopped := by
    rw [stopped_watchCancellation]
    exact stopped_update c reference _
  unfold cancelSubscription
  split
  · rfl
  · split
    · rfl
    · dsimp only
      split
      · rw [stopped_failNativeInput, marked]
      · split
        · rename_i taken
          rw [stopped_submitCancellation, stopped_takeRequestId taken, marked]
        · rw [stopped_failNativeInput, marked]

@[simp] theorem stopped_overflowSubscription (world : World) (c : Connection P)
    (reference sequence bytes : Nat) :
    (c.overflowSubscription world reference sequence bytes).stopped = c.stopped := by
  unfold overflowSubscription
  simp

@[simp] theorem stopped_deliverSubscriptionStatus (world : World) (c : Connection P)
    (reference : Nat) (status : SubscriptionStatusKind) (generation attempt : Nat) :
    (c.deliverSubscriptionStatus world reference status generation attempt).2.stopped =
      c.stopped := by
  unfold deliverSubscriptionStatus
  split
  · rfl
  · split <;> simp

theorem stopped_registerReport {c registered : Connection P} {reference sequence bytes : Nat}
    (result : c.registerReport reference sequence bytes = some registered) :
    registered.stopped = c.stopped := by
  unfold registerReport at result
  split at result
  · cases result
  · split at result
    · cases result
    · obtain rfl := Option.some.inj result
      exact stopped_update _ reference _

/-- Where the ledger takes the retirement, the rest is bookkeeping. -/
theorem stopped_consumeRetiredReports {world : World} {c consumed : Connection P}
    {reference generation last : Nat}
    (result : c.consumeRetiredReports world reference generation last = some consumed) :
    consumed.stopped = c.stopped := by
  unfold consumeRetiredReports at result
  split at result
  · obtain rfl := Option.some.inj result
    exact stopped_advanceAcknowledgement world _
  · cases result

/-! ## Ways to die -/

/-- A match or a `fetch!` inside `decode_async_frame` failed. -/
def Decoded.Dies : Decoded P → Prop
  | .ok next => next.stopped = true
  | .error _ => False
  | .crash _ => True

/-- The running process dies while it handles this message.  None of these functions has a
result that stops the process, so a process they leave stopped is one they killed. -/
def Crashes (world : World) (wireError : E → Option String) (c : Connection P)
    (input : Input P E) : Prop :=
  c.stopped = false ∧
    match input with
    | .subscribe acknowledged nativeId queueLimit resubscribe admits =>
        Table.size c.subscriptions < 64 ∧
          c.tick.putSubscription acknowledged nativeId queueLimit resubscribe admits = none
    | .line bytes (some frame) => (c.decodeAsyncFrame world wireError bytes frame).Dies
    | .reportAdmitted owner generation reference sequence token admission =>
        (c.reportAdmitted world owner generation reference sequence token admission).stopped = true
    | .reportConsumed generation reference sequence token =>
        (c.reportConsumed world generation reference sequence token).stopped = true
    | .down monitor => (c.down world monitor).stopped = true
    | .flushSubscription reference => (c.flushSubscription world reference).stopped = true
    | _ => False

/-- The books agree, and what waits for a flush is there. -/
structure Sound (c : Connection P) : Prop where
  agrees : c.book.Agrees
  retains : c.book.Retains

variable {c : Connection P} {world : World}

/-- **An index leads somewhere**: `fetch!` of what it names succeeds. -/
theorem lookup_of_indexed (sound : Sound c) {key : String × Nat} {reference : Nat}
    (known : c.subscriptionIds.lookup key = some reference) :
    ∃ subscription, c.subscriptions.lookup reference = some subscription :=
  Option.isSome_iff_exists.1 (sound.agrees.indexed key reference known)

/-- The search by native identifier finds only what is in the table. -/
theorem lookup_of_subscriptionReference {nativeId : String} {reference : Nat}
    (known : c.subscriptionReference nativeId = some reference) :
    ∃ subscription, c.subscriptions.lookup reference = some subscription := by
  unfold subscriptionReference at known
  split at known
  · rename_i only matched
    obtain rfl := Option.some.inj known
    have member : only ∈ c.matching fun subscription => subscription.nativeId == nativeId := by
      rw [matched]
      exact List.mem_singleton.2 rfl
    have any := (List.mem_filter.1 member).2
    cases found : c.subscriptions.lookup only with
    | none =>
        rw [found] at any
        cases any
    | some subscription => exact ⟨subscription, rfl⟩
  · cases known

/-- What `decode_async_frame` makes of a recovery transition kills no running process. -/
def Recovery.Survives (recovery : Recovery P) : Prop :=
  ∀ d : Connection P, ¬ (Decoded.ofRecovery d recovery).Dies

/-- A status that is not delivered cancels the subscription, and the process goes on. -/
theorem ofStatus_survives {d : Connection P} (running : d.stopped = false) (reference : Nat)
    (status : SubscriptionStatusKind) (generation attempt : Nat) :
    (Recovery.ofStatus
      (d.deliverSubscriptionStatus world reference status generation attempt)).Survives := by
  intro other dies
  unfold Recovery.ofStatus at dies
  split at dies
  · rw [Decoded.ofRecovery, Decoded.Dies, stopped_deliverSubscriptionStatus, running] at dies
    cases dies
  · exact dies

/-- The new stream is asked for only where there is room. -/
theorem beginRecovery_survives (sound : Sound c) (running : c.stopped = false)
    {reference : Nat} {subscription : Subscription P}
    (found : c.subscriptions.lookup reference = some subscription) (generation attempt : Nat) :
    (c.beginRecovery world reference generation attempt).Survives := by
  unfold beginRecovery
  rw [found]
  dsimp only
  split
  · rename_i starts
    obtain ⟨-, -, rfl, -, settled⟩ := startsRecovery_iff.1 starts
    obtain ⟨opened, opens⟩ := Book.openStream_next sound.agrees found settled
    have accepted : c.reportLedger.openStream (reference, subscription.generation + 1) =
      some opened := opens
    have going : (c.recovering reference subscription (subscription.generation + 1) attempt
      opened).stopped = false := running
    rw [accepted]
    exact ofStatus_survives going reference _ _ _
  · split
    · exact ofStatus_survives ((stopped_update c reference _).trans running) reference _ _ _
    · exact fun _ dies => dies

theorem finishRecovery_survives (running : c.stopped = false) {reference : Nat}
    {subscription : Subscription P}
    (found : c.subscriptions.lookup reference = some subscription) (generation attempt : Nat) :
    (c.finishRecovery world reference generation attempt).Survives := by
  intro other dies
  unfold finishRecovery at dies
  rw [found] at dies
  dsimp only at dies
  split at dies
  · split at dies
    · rw [Decoded.ofRecovery, Decoded.Dies, stopped_update, stopped_deliverSubscriptionStatus,
        running] at dies
      cases dies
    · rw [Decoded.ofRecovery, Decoded.Dies, stopped_deliverSubscriptionStatus, running] at dies
      cases dies
  · exact dies

/-- The ledger retires every stream it knows. -/
theorem retire_of_known {ledger : ReportLedger (Nat × Nat) Nat} {stream : Nat × Nat} {last : Nat}
    (known : ledger.streams.lookup stream = some last) :
    ∃ retired, ledger.retire stream last = some retired := by
  obtain ⟨retired, result, -⟩ := ReportLedger.retire_accepts known
  exact ⟨retired, result⟩

/-- So the retirement of a known stream goes through. -/
theorem consumeRetiredReports_some {reference generation last : Nat}
    (known : c.reportLedger.streams.lookup (reference, generation) = some last) :
    ∃ consumed, c.consumeRetiredReports world reference generation last = some consumed := by
  obtain ⟨retired, result⟩ := retire_of_known known
  unfold consumeRetiredReports
  rw [result]
  exact ⟨_, rfl⟩

/-- The generations that may retire are those whose streams the ledger knows. -/
theorem retireStreamGeneration_survives (sound : Sound c) (running : c.stopped = false)
    {reference : Nat} {subscription : Subscription P}
    (found : c.subscriptions.lookup reference = some subscription) (generation last : Nat) :
    ¬ (c.retireStreamGeneration world reference generation last).Dies := by
  unfold retireStreamGeneration
  rw [found]
  dsimp only
  split
  · rename_i retiring
    obtain ⟨-, last', same, stands⟩ :=
      sound.agrees.retiring reference subscription generation found retiring.1
    rw [retiring.2.1] at same
    obtain rfl := Option.some.inj same
    obtain ⟨consumed, result⟩ := consumeRetiredReports_some stands
    rw [result]
    intro dies
    rw [Decoded.Dies, stopped_update] at dies
    change consumed.stopped = true at dies
    rw [stopped_consumeRetiredReports result, running] at dies
    cases dies
  · split
    · rename_i closing
      obtain ⟨-, rfl, rfl, -⟩ := closing
      obtain ⟨consumed, result⟩ := consumeRetiredReports_some
        (sound.agrees.current reference subscription found)
      rw [result]
      intro dies
      rw [Decoded.Dies, stopped_retireSubscription, stopped_consumeRetiredReports result,
        running] at dies
      cases dies
    · exact fun dies => dies

/-- An error frame for a subscription that is there is a message and a mark. -/
theorem receiveError_survives (running : c.stopped = false) {reference : Nat}
    {subscription : Subscription P}
    (found : c.subscriptions.lookup reference = some subscription) (code : String) :
    ¬ (c.receiveError world reference code).Dies := by
  unfold receiveError
  rw [found]
  dsimp only
  split
  · exact fun dies => dies
  · intro dies
    rw [Decoded.Dies, stopped_watchCancellation, stopped_update] at dies
    split at dies
    · rw [running] at dies
      cases dies
    · rw [post_stopped, running] at dies
      cases dies

/-- A report that was just registered is pending. -/
theorem admitReport_survives (running : c.stopped = false) {registered next : Connection P}
    {reference sequence bytes : Nat} {delivery : P}
    (result : c.registerReport reference sequence bytes = some registered)
    (admitted : registered.admitReport world reference delivery sequence bytes = some next) :
    next.stopped = false := by
  have going : registered.stopped = false := (stopped_registerReport result).trans running
  obtain ⟨subscription, ledger, -, registers, present, same, -⟩ := registerReport_book result
  have pending : registered.reportLedger.pending.lookup sequence ≠ none := by
    rw [same, (Book.register_ledger registers).2.2.2]
    simp
  unfold admitReport at admitted
  rw [present] at admitted
  dsimp only at admitted
  split at admitted
  · split at admitted <;> obtain rfl := Option.some.inj admitted <;> simp [going]
  · obtain rfl := Option.some.inj admitted
    rcases deliverReport_cases world present delivery sequence bytes with
      ⟨report, -, delivered⟩ | ⟨gone, -⟩ | overflowed
    · rw [delivered]
      exact going
    · exact absurd gone pending
    · rw [overflowed, stopped_overflowSubscription]
      exact going
  · obtain rfl := Option.some.inj admitted
    simp [going]
  · cases admitted

/-- **No frame kills a process with sound books.** -/
theorem decodeAsyncFrame_survives (world : World) (sound : Sound c) (running : c.stopped = false)
    (wireError : E → Option String) (bytes : Nat) (frame : HostFrame P E) :
    ¬ (c.decodeAsyncFrame world wireError bytes frame).Dies := by
  cases frame with
  | resubscribing session nativeId generation attempt =>
      simp only [decodeAsyncFrame]
      split
      · split
        · exact fun dies => dies
        · rename_i known
          obtain ⟨subscription, found⟩ := lookup_of_subscriptionReference known
          exact beginRecovery_survives sound running found generation attempt c
      · exact fun dies => dies
  | resubscribed session nativeId generation attempt minimum maximum sdkId =>
      simp only [decodeAsyncFrame]
      split
      · split
        · exact fun dies => dies
        · rename_i known
          obtain ⟨subscription, found⟩ := lookup_of_indexed sound known
          exact finishRecovery_survives running found generation attempt c
      · exact fun dies => dies
  | report session nativeId generation sequence payload =>
      simp only [decodeAsyncFrame]
      split
      · split
        · exact fun dies => dies
        · rename_i reference known
          obtain ⟨subscription, found⟩ := lookup_of_indexed sound known
          rw [found]
          dsimp only
          split
          · split
            · exact fun dies => dies
            · rename_i registered result
              cases admitted : registered.admitReport world reference payload sequence bytes with
              | none => exact fun dies => dies
              | some next =>
                  intro dies
                  rw [Decoded.ofOption, Decoded.Dies,
                    admitReport_survives running result admitted] at dies
                  cases dies
          · exact fun dies => dies
      · exact fun dies => dies
  | retired session nativeId generation lastSequence =>
      simp only [decodeAsyncFrame]
      split
      · split
        · exact fun dies => dies
        · rename_i known
          obtain ⟨subscription, found⟩ := lookup_of_indexed sound known
          exact retireStreamGeneration_survives sound running found generation lastSequence
      · exact fun dies => dies
  | success id =>
      simp only [decodeAsyncFrame]
      split
      · exact fun dies => dies
      · intro dies
        rw [Decoded.Dies, stopped_completeCancellation] at dies
        exact absurd (dies.symm.trans running) (by simp)
  | error session nativeId generation error =>
      simp only [decodeAsyncFrame]
      split
      · split
        · rename_i known _
          obtain ⟨subscription, found⟩ := lookup_of_indexed sound known
          exact receiveError_survives running found _
        · exact fun dies => dies
      · exact fun dies => dies
  | established id nativeId generation minimum maximum sdkId => exact fun dies => dies
  | failure id code => exact fun dies => dies

/-! ## The flush -/

/-- One entry: the ledger keeps what it holds for the others. -/
theorem flushReport_survives {d : Connection P} (running : d.stopped = false) {reference : Nat}
    {subscription : Subscription P}
    (found : d.subscriptions.lookup reference = some subscription) {entry : P × Nat × Nat}
    (held : d.reportLedger.Holds entry.2.1) :
    (flushReport world reference d entry).stopped = false ∧
      (∃ subscription', (flushReport world reference d entry).subscriptions.lookup reference =
        some subscription') ∧
      ∀ n, n ≠ entry.2.1 → d.reportLedger.Holds n →
        (flushReport world reference d entry).reportLedger.Holds n := by
  obtain ⟨delivery, sequence, bytes⟩ := entry
  obtain ⟨report, pending, -⟩ := held
  have unfolded : flushReport world reference d (delivery, sequence, bytes) =
      d.deliverReport world reference delivery sequence bytes := by
    have present : (d.subscriptions.lookup reference).isSome = true := by
      rw [found]
      rfl
    simp [flushReport, running, present]
  rw [unfolded]
  rcases deliverReport_cases world found delivery sequence bytes with
    ⟨other, -, delivered⟩ | ⟨gone, -⟩ | overflowed
  · rw [delivered]
    exact ⟨running, ⟨subscription, found⟩, fun _ _ kept => kept⟩
  · rw [pending] at gone
    cases gone
  · rw [overflowed]
    have ticked : d.tick.subscriptions.lookup reference = some subscription := found
    obtain ⟨closed, ledger, -, -, acknowledges, messages, -, same⟩ :=
      overflowSubscription_book world ticked sequence bytes
    have table : (d.tick.overflowSubscription world reference sequence bytes).subscriptions =
        d.subscriptions.insert reference closed := congrArg Book.subscriptions same
    have after : (d.tick.overflowSubscription world reference sequence bytes).reportLedger =
        ledger := congrArg Book.ledger same
    refine ⟨(stopped_overflowSubscription world d.tick reference sequence bytes).trans running,
      ⟨closed, ?_⟩, fun n other kept => ?_⟩
    · rw [table]
      exact Table.lookup_insert_self _ _ _
    · rw [after]
      exact acknowledges.holds kept other

/-- **The flush survives**: what it delivers is still pending, each report once. -/
theorem foldl_flushReport_survives (reference : Nat) (entries : List (P × Nat × Nat)) :
    ∀ {d : Connection P} {subscription : Subscription P}, d.stopped = false →
      d.subscriptions.lookup reference = some subscription → (sequences entries).Nodup →
      (∀ n ∈ sequences entries, d.reportLedger.Holds n) →
      (entries.foldl (flushReport world reference) d).stopped = false := by
  induction entries with
  | nil => exact fun running _ _ _ => running
  | cons entry rest ih =>
      intro d subscription running found distinct held
      obtain ⟨notLater, restDistinct⟩ := List.nodup_cons.1 distinct
      obtain ⟨going, ⟨subscription', present⟩, kept⟩ := flushReport_survives running found
        (held entry.2.1 List.mem_cons_self)
      refine ih going present restDistinct fun n member => kept n ?_ (held n
        (List.mem_cons_of_mem _ member))
      rintro rfl
      exact notLater member

/-- The flush of sound books kills no process, and where the subscription has gone it does nothing. -/
theorem flushSubscription_survives (sound : Sound c) (running : c.stopped = false)
    (reference : Nat) : (c.flushSubscription world reference).stopped = false := by
  unfold flushSubscription
  split
  · exact running
  · rename_i subscription found
    split
    · rename_i active
      have present := update_lookup found fun subscription => { subscription with buffered := [] }
      have sameLedger : (c.update reference fun subscription =>
          { subscription with buffered := [] }).reportLedger = c.reportLedger :=
        congrArg Book.ledger (book_update found _)
      refine foldl_flushReport_survives reference subscription.buffered
        ((stopped_update c reference _).trans running) present
        (sound.retains.distinct reference subscription found) fun n member => ?_
      rw [sameLedger]
      exact sound.retains.held reference subscription n found (Or.inr active) member
    · exact running

/-! ## Messages -/

/-- An admission is looked up before it is used; a stale one is dropped. -/
theorem reportAdmitted_survives (running : c.stopped = false) (owner : Nat) (generation : String)
    (reference sequence token : Nat) (admission : Admission P) :
    (c.reportAdmitted world owner generation reference sequence token admission).stopped =
      false := by
  unfold reportAdmitted
  split
  · cases admission with
    | ok delivery =>
        dsimp only
        split <;> simp [running]
    | receiverOverflow => simp [running]
    | invalid =>
        change c.failNativeInput.stopped = false
        simp [running]
  · exact running

theorem reportConsumed_survives (running : c.stopped = false) (generation : String)
    (reference sequence token : Nat) :
    (c.reportConsumed world generation reference sequence token).stopped = false := by
  unfold reportConsumed
  split
  · simp [running]
  · exact running

/-- A monitor belongs to a subscription that is there. -/
theorem down_survives (sound : Sound c) (running : c.stopped = false) (monitor : Nat) :
    (c.down world monitor).stopped = false := by
  unfold down
  split
  · exact running
  · rename_i reference known
    obtain ⟨subscription, found, -⟩ := sound.agrees.watched monitor reference known
    have present : c.subscriptions.lookup reference = some subscription := found
    rw [present]
    dsimp only
    split <;> simp [running]

/-- The first stream of a subscription that was let in is opened. -/
theorem putSubscription_some (sound : Sound c) (few : Table.size c.subscriptions < 64)
    (acknowledged : Bool) (nativeId : String) (queueLimit : Nat) (resubscribe : Bool)
    (admits : P → Bool) :
    c.tick.putSubscription acknowledged nativeId queueLimit resubscribe admits ≠ none := by
  obtain ⟨opened, opens⟩ := Book.openStream_first sound.agrees few
  have accepted : c.tick.reportLedger.openStream (c.tick.references, 1) = some opened := opens
  unfold putSubscription
  dsimp only
  rw [accepted]
  simp

/-- Sound books let no message kill the process. -/
theorem not_crashes_of_sound (sound : Sound c) (wireError : E → Option String)
    (input : Input P E) : ¬ Crashes world wireError c input := by
  rintro ⟨running, dies⟩
  cases input with
  | subscribe acknowledged nativeId queueLimit resubscribe admits =>
      exact putSubscription_some sound dies.1 _ _ _ _ _ dies.2
  | line bytes frame =>
      cases frame with
      | none => exact dies
      | some frame => exact decodeAsyncFrame_survives world sound running wireError bytes frame dies
  | reportAdmitted owner generation reference sequence token admission =>
      exact absurd (dies.symm.trans (reportAdmitted_survives running _ _ _ _ _ _)) (by simp)
  | reportConsumed generation reference sequence token =>
      exact absurd (dies.symm.trans (reportConsumed_survives running _ _ _ _)) (by simp)
  | down monitor => exact absurd (dies.symm.trans (down_survives sound running monitor)) (by simp)
  | flushSubscription reference =>
      exact absurd (dies.symm.trans (flushSubscription_survives sound running reference)) (by simp)
  | _ => exact dies

/-! ## Runs -/

/-- A recovery ends with nothing waiting in the buffer, and the token of a consumption message
is one that an envelope carried: tokens are references, which nobody can make up. -/
def settledFirst (c : Connection P) : Input P E → Prop
  | .line _ (some (.resubscribed _ nativeId generation _ _ _ _)) =>
      ((c.subscriptionIds.lookup (nativeId, generation)).bind c.subscriptions.lookup).all
        (fun subscription => subscription.status != .recovering ||
          subscription.buffered.isEmpty) = true
  | .reportAdmitted _ _ reference sequence token _ =>
      (reference, sequence, token) ∈ c.book.envelopes
  | .reportConsumed _ reference sequence token => (reference, sequence, token) ∈ c.book.envelopes
  | _ => True

instance (c : Connection P) : (input : Input P E) → Decidable (settledFirst c input)
  | .line _ (some (.resubscribed ..)) => instDecidableEqBool _ true
  | .reportAdmitted .. | .reportConsumed .. => inferInstanceAs (Decidable (_ ∈ c.book.envelopes))
  | .line _ (some (.report ..)) | .line _ (some (.retired ..)) | .line _ (some (.error ..))
  | .line _ (some (.resubscribing ..)) | .line _ (some (.established ..))
  | .line _ (some (.success _)) | .line _ (some (.failure ..)) | .line _ none => isTrue trivial
  | .subscribe .. | .unsubscribe _ | .request _ | .nativeInputFailed _ | .down _
  | .flushSubscription _ | .failed _ | .closed => isTrue trivial

/-- The condition on the run is what the invariant asks of each step. -/
theorem keeps_of_settledFirst {input : Input P E} (first : settledFirst c input) :
    Keeps ⟨False, True, True, False⟩ c input := by
  cases input with
  | line bytes frame =>
      cases frame with
      | none => trivial
      | some frame =>
          cases frame with
          | resubscribed session nativeId generation attempt minimum maximum sdkId =>
              intro _ reference subscription known found recovering
              simp only [settledFirst, known, Option.bind_some, found, Option.all_some, recovering,
                bne_self_eq_false, Bool.false_or, List.isEmpty_iff] at first
              exact first
          | report => exact fun asked => asked.elim
          | _ => trivial
  | subscribe => exact fun asked => asked.elim
  | reportAdmitted => exact fun _ => first
  | reportConsumed => exact fun _ => first
  | _ => trivial

/-- A new session has nothing to disagree about. -/
theorem sound_initial (generation : String) : Sound ({ generation } : Connection P) where
  agrees :=
    { few := by simp [book, Table.size]
      indexed := fun _ _ known => by cases known
      watched := fun _ _ known => by cases known
      current := fun _ _ found => by cases found
      retiring := fun _ _ _ found => by cases found
      known := fun _ _ here => by cases here
      fresh := fun _ here => by cases here }
  retains :=
    { registered := fun _ _ _ found => by cases found
      owned := fun _ _ _ found => by cases found
      unsent := fun _ _ _ found => by cases found
      distinct := fun _ _ found => by cases found
      held := fun _ _ _ found => by cases found
      sent := fun _ member => by cases member }

/-- **Sound books stay sound** in a run whose every step is `settledFirst`. -/
theorem run_sound (wireError : E → Option String) (generation : String)
    (inputs : List (Input P E))
    (first : Always world wireError settledFirst { generation } inputs) :
    Sound (run world wireError { generation } inputs) := by
  have initial : Sound ({ generation } : Connection P) := sound_initial generation
  have keeps := Always.imp (fun _ _ => keeps_of_settledFirst) inputs first
  exact
    { agrees := run_keeps Book.step_agrees inputs keeps initial.agrees
      retains := run_keeps (Book.step_retains trivial trivial) inputs keeps initial.retains }

/-- What the source relies on where it asserts a match. -/
structure Consistent (c : Connection P) : Prop where
  /-- The ledger's last sequence of the current generation is the subscription's. -/
  current : ∀ reference subscription, c.subscriptions.lookup reference = some subscription →
    c.reportLedger.streams.lookup (reference, subscription.generation) =
      some subscription.lastReportSequence
  /-- So it is for the generation that is retiring. -/
  retiring : ∀ reference subscription generation,
    c.subscriptions.lookup reference = some subscription →
    subscription.retiringGeneration = some generation →
    ∃ last, subscription.retiringLastReportSequence = some last ∧
      c.reportLedger.streams.lookup (reference, generation) = some last
  ids : ∀ key reference, c.subscriptionIds.lookup key = some reference →
    reference ∈ c.subscriptions.keys
  monitors : ∀ monitor reference, c.subscriptionMonitors.lookup monitor = some reference →
    reference ∈ c.subscriptions.keys
  subscriptions : Table.size c.subscriptions ≤ 64
  streams : Table.size c.reportLedger.streams ≤ 128

theorem consistent_of_sound (sound : Sound c) : Consistent c where
  current := sound.agrees.current
  retiring := fun reference subscription generation found retiring =>
    (sound.agrees.retiring reference subscription generation found retiring).2
  ids := fun key reference known =>
    (Table.mem_keys_iff _ _).2 (sound.agrees.indexed key reference known)
  monitors := by
    intro monitor reference known
    obtain ⟨subscription, found, -⟩ := sound.agrees.watched monitor reference known
    exact Table.mem_keys_of_lookup found
  subscriptions := sound.agrees.few
  streams := by
    have le := Book.size_streams_le sound.agrees
    have few := sound.agrees.few
    change Table.size c.book.ledger.streams ≤ 128
    omega

/-- **No crash.**  Whatever the process receives and whatever it sees of the world, as long as
no recovery ends before its buffer was flushed, its books are consistent in every state it
reaches, and there no message kills it: a frame is either applied or refused as invalid. -/
theorem run_never_crashes (world : World) (wireError : E → Option String) (generation : String)
    (inputs : List (Input P E))
    (first : Always world wireError settledFirst { generation } inputs) :
    Consistent (run world wireError { generation } inputs) ∧
      (∀ input, ¬ Crashes world wireError (run world wireError { generation } inputs) input) ∧
      ((run world wireError { generation } inputs).stopped = false → ∀ bytes frame,
        (∃ next, (run world wireError { generation } inputs).decodeAsyncFrame world wireError bytes
          frame = .ok next ∧ next.stopped = false) ∨
        ∃ effects, (run world wireError { generation } inputs).decodeAsyncFrame world wireError
          bytes frame = .error effects) := by
  have sound := run_sound wireError generation inputs first
  refine ⟨consistent_of_sound sound, not_crashes_of_sound sound wireError, ?_⟩
  intro running bytes frame
  have survives := decodeAsyncFrame_survives world sound running wireError bytes frame
  cases decoded : (run world wireError { generation } inputs).decodeAsyncFrame world wireError bytes
      frame with
  | ok next =>
      rw [decoded] at survives
      exact Or.inl ⟨next, rfl, by simpa [Decoded.Dies] using survives⟩
  | error effects => exact Or.inr ⟨effects, rfl⟩
  | crash effects =>
      rw [decoded] at survives
      exact absurd trivial survives

/-- A report waits, the flush comes, and the subscription recovers. -/
def settledInputs : List (Input Unit Unit) :=
  [.subscribe true "s" 8 true (fun _ => true),
    .line 120 (some (.report "g" "s" 1 1 ())),
    .line 96 (some (.established "2" "s" 1 0 60 7)),
    .flushSubscription 0,
    .reportConsumed "g" 0 1 4,
    .line 112 (some (.resubscribing "g" "s" 2 1)),
    .line 96 (some (.retired "g" "s" 1 1)),
    .line 128 (some (.resubscribed "g" "s" 2 1 0 60 7))]

theorem run_never_crashes_settled :
    Always (crowded 0) (fun _ => none) settledFirst { generation := "g" } settledInputs ∧
      (run (crowded 0) (fun _ => none) { generation := "g" } settledInputs).stopped = false ∧
      Consistent (run (crowded 0) (fun _ => none) { generation := "g" } settledInputs) :=
  ⟨by decide +kernel, by decide +kernel,
    (run_never_crashes (crowded 0) (fun _ => none) "g" settledInputs (by decide +kernel)).1⟩

/-- The flush comes last: the generation of the report that waits has been retired, its credit
has been returned, and the ledger no longer has it. -/
theorem run_crashes_unflushed :
    Crashes (crowded 0) (fun _ => none) (run (crowded 0) (fun _ => none) { generation := "g" }
      ([.subscribe true "s" 8 true (fun _ => true),
        .line 120 (some (.report "g" "s" 1 1 ())),
        .line 96 (some (.established "2" "s" 1 0 60 7)),
        .line 112 (some (.resubscribing "g" "s" 2 1)),
        .line 96 (some (.retired "g" "s" 1 1)),
        .line 128 (some (.resubscribed "g" "s" 2 1 0 60 7))] : List (Input Unit Unit)))
      (.flushSubscription 0 : Input Unit Unit) :=
  ⟨by decide +kernel, by decide +kernel⟩

end Connection

end WotexMatter.Beam
