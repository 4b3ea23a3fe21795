/-
# WotexMatter.Beam.Terminal -- what a receiver hears last

`deliveredTo reference` is what the process has told the receiver of one reference.
`Orderly` is the invariant: an error is the last thing a receiver hears, and a
subscription that is not `:closing` has heard none.

Two places of the source break it.  A `resubscribing` frame that finds the receiver
full tells it so and is then taken for a malformed frame, and the session failure is
told to the state from before.  `flush_subscription` goes on after a buffered report
overflowed.  `Confined` excludes exactly those two; `run_atMostOneTerminal` is about
every run without them.
-/
import WotexMatter.Beam.Connection

set_option autoImplicit false
set_option linter.unusedSectionVars false

namespace WotexMatter.Beam

open WotexMatter.Theory WotexMatter.Native

namespace Connection

variable {P E : Type}

def deliveredTo (reference : Nat) (messages : List (Message P)) : List (Delivered P) :=
  messages.filterMap fun
    | .receiver owner delivered => if owner = reference then some delivered else none
    | _ => none

/-- A receiver hears things in the order they were sent. -/
theorem deliveredTo_append (reference : Nat) (front back : List (Message P)) :
    deliveredTo reference (front ++ back) =
      deliveredTo reference front ++ deliveredTo reference back := by
  simp [deliveredTo]

/-- Nothing follows an error. -/
def Last (delivered : List (Delivered P)) : Prop :=
  ∀ front code back, delivered = front ++ .error code :: back → back = []

/-- What a receiver is told ends with its first error. -/
def AtMostOneTerminal (messages : List (Message P)) : Prop :=
  ∀ reference, Last (deliveredTo reference messages)

/-- The subscription is there and not `:closing`. -/
def Live (c : Connection P) (reference : Nat) : Prop :=
  ∃ subscription, c.subscriptions.lookup reference = some subscription ∧
    subscription.status ≠ .closing

def heard (c : Connection P) (reference : Nat) : List (Delivered P) :=
  deliveredTo reference c.effects.sent

structure Orderly (c : Connection P) : Prop where
  last : ∀ reference, Last (c.heard reference)
  live : ∀ reference code, c.Live reference → .error code ∉ c.heard reference
  fresh : ∀ reference, c.references ≤ reference →
    c.heard reference = [] ∧ c.subscriptions.lookup reference = none

/-! ## Changes that no receiver hears -/

/-- No receiver is told anything and no subscription comes back to life. -/
structure Quiet (c c' : Connection P) : Prop where
  heard : ∀ reference, c'.heard reference = c.heard reference
  live : ∀ reference, c'.Live reference → c.Live reference
  known : ∀ reference, c.subscriptions.lookup reference = none →
    c'.subscriptions.lookup reference = none
  references : c.references ≤ c'.references

theorem Quiet.refl (c : Connection P) : Quiet c c :=
  ⟨fun _ => rfl, fun _ => id, fun _ => id, Nat.le_refl _⟩

theorem Quiet.trans {a b c : Connection P} (first : Quiet a b) (second : Quiet b c) :
    Quiet a c :=
  ⟨fun r => (second.heard r).trans (first.heard r), fun r live => first.live r (second.live r live),
    fun r none => second.known r (first.known r none), first.references.trans second.references⟩

/-- **What no receiver hears keeps the order.** -/
theorem orderly_of_quiet {c c' : Connection P} (orderly : Orderly c) (quiet : Quiet c c') :
    Orderly c' where
  last := fun r => by rw [quiet.heard r]; exact orderly.last r
  live := fun r code live => by rw [quiet.heard r]; exact orderly.live r code (quiet.live r live)
  fresh := by
    intro r later
    obtain ⟨silent, unknown⟩ := orderly.fresh r (quiet.references.trans later)
    exact ⟨(quiet.heard r).trans silent, quiet.known r unknown⟩

/-- A state with the same subscriptions and messages. -/
theorem quiet_of_same {c c' : Connection P} (heard : ∀ r, c'.heard r = c.heard r)
    (same : c'.subscriptions = c.subscriptions) (references : c.references ≤ c'.references) :
    Quiet c c' where
  heard := heard
  live := fun r live => by
    unfold Live at live ⊢
    rw [same] at live
    exact live
  known := fun r none => by rw [same]; exact none
  references := references

theorem heard_post (c : Connection P) (message : Message P) (r : Nat) :
    (c.post message).heard r = c.heard r ++ deliveredTo r [message] := by
  rw [heard, post, deliveredTo_append]
  rfl

theorem tick_quiet (c : Connection P) : Quiet c c.tick :=
  quiet_of_same (fun _ => rfl) rfl (Nat.le_refl _)

/-- A message for the process itself or for a stream owner. -/
theorem post_quiet (c : Connection P) {message : Message P}
    (other : ∀ r, deliveredTo r [message] = []) : Quiet c (c.post message) :=
  quiet_of_same (fun r => by rw [heard_post, other, List.append_nil]) rfl (Nat.le_refl _)

/-- A line goes to the host, not to a receiver. -/
theorem sendFrame_quiet (world : World) (c : Connection P) (line : HostLine) :
    Quiet c (c.sendFrame world line).2 := by
  unfold sendFrame
  split
  · exact quiet_of_same (fun _ => rfl) rfl (Nat.le_refl _)
  · exact tick_quiet c

/-- A change that leaves a `:closing` subscription `:closing`. -/
theorem update_quiet (c : Connection P) (reference : Nat)
    {change : Subscription P → Subscription P}
    (closes : ∀ s : Subscription P, s.status = .closing → (change s).status = .closing) :
    Quiet c (c.update reference change) := by
  unfold update
  split
  · rename_i subscription found
    refine ⟨fun _ => rfl, ?_, ?_, Nat.le_refl _⟩
    · rintro r ⟨changed, present, open'⟩
      dsimp only at present
      rw [Table.lookup_insert] at present
      split at present
      · rename_i same
        obtain rfl := Option.some.inj present
        exact ⟨subscription, same ▸ found, fun closing => open' (closes _ closing)⟩
      · exact ⟨changed, present, open'⟩
    · intro r none
      dsimp only
      rw [Table.lookup_insert, if_neg, none]
      rintro rfl
      rw [none] at found
      cases found
  · exact Quiet.refl c

theorem failNativeInput_quiet (c : Connection P) : Quiet c c.failNativeInput := by
  unfold failNativeInput
  split
  · exact Quiet.refl c
  · exact (post_quiet c (fun _ => rfl)).trans
      (quiet_of_same (fun _ => rfl) rfl (Nat.le_refl _))

theorem advanceAcknowledgement_quiet (world : World) (c : Connection P) :
    Quiet c (c.advanceAcknowledgement world) := by
  unfold advanceAcknowledgement
  split
  · exact Quiet.refl c
  · rename_i ack ledger _
    dsimp only
    refine (sendFrame_quiet world c
      (.reportAck c.generation ack.reportSequence ack.acknowledgedBytes)).trans ?_
    split
    · exact quiet_of_same (fun _ => rfl) rfl (Nat.le_refl _)
    · exact failNativeInput_quiet _

theorem acknowledgeReport_quiet (world : World) (c : Connection P)
    (sequence encodedBytes : Nat) : Quiet c (c.acknowledgeReport world sequence encodedBytes) := by
  unfold acknowledgeReport
  split
  · split
    · split
      · rename_i ledger _
        have same : Quiet c { c with reportLedger := ledger } :=
          quiet_of_same (fun _ => rfl) rfl (Nat.le_refl _)
        exact same.trans (advanceAcknowledgement_quiet world _)
      · exact Quiet.refl c
    · exact Quiet.refl c
  · exact Quiet.refl c

theorem watchCancellation_quiet (world : World) (c : Connection P) (reference : Nat) :
    Quiet c (c.watchCancellation world reference) := by
  unfold watchCancellation
  dsimp only
  split
  · exact tick_quiet c
  · exact (tick_quiet c).trans (quiet_of_same (fun _ => rfl) rfl (Nat.le_refl _))

theorem markClosing_quiet (c : Connection P) (reference : Nat) (result : String) :
    Quiet c (c.markClosing reference result) :=
  update_quiet c reference fun _ _ => rfl

theorem takeRequestId_quiet {c next : Connection P} {id : String}
    (taken : c.takeRequestId = some (id, next)) : Quiet c next := by
  unfold takeRequestId at taken
  split at taken
  · cases taken
  · split at taken
    · obtain ⟨-, rfl⟩ := Prod.mk.inj (Option.some.inj taken)
      exact (post_quiet c (fun _ => rfl)).trans
        (quiet_of_same (fun _ => rfl) rfl (Nat.le_refl _))
    · obtain ⟨-, rfl⟩ := Prod.mk.inj (Option.some.inj taken)
      exact quiet_of_same (fun _ => rfl) rfl (Nat.le_refl _)

theorem submitCancellation_quiet (world : World) (c : Connection P)
    (subscription : Subscription P) (reference : Nat) (result id : String) :
    Quiet c (c.submitCancellation world subscription reference result id) := by
  unfold submitCancellation
  dsimp only
  refine (sendFrame_quiet world c
    (.unsubscribe id subscription.nativeId subscription.generation)).trans ?_
  split
  · exact (markClosing_quiet _ reference result).trans
      (quiet_of_same (fun _ => rfl) rfl (Nat.le_refl _))
  · exact failNativeInput_quiet _

/-- A cancellation tells the host; the receiver is told by whoever cancels. -/
theorem cancelSubscription_quiet (world : World) (c : Connection P) (reference : Nat)
    (result : String) : Quiet c (c.cancelSubscription world reference result) := by
  unfold cancelSubscription
  split
  · exact Quiet.refl c
  · split
    · exact Quiet.refl c
    · have closing := (markClosing_quiet c reference result).trans
        (watchCancellation_quiet world _ reference)
      dsimp only
      split
      · exact closing.trans (failNativeInput_quiet _)
      · split
        · rename_i id next taken
          exact (closing.trans (takeRequestId_quiet taken)).trans
            (submitCancellation_quiet world _ _ _ _ _)
        · exact closing.trans (failNativeInput_quiet _)

theorem completeCancellation_quiet (world : World) (c : Connection P) (reference : Nat) :
    Quiet c (c.completeCancellation world reference) := by
  unfold completeCancellation
  split
  · exact Quiet.refl c
  · dsimp only
    refine (tick_quiet c).trans ?_
    split
    · exact failNativeInput_quiet _
    · split
      · exact quiet_of_same (fun _ => rfl) rfl (Nat.le_refl _)
      · exact Quiet.refl _

/-- A subscription goes without a word. -/
theorem dropSubscription_quiet (c : Connection P) (reference : Nat) :
    Quiet c (c.dropSubscription reference) := by
  unfold dropSubscription
  split
  · exact Quiet.refl c
  · refine ⟨fun _ => rfl, ?_, ?_, Nat.le_refl _⟩
    · rintro r ⟨subscription, present, open'⟩
      dsimp only at present
      rw [Table.lookup_erase] at present
      split at present
      · cases present
      · exact ⟨subscription, present, open'⟩
    · intro r none
      dsimp only
      rw [Table.lookup_erase, none]
      split <;> rfl

/-- So does one whose stream has retired. -/
theorem retireSubscription_quiet (world : World) (c : Connection P) (reference : Nat) :
    Quiet c (c.retireSubscription world reference) := by
  unfold retireSubscription
  refine (dropSubscription_quiet c reference).trans (Quiet.trans ?_
    (completeCancellation_quiet world _ reference))
  exact quiet_of_same (fun _ => rfl) rfl (Nat.le_refl _)

theorem consumeRetiredReports_quiet {world : World} {c consumed : Connection P}
    {reference generation lastSequence : Nat}
    (result : c.consumeRetiredReports world reference generation lastSequence = some consumed) :
    Quiet c consumed := by
  unfold consumeRetiredReports at result
  split at result
  · rename_i ledger _
    obtain rfl := Option.some.inj result
    have same : Quiet c { c with reportLedger := ledger } :=
      quiet_of_same (fun _ => rfl) rfl (Nat.le_refl _)
    exact same.trans (advanceAcknowledgement_quiet world _)
  · cases result

theorem registerReport_quiet {c registered : Connection P} {reference sequence bytes : Nat}
    (result : c.registerReport reference sequence bytes = some registered) :
    Quiet c registered := by
  unfold registerReport at result
  split at result
  · cases result
  · split at result
    · cases result
    · rename_i ledger _
      obtain rfl := Option.some.inj result
      have same : Quiet c { c with reportLedger := ledger, references := c.references + 1 } :=
        quiet_of_same (fun _ => rfl) rfl (Nat.le_succ _)
      exact same.trans (update_quiet _ reference fun _ closing => closing)

/-! ## A cancelled subscription is closing -/

theorem not_live_markClosing (c : Connection P) (reference : Nat) (result : String) :
    ¬ (c.markClosing reference result).Live reference := by
  unfold markClosing update
  rintro ⟨subscription, present, open'⟩
  split at present
  · dsimp only at present
    rw [Table.lookup_insert_self] at present
    obtain rfl := Option.some.inj present
    exact open' rfl
  · rename_i none
    rw [none] at present
    cases present

/-- After a cancellation the subscription is `:closing`, or it was not there. -/
theorem cancelSubscription_closes (world : World) (c : Connection P) (reference : Nat)
    (result : String) : ¬ (c.cancelSubscription world reference result).Live reference := by
  unfold cancelSubscription
  split
  · rename_i none
    rintro ⟨subscription, present, -⟩
    rw [none] at present
    cases present
  · rename_i subscription found
    split
    · rename_i closing
      rintro ⟨subscription', present, open'⟩
      rw [found] at present
      obtain rfl := Option.some.inj present
      exact open' closing
    · have closed := not_live_markClosing c reference result
      have watched := watchCancellation_quiet world (c.markClosing reference result) reference
      dsimp only
      split
      · exact fun live => closed (watched.live _ ((failNativeInput_quiet _).live _ live))
      · split
        · rename_i id next taken
          exact fun live => closed (watched.live _ ((takeRequestId_quiet taken).live _
            ((submitCancellation_quiet world _ _ _ _ _).live _ live)))
        · exact fun live => closed (watched.live _ ((failNativeInput_quiet _).live _ live))

/-! ## Telling a receiver something -/

/-- One receiver is told one thing. -/
structure Tells (c : Connection P) (reference : Nat) (delivered : Delivered P)
    (c' : Connection P) : Prop where
  heard : ∀ r, c'.heard r = c.heard r ++ if r = reference then [delivered] else []
  live : ∀ r, c'.Live r → c.Live r
  known : ∀ r, c.subscriptions.lookup r = none → c'.subscriptions.lookup r = none
  references : c.references ≤ c'.references

theorem post_tells (c : Connection P) (reference : Nat) (delivered : Delivered P) :
    Tells c reference delivered (c.post (.receiver reference delivered)) where
  heard := fun r => by
    rw [heard_post]
    by_cases same : r = reference
    · simp [deliveredTo, same]
    · simp [deliveredTo, same, Ne.symm same]
  live := fun _ => id
  known := fun _ => id
  references := Nat.le_refl _

/-- What follows in silence leaves the message the last. -/
theorem Tells.quiet {a b c : Connection P} {reference : Nat} {delivered : Delivered P}
    (first : Tells a reference delivered b) (second : Quiet b c) : Tells a reference delivered c :=
  ⟨fun r => (second.heard r).trans (first.heard r),
    fun r live => first.live r (second.live r live),
    fun r none => second.known r (first.known r none), first.references.trans second.references⟩

/-- A first error may come last. -/
theorem last_snoc {heard : List (Delivered P)} {delivered : Delivered P}
    (unended : ∀ code, .error code ∉ heard) : Last (heard ++ [delivered]) := by
  intro front code back same
  rcases List.eq_nil_or_concat' back with rfl | ⟨back, final, rfl⟩
  · rfl
  · have split : heard = front ++ .error code :: back := by
      have := congrArg List.dropLast same
      rwa [List.dropLast_concat, ← List.cons_append, ← List.append_assoc,
        List.dropLast_concat] at this
    exact absurd (by rw [split]; simp) (unended code)

/-- A live subscription may be told anything, and is no longer live after an error. -/
theorem orderly_of_tells {c c' : Connection P} {reference : Nat} {delivered : Delivered P}
    (orderly : Orderly c) (live : c.Live reference) (tells : Tells c reference delivered c')
    (ends : ∀ code, delivered = .error code → ¬ c'.Live reference) : Orderly c' where
  last := by
    intro r
    rw [tells.heard r]
    split
    · rename_i same
      subst same
      exact last_snoc fun code => orderly.live r code live
    · rw [List.append_nil]
      exact orderly.last r
  live := by
    intro r code live'
    rw [tells.heard r, List.mem_append]
    rintro (before | new)
    · exact orderly.live r code (tells.live r live') before
    · split at new
      · rename_i same
        subst same
        rw [List.mem_singleton] at new
        exact ends code new.symm live'
      · cases new
  fresh := by
    intro r later
    obtain ⟨silent, unknown⟩ := orderly.fresh r (tells.references.trans later)
    refine ⟨?_, tells.known r unknown⟩
    rw [tells.heard r, silent, if_neg, List.append_nil]
    rintro rfl
    obtain ⟨subscription, present, -⟩ := live
    rw [unknown] at present
    cases present

/-- An overflow is an error of its own, before the cancellation. -/
theorem overflowSubscription_tells (world : World) (c : Connection P)
    (reference sequence bytes : Nat) :
    Tells c reference (.error "receiver_overflow")
      (c.overflowSubscription world reference sequence bytes) :=
  ((post_tells c reference _).quiet (acknowledgeReport_quiet world _ sequence bytes)).quiet
    (cancelSubscription_quiet world _ reference _)

theorem overflowSubscription_orderly {c : Connection P} (orderly : Orderly c)
    {reference : Nat} (live : c.Live reference) (world : World) (sequence bytes : Nat) :
    Orderly (c.overflowSubscription world reference sequence bytes) :=
  orderly_of_tells orderly live (overflowSubscription_tells world c reference sequence bytes)
    fun _ _ => cancelSubscription_closes world _ reference _

theorem deliverReport_orderly {c : Connection P} (orderly : Orderly c) {reference : Nat}
    (live : c.Live reference) (world : World) (delivery : P) (sequence bytes : Nat) :
    Orderly (c.deliverReport world reference delivery sequence bytes) := by
  unfold deliverReport
  split
  · exact orderly_of_quiet orderly (quiet_of_same (fun _ => rfl) rfl (Nat.le_refl _))
  · have ticked := orderly_of_quiet orderly (tick_quiet c)
    split
    · split
      · unfold envelope
        split
        · exact orderly_of_quiet ticked (post_quiet _ fun _ => rfl)
        · exact orderly_of_tells ticked live (post_tells _ reference _)
            (fun _ impossible => by cases impossible)
      · exact orderly_of_quiet ticked (quiet_of_same (fun _ => rfl) rfl (Nat.le_refl _))
    · exact overflowSubscription_orderly ticked live world sequence bytes

/-- A report is for a live subscription, whatever becomes of it. -/
theorem admitReport_orderly {c next : Connection P} (orderly : Orderly c) {world : World}
    {reference : Nat} {delivery : P} {sequence bytes : Nat}
    (result : c.admitReport world reference delivery sequence bytes = some next) :
    Orderly next := by
  unfold admitReport at result
  split at result
  · cases result
  · rename_i subscription found
    split at result
    · rename_i establishing
      have live : c.Live reference := ⟨subscription, found, by rw [establishing]; simp⟩
      split at result
      · obtain rfl := Option.some.inj result
        exact orderly_of_quiet orderly (update_quiet c reference fun _ closing => closing)
      · obtain rfl := Option.some.inj result
        exact overflowSubscription_orderly orderly live world sequence bytes
    · rename_i active
      have live : c.Live reference := ⟨subscription, found, by rw [active]; simp⟩
      obtain rfl := Option.some.inj result
      exact deliverReport_orderly orderly live world delivery sequence bytes
    · obtain rfl := Option.some.inj result
      exact orderly_of_quiet orderly (acknowledgeReport_quiet world c sequence bytes)
    · cases result

/-! ## Recovery -/

/-- A status, or an overflow, for a live subscription. -/
theorem deliverSubscriptionStatus_orderly {c : Connection P} (orderly : Orderly c)
    {reference : Nat} (live : c.Live reference) (world : World) (status : SubscriptionStatusKind)
    (generation attempt : Nat) :
    Orderly (c.deliverSubscriptionStatus world reference status generation attempt).2 := by
  unfold deliverSubscriptionStatus
  split
  · exact orderly
  · have ticked := orderly_of_quiet orderly (tick_quiet c)
    split
    · exact orderly_of_tells ticked live (post_tells _ reference _)
        (fun _ impossible => by cases impossible)
    · exact orderly_of_tells ticked live
        ((post_tells _ reference _).quiet (cancelSubscription_quiet world _ reference _))
        (fun _ _ => cancelSubscription_closes world _ reference _)

/-- With room in the receiver's queue the status is delivered. -/
theorem deliverSubscriptionStatus_ok (world : World) {c : Connection P} {reference : Nat}
    {subscription : Subscription P} (found : c.subscriptions.lookup reference = some subscription)
    (room : c.hasRoom world subscription.queueLimit = true)
    (status : SubscriptionStatusKind) (generation attempt : Nat) :
    (c.deliverSubscriptionStatus world reference status generation attempt).1 = true := by
  unfold deliverSubscriptionStatus
  rw [found]
  dsimp only
  rw [if_pos room]

/-- A recovery by itself tells the receiver nothing, and its subscription stays live. -/
theorem recovering_orderly {c : Connection P} (orderly : Orderly c) {reference : Nat}
    {subscription : Subscription P} (found : c.subscriptions.lookup reference = some subscription)
    (live : c.Live reference) (generation attempt : Nat)
    (ledger : ReportLedger (Nat × Nat) Nat) :
    Orderly (c.recovering reference subscription generation attempt ledger) ∧
      (c.recovering reference subscription generation attempt ledger).Live reference := by
  refine ⟨orderly_of_quiet orderly ⟨fun _ => rfl, ?_, ?_, Nat.le_refl _⟩, ?_⟩
  · rintro r ⟨changed, present, open'⟩
    unfold recovering at present
    dsimp only at present
    rw [Table.lookup_insert] at present
    split at present
    · rename_i same
      exact same ▸ live
    · exact ⟨changed, present, open'⟩
  · intro r none
    unfold recovering
    dsimp only
    rw [Table.lookup_insert, if_neg, none]
    rintro rfl
    rw [none] at found
    cases found
  · exact ⟨_, Table.lookup_insert_self _ _ _, by simp⟩

/-- Any change of a live subscription. -/
theorem update_quiet_of_live {c : Connection P} {reference : Nat} (live : c.Live reference)
    (change : Subscription P → Subscription P) : Quiet c (c.update reference change) := by
  unfold update
  split
  · rename_i subscription found
    refine ⟨fun _ => rfl, ?_, ?_, Nat.le_refl _⟩
    · rintro r ⟨changed, present, open'⟩
      dsimp only at present
      rw [Table.lookup_insert] at present
      split at present
      · rename_i same
        exact same ▸ live
      · exact ⟨changed, present, open'⟩
    · intro r none
      dsimp only
      rw [Table.lookup_insert, if_neg, none]
      rintro rfl
      rw [none] at found
      cases found
  · exact Quiet.refl c

theorem lookup_update {c : Connection P} {reference : Nat} {subscription : Subscription P}
    (found : c.subscriptions.lookup reference = some subscription)
    (change : Subscription P → Subscription P) :
    (c.update reference change).subscriptions.lookup reference = some (change subscription) := by
  unfold update
  rw [found]
  exact Table.lookup_insert_self _ _ _

theorem not_closing_of_starts {subscription : Subscription P} {generation attempt : Nat}
    (starts : startsRecovery subscription generation attempt = true) :
    subscription.status ≠ .closing := by
  simp only [startsRecovery, Bool.and_eq_true, decide_eq_true_eq] at starts
  rw [starts.1.1.1.2]
  simp

theorem not_closing_of_continues {subscription : Subscription P} {generation attempt : Nat}
    (continues : continuesRecovery subscription generation attempt = true) :
    subscription.status ≠ .closing := by
  simp only [continuesRecovery, Bool.and_eq_true, decide_eq_true_eq] at continues
  rw [continues.1.1]
  simp

theorem not_closing_of_ends {subscription : Subscription P} {generation attempt : Nat}
    (ends : endsRecovery subscription generation attempt = true) :
    subscription.status ≠ .closing := by
  simp only [endsRecovery, Bool.and_eq_true, decide_eq_true_eq] at ends
  rw [ends.1.1.1]
  simp

/-- The recovery state of the subscription, with the ledger's room for its next stream, admits a
`resubscribing` frame. -/
def admitsRecovery (c : Connection P) (reference : Nat) (subscription : Subscription P)
    (generation attempt : Nat) : Bool :=
  (startsRecovery subscription generation attempt &&
    (c.reportLedger.openStream (reference, generation)).isSome) ||
    continuesRecovery subscription generation attempt

/-- With room for the status, `begin_recovery` delivers it or refuses. -/
theorem beginRecovery_orderly {c : Connection P} (orderly : Orderly c) {world : World}
    {reference generation attempt : Nat}
    (room : ∀ subscription, c.subscriptions.lookup reference = some subscription →
      c.admitsRecovery reference subscription generation attempt = true →
      c.hasRoom world subscription.queueLimit = true) :
    (∃ next, c.beginRecovery world reference generation attempt = .ok next ∧ Orderly next) ∨
      c.beginRecovery world reference generation attempt = .error ∨
      c.beginRecovery world reference generation attempt = .crash := by
  unfold beginRecovery
  split
  · exact Or.inr (Or.inr rfl)
  · rename_i subscription found
    split
    · rename_i starts
      have live : c.Live reference := ⟨subscription, found, not_closing_of_starts starts⟩
      split
      · exact Or.inr (Or.inr rfl)
      · rename_i ledger opened
        obtain ⟨orderly', live'⟩ := recovering_orderly orderly found live generation attempt ledger
        have delivered := deliverSubscriptionStatus_ok world
          (c := c.recovering reference subscription generation attempt ledger)
          (Table.lookup_insert_self _ _ _)
          (room subscription found (by rw [admitsRecovery, starts, opened]; rfl)) .resubscribing
          generation attempt
        refine Or.inl ⟨_, ?_, deliverSubscriptionStatus_orderly orderly' live' world .resubscribing
          generation attempt⟩
        rw [Recovery.ofStatus, if_pos delivered]
    · split
      · rename_i continues
        have live : c.Live reference := ⟨subscription, found, not_closing_of_continues continues⟩
        have found' := lookup_update found fun s => { s with recoveryAttempt := attempt }
        have orderly' := orderly_of_quiet orderly (update_quiet_of_live live fun s =>
          { s with recoveryAttempt := attempt })
        have sampled : (c.update reference fun s =>
            { s with recoveryAttempt := attempt }).effects = c.effects := by
          unfold update
          rw [found]
        have delivered := deliverSubscriptionStatus_ok world found'
          (by
            rw [hasRoom, sampled]
            exact room subscription found (by rw [admitsRecovery, continues, Bool.or_true]))
          .resubscribing generation attempt
        have open' := not_closing_of_continues continues
        refine Or.inl ⟨_, ?_, deliverSubscriptionStatus_orderly orderly' ⟨_, found', open'⟩ world
          .resubscribing generation attempt⟩
        rw [Recovery.ofStatus, if_pos delivered]
      · exact Or.inr (Or.inl rfl)

/-- An error of the recovery leaves the state from before it, in which nobody was told. -/
theorem finishRecovery_orderly {c : Connection P} (orderly : Orderly c) (world : World)
    (reference generation attempt : Nat) :
    (∃ next, c.finishRecovery world reference generation attempt = .ok next ∧ Orderly next) ∨
      c.finishRecovery world reference generation attempt = .error ∨
      c.finishRecovery world reference generation attempt = .crash := by
  unfold finishRecovery
  split
  · exact Or.inr (Or.inr rfl)
  · rename_i subscription found
    split
    · rename_i ends
      have live : c.Live reference := ⟨subscription, found, not_closing_of_ends ends⟩
      have told := deliverSubscriptionStatus_orderly orderly live world .resubscribed generation
        attempt
      refine Or.inl ?_
      dsimp only
      split
      · rename_i delivered
        refine ⟨_, rfl, orderly_of_quiet told (update_quiet_of_live ?_ _)⟩
        unfold deliverSubscriptionStatus at delivered ⊢
        rw [found] at delivered ⊢
        dsimp only at delivered ⊢
        split at delivered
        · rename_i room
          rw [if_pos room]
          exact live
        · cases delivered
      · exact ⟨_, rfl, told⟩
    · exact Or.inr (Or.inl rfl)

/-! ## Frames -/

/-- What a frame leaves: an orderly state, or an error or a crash that told nobody. -/
def Told (c : Connection P) : Decoded P → Prop
  | .ok next => Orderly next
  | .error effects => effects = c.effects
  | .crash effects => effects = c.effects

/-- Only an overflow tells a receiver and is then an error; `roomForStatus` excludes it. -/
theorem told_ofRecovery {c : Connection P} {recovery : Recovery P}
    (cases : (∃ next, recovery = .ok next ∧ Orderly next) ∨ recovery = .error ∨
      recovery = .crash) : Told c (.ofRecovery c recovery) := by
  rcases cases with ⟨next, rfl, orderly⟩ | rfl | rfl
  · exact orderly
  · rfl
  · rfl

theorem retireStreamGeneration_told {c : Connection P} (orderly : Orderly c) (world : World)
    (reference generation lastSequence : Nat) :
    Told c (c.retireStreamGeneration world reference generation lastSequence) := by
  unfold retireStreamGeneration
  split
  · rfl
  · split
    · split
      · rfl
      · rename_i consumed result
        have quiet := consumeRetiredReports_quiet result
        refine orderly_of_quiet (orderly_of_quiet orderly quiet) (Quiet.trans ?_
          (update_quiet _ reference fun _ closing => closing))
        exact quiet_of_same (fun _ => rfl) rfl (Nat.le_refl _)
    · split
      · split
        · rfl
        · rename_i consumed result
          have quiet := consumeRetiredReports_quiet result
          exact orderly_of_quiet (orderly_of_quiet orderly quiet)
            (retireSubscription_quiet world _ reference)
      · rfl

/-- The error frame of a `:closing` subscription is not passed on. -/
theorem receiveError_told {c : Connection P} (orderly : Orderly c) (world : World)
    (reference : Nat) (code : String) : Told c (c.receiveError world reference code) := by
  unfold receiveError
  split
  · rfl
  · rename_i subscription found
    split
    · rfl
    · dsimp only
      split
      · exact orderly_of_quiet orderly ((update_quiet c reference fun _ _ => rfl).trans
          (watchCancellation_quiet world _ reference))
      · rename_i open'
        refine orderly_of_tells orderly ⟨subscription, found, open'⟩
          (((post_tells c reference (.error code)).quiet
            (update_quiet _ reference fun _ _ => rfl)).quiet
              (watchCancellation_quiet world _ reference)) fun _ _ live => ?_
        obtain ⟨changed, present, still⟩ := (watchCancellation_quiet world _ reference).live _ live
        rw [lookup_update (c := c.post (.receiver reference (.error code))) found] at present
        obtain rfl := Option.some.inj present
        exact still rfl

/-- The frames that tell nobody before they fail: all but a `resubscribing` frame whose
receiver has no room. -/
def roomForStatus (world : World) (c : Connection P) : HostFrame P E → Bool
  | .resubscribing session nativeId generation attempt =>
      !decide (session = c.generation ∧ 1 < generation ∧ 1 ≤ attempt ∧ attempt ≤ 5) ||
        (c.subscriptionReference nativeId).all fun reference =>
          (c.subscriptions.lookup reference).all fun subscription =>
            !c.admitsRecovery reference subscription generation attempt ||
              c.hasRoom world subscription.queueLimit
  | _ => true

theorem hasRoom_of_roomForStatus {world : World} {c : Connection P} {session nativeId : String}
    {generation attempt reference : Nat} {subscription : Subscription P}
    (room : roomForStatus world c
      (.resubscribing session nativeId generation attempt : HostFrame P E) = true)
    (checked : session = c.generation ∧ 1 < generation ∧ 1 ≤ attempt ∧ attempt ≤ 5)
    (named : c.subscriptionReference nativeId = some reference)
    (found : c.subscriptions.lookup reference = some subscription)
    (admits : c.admitsRecovery reference subscription generation attempt = true) :
    c.hasRoom world subscription.queueLimit = true := by
  simpa [roomForStatus, checked, named, found, admits] using room

/-- **A frame keeps the order**, where a status has room. -/
theorem decodeAsyncFrame_told {c : Connection P} (orderly : Orderly c) {world : World}
    (wireError : E → Option String) (bytes : Nat) {frame : HostFrame P E}
    (room : roomForStatus world c frame = true) :
    Told c (c.decodeAsyncFrame world wireError bytes frame) := by
  cases frame with
  | resubscribing session nativeId generation attempt =>
      simp only [decodeAsyncFrame]
      split
      · rename_i checked
        split
        · rfl
        · rename_i reference named
          exact told_ofRecovery (beginRecovery_orderly orderly fun subscription found =>
            hasRoom_of_roomForStatus room checked named found)
      · rfl
  | resubscribed session nativeId generation attempt minimum maximum sdkId =>
      simp only [decodeAsyncFrame]
      split
      · split
        · rfl
        · exact told_ofRecovery (finishRecovery_orderly orderly world _ _ _)
      · rfl
  | report session nativeId generation sequence payload =>
      simp only [decodeAsyncFrame]
      split
      · split
        · rfl
        · split
          · rfl
          · split
            · split
              · rfl
              · rename_i registered result
                have registered' := orderly_of_quiet orderly (registerReport_quiet result)
                cases admitted : registered.admitReport world _ payload sequence bytes with
                | none => rfl
                | some next => exact admitReport_orderly registered' admitted
            · rfl
      · rfl
  | retired session nativeId generation lastSequence =>
      simp only [decodeAsyncFrame]
      split
      · split
        · rfl
        · exact retireStreamGeneration_told orderly world _ _ _
      · rfl
  | success id =>
      simp only [decodeAsyncFrame]
      split
      · rfl
      · refine orderly_of_quiet orderly (Quiet.trans ?_ (completeCancellation_quiet world _ _))
        exact quiet_of_same (fun _ => rfl) rfl (Nat.le_refl _)
  | error session nativeId generation error =>
      simp only [decodeAsyncFrame]
      split
      · split
        · exact receiveError_told orderly world _ _
        · rfl
      · rfl
  | established id nativeId generation minimum maximum sdkId => rfl
  | failure id code => rfl

/-! ## Ends of the session -/

theorem notifyOne_closing (code : String) (subscription : Subscription P) :
    (notifyOne code subscription).status = .closing := by
  unfold notifyOne
  split
  · assumption
  · rfl

/-- A session failure closes every subscription. -/
theorem not_live_notified (c : Connection P) (code : String) (reference : Nat) :
    ¬ (c.notifySessionFailure code).Live reference := by
  rintro ⟨subscription, present, open'⟩
  unfold notifySessionFailure at present
  dsimp only at present
  rw [Table.lookup_filterMap] at present
  cases found : c.subscriptions.lookup reference with
  | none =>
      rw [found] at present
      cases present
  | some before =>
      rw [found, Option.bind_some] at present
      obtain rfl := Option.some.inj present
      exact open' (notifyOne_closing code before)

/-- Each receiver is told of the session failure once. -/
theorem deliveredTo_errors (code : String) (reference : Nat) {references : List Nat}
    (once : references.Nodup) :
    deliveredTo reference (references.map fun r =>
      (.receiver r (.error code) : Message P)) =
      if reference ∈ references then [.error code] else [] := by
  induction references with
  | nil => rfl
  | cons first rest ih =>
      obtain ⟨absent, once'⟩ := List.nodup_cons.1 once
      rw [List.map_cons, ← List.singleton_append, deliveredTo_append, ih once']
      by_cases same : first = reference
      · subst same
        simp [deliveredTo, absent]
      · simp [deliveredTo, same, Ne.symm same]

/-- The failure is told to the live ones, who have heard no error yet. -/
theorem notifySessionFailure_orderly {c : Connection P} (orderly : Orderly c) (code : String) :
    Orderly (c.notifySessionFailure code) := by
  have once : (c.matching fun subscription =>
      decide (subscription.status ≠ .closing)).Nodup := List.nodup_range.filter _
  have heard : ∀ r, (c.notifySessionFailure code).heard r = c.heard r ++
      if r ∈ c.matching (fun subscription => decide (subscription.status ≠ .closing)) then
        [.error code] else [] := by
    intro r
    rw [Connection.heard, notifySessionFailure, deliveredTo_append, deliveredTo_errors code r once]
    rfl
  have live : ∀ r, r ∈ c.matching (fun subscription =>
      decide (subscription.status ≠ .closing)) → c.Live r := by
    intro r member
    obtain ⟨subscription, found, open'⟩ := (Option.any_eq_true _ _).1 (List.mem_filter.1 member).2
    exact ⟨subscription, found, by simpa using open'⟩
  refine ⟨fun r => ?_, fun r _ alive => absurd alive (not_live_notified c code r), ?_⟩
  · rw [heard r]
    split
    · rename_i member
      exact last_snoc fun code' => orderly.live r code' (live r member)
    · rw [List.append_nil]
      exact orderly.last r
  · intro r later
    obtain ⟨silent, unknown⟩ := orderly.fresh r later
    refine ⟨?_, ?_⟩
    · rw [heard r, silent, if_neg, List.append_nil]
      intro member
      obtain ⟨subscription, found, -⟩ := live r member
      rw [unknown] at found
      cases found
    · rw [notifySessionFailure, Table.lookup_filterMap, unknown]
      rfl

theorem dropAwaited_quiet (c : Connection P) : Quiet c c.dropAwaited := by
  unfold dropAwaited
  split
  · exact dropSubscription_quiet c _
  · exact Quiet.refl c

/-- The subscription whose request is waiting is dropped first, and hears nothing. -/
theorem endSession_orderly {c : Connection P} (orderly : Orderly c) (code : String) :
    Orderly (c.endSession code) := by
  have notified := notifySessionFailure_orderly
    (orderly_of_quiet orderly (dropAwaited_quiet c)) code
  exact orderly_of_quiet notified (quiet_of_same (fun _ => rfl) rfl (Nat.le_refl _))

theorem requestFrame_orderly {c : Connection P} (orderly : Orderly c) (world : World)
    (line : String → HostLine) (await : String → Await) :
    Orderly (c.requestFrame world line await) := by
  unfold requestFrame
  split
  · have waiting : Quiet c { c with awaiting := some (await "") } :=
      quiet_of_same (fun _ => rfl) rfl (Nat.le_refl _)
    exact endSession_orderly (orderly_of_quiet orderly waiting) _
  · rename_i id next taken
    have quiet := (takeRequestId_quiet taken).trans (sendFrame_quiet world next (line id))
    have waiting := orderly_of_quiet orderly (quiet.trans (c := { (next.sendFrame world
      (line id)).2 with awaiting := some (await id) })
        (quiet_of_same (fun _ => rfl) rfl (Nat.le_refl _)))
    dsimp only
    split
    · exact waiting
    · exact endSession_orderly waiting _

/-! ## Messages -/

/-- A new subscription has a reference under which nothing was sent. -/
theorem subscribe_orderly {c : Connection P} (orderly : Orderly c) (world : World)
    (acknowledged : Bool) (nativeId : String) (queueLimit : Nat) (resubscribe : Bool)
    (admits : P → Bool) :
    Orderly (c.subscribe world acknowledged nativeId queueLimit resubscribe admits) := by
  unfold Connection.subscribe
  have ticked := orderly_of_quiet orderly (tick_quiet c)
  split
  · exact orderly
  · split
    · exact ticked
    · split
      · exact orderly_of_quiet ticked (quiet_of_same (fun _ => rfl) rfl (Nat.le_refl _))
      · rename_i reference prepared put
        refine requestFrame_orderly ?_ world _ _
        unfold putSubscription at put
        dsimp only at put
        split at put
        · cases put
        · obtain ⟨-, rfl⟩ := Prod.mk.inj (Option.some.inj put)
          obtain ⟨silent, unknown⟩ := ticked.fresh c.references (Nat.le_refl _)
          refine ⟨ticked.last, ?_, ?_⟩
          · rintro r code ⟨subscription, present, open'⟩
            dsimp only at present
            rw [Table.lookup_insert] at present
            split at present
            · rename_i same
              subst same
              intro member
              have told : .error code ∈ c.tick.heard c.references := member
              rw [silent] at told
              cases told
            · exact ticked.live r code ⟨subscription, present, open'⟩
          · intro r later
            have larger : c.references + 4 ≤ r := later
            obtain ⟨silent', unknown'⟩ := ticked.fresh r (by rw [tick_references]; omega)
            refine ⟨silent', ?_⟩
            dsimp only
            rw [Table.lookup_insert, if_neg (by rw [tick_references]; omega)]
            exact unknown'

theorem establishSubscription_orderly {c : Connection P} (orderly : Orderly c) (world : World)
    (reference : Nat) (answer : Answer) :
    Orderly (c.establishSubscription world reference answer) := by
  have looked := orderly_of_quiet orderly ((tick_quiet c).trans (tick_quiet c.tick))
  unfold establishSubscription
  dsimp only
  split
  · rename_i subscription ready
    obtain ⟨found, checks⟩ := Option.filter_eq_some_iff.1 ready
    simp only [Bool.and_eq_true, decide_eq_true_eq] at checks
    have live : c.tick.tick.Live reference :=
      ⟨subscription, found, by rw [checks.1.1]; simp⟩
    split
    · have active := update_quiet_of_live live fun s => { s with status := .active }
      refine orderly_of_quiet looked ((active.trans ?_).trans (post_quiet _ fun _ => rfl))
      exact quiet_of_same (fun _ => rfl) rfl (Nat.le_refl _)
    · exact endSession_orderly looked _
  · exact endSession_orderly looked _

theorem requestFailed_orderly {c : Connection P} (orderly : Orderly c) (code : String) :
    Orderly (c.requestFailed code) := by
  unfold requestFailed
  split
  · exact endSession_orderly orderly code
  · refine orderly_of_quiet orderly ((dropAwaited_quiet c).trans ?_)
    exact quiet_of_same (fun _ => rfl) rfl (Nat.le_refl _)

/-- Whether or not its frame is encoded, a request is between the process and its caller. -/
theorem execute_orderly {c : Connection P} (orderly : Orderly c) (world : World)
    (encodes : Bool) : Orderly (c.execute world encodes) := by
  unfold execute
  split
  · exact requestFrame_orderly orderly world _ _
  · split
    · exact endSession_orderly orderly _
    · rename_i taken
      exact requestFailed_orderly (orderly_of_quiet orderly (takeRequestId_quiet taken)) _

theorem answered_orderly {c : Connection P} (orderly : Orderly c) (world : World)
    (await : Await) (answer : Answer) : Orderly (c.answered world await answer) := by
  have released : Orderly { c with awaiting := none } :=
    orderly_of_quiet orderly (quiet_of_same (fun _ => rfl) rfl (Nat.le_refl _))
  unfold answered
  split
  · exact requestFailed_orderly orderly _
  · exact establishSubscription_orderly orderly world _ _
  · split
    · exact released
    · exact endSession_orderly orderly _
  · exact released

/-- An error of the decoder goes on with the state from before it: nobody may have been told. -/
theorem receiveAsync_orderly {c : Connection P} (orderly : Orderly c) {world : World}
    (wireError : E → Option String) (bytes : Nat) {frame : HostFrame P E}
    (room : roomForStatus world c frame = true) :
    Orderly (c.receiveAsync world wireError bytes frame) := by
  have told := decodeAsyncFrame_told orderly wireError bytes room
  unfold receiveAsync
  split
  · rename_i next decoded
    rw [decoded] at told
    exact told
  · rename_i effects decoded
    rw [decoded] at told
    obtain rfl : effects = c.effects := told
    exact endSession_orderly orderly _
  · rename_i effects decoded
    rw [decoded] at told
    obtain rfl : effects = c.effects := told
    exact orderly_of_quiet orderly (quiet_of_same (fun _ => rfl) rfl (Nat.le_refl _))

theorem receiveLine_orderly {c : Connection P} (orderly : Orderly c) {world : World}
    (wireError : E → Option String) (bytes : Nat) {frame : Option (HostFrame P E)}
    (room : ∀ f, frame = some f → roomForStatus world c f = true) :
    Orderly (c.receiveLine world wireError bytes frame) := by
  unfold receiveLine
  split
  · exact endSession_orderly orderly _
  · rename_i frame
    have async := receiveAsync_orderly orderly wireError bytes (room frame rfl)
    split
    · split
      · exact answered_orderly orderly world _ _
      · exact async
    · exact async

theorem reportAdmitted_orderly {c : Connection P} (orderly : Orderly c) (world : World)
    (owner : Nat) (generation : String) (reference sequence token : Nat)
    (admission : Admission P) :
    Orderly (c.reportAdmitted world owner generation reference sequence token admission) := by
  unfold reportAdmitted
  split
  · rename_i subscription report ready _
    obtain ⟨found, checks⟩ := Option.filter_eq_some_iff.1 ready
    simp only [Bool.and_eq_true, decide_eq_true_eq] at checks
    have live : c.Live reference := ⟨subscription, found, by rw [checks.2]; simp⟩
    have ticked := orderly_of_quiet orderly (tick_quiet c)
    cases admission with
    | ok delivery =>
        dsimp only
        split
        · exact orderly_of_tells ticked live ((post_tells _ reference _).quiet
            (acknowledgeReport_quiet world _ sequence report.bytes))
              (fun _ impossible => by cases impossible)
        · exact overflowSubscription_orderly ticked live world sequence report.bytes
    | receiverOverflow =>
        exact overflowSubscription_orderly orderly live world sequence report.bytes
    | invalid =>
        exact notifySessionFailure_orderly (orderly_of_quiet orderly (failNativeInput_quiet c)) _
  · exact orderly

theorem reportConsumed_orderly {c : Connection P} (orderly : Orderly c) (world : World)
    (generation : String) (reference sequence token : Nat) :
    Orderly (c.reportConsumed world generation reference sequence token) := by
  unfold reportConsumed
  split
  · exact orderly_of_quiet orderly (acknowledgeReport_quiet world c sequence _)
  · exact orderly

/-- The stream owner's death is told before the cancellation, the receiver's to nobody. -/
theorem down_orderly {c : Connection P} (orderly : Orderly c) (world : World) (monitor : Nat) :
    Orderly (c.down world monitor) := by
  unfold down
  split
  · exact orderly
  · rename_i reference _
    split
    · exact orderly_of_quiet orderly (quiet_of_same (fun _ => rfl) rfl (Nat.le_refl _))
    · rename_i subscription found
      split
      · rename_i owner
        exact orderly_of_tells orderly ⟨subscription, found, owner.2⟩
          ((post_tells c reference _).quiet (cancelSubscription_quiet world _ reference _))
          (fun _ _ => cancelSubscription_closes world _ reference _)
      · exact orderly_of_quiet orderly (cancelSubscription_quiet world c reference _)

theorem unsubscribe_orderly {c : Connection P} (orderly : Orderly c) (world : World)
    (reference : Nat) : Orderly (c.unsubscribe world reference) := by
  unfold unsubscribe
  split
  · exact orderly
  · split
    · exact orderly
    · exact requestFrame_orderly
        (orderly_of_quiet orderly (markClosing_quiet c reference _)) world _ _

/-! ## The flush of the buffered reports -/

/-- The queue looked at for report `index` has room, if every one before it had. -/
def roomAt (world : World) (c : Connection P) (subscription : Subscription P) (index : Nat) :
    Bool :=
  (world.messageQueueLen (c.effects.ticks + index)).any
    fun length => length < deliveryLimit subscription

theorem foldl_flushReport_stopped (world : World) (reference : Nat) {c : Connection P}
    (stopped : c.stopped = true) (reports : List (P × Nat × Nat)) :
    reports.foldl (flushReport world reference) c = c := by
  induction reports with
  | nil => rfl
  | cons report rest ih =>
      rw [List.foldl_cons, flushReport, if_pos stopped, ih]

/-- With room the subscription stays as it is, and the next look is one tick later. -/
theorem deliverReport_room {world : World} {c : Connection P} {reference : Nat}
    {subscription : Subscription P} (found : c.subscriptions.lookup reference = some subscription)
    (room : roomAt world c subscription 0 = true) (delivery : P) (sequence bytes : Nat) :
    (c.deliverReport world reference delivery sequence bytes).stopped = true ∨
      ((c.deliverReport world reference delivery sequence bytes).subscriptions =
          c.subscriptions ∧
        (c.deliverReport world reference delivery sequence bytes).effects.ticks =
          c.effects.ticks + 1) := by
  unfold deliverReport
  rw [found]
  dsimp only
  rw [if_pos (show c.hasRoom world (deliveryLimit subscription) = true from room)]
  split
  · exact Or.inr ⟨rfl, rfl⟩
  · exact Or.inl rfl

/-- The flush, report by report: each but the last finds room. -/
theorem foldl_flushReport_orderly {world : World} {reference : Nat}
    (subscription : Subscription P) (active : subscription.status ≠ .closing)
    (reports : List (P × Nat × Nat)) :
    ∀ {c : Connection P}, Orderly c →
      c.subscriptions.lookup reference = some subscription →
      (∀ index, index + 1 < reports.length → roomAt world c subscription index = true) →
      Orderly (reports.foldl (flushReport world reference) c) := by
  induction reports with
  | nil => exact fun orderly _ _ => orderly
  | cons report rest ih =>
      intro c orderly found rooms
      obtain ⟨delivery, sequence, bytes⟩ := report
      by_cases stopped : c.stopped = true
      · rw [foldl_flushReport_stopped world reference stopped]
        exact orderly
      have round : flushReport world reference c (delivery, sequence, bytes) =
          c.deliverReport world reference delivery sequence bytes := by
        simp [flushReport, stopped, found]
      have delivered := deliverReport_orderly orderly ⟨subscription, found, active⟩ world delivery
        sequence bytes
      rw [List.foldl_cons, round]
      cases rest with
      | nil => exact delivered
      | cons next rest =>
          have room := rooms 0 (by simp)
          rcases deliverReport_room found room delivery sequence bytes with ended | ⟨same, later⟩
          · rw [foldl_flushReport_stopped world reference ended]
            exact delivered
          · refine ih delivered (by rw [same]; exact found) fun index within => ?_
            have shifted := rooms (index + 1) (by simpa using within)
            unfold roomAt at shifted ⊢
            rw [later, Nat.add_assoc, Nat.add_comm 1 index]
            exact shifted

/-- **The flush keeps the order** where an overflow can only come with its last report. -/
theorem flushSubscription_orderly {c : Connection P} (orderly : Orderly c) {world : World}
    {reference : Nat}
    (rooms : ∀ subscription, c.subscriptions.lookup reference = some subscription →
      subscription.status = .active → ∀ index, index + 1 < subscription.buffered.length →
        roomAt world c subscription index = true) :
    Orderly (c.flushSubscription world reference) := by
  unfold flushSubscription
  split
  · exact orderly
  · rename_i subscription found
    split
    · rename_i active
      have quiet : Quiet c (c.update reference fun s => { s with buffered := [] }) :=
        update_quiet c reference fun _ closing => closing
      have emptied := orderly_of_quiet orderly quiet
      refine foldl_flushReport_orderly { subscription with buffered := [] } (by rw [active]; simp)
        _ emptied (lookup_update found _) fun index within => ?_
      have sampled : (c.update reference fun s =>
          { s with buffered := [] }).effects = c.effects := by
        unfold update
        rw [found]
      unfold roomAt
      rw [sampled]
      exact rooms subscription found active index within
    · exact orderly

/-! ## Runs -/

/-- The message is none of the two kinds after which a receiver may hear more than its
terminal: an admitted `resubscribing` frame that finds the receiver full, and a flush in which
a report other than the last does. -/
def confined (world : World) (c : Connection P) : Input P E → Bool
  | .line _ (some frame) => roomForStatus world c frame
  | .flushSubscription reference =>
      (c.subscriptions.lookup reference).all fun subscription =>
        !decide (subscription.status = .active) ||
          (List.range (subscription.buffered.length - 1)).all (roomAt world c subscription)
  | _ => true

theorem roomAt_of_confined {world : World} {c : Connection P} {reference : Nat}
    {subscription : Subscription P}
    (kept : confined world c (.flushSubscription reference : Input P E) = true)
    (found : c.subscriptions.lookup reference = some subscription)
    (active : subscription.status = .active) {index : Nat}
    (within : index + 1 < subscription.buffered.length) :
    roomAt world c subscription index = true := by
  simp only [confined, found, active, Option.all_some, decide_true, Bool.not_true, Bool.false_or,
    List.all_eq_true, List.mem_range] at kept
  exact kept index (by omega)

/-- **Every message keeps the order**, if it is `confined`. -/
theorem step_orderly {c : Connection P} (orderly : Orderly c) {world : World}
    (wireError : E → Option String) {input : Input P E}
    (kept : c.stopped = true ∨ confined world c input = true) :
    Orderly (c.step world wireError input) := by
  unfold step
  split
  · exact orderly
  rename_i running
  have kept' := kept.resolve_left running
  cases input with
  | subscribe acknowledged nativeId queueLimit resubscribe admits =>
      dsimp only
      split
      · exact subscribe_orderly orderly world _ _ _ _ _
      · exact orderly
  | unsubscribe reference =>
      dsimp only
      split
      · exact unsubscribe_orderly orderly world reference
      · exact orderly
  | request encodes =>
      dsimp only
      split
      · exact execute_orderly orderly world encodes
      · exact orderly
  | line bytes frame =>
      refine receiveLine_orderly orderly wireError bytes ?_
      rintro f rfl
      exact kept'
  | reportAdmitted owner generation reference sequence token admission =>
      exact reportAdmitted_orderly orderly world _ _ _ _ _ _
  | reportConsumed generation reference sequence token =>
      exact reportConsumed_orderly orderly world _ _ _ _
  | nativeInputFailed generation =>
      dsimp only
      split
      · exact endSession_orderly orderly _
      · exact orderly
  | down monitor => exact down_orderly orderly world monitor
  | flushSubscription reference =>
      exact flushSubscription_orderly orderly fun _ found active _ =>
        roomAt_of_confined kept' found active
  | failed code => exact endSession_orderly orderly code
  | closed => exact orderly_of_quiet orderly (quiet_of_same (fun _ => rfl) rfl (Nat.le_refl _))

theorem orderly_initial (generation : String) :
    Orderly ({ generation } : Connection P) where
  last := by
    intro reference front code back same
    cases front <;> cases same
  live := fun _ _ _ member => by cases member
  fresh := fun _ _ => ⟨rfl, rfl⟩

/-- Every message is `confined` in the state it is taken up in. -/
def confinedRun (world : World) (wireError : E → Option String) :
    Connection P → List (Input P E) → Bool
  | _, [] => true
  | c, input :: rest =>
      (c.stopped || confined world c input) &&
        confinedRun world wireError (c.step world wireError input) rest

/-- So does every run of such messages. -/
theorem run_orderly {world : World} (wireError : E → Option String) (inputs : List (Input P E)) :
    ∀ {c : Connection P}, Orderly c → confinedRun world wireError c inputs = true →
      Orderly (c.run world wireError inputs) := by
  induction inputs with
  | nil => exact fun orderly _ => orderly
  | cons input rest ih =>
      intro c orderly kept
      rw [confinedRun, Bool.and_eq_true, Bool.or_eq_true] at kept
      exact ih (step_orderly orderly wireError kept.1) kept.2

/-- **At most one terminal.**  Whatever the process receives and whatever it sees of the
world, every receiver hears at most one error, and nothing after it, as long as no
`resubscribing` frame and no flush takes one of the two paths that `confined` excludes. -/
theorem run_atMostOneTerminal (world : World) (wireError : E → Option String)
    (generation : String) (inputs : List (Input P E))
    (kept : confinedRun world wireError { generation } inputs = true) :
    AtMostOneTerminal (run world wireError { generation } inputs).effects.sent :=
  (run_orderly wireError inputs (orderly_initial generation) kept).last

/-- The queue of every process the connection looks at holds `length` messages. -/
def crowded (length : Nat) : World where
  messageQueueLen := fun _ => some length
  portCommand := fun _ => true
  monotonicTime := fun _ => 0
  alive := fun _ => true

/-- A subscription with room for one message, a report, the start of a recovery, and the end
of the session. -/
def recoveringInputs : List (Input Unit Unit) :=
  [.subscribe true "s" 1 true (fun _ => true),
    .line 96 (some (.established "2" "s" 1 0 60 7)),
    .line 120 (some (.report "g" "s" 1 1 ())),
    .line 112 (some (.resubscribing "g" "s" 2 1)),
    .failed "transport_closed"]

theorem run_atMostOneTerminal_recovering :
    confinedRun (crowded 0) (fun _ => none) { generation := "g" } recoveringInputs = true ∧
      AtMostOneTerminal (run (crowded 0) (fun _ => none) { generation := "g" }
        recoveringInputs).effects.sent :=
  ⟨by decide +kernel, run_atMostOneTerminal (crowded 0) (fun _ => none) "g" recoveringInputs
    (by decide +kernel)⟩

/-- The receiver is full when the recovery starts, or when its first of two reports is
flushed. -/
theorem run_twoTerminals :
    ¬ AtMostOneTerminal (run (crowded 1) (fun _ => none) { generation := "g" }
        ([.subscribe true "s" 1 true (fun _ => true),
          .line 96 (some (.established "2" "s" 1 0 60 7)),
          .line 112 (some (.resubscribing "g" "s" 2 1))] : List (Input Unit Unit))).effects.sent ∧
      ¬ AtMostOneTerminal (run (crowded 2) (fun _ => none) { generation := "g" }
        ([.subscribe true "s" 2 false (fun _ => true),
          .line 120 (some (.report "g" "s" 1 1 ())),
          .line 120 (some (.report "g" "s" 1 2 ())),
          .line 96 (some (.established "2" "s" 1 0 60 7)),
          .flushSubscription 0] : List (Input Unit Unit))).effects.sent := by
  constructor
  · intro once
    have told := once 0 [] "receiver_overflow" [.error "invalid_frame"] (by decide +kernel)
    cases told
  · intro once
    have told := once 0 [] "receiver_overflow" [.error "receiver_overflow"] (by decide +kernel)
    cases told

end Connection

end WotexMatter.Beam
