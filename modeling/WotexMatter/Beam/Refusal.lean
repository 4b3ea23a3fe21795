/-
# WotexMatter.Beam.Refusal -- what a refused `unsubscribe` leaves behind

`unsubscribe` marks its subscription as closing before it sends the request, and the
error path gives the host's refusal to the caller without taking the mark back.  From
then on reports are acknowledged and dropped, and a later `unsubscribe` joins a
cancellation that nobody asked for.

While the process waits for the answer the entry changes only if the host itself ends
the stream: a barrier retires it, an error frame makes its end final.  `step_waiting`
is that for one message, and `refused_usable_iff` says that the subscription is left as
the caller could expect exactly if one of the two was received during the wait.
-/
import WotexMatter.Beam.NoCrash

set_option autoImplicit false
set_option linter.unusedSectionVars false

namespace WotexMatter.Beam

open WotexMatter.Theory WotexMatter.Native

namespace Book

variable {P : Type} {rules : Rules} {b b' : Book P}

/-! ## Native identifiers -/

/-- The index knows every subscription under its native identifier and current generation,
and leads from a native identifier only to its own subscription. -/
structure Named (b : Book P) : Prop where
  key : ∀ key reference, b.ids.lookup key = some reference →
    ∃ subscription, b.subscriptions.lookup reference = some subscription ∧
      key.1 = subscription.nativeId ∧
      (key.2 = subscription.generation ∨ subscription.retiringGeneration = some key.2)
  current : ∀ reference subscription, b.subscriptions.lookup reference = some subscription →
    b.ids.lookup (subscription.nativeId, subscription.generation) = some reference
  distinct : ∀ reference other subscription subscription',
    b.subscriptions.lookup reference = some subscription →
    b.subscriptions.lookup other = some subscription' →
    subscription.nativeId = subscription'.nativeId → reference = other

/-- The fields that `Named` reads. -/
def SameName (subscription changed : Subscription P) : Prop :=
  changed.nativeId = subscription.nativeId ∧ changed.generation = subscription.generation ∧
    changed.retiringGeneration = subscription.retiringGeneration

/-- The subscriptions are those of before under their names. -/
theorem Named.of_sameName (named : Named b)
    (changed : ∀ reference, b'.subscriptions.lookup reference = none ∧
        b.subscriptions.lookup reference = none ∨
      ∃ subscription subscription', b.subscriptions.lookup reference = some subscription ∧
        b'.subscriptions.lookup reference = some subscription' ∧
        SameName subscription subscription')
    (ids : b'.ids = b.ids) : Named b' := by
  have back : ∀ {reference subscription'}, b'.subscriptions.lookup reference = some subscription' →
      ∃ subscription, b.subscriptions.lookup reference = some subscription ∧
        SameName subscription subscription' := by
    intro reference subscription' found
    rcases changed reference with ⟨gone, -⟩ | ⟨subscription, other, before, after, same⟩
    · rw [gone] at found
      cases found
    · rw [after] at found
      obtain rfl := Option.some.inj found
      exact ⟨subscription, before, same⟩
  exact
    { key := by
        intro key reference known
        rw [ids] at known
        obtain ⟨subscription, before, name, which⟩ := named.key key reference known
        rcases changed reference with ⟨-, gone⟩ | ⟨other, subscription', there, after, same⟩
        · rw [gone] at before
          cases before
        · rw [before] at there
          obtain rfl := Option.some.inj there
          exact ⟨subscription', after, name.trans same.1.symm, by rw [same.2.1, same.2.2]; exact which⟩
      current := by
        intro reference subscription' found
        obtain ⟨subscription, before, same⟩ := back found
        rw [ids, same.1, same.2.1]
        exact named.current reference subscription before
      distinct := by
        intro reference other first second foundFirst foundSecond sameId
        obtain ⟨subscription, before, same⟩ := back foundFirst
        obtain ⟨subscription', before', same'⟩ := back foundSecond
        exact named.distinct reference other subscription subscription' before before'
          (same.1.symm.trans (sameId.trans same'.1)) }

theorem Named.write (named : Named b) {reference : Nat} {subscription changed : Subscription P}
    (found : b.subscriptions.lookup reference = some subscription)
    (same : SameName subscription changed) (ledger : ReportLedger (Nat × Nat) Nat)
    (references : Nat) (sent : List (Message P)) :
    Named { b.write reference changed with ledger, references, sent } := by
  refine named.of_sameName (fun other => ?_) rfl
  change (b.subscriptions.insert reference changed).lookup other = none ∧ _ ∨ _
  by_cases here : other = reference
  · subst here
    exact Or.inr ⟨subscription, changed, found, Table.lookup_insert_self _ _ _, same⟩
  · have kept : (b.subscriptions.insert reference changed).lookup other =
        b.subscriptions.lookup other := by
      rw [Table.lookup_insert, if_neg here]
    cases before : b.subscriptions.lookup other with
    | none => exact Or.inl ⟨kept.trans before, rfl⟩
    | some other' =>
        exact Or.inr ⟨other', other', rfl, kept.trans before, rfl, rfl, rfl⟩

theorem sameName_closes {subscription closed : Subscription P}
    (closes : Closes subscription closed) : SameName subscription closed := by
  rw [closes]
  exact ⟨rfl, rfl, rfl⟩

/-- Nothing leads to a dropped subscription any more. -/
theorem Named.dropped (named : Named b) (reference : Nat) (subscription : Subscription P) :
    Named (b.dropped reference subscription) := by
  have entry : ∀ {other subscription'}, (b.subscriptions.erase reference).lookup other =
      some subscription' →
        other ≠ reference ∧ b.subscriptions.lookup other = some subscription' := by
    intro other subscription' present
    rw [Table.lookup_erase] at present
    split at present
    · cases present
    · rename_i elsewhere
      exact ⟨elsewhere, present⟩
  exact
    { key := by
        intro key owner known
        change (Table.filterMap _ b.ids).lookup key = _ at known
        rw [Table.lookup_filterMap] at known
        obtain ⟨before, there, same⟩ := Option.bind_eq_some_iff.1 known
        split at same
        · cases same
        · rename_i elsewhere
          obtain rfl := Option.some.inj same
          obtain ⟨whose, present, name, which⟩ := named.key key before there
          refine ⟨whose, ?_, name, which⟩
          change (b.subscriptions.erase reference).lookup before = _
          rw [Table.lookup_erase, if_neg elsewhere]
          exact present
      current := by
        intro other subscription' present
        obtain ⟨elsewhere, before⟩ := entry present
        change (Table.filterMap _ b.ids).lookup _ = _
        rw [Table.lookup_filterMap, named.current other subscription' before, Option.bind_some,
          if_neg elsewhere]
      distinct := by
        intro first second subscription' subscription'' foundFirst foundSecond sameId
        exact named.distinct first second subscription' subscription'' (entry foundFirst).2
          (entry foundSecond).2 sameId }

theorem step_named (asked : rules.distinct) (step : Step rules b b') (agrees : Agrees b)
    (named : Named b) : Named b' := by
  cases step with
  | tell message plain => exact { named with }
  | close found closes =>
      exact named.write found (sameName_closes closes) b.ledger b.references b.sent
  | closeAll code =>
      refine named.of_sameName (fun reference => ?_) rfl
      change (Table.filterMap _ b.subscriptions).lookup reference = none ∧ _ ∨ _
      cases before : b.subscriptions.lookup reference with
      | none => exact Or.inl ⟨by rw [Table.lookup_filterMap, before]; rfl, rfl⟩
      | some subscription =>
          refine Or.inr ⟨subscription, Connection.notifyOne code subscription, rfl,
            by rw [Table.lookup_filterMap, before]; rfl, ?_⟩
          unfold Connection.notifyOne
          split <;> exact ⟨rfl, rfl, rfl⟩
  | attempt found attempt =>
      refine named.write found ?_ b.ledger b.references b.sent
      exact ⟨rfl, rfl, rfl⟩
  | establish found establishing =>
      refine named.write found ?_ b.ledger b.references b.sent
      exact ⟨rfl, rfl, rfl⟩
  | resume found recovering moved settled =>
      refine named.write found ?_ b.ledger b.references b.sent
      exact ⟨rfl, rfl, rfl⟩
  | acknowledge permitted acknowledges => exact { named with }
  | overflow found closes owned acknowledges =>
      exact named.write found (sameName_closes closes) _ b.references b.sent
  | register found registers =>
      refine named.write found ?_ _ _ b.sent
      exact ⟨rfl, rfl, rfl⟩
  | buffer delivery found establishing registers =>
      refine named.write found ?_ _ _ b.sent
      exact ⟨rfl, rfl, rfl⟩
  | deliver delivery found active flushed registers =>
      refine named.write found ?_ _ _ _
      exact ⟨rfl, rfl, rfl⟩
  | flush found first pending =>
      refine named.write found ?_ b.ledger b.references _
      exact ⟨rfl, rfl, rfl⟩
  | skip found first =>
      refine named.write found ?_ b.ledger b.references b.sent
      exact ⟨rfl, rfl, rfl⟩
  | @recover reference subscription ledger found active settled opens =>
      exact
        { key := by
            intro key owner known
            change ∃ s, (b.subscriptions.insert reference _).lookup owner = some s ∧ _
            rcases lookup_insert_cases known with ⟨rfl, rfl⟩ | ⟨-, before⟩
            · exact ⟨_, Table.lookup_insert_self _ _ _, rfl, Or.inl rfl⟩
            · obtain ⟨whose, present, name, which⟩ := named.key key owner before
              by_cases here : owner = reference
              · subst here
                rw [found] at present
                obtain rfl := Option.some.inj present
                rw [settled] at which
                refine ⟨_, Table.lookup_insert_self _ _ _, name, Or.inr ?_⟩
                exact congrArg some (which.resolve_right (by simp)).symm
              · exact ⟨whose, by rw [Table.lookup_insert, if_neg here]; exact present, name, which⟩
          current := by
            intro other subscription' present
            change (b.ids.insert _ reference).lookup _ = _
            rcases lookup_insert_cases present with ⟨rfl, rfl⟩ | ⟨elsewhere, before⟩
            · exact Table.lookup_insert_self _ _ _
            · rw [Table.lookup_insert, if_neg]
              · exact named.current other subscription' before
              · intro same
                exact elsewhere (named.distinct other reference subscription' subscription before
                  found (congrArg Prod.fst same))
          distinct := by
            intro first second subscription' subscription'' foundFirst foundSecond sameId
            rcases lookup_insert_cases foundFirst with ⟨rfl, rfl⟩ | ⟨-, before⟩ <;>
              rcases lookup_insert_cases foundSecond with ⟨rfl, rfl⟩ | ⟨-, before'⟩
            · rfl
            · exact named.distinct _ _ _ _ found before' sameId
            · exact named.distinct _ _ _ _ before found sameId
            · exact named.distinct _ _ _ _ before before' sameId }
  | @retireGeneration reference generation last subscription retired ledger found retiring paused
      retires settles =>
      have older := (agrees.retiring reference subscription generation found retiring).1
      exact
        { key := by
            intro key owner known
            change (b.ids.erase _).lookup key = _ at known
            change ∃ s, (b.subscriptions.insert reference _).lookup owner = some s ∧ _
            rw [Table.lookup_erase] at known
            split at known
            · cases known
            · rename_i different
              obtain ⟨whose, present, name, which⟩ := named.key key owner known
              by_cases here : owner = reference
              · subst here
                rw [found] at present
                obtain rfl := Option.some.inj present
                refine ⟨_, Table.lookup_insert_self _ _ _, name, Or.inl ?_⟩
                refine which.resolve_right fun old => different ?_
                rw [retiring] at old
                exact Prod.ext name (Option.some.inj old).symm
              · exact ⟨whose, by rw [Table.lookup_insert, if_neg here]; exact present, name, which⟩
          current := by
            intro other subscription' present
            change (b.ids.erase _).lookup _ = _
            rcases lookup_insert_cases present with ⟨rfl, rfl⟩ | ⟨elsewhere, before⟩
            · rw [Table.lookup_erase, if_neg (fun same => older.ne' (congrArg Prod.snd same))]
              exact named.current other subscription found
            · rw [Table.lookup_erase, if_neg]
              · exact named.current other subscription' before
              · intro same
                exact elsewhere (named.distinct other reference subscription' subscription before
                  found (congrArg Prod.fst same))
          distinct := by
            intro first second subscription' subscription'' foundFirst foundSecond sameId
            rcases lookup_insert_cases foundFirst with ⟨rfl, rfl⟩ | ⟨-, before⟩ <;>
              rcases lookup_insert_cases foundSecond with ⟨rfl, rfl⟩ | ⟨-, before'⟩
            · rfl
            · exact named.distinct _ _ _ _ found before' sameId
            · exact named.distinct _ _ _ _ before found sameId
            · exact named.distinct _ _ _ _ before before' sameId }
  | @retireLast reference last subscription retired ledger found closing retires settles =>
      exact Named.dropped (b := { b with ledger }) { named with } reference subscription
  | drop found => exact named.dropped _ _
  | @put subscription ledger monitors references few opens first unread settled empty distinct =>
      have elsewhere : ∀ {other subscription'}, b.subscriptions.lookup other = some subscription' →
          other ≠ b.references := by
        intro other subscription' present
        exact (agrees.fresh other (by rw [present]; rfl)).ne
      exact
        { key := by
            intro key owner known
            change ∃ s, (b.subscriptions.insert b.references subscription).lookup owner = some s ∧ _
            rcases lookup_insert_cases known with ⟨rfl, rfl⟩ | ⟨-, before⟩
            · exact ⟨subscription, Table.lookup_insert_self _ _ _, rfl, Or.inl first.symm⟩
            · obtain ⟨whose, present, name, which⟩ := named.key key owner before
              refine ⟨whose, ?_, name, which⟩
              rw [Table.lookup_insert, if_neg (elsewhere present)]
              exact present
          current := by
            intro other subscription' present
            change (b.ids.insert _ b.references).lookup _ = _
            rcases lookup_insert_cases present with ⟨rfl, rfl⟩ | ⟨-, before⟩
            · rw [first]
              exact Table.lookup_insert_self _ _ _
            · rw [Table.lookup_insert, if_neg]
              · exact named.current other subscription' before
              · exact fun same => distinct asked other subscription' before (congrArg Prod.fst same)
          distinct := by
            intro one two subscription' subscription'' foundOne foundTwo sameId
            rcases lookup_insert_cases foundOne with ⟨rfl, rfl⟩ | ⟨-, before⟩ <;>
              rcases lookup_insert_cases foundTwo with ⟨rfl, rfl⟩ | ⟨-, before'⟩
            · rfl
            · exact absurd sameId.symm (distinct asked two subscription'' before')
            · exact absurd sameId (distinct asked one subscription' before)
            · exact named.distinct _ _ _ _ before before' sameId }

/-! ## References are not used again -/

/-- The reference was given out and its subscription is gone. -/
def Gone (b : Book P) (reference : Nat) : Prop :=
  reference < b.references ∧ b.subscriptions.lookup reference = none

theorem Gone.write {reference : Nat} (gone : b.Gone reference) {target : Nat}
    {subscription : Subscription P} (found : b.subscriptions.lookup target = some subscription)
    (changed : Subscription P) :
    (b.subscriptions.insert target changed).lookup reference = none := by
  rw [Table.lookup_insert, if_neg]
  · exact gone.2
  · rintro rfl
    rw [gone.2] at found
    cases found

theorem Gone.erase {reference : Nat} (gone : b.Gone reference) (target : Nat) :
    (b.subscriptions.erase target).lookup reference = none := by
  rw [Table.lookup_erase, gone.2, ite_self]

theorem step_references (step : Step rules b b') : b.references ≤ b'.references := by
  cases step with
  | register found registers => exact Nat.le_succ _
  | buffer delivery found establishing registers => exact Nat.le_succ _
  | deliver delivery found active flushed registers => exact Nat.le_succ _
  | put few opens first unread settled empty distinct watched later => exact later.le
  | _ => exact le_rfl

theorem step_gone {reference : Nat} (step : Step rules b b') (gone : b.Gone reference) :
    b'.Gone reference := by
  cases step with
  | tell message plain => exact gone
  | close found closes => exact ⟨gone.1, gone.write found _⟩
  | closeAll code =>
      refine ⟨gone.1, ?_⟩
      change (Table.filterMap _ b.subscriptions).lookup reference = none
      rw [Table.lookup_filterMap, gone.2]
      rfl
  | attempt found attempt => exact ⟨gone.1, gone.write found _⟩
  | establish found establishing => exact ⟨gone.1, gone.write found _⟩
  | resume found recovering moved settled => exact ⟨gone.1, gone.write found _⟩
  | acknowledge permitted acknowledges => exact gone
  | overflow found closes owned acknowledges => exact ⟨gone.1, gone.write found _⟩
  | register found registers => exact ⟨Nat.lt_succ_of_lt gone.1, gone.write found _⟩
  | buffer delivery found establishing registers =>
      exact ⟨Nat.lt_succ_of_lt gone.1, gone.write found _⟩
  | deliver delivery found active flushed registers =>
      exact ⟨Nat.lt_succ_of_lt gone.1, gone.write found _⟩
  | flush found first pending => exact ⟨gone.1, gone.write found _⟩
  | skip found first => exact ⟨gone.1, gone.write found _⟩
  | recover found active settled opens => exact ⟨gone.1, gone.write found _⟩
  | retireGeneration found retiring paused retires settles => exact ⟨gone.1, gone.write found _⟩
  | retireLast found closing retires settles => exact ⟨gone.1, gone.erase _⟩
  | drop found => exact ⟨gone.1, gone.erase _⟩
  | put few opens first unread settled empty distinct watched later =>
      refine ⟨gone.1.trans later, ?_⟩
      change (b.subscriptions.insert b.references _).lookup reference = none
      rw [Table.lookup_insert, if_neg gone.1.ne]
      exact gone.2

end Book

namespace Connection

variable {P E : Type} {c c' : Connection P} {world : World} {reference : Nat}

/-! ## A closing subscription rests -/

/-- What a closing subscription keeps. -/
def SameEnd (subscription subscription' : Subscription P) : Prop :=
  subscription'.status = .closing ∧ subscription'.nativeId = subscription.nativeId ∧
    subscription'.generation = subscription.generation ∧
    subscription'.nativeTerminalReceived = subscription.nativeTerminalReceived

/-- The subscription, if it is closing, stays as it is. -/
def Rests (reference : Nat) (c c' : Connection P) : Prop :=
  ∀ subscription, c.subscriptions.lookup reference = some subscription →
    subscription.status = .closing →
    ∃ subscription', c'.subscriptions.lookup reference = some subscription' ∧
      SameEnd subscription subscription'

theorem Rests.of_same (same : c'.subscriptions = c.subscriptions) : Rests reference c c' := by
  intro subscription found closing
  exact ⟨subscription, by rw [same]; exact found, closing, rfl, rfl, rfl⟩

theorem Rests.trans {c'' : Connection P} (first : Rests reference c c')
    (second : Rests reference c' c'') : Rests reference c c'' := by
  intro subscription found closing
  obtain ⟨middle, there, status, id, generation, terminal⟩ := first subscription found closing
  obtain ⟨last, after, status', id', generation', terminal'⟩ := second middle there status
  exact ⟨last, after, status', id'.trans id, generation'.trans generation, terminal'.trans terminal⟩

theorem Rests.of_tells {b : Book P} (same : b.subscriptions = c.subscriptions)
    (tells : Book.Tells b c'.book) : Rests reference c c' := by
  obtain ⟨messages, -, told⟩ := tells
  have table : c'.subscriptions = b.subscriptions := congrArg Book.subscriptions told
  exact Rests.of_same (table.trans same)

/-- One subscription is written; if it is the closing one, it keeps what it has to. -/
theorem Rests.of_written {target : Nat} {subscription changed : Subscription P}
    (found : c.subscriptions.lookup target = some subscription)
    (table : c'.subscriptions = c.subscriptions.insert target changed)
    (kept : subscription.status = .closing → SameEnd subscription changed) :
    Rests reference c c' := by
  intro present there closing
  rw [table, Table.lookup_insert]
  split
  · rename_i here
    subst here
    rw [found] at there
    obtain rfl := Option.some.inj there
    exact ⟨changed, rfl, kept closing⟩
  · exact ⟨present, there, closing, rfl, rfl, rfl⟩

theorem update_rests {target : Nat} {change : Subscription P → Subscription P}
    (kept : ∀ subscription, c.subscriptions.lookup target = some subscription →
      subscription.status = .closing → SameEnd subscription (change subscription)) :
    Rests reference c (c.update target change) := by
  cases found : c.subscriptions.lookup target with
  | none =>
      refine Rests.of_same ?_
      unfold update
      rw [found]
  | some subscription =>
      exact Rests.of_written found (congrArg Book.subscriptions (book_update found change))
        (kept subscription found)

theorem acknowledgeReport_rests (c : Connection P) (sequence bytes : Nat) :
    Rests reference c (c.acknowledgeReport world sequence bytes) := by
  obtain ⟨ledger, -, tells⟩ := acknowledgeReport_book world c sequence bytes
  exact Rests.of_tells rfl tells

theorem cancelSubscription_rests (c : Connection P) (target : Nat) (result : String) :
    Rests reference c (c.cancelSubscription world target result) := by
  cases found : c.subscriptions.lookup target with
  | none =>
      refine Rests.of_same ?_
      unfold cancelSubscription
      rw [found]
  | some subscription =>
      obtain ⟨closed, closes, terminal, messages, -, told⟩ :=
        cancelSubscription_book world found result
      refine Rests.of_written found (congrArg Book.subscriptions told) fun _ => ?_
      refine ⟨?_, ?_, ?_, terminal⟩ <;> rw [closes]

theorem overflowSubscription_rests (c : Connection P) (target sequence bytes : Nat) :
    Rests reference c (c.overflowSubscription world target sequence bytes) := by
  unfold overflowSubscription
  have posted : Rests reference c (c.post (.receiver target (.error "receiver_overflow"))) :=
    Rests.of_same rfl
  exact posted.trans ((acknowledgeReport_rests _ sequence bytes).trans
    (cancelSubscription_rests _ target _))

theorem deliverReport_rests (c : Connection P) (target : Nat) (delivery : P)
    (sequence bytes : Nat) :
    Rests reference c (c.deliverReport world target delivery sequence bytes) := by
  cases found : c.subscriptions.lookup target with
  | none =>
      refine Rests.of_same ?_
      unfold deliverReport
      rw [found]
  | some subscription =>
      rcases deliverReport_cases world found delivery sequence bytes with
        ⟨report, -, delivered⟩ | ⟨-, died⟩ | overflowed
      · rw [delivered]
        exact Rests.of_same rfl
      · rw [died]
        exact Rests.of_same rfl
      · rw [overflowed]
        have ticked : Rests reference c c.tick := Rests.of_same rfl
        exact ticked.trans (overflowSubscription_rests c.tick target sequence bytes)

theorem registerReport_rests {registered : Connection P} {target sequence bytes : Nat}
    (result : c.registerReport target sequence bytes = some registered) :
    Rests reference c registered := by
  obtain ⟨subscription, ledger, found, -, -, -, same⟩ := registerReport_book result
  exact Rests.of_written found (congrArg Book.subscriptions same) fun closing =>
    ⟨closing, rfl, rfl, rfl⟩

theorem admitReport_rests {next : Connection P} {target : Nat} {delivery : P}
    {sequence bytes : Nat}
    (admitted : c.admitReport world target delivery sequence bytes = some next) :
    Rests reference c next := by
  unfold admitReport at admitted
  split at admitted
  · cases admitted
  · rename_i subscription found
    split at admitted
    · rename_i establishing
      split at admitted
      · obtain rfl := Option.some.inj admitted
        refine update_rests fun other there closing => ⟨closing, rfl, rfl, rfl⟩
      · obtain rfl := Option.some.inj admitted
        exact overflowSubscription_rests c target sequence bytes
    · obtain rfl := Option.some.inj admitted
      exact deliverReport_rests c target delivery sequence bytes
    · obtain rfl := Option.some.inj admitted
      exact acknowledgeReport_rests c sequence bytes
    · cases admitted

theorem flushSubscription_rests (c : Connection P) (target : Nat) :
    Rests reference c (c.flushSubscription world target) := by
  have one : ∀ (d : Connection P) (entry : P × Nat × Nat),
      Rests reference d (flushReport world target d entry) := by
    rintro d ⟨delivery, sequence, bytes⟩
    simp only [flushReport]
    split
    · exact Rests.of_same rfl
    · split
      · exact deliverReport_rests d target delivery sequence bytes
      · exact acknowledgeReport_rests d sequence bytes
  have rounds : ∀ (entries : List (P × Nat × Nat)) (d : Connection P), Rests reference c d →
      Rests reference c (entries.foldl (flushReport world target) d) := by
    intro entries
    induction entries with
    | nil => exact fun _ rests => rests
    | cons entry rest ih => exact fun d rests => ih _ (rests.trans (one d entry))
  unfold flushSubscription
  split
  · exact Rests.of_same rfl
  · split
    · refine rounds _ _ (update_rests fun other there closing => ⟨closing, rfl, rfl, rfl⟩)
    · exact Rests.of_same rfl

theorem deliverSubscriptionStatus_rests (c : Connection P) (target : Nat)
    (status : SubscriptionStatusKind) (generation attempt : Nat) :
    Rests reference c (c.deliverSubscriptionStatus world target status generation attempt).2 := by
  unfold deliverSubscriptionStatus
  split
  · exact Rests.of_same rfl
  · split
    · exact Rests.of_same rfl
    · have told : Rests reference c
          (c.tick.post (.receiver target (.error "receiver_overflow"))) := Rests.of_same rfl
      exact told.trans (cancelSubscription_rests _ target _)

theorem beginRecovery_rests {next : Connection P} {target generation attempt : Nat}
    (ok : c.beginRecovery world target generation attempt = .ok next) :
    Rests reference c next := by
  unfold beginRecovery at ok
  split at ok
  · cases ok
  · rename_i subscription found
    split at ok
    · rename_i starts
      obtain ⟨-, active, -⟩ := startsRecovery_iff.1 starts
      split at ok
      · cases ok
      · obtain rfl := ofStatus_eq_ok ok
        refine Rests.trans (Rests.of_written found rfl fun closing => ?_)
          (deliverSubscriptionStatus_rests _ target _ _ _)
        rw [active] at closing
        cases closing
    · split at ok
      · obtain rfl := ofStatus_eq_ok ok
        refine Rests.trans (update_rests fun other there closing => ?_)
          (deliverSubscriptionStatus_rests _ target _ _ _)
        exact ⟨closing, rfl, rfl, rfl⟩
      · cases ok

theorem finishRecovery_rests {next : Connection P} {target generation attempt : Nat}
    (ok : c.finishRecovery world target generation attempt = .ok next) :
    Rests reference c next := by
  unfold finishRecovery at ok
  split at ok
  · cases ok
  · rename_i subscription found
    split at ok
    · rename_i ends
      obtain ⟨recovering, -⟩ := endsRecovery_iff.1 ends
      have told : Rests reference c
          (c.deliverSubscriptionStatus world target .resubscribed generation attempt).2 :=
        deliverSubscriptionStatus_rests c target .resubscribed generation attempt
      dsimp only at ok
      split at ok
      · rename_i delivered
        obtain rfl := Recovery.ok.inj ok
        rcases deliverSubscriptionStatus_cases world found .resubscribed generation attempt with
          ⟨-, posted⟩ | ⟨refused, -⟩
        · rw [posted]
          refine Rests.of_written found (congrArg Book.subscriptions (book_update
            (show (c.tick.post _).subscriptions.lookup target = some subscription from found) _))
            fun closing => ?_
          rw [recovering] at closing
          cases closing
        · rw [refused] at delivered
          cases delivered
      · obtain rfl := Recovery.ok.inj ok
        exact told
    · cases ok

/-! ## Frames that end the stream -/

/-- The barrier of the current generation, or an error of the stream. -/
def endsFrame (subscription : Subscription P) : HostFrame P E → Prop
  | .retired _ nativeId generation _ =>
      nativeId = subscription.nativeId ∧ generation = subscription.generation
  | .error _ nativeId _ _ => nativeId = subscription.nativeId
  | _ => False

/-- The host has ended the stream: it is retired, or its terminal has been received. -/
def Ended (reference : Nat) (subscription : Subscription P) (c : Connection P) : Prop :=
  c.subscriptions.lookup reference = none ∨
    subscription.nativeTerminalReceived = false ∧
      ∃ subscription', c.subscriptions.lookup reference = some subscription' ∧
        subscription'.status = .closing ∧ subscription'.nativeTerminalReceived = true

/-- The entry of another subscription is written or erased. -/
theorem Rests.of_elsewhere {target : Nat} (elsewhere : reference ≠ target)
    (kept : ∀ other, other ≠ target →
      c'.subscriptions.lookup other = c.subscriptions.lookup other) : Rests reference c c' := by
  intro subscription found closing
  exact ⟨subscription, (kept reference elsewhere).trans found, closing, rfl, rfl, rfl⟩

theorem lookup_retireSubscription (c : Connection P) (target other : Nat) :
    (c.retireSubscription world target).subscriptions.lookup other =
      if other = target then none else c.subscriptions.lookup other := by
  have dropped : (c.dropSubscription target).subscriptions.lookup other =
      if other = target then none else c.subscriptions.lookup other := by
    unfold dropSubscription
    split
    · rename_i absent
      split
      · rename_i here
        rw [here]
        exact absent
      · rfl
    · exact Table.lookup_erase _ _ _
  obtain ⟨messages, -, told⟩ := retireSubscription_tells world c target
  have table : (c.retireSubscription world target).subscriptions =
      (c.dropSubscription target).subscriptions := congrArg Book.subscriptions told
  rw [table, dropped]

theorem consumeRetiredReports_subscriptions {consumed : Connection P}
    {target generation last : Nat}
    (result : c.consumeRetiredReports world target generation last = some consumed) :
    consumed.subscriptions = c.subscriptions := by
  obtain ⟨retired, ledger, -, -, messages, -, told⟩ := consumeRetiredReports_book result
  exact congrArg Book.subscriptions told

/-- `stream_retired`, for the closing subscription or for another one. -/
theorem retireStreamGeneration_waiting {next : Connection P} {subscription : Subscription P}
    (agrees : c.book.Agrees) (named : c.book.Named)
    (found : c.subscriptions.lookup reference = some subscription) {nativeId : String}
    {target generation last : Nat}
    (known : c.subscriptionIds.lookup (nativeId, generation) = some target)
    (ok : c.retireStreamGeneration world target generation last = .ok next) :
    (nativeId = subscription.nativeId ∧ generation = subscription.generation ∧
        next.subscriptions.lookup reference = none) ∨
      ¬ (nativeId = subscription.nativeId ∧ generation = subscription.generation) ∧
        Rests reference c next := by
  obtain ⟨whose, there, name, which⟩ := named.key _ _ known
  have present : c.subscriptions.lookup target = some whose := there
  have foreign : reference ≠ target → nativeId ≠ subscription.nativeId := by
    intro elsewhere same
    exact elsewhere (named.distinct reference target subscription whose found there
      (same.symm.trans name))
  unfold retireStreamGeneration at ok
  rw [present] at ok
  dsimp only at ok
  split at ok
  · rename_i retiring
    split at ok
    · cases ok
    · rename_i consumed result
      obtain rfl := Decoded.ok.inj ok
      have table := consumeRetiredReports_subscriptions result
      refine Or.inr ⟨fun both => ?_, ?_⟩
      · by_cases here : reference = target
        · subst here
          rw [found] at present
          obtain rfl := Option.some.inj present
          exact (agrees.retiring reference subscription generation found retiring.1).1.ne both.2
        · exact foreign here both.1
      · have unindexed : Rests reference c { consumed with
            subscriptionIds := consumed.subscriptionIds.erase (whose.nativeId, generation) } :=
          Rests.of_same table
        exact unindexed.trans (update_rests fun _ _ closing => ⟨closing, rfl, rfl, rfl⟩)
  · split at ok
    · rename_i closing
      split at ok
      · cases ok
      · rename_i consumed result
        obtain rfl := Decoded.ok.inj ok
        have table := consumeRetiredReports_subscriptions result
        by_cases here : reference = target
        · subst here
          rw [found] at present
          obtain rfl := Option.some.inj present
          refine Or.inl ⟨name, closing.2.1.symm, ?_⟩
          rw [lookup_retireSubscription, if_pos rfl]
        · refine Or.inr ⟨fun both => foreign here both.1, Rests.of_elsewhere here ?_⟩
          intro other different
          rw [lookup_retireSubscription, if_neg different, table]
    · cases ok

theorem receiveError_table {next : Connection P} {target : Nat} {code : String}
    (ok : c.receiveError world target code = .ok next) :
    ∃ whose changed, c.subscriptions.lookup target = some whose ∧
      whose.nativeTerminalReceived = false ∧
      next.subscriptions = c.subscriptions.insert target changed ∧ changed.status = .closing ∧
      changed.nativeTerminalReceived = true := by
  unfold receiveError at ok
  split at ok
  · cases ok
  · rename_i whose present
    split at ok
    · cases ok
    · rename_i unheard
      have watched : ∀ d : Connection P,
          (d.watchCancellation world target).subscriptions = d.subscriptions :=
        fun d => congrArg Book.subscriptions (book_watchCancellation world d target)
      have written : ∀ (d : Connection P) (change : Subscription P → Subscription P),
          d.subscriptions = c.subscriptions →
          (d.update target change).subscriptions =
            c.subscriptions.insert target (change whose) := by
        intro d change same
        have there : d.subscriptions.lookup target = some whose := by rw [same]; exact present
        rw [← same]
        exact congrArg Book.subscriptions (book_update there change)
      obtain rfl := Decoded.ok.inj ok
      rw [watched]
      refine ⟨whose, _, present, by simpa using unheard, written _ _ ?_, rfl, rfl⟩
      split <;> rfl

/-- `subscription_error`, for the closing subscription or for another one. -/
theorem receiveError_waiting {next : Connection P} {subscription : Subscription P}
    (named : c.book.Named) (found : c.subscriptions.lookup reference = some subscription)
    {nativeId : String} {target generation : Nat} {code : String}
    (known : c.subscriptionIds.lookup (nativeId, generation) = some target)
    (ok : c.receiveError world target code = .ok next) :
    (nativeId = subscription.nativeId ∧ Ended reference subscription next) ∨
      nativeId ≠ subscription.nativeId ∧ Rests reference c next := by
  obtain ⟨whose, there, name, -⟩ := named.key _ _ known
  obtain ⟨other, changed, present, unheard, table, closing, heard⟩ := receiveError_table ok
  have same : other = whose := Option.some.inj (present.symm.trans there)
  subst same
  by_cases here : reference = target
  · subst here
    rw [found] at present
    obtain rfl := Option.some.inj present
    refine Or.inl ⟨name, Or.inr ⟨unheard, changed, ?_, closing, heard⟩⟩
    rw [table]
    exact Table.lookup_insert_self _ _ _
  · refine Or.inr ⟨fun same => here (named.distinct reference target subscription other found
      there (same.symm.trans name)), Rests.of_elsewhere here ?_⟩
    intro third different
    rw [table, Table.lookup_insert, if_neg different]

/-- An accepted frame ends the stream or leaves it alone. -/
theorem decodeAsyncFrame_waiting {wireError : E → Option String} {next : Connection P}
    {subscription : Subscription P} (agrees : c.book.Agrees) (named : c.book.Named)
    (found : c.subscriptions.lookup reference = some subscription) {bytes : Nat}
    {frame : HostFrame P E} (ok : c.decodeAsyncFrame world wireError bytes frame = .ok next) :
    (endsFrame subscription frame ∧ Ended reference subscription next) ∨
      ¬ endsFrame subscription frame ∧ Rests reference c next := by
  cases frame with
  | resubscribing session nativeId generation attempt =>
      refine Or.inr ⟨fun ends => ends, ?_⟩
      simp only [decodeAsyncFrame] at ok
      split at ok
      · split at ok
        · cases ok
        · rename_i target _
          cases recovery : c.beginRecovery world target generation attempt with
          | ok reached =>
              rw [recovery] at ok
              obtain rfl := Decoded.ok.inj ok
              exact beginRecovery_rests recovery
          | overflow closing => rw [recovery] at ok; cases ok
          | error => rw [recovery] at ok; cases ok
          | crash => rw [recovery] at ok; cases ok
      · cases ok
  | resubscribed session nativeId generation attempt minimum maximum sdkId =>
      refine Or.inr ⟨fun ends => ends, ?_⟩
      simp only [decodeAsyncFrame] at ok
      split at ok
      · split at ok
        · cases ok
        · rename_i target _
          cases recovery : c.finishRecovery world target generation attempt with
          | ok reached =>
              rw [recovery] at ok
              obtain rfl := Decoded.ok.inj ok
              exact finishRecovery_rests recovery
          | overflow closing => rw [recovery] at ok; cases ok
          | error => rw [recovery] at ok; cases ok
          | crash => rw [recovery] at ok; cases ok
      · cases ok
  | report session nativeId generation sequence payload =>
      refine Or.inr ⟨fun ends => ends, ?_⟩
      simp only [decodeAsyncFrame] at ok
      split at ok
      · split at ok
        · cases ok
        · rename_i target _
          split at ok
          · cases ok
          · split at ok
            · split at ok
              · cases ok
              · rename_i registered result
                cases admitted : registered.admitReport world target payload sequence bytes with
                | none => rw [admitted] at ok; cases ok
                | some admittedNext =>
                    rw [admitted] at ok
                    obtain rfl := Decoded.ok.inj ok
                    exact (registerReport_rests result).trans (admitReport_rests admitted)
            · cases ok
      · cases ok
  | retired session nativeId generation lastSequence =>
      simp only [decodeAsyncFrame] at ok
      split at ok
      · split at ok
        · cases ok
        · rename_i target known
          rcases retireStreamGeneration_waiting agrees named found known ok with
            ⟨name, current, gone⟩ | ⟨other, rests⟩
          · exact Or.inl ⟨⟨name, current⟩, Or.inl gone⟩
          · exact Or.inr ⟨other, rests⟩
      · cases ok
  | success id =>
      refine Or.inr ⟨fun ends => ends, ?_⟩
      simp only [decodeAsyncFrame] at ok
      split at ok
      · cases ok
      · rename_i target _
        obtain rfl := Decoded.ok.inj ok
        exact Rests.of_tells rfl (completeCancellation_tells world
          { c with internalRequests := c.internalRequests.erase id } target)
  | error session nativeId generation error =>
      simp only [decodeAsyncFrame] at ok
      split at ok
      · split at ok
        · rename_i target code known _
          rcases receiveError_waiting named found known ok with ⟨name, ended⟩ | ⟨other, rests⟩
          · exact Or.inl ⟨name, ended⟩
          · exact Or.inr ⟨other, rests⟩
        · cases ok
      · cases ok
  | established id nativeId generation minimum maximum sdkId => cases ok
  | failure id code => cases ok

/-! ## The wait -/

theorem notifySessionFailure_rests (c : Connection P) (code : String) :
    Rests reference c (c.notifySessionFailure code) := by
  intro subscription found closing
  refine ⟨subscription, ?_, closing, rfl, rfl, rfl⟩
  change (Table.filterMap _ c.subscriptions).lookup reference = _
  rw [Table.lookup_filterMap, found, Option.bind_some, notifyOne, if_pos closing]

theorem reportAdmitted_rests (c : Connection P) (owner : Nat) (generation : String)
    (target sequence token : Nat) (admission : Admission P) :
    Rests reference c
      (c.reportAdmitted world owner generation target sequence token admission) := by
  unfold reportAdmitted
  split
  · split
    · rename_i delivery
      split
      · have posted : Rests reference c (c.tick.post (.receiver target (.report delivery))) :=
          Rests.of_same rfl
        exact posted.trans (acknowledgeReport_rests _ sequence _)
      · have ticked : Rests reference c c.tick := Rests.of_same rfl
        exact ticked.trans (overflowSubscription_rests c.tick target sequence _)
    · exact overflowSubscription_rests c target sequence _
    · exact (Rests.of_tells rfl (failNativeInput_tells c)).trans
        (notifySessionFailure_rests _ "invalid_frame")
  · exact Rests.of_same rfl

theorem reportConsumed_rests (c : Connection P) (generation : String)
    (target sequence token : Nat) :
    Rests reference c (c.reportConsumed world generation target sequence token) := by
  unfold reportConsumed
  split
  · exact acknowledgeReport_rests c sequence _
  · exact Rests.of_same rfl

theorem down_rests (c : Connection P) (monitor : Nat) :
    Rests reference c (c.down world monitor) := by
  unfold down
  split
  · exact Rests.of_same rfl
  · rename_i target _
    split
    · exact Rests.of_same rfl
    · split
      · have posted : Rests reference c
            (c.post (.receiver target (.error "owner_closed"))) := Rests.of_same rfl
        exact posted.trans (cancelSubscription_rests _ target _)
      · exact cancelSubscription_rests c target _

/-- The message is not the answer to the request. -/
def unanswered (id : String) : Input P E → Prop
  | .line _ (some frame) => (answer? frame).all (fun answer => answer.1 != id) = true
  | _ => True

instance (id : String) : (input : Input P E) → Decidable (unanswered id input)
  | .line _ (some _) => instDecidableEqBool _ true
  | .line _ none => isTrue trivial
  | .subscribe .. | .unsubscribe _ | .request _ | .reportAdmitted .. | .reportConsumed ..
  | .nativeInputFailed _ | .down _ | .flushSubscription _ | .failed _ | .closed => isTrue trivial

/-- The message is a frame that ends the stream. -/
def endsInput (subscription : Subscription P) : Input P E → Prop
  | .line _ (some frame) => endsFrame subscription frame
  | _ => False

instance (subscription : Subscription P) :
    (input : Input P E) → Decidable (endsInput subscription input)
  | .line _ (some (.retired _ nativeId generation _)) => inferInstanceAs (Decidable
      (nativeId = subscription.nativeId ∧ generation = subscription.generation))
  | .line _ (some (.error _ nativeId _ _)) =>
      inferInstanceAs (Decidable (nativeId = subscription.nativeId))
  | .line _ (some (.report ..)) | .line _ (some (.resubscribing ..))
  | .line _ (some (.resubscribed ..)) | .line _ (some (.established ..))
  | .line _ (some (.success _)) | .line _ (some (.failure ..)) | .line _ none => isFalse not_false
  | .subscribe .. | .unsubscribe _ | .request _ | .reportAdmitted .. | .reportConsumed ..
  | .nativeInputFailed _ | .down _ | .flushSubscription _ | .failed _ | .closed => isFalse not_false

/-- A request that waits for its answer goes on waiting while the requests only grow. -/
theorem Grows.awaiting {await : Await} (grows : Grows c c') (waits : c.awaiting = some await) :
    c'.awaiting = some await := by
  have kept : ∀ r : Requests, Relation.ReflTransGen Requests.Step c.requests r →
      r.awaiting = some await := by
    intro r steps
    induction steps with
    | refl => exact waits
    | tail _ step ih =>
        cases step with
        | acknowledge => exact ih
        | spend => exact ih
        | cancel => exact ih
        | call idle =>
            rw [ih] at idle
            cases idle
  exact kept c'.requests grows

/-- A line that is not the answer is an asynchronous frame. -/
theorem receiveLine_unanswered {wireError : E → Option String} {await : Await} {bytes : Nat}
    {frame : HostFrame P E} (waits : c.awaiting = some await)
    (silent : unanswered await.id (Input.line bytes (some frame) : Input P E)) :
    c.receiveLine world wireError bytes (some frame) =
      c.receiveAsync world wireError bytes frame := by
  cases answers : answer? frame with
  | none => simp only [receiveLine, waits, answers]
  | some answered =>
      have other : answered.1 ≠ await.id := by simpa [unanswered, answers] using silent
      simp only [receiveLine, waits, answers, if_neg other]

theorem decodeAsyncFrame_awaiting {wireError : E → Option String} {next : Connection P}
    {await : Await} {bytes : Nat} {frame : HostFrame P E} (waits : c.awaiting = some await)
    (ok : c.decodeAsyncFrame world wireError bytes frame = .ok next) :
    next.awaiting = some await := by
  cases event : answer? frame with
  | none => exact (decodeAsyncFrame_grows event ok).awaiting waits
  | some answered =>
      cases frame with
      | success id =>
          simp only [decodeAsyncFrame] at ok
          split at ok
          · cases ok
          · obtain rfl := Decoded.ok.inj ok
            exact (congrArg Requests.awaiting (requests_completeCancellation world _ _)).trans waits
      | established => cases ok
      | failure => cases ok
      | _ => cases event

theorem stopped_step {wireError : E → Option String} {input : Input P E}
    (goes : (c.step world wireError input).stopped = false) : c.stopped = false := by
  cases stopped : c.stopped with
  | false => rfl
  | true =>
      unfold step at goes
      rw [if_pos stopped, stopped] at goes
      cases goes

theorem receiveAsync_ok {wireError : E → Option String} {bytes : Nat} {frame : HostFrame P E}
    (goes : (c.receiveAsync world wireError bytes frame).stopped = false) :
    c.decodeAsyncFrame world wireError bytes frame =
      .ok (c.receiveAsync world wireError bytes frame) := by
  unfold receiveAsync at goes ⊢
  cases decoded : c.decodeAsyncFrame world wireError bytes frame with
  | ok next => rfl
  | error effects =>
      rw [decoded] at goes
      cases goes
  | crash effects =>
      rw [decoded] at goes
      cases goes

/-- In the wait a line is an asynchronous frame, and it was accepted if the process goes on. -/
theorem step_line {wireError : E → Option String} {await : Await} {bytes : Nat}
    {frame : Option (HostFrame P E)} (waits : c.awaiting = some await)
    (silent : unanswered await.id (Input.line bytes frame : Input P E))
    (goes : (c.step world wireError (.line bytes frame)).stopped = false) :
    ∃ event, frame = some event ∧ c.decodeAsyncFrame world wireError bytes event =
      .ok (c.step world wireError (.line bytes frame)) := by
  have running := stopped_step goes
  have taken : c.step world wireError (.line bytes frame) =
      c.receiveLine world wireError bytes frame := by
    simp only [step, running, Bool.false_eq_true, if_false]
  rw [taken] at goes ⊢
  cases frame with
  | none => cases goes
  | some event =>
      rw [receiveLine_unanswered waits silent] at goes ⊢
      exact ⟨event, rfl, receiveAsync_ok goes⟩

/-- The request stays open until its answer comes. -/
theorem step_awaiting {wireError : E → Option String} {input : Input P E} {await : Await}
    (waits : c.awaiting = some await) (silent : unanswered await.id input)
    (goes : (c.step world wireError input).stopped = false) :
    (c.step world wireError input).awaiting = some await := by
  have grown : (∀ bytes frame, input ≠ .line bytes frame) →
      (c.step world wireError input).awaiting = some await := by
    intro other
    rcases step_grows world wireError c other with stopped | grows
    · rw [stopped] at goes
      cases goes
    · exact grows.awaiting waits
  cases input with
  | line bytes frame =>
      obtain ⟨event, -, decoded⟩ := step_line waits silent goes
      exact decodeAsyncFrame_awaiting waits decoded
  | _ => exact grown (by simp)

/-- One message of the wait ends the stream or leaves it alone. -/
theorem step_waiting {wireError : E → Option String} {input : Input P E} {await : Await}
    {subscription : Subscription P} (agrees : c.book.Agrees) (named : c.book.Named)
    (waits : c.awaiting = some await) (silent : unanswered await.id input)
    (found : c.subscriptions.lookup reference = some subscription)
    (goes : (c.step world wireError input).stopped = false) :
    (endsInput subscription input ∧
        Ended reference subscription (c.step world wireError input)) ∨
      ¬ endsInput subscription input ∧ Rests reference c (c.step world wireError input) := by
  have running : ¬ c.stopped = true := by simp [stopped_step goes]
  have busy : ¬ c.awaiting.isNone = true := by simp [waits]
  cases input with
  | line bytes frame =>
      obtain ⟨event, rfl, decoded⟩ := step_line waits silent goes
      exact decodeAsyncFrame_waiting agrees named found decoded
  | subscribe =>
      refine Or.inr ⟨id, Rests.of_same ?_⟩
      simp only [step, if_neg running, if_neg busy]
  | unsubscribe =>
      refine Or.inr ⟨id, Rests.of_same ?_⟩
      simp only [step, if_neg running, if_neg busy]
  | request =>
      refine Or.inr ⟨id, Rests.of_same ?_⟩
      simp only [step, if_neg running, if_neg busy]
  | reportAdmitted =>
      refine Or.inr ⟨id, ?_⟩
      simp only [step, if_neg running]
      exact reportAdmitted_rests c _ _ _ _ _ _
  | reportConsumed =>
      refine Or.inr ⟨id, ?_⟩
      simp only [step, if_neg running]
      exact reportConsumed_rests c _ _ _ _
  | nativeInputFailed =>
      refine Or.inr ⟨id, ?_⟩
      simp only [step, if_neg running] at goes ⊢
      split at goes
      · cases goes
      · rename_i fine
        rw [if_neg fine]
        exact Rests.of_same rfl
  | down monitor =>
      refine Or.inr ⟨id, ?_⟩
      simp only [step, if_neg running]
      exact down_rests c monitor
  | flushSubscription target =>
      refine Or.inr ⟨id, ?_⟩
      simp only [step, if_neg running]
      exact flushSubscription_rests c target
  | failed code =>
      simp only [step, if_neg running] at goes
      cases goes
  | closed =>
      simp only [step, if_neg running] at goes
      cases goes

/-! ## Runs of the wait -/

/-- `WotSubscription` identifiers are drawn at random: none is drawn twice. -/
def freshId (c : Connection P) : Input P E → Prop
  | .subscribe _ nativeId _ _ _ => c.awaiting = none → ∀ reference ∈ c.subscriptions.keys,
      (c.subscriptions.lookup reference).all (fun other => other.nativeId != nativeId) = true
  | _ => True

instance (c : Connection P) : (input : Input P E) → Decidable (freshId c input)
  | .subscribe .. => inferInstanceAs (Decidable (_ = none → ∀ reference ∈ _, _ = true))
  | .unsubscribe _ | .request _ | .line .. | .reportAdmitted .. | .reportConsumed ..
  | .nativeInputFailed _ | .down _ | .flushSubscription _ | .failed _ | .closed => isTrue trivial

theorem freshId_of_waiting {await : Await} (waits : c.awaiting = some await) (input : Input P E) :
    freshId c input := by
  cases input with
  | subscribe =>
      intro idle
      rw [waits] at idle
      cases idle
  | _ => trivial

/-- What is asked of a run so that native identifiers tell subscriptions apart. -/
def distinctOnly : Rules := ⟨False, False, False, True⟩

/-- A call that cannot be taken up yet changes nothing. -/
theorem keeps_of_freshId (world : World) (wireError : E → Option String) {input : Input P E}
    (fresh : freshId c input) :
    c.step world wireError input = c ∨ Keeps distinctOnly c input := by
  cases input with
  | line bytes frame =>
      refine Or.inr ?_
      cases frame with
      | none => trivial
      | some frame =>
          cases frame with
          | resubscribed => exact fun asked => asked.elim
          | report => exact fun asked => asked.elim
          | _ => trivial
  | subscribe acknowledged nativeId queueLimit resubscribe admits =>
      by_cases idle : c.awaiting = none
      · refine Or.inr fun _ reference other found => ?_
        have here := fresh idle reference (Table.mem_keys_of_lookup found)
        simpa [found] using here
      · refine Or.inl ?_
        simp only [step, Option.isNone_iff_eq_none, idle, if_false, ite_self]
  | reportAdmitted => exact Or.inr fun asked => asked.elim
  | reportConsumed => exact Or.inr fun asked => asked.elim
  | _ => exact Or.inr trivial

theorem step_holds {wireError : E → Option String} (invariant : Book P → Prop)
    (kept : ∀ {b b'}, Book.Step distinctOnly b b' → invariant b → invariant b')
    {input : Input P E} (fresh : freshId c input) (holds : invariant c.book) :
    invariant (c.step world wireError input).book := by
  rcases keeps_of_freshId world wireError fresh with ignored | keeps
  · rw [ignored]
    exact holds
  · exact moves_keep kept (step_moves world wireError c keeps) holds

/-- The books as `freshId` keeps them. -/
structure Tidy (c : Connection P) : Prop where
  agrees : c.book.Agrees
  named : c.book.Named

theorem step_tidy {wireError : E → Option String} {input : Input P E} (fresh : freshId c input)
    (tidy : Tidy c) : Tidy (c.step world wireError input) := by
  have both : (c.step world wireError input).book.Agrees ∧
      (c.step world wireError input).book.Named :=
    step_holds (fun b => b.Agrees ∧ b.Named) (fun step held =>
      ⟨Book.step_agrees step held.1, Book.step_named trivial step held.1 held.2⟩) fresh
      ⟨tidy.agrees, tidy.named⟩
  exact ⟨both.1, both.2⟩

/-- The host has ended the stream of a subscription that was like `before`. -/
def Done (before : Subscription P) (reference : Nat) (c : Connection P) : Prop :=
  c.book.Gone reference ∨ before.nativeTerminalReceived = false ∧
    ∃ subscription, c.subscriptions.lookup reference = some subscription ∧
      subscription.status = .closing ∧ subscription.nativeTerminalReceived = true

/-- The stream of the subscription goes on, and the entry says that it is closing. -/
def Standing (before : Subscription P) (reference : Nat) (c : Connection P) : Prop :=
  ∃ subscription, c.subscriptions.lookup reference = some subscription ∧
    SameEnd before subscription

theorem endsInput_congr {before subscription : Subscription P} (same : SameEnd before subscription)
    (input : Input P E) : endsInput subscription input ↔ endsInput before input := by
  obtain ⟨-, name, generation, -⟩ := same
  simp only [endsInput, endsFrame, name, generation]

/-- A subscription that is no longer there had its reference given out. -/
theorem step_dropped {wireError : E → Option String} {input : Input P E}
    {subscription : Subscription P} (tidy : Tidy c) (fresh : freshId c input)
    (found : c.subscriptions.lookup reference = some subscription)
    (dropped : (c.step world wireError input).subscriptions.lookup reference = none) :
    (c.step world wireError input).book.Gone reference := by
  have here : reference < c.book.references := tidy.agrees.fresh reference (by
    change (c.subscriptions.lookup reference).isSome = true
    rw [found]
    rfl)
  exact ⟨step_holds (fun b => reference < b.references)
    (fun step given => given.trans_le (Book.step_references step)) fresh here, dropped⟩

/-- What one message of the wait does to a stream that goes on. -/
theorem standing_step {wireError : E → Option String} {input : Input P E} {await : Await}
    {before : Subscription P} (tidy : Tidy c) (waits : c.awaiting = some await)
    (silent : unanswered await.id input) (standing : Standing before reference c)
    (goes : (c.step world wireError input).stopped = false) :
    (endsInput before input ∧ Done before reference (c.step world wireError input)) ∨
      ¬ endsInput before input ∧ Standing before reference (c.step world wireError input) := by
  obtain ⟨subscription, found, same⟩ := standing
  rcases step_waiting tidy.agrees tidy.named waits silent found goes with
    ⟨ends, ended⟩ | ⟨goesOn, rests⟩
  · refine Or.inl ⟨(endsInput_congr same input).1 ends, ?_⟩
    rcases ended with dropped | ⟨unheard, subscription', after, closing, heard⟩
    · exact Or.inl (step_dropped tidy (freshId_of_waiting waits input) found dropped)
    · exact Or.inr ⟨same.2.2.2.symm.trans unheard, subscription', after, closing, heard⟩
  · obtain ⟨subscription', after, status, name, generation, terminal⟩ :=
      rests subscription found same.1
    exact Or.inr ⟨fun ends => goesOn ((endsInput_congr same input).2 ends), subscription', after,
      status, name.trans same.2.1, generation.trans same.2.2.1, terminal.trans same.2.2.2⟩

/-- What has ended stays so: a second error frame would end the session. -/
theorem done_step {wireError : E → Option String} {input : Input P E} {await : Await}
    {before : Subscription P} (tidy : Tidy c) (waits : c.awaiting = some await)
    (silent : unanswered await.id input) (done : Done before reference c)
    (goes : (c.step world wireError input).stopped = false) :
    Done before reference (c.step world wireError input) := by
  have fresh := freshId_of_waiting waits input
  rcases done with gone | ⟨unheard, subscription, found, closing, heard⟩
  · exact Or.inl (step_holds (fun b => b.Gone reference) Book.step_gone fresh gone)
  · rcases step_waiting tidy.agrees tidy.named waits silent found goes with
      ⟨-, dropped | ⟨again, -⟩⟩ | ⟨-, rests⟩
    · exact Or.inl (step_dropped tidy fresh found dropped)
    · rw [heard] at again
      cases again
    · obtain ⟨subscription', after, status, -, -, terminal⟩ := rests subscription found closing
      exact Or.inr ⟨unheard, subscription', after, status, terminal.trans heard⟩

theorem stopped_run {wireError : E → Option String} (inputs : List (Input P E)) :
    ∀ {c : Connection P}, (c.run world wireError inputs).stopped = false → c.stopped = false := by
  induction inputs with
  | nil => exact fun goes => goes
  | cons input rest ih => exact fun goes => stopped_step (ih goes)

/-- The books and the open request during a wait. -/
theorem run_awaiting {wireError : E → Option String} {await : Await} (wait : List (Input P E)) :
    ∀ {c : Connection P}, c.awaiting = some await →
      (∀ input ∈ wait, unanswered await.id input) →
      (c.run world wireError wait).stopped = false →
      (c.run world wireError wait).awaiting = some await := by
  induction wait with
  | nil => exact fun waits _ _ => waits
  | cons input rest ih =>
      intro c waits silent goes
      have still := step_awaiting waits (silent input List.mem_cons_self) (stopped_run rest goes)
      exact ih still (fun other member => silent other (List.mem_cons_of_mem _ member)) goes

theorem run_done {wireError : E → Option String} {await : Await} {before : Subscription P}
    (wait : List (Input P E)) : ∀ {c : Connection P}, Tidy c → c.awaiting = some await →
      (∀ input ∈ wait, unanswered await.id input) → Done before reference c →
      (c.run world wireError wait).stopped = false →
      Done before reference (c.run world wireError wait) := by
  induction wait with
  | nil => exact fun _ _ _ done _ => done
  | cons input rest ih =>
      intro c tidy waits silent done goes
      have here := silent input List.mem_cons_self
      have alive := stopped_run rest goes
      exact ih (step_tidy (freshId_of_waiting waits input) tidy) (step_awaiting waits here alive)
        (fun other member => silent other (List.mem_cons_of_mem _ member))
        (done_step tidy waits here done alive) goes

/-- The stream of a waiting `unsubscribe` is ended exactly if one of the messages ends it. -/
theorem run_waiting {wireError : E → Option String} {await : Await} {before : Subscription P}
    (wait : List (Input P E)) : ∀ {c : Connection P}, Tidy c → c.awaiting = some await →
      (∀ input ∈ wait, unanswered await.id input) → Standing before reference c →
      (c.run world wireError wait).stopped = false →
      ((∃ input ∈ wait, endsInput before input) ∧
          Done before reference (c.run world wireError wait)) ∨
        ¬ (∃ input ∈ wait, endsInput before input) ∧
          Standing before reference (c.run world wireError wait) := by
  induction wait with
  | nil => exact fun _ _ _ standing _ => Or.inr ⟨by simp, standing⟩
  | cons input rest ih =>
      intro c tidy waits silent standing goes
      have here := silent input List.mem_cons_self
      have alive := stopped_run rest goes
      have tidy' : Tidy (c.step world wireError input) :=
        step_tidy (freshId_of_waiting waits input) tidy
      have waits' := step_awaiting waits here alive
      have later : ∀ other ∈ rest, unanswered await.id other := fun other member =>
        silent other (List.mem_cons_of_mem _ member)
      rcases standing_step tidy waits here standing alive with ⟨ends, done⟩ | ⟨goesOn, stands⟩
      · exact Or.inl ⟨⟨input, List.mem_cons_self, ends⟩, run_done rest tidy' waits' later done goes⟩
      · refine (ih tidy' waits' later stands goes).imp (fun ended => ?_) (fun not => ?_)
        · obtain ⟨⟨other, member, ends⟩, done⟩ := ended
          exact ⟨⟨other, List.mem_cons_of_mem _ member, ends⟩, done⟩
        · refine ⟨?_, not.2⟩
          rintro ⟨other, member, ends⟩
          rcases List.mem_cons.1 member with rfl | member
          · exact goesOn ends
          · exact not.1 ⟨other, member, ends⟩

/-! ## The refusal -/

theorem tidy_initial (generation : String) : Tidy ({ generation } : Connection P) where
  agrees := (sound_initial generation).agrees
  named :=
    { key := fun _ _ known => by cases known
      current := fun _ _ found => by cases found
      distinct := fun _ _ _ _ found => by cases found }

theorem run_tidy {wireError : E → Option String} (inputs : List (Input P E)) :
    ∀ {c : Connection P}, Always world wireError freshId c inputs → Tidy c →
      Tidy (c.run world wireError inputs) := by
  induction inputs with
  | nil => exact fun _ tidy => tidy
  | cons input rest ih => exact fun fresh tidy => ih fresh.2 (step_tidy fresh.1 tidy)

/-- The call marks the subscription as closing, and the mark stands while it waits. -/
theorem unsubscribe_standing {wireError : E → Option String} {subscription : Subscription P}
    (found : c.subscriptions.lookup reference = some subscription)
    (live : subscription.status ≠ .closing) (idle : c.awaiting = none)
    (goes : (c.step world wireError (.unsubscribe reference : Input P E)).stopped = false) :
    Standing subscription reference
      (c.step world wireError (.unsubscribe reference : Input P E)) := by
  have running : ¬ c.stopped = true := by simp [stopped_step goes]
  have taken : c.step world wireError (.unsubscribe reference : Input P E) =
      (c.markClosing reference "cancelled").requestFrame world
        (.unsubscribe · subscription.nativeId subscription.generation)
        (.unsubscribe · reference) := by
    simp only [step, if_neg running, idle, Option.isNone_none, if_true, unsubscribe, found,
      if_neg live]
  rw [taken] at goes ⊢
  have marked : (c.markClosing reference "cancelled").subscriptions.lookup reference =
      some { subscription with status := .closing, closeResult := "cancelled" } :=
    update_lookup found _
  refine ⟨{ subscription with status := .closing, closeResult := "cancelled" }, ?_,
    rfl, rfl, rfl, rfl⟩
  unfold requestFrame at goes ⊢
  cases request : (c.markClosing reference "cancelled").takeRequestId with
  | none =>
      rw [request] at goes
      cases goes
  | some taken =>
      obtain ⟨id, next⟩ := taken
      rw [request] at goes
      dsimp only at goes ⊢
      split at goes
      · rename_i sent
        rw [if_pos sent]
        obtain ⟨messages, -, told⟩ := (takeRequestId_tells request).trans
          (Book.Tells.of_eq (book_sendFrame world next
            (.unsubscribe id subscription.nativeId subscription.generation)))
        have table : (next.sendFrame world (.unsubscribe id subscription.nativeId
            subscription.generation)).2.subscriptions =
            (c.markClosing reference "cancelled").subscriptions :=
          congrArg Book.subscriptions told
        change (next.sendFrame world _).2.subscriptions.lookup reference = _
        rw [table]
        exact marked
      · cases goes

/-- The subscription is as the caller of a refused `unsubscribe` can expect: it has been retired,
its status is the one of before, or a frame of the host has made its end final meanwhile. -/
def Usable (before : Subscription P) (reference : Nat) (c : Connection P) : Prop :=
  c.subscriptions.lookup reference = none ∨
    ∃ subscription, c.subscriptions.lookup reference = some subscription ∧
      (subscription.status = before.status ∨
        before.nativeTerminalReceived = false ∧ subscription.nativeTerminalReceived = true)

theorem usable_of_done {before : Subscription P} (done : Done before reference c) :
    Usable before reference c := by
  rcases done with gone | ⟨unheard, subscription, found, -, heard⟩
  · exact Or.inl gone.2
  · exact Or.inr ⟨subscription, found, Or.inr ⟨unheard, heard⟩⟩

theorem not_usable_of_standing {before : Subscription P} (live : before.status ≠ .closing)
    (standing : Standing before reference c) : ¬ Usable before reference c := by
  obtain ⟨subscription, found, closing, -, -, terminal⟩ := standing
  rintro (gone | ⟨other, present, restored | ⟨unheard, heard⟩⟩)
  · rw [gone] at found
    cases found
  · rw [found] at present
    obtain rfl := Option.some.inj present
    exact live (restored.symm.trans closing)
  · rw [found] at present
    obtain rfl := Option.some.inj present
    rw [terminal, unheard] at heard
    cases heard

/-- The refusal gives the error to the caller and leaves the subscriptions as they are. -/
theorem refusal_subscriptions {wireError : E → Option String} {id code : String} {bytes : Nat}
    (waits : c.awaiting = some (.unsubscribe id reference))
    (goes : (c.step world wireError (.line bytes (some (.failure id code)) : Input P E)).stopped =
      false) :
    (c.step world wireError (.line bytes (some (.failure id code)) : Input P E)).subscriptions =
      c.subscriptions := by
  have running : ¬ c.stopped = true := by simp [stopped_step goes]
  have taken : c.step world wireError (.line bytes (some (.failure id code)) : Input P E) =
      c.requestFailed code := by
    simp only [step, if_neg running, receiveLine, waits, answer?, Await.id, if_true, answered]
  rw [taken] at goes ⊢
  unfold requestFailed at goes ⊢
  split at goes
  · cases goes
  · rename_i fine
    rw [if_neg fine]
    change c.dropAwaited.subscriptions = c.subscriptions
    unfold dropAwaited
    rw [waits]

/-- **A refused `unsubscribe`.**  In every state that the process reaches, for every active or
recovering subscription and whatever is received while the call waits: if the host answers with
an error and the session goes on, the subscription is left usable exactly if the host itself
ended the stream during the wait. -/
theorem refused_usable_iff (world : World) (wireError : E → Option String) (generation : String)
    (inputs : List (Input P E)) (fresh : Always world wireError freshId { generation } inputs)
    {reference : Nat} {subscription : Subscription P}
    (found : (run world wireError { generation } inputs).subscriptions.lookup reference =
      some subscription)
    (live : subscription.status = .active ∨ subscription.status = .recovering)
    (idle : (run world wireError { generation } inputs).awaiting = none)
    {id : String}
    (waits : (run world wireError { generation } (inputs ++ [.unsubscribe reference])).awaiting =
      some (.unsubscribe id reference))
    (wait : List (Input P E)) (silent : ∀ input ∈ wait, unanswered id input)
    (bytes : Nat) (code : String)
    (goes : (run world wireError { generation } (inputs ++ [.unsubscribe reference] ++ wait ++
      [.line bytes (some (.failure id code))])).stopped = false) :
    Usable subscription reference (run world wireError { generation }
        (inputs ++ [.unsubscribe reference] ++ wait ++ [.line bytes (some (.failure id code))])) ↔
      ∃ input ∈ wait, endsInput subscription input := by
  have open' : subscription.status ≠ .closing := by
    rcases live with active | recovering
    · simp [active]
    · simp [recovering]
  simp only [run, List.foldl_append, List.foldl_cons, List.foldl_nil] at waits goes ⊢
  have tidy : Tidy (run world wireError { generation } inputs) :=
    run_tidy inputs fresh (tidy_initial generation)
  have tidy' : Tidy ((run world wireError { generation } inputs).step world wireError
      (.unsubscribe reference)) := step_tidy trivial tidy
  have asked := stopped_run wait (stopped_step goes)
  have standing := unsubscribe_standing found open' idle asked
  have still := run_awaiting wait waits silent (stopped_step goes)
  have table := refusal_subscriptions still goes
  have same : ∀ c c' : Connection P, c'.subscriptions = c.subscriptions →
      (Usable subscription reference c' ↔ Usable subscription reference c) := by
    intro c c' same
    unfold Usable
    rw [same]
  refine (same _ _ table).trans ?_
  rcases run_waiting wait tidy' waits silent standing (stopped_step goes) with
    ⟨ends, done⟩ | ⟨goesOn, stands⟩
  · exact ⟨fun _ => ends, fun _ => usable_of_done done⟩
  · exact ⟨fun usable => absurd usable (not_usable_of_standing open' stands), fun ends =>
      absurd ends goesOn⟩

/-- An active subscription without reports. -/
def activeInputs : List (Input Unit Unit) :=
  [.subscribe true "s" 8 true (fun _ => true),
    .line 96 (some (.established "2" "s" 1 0 60 7)),
    .flushSubscription 0]

def activeSubscription : Subscription Unit :=
  { nativeId := "s", acknowledged := true, monitor := 1, queueLimit := 8, resubscribe := true,
    status := .active }

theorem lookup_activeInputs :
    (run (crowded 0) (fun _ => none) { generation := "g" } activeInputs).subscriptions.lookup 0 =
      some activeSubscription := rfl

/-- The barrier comes before the refusal. -/
theorem refused_usable_retired :
    Usable activeSubscription 0 (run (crowded 0) (fun _ => none) { generation := "g" }
      (activeInputs ++ [.unsubscribe 0] ++ [.line 96 (some (.retired "g" "s" 1 0))] ++
        [.line 64 (some (.failure "3" "invalid_subscription"))])) :=
  (refused_usable_iff (crowded 0) (fun _ => none) "g" activeInputs (by decide +kernel)
    lookup_activeInputs (Or.inl rfl) rfl rfl [.line 96 (some (.retired "g" "s" 1 0))]
    (by decide +kernel) 64 "invalid_subscription" rfl).2 ⟨_, List.mem_cons_self, rfl, rfl⟩

/-- The host is busy: the session goes on, and the subscription is left closing. -/
theorem refused_unusable_busy :
    (run (crowded 0) (fun _ => none) { generation := "g" } (activeInputs ++ [.unsubscribe 0] ++
      [.line 64 (some (.failure "3" "subscription_busy"))])).stopped = false ∧
      ¬ Usable activeSubscription 0 (run (crowded 0) (fun _ => none) { generation := "g" }
        (activeInputs ++ [.unsubscribe 0] ++
          [.line 64 (some (.failure "3" "subscription_busy"))])) := by
  refine ⟨rfl, ?_⟩
  rintro (gone | ⟨other, present, restored | ⟨-, heard⟩⟩)
  · cases gone
  · obtain rfl := Option.some.inj present
    cases restored
  · obtain rfl := Option.some.inj present
    cases heard

end Connection

end WotexMatter.Beam
