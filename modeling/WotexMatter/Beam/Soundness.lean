/-
# WotexMatter.Beam.Soundness -- the books agree, so no asserted match fails

The source reads its books with `Map.fetch!` and with matches on `{:ok, ledger}`.  They
hold because the four maps agree: `Sound` says how.  The ledger knows exactly the
current and the retiring generation of every subscription, each at the last sequence
the subscription records; both indexes lead to subscriptions; and what waits in the
buffer of a subscription that may be flushed is pending and not consumed.

The last clause is the one that the source breaks: a recovery that ends before the
flush of the buffer has retired the generation of the reports that wait there, and the
flush then asks the ledger for a report that is gone.
-/
import WotexMatter.Beam.EnvelopeOrder

set_option autoImplicit false
set_option linter.unusedSectionVars false

namespace WotexMatter.Beam

open WotexMatter.Theory WotexMatter.Native

namespace ReportLedger

variable {K R : Type} [DecidableEq K] [DecidableEq R] {ledger ledger' : ReportLedger K R}

/-! ## What an acknowledgement leaves pending -/

theorem consumeFrom_pending (rounds : Nat) :
    ∀ (sequence bytes : Nat) (pending : Table Nat (Report K R)) (n : Nat),
      ((consumeFrom rounds sequence bytes pending).2.2.lookup n = pending.lookup n) ∨
      ((consumeFrom rounds sequence bytes pending).2.2.lookup n = none ∧
        ∃ report, pending.lookup n = some report ∧ report.consumed = true) := by
  induction rounds with
  | zero => exact fun _ _ _ _ => Or.inl rfl
  | succ rounds ih =>
      intro sequence bytes pending n
      rw [consumeFrom]
      split
      · rename_i report found
        obtain ⟨member, consumed⟩ := Option.filter_eq_some_iff.1 found
        rcases ih (sequence + 1) (bytes + report.bytes) (pending.erase sequence) n with
          same | ⟨gone, other, there, marked⟩
        · rw [same, Table.lookup_erase]
          split
          · rename_i here
            exact Or.inr ⟨rfl, report, here ▸ member, consumed⟩
          · exact Or.inl rfl
        · rw [Table.lookup_erase] at there
          split at there
          · cases there
          · exact Or.inr ⟨gone, other, there, marked⟩
      · exact Or.inl rfl

theorem advance_pending (ledger : ReportLedger K R) (n : Nat) :
    (ledger.advance.2.pending.lookup n = ledger.pending.lookup n) ∨
    (ledger.advance.2.pending.lookup n = none ∧
      ∃ report, ledger.pending.lookup n = some report ∧ report.consumed = true) := by
  simp only [advance]
  split
  · exact Or.inl rfl
  · exact consumeFrom_pending _ _ _ ledger.pending n

@[simp] theorem advance_streams (ledger : ReportLedger K R) :
    ledger.advance.2.streams = ledger.streams := by
  simp only [advance]
  split <;> rfl

theorem Settles.streams (settles : ledger.Settles ledger') : ledger'.streams = ledger.streams := by
  rcases settles with rfl | rfl
  · rfl
  · simp

theorem Settles.pending (settles : ledger.Settles ledger') (n : Nat) :
    (ledger'.pending.lookup n = ledger.pending.lookup n) ∨
    (ledger'.pending.lookup n = none ∧
      ∃ report, ledger.pending.lookup n = some report ∧ report.consumed = true) := by
  rcases settles with rfl | rfl
  · exact Or.inl rfl
  · exact advance_pending ledger n

/-- A report that is still pending is the one it was, perhaps consumed by now. -/
def Marks (ledger ledger' : ReportLedger K R) : Prop :=
  ∀ n report', ledger'.pending.lookup n = some report' →
    ∃ report, ledger.pending.lookup n = some report ∧ report.stream = report'.stream

theorem Settles.marks (settles : ledger.Settles ledger') : Marks ledger ledger' := by
  intro n report' found
  rcases settles.pending n with same | ⟨gone, -⟩
  · exact ⟨report', same ▸ found, rfl⟩
  · rw [gone] at found
    cases found

theorem Marks.trans {ledger'' : ReportLedger K R} (first : Marks ledger ledger')
    (second : Marks ledger' ledger'') : Marks ledger ledger'' := by
  intro n report' found
  obtain ⟨middle, there, same⟩ := second n report' found
  obtain ⟨report, here, earlier⟩ := first n middle there
  exact ⟨report, here, earlier.trans same⟩

/-- The report with this sequence is pending and has not been consumed. -/
def Holds (ledger : ReportLedger K R) (n : Nat) : Prop :=
  ∃ report, ledger.pending.lookup n = some report ∧ report.consumed = false

theorem Settles.holds (settles : ledger.Settles ledger') {n : Nat} (held : ledger.Holds n) :
    ledger'.Holds n := by
  obtain ⟨report, found, fresh⟩ := held
  rcases settles.pending n with same | ⟨-, other, there, marked⟩
  · exact ⟨report, same.trans found, fresh⟩
  · rw [found] at there
    obtain rfl := Option.some.inj there
    rw [fresh] at marked
    cases marked

theorem consume_pending {stream : K} {sequence : Nat} {token : R}
    (result : ledger.consume stream sequence token = some ledger') :
    ∃ report, ledger.pending.lookup sequence = some report ∧ ledger' = { ledger with
      pending := ledger.pending.insert sequence { report with consumed := true } } := by
  unfold consume at result
  split at result
  · rename_i report found
    split at result
    · exact ⟨report, found, (Option.some.inj result).symm⟩
    · cases result
  · cases result

theorem Acknowledges.streams {sequence : Nat} (acknowledges : ledger.Acknowledges sequence ledger') :
    ledger'.streams = ledger.streams := by
  rcases acknowledges with rfl | ⟨report, consumed, -, consumes, settles⟩
  · rfl
  · rw [settles.streams, consume_streams consumes]

theorem Acknowledges.marks {sequence : Nat} (acknowledges : ledger.Acknowledges sequence ledger') :
    Marks ledger ledger' := by
  rcases acknowledges with rfl | ⟨report, consumed, -, consumes, settles⟩
  · exact fun _ report' found => ⟨report', found, rfl⟩
  · refine Marks.trans ?_ settles.marks
    obtain ⟨report, found, rfl⟩ := consume_pending consumes
    intro n report' there
    dsimp only at there
    rw [Table.lookup_insert] at there
    split at there
    · rename_i here
      obtain rfl := Option.some.inj there
      exact ⟨report, here ▸ found, rfl⟩
    · exact ⟨report', there, rfl⟩

/-- Only the acknowledged report is consumed. -/
theorem Acknowledges.holds {sequence : Nat} (acknowledges : ledger.Acknowledges sequence ledger')
    {n : Nat} (held : ledger.Holds n) (other : n ≠ sequence) : ledger'.Holds n := by
  rcases acknowledges with rfl | ⟨report, consumed, -, consumes, settles⟩
  · exact held
  · refine settles.holds ?_
    obtain ⟨report, -, rfl⟩ := consume_pending consumes
    obtain ⟨held, found, fresh⟩ := held
    refine ⟨held, ?_, fresh⟩
    dsimp only
    rw [Table.lookup_insert, if_neg other]
    exact found

theorem retire_eq {stream : K} {last : Nat} (result : ledger.retire stream last = some ledger') :
    ledger' = { ledger with
      pending := Table.filterMap (fun _ report => some (discard stream report)) ledger.pending
      streams := ledger.streams.erase stream } := by
  unfold retire at result
  split at result
  · exact (Option.some.inj result).symm
  · cases result

theorem retire_marks {stream : K} {last : Nat}
    (result : ledger.retire stream last = some ledger') : Marks ledger ledger' := by
  rw [retire_eq result]
  intro n report' found
  dsimp only at found
  rw [Table.lookup_filterMap] at found
  obtain ⟨report, there, same⟩ := Option.bind_eq_some_iff.1 found
  obtain rfl := Option.some.inj same
  refine ⟨report, there, ?_⟩
  unfold discard
  split <;> rfl

/-- Retiring a stream leaves the reports of the others. -/
theorem retire_holds {stream : K} {last : Nat} (result : ledger.retire stream last = some ledger')
    {n : Nat} (held : ledger.Holds n)
    (other : ∀ report, ledger.pending.lookup n = some report → report.stream ≠ stream) :
    ledger'.Holds n := by
  obtain ⟨report, found, fresh⟩ := held
  rw [retire_eq result]
  refine ⟨report, ?_, fresh⟩
  dsimp only
  rw [Table.lookup_filterMap, found, Option.bind_some]
  unfold discard
  rw [if_neg (other report found)]

theorem openStream_eq {stream : K} (result : ledger.openStream stream = some ledger') :
    ledger' = { ledger with streams := ledger.streams.insert stream 0 } := by
  unfold openStream at result
  split at result
  · exact (Option.some.inj result).symm
  · cases result

end ReportLedger

/-- A subscription whose buffer a flush may still empty. -/
def Flushable {P : Type} (subscription : Subscription P) : Prop :=
  subscription.status = .establishing ∨ subscription.status = .active

namespace Book

variable {P : Type} {rules : Rules} {b b' : Book P}

/-! ## The four maps -/

/-- The ledger knows the current and the retiring generation of every subscription and
nothing else, and both indexes lead to subscriptions. -/
structure Agrees (b : Book P) : Prop where
  few : Table.size b.subscriptions ≤ 64
  indexed : ∀ key reference, b.ids.lookup key = some reference →
    (b.subscriptions.lookup reference).isSome
  watched : ∀ monitor reference, b.monitors.lookup monitor = some reference →
    ∃ subscription, b.subscriptions.lookup reference = some subscription ∧
      (monitor = subscription.monitor ∨ subscription.streamMonitor = some monitor)
  current : ∀ reference subscription, b.subscriptions.lookup reference = some subscription →
    b.ledger.streams.lookup (reference, subscription.generation) =
      some subscription.lastReportSequence
  retiring : ∀ reference subscription generation,
    b.subscriptions.lookup reference = some subscription →
    subscription.retiringGeneration = some generation →
    generation < subscription.generation ∧
      ∃ last, subscription.retiringLastReportSequence = some last ∧
        b.ledger.streams.lookup (reference, generation) = some last
  known : ∀ reference generation, (b.ledger.streams.lookup (reference, generation)).isSome →
    ∃ subscription, b.subscriptions.lookup reference = some subscription ∧
      (generation = subscription.generation ∨ subscription.retiringGeneration = some generation)
  fresh : ∀ reference, (b.subscriptions.lookup reference).isSome → reference < b.references

/-- The fields that `Agrees` reads. -/
def SameAccount (subscription changed : Subscription P) : Prop :=
  changed.generation = subscription.generation ∧
    changed.lastReportSequence = subscription.lastReportSequence ∧
    changed.retiringGeneration = subscription.retiringGeneration ∧
    changed.retiringLastReportSequence = subscription.retiringLastReportSequence ∧
    changed.monitor = subscription.monitor ∧ changed.streamMonitor = subscription.streamMonitor

theorem SameAccount.refl (subscription : Subscription P) : SameAccount subscription subscription :=
  ⟨rfl, rfl, rfl, rfl, rfl, rfl⟩

theorem sameAccount_closes {subscription closed : Subscription P}
    (closes : Closes subscription closed) : SameAccount subscription closed := by
  rw [closes]
  exact SameAccount.refl subscription

/-- The subscriptions are those of before, with other statuses, buffers and results. -/
theorem Agrees.of_sameAccount (agrees : Agrees b)
    (changed : ∀ reference, b'.subscriptions.lookup reference = none ∧
        b.subscriptions.lookup reference = none ∨
      ∃ subscription subscription', b.subscriptions.lookup reference = some subscription ∧
        b'.subscriptions.lookup reference = some subscription' ∧
        SameAccount subscription subscription')
    (ids : b'.ids = b.ids) (monitors : b'.monitors = b.monitors)
    (streams : b'.ledger.streams = b.ledger.streams) (references : b'.references = b.references) :
    Agrees b' := by
  have back : ∀ reference subscription', b'.subscriptions.lookup reference = some subscription' →
      ∃ subscription, b.subscriptions.lookup reference = some subscription ∧
        SameAccount subscription subscription' := by
    intro reference subscription' found
    rcases changed reference with ⟨gone, -⟩ | ⟨subscription, other, before, after, same⟩
    · rw [gone] at found
      cases found
    · rw [after] at found
      obtain rfl := Option.some.inj found
      exact ⟨subscription, before, same⟩
  have forth : ∀ reference subscription, b.subscriptions.lookup reference = some subscription →
      ∃ subscription', b'.subscriptions.lookup reference = some subscription' ∧
        SameAccount subscription subscription' := by
    intro reference subscription found
    rcases changed reference with ⟨-, gone⟩ | ⟨other, subscription', before, after, same⟩
    · rw [gone] at found
      cases found
    · rw [before] at found
      obtain rfl := Option.some.inj found
      exact ⟨subscription', after, same⟩
  have sameKeys : b'.subscriptions.keys = b.subscriptions.keys := by
    ext reference
    rw [Table.mem_keys_iff, Table.mem_keys_iff]
    rcases changed reference with ⟨gone, before⟩ | ⟨subscription, other, before, after, same⟩
    · rw [gone, before]
    · rw [before, after]
      rfl
  exact
    { few := by
        unfold Table.size
        rw [sameKeys]
        exact agrees.few
      indexed := by
        intro key reference found
        rw [ids] at found
        obtain ⟨subscription, before⟩ := Option.isSome_iff_exists.1
          (agrees.indexed key reference found)
        obtain ⟨subscription', after, -⟩ := forth reference subscription before
        rw [after]
        rfl
      watched := by
        intro monitor reference found
        rw [monitors] at found
        obtain ⟨subscription, before, whose⟩ := agrees.watched monitor reference found
        obtain ⟨subscription', after, -, -, -, -, sameMonitor, sameStream⟩ :=
          forth reference subscription before
        exact ⟨subscription', after, by rw [sameMonitor, sameStream]; exact whose⟩
      current := by
        intro reference subscription' found
        obtain ⟨subscription, before, generation, last, -⟩ := back reference subscription' found
        rw [streams, generation, last]
        exact agrees.current reference subscription before
      retiring := by
        intro reference subscription' generation found here
        obtain ⟨subscription, before, current, -, sameRetiring, sameLast, -⟩ :=
          back reference subscription' found
        rw [sameRetiring] at here
        rw [streams, current, sameLast]
        exact agrees.retiring reference subscription generation before here
      known := by
        intro reference generation here
        rw [streams] at here
        obtain ⟨subscription, before, which⟩ := agrees.known reference generation here
        obtain ⟨subscription', after, current, -, sameRetiring, -⟩ :=
          forth reference subscription before
        exact ⟨subscription', after, by rw [current, sameRetiring]; exact which⟩
      fresh := by
        intro reference here
        rw [references]
        obtain ⟨subscription', found⟩ := Option.isSome_iff_exists.1 here
        obtain ⟨subscription, before, -⟩ := back reference subscription' found
        exact agrees.fresh reference (by rw [before]; rfl) }

/-- Writing one subscription with the same account. -/
theorem Agrees.write (agrees : Agrees b) {reference : Nat}
    {subscription changed : Subscription P}
    (found : b.subscriptions.lookup reference = some subscription)
    (same : SameAccount subscription changed) {ledger : ReportLedger (Nat × Nat) Nat}
    (streams : ledger.streams = b.ledger.streams) (sent : List (Message P)) :
    Agrees { b.write reference changed with ledger, sent } := by
  refine agrees.of_sameAccount ?_ rfl rfl streams rfl
  intro other
  change (b.subscriptions.insert reference changed).lookup other = none ∧ _ ∨ _
  by_cases here : other = reference
  · subst here
    exact Or.inr ⟨subscription, changed, found, Table.lookup_insert_self _ _ _, same⟩
  · have kept : (b.subscriptions.insert reference changed).lookup other =
        b.subscriptions.lookup other := by
      rw [Table.lookup_insert, if_neg here]
    cases before : b.subscriptions.lookup other with
    | none => exact Or.inl ⟨kept.trans before, rfl⟩
    | some subscription =>
        exact Or.inr ⟨subscription, subscription, rfl, kept.trans before,
          SameAccount.refl subscription⟩

theorem isSome_insert {K V : Type} [DecidableEq K] {table : Table K V} {key other : K} (value : V)
    (present : (table.lookup other).isSome) : ((table.insert key value).lookup other).isSome := by
  rw [Table.lookup_insert]
  split
  · rfl
  · exact present

/-- A registered report moves the last sequence of the current stream, in the ledger and in
the subscription. -/
theorem Agrees.registered (agrees : Agrees b) {reference sequence bytes token : Nat}
    {subscription changed : Subscription P} {ledger : ReportLedger (Nat × Nat) Nat}
    (found : b.subscriptions.lookup reference = some subscription)
    (same : SameAccount { subscription with lastReportSequence := sequence } changed)
    (registers : b.ledger.register (reference, subscription.generation) sequence bytes token =
      some ledger) (sent : List (Message P)) :
    Agrees { b.registered reference changed ledger with sent } := by
  obtain ⟨generation, last, sameRetiring, sameLast, sameMonitor, sameStream⟩ := same
  dsimp only at generation last sameRetiring sameLast sameMonitor sameStream
  obtain ⟨rfl, -, -⟩ := Connection.register_pending registers
  have entry : ∀ other subscription', (b.subscriptions.insert reference changed).lookup other =
      some subscription' → other = reference ∧ subscription' = changed ∨
        other ≠ reference ∧ b.subscriptions.lookup other = some subscription' := by
    intro other subscription' present
    rw [Table.lookup_insert] at present
    split at present
    · rename_i here
      exact Or.inl ⟨here, (Option.some.inj present).symm⟩
    · rename_i elsewhere
      exact Or.inr ⟨elsewhere, present⟩
  exact
    { few := (Table.size_insert_of_lookup found).trans_le agrees.few
      indexed := fun key owner known => isSome_insert changed (agrees.indexed key owner known)
      watched := by
        intro monitor owner known
        obtain ⟨whose, before, which⟩ := agrees.watched monitor owner known
        change ∃ subscription', (b.subscriptions.insert reference changed).lookup owner = _ ∧ _
        rw [Table.lookup_insert]
        split
        · rename_i here
          subst here
          rw [found] at before
          obtain rfl := Option.some.inj before
          exact ⟨changed, rfl, by rw [sameMonitor, sameStream]; exact which⟩
        · exact ⟨whose, before, which⟩
      current := by
        intro other subscription' present
        change (b.ledger.streams.insert _ sequence).lookup _ = _
        rw [Table.lookup_insert]
        rcases entry other subscription' present with ⟨rfl, rfl⟩ | ⟨elsewhere, before⟩
        · rw [generation, if_pos rfl, last]
        · rw [if_neg (fun same => elsewhere (congrArg Prod.fst same))]
          exact agrees.current other subscription' before
      retiring := by
        intro other subscription' retiring present here
        change _ ∧ ∃ last, _ ∧ (b.ledger.streams.insert _ sequence).lookup _ = _
        rcases entry other subscription' present with ⟨rfl, rfl⟩ | ⟨elsewhere, before⟩
        · rw [sameRetiring] at here
          rw [generation, sameLast]
          obtain ⟨earlier, last, sameLast, stands⟩ :=
            agrees.retiring other subscription retiring found here
          refine ⟨earlier, last, sameLast, ?_⟩
          rw [Table.lookup_insert, if_neg (fun same => earlier.ne (congrArg Prod.snd same))]
          exact stands
        · obtain ⟨earlier, last, sameLast, stands⟩ :=
            agrees.retiring other subscription' retiring before here
          refine ⟨earlier, last, sameLast, ?_⟩
          rw [Table.lookup_insert, if_neg (fun same => elsewhere (congrArg Prod.fst same))]
          exact stands
      known := by
        intro other which here
        change ((b.ledger.streams.insert _ sequence).lookup _).isSome = true at here
        change ∃ subscription', (b.subscriptions.insert reference changed).lookup other = _ ∧ _
        by_cases same : other = reference
        · subst same
          refine ⟨changed, Table.lookup_insert_self _ _ _, ?_⟩
          rw [generation, sameRetiring]
          rw [Table.lookup_insert] at here
          split at here
          · rename_i current
            exact Or.inl (congrArg Prod.snd current)
          · obtain ⟨subscription', before, possible⟩ := agrees.known other which here
            rw [found] at before
            obtain rfl := Option.some.inj before
            exact possible
        · rw [Table.lookup_insert, if_neg (fun equal => same (congrArg Prod.fst equal))] at here
          obtain ⟨subscription', before, possible⟩ := agrees.known other which here
          exact ⟨subscription', by rw [Table.lookup_insert, if_neg same]; exact before, possible⟩
      fresh := by
        intro other present
        refine Nat.lt_succ_of_lt ?_
        obtain ⟨subscription', there⟩ := Option.isSome_iff_exists.1 present
        rcases entry other subscription' there with ⟨rfl, -⟩ | ⟨-, before⟩
        · exact agrees.fresh other (by rw [found]; rfl)
        · exact agrees.fresh other (by rw [before]; rfl) }

/-- Dropping a subscription drops its streams and everything that leads to it. -/
theorem Agrees.dropped (agrees : Agrees b) {reference : Nat} {subscription : Subscription P}
    {ledger : ReportLedger (Nat × Nat) Nat}
    (found : b.subscriptions.lookup reference = some subscription)
    (streams : ∀ key : Nat × Nat, key.1 ≠ reference →
      ledger.streams.lookup key = b.ledger.streams.lookup key) :
    Agrees (Book.dropped { b with ledger } reference subscription) := by
  have entry : ∀ other subscription', (b.subscriptions.erase reference).lookup other =
      some subscription' →
        other ≠ reference ∧ b.subscriptions.lookup other = some subscription' := by
    intro other subscription' present
    rw [Table.lookup_erase] at present
    split at present
    · cases present
    · rename_i elsewhere
      exact ⟨elsewhere, present⟩
  have kept : ∀ other, other ≠ reference →
      (b.subscriptions.erase reference).lookup other = b.subscriptions.lookup other := by
    intro other elsewhere
    rw [Table.lookup_erase, if_neg elsewhere]
  have stream : ∀ key : Nat × Nat, (Connection.retireStreams ledger reference).streams.lookup key =
      if key.1 = reference then none else b.ledger.streams.lookup key := by
    intro key
    simp only [Connection.retireStreams, Table.lookup_filterMap]
    by_cases here : key.1 = reference
    · rw [if_pos here]
      cases ledger.streams.lookup key <;> simp [here]
    · rw [if_neg here, streams key here]
      cases b.ledger.streams.lookup key <;> simp [here]
  exact
    { few := (Table.size_erase_le _ _).trans agrees.few
      indexed := by
        intro key owner known
        change (Table.filterMap _ b.ids).lookup key = _ at known
        rw [Table.lookup_filterMap] at known
        obtain ⟨before, there, same⟩ := Option.bind_eq_some_iff.1 known
        split at same
        · cases same
        · rename_i elsewhere
          obtain rfl := Option.some.inj same
          change ((b.subscriptions.erase reference).lookup before).isSome = true
          rw [kept before elsewhere]
          exact agrees.indexed key before there
      watched := by
        intro monitor owner known
        have before : b.monitors.lookup monitor = some owner ∧ monitor ≠ subscription.monitor ∧
            subscription.streamMonitor ≠ some monitor := by
          change (Connection.dropStreamMonitor (b.monitors.erase subscription.monitor)
            subscription.streamMonitor).lookup monitor = _ at known
          unfold Connection.dropStreamMonitor at known
          split at known
          · rename_i streamMonitor watching
            rw [Table.lookup_erase] at known
            split at known
            · cases known
            · rename_i other
              rw [Table.lookup_erase] at known
              split at known
              · cases known
              · rename_i elsewhere
                rw [watching]
                exact ⟨known, elsewhere, fun same => other (Option.some.inj same).symm⟩
          · rename_i watching
            rw [Table.lookup_erase] at known
            split at known
            · cases known
            · rename_i elsewhere
              rw [watching]
              exact ⟨known, elsewhere, by simp⟩
        obtain ⟨there, notMonitor, notStream⟩ := before
        obtain ⟨whose, present, which⟩ := agrees.watched monitor owner there
        have elsewhere : owner ≠ reference := by
          rintro rfl
          rw [found] at present
          obtain rfl := Option.some.inj present
          exact which.elim notMonitor notStream
        exact ⟨whose, (kept owner elsewhere).trans present, which⟩
      current := by
        intro other subscription' present
        obtain ⟨elsewhere, before⟩ := entry other subscription' present
        change (Connection.retireStreams ledger reference).streams.lookup _ = _
        rw [stream, if_neg elsewhere]
        exact agrees.current other subscription' before
      retiring := by
        intro other subscription' retiring present here
        obtain ⟨elsewhere, before⟩ := entry other subscription' present
        change _ ∧ ∃ last, _ ∧ (Connection.retireStreams ledger reference).streams.lookup _ = _
        rw [stream, if_neg elsewhere]
        exact agrees.retiring other subscription' retiring before here
      known := by
        intro other which here
        change ((Connection.retireStreams ledger reference).streams.lookup _).isSome = true at here
        rw [stream] at here
        split at here
        · cases here
        · rename_i elsewhere
          obtain ⟨whose, before, possible⟩ := agrees.known other which here
          exact ⟨whose, (kept other elsewhere).trans before, possible⟩
      fresh := by
        intro other present
        obtain ⟨subscription', there⟩ := Option.isSome_iff_exists.1 present
        obtain ⟨-, before⟩ := entry other subscription' there
        exact agrees.fresh other (by rw [before]; rfl) }

theorem lookup_insert_cases {K V : Type} [DecidableEq K] {table : Table K V} {key other : K}
    {value value' : V} (present : (table.insert key value).lookup other = some value') :
    other = key ∧ value' = value ∨ other ≠ key ∧ table.lookup other = some value' := by
  rw [Table.lookup_insert] at present
  split at present
  · rename_i here
    exact Or.inl ⟨here, (Option.some.inj present).symm⟩
  · rename_i elsewhere
    exact Or.inr ⟨elsewhere, present⟩

/-- The subscription moves to its next generation, and the old one is retiring. -/
theorem Agrees.recover (agrees : Agrees b) {reference : Nat} {subscription : Subscription P}
    {ledger : ReportLedger (Nat × Nat) Nat}
    (found : b.subscriptions.lookup reference = some subscription)
    (settled : subscription.retiringGeneration = none)
    (opens : b.ledger.openStream (reference, subscription.generation + 1) = some ledger) :
    Agrees { b.write reference { subscription with
        status := .recovering
        retiringGeneration := some subscription.generation
        retiringLastReportSequence := some subscription.lastReportSequence
        generation := subscription.generation + 1
        recoveryAttempt := 1
        lastReportSequence := 0 } with
      ids := b.ids.insert (subscription.nativeId, subscription.generation + 1) reference
      ledger } := by
  have streams : ∀ key, ledger.streams.lookup key =
      if key = (reference, subscription.generation + 1) then some 0
      else b.ledger.streams.lookup key := by
    intro key
    rw [ReportLedger.openStream_eq opens]
    exact Table.lookup_insert _ _ _ _
  exact
    { few := (Table.size_insert_of_lookup found).trans_le agrees.few
      indexed := by
        intro key owner known
        refine isSome_insert _ ?_
        rcases lookup_insert_cases known with ⟨-, rfl⟩ | ⟨-, before⟩
        · rw [found]
          rfl
        · exact agrees.indexed key owner before
      watched := by
        intro monitor owner known
        obtain ⟨whose, before, which⟩ := agrees.watched monitor owner known
        change ∃ subscription', (b.subscriptions.insert reference _).lookup owner = _ ∧ _
        rw [Table.lookup_insert]
        split
        · rename_i here
          subst here
          rw [found] at before
          obtain rfl := Option.some.inj before
          exact ⟨_, rfl, which⟩
        · exact ⟨whose, before, which⟩
      current := by
        intro other subscription' present
        change ledger.streams.lookup _ = _
        rw [streams]
        rcases lookup_insert_cases present with ⟨rfl, rfl⟩ | ⟨elsewhere, before⟩
        · rw [if_pos rfl]
        · rw [if_neg (fun same => elsewhere (congrArg Prod.fst same))]
          exact agrees.current other subscription' before
      retiring := by
        intro other subscription' generation present here
        change _ ∧ ∃ last, _ ∧ ledger.streams.lookup _ = _
        rcases lookup_insert_cases present with ⟨rfl, rfl⟩ | ⟨elsewhere, before⟩
        · obtain rfl := Option.some.inj here
          refine ⟨Nat.lt_succ_self _, subscription.lastReportSequence, rfl, ?_⟩
          rw [streams, if_neg (by simp)]
          exact agrees.current other subscription found
        · rw [streams, if_neg (fun same => elsewhere (congrArg Prod.fst same))]
          exact agrees.retiring other subscription' generation before here
      known := by
        intro other generation here
        change (ledger.streams.lookup _).isSome = true at here
        change ∃ subscription', (b.subscriptions.insert reference _).lookup other = _ ∧ _
        rw [streams] at here
        by_cases same : other = reference
        · subst same
          refine ⟨_, Table.lookup_insert_self _ _ _, ?_⟩
          split at here
          · rename_i current
            exact Or.inl (congrArg Prod.snd current)
          · obtain ⟨whose, before, possible⟩ := agrees.known other generation here
            rw [found] at before
            obtain rfl := Option.some.inj before
            rw [settled] at possible
            rcases possible with rfl | absurd
            · exact Or.inr rfl
            · cases absurd
        · rw [if_neg (fun equal => same (congrArg Prod.fst equal))] at here
          obtain ⟨whose, before, possible⟩ := agrees.known other generation here
          exact ⟨whose, by rw [Table.lookup_insert, if_neg same]; exact before, possible⟩
      fresh := by
        intro other present
        obtain ⟨subscription', there⟩ := Option.isSome_iff_exists.1 present
        rcases lookup_insert_cases there with ⟨rfl, -⟩ | ⟨-, before⟩
        · exact agrees.fresh other (by rw [found]; rfl)
        · exact agrees.fresh other (by rw [before]; rfl) }

/-- The old generation is gone from the ledger and from the index. -/
theorem Agrees.retireGeneration (agrees : Agrees b) {reference generation : Nat}
    {subscription : Subscription P} {ledger : ReportLedger (Nat × Nat) Nat}
    (found : b.subscriptions.lookup reference = some subscription)
    (retiring : subscription.retiringGeneration = some generation)
    (streams : ledger.streams = b.ledger.streams.erase (reference, generation)) :
    Agrees { b.write reference { subscription with
        retiringGeneration := none
        retiringLastReportSequence := none } with
      ids := b.ids.erase (subscription.nativeId, generation)
      ledger } := by
  have stream : ∀ key, ledger.streams.lookup key =
      if key = (reference, generation) then none else b.ledger.streams.lookup key := by
    intro key
    rw [streams]
    exact Table.lookup_erase _ _ _
  have earlier := (agrees.retiring reference subscription generation found retiring).1
  exact
    { few := (Table.size_insert_of_lookup found).trans_le agrees.few
      indexed := by
        intro key owner known
        refine isSome_insert _ ?_
        change (b.ids.erase _).lookup key = _ at known
        rw [Table.lookup_erase] at known
        split at known
        · cases known
        · exact agrees.indexed key owner known
      watched := by
        intro monitor owner known
        obtain ⟨whose, before, which⟩ := agrees.watched monitor owner known
        change ∃ subscription', (b.subscriptions.insert reference _).lookup owner = _ ∧ _
        rw [Table.lookup_insert]
        split
        · rename_i here
          subst here
          rw [found] at before
          obtain rfl := Option.some.inj before
          exact ⟨_, rfl, which⟩
        · exact ⟨whose, before, which⟩
      current := by
        intro other subscription' present
        change ledger.streams.lookup _ = _
        rw [stream]
        rcases lookup_insert_cases present with ⟨rfl, rfl⟩ | ⟨elsewhere, before⟩
        · rw [if_neg (fun same => earlier.ne' (congrArg Prod.snd same))]
          exact agrees.current other subscription found
        · rw [if_neg (fun same => elsewhere (congrArg Prod.fst same))]
          exact agrees.current other subscription' before
      retiring := by
        intro other subscription' which present here
        change _ ∧ ∃ last, _ ∧ ledger.streams.lookup _ = _
        rcases lookup_insert_cases present with ⟨rfl, rfl⟩ | ⟨elsewhere, before⟩
        · cases here
        · rw [stream, if_neg (fun same => elsewhere (congrArg Prod.fst same))]
          exact agrees.retiring other subscription' which before here
      known := by
        intro other which here
        change (ledger.streams.lookup _).isSome = true at here
        change ∃ subscription', (b.subscriptions.insert reference _).lookup other = _ ∧ _
        rw [stream] at here
        split at here
        · cases here
        · rename_i otherStream
          obtain ⟨whose, before, possible⟩ := agrees.known other which here
          by_cases same : other = reference
          · subst same
            rw [found] at before
            obtain rfl := Option.some.inj before
            refine ⟨_, Table.lookup_insert_self _ _ _, Or.inl ?_⟩
            rcases possible with current | old
            · exact current
            · rw [retiring] at old
              obtain rfl := Option.some.inj old
              exact absurd rfl otherStream
          · exact ⟨whose, by rw [Table.lookup_insert, if_neg same]; exact before, possible⟩
      fresh := by
        intro other present
        obtain ⟨subscription', there⟩ := Option.isSome_iff_exists.1 present
        rcases lookup_insert_cases there with ⟨rfl, -⟩ | ⟨-, before⟩
        · exact agrees.fresh other (by rw [found]; rfl)
        · exact agrees.fresh other (by rw [before]; rfl) }

theorem Agrees.put (agrees : Agrees b) {subscription : Subscription P}
    {ledger : ReportLedger (Nat × Nat) Nat} {monitors : Table Nat Nat} {references : Nat}
    (few : Table.size b.subscriptions < 64)
    (opens : b.ledger.openStream (b.references, 1) = some ledger)
    (first : subscription.generation = 1) (unread : subscription.lastReportSequence = 0)
    (settled : subscription.retiringGeneration = none)
    (watched : ∀ monitor owner, monitors.lookup monitor = some owner →
      (owner = b.references ∧ (monitor = subscription.monitor ∨
        subscription.streamMonitor = some monitor)) ∨ b.monitors.lookup monitor = some owner)
    (later : b.references < references) :
    Agrees { b.write b.references subscription with
      references, ledger, monitors
      ids := b.ids.insert (subscription.nativeId, 1) b.references } := by
  have unused : b.subscriptions.lookup b.references = none := by
    by_contra present
    have := agrees.fresh b.references (Option.isSome_iff_ne_none.2 present)
    omega
  have streams : ∀ key, ledger.streams.lookup key =
      if key = (b.references, 1) then some 0 else b.ledger.streams.lookup key := by
    intro key
    rw [ReportLedger.openStream_eq opens]
    exact Table.lookup_insert _ _ _ _
  have elsewhere : ∀ other, (b.subscriptions.lookup other).isSome → other ≠ b.references := by
    rintro other present rfl
    rw [unused] at present
    cases present
  have kept : ∀ other, other ≠ b.references →
      (b.subscriptions.insert b.references subscription).lookup other =
        b.subscriptions.lookup other := by
    intro other different
    rw [Table.lookup_insert, if_neg different]
  exact
    { few := by
        refine (Table.size_insert_of_fresh subscription unused).trans_le ?_
        omega
      indexed := by
        intro key owner known
        change ((b.subscriptions.insert b.references subscription).lookup owner).isSome = true
        rcases lookup_insert_cases known with ⟨-, rfl⟩ | ⟨-, before⟩
        · rw [Table.lookup_insert_self]
          rfl
        · exact isSome_insert subscription (agrees.indexed key owner before)
      watched := by
        intro monitor owner known
        change ∃ subscription', (b.subscriptions.insert b.references subscription).lookup owner =
          _ ∧ _
        rcases watched monitor owner known with ⟨rfl, which⟩ | before
        · exact ⟨subscription, Table.lookup_insert_self _ _ _, which⟩
        · obtain ⟨whose, present, which⟩ := agrees.watched monitor owner before
          exact ⟨whose, (kept owner (elsewhere owner (by rw [present]; rfl))).trans present, which⟩
      current := by
        intro other subscription' present
        change ledger.streams.lookup _ = _
        rw [streams]
        rcases lookup_insert_cases present with ⟨rfl, rfl⟩ | ⟨different, before⟩
        · rw [first, if_pos rfl, unread]
        · rw [if_neg (fun same => different (congrArg Prod.fst same))]
          exact agrees.current other subscription' before
      retiring := by
        intro other subscription' generation present here
        change _ ∧ ∃ last, _ ∧ ledger.streams.lookup _ = _
        rcases lookup_insert_cases present with ⟨rfl, rfl⟩ | ⟨different, before⟩
        · rw [settled] at here
          cases here
        · rw [streams, if_neg (fun same => different (congrArg Prod.fst same))]
          exact agrees.retiring other subscription' generation before here
      known := by
        intro other generation here
        change (ledger.streams.lookup _).isSome = true at here
        change ∃ subscription', (b.subscriptions.insert b.references subscription).lookup other =
          _ ∧ _
        rw [streams] at here
        split at here
        · rename_i new
          obtain ⟨rfl, rfl⟩ := Prod.mk.inj new
          exact ⟨subscription, Table.lookup_insert_self _ _ _, Or.inl first.symm⟩
        · obtain ⟨whose, before, possible⟩ := agrees.known other generation here
          exact ⟨whose, (kept other (elsewhere other (by rw [before]; rfl))).trans before, possible⟩
      fresh := by
        intro other present
        obtain ⟨subscription', there⟩ := Option.isSome_iff_exists.1 present
        rcases lookup_insert_cases there with ⟨rfl, -⟩ | ⟨-, before⟩
        · exact later
        · exact (agrees.fresh other (by rw [before]; rfl)).trans later }

theorem notifyOne_sameAccount (code : String) (subscription : Subscription P) :
    SameAccount subscription (Connection.notifyOne code subscription) := by
  unfold Connection.notifyOne
  split <;> exact ⟨rfl, rfl, rfl, rfl, rfl, rfl⟩

theorem step_agrees (step : Step rules b b') (agrees : Agrees b) : Agrees b' := by
  cases step with
  | tell message plain => exact { agrees with }
  | close found closes => exact agrees.write found (sameAccount_closes closes) rfl b.sent
  | closeAll code =>
      refine agrees.of_sameAccount ?_ rfl rfl rfl rfl
      intro reference
      change (Table.filterMap _ b.subscriptions).lookup reference = none ∧ _ ∨ _
      cases before : b.subscriptions.lookup reference with
      | none => exact Or.inl ⟨by rw [Table.lookup_filterMap, before]; rfl, rfl⟩
      | some subscription =>
          exact Or.inr ⟨subscription, Connection.notifyOne code subscription, rfl,
            by rw [Table.lookup_filterMap, before]; rfl, notifyOne_sameAccount code subscription⟩
  | attempt found attempt =>
      refine agrees.write found ?_ rfl b.sent
      exact ⟨rfl, rfl, rfl, rfl, rfl, rfl⟩
  | establish found establishing =>
      refine agrees.write found ?_ rfl b.sent
      exact ⟨rfl, rfl, rfl, rfl, rfl, rfl⟩
  | resume found recovering moved settled =>
      refine agrees.write found ?_ rfl b.sent
      exact ⟨rfl, rfl, rfl, rfl, rfl, rfl⟩
  | acknowledge permitted acknowledges =>
      refine agrees.of_sameAccount (fun reference => ?_) rfl rfl acknowledges.streams rfl
      dsimp only
      cases b.subscriptions.lookup reference with
      | none => exact Or.inl ⟨rfl, rfl⟩
      | some subscription =>
          exact Or.inr ⟨subscription, subscription, rfl, rfl, SameAccount.refl subscription⟩
  | overflow found closes owned acknowledges =>
      exact agrees.write found (sameAccount_closes closes) acknowledges.streams b.sent
  | register found registers =>
      exact agrees.registered found (SameAccount.refl _) registers b.sent
  | buffer delivery found establishing registers =>
      refine agrees.registered found ?_ registers b.sent
      exact ⟨rfl, rfl, rfl, rfl, rfl, rfl⟩
  | deliver delivery found active flushed registers =>
      exact agrees.registered found (SameAccount.refl _) registers _
  | flush found first pending =>
      refine agrees.write found ?_ rfl _
      exact ⟨rfl, rfl, rfl, rfl, rfl, rfl⟩
  | skip found first =>
      refine agrees.write found ?_ rfl b.sent
      exact ⟨rfl, rfl, rfl, rfl, rfl, rfl⟩
  | recover found active settled opens => exact agrees.recover found settled opens
  | retireGeneration found retiring paused retires settles =>
      refine agrees.retireGeneration found retiring ?_
      rw [settles.streams, ReportLedger.retire_eq retires]
  | retireLast found closing retires settles =>
      refine agrees.dropped found ?_
      intro key different
      rw [settles.streams, ReportLedger.retire_eq retires]
      dsimp only
      rw [Table.lookup_erase, if_neg (fun equal => different (congrArg Prod.fst equal))]
  | drop found => exact agrees.dropped found fun _ _ => rfl
  | put few opens first unread settled empty distinct watched later =>
      exact agrees.put few opens first unread settled.1 watched later

/-! ## The buffers -/

/-- What waits in a buffer was registered for its subscription and has not been handed out;
as long as a flush may come, the ledger holds it. -/
structure Retains (b : Book P) : Prop where
  registered : ∀ reference subscription n, b.subscriptions.lookup reference = some subscription →
    n ∈ sequences subscription.buffered → n < b.ledger.nextSequence
  owned : ∀ reference subscription n, b.subscriptions.lookup reference = some subscription →
    n ∈ sequences subscription.buffered →
    ∀ report, b.ledger.pending.lookup n = some report → report.stream.1 = reference
  unsent : ∀ reference subscription n, b.subscriptions.lookup reference = some subscription →
    n ∈ sequences subscription.buffered → ∀ entry ∈ b.envelopes, entry.2.1 ≠ n
  distinct : ∀ reference subscription, b.subscriptions.lookup reference = some subscription →
    (sequences subscription.buffered).Nodup
  held : ∀ reference subscription n, b.subscriptions.lookup reference = some subscription →
    Flushable subscription → n ∈ sequences subscription.buffered → b.ledger.Holds n
  sent : ∀ entry ∈ b.envelopes, entry.2.1 < b.ledger.nextSequence

/-- Buffers only shrink, and what the ledger holds for those that may be flushed stays. -/
theorem Retains.shrink (retains : Retains b)
    (fewer : ∀ reference subscription', b'.subscriptions.lookup reference = some subscription' →
      subscription'.buffered ≠ [] →
      ∃ subscription, b.subscriptions.lookup reference = some subscription ∧
        (sequences subscription'.buffered).Sublist (sequences subscription.buffered) ∧
        ∀ n ∈ sequences subscription'.buffered, Flushable subscription' →
          Flushable subscription ∧ (b.ledger.Holds n → b'.ledger.Holds n))
    (marks : b.ledger.Marks b'.ledger) (next : b'.ledger.nextSequence = b.ledger.nextSequence)
    (sent : b'.envelopes = b.envelopes) : Retains b' := by
  have nonempty : ∀ {subscription' : Subscription P} {n : Nat},
      n ∈ sequences subscription'.buffered → subscription'.buffered ≠ [] := by
    intro subscription' n member empty
    rw [empty] at member
    cases member
  exact
    { registered := by
        intro reference subscription' n present member
        obtain ⟨subscription, before, sublist, -⟩ :=
          fewer reference subscription' present (nonempty member)
        rw [next]
        exact retains.registered reference subscription n before (sublist.subset member)
      owned := by
        intro reference subscription' n present member report' found
        obtain ⟨subscription, before, sublist, -⟩ :=
          fewer reference subscription' present (nonempty member)
        obtain ⟨report, there, same⟩ := marks n report' found
        rw [← same]
        exact retains.owned reference subscription n before (sublist.subset member) report there
      unsent := by
        intro reference subscription' n present member
        obtain ⟨subscription, before, sublist, -⟩ :=
          fewer reference subscription' present (nonempty member)
        rw [sent]
        exact retains.unsent reference subscription n before (sublist.subset member)
      distinct := by
        intro reference subscription' present
        by_cases empty : subscription'.buffered = []
        · rw [empty]
          exact List.nodup_nil
        · obtain ⟨subscription, before, sublist, -⟩ := fewer reference subscription' present empty
          exact (retains.distinct reference subscription before).sublist sublist
      held := by
        intro reference subscription' n present flushable member
        obtain ⟨subscription, before, sublist, kept⟩ :=
          fewer reference subscription' present (nonempty member)
        obtain ⟨live, keeps⟩ := kept n member flushable
        exact keeps (retains.held reference subscription n before live (sublist.subset member))
      sent := by
        rw [sent, next]
        exact retains.sent }

/-- The ledger is left alone. -/
theorem Retains.write (retains : Retains b) {reference : Nat}
    {subscription changed : Subscription P}
    (found : b.subscriptions.lookup reference = some subscription)
    (fewer : (sequences changed.buffered).Sublist (sequences subscription.buffered))
    (live : changed.buffered ≠ [] → Flushable changed → Flushable subscription) :
    Retains (b.write reference changed) := by
  refine retains.shrink (fun other subscription' present nonempty => ?_) (fun n report' there =>
    ⟨report', there, rfl⟩) rfl rfl
  rcases lookup_insert_cases present with ⟨rfl, rfl⟩ | ⟨-, before⟩
  · exact ⟨subscription, found, fewer, fun n _ flushable => ⟨live nonempty flushable, id⟩⟩
  · exact ⟨subscription', before, List.Sublist.refl _, fun _ _ flushable => ⟨flushable, id⟩⟩

/-- The subscriptions are left alone, and so are the reports that wait. -/
theorem Retains.ledger (retains : Retains b) {ledger : ReportLedger (Nat × Nat) Nat}
    (marks : b.ledger.Marks ledger) (next : ledger.nextSequence = b.ledger.nextSequence)
    (kept : ∀ reference subscription n, b.subscriptions.lookup reference = some subscription →
      Flushable subscription → n ∈ sequences subscription.buffered → b.ledger.Holds n →
      ledger.Holds n) : Retains { b with ledger } := by
  refine retains.shrink (fun reference subscription present _ => ?_) marks next rfl
  exact ⟨subscription, present, List.Sublist.refl _, fun n member flushable =>
    ⟨flushable, kept reference subscription n present flushable member⟩⟩

theorem not_flushable_closes {subscription closed : Subscription P}
    (closes : Closes subscription closed) : ¬ Flushable closed := by
  unfold Flushable
  rw [closes]
  simp

theorem retire_holds_of_owner {ledger retired : ReportLedger (Nat × Nat) Nat}
    {reference generation last n : Nat}
    (retires : ledger.retire (reference, generation) last = some retired) (held : ledger.Holds n)
    (other : ∀ report, ledger.pending.lookup n = some report → report.stream.1 ≠ reference) :
    retired.Holds n :=
  ReportLedger.retire_holds retires held fun report there same =>
    other report there (congrArg Prod.fst same)

theorem retireStreams_marks (ledger : ReportLedger (Nat × Nat) Nat) (reference : Nat) :
    ledger.Marks (Connection.retireStreams ledger reference) := by
  intro n report' found
  simp only [Connection.retireStreams, Table.lookup_filterMap] at found
  obtain ⟨report, there, same⟩ := Option.bind_eq_some_iff.1 found
  refine ⟨report, there, ?_⟩
  split at same <;> rw [← Option.some.inj same]

theorem retireStreams_holds {ledger : ReportLedger (Nat × Nat) Nat} {reference n : Nat}
    (held : ledger.Holds n)
    (other : ∀ report, ledger.pending.lookup n = some report → report.stream.1 ≠ reference) :
    (Connection.retireStreams ledger reference).Holds n := by
  obtain ⟨report, found, fresh⟩ := held
  refine ⟨report, ?_, fresh⟩
  simp only [Connection.retireStreams, Table.lookup_filterMap, found, Option.bind_some]
  rw [if_neg (fun both => other report found both.1)]

theorem Retains.dropped (retains : Retains b) (reference : Nat) (subscription : Subscription P) :
    Retains (b.dropped reference subscription) := by
  refine retains.shrink (fun other subscription' present _ => ?_)
    (retireStreams_marks b.ledger reference) rfl rfl
  change (b.subscriptions.erase reference).lookup other = _ at present
  rw [Table.lookup_erase] at present
  split at present
  · cases present
  · rename_i elsewhere
    refine ⟨subscription', present, List.Sublist.refl _, fun n member flushable =>
      ⟨flushable, fun held => retireStreams_holds held fun report found => ?_⟩⟩
    rw [retains.owned other subscription' n present member report found]
    exact elsewhere

/-- A registered report is pending beyond everything that waits. -/
theorem register_ledger {ledger registered : ReportLedger (Nat × Nat) Nat} {stream : Nat × Nat}
    {sequence bytes token : Nat}
    (registers : ledger.register stream sequence bytes token = some registered) :
    registered.nextSequence = ledger.nextSequence + 1 ∧ sequence = ledger.nextSequence ∧
      (∀ n, n < ledger.nextSequence →
        registered.pending.lookup n = ledger.pending.lookup n) ∧
      registered.pending.lookup sequence = some { stream, bytes, token } := by
  obtain ⟨rfl, rfl, -⟩ := Connection.register_pending registers
  refine ⟨rfl, rfl, fun n earlier => ?_, Table.lookup_insert_self _ _ _⟩
  exact (Table.lookup_insert _ _ _ _).trans (if_neg earlier.ne)

/-- Registering a report, with or without an envelope for it. -/
theorem Retains.registered_sent (retains : Retains b) {reference sequence bytes token : Nat}
    {subscription changed : Subscription P} {ledger : ReportLedger (Nat × Nat) Nat}
    (found : b.subscriptions.lookup reference = some subscription)
    (buffered : changed.buffered = subscription.buffered)
    (status : changed.status = subscription.status)
    (registers : b.ledger.register (reference, subscription.generation) sequence bytes token =
      some ledger) {sent : List (Message P)}
    (told : ∀ entry ∈ sent.filterMap Message.envelope?, entry ∈ b.envelopes ∨
      entry.2.1 = sequence) : Retains { b.registered reference changed ledger with sent } := by
  obtain ⟨next, rfl, kept, -⟩ := register_ledger registers
  have entry : ∀ {other : Nat} {subscription' : Subscription P},
      (b.subscriptions.insert reference changed).lookup other = some subscription' →
      ∃ before, b.subscriptions.lookup other = some before ∧
        subscription'.buffered = before.buffered ∧ subscription'.status = before.status := by
    intro other subscription' present
    rcases lookup_insert_cases present with ⟨rfl, rfl⟩ | ⟨-, before⟩
    · exact ⟨subscription, found, buffered, status⟩
    · exact ⟨subscription', before, rfl, rfl⟩
  have waits : ∀ {other : Nat} {subscription' : Subscription P} {n : Nat},
      (b.subscriptions.insert reference changed).lookup other = some subscription' →
      n ∈ sequences subscription'.buffered → n < b.ledger.nextSequence := by
    intro other subscription' n present member
    obtain ⟨before, there, same, -⟩ := entry present
    rw [same] at member
    exact retains.registered other before n there member
  exact
    { registered := by
        intro other subscription' n present member
        change n < ledger.nextSequence
        rw [next]
        exact (waits present member).trans (Nat.lt_succ_self _)
      owned := by
        intro other subscription' n present member report there
        change ledger.pending.lookup n = _ at there
        rw [kept n (waits present member)] at there
        obtain ⟨before, earlier, same, -⟩ := entry present
        rw [same] at member
        exact retains.owned other before n earlier member report there
      unsent := by
        intro other subscription' n present member entry' sent'
        have below := waits present member
        obtain ⟨before, earlier, same, -⟩ := entry present
        rw [same] at member
        rcases told entry' sent' with old | new
        · exact retains.unsent other before n earlier member entry' old
        · omega
      distinct := by
        intro other subscription' present
        obtain ⟨before, earlier, same, -⟩ := entry present
        rw [same]
        exact retains.distinct other before earlier
      held := by
        intro other subscription' n present flushable member
        have below := waits present member
        obtain ⟨before, earlier, same, sameStatus⟩ := entry present
        rw [same] at member
        unfold Flushable at flushable
        rw [sameStatus] at flushable
        obtain ⟨report, there, fresh⟩ := retains.held other before n earlier flushable member
        exact ⟨report, (kept n below).trans there, fresh⟩
      sent := by
        intro entry' sent'
        change entry'.2.1 < ledger.nextSequence
        rw [next]
        rcases told entry' sent' with old | new
        · exact (retains.sent entry' old).trans (Nat.lt_succ_self _)
        · omega }

/-- A pending report that nobody has seen joins the buffer of its subscription. -/
theorem Retains.append (retains : Retains b) {reference n : Nat}
    {subscription : Subscription P} {report : Report (Nat × Nat) Nat} (delivery : P) (bytes : Nat)
    (found : b.subscriptions.lookup reference = some subscription)
    (pending : b.ledger.pending.lookup n = some report)
    (mine : report.stream.1 = reference) (fresh : report.consumed = false)
    (below : n < b.ledger.nextSequence) (unsent : ∀ entry ∈ b.envelopes, entry.2.1 ≠ n)
    (new : n ∉ sequences subscription.buffered) :
    Retains (b.write reference { subscription with
      buffered := subscription.buffered ++ [(delivery, n, bytes)] }) := by
  have entry : ∀ {other : Nat} {subscription' : Subscription P} {m : Nat},
      (b.subscriptions.insert reference { subscription with
        buffered := subscription.buffered ++ [(delivery, n, bytes)] }).lookup other =
          some subscription' →
      m ∈ sequences subscription'.buffered →
      other = reference ∧ m = n ∨
        ∃ before, b.subscriptions.lookup other = some before ∧ m ∈ sequences before.buffered ∧
          subscription'.status = before.status := by
    intro other subscription' m present member
    rcases lookup_insert_cases present with ⟨rfl, rfl⟩ | ⟨-, before⟩
    · simp only [sequences, List.map_append, List.map_cons, List.map_nil, List.mem_append,
        List.mem_singleton] at member
      rcases member with old | rfl
      · exact Or.inr ⟨subscription, found, old, rfl⟩
      · exact Or.inl ⟨rfl, rfl⟩
    · exact Or.inr ⟨subscription', before, member, rfl⟩
  exact
    { registered := by
        intro other subscription' m present member
        rcases entry present member with ⟨-, rfl⟩ | ⟨before, there, old, -⟩
        · exact below
        · exact retains.registered other before m there old
      owned := by
        intro other subscription' m present member report' here
        rcases entry present member with ⟨rfl, rfl⟩ | ⟨before, there, old, -⟩
        · change b.ledger.pending.lookup m = _ at here
          rw [pending] at here
          rw [← Option.some.inj here]
          exact mine
        · exact retains.owned other before m there old report' here
      unsent := by
        intro other subscription' m present member
        rcases entry present member with ⟨-, rfl⟩ | ⟨before, there, old, -⟩
        · exact unsent
        · exact retains.unsent other before m there old
      distinct := by
        intro other subscription' present
        rcases lookup_insert_cases present with ⟨rfl, rfl⟩ | ⟨-, before⟩
        · simp only [sequences, List.map_append, List.map_cons, List.map_nil]
          refine List.Nodup.append (retains.distinct other subscription found)
            (List.nodup_singleton n) ?_
          intro m old same
          rw [List.mem_singleton.1 same] at old
          exact new old
        · exact retains.distinct other subscription' before
      held := by
        intro other subscription' m present flushable member
        rcases entry present member with ⟨-, rfl⟩ | ⟨before, there, old, status⟩
        · exact ⟨report, pending, fresh⟩
        · unfold Flushable at flushable
          rw [status] at flushable
          exact retains.held other before m there flushable old
      sent := retains.sent }

/-- A report that waits in no buffer is handed out. -/
theorem Retains.envelope (retains : Retains b) {message : Message P} {entry : Nat × Nat × Nat}
    (known : message.envelope? = some entry) (below : entry.2.1 < b.ledger.nextSequence)
    (free : ∀ reference subscription, b.subscriptions.lookup reference = some subscription →
      entry.2.1 ∉ sequences subscription.buffered) : Retains (b.tell message) := by
  have told : (b.tell message).envelopes = b.envelopes ++ [entry] := by
    unfold Book.tell envelopes
    dsimp only
    rw [List.filterMap_append]
    simp [known]
  exact
    { retains with
      unsent := by
        intro reference subscription n present member other sent
        rw [told, List.mem_append, List.mem_singleton] at sent
        rcases sent with old | rfl
        · exact retains.unsent reference subscription n present member other old
        · rintro rfl
          exact free reference subscription present member
      sent := by
        intro other sent
        rw [told, List.mem_append, List.mem_singleton] at sent
        rcases sent with old | rfl
        · exact retains.sent other old
        · exact below }

theorem step_retains (settled : rules.settled) (genuine : rules.genuine) (step : Step rules b b')
    (retains : Retains b) : Retains b' := by
  cases step with
  | tell message plain =>
      have told : (b.tell message).envelopes = b.envelopes := by
        unfold Book.tell envelopes
        dsimp only
        rw [List.filterMap_append]
        simp [plain]
      exact { retains with
        unsent := by rw [told]; exact retains.unsent
        sent := by rw [told]; exact retains.sent }
  | close found closes =>
      refine retains.write found ?_ fun _ flushable => absurd flushable (not_flushable_closes closes)
      rw [sequences_closes closes]
  | closeAll code =>
      refine retains.shrink (fun reference subscription' present _ => ?_) (fun n report' there =>
        ⟨report', there, rfl⟩) rfl rfl
      change (Table.filterMap _ b.subscriptions).lookup reference = _ at present
      rw [Table.lookup_filterMap] at present
      obtain ⟨subscription, before, same⟩ := Option.bind_eq_some_iff.1 present
      obtain rfl := Option.some.inj same
      have buffered : (Connection.notifyOne code subscription).buffered = subscription.buffered := by
        unfold Connection.notifyOne
        split <;> rfl
      refine ⟨subscription, before, by rw [buffered], fun _ _ flushable => absurd flushable ?_⟩
      unfold Flushable
      rw [Connection.notifyOne_closing]
      simp
  | attempt found attempt =>
      exact retains.write found (List.Sublist.refl _) fun _ flushable => flushable
  | establish found establishing =>
      exact retains.write found (List.Sublist.refl _) fun _ _ => Or.inl establishing
  | resume found recovering moved empty =>
      exact retains.write found (List.Sublist.refl _) fun some _ => absurd (empty settled) some
  | acknowledge permitted acknowledges =>
      refine retains.ledger acknowledges.marks acknowledges.nextSequence ?_
      intro reference subscription n present flushable member held
      refine acknowledges.holds held ?_
      rintro rfl
      obtain ⟨report, there, -⟩ := held
      have mine := retains.owned reference subscription n present member report there
      rcases permitted report there with ⟨closing, here, closed⟩ | handed
      · rw [mine, present] at here
        obtain rfl := Option.some.inj here
        unfold Flushable at flushable
        rw [closed] at flushable
        simp at flushable
      · exact retains.unsent reference subscription n present member _ (handed genuine) rfl
  | @overflow reference sequence subscription closed ledger found closes owned acknowledges =>
      have written : Retains (b.write reference closed) := by
        refine retains.write found ?_ fun _ flushable =>
          absurd flushable (not_flushable_closes closes)
        rw [sequences_closes closes]
      refine written.ledger acknowledges.marks acknowledges.nextSequence ?_
      intro other subscription' n present flushable member held
      refine acknowledges.holds held ?_
      rintro rfl
      rcases lookup_insert_cases present with ⟨rfl, rfl⟩ | ⟨elsewhere, before⟩
      · exact not_flushable_closes closes flushable
      · obtain ⟨report, there, -⟩ := held
        have theirs := retains.owned other subscription' n before member report there
        refine elsewhere (theirs.symm.trans ?_)
        rcases owned with mine | waits
        · exact mine report there
        · exact retains.owned reference subscription n found waits report there
  | register found registers =>
      exact retains.registered_sent found (by rfl) (by rfl) registers fun _ member => Or.inl member
  | @buffer reference sequence bytes subscription ledger delivery found establishing registers =>
      obtain ⟨next, rfl, -, pending⟩ := register_ledger registers
      have registered : Retains (b.registered reference
          { subscription with lastReportSequence := b.ledger.nextSequence } ledger) :=
        retains.registered_sent found (by rfl) (by rfl) registers fun _ member => Or.inl member
      have below : b.ledger.nextSequence < ledger.nextSequence := by omega
      have appended := registered.append delivery bytes (Table.lookup_insert_self _ _ _) pending
        rfl rfl below (fun entry member => (retains.sent entry member).ne) (fun member =>
          (retains.registered reference subscription _ found member).ne rfl)
      have same : (b.registered reference
          { subscription with lastReportSequence := b.ledger.nextSequence } ledger).write reference
            { subscription with
              lastReportSequence := b.ledger.nextSequence
              buffered := subscription.buffered ++ [(delivery, b.ledger.nextSequence, bytes)] } =
          b.registered reference { subscription with
            lastReportSequence := b.ledger.nextSequence
            buffered := subscription.buffered ++ [(delivery, b.ledger.nextSequence, bytes)] }
            ledger := by
        unfold Book.registered Book.write
        dsimp only
        rw [Table.insert_insert_self]
      rw [← same]
      exact appended
  | deliver delivery found active flushed registers =>
      refine retains.registered_sent found (by rfl) (by rfl) registers fun entry member => ?_
      change entry ∈ (b.sent ++ [_]).filterMap Message.envelope? at member
      rw [List.filterMap_append, List.mem_append] at member
      rcases member with old | new
      · exact Or.inl old
      · simp only [List.filterMap_cons, envelope_some, List.filterMap_nil,
          List.mem_singleton] at new
        exact Or.inr (by rw [new])
  | @flush reference sequence bytes subscription delivery rest report found first pending =>
      have waits : sequence ∈ sequences subscription.buffered := by simp [first, sequences]
      have distinct := retains.distinct reference subscription found
      rw [first] at distinct
      have popped : Retains (b.write reference { subscription with buffered := rest }) := by
        refine retains.write found ?_ fun _ flushable => flushable
        rw [first]
        exact List.sublist_cons_self _ _
      refine popped.envelope (envelope_some _ _ _ _ _)
        (retains.registered reference subscription sequence found waits) ?_
      intro other subscription' present member
      rcases lookup_insert_cases present with ⟨rfl, rfl⟩ | ⟨elsewhere, before⟩
      · exact (List.nodup_cons.1 distinct).1 member
      · have mine := retains.owned reference subscription sequence found waits report pending
        exact elsewhere ((retains.owned other subscription' sequence before member report
          pending).symm.trans mine)
  | skip found first =>
      refine retains.write found ?_ fun _ flushable => flushable
      rw [first]
      exact List.sublist_cons_self _ _
  | @recover reference subscription ledger found active alone opens =>
      obtain rfl := ReportLedger.openStream_eq opens
      refine retains.shrink (fun other subscription' present _ => ?_) (fun n report' there =>
        ⟨report', there, rfl⟩) rfl rfl
      rcases lookup_insert_cases present with ⟨rfl, rfl⟩ | ⟨-, before⟩
      · exact ⟨subscription, found, List.Sublist.refl _, fun _ _ _ => ⟨Or.inr active, id⟩⟩
      · exact ⟨subscription', before, List.Sublist.refl _, fun _ _ flushable => ⟨flushable, id⟩⟩
  | @retireGeneration reference generation last subscription retired ledger found retiring paused
      retires settles =>
      have marks := (ReportLedger.retire_marks retires).trans settles.marks
      have next := settles.nextSequence.trans (ReportLedger.retire_nextSequence retires)
      refine retains.shrink (fun other subscription' present _ => ?_) marks next rfl
      rcases lookup_insert_cases present with ⟨rfl, rfl⟩ | ⟨elsewhere, before⟩
      · refine ⟨subscription, found, List.Sublist.refl _, fun n member flushable => ?_⟩
        unfold Flushable at flushable
        rcases paused with status | status <;> simp [status] at flushable
      · exact ⟨subscription', before, List.Sublist.refl _, fun n member flushable =>
          ⟨flushable, fun held => settles.holds (retire_holds_of_owner retires held
            (fun report there => by
              rw [retains.owned other subscription' n before member report there]
              exact elsewhere))⟩⟩
  | @retireLast reference last subscription retired ledger found closing retires settles =>
      have marks := (ReportLedger.retire_marks retires).trans settles.marks
      have next := settles.nextSequence.trans (ReportLedger.retire_nextSequence retires)
      refine Retains.dropped (retains.ledger marks next ?_) reference subscription
      intro other subscription' n present flushable member held
      refine settles.holds (retire_holds_of_owner retires held fun report there => ?_)
      rw [retains.owned other subscription' n present member report there]
      rintro rfl
      rw [found] at present
      obtain rfl := Option.some.inj present
      unfold Flushable at flushable
      simp [closing] at flushable
  | drop found => exact retains.dropped _ _
  | @put subscription ledger monitors references few opens first unread alone empty =>
      obtain rfl := ReportLedger.openStream_eq opens
      refine retains.shrink (fun other subscription' present nonempty => ?_) (fun n report' there =>
        ⟨report', there, rfl⟩) rfl rfl
      rcases lookup_insert_cases present with ⟨rfl, rfl⟩ | ⟨-, before⟩
      · exact absurd empty nonempty
      · exact ⟨subscription', before, List.Sublist.refl _, fun _ _ flushable => ⟨flushable, id⟩⟩

end Book

end WotexMatter.Beam
