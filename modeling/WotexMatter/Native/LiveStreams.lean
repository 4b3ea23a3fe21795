/-
# WotexMatter.Native.LiveStreams -- the two subscription tables of the host

`report_flow_` keys its streams by identifier and generation, `subscriptions_` keeps one
entry for an identifier.  Seven blocks write the two tables.  They agree in every open
session with a healthy channel, as long as no `subscribe` is admitted under an
identifier that is still in `subscriptions_`: `AddStream` refuses only the same
generation, and `emplace` then keeps the old entry.

`unsubscribe` writes the barrier and erases the entry under two locks.  `Session` keeps
the identifier in between, where the SDK's thread may come in but not another line.
-/
import WotexMatter.Native.Milestones

set_option autoImplicit false
set_option linter.unusedSectionVars false

namespace WotexMatter.Native

open WotexMatter.Theory ReportCreditManager

namespace HostProtocol

variable {ω P : Type}

/-- The host and the identifier whose barrier is written and whose entry is not yet erased. -/
structure Session (ω P : Type) where
  host : HostProtocol ω P
  erasing : Option String := none

/-- The blocks that the SDK's thread enters. -/
def Call.fromSdk : Call P → Bool
  | .emitReport _ | .emitStatus _ | .emitFailure .. => true
  | _ => false

/-- A session whose `open` has just succeeded. -/
def Session.opened (writer : ω) (sessionGeneration : String) : Session ω P :=
  { host := { flow := { sink := { writer } }, sessionGeneration } }

variable [Text (HostFrame P InteractionError)]

section Steps

variable (outputSink : ω → HostFrame P InteractionError → Bool × ω)

/-- The identifier that `unsubscribe` has still to erase after its barrier. -/
def erasingAfter (h : HostProtocol ω P) (subscriptionId : String) (generation : Nat) :
    Option String :=
  match (h.unsubscribeRetire outputSink subscriptionId generation).1 with
  | .proceed => some subscriptionId
  | _ => none

/-- A block of the input thread.  Between its last two blocks an `unsubscribe` line goes
nowhere else, and the last block is entered from there only. -/
def Session.input (s : Session ω P) (c : Call P) : Session ω P :=
  match s.erasing, c with
  | none, .unsubscribeFinish .. => s
  | none, .unsubscribeRetire subscriptionId generation =>
      { host := s.host.call outputSink c
        erasing := erasingAfter outputSink s.host subscriptionId generation }
  | none, _ => { s with host := s.host.call outputSink c }
  | some subscriptionId, .unsubscribeFinish _ finished =>
      if finished = subscriptionId then { host := s.host.call outputSink c } else s
  | some _, _ => s

/-- One locked block of either thread. -/
def Session.step (s : Session ω P) (c : Call P) : Session ω P :=
  if c.fromSdk then { s with host := s.host.call outputSink c } else s.input outputSink c

def Session.run (s : Session ω P) (calls : List (Call P)) : Session ω P :=
  calls.foldl (Session.step outputSink) s

end Steps

/-! ## One block -/

variable {outputSink : ω → HostFrame P InteractionError → Bool × ω} {h : HostProtocol ω P}
  {id : String}

/-- The generation the entry of the identifier names, if there is one. -/
def entryOf (h : HostProtocol ω P) (id : String) : Option Nat :=
  (h.subscriptions.lookup id).map fun active => active.generation

/-- Of the identifier's generations the one of its entry is live and no other. -/
def Matches (h : HostProtocol ω P) (id : String) : Prop :=
  ∀ generation, h.flow.isLive id generation = true ↔ h.entryOf id = some generation

/-- The identifier has no live generation. -/
def Dead (h : HostProtocol ω P) (id : String) : Prop :=
  ∀ generation, h.flow.isLive id generation = false

/-- An open host's live streams are what its milestones say. -/
theorem isLive_eq_opened (ordered : Ordered h) (up : h.up = true) (id : String)
    (generation : Nat) :
    h.flow.isLive id generation = opened generation (milestones id h.flow.events) := by
  obtain ⟨healthy, isOpen⟩ := up_iff.1 up
  exact isLive_of_milestones (ordered healthy isOpen).traced id generation

theorem isLive_of_adds {next : HostProtocol ω P} {own : List Milestone}
    (ordered : Ordered next) (up : next.up = true) (adds : Adds id own h next)
    (generation : Nat) :
    next.flow.isLive id generation =
      opened generation (milestones id h.flow.events ++ own) := by
  rw [isLive_eq_opened ordered up, adds.milestones]

/-- The stream's own generation ends: nothing of the identifier is live any more. -/
theorem dead_of_ended {next : HostProtocol ω P} {generation : Nat} (own : List Milestone)
    (ordered : Ordered h) (up : h.up = true) (ordered' : Ordered next) (up' : next.up = true)
    (agrees : Matches h id) (live : h.flow.isLive id generation = true)
    (adds : Adds id (own ++ [.retired generation]) h next)
    (quiet : ∀ milestone ∈ own, ∃ g, milestone = .failed g) : Dead next id := by
  intro other
  rw [isLive_of_adds ordered' up' adds, ← List.append_assoc, opened_snoc]
  dsimp only
  split
  · rfl
  · rename_i different
    have unchanged : opened other (milestones id h.flow.events ++ own) =
        opened other (milestones id h.flow.events) := by
      clear adds
      induction own using List.reverseRecOn with
      | nil => rw [List.append_nil]
      | append_singleton front milestone ih =>
          obtain ⟨g, rfl⟩ := quiet milestone (by simp)
          rw [← List.append_assoc, opened_snoc]
          exact ih fun m member => quiet m (List.mem_append_left _ member)
    rw [unchanged, ← isLive_eq_opened ordered up]
    by_contra alive
    have named := (agrees generation).1 live
    rw [(agrees other).1 (by simpa using alive)] at named
    exact different (Option.some.inj named).symm

theorem matches_of_dead (dead : Dead h id) (absent : h.subscriptions.lookup id = none) :
    Matches h id := by
  intro generation
  simp [dead generation, entryOf, absent]

theorem dead_of_absent (agrees : Matches h id) (absent : h.subscriptions.lookup id = none) :
    Dead h id := by
  intro generation
  by_contra alive
  have named := (agrees generation).1 (by simpa using alive)
  simp [entryOf, absent] at named

/-- A block about another identifier. -/
theorem isLive_spared {next : HostProtocol ω P} (ordered : Ordered h) (up : h.up = true)
    (ordered' : Ordered next) (up' : next.up = true) (spares : Spares id h next)
    (generation : Nat) : next.flow.isLive id generation = h.flow.isLive id generation := by
  rw [isLive_eq_opened ordered' up', isLive_eq_opened ordered up, spares.milestones]

theorem Matches.spared {next : HostProtocol ω P} (agrees : Matches h id) (ordered : Ordered h)
    (up : h.up = true) (ordered' : Ordered next) (up' : next.up = true)
    (spares : Spares id h next) : Matches next id := by
  intro generation
  rw [isLive_spared ordered up ordered' up' spares, agrees generation, entryOf, entryOf, spares.entry]

/-- A stream that ends with an error leaves nothing live and no entry. -/
theorem matches_of_failed {next : HostProtocol ω P} {generation : Nat} (ordered : Ordered h)
    (up : h.up = true) (ordered' : Ordered next) (up' : next.up = true) (agrees : Matches h id)
    (live : h.flow.isLive id generation = true)
    (adds : Adds id (ownMilestones id id [.failed generation, .retired generation]) h next)
    (erased : next.subscriptions = h.subscriptions.erase id) : Matches next id := by
  rw [ownMilestones_self] at adds
  refine matches_of_dead (dead_of_ended [.failed generation] ordered up ordered' up' agrees live
    adds ?_) ?_
  · intro milestone member
    exact ⟨generation, List.mem_singleton.1 member⟩
  · rw [erased, Table.lookup_erase, if_pos rfl]

/-- A barrier that fails leaves a failed channel: a dead generation cannot recover. -/
theorem beginRecovery_dead {s : Flow (Output ω (HostFrame P InteractionError)) P InteractionError}
    {previous : Nat} (dead : s.isLive id previous = false) (nextGeneration queueLimit : Nat)
    (barrier : HostFrame P InteractionError) :
    (s.beginRecovery (writeFrame outputSink) id previous nextGeneration queueLimit barrier).1 =
      false := by
  have refused : s.retire (writeFrame outputSink) id previous barrier = (false, s) := by
    have gone : (s.stream? id previous).filter (fun stream => stream.live) = none := by
      cases found : s.stream? id previous with
      | none => rfl
      | some stream => simpa [isLive, found] using dead
    unfold retire
    rw [gone]
  unfold beginRecovery
  split
  · rfl
  · rw [refused]
    rfl

/-- A status for a dead stream that is not recovering costs the channel. -/
theorem emitStatus_dead {status : SubscriptionStatus} {active : ActiveSubscription}
    (up : h.up = true) (found : h.subscriptions.lookup status.subscriptionId = some active)
    (takes : h.takesStatus status = true) (kind : status.status = .resubscribing)
    (steady : active.recovering = false)
    (healthy : (h.emitStatus outputSink status).2.healthy = true) :
    h.flow.isLive status.subscriptionId active.generation = true := by
  by_contra alive
  have dead : h.flow.isLive status.subscriptionId active.generation = false := by simpa using alive
  obtain ⟨isHealthy, isOpen⟩ := up_iff.1 up
  simp only [takesStatus, found, Option.any_some, Bool.and_eq_true, decide_eq_true_eq] at takes
  obtain ⟨⟨named, numbered, attempted, few⟩, resubscribe, takes⟩ := takes
  unfold emitStatus at healthy
  rw [if_neg (by simp [isHealthy, isOpen, numbered, attempted, few]; simpa using named)] at healthy
  simp only [found, Option.filter_some, resubscribe, ↓reduceIte, kind] at healthy
  unfold emitResubscribing at healthy
  dsimp only at healthy
  split at healthy
  · rename_i guards
    simp [ActiveSubscription.takes, kind, steady] at takes guards
    grind
  · rcases write_cases outputSink h (.resubscribing h.sessionGeneration status.subscriptionId
        status.generation status.attempt) with ⟨sink, accepted, wrote⟩ | ⟨refused, down⟩
    · simp only [wrote, Bool.not_true, Bool.false_eq_true, ↓reduceIte, steady, Bool.not_false]
        at healthy
      rw [if_neg] at healthy
      · cases healthy
      · rw [beginRecovery_dead]
        · simp
        · exact dead
    · simp only [refused, Bool.not_false, ↓reduceIte] at healthy
      rw [down] at healthy
      cases healthy

/-- The identifier of an accepted status: its entry names what is live. -/
theorem matches_of_told {next : HostProtocol ω P} {status : SubscriptionStatus}
    {active : ActiveSubscription} (ordered : Ordered h) (up : h.up = true)
    (ordered' : Ordered next) (up' : next.up = true)
    (found : h.subscriptions.lookup status.subscriptionId = some active)
    (agrees : Matches h status.subscriptionId)
    (told : Told status.subscriptionId status active h next) :
    Matches next status.subscriptionId := by
  intro generation
  have adds := told.adds
  rw [ownMilestones_self] at adds
  have before : h.flow.isLive status.subscriptionId generation = true ↔
      active.generation = generation := by
    rw [agrees generation, entryOf, found]
    simp
  have entry : next.entryOf status.subscriptionId = some (active.after status).generation := by
    rw [entryOf, told.subscriptions, Table.lookup_insert_self]
    rfl
  rw [isLive_of_adds ordered' up' adds, entry]
  rw [isLive_eq_opened ordered up] at before
  cases kind : status.status with
  | resubscribing =>
      cases recovering : active.recovering with
      | true =>
          simp only [ActiveSubscription.turns, ActiveSubscription.after, kind, recovering, if_true,
            opened_snoc, Option.some.injEq]
          exact before
      | false =>
          simp only [ActiveSubscription.turns, ActiveSubscription.after, kind, recovering,
            Bool.false_eq_true, if_false, Option.some.injEq]
          rw [List.append_cons, List.append_cons _ (Milestone.retired _), opened_snoc, opened_snoc,
            opened_snoc]
          dsimp only
          split
          · rename_i here
            simp [here]
          · rename_i elsewhere
            split
            · simp [elsewhere]
            · rename_i other
              rw [before]
              simp [elsewhere, other]
  | resubscribed =>
      simp only [ActiveSubscription.turns, ActiveSubscription.after, kind, opened_snoc,
        Option.some.injEq]
      exact before

/-- The condition on a block: a stream is not admitted under an identifier that is taken. -/
def unclaimed (s : Session ω P) : Call P → Prop
  | .admitSubscription subscriptionId generation queueLimit _ =>
      s.erasing = none → (s.host.flow.addStream subscriptionId generation queueLimit).1 = true →
        s.host.subscriptions.lookup subscriptionId = none
  | _ => True

theorem admitSubscription_matches {generation queueLimit : Nat} {resubscribe : Bool}
    (ordered : Ordered h) (up : h.up = true)
    (up' : (h.admitSubscription id generation queueLimit resubscribe).2.up = true)
    (agrees : Matches h id)
    (free : (h.flow.addStream id generation queueLimit).1 = true →
      h.subscriptions.lookup id = none) :
    Matches (h.admitSubscription id generation queueLimit resubscribe).2 id := by
  have ordered' := admitSubscription_ordered ordered id generation queueLimit resubscribe
  unfold admitSubscription at up' ordered' ⊢
  by_cases admitted : (h.flow.addStream id generation queueLimit).1 = true
  · have absent := free admitted
    have told := addStream_milestones id admitted
    rw [ownMilestones_self] at told
    simp only [admitted, if_true, absent, Option.isSome_none, Bool.false_eq_true, if_false]
      at up' ordered' ⊢
    intro other
    rw [isLive_eq_opened ordered' up']
    dsimp only
    rw [told, opened_snoc]
    dsimp only
    rw [← isLive_eq_opened ordered up, dead_of_absent agrees absent other, entryOf]
    dsimp only
    rw [Table.lookup_insert_self]
    simp
  · rcases addStream_cases h.flow id generation queueLimit with refused | ⟨-, result⟩
    · simp only [refused, Bool.false_eq_true, if_false]
      exact agrees
    · rw [result] at admitted
      exact absurd rfl admitted

/-- The blocks of the SDK's thread keep an identifier's tables matched. -/
theorem fromSdk_matches {c : Call P} (fromSdk : c.fromSdk = true) (ordered : Ordered h)
    (up' : (h.call outputSink c).up = true) (agrees : Matches h id) :
    Matches (h.call outputSink c) id := by
  have up := up_of_call c up'
  have ordered' : Ordered (h.call outputSink c) := call_ordered ordered c
  by_cases other : c.subject? = some id
  · have healthy := (up_iff.1 up').1
    cases c with
    | emitReport report =>
        obtain rfl := Option.some.inj other
        rcases emitReport_adds report.subscriptionId ordered up report healthy with
          ⟨adds, same⟩ | ⟨-, live, adds, erased⟩
        · exact agrees.spared ordered up ordered' up' (adds.spares (congrArg _ same))
        · exact matches_of_failed ordered up ordered' up' agrees live adds erased
    | emitStatus status =>
        obtain rfl := Option.some.inj other
        rcases emitStatus_cases status.subscriptionId ordered up status healthy with
          ⟨-, refused⟩ | ⟨active, found, -, -, told⟩
        · simp only [call, refused]
          exact agrees
        · exact matches_of_told ordered up ordered' up' found agrees told
    | emitFailure subscriptionId generation error =>
        obtain rfl := Option.some.inj other
        cases live : h.flow.isLive subscriptionId generation with
        | false =>
            rw [call, emitFailure_dead live]
            exact agrees
        | true =>
            obtain ⟨adds, erased⟩ := emitFailure_adds subscriptionId ordered up live error healthy
            exact matches_of_failed ordered up ordered' up' agrees live adds erased
    | _ => cases fromSdk
  · exact agrees.spared ordered up ordered' up' (call_spares ordered c other up')

/-- The blocks of the SDK's thread do not revive an identifier. -/
theorem fromSdk_dead {c : Call P} (fromSdk : c.fromSdk = true) (ordered : Ordered h)
    (up' : (h.call outputSink c).up = true) (dead : Dead h id) : Dead (h.call outputSink c) id := by
  have up := up_of_call c up'
  have ordered' : Ordered (h.call outputSink c) := call_ordered ordered c
  have spared : Spares id h (h.call outputSink c) → Dead (h.call outputSink c) id := by
    intro spares generation
    rw [isLive_spared ordered up ordered' up' spares, dead generation]
  by_cases other : c.subject? = some id
  · have healthy := (up_iff.1 up').1
    cases c with
    | emitReport report =>
        obtain rfl := Option.some.inj other
        rcases emitReport_adds report.subscriptionId ordered up report healthy with
          ⟨adds, same⟩ | ⟨-, live, -⟩
        · exact spared (adds.spares (congrArg _ same))
        · rw [dead report.generation] at live
          cases live
    | emitStatus status =>
        obtain rfl := Option.some.inj other
        rcases emitStatus_cases status.subscriptionId ordered up status healthy with
          ⟨-, refused⟩ | ⟨active, found, takes, -, told⟩
        · simp only [call, refused]
          exact dead
        · have adds := told.adds
          rw [ownMilestones_self] at adds
          intro generation
          have before : opened generation (milestones status.subscriptionId h.flow.events) = false := by
            rw [← isLive_eq_opened ordered up]
            exact dead generation
          rw [isLive_of_adds ordered' up' adds]
          -- A first attempt would have needed the dead stream to be live.
          cases kind : status.status with
          | resubscribing =>
              cases recovering : active.recovering with
              | true =>
                  simp only [ActiveSubscription.turns, kind, recovering, if_true, opened_snoc]
                  exact before
              | false =>
                  have live := emitStatus_dead up found takes kind recovering healthy
                  rw [dead active.generation] at live
                  cases live
          | resubscribed =>
              simp only [ActiveSubscription.turns, kind, opened_snoc]
              exact before
    | emitFailure subscriptionId generation error =>
        obtain rfl := Option.some.inj other
        rw [call, emitFailure_dead (dead generation)]
        exact dead
    | _ => cases fromSdk
  · exact spared (call_spares ordered c other up')

/-! ## Sessions -/

/-- The tables match, but for the entry that an `unsubscribe` has still to erase. -/
structure Session.Agreeing (s : Session ω P) : Prop where
  ordered : Ordered s.host
  matched : s.host.up = true → ∀ id, s.erasing ≠ some id → Matches s.host id
  dead : s.host.up = true → ∀ id, s.erasing = some id → Dead s.host id

theorem input_call_agreeing {s : Session ω P} (agreeing : s.Agreeing) (none : s.erasing = none)
    {c : Call P} (notRetire : ∀ id generation, c ≠ .unsubscribeRetire id generation)
    (notFinish : ∀ request id, c ≠ .unsubscribeFinish request id) (input : c.fromSdk = false)
    (free : unclaimed s c) :
    Session.Agreeing { s with host := s.host.call outputSink c } where
  ordered := call_ordered agreeing.ordered c
  matched := by
    intro up' id _
    have up := up_of_call c up'
    have agrees := agreeing.matched up id (by simp [none])
    by_cases other : c.subject? = some id
    · cases c with
      | admitSubscription subscriptionId generation queueLimit resubscribe =>
          obtain rfl := Option.some.inj other
          exact admitSubscription_matches agreeing.ordered up up' agrees (free none)
      | unsubscribeBegin request subscriptionId generation =>
          simp only [call, unsubscribeBegin]
          split_ifs <;> exact agrees
      | unsubscribeCancelled request subscriptionId generation cancelled =>
          simp only [call, unsubscribeCancelled]
          split_ifs <;> exact agrees
      | unsubscribeRetire subscriptionId generation => exact absurd rfl (notRetire _ _)
      | unsubscribeFinish request subscriptionId => exact absurd rfl (notFinish _ _)
      | reportAck => cases other
      | requestClose => cases other
      | close => cases other
      | emitReport => cases input
      | emitStatus => cases input
      | emitFailure => cases input
    · exact agrees.spared agreeing.ordered up (call_ordered agreeing.ordered c) up'
        (call_spares agreeing.ordered c other up')
  dead := fun _ id erasing => by
    rw [show s.erasing = some id from erasing] at none
    cases none

/-- An `unsubscribe` that goes on after its barrier has retired a live stream. -/
theorem unsubscribeRetire_up {subscriptionId : String} {generation : Nat}
    (up' : (h.unsubscribeRetire outputSink subscriptionId generation).2.up = true) :
    h.flow.isLive subscriptionId generation = true ∧
      (h.retireStream outputSink subscriptionId generation).1 = true ∧
      h.unsubscribeRetire outputSink subscriptionId generation =
        (.proceed, (h.retireStream outputSink subscriptionId generation).2) := by
  unfold unsubscribeRetire at up' ⊢
  split at up'
  · rename_i live
    dsimp only at up'
    split at up'
    · rename_i retired
      simp only [live, retired, if_true, and_self]
    · cases (up_iff.1 up').2
  · cases (up_iff.1 up').2

theorem retire_agreeing {s : Session ω P} (agreeing : s.Agreeing) (none : s.erasing = none)
    (subscriptionId : String) (generation : Nat) :
    Session.Agreeing
      { host := s.host.call outputSink (.unsubscribeRetire subscriptionId generation)
        erasing := erasingAfter outputSink s.host subscriptionId generation } := by
  have ordered' : Ordered (s.host.call outputSink
      (.unsubscribeRetire subscriptionId generation)) := call_ordered agreeing.ordered _
  have erases : (s.host.call outputSink (.unsubscribeRetire subscriptionId generation)).up = true →
      erasingAfter outputSink s.host subscriptionId generation = some subscriptionId := by
    intro up'
    unfold erasingAfter
    rw [(unsubscribeRetire_up up').2.2]
  refine ⟨ordered', fun up' id different => ?_, fun up' id erasing => ?_⟩
  · have up := up_of_call _ up'
    refine (agreeing.matched up id (by simp [none])).spared agreeing.ordered up ordered' up'
      (call_spares agreeing.ordered _ ?_ up')
    intro here
    rw [Call.subject?] at here
    exact different ((erases up').trans here)
  · have up := up_of_call _ up'
    obtain ⟨live, retired, result⟩ := unsubscribeRetire_up up'
    obtain rfl := Option.some.inj ((erases up').symm.trans erasing)
    have flowing := agreeing.ordered (up_iff.1 up).1 (up_iff.1 up).2
    have adds : Adds subscriptionId _ _ _ :=
      retireStream_adds retired flowing.books flowing.encoded
    rw [ownMilestones_self] at adds
    have next : s.host.call outputSink (.unsubscribeRetire subscriptionId generation) =
        (s.host.retireStream outputSink subscriptionId generation).2 := congrArg Prod.snd result
    rw [← next] at adds
    exact dead_of_ended [] agreeing.ordered up ordered' up'
      (agreeing.matched up subscriptionId (by simp [none])) live adds (by simp)

/-- The entry of the retired stream is erased. -/
theorem finish_agreeing {s : Session ω P} (agreeing : s.Agreeing) {subscriptionId : String}
    (erasing : s.erasing = some subscriptionId) (request : String) :
    Session.Agreeing
      { host := s.host.call outputSink (.unsubscribeFinish request subscriptionId) } := by
  have ordered' : Ordered (s.host.call outputSink (.unsubscribeFinish request subscriptionId)) :=
    call_ordered agreeing.ordered _
  refine ⟨ordered', fun up' id _ => ?_, fun _ _ impossible => by cases impossible⟩
  have up := up_of_call _ up'
  by_cases here : id = subscriptionId
  · subst here
    refine matches_of_dead (agreeing.dead up id erasing) ?_
    simp only [call, unsubscribeFinish]
    rw [Table.lookup_erase, if_pos rfl]
  · refine (agreeing.matched up id ?_).spared agreeing.ordered up ordered' up'
      (call_spares agreeing.ordered _ ?_ up')
    · rw [erasing]
      exact fun same => here (Option.some.inj same).symm
    · exact fun same => here (Option.some.inj same).symm

/-- **One block** keeps the tables in agreement. -/
theorem step_agreeing {s : Session ω P} (agreeing : s.Agreeing) {c : Call P}
    (free : unclaimed s c) : (s.step outputSink c).Agreeing := by
  unfold Session.step
  split
  · rename_i fromSdk
    exact
      { ordered := call_ordered agreeing.ordered c
        matched := fun up' id different => fromSdk_matches fromSdk agreeing.ordered up'
          (agreeing.matched (up_of_call c up') id different)
        dead := fun up' id erasing => fromSdk_dead fromSdk agreeing.ordered up'
          (agreeing.dead (up_of_call c up') id erasing) }
  · rename_i input
    have input : c.fromSdk = false := by simpa using input
    cases erasing : s.erasing with
    | none =>
        by_cases retire : ∃ id generation, c = .unsubscribeRetire id generation
        · obtain ⟨id, generation, rfl⟩ := retire
          simp only [Session.input, erasing]
          exact retire_agreeing agreeing erasing id generation
        · by_cases finish : ∃ request id, c = .unsubscribeFinish request id
          · obtain ⟨request, id, rfl⟩ := finish
            simp only [Session.input, erasing]
            exact agreeing
          · have plain : s.input outputSink c = { s with host := s.host.call outputSink c } := by
              cases c with
              | unsubscribeRetire id generation => exact absurd ⟨id, generation, rfl⟩ retire
              | unsubscribeFinish request id => exact absurd ⟨request, id, rfl⟩ finish
              | _ => simp only [Session.input, erasing]
            rw [plain]
            exact input_call_agreeing agreeing erasing
              (fun id generation same => retire ⟨id, generation, same⟩)
              (fun request id same => finish ⟨request, id, same⟩) input free
    | some subscriptionId =>
        cases c with
        | unsubscribeFinish request finished =>
            simp only [Session.input, erasing]
            split
            · rename_i same
              subst same
              exact finish_agreeing agreeing erasing request
            · exact agreeing
        | _ =>
            simp only [Session.input, erasing]
            exact agreeing

/-- Every block of a session satisfies `p` where it is entered. -/
def Session.Always (outputSink : ω → HostFrame P InteractionError → Bool × ω)
    (p : Session ω P → Call P → Prop) : Session ω P → List (Call P) → Prop
  | _, [] => True
  | s, c :: rest => p s c ∧ Session.Always outputSink p (s.step outputSink c) rest

theorem run_agreeing (calls : List (Call P)) : ∀ {s : Session ω P}, s.Agreeing →
    Session.Always outputSink unclaimed s calls → (s.run outputSink calls).Agreeing := by
  induction calls with
  | nil => exact fun agreeing _ => agreeing
  | cons c rest ih => exact fun agreeing free => ih (step_agreeing agreeing free.1) free.2

/-- **The two tables agree.**  In every run of the host's locked blocks, of both threads, with
any arguments and any writer, in which no stream is admitted under an identifier that is
still in `subscriptions_`: whenever the channel is healthy and the session open, the live
generations of an identifier are exactly the one its entry names.  Only the identifier of an
`unsubscribe` line between its last two blocks is excepted. -/
theorem run_tables_agree (outputSink : ω → HostFrame P InteractionError → Bool × ω) (writer : ω)
    (sessionGeneration : String) (calls : List (Call P))
    (free : Session.Always outputSink unclaimed (Session.opened writer sessionGeneration) calls)
    (up : ((Session.opened writer sessionGeneration).run outputSink calls).host.up = true)
    (id : String)
    (settled : ((Session.opened writer sessionGeneration).run outputSink calls).erasing ≠ some id) :
    Matches ((Session.opened writer sessionGeneration).run outputSink calls).host id := by
  have initial : Session.Agreeing (Session.opened writer sessionGeneration : Session ω P) :=
    { ordered := runCalls_ordered outputSink writer sessionGeneration []
      matched := fun _ id _ => matches_of_dead (fun _ => rfl) rfl
      dead := fun _ _ impossible => by cases impossible }
  exact (run_agreeing calls initial free).matched up id settled

/-- A subscription that recovers, and one that ends. -/
def recoveringCalls : List (Call Nat) :=
  [.admitSubscription "a" 1 8 true, .admitSubscription "b" 1 8 true,
    .emitStatus ⟨"a", 2, .resubscribing, .lost, 1, 0, 0, 0⟩,
    .unsubscribeBegin "4" "b" 1, .unsubscribeCancelled "4" "b" 1 ⟨true, ""⟩,
    .unsubscribeRetire "b" 1, .unsubscribeFinish "4" "b"]

theorem run_tables_agree_recovering :
    Matches ((Session.opened () "g").run (fun _ _ => (true, ())) recoveringCalls).host "a" ∧
      Matches ((Session.opened () "g").run (fun _ _ => (true, ())) recoveringCalls).host "b" :=
  have free : Session.Always (fun _ _ => (true, ())) unclaimed (Session.opened () "g")
      recoveringCalls := by
    simp only [recoveringCalls, Session.Always, unclaimed, and_true]
    exact ⟨fun _ _ => rfl, fun _ _ => rfl⟩
  ⟨run_tables_agree _ () "g" recoveringCalls free (by decide) "a" (by decide),
    run_tables_agree _ () "g" recoveringCalls free (by decide) "b" (by decide)⟩

/-- The identifier of a subscription that has recovered is used again. -/
def reusingCalls : List (Call Nat) :=
  [.admitSubscription "a" 1 8 true, .emitStatus ⟨"a", 2, .resubscribing, .lost, 1, 0, 0, 0⟩,
    .admitSubscription "a" 1 8 true]

/-- Both generations are live, and the entry names only one. -/
theorem run_tables_disagree_reused :
    ((Session.opened () "g").run (fun _ _ => (true, ())) reusingCalls).host.up = true ∧
      ((Session.opened () "g").run (fun _ _ => (true, ())) reusingCalls).erasing = none ∧
      ¬ Matches ((Session.opened () "g").run (fun _ _ => (true, ())) reusingCalls).host "a" := by
  refine ⟨by decide, by decide, fun agrees => ?_⟩
  have named := (agrees 1).1 (by decide)
  exact absurd named (by decide)

end HostProtocol

end WotexMatter.Native
