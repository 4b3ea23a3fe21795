/-
# WotexMatter.Native.RecoveryAttempts -- what one attempt of a recovery delivers

`OnResubscriptionNeeded` prepares the buffer for the first attempt of a loss window and
leaves it alone for the later ones.  `Attempt` records what has happened since the last
attempt was granted: the results that were added and whether a report is open; `known` is
the event cache from before the window.

`Gathering` says that the buffer holds what this attempt has brought and nothing else.  It
survives a later attempt exactly if the abandoned one left nothing behind (`abandonsClean`).
`run_attempt` is about every run in which it does, `run_attempt_stale` is one in which it
does not.
-/
import WotexMatter.Native.NativeSubscription

set_option autoImplicit false
set_option linter.unusedSectionVars false

namespace WotexMatter.Native

/-- What has happened since the last attempt was granted. -/
structure Attempt (V : Type) where
  known : List (ConcretePath × Nat) := []
  added : List (PathResult V) := []
  reportOpen : Bool := false

/-- The SDK calls back, or the input thread activates the subscription. -/
inductive Move (V : Type) where
  | callback (platform : Platform) (callback : Callback V)
  | activate (platform : Platform)

namespace NativeSubscription

variable {V : Type}

/-- `OnResubscriptionNeeded` asks for an attempt and is granted one. -/
def granted (n : NativeSubscription V) (nowMs : Nat) : Bool :=
  n.response.ok && !n.cancelled && !n.done &&
    decide ((n.recovery.next nowMs).1.action = .retry)

/-- A later attempt of the window finds nothing of the abandoned one in an active buffer. -/
def abandonsClean (n : NativeSubscription V) : Move V → Bool
  | .callback _ (.resubscriptionNeeded nowMs) =>
      !n.granted nowMs || decide ((n.recovery.next nowMs).1.attempt = 1) || !n.buffer.active ||
        (n.buffer.buffered.isEmpty && !n.buffer.inReport)
  | _ => true

end NativeSubscription

/-- The record of the attempt after a move. -/
def Attempt.after {V : Type} (a : Attempt V) (n : NativeSubscription V) : Move V → Attempt V
  | .callback _ .reportBegin => { a with reportOpen := true }
  | .callback _ .reportEnd => { a with reportOpen := false }
  | .callback _ (.data (.ok result)) => { a with added := a.added ++ [result] }
  | .callback _ (.resubscriptionNeeded nowMs) =>
      if n.granted nowMs then
        { known := if (n.recovery.next nowMs).1.attempt = 1 then n.buffer.eventIdCache else a.known }
      else a
  | _ => a

/-- The two results are the same attribute, or the same event. -/
def SameIdentity {V : Type} (kind : SubscriptionKind) (result result' : PathResult V) : Prop :=
  match kind with
  | .attributes => result.path = result'.path
  | .events => result.identity? = result'.identity?

/-! ## The buffer during an attempt -/

/-- The buffer holds what the attempt has brought. -/
structure Gathering {V : Type} (b : SubscriptionBuffer V) (a : Attempt V) : Prop where
  unestablished : b.established = false
  inactive : b.activated = false
  unready : b.ready = []
  inReport : b.inReport = a.reportOpen
  fresh : (b.buffered.map fun report => report.payload.result).Sublist a.added
  covered : ∀ result ∈ a.added,
    (∃ report ∈ b.buffered, SameIdentity b.request.kind report.payload.result result) ∨
      b.request.kind = .events ∧ ∃ identity ∈ a.known, result.identity? = some identity
  initial : b.request.kind = .attributes →
    b.initialAttributePaths = b.buffered.map fun report => report.payload.result.path
  current : b.request.kind = .attributes → b.currentAttributePaths ⊆ b.initialAttributePaths
  distinct : b.request.kind = .attributes →
    (b.buffered.map fun report => report.payload.result.path).Nodup
  remembered : b.request.kind = .events →
    ∀ identity, identity ∈ b.currentEventIds ∨ identity ∈ b.eventIdCache →
      identity ∈ a.known ∨
        ∃ report ∈ b.buffered, report.payload.result.identity? = some identity

section Buffer

variable {V : Type} {b : SubscriptionBuffer V} {a : Attempt V}

theorem beginReport_gathering (gathering : Gathering b a)
    (active : b.beginReport.active = true) :
    Gathering b.beginReport { a with reportOpen := true } := by
  unfold SubscriptionBuffer.beginReport at active ⊢
  split at active
  · cases active
  · rename_i guards
    rw [if_neg guards]
    exact { gathering with
      inReport := rfl
      current := fun _ => List.nil_subset _
      remembered := fun kind identity member => gathering.remembered kind identity
        (.inr (member.resolve_left List.not_mem_nil)) }

theorem endReport_gathering (gathering : Gathering b a) :
    Gathering b.endReport.takeReady.2 { a with reportOpen := false } :=
  { gathering with
    unready := rfl
    inReport := rfl }

/-- Activating an unestablished buffer takes nothing out of it. -/
theorem activate_gathering (gathering : Gathering b a) :
    Gathering b.activate.takeReady.2 a := by
  unfold SubscriptionBuffer.activate
  rw [if_pos (.inr (.inl (by rw [gathering.unestablished]; rfl)))]
  exact { gathering with unready := rfl }

theorem recovered_gathering (generation : Nat) :
    Gathering (b.recovered generation) ({ known := b.eventIdCache } : Attempt V) where
  unestablished := rfl
  inactive := rfl
  unready := rfl
  inReport := rfl
  fresh := List.Sublist.slnil
  covered := fun _ member => by cases member
  initial := fun _ => rfl
  current := fun _ => List.nil_subset _
  distinct := fun _ => List.nodup_nil
  remembered := fun _ _ member => .inl (member.resolve_left List.not_mem_nil)

/-- A later attempt starts where the abandoned one left the buffer empty. -/
theorem abandoned_gathering (gathering : Gathering b a) (empty : b.buffered = [])
    (closed : b.inReport = false) : Gathering b ({ known := a.known } : Attempt V) :=
  { gathering with
    inReport := closed
    fresh := by rw [empty]; exact List.Sublist.slnil
    covered := fun _ member => by cases member }

/-- The three ways `Add` can leave the buffer active. -/
theorem add_active {result : PathResult V} (active : (b.add result).2.active = true)
    (accepted : (b.add result).1 = true) :
    (b.duplicateInCurrentReport result = true ∨ b.suppressedDuplicate result = true) ∧
        (b.add result).2 = b ∨
      validSubscriptionReport b.request (b.stamped result) = true ∧
        b.duplicateInCurrentReport result = false ∧ b.suppressedDuplicate result = false ∧
        (b.add result).2 = (b.remember result).store (b.stamped result) := by
  unfold SubscriptionBuffer.add at active accepted ⊢
  split at active
  · rename_i guards
    rw [if_pos guards] at accepted
    cases accepted
  · rename_i guards
    rw [if_neg guards] at accepted ⊢
    split at active
    · rename_i duplicate
      rw [if_pos duplicate]
      exact .inl ⟨by simpa using duplicate, rfl⟩
    · rename_i fresh
      rw [if_neg fresh] at accepted ⊢
      split at active
      · cases active
      · rename_i valid
        rw [if_neg valid]
        simp only [Bool.or_eq_true, not_or, Bool.not_eq_true] at fresh
        refine .inr ⟨?_, fresh.1, fresh.2, rfl⟩
        by_contra refused
        exact valid (.inl (by simpa using refused))

/-- A duplicate of this attempt, or of an event from before the window. -/
theorem duplicate_covered (gathering : Gathering b a) {result : PathResult V}
    (duplicate : b.duplicateInCurrentReport result = true ∨ b.suppressedDuplicate result = true) :
    (∃ report ∈ b.buffered, SameIdentity b.request.kind report.payload.result result) ∨
      b.request.kind = .events ∧ ∃ identity ∈ a.known, result.identity? = some identity := by
  unfold SubscriptionBuffer.duplicateInCurrentReport SubscriptionBuffer.suppressedDuplicate
    at duplicate
  cases kind : b.request.kind with
  | attributes =>
      simp only [kind, decide_eq_true_eq, gathering.unestablished, Bool.not_false,
        Bool.true_and] at duplicate
      have seen : result.path ∈ b.initialAttributePaths :=
        duplicate.elim (fun here => gathering.current kind here) id
      rw [gathering.initial kind, List.mem_map] at seen
      obtain ⟨report, member, same⟩ := seen
      exact .inl ⟨report, member, same⟩
  | events =>
      simp only [kind] at duplicate
      cases found : result.identity? with
      | none => simp [found] at duplicate
      | some identity =>
          simp only [found, Option.any_some, decide_eq_true_eq] at duplicate
          rcases gathering.remembered kind identity duplicate with before | ⟨report, member, same⟩
          · exact .inr ⟨rfl, identity, before, rfl⟩
          · exact .inl ⟨report, member, same.trans found.symm⟩

theorem sameIdentity_refl (kind : SubscriptionKind) (result : PathResult V) :
    SameIdentity kind result result := by
  unfold SameIdentity
  split <;> rfl

theorem store_waiting (waiting : b.activated = false) (report : NativeReport V) :
    b.store report = { b with buffered := b.buffered ++ [report] } := by
  unfold SubscriptionBuffer.store
  rw [waiting]
  rfl

theorem remember_activated (result : PathResult V) :
    (b.remember result).activated = b.activated := by
  unfold SubscriptionBuffer.remember
  split
  · rfl
  · split <;> rfl

/-- What `Add` stores while the buffer waits for its establishment. -/
theorem stored_gathering (gathering : Gathering b a) {result : PathResult V}
    (unsuppressed : b.suppressedDuplicate result = false) :
    Gathering ((b.remember result).store (b.stamped result))
      { a with added := a.added ++ [result] } := by
  rw [store_waiting ((remember_activated result).trans gathering.inactive)]
  have covers : ∀ (b' : SubscriptionBuffer V), b'.request = b.request →
      b'.buffered = b.buffered ++ [b.stamped result] →
      ∀ other ∈ a.added ++ [result],
        (∃ report ∈ b'.buffered, SameIdentity b'.request.kind report.payload.result other) ∨
          b'.request.kind = .events ∧ ∃ identity ∈ a.known, other.identity? = some identity := by
    intro b' request buffered other member
    rw [request, buffered]
    rcases List.mem_append.1 member with earlier | here
    · exact (gathering.covered other earlier).imp_left fun ⟨report, waiting, same⟩ =>
        ⟨report, List.mem_append_left _ waiting, same⟩
    · obtain rfl := List.mem_singleton.1 here
      exact .inl ⟨b.stamped other, by simp, sameIdentity_refl _ _⟩
  have fresh : ((b.buffered ++ [b.stamped result]).map fun report =>
      report.payload.result).Sublist (a.added ++ [result]) := by
    rw [List.map_append]
    exact gathering.fresh.append (List.Sublist.refl _)
  cases kind : b.request.kind with
  | attributes =>
      have unseen : result.path ∉ b.buffered.map fun report => report.payload.result.path := by
        rw [← gathering.initial kind]
        simpa [SubscriptionBuffer.suppressedDuplicate, kind, gathering.unestablished]
          using unsuppressed
      have remembered : b.remember result = { b with
          currentAttributePaths := b.currentAttributePaths ++ [result.path]
          initialAttributePaths := b.initialAttributePaths ++ [result.path] } := by
        unfold SubscriptionBuffer.remember
        rw [kind]
        dsimp only
        rw [if_neg (by rw [gathering.unestablished]; exact Bool.false_ne_true)]
      rw [remembered]
      exact
        { unestablished := gathering.unestablished
          inactive := gathering.inactive
          unready := gathering.unready
          inReport := gathering.inReport
          fresh
          covered := covers _ rfl rfl
          initial := fun _ => by
            rw [List.map_append, ← gathering.initial kind]
            rfl
          current := fun _ => by
            intro path member
            rcases List.mem_append.1 member with earlier | here
            · exact List.mem_append_left _ (gathering.current kind earlier)
            · exact List.mem_append_right _ here
          distinct := fun _ => by
            rw [List.map_append]
            refine List.Nodup.append (gathering.distinct kind) (by simp) ?_
            intro path earlier here
            obtain rfl := List.mem_singleton.1 here
            exact unseen earlier
          remembered := fun events => by
            dsimp only at events
            rw [kind] at events
            cases events }
  | events =>
      have keeps : ∀ (current cache : List (ConcretePath × Nat)),
          (∀ identity, identity ∈ current ∨ identity ∈ cache →
            identity ∈ b.currentEventIds ∨ identity ∈ b.eventIdCache ∨
              result.identity? = some identity) →
          Gathering { b with
            currentEventIds := current
            eventIdCache := cache
            buffered := b.buffered ++ [b.stamped result] }
            { a with added := a.added ++ [result] } := by
        intro current cache within
        exact
          { unestablished := gathering.unestablished
            inactive := gathering.inactive
            unready := gathering.unready
            inReport := gathering.inReport
            fresh
            covered := covers _ rfl rfl
            initial := fun attributes => by
              dsimp only at attributes
              rw [kind] at attributes
              cases attributes
            current := fun attributes => by
              dsimp only at attributes
              rw [kind] at attributes
              cases attributes
            distinct := fun attributes => by
              dsimp only at attributes
              rw [kind] at attributes
              cases attributes
            remembered := fun _ identity member => by
              rcases or_assoc.2 (within identity member) with earlier | here
              · exact (gathering.remembered kind identity earlier).imp_right
                  fun ⟨report, waiting, same⟩ => ⟨report, List.mem_append_left _ waiting, same⟩
              · exact .inr ⟨b.stamped result, by simp, here⟩ }
      unfold SubscriptionBuffer.remember
      rw [kind]
      dsimp only
      cases found : result.identity? with
      | none =>
          exact keeps b.currentEventIds b.eventIdCache fun _ member => member.imp_right Or.inl
      | some identity =>
          refine keeps _ _ fun other member => ?_
          have cached : other ∈ b.eventIdCache ++ [identity] →
              other ∈ b.eventIdCache ∨ result.identity? = some other := by
            intro there
            rcases List.mem_append.1 there with earlier | here
            · exact .inl earlier
            · obtain rfl := List.mem_singleton.1 here
              exact .inr found
          rcases member with now | later
          · rcases List.mem_append.1 now with earlier | here
            · exact .inl earlier
            · obtain rfl := List.mem_singleton.1 here
              exact .inr (.inr found)
          · dsimp only at later
            split at later
            · exact .inr (cached (List.mem_of_mem_tail later))
            · exact .inr (cached later)

theorem add_gathering (gathering : Gathering b a) {result : PathResult V}
    (active : (b.add result).2.active = true) (accepted : (b.add result).1 = true) :
    Gathering (b.add result).2 { a with added := a.added ++ [result] } := by
  rcases add_active active accepted with ⟨duplicate, same⟩ | ⟨-, -, unsuppressed, stored⟩
  · rw [same]
    exact { gathering with
      fresh := gathering.fresh.trans (List.sublist_append_left _ _)
      covered := fun other member => by
        rcases List.mem_append.1 member with earlier | here
        · exact gathering.covered other earlier
        · obtain rfl := List.mem_singleton.1 here
          exact duplicate_covered gathering duplicate }
  · rw [stored]
    exact stored_gathering gathering unsuppressed

end Buffer

/-! ## The subscription -/

/-- The parts of a subscription the attempts depend on are the same. -/
structure SameCore {V : Type} (n n' : NativeSubscription V) : Prop where
  buffer : n'.buffer = n.buffer
  recovering : n'.recovery.recovering = n.recovery.recovering
  failureEmitted : n'.failureEmitted = n.failureEmitted

/-- The invariant: a subscription that has told its failure is silent, and while it recovers
an active buffer gathers the results of the attempt. -/
structure Attempting {V : Type} (n : NativeSubscription V) (a : Attempt V) : Prop where
  silent : n.failureEmitted = true → n.buffer.active = false
  gathering : n.recovery.recovering = true → n.buffer.active = true → Gathering n.buffer a

section Stream

variable {ω V : Type} [Text (HostFrame (ReportBody V) InteractionError)]
  {outputSink : ω → HostFrame (ReportBody V) InteractionError → Bool × ω}
  {n n' : NativeSubscription V} {a : Attempt V} {s : NativeStream ω V} {platform : Platform}

theorem SameCore.attempting (same : SameCore n n') (attempting : Attempting n a) :
    Attempting n' a where
  silent := fun emitted => by
    rw [same.buffer]
    exact attempting.silent (same.failureEmitted ▸ emitted)
  gathering := fun recovering active => by
    rw [same.buffer] at active ⊢
    exact attempting.gathering (same.recovering ▸ recovering) active

/-- An inactive buffer is never established again. -/
theorem attempting_of_inactive (inactive : n.buffer.active = false) : Attempting n a where
  silent := fun _ => inactive
  gathering := fun _ active => by
    rw [inactive] at active
    cases active

theorem attempting_of_settled (silent : n.failureEmitted = true → n.buffer.active = false)
    (settled : n.recovery.recovering = false) : Attempting n a where
  silent := silent
  gathering := fun recovering => by
    rw [settled] at recovering
    cases recovering

theorem scheduleCancel_core (n : NativeSubscription V) (platform : Platform) :
    SameCore n (n.scheduleCancel platform) :=
  ⟨by simp, by simp, by simp⟩

theorem emit_core (reports : List (NativeReport V)) :
    ∀ s : NativeStream ω V, SameCore s.subscription
      (s.emit outputSink platform reports).2.subscription := by
  induction reports with
  | nil => exact fun _ => ⟨rfl, rfl, rfl⟩
  | cons report reports ih =>
      intro s
      rw [NativeStream.emit]
      split
      · exact ih { s with host := (s.host.emitReport outputSink report).2 }
      · exact scheduleCancel_core _ _

/-- After `FailActive` nothing is delivered any more. -/
theorem failActive_inactive (silent : s.subscription.failureEmitted = true →
      s.subscription.buffer.active = false) (error : InteractionError) :
    (s.failActive outputSink platform error).subscription.buffer.active = false := by
  rw [NativeStream.failActive_buffer]
  split
  · rename_i emitted
    exact silent emitted
  · rfl

theorem failActive_attempting (silent : s.subscription.failureEmitted = true →
      s.subscription.buffer.active = false) (error : InteractionError) :
    Attempting (s.failActive outputSink platform error).subscription a :=
  attempting_of_inactive (failActive_inactive silent error)

theorem add_attempting (attempting : Attempting s.subscription a) (result : PathResult V) :
    Attempting (s.add outputSink platform result).subscription
      { a with added := a.added ++ [result] } := by
  have silent : s.subscription.failureEmitted = true →
      (s.subscription.buffer.add result).2.active = false := by
    intro emitted
    have inactive := attempting.silent emitted
    unfold SubscriptionBuffer.add
    rw [if_pos (.inl (by rw [inactive]; rfl))]
    exact inactive
  unfold NativeStream.add
  dsimp only
  split
  · rename_i accepted
    refine ⟨silent, fun recovering active => ?_⟩
    have before : s.subscription.buffer.active = true := by
      by_contra inactive
      unfold NativeStream.withSubscription SubscriptionBuffer.add at active
      dsimp only at active
      rw [if_pos (.inl (by simpa using inactive))] at active
      exact inactive active
    exact add_gathering (attempting.gathering recovering before) active accepted
  · exact failActive_attempting silent _

theorem reportBegin_attempting (attempting : Attempting s.subscription a) :
    Attempting { s.subscription with buffer := s.subscription.buffer.beginReport }
      { a with reportOpen := true } := by
  have keeps : s.subscription.buffer.beginReport.active = true →
      s.subscription.buffer.active = true := by
    unfold SubscriptionBuffer.beginReport
    split
    · exact fun active => by cases active
    · exact id
  refine ⟨fun emitted => ?_, fun recovering active =>
    beginReport_gathering (attempting.gathering recovering (keeps active)) active⟩
  by_contra active
  have := attempting.silent emitted
  rw [keeps (by simpa using active)] at this
  cases this

theorem reportEnd_attempting (attempting : Attempting s.subscription a) :
    Attempting (s.onReportEnd outputSink platform).subscription { a with reportOpen := false } := by
  unfold NativeStream.onReportEnd
  refine (emit_core _ _).attempting ⟨attempting.silent, fun recovering active => ?_⟩
  exact endReport_gathering (attempting.gathering recovering active)

theorem activate_attempting (attempting : Attempting s.subscription a) :
    Attempting (s.activate outputSink platform).2.subscription a := by
  unfold NativeStream.activate
  split
  · exact attempting
  · refine (emit_core _ _).attempting ?_
    have flag : s.subscription.buffer.activate.takeReady.2.active =
        s.subscription.buffer.active := by
      unfold SubscriptionBuffer.activate
      split <;> rfl
    refine ⟨fun emitted => flag.trans (attempting.silent emitted), fun recovering active => ?_⟩
    exact activate_gathering (attempting.gathering recovering (flag ▸ active))

theorem established_attempting (attempting : Attempting s.subscription a)
    (sdkSubscriptionId : Nat) (intervals : Option (Nat × Nat)) :
    Attempting (s.onSubscriptionEstablished outputSink platform sdkSubscriptionId
      intervals).subscription a := by
  cases intervals with
  | none =>
      rw [NativeStream.onSubscriptionEstablished]
      split
      · exact failActive_attempting attempting.silent _
      · refine (scheduleCancel_core _ _).attempting (SameCore.attempting ?_ attempting)
        exact ⟨by simp, by simp, by simp⟩
  | some interval =>
      obtain ⟨minimum, maximum⟩ := interval
      rw [NativeStream.onSubscriptionEstablished]
      dsimp only
      have flag : (s.subscription.buffer.establish sdkSubscriptionId minimum maximum).2.active =
          true → s.subscription.buffer.active = true := by
        unfold SubscriptionBuffer.establish
        split
        · exact fun active => by cases active
        · exact id
      have silent : s.subscription.failureEmitted = true →
          (s.subscription.buffer.establish sdkSubscriptionId minimum maximum).2.active =
            false := by
        intro emitted
        by_contra active
        have inactive := attempting.silent emitted
        rw [flag (by simpa using active)] at inactive
        cases inactive
      split
      · split
        · unfold NativeStream.reestablished
          dsimp only
          have released : ∀ b : SubscriptionBuffer V,
              b.activate.takeReady.2.active = b.active := by
            intro b
            unfold SubscriptionBuffer.activate
            split <;> rfl
          split
          · refine (emit_core _ _).attempting (attempting_of_settled ?_ rfl)
            intro emitted
            simp only [NativeStream.withSubscription, NativeStream.emitStatus_subscription] at emitted ⊢
            exact (released _).trans (silent emitted)
          · refine failActive_attempting (fun emitted => ?_) _
            simp only [NativeStream.emitStatus_subscription] at emitted ⊢
            exact (released _).trans (silent emitted)
        · exact failActive_attempting silent _
      · rename_i settled
        have quiet : s.subscription.recovery.recovering = false := by simpa using settled
        split
        · exact attempting_of_settled silent quiet
        · refine (scheduleCancel_core _ _).attempting ?_
          exact attempting_of_settled silent quiet

omit [Text (HostFrame (ReportBody V) InteractionError)] in
/-- Only a window that is open has a second attempt. -/
theorem recovering_of_later {r : SubscriptionRecovery} {nowMs : Nat}
    (retries : (r.next nowMs).1.action = .retry) (later : (r.next nowMs).1.attempt ≠ 1) :
    r.recovering = true := by
  unfold SubscriptionRecovery.next at retries later
  split at retries
  · cases retries
  · rename_i enabled
    rw [if_neg enabled] at later
    split at retries
    · cases retries
    · rename_i countable
      rw [if_neg countable] at later
      by_contra settled
      dsimp only at retries later
      split at retries
      · cases retries
      · rename_i room
        rw [if_neg room] at later
        simp [SubscriptionRecovery.entered, settled] at later

/-- The buffer an attempt starts with. -/
theorem nextAttempt_attempting (attempting : Attempting n a) {nowMs : Nat}
    (asked : n.response.ok = true ∧ n.cancelled = false ∧ n.done = false)
    (retries : (n.recovery.next nowMs).1.action = .retry)
    (prepared : (n.nextAttempt nowMs).2.1 = true)
    (clean : n.abandonsClean (.callback platform (.resubscriptionNeeded nowMs)) = true) :
    Attempting (n.nextAttempt nowMs).2.2
      (a.after n (.callback platform (.resubscriptionNeeded nowMs))) := by
  have granted : n.granted nowMs = true := by
    simp [NativeSubscription.granted, asked, retries]
  simp only [Attempt.after, granted, if_true]
  by_cases first : (n.recovery.next nowMs).1.attempt = 1
  · have both : (n.recovery.next nowMs).1.action = .retry ∧
        (n.recovery.next nowMs).1.attempt = 1 := ⟨retries, first⟩
    simp only [NativeSubscription.nextAttempt, if_pos both] at prepared ⊢
    unfold SubscriptionBuffer.prepareRecovery at prepared ⊢
    split at prepared
    · rename_i admitted
      rw [if_pos admitted, if_pos first]
      refine ⟨fun emitted => ?_, fun _ _ => recovered_gathering _⟩
      exact attempting.silent emitted
    · cases prepared
  · have one : ¬ ((n.recovery.next nowMs).1.action = .retry ∧
        (n.recovery.next nowMs).1.attempt = 1) := fun both => first both.2
    simp only [NativeSubscription.nextAttempt, if_neg one, if_neg first] at prepared ⊢
    refine ⟨attempting.silent, fun _ active => ?_⟩
    replace active : n.buffer.active = true := active
    have gathering := attempting.gathering (recovering_of_later retries first) active
    simp only [NativeSubscription.abandonsClean, granted, first, active, decide_false,
      Bool.not_true, Bool.false_or, Bool.and_eq_true, List.isEmpty_iff,
      Bool.not_eq_eq_eq_not] at clean
    exact abandoned_gathering gathering clean.1 clean.2

/-- Whatever the buffer is, a told failure leaves it inactive. -/
theorem nextAttempt_silent (attempting : Attempting n a) (nowMs : Nat) :
    (n.nextAttempt nowMs).2.2.failureEmitted = true →
      (n.nextAttempt nowMs).2.2.buffer.active = false := by
  intro emitted
  have inactive := attempting.silent emitted
  simp only [NativeSubscription.nextAttempt]
  split
  · unfold SubscriptionBuffer.prepareRecovery
    split
    · exact inactive
    · rfl
  · exact inactive

theorem resubscriptionNeeded_attempting (attempting : Attempting s.subscription a) (nowMs : Nat)
    (clean : s.subscription.abandonsClean (.callback platform (.resubscriptionNeeded nowMs)) =
      true) :
    Attempting (s.onResubscriptionNeeded outputSink platform nowMs).subscription
      (a.after s.subscription (.callback platform (.resubscriptionNeeded nowMs))) := by
  have silent := nextAttempt_silent attempting nowMs
  unfold NativeStream.onResubscriptionNeeded
  split
  · rename_i refused
    have denied : s.subscription.granted nowMs = false := by
      rcases refused with unready | cancelled | done
      · simp only [Bool.not_eq_eq_eq_not, Bool.not_true] at unready
        simp [NativeSubscription.granted, unready]
      · simp [NativeSubscription.granted, cancelled]
      · simp [NativeSubscription.granted, done]
    simp only [Attempt.after, denied, Bool.false_eq_true, if_false]
    exact attempting
  · rename_i asked
    simp only [not_or, Bool.not_eq_true, Bool.not_eq_eq_eq_not, Bool.not_true,
      Bool.not_eq_false] at asked
    dsimp only
    split
    · exact failActive_attempting silent _
    · rename_i goes
      simp only [not_or, Bool.not_eq_eq_eq_not, Bool.not_true, Bool.not_eq_false, ne_eq,
        not_not] at goes
      have starts := nextAttempt_attempting attempting asked goes.2 goes.1 clean
      split
      · exact failActive_attempting silent _
      · split
        · rw [NativeStream.emitStatus_subscription]
          exact SameCore.attempting (n := (s.subscription.nextAttempt nowMs).2.2)
            ⟨rfl, rfl, rfl⟩ starts
        · refine failActive_attempting (fun emitted => ?_) _
          rw [NativeStream.emitStatus_subscription] at emitted ⊢
          exact silent emitted

theorem done_attempting (attempting : Attempting s.subscription a) :
    Attempting (s.onDone outputSink platform).subscription a := by
  have marked : ∀ t : NativeStream ω V, Attempting t.subscription a →
      Attempting (t.withSubscription t.subscription.markDone).subscription a :=
    fun t kept => SameCore.attempting (n := t.subscription) ⟨rfl, rfl, rfl⟩ kept
  unfold NativeStream.onDone
  refine marked _ ?_
  split
  · exact failActive_attempting (s := s.withSubscription { s.subscription with
      recoveryTimerActive := false }) attempting.silent _
  · exact SameCore.attempting (n := s.subscription) ⟨rfl, rfl, rfl⟩ attempting

/-! ## Steps and runs -/

/-- One move of the stream. -/
def NativeStream.move (outputSink : ω → HostFrame (ReportBody V) InteractionError → Bool × ω)
    (s : NativeStream ω V) : Move V → NativeStream ω V
  | .callback platform callback => s.callback outputSink platform callback
  | .activate platform => (s.activate outputSink platform).2

theorem move_attempting (attempting : Attempting s.subscription a) (move : Move V)
    (clean : s.subscription.abandonsClean move = true) :
    Attempting (s.move outputSink move).subscription (a.after s.subscription move) := by
  cases move with
  | activate platform => exact activate_attempting attempting
  | callback platform callback =>
      cases callback with
      | reportBegin => exact reportBegin_attempting attempting
      | reportEnd => exact reportEnd_attempting attempting
      | data decoded =>
          cases decoded with
          | ok result => exact add_attempting attempting result
          | error error => exact failActive_attempting attempting.silent error
      | established sdkSubscriptionId intervals =>
          exact established_attempting attempting sdkSubscriptionId intervals
      | resubscriptionNeeded nowMs => exact resubscriptionNeeded_attempting attempting nowMs clean
      | error => exact failActive_attempting attempting.silent _
      | recoveryDeadline =>
          exact failActive_attempting (s := s.withSubscription { s.subscription with
            recoveryTimerActive := false }) attempting.silent _
      | done => exact done_attempting attempting
      | cancelWork => exact attempting_of_inactive rfl

/-- The stream and the record of its attempt after a run. -/
def watched (outputSink : ω → HostFrame (ReportBody V) InteractionError → Bool × ω)
    (s : NativeStream ω V) (a : Attempt V) : List (Move V) → NativeStream ω V × Attempt V
  | [] => (s, a)
  | move :: moves =>
      watched outputSink (s.move outputSink move) (a.after s.subscription move) moves

def abandonsCleanRun (outputSink : ω → HostFrame (ReportBody V) InteractionError → Bool × ω)
    (s : NativeStream ω V) : List (Move V) → Bool
  | [] => true
  | move :: moves => s.subscription.abandonsClean move &&
      abandonsCleanRun outputSink (s.move outputSink move) moves

theorem run_attempting (moves : List (Move V)) :
    ∀ {s : NativeStream ω V} {a : Attempt V}, Attempting s.subscription a →
      abandonsCleanRun outputSink s moves = true →
      Attempting (watched outputSink s a moves).1.subscription
        (watched outputSink s a moves).2 := by
  induction moves with
  | nil => exact fun attempting _ => attempting
  | cons move moves ih =>
      intro s a attempting clean
      simp only [abandonsCleanRun, Bool.and_eq_true] at clean
      exact ih (move_attempting attempting move clean.1) clean.2

/-! ## What an attempt releases -/

/-- What the establishment of an attempt releases, if the buffer takes it. -/
def SubscriptionBuffer.releases (b : SubscriptionBuffer V) (sdkSubscriptionId minimum maximum : Nat) :
    Option (List (NativeReport V)) :=
  let established := b.establish sdkSubscriptionId minimum maximum
  if established.1 then some established.2.activate.takeReady.1 else none

omit [Text (HostFrame (ReportBody V) InteractionError)] in
theorem releases_gathered {b : SubscriptionBuffer V} (gathering : Gathering b a)
    {sdkSubscriptionId minimum maximum : Nat} {reports : List (NativeReport V)}
    (released : b.releases sdkSubscriptionId minimum maximum = some reports) :
    reports = b.buffered.map fun report =>
      SubscriptionBuffer.revised report sdkSubscriptionId minimum maximum := by
  unfold SubscriptionBuffer.releases SubscriptionBuffer.establish at released
  split at released
  · simp at released
  · rename_i guards
    simp only [not_or, Bool.not_eq_true, Bool.not_eq_eq_eq_not, Bool.not_true,
      Bool.not_eq_false] at guards
    simp only [SubscriptionBuffer.activate, guards.1, gathering.inactive, gathering.unready,
      Bool.not_true, Bool.false_eq_true, or_self, ↓reduceIte, SubscriptionBuffer.takeReady,
      List.nil_append] at released
    exact (Option.some.inj released).symm

omit [Text (HostFrame (ReportBody V) InteractionError)] in
/-- An inactive buffer releases nothing. -/
theorem active_of_releases {b : SubscriptionBuffer V} {sdkSubscriptionId minimum maximum : Nat}
    {reports : List (NativeReport V)}
    (released : b.releases sdkSubscriptionId minimum maximum = some reports) :
    b.active = true := by
  unfold SubscriptionBuffer.releases SubscriptionBuffer.establish at released
  split at released
  · simp at released
  · rename_i guards
    by_contra inactive
    exact guards (.inl (by simpa using inactive))

/-- What the reports of one attempt satisfy. -/
structure Snapshot (kind : SubscriptionKind) (a : Attempt V) (reports : List (NativeReport V)) :
    Prop where
  /-- Nothing is older than the attempt, and the order is that of the additions. -/
  fresh : (reports.map fun report => report.payload.result).Sublist a.added
  /-- Nothing is missing but duplicates, of this attempt or of an event from before the loss. -/
  complete : ∀ result ∈ a.added,
    (∃ report ∈ reports, SameIdentity kind report.payload.result result) ∨
      kind = .events ∧ ∃ identity ∈ a.known, result.identity? = some identity
  /-- Each attribute is reported once. -/
  distinct : kind = .attributes →
    (reports.map fun report => report.payload.result.path).Nodup

omit [Text (HostFrame (ReportBody V) InteractionError)] in
theorem snapshot_of_gathering {b : SubscriptionBuffer V} (gathering : Gathering b a)
    {sdkSubscriptionId minimum maximum : Nat} {reports : List (NativeReport V)}
    (released : b.releases sdkSubscriptionId minimum maximum = some reports) :
    Snapshot b.request.kind a reports := by
  obtain rfl := releases_gathered gathering released
  refine ⟨?_, fun result member => ?_, fun kind => ?_⟩
  · rw [List.map_map]
    exact gathering.fresh
  · refine (gathering.covered result member).imp_left ?_
    rintro ⟨report, waiting, same⟩
    exact ⟨_, List.mem_map_of_mem waiting, same⟩
  · rw [List.map_map]
    exact gathering.distinct kind

/-- **Every attempt starts clean**, in every run in which no abandoned attempt leaves a report
open or a result behind: what the establishment of an attempt releases is what was added
since that attempt was granted, and the first report of an attempt never deactivates the
buffer. -/
theorem run_attempt (outputSink : ω → HostFrame (ReportBody V) InteractionError → Bool × ω)
    (request : SubscriptionRequest) (host : HostProtocol ω (ReportBody V)) (moves : List (Move V))
    (clean : abandonsCleanRun outputSink
      { subscription := NativeSubscription.create request, host } moves = true)
    (recovering : (watched outputSink { subscription := NativeSubscription.create request, host }
      {} moves).1.subscription.recovery.recovering = true) :
    let stream := (watched outputSink { subscription := NativeSubscription.create request, host }
      {} moves).1
    let attempt := (watched outputSink { subscription := NativeSubscription.create request, host }
      {} moves).2
    (∀ sdkSubscriptionId minimum maximum reports,
      stream.subscription.buffer.releases sdkSubscriptionId minimum maximum = some reports →
        Snapshot stream.subscription.buffer.request.kind attempt reports) ∧
    (stream.subscription.buffer.active = true → attempt.reportOpen = false →
      stream.subscription.buffer.reportId ≠ maxU64 →
        stream.subscription.buffer.beginReport.active = true) := by
  intro stream attempt
  have attempting : Attempting stream.subscription attempt :=
    run_attempting moves (attempting_of_settled (fun emitted => by cases emitted) rfl) clean
  constructor
  · intro sdkSubscriptionId minimum maximum reports released
    exact snapshot_of_gathering (attempting.gathering recovering (active_of_releases released))
      released
  · intro active closed countable
    have gathering := attempting.gathering recovering active
    unfold SubscriptionBuffer.beginReport
    rw [if_neg]
    · exact active
    · simp [active, gathering.inReport, closed, countable]

end Stream

/-! ## Two attempts of one window -/

/-- A recoverable subscription to the state of one switch. -/
def switchState : SubscriptionRequest where
  subscriptionId := "00000000000000000000000000000002"
  kind := .attributes
  paths := [⟨1, 2, some 1, some 6, some 0⟩]
  resubscribe := true

def onOff (value : Nat) : PathResult Nat where
  path := ⟨1, 2, 1, 6, 0⟩
  attributeData := some value

/-- A writer that takes every frame. -/
def accepting (writer : Unit) (_ : HostFrame (ReportBody Nat) InteractionError) : Bool × Unit :=
  (true, writer)

/-- A host that has admitted the subscription. -/
def switchHost : HostProtocol Unit (ReportBody Nat) :=
  (HostProtocol.admitSubscription { flow := { sink := { writer := () } }, sessionGeneration := "s" }
    switchState.subscriptionId 1 1000 true).2

/-- The subscription is established and activated, loses its session and is granted an
attempt; `abandoned` happens in it; a second attempt brings the value 2. -/
def secondAttempt (abandoned : List (Callback Nat)) : List (Move Nat) :=
  [.callback {} (.established 7 (some (1, 60))), .activate {},
    .callback {} (.resubscriptionNeeded 0)] ++ abandoned.map (.callback {}) ++
  [.callback {} (.resubscriptionNeeded 5000), .callback {} .reportBegin,
    .callback {} (.data (.ok (onOff 2))), .callback {} .reportEnd]

theorem run_attempt_second :
    let run := watched accepting
      { subscription := NativeSubscription.create switchState, host := switchHost } {}
      (secondAttempt [])
    ∃ reports, run.1.subscription.buffer.releases 8 1 60 = some reports ∧
      Snapshot .attributes run.2 reports :=
  ⟨_, rfl, (run_attempt accepting switchState switchHost (secondAttempt []) (by decide)
    (by decide)).1 8 1 60 _ rfl⟩

/-- The first attempt is lost after it has reported the value 1.  The second one reports the
value 2, which is suppressed, and its establishment delivers the value 1. -/
theorem run_attempt_stale :
    let run := watched accepting
      { subscription := NativeSubscription.create switchState, host := switchHost } {}
      (secondAttempt [.reportBegin, .data (.ok (onOff 1)), .reportEnd])
    run.1.subscription.recovery.recovering = true ∧ run.2.added = [onOff 2] ∧
      (run.1.subscription.buffer.releases 8 1 60).map (fun reports =>
        reports.map fun report => report.payload.result) = some [onOff 1] := by
  decide

end WotexMatter.Native
