/-
# WotexMatter.Native.PendingMutation -- a write or an invoke, and what its caller is told

`Pending` of `native/src/controller.cpp` for a mutation.  The SDK thread connects, checks
the time left, marks the mutation submitted, sends it and takes the client's callbacks;
the input thread waits in `Wait` and, when its time is up, reads the mark and publishes
a timeout itself.  A step is one block under the mutex, one atomic operation, or one call
into the SDK, whose outcome is part of the step; the two threads' steps interleave
freely, except that `Wait` holds the mutex from the moment it finds its time up until it
has published.

`run_none_unsent` is about the runs in which `Submit` is never reached after `Wait` has
given up (`inTime`), and `run_none_sent` is one in which it is.
-/
import WotexMatter.Native.SubscriptionBuffer

set_option autoImplicit false

namespace WotexMatter.Native

/-- `MutationCompletion`: bit 0 is set on submission, bit 1 on completion. -/
structure MutationCompletion where
  state : UInt8
deriving DecidableEq

namespace MutationCompletion

/-- `Submit`: a compare-and-exchange from 0 to 1, and whether it took place. -/
def submit (m : MutationCompletion) : Bool × MutationCompletion :=
  if m.state = 0 then (true, ⟨1⟩) else (false, m)

/-- `Complete`: whether this call was the first. -/
def complete (m : MutationCompletion) : Bool × MutationCompletion :=
  (m.state &&& 2 == 0, ⟨m.state ||| 2⟩)

def submitted (m : MutationCompletion) : Bool := m.state &&& 1 != 0

@[simp] theorem submitted_complete (m : MutationCompletion) :
    m.complete.2.submitted = m.submitted := by
  simp only [complete, submitted]
  congr 1
  apply UInt8.toNat_inj.mp
  simp only [UInt8.toNat_and, UInt8.toNat_or, Nat.and_or_distrib_right]
  simp

end MutationCompletion

inductive MutationKind where
  | write
  | invoke
deriving DecidableEq

/-- What `Pending` reads of the request of a mutation. -/
structure MutationRequest where
  kind : MutationKind
  path : ConcretePath
  timedRequestTimeoutMs : Option Nat
deriving DecidableEq

/-- `InteractionResponse` of a mutation. -/
inductive InteractionResponse where
  | ok (responsePath : Option ConcretePath)
  | failed (error : InteractionError)
deriving DecidableEq

/-- The response says that nothing happened. -/
def InteractionResponse.claimsNone : InteractionResponse → Bool
  | .ok _ => false
  | .failed error => error.effect == .none

/-- Where the SDK thread stands.  `publishing` is the call of `Publish`, and the flag tells
whether it comes from `FinishMutation`. -/
inductive SdkPoint where
  | scheduled
  | connecting
  | preparing
  | submitting
  | sending
  | awaiting
  | publishing (response : InteractionResponse) (finishing : Bool)
  | completing
  | marking
  | ended
deriving DecidableEq

/-- Before the mutation is marked submitted. -/
def SdkPoint.unsubmitted : SdkPoint → Bool
  | .scheduled | .connecting | .preparing | .submitting => true
  | _ => false

/-- Where the input thread stands in `Wait`: `expired` holds the mutex and has read the
mark. -/
inductive WaitPoint where
  | waiting
  | expired (effect : InteractionEffect)
  | returned (response : InteractionResponse)
deriving DecidableEq

structure Pending where
  request : MutationRequest
  mutation : MutationCompletion
  /-- `response_` once `published_` is set. -/
  published : Option InteractionResponse
  overallError : Option InteractionError
  mutationPath : Option ConcretePath
  mutationResponses : Nat
  done : Bool
  sdk : SdkPoint
  wait : WaitPoint
  /-- The SDK's send has succeeded. -/
  sent : Bool
deriving DecidableEq

/-- One step of either thread.  The SDK thread's calls carry what the SDK answered and the
milliseconds `Remaining` returned. -/
inductive PendingStep where
  | unscheduled
  | start (remaining : Nat) (connects : Bool)
  | connectionFailed
  | connected (remaining : Nat)
  | prepare (encoded : Bool)
  | submit
  | send (accepted : Bool)
  | writeResponse (path : ConcretePath) (status : Nat) (clusterStatus : Option Nat)
  | commandResponse (path : ConcretePath) (status : Nat) (clusterStatus : Option Nat) (data : Bool)
  | noResponse
  | commandError
  | clientDone
  | publish
  | complete
  | markDone
  | abort
  | expire
  | publishTimeout
  | wake
deriving DecidableEq

namespace Pending

def create (request : MutationRequest) : Pending where
  request
  mutation := ⟨0⟩
  published := none
  overallError := none
  mutationPath := none
  mutationResponses := 0
  done := false
  sdk := .scheduled
  wait := .waiting
  sent := false

/-- `FailBeforeSubmission`, up to its `Publish`. -/
def failBeforeSubmission (p : Pending) (code : String) : Pending :=
  { p with sdk := .publishing (.failed { code }) false }

/-- The effect the code attaches from the mark. -/
def effect (p : Pending) : InteractionEffect :=
  if p.mutation.submitted then .unknown else .none

/-- `OnResponse` of either client once the path and the data are checked. -/
def onResponse (p : Pending) (error : Option InteractionError) (path : Option ConcretePath) : Pending :=
  match error with
  | some error => { p with overallError := some error }
  | none => { p with mutationPath := path, mutationResponses := p.mutationResponses + 1 }

/-- The errors of a response are of unknown effect. -/
def responseError (code : String) (status clusterStatus : Option Nat) : InteractionError :=
  { code, status, clusterStatus, effect := .unknown }

/-- The response of `FinishMutation`. -/
def finished (p : Pending) : InteractionResponse :=
  match p.overallError with
  | some error => .failed error
  | none =>
      if p.mutationResponses = 1 then .ok p.mutationPath
      else .failed (responseError "interaction_no_response" none none)

/-- The mutex is free. -/
def unlocked (p : Pending) : Bool :=
  match p.wait with
  | .expired _ => false
  | _ => true

/-- A step, where the thread that takes it stands at it. -/
def step (p : Pending) : PendingStep → Option Pending
  | .unscheduled =>
      if p.sdk = .scheduled then some (p.failBeforeSubmission "interaction_unavailable") else none
  | .start remaining connects =>
      if p.sdk ≠ .scheduled then none
      else if remaining = 0 then some (p.failBeforeSubmission "interaction_timeout")
      else if connects then some { p with sdk := .connecting }
      else some (p.failBeforeSubmission "session_establishment_failed")
  | .connectionFailed =>
      if p.sdk = .connecting then some (p.failBeforeSubmission "session_establishment_failed")
      else none
  | .connected remaining =>
      if p.sdk ≠ .connecting then none
      else if remaining = 0 ∨ p.request.timedRequestTimeoutMs.any (remaining < ·) then
        some (p.failBeforeSubmission "interaction_timeout")
      else some { p with sdk := .preparing }
  | .prepare encoded =>
      if p.sdk ≠ .preparing then none
      else if encoded then some { p with sdk := .submitting }
      else some (p.failBeforeSubmission "interaction_submit_failed")
  | .submit =>
      -- The result of `Submit` is not looked at.
      if p.sdk = .submitting then some { p with mutation := p.mutation.submit.2, sdk := .sending }
      else none
  | .send accepted =>
      if p.sdk ≠ .sending then none
      else if accepted then some { p with sent := true, sdk := .awaiting }
      else some (p.failBeforeSubmission "interaction_submit_failed")
  | .writeResponse path status clusterStatus =>
      if p.sdk ≠ .awaiting ∨ p.request.kind ≠ .write then none
      else if path ≠ p.request.path then
        some (p.onResponse (some (responseError "invalid_response_path" none none)) none)
      else if status ≠ 0 then
        some (p.onResponse (some (responseError "interaction_status" status clusterStatus)) none)
      else some (p.onResponse none (some path))
  | .commandResponse path status clusterStatus data =>
      if p.sdk ≠ .awaiting ∨ p.request.kind ≠ .invoke then none
      else if status ≠ 0 then
        some (p.onResponse (some (responseError "interaction_status" status clusterStatus)) none)
      else if data then
        some (p.onResponse (some (responseError "unsupported_schema" none none)) none)
      else if path ≠ p.request.path then
        some (p.onResponse (some (responseError "invalid_response_path" none none)) none)
      else some (p.onResponse none none)
  | .noResponse =>
      if p.sdk ≠ .awaiting ∨ p.request.kind ≠ .invoke then none
      else some (p.onResponse (some (responseError "interaction_no_response" none none)) none)
  | .commandError =>
      if p.sdk ≠ .awaiting ∨ p.request.kind ≠ .invoke then none
      else some (p.onResponse (some (responseError "interaction_failed" none none)) none)
  | .clientDone =>
      if p.sdk = .awaiting then some { p with sdk := .publishing p.finished true } else none
  | .publish =>
      match p.sdk with
      | .publishing response finishing =>
          if p.unlocked then
            some { p with
              published := p.published.or (some response)
              sdk := if finishing then .completing else .marking }
          else none
      | _ => none
  | .complete =>
      if p.sdk = .completing then some { p with mutation := p.mutation.complete.2, sdk := .marking }
      else none
  | .markDone =>
      if p.sdk = .marking ∧ p.unlocked then some { p with done := true, sdk := .ended } else none
  | .abort =>
      -- `Start` is queued before the shutdown that aborts, so it has run.
      if p.sdk = .connecting ∨ p.sdk = .awaiting then
        some { p with
          sdk := .publishing (.failed { code := "controller_closed", effect := p.effect }) false }
      else none
  | .expire =>
      -- The deadline, or the control pump; the pump ends the wait whatever is published.
      if p.wait = .waiting then some { p with wait := .expired p.effect } else none
  | .publishTimeout =>
      match p.wait with
      | .expired effect =>
          let response := InteractionResponse.failed { code := "interaction_timeout", effect }
          some { p with published := some response, wait := .returned response }
      | _ => none
  | .wake =>
      match p.wait, p.published with
      | .waiting, some response => some { p with wait := .returned response }
      | _, _ => none

def run : Pending → List PendingStep → Option Pending
  | p, [] => some p
  | p, step :: rest => (p.step step).bind fun q => q.run rest

/-- `Submit` is not reached once `Wait` has given up. -/
def inTime (p : Pending) : PendingStep → Bool
  | .submit => p.wait = .waiting
  | _ => true

def inTimeRun : Pending → List PendingStep → Bool
  | _, [] => true
  | p, step :: rest =>
      p.inTime step &&
        match p.step step with
        | some q => q.inTimeRun rest
        | none => true

/-! ## What the caller is told -/

/-- The caller is told, or about to be told by `Wait`, that nothing happened. -/
def ToldNone (p : Pending) : Prop :=
  p.wait = .expired .none ∨ (∃ response, p.published = some response ∧ response.claimsNone = true) ∨
    ∃ response, p.wait = .returned response ∧ response.claimsNone = true

/-- The invariant of `inTime` runs. -/
structure Truthful (p : Pending) : Prop where
  /-- What was sent was marked before. -/
  marked : p.sent = true → p.mutation.submitted = true
  errors : ∀ error, p.overallError = some error → error.effect = .unknown
  fresh : p.sdk.unsubmitted = true → p.mutation = ⟨0⟩ ∧ p.sent = false
  sending : p.sdk = .sending → p.mutation.submitted = true ∧ p.sent = false
  awaiting : p.sdk = .awaiting → p.mutation.submitted = true
  /-- Until the SDK thread publishes, only `Wait` has. -/
  unpublished : p.sdk.unsubmitted = true ∨ p.sdk = .sending ∨ p.sdk = .awaiting →
    p.wait = .waiting → p.published = none
  publishing : ∀ response finishing, p.sdk = .publishing response finishing →
    response.claimsNone = true → p.sent = false
  told : p.ToldNone → p.sent = false ∧ p.sdk ≠ .sending ∧ p.sdk ≠ .awaiting

theorem truthful_create (request : MutationRequest) : Truthful (create request) := by
  constructor <;> simp [create, ToldNone, SdkPoint.unsubmitted]

/-- The mark decides the effect. -/
theorem effect_none_iff (p : Pending) : p.effect = .none ↔ p.mutation.submitted = false := by
  simp only [effect]
  split
  · rename_i marked
    simp [marked]
  · rename_i unmarked
    simp [unmarked]

section Steps

variable {p : Pending}

/-- The SDK thread goes on to publish a response that tells the truth. -/
theorem Truthful.publishes (t : Truthful p) (response : InteractionResponse) (finishing : Bool)
    (honest : response.claimsNone = true → p.sent = false) :
    Truthful { p with sdk := .publishing response finishing } where
  marked := t.marked
  errors := t.errors
  fresh := by simp [SdkPoint.unsubmitted]
  sending := by simp
  awaiting := by simp
  unpublished := by simp [SdkPoint.unsubmitted]
  publishing := by
    rintro _ _ ⟨⟩ claims
    exact honest claims
  told := fun told => ⟨(t.told told).1, by simp, by simp⟩

theorem Truthful.failBeforeSubmission (t : Truthful p) (unsent : p.sent = false) (code : String) :
    Truthful (p.failBeforeSubmission code) :=
  t.publishes _ _ fun _ => unsent

/-- The SDK thread moves on before the mark. -/
theorem Truthful.advances (t : Truthful p) (before : p.sdk.unsubmitted = true) {point : SdkPoint}
    (after : point.unsubmitted = true) : Truthful { p with sdk := point } where
  marked := t.marked
  errors := t.errors
  fresh := fun _ => t.fresh before
  sending := by
    rintro rfl
    cases after
  awaiting := by
    rintro rfl
    cases after
  unpublished := fun _ => t.unpublished (.inl before)
  publishing := by
    rintro _ _ rfl
    cases after
  told := by
    intro told
    refine ⟨(t.told told).1, ?_, ?_⟩ <;>
    · rintro rfl
      cases after

/-- `Submit` while `Wait` still waits: nobody was told anything. -/
theorem Truthful.submits (t : Truthful p) (here : p.sdk = .submitting) (waiting : p.wait = .waiting) :
    Truthful { p with mutation := p.mutation.submit.2, sdk := .sending } := by
  have before : p.sdk.unsubmitted = true := by rw [here]; rfl
  obtain ⟨zero, unsent⟩ := t.fresh before
  have unpublished := t.unpublished (.inl before) waiting
  have marked : p.mutation.submit.2.submitted = true := by
    rw [zero]
    decide
  refine ⟨fun _ => marked, t.errors, by simp [SdkPoint.unsubmitted], fun _ => ⟨marked, unsent⟩,
    by simp, fun _ _ => unpublished, by simp, ?_⟩
  rintro (expired | ⟨response, found, _⟩ | ⟨response, returned, _⟩)
  · simp [waiting] at expired
  · simp [unpublished] at found
  · simp [waiting] at returned

theorem Truthful.sends (t : Truthful p) (here : p.sdk = .sending) :
    Truthful { p with sent := true, sdk := .awaiting } := by
  obtain ⟨marked, _⟩ := t.sending here
  refine ⟨fun _ => marked, t.errors, by simp [SdkPoint.unsubmitted], by simp, fun _ => marked,
    fun _ => t.unpublished (.inr (.inl here)), by simp, ?_⟩
  intro told
  exact absurd here (t.told told).2.1

theorem Truthful.onResponse (t : Truthful p) (error : Option InteractionError)
    (path : Option ConcretePath) (unknown : ∀ found, error = some found → found.effect = .unknown) :
    Truthful (p.onResponse error path) := by
  cases error with
  | none =>
      exact ⟨t.marked, t.errors, t.fresh, t.sending, t.awaiting, t.unpublished, t.publishing, t.told⟩
  | some error =>
      refine ⟨t.marked, ?_, t.fresh, t.sending, t.awaiting, t.unpublished, t.publishing, t.told⟩
      rintro _ ⟨⟩
      exact unknown error rfl

theorem Truthful.finished_claims (t : Truthful p) : p.finished.claimsNone = false := by
  simp only [finished]
  split
  · rename_i error found
    simp [InteractionResponse.claimsNone, t.errors error found]
  · split
    · rfl
    · rfl

/-- `Publish`, where it is the SDK thread's. -/
theorem Truthful.publish (t : Truthful p) {response : InteractionResponse} {finishing : Bool}
    (here : p.sdk = .publishing response finishing) {point : SdkPoint}
    (after : point = .completing ∨ point = .marking) :
    Truthful { p with published := p.published.or (some response), sdk := point } := by
  have told : ∀ {q : Pending}, q.sent = p.sent → q.sdk = point → q.sent = false →
      q.sent = false ∧ q.sdk ≠ .sending ∧ q.sdk ≠ .awaiting := by
    intro q _ same unsent
    rw [same]
    rcases after with rfl | rfl <;> exact ⟨unsent, by simp, by simp⟩
  refine ⟨t.marked, t.errors, ?_, ?_, ?_, ?_, ?_, ?_⟩
  · rcases after with rfl | rfl <;> simp [SdkPoint.unsubmitted]
  · rcases after with rfl | rfl <;> simp
  · rcases after with rfl | rfl <;> simp
  · rcases after with rfl | rfl <;> simp [SdkPoint.unsubmitted]
  · rcases after with rfl | rfl <;> simp
  · rintro (expired | ⟨found, stored, claims⟩ | ⟨returned, same, claims⟩)
    · exact told rfl rfl (t.told (.inl expired)).1
    · cases published : p.published with
      | none =>
          simp only [published, Option.none_or, Option.some.injEq] at stored
          subst stored
          exact told rfl rfl (t.publishing _ _ here claims)
      | some old =>
          simp only [published, Option.some_or, Option.some.injEq] at stored
          subst stored
          exact told rfl rfl (t.told (.inr (.inl ⟨old, published, claims⟩))).1
    · exact told rfl rfl (t.told (.inr (.inr ⟨returned, same, claims⟩))).1

/-- The SDK thread's work after `Publish`: nothing is sent any more. -/
theorem Truthful.winds_down (t : Truthful p) {mutation : MutationCompletion} {point : SdkPoint}
    (mark : mutation.submitted = p.mutation.submitted)
    (after : point = .marking ∨ point = .ended) (done : Bool) :
    Truthful { p with mutation := mutation, done := done, sdk := point } := by
  refine ⟨fun sent => mark.trans (t.marked sent), t.errors, ?_, ?_, ?_, ?_, ?_, ?_⟩
  · rcases after with rfl | rfl <;> simp [SdkPoint.unsubmitted]
  · rcases after with rfl | rfl <;> simp
  · rcases after with rfl | rfl <;> simp
  · rcases after with rfl | rfl <;> simp [SdkPoint.unsubmitted]
  · rcases after with rfl | rfl <;> simp
  · intro told
    refine ⟨(t.told told).1, ?_, ?_⟩ <;> rcases after with rfl | rfl <;> simp

/-- `Wait` finds its time up: if the mark is not set, nothing was sent. -/
theorem Truthful.expires (t : Truthful p) :
    Truthful { p with wait := .expired p.effect } := by
  refine ⟨t.marked, t.errors, t.fresh, t.sending, t.awaiting, by simp, t.publishing, ?_⟩
  rintro (expired | stored | ⟨_, returned, _⟩)
  · have unmarked : p.mutation.submitted = false := by
      rw [← effect_none_iff]
      exact WaitPoint.expired.inj expired
    refine ⟨?_, ?_, ?_⟩
    · apply Bool.eq_false_iff.mpr
      intro sent
      rw [t.marked sent] at unmarked
      cases unmarked
    · intro here
      rw [(t.sending here).1] at unmarked
      cases unmarked
    · intro here
      rw [t.awaiting here] at unmarked
      cases unmarked
  · exact t.told (.inr (.inl stored))
  · simp at returned

theorem Truthful.publishes_timeout (t : Truthful p) {effect : InteractionEffect}
    (expired : p.wait = .expired effect) {response : InteractionResponse}
    (claims : response.claimsNone = true → effect = .none) :
    Truthful { p with published := some response, wait := .returned response } := by
  refine ⟨t.marked, t.errors, t.fresh, t.sending, t.awaiting, by simp, t.publishing, ?_⟩
  rintro (again | ⟨found, ⟨⟩, none⟩ | ⟨found, ⟨⟩, none⟩)
  · simp at again
  · exact t.told (.inl (by rw [expired, claims none]))
  · exact t.told (.inl (by rw [expired, claims none]))

theorem Truthful.wakes (t : Truthful p) {response : InteractionResponse}
    (published : p.published = some response) :
    Truthful { p with wait := .returned response } := by
  refine ⟨t.marked, t.errors, t.fresh, t.sending, t.awaiting, by simp, t.publishing, ?_⟩
  rintro (expired | stored | ⟨found, ⟨⟩, claims⟩)
  · simp at expired
  · exact t.told (.inr (.inl stored))
  · exact t.told (.inr (.inl ⟨response, published, claims⟩))

end Steps

/-- **One step** of either thread keeps the invariant, `Submit` in time. -/
theorem step_truthful {p q : Pending} {step : PendingStep} (t : Truthful p)
    (inTime : p.inTime step = true) (stepped : p.step step = some q) : Truthful q := by
  cases step with
  | unscheduled =>
      simp only [Pending.step] at stepped
      split at stepped
      · rename_i here
        cases stepped
        exact t.failBeforeSubmission (t.fresh (by rw [here]; rfl)).2 _
      · cases stepped
  | start remaining connects =>
      simp only [Pending.step] at stepped
      split at stepped
      · cases stepped
      · rename_i here
        have before : p.sdk.unsubmitted = true := by rw [not_not.mp here]; rfl
        split at stepped
        · cases stepped
          exact t.failBeforeSubmission (t.fresh before).2 _
        · split at stepped <;> cases stepped
          · exact t.advances before rfl
          · exact t.failBeforeSubmission (t.fresh before).2 _
  | connectionFailed =>
      simp only [Pending.step] at stepped
      split at stepped
      · rename_i here
        cases stepped
        exact t.failBeforeSubmission (t.fresh (by rw [here]; rfl)).2 _
      · cases stepped
  | connected remaining =>
      simp only [Pending.step] at stepped
      split at stepped
      · cases stepped
      · rename_i here
        have before : p.sdk.unsubmitted = true := by rw [not_not.mp here]; rfl
        split at stepped <;> cases stepped
        · exact t.failBeforeSubmission (t.fresh before).2 _
        · exact t.advances before rfl
  | prepare encoded =>
      simp only [Pending.step] at stepped
      split at stepped
      · cases stepped
      · rename_i here
        have before : p.sdk.unsubmitted = true := by rw [not_not.mp here]; rfl
        split at stepped <;> cases stepped
        · exact t.advances before rfl
        · exact t.failBeforeSubmission (t.fresh before).2 _
  | submit =>
      simp only [Pending.step] at stepped
      split at stepped
      · rename_i here
        cases stepped
        exact t.submits here (by simpa [Pending.inTime] using inTime)
      · cases stepped
  | send accepted =>
      simp only [Pending.step] at stepped
      split at stepped
      · cases stepped
      · rename_i here
        split at stepped <;> cases stepped
        · exact t.sends (not_not.mp here)
        · exact t.failBeforeSubmission (t.sending (not_not.mp here)).2 _
  | writeResponse path status clusterStatus =>
      simp only [Pending.step] at stepped
      repeat' split at stepped
      all_goals cases stepped
      all_goals exact t.onResponse _ _ (by simp [responseError])
  | commandResponse path status clusterStatus data =>
      simp only [Pending.step] at stepped
      repeat' split at stepped
      all_goals cases stepped
      all_goals exact t.onResponse _ _ (by simp [responseError])
  | noResponse =>
      simp only [Pending.step] at stepped
      split at stepped <;> cases stepped
      exact t.onResponse _ _ (by simp [responseError])
  | commandError =>
      simp only [Pending.step] at stepped
      split at stepped <;> cases stepped
      exact t.onResponse _ _ (by simp [responseError])
  | clientDone =>
      simp only [Pending.step] at stepped
      split at stepped <;> cases stepped
      exact t.publishes _ _ (by simp [t.finished_claims])
  | publish =>
      simp only [Pending.step] at stepped
      split at stepped
      · rename_i response finishing here
        split at stepped <;> cases stepped
        exact t.publish here (by cases finishing <;> simp)
      · cases stepped
  | complete =>
      simp only [Pending.step] at stepped
      split at stepped <;> cases stepped
      exact t.winds_down (MutationCompletion.submitted_complete _) (.inl rfl) p.done
  | markDone =>
      simp only [Pending.step] at stepped
      split at stepped <;> cases stepped
      exact t.winds_down rfl (.inr rfl) true
  | abort =>
      simp only [Pending.step] at stepped
      split at stepped
      · cases stepped
        refine t.publishes _ _ ?_
        intro claims
        have unmarked : p.mutation.submitted = false := by
          rw [← effect_none_iff]
          simpa [InteractionResponse.claimsNone] using claims
        apply Bool.eq_false_iff.mpr
        intro sent
        rw [t.marked sent] at unmarked
        cases unmarked
      · cases stepped
  | expire =>
      simp only [Pending.step] at stepped
      split at stepped <;> cases stepped
      exact t.expires
  | publishTimeout =>
      simp only [Pending.step] at stepped
      split at stepped
      · rename_i effect expired
        cases stepped
        exact t.publishes_timeout expired (by simp [InteractionResponse.claimsNone])
      · cases stepped
  | wake =>
      simp only [Pending.step] at stepped
      split at stepped
      · rename_i published
        cases stepped
        exact t.wakes published
      · cases stepped

theorem run_truthful {p q : Pending} {steps : List PendingStep} (t : Truthful p)
    (inTime : p.inTimeRun steps = true) (ran : p.run steps = some q) : Truthful q := by
  induction steps generalizing p with
  | nil =>
      cases ran
      exact t
  | cons step rest ih =>
      simp only [run, Option.bind_eq_some_iff] at ran
      obtain ⟨middle, stepped, ran⟩ := ran
      simp only [inTimeRun, stepped, Bool.and_eq_true] at inTime
      exact ih (step_truthful t inTime.1 stepped) inTime.2 ran

/-- What `Wait` returned stays returned. -/
theorem step_returned {p q : Pending} {step : PendingStep} {response : InteractionResponse}
    (returned : p.wait = .returned response) (stepped : p.step step = some q) :
    q.wait = .returned response := by
  cases step <;> simp only [Pending.step, returned] at stepped <;> repeat' split at stepped
  all_goals cases stepped
  all_goals first
    | exact returned
    | simp_all

theorem run_returned {p q : Pending} {steps : List PendingStep} {response : InteractionResponse}
    (returned : p.wait = .returned response) (ran : p.run steps = some q) :
    q.wait = .returned response := by
  induction steps generalizing p with
  | nil =>
      cases ran
      exact returned
  | cons step rest ih =>
      simp only [run, Option.bind_eq_some_iff] at ran
      obtain ⟨middle, stepped, ran⟩ := ran
      exact ih (step_returned returned stepped) ran

/-- **Effect none means never sent.**  In every interleaving in which `Submit` is not reached
once `Wait` has given up: if `Wait` has returned a failure of effect none, the send has
not succeeded, and it does not succeed in whatever follows. -/
theorem run_none_unsent (request : MutationRequest) (before after : List PendingStep)
    (p q : Pending) (ran : (create request).run before = some p) (later : p.run after = some q)
    (early : (create request).inTimeRun before = true) (late : p.inTimeRun after = true)
    (error : InteractionError) (returned : p.wait = .returned (.failed error))
    (none : error.effect = .none) : p.sent = false ∧ q.sent = false := by
  have truthful := run_truthful (truthful_create request) early ran
  have still := run_truthful truthful late later
  have claims : (InteractionResponse.failed error).claimsNone = true := by
    simp [InteractionResponse.claimsNone, none]
  exact ⟨(truthful.told (.inr (.inr ⟨_, returned, claims⟩))).1,
    (still.told (.inr (.inr ⟨_, run_returned returned later, claims⟩))).1⟩

/-- A write of a switch. -/
def switchWrite : MutationRequest where
  kind := .write
  path := ⟨1, 7, 1, 6, 0⟩
  timedRequestTimeoutMs := none

/-- A timeout while the session is being set up; the connection fails afterwards. -/
theorem run_none_unsent_connecting :
    ∃ p q, (create switchWrite).run [.start 50 true, .expire, .publishTimeout] = some p ∧
      p.run [.connectionFailed, .publish, .markDone] = some q ∧ p.sent = false ∧ q.sent = false := by
  obtain ⟨p, ran⟩ := Option.isSome_iff_exists.mp
    (show ((create switchWrite).run [.start 50 true, .expire, .publishTimeout]).isSome from by decide)
  have returned : p.wait = .returned (.failed { code := "interaction_timeout", effect := .none }) := by
    cases ran
    rfl
  obtain ⟨q, later⟩ := Option.isSome_iff_exists.mp
    (show (p.run [.connectionFailed, .publish, .markDone]).isSome from by cases ran; decide)
  exact ⟨p, q, ran, later, run_none_unsent switchWrite _ _ p q ran later (by decide)
    (by cases ran; decide) _ returned rfl⟩

/-- `Wait` gives up between the check of the time left and `Submit`: its caller is told that
nothing happened, and then the write is sent. -/
theorem run_none_sent :
    ∃ p q, (create switchWrite).run
        [.start 50 true, .connected 1, .prepare true, .expire, .publishTimeout] = some p ∧
      p.wait = .returned (.failed { code := "interaction_timeout", effect := .none }) ∧
      p.run [.submit, .send true] = some q ∧ q.sent = true := by
  refine ⟨_, _, rfl, rfl, rfl, rfl⟩

end Pending

end WotexMatter.Native
