/-
# WotexMatter.Session.EventAgreement -- the frames the BEAM did not ask for, read as written

Every frame the host writes unasked is read by the clause it was written for, with what the host
put into it, and none is taken for the reply a call waits for (`events_received`): a report if its
path and its numbers fit and its frame is within the limits, and a change of status, an end and an
error always.
-/
import WotexMatter.Beam.InboundEvents
import WotexMatter.Session.ReplyAgreement
import WotexMatter.Wire.EventFrames

set_option autoImplicit false

namespace WotexMatter.Session

open WotexMatter.Beam WotexMatter.Beam.Inbound
open WotexMatter.Storage
open WotexMatter.Wire (Term SubscriptionReport Admissible isText nodeCount memberNodes)

variable {F : Type}

/-! ## Events of the host -/

/-- What the host writes unasked, with what it has checked before. -/
inductive HostEvent where
  | report (request : Wire.SubscriptionRequest) (report : SubscriptionReport) (sequence : UInt64)
      (valid : Wire.validSubscriptionReport request report = true) (numbered : sequence ≠ 0)
  | resubscribing (subscriptionId : Bytes) (generation : UInt64) (attempt : UInt8)
      (later : 1 < generation) (attempts : 1 ≤ attempt ∧ attempt ≤ 5)
  | resubscribed (subscriptionId : Bytes) (generation : UInt64) (attempt : UInt8)
      (minIntervalS maxIntervalS : UInt16) (sdkSubscriptionId : UInt32) (later : 1 < generation)
      (attempts : 1 ≤ attempt ∧ attempt ≤ 5)
      (interval : maxIntervalS ≠ 0 ∧ minIntervalS ≤ maxIntervalS)
  | retired (subscriptionId : Bytes) (generation lastReportSequence : UInt64)
      (numbered : generation ≠ 0)
  | failed (subscriptionId : Bytes) (generation : UInt64) (error : Wire.InteractionError)
      (numbered : generation ≠ 0)

/-- The document of the frame. -/
def HostEvent.frame (session : Bytes) : HostEvent → Option Json
  | .report _ told sequence _ _ => Wire.subscriptionFrame told session sequence
  | .resubscribing subscription generation attempt _ _ =>
      some (Wire.resubscribingFrame session subscription generation attempt)
  | .resubscribed subscription generation attempt minimum maximum sdkId _ _ _ =>
      some (Wire.resubscribedFrame session subscription generation attempt minimum maximum sdkId)
  | .retired subscription generation last _ =>
      some (Wire.retiredFrame session subscription generation last)
  | .failed subscription generation error _ =>
      some (Wire.errorFrame session subscription generation error)

/-- What the class of the event takes: `EnqueueReport`, or `EnqueueControl`. -/
def HostEvent.maximumFrameBytes : HostEvent → Nat
  | .report _ _ _ _ _ => Wire.kMaximumFrameBytes
  | _ => 4096

def HostEvent.isReport : HostEvent → Bool
  | .report _ _ _ _ _ => true
  | _ => false

/-- The line of the frame, where the writer takes it. -/
def HostEvent.line (session : Bytes) (event : HostEvent) : Option Bytes :=
  (event.frame session).bind (Wire.lineOf event.maximumFrameBytes)

def streamOf (session subscription : Bytes) (generation : UInt64) : StreamName where
  sessionGeneration := session
  subscriptionId := subscription
  generation := generation.toNat

def metadataOf (report : SubscriptionReport) : ReportMetadata where
  path := addressOfPath report.result.path
  initial := report.initial
  reportId := report.reportId.toNat
  minIntervalS := report.minIntervalS.toNat
  maxIntervalS := report.maxIntervalS.toNat
  sdkSubscriptionId := report.sdkSubscriptionId.toNat

/-- The report in the types of the BEAM. -/
def notificationOf (report : SubscriptionReport) : Option (Notification F) :=
  match report.kind with
  | .attribute => report.result.attributeData.map fun change =>
      { value := tlvElement change.value
        metadata := metadataOf report
        occasion := .change (change.dataVersion.map fun version => (version.toNat : Int)) }
  | .event => report.result.event.map fun event =>
      { value := tlvElement event.value
        metadata := metadataOf report
        occasion := .event event.eventNumber.toNat event.priority.toNat
          (timestampKindOf event.timestampKind) event.timestampValue.toNat }

/-- The event in the types of the BEAM. -/
def asyncOf (session : Bytes) : HostEvent → Option (AsyncFrame F)
  | .report _ report sequence _ _ => (notificationOf report).map
      (.report (streamOf session report.subscriptionId report.generation) sequence.toNat)
  | .resubscribing subscription generation attempt _ _ =>
      some (.resubscribing (streamOf session subscription generation) attempt.toNat)
  | .resubscribed subscription generation attempt minimum maximum sdkId _ _ _ =>
      some (.resubscribed (streamOf session subscription generation) attempt.toNat minimum.toNat
        maximum.toNat sdkId.toNat)
  | .retired subscription generation last _ =>
      some (.retired (streamOf session subscription generation) last.toNat)
  | .failed subscription generation error _ =>
      some (.failed (streamOf session subscription generation) (errorOf error))

/-- The BEAM admits the path and the numbers of the event. -/
def eventAdmitted : HostEvent → Bool
  | .report _ report _ _ _ => resultFits report.result
  | _ => true

/-! ## Numbers -/

theorem integerAbove_unsigned {bound : Int} {value : UInt64} (above : bound < value.toNat) :
    integerAbove bound (termOf (.unsigned value)) = some (value.toNat : Int) :=
  if_pos above

theorem integerIn_within {low high : Int} {value : UInt64} (above : low ≤ value.toNat)
    (below : (value.toNat : Int) ≤ high) :
    integerIn low high (termOf (.unsigned value)) = some (value.toNat : Int) :=
  if_pos ⟨above, below⟩

theorem streamName_object {event : String} {size : Nat} {above : Int} {members : List (Bytes × Json)}
    {session subscription : Bytes} {generation : UInt64} (sized : members.length = size)
    (version : members.lookup (ascii "version") = some (.unsigned Wire.kProtocolVersion))
    (called : members.lookup (ascii "event") = some (.string (ascii event)))
    (sessions : members.lookup (ascii "session_generation") = some (.string session))
    (subscriptions : members.lookup (ascii "subscription_id") = some (.string subscription))
    (generations : members.lookup (ascii "generation") = some (.unsigned generation))
    (later : above < generation.toNat) :
    streamName event size above (termOf (.object members)) =
      some (streamOf session subscription generation) := by
  rw [streamName, holdsText, mapSize_object, field_object, field_object, field_object, field_object,
    field_object, version, called, sessions, subscriptions, generations, sized]
  simp only [Option.map_some, Option.bind_some, integerAbove_unsigned later]
  simp [termOf, binary, integerIn, Wire.kProtocolVersion, streamOf, guard]

theorem generation_pos {generation : UInt64} (numbered : generation ≠ 0) :
    (0 : Int) < generation.toNat := by
  have : generation.toNat ≠ 0 := fun zero => numbered (UInt64.toNat_inj.mp zero)
  omega

/-- A frame of another event is not for this clause. -/
theorem streamName_event {event other : String} {size : Nat} {above : Int}
    {members : List (Bytes × Json)}
    (called : members.lookup (ascii "event") = some (.string (ascii other)))
    (differs : ascii other ≠ ascii event) :
    streamName event size above (termOf (.object members)) = none := by
  have unread : holdsText "event" event (termOf (.object members)) = false := by
    rw [holdsText, field_object, called]
    simpa [termOf, binary] using differs
  rw [streamName, unread]
  simp only [guard]
  cases mapSize (termOf (.object members)) <;> cases field "version" (termOf (.object members)) <;>
    simp

/-- A frame of another size is not for this clause. -/
theorem streamName_size {event : String} {size : Nat} {above : Int} {members : List (Bytes × Json)}
    (differs : members.length ≠ size) :
    streamName event size above (termOf (.object members)) = none := by
  rw [streamName, mapSize_object, guard, if_neg (by simpa using differs)]
  rfl

/-! ## The clauses -/

section Clauses

variable {session subscription : Bytes} {generation : UInt64}

theorem attempt_received {attempt : UInt8} (attempts : 1 ≤ attempt ∧ attempt ≤ 5) :
    integerIn 1 5 (termOf (.unsigned attempt.toUInt64)) = some (attempt.toNat : Int) := by
  have low := UInt8.le_iff_toNat_le.mp attempts.1
  have high := UInt8.le_iff_toNat_le.mp attempts.2
  simp only [UInt8.reduceToNat] at low high
  rw [integerIn_unsigned, UInt8.toNat_toUInt64, if_pos (by omega)]

theorem interval_received (minimum : UInt16) :
    integerIn 0 65535 (termOf (.unsigned minimum.toUInt64)) = some (minimum.toNat : Int) := by
  have := minimum.toNat_lt
  rw [integerIn_unsigned, UInt16.toNat_toUInt64, if_pos (by omega)]

theorem maximum_received {maximum : UInt16} (some' : maximum ≠ 0) :
    integerIn 1 65535 (termOf (.unsigned maximum.toUInt64)) = some (maximum.toNat : Int) := by
  have := maximum.toNat_lt
  have : maximum.toNat ≠ 0 := fun zero => some' (UInt16.toNat_inj.mp zero)
  rw [integerIn_unsigned, UInt16.toNat_toUInt64, if_pos (by omega)]

theorem sdkId_received (sdkId : UInt32) :
    integerIn 0 0xFFFFFFFF (termOf (.unsigned sdkId.toUInt64)) = some (sdkId.toNat : Int) := by
  have := sdkId.toNat_lt
  rw [integerIn_unsigned, UInt32.toNat_toUInt64, if_pos (by omega)]

theorem resubscribing_received {attempt : UInt8} (later : 1 < generation)
    (attempts : 1 ≤ attempt ∧ attempt ≤ 5) :
    resubscribing (F := F) (termOf (Wire.resubscribingFrame session subscription generation attempt)) =
      some (.resubscribing (streamOf session subscription generation) attempt.toNat) := by
  have stream : streamName "subscription_status" 8 1
      (termOf (Wire.resubscribingFrame session subscription generation attempt)) =
        some (streamOf session subscription generation) :=
    streamName_object rfl rfl rfl rfl rfl rfl (by simpa using UInt64.lt_iff_toNat_lt.mp later)
  have attempted := attempt_received attempts
  rw [Inbound.resubscribing, stream]
  show ((integerIn 1 5 (termOf (.unsigned attempt.toUInt64))).bind fun attempt =>
    some (AsyncFrame.resubscribing _ attempt)) = _
  rw [attempted]
  rfl

theorem resubscribed_received {attempt : UInt8} {minimum maximum : UInt16} {sdkId : UInt32}
    (later : 1 < generation) (attempts : 1 ≤ attempt ∧ attempt ≤ 5)
    (interval : maximum ≠ 0 ∧ minimum ≤ maximum) :
    resubscribed (F := F) (termOf (Wire.resubscribedFrame session subscription generation attempt
        minimum maximum sdkId)) =
      some (.resubscribed (streamOf session subscription generation) attempt.toNat minimum.toNat
        maximum.toNat sdkId.toNat) := by
  have stream : streamName "subscription_status" 11 1
      (termOf (Wire.resubscribedFrame session subscription generation attempt minimum maximum sdkId)) =
        some (streamOf session subscription generation) :=
    streamName_object rfl rfl rfl rfl rfl rfl (by simpa using UInt64.lt_iff_toNat_lt.mp later)
  have ordered : (minimum.toNat : Int) ≤ maximum.toNat := by
    have := UInt16.le_iff_toNat_le.mp interval.2
    omega
  have attempted := attempt_received attempts
  have least := interval_received minimum
  have most := maximum_received interval.1
  have sdk := sdkId_received sdkId
  rw [Inbound.resubscribed, stream]
  show ((integerIn 1 5 (termOf (.unsigned attempt.toUInt64))).bind fun attempt =>
    (integerIn 0 65535 (termOf (.unsigned minimum.toUInt64))).bind fun minimum =>
      (integerIn 1 65535 (termOf (.unsigned maximum.toUInt64))).bind fun maximum =>
        (guard (minimum ≤ maximum) : Option Unit).bind fun _ =>
          (integerIn 0 0xFFFFFFFF (termOf (.unsigned sdkId.toUInt64))).bind fun sdkId =>
            some (AsyncFrame.resubscribed _ attempt minimum maximum sdkId)) = _
  rw [attempted, least, most, sdk]
  simp [guard, ordered]

theorem retired_received {last : UInt64} (numbered : generation ≠ 0) :
    retired (F := F) (termOf (Wire.retiredFrame session subscription generation last)) =
      some (.retired (streamOf session subscription generation) last.toNat) := by
  have stream : streamName "stream_retired" 6 0
      (termOf (Wire.retiredFrame session subscription generation last)) =
        some (streamOf session subscription generation) :=
    streamName_object rfl rfl rfl rfl rfl rfl (generation_pos numbered)
  have lasted : integerAbove (-1) (termOf (.unsigned last)) = some (last.toNat : Int) :=
    integerAbove_unsigned (by omega)
  rw [Inbound.retired, stream]
  show ((integerAbove (-1) (termOf (.unsigned last))).bind fun last =>
    some (AsyncFrame.retired _ last)) = _
  rw [lasted]
  rfl

theorem failed_received {error : Wire.InteractionError} (numbered : generation ≠ 0) :
    failed (F := F) (termOf (Wire.errorFrame session subscription generation error)) =
      some (.failed (streamOf session subscription generation) (errorOf error)) := by
  have stream : streamName "subscription_error" 6 0
      (termOf (Wire.errorFrame session subscription generation error)) =
        some (streamOf session subscription generation) :=
    streamName_object rfl rfl rfl rfl rfl rfl (generation_pos numbered)
  have errors := error_errorJson error
  rw [Inbound.failed, stream]
  show ((Inbound.error (termOf (Wire.errorJson error))).bind fun error =>
    some (AsyncFrame.failed _ error)) = _
  rw [errors]
  rfl

end Clauses

/-! ## Reports -/

section Reports

variable {told : SubscriptionReport}

/-- What a valid report says of its interval and its number. -/
structure Sound (told : SubscriptionReport) : Prop where
  generation : told.generation ≠ 0
  reportId : told.reportId ≠ 0
  interval : told.maxIntervalS ≠ 0 ∧ told.minIntervalS ≤ told.maxIntervalS

theorem sound_of_valid {request : Wire.SubscriptionRequest}
    (valid : Wire.validSubscriptionReport request told = true) : Sound told := by
  rw [Wire.validSubscriptionReport] at valid
  split at valid
  · cases valid
  · rename_i checked
    simp only [not_or, UInt16.not_lt] at checked
    obtain ⟨-, generation, -, reportId, interval⟩ := checked
    exact ⟨generation, reportId, interval⟩

theorem reportMetadata_object {members : List (Bytes × Json)} (sound : Sound told)
    (initial : members.lookup (ascii "initial") = some (.boolean told.initial))
    (reportId : members.lookup (ascii "report_id") = some (.unsigned told.reportId))
    (minimum : members.lookup (ascii "min_interval_s") =
      some (.unsigned told.minIntervalS.toUInt64))
    (maximum : members.lookup (ascii "max_interval_s") =
      some (.unsigned told.maxIntervalS.toUInt64))
    (sdkId : members.lookup (ascii "sdk_subscription_id") =
      some (.unsigned told.sdkSubscriptionId.toUInt64))
    (paths : members.lookup (ascii "path") = some (Wire.pathJson told.result.path)) :
    reportMetadata (termOf (.object members)) =
      if pathFits told.result.path then some (metadataOf told) else none := by
  have numbered : integerIn 1 0xFFFFFFFFFFFFFFFF (termOf (.unsigned told.reportId)) =
      some (told.reportId.toNat : Int) := by
    have := told.reportId.toNat_lt
    have := generation_pos sound.reportId
    exact integerIn_within (by omega) (by omega)
  have ordered : (told.minIntervalS.toNat : Int) ≤ told.maxIntervalS.toNat := by
    have := UInt16.le_iff_toNat_le.mp sound.interval.2
    omega
  rw [reportMetadata, field_object, field_object, field_object, field_object, field_object,
    field_object, initial, reportId, minimum, maximum, sdkId, paths]
  simp only [Option.map_some, Option.bind_some, boolean_termOf, numbered, interval_received,
    maximum_received sound.interval.1, sdkId_received, path_pathJson]
  cases pathFits told.result.path <;> simp [guard, ordered, metadataOf]

theorem attributeMetadata_frame (change : Wire.AttributeData) (sound : Sound told) :
    attributeMetadata (termOf (.object
      [(ascii "data_version", Wire.versionJson change.dataVersion),
        (ascii "initial", .boolean told.initial),
        (ascii "max_interval_s", .unsigned told.maxIntervalS.toUInt64),
        (ascii "min_interval_s", .unsigned told.minIntervalS.toUInt64),
        (ascii "path", Wire.pathJson told.result.path),
        (ascii "report_id", .unsigned told.reportId),
        (ascii "sdk_subscription_id", .unsigned told.sdkSubscriptionId.toUInt64)])) =
      if pathFits told.result.path then
        some (metadataOf told, .change (change.dataVersion.map fun version => (version.toNat : Int)))
      else none := by
  have versions := nullable_version change.dataVersion
  rw [attributeMetadata, reportMetadata_object sound rfl rfl rfl rfl rfl rfl, mapSize_object,
    field_object]
  show ((if pathFits told.result.path then some (metadataOf told) else none).bind fun common =>
    (nullable (integerIn 0 0xFFFFFFFF) (termOf (Wire.versionJson change.dataVersion))).bind
      fun version => some (common, Occasion.change version)) = _
  rw [versions]
  split <;> rfl

theorem eventMetadata_frame (event : Wire.EventData) (sound : Sound told) :
    eventMetadata (termOf (.object
      [(ascii "event_number", .unsigned event.eventNumber),
        (ascii "initial", .boolean told.initial),
        (ascii "max_interval_s", .unsigned told.maxIntervalS.toUInt64),
        (ascii "min_interval_s", .unsigned told.minIntervalS.toUInt64),
        (ascii "path", Wire.pathJson told.result.path),
        (ascii "priority", .unsigned event.priority.toUInt64),
        (ascii "report_id", .unsigned told.reportId),
        (ascii "sdk_subscription_id", .unsigned told.sdkSubscriptionId.toUInt64),
        (ascii "timestamp", Wire.timestampJson event)])) =
      if pathFits told.result.path then
        some (metadataOf told, .event event.eventNumber.toNat event.priority.toNat
          (timestampKindOf event.timestampKind) event.timestampValue.toNat)
      else none := by
  have numbers := integerIn_word event.eventNumber
  have priorities := integerIn_octet event.priority
  have stamps := timestamp_event event
  rw [eventMetadata, reportMetadata_object sound rfl rfl rfl rfl rfl rfl, mapSize_object,
    field_object, field_object, field_object]
  show ((if pathFits told.result.path then some (metadataOf told) else none).bind fun common =>
    (integerIn 0 0xFFFFFFFFFFFFFFFF (termOf (.unsigned event.eventNumber))).bind fun number =>
      (integerIn 0 255 (termOf (.unsigned event.priority.toUInt64))).bind fun priority =>
        (timestamp (termOf (Wire.timestampJson event))).bind fun stamp =>
          some (common, Occasion.event number priority stamp.1 stamp.2)) = _
  rw [numbers, priorities, stamps]
  split <;> rfl

/-- A valid report has the data of its kind, and nothing else. -/
theorem data_of_valid {request : Wire.SubscriptionRequest}
    (valid : Wire.validSubscriptionReport request told = true) :
    (told.kind = .attribute ∧ ∃ change, told.result.attributeData = some change ∧
        told.result.event = none) ∨
      (told.kind = .event ∧ ∃ event, told.result.event = some event ∧
        told.result.attributeData = none) := by
  rw [Wire.validSubscriptionReport] at valid
  split at valid
  · cases valid
  · rename_i checked
    simp only [not_or, not_not] at checked
    rw [← checked.2.2.1, Bool.and_eq_true] at valid
    clear checked
    obtain ⟨checked, -⟩ := valid
    match kind : told.kind, checked with
    | .attribute, checked =>
        simp only [Bool.and_eq_true, Option.isSome_iff_exists, Option.isNone_iff_eq_none] at checked
        obtain ⟨⟨⟨change, there⟩, unsaid⟩, -⟩ := checked
        exact .inl ⟨rfl, change, there, unsaid⟩
    | .event, checked =>
        simp only [Bool.and_eq_true, Option.isSome_iff_exists, Option.isNone_iff_eq_none] at checked
        obtain ⟨⟨⟨event, there⟩, unsaid⟩, -⟩ := checked
        exact .inr ⟨rfl, event, there, unsaid⟩

/-- A report is read as it was written, if its path and its numbers fit. -/
theorem report_received {request : Wire.SubscriptionRequest} {session : Bytes} {sequence : UInt64}
    {frame : Json} (valid : Wire.validSubscriptionReport request told = true)
    (numbered : sequence ≠ 0) (written : Wire.subscriptionFrame told session sequence = some frame) :
    report (F := F) (termOf frame) =
      if resultFits told.result then
        (notificationOf told).map
          (.report (streamOf session told.subscriptionId told.generation) sequence.toNat)
      else none := by
  have sound := sound_of_valid valid
  have sequenced : integerAbove 0 (termOf (.unsigned sequence)) = some (sequence.toNat : Int) :=
    integerAbove_unsigned (generation_pos numbered)
  rw [Wire.subscriptionFrame] at written
  rcases data_of_valid valid with ⟨kind, change, there, unsaid⟩ | ⟨kind, event, there, unsaid⟩
  · simp only [kind, there, Option.map_some, Option.some.injEq] at written
    subst written
    have stream : streamName "subscription_report" 9 0
        (termOf (Wire.attributeFrame told session sequence change)) =
          some (streamOf session told.subscriptionId told.generation) :=
      streamName_object rfl rfl rfl rfl rfl rfl (generation_pos sound.generation)
    have metadata := attributeMetadata_frame change sound
    have values := element_elementJson (F := F) change.value
    rw [report, stream]
    show ((integerAbove 0 (termOf (.unsigned sequence))).bind fun sequence =>
      ((Inbound.element (termOf (Wire.elementJson change.value))).bind fun value =>
        (attributeMetadata _).bind fun told => some (Notification.mk value told.1 told.2)).bind
          fun notification => some (AsyncFrame.report _ sequence notification)) = _
    rw [sequenced, values, metadata, resultFits, there, unsaid, notificationOf, kind]
    simp only [there, Option.all_some, Option.all_none, Bool.and_true]
    cases pathFits told.result.path <;> cases numbersFit change.value <;> rfl
  · simp only [kind, there, Option.map_some, Option.some.injEq] at written
    subst written
    have stream : streamName "subscription_report" 9 0
        (termOf (Wire.eventFrame told session sequence event)) =
          some (streamOf session told.subscriptionId told.generation) :=
      streamName_object rfl rfl rfl rfl rfl rfl (generation_pos sound.generation)
    have metadata := eventMetadata_frame event sound
    have values := element_elementJson (F := F) event.value
    rw [report, stream]
    show ((integerAbove 0 (termOf (.unsigned sequence))).bind fun sequence =>
      ((Inbound.element (termOf (Wire.elementJson event.value))).bind fun value =>
        (eventMetadata _).bind fun told => some (Notification.mk value told.1 told.2)).bind
          fun notification => some (AsyncFrame.report _ sequence notification)) = _
    rw [sequenced, values, metadata, resultFits, there, unsaid, notificationOf, kind]
    simp only [there, Option.all_some, Option.all_none, Bool.and_true]
    cases pathFits told.result.path <;> cases numbersFit event.value <;> rfl

end Reports

/-! ## Every frame -/

/-- The clauses that a frame of this event is not for. -/
theorem clauses_other {event : String} {members : List (Bytes × Json)}
    (called : members.lookup (ascii "event") = some (.string (ascii event))) :
    (ascii event ≠ ascii "subscription_status" →
      resubscribing (F := F) (termOf (.object members)) = none ∧
        resubscribed (F := F) (termOf (.object members)) = none) ∧
      (ascii event ≠ ascii "subscription_report" → report (F := F) (termOf (.object members)) = none) ∧
      (ascii event ≠ ascii "stream_retired" → retired (F := F) (termOf (.object members)) = none) ∧
      (ascii event ≠ ascii "subscription_error" → failed (F := F) (termOf (.object members)) = none) := by
  refine ⟨fun other => ⟨?_, ?_⟩, fun other => ?_, fun other => ?_, fun other => ?_⟩
  · rw [Inbound.resubscribing, streamName_event called other]
    rfl
  · rw [Inbound.resubscribed, streamName_event called other]
    rfl
  · rw [Inbound.report, streamName_event called other]
    rfl
  · rw [Inbound.retired, streamName_event called other]
    rfl
  · rw [Inbound.failed, streamName_event called other]
    rfl

section Dispatch

variable {members : List (Bytes × Json)}

theorem decodeAsync_report
    (called : members.lookup (ascii "event") = some (.string (ascii "subscription_report"))) :
    decodeAsync (F := F) (termOf (.object members)) = report (termOf (.object members)) := by
  obtain ⟨status, -, retired, failed⟩ := clauses_other (F := F) called
  rw [decodeAsync, (status (by decide)).1, (status (by decide)).2, retired (by decide),
    failed (by decide)]
  cases report (F := F) (termOf (.object members)) <;> rfl

theorem decodeAsync_retired
    (called : members.lookup (ascii "event") = some (.string (ascii "stream_retired"))) :
    decodeAsync (F := F) (termOf (.object members)) = retired (termOf (.object members)) := by
  obtain ⟨status, report, -, failed⟩ := clauses_other (F := F) called
  rw [decodeAsync, (status (by decide)).1, (status (by decide)).2, report (by decide),
    failed (by decide)]
  cases retired (F := F) (termOf (.object members)) <;> rfl

theorem decodeAsync_failed
    (called : members.lookup (ascii "event") = some (.string (ascii "subscription_error"))) :
    decodeAsync (F := F) (termOf (.object members)) = failed (termOf (.object members)) := by
  obtain ⟨status, report, retired, -⟩ := clauses_other (F := F) called
  rw [decodeAsync, (status (by decide)).1, (status (by decide)).2, report (by decide),
    retired (by decide)]
  rfl

end Dispatch

/-- The frame of a report is an object under its event. -/
theorem subscriptionFrame_object {told : SubscriptionReport} {session : Bytes} {sequence : UInt64}
    {frame : Json} (written : Wire.subscriptionFrame told session sequence = some frame) :
    ∃ members, frame = .object members ∧ members.length = 9 ∧
      members.lookup (ascii "event") = some (.string (ascii "subscription_report")) := by
  rw [Wire.subscriptionFrame] at written
  split at written
  · rw [Option.map_eq_some_iff] at written
    obtain ⟨change, -, rfl⟩ := written
    exact ⟨_, rfl, rfl, rfl⟩
  · rw [Option.map_eq_some_iff] at written
    obtain ⟨event, -, rfl⟩ := written
    exact ⟨_, rfl, rfl, rfl⟩

/-- What the host writes of its own accord is read as what it put into it. -/
theorem events_decoded (session : Bytes) (event : HostEvent) :
    ∃ frame, event.frame session = some frame ∧ decodeAsync (F := F) (termOf frame) =
      if eventAdmitted event then asyncOf session event else none := by
  cases event with
  | report request told sequence valid numbered =>
      have written : ∃ frame, Wire.subscriptionFrame told session sequence = some frame := by
        rw [Wire.subscriptionFrame]
        rcases data_of_valid valid with ⟨kind, change, there, -⟩ | ⟨kind, event, there, -⟩
        · exact ⟨_, by rw [kind, there]; rfl⟩
        · exact ⟨_, by rw [kind, there]; rfl⟩
      obtain ⟨frame, written⟩ := written
      refine ⟨frame, written, ?_⟩
      have read := report_received (F := F) valid numbered written
      obtain ⟨members, rfl, -, called⟩ := subscriptionFrame_object written
      rw [decodeAsync_report called, read]
      rfl
  | resubscribing subscription generation attempt later attempts =>
      refine ⟨_, rfl, ?_⟩
      rw [decodeAsync, resubscribing_received later attempts]
      rfl
  | resubscribed subscription generation attempt minimum maximum sdkId later attempts interval =>
      refine ⟨_, rfl, ?_⟩
      have before : resubscribing (F := F) (termOf (Wire.resubscribedFrame session subscription
          generation attempt minimum maximum sdkId)) = none := by
        rw [Inbound.resubscribing, Wire.resubscribedFrame, streamName_size (by simp)]
        rfl
      rw [decodeAsync, before, resubscribed_received later attempts interval]
      rfl
  | retired subscription generation last numbered =>
      refine ⟨_, rfl, ?_⟩
      have decoded : decodeAsync (F := F) (termOf (Wire.retiredFrame session subscription generation
          last)) = retired (termOf (Wire.retiredFrame session subscription generation last)) :=
        decodeAsync_retired rfl
      rw [decoded, retired_received numbered]
      rfl
  | failed subscription generation error numbered =>
      refine ⟨_, rfl, ?_⟩
      have decoded : decodeAsync (F := F) (termOf (Wire.errorFrame session subscription generation
          error)) = failed (termOf (Wire.errorFrame session subscription generation error)) :=
        decodeAsync_failed rfl
      rw [decoded, failed_received numbered]
      rfl

/-- Such a frame is no answer, whatever the id a call waits for. -/
theorem decodeResponse_event {session : Bytes} {event : HostEvent} {frame : Json}
    (written : event.frame session = some frame) (id : Bytes) :
    decodeResponse (termOf frame) id = .other := by
  have size : ∃ members : List (Bytes × Json), frame = .object members ∧ members.length ≠ 4 := by
    cases event with
    | report request told sequence valid numbered =>
        obtain ⟨members, is, nine, -⟩ := subscriptionFrame_object written
        exact ⟨members, is, by omega⟩
    | resubscribing | resubscribed | retired | failed =>
        cases written
        exact ⟨_, rfl, by simp⟩
  obtain ⟨members, rfl, size⟩ := size
  rw [decodeResponse, answers, mapSize_object, if_neg (by simp [size])]

/-! ## Every line -/

/-- A control frame the writer takes is within the limits. -/
theorem within_control {session : Bytes} {event : HostEvent} {frame : Json}
    (framed : event.frame session = some frame) (control : event.isReport = false)
    (bytes : frame.dumpText.length ≤ kMaxBytes) : WithinLimits frame := by
  cases event with
  | report => cases control
  | resubscribing subscription generation attempt later attempts =>
      cases framed
      refine ⟨bytes, .object (by decide) (by simp [Wire.kMaximumCollectionEntries]) ?_ ?_, ?_, rfl⟩
      · show [ascii "attempt", ascii "continuity", ascii "event", ascii "generation",
          ascii "session_generation", ascii "status", ascii "subscription_id",
          ascii "version"].Nodup
        decide
      · simp only [List.forall_mem_cons, List.not_mem_nil]
        exact ⟨.unsigned _ _, .string _ _, .string _ _, .unsigned _ _, .string _ _, .string _ _,
          .string _ _, .unsigned _ _, fun _ => False.elim⟩
      · simp [Wire.resubscribingFrame, nodeCount, memberNodes, kFrameNodes]
  | resubscribed subscription generation attempt minimum maximum sdkId later attempts interval =>
      cases framed
      refine ⟨bytes, .object (by decide) (by simp [Wire.kMaximumCollectionEntries]) ?_ ?_, ?_, rfl⟩
      · show [ascii "attempt", ascii "continuity", ascii "event", ascii "generation",
          ascii "max_interval_s", ascii "min_interval_s", ascii "sdk_subscription_id",
          ascii "session_generation", ascii "status", ascii "subscription_id",
          ascii "version"].Nodup
        decide
      · simp only [List.forall_mem_cons, List.not_mem_nil]
        exact ⟨.unsigned _ _, .string _ _, .string _ _, .unsigned _ _, .unsigned _ _, .unsigned _ _,
          .unsigned _ _, .string _ _, .string _ _, .string _ _, .unsigned _ _, fun _ => False.elim⟩
      · simp [Wire.resubscribedFrame, nodeCount, memberNodes, kFrameNodes]
  | retired subscription generation last numbered =>
      cases framed
      refine ⟨bytes, .object (by decide) (by simp [Wire.kMaximumCollectionEntries]) ?_ ?_, ?_, rfl⟩
      · show [ascii "event", ascii "generation", ascii "last_report_sequence",
          ascii "session_generation", ascii "subscription_id", ascii "version"].Nodup
        decide
      · simp only [List.forall_mem_cons, List.not_mem_nil]
        exact ⟨.string _ _, .unsigned _ _, .unsigned _ _, .string _ _, .string _ _, .unsigned _ _,
          fun _ => False.elim⟩
      · simp [Wire.retiredFrame, nodeCount, memberNodes, kFrameNodes]
  | failed subscription generation error numbered =>
      cases framed
      have said : Written error (Wire.errorJson error) := .whole
      have small := said.small
      refine ⟨bytes, .object (by decide) (by simp [Wire.kMaximumCollectionEntries]) ?_ ?_, ?_, ?_⟩
      · show [ascii "error", ascii "event", ascii "generation", ascii "session_generation",
          ascii "subscription_id", ascii "version"].Nodup
        decide
      · simp only [List.forall_mem_cons, List.not_mem_nil]
        exact ⟨said.admissible, .string _ _, .unsigned _ _, .string _ _, .string _ _, .unsigned _ _,
          fun _ => False.elim⟩
      · simp only [Wire.errorFrame, nodeCount, memberNodes, kFrameNodes]
        omega
      · simp [Wire.errorFrame, worded, wordedMembers, small.2]

/-- The line is the frame's text, and not too long. -/
theorem HostEvent.of_line {session line : Bytes} {event : HostEvent} {frame : Json}
    (framed : event.frame session = some frame) (written : event.line session = some line) :
    line = frame.dumpText ∧ frame.dumpText.length ≤ kMaxBytes := by
  have limit : event.maximumFrameBytes ≤ 131072 := by
    cases event with
    | report => exact le_refl _
    | resubscribing | resubscribed | retired | failed => exact Nat.le_of_lt (by decide : 4096 < 131072)
  rw [HostEvent.line, framed, Option.bind_some, Wire.lineOf] at written
  split at written
  · rename_i taken
    cases written
    exact ⟨rfl, Nat.le_of_lt_succ (taken.2.trans_le limit)⟩
  · cases written

/-- A subscription to a light that is on. -/
def lightRequest : Wire.SubscriptionRequest where
  subscriptionId := ascii "light"
  kind := .attribute
  fabricId := 1
  nodeId := 7
  paths := [⟨1, 7, some 1, some 0x0006, some 0x0000⟩]
  minIntervalS := 0
  maxIntervalS := 60
  resubscribe := true
  queueLimit := 8
  timeoutMs := 1000

def lightReport : SubscriptionReport where
  subscriptionId := ascii "light"
  generation := 1
  kind := .attribute
  result :=
    { path := ⟨1, 7, 1, 0x0006, 0x0000⟩
      attributeData := some ⟨⟨1, 7, 1, 0x0006, 0x0000⟩, .boolean .anonymous true, none⟩ }
  initial := true
  reportId := 1
  minIntervalS := 0
  maxIntervalS := 60
  sdkSubscriptionId := 5

def lightEvent : HostEvent := .report lightRequest lightReport 1 (by decide) (by decide)

/-- The document of the light's report. -/
def lightFrame : Json :=
  Wire.attributeFrame lightReport (ascii "s") 1
    ⟨⟨1, 7, 1, 0x0006, 0x0000⟩, .boolean .anonymous true, none⟩

theorem frame_lightEvent : lightEvent.frame (ascii "s") = some lightFrame := rfl

theorem isText_lightFrame : isText lightFrame = true := by
  simp (disch := decide) [lightFrame, lightReport, Wire.attributeFrame, isText,
    Wire.membersAreTexts, stringValid_plain, isText_pathJson, isText_elementJson, Wire.versionJson]

theorem dumpText_lightFrame : lightFrame.dumpText.length ≤ 2000 := by
  decide +kernel

theorem within_lightFrame : WithinLimits lightFrame := by
  refine ⟨dumpText_lightFrame.trans (by decide), .object (by decide) (by decide) (by decide) ?_,
    by decide, by decide⟩
  show ∀ member ∈ [_, _, _, _, _, _, _, _, _], _
  simp only [List.forall_mem_cons, List.not_mem_nil]
  refine ⟨.string _ _, .unsigned _ _, .string _ _, .object (by decide) (by decide) (by decide) ?_,
    .unsigned _ _, .string _ _, .string _ _,
    admissible_elementObject .anonymous _ (by decide) (.boolean _ _), .unsigned _ _,
    fun _ => False.elim⟩
  simp only [List.forall_mem_cons, List.not_mem_nil]
  exact ⟨.null _, .boolean _ _, .unsigned _ _, .unsigned _ _,
    admissible_pathJson _ (by decide), .unsigned _ _, .unsigned _ _, fun _ => False.elim⟩

/-- **Frames nobody asked for**: whatever line the host writes of its own accord is taken for no
reply, and is read by the BEAM as what the host put into it; a report is, if its path and its numbers
fit and its frame is within the limits. -/
theorem events_received (json : Bytes → Option Term) (session : Bytes) (event : HostEvent)
    {frame : Json} {line : Bytes} (framed : event.frame session = some frame)
    (written : event.line session = some line) (decodes : Decodes json frame) :
    (∀ operation id, receive (F := F) json operation id line = .other ∨
      receive (F := F) json operation id line = .broken) ∧
    ∀ read, decodeAsyncLine (F := F) json line = some read ↔
      eventAdmitted event = true ∧ (event.isReport = true → WithinLimits frame) ∧
        asyncOf session event = some read := by
  obtain ⟨rfl, bytes⟩ := event.of_line framed written
  have limits : (event.isReport = true → WithinLimits frame) ↔ WithinLimits frame := by
    refine ⟨fun reports => ?_, fun within _ => within⟩
    cases kind : event.isReport with
    | false => exact within_control framed kind bytes
    | true => exact reports kind
  obtain ⟨_, same, decoded⟩ := events_decoded (F := F) session event
  rw [framed] at same
  cases same
  rw [limits]
  by_cases within : WithinLimits frame
  · have read := frame_within decodes within
    refine ⟨fun operation id => .inl ?_, fun told => ?_⟩
    · rw [receive, read]
      simp only [decodeResponse_event framed id, received]
    · rw [decodeAsyncLine, read, Option.bind_some, decoded]
      cases eventAdmitted event <;> simp [within]
  · have unread := frame_beyond decodes within
    refine ⟨fun operation id => .inr ?_, fun told => ?_⟩
    · rw [receive, unread]
    · rw [decodeAsyncLine, unread, Option.bind_none]
      simp [within]

/-- The report of a light that is on. -/
theorem events_received_light :
    decodeAsyncLine (F := Empty) (knows lightFrame) lightFrame.dumpText =
      some (.report ⟨ascii "s", ascii "light", 1⟩ 1
        { value := .scalar .anonymous (.boolean true)
          metadata := ⟨⟨1, 7, 1, 0x0006, 0x0000⟩, true, 1, 0, 60, 5⟩
          occasion := .change none }) := by
  have within := within_lightFrame
  have written : lightEvent.line (ascii "s") = some lightFrame.dumpText := by
    rw [HostEvent.line, frame_lightEvent, Option.bind_some, Wire.lineOf,
      if_pos ⟨isText_lightFrame, Nat.lt_succ_of_le within.bytes⟩]
  exact ((events_received (F := Empty) _ (ascii "s") lightEvent frame_lightEvent written
    (decodes_knows within.bytes within.collections)).2 _).mpr ⟨by decide, fun _ => within, rfl⟩

end WotexMatter.Session
