/-
# WotexMatter.Wire.EventFrames -- the frames the host writes unasked

`SubscriptionFrame` and the frames of `EmitReport`, `EmitStatus` and `EmitFailure`
(`protocol.cpp`), and `valid_subscription_report` (`subscription.cpp`), on reports with all they
carry.  The members of an object stand in the order of their keys.
-/
import WotexMatter.Wire.InteractionReply
import WotexMatter.Wire.SubscriptionParameters

set_option autoImplicit false

namespace WotexMatter.Wire

open WotexMatter.Storage

structure SubscriptionReport where
  subscriptionId : Bytes
  generation : UInt64
  kind : SubscriptionKind
  result : PathResult
  initial : Bool
  reportId : UInt64
  minIntervalS : UInt16
  maxIntervalS : UInt16
  sdkSubscriptionId : UInt32

/-- `Matches`; an absent part of the selector equals no number. -/
def namesPath (selector : PathSelector) (path : ConcretePath) : Bool :=
  selector.fabricId = path.fabricId && selector.nodeId = path.nodeId &&
    selector.endpoint = some path.endpoint && selector.cluster = some path.cluster &&
    selector.member = some path.member

/-- `valid_subscription_report`. -/
def validSubscriptionReport (request : SubscriptionRequest) (report : SubscriptionReport) : Bool :=
  if report.subscriptionId ≠ request.subscriptionId ∨ report.generation = 0 ∨
      report.kind ≠ request.kind ∨ report.reportId = 0 ∨ report.maxIntervalS = 0 ∨
      report.maxIntervalS < report.minIntervalS then false
  else
    (match request.kind with
      | .attribute => report.result.attributeData.isSome && report.result.event.isNone &&
          report.result.error.isNone
      | .event => report.result.event.isSome && report.result.attributeData.isNone &&
          report.result.error.isNone) &&
      request.paths.any fun path => namesPath path report.result.path

/-- The frame of a report of an attribute. -/
def attributeFrame (report : SubscriptionReport) (sessionGeneration : Bytes)
    (reportSequence : UInt64) (change : AttributeData) : Json :=
  .object
    [(ascii "event", .string (ascii "subscription_report")),
      (ascii "generation", .unsigned report.generation),
      (ascii "kind", .string (ascii "attribute")),
      (ascii "metadata",
        .object
          [(ascii "data_version", versionJson change.dataVersion),
            (ascii "initial", .boolean report.initial),
            (ascii "max_interval_s", .unsigned report.maxIntervalS.toUInt64),
            (ascii "min_interval_s", .unsigned report.minIntervalS.toUInt64),
            (ascii "path", pathJson report.result.path),
            (ascii "report_id", .unsigned report.reportId),
            (ascii "sdk_subscription_id", .unsigned report.sdkSubscriptionId.toUInt64)]),
      (ascii "report_sequence", .unsigned reportSequence),
      (ascii "session_generation", .string sessionGeneration),
      (ascii "subscription_id", .string report.subscriptionId),
      (ascii "value", elementJson change.value),
      (ascii "version", .unsigned kProtocolVersion)]

/-- The frame of a report of an event. -/
def eventFrame (report : SubscriptionReport) (sessionGeneration : Bytes)
    (reportSequence : UInt64) (event : EventData) : Json :=
  .object
    [(ascii "event", .string (ascii "subscription_report")),
      (ascii "generation", .unsigned report.generation),
      (ascii "kind", .string (ascii "event")),
      (ascii "metadata",
        .object
          [(ascii "event_number", .unsigned event.eventNumber),
            (ascii "initial", .boolean report.initial),
            (ascii "max_interval_s", .unsigned report.maxIntervalS.toUInt64),
            (ascii "min_interval_s", .unsigned report.minIntervalS.toUInt64),
            (ascii "path", pathJson report.result.path),
            (ascii "priority", .unsigned event.priority.toUInt64),
            (ascii "report_id", .unsigned report.reportId),
            (ascii "sdk_subscription_id", .unsigned report.sdkSubscriptionId.toUInt64),
            (ascii "timestamp", timestampJson event)]),
      (ascii "report_sequence", .unsigned reportSequence),
      (ascii "session_generation", .string sessionGeneration),
      (ascii "subscription_id", .string report.subscriptionId),
      (ascii "value", elementJson event.value),
      (ascii "version", .unsigned kProtocolVersion)]

/-- `SubscriptionFrame`; a report of its kind has the data. -/
def subscriptionFrame (report : SubscriptionReport) (sessionGeneration : Bytes)
    (reportSequence : UInt64) : Option Json :=
  match report.kind with
  | .attribute =>
      report.result.attributeData.map (attributeFrame report sessionGeneration reportSequence)
  | .event => report.result.event.map (eventFrame report sessionGeneration reportSequence)

/-- The `subscription_status` of a recovery that begins. -/
def resubscribingFrame (sessionGeneration subscriptionId : Bytes) (generation : UInt64)
    (attempt : UInt8) : Json :=
  .object
    [(ascii "attempt", .unsigned attempt.toUInt64), (ascii "continuity", .string (ascii "lost")),
      (ascii "event", .string (ascii "subscription_status")),
      (ascii "generation", .unsigned generation),
      (ascii "session_generation", .string sessionGeneration),
      (ascii "status", .string (ascii "resubscribing")),
      (ascii "subscription_id", .string subscriptionId),
      (ascii "version", .unsigned kProtocolVersion)]

/-- The `subscription_status` of a recovery that has succeeded. -/
def resubscribedFrame (sessionGeneration subscriptionId : Bytes) (generation : UInt64)
    (attempt : UInt8) (minIntervalS maxIntervalS : UInt16) (sdkSubscriptionId : UInt32) : Json :=
  .object
    [(ascii "attempt", .unsigned attempt.toUInt64),
      (ascii "continuity", .string (ascii "unknown")),
      (ascii "event", .string (ascii "subscription_status")),
      (ascii "generation", .unsigned generation),
      (ascii "max_interval_s", .unsigned maxIntervalS.toUInt64),
      (ascii "min_interval_s", .unsigned minIntervalS.toUInt64),
      (ascii "sdk_subscription_id", .unsigned sdkSubscriptionId.toUInt64),
      (ascii "session_generation", .string sessionGeneration),
      (ascii "status", .string (ascii "resubscribed")),
      (ascii "subscription_id", .string subscriptionId),
      (ascii "version", .unsigned kProtocolVersion)]

/-- `stream_retired`. -/
def retiredFrame (sessionGeneration subscriptionId : Bytes) (generation lastReportSequence : UInt64) :
    Json :=
  .object
    [(ascii "event", .string (ascii "stream_retired")),
      (ascii "generation", .unsigned generation),
      (ascii "last_report_sequence", .unsigned lastReportSequence),
      (ascii "session_generation", .string sessionGeneration),
      (ascii "subscription_id", .string subscriptionId),
      (ascii "version", .unsigned kProtocolVersion)]

/-- `subscription_error`. -/
def errorFrame (sessionGeneration subscriptionId : Bytes) (generation : UInt64)
    (error : InteractionError) : Json :=
  .object
    [(ascii "error", errorJson error), (ascii "event", .string (ascii "subscription_error")),
      (ascii "generation", .unsigned generation),
      (ascii "session_generation", .string sessionGeneration),
      (ascii "subscription_id", .string subscriptionId),
      (ascii "version", .unsigned kProtocolVersion)]

end WotexMatter.Wire
