/-
# WotexMatter.Beam.InboundEvents -- how the BEAM reads a frame it did not ask for

`subscription` of `native/wire.ex`, `decode_async_line` and the clauses of `decode_async_frame`
(`native/connection.ex`), up to what they do to the state of the connection.  A clause is a function
of its own here; no frame belongs to two of them, since they differ in the text of the event or in
the size.
-/
import WotexMatter.Beam.Inbound

set_option autoImplicit false

namespace WotexMatter.Beam.Inbound

open WotexMatter.Storage
open WotexMatter.Tlv (Element)
open WotexMatter.Value (Address)
open WotexMatter.Wire (Term)

variable {F : Type}

/-! ## Reports -/

/-- What the metadata of a report says of the subscription. -/
structure ReportMetadata where
  path : Address
  initial : Bool
  reportId : Int
  minIntervalS : Int
  maxIntervalS : Int
  sdkSubscriptionId : Int

inductive Occasion where
  | change (dataVersion : Option Int)
  | event (eventNumber priority : Int) (timestampKind : TimestampKind) (timestampValue : Int)

/-- A value and its metadata. -/
structure Notification (F : Type) where
  value : Element F
  metadata : ReportMetadata
  occasion : Occasion

/-- What `attribute_metadata` and `event_metadata` have in common. -/
def reportMetadata (metadata : Term) : Option ReportMetadata := do
  let initial ← (field "initial" metadata).bind boolean
  let reportId ← (field "report_id" metadata).bind (integerIn 1 0xFFFFFFFFFFFFFFFF)
  let minIntervalS ← (field "min_interval_s" metadata).bind (integerIn 0 65535)
  let maxIntervalS ← (field "max_interval_s" metadata).bind (integerIn 1 65535)
  guard (minIntervalS ≤ maxIntervalS)
  let sdkSubscriptionId ← (field "sdk_subscription_id" metadata).bind (integerIn 0 0xFFFFFFFF)
  let path ← (field "path" metadata).bind path
  some { path, initial, reportId, minIntervalS, maxIntervalS, sdkSubscriptionId }

/-- `attribute_metadata`. -/
def attributeMetadata (metadata : Term) : Option (ReportMetadata × Occasion) := do
  guard (mapSize metadata = some 7)
  let common ← reportMetadata metadata
  let dataVersion ← (field "data_version" metadata).bind (nullable (integerIn 0 0xFFFFFFFF))
  some (common, .change dataVersion)

/-- `event_metadata`. -/
def eventMetadata (metadata : Term) : Option (ReportMetadata × Occasion) := do
  guard (mapSize metadata = some 9)
  let common ← reportMetadata metadata
  let eventNumber ← (field "event_number" metadata).bind (integerIn 0 0xFFFFFFFFFFFFFFFF)
  let priority ← (field "priority" metadata).bind (integerIn 0 255)
  let stamp ← (field "timestamp" metadata).bind timestamp
  some (common, .event eventNumber priority stamp.1 stamp.2)

/-- `subscription`. -/
def subscription (kind : Bytes) (value metadata : Term) : Option (Notification F) := do
  let read ←
    if kind = ascii "attribute" then some attributeMetadata
    else if kind = ascii "event" then some eventMetadata
    else none
  let value ← element value
  let told ← read metadata
  some { value, metadata := told.1, occasion := told.2 }

/-! ## Frames -/

/-- The session, the subscription and the generation a frame is about. -/
structure StreamName where
  sessionGeneration : Bytes
  subscriptionId : Bytes
  generation : Int
  deriving DecidableEq

inductive AsyncFrame (F : Type) where
  | resubscribing (stream : StreamName) (attempt : Int)
  | resubscribed (stream : StreamName) (attempt minIntervalS maxIntervalS sdkSubscriptionId : Int)
  | report (stream : StreamName) (reportSequence : Int) (notification : Notification F)
  | retired (stream : StreamName) (lastReportSequence : Int)
  | failed (stream : StreamName) (error : Error)

/-- An integer above a bound. -/
def integerAbove (bound : Int) : Term → Option Int
  | .integer value => if bound < value then some value else none
  | _ => none

/-- The value under a key is this text. -/
def holdsText (key text : String) (frame : Term) : Bool :=
  (field key frame).bind binary = some (ascii text)

/-- What every clause reads: the size, the version, the event and the stream. -/
def streamName (event : String) (size : Nat) (above : Int) (frame : Term) : Option StreamName := do
  guard (mapSize frame = some size)
  let _ ← (field "version" frame).bind (integerIn 1 1)
  guard (holdsText "event" event frame = true)
  let sessionGeneration ← (field "session_generation" frame).bind binary
  let subscriptionId ← (field "subscription_id" frame).bind binary
  let generation ← (field "generation" frame).bind (integerAbove above)
  some { sessionGeneration, subscriptionId, generation }

def resubscribing (frame : Term) : Option (AsyncFrame F) := do
  let stream ← streamName "subscription_status" 8 1 frame
  guard (holdsText "status" "resubscribing" frame = true ∧ holdsText "continuity" "lost" frame = true)
  let attempt ← (field "attempt" frame).bind (integerIn 1 5)
  some (.resubscribing stream attempt)

def resubscribed (frame : Term) : Option (AsyncFrame F) := do
  let stream ← streamName "subscription_status" 11 1 frame
  guard (holdsText "status" "resubscribed" frame = true ∧ holdsText "continuity" "unknown" frame = true)
  let attempt ← (field "attempt" frame).bind (integerIn 1 5)
  let minimum ← (field "min_interval_s" frame).bind (integerIn 0 65535)
  let maximum ← (field "max_interval_s" frame).bind (integerIn 1 65535)
  guard (minimum ≤ maximum)
  let sdkId ← (field "sdk_subscription_id" frame).bind (integerIn 0 0xFFFFFFFF)
  some (.resubscribed stream attempt minimum maximum sdkId)

def report (frame : Term) : Option (AsyncFrame F) := do
  let stream ← streamName "subscription_report" 9 0 frame
  let sequence ← (field "report_sequence" frame).bind (integerAbove 0)
  let kind ← (field "kind" frame).bind binary
  let value ← field "value" frame
  let metadata ← field "metadata" frame
  let notification ← subscription kind value metadata
  some (.report stream sequence notification)

def retired (frame : Term) : Option (AsyncFrame F) := do
  let stream ← streamName "stream_retired" 6 0 frame
  let last ← (field "last_report_sequence" frame).bind (integerAbove (-1))
  some (.retired stream last)

def failed (frame : Term) : Option (AsyncFrame F) := do
  let stream ← streamName "subscription_error" 6 0 frame
  let error ← (field "error" frame).bind error
  some (.failed stream error)

/-- `decode_async_frame`, but for the answer to a cancellation the BEAM sent itself. -/
def decodeAsync (frame : Term) : Option (AsyncFrame F) :=
  resubscribing frame <|> resubscribed frame <|> report frame <|> retired frame <|> failed frame

/-- `decode_async_line`. -/
def decodeAsyncLine (json : Bytes → Option Term) (line : Bytes) : Option (AsyncFrame F) :=
  (frame json line).bind decodeAsync

end WotexMatter.Beam.Inbound
