import WotexMatter.Theory.Table
import WotexMatter.Theory.Monitor
import WotexMatter.Theory.PathSearch
import WotexMatter.Theory.Recent
import WotexMatter.Theory.Directory
import WotexMatter.Native.ReportCredit
import WotexMatter.Native.ReportCreditInvariant
import WotexMatter.Native.ReportCreditCalls
import WotexMatter.Native.ReportCreditRuns
import WotexMatter.Native.HostFrame
import WotexMatter.Native.FlowTrace
import WotexMatter.Native.HostProtocol
import WotexMatter.Native.HostTrace
import WotexMatter.Native.Milestones
import WotexMatter.Native.LiveStreams
import WotexMatter.Native.OutputBacklog
import WotexMatter.Beam.ReportLedger
import WotexMatter.Session.CreditAgreement
import WotexMatter.Beam.Connection
import WotexMatter.Beam.Terminal
import WotexMatter.Beam.Overflow
import WotexMatter.Beam.Requests
import WotexMatter.Beam.Book
import WotexMatter.Beam.EnvelopeOrder
import WotexMatter.Beam.Soundness
import WotexMatter.Beam.NoCrash
import WotexMatter.Beam.Refusal
import WotexMatter.Beam.Admission
import WotexMatter.Beam.Submission
import WotexMatter.Beam.Leases
import WotexMatter.Session.Joint
import WotexMatter.Session.HostAnswers
import WotexMatter.Session.Cancellation
import WotexMatter.Native.SubscriptionBuffer
import WotexMatter.Native.EventSuppression
import WotexMatter.Native.DeliveryLaws
import WotexMatter.Native.NativeSubscription
import WotexMatter.Native.RecoveryAttempts
import WotexMatter.Native.DeliveryOrder
import WotexMatter.Native.PendingMutation
import WotexMatter.Native.StreamEnd
import WotexMatter.Storage.Encoding
import WotexMatter.Storage.StateDocument
import WotexMatter.Storage.DuplicateKeys
import WotexMatter.Storage.RoundTrip
import WotexMatter.Storage.JsonText
import WotexMatter.Storage.DurableStorage
import WotexMatter.Storage.CrashConsistency
import WotexMatter.Storage.Restart
import WotexMatter.Storage.Utf8
import WotexMatter.Wire.BoundedSax
import WotexMatter.Wire.Request
import WotexMatter.Wire.LineReader
import WotexMatter.Wire.FrameAdmission
import WotexMatter.Wire.RequestEnvelope
import WotexMatter.Native.RequestMachine
import WotexMatter.Native.RequestOrder
import WotexMatter.Beam.RequestFrames
import WotexMatter.Beam.CallTable
import WotexMatter.Theory.LittleEndian
import WotexMatter.Tlv.Codec
import WotexMatter.Tlv.RoundTrip
import WotexMatter.Theory.Collation
import WotexMatter.Value.Address
import WotexMatter.Read.PathResults
import WotexMatter.Value.Descriptor
import WotexMatter.Read.EndpointCatalogue
import WotexMatter.Read.EventResults
import WotexMatter.Native.AccessControl
import WotexMatter.Tlv.Encodable
import WotexMatter.Native.ElementSchema
import WotexMatter.Session.SchemaAgreement
import WotexMatter.Session.AccessControlAgreement
import WotexMatter.Native.AcknowledgeExact
import WotexMatter.Wire.JsonValue
import WotexMatter.Wire.ElementCodec
import WotexMatter.Wire.Selector
import WotexMatter.Wire.InteractionParameters
import WotexMatter.Wire.SubscriptionParameters
import WotexMatter.Beam.SubscriptionRequest
import WotexMatter.Session.SubscriptionAgreement
import WotexMatter.Wire.BoundedInput
import WotexMatter.Native.OutputAccounting
import WotexMatter.Native.Conversion
import WotexMatter.Session.ConversionBounds
import WotexMatter.Value.Conversion
import WotexMatter.Value.RoundTrip
import WotexMatter.Wire.WalkExact
import WotexMatter.Relay.RuntimeRelay
import WotexMatter.Relay.Contract
import WotexMatter.Relay.Credit
import WotexMatter.Wire.InteractionReply
import WotexMatter.Beam.Inbound
import WotexMatter.Session.ReplyTerms
import WotexMatter.Session.ReplyAgreement
import WotexMatter.Wire.EventFrames
import WotexMatter.Beam.InboundEvents
import WotexMatter.Session.EventAgreement
import WotexMatter.Native.SdkWork
import WotexMatter.Native.SdkWorkSafety
import WotexMatter.Native.SdkSlots
