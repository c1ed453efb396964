import AeronClusterClient.Lib.Action
import AeronClusterClient.Lib.Bytes
import AeronClusterClient.Lib.LittleEndian
import AeronClusterClient.Lib.Unordered
import AeronClusterClient.Lib.Runs
import AeronClusterClient.Lib.Agreement
import AeronClusterClient.Text
import AeronClusterClient.Json
import AeronClusterClient.Sbe.GeneratedCodec
import AeronClusterClient.Sbe.Encoder
import AeronClusterClient.Sbe.Parser
import AeronClusterClient.Sbe.PublishRoundTrip
import AeronClusterClient.Sbe.ReadBounds
import AeronClusterClient.Sbe.SessionEventBlock
import AeronClusterClient.Sbe.StringChain
import AeronClusterClient.Sbe.ValidityFilter
import AeronClusterClient.Sbe.TopicFormats
import AeronClusterClient.Sbe.EnvelopeTransparency
import AeronClusterClient.Sbe.MessageHandler
import AeronClusterClient.Sbe.AcknowledgmentFields
import AeronClusterClient.Orders
import AeronClusterClient.Portfolios
import AeronClusterClient.Config
import AeronClusterClient.Session.Manager
import AeronClusterClient.Session.Connect
import AeronClusterClient.Session.Redirects
import AeronClusterClient.Session.Availability
import AeronClusterClient.Session.Retries
import AeronClusterClient.Session.Updates
import AeronClusterClient.Session.PrebuiltFrames
import AeronClusterClient.Session.Established
import AeronClusterClient.Session.ForeignEvents
import AeronClusterClient.Session.CloseRequest
import AeronClusterClient.Session.KeepaliveLoops
import AeronClusterClient.Commit.Manager
import AeronClusterClient.Commit.Store
import AeronClusterClient.Client.State
import AeronClusterClient.Client.Frames
import AeronClusterClient.Client.Subscriptions
import AeronClusterClient.Client.Delivery
import AeronClusterClient.Client.Connection
import AeronClusterClient.Client.Programs
import AeronClusterClient.Client.ConnectSteps
import AeronClusterClient.Client.ResumeOnConnect
import AeronClusterClient.Client.Acts
import AeronClusterClient.Client.CommitKey
import AeronClusterClient.Client.CommitTopic
import AeronClusterClient.Client.CommitPosition
import AeronClusterClient.Client.DedupWindow
import AeronClusterClient.Client.PollingThread
import AeronClusterClient.Client.Reassembly
import AeronClusterClient.Client.StallDetection
import AeronClusterClient.Client.GracePeriod
import AeronClusterClient.Client.SessionEffects
import AeronClusterClient.Client.Operations
import AeronClusterClient.Client.RejectedLogin
import AeronClusterClient.Client.DriverRecovery
import AeronClusterClient.Client.HeardLosses
import AeronClusterClient.Client.Undisturbed
import AeronClusterClient.Client.FailedConnect
import AeronClusterClient.Client.StaleConnection
import AeronClusterClient.Client.Envelopes
import AeronClusterClient.Client.OfferLedger
import AeronClusterClient.Client.ReconnectBudget
import AeronClusterClient.Client.TrackedTriples
import AeronClusterClient.Commit.Clearing
import AeronClusterClient.Client.SubscriptionTables
import AeronClusterClient.Client.AtLeastOnce
import AeronClusterClient.Session.Acceptance
import AeronClusterClient.Client.AllOrNothing
import AeronClusterClient.Client.PublishedOrders
import AeronClusterClient.Commit.OffsetJson
import AeronClusterClient.OrderRoundTrip
import AeronClusterClient.Commit.CompactFrame
import AeronClusterClient.Commit.ControlFrames
import AeronClusterClient.Client.PollLimit
import AeronClusterClient.Client.ConnectTimeout
import AeronClusterClient.SignalHandler
import AeronClusterClient.Session.OfferLoop
import AeronClusterClient.Sbe.SequenceNumbers
import AeronClusterClient.Commit.ControlPayloads
import AeronClusterClient.Lib.Scan
import AeronClusterClient.Decimals
import AeronClusterClient.Config.ResponseChannel
import AeronClusterClient.Config.PortSearch
import AeronClusterClient.Config.Validation
import AeronClusterClient.Session.Backoff
import AeronClusterClient.Client.PublishTopic
import AeronClusterClient.Client.StateReports
import AeronClusterClient.Client.OnceOnly
import AeronClusterClient.Sbe.Classification
import AeronClusterClient.Client.PolledDelivery
import AeronClusterClient.Client.Dormancy
import AeronClusterClient.Session.Endpoints
import AeronClusterClient.OrderPlacement
import AeronClusterClient.FileSink
import AeronClusterClient.Client.Moves
import AeronClusterClient.Client.SentMessages
import AeronClusterClient.Client.Choices
import AeronClusterClient.Client.Destruction
import AeronClusterClient.Client.Fleet
