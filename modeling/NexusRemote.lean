import NexusRemote.BigEndian
import NexusRemote.Fragments
import NexusRemote.Mealy
import NexusRemote.FrameCrypto
import NexusRemote.VideoPacket
import NexusRemote.VideoTransport
import NexusRemote.Reassembly
import NexusRemote.ClientReceiver
import NexusRemote.VideoAuthenticity
import NexusRemote.HostMedia
import NexusRemote.HostStreamer
import NexusRemote.GenuineReceive
import NexusRemote.ChaCha20Poly1305
import NexusRemote.VideoDelivery
import NexusRemote.VideoStream
import NexusRemote.HostWorker
import NexusRemote.StreamRestart
import NexusRemote.EntityId
import NexusRemote.IpRange
import NexusRemote.PolicyEngine
import NexusRemote.PolicyDecision
import NexusRemote.PolicyGrants
import NexusRemote.RelayTokens
import NexusRemote.AuditLog
import NexusRemote.ControlStore
import NexusRemote.SessionRequest
import NexusRemote.ControlGrants
import NexusRemote.Blake3
import NexusRemote.Ed25519
import NexusRemote.ControlEncoding
import NexusRemote.Capabilities
import NexusRemote.ClientSession
import NexusRemote.SessionLifetime
import NexusRemote.CapabilityVerifier
import NexusRemote.AgentSessions
import NexusRemote.IssuedSessions
import NexusRemote.AuditRecording
import NexusRemote.JsonText
import NexusRemote.DeviceCredentials
import NexusRemote.SignedArtefacts
import NexusRemote.DeviceEnrollment
import NexusRemote.AuditRestarts
import NexusRemote.AuditEvidence
import NexusRemote.AuditListing
import NexusRemote.RelaySessions
import NexusRemote.RelayServer
import NexusRemote.Schedules
import NexusRemote.RelayPairing
import NexusRemote.RelayTurns
import NexusRemote.RelayIncarnations
import NexusRemote.RelayCleanup
import NexusRemote.EnrollmentStore
import NexusRemote.EnrollmentBudget
import NexusRemote.DeviceRegistration
import NexusRemote.TextSlices
import NexusRemote.EnrollmentRequest
import NexusRemote.ErrorReplies
import NexusRemote.DeviceIds
import NexusRemote.FrameRoundTrip
import NexusRemote.ReassemblyRuns
import NexusRemote.ReplayHistory
import NexusRemote.NonceFamily
import NexusRemote.NonceCache
import NexusRemote.VideoCodec
import NexusRemote.InputEvents
import NexusRemote.WindowInput
import NexusRemote.ReassemblySlots
import NexusRemote.PolicyNarrowing
import NexusRemote.LabelSelectors
import NexusRemote.AuditRebuild
import NexusRemote.DenialAudit
import NexusRemote.Snapshots
import NexusRemote.EnrollmentRaces
import NexusRemote.ProtobufReader
import NexusRemote.ControlFrames
import NexusRemote.CursorControl
import NexusRemote.HostInput
import NexusRemote.InputLimits
import NexusRemote.ControlQueue
import NexusRemote.ReconnectDeadline
import NexusRemote.SessionStates
import NexusRemote.AnnexB
import NexusRemote.Histories
import NexusRemote.ClientDecoder
import NexusRemote.KeyframeSchedule
import NexusRemote.TransformCalls
import NexusRemote.NativePipeline
import NexusRemote.StalePictures
import NexusRemote.Nv12
import NexusRemote.CaptureSurfaces
import NexusRemote.ColourConversion
import NexusRemote.InputInjection
import NexusRemote.TypedText
import NexusRemote.ChunkedStreams
import NexusRemote.RelayHandshake
import NexusRemote.BootstrapKeys
import NexusRemote.DepthOne
import NexusRemote.LatestFrames
import NexusRemote.CaptureWorker
import NexusRemote.CaptureStops
import NexusRemote.CaptureAnswers
import NexusRemote.AsyncInputs
import NexusRemote.Paths
import NexusRemote.ClientRuntime
import NexusRemote.RuntimeSafety
import NexusRemote.ConfiguredClient
import NexusRemote.StreamCopy
import NexusRemote.RelayForwarding
import NexusRemote.Dialogues
import NexusRemote.PictureCopies
