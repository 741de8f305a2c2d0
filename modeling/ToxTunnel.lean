import ToxTunnel.Interleaving
import ToxTunnel.TunnelState
import ToxTunnel.CohortFifo
import ToxTunnel.TunnelSteps
import ToxTunnel.EmissionDriver
import ToxTunnel.LastingFacts
import ToxTunnel.CloseLatch
import ToxTunnel.StateEdges
import ToxTunnel.StreamIntegrity
import ToxTunnel.TerminalFrames
import ToxTunnel.CloseOrder
import ToxTunnel.SendWindow
import ToxTunnel.HandshakeClose
import ToxTunnel.BacklogFlush
import ToxTunnel.IdRelease
import ToxTunnel.ErrorSettlement
import ToxTunnel.OpenCourse
import ToxTunnel.DormantClose
import ToxTunnel.OpenClosePairing
import ToxTunnel.TcpWrite
import ToxTunnel.StableParse
import ToxTunnel.Socks5Handshake
import ToxTunnel.PayloadContinuity
import ToxTunnel.InboundThrottle
import ToxTunnel.OpenAckGate
import ToxTunnel.OutboundQueue
import ToxTunnel.OutboundBarrier
import ToxTunnel.FriendSendGate
import ToxTunnel.ClientShutdown
import ToxTunnel.FailoverIsolation
import ToxTunnel.CheckedBytes
import ToxTunnel.FrameCodec
import ToxTunnel.FrameRoundTrip
import ToxTunnel.FriendGateHint
import ToxTunnel.EchoingPeer
import ToxTunnel.CyclicSearch
import ToxTunnel.TunnelIds
import ToxTunnel.ResumeHold
import ToxTunnel.TimerGenerations
import ToxTunnel.TerminalNotice
import ToxTunnel.DriverWakeups
import ToxTunnel.GlobLanguage
import ToxTunnel.TokenBucket
import ToxTunnel.RateLimits
import ToxTunnel.AccessRules
import ToxTunnel.FenceWire
import ToxTunnel.HandshakeChunks
import ToxTunnel.AckLedger
import ToxTunnel.TcpConnection
import ToxTunnel.TcpWritePath
import ToxTunnel.TcpListener
import ToxTunnel.FailoverHealth
import ToxTunnel.TcpReadPath
import ToxTunnel.TcpTakeover
import ToxTunnel.RateSpecs
import ToxTunnel.RetryAfter
import ToxTunnel.BootstrapRetry
import ToxTunnel.ToxTasks
import ToxTunnel.FriendEvents
import ToxTunnel.ActiveGauge
import ToxTunnel.HeldConnections
import ToxTunnel.Strand
import ToxTunnel.ResumeTokens
import ToxTunnel.ResumeGap
import ToxTunnel.DaemonConfig
import ToxTunnel.ConfigReload
import ToxTunnel.ShiftAverage
import ToxTunnel.WriteCoalescer
import ToxTunnel.BdpWindow
import ToxTunnel.MinRttFilter
import ToxTunnel.FailoverDecision
import ToxTunnel.Socks5Grammar
import ToxTunnel.ServerIdentity
import ToxTunnel.ForwardReload
import ToxTunnel.ForwardRollback
import ToxTunnel.SendBacklog
import ToxTunnel.PendingOpen
import ToxTunnel.EndpointGrammar
import ToxTunnel.AddressLiteral
import ToxTunnel.LoopbackGuards
import ToxTunnel.CliOverrides
import ToxTunnel.YamlTree
import ToxTunnel.ConfigYaml
import ToxTunnel.ConfigRoundTrip
import ToxTunnel.ConfigDiagnostics
import ToxTunnel.RulesRoundTrip
import ToxTunnel.KeyedRecords
import ToxTunnel.KnownServers
import ToxTunnel.YamlReads
import ToxTunnel.RegistryLoading
import ToxTunnel.RegistryRuns
import ToxTunnel.NodeList
import ToxTunnel.RefreshManager
import ToxTunnel.BoundedFifo
import ToxTunnel.IdAllocator
import ToxTunnel.SendBuffer
import ToxTunnel.WatchdogVerdicts
import ToxTunnel.LogThrottle
import ToxTunnel.Throwing
import ToxTunnel.LogSink
import ToxTunnel.IdentityCodecs
import ToxTunnel.InspectTable
import ToxTunnel.PidGuard
import ToxTunnel.AtomicWrite
import ToxTunnel.TunnelPair
