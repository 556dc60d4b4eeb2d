import XeusZmq.Values
import XeusZmq.Authentication
import XeusZmq.Serializer
import XeusZmq.WireRoundTrip
import XeusZmq.SignatureVerification
import XeusZmq.Search
import XeusZmq.DecimalText
import XeusZmq.DapFraming
import XeusZmq.DapFramingCorrectness
import XeusZmq.Runs
import XeusZmq.FifoPort
import XeusZmq.Lanes
import XeusZmq.ServerLoops
import XeusZmq.DefaultDispatch
import XeusZmq.SplitDispatch
import XeusZmq.MalformedMessages
import XeusZmq.Utf8
import XeusZmq.Publisher
import XeusZmq.PublisherRuns
import XeusZmq.PublisherSafety
import XeusZmq.PublisherShutdown
import XeusZmq.IopubClient
import XeusZmq.HeartbeatClient
import XeusZmq.JsonAccess
import XeusZmq.FlatJson
import XeusZmq.Handshake
import XeusZmq.MissingFrames
import XeusZmq.HandshakeRuns
import XeusZmq.HandshakeAdversary
import XeusZmq.SignatureBinding
import XeusZmq.OrderedMap
import XeusZmq.Commands
import XeusZmq.Debugger
import XeusZmq.Traces
import XeusZmq.DebuggerSession
import XeusZmq.DebuggerHistory
import XeusZmq.DapClient
import XeusZmq.DapClientWaiting
import XeusZmq.Exchanges
import XeusZmq.DapClientActions
import XeusZmq.TabledJson
import XeusZmq.DapClientQueue
import XeusZmq.DapClientRuns
import XeusZmq.DapClientNotices
import XeusZmq.DapClientLedger
import XeusZmq.DapClientCorrelation
import XeusZmq.DapClientReplies
import XeusZmq.DapClientConservation
import XeusZmq.DapPeers
import XeusZmq.ClientShutdown
import XeusZmq.ClientDispatch
import XeusZmq.StdinReplies
import XeusZmq.ShellMessenger
import XeusZmq.DebugHeaders
import XeusZmq.StoppedThreads
import XeusZmq.InitSequence
import XeusZmq.DecoderGrammar
import XeusZmq.Loops
import XeusZmq.Middleware
import XeusZmq.FreePorts
import XeusZmq.PortAnnouncement
import XeusZmq.PublisherWelcome
import XeusZmq.BreakpointRollback
import XeusZmq.JsonPaths
import XeusZmq.StackTraceFilter
import XeusZmq.VariablePaging
import XeusZmq.StopTracking
import XeusZmq.RemoteCalls
import XeusZmq.RemoteCallRuns
import XeusZmq.RemoteCallProgress
import XeusZmq.ServedClients
import XeusZmq.PolledLoop
import XeusZmq.ControlPriority
import XeusZmq.AbortQueue
import XeusZmq.Heartbeat
import XeusZmq.Baton
import XeusZmq.StopChain
import XeusZmq.ServerShutdown
import XeusZmq.DefaultShutdown
import XeusZmq.SplitShutdown
import XeusZmq.Feeds
import XeusZmq.Subscribers
import XeusZmq.DapSessions
import XeusZmq.CellFiles
import XeusZmq.XThread
import XeusZmq.ThreadLifetimes
