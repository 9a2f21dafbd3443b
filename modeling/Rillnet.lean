import Rillnet.Library.Reachability
import Rillnet.Library.Transducer
import Rillnet.Library.BigEndian
import Rillnet.Library.Channel
import Rillnet.Library.Heap
import Rillnet.Library.LeastFree
import Rillnet.Library.Chronicle
import Rillnet.Library.Loop
import Rillnet.Library.Tally
import Rillnet.StatusCode
import Rillnet.Frame
import Rillnet.FrameCodec
import Rillnet.FrameDecoder
import Rillnet.FrameGrammar
import Rillnet.PushLoop
import Rillnet.StreamIdAllocator
import Rillnet.AllocatorRuns
import Rillnet.Operation
import Rillnet.OperationRuns
import Rillnet.Messages
import Rillnet.Registrations
import Rillnet.Diagnostics
import Rillnet.WriteQueue
import Rillnet.ClientConnection
import Rillnet.ClientActs
import Rillnet.Annals
import Rillnet.ClientLedger
import Rillnet.ClientTable
import Rillnet.ClientSteps
import Rillnet.ClientFailing
import Rillnet.ClientResults
import Rillnet.ClientShell
import Rillnet.ClientIsolation
import Rillnet.ClientClosing
import Rillnet.ClientAnnals
import Rillnet.ClientReports
import Rillnet.ClientRouting
import Rillnet.ServerConnection
import Rillnet.ServerViews
import Rillnet.ClientWire
import Rillnet.ServerBook
import Rillnet.ServerSteps
import Rillnet.ServerWire
import Rillnet.ServerDesk
import Rillnet.TypedDispatch
import Rillnet.Delivery
import Rillnet.Session
import Rillnet.Correlation
import Rillnet.Accusations
import Rillnet.QueueRuns
import Rillnet.QueueSignals
import Rillnet.ServerRoster
import Rillnet.ServerErrors
import Rillnet.ServerAnnals
import Rillnet.ServerReports
import Rillnet.ErrorFrames
import Rillnet.TcpServer
import Rillnet.TcpShutdown
import Rillnet.Deadlines
import Rillnet.ServerDraining
import Rillnet.ServerAnswers
import Rillnet.ServerReplies
import Rillnet.ClientStreams
import Rillnet.ClientCancels
import Rillnet.ClientExchanges
import Rillnet.SidesInStep
import Rillnet.NoAccusations
import Rillnet.TcpTransport
import Rillnet.ConnectionQueues
import Rillnet.ServerShutdown
import Rillnet.TcpEndpoint
import Rillnet.TcpConnections
import Rillnet.TcpSession
import Rillnet.ClientValues
import Rillnet.ServerValues
import Rillnet.RemoteCalls
import Rillnet.QueueDraining
import Rillnet.ConnectionDraining
import Rillnet.Whereabouts
import Rillnet.ClientWaits
import Rillnet.Workload
import Rillnet.SessionServing
import Rillnet.SessionRest
import Rillnet.SessionOutcomes
