import EasyViewer.Library.LittleEndian
import EasyViewer.Library.BinaryHeap
import EasyViewer.Library.Run
import EasyViewer.ByteBuffer
import EasyViewer.Framing
import EasyViewer.ProtocolWrapper
import EasyViewer.UserConnection
import EasyViewer.RequestProcessor
import EasyViewer.RequestOrder
import EasyViewer.Protocol
import EasyViewer.ConnectionReader
import EasyViewer.OverloadCut
import EasyViewer.AccountManager
import EasyViewer.Authorization
import EasyViewer.LiveViewers
import EasyViewer.RoomAgreement
import EasyViewer.Admission
import EasyViewer.Revocation
import EasyViewer.UploadIntegrity
import EasyViewer.Library.Tally
import EasyViewer.ManagementPrivilege
import EasyViewer.ManagerSteps
import EasyViewer.ResponseRouting
import EasyViewer.TaskLifeCycle
import EasyViewer.TerminalIsolation
import EasyViewer.TerminalItems
import EasyViewer.VisitAnswers
import EasyViewer.WorkerWaits
import EasyViewer.DownloadIntegrity
import EasyViewer.GuardSessions
import EasyViewer.ViewerMessages
import EasyViewer.Library.BitField
import EasyViewer.Library.Calendar
import EasyViewer.Library.Threads
import EasyViewer.UserIds
import EasyViewer.AccountNames
import EasyViewer.BlackListBlocks
import EasyViewer.TaskThreads
import EasyViewer.TaskStates
import EasyViewer.TaskQueue
import EasyViewer.Resumption
import EasyViewer.TcpConnection
import EasyViewer.ServerConnections
import EasyViewer.RoomThreads
import EasyViewer.RoomVisibility
import EasyViewer.OrphanViewers
import EasyViewer.RefusedRequests
import EasyViewer.TaskObjects
import EasyViewer.TerminalFiles
import EasyViewer.BlockWrites
import EasyViewer.TaskPersistence
import EasyViewer.TcpTeardown
import EasyViewer.TcpClient
import EasyViewer.ScreenKeys
import EasyViewer.Library.RecursiveLocks
import EasyViewer.SchedulerLocks
import EasyViewer.Library.ProtoWire
import EasyViewer.DirectoryListings
import EasyViewer.Library.Simulation
import EasyViewer.Library.PowerOfTwo
import EasyViewer.Library.WindowCount
import EasyViewer.Library.VirtualClock
import EasyViewer.ByteQueue
import EasyViewer.ScreenViewer
import EasyViewer.BlackListListings
import EasyViewer.FailureCounts
import EasyViewer.RoomDiscipline
import EasyViewer.ManagerContainers
import EasyViewer.DispatchOverloads
import EasyViewer.RateLimit
import EasyViewer.RequestHeap
import EasyViewer.ThreadHeaps
import EasyViewer.Library.Ring
import EasyViewer.Library.Tables
import EasyViewer.SpeedCalculation
import EasyViewer.ReadWriteLock
import EasyViewer.ServerAddressBook
import EasyViewer.TerminalWrites
import EasyViewer.UdpSocket
import EasyViewer.PendingBytes
import EasyViewer.BufferCapacity
import EasyViewer.Library.ProtoReader
import EasyViewer.Library.ProtoMessage
import EasyViewer.Library.ProtoFields
import EasyViewer.ProtocolMessages
import EasyViewer.MessageTransport
import EasyViewer.LoginGuesses
import EasyViewer.Library.PrefixCode
import EasyViewer.PeerSends
import EasyViewer.RequestPipeline
import EasyViewer.ManagerAnswers
import EasyViewer.ManagerControl
import EasyViewer.CommandLine
import EasyViewer.ClipboardExchange
import EasyViewer.Library.FileTree
import EasyViewer.PartnerBrowser
