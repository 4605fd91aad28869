import Axent.Lib.Keyed
import Axent.Lib.Index
import Axent.Lib.Run
import Axent.Lib.Lanes
import Axent.Json
import Axent.Types
import Axent.DeviceManager
import Axent.Reconcile
import Axent.Registry
import Axent.Discovery
import Axent.DiscoveryRows
import Axent.DiscoveryStable
import Axent.RouteManager
import Axent.Operation
import Axent.Broker
import Axent.Codec
import Axent.ControlPlane
import Axent.Async
import Axent.Scheduler
import Axent.Server
import Axent.Lib.Pieces
import Axent.Lib.Prog
import Axent.Lib.History
import Axent.Lib.Pool
import Axent.Lib.Transaction
import Axent.Lib.DropQueue
import Axent.Lib.Claim
import Axent.Lib.Sine
import Axent.Lib.Rfc1321
import Axent.MaintenanceLease
import Axent.Md5
import Axent.Md5Spec
import Axent.Firmware
import Axent.WebSocket
import Axent.Lib.Batches
import Axent.Endpoint
import Axent.LeaseTable
import Axent.Host
import Axent.HostLeases
import Axent.HostSessions
import Axent.HostControl
import Axent.Lib.Brackets
import Axent.Lib.Gate
import Axent.Media
import Axent.MediaRelay
import Axent.MediaStreamCore
import Axent.MediaStreamSubscription
import Axent.MediaStreamBarrier
import Axent.MediaStreamAccounting
import Axent.MediaStreamLifecycle
import Axent.MediaStreamDirect
import Axent.MediaStreamDrops
import Axent.MediaSubscription
import Axent.MediaQueues
import Axent.MediaHost
import Axent.MediaHostFrames
import Axent.MediaHostStreams
import Axent.Axtp.Contexts
import Axent.Axtp.Streams
import Axent.Axtp.Delivery
import Axent.Axtp.Session
import Axent.Axtp.Recovery
import Axent.Axtp.Control
import Axent.Axtp.Owners
import Axent.Axtp.Order
import Axent.Axtp.Peer
import Axent.Axtp.Media
import Axent.Axtp.Hid
import Axent.Axtp.Configure
import Axent.Axtp.Sources
import Axent.Axtp.Reconfigure
import Axent.Axtp.Jobs
import Axent.Axtp.Opens
import Axent.Axtp.Sections
import Axent.Axtp.VideoParams
import Axent.Axtp.Lease
import Axent.Axtp.Transaction
import Axent.AxtpCli
import Axent.Tcp
import Axent.WideText
