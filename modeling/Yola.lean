import Yola.Broadcast.Order
import Yola.Callbacks.Delivery
import Yola.Connections.Limits
import Yola.GateClient.Bookkeeping
import Yola.Gateway.LeaseSoundness
import Yola.Gateway.Shutdown
import Yola.Gateway.StickyMode
import Yola.Gateway.StickyRouting
import Yola.Gateway.Teardown
import Yola.Heartbeat.Misfire
import Yola.Inbound.Order
import Yola.Locate.Redis.GateFencing
import Yola.Locate.Redis.GateRejection
import Yola.Locate.Redis.NodeFencing
import Yola.Ludo.Scoring
import Yola.Ludo.Settlement
import Yola.Ludo.Start
import Yola.Mailbox.Token
import Yola.Network.BoundedRead
import Yola.Node.CleanupOwner
import Yola.Node.EpochExclusion
import Yola.Node.Shutdown
import Yola.Node.StickyFence
import Yola.Requests.Outcome
import Yola.Robots.Pool
import Yola.Room.Disconnect
import Yola.Room.Fence
import Yola.Sending.Accounting
import Yola.Tcp.ChannelOrder
import Yola.Tcp.Frame
import Yola.Timer.FixedRate
import Yola.Whot.Privacy
import Yola.Whot.RobotExit
import Yola.Whot.Settlement
