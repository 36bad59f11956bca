import GotaDaemon.Core.Transition
import GotaDaemon.Core.BigEndian
import GotaDaemon.Core.Framing
import GotaDaemon.Core.Tlv
import GotaDaemon.Go.Chan
import GotaDaemon.Ipc.Session
import GotaDaemon.Ipc.SessionManager
import GotaDaemon.Ipc.SessionRuns
import GotaDaemon.Ipc.Custody
import GotaDaemon.Ipc.Teardown
import GotaDaemon.Ipc.Allocation
import GotaDaemon.Ipc.OutboundStream
import GotaDaemon.Ipc.Closing
import GotaDaemon.Ipc.OnClose
import GotaDaemon.Ipc.InboundStream
import GotaDaemon.Ipc.Readers
import GotaDaemon.Ipc.Listener
import GotaDaemon.ControlCenter.Dispatcher
import GotaDaemon.ControlCenter.Correspondence
import GotaDaemon.Core.Sextets
import GotaDaemon.Go.Base64
import GotaDaemon.Go.Strings
import GotaDaemon.Go.Crypto
import GotaDaemon.InviteKey.KeyV1
import GotaDaemon.InviteKey.KeyManager
import GotaDaemon.InviteKey.Authenticity
import GotaDaemon.InviteKey.Grammar
import GotaDaemon.InviteKey.Registration
import GotaDaemon.Go.Net
import GotaDaemon.Network.UDPListener
import GotaDaemon.Network.Registry
import GotaDaemon.Network.Delivery
import GotaDaemon.Network.FanOut
import GotaDaemon.Network.Lifecycle
import GotaDaemon.Network.Attendance
import GotaDaemon.Network.Generations
import GotaDaemon.Stun.Response
import GotaDaemon.Stun.Addresses
import GotaDaemon.Stun.Attributes
import GotaDaemon.Stun.Message
import GotaDaemon.Stun.Discoverer
import GotaDaemon.Stun.Provenance
import GotaDaemon.Stun.Lifecycle
import GotaDaemon.ControlCenter.Abi
import GotaDaemon.ControlCenter.DefaultHandlers
import GotaDaemon.InviteKey.Validation
import GotaDaemon.Ipc.InboundDelivery
import GotaDaemon.Stun.AttributeOrder
import GotaDaemon.ControlCenter.Service
import GotaDaemon.ControlCenter.DefaultService
import GotaDaemon.ControlCenter.Liveness
import GotaDaemon.Go.Slice
import GotaDaemon.Identify.Identity
import GotaDaemon.Ipc.Cancellation
import GotaDaemon.Network.Stopping
import GotaDaemon.Stun.Discovery
import GotaDaemon.Stun.Progress
import GotaDaemon.Stun.Succession
import GotaDaemon.Stun.Stopping
