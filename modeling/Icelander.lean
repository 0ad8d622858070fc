import Icelander.Framing.Builder
import Icelander.Framing.Reader
import Icelander.Framing.Cursor
import Icelander.Framing.RoundTrip
import Icelander.Engine
import Icelander.Events.Dispatcher
import Icelander.Host.Registry
import Icelander.Host.Service
import Icelander.Host.Peers
import Icelander.Host.Teardown
import Icelander.Packet.Ownership
import Icelander.Packet.Contents
import Icelander.Packet.Leaks
import Icelander.Peer.Calls
import Icelander.Async.Scheduler
import Icelander.Async.Conservation
import Icelander.Async.Mutex
import Icelander.Async.StartRace
import Icelander.Async.Wakeup
import Icelander.Lifecycle
