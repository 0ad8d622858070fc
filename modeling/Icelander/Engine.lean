import Mathlib

/-!
# The Transport Engine Interface

The values the wrapper layer exchanges with the reliable-UDP engine (`enet.h`):
native handles, addresses, peer states and the events `enet_host_service`
reports. The engine itself is outside the model; what it decides (which peer
slot a connection gets, whether a name resolves) enters the model as an
argument of the operation that asks it.
-/

namespace Icelander

/-- A native peer handle (`ENetPeer*`), a slot of the engine host's peer array. -/
abbrev PeerHandle := Nat

/-- A native packet handle (`ENetPacket*`). -/
abbrev PacketHandle := Nat

/-- `ENetAddress`: an IPv4 host and a port. -/
structure Address where
  host : UInt32
  port : UInt16
  deriving DecidableEq, Repr

/-- `PeerState`, in the engine's `ENET_PEER_STATE_*` order. -/
inductive PeerState
  | disconnected
  | connecting
  | acknowledgingConnect
  | connectionPending
  | connectionSucceeded
  | connected
  | disconnectLater
  | disconnecting
  | acknowledgingDisconnect
  | zombie
  deriving DecidableEq, Repr

/-- `EventType`: `ENET_EVENT_TYPE_*`. -/
inductive EventType
  | none
  | connect
  | disconnect
  | receive
  deriving DecidableEq, Repr

/-- `ENetEvent`: one event reported by `enet_host_service`. -/
structure ENetEvent where
  type : EventType
  peer : PeerHandle
  channelID : UInt8
  data : UInt32
  packet : Option PacketHandle
  deriving DecidableEq, Repr

/-- `Endpoint`: `{host, port}`. -/
structure Endpoint where
  host : String
  port : UInt16
  deriving DecidableEq, Repr

/-- The engine's name resolution: `enet_address_set_host` (a name to an address) and
    `enet_address_get_host` (an address to a name); each may fail. -/
structure Resolver where
  setHost : String → Option UInt32
  getHost : Address → Option String

namespace Endpoint

/-- `toEnetAddress()`. -/
def toEnetAddress (R : Resolver) (e : Endpoint) : Except String Address :=
  match R.setHost e.host with
  | some h => .ok ⟨h, e.port⟩
  | none => .error ("Failed to resolve hostname: " ++ e.host)

/-- `fromEnetAddress(addr)`. -/
def fromEnetAddress (R : Resolver) (addr : Address) : Except String Endpoint :=
  match R.getHost addr with
  | some name => .ok ⟨name, addr.port⟩
  | none => .error "Failed to get hostname from address"

end Endpoint

end Icelander
