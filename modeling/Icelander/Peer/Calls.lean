import Icelander.Host.Service

/-!
# Peer Calls

The methods of `Peer` (`src/src/peer.cpp`). Each one tests `nativePeer_` for
null and otherwise goes through it into the engine's record of the peer slot,
to read a field or to make a request. None of them looks at the weak `host_`.

The engine's records are `PeerMemory`: a slot's record, or `none` once the
engine host owning the slot was destroyed (`enet_host_destroy` in `~Host`).
Going through a slot whose record is gone is `Access.undefined`.

* `Peer.through`: the shape every method but `send` shares; each is it applied
  to its own default and its own use of the record. `send` also hands the
  engine the packet's handle, which for a moved-from packet is null: the engine
  reads through it when the peer is connected, while the slot still lives.
* `invoke_of_freed`: with a non-null handle into a freed slot, every method
  goes through freed memory.
* `calls_after_host_destroyed`: the wrapper `connect` returned, used after its
  host is destroyed.
-/

namespace Icelander

/-- The engine's record of a peer slot (`ENetPeer`): the fields the wrappers read. -/
structure ENetPeer where
  state : PeerState
  address : Address
  roundTripTime : UInt32
  deriving DecidableEq, Repr

/-- The engine's peer records as the wrappers reach them: `none` once freed. -/
abbrev PeerMemory := PeerHandle → Option ENetPeer

/-- `enet_host_destroy` of the engine host numbered `host`: every slot it owns is freed. -/
def freeHost (mem : PeerMemory) (owner : PeerHandle → Nat) (host : Nat) : PeerMemory :=
  fun h => if owner h = host then none else mem h

/-- What a call through a peer handle does. -/
inductive Access (α : Type) where
  /-- It returned this value. -/
  | ok (v : α)
  /-- It read or wrote the record of a freed slot. -/
  | undefined
  deriving DecidableEq, Repr

/-- Apply `f` to the value of a call. -/
def Access.map {α β : Type} (f : α → β) : Access α → Access β
  | .ok v => .ok (f v)
  | .undefined => .undefined

/-- `Peer`: `nativePeer_`, and the weak `host_`, by the host's number. -/
structure Peer where
  nativePeer : Option PeerHandle
  host : Nat
  deriving DecidableEq, Repr

namespace Peer

/-- The shape of every method: `if (nativePeer_) <use *nativePeer_> else <onNull>`. -/
def through {α : Type} (p : Peer) (mem : PeerMemory) (onNull : α) (use : ENetPeer → α) :
    Access α :=
  match p.nativePeer with
  | none => .ok onNull
  | some h =>
    match mem h with
    | some record => .ok (use record)
    | none => .undefined

section Methods
variable (p : Peer) (mem : PeerMemory)

/-- `send(channel, pkt)`. `pkt` is the `unique_ptr<Packet>`, `none` when null, holding the
    packet's `nativePacket_`, `none` once that packet was moved from. `false` for a null handle
    or a null `pkt`; otherwise `pkt.release()` and `enet_peer_send(nativePeer_, channel,
    nativePacket)`. With a packet, `accepted` is whether the engine takes it. A moved-from
    packet hands the engine a null packet: it returns -1 before reading it when the peer is not
    connected or the channel is not open (`channelOpen`), and otherwise reads through it. -/
def send (pkt : Option (Option PacketHandle)) (channelOpen accepted : Bool) : Access Bool :=
  match pkt with
  | none => .ok false
  | some nativePacket =>
    match p.nativePeer with
    | none => .ok false
    | some h =>
      match mem h, nativePacket with
      | none, _ => .undefined
      | some _, some _ => .ok accepted
      | some record, none =>
        if record.state = .connected && channelOpen then .undefined else .ok false

/-- A moved-from packet sent on an open channel to a connected peer whose slot lives. -/
example : (Peer.mk (some 0) 0).send (fun _ => some ⟨.connected, ⟨0x7f000001, 1234⟩, 0⟩)
    (some none) true true = .undefined := rfl

/-- `disconnect(data)`: `enet_peer_disconnect`. -/
def disconnect (_disconnectData : UInt32) : Access Unit := p.through mem () fun _ => ()

/-- `disconnectNow(data)`: `enet_peer_disconnect_now`. -/
def disconnectNow (_disconnectData : UInt32) : Access Unit := p.through mem () fun _ => ()

/-- `disconnectLater(data)`: `enet_peer_disconnect_later`. -/
def disconnectLater (_disconnectData : UInt32) : Access Unit := p.through mem () fun _ => ()

/-- `ping()`: `enet_peer_ping`. -/
def ping : Access Unit := p.through mem () fun _ => ()

/-- `timeout(limit, minimum, maximum)`: `enet_peer_timeout`. -/
def timeout (_timeoutLimit _timeoutMinimum _timeoutMaximum : Nat) : Access Unit :=
  p.through mem () fun _ => ()

/-- `reset()`: `enet_peer_reset`. -/
def reset : Access Unit := p.through mem () fun _ => ()

/-- `state()`: `disconnected` for a null handle. -/
def state : Access PeerState := p.through mem .disconnected (·.state)

/-- `endpoint()`: `{"", 0}` for a null handle, else `fromEnetAddress(nativePeer_->address)`. -/
def endpoint (R : Resolver) : Access (Except String Endpoint) :=
  p.through mem (.ok ⟨"", 0⟩) fun record => Endpoint.fromEnetAddress R record.address

/-- `roundTripTime()`: 0 ms for a null handle. -/
def roundTripTime : Access Nat := p.through mem 0 (·.roundTripTime.toNat)

/-- `isConnected()`. -/
def isConnected : Access Bool := (p.state mem).map (· == .connected)

/-- `isConnecting()`. -/
def isConnecting : Access Bool :=
  (p.state mem).map fun s => s == .connecting || s == .acknowledgingConnect ||
    s == .connectionPending || s == .connectionSucceeded

/-- `isDisconnecting()`. -/
def isDisconnecting : Access Bool :=
  (p.state mem).map fun s => s == .disconnectLater || s == .disconnecting ||
    s == .acknowledgingDisconnect

/-- `isDisconnected()`. -/
def isDisconnected : Access Bool := (p.state mem).map (· == .disconnected)

/-- `hostHandle()`: `host_.lock()`, given which hosts are still owned. -/
def hostHandle (hostLive : Nat → Bool) : Option Nat := if hostLive p.host then some p.host else none

end Methods

/-- The methods, by name. -/
inductive Method
  | send | disconnect | disconnectNow | disconnectLater | ping | timeout | reset
  | state | endpoint | roundTripTime | isConnected | isConnecting | isDisconnecting
  | isDisconnected
  deriving DecidableEq, Repr

/-- Call a method with some arguments (for `send`, a packet on an open channel), keeping only
    whether the call is defined; what each method returns is its definition above. -/
def invoke (R : Resolver) (p : Peer) (mem : PeerMemory) : Method → Access Unit
  | .send => (p.send mem (some (some 0)) true true).map fun _ => ()
  | .disconnect => p.disconnect mem 0
  | .disconnectNow => p.disconnectNow mem 0
  | .disconnectLater => p.disconnectLater mem 0
  | .ping => p.ping mem
  | .timeout => p.timeout mem 0 0 0
  | .reset => p.reset mem
  | .state => (p.state mem).map fun _ => ()
  | .endpoint => (p.endpoint mem R).map fun _ => ()
  | .roundTripTime => (p.roundTripTime mem).map fun _ => ()
  | .isConnected => (p.isConnected mem).map fun _ => ()
  | .isConnecting => (p.isConnecting mem).map fun _ => ()
  | .isDisconnecting => (p.isDisconnecting mem).map fun _ => ()
  | .isDisconnected => (p.isDisconnected mem).map fun _ => ()

/-- A call through a freed slot is undefined, whatever it would have done with the record. -/
theorem through_of_freed {α : Type} {p : Peer} {mem : PeerMemory} {h : PeerHandle}
    (hp : p.nativePeer = some h) (hm : mem h = none) (onNull : α) (use : ENetPeer → α) :
    p.through mem onNull use = .undefined := by
  simp [through, hp, hm]

/-- With a non-null handle into a freed slot, every method goes through freed memory:
    none of them consults `host_`. -/
theorem invoke_of_freed (R : Resolver) {p : Peer} {mem : PeerMemory} {h : PeerHandle}
    (hp : p.nativePeer = some h) (hm : mem h = none) (m : Method) :
    p.invoke R mem m = .undefined := by
  cases m <;> simp only [invoke, send, disconnect, disconnectNow, disconnectLater, ping, timeout,
    reset, state, endpoint, roundTripTime, isConnected, isConnecting, isDisconnecting,
    isDisconnected, through_of_freed hp hm, hp, hm, Access.map]

/-- The wrapper `connect` returns for slot 0 of a client host, kept by the application and
    used after `~Host` destroyed that host: every method goes through the freed slot. -/
theorem calls_after_host_destroyed (m : Method) (record : ENetPeer) :
    (Host.init .empty).connect Host.loopback ⟨"localhost", 12346⟩ (some 0) =
      .ok (0, ((Host.init .empty).alloc 0).register 0) ∧
    invoke Host.loopback ⟨some ((((Host.init .empty).alloc 0).register 0).native 0), 0⟩
      (freeHost (fun _ => some record) (fun _ => 0) 0) m = .undefined :=
  ⟨rfl, invoke_of_freed _ rfl rfl m⟩

end Peer

end Icelander
