import Icelander.Host.Registry

/-!
# Host: Event Processing

`Host::service` and `Host::processEvent` (`src/src/host.cpp`): one engine event
becomes one typed event handed to the dispatcher, whose handlers run
synchronously.

What the engine reports besides the event enters as arguments: `R` resolves
names, `peerAddress` is each peer slot's `address` field.

* `processEvent_connect`: a Connect event always allocates a fresh wrapper and
  registers it, whatever wrappers already exist for the same handle.
* `processEvent_receive`, `processEvent_disconnect`: a Receive or Disconnect
  event is delivered with the first live registered wrapper on its handle, and
  with no wrapper at all it is delivered to nobody.
* `unkept_connect_drops_receive`, `connect_event_duplicates_wrapper`: runs of
  the synchronous example's server and client that show both effects.
-/

namespace Icelander

namespace Host

section Service
variable (R : Resolver) (peerAddress : PeerHandle → Address)

/-- Run the handlers of a typed event in dispatch order; each one that keeps the
    event's peer adds a `shared_ptr` to it. -/
def deliver (h : Host) (e : Event) : Host :=
  (h.dispatcher.dispatch e).foldl (fun h' hd => if hd.keepsPeer then h'.retain e.peer else h') h

/-- `processEvent(event)`: the host afterwards, and the typed event handed to the
    dispatcher (`none` when nothing was dispatched), or the exception that escaped. -/
def processEvent (h : Host) (event : ENetEvent) : Host × Except String (Option Event) :=
  match event.type with
  | .connect =>
    -- `peerWrapper` (one `shared_ptr`) is registered, then the event is built
    let h1 := (h.alloc event.peer).register h.next
    match Endpoint.fromEnetAddress R (peerAddress event.peer) with
    | .error msg => (h1.release h.next, .error msg)
    | .ok remote =>
      let e := Event.connect h.next remote event.data
      ((h1.deliver e).release h.next, .ok (some e))
  | .disconnect =>
    match h.findPeerByNative event.peer with
    | (some w, h1) =>
      match Endpoint.fromEnetAddress R (peerAddress event.peer) with
      | .error msg => (h1, .error msg)
      | .ok remote =>
        let e := Event.disconnect w remote event.data
        (h1.deliver e, .ok (some e))
    | (none, h1) => (h1, .ok none)
  | .receive =>
    match h.findPeerByNative event.peer, event.packet with
    | (some w, h1), some pkt =>
      let e := Event.receive w pkt event.channelID
      (h1.deliver e, .ok (some e))
    | (_, h1), _ => (h1, .ok none)
  | .none => (h, .ok none)

/-- `service(timeout)`: `result` and `event` are what `enet_host_service` reports; the
    event is processed when `result > 0`, and `result` is returned. -/
def service (h : Host) (result : Int) (event : ENetEvent) : Host × Except String (Option Event) :=
  if result > 0 then processEvent R peerAddress h event else (h, .ok none)

/-! ## What each event dispatches -/

/-- Running handlers changes only strong counts. -/
theorem foldl_retain_frame (L : List Handler) (w : Nat) (h : Host) :
    (L.foldl (fun h' hd => if hd.keepsPeer then h'.retain w else h') h).next = h.next ∧
    (L.foldl (fun h' hd => if hd.keepsPeer then h'.retain w else h') h).native = h.native ∧
    (L.foldl (fun h' hd => if hd.keepsPeer then h'.retain w else h') h).peers = h.peers ∧
    (L.foldl (fun h' hd => if hd.keepsPeer then h'.retain w else h') h).dispatcher =
      h.dispatcher := by
  induction L generalizing h with
  | nil => exact ⟨rfl, rfl, rfl, rfl⟩
  | cons hd L ih =>
    obtain ⟨h1, h2, h3, h4⟩ := ih (if hd.keepsPeer then h.retain w else h)
    simp only [List.foldl_cons, h1, h2, h3, h4]
    split <;> exact ⟨rfl, rfl, rfl, rfl⟩

@[simp] theorem deliver_native (h : Host) (e : Event) : (h.deliver e).native = h.native :=
  (foldl_retain_frame _ _ _).2.1

@[simp] theorem deliver_peers (h : Host) (e : Event) : (h.deliver e).peers = h.peers :=
  (foldl_retain_frame _ _ _).2.2.1

/-- A Connect event allocates a fresh wrapper for its handle, registers it, and carries
    it, whatever wrappers already exist for that handle. -/
theorem processEvent_connect (h : Host) (p : PeerHandle) (ch : UInt8) (data : UInt32)
    (pkt : Option PacketHandle) :
    (processEvent R peerAddress h ⟨.connect, p, ch, data, pkt⟩).2 =
      (Endpoint.fromEnetAddress R (peerAddress p)).map (fun remote => some (.connect h.next remote data)) ∧
    (processEvent R peerAddress h ⟨.connect, p, ch, data, pkt⟩).1.peers = h.peers ++ [h.next] ∧
    (processEvent R peerAddress h ⟨.connect, p, ch, data, pkt⟩).1.native h.next = p := by
  simp only [processEvent]
  split <;> simp_all [Except.map]

/-- A Receive event with a packet is dispatched with the first live registered wrapper on
    its handle, and not at all when there is none. -/
theorem processEvent_receive (h : Host) (p : PeerHandle) (ch : UInt8) (data : UInt32)
    (pkt : PacketHandle) :
    (processEvent R peerAddress h ⟨.receive, p, ch, data, some pkt⟩).2 =
      .ok (((h.peers.filter h.live).find? (fun w => h.native w == p)).map
        fun w => .receive w pkt ch) := by
  cases hf : (h.peers.filter h.live).find? (fun w => h.native w == p) <;>
    simp only [processEvent, findPeerByNative_eq, hf, Option.map]

/-- A Disconnect event is dispatched with the first live registered wrapper on its
    handle, and not at all when there is none. -/
theorem processEvent_disconnect (h : Host) (p : PeerHandle) (ch : UInt8) (data : UInt32)
    (pkt : Option PacketHandle) :
    (processEvent R peerAddress h ⟨.disconnect, p, ch, data, pkt⟩).2 =
      match (h.peers.filter h.live).find? (fun w => h.native w == p) with
      | some w => (Endpoint.fromEnetAddress R (peerAddress p)).map
          fun remote => some (.disconnect w remote data)
      | none => .ok none := by
  cases hf : (h.peers.filter h.live).find? (fun w => h.native w == p) with
  | none => simp only [processEvent, findPeerByNative_eq, hf]
  | some w =>
    simp only [processEvent, findPeerByNative_eq, hf]
    cases Endpoint.fromEnetAddress R (peerAddress p) <;> rfl

end Service

/-! ## Two runs of the synchronous example -/

/-- `sync_example`'s setting: every name resolves to 127.0.0.1 and back to `localhost`,
    and every peer slot's address is 127.0.0.1:12346. -/
def loopback : Resolver := ⟨fun _ => some 0x7f000001, fun _ => some "localhost"⟩

/-- The address of every peer slot in `sync_example`. -/
def loopbackAddress : PeerHandle → Address := fun _ => ⟨0x7f000001, 12346⟩

/-- `sync_example`'s server handlers: an `onConnect` and an `onReceive` that keep nothing. -/
def syncServer : EventDispatcher :=
  (EventDispatcher.empty.onConnect ⟨0, false⟩).onReceive ⟨1, false⟩

/-- The server's Connect event for slot 0 is dispatched, but nothing keeps the wrapper made
    for it; the next Receive from that slot, with a packet, and its Disconnect are handed
    to no handler. -/
theorem unkept_connect_drops_receive :
    (processEvent loopback loopbackAddress (init syncServer) ⟨.connect, 0, 0, 0, none⟩).2 =
      .ok (some (.connect 0 ⟨"localhost", 12346⟩ 0)) ∧
    (processEvent loopback loopbackAddress
      (processEvent loopback loopbackAddress (init syncServer) ⟨.connect, 0, 0, 0, none⟩).1
      ⟨.receive, 0, 0, 0, some 5⟩).2 = .ok none ∧
    (processEvent loopback loopbackAddress
      (processEvent loopback loopbackAddress (init syncServer) ⟨.connect, 0, 0, 0, none⟩).1
      ⟨.disconnect, 0, 0, 0, none⟩).2 = .ok none :=
  ⟨rfl, rfl, rfl⟩

/-- A client whose `onConnect` handler keeps its event's peer. -/
def keepingClient : EventDispatcher := EventDispatcher.empty.onConnect ⟨0, true⟩

/-- The client keeps the wrapper `connect` returned for slot 3; the handshake's Connect
    event for slot 3 carries a second wrapper, and afterwards the registry holds two live
    wrappers on slot 3. -/
theorem connect_event_duplicates_wrapper :
    (init keepingClient).connect loopback ⟨"localhost", 12346⟩ (some 3) =
      .ok (0, ((init keepingClient).alloc 3).register 0) ∧
    (processEvent loopback loopbackAddress (((init keepingClient).alloc 3).register 0)
      ⟨.connect, 3, 0, 0, none⟩).2 = .ok (some (.connect 1 ⟨"localhost", 12346⟩ 0)) ∧
    ((processEvent loopback loopbackAddress (((init keepingClient).alloc 3).register 0)
      ⟨.connect, 3, 0, 0, none⟩).1.liveOn 3) = [0, 1] :=
  ⟨rfl, rfl, rfl⟩

end Host

end Icelander
