import Icelander.Host.Service

/-!
# Packet Ownership

Who owns each native packet (`ENetPacket*`): the `Packet` wrappers of
`src/src/packet.cpp`, moved between `unique_ptr`s and locals, and the engine,
once `Peer::send` or `Host::broadcast` hands a packet over.

A wrapper is named by its allocation number; `handle w` is its
`nativePacket_` and `alive w` says the object still exists (its owner has not
destroyed or released it). The engine's side is `engine t`. Every call of
`enet_packet_destroy` is counted in `destroyed`, and every engine call made
with a null packet in `nullCalls`.

* `step_safe`, `reachable_safe`: over every run, no packet is destroyed twice,
  none is held by two live wrappers, and none is held by a live wrapper and the
  engine at once.
* `send_and_receive_leak`: a run where a rejected send and an unmatched receive
  each leave a packet undestroyed and without an owner, and a send of a
  moved-from wrapper passes a null packet to the engine.
-/

namespace Icelander

/-- The packets and packet wrappers of a program. -/
structure Packets where
  /-- The next native packet: packets are `0, …, nextToken - 1`. -/
  nextToken : Nat
  /-- The next wrapper: wrappers are `0, …, nextWrapper - 1`. -/
  nextWrapper : Nat
  /-- Each wrapper's `nativePacket_`. -/
  handle : Nat → Option PacketHandle
  /-- The wrapper object still exists and is owned. -/
  alive : Nat → Bool
  /-- The engine owns the packet. -/
  engine : PacketHandle → Bool
  /-- How many times `enet_packet_destroy` ran on the packet. -/
  destroyed : PacketHandle → Nat
  /-- How many engine calls received a null packet. -/
  nullCalls : Nat

/-- One operation on packets. -/
inductive PacketOp
  /-- `Packet::create(...)`, or `PacketBuilder::build(...)`, which calls it. -/
  | create
  /-- `Packet(Packet&& other)`. -/
  | moveConstruct (other : Nat)
  /-- `operator=(Packet&& other)` on `self`. -/
  | moveAssign (self other : Nat)
  /-- `~Packet()`: the owning `unique_ptr` or local goes away. -/
  | drop (w : Nat)
  /-- `Peer::send(channel, pkt)`: whether the peer's `nativePeer_` is non-null, the wrapper
      `pkt` points to, and whether `enet_peer_send` accepts. -/
  | send (peerValid : Bool) (pkt : Option Nat) (accepted : Bool)
  /-- `Host::broadcast(channel, pkt)`: whether `nativeHost_` is non-null, and `pkt`. -/
  | broadcast (hostValid : Bool) (pkt : Option Nat)
  /-- A Receive event from peer slot `p`, processed by host `h`. -/
  | receive (h : Host) (p : PeerHandle)
  /-- The engine finishes with a packet it owns and destroys it. -/
  | engineDone (t : PacketHandle)

namespace Packets

/-- No packets and no wrappers. -/
def init : Packets := ⟨0, 0, fun _ => none, fun _ => false, fun _ => false, fun _ => 0, 0⟩

/-- A new wrapper object holding `h`. -/
@[simps]
def newWrapper (s : Packets) (h : Option PacketHandle) : Packets :=
  { s with
    nextWrapper := s.nextWrapper + 1
    handle := fun w => if w = s.nextWrapper then h else s.handle w
    alive := fun w => if w = s.nextWrapper then true else s.alive w }

/-- `enet_packet_create`: a new native packet. -/
@[simps]
def newToken (s : Packets) : Packets := { s with nextToken := s.nextToken + 1 }

/-- Set a wrapper's `nativePacket_`. -/
@[simps]
def setHandle (s : Packets) (w : Nat) (h : Option PacketHandle) : Packets :=
  { s with handle := fun v => if v = w then h else s.handle v }

/-- The wrapper object is gone (destroyed, or released and leaked). -/
@[simps]
def kill (s : Packets) (w : Nat) : Packets :=
  { s with alive := fun v => if v = w then false else s.alive v }

/-- `enet_packet_destroy(t)`. -/
@[simps]
def destroy (s : Packets) (t : PacketHandle) : Packets :=
  { s with destroyed := fun u => if u = t then s.destroyed u + 1 else s.destroyed u }

/-- `if (nativePacket_) enet_packet_destroy(nativePacket_);`. -/
def destroyHeld (s : Packets) (w : Nat) : Packets :=
  match s.handle w with
  | some t => s.destroy t
  | none => s

/-- The engine takes a packet, or is handed a null one. -/
def give (s : Packets) : Option PacketHandle → Packets
  | some t => { s with engine := fun u => if u = t then true else s.engine u }
  | none => { s with nullCalls := s.nullCalls + 1 }

/-- `destroyHeld` as one update: the packet `w` holds, if any, is destroyed once more. -/
theorem destroyHeld_eq (s : Packets) (w : Nat) : s.destroyHeld w =
    { s with
      destroyed := fun u => if s.handle w = some u then s.destroyed u + 1 else s.destroyed u } := by
  unfold destroyHeld destroy
  split <;> rename_i h <;> simp [h, eq_comm]

/-- `~Packet()` on a live wrapper. -/
def dropWrapper (s : Packets) (w : Nat) : Packets := (s.destroyHeld w).kill w

/-- One operation. Operations on a wrapper that no longer exists do not happen. -/
def step (s : Packets) : PacketOp → Packets
  | .create => (s.newWrapper (some s.nextToken)).newToken
  | .moveConstruct other =>
    if s.alive other then (s.setHandle other none).newWrapper (s.handle other) else s
  | .moveAssign self other =>
    if s.alive self ∧ s.alive other ∧ self ≠ other then
      ((s.destroyHeld self).setHandle self (s.handle other)).setHandle other none
    else s
  | .drop w => if s.alive w then s.dropWrapper w else s
  | .send peerValid pkt accepted =>
    match pkt with
    | some w =>
      if ¬ s.alive w then s
      -- `if (!nativePeer_ || !pkt) return false;`: the by-value `unique_ptr` destroys it
      else if ¬ peerValid then s.dropWrapper w
      -- `pkt.release()`, then `enet_peer_send(nativePeer_, channel, nativePacket)`
      else match s.handle w with
        | some t => if accepted then (s.kill w).give (some t) else s.kill w
        | none => (s.kill w).give none
    | none => s
  | .broadcast hostValid pkt =>
    match pkt with
    | some w =>
      if ¬ s.alive w then s
      else if ¬ hostValid then s.dropWrapper w
      else (s.kill w).give (s.handle w)
    | none => s
  | .receive h p =>
    -- the engine hands over a new packet; `Packet::fromNative` wraps it only when
    -- `findPeerByNative` finds a wrapper, and the event's wrapper is destroyed after dispatch
    match (h.findPeerByNative p).1 with
    | some _ => ((s.newWrapper (some s.nextToken)).newToken).dropWrapper s.nextWrapper
    | none => s.newToken
  | .engineDone t =>
    if s.engine t then { s.destroy t with engine := fun u => if u = t then false else s.engine u }
    else s

/-- The state after a sequence of operations. -/
def run (s : Packets) : List PacketOp → Packets
  | [] => s
  | op :: ops => (s.step op).run ops

/-- Packet `t` has no owner: the engine does not own it and no live wrapper holds it. -/
def Unowned (s : Packets) (t : PacketHandle) : Prop :=
  s.engine t = false ∧ ∀ w, s.alive w = true → s.handle w ≠ some t

/-- From no packets: a packet sent to a valid peer whose `enet_peer_send` rejects it, and a
    packet received from a slot with no live wrapper, are each left undestroyed with no
    owner; sending a wrapper whose handle was moved out passes a null packet to the
    engine. -/
theorem send_and_receive_leak :
    (init.run [.create, .send true (some 0) false]).destroyed 0 = 0 ∧
    (init.run [.create, .send true (some 0) false]).Unowned 0 ∧
    (init.run [.receive (Host.init .empty) 0]).nextToken = 1 ∧
    (init.run [.receive (Host.init .empty) 0]).destroyed 0 = 0 ∧
    (init.run [.receive (Host.init .empty) 0]).Unowned 0 ∧
    (init.run [.create, .moveConstruct 0, .send true (some 0) true]).nullCalls = 1 := by
  refine ⟨rfl, ⟨rfl, ?_⟩, rfl, rfl, ⟨rfl, ?_⟩, rfl⟩ <;> intro w hw <;>
    simp [run, step, init, newWrapper, newToken, kill, Host.findPeerByNative, Host.getPeers,
      Host.init, Host.prune] at hw ⊢

/-! ## Safety over every run -/

/-- What every run keeps: nothing exists beyond the allocation frontiers, no packet has two
    owners, a packet a live wrapper holds is neither the engine's nor destroyed, and no
    packet is destroyed twice. -/
structure Safe (s : Packets) : Prop where
  /-- No wrapper exists beyond the frontier. -/
  wrapper_beyond : ∀ w, s.nextWrapper ≤ w → s.alive w = false
  /-- No packet beyond the frontier is owned or destroyed. -/
  token_beyond : ∀ t, s.nextToken ≤ t →
    s.engine t = false ∧ s.destroyed t = 0 ∧ ∀ w, s.alive w = true → s.handle w ≠ some t
  /-- Two live wrappers never hold the same packet. -/
  unique : ∀ w v t, s.alive w = true → s.alive v = true → s.handle w = some t →
    s.handle v = some t → w = v
  /-- A packet a live wrapper holds is neither the engine's nor destroyed. -/
  held_free : ∀ w t, s.alive w = true → s.handle w = some t →
    s.engine t = false ∧ s.destroyed t = 0
  /-- A packet the engine owns is not destroyed. -/
  engine_free : ∀ t, s.engine t = true → s.destroyed t = 0
  /-- No packet is destroyed twice. -/
  destroyed_le : ∀ t, s.destroyed t ≤ 1

variable {s : Packets}

/-- No packets and no wrappers. -/
theorem Safe.init : Safe init :=
  ⟨fun _ _ => rfl, fun _ _ => ⟨rfl, rfl, nofun⟩, nofun, nofun, nofun,
    fun _ => Nat.zero_le _⟩

/-- A packet a live wrapper holds is below the frontier. -/
theorem Safe.lt_of_held (hs : Safe s) {w t : Nat} (hw : s.alive w = true)
    (ht : s.handle w = some t) : t < s.nextToken :=
  Nat.lt_of_not_le fun h => (hs.token_beyond t h).2.2 w hw ht

/-- A wrapper going away, without destroying anything, keeps the invariant. -/
theorem Safe.kill (hs : Safe s) (w : Nat) : Safe (s.kill w) := by
  have alive_of : ∀ v, (s.kill w).alive v = true → s.alive v = true := by
    intro v; simp only [kill_alive]; split <;> simp_all
  exact ⟨fun v hv => by simp [hs.wrapper_beyond v hv],
    fun t ht => ⟨(hs.token_beyond t ht).1, (hs.token_beyond t ht).2.1,
      fun v hv => (hs.token_beyond t ht).2.2 v (alive_of v hv)⟩,
    fun v u t hv hu => hs.unique v u t (alive_of v hv) (alive_of u hu),
    fun v t hv => hs.held_free v t (alive_of v hv), hs.engine_free, hs.destroyed_le⟩

/-- `~Packet()` on a live wrapper keeps the invariant: the packet it held had no other
    owner and had not been destroyed. -/
theorem Safe.dropWrapper (hs : Safe s) {w : Nat} (hw : s.alive w = true) :
    Safe (s.dropWrapper w) := by
  unfold Packets.dropWrapper Packets.destroyHeld
  split
  case h_2 => exact hs.kill w
  case h_1 t ht =>
  obtain ⟨he, hd⟩ := hs.held_free w t hw ht
  have htn := hs.lt_of_held hw ht
  refine ⟨fun v hv => by simp [hs.wrapper_beyond v hv], fun u hu => ?_, fun v v' u hv hv' => ?_,
    fun v u hv hu => ?_, fun u hu => ?_, fun u => ?_⟩ <;>
    simp only [kill_alive, kill_handle, kill_engine, kill_destroyed, kill_nextToken,
      destroy_alive, destroy_handle, destroy_engine, destroy_destroyed, destroy_nextToken] at *
  · have hut : u ≠ t := by omega
    refine ⟨(hs.token_beyond u hu).1, by simp [hut, (hs.token_beyond u hu).2.1], fun v hv => ?_⟩
    split at hv
    · cases hv
    · exact (hs.token_beyond u hu).2.2 v hv
  · split at hv <;> split at hv' <;> first | cases hv | cases hv' | exact hs.unique v v' u hv hv'
  · split at hv
    · cases hv
    · refine ⟨(hs.held_free v u hv hu).1, ?_⟩
      split
      · subst u; exact absurd (hs.unique v w t hv hw hu ht) ‹_›
      · exact (hs.held_free v u hv hu).2
  · split
    · subst u; rw [he] at hu; cases hu
    · exact hs.engine_free u hu
  · split
    · subst u; omega
    · exact hs.destroyed_le u

/-- A call handing the engine a null packet keeps the invariant. -/
theorem Safe.give_none (hs : Safe s) : Safe (s.give none) :=
  ⟨hs.wrapper_beyond, hs.token_beyond, hs.unique, hs.held_free, hs.engine_free, hs.destroyed_le⟩

/-- `pkt.release()` then an accepted send keeps the invariant: the engine becomes the
    packet's only owner. -/
theorem Safe.kill_give (hs : Safe s) {w t : Nat} (hw : s.alive w = true)
    (ht : s.handle w = some t) : Safe ((s.kill w).give (some t)) := by
  have hk := hs.kill w
  have htn := hs.lt_of_held hw ht
  have ⟨he, hd⟩ := hs.held_free w t hw ht
  refine ⟨hk.wrapper_beyond,
    fun u hu => ⟨?_, (hk.token_beyond u hu).2.1, (hk.token_beyond u hu).2.2⟩,
    hk.unique, fun v u hv hu => ?_, fun u hu => ?_, hk.destroyed_le⟩ <;>
    simp only [give, kill_alive, kill_handle, kill_engine, kill_destroyed, kill_nextToken] at *
  · have hut : u ≠ t := by omega
    simpa [hut] using (hs.token_beyond u hu).1
  · split at hv
    · cases hv
    · refine ⟨?_, (hs.held_free v u hv hu).2⟩
      split
      · subst u; exact absurd (hs.unique v w t hv hw hu ht) ‹_›
      · exact (hs.held_free v u hv hu).1
  · split at hu
    · subst u; exact hd
    · exact hs.engine_free u hu

/-- `Packet::create` keeps the invariant: a fresh wrapper holds a fresh packet. -/
theorem Safe.create (hs : Safe s) : Safe ((s.newWrapper (some s.nextToken)).newToken) := by
  have ⟨hwb, htb, hu, hf, hef, hle⟩ := hs
  refine ⟨fun v hv => ?_, fun u hu' => ?_, fun v v' u hv hv' h1 h2 => ?_, fun v u hv h1 => ?_,
    hef, hle⟩ <;> simp only [newToken_alive, newToken_handle, newToken_engine,
      newToken_destroyed, newToken_nextToken, newToken_nextWrapper, newWrapper_alive,
      newWrapper_handle, newWrapper_engine, newWrapper_destroyed, newWrapper_nextToken,
      newWrapper_nextWrapper] at *
  · have : v ≠ s.nextWrapper := by omega
    simpa [this] using hwb v (by omega)
  · refine ⟨(htb u (by omega)).1, (htb u (by omega)).2.1, fun v hv => ?_⟩
    split at hv
    · rename_i hvn; rw [if_pos hvn]; intro h; cases h; omega
    · rename_i hvn; rw [if_neg hvn]; exact (htb u (by omega)).2.2 v hv
  · split at h1 <;> split at h2
    · subst_vars; rfl
    · cases h1; exact absurd h2 ((htb _ le_rfl).2.2 v' (by simpa [*] using hv'))
    · cases h2; exact absurd h1 ((htb _ le_rfl).2.2 v (by simpa [*] using hv))
    · exact hu v v' u (by simpa [*] using hv) (by simpa [*] using hv') h1 h2
  · split at h1
    · cases h1; exact ⟨(htb _ le_rfl).1, (htb _ le_rfl).2.1⟩
    · exact hf v u (by simpa [*] using hv) h1

/-- `Packet(Packet&& other)` from a live wrapper keeps the invariant: the packet moves to
    the new wrapper. -/
theorem Safe.moveConstruct (hs : Safe s) {b : Nat} (hb : s.alive b = true) :
    Safe ((s.setHandle b none).newWrapper (s.handle b)) := by
  have ⟨hwb, htb, hu, hf, hef, hle⟩ := hs
  refine ⟨fun v hv => ?_, fun u hu' => ?_, fun v v' u hv hv' h1 h2 => ?_, fun v u hv h1 => ?_,
    hef, hle⟩ <;> simp only [newWrapper_alive, newWrapper_handle, newWrapper_engine,
      newWrapper_destroyed, newWrapper_nextToken, newWrapper_nextWrapper, setHandle_alive,
      setHandle_handle, setHandle_engine, setHandle_destroyed, setHandle_nextToken,
      setHandle_nextWrapper] at *
  · have : v ≠ s.nextWrapper := by omega
    simpa [this] using hwb v (by omega)
  · refine ⟨(htb u hu').1, (htb u hu').2.1, fun v hv => ?_⟩
    split at hv
    · rw [if_pos ‹_›]; exact (htb u hu').2.2 b hb
    · rw [if_neg ‹_›]; split
      · exact nofun
      · exact (htb u hu').2.2 v hv
  · by_cases hvn : v = s.nextWrapper <;> by_cases hvn' : v' = s.nextWrapper
    · exact hvn.trans hvn'.symm
    · rw [if_pos hvn] at h1; rw [if_neg hvn'] at h2 hv'
      split at h2
      · cases h2
      · exact absurd (hu b v' u hb hv' h1 h2) (Ne.symm ‹_›)
    · rw [if_pos hvn'] at h2; rw [if_neg hvn] at h1 hv
      split at h1
      · cases h1
      · exact absurd (hu v b u hv hb h1 h2) ‹_›
    · rw [if_neg hvn] at h1 hv; rw [if_neg hvn'] at h2 hv'
      split at h1 <;> split at h2
      all_goals first | cases h1 | cases h2 | exact hu v v' u hv hv' h1 h2
  · split at h1
    · exact hf b u hb h1
    · split at h1
      · cases h1
      · split at hv
        · contradiction
        · exact hf v u hv h1

/-- `operator=(Packet&& other)` between two live wrappers keeps the invariant: the packet
    `self` held is destroyed, and `other`'s packet moves to `self`. -/
theorem Safe.moveAssign (hs : Safe s) {a b : Nat} (ha : s.alive a = true)
    (hb : s.alive b = true) (hab : a ≠ b) :
    Safe (((s.destroyHeld a).setHandle a (s.handle b)).setHandle b none) := by
  have ⟨hwb, htb, hu, hf, hef, hle⟩ := hs
  rw [destroyHeld_eq]
  refine ⟨hwb, fun u hu' => ?_, fun v v' u hv hv' h1 h2 => ?_, fun v u hv h1 => ?_,
    fun u he => ?_, fun u => ?_⟩ <;> simp only [setHandle_alive, setHandle_handle,
      setHandle_engine, setHandle_destroyed, setHandle_nextToken] at *
  · refine ⟨(htb u hu').1, ?_, fun v hv => ?_⟩
    · rw [if_neg fun h => absurd (hs.lt_of_held ha h) (by omega)]; exact (htb u hu').2.1
    · split
      · exact nofun
      · split
        · exact (htb u hu').2.2 b hb
        · exact (htb u hu').2.2 v hv
  · split at h1 <;> split at h2 <;> (try split at h1) <;> (try split at h2) <;>
      first | cases h1 | cases h2 | skip
    all_goals subst_vars
    · rfl
    · exact absurd (hu b v' u hb hv' h1 h2) (Ne.symm ‹_›)
    · exact absurd (hu v b u hv hb h1 h2) ‹_›
    · exact hu v v' u hv hv' h1 h2
  · split at h1
    · cases h1
    · split at h1
      · refine ⟨(hf b u hb h1).1, ?_⟩
        rw [if_neg fun h => hab (hu a b u ha hb h h1)]; exact (hf b u hb h1).2
      · refine ⟨(hf v u hv h1).1, ?_⟩
        rw [if_neg fun h => ‹¬v = a› (hu v a u hv ha h1 h)]
        exact (hf v u hv h1).2
  · split
    · rename_i h; rw [(hf a u ha h).1] at he; cases he
    · exact hef u he
  · split
    · rename_i h; rw [(hf a u ha h).2]
    · exact hle u

/-- A new native packet nobody holds yet keeps the invariant. -/
theorem Safe.newToken (hs : Safe s) : Safe s.newToken :=
  ⟨hs.wrapper_beyond, fun u hu => hs.token_beyond u (by simp at hu; omega), hs.unique,
    hs.held_free, hs.engine_free, hs.destroyed_le⟩

/-- The engine destroying a packet it owns keeps the invariant. -/
theorem Safe.engineDone (hs : Safe s) {t : Nat} (ht : s.engine t = true) :
    Safe { s.destroy t with engine := fun u => if u = t then false else s.engine u } := by
  have ⟨hwb, htb, hu, hf, hef, hle⟩ := hs
  have htn : t < s.nextToken := Nat.lt_of_not_le fun h => by simp [(htb t h).1] at ht
  refine ⟨hwb, fun u hu' => ?_, hu, fun v u hv h1 => ?_, fun u he => ?_, fun u => ?_⟩ <;>
    simp only [destroy_destroyed, destroy_nextToken] at *
  · have hut : u ≠ t := by omega
    simpa [hut] using htb u hu'
  · have := hf v u hv h1
    by_cases hut : u = t
    · subst hut; rw [this.1] at ht; cases ht
    · simpa [hut] using this
  · split at he
    · cases he
    · simpa [‹¬u = t›] using hef u he
  · split
    · subst u; rw [hef t ht]
    · exact hle u

/-- Every operation keeps the invariant. -/
theorem step_safe (hs : Safe s) (op : PacketOp) : Safe (s.step op) := by
  cases op with
  | create => exact hs.create
  | moveConstruct b =>
    simp only [step]; split
    · exact hs.moveConstruct ‹_›
    · exact hs
  | moveAssign a b =>
    simp only [step]; split
    · obtain ⟨ha, hb, hab⟩ := ‹_ ∧ _ ∧ _›; exact hs.moveAssign ha hb hab
    · exact hs
  | drop w =>
    simp only [step]; split
    · exact hs.dropWrapper ‹_›
    · exact hs
  | send peerValid pkt accepted =>
    cases pkt with
    | none => exact hs
    | some w =>
      simp only [step]
      split
      · exact hs
      · rename_i hw; simp only [Bool.not_eq_true, Bool.not_eq_false] at hw
        split
        · exact hs.dropWrapper hw
        · split
          · split
            · exact hs.kill_give hw ‹_›
            · exact hs.kill w
          · exact (hs.kill w).give_none
  | broadcast hostValid pkt =>
    cases pkt with
    | none => exact hs
    | some w =>
      simp only [step]
      split
      · exact hs
      · rename_i hw; simp only [Bool.not_eq_true, Bool.not_eq_false] at hw
        split
        · exact hs.dropWrapper hw
        · cases ht : s.handle w
          · exact (hs.kill w).give_none
          · exact hs.kill_give hw ht
  | receive h p =>
    simp only [step]; split
    · exact hs.create.dropWrapper (by simp)
    · exact hs.newToken
  | engineDone t =>
    simp only [step]; split
    · exact hs.engineDone ‹_›
    · exact hs

/-- A sequence of operations keeps the invariant. -/
theorem Safe.run (hs : Safe s) (ops : List PacketOp) : Safe (s.run ops) := by
  induction ops generalizing s with
  | nil => exact hs
  | cons op ops ih => exact ih (step_safe hs op)

/-- Every run from no packets is safe: no packet is destroyed twice or has two owners, and
    none a live wrapper holds is the engine's or destroyed. -/
theorem reachable_safe (ops : List PacketOp) : Safe (init.run ops) := Safe.init.run ops

end Packets

end Icelander
