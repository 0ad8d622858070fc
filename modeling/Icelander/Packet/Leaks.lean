import Icelander.Packet.Ownership

/-!
# Packet Ownership: Where Packets Leak

`send_and_receive_leak` shows two ways a native packet is left with no owner
and never destroyed: `Peer::send` to a valid peer whose `enet_peer_send`
rejects the packet, after `pkt.release()`; and a Receive event for a peer with
no live wrapper, whose packet is never wrapped. This module shows they are the
only two.

* `Placed`: a packet is destroyed, the engine's, or held by a live wrapper.
* `Accounted.step`: every operation but those two keeps every packet placed.
* `packets_placed_without_leaky_ops`: over every run without them, every
  packet is destroyed exactly once, or has exactly one owner, the engine or a
  live wrapper.
-/

namespace Icelander

/-- The operations that can leave a packet with no owner: a send to a valid peer that the
    engine rejects, and a Receive event whose peer has no live wrapper. -/
def PacketOp.Leaky : PacketOp → Bool
  | .send true (some _) false => true
  | .receive h p => (h.findPeerByNative p).1.isNone
  | _ => false

namespace Packets

/-- Packet `t` is destroyed, the engine's, or held by a live wrapper. -/
def Placed (s : Packets) (t : PacketHandle) : Prop :=
  0 < s.destroyed t ∨ s.engine t = true ∨ ∃ w, s.alive w = true ∧ s.handle w = some t

/-- Every packet created so far is placed. -/
def Accounted (s : Packets) : Prop := ∀ t < s.nextToken, s.Placed t

variable {s s' : Packets} {t : PacketHandle}

/-! ## §1 Moving a packet's place -/

/-- A packet stays placed when its destroy count does not drop, and each of its owners either
    keeps it or places it anew. -/
theorem Placed.move (h : s.Placed t) (hd : s.destroyed t ≤ s'.destroyed t)
    (he : s.engine t = true → s'.Placed t)
    (hw : ∀ w, s.alive w = true → s.handle w = some t → s'.Placed t) : s'.Placed t := by
  rcases h with h | h | ⟨w, h1, h2⟩
  · exact Or.inl (by omega)
  · exact he h
  · exact hw w h1 h2

/-- A packet a live wrapper holds is placed. -/
theorem placed_of_held {w : Nat} (hw : s.alive w = true) (ht : s.handle w = some t) :
    s.Placed t :=
  Or.inr (Or.inr ⟨w, hw, ht⟩)

/-- A packet the engine owns is placed. -/
theorem placed_of_engine (ht : s.engine t = true) : s.Placed t := Or.inr (Or.inl ht)

/-- A destroyed packet is placed. -/
theorem placed_of_destroyed (ht : 0 < s.destroyed t) : s.Placed t := Or.inl ht

/-- `~Packet()` on a live wrapper keeps every packet placed: the one it held is destroyed. -/
theorem Placed.dropWrapper (h : s.Placed t) (w : Nat) : (s.dropWrapper w).Placed t := by
  refine h.move ?_ (fun he => placed_of_engine ?_) fun v hv hvt => ?_
  · simp only [Packets.dropWrapper, destroyHeld_eq, kill_destroyed]
    split <;> omega
  · simpa [Packets.dropWrapper, destroyHeld_eq] using he
  · by_cases hvw : v = w
    · subst hvw
      exact placed_of_destroyed (by simp [Packets.dropWrapper, destroyHeld_eq, hvt])
    · exact placed_of_held (w := v) (by simp [Packets.dropWrapper, destroyHeld_eq, hvw, hv])
        (by simpa [Packets.dropWrapper, destroyHeld_eq] using hvt)

/-- Handing wrapper `w`'s packet to the engine, after `pkt.release()`, keeps every packet
    placed. -/
theorem Placed.kill_give (h : s.Placed t) {w : Nat} {o : Option PacketHandle}
    (ho : s.handle w = o) : ((s.kill w).give o).Placed t := by
  subst ho
  refine h.move ?_ (fun he => ?_) fun v hv hvt => ?_
  · cases s.handle w <;> simp [give]
  · cases hh : s.handle w <;> exact placed_of_engine (by simp [give, he])
  · by_cases hvw : v = w
    · subst hvw
      rw [hvt]
      exact placed_of_engine (by simp [give])
    · cases hh : s.handle w <;>
        exact placed_of_held (w := v) (by simp [give, hvw, hv]) (by simpa [give] using hvt)

/-- A live wrapper is below the frontier, so a new wrapper is not it. -/
theorem Safe.ne_nextWrapper (hs : Safe s) {w : Nat} (hw : s.alive w = true) :
    w ≠ s.nextWrapper :=
  fun h => by rw [hs.wrapper_beyond w (h ▸ le_rfl)] at hw; cases hw

/-- `Packet::create` keeps every packet placed. -/
theorem Placed.create (hs : Safe s) (h : s.Placed t) :
    ((s.newWrapper (some s.nextToken)).newToken).Placed t := by
  refine h.move le_rfl (fun he => placed_of_engine he)
    fun v hv hvt => placed_of_held (w := v) ?_ ?_ <;> simp [hs.ne_nextWrapper hv, hv, hvt]

/-- `Packet::create` places its new packet: the new wrapper holds it. -/
theorem placed_create : ((s.newWrapper (some s.nextToken)).newToken).Placed s.nextToken :=
  placed_of_held (w := s.nextWrapper) (by simp) (by simp)

/-- `Packet(Packet&& other)` keeps every packet placed: `other`'s moves to the new wrapper. -/
theorem Placed.moveConstruct (hs : Safe s) (h : s.Placed t) (b : Nat) :
    ((s.setHandle b none).newWrapper (s.handle b)).Placed t := by
  refine h.move le_rfl (fun he => placed_of_engine he) fun v hv hvt => ?_
  by_cases hvb : v = b
  · subst hvb
    exact placed_of_held (w := s.nextWrapper) (by simp) (by simpa using hvt)
  · exact placed_of_held (w := v) (by simp [hs.ne_nextWrapper hv, hv])
      (by simp [hs.ne_nextWrapper hv, hvb, hvt])

/-- `operator=(Packet&& other)` between two wrappers keeps every packet placed: the one
    `self` held is destroyed, and `other`'s moves to `self`. -/
theorem Placed.moveAssign (h : s.Placed t) {a b : Nat} (ha : s.alive a = true) (hab : a ≠ b) :
    (((s.destroyHeld a).setHandle a (s.handle b)).setHandle b none).Placed t := by
  rw [destroyHeld_eq]
  refine h.move (by simp only [setHandle_destroyed]; split <;> omega)
    (fun he => placed_of_engine he) fun v hv hvt => ?_
  by_cases hva : v = a
  · subst hva
    exact placed_of_destroyed (by simp [hvt])
  · by_cases hvb : v = b
    · subst hvb
      exact placed_of_held (w := a) (by simpa using ha) (by simp [hab, hvt])
    · exact placed_of_held (w := v) (by simpa using hv) (by simp [hva, hvb, hvt])

/-- The engine destroying a packet it owns keeps every packet placed. -/
theorem Placed.engineDone (h : s.Placed t) (u : PacketHandle) :
    ({ s.destroy u with engine := fun x => if x = u then false else s.engine x } : Packets).Placed
      t := by
  refine h.move (by simp only [destroy_destroyed]; split <;> omega) (fun he => ?_)
    fun v hv hvt => placed_of_held (w := v) hv hvt
  by_cases htu : t = u
  · subst htu; exact placed_of_destroyed (by simp)
  · exact placed_of_engine (by simp [htu, he])

/-! ## §2 Every operation but the leaky ones keeps every packet placed -/

@[simp] theorem give_nextToken (o : Option PacketHandle) : (s.give o).nextToken = s.nextToken := by
  cases o <;> rfl

@[simp] theorem dropWrapper_nextToken (w : Nat) : (s.dropWrapper w).nextToken = s.nextToken := by
  simp [Packets.dropWrapper, destroyHeld_eq]

/-- An operation that creates no packet and keeps every packet placed keeps them accounted. -/
theorem Accounted.of_placed (ha : s.Accounted) (hn : s'.nextToken = s.nextToken)
    (hp : ∀ t, s.Placed t → s'.Placed t) : s'.Accounted :=
  fun t ht => hp t (ha t (hn ▸ ht))

/-- `Packet::create` keeps every packet accounted, its new one included. -/
theorem Accounted.create (hs : Safe s) (ha : s.Accounted) :
    ((s.newWrapper (some s.nextToken)).newToken).Accounted := by
  intro t ht
  simp only [newToken_nextToken, newWrapper_nextToken] at ht
  rcases Nat.lt_succ_iff_lt_or_eq.1 ht with ht | rfl
  · exact (ha t ht).create hs
  · exact placed_create

/-- Every operation but a rejected send and an unmatched receive keeps every packet placed. -/
theorem Accounted.step (hs : Safe s) (ha : s.Accounted) {op : PacketOp} (hl : op.Leaky = false) :
    (s.step op).Accounted := by
  cases op with
  | create => exact ha.create hs
  | moveConstruct b =>
    simp only [Packets.step]; split
    · exact ha.of_placed (by simp) fun t h => h.moveConstruct hs b
    · exact ha
  | moveAssign a b =>
    simp only [Packets.step]; split
    · obtain ⟨ha', -, hab⟩ := ‹_ ∧ _ ∧ _›
      exact ha.of_placed (by simp [destroyHeld_eq]) fun t h => h.moveAssign ha' hab
    · exact ha
  | drop w =>
    simp only [Packets.step]; split
    · exact ha.of_placed (by simp) fun t h => h.dropWrapper w
    · exact ha
  | send peerValid pkt accepted =>
    cases pkt with
    | none => exact ha
    | some w =>
      simp only [Packets.step]
      split
      · exact ha
      split
      · exact ha.of_placed (by simp) fun t h => h.dropWrapper w
      split
      · split
        · exact ha.of_placed (by simp) fun t h => h.kill_give ‹_›
        · -- a rejected send to a valid peer
          cases peerValid <;> cases accepted <;> simp_all [PacketOp.Leaky]
      · exact ha.of_placed (by simp) fun t h => h.kill_give ‹_›
  | broadcast hostValid pkt =>
    cases pkt with
    | none => exact ha
    | some w =>
      simp only [Packets.step]
      split
      · exact ha
      split
      · exact ha.of_placed (by simp) fun t h => h.dropWrapper w
      · exact ha.of_placed (by simp) fun t h => h.kill_give rfl
  | receive h p =>
    simp only [Packets.step]
    split
    · -- the wrapper `fromNative` made for the event is destroyed after dispatch
      exact (ha.create hs).of_placed (by simp) fun t h => h.dropWrapper _
    · -- a Receive event whose peer has no live wrapper
      simp_all [PacketOp.Leaky]
  | engineDone u =>
    simp only [Packets.step]; split
    · exact ha.of_placed rfl fun t h => h.engineDone u
    · exact ha

/-- A run without leaky operations keeps every packet placed. -/
theorem Accounted.run (hs : Safe s) (ha : s.Accounted) {ops : List PacketOp}
    (hl : ∀ op ∈ ops, op.Leaky = false) : (s.run ops).Accounted := by
  induction ops generalizing s with
  | nil => exact ha
  | cons op ops ih =>
    exact ih (step_safe hs op) (ha.step hs (hl op (.head _))) fun o ho => hl o (.tail _ ho)

/-! ## §3 No leak without a leaky operation -/

/-- In a safe state, a placed packet is destroyed once with no owner, or not destroyed and
    owned. -/
theorem Safe.placed (hs : Safe s) (h : s.Placed t) :
    (s.destroyed t = 1 ∧ s.Unowned t) ∨ (s.destroyed t = 0 ∧ ¬ s.Unowned t) := by
  rcases h with hd | he | ⟨w, hw, hwt⟩
  · refine Or.inl ⟨by have := hs.destroyed_le t; omega, ?_, fun w hw hwt => ?_⟩
    · cases he : s.engine t
      · rfl
      · rw [hs.engine_free t he] at hd; cases hd
    · rw [(hs.held_free w t hw hwt).2] at hd; cases hd
  · exact Or.inr ⟨hs.engine_free t he, fun hu => by rw [hu.1] at he; cases he⟩
  · exact Or.inr ⟨(hs.held_free w t hw hwt).2, fun hu => hu.2 w hw hwt⟩

/-- Packets leak only through a rejected send or an unmatched receive. Over every run from no
    packets without either, every packet created so far is destroyed exactly once and has no
    owner, or is not destroyed and is owned, by the engine or a live wrapper. -/
theorem packets_placed_without_leaky_ops (ops : List PacketOp)
    (hl : ∀ op ∈ ops, op.Leaky = false) (t : PacketHandle) (ht : t < (init.run ops).nextToken) :
    ((init.run ops).destroyed t = 1 ∧ (init.run ops).Unowned t) ∨
      ((init.run ops).destroyed t = 0 ∧ ¬ (init.run ops).Unowned t) :=
  (Safe.init.run ops).placed (Accounted.run Safe.init (fun _ h => absurd h (Nat.not_lt_zero _)) hl
    t ht)

/-- A packet created and sent to a peer that accepts it. -/
theorem packets_placed_after_accepted_send :
    (∀ op ∈ [PacketOp.create, .send true (some 0) true], op.Leaky = false) ∧
    0 < (init.run [.create, .send true (some 0) true]).nextToken ∧
    (((init.run [.create, .send true (some 0) true]).destroyed 0 = 1 ∧
        (init.run [.create, .send true (some 0) true]).Unowned 0) ∨
      ((init.run [.create, .send true (some 0) true]).destroyed 0 = 0 ∧
        ¬ (init.run [.create, .send true (some 0) true]).Unowned 0)) :=
  have hl : ∀ op ∈ [PacketOp.create, .send true (some 0) true], op.Leaky = false := by decide
  have ht : 0 < (init.run [.create, .send true (some 0) true]).nextToken := by decide
  ⟨hl, ht, packets_placed_without_leaky_ops _ hl 0 ht⟩

end Packets

end Icelander
