import Icelander.Host.Service

/-!
# Host: the Registry over a Run

`peers_` (`src/src/host.cpp`) over any sequence of what can happen to a host:
`connect`, `service` with whatever event the engine reports, the application
copying or dropping a `shared_ptr<Peer>` it holds, and the scans that prune
the registry (`getPeers`, and `findPeer`, which calls it).

Wrappers are numbered by allocation, and every wrapper is registered the
moment it is allocated (`connect`, and the Connect case of `processEvent`).
A scan erases only expired entries, and a handler can only keep the wrapper
of the event it is given, which is registered. So `peers_` stays strictly
increasing and holds every live wrapper (`Registered`).

Each operation is taken whole. Every access to `peers_` runs under
`peersMutex_`, but `make_shared` comes before the lock in `connect` and in the
Connect case of `processEvent`: a scan from another thread between the two
does not yet list the new wrapper.

* `Registered.run`: the invariant holds after every run from the constructor.
* `getPeers_lists_live_wrappers`: after every run, `getPeers()` returns every
  live wrapper the host ever allocated, once each, in allocation order;
  `peerCount()` counts them; and `findPeerByNative` returns the oldest live
  wrapper on the handle.
-/

namespace Icelander

/-- What can happen to a host between two reads of its registry. -/
inductive HostOp
  /-- `connect(remoteEndpoint, …)`, `slot` being what `enet_host_connect` returns; the
      caller keeps the returned `shared_ptr`. -/
  | connect (remoteEndpoint : Endpoint) (slot : Option PeerHandle)
  /-- `service(timeout)`, `result` and `event` being what `enet_host_service` reports. -/
  | service (result : Int) (event : ENetEvent)
  /-- The application copies a `shared_ptr` it holds to wrapper `w`. -/
  | retain (w : Nat)
  /-- The application destroys a `shared_ptr` it holds to wrapper `w`. -/
  | release (w : Nat)
  /-- A scan of the registry: `getPeers()`, or `findPeer`, which prunes the same way. -/
  | getPeers

namespace Host

section Run
variable (R : Resolver) (peerAddress : PeerHandle → Address)

/-- The host after one operation. The application holds a `shared_ptr` only to a live
    wrapper, so a copy or a drop of one is a step only while the wrapper is live. -/
def step (h : Host) : HostOp → Host
  | .connect remoteEndpoint slot =>
    match h.connect R remoteEndpoint slot with
    | .ok (_, h') => h'
    | .error _ => h
  | .service result event => (service R peerAddress h result event).1
  | .retain w => if h.live w then h.retain w else h
  | .release w => if h.live w then h.release w else h
  | .getPeers => h.getPeers.2

/-- The host after a sequence of operations. -/
def run (h : Host) : List HostOp → Host
  | [] => h
  | op :: ops => run (step R peerAddress h op) ops

end Run

/-! ## §1 The invariant and what each operation does to it -/

/-- `peers_` is strictly increasing, holds only wrappers already allocated, and holds every
    live wrapper. -/
structure Registered (h : Host) : Prop where
  sorted : h.peers.Sorted (· < ·)
  lt_next : ∀ w ∈ h.peers, w < h.next
  mem_of_live : ∀ w, h.live w = true → w ∈ h.peers

theorem Registered.init (d : EventDispatcher) : (init d).Registered :=
  ⟨List.sorted_nil, nofun, fun _ h => by simp [live, Host.init] at h⟩

section Ops
variable {h : Host}

/-- `make_shared` followed by `push_back`: the new wrapper goes last. -/
theorem Registered.alloc_register (hr : h.Registered) (p : PeerHandle) :
    ((h.alloc p).register h.next).Registered where
  sorted := List.pairwise_append.2
    ⟨hr.sorted, List.pairwise_singleton _ _, fun w hw v hv => by
      rw [List.mem_singleton.1 hv]; exact hr.lt_next w hw⟩
  lt_next w hw := by
    simp only [register_peers, alloc_next, List.mem_append, List.mem_singleton] at hw ⊢
    rcases hw with hw | rfl
    · exact Nat.lt_succ_of_lt (hr.lt_next w hw)
    · exact Nat.lt_succ_self _
  mem_of_live w hl := by
    simp only [live, register_strong, alloc_strong, register_peers, List.mem_append,
      List.mem_singleton] at hl ⊢
    split at hl
    · exact Or.inr ‹_›
    · exact Or.inl (hr.mem_of_live w hl)

/-- A copy of a registered wrapper. -/
theorem Registered.retain (hr : h.Registered) {w : Nat} (hw : w ∈ h.peers) :
    (h.retain w).Registered where
  sorted := hr.sorted
  lt_next := hr.lt_next
  mem_of_live v hl := by
    simp only [live, retain_strong] at hl
    split at hl
    · exact ‹v = w› ▸ hw
    · exact hr.mem_of_live v hl

/-- A drop can only expire a wrapper. -/
theorem Registered.release (hr : h.Registered) (w : Nat) : (h.release w).Registered where
  sorted := hr.sorted
  lt_next := hr.lt_next
  mem_of_live v hl := hr.mem_of_live v (by
    simp only [live, release_strong, decide_eq_true_eq] at hl ⊢
    split at hl <;> omega)

/-- A scan erases expired entries only. -/
theorem Registered.prune (hr : h.Registered) :
    ({ h with peers := h.peers.filter h.live } : Host).Registered where
  sorted := hr.sorted.filter _
  lt_next w hw := hr.lt_next w (List.mem_of_mem_filter hw)
  mem_of_live w hl := List.mem_filter.2 ⟨hr.mem_of_live w hl, hl⟩

/-- Handlers that keep a registered wrapper. -/
theorem Registered.foldl_retain (L : List Handler) {w : Nat} :
    ∀ {h : Host}, h.Registered → w ∈ h.peers →
      (L.foldl (fun h' hd => if hd.keepsPeer then h'.retain w else h') h).Registered := by
  induction L with
  | nil => exact fun hr _ => hr
  | cons hd L ih =>
    intro h hr hw
    simp only [List.foldl_cons]
    split
    · exact ih (hr.retain hw) hw
    · exact ih hr hw

/-- Delivering an event about a registered wrapper. -/
theorem Registered.deliver (hr : h.Registered) {e : Event} (he : e.peer ∈ h.peers) :
    (h.deliver e).Registered :=
  Registered.foldl_retain _ hr he

end Ops

section Steps
variable {R : Resolver} {peerAddress : PeerHandle → Address} {h : Host}

/-- `processEvent` keeps the registry holding every live wrapper, whatever the event. -/
theorem Registered.processEvent (hr : h.Registered) (event : ENetEvent) :
    (processEvent R peerAddress h event).1.Registered := by
  obtain ⟨type, p, ch, data, pkt⟩ := event
  cases type with
  | connect =>
    -- the new wrapper is registered before the event is delivered with it
    have h1 := hr.alloc_register p
    simp only [Host.processEvent]
    split
    · exact h1.release _
    · refine (h1.deliver ?_).release _
      exact List.mem_append_right _ (List.mem_singleton_self _)
  | disconnect =>
    cases hf : (h.peers.filter h.live).find? (fun w => h.native w == p) with
    | none =>
      simp only [Host.processEvent, findPeerByNative_eq, hf]
      exact hr.prune
    | some w =>
      simp only [Host.processEvent, findPeerByNative_eq, hf]
      split
      · exact hr.prune
      · exact hr.prune.deliver (List.mem_of_find?_eq_some hf)
  | receive =>
    cases hf : (h.peers.filter h.live).find? (fun w => h.native w == p) <;> cases pkt <;>
      simp only [Host.processEvent, findPeerByNative_eq, hf]
    all_goals first
      | exact hr.prune
      | exact hr.prune.deliver (List.mem_of_find?_eq_some hf)
  | none => exact hr

/-- Every operation keeps the registry holding every live wrapper. -/
theorem Registered.step (hr : h.Registered) (op : HostOp) :
    (Host.step R peerAddress h op).Registered := by
  cases op with
  | connect remoteEndpoint slot =>
    simp only [Host.step, Host.connect]
    split <;> rename_i hc
    · split at hc
      · cases hc
      · split at hc <;> cases hc
        exact hr.alloc_register _
    · exact hr
  | service result event =>
    simp only [Host.step, Host.service]
    split
    · exact hr.processEvent event
    · exact hr
  | retain w =>
    simp only [Host.step]
    split
    · exact hr.retain (hr.mem_of_live w ‹_›)
    · exact hr
  | release w =>
    simp only [Host.step]
    split
    · exact hr.release w
    · exact hr
  | getPeers =>
    simp only [Host.step, getPeers, prune_eq]
    exact hr.prune

/-- Every run keeps the registry holding every live wrapper. -/
theorem Registered.run (hr : h.Registered) (ops : List HostOp) :
    (Host.run R peerAddress h ops).Registered := by
  induction ops generalizing h with
  | nil => exact hr
  | cons op ops ih => exact ih (hr.step op)

end Steps

/-! ## §2 What the scans return -/

section Scans
variable {h : Host}

/-- On a registered host the live entries of `peers_` are the live wrappers in allocation
    order: both lists are sorted and have the same members. -/
theorem Registered.filter_live_eq (hr : h.Registered) :
    h.peers.filter h.live = (List.range h.next).filter h.live := by
  have hs := hr.sorted.filter h.live
  have hs' := (List.sorted_lt_range h.next).filter h.live
  refine List.eq_of_perm_of_sorted ?_ hs hs'
  rw [List.perm_ext_iff_of_nodup hs.nodup hs'.nodup]
  intro w
  simp only [List.mem_filter, List.mem_range]
  exact ⟨fun ⟨hm, hl⟩ => ⟨hr.lt_next w hm, hl⟩, fun ⟨_, hl⟩ => ⟨hr.mem_of_live w hl, hl⟩⟩

end Scans

section Runs
variable (R : Resolver) (peerAddress : PeerHandle → Address)

/-- The registry answers for every wrapper ever allocated. After every run from the
    constructor, with any handlers, events and resolver: `getPeers()` returns every live
    wrapper the host has allocated, once each, in allocation order; `peerCount()` is their
    number; and `findPeerByNative` returns the oldest live wrapper on the handle. -/
theorem getPeers_lists_live_wrappers (d : EventDispatcher) (ops : List HostOp) (p : PeerHandle) :
    ((init d).run R peerAddress ops).getPeers.1 =
        (List.range ((init d).run R peerAddress ops).next).filter
          ((init d).run R peerAddress ops).live ∧
      ((init d).run R peerAddress ops).peerCount =
        (List.range ((init d).run R peerAddress ops).next).countP
          ((init d).run R peerAddress ops).live ∧
      (((init d).run R peerAddress ops).findPeerByNative p).1 =
        ((List.range ((init d).run R peerAddress ops).next).filter
          ((init d).run R peerAddress ops).live).find?
            (fun w => ((init d).run R peerAddress ops).native w == p) := by
  have hf := (@Registered.run R peerAddress _ (Registered.init d) ops).filter_live_eq
  refine ⟨?_, ?_, ?_⟩
  · rw [getPeers, prune_eq, hf]
  · rw [peerCount, List.countP_eq_length_filter, hf, List.countP_eq_length_filter]
  · rw [findPeerByNative_eq, hf]

/-- Two connects, the first wrapper dropped by the application, then a scan. -/
example : ((init .empty).run loopback loopbackAddress
    [.connect ⟨"localhost", 1234⟩ (some 7), .connect ⟨"localhost", 1235⟩ (some 8), .release 0,
      .getPeers]).getPeers.1 = [1] := by decide

end Runs

end Host

end Icelander
