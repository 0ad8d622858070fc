import Icelander.Events.Dispatcher

/-!
# Host: the Weak Peer Registry

The part of `Host` (`src/src/host.cpp`) that tracks `Peer` wrappers. Every
wrapper is created by `std::make_shared<Peer>` and is named here by its
allocation number. The heap records each wrapper's `nativePeer_` and how many
`shared_ptr`s own it; `peers_` holds `weak_ptr`s, so an entry is live exactly
while that count is positive.

* `alloc`, `retain`, `release`: `make_shared`, a `shared_ptr` copy, a
  `shared_ptr` destroyed.
* `getPeers`: the erase-while-iterating loop, as `prune`; it returns the live
  entries and leaves only them in the registry. `getPeersLoop` is the loop
  over an index into `peers_`, and `getPeersLoop_start` shows it computes
  `prune`.
* `findPeerByNative`: a scan of `getPeers()` for the first wrapper on a handle.
* `findPeer`: a scan of `getPeers()` comparing each wrapper's reverse-looked-up
  host name with the endpoint's host string. What it returns is at the
  endpoint's address (`findPeer_sound`); it finds the spelling the reverse
  lookup gives (`findPeer_of_canonical`) and misses the others
  (`findPeer_misses_numeric_host`).
* `connect`: a new wrapper, registered and returned to the caller.
-/

namespace Icelander

/-- One `Host`'s wrapper-side state. -/
structure Host where
  /-- The next allocation number: wrappers are `0, …, next - 1`. -/
  next : Nat
  /-- Each wrapper's `nativePeer_`. -/
  native : Nat → PeerHandle
  /-- Each wrapper's `shared_ptr` strong count. -/
  strong : Nat → Nat
  /-- `peers_`: the weak entries, in insertion order. -/
  peers : List Nat
  /-- `*dispatcher_`. -/
  dispatcher : EventDispatcher

namespace Host

/-- A host with no wrappers yet and the given handlers. -/
def init (d : EventDispatcher) : Host := ⟨0, fun _ => 0, fun _ => 0, [], d⟩

/-- `weak_ptr::lock()` succeeds: some `shared_ptr` still owns the wrapper. -/
def live (h : Host) (w : Nat) : Bool := decide (0 < h.strong w)

/-- `std::make_shared<Peer>(nativePeer, …)`: a fresh wrapper owned by one `shared_ptr`. -/
@[simps]
def alloc (h : Host) (nativePeer : PeerHandle) : Host :=
  { h with
    next := h.next + 1
    native := fun w => if w = h.next then nativePeer else h.native w
    strong := fun w => if w = h.next then 1 else h.strong w }

/-- A `shared_ptr` copy of `w` that outlives the current call. -/
@[simps]
def retain (h : Host) (w : Nat) : Host :=
  { h with strong := fun v => if v = w then h.strong v + 1 else h.strong v }

/-- A `shared_ptr` to `w` destroyed. -/
@[simps]
def release (h : Host) (w : Nat) : Host :=
  { h with strong := fun v => if v = w then h.strong v - 1 else h.strong v }

/-- `peers_.push_back(peerWrapper)`. -/
@[simps]
def register (h : Host) (w : Nat) : Host := { h with peers := h.peers ++ [w] }

/-- The loop of `getPeers`: `lock()` a live entry into the result and step past it;
    `erase` an expired one, which returns the iterator to the next entry. The pair is
    the returned vector and what is left of `peers_`. -/
def prune (live : Nat → Bool) : List Nat → List Nat × List Nat
  | [] => ([], [])
  | w :: rest =>
    if live w then ((prune live rest).1.cons w, (prune live rest).2.cons w)
    else prune live rest

/-- The loop of `getPeers` as it runs: `it` is an index into the current `peers_`. A live
    entry goes into `activePeers` and `++it`; an expired one is erased, and the iterator
    `erase` returns is the entry that followed it, now at index `it`. -/
def getPeersLoop (live : Nat → Bool) (activePeers peers : List Nat) (it : Nat) :
    List Nat × List Nat :=
  if h : it < peers.length then
    if live peers[it] then getPeersLoop live (activePeers ++ [peers[it]]) peers (it + 1)
    else getPeersLoop live activePeers (peers.eraseIdx it) it
  else (activePeers, peers)
termination_by peers.length - it
decreasing_by
  · omega
  · rw [List.length_eraseIdx, if_pos h]; omega

/-- `getPeers()`. -/
def getPeers (h : Host) : List Nat × Host :=
  ((prune h.live h.peers).1, { h with peers := (prune h.live h.peers).2 })

/-- `peerCount()`: the entries not yet expired. -/
def peerCount (h : Host) : Nat := h.peers.countP h.live

/-- `findPeerByNative(nativePeer)`: the first wrapper of `getPeers()` on that handle. -/
def findPeerByNative (h : Host) (nativePeer : PeerHandle) : Option Nat × Host :=
  (h.getPeers.1.find? (fun w => h.native w == nativePeer), h.getPeers.2)

/-- The live registered wrappers on a native handle, in registry order. -/
def liveOn (h : Host) (nativePeer : PeerHandle) : List Nat :=
  h.peers.filter fun w => h.live w && h.native w == nativePeer

/-- `connect(remoteEndpoint, …)`: `slot` is what `enet_host_connect` returns. The new
    wrapper, whose one `shared_ptr` goes to the caller, is registered. -/
def connect (h : Host) (R : Resolver) (remoteEndpoint : Endpoint) (slot : Option PeerHandle) :
    Except String (Nat × Host) :=
  match remoteEndpoint.toEnetAddress R with
  | .error msg => .error msg
  | .ok _ =>
    match slot with
    | none => .error "Failed to initiate connection"
    | some nativePeer => .ok (h.next, (h.alloc nativePeer).register h.next)

/-! ## The registry scans -/

/-- The loop of `getPeers` keeps exactly the live entries, in order, in both outputs. -/
theorem prune_eq (live : Nat → Bool) (ws : List Nat) :
    prune live ws = (ws.filter live, ws.filter live) := by
  induction ws with
  | nil => rfl
  | cons w ws ih => by_cases hw : live w <;> simp [prune, ih, hw, List.filter_cons]

/-- From index `|pre|`, past entries already kept, the loop keeps the live entries of the
    rest in order and erases the expired ones. -/
theorem getPeersLoop_eq (live : Nat → Bool) (activePeers pre rest : List Nat) :
    getPeersLoop live activePeers (pre ++ rest) pre.length =
      (activePeers ++ rest.filter live, pre ++ rest.filter live) := by
  induction rest generalizing activePeers pre with
  | nil => rw [getPeersLoop, dif_neg (by simp)]; simp
  | cons w rest ih =>
    have hlt : pre.length < (pre ++ w :: rest).length := by simp
    have hw : (pre ++ w :: rest)[pre.length] = w := by
      rw [List.getElem_append_right (Nat.le_refl _)]; simp
    rw [getPeersLoop, dif_pos hlt, hw]
    by_cases hl : live w
    · rw [if_pos hl, List.filter_cons_of_pos hl]
      have := ih (activePeers ++ [w]) (pre ++ [w])
      simp only [List.append_assoc, List.singleton_append, List.length_append,
        List.length_singleton] at this
      simpa using this
    · rw [if_neg hl, List.filter_cons_of_neg hl, List.eraseIdx_append_of_length_le (Nat.le_refl _),
        Nat.sub_self, List.eraseIdx_cons_zero]
      exact ih activePeers pre

/-- The loop of `getPeers` computes `prune`: from the first entry with nothing kept, both
    keep exactly the live entries. -/
theorem getPeersLoop_start (live : Nat → Bool) (ws : List Nat) :
    getPeersLoop live [] ws 0 = prune live ws := by
  simpa [prune_eq] using getPeersLoop_eq live [] [] ws

/-- `findPeerByNative` finds the first live registered wrapper on the handle, and prunes. -/
theorem findPeerByNative_eq (h : Host) (p : PeerHandle) :
    h.findPeerByNative p = ((h.peers.filter h.live).find? (fun w => h.native w == p),
      { h with peers := h.peers.filter h.live }) := by
  simp [findPeerByNative, getPeers, prune_eq]

/-- `getPeers()` returns the live entries in registry order and leaves exactly them in
    `peers_`, removing every expired entry and no live one; `peerCount()` before and after
    the call is the length of what it returned. -/
theorem getPeers_keeps_live (h : Host) :
    getPeersLoop h.live [] h.peers 0 = (h.getPeers.1, h.getPeers.2.peers) ∧
    h.getPeers.1 = h.peers.filter h.live ∧
    h.getPeers.2 = { h with peers := h.peers.filter h.live } ∧
    h.peerCount = h.getPeers.1.length ∧ h.getPeers.2.peerCount = h.getPeers.1.length := by
  have hp := prune_eq h.live h.peers
  refine ⟨by rw [getPeersLoop_start, getPeers, hp], by rw [getPeers, hp], by rw [getPeers, hp],
    ?_, ?_⟩
  · rw [peerCount, getPeers, hp, List.countP_eq_length_filter]
  · rw [peerCount, show h.getPeers.2.live = h.live from rfl, List.countP_eq_length_filter]
    simp [getPeers, hp, List.filter_filter]

/-! ## `findPeer` -/

/-- The loop of `findPeer`: the first wrapper whose `endpoint()` has the endpoint's `host`
    string and `port`. On a live host `endpoint()` is `fromEnetAddress` of the slot's
    address, a reverse lookup that throws when it fails; the loop calls it for the host and,
    when that matches, again for the port, with the same result. -/
def findPeerIn (R : Resolver) (peerAddress : PeerHandle → Address) (native : Nat → PeerHandle)
    (remoteEndpoint : Endpoint) : List Nat → Except String (Option Nat)
  | [] => .ok none
  | w :: ws =>
    match Endpoint.fromEnetAddress R (peerAddress (native w)) with
    | .error msg => .error msg
    | .ok e =>
      if e.host = remoteEndpoint.host ∧ e.port = remoteEndpoint.port then .ok (some w)
      else findPeerIn R peerAddress native remoteEndpoint ws

/-- `findPeer(remoteEndpoint)`: the scan of `getPeers()`, and the pruned host. -/
def findPeer (h : Host) (R : Resolver) (peerAddress : PeerHandle → Address)
    (remoteEndpoint : Endpoint) : Except String (Option Nat) × Host :=
  (findPeerIn R peerAddress h.native remoteEndpoint h.getPeers.1, h.getPeers.2)

section FindPeer
variable {R : Resolver} {peerAddress : PeerHandle → Address} {native : Nat → PeerHandle}
  {remoteEndpoint : Endpoint}

/-- The scan returns a wrapper of the list whose slot reverse-resolves to the endpoint's
    `host` string, at its port. -/
theorem findPeerIn_some {ws : List Nat} {w : Nat}
    (hw : findPeerIn R peerAddress native remoteEndpoint ws = .ok (some w)) :
    w ∈ ws ∧ R.getHost (peerAddress (native w)) = some remoteEndpoint.host ∧
      (peerAddress (native w)).port = remoteEndpoint.port := by
  induction ws with
  | nil => cases hw
  | cons v ws ih =>
    cases hg : R.getHost (peerAddress (native v)) with
    | none => simp [findPeerIn, Endpoint.fromEnetAddress, hg] at hw
    | some name =>
      simp only [findPeerIn, Endpoint.fromEnetAddress, hg] at hw
      split at hw <;> rename_i hm
      · cases hw
        exact ⟨.head _, hg.trans (congrArg some hm.1), hm.2⟩
      · obtain ⟨hmem, hrest⟩ := ih hw
        exact ⟨.tail _ hmem, hrest⟩

/-- When resolution undoes reverse lookup, a wrapper `findPeer` returns is live, registered,
    and at the endpoint's address. -/
theorem findPeer_sound (hR : ∀ a name, R.getHost a = some name → R.setHost name = some a.host)
    (h : Host) {w : Nat} (hw : (h.findPeer R peerAddress remoteEndpoint).1 = .ok (some w)) :
    w ∈ h.peers ∧ h.live w = true ∧
      remoteEndpoint.toEnetAddress R = .ok (peerAddress (h.native w)) := by
  obtain ⟨hmem, hname, hport⟩ := findPeerIn_some hw
  rw [getPeers, prune_eq, List.mem_filter] at hmem
  refine ⟨hmem.1, hmem.2, ?_⟩
  rw [Endpoint.toEnetAddress, hR _ _ hname, ← hport]

/-- When every wrapper's slot reverse-resolves and one of them resolves to the endpoint's
    `host` string at its port, the scan returns a wrapper. -/
theorem findPeerIn_of_mem {ws : List Nat}
    (hall : ∀ v ∈ ws, (R.getHost (peerAddress (native v))).isSome) {w : Nat} (hw : w ∈ ws)
    (hname : R.getHost (peerAddress (native w)) = some remoteEndpoint.host)
    (hport : (peerAddress (native w)).port = remoteEndpoint.port) :
    ∃ w', findPeerIn R peerAddress native remoteEndpoint ws = .ok (some w') := by
  induction ws with
  | nil => cases hw
  | cons v ws ih =>
    obtain ⟨name, hg⟩ := Option.isSome_iff_exists.1 (hall v (.head _))
    simp only [findPeerIn, Endpoint.fromEnetAddress, hg]
    split
    · exact ⟨v, rfl⟩
    · rename_i hm
      rcases List.mem_cons.1 hw with rfl | hmem
      · exact absurd ⟨Option.some.inj (hg.symm.trans hname), hport⟩ hm
      · exact ih (fun u hu => hall u (.tail _ hu)) hmem

/-- What `findPeer` guarantees: it finds a live registered wrapper whose slot's address
    reverse-resolves to exactly the endpoint's `host` string, provided every reverse lookup
    succeeds. Another spelling of the same address is not such a string. -/
theorem findPeer_of_canonical (h : Host)
    (hall : ∀ w ∈ h.peers, h.live w = true → (R.getHost (peerAddress (h.native w))).isSome)
    {w : Nat} (hmem : w ∈ h.peers) (hlive : h.live w = true)
    (hname : R.getHost (peerAddress (h.native w)) = some remoteEndpoint.host)
    (hport : (peerAddress (h.native w)).port = remoteEndpoint.port) :
    ∃ w', (h.findPeer R peerAddress remoteEndpoint).1 = .ok (some w') := by
  refine findPeerIn_of_mem (fun v hv => ?_) ?_ hname hport
  all_goals rw [getPeers, prune_eq, List.mem_filter] at *
  · exact hall v hv.1 hv.2
  · exact ⟨hmem, hlive⟩

end FindPeer

/-- A name service where only 127.0.0.1 has a name, `localhost`, and every name resolves to
    127.0.0.1. -/
def loopbackOnly : Resolver :=
  ⟨fun _ => some 0x7f000001, fun a => if a.host = 0x7f000001 then some "localhost" else none⟩

/-- Resolving the name of an address gives the address back. -/
theorem loopbackOnly_setHost_getHost (a : Address) (name : String)
    (h : loopbackOnly.getHost a = some name) : loopbackOnly.setHost name = some a.host := by
  simp only [loopbackOnly] at h ⊢
  split at h
  · rw [‹a.host = _›]
  · cases h

/-- A client registered on slot 0, at 127.0.0.1:12346, is found at `localhost`. -/
theorem findPeer_sound_at_localhost :
    (∀ a name, loopbackOnly.getHost a = some name → loopbackOnly.setHost name = some a.host) ∧
    (findPeer (((init .empty).alloc 0).register 0) loopbackOnly (fun _ => ⟨0x7f000001, 12346⟩)
      ⟨"localhost", 12346⟩).1 = .ok (some 0) ∧
    0 ∈ (((init .empty).alloc 0).register 0).peers ∧
    (((init .empty).alloc 0).register 0).live 0 = true ∧
    Endpoint.toEnetAddress loopbackOnly ⟨"localhost", 12346⟩ = .ok ⟨0x7f000001, 12346⟩ :=
  have hw : (findPeer (((init .empty).alloc 0).register 0) loopbackOnly
      (fun _ => ⟨0x7f000001, 12346⟩) ⟨"localhost", 12346⟩).1 = .ok (some 0) := rfl
  ⟨loopbackOnly_setHost_getHost, hw, findPeer_sound loopbackOnly_setHost_getHost _ hw⟩

/-- The client of `findPeer_sound_at_localhost`, every wrapper of which reverse-resolves, is
    found at `localhost`. -/
theorem findPeer_of_canonical_at_localhost :
    (∀ w ∈ (((init .empty).alloc 0).register 0).peers,
      (((init .empty).alloc 0).register 0).live w = true →
        (loopbackOnly.getHost ⟨0x7f000001, 12346⟩).isSome) ∧
    0 ∈ (((init .empty).alloc 0).register 0).peers ∧
    (((init .empty).alloc 0).register 0).live 0 = true ∧
    loopbackOnly.getHost ⟨0x7f000001, 12346⟩ = some "localhost" ∧
    (⟨0x7f000001, 12346⟩ : Address).port = 12346 ∧
    ∃ w', (findPeer (((init .empty).alloc 0).register 0) loopbackOnly
      (fun _ => ⟨0x7f000001, 12346⟩) ⟨"localhost", 12346⟩).1 = .ok (some w') :=
  have hall : ∀ w ∈ (((init .empty).alloc 0).register 0).peers,
      (((init .empty).alloc 0).register 0).live w = true →
        (loopbackOnly.getHost ((fun _ => ⟨0x7f000001, 12346⟩ : PeerHandle → Address)
          ((((init .empty).alloc 0).register 0).native w))).isSome := fun _ _ _ => rfl
  have hmem : 0 ∈ (((init .empty).alloc 0).register 0).peers := List.mem_singleton_self 0
  ⟨hall, hmem, rfl, rfl, rfl,
    findPeer_of_canonical _ hall hmem rfl rfl rfl⟩

/-- A name service where every name resolves and every address has a name, and resolving an
    address's name gives the address back. 127.0.0.1 is named `localhost`, and the numeric
    `127.0.0.1` resolves to it too; any other address `n` is named by `n` letters `x`. -/
def localhostNames : Resolver :=
  ⟨fun name => some (if name = "localhost" ∨ name = "127.0.0.1" then 0x7f000001
      else UInt32.ofNat name.length),
    fun a => some (if a.host = 0x7f000001 then "localhost"
      else String.mk (List.replicate a.host.toNat 'x'))⟩

/-- A name of letters `x` is neither spelling of 127.0.0.1. -/
theorem xs_ne_localhost (k : Nat) :
    ¬ (String.mk (List.replicate k 'x') = "localhost" ∨
      String.mk (List.replicate k 'x') = "127.0.0.1") := by
  rintro (h | h) <;>
  · have hk : k = 9 := by simpa using congrArg String.length h
    subst hk
    exact absurd h (by decide)

/-- A client connects to `127.0.0.1:12346` and keeps the wrapper. Resolution and reverse
    lookup are total and resolution undoes reverse lookup; the peer slot is at the address
    `connect` resolved. Yet `findPeer` with the endpoint it connected to returns `nullptr`:
    it compares the name `localhost` that `endpoint()` looks up with the string
    `127.0.0.1`. The other spelling is found. -/
theorem findPeer_misses_numeric_host :
    (∀ a, (localhostNames.getHost a).isSome) ∧ (∀ name, (localhostNames.setHost name).isSome) ∧
    (∀ a name, localhostNames.getHost a = some name → localhostNames.setHost name = some a.host) ∧
    (init .empty).connect localhostNames ⟨"127.0.0.1", 12346⟩ (some 0) =
      .ok (0, ((init .empty).alloc 0).register 0) ∧
    (((init .empty).alloc 0).register 0).live 0 = true ∧
    Endpoint.toEnetAddress localhostNames ⟨"127.0.0.1", 12346⟩ = .ok ⟨0x7f000001, 12346⟩ ∧
    (findPeer (((init .empty).alloc 0).register 0) localhostNames (fun _ => ⟨0x7f000001, 12346⟩)
      ⟨"127.0.0.1", 12346⟩).1 = .ok none ∧
    (findPeer (((init .empty).alloc 0).register 0) localhostNames (fun _ => ⟨0x7f000001, 12346⟩)
      ⟨"localhost", 12346⟩).1 = .ok (some 0) := by
  refine ⟨fun _ => rfl, fun _ => rfl, fun a name h => ?_, rfl, rfl, rfl, rfl, rfl⟩
  simp only [localhostNames, Option.some.injEq] at h ⊢
  subst h
  split
  · rename_i ha; rw [if_pos (.inl rfl), ha]
  · rw [if_neg (xs_ne_localhost _)]
    exact UInt32.toNat.inj (by simpa using UInt32.toNat_ofNat_of_lt a.host.toNat_lt_size)

end Host

end Icelander
