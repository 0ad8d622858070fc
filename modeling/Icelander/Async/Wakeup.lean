import Icelander.Async.Conservation
import Icelander.Async.Mutex

/-!
# Task Scheduler: the Pool and its Wakeups

Two invariants of every reachable state of the scheduler model, for any
interleaving of `schedule()` calls, worker steps and one controlling thread's
`start()` and `stop()` calls. Both hold while the pool is up: `running_` is set
and `start()` is not between its store and its spawn.

* The pool is full: `workerThreads_` is the `threadCount` workers the last
  `start()` spawned, and none of them has returned.
* `schedule()` never loses its wakeup. Its push is made under the mutex and a
  worker evaluates the wait predicate under the same mutex, so a worker can
  only join the wait set over an empty queue; a task in the queue is always
  watched, by a worker outside the wait set or by a `schedule()` call still to
  reach its `notify_one()`. Contrast `stop_loses_wakeup`: `stop()` stores
  `running_` without the mutex, and its `notify_all()` can be lost.

* `Watch`: the invariant, one named field per fact.
* `Watch.step`: every step keeps it, given the mutex invariant `LockExact` and
  `Conserves` of the state before; `Watch.reachable`: so does every run.
* `pool_runs_full`, `queued_task_is_watched`: the two statements.
-/

namespace Icelander.Async

/-- A worker that looks at the queue again without being notified: it is neither in the
    wait set nor returned. -/
def WorkerPc.awake : WorkerPc → Bool
  | .waiting | .exited => false
  | _ => true

theorem WorkerPc.awake_iff {pc : WorkerPc} :
    pc.awake = true ↔ pc ≠ .waiting ∧ pc ≠ .exited := by
  cases pc <;> simp [WorkerPc.awake]

namespace Scheduler

/-! ## §1 The invariant -/

/-- The pool is up: `running_` is set and `start()` is not between its store and its spawn. -/
def Up (s : Scheduler) : Prop := s.running = true ∧ s.control ≠ .startSpawn

/-- `workerThreads_` is the last `threadCount` workers spawned, and none of them has
    returned. -/
def PoolUp (hw : Nat) (workers : List WorkerPc) (workerThreads : List Nat) : Prop :=
  workerThreads = List.range' (workers.length - threadCount hw) (threadCount hw) ∧
    ∀ i ∈ workerThreads, ∃ pc, workers[i]? = some pc ∧ pc ≠ .exited

/-- Someone looks at the queue: a worker outside the wait set that has not returned, or a
    `schedule()` call that has pushed and is still to call `notify_one()`. -/
def Watched (workers : List WorkerPc) (producers : List ProducerPc) : Prop :=
  (∃ (i : Nat) (pc : WorkerPc), workers[i]? = some pc ∧ pc.awake) ∨
    ∃ j : Nat, producers[j]? = some .notify

/-- What every reachable state satisfies. -/
structure Watch (hw : Nat) (s : Scheduler) : Prop where
  /-- `start()` stores `running_ = true` only over a stopped scheduler. -/
  store_stopped : s.control = .startStore → s.running = false
  /-- `stop()` has stored `running_ = false` before it notifies and joins. -/
  stopping : s.control = .stopNotify ∨ s.control = .stopJoin → s.running = false
  /-- `start()` spawns into an empty `workerThreads_`. -/
  spawn_empty : s.control = .startSpawn → s.workerThreads = []
  /-- While the pool is up, it is full. -/
  pool : s.Up → PoolUp hw s.workers s.workerThreads
  /-- A worker about to wait holds the mutex over an empty queue. -/
  wait_empty : ∀ i : Nat, s.workers[i]? = some .wait → s.queue = []
  /-- While the pool is up, a queued task is watched. -/
  watched : s.Up → s.queue ≠ [] → Watched s.workers s.producers

/-! ## §2 Lemmas on the thread lists -/

section Lists

variable {hw i j : Nat} {ws : List WorkerPc} {ps : List ProducerPc} {wt : List Nat}

/-- Moving one worker to a place other than `exited` keeps the pool full. -/
theorem PoolUp.set {pc : WorkerPc} (hp : PoolUp hw ws wt) (hpc : pc ≠ .exited) :
    PoolUp hw (ws.set i pc) wt := by
  refine ⟨by rw [List.length_set]; exact hp.1, fun k hk => ?_⟩
  obtain ⟨pc0, h0, hne⟩ := hp.2 k hk
  rcases eq_or_ne i k with rfl | hik
  · exact ⟨pc, by rw [List.getElem?_set_self (List.getElem?_eq_some_iff.1 h0).1], hpc⟩
  · exact ⟨pc0, by rw [List.getElem?_set_ne hik]; exact h0, hne⟩

/-- A full pool with nobody in the wait set has a worker awake. -/
theorem PoolUp.watched (hp : PoolUp hw ws wt) (hnw : WorkerPc.waiting ∉ ws) : Watched ws ps := by
  have hmem : ws.length - threadCount hw ∈ wt := by
    rw [hp.1, List.mem_range']; exact ⟨0, threadCount_pos hw, rfl⟩
  obtain ⟨pc, hpc, hne⟩ := hp.2 _ hmem
  exact Or.inl ⟨_, pc, hpc, WorkerPc.awake_iff.2
    ⟨fun he => hnw (he ▸ List.getElem?_mem hpc), hne⟩⟩

/-- A worker moved to a place outside the wait set watches the queue. -/
theorem watched_set_worker {pc pc' : WorkerPc} (hpc : ws[i]? = some pc) (ha : pc'.awake) :
    Watched (ws.set i pc') ps :=
  Or.inl ⟨i, pc', by rw [List.getElem?_set_self (List.getElem?_eq_some_iff.1 hpc).1], ha⟩

/-- A `schedule()` call moved to its `notify_one()` watches the queue. -/
theorem watched_set_notify {p : ProducerPc} (hp : ps[j]? = some p) :
    Watched ws (ps.set j .notify) :=
  Or.inr ⟨j, by rw [List.getElem?_set_self (List.getElem?_eq_some_iff.1 hp).1]⟩

/-- Moving a `schedule()` call that is not at its `notify_one()` keeps the queue watched. -/
theorem Watched.set_producer {p p' : ProducerPc} (hw : Watched ws ps) (hp : ps[j]? = some p)
    (hne : p ≠ .notify) : Watched ws (ps.set j p') := by
  rcases hw with hw | ⟨k, hk⟩
  · exact Or.inl hw
  · have hjk : j ≠ k := fun hjk => hne (Option.some.inj (hp.symm.trans (hjk ▸ hk)))
    exact Or.inr ⟨k, by rwa [List.getElem?_set_ne hjk]⟩

/-- A new `schedule()` call leaves the queue watched. -/
theorem Watched.append_producer {p : ProducerPc} (hw : Watched ws ps) : Watched ws (ps ++ [p]) := by
  rcases hw with hw | ⟨k, hk⟩
  · exact Or.inl hw
  · exact Or.inr ⟨k, by rwa [List.getElem?_append_left (List.getElem?_eq_some_iff.1 hk).1]⟩

/-- A worker of `ws ++ replicate n .loop` is one of `ws` or a new worker at the top of its loop. -/
theorem getElem?_append_loops {n k : Nat} {pc : WorkerPc}
    (h : (ws ++ List.replicate n .loop)[k]? = some pc) : ws[k]? = some pc ∨ pc = .loop := by
  by_cases hk : k < ws.length
  · exact Or.inl (by rwa [List.getElem?_append_left hk] at h)
  · rw [List.getElem?_append_right (Nat.le_of_not_lt hk)] at h
    exact Or.inr (List.eq_of_mem_replicate (List.getElem?_mem h))

/-- The new workers of `ws ++ replicate n .loop` are at the top of their loop. -/
theorem getElem?_append_loops_of_mem {n k : Nat} (hk : k ∈ List.range' ws.length n) :
    (ws ++ List.replicate n .loop)[k]? = some .loop := by
  obtain ⟨m, hm, rfl⟩ := List.mem_range'.1 hk
  rw [Nat.one_mul, List.getElem?_append_right (Nat.le_add_right _ _), Nat.add_sub_cancel_left]
  simp [List.getElem?_replicate, hm]

/-- `notify_all()` sends nobody to `wait`. -/
theorem wakeAll_eq_wait {pc : WorkerPc} : wakeAll pc = .wait ↔ pc = .wait := by
  unfold wakeAll; split <;> simp_all

end Lists

/-! ## §3 What a worker step does to its own place -/

variable {hw : Nat} {s s' : Scheduler}

/-- Where a worker step can take worker `i`: it returns only when `running_` is false, joins
    the wait set only from `wait`, and reaches `wait` only from a false predicate, over an
    empty queue. -/
theorem workerStep_place {i : Nat} {pc : WorkerPc} (h : s.workerStep i pc = some s') :
    ∃ pc', s'.workers = s.workers.set i pc' ∧ (pc' = .exited → s.running = false) ∧
      (pc' = .waiting → pc = .wait) ∧ (pc' = .wait → s.queue = []) := by
  cases pc with
  | loop => cases h; exact ⟨_, rfl, by split <;> simp_all, by split <;> simp, by split <;> simp⟩
  | lock =>
    simp only [workerStep] at h
    split at h <;> cases h
    exact ⟨_, rfl, nofun, nofun, nofun⟩
  | check =>
    cases h
    refine ⟨_, rfl, by split <;> simp, by split <;> simp, fun hw => ?_⟩
    split at hw
    · cases hw
    · simp_all
  | wait => cases h; exact ⟨_, rfl, nofun, fun _ => rfl, nofun⟩
  | waiting | exited => cases h
  | testStop =>
    simp only [workerStep] at h
    split at h <;> cases h
    · exact ⟨_, rfl, nofun, nofun, nofun⟩
    · exact ⟨_, rfl, fun _ => by simp_all, nofun, nofun⟩
  | pop =>
    simp only [workerStep] at h
    split at h <;> cases h <;> exact ⟨_, rfl, nofun, nofun, nofun⟩
  | run t => cases t <;> cases h <;> exact ⟨_, rfl, nofun, nofun, nofun⟩

/-! ## §4 Each step keeps the invariant -/

/-- The scheduler before its first `start()` satisfies the invariant. -/
theorem Watch.init : Watch hw init where
  store_stopped := nofun
  stopping h := by rcases h with h | h <;> cases h
  spawn_empty := nofun
  pool h := absurd h.1 nofun
  wait_empty _ h := by simp [Scheduler.init] at h
  watched _ h := absurd rfl h

/-- A worker step keeps the invariant. -/
theorem Watch.workerStep {i : Nat} {pc : WorkerPc} (hc : Watch hw s)
    (hpc : s.workers[i]? = some pc) (h : s.workerStep i pc = some s') : Watch hw s' := by
  obtain ⟨-, hr, hctl, hp, hwt, -, pc₀, -, -, heff⟩ := workerStep_cases h
  obtain ⟨pc', hws, hex, hwait, hw⟩ := workerStep_place h
  -- a worker step never puts a task back into an empty queue
  have hnil : s.queue = [] → s'.queue = [] := fun hq => by
    rcases heff with ⟨hq', -⟩ | ⟨t, ht, -⟩ | ⟨t, hq', -⟩
    · rw [hq', hq]
    · rw [hq] at ht; cases ht
    · rw [hq', hq]
  have hup : s'.Up → s.Up := fun h => by rwa [Up, ← hr, ← hctl]
  have hi : i < s.workers.length := (List.getElem?_eq_some_iff.1 hpc).1
  refine ⟨hctl ▸ hr ▸ hc.store_stopped, hctl ▸ hr ▸ hc.stopping,
    hctl ▸ hwt ▸ hc.spawn_empty, fun hu => ?_, fun k hk => hnil ?_, fun hu hq => ?_⟩
  · rw [hws, hwt]
    exact (hc.pool (hup hu)).set fun he => by simp [hex he, Up, hr] at hu
  · rcases eq_or_ne i k with rfl | hik
    · rw [hws, List.getElem?_set_self hi] at hk
      exact hw (Option.some.inj hk)
    · exact hc.wait_empty k (by rwa [hws, List.getElem?_set_ne hik] at hk)
  · have hpw : pc ≠ .wait := fun he => hq (hnil (hc.wait_empty i (he ▸ hpc)))
    rw [hws, hp]
    exact watched_set_worker hpc (WorkerPc.awake_iff.2 ⟨fun he => hpw (hwait he),
      fun he => by simp [hex he, Up, hr] at hu⟩)

/-- A step of a `schedule()` call keeps the invariant, the mutex being exact before it. -/
theorem Watch.producerStep {j : Nat} {wake : Option Nat} {pc : ProducerPc} (hc : Watch hw s)
    (hl : LockExact s) (hpc : s.producers[j]? = some pc) (h : s.producerStep j wake pc = some s') :
    Watch hw s' := by
  obtain ⟨hr, hctl, hwt, -, -, pc', -, -, heff⟩ := producerStep_cases h
  have hup : s'.Up → s.Up := fun h => by rwa [Up, ← hr, ← hctl]
  -- the workers stay put, but for a waiter `notify_one()` sends back to `lock`
  have hws : s'.workers = s.workers ∨
      ∃ w, s.workers[w]? = some .waiting ∧ s'.workers = s.workers.set w .lock := by
    rcases heff with ⟨-, -, -, -, hws⟩ | ⟨-, -, -, hws⟩
    · exact Or.inl hws
    · exact hws
  refine ⟨hctl ▸ hr ▸ hc.store_stopped, hctl ▸ hr ▸ hc.stopping,
    hctl ▸ hwt ▸ hc.spawn_empty, fun hu => ?_, fun k hk => ?_, fun hu hq => ?_⟩
  · rw [hwt]
    rcases hws with hws | ⟨w, -, hws⟩ <;> rw [hws]
    · exact hc.pool (hup hu)
    · exact (hc.pool (hup hu)).set nofun
  · have hk' : s.workers[k]? = some .wait := by
      rcases hws with hws | ⟨w, hw, hws⟩
      · rwa [hws] at hk
      · rcases eq_or_ne w k with rfl | hwk
        · rw [hws, List.getElem?_set_self (List.getElem?_eq_some_iff.1 hw).1] at hk; cases hk
        · rwa [hws, List.getElem?_set_ne hwk] at hk
    rcases heff with ⟨rfl, -, -, -, -⟩ | ⟨-, hq, -, -⟩
    · -- the push holds the mutex, which a worker at `wait` holds too
      have h1 := (hl (.producer j)).1 (by simp [holdsLock, hpc, ProducerPc.holdsLock])
      have h2 := (hl (.worker k)).1 (by simp [holdsLock, hk', WorkerPc.holdsLock])
      rw [h1] at h2; cases h2
    · rw [hq]; exact hc.wait_empty k hk'
  · cases pc with
    | lock =>
      simp only [Scheduler.producerStep] at h
      split at h <;> cases h
      exact (hc.watched (hup hu) hq).set_producer hpc nofun
    | push => cases h; exact watched_set_notify hpc
    | notify =>
      cases wake with
      | none =>
        simp only [Scheduler.producerStep, notifyOne] at h
        split at h <;> cases h
        exact (hc.pool (hup hu)).watched ‹_›
      | some w =>
        simp only [Scheduler.producerStep, notifyOne, setProducer_workers] at h
        split at h <;> cases h
        exact watched_set_worker ‹_› rfl
    | done => cases h

/-- With `running_` false, the invariant asks only that `start()` is not at its spawn and
    that a worker about to wait does so over an empty queue. -/
theorem Watch.of_stopped (hr : s.running = false) (hc : s.control ≠ .startSpawn)
    (hwait : ∀ i : Nat, s.workers[i]? = some .wait → s.queue = []) : Watch hw s where
  store_stopped _ := hr
  stopping _ := hr
  spawn_empty h := absurd h hc
  pool h := absurd (hr.symm.trans h.1) Bool.false_ne_true
  wait_empty := hwait
  watched h := absurd (hr.symm.trans h.1) Bool.false_ne_true

/-- Moving the controlling thread alone, from a place other than `start()`'s spawn, to a
    place that asks nothing of `running_`, keeps the invariant. -/
theorem Watch.set_control {c : ControlPc} (hc : Watch hw s) (hs : s.control ≠ .startSpawn)
    (h : c = .idle ∨ c = .startLoad ∨ c = .stopLoad ∨ c = .stopStore) :
    Watch hw { s with control := c } where
  store_stopped h' := by rcases h with rfl | rfl | rfl | rfl <;> cases h'
  stopping h' := by rcases h with rfl | rfl | rfl | rfl <;> rcases h' with h' | h' <;> cases h'
  spawn_empty h' := by rcases h with rfl | rfl | rfl | rfl <;> cases h'
  pool hu := hc.pool ⟨hu.1, hs⟩
  wait_empty := hc.wait_empty
  watched hu := hc.watched ⟨hu.1, hs⟩

/-- A step of the controlling thread keeps the invariant, given `Conserves` before it. -/
theorem Watch.controlStep (hc : Watch hw s) (hcs : Conserves s)
    (h : s.controlStep hw s.control = some s') : Watch hw s' := by
  cases hctl : s.control <;> rw [hctl] at h <;> simp only [Scheduler.controlStep] at h
  case idle => cases h
  case startLoad =>
    split at h <;> cases h
    · exact hc.set_control (by simp [hctl]) (Or.inl rfl)
    · exact .of_stopped (Bool.eq_false_iff.2 ‹_›) nofun hc.wait_empty
  case stopLoad =>
    split at h <;> cases h
    · exact hc.set_control (by simp [hctl]) (Or.inr (Or.inr (Or.inr rfl)))
    · exact hc.set_control (by simp [hctl]) (Or.inl rfl)
  case startStore =>
    cases h
    refine ⟨nofun, (by rintro (h | h) <;> cases h), fun _ => ?_, fun hu => absurd rfl hu.2,
      hc.wait_empty, fun hu => absurd rfl hu.2⟩
    exact hcs.stopped (by rw [hctl]; rfl) (hc.store_stopped hctl)
  case startSpawn =>
    cases h
    have hwt := hc.spawn_empty hctl
    refine ⟨nofun, (by rintro (h | h) <;> cases h), nofun, fun _ => ⟨?_, ?_⟩,
      fun k hk => ?_, fun _ _ => Or.inl ⟨s.workers.length, .loop, ?_, rfl⟩⟩
    · simp [hwt]
    · simp only [spawnWorkers_workerThreads, hwt, List.nil_append, spawnWorkers_workers]
      exact fun i hi => ⟨_, getElem?_append_loops_of_mem hi, nofun⟩
    · rcases getElem?_append_loops hk with hk | hk
      · exact hc.wait_empty k hk
      · cases hk
    · exact getElem?_append_loops_of_mem (List.mem_range'.2 ⟨0, threadCount_pos hw, rfl⟩)
  case stopStore => cases h; exact .of_stopped rfl nofun hc.wait_empty
  case stopNotify =>
    cases h
    refine .of_stopped (hc.stopping (Or.inl hctl)) nofun fun k hk => hc.wait_empty k ?_
    rw [List.getElem?_map] at hk
    obtain ⟨pc, h0, hpc⟩ := Option.map_eq_some'.1 hk
    rwa [← wakeAll_eq_wait.1 hpc]
  case stopJoin =>
    split at h <;> cases h
    exact .of_stopped (hc.stopping (Or.inr hctl)) nofun hc.wait_empty

/-- Every step keeps the invariant, given the mutex invariant and `Conserves` before it. -/
theorem Watch.step {l : Label} (hc : Watch hw s) (hl : LockExact s) (hcs : Conserves s)
    (h : Scheduler.step hw s l = some s') : Watch hw s' := by
  cases l with
  | worker i => obtain ⟨pc, hpc, hs⟩ := step_worker h; exact hc.workerStep hpc hs
  | producer j wake => obtain ⟨pc, hpc, hs⟩ := step_producer h; exact hc.producerStep hl hpc hs
  | control => exact hc.controlStep hcs h
  | schedule =>
    cases h
    exact ⟨hc.store_stopped, hc.stopping, hc.spawn_empty, hc.pool, hc.wait_empty,
      fun hu hq => (hc.watched hu hq).append_producer⟩
  | callStart =>
    simp only [Scheduler.step] at h
    split at h <;> cases h
    exact hc.set_control (by simp [‹s.control = _›]) (Or.inr (Or.inl rfl))
  | callStop =>
    simp only [Scheduler.step] at h
    split at h <;> cases h
    exact hc.set_control (by simp [‹s.control = _›]) (Or.inr (Or.inr (Or.inl rfl)))

/-- Every reachable state satisfies the invariant. -/
theorem Watch.reachable (h : Reachable hw s) : Watch hw s := by
  induction h with
  | init => exact .init
  | step hs hst ih => exact ih.step (LockExact.reachable hs) (Conserves.reachable hs) hst

/-! ## §5 The pool and the wakeups -/

/-- The pool is full. In every reachable state where `running_` is set and `start()` is
    not between its store and its spawn, `workerThreads_` is the `threadCount` workers
    spawned last, and none of them has returned from `workerLoop`. -/
theorem pool_runs_full (h : Reachable hw s) (hr : s.running = true)
    (hc : s.control ≠ .startSpawn) :
    s.workerThreads = List.range' (s.workers.length - threadCount hw) (threadCount hw) ∧
      ∀ i ∈ s.workerThreads, ∃ pc, s.workers[i]? = some pc ∧ pc ≠ .exited :=
  (Watch.reachable h).pool ⟨hr, hc⟩

/-- After `start()` on one hardware thread, the pool is its one worker. -/
theorem pool_runs_full_after_start :
    Reachable 1 ⟨true, [], none, [.loop], [0], [], .idle, [], [], []⟩ ∧
      [0] = List.range' ([WorkerPc.loop].length - threadCount 1) (threadCount 1) ∧
      ∀ i ∈ [0], ∃ pc, [WorkerPc.loop][i]? = some pc ∧ pc ≠ .exited := by
  have hr : Reachable 1 ⟨true, [], none, [.loop], [0], [], .idle, [], [], []⟩ :=
    @Reachable.run 1 init _ [.callStart, .control, .control, .control] .init rfl
  exact ⟨hr, pool_runs_full hr rfl nofun⟩

/-- `schedule()` never loses its wakeup. In every reachable state where `running_` is set,
    `start()` is not between its store and its spawn, and the queue holds a task, some
    worker is outside the wait set and has not returned, or some `schedule()` call has
    pushed and is still to call `notify_one()`. -/
theorem queued_task_is_watched (h : Reachable hw s) (hr : s.running = true)
    (hc : s.control ≠ .startSpawn) (hq : s.queue ≠ []) : Watched s.workers s.producers :=
  (Watch.reachable h).watched ⟨hr, hc⟩ hq

/-- After `start()` on one hardware thread and one `schedule()` call that has pushed. -/
theorem queued_task_is_watched_after_push :
    Reachable 1 ⟨true, [0], none, [.loop], [0], [.notify], .idle, [0], [], []⟩ ∧
      Watched [.loop] [.notify] := by
  have hr : Reachable 1 ⟨true, [0], none, [.loop], [0], [.notify], .idle, [0], [], []⟩ :=
    @Reachable.run 1 init _ [.callStart, .control, .control, .control, .schedule,
      .producer 0 none, .producer 0 none] .init rfl
  exact ⟨hr, queued_task_is_watched hr rfl nofun nofun⟩

end Scheduler

end Icelander.Async
