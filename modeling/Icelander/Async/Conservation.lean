import Icelander.Async.Scheduler

/-!
# Task Scheduler: What the Queue Keeps

Invariants of every reachable state of the scheduler model, for any
interleaving of `schedule()` calls, worker steps and one controlling thread's
`start()` and `stop()` calls.

* The queue is first in, first out: the tasks popped, followed by the queue,
  are the tasks pushed, in order.
* No task is pushed twice, so none is popped or run twice; as a multiset, the
  tasks pushed are those run, those held between pop and run, and those queued.
* After `stop()` has returned (controller idle, `running_` false) every worker
  thread has exited, so nothing leaves the queue until a later `start()`.

The last point is as far as the code goes: a task a `stop()` leaves in the
queue runs only if a later pool's workers reach it before the next `stop()`;
`queued_task_outlives_restart` is a run in which a `start()` and a `stop()`
come and go and the task is still queued, with every thread finished.

* `Conserves`: the invariant, one named field per fact.
* `Conserves.step`: every step keeps it; `Conserves.reachable`: so does every run.
* `tasks_conserved`: the safety statement.
-/

namespace Icelander.Async

/-- Places of the controlling thread where `running_` being false means no pool is up:
    between calls, in `start()` before its spawn, and at `stop()`'s first load. -/
def ControlPc.settled : ControlPc → Bool
  | .idle | .startLoad | .startStore | .stopLoad => true
  | .startSpawn | .stopStore | .stopNotify | .stopJoin => false

namespace Scheduler

/-! ## §1 The invariant -/

/-- Every worker that has not exited belongs to `workerThreads_`. -/
def PoolCovers (workers : List WorkerPc) (workerThreads : List Nat) : Prop :=
  ∀ i pc, workers[i]? = some pc → pc ≠ .exited → i ∈ workerThreads

/-- What every reachable state satisfies. -/
structure Conserves (s : Scheduler) : Prop where
  /-- A task is pushed exactly when its `schedule()` call is past its push. -/
  mem_pushed : ∀ t, t ∈ s.pushed ↔ ∃ pc, s.producers[t]? = some pc ∧ pc.hasPushed
  /-- No task is pushed twice. -/
  pushed_nodup : s.pushed.Nodup
  /-- The queue is first in, first out. -/
  fifo : s.dequeued ++ s.queue = s.pushed
  /-- A popped task has been run or is in a worker's hand, once. -/
  dequeued_perm : s.dequeued.Perm (s.executed ++ s.inHand)
  /-- Only workers of the current pool are still running. -/
  pool : PoolCovers s.workers s.workerThreads
  /-- Where the controller is settled, `running_ == false` means an empty pool. -/
  stopped : s.control.settled → s.running = false → s.workerThreads = []
  /-- `start()` spawns only after storing `running_ = true`. -/
  spawning : s.control = .startSpawn → s.running = true

/-! ## §2 Lemmas on lists of threads -/

/-- Replacing one element of a list changes its `flatMap` by the two images, up to order. -/
theorem perm_flatMap_set {α β : Type} [DecidableEq β] (f : α → List β) :
    ∀ {ws : List α} {i : Nat} {a b : α}, ws[i]? = some a →
      ((ws.set i b).flatMap f ++ f a).Perm (ws.flatMap f ++ f b)
  | x :: ws, 0, a, b, h => by
    obtain rfl : x = a := by simpa using h
    simp only [List.set_cons_zero, List.flatMap_cons, List.perm_iff_count, List.count_append]
    intro; omega
  | x :: ws, i + 1, a, b, h => by
    simp only [List.set_cons_succ, List.flatMap_cons, List.append_assoc]
    exact (perm_flatMap_set f (by simpa using h)).append_left _

/-- Replacing a worker by one that holds the same tasks keeps the tasks in hand. -/
theorem perm_flatMap_set_of_held {ws : List WorkerPc} {i : Nat} {a b : WorkerPc}
    (h : ws[i]? = some a) (hab : b.held = a.held) :
    ((ws.set i b).flatMap WorkerPc.held).Perm (ws.flatMap WorkerPc.held) := by
  have := perm_flatMap_set WorkerPc.held (b := b) h
  rwa [hab, List.perm_append_right_iff] at this

/-- Moving a running worker keeps the pool covering the running workers. -/
theorem PoolCovers.set {ws : List WorkerPc} {wt : List Nat} {i : Nat} {a b : WorkerPc}
    (hc : PoolCovers ws wt) (h : ws[i]? = some a) (ha : a ≠ .exited) :
    PoolCovers (ws.set i b) wt := by
  intro k pc hk hpc
  rcases eq_or_ne i k with rfl | hik
  · exact hc i a h ha
  · exact hc k pc (by rwa [List.getElem?_set_ne hik] at hk) hpc

/-- `notify_all()` leaves the tasks in hand alone. -/
@[simp]
theorem held_wakeAll (pc : WorkerPc) : (wakeAll pc).held = pc.held := by
  unfold wakeAll; split <;> simp_all [WorkerPc.held]

/-- `notify_all()` neither makes a worker exit nor revives one. -/
theorem wakeAll_eq_exited {pc : WorkerPc} : wakeAll pc = .exited ↔ pc = .exited := by
  unfold wakeAll; split <;> simp_all

/-! ## §3 Each step keeps the invariant -/

variable {hw : Nat} {s s' : Scheduler}

/-- The scheduler before its first `start()` satisfies the invariant. -/
theorem Conserves.init : Conserves init :=
  ⟨by simp [Scheduler.init], .nil, rfl, .nil, fun _ _ h => by simp [Scheduler.init] at h,
    fun _ _ => rfl, nofun⟩

/-- A worker step keeps the invariant. -/
theorem Conserves.workerStep {i : Nat} {pc : WorkerPc} (hc : Conserves s)
    (hpc : s.workers[i]? = some pc) (h : s.workerStep i pc = some s') : Conserves s' := by
  obtain ⟨hex, hr, hctl, hp, hwt, hpu, pc', hws, -, heff⟩ := workerStep_cases h
  have hhand := perm_flatMap_set WorkerPc.held (b := pc') hpc
  rw [← hws] at hhand
  refine ⟨hp ▸ hpu ▸ hc.mem_pushed, hpu ▸ hc.pushed_nodup, ?_, ?_,
    hws ▸ hwt ▸ hc.pool.set hpc hex, hctl ▸ hr ▸ hwt ▸ hc.stopped,
    hctl ▸ hr ▸ hc.spawning⟩
  · rcases heff with ⟨hq, hd, -⟩ | ⟨t, hq, hd, -⟩ | ⟨t, hq, hd, -⟩
    · rw [hq, hd, hpu, hc.fifo]
    · rw [hd, hpu, ← hc.fifo, hq, List.append_assoc, List.singleton_append]
    · rw [hq, hd, hpu, hc.fifo]
  · have hd := hc.dequeued_perm
    unfold inHand at hd ⊢
    rcases heff with ⟨-, hd', he, hh⟩ | ⟨t, -, hd', he, hh, hh'⟩ |
      ⟨t, -, hd', he, hh, hh'⟩
    · rw [hh, List.perm_append_right_iff] at hhand
      rw [hd', he]; exact hd.trans (hhand.symm.append_left _)
    · rw [hh, hh', List.append_nil] at hhand
      rw [hd', he]
      exact (hd.append_right [t]).trans (by rw [List.append_assoc]; exact hhand.symm.append_left _)
    · rw [hh, hh', List.append_nil] at hhand
      rw [hd', he, List.append_assoc]
      exact hd.trans ((hhand.symm.trans List.perm_append_comm).append_left _)

/-- A step of a `schedule()` call keeps the invariant. -/
theorem Conserves.producerStep {j : Nat} {wake : Option Nat} {pc : ProducerPc}
    (hc : Conserves s) (hpc : s.producers[j]? = some pc) (h : s.producerStep j wake pc = some s') :
    Conserves s' := by
  obtain ⟨hr, hctl, hwt, hd, he, pc', hp, -, heff⟩ := producerStep_cases h
  have hj : j < s.producers.length := (List.getElem?_eq_some_iff.1 hpc).1
  have hset : ∀ t, s'.producers[t]? = if j = t then some pc' else s.producers[t]? := by
    intro t; rw [hp, List.getElem?_set]; split <;> simp_all
  rcases heff with ⟨rfl, rfl, hq, hpu, hws⟩ | ⟨hpp, hq, hpu, hws⟩
  · have hnew : j ∉ s.pushed := fun hm => by
      obtain ⟨pc, h1, h2⟩ := (hc.mem_pushed j).1 hm
      rw [hpc] at h1; cases h1; cases h2
    refine ⟨fun t => ?_, ?_, ?_, ?_, hws ▸ hwt ▸ hc.pool, hctl ▸ hr ▸ hwt ▸ hc.stopped,
      hctl ▸ hr ▸ hc.spawning⟩
    · rw [hpu, List.mem_append, hc.mem_pushed, hset, List.mem_singleton]
      by_cases hjt : j = t
      · subst hjt; simp [hpc, ProducerPc.hasPushed]
      · simp [hjt, Ne.symm hjt]
    · rw [hpu]
      exact hc.pushed_nodup.append (List.nodup_singleton j) (List.disjoint_singleton.2 hnew)
    · rw [hd, hq, hpu, ← List.append_assoc, hc.fifo]
    · rw [hd, he, inHand, hws]; exact hc.dequeued_perm
  · have hhand : (s'.workers.flatMap WorkerPc.held).Perm (s.workers.flatMap WorkerPc.held) := by
      rcases hws with hws | ⟨w, hw, hws⟩
      · rw [hws]
      · rw [hws]; exact perm_flatMap_set_of_held hw rfl
    refine ⟨fun t => ?_, hpu ▸ hc.pushed_nodup, by rw [hd, hq, hpu, hc.fifo], ?_, ?_,
      hctl ▸ hr ▸ hwt ▸ hc.stopped, hctl ▸ hr ▸ hc.spawning⟩
    · rw [hpu, hc.mem_pushed, hset]
      by_cases hjt : j = t
      · subst hjt; simp [hpc, hpp]
      · simp [hjt]
    · rw [hd, he]; exact hc.dequeued_perm.trans (hhand.symm.append_left _)
    · rcases hws with hws | ⟨w, hw, hws⟩
      · rw [hws, hwt]; exact hc.pool
      · rw [hws, hwt]; exact hc.pool.set hw nofun

/-- A step of the controlling thread keeps the invariant. -/
theorem Conserves.controlStep (hc : Conserves s) (h : s.controlStep hw s.control = some s') :
    Conserves s' := by
  have ⟨hm, hn, hf, hd, hpool, hst, hsp⟩ := hc
  cases hctl : s.control <;> rw [hctl] at h hst hsp <;> simp only [Scheduler.controlStep] at h
  case idle => cases h
  case startLoad | stopLoad =>
    cases h; exact ⟨hm, hn, hf, hd, hpool, fun _ hr => hst rfl hr, by split <;> simp⟩
  case startStore => cases h; exact ⟨hm, hn, hf, hd, hpool, nofun, fun _ => rfl⟩
  case startSpawn =>
    cases h
    refine ⟨hm, hn, hf, ?_, fun i pc hi hpc => ?_, fun _ hr => by simp [hsp rfl] at hr, nofun⟩
    · simpa [inHand, List.flatMap_append, List.flatMap_replicate, WorkerPc.held] using hd
    · simp only [spawnWorkers_workers, spawnWorkers_workerThreads, List.mem_append,
        List.mem_range'] at hi ⊢
      by_cases hlt : i < s.workers.length
      · exact .inl (hpool i pc (by rwa [List.getElem?_append_left hlt] at hi) hpc)
      · have := (List.getElem?_eq_some_iff.1 hi).1
        simp only [List.length_append, List.length_replicate] at this
        exact .inr ⟨i - s.workers.length, by omega, by omega⟩
  case stopStore => cases h; exact ⟨hm, hn, hf, hd, hpool, nofun, nofun⟩
  case stopNotify =>
    cases h
    refine ⟨hm, hn, hf, by simpa [inHand, List.flatMap_map] using hd, fun i pc hi hpc => ?_,
      nofun, nofun⟩
    rw [List.getElem?_map] at hi
    obtain ⟨pc0, h0, rfl⟩ := Option.map_eq_some'.1 hi
    exact hpool i pc0 h0 (fun he => hpc (wakeAll_eq_exited.2 he))
  case stopJoin =>
    split at h
    · cases h
      refine ⟨hm, hn, hf, hd, fun i pc hi hpc => ?_, fun _ _ => rfl, nofun⟩
      have hall := List.all_eq_true.1 ‹_› i (hpool i pc hi hpc)
      simp [hi] at hall
      exact absurd hall hpc
    · cases h

/-- Every step keeps the invariant. -/
theorem Conserves.step {l : Label} (hc : Conserves s) (h : Scheduler.step hw s l = some s') :
    Conserves s' := by
  cases l with
  | worker i => obtain ⟨pc, hpc, hs⟩ := step_worker h; exact hc.workerStep hpc hs
  | producer j wake => obtain ⟨pc, hpc, hs⟩ := step_producer h; exact hc.producerStep hpc hs
  | control => exact hc.controlStep h
  | schedule =>
    cases h
    refine ⟨fun t => ?_, hc.pushed_nodup, hc.fifo, hc.dequeued_perm, hc.pool, hc.stopped,
      hc.spawning⟩
    rw [hc.mem_pushed]
    dsimp only
    by_cases ht : t < s.producers.length
    · rw [List.getElem?_append_left ht]
    · rw [List.getElem?_eq_none (Nat.le_of_not_lt ht), List.getElem?_append_right
        (Nat.le_of_not_lt ht)]
      constructor
      · rintro ⟨_, h1, -⟩; cases h1
      · rintro ⟨pc, h1, h2⟩
        obtain rfl : pc = .lock := List.eq_of_mem_singleton (List.getElem?_mem h1)
        cases h2
  | callStart | callStop =>
    simp only [Scheduler.step] at h; split at h
    · cases h
      exact ⟨hc.mem_pushed, hc.pushed_nodup, hc.fifo, hc.dequeued_perm, hc.pool,
        fun _ hr => hc.stopped (by rw [‹s.control = _›]; rfl) hr, nofun⟩
    · cases h

/-- Every reachable state satisfies the invariant. -/
theorem Conserves.reachable (h : Reachable hw s) : Conserves s := by
  induction h with
  | init => exact .init
  | step _ hs ih => exact ih.step hs

/-! ## §4 Task conservation -/

/-- Task conservation. In every reachable state the tasks popped, followed by the queue,
    are the tasks pushed; no task is pushed or run twice; the tasks pushed are, as a
    multiset, those run, those in a worker's hand and those queued; a task is pushed
    exactly when its `schedule()` call is past its push; and once `stop()` has returned,
    every worker has exited, so the queue keeps what it holds until a later `start()`. -/
theorem tasks_conserved (hw : Nat) (s : Scheduler) (h : Reachable hw s) :
    s.dequeued ++ s.queue = s.pushed ∧ s.pushed.Nodup ∧ s.executed.Nodup ∧
    s.pushed.Perm (s.executed ++ s.inHand ++ s.queue) ∧
    (∀ t, t ∈ s.pushed ↔ ∃ pc, s.producers[t]? = some pc ∧ pc.hasPushed) ∧
    (s.control = .idle → s.running = false → ∀ pc ∈ s.workers, pc = .exited) := by
  have hc := Conserves.reachable h
  have hdq : (s.dequeued ++ s.queue).Nodup := by rw [hc.fifo]; exact hc.pushed_nodup
  refine ⟨hc.fifo, hc.pushed_nodup,
    (hc.dequeued_perm.nodup_iff.1 hdq.of_append_left).of_append_left,
    by rw [← hc.fifo]; exact hc.dequeued_perm.append_right _, hc.mem_pushed,
    fun hi hr pc hpc => ?_⟩
  have hwt := hc.stopped (by rw [hi]; rfl) hr
  obtain ⟨i, hi'⟩ := List.mem_iff_getElem?.1 hpc
  by_contra hne
  simpa [hwt] using hc.pool i pc hi' hne

/-- Task 0 pushed, then two pools started and stopped before their workers ran it. Its end state, with both workers exited, the
    scheduler stopped, task 0 still queued and nothing popped or run, conserves its tasks. -/
theorem tasks_conserved_after_restart :
    ∃ s, Scheduler.run 1 init [.schedule, .producer 0 none, .producer 0 none, .producer 0 none,
        .callStart, .control, .control, .control,
        .callStop, .control, .control, .worker 0, .control, .control,
        .callStart, .control, .control, .control,
        .callStop, .control, .control, .worker 1, .control, .control] = some s ∧
      s.queue = [0] ∧ s.workers = [.exited, .exited] ∧ s.dequeued = [] ∧ Reachable 1 s ∧
      (s.dequeued ++ s.queue = s.pushed ∧ s.pushed.Nodup ∧ s.executed.Nodup ∧
        s.pushed.Perm (s.executed ++ s.inHand ++ s.queue) ∧
        (∀ t, t ∈ s.pushed ↔ ∃ pc, s.producers[t]? = some pc ∧ pc.hasPushed) ∧
        (s.control = .idle → s.running = false → ∀ pc ∈ s.workers, pc = .exited)) :=
  have hrun : Scheduler.run 1 init [.schedule, .producer 0 none, .producer 0 none,
      .producer 0 none, .callStart, .control, .control, .control,
      .callStop, .control, .control, .worker 0, .control, .control,
      .callStart, .control, .control, .control,
      .callStop, .control, .control, .worker 1, .control, .control] =
      some ⟨false, [0], none, [.exited, .exited], [], [.done], .idle, [0], [], []⟩ := rfl
  have h := Reachable.run .init hrun
  ⟨_, hrun, rfl, rfl, rfl, h, tasks_conserved 1 _ h⟩

/-- A task `stop()` leaves in the queue need not run after a later `start()`. Task 0 is
    pushed; a pool of one worker starts and is stopped before its worker loads `running_`;
    a second pool starts and is stopped the same way. Every thread has finished, task 0 is
    still queued and was never run, and no thread can take another step: only a further
    `start()`, `stop()` or `schedule()` call changes anything. -/
theorem queued_task_outlives_restart :
    Scheduler.run 1 init [.schedule, .producer 0 none, .producer 0 none, .producer 0 none,
        .callStart, .control, .control, .control,
        .callStop, .control, .control, .worker 0, .control, .control,
        .callStart, .control, .control, .control,
        .callStop, .control, .control, .worker 1, .control, .control] =
      some ⟨false, [0], none, [.exited, .exited], [], [.done], .idle, [0], [], []⟩ ∧
    ∀ l, l ≠ .schedule → l ≠ .callStart → l ≠ .callStop →
      Scheduler.step 1 ⟨false, [0], none, [.exited, .exited], [], [.done], .idle, [0], [], []⟩ l =
        none := by
  refine ⟨by decide, fun l h1 h2 h3 => ?_⟩
  cases l with
  | worker i => rcases i with _ | _ | i <;> simp [Scheduler.step, workerStep]
  | producer j => rcases j with _ | j <;> simp [Scheduler.step, producerStep]
  | control => rfl
  | schedule => exact absurd rfl h1
  | callStart => exact absurd rfl h2
  | callStop => exact absurd rfl h3

end Scheduler

end Icelander.Async
