import Mathlib

/-!
# Task Scheduler: the Interleaving Model

`TaskScheduler` (`src/src/async.cpp`) as a transition system over the threads
that touch it: the worker threads running `workerLoop`, the threads inside
`schedule(task)`, and one controlling thread calling `start()` and `stop()`.

Each thread has a program counter; one step is one atomic action of one
thread: a load or store of the atomic `running_`, an acquisition or release of
`queueMutex_`, a queue operation done under the mutex, or a condition-variable
operation. `queueCv_.wait(lock, pred)` is `while (!pred()) wait(lock);`: the
predicate is evaluated under the mutex (`check`), and a false predicate
releases the mutex and joins the wait set in one step (`wait`). The wait set
is the workers at `waiting`; `notify_one` moves the one the label names back
to `lock`, `notify_all` moves all of them. A waiter leaves the wait set only when
notified: the implementation may also wake it spuriously, but never has to.

Three ghost lists record what the queue saw: `pushed` (enqueued, in order),
`dequeued` (popped, in order) and `executed` (run, in order).
-/

namespace Icelander.Async

/-- A task, named by the number of the `schedule()` call that brought it. -/
abbrev Task := Nat

/-- Who holds `queueMutex_`: a worker, or the `schedule()` call numbered `j`. -/
inductive Holder
  | worker (i : Nat)
  | producer (j : Nat)
  deriving DecidableEq, Repr

/-- Where a worker thread is in `workerLoop`. -/
inductive WorkerPc
  /-- `while (running_)`: about to load `running_`. -/
  | loop
  /-- Acquiring `queueMutex_`; a woken waiter re-acquires it here too. -/
  | lock
  /-- Holding the mutex, about to evaluate `!taskQueue_.empty() || !running_`. -/
  | check
  /-- Holding the mutex after a false predicate, about to wait. -/
  | wait
  /-- In the wait set of `queueCv_`. -/
  | waiting
  /-- Holding the mutex after a true predicate: `if (!running_) break;`. -/
  | testStop
  /-- Holding the mutex: pop the front task, if any, then release the mutex. -/
  | pop
  /-- Mutex released: `if (task) task();`. -/
  | run (task : Option Task)
  /-- Returned from `workerLoop`. -/
  | exited
  deriving DecidableEq, Repr

/-- Where a `schedule(task)` call is. -/
inductive ProducerPc
  /-- Acquiring the mutex (`lock_guard`). -/
  | lock
  /-- Holding the mutex: push, then release. -/
  | push
  /-- `queueCv_.notify_one()`. -/
  | notify
  /-- Returned. -/
  | done
  deriving DecidableEq, Repr

/-- Where the controlling thread is. -/
inductive ControlPc
  /-- Not inside `start()` or `stop()`. -/
  | idle
  /-- `start()`: `if (running_) return;`. -/
  | startLoad
  /-- `start()`: `running_ = true;`. -/
  | startStore
  /-- `start()`: spawn the workers into `workerThreads_`. -/
  | startSpawn
  /-- `stop()`: `if (!running_) return;`. -/
  | stopLoad
  /-- `stop()`: `running_ = false;`. -/
  | stopStore
  /-- `stop()`: `queueCv_.notify_all();`. -/
  | stopNotify
  /-- `stop()`: join every thread of `workerThreads_`, then `clear()`. -/
  | stopJoin
  deriving DecidableEq, Repr

/-- The scheduler and the threads acting on it. -/
structure Scheduler where
  /-- `running_`. -/
  running : Bool
  /-- `taskQueue_`, front first. -/
  queue : List Task
  /-- The owner of `queueMutex_`. -/
  holder : Option Holder
  /-- Every worker thread spawned so far, by spawn order. -/
  workers : List WorkerPc
  /-- `workerThreads_`: the workers of the current pool. -/
  workerThreads : List Nat
  /-- Every `schedule()` call so far; call `j` brings task `j`. -/
  producers : List ProducerPc
  /-- The controlling thread. -/
  control : ControlPc
  /-- Tasks enqueued, in order. -/
  pushed : List Task
  /-- Tasks popped by workers, in order. -/
  dequeued : List Task
  /-- Tasks run by workers, in order. -/
  executed : List Task
  deriving DecidableEq, Repr

/-- One step, by the thread that takes it. -/
inductive Label
  /-- Worker `i` takes its next step. -/
  | worker (i : Nat)
  /-- `schedule()` call `j` takes its next step; at `notify_one`, `wake` is the waiter
      it wakes (`none` when the wait set is empty). -/
  | producer (j : Nat) (wake : Option Nat)
  /-- The controlling thread takes its next step. -/
  | control
  /-- Some thread calls `schedule(task)`. -/
  | schedule
  /-- The controlling thread calls `start()`. -/
  | callStart
  /-- The controlling thread calls `stop()`. -/
  | callStop
  deriving DecidableEq, Repr

/-- The task a worker holds between popping it and running it. -/
def WorkerPc.held : WorkerPc → List Task
  | .run (some t) => [t]
  | _ => []

/-- Whether a `schedule()` call has pushed its task. -/
def ProducerPc.hasPushed : ProducerPc → Bool
  | .notify | .done => true
  | .lock | .push => false

/-- The places where a worker holds `queueMutex_`. -/
def WorkerPc.holdsLock : WorkerPc → Bool
  | .check | .wait | .testStop | .pop => true
  | .loop | .lock | .waiting | .run _ | .exited => false

/-- The place where a `schedule()` call holds `queueMutex_`. -/
def ProducerPc.holdsLock : ProducerPc → Bool
  | .push => true
  | .lock | .notify | .done => false

/-- How one step of thread `who`, from a place holding the mutex or not (`before`) to
    another (`after`), moves `queueMutex_` from owner `o` to `o'`: it leaves it alone,
    takes it while it is free, or releases it. -/
def LockMove (who : Holder) (before after : Bool) (o o' : Option Holder) : Prop :=
  (after = before ∧ o' = o) ∨
    (before = false ∧ after = true ∧ o = none ∧ o' = some who) ∨
    (before = true ∧ after = false ∧ o' = none)

/-- `hardware_concurrency() > 1 ? hardware_concurrency() : 1`. -/
def threadCount (hw : Nat) : Nat := if hw > 1 then hw else 1

namespace Scheduler

/-- The singleton before its first `start()`. -/
def init : Scheduler := ⟨false, [], none, [], [], [], .idle, [], [], []⟩

/-- Move worker `i` to `pc`. -/
@[simps]
def setWorker (s : Scheduler) (i : Nat) (pc : WorkerPc) : Scheduler :=
  { s with workers := s.workers.set i pc }

/-- Move `schedule()` call `j` to `pc`. -/
@[simps]
def setProducer (s : Scheduler) (j : Nat) (pc : ProducerPc) : Scheduler :=
  { s with producers := s.producers.set j pc }

/-- `notify_one()`: wake the named waiter, or nobody when nobody waits. -/
def notifyOne (s : Scheduler) : Option Nat → Option Scheduler
  | some w => if s.workers[w]? = some .waiting then some (s.setWorker w .lock) else none
  | none => if WorkerPc.waiting ∈ s.workers then none else some s

/-- `notify_all()`: every waiter goes back to re-acquiring the mutex. -/
def wakeAll (pc : WorkerPc) : WorkerPc := if pc = .waiting then .lock else pc

/-- One step of worker `i`, at `pc`. -/
def workerStep (s : Scheduler) (i : Nat) : WorkerPc → Option Scheduler
  | .loop => some (s.setWorker i (if s.running then .lock else .exited))
  | .lock =>
    if s.holder = none then some { s.setWorker i .check with holder := some (.worker i) } else none
  | .check => some (s.setWorker i (if !s.queue.isEmpty || !s.running then .testStop else .wait))
  | .wait => some { s.setWorker i .waiting with holder := none }
  | .waiting => none
  | .testStop =>
    if s.running then some (s.setWorker i .pop)
    else some { s.setWorker i .exited with holder := none }
  | .pop =>
    match s.queue with
    | t :: rest =>
      some { s.setWorker i (.run (some t)) with
        queue := rest, holder := none, dequeued := s.dequeued ++ [t] }
    | [] => some { s.setWorker i (.run none) with holder := none }
  | .run (some t) => some { s.setWorker i .loop with executed := s.executed ++ [t] }
  | .run none => some (s.setWorker i .loop)
  | .exited => none

/-- One step of `schedule()` call `j`. -/
def producerStep (s : Scheduler) (j : Nat) (wake : Option Nat) : ProducerPc → Option Scheduler
  | .lock =>
    if s.holder = none then some { s.setProducer j .push with holder := some (.producer j) }
    else none
  | .push =>
    some { s.setProducer j .notify with
      queue := s.queue ++ [j], pushed := s.pushed ++ [j], holder := none }
  | .notify => (s.setProducer j .done).notifyOne wake
  | .done => none

/-- The loop of `start()`: `threadCount` new workers, each at the top of `workerLoop`,
    appended to `workerThreads_`. -/
@[simps]
def spawnWorkers (hw : Nat) (s : Scheduler) : Scheduler :=
  { s with
    workers := s.workers ++ List.replicate (threadCount hw) .loop
    workerThreads := s.workerThreads ++ List.range' s.workers.length (threadCount hw) }

/-- One step of the controlling thread. -/
def controlStep (hw : Nat) (s : Scheduler) : ControlPc → Option Scheduler
  | .idle => none
  | .startLoad => some { s with control := if s.running then .idle else .startStore }
  | .startStore => some { s with running := true, control := .startSpawn }
  | .startSpawn => some { s.spawnWorkers hw with control := .idle }
  | .stopLoad => some { s with control := if s.running then .stopStore else .idle }
  | .stopStore => some { s with running := false, control := .stopNotify }
  | .stopNotify => some { s with workers := s.workers.map wakeAll, control := .stopJoin }
  | .stopJoin =>
    if s.workerThreads.all (fun i => s.workers[i]? == some .exited) then
      some { s with workerThreads := [], control := .idle }
    else none

/-- One step of the system; `none` when the thread cannot take it. -/
def step (hw : Nat) (s : Scheduler) : Label → Option Scheduler
  | .worker i =>
    match s.workers[i]? with
    | some pc => s.workerStep i pc
    | none => none
  | .producer j wake =>
    match s.producers[j]? with
    | some p => s.producerStep j wake p
    | none => none
  | .control => s.controlStep hw s.control
  | .schedule => some { s with producers := s.producers ++ [.lock] }
  | .callStart => if s.control = .idle then some { s with control := .startLoad } else none
  | .callStop => if s.control = .idle then some { s with control := .stopLoad } else none

/-- The states reachable from `init`. -/
inductive Reachable (hw : Nat) : Scheduler → Prop
  | init : Reachable hw init
  | step {s s' : Scheduler} {l : Label} :
      Reachable hw s → step hw s l = some s' → Reachable hw s'

/-- Take the steps of a trace in order. -/
def run (hw : Nat) : Scheduler → List Label → Option Scheduler
  | s, [] => some s
  | s, l :: ls =>
    match step hw s l with
    | some s' => run hw s' ls
    | none => none

/-- A trace from a reachable state ends in a reachable state. -/
theorem Reachable.run {hw : Nat} {s s' : Scheduler} {ls : List Label} (hs : Reachable hw s)
    (h : Scheduler.run hw s ls = some s') : Reachable hw s' := by
  induction ls generalizing s with
  | nil => simp only [Scheduler.run, Option.some.injEq] at h; exact h ▸ hs
  | cons l ls ih =>
    simp only [Scheduler.run] at h
    split at h
    · exact ih (hs.step ‹_›) h
    · cases h

/-! ## §2 What each thread's step can do -/

/-- The tasks the workers hold between pop and run. -/
def inHand (s : Scheduler) : List Task := s.workers.flatMap WorkerPc.held

variable {hw : Nat} {s s' : Scheduler}

/-- A worker step is a step of a worker that exists. -/
theorem step_worker {i : Nat} (h : step hw s (.worker i) = some s') :
    ∃ pc, s.workers[i]? = some pc ∧ s.workerStep i pc = some s' := by
  simp only [step] at h
  split at h
  · exact ⟨_, ‹_›, h⟩
  · cases h

/-- A producer step is a step of a `schedule()` call that exists. -/
theorem step_producer {j : Nat} {wake : Option Nat} (h : step hw s (.producer j wake) = some s') :
    ∃ pc, s.producers[j]? = some pc ∧ s.producerStep j wake pc = some s' := by
  simp only [step] at h
  split at h
  · exact ⟨_, ‹_›, h⟩
  · cases h

/-- What a worker step can do. It moves that worker only, away from a place other than
    `exited`, taking or releasing the mutex as its places say; it pops the front of the
    queue into the worker's hand, or runs the task in hand, or leaves the queue and the
    logs alone. -/
theorem workerStep_cases {i : Nat} {pc : WorkerPc} (h : s.workerStep i pc = some s') :
    pc ≠ .exited ∧ s'.running = s.running ∧ s'.control = s.control ∧
    s'.producers = s.producers ∧ s'.workerThreads = s.workerThreads ∧ s'.pushed = s.pushed ∧
    ∃ pc', s'.workers = s.workers.set i pc' ∧
      LockMove (.worker i) pc.holdsLock pc'.holdsLock s.holder s'.holder ∧
      ((s'.queue = s.queue ∧ s'.dequeued = s.dequeued ∧ s'.executed = s.executed ∧
          pc'.held = pc.held) ∨
        (∃ t, s.queue = t :: s'.queue ∧ s'.dequeued = s.dequeued ++ [t] ∧
          s'.executed = s.executed ∧ pc.held = [] ∧ pc'.held = [t]) ∨
        (∃ t, s'.queue = s.queue ∧ s'.dequeued = s.dequeued ∧
          s'.executed = s.executed ++ [t] ∧ pc.held = [t] ∧ pc'.held = [])) := by
  have keep : ∀ {a b : Bool} {o : Option Holder}, b = a → LockMove (.worker i) a b o o :=
    fun h => .inl ⟨h, rfl⟩
  cases pc with
  | loop =>
    cases h
    exact ⟨nofun, rfl, rfl, rfl, rfl, rfl, _, rfl, keep (by split <;> rfl),
      .inl ⟨rfl, rfl, rfl, by split <;> rfl⟩⟩
  | lock =>
    simp only [workerStep] at h
    split at h
    · cases h
      exact ⟨nofun, rfl, rfl, rfl, rfl, rfl, _, rfl, .inr (.inl ⟨rfl, rfl, ‹_›, rfl⟩),
        .inl ⟨rfl, rfl, rfl, rfl⟩⟩
    · cases h
  | check =>
    cases h
    exact ⟨nofun, rfl, rfl, rfl, rfl, rfl, _, rfl, keep (by split <;> rfl),
      .inl ⟨rfl, rfl, rfl, by split <;> rfl⟩⟩
  | wait =>
    cases h
    exact ⟨nofun, rfl, rfl, rfl, rfl, rfl, _, rfl, .inr (.inr ⟨rfl, rfl, rfl⟩),
      .inl ⟨rfl, rfl, rfl, rfl⟩⟩
  | waiting => cases h
  | testStop =>
    simp only [workerStep] at h
    split at h <;> cases h
    · exact ⟨nofun, rfl, rfl, rfl, rfl, rfl, _, rfl, keep rfl, .inl ⟨rfl, rfl, rfl, rfl⟩⟩
    · exact ⟨nofun, rfl, rfl, rfl, rfl, rfl, _, rfl, .inr (.inr ⟨rfl, rfl, rfl⟩),
        .inl ⟨rfl, rfl, rfl, rfl⟩⟩
  | pop =>
    simp only [workerStep] at h
    split at h <;> cases h
    · exact ⟨nofun, rfl, rfl, rfl, rfl, rfl, _, rfl, .inr (.inr ⟨rfl, rfl, rfl⟩),
        .inr (.inl ⟨_, ‹_›, rfl, rfl, rfl, rfl⟩)⟩
    · exact ⟨nofun, rfl, rfl, rfl, rfl, rfl, _, rfl, .inr (.inr ⟨rfl, rfl, rfl⟩),
        .inl ⟨rfl, rfl, rfl, rfl⟩⟩
  | run t =>
    cases t <;> cases h
    · exact ⟨nofun, rfl, rfl, rfl, rfl, rfl, _, rfl, keep rfl, .inl ⟨rfl, rfl, rfl, rfl⟩⟩
    · exact ⟨nofun, rfl, rfl, rfl, rfl, rfl, _, rfl, keep rfl,
        .inr (.inr ⟨_, rfl, rfl, rfl, rfl, rfl⟩)⟩
  | exited => cases h

/-- `notify_one()` either finds nobody waiting or moves one waiter back to `lock`. -/
theorem notifyOne_cases {wake : Option Nat} (h : s.notifyOne wake = some s') :
    s' = s ∨ ∃ w, s.workers[w]? = some .waiting ∧ s' = s.setWorker w .lock := by
  cases wake with
  | none => simp only [notifyOne] at h; split at h <;> cases h; exact .inl rfl
  | some w => simp only [notifyOne] at h; split at h <;> cases h; exact .inr ⟨w, ‹_›, rfl⟩

/-- What a step of `schedule()` call `j` can do. It moves that call only; its `push` appends
    task `j` to the queue and to `pushed`, and its `notify_one` may wake one waiter. -/
theorem producerStep_cases {j : Nat} {wake : Option Nat} {pc : ProducerPc}
    (h : s.producerStep j wake pc = some s') :
    s'.running = s.running ∧ s'.control = s.control ∧ s'.workerThreads = s.workerThreads ∧
    s'.dequeued = s.dequeued ∧ s'.executed = s.executed ∧
    ∃ pc', s'.producers = s.producers.set j pc' ∧
      LockMove (.producer j) pc.holdsLock pc'.holdsLock s.holder s'.holder ∧
      ((pc = .push ∧ pc' = .notify ∧ s'.queue = s.queue ++ [j] ∧
          s'.pushed = s.pushed ++ [j] ∧ s'.workers = s.workers) ∨
        (pc'.hasPushed = pc.hasPushed ∧ s'.queue = s.queue ∧ s'.pushed = s.pushed ∧
          (s'.workers = s.workers ∨
            ∃ w, s.workers[w]? = some .waiting ∧ s'.workers = s.workers.set w .lock))) := by
  cases pc with
  | lock =>
    simp only [producerStep] at h
    split at h
    · cases h
      exact ⟨rfl, rfl, rfl, rfl, rfl, _, rfl, .inr (.inl ⟨rfl, rfl, ‹_›, rfl⟩),
        .inr ⟨rfl, rfl, rfl, .inl rfl⟩⟩
    · cases h
  | push =>
    cases h
    exact ⟨rfl, rfl, rfl, rfl, rfl, _, rfl, .inr (.inr ⟨rfl, rfl, rfl⟩),
      .inl ⟨rfl, rfl, rfl, rfl, rfl⟩⟩
  | notify =>
    rcases notifyOne_cases h with rfl | ⟨w, hw, rfl⟩
    · exact ⟨rfl, rfl, rfl, rfl, rfl, _, rfl, .inl ⟨rfl, rfl⟩,
        .inr ⟨rfl, rfl, rfl, .inl rfl⟩⟩
    · exact ⟨rfl, rfl, rfl, rfl, rfl, _, rfl, .inl ⟨rfl, rfl⟩,
        .inr ⟨rfl, rfl, rfl, .inr ⟨w, hw, rfl⟩⟩⟩
  | done => cases h

/-! ## §3 A stop that waits forever -/

/-- Worker `k` of the current pool is in the wait set, `stop()` is at its join, and no
    `schedule()` call exists that could notify. -/
structure JoinBlocked (k : Nat) (s : Scheduler) : Prop where
  control_eq : s.control = .stopJoin
  producers_eq : s.producers = []
  waiting : s.workers[k]? = some .waiting
  mem_pool : k ∈ s.workerThreads

/-- The join waits for worker `k`, which is in the wait set. -/
theorem JoinBlocked.controlStep_eq {k : Nat} (hb : JoinBlocked k s) :
    s.controlStep hw s.control = none := by
  have : s.workerThreads.all (fun i => s.workers[i]? == some .exited) = false := by
    rw [List.all_eq_false]; exact ⟨k, hb.mem_pool, by simp [hb.waiting]⟩
  simp [hb.control_eq, controlStep, this]

/-- Without a new `schedule()` call, a blocked join stays blocked: no other step can wake
    worker `k` or end `stop()`. -/
theorem JoinBlocked.step {k : Nat} {l : Label} (hb : JoinBlocked k s) (hl : l ≠ .schedule)
    (h : Scheduler.step hw s l = some s') : JoinBlocked k s' := by
  cases l with
  | worker i =>
    obtain ⟨pc, hpc, hs⟩ := step_worker h
    obtain ⟨-, -, hc, hp, hwt, -, pc', hws, -, -⟩ := workerStep_cases hs
    have hik : i ≠ k := by rintro rfl; rw [hb.waiting] at hpc; cases hpc; cases hs
    exact ⟨hc ▸ hb.control_eq, hp ▸ hb.producers_eq,
      by rw [hws, List.getElem?_set_ne hik]; exact hb.waiting, hwt ▸ hb.mem_pool⟩
  | producer j wake => simp [Scheduler.step, hb.producers_eq] at h
  | control => simp [Scheduler.step, hb.controlStep_eq] at h
  | schedule => exact absurd rfl hl
  | callStart | callStop => simp [Scheduler.step, hb.control_eq] at h

/-- A run without `schedule()` calls keeps a blocked join blocked. -/
theorem JoinBlocked.run {k : Nat} {ls : List Label} (hb : JoinBlocked k s)
    (hl : ∀ l ∈ ls, l ≠ .schedule) (h : Scheduler.run hw s ls = some s') :
    JoinBlocked k s' := by
  induction ls generalizing s with
  | nil => simp only [Scheduler.run, Option.some.injEq] at h; exact h ▸ hb
  | cons l ls ih =>
    simp only [Scheduler.run] at h
    split at h
    · exact ih (hb.step (hl l (.head _)) ‹_›) (fun l' hl' => hl l' (.tail _ hl')) h
    · cases h

/-- The pool size is at least one. -/
theorem threadCount_pos (hw : Nat) : 0 < threadCount hw := by
  unfold threadCount; split <;> omega

/-- The lost wakeup. With any number of hardware threads, worker 0 evaluates the
    predicate under the mutex and finds it false; `stop()` then stores
    `running_ = false` without the mutex and notifies an empty wait set, and the worker
    joins the wait set afterwards. `stop()` has notified, `running_` is false, a worker
    waits, and no step but a new `schedule()` call can ever wake it or end the join. -/
theorem stop_loses_wakeup (hw : Nat) :
    ∃ s, Reachable hw s ∧ s.control = .stopJoin ∧ s.running = false ∧
      s.workers[0]? = some .waiting ∧
      ∀ ls s', (∀ l ∈ ls, l ≠ .schedule) → Scheduler.run hw s ls = some s' →
        s'.control = .stopJoin ∧ s'.workers[0]? = some .waiting := by
  obtain ⟨n, hn⟩ : ∃ n, threadCount hw = n + 1 :=
    ⟨_, (Nat.succ_pred_eq_of_pos (threadCount_pos hw)).symm⟩
  have hrun : Scheduler.run hw init [.callStart, .control, .control, .control,
      .worker 0, .worker 0, .worker 0, .callStop, .control, .control, .control, .worker 0] =
      some ⟨false, [], none, .waiting :: List.replicate n .loop, List.range' 0 (n + 1), [],
        .stopJoin, [], [], []⟩ := by
    simp [Scheduler.run, step, controlStep, workerStep, init, hn, List.replicate_succ, wakeAll]
  have hb : JoinBlocked 0 ⟨false, [], none, .waiting :: List.replicate n .loop,
      List.range' 0 (n + 1), [], .stopJoin, [], [], []⟩ := ⟨rfl, rfl, by simp, by simp⟩
  refine ⟨_, Reachable.init.run hrun, hb.control_eq, rfl, hb.waiting, fun ls s' hl h => ?_⟩
  exact ⟨(hb.run hl h).control_eq, (hb.run hl h).waiting⟩

end Scheduler

end Icelander.Async
