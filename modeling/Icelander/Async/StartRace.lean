import Icelander.Async.Scheduler

/-!
# Concurrent Starts

`TaskScheduler::start()` (`src/src/async.cpp`) and `Host::startServiceThread()`
(`src/src/host.cpp`) share one shape over an atomic flag:

    if (flag) return;
    flag = true;
    <spawn>

The load and the store are separate atomic steps, so calls on several threads
interleave between them. `StartMethod` is that shape, given a flag, its store
and a spawn; each of the two methods is it applied to its own members.

* `StartMethod.race_spawns_twice`: two calls that both load before either stores
  both spawn, whatever the method.
* `start_step_eq_controlStep`: a lone call of `TaskScheduler.start` is the
  scheduler model's controlling thread inside `start()`.
* `sequential_starts_spawn_once`: calls one after the other spawn once.
* `concurrent_starts_spawn_twice`: for the scheduler, two pools of
  `threadCount` workers; for the host, a second `std::thread` assigned over a
  joinable one, which is `std::terminate`.
-/

namespace Icelander.Async

/-- Where one call of a start method is. -/
inductive StartPc
  /-- `if (flag) return;`. -/
  | load
  /-- `flag = true;`. -/
  | store
  /-- The spawn. -/
  | spawn
  /-- Returned. -/
  | returned
  deriving DecidableEq, Repr

/-- Concurrent calls of one start method over shared state `σ`. -/
structure StartCalls (σ : Type) where
  shared : σ
  calls : List StartPc
  deriving DecidableEq, Repr

/-- A check-then-set start: how it reads its flag, how it stores `true`, and what it spawns. -/
structure StartMethod (σ : Type) where
  flag : σ → Bool
  raise : σ → σ
  spawn : σ → σ

namespace StartMethod

variable {σ : Type} (m : StartMethod σ)

/-- One step of call `i`. -/
def step (c : StartCalls σ) (i : Nat) : Option (StartCalls σ) :=
  match c.calls[i]? with
  | some .load => some ⟨c.shared, c.calls.set i (if m.flag c.shared then .returned else .store)⟩
  | some .store => some ⟨m.raise c.shared, c.calls.set i .spawn⟩
  | some .spawn => some ⟨m.spawn c.shared, c.calls.set i .returned⟩
  | _ => none

/-- Take the steps of the calls a schedule names, in order. -/
def run : StartCalls σ → List Nat → Option (StartCalls σ)
  | c, [] => some c
  | c, i :: is =>
    match m.step c i with
    | some c' => run c' is
    | none => none

/-- Two calls on a cleared flag, each loading before either stores: both spawn. -/
theorem race_spawns_twice (s : σ) (h : m.flag s = false) :
    m.run ⟨s, [.load, .load]⟩ [0, 1, 0, 1, 0, 1] =
      some ⟨m.spawn (m.spawn (m.raise (m.raise s))), [.returned, .returned]⟩ := by
  simp [run, step, h]

/-- Two calls one after the other on a cleared flag: only the first spawns, provided its
    spawn leaves the flag set. -/
theorem sequential_spawns_once (s : σ) (h : m.flag s = false)
    (hr : m.flag (m.spawn (m.raise s)) = true) :
    m.run ⟨s, [.load, .load]⟩ [0, 0, 0, 1] =
      some ⟨m.spawn (m.raise s), [.returned, .returned]⟩ := by
  simp [run, step, h, hr]

end StartMethod

/-- `TaskScheduler::start()` over the scheduler: `running_`, and the loop spawning
    `threadCount` workers into `workerThreads_`. -/
def TaskScheduler.start (hw : Nat) : StartMethod Scheduler :=
  ⟨Scheduler.running, fun s => { s with running := true }, Scheduler.spawnWorkers hw⟩

/-- Where the scheduler's controlling thread is, for a call of `start()` at `pc`. -/
def StartPc.toControl : StartPc → ControlPc
  | .load => .startLoad
  | .store => .startStore
  | .spawn => .startSpawn
  | .returned => .idle

/-- A lone call of `TaskScheduler.start` takes the steps the scheduler model gives its
    controlling thread inside `start()`. -/
theorem start_step_eq_controlStep (hw : Nat) (s : Scheduler) {pc : StartPc}
    (hpc : pc ≠ .returned) :
    ((TaskScheduler.start hw).step ⟨s, [pc]⟩ 0).map
        (fun c => { c.shared with control := (c.calls.headD .returned).toControl }) =
      Scheduler.controlStep hw { s with control := pc.toControl } pc.toControl := by
  cases pc with
  | load => cases h : s.running <;> simp [StartMethod.step, TaskScheduler.start,
      Scheduler.controlStep, StartPc.toControl, h]
  | store => rfl
  | spawn => rfl
  | returned => exact absurd rfl hpc

/-- The members of `Host` that `startServiceThread()` touches. -/
structure ServiceThreadSlot where
  /-- `serviceThreadRunning_`. -/
  serviceThreadRunning : Bool
  /-- `serviceThread_`: the thread it owns, by number; none of them is ever joined here. -/
  serviceThread : Option Nat
  /-- Threads spawned so far. -/
  spawned : Nat
  /-- A joinable `std::thread` was destroyed: `std::terminate`. -/
  terminated : Bool
  deriving DecidableEq, Repr

/-- `serviceThread_ = std::make_unique<std::thread>(...)`: a new thread starts, and the
    thread `serviceThread_` owned before, still joinable, is destroyed. -/
def ServiceThreadSlot.assign (s : ServiceThreadSlot) : ServiceThreadSlot :=
  { s with
    serviceThread := some s.spawned
    spawned := s.spawned + 1
    terminated := s.terminated || s.serviceThread.isSome }

/-- `Host::startServiceThread()`. -/
def Host.startServiceThread : StartMethod ServiceThreadSlot :=
  ⟨ServiceThreadSlot.serviceThreadRunning, fun s => { s with serviceThreadRunning := true },
    ServiceThreadSlot.assign⟩

/-- `start(); start();` on one thread of a stopped scheduler spawns one pool of
    `threadCount` workers. -/
theorem sequential_starts_spawn_once (hw : Nat) (s : Scheduler) (hs : s.running = false) :
    (TaskScheduler.start hw).run ⟨s, [.load, .load]⟩ [0, 0, 0, 1] =
      some ⟨Scheduler.spawnWorkers hw { s with running := true }, [.returned, .returned]⟩ :=
  StartMethod.sequential_spawns_once _ _ hs rfl

/-- Two concurrent starts, each loading the flag before either stores it. The scheduler,
    on any machine, ends with two pools of `threadCount` workers in `workerThreads_`; a
    fresh host assigns a second service thread over the first, still joinable. -/
theorem concurrent_starts_spawn_twice (hw : Nat) :
    (∃ c, (TaskScheduler.start hw).run ⟨Scheduler.init, [.load, .load]⟩ [0, 1, 0, 1, 0, 1] =
        some c ∧ c.calls = [.returned, .returned] ∧
        c.shared.workers = List.replicate (2 * threadCount hw) .loop ∧
        c.shared.workerThreads =
          List.range' 0 (threadCount hw) ++ List.range' (threadCount hw) (threadCount hw)) ∧
    (∃ c, Host.startServiceThread.run ⟨⟨false, none, 0, false⟩, [.load, .load]⟩
        [0, 1, 0, 1, 0, 1] = some c ∧
        c.calls = [.returned, .returned] ∧ c.shared.spawned = 2 ∧ c.shared.terminated = true) := by
  refine ⟨⟨_, StartMethod.race_spawns_twice _ _ rfl, rfl, ?_, ?_⟩,
    ⟨_, StartMethod.race_spawns_twice _ _ rfl, rfl, rfl, rfl⟩⟩
  · simp [TaskScheduler.start, Scheduler.init, two_mul]
  · simp [TaskScheduler.start, Scheduler.init]

end Icelander.Async
