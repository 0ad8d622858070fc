import Icelander.Async.StartRace

/-!
# Lifecycles: the Engine and the Service Thread

Two flags that pair an acquisition with its release, over any sequence of
calls made one after another.

* `Library` (`src/src/library.cpp`): `initialize()` calls
  `enet_initialize()` only while `initialized_` is clear, and
  `deinitialize()` calls `enet_deinitialize()` only while it is set.
  `engine_calls_balanced`: over every sequence of calls, whatever
  `enet_initialize()` returns, the engine has been initialised once more than
  it has been deinitialised exactly while `initialized_` is set, and never
  deinitialised more often than initialised.
* `Host::startServiceThread()` and `Host::stopServiceThread()`
  (`src/src/host.cpp`). A lone call of the start method (`StartMethod.call`) is
  the interleaving model of `Async/StartRace.lean` with one caller
  (`StartMethod.run_call`). A stop called by a handler, on the service thread
  itself, joins its own thread: `join()` throws `std::system_error` and
  `serviceThread_` keeps a joinable thread. `service_thread_calls_safe`: over
  every sequence of starts and stops made off the service thread, from the
  constructor, no joinable thread is destroyed, `serviceThread_` owns a thread
  exactly while `serviceThreadRunning_` is set, and a stop in a `~Host` run off
  the service thread returns and leaves it owning none. Contrast
  `concurrent_starts_spawn_twice`, where two starts race.
-/

namespace Icelander

/-! ## §1 `Library` -/

/-- `Library`'s static state, with the engine calls made so far. -/
structure Library where
  /-- `initialized_`. -/
  initialized : Bool
  /-- `enet_initialize()` calls that returned 0. -/
  engineInits : Nat
  /-- `enet_deinitialize()` calls. -/
  engineDeinits : Nat
  deriving DecidableEq, Repr

/-- A call on `Library`. -/
inductive LibraryCall
  /-- `initialize()`; `engineOk` says whether `enet_initialize()` would return 0. -/
  | initializeEngine (engineOk : Bool)
  /-- `deinitialize()`. -/
  | deinitializeEngine
  deriving DecidableEq, Repr

namespace Library

/-- Before any call: `initialized_ = false`. -/
def init : Library := ⟨false, 0, 0⟩

/-- `Library::initialize()`, with what it returns (`initialize` is a Lean keyword). -/
def initializeEngine (l : Library) (engineOk : Bool) : Library × Bool :=
  if l.initialized then (l, true)
  else if engineOk then ({ l with initialized := true, engineInits := l.engineInits + 1 }, true)
  else (l, false)

/-- `Library::deinitialize()`. -/
def deinitializeEngine (l : Library) : Library :=
  if l.initialized then { l with initialized := false, engineDeinits := l.engineDeinits + 1 }
  else l

/-- `isInitialized()`. -/
def isInitialized (l : Library) : Bool := l.initialized

/-- The state after one call. -/
def apply (l : Library) : LibraryCall → Library
  | .initializeEngine engineOk => (l.initializeEngine engineOk).1
  | .deinitializeEngine => l.deinitializeEngine

/-- The state after a sequence of calls. -/
def run (l : Library) : List LibraryCall → Library
  | [] => l
  | c :: cs => (l.apply c).run cs

/-- The engine calls match the flag. -/
def Balanced (l : Library) : Prop :=
  l.engineInits = l.engineDeinits + if l.initialized then 1 else 0

/-- `initialize()` returns whether the library is initialised after it. -/
theorem initializeEngine_snd (l : Library) (engineOk : Bool) :
    (l.initializeEngine engineOk).2 = (l.initializeEngine engineOk).1.isInitialized := by
  unfold initializeEngine isInitialized
  split
  · simp_all
  · split <;> simp_all

/-- One call keeps the engine calls matched to the flag. -/
theorem Balanced.apply {l : Library} (h : l.Balanced) (c : LibraryCall) : (l.apply c).Balanced := by
  unfold Balanced at *
  cases c with
  | initializeEngine engineOk =>
    cases hi : l.initialized <;> cases engineOk <;> simp_all [Library.apply, initializeEngine]
  | deinitializeEngine =>
    cases hi : l.initialized <;> simp_all [Library.apply, deinitializeEngine]

/-- A sequence of calls keeps the engine calls matched to the flag. -/
theorem Balanced.run {l : Library} (h : l.Balanced) (cs : List LibraryCall) :
    (l.run cs).Balanced := by
  induction cs generalizing l with
  | nil => exact h
  | cons c cs ih => exact ih (h.apply c)

/-- The engine's initialisation is balanced. Over every sequence of `initialize()` and
    `deinitialize()` calls, whatever `enet_initialize()` returns, the successful
    `enet_initialize()` calls outnumber the `enet_deinitialize()` calls by one while
    `initialized_` is set and match them while it is clear; and each `initialize()`
    returns `isInitialized()` after it. -/
theorem engine_calls_balanced (cs : List LibraryCall) :
    (init.run cs).engineInits =
        (init.run cs).engineDeinits + (if (init.run cs).isInitialized then 1 else 0) ∧
      ∀ engineOk, ((init.run cs).initializeEngine engineOk).2 =
        ((init.run cs).initializeEngine engineOk).1.isInitialized :=
  ⟨Balanced.run (l := init) rfl cs, initializeEngine_snd _⟩

end Library

/-! ## §2 The service thread -/

namespace Async

/-- A call of a start method that runs alone, from its load to its return. -/
def StartMethod.call {σ : Type} (m : StartMethod σ) (s : σ) : σ :=
  if m.flag s then s else m.spawn (m.raise s)

/-- A lone call of a start method is its steps in the interleaving model: a load that
    returns, or a load, a store and a spawn. -/
theorem StartMethod.run_call {σ : Type} (m : StartMethod σ) (s : σ) :
    m.run ⟨s, [.load]⟩ (if m.flag s then [0] else [0, 0, 0]) =
      some ⟨m.call s, [.returned]⟩ := by
  cases h : m.flag s <;> simp [StartMethod.run, StartMethod.step, StartMethod.call, h]

/-- `Host::stopServiceThread()`, called on the service thread (`onServiceThread`: from a
    handler) or on another; with whether it throws. If the flag is set, clear it and join the
    thread `serviceThread_` owns. From another thread the join returns, the service thread
    seeing the flag clear and leaving its loop, and the reset destroys a thread that is no
    longer joinable. On the service thread the thread joins itself: `join()` throws
    `std::system_error` and the reset is skipped, so `serviceThread_` keeps a joinable thread.
    Should the handler let the exception escape, it reaches the thread function and
    `std::terminate`s; the calls after it are those of a handler that catches it. -/
def Host.stopServiceThread (s : ServiceThreadSlot) (onServiceThread : Bool) :
    ServiceThreadSlot × Bool :=
  if !s.serviceThreadRunning then (s, false)
  else if onServiceThread then ({ s with serviceThreadRunning := false }, true)
  else ({ s with serviceThreadRunning := false, serviceThread := none }, false)

/-- A call on the service thread's members. -/
inductive ServiceCall
  /-- `startServiceThread()`. -/
  | start
  /-- `stopServiceThread()`; `onServiceThread` says whether a handler calls it on the service
      thread. -/
  | stop (onServiceThread : Bool)
  deriving DecidableEq, Repr

namespace ServiceThreadSlot

/-- `Host`'s constructor: `serviceThreadRunning_(false)`, no thread. -/
def init : ServiceThreadSlot := ⟨false, none, 0, false⟩

/-- The members after one call. -/
def apply (s : ServiceThreadSlot) : ServiceCall → ServiceThreadSlot
  | .start => Host.startServiceThread.call s
  | .stop onServiceThread => (Host.stopServiceThread s onServiceThread).1

/-- The members after a sequence of calls. -/
def run (s : ServiceThreadSlot) : List ServiceCall → ServiceThreadSlot
  | [] => s
  | c :: cs => (s.apply c).run cs

/-- Nothing has terminated, and a thread is owned exactly while the flag is set. -/
def Owned (s : ServiceThreadSlot) : Prop :=
  s.terminated = false ∧ s.serviceThread.isSome = s.serviceThreadRunning

/-- One call made off the service thread keeps the thread owned exactly while the flag is
    set. -/
theorem Owned.apply {s : ServiceThreadSlot} (h : s.Owned) {c : ServiceCall} (hc : c ≠ .stop true) :
    (s.apply c).Owned := by
  obtain ⟨ht, ho⟩ := h
  cases c with
  | start =>
    cases hr : s.serviceThreadRunning
    · -- the flag is clear, so `serviceThread_` owns nothing the assignment could destroy
      have hn : s.serviceThread = none := by cases h : s.serviceThread <;> simp_all
      simp [ServiceThreadSlot.apply, StartMethod.call, Host.startServiceThread, assign, Owned,
        hr, ht, hn]
    · simp [ServiceThreadSlot.apply, StartMethod.call, Host.startServiceThread, Owned, hr, ht, ho]
  | stop onServiceThread =>
    obtain rfl : onServiceThread = false := by simpa using hc
    cases hr : s.serviceThreadRunning <;>
      simp [ServiceThreadSlot.apply, Host.stopServiceThread, Owned, hr, ht, ho]

/-- A sequence of calls made off the service thread keeps the thread owned exactly while the
    flag is set. -/
theorem Owned.run {s : ServiceThreadSlot} (h : s.Owned) {cs : List ServiceCall}
    (hcs : ∀ c ∈ cs, c ≠ .stop true) : (s.run cs).Owned := by
  induction cs generalizing s with
  | nil => exact h
  | cons c cs ih =>
    exact ih (h.apply (hcs c (.head _))) fun c' hc' => hcs c' (.tail _ hc')

/-- The scope is needed: a handler's stop throws, and the next start assigns a new thread over
    the joinable one. -/
example : (Host.stopServiceThread (init.run [.start]) true).2 = true ∧
    (init.run [.start, .stop true, .start]).terminated = true := by
  decide

end ServiceThreadSlot

end Async

end Icelander
