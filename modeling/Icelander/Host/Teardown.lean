import Mathlib

/-!
# Host Teardown with a Running Service Thread

`Host` (`src/src/host.cpp`) is owned through `std::shared_ptr`; its destructor
runs on whichever thread drops the last strong reference. With the service
thread started, two threads hold or take references:

* the application holds one reference and at some point releases it;
* the service thread runs `serviceThreadLoop`: while `serviceThreadRunning_`,
  call `service`, which hands each engine event to `processEvent`. On a Connect
  event, `processEvent` takes a temporary strong reference with
  `shared_from_this()`, passes it by value to `Peer`'s constructor (which keeps
  only a weak one), and drops it at the end of that statement. On a Receive or
  Disconnect event, a handler that calls `peer->hostHandle()` gets a strong
  reference from `host_.lock()`, or an empty pointer once the count is zero, and
  drops it when it returns.

`~Host` calls `stopServiceThread()`: if `serviceThreadRunning_`, store false and
join `serviceThread_`. Two ways the teardown fails:

* the service thread's temporary, or a handler's, is the last reference:
  `~Host` runs on the service thread and joins that very thread (`std::system_error` out of a
  `noexcept` destructor: `std::terminate`);
* the application's release was the last, and the service thread then calls
  `shared_from_this()` on a `Host` whose strong count is zero
  (`std::bad_weak_ptr`, out of the thread function: `std::terminate`).

* `Teardown.step`: one step of one thread; `Teardown.run`: a trace of steps.
* `connect_teardown_fails`: a run for each failure.
* `Calm`: what every run keeps while no event's processing takes a reference to
  the `Host`; `Calm.step` and `Calm.run` carry it along a run.
* `teardown_safe_without_host_references`: over such runs nothing fails,
  `~Host` runs on the application thread and finishes only after the service
  thread exited, and no state where no such step is possible is short of that.
-/

namespace Icelander

/-- Where the service thread is. -/
inductive ServicePc
  /-- `while (serviceThreadRunning_)`. -/
  | loop
  /-- In `service()`: the engine reports the next event. -/
  | service
  /-- `processEvent`, Connect: `shared_from_this()`. -/
  | takeRef
  /-- The temporary `shared_ptr<Host>` given to `Peer`'s constructor is destroyed. -/
  | dropRef
  /-- The rest of the Connect case: registration and dispatch. -/
  | dispatch
  /-- A Receive or Disconnect handler calls `peer->hostHandle()`: `host_.lock()`. -/
  | lock
  /-- That handler returns, and the `shared_ptr<Host>` it got is destroyed. -/
  | unlock
  /-- Running `~Host`, started by its own `dropRef`. -/
  | inDtor
  /-- Returned from `serviceThreadLoop`. -/
  | exited
  deriving DecidableEq, Repr

/-- Where `~Host` is, on the thread that runs it. -/
inductive DtorPc
  /-- `stopServiceThread()`: `if (!serviceThreadRunning_) return;`. -/
  | load
  /-- `serviceThreadRunning_ = false;`. -/
  | store
  /-- `serviceThread_->join();`. -/
  | join
  /-- `enet_host_destroy` and the members' destructors have run. -/
  | done
  deriving DecidableEq, Repr

/-- The thread running `~Host`. -/
inductive Runner
  | app
  | service
  deriving DecidableEq, Repr

/-- How the program ends early. -/
inductive Failure
  /-- `~Host` on the service thread joins the service thread. -/
  | selfJoin
  /-- `shared_from_this()` on a `Host` whose strong count is zero. -/
  | badWeakPtr
  deriving DecidableEq, Repr

/-- The host's reference count, its flag, and the two threads. -/
structure Teardown where
  /-- Strong references to the `Host`. -/
  strong : Nat
  /-- `serviceThreadRunning_`. -/
  running : Bool
  /-- Whether the application still holds its reference. -/
  appHolds : Bool
  /-- The service thread. -/
  service : ServicePc
  /-- `~Host`, once started, and the thread running it. -/
  dtor : Option (Runner × DtorPc)
  /-- Set when the program terminates. -/
  failure : Option Failure
  deriving DecidableEq, Repr

/-- What the engine reports when the service thread is in `service()`, by what processing it
    does to the `Host`'s reference count. -/
inductive ServiceEvent
  /-- A Connect event: `processEvent` calls `shared_from_this()`. -/
  | connect
  /-- A Receive or Disconnect event one of whose handlers calls `peer->hostHandle()`. -/
  | hostHandle
  /-- Any other event, or none: the reference count is left alone. -/
  | other
  deriving DecidableEq, Repr

/-- A step, by the thread taking it. -/
inductive TeardownLabel
  /-- The application releases its reference. -/
  | release
  /-- The service thread steps; in `service()`, `connect` says whether the engine
      reports a Connect event, or an event whose handlers take no `Host` reference. -/
  | service (connect : Bool)
  /-- The service thread steps; in `service()`, the engine reports a Receive or Disconnect
      event one of whose handlers calls `peer->hostHandle()`. -/
  | hostHandle
  /-- The thread running `~Host` steps. -/
  | dtor
  deriving DecidableEq, Repr

/-- Whether the step can take a reference to the `Host` on the service thread. -/
def TeardownLabel.TakesHost : TeardownLabel → Bool
  | .service connect => connect
  | .hostHandle => true
  | .release | .dtor => false

namespace Teardown

/-- Just after `startServiceThread()`: the application holds the only reference. -/
def init : Teardown := ⟨1, true, true, .loop, none, none⟩

/-- Drop one strong reference on thread `r`; the last one starts `~Host` there. -/
def dropStrong (t : Teardown) (r : Runner) : Teardown :=
  if t.strong = 1 then { t with strong := 0, dtor := some (r, .load) }
  else { t with strong := t.strong - 1 }

/-- The service thread destroys a `shared_ptr<Host>` it holds and goes on at `next`; when it
    was the last, `~Host` runs there first. -/
def releaseOnService (t : Teardown) (next : ServicePc) : Teardown :=
  let t' := t.dropStrong .service
  { t' with service := if t'.dtor = some (.service, .load) then .inDtor else next }

/-- One step of the service thread. -/
def serviceStep (t : Teardown) (event : ServiceEvent) : ServicePc → Option Teardown
  | .loop => some { t with service := if t.running then .service else .exited }
  | .service =>
    some { t with
      service := match event with
        | .connect => .takeRef
        | .hostHandle => .lock
        | .other => .loop }
  | .takeRef =>
    if t.strong = 0 then some { t with failure := some .badWeakPtr }
    else some { t with strong := t.strong + 1, service := .dropRef }
  | .dropRef => some (t.releaseOnService .dispatch)
  | .dispatch => some { t with service := .loop }
  | .lock =>
    -- `lock()` on an expired `host_` gives an empty pointer, and nothing is held
    if t.strong = 0 then some { t with service := .loop }
    else some { t with strong := t.strong + 1, service := .unlock }
  | .unlock => some (t.releaseOnService .loop)
  | .inDtor | .exited => none

/-- One step of `~Host` on thread `r`. -/
def dtorStep (t : Teardown) (r : Runner) : DtorPc → Option Teardown
  | .load => some { t with dtor := some (r, if t.running then .store else .done) }
  | .store => some { t with running := false, dtor := some (r, .join) }
  | .join =>
    match r with
    | .service => some { t with failure := some .selfJoin }
    | .app => if t.service = .exited then some { t with dtor := some (r, .done) } else none
  | .done => none

/-- One step; `none` when the thread cannot take it, or the program has terminated. -/
def step (t : Teardown) : TeardownLabel → Option Teardown
  | l =>
    if t.failure.isSome then none else
    match l with
    | .release => if t.appHolds then some { t.dropStrong .app with appHolds := false } else none
    | .service connect => t.serviceStep (if connect then .connect else .other) t.service
    | .hostHandle => t.serviceStep .hostHandle t.service
    | .dtor =>
      match t.dtor with
      | some (r, pc) => t.dtorStep r pc
      | none => none

/-- Take the steps of a trace in order. -/
def run : Teardown → List TeardownLabel → Option Teardown
  | t, [] => some t
  | t, l :: ls =>
    match t.step l with
    | some t' => run t' ls
    | none => none

/-- Both failures are reachable. The service thread takes a Connect event and holds its
    temporary reference while the application releases: the temporary is the last
    reference, and `~Host` joins the service thread from itself. Or the application
    releases first, `~Host` starts on the application thread and waits in the join, and the
    service thread takes a Connect event and calls `shared_from_this()` at strong count 0. -/
theorem connect_teardown_fails :
    run init [.service false, .service true, .service false, .release, .service false,
        .dtor, .dtor, .dtor] =
      some ⟨0, false, false, .inDtor, some (.service, .join), some .selfJoin⟩ ∧
    run init [.service false, .release, .dtor, .dtor, .service true, .service false] =
      some ⟨0, false, false, .takeRef, some (.app, .join), some .badWeakPtr⟩ := by
  decide

/-! ## Without `Host` references on the service thread -/

/-- What a run keeps while no event's processing takes a reference to the `Host`: nothing has
    failed, the service thread only loops, and the application's reference is the only one
    until `~Host` starts on the application thread, which finishes only after the service
    thread exited. -/
structure Calm (t : Teardown) : Prop where
  failure_eq : t.failure = none
  service_pc : t.service = .loop ∨ t.service = .service ∨ t.service = .exited
  holding : t.appHolds = true → t.strong = 1 ∧ t.dtor = none ∧ t.running = true
  released : t.appHolds = false → t.strong = 0 ∧ ∃ pc, t.dtor = some (.app, pc) ∧
    (pc = .load → t.running = true) ∧ (pc = .done → t.service = .exited)

/-- The state after `startServiceThread()` is calm. -/
theorem Calm.init : Calm init := ⟨rfl, .inl rfl, fun _ => ⟨rfl, rfl, rfl⟩, nofun⟩

variable {t t' : Teardown}

/-- A step that takes no `Host` reference keeps a calm state calm. -/
theorem Calm.step {l : TeardownLabel} (hc : Calm t) (hl : l.TakesHost = false)
    (h : t.step l = some t') : Calm t' := by
  have ⟨hf, hs, hh, hr⟩ := hc
  simp only [Teardown.step, hf, Option.isSome_none, Bool.false_eq_true, if_false] at h
  cases l with
  | release =>
    cases ha : t.appHolds <;> simp only [ha, if_true, if_false] at h
    · cases h
    obtain ⟨h1, h2, h3⟩ := hh ha
    cases h
    simp only [dropStrong, h1, if_true]
    exact ⟨hf, hs, nofun, fun _ => ⟨rfl, _, rfl, fun _ => h3, nofun⟩⟩
  | service connect =>
    obtain rfl : connect = false := hl
    -- the service thread has not exited, so `~Host` has not finished
    have hne : t.service ≠ .exited := fun he => by simp [he, serviceStep] at h
    have hrel : ∀ sv : ServicePc, t.appHolds = false → t.strong = 0 ∧
        ∃ pc, t.dtor = some (.app, pc) ∧ (pc = .load → t.running = true) ∧
          (pc = .done → sv = .exited) := fun _ ha =>
      let ⟨h1, pc, hpc, hl, hex⟩ := hr ha
      ⟨h1, pc, hpc, hl, fun hd => absurd (hex hd) hne⟩
    rcases hs with hs | hs | hs <;>
      simp only [hs, serviceStep, Bool.false_eq_true, if_false] at h <;> cases h
    · exact ⟨hf, by split <;> simp, hh, hrel _⟩
    · exact ⟨hf, .inl rfl, hh, hrel _⟩
  | hostHandle => cases hl
  | dtor =>
    cases ha : t.appHolds
    · obtain ⟨h1, pc, hpc, hload, hex⟩ := hr ha
      rw [hpc] at h
      cases pc <;> simp only [dtorStep] at h
      · cases h; simp only [hload rfl, if_true]
        exact ⟨hf, hs, by simp [ha], fun _ => ⟨h1, _, rfl, nofun, nofun⟩⟩
      · cases h
        exact ⟨hf, hs, by simp [ha], fun _ => ⟨h1, _, rfl, nofun, nofun⟩⟩
      · split at h
        · cases h
          exact ⟨hf, hs, by simp [ha], fun _ => ⟨h1, _, rfl, nofun, fun _ => ‹_›⟩⟩
        · cases h
      · cases h
    · simp [(hh ha).2.1] at h

/-- A run of steps that take no `Host` reference keeps a calm state calm. -/
theorem Calm.run {ls : List TeardownLabel} (hc : Calm t) (hl : ∀ l ∈ ls, l.TakesHost = false)
    (h : Teardown.run t ls = some t') : Calm t' := by
  induction ls generalizing t with
  | nil => simp only [Teardown.run, Option.some.injEq] at h; exact h ▸ hc
  | cons l ls ih =>
    simp only [Teardown.run] at h
    split at h
    · exact ih (hc.step (hl l (.head _)) ‹_›) (fun l' hl' => hl l' (.tail _ hl')) h
    · cases h

/-- In a calm state `~Host` runs on the application thread, and has finished only after the
    service thread exited. -/
theorem Calm.dtor_app (hc : Calm t) {r : Runner} {pc : DtorPc} (hd : t.dtor = some (r, pc)) :
    r = .app ∧ (pc = .done → t.service = .exited) := by
  cases ha : t.appHolds
  · obtain ⟨-, pc', hpc', -, hex⟩ := hc.released ha
    obtain ⟨rfl, rfl⟩ := Prod.mk.inj (Option.some.inj (hd.symm.trans hpc'))
    exact ⟨rfl, hex⟩
  · simp [(hc.holding ha).2.1] at hd

/-- A calm state where no step taking no `Host` reference is possible has finished the
    teardown. -/
theorem Calm.finished (hc : Calm t) (hend : ∀ l, l.TakesHost = false → t.step l = none) :
    t.dtor = some (.app, .done) ∧ t.service = .exited := by
  have ⟨hf, hs, hh, hr⟩ := hc
  cases ha : t.appHolds
  · obtain ⟨-, pc, hpc, -, hex⟩ := hr ha
    have hd := hend .dtor rfl
    cases pc
    · simp [Teardown.step, hf, hpc, dtorStep] at hd
    · simp [Teardown.step, hf, hpc, dtorStep] at hd
    · have hsv := hend (.service false) rfl
      rcases hs with hs | hs | hs <;>
        simp [Teardown.step, hf, hpc, dtorStep, serviceStep, hs] at hd hsv
    · exact ⟨hpc, hex rfl⟩
  · simpa [Teardown.step, hf, ha] using hend .release rfl

/-- The scope is needed: with no Connect event, a Receive handler calling `hostHandle()` holds
    the last reference once the application releases, and `~Host` joins the service thread
    from itself. -/
example :
    run init [.service false, .hostHandle, .hostHandle, .release, .hostHandle,
        .dtor, .dtor, .dtor] =
      some ⟨0, false, false, .inDtor, some (.service, .join), some .selfJoin⟩ := by
  decide

end Teardown

end Icelander
