import Icelander.Async.Scheduler

/-!
# Task Scheduler: the Queue Mutex

The scheduler model touches `taskQueue_` only at places where a thread holds
`queueMutex_`: a worker evaluating the wait predicate or popping, a
`schedule()` call pushing. That two threads never stand there together is
`std::mutex`'s guarantee, which the model builds in: a thread takes the mutex
only while `holder` is `none`. This module checks the model's bookkeeping of
it, which the wakeup invariant of `Async/Wakeup.lean` needs to rule out a
worker about to wait while a `schedule()` call pushes.

* `LockExact`: the `holder` field names exactly the thread at a place holding
  the mutex.
* `LockExact.move`: one thread taking, keeping or releasing the mutex, all
  others staying put, keeps it exact.
* `LockExact.reachable`: every reachable state keeps it.
-/

namespace Icelander.Async

namespace Scheduler

/-- Whether thread `who` stands at a place holding `queueMutex_`. -/
def holdsLock (s : Scheduler) : Holder → Bool
  | .worker i => (s.workers[i]?.map WorkerPc.holdsLock).getD false
  | .producer j => (s.producers[j]?.map ProducerPc.holdsLock).getD false

/-- The mutex's owner is exactly the thread inside a critical section. -/
def LockExact (s : Scheduler) : Prop := ∀ who, s.holdsLock who = true ↔ s.holder = some who

variable {hw : Nat} {s s' : Scheduler}

/-! ## §1 Where threads stand after a step -/

/-- Moving worker `i` to `pc'` changes only worker `i`'s standing. -/
theorem holdsLock_worker_of_set {i : Nat} {pc pc' : WorkerPc} (hpc : s.workers[i]? = some pc)
    (hws : s'.workers = s.workers.set i pc') (k : Nat) :
    s'.holdsLock (.worker k) = if k = i then pc'.holdsLock else s.holdsLock (.worker k) := by
  have hi : i < s.workers.length := (List.getElem?_eq_some_iff.1 hpc).1
  split
  · subst k; simp [holdsLock, hws, List.getElem?_set_self hi]
  · simp [holdsLock, hws, List.getElem?_set_ne (Ne.symm ‹k ≠ i›)]

/-- Moving `schedule()` call `j` to `pc'` changes only call `j`'s standing. -/
theorem holdsLock_producer_of_set {j : Nat} {pc pc' : ProducerPc}
    (hpc : s.producers[j]? = some pc) (hps : s'.producers = s.producers.set j pc') (k : Nat) :
    s'.holdsLock (.producer k) = if k = j then pc'.holdsLock else s.holdsLock (.producer k) := by
  have hj : j < s.producers.length := (List.getElem?_eq_some_iff.1 hpc).1
  split
  · subst k; simp [holdsLock, hps, List.getElem?_set_self hj]
  · simp [holdsLock, hps, List.getElem?_set_ne (Ne.symm ‹k ≠ j›)]

/-- `notify_all()` moves waiters to `lock`: neither place holds the mutex. -/
@[simp]
theorem holdsLock_wakeAll (pc : WorkerPc) : (wakeAll pc).holdsLock = pc.holdsLock := by
  unfold wakeAll; split <;> simp_all [WorkerPc.holdsLock]

/-! ## §2 The invariant -/

/-- Nobody holds the mutex before the first call. -/
theorem LockExact.init : LockExact init := by
  intro who; cases who <;> simp [holdsLock, Scheduler.init]

/-- A step that moves no thread and leaves the owner keeps the mutex exact. -/
theorem LockExact.of_eq (hs : LockExact s) (h1 : ∀ who, s'.holdsLock who = s.holdsLock who)
    (h2 : s'.holder = s.holder) : LockExact s' := fun who => by rw [h1, h2]; exact hs who

/-- One thread's move keeps the mutex exact, when every other thread stays where it was. -/
theorem LockExact.move {who : Holder} {before after : Bool} (hs : LockExact s)
    (hb : s.holdsLock who = before) (ha : s'.holdsLock who = after)
    (ho : ∀ o, o ≠ who → s'.holdsLock o = s.holdsLock o)
    (hm : LockMove who before after s.holder s'.holder) : LockExact s' := by
  intro o
  by_cases hoe : o = who
  · subst hoe
    rcases hm with ⟨rfl, hh⟩ | ⟨rfl, rfl, -, hh⟩ | ⟨rfl, rfl, hh⟩
    · rw [ha, hh, ← hb]; exact hs o
    · simp [ha, hh]
    · simp [ha, hh]
  · rw [ho o hoe]
    rcases hm with ⟨-, hh⟩ | ⟨-, -, hn, hh⟩ | ⟨rfl, -, hh⟩
    · rw [hh]; exact hs o
    · rw [hh, hs o, hn]; simp [Ne.symm hoe]
    · rw [hh, hs o, (hs who).1 hb]; simp [Ne.symm hoe]

/-- A worker step keeps the mutex exact. -/
theorem LockExact.workerStep {i : Nat} {pc : WorkerPc} (hs : LockExact s)
    (hpc : s.workers[i]? = some pc) (h : s.workerStep i pc = some s') : LockExact s' := by
  obtain ⟨-, -, -, hp, -, -, pc', hws, hm, -⟩ := workerStep_cases h
  have hk := holdsLock_worker_of_set hpc hws
  refine hs.move (by simp [holdsLock, hpc]) (by simp [hk]) (fun o ho => ?_) hm
  cases o with
  | worker k => rw [hk, if_neg (by rintro rfl; exact ho rfl)]
  | producer j => simp [holdsLock, hp]

/-- A step of a `schedule()` call keeps the mutex exact; a waiter its `notify_one` wakes
    goes from one place outside the mutex to another. -/
theorem LockExact.producerStep {j : Nat} {wake : Option Nat} {pc : ProducerPc}
    (hs : LockExact s) (hpc : s.producers[j]? = some pc) (h : s.producerStep j wake pc = some s') :
    LockExact s' := by
  obtain ⟨-, -, -, -, -, pc', hps, hm, heff⟩ := producerStep_cases h
  have hk := holdsLock_producer_of_set hpc hps
  have hwk : ∀ k, s'.holdsLock (.worker k) = s.holdsLock (.worker k) := by
    rcases heff with ⟨-, -, -, -, hws⟩ | ⟨-, -, -, hws | ⟨w, hw, hws⟩⟩
    · simp [holdsLock, hws]
    · simp [holdsLock, hws]
    · intro k; rw [holdsLock_worker_of_set hw hws]; split
      · subst k; simp [holdsLock, hw, WorkerPc.holdsLock]
      · rfl
  refine hs.move (by simp [holdsLock, hpc]) (by simp [hk]) (fun o ho => ?_) hm
  cases o with
  | worker k => exact hwk k
  | producer k => rw [hk, if_neg (by rintro rfl; exact ho rfl)]

/-- A step of the controlling thread moves no thread's standing and leaves the owner. -/
theorem LockExact.controlStep (hs : LockExact s) (h : s.controlStep hw s.control = some s') :
    LockExact s' := by
  cases hctl : s.control <;> rw [hctl] at h <;> simp only [Scheduler.controlStep] at h
  case idle => cases h
  case startSpawn =>
    cases h
    refine hs.of_eq (fun who => ?_) rfl
    cases who with
    | producer j => rfl
    | worker k =>
      by_cases hk : k < s.workers.length
      · simp [holdsLock, List.getElem?_append_left hk]
      · simp only [holdsLock, spawnWorkers_workers,
          List.getElem?_append_right (Nat.le_of_not_lt hk),
          List.getElem?_eq_none (Nat.le_of_not_lt hk), List.getElem?_replicate]
        split <;> rfl
  case stopNotify =>
    cases h
    refine hs.of_eq (fun who => ?_) rfl
    cases who with
    | producer j => rfl
    | worker k =>
      simp only [holdsLock, List.getElem?_map, Option.map_map]; congr 2; funext pc; simp
  case stopJoin =>
    split at h
    · cases h; exact hs.of_eq (fun _ => rfl) rfl
    · cases h
  all_goals cases h; exact hs.of_eq (fun who => by cases who <;> rfl) rfl

/-- Every step keeps the mutex exact. -/
theorem LockExact.step {l : Label} (hs : LockExact s) (h : Scheduler.step hw s l = some s') :
    LockExact s' := by
  cases l with
  | worker i => obtain ⟨pc, hpc, hst⟩ := step_worker h; exact hs.workerStep hpc hst
  | producer j wake => obtain ⟨pc, hpc, hst⟩ := step_producer h; exact hs.producerStep hpc hst
  | control => exact hs.controlStep h
  | schedule =>
    cases h
    refine hs.of_eq (fun who => ?_) rfl
    cases who with
    | worker k => rfl
    | producer k =>
      by_cases hk : k < s.producers.length
      · simp [holdsLock, List.getElem?_append_left hk]
      · simp only [holdsLock, List.getElem?_append_right (Nat.le_of_not_lt hk),
          List.getElem?_eq_none (Nat.le_of_not_lt hk)]
        generalize k - s.producers.length = m
        cases m <;> simp [ProducerPc.holdsLock]
  | callStart | callStop =>
    simp only [Scheduler.step] at h
    split at h
    · cases h; exact hs.of_eq (fun who => by cases who <;> rfl) rfl
    · cases h

/-- Every reachable state has an exact mutex. -/
theorem LockExact.reachable (h : Reachable hw s) : LockExact s := by
  induction h with
  | init => exact .init
  | step _ hs ih => exact ih.step hs

end Scheduler

end Icelander.Async
