/-
`WaitAll` of `ThreadPool`: a pool that is not destroyed, its workers, the threads that call `Submit`, and any number of
threads that call `WaitAll`, one or more times. `LivePool` adds to the pool the waiting threads, `done_cv_`, and the
books: which tasks were started, which a worker has behind it but still counts as active, which are finished.

- `pool_of_run`: the pool in it moves as `ThreadPool` does.
- `waitAll_spec`: every task pushed is queued, active or finished, none is started twice, and when `WaitAll` returns,
  all tasks pushed before it was called are finished.
-/
import Mathlib.Tactic
import Rtcom.Net.ThreadPool

namespace Rtcom

open Runs Function

/-! ## Model -/

/-- how a task ends; `WorkerLoop` logs what it throws -/
inductive TaskOutcome where
  | returns
  | throwsException
  | throwsOther
deriving DecidableEq, Repr

/-- a thread that calls `WaitAll`: elsewhere, before it locks `mutex_`, at the predicate of `wait`, before it sleeps,
asleep, before it unlocks, or back from the call. A thread that is woken locks again. -/
inductive WaitPc where
  | idle
  | lock
  | check
  | sleep
  | asleep
  | leave
  | returned
deriving DecidableEq, Repr

/-- whether a worker counts in `active_tasks_` -/
def WorkerPc.busy : WorkerPc → ℕ
  | .run _ | .finish => 1
  | _ => 0

/-- `notifying`: workers before `done_cv_.notify_all`; `before`: what was pushed when the thread called `WaitAll`;
`behind`: the task a worker has executed and not yet taken off `active_tasks_` -/
structure LivePool (n m : ℕ) where
  pool : ThreadPool n
  waiters : Fin m → WaitPc
  waitOwner : Option (Fin m)
  notifying : Fin n → Bool
  before : Fin m → ℕ
  started : List ℕ
  behind : Fin n → Option ℕ
  finished : List ℕ

inductive LiveAct (n m : ℕ) where
  | submit
  | notifyOne (woken : Option (Fin n))
  | worker (w : Fin n) (outcome : TaskOutcome)
  | spurious (w : Fin n)
  | waiter (v : Fin m)
  | spuriousWaiter (v : Fin m)
deriving DecidableEq, Repr

namespace LivePool

variable {n m : ℕ}

def init (n m : ℕ) : LivePool n m where
  pool := .init n
  waiters := fun _ => .idle
  waitOwner := none
  notifying := fun _ => false
  before := fun _ => 0
  started := []
  behind := fun _ => none
  finished := []

/-- what the books say of a worker's step -/
def book (s : LivePool n m) (w : Fin n) (pool : ThreadPool n) : LivePool n m :=
  match s.pool.workers w, s.pool.tasks with
  | .take, task :: _ => { s with pool := pool, started := s.started ++ [task] }
  | .run task, _ => { s with pool := pool, behind := update s.behind w (some task) }
  | .finish, _ =>
    { s with
      pool := pool
      finished := s.finished ++ (s.behind w).toList
      behind := update s.behind w none
      notifying := update s.notifying w true }
  | _, _ => { s with pool := pool }

/-- `WorkerLoop`; a worker that wants to lock waits for the threads in `WaitAll` too -/
def workerStep (s : LivePool n m) (w : Fin n) : Option (LivePool n m) :=
  if s.notifying w then
    some { s with
      waiters := fun v => if s.waiters v = .asleep then .lock else s.waiters v
      notifying := update s.notifying w false }
  else if (s.pool.workers w = .lock ∨ s.pool.workers w = .finish) ∧ s.waitOwner ≠ none then none
  else (s.pool.workerStep w).map (s.book w)

/-- `WaitAll` -/
def waiterStep (s : LivePool n m) (v : Fin m) : Option (LivePool n m) :=
  match s.waiters v with
  | .idle | .returned =>
    some { s with
      waiters := update s.waiters v .lock
      before := update s.before v s.pool.submitted }
  | .lock =>
    if s.pool.owner = none ∧ s.waitOwner = none then
      some { s with waiters := update s.waiters v .check, waitOwner := some v }
    else none
  | .check =>
    let done := s.pool.tasks.isEmpty && s.pool.activeTasks == 0
    some { s with waiters := update s.waiters v (if done then .leave else .sleep) }
  | .sleep => some { s with waiters := update s.waiters v .asleep, waitOwner := none }
  | .asleep => none
  | .leave => some { s with waiters := update s.waiters v .returned, waitOwner := none }

def step (s : LivePool n m) : LiveAct n m → Option (LivePool n m)
  | .submit => if s.waitOwner = none then (s.pool.step .submit).map fun pool => { s with pool := pool } else none
  | .notifyOne woken => (s.pool.step (.notifyOne woken)).map fun pool => { s with pool := pool }
  -- a task that throws is caught behind the call, and the worker goes on as after one that returns
  | .worker w _ => s.workerStep w
  | .spurious w => (s.pool.step (.spurious w)).map fun pool => { s with pool := pool }
  | .waiter v => s.waiterStep v
  | .spuriousWaiter v =>
    if s.waiters v = .asleep then some { s with waiters := update s.waiters v .lock } else none

/-! ## The pool in it -/

theorem pool_book (s : LivePool n m) (w : Fin n) (pool : ThreadPool n) : (s.book w pool).pool = pool := by
  unfold book
  split <;> rfl

/-- the pool stays or takes a step of its own -/
theorem step_pool {s t : LivePool n m} {a : LiveAct n m} (h : Enabled step s a t) :
    t.pool = s.pool ∨ ∃ b, Enabled ThreadPool.step s.pool b t.pool := by
  have hlift : ∀ b, ((s.pool.step b).map fun pool => { s with pool := pool }) = some t →
      ∃ b, Enabled ThreadPool.step s.pool b t.pool := by
    intro b hb
    obtain ⟨pool, hpool, rfl⟩ := Option.map_eq_some_iff.1 hb
    exact ⟨b, hpool⟩
  unfold Enabled step at h
  cases a with
  | submit => exact Or.inr (hlift _ (Option.ite_none_right_eq_some.1 h).2)
  | notifyOne woken => exact Or.inr (hlift _ h)
  | worker w _ =>
    simp only [workerStep] at h
    split_ifs at h
    · obtain rfl := Option.some.inj h
      exact Or.inl rfl
    · obtain ⟨pool, hpool, rfl⟩ := Option.map_eq_some_iff.1 h
      rw [pool_book]
      exact Or.inr ⟨.worker w, hpool⟩
  | spurious w => exact Or.inr (hlift _ h)
  | waiter v =>
    left
    simp only [waiterStep] at h
    split at h
    case h_3 =>
      obtain ⟨-, rfl⟩ := guarded h
      rfl
    case h_6 => cases h
    all_goals
      obtain rfl := Option.some.inj h
      rfl
  | spuriousWaiter v =>
    obtain ⟨-, rfl⟩ := guarded h
    exact Or.inl rfl

/-- **The pool in it is a `ThreadPool`** -/
theorem pool_of_run {s : LivePool n m} {as : List (LiveAct n m)} (h : Run (Enabled step) (init n m) as s) :
    ∃ bs, Run (Enabled ThreadPool.step) (.init n) bs s.pool :=
  h.project LivePool.pool fun _ _ _ hstep => step_pool hstep

/-! ## What a step does -/

/-- what a step changes: a push, workers that are not in a task, the waiting threads, or a task that is taken, executed
or finished; a thread leaves `wait` only when nothing is queued and nothing active -/
inductive LiveStep (s t : LivePool n m) : Prop
  | submit (ht : t = { s with pool := { s.pool with
      tasks := s.pool.tasks ++ [s.pool.submitted]
      submitted := s.pool.submitted + 1
      notifies := s.pool.notifies + 1 } })
  | move (workers : Fin n → WorkerPc) (owner : Option (Fin n)) (notifies : ℕ)
    (hworkers : ∀ w, workers w = s.pool.workers w ∨ (s.pool.workers w).busy = 0 ∧ (workers w).busy = 0)
    (ht : t = { s with pool := { s.pool with workers := workers, owner := owner, notifies := notifies } })
  | take (w : Fin n) (task : ℕ) (rest : List ℕ) (hpc : s.pool.workers w = .take) (htasks : s.pool.tasks = task :: rest)
    (ht : t = { s with
      pool := { s.pool with
        workers := update s.pool.workers w (.run task)
        tasks := rest
        activeTasks := s.pool.activeTasks + 1
        owner := none }
      started := s.started ++ [task] })
  | execute (w : Fin n) (task : ℕ) (hpc : s.pool.workers w = .run task) (ht : t = { s with
      pool := { s.pool with
        workers := update s.pool.workers w .finish
        executed := s.pool.executed ++ [task] }
      behind := update s.behind w (some task) })
  | finish (w : Fin n) (hpc : s.pool.workers w = .finish) (ht : t = { s with
      pool := { s.pool with
        workers := update s.pool.workers w .loop
        activeTasks := s.pool.activeTasks - 1 }
      finished := s.finished ++ (s.behind w).toList
      behind := update s.behind w none
      notifying := update s.notifying w true })
  | wake (waiters : Fin m → WaitPc) (notifying : Fin n → Bool)
    (hwaiters : ∀ v, waiters v = s.waiters v ∨ waiters v = .lock)
    (ht : t = { s with waiters := waiters, notifying := notifying })
  | call (v : Fin m) (ht : t = { s with
      waiters := update s.waiters v .lock
      before := update s.before v s.pool.submitted })
  | wait (v : Fin m) (pc : WaitPc) (owner : Option (Fin m))
    (hleave : pc = .leave → s.pool.tasks = [] ∧ s.pool.activeTasks = 0)
    (hreturned : pc = .returned → s.waiters v = .leave)
    (ht : t = { s with waiters := update s.waiters v pc, waitOwner := owner })

/-- a worker that is in no task, before and after -/
theorem move_of_goto {s : LivePool n m} {w : Fin n} {pc : WorkerPc} (owner : Option (Fin n)) (notifies : ℕ)
    (hfrom : (s.pool.workers w).busy = 0) (hto : pc.busy = 0) :
    LiveStep s { s with pool := { s.pool.goto w pc with owner := owner, notifies := notifies } } := by
  refine .move (update s.pool.workers w pc) owner notifies (fun v => ?_) rfl
  by_cases hv : v = w
  · subst hv
    exact Or.inr ⟨hfrom, by rw [update_self, hto]⟩
  · exact Or.inl (update_of_ne hv _ _)

theorem workerStep_spec {s : LivePool n m} {w : Fin n} {pool : ThreadPool n} (h : s.pool.workerStep w = some pool) :
    LiveStep s (s.book w pool) := by
  unfold book
  cases ThreadPool.workerStep_cases h with
  | enter hpc hstop ht =>
    rw [hpc, ht]
    exact move_of_goto s.pool.owner s.pool.notifies (by rw [hpc]; rfl) rfl
  | quit hpc hstop ht =>
    rw [hpc, ht]
    exact move_of_goto s.pool.owner s.pool.notifies (by rw [hpc]; rfl) rfl
  | lock hpc hfree ht =>
    rw [hpc, ht]
    exact move_of_goto (some w) s.pool.notifies (by rw [hpc]; rfl) rfl
  | pass hpc hpred ht =>
    rw [hpc, ht]
    exact move_of_goto s.pool.owner s.pool.notifies (by rw [hpc]; rfl) rfl
  | block hpc hstop ht =>
    rw [hpc, ht]
    exact move_of_goto s.pool.owner s.pool.notifies (by rw [hpc]; rfl) rfl
  | sleep hpc ht =>
    rw [hpc, ht]
    exact move_of_goto none s.pool.notifies (by rw [hpc]; rfl) rfl
  | drained hpc hstop hempty ht =>
    rw [hpc, ht]
    exact move_of_goto none s.pool.notifies (by rw [hpc]; rfl) rfl
  | stay hpc hmore ht =>
    rw [hpc, ht]
    exact move_of_goto s.pool.owner s.pool.notifies (by rw [hpc]; rfl) rfl
  | take task rest hpc htasks ht =>
    rw [hpc, htasks, ht]
    exact .take w task rest hpc htasks rfl
  | execute task hpc ht =>
    rw [hpc, ht]
    exact .execute w task hpc rfl
  | finish hpc hfree ht =>
    rw [hpc, ht]
    exact .finish w hpc rfl

theorem waiterStep_spec {s t : LivePool n m} {v : Fin m} (h : s.waiterStep v = some t) : LiveStep s t := by
  unfold waiterStep at h
  cases hpc : s.waiters v with
  | idle =>
    rw [hpc] at h
    exact .call v (Option.some.inj h).symm
  | lock =>
    rw [hpc] at h
    exact .wait v .check (some v) nofun nofun (guarded h).2
  | check =>
    rw [hpc] at h
    refine .wait v _ s.waitOwner (fun hleave => ?_) (fun hreturned => ?_) (Option.some.inj h).symm
    · split_ifs at hleave with hdone
      rw [Bool.and_eq_true, List.isEmpty_iff, beq_iff_eq] at hdone
      exact hdone
    · split_ifs at hreturned
  | sleep =>
    rw [hpc] at h
    exact .wait v .asleep none nofun nofun (Option.some.inj h).symm
  | asleep =>
    rw [hpc] at h
    cases h
  | leave =>
    rw [hpc] at h
    exact .wait v .returned none nofun (fun _ => hpc) (Option.some.inj h).symm
  | returned =>
    rw [hpc] at h
    exact .call v (Option.some.inj h).symm

theorem step_spec {s t : LivePool n m} {a : LiveAct n m} (h : Enabled step s a t) : LiveStep s t := by
  unfold Enabled step at h
  cases a with
  | submit =>
    obtain ⟨pool, hpool, rfl⟩ := Option.map_eq_some_iff.1 (Option.ite_none_right_eq_some.1 h).2
    obtain ⟨-, rfl⟩ := guarded hpool
    exact .submit rfl
  | notifyOne woken =>
    obtain ⟨pool, hpool, rfl⟩ := Option.map_eq_some_iff.1 h
    cases woken with
    | some w =>
      obtain ⟨⟨-, hw⟩, rfl⟩ := guarded hpool
      exact move_of_goto s.pool.owner _ (by rw [hw]; rfl) rfl
    | none =>
      obtain ⟨-, rfl⟩ := guarded hpool
      exact .move s.pool.workers s.pool.owner _ (fun _ => Or.inl rfl) rfl
  | worker w _ =>
    simp only [workerStep] at h
    split_ifs at h
    · refine .wake _ _ (fun v => ?_) (Option.some.inj h).symm
      by_cases hv : s.waiters v = .asleep
      · exact Or.inr (if_pos hv)
      · exact Or.inl (if_neg hv)
    · obtain ⟨pool, hpool, rfl⟩ := Option.map_eq_some_iff.1 h
      exact workerStep_spec hpool
  | spurious w =>
    obtain ⟨pool, hpool, rfl⟩ := Option.map_eq_some_iff.1 h
    obtain ⟨hw, rfl⟩ := guarded hpool
    exact move_of_goto s.pool.owner s.pool.notifies (by rw [hw]; rfl) rfl
  | waiter v => exact waiterStep_spec h
  | spuriousWaiter v =>
    obtain ⟨-, rfl⟩ := guarded h
    refine .wake _ s.notifying (fun u => ?_) rfl
    by_cases hu : u = v
    · subst hu
      exact Or.inr (update_self _ _ _)
    · exact Or.inl (update_of_ne hu _ _)

/-! ## The books -/

/-- what a worker has behind it of task k -/
def share (k : ℕ) (behind : Option ℕ) : ℕ := if behind = some k then 1 else 0

/-- `active_tasks_` counts the workers in a task or behind one; a task started is with a worker or executed; a task
executed is behind its worker or finished; and what was pushed is queued, active or finished -/
structure Books (s : LivePool n m) : Prop where
  active : s.pool.activeTasks = ∑ w, (s.pool.workers w).busy
  behind : ∀ w, s.behind w ≠ none ↔ s.pool.workers w = .finish
  started : ∀ k, s.started.count k = (∑ w, (s.pool.workers w).holding k) + s.pool.executed.count k
  executed : ∀ k, s.pool.executed.count k = s.finished.count k + ∑ w, share k (s.behind w)
  pushed : s.pool.submitted = s.pool.tasks.length + s.pool.activeTasks + s.finished.length

theorem init_books (n m : ℕ) : (init n m).Books := by
  constructor <;> simp [init, ThreadPool.init, WorkerPc.busy, WorkerPc.holding, share]

theorem holding_of_idle {pc : WorkerPc} (h : pc.busy = 0) (k : ℕ) : pc.holding k = 0 := by
  apply WorkerPc.holding_of_ne_run
  rintro task rfl
  cases h

theorem ne_finish_of_idle {pc : WorkerPc} (h : pc.busy = 0) : pc ≠ .finish := by
  rintro rfl
  cases h

/-- the workers that move are in no task -/
theorem Books.move {s : LivePool n m} (hs : s.Books) {workers : Fin n → WorkerPc} (owner : Option (Fin n))
    (notifies : ℕ)
    (hworkers : ∀ w, workers w = s.pool.workers w ∨ (s.pool.workers w).busy = 0 ∧ (workers w).busy = 0) :
    Books { s with pool := { s.pool with workers := workers, owner := owner, notifies := notifies } } := by
  have hbusy : ∀ w, (workers w).busy = (s.pool.workers w).busy := by
    intro w
    rcases hworkers w with heq | ⟨hfrom, hto⟩
    · rw [heq]
    · rw [hfrom, hto]
  have hholding : ∀ k w, (workers w).holding k = (s.pool.workers w).holding k := by
    intro k w
    rcases hworkers w with heq | ⟨hfrom, hto⟩
    · rw [heq]
    · rw [holding_of_idle hfrom, holding_of_idle hto]
  refine ⟨?_, fun w => ?_, fun k => ?_, hs.executed, hs.pushed⟩
  · simp only [hbusy]
    exact hs.active
  · rw [hs.behind]
    rcases hworkers w with heq | ⟨hfrom, hto⟩
    · simp only [heq]
    · exact iff_of_false (ne_finish_of_idle hfrom) (ne_finish_of_idle hto)
  · simp only [hholding]
    exact hs.started k

theorem Books.take {s : LivePool n m} (hs : s.Books) {w : Fin n} {task : ℕ} {rest : List ℕ}
    (hpc : s.pool.workers w = .take) (htasks : s.pool.tasks = task :: rest) :
    Books { s with
      pool := { s.pool with
        workers := update s.pool.workers w (.run task)
        tasks := rest
        activeTasks := s.pool.activeTasks + 1
        owner := none }
      started := s.started ++ [task] } := by
  refine ⟨?_, fun v => ?_, fun k => ?_, hs.executed, ?_⟩
  · have hsum := ThreadPool.sum_update WorkerPc.busy s.pool.workers w (.run task)
    have hactive := hs.active
    rw [hpc] at hsum
    simp only [WorkerPc.busy] at hsum hactive ⊢
    omega
  · rw [hs.behind]
    by_cases hv : v = w
    · subst hv
      simp [hpc]
    · simp only [update_of_ne hv]
  · have hsum := ThreadPool.sum_update (WorkerPc.holding k) s.pool.workers w (.run task)
    have hstarted := hs.started k
    have htake : WorkerPc.take.holding k = 0 := rfl
    rw [hpc, htake, WorkerPc.holding_run] at hsum
    simp only [List.count_append, List.count_singleton, beq_iff_eq]
    omega
  · have hpushed := hs.pushed
    rw [htasks, List.length_cons] at hpushed
    simp only
    omega

theorem Books.execute {s : LivePool n m} (hs : s.Books) {w : Fin n} {task : ℕ} (hpc : s.pool.workers w = .run task) :
    Books { s with
      pool := { s.pool with
        workers := update s.pool.workers w .finish
        executed := s.pool.executed ++ [task] }
      behind := update s.behind w (some task) } := by
  have hnone : s.behind w = none := by
    by_contra hsome
    rw [(hs.behind w).1 hsome] at hpc
    cases hpc
  refine ⟨?_, fun v => ?_, fun k => ?_, fun k => ?_, hs.pushed⟩
  · have hsum := ThreadPool.sum_update WorkerPc.busy s.pool.workers w .finish
    have hactive := hs.active
    rw [hpc] at hsum
    simp only [WorkerPc.busy] at hsum hactive ⊢
    omega
  · by_cases hv : v = w
    · subst hv
      simp
    · simp only [update_of_ne hv]
      exact hs.behind v
  · have hsum := ThreadPool.sum_update (WorkerPc.holding k) s.pool.workers w .finish
    have hstarted := hs.started k
    have hfinish : WorkerPc.finish.holding k = 0 := rfl
    rw [hpc, hfinish, WorkerPc.holding_run] at hsum
    simp only [List.count_append, List.count_singleton, beq_iff_eq]
    omega
  · have hsum := ThreadPool.sum_update (share k) s.behind w (some task)
    have hexecuted := hs.executed k
    rw [hnone] at hsum
    simp only [share, reduceCtorEq, if_false, Option.some.injEq] at hsum hexecuted ⊢
    simp only [List.count_append, List.count_singleton, beq_iff_eq]
    omega

theorem Books.finish {s : LivePool n m} (hs : s.Books) {w : Fin n} (hpc : s.pool.workers w = .finish) :
    Books { s with
      pool := { s.pool with
        workers := update s.pool.workers w .loop
        activeTasks := s.pool.activeTasks - 1 }
      finished := s.finished ++ (s.behind w).toList
      behind := update s.behind w none
      notifying := update s.notifying w true } := by
  obtain ⟨task, htask⟩ := Option.ne_none_iff_exists'.1 ((hs.behind w).2 hpc)
  have hsum := ThreadPool.sum_update WorkerPc.busy s.pool.workers w .loop
  have hactive := hs.active
  rw [hpc] at hsum
  simp only [WorkerPc.busy] at hsum hactive
  refine ⟨?_, fun v => ?_, fun k => ?_, fun k => ?_, ?_⟩
  · simp only [WorkerPc.busy]
    omega
  · by_cases hv : v = w
    · subst hv
      simp
    · simp only [update_of_ne hv]
      exact hs.behind v
  · have hsum := ThreadPool.sum_update (WorkerPc.holding k) s.pool.workers w .loop
    have hloop : WorkerPc.loop.holding k = 0 := rfl
    have hfinish : WorkerPc.finish.holding k = 0 := rfl
    rw [hpc, hloop, hfinish] at hsum
    have hstarted := hs.started k
    simp only
    omega
  · have hsum := ThreadPool.sum_update (share k) s.behind w none
    have hexecuted := hs.executed k
    rw [htask] at hsum ⊢
    simp only [share, reduceCtorEq, if_false, Option.some.injEq] at hsum hexecuted ⊢
    simp only [Option.toList_some, List.count_append, List.count_singleton, beq_iff_eq]
    omega
  · have hpushed := hs.pushed
    rw [htask, Option.toList_some, List.length_append, List.length_singleton]
    simp only
    omega

theorem step_books {s t : LivePool n m} {a : LiveAct n m} (hs : s.Books) (h : Enabled step s a t) : t.Books := by
  rcases step_spec h with rfl | ⟨workers, owner, notifies, hworkers, rfl⟩ | ⟨w, task, rest, hpc, htasks, rfl⟩ |
    ⟨w, task, hpc, rfl⟩ | ⟨w, hpc, rfl⟩ | ⟨waiters, notifying, -, rfl⟩ | ⟨v, rfl⟩ | ⟨v, pc, owner, -, -, rfl⟩
  · refine ⟨hs.active, hs.behind, hs.started, hs.executed, ?_⟩
    have hpushed := hs.pushed
    rw [List.length_append, List.length_singleton]
    simp only
    omega
  · exact hs.move owner notifies hworkers
  · exact hs.take hpc htasks
  · exact hs.execute hpc
  · exact hs.finish hpc
  · exact ⟨hs.active, hs.behind, hs.started, hs.executed, hs.pushed⟩
  · exact ⟨hs.active, hs.behind, hs.started, hs.executed, hs.pushed⟩
  · exact ⟨hs.active, hs.behind, hs.started, hs.executed, hs.pushed⟩

/-! ## Waiting -/

/-- with nothing queued and nothing active, everything is finished -/
theorem finished_of_idle {s : LivePool n m} (hs : s.Books) (ha : s.pool.Accounted) (htasks : s.pool.tasks = [])
    (hactive : s.pool.activeTasks = 0) {k : ℕ} (hk : k < s.pool.submitted) : k ∈ s.finished := by
  have hidle : ∀ w, (s.pool.workers w).busy = 0 := by
    have hsum := hs.active
    rw [hactive, eq_comm, Finset.sum_eq_zero_iff] at hsum
    exact fun w => hsum w (Finset.mem_univ w)
  have hholding : ∑ w, (s.pool.workers w).holding k = 0 := Finset.sum_eq_zero fun w _ => holding_of_idle (hidle w) k
  have hbehind : ∑ w, share k (s.behind w) = 0 := by
    refine Finset.sum_eq_zero fun w _ => ?_
    have hnone : s.behind w = none := by
      by_contra hsome
      exact ne_finish_of_idle (hidle w) ((hs.behind w).1 hsome)
    rw [hnone]
    rfl
  have hcopies := ha k
  rw [if_pos hk, ThreadPool.copies, htasks, hholding, hs.executed k, hbehind] at hcopies
  rw [← List.count_pos_iff]
  simp only [List.count_nil] at hcopies
  omega

/-- a thread in `WaitAll` waits for tasks that were pushed, and where it is about to return they are finished -/
structure Waited (s : LivePool n m) : Prop where
  before : ∀ v, s.before v ≤ s.pool.submitted
  settled : ∀ v, s.waiters v = .leave ∨ s.waiters v = .returned → ∀ k < s.before v, k ∈ s.finished

theorem step_waited {s t : LivePool n m} {a : LiveAct n m} (hb : s.Books) (ha : s.pool.Accounted) (hs : s.Waited)
    (h : Enabled step s a t) : t.Waited := by
  rcases step_spec h with rfl | ⟨workers, owner, notifies, -, rfl⟩ | ⟨w, task, rest, -, -, rfl⟩ |
    ⟨w, task, -, rfl⟩ | ⟨w, -, rfl⟩ | ⟨waiters, notifying, hwaiters, rfl⟩ | ⟨v, rfl⟩ |
    ⟨v, pc, owner, hleave, hreturned, rfl⟩
  · exact ⟨fun v => Nat.le_succ_of_le (hs.before v), hs.settled⟩
  · exact ⟨hs.before, hs.settled⟩
  · exact ⟨hs.before, hs.settled⟩
  · exact ⟨hs.before, hs.settled⟩
  · exact ⟨hs.before, fun v hv k hk => List.mem_append_left _ (hs.settled v hv k hk)⟩
  · refine ⟨hs.before, fun v hv => ?_⟩
    rcases hwaiters v with heq | hlock
    · simp only [heq] at hv
      exact hs.settled v hv
    · simp [hlock] at hv
  · refine ⟨fun u => ?_, fun u hu => ?_⟩
    · by_cases huv : u = v
      · rw [huv]
        simp
      · simp only [update_of_ne huv]
        exact hs.before u
    · by_cases huv : u = v
      · rw [huv] at hu
        simp at hu
      · simp only [update_of_ne huv] at hu ⊢
        exact hs.settled u hu
  · refine ⟨hs.before, fun u hu k hk => ?_⟩
    by_cases huv : u = v
    · subst huv
      simp only [update_self] at hu
      rcases hu with hpc | hpc
      · obtain ⟨htasks, hactive⟩ := hleave hpc
        exact finished_of_idle hb ha htasks hactive (hk.trans_le (hs.before u))
      · exact hs.settled u (Or.inl (hreturned hpc)) k hk
    · simp only [update_of_ne huv] at hu
      exact hs.settled u hu k hk

theorem waited_of_run {s : LivePool n m} {as : List (LiveAct n m)} (h : Run (Enabled step) (init n m) as s) :
    s.Books ∧ s.pool.Accounted ∧ s.Waited := by
  refine h.inv (P := fun s => s.Books ∧ s.pool.Accounted ∧ s.Waited) (fun s a t hs hstep => ?_)
    ⟨init_books n m, ThreadPool.copies_of_run (.nil _), fun _ => le_rfl, by simp [init]⟩
  obtain ⟨hb, ha, hw⟩ := hs
  refine ⟨step_books hb hstep, ?_, step_waited hb ha hw hstep⟩
  rcases step_pool hstep with heq | ⟨b, hpool⟩
  · rw [heq]
    exact ha
  · exact ThreadPool.step_accounted ha hpool

/-- **The tasks of a live pool**, in every state of every run: each one pushed is queued, active or finished; none is
started twice; and a thread that is back from `WaitAll` finds everything finished that was pushed before its call -/
theorem waitAll_spec {s : LivePool n m} {as : List (LiveAct n m)} (h : Run (Enabled step) (init n m) as s) :
    s.pool.submitted = s.pool.tasks.length + s.pool.activeTasks + s.finished.length ∧
      (∀ k, s.started.count k ≤ 1) ∧ ∀ v, s.waiters v = .returned → ∀ k < s.before v, k ∈ s.finished := by
  obtain ⟨hb, ha, hw⟩ := waited_of_run h
  refine ⟨hb.pushed, fun k => ?_, fun v hv => hw.settled v (Or.inr hv)⟩
  have hcopies := ha k
  have hstarted := hb.started k
  unfold ThreadPool.copies at hcopies
  split_ifs at hcopies <;> omega

/-- a worker whose task throws, and a thread that waits for it -/
theorem waitAll_spec_throws : ∃ as s, Run (Enabled step) (init 1 1) as s ∧ s.waiters 0 = .returned ∧
    s.before 0 = 1 ∧
    s.pool.submitted = s.pool.tasks.length + s.pool.activeTasks + s.finished.length ∧
      (∀ k, s.started.count k ≤ 1) ∧ ∀ v, s.waiters v = .returned → ∀ k < s.before v, k ∈ s.finished := by
  have hrun : Run (Enabled step) (init 1 1) [.submit, .notifyOne none, .waiter 0, .waiter 0, .waiter 0, .waiter 0,
      .worker 0 .returns, .worker 0 .returns, .worker 0 .returns, .worker 0 .returns, .worker 0 .returns,
      .worker 0 .throwsOther, .worker 0 .returns, .worker 0 .returns, .waiter 0, .waiter 0, .waiter 0] _ :=
    run_iff_foldlM.2 rfl
  exact ⟨_, _, hrun, rfl, rfl, waitAll_spec hrun⟩

end LivePool

end Rtcom
