/-
`ThreadPool` of `src/net/thread_pool.{h,cpp}`: any number of workers, the threads that call `Submit`, and the thread
that runs the destructor. A program counter stands at the next access to shared data; the critical sections of
`Submit` and behind a task are one access each. `stop_` is written without `mutex_`, so a worker may find it changed
between the predicate of `wait` and the test behind it. Tasks are numbered in the order of `Submit`. Left out, as only
`WaitAll` reads it: `done_cv_`.

- `copies_of_run`: in every run each task submitted is in the queue, with one worker, or executed; so none is executed
  twice (`executed_le_one`).
- `take_ready`: a worker that is about to take a task finds one.
- `all_executed_iff`: when the destructor returns, all tasks submitted before it have been executed, each once, exactly
  when the last worker did not leave by `while (!stop_)` with one of them in the queue.
- `queued_task_lost`: a worker that finds `stop_` set leaves with the queue as it is, although the test behind `wait`
  lets it leave with an empty queue only.
-/
import Mathlib.Tactic
import Rtcom.Lib.Locks
import Rtcom.Lib.Runs

namespace Rtcom

open Runs Function

/-! ## Model -/

/-- a worker: at the test of the loop, before it locks `mutex_`, at the predicate of `wait`, before it sleeps, asleep,
at the test behind `wait`, before it takes a task, in a task, behind a task, or returned. A worker that is woken locks
again. -/
inductive WorkerPc where
  | loop
  | lock
  | check
  | sleep
  | asleep
  | inner
  | take
  | run (task : ℕ)
  | finish
  | exited
deriving DecidableEq, Repr

namespace WorkerPc

/-- a worker's share of task k -/
def holding (k : ℕ) : WorkerPc → ℕ
  | .run task => if task = k then 1 else 0
  | _ => 0

/-- with `mutex_` locked -/
def Holds : WorkerPc → Prop
  | .check | .sleep | .inner | .take => True
  | _ => False

theorem holding_run (k task : ℕ) : (run task).holding k = if task = k then 1 else 0 := rfl

theorem holding_of_ne_run {pc : WorkerPc} (h : ∀ k, pc ≠ .run k) (k : ℕ) : pc.holding k = 0 := by
  cases pc with
  | run task => exact absurd rfl (h task)
  | _ => rfl

end WorkerPc

/-- the destructor: not called, before `notify_all`, before it joins a worker, or returned -/
inductive DtorPc where
  | alive
  | stopping
  | joining (worker : ℕ)
  | returned
deriving DecidableEq, Repr

/-- `notifies`: calls of `Submit` between the push and `notify_one`; `submittedBefore`: what was submitted when the
destructor started -/
structure ThreadPool (n : ℕ) where
  stop : Bool
  tasks : List ℕ
  owner : Option (Fin n)
  activeTasks : ℕ
  workers : Fin n → WorkerPc
  dtor : DtorPc
  notifies : ℕ
  submitted : ℕ
  submittedBefore : ℕ
  executed : List ℕ
deriving DecidableEq

inductive PoolAct (n : ℕ) where
  | submit
  | notifyOne (woken : Option (Fin n))
  | worker (w : Fin n)
  | spurious (w : Fin n)
  | destructor
deriving DecidableEq, Repr

namespace ThreadPool

variable {n : ℕ}

/-- the constructor -/
def init (n : ℕ) : ThreadPool n where
  stop := false
  tasks := []
  owner := none
  activeTasks := 0
  workers := fun _ => .loop
  dtor := .alive
  notifies := 0
  submitted := 0
  submittedBefore := 0
  executed := []

def goto (s : ThreadPool n) (w : Fin n) (pc : WorkerPc) : ThreadPool n := { s with workers := update s.workers w pc }

/-- `WorkerLoop` -/
def workerStep (s : ThreadPool n) (w : Fin n) : Option (ThreadPool n) :=
  match s.workers w with
  | .loop => some (s.goto w (if s.stop then .exited else .lock))
  | .lock => if s.owner = none then some { s.goto w .check with owner := some w } else none
  | .check => some (s.goto w (if s.stop || !s.tasks.isEmpty then .inner else .sleep))
  | .sleep => some { s.goto w .asleep with owner := none }
  | .asleep => none
  | .inner =>
    some (if s.stop && s.tasks.isEmpty then { s.goto w .exited with owner := none } else s.goto w .take)
  | .take =>
    match s.tasks with
    | [] => none
    | task :: rest =>
      some { s.goto w (.run task) with tasks := rest, activeTasks := s.activeTasks + 1, owner := none }
  | .run task => some { s.goto w .finish with executed := s.executed ++ [task] }
  | .finish => if s.owner = none then some { s.goto w .loop with activeTasks := s.activeTasks - 1 } else none
  | .exited => none

/-- `~ThreadPool` -/
def dtorStep (s : ThreadPool n) : Option (ThreadPool n) :=
  match s.dtor with
  | .alive => some { s with stop := true, dtor := .stopping, submittedBefore := s.submitted }
  | .stopping =>
    some { s with
      workers := fun w => if s.workers w = .asleep then .lock else s.workers w
      dtor := .joining 0 }
  | .joining i =>
    if h : i < n then
      if s.workers ⟨i, h⟩ = .exited then some { s with dtor := .joining (i + 1) } else none
    else some { s with dtor := .returned }
  | .returned => none

def step (s : ThreadPool n) : PoolAct n → Option (ThreadPool n)
  | .submit =>
    if s.owner = none ∧ s.dtor ≠ .returned then
      some { s with tasks := s.tasks ++ [s.submitted], submitted := s.submitted + 1, notifies := s.notifies + 1 }
    else none
  | .notifyOne (some w) =>
    if 0 < s.notifies ∧ s.workers w = .asleep then some { s.goto w .lock with notifies := s.notifies - 1 } else none
  | .notifyOne none =>
    if 0 < s.notifies ∧ ∀ w, s.workers w ≠ .asleep then some { s with notifies := s.notifies - 1 } else none
  | .worker w => s.workerStep w
  | .spurious w => if s.workers w = .asleep then some (s.goto w .lock) else none
  | .destructor => s.dtorStep

/-! ## What a step does -/

/-- the steps of `WorkerLoop` one by one, each with what the worker has found and the state it leaves -/
inductive WorkerMove (s : ThreadPool n) (w : Fin n) (t : ThreadPool n) : Prop
  | enter (hpc : s.workers w = .loop) (hstop : s.stop = false) (ht : t = s.goto w .lock)
  | quit (hpc : s.workers w = .loop) (hstop : s.stop = true) (ht : t = s.goto w .exited)
  | lock (hpc : s.workers w = .lock) (hfree : s.owner = none) (ht : t = { s.goto w .check with owner := some w })
  | pass (hpc : s.workers w = .check) (hpred : s.stop = true ∨ s.tasks ≠ []) (ht : t = s.goto w .inner)
  | block (hpc : s.workers w = .check) (hstop : s.stop = false) (ht : t = s.goto w .sleep)
  | sleep (hpc : s.workers w = .sleep) (ht : t = { s.goto w .asleep with owner := none })
  | drained (hpc : s.workers w = .inner) (hstop : s.stop = true) (hempty : s.tasks = [])
    (ht : t = { s.goto w .exited with owner := none })
  | stay (hpc : s.workers w = .inner) (hmore : s.stop = true → s.tasks ≠ []) (ht : t = s.goto w .take)
  | take (task : ℕ) (rest : List ℕ) (hpc : s.workers w = .take) (htasks : s.tasks = task :: rest)
    (ht : t = { s.goto w (.run task) with tasks := rest, activeTasks := s.activeTasks + 1, owner := none })
  | execute (task : ℕ) (hpc : s.workers w = .run task)
    (ht : t = { s.goto w .finish with executed := s.executed ++ [task] })
  | finish (hpc : s.workers w = .finish) (hfree : s.owner = none)
    (ht : t = { s.goto w .loop with activeTasks := s.activeTasks - 1 })

theorem workerStep_cases {s t : ThreadPool n} {w : Fin n} (h : s.workerStep w = some t) : WorkerMove s w t := by
  unfold workerStep at h
  cases hpc : s.workers w with
  | loop =>
    rw [hpc] at h
    have ht := (Option.some.inj h).symm
    by_cases hstop : s.stop = true
    · exact .quit hpc hstop (by rwa [if_pos hstop] at ht)
    · exact .enter hpc (Bool.eq_false_iff.2 hstop) (by rwa [if_neg hstop] at ht)
  | lock =>
    rw [hpc] at h
    obtain ⟨hfree, ht⟩ := guarded h
    exact .lock hpc hfree ht
  | check =>
    rw [hpc] at h
    have ht := (Option.some.inj h).symm
    by_cases hpred : (s.stop || !s.tasks.isEmpty) = true
    · exact .pass hpc (by simpa using hpred) (by rwa [if_pos hpred] at ht)
    · have hstop : s.stop = false := by
        rw [Bool.or_eq_true, not_or, Bool.not_eq_true] at hpred
        exact hpred.1
      exact .block hpc hstop (by rwa [if_neg hpred] at ht)
  | sleep =>
    rw [hpc] at h
    exact .sleep hpc (Option.some.inj h).symm
  | asleep =>
    rw [hpc] at h
    cases h
  | inner =>
    rw [hpc] at h
    have ht := (Option.some.inj h).symm
    by_cases hempty : (s.stop && s.tasks.isEmpty) = true
    · rw [if_pos hempty] at ht
      rw [Bool.and_eq_true, List.isEmpty_iff] at hempty
      exact .drained hpc hempty.1 hempty.2 ht
    · rw [if_neg hempty] at ht
      exact .stay hpc (fun hstop hnil => hempty (by rw [hstop, hnil]; rfl)) ht
  | take =>
    rw [hpc] at h
    rcases htasks : s.tasks with _ | ⟨task, rest⟩
    · rw [htasks] at h
      cases h
    · rw [htasks] at h
      exact .take task rest hpc htasks (Option.some.inj h).symm
  | run task =>
    rw [hpc] at h
    exact .execute task hpc (Option.some.inj h).symm
  | finish =>
    rw [hpc] at h
    obtain ⟨hfree, ht⟩ := guarded h
    exact .finish hpc hfree ht
  | exited =>
    rw [hpc] at h
    cases h

/-- what a step of a worker changes: it moves, it takes a task, or it finishes one; it leaves only once `stop_` is set,
by the test of the loop or with an empty queue -/
inductive WorkerStep (s : ThreadPool n) (w : Fin n) (t : ThreadPool n) : Prop
  | move (pc : WorkerPc) (hthere : s.workers w ≠ .exited) (hnot : ∀ k, s.workers w ≠ .run k)
    (hpc : ∀ k, pc ≠ .run k) (hworkers : t.workers = update s.workers w pc) (htasks : t.tasks = s.tasks)
    (hexecuted : t.executed = s.executed)
    (hexit : pc = .exited → s.stop = true ∧ (s.workers w = .loop ∨ s.tasks = []))
    (hloop : s.workers w = .loop → s.stop = true → pc = .exited)
  | take (k : ℕ) (hpc : s.workers w = .take) (hworkers : t.workers = update s.workers w (.run k))
    (htasks : s.tasks = k :: t.tasks) (hexecuted : t.executed = s.executed)
  | execute (k : ℕ) (hpc : s.workers w = .run k) (hworkers : t.workers = update s.workers w .finish)
    (htasks : t.tasks = s.tasks) (hexecuted : t.executed = s.executed ++ [k])

theorem WorkerMove.workerStep {s t : ThreadPool n} {w : Fin n} (h : WorkerMove s w t) : WorkerStep s w t := by
  cases h with
  | enter hpc hstop ht =>
    subst ht
    exact .move .lock (by simp [hpc]) (by simp [hpc]) nofun rfl rfl rfl nofun (by simp [hstop])
  | quit hpc hstop ht =>
    subst ht
    exact .move .exited (by simp [hpc]) (by simp [hpc]) nofun rfl rfl rfl (fun _ => ⟨hstop, Or.inl hpc⟩) fun _ _ => rfl
  | lock hpc hfree ht =>
    subst ht
    exact .move .check (by simp [hpc]) (by simp [hpc]) nofun rfl rfl rfl nofun (by simp [hpc])
  | pass hpc hpred ht =>
    subst ht
    exact .move .inner (by simp [hpc]) (by simp [hpc]) nofun rfl rfl rfl nofun (by simp [hpc])
  | block hpc hstop ht =>
    subst ht
    exact .move .sleep (by simp [hpc]) (by simp [hpc]) nofun rfl rfl rfl nofun (by simp [hpc])
  | sleep hpc ht =>
    subst ht
    exact .move .asleep (by simp [hpc]) (by simp [hpc]) nofun rfl rfl rfl nofun (by simp [hpc])
  | drained hpc hstop hempty ht =>
    subst ht
    exact .move .exited (by simp [hpc]) (by simp [hpc]) nofun rfl rfl rfl (fun _ => ⟨hstop, Or.inr hempty⟩)
      fun _ _ => rfl
  | stay hpc hmore ht =>
    subst ht
    exact .move .take (by simp [hpc]) (by simp [hpc]) nofun rfl rfl rfl nofun (by simp [hpc])
  | take task rest hpc htasks ht =>
    subst ht
    exact .take task hpc rfl htasks rfl
  | execute task hpc ht =>
    subst ht
    exact .execute task hpc rfl rfl rfl
  | finish hpc hfree ht =>
    subst ht
    exact .move .loop (by simp [hpc]) (by simp [hpc]) nofun rfl rfl rfl nofun (by simp [hpc])

/-- a worker does not touch what the destructor and `Submit` write -/
theorem WorkerMove.frame {s t : ThreadPool n} {w : Fin n} (h : WorkerMove s w t) :
    t.stop = s.stop ∧ t.dtor = s.dtor ∧ t.submitted = s.submitted ∧ t.submittedBefore = s.submittedBefore := by
  cases h
  all_goals
    subst_vars
    exact ⟨rfl, rfl, rfl, rfl⟩

/-- what any step changes: a worker's step, a push, workers that are woken, or a step of the destructor -/
inductive PoolStep (s : ThreadPool n) (a : PoolAct n) (t : ThreadPool n) : Prop
  | worker (w : Fin n) (ha : a = .worker w) (hw : WorkerStep s w t) (hstop : t.stop = s.stop) (hdtor : t.dtor = s.dtor)
    (hsubmitted : t.submitted = s.submitted) (hbefore : t.submittedBefore = s.submittedBefore)
  | submit (ha : ∀ w, a ≠ .worker w) (ht : t = { s with
      tasks := s.tasks ++ [s.submitted]
      submitted := s.submitted + 1
      notifies := s.notifies + 1 })
  | wake (ha : ∀ w, a ≠ .worker w) (workers : Fin n → WorkerPc) (notifies : ℕ) (dtor : DtorPc)
    (hworkers : ∀ w, workers w = s.workers w ∨ s.workers w = .asleep ∧ workers w = .lock)
    (hdtor : dtor = s.dtor ∨ s.dtor = .stopping ∧ dtor = .joining 0)
    (ht : t = { s with workers := workers, notifies := notifies, dtor := dtor })
  | start (ha : ∀ w, a ≠ .worker w) (halive : s.dtor = .alive)
    (ht : t = { s with stop := true, dtor := .stopping, submittedBefore := s.submitted })
  | join (ha : ∀ w, a ≠ .worker w) (i : ℕ) (hi : i < n) (hdtor : s.dtor = .joining i)
    (hexited : s.workers ⟨i, hi⟩ = .exited) (ht : t = { s with dtor := .joining (i + 1) })
  | leave (ha : ∀ w, a ≠ .worker w) (i : ℕ) (hi : n ≤ i) (hdtor : s.dtor = .joining i)
    (ht : t = { s with dtor := .returned })

theorem dtorStep_spec {s t : ThreadPool n} (h : s.dtorStep = some t) : PoolStep s .destructor t := by
  unfold dtorStep at h
  cases hdtor : s.dtor with
  | alive =>
    rw [hdtor] at h
    exact .start nofun hdtor (Option.some.inj h).symm
  | stopping =>
    rw [hdtor] at h
    refine .wake nofun _ s.notifies _ (fun w => ?_) (Or.inr ⟨hdtor, rfl⟩) (Option.some.inj h).symm
    by_cases hw : s.workers w = .asleep
    · exact Or.inr ⟨hw, if_pos hw⟩
    · exact Or.inl (if_neg hw)
  | joining i =>
    rw [hdtor] at h
    by_cases hi : i < n
    · simp only [dif_pos hi] at h
      obtain ⟨hexited, ht⟩ := guarded h
      exact .join nofun i hi hdtor hexited ht
    · simp only [dif_neg hi] at h
      exact .leave nofun i (not_lt.1 hi) hdtor (Option.some.inj h).symm
  | returned =>
    rw [hdtor] at h
    cases h

theorem step_spec {s t : ThreadPool n} {a : PoolAct n} (h : Enabled step s a t) : PoolStep s a t := by
  have hwake : ∀ w v, s.workers w = .asleep → update s.workers w .lock v = s.workers v ∨
      s.workers v = .asleep ∧ update s.workers w .lock v = .lock := by
    intro w v hw
    by_cases hv : v = w
    · subst hv
      exact Or.inr ⟨hw, update_self _ _ _⟩
    · exact Or.inl (update_of_ne hv _ _)
  unfold Enabled step at h
  cases a with
  | submit => exact .submit nofun (guarded h).2
  | notifyOne woken =>
    cases woken with
    | some w =>
      obtain ⟨⟨-, hw⟩, ht⟩ := guarded h
      exact .wake nofun _ _ s.dtor (fun v => hwake w v hw) (Or.inl rfl) ht
    | none => exact .wake nofun s.workers _ s.dtor (fun _ => Or.inl rfl) (Or.inl rfl) (guarded h).2
  | worker w =>
    have hmove := workerStep_cases h
    obtain ⟨hstop, hdtor, hsubmitted, hbefore⟩ := hmove.frame
    exact .worker w rfl hmove.workerStep hstop hdtor hsubmitted hbefore
  | spurious w =>
    obtain ⟨hw, ht⟩ := guarded h
    exact .wake nofun _ s.notifies s.dtor (fun v => hwake w v hw) (Or.inl rfl) ht
  | destructor => exact dtorStep_spec h

/-! ## The mutex -/

/-- `mutex_` is owned by the worker that stands in a critical section, and by no other -/
def Owned (s : ThreadPool n) : Prop := Locks.Owned (fun _ : Unit => s.owner) fun w _ => (s.workers w).Holds

/-- behind `wait` there is a task, or `stop_` is set; behind the test there is a task -/
structure Ready (s : ThreadPool n) : Prop where
  inner : ∀ w, s.workers w = .inner → s.stop = true ∨ s.tasks ≠ []
  take : ∀ w, s.workers w = .take → s.tasks ≠ []

/-- a worker moves within a critical section or outside of one -/
theorem Owned.goto {s : ThreadPool n} (h : s.Owned) {w : Fin n} {pc : WorkerPc}
    (hpc : pc.Holds ↔ (s.workers w).Holds) : (s.goto w pc).Owned := by
  refine Locks.Owned.congr h fun v _ => ?_
  by_cases hv : v = w
  · subst hv
    simpa [ThreadPool.goto] using hpc
  · simp [ThreadPool.goto, update_of_ne hv]

theorem Owned.lock {s t : ThreadPool n} (h : s.Owned) (w : Fin n) (pc : WorkerPc) (hfree : s.owner = none)
    (hpc : pc.Holds) (hworkers : t.workers = update s.workers w pc) (howner : t.owner = some w) : t.Owned := by
  have hconst : update (fun _ : Unit => s.owner) () (some w) = fun _ => t.owner :=
    funext fun _ => (update_self _ _ _).trans howner.symm
  rw [Owned, ← hconst]
  refine Locks.Owned.lock h hfree fun v _ => ?_
  rw [hworkers]
  by_cases hv : v = w
  · subst hv
    simp [hpc]
  · simp [hv]

theorem Owned.unlock {s t : ThreadPool n} (h : s.Owned) (w : Fin n) (pc : WorkerPc) (hheld : (s.workers w).Holds)
    (hpc : ¬ pc.Holds) (hworkers : t.workers = update s.workers w pc) (howner : t.owner = none) : t.Owned := by
  have hconst : update (fun _ : Unit => s.owner) () none = fun _ => t.owner :=
    funext fun _ => (update_self _ _ _).trans howner.symm
  rw [Owned, ← hconst]
  refine Locks.Owned.unlock h hheld fun v _ => ?_
  rw [hworkers]
  by_cases hv : v = w
  · subst hv
    simp [hpc]
  · simp [hv]

/-- a worker moves, and the queue stays as it is -/
theorem Ready.goto {s t : ThreadPool n} (h : s.Ready) (w : Fin n) (pc : WorkerPc)
    (hinner : pc = .inner → s.stop = true ∨ s.tasks ≠ []) (htake : pc = .take → s.tasks ≠ [])
    (hworkers : t.workers = update s.workers w pc) (hstop : t.stop = s.stop) (htasks : t.tasks = s.tasks) :
    t.Ready := by
  refine ⟨fun v hv => ?_, fun v hv => ?_⟩
  all_goals
    rw [hworkers] at hv
    by_cases hvw : v = w
    · rw [hvw, update_self] at hv
      simp_all
    · rw [update_of_ne hvw] at hv
      simp only [hstop, htasks]
      first | exact h.inner v hv | exact h.take v hv

/-- the worker that leaves its critical section leaves none in theirs, whatever becomes of the queue -/
theorem ready_of_alone {s t : ThreadPool n} (ho : s.Owned) {w : Fin n} {pc : WorkerPc} (hheld : (s.workers w).Holds)
    (hpc : ¬ pc.Holds) (hworkers : t.workers = update s.workers w pc) : t.Ready := by
  have hnone : ∀ v, ¬ (t.workers v).Holds := by
    intro v
    rw [hworkers]
    by_cases hv : v = w
    · rw [hv, update_self]
      exact hpc
    · rw [update_of_ne hv]
      exact fun hholds => hv (Locks.Owned.exclusive ho (m := ()) hholds hheld)
  refine ⟨fun v hv => ?_, fun v hv => ?_⟩
  · exact absurd (by rw [hv]; trivial) (hnone v)
  · exact absurd (by rw [hv]; trivial) (hnone v)

theorem WorkerMove.ready {s t : ThreadPool n} {w : Fin n} (h : WorkerMove s w t) (ho : s.Owned) (hr : s.Ready) :
    t.Owned ∧ t.Ready := by
  cases h with
  | enter hpc hstop ht =>
    subst ht
    exact ⟨ho.goto (by simp [WorkerPc.Holds, hpc]), hr.goto w .lock nofun nofun rfl rfl rfl⟩
  | quit hpc hstop ht =>
    subst ht
    exact ⟨ho.goto (by simp [WorkerPc.Holds, hpc]), hr.goto w .exited nofun nofun rfl rfl rfl⟩
  | lock hpc hfree ht =>
    subst ht
    exact ⟨ho.lock w .check hfree trivial rfl rfl, hr.goto w .check nofun nofun rfl rfl rfl⟩
  | pass hpc hpred ht =>
    subst ht
    exact ⟨ho.goto (by simp [WorkerPc.Holds, hpc]), hr.goto w .inner (fun _ => hpred) nofun rfl rfl rfl⟩
  | block hpc hstop ht =>
    subst ht
    exact ⟨ho.goto (by simp [WorkerPc.Holds, hpc]), hr.goto w .sleep nofun nofun rfl rfl rfl⟩
  | sleep hpc ht =>
    subst ht
    exact ⟨ho.unlock w .asleep (hpc ▸ trivial) id rfl rfl, hr.goto w .asleep nofun nofun rfl rfl rfl⟩
  | drained hpc hstop hempty ht =>
    subst ht
    exact ⟨ho.unlock w .exited (hpc ▸ trivial) id rfl rfl, hr.goto w .exited nofun nofun rfl rfl rfl⟩
  | stay hpc hmore ht =>
    subst ht
    refine ⟨ho.goto (by simp [WorkerPc.Holds, hpc]), hr.goto w .take nofun (fun _ => ?_) rfl rfl rfl⟩
    exact (hr.inner w hpc).elim hmore id
  | take task rest hpc htasks ht =>
    subst ht
    exact ⟨ho.unlock w (.run task) (hpc ▸ trivial) id rfl rfl, ready_of_alone ho (hpc ▸ trivial) id rfl⟩
  | execute task hpc ht =>
    subst ht
    exact ⟨ho.goto (by simp [WorkerPc.Holds, hpc]), hr.goto w .finish nofun nofun rfl rfl rfl⟩
  | finish hpc hfree ht =>
    subst ht
    exact ⟨ho.goto (by simp [WorkerPc.Holds, hpc]), hr.goto w .loop nofun nofun rfl rfl rfl⟩

theorem step_ready {s t : ThreadPool n} {a : PoolAct n} (h : Enabled step s a t) (ho : s.Owned) (hr : s.Ready) :
    t.Owned ∧ t.Ready := by
  rcases step_spec h with ⟨w, rfl, -⟩ | ⟨-, rfl⟩ | ⟨-, workers, notifies, dtor, hworkers, -, rfl⟩ | ⟨-, -, rfl⟩ |
    ⟨-, i, hi, -, -, rfl⟩ | ⟨-, i, hi, -, rfl⟩
  · exact (workerStep_cases h).ready ho hr
  · have happend : s.tasks ++ [s.submitted] ≠ [] := by simp
    exact ⟨ho, fun _ _ => Or.inr happend, fun _ _ => happend⟩
  · have hsame : ∀ w pc, pc ≠ .lock → workers w = pc → s.workers w = pc := by
      intro w pc hpc hw
      rcases hworkers w with heq | ⟨-, hlock⟩
      · exact heq.symm.trans hw
      · exact absurd (hw.symm.trans hlock) hpc
    refine ⟨Locks.Owned.congr ho fun w _ => ?_, fun w hw => hr.inner w (hsame w _ nofun hw),
      fun w hw => hr.take w (hsame w _ nofun hw)⟩
    show (workers w).Holds ↔ (s.workers w).Holds
    rcases hworkers w with heq | ⟨hasleep, hlock⟩
    · rw [heq]
    · simp [hasleep, hlock, WorkerPc.Holds]
  · exact ⟨ho, fun _ _ => Or.inl rfl, hr.take⟩
  · exact ⟨ho, hr.inner, hr.take⟩
  · exact ⟨ho, hr.inner, hr.take⟩

theorem ready_of_run {s : ThreadPool n} {as : List (PoolAct n)} (h : Run (Enabled step) (init n) as s) :
    s.Owned ∧ s.Ready :=
  h.inv (P := fun s => s.Owned ∧ s.Ready) (fun _ _ _ hs hstep => step_ready hstep hs.1 hs.2)
    ⟨fun w _ => by simp [init, WorkerPc.Holds], nofun, nofun⟩

/-- **`tasks_.front()` has a task to return**: in every run, a worker that is about to take a task finds one -/
theorem take_ready {s : ThreadPool n} {as : List (PoolAct n)} (h : Run (Enabled step) (init n) as s) {w : Fin n}
    (hw : s.workers w = .take) : s.tasks ≠ [] := (ready_of_run h).2.take w hw

/-! ## Where the tasks are -/

/-- the copies of task k: in the queue, with the workers, and executed -/
def copies (s : ThreadPool n) (k : ℕ) : ℕ :=
  s.tasks.count k + (∑ w, (s.workers w).holding k) + s.executed.count k

/-- a sum in which one summand changes -/
theorem sum_update {ι σ : Type*} [Fintype ι] [DecidableEq ι] (g : σ → ℕ) (f : ι → σ) (i : ι) (a : σ) :
    (∑ j, g (update f i a j)) + g (f i) = (∑ j, g (f j)) + g a := by
  have hrest : ∑ j ∈ Finset.univ.erase i, g (update f i a j) = ∑ j ∈ Finset.univ.erase i, g (f j) := by
    refine Finset.sum_congr rfl fun j hj => ?_
    rw [update_of_ne (Finset.ne_of_mem_erase hj)]
  rw [← Finset.sum_erase_add _ _ (Finset.mem_univ i), ← Finset.sum_erase_add _ (fun j => g (f j)) (Finset.mem_univ i),
    hrest, update_self]
  omega

theorem copies_workerStep {s t : ThreadPool n} {w : Fin n} (h : WorkerStep s w t) (k : ℕ) :
    t.copies k = s.copies k := by
  rcases h with ⟨pc, -, hnot, hpc, hworkers, htasks, hexecuted, -⟩ | ⟨task, hpc, hworkers, htasks, hexecuted⟩ |
    ⟨task, hpc, hworkers, htasks, hexecuted⟩
  · have hsum := sum_update (WorkerPc.holding k) s.workers w pc
    rw [WorkerPc.holding_of_ne_run hnot, WorkerPc.holding_of_ne_run hpc] at hsum
    simp only [copies, hworkers, htasks, hexecuted]
    omega
  · have hsum := sum_update (WorkerPc.holding k) s.workers w (.run task)
    have htake : WorkerPc.take.holding k = 0 := rfl
    rw [hpc, htake, WorkerPc.holding_run] at hsum
    simp only [copies, hworkers, htasks, hexecuted, List.count_cons, beq_iff_eq]
    omega
  · have hsum := sum_update (WorkerPc.holding k) s.workers w .finish
    have hfinish : WorkerPc.finish.holding k = 0 := rfl
    rw [hpc, hfinish, WorkerPc.holding_run] at hsum
    simp only [copies, hworkers, htasks, hexecuted, List.count_append, List.count_singleton, beq_iff_eq]
    omega

/-- every task submitted so far is in one place, once -/
def Accounted (s : ThreadPool n) : Prop := ∀ k, s.copies k = if k < s.submitted then 1 else 0

theorem step_accounted {s t : ThreadPool n} {a : PoolAct n} (hs : s.Accounted) (h : Enabled step s a t) :
    t.Accounted := by
  intro k
  have hk := hs k
  rcases step_spec h with ⟨w, -, hw, -, -, hsubmitted, -⟩ | ⟨-, rfl⟩ |
    ⟨-, workers, notifies, dtor, hworkers, -, rfl⟩ | ⟨-, -, rfl⟩ | ⟨-, i, hi, -, -, rfl⟩ | ⟨-, i, hi, -, rfl⟩
  · rw [copies_workerStep hw, hsubmitted]
    exact hk
  · simp only [copies, List.count_append, List.count_singleton, beq_iff_eq] at hk ⊢
    split_ifs at hk ⊢ <;> omega
  · have hholding : ∀ w, (workers w).holding k = (s.workers w).holding k := by
      intro w
      rcases hworkers w with heq | ⟨hw, hlock⟩
      · rw [heq]
      · rw [hw, hlock]
        rfl
    simp only [copies, hholding] at hk ⊢
    exact hk
  · exact hk
  · exact hk
  · exact hk

/-- **No task is lost or doubled** while the pool exists: each one submitted is in the queue, with one worker, or
executed, in every run -/
theorem copies_of_run {s : ThreadPool n} {as : List (PoolAct n)} (h : Run (Enabled step) (init n) as s) :
    s.Accounted := by
  refine h.inv (P := Accounted) (fun _ _ _ hs hstep => step_accounted hs hstep) ?_
  simp [Accounted, copies, init, WorkerPc.holding]

theorem executed_le_one {s : ThreadPool n} {as : List (PoolAct n)} (h : Run (Enabled step) (init n) as s) (k : ℕ) :
    s.executed.count k ≤ 1 := by
  have hk := copies_of_run h k
  unfold copies at hk
  split_ifs at hk <;> omega

/-! ## The destructor -/

/-- a worker leaves only once `stop_` is set, so none has left before the destructor starts -/
structure Stopping (s : ThreadPool n) : Prop where
  before : s.submittedBefore ≤ s.submitted
  exited : ∀ w, s.workers w = .exited → s.stop = true
  alive : s.dtor = .alive → s.stop = false ∧ s.submittedBefore = 0
  joined : ∀ i w, s.dtor = .joining i → w.val < i → s.workers w = .exited
  returned : s.dtor = .returned → ∀ w, s.workers w = .exited

theorem WorkerStep.there {s t : ThreadPool n} {w : Fin n} (h : WorkerStep s w t) : s.workers w ≠ .exited := by
  rcases h with ⟨pc, hthere, -⟩ | ⟨k, hpc, -⟩ | ⟨k, hpc, -⟩
  · exact hthere
  · simp [hpc]
  · simp [hpc]

/-- a worker that has left stays away -/
theorem WorkerStep.stays {s t : ThreadPool n} {w v : Fin n} (h : WorkerStep s w t) (hv : s.workers v = .exited) :
    t.workers v = .exited := by
  have hne : v ≠ w := by
    rintro rfl
    exact h.there hv
  rcases h with ⟨pc, -, -, -, hworkers, -⟩ | ⟨k, -, hworkers, -⟩ | ⟨k, -, hworkers, -⟩
  all_goals rw [hworkers, update_of_ne hne, hv]

/-- a worker that has left after a step: before, or by it -/
theorem WorkerStep.left {s t : ThreadPool n} {w v : Fin n} (h : WorkerStep s w t) (hv : t.workers v = .exited) :
    s.workers v = .exited ∨
      v = w ∧ s.stop = true ∧ (s.workers w = .loop ∨ s.tasks = []) ∧ t.tasks = s.tasks := by
  by_cases hne : v = w
  · subst hne
    rcases h with ⟨pc, -, -, -, hworkers, htasks, -, hexit, -⟩ | ⟨k, -, hworkers, -⟩ | ⟨k, -, hworkers, -⟩
    all_goals rw [hworkers, update_self] at hv
    · obtain ⟨hstop, hempty⟩ := hexit hv
      exact Or.inr ⟨rfl, hstop, hempty, htasks⟩
    · cases hv
    · cases hv
  · left
    rcases h with ⟨pc, -, -, -, hworkers, -⟩ | ⟨k, -, hworkers, -⟩ | ⟨k, -, hworkers, -⟩
    all_goals rwa [hworkers, update_of_ne hne] at hv

/-- waking changes nothing about who has left -/
theorem exited_wake {s : ThreadPool n} {workers : Fin n → WorkerPc}
    (h : ∀ w, workers w = s.workers w ∨ s.workers w = .asleep ∧ workers w = .lock) (w : Fin n) :
    workers w = .exited ↔ s.workers w = .exited := by
  rcases h w with heq | ⟨hs, hlock⟩
  · rw [heq]
  · simp [hs, hlock]

theorem step_stopping {s t : ThreadPool n} {a : PoolAct n} (hs : s.Stopping) (h : Enabled step s a t) :
    t.Stopping := by
  rcases step_spec h with ⟨w, -, hw, hstop, hdtor, hsubmitted, hbefore⟩ | ⟨-, rfl⟩ |
    ⟨-, workers, notifies, dtor, hworkers, hdtor, rfl⟩ | ⟨-, -, rfl⟩ | ⟨-, i, hi, hdtor, hexited, rfl⟩ |
    ⟨-, i, hi, hdtor, rfl⟩
  · refine ⟨by rw [hbefore, hsubmitted]; exact hs.before, fun v hv => ?_, fun halive => ?_, fun i v hi hv => ?_,
      fun hreturned v => ?_⟩
    · rw [hstop]
      rcases hw.left hv with hv | ⟨-, hset, -⟩
      · exact hs.exited v hv
      · exact hset
    · rw [hstop, hbefore]
      exact hs.alive (hdtor.symm.trans halive)
    · exact hw.stays (hs.joined i v (hdtor.symm.trans hi) hv)
    · exact hw.stays (hs.returned (hdtor.symm.trans hreturned) v)
  · exact ⟨Nat.le_succ_of_le hs.before, hs.exited, hs.alive, hs.joined, hs.returned⟩
  · have hexited := exited_wake hworkers
    refine ⟨hs.before, fun w hw => hs.exited w ((hexited w).1 hw), fun halive => ?_, fun i w hi hw => ?_,
      fun hreturned w => ?_⟩
    · rcases hdtor with rfl | ⟨-, rfl⟩
      · exact hs.alive halive
      · cases halive
    · rcases hdtor with rfl | ⟨-, rfl⟩
      · exact (hexited w).2 (hs.joined i w hi hw)
      · obtain rfl := DtorPc.joining.inj hi
        exact absurd hw (Nat.not_lt_zero _)
    · rcases hdtor with rfl | ⟨-, rfl⟩
      · exact (hexited w).2 (hs.returned hreturned w)
      · cases hreturned
  · exact ⟨le_rfl, fun _ _ => rfl, nofun, nofun, nofun⟩
  · refine ⟨hs.before, hs.exited, nofun, fun j w hj hw => ?_, nofun⟩
    obtain rfl := DtorPc.joining.inj hj
    rcases Nat.lt_succ_iff_lt_or_eq.1 hw with hlt | heq
    · exact hs.joined i w hdtor hlt
    · have hwi : w = ⟨i, hi⟩ := Fin.ext heq
      rw [hwi]
      exact hexited
  · refine ⟨hs.before, hs.exited, nofun, nofun, fun _ w => hs.joined i w hdtor (lt_of_lt_of_le w.isLt hi)⟩

theorem stopping_of_run {s : ThreadPool n} {as : List (PoolAct n)} (h : Run (Enabled step) (init n) as s) :
    s.Stopping :=
  h.inv (P := Stopping) (fun _ _ _ hs hstep => step_stopping hs hstep)
    ⟨le_rfl, nofun, fun _ => ⟨rfl, rfl⟩, nofun, nofun⟩

/-- all workers have left, and a task submitted before the destructor is still in the queue -/
def Stranded (s : ThreadPool n) : Prop := (∀ w, s.workers w = .exited) ∧ ∃ k ∈ s.tasks, k < s.submittedBefore

/-- the last worker does not leave by `while (!stop_)` with a task in the queue that was submitted before the
destructor -/
def LastLeavesNone (s : ThreadPool n) (a : PoolAct n) : Prop :=
  ∀ w, a = .worker w → s.workers w = .loop → s.stop = true → (∀ v, v ≠ w → s.workers v = .exited) →
    ∀ k ∈ s.tasks, s.submittedBefore ≤ k

/-- a worker's step strands a task only as the last one that leaves by the test of the loop -/
theorem stranded_workerStep_iff {s t : ThreadPool n} {w : Fin n} (h : WorkerStep s w t)
    (hbefore : t.submittedBefore = s.submittedBefore) : ¬ t.Stranded ↔ s.LastLeavesNone (.worker w) := by
  constructor
  · rintro ht v ⟨⟩ hloop hstop hothers k hk
    by_contra hearly
    rcases h with ⟨pc, -, -, -, hworkers, htasks, -, -, hexit⟩ | ⟨task, hpc, -⟩ | ⟨task, hpc, -⟩
    · refine ht ⟨fun v => ?_, k, htasks ▸ hk, by rw [hbefore]; omega⟩
      rw [hworkers, hexit hloop hstop]
      by_cases hv : v = w
      · rw [hv, update_self]
      · rw [update_of_ne hv, hothers v hv]
    · rw [hpc] at hloop
      cases hloop
    · rw [hpc] at hloop
      cases hloop
  · rintro hnone ⟨hall, k, hk, hearly⟩
    -- the worker has just left, and not with an empty queue
    rcases h.left (hall w) with hw | ⟨-, hstop, hway, htasks⟩
    · exact h.there hw
    · rw [htasks] at hk
      rcases hway with hloop | hempty
      · have hothers : ∀ v, v ≠ w → s.workers v = .exited := by
          intro v hv
          rcases h.left (hall v) with hv' | ⟨hvw, -⟩
          · exact hv'
          · exact absurd hvw hv
        have hle := hnone w rfl hloop hstop hothers k hk
        omega
      · rw [hempty] at hk
        cases hk

/-- one step: nothing is stranded by any other way to leave -/
theorem stranded_step_iff (hn : 1 ≤ n) {s t : ThreadPool n} {a : PoolAct n} (hs : s.Stopping) (hgood : ¬ s.Stranded)
    (h : Enabled step s a t) : ¬ t.Stranded ↔ s.LastLeavesNone a := by
  rcases step_spec h with ⟨w, rfl, hw, -, -, -, hbefore⟩ | ⟨ha, rfl⟩ | ⟨ha, workers, notifies, dtor, hworkers, -, rfl⟩ |
    ⟨ha, halive, rfl⟩ | ⟨ha, i, hi, -, -, rfl⟩ | ⟨ha, i, hi, -, rfl⟩
  · exact stranded_workerStep_iff hw hbefore
  · refine iff_of_true ?_ fun w hw => absurd hw (ha w)
    rintro ⟨hall, k, hk, hearly⟩
    rcases List.mem_append.1 hk with hk | hk
    · exact hgood ⟨hall, k, hk, hearly⟩
    · have hle := hs.before
      have hlast := List.mem_singleton.1 hk
      simp only at hearly
      omega
  · refine iff_of_true ?_ fun w hw => absurd hw (ha w)
    rintro ⟨hall, hearly⟩
    exact hgood ⟨fun w => (exited_wake hworkers w).1 (hall w), hearly⟩
  · refine iff_of_true ?_ fun w hw => absurd hw (ha w)
    rintro ⟨hall, -⟩
    have hstop := hs.exited _ (hall ⟨0, hn⟩)
    rw [(hs.alive halive).1] at hstop
    cases hstop
  · exact iff_of_true hgood fun w hw => absurd hw (ha w)
  · exact iff_of_true hgood fun w hw => absurd hw (ha w)

/-- nobody comes back for a stranded task -/
theorem stranded_forever (hn : 1 ≤ n) {s t : ThreadPool n} {as : List (PoolAct n)} (h : Run (Enabled step) s as t)
    (hs : s.Stopping) (hstranded : s.Stranded) : t.Stranded := by
  induction h with
  | nil s => exact hstranded
  | @cons s u t a as hstep _ ih =>
    apply ih (step_stopping hs hstep)
    obtain ⟨hall, k, hk, hearly⟩ := hstranded
    rcases step_spec hstep with ⟨w, -, hw, -⟩ | ⟨-, rfl⟩ | ⟨-, workers, notifies, dtor, hworkers, -, rfl⟩ |
      ⟨-, halive, rfl⟩ | ⟨-, i, hi, -, -, rfl⟩ | ⟨-, i, hi, -, rfl⟩
    · exact absurd (hall w) hw.there
    · exact ⟨hall, k, List.mem_append_left _ hk, hearly⟩
    · exact ⟨fun w => (exited_wake hworkers w).2 (hall w), k, hk, hearly⟩
    · have hstop := hs.exited _ (hall ⟨0, hn⟩)
      rw [(hs.alive halive).1] at hstop
      cases hstop
    · exact ⟨hall, k, hk, hearly⟩
    · exact ⟨hall, k, hk, hearly⟩

/-- where all workers have left, what is not stranded is executed -/
theorem all_executed_iff_not_stranded {s : ThreadPool n} {as : List (PoolAct n)}
    (h : Run (Enabled step) (init n) as s) (hall : ∀ w, s.workers w = .exited) :
    (∀ k < s.submittedBefore, s.executed.count k = 1) ↔ ¬ s.Stranded := by
  have hbefore := (stopping_of_run h).before
  have hcount : ∀ k < s.submittedBefore, s.tasks.count k + s.executed.count k = 1 := by
    intro k hk
    have hcopies := copies_of_run h k
    have hholding : (∑ w, (s.workers w).holding k) = 0 :=
      Finset.sum_eq_zero fun w _ => by rw [hall w]; rfl
    rw [if_pos (by omega), copies, hholding] at hcopies
    omega
  constructor
  · rintro hexecuted ⟨-, k, hk, hearly⟩
    have hpos := List.count_pos_iff.2 hk
    have hone := hcount k hearly
    rw [hexecuted k hearly] at hone
    omega
  · intro hnot k hk
    have hqueue : s.tasks.count k = 0 := List.count_eq_zero.2 fun hmem => hnot ⟨hall, k, hmem, hk⟩
    have hone := hcount k hk
    omega

/-- **When the destructor returns**, each task submitted before it has been executed exactly once, if and only if at no
step the last worker left by `while (!stop_)` with such a task in the queue -/
theorem all_executed_iff (hn : 1 ≤ n) {t : ThreadPool n} {as : List (PoolAct n)}
    (h : Run (Enabled step) (init n) as t) (ht : t.dtor = .returned) :
    (∀ k < t.submittedBefore, t.executed.count k = 1) ↔
      ∀ s a, Taken (Enabled step) (init n) as t s a → s.LastLeavesNone a := by
  have hinit : ¬ (init n).Stranded := by
    rintro ⟨hall, -⟩
    exact absurd (hall ⟨0, hn⟩) (by simp [init])
  have hgood : (∀ s, Visited (Enabled step) (init n) as t s → ¬ s.Stranded) ↔
      ∀ s a, Taken (Enabled step) (init n) as t s a → s.LastLeavesNone a :=
    never_bad_iff (I := Stopping) (Q := LastLeavesNone) (fun s a u hs hstep => step_stopping (a := a) hs hstep)
      (fun s a u hs hgood hstep => stranded_step_iff hn hs hgood hstep) (stopping_of_run (.nil _)) hinit
  rw [all_executed_iff_not_stranded h ((stopping_of_run h).returned ht), ← hgood]
  constructor
  · rintro hnot s ⟨as1, as2, -, hfirst, hrest⟩ hstranded
    exact hnot (stranded_forever hn hrest (stopping_of_run hfirst) hstranded)
  · intro hnever
    exact hnever t ⟨as, [], by simp, h, .nil t⟩

/-- one worker, which executes the task before it leaves -/
theorem all_executed_iff_one : ∃ as t, Run (Enabled step) (init 1) as t ∧ t.dtor = .returned ∧ t.submittedBefore = 1 ∧
    ((∀ k < t.submittedBefore, t.executed.count k = 1) ↔
      ∀ s a, Taken (Enabled step) (init 1) as t s a → s.LastLeavesNone a) := by
  have hrun : Run (Enabled step) (init 1) [.submit, .notifyOne none, .worker 0, .worker 0, .worker 0, .worker 0,
      .worker 0, .destructor, .worker 0, .worker 0, .worker 0, .destructor, .destructor, .destructor] _ :=
    run_iff_foldlM.2 rfl
  exact ⟨_, _, hrun, rfl, rfl, all_executed_iff le_rfl hrun rfl⟩

/-- **A queued task is lost**: the worker finds `stop_` set at its next test of the loop -/
theorem queued_task_lost : ¬ ∀ (n : ℕ) (as : List (PoolAct n)) (t : ThreadPool n), 1 ≤ n →
    Run (Enabled step) (init n) as t → t.dtor = .returned → ∀ k < t.submittedBefore, t.executed.count k = 1 := by
  intro h
  have hrun : Run (Enabled step) (init 1) [.submit, .notifyOne none, .destructor, .worker 0, .destructor, .destructor,
      .destructor] _ := run_iff_foldlM.2 rfl
  have hlost := h 1 _ _ le_rfl hrun rfl 0 Nat.one_pos
  revert hlost
  decide

end ThreadPool

end Rtcom
