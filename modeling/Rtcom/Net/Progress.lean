/-
What a live `ThreadPool` does when it is left alone, whatever the threads do in between: `Working` are the steps of the
workers, of the threads inside `WaitAll`, and the `notify_one` that a `Submit` still owes.

- `started_in_order`: tasks are started in the order in which they were pushed; when one is started, fewer than n of
  those before it are not finished, so that one worker runs them one after the other.
- `Tended`, `Attended`: while there is a task, a worker is awake or about to be notified, and while a thread sleeps in
  `WaitAll`, there is a task, one is active, or a worker is about to notify it.
- `work_ends`: from any state of any run, the pool takes at most `work` steps of its own, and where it can take no more,
  all tasks are finished and all calls of `WaitAll` have returned.
-/
import Mathlib.Tactic
import Rtcom.Net.WaitAll

namespace Rtcom

open Runs Function

/-! ## Order -/

namespace LivePool

variable {n m : ℕ}

/-- the tasks pushed before task k that are not finished -/
def openBefore (s : LivePool n m) (k : ℕ) : Finset ℕ := (Finset.range k).filter fun j => j ∉ s.finished

/-- tasks are started as they were pushed, and fewer than n of those before one that is started are not finished -/
structure InOrder (s : LivePool n m) : Prop where
  queue : s.started ++ s.pool.tasks = List.range s.pool.submitted
  few : ∀ k ∈ s.started, (s.openBefore k).card < n

theorem finished_started {s : LivePool n m} (hb : s.Books) {k : ℕ} (hk : k ∈ s.finished) : k ∈ s.started := by
  have hexecuted := hb.executed k
  have hstarted := hb.started k
  have hpos := List.count_pos_iff.2 hk
  rw [← List.count_pos_iff]
  omega

theorem finished_nodup {s : LivePool n m} (hb : s.Books) (ha : s.pool.Accounted) : s.finished.Nodup := by
  rw [List.nodup_iff_count_le_one]
  intro k
  have hcopies := ha k
  have hexecuted := hb.executed k
  unfold ThreadPool.copies at hcopies
  split_ifs at hcopies <;> omega

/-- with a worker between two tasks, fewer than n are active -/
theorem active_lt {s : LivePool n m} (hb : s.Books) {w : Fin n} (hidle : (s.pool.workers w).busy = 0) :
    s.pool.activeTasks < n := by
  have hle : ∀ v, (s.pool.workers v).busy ≤ 1 := by
    intro v
    cases s.pool.workers v <;> simp [WorkerPc.busy]
  have hlt : ∑ v, (s.pool.workers v).busy < ∑ _v : Fin n, 1 :=
    Finset.sum_lt_sum (fun v _ => hle v) ⟨w, Finset.mem_univ w, by rw [hidle]; exact one_pos⟩
  rw [hb.active]
  simpa using hlt

theorem InOrder.started_eq {s : LivePool n m} (hs : s.InOrder) : s.started = List.range s.started.length := by
  have htake := congrArg (List.take s.started.length) hs.queue
  rw [List.take_left, List.take_range] at htake
  have hlen := congrArg List.length hs.queue
  rw [List.length_append, List.length_range] at hlen
  rwa [min_eq_left (by omega)] at htake

/-- the tasks started and not finished are the active ones -/
theorem card_openBefore {s : LivePool n m} (hb : s.Books) (ha : s.pool.Accounted) (hs : s.InOrder) :
    (s.openBefore s.started.length).card = s.pool.activeTasks := by
  have hsub : s.finished.toFinset ⊆ Finset.range s.started.length := by
    intro k hk
    have hmem := finished_started hb (List.mem_toFinset.1 hk)
    rw [hs.started_eq, List.mem_range] at hmem
    exact Finset.mem_range.2 hmem
  have heq : s.openBefore s.started.length = Finset.range s.started.length \ s.finished.toFinset := by
    ext k
    simp [openBefore]
  have hlen := congrArg List.length hs.queue
  rw [List.length_append, List.length_range] at hlen
  have hpushed := hb.pushed
  rw [heq, Finset.card_sdiff_of_subset hsub, Finset.card_range,
    List.toFinset_card_of_nodup (finished_nodup hb ha)]
  omega

/-- more is finished, nothing is started -/
theorem InOrder.finish {s t : LivePool n m} (hs : s.InOrder) (hstarted : t.started = s.started)
    (htasks : t.pool.tasks = s.pool.tasks) (hsubmitted : t.pool.submitted = s.pool.submitted)
    (hfinished : ∀ k ∈ s.finished, k ∈ t.finished) : t.InOrder := by
  refine ⟨by rw [hstarted, htasks, hsubmitted, hs.queue], fun k hk => ?_⟩
  rw [hstarted] at hk
  refine lt_of_le_of_lt (Finset.card_le_card ?_) (hs.few k hk)
  intro j hj
  rw [openBefore, Finset.mem_filter] at hj ⊢
  exact ⟨hj.1, fun hmem => hj.2 (hfinished j hmem)⟩

theorem step_inOrder {s t : LivePool n m} {a : LiveAct n m} (hb : s.Books) (ha : s.pool.Accounted) (hs : s.InOrder)
    (h : Enabled step s a t) : t.InOrder := by
  rcases step_spec h with rfl | ⟨workers, owner, notifies, -, rfl⟩ | ⟨w, task, rest, hpc, htasks, rfl⟩ |
    ⟨w, task, -, rfl⟩ | ⟨w, -, rfl⟩ | ⟨waiters, notifying, -, rfl⟩ | ⟨v, rfl⟩ | ⟨v, pc, owner, -, -, rfl⟩
  · refine ⟨?_, hs.few⟩
    rw [← List.append_assoc, hs.queue, List.range_succ]
  · exact hs.finish rfl rfl rfl fun _ hk => hk
  · refine ⟨?_, fun k hk => ?_⟩
    · rw [List.append_assoc, List.singleton_append, ← htasks, hs.queue]
    · rcases List.mem_append.1 hk with hk | hk
      · exact hs.few k hk
      · -- the task taken is the one behind those started
        rw [List.mem_singleton] at hk
        have hnext : task = s.started.length := by
          have hget := congrArg (fun l => l[s.started.length]?) hs.queue
          rw [htasks, List.getElem?_append_right le_rfl, Nat.sub_self, List.getElem?_cons_zero] at hget
          obtain ⟨_, heq⟩ := List.getElem?_eq_some_iff.1 hget.symm
          rw [List.getElem_range] at heq
          exact heq.symm
        have hfew := active_lt hb (w := w) (by rw [hpc]; rfl)
        rw [← card_openBefore hb ha hs] at hfew
        rw [hk, hnext]
        exact hfew
  · exact hs.finish rfl rfl rfl fun _ hk => hk
  · exact hs.finish rfl rfl rfl fun _ hk => List.mem_append_left _ hk
  · exact hs.finish rfl rfl rfl fun _ hk => hk
  · exact hs.finish rfl rfl rfl fun _ hk => hk
  · exact hs.finish rfl rfl rfl fun _ hk => hk

/-- **Order of the tasks**: in every interleaving of `Submit`, `WaitAll` and any number of workers, tasks are started in
the order in which they were pushed, and when one is started, all but n - 1 of those before it are finished -/
theorem started_in_order {s : LivePool n m} {as : List (LiveAct n m)} (h : Run (Enabled step) (init n m) as s) :
    s.started ++ s.pool.tasks = List.range s.pool.submitted ∧ ∀ k ∈ s.started, (s.openBefore k).card < n := by
  have horder : s.InOrder := h.inv_reached ⟨rfl, by simp [init]⟩ fun bs u a v hu hs hstep => by
    obtain ⟨hb, ha, -⟩ := waited_of_run hu
    exact step_inOrder hb ha hs hstep
  exact ⟨horder.queue, horder.few⟩

/-- two workers; the second task is finished first -/
theorem started_in_order_two : ∃ as s, Run (Enabled step) (init 2 0) as s ∧ s.finished = [1] ∧
    s.started ++ s.pool.tasks = List.range s.pool.submitted ∧ ∀ k ∈ s.started, (s.openBefore k).card < 2 := by
  have hrun : Run (Enabled step) (init 2 0) [.submit, .submit, .submit, .worker 0 .returns, .worker 0 .returns,
      .worker 0 .returns, .worker 0 .returns, .worker 0 .returns, .worker 1 .returns, .worker 1 .returns,
      .worker 1 .returns, .worker 1 .returns, .worker 1 .returns, .worker 1 .returns, .worker 1 .returns] _ :=
    run_iff_foldlM.2 rfl
  exact ⟨_, _, hrun, rfl, started_in_order hrun⟩

end LivePool

/-! ## Workers -/

namespace ThreadPool

variable {n : ℕ}

theorem workers_goto_self (s : ThreadPool n) (w : Fin n) (pc : WorkerPc) : (s.goto w pc).workers w = pc :=
  update_self _ _ _

theorem workers_goto_of_ne (s : ThreadPool n) {w v : Fin n} (pc : WorkerPc) (h : v ≠ w) :
    (s.goto w pc).workers v = s.workers v := update_of_ne h _ _

theorem Owned.owner_of {s : ThreadPool n} (ho : s.Owned) {w : Fin n} (h : (s.workers w).Holds) : s.owner = some w :=
  (ho w ()).2 h

/-- a pool that is not being destroyed: nobody has left, a worker about to sleep has seen an empty queue, and while
there is a task, a worker is awake or will be notified -/
structure Tended (s : ThreadPool n) : Prop where
  stop : s.stop = false
  stays : ∀ w, s.workers w ≠ .exited
  sleep : ∀ w, s.workers w = .sleep → s.tasks = []
  served : s.tasks ≠ [] → 0 < s.notifies ∨ ∃ w, s.workers w ≠ .asleep

theorem tended_init (hn : 0 < n) : (init n).Tended :=
  ⟨rfl, fun _ => nofun, fun _ => nofun, fun _ => Or.inr ⟨⟨0, hn⟩, nofun⟩⟩

/-- a worker moves, and stays awake -/
theorem Tended.goto {s t : ThreadPool n} (hs : s.Tended) (w : Fin n) (pc : WorkerPc)
    (hworkers : t.workers = update s.workers w pc) (hstop : t.stop = s.stop)
    (htasks : t.tasks = s.tasks ∨ ∀ v, t.workers v ≠ .sleep) (hexited : pc ≠ .exited) (hasleep : pc ≠ .asleep)
    (hsleep : pc = .sleep → t.tasks = []) : t.Tended := by
  refine ⟨hstop.trans hs.stop, fun v => ?_, fun v hv => ?_, fun _ => Or.inr ⟨w, by rwa [hworkers, update_self]⟩⟩
  · rw [hworkers]
    by_cases hvw : v = w
    · rwa [hvw, update_self]
    · rw [update_of_ne hvw]
      exact hs.stays v
  · rcases htasks with heq | hnone
    · rw [hworkers] at hv
      by_cases hvw : v = w
      · rw [hvw, update_self] at hv
        exact hsleep hv
      · rw [update_of_ne hvw] at hv
        rw [heq, hs.sleep v hv]
    · exact absurd hv (hnone v)

/-- a worker goes to sleep only with an empty queue -/
theorem check_sleep {s t : ThreadPool n} {w : Fin n} (h : s.workerStep w = some t) (hpc : s.workers w = .check)
    (hsleep : t.workers w = .sleep) : s.tasks = [] := by
  unfold workerStep at h
  rw [hpc] at h
  obtain rfl := Option.some.inj h
  by_contra hmore
  have hpred : (s.stop || !s.tasks.isEmpty) = true := by simp [hmore]
  rw [if_pos hpred, workers_goto_self] at hsleep
  cases hsleep

theorem workerStep_tended {s t : ThreadPool n} {w : Fin n} (h : s.workerStep w = some t) (ho : s.Owned)
    (hs : s.Tended) : t.Tended := by
  have hstop := hs.stop
  cases workerStep_cases h with
  | enter hpc _ ht =>
    subst ht
    exact hs.goto w .lock rfl rfl (Or.inl rfl) nofun nofun nofun
  | quit hpc hset ht =>
    rw [hstop] at hset
    cases hset
  | lock hpc hfree ht =>
    subst ht
    exact hs.goto w .check rfl rfl (Or.inl rfl) nofun nofun nofun
  | pass hpc hpred ht =>
    subst ht
    exact hs.goto w .inner rfl rfl (Or.inl rfl) nofun nofun nofun
  | block hpc _ ht =>
    have hempty : s.tasks = [] := check_sleep h hpc (by rw [ht, workers_goto_self])
    subst ht
    exact hs.goto w .sleep rfl rfl (Or.inl rfl) nofun nofun fun _ => hempty
  | sleep hpc ht =>
    have hempty : s.tasks = [] := hs.sleep w hpc
    subst ht
    refine ⟨hstop, fun v => ?_, fun _ _ => hempty, fun hmore => absurd hempty hmore⟩
    show update s.workers w .asleep v ≠ .exited
    by_cases hvw : v = w
    · rw [hvw, update_self]
      nofun
    · rw [update_of_ne hvw]
      exact hs.stays v
  | drained hpc hset hempty ht =>
    rw [hstop] at hset
    cases hset
  | stay hpc hmore ht =>
    subst ht
    exact hs.goto w .take rfl rfl (Or.inl rfl) nofun nofun nofun
  | take task rest hpc htasks ht =>
    -- no other worker is between the predicate and its sleep, since w has the mutex
    subst ht
    refine hs.goto w (.run task) rfl rfl (Or.inr fun v hv => ?_) nofun nofun nofun
    simp only at hv
    by_cases hvw : v = w
    · rw [hvw, workers_goto_self] at hv
      cases hv
    · rw [workers_goto_of_ne s _ hvw] at hv
      exact hvw (Locks.Owned.exclusive ho (m := ()) (by rw [hv]; trivial) (by rw [hpc]; trivial))
  | execute task hpc ht =>
    subst ht
    exact hs.goto w .finish rfl rfl (Or.inl rfl) nofun nofun nofun
  | finish hpc hfree ht =>
    subst ht
    exact hs.goto w .loop rfl rfl (Or.inl rfl) nofun nofun nofun

/-- a worker that cannot step sleeps, has left, or needs the mutex -/
theorem stuck {s : ThreadPool n} (hr : s.Ready) {w : Fin n} (h : s.workerStep w = none) :
    s.workers w = .asleep ∨ s.workers w = .exited ∨
      (s.workers w = .lock ∨ s.workers w = .finish) ∧ s.owner ≠ none := by
  unfold workerStep at h
  cases hpc : s.workers w with
  | asleep => exact Or.inl rfl
  | exited => exact Or.inr (Or.inl rfl)
  | lock | finish =>
    rw [hpc] at h
    refine Or.inr (Or.inr ⟨by simp, fun hfree => ?_⟩)
    simp [hfree] at h
  | take =>
    rw [hpc] at h
    rcases htasks : s.tasks with _ | ⟨task, rest⟩
    · exact absurd htasks (hr.take w hpc)
    · rw [htasks] at h
      cases h
  | _ =>
    rw [hpc] at h
    cases h

/-- the destructor moves on with each of its steps -/
theorem dtor_dtorStep {s t : ThreadPool n} (h : s.dtorStep = some t) : t.dtor ≠ s.dtor := by
  unfold dtorStep at h
  cases hdtor : s.dtor with
  | alive | stopping =>
    rw [hdtor] at h
    obtain rfl := Option.some.inj h
    nofun
  | joining i =>
    rw [hdtor] at h
    by_cases hi : i < n
    · simp only [dif_pos hi] at h
      obtain ⟨-, rfl⟩ := guarded h
      simp
    · simp only [dif_neg hi] at h
      obtain rfl := Option.some.inj h
      nofun
  | returned =>
    rw [hdtor] at h
    cases h

theorem step_tended (hn : 0 < n) {s t : ThreadPool n} {a : PoolAct n} (h : Enabled step s a t)
    (hdtor : t.dtor = s.dtor) (ho : s.Owned) (hs : s.Tended) : t.Tended := by
  unfold Enabled step at h
  cases a with
  | submit =>
    obtain ⟨⟨hfree, -⟩, rfl⟩ := guarded h
    refine ⟨hs.stop, hs.stays, fun w hw => ?_, fun _ => Or.inl (Nat.succ_pos _)⟩
    simp only at hw
    have hheld : s.owner = some w := ho.owner_of (by rw [hw]; trivial)
    rw [hfree] at hheld
    cases hheld
  | notifyOne woken =>
    cases woken with
    | some w =>
      obtain ⟨-, rfl⟩ := guarded h
      exact hs.goto w .lock rfl rfl (Or.inl rfl) nofun nofun nofun
    | none =>
      obtain ⟨⟨-, hawake⟩, rfl⟩ := guarded h
      exact ⟨hs.stop, hs.stays, hs.sleep, fun _ => Or.inr ⟨⟨0, hn⟩, hawake _⟩⟩
  | worker w => exact workerStep_tended h ho hs
  | spurious w =>
    obtain ⟨-, rfl⟩ := guarded h
    exact hs.goto w .lock rfl rfl (Or.inl rfl) nofun nofun nofun
  | destructor => exact absurd hdtor (dtor_dtorStep h)

end ThreadPool

/-! ## Work -/

/-- the steps before a worker sleeps, if it finds no task; `wakes` is the work that a finished task makes elsewhere -/
def WorkerPc.stepsLeft (wakes : ℕ) : WorkerPc → ℕ
  | loop => 4
  | lock => 3
  | check => 2
  | sleep | inner => 1
  | asleep | take | exited => 0
  | run _ => 6 + wakes
  | finish => 5 + wakes

namespace ThreadPool

variable {n : ℕ}

/-- the steps of the workers that are left -/
def stepsLeft (wakes : ℕ) (s : ThreadPool n) : ℕ :=
  (7 + wakes) * s.tasks.length + 4 * s.notifies + ∑ w, (s.workers w).stepsLeft wakes

/-- a worker moves on, and the queue stays as it is -/
theorem stepsLeft_lt_of_move {wakes made : ℕ} {s t : ThreadPool n} (w : Fin n) (pc : WorkerPc)
    (hworkers : t.workers = update s.workers w pc) (htasks : t.tasks = s.tasks) (hnotifies : t.notifies = s.notifies)
    (hlt : pc.stepsLeft wakes + made < (s.workers w).stepsLeft wakes) :
    t.stepsLeft wakes + made < s.stepsLeft wakes := by
  have hsum := sum_update (WorkerPc.stepsLeft wakes) s.workers w pc
  unfold stepsLeft
  rw [hworkers, htasks, hnotifies]
  omega

/-- a step uses up work, and the end of a task also what it makes elsewhere -/
theorem WorkerMove.stepsLeft_lt (wakes : ℕ) {s t : ThreadPool n} {w : Fin n} (h : WorkerMove s w t) :
    t.stepsLeft wakes + (if s.workers w = .finish then wakes else 0) < s.stepsLeft wakes := by
  cases h with
  | enter hpc hstop ht =>
    subst ht
    exact stepsLeft_lt_of_move w .lock rfl rfl rfl (by simp [hpc, WorkerPc.stepsLeft])
  | quit hpc hstop ht =>
    subst ht
    exact stepsLeft_lt_of_move w .exited rfl rfl rfl (by simp [hpc, WorkerPc.stepsLeft])
  | lock hpc hfree ht =>
    subst ht
    exact stepsLeft_lt_of_move w .check rfl rfl rfl (by simp [hpc, WorkerPc.stepsLeft])
  | pass hpc hpred ht =>
    subst ht
    exact stepsLeft_lt_of_move w .inner rfl rfl rfl (by simp [hpc, WorkerPc.stepsLeft])
  | block hpc hstop ht =>
    subst ht
    exact stepsLeft_lt_of_move w .sleep rfl rfl rfl (by simp [hpc, WorkerPc.stepsLeft])
  | sleep hpc ht =>
    subst ht
    exact stepsLeft_lt_of_move w .asleep rfl rfl rfl (by simp [hpc, WorkerPc.stepsLeft])
  | drained hpc hstop hempty ht =>
    subst ht
    exact stepsLeft_lt_of_move w .exited rfl rfl rfl (by simp [hpc, WorkerPc.stepsLeft])
  | stay hpc hmore ht =>
    subst ht
    exact stepsLeft_lt_of_move w .take rfl rfl rfl (by simp [hpc, WorkerPc.stepsLeft])
  | take task rest hpc htasks ht =>
    have hsum := sum_update (WorkerPc.stepsLeft wakes) s.workers w (.run task)
    subst ht
    simp only [stepsLeft, ThreadPool.goto, hpc, htasks, WorkerPc.stepsLeft, reduceCtorEq, if_false, List.length_cons,
      Nat.mul_succ] at hsum ⊢
    omega
  | execute task hpc ht =>
    subst ht
    exact stepsLeft_lt_of_move w .finish rfl rfl rfl (by simp [hpc, WorkerPc.stepsLeft])
  | finish hpc hfree ht =>
    subst ht
    exact stepsLeft_lt_of_move w .loop rfl rfl rfl (by simp [hpc, WorkerPc.stepsLeft])

end ThreadPool

/-- the steps before a thread in `WaitAll` sleeps or returns -/
def WaitPc.stepsLeft : WaitPc → ℕ
  | lock => 3
  | check => 2
  | sleep | leave => 1
  | idle | asleep | returned => 0

/-- with `mutex_` locked -/
def WaitPc.Holds : WaitPc → Prop
  | check | sleep | leave => True
  | _ => False

/-- inside `WaitAll` -/
def WaitPc.Calls (pc : WaitPc) : Prop := pc ≠ .idle ∧ pc ≠ .returned
deriving Decidable

namespace LivePool

variable {n m : ℕ}

/-- the pool's own steps: all but a `Submit`, a call of `WaitAll`, and a thread that wakes up for no reason -/
def Own (s : LivePool n m) : LiveAct n m → Prop
  | .notifyOne _ | .worker .. => True
  | .waiter v => (s.waiters v).Calls
  | .submit | .spurious _ | .spuriousWaiter _ => False

instance (s : LivePool n m) : (a : LiveAct n m) → Decidable (Own s a)
  | .notifyOne _ | .worker .. => isTrue trivial
  | .waiter v => inferInstanceAs (Decidable (s.waiters v).Calls)
  | .submit | .spurious _ | .spuriousWaiter _ => isFalse id

def ownStep (s : LivePool n m) (a : LiveAct n m) : Option (LivePool n m) := if s.Own a then s.step a else none

theorem ownStep_iff {s t : LivePool n m} {a : LiveAct n m} :
    Enabled ownStep s a t ↔ s.Own a ∧ Enabled step s a t := Option.ite_none_right_eq_some

/-- the steps that `done_cv_.notify_all` can make -/
def wakes (m : ℕ) : ℕ := 3 * m + 1

/-- the steps that are left -/
def work (s : LivePool n m) : ℕ :=
  s.pool.stepsLeft (wakes m) + (∑ w, if s.notifying w then wakes m else 0) + ∑ v, (s.waiters v).stepsLeft

/-! ## A step of a worker -/

theorem waiters_book (s : LivePool n m) (w : Fin n) (pool : ThreadPool n) :
    (s.book w pool).waiters = s.waiters ∧ (s.book w pool).waitOwner = s.waitOwner := by
  unfold book
  split <;> exact ⟨rfl, rfl⟩

theorem notifying_book (s : LivePool n m) (w : Fin n) (pool : ThreadPool n) :
    (s.book w pool).notifying = if s.pool.workers w = .finish then update s.notifying w true else s.notifying := by
  unfold book
  split <;> simp_all

/-- a worker calls `notify_all`, or steps with the mutex free if it needs it -/
theorem workerStep_cases {s t : LivePool n m} {w : Fin n} (h : s.workerStep w = some t) :
    (s.notifying w = true ∧ t = { s with
        waiters := fun v => if s.waiters v = .asleep then .lock else s.waiters v
        notifying := update s.notifying w false }) ∨
      s.notifying w = false ∧ (s.pool.workers w = .lock ∨ s.pool.workers w = .finish → s.waitOwner = none) ∧
        ∃ pool, s.pool.workerStep w = some pool ∧ t = s.book w pool := by
  unfold workerStep at h
  by_cases hnotifying : s.notifying w
  · rw [if_pos hnotifying] at h
    exact Or.inl ⟨hnotifying, (Option.some.inj h).symm⟩
  · rw [if_neg hnotifying] at h
    by_cases hblocked : (s.pool.workers w = .lock ∨ s.pool.workers w = .finish) ∧ s.waitOwner ≠ none
    · rw [if_pos hblocked] at h
      cases h
    · rw [if_neg hblocked] at h
      obtain ⟨pool, hpool, ht⟩ := Option.map_eq_some_iff.1 h
      refine Or.inr ⟨Bool.eq_false_iff.2 hnotifying, fun hneeds => ?_, pool, hpool, ht.symm⟩
      by_contra howned
      exact hblocked ⟨hneeds, howned⟩

/-! ## The work that is left -/

theorem workerStep_work_lt {s t : LivePool n m} {w : Fin n} (h : s.workerStep w = some t) : t.work < s.work := by
  rcases workerStep_cases h with ⟨hnotifying, rfl⟩ | ⟨hnotifying, -, pool, hpool, rfl⟩
  · have hwaiters : ∑ v, (if s.waiters v = .asleep then WaitPc.lock else s.waiters v).stepsLeft ≤
        ∑ v, ((s.waiters v).stepsLeft + 3) := by
      refine Finset.sum_le_sum fun v _ => ?_
      split_ifs
      · exact Nat.le_add_left _ _
      · exact Nat.le_add_right _ _
    have hsum := ThreadPool.sum_update (fun b : Bool => if b then wakes m else 0) s.notifying w false
    rw [Finset.sum_add_distrib, Finset.sum_const, Finset.card_univ, Fintype.card_fin] at hwaiters
    simp only [hnotifying, if_true, Bool.false_eq_true, if_false] at hsum
    simp only [work]
    have hwakes : wakes m = 3 * m + 1 := rfl
    simp only [smul_eq_mul] at hwaiters
    omega
  · have hlt := (ThreadPool.workerStep_cases hpool).stepsLeft_lt (wakes m)
    have hsum := ThreadPool.sum_update (fun b : Bool => if b then wakes m else 0) s.notifying w true
    simp only [hnotifying, if_true, Bool.false_eq_true, if_false] at hsum
    rw [work, work, pool_book, (waiters_book s w pool).1, notifying_book]
    split_ifs at hlt ⊢ <;> omega

theorem waiterStep_work_lt {s t : LivePool n m} {v : Fin m} (h : s.waiterStep v = some t) (ho : (s.waiters v).Calls) :
    t.work < s.work := by
  have hmove : ∀ pc, pc.stepsLeft < (s.waiters v).stepsLeft →
      ∑ u, (update s.waiters v pc u).stepsLeft < ∑ u, (s.waiters u).stepsLeft := by
    intro pc hlt
    have hsum := ThreadPool.sum_update WaitPc.stepsLeft s.waiters v pc
    omega
  unfold waiterStep at h
  cases hpc : s.waiters v with
  | idle => exact absurd hpc ho.1
  | lock =>
    rw [hpc] at h hmove
    obtain ⟨-, rfl⟩ := guarded h
    exact Nat.add_lt_add_left (hmove .check (by decide)) _
  | check =>
    rw [hpc] at h hmove
    obtain rfl := Option.some.inj h
    refine Nat.add_lt_add_left (hmove _ ?_) _
    split_ifs <;> decide
  | sleep =>
    rw [hpc] at h hmove
    obtain rfl := Option.some.inj h
    exact Nat.add_lt_add_left (hmove .asleep (by decide)) _
  | asleep =>
    rw [hpc] at h
    cases h
  | leave =>
    rw [hpc] at h hmove
    obtain rfl := Option.some.inj h
    exact Nat.add_lt_add_left (hmove .returned (by decide)) _
  | returned => exact absurd hpc ho.2

/-- **Every step of its own brings the pool closer to rest** -/
theorem ownStep_work_lt {s t : LivePool n m} {a : LiveAct n m} (h : Enabled ownStep s a t) : t.work < s.work := by
  obtain ⟨hown, hstep⟩ := ownStep_iff.1 h
  unfold Enabled step at hstep
  cases a with
  | submit => exact hown.elim
  | notifyOne woken =>
    obtain ⟨pool, hpool, rfl⟩ := Option.map_eq_some_iff.1 hstep
    have hlt : pool.stepsLeft (wakes m) < s.pool.stepsLeft (wakes m) := by
      cases woken with
      | some w =>
        obtain ⟨⟨hpos, hasleep⟩, rfl⟩ := guarded hpool
        have hsum := ThreadPool.sum_update (WorkerPc.stepsLeft (wakes m)) s.pool.workers w .lock
        have hfrom : WorkerPc.asleep.stepsLeft (wakes m) = 0 := rfl
        have hto : WorkerPc.lock.stepsLeft (wakes m) = 3 := rfl
        rw [hasleep, hfrom, hto] at hsum
        simp only [ThreadPool.stepsLeft, ThreadPool.goto]
        omega
      | none =>
        obtain ⟨⟨hpos, -⟩, rfl⟩ := guarded hpool
        simp only [ThreadPool.stepsLeft]
        omega
    exact Nat.add_lt_add_right (Nat.add_lt_add_right hlt _) _
  | worker w _ => exact workerStep_work_lt hstep
  | spurious w => exact hown.elim
  | waiter v => exact waiterStep_work_lt hstep hown
  | spuriousWaiter v => exact hown.elim

/-! ## Threads that wait -/

/-- a thread that holds the mutex in `WaitAll` holds it alone, and one that sleeps there has a task to wait for, or a
worker that is about to wake it -/
structure Attended (s : LivePool n m) : Prop where
  apart : s.waitOwner = none ∨ s.pool.owner = none
  owned : ∀ v, s.waitOwner = some v ↔ (s.waiters v).Holds
  sleep : ∀ v, s.waiters v = .sleep → s.pool.tasks ≠ [] ∨ s.pool.activeTasks ≠ 0
  asleep : ∀ v, s.waiters v = .asleep → s.pool.tasks ≠ [] ∨ s.pool.activeTasks ≠ 0 ∨ ∃ w, s.notifying w = true

theorem attended_init : (init n m).Attended :=
  ⟨Or.inl rfl, fun _ => ⟨nofun, False.elim⟩, fun _ => nofun, fun _ => nofun⟩

/-- the threads in `WaitAll` stay where they are -/
theorem Attended.pool {s t : LivePool n m} (hs : s.Attended) (hwaiters : t.waiters = s.waiters)
    (howner : t.waitOwner = s.waitOwner) (hapart : t.waitOwner = none ∨ t.pool.owner = none)
    (hsleep : s.waitOwner = none ∨ t.pool.tasks = s.pool.tasks ∧ t.pool.activeTasks = s.pool.activeTasks)
    (hasleep : (t.pool.tasks ≠ [] ∨ t.pool.activeTasks ≠ 0 ∨ ∃ w, t.notifying w = true) ∨
      t.pool.tasks = s.pool.tasks ∧ t.pool.activeTasks = s.pool.activeTasks ∧ t.notifying = s.notifying) :
    t.Attended := by
  refine ⟨hapart, fun v => by rw [howner, hwaiters]; exact hs.owned v, fun v hv => ?_, fun v hv => ?_⟩
  · rw [hwaiters] at hv
    rcases hsleep with hfree | ⟨htasks, hactive⟩
    · have hheld : s.waitOwner = some v := (hs.owned v).2 (by rw [hv]; trivial)
      rw [hfree] at hheld
      cases hheld
    · rw [htasks, hactive]
      exact hs.sleep v hv
  · rw [hwaiters] at hv
    rcases hasleep with hdone | ⟨htasks, hactive, hnotifying⟩
    · exact hdone
    · rw [htasks, hactive, hnotifying]
      exact hs.asleep v hv

theorem book_attended {s : LivePool n m} {w : Fin n} {pool : ThreadPool n} (h : s.pool.workerStep w = some pool)
    (hfree : s.pool.workers w = .lock ∨ s.pool.workers w = .finish → s.waitOwner = none) (ho : s.pool.Owned)
    (hs : s.Attended) : (s.book w pool).Attended := by
  obtain ⟨hwaiters, howner⟩ := waiters_book s w pool
  have hpool := pool_book s w pool
  have hnotifying := notifying_book s w pool
  -- a step that leaves the queue, the active tasks and `notify_all` alone
  have hkeep : (s.waitOwner = none ∨ pool.owner = none) → pool.tasks = s.pool.tasks →
      pool.activeTasks = s.pool.activeTasks → s.pool.workers w ≠ .finish → (s.book w pool).Attended := by
    intro hapart htasks hactive hnot
    rw [if_neg hnot] at hnotifying
    refine hs.pool hwaiters howner ?_ (Or.inr ?_) (Or.inr ?_)
    · rwa [howner, hpool]
    · rw [hpool]
      exact ⟨htasks, hactive⟩
    · rw [hpool]
      exact ⟨htasks, hactive, hnotifying⟩
  cases ThreadPool.workerStep_cases h with
  | enter hpc hstop ht => exact hkeep (by rw [ht]; exact hs.apart) (by rw [ht]; rfl) (by rw [ht]; rfl) (by simp [hpc])
  | quit hpc hstop ht => exact hkeep (by rw [ht]; exact hs.apart) (by rw [ht]; rfl) (by rw [ht]; rfl) (by simp [hpc])
  | lock hpc _ ht => exact hkeep (Or.inl (hfree (Or.inl hpc))) (by rw [ht]; rfl) (by rw [ht]; rfl) (by simp [hpc])
  | pass hpc hpred ht => exact hkeep (by rw [ht]; exact hs.apart) (by rw [ht]; rfl) (by rw [ht]; rfl) (by simp [hpc])
  | block hpc hstop ht => exact hkeep (by rw [ht]; exact hs.apart) (by rw [ht]; rfl) (by rw [ht]; rfl) (by simp [hpc])
  | sleep hpc ht => exact hkeep (Or.inr (by rw [ht])) (by rw [ht]; rfl) (by rw [ht]; rfl) (by simp [hpc])
  | drained hpc hstop hempty ht =>
    exact hkeep (Or.inr (by rw [ht])) (by rw [ht]; rfl) (by rw [ht]; rfl) (by simp [hpc])
  | stay hpc hmore ht => exact hkeep (by rw [ht]; exact hs.apart) (by rw [ht]; rfl) (by rw [ht]; rfl) (by simp [hpc])
  | take task rest hpc htasks ht =>
    have hheld : s.pool.owner = some w := ho.owner_of (by rw [hpc]; trivial)
    have hunlocked : s.waitOwner = none := by
      rcases hs.apart with hnone | hnone
      · exact hnone
      · rw [hheld] at hnone
        cases hnone
    refine hs.pool hwaiters howner (Or.inl (howner.trans hunlocked)) (Or.inl hunlocked) (Or.inl (Or.inr (Or.inl ?_)))
    rw [hpool, ht]
    exact Nat.succ_ne_zero _
  | execute task hpc ht =>
    exact hkeep (by rw [ht]; exact hs.apart) (by rw [ht]; rfl) (by rw [ht]; rfl) (by simp [hpc])
  | finish hpc _ ht =>
    have hunlocked := hfree (Or.inr hpc)
    rw [if_pos hpc] at hnotifying
    refine hs.pool hwaiters howner (Or.inl (howner.trans hunlocked)) (Or.inl hunlocked) (Or.inl (Or.inr (Or.inr ?_)))
    exact ⟨w, by rw [hnotifying, update_self]⟩

/-- a thread in `WaitAll` moves -/
theorem Attended.goto {s t : LivePool n m} (hs : s.Attended) (v : Fin m) (pc : WaitPc)
    (hwaiters : t.waiters = update s.waiters v pc) (hpool : t.pool = s.pool) (hnotifying : t.notifying = s.notifying)
    (hapart : t.waitOwner = none ∨ s.pool.owner = none) (howned : t.waitOwner = some v ↔ pc.Holds)
    (hothers : ∀ u, u ≠ v → (t.waitOwner = some u ↔ s.waitOwner = some u))
    (hsleep : pc = .sleep → s.pool.tasks ≠ [] ∨ s.pool.activeTasks ≠ 0)
    (hasleep : pc = .asleep → s.pool.tasks ≠ [] ∨ s.pool.activeTasks ≠ 0 ∨ ∃ w, s.notifying w = true) :
    t.Attended := by
  refine ⟨by rwa [hpool], fun u => ?_, fun u hu => ?_, fun u hu => ?_⟩
  · rw [hwaiters]
    by_cases huv : u = v
    · rw [huv, update_self]
      exact howned
    · rw [update_of_ne huv, hothers u huv]
      exact hs.owned u
  all_goals
    rw [hwaiters] at hu
    rw [hpool]
    by_cases huv : u = v
    · rw [huv, update_self] at hu
      first | exact hsleep hu | (rw [hnotifying]; exact hasleep hu)
    · rw [update_of_ne huv] at hu
      first | exact hs.sleep u hu | (rw [hnotifying]; exact hs.asleep u hu)

theorem waiterStep_attended {s t : LivePool n m} {v : Fin m} (h : s.waiterStep v = some t) (hs : s.Attended) :
    t.Attended := by
  -- a thread that does not touch the mutex
  have hown : ∀ pc : WaitPc, (pc.Holds ↔ (s.waiters v).Holds) → (s.waitOwner = some v ↔ pc.Holds) :=
    fun pc hpc => (hs.owned v).trans hpc.symm
  -- a thread that unlocks it
  have hunlock : (s.waiters v).Holds → ∀ u, u ≠ v → ((none : Option (Fin m)) = some u ↔ s.waitOwner = some u) := by
    intro hholds u huv
    rw [(hs.owned v).2 hholds]
    simp [Ne.symm huv]
  unfold waiterStep at h
  cases hpc : s.waiters v with
  | idle | returned =>
    rw [hpc] at h hown
    obtain rfl := Option.some.inj h
    exact hs.goto v .lock rfl rfl rfl hs.apart (hown _ Iff.rfl) (fun _ _ => Iff.rfl) nofun nofun
  | lock =>
    rw [hpc] at h
    obtain ⟨⟨hpool, hwait⟩, rfl⟩ := guarded h
    refine hs.goto v .check rfl rfl rfl (Or.inr hpool) (iff_of_true rfl trivial) (fun u huv => ?_) nofun nofun
    simp [hwait, Ne.symm huv]
  | check =>
    rw [hpc] at h hown
    obtain rfl := Option.some.inj h
    by_cases hdone : (s.pool.tasks.isEmpty && s.pool.activeTasks == 0) = true
    · rw [if_pos hdone]
      exact hs.goto v .leave rfl rfl rfl hs.apart (hown _ Iff.rfl) (fun _ _ => Iff.rfl) nofun nofun
    · rw [if_neg hdone]
      refine hs.goto v .sleep rfl rfl rfl hs.apart (hown _ Iff.rfl) (fun _ _ => Iff.rfl) (fun _ => ?_) nofun
      rw [Bool.and_eq_true, List.isEmpty_iff, beq_iff_eq, not_and_or] at hdone
      exact hdone
  | sleep =>
    have hawaited := hs.sleep v hpc
    rw [hpc] at h hunlock
    obtain rfl := Option.some.inj h
    refine hs.goto v .asleep rfl rfl rfl (Or.inl rfl) ⟨nofun, False.elim⟩ (hunlock trivial) nofun fun _ => ?_
    exact hawaited.imp_right Or.inl
  | asleep =>
    rw [hpc] at h
    cases h
  | leave =>
    rw [hpc] at h hunlock
    obtain rfl := Option.some.inj h
    exact hs.goto v .returned rfl rfl rfl (Or.inl rfl) ⟨nofun, False.elim⟩ (hunlock trivial) nofun nofun

theorem step_attended {s t : LivePool n m} {a : LiveAct n m} (h : Enabled step s a t) (ho : s.pool.Owned)
    (hs : s.Attended) : t.Attended := by
  unfold Enabled step at h
  cases a with
  | submit =>
    obtain ⟨hunlocked, hpush⟩ := Option.ite_none_right_eq_some.1 h
    obtain ⟨pool, hpool, rfl⟩ := Option.map_eq_some_iff.1 hpush
    obtain ⟨-, rfl⟩ := guarded hpool
    exact hs.pool rfl rfl hs.apart (Or.inl hunlocked) (Or.inl (Or.inl (by simp)))
  | notifyOne woken =>
    obtain ⟨pool, hpool, rfl⟩ := Option.map_eq_some_iff.1 h
    cases woken with
    | some w =>
      obtain ⟨-, rfl⟩ := guarded hpool
      exact hs.pool rfl rfl hs.apart (Or.inr ⟨rfl, rfl⟩) (Or.inr ⟨rfl, rfl, rfl⟩)
    | none =>
      obtain ⟨-, rfl⟩ := guarded hpool
      exact hs.pool rfl rfl hs.apart (Or.inr ⟨rfl, rfl⟩) (Or.inr ⟨rfl, rfl, rfl⟩)
  | worker w _ =>
    rcases workerStep_cases h with ⟨-, rfl⟩ | ⟨-, hfree, pool, hpool, rfl⟩
    · -- nobody is left asleep
      refine ⟨hs.apart, fun v => ?_, fun v hv => ?_, fun v hv => ?_⟩
      · rw [hs.owned v]
        simp only
        split_ifs with hasleep
        · rw [hasleep]
          exact Iff.rfl
        · exact Iff.rfl
      · simp only at hv
        split_ifs at hv
        exact hs.sleep v hv
      · simp only at hv
        split_ifs at hv with hasleep
        exact absurd hv hasleep
    · exact book_attended hpool hfree ho hs
  | spurious w =>
    obtain ⟨pool, hpool, rfl⟩ := Option.map_eq_some_iff.1 h
    obtain ⟨-, rfl⟩ := guarded hpool
    exact hs.pool rfl rfl hs.apart (Or.inr ⟨rfl, rfl⟩) (Or.inr ⟨rfl, rfl, rfl⟩)
  | waiter v => exact waiterStep_attended h hs
  | spuriousWaiter v =>
    obtain ⟨hasleep, rfl⟩ := guarded h
    refine hs.goto v .lock rfl rfl rfl hs.apart ?_ (fun _ _ => Iff.rfl) nofun nofun
    rw [hs.owned v, hasleep]
    exact Iff.rfl

/-! ## At rest -/

/-- all that holds of a live pool in a run -/
structure Live (s : LivePool n m) : Prop where
  owned : s.pool.Owned
  ready : s.pool.Ready
  tended : s.pool.Tended
  attended : s.Attended

theorem dtor_step {s t : LivePool n m} {a : LiveAct n m} (h : Enabled step s a t) : t.pool.dtor = s.pool.dtor := by
  rcases step_spec h with rfl | ⟨workers, owner, notifies, -, rfl⟩ | ⟨w, task, rest, -, -, rfl⟩ | ⟨w, task, -, rfl⟩ |
    ⟨w, -, rfl⟩ | ⟨waiters, notifying, -, rfl⟩ | ⟨v, rfl⟩ | ⟨v, pc, owner, -, -, rfl⟩
  all_goals rfl

theorem live_of_run (hn : 0 < n) {s : LivePool n m} {as : List (LiveAct n m)}
    (h : Run (Enabled step) (init n m) as s) : s.Live := by
  refine h.inv (P := Live) (fun s a t hs hstep => ?_)
    ⟨fun w _ => by simp [init, ThreadPool.init, WorkerPc.Holds], ⟨nofun, nofun⟩, ThreadPool.tended_init hn,
      attended_init⟩
  have hattended := step_attended hstep hs.owned hs.attended
  rcases step_pool hstep with heq | ⟨b, hpool⟩
  · exact ⟨heq ▸ hs.owned, heq ▸ hs.ready, heq ▸ hs.tended, hattended⟩
  · obtain ⟨ho, hr⟩ := ThreadPool.step_ready hpool hs.owned hs.ready
    exact ⟨ho, hr, ThreadPool.step_tended hn hpool (dtor_step hstep) hs.owned hs.tended, hattended⟩

/-- no step of its own is left -/
def AtRest (s : LivePool n m) : Prop := ∀ a, s.ownStep a = none

theorem AtRest.step_eq_none {s : LivePool n m} (hrest : s.AtRest) {a : LiveAct n m} (hown : s.Own a) :
    step s a = none := by
  have hnone := hrest a
  rwa [ownStep, if_pos hown] at hnone

theorem AtRest.notifies_eq {s : LivePool n m} (hrest : s.AtRest) : s.pool.notifies = 0 := by
  by_contra hne
  have hpos := Nat.pos_of_ne_zero hne
  by_cases hasleep : ∃ w, s.pool.workers w = .asleep
  · obtain ⟨w, hw⟩ := hasleep
    have hnone := hrest.step_eq_none (a := .notifyOne (some w)) trivial
    simp [step, ThreadPool.step, hpos, hw] at hnone
  · have hnone := hrest.step_eq_none (a := .notifyOne none) trivial
    rw [not_exists] at hasleep
    simp [step, ThreadPool.step, hpos, hasleep] at hnone

theorem AtRest.notifying_eq {s : LivePool n m} (hrest : s.AtRest) (w : Fin n) : s.notifying w = false := by
  by_contra hset
  rw [Bool.not_eq_false] at hset
  have hnone := hrest.step_eq_none (a := .worker w .returns) trivial
  simp [step, workerStep, hset] at hnone

/-- a thread in `WaitAll` that cannot step sleeps, or needs the mutex -/
theorem AtRest.waiter {s : LivePool n m} (hrest : s.AtRest) (v : Fin m) (hcalls : (s.waiters v).Calls) :
    s.waiters v = .asleep ∨ s.waiters v = .lock ∧ ¬ (s.pool.owner = none ∧ s.waitOwner = none) := by
  have hnone : s.waiterStep v = none := hrest.step_eq_none (a := .waiter v) hcalls
  unfold waiterStep at hnone
  cases hpc : s.waiters v with
  | idle => exact absurd hpc hcalls.1
  | returned => exact absurd hpc hcalls.2
  | asleep => exact Or.inl rfl
  | lock =>
    rw [hpc] at hnone
    exact Or.inr ⟨rfl, fun hfree => by simp [hfree] at hnone⟩
  | check | sleep | leave =>
    rw [hpc] at hnone
    cases hnone

theorem AtRest.waitOwner_eq {s : LivePool n m} (hlive : s.Live) (hrest : s.AtRest) : s.waitOwner = none := by
  by_contra hsome
  obtain ⟨v, hv⟩ := Option.ne_none_iff_exists'.1 hsome
  have hholds := (hlive.attended.owned v).1 hv
  have hcalls : (s.waiters v).Calls := by
    constructor
    all_goals
      intro hpc
      rw [hpc] at hholds
      exact hholds
  rcases hrest.waiter v hcalls with hpc | ⟨hpc, -⟩
  all_goals
    rw [hpc] at hholds
    exact hholds

theorem AtRest.worker {s : LivePool n m} (hlive : s.Live) (hrest : s.AtRest) (w : Fin n) :
    s.pool.workers w = .asleep ∨ (s.pool.workers w = .lock ∨ s.pool.workers w = .finish) ∧ s.pool.owner ≠ none := by
  have hnone : s.workerStep w = none := hrest.step_eq_none (a := .worker w .returns) trivial
  rw [workerStep, hrest.notifying_eq w, hrest.waitOwner_eq hlive] at hnone
  simp only [Bool.false_eq_true, if_false, ne_eq, not_true_eq_false, and_false, Option.map_eq_none_iff] at hnone
  rcases ThreadPool.stuck hlive.ready hnone with hasleep | hexited | hblocked
  · exact Or.inl hasleep
  · exact absurd hexited (hlive.tended.stays w)
  · exact Or.inr hblocked

theorem AtRest.owner_eq {s : LivePool n m} (hlive : s.Live) (hrest : s.AtRest) : s.pool.owner = none := by
  by_contra hsome
  obtain ⟨w, hw⟩ := Option.ne_none_iff_exists'.1 hsome
  have hholds : (s.pool.workers w).Holds := (hlive.owned w ()).1 hw
  rcases hrest.worker hlive w with hpc | ⟨hpc | hpc, -⟩
  all_goals
    rw [hpc] at hholds
    exact hholds

/-- a pool at rest has done its work -/
theorem AtRest.done {s : LivePool n m} (hlive : s.Live) (hb : s.Books) (hrest : s.AtRest) :
    s.pool.tasks = [] ∧ s.pool.activeTasks = 0 ∧ ∀ v, ¬ (s.waiters v).Calls := by
  have hfree := hrest.owner_eq hlive
  have hasleep : ∀ w, s.pool.workers w = .asleep := fun w =>
    (hrest.worker hlive w).resolve_right fun hblocked => hblocked.2 hfree
  have htasks : s.pool.tasks = [] := by
    by_contra hmore
    rcases hlive.tended.served hmore with hpos | ⟨w, hw⟩
    · exact hpos.ne' hrest.notifies_eq
    · exact hw (hasleep w)
  have hactive : s.pool.activeTasks = 0 := by
    rw [hb.active]
    refine Finset.sum_eq_zero fun w _ => ?_
    rw [hasleep w]
    rfl
  refine ⟨htasks, hactive, fun v hcalls => ?_⟩
  rcases hrest.waiter v hcalls with hpc | ⟨-, hblocked⟩
  · rcases hlive.attended.asleep v hpc with hmore | hmore | ⟨w, hw⟩
    · exact hmore htasks
    · exact hmore hactive
    · rw [hrest.notifying_eq w] at hw
      cases hw
  · exact hblocked ⟨hfree, hrest.waitOwner_eq hlive⟩

/-- **A live pool comes to rest, and then has done its work**: from every state that any interleaving can reach, the
pool takes at most `work` steps of its own, whichever these are; and where it can take none, every task pushed is
finished, and nobody is still in `WaitAll` -/
theorem work_ends (hn : 0 < n) {s t : LivePool n m} {as bs : List (LiveAct n m)}
    (h : Run (Enabled step) (init n m) as s) (hwork : Run (Enabled ownStep) s bs t) :
    bs.length ≤ s.work ∧
      (t.AtRest → (∀ k < t.pool.submitted, k ∈ t.finished) ∧ ∀ v, t.waiters v = .idle ∨ t.waiters v = .returned) := by
  have hlen := hwork.length_add_le fun _ _ _ hstep => ownStep_work_lt hstep
  have hrun : Run (Enabled step) (init n m) (as ++ bs) t :=
    h.append (hwork.imp fun _ _ _ hstep => (ownStep_iff.1 hstep).2)
  refine ⟨by omega, fun hrest => ?_⟩
  obtain ⟨hb, ha, -⟩ := waited_of_run hrun
  obtain ⟨htasks, hactive, hwaiters⟩ := hrest.done (live_of_run hn hrun) hb
  refine ⟨fun k hk => finished_of_idle hb ha htasks hactive hk, fun v => ?_⟩
  by_contra hcalls
  exact hwaiters v (not_or.1 hcalls)

/-- one task that throws, and one call of `WaitAll` -/
theorem work_ends_one : ∃ as s bs t, Run (Enabled step) (init 1 1) as s ∧ Run (Enabled ownStep) s bs t ∧
    t.waiters 0 = .returned ∧ bs.length ≤ s.work ∧
      (t.AtRest → (∀ k < t.pool.submitted, k ∈ t.finished) ∧ ∀ v, t.waiters v = .idle ∨ t.waiters v = .returned) := by
  let s : LivePool 1 1 := (((init 1 1).step .submit).bind fun s => s.step (.waiter 0)).getD (init 1 1)
  have hrun : Run (Enabled step) (init 1 1) [.submit, .waiter 0] s := run_iff_foldlM.2 rfl
  let bs : List (LiveAct 1 1) := [.notifyOne none, .waiter 0, .waiter 0, .waiter 0, .worker 0 .returns,
    .worker 0 .returns, .worker 0 .returns, .worker 0 .returns, .worker 0 .returns, .worker 0 .throwsOther,
    .worker 0 .returns, .worker 0 .returns, .waiter 0, .waiter 0, .waiter 0, .worker 0 .returns, .worker 0 .returns,
    .worker 0 .returns, .worker 0 .returns]
  have hends : ((bs.foldlM ownStep s).map fun t => t.waiters 0) = some .returned := by decide +kernel
  obtain ⟨t, ht, hreturned⟩ := Option.map_eq_some_iff.1 hends
  have hwork : Run (Enabled ownStep) s bs t := run_iff_foldlM.2 ht
  exact ⟨_, s, bs, t, hrun, hwork, hreturned, work_ends one_pos hrun hwork⟩

end LivePool

end Rtcom
