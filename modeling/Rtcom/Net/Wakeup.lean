/-
Whether `~ThreadPool` wakes its workers. It sets `stop_` and calls `notify_all` without `mutex_`, so both may happen
between a worker's look at the predicate of `wait` and the moment it goes to sleep; nobody notifies it again.

- `wakeup_iff`: no worker sleeps after `notify_all`, in any state of a run, if `notify_all` is never called in that gap,
  and in runs that end with `mutex_` free only then.
- `wakeup_lost`: one worker and the destructor are enough.
-/
import Mathlib.Tactic
import Rtcom.Net.ThreadPool

namespace Rtcom

open Runs Function

namespace ThreadPool

variable {n : ℕ}

/-- `notify_all` has been called -/
def Notified (s : ThreadPool n) : Prop := s.dtor ≠ .alive ∧ s.dtor ≠ .stopping

/-- a worker is blocked in `wait` though `stop_` is set and `notify_all` has been called -/
def LostWakeup (s : ThreadPool n) : Prop := s.stop = true ∧ s.Notified ∧ ∃ w, s.workers w = .asleep

/-- `notify_all` is not called while a worker is between the predicate of `wait` and its sleep -/
def NotifiesInTime (s : ThreadPool n) (a : PoolAct n) : Prop :=
  a = .destructor → s.dtor = .stopping → ∀ w, s.workers w ≠ .sleep

/-! ## What a step does to sleepers -/

/-- a worker is about to sleep only while `stop_` is not set, and goes to sleep from there alone -/
theorem WorkerMove.sleeps {s t : ThreadPool n} {w : Fin n} (h : WorkerMove s w t) :
    ∃ pc, t.workers = update s.workers w pc ∧ (pc = .sleep → s.stop = false) ∧
      (pc = .asleep ↔ s.workers w = .sleep) := by
  cases h with
  | enter hpc hstop ht => exact ⟨.lock, by rw [ht]; rfl, nofun, by simp [hpc]⟩
  | quit hpc hstop ht => exact ⟨.exited, by rw [ht]; rfl, nofun, by simp [hpc]⟩
  | lock hpc hfree ht => exact ⟨.check, by rw [ht]; rfl, nofun, by simp [hpc]⟩
  | pass hpc hpred ht => exact ⟨.inner, by rw [ht]; rfl, nofun, by simp [hpc]⟩
  | block hpc hstop ht => exact ⟨.sleep, by rw [ht]; rfl, fun _ => hstop, by simp [hpc]⟩
  | sleep hpc ht => exact ⟨.asleep, by rw [ht]; rfl, nofun, by simp [hpc]⟩
  | drained hpc hstop hempty ht => exact ⟨.exited, by rw [ht]; rfl, nofun, by simp [hpc]⟩
  | stay hpc hmore ht => exact ⟨.take, by rw [ht]; rfl, nofun, by simp [hpc]⟩
  | take task rest hpc htasks ht => exact ⟨.run task, by rw [ht]; rfl, nofun, by simp [hpc]⟩
  | execute task hpc ht => exact ⟨.finish, by rw [ht]; rfl, nofun, by simp [hpc]⟩
  | finish hpc hfree ht => exact ⟨.loop, by rw [ht]; rfl, nofun, by simp [hpc]⟩

/-- once the destructor has started, `stop_` is set -/
def StopSet (s : ThreadPool n) : Prop := s.dtor ≠ .alive → s.stop = true

theorem step_stopSet {s t : ThreadPool n} {a : PoolAct n} (hs : s.StopSet) (h : Enabled step s a t) : t.StopSet := by
  rcases step_spec h with ⟨w, -, -, hstop, hdtor, -⟩ | ⟨-, rfl⟩ | ⟨-, workers, notifies, dtor, -, hdtor, rfl⟩ |
    ⟨-, -, rfl⟩ | ⟨-, i, hi, hdtor, -, rfl⟩ | ⟨-, i, hi, hdtor, rfl⟩
  · rw [StopSet, hstop, hdtor]
    exact hs
  · exact hs
  · rcases hdtor with rfl | ⟨hstopping, -⟩
    · exact hs
    · exact fun _ => hs (by simp [hstopping])
  · exact fun _ => rfl
  · exact fun _ => hs (by simp [hdtor])
  · exact fun _ => hs (by simp [hdtor])

theorem stopSet_of_run {s : ThreadPool n} {as : List (PoolAct n)} (h : Run (Enabled step) (init n) as s) :
    s.StopSet := h.inv (P := StopSet) (fun _ _ _ hs hstep => step_stopSet hs hstep) (absurd rfl)

/-- after `notify_all` no worker is asleep or about to sleep -/
def Awake (s : ThreadPool n) : Prop := s.Notified → ∀ w, s.workers w ≠ .asleep ∧ s.workers w ≠ .sleep

theorem WorkerMove.awake {s t : ThreadPool n} {w : Fin n} (h : WorkerMove s w t) (hset : s.StopSet) (hs : s.Awake) :
    t.Awake := by
  obtain ⟨pc, hworkers, hsleep, hasleep⟩ := h.sleeps
  obtain ⟨-, hdtor, -⟩ := h.frame
  intro hnotified v
  rw [Notified, hdtor] at hnotified
  rw [hworkers]
  by_cases hv : v = w
  · rw [hv, update_self]
    refine ⟨fun hpc => (hs hnotified w).2 (hasleep.1 hpc), fun hpc => ?_⟩
    have hstop := hset hnotified.1
    rw [hsleep hpc] at hstop
    cases hstop
  · rw [update_of_ne hv]
    exact hs hnotified v

theorem dtorStep_awake {s t : ThreadPool n} (h : s.dtorStep = some t) (hs : s.Awake)
    (hq : s.NotifiesInTime .destructor) : t.Awake := by
  unfold dtorStep at h
  cases hdtor : s.dtor with
  | alive =>
    rw [hdtor] at h
    obtain rfl := Option.some.inj h
    exact fun hnotified => absurd rfl hnotified.2
  | stopping =>
    rw [hdtor] at h
    obtain rfl := Option.some.inj h
    intro _ w
    have hgap := hq rfl hdtor w
    by_cases hw : s.workers w = .asleep <;> simp [hw, hgap]
  | joining i =>
    have hkept : t.workers = s.workers := by
      rw [hdtor] at h
      by_cases hi : i < n
      · simp only [dif_pos hi] at h
        obtain ⟨-, rfl⟩ := guarded h
        rfl
      · simp only [dif_neg hi] at h
        obtain rfl := Option.some.inj h
        rfl
    intro _ w
    rw [hkept]
    exact hs (by simp [Notified, hdtor]) w
  | returned =>
    rw [hdtor] at h
    cases h

theorem step_awake {s t : ThreadPool n} {a : PoolAct n} (hset : s.StopSet) (hs : s.Awake) (hq : s.NotifiesInTime a)
    (h : Enabled step s a t) : t.Awake := by
  have hwake : ∀ w, s.workers w = .asleep → s.Notified → ∀ v,
      update s.workers w .lock v ≠ .asleep ∧ update s.workers w .lock v ≠ .sleep :=
    fun w hw hnotified => absurd hw (hs hnotified w).1
  unfold Enabled step at h
  cases a with
  | submit =>
    obtain ⟨-, rfl⟩ := guarded h
    exact hs
  | notifyOne woken =>
    cases woken with
    | some w =>
      obtain ⟨⟨-, hw⟩, rfl⟩ := guarded h
      exact hwake w hw
    | none =>
      obtain ⟨-, rfl⟩ := guarded h
      exact hs
  | worker w => exact (workerStep_cases h).awake hset hs
  | spurious w =>
    obtain ⟨hw, rfl⟩ := guarded h
    exact hwake w hw
  | destructor => exact dtorStep_awake h hs hq

/-! ## Runs -/

/-- a worker that has been overtaken: it is about to sleep, and `notify_all` has been called -/
structure Overtaken (s : ThreadPool n) (w : Fin n) : Prop where
  stop : s.stop = true
  notified : s.Notified
  sleep : s.workers w = .sleep

/-- it does nothing else than to fall asleep -/
theorem step_overtaken {s t : ThreadPool n} {a : PoolAct n} {w : Fin n} (hs : s.Overtaken w) (h : Enabled step s a t) :
    t.Overtaken w ∨ t.LostWakeup := by
  obtain ⟨hstop, hnotified, hsleep⟩ := hs
  rcases step_spec h with ⟨v, rfl, -⟩ | ⟨-, rfl⟩ | ⟨-, workers, notifies, dtor, hworkers, hdtor, rfl⟩ |
    ⟨-, halive, rfl⟩ | ⟨-, i, hi, hdtor, -, rfl⟩ | ⟨-, i, hi, hdtor, rfl⟩
  · have hmove := workerStep_cases (show s.workerStep v = some t from h)
    obtain ⟨pc, hworkers, -, hasleep⟩ := hmove.sleeps
    obtain ⟨hstop', hdtor, -⟩ := hmove.frame
    have hnotified' : t.Notified := by
      rw [Notified, hdtor]
      exact hnotified
    by_cases hv : w = v
    · subst hv
      right
      refine ⟨hstop'.trans hstop, hnotified', w, ?_⟩
      rw [hworkers, update_self]
      exact hasleep.2 hsleep
    · left
      refine ⟨hstop'.trans hstop, hnotified', ?_⟩
      rw [hworkers, update_of_ne hv, hsleep]
  · exact Or.inl ⟨hstop, hnotified, hsleep⟩
  · have hdtor' : dtor = s.dtor := hdtor.resolve_right fun hstopping => hnotified.2 hstopping.1
    subst hdtor'
    left
    refine ⟨hstop, hnotified, ?_⟩
    rcases hworkers w with heq | ⟨hasleep, -⟩
    · exact heq.trans hsleep
    · rw [hsleep] at hasleep
      cases hasleep
  · exact absurd halive hnotified.1
  · exact Or.inl ⟨hstop, ⟨nofun, nofun⟩, hsleep⟩
  · exact Or.inl ⟨hstop, ⟨nofun, nofun⟩, hsleep⟩

/-- a worker in the gap is overtaken by `notify_all` -/
theorem overtaken_of_notify {s t : ThreadPool n} {a : PoolAct n} {w : Fin n} (hset : s.StopSet)
    (h : Enabled step s a t) (ha : a = .destructor) (hstopping : s.dtor = .stopping) (hw : s.workers w = .sleep) :
    t.Overtaken w := by
  subst ha
  unfold Enabled step dtorStep at h
  rw [hstopping] at h
  obtain rfl := Option.some.inj h
  exact ⟨hset (by simp [hstopping]), ⟨nofun, nofun⟩, by simp [hw]⟩

/-- **When every worker is woken**: no state of a run has a worker asleep after `notify_all` if `notify_all` is not
called in the gap between the predicate and the sleep of a worker, and where `mutex_` is free at the end of the run only
then -/
theorem wakeup_iff {t : ThreadPool n} {as : List (PoolAct n)} (h : Run (Enabled step) (init n) as t) :
    ((∀ s a, Taken (Enabled step) (init n) as t s a → s.NotifiesInTime a) →
        ∀ s, Visited (Enabled step) (init n) as t s → ¬ s.LostWakeup) ∧
      (t.owner = none → (∀ s, Visited (Enabled step) (init n) as t s → ¬ s.LostWakeup) →
        ∀ s a, Taken (Enabled step) (init n) as t s a → s.NotifiesInTime a) := by
  constructor
  · rintro hq s hs ⟨-, hnotified, w, hasleep⟩
    have hawake : s.StopSet ∧ s.Awake :=
      visited_inv (P := fun s => s.StopSet ∧ s.Awake) (Q := NotifiesInTime)
        (fun s a t hs hq hstep => ⟨step_stopSet hs.1 hstep, step_awake hs.1 hs.2 hq hstep⟩)
        ⟨absurd rfl, fun hnotified => absurd rfl hnotified.1⟩ hq hs
    exact (hawake.2 hnotified w).1 hasleep
  · rintro hfree hnever s a ⟨as1, as2, u, rfl, hfirst, hstep, hrest⟩ ha hstopping w hw
    have hover : u.Overtaken w := overtaken_of_notify (stopSet_of_run hfirst) hstep ha hstopping hw
    -- the worker owns the mutex until it sleeps
    have hend : ¬ t.Overtaken w := by
      intro hover
      have hholds : (t.workers w).Holds := by
        rw [hover.sleep]
        trivial
      have howner := ((ready_of_run h).1 w ()).2 hholds
      rw [hfree] at howner
      cases howner
    obtain ⟨v, hv, hlost⟩ := hrest.passes (P := fun s => s.Overtaken w) (B := LostWakeup)
      (fun s a t hs hstep => step_overtaken hs hstep) hover hend
    refine hnever v ?_ hlost
    have hlast := hv.append (hfirst.append (.cons hstep (.nil u)))
    rwa [List.append_assoc] at hlast

/-- a worker that is asleep when `notify_all` is called, and one that has not looked yet -/
theorem wakeup_iff_two : ∃ as t, Run (Enabled step) (init 2) as t ∧ t.Notified ∧
    ((∀ s a, Taken (Enabled step) (init 2) as t s a → s.NotifiesInTime a) →
        ∀ s, Visited (Enabled step) (init 2) as t s → ¬ s.LostWakeup) ∧
      (t.owner = none → (∀ s, Visited (Enabled step) (init 2) as t s → ¬ s.LostWakeup) →
        ∀ s a, Taken (Enabled step) (init 2) as t s a → s.NotifiesInTime a) := by
  have hrun : Run (Enabled step) (init 2) [.worker 0, .worker 0, .worker 0, .worker 0, .worker 1, .destructor,
      .destructor] _ := run_iff_foldlM.2 rfl
  exact ⟨_, _, hrun, ⟨nofun, nofun⟩, wakeup_iff hrun⟩

/-- **A worker sleeps on**: the destructor sets `stop_` and notifies between its look at the predicate and its sleep -/
theorem wakeup_lost : ¬ ∀ (n : ℕ) (as : List (PoolAct n)) (t : ThreadPool n),
    Run (Enabled step) (init n) as t → ¬ t.LostWakeup := by
  intro h
  have hrun : Run (Enabled step) (init 1) [.worker 0, .worker 0, .worker 0, .destructor, .destructor, .worker 0] _ :=
    run_iff_foldlM.2 rfl
  exact h 1 _ _ hrun ⟨rfl, ⟨nofun, nofun⟩, 0, rfl⟩

end ThreadPool

end Rtcom
