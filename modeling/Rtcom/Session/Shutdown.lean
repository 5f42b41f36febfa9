/-
`Start` and `Stop` of `SessionManager` and the thread between them: `RtpEventLoop`, which adds the RTCP timer and calls
`IoMultiplexer::Run`. The main thread and the RTP thread write `running_` of the multiplexer without a lock: `Run` sets
it once, before its loop, and `Stop` clears it once, before it joins the thread. `rtp_running_` is written by the main
thread and read by nobody.

A program counter stands at the next of these accesses; what else the threads do (the SIP manager, the thread pool,
timers and callbacks, which `LockOrder` has) is part of the step at the end of which it is done.

- `Hung`: `Stop` waits in join for a thread that is in its loop with `running_` set; `hung_forever`: nothing but a
  failure of `epoll_wait` ends this.
- `never_hung_iff`: a run visits no such state exactly when the thread never enters `Run` while `Stop` is in join.
- `stop_returns`: when the thread has entered `Run` before, `Stop` can return.
-/
import Mathlib.Tactic
import Rtcom.Lib.Runs

namespace Rtcom

open Runs

/-- the main thread: outside of `Start` and `Stop` without a thread or with one, or at the next access in them -/
inductive MainPc where
  | idle
  | starting
  | started
  | stopping
  | joining
deriving DecidableEq, Repr

/-- the RTP thread: before `AddTimer`, before `running_ = true`, at the test of the loop, in `epoll_wait`, in the
timers and callbacks, or returned -/
inductive LoopPc where
  | absent
  | addTimer
  | enter
  | test
  | wait
  | dispatch
  | returned
deriving DecidableEq, Repr

structure Lifetime where
  rtpRunning : Bool
  running : Bool
  main : MainPc
  rtp : LoopPc
deriving DecidableEq, Repr

/-- how `epoll_wait` returns -/
inductive EpollResult where
  | events
  | interrupted
  | failed
deriving DecidableEq, Repr

inductive LifetimeAct where
  | setRtpRunning
  | spawn
  | clearRtpRunning
  | clearRunning
  | join
  | addTimer
  | setRunning
  | test
  | epollWait (result : EpollResult)
  | dispatched
deriving DecidableEq, Repr

namespace Lifetime

/-- before the first `Start` -/
def init : Lifetime := ⟨false, false, .idle, .absent⟩

/-- there is a thread, and it has not returned: a join waits for it -/
def Alive (s : Lifetime) : Prop := s.rtp ≠ .absent ∧ s.rtp ≠ .returned

instance (s : Lifetime) : Decidable s.Alive := inferInstanceAs (Decidable (s.rtp ≠ .absent ∧ s.rtp ≠ .returned))

def step (s : Lifetime) : LifetimeAct → Option Lifetime
  -- Start
  | .setRtpRunning => if s.main = .idle then some { s with rtpRunning := true, main := .starting } else none
  | .spawn => if s.main = .starting then some { s with main := .started, rtp := .addTimer } else none
  -- Stop
  | .clearRtpRunning =>
    if s.main = .idle ∨ s.main = .started then some { s with rtpRunning := false, main := .stopping } else none
  | .clearRunning => if s.main = .stopping then some { s with running := false, main := .joining } else none
  | .join => if s.main = .joining ∧ ¬ s.Alive then some { s with main := .idle, rtp := .absent } else none
  -- RtpEventLoop, Run
  | .addTimer => if s.rtp = .addTimer then some { s with rtp := .enter } else none
  | .setRunning => if s.rtp = .enter then some { s with running := true, rtp := .test } else none
  | .test => if s.rtp = .test then some { s with rtp := if s.running then .wait else .returned } else none
  | .epollWait result =>
    if s.rtp = .wait then
      some { s with rtp := match result with
        | .events => .dispatch
        | .interrupted => .test
        | .failed => .returned }
    else none
  | .dispatched => if s.rtp = .dispatch then some { s with rtp := .test } else none

/-- `Stop` is in join, the thread is not going to leave its loop, and nobody is left to clear the flag -/
structure Hung (s : Lifetime) : Prop where
  joining : s.main = .joining
  running : s.running = true
  alive : s.Alive

instance (s : Lifetime) : Decidable s.Hung :=
  decidable_of_iff (s.main = .joining ∧ s.running = true ∧ s.Alive)
    ⟨fun h => ⟨h.1, h.2.1, h.2.2⟩, fun h => ⟨h.joining, h.running, h.alive⟩⟩

/-- the thread does not enter `Run` while `Stop` is in join -/
def EntersBeforeStop (s : Lifetime) (a : LifetimeAct) : Prop := a = .setRunning → s.main ≠ .joining

/-- what a step of either thread does to the join, the flag and the thread -/
theorem step_cases {s t : Lifetime} {a : LifetimeAct} (h : Enabled step s a t) :
    (a = .setRunning ∧ s.rtp = .enter ∧ t = { s with running := true, rtp := .test }) ∨
      (a ≠ .setRunning ∧ (t.main ≠ .joining ∨ t.running = false ∨
        t.main = s.main ∧ t.running = s.running ∧ s.Alive)) := by
  unfold Enabled step at h
  cases a with
  | setRunning =>
    obtain ⟨hpc, rfl⟩ := guarded h
    exact Or.inl ⟨rfl, hpc, rfl⟩
  | setRtpRunning | spawn | clearRtpRunning | join =>
    obtain ⟨-, rfl⟩ := guarded h
    exact Or.inr ⟨nofun, Or.inl nofun⟩
  | clearRunning =>
    obtain ⟨-, rfl⟩ := guarded h
    exact Or.inr ⟨nofun, Or.inr (Or.inl rfl)⟩
  | addTimer | test | epollWait | dispatched =>
    obtain ⟨hpc, rfl⟩ := guarded h
    refine Or.inr ⟨nofun, Or.inr (Or.inr ⟨rfl, rfl, ?_⟩)⟩
    rw [Alive, hpc]
    exact ⟨nofun, nofun⟩

/-- one step: out of a state that is not hung, only an entry that `Stop` has overtaken leads to a hung one -/
theorem hung_step_iff {s t : Lifetime} {a : LifetimeAct} (hs : ¬ s.Hung) (h : Enabled step s a t) :
    ¬ t.Hung ↔ s.EntersBeforeStop a := by
  rcases step_cases h with ⟨rfl, hpc, rfl⟩ | ⟨ha, hcases⟩
  · constructor
    · intro ht _ hjoin
      exact ht ⟨hjoin, rfl, nofun, nofun⟩
    · intro hQ ht
      exact hQ rfl ht.joining
  · refine iff_of_true (fun ht => ?_) fun ha' => absurd ha' ha
    rcases hcases with hmain | hrunning | ⟨hmain, hrunning, halive⟩
    · exact hmain ht.joining
    · exact absurd (hrunning.symm.trans ht.running) Bool.false_ne_true
    · exact hs ⟨hmain ▸ ht.joining, hrunning ▸ ht.running, halive⟩

/-- **Hung for ever**: unless `epoll_wait` fails, no step of any thread ends it -/
theorem hung_forever {s t : Lifetime} {as : List LifetimeAct} (hs : s.Hung) (h : Run (Enabled step) s as t)
    (hfail : LifetimeAct.epollWait .failed ∉ as) : t.Hung := by
  induction h with
  | nil s => exact hs
  | @cons s u t a as hstep _ ih =>
    rw [List.mem_cons, not_or] at hfail
    refine ih ?_ hfail.2
    unfold Enabled step at hstep
    cases a with
    | setRtpRunning | spawn | clearRtpRunning | clearRunning | join =>
      obtain ⟨hpc, -⟩ := guarded hstep
      simp [hs.joining, hs.alive] at hpc
    | addTimer | setRunning | dispatched =>
      obtain ⟨-, rfl⟩ := guarded hstep
      exact ⟨hs.joining, by simp [hs.running], nofun, nofun⟩
    | test =>
      obtain ⟨-, rfl⟩ := guarded hstep
      exact ⟨hs.joining, hs.running, by simp [hs.running], by simp [hs.running]⟩
    | epollWait result =>
      obtain ⟨-, rfl⟩ := guarded hstep
      cases result with
      | events | interrupted => exact ⟨hs.joining, hs.running, nofun, nofun⟩
      | failed => exact absurd rfl hfail.1

/-- **When a run does not hang**: exactly when the thread never enters `Run` while `Stop` is in join -/
theorem never_hung_iff (as : List LifetimeAct) (t : Lifetime) :
    (∀ s, Visited (Enabled step) init as t s → ¬ s.Hung) ↔
      ∀ s a, Taken (Enabled step) init as t s a → s.EntersBeforeStop a := by
  have hinit : ¬ init.Hung := by decide
  exact never_bad_iff (I := fun _ => True) (fun _ _ _ _ _ => trivial) (fun s a u _ hs h => hung_step_iff hs h) trivial
    hinit

/-- **`Stop` overtakes the thread**: it clears the flag before `Run` sets it -/
theorem stop_overtakes : ¬ ∀ as t, Run (Enabled step) init as t → ¬ t.Hung := by
  intro h
  refine h [.setRtpRunning, .spawn, .clearRtpRunning, .clearRunning, .addTimer, .setRunning]
    ⟨false, true, .joining, .test⟩ ?_ ?_
  · rw [run_iff_foldlM]
    decide
  · decide

/-- with the flag cleared behind it, a thread that has entered `Run` leaves its loop, and `Stop` returns -/
theorem stop_returns {s : Lifetime} (hjoin : s.main = .joining) (hrunning : s.running = false)
    (hentered : s.rtp ≠ .addTimer ∧ s.rtp ≠ .enter) :
    ∃ as t, Run (Enabled step) s as t ∧ t.main = .idle := by
  obtain ⟨rtpRunning, running, main, rtp⟩ := s
  simp only at hjoin hrunning hentered
  subst hjoin hrunning
  cases rtp with
  | addTimer => exact absurd rfl hentered.1
  | enter => exact absurd rfl hentered.2
  | absent | returned => exact ⟨[.join], _, run_iff_foldlM.2 rfl, rfl⟩
  | test => exact ⟨[.test, .join], _, run_iff_foldlM.2 rfl, rfl⟩
  | wait => exact ⟨[.epollWait .events, .dispatched, .test, .join], _, run_iff_foldlM.2 rfl, rfl⟩
  | dispatch => exact ⟨[.dispatched, .test, .join], _, run_iff_foldlM.2 rfl, rfl⟩

end Lifetime

end Rtcom
