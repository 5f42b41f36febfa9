/-
The RTCP timer over `Start` and `Stop`. `RtpEventLoop` adds a recurring timer of 5000 ms each time the RTP thread is
started; `Stop` ends the loop and joins the thread, and leaves the timers of `rtp_epoll_` as they are. Threads are those
of `Shutdown`; timers fire behind `epoll_wait`, before the callbacks of the descriptors.

- `Inv`: the multiplexer has as many RTCP timers as the thread has been started.
- `one_timer_iff`: while the loop is there it has one RTCP timer, and `OnRtcpTimer` runs every 5 seconds at most,
  exactly if the timer is added at most once.
- `restart_doubles`: `Start`, `Stop` and `Start`.
-/
import Mathlib.Tactic
import Rtcom.Net.IoMultiplexer
import Rtcom.Session.Shutdown

namespace Rtcom

open Runs

/-- a reading of the steady clock: nanoseconds, in 63 bits -/
structure SteadyTime where
  ns : ℕ
  inRange : ns < 2 ^ 63
deriving DecidableEq, Repr

/-- `IoMultiplexer::GetNowMs` -/
def SteadyTime.getNowMs (time : SteadyTime) : UInt64 := UInt64.ofNat (time.ns / 1000000)

/-- the RTP thread is in its loop, or about to enter it -/
def Lifetime.InLoop (life : Lifetime) : Prop :=
  life.rtp = .enter ∨ life.rtp = .test ∨ life.rtp = .wait ∨ life.rtp = .dispatch

instance (life : Lifetime) : Decidable life.InLoop := inferInstanceAs (Decidable (_ ∨ _))

/-- the callbacks of the timers of `rtp_epoll_` -/
inductive TimerCallback where
  | onRtcpTimer
deriving DecidableEq, Repr

/-- `SessionManager` between `Start` and `Stop`: the threads, the timers of `rtp_epoll_`, and when `OnRtcpTimer` ran -/
structure EventLoop where
  life : Lifetime
  epoll : IoMultiplexer TimerCallback
  fired : List ℕ
deriving DecidableEq, Repr

namespace EventLoop

def init : EventLoop := ⟨.init, .new, []⟩

/-- a step of one of the threads, and what `GetNowMs` says in it -/
abbrev Act := LifetimeAct × SteadyTime

def rtcpInterval : UInt64 := 5000

def step (s : EventLoop) (a : Act) : Option EventLoop :=
  let now := a.2.getNowMs
  (s.life.step a.1).map fun life =>
    match a.1 with
    | .addTimer => { s with life, epoll := (s.epoll.addTimer rtcpInterval true .onRtcpTimer now).1 }
    -- FireTimers
    | .dispatched =>
      let (epoll, called) := s.epoll.fireTimers now
      { life, epoll, fired := s.fired ++ called.map fun _ => now.toNat }
    | _ => { s with life }

def OneTimer (s : EventLoop) : Prop := s.life.InLoop → s.epoll.timers.length = 1

/-- two runs of `OnRtcpTimer` are 5 seconds apart -/
def Spaced (s : EventLoop) : Prop := s.fired.Pairwise fun t u => t + 5000 ≤ u

def isAddTimer (a : Act) : Bool := a.1 == .addTimer

/-- after n calls of `AddTimer` -/
structure Inv (n : ℕ) (s : EventLoop) : Prop where
  timers : s.epoll.timers.length = n
  rtcp : ∀ t ∈ s.epoll.timers, t.recurring = true ∧ t.intervalMs = rtcpInterval
  inLoop : s.life.InLoop → n ≠ 0
  notYet : n = 0 → s.fired = []
  spaced : n ≤ 1 → s.Spaced ∧ ∀ t ∈ s.epoll.timers, ∀ f ∈ s.fired, f + 5000 ≤ t.nextFireMs.toNat

theorem inv_init : Inv 0 init := by
  refine ⟨rfl, nofun, ?_, fun _ => rfl, fun _ => ⟨List.Pairwise.nil, nofun⟩⟩
  decide

/-! ## One step -/

/-- the thread comes into its loop by way of `AddTimer` alone -/
theorem inLoop_of_step {life life' : Lifetime} {a : LifetimeAct} (h : life.step a = some life') (hloop : life'.InLoop) :
    a = .addTimer ∨ life.InLoop := by
  cases a with
  | addTimer => exact Or.inl rfl
  | setRtpRunning | clearRtpRunning | clearRunning =>
    obtain ⟨-, rfl⟩ := guarded h
    exact Or.inr hloop
  | spawn | join =>
    obtain ⟨-, rfl⟩ := guarded h
    simp [Lifetime.InLoop] at hloop
  | setRunning | test | epollWait | dispatched =>
    obtain ⟨hpc, -⟩ := guarded h
    simp [Lifetime.InLoop, hpc]

/-- what a step does to the timers: `AddTimer`, `FireTimers` or nothing -/
theorem step_cases {s t : EventLoop} {a : Act} (h : Enabled step s a t) :
    s.life.step a.1 = some t.life ∧
      ((isAddTimer a = true ∧ t.fired = s.fired ∧
          t.epoll = (s.epoll.addTimer rtcpInterval true .onRtcpTimer a.2.getNowMs).1) ∨
        (isAddTimer a = false ∧ t.epoll = (s.epoll.fireTimers a.2.getNowMs).1 ∧
          t.fired = s.fired ++ (s.epoll.fireTimers a.2.getNowMs).2.map fun _ => a.2.getNowMs.toNat) ∨
        (isAddTimer a = false ∧ t.epoll = s.epoll ∧ t.fired = s.fired)) := by
  obtain ⟨act, time⟩ := a
  obtain ⟨life, hlife, rfl⟩ := Option.map_eq_some_iff.1 h
  cases act with
  | addTimer => exact ⟨hlife, Or.inl ⟨rfl, rfl, rfl⟩⟩
  | dispatched => exact ⟨hlife, Or.inr (Or.inl ⟨rfl, rfl, rfl⟩)⟩
  | setRtpRunning | spawn | clearRtpRunning | clearRunning | join | setRunning | test | epollWait =>
    exact ⟨hlife, Or.inr (Or.inr ⟨rfl, rfl, rfl⟩)⟩

/-- a deadline 5 seconds from now fits into 64 bits -/
theorem toNat_deadline (time : SteadyTime) :
    (time.getNowMs + rtcpInterval).toNat = time.getNowMs.toNat + 5000 := by
  have hns := time.inRange
  have hnow : time.getNowMs.toNat = time.ns / 1000000 := by
    rw [SteadyTime.getNowMs, UInt64.toNat_ofNat_of_lt' (by rw [UInt64.size]; omega)]
  have hinterval : rtcpInterval.toNat = 5000 := rfl
  rw [UInt64.toNat_add, hinterval]
  omega

/-- recurring timers stay where they are -/
theorem fireTimers_recurring {m : IoMultiplexer TimerCallback} (h : ∀ t ∈ m.timers, t.recurring = true)
    (now : UInt64) : (m.fireTimers now).1.timers = m.timers.map (TimerInfo.fire now) := by
  rw [IoMultiplexer.fireTimers, List.filter_eq_self]
  intro t' ht'
  obtain ⟨t, ht, rfl⟩ := List.mem_map.1 ht'
  rw [TimerInfo.fire]
  split_ifs <;> simp [TimerInfo.isDone, h t ht]

theorem Inv.addTimer {n : ℕ} {s t : EventLoop} {time : SteadyTime} (h : Inv n s) (hfired : t.fired = s.fired)
    (hepoll : t.epoll = (s.epoll.addTimer rtcpInterval true .onRtcpTimer time.getNowMs).1) : Inv (n + 1) t := by
  have htimers : t.epoll.timers = s.epoll.timers ++
      [⟨s.epoll.nextTimerId, rtcpInterval, true, .onRtcpTimer, time.getNowMs + rtcpInterval⟩] := by
    rw [hepoll]
    rfl
  refine ⟨?_, ?_, fun _ => n.succ_ne_zero, fun hn => absurd hn n.succ_ne_zero, fun hn => ?_⟩
  · rw [htimers, List.length_append, List.length_singleton, h.timers]
  · intro u hu
    rw [htimers, List.mem_append, List.mem_singleton] at hu
    rcases hu with hold | rfl
    · exact h.rtcp u hold
    · exact ⟨rfl, rfl⟩
  · -- nothing has fired before the first timer
    have hnone : s.fired = [] := h.notYet (by omega)
    rw [Spaced, hfired, hnone]
    exact ⟨List.Pairwise.nil, nofun⟩

/-- one timer: it fires an interval or more after all its firings before, and is then set an interval ahead -/
theorem fire_spaced {timer : TimerInfo TimerCallback} {fired : List ℕ} (time : SteadyTime)
    (hrtcp : timer.recurring = true ∧ timer.intervalMs = rtcpInterval)
    (hspaced : fired.Pairwise fun t u => t + 5000 ≤ u) (hnext : ∀ f ∈ fired, f + 5000 ≤ timer.nextFireMs.toNat) :
    let fired' := fired ++ ([timer].filter (TimerInfo.isDue time.getNowMs)).map fun _ => time.getNowMs.toNat
    (fired'.Pairwise fun t u => t + 5000 ≤ u) ∧
      ∀ f ∈ fired', f + 5000 ≤ (TimerInfo.fire time.getNowMs timer).nextFireMs.toNat := by
  rw [List.filter_singleton, TimerInfo.fire]
  by_cases hdue : timer.isDue time.getNowMs = true
  · have hlast : ∀ f ∈ fired, f + 5000 ≤ time.getNowMs.toNat :=
      fun f hf => (hnext f hf).trans (IoMultiplexer.isDue_iff.1 hdue)
    rw [hdue, if_pos rfl, if_pos hrtcp.1, hrtcp.2]
    refine ⟨?_, fun f hf => ?_⟩
    · rw [List.pairwise_append]
      refine ⟨hspaced, List.pairwise_singleton _ _, fun f hf g hg => ?_⟩
      rw [List.mem_singleton.1 hg]
      exact hlast f hf
    · show f + 5000 ≤ (time.getNowMs + rtcpInterval).toNat
      rw [toNat_deadline]
      rcases List.mem_append.1 hf with hold | hnow
      · exact Nat.add_le_add_right ((Nat.le_add_right f 5000).trans (hlast f hold)) 5000
      · rw [List.mem_singleton.1 hnow]
  · rw [eq_false_of_ne_true hdue, if_neg Bool.false_ne_true]
    simpa using ⟨hspaced, hnext⟩

theorem Inv.fireTimers {n : ℕ} {s t : EventLoop} {time : SteadyTime} (h : Inv n s)
    (hloop : t.life.InLoop → s.life.InLoop) (hepoll : t.epoll = (s.epoll.fireTimers time.getNowMs).1)
    (hfired : t.fired = s.fired ++ (s.epoll.fireTimers time.getNowMs).2.map fun _ => time.getNowMs.toNat) :
    Inv n t := by
  have htimers : t.epoll.timers = s.epoll.timers.map (TimerInfo.fire time.getNowMs) := by
    rw [hepoll, fireTimers_recurring fun u hu => (h.rtcp u hu).1]
  refine ⟨?_, ?_, fun hin => h.inLoop (hloop hin), fun hn => ?_, fun hn => ?_⟩
  · rw [htimers, List.length_map, h.timers]
  · intro u' hu'
    rw [htimers] at hu'
    obtain ⟨u, hu, rfl⟩ := List.mem_map.1 hu'
    rw [TimerInfo.fire]
    split_ifs <;> exact h.rtcp u hu
  · have hempty : s.epoll.timers = [] := List.eq_nil_of_length_eq_zero (h.timers.trans hn)
    rw [hfired, h.notYet hn, IoMultiplexer.fireTimers, hempty]
    rfl
  · obtain ⟨hspaced, hnext⟩ := h.spaced hn
    have hlen : s.epoll.timers.length ≤ 1 := h.timers.trans_le hn
    rw [Spaced, hfired, htimers, IoMultiplexer.fireTimers]
    rcases hlist : s.epoll.timers with _ | ⟨timer, _ | ⟨other, rest⟩⟩
    · simpa using (show s.fired.Pairwise fun t u => t + 5000 ≤ u from hspaced)
    · have hmem : timer ∈ s.epoll.timers := by simp [hlist]
      obtain ⟨hspaced', hnext'⟩ := fire_spaced time (h.rtcp timer hmem) hspaced (hnext timer hmem)
      refine ⟨hspaced', fun w hw => ?_⟩
      rw [List.map_singleton, List.mem_singleton] at hw
      rw [hw]
      exact hnext'
    · rw [hlist] at hlen
      simp at hlen

/-- `AddTimer` counts, other steps keep the number of timers -/
theorem step_inv {n : ℕ} {s t : EventLoop} {a : Act} (h : Inv n s) (hstep : Enabled step s a t) :
    Inv (n + if isAddTimer a then 1 else 0) t := by
  obtain ⟨hlife, hcases⟩ := step_cases hstep
  have hloop : isAddTimer a = false → t.life.InLoop → s.life.InLoop := by
    intro hadd hin
    rcases inLoop_of_step hlife hin with heq | hin
    · simp [isAddTimer, heq] at hadd
    · exact hin
  rcases hcases with ⟨hadd, hfired, hepoll⟩ | ⟨hadd, hepoll, hfired⟩ | ⟨hadd, hepoll, hfired⟩
  · rw [hadd]
    exact h.addTimer hfired hepoll
  · rw [hadd]
    exact h.fireTimers (hloop hadd) hepoll hfired
  · rw [hadd]
    refine ⟨?_, ?_, fun hin => h.inLoop (hloop hadd hin), ?_, ?_⟩
    · rw [hepoll]
      exact h.timers
    · rw [hepoll]
      exact h.rtcp
    · rw [hfired]
      exact h.notYet
    · rw [Spaced, hepoll, hfired]
      exact h.spaced

/-! ## Runs -/

theorem run_inv {n : ℕ} {s t : EventLoop} {as : List Act} (h : Run (Enabled step) s as t) (hs : Inv n s) :
    Inv (n + as.countP isAddTimer) t := by
  induction h generalizing n with
  | nil s => exact hs
  | cons hstep _ ih =>
    rw [List.countP_cons, add_comm (List.countP _ _), ← add_assoc]
    exact ih (step_inv hs hstep)

/-- a timer added when there is one already -/
theorem second_of_countP {as : List Act} (h : ¬ as.countP isAddTimer ≤ 1) :
    ∃ before a after, as = before ++ a :: after ∧ isAddTimer a = true ∧ before.countP isAddTimer ≠ 0 := by
  induction as using List.reverseRecOn with
  | nil => simp at h
  | append_singleton as a ih =>
    by_cases hmore : as.countP isAddTimer ≤ 1
    · have hlast : isAddTimer a = true := by
        by_contra hadd
        simp [List.countP_append, hadd] at h
        omega
      refine ⟨as, a, [], rfl, hlast, ?_⟩
      simp only [List.countP_append, List.countP_singleton, hlast, if_true] at h
      omega
    · obtain ⟨before, b, after, rfl, hb, hbefore⟩ := ih hmore
      exact ⟨before, b, after ++ [a], by simp, hb, hbefore⟩

/-- **When there is one timer**: in all states of a run, exactly if the thread has been started at most once -/
theorem one_timer_iff {t : EventLoop} {as : List Act} (h : Run (Enabled step) init as t) :
    ((∀ s, Visited (Enabled step) init as t s → s.OneTimer) ∧ t.Spaced) ↔ as.countP isAddTimer ≤ 1 := by
  refine ⟨?_, ?_⟩
  · rintro ⟨hone, -⟩
    by_contra hmore
    obtain ⟨before, a, after, rfl, hadd, hbefore⟩ := second_of_countP hmore
    obtain ⟨s, hrun, hrest⟩ := h.split
    rcases hrest with _ | ⟨hstep, hrest⟩
    rename_i u
    have hrun' : Run (Enabled step) init (before ++ [a]) u := hrun.append (.cons hstep (.nil u))
    have hinv := step_inv (run_inv hrun inv_init) hstep
    have hloop : u.life.InLoop := by
      obtain ⟨hlife, -⟩ := step_cases hstep
      rw [show a.1 = .addTimer from eq_of_beq hadd] at hlife
      obtain ⟨-, hu⟩ := guarded hlife
      rw [hu]
      exact Or.inl rfl
    have hlen := hone u ⟨before ++ [a], after, by simp, hrun', hrest⟩ hloop
    rw [hinv.timers, hadd, if_pos rfl] at hlen
    omega
  · intro hmost
    refine ⟨?_, ?_⟩
    · rintro s ⟨as1, as2, rfl, hrun, -⟩ hloop
      have hinv := run_inv hrun inv_init
      have hsome := hinv.inLoop hloop
      rw [List.countP_append] at hmost
      rw [hinv.timers]
      omega
    · exact ((run_inv h inv_init).spaced (by omega)).1

/-- milliseconds after the clock has started -/
def ms (n : Fin 1000000) : SteadyTime := ⟨n * 1000000, by omega⟩

/-- `Start`, six seconds and `Stop` -/
theorem one_timer_session :
    let as : List Act := [(.setRtpRunning, ms 0), (.spawn, ms 0), (.addTimer, ms 1), (.setRunning, ms 1), (.test, ms 1),
      (.epollWait .events, ms 5001), (.dispatched, ms 5001), (.clearRtpRunning, ms 6000), (.clearRunning, ms 6000),
      (.test, ms 6000), (.join, ms 6001)]
    let t : EventLoop := ⟨.init, ⟨[⟨1, 5000, true, .onRtcpTimer, 10001⟩], 2⟩, [5001]⟩
    Run (Enabled step) init as t ∧ (∀ s, Visited (Enabled step) init as t s → s.OneTimer) ∧ t.Spaced := by
  intro as t
  have hrun : Run (Enabled step) init as t := run_iff_foldlM.2 (by decide)
  exact ⟨hrun, (one_timer_iff hrun).2 (by decide)⟩

/-- **A restart**: the second `Start` finds the timer of the first and adds another -/
theorem restart_doubles : ¬ ∀ as t, Run (Enabled step) init as t →
    (∀ s, Visited (Enabled step) init as t s → s.OneTimer) ∧ t.Spaced := by
  intro h
  have hrun : Run (Enabled step) init
      [(.setRtpRunning, ms 0), (.spawn, ms 0), (.addTimer, ms 0), (.setRunning, ms 0), (.clearRtpRunning, ms 1000),
        (.clearRunning, ms 1000), (.test, ms 1000), (.join, ms 1000), (.setRtpRunning, ms 2000), (.spawn, ms 2000),
        (.addTimer, ms 2000), (.setRunning, ms 2000), (.test, ms 2000), (.epollWait .events, ms 8000),
        (.dispatched, ms 8000)]
      ⟨⟨true, true, .started, .test⟩,
        ⟨[⟨1, 5000, true, .onRtcpTimer, 13000⟩, ⟨2, 5000, true, .onRtcpTimer, 13000⟩], 3⟩, [8000, 8000]⟩ :=
    run_iff_foldlM.2 (by decide)
  have hspaced := (h _ _ hrun).2
  rw [Spaced] at hspaced
  revert hspaced
  decide

end EventLoop

end Rtcom
