/-
`Reset` and what is extracted after it. `Reset` empties the buffer and restores the delay, but leaves the published
jitter estimate, and the first `Insert` after it adapts the delay to that.

- `answers`: what the `Extract` calls of a run return, call by call.
- `Alike`: two buffers that no later call tells apart; `answers_alike`: they give the same answers.
- `reset_iff`: a buffer that was reset answers like a new one in all later runs exactly when the estimate left over was
  not above the initial delay, or raising and lowering the delay from there come to the same.
-/
import Mathlib.Tactic
import Rtcom.Rtp.JitterDelay
import Rtcom.Rtp.JitterFilter

namespace Rtcom

open Runs

namespace JitterBuffer

variable (S : StdSort BufferItem.seq)

/-- what the `Extract` calls of a run return, in order -/
def answers (b : JitterBuffer) : List JitterOp → List (Option RtpPacket)
  | [] => []
  | .insert packet now :: ops => answers (b.insert S packet now) ops
  | .extract :: ops => b.extract.2 :: answers b.extract.1 ops

/-! ## One `Insert` on two buffers -/

/-- the same packets, marked alike, and the same delay -/
structure Agree (b b' : JitterBuffer) : Prop where
  config : b.config = b'.config
  buffer : b.buffer = b'.buffer
  delay : b.currentDelayMs = b'.currentDelayMs

variable {b b' : JitterBuffer} {packet : RtpPacket} {now : ℤ}

theorem getBufferDepthMs_congr (h : b.buffer = b'.buffer) : b.getBufferDepthMs = b'.getBufferDepthMs := by
  rw [getBufferDepthMs, getBufferDepthMs, h]

/-- the buffer after an `Insert` depends on the buffer and the delay before it -/
theorem Agree.buffer_insert (h : Agree b b') : (b.insert S packet now).buffer = (b'.insert S packet now).buffer := by
  rw [insert_eq, insert_eq, buffer_dropOverflow, buffer_dropOverflow, buffer_fill, buffer_fill, h.buffer, h.delay]

/-- the delay after it also on the jitter estimate -/
theorem Agree.insert (h : Agree b b')
    (hjitter : (b.calculateJitter packet now).currentJitterMs = (b'.calculateJitter packet now).currentJitterMs) :
    Agree (b.insert S packet now) (b'.insert S packet now) := by
  obtain ⟨hconfig, hdelay⟩ := b.currentDelayMs_insert S packet now
  obtain ⟨hconfig', hdelay'⟩ := b'.currentDelayMs_insert S packet now
  have hdepth : (b.enqueued S packet now).getBufferDepthMs = (b'.enqueued S packet now).getBufferDepthMs :=
    getBufferDepthMs_congr (by rw [buffer_enqueued, buffer_enqueued, h.buffer])
  refine ⟨by rw [hconfig, hconfig', h.config], h.buffer_insert S, ?_⟩
  rw [hdelay, hdelay', hjitter, hdepth, h.config, h.delay]

theorem Agree.extract (h : Agree b b') : b.extract.2 = b'.extract.2 ∧ Agree b.extract.1 b'.extract.1 := by
  unfold JitterBuffer.extract
  rw [h.buffer]
  cases b'.buffer.find? (·.ready) with
  | none => exact ⟨rfl, h⟩
  | some i => exact ⟨rfl, ⟨h.config, rfl, h.delay⟩⟩

/-- two buffers in use whose next estimates are the same -/
structure Alike (b b' : JitterBuffer) : Prop extends Agree b b' where
  initialized : b.jitterInitialized = true
  initialized' : b'.jitterInitialized = true
  jitter : b.transitJitter = b'.transitJitter
  last : b.lastTransit = b'.lastTransit

theorem Alike.insert (h : Alike b b') : Alike (b.insert S packet now) (b'.insert S packet now) := by
  obtain ⟨-, -, -, hpublished, -⟩ := b.estimate_insert S packet now
  obtain ⟨-, -, -, hpublished', -⟩ := b'.estimate_insert S packet now
  obtain ⟨hinit, hjitter, hlast, hcurrent, -⟩ := estimate_next S h.initialized packet now
  obtain ⟨hinit', hjitter', hlast', hcurrent', -⟩ := estimate_next S h.initialized' packet now
  have hdelta : b.delta packet now = b'.delta packet now := by rw [delta, delta, h.config, h.last]
  have hnext : (b.calculateJitter packet now).currentJitterMs = (b'.calculateJitter packet now).currentJitterMs := by
    rw [← hpublished, ← hpublished', hcurrent, hcurrent', hdelta, h.jitter]
  refine ⟨h.toAgree.insert S hnext, hinit, hinit', ?_, ?_⟩
  · rw [hjitter, hjitter', hdelta, h.jitter]
  · rw [hlast, hlast', h.config]

theorem Alike.extract (h : Alike b b') : Alike b.extract.1 b'.extract.1 := by
  obtain ⟨hinit, hjitter, hlast, -, -⟩ := b.estimate_extract
  obtain ⟨hinit', hjitter', hlast', -, -⟩ := b'.estimate_extract
  exact ⟨h.toAgree.extract.2, hinit.trans h.initialized, hinit'.trans h.initialized',
    by rw [hjitter, hjitter', h.jitter], by rw [hlast, hlast', h.last]⟩

/-- **Alike buffers answer alike** in every run -/
theorem answers_alike (h : Alike b b') (ops : List JitterOp) : answers S b ops = answers S b' ops := by
  induction ops generalizing b b' with
  | nil => rfl
  | cons o ops ih =>
    cases o with
    | insert packet now => exact ih (h.insert S)
    | extract =>
      rw [answers, answers, h.toAgree.extract.1]
      exact congrArg _ (ih h.extract)

/-! ## The first packet -/

/-- an empty buffer before its first packet -/
structure Empty (config : JitterBufferConfig) (b : JitterBuffer) : Prop where
  same : b.config = config
  buffer : b.buffer = []
  delay : b.currentDelayMs = config.initialDelayMs
  initialized : b.jitterInitialized = false

theorem empty_new (config : JitterBufferConfig) : (new config).Empty config := ⟨rfl, rfl, rfl, rfl⟩

theorem empty_reset (b : JitterBuffer) : b.reset.Empty b.config := ⟨rfl, rfl, rfl, rfl⟩

variable {config : JitterBufferConfig}

/-- the delay after the first packet, if the estimate is not above the initial delay -/
def settledDelayMs (config : JitterBufferConfig) : UInt32 :=
  if config.minDelayMs < config.initialDelayMs ∧ 0 < config.initialDelayMs / 2 then
    max config.minDelayMs (config.initialDelayMs - 5)
  else config.initialDelayMs

/-- and if it is -/
def raisedDelayMs (config : JitterBufferConfig) : UInt32 := min config.maxDelayMs (config.initialDelayMs + 10)

def firstDelayMs (config : JitterBufferConfig) (jitterMs : UInt32) : UInt32 :=
  if jitterMs > config.initialDelayMs then raisedDelayMs config else settledDelayMs config

/-- one packet has no depth -/
theorem Empty.currentDelayMs_insert (h : b.Empty config) :
    (b.insert S packet now).currentDelayMs = firstDelayMs config b.currentJitterMs := by
  have hjitter : (b.calculateJitter packet now).currentJitterMs = b.currentJitterMs := by
    rw [calculateJitter, if_pos (by rw [h.initialized]; rfl)]
  have hdepth : (b.enqueued S packet now).getBufferDepthMs = 0 := by
    have hlen : (b.enqueued S packet now).buffer.length < 2 := by
      rw [buffer_enqueued, (S.perm _).length_eq, h.buffer]
      exact Nat.lt_succ_self 1
    unfold getBufferDepthMs
    split
    · exact if_pos hlen
    · rfl
  rw [(b.currentDelayMs_insert S packet now).2, hjitter, hdepth, h.same, h.delay]
  rfl

/-- an `Insert` that has room drops nothing -/
theorem buffer_insert_of_room (hroom : b.buffer.length < kMaxBufferSize) :
    (b.insert S packet now).buffer =
      (S.sort (b.buffer ++ [⟨packet, now, false⟩])).map (BufferItem.mark b.currentDelayMs now) := by
  have hnone : (b.fill S packet now).buffer.length - kMaxBufferSize = 0 := by
    rw [length_fill]
    omega
  rw [insert_eq, buffer_dropOverflow, hnone, List.drop_zero, buffer_fill]

/-- an `Insert` that has room leaves a packet to extract exactly when one has waited for the delay -/
theorem isSome_extract_insert (hroom : b.buffer.length < kMaxBufferSize) :
    (b.insert S packet now).extract.2.isSome ↔ ∃ i ∈ b.buffer ++ [⟨packet, now, false⟩],
      b.currentDelayMs ≤ toUInt32 (durationMs (now - i.arrivalTime)) := by
  have hready : (b.insert S packet now).extract.2.isSome ↔ ∃ i ∈ (b.insert S packet now).buffer, i.ready := by
    rcases (b.insert S packet now).extract_cases with ⟨he, hnone⟩ | ⟨pre, i, post, hb, -, hi, -, hout⟩
    · rw [he]
      refine iff_of_false Bool.false_ne_true ?_
      rintro ⟨i, hi, hr⟩
      exact hnone i hi hr
    · rw [hout]
      exact iff_of_true rfl ⟨i, by simp [hb], hi⟩
  rw [hready, buffer_insert_of_room S hroom]
  simp only [List.mem_map, StdSort.mem_sort, exists_exists_and_eq_and, BufferItem.mark, ge_iff_le, decide_eq_true_eq]

/-- two packets some milliseconds apart, and a call of `Extract` -/
def probe (waitMs : UInt32) : List JitterOp :=
  [.insert (.build 97 0 0 0 false []) 0, .insert (.build 97 1 0 0 false []) (waitMs.toNat * 1000000), .extract]

/-- the probe finds a packet exactly when the delay after the first one is not longer -/
theorem Empty.answers_probe (h : b.Empty config) (waitMs : UInt32) :
    ∃ answer, answers S b (probe waitMs) = [answer] ∧
      (answer.isSome ↔ firstDelayMs config b.currentJitterMs ≤ waitMs) := by
  set first := b.insert S (.build 97 0 0 0 false []) 0 with hfirst
  set item := BufferItem.mark b.currentDelayMs 0 ⟨.build 97 0 0 0 false [], 0, false⟩ with hitem
  have hone : first.buffer = [item] := by
    have hsort : S.sort [⟨.build 97 0 0 0 false [], 0, false⟩] = [⟨.build 97 0 0 0 false [], 0, false⟩] :=
      List.perm_singleton.1 (S.perm _)
    rw [hfirst, buffer_insert_of_room S (by rw [h.buffer]; decide), h.buffer, List.nil_append, hsort]
    rfl
  have hdelay : first.currentDelayMs = firstDelayMs config b.currentJitterMs := h.currentDelayMs_insert S
  have hwait : toUInt32 (durationMs (waitMs.toNat * 1000000 - 0)) = waitMs := by
    have hlt := waitMs.toNat_lt
    have hms : durationMs (waitMs.toNat * 1000000 - 0) = waitMs.toNat := by
      rw [sub_zero]
      exact Int.mul_tdiv_cancel _ (by decide)
    rw [hms, ← UInt32.toNat_inj]
    have hword := toNat_toUInt32 (waitMs.toNat : ℤ)
    omega
  refine ⟨_, rfl, ?_⟩
  have hroom : first.buffer.length < kMaxBufferSize := by
    rw [hone, List.length_singleton]
    decide
  rw [isSome_extract_insert S hroom, hone, ← hdelay]
  constructor
  · rintro ⟨i, hi, hdue⟩
    rcases List.mem_pair.1 hi with rfl | rfl
    · rwa [show item.arrivalTime = 0 from rfl, hwait] at hdue
    · rw [sub_self] at hdue
      exact UInt32.le_trans hdue UInt32.zero_le
  · intro hdue
    exact ⟨item, List.mem_cons_self, by rwa [show item.arrivalTime = 0 from rfl, hwait]⟩

theorem Empty.extract (h : b.Empty config) : b.extract = (b, none) := by
  rw [JitterBuffer.extract, h.buffer]
  rfl

/-- the first packet makes two empty buffers alike, if it gives them the same delay -/
theorem Empty.insert_alike (h : b.Empty config) (h' : b'.Empty config)
    (hdelay : firstDelayMs config b.currentJitterMs = firstDelayMs config b'.currentJitterMs) :
    Alike (b.insert S packet now) (b'.insert S packet now) := by
  have hagree : Agree b b' := ⟨h.same.trans h'.same.symm, h.buffer.trans h'.buffer.symm, h.delay.trans h'.delay.symm⟩
  obtain ⟨hinit, hjitter, hlast, -, hconfig⟩ := estimate_first S h.initialized packet now
  obtain ⟨hinit', hjitter', hlast', -, hconfig'⟩ := estimate_first S h'.initialized packet now
  refine ⟨⟨by rw [hconfig, hconfig', hagree.config], hagree.buffer_insert S, ?_⟩, hinit, hinit',
    hjitter.trans hjitter'.symm, hlast.trans hlast'.symm⟩
  rw [h.currentDelayMs_insert S, h'.currentDelayMs_insert S, hdelay]

/-- **Two empty buffers** answer alike in all runs exactly when the first packet gives them the same delay -/
theorem Empty.answers_iff (h : b.Empty config) (h' : b'.Empty config) :
    (∀ ops, answers S b ops = answers S b' ops) ↔
      firstDelayMs config b.currentJitterMs = firstDelayMs config b'.currentJitterMs := by
  constructor
  · intro hall
    -- a probe as long as either delay finds a packet on both sides
    have hsame : ∀ waitMs, firstDelayMs config b.currentJitterMs ≤ waitMs ↔
        firstDelayMs config b'.currentJitterMs ≤ waitMs := by
      intro waitMs
      obtain ⟨answer, heq, hiff⟩ := h.answers_probe S waitMs
      obtain ⟨answer', heq', hiff'⟩ := h'.answers_probe S waitMs
      have hanswer := hall (probe waitMs)
      rw [heq, heq', List.singleton_inj] at hanswer
      rw [← hiff, ← hiff', hanswer]
    exact UInt32.le_antisymm ((hsame _).2 (UInt32.le_refl _)) ((hsame _).1 (UInt32.le_refl _))
  · intro hdelay ops
    induction ops with
    | nil => rfl
    | cons o ops ih =>
      cases o with
      | insert packet now => exact answers_alike S (h.insert_alike S h' hdelay) ops
      | extract =>
        rw [answers, answers, h.extract, h'.extract]
        exact congrArg _ ih

/-! ## After a reset -/

theorem firstDelayMs_eq_iff (config : JitterBufferConfig) (jitterMs : UInt32) :
    firstDelayMs config jitterMs = firstDelayMs config 0 ↔
      jitterMs ≤ config.initialDelayMs ∨ raisedDelayMs config = settledDelayMs config := by
  have hzero : firstDelayMs config 0 = settledDelayMs config := if_neg (UInt32.not_lt.2 UInt32.zero_le)
  rw [hzero, firstDelayMs]
  split_ifs with hup
  · rw [or_iff_right (UInt32.not_le.2 hup)]
  · exact iff_of_true rfl (Or.inl (UInt32.not_lt.1 hup))

theorem config_step (s : Play) (o : JitterOp) : (s.step S o).jb.config = s.jb.config := by
  cases o with
  | insert packet now => exact (s.jb.currentDelayMs_insert S packet now).1
  | extract => exact s.jb.estimate_extract.2.2.2.2

/-- **Reset makes a buffer new**, for all that is extracted later, exactly when the estimate left over is not above the
initial delay, or raising and lowering the delay from there come to the same -/
theorem reset_iff (config : JitterBufferConfig) (history : List JitterOp) :
    let b := (exec (Play.step S) (Play.start config) history).jb
    (∀ ops, answers S b.reset ops = answers S (new config) ops) ↔
      b.currentJitterMs ≤ config.initialDelayMs ∨ raisedDelayMs config = settledDelayMs config := by
  intro b
  have hstep : ∀ (s : Play) o, s.jb.config = config → (s.step S o).jb.config = config :=
    fun s o h => (config_step S s o).trans h
  have hconfig : b.config = config := exec_preserves hstep (s := Play.start config) rfl history
  have hempty : b.reset.Empty config := hconfig ▸ empty_reset b
  rw [hempty.answers_iff S (empty_new config)]
  exact firstDelayMs_eq_iff config b.currentJitterMs

/-- an estimate of 10 is left from packets 160 milliseconds on the way, and grows far above the initial delay -/
def jittery : List JitterOp := [stamped 0 0, stamped 0 160, stamped 0 160]

/-- **A reset that is noticed**: two packets 60 milliseconds apart, and nothing to extract -/
theorem reset_noticed : ¬ ∀ (S : StdSort BufferItem.seq) (config : JitterBufferConfig) (history later : List JitterOp),
    answers S (exec (Play.step S) (Play.start config) history).jb.reset later = answers S (new config) later := by
  intro h
  have hsame := h (.insertion _) {} jittery (probe 60)
  revert hsame
  decide +kernel

end JitterBuffer

end Rtcom
