/-
The jitter estimate of `CalculateJitter` and its arithmetic. For each packet but the first after a start, the filter
moves the estimate by a sixteenth of the way to the packet's transit difference, in 32 unsigned bits.

- `smooth_between_iff`: one step lies between the estimate and the difference exactly when the difference is not the
  smaller one: below, the subtraction wraps. `jitter_between_iff`: the same along a run.
- `jitter_zero_iff`: packets of equal transit leave the estimate at 0 exactly when that transit is small, for the first
  difference is taken to 0.
- `overflow_free_iff`: in which runs the signed subtractions and the absolute value stay in range.
-/
import Mathlib.Tactic
import Rtcom.Rtp.JitterExtract

namespace Rtcom

open Runs

namespace JitterBuffer

variable (S : StdSort BufferItem.seq)

/-! ## One packet -/

/-- the arrival less the time stamp, both in milliseconds -/
def transit (config : JitterBufferConfig) (packet : RtpPacket) (arrival : ℤ) : Int32 :=
  Int32.ofInt (durationMs arrival) - Int32.ofNat (packet.timestamp.toNat * 1000 / config.sampleRate.toNat)

/-- the transit difference that `CalculateJitter` computes for a packet -/
def delta (b : JitterBuffer) (packet : RtpPacket) (arrival : ℤ) : Int32 :=
  (transit b.config packet arrival - b.lastTransit.toInt32).abs

/-- one step of the filter -/
def smooth (jitter delta : UInt32) : UInt32 := jitter + (delta - jitter) / 16

/-- only `CalculateJitter` touches the estimate -/
theorem estimate_insert (b : JitterBuffer) (packet : RtpPacket) (now : ℤ) :
    (b.insert S packet now).jitterInitialized = (b.calculateJitter packet now).jitterInitialized ∧
      (b.insert S packet now).transitJitter = (b.calculateJitter packet now).transitJitter ∧
      (b.insert S packet now).lastTransit = (b.calculateJitter packet now).lastTransit ∧
      (b.insert S packet now).currentJitterMs = (b.calculateJitter packet now).currentJitterMs ∧
      (b.insert S packet now).config = b.config := by
  simp only [insert_eq, fill_eq, dropOverflow, adaptDelay, markReady, enqueued, enqueue, trackSequence]
  split_ifs <;> simp

/-- the first packet starts the filter and leaves the published estimate -/
theorem estimate_first {b : JitterBuffer} (h : b.jitterInitialized = false) (packet : RtpPacket) (now : ℤ) :
    (b.insert S packet now).jitterInitialized = true ∧ (b.insert S packet now).transitJitter = 0 ∧
      (b.insert S packet now).lastTransit = 0 ∧ (b.insert S packet now).currentJitterMs = b.currentJitterMs ∧
      (b.insert S packet now).config = b.config := by
  obtain ⟨hinit, hjitter, hlast, hcurrent, hconfig⟩ := b.estimate_insert S packet now
  rw [hinit, hjitter, hlast, hcurrent, hconfig, calculateJitter, if_pos (by rw [h]; rfl)]
  exact ⟨rfl, rfl, rfl, rfl, rfl⟩

/-- every other one moves it -/
theorem estimate_next {b : JitterBuffer} (h : b.jitterInitialized = true) (packet : RtpPacket) (now : ℤ) :
    let next := smooth b.transitJitter (b.delta packet now).toUInt32
    (b.insert S packet now).jitterInitialized = true ∧ (b.insert S packet now).transitJitter = next ∧
      (b.insert S packet now).lastTransit = (transit b.config packet now).toUInt32 ∧
      (b.insert S packet now).currentJitterMs = next ∧ (b.insert S packet now).config = b.config := by
  intro next
  obtain ⟨hinit, hjitter, hlast, hcurrent, hconfig⟩ := b.estimate_insert S packet now
  rw [hinit, hjitter, hlast, hcurrent, hconfig, calculateJitter, if_neg (by rw [h]; decide)]
  exact ⟨h, rfl, rfl, rfl, rfl⟩

theorem estimate_extract (b : JitterBuffer) :
    b.extract.1.jitterInitialized = b.jitterInitialized ∧ b.extract.1.transitJitter = b.transitJitter ∧
      b.extract.1.lastTransit = b.lastTransit ∧ b.extract.1.currentJitterMs = b.currentJitterMs ∧
      b.extract.1.config = b.config := by
  unfold extract
  cases b.buffer.find? (·.ready) <;> simp

/-! ## The filter -/

theorem toNat_abs (d : Int32) : d.abs.toUInt32.toNat = d.toInt.natAbs := by
  show d.toBitVec.abs.toNat = d.toBitVec.toInt.natAbs
  have hlt := d.toBitVec.isLt
  rw [BitVec.toNat_abs, BitVec.toInt_eq_msb_cond]
  split_ifs <;> omega

/-- upwards the filter does not wrap -/
theorem smooth_of_le {j d : UInt32} (h : j ≤ d) : j ≤ smooth j d ∧ smooth j d ≤ d := by
  have hd := d.toNat_lt
  have hle : j.toNat ≤ d.toNat := UInt32.le_iff_toNat_le.1 h
  have hnext : (smooth j d).toNat = j.toNat + (d.toNat - j.toNat) / 16 := by
    rw [smooth, UInt32.toNat_add, UInt32.toNat_div, UInt32.toNat_sub_of_le d j h]
    exact Nat.mod_eq_of_lt (by simp only [UInt32.reduceToNat]; omega)
  rw [UInt32.le_iff_toNat_le, UInt32.le_iff_toNat_le, hnext]
  omega

/-- downwards it adds a sixteenth of the wrapped difference -/
theorem lt_smooth_of_lt {j d : UInt32} (h : d < j) (hj : j.toNat ≤ 2 ^ 31) : j < smooth j d := by
  have hlt : d.toNat < j.toNat := UInt32.lt_iff_toNat_lt.1 h
  have hsub : (d - j).toNat = 2 ^ 32 - j.toNat + d.toNat := by
    rw [UInt32.toNat_sub]
    exact Nat.mod_eq_of_lt (by omega)
  have hnext : (smooth j d).toNat = j.toNat + (2 ^ 32 - j.toNat + d.toNat) / 16 := by
    rw [smooth, UInt32.toNat_add, UInt32.toNat_div, hsub]
    exact Nat.mod_eq_of_lt (by simp only [UInt32.reduceToNat]; omega)
  rw [UInt32.lt_iff_toNat_lt, hnext]
  omega

/-- **One step of the filter** lies between the estimate and the difference exactly when it goes up -/
theorem smooth_between_iff {j d : UInt32} (hj : j.toNat ≤ 2 ^ 31) :
    min j d ≤ smooth j d ∧ smooth j d ≤ max j d ↔ j ≤ d := by
  constructor
  · intro h
    by_contra hlt
    have hdj : d < j := UInt32.not_le.1 hlt
    have hmax : max j d = j := if_neg hlt
    have hup := lt_smooth_of_lt hdj hj
    rw [hmax] at h
    exact UInt32.lt_irrefl _ (UInt32.lt_of_lt_of_le hup h.2)
  · intro hle
    obtain ⟨hlow, hhigh⟩ := smooth_of_le hle
    have hmin : min j d = j := if_pos hle
    have hmax : max j d = d := if_pos hle
    rw [hmin, hmax]
    exact ⟨hlow, hhigh⟩

theorem smooth_zero_iff (d : UInt32) : smooth 0 d = 0 ↔ d.toNat < 16 := by
  have hd := d.toNat_lt
  rw [smooth, ← UInt32.toNat_inj]
  simp only [UInt32.toNat_add, UInt32.toNat_div, UInt32.sub_zero, UInt32.reduceToNat]
  omega

end JitterBuffer

/-! ## The estimate in a run -/

/-- a buffer and the largest transit difference it has computed -/
structure Filtered where
  jb : JitterBuffer
  largestDelta : UInt32

namespace Filtered

open JitterBuffer

variable (S : StdSort BufferItem.seq)

def start (config : JitterBufferConfig) : Filtered := ⟨.new config, 0⟩

def step (s : Filtered) (c : JitterCall) : Filtered where
  jb := s.jb.call S c
  largestDelta := match c with
    | .insert packet now =>
      if s.jb.jitterInitialized then max s.largestDelta (s.jb.delta packet now).toUInt32 else s.largestDelta
    | _ => s.largestDelta

/-- the new estimate lies between the old one and the difference -/
def Between (s : Filtered) : JitterCall → Prop
  | .insert packet now => s.jb.jitterInitialized → 0 ≤ s.jb.delta packet now →
      let delta := (s.jb.delta packet now).toUInt32
      let next := (s.jb.insert S packet now).transitJitter
      min s.jb.transitJitter delta ≤ next ∧ next ≤ max s.jb.transitJitter delta
  | _ => True

/-- the difference is not below the estimate -/
def NotBelow (s : Filtered) : JitterCall → Prop
  | .insert packet now => s.jb.jitterInitialized → 0 ≤ s.jb.delta packet now →
      s.jb.transitJitter ≤ (s.jb.delta packet now).toUInt32
  | _ => True

/-- no difference so far is below the estimate -/
structure Bounded (s : Filtered) : Prop where
  le : s.jb.transitJitter ≤ s.largestDelta
  half : s.jb.transitJitter.toNat ≤ 2 ^ 31

theorem le_max_right (a b : UInt32) : b ≤ max a b := by
  have hmax : max a b = if a ≤ b then b else a := rfl
  rw [hmax]
  split_ifs with h
  · exact UInt32.le_refl b
  · exact UInt32.le_of_lt (UInt32.not_le.1 h)

/-- the absolute value of the least number is the only one that does not fit -/
theorem toNat_delta_le (b : JitterBuffer) (packet : RtpPacket) (now : ℤ) :
    (b.delta packet now).toUInt32.toNat ≤ 2 ^ 31 ∧
      (¬ 0 ≤ b.delta packet now → 2 ^ 31 ≤ (b.delta packet now).toUInt32.toNat) := by
  constructor
  · have hlow := (transit b.config packet now - b.lastTransit.toInt32).le_toInt
    have hhigh := (transit b.config packet now - b.lastTransit.toInt32).toInt_lt
    rw [delta, toNat_abs]
    omega
  · intro hneg
    have hint : (b.delta packet now).toInt < 0 := by
      rw [Int32.le_iff_toInt_le] at hneg
      simpa using hneg
    have hmsb := BitVec.toInt_neg_iff.1 (show (b.delta packet now).toBitVec.toInt < 0 from hint)
    have hnat : 2 ^ 32 ≤ 2 * (b.delta packet now).toUInt32.toNat := hmsb
    omega

theorem bounded_of_eq {s : Filtered} {jitter : UInt32} (hjitter : s.jb.transitJitter = jitter)
    (hle : jitter ≤ s.largestDelta) (hhalf : jitter.toNat ≤ 2 ^ 31) : s.Bounded :=
  ⟨hjitter ▸ hle, hjitter ▸ hhalf⟩

theorem step_bounded (s : Filtered) (c : JitterCall) (h : s.Bounded) (hc : s.NotBelow c) : (s.step S c).Bounded := by
  cases c with
  | insert packet now =>
    cases hinit : s.jb.jitterInitialized with
    | false =>
      obtain ⟨-, hzero, -⟩ := estimate_first S hinit packet now
      exact bounded_of_eq hzero UInt32.zero_le (Nat.zero_le _)
    | true =>
      obtain ⟨-, hnext, -⟩ := estimate_next S hinit packet now
      obtain ⟨hsmall, hnegative⟩ := toNat_delta_le s.jb packet now
      have hle : s.jb.transitJitter ≤ (s.jb.delta packet now).toUInt32 := by
        by_cases hpos : 0 ≤ s.jb.delta packet now
        · exact hc hinit hpos
        · exact UInt32.le_iff_toNat_le.2 (h.half.trans (hnegative hpos))
      have hdelta := (smooth_of_le hle).2
      have hlargest : (s.step S (.insert packet now)).largestDelta =
          max s.largestDelta (s.jb.delta packet now).toUInt32 := if_pos hinit
      refine bounded_of_eq hnext ?_ ((UInt32.le_iff_toNat_le.1 hdelta).trans hsmall)
      rw [hlargest]
      exact UInt32.le_trans hdelta (le_max_right _ _)
  | extract =>
    obtain ⟨-, hsame, -⟩ := s.jb.estimate_extract
    exact bounded_of_eq hsame h.le h.half
  | reset => exact ⟨h.le, h.half⟩

theorem between_iff {s : Filtered} (h : s.Bounded) (c : JitterCall) : s.Between S c ↔ s.NotBelow c := by
  cases c with
  | insert packet now =>
    refine imp_congr_right fun hinit => imp_congr_right fun _ => ?_
    obtain ⟨-, hnext, -⟩ := estimate_next S hinit packet now
    rw [hnext]
    exact smooth_between_iff h.half
  | _ => exact Iff.rfl

theorem start_bounded (config : JitterBufferConfig) : (start config).Bounded := ⟨UInt32.le_refl 0, Nat.zero_le _⟩

/-- **The estimate in a run** lies between the old estimate and the difference with every packet, and is never above the
largest difference seen, exactly when no difference is below the estimate it meets -/
theorem jitter_between_iff (config : JitterBufferConfig) (calls : List JitterCall) :
    (Along (step S) (Between S) (start config) calls ∧
        ∀ before after, calls = before ++ after →
          let s := exec (step S) (start config) before
          s.jb.transitJitter ≤ s.largestDelta) ↔
      Along (step S) NotBelow (start config) calls := by
  have hcongr : Along (step S) (Between S) (start config) calls ↔ Along (step S) NotBelow (start config) calls :=
    along_congr_inv (step_bounded S) (fun s c h => between_iff S h c) (start_bounded config) calls
  constructor
  · exact fun h => hcongr.1 h.1
  · intro h
    refine ⟨hcongr.2 h, ?_⟩
    rintro before after rfl
    have hbefore := ((along_append _ before after).1 h).1
    exact (exec_inv (step_bounded S) (start_bounded config) before hbefore).le

/-- a packet with time stamp 0 that arrives at a time in milliseconds -/
def arrival (ms : ℤ) : JitterCall := .insert (.build 97 0 0 0 false []) (ms * 1000000)

/-- **The estimate jumps up** when a difference is below it: from 10 to 268435465 -/
theorem jitter_jumps : ¬ ∀ (S : StdSort BufferItem.seq) (config : JitterBufferConfig) (calls : List JitterCall),
    Along (step S) (Between S) (start config) calls := by
  intro h
  obtain ⟨-, -, hthird, -⟩ := h (.insertion _) {} [arrival 0, arrival 160, arrival 160]
  have hbetween := hthird (by decide +kernel) (by decide +kernel)
  revert hbetween
  decide +kernel

end Filtered

/-! ## Packets of equal transit -/

namespace JitterBuffer

variable (S : StdSort BufferItem.seq)

/-- a packet inserted has this transit, modulo 2^32 -/
def HasTransit (config : JitterBufferConfig) (t : Int32) : JitterOp → Prop
  | .insert packet now => transit config packet now = t
  | .extract => True

instance (config : JitterBufferConfig) (t : Int32) : (o : JitterOp) → Decidable (HasTransit config t o)
  | .insert packet now => inferInstanceAs (Decidable (transit config packet now = t))
  | .extract => isTrue trivial

/-- so do all packets of a run -/
def SameTransit (config : JitterBufferConfig) (t : Int32) (ops : List JitterOp) : Prop :=
  ∀ o ∈ ops, HasTransit config t o

instance (config : JitterBufferConfig) (t : Int32) (ops : List JitterOp) : Decidable (SameTransit config t ops) :=
  List.decidableBAll (HasTransit config t) ops

def inserts (ops : List JitterOp) : ℕ := ops.countP fun o => match o with
  | .insert _ _ => true
  | .extract => false

/-- before the first packet -/
structure Unseeded (config : JitterBufferConfig) (b : JitterBuffer) : Prop where
  config : b.config = config
  initialized : b.jitterInitialized = false
  current : b.currentJitterMs = 0

/-- the estimate is 0, and the next difference is taken to a given transit -/
structure Silent (config : JitterBufferConfig) (last : UInt32) (b : JitterBuffer) : Prop where
  config : b.config = config
  initialized : b.jitterInitialized = true
  jitter : b.transitJitter = 0
  last : b.lastTransit = last
  current : b.currentJitterMs = 0

variable {config : JitterBufferConfig} {t : Int32} {b : JitterBuffer} {packet : RtpPacket} {now : ℤ}

theorem Unseeded.insert (h : b.Unseeded config) : (b.insert S packet now).Silent config 0 := by
  obtain ⟨hinit, hjitter, hlast, hcurrent, hconfig⟩ := estimate_first S h.initialized packet now
  exact ⟨hconfig.trans h.config, hinit, hjitter, hlast, hcurrent.trans h.current⟩

theorem Unseeded.extract (h : b.Unseeded config) : b.extract.1.Unseeded config := by
  obtain ⟨hinit, -, -, hcurrent, hconfig⟩ := b.estimate_extract
  exact ⟨hconfig.trans h.config, hinit.trans h.initialized, hcurrent.trans h.current⟩

theorem Silent.extract {last : UInt32} (h : b.Silent config last) : b.extract.1.Silent config last := by
  obtain ⟨hinit, hjitter, hlast, hcurrent, hconfig⟩ := b.estimate_extract
  exact ⟨hconfig.trans h.config, hinit.trans h.initialized, hjitter.trans h.jitter, hlast.trans h.last,
    hcurrent.trans h.current⟩

/-- what the next packet makes of the estimate -/
theorem Silent.current_insert {last : UInt32} (h : b.Silent config last) (ht : transit config packet now = t) :
    (b.insert S packet now).currentJitterMs = 0 ↔ (t - last.toInt32).toInt.natAbs < 16 := by
  obtain ⟨-, -, -, hcurrent, -⟩ := estimate_next S h.initialized packet now
  rw [hcurrent, h.jitter, smooth_zero_iff, delta, toNat_abs, h.config, h.last, ht]

theorem Silent.insert {last : UInt32} (h : b.Silent config last) (ht : transit config packet now = t)
    (hsmall : (t - last.toInt32).toInt.natAbs < 16) : (b.insert S packet now).Silent config t.toUInt32 := by
  obtain ⟨hinit, hjitter, hlast, hcurrent, hconfig⟩ := estimate_next S h.initialized packet now
  have hzero := (h.current_insert S ht).2 hsmall
  refine ⟨hconfig.trans h.config, hinit, ?_, ?_, hzero⟩
  · rw [hjitter, ← hcurrent, hzero]
  · rw [hlast, h.config, ht]

/-- from the second packet on there is no difference -/
theorem Silent.run {s : Play} {ops : List JitterOp} (h : s.jb.Silent config t.toUInt32)
    (hsame : SameTransit config t ops) {before after : List JitterOp} (hsplit : ops = before ++ after) :
    (exec (Play.step S) s before).jb.currentJitterMs = 0 := by
  have hstep : ∀ (s : Play) (o : JitterOp), s.jb.Silent config t.toUInt32 → HasTransit config t o →
      (s.step S o).jb.Silent config t.toUInt32 := by
    intro s o h ho
    cases o with
    | insert packet now =>
      refine h.insert S ho ?_
      rw [Int32.toInt32_toUInt32, Int32.sub_self]
      decide
    | extract => exact h.extract
  have halong : Along (Play.step S) (fun _ o => HasTransit config t o) s before := by
    rw [along_iff]
    rintro first o rest rfl
    exact hsame o (by rw [hsplit]; simp)
  exact (exec_inv hstep h before halong).current

/-- after the first packet -/
theorem Silent.zero_iff {s : Play} {ops : List JitterOp} (h : s.jb.Silent config 0) (hsame : SameTransit config t ops) :
    (∀ before after, ops = before ++ after → (exec (Play.step S) s before).jb.currentJitterMs = 0) ↔
      inserts ops = 0 ∨ t.toInt.natAbs < 16 := by
  induction ops generalizing s with
  | nil =>
    rw [forall_exec_nil (P := fun s : Play => s.jb.currentJitterMs = 0)]
    exact iff_of_true h.current (Or.inl rfl)
  | cons o ops ih =>
    have hrest : SameTransit config t ops := fun o hmem => hsame o (List.mem_cons_of_mem _ hmem)
    rw [forall_exec_cons (P := fun s : Play => s.jb.currentJitterMs = 0), and_iff_right h.current]
    cases o with
    | insert packet now =>
      have ht : transit config packet now = t := hsame _ List.mem_cons_self
      have hsub : t - (0 : UInt32).toInt32 = t := Int32.sub_zero t
      have hsecond := h.current_insert S ht
      rw [hsub] at hsecond
      have hcount : inserts (.insert packet now :: ops) ≠ 0 := by simp [inserts]
      rw [or_iff_right hcount, ← hsecond]
      constructor
      · exact fun hall => hall [] ops rfl
      · intro hzero before after hsplit
        have hnext := h.insert S ht ((h.current_insert S ht).1 hzero)
        exact Silent.run S (s := s.step S (.insert packet now)) hnext hrest hsplit
    | extract => exact ih h.extract hrest

/-- **Packets of equal transit**: the estimate stays 0 in their run exactly when there is at most one of them or their
transit is less than 16 milliseconds either way -/
theorem jitter_zero_iff (config : JitterBufferConfig) (t : Int32) (ops : List JitterOp)
    (hsame : SameTransit config t ops) :
    (∀ before after, ops = before ++ after →
        (exec (Play.step S) (Play.start config) before).jb.currentJitterMs = 0) ↔
      inserts ops ≤ 1 ∨ t.toInt.natAbs < 16 := by
  suffices hall : ∀ s : Play, s.jb.Unseeded config →
      ((∀ before after, ops = before ++ after → (exec (Play.step S) s before).jb.currentJitterMs = 0) ↔
        inserts ops ≤ 1 ∨ t.toInt.natAbs < 16) from hall _ ⟨rfl, rfl, rfl⟩
  induction ops with
  | nil =>
    intro s h
    rw [forall_exec_nil (P := fun s : Play => s.jb.currentJitterMs = 0)]
    exact iff_of_true h.current (Or.inl (Nat.zero_le _))
  | cons o ops ih =>
    intro s h
    have hrest : SameTransit config t ops := fun o hmem => hsame o (List.mem_cons_of_mem _ hmem)
    rw [forall_exec_cons (P := fun s : Play => s.jb.currentJitterMs = 0), and_iff_right h.current]
    cases o with
    | insert packet now =>
      have hcount : inserts (.insert packet now :: ops) ≤ 1 ↔ inserts ops = 0 := by simp [inserts]
      rw [hcount]
      exact Silent.zero_iff S (s := s.step S (.insert packet now)) (h.insert S) hrest
    | extract => exact ih hrest (s.step S .extract) h.extract

/-- a packet with a time stamp that arrives at a time in milliseconds -/
def stamped (timestamp : UInt32) (ms : ℤ) : JitterOp := .insert (.build 97 0 timestamp 0 false []) (ms * 1000000)

/-- two packets, each 5 milliseconds on the way -/
theorem jitter_zero_iff_two :
    (∀ before after, [stamped 0 5, stamped 160 25] = before ++ after →
        (exec (Play.step (.insertion _)) (Play.start {}) before).jb.currentJitterMs = 0) ↔
      inserts [stamped 0 5, stamped 160 25] ≤ 1 ∨ (5 : Int32).toInt.natAbs < 16 :=
  jitter_zero_iff (.insertion _) {} 5 _ (by decide +kernel)

/-- **A steady stream has jitter**: with a transit of 160 milliseconds the second packet sets the estimate to 10 -/
theorem steady_stream_jitters : ¬ ∀ (S : StdSort BufferItem.seq) (config : JitterBufferConfig) (t : Int32)
    (ops : List JitterOp), 1000 ≤ config.sampleRate → SameTransit config t ops →
    ∀ before after, ops = before ++ after →
      (exec (Play.step S) (Play.start config) before).jb.currentJitterMs = 0 := by
  intro h
  have hzero := h (.insertion _) {} 160 [stamped 0 160, stamped 160 180] (by decide) (by decide +kernel)
    [stamped 0 160, stamped 160 180] [] rfl
  revert hzero
  decide +kernel

/-! ## Signed overflow -/

def FitsInt32 (z : ℤ) : Prop := -2 ^ 31 ≤ z ∧ z < 2 ^ 31

instance (z : ℤ) : Decidable (FitsInt32 z) := inferInstanceAs (Decidable (_ ∧ _))

/-- the two subtractions and the absolute value of `CalculateJitter`, done with integers, fit `int32_t` -/
def NoOverflow (b : JitterBuffer) : JitterCall → Prop
  | .insert packet now => b.jitterInitialized →
      let arrivalMs := (Int32.ofInt (durationMs now)).toInt
      let timestampMs := (Int32.ofNat (packet.timestamp.toNat * 1000 / b.config.sampleRate.toNat)).toInt
      let difference := arrivalMs - timestampMs - b.lastTransit.toInt32.toInt
      FitsInt32 (arrivalMs - timestampMs) ∧ FitsInt32 difference ∧ FitsInt32 |difference|
  | _ => True

/-- two words, read as signed numbers, can be subtracted: they are in the same half of the words, or so far apart in
different ones that the difference wraps once -/
def Subtractable (x y : ℕ) : Prop := (x < 2 ^ 31 ↔ y < 2 ^ 31) ∨ y + 2 ^ 31 ≤ x ∨ x + 2 ^ 31 < y

/-- the packet's arrival and time stamp can be subtracted, and so can its transit and the last one, with a difference
that has an absolute value -/
def WellTimed (b : JitterBuffer) : JitterCall → Prop
  | .insert packet now => b.jitterInitialized →
      let arrivalWord := (toUInt32 (durationMs now)).toNat
      let timestampWord := (UInt32.ofNat (packet.timestamp.toNat * 1000 / b.config.sampleRate.toNat)).toNat
      let transitWord := (arrivalWord + 2 ^ 32 - timestampWord) % 2 ^ 32
      Subtractable arrivalWord timestampWord ∧ Subtractable transitWord b.lastTransit.toNat ∧
        transitWord ≠ b.lastTransit.toNat + 2 ^ 31
  | _ => True

/-- a signed number by its word -/
theorem toInt_eq_word (d : Int32) :
    d.toInt = if d.toUInt32.toNat < 2 ^ 31 then (d.toUInt32.toNat : ℤ) else d.toUInt32.toNat - 2 ^ 32 := by
  have hcond : d.toBitVec.toInt = _ := BitVec.toInt_eq_toNat_cond d.toBitVec
  show d.toBitVec.toInt = if d.toBitVec.toNat < 2 ^ 31 then (d.toBitVec.toNat : ℤ) else d.toBitVec.toNat - 2 ^ 32
  rw [hcond]
  split_ifs <;> omega

theorem subtractable_iff (x y : Int32) :
    FitsInt32 (x.toInt - y.toInt) ↔ Subtractable x.toUInt32.toNat y.toUInt32.toNat := by
  have hx := x.toUInt32.toNat_lt
  have hy := y.toUInt32.toNat_lt
  rw [toInt_eq_word, toInt_eq_word, FitsInt32, Subtractable]
  split_ifs <;> omega

/-- the least number has no absolute value -/
theorem fitsInt32_abs_iff {z : ℤ} (h : FitsInt32 z) : FitsInt32 |z| ↔ z ≠ -2 ^ 31 := by
  obtain ⟨hlow, hhigh⟩ := h
  rw [FitsInt32, abs_lt]
  constructor
  · intro hfits
    omega
  · intro hne
    have hnonneg := abs_nonneg z
    exact ⟨by omega, by omega, hhigh⟩

theorem sub_ne_iff {x y : Int32} (h : FitsInt32 (x.toInt - y.toInt)) :
    x.toInt - y.toInt ≠ -2 ^ 31 ↔ x.toUInt32.toNat ≠ y.toUInt32.toNat + 2 ^ 31 := by
  have hx := x.toUInt32.toNat_lt
  have hy := y.toUInt32.toNat_lt
  obtain ⟨hlow, hhigh⟩ := h
  rw [toInt_eq_word, toInt_eq_word] at hlow hhigh ⊢
  split_ifs at hlow hhigh ⊢ <;> omega

/-- where the first subtraction fits, its result is the transit -/
theorem toInt_sub_of_fits {x y : Int32} (h : FitsInt32 (x.toInt - y.toInt)) : (x - y).toInt = x.toInt - y.toInt := by
  have hsub : x - y = Int32.ofInt (x.toInt - y.toInt) := by
    rw [Int32.ofInt_sub, Int32.ofInt_toInt, Int32.ofInt_toInt]
  rw [hsub, Int32.toInt_ofInt_of_le h.1 h.2]

theorem noOverflow_iff (b : JitterBuffer) (c : JitterCall) : b.NoOverflow c ↔ b.WellTimed c := by
  cases c with
  | insert packet now =>
    refine imp_congr_right fun _ => ?_
    set arrivalMs := Int32.ofInt (durationMs now) with harrival
    set timestampMs := Int32.ofNat (packet.timestamp.toNat * 1000 / b.config.sampleRate.toNat) with htimestamp
    have harrivalWord : arrivalMs.toUInt32 = toUInt32 (durationMs now) := rfl
    have htimestampWord : timestampMs.toUInt32 =
        UInt32.ofNat (packet.timestamp.toNat * 1000 / b.config.sampleRate.toNat) := rfl
    have htransit : (arrivalMs - timestampMs).toUInt32.toNat =
        (arrivalMs.toUInt32.toNat + 2 ^ 32 - timestampMs.toUInt32.toNat) % 2 ^ 32 := by
      have hlt := timestampMs.toUInt32.toNat_lt
      rw [Int32.toUInt32_sub, UInt32.toNat_sub]
      congr 1
      omega
    simp only [← harrivalWord, ← htimestampWord, ← htransit]
    rw [← subtractable_iff]
    refine and_congr_right fun hfits => ?_
    rw [← toInt_sub_of_fits hfits, subtractable_iff]
    refine and_congr_right fun hdifference => ?_
    have hfits' := (subtractable_iff _ _).2 hdifference
    exact (fitsInt32_abs_iff hfits').trans (sub_ne_iff hfits')
  | _ => exact Iff.rfl

/-- **Which runs compute without overflow**: those in which every packet but the first after a start is well timed -/
theorem overflow_free_iff (config : JitterBufferConfig) (calls : List JitterCall) :
    Along (call S) NoOverflow (new config) calls ↔ Along (call S) WellTimed (new config) calls :=
  along_congr_inv (I := fun _ => True) (fun _ _ _ _ => trivial) (fun b c _ => b.noOverflow_iff c) trivial calls

/-- two packets one millisecond apart by their time stamps, the second after 2^31 milliseconds of uptime -/
def longUptime : List JitterCall :=
  [.insert (.build 97 0 0 0 false []) 0, .insert (.build 97 1 8 0 false []) (2 ^ 31 * 1000000)]

/-- **Overflow after 25 days**: the arrival is -2^31, and the time stamp is subtracted from it -/
theorem transit_overflows : ¬ ∀ (S : StdSort BufferItem.seq) (config : JitterBufferConfig) (calls : List JitterCall),
    1 ≤ config.sampleRate →
    (∀ packet now, .insert packet now ∈ calls → 0 ≤ now ∧ durationMs now ≤ 2 ^ 62) →
    Along (call S) NoOverflow (new config) calls := by
  intro h
  have hclock : ∀ packet now, .insert packet now ∈ longUptime → 0 ≤ now ∧ durationMs now ≤ 2 ^ 62 := by
    intro packet now hmem
    rcases List.mem_pair.1 hmem with heq | heq
    · cases heq
      decide
    · cases heq
      decide
  obtain ⟨-, hsecond, -⟩ := h (.insertion _) {} longUptime (by decide) hclock
  obtain ⟨hfits, -⟩ := hsecond (by decide +kernel)
  revert hfits
  decide +kernel

end JitterBuffer

end Rtcom
