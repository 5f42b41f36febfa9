/-
The adaptive delay of the jitter buffer and its bounds. `Insert` raises the delay by ten milliseconds or lowers it by
five, in 32 unsigned bits, and clamps it afterwards. Raised, it cannot wrap as long as the upper bound is at most 2^31.
Lowered from 1 to 4 it wraps, and the clamp to the lower bound lets the result through.

- `inBounds_insert_iff`: one `Insert` keeps the delay within its bounds exactly when it does not lower it from there.
- `delay_bounds_iff`: a run keeps it there exactly when none of its steps does.
- `delay_bounds_of_four_le`: no step does with a lower bound of at least 4, such as the default.

The depth that steers it is the time from the arrival of the front packet to that of the back one, as an unsigned
number. `depth_in_span_iff`: it is no more than the time the arrivals span exactly when the front packet did not arrive
after the back one.
-/
import Mathlib.Tactic
import Rtcom.Rtp.JitterExtract

namespace Rtcom

open Runs

/-- the bounds the constructor is given make sense, and leave room for a step up -/
structure JitterBufferConfig.Sound (config : JitterBufferConfig) : Prop where
  min_le : config.minDelayMs ≤ config.initialDelayMs
  le_max : config.initialDelayMs ≤ config.maxDelayMs
  max_le : config.maxDelayMs.toNat ≤ 2 ^ 31

instance (config : JitterBufferConfig) : Decidable config.Sound :=
  decidable_of_iff (config.minDelayMs ≤ config.initialDelayMs ∧ config.initialDelayMs ≤ config.maxDelayMs ∧
      config.maxDelayMs.toNat ≤ 2 ^ 31)
    ⟨fun h => ⟨h.1, h.2.1, h.2.2⟩, fun h => ⟨h.min_le, h.le_max, h.max_le⟩⟩

namespace JitterBuffer

variable (S : StdSort BufferItem.seq)

/-- the delay is within the bounds of the configuration -/
def InBounds (b : JitterBuffer) : Prop :=
  b.config.minDelayMs ≤ b.currentDelayMs ∧ b.currentDelayMs ≤ b.config.maxDelayMs

instance (b : JitterBuffer) : Decidable b.InBounds := inferInstanceAs (Decidable (_ ∧ _))

/-- `Insert` takes the branch that lowers the delay: the jitter is not above it, it is above its minimum, and the buffer
with the new packet spans less than half of it -/
def Lowers (b : JitterBuffer) (packet : RtpPacket) (now : ℤ) : Prop :=
  (b.calculateJitter packet now).currentJitterMs ≤ b.currentDelayMs ∧ b.config.minDelayMs < b.currentDelayMs ∧
    (b.enqueued S packet now).getBufferDepthMs < b.currentDelayMs / 2

instance (b : JitterBuffer) (packet : RtpPacket) (now : ℤ) : Decidable (b.Lowers S packet now) :=
  inferInstanceAs (Decidable (_ ∧ _ ∧ _))

/-- the call lowers a delay of less than five milliseconds -/
def Underflows (b : JitterBuffer) : JitterCall → Prop
  | .insert packet now => b.Lowers S packet now ∧ b.currentDelayMs < 5
  | _ => False

instance (b : JitterBuffer) : (c : JitterCall) → Decidable (b.Underflows S c)
  | .insert packet now => inferInstanceAs (Decidable (b.Lowers S packet now ∧ b.currentDelayMs < 5))
  | .extract => isFalse id
  | .reset => isFalse id

/-! ## One step up or down -/

theorem raise_inBounds {lo hi d : UInt32} (hlo : lo ≤ d) (hhi : d ≤ hi) (hmax : hi.toNat ≤ 2 ^ 31) :
    lo ≤ min hi (d + 10) ∧ min hi (d + 10) ≤ hi := by
  have hmin : min hi (d + 10) = if hi ≤ d + 10 then hi else d + 10 := rfl
  rw [hmin]
  split_ifs with hcap
  · exact ⟨UInt32.le_trans hlo hhi, UInt32.le_refl hi⟩
  · simp only [UInt32.le_iff_toNat_le, UInt32.toNat_add, UInt32.reduceToNat] at *
    omega

/-- below five the difference wraps to the upper half -/
theorem lower_inBounds_iff {lo hi d : UInt32} (hlo : lo < d) (hhi : d ≤ hi) (hmax : hi.toNat ≤ 2 ^ 31) :
    lo ≤ max lo (d - 5) ∧ max lo (d - 5) ≤ hi ↔ ¬ d < 5 := by
  have hmaxEq : max lo (d - 5) = if lo ≤ d - 5 then d - 5 else lo := rfl
  have hd := d.toNat_lt
  rw [hmaxEq]
  split_ifs with hfloor
  · simp only [UInt32.le_iff_toNat_le, UInt32.lt_iff_toNat_lt, UInt32.toNat_sub, UInt32.reduceToNat] at *
    omega
  · simp only [UInt32.le_iff_toNat_le, UInt32.lt_iff_toNat_lt, UInt32.toNat_sub, UInt32.reduceToNat] at *
    omega

/-! ## One call -/

theorem adaptDelay_cases (b : JitterBuffer) (bufferDepth : UInt32) :
    (b.adaptDelay bufferDepth).config = b.config ∧
      (b.adaptDelay bufferDepth).currentDelayMs =
        if b.currentJitterMs > b.currentDelayMs then min b.config.maxDelayMs (b.currentDelayMs + 10)
        else if b.currentDelayMs > b.config.minDelayMs ∧ bufferDepth < b.currentDelayMs / 2 then
          max b.config.minDelayMs (b.currentDelayMs - 5)
        else b.currentDelayMs := by
  unfold adaptDelay
  split_ifs <;> exact ⟨rfl, rfl⟩

theorem currentJitterMs_enqueued (b : JitterBuffer) (packet : RtpPacket) (now : ℤ) :
    (b.enqueued S packet now).currentJitterMs = (b.calculateJitter packet now).currentJitterMs := by
  simp only [enqueued, enqueue, trackSequence]
  split_ifs <;> rfl

/-- what `Insert` makes of the delay -/
theorem currentDelayMs_insert (b : JitterBuffer) (packet : RtpPacket) (now : ℤ) :
    (b.insert S packet now).config = b.config ∧
      (b.insert S packet now).currentDelayMs =
        if (b.calculateJitter packet now).currentJitterMs > b.currentDelayMs then
          min b.config.maxDelayMs (b.currentDelayMs + 10)
        else if b.config.minDelayMs < b.currentDelayMs ∧
            (b.enqueued S packet now).getBufferDepthMs < b.currentDelayMs / 2 then
          max b.config.minDelayMs (b.currentDelayMs - 5)
        else b.currentDelayMs := by
  obtain ⟨hconfig, hdelay⟩ :=
    ((b.enqueued S packet now).markReady now).adaptDelay_cases (b.enqueued S packet now).getBufferDepthMs
  have hjitter := b.currentJitterMs_enqueued S packet now
  have hcur := b.currentDelayMs_enqueued S packet now
  have hcfg := b.config_enqueued S packet now
  rw [insert_eq, fill_eq, config_dropOverflow, currentDelayMs_dropOverflow, hconfig, hdelay]
  simp only [markReady, hjitter, hcur, hcfg, gt_iff_lt, and_self]

/-- **One `Insert`** leaves the delay within its bounds exactly when it does not lower it from below five -/
theorem inBounds_insert_iff {b : JitterBuffer} (h : b.InBounds) (hmax : b.config.maxDelayMs.toNat ≤ 2 ^ 31)
    (packet : RtpPacket) (now : ℤ) :
    (b.insert S packet now).InBounds ↔ ¬ (b.Lowers S packet now ∧ b.currentDelayMs < 5) := by
  obtain ⟨hconfig, hdelay⟩ := b.currentDelayMs_insert S packet now
  obtain ⟨hlo, hhi⟩ := h
  rw [InBounds, hconfig, hdelay, Lowers]
  split_ifs with hraise hlower
  · have hnot : ¬ (b.calculateJitter packet now).currentJitterMs ≤ b.currentDelayMs := UInt32.not_le.2 hraise
    simp only [raise_inBounds hlo hhi hmax, hnot, false_and, not_false_eq_true, and_self]
  · have hle := UInt32.not_lt.1 hraise
    rw [lower_inBounds_iff hlower.1 hhi hmax]
    simp only [hle, hlower, true_and]
  · simp only [hlo, hhi, hlower, and_false, false_and, not_false_eq_true, and_self]

theorem config_call (b : JitterBuffer) (c : JitterCall) : (b.call S c).config = b.config := by
  cases c with
  | insert packet now => exact (b.currentDelayMs_insert S packet now).1
  | extract =>
    rw [call, extract]
    cases b.buffer.find? (·.ready) <;> rfl
  | reset => rfl

theorem inBounds_call_iff {b : JitterBuffer} (hsound : b.config.Sound) (h : b.InBounds) (c : JitterCall) :
    (b.call S c).InBounds ↔ ¬ b.Underflows S c := by
  cases c with
  | insert packet now => exact inBounds_insert_iff S h hsound.max_le packet now
  | extract =>
    have hsame : (b.call S .extract).InBounds ↔ b.InBounds := by
      rw [call, extract]
      cases b.buffer.find? (·.ready) <;> exact Iff.rfl
    rw [hsame]
    exact iff_of_true h id
  | reset => exact iff_of_true ⟨hsound.min_le, hsound.le_max⟩ id

/-! ## Runs -/

theorem inBounds_new {config : JitterBufferConfig} (hsound : config.Sound) : (new config).InBounds :=
  ⟨hsound.min_le, hsound.le_max⟩

/-- **The delay of a run**: it is within its bounds after every call exactly when no `Insert` lowers it from below
five -/
theorem delay_bounds_iff (config : JitterBufferConfig) (hsound : config.Sound) (calls : List JitterCall) :
    (∀ before after, calls = before ++ after → (exec (call S) (new config) before).InBounds) ↔
      Along (call S) (fun b c => ¬ b.Underflows S c) (new config) calls := by
  apply always_iff (I := fun b => b.config = config)
  · intro b c hb
    rw [config_call, hb]
  · intro b c hb hgood
    exact inBounds_call_iff S (hb ▸ hsound) hgood c
  · rfl
  · exact inBounds_new hsound

/-- a buffer without a delay of less than five: the default bounds -/
theorem delay_bounds_iff_default :
    (∀ before after, [JitterCall.insert (.build 97 5 0 0 false []) 0, .extract] = before ++ after →
      (exec (call (.insertion _)) (new {}) before).InBounds) ↔
    Along (call (.insertion _)) (fun b c => ¬ b.Underflows (.insertion _) c) (new {})
      [.insert (.build 97 5 0 0 false []) 0, .extract] :=
  delay_bounds_iff (.insertion _) {} (by decide) _

/-- with a lower bound of at least four, the delay never leaves its bounds -/
theorem delay_bounds_of_four_le {config : JitterBufferConfig} (hsound : config.Sound) (hfour : 4 ≤ config.minDelayMs)
    (calls : List JitterCall) : (exec (call S) (new config) calls).InBounds := by
  have hstep : ∀ (b : JitterBuffer) c, b.config = config ∧ b.InBounds →
      (b.call S c).config = config ∧ (b.call S c).InBounds := by
    intro b c h
    obtain ⟨hconfig, hgood⟩ := h
    refine ⟨(b.config_call S c).trans hconfig, (inBounds_call_iff S (hconfig ▸ hsound) hgood c).2 ?_⟩
    cases c with
    | insert packet now =>
      intro hunder
      obtain ⟨⟨-, hmin, -⟩, hfive⟩ := hunder
      rw [hconfig] at hmin
      simp only [UInt32.le_iff_toNat_le, UInt32.lt_iff_toNat_lt, UInt32.reduceToNat] at hfour hmin hfive
      omega
    | extract => exact id
    | reset => exact id
  exact (exec_preserves hstep ⟨rfl, inBounds_new hsound⟩ calls).2

/-- **The delay wraps below its minimum**: from 3 it goes to 4294967294 with the first packet -/
theorem delay_wraps : ¬ ∀ (S : StdSort BufferItem.seq) (config : JitterBufferConfig) (calls : List JitterCall),
    config.Sound →
    ∀ before after, calls = before ++ after → (exec (call S) (new config) before).InBounds := by
  intro h
  have hout := h (.insertion _) { minDelayMs := 0, initialDelayMs := 3 } [.insert (.build 97 5 0 0 false []) 0]
    (by decide) [.insert (.build 97 5 0 0 false []) 0] [] rfl
  revert hout
  decide +kernel

/-! ## The depth -/

def arrivals (b : JitterBuffer) : List ℤ := b.buffer.map BufferItem.arrivalTime

/-- the milliseconds between the earliest and the latest arrival in the buffer -/
def spanMs (b : JitterBuffer) : ℤ := durationMs (b.arrivals.max?.getD 0 - b.arrivals.min?.getD 0)

def DepthInSpan (b : JitterBuffer) : Prop := (b.getBufferDepthMs.toNat : ℤ) ≤ b.spanMs

instance (b : JitterBuffer) : Decidable b.DepthInSpan := inferInstanceAs (Decidable (_ ≤ _))

/-- the packet at the front, the one with the least number, arrived less than a millisecond after the one at the back;
or as many milliseconds after it as bring the wrapped difference back into the span, which takes seven weeks -/
def FrontFirst (b : JitterBuffer) : Prop := ∀ front ∈ b.buffer.head?, ∀ back ∈ b.buffer.getLast?,
  let late := durationMs (front.arrivalTime - back.arrivalTime)
  late ≤ 0 ∨ 2 ^ 32 ∣ late ∨ 2 ^ 32 ≤ b.spanMs + late % 2 ^ 32

theorem durationMs_mono {a b : ℤ} (h : a ≤ b) : durationMs a ≤ durationMs b :=
  Int.tdiv_le_tdiv (by decide) h

theorem durationMs_neg (a : ℤ) : durationMs (-a) = -durationMs a := Int.neg_tdiv a _

theorem toNat_toUInt32 (z : ℤ) : ((toUInt32 z).toNat : ℤ) = z % 2 ^ 32 := by
  show ((BitVec.ofInt 32 z).toNat : ℤ) = z % 2 ^ 32
  rw [BitVec.toNat_ofInt, Int.toNat_of_nonneg (Int.emod_nonneg _ (by decide))]
  rfl

/-- no two arrivals are further apart than the span -/
theorem durationMs_le_spanMs {b : JitterBuffer} {i j : BufferItem} (hi : i ∈ b.buffer) (hj : j ∈ b.buffer) :
    durationMs (j.arrivalTime - i.arrivalTime) ≤ b.spanMs := by
  have hmem : ∀ k ∈ b.buffer, k.arrivalTime ∈ b.arrivals := fun k hk => List.mem_map_of_mem hk
  obtain ⟨first, hfirst⟩ := Option.isSome_iff_exists.1 (List.isSome_min?_of_mem (hmem i hi))
  obtain ⟨last, hlast⟩ := Option.isSome_iff_exists.1 (List.isSome_max?_of_mem (hmem j hj))
  have hle := (List.min?_eq_some_iff.1 hfirst).2 _ (hmem i hi)
  have hge := (List.max?_eq_some_iff.1 hlast).2 _ (hmem j hj)
  rw [spanMs, hfirst, hlast]
  exact durationMs_mono (by simp only [Option.getD_some]; omega)

/-- a difference that is not negative is not enlarged by the wrap, a negative one becomes its complement -/
theorem wrapped_le_iff {late span : ℤ} (hspan : -late ≤ span) (h0 : 0 ≤ span) :
    -late % 2 ^ 32 ≤ span ↔ late ≤ 0 ∨ 2 ^ 32 ∣ late ∨ 2 ^ 32 ≤ span + late % 2 ^ 32 := by
  omega

/-- **The depth and the span**: the depth is within the span exactly when the front packet did not arrive late -/
theorem depthInSpan_iff (b : JitterBuffer) : b.DepthInSpan ↔ b.FrontFirst := by
  rw [DepthInSpan, FrontFirst, getBufferDepthMs]
  cases hfront : b.buffer.head? with
  | none =>
    have hnil := List.head?_eq_none_iff.1 hfront
    refine iff_of_true ?_ (by simp)
    simp [spanMs, arrivals, hnil, durationMs]
  | some front =>
    have hfrontMem := List.mem_of_head? hfront
    obtain ⟨back, hback⟩ : ∃ back, b.buffer.getLast? = some back :=
      ⟨_, List.getLast?_eq_some_getLast (List.ne_nil_of_mem hfrontMem)⟩
    have hbackMem := List.mem_of_getLast? hback
    have hself := durationMs_le_spanMs hfrontMem hfrontMem
    have hspan := durationMs_le_spanMs hfrontMem hbackMem
    set late := durationMs (front.arrivalTime - back.arrivalTime) with hlate
    have hneg : durationMs (back.arrivalTime - front.arrivalTime) = -late := by
      rw [hlate, ← durationMs_neg, neg_sub]
    rw [sub_self] at hself
    rw [hneg] at hspan
    have hwrapped := wrapped_le_iff hspan hself
    simp only [hback, Option.mem_some_iff, forall_eq', ← hlate, hneg]
    split_ifs with hlen
    · -- one packet is front and back
      have hsame : front = back := by
        obtain ⟨rest, hrest⟩ := List.head?_eq_some_iff.1 hfront
        rw [hrest, List.length_cons] at hlen
        rw [hrest, List.length_eq_zero_iff.1 (show rest.length = 0 by omega)] at hback
        exact Option.some.inj hback
      have hzero : late = 0 := by rw [hlate, hsame, sub_self]; rfl
      exact iff_of_true hself (Or.inl hzero.le)
    · rw [toNat_toUInt32, hwrapped]

/-- **The depth in a run**: in every state reached, and in the state in which an `Insert` reads the depth, it is within
the span of the arrivals exactly when the front packet of that state did not arrive late -/
theorem depth_in_span_iff (config : JitterBufferConfig) (calls : List JitterCall) :
    let b := exec (call S) (new config) calls
    (b.DepthInSpan ↔ b.FrontFirst) ∧
      ∀ packet now, (b.enqueued S packet now).DepthInSpan ↔ (b.enqueued S packet now).FrontFirst :=
  ⟨depthInSpan_iff _, fun _ _ => depthInSpan_iff _⟩

/-- the clock readings of a run -/
def clocks (calls : List JitterCall) : List ℤ := calls.filterMap fun c => match c with
  | .insert _ now => some now
  | _ => none

/-- **A reordered packet makes the buffer seven weeks deep**: 6 arrives two milliseconds before 5 -/
theorem depth_wraps : ¬ ∀ (S : StdSort BufferItem.seq) (config : JitterBufferConfig) (calls : List JitterCall),
    (clocks calls).Pairwise (· ≤ ·) → (exec (call S) (new config) calls).DepthInSpan := by
  intro h
  have hdepth := h (.insertion _) {} [.insert (.build 97 6 0 0 false []) 0, .insert (.build 97 5 0 0 false []) 2000000]
    (by decide)
  revert hdepth
  decide +kernel

end JitterBuffer

end Rtcom
