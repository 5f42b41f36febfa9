/-
Which packet leaves the jitter buffer, and when, in every run of `Insert`, `Extract` and `Reset` (`JitterCall`).

Which: the buffer is sorted by the numbers as they are, while `Insert` tracks losses by serial number. Both agree as
long as the numbers in question are less than 32768 apart (`Near`), which a window across 65535 and 0 breaks
(`oldest_first_iff`, `wrapped_not_oldest`).

When: the ready marks are set by `Insert` alone, by its clock and the delay before it adapts. `Marked` keeps both; the
invariant `Faithful` says that the marks are those. `Extract` hands out a packet exactly when one was due then
(`extract_iff_due`), so it answers for a later time exactly when nothing has changed since (`due_now_iff`,
`due_not_extracted`).
-/
import Mathlib.Tactic
import Rtcom.Lib.Serial
import Rtcom.Rtp.JitterLedger

namespace Rtcom

open Runs Serial

inductive JitterCall where
  | insert (packet : RtpPacket) (now : ℤ)
  | extract
  | reset
deriving DecidableEq, Repr

def RtpPacket.serial (p : RtpPacket) : BitVec (15 + 1) := p.sequence.toBitVec

namespace JitterBuffer

variable (S : StdSort BufferItem.seq)

def call (b : JitterBuffer) : JitterCall → JitterBuffer
  | .insert packet now => b.insert S packet now
  | .extract => b.extract.1
  | .reset => b.reset

/-! ## The order of extraction -/

/-- the numbers of the packets waiting -/
def serials (b : JitterBuffer) : List (BitVec (15 + 1)) := b.buffer.map fun i => i.packet.serial

/-- the numbers of the packets that may be extracted -/
def readySerials (b : JitterBuffer) : List (BitVec (15 + 1)) :=
  (b.buffer.filter (·.ready)).map fun i => i.packet.serial

/-- the packet `Extract` returns is the oldest ready one -/
def ExtractsOldest (b : JitterBuffer) : Prop := ∀ p, b.extract.2 = some p → Oldest p.serial b.readySerials

/-- the packet an `Insert` drops is the oldest of those it has in the buffer -/
def DropsOldest (b : JitterBuffer) (packet : RtpPacket) (now : ℤ) : Prop :=
  ∀ i ∈ b.overflow S packet now, Oldest i.packet.serial (b.fill S packet now).serials

/-- sorted by the numbers as they are, and within its bound -/
def Sorted (b : JitterBuffer) : Prop :=
  b.buffer.Pairwise (fun i j => i.seq ≤ j.seq) ∧ b.buffer.length ≤ kMaxBufferSize

theorem sublist_extract (b : JitterBuffer) : b.extract.1.buffer.Sublist b.buffer := by
  unfold extract
  cases b.buffer.find? (·.ready) with
  | none => exact List.Sublist.refl _
  | some i => exact List.eraseP_sublist

theorem call_sorted (b : JitterBuffer) (c : JitterCall) (h : b.Sorted) : (b.call S c).Sorted := by
  cases c with
  | insert packet now => exact ⟨b.sorted_insert S packet now, b.length_insert S packet now⟩
  | extract => exact ⟨h.1.sublist b.sublist_extract, b.sublist_extract.length_le.trans h.2⟩
  | reset => exact ⟨List.Pairwise.nil, Nat.zero_le _⟩

/-- the front of a sorted buffer has the least number -/
theorem front_le {front : BufferItem} {rest : List BufferItem}
    (h : (front :: rest).Pairwise fun i j => i.seq ≤ j.seq) :
    ∀ a ∈ (front :: rest).map (fun i => i.packet.serial), front.packet.serial.toNat ≤ a.toNat := by
  intro a ha
  obtain ⟨j, hj, rfl⟩ := List.mem_map.1 ha
  rcases List.mem_cons.1 hj with rfl | hrest
  · exact le_rfl
  · exact (List.pairwise_cons.1 h).1 j hrest

theorem extractsOldest_iff {b : JitterBuffer} (h : b.Sorted) : b.ExtractsOldest ↔ Near b.readySerials := by
  rcases b.extract_cases with ⟨he, hnone⟩ | ⟨pre, i, post, hb, hpre, hi, -, hout⟩
  · have hready : b.readySerials = [] := by
      rw [readySerials, List.filter_eq_nil_iff.2 (by simpa using hnone), List.map_nil]
    simp [ExtractsOldest, he, hready, Near]
  · -- the packet returned is the front of the ready ones
    have hready : b.readySerials = (i :: post.filter (·.ready)).map fun j => j.packet.serial := by
      rw [readySerials, hb, List.filter_append, List.filter_eq_nil_iff.2 (by simpa using hpre), List.nil_append,
        List.filter_cons_of_pos hi]
    have hsub : (i :: post.filter (·.ready)).Sublist b.buffer := by
      rw [hb]
      exact (List.filter_sublist.cons_cons i).trans (List.sublist_append_right pre _)
    have hmin := front_le (h.1.sublist hsub)
    have hmem : i.packet.serial ∈ b.readySerials := by simp [hready]
    rw [← hready] at hmin
    rw [← oldest_min_iff hmem hmin, ExtractsOldest, hout]
    constructor
    · exact fun hp => hp i.packet rfl
    · rintro hold p ⟨rfl⟩
      exact hold

/-- the numbers an `Insert` has in the buffer before it drops one -/
theorem mem_serials_fill (b : JitterBuffer) (packet : RtpPacket) (now : ℤ) (a : BitVec (15 + 1)) :
    a ∈ (b.fill S packet now).serials ↔ a ∈ packet.serial :: b.serials := by
  have hperm := (b.packets_fill S packet now).map RtpPacket.serial
  simp only [packets, List.map_map, List.map_append] at hperm
  exact hperm.mem_iff.trans (by simp [serials, or_comm])

theorem dropsOldest_iff {b : JitterBuffer} (h : b.Sorted) (packet : RtpPacket) (now : ℤ) :
    b.DropsOldest S packet now ↔ b.buffer.length < kMaxBufferSize ∨ Near (packet.serial :: b.serials) := by
  have hlen := b.length_fill S packet now
  have hsorted := b.sorted_fill S packet now
  rw [← near_congr (mem_serials_fill S b packet now), DropsOldest, overflow, hlen, serials]
  cases hb : (b.fill S packet now).buffer with
  | nil =>
    rw [hb] at hlen
    exact absurd hlen (Nat.succ_ne_zero _).symm
  | cons front rest =>
    by_cases hroom : b.buffer.length < kMaxBufferSize
    · have htake : b.buffer.length + 1 - kMaxBufferSize = 0 := by omega
      simp [htake, hroom]
    · -- one packet too many: the front is dropped
      have htake : b.buffer.length + 1 - kMaxBufferSize = 1 := by
        have := h.2
        omega
      rw [hb] at hsorted
      rw [htake, or_iff_right hroom, ← oldest_min_iff (by simp) (front_le hsorted)]
      simp

/-- **Oldest first**: in every state of every run, the packet `Extract` returns is the oldest ready one exactly when
the ready numbers are near each other, and the packet an `Insert` drops is the oldest of all exactly when there is room
or all numbers are near each other -/
theorem oldest_first_iff (config : JitterBufferConfig) (calls : List JitterCall) :
    let b := exec (call S) (new config) calls
    (b.ExtractsOldest ↔ Near b.readySerials) ∧
      ∀ packet now, b.DropsOldest S packet now ↔
        b.buffer.length < kMaxBufferSize ∨ Near (packet.serial :: b.serials) := by
  have hstart : (new config).Sorted := ⟨List.Pairwise.nil, Nat.zero_le _⟩
  have h := exec_preserves (call_sorted S) hstart calls
  exact ⟨extractsOldest_iff h, dropsOldest_iff S h⟩

/-- packet 65535 and packet 0 after it -/
def twoPackets : List JitterCall :=
  [.insert (.build 97 65535 0 0 false []) 0, .insert (.build 97 0 0 0 false []) 0]

/-- a buffer without delay that holds both -/
def wrapped : JitterBuffer := exec (call (.insertion _)) (new { initialDelayMs := 0 }) twoPackets

theorem inWindow_wrapped : InWindow wrapped.serials := by
  have hserials : wrapped.serials = [0, 65535] := by decide +kernel
  exact ⟨65535, by simp [hserials]⟩

/-- both packets are ready, and `Extract` returns packet 0 -/
theorem not_extractsOldest_wrapped : ¬ wrapped.ExtractsOldest := by
  have hout : wrapped.extract.2 = some (.build 97 0 0 0 false []) := by decide +kernel
  have hnot : ¬ Oldest (RtpPacket.build 97 0 0 0 false []).serial wrapped.readySerials := by decide +kernel
  exact fun h => hnot (h _ hout)

/-- **A window across the wrap** is not extracted oldest first -/
theorem wrapped_not_oldest : ¬ ∀ (S : StdSort BufferItem.seq) (config : JitterBufferConfig) (calls : List JitterCall),
    let b := exec (call S) (new config) calls
    InWindow b.serials →
      b.ExtractsOldest ∧ ∀ packet now, InWindow (packet.serial :: b.serials) → b.DropsOldest S packet now := by
  intro h
  exact not_extractsOldest_wrapped (h (.insertion _) { initialDelayMs := 0 } twoPackets inWindow_wrapped).1

end JitterBuffer

/-! ## The time of extraction -/

/-- the item has waited so many milliseconds by a time -/
def BufferItem.Waited (i : BufferItem) (delayMs : UInt32) (t : ℤ) : Prop :=
  (delayMs.toNat : ℤ) ≤ durationMs (t - i.arrivalTime)

instance (i : BufferItem) (delayMs : UInt32) (t : ℤ) : Decidable (i.Waited delayMs t) :=
  inferInstanceAs (Decidable ((delayMs.toNat : ℤ) ≤ durationMs (t - i.arrivalTime)))

/-- a buffer, the clock of the last `Insert` and the delay it marked the packets by -/
structure Marked where
  jb : JitterBuffer
  markedAt : ℤ
  markedDelayMs : UInt32

namespace Marked

variable (S : StdSort BufferItem.seq)

def start (config : JitterBufferConfig) : Marked := ⟨.new config, 0, 0⟩

def step (s : Marked) (c : JitterCall) : Marked :=
  match c with
  | .insert _ now => ⟨s.jb.call S c, now, s.jb.currentDelayMs⟩
  | _ => { s with jb := s.jb.call S c }

/-- the item was due when the last `Insert` set the marks -/
def DueAtMarking (s : Marked) (i : BufferItem) : Prop :=
  toUInt32 (durationMs (s.markedAt - i.arrivalTime)) ≥ s.markedDelayMs

/-- the marks are those the last `Insert` set -/
def Faithful (s : Marked) : Prop := ∀ i ∈ s.jb.buffer, i.ready ↔ s.DueAtMarking i

theorem step_faithful (s : Marked) (c : JitterCall) (h : s.Faithful) : (s.step S c).Faithful := by
  cases c with
  | insert packet now =>
    -- whatever the marks were, all are set anew
    intro i hi
    have hfill : i ∈ (s.jb.fill S packet now).buffer := by
      rw [← s.jb.overflow_append_insert S packet now]
      exact List.mem_append_right _ hi
    rw [JitterBuffer.buffer_fill] at hfill
    obtain ⟨j, -, rfl⟩ := List.mem_map.1 hfill
    simp [step, DueAtMarking, BufferItem.mark]
  | extract => exact fun i hi => h i (s.jb.sublist_extract.subset hi)
  | reset =>
    intro i hi
    exact absurd hi List.not_mem_nil

/-- `Extract` returns a packet exactly when one was due at the last `Insert` -/
theorem extract_iff_due {s : Marked} (h : s.Faithful) :
    s.jb.extract.2.isSome ↔ ∃ i ∈ s.jb.buffer, s.DueAtMarking i := by
  rcases s.jb.extract_cases with ⟨he, hnone⟩ | ⟨pre, i, post, hb, -, hi, -, hout⟩
  · rw [he]
    constructor
    · intro hsome
      exact absurd hsome Bool.false_ne_true
    · intro hwaited
      rcases hwaited with ⟨i, hi, hdue⟩
      exact absurd ((h i hi).2 hdue) (hnone i hi)
  · have hmem : i ∈ s.jb.buffer := by simp [hb]
    rw [hout]
    exact ⟨fun _ => ⟨i, hmem, (h i hmem).1 hi⟩, fun _ => rfl⟩

/-- **Extract and the clock**: after any run, an `Extract` at time t returns a packet exactly when one has waited for
the current delay, as long as that is no news since the last `Insert`: one was due then exactly when one is due now -/
theorem due_now_iff (config : JitterBufferConfig) (calls : List JitterCall) (t : ℤ) :
    let s := exec (step S) (start config) calls
    (s.jb.extract.2.isSome ↔ ∃ i ∈ s.jb.buffer, i.Waited s.jb.currentDelayMs t) ↔
      ((∃ i ∈ s.jb.buffer, s.DueAtMarking i) ↔ ∃ i ∈ s.jb.buffer, i.Waited s.jb.currentDelayMs t) := by
  intro s
  have hstart : (start config).Faithful := fun i hi => absurd hi List.not_mem_nil
  rw [extract_iff_due (exec_preserves (step_faithful S) hstart calls)]

/-- **A silence**: the last packet of a stream has waited for a tenth of a second, the delay is 60 ms -/
theorem due_not_extracted : ¬ ∀ (S : StdSort BufferItem.seq) (config : JitterBufferConfig) (calls : List JitterCall)
    (t : ℤ), (∀ packet now, .insert packet now ∈ calls → now ≤ t) →
    let s := exec (step S) (start config) calls
    (s.jb.extract.2.isSome ↔ ∃ i ∈ s.jb.buffer, i.Waited s.jb.currentDelayMs t) := by
  intro h
  have hpast : ∀ packet now, JitterCall.insert packet now ∈ [JitterCall.insert (.build 97 5 0 0 false []) 0] →
      now ≤ 100000000 := by
    intro packet now hmem
    cases List.mem_singleton.1 hmem
    decide
  have hiff := h (.insertion _) {} _ 100000000 hpast
  have hsome := hiff.2 ⟨⟨.build 97 5 0 0 false [], 0, false⟩, by decide +kernel, by decide +kernel⟩
  exact absurd hsome (by decide +kernel)

end Marked

end Rtcom
