/-
Conservation of packets in the jitter buffer. `Ledger` keeps the books of a buffer: the packets given to `Insert`, those
its overflow loops dropped and, with `Play`, those `Extract` returned.

`Balanced` is the invariant: every packet inserted is waiting, was handed out or was dropped, the counters say how many
they are, the buffer is sorted by sequence number and within its bound.

- `balanced_insert`, `balanced_extract`, `step_balanced`: one call keeps the books in balance.
- `books_balance`: so does every run from a new buffer.
-/
import Mathlib.Tactic
import Rtcom.Rtp.JitterBuffer

namespace Rtcom

open Runs

namespace JitterBuffer

variable (S : StdSort BufferItem.seq) (b : JitterBuffer) (packet : RtpPacket) (now : ℤ)

/-- the packets waiting, front first -/
def packets (b : JitterBuffer) : List RtpPacket := b.buffer.map BufferItem.packet

/-! ## One call -/

theorem overflow_append_insert :
    b.overflow S packet now ++ (b.insert S packet now).buffer = (b.fill S packet now).buffer := by
  rw [overflow, insert_eq, buffer_dropOverflow, List.take_append_drop]

theorem length_fill : (b.fill S packet now).buffer.length = b.buffer.length + 1 := by
  rw [buffer_fill, List.length_map, (S.perm _).length_eq, List.length_append, List.length_singleton]

/-- sorting and marking lose and invent no packet -/
theorem packets_fill : (b.fill S packet now).packets.Perm (b.packets ++ [packet]) := by
  rw [packets, buffer_fill, List.map_map]
  exact (S.perm _).map BufferItem.packet |>.trans (by rw [List.map_append]; rfl)

/-- what is dropped and what stays is what was there and the new packet -/
theorem packets_insert :
    ((b.overflow S packet now).map BufferItem.packet ++ (b.insert S packet now).packets).Perm
      (b.packets ++ [packet]) := by
  rw [packets, ← List.map_append, overflow_append_insert]
  exact b.packets_fill S packet now

theorem sorted_fill : (b.fill S packet now).buffer.Pairwise fun i j => i.seq ≤ j.seq := by
  rw [buffer_fill]
  exact List.pairwise_map.2 (S.ordered _)

theorem sorted_insert : (b.insert S packet now).buffer.Pairwise fun i j => i.seq ≤ j.seq := by
  rw [insert_eq, buffer_dropOverflow]
  exact (b.sorted_fill S packet now).drop

theorem length_insert : (b.insert S packet now).buffer.length ≤ kMaxBufferSize := by
  rw [insert_eq, buffer_dropOverflow, List.length_drop]
  omega

theorem length_overflow :
    (b.overflow S packet now).length + (b.insert S packet now).buffer.length = b.buffer.length + 1 := by
  rw [← List.length_append, overflow_append_insert, length_fill]

theorem counters_calculateJitter :
    (b.calculateJitter packet now).packetsInserted = b.packetsInserted ∧
      (b.calculateJitter packet now).packetsExtracted = b.packetsExtracted := by
  unfold calculateJitter
  split_ifs <;> exact ⟨rfl, rfl⟩

theorem counters_trackSequence (seq : UInt16) :
    (b.trackSequence seq).packetsInserted = b.packetsInserted ∧
      (b.trackSequence seq).packetsExtracted = b.packetsExtracted := by
  simp only [trackSequence]
  split_ifs <;> exact ⟨rfl, rfl⟩

theorem counters_adaptDelay (d : UInt32) :
    (b.adaptDelay d).packetsInserted = b.packetsInserted ∧
      (b.adaptDelay d).packetsExtracted = b.packetsExtracted := by
  unfold adaptDelay
  split_ifs <;> exact ⟨rfl, rfl⟩

/-- an `Insert` counts one packet in and none out -/
theorem counters_insert :
    (b.insert S packet now).packetsInserted = b.packetsInserted + 1 ∧
      (b.insert S packet now).packetsExtracted = b.packetsExtracted := by
  obtain ⟨hinJitter, houtJitter⟩ := b.counters_calculateJitter packet now
  obtain ⟨hin, hout⟩ := (b.calculateJitter packet now).counters_trackSequence packet.sequence
  rw [insert_eq, dropOverflow, fill_eq]
  -- adapting the delay comes after the counting
  rw [(counters_adaptDelay _ _).1, (counters_adaptDelay _ _).2]
  simp only [markReady, enqueued, enqueue, hin, hout, hinJitter, houtJitter, and_self]

theorem counter_extract (p : RtpPacket) (h : b.extract.2 = some p) :
    b.extract.1.packetsInserted = b.packetsInserted ∧ b.extract.1.packetsExtracted = b.packetsExtracted + 1 := by
  rw [extract] at h ⊢
  cases hf : b.buffer.find? (·.ready) with
  | none => simp [hf] at h
  | some i => exact ⟨rfl, rfl⟩

end JitterBuffer

/-! ## The books -/

/-- a buffer with the packets it was given, returned and dropped -/
structure Ledger extends Play where
  inserted : List RtpPacket
  dropped : List RtpPacket
deriving DecidableEq, Repr

namespace Ledger

def start (config : JitterBufferConfig) : Ledger := ⟨Play.start config, [], []⟩

def step (S : StdSort BufferItem.seq) (l : Ledger) (o : JitterOp) : Ledger where
  toPlay := l.toPlay.step S o
  inserted := match o with
    | .insert packet _ => l.inserted ++ [packet]
    | .extract => l.inserted
  dropped := match o with
    | .insert packet now => l.dropped ++ (l.jb.overflow S packet now).map BufferItem.packet
    | .extract => l.dropped

structure Balanced (l : Ledger) : Prop where
  bounded : l.jb.buffer.length ≤ JitterBuffer.kMaxBufferSize
  sorted : l.jb.buffer.Pairwise fun i j => i.packet.sequence ≤ j.packet.sequence
  conserved : (l.inserted : Multiset RtpPacket) = l.out + l.jb.packets + l.dropped
  counted : l.jb.packetsInserted =
    l.jb.packetsExtracted + UInt32.ofNat l.jb.buffer.length + UInt32.ofNat l.dropped.length

variable (S : StdSort BufferItem.seq) {l : Ledger}

theorem balanced_insert (h : Balanced l) (packet : RtpPacket) (now : ℤ) :
    Balanced (l.step S (.insert packet now)) := by
  refine ⟨l.jb.length_insert S packet now, ?_, ?_, ?_⟩
  · exact (l.jb.sorted_insert S packet now).imp fun hle => UInt16.le_iff_toNat_le.2 hle
  · have hnew := Multiset.coe_eq_coe.2 (l.jb.packets_insert S packet now)
    simp only [← Multiset.coe_add] at hnew
    simp only [step, Play.step, ← Multiset.coe_add]
    calc (l.inserted : Multiset RtpPacket) + ↑[packet]
        = l.out + l.dropped + (l.jb.packets + ↑[packet]) := by rw [h.conserved]; abel
      _ = l.out + l.dropped + (((l.jb.overflow S packet now).map BufferItem.packet : List RtpPacket) +
          (l.jb.insert S packet now).packets) := by rw [hnew]
      _ = _ := by abel
  · obtain ⟨hin, hout⟩ := l.jb.counters_insert S packet now
    have hlen := congrArg UInt32.ofNat (l.jb.length_overflow S packet now)
    have hcounted := h.counted
    simp only [UInt32.ofNat_add] at hlen
    simp only [step, Play.step, hin, hout, List.length_append, List.length_map, UInt32.ofNat_add]
    grind

theorem balanced_extract (h : Balanced l) : Balanced (l.step S .extract) := by
  rcases l.jb.extract_cases with ⟨he, -⟩ | ⟨pre, i, post, hb, -, -, hbuf, hout⟩
  · have heq : l.step S .extract = l := by simp [step, Play.step, he]
    rw [heq]
    exact h
  · obtain ⟨hin, hcount⟩ := l.jb.counter_extract i.packet hout
    have hsub : (pre ++ post).Sublist l.jb.buffer := by
      rw [hb]
      exact (List.Sublist.refl pre).append (List.sublist_cons_self i post)
    have hlen : l.jb.buffer.length = (pre ++ post).length + 1 := by
      simp only [hb, List.length_append, List.length_cons]
      omega
    refine ⟨?_, ?_, ?_, ?_⟩
    · show l.jb.extract.1.buffer.length ≤ _
      rw [hbuf]
      exact hsub.length_le.trans h.bounded
    · show l.jb.extract.1.buffer.Pairwise _
      rw [hbuf]
      exact h.sorted.sublist hsub
    · have hpackets : (l.jb.packets : Multiset RtpPacket) = ↑[i.packet] + l.jb.extract.1.packets := by
        rw [JitterBuffer.packets, JitterBuffer.packets, hb, hbuf, Multiset.coe_add, Multiset.coe_eq_coe]
        simp
      simp only [step, Play.step, hout, Option.toList_some, ← Multiset.coe_add]
      rw [h.conserved, hpackets]
      abel
    · have hcounted := h.counted
      simp only [step, Play.step, hin, hcount, hbuf]
      rw [hcounted, hlen, UInt32.ofNat_add]
      grind

/-- one call keeps the books in balance -/
theorem step_balanced (l : Ledger) (o : JitterOp) (h : Balanced l) : Balanced (l.step S o) := by
  cases o with
  | insert packet now => exact balanced_insert S h packet now
  | extract => exact balanced_extract S h

/-- **No packet is lost or duplicated inside the buffer**, in any run -/
theorem books_balance (config : JitterBufferConfig) (ops : List JitterOp) :
    let l := exec (step S) (start config) ops
    l.jb.buffer.length ≤ 500 ∧ l.jb.buffer.Pairwise (fun i j => i.packet.sequence ≤ j.packet.sequence) ∧
      (l.inserted : Multiset RtpPacket) = l.out + l.jb.buffer.map BufferItem.packet + l.dropped ∧
      l.jb.packetsInserted =
        l.jb.packetsExtracted + UInt32.ofNat l.jb.buffer.length + UInt32.ofNat l.dropped.length := by
  have hstart : Balanced (start config) := ⟨Nat.zero_le _, List.Pairwise.nil, rfl, rfl⟩
  obtain ⟨hlen, hsorted, hpackets, hcount⟩ := exec_preserves (step_balanced S) hstart ops
  exact ⟨hlen, hsorted, hpackets, hcount⟩

end Ledger

end Rtcom
