/-
`JitterBuffer` of `src/rtp/jitter_buffer.{h,cpp}`. Times are nanoseconds of the steady clock; `std::sort` is any
`StdSort` by sequence number. `Insert` always returns true, so `insert` is the new state alone.

In order delivery (`Play`: a buffer and the packets its `Extract` calls returned). A packet is late when it is not above
every number delivered, a duplicate when its number is waiting in the buffer, and an extraction overtakes when it skips
the front packet. `Insert` takes late and duplicate packets, and `Extract` overtakes, so the numbers delivered need not
increase (`delivered_out_of_order`); `delivered_increasing`: in every run without such steps they do. The invariant is
`InOrder`.
-/
import Mathlib.Tactic
import Rtcom.Lib.Runs
import Rtcom.Lib.Sort
import Rtcom.Rtp.Packet

namespace Rtcom

/-! ## Model -/

structure JitterBufferConfig where
  minDelayMs : UInt32 := kJitterBufferMinMs
  maxDelayMs : UInt32 := kJitterBufferMaxMs
  initialDelayMs : UInt32 := 60
  sampleRate : UInt32 := 8000
deriving DecidableEq, Repr

structure BufferItem where
  packet : RtpPacket
  arrivalTime : ℤ
  ready : Bool
deriving DecidableEq, Repr

def BufferItem.seq (i : BufferItem) : ℕ := i.packet.sequence.toNat

structure JitterBuffer where
  config : JitterBufferConfig
  buffer : List BufferItem
  expectedSeq : UInt16
  initialized : Bool
  currentDelayMs : UInt32
  packetsLost : UInt32
  packetsInserted : UInt32
  packetsExtracted : UInt32
  currentJitterMs : UInt32
  transitJitter : UInt32
  lastTransit : UInt32
  jitterInitialized : Bool
deriving DecidableEq, Repr

/-- `duration_cast<milliseconds>`, towards zero -/
def durationMs (ns : ℤ) : ℤ := ns.tdiv 1000000

/-- conversion to `uint32_t` -/
def toUInt32 (z : ℤ) : UInt32 := ⟨BitVec.ofInt 32 z⟩

/-- the item with its ready mark set as `Insert` sets it at a time, for a delay -/
def BufferItem.mark (delay : UInt32) (now : ℤ) (i : BufferItem) : BufferItem :=
  { i with ready := toUInt32 (durationMs (now - i.arrivalTime)) ≥ delay }

namespace JitterBuffer

def kMaxBufferSize : ℕ := 500

def new (config : JitterBufferConfig) : JitterBuffer where
  config := config
  buffer := []
  expectedSeq := 0
  initialized := false
  currentDelayMs := config.initialDelayMs
  packetsLost := 0
  packetsInserted := 0
  packetsExtracted := 0
  currentJitterMs := 0
  transitJitter := 0
  lastTransit := 0
  jitterInitialized := false

def calculateJitter (b : JitterBuffer) (packet : RtpPacket) (arrival : ℤ) : JitterBuffer :=
  let rtpTs := packet.timestamp
  if !b.jitterInitialized then
    { b with lastTransit := 0, transitJitter := 0, jitterInitialized := true }
  else
    let arrivalMs := durationMs arrival
    let transit : Int32 :=
      Int32.ofInt arrivalMs - Int32.ofNat (rtpTs.toNat * 1000 / b.config.sampleRate.toNat)
    let delta : Int32 := (transit - b.lastTransit.toInt32).abs
    let transitJitter := b.transitJitter + (delta.toUInt32 - b.transitJitter) / 16
    { b with transitJitter := transitJitter, lastTransit := transit.toUInt32, currentJitterMs := transitJitter }

/-- `Insert`, the sequence number bookkeeping -/
def trackSequence (b : JitterBuffer) (seq : UInt16) : JitterBuffer :=
  let b := if !b.initialized then { b with expectedSeq := seq, initialized := true } else b
  let gap := seq - b.expectedSeq
  let b := if gap > 0 ∧ gap < 100 then { b with packetsLost := b.packetsLost + gap.toUInt32 } else b
  if (seq - b.expectedSeq).toInt16 ≥ 0 then { b with expectedSeq := seq + 1 } else b

def getBufferDepthMs (b : JitterBuffer) : UInt32 :=
  match b.buffer.head?, b.buffer.getLast? with
  | some front, some back =>
    if b.buffer.length < 2 then 0 else toUInt32 (durationMs (back.arrivalTime - front.arrivalTime))
  | _, _ => 0

/-- `Insert`, the ready marks: every packet that has waited for the current delay -/
def markReady (b : JitterBuffer) (now : ℤ) : JitterBuffer :=
  { b with buffer := b.buffer.map fun i =>
      { i with ready := toUInt32 (durationMs (now - i.arrivalTime)) ≥ b.currentDelayMs } }

/-- `Insert`, the adaptive delay -/
def adaptDelay (b : JitterBuffer) (bufferDepth : UInt32) : JitterBuffer :=
  if b.currentJitterMs > b.currentDelayMs then
    { b with currentDelayMs := min b.config.maxDelayMs (b.currentDelayMs + 10) }
  else if b.currentDelayMs > b.config.minDelayMs ∧ bufferDepth < b.currentDelayMs / 2 then
    { b with currentDelayMs := max b.config.minDelayMs (b.currentDelayMs - 5) }
  else b

/-- `Insert`, the overflow loop: what exceeds the maximum size is dropped from the front and counted as lost -/
def dropOverflow (b : JitterBuffer) : JitterBuffer :=
  { b with
    buffer := b.buffer.drop (b.buffer.length - kMaxBufferSize)
    packetsLost := b.packetsLost + UInt32.ofNat (b.buffer.length - kMaxBufferSize) }

/-- `Insert`, the new item and `SortBuffer` -/
def enqueue (S : StdSort BufferItem.seq) (b : JitterBuffer) (packet : RtpPacket) (now : ℤ) : JitterBuffer :=
  let item : BufferItem := { packet := packet, arrivalTime := now, ready := false }
  { b with buffer := S.sort (b.buffer ++ [item]), packetsInserted := b.packetsInserted + 1 }

def insert (S : StdSort BufferItem.seq) (b : JitterBuffer) (packet : RtpPacket) (now : ℤ) : JitterBuffer :=
  let b := b.calculateJitter packet now
  let b := b.trackSequence packet.sequence
  let b := b.enqueue S packet now
  let b := if b.buffer ≠ [] then (b.markReady now).adaptDelay b.getBufferDepthMs else b
  b.dropOverflow

/-- `Insert` up to `SortBuffer` -/
def enqueued (S : StdSort BufferItem.seq) (b : JitterBuffer) (packet : RtpPacket) (now : ℤ) : JitterBuffer :=
  ((b.calculateJitter packet now).trackSequence packet.sequence).enqueue S packet now

/-- `Insert` up to the overflow loop -/
def fill (S : StdSort BufferItem.seq) (b : JitterBuffer) (packet : RtpPacket) (now : ℤ) : JitterBuffer :=
  let b := b.calculateJitter packet now
  let b := b.trackSequence packet.sequence
  let b := b.enqueue S packet now
  if b.buffer ≠ [] then (b.markReady now).adaptDelay b.getBufferDepthMs else b

/-- what the overflow loop of an `Insert` drops -/
def overflow (S : StdSort BufferItem.seq) (b : JitterBuffer) (packet : RtpPacket) (now : ℤ) : List BufferItem :=
  (b.fill S packet now).buffer.take ((b.fill S packet now).buffer.length - kMaxBufferSize)

/-- the first ready packet, taken out of the buffer -/
def extract (b : JitterBuffer) : JitterBuffer × Option RtpPacket :=
  match b.buffer.find? (·.ready) with
  | some i =>
    ({ b with buffer := b.buffer.eraseP (·.ready), packetsExtracted := b.packetsExtracted + 1 }, some i.packet)
  | none => (b, none)

def reset (b : JitterBuffer) : JitterBuffer :=
  { b with
    buffer := []
    initialized := false
    expectedSeq := 0
    currentDelayMs := b.config.initialDelayMs
    packetsLost := 0
    jitterInitialized := false }

/-! ### What the calls do to the buffer -/

@[simp] theorem buffer_calculateJitter (b : JitterBuffer) (packet : RtpPacket) (arrival : ℤ) :
    (b.calculateJitter packet arrival).buffer = b.buffer := by
  unfold calculateJitter
  split_ifs <;> rfl

@[simp] theorem buffer_trackSequence (b : JitterBuffer) (seq : UInt16) : (b.trackSequence seq).buffer = b.buffer := by
  simp only [trackSequence]
  split_ifs <;> rfl

@[simp] theorem buffer_adaptDelay (b : JitterBuffer) (bufferDepth : UInt32) :
    (b.adaptDelay bufferDepth).buffer = b.buffer := by
  unfold adaptDelay
  split_ifs <;> rfl

@[simp] theorem buffer_dropOverflow (b : JitterBuffer) :
    b.dropOverflow.buffer = b.buffer.drop (b.buffer.length - kMaxBufferSize) := by
  rw [dropOverflow]

@[simp] theorem currentDelayMs_dropOverflow (b : JitterBuffer) :
    b.dropOverflow.currentDelayMs = b.currentDelayMs := by
  rw [dropOverflow]

@[simp] theorem config_dropOverflow (b : JitterBuffer) : b.dropOverflow.config = b.config := by
  rw [dropOverflow]

@[simp] theorem currentDelayMs_calculateJitter (b : JitterBuffer) (packet : RtpPacket) (arrival : ℤ) :
    (b.calculateJitter packet arrival).currentDelayMs = b.currentDelayMs := by
  unfold calculateJitter
  split_ifs <;> rfl

@[simp] theorem currentDelayMs_trackSequence (b : JitterBuffer) (seq : UInt16) :
    (b.trackSequence seq).currentDelayMs = b.currentDelayMs := by
  simp only [trackSequence]
  split_ifs <;> rfl

theorem insert_eq (S : StdSort BufferItem.seq) (b : JitterBuffer) (packet : RtpPacket) (now : ℤ) :
    b.insert S packet now = (b.fill S packet now).dropOverflow := rfl

@[simp] theorem config_calculateJitter (b : JitterBuffer) (packet : RtpPacket) (arrival : ℤ) :
    (b.calculateJitter packet arrival).config = b.config := by
  unfold calculateJitter
  split_ifs <;> rfl

@[simp] theorem config_trackSequence (b : JitterBuffer) (seq : UInt16) :
    (b.trackSequence seq).config = b.config := by
  simp only [trackSequence]
  split_ifs <;> rfl

theorem buffer_enqueued (S : StdSort BufferItem.seq) (b : JitterBuffer) (packet : RtpPacket) (now : ℤ) :
    (b.enqueued S packet now).buffer = S.sort (b.buffer ++ [⟨packet, now, false⟩]) := by
  simp only [enqueued, enqueue, buffer_trackSequence, buffer_calculateJitter]

theorem currentDelayMs_enqueued (S : StdSort BufferItem.seq) (b : JitterBuffer) (packet : RtpPacket) (now : ℤ) :
    (b.enqueued S packet now).currentDelayMs = b.currentDelayMs := by
  simp only [enqueued, enqueue, currentDelayMs_trackSequence, currentDelayMs_calculateJitter]

theorem config_enqueued (S : StdSort BufferItem.seq) (b : JitterBuffer) (packet : RtpPacket) (now : ℤ) :
    (b.enqueued S packet now).config = b.config := by
  simp only [enqueued, enqueue, config_trackSequence, config_calculateJitter]

/-- the buffer is not empty behind `SortBuffer`: the marks are set and the delay adapts in every `Insert` -/
theorem fill_eq (S : StdSort BufferItem.seq) (b : JitterBuffer) (packet : RtpPacket) (now : ℤ) :
    b.fill S packet now =
      ((b.enqueued S packet now).markReady now).adaptDelay (b.enqueued S packet now).getBufferDepthMs := by
  have hne : (b.enqueued S packet now).buffer ≠ [] := by
    have hnew : (⟨packet, now, false⟩ : BufferItem) ∈ (b.enqueued S packet now).buffer := by simp [buffer_enqueued]
    exact List.ne_nil_of_mem hnew
  exact if_pos hne

/-- `Insert` before the overflow loop: the new item is sorted in, and the ready marks are set by the delay so far -/
theorem buffer_fill (S : StdSort BufferItem.seq) (b : JitterBuffer) (packet : RtpPacket) (now : ℤ) :
    (b.fill S packet now).buffer =
      (S.sort (b.buffer ++ [⟨packet, now, false⟩])).map (BufferItem.mark b.currentDelayMs now) := by
  calc (b.fill S packet now).buffer
      = ((b.enqueued S packet now).markReady now).buffer := by rw [fill_eq, buffer_adaptDelay]
    _ = (b.enqueued S packet now).buffer.map (BufferItem.mark (b.enqueued S packet now).currentDelayMs now) := rfl
    _ = _ := by rw [buffer_enqueued, currentDelayMs_enqueued]

/-- `Insert`: the numbers in the buffer are sorted with the new one, and dropped from the front -/
theorem seqs_insert (S : StdSort BufferItem.seq) (b : JitterBuffer) (packet : RtpPacket) (now : ℤ) : ∃ k,
    (b.insert S packet now).buffer.map BufferItem.seq =
      ((S.sort (b.buffer ++ [⟨packet, now, false⟩])).map BufferItem.seq).drop k := by
  rw [insert_eq, buffer_dropOverflow, buffer_fill, List.map_drop, List.map_map]
  exact ⟨_, rfl⟩

/-- `Extract`: nothing, or the first ready packet -/
theorem extract_cases (b : JitterBuffer) :
    (b.extract = (b, none) ∧ ∀ i ∈ b.buffer, ¬ i.ready) ∨
      ∃ pre i post, b.buffer = pre ++ i :: post ∧ (∀ j ∈ pre, ¬ j.ready) ∧ i.ready ∧
        b.extract.1.buffer = pre ++ post ∧ b.extract.2 = some i.packet := by
  unfold extract
  cases hf : b.buffer.find? (·.ready) with
  | none => exact Or.inl ⟨rfl, by simpa using hf⟩
  | some i =>
    obtain ⟨hi, pre, post, hb, hpre⟩ := List.find?_eq_some_iff_append.1 hf
    refine Or.inr ⟨pre, i, post, hb, by simpa using hpre, hi, ?_, rfl⟩
    show b.buffer.eraseP (·.ready) = pre ++ post
    rw [hb, List.eraseP_append_right _ (by simpa using hpre), List.eraseP_cons_of_pos hi]

end JitterBuffer

/-! ## Runs -/

/-- a call on the buffer; `Insert` reads the clock -/
inductive JitterOp where
  | insert (packet : RtpPacket) (now : ℤ)
  | extract
deriving DecidableEq, Repr

/-- a buffer and the packets its `Extract` calls have returned, in order -/
structure Play where
  jb : JitterBuffer
  out : List RtpPacket
deriving DecidableEq, Repr

def RtpPacket.seq (p : RtpPacket) : ℕ := p.sequence.toNat

namespace Play

open Runs

def start (config : JitterBufferConfig) : Play := ⟨.new config, []⟩

def step (S : StdSort BufferItem.seq) (s : Play) : JitterOp → Play
  | .insert packet now => { s with jb := s.jb.insert S packet now }
  | .extract => ⟨s.jb.extract.1, s.out ++ s.jb.extract.2.toList⟩

/-- the sequence numbers delivered -/
def delivered (s : Play) : List ℕ := s.out.map RtpPacket.seq

/-- the sequence numbers waiting, front first -/
def waiting (s : Play) : List ℕ := s.jb.buffer.map BufferItem.seq

/-- the step brings no late and no duplicate packet, and does not overtake the front packet -/
def InSequence (s : Play) : JitterOp → Prop
  | .insert packet _ => (∀ n ∈ s.delivered, n < packet.seq) ∧ packet.seq ∉ s.waiting
  | .extract => ∀ front ∈ s.jb.buffer.head?, (∃ i ∈ s.jb.buffer, i.ready) → front.ready

instance (s : Play) : (o : JitterOp) → Decidable (InSequence s o)
  | .insert packet _ => inferInstanceAs (Decidable ((∀ n ∈ s.delivered, n < packet.seq) ∧ packet.seq ∉ s.waiting))
  | .extract =>
    inferInstanceAs (Decidable (∀ front ∈ s.jb.buffer.head?, (∃ i ∈ s.jb.buffer, i.ready) → front.ready))

/-- what was delivered and what is waiting, together in ascending order -/
def InOrder (s : Play) : Prop := (s.delivered ++ s.waiting).Pairwise (· < ·)

/-- a number above all delivered ones, and not waiting yet, is sorted in -/
theorem inOrder_insert (S : StdSort BufferItem.seq) {s : Play} {packet : RtpPacket} (now : ℤ) (h : InOrder s)
    (hlate : ∀ n ∈ s.delivered, n < packet.seq) (hdup : packet.seq ∉ s.waiting) :
    InOrder (s.step S (.insert packet now)) := by
  obtain ⟨hdel, hwait, habove⟩ := List.pairwise_append.1 h
  set items := s.jb.buffer ++ [⟨packet, now, false⟩] with hitems
  obtain ⟨k, hk⟩ := s.jb.seqs_insert S packet now
  -- no two numbers in the buffer are equal, so it is strictly sorted
  have hne : items.Pairwise fun a b => a.seq ≠ b.seq := by
    rw [hitems, List.pairwise_append]
    refine ⟨(List.pairwise_map.1 hwait).imp Nat.ne_of_lt, List.pairwise_singleton _ _, ?_⟩
    intro a ha b hb
    rw [List.mem_singleton.1 hb]
    exact fun heq => hdup (List.mem_map.2 ⟨a, ha, heq⟩)
  have hsorted : ((S.sort items).map BufferItem.seq).Pairwise (· < ·) := List.pairwise_map.2 (S.strict hne)
  have hmem : ∀ n ∈ (S.sort items).map BufferItem.seq, ∀ d ∈ s.delivered, d < n := by
    intro n hn d hd
    obtain ⟨i, hi, rfl⟩ := List.mem_map.1 hn
    rw [StdSort.mem_sort, hitems, List.mem_append, List.mem_singleton] at hi
    rcases hi with hi | rfl
    · exact habove d hd _ (List.mem_map_of_mem hi)
    · exact hlate d hd
  show (s.delivered ++ (s.jb.insert S packet now).buffer.map BufferItem.seq).Pairwise (· < ·)
  rw [hk, List.pairwise_append]
  exact ⟨hdel, hsorted.drop, fun d hd n hn => hmem n (List.mem_of_mem_drop hn) d hd⟩

/-- nothing precedes the packet returned, so only the border between delivered and waiting moves -/
theorem inOrder_extract (S : StdSort BufferItem.seq) {s : Play} (h : InOrder s)
    (hfront : ∀ front ∈ s.jb.buffer.head?, (∃ i ∈ s.jb.buffer, i.ready) → front.ready) :
    InOrder (s.step S .extract) := by
  rcases s.jb.extract_cases with ⟨he, -⟩ | ⟨pre, i, post, hb, hpre, hi, hbuf, hout⟩
  · simpa only [InOrder, step, he, Option.toList_none, List.append_nil, delivered, waiting] using h
  · have hnil : pre = [] := by
      rcases pre with _ | ⟨front, pre⟩
      · rfl
      · exact absurd (hfront front (by simp [hb]) ⟨i, by simp [hb], hi⟩) (hpre front List.mem_cons_self)
    subst hnil
    show (((s.out ++ s.jb.extract.2.toList).map RtpPacket.seq) ++
      s.jb.extract.1.buffer.map BufferItem.seq).Pairwise (· < ·)
    rw [hbuf, hout]
    simpa [InOrder, delivered, waiting, hb, BufferItem.seq, RtpPacket.seq] using h

/-- a step in sequence keeps the order -/
theorem step_inOrder (S : StdSort BufferItem.seq) (s : Play) (o : JitterOp) (h : InOrder s) (ho : InSequence s o) :
    InOrder (s.step S o) := by
  cases o with
  | insert packet now => exact inOrder_insert S now h ho.1 ho.2
  | extract => exact inOrder_extract S h ho

/-- **In-order delivery** in every run that brings no late and no duplicate packet and overtakes no front packet -/
theorem delivered_increasing (S : StdSort BufferItem.seq) (config : JitterBufferConfig) (ops : List JitterOp)
    (h : Along (step S) InSequence (start config) ops) :
    (exec (step S) (start config) ops).delivered.Pairwise (· < ·) := by
  have hstart : InOrder (start config) := List.Pairwise.nil
  exact (List.pairwise_append.1 (exec_inv (step_inOrder S) hstart ops h)).1

/-- an empty packet of a given number -/
def packet (seq : UInt16) : RtpPacket := .build 0 seq 0 0 false []

/-- two packets, the first played out when the second arrives a tenth of a second later -/
theorem delivered_increasing_two :
    (exec (step (.insertion _)) (start {}) [.insert (packet 5) 0, .insert (packet 6) 100000000,
      .extract]).delivered.Pairwise (· < ·) :=
  delivered_increasing _ _ _ (by decide)

/-- **A late packet is handed out behind a later one**: 3 arrives when 5 has been delivered -/
theorem delivered_out_of_order : ¬ ∀ (S : StdSort BufferItem.seq) (config : JitterBufferConfig) (ops : List JitterOp),
    (exec (step S) (start config) ops).delivered.Pairwise (· < ·) := by
  intro h
  have h5 := h (.insertion _) {} [.insert (packet 5) 0, .insert (packet 6) 100000000, .extract,
    .insert (packet 3) 200000000, .insert (packet 7) 300000000, .extract]
  revert h5
  decide

end Play

end Rtcom
