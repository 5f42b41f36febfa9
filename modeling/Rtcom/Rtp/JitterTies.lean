/-
Packets with one number in the jitter buffer. `std::sort` is not stable: which of two items with equal numbers comes
first is up to the library. `core` is what distinguishes two items to the buffer, the ready mark is set anew by each
`Insert`.

- `insert_congr`: an `Insert` depends on what `SortBuffer` makes of the cores.
- `sort_irrelevant_iff`: all sorting routines give the same buffer and the same packets throughout a run of `Insert`,
  `Extract` and `Reset` exactly if no packet arrives whose number waits already, but for one that is the same in all
  and comes at the same time.
-/
import Mathlib.Tactic
import Rtcom.Rtp.JitterExtract

namespace Rtcom

open Runs

/-- an item without its ready mark -/
def BufferItem.core (i : BufferItem) : RtpPacket × ℤ := (i.packet, i.arrivalTime)

namespace JitterBuffer

/-! ## One `Insert` -/

theorem map_mark_of_core {l l' : List BufferItem} (h : l.map BufferItem.core = l'.map BufferItem.core)
    (delay : UInt32) (now : ℤ) : l.map (BufferItem.mark delay now) = l'.map (BufferItem.mark delay now) := by
  have hmark : BufferItem.mark delay now =
      (fun c : RtpPacket × ℤ => ⟨c.1, c.2, toUInt32 (durationMs (now - c.2)) ≥ delay⟩) ∘ BufferItem.core := rfl
  rw [hmark, ← List.map_map, ← List.map_map, h]

theorem getBufferDepthMs_of_core {b b' : JitterBuffer}
    (h : b.buffer.map BufferItem.core = b'.buffer.map BufferItem.core) : b.getBufferDepthMs = b'.getBufferDepthMs := by
  have hlength : b.buffer.length = b'.buffer.length := by
    rw [← List.length_map BufferItem.core, h, List.length_map]
  have hhead : b.buffer.head?.map BufferItem.core = b'.buffer.head?.map BufferItem.core := by
    rw [← List.head?_map, h, List.head?_map]
  have hlast : b.buffer.getLast?.map BufferItem.core = b'.buffer.getLast?.map BufferItem.core := by
    rw [← List.getLast?_map, h, List.getLast?_map]
  unfold getBufferDepthMs
  cases hfront : b.buffer.head? <;> cases hback : b.buffer.getLast? <;> cases hfront' : b'.buffer.head? <;>
    cases hback' : b'.buffer.getLast?
  all_goals simp_all [BufferItem.core]

variable (S T : StdSort BufferItem.seq)

/-- **`Insert` depends on what `SortBuffer` makes of the cores** -/
theorem insert_congr {b : JitterBuffer} {packet : RtpPacket} {now : ℤ}
    (h : (S.sort (b.buffer ++ [⟨packet, now, false⟩])).map BufferItem.core =
      (T.sort (b.buffer ++ [⟨packet, now, false⟩])).map BufferItem.core) :
    b.insert S packet now = b.insert T packet now := by
  have hcore : (b.enqueued S packet now).buffer.map BufferItem.core =
      (b.enqueued T packet now).buffer.map BufferItem.core := by rw [buffer_enqueued, buffer_enqueued, h]
  have hmarked : (b.enqueued S packet now).markReady now = (b.enqueued T packet now).markReady now := by
    set x := (b.calculateJitter packet now).trackSequence packet.sequence with hx
    have hbuffer : x.buffer = b.buffer := by rw [hx, buffer_trackSequence, buffer_calculateJitter]
    have hmark := map_mark_of_core (hbuffer ▸ h) x.currentDelayMs now
    exact congrArg (fun items => { x with buffer := items, packetsInserted := x.packetsInserted + 1 }) hmark
  rw [insert_eq, insert_eq, fill_eq, fill_eq, hmarked, getBufferDepthMs_of_core hcore]

end JitterBuffer

/-! ## Runs -/

namespace Play

open JitterBuffer

/-- one call, beside the packets returned so far -/
def perform (S : StdSort BufferItem.seq) (s : Play) : JitterCall → Play
  | .insert packet now => s.step S (.insert packet now)
  | .extract => s.step S .extract
  | .reset => { s with jb := s.jb.reset }

/-- no item waits under the number of a packet that arrives, but one with the same core -/
def Unambiguous (s : Play) : JitterCall → Prop
  | .insert packet now => ∀ i ∈ s.jb.buffer, i.seq = packet.seq → i.core = (packet, now)
  | .extract | .reset => True

instance (s : Play) : (c : JitterCall) → Decidable (Unambiguous s c)
  | .insert packet now => inferInstanceAs (Decidable (∀ i ∈ s.jb.buffer, i.seq = packet.seq → i.core = (packet, now)))
  | .extract | .reset => isTrue trivial

/-- items that wait under one number have one core -/
def OneCore (s : Play) : Prop := ∀ i ∈ s.jb.buffer, ∀ j ∈ s.jb.buffer, i.seq = j.seq → i.core = j.core

variable (S T : StdSort BufferItem.seq)

theorem oneCore_new {s : Play} {packet : RtpPacket} {now : ℤ} (hs : s.OneCore)
    (h : Unambiguous s (.insert packet now)) :
    ∀ i ∈ s.jb.buffer ++ [⟨packet, now, false⟩], ∀ j ∈ s.jb.buffer ++ [⟨packet, now, false⟩],
      i.seq = j.seq → i.core = j.core := by
  intro i hi j hj hseq
  rcases List.mem_append.1 hi with hi | hi <;> rcases List.mem_append.1 hj with hj | hj
  · exact hs i hi j hj hseq
  · obtain rfl := List.mem_singleton.1 hj
    exact h i hi hseq
  · obtain rfl := List.mem_singleton.1 hi
    exact (h j hj hseq.symm).symm
  · obtain rfl := List.mem_singleton.1 hi
    obtain rfl := List.mem_singleton.1 hj
    rfl

theorem perform_congr {s : Play} {c : JitterCall} (hs : s.OneCore) (hc : Unambiguous s c) :
    s.perform T c = s.perform S c := by
  cases c with
  | extract | reset => rfl
  | insert packet now =>
    have hsort := T.map_sort_eq S BufferItem.core (fun c => c.1.seq) (fun _ => rfl) (oneCore_new hs hc)
    simp only [perform, step, insert_congr T S hsort]

theorem perform_oneCore {s : Play} {c : JitterCall} (hs : s.OneCore) (hc : Unambiguous s c) :
    (s.perform S c).OneCore := by
  cases c with
  | extract =>
    intro i hi j hj
    have hsub : s.jb.extract.1.buffer ⊆ s.jb.buffer := s.jb.sublist_extract.subset
    exact hs i (hsub hi) j (hsub hj)
  | reset => exact fun i hi => absurd hi List.not_mem_nil
  | insert packet now =>
    have hall := oneCore_new hs hc
    have hfrom : ∀ i ∈ (s.jb.insert S packet now).buffer, ∃ j ∈ s.jb.buffer ++ [⟨packet, now, false⟩],
        j.mark s.jb.currentDelayMs now = i := by
      intro i hi
      rw [insert_eq, buffer_dropOverflow, buffer_fill] at hi
      obtain ⟨j, hj, hmark⟩ := List.mem_map.1 (List.mem_of_mem_drop hi)
      exact ⟨j, S.mem_sort.1 hj, hmark⟩
    intro i hi j hj hseq
    obtain ⟨i', hi', rfl⟩ := hfrom i hi
    obtain ⟨j', hj', rfl⟩ := hfrom j hj
    exact hall i' hi' j' hj' hseq

theorem length_perform {s : Play} (c : JitterCall) (hs : s.jb.buffer.length ≤ kMaxBufferSize) :
    (s.perform S c).jb.buffer.length ≤ kMaxBufferSize := by
  cases c with
  | insert packet now => exact s.jb.length_insert S packet now
  | extract => exact s.jb.sublist_extract.length_le.trans hs
  | reset => exact Nat.zero_le _

/-! ### Ambiguity -/

/-- the last of at least two stays when one is dropped from the front -/
theorem getLast?_filter_drop {α : Type} (p : α → Bool) (l : List α) {k : ℕ} (hk : k ≤ 1) (h : 2 ≤ (l.filter p).length) :
    ((l.drop k).filter p).getLast? = (l.filter p).getLast? := by
  rcases l with _ | ⟨a, l⟩
  · simp at h
  · interval_cases k
    · rfl
    · rw [List.drop_succ_cons, List.drop_zero]
      by_cases ha : p a
      · rw [List.filter_cons_of_pos ha] at h ⊢
        rw [List.getLast?_cons]
        obtain ⟨b, rest, hl⟩ := List.exists_cons_of_length_pos (Nat.lt_of_succ_lt_succ h)
        rw [hl, List.getLast?_cons]
        rfl
      · rw [List.filter_cons_of_neg ha]

/-- the last item under a number, behind an `Insert` -/
theorem getLast?_insert {s : Play} {packet : RtpPacket} {now : ℤ} (hlen : s.jb.buffer.length ≤ kMaxBufferSize)
    {i : BufferItem} (hi : i ∈ s.jb.buffer) (hseq : i.seq = packet.seq) :
    ((s.jb.insert S packet now).buffer.filter fun j => j.seq = packet.seq).getLast?.map BufferItem.core =
      ((S.sort (s.jb.buffer ++ [⟨packet, now, false⟩])).filter fun j => j.seq = packet.seq).getLast?.map
        BufferItem.core := by
  set items := s.jb.buffer ++ [⟨packet, now, false⟩] with hitems
  have htwo : 2 ≤ ((S.sort items).filter fun j => j.seq = packet.seq).length := by
    rw [((S.perm items).filter _).length_eq, hitems, List.filter_append, List.length_append]
    have hone : 0 < (s.jb.buffer.filter fun j => j.seq = packet.seq).length :=
      List.length_pos_of_mem (List.mem_filter.2 ⟨hi, by simpa using hseq⟩)
    have hnew : ([⟨packet, now, false⟩] : List BufferItem).filter (fun j => j.seq = packet.seq) =
        [⟨packet, now, false⟩] :=
      List.filter_cons_of_pos (by simp [BufferItem.seq, RtpPacket.seq])
    rw [hnew, List.length_singleton]
    omega
  have hmark : ∀ l : List BufferItem,
      (l.map (BufferItem.mark s.jb.currentDelayMs now)).filter (fun j => j.seq = packet.seq) =
      (l.filter fun j => j.seq = packet.seq).map (BufferItem.mark s.jb.currentDelayMs now) := by
    intro l
    rw [List.filter_map]
    rfl
  have hdrop : ((S.sort items).map (BufferItem.mark s.jb.currentDelayMs now)).length - kMaxBufferSize ≤ 1 := by
    rw [List.length_map, (S.perm items).length_eq, hitems, List.length_append, List.length_singleton]
    omega
  rw [← List.length_map (BufferItem.mark s.jb.currentDelayMs now), ← hmark] at htwo
  rw [insert_eq, buffer_dropOverflow, buffer_fill, getLast?_filter_drop _ _ hdrop htwo, hmark, List.getLast?_map,
    Option.map_map]
  rfl

/-- where two cores wait under one number, the buffer shows which comes last -/
theorem unambiguous_of_agree {s : Play} {c : JitterCall} (hlen : s.jb.buffer.length ≤ kMaxBufferSize)
    (h : ∀ S T : StdSort BufferItem.seq, s.perform S c = s.perform T c) : Unambiguous s c := by
  cases c with
  | extract | reset => trivial
  | insert packet now =>
    intro i hi hseq
    set item : BufferItem := ⟨packet, now, false⟩ with hitem
    have hwaits : i ∈ s.jb.buffer ++ [item] := List.mem_append_left _ hi
    have hcomes : item ∈ s.jb.buffer ++ [item] := List.mem_append_right _ (List.mem_singleton_self item)
    have hnumber : item.seq = packet.seq := rfl
    obtain ⟨S, hS⟩ := StdSort.exists_last hwaits hseq
    obtain ⟨T, hT⟩ := StdSort.exists_last hcomes hnumber
    have hsame : s.jb.insert S packet now = s.jb.insert T packet now := by
      simpa only [perform, step, mk.injEq, and_true] using h S T
    have hlast := @getLast?_insert S s packet now hlen i hi hseq
    rw [hsame, @getLast?_insert T s packet now hlen i hi hseq, hS, hT] at hlast
    exact (Option.some.inj hlast).symm

/-- **When the sorting routine does not matter**: whatever the standard library's `std::sort` does with equal elements,
the buffer and the packets taken out of it are the same throughout a run, exactly if no packet arrives whose number
waits already, but one that is the same and comes at the same time -/
theorem sort_irrelevant_iff (config : JitterBufferConfig) (calls : List JitterCall) :
    (∀ T : StdSort BufferItem.seq, ∀ before after, calls = before ++ after →
      exec (perform T) (start config) before = exec (perform S) (start config) before) ↔
      Along (perform S) Unambiguous (start config) calls := by
  constructor
  · intro h
    rw [along_iff]
    rintro before c after rfl
    have hlen : (exec (perform S) (start config) before).jb.buffer.length ≤ kMaxBufferSize :=
      exec_preserves (P := fun s : Play => s.jb.buffer.length ≤ kMaxBufferSize)
        (fun s c hs => length_perform S c hs) (Nat.zero_le _) before
    have hstep : ∀ T : StdSort BufferItem.seq, (exec (perform S) (start config) before).perform T c =
        exec (perform S) (start config) (before ++ [c]) := by
      intro T
      rw [← h T before (c :: after) rfl, ← h T (before ++ [c]) after (by simp), exec_append]
      rfl
    exact unambiguous_of_agree hlen fun T T' => (hstep T).trans (hstep T').symm
  · rintro h T before after rfl
    exact exec_congr (I := OneCore) (fun s c hs hc => perform_oneCore S hs hc)
      (fun s c hs hc => perform_congr S T hs hc) (fun i hi => absurd hi List.not_mem_nil)
      ((along_append _ _ _).1 h).1

end Play

end Rtcom
