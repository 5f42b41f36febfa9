/-
The sequence tracking of `Insert`. The packets of a stream have extended numbers, integers of which `sequence` is the
remainder; `Tracked` is a buffer in a run of `Insert` with the extended numbers inserted so far.

- `track_ahead`, `track_late`: what one packet makes of `expected_seq_` and `packets_lost_`, as long as it is in a
  window of 32767 behind the highest number and 32768 ahead of it.
- `expected_seq`: so in every run within the window, `expected_seq_` follows the highest number.
- `lost_iff`: `packets_lost_` counts the numbers that a packet skips and does not take back those that arrive late, so
  it is the number of packets missing when none is late, and within the window only then.
-/
import Mathlib.Tactic
import Rtcom.Lib.Serial
import Rtcom.Rtp.JitterExtract

namespace Rtcom

open Runs Serial

/-- a packet with its extended number and the time it is inserted -/
structure Arrival where
  number : ℤ
  packet : RtpPacket
  now : ℤ
  numbered : packet.serial = BitVec.ofInt (15 + 1) number

namespace JitterBuffer

variable (S : StdSort BufferItem.seq)

/-- the sequence number of an extended number -/
def seqOf (number : ℤ) : UInt16 := ⟨BitVec.ofInt (15 + 1) number⟩

theorem sequence_eq (a : Arrival) : a.packet.sequence = seqOf a.number := UInt16.eq_of_toBitVec_eq a.numbered

theorem seqOf_succ (n : ℤ) : seqOf n + 1 = seqOf (n + 1) :=
  UInt16.eq_of_toBitVec_eq (BitVec.ofInt_add n 1).symm

theorem toInt_seqOf_sub {m n : ℤ} (hlow : -32768 ≤ n - m) (hhigh : n - m < 32768) :
    (seqOf n - seqOf m).toInt16.toInt = n - m :=
  toInt_sub_ofInt (w := 15) (by omega) (by omega)

theorem toNat_seqOf_sub (m n : ℤ) : ((seqOf n - seqOf m).toNat : ℤ) = (n - m) % 65536 :=
  toNat_sub_ofInt (n := 15 + 1) n m

/-! ## One packet -/

/-- two buffers with the same bookkeeping -/
structure SameTracking (b b' : JitterBuffer) : Prop where
  initialized : b.initialized = b'.initialized
  expected : b.expectedSeq = b'.expectedSeq
  lost : b.packetsLost = b'.packetsLost

theorem sameTracking_calculateJitter (b : JitterBuffer) (packet : RtpPacket) (now : ℤ) :
    SameTracking (b.calculateJitter packet now) b := by
  unfold calculateJitter
  split_ifs <;> exact ⟨rfl, rfl, rfl⟩

theorem sameTracking_adaptDelay (b : JitterBuffer) (depth : UInt32) : SameTracking (b.adaptDelay depth) b := by
  unfold adaptDelay
  split_ifs <;> exact ⟨rfl, rfl, rfl⟩

/-- the bookkeeping as a function of what it reads -/
theorem trackSequence_fields (b : JitterBuffer) (seq : UInt16) :
    let expected := if b.initialized then b.expectedSeq else seq
    let gap := seq - expected
    (b.trackSequence seq).initialized = true ∧
      (b.trackSequence seq).expectedSeq = (if gap.toInt16 ≥ 0 then seq + 1 else expected) ∧
      (b.trackSequence seq).packetsLost =
        if gap > 0 ∧ gap < 100 then b.packetsLost + gap.toUInt32 else b.packetsLost := by
  cases hinit : b.initialized with
  | true =>
    simp only [trackSequence, hinit, Bool.not_true, Bool.false_eq_true, if_false, if_true]
    split_ifs
    all_goals exact ⟨by first | rfl | exact hinit, rfl, rfl⟩
  | false =>
    simp only [trackSequence, hinit, Bool.not_false, if_true, Bool.false_eq_true, if_false]
    split_ifs
    all_goals exact ⟨rfl, rfl, rfl⟩

theorem SameTracking.trackSequence {b b' : JitterBuffer} (h : SameTracking b b') (seq : UInt16) :
    SameTracking (b.trackSequence seq) (b'.trackSequence seq) := by
  obtain ⟨hinit, hexpected, hlost⟩ := b.trackSequence_fields seq
  obtain ⟨hinit', hexpected', hlost'⟩ := b'.trackSequence_fields seq
  rw [h.initialized, h.expected] at hexpected hlost
  exact ⟨hinit.trans hinit'.symm, hexpected.trans hexpected'.symm, by rw [hlost, hlost', h.lost]⟩

/-- the numbers are tracked by one part of `Insert`, and its overflow loop counts what it drops -/
theorem tracking_insert (b : JitterBuffer) (packet : RtpPacket) (now : ℤ) :
    let tracked := b.trackSequence packet.sequence
    (b.insert S packet now).initialized = tracked.initialized ∧
      (b.insert S packet now).expectedSeq = tracked.expectedSeq ∧
      (b.insert S packet now).packetsLost =
        tracked.packetsLost + UInt32.ofNat (b.overflow S packet now).length := by
  intro tracked
  have htracked := (b.sameTracking_calculateJitter packet now).trackSequence packet.sequence
  have hfill : SameTracking (b.fill S packet now) ((b.calculateJitter packet now).trackSequence packet.sequence) := by
    have hadapt := ((b.enqueued S packet now).markReady now).sameTracking_adaptDelay
      (b.enqueued S packet now).getBufferDepthMs
    rw [fill_eq]
    exact ⟨hadapt.initialized, hadapt.expected, hadapt.lost⟩
  have hdropped : (b.overflow S packet now).length = (b.fill S packet now).buffer.length - kMaxBufferSize := by
    rw [overflow, List.length_take]
    omega
  rw [insert_eq, dropOverflow, hdropped]
  exact ⟨hfill.initialized.trans htracked.initialized, hfill.expected.trans htracked.expected,
    by rw [hfill.lost, htracked.lost]⟩

/-- the first packet of a stream is the one expected -/
theorem track_first {b : JitterBuffer} (h : b.initialized = false) (n : ℤ) :
    (b.trackSequence (seqOf n)).initialized = true ∧ (b.trackSequence (seqOf n)).expectedSeq = seqOf (n + 1) ∧
      (b.trackSequence (seqOf n)).packetsLost = b.packetsLost := by
  obtain ⟨hinit, hexpected, hlost⟩ := b.trackSequence_fields (seqOf n)
  have hzero : seqOf n - (if b.initialized then b.expectedSeq else seqOf n) = 0 := by
    rw [h, if_neg Bool.false_ne_true]
    exact UInt16.sub_self _
  rw [hzero] at hexpected hlost
  exact ⟨hinit, hexpected.trans (seqOf_succ n), hlost⟩

variable {b : JitterBuffer} {highest n : ℤ}

/-- a packet ahead of all others is the highest from then on, and skips what is between -/
theorem track_ahead (hinit : b.initialized = true) (hexpected : b.expectedSeq = seqOf (highest + 1))
    (hahead : highest < n) (hwindow : n ≤ highest + 32768) :
    (b.trackSequence (seqOf n)).initialized = true ∧ (b.trackSequence (seqOf n)).expectedSeq = seqOf (n + 1) ∧
      (n ≤ highest + 100 → (b.trackSequence (seqOf n)).packetsLost =
        b.packetsLost + UInt32.ofNat (n - (highest + 1)).toNat) := by
  have hsigned : (seqOf n - seqOf (highest + 1)).toInt16 ≥ 0 := by
    rw [ge_iff_le, Int16.le_iff_toInt_le, toInt_seqOf_sub (by omega) (by omega)]
    exact Int.sub_nonneg_of_le hahead
  obtain ⟨htracked, hnext, hlost⟩ := b.trackSequence_fields (seqOf n)
  simp only [hinit, if_true, hexpected] at hnext hlost
  rw [if_pos hsigned, seqOf_succ] at hnext
  refine ⟨htracked, hnext, fun hjump => ?_⟩
  have hgap := toNat_seqOf_sub (highest + 1) n
  have hnat : (seqOf n - seqOf (highest + 1)).toNat = (n - (highest + 1)).toNat := by omega
  have hword : (seqOf n - seqOf (highest + 1)).toUInt32 = UInt32.ofNat (n - (highest + 1)).toNat := by
    rw [← hnat, ← UInt32.toNat_inj, UInt16.toNat_toUInt32, UInt32.toNat_ofNat']
    exact (Nat.mod_eq_of_lt (by omega)).symm
  have hsmall : seqOf n - seqOf (highest + 1) < 100 := by
    rw [UInt16.lt_iff_toNat_lt, hnat]
    show _ < 100
    omega
  rw [hlost, ← hword]
  split_ifs with hcount
  · rfl
  · -- nothing is skipped
    have hzero : seqOf n - seqOf (highest + 1) = 0 := by
      by_contra hne
      exact hcount ⟨UInt16.pos_iff_ne_zero.2 hne, hsmall⟩
    rw [hzero]
    exact (UInt32.add_zero _).symm

/-- a late packet changes nothing -/
theorem track_late (hinit : b.initialized = true) (hexpected : b.expectedSeq = seqOf (highest + 1))
    (hlate : n ≤ highest) (hwindow : highest - 32767 ≤ n) :
    (b.trackSequence (seqOf n)).initialized = true ∧ (b.trackSequence (seqOf n)).expectedSeq = b.expectedSeq ∧
      (b.trackSequence (seqOf n)).packetsLost = b.packetsLost := by
  have hsigned : ¬ (seqOf n - seqOf (highest + 1)).toInt16 ≥ 0 := by
    rw [ge_iff_le, Int16.le_iff_toInt_le, toInt_seqOf_sub (by omega) (by omega)]
    exact not_le.2 (Int.sub_neg_of_lt (Int.lt_add_one_of_le hlate))
  have hgap : ¬ seqOf n - seqOf (highest + 1) < 100 := by
    have hword := toNat_seqOf_sub (highest + 1) n
    rw [UInt16.lt_iff_toNat_lt]
    show ¬ (seqOf n - seqOf (highest + 1)).toNat < 100
    omega
  obtain ⟨htracked, hnext, hlost⟩ := b.trackSequence_fields (seqOf n)
  simp only [hinit, if_true, hexpected] at hnext hlost
  rw [if_neg hsigned] at hnext
  rw [if_neg fun h => hgap h.2] at hlost
  exact ⟨htracked, hnext.trans hexpected.symm, hlost⟩

end JitterBuffer

/-! ## Runs -/

/-- a buffer, the extended numbers inserted so far, and how many of them were late -/
structure Tracked where
  jb : JitterBuffer
  numbers : List ℤ
  late : ℕ

namespace Tracked

open JitterBuffer

variable (S : StdSort BufferItem.seq)

def start (config : JitterBufferConfig) : Tracked := ⟨.new config, [], 0⟩

/-- a number at least as high was inserted before -/
def Late (t : Tracked) (a : Arrival) : Prop := ∃ n ∈ t.numbers, a.number ≤ n

instance (t : Tracked) (a : Arrival) : Decidable (t.Late a) := List.decidableBEx (fun n => a.number ≤ n) t.numbers

def step (t : Tracked) (a : Arrival) : Tracked where
  jb := t.jb.insert S a.packet a.now
  numbers := t.numbers ++ [a.number]
  late := if t.Late a then t.late + 1 else t.late

/-- the highest number so far -/
def highest (t : Tracked) : Option ℤ := t.numbers.max?

/-- the packet is at most 32767 behind the highest and at most 32768 ahead of it -/
def InWindow (t : Tracked) (a : Arrival) : Prop := ∀ h ∈ t.highest, h - 32767 ≤ a.number ∧ a.number ≤ h + 32768

instance (t : Tracked) (a : Arrival) : Decidable (t.InWindow a) :=
  inferInstanceAs (Decidable (∀ h ∈ t.highest, h - 32767 ≤ a.number ∧ a.number ≤ h + 32768))

theorem highest_step {t : Tracked} {h : ℤ} (hh : t.highest = some h) (a : Arrival) :
    (t.step S a).highest = some (max h a.number) := by
  show (t.numbers ++ [a.number]).max? = some (max h a.number)
  obtain ⟨hmem, hle⟩ := List.max?_eq_some_iff.1 hh
  refine List.max?_eq_some_iff.2 ⟨?_, fun n hn => ?_⟩
  · rcases max_choice h a.number with heq | heq <;> simp [heq, hmem]
  · rcases List.mem_append.1 hn with hn | hn
    · exact (hle n hn).trans (le_max_left h a.number)
    · rw [List.mem_singleton.1 hn]
      exact le_max_right h a.number

theorem late_iff {t : Tracked} {h : ℤ} (hh : t.highest = some h) (a : Arrival) : t.Late a ↔ a.number ≤ h := by
  obtain ⟨hmem, hle⟩ := List.max?_eq_some_iff.1 hh
  constructor
  · rintro ⟨n, hn, hlate⟩
    exact hlate.trans (hle n hn)
  · exact fun hlate => ⟨h, hmem, hlate⟩

/-- the number expected is the one behind the highest -/
structure Follows (t : Tracked) (h : ℤ) : Prop where
  highest : t.highest = some h
  initialized : t.jb.initialized = true
  expected : t.jb.expectedSeq = seqOf (h + 1)

/-- before the first packet, or with the right number expected -/
def Tracks (t : Tracked) : Prop := (t.numbers = [] ∧ t.jb.initialized = false) ∨ ∃ h, t.Follows h

theorem step_first {t : Tracked} (hnone : t.numbers = []) (hinit : t.jb.initialized = false) (a : Arrival) :
    (t.step S a).Follows a.number := by
  obtain ⟨hinit', hexpected, -⟩ := t.jb.tracking_insert S a.packet a.now
  rw [sequence_eq] at hinit' hexpected
  obtain ⟨htrack, hnext, -⟩ := track_first hinit a.number
  refine ⟨?_, hinit'.trans htrack, hexpected.trans hnext⟩
  show (t.numbers ++ [a.number]).max? = some a.number
  rw [hnone]
  rfl

/-- a packet in the window moves the number expected exactly when it is ahead -/
theorem step_follows {t : Tracked} {h : ℤ} (ht : t.Follows h) {a : Arrival} (hwindow : t.InWindow a) :
    (t.step S a).Follows (max h a.number) ∧
      (a.number ≤ h → (t.step S a).jb.expectedSeq = t.jb.expectedSeq) := by
  obtain ⟨hlow, hhigh⟩ := hwindow h ht.highest
  obtain ⟨hinit, hexpected, -⟩ := t.jb.tracking_insert S a.packet a.now
  rw [sequence_eq] at hinit hexpected
  rcases lt_or_ge h a.number with hahead | hlate
  · obtain ⟨htrack, hnext, -⟩ := track_ahead ht.initialized ht.expected hahead hhigh
    refine ⟨⟨highest_step S ht.highest a, hinit.trans htrack, ?_⟩, fun hle => absurd hahead (not_lt.2 hle)⟩
    rw [max_eq_right hahead.le]
    exact hexpected.trans hnext
  · obtain ⟨htrack, hsame, -⟩ := track_late ht.initialized ht.expected hlate hlow
    refine ⟨⟨highest_step S ht.highest a, hinit.trans htrack, ?_⟩, fun _ => hexpected.trans hsame⟩
    rw [max_eq_left hlate]
    exact (hexpected.trans hsame).trans ht.expected

theorem step_tracks (t : Tracked) (a : Arrival) (h : t.Tracks) (ha : t.InWindow a) : (t.step S a).Tracks := by
  rcases h with ⟨hnone, hinit⟩ | ⟨h, ht⟩
  · exact Or.inr ⟨a.number, step_first S hnone hinit a⟩
  · exact Or.inr ⟨_, (step_follows S ht ha).1⟩

theorem start_tracks (config : JitterBufferConfig) : (start config).Tracks := Or.inl ⟨rfl, rfl⟩

theorem Tracks.follows {t : Tracked} (h : t.Tracks) {n : ℤ} (hn : n ∈ t.highest) : t.Follows n := by
  rcases h with ⟨hnone, -⟩ | ⟨m, ht⟩
  · rw [highest, hnone] at hn
    cases hn
  · obtain rfl : m = n := Option.some.inj (ht.highest.symm.trans hn)
    exact ht

/-- **The number expected** in a run within the window is the one behind the highest, across any number of wraps, and a
packet that is not ahead does not move it -/
theorem expected_seq (config : JitterBufferConfig) (arrivals : List Arrival)
    (hwindow : Along (step S) InWindow (start config) arrivals) :
    (∀ before after, arrivals = before ++ after → ∀ h ∈ (exec (step S) (start config) before).highest,
        (exec (step S) (start config) before).jb.expectedSeq = seqOf (h + 1)) ∧
      ∀ before a after, arrivals = before ++ a :: after → ∀ h ∈ (exec (step S) (start config) before).highest,
        a.number ≤ h → (exec (step S) (start config) (before ++ [a])).jb.expectedSeq =
          (exec (step S) (start config) before).jb.expectedSeq := by
  constructor
  · rintro before after rfl h hh
    have hbefore := ((along_append _ before after).1 hwindow).1
    exact ((exec_inv (step_tracks S) (start_tracks config) before hbefore).follows hh).expected
  · rintro before a after rfl h hh hle
    obtain ⟨hbefore, ha, -⟩ := (along_append _ before (a :: after)).1 hwindow
    have ht := (exec_inv (step_tracks S) (start_tracks config) before hbefore).follows hh
    rw [exec_append]
    exact (step_follows S ht ha).2 hle

/-- a packet of a given extended number -/
def numbered (number : ℤ) : Arrival :=
  ⟨number, .build 97 (seqOf number) 0 0 false [], 0, congrArg UInt16.toBitVec (ntohs_htons (seqOf number))⟩

/-- across the wrap, with a packet that comes late and twice -/
theorem expected_seq_wrap :
    let arrivals := [numbered 65534, numbered 65536, numbered 65535, numbered 65535]
    (∀ before after, arrivals = before ++ after →
        ∀ h ∈ (exec (step (.insertion _)) (start {}) before).highest,
          (exec (step (.insertion _)) (start {}) before).jb.expectedSeq = seqOf (h + 1)) ∧
      ∀ before a after, arrivals = before ++ a :: after →
        ∀ h ∈ (exec (step (.insertion _)) (start {}) before).highest,
          a.number ≤ h → (exec (step (.insertion _)) (start {}) (before ++ [a])).jb.expectedSeq =
            (exec (step (.insertion _)) (start {}) before).jb.expectedSeq :=
  expected_seq (.insertion _) {} _ (by decide +kernel)

/-! ## Losses -/

/-- the numbers from the first to the highest that never arrived -/
def missing (t : Tracked) (first : ℤ) : ℕ :=
  ((Int.range first (t.highest.getD first + 1)).filter fun n => n ∉ t.numbers).length

/-- the stream starts at its lowest number, no number comes twice, fewer than 100 are skipped at a time and nothing is
dropped -/
structure InStream (first : ℤ) (t : Tracked) (a : Arrival) : Prop where
  lowest : first ≤ a.number
  distinct : a.number ∉ t.numbers
  jump : ∀ h ∈ t.highest, a.number ≤ h + 100
  kept : t.jb.overflow S a.packet a.now = []

/-- what was skipped is counted: the numbers that are missing and those that came late -/
structure Tallied (first : ℤ) (t : Tracked) (h : ℤ) (lost : ℕ) : Prop where
  follows : t.Follows h
  le : first ≤ h
  reach : h - first ≤ 100 * t.numbers.length
  within : ∀ n ∈ t.numbers, first ≤ n
  nodup : t.numbers.Nodup
  late : t.late ≤ t.numbers.length
  sum : (lost : ℤ) + t.numbers.length = h - first + 1 + t.late
  count : t.jb.packetsLost = UInt32.ofNat lost
  held : t.jb.buffer.length = t.numbers.length
  bounded : t.numbers.length ≤ 500

variable {first : ℤ} {t : Tracked} {a : Arrival}

/-- what an `Insert` that drops nothing adds -/
theorem kept_step (hkept : t.jb.overflow S a.packet a.now = []) (hheld : t.jb.buffer.length = t.numbers.length) :
    (t.step S a).jb.buffer.length = (t.step S a).numbers.length ∧ (t.step S a).numbers.length ≤ 500 ∧
      (t.step S a).jb.packetsLost = (t.jb.trackSequence (seqOf a.number)).packetsLost := by
  obtain ⟨-, -, hlost⟩ := t.jb.tracking_insert S a.packet a.now
  have hlen := t.jb.length_overflow S a.packet a.now
  have hmax := t.jb.length_insert S a.packet a.now
  have hnumbers : (t.step S a).numbers.length = t.numbers.length + 1 := List.length_append
  have hbuffer : (t.step S a).jb.buffer.length = (t.step S a).numbers.length := by
    rw [hkept, List.length_nil, Nat.zero_add] at hlen
    rw [hnumbers, ← hheld]
    exact hlen
  refine ⟨hbuffer, hbuffer ▸ hmax, ?_⟩
  calc (t.step S a).jb.packetsLost
      = (t.jb.trackSequence a.packet.sequence).packetsLost +
          UInt32.ofNat (t.jb.overflow S a.packet a.now).length := hlost
    _ = (t.jb.trackSequence (seqOf a.number)).packetsLost + UInt32.ofNat 0 := by
      rw [hkept, sequence_eq, List.length_nil]
    _ = (t.jb.trackSequence (seqOf a.number)).packetsLost := UInt32.add_zero _

theorem step_tallied {h : ℤ} {lost : ℕ} (ht : t.Tallied first h lost) (ha : t.InStream S first a)
    (hwindow : t.InWindow a) : ∃ h' lost', (t.step S a).Tallied first h' lost' := by
  obtain ⟨hfollows, -⟩ := step_follows S ht.follows hwindow
  obtain ⟨hheld, hbounded, hcount⟩ := kept_step S ha.kept ht.held
  obtain ⟨hlow, hhigh⟩ := hwindow h ht.follows.highest
  have hjump := ha.jump h ht.follows.highest
  have hnumbers : (t.step S a).numbers.length = t.numbers.length + 1 := List.length_append
  have hwithin : ∀ n ∈ (t.step S a).numbers, first ≤ n := by
    intro n hn
    rcases List.mem_append.1 hn with hn | hn
    · exact ht.within n hn
    · rw [List.mem_singleton.1 hn]
      exact ha.lowest
  have hnodup : (t.step S a).numbers.Nodup :=
    ht.nodup.append (List.nodup_singleton _) (List.disjoint_singleton.2 ha.distinct)
  have hle := ht.le
  have hreach := ht.reach
  have hsum := ht.sum
  have hlateLe := ht.late
  rcases lt_or_ge h a.number with hahead | hlate
  · obtain ⟨-, -, hskipped⟩ := track_ahead ht.follows.initialized ht.follows.expected hahead hhigh
    have hnot : (t.step S a).late = t.late :=
      if_neg fun hlate => absurd hahead (not_lt.2 ((late_iff ht.follows.highest a).1 hlate))
    rw [max_eq_right hahead.le] at hfollows
    refine ⟨a.number, lost + (a.number - (h + 1)).toNat, hfollows, ha.lowest, ?_, hwithin, hnodup, ?_, ?_, ?_, hheld,
      hbounded⟩
    · omega
    · omega
    · omega
    · rw [hcount, hskipped hjump, ht.count, UInt32.ofNat_add]
  · obtain ⟨-, -, hsame⟩ := track_late ht.follows.initialized ht.follows.expected hlate hlow
    have hone : (t.step S a).late = t.late + 1 := if_pos ((late_iff ht.follows.highest a).2 hlate)
    rw [max_eq_left hlate] at hfollows
    refine ⟨h, lost, hfollows, hle, ?_, hwithin, hnodup, ?_, ?_, ?_, hheld, hbounded⟩
    · omega
    · omega
    · omega
    · rw [hcount, hsame, ht.count]

theorem start_tallied (config : JitterBufferConfig) (ha : (start config).InStream S a.number a) :
    ((start config).step S a).Tallied a.number a.number 0 := by
  obtain ⟨hheld, hbounded, hcount⟩ := kept_step S ha.kept rfl
  have hnumbers : ((start config).step S a).numbers = [a.number] := rfl
  have hnot : ¬ (start config).Late a := by
    rintro ⟨n, hn, -⟩
    cases hn
  have hlate : ((start config).step S a).late = 0 :=
    show (if (start config).Late a then 0 + 1 else 0) = 0 from if_neg hnot
  refine ⟨step_first S rfl rfl a, le_rfl, ?_, ?_, ?_, ?_, ?_, ?_, hheld, hbounded⟩
  · simp [hnumbers]
  · simp [hnumbers]
  · simp [hnumbers]
  · simp [hlate]
  · simp [hnumbers, hlate]
  · rw [hcount]
    exact (track_first rfl a.number).2.2

/-- the counter is the number of packets missing and of those late -/
theorem Tallied.lost_eq {h : ℤ} {lost : ℕ} (ht : t.Tallied first h lost) :
    t.jb.packetsLost.toNat = t.missing first + t.late := by
  have hnodup : (Int.range first (h + 1)).Nodup := by
    refine List.Nodup.map_on (fun m _ n _ hmn => ?_) List.nodup_range
    omega
  have hcame : ((Int.range first (h + 1)).filter (· ∈ t.numbers)).Perm t.numbers := by
    refine (List.perm_ext_iff_of_nodup (hnodup.filter _) ht.nodup).2 fun n => ?_
    rw [List.mem_filter, decide_eq_true_iff, Int.mem_range_iff]
    constructor
    · exact And.right
    · intro hn
      have hle := (List.max?_eq_some_iff.1 ht.follows.highest).2 n hn
      exact ⟨⟨ht.within n hn, by omega⟩, hn⟩
  have hsplit : (h + 1 - first).toNat = t.numbers.length + t.missing first :=
    calc (h + 1 - first).toNat
        = (Int.range first (h + 1)).length := by rw [Int.range, List.length_map, List.length_range]
      _ = ((Int.range first (h + 1)).filter (· ∈ t.numbers)).length +
          ((Int.range first (h + 1)).filter (· ∉ t.numbers)).length := by
        simp only [decide_not]
        exact List.length_eq_length_filter_add _
      _ = t.numbers.length + t.missing first := by
        rw [hcame.length_eq, missing, ht.follows.highest, Option.getD_some]
  have hsum := ht.sum
  have hreach := ht.reach
  have hlate := ht.late
  have hbounded := ht.bounded
  have hfirst := ht.le
  rw [ht.count, UInt32.toNat_ofNat', Nat.mod_eq_of_lt (by omega)]
  omega

/-! ### Late packets -/

theorem late_mono (t : Tracked) (arrivals : List Arrival) : t.late ≤ (exec (step S) t arrivals).late := by
  have hstep : ∀ (s : Tracked) a, t.late ≤ s.late → t.late ≤ (s.step S a).late := by
    intro s a h
    show t.late ≤ if s.Late a then s.late + 1 else s.late
    split_ifs <;> omega
  exact exec_preserves hstep le_rfl arrivals

theorem late_eq_iff (t : Tracked) (arrivals : List Arrival) :
    (exec (step S) t arrivals).late = t.late ↔ Along (step S) (fun t a => ¬ t.Late a) t arrivals := by
  induction arrivals generalizing t with
  | nil => exact iff_of_true rfl trivial
  | cons a arrivals ih =>
    have hmono := late_mono S (t.step S a) arrivals
    have hexec : exec (step S) t (a :: arrivals) = exec (step S) (t.step S a) arrivals := rfl
    rw [hexec, Along, ← ih]
    by_cases hlate : t.Late a
    · have hone : (t.step S a).late = t.late + 1 := if_pos hlate
      exact iff_of_false (by omega) fun h => h.1 hlate
    · have hsame : (t.step S a).late = t.late := if_neg hlate
      rw [hsame]
      exact (and_iff_right hlate).symm

/-- **Losses and late packets**: in every stream without late packets `packets_lost_` is the number missing; where late
packets come at most 32767 behind, it is that number only if there are none -/
theorem lost_iff (config : JitterBufferConfig) (first : Arrival) (rest : List Arrival)
    (hstream : Along (step S) (InStream S first.number) (start config) (first :: rest)) :
    let t := exec (step S) (start config) (first :: rest)
    let inOrder := Along (step S) (fun t a => ¬ t.Late a) (start config) (first :: rest)
    (inOrder → t.jb.packetsLost.toNat = t.missing first.number) ∧
      (Along (step S) InWindow (start config) (first :: rest) →
        t.jb.packetsLost.toNat = t.missing first.number → inOrder) := by
  intro t inOrder
  have hlost : Along (step S) InWindow (start config) (first :: rest) →
      t.jb.packetsLost.toNat = t.missing first.number + t.late := by
    intro hwindow
    obtain ⟨h, lost, ht⟩ : ∃ h lost, t.Tallied first.number h lost := by
      have hstep : ∀ (s : Tracked) a, (∃ h lost, s.Tallied first.number h lost) →
          s.InStream S first.number a ∧ s.InWindow a → ∃ h lost, (s.step S a).Tallied first.number h lost := by
        rintro s a ⟨h, lost, hs⟩ ⟨ha, hin⟩
        exact step_tallied S hs ha hin
      exact exec_inv hstep ⟨_, _, start_tallied S config hstream.1⟩ rest (along_and hstream.2 hwindow.2)
    exact ht.lost_eq
  have hzero : t.late = 0 ↔ inOrder := late_eq_iff S (start config) (first :: rest)
  constructor
  · intro horder
    have hwindow : Along (step S) InWindow (start config) (first :: rest) := by
      refine along_imp (fun s a hs h hh => ?_) (along_and hstream horder)
      have hjump := hs.1.jump h hh
      have hahead := (late_iff hh a).not.1 hs.2
      omega
    have hsum := hlost hwindow
    have hnone := hzero.2 horder
    omega
  · intro hwindow heq
    have hsum := hlost hwindow
    exact hzero.1 (by omega)

/-- packet 6 is lost -/
theorem lost_iff_gap :
    let t := exec (step (.insertion _)) (start {}) [numbered 5, numbered 7]
    let inOrder := Along (step (.insertion _)) (fun t a => ¬ t.Late a) (start {}) [numbered 5, numbered 7]
    (inOrder → t.jb.packetsLost.toNat = t.missing (numbered 5).number) ∧
      (Along (step (.insertion _)) InWindow (start {}) [numbered 5, numbered 7] →
        t.jb.packetsLost.toNat = t.missing (numbered 5).number → inOrder) :=
  lost_iff (.insertion _) {} (numbered 5) [numbered 7]
    ⟨⟨by decide, by decide, by decide, by decide +kernel⟩, ⟨by decide, by decide, by decide, by decide +kernel⟩,
      trivial⟩

/-- **A packet that comes late stays lost**: 0, 2, 1 -/
theorem late_packet_lost : ¬ ∀ (S : StdSort BufferItem.seq) (config : JitterBufferConfig) (first : Arrival)
    (rest : List Arrival), Along (step S) (InStream S first.number) (start config) (first :: rest) →
    let t := exec (step S) (start config) (first :: rest)
    t.jb.packetsLost.toNat = t.missing first.number := by
  intro h
  have hlost := h (.insertion _) {} (numbered 0) [numbered 2, numbered 1]
    ⟨⟨by decide, by decide, by decide, by decide +kernel⟩, ⟨by decide, by decide, by decide, by decide +kernel⟩,
      ⟨by decide, by decide, by decide, by decide +kernel⟩, trivial⟩
  revert hlost
  decide +kernel

end Tracked

end Rtcom
