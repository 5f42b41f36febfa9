/-
What `RtcpHandler::Parse` reads and returns, frame by frame. The length words cut a compound into sub-packets
(`framing`); `Parse` walks over exactly these (`parseFrom_frame`, `parseFrom_rest`), so its blocks are those of the
single frames.

- `parse_within_iff`: every index read is inside the datagram unless it ends with an SR or RR whose length word is 0 and
  whose SSRC is cut off (`ShortReport`). The SSRC read is the only one without a check of its own.
- `parse_blocks`: the blocks appended, and their count, are those of the whole sub-packets the data starts with.
- `parse_append`: a tail, cut off or not, changes nothing of the sub-packets before it; `parse_bounded`: a datagram
  pays for each block with 24 bytes.
-/
import Mathlib.Tactic
import Rtcom.Lib.Framing
import Rtcom.Rtp.Rtcp

namespace Rtcom

open Access Words

namespace RtcpHandler

/-! ## Sub-packets as frames -/

/-- the frames of a compound: four header bytes, the last two of which give the length in words, less one -/
def framing : Framing UInt8 where
  header := 4
  size bs := ((pktLen (bs.getD 2 default) (bs.getD 3 default)).toNat + 1) * 4
  header_pos := by omega
  header_le bs := by omega
  size_append bs cs h := by rw [List.getD_append _ _ _ _ (by omega), List.getD_append _ _ _ _ (by omega)]

/-- the packet type of the frame at the front -/
def packetType (bs : List UInt8) : UInt8 := bs.getD 1 default

/-- the reporter's SSRC as `Parse` reads it at the front -/
def reporter (bs : List UInt8) : UInt32 :=
  ntohl (load32 (bs.getD 4 default) (bs.getD 5 default) (bs.getD 6 default) (bs.getD 7 default))

/-- the block at offset k -/
def blockAt (bs : List UInt8) (k : ℕ) : RtcpReportBlock := (RtcpReportBlock.load ((bs.drop k).take 24)).convert

/-- the blocks `Parse` takes from a frame: as many as announced, as far as they fit behind eight bytes -/
def frameBlocks (f : List UInt8) : List RtcpReportBlock :=
  if isReport (packetType f) then
    (List.range (min (f.getD 0 default &&& 0x1F).toNat ((f.length - 8) / 24))).map fun i => blockAt f (8 + i * 24)
  else []

theorem four_le_length {f : List UInt8} (hf : framing.Whole f) : 4 ≤ f.length := by
  rw [← show framing.size f = f.length from hf]
  exact framing.header_le f

/-! ## One frame -/

theorem val_parseBlocks (pre f post : List UInt8) (n k : ℕ) (out : RtcpParsed) :
    (parseBlocks (pre ++ (f ++ post)) (pre.length + f.length) n (pre.length + k) out).val =
      { out with
        blocks := out.blocks ++ (List.range (min n ((f.length - k) / 24))).map fun i => blockAt f (k + i * 24)
        count := out.count + min n ((f.length - k) / 24) } := by
  induction n generalizing k out with
  | zero => simp [parseBlocks]
  | succ n ih =>
    unfold parseBlocks
    by_cases h : k + 24 ≤ f.length
    · set m := min n ((f.length - (k + 24)) / 24) with hm
      have hmin : min (n + 1) ((f.length - k) / 24) = m + 1 := by omega
      have hblocks : ((List.range (m + 1)).map fun i => blockAt f (k + i * 24)) =
          blockAt f k :: (List.range m).map fun i => blockAt f (k + 24 + i * 24) := by
        rw [List.range_succ_eq_map, List.map_cons, List.map_map, Nat.zero_mul, Nat.add_zero]
        refine congrArg _ (List.map_congr_left fun i _ => ?_)
        simp only [Function.comp, show k + 24 + i * 24 = k + i.succ * 24 by omega]
      rw [if_pos (by omega), hmin, hblocks]
      simp only [Reads.val_bind, Reads.val_slice, List.drop_length_add_append, take_drop_append f post k 24 h,
        Nat.add_assoc pre.length, ih (k + 24), blockAt, List.append_assoc, List.singleton_append, ← hm,
        Nat.add_assoc out.count, Nat.add_comm 1]
    · rw [if_neg (by omega), show (f.length - k) / 24 = 0 by omega]
      simp

theorem within_parseBlocks (data : List UInt8) (pktEnd n rbOffset : ℕ) (out : RtcpParsed)
    (h : pktEnd ≤ data.length) : Reads.Within data.length (parseBlocks data pktEnd n rbOffset out) := by
  induction n generalizing rbOffset out with
  | zero => simp [parseBlocks]
  | succ n ih =>
    unfold parseBlocks
    split_ifs with hrb
    · simp only [Reads.within_bind, Reads.within_slice]
      exact ⟨Or.inr (by omega), ih _ _⟩
    · simp

/-- the result after the frame f, with post behind it -/
def frameOut (out : RtcpParsed) (f post : List UInt8) : RtcpParsed where
  count := out.count + (frameBlocks f).length
  blocks := out.blocks ++ frameBlocks f
  reporterSsrc := if isReport (packetType f) then reporter (f ++ post) else out.reporterSsrc

theorem frameOut_of_not_report (f post : List UInt8) (out : RtcpParsed) (h : ¬ isReport (packetType f)) :
    frameOut out f post = out := by
  simp [frameOut, frameBlocks, h]

section Frame

variable {f : List UInt8} (pre post : List UInt8) (out : RtcpParsed)

theorem val_parseReport (hf : framing.Whole f) (hr : isReport (packetType f)) :
    (parseReport (pre ++ (f ++ post)) pre.length f.length out).val = frameOut out f post := by
  have h4 := four_le_length hf
  have hrc : (pre ++ (f ++ post)).getD pre.length default = f.getD 0 default := by
    rw [← Nat.add_zero pre.length, getD_at, List.getD_append _ _ _ _ (by omega)]
  have hword : ∀ i, i < 4 → (((pre ++ (f ++ post)).drop (pre.length + 4)).take 4).getD i default =
      (f ++ post).getD (4 + i) default := by
    intro i hi
    rw [List.drop_length_add_append, getD_take_drop _ _ _ _ hi]
  simp only [parseReport, Reads.val_bind, Reads.val_slice, Reads.val_elem, hrc, hword 0 (by omega),
    hword 1 (by omega), hword 2 (by omega), hword 3 (by omega), val_parseBlocks, frameOut, frameBlocks, hr, if_true,
    List.length_map, List.length_range, reporter]

theorem within_parseReport :
    Reads.Within (pre ++ (f ++ post)).length (parseReport (pre ++ (f ++ post)) pre.length f.length out) ↔
      8 ≤ f.length + post.length := by
  simp only [parseReport, Reads.within_bind, Reads.within_slice, Reads.within_elem, List.length_append]
  constructor
  · intro hheader
    rcases hheader with ⟨h, -, -⟩
    omega
  · intro h
    refine ⟨Or.inr (by omega), by omega, ?_⟩
    rw [← List.length_append, ← List.length_append]
    exact within_parseBlocks _ _ _ _ _ (by simp only [List.length_append]; omega)

/-- the bytes the loop looks at first, where a frame is known -/
theorem header_at (hf : framing.Whole f) :
    (pre ++ (f ++ post)).getD (pre.length + 1) default = packetType f ∧
      ((pktLen ((pre ++ (f ++ post)).getD (pre.length + 2) default)
        ((pre ++ (f ++ post)).getD (pre.length + 3) default)).toNat + 1) * 4 = f.length := by
  have h4 := four_le_length hf
  refine ⟨by rw [getD_at, List.getD_append _ _ _ _ (by omega), packetType], ?_⟩
  rw [getD_at, getD_at, List.getD_append _ _ _ _ (by omega), List.getD_append _ _ _ _ (by omega)]
  exact hf

/-- **One iteration of the loop**: a whole frame is taken, and the loop goes on behind it -/
theorem parseFrom_frame (hf : framing.Whole f) :
    (parseFrom (pre ++ (f ++ post)) pre.length out).val =
      (parseFrom (pre ++ f ++ post) (pre ++ f).length (frameOut out f post)).val := by
  obtain ⟨hpt, hsize⟩ := header_at pre post hf
  have h4 := four_le_length hf
  rw [parseFrom, if_pos (by simp only [List.length_append]; omega)]
  simp only [Reads.val_bind, Reads.val_elem, hpt, hsize]
  rw [if_neg (by simp only [List.length_append]; omega), List.append_assoc, List.length_append]
  split_ifs with hr
  · rw [Reads.val_bind, val_parseReport pre post out hf hr]
  · rw [Reads.val_bind, Reads.val_pure, frameOut_of_not_report f post out hr]

theorem within_parseFrom_frame (hf : framing.Whole f) :
    Reads.Within (pre ++ (f ++ post)).length (parseFrom (pre ++ (f ++ post)) pre.length out) ↔
      (isReport (packetType f) → 8 ≤ f.length + post.length) ∧
        Reads.Within (pre ++ f ++ post).length
          (parseFrom (pre ++ f ++ post) (pre ++ f).length (frameOut out f post)) := by
  obtain ⟨hpt, hsize⟩ := header_at pre post hf
  have h4 := four_le_length hf
  have hlen : (pre ++ (f ++ post)).length = pre.length + (f.length + post.length) := by
    simp only [List.length_append]
  have hreport : Reads.Within _ (parseReport _ _ f.length _) ↔ _ := within_parseReport pre post out
  rw [List.append_assoc, show (pre ++ f).length = pre.length + f.length from List.length_append]
  conv_lhs => rw [parseFrom, if_pos (by omega)]
  simp only [Reads.within_bind, Reads.within_elem, Reads.val_elem, hpt, hsize]
  rw [if_neg (by omega)]
  generalize (pre ++ (f ++ post)).length = n at *
  have hhead : pre.length + 1 < n ∧ pre.length + 2 < n ∧ pre.length + 3 < n := ⟨by omega, by omega, by omega⟩
  split_ifs with hr
  · rw [Reads.within_bind, hreport, val_parseReport pre post out hf hr]
    simp only [hhead, hr, true_and, forall_const]
  · rw [Reads.within_bind, Reads.val_pure, frameOut_of_not_report f post out hr]
    simp only [hhead, hr, Reads.within_pure, true_and, Bool.false_eq_true, false_implies]

end Frame

/-- the loop ends where no whole frame follows -/
theorem parseFrom_rest (pre bs : List UInt8) (out : RtcpParsed) (h : bs.length < framing.size bs) :
    (parseFrom (pre ++ bs) pre.length out).val = out ∧
      Reads.Within (pre ++ bs).length (parseFrom (pre ++ bs) pre.length out) := by
  have hsize : bs.length < ((pktLen (bs.getD 2 default) (bs.getD 3 default)).toNat + 1) * 4 := h
  unfold parseFrom
  split_ifs with h4
  · rw [List.length_append] at h4
    simp only [Reads.val_bind, Reads.val_elem, Reads.within_bind, Reads.within_elem, getD_at, List.length_append]
    rw [if_pos (by omega)]
    exact ⟨rfl, by omega, by omega, by omega, Reads.within_pure _ _⟩
  · exact ⟨rfl, Reads.within_pure _ _⟩

/-! ## Indices read -/

/-- the data ends, after whole sub-packets, with an SR or RR of one word whose SSRC is not all there -/
def ShortReport (data : List UInt8) : Prop :=
  ∃ a b, data = a ++ b ∧ framing.Tiled a ∧ 4 ≤ b.length ∧ b.length < 8 ∧ isReport (packetType b) ∧ framing.size b = 4

theorem not_shortReport_rest {bs : List UInt8} (h : bs.length < framing.size bs) : ¬ ShortReport bs := by
  intro hframed
  rcases hframed with ⟨a, b, rfl, ⟨fs, hfs, rfl⟩, hb4, -, -, hb⟩
  rcases fs with _ | ⟨f, fs⟩
  · simp only [List.flatten_nil, List.nil_append] at h
    omega
  · rw [List.flatten_cons, List.append_assoc, (hfs f List.mem_cons_self).size_append, List.length_append] at h
    omega

theorem packetType_append {f : List UInt8} (hf : framing.Whole f) (post : List UInt8) :
    packetType (f ++ post) = packetType f := by
  have h4 := four_le_length hf
  exact List.getD_append _ _ _ _ (by omega)

theorem shortReport_frame {f : List UInt8} (hf : framing.Whole f) (bs : List UInt8) :
    ShortReport (f ++ bs) ↔ (isReport (packetType f) ∧ f.length + bs.length < 8) ∨ ShortReport bs := by
  have h4 := four_le_length hf
  constructor
  · intro hsplit
    rcases hsplit with ⟨a, b, hab, ha, hb⟩
    rcases Framing.tiled_append_eq ha hf hab.symm with rfl | ⟨a', ha', rfl, hbs⟩
    · rw [List.nil_append] at hab
      rw [← hab, packetType_append hf, List.length_append] at hb
      exact Or.inl ⟨hb.2.2.1, hb.2.1⟩
    · exact Or.inr ⟨a', b, hbs.symm, ha', hb⟩
  · intro hcases
    rcases hcases with ⟨hr, h8⟩ | ⟨a, b, rfl, ha, hb⟩
    · have hsize : f.length = ((pktLen (f.getD 2 default) (f.getD 3 default)).toNat + 1) * 4 := hf.symm
      refine ⟨[], f ++ bs, rfl, Framing.tiled_nil, ?_⟩
      rw [hf.size_append, packetType_append hf, List.length_append]
      exact ⟨by omega, h8, hr, by omega⟩
    · exact ⟨f ++ a, b, (List.append_assoc _ _ _).symm, ha.frame_append hf, hb⟩

theorem within_parseFrom (pre bs : List UInt8) (out : RtcpParsed) :
    Reads.Within (pre ++ bs).length (parseFrom (pre ++ bs) pre.length out) ↔ ¬ ShortReport bs := by
  induction bs using framing.split_induction generalizing pre out with
  | rest bs h => simp only [(parseFrom_rest pre bs out h).2, not_shortReport_rest h, not_false_eq_true]
  | frame f bs hf ih =>
    rw [within_parseFrom_frame pre bs out hf, ih, shortReport_frame hf, not_or, not_and, Nat.not_lt]

/-- **When `Parse` reads inside the datagram**: unless it ends with a report cut off before its SSRC -/
theorem parse_within_iff (data : List UInt8) (blocks : List RtcpReportBlock) (reporterSsrc : UInt32) :
    Reads.Within data.length (parse data blocks reporterSsrc) ↔ data.length < 8 ∨ ¬ ShortReport data := by
  unfold parse
  split_ifs with h
  · simp only [Reads.within_pure, h, true_or]
  · simp only [h, false_or]
    exact within_parseFrom [] data _

/-- **A compound can end with a report whose SSRC is not there**: a four-byte BYE and a four-byte RR -/
theorem ssrc_read_past_end : ¬ ∀ (data : List UInt8) (blocks : List RtcpReportBlock) (reporterSsrc : UInt32),
    Reads.Within data.length (parse data blocks reporterSsrc) := by
  intro h
  have hw := h [0x80, 203, 0, 0, 0x80, 201, 0, 0] [] 0
  rw [parse, if_neg (by decide)] at hw
  refine (within_parseFrom [] _ _).1 hw ⟨[0x80, 203, 0, 0], [0x80, 201, 0, 0], rfl, ?_, by decide⟩
  exact ⟨[[0x80, 203, 0, 0]], by decide, rfl⟩

/-! ## Blocks -/

/-- **The blocks `Parse` appends** are those of the whole sub-packets, one by one -/
theorem parseFrom_blocks (pre bs : List UInt8) (out : RtcpParsed) :
    let new := (framing.split bs).1.flatMap frameBlocks
    (parseFrom (pre ++ bs) pre.length out).val.blocks = out.blocks ++ new ∧
      (parseFrom (pre ++ bs) pre.length out).val.count = out.count + new.length := by
  induction bs using framing.split_induction generalizing pre out with
  | rest bs h => simp [(parseFrom_rest pre bs out h).1, Framing.split_of_lt h]
  | frame f bs hf ih =>
    obtain ⟨h1, h2⟩ := ih (pre ++ f) (frameOut out f bs)
    rw [parseFrom_frame pre bs out hf, h1, h2, Framing.split_append hf]
    simp only [List.flatMap_cons, frameOut, List.append_assoc, List.length_append, Nat.add_assoc, and_self]

theorem frameBlocks_of_lt {f : List UInt8} (h : f.length < 8) : frameBlocks f = [] := by
  rw [frameBlocks, show (f.length - 8) / 24 = 0 by omega]
  simp

theorem parse_blocks (data : List UInt8) (blocks : List RtcpReportBlock) (reporterSsrc : UInt32) :
    let new := (framing.split data).1.flatMap frameBlocks
    (parse data blocks reporterSsrc).val.blocks = blocks ++ new ∧
      (parse data blocks reporterSsrc).val.count = new.length := by
  unfold parse
  split_ifs with h8
  · -- a datagram too short to be looked at holds no block
    have hnil : (framing.split data).1.flatMap frameBlocks = [] := by
      rw [List.flatMap_eq_nil_iff]
      intro f hf
      have hlen := congrArg List.length (framing.split_spec data).1
      have hle := (List.sublist_flatten_of_mem hf).length_le
      rw [List.length_append] at hlen
      exact frameBlocks_of_lt (by omega)
    simp [hnil]
  · have hb := parseFrom_blocks [] data ⟨0, blocks, reporterSsrc⟩
    simpa using hb

/-- **What follows whole sub-packets changes nothing of them**: the blocks of both parts are appended, one after the
other -/
theorem parse_append {a : List UInt8} (ha : framing.Tiled a) (b : List UInt8) (old oldA oldB : List RtcpReportBlock)
    (s sA sB : UInt32) : ∃ newA newB,
      (parse a oldA sA).val.blocks = oldA ++ newA ∧ (parse b oldB sB).val.blocks = oldB ++ newB ∧
        (parse (a ++ b) old s).val.blocks = old ++ (newA ++ newB) ∧
        (parse (a ++ b) old s).val.count = (parse a oldA sA).val.count + (parse b oldB sB).val.count := by
  obtain ⟨fs, hfs, rfl⟩ := ha
  obtain ⟨hblocksA, hcountA⟩ := parse_blocks fs.flatten oldA sA
  obtain ⟨hblocksB, hcountB⟩ := parse_blocks b oldB sB
  obtain ⟨hblocks, hcount⟩ := parse_blocks (fs.flatten ++ b) old s
  have hsplitA := Framing.split_frames hfs []
  rw [List.append_nil, Framing.split_nil, List.append_nil] at hsplitA
  rw [hsplitA] at hblocksA hcountA
  rw [Framing.split_frames hfs b, List.flatMap_append] at hblocks hcount
  refine ⟨_, _, hblocksA, hblocksB, hblocks, ?_⟩
  rw [hcount, hcountA, hcountB, List.length_append]

/-- a receiver report with one block -/
def oneBlock : List UInt8 := [0x81, 201, 0, 7] ++ List.replicate 28 1

/-- a tail that is cut off behind its header -/
theorem parse_append_oneBlock : ∃ newA newB,
    (parse oneBlock [] 0).val.blocks = [] ++ newA ∧ (parse [0x80, 203, 0, 1] [] 0).val.blocks = [] ++ newB ∧
      (parse (oneBlock ++ [0x80, 203, 0, 1]) [] 0).val.blocks = [] ++ (newA ++ newB) ∧
      (parse (oneBlock ++ [0x80, 203, 0, 1]) [] 0).val.count =
        (parse oneBlock [] 0).val.count + (parse [0x80, 203, 0, 1] [] 0).val.count := by
  have htiled : framing.Tiled oneBlock := ⟨[oneBlock], by decide, rfl⟩
  exact parse_append htiled [0x80, 203, 0, 1] [] [] [] 0 0 0

/-! ## Bounds -/

/-- the sub-packets that yield a block -/
def yielding (fs : List (List UInt8)) : List (List UInt8) := fs.filter fun f => !(frameBlocks f).isEmpty

/-- a frame pays for its blocks, and for eight bytes in front of them -/
theorem length_frameBlocks_le (f : List UInt8) :
    24 * (frameBlocks f).length + (if (frameBlocks f).isEmpty then 0 else 8) ≤ f.length := by
  by_cases hempty : (frameBlocks f).isEmpty = true
  · rw [if_pos hempty, List.isEmpty_iff.1 hempty]
    simp
  · rw [if_neg hempty]
    have hpos : 0 < (frameBlocks f).length := by
      rw [List.isEmpty_iff] at hempty
      exact List.length_pos_of_ne_nil hempty
    unfold frameBlocks at hpos ⊢
    split_ifs at hpos ⊢
    · rw [List.length_map, List.length_range] at hpos ⊢
      omega
    · simp at hpos

theorem length_blocks_le (fs : List (List UInt8)) :
    24 * (fs.flatMap frameBlocks).length + 8 * (yielding fs).length ≤ fs.flatten.length := by
  induction fs with
  | nil => simp [yielding]
  | cons f fs ih =>
    have hf := length_frameBlocks_le f
    rw [yielding] at ih
    rw [List.flatMap_cons, yielding, List.filter_cons, List.length_append, List.flatten_cons, List.length_append]
    by_cases hempty : (frameBlocks f).isEmpty = true
    · simp only [hempty, Bool.not_true, Bool.false_eq_true, if_false, if_true] at hf ⊢
      omega
    · rw [Bool.not_eq_true] at hempty
      simp only [hempty, Bool.not_false, if_true, Bool.false_eq_true, if_false, List.length_cons] at hf ⊢
      omega

/-- the loop goes through at most a quarter of the bytes -/
theorem length_split_le (data : List UInt8) : 4 * (framing.split data).1.length ≤ data.length := by
  obtain ⟨hjoin, hwhole, -⟩ := framing.split_spec data
  have hframes : ∀ fs : List (List UInt8), (∀ f ∈ fs, framing.Whole f) → 4 * fs.length ≤ fs.flatten.length := by
    intro fs hfs
    induction fs with
    | nil => simp
    | cons f fs ih =>
      have h4 := four_le_length (hfs f List.mem_cons_self)
      have hrest := ih fun g hg => hfs g (List.mem_cons_of_mem f hg)
      rw [List.length_cons, List.flatten_cons, List.length_append]
      omega
  have hlen := congrArg List.length hjoin
  have hle := hframes _ hwhole
  rw [List.length_append] at hlen
  omega

/-- **What `Parse` can append is bounded by what it is given**: 24 bytes for each block, and eight more for each
sub-packet that yields one. The vector keeps its blocks, and the loop takes at least four bytes each time. -/
theorem parse_bounded (data : List UInt8) (blocks : List RtcpReportBlock) (reporterSsrc : UInt32) : ∃ new,
    (parse data blocks reporterSsrc).val.blocks = blocks ++ new ∧
      (parse data blocks reporterSsrc).val.count = new.length ∧
      24 * (parse data blocks reporterSsrc).val.count + 8 * (yielding (framing.split data).1).length ≤ data.length ∧
      4 * (framing.split data).1.length ≤ data.length := by
  obtain ⟨hblocks, hcount⟩ := parse_blocks data blocks reporterSsrc
  refine ⟨_, hblocks, hcount, ?_, length_split_le data⟩
  have hlen := congrArg List.length (framing.split_spec data).1
  have hle := length_blocks_le (framing.split data).1
  rw [List.length_append] at hlen
  rw [hcount]
  omega

end RtcpHandler

end Rtcom
