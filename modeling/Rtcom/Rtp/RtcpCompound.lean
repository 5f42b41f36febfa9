/-
Well-formed RTCP compounds, and what `RtcpHandler::Parse` makes of them.

- `RtcpReportBlock.bytes`: a report block in network order. Loaded and converted by `Parse` it is the block itself
  but for `cumulative_lost`, whose outer bytes come back exchanged (`convert_load_bytes`).
- `SubPacket`, `encode`: a compound and its bytes; `compound_extracted_iff`: an RR's blocks are always extracted, an
  SR's exactly where its bytes repeat with a distance of 20, because blocks are read where the sender info starts.
- `data_buildReceiverReport`: the bytes `BuildReceiverReport` writes are those of an RR;
  `receiverReport_round_trip_iff`: parsing them returns the same blocks exactly where each `cumulative_lost` has its
  two outer bytes equal. The builder converts the field and the parser does not.
- `receiverReport_count_iff`: the count field has five bits and the buffer grows with the list, so more than 31 blocks
  are written and announced modulo 32.
-/
import Mathlib.Tactic
import Rtcom.Rtp.RtcpParse

namespace Rtcom

open Access Words RtcpHandler

/-! ## Report blocks in network order -/

namespace RtcpReportBlock

/-- the block's 24 bytes in a report -/
def bytes (b : RtcpReportBlock) : List UInt8 :=
  be32 b.ssrc ++ [b.fractionLost] ++ be24 b.cumulativeLost ++ be32 b.highestSeqnum ++ be32 b.interarrivalJitter ++
    be32 b.lastSr ++ be32 b.delaySinceLastSr

@[simp] theorem length_bytes (b : RtcpReportBlock) : b.bytes.length = 24 := rfl

/-- the struct over 24 bytes depends on no other byte -/
theorem load_congr {m m' : List UInt8} (h : ∀ j, j < 24 → m.getD j default = m'.getD j default) : load m = load m' := by
  simp (disch := decide) only [load, h]

/-- a block in network order, loaded and converted: `cumulative_lost` comes back with its outer bytes exchanged -/
theorem convert_load_bytes (b : RtcpReportBlock) (rest : List UInt8) :
    (load (b.bytes ++ rest)).convert = { b with cumulativeLost := byteSwap24 b.cumulativeLost } := by
  simp only [load, convert, bytes, be32, be24, List.cons_append, List.nil_append, List.getD_cons_succ,
    List.getD_cons_zero, ntohl_load32_be, byteSwap24]

/-- the fields of a block other than `cumulative_lost` -/
def fields (b : RtcpReportBlock) : UInt32 × UInt8 × UInt32 × UInt32 × UInt32 × UInt32 :=
  (b.ssrc, b.fractionLost, b.highestSeqnum, b.interarrivalJitter, b.lastSr, b.delaySinceLastSr)

/-- the fields of two loaded blocks agree exactly when their bytes do, `cumulative_lost` apart -/
theorem fields_load_iff (m m' : List UInt8) : (load m).convert.fields = (load m').convert.fields ↔
    ∀ j, j < 24 → j ∉ [5, 6, 7] → m.getD j default = m'.getD j default := by
  constructor
  · intro h
    simp only [fields, convert, load, ntohl, Prod.mk.injEq, byteSwap32_load32] at h
    obtain ⟨h0, h4, h8, h12, h16, h20⟩ := h
    obtain ⟨a3, a2, a1, a0⟩ := load32_inj h0
    obtain ⟨b3, b2, b1, b0⟩ := load32_inj h8
    obtain ⟨c3, c2, c1, c0⟩ := load32_inj h12
    obtain ⟨d3, d2, d1, d0⟩ := load32_inj h16
    obtain ⟨e3, e2, e1, e0⟩ := load32_inj h20
    intro j hj hn
    interval_cases j <;> first | assumption | simp at hn
  · intro h
    simp (disch := decide) only [fields, convert, load, h]

/-- the block at an offset, from the bytes there on -/
theorem blockAt_eq (bs : List UInt8) (k : ℕ) : blockAt bs k = (load (bs.drop k)).convert := by
  refine congrArg convert (load_congr fun j hj => ?_)
  rw [List.getD_eq_getElem?_getD, List.getElem?_take_of_lt hj, ← List.getD_eq_getElem?_getD]

/-- a block as it comes back from its own bytes -/
def parsed (b : RtcpReportBlock) : RtcpReportBlock := { b with cumulativeLost := byteSwap24 b.cumulativeLost }

@[simp] theorem fields_parsed (b : RtcpReportBlock) : b.parsed.fields = b.fields := rfl

theorem parsed_eq_self (b : RtcpReportBlock) :
    b.parsed = b ↔ byteOf b.cumulativeLost 0 = byteOf b.cumulativeLost 2 := by
  rw [← byteSwap24_eq_self]
  constructor
  · intro h
    exact congrArg cumulativeLost h
  · intro h
    rw [parsed, h]

theorem length_flatMap_bytes (blocks : List RtcpReportBlock) : (blocks.flatMap bytes).length = blocks.length * 24 := by
  induction blocks with
  | nil => rfl
  | cons b bs ih =>
    rw [List.flatMap_cons, List.length_append, ih, length_bytes, List.length_cons]
    omega

/-- consecutive blocks, read one by one -/
theorem map_blockAt (pre : List UInt8) (blocks : List RtcpReportBlock) :
    ((List.range blocks.length).map fun i =>
      blockAt (pre ++ blocks.flatMap bytes) (pre.length + i * 24)) = blocks.map parsed := by
  induction blocks generalizing pre with
  | nil => rfl
  | cons b bs ih =>
    rw [List.length_cons, List.range_succ_eq_map, List.map_cons, List.map_map, List.map_cons, Nat.zero_mul,
      blockAt_eq, List.drop_length_add_append, List.drop_zero, List.flatMap_cons, convert_load_bytes,
      ← ih (pre ++ b.bytes)]
    refine congrArg _ (List.map_congr_left fun i _ => ?_)
    simp only [Function.comp, List.append_assoc, List.length_append, length_bytes, Nat.succ_mul]
    congr 1
    omega

end RtcpReportBlock

/-! ## Well-formed compounds -/

/-- the sender info of an SR -/
structure SenderInfo where
  ntpSeconds : UInt32
  ntpFraction : UInt32
  rtpTimestamp : UInt32
  packetCount : UInt32
  octetCount : UInt32

def SenderInfo.bytes (i : SenderInfo) : List UInt8 :=
  be32 i.ntpSeconds ++ be32 i.ntpFraction ++ be32 i.rtpTimestamp ++ be32 i.packetCount ++ be32 i.octetCount

/-- a sub-packet of a compound: an SR or RR with its report blocks, or a packet of any other type -/
inductive SubPacket where
  | sr (ssrc : UInt32) (info : SenderInfo) (blocks : List RtcpReportBlock) (count : blocks.length ≤ 31)
  | rr (ssrc : UInt32) (blocks : List RtcpReportBlock) (count : blocks.length ≤ 31)
  | other (padding : Bool) (count : BitVec 5) (packetType : UInt8) (body : List UInt32)
      (type : isReport packetType = false) (size : body.length < 65536)

namespace SubPacket

def octet0 (padding : Bool) (count : BitVec 5) : UInt8 := ⟨(2 : BitVec 2) ++ BitVec.ofBool padding ++ count⟩

/-- the first word: the length does not count it -/
def header (padding : Bool) (count : BitVec 5) (packetType : UInt8) (words : ℕ) : List UInt8 :=
  octet0 padding count :: packetType :: be16 (UInt16.ofNat words)

def bytes : SubPacket → List UInt8
  | .sr ssrc info blocks _ => header false (BitVec.ofNat 5 blocks.length) 200 (6 + blocks.length * 6) ++
      (be32 ssrc ++ info.bytes) ++ blocks.flatMap RtcpReportBlock.bytes
  | .rr ssrc blocks _ => header false (BitVec.ofNat 5 blocks.length) 201 (1 + blocks.length * 6) ++
      be32 ssrc ++ blocks.flatMap RtcpReportBlock.bytes
  | .other padding count packetType body _ _ => header padding count packetType body.length ++ body.flatMap be32

/-- the report blocks a sub-packet carries -/
def blocks : SubPacket → List RtcpReportBlock
  | .sr _ _ blocks _ => blocks
  | .rr _ blocks _ => blocks
  | .other .. => []

/-- the bytes of an SR repeat with a distance of 20 from offset 8 on, as far as its blocks go and but for the three of
`cumulative_lost` -/
def Aligned : SubPacket → Prop
  | .sr ssrc info blocks count => ∀ i, i < blocks.length → ∀ j, j < 24 → j ∉ [5, 6, 7] →
      (sr ssrc info blocks count).bytes.getD (8 + i * 24 + j) default =
        (sr ssrc info blocks count).bytes.getD (28 + i * 24 + j) default
  | _ => True

theorem octet0_count (padding : Bool) (count : BitVec 5) : (octet0 padding count &&& 0x1F).toNat = count.toNat := by
  revert padding count
  decide

/-- a header and as many words as it announces are a frame -/
theorem whole_of_length (padding : Bool) (count : BitVec 5) (packetType : UInt8) {words : ℕ} (hw : words < 65536)
    {rest : List UInt8} (hr : rest.length = words * 4) :
    framing.Whole (header padding count packetType words ++ rest) := by
  simp only [Framing.Whole, framing, header, be16, pktLen, shift_or_eq_load16,
    List.cons_append, List.nil_append, List.getD_cons_succ, List.getD_cons_zero, load16_store16, UInt16.toNat_ofNat',
    List.length_cons, hr]
  omega

theorem whole (p : SubPacket) : framing.Whole p.bytes := by
  cases p with
  | sr ssrc info blocks count =>
    rw [bytes, List.append_assoc]
    apply whole_of_length _ _ _ (by omega)
    simp only [List.length_append, length_be32, SenderInfo.bytes, RtcpReportBlock.length_flatMap_bytes]
    omega
  | rr ssrc blocks count =>
    rw [bytes, List.append_assoc]
    apply whole_of_length _ _ _ (by omega)
    simp only [List.length_append, length_be32, RtcpReportBlock.length_flatMap_bytes]
    omega
  | other padding count packetType body type size =>
    exact whole_of_length _ _ _ size (length_flatMap_be32 body)

/-- a report long enough for its blocks yields as many as it announces, read from offset 8 on -/
theorem frameBlocks_report {packetType : UInt8} (hr : isReport packetType) (words : ℕ) {n : ℕ} (hn : n ≤ 31)
    {rest : List UInt8} (hrest : 4 + n * 24 ≤ rest.length) :
    frameBlocks (header false (BitVec.ofNat 5 n) packetType words ++ rest) =
      (List.range n).map fun i => blockAt (header false (BitVec.ofNat 5 n) packetType words ++ rest) (8 + i * 24) := by
  have hrc : ((header false (BitVec.ofNat 5 n) packetType words ++ rest).getD 0 default &&& 0x1F).toNat = n := by
    simp only [header, List.cons_append, List.getD_cons_zero, octet0_count, BitVec.toNat_ofNat]
    omega
  have hlen : (header false (BitVec.ofNat 5 n) packetType words ++ rest).length = rest.length + 4 := by
    rw [List.length_append, Nat.add_comm]
    rfl
  have htype : isReport (RtcpHandler.packetType (header false (BitVec.ofNat 5 n) packetType words ++ rest)) := hr
  rw [frameBlocks, if_pos htype, hrc, hlen, show min n ((rest.length + 4 - 8) / 24) = n by omega]

theorem frameBlocks_sr (ssrc : UInt32) (info : SenderInfo) (blocks : List RtcpReportBlock)
    (count : blocks.length ≤ 31) : frameBlocks (sr ssrc info blocks count).bytes =
      (List.range blocks.length).map fun i => blockAt (sr ssrc info blocks count).bytes (8 + i * 24) := by
  rw [bytes, List.append_assoc]
  apply frameBlocks_report rfl _ count
  simp only [List.length_append, length_be32, SenderInfo.bytes, RtcpReportBlock.length_flatMap_bytes]
  omega

theorem frameBlocks_rr (ssrc : UInt32) (blocks : List RtcpReportBlock) (count : blocks.length ≤ 31) :
    frameBlocks (rr ssrc blocks count).bytes = blocks.map RtcpReportBlock.parsed := by
  have h8 := RtcpReportBlock.map_blockAt
    (header false (BitVec.ofNat 5 blocks.length) 201 (1 + blocks.length * 6) ++ be32 ssrc) blocks
  rw [← h8, bytes, List.append_assoc, frameBlocks_report rfl _ count]
  · rfl
  · simp only [List.length_append, length_be32, RtcpReportBlock.length_flatMap_bytes]
    omega

theorem frameBlocks_other (padding : Bool) (count : BitVec 5) (packetType : UInt8) (body : List UInt32)
    (type : isReport packetType = false) (size : body.length < 65536) :
    frameBlocks (other padding count packetType body type size).bytes = [] := by
  rw [frameBlocks, if_neg]
  show ¬ isReport packetType = true
  simp [type]

theorem length_frameBlocks (p : SubPacket) : (frameBlocks p.bytes).length = p.blocks.length := by
  cases p with
  | sr ssrc info blocks count => rw [frameBlocks_sr, List.length_map, List.length_range]; rfl
  | rr ssrc blocks count => rw [frameBlocks_rr, List.length_map]; rfl
  | other padding count packetType body type size => rw [frameBlocks_other]; rfl

/-- the blocks of an SR start at offset 28 -/
theorem fields_sr (ssrc : UInt32) (info : SenderInfo) (blocks : List RtcpReportBlock) (count : blocks.length ≤ 31) :
    blocks.map RtcpReportBlock.fields = (List.range blocks.length).map fun i =>
      (blockAt (sr ssrc info blocks count).bytes (28 + i * 24)).fields := by
  have h28 := RtcpReportBlock.map_blockAt
    (header false (BitVec.ofNat 5 blocks.length) 200 (6 + blocks.length * 6) ++ (be32 ssrc ++ info.bytes)) blocks
  have hf := congrArg (List.map RtcpReportBlock.fields) h28
  rw [List.map_map, List.map_map] at hf
  exact hf.symm

/-- which sub-packets `Parse` takes the right blocks from -/
theorem frameBlocks_fields_iff (p : SubPacket) :
    (frameBlocks p.bytes).map RtcpReportBlock.fields = p.blocks.map RtcpReportBlock.fields ↔ p.Aligned := by
  cases p with
  | sr ssrc info blocks count =>
    rw [frameBlocks_sr, List.map_map, show (sr ssrc info blocks count).blocks = blocks from rfl,
      fields_sr ssrc info blocks count, List.map_inj_left]
    simp only [List.mem_range, Function.comp, RtcpReportBlock.blockAt_eq, RtcpReportBlock.fields_load_iff, Aligned,
      List.getD_eq_getElem?_getD, List.getElem?_drop]
  | rr ssrc blocks count => simp [frameBlocks_rr, SubPacket.blocks, Aligned, Function.comp_def]
  | other padding count packetType body type size => simp [frameBlocks_other, SubPacket.blocks, Aligned]

end SubPacket

/-! ## Parsing a compound -/

namespace Compound

/-- the bytes of a compound -/
def encode (ps : List SubPacket) : List UInt8 := (ps.map SubPacket.bytes).flatten

theorem split_encode (ps : List SubPacket) : framing.split (encode ps) = (ps.map SubPacket.bytes, []) := by
  have hwhole : ∀ f ∈ ps.map SubPacket.bytes, framing.Whole f := by
    intro f hf
    obtain ⟨p, -, rfl⟩ := List.mem_map.1 hf
    exact p.whole
  have h := Framing.split_frames hwhole []
  rwa [Framing.split_nil, List.append_nil, List.append_nil] at h

/-- the blocks of every SR and RR, in order, were appended, `cumulative_lost` apart -/
def Extracted (ps : List SubPacket) (old : List RtcpReportBlock) (out : RtcpParsed) : Prop :=
  ∃ new, out.blocks = old ++ new ∧ out.count = new.length ∧
    new.map RtcpReportBlock.fields = (ps.flatMap SubPacket.blocks).map RtcpReportBlock.fields

/-- lists put together from parts of equal lengths are equal exactly when the parts are -/
theorem flatMap_eq_flatMap_iff {α β : Type} {f g : α → List β} (h : ∀ a, (f a).length = (g a).length) (l : List α) :
    l.flatMap f = l.flatMap g ↔ ∀ a ∈ l, f a = g a := by
  induction l with
  | nil => simp
  | cons a l ih =>
    simp only [List.flatMap_cons, List.forall_mem_cons, ← ih]
    constructor
    · intro heq
      exact List.append_inj heq (h a)
    · intro hboth
      rcases hboth with ⟨h1, h2⟩
      rw [h1, h2]

theorem extracted_iff (ps : List SubPacket) (old : List RtcpReportBlock) (reporterSsrc : UInt32) :
    Extracted ps old (parse (encode ps) old reporterSsrc).val ↔
      ∀ p ∈ ps, (frameBlocks p.bytes).map RtcpReportBlock.fields = p.blocks.map RtcpReportBlock.fields := by
  obtain ⟨hblocks, hcount⟩ := parse_blocks (encode ps) old reporterSsrc
  rw [split_encode, List.flatMap_map] at hblocks hcount
  rw [← flatMap_eq_flatMap_iff fun p => by rw [List.length_map, List.length_map, p.length_frameBlocks],
    ← List.map_flatMap, ← List.map_flatMap]
  constructor
  · intro hnew
    rcases hnew with ⟨new, h1, -, h3⟩
    rw [hblocks] at h1
    rwa [List.append_cancel_left h1]
  · intro h
    exact ⟨_, hblocks, hcount, h⟩

/-- **Which compounds `Parse` reads right**: those whose SRs repeat their bytes where their blocks are looked for -/
theorem compound_extracted_iff (ps : List SubPacket) (old : List RtcpReportBlock) (reporterSsrc : UInt32) :
    Extracted ps old (parse (encode ps) old reporterSsrc).val ↔ ∀ p ∈ ps, p.Aligned := by
  rw [extracted_iff]
  exact forall₂_congr fun p _ => p.frameBlocks_fields_iff

/-- **The block of an SR is not the one decoded**: an SR with a block on source 7 and an NTP timestamp of 1 -/
theorem sr_block_misread : ¬ ∀ (ps : List SubPacket) (old : List RtcpReportBlock) (reporterSsrc : UInt32),
    Extracted ps old (parse (encode ps) old reporterSsrc).val := by
  intro h
  have hx := (extracted_iff _ _ _).1 (h [.sr 1 ⟨1, 0, 0, 0, 0⟩ [⟨7, 0, 0, 0, 0, 0, 0⟩] (by decide)] [] 0)
  have h1 := hx _ List.mem_cons_self
  revert h1
  decide

end Compound

/-! ## Receiver reports -/

namespace RtcpHandler

/-- the assignments through `rb` write the block in network order -/
theorem writeBlock_eq (packet : Buf UInt8) (offset : ℕ) (b : RtcpReportBlock) :
    writeBlock packet offset b = packet.copy offset b.bytes := by
  have hlost : store24 (((htonl ⟨b.cumulativeLost.setWidth 32⟩ >>> 8).toBitVec).setWidth 24) =
      be24 b.cumulativeLost := by
    rw [htonl, byteSwap32_shift_eq_byteSwap24, store24_byteSwap24]
  have hset : ∀ (p : Buf UInt8) (k : ℕ) (v : UInt8), p.set k v = p.copy k [v] := fun _ _ _ => rfl
  rw [writeBlock, hlost]
  simp only [htonl, store32_byteSwap32, hset, RtcpReportBlock.bytes, ← Buf.copy_copy, List.length_append, length_be32,
    length_be24, List.length_singleton]

theorem data_writeBlocks {packet : Buf UInt8} {pre : List UInt8} {i : ℕ} (blocks : List RtcpReportBlock)
    (hpre : pre.length = 8 + i * 24) (hdata : packet.data = pre ++ List.replicate (blocks.length * 24) 0) :
    (writeBlocks packet i blocks).data = pre ++ blocks.flatMap RtcpReportBlock.bytes := by
  induction blocks generalizing packet pre i with
  | nil => simpa [writeBlocks] using hdata
  | cons b bs ih =>
    have hrep : List.replicate ((b :: bs).length * 24) (0 : UInt8) =
        List.replicate 24 0 ++ List.replicate (bs.length * 24) 0 := by
      rw [List.replicate_append_replicate, List.length_cons, Nat.succ_mul, Nat.add_comm]
    rw [hrep, ← List.append_assoc] at hdata
    have hcopy : (packet.copy pre.length b.bytes).data = pre ++ b.bytes ++ List.replicate (bs.length * 24) 0 :=
      Buf.copy_data hdata (by simp)
    have hnext : (pre ++ b.bytes).length = 8 + (i + 1) * 24 := by
      rw [List.length_append, RtcpReportBlock.length_bytes]
      omega
    rw [writeBlocks, writeBlock_eq, ← hpre, ih hnext hcopy, List.flatMap_cons, List.append_assoc]

theorem ofNat_five_mod (n : ℕ) : BitVec.ofNat 5 n = BitVec.ofNat 5 (n % 32) := by
  apply BitVec.eq_of_toNat_eq
  rw [BitVec.toNat_ofNat, BitVec.toNat_ofNat, Nat.mod_mod]

/-- the first byte for any number of blocks: five bits are left of it -/
theorem octet0_masked (n : ℕ) :
    (kRtpVersion <<< 6) ||| UInt8.ofNat (n &&& 0x1F) = SubPacket.octet0 false (BitVec.ofNat 5 n) := by
  have hbits : ∀ k, k < 32 → (kRtpVersion <<< 6) ||| UInt8.ofNat k = SubPacket.octet0 false (BitVec.ofNat 5 k) := by
    decide
  rw [Nat.and_two_pow_sub_one_eq_mod n 5, ofNat_five_mod]
  exact hbits (n % 32) (Nat.mod_lt n (by decide))

/-- **What `BuildReceiverReport` writes**, for any number of blocks -/
theorem data_buildReceiverReport_masked (r : RtcpHandler) (blocks : List RtcpReportBlock) :
    (buildReceiverReport r blocks).data =
      SubPacket.header false (BitVec.ofNat 5 blocks.length) 201 (1 + blocks.length * 6) ++ be32 r.ssrc ++
        blocks.flatMap RtcpReportBlock.bytes := by
  set header := SubPacket.header false (BitVec.ofNat 5 blocks.length) 201 (1 + blocks.length * 6) with hheader
  set start := (Buf.alloc (8 + blocks.length * 24) (0 : UInt8)).copy 0 (header ++ be32 r.ssrc) with hstart
  have hdata : start.data = header ++ be32 r.ssrc ++ List.replicate (blocks.length * 24) 0 := by
    refine @Buf.copy_data _ _ [] (List.replicate 8 0) _ _ ?_ rfl
    rw [List.nil_append, List.replicate_append_replicate]
    rfl
  have hbuild : buildReceiverReport r blocks = writeBlocks start 0 blocks := by
    rw [buildReceiverReport, octet0_masked, shift_mask_eq_byteOf, mask_eq_byteOf, htonl, store32_byteSwap32,
      show (8 + blocks.length * 24) / 4 - 1 = 1 + blocks.length * 6 by omega, hstart, hheader]
    rfl
  rw [hbuild, data_writeBlocks blocks rfl hdata]

/-- up to 31 blocks, it is an RR -/
theorem data_buildReceiverReport (r : RtcpHandler) (blocks : List RtcpReportBlock) (count : blocks.length ≤ 31) :
    (buildReceiverReport r blocks).data = (SubPacket.rr r.ssrc blocks count).bytes :=
  data_buildReceiverReport_masked r blocks

/-- a compound of a single report: its SSRC and its blocks -/
theorem val_parse_report {f : List UInt8} (hwhole : framing.Whole f) (hlen : 8 ≤ f.length)
    (htype : isReport (packetType f)) (old : List RtcpReportBlock) (reporterSsrc : UInt32) :
    (parse f old reporterSsrc).val = ⟨(frameBlocks f).length, old ++ frameBlocks f, reporter f⟩ := by
  have hstep := parseFrom_frame [] [] ⟨0, old, reporterSsrc⟩ hwhole
  rw [(parseFrom_rest ([] ++ f) [] _ (framing.size_pos [])).1] at hstep
  simp only [List.nil_append, List.append_nil, List.length_nil] at hstep
  rw [parse, if_neg (by omega), hstep, frameOut, List.append_nil, if_pos htype, Nat.zero_add]

theorem val_parse_rr (ssrc : UInt32) (blocks old : List RtcpReportBlock) (count : blocks.length ≤ 31)
    (reporterSsrc : UInt32) : (parse (SubPacket.rr ssrc blocks count).bytes old reporterSsrc).val =
      ⟨blocks.length, old ++ blocks.map RtcpReportBlock.parsed, ssrc⟩ := by
  have hlen : 8 ≤ (SubPacket.rr ssrc blocks count).bytes.length := by
    rw [SubPacket.bytes, SubPacket.header]
    simp only [List.length_append, List.length_cons, length_be16, length_be32]
    omega
  have hreporter : reporter (SubPacket.rr ssrc blocks count).bytes = ssrc := ntohl_load32_be ssrc
  rw [val_parse_report (SubPacket.whole _) hlen rfl, hreporter, SubPacket.frameBlocks_rr, List.length_map]

/-- **Which report blocks survive building and parsing**: those whose `cumulative_lost` reads the same both ways -/
theorem receiverReport_round_trip_iff (r : RtcpHandler) (blocks old : List RtcpReportBlock) (reporterSsrc : UInt32)
    (count : blocks.length ≤ 31) :
    (parse (buildReceiverReport r blocks).data old reporterSsrc).val = ⟨blocks.length, old ++ blocks, r.ssrc⟩ ↔
      ∀ b ∈ blocks, byteOf b.cumulativeLost 0 = byteOf b.cumulativeLost 2 := by
  rw [data_buildReceiverReport r blocks count, val_parse_rr]
  simp only [RtcpParsed.mk.injEq, true_and, and_true, List.append_cancel_left_eq]
  conv_lhs => rw [← List.map_id blocks, List.map_map, List.map_inj_left]
  exact forall₂_congr fun b _ => b.parsed_eq_self

/-- a block that lost 65537 packets -/
theorem receiverReport_round_trip_iff_one :
    (parse (buildReceiverReport ⟨1⟩ [⟨7, 3, 65537, 9, 4, 5, 6⟩]).data [] 0).val =
      ⟨1, [] ++ [⟨7, 3, 65537, 9, 4, 5, 6⟩], 1⟩ ↔
    ∀ b ∈ [(⟨7, 3, 65537, 9, 4, 5, 6⟩ : RtcpReportBlock)],
      byteOf b.cumulativeLost 0 = byteOf b.cumulativeLost 2 :=
  receiverReport_round_trip_iff ⟨1⟩ [⟨7, 3, 65537, 9, 4, 5, 6⟩] [] 0 (by decide)

/-- **A count of lost packets comes back wrong**: 1 as 65536 -/
theorem cumulative_lost_misread : ¬ ∀ (r : RtcpHandler) (blocks old : List RtcpReportBlock) (reporterSsrc : UInt32),
    blocks.length ≤ 31 →
    (parse (buildReceiverReport r blocks).data old reporterSsrc).val = ⟨blocks.length, old ++ blocks, r.ssrc⟩ := by
  intro h
  have h1 := h ⟨1⟩ [⟨7, 0, 1, 0, 0, 0, 0⟩] [] 0 (by decide)
  rw [data_buildReceiverReport _ _ (by decide), val_parse_rr] at h1
  revert h1
  decide

/-! ## The report count -/

/-- the count field: the blocks modulo 32 -/
theorem count_buildReceiverReport (r : RtcpHandler) (blocks : List RtcpReportBlock) :
    ((buildReceiverReport r blocks).data.getD 0 default &&& 0x1F).toNat = blocks.length % 32 := by
  rw [data_buildReceiverReport_masked]
  simp only [SubPacket.header, List.cons_append, List.getD_cons_zero, SubPacket.octet0_count, BitVec.toNat_ofNat]

theorem length_buildReceiverReport (r : RtcpHandler) (blocks : List RtcpReportBlock) :
    (buildReceiverReport r blocks).data.length = 8 + blocks.length * 24 := by
  rw [data_buildReceiverReport_masked, List.length_append, RtcpReportBlock.length_flatMap_bytes]
  rfl

/-- `Parse` takes as many blocks as the count field says -/
theorem count_parse_buildReceiverReport (r : RtcpHandler) (blocks old : List RtcpReportBlock) (reporterSsrc : UInt32)
    (hwords : (buildReceiverReport r blocks).data.length < 4 * 65536) :
    (parse (buildReceiverReport r blocks).data old reporterSsrc).val.count = blocks.length % 32 := by
  have hlen := length_buildReceiverReport r blocks
  have hbody : (be32 r.ssrc ++ blocks.flatMap RtcpReportBlock.bytes).length = (1 + blocks.length * 6) * 4 := by
    rw [List.length_append, length_be32, RtcpReportBlock.length_flatMap_bytes]
    omega
  have hdata := data_buildReceiverReport_masked r blocks
  rw [List.append_assoc, ofNat_five_mod] at hdata
  have hwhole : framing.Whole (buildReceiverReport r blocks).data := by
    rw [hdata]
    exact SubPacket.whole_of_length _ _ _ (by omega) hbody
  have htype : isReport (packetType (buildReceiverReport r blocks).data) := by
    rw [hdata]
    rfl
  have hblocks : (frameBlocks (buildReceiverReport r blocks).data).length = blocks.length % 32 := by
    rw [hdata, SubPacket.frameBlocks_report rfl _ (by omega) (by omega), List.length_map, List.length_range]
  rw [val_parse_report hwhole (by omega) htype, hblocks]

/-- **Which reports announce all their blocks**: those of at most 31, however many a packet of 65536 words holds -/
theorem receiverReport_count_iff (r : RtcpHandler) (blocks old : List RtcpReportBlock) (reporterSsrc : UInt32)
    (hwords : (buildReceiverReport r blocks).data.length < 4 * 65536) :
    ((buildReceiverReport r blocks).data.getD 0 default &&& 0x1F).toNat = blocks.length ∧
        (parse (buildReceiverReport r blocks).data old reporterSsrc).val.count = blocks.length ↔
      blocks.length ≤ 31 := by
  rw [count_buildReceiverReport, count_parse_buildReceiverReport r blocks old reporterSsrc hwords]
  constructor
  · intro h
    obtain ⟨h, -⟩ := h
    omega
  · intro h
    exact ⟨by omega, by omega⟩

theorem receiverReport_count_iff_one :
    ((buildReceiverReport ⟨1⟩ [⟨7, 0, 0, 9, 4, 5, 6⟩]).data.getD 0 default &&& 0x1F).toNat = 1 ∧
        (parse (buildReceiverReport ⟨1⟩ [⟨7, 0, 0, 9, 4, 5, 6⟩]).data [] 0).val.count = 1 ↔
      1 ≤ 31 :=
  receiverReport_count_iff ⟨1⟩ [⟨7, 0, 0, 9, 4, 5, 6⟩] [] 0 (by rw [length_buildReceiverReport]; decide)

/-- **32 blocks are announced as none** -/
theorem report_count_wraps : ¬ ∀ (r : RtcpHandler) (blocks old : List RtcpReportBlock) (reporterSsrc : UInt32),
    (buildReceiverReport r blocks).data.length < 4 * 65536 →
    ((buildReceiverReport r blocks).data.getD 0 default &&& 0x1F).toNat = blocks.length ∧
      (parse (buildReceiverReport r blocks).data old reporterSsrc).val.count = blocks.length := by
  intro h
  have hlen : (buildReceiverReport ⟨1⟩ (List.replicate 32 ⟨7, 0, 0, 9, 4, 5, 6⟩)).data.length < 4 * 65536 := by
    rw [length_buildReceiverReport, List.length_replicate]
    decide
  obtain ⟨hcount, -⟩ := h ⟨1⟩ (List.replicate 32 ⟨7, 0, 0, 9, 4, 5, 6⟩) [] 0 hlen
  rw [count_buildReceiverReport, List.length_replicate] at hcount
  revert hcount
  decide

end RtcpHandler

end Rtcom
