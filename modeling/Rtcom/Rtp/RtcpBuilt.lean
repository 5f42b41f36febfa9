/-
What `BuildSenderReport`, `BuildSdes` and `BuildCompound` of `RtcpHandler` write, as a reader of RTCP finds it.

- `buildSenderReport_eq`: an SR without blocks, its NTP timestamp with the halves exchanged: the words are converted one
  by one and then put together for a big-endian host. `senderReport_iff`: for which timestamps this is the same.
- `data_buildSdes`: the bytes of `BuildSdes`, cut off where the vector ends. `readSdes` follows RFC 3550, section 6.5;
  where all bytes fit, it finds the name and no octet behind it (`sdes_never_terminated`), because the size leaves out
  the SSRC and has no room for what it counts.
- `compound_walk`: the two packets of `BuildCompound` fit together, and `Parse` reads the SSRC and nothing else.
-/
import Mathlib.Tactic
import Rtcom.Rtp.RtcpCompound

namespace Rtcom

open Access Words

namespace RtcpHandler

/-! ## The sender report -/

def ntpSeconds (ntpTs : UInt64) : UInt32 := (ntpTs >>> 32).toUInt32

def ntpFraction (ntpTs : UInt64) : UInt32 := ntpTs.toUInt32

/-- an SR without report blocks -/
def senderReport (ssrc : UInt32) (info : SenderInfo) : SubPacket := .sr ssrc info [] (Nat.zero_le 31)

theorem buildSenderReport_eq (r : RtcpHandler) (ntpTs : UInt64) (rtpTs packetCount octetCount : UInt32) :
    r.buildSenderReport ntpTs rtpTs packetCount octetCount =
      (senderReport r.ssrc ⟨ntpFraction ntpTs, ntpSeconds ntpTs, rtpTs, packetCount, octetCount⟩).bytes := by
  have hmask : (ntpTs &&& 0xFFFFFFFF).toUInt32 = ntpFraction ntpTs := by
    have hones : (0xFFFFFFFF : UInt64).toUInt32 = -1 := rfl
    rw [UInt64.toUInt32_and, hones, UInt32.and_neg_one, ntpFraction]
  rw [buildSenderReport, hmask]
  simp only [htonl, htons, store64_shift_or, store32_byteSwap32, store16_byteSwap16, List.append_assoc]
  rfl

theorem be32_inj {x y : UInt32} (h : be32 x = be32 y) : x = y := by
  simp only [be32, List.cons.injEq, and_true] at h
  obtain ⟨h3, h2, h1, h0⟩ := h
  rw [← load32_store32 x, ← load32_store32 y, h0, h1, h2, h3]

/-- the first word of the sender info follows the SSRC -/
theorem ntpSeconds_of_bytes {ssrc : UInt32} {info info' : SenderInfo}
    (h : (senderReport ssrc info).bytes = (senderReport ssrc info').bytes) : info.ntpSeconds = info'.ntpSeconds := by
  simp only [senderReport, SubPacket.bytes, SenderInfo.bytes, List.append_assoc, List.append_cancel_left_eq] at h
  exact be32_inj (List.append_inj_left h rfl)

/-- **When the sender report is the one RFC 3550 describes**: the two words of the timestamp are equal -/
theorem senderReport_iff (r : RtcpHandler) (ntpTs : UInt64) (rtpTs packetCount octetCount : UInt32) :
    r.buildSenderReport ntpTs rtpTs packetCount octetCount =
        (senderReport r.ssrc ⟨ntpSeconds ntpTs, ntpFraction ntpTs, rtpTs, packetCount, octetCount⟩).bytes ↔
      ntpSeconds ntpTs = ntpFraction ntpTs := by
  rw [buildSenderReport_eq]
  constructor
  · intro h
    exact (ntpSeconds_of_bytes h).symm
  · intro h
    rw [h]

/-- **The fraction comes first**: a timestamp of one second -/
theorem ntp_halves_exchanged : ¬ ∀ (r : RtcpHandler) (ntpTs : UInt64) (rtpTs packetCount octetCount : UInt32),
    r.buildSenderReport ntpTs rtpTs packetCount octetCount =
      (senderReport r.ssrc ⟨ntpSeconds ntpTs, ntpFraction ntpTs, rtpTs, packetCount, octetCount⟩).bytes := by
  intro h
  have hone := ntpSeconds_of_bytes ((buildSenderReport_eq _ _ _ _ _).symm.trans (h ⟨7⟩ 0x100000000 0 0 0))
  revert hone
  decide

/-! ## The source description -/

/-- the length word `BuildSdes` writes -/
def sdesWords (cname : List UInt8) : ℕ := (1 + 1 + 1 + cname.length + 4 + 3) / 4 - 1

/-- the packet behind its first word, as `BuildSdes` writes it -/
def sdesBody (r : RtcpHandler) (cname : List UInt8) : List UInt8 :=
  be32 r.ssrc ++ [1, UInt8.ofNat cname.length] ++ cname

theorem length_sdesBody (r : RtcpHandler) (cname : List UInt8) : (sdesBody r cname).length = 6 + cname.length := by
  simp only [sdesBody, List.length_append, length_be32, List.length_cons, List.length_nil]

/-- the writes of `BuildSdes`, in one -/
theorem buildSdes_eq (r : RtcpHandler) (cname : List UInt8) :
    buildSdes r cname = (Buf.alloc ((sdesWords cname + 1) * 4) 0).copy 0
      (SubPacket.header false 1 202 (sdesWords cname) ++ sdesBody r cname) := by
  have hsize : (4 + (1 + 1 + 1 + cname.length) + 3) / 4 * 4 = (sdesWords cname + 1) * 4 := by
    unfold sdesWords
    omega
  have hwords : (4 + (1 + 1 + 1 + cname.length) + 3) / 4 * 4 / 4 - 1 = sdesWords cname := by
    unfold sdesWords
    omega
  have hversion : (kRtpVersion <<< 6) ||| 1 = SubPacket.octet0 false 1 := rfl
  rw [buildSdes, htonl, store32_byteSwap32, shift_mask_eq_byteOf, mask_eq_byteOf, hwords, hsize, hversion]
  simp only [SubPacket.header, sdesBody, be16, be32, List.cons_append, List.nil_append, Buf.copy]

/-- **What `BuildSdes` writes**, as far as the vector reaches -/
theorem data_buildSdes (r : RtcpHandler) (cname : List UInt8) :
    (buildSdes r cname).data =
      SubPacket.header false 1 202 (sdesWords cname) ++ (sdesBody r cname).take (sdesWords cname * 4) := by
  set header := SubPacket.header false 1 202 (sdesWords cname) with hheader
  have hlen : header.length = 4 := rfl
  have hle : (sdesWords cname + 1) * 4 ≤ (header ++ sdesBody r cname).length := by
    rw [List.length_append, length_sdesBody, hlen]
    unfold sdesWords
    omega
  rw [buildSdes_eq, Buf.copy_data_start, Buf.length_alloc, List.take_append_of_le_length hle, List.take_append, hlen,
    List.take_of_length_le (by rw [hlen]; omega)]
  congr 2
  omega

/-- the packet is whole, and its length word is the one written -/
theorem whole_buildSdes (r : RtcpHandler) {cname : List UInt8} (hlen : cname.length ≤ 255) :
    framing.Whole (buildSdes r cname).data := by
  rw [data_buildSdes]
  apply SubPacket.whole_of_length
  · unfold sdesWords
    omega
  · rw [List.length_take, length_sdesBody]
    unfold sdesWords
    omega

/-- what a reader finds in an SDES packet of one chunk: the items, and whether a zero octet ends them -/
structure SdesChunk where
  ssrc : UInt32
  items : List (UInt8 × List UInt8)
  ended : Bool
deriving DecidableEq, Repr

/-- the items of a chunk, each a type, a length and a text, up to the octet that ends them -/
def readItems : List UInt8 → List (UInt8 × List UInt8) × Bool
  | [] => ([], false)
  | 0 :: _ => ([], true)
  | [_] => ([], false)
  | type :: len :: rest =>
    if len.toNat ≤ rest.length then
      let (items, ended) := readItems (rest.drop len.toNat)
      ((type, rest.take len.toNat) :: items, ended)
    else ([], false)
termination_by bs => bs.length

/-- an SDES packet with one chunk and no padding, read as RFC 3550 describes it -/
def readSdes (packet : List UInt8) : Option SdesChunk :=
  if packet.getD 0 default = SubPacket.octet0 false 1 ∧ packetType packet = 202 ∧ 8 ≤ framing.size packet ∧
      framing.size packet ≤ packet.length then
    let chunk := (packet.take (framing.size packet)).drop 4
    let (items, ended) := readItems (chunk.drop 4)
    some ⟨reporter packet, items, ended⟩
  else none

theorem readItems_item {type len : UInt8} {text : List UInt8} (htype : type ≠ 0) (hlen : len.toNat = text.length)
    (rest : List UInt8) :
    readItems (type :: len :: (text ++ rest)) = ((type, text) :: (readItems rest).1, (readItems rest).2) := by
  rw [readItems]
  · rw [if_pos (by rw [hlen, List.length_append]; omega), hlen, List.drop_left, List.take_left]
  · exact htype

/-- where the vector holds the name, the reader finds it, and no octet behind it -/
theorem readSdes_buildSdes (r : RtcpHandler) {cname : List UInt8} (hlen : cname.length ≤ 255)
    (hfits : (buildSdes r cname).InBounds) :
    readSdes (buildSdes r cname).data = some ⟨r.ssrc, [(1, cname)], false⟩ := by
  have hroom := (inBounds_buildSdes r cname).1 hfits
  have hwhole := whole_buildSdes r hlen
  set packet := (buildSdes r cname).data with hpacket
  have hdata : packet = SubPacket.header false 1 202 (sdesWords cname) ++ sdesBody r cname := by
    rw [hpacket, data_buildSdes, List.take_of_length_le]
    rw [length_sdesBody]
    unfold sdesWords
    omega
  have hsize : framing.size packet = packet.length := hwhole
  have hlength : packet.length = 10 + cname.length := by
    rw [hdata, List.length_append, length_sdesBody]
    show 4 + _ = _
    omega
  have hreporter : reporter packet = r.ssrc := by
    rw [hdata]
    exact ntohl_load32_be r.ssrc
  have hitems : readItems ((packet.drop 4).drop 4) = ([(1, cname)], false) := by
    have hone : (UInt8.ofNat cname.length).toNat = cname.length := by
      rw [UInt8.toNat_ofNat']
      omega
    have hdrop : (packet.drop 4).drop 4 = 1 :: UInt8.ofNat cname.length :: (cname ++ []) := by
      rw [hdata, List.append_nil]
      rfl
    rw [hdrop, readItems_item (by decide) hone, readItems]
  have hfirst : packet.getD 0 default = SubPacket.octet0 false 1 ∧ packetType packet = 202 := by
    rw [hdata]
    exact ⟨rfl, rfl⟩
  rw [readSdes, if_pos ⟨hfirst.1, hfirst.2, by omega, by omega⟩]
  simp only [hsize, List.take_length, hitems, hreporter]

/-- **No description of the source is ended**: a name the vector holds fills it to its end -/
theorem sdes_never_terminated (r : RtcpHandler) (cname : List UInt8) (hlen : cname.length ≤ 255)
    (hfits : (buildSdes r cname).InBounds) :
    readSdes (buildSdes r cname).data ≠ some ⟨r.ssrc, [(1, cname)], true⟩ := by
  rw [readSdes_buildSdes r hlen hfits]
  simp

theorem sdes_never_terminated_two :
    readSdes (buildSdes ⟨7⟩ [97, 98]).data ≠ some ⟨7, [(1, [97, 98])], true⟩ :=
  sdes_never_terminated ⟨7⟩ [97, 98] (by decide) ((inBounds_buildSdes _ _).2 (by decide))

/-- **The octet that ends the chunk is missing**: behind the name "ab" -/
theorem sdes_end_missing : ¬ ∀ (r : RtcpHandler) (cname : List UInt8), 1 ≤ cname.length → cname.length ≤ 255 →
    0 ∉ cname → (buildSdes r cname).InBounds →
    readSdes (buildSdes r cname).data = some ⟨r.ssrc, [(1, cname)], true⟩ := by
  intro h
  have hfits : (buildSdes ⟨7⟩ [97, 98]).InBounds := (inBounds_buildSdes _ _).2 (by decide)
  have hended := h ⟨7⟩ [97, 98] (by decide) (by decide) (by decide) hfits
  rw [readSdes_buildSdes _ (by decide) hfits] at hended
  revert hended
  decide

/-! ## The compound -/

theorem split_buildCompound (r : RtcpHandler) {cname : List UInt8} (hlen : cname.length ≤ 255) (ntpTs : UInt64)
    (rtpTs packetCount octetCount : UInt32) :
    framing.split (r.buildCompound cname ntpTs rtpTs packetCount octetCount) =
      ([r.buildSenderReport ntpTs rtpTs packetCount octetCount, (buildSdes r cname).data], []) := by
  have hreport : framing.Whole (r.buildSenderReport ntpTs rtpTs packetCount octetCount) := by
    rw [buildSenderReport_eq]
    exact SubPacket.whole _
  have hwhole : ∀ f ∈ [r.buildSenderReport ntpTs rtpTs packetCount octetCount, (buildSdes r cname).data],
      framing.Whole f := by
    rw [List.forall_mem_cons, List.forall_mem_singleton]
    exact ⟨hreport, whole_buildSdes r hlen⟩
  have hsplit := Framing.split_frames hwhole []
  rwa [List.append_nil, Framing.split_nil, List.append_nil, List.flatten_cons, List.flatten_cons, List.flatten_nil,
    List.append_nil] at hsplit

theorem packetType_buildSdes (r : RtcpHandler) (cname : List UInt8) : packetType (buildSdes r cname).data = 202 := by
  rw [data_buildSdes]
  rfl

/-- **The compound as `Parse` walks over it**: an SR and an SDES packet that end with the buffer. It returns 0, appends
no block and finds the SSRC. -/
theorem compound_walk (r : RtcpHandler) (cname : List UInt8) (hlen : cname.length ≤ 255) (ntpTs : UInt64)
    (rtpTs packetCount octetCount : UInt32) (old : List RtcpReportBlock) (reporterSsrc : UInt32) :
    let compound := r.buildCompound cname ntpTs rtpTs packetCount octetCount
    (framing.split compound).1.map packetType = [200, 202] ∧ (framing.split compound).2 = [] ∧
      (parse compound old reporterSsrc).val = ⟨0, old, r.ssrc⟩ := by
  intro compound
  have hsplit := split_buildCompound r hlen ntpTs rtpTs packetCount octetCount
  have hwhole := whole_buildSdes r hlen
  have htype := packetType_buildSdes r cname
  rw [show framing.split compound = _ from hsplit, List.map_cons, List.map_cons, List.map_nil, htype]
  refine ⟨rfl, rfl, ?_⟩
  simp only [compound, buildCompound, buildSenderReport_eq]
  set report := senderReport r.ssrc ⟨ntpFraction ntpTs, ntpSeconds ntpTs, rtpTs, packetCount, octetCount⟩
  set sdes := (buildSdes r cname).data
  set out : RtcpParsed := ⟨0, old, reporterSsrc⟩
  -- the loop takes the report, then the description, then ends
  have hfirst := parseFrom_frame [] sdes out (f := report.bytes) (SubPacket.whole _)
  have hsecond := parseFrom_frame report.bytes [] (frameOut out report.bytes sdes) hwhole
  have hend := (parseFrom_rest (report.bytes ++ sdes) [] (frameOut (frameOut out report.bytes sdes) sdes [])
    (framing.size_pos [])).1
  have hreporter : reporter (report.bytes ++ sdes) = r.ssrc := ntohl_load32_be r.ssrc
  have hblocks : frameBlocks report.bytes = [] := SubPacket.frameBlocks_sr _ _ _ _
  have hnot : ¬ isReport (packetType sdes) := by
    rw [htype]
    decide
  simp only [List.nil_append, List.append_nil, List.length_nil] at hfirst hsecond hend
  have hlong : ¬ (report.bytes ++ sdes).length < 8 := by
    have h28 : report.bytes.length = 28 := rfl
    rw [List.length_append, h28]
    omega
  rw [parse, if_neg hlong, hfirst, hsecond, hend, frameOut_of_not_report _ _ _ hnot, frameOut, hblocks, hreporter,
    if_pos (show isReport (packetType report.bytes) from rfl), List.append_nil]
  rfl

/-- the name of eleven bytes loses its last three -/
theorem compound_walk_eleven :
    let compound := (⟨43981⟩ : RtcpHandler).buildCompound (List.replicate 11 120) 0x100000000 2000 500 100000
    (framing.split compound).1.map packetType = [200, 202] ∧ (framing.split compound).2 = [] ∧
      (parse compound [] 0).val = ⟨0, [], 43981⟩ :=
  compound_walk ⟨43981⟩ (List.replicate 11 120) (by decide) 0x100000000 2000 500 100000 [] 0

end RtcpHandler

end Rtcom
