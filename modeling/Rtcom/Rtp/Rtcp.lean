/-
`RtcpHandler` of `src/rtp/rtcp_handler.{h,cpp}`: `BuildReceiverReport` and `BuildSdes` as writes into a vector of the
size the code computes, `BuildCompound`, and `Parse` as a `Reads` program over the compound. A report block is the
packed struct of `types.h`, its `cumulative_lost` a 24-bit field.

`sdes_inBounds_iff` says for which canonical names `BuildSdes` stays inside the vector it allocates: those whose length
is 2 modulo 4. The size adds up header, item header and name but not the SSRC word, so only the rounding to whole words
can make up for the missing bytes.
-/
import Mathlib.Tactic
import Rtcom.Lib.Access
import Rtcom.Common.Types

namespace Rtcom

open Access Words

/-! ## Report blocks -/

structure RtcpReportBlock where
  ssrc : UInt32
  fractionLost : UInt8
  cumulativeLost : BitVec 24
  highestSeqnum : UInt32
  interarrivalJitter : UInt32
  lastSr : UInt32
  delaySinceLastSr : UInt32
deriving DecidableEq, Repr

namespace RtcpReportBlock

/-- the struct over 24 bytes of memory -/
def load (m : List UInt8) : RtcpReportBlock :=
  let b (i : ℕ) : UInt8 := m.getD i default
  { ssrc := load32 (b 0) (b 1) (b 2) (b 3)
    fractionLost := b 4
    cumulativeLost := load24 (b 5) (b 6) (b 7)
    highestSeqnum := load32 (b 8) (b 9) (b 10) (b 11)
    interarrivalJitter := load32 (b 12) (b 13) (b 14) (b 15)
    lastSr := load32 (b 16) (b 17) (b 18) (b 19)
    delaySinceLastSr := load32 (b 20) (b 21) (b 22) (b 23) }

/-- `Parse`, the conversions of a block's fields; `cumulative_lost` has none -/
def convert (b : RtcpReportBlock) : RtcpReportBlock :=
  { b with
    ssrc := ntohl b.ssrc
    highestSeqnum := ntohl b.highestSeqnum
    interarrivalJitter := ntohl b.interarrivalJitter
    lastSr := ntohl b.lastSr
    delaySinceLastSr := ntohl b.delaySinceLastSr }

end RtcpReportBlock

/-! ## Builders -/

structure RtcpHandler where
  ssrc : UInt32
deriving DecidableEq, Repr

namespace RtcpHandler

/-- `BuildReceiverReport`, the assignments through `rb` -/
def writeBlock (packet : Buf UInt8) (offset : ℕ) (b : RtcpReportBlock) : Buf UInt8 :=
  let packet := packet.copy offset (store32 (htonl b.ssrc))
  let packet := packet.set (offset + 4) b.fractionLost
  let packet := packet.copy (offset + 5)
    (store24 (((htonl ⟨b.cumulativeLost.setWidth 32⟩ >>> 8).toBitVec).setWidth 24))
  let packet := packet.copy (offset + 8) (store32 (htonl b.highestSeqnum))
  let packet := packet.copy (offset + 12) (store32 (htonl b.interarrivalJitter))
  let packet := packet.copy (offset + 16) (store32 (htonl b.lastSr))
  packet.copy (offset + 20) (store32 (htonl b.delaySinceLastSr))

/-- `BuildReceiverReport`, the loop from block i on -/
def writeBlocks (packet : Buf UInt8) (i : ℕ) : List RtcpReportBlock → Buf UInt8
  | [] => packet
  | b :: bs => writeBlocks (writeBlock packet (8 + i * 24) b) (i + 1) bs

def buildReceiverReport (r : RtcpHandler) (blocks : List RtcpReportBlock) : Buf UInt8 :=
  let total := 8 + blocks.length * 24
  let packet := Buf.alloc total (0 : UInt8)
  let packet := packet.set 0 ((kRtpVersion <<< 6) ||| UInt8.ofNat (blocks.length &&& 0x1F))
  let packet := packet.set 1 201
  let len := UInt16.ofNat (total / 4 - 1)
  let packet := packet.set 2 ((len >>> 8) &&& 0xFF).toUInt8
  let packet := packet.set 3 (len &&& 0xFF).toUInt8
  let packet := packet.copy 4 (store32 (htonl r.ssrc))
  writeBlocks packet 0 blocks

def buildSdes (r : RtcpHandler) (cname : List UInt8) : Buf UInt8 :=
  let itemLen := 1 + 1 + 1 + cname.length
  let total := 4 + itemLen
  let padded := (total + 3) / 4 * 4
  let packet := Buf.alloc padded (0 : UInt8)
  let packet := packet.set 0 ((kRtpVersion <<< 6) ||| 1)
  let packet := packet.set 1 202
  let len := UInt16.ofNat (padded / 4 - 1)
  let packet := packet.set 2 ((len >>> 8) &&& 0xFF).toUInt8
  let packet := packet.set 3 (len &&& 0xFF).toUInt8
  let packet := packet.copy 4 (store32 (htonl r.ssrc))
  let packet := packet.set 8 1
  let packet := packet.set 9 (UInt8.ofNat cname.length)
  packet.copy 10 cname

/-- the bytes of the packed struct: version, type 200, length and the fields -/
def buildSenderReport (r : RtcpHandler) (ntpTs : UInt64) (rtpTs packetCount octetCount : UInt32) : List UInt8 :=
  let ntp := ((htonl (ntpTs >>> 32).toUInt32).toUInt64 <<< 32) ||| (htonl (ntpTs &&& 0xFFFFFFFF).toUInt32).toUInt64
  [kRtpVersion <<< 6, 200] ++ store16 (htons 6) ++ store32 (htonl r.ssrc) ++ store64 ntp ++
    store32 (htonl rtpTs) ++ store32 (htonl packetCount) ++ store32 (htonl octetCount)

def buildCompound (r : RtcpHandler) (cname : List UInt8) (ntpTs : UInt64)
    (rtpTs packetCount octetCount : UInt32) : List UInt8 :=
  r.buildSenderReport ntpTs rtpTs packetCount octetCount ++ (r.buildSdes cname).data

end RtcpHandler

/-! ## Parse -/

/-- what `Parse` returns and writes through its reference parameters -/
structure RtcpParsed where
  count : ℕ
  blocks : List RtcpReportBlock
  reporterSsrc : UInt32
deriving DecidableEq, Repr

namespace RtcpHandler

/-- `Parse`, the block loop with n iterations left by the report count -/
def parseBlocks (data : List UInt8) (pktEnd : ℕ) : ℕ → ℕ → RtcpParsed → Reads RtcpParsed
  | 0, _, out => pure out
  | n + 1, rbOffset, out =>
    if rbOffset + 24 ≤ pktEnd then do
      let m ← Reads.slice data rbOffset 24
      let block := (RtcpReportBlock.load m).convert
      parseBlocks data pktEnd n (rbOffset + 24)
        { out with blocks := out.blocks ++ [block], count := out.count + 1 }
    else pure out

/-- `Parse`, the body for a sender or receiver report -/
def parseReport (data : List UInt8) (offset pktBytes : ℕ) (out : RtcpParsed) : Reads RtcpParsed := do
  let m ← Reads.slice data (offset + 4) 4
  let out := { out with
    reporterSsrc := ntohl (load32 (m.getD 0 default) (m.getD 1 default) (m.getD 2 default) (m.getD 3 default)) }
  let rc := (← Reads.elem data offset) &&& 0x1F
  parseBlocks data (offset + pktBytes) rc.toNat (offset + 8) out

/-- the length word, in network order -/
def pktLen (b2 b3 : UInt8) : UInt16 := (b2.toUInt16 <<< 8) ||| b3.toUInt16

def isReport (pt : UInt8) : Bool := pt == 200 || pt == 201

/-- `Parse`, the loop over the sub-packets -/
def parseFrom (data : List UInt8) (offset : ℕ) (out : RtcpParsed) : Reads RtcpParsed :=
  if offset + 4 ≤ data.length then do
    let pt ← Reads.elem data (offset + 1)
    let b2 ← Reads.elem data (offset + 2)
    let b3 ← Reads.elem data (offset + 3)
    let pktBytes := ((pktLen b2 b3).toNat + 1) * 4
    if offset + pktBytes > data.length then
      pure out
    else
      let out ← if isReport pt then parseReport data offset pktBytes out else pure out
      parseFrom data (offset + pktBytes) out
  else pure out
termination_by data.length - offset

def parse (data : List UInt8) (blocks : List RtcpReportBlock) (reporterSsrc : UInt32) : Reads RtcpParsed :=
  if data.length < 8 then pure ⟨0, blocks, reporterSsrc⟩ else parseFrom data 0 ⟨0, blocks, reporterSsrc⟩

end RtcpHandler

/-! ## The size of an SDES packet -/

namespace RtcpHandler

/-- the writes stay inside the vector where it has room for ten bytes and the name -/
theorem inBounds_buildSdes (r : RtcpHandler) (cname : List UInt8) :
    (buildSdes r cname).InBounds ↔ 10 + cname.length ≤ (4 + (1 + 1 + 1 + cname.length) + 3) / 4 * 4 := by
  simp only [buildSdes, Buf.inBounds_copy, Buf.inBounds_set, Buf.inBounds_alloc, Buf.length_copy, Buf.data_set,
    List.length_set, Buf.length_alloc, length_store32, true_and]
  constructor
  · intro hwrites
    rcases hwrites with ⟨h, hcopy⟩
    rcases hcopy with rfl | hcopy
    · simp at h
    · omega
  · intro h
    refine ⟨⟨⟨⟨?_, Or.inr ?_⟩, ?_⟩, ?_⟩, Or.inr ?_⟩ <;> omega

/-- **When `BuildSdes` stays in bounds**: the vector holds ten bytes and the name only where the rounding adds three -/
theorem sdes_inBounds_iff (r : RtcpHandler) (cname : List UInt8) :
    (buildSdes r cname).InBounds ↔ cname.length % 4 = 2 := by
  rw [inBounds_buildSdes]
  constructor <;> intro h <;> omega

/-- **The default name overruns the vector**: "rtcom@unknown" is copied up to offset 22 of 20 allocated bytes -/
theorem sdes_overrun : ¬ ∀ (r : RtcpHandler) (cname : List UInt8), cname.length ≤ 255 →
    (buildSdes r cname).InBounds := by
  intro h
  have hc := h ⟨0⟩ ("rtcom@unknown".toList.map fun c => UInt8.ofNat c.toNat) (by decide)
  revert hc
  decide

end RtcpHandler

end Rtcom
