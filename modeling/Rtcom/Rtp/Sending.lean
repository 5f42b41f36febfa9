/-
Runs of one `RtpSession`: any sequence of calls, with any answers of the operating system, kept in books. The books
list the datagrams successfully sent, each with what `SendPacket` was given and with the timestamp increments before
it.

- `sent_datagrams`: the i-th datagram sent parses to sequence number i modulo 2^16, the SSRC and payload type of the
  session, the first timestamp and the increments before it, and the payload given; the counters are those of the
  books; a call that returns false changes nothing.
- `fragments_sent`: the fragments of a unit longer than an RTP payload are an FU-A sequence, and `SendPacket` sends
  each of them.
-/
import Mathlib.Tactic
import Rtcom.Lib.Runs
import Rtcom.Rtp.H264
import Rtcom.Rtp.Session

namespace Rtcom

open Runs

namespace RtpSession

/-! ## Calls and books -/

inductive RtpOp where
  | openSendSocket (o : SocketOutcome) (localPort : UInt16)
  | openRecvSocket (o : SocketOutcome) (localPort : UInt16)
  | sendPacket (payload : List UInt8) (destAddr : String) (destPort : UInt16) (marker sendOk : Bool)
  | receivePacket (received : Option (List UInt8 × String × UInt16))
  | advanceTimestamp (increment : UInt32)
deriving DecidableEq, Repr

/-- a datagram successfully sent: what `SendPacket` was given, the sum of the increments so far, and the bytes -/
structure SentPacket where
  payload : List UInt8
  marker : Bool
  advanced : ℕ
  datagram : List UInt8
deriving DecidableEq, Repr

structure Books where
  session : RtpSession
  sent : List SentPacket
  advanced : ℕ
deriving DecidableEq, Repr

namespace Books

def start (r : RtpSession) : Books := ⟨r, [], 0⟩

/-- a call, and the entry for it: a packet counts as sent when `SendPacket` returns true -/
def step (b : Books) : RtpOp → Books
  | .openSendSocket o localPort => { b with session := (b.session.openSendSocket o localPort).2 }
  | .openRecvSocket o localPort => { b with session := (b.session.openRecvSocket o localPort).2 }
  | .sendPacket payload destAddr destPort marker sendOk =>
    let (ok, session, datagram) := b.session.sendPacket payload destAddr destPort marker sendOk
    { b with
      session := session
      sent := b.sent ++ if ok then datagram.toList.map (SentPacket.mk payload marker b.advanced) else [] }
  | .receivePacket received => { b with session := (b.session.receivePacket received).2 }
  | .advanceTimestamp increment =>
    { b with session := b.session.advanceTimestamp increment, advanced := b.advanced + increment.toNat }

/-- the bytes of all datagrams sent -/
def bytes (b : Books) : ℕ := (b.sent.map fun d => d.datagram.length).sum

end Books

/-! ## The books balance -/

/-- the datagram of entry i of the books of a session that began as r -/
def datagramOf (r : RtpSession) (i : ℕ) (d : SentPacket) : List UInt8 :=
  (RtpPacket.build r.payloadType.toUInt8 (UInt16.ofNat i) (r.currentTimestamp + UInt32.ofNat d.advanced) r.ssrc
    d.marker d.payload).header.store ++ d.payload

/-- the session is where the entries leave a session that began as r -/
structure Balanced (r : RtpSession) (b : Books) : Prop where
  ssrc : b.session.ssrc = r.ssrc
  payloadType : b.session.payloadType = r.payloadType
  currentSeq : b.session.currentSeq = UInt16.ofNat b.sent.length
  currentTimestamp : b.session.currentTimestamp = r.currentTimestamp + UInt32.ofNat b.advanced
  packetsSent : b.session.packetsSent = UInt32.ofNat b.sent.length
  bytesSent : b.session.bytesSent = UInt64.ofNat b.bytes
  datagrams : ∀ i d, b.sent[i]? = some d → d.datagram = datagramOf r i d

/-- nothing sent so far -/
structure Fresh (r : RtpSession) : Prop where
  currentSeq : r.currentSeq = 0
  packetsSent : r.packetsSent = 0
  bytesSent : r.bytesSent = 0

theorem new_fresh (ssrc : UInt32) (payloadType : RtpPayloadType) (randomSsrc randomTimestamp : UInt32) :
    (new ssrc payloadType randomSsrc randomTimestamp).Fresh := ⟨rfl, rfl, rfl⟩

variable {r : RtpSession}

theorem start_balanced (h : r.Fresh) : r.Balanced (.start r) :=
  ⟨rfl, rfl, h.currentSeq, (UInt32.add_zero r.currentTimestamp).symm, h.packetsSent, h.bytesSent, by
    simp [Books.start]⟩

/-- only a call that sends makes an entry -/
theorem Balanced.of_frame {b : Books} (h : r.Balanced b) {session : RtpSession} (hssrc : session.ssrc = b.session.ssrc)
    (hpt : session.payloadType = b.session.payloadType) (hseq : session.currentSeq = b.session.currentSeq)
    (hts : session.currentTimestamp = b.session.currentTimestamp)
    (hpackets : session.packetsSent = b.session.packetsSent) (hbytes : session.bytesSent = b.session.bytesSent) :
    r.Balanced { b with session := session } :=
  ⟨hssrc.trans h.ssrc, hpt.trans h.payloadType, hseq.trans h.currentSeq, hts.trans h.currentTimestamp,
    hpackets.trans h.packetsSent, hbytes.trans h.bytesSent, h.datagrams⟩

/-- the entry of a packet that is sent -/
theorem Balanced.send {b : Books} (h : r.Balanced b) (payload : List UInt8) (marker : Bool) :
    r.Balanced { b with
      session := b.session.afterSend payload
      sent := b.sent ++ [⟨payload, marker, b.advanced, b.session.nextDatagram payload marker⟩] } := by
  refine ⟨h.ssrc, h.payloadType, ?_, h.currentTimestamp, ?_, ?_, ?_⟩
  · show b.session.currentSeq + 1 = _
    rw [h.currentSeq, List.length_append, List.length_singleton, UInt16.ofNat_add]
    rfl
  · show b.session.packetsSent + 1 = _
    rw [h.packetsSent, List.length_append, List.length_singleton, UInt32.ofNat_add]
    rfl
  · show b.session.bytesSent + UInt64.ofNat _ = _
    rw [h.bytesSent, ← UInt64.ofNat_add]
    congr 1
    simp [Books.bytes]
  · intro i d hd
    rcases Nat.lt_trichotomy i b.sent.length with hi | rfl | hi
    · rw [List.getElem?_append_left hi] at hd
      exact h.datagrams i d hd
    · rw [List.getElem?_append_right le_rfl, Nat.sub_self, List.getElem?_cons_zero] at hd
      obtain rfl := Option.some.inj hd
      simp only [nextDatagram, datagramOf, h.ssrc, h.payloadType, h.currentSeq, h.currentTimestamp]
    · rw [List.getElem?_eq_none (by simp; omega)] at hd
      cases hd

theorem step_balanced (b : Books) (op : RtpOp) (h : r.Balanced b) : r.Balanced (b.step op) := by
  cases op with
  | openSendSocket o localPort => exact h.of_frame rfl rfl rfl rfl rfl rfl
  | openRecvSocket o localPort => exact h.of_frame rfl rfl rfl rfl rfl rfl
  | receivePacket received =>
    obtain ⟨-, hssrc, hpt, hseq, hts, hpackets, hbytes⟩ := b.session.receivePacket_frame received
    exact h.of_frame hssrc hpt hseq hts hpackets hbytes
  | advanceTimestamp increment =>
    refine ⟨h.ssrc, h.payloadType, h.currentSeq, ?_, h.packetsSent, h.bytesSent, h.datagrams⟩
    show b.session.currentTimestamp + increment = _
    rw [h.currentTimestamp, UInt32.add_assoc]
    show _ = _ + UInt32.ofNat (b.advanced + increment.toNat)
    rw [UInt32.ofNat_add, UInt32.ofNat_toNat]
  | sendPacket payload destAddr destPort marker sendOk =>
    by_cases hreach : b.session.Reaches payload destAddr destPort
    · simp only [Books.step, sendPacket_of_reaches marker hreach]
      cases sendOk with
      | false => simpa using h
      | true => exact h.send payload marker
    · simp only [Books.step, sendPacket_of_not_reaches marker hreach]
      simpa using h

theorem run_balanced (h : r.Fresh) (ops : List RtpOp) : r.Balanced (exec Books.step (.start r) ops) :=
  exec_preserves step_balanced (start_balanced h) ops

/-- **What a session sends.** In every run of a new session, the i-th datagram sent parses to sequence number i, the
SSRC and the payload type of the session, the first timestamp and all increments before it, and what `SendPacket` was
given; the counters count the datagrams sent and their bytes; `SendPacket` returns true exactly when it gets to
`sendto` and that succeeds, and else changes nothing. -/
theorem sent_datagrams (ssrc : UInt32) (payloadType : RtpPayloadType) (randomSsrc randomTimestamp : UInt32)
    (ops : List RtpOp) :
    let r := new ssrc payloadType randomSsrc randomTimestamp
    let b := exec Books.step (.start r) ops
    (∀ i d, b.sent[i]? = some d →
      let q := (RtpPacket.parse d.datagram).val
      q.sequence.toNat = i % 65536 ∧ q.ssrc = r.ssrc ∧ q.payloadType = payloadType.toUInt8 ∧
        q.timestamp.toNat = (r.currentTimestamp.toNat + d.advanced) % 2 ^ 32 ∧ q.marker = d.marker ∧
        q.payload = d.payload) ∧
      b.session.packetsSent.toNat = b.sent.length % 2 ^ 32 ∧
      b.session.bytesSent.toNat = b.bytes % 2 ^ 64 ∧
      ∀ payload destAddr destPort marker sendOk,
        let result := b.session.sendPacket payload destAddr destPort marker sendOk
        (result.1 = true ↔ b.session.Reaches payload destAddr destPort ∧ sendOk = true) ∧
          (result.1 = false → result.2.1 = b.session) := by
  intro r b
  have hb : r.Balanced b := run_balanced (new_fresh ssrc payloadType randomSsrc randomTimestamp) ops
  refine ⟨?_, ?_, ?_, ?_⟩
  · intro i d hd
    have hpt : r.payloadType.toUInt8 < 128 := by
      cases hcase : r.payloadType <;> decide
    rw [hb.datagrams i d hd, datagramOf, RtpPacket.val_parse_build]
    refine ⟨?_, ntohl_htonl _, RtpPacket.payloadType_build _ _ _ _ _ _ hpt, ?_, rfl, rfl⟩
    · show (ntohs (htons (UInt16.ofNat i))).toNat = _
      rw [ntohs_htons, UInt16.toNat_ofNat']
    · show (ntohl (htonl (r.currentTimestamp + UInt32.ofNat d.advanced))).toNat = _
      rw [ntohl_htonl, UInt32.toNat_add, UInt32.toNat_ofNat']
      omega
  · rw [hb.packetsSent, UInt32.toNat_ofNat']
  · rw [hb.bytesSent, UInt64.toNat_ofNat']
  · intro payload destAddr destPort marker sendOk
    exact ⟨sendPacket_eq_true marker sendOk, sendPacket_eq_false marker⟩

end RtpSession

/-! ## The fragments of a unit -/

/-- **The fragments of a unit longer than an RTP payload** are an FU-A sequence, and the buffer of `SendPacket` holds
each of them -/
theorem H264Fragmenter.fragments_sent {nalData : List UInt8} (h : kRtpMaxPayloadSize < nalData.length) :
    FuSequence nalData (fragment nalData kRtpMaxPayloadSize) ∧
      ∀ f ∈ fragment nalData kRtpMaxPayloadSize, ∀ (r : RtpSession) (marker : Bool),
        ((RtpPacket.build r.payloadType.toUInt8 r.currentSeq r.currentTimestamp r.ssrc marker f).serialize
          (kRtpMaxPayloadSize + kRtpHeaderSize)).1 = kRtpHeaderSize + f.length := by
  have hseq := fuSequence_fragment h
  refine ⟨hseq, fun f hf r marker => ?_⟩
  obtain ⟨i, hi⟩ := List.mem_iff_getElem?.1 hf
  have hle := (hseq.fu i f hi).length_le
  rw [RtpPacket.serialize_build _ _ _ _ _ _ _ (by omega)]

/-- a unit of two fragments -/
theorem H264Fragmenter.fragments_sent_two :
    FuSequence (List.replicate 1461 0x65) (fragment (List.replicate 1461 0x65) kRtpMaxPayloadSize) ∧
      ∀ f ∈ fragment (List.replicate 1461 0x65) kRtpMaxPayloadSize, ∀ (r : RtpSession) (marker : Bool),
        ((RtpPacket.build r.payloadType.toUInt8 r.currentSeq r.currentTimestamp r.ssrc marker f).serialize
          (kRtpMaxPayloadSize + kRtpHeaderSize)).1 = kRtpHeaderSize + f.length :=
  fragments_sent (by rw [List.length_replicate]; decide)

end Rtcom
