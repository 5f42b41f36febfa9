/-
The octet count in the sender reports of a call. `SendPacket` adds the bytes of the whole datagram to `bytes_sent_`, and
`OnRtcpTimer` puts that number, cut to 32 bits, where the report has the octets of the payloads (RFC 3550 does not count
the headers).

`AudioSent` is a context in a run of `SendAudioFrame` and of calls on its audio session, with the payloads of the
packets successfully sent.
- `bytesSent_sendPacket`: what `SendPacket` adds; `step_counted`: a step adds twelve bytes for each packet too many.
- `octet_count_iff`: so the count is that of the payloads exactly when the headers sent amount to a multiple of 2^32
  bytes, above all when nothing was sent.
-/
import Mathlib.Tactic
import Rtcom.Rtp.RtcpBuilt
import Rtcom.Rtp.Sending
import Rtcom.Session.Media

namespace Rtcom

open Runs Words RtpSession

/-! ## What is counted -/

namespace RtpSession

/-- `SendPacket` counts the header with the payload -/
theorem bytesSent_sendPacket (r : RtpSession) (payload : List UInt8) (destAddr : String) (destPort : UInt16)
    (marker sendOk : Bool) :
    (r.sendPacket payload destAddr destPort marker sendOk).2.1.bytesSent =
      if (r.sendPacket payload destAddr destPort marker sendOk).1 then
        r.bytesSent + UInt64.ofNat (kRtpHeaderSize + payload.length)
      else r.bytesSent := by
  by_cases hreach : r.Reaches payload destAddr destPort
  · rw [sendPacket_of_reaches marker hreach]
    cases sendOk <;> rfl
  · rw [sendPacket_of_not_reaches marker hreach]
    rfl

/-- what the books of one call list -/
theorem payloads_sendPacket (r : RtpSession) (payload : List UInt8) (destAddr : String) (destPort : UInt16)
    (marker sendOk : Bool) :
    (Books.step (.start r) (.sendPacket payload destAddr destPort marker sendOk)).sent.map SentPacket.payload =
      if (r.sendPacket payload destAddr destPort marker sendOk).1 then [payload] else [] := by
  by_cases hreach : r.Reaches payload destAddr destPort
  · simp only [Books.step, Books.start, sendPacket_of_reaches marker hreach]
    cases sendOk <;> rfl
  · simp only [Books.step, Books.start, sendPacket_of_not_reaches marker hreach]
    rfl

end RtpSession

/-- the sender report's octet count, as a receiver reads it -/
def octetCount (report : List UInt8) : UInt32 :=
  ntohl (load32 (report.getD 24 default) (report.getD 25 default) (report.getD 26 default) (report.getD 27 default))

theorem octetCount_buildCompound (r : RtcpHandler) (cname : List UInt8) (ntpTs : UInt64)
    (rtpTs packetCount octets : UInt32) :
    octetCount (r.buildCompound cname ntpTs rtpTs packetCount octets) = octets := by
  rw [RtcpHandler.buildCompound, RtcpHandler.buildSenderReport_eq]
  exact ntohl_load32_be octets

/-! ## Runs -/

inductive AudioOp where
  | sendAudioFrame (encoded : Option (List UInt8)) (samples : ℕ) (sendOk : Bool)
  | call (op : RtpOp)

/-- a context, and the payloads of the packets its audio session has successfully sent -/
structure AudioSent where
  ctx : CallContext
  payloads : List (List UInt8)

namespace AudioSent

def start (ctx : CallContext) : AudioSent := ⟨ctx, []⟩

/-- `SendAudioFrame` sends the packed frame; what any other call sends is in its books -/
def step (s : AudioSent) : AudioOp → AudioSent
  | .sendAudioFrame encoded samples sendOk =>
    let (ok, ctx, _) := s.ctx.sendAudioFrame encoded samples sendOk
    ⟨ctx, s.payloads ++ if ok then encoded.toList.map AacPacketizer.pack else []⟩
  | .call op =>
    let books := Books.step (.start s.ctx.audioRtp) op
    ⟨{ s.ctx with audioRtp := books.session }, s.payloads ++ books.sent.map SentPacket.payload⟩

/-- the octets of the payloads sent -/
def octets (s : AudioSent) : ℕ := (s.payloads.map List.length).sum

/-- the counter holds the payloads and a header for each packet -/
def Counted (s : AudioSent) : Prop :=
  s.ctx.audioRtp.bytesSent = UInt64.ofNat (s.octets + kRtpHeaderSize * s.payloads.length)

/-- nothing more is sent -/
theorem Counted.of_frame {s : AudioSent} (h : s.Counted) {ctx : CallContext}
    (hbytes : ctx.audioRtp.bytesSent = s.ctx.audioRtp.bytesSent) : Counted ⟨ctx, s.payloads ++ []⟩ := by
  rw [List.append_nil]
  exact hbytes.trans h

/-- one more packet -/
theorem Counted.send {s : AudioSent} (h : s.Counted) {ctx : CallContext} (payload : List UInt8)
    (hbytes : ctx.audioRtp.bytesSent = s.ctx.audioRtp.bytesSent + UInt64.ofNat (kRtpHeaderSize + payload.length)) :
    Counted ⟨ctx, s.payloads ++ [payload]⟩ := by
  have htotal : s.octets + kRtpHeaderSize * s.payloads.length + (kRtpHeaderSize + payload.length) =
      AudioSent.octets ⟨ctx, s.payloads ++ [payload]⟩ + kRtpHeaderSize * (s.payloads ++ [payload]).length := by
    simp only [octets, List.map_append, List.map_singleton, List.sum_append, List.sum_singleton, List.length_append,
      List.length_singleton, kRtpHeaderSize]
    omega
  calc ctx.audioRtp.bytesSent
      = UInt64.ofNat (s.octets + kRtpHeaderSize * s.payloads.length) +
          UInt64.ofNat (kRtpHeaderSize + payload.length) := by rw [hbytes, h]
    _ = UInt64.ofNat (s.octets + kRtpHeaderSize * s.payloads.length + (kRtpHeaderSize + payload.length)) :=
        (UInt64.ofNat_add _ _).symm
    _ = _ := by rw [htotal]

/-- a call of `SendPacket`, whether it sends or not -/
theorem Counted.sendPacket {s : AudioSent} (h : s.Counted) {r : RtpSession}
    (hr : r.bytesSent = s.ctx.audioRtp.bytesSent) (payload : List UInt8) (destAddr : String) (destPort : UInt16)
    (marker sendOk : Bool) {ctx : CallContext}
    (hctx : ctx.audioRtp = (r.sendPacket payload destAddr destPort marker sendOk).2.1) :
    Counted ⟨ctx, s.payloads ++
      if (r.sendPacket payload destAddr destPort marker sendOk).1 then [payload] else []⟩ := by
  have hbytes := r.bytesSent_sendPacket payload destAddr destPort marker sendOk
  rw [← hctx, hr] at hbytes
  split_ifs at hbytes ⊢
  · exact h.send payload hbytes
  · exact h.of_frame hbytes

theorem call_counted {s : AudioSent} (h : s.Counted) (op : RtpOp) : (s.step (.call op)).Counted := by
  cases op with
  | openSendSocket o localPort => exact h.of_frame rfl
  | openRecvSocket o localPort => exact h.of_frame rfl
  | receivePacket received =>
    obtain ⟨-, -, -, -, -, -, hbytes⟩ := s.ctx.audioRtp.receivePacket_frame received
    exact h.of_frame hbytes
  | advanceTimestamp increment => exact h.of_frame rfl
  | sendPacket payload destAddr destPort marker sendOk =>
    rw [step, payloads_sendPacket]
    exact h.sendPacket rfl payload destAddr destPort marker sendOk rfl

/-- every step counts what it sends, headers included -/
theorem step_counted (s : AudioSent) (o : AudioOp) (h : s.Counted) : (s.step o).Counted := by
  cases o with
  | sendAudioFrame encoded samples sendOk =>
    cases encoded with
    | none =>
      rw [step, CallContext.sendAudioFrame]
      exact h.of_frame rfl
    | some frame =>
      have hr : (s.ctx.audioRtp.advanceTimestamp (UInt32.ofNat samples)).bytesSent = s.ctx.audioRtp.bytesSent := rfl
      rw [step, CallContext.sendAudioFrame]
      exact h.sendPacket hr (AacPacketizer.pack frame) s.ctx.audioTarget.1 s.ctx.audioTarget.2 false sendOk rfl
  | call op => exact call_counted h op

/-! ## The sender report -/

/-- the octet count of every report that `OnRtcpTimer` sends now is the number of octets of the payloads sent -/
def CountsPayloads (s : AudioSent) (nowNtp : UInt64) : Prop :=
  ∀ d ∈ s.ctx.rtcpReport nowNtp, (octetCount d.datagram).toNat = s.octets % 2 ^ 32

/-- a report is sent where there are a remote address and a socket -/
theorem countsPayloads_iff (s : AudioSent) (nowNtp : UInt64) :
    s.CountsPayloads nowNtp ↔ s.ctx.info.remoteRtpAddr = "" ∨ s.ctx.audioRtp.sendFd < 0 ∨
      s.ctx.audioRtp.bytesSent.toUInt32.toNat = s.octets % 2 ^ 32 := by
  rw [CountsPayloads, CallContext.rtcpReport]
  by_cases haddr : s.ctx.info.remoteRtpAddr = ""
  · simp [haddr]
  · have hnot : ¬ s.ctx.info.remoteRtpAddr.isEmpty = true := by rwa [String.isEmpty_iff]
    by_cases hfd : s.ctx.audioRtp.sendFd < 0
    · simp [hnot, hfd]
    · rw [if_neg hnot, if_pos (not_lt.1 hfd), List.forall_mem_singleton, octetCount_buildCompound]
      simp only [haddr, hfd, false_or]

/-- twelve bytes for each packet vanish from a 32-bit number exactly for a multiple of 2^30 packets: 3 is odd -/
theorem add_headers_mod_iff (octets packets : ℕ) :
    (octets + 12 * packets) % 2 ^ 32 = octets % 2 ^ 32 ↔ 2 ^ 30 ∣ packets := by
  have hadd : (octets + 12 * packets) % 2 ^ 32 = octets % 2 ^ 32 ↔ 2 ^ 32 ∣ 12 * packets := Nat.add_modEq_left_iff
  have hcoprime : Nat.Coprime (2 ^ 30) 3 := (by decide : Nat.Coprime 2 3).pow_left 30
  rw [hadd, show 2 ^ 32 = 4 * 2 ^ 30 by norm_num, show 12 * packets = 4 * (3 * packets) by omega,
    Nat.mul_dvd_mul_iff_left (by decide), hcoprime.dvd_mul_left]

theorem Counted.low_word_iff {s : AudioSent} (h : s.Counted) :
    s.ctx.audioRtp.bytesSent.toUInt32.toNat = s.octets % 2 ^ 32 ↔ 2 ^ 30 ∣ s.payloads.length := by
  have hlow : s.ctx.audioRtp.bytesSent.toUInt32.toNat = (s.octets + 12 * s.payloads.length) % 2 ^ 32 := by
    rw [Counted, show kRtpHeaderSize = 12 from rfl] at h
    rw [h, UInt64.toNat_toUInt32, UInt64.toNat_ofNat']
    exact Nat.mod_mod_of_dvd _ (Nat.pow_dvd_pow 2 (by decide))
  rw [hlow, add_headers_mod_iff]

/-- **When the octet count is right.** In every run of `SendAudioFrame` and of calls on the audio session of a new call,
the report counts the octets of the payloads sent exactly when the number of packets sent is a multiple of 2^30, or no
report is sent. -/
theorem octet_count_iff (media : MediaConfig) (res : Resources) (callId : String) (info : CallSessionInfo)
    (ops : List AudioOp) (nowNtp : UInt64) :
    let s := exec step (start (Session.newContext media res callId info)) ops
    s.CountsPayloads nowNtp ↔
      s.ctx.info.remoteRtpAddr = "" ∨ s.ctx.audioRtp.sendFd < 0 ∨ 2 ^ 30 ∣ s.payloads.length := by
  intro s
  have hstart : (start (Session.newContext media res callId info)).Counted := rfl
  have hcounted : s.Counted := exec_preserves step_counted hstart ops
  rw [countsPayloads_iff, hcounted.low_word_iff]

/-- **The headers are counted**: a frame of three bytes makes a payload of seven and a count of nineteen -/
theorem headers_counted : ¬ ∀ (media : MediaConfig) (res : Resources) (callId : String) (info : CallSessionInfo)
    (ops : List AudioOp) (nowNtp : UInt64),
    (exec step (start (Session.newContext media res callId info)) ops).CountsPayloads nowNtp := by
  intro h
  have hcount := h {} ((SessionEnv.constant "ab" []).resources 0) "a1"
    ⟨"", .kConnected, 1, 5004, 5010, 4000, 4002, "10.0.0.9"⟩ [.sendAudioFrame (some [1, 2, 3]) 160 true] 0
  rw [countsPayloads_iff] at hcount
  revert hcount
  decide +kernel

end AudioSent

end Rtcom
