/-
Datagrams that are not RTP version 2 at the receive socket of a call. `RtpPacket::Parse` signals nothing: what is
shorter than a header becomes a packet of zeros, and the version field is not looked at, so the callback counts the
datagram and puts a packet for it into the jitter buffer.

- `receive_some`: what a callback does with a datagram that is not empty; `receive_runt`: with one that is too short.
- `unaffected_iff`: the callback leaves the jitter buffers and the counters as they are, and delivers nothing, exactly
  when the datagram is empty, for which `recvfrom` returns 0.
- `foreign_datagram_delivered`: a packet of version 0 reaches the decoder.
-/
import Mathlib.Tactic
import Rtcom.Session.VideoPath

namespace Rtcom

open Runs

/-- shorter than the fixed header, or another version in its first two bits -/
def NotRtp2 (datagram : List UInt8) : Prop :=
  datagram.length < kRtpHeaderSize ∨ datagram.headD 0 >>> 6 ≠ kRtpVersion

instance (datagram : List UInt8) : Decidable (NotRtp2 datagram) :=
  inferInstanceAs (Decidable (datagram.length < kRtpHeaderSize ∨ datagram.headD 0 >>> 6 ≠ kRtpVersion))

namespace CallContext

def rtp (ctx : CallContext) : Medium → RtpSession
  | .audio => ctx.audioRtp
  | .video => ctx.videoRtp

def jitter (ctx : CallContext) : Medium → JitterBuffer
  | .audio => ctx.audioJitter
  | .video => ctx.videoJitter

variable (S : StdSort BufferItem.seq)

/-- a callback stores what `ReceivePacket` makes of the session -/
theorem receive_rtp (ctx : CallContext) (received : Option (List UInt8 × String × UInt16)) (now : ℤ)
    (medium : Medium) :
    (ctx.receive S received now medium).1.rtp medium = ((ctx.rtp medium).receivePacket received).2 := by
  cases medium
  all_goals
    simp only [receive, rtp]
    split_ifs <;> rfl

variable {ctx : CallContext} {medium : Medium} (hsocket : (ctx.rtp medium).recvSocket ≠ none)
include hsocket

/-- **A datagram that is not empty** is counted, and a packet for it passes the jitter buffer, whatever it contains -/
theorem receive_some {datagram : List UInt8} (hne : datagram ≠ []) (source : String × UInt16) (now : ℤ) :
    let after := (ctx.receive S (some (datagram, source)) now medium).1
    after.jitter medium = ((ctx.jitter medium).insert S (RtpPacket.parse datagram).val now).extract.1 ∧
      (after.rtp medium).packetsReceived = (ctx.rtp medium).packetsReceived + 1 := by
  obtain ⟨r', hreceived, hlast, hcount⟩ := RtpSession.receivePacket_some hsocket hne source
  have hpos : ¬ (1 : ℤ) ≤ 0 := by decide
  refine ⟨?_, ?_⟩
  · cases medium
    all_goals
      simp only [rtp] at hreceived
      simp only [receive, jitter, hreceived, hlast, if_neg hpos]
  · rw [receive_rtp, hreceived, hcount]

/-- a datagram without a whole header passes as a packet of zeros -/
theorem receive_runt {datagram : List UInt8} (hne : datagram ≠ []) (hrunt : datagram.length < kRtpHeaderSize)
    (source : String × UInt16) (now : ℤ) :
    (ctx.receive S (some (datagram, source)) now medium).1.jitter medium =
      ((ctx.jitter medium).insert S .new now).extract.1 := by
  have hparse : (RtpPacket.parse datagram).val = .new := by
    rw [RtpPacket.parse, if_pos hrunt]
    rfl
  rw [(receive_some S hsocket hne source now).1, hparse]

/-- `recvfrom` returns 0 for an empty datagram, and nothing is done -/
theorem receive_nil (source : String × UInt16) (now : ℤ) :
    ctx.receive S (some ([], source)) now medium = (ctx, none) := by
  obtain ⟨srcAddr, srcPort⟩ := source
  cases medium
  all_goals
    simp only [rtp] at hsocket
    simp only [receive, RtpSession.receivePacket, if_neg hsocket, if_true, le_refl]

omit hsocket

/-- the jitter buffers and the counts of what is received are the same, and nothing is delivered -/
structure Unaffected (ctx ctx' : CallContext) (out : Option MediaOut) : Prop where
  jitter : ∀ medium, ctx'.jitter medium = ctx.jitter medium
  packetsReceived : ∀ medium, (ctx'.rtp medium).packetsReceived = (ctx.rtp medium).packetsReceived
  bytesReceived : ∀ medium, (ctx'.rtp medium).bytesReceived = (ctx.rtp medium).bytesReceived
  nothing : out = none

/-- **Exactly an empty datagram leaves the call as it is**, in every state of the call: all others are counted, be they
RTP version 2 or not -/
theorem unaffected_iff (hsocket : (ctx.rtp medium).recvSocket ≠ none) (datagram : List UInt8)
    (source : String × UInt16) (now : ℤ) :
    Unaffected ctx (ctx.receive S (some (datagram, source)) now medium).1
      (ctx.receive S (some (datagram, source)) now medium).2 ↔ datagram = [] := by
  constructor
  · intro h
    by_contra hne
    have hcount := h.packetsReceived medium
    rw [(receive_some S hsocket hne source now).2] at hcount
    exact absurd hcount (by simp)
  · rintro rfl
    rw [receive_nil S hsocket]
    exact ⟨fun _ => rfl, fun _ => rfl, fun _ => rfl, rfl⟩

/-- one byte at the audio socket of a new call -/
theorem unaffected_iff_runt :
    let S := StdSort.insertion BufferItem.seq
    Unaffected exampleContext (exampleContext.receive S (some ([0x80], "10.0.0.9", 4000)) 0 .audio).1
      (exampleContext.receive S (some ([0x80], "10.0.0.9", 4000)) 0 .audio).2 ↔ [(0x80 : UInt8)] = [] :=
  have hsocket : (exampleContext.rtp .audio).recvSocket ≠ none := by
    simp [rtp, exampleContext, Session.newContext, RtpSession.openRecvSocket]
  unaffected_iff (.insertion _) hsocket [0x80] ("10.0.0.9", 4000) 0

/-- **What is not RTP version 2 is counted and delivered**: the payload of a packet of version 0 goes to the decoder -/
theorem foreign_datagram_delivered : ¬ ∀ (S : StdSort BufferItem.seq) (media : MediaConfig) (res : Resources)
    (callId : String) (info : CallSessionInfo) (history : List MediaOp) (medium : Medium) (datagram : List UInt8)
    (source : String × UInt16) (now : ℤ),
    let ctx := exec (mediaStep S) (Session.newContext media res callId info) history
    NotRtp2 datagram → Unaffected ctx (ctx.receive S (some (datagram, source)) now medium).1
      (ctx.receive S (some (datagram, source)) now medium).2 := by
  intro h
  have hnone := (h (.insertion _) {} ((SessionEnv.constant "ab" []).resources 0) "a1"
    ⟨"", .kConnected, 1, 5004, 5010, 4000, 4002, "10.0.0.9"⟩ [] .video
    [0, 97, 0, 1, 0, 0, 0, 0, 0, 0, 0, 7, 0x65] ("10.0.0.9", 4002) 0 (by decide)).nothing
  revert hnone
  decide +kernel

end CallContext

end Rtcom
