/-
The media paths of `SessionManager`: `SendAudioFrame`, `SendVideoFrame` and `OnRtcpTimer`, which read the remote
address and ports from the context of the call, and the receive callbacks with `OnRtpData` behind them.

Parameters are what the encoders return, the NTP time, and for each packet whether `sendto` succeeds. A datagram is
listed with the destination that `sendto` is given.
-/
import Mathlib.Tactic
import Rtcom.Rtp.Aac
import Rtcom.Rtp.H264
import Rtcom.Session.Manager

namespace Rtcom

open Access

/-- a datagram handed to `sendto` -/
structure Outgoing where
  addr : String
  port : UInt16
  datagram : List UInt8
deriving DecidableEq, Repr

namespace RtpSession

/-- where `SendPacket` sends to: what it is given, or else the source of the first packet received -/
def destination (r : RtpSession) (target : String × UInt16) : String × UInt16 :=
  (if target.1.isEmpty then r.remoteAddr else target.1, if target.2 ≠ 0 then target.2 else r.remotePort)

/-- `SendPacket`, with the destination of the datagram -/
def sendTo (r : RtpSession) (target : String × UInt16) (payload : List UInt8) (marker sendOk : Bool) :
    Bool × RtpSession × List Outgoing :=
  let (ok, r', datagram) := r.sendPacket payload target.1 target.2 marker sendOk
  let (addr, port) := r.destination target
  (ok, r', datagram.toList.map fun d => ⟨addr, port, d⟩)

/-- the loop of `SendVideoFrame`; the last packet has the marker, and failures are ignored -/
def sendFragments (r : RtpSession) (target : String × UInt16) (sendOk : ℕ → Bool) :
    ℕ → List (List UInt8) → RtpSession × List Outgoing
  | _, [] => (r, [])
  | i, fragment :: fragments =>
    let (_, r, sent) := r.sendTo target fragment fragments.isEmpty (sendOk i)
    let (r, rest) := r.sendFragments target sendOk (i + 1) fragments
    (r, sent ++ rest)

theorem destination_of_complete (r : RtpSession) {target : String × UInt16} (haddr : target.1 ≠ "")
    (hport : target.2 ≠ 0) : r.destination target = target := by
  have hempty : target.1.isEmpty = false := by simpa using haddr
  rw [destination, hempty, if_pos hport]
  rfl

theorem sendTo_dest (r : RtpSession) (target : String × UInt16) (payload : List UInt8) (marker sendOk : Bool) :
    ∀ d ∈ (r.sendTo target payload marker sendOk).2.2, (d.addr, d.port) = r.destination target := by
  intro d hd
  obtain ⟨_, -, rfl⟩ := List.mem_map.1 hd
  rfl

theorem sendFragments_dest (r : RtpSession) {target : String × UInt16} (haddr : target.1 ≠ "") (hport : target.2 ≠ 0)
    (sendOk : ℕ → Bool) (i : ℕ) (fragments : List (List UInt8)) :
    ∀ d ∈ (r.sendFragments target sendOk i fragments).2, (d.addr, d.port) = target := by
  induction fragments generalizing r i with
  | nil => simp [sendFragments]
  | cons fragment fragments ih =>
    intro d hd
    rcases List.mem_append.1 hd with hd | hd
    · exact (r.sendTo_dest _ _ _ _ d hd).trans (r.destination_of_complete haddr hport)
    · exact ih _ _ d hd

/-- the datagram of the next packet, on its way to a target -/
def outgoing (r : RtpSession) (target : String × UInt16) (payload : List UInt8) (marker : Bool) : Outgoing :=
  ⟨(r.destination target).1, (r.destination target).2, r.nextDatagram payload marker⟩

theorem sendTo_of_reaches {r : RtpSession} {target : String × UInt16} {payload : List UInt8}
    (h : r.Reaches payload target.1 target.2) (marker sendOk : Bool) : r.sendTo target payload marker sendOk =
      (sendOk, if sendOk then r.afterSend payload else r, [r.outgoing target payload marker]) := by
  rw [sendTo, sendPacket_of_reaches marker h]
  cases sendOk <;> rfl

theorem sendTo_of_not_reaches {r : RtpSession} {target : String × UInt16} {payload : List UInt8}
    (h : ¬ r.Reaches payload target.1 target.2) (marker sendOk : Bool) :
    r.sendTo target payload marker sendOk = (false, r, []) := by
  rw [sendTo, sendPacket_of_not_reaches marker h]
  rfl

/-- sending changes the counters alone -/
theorem sendTo_frame (r : RtpSession) (target : String × UInt16) (payload : List UInt8) (marker sendOk : Bool) :
    ∃ seq packets bytes, (r.sendTo target payload marker sendOk).2.1 =
      { r with currentSeq := seq, packetsSent := packets, bytesSent := bytes } := by
  simp only [sendTo, sendPacket]
  split_ifs <;> exact ⟨_, _, _, rfl⟩

theorem sendFragments_frame (r : RtpSession) (target : String × UInt16) (sendOk : ℕ → Bool) (i : ℕ)
    (fragments : List (List UInt8)) : ∃ seq packets bytes, (r.sendFragments target sendOk i fragments).1 =
      { r with currentSeq := seq, packetsSent := packets, bytesSent := bytes } := by
  induction fragments generalizing r i with
  | nil => exact ⟨_, _, _, rfl⟩
  | cons fragment fragments ih =>
    obtain ⟨_, _, _, h⟩ := r.sendTo_frame target fragment fragments.isEmpty (sendOk i)
    obtain ⟨seq, packets, bytes, h'⟩ := ih (r.sendTo target fragment fragments.isEmpty (sendOk i)).2.1 (i + 1)
    refine ⟨seq, packets, bytes, ?_⟩
    show ((r.sendTo target fragment fragments.isEmpty (sendOk i)).2.1.sendFragments target sendOk (i + 1)
      fragments).1 = _
    rw [h', h]

end RtpSession

namespace CallContext

/-! ## Sending -/

def audioTarget (ctx : CallContext) : String × UInt16 := (ctx.info.remoteRtpAddr, ctx.info.audioRemotePort)

def videoTarget (ctx : CallContext) : String × UInt16 := (ctx.info.remoteRtpAddr, ctx.info.videoRemotePort)

/-- RTCP is one above audio -/
def rtcpTarget (ctx : CallContext) : String × UInt16 := (ctx.info.remoteRtpAddr, ctx.info.audioRemotePort + 1)

def sendAudioFrame (ctx : CallContext) (encoded : Option (List UInt8)) (samples : ℕ) (sendOk : Bool) :
    Bool × CallContext × List Outgoing :=
  match encoded with
  | none => (false, ctx, [])
  | some frame =>
    let rtp := ctx.audioRtp.advanceTimestamp (UInt32.ofNat samples)
    let (ok, rtp, sent) := rtp.sendTo ctx.audioTarget (AacPacketizer.pack frame) false sendOk
    (ok, { ctx with audioRtp := rtp }, sent)

/-- `SendVideoFrame`, for one context. The source divides by the frame rate; it is taken to be positive (by 0 the
quotient is 0 here). -/
def sendVideoFrame (ctx : CallContext) (videoFps : UInt32) (encoded : Option (List UInt8)) (sendOk : ℕ → Bool) :
    Bool × CallContext × List Outgoing :=
  match encoded with
  | none => (false, ctx, [])
  | some unit =>
    let fragments := H264Fragmenter.fragment unit kRtpMaxPayloadSize
    let (rtp, sent) := ctx.videoRtp.sendFragments ctx.videoTarget sendOk 0 fragments
    (true, { ctx with videoRtp := rtp.advanceTimestamp (90000 / videoFps) }, sent)

/-- `OnRtcpTimer`, for one context -/
def rtcpReport (ctx : CallContext) (nowNtp : UInt64) : List Outgoing :=
  let cname := if ctx.info.calleeUri.isEmpty then "rtcom@unknown" else ctx.info.calleeUri
  let compound := ctx.rtcp.buildCompound (cname.toList.map fun c => UInt8.ofNat c.toNat) nowNtp
    ctx.audioRtp.currentTimestamp ctx.audioRtp.packetsSent ctx.audioRtp.bytesSent.toUInt32
  if ctx.info.remoteRtpAddr.isEmpty then []
  else if ctx.audioRtp.sendFd ≥ 0 then [⟨ctx.rtcpTarget.1, ctx.rtcpTarget.2, compound⟩]
  else []

theorem rtcpReport_dest (ctx : CallContext) (nowNtp : UInt64) :
    ∀ d ∈ ctx.rtcpReport nowNtp, (d.addr, d.port) = ctx.rtcpTarget := by
  intro d hd
  by_cases haddr : ctx.info.remoteRtpAddr.isEmpty
  · rw [rtcpReport, if_pos haddr] at hd
    cases hd
  · by_cases hfd : ctx.audioRtp.sendFd ≥ 0
    · rw [rtcpReport, if_neg haddr, if_pos hfd] at hd
      obtain rfl := List.mem_singleton.1 hd
      rfl
    · rw [rtcpReport, if_neg haddr, if_neg hfd] at hd
      cases hd

end CallContext

/-! ## Receiving -/

/-- what `OnRtpData` hands on: to a decoder, or as it is to the callback of the application -/
inductive MediaOut where
  | decodeAudio (unit : List UInt8)
  | decodeVideo (unit : List UInt8)
  | passThrough (payload : List UInt8)
deriving DecidableEq, Repr

/-- `OnRtpData`, for a context that is there; what the decoders return goes to the callback only -/
def onRtpData (pt : UInt8) (payload : List UInt8) : Option MediaOut :=
  if payload = [] then none
  else if pt = RtpPayloadType.kAAC.toUInt8 then
    let (ok, aacData) := (AacPacketizer.unpack payload []).val
    if ok then some (.decodeAudio aacData) else none
  else if pt = RtpPayloadType.kPCMU.toUInt8 ∨ pt = RtpPayloadType.kPCMA.toUInt8 then some (.passThrough payload)
  else if pt = RtpPayloadType.kH264.toUInt8 then some (.decodeVideo payload)
  else none

theorem onRtpData_h264 (payload : List UInt8) :
    onRtpData RtpPayloadType.kH264.toUInt8 payload = if payload = [] then none else some (.decodeVideo payload) := rfl

namespace CallContext

variable (S : StdSort BufferItem.seq)

/-- the callbacks of `RegisterRtpFds`, for a context that is there; video is always taken for H.264 -/
def receive (ctx : CallContext) (received : Option (List UInt8 × String × UInt16)) (now : ℤ) :
    Medium → CallContext × Option MediaOut
  | .audio =>
    let (n, rtp) := ctx.audioRtp.receivePacket received
    if n ≤ 0 then ({ ctx with audioRtp := rtp }, none)
    else
      let (jitter, ready) := (ctx.audioJitter.insert S rtp.lastPacket now).extract
      ({ ctx with audioRtp := rtp, audioJitter := jitter }, ready.bind fun p => onRtpData p.payloadType p.payload)
  | .video =>
    let (n, rtp) := ctx.videoRtp.receivePacket received
    if n ≤ 0 then ({ ctx with videoRtp := rtp }, none)
    else
      let (jitter, ready) := (ctx.videoJitter.insert S rtp.lastPacket now).extract
      ({ ctx with videoRtp := rtp, videoJitter := jitter },
        ready.bind fun p => onRtpData RtpPayloadType.kH264.toUInt8 p.payload)

end CallContext

namespace Session

/-! ## Session manager -/

def sendAudioFrame (w : Session) (callId : String) (encoded : Option (List UInt8)) (samples : ℕ) (sendOk : Bool) :
    Bool × Session × List Outgoing :=
  match w.contexts.lookup callId with
  | none => (false, w, [])
  | some ctx =>
    let (ok, ctx, sent) := ctx.sendAudioFrame encoded samples sendOk
    (ok, { w with contexts := w.contexts.insert callId ctx }, sent)

def sendVideoFrame (w : Session) (callId : String) (encoded : Option (List UInt8)) (sendOk : ℕ → Bool) :
    Bool × Session × List Outgoing :=
  match w.contexts.lookup callId with
  | none => (false, w, [])
  | some ctx =>
    let (ok, ctx, sent) := ctx.sendVideoFrame w.config.media.videoFps encoded sendOk
    (ok, { w with contexts := w.contexts.insert callId ctx }, sent)

def onRtcpTimer (w : Session) (nowNtp : UInt64) : List Outgoing :=
  w.contexts.entries.flatMap fun e => e.2.rtcpReport nowNtp

/-- a call that is connected, with sockets of its own and a peer -/
def connectedCall : CallContext :=
  newContext {} ((SessionEnv.constant "ab" []).resources 0) "a1"
    ⟨"", .kConnected, 1, 5004, 5010, 4000, 4002, "10.0.0.9"⟩

/-- a session manager with this call -/
def connected : Session :=
  { new {} with contexts := (∅ : AList fun _ : String => CallContext).insert "a1" connectedCall }

theorem connected_live : connected.contexts.lookup "a1" = some connectedCall := AList.lookup_insert _

end Session

end Rtcom
