/-
A video access unit on its way from `SendVideoFrame` to the decoder of a peer that runs the same code, over a channel
that loses and reorders nothing.

The sender cuts the unit (`H264Fragmenter::Fragment`), and each fragment travels in a datagram of its own (`Carries`).
At the peer every datagram is parsed, put into the jitter buffer, taken out again and handed to `Decode`: nothing calls
`Defragment`. While the adaptive delay is 0 the buffer holds nothing between two callbacks (`Undelayed`), because the
delay starts at 0 and never comes back to it; so what is decoded is what has just arrived.

- `decoded_iff`: the decoder gets the unit, once, exactly when the unit is not empty and fits one packet.
- `long_unit_cut`: a unit of 1461 bytes does not fit; `defragment_of_cut`: the peer has all it would need.
-/
import Mathlib.Tactic
import Rtcom.Lib.Runs
import Rtcom.Session.Media

namespace Rtcom

open Runs

/-! ## The jitter buffer without delay -/

namespace JitterBuffer

variable (S : StdSort BufferItem.seq)

/-- with the bounds of `GetOrCreateContext`, and within them -/
structure Bounded (b : JitterBuffer) : Prop where
  minDelay : b.config.minDelayMs = kJitterBufferMinMs
  maxDelay : b.config.maxDelayMs = kJitterBufferMaxMs
  bound : b.currentDelayMs ≤ kJitterBufferMaxMs

/-- nothing waits as long as the delay is 0 -/
structure Undelayed (b : JitterBuffer) : Prop extends Bounded b where
  empty : b.currentDelayMs = 0 → b.buffer = []

theorem raised_delay {d : UInt32} (h : d ≤ 200) : min 200 (d + 10) ≤ 200 ∧ min 200 (d + 10) ≠ 0 := by
  have hmin : min 200 (d + 10) = if 200 ≤ d + 10 then 200 else d + 10 := rfl
  rw [hmin]
  split_ifs with hcap
  · decide
  · constructor <;> grind

theorem lowered_delay {d : UInt32} (h : d ≤ 200) (h' : d > 20) : max 20 (d - 5) ≤ 200 ∧ max 20 (d - 5) ≠ 0 := by
  have hmax : max 20 (d - 5) = if 20 ≤ d - 5 then d - 5 else 20 := rfl
  rw [hmax]
  split_ifs with hfloor
  · constructor <;> grind
  · decide

theorem Bounded.congr {b b' : JitterBuffer} (h : b.Bounded) (hconfig : b'.config = b.config)
    (hdelay : b'.currentDelayMs = b.currentDelayMs) : b'.Bounded :=
  ⟨hconfig ▸ h.minDelay, hconfig ▸ h.maxDelay, hdelay ▸ h.bound⟩

/-- the delay stays within its bounds and never becomes 0 -/
theorem Bounded.adaptDelay {b : JitterBuffer} (h : b.Bounded) (bufferDepth : UInt32) :
    (b.adaptDelay bufferDepth).Bounded ∧ ((b.adaptDelay bufferDepth).currentDelayMs = 0 → b.currentDelayMs = 0) := by
  rw [JitterBuffer.adaptDelay, h.minDelay, h.maxDelay]
  split_ifs with hraise hlower
  · obtain ⟨hle, hne⟩ := raised_delay h.bound
    exact ⟨⟨h.minDelay, h.maxDelay, hle⟩, fun h0 => absurd h0 hne⟩
  · obtain ⟨hle, hne⟩ := lowered_delay h.bound hlower.1
    exact ⟨⟨h.minDelay, h.maxDelay, hle⟩, fun h0 => absurd h0 hne⟩
  · exact ⟨h, id⟩

theorem Bounded.dropOverflow {b : JitterBuffer} (h : b.Bounded) :
    b.dropOverflow.Bounded ∧ b.dropOverflow.currentDelayMs = b.currentDelayMs := by
  unfold JitterBuffer.dropOverflow
  exact ⟨⟨h.minDelay, h.maxDelay, h.bound⟩, rfl⟩

theorem Bounded.insert {b : JitterBuffer} (h : b.Bounded) (packet : RtpPacket) (now : ℤ) :
    (b.insert S packet now).Bounded ∧ ((b.insert S packet now).currentDelayMs = 0 → b.currentDelayMs = 0) := by
  have hmarked : ((b.enqueued S packet now).markReady now).Bounded :=
    h.congr (b.config_enqueued S packet now) (b.currentDelayMs_enqueued S packet now)
  obtain ⟨hadapted, hzero⟩ := hmarked.adaptDelay (b.enqueued S packet now).getBufferDepthMs
  obtain ⟨hdropped, hsame⟩ := hadapted.dropOverflow
  rw [insert_eq, fill_eq]
  refine ⟨hdropped, fun h0 => ?_⟩
  rw [← b.currentDelayMs_enqueued S packet now]
  apply hzero
  rw [← hsame, h0]

/-- without delay the packet is ready at once -/
theorem buffer_insert_of_empty {b : JitterBuffer} (hdelay : b.currentDelayMs = 0) (hempty : b.buffer = [])
    (packet : RtpPacket) (now : ℤ) : (b.insert S packet now).buffer = [⟨packet, now, true⟩] := by
  have hsort : S.sort [⟨packet, now, false⟩] = [⟨packet, now, false⟩] := List.perm_singleton.1 (S.perm _)
  have hmark : BufferItem.mark 0 now ⟨packet, now, false⟩ = ⟨packet, now, true⟩ := by
    simp [BufferItem.mark]
  rw [insert_eq, buffer_dropOverflow, buffer_fill, hempty, hdelay, List.nil_append, hsort, List.map_singleton, hmark,
    List.length_singleton, Nat.sub_eq_zero_of_le (by decide), List.drop_zero]

/-- **A packet passes a buffer without delay** in the callback it arrives in -/
theorem Undelayed.pass {b : JitterBuffer} (h : b.Undelayed) (packet : RtpPacket) (now : ℤ) :
    (b.insert S packet now).extract.1.Undelayed ∧
      (b.currentDelayMs = 0 → (b.insert S packet now).extract.2 = some packet) := by
  obtain ⟨hbounded, hzero⟩ := h.toBounded.insert S packet now
  have hframe : ∀ b : JitterBuffer, b.extract.1.config = b.config ∧ b.extract.1.currentDelayMs = b.currentDelayMs := by
    intro b
    unfold extract
    cases b.buffer.find? (·.ready) <;> exact ⟨rfl, rfl⟩
  obtain ⟨hconfig, hdelay⟩ := hframe (b.insert S packet now)
  refine ⟨⟨hbounded.congr hconfig hdelay, fun h0 => ?_⟩, fun h0 => ?_⟩
  · have hb := hzero (hdelay ▸ h0)
    rw [extract, buffer_insert_of_empty S hb (h.empty hb)]
    rfl
  · rw [extract, buffer_insert_of_empty S h0 (h.empty h0)]
    rfl

/-- what holds of every packet waiting and of the one inserted holds of all that wait afterwards, and of the one taken
out -/
theorem forall_pass {Q : RtpPacket → Prop} {b : JitterBuffer} (h : ∀ i ∈ b.buffer, Q i.packet) {packet : RtpPacket}
    (hpacket : Q packet) (now : ℤ) : (∀ i ∈ (b.insert S packet now).extract.1.buffer, Q i.packet) ∧
      ∀ q, (b.insert S packet now).extract.2 = some q → Q q := by
  have hinsert : ∀ i ∈ (b.insert S packet now).buffer, Q i.packet := by
    intro i hi
    rw [insert_eq, buffer_dropOverflow, buffer_fill] at hi
    obtain ⟨j, hj, rfl⟩ := List.mem_map.1 (List.mem_of_mem_drop hi)
    rw [StdSort.mem_sort, List.mem_append, List.mem_singleton] at hj
    rcases hj with hj | rfl
    · exact h j hj
    · exact hpacket
  rcases (b.insert S packet now).extract_cases with ⟨he, -⟩ | ⟨pre, i, post, hb, -, -, hbuf, hout⟩
  · rw [he]
    exact ⟨hinsert, fun q hq => by cases hq⟩
  · rw [hb] at hinsert
    rw [hbuf, hout]
    refine ⟨fun j hj => hinsert j ?_, fun q hq => ?_⟩
    · rcases List.mem_append.1 hj with hj | hj
      · exact List.mem_append_left _ hj
      · exact List.mem_append_right _ (List.mem_cons_of_mem i hj)
    · obtain rfl := Option.some.inj hq
      exact hinsert i (by simp)

end JitterBuffer

/-! ## The sender -/

/-- the datagram is not empty, and its payload is the fragment -/
def Carries (datagram fragment : List UInt8) : Prop :=
  datagram ≠ [] ∧ (RtpPacket.parse datagram).val.payload = fragment

namespace RtpSession

/-- the session can send to a target: it has a socket, and a destination -/
structure CanSend (r : RtpSession) (target : String × UInt16) : Prop where
  socket : r.sendSocket ≠ none
  addr : (r.destination target).1 ≠ ""
  port : (r.destination target).2 ≠ 0

theorem CanSend.congr {r : RtpSession} {target : String × UInt16} (h : r.CanSend target) (seq : UInt16)
    (packets : UInt32) (bytes : UInt64) :
    { r with currentSeq := seq, packetsSent := packets, bytesSent := bytes : RtpSession }.CanSend target :=
  ⟨h.socket, h.addr, h.port⟩

theorem CanSend.reaches {r : RtpSession} {target : String × UInt16} (h : r.CanSend target) {payload : List UInt8}
    (hlen : payload.length ≤ kRtpMaxPayloadSize) : r.Reaches payload target.1 target.2 :=
  ⟨h.socket, h.addr, h.port, hlen⟩

/-- a payload that fits leaves in one datagram, which carries it -/
theorem sendTo_carries {r : RtpSession} {target : String × UInt16} (h : r.CanSend target) {payload : List UInt8}
    (hlen : payload.length ≤ kRtpMaxPayloadSize) (marker : Bool) :
    ∃ d, (r.sendTo target payload marker true).2.2 = [d] ∧ Carries d.datagram payload := by
  refine ⟨⟨(r.destination target).1, (r.destination target).2, r.nextDatagram payload marker⟩, ?_, ?_, ?_⟩
  · unfold sendTo
    rw [sendPacket_of_reaches marker (h.reaches hlen)]
    rfl
  · intro hnil
    have hlength := congrArg List.length hnil
    rw [length_nextDatagram] at hlength
    exact absurd hlength (by simp [kRtpHeaderSize])
  · rw [nextDatagram, RtpPacket.val_parse_build]
    rfl

/-- every fragment leaves in a datagram of its own, in order -/
theorem sendFragments_carries {r : RtpSession} {target : String × UInt16} (h : r.CanSend target) (i : ℕ)
    {fragments : List (List UInt8)} (hlen : ∀ f ∈ fragments, f.length ≤ kRtpMaxPayloadSize) :
    List.Forall₂ (fun (d : Outgoing) f => Carries d.datagram f) (r.sendFragments target (fun _ => true) i fragments).2
      fragments := by
  induction fragments generalizing r i with
  | nil => exact .nil
  | cons fragment fragments ih =>
    obtain ⟨d, hd, hcarries⟩ := sendTo_carries h (hlen fragment List.mem_cons_self) fragments.isEmpty
    obtain ⟨seq, packets, bytes, hframe⟩ := r.sendTo_frame target fragment fragments.isEmpty true
    have hnext : (r.sendTo target fragment fragments.isEmpty true).2.1.CanSend target :=
      hframe ▸ h.congr seq packets bytes
    show List.Forall₂ _ ((r.sendTo target fragment fragments.isEmpty true).2.2 ++
      ((r.sendTo target fragment fragments.isEmpty true).2.1.sendFragments target (fun _ => true) (i + 1)
        fragments).2) _
    rw [hd]
    exact .cons hcarries (ih hnext (i + 1) fun f hf => hlen f (List.mem_cons_of_mem fragment hf))

end RtpSession

/-! ## The peer -/

section Peer

variable (S : StdSort BufferItem.seq)

/-- an operation on the media of a context -/
inductive MediaOp where
  | receive (medium : Medium) (received : Option (List UInt8 × String × UInt16)) (now : ℤ)
  | sendAudioFrame (encoded : Option (List UInt8)) (samples : ℕ) (sendOk : Bool)
  | sendVideoFrame (videoFps : UInt32) (encoded : Option (List UInt8)) (sendOk : ℕ → Bool)

namespace CallContext

def mediaStep (ctx : CallContext) : MediaOp → CallContext
  | .receive medium received now => (ctx.receive S received now medium).1
  | .sendAudioFrame encoded samples sendOk => (ctx.sendAudioFrame encoded samples sendOk).2.1
  | .sendVideoFrame videoFps encoded sendOk => (ctx.sendVideoFrame videoFps encoded sendOk).2.1

/-- the video callbacks for datagrams that arrive in order, from the i-th on: sources, times, and what is handed on -/
def receiveAll (ctx : CallContext) (source : ℕ → String × UInt16) (clock : ℕ → ℤ) :
    ℕ → List Outgoing → CallContext × List MediaOut
  | _, [] => (ctx, [])
  | i, d :: ds =>
    let (ctx, out) := ctx.receive S (some (d.datagram, source i)) (clock i) .video
    let (ctx, rest) := ctx.receiveAll source clock (i + 1) ds
    (ctx, out.toList ++ rest)

/-- a context that can receive video, with a jitter buffer that keeps nothing while its delay is 0 -/
structure Listening (ctx : CallContext) : Prop where
  socket : ctx.videoRtp.recvSocket ≠ none
  jitter : ctx.videoJitter.Undelayed

/-- a video callback: a packet that is received passes the jitter buffer -/
theorem receive_video (ctx : CallContext) (received : Option (List UInt8 × String × UInt16)) (now : ℤ) :
    let rtp := (ctx.videoRtp.receivePacket received).2
    let passed := (ctx.videoJitter.insert S rtp.lastPacket now).extract
    ctx.receive S received now .video =
      if (ctx.videoRtp.receivePacket received).1 ≤ 0 then ({ ctx with videoRtp := rtp }, none)
      else ({ ctx with videoRtp := rtp, videoJitter := passed.1 },
        passed.2.bind fun p => onRtpData RtpPayloadType.kH264.toUInt8 p.payload) := by
  rcases hr : ctx.videoRtp.receivePacket received with ⟨n, rtp⟩
  rcases hp : (ctx.videoJitter.insert S rtp.lastPacket now).extract with ⟨jitter, ready⟩
  simp only [receive, hr, hp]

theorem receive_listening {ctx : CallContext} (h : ctx.Listening)
    (received : Option (List UInt8 × String × UInt16)) (now : ℤ) : (ctx.receive S received now .video).1.Listening := by
  have hsocket : (ctx.videoRtp.receivePacket received).2.recvSocket ≠ none := by
    rw [RtpSession.receivePacket_socket]
    exact h.socket
  have hpass := (h.jitter.pass S (ctx.videoRtp.receivePacket received).2.lastPacket now).1
  rw [receive_video]
  generalize (ctx.videoJitter.insert S (ctx.videoRtp.receivePacket received).2.lastPacket now).extract = passed
    at hpass ⊢
  split_ifs
  · exact ⟨hsocket, h.jitter⟩
  · exact ⟨hsocket, hpass⟩

theorem sendVideoFrame_listening {ctx : CallContext} (h : ctx.Listening) (videoFps : UInt32)
    (encoded : Option (List UInt8)) (sendOk : ℕ → Bool) :
    (ctx.sendVideoFrame videoFps encoded sendOk).2.1.Listening := by
  cases encoded with
  | none => exact h
  | some unit =>
    obtain ⟨seq, packets, bytes, hframe⟩ := ctx.videoRtp.sendFragments_frame ctx.videoTarget sendOk 0
      (H264Fragmenter.fragment unit kRtpMaxPayloadSize)
    refine ⟨?_, h.jitter⟩
    show ((ctx.videoRtp.sendFragments ctx.videoTarget sendOk 0 _).1.advanceTimestamp _).recvSocket ≠ none
    rw [hframe]
    exact h.socket

theorem mediaStep_listening (ctx : CallContext) (o : MediaOp) (h : ctx.Listening) :
    (ctx.mediaStep S o).Listening := by
  cases o with
  | receive medium received now =>
    cases medium with
    | video => exact receive_listening S h received now
    | audio =>
      simp only [mediaStep, receive]
      split_ifs
      · exact ⟨h.socket, h.jitter⟩
      · exact ⟨h.socket, h.jitter⟩
  | sendAudioFrame encoded samples sendOk => cases encoded <;> exact ⟨h.socket, h.jitter⟩
  | sendVideoFrame videoFps encoded sendOk => exact sendVideoFrame_listening h videoFps encoded sendOk

theorem newContext_listening (media : MediaConfig) (res : Resources) (callId : String) (info : CallSessionInfo) :
    (Session.newContext media res callId info).Listening :=
  ⟨by simp [Session.newContext, RtpSession.openRecvSocket], ⟨⟨rfl, rfl, UInt32.zero_le⟩, fun _ => rfl⟩⟩

/-! ### What is decoded -/

variable {S} {source : ℕ → String × UInt16} {clock : ℕ → ℤ}

/-- one datagram: its packet passes the jitter buffer -/
theorem receive_datagram {ctx : CallContext} (h : ctx.Listening) {datagram : List UInt8} (hne : datagram ≠ [])
    (source : String × UInt16) (now : ℤ) :
    let passed := (ctx.videoJitter.insert S (RtpPacket.parse datagram).val now).extract
    ∃ rtp, ctx.receive S (some (datagram, source)) now .video = ({ ctx with videoRtp := rtp, videoJitter := passed.1 },
      passed.2.bind fun p => onRtpData RtpPayloadType.kH264.toUInt8 p.payload) := by
  obtain ⟨rtp, hreceived, hlast, -⟩ := RtpSession.receivePacket_some h.socket hne source
  have hpos : ¬ (1 : ℤ) ≤ 0 := by decide
  refine ⟨rtp, ?_⟩
  rw [receive_video, hreceived]
  simp only [if_neg hpos, hlast]

/-- without delay, the payload of one datagram is handed on -/
theorem receiveAll_single {ctx : CallContext} (h : ctx.Listening) (hdelay : ctx.videoJitter.currentDelayMs = 0)
    {d : Outgoing} {payload : List UInt8} (hd : Carries d.datagram payload) (i : ℕ) :
    (ctx.receiveAll S source clock i [d]).2 = if payload = [] then [] else [.decodeVideo payload] := by
  obtain ⟨hne, rfl⟩ := hd
  obtain ⟨rtp, hreceive⟩ := receive_datagram (S := S) h hne (source i) (clock i)
  have hpass := (h.jitter.pass S (RtpPacket.parse d.datagram).val (clock i)).2 hdelay
  rw [hpass] at hreceive
  simp only [receiveAll, hreceive, Option.bind_some, onRtpData_h264, List.append_nil]
  split_ifs <;> rfl

/-- where only units up to a length are waiting and arriving, only such units are decoded -/
theorem receiveAll_short {k : ℕ} {ctx : CallContext} (h : ctx.Listening)
    (hwait : ∀ i ∈ ctx.videoJitter.buffer, i.packet.payload.length ≤ k) {ds : List Outgoing}
    {fragments : List (List UInt8)} (hds : List.Forall₂ (fun d f => Carries d.datagram f) ds fragments)
    (hlen : ∀ f ∈ fragments, f.length ≤ k) (i : ℕ) :
    ∀ out ∈ (ctx.receiveAll S source clock i ds).2, ∃ unit, out = .decodeVideo unit ∧ unit.length ≤ k := by
  induction hds generalizing ctx i with
  | nil => simp [receiveAll]
  | @cons d fragment ds fragments hd _ ih =>
    obtain ⟨hne, rfl⟩ := hd
    obtain ⟨hfirst, hrest⟩ := List.forall_mem_cons.1 hlen
    obtain ⟨rtp, hreceive⟩ := receive_datagram (S := S) h hne (source i) (clock i)
    obtain ⟨hwait', hout⟩ := JitterBuffer.forall_pass S (Q := fun p => p.payload.length ≤ k) hwait hfirst (clock i)
    have hlisten := receive_listening S h (some (d.datagram, source i)) (clock i)
    intro out hmem
    unfold receiveAll at hmem
    rw [hreceive] at hmem hlisten
    generalize (ctx.videoJitter.insert S (RtpPacket.parse d.datagram).val (clock i)).extract = passed
      at hwait' hout hmem hlisten
    rcases List.mem_append.1 hmem with hmem | hmem
    · obtain ⟨p, hp, hdata⟩ := Option.bind_eq_some_iff.1 (Option.mem_toList.1 hmem)
      rw [onRtpData_h264] at hdata
      split_ifs at hdata
      exact ⟨p.payload, (Option.some.inj hdata).symm, hout p hp⟩
    · exact ih hlisten hwait' hrest (i + 1) out hmem

/-! ## From the encoder to the decoder -/

variable {sender peer : CallContext} {videoFps : UInt32} {unit : List UInt8}

variable (videoFps unit) in
/-- the datagrams of a unit carry its fragments -/
theorem sendVideoFrame_carries (hsend : sender.videoRtp.CanSend sender.videoTarget) :
    List.Forall₂ (fun (d : Outgoing) f => Carries d.datagram f)
      (sender.sendVideoFrame videoFps (some unit) fun _ => true).2.2
      (H264Fragmenter.fragment unit kRtpMaxPayloadSize) := by
  refine RtpSession.sendFragments_carries hsend 0 fun f hf => ?_
  by_cases hlen : unit.length ≤ kRtpMaxPayloadSize
  · rw [H264Fragmenter.fragment, if_pos hlen] at hf
    rw [List.mem_singleton.1 hf]
    exact hlen
  · have hmax : 2 + H264Fragmenter.kMaxFuPayload ≤ kRtpMaxPayloadSize := by decide
    exact (H264Fragmenter.length_fragment (not_le.1 hlen) f hf).trans hmax

variable (S sender videoFps unit peer source clock) in
/-- what the peer hands to its decoder when a unit is sent and every datagram arrives, in order -/
def decoded : List MediaOut :=
  (peer.receiveAll S source clock 0 (sender.sendVideoFrame videoFps (some unit) fun _ => true).2.2).2

/-- a unit that fits one packet -/
theorem decoded_of_fits (hsend : sender.videoRtp.CanSend sender.videoTarget) (h : peer.Listening)
    (hdelay : peer.videoJitter.currentDelayMs = 0) (hlen : unit.length ≤ kRtpMaxPayloadSize) :
    decoded S source clock sender peer videoFps unit = if unit = [] then [] else [.decodeVideo unit] := by
  have hsent := sendVideoFrame_carries videoFps unit hsend
  unfold decoded
  generalize (sender.sendVideoFrame videoFps (some unit) fun _ => true).2.2 = sent at hsent ⊢
  rw [H264Fragmenter.fragment, if_pos hlen] at hsent
  obtain ⟨d, ds, hd, hnil, rfl⟩ := List.forall₂_cons_right_iff.1 hsent
  rw [List.forall₂_nil_right_iff.1 hnil]
  exact receiveAll_single h hdelay hd 0

/-- a unit that is cut: its fragments are decoded one by one -/
theorem decoded_of_cut (hsend : sender.videoRtp.CanSend sender.videoTarget) (h : peer.Listening)
    (hdelay : peer.videoJitter.currentDelayMs = 0) (hlen : kRtpMaxPayloadSize < unit.length) :
    decoded S source clock sender peer videoFps unit ≠ [.decodeVideo unit] := by
  have hwait : ∀ i ∈ peer.videoJitter.buffer, i.packet.payload.length ≤ 2 + H264Fragmenter.kMaxFuPayload := by
    simp [h.jitter.empty hdelay]
  have hsent := sendVideoFrame_carries videoFps unit hsend
  have hmax : 2 + H264Fragmenter.kMaxFuPayload < kRtpMaxPayloadSize := by decide
  intro hdecoded
  have hout : MediaOut.decodeVideo unit ∈ decoded S source clock sender peer videoFps unit := by
    rw [hdecoded]
    exact List.mem_singleton_self _
  obtain ⟨unit', heq, hlen'⟩ := receiveAll_short h hwait hsent (H264Fragmenter.length_fragment hlen) 0 _ hout
  obtain rfl := MediaOut.decodeVideo.inj heq
  omega

/-- `Defragment` would put the payloads of its datagrams together again -/
theorem defragment_of_cut (hsend : sender.videoRtp.CanSend sender.videoTarget)
    (hlen : kRtpMaxPayloadSize < unit.length) (completeNal : List UInt8) :
    H264Fragmenter.defragment ((sender.sendVideoFrame videoFps (some unit) fun _ => true).2.2.map
      fun d => (RtpPacket.parse d.datagram).val.payload) completeNal = (true, unit) := by
  have hpayloads : ∀ {ds : List Outgoing} {fragments : List (List UInt8)},
      List.Forall₂ (fun d f => Carries d.datagram f) ds fragments →
        (ds.map fun d => (RtpPacket.parse d.datagram).val.payload) = fragments := by
    intro ds fragments h
    induction h with
    | nil => rfl
    | cons hd _ ih => rw [List.map_cons, ih, hd.2]
  rw [hpayloads (sendVideoFrame_carries videoFps unit hsend)]
  exact H264Fragmenter.defragment_fragment hlen (by decide) completeNal

/-- a context of `GetOrCreateContext` after some operations, its video callback free of delay -/
theorem listening_of_history (S : StdSort BufferItem.seq) (media : MediaConfig) (res : Resources) (callId : String)
    (info : CallSessionInfo) (history : List MediaOp) :
    (exec (mediaStep S) (Session.newContext media res callId info) history).Listening :=
  exec_preserves (mediaStep_listening S) (newContext_listening media res callId info) history

variable (S) in
/-- **From the encoder to the decoder**: of a unit that is sent to a peer with delay 0, and of which no packet is lost
or overtaken, the decoder of the peer gets exactly the unit, once, if and only if the unit fits one packet and is not
empty -/
theorem decoded_iff (media : MediaConfig) (res : Resources) (callId : String) (info : CallSessionInfo)
    (history : List MediaOp) (sender : CallContext) (hsend : sender.videoRtp.CanSend sender.videoTarget)
    (videoFps : UInt32) (unit : List UInt8) (source : ℕ → String × UInt16) (clock : ℕ → ℤ) :
    let peer := exec (mediaStep S) (Session.newContext media res callId info) history
    peer.videoJitter.currentDelayMs = 0 →
      (decoded S source clock sender peer videoFps unit = [.decodeVideo unit] ↔
        1 ≤ unit.length ∧ unit.length ≤ kRtpMaxPayloadSize) := by
  intro peer hdelay
  have h : peer.Listening := listening_of_history S media res callId info history
  by_cases hlen : unit.length ≤ kRtpMaxPayloadSize
  · rw [decoded_of_fits hsend h hdelay hlen]
    rcases unit with _ | ⟨b, unit⟩
    · simp
    · exact iff_of_true (if_neg (List.cons_ne_nil b unit)) ⟨by simp, hlen⟩
  · exact iff_of_false (decoded_of_cut hsend h hdelay (not_le.1 hlen)) fun hfits => hlen hfits.2

/-- a context with all sockets open, for a remote side at 10.0.0.9 -/
def exampleContext : CallContext :=
  Session.newContext {} ((SessionEnv.constant "ab" []).resources 0) "a1"
    ⟨"", .kConnected, 1, 5004, 5010, 4000, 4002, "10.0.0.9"⟩

theorem canSend_exampleContext : exampleContext.videoRtp.CanSend exampleContext.videoTarget :=
  ⟨by simp [exampleContext, Session.newContext, RtpSession.openSendSocket, RtpSession.openRecvSocket],
    by decide, by decide⟩

/-- a unit of three bytes, to a peer that has just created its context -/
theorem decoded_iff_three :
    let S := StdSort.insertion BufferItem.seq
    decoded S (fun _ => ("10.0.0.9", 4002)) (fun _ => 0) exampleContext exampleContext 30 [0x65, 1, 2] =
      [.decodeVideo [0x65, 1, 2]] ↔ 1 ≤ 3 ∧ 3 ≤ kRtpMaxPayloadSize :=
  decoded_iff (.insertion _) {} ((SessionEnv.constant "ab" []).resources 0) "a1" _ [] exampleContext
    canSend_exampleContext 30 [0x65, 1, 2] _ _ rfl

/-- **A unit that is cut is never put together again**: the decoder gets the FU-A fragments of 1461 bytes -/
theorem long_unit_cut : ¬ ∀ (S : StdSort BufferItem.seq) (media : MediaConfig) (res : Resources) (callId : String)
    (info : CallSessionInfo) (history : List MediaOp) (sender : CallContext),
    sender.videoRtp.CanSend sender.videoTarget →
    ∀ (videoFps : UInt32) (unit : List UInt8) (source : ℕ → String × UInt16) (clock : ℕ → ℤ),
      let peer := exec (mediaStep S) (Session.newContext media res callId info) history
      peer.videoJitter.currentDelayMs = 0 → decoded S source clock sender peer videoFps unit = [.decodeVideo unit] := by
  intro h
  set unit : List UInt8 := List.replicate 1461 0x65
  have hlen : kRtpMaxPayloadSize < unit.length := by
    rw [List.length_replicate]
    decide
  have hlisten : exampleContext.Listening := newContext_listening _ _ _ _
  exact decoded_of_cut canSend_exampleContext hlisten rfl hlen
    (h (.insertion _) _ _ _ _ [] exampleContext canSend_exampleContext 30 unit (fun _ => ("10.0.0.9", 4002))
      (fun _ => 0) rfl)

end CallContext

end Peer

end Rtcom
