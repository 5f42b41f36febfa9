/-
Calls that send each other audio and video. An `Endpoint` is a call with the units its callbacks have handed on; a
datagram that reaches `sendto` is on its way to the socket that `route` finds at its destination (a datagram whose
`sendto` fails is one that gets lost). RTCP datagrams travel the same way, and whoever receives one takes it for RTP.

- `media_conserved`: in every run, the packets that were delivered to a socket of a call are those taken out of its
  jitter buffer, those waiting there and those that its overflow loop dropped (`ledger`); what was handed on is what was
  taken out.
- `played_recorded`: if nobody else sends and the sockets are paired, every unit handed to a decoder was recorded: an
  audio unit is a frame that some call sent here, cut as `Unpack` cuts it, a video unit is a fragment of a unit that
  some call sent here.
-/
import Mathlib.Tactic
import Rtcom.Lib.Network
import Rtcom.Rtp.JitterLedger
import Rtcom.Session.Backlog

namespace Rtcom

open Runs Network

/-! ## What is sent -/

namespace RtpSession

/-- what a packet of a session looks like to a receiver -/
structure Delivers (r : RtpSession) (unit datagram : List UInt8) : Prop where
  payload : (RtpPacket.parse datagram).val.payload = unit
  payloadType : (RtpPacket.parse datagram).val.payloadType = r.payloadType.toUInt8
  fits : unit.length ≤ kRtpMaxPayloadSize

theorem delivers_nextDatagram (r : RtpSession) {payload : List UInt8} (hfits : payload.length ≤ kRtpMaxPayloadSize)
    (marker : Bool) : r.Delivers payload (r.nextDatagram payload marker) := by
  have hpt : r.payloadType.toUInt8 < 128 := by cases r.payloadType <;> decide
  refine ⟨?_, ?_, hfits⟩
  · rw [nextDatagram, RtpPacket.val_parse_build]
    rfl
  · rw [nextDatagram, RtpPacket.val_parse_build]
    exact RtpPacket.payloadType_build _ _ _ _ _ _ hpt

theorem sendTo_delivers (r : RtpSession) (target : String × UInt16) (payload : List UInt8) (marker sendOk : Bool) :
    ∀ d ∈ (r.sendTo target payload marker sendOk).2.2, r.Delivers payload d.datagram := by
  intro d hd
  by_cases h : r.Reaches payload target.1 target.2
  · rw [sendTo_of_reaches h] at hd
    obtain rfl := List.mem_singleton.1 hd
    exact r.delivers_nextDatagram h.fits marker
  · rw [sendTo_of_not_reaches h] at hd
    cases hd

theorem sendFragments_delivers (r : RtpSession) (target : String × UInt16) (sendOk : ℕ → Bool) (i : ℕ)
    (fragments : List (List UInt8)) :
    ∀ d ∈ (r.sendFragments target sendOk i fragments).2, ∃ fragment ∈ fragments, r.Delivers fragment d.datagram := by
  induction fragments generalizing r i with
  | nil => simp [sendFragments]
  | cons fragment fragments ih =>
    intro d hd
    rcases List.mem_append.1 hd with hd | hd
    · exact ⟨fragment, List.mem_cons_self, r.sendTo_delivers _ _ _ _ d hd⟩
    · obtain ⟨f, hf, hdelivers⟩ := ih _ _ d hd
      obtain ⟨seq, packets, bytes, hframe⟩ := r.sendTo_frame target fragment fragments.isEmpty (sendOk i)
      have hpt : (r.sendTo target fragment fragments.isEmpty (sendOk i)).2.1.payloadType = r.payloadType := by
        rw [hframe]
      exact ⟨f, List.mem_cons_of_mem _ hf, hdelivers.payload, hpt ▸ hdelivers.payloadType, hdelivers.fits⟩

end RtpSession

/-! ## The network -/

/-- what the application and the RTCP timer do with a call -/
inductive CallAct where
  | sendAudioFrame (encoded : Option (List UInt8)) (samples : ℕ) (sendOk : Bool)
  | sendVideoFrame (videoFps : UInt32) (encoded : Option (List UInt8)) (sendOk : ℕ → Bool)
  | onRtcpTimer (nowNtp : UInt64)

def CallContext.perform (ctx : CallContext) : CallAct → CallContext × List Outgoing
  | .sendAudioFrame encoded samples sendOk => (ctx.sendAudioFrame encoded samples sendOk).2
  | .sendVideoFrame videoFps encoded sendOk => (ctx.sendVideoFrame videoFps encoded sendOk).2
  | .onRtcpTimer nowNtp => (ctx, ctx.rtcpReport nowNtp)

structure Endpoint where
  ctx : CallContext
  handed : Medium → List MediaOut

namespace Endpoint

def new (ctx : CallContext) : Endpoint := ⟨ctx, fun _ => []⟩

variable (S : StdSort BufferItem.seq)

def receive (s : Endpoint) (medium : Medium) (datagram : List UInt8) (source : String × UInt16) (now : ℤ) : Endpoint :=
  let (ctx, out) := s.ctx.receive S (some (datagram, source)) now medium
  ⟨ctx, Function.update s.handed medium (s.handed medium ++ out.toList)⟩

theorem receive_eq (s : Endpoint) (medium : Medium) (datagram : List UInt8) (source : String × UInt16) (now : ℤ) :
    s.receive S medium datagram source now = ⟨(s.ctx.receive S (some (datagram, source)) now medium).1,
      Function.update s.handed medium
        (s.handed medium ++ (s.ctx.receive S (some (datagram, source)) now medium).2.toList)⟩ := rfl

end Endpoint

section Network

variable {ι : Type}

/-- the datagrams that lead to a call are on their way to it -/
def routed (route : String × UInt16 → Option (ι × Medium)) (source : ι) (sent : List Outgoing) :
    List (Packet ι (Medium × List UInt8)) :=
  sent.filterMap fun d => (route (d.addr, d.port)).map fun t => ⟨source, t.1, t.2, d.datagram⟩

/-- calls at their addresses; a datagram arrives with a source and at a time -/
def mediaNet (S : StdSort BufferItem.seq) (route : String × UInt16 → Option (ι × Medium)) :
    Protocol ι Endpoint (Medium × List UInt8) ((String × UInt16) × ℤ) CallAct where
  receive _ e p s := (s.receive S p.message.1 p.message.2 e.1 e.2, [])
  act i a s :=
    let (ctx, sent) := s.ctx.perform a
    ({ s with ctx := ctx }, routed route i sent)

end Network

/-! ## Conservation -/

/-- what a callback does with a packet from the jitter buffer -/
def hand : Medium → RtpPacket → Option MediaOut
  | .audio, p => onRtpData p.payloadType p.payload
  | .video, p => onRtpData RtpPayloadType.kH264.toUInt8 p.payload

/-- the receiving end of `Pack` -/
theorem onRtpData_pack {frame : List UInt8} (h : frame.length ≤ 8191) :
    onRtpData RtpPayloadType.kAAC.toUInt8 (AacPacketizer.pack frame) = some (.decodeAudio
      ((AacPacketizer.sizeHigh frame.length :: AacPacketizer.sizeLow frame.length :: frame).take frame.length)) := by
  have hne : AacPacketizer.pack frame ≠ [] := List.cons_ne_nil _ _
  rw [onRtpData, if_neg hne, if_pos rfl]
  simp only [AacPacketizer.unpack_pack frame [] h, if_true]

namespace CallContext

variable (S : StdSort BufferItem.seq)

/-- a datagram that is not empty: what the callback hands on is what it makes of the packet it takes out -/
theorem receive_out {ctx : CallContext} {medium : Medium} (hsocket : (ctx.rtp medium).recvSocket ≠ none)
    {datagram : List UInt8} (hne : datagram ≠ []) (source : String × UInt16) (now : ℤ) :
    (ctx.receive S (some (datagram, source)) now medium).2 =
      ((ctx.jitter medium).insert S (RtpPacket.parse datagram).val now).extract.2.bind (hand medium) := by
  obtain ⟨r', hreceived, hlast, -⟩ := RtpSession.receivePacket_some hsocket hne source
  have hpos : ¬ (1 : ℤ) ≤ 0 := by decide
  cases medium
  all_goals
    simp only [rtp] at hreceived
    simp only [receive, jitter, hreceived, hlast, if_neg hpos]
    rfl

/-- a callback keeps the sockets -/
theorem receive_sockets (ctx : CallContext) (received : Option (List UInt8 × String × UInt16)) (now : ℤ)
    (medium other : Medium) :
    ((ctx.receive S received now medium).1.rtp other).recvSocket = (ctx.rtp other).recvSocket := by
  cases medium <;> cases other
  all_goals
    simp only [receive, rtp]
    split_ifs <;> first | rfl | exact RtpSession.receivePacket_socket _ _

/-- an act leaves the jitter buffers and what they are set up for, and of the sessions all but the packet counters -/
theorem perform_frame (ctx : CallContext) (a : CallAct) (medium : Medium) :
    (ctx.perform a).1.jitter medium = ctx.jitter medium ∧ (ctx.perform a).1.info = ctx.info ∧
      ∃ seq timestamp packets bytes, (ctx.perform a).1.rtp medium = { ctx.rtp medium with
        currentSeq := seq, currentTimestamp := timestamp, packetsSent := packets, bytesSent := bytes } := by
  cases a with
  | onRtcpTimer nowNtp => exact ⟨rfl, rfl, _, _, _, _, rfl⟩
  | sendAudioFrame encoded samples sendOk =>
    cases encoded with
    | none => exact ⟨rfl, rfl, _, _, _, _, rfl⟩
    | some frame =>
      obtain ⟨seq, packets, bytes, h⟩ := (ctx.audioRtp.advanceTimestamp (UInt32.ofNat samples)).sendTo_frame
        ctx.audioTarget (AacPacketizer.pack frame) false sendOk
      have hctx : (ctx.perform (.sendAudioFrame (some frame) samples sendOk)).1 = { ctx with audioRtp := _ } :=
        congrArg (fun r => { ctx with audioRtp := r }) h
      rw [hctx]
      cases medium <;> exact ⟨rfl, rfl, _, _, _, _, rfl⟩
  | sendVideoFrame videoFps encoded sendOk =>
    cases encoded with
    | none => exact ⟨rfl, rfl, _, _, _, _, rfl⟩
    | some unit =>
      obtain ⟨seq, packets, bytes, h⟩ := ctx.videoRtp.sendFragments_frame ctx.videoTarget sendOk 0
        (H264Fragmenter.fragment unit kRtpMaxPayloadSize)
      have hctx : (ctx.perform (.sendVideoFrame videoFps (some unit) sendOk)).1 = { ctx with videoRtp := _ } :=
        congrArg (fun r => { ctx with videoRtp := RtpSession.advanceTimestamp r (90000 / videoFps) }) h
      rw [hctx]
      cases medium <;> exact ⟨rfl, rfl, _, _, _, _, rfl⟩

end CallContext

section Books

variable {ι : Type}

/-- the packets that datagrams for a medium become -/
def parsed (medium : Medium) (D : Multiset (Packet ι (Medium × List UInt8))) : Multiset RtpPacket :=
  (D.filter fun p => p.message.1 = medium ∧ p.message.2 ≠ []).map fun p => (RtpPacket.parse p.message.2).val

/-- what a call is given: datagrams, with their source and the time, and acts of its own -/
abbrev Given (ι : Type) := (((String × UInt16) × ℤ) × Packet ι (Medium × List UInt8)) ⊕ CallAct

/-- the calls to the jitter buffer of a medium: `Insert` and `Extract` for each datagram that is not empty -/
def jitterOps (medium : Medium) : Given ι → List JitterOp
  | .inl (e, p) =>
    if p.message.1 = medium ∧ p.message.2 ≠ [] then [.insert (RtpPacket.parse p.message.2).val e.2, .extract] else []
  | .inr _ => []

variable (S : StdSort BufferItem.seq) (media : MediaConfig)

/-- the books of the jitter buffer of a medium, of a call that was given bs -/
def ledger (medium : Medium) (bs : List (Given ι)) : Ledger :=
  exec (Ledger.step S) (.start { sampleRate := media.audioSampleRate, initialDelayMs := 0 })
    (bs.flatMap (jitterOps medium))

theorem ledger_concat (medium : Medium) (bs : List (Given ι)) (b : Given ι) :
    ledger S media medium (bs ++ [b]) = exec (Ledger.step S) (ledger S media medium bs) (jitterOps medium b) := by
  rw [ledger, ledger, List.flatMap_append, List.flatMap_singleton, exec_append]

theorem balanced_ledger (medium : Medium) (bs : List (Given ι)) : (ledger S media medium bs).Balanced :=
  exec_preserves (Ledger.step_balanced S) ⟨Nat.zero_le _, List.Pairwise.nil, rfl, rfl⟩ _

/-- a call that was given bs, and its books -/
structure Kept (bs : List (Given ι)) (s : Endpoint) : Prop where
  socket : ∀ medium, (s.ctx.rtp medium).recvSocket ≠ none
  jb : ∀ medium, (ledger S media medium bs).jb = s.ctx.jitter medium
  inserted : ∀ medium, ((ledger S media medium bs).inserted : Multiset RtpPacket) = parsed (ι := ι) medium (packets bs)
  handed : ∀ medium, s.handed medium = (ledger S media medium bs).out.filterMap (hand medium)

theorem kept_new (res : Resources) (callId : String) (info : CallSessionInfo) :
    Kept S media ([] : List (Given ι)) (.new (Session.newContext media res callId info)) := by
  refine ⟨fun medium => ?_, fun medium => ?_, fun _ => rfl, fun _ => rfl⟩
  · cases medium <;> exact Option.some_ne_none _
  · cases medium <;> rfl

variable {S} {media} {bs : List (Given ι)} {s : Endpoint}

theorem parsed_concat (medium : Medium) (e : (String × UInt16) × ℤ) (p : Packet ι (Medium × List UInt8)) :
    parsed (ι := ι) medium (packets (bs ++ [.inl (e, p)])) = parsed (ι := ι) medium (packets bs) +
      if p.message.1 = medium ∧ p.message.2 ≠ [] then {(RtpPacket.parse p.message.2).val} else 0 := by
  have hpackets : packets (bs ++ [.inl (e, p)]) = packets bs ++ [p] := List.filterMap_append
  rw [hpackets, ← Multiset.coe_add, parsed, parsed, Multiset.filter_add, Multiset.map_add, Multiset.coe_singleton,
    Multiset.filter_singleton]
  split_ifs <;> simp

/-- nothing arrived for this medium -/
theorem receive_unchanged (hsocket : ∀ medium, (s.ctx.rtp medium).recvSocket ≠ none) {medium arrived : Medium}
    {datagram : List UInt8} (h : ¬ (arrived = medium ∧ datagram ≠ [])) (source : String × UInt16) (now : ℤ) :
    (s.receive S arrived datagram source now).ctx.jitter medium = s.ctx.jitter medium ∧
      (s.receive S arrived datagram source now).handed medium = s.handed medium := by
  rw [Endpoint.receive_eq]
  by_cases hmedium : medium = arrived
  · subst hmedium
    obtain rfl : datagram = [] := by
      by_contra hne
      exact h ⟨rfl, hne⟩
    rw [CallContext.receive_nil S (hsocket medium)]
    exact ⟨rfl, by simp⟩
  · exact ⟨CallContext.receive_other S s.ctx _ now hmedium, Function.update_of_ne hmedium _ _⟩

/-- a datagram that is not empty goes into the buffer as a packet, and one may come out and is handed on -/
theorem kept_receive (h : Kept S media bs s) (e : (String × UInt16) × ℤ) (p : Packet ι (Medium × List UInt8)) :
    Kept S media (bs ++ [.inl (e, p)]) (s.receive S p.message.1 p.message.2 e.1 e.2) := by
  refine ⟨fun medium => ?_, fun medium => ?_, fun medium => ?_, fun medium => ?_⟩
  · rw [Endpoint.receive_eq, CallContext.receive_sockets]
    exact h.socket medium
  · rw [ledger_concat, jitterOps]
    by_cases hnew : p.message.1 = medium ∧ p.message.2 ≠ []
    · obtain ⟨rfl, hne⟩ := hnew
      rw [if_pos ⟨rfl, hne⟩, Endpoint.receive_eq, (CallContext.receive_some S (h.socket p.message.1) hne e.1 e.2).1,
        ← h.jb]
      simp only [exec, List.foldl_cons, List.foldl_nil, Ledger.step, Play.step]
    · rw [if_neg hnew, (receive_unchanged (S := S) h.socket hnew e.1 e.2).1]
      exact h.jb medium
  · rw [ledger_concat, jitterOps, parsed_concat]
    by_cases hnew : p.message.1 = medium ∧ p.message.2 ≠ []
    · rw [if_pos hnew, if_pos hnew, ← h.inserted]
      rfl
    · rw [if_neg hnew, if_neg hnew, add_zero]
      exact h.inserted medium
  · rw [ledger_concat, jitterOps]
    by_cases hnew : p.message.1 = medium ∧ p.message.2 ≠ []
    · obtain ⟨rfl, hne⟩ := hnew
      have hout := CallContext.receive_out S (h.socket p.message.1) hne e.1 e.2
      rw [if_pos ⟨rfl, hne⟩]
      simp only [Endpoint.receive_eq, Function.update_self, hout, h.handed, ← h.jb, exec, List.foldl_cons,
        List.foldl_nil, Ledger.step, Play.step, List.filterMap_append]
      cases ((ledger S media p.message.1 bs).jb.insert S (RtpPacket.parse p.message.2).val e.2).extract.2 with
      | none => rfl
      | some q => cases hq : hand p.message.1 q <;> simp [hq]
    · rw [if_neg hnew, (receive_unchanged (S := S) h.socket hnew e.1 e.2).2]
      exact h.handed medium

theorem kept_act (h : Kept S media bs s) (a : CallAct) :
    Kept S media (bs ++ [.inr a]) { s with ctx := (s.ctx.perform a).1 } := by
  have hledger : ∀ medium, ledger S media medium (bs ++ [.inr a]) = ledger S media medium bs := fun medium =>
    ledger_concat S media medium bs (.inr a)
  have hpackets : packets (bs ++ [.inr a]) = packets bs := by
    rw [packets, List.filterMap_append]
    exact List.append_nil _
  refine ⟨fun medium => ?_, fun medium => ?_, fun medium => ?_, fun medium => ?_⟩
  · obtain ⟨-, -, _, _, _, _, hrtp⟩ := s.ctx.perform_frame a medium
    rw [hrtp]
    exact h.socket medium
  · rw [hledger, (s.ctx.perform_frame a medium).1]
    exact h.jb medium
  · rw [hledger, hpackets]
    exact h.inserted medium
  · rw [hledger]
    exact h.handed medium

end Books

section Runs

variable {ι : Type} [DecidableEq ι] (S : StdSort BufferItem.seq) (route : String × UInt16 → Option (ι × Medium))
  (media : ι → MediaConfig) (res : ι → Resources) (callId : ι → String) (info : ι → CallSessionInfo)

/-- the calls once they have been set up -/
def newCalls (i : ι) : Endpoint := .new (Session.newContext (media i) (res i) (callId i) (info i))

section

variable (F : Multiset (Packet ι (Medium × List UInt8)))
  (es : List (Event ι (Medium × List UInt8) ((String × UInt16) × ℤ) CallAct))

/-- what a call is given in a run, datagrams and acts, in order -/
def givenTo (i : ι) : List (Given ι) :=
  Interleave.trace (Network.step (mediaNet S route)) given i (start (newCalls media res callId info) F) es

theorem exec_kept (i : ι) : Kept S (media i) (givenTo S route media res callId info F es i)
    ((exec (Network.step (mediaNet S route)) (start (newCalls media res callId info) F) es).node i) :=
  exec_given (N := mediaNet S route) (A := fun _ => True) (J := fun i => Kept S (media i))
    (fun e p _ _ _ h => kept_receive h e p) (fun _ a _ _ h => kept_act h a)
    (fun i => kept_new S (media i) (res i) (callId i) (info i)) F es (fun _ _ => trivial) i

/-- the packets that a call was given are those that were delivered to it -/
theorem arrived_eq (i : ι) :
    (exec (Network.step (mediaNet S route)) (start (newCalls media res callId info) F) es).arrived i =
      packets (givenTo S route media res callId info F es i) := by
  rw [arrived_exec]
  exact zero_add _

end

/-- **No packet gets lost inside the program.** In every run of a network of calls, whatever is lost, doubled or sent
by others on the way: what was on its way and does not fly any more was delivered or lost, and of what was delivered to
a socket of a call each datagram that is not empty was taken out of the jitter buffer, waits there or was dropped by its
overflow loop; what was taken out was handed on in this order -/
theorem media_conserved (F : Multiset (Packet ι (Medium × List UInt8)))
    (es : List (Event ι (Medium × List UInt8) ((String × UInt16) × ℤ) CallAct)) :
    let net := exec (Network.step (mediaNet S route)) (start (newCalls media res callId info) F) es
    net.flight + net.delivered + net.lost = F + net.sent + net.added ∧
      ∀ i medium,
        let books := ledger S (media i) medium (givenTo S route media res callId info F es i)
        books.jb = (net.node i).ctx.jitter medium ∧
          parsed medium (net.arrived i) = books.out + books.jb.packets + books.dropped ∧
          (net.node i).handed medium = books.out.filterMap (hand medium) ∧
          books.jb.packets.length ≤ JitterBuffer.kMaxBufferSize := by
  intro net
  refine ⟨conserved (newCalls media res callId info) F es, fun i medium => ?_⟩
  intro books
  have hkept := exec_kept S route media res callId info F es i
  have hbalanced : books.Balanced := balanced_ledger S (media i) medium _
  refine ⟨hkept.jb medium, ?_, hkept.handed medium, ?_⟩
  · rw [arrived_eq, ← hkept.inserted medium]
    exact hbalanced.conserved
  · rw [JitterBuffer.packets, List.length_map]
    exact hbalanced.bounded

/-! ## What is played -/

/-- the datagrams of a call lead to sockets for their medium, and its RTCP datagrams to nobody -/
structure Paired (ctx : CallContext) : Prop where
  addr : ctx.info.remoteRtpAddr ≠ ""
  audioPort : ctx.info.audioRemotePort ≠ 0
  videoPort : ctx.info.videoRemotePort ≠ 0
  audio : ∀ t, route ctx.audioTarget = some t → t.2 = .audio
  video : ∀ t, route ctx.videoTarget = some t → t.2 = .video
  rtcp : route ctx.rtcpTarget = none

variable {route}

omit [DecidableEq ι] in
theorem Paired.congr {ctx ctx' : CallContext} (h : Paired route ctx) (hinfo : ctx'.info = ctx.info) :
    Paired route ctx' := by
  obtain ⟨haddr, haudio, hvideo, hata, hatv, hatr⟩ := h
  rw [← hinfo] at haddr haudio hvideo
  simp only [CallContext.audioTarget, CallContext.videoTarget, CallContext.rtcpTarget, ← hinfo] at hata hatv hatr
  exact ⟨haddr, haudio, hvideo, hata, hatv, hatr⟩

/-- a call that is set up like another: what is sent looks the same, and goes to the same place -/
structure Alike (ctx ctx' : CallContext) : Prop where
  info : ctx.info = ctx'.info
  payloadType : ∀ medium, (ctx.rtp medium).payloadType = (ctx'.rtp medium).payloadType

theorem alike_receive {ctx ctx' : CallContext} (h : Alike ctx ctx') (received : Option (List UInt8 × String × UInt16))
    (now : ℤ) (medium : Medium) : Alike (ctx.receive S received now medium).1 ctx' := by
  refine ⟨?_, fun other => ?_⟩
  · rw [← h.info]
    cases medium
    all_goals
      simp only [CallContext.receive]
      split_ifs <;> rfl
  · rw [← h.payloadType]
    cases medium <;> cases other
    all_goals
      simp only [CallContext.receive, CallContext.rtp]
      split_ifs <;> first | rfl | exact (RtpSession.receivePacket_frame _ _).2.2.1

theorem alike_perform {ctx ctx' : CallContext} (h : Alike ctx ctx') (a : CallAct) : Alike (ctx.perform a).1 ctx' := by
  refine ⟨(ctx.perform_frame a .audio).2.1.trans h.info, fun medium => ?_⟩
  obtain ⟨-, -, _, _, _, _, hrtp⟩ := ctx.perform_frame a medium
  rw [hrtp]
  exact h.payloadType medium

omit [DecidableEq ι] in
/-- an audio datagram carries a frame behind its AU-header -/
theorem audio_delivers {ctx : CallContext} (h : Paired route ctx) {encoded : Option (List UInt8)} {samples : ℕ}
    {sendOk : Bool} {d : Outgoing} (hd : d ∈ (ctx.perform (.sendAudioFrame encoded samples sendOk)).2) :
    (d.addr, d.port) = ctx.audioTarget ∧
      ∃ frame, encoded = some frame ∧ ctx.audioRtp.Delivers (AacPacketizer.pack frame) d.datagram := by
  cases encoded with
  | none => cases hd
  | some frame =>
    have hdest := RtpSession.sendTo_dest _ _ _ _ _ d hd
    rw [RtpSession.destination_of_complete _ h.addr h.audioPort] at hdest
    have hdelivers := (ctx.audioRtp.advanceTimestamp (UInt32.ofNat samples)).sendTo_delivers ctx.audioTarget
      (AacPacketizer.pack frame) false sendOk d hd
    exact ⟨hdest, frame, rfl, hdelivers.payload, hdelivers.payloadType, hdelivers.fits⟩

omit [DecidableEq ι] in
/-- a video datagram carries a fragment -/
theorem video_delivers {ctx : CallContext} (h : Paired route ctx) {videoFps : UInt32} {encoded : Option (List UInt8)}
    {sendOk : ℕ → Bool} {d : Outgoing} (hd : d ∈ (ctx.perform (.sendVideoFrame videoFps encoded sendOk)).2) :
    (d.addr, d.port) = ctx.videoTarget ∧ ∃ unit, encoded = some unit ∧
      ∃ fragment ∈ H264Fragmenter.fragment unit kRtpMaxPayloadSize, ctx.videoRtp.Delivers fragment d.datagram := by
  cases encoded with
  | none => cases hd
  | some unit =>
    have hdest := RtpSession.sendFragments_dest ctx.videoRtp h.addr h.videoPort sendOk 0 _ d hd
    exact ⟨hdest, unit, rfl, RtpSession.sendFragments_delivers _ _ _ _ _ d hd⟩

variable (route)

/-- what the run es recorded for a socket of a call: `Unpack` starts an audio frame two bytes early -/
def Recorded (es : List (Event ι (Medium × List UInt8) ((String × UInt16) × ℤ) CallAct)) (i : ι) :
    Medium → MediaOut → Prop
  | .audio, out => ∃ x frame samples sendOk, Event.act x (.sendAudioFrame (some frame) samples sendOk) ∈ es ∧
      route ((info x).remoteRtpAddr, (info x).audioRemotePort) = some (i, .audio) ∧
      out = .decodeAudio ((AacPacketizer.sizeHigh frame.length :: AacPacketizer.sizeLow frame.length :: frame).take
        frame.length)
  | .video, out => ∃ x videoFps unit sendOk fragment, Event.act x (.sendVideoFrame videoFps (some unit) sendOk) ∈ es ∧
      route ((info x).remoteRtpAddr, (info x).videoRemotePort) = some (i, .video) ∧
      fragment ∈ H264Fragmenter.fragment unit kRtpMaxPayloadSize ∧ out = .decodeVideo fragment

/-- a unit of a datagram that some step put on its way -/
theorem recorded_of_emitted {es : List (Event ι (Medium × List UInt8) ((String × UInt16) × ℤ) CallAct)}
    (hpaired : ∀ i, Paired route (newCalls media res callId info i).ctx)
    {e : Event ι (Medium × List UInt8) ((String × UInt16) × ℤ) CallAct} (he : e ∈ es)
    {net : Net ι Endpoint (Medium × List UInt8)}
    (hnode : ∀ i, Alike (net.node i).ctx (newCalls media res callId info i).ctx)
    {p : Packet ι (Medium × List UInt8)} (hp : p ∈ emits (mediaNet S route) net e) {out : MediaOut}
    (hout : hand p.message.1 (RtpPacket.parse p.message.2).val = some out) :
    Recorded route info es p.target p.message.1 out := by
  cases e with
  | deliver q x =>
    simp only [emits, mediaNet, ite_self] at hp
    cases hp
  | lose | double | inject => cases hp
  | act i a =>
    obtain ⟨d, hd, hroute⟩ := List.mem_filterMap.1 hp
    obtain ⟨t, ht, rfl⟩ := Option.map_eq_some_iff.1 hroute
    have hinfo := (hnode i).info
    have hnow : Paired route (net.node i).ctx := (hpaired i).congr hinfo
    cases a with
    | onRtcpTimer nowNtp =>
      rw [CallContext.rtcpReport_dest _ nowNtp d hd, hnow.rtcp] at ht
      cases ht
    | sendAudioFrame encoded samples sendOk =>
      obtain ⟨hdest, frame, rfl, hdelivers⟩ := audio_delivers hnow hd
      rw [hdest] at ht
      obtain ⟨j, medium⟩ := t
      obtain rfl : medium = .audio := hnow.audio _ ht
      rw [CallContext.audioTarget, hinfo] at ht
      refine ⟨i, frame, samples, sendOk, he, ht, ?_⟩
      have hshort : frame.length ≤ 8191 := by
        have hfits := hdelivers.fits
        rw [AacPacketizer.pack, List.length_append, kRtpMaxPayloadSize] at hfits
        omega
      have hplayed := onRtpData_pack hshort
      have haac : (net.node i).ctx.audioRtp.payloadType = .kAAC := (hnode i).payloadType .audio
      simp only [hand, hdelivers.payload, hdelivers.payloadType, haac] at hout
      exact (Option.some.inj (hplayed.symm.trans hout)).symm
    | sendVideoFrame videoFps encoded sendOk =>
      obtain ⟨hdest, unit, rfl, fragment, hfragment, hdelivers⟩ := video_delivers hnow hd
      rw [hdest] at ht
      obtain ⟨j, medium⟩ := t
      obtain rfl : medium = .video := hnow.video _ ht
      rw [CallContext.videoTarget, hinfo] at ht
      refine ⟨i, videoFps, unit, sendOk, fragment, he, ht, hfragment, ?_⟩
      simp only [hand, hdelivers.payload, onRtpData_h264] at hout
      split_ifs at hout
      exact (Option.some.inj hout).symm

/-- **What is played was recorded.** Where nobody sends but calls whose sockets are paired, everything that is handed
to a decoder comes from a frame that some call sent to this socket -/
theorem played_recorded (es : List (Event ι (Medium × List UInt8) ((String × UInt16) × ℤ) CallAct))
    (hpaired : ∀ i, Paired route (newCalls media res callId info i).ctx) (hin : ∀ p, Event.inject p ∉ es) (i : ι)
    (medium : Medium) :
    ∀ out ∈ ((exec (Network.step (mediaNet S route)) (start (newCalls media res callId info) 0) es).node i).handed
      medium, Recorded route info es i medium out := by
  intro out hout
  set net := exec (Network.step (mediaNet S route)) (start (newCalls media res callId info) 0) es with hnet
  have hkept := exec_kept S route media res callId info 0 es i
  rw [← hnet] at hkept
  rw [hkept.handed] at hout
  obtain ⟨q, hq, hhand⟩ := List.mem_filterMap.1 hout
  -- the packet was inserted, so its datagram was delivered, so it was sent
  have hq' : q ∈ parsed medium (net.arrived i) := by
    rw [hnet, arrived_eq, ← hkept.inserted medium, (balanced_ledger S (media i) medium _).conserved]
    exact Multiset.mem_add.2 (Or.inl (Multiset.mem_add.2 (Or.inl (Multiset.mem_coe.2 hq))))
  obtain ⟨p, hp, rfl⟩ := Multiset.mem_map.1 hq'
  obtain ⟨harrived, rfl, -⟩ := Multiset.mem_filter.1 hp
  obtain ⟨hdelivered, rfl⟩ := Multiset.mem_filter.1 harrived
  obtain ⟨before, e, after, rfl, hemits⟩ := mem_sent (delivered_sent _ es hin p hdelivered)
  refine recorded_of_emitted S route media res callId info hpaired (by simp) (fun j => ?_) hemits hhand
  exact exec_node (N := mediaNet S route) (A := fun _ => True)
    (I := fun i s => Alike s.ctx (newCalls media res callId info i).ctx)
    (fun e p _ _ h => alike_receive S h (some (p.message.2, e.1)) e.2 p.message.1) (fun _ a _ h => alike_perform h a)
    (fun _ => ⟨rfl, fun _ => rfl⟩) 0 before (fun _ _ => trivial) j

/-- one audio frame from one call to another -/
theorem played_recorded_two :
    let route : String × UInt16 → Option (Bool × Medium) := fun t =>
      if t.2 = 4000 then some (t.1 = "b", .audio) else if t.2 = 4002 then some (t.1 = "b", .video) else none
    let res := fun _ : Bool => (SessionEnv.constant "ab" []).resources 0
    let info : Bool → CallSessionInfo := fun i => ⟨"", .kConnected, 1, 5004, 5010, 4000, 4002, if i then "a" else "b"⟩
    let es : List (Event Bool (Medium × List UInt8) ((String × UInt16) × ℤ) CallAct) :=
      [.act false (.sendAudioFrame (some [7, 8]) 1024 true)]
    let p : Packet Bool (Medium × List UInt8) :=
      ⟨false, true, .audio, [128, 96, 0, 0, 0, 0, 4, 0, 0, 0, 0, 1, 0, 0, 0, 16, 7, 8]⟩
    let es' := es ++ [.deliver p (("a", 5004), 0)]
    ∀ out ∈ ((exec (Network.step (mediaNet (.insertion _) route))
      (start (newCalls (fun _ => {}) res (fun _ => "x") info) 0) es').node true).handed .audio,
      Recorded route info es' true .audio out := by
  intro route res info es p es'
  refine played_recorded (.insertion _) route (fun _ => {}) res (fun _ => "x") info _ (fun i => ?_) (fun q => ?_) true
    .audio
  · refine ⟨?_, ?_, ?_, fun t ht => ?_, fun t ht => ?_, rfl⟩
    · cases i <;> decide
    · cases i <;> decide
    · cases i <;> decide
    · exact (congrArg Prod.snd (Option.some.inj ht)).symm
    · exact (congrArg Prod.snd (Option.some.inj ht)).symm
  · simp [es', es]

end Runs

end Rtcom
