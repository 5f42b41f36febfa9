/-
Servers that have calls with each other and no media. The main loop connects a call inside of
`ProcessIncomingMessage`, before it has read the SDP, so the context of every call has no remote address
(`contexts_unaddressed`). Such a call sends RTP to the source of the first packet it has received, and RTCP to nobody.

- `silence`: two calls that both wait for the first packet wait for ever. In a network of calls that main loops have set
  up, with every loss and doubling, and as long as nobody else sends, no datagram is ever sent.
- `follows_first_source`: when packets come from elsewhere, the call sends its media to where the first of them for this
  medium came from, whatever comes later, and its RTCP still to nobody.
-/
import Mathlib.Tactic
import Rtcom.Server.RemoteInfo
import Rtcom.Session.MediaNetwork
import Rtcom.Session.Openings

namespace Rtcom

open Runs Network SipManager SessionManager

/-! ## Contexts without an address -/

/-- no remote address, given or seen -/
structure CallContext.Unaddressed (ctx : CallContext) : Prop where
  info : ctx.info.remoteRtpAddr = ""
  seen : ∀ medium, (ctx.rtp medium).remoteAddr = ""

theorem Session.newContext_unaddressed (media : MediaConfig) (res : Resources) (callId : String)
    {info : CallSessionInfo} (h : info.remoteRtpAddr = "") : (newContext media res callId info).Unaddressed := by
  refine ⟨h, fun medium => ?_⟩
  cases medium <;> rfl

namespace MainLoop

/-- no call waits for an answer, and no context has an address -/
structure Unaddressed (s : SessionManager) : Prop where
  calls : ∀ id call, s.1.calls.lookup id = some call → call.state ≠ .kCalling
  contexts : ∀ id ctx, s.2.contexts.lookup id = some ctx → ctx.Unaddressed

namespace Unaddressed

variable {E : SessionEnv} {s : SessionManager}

theorem congr (h : Unaddressed s) {s' : SessionManager} (hcalls : s'.1.calls = s.1.calls)
    (hcontexts : s'.2.contexts = s.2.contexts) : Unaddressed s' := by
  refine ⟨fun id call hl => h.calls id call ?_, fun id ctx hl => h.contexts id ctx ?_⟩
  · rwa [← hcalls]
  · rwa [← hcontexts]

theorem putCall (h : Unaddressed s) {m : SipManager EventCallback} (hm : m.calls = s.1.calls) (id : String)
    {call : SipCall} (hstate : call.state ≠ .kCalling) : Unaddressed (m.putCall id call, s.2) := by
  refine ⟨fun x c hl => ?_, h.contexts⟩
  rw [lookup_putCall, hm] at hl
  split_ifs at hl
  · rwa [← Option.some.inj hl]
  · exact h.calls x c hl

theorem eraseCall (h : Unaddressed s) (id : String) : Unaddressed (s.1.eraseCall id, s.2) := by
  refine ⟨fun x c hl => ?_, h.contexts⟩
  rw [lookup_eraseCall] at hl
  split_ifs at hl
  exact h.calls x c hl

/-- a report leaves the states of the calls -/
theorem calls_notify (h : Unaddressed s) (id : String) (st : SipCallState) (x : String) (call : SipCall)
    (hl : (notifyStateChange (callbacks E) id st s).1.calls.lookup x = some call) : call.state ≠ .kCalling := by
  have hstate := map_lookup_notify E SipCall.state (fun _ _ _ => rfl) id st s x
  rw [hl, Option.map_some] at hstate
  obtain ⟨old, hold, heq⟩ := Option.map_eq_some_iff.1 hstate.symm
  exact heq ▸ h.calls x old hold

/-- a report that is not about a new connection creates no context -/
theorem notify (h : Unaddressed s) (id : String) {st : SipCallState} (hst : st ≠ .kConnected) :
    Unaddressed (notifyStateChange (callbacks E) id st s) :=
  ⟨h.calls_notify id st, fun x ctx hl => h.contexts x ctx (lookup_notify_contexts hst hl)⟩

/-- a call without an address is connected -/
theorem connect (h : Unaddressed s) (hcb : s.1.sipEventCb = some .onSipEvent) {id : String} {call : SipCall}
    (hl : s.1.calls.lookup id = some call) (haddr : call.sessionInfo.remoteRtpAddr = "") :
    Unaddressed (notifyStateChange (callbacks E) id .kConnected s) := by
  refine ⟨h.calls_notify id .kConnected, fun x ctx hctx => ?_⟩
  rw [notifyStateChange, hcb] at hctx
  by_cases hx : x = id
  · subst hx
    have hcreated := (onSipEvent_connected (E := E) hl).2
    obtain rfl := Option.some.inj (hcreated.symm.trans hctx)
    unfold Session.getOrCreateContext
    cases hold : s.2.contexts.lookup x with
    | some ctx => exact h.contexts x ctx hold
    | none => exact Session.newContext_unaddressed _ _ _ haddr
  · exact h.contexts x ctx ((lookup_onSipEvent_of_ne E id .kConnected s hx).2.symm.trans hctx)

theorem dropCall (h : Unaddressed s) (id : String) : Unaddressed (dropCall (callbacks E) id s) := by
  unfold SipManager.dropCall
  cases s.1.calls.lookup id with
  | none => exact h
  | some call =>
    have hput : Unaddressed (s.1.putCall id (call.setState .kDisconnected), s.2) := h.putCall rfl id (by simp)
    exact (hput.notify id (by simp)).eraseCall id

theorem handleBye (h : Unaddressed s) (msg : OsipMessage) :
    Unaddressed (handleBye E.toSipEnv (callbacks E) msg s) := by
  have hdropped : Unaddressed (SipManager.dropCall (callbacks E) (messageCallId msg) s) := h.dropCall _
  unfold SipManager.handleBye
  set s' := SipManager.dropCall (callbacks E) (messageCallId msg) s
  have hframe := buildResponse_frame E.toSipEnv s'.1 200 "OK" ""
  show Unaddressed ((buildResponse E.toSipEnv 200 "OK" "" s'.1).2, s'.2)
  exact hdropped.congr hframe.calls rfl

/-- the call that an INVITE opens has no address yet -/
theorem handleInvite (h : Unaddressed s) (hcb : s.1.sipEventCb = some .onSipEvent) (msg : OsipMessage) (mem : Uninit)
    (now : ℕ) : Unaddressed (handleInvite E.toSipEnv (callbacks E) msg mem now s) := by
  by_cases hknown : (messageCallId msg).isEmpty ∨ (s.1.calls.lookup (messageCallId msg)).isSome
  · obtain ⟨m, hcalls, -, heq, -⟩ := handleInvite_known E.toSipEnv (callbacks E) msg mem now s hknown
    rw [heq]
    exact h.congr hcalls rfl
  · obtain ⟨m, hm, heq⟩ := handleInvite_opens (E := E) hcb msg mem now hknown
    set call := (ringingCall s.1.config msg mem now).setState .kConnected with hcall
    have haddr : call.sessionInfo.remoteRtpAddr = "" := by
      have hremote : call.sessionInfo.remote = (CallSessionInfo.new mem).remote :=
        (SipCall.remote_setState _ _).trans (SipCall.remote_setState _ .kRinging)
      exact congrArg Prod.fst hremote
    have hcalls : m.calls = s.1.calls := hm.calls
    have hcallback : m.sipEventCb = some .onSipEvent := hm.sipEventCb.trans hcb
    have hput : Unaddressed (m.putCall (messageCallId msg) call, s.2) := h.putCall hcalls _ (by simp [hcall])
    rw [heq]
    exact hput.connect hcallback (by rw [lookup_putCall, if_pos rfl]) haddr

/-- without a call that waits for an answer, a response connects nothing -/
theorem handleResponse (h : Unaddressed s) (msg : OsipMessage) :
    Unaddressed (handleResponse E.toSipEnv (callbacks E) msg s) := by
  unfold SipManager.handleResponse
  simp only
  cases hl : s.1.calls.lookup (messageCallId msg) with
  | none => exact h
  | some call =>
    simp only
    split_ifs with _ hcalling
    · exact absurd hcalling (h.calls _ _ hl)
    · have hput : Unaddressed (s.1.putCall (messageCallId msg) (call.setState .kDisconnected), s.2) :=
        h.putCall rfl _ (by simp)
      exact (hput.notify _ (by simp)).eraseCall _
    · exact h
    · set failed := (call.setState .kFailed).setError ("SIP " ++ toString msg.statusCode) with hfailed
      have hstate : failed.state ≠ .kCalling := by simp [hfailed, SipCall.setError]
      have hput : Unaddressed (s.1.putCall (messageCallId msg) failed, s.2) := h.putCall rfl _ hstate
      exact hput.notify _ (by simp)
    · exact h

theorem incoming (h : Unaddressed s) (hcb : s.1.sipEventCb = some .onSipEvent) (rawMsg : String) (mem : Uninit)
    (now : ℕ) : Unaddressed (processIncomingMessage E.toSipEnv (callbacks E) rawMsg mem now s) := by
  cases hmsg : E.parse rawMsg with
  | none =>
    rw [incoming_none _ _ hmsg]
    exact h
  | some msg =>
    rcases incoming_cases E.toSipEnv (callbacks E) hmsg with ⟨-, -, heq⟩ | ⟨-, -, heq⟩ | ⟨-, -, heq⟩ | ⟨-, -, heq⟩ |
      ⟨-, heq⟩
    · rw [heq]
      exact h.handleInvite hcb msg mem now
    · rw [heq]
      exact h.handleBye msg
    · rw [heq]
      exact h.dropCall _
    · rw [heq]
      exact h
    · rw [heq]
      exact h.handleResponse msg

/-- the SDP changes the call, not the context -/
theorem applySdp (h : Unaddressed s) (msg : String) : Unaddressed (applySdp msg s) := by
  unfold MainLoop.applySdp
  cases sdpRequest msg with
  | none => exact h
  | some req =>
    rcases processIncomingSdp_cases req.1 req.2 s.1 with heq | ⟨call, sess, hl, heq⟩
    · exact h.congr (congrArg SipManager.calls heq) rfl
    · have hstate : call.state ≠ .kCalling := h.calls _ _ hl
      have hput : Unaddressed (s.1.putCall req.1 { call with sessionInfo := storeRemote call.sessionInfo sess }, s.2) :=
        h.putCall rfl req.1 hstate
      exact hput.congr (congrArg SipManager.calls heq) rfl

theorem visitTimer (h : Unaddressed s) (v : Visit) : Unaddressed (visitTimer (callbacks E) s v) := by
  unfold SipManager.visitTimer
  cases hl : s.1.calls.lookup v.callId with
  | none => exact h
  | some call =>
    have hstate : call.state ≠ .kCalling := h.calls _ _ hl
    simp only
    split_ifs
    · exact h.putCall rfl _ hstate
    · have hput : Unaddressed (s.1.putCall v.callId (call.setState .kFailed), s.2) := h.putCall rfl _ (by simp)
      exact hput.notify _ (by simp)
    · exact h

theorem step (h : Unaddressed s) (hcb : s.1.sipEventCb = some .onSipEvent) (e : LoopEvent) :
    Unaddressed (step E s e) := by
  cases e with
  | datagram msg mem now =>
    obtain ⟨m, hframe, heq⟩ := step_datagram (E := E) s msg mem now
    rw [heq]
    exact ((h.incoming hcb msg mem now).applySdp msg).congr hframe.calls rfl
  | timers visits =>
    exact exec_preserves (P := Unaddressed) (fun s v hs => hs.visitTimer v) h visits

end Unaddressed

/-- **The contexts of the main loop have no remote address**, in every run, whatever SDP arrives -/
theorem contexts_unaddressed (E : SessionEnv) (config : ServerConfig) (events : List LoopEvent) :
    ∀ id ctx, (exec (step E) (init E config) events).2.contexts.lookup id = some ctx → ctx.Unaddressed := by
  have hcalls : (init E config).1.calls = ∅ := rfl
  have hcontexts : (init E config).2.contexts = ∅ := rfl
  have hinit : Unaddressed (init E config) := by
    refine ⟨fun id call hl => ?_, fun id ctx hl => ?_⟩
    · rw [hcalls, AList.lookup_empty] at hl
      cases hl
    · rw [hcontexts, AList.lookup_empty] at hl
      cases hl
  have hrun := exec_preserves (f := step E) (P := fun s => Matched s ∧ Unaddressed s)
    (fun s e h => ⟨step_matched s e h.1, h.2.step h.1.callback e⟩) ⟨init_matched E config, hinit⟩ events
  exact hrun.2.contexts

end MainLoop

/-! ## Calls without an address -/

namespace CallContext

variable {ctx : CallContext}

theorem not_reaches {r : RtpSession} (h : r.remoteAddr = "") (payload : List UInt8) (port : UInt16) :
    ¬ r.Reaches payload "" port := fun hreach => hreach.addr (by simpa using h)

/-- nothing is sent, and there is no address afterwards -/
theorem Unaddressed.perform (h : ctx.Unaddressed) (a : CallAct) :
    (ctx.perform a).2 = [] ∧ (ctx.perform a).1.Unaddressed := by
  have haudio : ctx.audioRtp.remoteAddr = "" := h.seen .audio
  have hvideo : ctx.videoRtp.remoteAddr = "" := h.seen .video
  cases a with
  | onRtcpTimer nowNtp =>
    refine ⟨?_, h⟩
    simp only [CallContext.perform, rtcpReport, h.info]
    rfl
  | sendAudioFrame encoded samples sendOk =>
    cases encoded with
    | none => exact ⟨rfl, h⟩
    | some frame =>
      set rtp := ctx.audioRtp.advanceTimestamp (UInt32.ofNat samples) with hrtp
      have hnot : ¬ rtp.Reaches (AacPacketizer.pack frame) ctx.audioTarget.1 ctx.audioTarget.2 := by
        have hseen : rtp.remoteAddr = "" := haudio
        simp only [audioTarget, h.info]
        exact not_reaches hseen _ _
      simp only [CallContext.perform, sendAudioFrame, RtpSession.sendTo_of_not_reaches hnot, ← hrtp]
      refine ⟨trivial, h.info, fun medium => ?_⟩
      cases medium
      · exact haudio
      · exact hvideo
  | sendVideoFrame videoFps encoded sendOk =>
    cases encoded with
    | none => exact ⟨rfl, h⟩
    | some unit =>
      have hsent : ∀ (i : ℕ) (fragments : List (List UInt8)),
          ctx.videoRtp.sendFragments ctx.videoTarget sendOk i fragments = (ctx.videoRtp, []) := by
        intro i fragments
        induction fragments generalizing i with
        | nil => rfl
        | cons fragment fragments ih =>
          have hnot : ¬ ctx.videoRtp.Reaches fragment ctx.videoTarget.1 ctx.videoTarget.2 := by
            simp only [videoTarget, h.info]
            exact not_reaches hvideo _ _
          simp only [RtpSession.sendFragments, RtpSession.sendTo_of_not_reaches hnot, ih]
          rfl
      simp only [CallContext.perform, sendVideoFrame, hsent]
      refine ⟨trivial, h.info, fun medium => ?_⟩
      cases medium
      · exact haudio
      · exact hvideo

end CallContext

section Network

variable {ι : Type} [DecidableEq ι] (S : StdSort BufferItem.seq) (route : String × UInt16 → Option (ι × Medium))

/-- nothing has happened on the wire -/
structure Silent (net : Net ι Endpoint (Medium × List UInt8)) : Prop where
  flight : net.flight = 0
  sent : net.sent = 0
  nodes : ∀ i, (net.node i).ctx.Unaddressed ∧ ∀ medium, (net.node i).handed medium = []

theorem silent_step {net : Net ι Endpoint (Medium × List UInt8)} (h : Silent net)
    (e : Event ι (Medium × List UInt8) ((String × UInt16) × ℤ) CallAct) (hin : ∀ p, e ≠ .inject p) :
    Silent (Network.step (mediaNet S route) net e) := by
  have hnone : ∀ p, p ∉ net.flight := fun p hp => Multiset.notMem_zero p (h.flight ▸ hp)
  cases e with
  | deliver p e | lose p | double p =>
    rw [Network.step, if_neg (hnone p)]
    exact h
  | inject p => exact absurd rfl (hin p)
  | act i a =>
    obtain ⟨hsent, hctx⟩ := (h.nodes i).1.perform a
    have hrouted : ((mediaNet S route).act i a (net.node i)).2 = [] := by
      show routed route i ((net.node i).ctx.perform a).2 = []
      rw [hsent]
      rfl
    have hnode : ((mediaNet S route).act i a (net.node i)).1.ctx.Unaddressed ∧
        ∀ medium, ((mediaNet S route).act i a (net.node i)).1.handed medium = [] := ⟨hctx, (h.nodes i).2⟩
    refine ⟨?_, ?_, fun j => ?_⟩
    · simp only [Network.step, hrouted, Multiset.coe_nil, add_zero, h.flight]
    · simp only [Network.step, hrouted, Multiset.coe_nil, add_zero, h.sent]
    · simp only [Network.step]
      by_cases hj : j = i
      · subst hj
        rw [Function.update_self]
        exact hnode
      · rw [Function.update_of_ne hj]
        exact h.nodes j

/-- **Silence**: calls of servers that run the main loop, each with whatever datagrams it has got, connected with each
other. They have no remote address, and as long as nobody else sends media, none of them does, however often frames are
encoded and timers fire -/
theorem silence (E : ι → SessionEnv) (config : ι → ServerConfig) (events : ι → List MainLoop.LoopEvent)
    (callId : ι → String) (ctx : ι → CallContext)
    (hctx : ∀ i, (exec (MainLoop.step (E i)) (MainLoop.init (E i) (config i)) (events i)).2.contexts.lookup (callId i) =
      some (ctx i))
    (es : List (Event ι (Medium × List UInt8) ((String × UInt16) × ℤ) CallAct)) (hin : ∀ p, Event.inject p ∉ es) :
    let net := exec (Network.step (mediaNet S route)) (start (fun i => .new (ctx i)) 0) es
    (∀ i, (net.node i).ctx.info.remoteRtpAddr = "") ∧ net.sent = 0 ∧ net.delivered = 0 ∧
      ∀ i medium, (net.node i).handed medium = [] := by
  intro net
  have hsilent : Silent net := by
    have hstart : Silent (start (fun i => Endpoint.new (ctx i)) (0 : Multiset (Packet ι (Medium × List UInt8)))) :=
      ⟨rfl, rfl, fun i => ⟨MainLoop.contexts_unaddressed (E i) (config i) (events i) _ _ (hctx i), fun _ => rfl⟩⟩
    have hstep : ∀ net, ∀ e ∈ es, Silent net → Silent (Network.step (mediaNet S route) net e) :=
      fun _ e he h => silent_step S route h e fun p heq => hin p (heq ▸ he)
    exact exec_labels hstep hstart
  have hbooks := delivered_sent (N := mediaNet S route) (fun i => Endpoint.new (ctx i)) es hin
  refine ⟨fun i => (hsilent.nodes i).1.info, hsilent.sent, Multiset.eq_zero_of_forall_notMem fun p hp => ?_,
    fun i => (hsilent.nodes i).2⟩
  have hsent := hbooks p hp
  rw [show (exec (Network.step (mediaNet S route)) (start (fun i => Endpoint.new (ctx i)) 0) es).sent = 0 from
    hsilent.sent] at hsent
  exact Multiset.notMem_zero p hsent

end Network

/-- two servers with one call each, opened by the same INVITE; both record a frame -/
theorem silence_two :
    let E : Bool → SessionEnv := fun _ => .constant "ab" [MainLoop.invite]
    let config : Bool → ServerConfig := fun _ => {}
    let events : Bool → List MainLoop.LoopEvent := fun _ => [.datagram MainLoop.invite.text ⟨0, 0, 0, 4000, 4002⟩ 0]
    let route : String × UInt16 → Option (Bool × Medium) := fun t => some (t.1 = "b", .audio)
    let es : List (Event Bool (Medium × List UInt8) ((String × UInt16) × ℤ) CallAct) :=
      [.act false (.sendAudioFrame (some [7, 8]) 1024 true), .act true (.sendAudioFrame (some [7, 8]) 1024 true)]
    ∃ ctx : Bool → CallContext,
      (∀ i, (exec (MainLoop.step (E i)) (MainLoop.init (E i) (config i)) (events i)).2.contexts.lookup "a1" =
        some (ctx i)) ∧
      let net := exec (Network.step (mediaNet (.insertion _) route)) (start (fun i => .new (ctx i)) 0) es
      (∀ i, (net.node i).ctx.info.remoteRtpAddr = "") ∧ net.sent = 0 ∧ net.delivered = 0 ∧
        ∀ i medium, (net.node i).handed medium = [] := by
  intro E config events route es
  have hopened : ∀ i, ((exec (MainLoop.step (E i)) (MainLoop.init (E i) (config i)) (events i)).2.contexts.lookup
      "a1").isSome := by decide +kernel
  choose ctx hctx using fun i => Option.isSome_iff_exists.1 (hopened i)
  exact ⟨ctx, hctx, silence (.insertion _) route E config events (fun _ => "a1") ctx hctx es (by simp [es])⟩

/-! ## The first source -/

/-- the medium of an act, and none for RTCP -/
def CallAct.medium : CallAct → Option Medium
  | .sendAudioFrame .. => some .audio
  | .sendVideoFrame .. => some .video
  | .onRtcpTimer _ => none

/-- the port of the peer that a call was given for a medium -/
def CallSessionInfo.remotePort (info : CallSessionInfo) : Medium → UInt16
  | .audio => info.audioRemotePort
  | .video => info.videoRemotePort

/-- what happens to a call -/
inductive CallEvent where
  | act (a : CallAct)
  | datagram (medium : Medium) (bytes : List UInt8) (source : String × UInt16) (now : ℤ)

/-- where a datagram for a medium came from, if it is not empty -/
def CallEvent.source (medium : Medium) : CallEvent → Option (String × UInt16)
  | .act _ => none
  | .datagram m bytes source _ => if m = medium ∧ bytes ≠ [] then some source else none

/-- the first source that has an address -/
def firstSource (medium : Medium) (es : List CallEvent) : Option (String × UInt16) :=
  (es.filterMap (CallEvent.source medium)).find? fun source => source.1 ≠ ""

theorem firstSource_append (medium : Medium) (es : List CallEvent) (e : CallEvent) :
    firstSource medium (es ++ [e]) =
      (firstSource medium es).or ((e.source medium).filter fun source => source.1 ≠ "") := by
  rw [firstSource, List.filterMap_append, List.find?_append]
  congr 1
  cases hsource : e.source medium with
  | none => simp [hsource]
  | some source => by_cases h : source.1 = "" <;> simp [hsource, Option.filter, h]

namespace RtpSession

/-- the remote address, once there is one -/
def remote (r : RtpSession) : Option (String × UInt16) :=
  if r.remoteAddr = "" then none else some (r.remoteAddr, r.remotePort)

/-- a session that has an address keeps it -/
theorem remote_receivePacket {r : RtpSession} (hsocket : r.recvSocket ≠ none) {datagram : List UInt8}
    (hne : datagram ≠ []) (source : String × UInt16) :
    (r.receivePacket (some (datagram, source))).2.remote =
      r.remote.or ((some source).filter fun source => source.1 ≠ "") := by
  obtain ⟨srcAddr, srcPort⟩ := source
  rw [receivePacket, if_neg hsocket]
  simp only [if_neg hne, remote]
  by_cases hempty : r.remoteAddr = ""
  · have hisEmpty : r.remoteAddr.isEmpty = true := by simp [hempty]
    by_cases hsrc : srcAddr = "" <;> simp [hempty, Option.filter, hsrc]
  · have hisEmpty : r.remoteAddr.isEmpty = false := by simpa using hempty
    simp only [hisEmpty, if_neg hempty, Bool.false_eq_true, if_false, Option.some_or]

/-- without a given address, what is sent goes to the remote address -/
theorem sendTo_remote (r : RtpSession) {target : String × UInt16} (h : target.1 = "") (payload : List UInt8)
    (marker sendOk : Bool) : ∀ d ∈ (r.sendTo target payload marker sendOk).2.2,
      ∃ source, r.remote = some source ∧ d.addr = source.1 ∧
        d.port = if target.2 ≠ 0 then target.2 else source.2 := by
  intro d hd
  have hisEmpty : target.1.isEmpty = true := by simp [h]
  by_cases hreach : r.Reaches payload target.1 target.2
  · have haddr : r.remoteAddr ≠ "" := by simpa [hisEmpty] using hreach.addr
    have hdest := r.sendTo_dest target payload marker sendOk d hd
    rw [destination, if_pos hisEmpty] at hdest
    obtain ⟨hdaddr, hdport⟩ := Prod.mk.inj hdest
    exact ⟨(r.remoteAddr, r.remotePort), if_neg haddr, hdaddr, hdport⟩
  · rw [sendTo_of_not_reaches hreach] at hd
    cases hd

theorem sendFragments_remote (r : RtpSession) {target : String × UInt16} (h : target.1 = "") (sendOk : ℕ → Bool)
    (i : ℕ) (fragments : List (List UInt8)) : ∀ d ∈ (r.sendFragments target sendOk i fragments).2,
      ∃ source, r.remote = some source ∧ d.addr = source.1 ∧
        d.port = if target.2 ≠ 0 then target.2 else source.2 := by
  induction fragments generalizing r i with
  | nil => simp [sendFragments]
  | cons fragment fragments ih =>
    intro d hd
    rcases List.mem_append.1 hd with hd | hd
    · exact r.sendTo_remote h _ _ _ d hd
    · obtain ⟨seq, packets, bytes, hframe⟩ := r.sendTo_frame target fragment fragments.isEmpty (sendOk i)
      have hremote : (r.sendTo target fragment fragments.isEmpty (sendOk i)).2.1.remote = r.remote := by
        rw [hframe]
        rfl
      rw [← hremote]
      exact ih _ _ d hd

end RtpSession

namespace CallContext

variable (S : StdSort BufferItem.seq)

def step (ctx : CallContext) : CallEvent → CallContext
  | .act a => (ctx.perform a).1
  | .datagram medium bytes source now => (ctx.receive S (some (bytes, source)) now medium).1

theorem receive_info (ctx : CallContext) (received : Option (List UInt8 × String × UInt16)) (now : ℤ)
    (medium : Medium) : (ctx.receive S received now medium).1.info = ctx.info := by
  cases medium
  all_goals
    simp only [receive]
    split_ifs <;> rfl

theorem receive_rtp_other (ctx : CallContext) (received : Option (List UInt8 × String × UInt16)) (now : ℤ)
    {medium other : Medium} (h : other ≠ medium) :
    (ctx.receive S received now medium).1.rtp other = ctx.rtp other := by
  cases medium <;> cases other
  all_goals
    first
    | exact absurd rfl h
    | simp only [receive, rtp]
      split_ifs <;> rfl

/-- the sockets are there, the peer is as it was given, and the remote addresses are the first sources -/
structure Follows (info : CallSessionInfo) (es : List CallEvent) (ctx : CallContext) : Prop where
  addr : ctx.info.remoteRtpAddr = info.remoteRtpAddr
  port : ∀ medium, ctx.info.remotePort medium = info.remotePort medium
  socket : ∀ medium, (ctx.rtp medium).recvSocket ≠ none
  remote : ∀ medium, (ctx.rtp medium).remote = firstSource medium es

variable {ctx : CallContext} {info : CallSessionInfo} {es : List CallEvent}

theorem Follows.step (h : Follows info es ctx) (e : CallEvent) : Follows info (es ++ [e]) (ctx.step S e) := by
  cases e with
  | act a =>
    have hinfo : (ctx.step S (.act a)).info = ctx.info := (ctx.perform_frame a .audio).2.1
    refine ⟨hinfo ▸ h.addr, hinfo ▸ h.port, fun medium => ?_, fun medium => ?_⟩
    all_goals obtain ⟨-, -, seq, timestamp, packets, bytes, hrtp⟩ := ctx.perform_frame a medium
    · rw [CallContext.step, hrtp]
      exact h.socket medium
    · rw [firstSource_append, CallContext.step, hrtp, ← h.remote medium]
      exact Option.or_none.symm
  | datagram arrived bytes source now =>
    have hinfo : (ctx.step S (.datagram arrived bytes source now)).info = ctx.info := receive_info S ctx _ now arrived
    refine ⟨hinfo ▸ h.addr, hinfo ▸ h.port, fun medium => ?_, fun medium => ?_⟩
    · rw [CallContext.step, receive_sockets]
      exact h.socket medium
    · rw [firstSource_append, ← h.remote medium]
      by_cases hmedium : medium = arrived
      · subst hmedium
        by_cases hne : bytes = []
        · subst hne
          rw [CallContext.step, receive_nil S (h.socket medium)]
          simp [CallEvent.source]
        · rw [CallContext.step, receive_rtp, RtpSession.remote_receivePacket (h.socket medium) hne]
          simp [CallEvent.source, hne]
      · rw [CallContext.step, receive_rtp_other S ctx _ now hmedium]
        simp [CallEvent.source, Ne.symm hmedium]

theorem exec_follows (media : MediaConfig) (res : Resources) (callId : String) (info : CallSessionInfo)
    (es : List CallEvent) :
    Follows info es (exec (CallContext.step S) (Session.newContext media res callId info) es) := by
  induction es using List.reverseRecOn with
  | nil =>
    refine ⟨rfl, fun medium => ?_, fun medium => ?_, fun medium => ?_⟩
    · cases medium <;> rfl
    · cases medium <;> exact Option.some_ne_none _
    · cases medium <;> rfl
  | append_singleton es e ih =>
    rw [exec, List.foldl_append]
    exact ih.step S e

/-- **A call without an address follows the first source**: in every run of a call that was created without a remote
address, each datagram it sends is for audio or video and goes to where the first datagram for this medium came from
(to the port of the call's info, when it has one), whatever came from elsewhere since; before one came, it sends none -/
theorem follows_first_source (media : MediaConfig) (res : Resources) (callId : String) (info : CallSessionInfo)
    (h : info.remoteRtpAddr = "") (es : List CallEvent) (a : CallAct) :
    ∀ d ∈ ((exec (CallContext.step S) (Session.newContext media res callId info) es).perform a).2,
      ∃ medium source, a.medium = some medium ∧ firstSource medium es = some source ∧ d.addr = source.1 ∧
        d.port = if info.remotePort medium ≠ 0 then info.remotePort medium else source.2 := by
  have hfollows := exec_follows S media res callId info es
  set ctx := exec (CallContext.step S) (Session.newContext media res callId info) es
  intro d hd
  cases a with
  | onRtcpTimer nowNtp =>
    have hisEmpty : ctx.info.remoteRtpAddr.isEmpty = true := by simp [hfollows.addr, h]
    rw [perform, rtcpReport, if_pos hisEmpty] at hd
    cases hd
  | sendAudioFrame encoded samples sendOk =>
    cases encoded with
    | none => cases hd
    | some frame =>
      have htarget : ctx.audioTarget.1 = "" := hfollows.addr.trans h
      obtain ⟨source, hremote, haddr, hport⟩ := RtpSession.sendTo_remote _ htarget _ _ _ d hd
      refine ⟨.audio, source, rfl, (hfollows.remote .audio).symm.trans hremote, haddr, ?_⟩
      rw [← hfollows.port .audio]
      exact hport
  | sendVideoFrame videoFps encoded sendOk =>
    cases encoded with
    | none => cases hd
    | some unit =>
      have htarget : ctx.videoTarget.1 = "" := hfollows.addr.trans h
      obtain ⟨source, hremote, haddr, hport⟩ := RtpSession.sendFragments_remote _ htarget _ _ _ d hd
      refine ⟨.video, source, rfl, (hfollows.remote .video).symm.trans hremote, haddr, ?_⟩
      rw [← hfollows.port .video]
      exact hport

/-- a call that has got a packet from 10.0.0.9 and then one from 10.0.0.7 -/
theorem follows_first_source_two :
    let info : CallSessionInfo := ⟨"", .kConnected, 1, 5004, 5010, 0, 0, ""⟩
    let res := (SessionEnv.constant "ab" []).resources 0
    let es : List CallEvent :=
      [.datagram .audio [128, 96] ("10.0.0.9", 5004) 0, .datagram .audio [128] ("10.0.0.7", 1) 0]
    let a : CallAct := .sendAudioFrame (some [7, 8]) 1024 true
    ∀ d ∈ ((exec (CallContext.step (.insertion _)) (Session.newContext {} res "x" info) es).perform a).2,
      ∃ medium source, a.medium = some medium ∧ firstSource medium es = some source ∧ d.addr = source.1 ∧
        d.port = if info.remotePort medium ≠ 0 then info.remotePort medium else source.2 := by
  intro info res es a
  exact follows_first_source (.insertion _) {} res "x" info rfl es a

end CallContext

end Rtcom
