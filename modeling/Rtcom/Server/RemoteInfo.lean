/-
Where the media of a connected call goes, in every run of the main loop. The remote address and ports are kept twice:
in the session info of the call, which `ProcessIncomingSdp` writes, and in the context, which the senders read. They
are copied when the context is created, inside of `ProcessIncomingMessage`; the SDP of the INVITE comes after that.

`Agrees` says that the senders of every connected call use what its session info holds. Steps of the two tables keep it
(`Steps.agrees`), an SDP keeps it exactly when it brings nothing new (`agrees_applySdp_iff`).

- `remote_agrees_iff`: the copies agree in every state of a run exactly when no SDP of the run brings a connected call
  a remote address or port other than the one it has.
- `invite_ignored`: the SDP of an ordinary INVITE does.
-/
import Mathlib.Tactic
import Rtcom.Lib.Runs
import Rtcom.Server.MainLoop
import Rtcom.Session.Links
import Rtcom.Session.Media

namespace Rtcom

open Runs SipManager SessionManager

/-! ## The two copies -/

/-- remote address, audio port and video port -/
def CallSessionInfo.remote (info : CallSessionInfo) : String × UInt16 × UInt16 :=
  (info.remoteRtpAddr, info.audioRemotePort, info.videoRemotePort)

/-- `SendAudioFrame`, `SendVideoFrame` and `OnRtcpTimer` use address A, with ports P, V and P + 1 -/
def CallContext.SendsTo (ctx : CallContext) (A : String) (P V : UInt16) : Prop :=
  ctx.audioTarget = (A, P) ∧ ctx.videoTarget = (A, V) ∧ ctx.rtcpTarget = (A, P + 1)

theorem CallContext.sendsTo_iff (ctx : CallContext) (A : String) (P V : UInt16) :
    ctx.SendsTo A P V ↔ ctx.info.remote = (A, P, V) := by
  simp only [SendsTo, audioTarget, videoTarget, rtcpTarget, CallSessionInfo.remote, Prod.mk.injEq]
  constructor
  · intro hto
    rcases hto with ⟨⟨hA, hP⟩, ⟨-, hV⟩, -⟩
    exact ⟨hA, hP, hV⟩
  · intro hremote
    rcases hremote with ⟨hA, hP, hV⟩
    exact ⟨⟨hA, hP⟩, ⟨hA, hV⟩, hA, by rw [hP]⟩

/-- with an address and ports other than 0, this is where the datagrams go -/
theorem CallContext.SendsTo.sent {ctx : CallContext} {A : String} {P V : UInt16} (h : ctx.SendsTo A P V) (hA : A ≠ "")
    (hP : P ≠ 0) (hV : V ≠ 0) :
    (∀ encoded samples sendOk, ∀ d ∈ (ctx.sendAudioFrame encoded samples sendOk).2.2, (d.addr, d.port) = (A, P)) ∧
      (∀ fps encoded sendOk, ∀ d ∈ (ctx.sendVideoFrame fps encoded sendOk).2.2, (d.addr, d.port) = (A, V)) ∧
      ∀ now, ∀ d ∈ ctx.rtcpReport now, (d.addr, d.port) = (A, P + 1) := by
  obtain ⟨haudio, hvideo, hrtcp⟩ := h
  refine ⟨?_, ?_, ?_⟩
  · intro encoded samples sendOk d hd
    cases encoded with
    | none => cases hd
    | some frame =>
      have hdest := RtpSession.sendTo_dest _ _ _ _ _ d hd
      rwa [haudio, RtpSession.destination_of_complete _ hA hP] at hdest
  · intro fps encoded sendOk d hd
    cases encoded with
    | none => cases hd
    | some unit =>
      have hdest : (d.addr, d.port) = ctx.videoTarget :=
        RtpSession.sendFragments_dest _ (by rwa [hvideo]) (by rwa [hvideo]) _ _ _ d hd
      rwa [hvideo] at hdest
  · intro now d hd
    exact (ctx.rtcpReport_dest now d hd).trans hrtcp

/-- the senders of every connected call use what `ProcessIncomingSdp` has stored in the call -/
def Agrees (s : SessionManager) : Prop :=
  ∀ id call, s.1.calls.lookup id = some call → call.state = .kConnected → ∃ ctx, s.2.contexts.lookup id = some ctx ∧
    ctx.SendsTo call.sessionInfo.remoteRtpAddr call.sessionInfo.audioRemotePort call.sessionInfo.videoRemotePort

/-- the SDP brings nothing new -/
def Restates (info : CallSessionInfo) (sess : SdpSession) : Prop :=
  sess.connAddr = info.remoteRtpAddr ∧ (∀ audio, sess.findAudio = some audio → audio.port = info.audioRemotePort) ∧
    ∀ video, sess.findVideo = some video → video.port = info.videoRemotePort

theorem remote_storeRemote_iff (info : CallSessionInfo) (sess : SdpSession) :
    (storeRemote info sess).remote = info.remote ↔ Restates info sess := by
  simp only [storeRemote, CallSessionInfo.remote, Restates]
  cases sess.findAudio <;> cases sess.findVideo <;> simp

theorem restates_congr {info info' : CallSessionInfo} (h : info.remote = info'.remote) (sess : SdpSession) :
    Restates info sess ↔ Restates info' sess := by
  simp only [CallSessionInfo.remote, Prod.mk.injEq] at h
  rw [Restates, Restates, h.1, h.2.1, h.2.2]

/-! ## Steps -/

theorem SipCall.remote_setState (call : SipCall) (st : SipCallState) :
    (call.setState st).sessionInfo.remote = call.sessionInfo.remote := by
  unfold setState
  split_ifs <;> rfl

/-- state, remote address and ports of a call -/
def SipCall.side (call : SipCall) : SipCallState × String × UInt16 × UInt16 := (call.state, call.sessionInfo.remote)

theorem side_notify {E : SessionEnv} {s : SessionManager} (id : String) (st : SipCallState) (x : String) :
    ((notifyStateChange (callbacks E) id st s).1.calls.lookup x).map SipCall.side =
      (s.1.calls.lookup x).map SipCall.side :=
  map_lookup_notify E SipCall.side (fun _ _ _ => rfl) id st s x

/-- the call an INVITE opens is connected, and has no remote side yet -/
theorem side_handleInvite {E : SessionEnv} {s : SessionManager} (hcb : s.1.sipEventCb = some .onSipEvent)
    (msg : OsipMessage) (mem : Uninit) (now : ℕ) (hid : ¬ (messageCallId msg).isEmpty)
    (hnew : s.1.calls.lookup (messageCallId msg) = none) :
    ((handleInvite E.toSipEnv (callbacks E) msg mem now s).1.calls.lookup (messageCallId msg)).map SipCall.side =
      some (.kConnected, (CallSessionInfo.new mem).remote) := by
  have hopens : ¬ ((messageCallId msg).isEmpty ∨ (s.1.calls.lookup (messageCallId msg)).isSome) := by
    simp [hid, hnew]
  obtain ⟨m, -, heq⟩ := handleInvite_opens (E := E) hcb msg mem now hopens
  have hcall : (ringingCall s.1.config msg mem now).sessionInfo.remote = (CallSessionInfo.new mem).remote :=
    SipCall.remote_setState _ .kRinging
  rw [heq, side_notify, lookup_putCall, if_pos rfl, Option.map_some, SipCall.side, SipCall.state_setState,
    SipCall.remote_setState, hcall]

/-- `Agrees`, as a link of calls and contexts -/
theorem agrees_iff_linked (s : SessionManager) :
    Agrees s ↔ Linked (fun call ctx => ctx.info.remote = call.sessionInfo.remote) s := by
  simp only [Agrees, CallContext.sendsTo_iff]
  exact Iff.rfl

/-- a new context gets the remote address and ports the call has -/
theorem remote_getOrCreateContext {E : SessionEnv} {w : Session} {id : String} (hid : id ∉ w.contexts)
    (info : CallSessionInfo) : (w.getOrCreateContext E id info).1.info.remote = info.remote := by
  rw [Session.getOrCreateContext, AList.lookup_eq_none.2 hid]
  rfl

/-- **Steps of the two tables** keep the copies equal -/
theorem SessionManager.Steps.agrees {E : SessionEnv} {T : Terms} {s s' : SessionManager} (hsteps : Steps E T s s')
    (hin : T.inStep) (hanew : T.anew) (hb : Backed s) (h : Agrees s) : Agrees s' := by
  rw [agrees_iff_linked] at h ⊢
  refine hsteps.linked hb ?_ ?_ h
  · intro call call' ctx _ _ hinfo hsame
    rw [hinfo hanew]
    exact hsame
  · intro w id call hid
    exact remote_getOrCreateContext (hid hin hanew) call.sessionInfo

/-! ## SDP -/

/-- an SDP that parses brings a connected call nothing new -/
def SdpRestates (s : SessionManager) (callId sdpBody : String) : Prop :=
  (SdpBuilder.parse sdpBody .new).1 = true → ∀ call, s.1.calls.lookup callId = some call →
    call.state = .kConnected → Restates call.sessionInfo (SdpBuilder.parse sdpBody .new).2

theorem agrees_processIncomingSdp_iff {s : SessionManager} (h : Agrees s) (callId sdpBody : String) :
    Agrees ((processIncomingSdp callId sdpBody s.1).2, s.2) ↔ SdpRestates s callId sdpBody := by
  rw [processIncomingSdp, SdpRestates]
  cases hok : (SdpBuilder.parse sdpBody .new).1 with
  | false =>
    simp only [hok, Bool.not_false, if_true, Bool.false_eq_true, false_imp_iff, iff_true]
    exact h
  | true =>
    simp only [hok, Bool.not_true, Bool.false_eq_true, if_false, true_imp_iff]
    set sess := (SdpBuilder.parse sdpBody .new).2
    cases hl : s.1.calls.lookup callId with
    | none =>
      simp only [reduceCtorEq, false_imp_iff, implies_true, iff_true]
      exact h
    | some call =>
      simp only [Option.some.injEq, forall_eq']
      rw [← remote_storeRemote_iff]
      constructor
      · intro hagrees hconn
        obtain ⟨ctx, hctx, hto⟩ := h callId call hl hconn
        obtain ⟨ctx', hctx', hto'⟩ := hagrees callId { call with sessionInfo := storeRemote call.sessionInfo sess }
          (by rw [lookup_putCall, if_pos rfl]) hconn
        obtain rfl := Option.some.inj (hctx.symm.trans hctx')
        rw [CallContext.sendsTo_iff] at hto hto'
        exact hto'.symm.trans hto
      · intro hsame
        rw [agrees_iff_linked] at h ⊢
        exact h.update fun hconn => ⟨call, hl, hconn, fun ctx hctx => hctx.trans (hsame hconn).symm⟩

/-! ## The main loop -/

namespace MainLoop

variable (E : SessionEnv)

/-- the SDP of a datagram, if any, brings a call that is connected by then nothing new -/
def BringsNothingNew (s : SessionManager) : LoopEvent → Prop
  | .datagram msg mem now => ∀ callId body, sdpRequest msg = some (callId, body) →
      SdpRestates (processIncomingMessage E.toSipEnv (callbacks E) msg mem now s) callId body
  | .timers _ => True

variable {E}

/-- an SDP is processed for a call id only -/
theorem sdpRequest_callId {msg callId body : String} (h : sdpRequest msg = some (callId, body)) :
    ¬ callId.isEmpty := by
  unfold sdpRequest at h
  cases hbody : sdpBody msg with
  | none => simp [hbody] at h
  | some b =>
    simp only [hbody] at h
    split_ifs at h with _ hempty
    obtain ⟨rfl, rfl⟩ := Prod.mk.inj (Option.some.inj h)
    exact hempty

theorem agrees_applySdp_iff (msg : String) {s : SessionManager} (h : Agrees s) :
    Agrees (applySdp msg s) ↔ ∀ callId body, sdpRequest msg = some (callId, body) → SdpRestates s callId body := by
  unfold applySdp
  cases hreq : sdpRequest msg with
  | none =>
    simp only [reduceCtorEq, false_imp_iff, implies_true, iff_true]
    exact h
  | some req =>
    obtain ⟨id, body⟩ := req
    refine (agrees_processIncomingSdp_iff h id body).trans ⟨?_, fun hall => hall id body rfl⟩
    intro hreq' callId body' heq
    rcases heq with ⟨rfl, rfl⟩
    exact hreq'

/-- the terms on which the copies stay equal -/
def keepsBoth (s : SessionManager) : Terms := ⟨Matched s, True, fun _ => True⟩

theorem step_agrees_iff (s : SessionManager) (e : LoopEvent) (hm : Matched s) (h : Agrees s) :
    Agrees (step E s e) ↔ BringsNothingNew E s e := by
  cases e with
  | timers visits =>
    have hsteps : Steps E (keepsBoth s) s (step E s (.timers visits)) := steps_processTimers hm.backed visits
    exact iff_of_true (hsteps.agrees hm trivial hm.backed h) trivial
  | datagram msg mem now =>
    obtain ⟨m, hframe, heq⟩ := step_datagram (E := E) s msg mem now
    set s' := applySdp msg (processIncomingMessage E.toSipEnv (callbacks E) msg mem now s)
    have hsteps : Steps E (keepsBoth s) s (processIncomingMessage E.toSipEnv (callbacks E) msg mem now s) :=
      steps_incoming hm.backed id msg mem now fun _ _ _ _ => trivial
    have hagrees := hsteps.agrees hm trivial hm.backed h
    have hsame : Agrees (m, s'.2) ↔ Agrees s' := by
      rw [agrees_iff_linked, agrees_iff_linked]
      exact Linked.congr hframe.calls rfl
    rw [heq, hsame]
    exact agrees_applySdp_iff msg hagrees

variable (E)

theorem init_agrees (config : ServerConfig) : Agrees (init E config) := by
  have hcalls : (init E config).1.calls = ∅ := rfl
  intro id call hl
  rw [hcalls, AList.lookup_empty] at hl
  cases hl

/-- **Where the media goes**: in every state of a run of the main loop the senders of the connected calls use what
`ProcessIncomingSdp` has stored, exactly when no SDP of the run brings a connected call a new address or port -/
theorem remote_agrees_iff (config : ServerConfig) (events : List LoopEvent) :
    (∀ before after, events = before ++ after → Agrees (exec (step E) (init E config) before)) ↔
      Along (step E) (BringsNothingNew E) (init E config) events :=
  always_iff step_matched step_agrees_iff (init_matched E config) (init_agrees E config) events

/-- **An INVITE that opens a call** brings nothing new only if its SDP has no address, and no ports but those that were
in the memory of the call -/
theorem opening_invite_iff {s : SessionManager} (hm : Matched s) {msg : String} {parsed : OsipMessage} {body : String}
    (mem : Uninit) (now : ℕ) (hparse : E.parse msg = some parsed)
    (hinvite : parsed.statusCode = 0 ∧ parsed.method = some "INVITE")
    (hnew : s.1.calls.lookup (messageCallId parsed) = none) (hsdp : sdpRequest msg = some (messageCallId parsed, body))
    (hok : (SdpBuilder.parse body .new).1 = true) :
    BringsNothingNew E s (.datagram msg mem now) ↔ Restates (.new mem) (SdpBuilder.parse body .new).2 := by
  have hid : ¬ (messageCallId parsed).isEmpty := sdpRequest_callId hsdp
  have hside := side_handleInvite (E := E) hm.callback parsed mem now hid hnew
  have hmsg : processIncomingMessage E.toSipEnv (callbacks E) msg mem now s =
      handleInvite E.toSipEnv (callbacks E) parsed mem now s := incoming_invite _ _ hparse hinvite mem now s
  obtain ⟨call, hl, hcall⟩ := Option.map_eq_some_iff.1 hside
  obtain ⟨hconn, hremote⟩ := Prod.mk.inj hcall
  rw [← restates_congr hremote]
  constructor
  · intro h
    exact h _ body hsdp hok call (by rwa [hmsg]) hconn
  · intro h callId body' hsdp' _ call' hl' _
    obtain ⟨rfl, rfl⟩ := Prod.mk.inj (Option.some.inj (hsdp.symm.trans hsdp'))
    rw [hmsg, hl] at hl'
    obtain rfl := Option.some.inj hl'
    exact h

def inviteSdp : String := "c=IN IP4 10.0.0.9\r\nm=audio 4000 RTP/AVP 8\r\nm=video 4002 RTP/AVP 97\r\n"

/-- an INVITE from 10.0.0.9, with ports 4000 for audio and 4002 for video -/
def invite : PeerMessage where
  text := "INVITE sip:rtcom@127.0.0.1 SIP/2.0\r\nVia: SIP/2.0/UDP 10.0.0.9:5060;branch=z9hG4bKp\r\n" ++
    "From: <sip:peer@10.0.0.9>;tag=p\r\nTo: <sip:rtcom@127.0.0.1>\r\nCall-ID: a1@10.0.0.9\r\nCSeq: 1 INVITE\r\n\r\n" ++
    inviteSdp
  read := (PeerMessage.request "INVITE" "a1").read

/-- **The SDP of an INVITE never reaches the senders**: the context of the call was created before it was read -/
theorem invite_ignored : ¬ ∀ (E : SessionEnv) (config : ServerConfig) (events before after : List LoopEvent),
    events = before ++ after → Agrees (exec (step E) (init E config) before) := by
  intro h
  set E := SessionEnv.constant "ab" [invite]
  have hparsed : E.parse invite.text = some invite.read := SessionEnv.parse_constant "ab" invite []
  have hrun := h E {} [.datagram invite.text ⟨0, 0, 0, 0, 0⟩ 0] _ [] (List.append_nil _).symm
  rw [exec, List.foldl_cons, List.foldl_nil] at hrun
  have hbrings := (step_agrees_iff _ _ (init_matched E {}) (init_agrees E {})).1 hrun
  have hsdp : sdpRequest invite.text = some (messageCallId invite.read, inviteSdp) := by decide +kernel
  have hparse : ((SdpBuilder.parse inviteSdp .new).1, (SdpBuilder.parse inviteSdp .new).2.connAddr) =
      (true, "10.0.0.9") := by decide +kernel
  obtain ⟨hok, haddr⟩ := Prod.mk.inj hparse
  obtain ⟨hempty, -⟩ := (opening_invite_iff E (init_matched E {}) _ 0 hparsed ⟨rfl, rfl⟩ rfl hsdp hok).1 hbrings
  rw [haddr] at hempty
  exact absurd hempty (by decide)

end MainLoop

end Rtcom
