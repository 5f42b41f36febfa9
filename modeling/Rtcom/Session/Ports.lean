/-
The local RTP ports of the calls: which sockets have them, and which ports the SDP names.

The ports come from the configuration and are the same for every call: the send sockets are opened at `audio_port` and
`video_port`, the receive sockets 2 above. The sockets may share a port (`SO_REUSEADDR`), and whether a bind succeeds is
not looked at. An offer names ports of its own, counted from the SIP port; an answer names the send ports + 2.

- `ports_apart_iff`: the calls have no port in common exactly when no context that is opened is given a port of another
  (`calls_share_ports`); `ports_apart_calls`: where every bind succeeds, exactly when one call at most is live at a
  time.
- `offer_opened_iff`: an INVITE offers the receive ports exactly when the SIP port is 998 below the audio port and 1000
  below the video port (`default_offer_not_opened`).
- `answers_true_iff`: the answers name the receive ports exactly when, for each context opened, the outcomes of the
  binds agree with the ports (`PairsUp`; `failed_send_bind`). `Synced` is the chain of copies this rests on.
-/
import Mathlib.Tactic
import Rtcom.Session.Links
import Rtcom.Session.Openings

namespace Rtcom

open Runs SipManager

/-- the socket was created and its bind succeeded -/
def SocketOutcome.Bound (o : SocketOutcome) : Prop := 0 ≤ o.fd ∧ o.bindOk = true

instance (o : SocketOutcome) : Decidable o.Bound := inferInstanceAs (Decidable (0 ≤ o.fd ∧ o.bindOk = true))

/-- the local ports of the four sockets, without those that are not bound -/
def CallContext.boundPorts (ctx : CallContext) : List UInt16 :=
  [ctx.audioRtp.localSendPort, ctx.audioRtp.localRecvPort, ctx.videoRtp.localSendPort,
    ctx.videoRtp.localRecvPort].filter (· ≠ 0)

def CallSessionInfo.localPorts (info : CallSessionInfo) : UInt16 × UInt16 := (info.audioLocalPort, info.videoLocalPort)

/-- the ports of the send sockets -/
def CallContext.sendPorts (ctx : CallContext) : UInt16 × UInt16 :=
  (ctx.audioRtp.localSendPort, ctx.videoRtp.localSendPort)

/-- if the receive socket is bound, its port is the send port + 2 -/
def RtpSession.Paired (r : RtpSession) : Prop := r.localRecvPort ≠ 0 → r.localSendPort + 2 = r.localRecvPort

/-- the outcomes of the two binds of a medium agree with its port: if the receive bind succeeds, so does the send bind,
but for the ports 0 and 65534, where the system chooses one of the two ports -/
def PairsUp (send recv : SocketOutcome) (port : UInt16) : Prop :=
  recv.Bound →
    if port = 0 then ¬ send.Bound ∨ send.ephemeral = 0
    else if port = 65534 then recv.ephemeral = 0 ∨ ¬ send.Bound ∧ recv.ephemeral = 2
    else send.Bound

theorem localPort_openAt (o : SocketOutcome) (port : UInt16) : (UdpSocket.openAt o port).2.localPort =
    if o.Bound then if port = 0 then o.ephemeral else port else 0 := by
  unfold UdpSocket.openAt
  by_cases hfd : o.fd < 0
  · have hbound : ¬ o.Bound := fun h => absurd h.1 (not_le.2 hfd)
    rw [if_pos hfd, if_neg hbound]
  · rw [if_neg hfd]
    by_cases hbind : o.bindOk = true
    · simp [SocketOutcome.Bound, not_lt.1 hfd, hbind]
    · simp [SocketOutcome.Bound, hbind]

/-- a receive socket opened 2 above a send socket -/
theorem paired_openAt_iff (send recv : SocketOutcome) (port : UInt16) :
    ((UdpSocket.openAt recv (port + 2)).2.localPort ≠ 0 → (UdpSocket.openAt send port).2.localPort + 2 =
      (UdpSocket.openAt recv (port + 2)).2.localPort) ↔ PairsUp send recv port := by
  rw [localPort_openAt, localPort_openAt, PairsUp]
  by_cases hrecv : recv.Bound
  · simp only [hrecv, if_true, true_imp_iff]
    by_cases hzero : port = 0
    · subst hzero
      by_cases hsend : send.Bound <;> simp [hsend]
    · rw [if_neg hzero, if_neg hzero]
      by_cases hlast : port = 65534
      · subst hlast
        by_cases hsend : send.Bound <;> simp [hsend, eq_comm, or_iff_not_imp_left]
      · have hsum : port + 2 ≠ 0 := fun h =>
          hlast ((UInt16.add_left_inj 2).1 (h.trans (by decide : (0 : UInt16) = 65534 + 2)))
        rw [if_neg hlast, if_neg hsum]
        by_cases hsend : send.Bound <;> simp [hsend, hsum, hzero]
  · simp [hrecv]

namespace SessionManager

variable {E : SessionEnv} {s : SessionManager}

/-! ## Isolation -/

/-- the ports the system gives to the sockets of a new context -/
def grantedPorts (media : MediaConfig) (res : Resources) : List UInt16 :=
  [(UdpSocket.openAt res.audioSend media.audioPort).2.localPort,
    (UdpSocket.openAt res.audioRecv (media.audioPort + 2)).2.localPort,
    (UdpSocket.openAt res.videoSend media.videoPort).2.localPort,
    (UdpSocket.openAt res.videoRecv (media.videoPort + 2)).2.localPort].filter (· ≠ 0)

theorem boundPorts_newContext (media : MediaConfig) (res : Resources) (id : String) (info : CallSessionInfo) :
    (Session.newContext media res id info).boundPorts = grantedPorts media res := rfl

/-- no two calls have a port in common -/
def Apart (s : SessionManager) : Prop :=
  ∀ x y ctx ctx', x ≠ y → s.2.contexts.lookup x = some ctx → s.2.contexts.lookup y = some ctx' →
    ∀ p ∈ ctx.boundPorts, p ∉ ctx'.boundPorts

/-- a context that is opened is given no port of another -/
def OpensApart (E : SessionEnv) (s : SessionManager) (o : SessionOp) : Prop :=
  (∃ id, Opens E s o id) → ∀ x ctx, s.2.contexts.lookup x = some ctx →
    ∀ p ∈ grantedPorts s.2.config.media (E.resources s.2.created), p ∉ ctx.boundPorts

theorem step_apart_iff (s : SessionManager) (o : SessionOp) (h : Backed s) (hapart : Apart s) :
    Apart (step E s o) ↔ OpensApart E s o := by
  by_cases hopens : ∃ id, Opens E s o id
  · obtain ⟨id, hid⟩ := hopens
    obtain ⟨info, heq⟩ := contexts_of_opens h hid
    have hne : ∀ {x ctx}, s.2.contexts.lookup x = some ctx → x ≠ id := by
      rintro x ctx hx rfl
      exact hid.2 (AList.lookup_isSome.1 (by rw [hx]; rfl))
    refine ⟨?_, ?_⟩
    · intro hafter _ x ctx hx p hp
      rw [← boundPorts_newContext _ _ id info] at hp
      refine hafter id x _ ctx (hne hx).symm ?_ ?_ p hp
      · rw [heq, AList.lookup_insert]
      · rw [heq, AList.lookup_insert_ne (hne hx)]
        exact hx
    · intro hgranted x y ctx ctx' hxy hx hy p hp hp'
      have hnew := hgranted ⟨id, hid⟩
      rw [heq] at hx hy
      by_cases hxid : x = id
      · subst hxid
        rw [AList.lookup_insert] at hx
        rw [AList.lookup_insert_ne hxy.symm] at hy
        obtain rfl := Option.some.inj hx
        exact hnew y ctx' hy p hp hp'
      · rw [AList.lookup_insert_ne hxid] at hx
        by_cases hyid : y = id
        · subst hyid
          rw [AList.lookup_insert] at hy
          obtain rfl := Option.some.inj hy
          exact hnew x ctx hx p hp' hp
        · rw [AList.lookup_insert_ne hyid] at hy
          exact hapart x y ctx ctx' hxy hx hy p hp hp'
  · have hold : ∀ {x ctx}, (step E s o).2.contexts.lookup x = some ctx → s.2.contexts.lookup x = some ctx :=
      contexts_of_not_opens h fun id hid => hopens ⟨id, hid⟩
    refine ⟨?_, ?_⟩
    · exact fun _ hsome => absurd hsome hopens
    · exact fun _ x y ctx ctx' hxy hx hy => hapart x y ctx ctx' hxy (hold hx) (hold hy)

/-- **The calls have no local port in common** in any state of a run exactly when each context it opens is given no
port another one has -/
theorem ports_apart_iff (E : SessionEnv) (config : ServerConfig) (ops : List SessionOp) :
    (∀ before after, ops = before ++ after → Apart (exec (step E) (started E config) before)) ↔
      Along (step E) (OpensApart E) (started E config) ops := by
  have hstart : Backed (started E config) := (started_configured config).backed
  refine always_iff (step_backed E) step_apart_iff hstart ?_ ops
  intro x y ctx ctx' _ hx
  cases hx

/-- the ports the configuration names for the four sockets -/
def rtpPorts (media : MediaConfig) : List UInt16 :=
  [media.audioPort, media.audioPort + 2, media.videoPort, media.videoPort + 2]

/-- the four binds of a context succeed -/
def AllBound (res : Resources) : Prop :=
  res.audioSend.Bound ∧ res.audioRecv.Bound ∧ res.videoSend.Bound ∧ res.videoRecv.Bound

theorem grantedPorts_of_bound {media : MediaConfig} {res : Resources} (hbound : AllBound res)
    (hports : 0 ∉ rtpPorts media) : grantedPorts media res = rtpPorts media := by
  obtain ⟨haudioSend, haudioRecv, hvideoSend, hvideoRecv⟩ := hbound
  simp only [rtpPorts, List.mem_cons, List.not_mem_nil, or_false, not_or] at hports
  obtain ⟨h1, h2, h3, h4⟩ := hports
  simp [grantedPorts, rtpPorts, localPort_openAt, haudioSend, haudioRecv, hvideoSend, hvideoRecv, Ne.symm h1,
    Ne.symm h2, Ne.symm h3, Ne.symm h4]

/-- each context has the configured ports -/
structure AtConfigured (config : ServerConfig) (s : SessionManager) : Prop where
  matched : Matched s
  configured : Configured config s
  ports : ∀ id ctx, s.2.contexts.lookup id = some ctx → ctx.boundPorts = rtpPorts config.media

theorem step_atConfigured {config : ServerConfig} (hbound : ∀ n, AllBound (E.resources n))
    (hports : 0 ∉ rtpPorts config.media) (s : SessionManager) (o : SessionOp) (h : AtConfigured config s)
    (ho : Legal E s o) : AtConfigured config (step E s o) := by
  refine ⟨step_matched E s o h.matched ho, step_configured s o h.configured, ?_⟩
  refine forall_contexts h.configured.backed ?_ h.ports
  intro id info _
  rw [h.configured.session, boundPorts_newContext, grantedPorts_of_bound (hbound _) hports]

/-- a call is connected only where no other is live -/
def EstablishesAlone (E : SessionEnv) (s : SessionManager) (o : SessionOp) : Prop :=
  (∃ id, Establishes E s o id) → liveCalls s = []

theorem opensApart_iff_alone {config : ServerConfig} (hbound : ∀ n, AllBound (E.resources n))
    (hports : 0 ∉ rtpPorts config.media) (h : AtConfigured config s) (o : SessionOp) :
    OpensApart E s o ↔ EstablishesAlone E s o := by
  have hgranted : grantedPorts s.2.config.media (E.resources s.2.created) = rtpPorts config.media := by
    rw [h.configured.session, grantedPorts_of_bound (hbound _) hports]
  simp only [OpensApart, EstablishesAlone, h.matched.opens_iff, hgranted]
  refine imp_congr_right fun _ => ?_
  constructor
  · -- the audio port is one of the ports of any context there is
    intro hnone
    refine List.eq_nil_iff_forall_not_mem.2 fun id hid => ?_
    obtain ⟨ctx, hctx⟩ := Option.isSome_iff_exists.1 (AList.lookup_isSome.2 ((h.matched.mem_contexts id).2 hid))
    have haudio : config.media.audioPort ∈ rtpPorts config.media := List.mem_cons_self
    have hfree := hnone id ctx hctx config.media.audioPort haudio
    rw [h.ports id ctx hctx] at hfree
    exact hfree haudio
  · intro hnil id ctx hctx
    have hid : id ∈ s.2.contexts := AList.lookup_isSome.1 (by rw [hctx]; rfl)
    rw [h.matched.mem_contexts, hnil] at hid
    exact absurd hid List.not_mem_nil

/-- where every bind succeeds and no port is left to the system, **the calls have no local port in common** exactly
when each call is connected while no other is live -/
theorem ports_apart_calls (E : SessionEnv) (config : ServerConfig) (ops : List SessionOp)
    (hbound : ∀ n, AllBound (E.resources n)) (hports : 0 ∉ rtpPorts config.media)
    (hlegal : Along (step E) (Legal E) (started E config) ops) :
    (∀ before after, ops = before ++ after → Apart (exec (step E) (started E config) before)) ↔
      Along (step E) (EstablishesAlone E) (started E config) ops := by
  have hstart : AtConfigured config (started E config) :=
    ⟨matched_of_empty rfl rfl rfl, started_configured config, fun id ctx hctx => by cases hctx⟩
  have hempty : Apart (started E config) := fun x y ctx ctx' _ hx => by cases hx
  rw [always_iff (step_backed E) step_apart_iff hstart.configured.backed hempty ops]
  exact along_congr (step_atConfigured hbound hports) (fun s o h _ => opensApart_iff_alone hbound hports h o) hstart
    hlegal

/-- **Two calls share all their ports** where every bind succeeds -/
theorem calls_share_ports : ¬ ∀ (E : SessionEnv) (config : ServerConfig) (ops : List SessionOp),
    Apart (exec (step E) (started E config) ops) := by
  intro h
  set E : SessionEnv := .constant "ab" [.request "INVITE" "x"]
  set ops := [SessionOp.makeCall "sip:bob@example.com" ⟨0, 0, 0, 0, 0⟩ 0, .answerCall "ab-ab" true,
    .incoming (PeerMessage.request "INVITE" "x").text ⟨0, 0, 0, 0, 0⟩ 0]
  set s := exec (step E) (started E {}) ops
  have hport : ∀ x ∈ ["ab-ab", "x"], ∃ ctx, s.2.contexts.lookup x = some ctx ∧ 5006 ∈ ctx.boundPorts := by
    intro x hx
    have hany : (s.2.contexts.lookup x).any (fun ctx => 5006 ∈ ctx.boundPorts) = true := by
      revert x
      decide +kernel
    simpa [Option.any_eq_true] using hany
  obtain ⟨ctx, hctx, hp⟩ := hport "ab-ab" (by decide)
  obtain ⟨ctx', hctx', hp'⟩ := hport "x" (by decide)
  have hapart : Apart s := h E {} ops
  exact hapart "ab-ab" "x" ctx ctx' (by decide) hctx hctx' 5006 hp hp'

/-! ## Offers -/

theorem offers_buildInviteRequest (E : SipEnv) (m : SipManager EventCallback) (callId calleeUri : String) :
    SdpBuilder.Offers (buildInviteRequest E callId calleeUri m).1 m.config.localAddr (m.config.localPort + 1000)
      (m.config.localPort + 1002) := ⟨_, rfl⟩

/-- whatever the system answers, the receive sockets of a context for the call are opened at the ports the INVITE
offers -/
def OfferOpened (E : SessionEnv) (s : SessionManager) (callId calleeUri : String) : Prop :=
  ∃ audio video,
    SdpBuilder.Offers (buildInviteRequest E.toSipEnv callId calleeUri s.1).1 s.1.config.localAddr audio video ∧
      ∀ res info, let ctx := Session.newContext s.2.config.media res callId info
        ctx.audioRtp.recvSocket = some (UdpSocket.openAt res.audioRecv audio).2 ∧
          ctx.videoRtp.recvSocket = some (UdpSocket.openAt res.videoRecv video).2

/-- a bind that succeeds tells the port asked for, if the system's own choice for port 0 is another -/
theorem openAt_inj {p q : UInt16} (h : ∀ o, (UdpSocket.openAt o p).2 = (UdpSocket.openAt o q).2) : p = q := by
  have hport : ∀ e, (if p = 0 then e else p) = if q = 0 then e else q := by
    intro e
    exact congrArg UdpSocket.localPort (h ⟨0, true, e⟩)
  by_cases hp : p = 0
  · by_cases hq : q = 0
    · rw [hp, hq]
    · have hchoice := hport (q + 1)
      simp [hp, hq] at hchoice
  · by_cases hq : q = 0
    · have hchoice := hport (p + 1)
      simp [hp, hq] at hchoice
    · simpa [hp, hq] using hport 0

theorem offerOpened_iff (E : SessionEnv) {config : ServerConfig} (h : Configured config s) (callId calleeUri : String) :
    OfferOpened E s callId calleeUri ↔ config.sip.localPort + 1000 = config.media.audioPort + 2 ∧
      config.sip.localPort + 1002 = config.media.videoPort + 2 := by
  have hoffer := offers_buildInviteRequest E.toSipEnv s.1 callId calleeUri
  rw [h.sip] at hoffer
  rw [OfferOpened, h.sip, h.session]
  refine ⟨?_, ?_⟩
  · intro hopened
    rcases hopened with ⟨audio, video, hoffers, hsockets⟩
    obtain ⟨rfl, rfl⟩ := hoffers.unique hoffer
    have hboth : ∀ o : SocketOutcome, some (UdpSocket.openAt o (config.media.audioPort + 2)).2 =
        some (UdpSocket.openAt o (config.sip.localPort + 1000)).2 ∧
          some (UdpSocket.openAt o (config.media.videoPort + 2)).2 =
            some (UdpSocket.openAt o (config.sip.localPort + 1002)).2 :=
      fun o => hsockets ⟨0, 0, 0, 0, 0, 0, o, o, o, o⟩ (.new ⟨0, 0, 0, 0, 0⟩)
    refine ⟨?_, ?_⟩
    · exact (openAt_inj fun o => Option.some.inj (hboth o).1).symm
    · exact (openAt_inj fun o => Option.some.inj (hboth o).2).symm
  · intro hports
    rcases hports with ⟨haudio, hvideo⟩
    rw [haudio, hvideo] at hoffer
    exact ⟨_, _, hoffer, fun res info => ⟨rfl, rfl⟩⟩

/-- **An INVITE offers the receive ports**, in any state, exactly when the SIP port and the media ports are at these
distances -/
theorem offer_opened_iff (E : SessionEnv) (config : ServerConfig) (ops : List SessionOp) (callId calleeUri : String) :
    OfferOpened E (exec (step E) (started E config) ops) callId calleeUri ↔
      config.sip.localPort + 1000 = config.media.audioPort + 2 ∧
        config.sip.localPort + 1002 = config.media.videoPort + 2 :=
  offerOpened_iff E (run_configured E config ops) callId calleeUri

/-- **The default configuration** offers 6060 and 6062, and receives at 5006 and 5012 -/
theorem default_offer_not_opened : ¬ ∀ (E : SessionEnv) (config : ServerConfig) (ops : List SessionOp)
    (callId calleeUri : String), OfferOpened E (exec (step E) (started E config) ops) callId calleeUri := by
  intro h
  have hports := (offerOpened_iff (.constant "ab" []) (run_configured (.constant "ab" []) {} []) "ab-ab"
    "sip:bob@example.com").1 (h _ {} [] "ab-ab" "sip:bob@example.com")
  revert hports
  decide

/-! ## Answers -/

/-- the copies of the local ports agree, from the send sockets to the connected calls -/
structure Synced (s : SessionManager) : Prop where
  backed : Backed s
  calls : Linked (fun call ctx => call.sessionInfo.localPorts = ctx.info.localPorts) s
  contexts : ∀ id ctx, s.2.contexts.lookup id = some ctx → ctx.info.localPorts = ctx.sendPorts

theorem step_synced (s : SessionManager) (o : SessionOp) (h : Synced s) : Synced (step E s o) := by
  refine ⟨step_backed E s o h.backed, ?_, ?_⟩
  · refine (step_steps E s o h.backed).linked h.backed ?_ ?_ h.calls
    · intro call call' ctx haudio hvideo _ hsame
      rw [← hsame, CallSessionInfo.localPorts, haudio, hvideo]
      rfl
    · exact fun _ _ _ _ => rfl
  · exact forall_contexts h.backed (fun _ _ _ => rfl) h.contexts

/-- for each receive socket that is bound, the SDP answer of a connected call names its port -/
def AnswersTrue (s : SessionManager) : Prop :=
  ∀ id call ctx, s.1.calls.lookup id = some call → call.state = .kConnected → s.2.contexts.lookup id = some ctx →
    ∃ audio video, SdpBuilder.Offers (buildSdpAnswer s.1 id) s.1.config.localAddr audio video ∧
      (ctx.audioRtp.localRecvPort ≠ 0 → audio = ctx.audioRtp.localRecvPort) ∧
      (ctx.videoRtp.localRecvPort ≠ 0 → video = ctx.videoRtp.localRecvPort)

theorem Synced.offers (h : Synced s) {id : String} {call : SipCall} {ctx : CallContext}
    (hl : s.1.calls.lookup id = some call) (hst : call.state = .kConnected)
    (hctx : s.2.contexts.lookup id = some ctx) :
    SdpBuilder.Offers (buildSdpAnswer s.1 id) s.1.config.localAddr (ctx.audioRtp.localSendPort + 2)
      (ctx.videoRtp.localSendPort + 2) := by
  obtain ⟨ctx', hctx', hports⟩ := h.calls id call hl hst
  obtain rfl := Option.some.inj (hctx.symm.trans hctx')
  have hsend : call.sessionInfo.localPorts = ctx.sendPorts := hports.trans (h.contexts id ctx hctx)
  obtain ⟨haudio, hvideo⟩ := Prod.mk.inj hsend
  refine ⟨"", ?_⟩
  rw [buildSdpAnswer, hl, ← haudio, ← hvideo]
  exact (String.empty_append).symm

/-- the answers in terms of the sockets -/
theorem answersTrue_iff (h : Synced s) : AnswersTrue s ↔
    ∀ id call ctx, s.1.calls.lookup id = some call → call.state = .kConnected → s.2.contexts.lookup id = some ctx →
      ctx.audioRtp.Paired ∧ ctx.videoRtp.Paired := by
  refine ⟨?_, ?_⟩
  · intro htrue id call ctx hl hst hctx
    obtain ⟨audio, video, hoffers, haudio, hvideo⟩ := htrue id call ctx hl hst hctx
    obtain ⟨rfl, rfl⟩ := hoffers.unique (h.offers hl hst hctx)
    exact ⟨haudio, hvideo⟩
  · intro hpaired id call ctx hl hst hctx
    exact ⟨_, _, h.offers hl hst hctx, hpaired id call ctx hl hst hctx⟩

/-- the contexts that are opened have binds that agree with the ports -/
def OpensPaired (E : SessionEnv) (config : ServerConfig) (s : SessionManager) (o : SessionOp) : Prop :=
  (∃ id, Opens E s o id) → let res := E.resources s.2.created
    PairsUp res.audioSend res.audioRecv config.media.audioPort ∧
      PairsUp res.videoSend res.videoRecv config.media.videoPort

theorem paired_newContext_iff (media : MediaConfig) (res : Resources) (id : String) (info : CallSessionInfo) :
    let ctx := Session.newContext media res id info
    ctx.audioRtp.Paired ∧ ctx.videoRtp.Paired ↔ PairsUp res.audioSend res.audioRecv media.audioPort ∧
      PairsUp res.videoSend res.videoRecv media.videoPort :=
  and_congr (paired_openAt_iff res.audioSend res.audioRecv media.audioPort)
    (paired_openAt_iff res.videoSend res.videoRecv media.videoPort)

/-- the state of a run that opens pairs only -/
structure AllPaired (config : ServerConfig) (s : SessionManager) : Prop where
  configured : Configured config s
  paired : ∀ id ctx, s.2.contexts.lookup id = some ctx → ctx.audioRtp.Paired ∧ ctx.videoRtp.Paired

theorem step_allPaired {config : ServerConfig} (s : SessionManager) (o : SessionOp) (h : AllPaired config s)
    (ho : OpensPaired E config s o) : AllPaired config (step E s o) := by
  refine ⟨step_configured s o h.configured, forall_contexts h.configured.backed ?_ h.paired⟩
  intro id info hid
  rw [h.configured.session]
  exact (paired_newContext_iff config.media (E.resources s.2.created) id info).2 (ho ⟨id, hid⟩)

theorem run_synced (E : SessionEnv) (config : ServerConfig) (ops : List SessionOp) :
    Synced (exec (step E) (started E config) ops) := by
  refine exec_preserves step_synced ⟨(started_configured config).backed, ?_, ?_⟩ ops
  · intro id call hl
    cases hl
  · intro id ctx hctx
    cases hctx

/-- **The SDP answers name the ports of the receive sockets**, in every state of a run, exactly when for every context
it opens the binds agree with the ports -/
theorem answers_true_iff (E : SessionEnv) (config : ServerConfig) (ops : List SessionOp) :
    (∀ before after, ops = before ++ after → AnswersTrue (exec (step E) (started E config) before)) ↔
      Along (step E) (OpensPaired E config) (started E config) ops := by
  refine ⟨?_, ?_⟩
  · intro htrue
    rw [along_iff]
    intro before o after hops hopens
    obtain ⟨id, hid⟩ := hopens
    set s := exec (step E) (started E config) before
    have hconf : Configured config s := run_configured E config before
    -- the call whose context is opened is connected right after
    have hnext : AnswersTrue (step E s o) := by
      have hprefix := htrue (before ++ [o]) after (by rw [hops, List.append_assoc]; rfl)
      rwa [exec_append] at hprefix
    have hsync : Synced (step E s o) := step_synced s o (run_synced E config before)
    obtain ⟨call, hl, hst⟩ := connected_of_connects hconf.backed hid.1
    obtain ⟨info, heq⟩ := contexts_of_opens hconf.backed hid
    have hpaired := (answersTrue_iff hsync).1 hnext id call _ hl hst (by rw [heq, AList.lookup_insert])
    rw [hconf.session] at hpaired
    exact (paired_newContext_iff config.media (E.resources s.2.created) id info).1 hpaired
  · intro hall before after hops
    rw [hops, along_append] at hall
    have hstart : AllPaired config (started E config) :=
      ⟨started_configured config, fun id ctx hctx => by cases hctx⟩
    have hbefore : AllPaired config (exec (step E) (started E config) before) :=
      exec_inv step_allPaired hstart before hall.1
    rw [answersTrue_iff (run_synced E config before)]
    exact fun id _ ctx _ _ hctx => hbefore.paired id ctx hctx

/-- the send sockets are refused their port, the receive sockets get theirs -/
def sendRefusedEnv : SessionEnv :=
  { SessionEnv.constant "ab" [.request "INVITE" "x"] with
    resources := fun _ => ⟨1, 2, 3, 4, 0, 0, ⟨10, false, 0⟩, ⟨11, true, 0⟩, ⟨12, false, 0⟩, ⟨13, true, 0⟩⟩ }

/-- **A send bind that fails** makes the answer name port 2 -/
theorem failed_send_bind : ¬ ∀ (E : SessionEnv) (config : ServerConfig) (ops : List SessionOp),
    AnswersTrue (exec (step E) (started E config) ops) := by
  intro h
  set ops := [SessionOp.incoming (PeerMessage.request "INVITE" "x").text ⟨0, 0, 0, 0, 0⟩ 0]
  set s := exec (step sendRefusedEnv) (started sendRefusedEnv {}) ops
  have hcall : (s.1.calls.lookup "x").any (fun call => call.state = .kConnected) = true := by decide +kernel
  have hctx : (s.2.contexts.lookup "x").any (fun ctx =>
      ctx.audioRtp.localRecvPort = 5006 ∧ ctx.audioRtp.localSendPort = 0) = true := by decide +kernel
  obtain ⟨call, hl, hst⟩ := (Option.any_eq_true ..).1 hcall
  obtain ⟨ctx, hl', hports⟩ := (Option.any_eq_true ..).1 hctx
  obtain ⟨hrecv, hsend⟩ := of_decide_eq_true hports
  have hsynced : Synced s := run_synced sendRefusedEnv {} ops
  have htrue : AnswersTrue s := h sendRefusedEnv {} ops
  have hpaired := (answersTrue_iff hsynced).1 htrue "x" call ctx hl (of_decide_eq_true hst) hl'
  have hsum := hpaired.1 (by rw [hrecv]; decide)
  rw [hrecv, hsend] at hsum
  exact absurd hsum (by decide)

end SessionManager

end Rtcom
