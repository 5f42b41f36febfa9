/-
`SessionManager` of `src/session/session_manager.{h,cpp}`: the contexts of the established calls, `OnSipEvent`, which
creates and removes them, the registration of their receive sockets with the multiplexer of
`src/net/io_multiplexer.cpp`, and the operations an application, the network and the clock bring (`SessionOp`).

The state is the `SipManager` and everything else (`Session`); the callback installed in the SIP manager is either
`OnSipEvent` or one of the application, which is only told the changes. `SessionEnv` adds to the SIP environment what
a new context gets from the operating system and the random generator, and the answers of `epoll_ctl`. Left out:
encoders and decoders, which a context always has, the thread pool and the threads.
-/
import Mathlib.Tactic
import Rtcom.Rtp.JitterBuffer
import Rtcom.Rtp.Rtcp
import Rtcom.Rtp.Session
import Rtcom.Sip.Handlers

namespace Rtcom

/-! ## State -/

/-- what a context is created with: random numbers and the outcome of opening its four sockets -/
structure Resources where
  audioSsrc : UInt32
  videoSsrc : UInt32
  audioRandomSsrc : UInt32
  videoRandomSsrc : UInt32
  audioTimestamp : UInt32
  videoTimestamp : UInt32
  audioSend : SocketOutcome
  audioRecv : SocketOutcome
  videoSend : SocketOutcome
  videoRecv : SocketOutcome
deriving DecidableEq, Repr

/-- `resources k` is for the k-th context created, `epollCtl k` the answer to the k-th call of `epoll_ctl` -/
structure SessionEnv extends SipEnv where
  resources : ℕ → Resources
  epollCtl : ℕ → Bool

/-- every draw gives the same, the messages given are read, all sockets open -/
def SessionEnv.constant (hex : String) (known : List PeerMessage) : SessionEnv where
  hex := fun _ _ => hex
  firstCseq := fun _ => 1
  firstCseq_range := fun _ => by decide
  parse := PeerMessage.reading known
  resources := fun _ => ⟨1, 2, 3, 4, 0, 0, ⟨10, true, 0⟩, ⟨11, true, 0⟩, ⟨12, true, 0⟩, ⟨13, true, 0⟩⟩
  epollCtl := fun _ => true

/-- the first of the messages is read -/
theorem SessionEnv.parse_constant (hex : String) (p : PeerMessage) (known : List PeerMessage) :
    (SessionEnv.constant hex (p :: known)).parse p.text = some p.read := PeerMessage.reading_cons_self p known

theorem SessionEnv.parse_constant_of_ne (hex : String) {p : PeerMessage} {rawMsg : String} (hne : p.text ≠ rawMsg)
    (known : List PeerMessage) :
    (SessionEnv.constant hex (p :: known)).parse rawMsg = (SessionEnv.constant hex known).parse rawMsg :=
  PeerMessage.reading_cons_of_ne hne known

structure CallContext where
  audioRtp : RtpSession
  videoRtp : RtpSession
  rtcp : RtcpHandler
  audioJitter : JitterBuffer
  videoJitter : JitterBuffer
  info : CallSessionInfo
  callId : String

/-- the two receive callbacks of a call -/
inductive Medium where
  | audio
  | video
deriving DecidableEq, Repr

/-- `fd_map_` of the multiplexer: the call and the callback registered for a file descriptor -/
abbrev FdMap := AList fun _ : ℤ => String × Medium

/-- the callbacks that get installed in the SIP manager -/
inductive EventCallback where
  | onSipEvent
  | application
deriving DecidableEq, Repr

/-- a session manager without its SIP manager -/
structure Session where
  config : ServerConfig
  contexts : AList fun _ : String => CallContext
  fdMap : FdMap
  epollCalls : ℕ
  created : ℕ
  observed : List (String × SipCallState)

abbrev SessionManager := SipManager EventCallback × Session

namespace Session

variable (E : SessionEnv)

def new (config : ServerConfig) : Session where
  config := config
  contexts := ∅
  fdMap := ∅
  epollCalls := 0
  created := 0
  observed := []

/-! ## The multiplexer -/

def addFd (w : Session) (fd : ℤ) (callback : String × Medium) : Session :=
  { w with
    fdMap := if E.epollCtl w.epollCalls then w.fdMap.insert fd callback else w.fdMap
    epollCalls := w.epollCalls + 1 }

def delFd (w : Session) (fd : ℤ) : Session :=
  { w with
    fdMap := if E.epollCtl w.epollCalls then w.fdMap.erase fd else w.fdMap
    epollCalls := w.epollCalls + 1 }

def registerRtpFds (w : Session) (ctx : CallContext) : Session :=
  let w := if ctx.audioRtp.recvFd ≥ 0 then w.addFd E ctx.audioRtp.recvFd (ctx.callId, .audio) else w
  if ctx.videoRtp.recvFd ≥ 0 then w.addFd E ctx.videoRtp.recvFd (ctx.callId, .video) else w

def unregisterRtpFds (w : Session) (ctx : CallContext) : Session :=
  let w := if ctx.audioRtp.recvFd ≥ 0 then w.delFd E ctx.audioRtp.recvFd else w
  if ctx.videoRtp.recvFd ≥ 0 then w.delFd E ctx.videoRtp.recvFd else w

/-! ## Contexts -/

/-- `GetOrCreateContext`, the new context; its local ports are those of the send sockets -/
def newContext (media : MediaConfig) (res : Resources) (callId : String) (info : CallSessionInfo) : CallContext :=
  let audio := RtpSession.new res.audioSsrc .kAAC res.audioRandomSsrc res.audioTimestamp
  let (_, audio) := audio.openSendSocket res.audioSend media.audioPort
  let (_, audio) := audio.openRecvSocket res.audioRecv (media.audioPort + 2)
  let video := RtpSession.new res.videoSsrc .kH264 res.videoRandomSsrc res.videoTimestamp
  let (_, video) := video.openSendSocket res.videoSend media.videoPort
  let (_, video) := video.openRecvSocket res.videoRecv (media.videoPort + 2)
  let jbCfg : JitterBufferConfig := { sampleRate := media.audioSampleRate, initialDelayMs := 0 }
  { audioRtp := audio
    videoRtp := video
    rtcp := ⟨res.audioSsrc⟩
    audioJitter := .new jbCfg
    videoJitter := .new jbCfg
    info := { info with
      localSsrc := res.audioSsrc
      audioLocalPort := audio.localSendPort
      videoLocalPort := video.localSendPort }
    callId := callId }

def getOrCreateContext (w : Session) (callId : String) (info : CallSessionInfo) : CallContext × Session :=
  match w.contexts.lookup callId with
  | some ctx => (ctx, w)
  | none =>
    let ctx := newContext w.config.media (E.resources w.created) callId info
    let w := { w with contexts := w.contexts.insert callId ctx, created := w.created + 1 }
    (ctx, w.registerRtpFds E ctx)

def removeContext (w : Session) (callId : String) : Session :=
  match w.contexts.lookup callId with
  | none => w
  | some ctx =>
    let w := w.unregisterRtpFds E ctx
    { w with contexts := w.contexts.erase callId }

end Session

/-! ## Events and operations -/

namespace SessionManager

open SipManager

variable (E : SessionEnv)

def new (config : ServerConfig) : SessionManager := (SipManager.new, Session.new config)

/-- `OnSipEvent`; the ports of the context go back to the call -/
def onSipEvent (callId : String) (state : SipCallState) (s : SessionManager) : SessionManager :=
  match state with
  | .kConnected =>
    match s.1.calls.lookup callId with
    | none => s
    | some call =>
      let (ctx, w) := s.2.getOrCreateContext E callId call.sessionInfo
      let info := { call.sessionInfo with
        audioLocalPort := ctx.info.audioLocalPort
        videoLocalPort := ctx.info.videoLocalPort }
      (s.1.putCall callId { call with sessionInfo := info }, w)
  | .kDisconnected | .kFailed => (s.1, s.2.removeContext E callId)
  | _ => s

def callbacks : Callbacks EventCallback Session
  | .onSipEvent, callId, state, s => onSipEvent E callId state s
  | .application, callId, state, s => (s.1, { s.2 with observed := s.2.observed ++ [(callId, state)] })

/-- only the report of a connected call comes back to the SIP manager -/
theorem notify_fst (id : String) {st : SipCallState} (hst : st ≠ .kConnected) (s : SessionManager) :
    (notifyStateChange (callbacks E) id st s).1 = s.1 := by
  unfold notifyStateChange
  cases s.1.sipEventCb with
  | none => rfl
  | some k =>
    cases k with
    | application => rfl
    | onSipEvent =>
      cases st with
      | kConnected => exact absurd rfl hst
      | _ => rfl

def setSipEventCallback (s : SessionManager) : SessionManager :=
  ({ s.1 with sipEventCb := some .application }, s.2)

def start (osipInit : Bool) (s : SessionManager) : Bool × SessionManager :=
  let (ok, m) := initialise E.toSipEnv osipInit s.2.config.sip s.1
  if !ok then (false, (m, s.2))
  else (true, ({ m with sipEventCb := some .onSipEvent }, s.2))

/-- a new session manager after a successful `Start` -/
def started (config : ServerConfig) : SessionManager := (start E true (new config)).2

def stop (s : SessionManager) : SessionManager :=
  let s := shutdown (callbacks E) s
  (s.1, { s.2 with contexts := ∅ })

def makeCall (calleeUri : String) (mem : Uninit) (now : ℕ) (s : SessionManager) : String × SessionManager :=
  if s.2.contexts.entries.length ≥ s.2.config.maxSessions.toNat then ("", s)
  else SipManager.makeCall E.toSipEnv (callbacks E) calleeUri mem now s

end SessionManager

/-- an operation on a session manager; `sipMakeCall` is `MakeCall` of the SIP manager it hands out -/
inductive SessionOp where
  | makeCall (calleeUri : String) (mem : Uninit) (now : ℕ)
  | sipMakeCall (calleeUri : String) (mem : Uninit) (now : ℕ)
  | answerCall (callId : String) (accept : Bool)
  | hangUp (callId : String)
  | cancelCall (callId : String)
  | incoming (rawMsg : String) (mem : Uninit) (now : ℕ)
  | processTimers (visits : List Visit)
  | processIncomingSdp (callId sdpBody : String)
  | register
  | unregister
  | stop

namespace SessionManager

open SipManager

variable (E : SessionEnv)

def step (s : SessionManager) : SessionOp → SessionManager
  | .makeCall calleeUri mem now => (makeCall E calleeUri mem now s).2
  | .sipMakeCall calleeUri mem now => (SipManager.makeCall E.toSipEnv (callbacks E) calleeUri mem now s).2
  | .answerCall callId accept => (answerCall E.toSipEnv (callbacks E) callId accept s).2
  | .hangUp callId => (hangUp E.toSipEnv (callbacks E) callId s).2
  | .cancelCall callId => (cancelCall (callbacks E) callId s).2
  | .incoming rawMsg mem now => processIncomingMessage E.toSipEnv (callbacks E) rawMsg mem now s
  | .processTimers visits => processTimers (callbacks E) visits s
  | .processIncomingSdp callId sdpBody => ((processIncomingSdp callId sdpBody s.1).2, s.2)
  | .register => (register (callbacks E) s).2
  | .unregister => (unregister (callbacks E) s).2
  | .stop => stop E s

/-- the call id `MakeCall` of the SIP manager would generate is not in use -/
def FreshId (m : SipManager EventCallback) : Prop := m.initialized → (generateCallId E.toSipEnv m).1 ∉ m.calls

/-- what the environment grants a step: a generated call id is not in use, and a walk over the calls visits each once -/
def Legal (s : SessionManager) : SessionOp → Prop
  | .makeCall .. => s.2.contexts.entries.length < s.2.config.maxSessions.toNat → FreshId E s.1
  | .sipMakeCall .. => FreshId E s.1
  | .processTimers visits => (visits.map Visit.callId).Perm s.1.calls.keys
  | _ => True

end SessionManager

end Rtcom
