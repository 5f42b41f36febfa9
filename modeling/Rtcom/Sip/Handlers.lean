/-
The operations of `SipManager` from `src/sip/sip_manager.cpp`: `Initialize` and `Shutdown`, the call control of the
application, the handlers of incoming messages, `ProcessTimers` and `ProcessIncomingSdp`.

An operation works on the manager and the state σ of whoever owns it, because `NotifyStateChange` hands control to the
callback, which may touch both: `Callbacks κ σ` interprets the callbacks. Each operation takes the clock reading and the
uninitialised memory it uses. `ProcessTimers` walks an `unordered_map`; the order of the walk and the clock readings at
each call are the list of its `Visit`s.
-/
import Mathlib.Tactic
import Rtcom.Sip.Manager

namespace Rtcom

/-- what calling a callback does to the manager and its owner -/
abbrev Callbacks (κ σ : Type) := κ → String → SipCallState → SipManager κ × σ → SipManager κ × σ

/-- one turn of the loop in `ProcessTimers`: the call, and the clock at the two expiry checks and at the restart -/
structure Visit where
  callId : String
  firstCheck : ℕ
  secondCheck : ℕ
  restart : ℕ
deriving DecidableEq, Repr

namespace SipManager

variable {κ σ : Type} (E : SipEnv) (cb : Callbacks κ σ)

def notifyStateChange (callId : String) (state : SipCallState) (s : SipManager κ × σ) : SipManager κ × σ :=
  match s.1.sipEventCb with
  | none => s
  | some k => cb k callId state s

/-- `calls_[callId] = call`, or an assignment through a reference into `calls_` -/
def putCall (m : SipManager κ) (callId : String) (call : SipCall) : SipManager κ :=
  { m with calls := m.calls.insert callId call }

def eraseCall (m : SipManager κ) (callId : String) : SipManager κ := { m with calls := m.calls.erase callId }

theorem lookup_putCall (m : SipManager κ) (callId : String) (call : SipCall) (x : String) :
    (m.putCall callId call).calls.lookup x = if x = callId then some call else m.calls.lookup x := by
  unfold putCall
  split_ifs with h
  · rw [h, AList.lookup_insert]
  · rw [AList.lookup_insert_ne h]

theorem lookup_eraseCall (m : SipManager κ) (callId x : String) :
    (m.eraseCall callId).calls.lookup x = if x = callId then none else m.calls.lookup x := by
  unfold eraseCall
  split_ifs with h
  · rw [h, AList.lookup_erase]
  · rw [AList.lookup_erase_ne h]

/-- a call that is there is replaced -/
theorem isSome_lookup_putCall {m : SipManager κ} {callId : String} {call : SipCall}
    (hl : m.calls.lookup callId = some call) (call' : SipCall) (x : String) :
    ((m.putCall callId call').calls.lookup x).isSome = (m.calls.lookup x).isSome := by
  rw [lookup_putCall]
  split_ifs with h
  · rw [h, hl, Option.isSome_some, Option.isSome_some]
  · rfl

/-- a builder that runs after a call was stored might have run before -/
theorem BuilderFrame.of_putCall {m m' : SipManager κ} {callId : String} {call : SipCall}
    (h : BuilderFrame (m.putCall callId call) m') : ∃ m₀, BuilderFrame m m₀ ∧ m' = m₀.putCall callId call := by
  obtain ⟨n, c, rfl⟩ := h
  exact ⟨{ m with draws := m.draws + n, localCseq := c }, ⟨n, c, rfl⟩, rfl⟩

/-! ## Initialisation and registration -/

def initialise (osipInit : Bool) (config : SipConfig) (m : SipManager κ) : Bool × SipManager κ :=
  let m := { m with config := config }
  if !osipInit then (false, m)
  else
    (true, { m with
      branchId := "z9hG4bK" ++ E.hex m.draws 32
      callIdPrefix := E.hex (m.draws + 1) 16
      localCseq := E.firstCseq (m.draws + 2)
      initialized := true
      draws := m.draws + 3 })

def register (s : SipManager κ × σ) : Bool × (SipManager κ × σ) :=
  if !s.1.initialized then (false, s)
  else (true, notifyStateChange cb "" .kRegistered ({ s.1 with registered := true }, s.2))

def unregister (s : SipManager κ × σ) : Bool × (SipManager κ × σ) :=
  if !s.1.registered then (false, s)
  else (true, notifyStateChange cb "" .kUnregistered ({ s.1 with registered := false }, s.2))

def shutdown (s : SipManager κ × σ) : SipManager κ × σ :=
  let s := if s.1.registered then (unregister cb s).2 else s
  ({ s.1 with calls := ∅, initialized := false }, s.2)

/-! ## Call control -/

def makeCall (calleeUri : String) (mem : Uninit) (now : ℕ) (s : SipManager κ × σ) : String × (SipManager κ × σ) :=
  if !s.1.initialized then ("", s)
  else
    let (callId, m) := generateCallId E s.1
    let localUri := m.config.username ++ "@" ++ m.config.domain
    let call := ((SipCall.new callId localUri calleeUri mem).setState .kCalling).startTimer m.config.retryT1Ms now
    let (_, m) := buildInviteRequest E callId calleeUri m
    (callId, notifyStateChange cb callId .kCalling (m.putCall callId call, s.2))

/-- a call is placed: what is stored and reported, after tags and numbers were drawn -/
theorem makeCall_spec (calleeUri : String) (mem : Uninit) (now : ℕ) (s : SipManager κ × σ)
    (hinit : s.1.initialized = true) :
    ∃ m callId call, makeCall E cb calleeUri mem now s =
        (callId, notifyStateChange cb callId .kCalling (m.putCall callId call, s.2)) ∧
      callId = (generateCallId E s.1).1 ∧ BuilderFrame s.1 m ∧ call.callId = callId ∧ call.state = .kCalling ∧
      call.retransmitCount = 0 ∧ call.timerStart = now ∧ call.timerDurationMs = s.1.config.retryT1Ms := by
  have hid := generateCallId_frame E s.1
  set callId := (generateCallId E s.1).1
  set m := (generateCallId E s.1).2
  have hframe := hid.trans (buildInviteRequest_frame E m callId calleeUri)
  refine ⟨(buildInviteRequest E callId calleeUri m).2, callId,
    ((SipCall.new callId (m.config.username ++ "@" ++ m.config.domain) calleeUri mem).setState .kCalling).startTimer
      m.config.retryT1Ms now, ?_, rfl, hframe, ?_, ?_, rfl, rfl, ?_⟩
  · rw [makeCall, hinit]
    rfl
  · simp
  · simp
  · rw [hid.config]
    rfl

def answerCall (callId : String) (accept : Bool) (s : SipManager κ × σ) : Bool × (SipManager κ × σ) :=
  match s.1.calls.lookup callId with
  | none => (false, s)
  | some call =>
    let code := if accept then 200 else 486
    let (tag, m) := generateTag E s.1
    let (_, m) := buildResponse E code (if accept then "OK" else "Busy Here") tag m
    if accept then
      (true, notifyStateChange cb callId .kConnected (m.putCall callId (call.setState .kConnected), s.2))
    else
      let s := notifyStateChange cb callId .kDisconnected (m.putCall callId (call.setState .kDisconnected), s.2)
      (false, (s.1.eraseCall callId, s.2))

def hangUp (callId : String) (s : SipManager κ × σ) : Bool × (SipManager κ × σ) :=
  match s.1.calls.lookup callId with
  | none => (false, s)
  | some call =>
    if call.state ≠ .kConnected ∧ call.state ≠ .kInProgress then (false, s)
    else
      let m := s.1.putCall callId (call.setState .kDisconnecting)
      let (_, m) := buildByeRequest E callId m
      (true, notifyStateChange cb callId .kDisconnecting (m, s.2))

def cancelCall (callId : String) (s : SipManager κ × σ) : Bool × (SipManager κ × σ) :=
  match s.1.calls.lookup callId with
  | none => (false, s)
  | some call =>
    let s := notifyStateChange cb callId .kDisconnected (s.1.putCall callId (call.setState .kDisconnected), s.2)
    (true, (s.1.eraseCall callId, s.2))

/-! ## Incoming messages -/

/-- the call id the handlers use: the number part of the header, or nothing -/
def messageCallId (msg : OsipMessage) : String := msg.callIdNumber.getD ""

/-- `HandleInvite`, the headers kept for the responses; the From header is there, with or without a tag -/
def cacheHeaders (msg : OsipMessage) (callId : String) (m : SipManager κ) : SipManager κ :=
  { m with
    lastCallId := callId
    lastViaBranch := msg.viaBranch.getD m.lastViaBranch
    lastFromTag := msg.fromTag.getD m.lastFromTag
    lastCseq := match msg.cseq with
      | some (number, method) => number.getD "0" ++ " " ++ method.getD "INVITE"
      | none => m.lastCseq }

theorem calls_cacheHeaders (msg : OsipMessage) (callId : String) (m : SipManager κ) :
    (cacheHeaders msg callId m).calls = m.calls := rfl

/-- `HandleInvite`, the remote URI from the From header -/
def remoteOf (msg : OsipMessage) : String :=
  match msg.fromUrl with
  | some (username, host) => username.getD "" ++ "@" ++ host.getD ""
  | none => "unknown"

/-- `HandleInvite`, the automatic 200 OK -/
def autoAnswer (callId : String) (s : SipManager κ × σ) : SipManager κ × σ :=
  let (tag, m) := generateTag E s.1
  let (_, m) := buildResponse E 200 "OK" tag m
  match m.calls.lookup callId with
  | none => (m, s.2)
  | some call => notifyStateChange cb callId .kConnected (m.putCall callId (call.setState .kConnected), s.2)

def handleInvite (msg : OsipMessage) (mem : Uninit) (now : ℕ) (s : SipManager κ × σ) : SipManager κ × σ :=
  let callId := messageCallId msg
  if callId.isEmpty then s
  else
    let m := cacheHeaders msg callId s.1
    let localUri := m.config.username ++ "@" ++ m.config.domain
    match m.calls.lookup callId with
    | some _ => (m, s.2)
    | none =>
      let call := ((SipCall.new callId localUri ("sip:" ++ remoteOf msg) mem).setState .kRinging).startTimer
        m.config.retryT1Ms now
      autoAnswer E cb callId (notifyStateChange cb callId .kRinging (m.putCall callId call, s.2))

/-- tags and a CSeq number are used up, then the call is connected if it is there -/
theorem autoAnswer_spec (callId : String) (s : SipManager κ × σ) : ∃ m, BuilderFrame s.1 m ∧
    autoAnswer E cb callId s = match s.1.calls.lookup callId with
      | none => (m, s.2)
      | some call => notifyStateChange cb callId .kConnected (m.putCall callId (call.setState .kConnected), s.2) := by
  have htag := generateTag_frame E s.1
  unfold autoAnswer
  generalize generateTag E s.1 = r at htag ⊢
  obtain ⟨tag, m₁⟩ := r
  have hresponse := buildResponse_frame E m₁ 200 "OK" tag
  simp only
  generalize buildResponse E 200 "OK" tag m₁ = r at hresponse ⊢
  obtain ⟨_, m⟩ := r
  have hframe : BuilderFrame s.1 m := htag.trans hresponse
  refine ⟨m, hframe, ?_⟩
  rw [← hframe.calls]

/-- the call `HandleInvite` creates -/
def ringingCall (config : SipConfig) (msg : OsipMessage) (mem : Uninit) (now : ℕ) : SipCall :=
  ((SipCall.new (messageCallId msg) (config.username ++ "@" ++ config.domain) ("sip:" ++ remoteOf msg)
    mem).setState .kRinging).startTimer config.retryT1Ms now

@[simp] theorem callId_ringingCall (config : SipConfig) (msg : OsipMessage) (mem : Uninit) (now : ℕ) :
    (ringingCall config msg mem now).callId = messageCallId msg := by
  simp [ringingCall]

@[simp] theorem state_ringingCall (config : SipConfig) (msg : OsipMessage) (mem : Uninit) (now : ℕ) :
    (ringingCall config msg mem now).state = .kRinging := by
  simp [ringingCall]

/-- an INVITE without a Call-ID, or for a call that is there -/
theorem handleInvite_known (msg : OsipMessage) (mem : Uninit) (now : ℕ) (s : SipManager κ × σ)
    (h : (messageCallId msg).isEmpty ∨ (s.1.calls.lookup (messageCallId msg)).isSome) :
    ∃ m, m.calls = s.1.calls ∧ m.sipEventCb = s.1.sipEventCb ∧ handleInvite E cb msg mem now s = (m, s.2) ∧
      m = if (messageCallId msg).isEmpty then s.1 else cacheHeaders msg (messageCallId msg) s.1 := by
  unfold handleInvite
  by_cases hempty : (messageCallId msg).isEmpty = true
  · exact ⟨s.1, rfl, rfl, if_pos hempty, (if_pos hempty).symm⟩
  · obtain ⟨call, hl⟩ := Option.isSome_iff_exists.1 (h.resolve_left hempty)
    refine ⟨cacheHeaders msg (messageCallId msg) s.1, rfl, rfl, ?_, (if_neg hempty).symm⟩
    rw [if_neg hempty]
    simp only [calls_cacheHeaders, hl]

/-- an INVITE that opens a call -/
theorem handleInvite_new (msg : OsipMessage) (mem : Uninit) (now : ℕ) (s : SipManager κ × σ)
    (h : ¬ ((messageCallId msg).isEmpty ∨ (s.1.calls.lookup (messageCallId msg)).isSome)) :
    handleInvite E cb msg mem now s = autoAnswer E cb (messageCallId msg) (notifyStateChange cb (messageCallId msg)
      .kRinging ((cacheHeaders msg (messageCallId msg) s.1).putCall (messageCallId msg)
        (ringingCall s.1.config msg mem now), s.2)) := by
  obtain ⟨hempty, hnone⟩ := not_or.1 h
  rw [Option.not_isSome_iff_eq_none] at hnone
  rw [handleInvite, if_neg hempty]
  simp only [calls_cacheHeaders, hnone]
  rfl

def handleAck (s : SipManager κ × σ) : SipManager κ × σ := s

/-- `HandleCancel`, and the first part of `HandleBye` -/
def dropCall (callId : String) (s : SipManager κ × σ) : SipManager κ × σ :=
  match s.1.calls.lookup callId with
  | none => s
  | some call =>
    let s := notifyStateChange cb callId .kDisconnected (s.1.putCall callId (call.setState .kDisconnected), s.2)
    (s.1.eraseCall callId, s.2)

/-- `CancelCall` has the same body -/
theorem cancelCall_snd (callId : String) (s : SipManager κ × σ) :
    (cancelCall cb callId s).2 = dropCall cb callId s := by
  rw [cancelCall, dropCall]
  cases s.1.calls.lookup callId <;> rfl

def handleBye (msg : OsipMessage) (s : SipManager κ × σ) : SipManager κ × σ :=
  let s := dropCall cb (messageCallId msg) s
  ((buildResponse E 200 "OK" "" s.1).2, s.2)

def handleCancel (msg : OsipMessage) (s : SipManager κ × σ) : SipManager κ × σ := dropCall cb (messageCallId msg) s

def handleResponse (msg : OsipMessage) (s : SipManager κ × σ) : SipManager κ × σ :=
  let callId := messageCallId msg
  match s.1.calls.lookup callId with
  | none => s
  | some call =>
    if 200 ≤ msg.statusCode ∧ msg.statusCode < 300 then
      if call.state = .kCalling then
        let (_, m) := buildAckRequest E callId s.1
        notifyStateChange cb callId .kConnected (m.putCall callId (call.setState .kConnected), s.2)
      else if call.state = .kDisconnecting then
        let s := notifyStateChange cb callId .kDisconnected (s.1.putCall callId (call.setState .kDisconnected), s.2)
        (s.1.eraseCall callId, s.2)
      else s
    else if msg.statusCode ≥ 300 then
      let call := (call.setState .kFailed).setError ("SIP " ++ toString msg.statusCode)
      notifyStateChange cb callId .kFailed (s.1.putCall callId call, s.2)
    else s

/-- a message is a request exactly when its status code is 0 -/
def processIncomingMessage (rawMsg : String) (mem : Uninit) (now : ℕ) (s : SipManager κ × σ) : SipManager κ × σ :=
  match E.parse rawMsg with
  | none => s
  | some msg =>
    if msg.statusCode = 0 then
      match msg.method with
      | some "INVITE" => handleInvite E cb msg mem now s
      | some "ACK" => handleAck s
      | some "BYE" => handleBye E cb msg s
      | some "CANCEL" => handleCancel cb msg s
      | _ => s
    else handleResponse E cb msg s

theorem incoming_none {rawMsg : String} (hmsg : E.parse rawMsg = none) (mem : Uninit) (now : ℕ) (s : SipManager κ × σ) :
    processIncomingMessage E cb rawMsg mem now s = s := by
  rw [processIncomingMessage, hmsg]

theorem incoming_invite {rawMsg : String} {msg : OsipMessage} (hmsg : E.parse rawMsg = some msg)
    (hinvite : msg.statusCode = 0 ∧ msg.method = some "INVITE") (mem : Uninit) (now : ℕ) (s : SipManager κ × σ) :
    processIncomingMessage E cb rawMsg mem now s = handleInvite E cb msg mem now s := by
  rw [processIncomingMessage, hmsg]
  simp only [if_pos hinvite.1, hinvite.2]

theorem incoming_response {rawMsg : String} {msg : OsipMessage} (hmsg : E.parse rawMsg = some msg)
    (hresponse : msg.statusCode ≠ 0) (mem : Uninit) (now : ℕ) (s : SipManager κ × σ) :
    processIncomingMessage E cb rawMsg mem now s = handleResponse E cb msg s := by
  rw [processIncomingMessage, hmsg]
  simp only [if_neg hresponse]

/-- the handler that a message goes to, if there is one -/
theorem incoming_cases {rawMsg : String} {msg : OsipMessage} (hmsg : E.parse rawMsg = some msg) :
    (msg.statusCode = 0 ∧ msg.method = some "INVITE" ∧
        ∀ mem now s, processIncomingMessage E cb rawMsg mem now s = handleInvite E cb msg mem now s) ∨
      (msg.statusCode = 0 ∧ msg.method = some "BYE" ∧
        ∀ mem now s, processIncomingMessage E cb rawMsg mem now s = handleBye E cb msg s) ∨
      (msg.statusCode = 0 ∧ msg.method = some "CANCEL" ∧
        ∀ mem now s, processIncomingMessage E cb rawMsg mem now s = dropCall cb (messageCallId msg) s) ∨
      (msg.statusCode = 0 ∧ (msg.method ≠ some "INVITE" ∧ msg.method ≠ some "BYE" ∧ msg.method ≠ some "CANCEL") ∧
        ∀ mem now s, processIncomingMessage E cb rawMsg mem now s = s) ∨
      (msg.statusCode ≠ 0 ∧
        ∀ mem now s, processIncomingMessage E cb rawMsg mem now s = handleResponse E cb msg s) := by
  by_cases hrequest : msg.statusCode = 0
  · by_cases hinvite : msg.method = some "INVITE"
    · exact .inl ⟨hrequest, hinvite, incoming_invite E cb hmsg ⟨hrequest, hinvite⟩⟩
    · refine .inr ?_
      by_cases hbye : msg.method = some "BYE"
      · refine .inl ⟨hrequest, hbye, fun mem now s => ?_⟩
        rw [processIncomingMessage, hmsg]
        simp only [if_pos hrequest, hbye]
      · refine .inr ?_
        by_cases hcancel : msg.method = some "CANCEL"
        · refine .inl ⟨hrequest, hcancel, fun mem now s => ?_⟩
          rw [processIncomingMessage, hmsg]
          simp only [if_pos hrequest, hcancel, handleCancel]
        · -- an ACK leaves the calls alone, and so does a method that is not known
          refine .inr (.inl ⟨hrequest, ⟨hinvite, hbye, hcancel⟩, fun mem now s => ?_⟩)
          rw [processIncomingMessage, hmsg]
          simp only [if_pos hrequest]
          split <;> first | rfl | contradiction
  · exact .inr (.inr (.inr (.inr ⟨hrequest, incoming_response E cb hmsg hrequest⟩)))

/-! ## Timers and SDP -/

/-- `ProcessTimers`, one turn of the loop -/
def visitTimer (s : SipManager κ × σ) (v : Visit) : SipManager κ × σ :=
  match s.1.calls.lookup v.callId with
  | none => s
  | some call =>
    if call.isTimerExpired v.firstCheck ∧ call.retransmitCount < s.1.config.maxRetransmit then
      let call := call.incrementRetransmit
      (s.1.putCall v.callId (call.startTimer (s.1.config.retryT1Ms * (1 <<< call.retransmitCount)) v.restart), s.2)
    else if call.isTimerExpired v.secondCheck then
      notifyStateChange cb call.callId .kFailed (s.1.putCall v.callId (call.setState .kFailed), s.2)
    else s

def processTimers (visits : List Visit) (s : SipManager κ × σ) : SipManager κ × σ := visits.foldl (visitTimer cb) s

/-- `ProcessIncomingSdp`, the remote address and ports -/
def storeRemote (info : CallSessionInfo) (sess : SdpSession) : CallSessionInfo :=
  let info := { info with remoteRtpAddr := sess.connAddr }
  let info := match sess.findAudio with
    | some audio => { info with audioRemotePort := audio.port }
    | none => info
  match sess.findVideo with
  | some video => { info with videoRemotePort := video.port }
  | none => info

theorem audioLocalPort_storeRemote (info : CallSessionInfo) (sess : SdpSession) :
    (storeRemote info sess).audioLocalPort = info.audioLocalPort := by
  unfold storeRemote
  cases sess.findAudio <;> cases sess.findVideo <;> rfl

theorem videoLocalPort_storeRemote (info : CallSessionInfo) (sess : SdpSession) :
    (storeRemote info sess).videoLocalPort = info.videoLocalPort := by
  unfold storeRemote
  cases sess.findAudio <;> cases sess.findVideo <;> rfl

def processIncomingSdp (callId sdpBody : String) (m : SipManager κ) : Bool × SipManager κ :=
  let (ok, sess) := SdpBuilder.parse sdpBody .new
  if !ok then (false, m)
  else
    match m.calls.lookup callId with
    | none => (false, m)
    | some call => (true, m.putCall callId { call with sessionInfo := storeRemote call.sessionInfo sess })

/-- an SDP changes the session info of a call that is there, or nothing -/
theorem processIncomingSdp_cases (callId sdpBody : String) (m : SipManager κ) :
    (processIncomingSdp callId sdpBody m).2 = m ∨
      ∃ call sess, m.calls.lookup callId = some call ∧ (processIncomingSdp callId sdpBody m).2 =
        m.putCall callId { call with sessionInfo := storeRemote call.sessionInfo sess } := by
  unfold processIncomingSdp
  simp only
  split_ifs
  · exact Or.inl rfl
  · cases hl : m.calls.lookup callId with
    | none => exact Or.inl rfl
    | some call => exact Or.inr ⟨call, _, rfl, rfl⟩

end SipManager

end Rtcom
