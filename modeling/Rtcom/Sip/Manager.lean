/-
The state of `SipManager` and its message builders, from `src/sip/sip_manager.{h,cpp}`.

`calls_` is an association list keyed by call id. Randomness is a parameter: `SipEnv.hex k len` is the text the k-th
call of `RandomHex` returns, and `draws` counts the calls made; `firstCseq` is the number `Initialize` draws.
libosip2 is a parameter too: `SipEnv.parse` is the outcome of `osip_message_init` and `osip_message_parse`, as far as
the code looks at the message (`OsipMessage`). The callback `sip_event_cb_` is a value of a type κ of callbacks that
the owner of the manager interprets.

The builders are non-const: they draw tags and advance `local_cseq_`. `BuilderFrame` says that they change nothing
else, and `buildX_frame` that each builder keeps to it.
-/
import Mathlib.Data.List.AList
import Mathlib.Tactic
import Rtcom.Common.Sdp
import Rtcom.Sip.Call

namespace Rtcom

/-! ## Environment -/

/-- what the handlers read of a message that libosip2 parsed; a missing header or field is `none`. An INVITE has a From
header: `HandleInvite` asks it for its tag before it looks whether there is one, so none is a null pointer there -/
structure OsipMessage where
  statusCode : ℤ
  method : Option String
  callIdNumber : Option String
  viaBranch : Option String
  fromTag : Option String
  fromUrl : Option (Option String × Option String)
  cseq : Option (Option String × Option String)
deriving DecidableEq, Repr

structure SipEnv where
  hex : ℕ → ℕ → String
  firstCseq : ℕ → UInt32
  firstCseq_range : ∀ k, 1 ≤ (firstCseq k).toNat ∧ (firstCseq k).toNat ≤ 10000
  parse : String → Option OsipMessage

/-- a message that arrives, and what libosip2 reads of it -/
structure PeerMessage where
  text : String
  read : OsipMessage

namespace PeerMessage

/-- a request from a peer at 10.0.0.9 -/
def request (method callId : String) : PeerMessage where
  text := method ++ " sip:user@example.com SIP/2.0\r\n" ++
    "Via: SIP/2.0/UDP 10.0.0.9:5060;branch=z9hG4bKp\r\n" ++
    "From: <sip:peer@10.0.0.9>;tag=p\r\nTo: <sip:user@example.com>\r\n" ++
    "Call-ID: " ++ callId ++ "\r\nCSeq: 1 " ++ method ++ "\r\n\r\n"
  read := ⟨0, some method, some callId, some "z9hG4bKp", some "p", some (some "peer", some "10.0.0.9"),
    some (some "1", some method)⟩

/-- its response to the request that has the CSeq number 2 -/
def response (statusCode : ℕ) (reason method callId : String) : PeerMessage where
  text := "SIP/2.0 " ++ toString statusCode ++ " " ++ reason ++ "\r\n" ++
    "Via: SIP/2.0/UDP 127.0.0.1:5060;branch=z9hG4bKu\r\n" ++
    "From: <sip:user@example.com>;tag=u\r\nTo: <sip:peer@10.0.0.9>;tag=p\r\n" ++
    "Call-ID: " ++ callId ++ "\r\nCSeq: 2 " ++ method ++ "\r\n\r\n"
  read := ⟨statusCode, none, some callId, some "z9hG4bKu", some "u", some (some "user", some "example.com"),
    some (some "2", some method)⟩

/-- a parser for these messages and no others -/
@[irreducible] def reading (known : List PeerMessage) (rawMsg : String) : Option OsipMessage :=
  (known.find? fun p => p.text = rawMsg).map PeerMessage.read

theorem reading_cons_self (p : PeerMessage) (known : List PeerMessage) : reading (p :: known) p.text = some p.read := by
  simp [reading]

theorem reading_cons_of_ne {p : PeerMessage} {rawMsg : String} (hne : p.text ≠ rawMsg) (known : List PeerMessage) :
    reading (p :: known) rawMsg = reading known rawMsg := by
  simp [reading, hne]

/-- what is read is one of the messages -/
theorem mem_of_reading {known : List PeerMessage} {rawMsg : String} {msg : OsipMessage}
    (h : reading known rawMsg = some msg) : ∃ p ∈ known, p.text = rawMsg ∧ p.read = msg := by
  rw [reading, Option.map_eq_some_iff] at h
  obtain ⟨p, hfind, hread⟩ := h
  exact ⟨p, List.mem_of_find?_eq_some hfind, by simpa using List.find?_some hfind, hread⟩

end PeerMessage

/-! ## State -/

/-- the type of `calls_` -/
abbrev Calls := AList fun _ : String => SipCall

structure SipManager (κ : Type) where
  config : SipConfig
  initialized : Bool
  registered : Bool
  calls : Calls
  sipEventCb : Option κ
  localCseq : UInt32
  branchId : String
  callIdPrefix : String
  lastViaBranch : String
  lastFromTag : String
  lastToTag : String
  lastCallId : String
  lastCseq : String
  draws : ℕ

namespace SipManager

variable {κ : Type} (E : SipEnv)

def new : SipManager κ where
  config := {}
  initialized := false
  registered := false
  calls := ∅
  sipEventCb := none
  localCseq := 1
  branchId := ""
  callIdPrefix := ""
  lastViaBranch := ""
  lastFromTag := ""
  lastToTag := ""
  lastCallId := ""
  lastCseq := ""
  draws := 0

/-! ## Generators -/

def randomHex (len : ℕ) : StateM (SipManager κ) String := fun m =>
  (E.hex m.draws len, { m with draws := m.draws + 1 })

def generateBranchId : StateM (SipManager κ) String := do return "z9hG4bK" ++ (← randomHex E 32)

def generateCallId : StateM (SipManager κ) String := do
  let hex ← randomHex E 16
  return (← get).callIdPrefix ++ "-" ++ hex

def generateTag : StateM (SipManager κ) String := randomHex E 16

def generateCSeq : StateM (SipManager κ) UInt32 := fun m =>
  (m.localCseq + 1, { m with localCseq := m.localCseq + 1 })

/-! ## Message builders -/

/-- `sip:` and the user's address -/
def localUri (m : SipManager κ) : String := "sip:" ++ m.config.username ++ "@" ++ m.config.domain

/-- the start of a Via line, up to the port -/
def viaSentBy (m : SipManager κ) : String :=
  "Via: SIP/2.0/UDP " ++ m.config.localAddr ++ ":" ++ toString m.config.localPort

def buildRegisterRequest : StateM (SipManager κ) String := do
  let m ← get
  let lu := m.localUri
  let fromTag ← randomHex E 16
  let callId ← randomHex E 16
  return "REGISTER sip:" ++ m.config.domain ++ " SIP/2.0\r\n" ++
    m.viaSentBy ++ ";branch=" ++ m.branchId ++ "\r\n" ++
    "Max-Forwards: 70\r\n" ++
    "From: <" ++ lu ++ ">;tag=" ++ fromTag ++ "\r\n" ++
    "To: <" ++ lu ++ ">\r\n" ++
    "Call-ID: " ++ callId ++ "\r\n" ++
    "CSeq: " ++ toString (m.localCseq + 1) ++ " REGISTER\r\n" ++
    "Contact: <" ++ lu ++ ">\r\n" ++
    "Expires: " ++ toString m.config.registerExpires ++ "\r\n" ++
    "Content-Length: 0\r\n\r\n"

def buildInviteRequest (callId calleeUri : String) : StateM (SipManager κ) String := do
  let m ← get
  let lu := m.localUri
  let branch ← generateBranchId E
  let tag ← generateTag E
  let cseq ← generateCSeq
  let sdp := SdpBuilder.buildOffer m.config.localAddr (m.config.localPort + 1000) (m.config.localPort + 1002) 96 97
  return "INVITE " ++ calleeUri ++ " SIP/2.0\r\n" ++
    m.viaSentBy ++ ";branch=" ++ branch ++ "\r\n" ++
    "Max-Forwards: 70\r\n" ++
    "From: <" ++ lu ++ ">;tag=" ++ tag ++ "\r\n" ++
    "To: <" ++ calleeUri ++ ">\r\n" ++
    "Call-ID: " ++ callId ++ "\r\n" ++
    "CSeq: " ++ toString cseq ++ " INVITE\r\n" ++
    "Contact: <" ++ lu ++ ">\r\n" ++
    "Content-Type: application/sdp\r\n" ++
    "Content-Length: " ++ toString sdp.length ++ "\r\n\r\n" ++
    sdp

/-- `BuildAckRequest` and `BuildByeRequest`, which differ in the method -/
def buildInDialogRequest (method callId : String) : StateM (SipManager κ) String := do
  let m ← get
  match m.calls.lookup callId with
  | none => return ""
  | some call =>
    let branch ← generateBranchId E
    let fromTag ← generateTag E
    let toTag ← generateTag E
    let cseq ← generateCSeq
    return method ++ " " ++ call.remoteUri ++ " SIP/2.0\r\n" ++
      m.viaSentBy ++ ";branch=" ++ branch ++ "\r\n" ++
      "From: <" ++ call.localUri ++ ">;tag=" ++ fromTag ++ "\r\n" ++
      "To: <" ++ call.remoteUri ++ ">;tag=" ++ toTag ++ "\r\n" ++
      "Call-ID: " ++ callId ++ "\r\n" ++
      "CSeq: " ++ toString cseq ++ " " ++ method ++ "\r\n" ++
      "Content-Length: 0\r\n\r\n"

def buildAckRequest (callId : String) : StateM (SipManager κ) String := buildInDialogRequest E "ACK" callId

def buildByeRequest (callId : String) : StateM (SipManager κ) String := buildInDialogRequest E "BYE" callId

/-- the lines `BuildResponse` and `BuildResponseWithSdp` share -/
def buildResponseHead (statusCode : ℤ) (reason toTag : String) : StateM (SipManager κ) String := do
  let m ← get
  let lu := m.localUri
  let branch ← generateBranchId E
  let fromTag ← generateTag E
  let toTag ← if toTag.isEmpty then generateTag E else pure toTag
  let callId ← randomHex E 16
  let cseq ← generateCSeq
  return "SIP/2.0 " ++ toString statusCode ++ " " ++ reason ++ "\r\n" ++
    m.viaSentBy ++ ";branch=" ++ branch ++ "\r\n" ++
    "From: <sip:remote@" ++ m.config.domain ++ ">;tag=" ++ fromTag ++ "\r\n" ++
    "To: <" ++ lu ++ ">;tag=" ++ toTag ++ "\r\n" ++
    "Call-ID: " ++ callId ++ "\r\n" ++
    "CSeq: " ++ toString cseq ++ " INVITE\r\n" ++
    "Contact: <" ++ lu ++ ">\r\n"

def buildResponse (statusCode : ℤ) (reason toTag : String) : StateM (SipManager κ) String := do
  return (← buildResponseHead E statusCode reason toTag) ++ "Content-Length: 0\r\n\r\n"

def buildResponseWithSdp (statusCode : ℤ) (reason sdp toTag : String) : StateM (SipManager κ) String := do
  return (← buildResponseHead E statusCode reason toTag) ++
    "Content-Type: application/sdp\r\n" ++
    "Content-Length: " ++ toString sdp.length ++ "\r\n\r\n" ++
    sdp

def buildInviteResponse (statusCode : ℤ) (reason sdp : String) : StateM (SipManager κ) String := do
  let m ← get
  let lu := m.localUri
  let toTag ←
    if !m.lastToTag.isEmpty then pure (";tag=" ++ m.lastToTag)
    else if statusCode = 200 then do pure (";tag=" ++ (← generateTag E))
    else pure ""
  let callId ← if m.lastCallId.isEmpty then generateCallId E else pure m.lastCallId
  let cseq ← if m.lastCseq.isEmpty then do pure (toString (← generateCSeq) ++ " INVITE") else pure m.lastCseq
  return "SIP/2.0 " ++ toString statusCode ++ " " ++ reason ++ "\r\n" ++
    m.viaSentBy ++ (if m.lastViaBranch.isEmpty then "" else ";branch=" ++ m.lastViaBranch) ++ "\r\n" ++
    "From: <sip:remote@" ++ m.config.domain ++ ">" ++
      (if m.lastFromTag.isEmpty then "" else ";tag=" ++ m.lastFromTag) ++ "\r\n" ++
    "To: <" ++ lu ++ ">" ++ toTag ++ "\r\n" ++
    "Call-ID: " ++ callId ++ "\r\n" ++
    "CSeq: " ++ cseq ++ "\r\n" ++
    "Contact: <" ++ lu ++ ">\r\n" ++
    (if sdp.isEmpty then "Content-Length: 0\r\n\r\n"
      else "Content-Type: application/sdp\r\n" ++ "Content-Length: " ++ toString sdp.length ++ "\r\n\r\n" ++ sdp)

/-- our receive ports are the send ports + 2 -/
def buildSdpAnswer (m : SipManager κ) (callId : String) : String :=
  match m.calls.lookup callId with
  | none => ""
  | some call =>
    SdpBuilder.buildAnswer m.config.localAddr (call.sessionInfo.audioLocalPort + 2)
      (call.sessionInfo.videoLocalPort + 2) 96 97

/-! ## What builders leave alone -/

/-- only tags were drawn and CSeq numbers used up -/
def BuilderFrame (m m' : SipManager κ) : Prop := ∃ n cseq, m' = { m with draws := m.draws + n, localCseq := cseq }

namespace BuilderFrame

variable {m m' : SipManager κ}

theorem calls (h : BuilderFrame m m') : m'.calls = m.calls := by
  obtain ⟨_, _, rfl⟩ := h
  rfl

theorem sipEventCb (h : BuilderFrame m m') : m'.sipEventCb = m.sipEventCb := by
  obtain ⟨_, _, rfl⟩ := h
  rfl

theorem config (h : BuilderFrame m m') : m'.config = m.config := by
  obtain ⟨_, _, rfl⟩ := h
  rfl

theorem refl (m : SipManager κ) : BuilderFrame m m := ⟨0, m.localCseq, rfl⟩

theorem trans {m'' : SipManager κ} (h : BuilderFrame m m') (h' : BuilderFrame m' m'') : BuilderFrame m m'' := by
  obtain ⟨n, _, rfl⟩ := h
  obtain ⟨n', c, rfl⟩ := h'
  exact ⟨n + n', c, by rw [← Nat.add_assoc]⟩

end BuilderFrame

theorem generateTag_frame (m : SipManager κ) : BuilderFrame m (generateTag E m).2 := ⟨1, _, rfl⟩

theorem generateCallId_frame (m : SipManager κ) : BuilderFrame m (generateCallId E m).2 := ⟨1, _, rfl⟩

theorem buildInviteRequest_frame (m : SipManager κ) (callId calleeUri : String) :
    BuilderFrame m (buildInviteRequest E callId calleeUri m).2 := ⟨2, _, rfl⟩

theorem buildInDialogRequest_frame (m : SipManager κ) (method callId : String) :
    BuilderFrame m (buildInDialogRequest E method callId m).2 := by
  -- both branches of the lookup, without their texts
  have hm : (buildInDialogRequest E method callId m).2 = ((match m.calls.lookup callId with
      | none => (pure "" : StateM (SipManager κ) String)
      | some _ => fun m => ("", { m with draws := m.draws + 3, localCseq := m.localCseq + 1 })) m).2 := by
    show ((match m.calls.lookup callId with
      | none => _
      | some _ => _ : StateM (SipManager κ) String) m).2 = _
    cases m.calls.lookup callId <;> rfl
  rw [hm]
  cases m.calls.lookup callId with
  | none => exact .refl m
  | some _ => exact ⟨3, m.localCseq + 1, rfl⟩

theorem buildResponse_frame (m : SipManager κ) (statusCode : ℤ) (reason toTag : String) :
    BuilderFrame m (buildResponse E statusCode reason toTag m).2 := by
  cases h : toTag.isEmpty with
  | false =>
    refine ⟨3, m.localCseq + 1, ?_⟩
    simp only [buildResponse, buildResponseHead, h]
    rfl
  | true =>
    refine ⟨4, m.localCseq + 1, ?_⟩
    simp only [buildResponse, buildResponseHead, h]
    rfl

theorem buildInviteResponse_frame (m : SipManager κ) (statusCode : ℤ) (reason sdp : String) :
    BuilderFrame m (buildInviteResponse E statusCode reason sdp m).2 := by
  -- a To tag (for a 200), a Call-ID and a CSeq number are drawn where no INVITE has left one
  cases htag : m.lastToTag.isEmpty <;> cases hid : m.lastCallId.isEmpty <;> cases hcseq : m.lastCseq.isEmpty <;>
    by_cases hcode : statusCode = 200
  all_goals
    simp only [buildInviteResponse, get, getThe, MonadStateOf.get, bind, StateT.bind, StateT.get, pure, htag, hcode,
      hid, hcseq]
    first
    | exact ⟨0, _, rfl⟩
    | exact ⟨1, _, rfl⟩
    | exact ⟨2, _, rfl⟩

end SipManager

end Rtcom
