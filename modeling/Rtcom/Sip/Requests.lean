/-
The requests of `BuildRegisterRequest`, `BuildInviteRequest`, `BuildAckRequest` and `BuildByeRequest`, header by header.

`registerRequest`, `inviteRequest` and `inDialogRequest` follow the builders, and `buildRegisterRequest_eq`,
`buildInviteRequest_eq`, `buildInDialogRequest_eq` say that the builders return the text of these. Every request draws
its From tag, and one for a call advances the CSeq counter; nothing of a call's earlier requests is kept.

`MessageBuilder` are the public builders; each draws tags and CSeq numbers only (`MessageBuilder.frame`).
-/
import Mathlib.Tactic
import Rtcom.Sip.Responses

namespace Rtcom

/-- a request for a call; an INVITE has an offer -/
structure SipRequest where
  method : String
  requestUri : String
  branch : String
  fromUri : String
  fromTag : String
  toTag : Option String
  callId : String
  cseq : UInt32
  offer : Option String
deriving DecidableEq, Repr

/-- the request as it is sent -/
def SipRequest.text (config : SipConfig) (r : SipRequest) : String :=
  r.method ++ " " ++ r.requestUri ++ " SIP/2.0\r\n" ++
    "Via: SIP/2.0/UDP " ++ config.localAddr ++ ":" ++ toString config.localPort ++ ";branch=" ++ r.branch ++ "\r\n" ++
    (if r.offer.isSome then "Max-Forwards: 70\r\n" else "") ++
    "From: <" ++ r.fromUri ++ ">;tag=" ++ r.fromTag ++ "\r\n" ++
    "To: <" ++ r.requestUri ++ ">" ++ Response.param ";tag=" r.toTag ++ "\r\n" ++
    "Call-ID: " ++ r.callId ++ "\r\n" ++
    "CSeq: " ++ toString r.cseq ++ " " ++ r.method ++ "\r\n" ++
    (match r.offer with
      | none => "Content-Length: 0\r\n\r\n"
      | some sdp => "Contact: <" ++ r.fromUri ++ ">\r\n" ++ "Content-Type: application/sdp\r\n" ++
          "Content-Length: " ++ toString sdp.length ++ "\r\n\r\n" ++ sdp)

structure RegisterRequest where
  domain : String
  branch : String
  uri : String
  fromTag : String
  callId : String
  cseq : UInt32
  expires : UInt32
deriving DecidableEq, Repr

/-- the REGISTER as it is sent -/
def RegisterRequest.text (config : SipConfig) (r : RegisterRequest) : String :=
  "REGISTER sip:" ++ r.domain ++ " SIP/2.0\r\n" ++
    "Via: SIP/2.0/UDP " ++ config.localAddr ++ ":" ++ toString config.localPort ++ ";branch=" ++ r.branch ++ "\r\n" ++
    "Max-Forwards: 70\r\n" ++
    "From: <" ++ r.uri ++ ">;tag=" ++ r.fromTag ++ "\r\n" ++
    "To: <" ++ r.uri ++ ">\r\n" ++
    "Call-ID: " ++ r.callId ++ "\r\n" ++
    "CSeq: " ++ toString r.cseq ++ " REGISTER\r\n" ++
    "Contact: <" ++ r.uri ++ ">\r\n" ++
    "Expires: " ++ toString r.expires ++ "\r\n" ++
    "Content-Length: 0\r\n\r\n"

namespace SipManager

variable {κ : Type} (E : SipEnv)

/-- `BuildRegisterRequest`, before the request is written out; the counter is read, not advanced -/
def registerRequest : StateM (SipManager κ) RegisterRequest := do
  let m ← get
  let fromTag ← randomHex E 16
  let callId ← randomHex E 16
  return ⟨m.config.domain, m.branchId, m.localUri, fromTag, callId, m.localCseq + 1, m.config.registerExpires⟩

/-- `BuildInviteRequest`, before the request is written out -/
def inviteRequest (callId calleeUri : String) : StateM (SipManager κ) SipRequest := do
  let m ← get
  let branch ← generateBranchId E
  let tag ← generateTag E
  let cseq ← generateCSeq
  let sdp := SdpBuilder.buildOffer m.config.localAddr (m.config.localPort + 1000) (m.config.localPort + 1002) 96 97
  return ⟨"INVITE", calleeUri, branch, m.localUri, tag, none, callId, cseq, some sdp⟩

/-- `BuildAckRequest` and `BuildByeRequest`, before the request is written out -/
def inDialogRequest (method callId : String) : StateM (SipManager κ) (Option SipRequest) := do
  let m ← get
  match m.calls.lookup callId with
  | none => return none
  | some call =>
    let branch ← generateBranchId E
    let fromTag ← generateTag E
    let toTag ← generateTag E
    let cseq ← generateCSeq
    return some ⟨method, call.remoteUri, branch, call.localUri, fromTag, some toTag, callId, cseq, none⟩

/-! ## Texts -/

theorem text_invite (m : SipManager κ) (calleeUri branch tag callId : String) (cseq : UInt32) (sdp : String) :
    SipRequest.text m.config ⟨"INVITE", calleeUri, branch, m.localUri, tag, none, callId, cseq, some sdp⟩ =
      "INVITE " ++ calleeUri ++ " SIP/2.0\r\n" ++
        m.viaSentBy ++ ";branch=" ++ branch ++ "\r\n" ++
        "Max-Forwards: 70\r\n" ++
        "From: <" ++ m.localUri ++ ">;tag=" ++ tag ++ "\r\n" ++
        "To: <" ++ calleeUri ++ ">\r\n" ++
        "Call-ID: " ++ callId ++ "\r\n" ++
        "CSeq: " ++ toString cseq ++ " INVITE\r\n" ++
        "Contact: <" ++ m.localUri ++ ">\r\n" ++
        "Content-Type: application/sdp\r\n" ++
        "Content-Length: " ++ toString sdp.length ++ "\r\n\r\n" ++
        sdp := by
  have hmethod : "INVITE " = "INVITE" ++ " " := by decide
  have hline : " INVITE\r\n" = " " ++ ("INVITE" ++ "\r\n") := by decide
  have hto : ">\r\n" = ">" ++ "\r\n" := by decide
  unfold SipRequest.text viaSentBy
  simp only [Response.param, Option.isSome_some, if_true, hmethod, hline, hto, String.append_assoc, String.empty_append]

theorem text_register (m : SipManager κ) (fromTag callId : String) :
    RegisterRequest.text m.config ⟨m.config.domain, m.branchId, m.localUri, fromTag, callId, m.localCseq + 1,
        m.config.registerExpires⟩ =
      "REGISTER sip:" ++ m.config.domain ++ " SIP/2.0\r\n" ++
        m.viaSentBy ++ ";branch=" ++ m.branchId ++ "\r\n" ++
        "Max-Forwards: 70\r\n" ++
        "From: <" ++ m.localUri ++ ">;tag=" ++ fromTag ++ "\r\n" ++
        "To: <" ++ m.localUri ++ ">\r\n" ++
        "Call-ID: " ++ callId ++ "\r\n" ++
        "CSeq: " ++ toString (m.localCseq + 1) ++ " REGISTER\r\n" ++
        "Contact: <" ++ m.localUri ++ ">\r\n" ++
        "Expires: " ++ toString m.config.registerExpires ++ "\r\n" ++
        "Content-Length: 0\r\n\r\n" := by
  unfold RegisterRequest.text viaSentBy
  simp only [String.append_assoc]

theorem text_inDialog (m : SipManager κ) (method remoteUri localUri branch fromTag toTag callId : String)
    (cseq : UInt32) :
    SipRequest.text m.config ⟨method, remoteUri, branch, localUri, fromTag, some toTag, callId, cseq, none⟩ =
      method ++ " " ++ remoteUri ++ " SIP/2.0\r\n" ++
        m.viaSentBy ++ ";branch=" ++ branch ++ "\r\n" ++
        "From: <" ++ localUri ++ ">;tag=" ++ fromTag ++ "\r\n" ++
        "To: <" ++ remoteUri ++ ">;tag=" ++ toTag ++ "\r\n" ++
        "Call-ID: " ++ callId ++ "\r\n" ++
        "CSeq: " ++ toString cseq ++ " " ++ method ++ "\r\n" ++
        "Content-Length: 0\r\n\r\n" := by
  have htag : ">;tag=" = ">" ++ ";tag=" := by decide
  unfold SipRequest.text viaSentBy
  simp only [Response.param, Option.isSome_none, Bool.false_eq_true, if_false, htag, String.append_assoc,
    String.empty_append]

/-- `BuildRegisterRequest` returns the text of `registerRequest` -/
theorem buildRegisterRequest_eq (m : SipManager κ) :
    buildRegisterRequest E m = ((registerRequest E m).1.text m.config, (registerRequest E m).2) :=
  Prod.ext (text_register m _ _).symm rfl

/-- `BuildInviteRequest` returns the text of `inviteRequest` -/
theorem buildInviteRequest_eq (m : SipManager κ) (callId calleeUri : String) :
    buildInviteRequest E callId calleeUri m = ((inviteRequest E callId calleeUri m).1.text m.config,
      (inviteRequest E callId calleeUri m).2) :=
  Prod.ext (text_invite m calleeUri _ _ callId _ _).symm rfl

/-- `BuildAckRequest` and `BuildByeRequest` return the text of `inDialogRequest`, or nothing -/
theorem buildInDialogRequest_eq (m : SipManager κ) (method callId : String) :
    buildInDialogRequest E method callId m =
      (((inDialogRequest E method callId m).1.map (SipRequest.text m.config)).getD "",
        (inDialogRequest E method callId m).2) := by
  simp only [buildInDialogRequest, inDialogRequest, get_bind_run]
  cases m.calls.lookup callId with
  | none => rfl
  | some call => exact Prod.ext (text_inDialog m method call.remoteUri call.localUri _ _ _ callId _).symm rfl

/-! ## Tags -/

/-- the From tag of the request is one of the random texts drawn from m to m' -/
def TaggedBetween (m m' : SipManager κ) (r : SipRequest) : Prop :=
  ∃ k, m.draws ≤ k ∧ k < m'.draws ∧ r.fromTag = E.hex k 16

variable {E}

theorem TaggedBetween.mono {m m' n n' : SipManager κ} {r : SipRequest} (h : TaggedBetween E n n' r)
    (hfirst : m.draws ≤ n.draws) (hlast : n'.draws ≤ m'.draws) : TaggedBetween E m m' r := by
  obtain ⟨k, hle, hlt, htag⟩ := h
  exact ⟨k, hfirst.trans hle, hlt.trans_le hlast, htag⟩

variable (E)

theorem inviteRequest_tagged (m : SipManager κ) (callId calleeUri : String) :
    TaggedBetween E m (buildInviteRequest E callId calleeUri m).2 (inviteRequest E callId calleeUri m).1 :=
  -- the branch is drawn first
  ⟨m.draws + 1, Nat.le_add_right _ _, Nat.lt_succ_self _, rfl⟩

theorem inDialogRequest_tagged (m : SipManager κ) (method callId : String) :
    ∀ r ∈ (inDialogRequest E method callId m).1,
      TaggedBetween E m (buildInDialogRequest E method callId m).2 r := by
  intro r hr
  rw [buildInDialogRequest_eq]
  simp only [inDialogRequest, get_bind_run] at hr ⊢
  cases hl : m.calls.lookup callId with
  | none =>
    rw [hl] at hr
    cases hr
  | some call =>
    rw [hl] at hr
    cases hr
    -- the branch is drawn before the From tag, the To tag after it
    exact ⟨m.draws + 1, Nat.le_add_right _ _, Nat.lt_add_of_pos_right (by decide : 0 < 2), rfl⟩

/-! ## The requests of the operations -/

/-- the INVITE of `MakeCall` -/
def inviteOf (m : SipManager κ) (calleeUri : String) : Option SipRequest :=
  if !m.initialized then none
  else
    let (callId, m) := generateCallId E m
    some (inviteRequest E callId calleeUri m).1

/-- the ACK of `HandleResponse`, for the 2xx that a call waits for -/
def ackOf (m : SipManager κ) (rawMsg : String) : Option SipRequest :=
  match E.parse rawMsg with
  | none => none
  | some msg =>
    match m.calls.lookup (messageCallId msg) with
    | none => none
    | some call =>
      if (200 ≤ msg.statusCode ∧ msg.statusCode < 300) ∧ call.state = .kCalling then
        (inDialogRequest E "ACK" (messageCallId msg) m).1
      else none

/-- the BYE of `HangUp` -/
def byeOf (m : SipManager κ) (callId : String) : Option SipRequest :=
  match m.calls.lookup callId with
  | none => none
  | some call =>
    if call.state ≠ .kConnected ∧ call.state ≠ .kInProgress then none
    else (inDialogRequest E "BYE" callId (m.putCall callId (call.setState .kDisconnecting))).1

section Operations

variable {σ : Type} {cb : Callbacks κ σ}

/-- a report draws nothing -/
theorem Tame.draws (htame : Tame cb) (id : String) (st : SipCallState) (s : SipManager κ × σ) :
    (notifyStateChange cb id st s).1.draws = s.1.draws := by
  obtain ⟨calls, heq, -⟩ := htame.notify id st s
  rw [heq]

theorem inviteOf_tagged (htame : Tame cb) (calleeUri : String) (mem : Uninit) (now : ℕ) (s : SipManager κ × σ) :
    ∀ r ∈ inviteOf E s.1 calleeUri, TaggedBetween E s.1 (makeCall E cb calleeUri mem now s).2.1 r := by
  intro r hr
  cases hinit : s.1.initialized with
  | false =>
    rw [inviteOf, hinit] at hr
    cases hr
  | true =>
    rw [inviteOf, hinit] at hr
    cases hr
    set callId := (generateCallId E s.1).1
    set m := (generateCallId E s.1).2
    have hmake : (makeCall E cb calleeUri mem now s).2.1.draws = (buildInviteRequest E callId calleeUri m).2.draws := by
      rw [makeCall, hinit]
      exact htame.draws _ _ _
    exact (inviteRequest_tagged E m callId calleeUri).mono (Nat.le_succ _) hmake.ge

theorem ackOf_tagged (htame : Tame cb) (rawMsg : String) (mem : Uninit) (now : ℕ) (s : SipManager κ × σ) :
    ∀ r ∈ ackOf E s.1 rawMsg, TaggedBetween E s.1 (processIncomingMessage E cb rawMsg mem now s).1 r := by
  intro r hr
  unfold ackOf at hr
  cases hmsg : E.parse rawMsg with
  | none =>
    rw [hmsg] at hr
    cases hr
  | some msg =>
    simp only [hmsg] at hr
    cases hl : s.1.calls.lookup (messageCallId msg) with
    | none =>
      rw [hl] at hr
      cases hr
    | some call =>
      simp only [hl] at hr
      split_ifs at hr with hack
      · obtain ⟨h2xx, hcalling⟩ := hack
        have hresponse : msg.statusCode ≠ 0 := by
          rcases h2xx with ⟨h, -⟩
          omega
        rw [incoming_response E cb hmsg hresponse, handleResponse]
        simp only [hl, if_pos h2xx, if_pos hcalling]
        refine (inDialogRequest_tagged E s.1 "ACK" (messageCallId msg) r hr).mono le_rfl ?_
        show _ ≤ (notifyStateChange cb (messageCallId msg) .kConnected
          ((buildInDialogRequest E "ACK" (messageCallId msg) s.1).2.putCall (messageCallId msg)
            (call.setState .kConnected), s.2)).1.draws
        rw [htame.draws]
        exact le_rfl
      · cases hr

theorem byeOf_tagged (htame : Tame cb) (callId : String) (s : SipManager κ × σ) :
    ∀ r ∈ byeOf E s.1 callId, TaggedBetween E s.1 (hangUp E cb callId s).2.1 r := by
  intro r hr
  unfold byeOf at hr
  unfold hangUp
  cases hl : s.1.calls.lookup callId with
  | none =>
    rw [hl] at hr
    cases hr
  | some call =>
    simp only [hl] at hr ⊢
    split_ifs at hr ⊢ with hst
    · cases hr
    · set m := s.1.putCall callId (call.setState .kDisconnecting)
      refine (inDialogRequest_tagged E m "BYE" callId r hr).mono le_rfl ?_
      show _ ≤ (notifyStateChange cb callId .kDisconnecting
        ((buildInDialogRequest E "BYE" callId m).2, s.2)).1.draws
      rw [htame.draws]

end Operations

end SipManager

/-! ## The public builders -/

inductive MessageBuilder where
  | register
  | invite (callId calleeUri : String)
  | ack (callId : String)
  | bye (callId : String)
  | response (statusCode : ℤ) (reason toTag : String)
  | responseWithSdp (statusCode : ℤ) (reason sdp toTag : String)
  | inviteResponse (statusCode : ℤ) (reason sdp : String)
deriving DecidableEq, Repr

namespace MessageBuilder

open SipManager

variable {κ : Type} (E : SipEnv)

def build : MessageBuilder → StateM (SipManager κ) String
  | .register => buildRegisterRequest E
  | .invite callId calleeUri => buildInviteRequest E callId calleeUri
  | .ack callId => buildAckRequest E callId
  | .bye callId => buildByeRequest E callId
  | .response statusCode reason toTag => buildResponse E statusCode reason toTag
  | .responseWithSdp statusCode reason sdp toTag => buildResponseWithSdp E statusCode reason sdp toTag
  | .inviteResponse statusCode reason sdp => buildInviteResponse E statusCode reason sdp

theorem frame (b : MessageBuilder) (m : SipManager κ) : BuilderFrame m (b.build E m).2 := by
  cases b with
  | register => exact ⟨2, m.localCseq, rfl⟩
  | invite callId calleeUri => exact buildInviteRequest_frame E m callId calleeUri
  | ack callId => exact buildInDialogRequest_frame E m "ACK" callId
  | bye callId => exact buildInDialogRequest_frame E m "BYE" callId
  | response statusCode reason toTag => exact buildResponse_frame E m statusCode reason toTag
  | responseWithSdp statusCode reason sdp toTag => exact buildResponse_frame E m statusCode reason toTag
  | inviteResponse statusCode reason sdp => exact buildInviteResponse_frame E m statusCode reason sdp

/-- the request for a call that is built, if it is one -/
def request (m : SipManager κ) : MessageBuilder → Option SipRequest
  | .invite callId calleeUri => some (inviteRequest E callId calleeUri m).1
  | .ack callId => (inDialogRequest E "ACK" callId m).1
  | .bye callId => (inDialogRequest E "BYE" callId m).1
  | _ => none

theorem request_tagged (b : MessageBuilder) (m : SipManager κ) :
    ∀ r ∈ b.request E m, TaggedBetween E m (b.build E m).2 r := by
  intro r hr
  cases b with
  | invite callId calleeUri =>
    cases hr
    exact inviteRequest_tagged E m callId calleeUri
  | ack callId => exact inDialogRequest_tagged E m "ACK" callId r hr
  | bye callId => exact inDialogRequest_tagged E m "BYE" callId r hr
  | _ => cases hr

end MessageBuilder

end Rtcom
