/-
The responses of `BuildInviteResponse` and `BuildResponse`, header by header, and the headers kept of the last INVITE.

`Response` is a response before it is written out; `inviteResponse` and `response` follow the two builders, and
`buildInviteResponse_eq`, `buildResponse_eq` say that the builders return the text of these.

`headers` are the Via branch, the From tag, the Call-ID and the CSeq kept. An INVITE with a Call-ID replaces those it
has (`headers_handleInvite`), all other messages leave them alone. `BuildInviteResponse` copies them; a Call-ID or a
CSeq that is missing is made up, and the To tag of a 200 is drawn each time, unless one was kept.
-/
import Mathlib.Tactic
import Rtcom.Sip.Frames

namespace Rtcom

/-! ## Responses -/

structure Response where
  statusCode : ℤ
  reason : String
  branch : Option String
  fromTag : Option String
  toTag : Option String
  callId : String
  cseq : String
  sdp : String
deriving DecidableEq, Repr

namespace Response

/-- a header parameter, if there is one -/
def param (name : String) : Option String → String
  | none => ""
  | some value => name ++ value

/-- the response as it is sent -/
def text (config : SipConfig) (r : Response) : String :=
  let lu := "sip:" ++ config.username ++ "@" ++ config.domain
  "SIP/2.0 " ++ toString r.statusCode ++ " " ++ r.reason ++ "\r\n" ++
    "Via: SIP/2.0/UDP " ++ config.localAddr ++ ":" ++ toString config.localPort ++ param ";branch=" r.branch ++
      "\r\n" ++
    "From: <sip:remote@" ++ config.domain ++ ">" ++ param ";tag=" r.fromTag ++ "\r\n" ++
    "To: <" ++ lu ++ ">" ++ param ";tag=" r.toTag ++ "\r\n" ++
    "Call-ID: " ++ r.callId ++ "\r\n" ++
    "CSeq: " ++ r.cseq ++ "\r\n" ++
    "Contact: <" ++ lu ++ ">\r\n" ++
    (if r.sdp.isEmpty then "Content-Length: 0\r\n\r\n"
      else "Content-Type: application/sdp\r\n" ++ "Content-Length: " ++ toString r.sdp.length ++ "\r\n\r\n" ++ r.sdp)

/-- the branch, the From tag, the Call-ID and the CSeq -/
def echo (r : Response) : Option String × Option String × String × String := (r.branch, r.fromTag, r.callId, r.cseq)

end Response

namespace SipManager

variable {κ σ : Type} (E : SipEnv)

/-- a header kept, where there is one -/
def kept (header : String) : Option String := if header.isEmpty then none else some header

/-- `BuildInviteResponse`, before the response is written out -/
def inviteResponse (statusCode : ℤ) (reason sdp : String) : StateM (SipManager κ) Response := do
  let m ← get
  let toTag ←
    if !m.lastToTag.isEmpty then pure (some m.lastToTag)
    else if statusCode = 200 then do pure (some (← generateTag E))
    else pure none
  let callId ← if m.lastCallId.isEmpty then generateCallId E else pure m.lastCallId
  let cseq ← if m.lastCseq.isEmpty then do pure (toString (← generateCSeq) ++ " INVITE") else pure m.lastCseq
  return ⟨statusCode, reason, kept m.lastViaBranch, kept m.lastFromTag, toTag, callId, cseq, sdp⟩

/-- `BuildResponse`, before the response is written out -/
def response (statusCode : ℤ) (reason toTag : String) : StateM (SipManager κ) Response := do
  let branch ← generateBranchId E
  let fromTag ← generateTag E
  let toTag ← if toTag.isEmpty then generateTag E else pure toTag
  let callId ← randomHex E 16
  let cseq ← generateCSeq
  return ⟨statusCode, reason, some branch, some fromTag, some toTag, callId, toString cseq ++ " INVITE", ""⟩

theorem param_kept (name header : String) :
    Response.param name (kept header) = if header.isEmpty then "" else name ++ header := by
  unfold kept
  split_ifs <;> rfl

/-- the text of a response with all its tags, as `BuildResponse` writes it -/
theorem text_response (m : SipManager κ) (statusCode : ℤ) (reason branch fromTag toTag callId number : String) :
    Response.text m.config
        ⟨statusCode, reason, some branch, some fromTag, some toTag, callId, number ++ " INVITE", ""⟩ =
      "SIP/2.0 " ++ toString statusCode ++ " " ++ reason ++ "\r\n" ++
        m.viaSentBy ++ ";branch=" ++ branch ++ "\r\n" ++
        "From: <sip:remote@" ++ m.config.domain ++ ">;tag=" ++ fromTag ++ "\r\n" ++
        "To: <" ++ m.localUri ++ ">;tag=" ++ toTag ++ "\r\n" ++
        "Call-ID: " ++ callId ++ "\r\n" ++
        "CSeq: " ++ number ++ " INVITE\r\n" ++
        "Contact: <" ++ m.localUri ++ ">\r\n" ++ "Content-Length: 0\r\n\r\n" := by
  have htag : ">;tag=" = ">" ++ ";tag=" := by decide
  have hline : " INVITE\r\n" = " INVITE" ++ "\r\n" := by decide
  unfold Response.text viaSentBy localUri
  simp only [Response.param, htag, hline, String.append_assoc]
  rfl

/-- `BuildResponse` returns the text of `response` -/
theorem buildResponse_eq (m : SipManager κ) (statusCode : ℤ) (reason toTag : String) :
    buildResponse E statusCode reason toTag m =
      ((response E statusCode reason toTag m).1.text m.config, (response E statusCode reason toTag m).2) := by
  cases htag : toTag.isEmpty
  all_goals
    simp only [buildResponse, buildResponseHead, response, htag]
    exact Prod.ext (text_response m statusCode reason _ _ _ _ _).symm rfl

/-- the text of a response with the headers kept, as `BuildInviteResponse` writes it -/
theorem text_inviteResponse (m : SipManager κ) (statusCode : ℤ) (reason : String) (toTag : Option String)
    (callId cseq sdp : String) :
    Response.text m.config
        ⟨statusCode, reason, kept m.lastViaBranch, kept m.lastFromTag, toTag, callId, cseq, sdp⟩ =
      "SIP/2.0 " ++ toString statusCode ++ " " ++ reason ++ "\r\n" ++
        m.viaSentBy ++ (if m.lastViaBranch.isEmpty then "" else ";branch=" ++ m.lastViaBranch) ++ "\r\n" ++
        "From: <sip:remote@" ++ m.config.domain ++ ">" ++
          (if m.lastFromTag.isEmpty then "" else ";tag=" ++ m.lastFromTag) ++ "\r\n" ++
        "To: <" ++ m.localUri ++ ">" ++ Response.param ";tag=" toTag ++ "\r\n" ++
        "Call-ID: " ++ callId ++ "\r\n" ++
        "CSeq: " ++ cseq ++ "\r\n" ++
        "Contact: <" ++ m.localUri ++ ">\r\n" ++
        (if sdp.isEmpty then "Content-Length: 0\r\n\r\n"
          else "Content-Type: application/sdp\r\n" ++ "Content-Length: " ++ toString sdp.length ++ "\r\n\r\n" ++
            sdp) := by
  rw [← param_kept, ← param_kept]
  unfold Response.text viaSentBy localUri
  simp only [String.append_assoc]

/-- the state is read first -/
theorem get_bind_run {σ α : Type} (f : σ → StateM σ α) (s : σ) : ((get : StateM σ σ) >>= f) s = f s s := rfl

/-- `BuildInviteResponse` returns the text of `inviteResponse` -/
theorem buildInviteResponse_eq (m : SipManager κ) (statusCode : ℤ) (reason sdp : String) :
    buildInviteResponse E statusCode reason sdp m = ((inviteResponse E statusCode reason sdp m).1.text m.config,
      (inviteResponse E statusCode reason sdp m).2) := by
  have hrun : ∀ x : StateM (SipManager κ) Response, ((x m).1.text m.config, (x m).2) =
      (x >>= fun r => pure (r.text m.config)) m := fun _ => rfl
  rw [hrun]
  simp only [buildInviteResponse, inviteResponse, bind_assoc, pure_bind, get_bind_run]
  -- a To tag, a Call-ID and a CSeq number are drawn by both alike
  by_cases hcode : statusCode = 200
  · cases m.lastToTag.isEmpty <;> cases m.lastCallId.isEmpty <;> cases m.lastCseq.isEmpty
    all_goals
      simp only [Bool.not_true, Bool.not_false, Bool.false_eq_true, if_true, if_false, if_pos hcode, pure_bind,
        bind_assoc, text_inviteResponse, Response.param]
  · cases m.lastToTag.isEmpty <;> cases m.lastCallId.isEmpty <;> cases m.lastCseq.isEmpty
    all_goals
      simp only [Bool.not_true, Bool.not_false, Bool.false_eq_true, if_true, if_false, if_neg hcode, pure_bind,
        bind_assoc, text_inviteResponse, Response.param]

/-! ## What an answer to an INVITE holds -/

/-- what is kept of the last INVITE, but for the To tag -/
def headers (m : SipManager κ) : String × String × String × String :=
  (m.lastViaBranch, m.lastFromTag, m.lastCallId, m.lastCseq)

theorem inviteResponse_frame (m : SipManager κ) (statusCode : ℤ) (reason sdp : String) :
    BuilderFrame m (inviteResponse E statusCode reason sdp m).2 := by
  have hframe := buildInviteResponse_frame E m statusCode reason sdp
  rwa [buildInviteResponse_eq] at hframe

/-- what is drawn for a response: a To tag, a Call-ID, a CSeq number -/
theorem inviteResponse_run (m : SipManager κ) (statusCode : ℤ) (reason sdp : String) :
    inviteResponse E statusCode reason sdp m =
      let tag : Option String × SipManager κ :=
        if !m.lastToTag.isEmpty then (some m.lastToTag, m)
        else if statusCode = 200 then (some (generateTag E m).1, (generateTag E m).2) else (none, m)
      let callId := if m.lastCallId.isEmpty then generateCallId E tag.2 else (m.lastCallId, tag.2)
      let cseq :=
        if m.lastCseq.isEmpty then (toString (generateCSeq callId.2).1 ++ " INVITE", (generateCSeq callId.2).2)
        else (m.lastCseq, callId.2)
      (⟨statusCode, reason, kept m.lastViaBranch, kept m.lastFromTag, tag.1, callId.1, cseq.1, sdp⟩, cseq.2) := by
  simp only [inviteResponse, pure_bind, get_bind_run]
  by_cases hcode : statusCode = 200
  · cases m.lastToTag.isEmpty <;> cases m.lastCallId.isEmpty <;> cases m.lastCseq.isEmpty
    all_goals
      simp only [Bool.not_true, Bool.not_false, Bool.false_eq_true, if_true, if_false, if_pos hcode]
      rfl
  · cases m.lastToTag.isEmpty <;> cases m.lastCallId.isEmpty <;> cases m.lastCseq.isEmpty
    all_goals
      simp only [Bool.not_true, Bool.not_false, Bool.false_eq_true, if_true, if_false, if_neg hcode]
      rfl

/-- the headers kept are copied; a Call-ID and a CSeq that are missing are made up -/
structure Copies (m : SipManager κ) (r : Response) : Prop where
  branch : r.branch = kept m.lastViaBranch
  fromTag : r.fromTag = kept m.lastFromTag
  callId : if m.lastCallId.isEmpty then ∃ start hex, r.callId = start ++ "-" ++ hex else r.callId = m.lastCallId
  cseq : if m.lastCseq.isEmpty then ∃ number : UInt32, r.cseq = toString number ++ " INVITE" else r.cseq = m.lastCseq

theorem copies_inviteResponse (m : SipManager κ) (statusCode : ℤ) (reason sdp : String) :
    Copies m (inviteResponse E statusCode reason sdp m).1 := by
  rw [inviteResponse_run]
  refine ⟨rfl, rfl, ?_, ?_⟩
  · cases m.lastCallId.isEmpty with
    | true => exact ⟨_, _, rfl⟩
    | false => rfl
  · cases m.lastCseq.isEmpty with
    | true => exact ⟨_, rfl⟩
    | false => rfl

theorem Copies.congr {m m' : SipManager κ} {r : Response} (h : Copies m r) (hheaders : m.headers = m'.headers) :
    Copies m' r := by
  simp only [headers, Prod.mk.injEq] at hheaders
  obtain ⟨hbranch, hfrom, hcallId, hcseq⟩ := hheaders
  exact ⟨hbranch ▸ h.branch, hfrom ▸ h.fromTag, hcallId ▸ h.callId, hcseq ▸ h.cseq⟩

/-- with a Call-ID and a CSeq kept, everything is copied -/
theorem Copies.echo {m : SipManager κ} {r : Response} (h : Copies m r) (hid : ¬ m.lastCallId.isEmpty)
    (hcseq : ¬ m.lastCseq.isEmpty) : r.echo = (kept m.lastViaBranch, kept m.lastFromTag, m.lastCallId, m.lastCseq) := by
  have hcallId := h.callId
  have hcseq' := h.cseq
  rw [if_neg hid] at hcallId
  rw [if_neg hcseq] at hcseq'
  rw [Response.echo, h.branch, h.fromTag, hcallId, hcseq']

/-- `BuildResponse` makes up the Call-ID -/
theorem callId_response (m : SipManager κ) (statusCode : ℤ) (reason toTag : String) :
    ∃ k, (response E statusCode reason toTag m).1.callId = E.hex k 16 := by
  unfold response
  cases toTag.isEmpty <;> exact ⟨_, rfl⟩

/-- the To tag of a 200 is the next random text, which is used up -/
theorem toTag_inviteResponse (m : SipManager κ) (htag : m.lastToTag = "") (reason sdp : String) :
    (inviteResponse E 200 reason sdp m).1.toTag = some (E.hex m.draws 16) ∧
      m.draws < (inviteResponse E 200 reason sdp m).2.draws := by
  have hempty : (!m.lastToTag.isEmpty) = false := by rw [htag]; rfl
  rw [inviteResponse_run, hempty]
  refine ⟨rfl, ?_⟩
  cases m.lastCallId.isEmpty <;> cases m.lastCseq.isEmpty
  · exact Nat.lt_add_one m.draws
  · exact Nat.lt_add_one m.draws
  · exact Nat.lt_add_of_pos_right (by decide : 0 < 2)
  · exact Nat.lt_add_of_pos_right (by decide : 0 < 2)

/-! ## The headers kept -/

theorem BuilderFrame.headers {m m' : SipManager κ} (h : BuilderFrame m m') : m'.headers = m.headers := by
  obtain ⟨_, _, rfl⟩ := h
  rfl

variable {E} {cb : Callbacks κ σ}

theorem untouched_headers (headers : String × String × String × String) :
    Untouched fun m : SipManager κ => m.headers = headers where
  builder := fun hframe h => hframe.headers.trans h
  calls := fun _ h => h

/-- an INVITE with a Call-ID replaces the headers it has -/
theorem headers_handleInvite (htame : Tame cb) (msg : OsipMessage) (mem : Uninit) (now : ℕ) (s : SipManager κ × σ) :
    (handleInvite E cb msg mem now s).1.headers =
      if (messageCallId msg).isEmpty then s.1.headers else (cacheHeaders msg (messageCallId msg) s.1).headers := by
  rw [← apply_ite]
  exact (untouched_headers _).handleInvite htame msg mem now rfl

end SipManager

end Rtcom
