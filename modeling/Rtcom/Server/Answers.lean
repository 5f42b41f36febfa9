/-
The responses the main loop sends for an INVITE or a BYE: what of the request they repeat, and their To tags.

`answers` are the responses to a datagram, header by header; `handleDatagram_answers` says that the texts sent are the
texts of these. Those to an INVITE repeat the headers kept of the last INVITE, whichever it was; the one to a BYE makes
up its own.

- `answers_echo_iff`: all responses to a request carry its Call-ID and CSeq, whatever came before, exactly when it is an
  INVITE without a host in its Call-ID and without the text "BYE" (`bye_answered_as_invite`).
- `echo_of_invite_iff`: what the responses repeat depends on the INVITE alone exactly when it has a Call-ID, a Via
  branch, a From tag and a CSeq (`headers_of_another`).
- `one_dialog_iff`: the 200s for a call have one To tag exactly when no INVITE arrives while its call is there
  (`retransmission_new_tag`); no operation sets the To tag that is kept.
-/
import Mathlib.Data.List.TakeWhile
import Mathlib.Tactic
import Rtcom.Server.MainLoop
import Rtcom.Session.Duplicates
import Rtcom.Session.Lifecycle
import Rtcom.Sip.Responses

namespace Rtcom

open Runs SipManager SessionManager

namespace MainLoop

variable (E : SessionEnv)

/-! ## Responses -/

/-- the state in which a datagram is answered -/
def received (msg : String) (mem : Uninit) (now : ℕ) (s : SessionManager) : SessionManager :=
  applySdp msg (processIncomingMessage E.toSipEnv (callbacks E) msg mem now s)

/-- the 180 and the 200, and the manager after them -/
def inviteAnswers (callId : String) (m : SipManager EventCallback) : Response × Response × SipManager EventCallback :=
  let (ringing, m) := inviteResponse E.toSipEnv 180 "Ringing" "" m
  let (ok, m) := inviteResponse E.toSipEnv 200 "OK" (buildSdpAnswer m callId) m
  (ringing, ok, m)

/-- the responses to a datagram -/
def answers (msg : String) (m : SipManager EventCallback) : List Response :=
  let (invite, m) :=
    if contains msg "INVITE" then
      let (ringing, ok, m) := inviteAnswers E (extractCallId msg) m
      ([ringing, ok], m)
    else ([], m)
  invite ++ if contains msg "BYE" then [(response E.toSipEnv 200 "OK" "" m).1] else []

variable {E}

theorem inviteAnswers_frame (callId : String) (m : SipManager EventCallback) :
    BuilderFrame m (inviteAnswers E callId m).2.2 :=
  (inviteResponse_frame E.toSipEnv m 180 "Ringing" "").trans (inviteResponse_frame E.toSipEnv _ 200 "OK" _)

theorem answerInvite_eq (msg : String) (s : SessionManager) (h : contains msg "INVITE" = true) :
    let r := inviteAnswers E (extractCallId msg) s.1
    answerInvite E msg s = ((r.2.2, s.2), [r.1, r.2.1].map (Response.text s.1.config)) := by
  intro r
  have hconfig := (inviteResponse_frame E.toSipEnv s.1 180 "Ringing" "").config
  rw [answerInvite, if_pos h]
  simp only [buildInviteResponse_eq, hconfig]
  rfl

/-- the responses to a datagram, and the state after them -/
theorem answers_spec (msg : String) (s : SessionManager) :
    let r := answerInvite E msg s
    r.2 ++ (answerBye E msg r.1).2 = (answers E msg s.1).map (Response.text s.1.config) := by
  intro r
  rw [answers, List.map_append]
  by_cases hinvite : contains msg "INVITE" = true
  · have hconfig := (inviteAnswers_frame (E := E) (extractCallId msg) s.1).config
    rw [if_pos hinvite]
    simp only [r, answerInvite_eq msg s hinvite, answerBye]
    congr 1
    by_cases hbye : contains msg "BYE" = true
    · simp only [if_pos hbye, buildResponse_eq, hconfig]
      rfl
    · simp only [if_neg hbye, List.map_nil]
  · rw [if_neg hinvite]
    simp only [r, answerInvite, if_neg hinvite, answerBye]
    by_cases hbye : contains msg "BYE" = true
    · simp only [if_pos hbye, buildResponse_eq]
      rfl
    · simp only [if_neg hbye, List.map_nil]

/-- **The texts sent for a datagram** are the texts of its responses -/
theorem handleDatagram_answers (msg : String) (mem : Uninit) (now : ℕ) (s : SessionManager) :
    let m := (received E msg mem now s).1
    (handleDatagram E msg mem now s).2 = (answers E msg m).map (Response.text m.config) := by
  intro m
  rw [← answers_spec, handleDatagram]
  rfl

/-- the 180 and the 200 come first -/
theorem answers_of_invite {msg : String} (hinvite : contains msg "INVITE" = true) (m : SipManager EventCallback) :
    let a := inviteAnswers E (extractCallId msg) m
    answers E msg m =
      [a.1, a.2.1] ++ if contains msg "BYE" then [(response E.toSipEnv 200 "OK" "" a.2.2).1] else [] := by
  intro a
  rw [answers, if_pos hinvite]

/-- what `BuildResponse` makes up is sent whenever the text "BYE" occurs -/
theorem madeUp_of_bye {msg : String} (hbye : contains msg "BYE" = true) (m : SipManager EventCallback) :
    ∃ r ∈ answers E msg m, ∃ k, r.callId = E.hex k 16 := by
  unfold answers
  simp only [hbye, if_true]
  have hcallId := callId_response E.toSipEnv
    (if contains msg "INVITE" then (inviteAnswers E (extractCallId msg) m).2.2 else m) 200 "OK" ""
  refine ⟨_, List.mem_append_right _ List.mem_cons_self, ?_⟩
  by_cases hinvite : contains msg "INVITE" = true
  · simpa only [if_pos hinvite] using hcallId
  · simpa only [if_neg hinvite] using hcallId

/-! ## The headers kept -/

/-- the manager that keeps the headers of an INVITE -/
def keptFor (msg : OsipMessage) (m : SipManager EventCallback) : SipManager EventCallback :=
  if (messageCallId msg).isEmpty then m else cacheHeaders msg (messageCallId msg) m

theorem headers_applySdp (msg : String) (s : SessionManager) : (applySdp msg s).1.headers = s.1.headers := by
  unfold applySdp
  cases sdpRequest msg with
  | none => rfl
  | some req =>
    rcases processIncomingSdp_cases req.1 req.2 s.1 with heq | ⟨call, sess, -, heq⟩
    · simp only [heq]
    · simp only [heq]
      rfl

/-- the 180 and the 200 copy the same headers -/
theorem copies_inviteAnswers {m m' : SipManager EventCallback} (h : m.headers = m'.headers) (callId : String) :
    Copies m' (inviteAnswers E callId m).1 ∧ Copies m' (inviteAnswers E callId m).2.1 := by
  have hringing := inviteResponse_frame E.toSipEnv m 180 "Ringing" ""
  refine ⟨?_, ?_⟩
  · exact (copies_inviteResponse E.toSipEnv m 180 "Ringing" "").congr h
  · exact (copies_inviteResponse E.toSipEnv _ 200 "OK" _).congr (hringing.headers.trans h)

/-- an INVITE is answered with its own headers, where it has them -/
theorem headers_received {rawMsg : String} {msg : OsipMessage} (hmsg : E.parse rawMsg = some msg)
    (hinvite : msg.IsInvite) (mem : Uninit) (now : ℕ) (s : SessionManager) :
    (received E rawMsg mem now s).1.headers = (keptFor msg s.1).headers := by
  have hhandled := headers_handleInvite (E := E.toSipEnv) (tame_callbacks E) msg mem now s
  rw [received, headers_applySdp, incoming_invite _ _ hmsg hinvite, hhandled, keptFor]
  split_ifs <;> rfl

theorem copies_received {rawMsg : String} {msg : OsipMessage} (hmsg : E.parse rawMsg = some msg)
    (hinvite : msg.IsInvite) (mem : Uninit) (now : ℕ) (s : SessionManager) (callId : String) :
    Copies (keptFor msg s.1) (inviteAnswers E callId (received E rawMsg mem now s).1).1 ∧
      Copies (keptFor msg s.1) (inviteAnswers E callId (received E rawMsg mem now s).1).2.1 :=
  copies_inviteAnswers (headers_received hmsg hinvite mem now s) callId

/-! ## Call-ID and CSeq -/

/-- the part of a Call-ID before the '@', if there is one -/
def callNumber (callId : String) : String := String.ofList (callId.toList.takeWhile (· ≠ '@'))

theorem callNumber_eq_self_iff (callId : String) : callNumber callId = callId ↔ '@' ∉ callId.toList := by
  rw [← String.toList_inj, callNumber, String.toList_ofList, List.takeWhile_eq_self_iff]
  refine ⟨?_, ?_⟩
  · intro h hat
    simpa using h '@' hat
  · intro hat c hc
    simpa using fun heq : c = '@' => hat (heq ▸ hc)

/-- an INVITE or a BYE as it arrives, with the values of its Call-ID header and its CSeq header -/
structure Request where
  text : String
  method : String
  callId : String
  number : String
  invite_or_bye : method = "INVITE" ∨ method = "BYE"
  starts : ∃ rest, text = method ++ " " ++ rest
  callNumber_ne : callNumber callId ≠ ""

namespace Request

def cseq (req : Request) : String := req.number ++ " " ++ req.method

/-- the headers of the request, its Call-ID split at the '@' -/
structure ReadAs (req : Request) (msg : OsipMessage) : Prop where
  statusCode : msg.statusCode = 0
  method : msg.method = some req.method
  callId : msg.callIdNumber = some (callNumber req.callId)
  cseq : msg.cseq = some (some req.number, some req.method)

/-- libosip2 reads the request as it stands -/
def ReadBy (req : Request) (E : SessionEnv) : Prop := ∃ msg, E.parse req.text = some msg ∧ req.ReadAs msg

/-- after any datagrams and timers, each response repeats the Call-ID and the CSeq -/
def Echoed (req : Request) (E : SessionEnv) : Prop :=
  ∀ (config : ServerConfig) (events : List LoopEvent) (mem : Uninit) (now : ℕ),
    ∀ r ∈ answers E req.text (received E req.text mem now (exec (step E) (init E config) events)).1,
      r.callId = req.callId ∧ r.cseq = req.cseq

variable (req : Request)

theorem contains_method : contains req.text req.method = true := by
  obtain ⟨rest, hrest⟩ := req.starts
  rw [hrest, String.append_assoc]
  refine contains_of_starts ?_ _
  rcases req.invite_or_bye with h | h <;> rw [h] <;> decide

/-- the request as libosip2 reads it, from a peer at 10.0.0.9 -/
def message : OsipMessage :=
  ⟨0, some req.method, some (callNumber req.callId), some "z9hG4bKp", some "p", some (some "peer", some "10.0.0.9"),
    some (some req.number, some req.method)⟩

theorem readAs_message : req.ReadAs req.message := ⟨rfl, rfl, rfl, rfl⟩

/-- draws are all alike, and the request is the one message that is read -/
def env (hex : String) : SessionEnv := .constant hex [⟨req.text, req.message⟩]

theorem parse_env (hex : String) : (req.env hex).parse req.text = some req.message :=
  SessionEnv.parse_constant hex ⟨req.text, req.message⟩ []

variable {req}

/-- what copies the headers of the request has the part of its Call-ID before the '@', and its CSeq -/
theorem ReadAs.echo {msg : OsipMessage} (h : req.ReadAs msg) {m : SipManager EventCallback} {r : Response}
    (hr : Copies (keptFor msg m) r) : r.callId = callNumber req.callId ∧ r.cseq = req.cseq := by
  have hid : messageCallId msg = callNumber req.callId := by rw [messageCallId, h.callId, Option.getD_some]
  have hempty : ¬ (messageCallId msg).isEmpty := by
    rw [hid, String.isEmpty_iff]
    exact req.callNumber_ne
  have hlast : (cacheHeaders msg (messageCallId msg) m).lastCseq = req.cseq := by
    rw [cacheHeaders, h.cseq]
    rfl
  rw [keptFor, if_neg hempty] at hr
  have hcallId := hr.callId
  have hcseq := hr.cseq
  rw [if_neg (by exact hempty)] at hcallId
  rw [hlast, if_neg (by simp [Request.cseq])] at hcseq
  exact ⟨hcallId.trans hid, hcseq⟩

/-- an INVITE without the text "BYE" is answered, and all its answers are copies -/
theorem sent_of_invite (hmethod : req.method = "INVITE") (hbye : contains req.text "BYE" = false) {msg : OsipMessage}
    (hmsg : E.parse req.text = some msg) (hread : req.ReadAs msg) (mem : Uninit) (now : ℕ) (s : SessionManager) :
    answers E req.text (received E req.text mem now s).1 ≠ [] ∧
      ∀ r ∈ answers E req.text (received E req.text mem now s).1,
        r.callId = callNumber req.callId ∧ r.cseq = req.cseq := by
  have hinvite : contains req.text "INVITE" = true := hmethod ▸ req.contains_method
  have hbye' : ¬ contains req.text "BYE" = true := by
    rw [hbye]
    exact Bool.false_ne_true
  obtain ⟨hringing, hok⟩ := copies_received hmsg ⟨hread.statusCode, hmethod ▸ hread.method⟩ mem now s
    (extractCallId req.text)
  rw [answers_of_invite hinvite, if_neg hbye', List.append_nil]
  refine ⟨List.cons_ne_nil _ _, fun r hr => ?_⟩
  rcases List.mem_cons.1 hr with rfl | hr
  · exact hread.echo hringing
  · rw [List.mem_singleton.1 hr]
    exact hread.echo hok

end Request

/-- **Each response carries the request's Call-ID and CSeq**, after any datagrams and timers, exactly when the request
is an INVITE whose Call-ID has no host and whose text does not contain "BYE" -/
theorem answers_echo_iff (req : Request) :
    (∀ E, req.ReadBy E → req.Echoed E) ↔
      req.method = "INVITE" ∧ '@' ∉ req.callId.toList ∧ contains req.text "BYE" = false := by
  rw [← callNumber_eq_self_iff]
  refine ⟨?_, ?_⟩
  · intro h
    -- a generator that draws no text equal to the Call-ID
    set E : SessionEnv := req.env (req.callId ++ "x")
    have hmsg : E.parse req.text = some req.message := req.parse_env _
    have hechoed := h E ⟨req.message, hmsg, req.readAs_message⟩ {} [] ⟨0, 0, 0, 0, 0⟩ 0
    have hbye : contains req.text "BYE" = false := by
      by_contra hbye
      obtain ⟨r, hr, k, hcallId⟩ := madeUp_of_bye (E := E) (Bool.of_not_eq_false hbye)
        (received E req.text ⟨0, 0, 0, 0, 0⟩ 0 (init E {})).1
      have hne : E.hex k 16 ≠ req.callId := by
        intro heq
        simpa [E, Request.env, SessionEnv.constant] using congrArg String.length heq
      exact hne (hcallId.symm.trans (hechoed r hr).1)
    have hmethod : req.method = "INVITE" := by
      refine req.invite_or_bye.resolve_right fun hmethod => ?_
      rw [← hmethod, req.contains_method] at hbye
      cases hbye
    obtain ⟨hsent, hall⟩ := Request.sent_of_invite hmethod hbye hmsg req.readAs_message ⟨0, 0, 0, 0, 0⟩ 0 (init E {})
    obtain ⟨r, hr⟩ := List.exists_mem_of_ne_nil _ hsent
    exact ⟨hmethod, (hall r hr).1.symm.trans (hechoed r hr).1, hbye⟩
  · rintro ⟨hmethod, hnumber, hbye⟩ E ⟨msg, hmsg, hread⟩ config events mem now
    obtain ⟨-, hall⟩ := Request.sent_of_invite hmethod hbye hmsg hread mem now (exec (step E) (init E config) events)
    rwa [hnumber] at hall

/-- the headers of a BYE for a call -/
def byeHeaders : String := "sip:user@example.com SIP/2.0\r\nVia: SIP/2.0/UDP 10.0.0.9:5060;branch=z9hG4bKp\r\n" ++
  "From: <sip:peer@10.0.0.9>;tag=p\r\nTo: <sip:user@example.com>;tag=u\r\nCall-ID: 1-153349@127.0.0.1\r\n" ++
  "CSeq: 2 BYE\r\n\r\n"

/-- a BYE for a call, read as it stands -/
def byeRequest : Request where
  text := "BYE" ++ " " ++ byeHeaders
  method := "BYE"
  callId := "1-153349@127.0.0.1"
  number := "2"
  invite_or_bye := Or.inr rfl
  starts := ⟨byeHeaders, rfl⟩
  callNumber_ne := by decide

/-- **A BYE is answered as an INVITE**, and under another Call-ID -/
theorem bye_answered_as_invite : ¬ ∀ (req : Request) (E : SessionEnv), req.ReadBy E → req.Echoed E := by
  intro h
  set E : SessionEnv := byeRequest.env "0123456789abcdef"
  have hread : byeRequest.ReadBy E := ⟨byeRequest.message, byeRequest.parse_env _, byeRequest.readAs_message⟩
  have hechoed := h byeRequest E hread {} [] ⟨0, 0, 0, 0, 0⟩ 0
  have hanswers : (answers E byeRequest.text
      (received E byeRequest.text ⟨0, 0, 0, 0, 0⟩ 0 (init E {})).1).map Response.cseq = ["3 INVITE"] := by
    decide +kernel
  obtain ⟨r, hr, hcseq⟩ := List.mem_map.1 (hanswers ▸ List.mem_cons_self : "3 INVITE" ∈ List.map _ _)
  exact absurd (hcseq.symm.trans (hechoed r hr).2) (by decide)

/-! ## Earlier INVITEs -/

/-- the 180 and the 200 to an INVITE after other datagrams and timers, and the manager after them -/
def answersAfter (E : SessionEnv) (config : ServerConfig) (history : List LoopEvent) (rawMsg : String) (mem : Uninit)
    (now : ℕ) : Response × Response × SipManager EventCallback :=
  inviteAnswers E (extractCallId rawMsg) (received E rawMsg mem now (exec (step E) (init E config) history)).1

/-- the headers a message has to have for its responses to depend on it alone -/
def Complete (msg : OsipMessage) : Prop :=
  ¬ (messageCallId msg).isEmpty ∧ msg.viaBranch.isSome ∧ msg.fromTag.isSome ∧ msg.cseq.isSome

/-- the headers kept of a complete INVITE are its own -/
theorem headers_of_complete {msg : OsipMessage} (h : Complete msg) (m m' : SipManager EventCallback) :
    (keptFor msg m).headers = (keptFor msg m').headers := by
  obtain ⟨hid, hbranch, hfrom, hcseq⟩ := h
  rw [keptFor, keptFor, if_neg hid, if_neg hid]
  obtain ⟨branch, hbranch⟩ := Option.isSome_iff_exists.1 hbranch
  obtain ⟨tag, hfrom⟩ := Option.isSome_iff_exists.1 hfrom
  obtain ⟨cseq, hcseq⟩ := Option.isSome_iff_exists.1 hcseq
  simp only [headers, cacheHeaders, hbranch, hfrom, hcseq, Option.getD_some]

/-- everything is copied of a complete INVITE -/
theorem echo_of_complete {msg : OsipMessage} (h : Complete msg) {m m' : SipManager EventCallback} {r r' : Response}
    (hr : Copies (keptFor msg m) r) (hr' : Copies (keptFor msg m') r') : r.echo = r'.echo := by
  have hown := hr'.congr (headers_of_complete h m' m)
  rw [keptFor, if_neg h.1] at hr hown
  have hcseq : ¬ (cacheHeaders msg (messageCallId msg) m).lastCseq.isEmpty := by
    obtain ⟨⟨number, method⟩, hcseq⟩ := Option.isSome_iff_exists.1 h.2.2.2
    simp [cacheHeaders, hcseq]
  exact (hr.echo h.1 hcseq).trans (hown.echo h.1 hcseq).symm

/-- an INVITE with all headers, from another caller -/
def otherInvite : PeerMessage where
  text := "INVITE sip:user@example.com SIP/2.0\r\nVia: SIP/2.0/UDP 10.0.0.9:5060;branch=z9hG4bKb\r\n" ++
    "From: <sip:peer@10.0.0.9>;tag=b\r\nTo: <sip:user@example.com>\r\nCall-ID: other\r\nCSeq: 01 INVITE\r\n\r\n"
  read := ⟨0, some "INVITE", some "other", some "z9hG4bKb", some "b", some (some "peer", some "10.0.0.9"),
    some (some "01", some "INVITE")⟩

/-- an INVITE to another address, with those headers that a message has -/
def callerInvite (msg : OsipMessage) : PeerMessage where
  text := "INVITE sip:rtcom@127.0.0.1 SIP/2.0\r\n" ++
    ("Via: SIP/2.0/UDP 10.0.0.8:5060" ++ (msg.viaBranch.map (";branch=" ++ ·)).getD "" ++ "\r\n" ++
      "From: <sip:" ++ remoteOf msg ++ ">" ++ (msg.fromTag.map (";tag=" ++ ·)).getD "" ++ "\r\n" ++
      (msg.callIdNumber.map ("Call-ID: " ++ · ++ "\r\n")).getD "" ++
      (msg.cseq.map fun c => "CSeq: " ++ c.1.getD "" ++ " " ++ c.2.getD "" ++ "\r\n").getD "" ++ "\r\n")
  read := msg

/-- the two callers use different addresses -/
theorem callerInvite_ne (msg : OsipMessage) : (callerInvite msg).text ≠ otherInvite.text := by
  obtain ⟨rest, hrest⟩ : ∃ rest, (callerInvite msg).text = "INVITE sip:rtcom@127.0.0.1 SIP/2.0\r\n" ++ rest := ⟨_, rfl⟩
  have hline : "INVITE sip:rtcom@127.0.0.1 SIP/2.0\r\n".toList.take 12 ≠ otherInvite.text.toList.take 12 := by
    decide +kernel
  intro h
  apply hline
  rw [← h, hrest, String.toList_append]
  exact (List.take_append_of_le_length (by decide +kernel)).symm

/-- the message and the INVITE of the other caller are read -/
def twoCallers (msg : OsipMessage) : SessionEnv := .constant "" [callerInvite msg, otherInvite]

theorem parse_callerInvite (msg : OsipMessage) : (twoCallers msg).parse (callerInvite msg).text = some msg :=
  SessionEnv.parse_constant "" (callerInvite msg) [otherInvite]

/-- the headers kept before the INVITE, after nothing and after the INVITE of another caller -/
theorem headers_twoCallers (msg : OsipMessage) (mem : Uninit) (now : ℕ) :
    (init (twoCallers msg) {}).1.headers = ("", "", "", "") ∧
      (step (twoCallers msg) (init (twoCallers msg) {}) (.datagram otherInvite.text mem now)).1.headers =
        ("z9hG4bKb", "b", "other", "01 INVITE") := by
  refine ⟨rfl, ?_⟩
  have hother : (twoCallers msg).parse otherInvite.text = some otherInvite.read :=
    (SessionEnv.parse_constant_of_ne "" (callerInvite_ne msg) [otherInvite]).trans
      (SessionEnv.parse_constant "" otherInvite [])
  obtain ⟨m, hframe, heq⟩ := step_datagram (E := twoCallers msg) (init (twoCallers msg) {}) otherInvite.text mem now
  rw [heq, hframe.headers]
  exact headers_received hother ⟨rfl, rfl⟩ mem now _

/-- a Call-ID that is made up is not the one of the other caller -/
theorem madeUp_callId_ne (start hex : String) : start ++ "-" ++ hex ≠ "other" := by
  intro h
  have hdash : '-' ∈ (start ++ "-" ++ hex).toList := by simp
  rw [h] at hdash
  exact absurd hdash (by decide)

/-- a CSeq that is made up is not the one of the other caller -/
theorem madeUp_cseq_ne (number : UInt32) : toString number ++ " INVITE" ≠ "01 INVITE" := by
  intro h
  have hother : "01 INVITE".toList = ['0', '1'] ++ " INVITE".toList := by decide
  have hlist := congrArg String.toList h
  rw [String.toList_append, hother] at hlist
  have hdigits : Nat.toDigits 10 number.toNat = ['0', '1'] := by
    rw [← Nat.toList_repr]
    exact List.append_cancel_right hlist
  have hone : number.toNat = 1 := by
    rw [← Nat.ofDigitChars_ten_toDigits (n := number.toNat), hdigits]
    decide
  rw [hone] at hdigits
  exact absurd hdigits (by decide)

theorem isSome_of_kept {header : Option String} {other : String} (hother : ¬ other.isEmpty)
    (h : kept (header.getD "") = kept (header.getD other)) : header.isSome := by
  cases header with
  | none => simp [kept, hother] at h
  | some value => rfl

/-- an INVITE for which both managers copy the same is complete -/
theorem complete_of_echo {msg : OsipMessage} {m m' : SipManager EventCallback} {r r' : Response}
    (hm : m.headers = ("", "", "", "")) (hm' : m'.headers = ("z9hG4bKb", "b", "other", "01 INVITE"))
    (hr : Copies (keptFor msg m) r) (hr' : Copies (keptFor msg m') r') (hecho : r.echo = r'.echo) : Complete msg := by
  rw [keptFor] at hr hr'
  simp only [headers, Prod.mk.injEq] at hm hm'
  simp only [Response.echo, Prod.mk.injEq] at hecho
  obtain ⟨hbranch, hfrom, hcallId, hcseq⟩ := hecho
  have hid : ¬ (messageCallId msg).isEmpty := by
    intro hempty
    rw [if_pos hempty] at hr hr'
    have hmade := hr.callId
    have hkept := hr'.callId
    rw [hm.2.2.1, if_pos (by rfl)] at hmade
    rw [hm'.2.2.1, if_neg (by decide)] at hkept
    obtain ⟨start, hex, hmade⟩ := hmade
    apply madeUp_callId_ne start hex
    calc start ++ "-" ++ hex = r.callId := hmade.symm
      _ = r'.callId := hcallId
      _ = "other" := hkept
  rw [if_neg hid] at hr hr'
  refine ⟨hid, isSome_of_kept (by decide : ¬ "z9hG4bKb".isEmpty) ?_, isSome_of_kept (by decide : ¬ "b".isEmpty) ?_, ?_⟩
  · rw [hr.branch, hr'.branch] at hbranch
    simpa only [cacheHeaders, hm.1, hm'.1] using hbranch
  · rw [hr.fromTag, hr'.fromTag] at hfrom
    simpa only [cacheHeaders, hm.2.1, hm'.2.1] using hfrom
  · rw [Option.isSome_iff_ne_none]
    intro hnone
    have hmade := hr.cseq
    have hkept := hr'.cseq
    simp only [cacheHeaders, hnone] at hmade hkept
    rw [hm.2.2.2, if_pos (by rfl)] at hmade
    rw [hm'.2.2.2, if_neg (by decide)] at hkept
    obtain ⟨number, hmade⟩ := hmade
    apply madeUp_cseq_ne number
    calc toString number ++ " INVITE" = r.cseq := hmade.symm
      _ = r'.cseq := hcseq
      _ = "01 INVITE" := hkept

/-- **The responses to an INVITE depend on it alone**, whatever came before, exactly when it has a Call-ID, a Via
branch, a From tag and a CSeq -/
theorem echo_of_invite_iff (msg : OsipMessage) (hinvite : msg.IsInvite) :
    (∀ (E : SessionEnv) (config : ServerConfig) (rawMsg : String), E.parse rawMsg = some msg →
        ∀ (history history' : List LoopEvent) (mem mem' : Uninit) (now now' : ℕ),
          let a := answersAfter E config history rawMsg mem now
          let a' := answersAfter E config history' rawMsg mem' now'
          a.1.echo = a'.1.echo ∧ a.2.1.echo = a'.2.1.echo) ↔
      ¬ (messageCallId msg).isEmpty ∧ msg.viaBranch.isSome ∧ msg.fromTag.isSome ∧ msg.cseq.isSome := by
  refine ⟨?_, ?_⟩
  · intro h
    set mem : Uninit := ⟨0, 0, 0, 0, 0⟩
    have hmsg := parse_callerInvite msg
    obtain ⟨hnothing, hother⟩ := headers_twoCallers msg mem 0
    obtain ⟨hecho, -⟩ := h (twoCallers msg) {} (callerInvite msg).text hmsg [] [.datagram otherInvite.text mem 0] mem
      mem 0 0
    simp only [answersAfter, exec, List.foldl_cons, List.foldl_nil] at hecho
    exact complete_of_echo hnothing hother (copies_received hmsg hinvite mem 0 _ _).1
      (copies_received hmsg hinvite mem 0 _ _).1 hecho
  · intro hcomplete E config rawMsg hmsg history history' mem mem' now now'
    obtain ⟨hringing, hok⟩ := copies_received hmsg hinvite mem now (exec (step E) (init E config) history)
      (extractCallId rawMsg)
    obtain ⟨hringing', hok'⟩ := copies_received hmsg hinvite mem' now' (exec (step E) (init E config) history')
      (extractCallId rawMsg)
    rw [answersAfter, answersAfter]
    exact ⟨echo_of_complete hcomplete hringing hringing', echo_of_complete hcomplete hok hok'⟩

/-- an INVITE without a From tag -/
def untaggedInvite : OsipMessage :=
  ⟨0, some "INVITE", some "1-1", some "z9hG4bKa", none, some (some "remote", some "10.0.0.8"),
    some (some "1", some "INVITE")⟩

theorem echo_of_invite_iff_noTag :
    let msg := untaggedInvite
    (∀ (E : SessionEnv) (config : ServerConfig) (rawMsg : String), E.parse rawMsg = some msg →
        ∀ (history history' : List LoopEvent) (mem mem' : Uninit) (now now' : ℕ),
          let a := answersAfter E config history rawMsg mem now
          let a' := answersAfter E config history' rawMsg mem' now'
          a.1.echo = a'.1.echo ∧ a.2.1.echo = a'.2.1.echo) ↔
      ¬ (messageCallId msg).isEmpty ∧ msg.viaBranch.isSome ∧ msg.fromTag.isSome ∧ msg.cseq.isSome := by
  intro msg
  exact echo_of_invite_iff msg ⟨rfl, rfl⟩

/-- **The From tag of another caller** is sent to one whose INVITE has none -/
theorem headers_of_another : ¬ ∀ (msg : OsipMessage), msg.IsInvite →
    ∀ (E : SessionEnv) (config : ServerConfig) (rawMsg : String), E.parse rawMsg = some msg →
      ∀ (history history' : List LoopEvent) (mem mem' : Uninit) (now now' : ℕ),
        let a := answersAfter E config history rawMsg mem now
        let a' := answersAfter E config history' rawMsg mem' now'
        a.1.echo = a'.1.echo ∧ a.2.1.echo = a'.2.1.echo := by
  intro h
  set E := twoCallers untaggedInvite
  set rawMsg := (callerInvite untaggedInvite).text
  set mem : Uninit := ⟨0, 0, 0, 0, 0⟩
  set history : List LoopEvent := [.datagram otherInvite.text mem 0]
  have hecho := (h untaggedInvite ⟨rfl, rfl⟩ E {} rawMsg (parse_callerInvite _) [] history mem mem 0 0).1
  have hnothing : (answersAfter E {} [] rawMsg mem 0).1.fromTag = none := by decide +kernel
  have hother : (answersAfter E {} history rawMsg mem 0).1.fromTag = some "b" := by decide +kernel
  simp only [Response.echo, Prod.mk.injEq, hnothing, hother] at hecho
  exact absurd hecho.2.1 (by decide)

/-! ## To tags -/

/-- an INVITE for a call, which the loop answers -/
def IsInviteFor (E : SessionEnv) (x : String) : LoopEvent → Prop
  | .datagram rawMsg _ _ => contains rawMsg "INVITE" = true ∧
      ∃ msg, E.parse rawMsg = some msg ∧ msg.IsInvite ∧ messageCallId msg = x
  | .timers _ => False

/-- the To tag of the 200 to an INVITE -/
def okTag (E : SessionEnv) (s : SessionManager) : LoopEvent → Option String
  | .datagram rawMsg mem now => (inviteAnswers E (extractCallId rawMsg) (received E rawMsg mem now s).1).2.1.toTag
  | .timers _ => none

/-- two INVITEs for a call that is there from the first to the second are answered with the same To tag -/
def OneDialog (E : SessionEnv) (config : ServerConfig) (x : String) (events : List LoopEvent) : Prop :=
  ∀ before first between second after, events = before ++ first :: between ++ second :: after →
    IsInviteFor E x first → IsInviteFor E x second →
    (∀ early late, between = early ++ late →
      x ∈ (exec (step E) (init E config) (before ++ first :: early)).1.calls) →
    okTag E (exec (step E) (init E config) before) first =
      okTag E (exec (step E) (init E config) (before ++ first :: between)) second

/-- no To tag is kept, and the generator has not gone back -/
structure Untagged (m m' : SipManager EventCallback) : Prop where
  lastToTag : m'.lastToTag = m.lastToTag
  draws : m.draws ≤ m'.draws

theorem Untagged.trans {m m' m'' : SipManager EventCallback} (h : Untagged m m') (h' : Untagged m' m'') :
    Untagged m m'' := ⟨h'.lastToTag.trans h.lastToTag, h.draws.trans h'.draws⟩

theorem untagged_builder {m m' : SipManager EventCallback} (h : BuilderFrame m m') : Untagged m m' :=
  ⟨(aside_builder h).lastToTag, (aside_builder h).draws⟩

/-- no change of the tables sets the To tag -/
theorem untagged_steps {T : Terms} {s s' : SessionManager} (h : Steps E T s s') : Untagged s.1 s'.1 := by
  induction h with
  | refl => exact ⟨rfl, le_rfl⟩
  | aside _ ha ih => exact ih.trans ⟨ha.lastToTag, ha.draws⟩
  | rewrite _ _ _ _ _ _ _ ih => exact ⟨ih.lastToTag, ih.draws⟩
  | @move s' id call _ _ _ _ ih =>
    obtain ⟨calls, heq, -⟩ := (tame_callbacks E).notify id call.state (s'.1.putCall id call, s'.2)
    rw [heq]
    exact ⟨ih.lastToTag, ih.draws⟩
  | erase _ _ ih => exact ⟨ih.lastToTag, ih.draws⟩
  | clear _ ih => exact ⟨ih.lastToTag, ih.draws⟩

theorem untagged_exec {s : SessionManager} (h : Matched s) (events : List LoopEvent) :
    Untagged s.1 (exec (step E) s events).1 := by
  have hrun : Matched (exec (step E) s events) ∧ Untagged s.1 (exec (step E) s events).1 := by
    refine exec_preserves (P := fun s' => Matched s' ∧ Untagged s.1 s'.1) ?_ ⟨h, rfl, le_rfl⟩ events
    rintro s' e ⟨hm, huntagged⟩
    exact ⟨step_matched s' e hm, huntagged.trans (untagged_steps (step_steps s' e hm.backed))⟩
  exact hrun.2

/-- the 200 is tagged with the text drawn next -/
theorem okTag_inviteAnswers (callId : String) {m : SipManager EventCallback} (htag : m.lastToTag = "") :
    let a := inviteAnswers E callId m
    ∃ k, m.draws ≤ k ∧ k < a.2.2.draws ∧ a.2.1.toTag = some (E.hex k 16) := by
  have hringing : Untagged m (inviteResponse E.toSipEnv 180 "Ringing" "" m).2 :=
    untagged_builder (inviteResponse_frame E.toSipEnv m 180 "Ringing" "")
  set m₁ := (inviteResponse E.toSipEnv 180 "Ringing" "" m).2
  obtain ⟨hok, hlt⟩ := toTag_inviteResponse E.toSipEnv m₁ (hringing.lastToTag.trans htag) "OK"
    (buildSdpAnswer m₁ callId)
  exact ⟨m₁.draws, hringing.draws, hlt, hok⟩

/-- the state after a datagram that is answered as an INVITE -/
theorem untagged_answers {msg : String} (hinvite : contains msg "INVITE" = true) (mem : Uninit) (now : ℕ)
    (s : SessionManager) :
    Untagged (inviteAnswers E (extractCallId msg) (received E msg mem now s).1).2.2
      (step E s (.datagram msg mem now)).1 := by
  have hinvited : (answerInvite E msg (received E msg mem now s)).1.1 =
      (inviteAnswers E (extractCallId msg) (received E msg mem now s).1).2.2 := by
    rw [answerInvite_eq msg _ hinvite]
  have hstep : step E s (.datagram msg mem now) =
      (answerBye E msg (answerInvite E msg (received E msg mem now s)).1).1 := by
    rw [step, handleDatagram, received]
  rw [hstep, ← hinvited, answerBye]
  split_ifs
  · exact untagged_builder (buildResponse_frame E.toSipEnv _ 200 "OK" "")
  · exact ⟨rfl, le_rfl⟩

/-- the To tag of a 200 is drawn between the states before and after the datagram -/
theorem okTag_drawn {s : SessionManager} (h : Matched s) (htag : s.1.lastToTag = "") {x : String} {e : LoopEvent}
    (he : IsInviteFor E x e) :
    ∃ k, s.1.draws ≤ k ∧ k < (step E s e).1.draws ∧ okTag E s e = some (E.hex k 16) := by
  cases e with
  | timers _ => exact absurd he not_false
  | datagram rawMsg mem now =>
    have hreceived : Untagged s.1 (received E rawMsg mem now s).1 :=
      untagged_steps ((steps_incoming (T := turn s) h.backed id rawMsg mem now fun _ _ _ _ => trivial).trans
        (steps_applySdp not_false rawMsg _))
    obtain ⟨k, hle, hlt, hok⟩ := okTag_inviteAnswers (E := E) (extractCallId rawMsg) (hreceived.lastToTag.trans htag)
    exact ⟨k, hreceived.draws.trans hle, hlt.trans_le (untagged_answers he.1 mem now s).draws, hok⟩

/-! ### Calls that appear -/

theorem isSome_lookup_visitTimer (s : SessionManager) (v : Visit) (x : String) :
    ((visitTimer (callbacks E) s v).1.calls.lookup x).isSome = (s.1.calls.lookup x).isSome := by
  unfold visitTimer
  cases hl : s.1.calls.lookup v.callId with
  | none => rfl
  | some call =>
    simp only
    split_ifs
    · exact isSome_lookup_putCall hl _ x
    · rw [isSome_lookup_notify, isSome_lookup_putCall hl]
    · rfl

theorem isSome_lookup_processTimers (visits : List Visit) (s : SessionManager) (x : String) :
    ((processTimers (callbacks E) visits s).1.calls.lookup x).isSome = (s.1.calls.lookup x).isSome := by
  unfold processTimers
  induction visits generalizing s with
  | nil => rfl
  | cons v vs ih => rw [List.foldl_cons, ih, isSome_lookup_visitTimer]

theorem isSome_lookup_applySdp (msg : String) (s : SessionManager) (x : String) :
    ((applySdp msg s).1.calls.lookup x).isSome = (s.1.calls.lookup x).isSome := by
  unfold applySdp
  cases sdpRequest msg with
  | none => rfl
  | some req =>
    rcases processIncomingSdp_cases req.1 req.2 s.1 with heq | ⟨call, sess, hl, heq⟩
    · simp only [heq]
    · simp only [heq, isSome_lookup_putCall hl]

/-- only an INVITE stores a call where there is none -/
theorem isInvite_of_react {msg : OsipMessage} {v : CallView} (hnone : v.entry = none)
    (hsome : (v.react msg).entry.isSome) : msg.IsInvite := by
  unfold CallView.react at hsome
  by_cases hrequest : msg.statusCode = 0
  · rw [if_pos hrequest] at hsome
    refine ⟨hrequest, ?_⟩
    split at hsome
    · next hmethod => exact hmethod
    all_goals simp [hnone] at hsome
  · simp [if_neg hrequest, hnone] at hsome

/-- a call that appears was opened by its INVITE -/
theorem opened_by_invite (hparse : ∀ rawMsg msg, E.parse rawMsg = some msg → msg.IsInvite →
    contains rawMsg "INVITE" = true) {s : SessionManager} (h : Matched s) {x : String} (e : LoopEvent)
    (hnot : x ∉ s.1.calls) (hin : x ∈ (step E s e).1.calls) : IsInviteFor E x e := by
  rw [← AList.lookup_isSome] at hin hnot
  cases e with
  | timers visits =>
    rw [step, isSome_lookup_processTimers] at hin
    exact absurd hin hnot
  | datagram rawMsg mem now =>
    obtain ⟨m, hm, heq⟩ := step_datagram (E := E) s rawMsg mem now
    rw [heq, hm.calls, isSome_lookup_applySdp] at hin
    cases hmsg : E.parse rawMsg with
    | none =>
      rw [incoming_none _ _ hmsg] at hin
      exact absurd hin hnot
    | some msg =>
      have hview := (changes_incoming h.callback hmsg mem now).2 x
      have hentry : (view x (processIncomingMessage E.toSipEnv (callbacks E) rawMsg mem now s)).entry.isSome := by
        rwa [view, Option.isSome_map]
      have hnone : (view x s).entry = none := by
        rw [← Option.not_isSome_iff_eq_none, view, Option.isSome_map]
        exact hnot
      rw [hview] at hentry
      split_ifs at hentry with hx
      · subst hx
        have hinvite : msg.IsInvite := isInvite_of_react hnone hentry
        exact ⟨hparse rawMsg msg hmsg hinvite, msg, hmsg, hinvite, rfl⟩
      · rw [hnone] at hentry
        cases hentry

/-! ### One To tag for a call -/

/-- of n texts drawn for tags, no two are the same -/
def DistinctTags (E : SessionEnv) (n : ℕ) : Prop := ∀ j < n, ∀ i < j, E.hex i 16 ≠ E.hex j 16

instance (E : SessionEnv) (n : ℕ) : Decidable (DistinctTags E n) := inferInstanceAs (Decidable (∀ j < n, _))

/-- two INVITEs of a run, whatever calls they are for, are never answered with the same To tag -/
theorem okTag_ne {config : ServerConfig} {x y : String} {before between after : List LoopEvent}
    {first second : LoopEvent} (hdistinct : DistinctTags E
      (exec (step E) (init E config) (before ++ first :: between ++ second :: after)).1.draws)
    (hfirst : IsInviteFor E x first) (hsecond : IsInviteFor E y second) :
    okTag E (exec (step E) (init E config) before) first ≠
      okTag E (exec (step E) (init E config) (before ++ first :: between)) second := by
  set s₁ := exec (step E) (init E config) before with hs₁
  set s₂ := exec (step E) (init E config) (before ++ first :: between) with hs₂
  have hm₁ : Matched s₁ := exec_preserves step_matched (init_matched E config) before
  have hm₂ : Matched s₂ := exec_preserves step_matched (init_matched E config) _
  have htag : ∀ as, (exec (step E) (init E config) as).1.lastToTag = "" := fun as =>
    (untagged_exec (init_matched E config) as).lastToTag
  obtain ⟨i, -, hi, hok⟩ := okTag_drawn hm₁ (htag before) hfirst
  obtain ⟨j, hj, hj', hok'⟩ := okTag_drawn hm₂ (htag (before ++ first :: between)) hsecond
  have hbetween : (step E s₁ first).1.draws ≤ s₂.1.draws := by
    rw [hs₂, exec_append, ← hs₁]
    exact (untagged_exec (step_matched s₁ first hm₁) between).draws
  have hafter : (step E s₂ second).1.draws ≤
      (exec (step E) (init E config) (before ++ first :: between ++ second :: after)).1.draws := by
    rw [exec_append, ← hs₂]
    exact (untagged_exec (step_matched s₂ second hm₂) after).draws
  have hlt : i < j := by
    calc i < (step E s₁ first).1.draws := hi
      _ ≤ s₂.1.draws := hbetween
      _ ≤ j := hj
  rw [hok, hok', Ne, Option.some.injEq]
  exact hdistinct j (hj'.trans_le hafter) i hlt

/-- **The 200s for a call have one To tag** in exactly those runs in which no INVITE arrives for a call that is there -/
theorem one_dialog_iff (E : SessionEnv) (config : ServerConfig) (x : String) (events : List LoopEvent)
    (hparse : ∀ rawMsg msg, E.parse rawMsg = some msg → msg.IsInvite → contains rawMsg "INVITE" = true)
    (hdistinct : DistinctTags E (exec (step E) (init E config) events).1.draws) :
    OneDialog E config x events ↔
      Along (step E) (fun s e => IsInviteFor E x e → x ∉ s.1.calls) (init E config) events := by
  rw [along_iff]
  refine ⟨?_, ?_⟩
  · rintro h before second after rfl hsecond hin
    -- the INVITE that opened the call, and all states since
    have hinit : x ∉ (init E config).1.calls := AList.lookup_eq_none.1 rfl
    obtain ⟨before, first, between, rfl, hnot, hsince⟩ := exec_since (P := fun s : SessionManager => x ∈ s.1.calls)
      hinit before hin
    have hopened : x ∈ (step E (exec (step E) (init E config) before) first).1.calls := by
      have hnext := hsince [] between rfl
      rwa [exec_append] at hnext
    have hmatched : Matched (exec (step E) (init E config) before) :=
      exec_preserves step_matched (init_matched E config) before
    have hfirst : IsInviteFor E x first := opened_by_invite hparse hmatched first hnot hopened
    exact okTag_ne hdistinct hfirst hsecond (h before first between second after rfl hfirst hsecond hsince)
  · intro h before first between second after hevents _ hsecond hpresent
    exact absurd (hpresent between [] (List.append_nil between).symm) (h _ second after hevents hsecond)

def inviteCallX : PeerMessage := .request "INVITE" "x"

/-- the k-th draw ends with the two digits of k; the INVITE is the one message that is read -/
def digitsEnv : SessionEnv :=
  { SessionEnv.constant "" [inviteCallX] with
    hex := fun k len =>
      String.ofList (List.replicate (len - 2) '0' ++ [Nat.digitChar (k / 16), Nat.digitChar (k % 16)]) }

theorem parse_digitsEnv (rawMsg : String) (msg : OsipMessage) (hmsg : digitsEnv.parse rawMsg = some msg)
    (_ : msg.IsInvite) : contains rawMsg "INVITE" = true := by
  obtain ⟨p, hp, rfl, -⟩ := PeerMessage.mem_of_reading hmsg
  rw [List.mem_singleton.1 hp]
  exact contains_request (by decide) "x"

/-- an INVITE and its retransmission -/
def inviteTwice : List LoopEvent :=
  [.datagram inviteCallX.text ⟨0, 0, 0, 0, 0⟩ 1, .datagram inviteCallX.text ⟨0, 0, 0, 0, 0⟩ 2]

theorem distinctTags_inviteTwice :
    DistinctTags digitsEnv (exec (step digitsEnv) (init digitsEnv {}) inviteTwice).1.draws := by
  decide +kernel

theorem one_dialog_iff_inviteTwice :
    OneDialog digitsEnv {} "x" inviteTwice ↔
      Along (step digitsEnv) (fun s e => IsInviteFor digitsEnv "x" e → "x" ∉ s.1.calls) (init digitsEnv {})
        inviteTwice :=
  one_dialog_iff digitsEnv {} "x" inviteTwice parse_digitsEnv distinctTags_inviteTwice

/-- **A retransmission is answered with a new To tag** -/
theorem retransmission_new_tag : ¬ ∀ (E : SessionEnv) (config : ServerConfig) (x : String) (events : List LoopEvent),
    (∀ rawMsg msg, E.parse rawMsg = some msg → msg.IsInvite → contains rawMsg "INVITE" = true) →
    DistinctTags E (exec (step E) (init E config) events).1.draws → OneDialog E config x events := by
  intro h
  have hinvite : ∀ now, IsInviteFor digitsEnv "x" (.datagram inviteCallX.text ⟨0, 0, 0, 0, 0⟩ now) := fun _ =>
    ⟨contains_request (by decide) "x", _, SessionEnv.parse_constant "" inviteCallX [], ⟨rfl, rfl⟩, rfl⟩
  have hthere : ∀ early late, [] = early ++ late →
      "x" ∈ (exec (step digitsEnv) (init digitsEnv {})
        (.datagram inviteCallX.text ⟨0, 0, 0, 0, 0⟩ 1 :: early)).1.calls := by
    intro early late hsplit
    rw [(List.append_eq_nil_iff.1 hsplit.symm).1]
    decide +kernel
  have hsame := h digitsEnv {} "x" inviteTwice parse_digitsEnv distinctTags_inviteTwice [] _ [] _ [] rfl
    (hinvite 1) (hinvite 2) hthere
  revert hsame
  decide +kernel

end MainLoop

end Rtcom
