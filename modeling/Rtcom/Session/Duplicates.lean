/-
Repeated and delayed messages. The transport may deliver a datagram twice, or late; the SIP manager keeps no transaction
and knows a message by its Call-ID and the state of that call alone.

- `success_answers_iff`: a 2xx is matched with a call that waits for one, whichever request it waits for. The 200 to an
  INVITE that comes again after `HangUp` ends the call (`lateAnswer_ends_hangUp`).
- `incoming_twice`: a message processed twice in a row leaves both tables as processing it once does. The first time
  brings the call into a state in which the message has no effect, or the same effect again (`Settled`).
- `delayed_invite`: an INVITE that comes again opens its call anew exactly when the call is gone
  (`delayed_invite_reopens`).
-/
import Mathlib.Tactic
import Rtcom.Session.Interleaving

namespace Rtcom

open Runs SipManager

/-- the CSeq header names the method -/
def OsipMessage.Answers (msg : OsipMessage) (method : String) : Prop :=
  ∃ number, msg.cseq = some (number, some method)

def OsipMessage.IsSuccess (msg : OsipMessage) : Prop := 200 ≤ msg.statusCode ∧ msg.statusCode < 300

def OsipMessage.IsInvite (msg : OsipMessage) : Prop := msg.statusCode = 0 ∧ msg.method = some "INVITE"

namespace SessionManager

/-! ## Answers -/

def callState (id : String) (s : SessionManager) : Option SipCallState :=
  (s.1.calls.lookup id).map SipCall.state

/-- a call changed its state only because its INVITE or its BYE was answered; the latter erases it -/
def OnlyAnswered (s s' : SessionManager) (msg : OsipMessage) : Prop :=
  ∀ id, callState id s' ≠ callState id s →
    callState id s = some .kCalling ∧ callState id s' = some .kConnected ∧ msg.Answers "INVITE" ∨
      callState id s = some .kDisconnecting ∧ callState id s' = none ∧ msg.Answers "BYE"

theorem callState_eq_view (id : String) (s : SessionManager) :
    callState id s = (view id s).entry.map CallStatus.state := by
  rw [callState, view, Option.map_map]
  rfl

/-- what a 2xx makes of the state of its call -/
def stateAfterSuccess : Option SipCallState → Option SipCallState
  | some .kCalling => some .kConnected
  | some .kDisconnecting => none
  | st => st

theorem state_react_success {msg : OsipMessage} (h2xx : msg.IsSuccess) (v : CallView) :
    (v.react msg).entry.map CallStatus.state = stateAfterSuccess (v.entry.map CallStatus.state) := by
  have hresponse : msg.statusCode ≠ 0 := by
    rcases h2xx with ⟨h, -⟩
    omega
  rw [CallView.react, if_neg hresponse]
  cases hentry : v.entry with
  | none => simp only [hentry, Option.map_none, stateAfterSuccess]
  | some status =>
    simp only [if_pos (show 200 ≤ msg.statusCode ∧ msg.statusCode < 300 from h2xx), Option.map_some]
    split_ifs with hcalling hdisconnecting
    · rw [hcalling]
      rfl
    · rw [hdisconnecting]
      rfl
    · rw [hentry, Option.map_some]
      cases hst : status.state <;> simp_all [stateAfterSuccess]

variable {E : SessionEnv}

theorem callState_success {s : SessionManager} (hcb : s.1.sipEventCb = some .onSipEvent) {m : Incoming}
    {msg : OsipMessage} (hmsg : E.parse m.rawMsg = some msg) (h2xx : msg.IsSuccess) (id : String) :
    callState id (receive E s m) =
      if id = messageCallId msg then stateAfterSuccess (callState id s) else callState id s := by
  have hchange := (changes_incoming hcb hmsg m.mem m.now).2 id
  rw [callState_eq_view, callState_eq_view, receive, hchange]
  split_ifs with hid
  · rw [hid, state_react_success h2xx]
  · rfl

/-- **A success finds the call that waits for an answer**, in every reachable state: it answers the request the call
waits for exactly when its CSeq method is the one of that request -/
theorem success_answers_iff (E : SessionEnv) (config : ServerConfig) (ops : List SessionOp) (m : Incoming)
    (msg : OsipMessage) (hmsg : E.parse m.rawMsg = some msg) (h2xx : msg.IsSuccess) :
    let s := exec (step E) (started E config) ops
    OnlyAnswered s (receive E s m) msg ↔
      (callState (messageCallId msg) s = some .kCalling → msg.Answers "INVITE") ∧
        (callState (messageCallId msg) s = some .kDisconnecting → msg.Answers "BYE") := by
  intro s
  have hcb : s.1.sipEventCb = some .onSipEvent := (run_backed E config ops).callback
  have hafter := callState_success hcb hmsg h2xx
  refine ⟨?_, ?_⟩
  · intro h
    have hself := hafter (messageCallId msg)
    rw [if_pos rfl] at hself
    refine ⟨?_, ?_⟩
    · intro hcalling
      rw [hcalling, stateAfterSuccess] at hself
      rcases h (messageCallId msg) (by simp [hself, hcalling]) with ⟨-, -, hanswers⟩ | ⟨hdisconnecting, -, -⟩
      · exact hanswers
      · simp [hcalling] at hdisconnecting
    · intro hdisconnecting
      rw [hdisconnecting, stateAfterSuccess] at hself
      rcases h (messageCallId msg) (by simp [hself, hdisconnecting]) with ⟨hcalling, -, -⟩ | ⟨-, -, hanswers⟩
      · simp [hdisconnecting] at hcalling
      · exact hanswers
  · intro h id hchanged
    rcases h with ⟨hinvite, hbye⟩
    rw [hafter] at hchanged ⊢
    split_ifs at hchanged ⊢ with hid
    · subst hid
      -- a call in any other state is left alone
      cases hst : callState (messageCallId msg) s with
      | none => simp [hst, stateAfterSuccess] at hchanged
      | some st =>
        cases st with
        | kCalling => exact Or.inl ⟨rfl, rfl, hinvite hst⟩
        | kDisconnecting => exact Or.inr ⟨rfl, rfl, hbye hst⟩
        | _ => simp [hst, stateAfterSuccess] at hchanged
    · exact absurd rfl hchanged

/-- the 200 to the INVITE of the call placed first -/
def inviteOk : PeerMessage := .response 200 "OK" "INVITE" "ab-ab"

def inviteOkEnv : SessionEnv := .constant "ab" [inviteOk]

theorem parse_inviteOk : inviteOkEnv.parse inviteOk.text = some inviteOk.read :=
  SessionEnv.parse_constant "ab" inviteOk []

/-- a call placed and answered -/
theorem success_answers_iff_answered :
    let ops := [SessionOp.makeCall "sip:bob@example.com" ⟨0, 0, 0, 0, 0⟩ 0]
    let m : Incoming := ⟨inviteOk.text, ⟨0, 0, 0, 0, 0⟩, 0⟩
    let msg := inviteOk.read
    let s := exec (step inviteOkEnv) (started inviteOkEnv {}) ops
    OnlyAnswered s (receive inviteOkEnv s m) msg ↔
      (callState (messageCallId msg) s = some .kCalling → msg.Answers "INVITE") ∧
        (callState (messageCallId msg) s = some .kDisconnecting → msg.Answers "BYE") := by
  intro ops m msg
  exact success_answers_iff inviteOkEnv {} ops m msg parse_inviteOk ⟨by decide, by decide⟩

/-- **The 200 to the INVITE, again after `HangUp`**, completes the hang-up -/
theorem lateAnswer_ends_hangUp : ¬ ∀ (E : SessionEnv) (config : ServerConfig) (ops : List SessionOp) (m : Incoming)
    (msg : OsipMessage), E.parse m.rawMsg = some msg → msg.IsSuccess →
    OnlyAnswered (exec (step E) (started E config) ops) (receive E (exec (step E) (started E config) ops) m) msg := by
  intro h
  set m : Incoming := ⟨inviteOk.text, ⟨0, 0, 0, 0, 0⟩, 0⟩
  set ops := [SessionOp.makeCall "sip:bob@example.com" ⟨0, 0, 0, 0, 0⟩ 0,
    .incoming m.rawMsg ⟨0, 0, 0, 0, 0⟩ 0, .hangUp "ab-ab"]
  set s := exec (step inviteOkEnv) (started inviteOkEnv {}) ops
  have hbefore : callState "ab-ab" s = some .kDisconnecting := by decide +kernel
  have hafter : callState "ab-ab" (receive inviteOkEnv s m) = none := by decide +kernel
  rcases h inviteOkEnv {} ops m _ parse_inviteOk ⟨by decide, by decide⟩ "ab-ab" (by rw [hbefore, hafter]; simp) with
    ⟨hcalling, -, -⟩ | ⟨-, -, number, hcseq⟩
  · rw [hbefore] at hcalling
    cases hcalling
  · have hmethod : some "INVITE" = some "BYE" := congrArg Prod.snd (Option.some.inj hcseq)
    exact absurd hmethod (by decide)

/-! ## The same message twice -/

structure SameTables (s s' : SessionManager) : Prop where
  calls : s'.1.calls = s.1.calls
  contexts : s'.2.contexts = s.2.contexts

theorem SameTables.refl (s : SessionManager) : SameTables s s := ⟨rfl, rfl⟩

theorem SameTables.of_eq {s s' : SessionManager} (h : s' = s) : SameTables s s' := h ▸ .refl s

variable {s : SessionManager}

theorem isSome_lookup_notify (id : String) (st : SipCallState) (s : SessionManager) (x : String) :
    ((notifyStateChange (callbacks E) id st s).1.calls.lookup x).isSome = (s.1.calls.lookup x).isSome := by
  have hmap := congrArg Option.isSome (map_lookup_notify E (fun _ => ()) (fun _ _ _ => rfl) id st s x)
  rwa [Option.isSome_map, Option.isSome_map] at hmap

/-- a context is removed once -/
theorem contexts_removeContext_twice (w : Session) (id : String) :
    ((w.removeContext E id).removeContext E id).contexts = (w.removeContext E id).contexts := by
  have hnone : (w.removeContext E id).contexts.lookup id = none := by
    rw [AList.lookup_eq_none, mem_removeContext]
    exact fun h => h.2 rfl
  rw [Session.removeContext, hnone]

/-! ### Requests -/

theorem sameTables_handleInvite {msg : OsipMessage} (mem : Uninit) (now : ℕ)
    (hknown : (messageCallId msg).isEmpty ∨ (s.1.calls.lookup (messageCallId msg)).isSome) :
    SameTables s (handleInvite E.toSipEnv (callbacks E) msg mem now s) := by
  obtain ⟨m, hcalls, -, heq, -⟩ := handleInvite_known E.toSipEnv (callbacks E) msg mem now s hknown
  rw [heq]
  exact ⟨hcalls, rfl⟩

/-- after an INVITE, there is its call -/
theorem known_handleInvite (msg : OsipMessage) (mem : Uninit) (now : ℕ) (s : SessionManager) :
    (messageCallId msg).isEmpty ∨
      ((handleInvite E.toSipEnv (callbacks E) msg mem now s).1.calls.lookup (messageCallId msg)).isSome := by
  by_cases hknown : (messageCallId msg).isEmpty ∨ (s.1.calls.lookup (messageCallId msg)).isSome
  · rw [(sameTables_handleInvite mem now hknown).calls]
    exact hknown
  · right
    rw [handleInvite_new E.toSipEnv (callbacks E) msg mem now s hknown]
    set s₁ : SessionManager := notifyStateChange (callbacks E) (messageCallId msg) .kRinging
      ((cacheHeaders msg (messageCallId msg) s.1).putCall (messageCallId msg) (ringingCall s.1.config msg mem now), s.2)
    have hringing : (s₁.1.calls.lookup (messageCallId msg)).isSome := by
      rw [isSome_lookup_notify, lookup_putCall, if_pos rfl, Option.isSome_some]
    obtain ⟨call, hl⟩ := Option.isSome_iff_exists.1 hringing
    obtain ⟨m, -, heq⟩ := autoAnswer_spec E.toSipEnv (callbacks E) (messageCallId msg) s₁
    rw [heq, hl]
    simp only [isSome_lookup_notify, lookup_putCall, if_true, Option.isSome_some]

theorem dropCall_of_none {id : String} (hnone : s.1.calls.lookup id = none) : dropCall (callbacks E) id s = s := by
  rw [dropCall, hnone]

theorem lookup_dropCall (id : String) (s : SessionManager) :
    (dropCall (callbacks E) id s).1.calls.lookup id = none := by
  unfold dropCall
  cases hl : s.1.calls.lookup id with
  | none => exact hl
  | some call => simp only [lookup_eraseCall, if_true]

theorem sameTables_handleBye {msg : OsipMessage} (hnone : s.1.calls.lookup (messageCallId msg) = none) :
    SameTables s (handleBye E.toSipEnv (callbacks E) msg s) := by
  rw [handleBye, dropCall_of_none hnone]
  exact ⟨(buildResponse_frame E.toSipEnv s.1 200 "OK" "").calls, rfl⟩

theorem lookup_handleBye (msg : OsipMessage) (s : SessionManager) :
    (handleBye E.toSipEnv (callbacks E) msg s).1.calls.lookup (messageCallId msg) = none := by
  unfold handleBye
  rw [(buildResponse_frame E.toSipEnv _ 200 "OK" "").calls]
  exact lookup_dropCall _ s

/-! ### Responses -/

/-- the response has no effect on a call in this state, or there is none -/
def Spent (msg : OsipMessage) : Option SipCallState → Prop
  | none => True
  | some st => msg.statusCode < 300 ∧ (msg.IsSuccess → st ≠ .kCalling ∧ st ≠ .kDisconnecting)

theorem handleResponse_spent {msg : OsipMessage} (h : Spent msg (callState (messageCallId msg) s)) :
    handleResponse E.toSipEnv (callbacks E) msg s = s := by
  rw [handleResponse]
  cases hl : s.1.calls.lookup (messageCallId msg) with
  | none => rfl
  | some call =>
    rw [callState, hl] at h
    rcases h with ⟨hfinal, hsuccess⟩
    simp only
    split_ifs with h2xx hcalling hdisconnecting
    · exact absurd hcalling (hsuccess h2xx).1
    · exact absurd hdisconnecting (hsuccess h2xx).2
    · rfl
    · omega
    · rfl

theorem spent_handleResponse_success {msg : OsipMessage} (h2xx : msg.IsSuccess) (s : SessionManager) :
    Spent msg (callState (messageCallId msg) (handleResponse E.toSipEnv (callbacks E) msg s)) := by
  rw [handleResponse]
  cases hl : s.1.calls.lookup (messageCallId msg) with
  | none =>
    simp only [callState, hl]
    trivial
  | some call =>
    simp only [if_pos (show 200 ≤ msg.statusCode ∧ msg.statusCode < 300 from h2xx)]
    split_ifs with hcalling hdisconnecting
    · show Spent msg (callState _ (notifyStateChange (callbacks E) (messageCallId msg) .kConnected
        ((buildAckRequest E.toSipEnv (messageCallId msg) s.1).2.putCall _ (call.setState .kConnected), s.2)))
      rw [callState, map_lookup_notify E SipCall.state (fun _ _ _ => rfl), lookup_putCall, if_pos rfl, Option.map_some,
        SipCall.state_setState]
      exact ⟨h2xx.2, fun _ => ⟨by decide, by decide⟩⟩
    · rw [callState, lookup_eraseCall, if_pos rfl]
      trivial
    · rw [callState, hl]
      exact ⟨h2xx.2, fun _ => ⟨hcalling, hdisconnecting⟩⟩

/-- the call after a final failure -/
def failedCall (msg : OsipMessage) (call : SipCall) : SipCall :=
  (call.setState .kFailed).setError ("SIP " ++ toString msg.statusCode)

theorem failedCall_twice (msg : OsipMessage) (call : SipCall) :
    failedCall msg (failedCall msg call) = failedCall msg call := by
  have hstate : (failedCall msg call).state = .kFailed := SipCall.state_setState call .kFailed
  unfold failedCall at hstate ⊢
  rw [SipCall.setState, if_neg (not_not.2 hstate)]
  rfl

theorem handleResponse_failure {msg : OsipMessage} (h300 : msg.statusCode ≥ 300) {call : SipCall}
    (hl : s.1.calls.lookup (messageCallId msg) = some call) :
    handleResponse E.toSipEnv (callbacks E) msg s = notifyStateChange (callbacks E) (messageCallId msg) .kFailed
      (s.1.putCall (messageCallId msg) (failedCall msg call), s.2) := by
  have hnot2xx : ¬ (200 ≤ msg.statusCode ∧ msg.statusCode < 300) := by omega
  unfold handleResponse
  simp only [hl, if_neg hnot2xx, if_pos h300]
  rfl

/-- the second report of a failure finds no context -/
theorem contexts_notify_failed_twice (id : String) {m m' : SipManager EventCallback}
    (hcb : m'.sipEventCb = m.sipEventCb) (w : Session) : (notifyStateChange (callbacks E) id .kFailed
        (m', (notifyStateChange (callbacks E) id .kFailed (m, w)).2)).2.contexts =
      (notifyStateChange (callbacks E) id .kFailed (m, w)).2.contexts := by
  unfold notifyStateChange
  simp only [hcb]
  cases m.sipEventCb with
  | none => rfl
  | some k =>
    cases k with
    | application => rfl
    | onSipEvent => exact contexts_removeContext_twice w id

/-- a final failure is stored and reported, with the same outcome each time -/
theorem sameTables_failure {msg : OsipMessage} (h300 : msg.statusCode ≥ 300) {call : SipCall}
    (hl : s.1.calls.lookup (messageCallId msg) = some call) :
    let s₁ := handleResponse E.toSipEnv (callbacks E) msg s
    SameTables s₁ (handleResponse E.toSipEnv (callbacks E) msg s₁) := by
  intro s₁
  set id := messageCallId msg
  have hfirst : s₁ = notifyStateChange (callbacks E) id .kFailed (s.1.putCall id (failedCall msg call), s.2) :=
    handleResponse_failure h300 hl
  have hm₁ : s₁.1 = s.1.putCall id (failedCall msg call) := by rw [hfirst, notify_fst E id (by decide)]
  have hl₁ : s₁.1.calls.lookup id = some (failedCall msg call) := by rw [hm₁, lookup_putCall, if_pos rfl]
  have hput : s₁.1.putCall id (failedCall msg call) = s₁.1 := by
    rw [hm₁, putCall, putCall, AList.insert_insert]
  rw [handleResponse_failure h300 hl₁, failedCall_twice, hput]
  refine ⟨by rw [notify_fst E id (by decide)], ?_⟩
  rw [hfirst]
  exact contexts_notify_failed_twice id (by rw [notify_fst E id (by decide)]) s.2

theorem sameTables_handleResponse (msg : OsipMessage) (s : SessionManager) :
    let s₁ := handleResponse E.toSipEnv (callbacks E) msg s
    SameTables s₁ (handleResponse E.toSipEnv (callbacks E) msg s₁) := by
  intro s₁
  by_cases h300 : msg.statusCode ≥ 300
  · cases hl : s.1.calls.lookup (messageCallId msg) with
    | none =>
      have hspent : Spent msg (callState (messageCallId msg) s) := by
        rw [callState, hl]
        trivial
      have hs₁ : s₁ = s := handleResponse_spent hspent
      rw [hs₁]
      exact .of_eq (handleResponse_spent hspent)
    | some call => exact sameTables_failure h300 hl
  · by_cases h2xx : msg.IsSuccess
    · exact .of_eq (handleResponse_spent (spent_handleResponse_success h2xx s))
    · refine .of_eq (handleResponse_spent ?_)
      cases callState (messageCallId msg) s₁ with
      | none => trivial
      | some st => exact ⟨not_le.1 h300, fun h => absurd h h2xx⟩

/-- **A message processed twice in a row** leaves calls and contexts as processing it once does, whatever it is, in
every state -/
theorem incoming_twice (E : SessionEnv) (s : SessionManager) (rawMsg : String) (mem mem' : Uninit) (now now' : ℕ) :
    let s₁ := processIncomingMessage E.toSipEnv (callbacks E) rawMsg mem now s
    let s₂ := processIncomingMessage E.toSipEnv (callbacks E) rawMsg mem' now' s₁
    s₂.1.calls = s₁.1.calls ∧ s₂.2.contexts = s₁.2.contexts := by
  intro s₁ s₂
  have hsame : SameTables s₁ s₂ := by
    unfold s₂ s₁
    cases hmsg : E.parse rawMsg with
    | none =>
      rw [incoming_none _ _ hmsg, incoming_none _ _ hmsg]
      exact .refl s
    | some msg =>
      rcases incoming_cases E.toSipEnv (callbacks E) hmsg with ⟨-, -, heq⟩ | ⟨-, -, heq⟩ | ⟨-, -, heq⟩ | ⟨-, -, heq⟩ |
        ⟨-, heq⟩
      · rw [heq, heq]
        exact sameTables_handleInvite mem' now' (known_handleInvite msg mem now s)
      · rw [heq, heq]
        exact sameTables_handleBye (lookup_handleBye msg s)
      · rw [heq, heq]
        exact .of_eq (dropCall_of_none (lookup_dropCall _ s))
      · rw [heq, heq]
        exact .refl s
      · rw [heq, heq]
        exact sameTables_handleResponse msg s
  exact ⟨hsame.calls, hsame.contexts⟩

/-! ## Delayed INVITEs -/

/-- **An INVITE that comes again**, at any time: where its call is gone it opens the call anew, connected and with a
context, and where the call is there it changes neither table -/
theorem delayed_invite (E : SessionEnv) (config : ServerConfig) (ops : List SessionOp) (m : Incoming)
    (msg : OsipMessage) (hmsg : E.parse m.rawMsg = some msg) (hinvite : msg.IsInvite) (hid : messageCallId msg ≠ "") :
    let s := exec (step E) (started E config) ops
    let s' := receive E s m
    let x := messageCallId msg
    (s.1.calls.lookup x = none →
        (∃ call, s'.1.calls.lookup x = some call ∧ call.state = .kConnected) ∧ x ∈ s'.2.contexts) ∧
      ((s.1.calls.lookup x).isSome → s'.1.calls = s.1.calls ∧ s'.2.contexts = s.2.contexts) := by
  intro s s' x
  have hcb : s.1.sipEventCb = some .onSipEvent := (run_backed E config ops).callback
  refine ⟨?_, ?_⟩
  · intro hnone
    have hview : view x s' = (view x s).react msg := (changes_incoming hcb hmsg m.mem m.now).view_self
    have hentry : (view x s).entry = none := by rw [view, hnone, Option.map_none]
    have hempty : ¬ ((messageCallId msg).isEmpty = true ∨ (view x s).entry.isSome = true) := by
      simp [hentry, hid]
    rw [← established_iff, hview, CallView.react, if_pos hinvite.1]
    simp only [hinvite.2, if_neg hempty]
    exact ⟨⟨_, rfl, rfl⟩, rfl⟩
  · intro hsome
    have hs' : s' = handleInvite E.toSipEnv (callbacks E) msg m.mem m.now s := by
      exact incoming_invite _ _ hmsg hinvite m.mem m.now s
    have hsame : SameTables s s' := by
      rw [hs']
      exact sameTables_handleInvite m.mem m.now (Or.inr hsome)
    exact ⟨hsame.calls, hsame.contexts⟩

def inviteX : PeerMessage := .request "INVITE" "x"

def byeX : PeerMessage := .request "BYE" "x"

def inviteByeEnv : SessionEnv := .constant "cd" [inviteX, byeX]

theorem parse_inviteX : inviteByeEnv.parse inviteX.text = some inviteX.read :=
  SessionEnv.parse_constant "cd" inviteX [byeX]

theorem parse_byeX : inviteByeEnv.parse byeX.text = some byeX.read := by
  have hne : inviteX.text ≠ byeX.text := by decide +kernel
  exact (SessionEnv.parse_constant_of_ne "cd" hne [byeX]).trans (SessionEnv.parse_constant "cd" byeX [])

/-- a call opened and ended -/
def inviteBye : List SessionOp := [.incoming inviteX.text ⟨0, 0, 0, 0, 0⟩ 1, .incoming byeX.text ⟨0, 0, 0, 0, 0⟩ 2]

theorem delayed_invite_inviteBye :
    let m : Incoming := ⟨inviteX.text, ⟨0, 0, 0, 0, 0⟩, 3⟩
    let s := exec (step inviteByeEnv) (started inviteByeEnv {}) inviteBye
    let s' := receive inviteByeEnv s m
    (s.1.calls.lookup "x" = none →
        (∃ call, s'.1.calls.lookup "x" = some call ∧ call.state = .kConnected) ∧ "x" ∈ s'.2.contexts) ∧
      ((s.1.calls.lookup "x").isSome → s'.1.calls = s.1.calls ∧ s'.2.contexts = s.2.contexts) := by
  intro m
  exact delayed_invite inviteByeEnv {} inviteBye m inviteX.read parse_inviteX ⟨rfl, rfl⟩ (by decide)

/-- **A ghost call**: an INVITE that opened a call comes again after the BYE that ended it -/
theorem delayed_invite_reopens : ¬ ∀ (E : SessionEnv) (config : ServerConfig) (before between after : List SessionOp)
    (invite invite' bye : Incoming) (msg msg' : OsipMessage), E.parse invite.rawMsg = some msg → msg.IsInvite →
    E.parse bye.rawMsg = some msg' → msg'.statusCode = 0 ∧ (msg'.method = some "BYE" ∨ msg'.method = some "CANCEL") →
    messageCallId msg' = messageCallId msg → invite'.rawMsg = invite.rawMsg →
    let x := messageCallId msg
    let s₁ := exec (step E) (started E config) before
    let s₂ := exec (step E) (receive E s₁ invite) between
    let s₃ := exec (step E) (receive E s₂ bye) after
    s₁.1.calls.lookup x = none ∧ ((receive E s₁ invite).1.calls.lookup x).isSome →
    (s₂.1.calls.lookup x).isSome ∧ (receive E s₂ bye).1.calls.lookup x = none →
    s₃.1.calls.lookup x = none → (receive E s₃ invite').1.calls.lookup x = none := by
  intro h
  set invite : Incoming := ⟨inviteX.text, ⟨0, 0, 0, 0, 0⟩, 1⟩
  set bye : Incoming := ⟨byeX.text, ⟨0, 0, 0, 0, 0⟩, 2⟩
  have hgone := h inviteByeEnv {} [] [] [] invite invite bye inviteX.read byeX.read parse_inviteX ⟨rfl, rfl⟩ parse_byeX
    ⟨rfl, Or.inl rfl⟩ rfl rfl ⟨by decide +kernel, by decide +kernel⟩ ⟨by decide +kernel, by decide +kernel⟩
    (by decide +kernel)
  revert hgone
  decide +kernel

end SessionManager

end Rtcom
