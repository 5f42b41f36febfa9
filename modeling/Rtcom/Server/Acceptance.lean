/-
What a 200 to an INVITE says about the call. The SIP manager opens the call, the session manager its context, and the
main loop answers; nothing is handed from one to the other. An INVITE for a call that is there changes nothing, in
whatever state the call is, and is answered all the same.

The runs are those of the server with any operations of the application between the turns of the main loop.

- `ok_means_established_iff`: where the 200 is sent, the call is connected and has a context, exactly if the INVITE
  found no call, or one that is connected.
- `failed_call_accepted`: a call that a 486 brought to kFailed is accepted when its INVITE comes again.
-/
import Mathlib.Tactic
import Rtcom.Server.Answers

namespace Rtcom

open Runs SipManager SessionManager

namespace MainLoop

variable (E : SessionEnv)

/-! ## Runs of the server -/

inductive ServerEvent where
  | turn (e : LoopEvent)
  | operation (o : SessionOp)

def serverStep (s : SessionManager) : ServerEvent → SessionManager
  | .turn e => step E s e
  | .operation o => SessionManager.step E s o

variable {E}

theorem serverStep_backed (s : SessionManager) (e : ServerEvent) (h : Backed s) : Backed (serverStep E s e) := by
  cases e with
  | turn e => exact (step_steps s e h).backed h
  | operation o => exact step_backed E s o h

variable (E) in
theorem server_backed (config : ServerConfig) (events : List ServerEvent) :
    Backed (exec (serverStep E) (init E config) events) :=
  exec_preserves serverStep_backed (init_matched E config).backed events

/-! ## An INVITE and its call -/

/-- the SDP of a datagram changes no view -/
theorem view_applySdp (rawMsg : String) (s : SessionManager) (x : String) :
    view x (applySdp rawMsg s) = view x s := by
  unfold applySdp
  cases sdpRequest rawMsg with
  | none => rfl
  | some req =>
    refine view_ext ?_ Iff.rfl
    rcases processIncomingSdp_cases req.1 req.2 s.1 with heq | ⟨call, sess, hl, heq⟩
    · simp only [heq]
    · simp only [heq, lookup_putCall]
      split_ifs with hx
      · rw [hx, hl]
        rfl
      · rfl

/-- after an INVITE a call is established if there was none, or if it was -/
theorem established_react_invite {msg : OsipMessage} (hinvite : msg.IsInvite) (hid : messageCallId msg ≠ "")
    (v : CallView) : (v.react msg).Established ↔ v.entry = none ∨ v.Established := by
  have hreact : v.react msg = if v.entry.isSome then v else v.store ⟨.kConnected, "", "sip:" ++ remoteOf msg⟩ := by
    rw [CallView.react, if_pos hinvite.1]
    simp only [hinvite.2, String.isEmpty_iff, hid, false_or]
  rw [hreact]
  cases hentry : v.entry with
  | none =>
    simp only [Option.isSome_none, Bool.false_eq_true, if_false, true_or, iff_true]
    exact ⟨⟨_, rfl, rfl⟩, rfl⟩
  | some status => simp only [Option.isSome_some, if_true, reduceCtorEq, false_or]

/-- a call that is connected is established -/
theorem established_iff_connected {s : SessionManager} (h : Backed s) (x : String) :
    (view x s).Established ↔ callState x s = some .kConnected := by
  rw [established_iff, callState, Option.map_eq_some_iff]
  refine ⟨And.left, fun hconnected => ⟨hconnected, ?_⟩⟩
  obtain ⟨call, hl, hst⟩ := hconnected
  exact h.mem_of_connected hl hst

/-- the call an INVITE is for, when it is answered -/
theorem established_received {rawMsg : String} {msg : OsipMessage} (hmsg : E.parse rawMsg = some msg)
    (hinvite : msg.IsInvite) (hid : messageCallId msg ≠ "") (mem : Uninit) (now : ℕ) {s : SessionManager}
    (h : Backed s) :
    (view (messageCallId msg) (received E rawMsg mem now s)).Established ↔
      callState (messageCallId msg) s = none ∨ callState (messageCallId msg) s = some .kConnected := by
  have hentry : (view (messageCallId msg) s).entry = none ↔ callState (messageCallId msg) s = none := by
    rw [view, callState, Option.map_eq_none_iff, Option.map_eq_none_iff]
  rw [received, view_applySdp, (changes_incoming h.callback hmsg mem now).view_self,
    established_react_invite hinvite hid, hentry, established_iff_connected h]

/-! ## The answer -/

theorem statusCode_inviteResponse (m : SipManager EventCallback) (statusCode : ℤ) (reason sdp : String) :
    (inviteResponse E.toSipEnv statusCode reason sdp m).1.statusCode = statusCode := by
  rw [inviteResponse_run]

/-- an INVITE is answered with 200, whatever the state -/
theorem answered_ok {rawMsg : String} (htext : contains rawMsg "INVITE" = true) (m : SipManager EventCallback) :
    ∃ r ∈ answers E rawMsg m, r.statusCode = 200 := by
  rw [answers_of_invite htext]
  refine ⟨_, List.mem_append_left _ (List.mem_cons_of_mem _ List.mem_cons_self), ?_⟩
  exact statusCode_inviteResponse _ _ _ _

variable (E) in
/-- a datagram is answered with 200 only if the call is connected and has a context when it is answered -/
def OkMeansEstablished (x rawMsg : String) (mem : Uninit) (now : ℕ) (s : SessionManager) : Prop :=
  let s' := received E rawMsg mem now s
  (∃ r ∈ answers E rawMsg s'.1, r.statusCode = 200) → callState x s' = some .kConnected ∧ x ∈ s'.2.contexts

/-! ### A call that failed -/

def inviteCall : PeerMessage := .request "INVITE" "1-153349"

theorem contains_inviteCall : contains inviteCall.text "INVITE" = true := contains_request (by decide) _

/-- a 486 for the same call -/
def busyCall : PeerMessage := .response 486 "Busy Here" "INVITE" "1-153349"

def busyEnv : SessionEnv := .constant "ef" [inviteCall, busyCall]

theorem parse_inviteCall : busyEnv.parse inviteCall.text = some inviteCall.read :=
  SessionEnv.parse_constant "ef" inviteCall [busyCall]

/-- **A 200 is the answer for an established call**, in every reachable state of the server, exactly if its INVITE
arrives when there is no entry for the call, or the call is connected -/
theorem ok_means_established_iff (E : SessionEnv) (config : ServerConfig) (events : List ServerEvent) (rawMsg : String)
    (mem : Uninit) (now : ℕ) (msg : OsipMessage) (htext : contains rawMsg "INVITE" = true)
    (hmsg : E.parse rawMsg = some msg) (hinvite : msg.IsInvite) (hid : messageCallId msg ≠ "") :
    let s := exec (serverStep E) (init E config) events
    OkMeansEstablished E (messageCallId msg) rawMsg mem now s ↔
      callState (messageCallId msg) s = none ∨ callState (messageCallId msg) s = some .kConnected := by
  intro s
  have hreceived := established_received hmsg hinvite hid mem now (server_backed E config events)
  rw [established_iff] at hreceived
  rw [OkMeansEstablished, ← hreceived, callState, Option.map_eq_some_iff]
  exact ⟨fun h => h (answered_ok htext _), fun h _ => h⟩

theorem ok_means_established_iff_first :
    let s := exec (serverStep busyEnv) (init busyEnv {}) []
    OkMeansEstablished busyEnv "1-153349" inviteCall.text ⟨0, 0, 0, 0, 0⟩ 0 s ↔
      callState "1-153349" s = none ∨ callState "1-153349" s = some .kConnected :=
  ok_means_established_iff busyEnv {} [] inviteCall.text ⟨0, 0, 0, 0, 0⟩ 0 inviteCall.read contains_inviteCall
    parse_inviteCall ⟨rfl, rfl⟩ (by decide)

/-- **A call that failed is accepted** when its INVITE comes again after a 486 -/
theorem failed_call_accepted : ¬ ∀ (E : SessionEnv) (config : ServerConfig) (events : List ServerEvent)
    (rawMsg : String) (mem : Uninit) (now : ℕ) (msg : OsipMessage), contains rawMsg "INVITE" = true →
    E.parse rawMsg = some msg → msg.IsInvite → messageCallId msg ≠ "" →
    OkMeansEstablished E (messageCallId msg) rawMsg mem now (exec (serverStep E) (init E config) events) := by
  intro h
  set events : List ServerEvent :=
    [.turn (.datagram inviteCall.text ⟨0, 0, 0, 0, 0⟩ 1), .turn (.datagram busyCall.text ⟨0, 0, 0, 0, 0⟩ 2)]
  have hok := h busyEnv {} events inviteCall.text ⟨0, 0, 0, 0, 0⟩ 3 inviteCall.read contains_inviteCall
    parse_inviteCall ⟨rfl, rfl⟩ (by decide)
  have hfailed : callState (messageCallId inviteCall.read) (received busyEnv inviteCall.text ⟨0, 0, 0, 0, 0⟩ 3
      (exec (serverStep busyEnv) (init busyEnv {}) events)) = some .kFailed := by
    decide +kernel
  have hconnected := (hok (answered_ok contains_inviteCall _)).1
  rw [hfailed] at hconnected
  exact absurd hconnected (by decide)

end MainLoop

end Rtcom
