/-
Incoming messages and calls. What is seen of a call (`CallView`) is its entry, without the session info and the timer,
and whether it has a context. `react` says what a message makes of the view of its own call; it depends on that view and
the message alone, though the handlers also use the headers kept of the last INVITE, the CSeq counter and the random
generator.

`Changes s s' id v`: from s to s' the view of one call becomes v and all others stay. Every handler is such a change
(`changes_incoming`), which makes the session manager a machine without interference between calls (`receive_local`).

- `calls_do_not_interfere`: in every interleaving of message sequences, one for each call, every call ends as if its own
  messages had come alone, and messages of different calls commute.
- `established_call_kept_iff`: of the messages that are not a BYE for it, those that end an established call are its
  CANCEL and its responses from 300 on.
-/
import Mathlib.Tactic
import Rtcom.Lib.Interleave
import Rtcom.Session.Contexts

namespace Rtcom

open Runs Interleave SipManager

/-! ## Views -/

structure CallStatus where
  state : SipCallState
  lastError : String
  remoteUri : String
deriving DecidableEq, Repr

@[ext]
structure CallView where
  entry : Option CallStatus
  hasContext : Bool
deriving DecidableEq, Repr

def SipCall.status (call : SipCall) : CallStatus := ⟨call.state, call.lastError, call.remoteUri⟩

theorem SipCall.status_setState (call : SipCall) (state : SipCallState) :
    (call.setState state).status = { call.status with state := state } := by
  rw [status, state_setState]
  unfold setState
  split_ifs <;> rfl

theorem SipCall.status_setError (call : SipCall) (error : String) :
    (call.setError error).status = { call.status with lastError := error } := rfl

def OsipMessage.IsBye (msg : OsipMessage) : Prop := msg.statusCode = 0 ∧ msg.method = some "BYE"

/-- what ends an established call, apart from a BYE -/
def OsipMessage.EndsEstablished (msg : OsipMessage) : Prop :=
  msg.statusCode = 0 ∧ msg.method = some "CANCEL" ∨ msg.statusCode ≥ 300

namespace CallView

/-- whether a call has a context after a report -/
def contextAfter (hasContext : Bool) : SipCallState → Bool
  | .kConnected => true
  | .kDisconnected | .kFailed => false
  | _ => hasContext

/-- the call is stored in a state and reported -/
def store (v : CallView) (status : CallStatus) : CallView := ⟨some status, contextAfter v.hasContext status.state⟩

/-- what a message makes of the view of its call -/
def react (msg : OsipMessage) (v : CallView) : CallView :=
  if msg.statusCode = 0 then
    match msg.method with
    | some "INVITE" =>
      if (messageCallId msg).isEmpty ∨ v.entry.isSome then v
      else v.store ⟨.kConnected, "", "sip:" ++ remoteOf msg⟩
    | some "BYE" | some "CANCEL" => if v.entry.isSome then ⟨none, false⟩ else v
    | _ => v
  else
    match v.entry with
    | none => v
    | some status =>
      if 200 ≤ msg.statusCode ∧ msg.statusCode < 300 then
        if status.state = .kCalling then v.store { status with state := .kConnected }
        else if status.state = .kDisconnecting then ⟨none, false⟩
        else v
      else if msg.statusCode ≥ 300 then
        v.store { status with state := .kFailed, lastError := "SIP " ++ toString msg.statusCode }
      else v

/-! ### Established calls -/

/-- the call is connected and has its context -/
def Established (v : CallView) : Prop := (∃ status, v.entry = some status ∧ status.state = .kConnected) ∧ v.hasContext

theorem not_established_of_none : ¬ (⟨none, false⟩ : CallView).Established := by
  intro hsame
  rcases hsame with ⟨-, hctx⟩
  exact Bool.false_ne_true hctx

theorem not_established_of_failed (v : CallView) {status : CallStatus} (hst : status.state = .kFailed) :
    ¬ (v.store status).Established := by
  intro hsame
  rcases hsame with ⟨-, hctx⟩
  rw [store, hst] at hctx
  exact Bool.false_ne_true hctx

/-- a message that is not a BYE, at an established call -/
theorem react_established_iff {v : CallView} (hv : v.Established) {msg : OsipMessage} (hbye : ¬ msg.IsBye) :
    (v.react msg).Established ↔ ¬ msg.EndsEstablished := by
  obtain ⟨⟨status, hentry, hst⟩, -⟩ := id hv
  have hsome : v.entry.isSome = true := by rw [hentry]; rfl
  by_cases hrequest : msg.statusCode = 0
  · have hends : msg.EndsEstablished ↔ msg.method = some "CANCEL" := by
      simp [OsipMessage.EndsEstablished, hrequest]
    rw [hends, react, if_pos hrequest]
    split
    · next hmethod => simpa [hsome, hmethod] using hv
    · next hmethod => exact absurd ⟨hrequest, hmethod⟩ hbye
    · next hmethod => simpa [hsome, hmethod] using not_established_of_none
    · next hcancel => simpa [show msg.method ≠ some "CANCEL" from hcancel] using hv
  · have hends : msg.EndsEstablished ↔ msg.statusCode ≥ 300 := by
      simp [OsipMessage.EndsEstablished, hrequest]
    rw [hends, react, if_neg hrequest, hentry]
    by_cases hfinal : msg.statusCode ≥ 300
    · have hnot2xx : ¬ (200 ≤ msg.statusCode ∧ msg.statusCode < 300) := by omega
      simp only [if_neg hnot2xx, hfinal, if_true, not_true_eq_false, iff_false]
      exact not_established_of_failed v rfl
    · -- a success finds the call answered already
      simp only [hst, reduceCtorEq, hfinal, if_false, ite_self, not_false_eq_true, iff_true]
      exact hv

end CallView

namespace SessionManager

variable (E : SessionEnv)

def view (id : String) (s : SessionManager) : CallView where
  entry := (s.1.calls.lookup id).map SipCall.status
  hasContext := (s.2.contexts.lookup id).isSome

/-! ## Changes of one view -/

/-- the callback stays, the view of one call becomes v, the others stay -/
def Changes (s s' : SessionManager) (id : String) (v : CallView) : Prop :=
  s'.1.sipEventCb = some .onSipEvent ∧ ∀ x, view x s' = if x = id then v else view x s

variable {E} {s s' s'' : SessionManager} {id : String} {v v' : CallView}

theorem Changes.refl (hcb : s.1.sipEventCb = some .onSipEvent) : Changes s s id (view id s) := by
  refine ⟨hcb, fun x => ?_⟩
  split_ifs with hx
  · rw [hx]
  · rfl

theorem Changes.trans (h : Changes s s' id v) (h' : Changes s' s'' id v') : Changes s s'' id v' := by
  refine ⟨h'.1, fun x => ?_⟩
  rw [h'.2, h.2]
  split_ifs <;> rfl

theorem Changes.view_self (h : Changes s s' id v) : view id s' = v := by
  rw [h.2, if_pos rfl]

/-- a change outside of calls, callback and contexts before it -/
theorem Changes.of_frame {m : SipManager EventCallback} (hm : m.calls = s.1.calls)
    (h : Changes (m, s.2) s' id v) : Changes s s' id v := by
  refine ⟨h.1, fun x => ?_⟩
  rw [h.2]
  simp only [view, hm]

theorem hasContext_iff (id : String) (s : SessionManager) : (view id s).hasContext ↔ id ∈ s.2.contexts := by
  show (s.2.contexts.lookup id).isSome ↔ _
  exact AList.lookup_isSome

theorem view_ext {x : String}
    (hcalls : (s'.1.calls.lookup x).map SipCall.status = (s.1.calls.lookup x).map SipCall.status)
    (hctx : x ∈ s'.2.contexts ↔ x ∈ s.2.contexts) : view x s' = view x s := by
  have hcontext : (view x s').hasContext = (view x s).hasContext :=
    Bool.eq_iff_iff.2 (((hasContext_iff x s').trans hctx).trans (hasContext_iff x s).symm)
  rw [view, hcalls]
  exact congrArg (CallView.mk _) hcontext

/-- storing a call and reporting its state -/
theorem changes_report (hcb : s.1.sipEventCb = some .onSipEvent) (id : String) (call : SipCall) :
    Changes s (notifyStateChange (callbacks E) id call.state (s.1.putCall id call, s.2)) id
      ((view id s).store call.status) := by
  have hput : (s.1.putCall id call).sipEventCb = some .onSipEvent := hcb
  simp only [notifyStateChange, hput, callbacks]
  obtain ⟨h1, -, h3⟩ := onSipEvent_spec E id call.state (s.1.putCall id call, s.2) (by simp [entry_putCall])
  have hcalls := map_lookup_onSipEvent E SipCall.status (fun _ _ _ => rfl) id call.state (s.1.putCall id call, s.2)
  simp only [lookup_putCall] at hcalls
  refine ⟨h1.trans hcb, fun x => ?_⟩
  split_ifs with hx
  · subst hx
    have hentry : (view x (onSipEvent E x call.state (s.1.putCall x call, s.2))).entry = some call.status := by
      rw [view, hcalls, if_pos rfl, Option.map_some]
    have hcontext : (view x (onSipEvent E x call.state (s.1.putCall x call, s.2))).hasContext =
        CallView.contextAfter (view x s).hasContext call.state := by
      rw [Bool.eq_iff_iff, hasContext_iff, h3]
      cases call.state <;> simp [contextsAfter, CallView.contextAfter, hasContext_iff]
    exact CallView.ext hentry hcontext
  · refine view_ext ?_ ?_
    · rw [hcalls, if_neg hx]
    · rw [h3]
      cases call.state <;> simp [contextsAfter, hx]

theorem changes_erase (hcb : s.1.sipEventCb = some .onSipEvent) (id : String) :
    Changes s (s.1.eraseCall id, s.2) id ⟨none, (view id s).hasContext⟩ := by
  refine ⟨hcb, fun x => ?_⟩
  split_ifs with hx
  · subst hx
    simp only [view, lookup_eraseCall, if_pos, Option.map_none]
  · simp only [view, lookup_eraseCall, if_neg hx]

/-! ## Handlers -/

/-- a stored call enters a state -/
theorem changes_enter (hcb : s.1.sipEventCb = some .onSipEvent) {m : SipManager EventCallback}
    (hm : BuilderFrame s.1 m) {call : SipCall} (st : SipCallState) :
    Changes s (notifyStateChange (callbacks E) id st (m.putCall id (call.setState st), s.2)) id
      ((view id s).store { call.status with state := st }) := by
  have hreport := changes_report (E := E) (s := (m, s.2)) (hm.sipEventCb.trans hcb) id (call.setState st)
  rw [SipCall.state_setState, SipCall.status_setState] at hreport
  have hview : view id (m, s.2) = view id s := view_ext (by rw [hm.calls]) Iff.rfl
  rw [hview] at hreport
  exact hreport.of_frame hm.calls

/-- a stored call is disconnected, reported and erased -/
theorem changes_terminate (hcb : s.1.sipEventCb = some .onSipEvent) (call : SipCall) :
    let s' := notifyStateChange (callbacks E) id .kDisconnected (s.1.putCall id (call.setState .kDisconnected), s.2)
    Changes s (s'.1.eraseCall id, s'.2) id ⟨none, false⟩ := by
  intro s'
  have henter : Changes s s' id ((view id s).store { call.status with state := .kDisconnected }) :=
    changes_enter hcb (.refl s.1) .kDisconnected
  have herase := changes_erase henter.1 id
  rw [henter.view_self] at herase
  exact henter.trans herase

theorem changes_dropCall (hcb : s.1.sipEventCb = some .onSipEvent) (id : String) :
    Changes s (dropCall (callbacks E) id s) id
      (if (view id s).entry.isSome then ⟨none, false⟩ else view id s) := by
  unfold dropCall
  cases hl : s.1.calls.lookup id with
  | none =>
    have hentry : (view id s).entry = none := by rw [view, hl, Option.map_none]
    rw [hentry]
    exact .refl hcb
  | some call =>
    have hentry : (view id s).entry = some call.status := by rw [view, hl, Option.map_some]
    rw [hentry]
    exact changes_terminate hcb call

theorem changes_handleBye (hcb : s.1.sipEventCb = some .onSipEvent) (msg : OsipMessage) :
    Changes s (handleBye E.toSipEnv (callbacks E) msg s) (messageCallId msg)
      (if (view (messageCallId msg) s).entry.isSome then ⟨none, false⟩ else view (messageCallId msg) s) := by
  unfold handleBye
  have hdrop := changes_dropCall (E := E) hcb (messageCallId msg)
  have hframe := buildResponse_frame E.toSipEnv (dropCall (callbacks E) (messageCallId msg) s).1 200 "OK" ""
  refine ⟨hframe.sipEventCb.trans hdrop.1, fun x => ?_⟩
  rw [← hdrop.2 x]
  exact view_ext (by rw [hframe.calls]) Iff.rfl

theorem changes_handleInvite (hcb : s.1.sipEventCb = some .onSipEvent) (msg : OsipMessage) (mem : Uninit) (now : ℕ) :
    Changes s (handleInvite E.toSipEnv (callbacks E) msg mem now s) (messageCallId msg)
      (if (messageCallId msg).isEmpty ∨ (view (messageCallId msg) s).entry.isSome then view (messageCallId msg) s
        else (view (messageCallId msg) s).store ⟨.kConnected, "", "sip:" ++ remoteOf msg⟩) := by
  have hsome : (view (messageCallId msg) s).entry.isSome = (s.1.calls.lookup (messageCallId msg)).isSome :=
    Option.isSome_map
  rw [hsome]
  split_ifs with hknown
  · obtain ⟨m, hcalls, hcb', heq, -⟩ := handleInvite_known E.toSipEnv (callbacks E) msg mem now s hknown
    have hview : view (messageCallId msg) (m, s.2) = view (messageCallId msg) s :=
      view_ext (by rw [hcalls]) Iff.rfl
    rw [heq, ← hview]
    exact Changes.of_frame hcalls (.refl (hcb'.trans hcb))
  · obtain ⟨m, hframe, heq⟩ := handleInvite_opens (E := E) hcb msg mem now hknown
    have hcall : (ringingCall s.1.config msg mem now).status = ⟨.kRinging, "", "sip:" ++ remoteOf msg⟩ :=
      SipCall.status_setState _ .kRinging
    -- the headers kept are not part of any view
    have hcalls : m.calls = s.1.calls := hframe.calls
    have hview : view (messageCallId msg) (m, s.2) = view (messageCallId msg) s :=
      view_ext (by rw [hcalls]) Iff.rfl
    have hreport := changes_report (E := E) (s := (m, s.2)) (hframe.sipEventCb.trans hcb) (messageCallId msg)
      ((ringingCall s.1.config msg mem now).setState .kConnected)
    rw [SipCall.state_setState, SipCall.status_setState, hcall, hview] at hreport
    rw [heq]
    exact hreport.of_frame hcalls

theorem changes_handleResponse (hcb : s.1.sipEventCb = some .onSipEvent) (msg : OsipMessage)
    (hresponse : msg.statusCode ≠ 0) :
    Changes s (handleResponse E.toSipEnv (callbacks E) msg s) (messageCallId msg)
      ((view (messageCallId msg) s).react msg) := by
  rw [handleResponse, CallView.react, if_neg hresponse]
  set id := messageCallId msg
  cases hl : s.1.calls.lookup id with
  | none =>
    have hentry : (view id s).entry = none := by rw [view, hl, Option.map_none]
    rw [hentry]
    exact .refl hcb
  | some call =>
    have hentry : (view id s).entry = some call.status := by rw [view, hl, Option.map_some]
    have hstate : call.status.state = call.state := rfl
    simp only [hentry, hstate]
    split_ifs
    · exact changes_enter hcb (buildInDialogRequest_frame _ _ _ _) .kConnected
    · exact changes_terminate hcb call
    · exact .refl hcb
    · -- a final failure: the error text is stored with the state
      have hreport := changes_report (E := E) hcb id
        ((call.setState .kFailed).setError ("SIP " ++ toString msg.statusCode))
      have hfailed : ((call.setState .kFailed).setError ("SIP " ++ toString msg.statusCode)).state = .kFailed :=
        SipCall.state_setState call .kFailed
      rwa [hfailed, SipCall.status_setError, SipCall.status_setState] at hreport
    · exact .refl hcb

/-- **One message** changes the view of its call as `react` says, and no other -/
theorem changes_incoming (hcb : s.1.sipEventCb = some .onSipEvent) {rawMsg : String} {msg : OsipMessage}
    (hmsg : E.parse rawMsg = some msg) (mem : Uninit) (now : ℕ) :
    Changes s (processIncomingMessage E.toSipEnv (callbacks E) rawMsg mem now s) (messageCallId msg)
      ((view (messageCallId msg) s).react msg) := by
  rcases incoming_cases E.toSipEnv (callbacks E) hmsg with ⟨hrequest, hmethod, heq⟩ |
    ⟨hrequest, hmethod, heq⟩ | ⟨hrequest, hmethod, heq⟩ | ⟨hrequest, ⟨hinvite, hbye, hcancel⟩, heq⟩ | ⟨hresponse, heq⟩
  · rw [heq, CallView.react, if_pos hrequest]
    simp only [hmethod]
    exact changes_handleInvite hcb msg mem now
  · rw [heq, CallView.react, if_pos hrequest]
    simp only [hmethod]
    exact changes_handleBye hcb msg
  · rw [heq, CallView.react, if_pos hrequest]
    simp only [hmethod]
    exact changes_dropCall hcb (messageCallId msg)
  · rw [heq, CallView.react, if_pos hrequest]
    simp only
    exact .refl hcb
  · rw [heq]
    exact changes_handleResponse hcb msg hresponse

/-! ## Interleavings -/

/-- a message, with the memory and the clock at its arrival -/
structure Incoming where
  rawMsg : String
  mem : Uninit
  now : ℕ
deriving DecidableEq, Repr

variable (E)

def receive (s : SessionManager) (m : Incoming) : SessionManager :=
  processIncomingMessage E.toSipEnv (callbacks E) m.rawMsg m.mem m.now s

/-- the Call-ID of a message, empty where there is none -/
def callIdOf (m : Incoming) : String := ((E.parse m.rawMsg).map messageCallId).getD ""

def reactTo (m : Incoming) (v : CallView) : CallView := ((E.parse m.rawMsg).map v.react).getD v

theorem changes_receive (hcb : s.1.sipEventCb = some .onSipEvent) (m : Incoming) :
    Changes s (receive E s m) (callIdOf E m) (reactTo E m (view (callIdOf E m) s)) := by
  rw [receive, callIdOf, reactTo]
  cases hmsg : E.parse m.rawMsg with
  | none =>
    rw [incoming_none _ _ hmsg]
    exact .refl hcb
  | some msg => exact changes_incoming hcb hmsg m.mem m.now

theorem receive_local :
    Local (fun s : SessionManager => s.1.sipEventCb = some .onSipEvent) (receive E) (callIdOf E) view (reactTo E) where
  invariant := fun _ m hcb => (changes_receive E hcb m).1
  view_step := by
    intro s m id hcb
    rw [(changes_receive E hcb m).2 id]
    by_cases hid : id = callIdOf E m
    · rw [if_pos hid, if_pos hid.symm, hid]
    · rw [if_neg hid, if_neg fun h => hid h.symm]

/-- **Calls do not interfere**: whatever messages of others come in between, a call ends as if its own had come alone,
and messages of different calls commute -/
theorem calls_do_not_interfere (s : SessionManager) (hcb : s.1.sipEventCb = some .onSipEvent)
    (seqs : String → List Incoming) (hseqs : ∀ id, ∀ m ∈ seqs id, callIdOf E m = id) (all : List Incoming)
    (hall : Interleaving seqs all) (id : String) :
    view id (exec (receive E) s all) = view id (exec (receive E) s (seqs id)) ∧
      ∀ m₁ m₂, callIdOf E m₁ ≠ callIdOf E m₂ →
        view id (receive E (receive E s m₁) m₂) = view id (receive E (receive E s m₂) m₁) :=
  ⟨(receive_local E).view_interleaving hcb hall hseqs id, fun _ _ hne => (receive_local E).view_comm hcb hne id⟩

def inviteA : PeerMessage := .request "INVITE" "a"

def inviteB : PeerMessage := .request "INVITE" "b"

def inviteEnv : SessionEnv := .constant "ab" [inviteA, inviteB]

/-- two calls, of two INVITEs and one -/
def inviteSeqs (id : String) : List Incoming :=
  if id = "a" then [⟨inviteA.text, ⟨0, 0, 0, 0, 0⟩, 1⟩, ⟨inviteA.text, ⟨0, 0, 0, 0, 0⟩, 3⟩]
  else if id = "b" then [⟨inviteB.text, ⟨0, 0, 0, 0, 0⟩, 2⟩]
  else []

theorem calls_do_not_interfere_invites :
    let all := [⟨inviteA.text, ⟨0, 0, 0, 0, 0⟩, 1⟩, ⟨inviteB.text, ⟨0, 0, 0, 0, 0⟩, 2⟩,
      ⟨inviteA.text, ⟨0, 0, 0, 0, 0⟩, 3⟩]
    view "a" (exec (receive inviteEnv) (started inviteEnv {}) all) =
        view "a" (exec (receive inviteEnv) (started inviteEnv {}) (inviteSeqs "a")) ∧
      ∀ m₁ m₂, callIdOf inviteEnv m₁ ≠ callIdOf inviteEnv m₂ →
        view "a" (receive inviteEnv (receive inviteEnv (started inviteEnv {}) m₁) m₂) =
          view "a" (receive inviteEnv (receive inviteEnv (started inviteEnv {}) m₂) m₁) := by
  intro all
  have hseqs : ∀ id, ∀ m ∈ inviteSeqs id, callIdOf inviteEnv m = id := by
    intro id m hm
    unfold inviteSeqs at hm
    split_ifs at hm with ha hb
    · subst ha
      revert m
      decide +kernel
    · subst hb
      revert m
      decide +kernel
    · exact absurd hm List.not_mem_nil
  have hall : Interleaving inviteSeqs all := by
    refine .cons (i := "a") rfl (.cons (i := "b") rfl (.cons (i := "a") rfl (.nil fun id => ?_)))
    simp only [Function.update_apply, inviteSeqs]
    split_ifs <;> rfl
  exact calls_do_not_interfere inviteEnv (started inviteEnv {}) rfl inviteSeqs hseqs all hall "a"

/-! ## Established calls -/

theorem established_iff (id : String) (s : SessionManager) : (view id s).Established ↔
    (∃ call, s.1.calls.lookup id = some call ∧ call.state = .kConnected) ∧ id ∈ s.2.contexts := by
  rw [CallView.Established, hasContext_iff, view]
  simp only [Option.map_eq_some_iff, exists_exists_and_eq_and, SipCall.status]

/-- **An established call** and a message that is not a BYE for it, in every reachable state: the call stays connected
and keeps its context exactly when the message is neither a CANCEL for it nor a response for it from 300 on -/
theorem established_call_kept_iff (config : ServerConfig) (ops : List SessionOp) (id : String) (call : SipCall)
    (hl : (exec (step E) (started E config) ops).1.calls.lookup id = some call) (hst : call.state = .kConnected)
    (m : Incoming) (hbye : ∀ msg, E.parse m.rawMsg = some msg → messageCallId msg = id → ¬ msg.IsBye) :
    let s' := receive E (exec (step E) (started E config) ops) m
    (∃ call', s'.1.calls.lookup id = some call' ∧ call'.state = .kConnected) ∧ id ∈ s'.2.contexts ↔
      ∀ msg, E.parse m.rawMsg = some msg → messageCallId msg = id → ¬ msg.EndsEstablished := by
  intro s'
  have hbacked : Backed (exec (step E) (started E config) ops) := run_backed E config ops
  have hest : (view id (exec (step E) (started E config) ops)).Established :=
    (established_iff id _).2 ⟨⟨call, hl, hst⟩, hbacked.mem_of_connected hl hst⟩
  have hchange := changes_receive E hbacked.callback m
  rw [← established_iff, hchange.2, reactTo]
  cases hmsg : E.parse m.rawMsg with
  | none =>
    rw [Option.map_none, Option.getD_none]
    have hsame : (if id = callIdOf E m then view (callIdOf E m) (exec (step E) (started E config) ops)
        else view id (exec (step E) (started E config) ops)) = view id (exec (step E) (started E config) ops) := by
      split_ifs with hid
      · rw [← hid]
      · rfl
    simp [hsame, hest]
  | some msg =>
    have hid : callIdOf E m = messageCallId msg := by rw [callIdOf, hmsg]; rfl
    rw [hid, Option.map_some, Option.getD_some]
    by_cases heq : messageCallId msg = id
    · subst heq
      rw [if_pos rfl, CallView.react_established_iff hest (hbye msg hmsg rfl)]
      simp
    · rw [if_neg fun h => heq h.symm]
      simp [heq, hest]

/-- a CANCEL for the call placed first -/
def cancel : PeerMessage := .request "CANCEL" "ab-ab"

def cancelEnv : SessionEnv := .constant "ab" [cancel]

theorem parse_cancel : cancelEnv.parse cancel.text = some cancel.read := SessionEnv.parse_constant "ab" cancel []

theorem not_bye_cancel {msg : OsipMessage} (hmsg : cancelEnv.parse cancel.text = some msg) : ¬ msg.IsBye := by
  obtain rfl := Option.some.inj (parse_cancel.symm.trans hmsg)
  exact fun hbye => absurd hbye.2 (by decide)

/-- a call placed and answered -/
def answeredCall : List SessionOp :=
  [.makeCall "sip:bob@example.com" ⟨0, 0, 0, 0, 0⟩ 0, .answerCall "ab-ab" true]

theorem answeredCall_connected : ∃ call,
    (exec (step cancelEnv) (started cancelEnv {}) answeredCall).1.calls.lookup "ab-ab" = some call ∧
      call.state = .kConnected := by
  have hany : ((exec (step cancelEnv) (started cancelEnv {}) answeredCall).1.calls.lookup "ab-ab").any
      (fun call => call.state = .kConnected) = true := by decide +kernel
  simpa [Option.any_eq_true] using hany

/-- a CANCEL that comes after the answer -/
theorem established_call_kept_iff_lateCancel :
    let m : Incoming := ⟨cancel.text, ⟨0, 0, 0, 0, 0⟩, 0⟩
    let s' := receive cancelEnv (exec (step cancelEnv) (started cancelEnv {}) answeredCall) m
    (∃ call', s'.1.calls.lookup "ab-ab" = some call' ∧ call'.state = .kConnected) ∧ "ab-ab" ∈ s'.2.contexts ↔
      ∀ msg, cancelEnv.parse m.rawMsg = some msg → messageCallId msg = "ab-ab" → ¬ msg.EndsEstablished := by
  intro m
  obtain ⟨call, hl, hst⟩ := answeredCall_connected
  exact established_call_kept_iff cancelEnv {} answeredCall "ab-ab" call hl hst m fun _ hmsg _ => not_bye_cancel hmsg

/-- **A late CANCEL** removes the established call -/
theorem lateCancel_ends_call : ¬ ∀ (E : SessionEnv) (config : ServerConfig) (ops : List SessionOp)
    (id : String) (call : SipCall), (exec (step E) (started E config) ops).1.calls.lookup id = some call →
    call.state = .kConnected →
    ∀ m : Incoming, (∀ msg, E.parse m.rawMsg = some msg → messageCallId msg = id → ¬ msg.IsBye) →
    let s' := receive E (exec (step E) (started E config) ops) m
    (∃ call', s'.1.calls.lookup id = some call' ∧ call'.state = .kConnected) ∧ id ∈ s'.2.contexts := by
  intro h
  obtain ⟨call, hl, hst⟩ := answeredCall_connected
  obtain ⟨⟨call', hl', -⟩, -⟩ := h cancelEnv {} answeredCall "ab-ab" call hl hst ⟨cancel.text, ⟨0, 0, 0, 0, 0⟩, 0⟩
    fun _ hmsg _ => not_bye_cancel hmsg
  have hnone : (receive cancelEnv (exec (step cancelEnv) (started cancelEnv {}) answeredCall)
      ⟨cancel.text, ⟨0, 0, 0, 0, 0⟩, 0⟩).1.calls.lookup "ab-ab" = none := by decide +kernel
  rw [hnone] at hl'
  cases hl'

end SessionManager

end Rtcom
