/-
The call table as a product of machines. `CallInput.react` is one call alone: its entry, without the session info, and
what each input makes of it. An operation of the manager is for each id a sequence of such inputs (`seen`): a message is
one for the id in it, a walk over the timers one for each id, `Shutdown` one for all.

- `table_product`, `table_run`: in every run of all operations, from any state and with any tame callback, the entry of
  each id is where its own machine is after the inputs given to this id.
- `timers_order`: the order in which `ProcessTimers` walks over the hash table does not matter to the table.
- `entry_stays_iff`: an entry stays exactly until a BYE, a CANCEL, `CancelCall`, a declined `AnswerCall`, `Shutdown`,
  or a 2xx to a call that was hung up. `failed_stays`: a call that has failed stays, and stays failed, whatever timers,
  responses and INVITEs come.
-/
import Mathlib.Tactic
import Rtcom.Lib.Interleave
import Rtcom.Sip.Timers

namespace Rtcom

open Runs Interleave

/-! ## One call -/

/-- what can happen to a call id -/
inductive CallInput where
  | placed (config : SipConfig) (calleeUri : String) (now : ℕ)
  | invited (config : SipConfig) (msg : OsipMessage) (now : ℕ)
  | accepted
  | hungUp
  | dropped
  | response (statusCode : ℤ)
  | visited (config : SipConfig) (v : Visit)
  | cleared
deriving DecidableEq, Repr

namespace CallInput

/-- the call `MakeCall` stores -/
def placedCall (id : String) (config : SipConfig) (calleeUri : String) (now : ℕ) : SipCall :=
  ((SipCall.new id (config.username ++ "@" ++ config.domain) calleeUri ⟨0, 0, 0, 0, 0⟩).setState .kCalling).startTimer
    config.retryT1Ms now

def react (id : String) : Option SipCall → CallInput → Option SipCall
  | _, placed config calleeUri now => some (placedCall id config calleeUri now).core
  | some call, invited .. => some call
  | none, invited config msg now =>
    some ((SipManager.ringingCall config msg ⟨0, 0, 0, 0, 0⟩ now).setState .kConnected).core
  | none, _ => none
  | some call, accepted => some (call.setState .kConnected).core
  | some call, hungUp =>
    if call.state ≠ .kConnected ∧ call.state ≠ .kInProgress then some call
    else some (call.setState .kDisconnecting).core
  | some _, dropped => none
  | some call, response statusCode =>
    if 200 ≤ statusCode ∧ statusCode < 300 then
      if call.state = .kCalling then some (call.setState .kConnected).core
      else if call.state = .kDisconnecting then none
      else some call
    else if statusCode ≥ 300 then some ((call.setState .kFailed).setError ("SIP " ++ toString statusCode)).core
    else some call
  | some call, visited config v =>
    if call.isTimerExpired v.firstCheck ∧ call.retransmitCount < config.maxRetransmit then
      let call := call.incrementRetransmit
      some (call.startTimer (config.retryT1Ms * (1 <<< call.retransmitCount)) v.restart).core
    else if call.isTimerExpired v.secondCheck then some (call.setState .kFailed).core
    else some call
  | some _, cleared => none

end CallInput

namespace SipManager

variable {κ σ : Type} (E : SipEnv) {cb : Callbacks κ σ}

/-- the entry of an id, without the session info -/
def entry (id : String) (s : SipManager κ × σ) : Option SipCall := (s.1.calls.lookup id).map SipCall.core

/-- what a message is for the id in it -/
def heard (config : SipConfig) (msg : OsipMessage) (now : ℕ) : List CallInput :=
  if msg.statusCode = 0 then
    match msg.method with
    | some "INVITE" => if (messageCallId msg).isEmpty then [] else [.invited config msg now]
    | some "BYE" | some "CANCEL" => [.dropped]
    | _ => []
  else [.response msg.statusCode]

/-- what an operation is for an id -/
def seen (s : SipManager κ × σ) (id : String) : SipOp → List CallInput
  | .makeCall calleeUri _ now =>
    if s.1.initialized ∧ (generateCallId E s.1).1 = id then [.placed s.1.config calleeUri now] else []
  | .answerCall callId accept => if callId = id then [if accept then .accepted else .dropped] else []
  | .hangUp callId => if callId = id then [.hungUp] else []
  | .cancelCall callId => if callId = id then [.dropped] else []
  | .incoming rawMsg _ now =>
    match E.parse rawMsg with
    | none => []
    | some msg => if messageCallId msg = id then heard s.1.config msg now else []
  | .processTimers visits => (visits.filter fun v => v.callId = id).map (.visited s.1.config)
  | .shutdown => [.cleared]
  | .initialise .. | .processIncomingSdp .. | .register | .unregister => []

/-! ## Entries -/

theorem entry_putCall (m : SipManager κ) (w : σ) (callId : String) (call : SipCall) (id : String) :
    entry id (m.putCall callId call, w) = if callId = id then some call.core else entry id (m, w) := by
  rw [entry, lookup_putCall]
  by_cases h : callId = id
  · rw [if_pos h.symm, if_pos h]
    rfl
  · rw [if_neg (Ne.symm h), if_neg h]
    rfl

theorem entry_eraseCall (m : SipManager κ) (w w' : σ) (callId id : String) :
    entry id (m.eraseCall callId, w) = if callId = id then none else entry id (m, w') := by
  rw [entry, lookup_eraseCall]
  by_cases h : callId = id
  · rw [if_pos h.symm, if_pos h]
    rfl
  · rw [if_neg (Ne.symm h), if_neg h]
    rfl

/-- a report shows nowhere in the table -/
theorem entry_notify (htame : Tame cb) (callId : String) (st : SipCallState) (s : SipManager κ × σ) (id : String) :
    entry id (notifyStateChange cb callId st s) = entry id s := by
  obtain ⟨calls, heq, hcalls⟩ := htame.notify callId st s
  rw [entry, heq]
  exact hcalls id

theorem entry_congr {m m' : SipManager κ} (h : m'.calls = m.calls) (w w' : σ) (id : String) :
    entry id (m', w') = entry id (m, w) := by rw [entry, entry, h]

theorem entry_some {s : SipManager κ × σ} {id : String} {call : SipCall} (h : s.1.calls.lookup id = some call) :
    entry id s = some call.core := by rw [entry, h, Option.map_some]

theorem entry_none {s : SipManager κ × σ} {id : String} (h : s.1.calls.lookup id = none) : entry id s = none := by
  rw [entry, h, Option.map_none]

theorem core_setState (call : SipCall) (st : SipCallState) :
    (call.core.setState st).core = (call.setState st).core := by
  unfold SipCall.setState
  by_cases h : call.state = st
  · rw [if_neg (not_not.2 h), if_neg (not_not.2 (show call.core.state = st from h))]
    rfl
  · rw [if_pos h, if_pos (show call.core.state ≠ st from h)]
    rfl

/-! ## Operations -/

/-- a call is stored and reported -/
theorem entry_enter (htame : Tame cb) (m : SipManager κ) (w : σ) (callId : String) (call : SipCall) (st : SipCallState)
    (reported id : String) : entry id (notifyStateChange cb reported st (m.putCall callId call, w)) =
      if callId = id then some call.core else entry id (m, w) := by
  rw [entry_notify htame, entry_putCall]

theorem entry_dropCall (htame : Tame cb) (callId : String) (s : SipManager κ × σ) (id : String) :
    entry id (dropCall cb callId s) = if callId = id then none else entry id s := by
  unfold dropCall
  cases hl : s.1.calls.lookup callId with
  | none =>
    by_cases h : callId = id
    · rw [if_pos h, ← h]
      exact entry_none hl
    · rw [if_neg h]
  | some call =>
    simp only
    rw [entry_eraseCall _ _ (notifyStateChange cb callId .kDisconnected
      (s.1.putCall callId (call.setState .kDisconnected), s.2)).2]
    by_cases h : callId = id
    · rw [if_pos h, if_pos h]
    · rw [if_neg h, if_neg h]
      exact (entry_enter htame s.1 s.2 callId _ _ callId id).trans (if_neg h)

theorem react_dropped (id : String) (entry : Option SipCall) : CallInput.react id entry .dropped = none := by
  cases entry <;> rfl

/-- from s to s' one id is given these inputs, and the others nothing -/
def Given (callId : String) (inputs : List CallInput) (s s' : SipManager κ × σ) : Prop :=
  ∀ id, entry id s' = exec (CallInput.react id) (entry id s) (if callId = id then inputs else [])

theorem given_of {callId : String} {inputs : List CallInput} {s s' : SipManager κ × σ}
    (hown : entry callId s' = exec (CallInput.react callId) (entry callId s) inputs)
    (hothers : ∀ id, callId ≠ id → entry id s' = entry id s) : Given callId inputs s s' := by
  intro id
  by_cases hid : callId = id
  · subst hid
    rw [if_pos rfl, hown]
  · rw [if_neg hid, hothers id hid]
    rfl

/-- the entry of the call is stored anew and reported -/
theorem given_enter (htame : Tame cb) {m : SipManager κ} {s : SipManager κ × σ} (hcalls : m.calls = s.1.calls)
    {callId : String} {inputs : List CallInput} {call : SipCall} (st : SipCallState) (reported : String)
    (hown : some call.core = exec (CallInput.react callId) (entry callId s) inputs) :
    Given callId inputs s (notifyStateChange cb reported st (m.putCall callId call, s.2)) := by
  refine given_of ?_ fun id hid => ?_
  · rw [entry_enter htame, if_pos rfl, hown]
  · rw [entry_enter htame, if_neg hid]
    exact entry_congr hcalls _ _ id

theorem given_dropCall (htame : Tame cb) (callId : String) (s : SipManager κ × σ) :
    Given callId [.dropped] s (dropCall cb callId s) := by
  refine given_of ?_ fun id hid => ?_
  · rw [entry_dropCall htame, if_pos rfl]
    exact (react_dropped callId _).symm
  · rw [entry_dropCall htame, if_neg hid]

theorem given_makeCall (htame : Tame cb) (calleeUri : String) (mem : Uninit) (now : ℕ) (s : SipManager κ × σ)
    (hinit : s.1.initialized = true) :
    Given (generateCallId E s.1).1 [.placed s.1.config calleeUri now] s (makeCall E cb calleeUri mem now s).2 := by
  have hframe := (generateCallId_frame E s.1).trans
    (buildInviteRequest_frame E (generateCallId E s.1).2 (generateCallId E s.1).1 calleeUri)
  have heq : (makeCall E cb calleeUri mem now s).2 = notifyStateChange cb (generateCallId E s.1).1 .kCalling
      ((buildInviteRequest E (generateCallId E s.1).1 calleeUri (generateCallId E s.1).2).2.putCall
        (generateCallId E s.1).1 (((SipCall.new (generateCallId E s.1).1 (s.1.config.username ++ "@" ++
          s.1.config.domain) calleeUri mem).setState .kCalling).startTimer s.1.config.retryT1Ms now), s.2) := by
    rw [makeCall, hinit, ← (generateCallId_frame E s.1).config]
    rfl
  rw [heq]
  exact given_enter htame hframe.calls _ _ rfl

theorem given_answerCall (htame : Tame cb) (callId : String) (accept : Bool) (s : SipManager κ × σ) :
    Given callId [if accept then .accepted else .dropped] s (answerCall E cb callId accept s).2 := by
  have hframe := (generateTag_frame E s.1).trans (buildResponse_frame E (generateTag E s.1).2
    (if accept then 200 else 486) (if accept then "OK" else "Busy Here") (generateTag E s.1).1)
  cases hl : s.1.calls.lookup callId with
  | none =>
    have heq : (answerCall E cb callId accept s).2 = s := by rw [answerCall, hl]
    rw [heq]
    refine given_of ?_ fun _ _ => rfl
    rw [entry_none hl]
    cases accept <;> rfl
  | some call =>
    cases accept with
    | true =>
      have heq : (answerCall E cb callId true s).2 = notifyStateChange cb callId .kConnected
          ((buildResponse E 200 "OK" (generateTag E s.1).1 (generateTag E s.1).2).2.putCall callId
            (call.setState .kConnected), s.2) := by
        rw [answerCall, hl]
        rfl
      rw [heq]
      refine given_enter htame hframe.calls _ _ ?_
      rw [entry_some hl, ← core_setState]
      rfl
    | false =>
      -- the entry is stored, reported and erased, as `CancelCall` does, behind a response that is built
      set m := (buildResponse E 486 "Busy Here" (generateTag E s.1).1 (generateTag E s.1).2).2 with hm
      have hcalls : m.calls = s.1.calls := hframe.calls
      have hlm : m.calls.lookup callId = some call := by rw [hcalls, hl]
      have heq : (answerCall E cb callId false s).2 = dropCall cb callId (m, s.2) := by
        rw [answerCall, hl, dropCall, hlm]
        rfl
      rw [heq]
      intro id
      rw [given_dropCall htame callId (m, s.2) id, entry_congr hcalls s.2 s.2]
      rfl

theorem given_hangUp (htame : Tame cb) (callId : String) (s : SipManager κ × σ) :
    Given callId [.hungUp] s (hangUp E cb callId s).2 := by
  cases hl : s.1.calls.lookup callId with
  | none =>
    have heq : (hangUp E cb callId s).2 = s := by rw [hangUp, hl]
    rw [heq]
    refine given_of ?_ fun _ _ => rfl
    rw [entry_none hl]
    rfl
  | some call =>
    by_cases hstate : call.state ≠ .kConnected ∧ call.state ≠ .kInProgress
    · have heq : (hangUp E cb callId s).2 = s := by
        rw [hangUp, hl]
        simp only [if_pos hstate]
      rw [heq]
      refine given_of ?_ fun _ _ => rfl
      rw [entry_some hl]
      exact (if_pos hstate).symm
    · obtain ⟨m, hframe, hm⟩ := BuilderFrame.of_putCall
        (buildInDialogRequest_frame E (s.1.putCall callId (call.setState .kDisconnecting)) "BYE" callId)
      have heq : (hangUp E cb callId s).2 = notifyStateChange cb callId .kDisconnecting
          (m.putCall callId (call.setState .kDisconnecting), s.2) := by
        rw [hangUp, hl, ← hm]
        simp only [if_neg hstate]
        rfl
      rw [heq]
      refine given_enter htame hframe.calls _ _ ?_
      rw [entry_some hl, ← core_setState]
      exact (if_neg hstate).symm

theorem given_visitTimer (htame : Tame cb) (v : Visit) (s : SipManager κ × σ) :
    Given v.callId [.visited s.1.config v] s (visitTimer cb s v) := by
  unfold visitTimer
  cases hl : s.1.calls.lookup v.callId with
  | none =>
    refine given_of ?_ fun _ _ => rfl
    rw [entry_none hl]
    rfl
  | some call =>
    simp only
    by_cases hfirst : call.isTimerExpired v.firstCheck ∧ call.retransmitCount < s.1.config.maxRetransmit
    · rw [if_pos hfirst]
      refine given_of ?_ fun id hid => ?_
      · rw [entry_putCall, if_pos rfl, entry_some hl]
        exact (if_pos hfirst).symm
      · rw [entry_putCall, if_neg hid]
    · rw [if_neg hfirst]
      by_cases hsecond : call.isTimerExpired v.secondCheck
      · rw [if_pos hsecond]
        refine given_enter htame rfl _ _ ?_
        rw [entry_some hl, ← core_setState]
        exact ((if_neg hfirst).trans (if_pos hsecond)).symm
      · rw [if_neg hsecond]
        refine given_of ?_ fun _ _ => rfl
        rw [entry_some hl]
        exact ((if_neg hfirst).trans (if_neg hsecond)).symm

theorem given_handleResponse (htame : Tame cb) (msg : OsipMessage) (s : SipManager κ × σ) :
    Given (messageCallId msg) [.response msg.statusCode] s (handleResponse E cb msg s) := by
  set callId := messageCallId msg with hid
  cases hl : s.1.calls.lookup callId with
  | none =>
    have heq : handleResponse E cb msg s = s := by
      unfold handleResponse
      rw [← hid]
      simp only [hl]
    rw [heq]
    refine given_of ?_ fun _ _ => rfl
    rw [entry_none hl]
    rfl
  | some call =>
    have hown : exec (CallInput.react callId) (entry callId s) [.response msg.statusCode] =
        CallInput.react callId (some call.core) (.response msg.statusCode) := by rw [entry_some hl]; rfl
    unfold handleResponse
    rw [← hid]
    simp only [hl]
    by_cases hfinal : 200 ≤ msg.statusCode ∧ msg.statusCode < 300
    · rw [if_pos hfinal]
      by_cases hcalling : call.state = .kCalling
      · rw [if_pos hcalling]
        have hframe := buildInDialogRequest_frame E s.1 "ACK" callId
        refine given_enter htame hframe.calls _ _ ?_
        rw [hown, ← core_setState]
        exact ((if_pos hfinal).trans (if_pos hcalling)).symm
      · rw [if_neg hcalling]
        by_cases hdisconnecting : call.state = .kDisconnecting
        · rw [if_pos hdisconnecting]
          have hdrop : dropCall cb callId s = ((notifyStateChange cb callId .kDisconnected
              (s.1.putCall callId (call.setState .kDisconnected), s.2)).1.eraseCall callId, (notifyStateChange cb callId
                .kDisconnected (s.1.putCall callId (call.setState .kDisconnected), s.2)).2) := by
            rw [dropCall, hl]
          rw [← hdrop]
          refine given_of ?_ fun id hne => by rw [entry_dropCall htame, if_neg hne]
          rw [entry_dropCall htame, if_pos rfl, hown]
          exact ((if_pos hfinal).trans ((if_neg hcalling).trans (if_pos hdisconnecting))).symm
        · rw [if_neg hdisconnecting]
          refine given_of ?_ fun _ _ => rfl
          rw [hown, entry_some hl]
          exact ((if_pos hfinal).trans ((if_neg hcalling).trans (if_neg hdisconnecting))).symm
    · rw [if_neg hfinal]
      by_cases hfailed : msg.statusCode ≥ 300
      · rw [if_pos hfailed]
        refine given_enter htame rfl _ _ ?_
        have hcore : ((call.core.setState .kFailed).setError ("SIP " ++ toString msg.statusCode)).core =
            ((call.setState .kFailed).setError ("SIP " ++ toString msg.statusCode)).core :=
          congrArg (fun c : SipCall => c.setError ("SIP " ++ toString msg.statusCode)) (core_setState call .kFailed)
        rw [hown, ← hcore]
        exact ((if_neg hfinal).trans (if_pos hfailed)).symm
      · rw [if_neg hfailed]
        refine given_of ?_ fun _ _ => rfl
        rw [hown, entry_some hl]
        exact ((if_neg hfinal).trans (if_neg hfailed)).symm

theorem given_autoAnswer (htame : Tame cb) (callId : String) (s : SipManager κ × σ) :
    Given callId [.accepted] s (autoAnswer E cb callId s) := by
  obtain ⟨m, hframe, heq⟩ := autoAnswer_spec E cb callId s
  rw [heq]
  cases hl : s.1.calls.lookup callId with
  | none =>
    refine given_of ?_ fun id _ => entry_congr hframe.calls _ _ id
    rw [entry_congr hframe.calls _ s.2, entry_none hl]
    rfl
  | some call =>
    refine given_enter htame hframe.calls _ _ ?_
    rw [entry_some hl, ← core_setState]
    rfl

theorem given_handleInvite (htame : Tame cb) (msg : OsipMessage) (mem : Uninit) (now : ℕ) (s : SipManager κ × σ) :
    Given (messageCallId msg) (if (messageCallId msg).isEmpty then [] else [.invited s.1.config msg now]) s
      (handleInvite E cb msg mem now s) := by
  by_cases hknown : (messageCallId msg).isEmpty ∨ (s.1.calls.lookup (messageCallId msg)).isSome
  · obtain ⟨m, hcalls, -, heq, -⟩ := handleInvite_known E cb msg mem now s hknown
    rw [heq]
    refine given_of ?_ fun id _ => entry_congr hcalls _ _ id
    rw [entry_congr hcalls s.2]
    by_cases hempty : (messageCallId msg).isEmpty
    · rw [if_pos hempty]
      rfl
    · obtain ⟨call, hl⟩ := Option.isSome_iff_exists.1 (hknown.resolve_left hempty)
      rw [if_neg hempty, entry_some hl]
      rfl
  · obtain ⟨hempty, hnone⟩ := not_or.1 hknown
    rw [Option.not_isSome_iff_eq_none] at hnone
    rw [handleInvite_new E cb msg mem now s hknown, if_neg hempty]
    refine given_of ?_ fun id hid => ?_
    · rw [given_autoAnswer E htame _ _ (messageCallId msg), if_pos rfl, entry_enter htame, if_pos rfl, entry_none hnone]
      rfl
    · rw [given_autoAnswer E htame _ _ id, if_neg hid, entry_enter htame, if_neg hid]
      exact entry_congr (calls_cacheHeaders msg _ s.1) s.2 s.2 id

theorem given_incoming (htame : Tame cb) {rawMsg : String} {msg : OsipMessage} (hmsg : E.parse rawMsg = some msg)
    (mem : Uninit) (now : ℕ) (s : SipManager κ × σ) :
    Given (messageCallId msg) (heard s.1.config msg now) s (processIncomingMessage E cb rawMsg mem now s) := by
  unfold heard
  rcases incoming_cases E cb hmsg with ⟨hrequest, hmethod, heq⟩ | ⟨hrequest, hmethod, heq⟩ | ⟨hrequest, hmethod, heq⟩ |
    ⟨hrequest, hmethod, heq⟩ | ⟨hresponse, heq⟩
  · rw [heq, if_pos hrequest, hmethod]
    exact given_handleInvite E htame msg mem now s
  · rw [heq, if_pos hrequest, hmethod]
    have hframe := buildResponse_frame E (dropCall cb (messageCallId msg) s).1 200 "OK" ""
    intro id
    exact (entry_congr hframe.calls _ _ id).trans (given_dropCall htame (messageCallId msg) s id)
  · rw [heq, if_pos hrequest, hmethod]
    exact given_dropCall htame (messageCallId msg) s
  · rw [heq, if_pos hrequest]
    obtain ⟨hinvite, hbye, hcancel⟩ := hmethod
    split
    · next h => exact absurd h hinvite
    · next h => exact absurd h hbye
    · next h => exact absurd h hcancel
    · exact given_of rfl fun _ _ => rfl
  · rw [heq, if_neg hresponse]
    exact given_handleResponse E htame msg s

/-! ## The product -/

/-- the SDP of a call shows nowhere else in its entry -/
theorem entry_processIncomingSdp (callId sdpBody : String) (s : SipManager κ × σ) (id : String) :
    entry id ((processIncomingSdp callId sdpBody s.1).2, s.2) = entry id s := by
  rcases processIncomingSdp_cases callId sdpBody s.1 with heq | ⟨call, sess, hl, heq⟩
  · rw [heq]
  · rw [heq, entry_putCall]
    by_cases hid : callId = id
    · rw [if_pos hid, ← hid]
      exact (entry_some hl).symm
    · rw [if_neg hid]

theorem entry_processTimers (htame : Tame cb) (visits : List Visit) (s : SipManager κ × σ) (id : String) :
    entry id (processTimers cb visits s) = exec (CallInput.react id) (entry id s)
      ((visits.filter fun v => v.callId = id).map (.visited s.1.config)) := by
  induction visits generalizing s with
  | nil => rfl
  | cons v visits ih =>
    have hstep := given_visitTimer htame v s id
    show entry id (processTimers cb visits (visitTimer cb s v)) = _
    rw [ih, (visitTimer_others s htame v).1, hstep]
    by_cases hid : v.callId = id
    · rw [if_pos hid, List.filter_cons_of_pos (by simpa using hid)]
      rfl
    · rw [if_neg hid, List.filter_cons_of_neg (by simpa using hid)]
      rfl

/-- an entry is where its machine is after one operation -/
theorem table_product (htame : Tame cb) : Product (step E cb) (seen E) entry CallInput.react := by
  intro s o id
  cases o with
  | initialise osipInit config =>
    refine entry_congr (?_ : (initialise E osipInit config s.1).2.calls = s.1.calls) _ _ id
    unfold initialise
    cases osipInit <;> rfl
  | makeCall calleeUri mem now =>
    cases hinit : s.1.initialized with
    | false =>
      rw [step, makeCall, hinit, seen, hinit]
      simp [exec]
    | true =>
      rw [step, given_makeCall E htame calleeUri mem now s hinit id, seen, hinit]
      simp only [true_and]
  | answerCall callId accept => exact given_answerCall E htame callId accept s id
  | hangUp callId => exact given_hangUp E htame callId s id
  | cancelCall callId =>
    rw [step, cancelCall_snd]
    exact given_dropCall htame callId s id
  | incoming rawMsg mem now =>
    rw [step, seen]
    cases hmsg : E.parse rawMsg with
    | none =>
      rw [incoming_none _ _ hmsg]
      rfl
    | some msg => exact given_incoming E htame hmsg mem now s id
  | processTimers visits => exact entry_processTimers htame visits s id
  | processIncomingSdp callId sdpBody => exact entry_processIncomingSdp callId sdpBody s id
  | register =>
    rw [step, register]
    cases s.1.initialized
    · rfl
    · exact entry_notify htame "" .kRegistered ({ s.1 with registered := true }, s.2) id
  | unregister =>
    rw [step, unregister]
    cases s.1.registered
    · rfl
    · exact entry_notify htame "" .kUnregistered ({ s.1 with registered := false }, s.2) id
  | shutdown =>
    have hcleared : CallInput.react id (entry id s) .cleared = none := by cases entry id s <;> rfl
    exact hcleared.symm

/-- **The call table is a product**: in every run of all operations, from any state, the entry of an id is where one
call's machine is after the inputs that the run has for this id -/
theorem table_run (htame : Tame cb) (s : SipManager κ × σ) (ops : List SipOp) (id : String) :
    entry id (exec (step E cb) s ops) =
      exec (CallInput.react id) (entry id s) (trace (step E cb) (seen E) id s ops) :=
  (table_product E htame).view_exec id s ops

/-- a 486 for the call ab-ab -/
def busyHere : PeerMessage := .response 486 "Busy Here" "INVITE" "ab-ab"

/-- the INVITE for the call a1 and the 486 are read -/
def busyEnv : SipEnv := { inviteEnv with parse := PeerMessage.reading [inviteA1, busyHere] }

/-- a callback that writes down what it is told -/
def reporting : Callbacks Unit (List (String × SipCallState)) := fun _ callId st s => (s.1, s.2 ++ [(callId, st)])

theorem tame_reporting : Tame reporting := fun _ _ _ s => ⟨s.1.calls, rfl, fun _ => rfl⟩

/-- a call is placed and refused, another one comes in and is hung up -/
def refusedAndInvited : List SipOp :=
  [.initialise true {}, .makeCall "bob" ⟨0, 0, 0, 0, 0⟩ 0, .incoming inviteA1.text ⟨0, 0, 0, 0, 0⟩ 0,
    .incoming busyHere.text ⟨0, 0, 0, 0, 0⟩ 0, .hangUp "a1"]

/-- two timers expire -/
def twoVisits : List Visit := [⟨"ab-ab", 600000000, 600000000, 600000000⟩, ⟨"a1", 600000000, 600000000, 600000000⟩]

theorem table_run_refused :
    entry "ab-ab" (exec (step busyEnv reporting) (new, []) refusedAndInvited) =
      exec (CallInput.react "ab-ab") none
        [.placed {} "bob" 0, .response 486] := by
  have htrace : trace (step busyEnv reporting) (seen busyEnv) "ab-ab" (new, []) refusedAndInvited =
      [.placed {} "bob" 0, .response 486] := by decide +kernel
  rw [table_run busyEnv tame_reporting, htrace]
  rfl

theorem eq_of_perm {α : Type} {as bs : List α} (h : as.Perm bs) (hone : as.length ≤ 1) : as = bs := by
  match as, hone with
  | [], _ => exact h.nil_eq
  | [a], _ => exact List.singleton_perm.1 h

/-- **Timers in any order**: `ProcessTimers` leaves the same entries, in whatever order it walks over the table -/
theorem timers_order (htame : Tame cb) (s : SipManager κ × σ) {visits visits' : List Visit}
    (hperm : visits.Perm visits') (hnodup : (visits.map Visit.callId).Nodup) (id : String) :
    entry id (processTimers cb visits s) = entry id (processTimers cb visits' s) := by
  have hone : (visits.filter fun v => v.callId = id).length ≤ 1 := by
    have hcount := List.nodup_iff_count_le_one.1 hnodup id
    rw [List.count, List.countP_map, List.countP_eq_length_filter] at hcount
    convert hcount using 3
    funext v
    exact (beq_eq_decide v.callId id).symm
  rw [entry_processTimers htame, entry_processTimers htame, eq_of_perm (hperm.filter _) hone]

theorem timers_order_two :
    let s := exec (step busyEnv reporting) (new, []) refusedAndInvited
    entry "a1" (processTimers reporting twoVisits s) = entry "a1" (processTimers reporting twoVisits.reverse s) :=
  timers_order tame_reporting _ (List.reverse_perm _).symm (by decide) "a1"

end SipManager

/-! ## Entries that stay -/

namespace CallInput

/-- the input erases the entry -/
def Erases (call : SipCall) : CallInput → Prop
  | dropped | cleared => True
  | response statusCode => (200 ≤ statusCode ∧ statusCode < 300) ∧ call.state = .kDisconnecting
  | _ => False

theorem isSome_react_iff (id : String) (call : SipCall) (i : CallInput) :
    (react id (some call) i).isSome ↔ ¬ i.Erases call := by
  cases i with
  | placed config calleeUri now => exact iff_of_true rfl not_false
  | invited config msg now => exact iff_of_true rfl not_false
  | accepted => exact iff_of_true rfl not_false
  | hungUp =>
    refine iff_of_true ?_ not_false
    simp only [react]
    split_ifs <;> rfl
  | dropped => simp [react, Erases]
  | cleared => simp [react, Erases]
  | response statusCode =>
    simp only [react, Erases]
    by_cases hfinal : 200 ≤ statusCode ∧ statusCode < 300
    · rw [if_pos hfinal, and_iff_right hfinal]
      by_cases hcalling : call.state = .kCalling
      · rw [if_pos hcalling, hcalling]
        exact iff_of_true rfl (by decide)
      · rw [if_neg hcalling]
        by_cases hdisconnecting : call.state = .kDisconnecting
        · simp [hdisconnecting]
        · simp [hdisconnecting]
    · rw [if_neg hfinal]
      refine iff_of_true ?_ fun h => hfinal h.1
      split_ifs <;> rfl
  | visited config v =>
    refine iff_of_true ?_ not_false
    simp only [react]
    split_ifs <;> rfl

/-- what does not bring a failed call back or away -/
def Spares : CallInput → Prop
  | invited .. | hungUp | response _ | visited .. => True
  | _ => False

theorem failed_react (id : String) {call : SipCall} (hfailed : call.state = .kFailed) {i : CallInput} (h : i.Spares) :
    ∃ call', react id (some call) i = some call' ∧ call'.state = .kFailed := by
  cases i with
  | placed config calleeUri now => exact h.elim
  | invited config msg now => exact ⟨call, rfl, hfailed⟩
  | accepted => exact h.elim
  | hungUp => exact ⟨call, if_pos (by simp [hfailed]), hfailed⟩
  | dropped => exact h.elim
  | cleared => exact h.elim
  | response statusCode =>
    simp only [react, hfailed, reduceCtorEq, if_false]
    split_ifs
    · exact ⟨call, rfl, hfailed⟩
    · exact ⟨_, rfl, SipCall.state_setState call .kFailed⟩
    · exact ⟨call, rfl, hfailed⟩
  | visited config v =>
    simp only [react]
    split_ifs
    · exact ⟨_, rfl, hfailed⟩
    · exact ⟨_, rfl, SipCall.state_setState call .kFailed⟩
    · exact ⟨call, rfl, hfailed⟩

end CallInput

namespace SipManager

variable {κ σ : Type} (E : SipEnv) {cb : Callbacks κ σ}

/-- no input that the operation is for the id erases the entry -/
def KeepsEntry (id : String) (s : SipManager κ × σ) (o : SipOp) : Prop :=
  ∀ i ∈ seen E s id o, ∀ call, entry id s = some call → ¬ i.Erases call

theorem heard_cases (config : SipConfig) (msg : OsipMessage) (now : ℕ) :
    heard config msg now = [] ∨ ∃ i, heard config msg now = [i] := by
  unfold heard
  by_cases hrequest : msg.statusCode = 0
  · rw [if_pos hrequest]
    split
    · by_cases hempty : (messageCallId msg).isEmpty
      · exact Or.inl (if_pos hempty)
      · exact Or.inr ⟨_, if_neg hempty⟩
    · exact Or.inr ⟨_, rfl⟩
    · exact Or.inr ⟨_, rfl⟩
    · exact Or.inl rfl
  · exact Or.inr ⟨_, if_neg hrequest⟩

/-- an operation is one input for an id, or visits of its timer -/
theorem seen_cases (s : SipManager κ × σ) (id : String) (o : SipOp) :
    seen E s id o = [] ∨ (∃ i, seen E s id o = [i]) ∨ ∀ i ∈ seen E s id o, ∃ v, i = .visited s.1.config v := by
  have hite : ∀ (p : Prop) [Decidable p] (i : CallInput), (if p then [i] else []) = [] ∨
      ∃ i', (if p then [i] else []) = [i'] := by
    intro p _ i
    by_cases hp : p
    · exact Or.inr ⟨i, if_pos hp⟩
    · exact Or.inl (if_neg hp)
  cases o with
  | initialise osipInit config => exact Or.inl rfl
  | makeCall calleeUri mem now => exact (hite _ _).imp_right Or.inl
  | answerCall callId accept => exact (hite _ _).imp_right Or.inl
  | hangUp callId => exact (hite _ _).imp_right Or.inl
  | cancelCall callId => exact (hite _ _).imp_right Or.inl
  | incoming rawMsg mem now =>
    simp only [seen]
    cases E.parse rawMsg with
    | none => exact Or.inl rfl
    | some msg =>
      simp only
      by_cases hid : messageCallId msg = id
      · rw [if_pos hid]
        exact (heard_cases _ msg now).imp_right Or.inl
      · exact Or.inl (if_neg hid)
  | processTimers visits =>
    refine Or.inr (Or.inr fun i hi => ?_)
    obtain ⟨v, -, rfl⟩ := List.mem_map.1 hi
    exact ⟨v, rfl⟩
  | processIncomingSdp callId sdpBody => exact Or.inl rfl
  | register => exact Or.inl rfl
  | unregister => exact Or.inl rfl
  | shutdown => exact Or.inr (Or.inl ⟨_, rfl⟩)

theorem isSome_step_iff (htame : Tame cb) (id : String) (s : SipManager κ × σ) (o : SipOp)
    (h : (entry id s).isSome) : (entry id (step E cb s o)).isSome ↔ KeepsEntry E id s o := by
  obtain ⟨call, hcall⟩ := Option.isSome_iff_exists.1 h
  rw [table_product E htame s o id]
  unfold KeepsEntry
  rcases seen_cases E s id o with hnil | ⟨i, hone⟩ | hvisits
  · rw [hnil]
    exact iff_of_true h (by simp)
  · rw [hone, hcall]
    simp only [exec, List.foldl_cons, List.foldl_nil, List.mem_singleton, forall_eq, Option.some.injEq, forall_eq']
    exact CallInput.isSome_react_iff id call i
  · refine iff_of_true ?_ fun i hi call _ => ?_
    · refine exec_labels (P := fun e : Option SipCall => e.isSome) (fun e i hi he => ?_) h
      obtain ⟨v, rfl⟩ := hvisits i hi
      obtain ⟨call, rfl⟩ := Option.isSome_iff_exists.1 he
      exact (CallInput.isSome_react_iff id call _).2 not_false
    · obtain ⟨v, rfl⟩ := hvisits i hi
      exact not_false

/-- **How long an entry stays**: in a run of all operations, exactly as long as none erases it -/
theorem entry_stays_iff (htame : Tame cb) (s : SipManager κ × σ) (ops : List SipOp) (id : String)
    (h : (entry id s).isSome) :
    (∀ before after, ops = before ++ after → (entry id (exec (step E cb) s before)).isSome) ↔
      Along (step E cb) (KeepsEntry E id) s ops :=
  always_iff (I := fun _ => True) (fun _ _ _ => trivial) (fun s o _ hs => isSome_step_iff E htame id s o hs) trivial h
    ops

theorem entry_stays_iff_refused :
    let s := exec (step busyEnv reporting) (new, []) refusedAndInvited
    let ops := [SipOp.processTimers twoVisits, .cancelCall "a1"]
    (∀ before after, ops = before ++ after → (entry "a1" (exec (step busyEnv reporting) s before)).isSome) ↔
      Along (step busyEnv reporting) (KeepsEntry busyEnv "a1") s ops :=
  entry_stays_iff busyEnv tame_reporting _ _ "a1" (by decide +kernel)

/-- **Failed calls stay**: without a BYE or CANCEL for it, `CancelCall`, `AnswerCall`, `Shutdown` and a new call under
its id, a failed call is in the table for ever, and failed -/
theorem failed_stays (htame : Tame cb) (s : SipManager κ × σ) (ops : List SipOp) (id : String)
    (hfailed : ∃ call, entry id s = some call ∧ call.state = .kFailed)
    (hspares : ∀ i ∈ trace (step E cb) (seen E) id s ops, i.Spares) :
    ∃ call, entry id (exec (step E cb) s ops) = some call ∧ call.state = .kFailed := by
  rw [(table_product E htame).view_exec id s ops]
  refine exec_labels (P := fun e : Option SipCall => ∃ call, e = some call ∧ call.state = .kFailed)
    (fun e i hi he => ?_) hfailed
  obtain ⟨call, rfl, hstate⟩ := he
  exact CallInput.failed_react id hstate (hspares i hi)

theorem failed_stays_refused :
    let s := exec (step busyEnv reporting) (new, []) refusedAndInvited
    let ops := [SipOp.processTimers twoVisits, .cancelCall "a1", .incoming busyHere.text ⟨0, 0, 0, 0, 0⟩ 0]
    ∃ call, entry "ab-ab" (exec (step busyEnv reporting) s ops) = some call ∧ call.state = .kFailed := by
  intro s ops
  have hstate : (entry "ab-ab" s).map SipCall.state = some .kFailed := by decide +kernel
  have htrace : trace (step busyEnv reporting) (seen busyEnv) "ab-ab" s ops =
      [.visited {} ⟨"ab-ab", 600000000, 600000000, 600000000⟩, .response 486] := by decide +kernel
  refine failed_stays busyEnv tame_reporting s ops "ab-ab" (Option.map_eq_some_iff.1 hstate) fun i hi => ?_
  rw [htrace] at hi
  rcases List.mem_pair.1 hi with rfl | rfl <;> trivial

end SipManager

end Rtcom
