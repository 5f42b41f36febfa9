/-
The iterators into `calls_` that the operations of `SipManager` hold while they notify the callback. The callback may
call `CancelCall` on the call it is told about, which erases the entry of that call; `HandleInvite` looks it up again
afterwards, the other operations go on with the iterator they have.

The operations are those of `Handlers` with every use of an iterator written down, and whether its entry was there
(`Access`). An iterator is the key of its entry: only `HandleInvite` and `MakeCall` add entries, and the callback calls
neither.

- `forget_notify`: the callback, without the accesses, is one that cancels.
- `forget_perform`: with that callback the operations are those of `Handlers`.
-/
import Mathlib.Tactic
import Rtcom.Lib.Runs
import Rtcom.Sip.Requests
import Rtcom.Sip.Timers

namespace Rtcom

open Runs

/-! ## Accesses -/

inductive IteratorUse where
  | dereference
  | increment
  | erase
deriving DecidableEq, Repr

/-- a use of the iterator of an entry; is the entry still there? -/
structure Access where
  use : IteratorUse
  callId : String
  live : Bool
deriving DecidableEq, Repr

/-- a callback with a state of its own that may call `CancelCall` on the call it is told about, once -/
structure SipEventCallback (σ : Type) where
  /-- what it does to its state and, if it calls `CancelCall`, what it does with the result -/
  notified : String → SipCallState → σ → σ × Option (Bool → σ → σ)
  /-- when it is told by the `CancelCall` that it called -/
  renotified : String → SipCallState → σ → σ

/-- the manager, the state of the callback, and the accesses so far -/
structure Watched (σ : Type) where
  manager : SipManager (SipEventCallback σ)
  owner : σ
  accesses : List Access

/-- the public operations of a manager -/
inductive ManagerOp (σ : Type) where
  | operation (op : SipOp)
  | build (b : MessageBuilder)
  | cacheLastRequest (callId : String)
  | setSipEventCallback (cb : SipEventCallback σ)

namespace Watched

variable {σ : Type}

def start (owner : σ) : Watched σ := ⟨.new, owner, []⟩

def lookup (w : Watched σ) (callId : String) : Option SipCall := w.manager.calls.lookup callId

def access (use : IteratorUse) (it : String) (w : Watched σ) : Watched σ :=
  { w with accesses := w.accesses ++ [⟨use, it, (w.lookup it).isSome⟩] }

/-- an assignment through `it->second` -/
def assign (it : String) (call : SipCall) (w : Watched σ) : Watched σ :=
  let w := w.access .dereference it
  { w with manager := w.manager.putCall it call }

/-- `calls_.erase(it)` -/
def erase (it : String) (w : Watched σ) : Watched σ :=
  let w := w.access .erase it
  { w with manager := w.manager.eraseCall it }

/-! ## The callback -/

/-- `CancelCall`, and what it tells whom -/
def cancelCallWith (notify : String → SipCallState → Watched σ → Watched σ) (callId : String) (w : Watched σ) :
    Bool × Watched σ :=
  match w.lookup callId with
  | none => (false, w)
  | some call =>
    let w := notify callId .kDisconnected (w.assign callId (call.setState .kDisconnected))
    (true, w.erase callId)

def renotify (callId : String) (state : SipCallState) (w : Watched σ) : Watched σ :=
  match w.manager.sipEventCb with
  | none => w
  | some cb => { w with owner := cb.renotified callId state w.owner }

def notifyStateChange (callId : String) (state : SipCallState) (w : Watched σ) : Watched σ :=
  match w.manager.sipEventCb with
  | none => w
  | some cb =>
    let (owner, cancel) := cb.notified callId state w.owner
    let w := { w with owner }
    match cancel with
    | none => w
    | some resume =>
      let (result, w) := cancelCallWith renotify callId w
      { w with owner := resume result w.owner }

def cancelCall (callId : String) (w : Watched σ) : Bool × Watched σ := cancelCallWith notifyStateChange callId w

/-! ## The operations -/

variable (E : SipEnv)

def makeCall (calleeUri : String) (mem : Uninit) (now : ℕ) (w : Watched σ) : String × Watched σ :=
  if !w.manager.initialized then ("", w)
  else
    let (callId, m) := SipManager.generateCallId E w.manager
    let localUri := m.config.username ++ "@" ++ m.config.domain
    let call := ((SipCall.new callId localUri calleeUri mem).setState .kCalling).startTimer m.config.retryT1Ms now
    let (_, m) := SipManager.buildInviteRequest E callId calleeUri m
    (callId, notifyStateChange callId .kCalling { w with manager := m.putCall callId call })

def answerCall (callId : String) (accept : Bool) (w : Watched σ) : Bool × Watched σ :=
  match w.lookup callId with
  | none => (false, w)
  | some call =>
    let w := w.access .dereference callId
    let code := if accept then 200 else 486
    let (tag, m) := SipManager.generateTag E w.manager
    let (_, m) := SipManager.buildResponse E code (if accept then "OK" else "Busy Here") tag m
    let w := { w with manager := m }
    if accept then (true, notifyStateChange callId .kConnected (w.assign callId (call.setState .kConnected)))
    else
      let w := notifyStateChange callId .kDisconnected (w.assign callId (call.setState .kDisconnected))
      (false, w.erase callId)

def hangUp (callId : String) (w : Watched σ) : Bool × Watched σ :=
  match w.lookup callId with
  | none => (false, w)
  | some call =>
    let w := w.access .dereference callId
    if call.state ≠ .kConnected ∧ call.state ≠ .kInProgress then (false, w)
    else
      let w := w.assign callId (call.setState .kDisconnecting)
      let (_, m) := SipManager.buildByeRequest E callId w.manager
      (true, notifyStateChange callId .kDisconnecting { w with manager := m })

/-- the automatic 200 OK: the call is looked up again -/
def autoAnswer (callId : String) (w : Watched σ) : Watched σ :=
  let (tag, m) := SipManager.generateTag E w.manager
  let (_, m) := SipManager.buildResponse E 200 "OK" tag m
  match m.calls.lookup callId with
  | none => { w with manager := m }
  | some call => notifyStateChange callId .kConnected { w with manager := m.putCall callId (call.setState .kConnected) }

theorem autoAnswer_eq (callId : String) (w : Watched σ) :
    let m := (SipManager.buildResponse E 200 "OK" (SipManager.generateTag E w.manager).1
      (SipManager.generateTag E w.manager).2).2
    autoAnswer E callId w = match m.calls.lookup callId with
      | none => { w with manager := m }
      | some call =>
        notifyStateChange callId .kConnected { w with manager := m.putCall callId (call.setState .kConnected) } := rfl

def handleInvite (msg : OsipMessage) (mem : Uninit) (now : ℕ) (w : Watched σ) : Watched σ :=
  let callId := SipManager.messageCallId msg
  if callId.isEmpty then w
  else
    let m := SipManager.cacheHeaders msg callId w.manager
    let localUri := m.config.username ++ "@" ++ m.config.domain
    match m.calls.lookup callId with
    | some _ => { w with manager := m }
    | none =>
      let call := ((SipCall.new callId localUri ("sip:" ++ SipManager.remoteOf msg) mem).setState .kRinging).startTimer
        m.config.retryT1Ms now
      autoAnswer E callId (notifyStateChange callId .kRinging { w with manager := m.putCall callId call })

/-- `HandleCancel`, and the first part of `HandleBye` -/
def dropCall (callId : String) (w : Watched σ) : Watched σ :=
  match w.lookup callId with
  | none => w
  | some call =>
    let w := notifyStateChange callId .kDisconnected (w.assign callId (call.setState .kDisconnected))
    w.erase callId

def handleBye (msg : OsipMessage) (w : Watched σ) : Watched σ :=
  let w := dropCall (SipManager.messageCallId msg) w
  { w with manager := (SipManager.buildResponse E 200 "OK" "" w.manager).2 }

def handleCancel (msg : OsipMessage) (w : Watched σ) : Watched σ := dropCall (SipManager.messageCallId msg) w

def handleResponse (msg : OsipMessage) (w : Watched σ) : Watched σ :=
  let callId := SipManager.messageCallId msg
  match w.lookup callId with
  | none => w
  | some call =>
    let w := w.access .dereference callId
    if 200 ≤ msg.statusCode ∧ msg.statusCode < 300 then
      if call.state = .kCalling then
        let (_, m) := SipManager.buildAckRequest E callId w.manager
        let w := { w with manager := m }
        notifyStateChange callId .kConnected (w.assign callId (call.setState .kConnected))
      else if call.state = .kDisconnecting then
        let w := notifyStateChange callId .kDisconnected (w.assign callId (call.setState .kDisconnected))
        w.erase callId
      else w
    else if msg.statusCode ≥ 300 then
      let call := (call.setState .kFailed).setError ("SIP " ++ toString msg.statusCode)
      notifyStateChange callId .kFailed (w.assign callId call)
    else w

def processIncomingMessage (rawMsg : String) (mem : Uninit) (now : ℕ) (w : Watched σ) : Watched σ :=
  match E.parse rawMsg with
  | none => w
  | some msg =>
    if msg.statusCode = 0 then
      match msg.method with
      | some "INVITE" => handleInvite E msg mem now w
      | some "ACK" => w
      | some "BYE" => handleBye E msg w
      | some "CANCEL" => handleCancel msg w
      | _ => w
    else handleResponse E msg w

/-- `ProcessTimers`, one turn of the loop, with the `++it` at its end -/
def visitTimer (w : Watched σ) (v : Visit) : Watched σ :=
  match w.lookup v.callId with
  | none => w
  | some call =>
    let w := w.access .dereference v.callId
    if call.isTimerExpired v.firstCheck ∧ call.retransmitCount < w.manager.config.maxRetransmit then
      let call := call.incrementRetransmit
      let w := w.assign v.callId
        (call.startTimer (w.manager.config.retryT1Ms * (1 <<< call.retransmitCount)) v.restart)
      w.access .increment v.callId
    else if call.isTimerExpired v.secondCheck then
      let w := notifyStateChange call.callId .kFailed (w.assign v.callId (call.setState .kFailed))
      w.access .increment v.callId
    else w.access .increment v.callId

def processTimers (visits : List Visit) (w : Watched σ) : Watched σ := exec visitTimer w visits

def register (w : Watched σ) : Bool × Watched σ :=
  if !w.manager.initialized then (false, w)
  else (true, notifyStateChange "" .kRegistered { w with manager := { w.manager with registered := true } })

def unregister (w : Watched σ) : Bool × Watched σ :=
  if !w.manager.registered then (false, w)
  else (true, notifyStateChange "" .kUnregistered { w with manager := { w.manager with registered := false } })

def shutdown (w : Watched σ) : Watched σ :=
  let w := if w.manager.registered then (unregister w).2 else w
  { w with manager := { w.manager with calls := ∅, initialized := false } }

def perform (w : Watched σ) : SipOp → Watched σ
  | .initialise osipInit config => { w with manager := (SipManager.initialise E osipInit config w.manager).2 }
  | .makeCall calleeUri mem now => (makeCall E calleeUri mem now w).2
  | .answerCall callId accept => (answerCall E callId accept w).2
  | .hangUp callId => (hangUp E callId w).2
  | .cancelCall callId => (cancelCall callId w).2
  | .incoming rawMsg mem now => processIncomingMessage E rawMsg mem now w
  | .processTimers visits => processTimers visits w
  | .processIncomingSdp callId sdpBody =>
    { w with manager := (SipManager.processIncomingSdp callId sdpBody w.manager).2 }
  | .register => (register w).2
  | .unregister => (unregister w).2
  | .shutdown => shutdown w

def step (w : Watched σ) : ManagerOp σ → Watched σ
  | .operation op => perform E w op
  | .build b => { w with manager := (b.build E w.manager).2 }
  | .cacheLastRequest callId => { w with manager := { w.manager with lastCallId := callId } }
  | .setSipEventCallback cb => { w with manager := { w.manager with sipEventCb := some cb } }

/-! ## The operations without the accesses -/

def forget (w : Watched σ) : SipManager (SipEventCallback σ) × σ := (w.manager, w.owner)

@[simp] theorem lookup_forget (callId : String) (w : Watched σ) :
    w.forget.1.calls.lookup callId = w.lookup callId := rfl

@[simp] theorem sipEventCb_forget (w : Watched σ) : w.forget.1.sipEventCb = w.manager.sipEventCb := rfl

@[simp] theorem initialized_forget (w : Watched σ) : w.forget.1.initialized = w.manager.initialized := rfl

@[simp] theorem registered_forget (w : Watched σ) : w.forget.1.registered = w.manager.registered := rfl

/-- the callback, told by the `CancelCall` that it called -/
def telling : Callbacks (SipEventCallback σ) σ := fun cb callId state s => (s.1, cb.renotified callId state s.2)

/-- the callback -/
def cancelling : Callbacks (SipEventCallback σ) σ := fun cb callId state s =>
  let (owner, cancel) := cb.notified callId state s.2
  match cancel with
  | none => (s.1, owner)
  | some resume =>
    let (result, s) := SipManager.cancelCall telling callId (s.1, owner)
    (s.1, resume result s.2)

theorem forget_renotify (callId : String) (state : SipCallState) (w : Watched σ) :
    (renotify callId state w).forget = SipManager.notifyStateChange telling callId state w.forget := by
  unfold renotify SipManager.notifyStateChange
  rw [sipEventCb_forget]
  cases w.manager.sipEventCb <;> rfl

theorem forget_cancelCallWith {notify : String → SipCallState → Watched σ → Watched σ}
    {cb : Callbacks (SipEventCallback σ) σ}
    (hnotify : ∀ callId state w, (notify callId state w).forget = SipManager.notifyStateChange cb callId state w.forget)
    (callId : String) (w : Watched σ) :
    Prod.map id forget (cancelCallWith notify callId w) = SipManager.cancelCall cb callId w.forget := by
  unfold cancelCallWith SipManager.cancelCall
  rw [lookup_forget]
  cases w.lookup callId with
  | none => rfl
  | some call =>
    have htold := hnotify callId .kDisconnected (w.assign callId (call.setState .kDisconnected))
    exact congrArg (fun s => (true, s.1.eraseCall callId, s.2)) htold

theorem forget_notify (callId : String) (state : SipCallState) (w : Watched σ) :
    (notifyStateChange callId state w).forget = SipManager.notifyStateChange cancelling callId state w.forget := by
  unfold notifyStateChange SipManager.notifyStateChange
  rw [sipEventCb_forget]
  cases w.manager.sipEventCb with
  | none => rfl
  | some cb =>
    have howner : w.forget.2 = w.owner := rfl
    simp only [cancelling, howner]
    cases (cb.notified callId state w.owner).2 with
    | none => rfl
    | some resume =>
      have hcancel :=
        forget_cancelCallWith forget_renotify callId { w with owner := (cb.notified callId state w.owner).1 }
      exact congrArg (fun r => (r.2.1, resume r.1 r.2.2)) hcancel

/-- a call enters a state -/
theorem forget_enter (callId : String) (call : SipCall) (state : SipCallState) (w : Watched σ) :
    (notifyStateChange callId state (w.assign callId call)).forget =
      SipManager.notifyStateChange cancelling callId state (w.manager.putCall callId call, w.owner) :=
  forget_notify callId state (w.assign callId call)

/-- a call is disconnected, reported and erased -/
theorem forget_terminate (callId : String) (call : SipCall) (w : Watched σ) :
    ((notifyStateChange callId .kDisconnected (w.assign callId call)).erase callId).forget =
      let s := SipManager.notifyStateChange cancelling callId .kDisconnected (w.manager.putCall callId call, w.owner)
      (s.1.eraseCall callId, s.2) :=
  congrArg (fun s => (s.1.eraseCall callId, s.2)) (forget_enter callId call .kDisconnected w)

theorem forget_answerCall (callId : String) (accept : Bool) (w : Watched σ) :
    (answerCall E callId accept w).2.forget = (SipManager.answerCall E cancelling callId accept w.forget).2 := by
  unfold answerCall SipManager.answerCall
  rw [lookup_forget]
  cases w.lookup callId with
  | none => rfl
  | some call =>
    cases accept with
    | true => exact forget_enter callId _ .kConnected _
    | false => exact forget_terminate callId _ _

theorem forget_makeCall (calleeUri : String) (mem : Uninit) (now : ℕ) (w : Watched σ) :
    (makeCall E calleeUri mem now w).2.forget = (SipManager.makeCall E cancelling calleeUri mem now w.forget).2 := by
  unfold makeCall SipManager.makeCall
  rw [initialized_forget]
  cases w.manager.initialized with
  | false => rfl
  | true => exact forget_notify _ .kCalling _

theorem forget_hangUp (callId : String) (w : Watched σ) :
    (hangUp E callId w).2.forget = (SipManager.hangUp E cancelling callId w.forget).2 := by
  unfold hangUp SipManager.hangUp
  rw [lookup_forget]
  cases w.lookup callId with
  | none => rfl
  | some call =>
    simp only
    split_ifs
    · rfl
    · exact forget_notify callId .kDisconnecting _

variable {E} in
theorem forget_dropCall (callId : String) (w : Watched σ) :
    (dropCall callId w).forget = SipManager.dropCall cancelling callId w.forget := by
  unfold dropCall SipManager.dropCall
  rw [lookup_forget]
  cases w.lookup callId with
  | none => rfl
  | some call => exact forget_terminate callId _ w

theorem forget_autoAnswer (callId : String) (w : Watched σ) :
    (autoAnswer E callId w).forget = SipManager.autoAnswer E cancelling callId w.forget := by
  set m := (SipManager.buildResponse E 200 "OK" (SipManager.generateTag E w.manager).1
    (SipManager.generateTag E w.manager).2).2
  have heq : SipManager.autoAnswer E cancelling callId w.forget = match m.calls.lookup callId with
      | none => (m, w.owner)
      | some call => SipManager.notifyStateChange cancelling callId .kConnected
          (m.putCall callId (call.setState .kConnected), w.owner) := rfl
  rw [heq, autoAnswer_eq]
  cases m.calls.lookup callId with
  | none => rfl
  | some call => exact forget_notify callId .kConnected _

theorem forget_handleInvite (msg : OsipMessage) (mem : Uninit) (now : ℕ) (w : Watched σ) :
    (handleInvite E msg mem now w).forget = SipManager.handleInvite E cancelling msg mem now w.forget := by
  unfold handleInvite SipManager.handleInvite
  simp only
  split_ifs
  · rfl
  · set callId := SipManager.messageCallId msg
    set m := SipManager.cacheHeaders msg callId w.manager
    have hheaders : SipManager.cacheHeaders msg callId w.forget.1 = m := rfl
    rw [hheaders]
    cases m.calls.lookup callId with
    | some call => rfl
    | none =>
      have hringing := forget_notify callId .kRinging
        { w with manager := m.putCall callId (SipManager.ringingCall w.manager.config msg mem now) }
      exact (forget_autoAnswer E callId _).trans (congrArg (SipManager.autoAnswer E cancelling callId) hringing)

theorem forget_handleBye (msg : OsipMessage) (w : Watched σ) :
    (handleBye E msg w).forget = SipManager.handleBye E cancelling msg w.forget :=
  congrArg (fun s => ((SipManager.buildResponse E 200 "OK" "" s.1).2, s.2))
    (forget_dropCall (SipManager.messageCallId msg) w)

variable {E} in
theorem forget_handleCancel (msg : OsipMessage) (w : Watched σ) :
    (handleCancel msg w).forget = SipManager.handleCancel cancelling msg w.forget :=
  forget_dropCall (SipManager.messageCallId msg) w

theorem forget_handleResponse (msg : OsipMessage) (w : Watched σ) :
    (handleResponse E msg w).forget = SipManager.handleResponse E cancelling msg w.forget := by
  unfold handleResponse SipManager.handleResponse
  generalize SipManager.messageCallId msg = callId
  simp only
  rw [lookup_forget]
  cases w.lookup callId with
  | none => rfl
  | some call =>
    simp only
    split_ifs
    · exact forget_enter callId _ .kConnected _
    · exact forget_terminate callId _ _
    · rfl
    · exact forget_enter callId _ .kFailed _
    · rfl

theorem forget_incoming (rawMsg : String) (mem : Uninit) (now : ℕ) (w : Watched σ) :
    (processIncomingMessage E rawMsg mem now w).forget =
      SipManager.processIncomingMessage E cancelling rawMsg mem now w.forget := by
  unfold processIncomingMessage
  cases hmsg : E.parse rawMsg with
  | none => rw [SipManager.incoming_none E cancelling hmsg]
  | some msg =>
    rcases SipManager.incoming_cases E (cancelling (σ := σ)) hmsg with ⟨hrequest, hmethod, heq⟩ |
      ⟨hrequest, hmethod, heq⟩ | ⟨hrequest, hmethod, heq⟩ | ⟨hrequest, ⟨hinvite, hbye, hcancel⟩, heq⟩ | ⟨hresponse, heq⟩
    · simp only [heq, if_pos hrequest, hmethod]
      exact forget_handleInvite E msg mem now w
    · simp only [heq, if_pos hrequest, hmethod]
      exact forget_handleBye E msg w
    · simp only [heq, if_pos hrequest, hmethod]
      exact forget_handleCancel msg w
    · simp only [heq, if_pos hrequest]
      split <;> first | rfl | contradiction
    · simp only [heq, if_neg hresponse]
      exact forget_handleResponse E msg w

variable {E} in
theorem forget_visitTimer (w : Watched σ) (v : Visit) :
    (visitTimer w v).forget = SipManager.visitTimer cancelling w.forget v := by
  unfold visitTimer SipManager.visitTimer
  rw [lookup_forget]
  cases w.lookup v.callId with
  | none => rfl
  | some call =>
    have hconfig : (w.access .dereference v.callId).manager.config = w.forget.1.config := rfl
    simp only [hconfig]
    split_ifs
    · rfl
    · exact forget_notify call.callId .kFailed _
    · rfl

variable {E} in
theorem forget_processTimers (visits : List Visit) (w : Watched σ) :
    (processTimers visits w).forget = SipManager.processTimers cancelling visits w.forget := by
  induction visits generalizing w with
  | nil => rfl
  | cons v visits ih =>
    have htail := ih (visitTimer w v)
    rwa [forget_visitTimer] at htail

variable {E} in
theorem forget_unregister (w : Watched σ) :
    (unregister w).2.forget = (SipManager.unregister cancelling w.forget).2 := by
  unfold unregister SipManager.unregister
  rw [registered_forget]
  split_ifs
  · rfl
  · exact forget_notify "" .kUnregistered _

/-- **The operations without the accesses** are those of `Handlers` -/
theorem forget_perform (w : Watched σ) (op : SipOp) :
    (perform E w op).forget = SipManager.step E cancelling w.forget op := by
  cases op with
  | initialise osipInit config => rfl
  | makeCall calleeUri mem now => exact forget_makeCall E calleeUri mem now w
  | answerCall callId accept => exact forget_answerCall E callId accept w
  | hangUp callId => exact forget_hangUp E callId w
  | cancelCall callId => exact congrArg Prod.snd (forget_cancelCallWith forget_notify callId w)
  | incoming rawMsg mem now => exact forget_incoming E rawMsg mem now w
  | processTimers visits => exact forget_processTimers visits w
  | processIncomingSdp callId sdpBody => rfl
  | register =>
    unfold perform SipManager.step register SipManager.register
    rw [initialized_forget]
    split_ifs
    · rfl
    · exact forget_notify "" .kRegistered _
  | unregister => exact forget_unregister w
  | shutdown =>
    unfold perform SipManager.step shutdown SipManager.shutdown
    rw [registered_forget]
    split_ifs
    · exact congrArg (fun s => ({ s.1 with calls := ∅, initialized := false }, s.2)) (forget_unregister w)
    · rfl

end Watched

end Rtcom
