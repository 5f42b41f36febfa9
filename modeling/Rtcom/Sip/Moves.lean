/-
What the operations of the SIP manager do to the life of a call: runs of the manager (`SipOp`, `step`) and their
abstraction.

Of the calls only id and state matter here (`table`). A `Move` stores a call in a state, erases it, clears the table or
reports a state to the callback; `moves` says which moves an operation makes, from the state before it. `Performs` is
"these moves, one after the other, and nothing else that the table or a report would show"; `step_performs`: every
operation performs its moves.

The callback is arbitrary but for one thing: it may work on the session info of calls and on nothing else of the
manager (`Tame`). `observing` writes down what a callback is told.
-/
import Mathlib.Tactic
import Rtcom.Sip.Handlers

namespace Rtcom

/-- an operation on a SIP manager -/
inductive SipOp where
  | initialise (osipInit : Bool) (config : SipConfig)
  | makeCall (calleeUri : String) (mem : Uninit) (now : ℕ)
  | answerCall (callId : String) (accept : Bool)
  | hangUp (callId : String)
  | cancelCall (callId : String)
  | incoming (rawMsg : String) (mem : Uninit) (now : ℕ)
  | processTimers (visits : List Visit)
  | processIncomingSdp (callId sdpBody : String)
  | register
  | unregister
  | shutdown

/-- the call without its session info -/
def SipCall.core (call : SipCall) : SipCall := { call with sessionInfo := .new ⟨0, 0, 0, 0, 0⟩ }

namespace SipManager

variable {κ σ : Type} (E : SipEnv) (cb : Callbacks κ σ)

def step (s : SipManager κ × σ) : SipOp → SipManager κ × σ
  | .initialise osipInit config => ((initialise E osipInit config s.1).2, s.2)
  | .makeCall calleeUri mem now => (makeCall E cb calleeUri mem now s).2
  | .answerCall callId accept => (answerCall E cb callId accept s).2
  | .hangUp callId => (hangUp E cb callId s).2
  | .cancelCall callId => (cancelCall cb callId s).2
  | .incoming rawMsg mem now => processIncomingMessage E cb rawMsg mem now s
  | .processTimers visits => processTimers cb visits s
  | .processIncomingSdp callId sdpBody => ((processIncomingSdp callId sdpBody s.1).2, s.2)
  | .register => (register cb s).2
  | .unregister => (unregister cb s).2
  | .shutdown => shutdown cb s

/-- a walk over the calls visits each once -/
def Walks (m : SipManager κ) : SipOp → Prop
  | .processTimers visits => (visits.map Visit.callId).Perm m.calls.keys
  | _ => True

/-! ## Callbacks -/

/-- the callback changes nothing of the manager but the session info of calls -/
def Tame : Prop := ∀ k id st (s : SipManager κ × σ), ∃ calls : Calls, (cb k id st s).1 = { s.1 with calls := calls } ∧
  ∀ x, (calls.lookup x).map SipCall.core = (s.1.calls.lookup x).map SipCall.core

/-- the callback, with a log of what it is told -/
def observing : Callbacks κ (σ × List (String × SipCallState)) := fun k id st s =>
  let r := cb k id st (s.1, s.2.1)
  (r.1, r.2, s.2.2 ++ [(id, st)])

variable {cb}

theorem Tame.observing (h : Tame cb) : Tame (observing cb) := fun k id st s => h k id st (s.1, s.2.1)

theorem Tame.notify (h : Tame cb) (id : String) (st : SipCallState) (s : SipManager κ × σ) :
    ∃ calls : Calls, (notifyStateChange cb id st s).1 = { s.1 with calls := calls } ∧
      ∀ x, (calls.lookup x).map SipCall.core = (s.1.calls.lookup x).map SipCall.core := by
  unfold notifyStateChange
  cases s.1.sipEventCb with
  | none => exact ⟨s.1.calls, rfl, fun _ => rfl⟩
  | some k => exact h k id st s

/-! ## Moves -/

inductive Move where
  | store (id callId : String) (state : SipCallState)
  | erase (id : String)
  | clear
  | report (id : String) (state : SipCallState)
deriving DecidableEq, Repr

abbrev Table := String → Option (String × SipCallState)

def table (m : SipManager κ) : Table := fun id => (m.calls.lookup id).map fun call => (call.callId, call.state)

def Move.run (t : Table) : Move → Table
  | .store id callId state => Function.update t id (some (callId, state))
  | .erase id => Function.update t id none
  | .clear => fun _ => none
  | .report .. => t

/-- what a move tells the callback -/
def Move.told : Move → Option (String × SipCallState)
  | .report id state => some (id, state)
  | _ => none

/-- a stored call enters a state and is reported -/
def enterMoves (id : String) (call : SipCall) (state : SipCallState) : List Move :=
  [.store id call.callId state, .report id state]

/-- a call that is there is disconnected, reported and erased -/
def dropMoves (m : SipManager κ) (id : String) : List Move :=
  match m.calls.lookup id with
  | none => []
  | some call => enterMoves id call .kDisconnected ++ [.erase id]

def responseMoves (m : SipManager κ) (msg : OsipMessage) : List Move :=
  match m.calls.lookup (messageCallId msg) with
  | none => []
  | some call =>
    if 200 ≤ msg.statusCode ∧ msg.statusCode < 300 then
      if call.state = .kCalling then enterMoves (messageCallId msg) call .kConnected
      else if call.state = .kDisconnecting then dropMoves m (messageCallId msg)
      else []
    else if msg.statusCode ≥ 300 then enterMoves (messageCallId msg) call .kFailed
    else []

def inviteMoves (m : SipManager κ) (id : String) : List Move :=
  if id.isEmpty ∨ (m.calls.lookup id).isSome then []
  else [.store id id .kRinging, .report id .kRinging, .store id id .kConnected, .report id .kConnected]

def messageMoves (m : SipManager κ) (msg : OsipMessage) : List Move :=
  if msg.statusCode = 0 then
    match msg.method with
    | some "INVITE" => inviteMoves m (messageCallId msg)
    | some "BYE" | some "CANCEL" => dropMoves m (messageCallId msg)
    | _ => []
  else responseMoves m msg

/-- the timer of the call has run out, and nothing is left to retransmit -/
def GivesUp (m : SipManager κ) (v : Visit) (call : SipCall) : Prop :=
  ¬ (call.isTimerExpired v.firstCheck ∧ call.retransmitCount < m.config.maxRetransmit) ∧
    call.isTimerExpired v.secondCheck

instance (m : SipManager κ) (v : Visit) (call : SipCall) : Decidable (GivesUp m v call) :=
  inferInstanceAs (Decidable (_ ∧ _))

def visitMoves (m : SipManager κ) (v : Visit) : List Move :=
  match m.calls.lookup v.callId with
  | none => []
  | some call =>
    if GivesUp m v call then [.store v.callId call.callId .kFailed, .report call.callId .kFailed] else []

def moves (m : SipManager κ) : SipOp → List Move
  | .makeCall .. =>
    let id := (generateCallId E m).1
    if m.initialized then [.store id id .kCalling, .report id .kCalling] else []
  | .answerCall id accept =>
    match m.calls.lookup id with
    | none => []
    | some call => if accept then enterMoves id call .kConnected else dropMoves m id
  | .hangUp id =>
    match m.calls.lookup id with
    | none => []
    | some call =>
      if call.state ≠ .kConnected ∧ call.state ≠ .kInProgress then [] else enterMoves id call .kDisconnecting
  | .cancelCall id => dropMoves m id
  | .incoming rawMsg _ _ =>
    match E.parse rawMsg with
    | none => []
    | some msg => messageMoves m msg
  | .processTimers visits => visits.flatMap (visitMoves m)
  | .register => if m.initialized then [.report "" .kRegistered] else []
  | .unregister => if m.registered then [.report "" .kUnregistered] else []
  | .shutdown => (if m.registered then [.report "" .kUnregistered] else []) ++ [.clear]
  | .initialise .. | .processIncomingSdp .. => []

/-- a change that neither the table nor the callback shows -/
def Quiet (m m' : SipManager κ) : Prop := m'.sipEventCb = m.sipEventCb ∧ m'.table = m.table

variable (cb) in
inductive Performs : List Move → SipManager κ × σ → SipManager κ × σ → Prop
  | done (s : SipManager κ × σ) : Performs [] s s
  | quiet {ms : List Move} {s s' : SipManager κ × σ} {m : SipManager κ} :
      Quiet s.1 m → Performs ms (m, s.2) s' → Performs ms s s'
  | store {ms : List Move} {s s' : SipManager κ × σ} {id : String} {call : SipCall} :
      Performs ms (s.1.putCall id call, s.2) s' → Performs (.store id call.callId call.state :: ms) s s'
  | erase {ms : List Move} {s s' : SipManager κ × σ} {id : String} :
      Performs ms (s.1.eraseCall id, s.2) s' → Performs (.erase id :: ms) s s'
  | clear {ms : List Move} {s s' : SipManager κ × σ} :
      Performs ms ({ s.1 with calls := ∅ }, s.2) s' → Performs (.clear :: ms) s s'
  | report {ms : List Move} {s s' : SipManager κ × σ} {id : String} {st : SipCallState} :
      Performs ms (notifyStateChange cb id st s) s' → Performs (.report id st :: ms) s s'

/-! ## What the moves amount to -/

theorem table_putCall (m : SipManager κ) (id : String) (call : SipCall) :
    (m.putCall id call).table = Function.update m.table id (some (call.callId, call.state)) := by
  funext x
  rw [table, lookup_putCall, Function.update_apply]
  split_ifs <;> rfl

theorem table_eraseCall (m : SipManager κ) (id : String) :
    (m.eraseCall id).table = Function.update m.table id none := by
  funext x
  rw [table, lookup_eraseCall, Function.update_apply]
  split_ifs <;> rfl

/-- calls that differ in their session info only make the same table -/
theorem table_of_core {m m' : SipManager κ}
    (h : ∀ x, (m'.calls.lookup x).map SipCall.core = (m.calls.lookup x).map SipCall.core) : m'.table = m.table := by
  funext x
  have hx := congrArg (Option.map fun call : SipCall => (call.callId, call.state)) (h x)
  rwa [Option.map_map, Option.map_map] at hx

theorem BuilderFrame.quiet {m m' : SipManager κ} (h : BuilderFrame m m') : Quiet m m' := by
  obtain ⟨_, _, rfl⟩ := h
  exact ⟨rfl, rfl⟩

theorem Tame.quiet (h : Tame cb) (id : String) (st : SipCallState) (s : SipManager κ × σ) :
    Quiet s.1 (notifyStateChange cb id st s).1 := by
  obtain ⟨calls, heq, hcore⟩ := h.notify id st s
  exact ⟨by rw [heq], table_of_core (by rwa [heq])⟩

namespace Performs

variable {ms ms' : List Move} {s s' s'' : SipManager κ × σ}

theorem trans (h : Performs cb ms s s') (h' : Performs cb ms' s' s'') : Performs cb (ms ++ ms') s s'' := by
  induction h with
  | done s => exact h'
  | quiet hq _ ih => exact .quiet hq (ih h')
  | store _ ih => exact .store (ih h')
  | erase _ ih => exact .erase (ih h')
  | clear _ ih => exact .clear (ih h')
  | report _ ih => exact .report (ih h')

theorem table (htame : Tame cb) (h : Performs cb ms s s') : s'.1.table = ms.foldl Move.run s.1.table := by
  induction h with
  | done s => rfl
  | quiet hq _ ih => rw [ih, hq.2]
  | store _ ih => rw [ih, table_putCall, List.foldl_cons, Move.run]
  | erase _ ih => rw [ih, table_eraseCall, List.foldl_cons, Move.run]
  | clear _ ih => exact ih
  | report _ ih => rw [ih, (htame.quiet _ _ _).2, List.foldl_cons, Move.run]

theorem callback (htame : Tame cb) (h : Performs cb ms s s') : s'.1.sipEventCb = s.1.sipEventCb := by
  induction h with
  | done s => rfl
  | quiet hq _ ih => exact ih.trans hq.1
  | store _ ih => exact ih
  | erase _ ih => exact ih
  | clear _ ih => exact ih
  | report _ ih => exact ih.trans (htame.quiet _ _ _).1

/-- a callback that is installed is told the reports, in order -/
theorem log (htame : Tame cb) {s s' : SipManager κ × σ × List (String × SipCallState)}
    (h : Performs (observing cb) ms s s') (hcb : s.1.sipEventCb.isSome) :
    s'.2.2 = s.2.2 ++ ms.filterMap Move.told := by
  induction h with
  | done s => simp
  | quiet hq _ ih => exact ih (by rwa [hq.1])
  | store _ ih => exact ih hcb
  | erase _ ih => exact ih hcb
  | clear _ ih => exact ih hcb
  | @report ms s s' id st _ ih =>
    obtain ⟨k, hk⟩ := Option.isSome_iff_exists.1 hcb
    have hlog : (notifyStateChange (observing cb) id st s).2.2 = s.2.2 ++ [(id, st)] := by
      simp only [notifyStateChange, hk, observing]
    have hcb' : (notifyStateChange (observing cb) id st s).1.sipEventCb.isSome := by
      rwa [(htame.observing.quiet id st s).1]
    rw [ih hcb', hlog, List.append_assoc]
    rfl

end Performs

/-! ## The operations perform their moves -/

/-- a call is stored and a state reported, possibly after messages were built -/
theorem performs_report {s : SipManager κ × σ} {m : SipManager κ} (hm : Quiet s.1 m) (id told : String)
    (call : SipCall) (st : SipCallState) :
    Performs cb [.store id call.callId call.state, .report told st] s
      (notifyStateChange cb told st (m.putCall id call, s.2)) :=
  .quiet hm (.store (.report (.done _)))

/-- a stored call enters a state -/
theorem performs_enter {s : SipManager κ × σ} {m : SipManager κ} (hm : Quiet s.1 m) (id : String) (call : SipCall)
    (st : SipCallState) :
    Performs cb (enterMoves id call st) s (notifyStateChange cb id st (m.putCall id (call.setState st), s.2)) := by
  have h : Performs cb _ s _ := performs_report hm id id (call.setState st) st
  rwa [SipCall.callId_setState, SipCall.state_setState] at h

/-- a stored call is disconnected, reported and erased -/
theorem performs_terminate {s : SipManager κ × σ} {m : SipManager κ} (hm : Quiet s.1 m) {id : String}
    {call : SipCall} (hl : s.1.calls.lookup id = some call) :
    let s' := notifyStateChange cb id .kDisconnected (m.putCall id (call.setState .kDisconnected), s.2)
    Performs cb (dropMoves s.1 id) s (s'.1.eraseCall id, s'.2) := by
  rw [dropMoves, hl]
  exact (performs_enter hm id call .kDisconnected).trans (.erase (.done _))

variable (cb) (s : SipManager κ × σ)

theorem performs_makeCall (calleeUri : String) (mem : Uninit) (now : ℕ) :
    Performs cb (moves E s.1 (.makeCall calleeUri mem now)) s (makeCall E cb calleeUri mem now s).2 := by
  unfold moves
  cases hi : s.1.initialized with
  | false =>
    rw [makeCall, hi]
    exact .done s
  | true =>
    obtain ⟨m, id, call, heq, hid, hframe, hkey, hstate, -⟩ := makeCall_spec E cb calleeUri mem now s hi
    have h : Performs cb _ s _ := performs_report hframe.quiet id id call .kCalling
    rw [hkey, hstate] at h
    rw [heq, if_pos rfl, ← hid]
    exact h

theorem performs_answerCall (id : String) (accept : Bool) :
    Performs cb (moves E s.1 (.answerCall id accept)) s (answerCall E cb id accept s).2 := by
  rw [moves, answerCall]
  cases hl : s.1.calls.lookup id with
  | none => exact .done s
  | some call =>
    have hframe : BuilderFrame s.1 (buildResponse E (if accept then 200 else 486)
        (if accept then "OK" else "Busy Here") (generateTag E s.1).1 (generateTag E s.1).2).2 :=
      (generateTag_frame _ _).trans (buildResponse_frame _ _ _ _ _)
    cases accept with
    | true => exact performs_enter hframe.quiet id call .kConnected
    | false => exact performs_terminate hframe.quiet hl

theorem performs_hangUp (id : String) : Performs cb (moves E s.1 (.hangUp id)) s (hangUp E cb id s).2 := by
  rw [moves, hangUp]
  cases hl : s.1.calls.lookup id with
  | none => exact .done s
  | some call =>
    simp only
    split_ifs with hst
    · exact .done s
    · -- the BYE is built after the call was stored
      obtain ⟨m₀, hm₀, heq⟩ := (buildInDialogRequest_frame E
        (s.1.putCall id (call.setState .kDisconnecting)) "BYE" id).of_putCall
      show Performs cb _ s (notifyStateChange cb id .kDisconnecting
        ((buildInDialogRequest E "BYE" id (s.1.putCall id (call.setState .kDisconnecting))).2, s.2))
      rw [heq]
      exact performs_enter hm₀.quiet id call .kDisconnecting

theorem performs_dropCall (id : String) : Performs cb (dropMoves s.1 id) s (dropCall cb id s) := by
  unfold dropCall
  cases hl : s.1.calls.lookup id with
  | none =>
    rw [dropMoves, hl]
    exact .done s
  | some call => exact performs_terminate (BuilderFrame.refl s.1).quiet hl

theorem performs_handleBye (msg : OsipMessage) :
    Performs cb (dropMoves s.1 (messageCallId msg)) s (handleBye E cb msg s) := by
  have h := (performs_dropCall cb s (messageCallId msg)).trans
    (.quiet (buildResponse_frame E _ 200 "OK" "").quiet (.done _))
  rwa [List.append_nil] at h

theorem performs_handleResponse (msg : OsipMessage) :
    Performs cb (responseMoves s.1 msg) s (handleResponse E cb msg s) := by
  rw [responseMoves, handleResponse]
  cases hl : s.1.calls.lookup (messageCallId msg) with
  | none => exact .done s
  | some call =>
    simp only
    split_ifs
    · exact performs_enter (buildInDialogRequest_frame _ _ _ _).quiet _ call .kConnected
    · exact performs_terminate (BuilderFrame.refl s.1).quiet hl
    · exact .done s
    · -- the error text shows nowhere
      have h : Performs cb _ s _ := performs_report (BuilderFrame.refl s.1).quiet (messageCallId msg)
        (messageCallId msg) ((call.setState .kFailed).setError ("SIP " ++ toString msg.statusCode)) .kFailed
      have hkey : ((call.setState .kFailed).setError ("SIP " ++ toString msg.statusCode)).callId = call.callId :=
        SipCall.callId_setState call .kFailed
      have hstate : ((call.setState .kFailed).setError ("SIP " ++ toString msg.statusCode)).state = .kFailed :=
        SipCall.state_setState call .kFailed
      rwa [hkey, hstate] at h
    · exact .done s

theorem performs_autoAnswer {id callId : String} {st : SipCallState} (hentry : s.1.table id = some (callId, st)) :
    Performs cb [.store id callId .kConnected, .report id .kConnected] s (autoAnswer E cb id s) := by
  obtain ⟨m, hframe, heq⟩ := autoAnswer_spec E cb id s
  obtain ⟨call, hl, hcall⟩ := Option.map_eq_some_iff.1 hentry
  obtain ⟨rfl, rfl⟩ := Prod.mk.inj hcall
  rw [heq, hl]
  exact performs_enter hframe.quiet id call .kConnected

variable {cb}

theorem performs_handleInvite (htame : Tame cb) (msg : OsipMessage) (mem : Uninit) (now : ℕ) :
    Performs cb (inviteMoves s.1 (messageCallId msg)) s (handleInvite E cb msg mem now s) := by
  unfold inviteMoves
  split_ifs with hknown
  · obtain ⟨m, hcalls, hcb, heq, -⟩ := handleInvite_known E cb msg mem now s hknown
    rw [heq]
    have htable : m.table = s.1.table := by
      funext x
      rw [table, hcalls, table]
    exact .quiet (m := m) ⟨hcb, htable⟩ (.done _)
  · rw [handleInvite_new E cb msg mem now s hknown]
    set id := messageCallId msg
    have hquiet : Quiet s.1 (cacheHeaders msg id s.1) := ⟨rfl, rfl⟩
    have hringing : Performs cb _ s _ := performs_report hquiet id id (ringingCall s.1.config msg mem now) .kRinging
    rw [callId_ringingCall, state_ringingCall] at hringing
    have hentry : (notifyStateChange cb id .kRinging ((cacheHeaders msg id s.1).putCall id
        (ringingCall s.1.config msg mem now), s.2)).1.table id = some (id, SipCallState.kRinging) := by
      rw [hringing.table htame]
      simp [Move.run, show messageCallId msg = id from rfl]
    exact hringing.trans (performs_autoAnswer E cb _ hentry)

theorem performs_incoming (htame : Tame cb) (rawMsg : String) (mem : Uninit) (now : ℕ) :
    Performs cb (moves E s.1 (.incoming rawMsg mem now)) s (processIncomingMessage E cb rawMsg mem now s) := by
  rw [moves]
  cases hmsg : E.parse rawMsg with
  | none =>
    rw [incoming_none E cb hmsg]
    exact .done s
  | some msg =>
    simp only [messageMoves]
    rcases incoming_cases E cb hmsg with ⟨hrequest, hmethod, heq⟩ | ⟨hrequest, hmethod, heq⟩ |
      ⟨hrequest, hmethod, heq⟩ | ⟨hrequest, ⟨hinvite, hbye, hcancel⟩, heq⟩ | ⟨hresponse, heq⟩
    · simp only [heq, if_pos hrequest, hmethod]
      exact performs_handleInvite E s htame msg mem now
    · simp only [heq, if_pos hrequest, hmethod]
      exact performs_handleBye E cb s msg
    · simp only [heq, if_pos hrequest, hmethod]
      exact performs_dropCall cb s (messageCallId msg)
    · simp only [heq, if_pos hrequest]
      exact .done s
    · rw [heq, if_neg hresponse]
      exact performs_handleResponse E cb s msg

/-! ### Timers -/

/-- a call stored again in its state -/
theorem quiet_putCall {m : SipManager κ} {id : String} {call call' : SipCall} (hl : m.calls.lookup id = some call)
    (hid : call'.callId = call.callId) (hst : call'.state = call.state) : Quiet m (m.putCall id call') := by
  refine ⟨rfl, ?_⟩
  rw [table_putCall, Function.update_eq_self_iff, table, hl, hid, hst]
  rfl

theorem performs_visitTimer (v : Visit) : Performs cb (visitMoves s.1 v) s (visitTimer cb s v) := by
  rw [visitMoves, visitTimer]
  cases hl : s.1.calls.lookup v.callId with
  | none => exact .done s
  | some call =>
    simp only
    by_cases hretransmit : call.isTimerExpired v.firstCheck ∧ call.retransmitCount < s.1.config.maxRetransmit
    · have hgives : ¬ GivesUp s.1 v call := fun h => h.1 hretransmit
      rw [if_neg hgives, if_pos hretransmit]
      refine .quiet (m := s.1.putCall v.callId _) ?_ (.done _)
      exact quiet_putCall hl rfl rfl
    · rw [if_neg hretransmit]
      by_cases hexpired : call.isTimerExpired v.secondCheck
      · have hgives : GivesUp s.1 v call := ⟨hretransmit, hexpired⟩
        rw [if_pos hgives, if_pos hexpired]
        have h : Performs cb _ s _ := performs_report (BuilderFrame.refl s.1).quiet v.callId call.callId
          (call.setState .kFailed) .kFailed
        rwa [SipCall.callId_setState, SipCall.state_setState] at h
      · have hgives : ¬ GivesUp s.1 v call := fun h => hexpired h.2
        rw [if_neg hgives, if_neg hexpired]
        exact .done s

/-- a visit leaves the configuration and the other calls -/
theorem visitTimer_others (htame : Tame cb) (v : Visit) : (visitTimer cb s v).1.config = s.1.config ∧
    ∀ x, x ≠ v.callId → ((visitTimer cb s v).1.calls.lookup x).map SipCall.core =
      (s.1.calls.lookup x).map SipCall.core := by
  unfold visitTimer
  cases hl : s.1.calls.lookup v.callId with
  | none => exact ⟨rfl, fun _ _ => rfl⟩
  | some call =>
    simp only
    split_ifs
    · refine ⟨rfl, fun x hx => ?_⟩
      rw [lookup_putCall, if_neg hx]
    · obtain ⟨calls, heq, hcore⟩ := htame.notify call.callId .kFailed
        (s.1.putCall v.callId (call.setState .kFailed), s.2)
      refine ⟨by rw [heq]; rfl, fun x hx => ?_⟩
      rw [heq, hcore, lookup_putCall, if_neg hx]
    · exact ⟨rfl, fun _ _ => rfl⟩

theorem visitMoves_congr {m m' : SipManager κ} {v : Visit} (hconfig : m'.config = m.config)
    (hcore : (m'.calls.lookup v.callId).map SipCall.core = (m.calls.lookup v.callId).map SipCall.core) :
    visitMoves m' v = visitMoves m v := by
  rw [visitMoves, visitMoves]
  cases hl : m.calls.lookup v.callId with
  | none =>
    rw [hl, Option.map_none, Option.map_eq_none_iff] at hcore
    rw [hcore]
  | some call =>
    rw [hl, Option.map_some, Option.map_eq_some_iff] at hcore
    obtain ⟨call', hl', hcall⟩ := hcore
    have hid : call'.core.callId = call.core.callId := by rw [hcall]
    have hgives : GivesUp m' v call'.core ↔ GivesUp m v call.core := by
      rw [hcall, GivesUp, GivesUp, hconfig]
    have hgives' : GivesUp m' v call' ↔ GivesUp m v call := hgives
    rw [hl']
    simp only [show call'.callId = call.callId from hid, hgives']

/-- **A walk over the calls**: what a visit does to its call is decided by the state before the walk -/
theorem performs_processTimers (htame : Tame cb) (visits : List Visit) (hnodup : (visits.map Visit.callId).Nodup) :
    Performs cb (visits.flatMap (visitMoves s.1)) s (processTimers cb visits s) := by
  induction visits generalizing s with
  | nil => exact .done s
  | cons v vs ih =>
    obtain ⟨hv, hvs⟩ := List.nodup_cons.1 hnodup
    obtain ⟨hconfig, hothers⟩ := visitTimer_others s htame v
    have hsame : vs.flatMap (visitMoves (visitTimer cb s v).1) = vs.flatMap (visitMoves s.1) := by
      refine List.flatMap_congr fun w hw => visitMoves_congr hconfig (hothers w.callId ?_)
      exact fun heq => hv (heq ▸ List.mem_map_of_mem hw)
    have hrest := ih (visitTimer cb s v) hvs
    rw [hsame] at hrest
    exact (performs_visitTimer s v).trans hrest

/-! ### All operations -/

theorem performs_unregister : Performs cb (moves E s.1 .unregister) s (unregister cb s).2 := by
  rw [moves, unregister]
  cases hr : s.1.registered with
  | false => exact .done s
  | true => exact .quiet (m := { s.1 with registered := false }) ⟨rfl, rfl⟩ (.report (.done _))

theorem performs_shutdown : Performs cb (moves E s.1 .shutdown) s (shutdown cb s) := by
  have hempty : ∀ s : SipManager κ × σ,
      Performs cb [.clear] s ({ s.1 with calls := ∅, initialized := false }, s.2) := fun s =>
    .quiet (m := { s.1 with initialized := false }) ⟨rfl, rfl⟩ (.clear (.done _))
  have hunregister : Performs cb _ s _ := performs_unregister E s
  simp only [moves] at hunregister ⊢
  unfold shutdown
  cases hr : s.1.registered with
  | false => exact hempty s
  | true =>
    rw [hr] at hunregister
    exact hunregister.trans (hempty _)

/-- **Every operation performs its moves** -/
theorem step_performs (htame : Tame cb) (o : SipOp) (hwalk : Walks s.1 o) :
    Performs cb (moves E s.1 o) s (step E cb s o) := by
  cases o with
  | initialise osipInit config =>
    refine .quiet (m := (initialise E osipInit config s.1).2) ?_ (.done _)
    unfold initialise
    cases osipInit <;> exact ⟨rfl, rfl⟩
  | makeCall calleeUri mem now => exact performs_makeCall E cb s calleeUri mem now
  | answerCall id accept => exact performs_answerCall E cb s id accept
  | hangUp id => exact performs_hangUp E cb s id
  | cancelCall id =>
    rw [step, cancelCall_snd]
    exact performs_dropCall cb s id
  | incoming rawMsg mem now => exact performs_incoming E s htame rawMsg mem now
  | processTimers visits =>
    exact performs_processTimers s htame visits (hwalk.nodup_iff.2 s.1.calls.keys_nodup)
  | processIncomingSdp id sdpBody =>
    refine .quiet (m := (processIncomingSdp id sdpBody s.1).2) ?_ (.done _)
    rcases processIncomingSdp_cases id sdpBody s.1 with heq | ⟨call, sess, hl, heq⟩
    · rw [heq]
      exact ⟨rfl, rfl⟩
    · rw [heq]
      exact quiet_putCall hl rfl rfl
  | register =>
    rw [moves, step, register]
    cases hi : s.1.initialized with
    | false => exact .done s
    | true => exact .quiet (m := { s.1 with registered := true }) ⟨rfl, rfl⟩ (.report (.done _))
  | unregister => exact performs_unregister E s
  | shutdown => exact performs_shutdown E s

end SipManager

end Rtcom
