/-
Which operations of `SipManager` use an iterator into `calls_` after the callback has erased its entry (`Iterators` has
the operations). An operation that ends a call erases the entry once the callback has been told, and `ProcessTimers`
goes on from the call it gives up: a callback that calls `CancelCall` there takes the entry away.

- `notify_spec`: what the callback leaves of the entries.
- `passes_step`: the entries that one operation uses are there exactly if the callback keeps them.
- `iterators_live_iff`: and the same of any run.
- `cancelled_twice`: a callback that cancels the call that is being cancelled.
-/
import Mathlib.Tactic
import Rtcom.Sip.Iterators

namespace Rtcom

open Runs

namespace Watched

variable {σ : Type} {E : SipEnv}

/-! ## What is to hold -/

/-- every entry was there when its iterator was used -/
def AllLive (w : Watched σ) : Prop := ∀ a ∈ w.accesses, a.live = true

/-- told this, the callback calls `CancelCall` -/
def Cancels (w : Watched σ) (callId : String) (state : SipCallState) : Prop :=
  ∃ cb ∈ w.manager.sipEventCb, (cb.notified callId state w.owner).2.isSome = true

/-- the callback does not cancel the call when it is told that it is disconnected -/
def KeepsEntry (w : Watched σ) (callId : String) : Prop :=
  (w.lookup callId).isSome → ¬ Cancels w callId .kDisconnected

/-- the handler of the message erases the entry of the call after it has told the callback: a BYE, a CANCEL, or the 2xx
to our BYE -/
def Terminates (w : Watched σ) (msg : OsipMessage) : Prop :=
  if msg.statusCode = 0 then msg.method = some "BYE" ∨ msg.method = some "CANCEL"
  else (200 ≤ msg.statusCode ∧ msg.statusCode < 300) ∧
    (w.lookup (SipManager.messageCallId msg)).map SipCall.state = some .kDisconnecting

/-- the callback does not cancel the call that a turn of `ProcessTimers` gives up -/
def VisitKeeps (w : Watched σ) (v : Visit) : Prop :=
  ∀ call, w.lookup v.callId = some call → SipManager.GivesUp w.manager v call → ¬ Cancels w v.callId .kFailed

variable (E) in
/-- the callback does not cancel a call whose entry the operation uses afterwards -/
def EntryKept (w : Watched σ) : ManagerOp σ → Prop
  | .operation (.answerCall callId accept) => accept = false → KeepsEntry w callId
  | .operation (.cancelCall callId) => KeepsEntry w callId
  | .operation (.incoming rawMsg _ _) =>
    ∀ msg ∈ E.parse rawMsg, Terminates w msg → KeepsEntry w (SipManager.messageCallId msg)
  | .operation (.processTimers visits) => Along visitTimer VisitKeeps w visits
  | _ => True

/-! ## Entries -/

/-- calls are stored under their own ids -/
def OwnIds (w : Watched σ) : Prop := ∀ x call, w.lookup x = some call → call.callId = x

variable {w : Watched σ}

theorem ownIds_of_empty (h : w.manager.calls = ∅) : OwnIds w := by
  intro x call hl
  rw [lookup, h, AList.lookup_empty] at hl
  cases hl

theorem allLive_access (use : IteratorUse) (it : String) :
    AllLive (w.access use it) ↔ AllLive w ∧ (w.lookup it).isSome = true := by
  simp only [AllLive, access, List.forall_mem_append, List.forall_mem_singleton]

theorem allLive_assign (it : String) (call : SipCall) :
    AllLive (w.assign it call) ↔ AllLive w ∧ (w.lookup it).isSome = true := allLive_access .dereference it

theorem allLive_erase (it : String) : AllLive (w.erase it) ↔ AllLive w ∧ (w.lookup it).isSome = true :=
  allLive_access .erase it

theorem lookup_assign (it : String) (call : SipCall) (x : String) :
    (w.assign it call).lookup x = if x = it then some call else w.lookup x :=
  SipManager.lookup_putCall w.manager it call x

theorem lookup_erase (it x : String) : (w.erase it).lookup x = if x = it then none else w.lookup x :=
  SipManager.lookup_eraseCall w.manager it x

/-- a builder runs between two uses -/
theorem lookup_frame {m : SipManager (SipEventCallback σ)} (h : SipManager.BuilderFrame w.manager m) (x : String) :
    ({ w with manager := m } : Watched σ).lookup x = w.lookup x := by
  unfold lookup
  rw [h.calls]

theorem cancels_frame {m : SipManager (SipEventCallback σ)} (h : SipManager.BuilderFrame w.manager m) (callId : String)
    (state : SipCallState) : Cancels ({ w with manager := m } : Watched σ) callId state ↔ Cancels w callId state := by
  unfold Cancels
  rw [h.sipEventCb]

/-! ## The callback's CancelCall -/

theorem renotify_eq (callId : String) (state : SipCallState) (w : Watched σ) :
    ∃ owner, renotify callId state w = { w with owner } := by
  unfold renotify
  cases w.manager.sipEventCb with
  | none => exact ⟨w.owner, rfl⟩
  | some cb => exact ⟨_, rfl⟩

/-- it erases the entry, and its own accesses are live -/
theorem renotified_cancelCall (callId : String) (w : Watched σ) :
    (AllLive (cancelCallWith renotify callId w).2 ↔ AllLive w) ∧
      ∀ x, (cancelCallWith renotify callId w).2.lookup x = if x = callId then none else w.lookup x := by
  unfold cancelCallWith
  cases hl : w.lookup callId with
  | none =>
    refine ⟨Iff.rfl, fun x => ?_⟩
    split_ifs with hx
    · rw [hx]
      exact hl
    · rfl
  | some call =>
    obtain ⟨owner, heq⟩ := renotify_eq callId .kDisconnected (w.assign callId (call.setState .kDisconnected))
    simp only [heq]
    have hthere : (w.lookup callId).isSome = true := by
      rw [hl]
      rfl
    have hlive : AllLive (w.assign callId (call.setState .kDisconnected)) ↔ AllLive w :=
      (allLive_assign callId _).trans (and_iff_left hthere)
    have hassigned : ∀ x, ({ w.assign callId (call.setState .kDisconnected) with owner } : Watched σ).lookup x =
        if x = callId then some (call.setState .kDisconnected) else w.lookup x := lookup_assign _ _
    refine ⟨?_, fun x => ?_⟩
    · rw [allLive_erase, hassigned, if_pos rfl]
      exact (and_iff_left rfl).trans hlive
    · rw [lookup_erase, hassigned]
      split_ifs <;> rfl

/-- **What a notification does**: no access of it is to an entry that is gone; if the callback cancels, the entry is
gone behind it, and the other entries stay -/
theorem notify_spec (callId : String) (state : SipCallState) (w : Watched σ) :
    (AllLive (notifyStateChange callId state w) ↔ AllLive w) ∧
      (Cancels w callId state → ∀ x, (notifyStateChange callId state w).lookup x =
        if x = callId then none else w.lookup x) ∧
      (¬ Cancels w callId state → ∀ x, (notifyStateChange callId state w).lookup x = w.lookup x) := by
  unfold notifyStateChange Cancels
  cases w.manager.sipEventCb with
  | none =>
    refine ⟨Iff.rfl, ?_, fun _ _ => rfl⟩
    rintro ⟨cb, hcb, -⟩
    cases hcb
  | some cb =>
    simp only
    cases hcancel : (cb.notified callId state w.owner).2 with
    | none =>
      refine ⟨Iff.rfl, ?_, fun _ _ => rfl⟩
      rintro ⟨cb', hcb, hcancels⟩
      obtain rfl := Option.some.inj hcb
      rw [hcancel] at hcancels
      cases hcancels
    | some resume =>
      obtain ⟨hlive, hlookup⟩ := renotified_cancelCall callId { w with owner := (cb.notified callId state w.owner).1 }
      refine ⟨hlive, fun _ => hlookup, fun hnot => absurd ⟨cb, rfl, ?_⟩ hnot⟩
      rw [hcancel]
      rfl

theorem lookup_notify {callId : String} {state : SipCallState} {x : String} {call : SipCall}
    (h : (notifyStateChange callId state w).lookup x = some call) : w.lookup x = some call := by
  obtain ⟨-, hcancels, hkept⟩ := notify_spec callId state w
  by_cases hcancel : Cancels w callId state
  · rw [hcancels hcancel] at h
    split_ifs at h
    exact h
  · rwa [hkept hcancel] at h

/-- the entry is there after the notification unless the callback cancels -/
theorem isSome_lookup_notify {callId : String} {state : SipCallState} (hthere : (w.lookup callId).isSome = true) :
    ((notifyStateChange callId state w).lookup callId).isSome = true ↔ ¬ Cancels w callId state := by
  obtain ⟨-, hcancels, hkept⟩ := notify_spec callId state w
  by_cases hcancel : Cancels w callId state
  · rw [hcancels hcancel, if_pos rfl]
    exact iff_of_false Bool.false_ne_true (not_not.2 hcancel)
  · rw [hkept hcancel]
    exact iff_of_true hthere hcancel

/-! ## Parts of an operation -/

/-- from w to w' the entries used are there exactly if P holds, and calls stay under their own ids -/
structure Passes (P : Prop) (w w' : Watched σ) : Prop where
  live : AllLive w' ↔ AllLive w ∧ P
  ownIds : OwnIds w → OwnIds w'

variable {P Q : Prop} {w' w'' : Watched σ}

theorem Passes.same (hP : P) : Passes P w w := ⟨(and_iff_left hP).symm, id⟩

theorem Passes.of_iff (h : Passes P w w') (hiff : P ↔ Q) : Passes Q w w' := ⟨by rw [h.live, hiff], h.ownIds⟩

/-- a part that uses no entry, or one that is there, and then the rest -/
theorem Passes.before (h : Passes True w w') (h' : Passes P w' w'') : Passes P w w'' where
  live := by
    rw [h'.live, h.live, and_true]
  ownIds hown := h'.ownIds (h.ownIds hown)

/-- and then a part that uses no entry, or one that is there -/
theorem Passes.after (h : Passes P w w') (h' : Passes True w' w'') : Passes P w w'' where
  live := by
    rw [h'.live, h.live, and_true]
  ownIds hown := h'.ownIds (h.ownIds hown)

/-- the calls are left alone -/
theorem passes_keep {m : SipManager (SipEventCallback σ)} (hcalls : m.calls = w.manager.calls) :
    Passes True w { w with manager := m } where
  live := (and_iff_left trivial).symm
  ownIds hown x call hl := by
    refine hown x call ?_
    unfold lookup at hl ⊢
    rwa [← hcalls]

/-- a call is stored under its own id -/
theorem passes_store {m : SipManager (SipEventCallback σ)} (hcalls : m.calls = w.manager.calls) {callId : String}
    {call : SipCall} (hid : OwnIds w → call.callId = callId) :
    Passes True w { w with manager := m.putCall callId call } where
  live := (and_iff_left trivial).symm
  ownIds hown x call' hl := by
    unfold lookup at hl
    rw [SipManager.lookup_putCall, hcalls] at hl
    split_ifs at hl with hx
    · obtain rfl := Option.some.inj hl
      exact (hid hown).trans hx.symm
    · exact hown x call' hl

theorem passes_access (use : IteratorUse) {it : String} {call : SipCall} (hl : w.lookup it = some call) :
    Passes True w (w.access use it) where
  live := by
    rw [allLive_access, hl]
    exact and_congr_right fun _ => iff_of_true rfl trivial
  ownIds hown := hown

theorem passes_assign {it : String} {call call' : SipCall} (hl : w.lookup it = some call)
    (hid : call'.callId = call.callId) : Passes True w (w.assign it call') where
  live := (passes_access .dereference hl).live
  ownIds := (passes_store rfl fun hown => hid.trans (hown it call hl)).ownIds

theorem passes_notify (callId : String) (state : SipCallState) : Passes True w (notifyStateChange callId state w) where
  live := (notify_spec callId state w).1.trans (and_iff_left trivial).symm
  ownIds hown x call hl := hown x call (lookup_notify hl)

/-- a call enters a state -/
theorem passes_enter {callId : String} {call call' : SipCall} (hl : w.lookup callId = some call)
    (hid : call'.callId = call.callId) (state : SipCallState) :
    Passes True w (notifyStateChange callId state (w.assign callId call')) :=
  (passes_assign hl hid).before (passes_notify callId state)

/-- a call enters a state, and its iterator is used -/
theorem passes_use (use : IteratorUse) {callId : String} {call call' : SipCall} (hl : w.lookup callId = some call)
    (hid : call'.callId = call.callId) (state : SipCallState) : Passes (¬ Cancels w callId state) w
      ((notifyStateChange callId state (w.assign callId call')).access use callId) where
  live := by
    have hthere : ((w.assign callId call').lookup callId).isSome = true := by
      rw [lookup_assign, if_pos rfl]
      rfl
    have hkept : ((notifyStateChange callId state (w.assign callId call')).lookup callId).isSome = true ↔
        ¬ Cancels w callId state := isSome_lookup_notify hthere
    rw [allLive_access, (passes_enter hl hid state).live, hkept, and_true]
  ownIds hown := (passes_enter hl hid state).ownIds hown

/-- a call is disconnected, reported and erased -/
theorem passes_terminate {callId : String} {call : SipCall} (hl : w.lookup callId = some call) :
    Passes (¬ Cancels w callId .kDisconnected) w ((notifyStateChange callId .kDisconnected
      (w.assign callId (call.setState .kDisconnected))).erase callId) where
  live := (passes_use .erase hl (SipCall.callId_setState call _) .kDisconnected).live
  ownIds hown x call' hx := by
    rw [lookup_erase] at hx
    split_ifs at hx
    exact (passes_enter hl (SipCall.callId_setState call _) .kDisconnected).ownIds hown x call' hx

theorem keepsEntry_none {callId : String} (hl : w.lookup callId = none) : KeepsEntry w callId := by
  intro hthere
  rw [hl] at hthere
  cases hthere

theorem keepsEntry_some {callId : String} {call : SipCall} (hl : w.lookup callId = some call) :
    KeepsEntry w callId ↔ ¬ Cancels w callId .kDisconnected := by
  rw [KeepsEntry, hl]
  exact forall_prop_of_true rfl

/-! ## The operations, one by one -/

variable (E)

theorem passes_makeCall (calleeUri : String) (mem : Uninit) (now : ℕ) (w : Watched σ) :
    Passes True w (makeCall E calleeUri mem now w).2 := by
  unfold makeCall
  cases w.manager.initialized with
  | false => exact .same trivial
  | true =>
    have hid := SipManager.generateCallId_frame E w.manager
    have hinvite := SipManager.buildInviteRequest_frame E (SipManager.generateCallId E w.manager).2
      (SipManager.generateCallId E w.manager).1 calleeUri
    refine (passes_store (hid.trans hinvite).calls fun _ => ?_).before (passes_notify _ _)
    rw [SipCall.callId_startTimer, SipCall.callId_setState, SipCall.callId_new]

theorem passes_answerCall (callId : String) (accept : Bool) (w : Watched σ) :
    Passes (accept = false → KeepsEntry w callId) w (answerCall E callId accept w).2 := by
  unfold answerCall
  cases hl : w.lookup callId with
  | none => exact .same fun _ => keepsEntry_none hl
  | some call =>
    have hframe := (SipManager.generateTag_frame E w.manager).trans
      (SipManager.buildResponse_frame E (SipManager.generateTag E w.manager).2 (if accept then 200 else 486)
        (if accept then "OK" else "Busy Here") (SipManager.generateTag E w.manager).1)
    have hbuilt := (passes_access .dereference hl).before
      (passes_keep (w := w.access .dereference callId) hframe.calls)
    have hcall := (lookup_frame (w := w.access .dereference callId) hframe callId).trans hl
    rw [keepsEntry_some hl]
    cases accept with
    | true =>
      have henter := passes_enter hcall (SipCall.callId_setState call .kConnected) .kConnected
      exact hbuilt.before (henter.of_iff (iff_of_true trivial nofun))
    | false =>
      have hcancels := cancels_frame (w := w.access .dereference callId) hframe callId .kDisconnected
      refine hbuilt.before ((passes_terminate hcall).of_iff ((not_congr hcancels).trans ?_))
      exact ⟨fun hnot _ => hnot, fun h => h rfl⟩

theorem passes_hangUp (callId : String) (w : Watched σ) : Passes True w (hangUp E callId w).2 := by
  unfold hangUp
  cases hl : w.lookup callId with
  | none => exact .same trivial
  | some call =>
    simp only
    split_ifs
    · exact passes_access .dereference hl
    · have hassigned := (passes_access .dereference hl).before
        (passes_assign (w := w.access .dereference callId) hl (SipCall.callId_setState call .kDisconnecting))
      have hframe := SipManager.buildInDialogRequest_frame E
        ((w.access .dereference callId).assign callId (call.setState .kDisconnecting)).manager "BYE" callId
      exact hassigned.before ((passes_keep hframe.calls).before (passes_notify _ _))

variable {E} in
theorem passes_dropCall (callId : String) (w : Watched σ) : Passes (KeepsEntry w callId) w (dropCall callId w) := by
  unfold dropCall
  cases hl : w.lookup callId with
  | none => exact .same (keepsEntry_none hl)
  | some call => exact (passes_terminate hl).of_iff (keepsEntry_some hl).symm

theorem cancelCall_snd (callId : String) (w : Watched σ) : (cancelCall callId w).2 = dropCall callId w := by
  unfold cancelCall cancelCallWith dropCall
  cases w.lookup callId <;> rfl

theorem passes_autoAnswer (callId : String) (w : Watched σ) : Passes True w (autoAnswer E callId w) := by
  set m := (SipManager.buildResponse E 200 "OK" (SipManager.generateTag E w.manager).1
    (SipManager.generateTag E w.manager).2).2
  have hframe : SipManager.BuilderFrame w.manager m :=
    (SipManager.generateTag_frame E w.manager).trans (SipManager.buildResponse_frame E _ 200 "OK" _)
  rw [autoAnswer_eq, hframe.calls]
  cases hl : w.manager.calls.lookup callId with
  | none => exact passes_keep hframe.calls
  | some call =>
    refine (passes_store hframe.calls fun hown => ?_).before (passes_notify callId .kConnected)
    rw [SipCall.callId_setState]
    exact hown callId call hl

theorem passes_handleInvite (msg : OsipMessage) (mem : Uninit) (now : ℕ) (w : Watched σ) :
    Passes True w (handleInvite E msg mem now w) := by
  unfold handleInvite
  simp only
  split_ifs
  · exact .same trivial
  · set callId := SipManager.messageCallId msg
    set m := SipManager.cacheHeaders msg callId w.manager
    have hcalls : m.calls = w.manager.calls := rfl
    rw [hcalls]
    cases w.manager.calls.lookup callId with
    | some call => exact passes_keep hcalls
    | none =>
      have hringing : Passes True w (notifyStateChange callId .kRinging
          { w with manager := m.putCall callId (SipManager.ringingCall w.manager.config msg mem now) }) :=
        (passes_store hcalls fun _ => SipManager.callId_ringingCall _ msg mem now).before (passes_notify callId _)
      exact hringing.before (passes_autoAnswer E callId _)

theorem passes_handleBye (msg : OsipMessage) (w : Watched σ) :
    Passes (KeepsEntry w (SipManager.messageCallId msg)) w (handleBye E msg w) := by
  have hframe := SipManager.buildResponse_frame E (dropCall (SipManager.messageCallId msg) w).manager 200 "OK" ""
  exact (passes_dropCall (SipManager.messageCallId msg) w).after (passes_keep hframe.calls)

theorem passes_handleResponse (msg : OsipMessage) (hstatus : msg.statusCode ≠ 0) (w : Watched σ) :
    Passes (Terminates w msg → KeepsEntry w (SipManager.messageCallId msg)) w (handleResponse E msg w) := by
  unfold handleResponse Terminates
  rw [if_neg hstatus]
  generalize SipManager.messageCallId msg = callId
  simp only
  cases hl : w.lookup callId with
  | none => exact .same fun _ => keepsEntry_none hl
  | some call =>
    have hfound := passes_access .dereference hl
    have hcall : (w.access .dereference callId).lookup callId = some call := hl
    rw [keepsEntry_some hl, Option.map_some, Option.some_inj]
    simp only
    split_ifs with hok hcalling hdisconnecting hfailed
    · have hframe := SipManager.buildInDialogRequest_frame E (w.access .dereference callId).manager "ACK" callId
      have hnot : ¬ call.state = .kDisconnecting := by
        rw [hcalling]
        decide
      have henter := passes_enter ((lookup_frame hframe callId).trans hcall)
        (SipCall.callId_setState call .kConnected) .kConnected
      have hbuilt := (passes_keep hframe.calls).before henter
      exact hfound.before (hbuilt.of_iff (iff_of_true trivial fun h => absurd h.2 hnot))
    · refine hfound.before ((passes_terminate hcall).of_iff ?_)
      exact ⟨fun hnot _ => hnot, fun h => h ⟨hok, hdisconnecting⟩⟩
    · exact hfound.of_iff (iff_of_true trivial fun h => absurd h.2 hdisconnecting)
    · have hid : ((call.setState .kFailed).setError ("SIP " ++ toString msg.statusCode)).callId = call.callId :=
        SipCall.callId_setState call .kFailed
      have henter := passes_enter hcall hid .kFailed
      exact hfound.before (henter.of_iff (iff_of_true trivial fun h => absurd h.1 hok))
    · exact hfound.of_iff (iff_of_true trivial fun h => absurd h.1 hok)

theorem passes_incoming (rawMsg : String) (mem : Uninit) (now : ℕ) (w : Watched σ) :
    Passes (∀ msg ∈ E.parse rawMsg, Terminates w msg → KeepsEntry w (SipManager.messageCallId msg)) w
      (processIncomingMessage E rawMsg mem now w) := by
  unfold processIncomingMessage
  cases E.parse rawMsg with
  | none =>
    refine .same ?_
    rintro msg ⟨⟩
  | some msg =>
    have hone : (∀ msg' ∈ some msg, Terminates w msg' → KeepsEntry w (SipManager.messageCallId msg')) ↔
        (Terminates w msg → KeepsEntry w (SipManager.messageCallId msg)) := by
      simp
    rw [hone]
    simp only
    split_ifs with hrequest
    · unfold Terminates
      rw [if_pos hrequest]
      split
      · rename_i hmethod
        refine (passes_handleInvite E msg mem now w).of_iff (iff_of_true trivial ?_)
        simp [hmethod]
      · rename_i hmethod
        refine .same ?_
        simp [hmethod]
      · rename_i hmethod
        exact (passes_handleBye E msg w).of_iff (by simp [hmethod])
      · rename_i hmethod
        exact (passes_dropCall (SipManager.messageCallId msg) w).of_iff (by simp [hmethod])
      · rename_i hbye hcancel
        refine .same ?_
        rintro (hmethod | hmethod)
        · exact absurd hmethod hbye
        · exact absurd hmethod hcancel
    · exact passes_handleResponse E msg hrequest w

/-- one turn of the loop -/
theorem passes_visitTimer (v : Visit) (hown : OwnIds w) : Passes (VisitKeeps w v) w (visitTimer w v) := by
  unfold visitTimer VisitKeeps
  cases hl : w.lookup v.callId with
  | none =>
    refine .same ?_
    rintro call ⟨⟩
  | some call =>
    have hone : (∀ call', some call = some call' → SipManager.GivesUp w.manager v call' →
        ¬ Cancels w v.callId .kFailed) ↔ (SipManager.GivesUp w.manager v call → ¬ Cancels w v.callId .kFailed) := by
      simp
    have hfound := passes_access .dereference hl
    have hcall : (w.access .dereference v.callId).lookup v.callId = some call := hl
    rw [hone, SipManager.GivesUp]
    simp only
    split_ifs with hretransmit hexpired
    · have hrestarted := passes_assign hcall (SipCall.callId_startTimer call.incrementRetransmit
        (w.manager.config.retryT1Ms * (1 <<< call.incrementRetransmit.retransmitCount)) v.restart)
      have hnext := hrestarted.before (passes_access .increment ((lookup_assign _ _ _).trans (if_pos rfl)))
      exact hfound.before (hnext.of_iff (iff_of_true trivial fun h => absurd hretransmit h.1))
    · rw [hown v.callId call hl]
      refine hfound.before ((passes_use .increment hcall (SipCall.callId_setState call .kFailed) .kFailed).of_iff ?_)
      exact ⟨fun hnot _ => hnot, fun h => h ⟨hretransmit, hexpired⟩⟩
    · have hnext := passes_access .increment hcall
      exact hfound.before (hnext.of_iff (iff_of_true trivial fun h => absurd h.2 hexpired))

theorem passes_processTimers (visits : List Visit) (hown : OwnIds w) :
    Passes (Along visitTimer VisitKeeps w visits) w (processTimers visits w) where
  live := exec_iff (fun _ v hown => (passes_visitTimer v hown).ownIds hown)
    (fun _ v hown => (passes_visitTimer v hown).live) hown visits
  ownIds hown := exec_preserves (P := OwnIds) (fun _ v hown => (passes_visitTimer v hown).ownIds hown) hown visits

variable {E} in
theorem passes_processIncomingSdp (callId sdpBody : String) (w : Watched σ) :
    Passes True w { w with manager := (SipManager.processIncomingSdp callId sdpBody w.manager).2 } := by
  rcases SipManager.processIncomingSdp_cases callId sdpBody w.manager with heq | ⟨call, sess, hl, heq⟩
  · rw [heq]
    exact passes_keep rfl
  · rw [heq]
    exact passes_store rfl fun hown => hown callId call hl

variable {E} in
theorem passes_register (w : Watched σ) : Passes True w (register w).2 := by
  unfold register
  split_ifs
  · exact .same trivial
  · exact (passes_keep (m := { w.manager with registered := true }) rfl).before (passes_notify "" .kRegistered)

variable {E} in
theorem passes_unregister (w : Watched σ) : Passes True w (unregister w).2 := by
  unfold unregister
  split_ifs
  · exact .same trivial
  · exact (passes_keep (m := { w.manager with registered := false }) rfl).before (passes_notify "" .kUnregistered)

variable {E} in
theorem passes_shutdown (w : Watched σ) : Passes True w (shutdown w) := by
  have hcleared : ∀ w : Watched σ, Passes True w
      { w with manager := { w.manager with calls := ∅, initialized := false } } := by
    exact fun w => ⟨(and_iff_left trivial).symm, fun _ => ownIds_of_empty rfl⟩
  unfold shutdown
  split_ifs
  · exact (passes_unregister w).before (hcleared _)
  · exact hcleared w

/-- **One operation**: the entries it uses are there exactly if the callback keeps them -/
theorem passes_step (op : ManagerOp σ) (hown : OwnIds w) : Passes (EntryKept E w op) w (step E w op) := by
  cases op with
  | operation op =>
    cases op with
    | initialise osipInit config => exact passes_keep (by cases osipInit <;> rfl)
    | makeCall calleeUri mem now => exact passes_makeCall E calleeUri mem now w
    | answerCall callId accept => exact passes_answerCall E callId accept w
    | hangUp callId => exact passes_hangUp E callId w
    | cancelCall callId =>
      show Passes (KeepsEntry w callId) w (cancelCall callId w).2
      rw [cancelCall_snd]
      exact passes_dropCall callId w
    | incoming rawMsg mem now => exact passes_incoming E rawMsg mem now w
    | processTimers visits => exact passes_processTimers visits hown
    | processIncomingSdp callId sdpBody => exact passes_processIncomingSdp callId sdpBody w
    | register => exact passes_register w
    | unregister => exact passes_unregister w
    | shutdown => exact passes_shutdown w
  | build b => exact passes_keep (b.frame E w.manager).calls
  | cacheLastRequest callId => exact passes_keep rfl
  | setSipEventCallback cb => exact passes_keep rfl

/-- **When no iterator is used whose entry the callback has removed**, in any run of a new manager -/
theorem iterators_live_iff (owner : σ) (ops : List (ManagerOp σ)) :
    AllLive (exec (step E) (start owner) ops) ↔ Along (step E) (EntryKept E) (start owner) ops := by
  have hstart : OwnIds (start owner) := ownIds_of_empty rfl
  have hrun := exec_iff (P := AllLive) (fun w op hown => (passes_step E op hown).ownIds hown)
    (fun w op hown => (passes_step E op hown).live) hstart ops
  exact hrun.trans (and_iff_right nofun)

/-- a callback that cancels every call it is told is disconnected -/
def canceller : SipEventCallback Unit where
  notified := fun _ state _ => ((), if state = .kDisconnected then some fun _ _ => () else none)
  renotified := fun _ _ _ => ()

/-- **Cancelled twice**: `CancelCall` erases an entry that its callback has erased -/
theorem cancelled_twice :
    ¬ ∀ (E : SipEnv) (owner : Unit) (ops : List (ManagerOp Unit)), AllLive (exec (step E) (start owner) ops) := by
  intro h
  have hlive := h SipManager.inviteEnv () [.setSipEventCallback canceller,
    .operation (.incoming SipManager.inviteA1.text ⟨0, 0, 0, 0, 0⟩ 0), .operation (.cancelCall "a1")]
    ⟨.erase, "a1", false⟩
  have hdead : (⟨.erase, "a1", false⟩ : Access) ∈ (exec (step SipManager.inviteEnv) (start ()) [
      .setSipEventCallback canceller, .operation (.incoming SipManager.inviteA1.text ⟨0, 0, 0, 0, 0⟩ 0),
      .operation (.cancelCall "a1")]).accesses := by
    decide +kernel
  exact absurd (hlive hdead) Bool.false_ne_true

end Watched

end Rtcom
