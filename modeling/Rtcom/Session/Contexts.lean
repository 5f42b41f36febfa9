/-
Contexts and calls are kept in step. `contexts_` and `calls_` are two tables that meet only in the state changes the SIP
manager reports, about ten operations report them, and some erase the call afterwards.

A call has a context exactly while it is connected or disconnecting (`Live`); `Matched` is this together with what makes
it inductive: the installed callback is `OnSipEvent`, a call is stored under its own id, and no call is in progress.
`Backed` is the part of it that does not depend on new call ids.

Every operation is a sequence of `Steps`: a call is stored in a state and reported, or erased, or changed where the
contexts do not depend on it (`step_steps`). What each step keeps, under the `Terms` of the operation, every operation
keeps; `Enterable` says when a move keeps the tables in step.

- `step_matched`: every operation keeps the tables in step, `run_matched`: so does every run, as long as the call ids
  generated are new. `step_backed`, `run_backed`: that a connected call has a context does not depend on it.
- `contexts_match_calls`: after `Start`, in every state of every run, the contexts are those of the calls that are
  connected or disconnecting.
-/
import Mathlib.Tactic
import Rtcom.Lib.Runs
import Rtcom.Session.Manager

namespace Rtcom

open Runs SipManager

/-- the states in which a call has a context -/
def SipCallState.Live (st : SipCallState) : Prop := st = .kConnected ∨ st = .kDisconnecting

instance (st : SipCallState) : Decidable st.Live := inferInstanceAs (Decidable (_ ∨ _))

namespace SessionManager

variable (E : SessionEnv)

/-! ## The two tables -/

/-- what a call is stored with, as far as the contexts depend on it -/
def entry (m : SipManager EventCallback) (id : String) : Option (String × SipCallState) :=
  (m.calls.lookup id).map fun call => (call.callId, call.state)

theorem entry_of_lookup {m : SipManager EventCallback} {id : String} {call : SipCall}
    (h : m.calls.lookup id = some call) : entry m id = some (call.callId, call.state) := by
  rw [entry, h, Option.map_some]

theorem entry_congr {m m' : SipManager EventCallback} (h : m'.calls = m.calls) (id : String) :
    entry m' id = entry m id := by
  rw [entry, h, entry]

theorem entry_putCall (m : SipManager EventCallback) (id : String) (call : SipCall) (x : String) :
    entry (m.putCall id call) x = if x = id then some (call.callId, call.state) else entry m x := by
  rw [entry, lookup_putCall, entry]
  split_ifs <;> rfl

theorem entry_eraseCall (m : SipManager EventCallback) (id x : String) :
    entry (m.eraseCall id) x = if x = id then none else entry m x := by
  rw [entry, lookup_eraseCall, entry]
  split_ifs <;> rfl

/-- storing a call changed in other fields only -/
theorem entry_update {m : SipManager EventCallback} {id : String} {call call' : SipCall}
    (hl : m.calls.lookup id = some call) (hid : call'.callId = call.callId) (hst : call'.state = call.state)
    (x : String) : entry (m.putCall id call') x = entry m x := by
  rw [entry_putCall]
  split_ifs with hx
  · rw [hx, entry_of_lookup hl, hid, hst]
  · rfl

theorem contexts_registerRtpFds (w : Session) (ctx : CallContext) :
    (w.registerRtpFds E ctx).contexts = w.contexts := by
  simp only [Session.registerRtpFds, Session.addFd]
  split_ifs <;> rfl

theorem contexts_unregisterRtpFds (w : Session) (ctx : CallContext) :
    (w.unregisterRtpFds E ctx).contexts = w.contexts := by
  simp only [Session.unregisterRtpFds, Session.delFd]
  split_ifs <;> rfl

theorem mem_getOrCreateContext (w : Session) (id : String) (info : CallSessionInfo) (x : String) :
    x ∈ (w.getOrCreateContext E id info).2.contexts ↔ x ∈ w.contexts ∨ x = id := by
  unfold Session.getOrCreateContext
  cases h : w.contexts.lookup id with
  | some ctx =>
    have hid : id ∈ w.contexts := AList.lookup_isSome.1 (by rw [h]; rfl)
    constructor
    · exact Or.inl
    · intro hx
      rcases hx with hx | rfl
      · exact hx
      · exact hid
  | none =>
    show x ∈ (Session.registerRtpFds E _ _).contexts ↔ _
    rw [contexts_registerRtpFds, AList.mem_insert, or_comm]

theorem mem_removeContext (w : Session) (id x : String) :
    x ∈ (w.removeContext E id).contexts ↔ x ∈ w.contexts ∧ x ≠ id := by
  unfold Session.removeContext
  cases h : w.contexts.lookup id with
  | none =>
    have hid : id ∉ w.contexts := AList.lookup_eq_none.1 h
    constructor
    · intro hx
      exact ⟨hx, fun heq => hid (heq ▸ hx)⟩
    · exact And.left
  | some ctx =>
    show x ∈ AList.erase id (w.unregisterRtpFds E ctx).contexts ↔ _
    rw [contexts_unregisterRtpFds, AList.mem_erase, and_comm]

/-! ## Reports -/

/-- the ids with a context after a report -/
def contextsAfter (w : Session) (id : String) : SipCallState → String → Prop
  | .kConnected => fun x => x ∈ w.contexts ∨ x = id
  | .kDisconnected | .kFailed => fun x => x ∈ w.contexts ∧ x ≠ id
  | _ => fun x => x ∈ w.contexts

/-- `OnSipEvent` leaves everything about the calls but their local ports -/
theorem map_lookup_onSipEvent {β : Type} (f : SipCall → β)
    (hf : ∀ call audio video, f { call with sessionInfo := { call.sessionInfo with
      audioLocalPort := audio
      videoLocalPort := video } } = f call)
    (id : String) (st : SipCallState) (s : SessionManager) (x : String) :
    ((onSipEvent E id st s).1.calls.lookup x).map f = (s.1.calls.lookup x).map f := by
  cases st with
  | kConnected =>
    cases h : s.1.calls.lookup id with
    | none => simp only [onSipEvent, h]
    | some call =>
      simp only [onSipEvent, h, lookup_putCall]
      split_ifs with hx
      · rw [hx, h, Option.map_some, Option.map_some, hf]
      · rfl
  | _ => rfl

/-- a report leaves the other calls and contexts -/
theorem lookup_onSipEvent_of_ne (id : String) (st : SipCallState) (s : SessionManager) {x : String} (hx : x ≠ id) :
    (onSipEvent E id st s).1.calls.lookup x = s.1.calls.lookup x ∧
      (onSipEvent E id st s).2.contexts.lookup x = s.2.contexts.lookup x := by
  have hremove : (s.2.removeContext E id).contexts.lookup x = s.2.contexts.lookup x := by
    unfold Session.removeContext
    cases s.2.contexts.lookup id with
    | none => rfl
    | some ctx =>
      show (AList.erase id (s.2.unregisterRtpFds E ctx).contexts).lookup x = _
      rw [contexts_unregisterRtpFds, AList.lookup_erase_ne hx]
  cases st with
  | kConnected =>
    cases hl : s.1.calls.lookup id with
    | none => simp only [onSipEvent, hl, and_self]
    | some call =>
      simp only [onSipEvent, hl, lookup_putCall, if_neg hx, true_and, Session.getOrCreateContext]
      cases s.2.contexts.lookup id with
      | some ctx => rfl
      | none =>
        simp only
        rw [contexts_registerRtpFds, AList.lookup_insert_ne hx]
  | kDisconnected => exact ⟨rfl, hremove⟩
  | kFailed => exact ⟨rfl, hremove⟩
  | _ => exact ⟨rfl, rfl⟩

/-- any callback leaves everything about the calls but their local ports -/
theorem map_lookup_notify {β : Type} (f : SipCall → β)
    (hf : ∀ call audio video, f { call with sessionInfo := { call.sessionInfo with
      audioLocalPort := audio
      videoLocalPort := video } } = f call)
    (id : String) (st : SipCallState) (s : SessionManager) (x : String) :
    ((notifyStateChange (callbacks E) id st s).1.calls.lookup x).map f = (s.1.calls.lookup x).map f := by
  unfold notifyStateChange
  cases s.1.sipEventCb with
  | none => rfl
  | some k =>
    cases k with
    | onSipEvent => exact map_lookup_onSipEvent E f hf id st s x
    | application => rfl

/-- a report of a call that is stored changes contexts only, but for the ports of the call -/
theorem onSipEvent_spec (id : String) (st : SipCallState) (s : SessionManager) (hid : entry s.1 id ≠ none) :
    (onSipEvent E id st s).1.sipEventCb = s.1.sipEventCb ∧
      (∀ x, entry (onSipEvent E id st s).1 x = entry s.1 x) ∧
      ∀ x, x ∈ (onSipEvent E id st s).2.contexts ↔ contextsAfter s.2 id st x := by
  cases st with
  | kConnected =>
    cases h : s.1.calls.lookup id with
    | none => exact absurd (by rw [entry, h, Option.map_none]) hid
    | some call =>
      simp only [onSipEvent, h]
      exact ⟨rfl, entry_update h rfl rfl, mem_getOrCreateContext E s.2 id call.sessionInfo⟩
  | kDisconnected => exact ⟨rfl, fun _ => rfl, mem_removeContext E s.2 id⟩
  | kFailed => exact ⟨rfl, fun _ => rfl, mem_removeContext E s.2 id⟩
  | _ => exact ⟨rfl, fun _ => rfl, fun _ => Iff.rfl⟩

/-! ## The invariants -/

/-- a call that is connected has a context -/
structure Backed (s : SessionManager) : Prop where
  callback : s.1.sipEventCb = some .onSipEvent
  keyed : ∀ id e, entry s.1 id = some e → e.1 = id
  contexts : ∀ id e, entry s.1 id = some e → e.2 = .kConnected → id ∈ s.2.contexts

structure Matched (s : SessionManager) : Prop where
  callback : s.1.sipEventCb = some .onSipEvent
  keyed : ∀ id e, entry s.1 id = some e → e.1 = id
  notInProgress : ∀ id e, entry s.1 id = some e → e.2 ≠ .kInProgress
  contexts : ∀ id, id ∈ s.2.contexts ↔ ∃ e, entry s.1 id = some e ∧ e.2.Live

/-- the states a call may be stored in: one with a context only where there is one or the report creates it, one
without a context only where there is none or the report removes it -/
def Enterable (w : Session) (id : String) : SipCallState → Prop
  | .kConnected | .kDisconnected | .kFailed => True
  | .kDisconnecting => id ∈ w.contexts
  | .kInProgress => False
  | _ => id ∉ w.contexts

namespace Backed

variable {E} {s : SessionManager}

/-- a change outside the calls, the callback and the contexts -/
theorem congr (h : Backed s) {s' : SessionManager} (hentry : ∀ x, entry s'.1 x = entry s.1 x)
    (hcb : s'.1.sipEventCb = s.1.sipEventCb) (hctx : s'.2.contexts = s.2.contexts) : Backed s' := by
  refine ⟨hcb.trans h.callback, ?_, ?_⟩
  · intro id e he
    exact h.keyed id e (hentry id ▸ he)
  · intro id e he hst
    rw [hctx]
    exact h.contexts id e (hentry id ▸ he) hst

theorem callId_eq (h : Backed s) {id : String} {call : SipCall} (hl : s.1.calls.lookup id = some call) :
    call.callId = id := h.keyed id _ (entry_of_lookup hl)

theorem mem_of_connected (h : Backed s) {id : String} {call : SipCall} (hl : s.1.calls.lookup id = some call)
    (hst : call.state = .kConnected) : id ∈ s.2.contexts := h.contexts id _ (entry_of_lookup hl) hst

/-- the tables after a call is stored and reported -/
theorem move_spec (h : Backed s) (id : String) (call : SipCall) :
    let s' := notifyStateChange (callbacks E) id call.state (s.1.putCall id call, s.2)
    s'.1.sipEventCb = some .onSipEvent ∧
      (∀ x, entry s'.1 x = if x = id then some (call.callId, call.state) else entry s.1 x) ∧
      ∀ x, x ∈ s'.2.contexts ↔ contextsAfter s.2 id call.state x := by
  have hcb : (s.1.putCall id call).sipEventCb = some .onSipEvent := h.callback
  have hstored : entry (s.1.putCall id call) id ≠ none := by simp [entry_putCall]
  obtain ⟨h1, h2, h3⟩ := onSipEvent_spec E id call.state (s.1.putCall id call, s.2) hstored
  simp only [notifyStateChange, hcb, callbacks]
  exact ⟨h1.trans hcb, fun x => (h2 x).trans (entry_putCall s.1 id call x), h3⟩

theorem move (h : Backed s) (id : String) (call : SipCall) (hid : call.callId = id) :
    Backed (notifyStateChange (callbacks E) id call.state (s.1.putCall id call, s.2)) := by
  obtain ⟨hcb, hentry, hctx⟩ := h.move_spec (E := E) id call
  refine ⟨hcb, ?_, ?_⟩
  · intro x e he
    rw [hentry] at he
    split_ifs at he with hx
    · cases he
      exact hid.trans hx.symm
    · exact h.keyed x e he
  · intro x e he hst
    rw [hentry] at he
    rw [hctx]
    split_ifs at he with hx
    · cases he
      rw [show call.state = .kConnected from hst]
      exact Or.inr hx
    · -- the contexts of other calls stay
      have hmem := h.contexts x e he hst
      cases call.state <;> simp [contextsAfter, hx, hmem]

theorem erase (h : Backed s) (id : String) : Backed (s.1.eraseCall id, s.2) := by
  refine ⟨h.callback, ?_, ?_⟩
  · intro x e he
    rw [entry_eraseCall] at he
    split_ifs at he
    exact h.keyed x e he
  · intro x e he hst
    rw [entry_eraseCall] at he
    split_ifs at he
    exact h.contexts x e he hst

end Backed

namespace Matched

variable {E} {s : SessionManager}

theorem backed (h : Matched s) : Backed s :=
  ⟨h.callback, h.keyed, fun id e he hst => (h.contexts id).2 ⟨e, he, Or.inl hst⟩⟩

/-- a change outside the calls, the callback and the contexts -/
theorem congr (h : Matched s) {s' : SessionManager} (hentry : ∀ x, entry s'.1 x = entry s.1 x)
    (hcb : s'.1.sipEventCb = s.1.sipEventCb) (hctx : s'.2.contexts = s.2.contexts) : Matched s' := by
  obtain ⟨hcb', hkeyed, -⟩ := h.backed.congr hentry hcb hctx
  refine ⟨hcb', hkeyed, ?_, ?_⟩
  · intro id e he
    exact h.notInProgress id e (hentry id ▸ he)
  · intro id
    rw [hctx, h.contexts, hentry]

theorem notMem_of_lookup (h : Matched s) {id : String} (hl : s.1.calls.lookup id = none) : id ∉ s.2.contexts := by
  rw [h.contexts, entry, hl]
  simp

theorem mem_iff_live (h : Matched s) {id : String} {call : SipCall} (hl : s.1.calls.lookup id = some call) :
    id ∈ s.2.contexts ↔ call.state.Live := by
  rw [h.contexts, entry_of_lookup hl]
  simp

/-- **Storing a call in a new state and reporting it** keeps the tables in step -/
theorem move (h : Matched s) (id : String) (call : SipCall) (hid : call.callId = id)
    (hst : Enterable s.2 id call.state) :
    Matched (notifyStateChange (callbacks E) id call.state (s.1.putCall id call, s.2)) := by
  obtain ⟨-, hentry, hctx⟩ := h.backed.move_spec (E := E) id call
  obtain ⟨hcb, hkeyed, -⟩ := h.backed.move (E := E) id call hid
  refine ⟨hcb, hkeyed, ?_, ?_⟩
  · intro x e he
    rw [hentry] at he
    split_ifs at he with hx
    · cases he
      intro hp
      rw [show call.state = .kInProgress from hp] at hst
      exact hst
    · exact h.notInProgress x e he
  · intro x
    rw [hctx, hentry]
    by_cases hx : x = id
    · subst hx
      rw [if_pos rfl]
      simp only [Option.some.injEq, exists_eq_left', SipCallState.Live]
      cases hc : call.state <;> rw [hc] at hst <;> simp_all [contextsAfter, Enterable]
    · rw [if_neg hx, ← h.contexts]
      cases call.state <;> simp [contextsAfter, hx]

/-- erasing a call without a context -/
theorem erase (h : Matched s) {id : String} (hid : id ∉ s.2.contexts) : Matched (s.1.eraseCall id, s.2) := by
  obtain ⟨hcb, hkeyed, -⟩ := h.backed.erase id
  refine ⟨hcb, hkeyed, ?_, ?_⟩
  · intro x e he
    rw [entry_eraseCall] at he
    split_ifs at he
    exact h.notInProgress x e he
  · intro x
    rw [entry_eraseCall]
    by_cases hx : x = id
    · simp [hx, hid]
    · rw [if_neg hx]
      exact h.contexts x

end Matched

/-! ## Steps -/

/-- headers were kept, tags and CSeq numbers used up, or the registration changed -/
structure Aside (m m' : SipManager EventCallback) : Prop where
  calls : m'.calls = m.calls
  sipEventCb : m'.sipEventCb = m.sipEventCb
  config : m'.config = m.config
  lastToTag : m'.lastToTag = m.lastToTag
  draws : m.draws ≤ m'.draws

theorem aside_builder {m m' : SipManager EventCallback} (h : BuilderFrame m m') : Aside m m' := by
  rcases h with ⟨n, _, rfl⟩
  exact ⟨rfl, rfl, rfl, rfl, Nat.le_add_right m.draws n⟩

/-- on what terms an operation changes the tables: if `inStep` it keeps them in step, if `anew` besides it leaves the
session infos alone and connects only calls that have no context; `connects` are the calls it may connect -/
structure Terms where
  inStep : Prop
  anew : Prop
  connects : String → Prop

/-- one change after the other, on these terms -/
inductive Steps (T : Terms) (s : SessionManager) : SessionManager → Prop
  | refl : Steps T s s
  | aside {s' : SessionManager} {m : SipManager EventCallback} : Steps T s s' → Aside s'.1 m → Steps T s (m, s'.2)
  | rewrite {s' : SessionManager} {id : String} {call call' : SipCall} : Steps T s s' →
      s'.1.calls.lookup id = some call → call'.callId = call.callId → call'.state = call.state →
      call'.sessionInfo.audioLocalPort = call.sessionInfo.audioLocalPort →
      call'.sessionInfo.videoLocalPort = call.sessionInfo.videoLocalPort →
      (T.anew → call'.sessionInfo = call.sessionInfo) → Steps T s (s'.1.putCall id call', s'.2)
  | move {s' : SessionManager} {id : String} {call : SipCall} : Steps T s s' → call.callId = id →
      (T.inStep → Enterable s'.2 id call.state) →
      (call.state = .kConnected → T.connects id ∧ (T.inStep → T.anew → id ∉ s'.2.contexts)) →
      Steps T s (notifyStateChange (callbacks E) id call.state (s'.1.putCall id call, s'.2))
  | erase {s' : SessionManager} {id : String} : Steps T s s' → (T.inStep → id ∉ s'.2.contexts) →
      Steps T s (s'.1.eraseCall id, s'.2)
  | clear {s' : SessionManager} : Steps T s s' →
      Steps T s ({ s'.1 with calls := ∅, initialized := false }, { s'.2 with contexts := ∅ })

/-- two empty tables -/
theorem matched_of_empty {s : SessionManager} (hcb : s.1.sipEventCb = some .onSipEvent) (hcalls : s.1.calls = ∅)
    (hctx : s.2.contexts = ∅) : Matched s := by
  have hnone : ∀ x, entry s.1 x = none := fun x => by rw [entry, hcalls, AList.lookup_empty, Option.map_none]
  refine ⟨hcb, ?_, ?_, ?_⟩
  · intro x e he
    rw [hnone] at he
    cases he
  · intro x e he
    rw [hnone] at he
    cases he
  · intro x
    simp [hnone, hctx]

namespace Steps

variable {E} {T : Terms} {s s' s'' : SessionManager}

theorem backed (hsteps : Steps E T s s') (h : Backed s) : Backed s' := by
  induction hsteps with
  | refl => exact h
  | aside _ ha ih => exact ih.congr (entry_congr ha.calls) ha.sipEventCb rfl
  | rewrite _ hl hid hst _ _ _ ih => exact ih.congr (entry_update hl hid hst) rfl rfl
  | move _ hid _ _ ih => exact ih.move _ _ hid
  | erase _ _ ih => exact ih.erase _
  | clear _ ih => exact Matched.backed (matched_of_empty ih.callback rfl rfl)

theorem matched (hsteps : Steps E T s s') (hT : T.inStep) (h : Matched s) : Matched s' := by
  induction hsteps with
  | refl => exact h
  | aside _ ha ih => exact ih.congr (entry_congr ha.calls) ha.sipEventCb rfl
  | rewrite _ hl hid hst _ _ _ ih => exact ih.congr (entry_update hl hid hst) rfl rfl
  | move _ hid hst _ ih => exact ih.move _ _ hid (hst hT)
  | erase _ hid ih => exact ih.erase (hid hT)
  | clear _ ih => exact matched_of_empty ih.callback rfl rfl

theorem trans (h : Steps E T s s') (h' : Steps E T s' s'') : Steps E T s s'' := by
  induction h' with
  | refl => exact h
  | aside _ ha ih => exact ih.aside ha
  | rewrite _ hl hid hst haudio hvideo hinfo ih => exact ih.rewrite hl hid hst haudio hvideo hinfo
  | move _ hid hst hconn ih => exact ih.move hid hst hconn
  | erase _ hid ih => exact ih.erase hid
  | clear _ ih => exact ih.clear

/-- what a builder does -/
theorem builder (h : Steps E T s s') {m : SipManager EventCallback} (hm : BuilderFrame s'.1 m) :
    Steps E T s (m, s'.2) := h.aside (aside_builder hm)

end Steps

variable {E} {T : Terms} {s : SessionManager}

/-- a stored call enters another state, possibly after messages were built -/
theorem steps_enter (h : Backed s) {m : SipManager EventCallback} (hm : BuilderFrame s.1 m) {id : String}
    {call : SipCall} (hl : s.1.calls.lookup id = some call) {st : SipCallState}
    (hst : T.inStep → Enterable s.2 id st)
    (hconn : st = .kConnected → T.connects id ∧ (T.inStep → T.anew → id ∉ s.2.contexts)) :
    Steps E T s (notifyStateChange (callbacks E) id st (m.putCall id (call.setState st), s.2)) := by
  have hmove : Steps E T s (notifyStateChange (callbacks E) id (call.setState st).state
      (m.putCall id (call.setState st), s.2)) := (Steps.refl.builder hm).move
    (by rw [SipCall.callId_setState, h.callId_eq hl]) (by rwa [SipCall.state_setState])
    (by rwa [SipCall.state_setState])
  rwa [SipCall.state_setState] at hmove

/-- a stored call is disconnected, reported and erased -/
theorem steps_terminate (h : Backed s) {m : SipManager EventCallback} (hm : BuilderFrame s.1 m) {id : String}
    {call : SipCall} (hl : s.1.calls.lookup id = some call) :
    let s' := notifyStateChange (callbacks E) id .kDisconnected (m.putCall id (call.setState .kDisconnected), s.2)
    Steps E T s (s'.1.eraseCall id, s'.2) := by
  have henter : Steps E T s (notifyStateChange (callbacks E) id .kDisconnected
      (m.putCall id (call.setState .kDisconnected), s.2)) := steps_enter h hm hl (fun _ => trivial) (by simp)
  have hframe : Backed (m, s.2) := h.congr (entry_congr hm.calls) hm.sipEventCb rfl
  refine henter.erase fun _ => ?_
  obtain ⟨-, -, hctx⟩ := hframe.move_spec (E := E) id (call.setState .kDisconnected)
  rw [SipCall.state_setState] at hctx
  rw [hctx]
  exact fun hmem => hmem.2 rfl

/-! ## Operations -/

/-- what `MakeCall` does, if it does anything: it stores a call of the id it generates and reports it -/
theorem sipMakeCall_cases (calleeUri : String) (mem : Uninit) (now : ℕ) :
    (SipManager.makeCall E.toSipEnv (callbacks E) calleeUri mem now s).2 = s ∨
      s.1.initialized = true ∧ ∃ m call, BuilderFrame s.1 m ∧
        call.callId = (generateCallId E.toSipEnv s.1).1 ∧ call.state = .kCalling ∧
        (SipManager.makeCall E.toSipEnv (callbacks E) calleeUri mem now s).2 =
          notifyStateChange (callbacks E) (generateCallId E.toSipEnv s.1).1 call.state
            (m.putCall (generateCallId E.toSipEnv s.1).1 call, s.2) := by
  cases hi : s.1.initialized with
  | false =>
    left
    rw [SipManager.makeCall, hi]
    rfl
  | true =>
    obtain ⟨m, id, call, heq, rfl, hframe, hkey, hstate, -⟩ :=
      makeCall_spec E.toSipEnv (callbacks E) calleeUri mem now s hi
    exact Or.inr ⟨rfl, m, call, hframe, hkey, hstate, by rw [heq, hstate]⟩

/-- with an id in use, the call there is replaced -/
theorem steps_sipMakeCall (hT : T.inStep → Matched s ∧ FreshId E s.1) (calleeUri : String) (mem : Uninit) (now : ℕ) :
    Steps E T s (SipManager.makeCall E.toSipEnv (callbacks E) calleeUri mem now s).2 := by
  rcases sipMakeCall_cases (E := E) (s := s) calleeUri mem now with heq | ⟨hi, m, call, hframe, hkey, hstate, heq⟩
  · rw [heq]
    exact .refl
  · rw [heq]
    refine (Steps.refl.builder hframe).move hkey (fun hin => ?_) (by simp [hstate])
    rw [hstate]
    exact (hT hin).1.notMem_of_lookup (AList.lookup_eq_none.2 ((hT hin).2 hi))

theorem steps_answerCall (h : Backed s) (id : String) (accept : Bool) (hanew : ¬ T.anew)
    (hconn : accept = true → (s.1.calls.lookup id).isSome → T.connects id) :
    Steps E T s (answerCall E.toSipEnv (callbacks E) id accept s).2 := by
  unfold answerCall
  cases hl : s.1.calls.lookup id with
  | none => exact .refl
  | some call =>
    have hframe : BuilderFrame s.1 (buildResponse E.toSipEnv (if accept then 200 else 486)
        (if accept then "OK" else "Busy Here") (generateTag E.toSipEnv s.1).1 (generateTag E.toSipEnv s.1).2).2 :=
      (generateTag_frame _ _).trans (buildResponse_frame _ _ _ _ _)
    cases accept with
    | true =>
      have hid : T.connects id := hconn rfl (by rw [hl]; rfl)
      exact steps_enter h hframe hl (fun _ => trivial) fun _ => ⟨hid, fun _ ha => absurd ha hanew⟩
    | false => exact steps_terminate h hframe hl

theorem steps_hangUp (h : Backed s) (hT : T.inStep → Matched s) (id : String) :
    Steps E T s (hangUp E.toSipEnv (callbacks E) id s).2 := by
  unfold hangUp
  cases hl : s.1.calls.lookup id with
  | none => exact .refl
  | some call =>
    simp only
    split_ifs with hst
    · exact .refl
    · obtain ⟨m₀, hm₀, heq⟩ := (buildInDialogRequest_frame E.toSipEnv
        (s.1.putCall id (call.setState .kDisconnecting)) "BYE" id).of_putCall
      show Steps E T s (notifyStateChange (callbacks E) id .kDisconnecting
        ((buildInDialogRequest E.toSipEnv "BYE" id (s.1.putCall id (call.setState .kDisconnecting))).2, s.2))
      rw [heq]
      refine steps_enter h hm₀ hl (fun hin => ?_) (by simp)
      -- a call in progress is ruled out, so the call is connected and has a context
      have hne := (hT hin).notInProgress id _ (entry_of_lookup hl)
      exact h.mem_of_connected hl (by by_contra hc; exact hst ⟨hc, hne⟩)

theorem steps_dropCall (h : Backed s) (id : String) : Steps E T s (dropCall (callbacks E) id s) := by
  unfold dropCall
  cases hl : s.1.calls.lookup id with
  | none => exact .refl
  | some call => exact steps_terminate h (.refl _) hl

theorem steps_cancelCall (h : Backed s) (id : String) : Steps E T s (cancelCall (callbacks E) id s).2 := by
  rw [cancelCall_snd]
  exact steps_dropCall h id

/-- headers are kept, whether the INVITE opens a call or not -/
theorem aside_cacheHeaders (msg : OsipMessage) (id : String) (m : SipManager EventCallback) :
    Aside m (cacheHeaders msg id m) := ⟨rfl, rfl, rfl, rfl, le_rfl⟩

/-- an INVITE that opens a call: nothing is done about a call that rings, and it is connected at once -/
theorem handleInvite_opens (hcb : s.1.sipEventCb = some .onSipEvent) (msg : OsipMessage) (mem : Uninit) (now : ℕ)
    (h : ¬ ((messageCallId msg).isEmpty ∨ (s.1.calls.lookup (messageCallId msg)).isSome)) :
    ∃ m, BuilderFrame (cacheHeaders msg (messageCallId msg) s.1) m ∧
      handleInvite E.toSipEnv (callbacks E) msg mem now s = notifyStateChange (callbacks E) (messageCallId msg)
        .kConnected (m.putCall (messageCallId msg) ((ringingCall s.1.config msg mem now).setState .kConnected),
          s.2) := by
  set id := messageCallId msg
  set m₀ := cacheHeaders msg id s.1
  set call := ringingCall s.1.config msg mem now
  have hringing : notifyStateChange (callbacks E) id .kRinging (m₀.putCall id call, s.2) =
      (m₀.putCall id call, s.2) := by
    rw [notifyStateChange, show (m₀.putCall id call).sipEventCb = some .onSipEvent from hcb]
    rfl
  have hl : (m₀.putCall id call).calls.lookup id = some call := by rw [lookup_putCall, if_pos rfl]
  obtain ⟨m', hframe, hanswer⟩ := autoAnswer_spec E.toSipEnv (callbacks E) id (m₀.putCall id call, s.2)
  obtain ⟨m, hm, rfl⟩ := hframe.of_putCall
  have htwice : (m.putCall id call).putCall id (call.setState .kConnected) =
      m.putCall id (call.setState .kConnected) := by
    rw [putCall, putCall, putCall, AList.insert_insert]
  refine ⟨m, hm, ?_⟩
  rw [handleInvite_new E.toSipEnv (callbacks E) msg mem now s h, hringing, hanswer, hl]
  simp only [htwice]

theorem steps_handleInvite (h : Backed s) (hT : T.inStep → Matched s) (msg : OsipMessage) (mem : Uninit) (now : ℕ)
    (hconn : ¬ (messageCallId msg).isEmpty → s.1.calls.lookup (messageCallId msg) = none →
      T.connects (messageCallId msg)) : Steps E T s (handleInvite E.toSipEnv (callbacks E) msg mem now s) := by
  by_cases hknown : (messageCallId msg).isEmpty ∨ (s.1.calls.lookup (messageCallId msg)).isSome
  · obtain ⟨m, -, -, heq, hm⟩ := handleInvite_known E.toSipEnv (callbacks E) msg mem now s hknown
    rw [heq, hm]
    split_ifs
    · exact .refl
    · exact Steps.refl.aside (aside_cacheHeaders msg _ s.1)
  · obtain ⟨hempty, hsome⟩ := not_or.1 hknown
    have hnone : s.1.calls.lookup (messageCallId msg) = none := Option.not_isSome_iff_eq_none.1 hsome
    obtain ⟨m, hm, heq⟩ := handleInvite_opens (E := E) h.callback msg mem now hknown
    set call := (ringingCall s.1.config msg mem now).setState .kConnected with hcall
    have hstate : call.state = .kConnected := SipCall.state_setState _ _
    have hcached : Steps E T s (m, s.2) :=
      (Steps.refl.aside (aside_cacheHeaders msg (messageCallId msg) s.1)).builder hm
    rw [heq, ← hstate]
    refine hcached.move ?_ (fun _ => ?_) fun _ => ⟨hconn hempty hnone, fun hin _ => ?_⟩
    · rw [hcall, SipCall.callId_setState, callId_ringingCall]
    · rw [hstate]
      trivial
    · exact (hT hin).notMem_of_lookup hnone

theorem steps_handleBye (h : Backed s) (msg : OsipMessage) :
    Steps E T s (handleBye E.toSipEnv (callbacks E) msg s) := by
  unfold handleBye
  exact (steps_dropCall h (messageCallId msg)).builder (buildResponse_frame _ _ _ _ _)

theorem steps_handleResponse (h : Backed s) (hT : T.inStep → Matched s) (msg : OsipMessage)
    (hconn : 200 ≤ msg.statusCode ∧ msg.statusCode < 300 → ∀ call,
      s.1.calls.lookup (messageCallId msg) = some call → call.state = .kCalling → T.connects (messageCallId msg)) :
    Steps E T s (handleResponse E.toSipEnv (callbacks E) msg s) := by
  rw [handleResponse]
  cases hl : s.1.calls.lookup (messageCallId msg) with
  | none => exact .refl
  | some call =>
    simp only
    split_ifs with h2xx hcalling
    · refine steps_enter h (buildInDialogRequest_frame _ _ _ _) hl (fun _ => trivial) fun _ => ?_
      refine ⟨hconn h2xx call hl hcalling, fun hin _ => ?_⟩
      rw [(hT hin).mem_iff_live hl, hcalling]
      simp [SipCallState.Live]
    · exact steps_terminate h (.refl _) hl
    · exact .refl
    · -- a final failure: the error text is stored with the state
      set failed := (call.setState .kFailed).setError ("SIP " ++ toString msg.statusCode) with hfailed
      have hstate : failed.state = .kFailed := by simp [hfailed, SipCall.setError]
      have hmove : Steps E T s (notifyStateChange (callbacks E) (messageCallId msg) failed.state
          (s.1.putCall (messageCallId msg) failed, s.2)) := Steps.refl.move
        (by simp [hfailed, SipCall.setError, h.callId_eq hl]) (fun _ => by simp [hstate, Enterable])
        (by simp [hstate])
      rwa [hstate] at hmove
    · exact .refl

/-- the message connects the call: an INVITE opens it, or it is the 2xx it waits for -/
def ConnectedBy (m : SipManager EventCallback) (msg : OsipMessage) (id : String) : Prop :=
  id = messageCallId msg ∧
    (msg.statusCode = 0 ∧ msg.method = some "INVITE" ∧ ¬ id.isEmpty ∧ m.calls.lookup id = none ∨
      (200 ≤ msg.statusCode ∧ msg.statusCode < 300) ∧ ∃ call, m.calls.lookup id = some call ∧ call.state = .kCalling)

theorem steps_incoming (h : Backed s) (hT : T.inStep → Matched s) (rawMsg : String) (mem : Uninit) (now : ℕ)
    (hconn : ∀ msg, E.parse rawMsg = some msg → ∀ id, ConnectedBy s.1 msg id → T.connects id) :
    Steps E T s (processIncomingMessage E.toSipEnv (callbacks E) rawMsg mem now s) := by
  cases hmsg : E.parse rawMsg with
  | none =>
    rw [incoming_none _ _ hmsg]
    exact .refl
  | some msg =>
    rcases incoming_cases E.toSipEnv (callbacks E) hmsg with ⟨hrequest, hmethod, heq⟩ | ⟨-, -, heq⟩ |
      ⟨-, -, heq⟩ | ⟨-, -, heq⟩ | ⟨-, heq⟩
    · rw [heq]
      exact steps_handleInvite h hT msg mem now fun hempty hnone =>
        hconn msg hmsg _ ⟨rfl, Or.inl ⟨hrequest, hmethod, hempty, hnone⟩⟩
    · rw [heq]
      exact steps_handleBye h msg
    · rw [heq]
      exact steps_dropCall h (messageCallId msg)
    · rw [heq]
      exact .refl
    · rw [heq]
      exact steps_handleResponse h hT msg fun h2xx call hl hst =>
        hconn msg hmsg _ ⟨rfl, Or.inr ⟨h2xx, call, hl, hst⟩⟩

theorem steps_visitTimer (h : Backed s) (v : Visit) : Steps E T s (visitTimer (callbacks E) s v) := by
  unfold visitTimer
  cases hl : s.1.calls.lookup v.callId with
  | none => exact .refl
  | some call =>
    simp only
    split_ifs
    · exact Steps.refl.rewrite hl rfl rfl rfl rfl fun _ => rfl
    · rw [h.callId_eq hl]
      exact steps_enter h (.refl _) hl (fun _ => trivial) (by simp)
    · exact .refl

theorem steps_processTimers (h : Backed s) (visits : List Visit) :
    Steps E T s (processTimers (callbacks E) visits s) := by
  unfold processTimers
  induction visits generalizing s with
  | nil => exact .refl
  | cons v vs ih =>
    have hvisit : Steps E T s (visitTimer (callbacks E) s v) := steps_visitTimer h v
    exact hvisit.trans (ih (hvisit.backed h))

theorem steps_processIncomingSdp (hanew : ¬ T.anew) (id sdpBody : String) :
    Steps E T s ((processIncomingSdp id sdpBody s.1).2, s.2) := by
  rcases processIncomingSdp_cases id sdpBody s.1 with heq | ⟨call, sess, hl, heq⟩
  · rw [heq]
    exact .refl
  · rw [heq]
    refine Steps.refl.rewrite hl rfl rfl ?_ ?_ fun ha => absurd ha hanew
    · exact audioLocalPort_storeRemote call.sessionInfo sess
    · exact videoLocalPort_storeRemote call.sessionInfo sess

/-- the registration is reported under no call id, and the report is not about a call -/
theorem steps_report (h : Backed s) {registered : Bool} {st : SipCallState}
    (hst : st = .kRegistered ∨ st = .kUnregistered) :
    Steps E T s (notifyStateChange (callbacks E) "" st ({ s.1 with registered := registered }, s.2)) := by
  set s' : SessionManager := ({ s.1 with registered := registered }, s.2)
  have hs : Steps E T s s' := Steps.refl.aside ⟨rfl, rfl, rfl, rfl, le_rfl⟩
  have hsame : notifyStateChange (callbacks E) "" st s' = s' := by
    rw [notifyStateChange, show s'.1.sipEventCb = some .onSipEvent from h.callback]
    rcases hst with rfl | rfl
    · rfl
    · rfl
  rwa [hsame]

theorem steps_unregister (h : Backed s) : Steps E T s (unregister (callbacks E) s).2 := by
  unfold unregister
  split_ifs
  · exact .refl
  · exact steps_report h (Or.inr rfl)

theorem steps_register (h : Backed s) : Steps E T s (register (callbacks E) s).2 := by
  unfold register
  split_ifs
  · exact .refl
  · exact steps_report h (Or.inl rfl)

/-- `Stop` empties both tables -/
theorem steps_stop (h : Backed s) : Steps E T s (stop E s) := by
  have hunregister : Steps E T s (if s.1.registered then (unregister (callbacks E) s).2 else s) := by
    split_ifs
    · exact steps_unregister h
    · exact .refl
  exact hunregister.clear

/-- the calls an operation connects -/
def Connects (E : SessionEnv) (s : SessionManager) : SessionOp → String → Prop
  | .answerCall id accept, x => x = id ∧ accept = true ∧ (s.1.calls.lookup id).isSome
  | .incoming rawMsg _ _, x => ∃ msg, E.parse rawMsg = some msg ∧ ConnectedBy s.1 msg x
  | _, _ => False

/-- **What an operation does** to the two tables -/
theorem step_steps (E : SessionEnv) (s : SessionManager) (o : SessionOp) (h : Backed s) :
    Steps E ⟨Matched s ∧ Legal E s o, False, Connects E s o⟩ s (step E s o) := by
  cases o with
  | makeCall calleeUri mem now =>
    simp only [step, makeCall]
    split_ifs with hfull
    · exact .refl
    · have hroom : s.2.contexts.entries.length < s.2.config.maxSessions.toNat := by omega
      refine steps_sipMakeCall (fun hT => ?_) calleeUri mem now
      exact ⟨hT.1, hT.2 hroom⟩
  | sipMakeCall calleeUri mem now => exact steps_sipMakeCall id calleeUri mem now
  | answerCall id accept => exact steps_answerCall h id accept not_false fun ha hl => ⟨rfl, ha, hl⟩
  | hangUp id => exact steps_hangUp h And.left id
  | cancelCall id => exact steps_cancelCall h id
  | incoming rawMsg mem now => exact steps_incoming h And.left rawMsg mem now fun msg hmsg _ hx => ⟨msg, hmsg, hx⟩
  | processTimers visits => exact steps_processTimers h visits
  | processIncomingSdp id sdpBody => exact steps_processIncomingSdp not_false id sdpBody
  | register => exact steps_register h
  | unregister => exact steps_unregister h
  | stop => exact steps_stop h

/-- **One operation** keeps the tables in step -/
theorem step_matched (E : SessionEnv) (s : SessionManager) (o : SessionOp) (h : Matched s) (ho : Legal E s o) :
    Matched (step E s o) := (step_steps E s o h.backed).matched ⟨h, ho⟩ h

theorem run_matched (E : SessionEnv) {s : SessionManager} (h : Matched s) (ops : List SessionOp)
    (hlegal : Along (step E) (Legal E) s ops) : Matched (exec (step E) s ops) :=
  exec_inv (step_matched E) h ops hlegal

/-- connected calls keep their contexts, whatever call ids are generated -/
theorem step_backed (E : SessionEnv) (s : SessionManager) (o : SessionOp) (h : Backed s) : Backed (step E s o) :=
  (step_steps E s o h).backed h

theorem run_backed (E : SessionEnv) (config : ServerConfig) (ops : List SessionOp) :
    Backed (exec (step E) (started E config) ops) :=
  exec_preserves (step_backed E) (matched_of_empty rfl rfl rfl).backed ops

/-- **No leaked context, no established call without one**: in every run after `Start` -/
theorem contexts_match_calls (E : SessionEnv) (config : ServerConfig) (ops : List SessionOp)
    (hlegal : Along (step E) (Legal E) (started E config) ops) (id : String) :
    let s := exec (step E) (started E config) ops
    id ∈ s.2.contexts ↔
      ∃ call, s.1.calls.lookup id = some call ∧ (call.state = .kConnected ∨ call.state = .kDisconnecting) := by
  have hstart : Matched (started E config) := matched_of_empty rfl rfl rfl
  simp only [(run_matched E hstart ops hlegal).contexts id, entry, Option.map_eq_some_iff, SipCallState.Live]
  constructor
  · intro hentry
    rcases hentry with ⟨_, ⟨call, hl, rfl⟩, hst⟩
    exact ⟨call, hl, hst⟩
  · intro hlive
    rcases hlive with ⟨call, hl, hst⟩
    exact ⟨_, ⟨call, hl, rfl⟩, hst⟩

/-- a call placed, answered by its 200 and hung up -/
theorem contexts_match_calls_hangUp :
    let ok : PeerMessage := .response 200 "OK" "INVITE" "ab-ab"
    let E := SessionEnv.constant "ab" [ok]
    let ops := [SessionOp.makeCall "sip:bob@example.com" ⟨0, 0, 0, 0, 0⟩ 0, .incoming ok.text ⟨0, 0, 0, 0, 0⟩ 0,
      .hangUp "ab-ab"]
    let s := exec (step E) (started E {}) ops
    "ab-ab" ∈ s.2.contexts ↔ ∃ call, s.1.calls.lookup "ab-ab" = some call ∧
      (call.state = .kConnected ∨ call.state = .kDisconnecting) := by
  intro ok E ops
  have hfresh : FreshId E (started E {}).1 := fun _ => AList.notMem_empty _
  exact contexts_match_calls E {} ops (And.intro (fun _ => hfresh) ⟨trivial, trivial, trivial⟩) "ab-ab"

end SessionManager

end Rtcom
