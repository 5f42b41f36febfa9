/-
What a connected call and its context have in common. The session info is kept in both: a context gets a copy when it is
created, and the local ports of its sockets go back to the call.

`Linked R` says that every connected call has a context, and R holds of the two. `Steps.linked`: it is enough that R
holds when a call is reported as connected, and that R does not depend on what is changed in a call that stays in its
state.
-/
import Mathlib.Tactic
import Rtcom.Session.Contexts

namespace Rtcom

open SipManager

/-- `OnSipEvent`, the local ports of a context go to its call -/
def SipCall.syncPorts (call : SipCall) (info : CallSessionInfo) : SipCall :=
  { call with sessionInfo := { call.sessionInfo with
      audioLocalPort := info.audioLocalPort
      videoLocalPort := info.videoLocalPort } }

namespace SessionManager

variable {E : SessionEnv} {s : SessionManager} {R : SipCall → CallContext → Prop}

theorem lookup_getOrCreateContext (w : Session) (id : String) (info : CallSessionInfo) :
    (w.getOrCreateContext E id info).2.contexts.lookup id = some (w.getOrCreateContext E id info).1 := by
  unfold Session.getOrCreateContext
  cases h : w.contexts.lookup id with
  | some ctx => exact h
  | none =>
    simp only
    rw [contexts_registerRtpFds, AList.lookup_insert]

theorem onSipEvent_connected {id : String} {call : SipCall} (hl : s.1.calls.lookup id = some call) :
    let ctx := (s.2.getOrCreateContext E id call.sessionInfo).1
    (onSipEvent E id .kConnected s).1.calls.lookup id = some (call.syncPorts ctx.info) ∧
      (onSipEvent E id .kConnected s).2.contexts.lookup id = some ctx := by
  intro ctx
  simp only [onSipEvent, hl]
  exact ⟨by rw [lookup_putCall, if_pos rfl]; rfl, lookup_getOrCreateContext s.2 id call.sessionInfo⟩

/-- every connected call has a context, and R holds of the two -/
def Linked (R : SipCall → CallContext → Prop) (s : SessionManager) : Prop :=
  ∀ id call, s.1.calls.lookup id = some call → call.state = .kConnected →
    ∃ ctx, s.2.contexts.lookup id = some ctx ∧ R call ctx

namespace Linked

theorem congr {s' : SessionManager} (hcalls : s'.1.calls = s.1.calls) (hctx : s'.2.contexts = s.2.contexts) :
    Linked R s' ↔ Linked R s := by
  rw [Linked, Linked, hcalls, hctx]

/-- storing a call again, so that R is kept -/
theorem update (h : Linked R s) {id : String} {call' : SipCall} (hcall : call'.state = .kConnected →
    ∃ call, s.1.calls.lookup id = some call ∧ call.state = .kConnected ∧ ∀ ctx, R call ctx → R call' ctx) :
    Linked R (s.1.putCall id call', s.2) := by
  intro x c hl hst
  rw [lookup_putCall] at hl
  split_ifs at hl with hx
  · obtain rfl := Option.some.inj hl
    obtain ⟨call, hcall, hconn, hR⟩ := hcall hst
    obtain ⟨ctx, hctx, hold⟩ := h id call hcall hconn
    exact ⟨ctx, hx ▸ hctx, hR ctx hold⟩
  · exact h x c hl hst

theorem erase (h : Linked R s) (id : String) : Linked R (s.1.eraseCall id, s.2) := by
  intro x call hl hst
  rw [lookup_eraseCall] at hl
  split_ifs at hl
  exact h x call hl hst

/-- a call is stored and reported -/
theorem move (h : Linked R s) (hcb : s.1.sipEventCb = some .onSipEvent) (id : String) (call : SipCall)
    (hR : call.state = .kConnected → let ctx := (s.2.getOrCreateContext E id call.sessionInfo).1
      R (call.syncPorts ctx.info) ctx) :
    Linked R (notifyStateChange (callbacks E) id call.state (s.1.putCall id call, s.2)) := by
  have hput : (s.1.putCall id call).sipEventCb = some .onSipEvent := hcb
  have hlookup : (s.1.putCall id call).calls.lookup id = some call := by rw [lookup_putCall, if_pos rfl]
  simp only [notifyStateChange, hput, callbacks]
  intro x c hl hst
  by_cases hx : x = id
  · subst hx
    -- the state of a call that was stored is the one reported
    have hstate := map_lookup_onSipEvent E SipCall.state (fun _ _ _ => rfl) x call.state (s.1.putCall x call, s.2) x
    rw [hl, hlookup, Option.map_some, Option.map_some, hst] at hstate
    have hconn : call.state = .kConnected := (Option.some.inj hstate).symm
    rw [hconn] at hl ⊢
    obtain ⟨hl', hctx⟩ := onSipEvent_connected (E := E) (s := (s.1.putCall x call, s.2)) hlookup
    obtain rfl := Option.some.inj (hl'.symm.trans hl)
    exact ⟨_, hctx, hR hconn⟩
  · obtain ⟨hcalls, hctx⟩ := lookup_onSipEvent_of_ne E id call.state (s.1.putCall id call, s.2) hx
    rw [hcalls, lookup_putCall, if_neg hx] at hl
    obtain ⟨ctx, hctx', hold⟩ := h x c hl hst
    exact ⟨ctx, hctx.trans hctx', hold⟩

end Linked

/-- **Steps of the two tables** keep a link -/
theorem Steps.linked {T : Terms} {s' : SessionManager} (hsteps : Steps E T s s') (hb : Backed s)
    (hrewrite : ∀ (call call' : SipCall) ctx, call'.sessionInfo.audioLocalPort = call.sessionInfo.audioLocalPort →
      call'.sessionInfo.videoLocalPort = call.sessionInfo.videoLocalPort →
      (T.anew → call'.sessionInfo = call.sessionInfo) → R call ctx → R call' ctx)
    (hconnect : ∀ (w : Session) (id : String) (call : SipCall), (T.inStep → T.anew → id ∉ w.contexts) →
      let ctx := (w.getOrCreateContext E id call.sessionInfo).1
      R (call.syncPorts ctx.info) ctx)
    (h : Linked R s) : Linked R s' := by
  induction hsteps with
  | refl => exact h
  | @aside s' m _ ha ih =>
    have hsame : Linked R (m, s'.2) ↔ Linked R s' := Linked.congr ha.calls rfl
    exact hsame.2 ih
  | rewrite _ hl _ hst haudio hvideo hinfo ih =>
    exact ih.update fun hconn => ⟨_, hl, hst ▸ hconn, fun ctx => hrewrite _ _ ctx haudio hvideo hinfo⟩
  | move hsteps _ _ hconn ih =>
    exact ih.move (hsteps.backed hb).callback _ _ fun hst => hconnect _ _ _ (hconn hst).2
  | erase _ _ ih => exact ih.erase _
  | clear _ _ =>
    intro id call hl
    rw [AList.lookup_empty] at hl
    cases hl

end SessionManager

end Rtcom
