/-
Which contexts an operation opens, and the limit on sessions.

A context is created when a call is reported as connected, by `AnswerCall`, an INVITE or a 2xx (`Opens`); of the three
none looks at `max_sessions`. The limit is checked in `MakeCall` of the session manager, when there is no context yet.

- `contexts_of_opens`, `contexts_of_not_opens`: an operation either opens exactly one context, or leaves or removes
  those there are.
- `contexts_within_limit_iff`: the number of contexts stays within the limit exactly when every operation that opens one
  finds the limit not reached; `two_calls_exceed_limit`: it does not stay within the limit by itself.
- `contexts_within_limit_calls`: the same in terms of the calls alone, where the call ids generated are new.
-/
import Mathlib.Tactic
import Rtcom.Session.Contexts

namespace Rtcom

open Runs SipManager

namespace SessionManager

variable {E : SessionEnv} {s : SessionManager}

/-- the operation opens a context for the call -/
def Opens (E : SessionEnv) (s : SessionManager) (o : SessionOp) (id : String) : Prop :=
  Connects E s o id ∧ id ∉ s.2.contexts

/-! ## What is opened -/

/-- a call is stored and reported as connected, and nothing else happens to the tables -/
def ReportsConnected (E : SessionEnv) (s s' : SessionManager) (id : String) : Prop :=
  ∃ (m : SipManager EventCallback) (call : SipCall), m.sipEventCb = some .onSipEvent ∧ call.state = .kConnected ∧
    s' = notifyStateChange (callbacks E) id .kConnected (m.putCall id call, s.2)

theorem reportsConnected_incoming (h : Backed s) {msg : OsipMessage} {rawMsg id : String} (mem : Uninit) (now : ℕ)
    (hmsg : E.parse rawMsg = some msg) (hconn : ConnectedBy s.1 msg id) :
    ReportsConnected E s (processIncomingMessage E.toSipEnv (callbacks E) rawMsg mem now s) id := by
  rcases hconn with ⟨rfl, ⟨hrequest, hmethod, hempty, hnone⟩ | ⟨h2xx, call, hl, hst⟩⟩
  · have hopens : ¬ ((messageCallId msg).isEmpty ∨ (s.1.calls.lookup (messageCallId msg)).isSome) := by
      simp [hempty, hnone]
    obtain ⟨m, hm, heq⟩ := handleInvite_opens (E := E) h.callback msg mem now hopens
    rw [incoming_invite _ _ hmsg ⟨hrequest, hmethod⟩, heq]
    exact ⟨m, _, hm.sipEventCb.trans h.callback, SipCall.state_setState _ _, rfl⟩
  · have hresponse : msg.statusCode ≠ 0 := by omega
    rw [incoming_response _ _ hmsg hresponse, handleResponse]
    simp only [hl, if_pos h2xx, if_pos hst]
    exact ⟨_, _, (buildInDialogRequest_frame _ _ _ _).sipEventCb.trans h.callback, SipCall.state_setState _ _, rfl⟩

theorem reportsConnected_of_connects (h : Backed s) {o : SessionOp} {id : String} (hconn : Connects E s o id) :
    ReportsConnected E s (step E s o) id := by
  cases o with
  | answerCall callId accept =>
    rcases hconn with ⟨rfl, rfl, hsome⟩
    obtain ⟨call, hl⟩ := Option.isSome_iff_exists.1 hsome
    have hframe : BuilderFrame s.1 (buildResponse E.toSipEnv 200 "OK" (generateTag E.toSipEnv s.1).1
        (generateTag E.toSipEnv s.1).2).2 := (generateTag_frame _ _).trans (buildResponse_frame _ _ _ _ _)
    rw [step, answerCall, hl]
    exact ⟨_, _, hframe.sipEventCb.trans h.callback, SipCall.state_setState call .kConnected, rfl⟩
  | incoming rawMsg mem now =>
    rcases hconn with ⟨msg, hmsg, hby⟩
    exact reportsConnected_incoming h mem now hmsg hby
  | _ => exact hconn.elim

/-- what is connected gets its context, whether there is one already or not -/
theorem session_of_connects (h : Backed s) {o : SessionOp} {id : String} (hconn : Connects E s o id) :
    ∃ info, (step E s o).2 = (s.2.getOrCreateContext E id info).2 := by
  obtain ⟨m, call, hcb, -, heq⟩ := reportsConnected_of_connects h hconn
  have hput : (m.putCall id call).sipEventCb = some .onSipEvent := hcb
  have hl : (m.putCall id call).calls.lookup id = some call := by rw [lookup_putCall, if_pos rfl]
  refine ⟨call.sessionInfo, ?_⟩
  rw [heq, notifyStateChange, hput]
  simp only [callbacks, onSipEvent, hl]

/-- what is connected is connected afterwards -/
theorem connected_of_connects (h : Backed s) {o : SessionOp} {id : String} (hconn : Connects E s o id) :
    ∃ call, (step E s o).1.calls.lookup id = some call ∧ call.state = .kConnected := by
  obtain ⟨m, call, -, hst, heq⟩ := reportsConnected_of_connects h hconn
  have hstate := map_lookup_notify E SipCall.state (fun _ _ _ => rfl) id .kConnected (m.putCall id call, s.2) id
  rw [← heq, lookup_putCall, if_pos rfl, Option.map_some, hst] at hstate
  exact Option.map_eq_some_iff.1 hstate

/-- a new context comes before the others -/
theorem contexts_of_opens (h : Backed s) {o : SessionOp} {id : String} (ho : Opens E s o id) :
    ∃ info, (step E s o).2.contexts =
      s.2.contexts.insert id (Session.newContext s.2.config.media (E.resources s.2.created) id info) := by
  obtain ⟨info, heq⟩ := session_of_connects h ho.1
  have hnone : s.2.contexts.lookup id = none := AList.lookup_eq_none.2 ho.2
  refine ⟨info, ?_⟩
  rw [heq, Session.getOrCreateContext, hnone]
  exact contexts_registerRtpFds E _ _

/-! ## What is left -/

theorem lookup_removeContext {w : Session} {id x : String} {ctx : CallContext}
    (h : (w.removeContext E id).contexts.lookup x = some ctx) : w.contexts.lookup x = some ctx := by
  unfold Session.removeContext at h
  cases hid : w.contexts.lookup id with
  | none => rwa [hid] at h
  | some _ =>
    simp only [hid, contexts_unregisterRtpFds] at h
    by_cases hx : x = id
    · rw [hx, AList.lookup_erase] at h
      cases h
    · rwa [AList.lookup_erase_ne hx] at h

/-- of the reports, only that a call is connected creates a context -/
theorem lookup_notify_contexts {id x : String} {st : SipCallState} (hst : st ≠ .kConnected) {ctx : CallContext}
    (h : (notifyStateChange (callbacks E) id st s).2.contexts.lookup x = some ctx) :
    s.2.contexts.lookup x = some ctx := by
  unfold notifyStateChange at h
  cases hcb : s.1.sipEventCb with
  | none => rwa [hcb] at h
  | some k =>
    rw [hcb] at h
    cases k with
    | application => exact h
    | onSipEvent =>
      cases st with
      | kConnected => exact absurd rfl hst
      | kDisconnected => exact lookup_removeContext h
      | kFailed => exact lookup_removeContext h
      | _ => exact h

theorem Steps.contexts_of_not_connects {T : Terms} {s' : SessionManager} (hsteps : Steps E T s s')
    (hT : ∀ x, ¬ T.connects x) {x : String} {ctx : CallContext} (h : s'.2.contexts.lookup x = some ctx) :
    s.2.contexts.lookup x = some ctx := by
  induction hsteps with
  | refl => exact h
  | aside _ _ ih => exact ih h
  | rewrite _ _ _ _ _ _ _ ih => exact ih h
  | move _ _ _ hconn ih =>
    have hbefore := lookup_notify_contexts (fun hst => hT _ (hconn hst).1) h
    exact ih hbefore
  | erase _ _ ih => exact ih h
  | clear _ _ => cases h

/-- where nothing is opened, there is no new context, and the contexts are those of before -/
theorem contexts_of_not_opens (h : Backed s) {o : SessionOp} (ho : ∀ id, ¬ Opens E s o id) {x : String}
    {ctx : CallContext} (hctx : (step E s o).2.contexts.lookup x = some ctx) : s.2.contexts.lookup x = some ctx := by
  by_cases hconn : ∃ id, Connects E s o id
  · obtain ⟨id, hid⟩ := hconn
    obtain ⟨info, heq⟩ := session_of_connects h hid
    have hmem : id ∈ s.2.contexts := not_not.1 fun hnot => ho id ⟨hid, hnot⟩
    obtain ⟨old, hold⟩ := Option.isSome_iff_exists.1 (AList.lookup_isSome.2 hmem)
    rwa [heq, Session.getOrCreateContext, hold] at hctx
  · exact (step_steps E s o h).contexts_of_not_connects (fun id hid => hconn ⟨id, hid⟩) hctx

/-- what holds of the contexts there are, and of one that is opened, holds of all contexts -/
theorem forall_contexts {P : CallContext → Prop} (h : Backed s) {o : SessionOp}
    (hnew : ∀ id info, Opens E s o id →
      P (Session.newContext s.2.config.media (E.resources s.2.created) id info))
    (hold : ∀ x ctx, s.2.contexts.lookup x = some ctx → P ctx) :
    ∀ x ctx, (step E s o).2.contexts.lookup x = some ctx → P ctx := by
  intro x ctx hctx
  by_cases hopens : ∃ id, Opens E s o id
  · obtain ⟨id, hid⟩ := hopens
    obtain ⟨info, heq⟩ := contexts_of_opens h hid
    rw [heq] at hctx
    by_cases hx : x = id
    · rw [hx, AList.lookup_insert] at hctx
      obtain rfl := Option.some.inj hctx
      exact hnew id info hid
    · rw [AList.lookup_insert_ne hx] at hctx
      exact hold x ctx hctx
  · exact hold x ctx (contexts_of_not_opens h (fun id hid => hopens ⟨id, hid⟩) hctx)

/-! ## The configuration -/

theorem config_registerRtpFds (w : Session) (ctx : CallContext) : (w.registerRtpFds E ctx).config = w.config := by
  simp only [Session.registerRtpFds, Session.addFd]
  split_ifs <;> rfl

theorem config_unregisterRtpFds (w : Session) (ctx : CallContext) : (w.unregisterRtpFds E ctx).config = w.config := by
  simp only [Session.unregisterRtpFds, Session.delFd]
  split_ifs <;> rfl

theorem config_getOrCreateContext (w : Session) (id : String) (info : CallSessionInfo) :
    (w.getOrCreateContext E id info).2.config = w.config := by
  unfold Session.getOrCreateContext
  cases w.contexts.lookup id with
  | some _ => rfl
  | none => exact config_registerRtpFds _ _

theorem config_removeContext (w : Session) (id : String) : (w.removeContext E id).config = w.config := by
  unfold Session.removeContext
  cases w.contexts.lookup id with
  | none => rfl
  | some _ => exact config_unregisterRtpFds _ _

theorem config_notify (id : String) (st : SipCallState) (s : SessionManager) :
    (notifyStateChange (callbacks E) id st s).1.config = s.1.config ∧
      (notifyStateChange (callbacks E) id st s).2.config = s.2.config := by
  unfold notifyStateChange
  cases s.1.sipEventCb with
  | none => exact ⟨rfl, rfl⟩
  | some k =>
    cases k with
    | application => exact ⟨rfl, rfl⟩
    | onSipEvent =>
      cases st with
      | kConnected =>
        simp only [callbacks, onSipEvent]
        cases s.1.calls.lookup id with
        | none => exact ⟨rfl, rfl⟩
        | some call => exact ⟨rfl, config_getOrCreateContext s.2 id call.sessionInfo⟩
      | kDisconnected => exact ⟨rfl, config_removeContext s.2 id⟩
      | kFailed => exact ⟨rfl, config_removeContext s.2 id⟩
      | _ => exact ⟨rfl, rfl⟩

/-- both managers keep their configuration -/
theorem Steps.config {T : Terms} {s' : SessionManager} (hsteps : Steps E T s s') :
    s'.1.config = s.1.config ∧ s'.2.config = s.2.config := by
  induction hsteps with
  | refl => exact ⟨rfl, rfl⟩
  | aside _ ha ih => exact ⟨ha.config.trans ih.1, ih.2⟩
  | rewrite _ _ _ _ _ _ _ ih => exact ih
  | move _ _ _ _ ih =>
    obtain ⟨h1, h2⟩ := config_notify (E := E) _ _ _
    exact ⟨h1.trans ih.1, h2.trans ih.2⟩
  | erase _ _ ih => exact ih
  | clear _ ih => exact ih

/-- a manager after `Start` with a configuration, and any operations -/
structure Configured (config : ServerConfig) (s : SessionManager) : Prop where
  backed : Backed s
  sip : s.1.config = config.sip
  session : s.2.config = config

theorem step_configured {config : ServerConfig} (s : SessionManager) (o : SessionOp) (h : Configured config s) :
    Configured config (step E s o) := by
  obtain ⟨h1, h2⟩ := (step_steps E s o h.backed).config
  exact ⟨step_backed E s o h.backed, h1.trans h.sip, h2.trans h.session⟩

theorem started_configured (config : ServerConfig) : Configured config (started E config) :=
  ⟨(matched_of_empty rfl rfl rfl).backed, rfl, rfl⟩

theorem run_configured (E : SessionEnv) (config : ServerConfig) (ops : List SessionOp) :
    Configured config (exec (step E) (started E config) ops) :=
  exec_preserves step_configured (started_configured config) ops

/-! ## The limit -/

theorem length_entries_le {β : String → Type} {a b : AList β} (h : ∀ x ∈ a, x ∈ b) :
    a.entries.length ≤ b.entries.length := by
  have hkeys : a.keys.length ≤ b.keys.length := a.keys_nodup.length_le_of_subset fun x hx => h x hx
  calc a.entries.length = a.keys.length := (List.length_map _).symm
    _ ≤ b.keys.length := hkeys
    _ = b.entries.length := List.length_map _

def WithinLimit (config : ServerConfig) (s : SessionManager) : Prop :=
  s.2.contexts.entries.length ≤ config.maxSessions.toNat

/-- a context is opened only where the limit is not reached -/
def OpensWithinLimit (E : SessionEnv) (config : ServerConfig) (s : SessionManager) (o : SessionOp) : Prop :=
  (∃ id, Opens E s o id) → s.2.contexts.entries.length < config.maxSessions.toNat

theorem step_withinLimit_iff {config : ServerConfig} (s : SessionManager) (o : SessionOp) (h : Configured config s)
    (hwithin : WithinLimit config s) : WithinLimit config (step E s o) ↔ OpensWithinLimit E config s o := by
  by_cases hopens : ∃ id, Opens E s o id
  · obtain ⟨id, hid⟩ := hopens
    obtain ⟨info, heq⟩ := contexts_of_opens h.backed hid
    rw [WithinLimit, heq, AList.entries_insert_of_notMem hid.2, List.length_cons, OpensWithinLimit]
    exact ⟨fun hlt _ => hlt, fun hlt => hlt ⟨id, hid⟩⟩
  · have hle : (step E s o).2.contexts.entries.length ≤ s.2.contexts.entries.length := by
      refine length_entries_le fun x hx => ?_
      obtain ⟨ctx, hctx⟩ := Option.isSome_iff_exists.1 (AList.lookup_isSome.2 hx)
      have hold := contexts_of_not_opens h.backed (fun id hid => hopens ⟨id, hid⟩) hctx
      exact AList.lookup_isSome.1 (by rw [hold]; rfl)
    exact ⟨fun _ hsome => absurd hsome hopens, fun _ => hle.trans hwithin⟩

/-- **The limit on sessions** is kept in a run exactly when each operation that opens a context finds fewer contexts
than the limit -/
theorem contexts_within_limit_iff (E : SessionEnv) (config : ServerConfig) (ops : List SessionOp) :
    (∀ before after, ops = before ++ after →
        (exec (step E) (started E config) before).2.contexts.entries.length ≤ config.maxSessions.toNat) ↔
      Along (step E) (OpensWithinLimit E config) (started E config) ops :=
  always_iff step_configured step_withinLimit_iff (started_configured config) (Nat.zero_le _) ops

/-! ## The calls -/

/-- the calls that are connected or disconnecting -/
def liveCalls (s : SessionManager) : List String := (s.1.calls.entries.filter fun e => e.2.state.Live).map Sigma.fst

/-- the operation connects a call that is not live -/
def Establishes (E : SessionEnv) (s : SessionManager) (o : SessionOp) (id : String) : Prop :=
  Connects E s o id ∧ id ∉ liveCalls s

theorem mem_liveCalls {id : String} :
    id ∈ liveCalls s ↔ ∃ call, s.1.calls.lookup id = some call ∧ call.state.Live := by
  have hentry : ∀ call : SipCall, (⟨id, call⟩ : Sigma fun _ : String => SipCall) ∈ s.1.calls.entries ↔
      s.1.calls.lookup id = some call := fun call => AList.mem_lookup_iff.symm
  simp only [liveCalls, List.mem_map, List.mem_filter, decide_eq_true_eq, ← hentry]
  constructor
  · intro hmem
    rcases hmem with ⟨⟨_, call⟩, ⟨hmem, hlive⟩, rfl⟩
    exact ⟨call, hmem, hlive⟩
  · intro hmem
    rcases hmem with ⟨call, hmem, hlive⟩
    exact ⟨⟨id, call⟩, ⟨hmem, hlive⟩, rfl⟩

namespace Matched

variable (h : Matched s)
include h

theorem mem_contexts (id : String) : id ∈ s.2.contexts ↔ id ∈ liveCalls s := by
  rw [mem_liveCalls]
  cases hl : s.1.calls.lookup id with
  | none => simpa using h.notMem_of_lookup hl
  | some call => simpa using h.mem_iff_live hl

/-- there are as many contexts as live calls -/
theorem length_contexts : s.2.contexts.entries.length = (liveCalls s).length := by
  have hsub : (liveCalls s).Sublist s.1.calls.keys := List.filter_sublist.map Sigma.fst
  have hperm : s.2.contexts.keys.Perm (liveCalls s) :=
    (List.perm_ext_iff_of_nodup s.2.contexts.keys_nodup (s.1.calls.keys_nodup.sublist hsub)).2 h.mem_contexts
  calc s.2.contexts.entries.length = s.2.contexts.keys.length := (List.length_map _).symm
    _ = (liveCalls s).length := hperm.length_eq

theorem opens_iff (o : SessionOp) (id : String) : Opens E s o id ↔ Establishes E s o id := by
  rw [Opens, h.mem_contexts, Establishes]

end Matched

/-- a call is connected only where fewer calls than the limit are live -/
def EstablishesWithinLimit (E : SessionEnv) (config : ServerConfig) (s : SessionManager) (o : SessionOp) : Prop :=
  (∃ id, Establishes E s o id) → (liveCalls s).length < config.maxSessions.toNat

/-- the limit is kept in a run exactly when each operation that connects a call finds fewer calls live than the limit -/
theorem contexts_within_limit_calls (E : SessionEnv) (config : ServerConfig) (ops : List SessionOp)
    (hlegal : Along (step E) (Legal E) (started E config) ops) :
    (∀ before after, ops = before ++ after → WithinLimit config (exec (step E) (started E config) before)) ↔
      Along (step E) (EstablishesWithinLimit E config) (started E config) ops := by
  have hstart : Matched (started E config) := matched_of_empty rfl rfl rfl
  rw [always_iff step_configured step_withinLimit_iff (started_configured config) (Nat.zero_le _) ops]
  refine along_congr (step_matched E) ?_ hstart hlegal
  intro s o h _
  simp only [OpensWithinLimit, EstablishesWithinLimit, h.opens_iff, h.length_contexts]

/-- one session is allowed -/
def oneSession : ServerConfig := { maxSessions := 1 }

/-- **A call placed and one received** get a context each, where one session is allowed -/
theorem two_calls_exceed_limit : ¬ ∀ (E : SessionEnv) (config : ServerConfig) (ops : List SessionOp),
    (exec (step E) (started E config) ops).2.contexts.entries.length ≤ config.maxSessions.toNat := by
  intro h
  have hle := h (.constant "ab" [.request "INVITE" "x"]) oneSession
    [.makeCall "sip:bob@example.com" ⟨0, 0, 0, 0, 0⟩ 0, .answerCall "ab-ab" true,
      .incoming (PeerMessage.request "INVITE" "x").text ⟨0, 0, 0, 0, 0⟩ 0]
  revert hle
  decide +kernel

end SessionManager

end Rtcom
