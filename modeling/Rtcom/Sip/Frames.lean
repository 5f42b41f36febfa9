/-
What the operations of the manager leave alone.

- `Untouched`: a property in which the numbers that builders use up and the calls have no part. Messages other than
  INVITEs, timers and the operations on calls keep it; an INVITE keeps it of the headers it brings
  (`Untouched.handleInvite`).
- `Closed`: one in which the headers kept of an INVITE and the two flags have no part either. Every operation but
  `Initialize` keeps it (`Closed.step`).
- `drawn_exec`: in every run the Via branch of REGISTERs and the start of the Call-IDs are empty, as in a manager that
  was not initialised, or were drawn by `Initialize` with `RandomHex`.
-/
import Mathlib.Tactic
import Rtcom.Lib.Runs
import Rtcom.Sip.Moves

namespace Rtcom.SipManager

open Runs

variable {κ σ : Type} (E : SipEnv) {cb : Callbacks κ σ}

/-! ## Builders and calls -/

/-- builders and changes of the calls leave the property -/
structure Untouched (P : SipManager κ → Prop) : Prop where
  builder : ∀ {m m'}, BuilderFrame m m' → P m → P m'
  calls : ∀ {m} (calls : Calls), P m → P { m with calls := calls }

namespace Untouched

variable {E} {P : SipManager κ → Prop} (h : Untouched P) (htame : Tame cb)
include h htame

theorem notify (callId : String) (st : SipCallState) {s : SipManager κ × σ} (hs : P s.1) :
    P (notifyStateChange cb callId st s).1 := by
  obtain ⟨calls, heq, -⟩ := htame.notify callId st s
  rw [heq]
  exact h.calls calls hs

/-- a call is stored and a state reported -/
theorem enter {m : SipManager κ} (hm : P m) (callId told : String) (call : SipCall) (st : SipCallState) (w : σ) :
    P (notifyStateChange cb told st (m.putCall callId call, w)).1 :=
  h.notify htame told st (s := (m.putCall callId call, w)) (h.calls _ hm)

/-- an INVITE, which may bring headers -/
theorem handleInvite (msg : OsipMessage) (mem : Uninit) (now : ℕ) {s : SipManager κ × σ}
    (hs : P (if (messageCallId msg).isEmpty then s.1 else cacheHeaders msg (messageCallId msg) s.1)) :
    P (handleInvite E cb msg mem now s).1 := by
  by_cases hknown : (messageCallId msg).isEmpty ∨ (s.1.calls.lookup (messageCallId msg)).isSome
  · obtain ⟨m, -, -, heq, hm⟩ := handleInvite_known E cb msg mem now s hknown
    rw [heq, hm]
    exact hs
  · rw [if_neg (not_or.1 hknown).1] at hs
    rw [handleInvite_new E cb msg mem now s hknown]
    set s₁ := notifyStateChange cb (messageCallId msg) .kRinging
      ((cacheHeaders msg (messageCallId msg) s.1).putCall (messageCallId msg) (ringingCall s.1.config msg mem now), s.2)
    have hringing : P s₁.1 := h.enter htame hs _ _ _ .kRinging s.2
    obtain ⟨m, hframe, heq⟩ := autoAnswer_spec E cb (messageCallId msg) s₁
    rw [heq]
    cases s₁.1.calls.lookup (messageCallId msg) with
    | none => exact h.builder hframe hringing
    | some call => exact h.enter htame (h.builder hframe hringing) _ _ _ .kConnected s₁.2

variable {s : SipManager κ × σ} (hs : P s.1)
include hs

theorem dropCall (callId : String) : P (dropCall cb callId s).1 := by
  unfold SipManager.dropCall
  cases s.1.calls.lookup callId with
  | none => exact hs
  | some call => exact h.calls _ (h.enter htame hs callId callId (call.setState .kDisconnected) .kDisconnected s.2)

theorem makeCall (calleeUri : String) (mem : Uninit) (now : ℕ) : P (makeCall E cb calleeUri mem now s).2.1 := by
  cases hinit : s.1.initialized with
  | false =>
    rw [SipManager.makeCall, hinit]
    exact hs
  | true =>
    obtain ⟨m, callId, call, heq, -, hframe, -⟩ := makeCall_spec E cb calleeUri mem now s hinit
    rw [heq]
    exact h.enter htame (h.builder hframe hs) callId callId call .kCalling s.2

theorem answerCall (callId : String) (accept : Bool) : P (answerCall E cb callId accept s).2.1 := by
  have hframe : ∀ (statusCode : ℤ) (reason : String),
      P (buildResponse E statusCode reason (generateTag E s.1).1 (generateTag E s.1).2).2 := fun statusCode reason =>
    h.builder ((generateTag_frame E s.1).trans (buildResponse_frame E _ statusCode reason _)) hs
  unfold SipManager.answerCall
  cases s.1.calls.lookup callId with
  | none => exact hs
  | some call =>
    cases accept with
    | false => exact h.calls _ (h.enter htame (hframe 486 "Busy Here") callId callId _ .kDisconnected s.2)
    | true => exact h.enter htame (hframe 200 "OK") callId callId _ .kConnected s.2

theorem hangUp (callId : String) : P (hangUp E cb callId s).2.1 := by
  unfold SipManager.hangUp
  cases s.1.calls.lookup callId with
  | none => exact hs
  | some call =>
    simp only
    split_ifs
    · exact hs
    · have hframe := buildInDialogRequest_frame E (s.1.putCall callId (call.setState .kDisconnecting)) "BYE" callId
      exact h.notify htame callId .kDisconnecting (h.builder hframe (h.calls _ hs))

theorem handleResponse (msg : OsipMessage) : P (handleResponse E cb msg s).1 := by
  unfold SipManager.handleResponse
  simp only
  cases s.1.calls.lookup (messageCallId msg) with
  | none => exact hs
  | some call =>
    simp only
    split_ifs
    · have hframe := buildInDialogRequest_frame E s.1 "ACK" (messageCallId msg)
      exact h.enter htame (h.builder hframe hs) _ _ _ .kConnected s.2
    · exact h.calls _ (h.enter htame hs _ _ _ .kDisconnected s.2)
    · exact hs
    · exact h.enter htame hs _ _ _ .kFailed s.2
    · exact hs

/-- a message, if an INVITE brings headers with which the property holds -/
theorem incoming (rawMsg : String) (mem : Uninit) (now : ℕ)
    (hinvite : ∀ msg, E.parse rawMsg = some msg → msg.statusCode = 0 ∧ msg.method = some "INVITE" →
      P (if (messageCallId msg).isEmpty then s.1 else cacheHeaders msg (messageCallId msg) s.1)) :
    P (processIncomingMessage E cb rawMsg mem now s).1 := by
  cases hmsg : E.parse rawMsg with
  | none =>
    rw [incoming_none E cb hmsg]
    exact hs
  | some msg =>
    rcases incoming_cases E cb hmsg with ⟨hrequest, hmethod, heq⟩ | ⟨-, -, heq⟩ | ⟨-, -, heq⟩ | ⟨-, -, heq⟩ | ⟨-, heq⟩
    · rw [heq]
      exact h.handleInvite htame msg mem now (hinvite msg hmsg ⟨hrequest, hmethod⟩)
    · rw [heq]
      exact h.builder (buildResponse_frame E _ 200 "OK" "") (h.dropCall htame hs (messageCallId msg))
    · rw [heq]
      exact h.dropCall htame hs (messageCallId msg)
    · rw [heq]
      exact hs
    · rw [heq]
      exact h.handleResponse htame hs msg

theorem visitTimer (v : Visit) : P (visitTimer cb s v).1 := by
  unfold SipManager.visitTimer
  cases s.1.calls.lookup v.callId with
  | none => exact hs
  | some call =>
    simp only
    split_ifs
    · exact h.calls _ hs
    · exact h.enter htame hs _ _ _ .kFailed s.2
    · exact hs

theorem processTimers (visits : List Visit) : P (processTimers cb visits s).1 :=
  exec_preserves (P := fun s : SipManager κ × σ => P s.1) (fun _ v hs => h.visitTimer htame hs v) hs visits

end Untouched

/-! ## Operations -/

/-- INVITEs and the flags leave the property besides -/
structure Closed (P : SipManager κ → Prop) : Prop extends Untouched P where
  headers : ∀ {m} (msg : OsipMessage) (callId : String), P m → P (cacheHeaders msg callId m)
  flags : ∀ {m} (initialized registered : Bool), P m → P { m with initialized := initialized, registered := registered }

namespace Closed

variable {E} {P : SipManager κ → Prop} (h : Closed P) (htame : Tame cb) {s : SipManager κ × σ} (hs : P s.1)
include h htame hs

theorem unregister : P (unregister cb s).2.1 := by
  unfold SipManager.unregister
  split_ifs
  · exact hs
  · exact h.notify htame "" .kUnregistered (h.flags s.1.initialized false hs)

/-- **Every operation but `Initialize`** keeps a closed property -/
theorem step (o : SipOp) (ho : ∀ osipInit config, o ≠ .initialise osipInit config) : P (step E cb s o).1 := by
  cases o with
  | initialise osipInit config => exact absurd rfl (ho osipInit config)
  | makeCall calleeUri mem now => exact h.makeCall htame hs calleeUri mem now
  | answerCall callId accept => exact h.answerCall htame hs callId accept
  | hangUp callId => exact h.hangUp htame hs callId
  | cancelCall callId =>
    rw [SipManager.step, cancelCall_snd]
    exact h.dropCall htame hs callId
  | incoming rawMsg mem now =>
    refine h.incoming htame hs rawMsg mem now fun msg _ _ => ?_
    split_ifs
    · exact hs
    · exact h.headers msg _ hs
  | processTimers visits => exact h.processTimers htame hs visits
  | processIncomingSdp callId sdpBody =>
    show P (processIncomingSdp callId sdpBody s.1).2
    rcases processIncomingSdp_cases callId sdpBody s.1 with heq | ⟨call, sess, -, heq⟩
    · rw [heq]
      exact hs
    · rw [heq]
      exact h.calls _ hs
  | register =>
    unfold SipManager.step register
    split_ifs
    · exact hs
    · exact h.notify htame "" .kRegistered (h.flags s.1.initialized true hs)
  | unregister => exact h.unregister htame hs
  | shutdown =>
    unfold SipManager.step shutdown
    split_ifs
    · have hgone := h.unregister htame hs
      exact h.flags false _ (h.calls ∅ hgone)
    · exact h.flags false _ (h.calls ∅ hs)

end Closed

/-! ## The branch and the prefix -/

/-- the branch and the prefix are empty, or a text that `RandomHex` returned -/
def Drawn (m : SipManager κ) : Prop :=
  (m.branchId = "" ∨ ∃ k, m.branchId = "z9hG4bK" ++ E.hex k 32) ∧
    (m.callIdPrefix = "" ∨ ∃ k, m.callIdPrefix = E.hex k 16)

theorem drawn_new : Drawn E (new : SipManager κ) := ⟨Or.inl rfl, Or.inl rfl⟩

theorem drawn_initialise (osipInit : Bool) (config : SipConfig) {m : SipManager κ} (h : Drawn E m) :
    Drawn E (initialise E osipInit config m).2 := by
  cases osipInit with
  | false => exact h
  | true => exact ⟨Or.inr ⟨m.draws, rfl⟩, Or.inr ⟨m.draws + 1, rfl⟩⟩

theorem closed_drawn : Closed (Drawn E : SipManager κ → Prop) where
  builder := by
    rintro m _ ⟨_, _, rfl⟩ h
    exact h
  calls := fun _ h => h
  headers := fun _ _ h => h
  flags := fun _ _ h => h

variable {E}

/-- **In every run the branch and the prefix are empty, or were drawn** -/
theorem drawn_exec (htame : Tame cb) (w : σ) (ops : List SipOp) : Drawn E (exec (step E cb) (new, w) ops).1 := by
  refine exec_preserves (P := fun s : SipManager κ × σ => Drawn E s.1) (fun s o h => ?_) (drawn_new E) ops
  by_cases ho : ∃ osipInit config, o = .initialise osipInit config
  · obtain ⟨osipInit, config, rfl⟩ := ho
    exact drawn_initialise E osipInit config h
  · simp only [not_exists] at ho
    exact (closed_drawn E).step htame h o ho

end Rtcom.SipManager
