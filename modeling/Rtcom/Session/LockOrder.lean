/-
The SIP thread and the RTP thread of `SessionManager`, and the two mutexes they share: `ctx_mutex_` of the session
manager and `fd_mutex_` of its multiplexer.

A program counter stands at the next lock or unlock; what a thread does up to there is part of the step before. The
SIP thread runs `OnSipEvent`: it takes `ctx_mutex_`, then `fd_mutex_` once for each `AddFd` or `DelFd`. The RTP
thread runs `IoMultiplexer::Run`: after `epoll_wait` the RTCP timer, under `ctx_mutex_`, and then for each descriptor
`fd_mutex_` and, if a callback is registered, `ctx_mutex_` inside of it. Other threads and `timer_mutex_`, which only
the RTP thread takes, are left out.

- `sip_section`: with the RTP thread at rest, the steps of the SIP thread are `GetOrCreateContext` and
  `RemoveContext` of `Session`, and `onSipEvent_session` says which of them an event asks for.
- `owned_of_run`: in every run the owners of the mutexes are where the program counters say.
- `deadlock_iff`: what a deadlock is in terms of the program counters, `not_step_of_deadlock`: it is final.
- `deadlock_free_iff`: a run is free of deadlock exactly when no thread takes its first mutex in the window in which
  the other one is on its way from its first to its second (`Clear`).
-/
import Mathlib.Tactic
import Rtcom.Lib.Locks
import Rtcom.Lib.Runs
import Rtcom.Session.Media

namespace Rtcom

/-! ## Program counters -/

inductive Thread where
  | sip
  | rtp
deriving DecidableEq, Repr

inductive Mutex where
  | ctx
  | fd
deriving DecidableEq, Repr

/-- what `OnSipEvent` does to the contexts -/
inductive ContextRequest where
  | getOrCreate (callId : String) (info : CallSessionInfo)
  | remove (callId : String)

inductive FdOp where
  | addFd (fd : ℤ) (callback : String × Medium)
  | delFd (fd : ℤ)

/-- inside `ctx_mutex_`: the calls of the multiplexer still to make, and the context erased after them -/
structure CtxSection where
  todo : List FdOp
  erased : Option String

/-- `inFd`: inside `AddFd` or `DelFd` -/
inductive SipPc where
  | idle
  | wantCtx (req : ContextRequest)
  | inCtx (c : CtxSection)
  | inFd (op : FdOp) (c : CtxSection)

/-- the descriptors are those `epoll_wait` reported that are still to dispatch; without any, the thread is in
`epoll_wait`. `release`: at the end of the block that dispatches one. -/
inductive RtpPc where
  | timer (ready : List ℤ)
  | inTimer (ready : List ℤ)
  | dispatch (ready : List ℤ)
  | wantCtx (callback : String × Medium) (rest : List ℤ)
  | inCtx (callback : String × Medium) (rest : List ℤ)
  | release (rest : List ℤ)

/-! ## The code between the locks -/

namespace CallContext

variable (S : StdSort BufferItem.seq)

/-- the callbacks of `RegisterRtpFds`, for a context that was found; what they hand to the decoders is left out -/
def onReadable (ctx : CallContext) (received : Option (List UInt8 × String × UInt16)) (now : ℤ) (medium : Medium) :
    CallContext := (ctx.receive S received now medium).1

/-- `RegisterRtpFds` -/
def registerOps (ctx : CallContext) : List FdOp :=
  (if ctx.audioRtp.recvFd ≥ 0 then [.addFd ctx.audioRtp.recvFd (ctx.callId, .audio)] else []) ++
    if ctx.videoRtp.recvFd ≥ 0 then [.addFd ctx.videoRtp.recvFd (ctx.callId, .video)] else []

/-- `UnregisterRtpFds` -/
def unregisterOps (ctx : CallContext) : List FdOp :=
  (if ctx.audioRtp.recvFd ≥ 0 then [.delFd ctx.audioRtp.recvFd] else []) ++
    if ctx.videoRtp.recvFd ≥ 0 then [.delFd ctx.videoRtp.recvFd] else []

end CallContext

section

variable (E : SessionEnv)

def FdOp.run (w : Session) : FdOp → Session
  | .addFd fd callback => w.addFd E fd callback
  | .delFd fd => w.delFd E fd

/-- from taking `ctx_mutex_` to the first call of the multiplexer -/
def ContextRequest.enter (w : Session) : ContextRequest → CtxSection × Session
  | .getOrCreate callId info =>
    match w.contexts.lookup callId with
    | some _ => (⟨[], none⟩, w)
    | none =>
      let ctx := Session.newContext w.config.media (E.resources w.created) callId info
      (⟨ctx.registerOps, none⟩, { w with contexts := w.contexts.insert callId ctx, created := w.created + 1 })
  | .remove callId =>
    match w.contexts.lookup callId with
    | none => (⟨[], none⟩, w)
    | some ctx => (⟨ctx.unregisterOps, some callId⟩, w)

/-- from the last call of the multiplexer to the release of `ctx_mutex_` -/
def CtxSection.leave (c : CtxSection) (w : Session) : Session :=
  match c.erased with
  | none => w
  | some callId => { w with contexts := w.contexts.erase callId }

/-- the request as one operation -/
def ContextRequest.run (w : Session) : ContextRequest → Session
  | .getOrCreate callId info => (w.getOrCreateContext E callId info).2
  | .remove callId => w.removeContext E callId

/-- the request an event makes, if any -/
def ContextRequest.ofEvent (calls : Calls) (callId : String) : SipCallState → Option ContextRequest
  | .kConnected => (calls.lookup callId).map fun call => .getOrCreate callId call.sessionInfo
  | .kDisconnected | .kFailed => some (.remove callId)
  | _ => none

/-- `OnSipEvent` touches the contexts by its request only -/
theorem onSipEvent_session (callId : String) (state : SipCallState) (s : SessionManager) :
    (SessionManager.onSipEvent E callId state s).2 =
      (ContextRequest.ofEvent s.1.calls callId state).elim s.2 (ContextRequest.run E s.2) := by
  cases state with
  | kConnected =>
    rw [SessionManager.onSipEvent, ContextRequest.ofEvent]
    cases s.1.calls.lookup callId <;> rfl
  | _ => rfl

/-- the body of a callback -/
def Session.onReadable (S : StdSort BufferItem.seq) (w : Session) (callback : String × Medium)
    (received : Option (List UInt8 × String × UInt16)) (now : ℤ) : Session :=
  match w.contexts.lookup callback.1 with
  | none => w
  | some ctx => { w with contexts := w.contexts.insert callback.1 (ctx.onReadable S received now callback.2) }

end

/-! ## Two threads -/

namespace SipPc

def holds : SipPc → Mutex → Prop
  | .inCtx _, m => m = .ctx
  | .inFd .., _ => True
  | _, _ => False

/-- the mutex the next action locks -/
def next : SipPc → Option Mutex
  | .wantCtx _ => some .ctx
  | .inCtx ⟨_ :: _, _⟩ => some .fd
  | _ => none

/-- between its two locks -/
def AtFd : SipPc → Prop
  | .inCtx c => c.todo ≠ []
  | _ => False

end SipPc

namespace RtpPc

def holds : RtpPc → Mutex → Prop
  | .inTimer _, m => m = .ctx
  | .wantCtx .., m => m = .fd
  | .inCtx .., _ => True
  | .release _, m => m = .fd
  | _, _ => False

/-- the mutex the next action locks -/
def next : RtpPc → Option Mutex
  | .timer _ => some .ctx
  | .dispatch (_ :: _) => some .fd
  | .wantCtx .. => some .ctx
  | _ => none

/-- between its two locks -/
def AtCtx : RtpPc → Prop
  | .wantCtx .. => True
  | _ => False

end RtpPc

structure Threads where
  sip : SipPc
  rtp : RtpPc
  owner : Mutex → Option Thread
  session : Session

inductive LockAction where
  | sipEvent (req : ContextRequest)
  | sipLockCtx
  | sipLockFd
  | sipUnlockFd
  | sipUnlockCtx
  | rtpWake (due : Bool) (ready : List ℤ)
  | rtpLockTimer
  | rtpUnlockTimer
  | rtpLockFd
  | rtpLockCtx
  | rtpUnlockCtx (received : Option (List UInt8 × String × UInt16)) (now : ℤ)
  | rtpUnlockFd

namespace Threads

open Runs Locks Function

def holds (s : Threads) : Thread → Mutex → Prop
  | .sip => s.sip.holds
  | .rtp => s.rtp.holds

def next (s : Threads) : Thread → Option Mutex
  | .sip => s.sip.next
  | .rtp => s.rtp.next

def Deadlock (s : Threads) : Prop := Locks.Deadlock s.owner s.next

variable (E : SessionEnv) (S : StdSort BufferItem.seq)

/-- one action of one thread -/
inductive Step : Threads → LockAction → Threads → Prop
  | sipEvent {s : Threads} (req : ContextRequest) (hpc : s.sip = .idle) :
    Step s (.sipEvent req) { s with sip := .wantCtx req }
  | sipLockCtx {s : Threads} {req : ContextRequest} (hpc : s.sip = .wantCtx req) (hfree : s.owner .ctx = none) :
    Step s .sipLockCtx { s with
      sip := .inCtx (req.enter E s.session).1
      owner := update s.owner .ctx (some .sip)
      session := (req.enter E s.session).2 }
  | sipLockFd {s : Threads} {op : FdOp} {todo : List FdOp} {erased : Option String}
    (hpc : s.sip = .inCtx ⟨op :: todo, erased⟩) (hfree : s.owner .fd = none) :
    Step s .sipLockFd { s with sip := .inFd op ⟨todo, erased⟩, owner := update s.owner .fd (some .sip) }
  | sipUnlockFd {s : Threads} {op : FdOp} {c : CtxSection} (hpc : s.sip = .inFd op c) :
    Step s .sipUnlockFd { s with
      sip := .inCtx c
      owner := update s.owner .fd none
      session := op.run E s.session }
  | sipUnlockCtx {s : Threads} {erased : Option String} (hpc : s.sip = .inCtx ⟨[], erased⟩) :
    Step s .sipUnlockCtx { s with
      sip := .idle
      owner := update s.owner .ctx none
      session := CtxSection.leave ⟨[], erased⟩ s.session }
  | rtpWake {s : Threads} (due : Bool) (ready : List ℤ) (hpc : s.rtp = .dispatch []) :
    Step s (.rtpWake due ready) { s with rtp := if due then .timer ready else .dispatch ready }
  | rtpLockTimer {s : Threads} {ready : List ℤ} (hpc : s.rtp = .timer ready) (hfree : s.owner .ctx = none) :
    Step s .rtpLockTimer { s with rtp := .inTimer ready, owner := update s.owner .ctx (some .rtp) }
  | rtpUnlockTimer {s : Threads} {ready : List ℤ} (hpc : s.rtp = .inTimer ready) :
    Step s .rtpUnlockTimer { s with rtp := .dispatch ready, owner := update s.owner .ctx none }
  | rtpLockFd {s : Threads} {fd : ℤ} {rest : List ℤ} (hpc : s.rtp = .dispatch (fd :: rest))
    (hfree : s.owner .fd = none) :
    Step s .rtpLockFd { s with
      rtp := match s.session.fdMap.lookup fd with
        | some callback => .wantCtx callback rest
        | none => .release rest
      owner := update s.owner .fd (some .rtp) }
  | rtpLockCtx {s : Threads} {callback : String × Medium} {rest : List ℤ} (hpc : s.rtp = .wantCtx callback rest)
    (hfree : s.owner .ctx = none) :
    Step s .rtpLockCtx { s with rtp := .inCtx callback rest, owner := update s.owner .ctx (some .rtp) }
  | rtpUnlockCtx {s : Threads} {callback : String × Medium} {rest : List ℤ}
    (received : Option (List UInt8 × String × UInt16)) (now : ℤ) (hpc : s.rtp = .inCtx callback rest) :
    Step s (.rtpUnlockCtx received now) { s with
      rtp := .release rest
      owner := update s.owner .ctx none
      session := s.session.onReadable S callback received now }
  | rtpUnlockFd {s : Threads} {rest : List ℤ} (hpc : s.rtp = .release rest) :
    Step s .rtpUnlockFd { s with rtp := .dispatch rest, owner := update s.owner .fd none }

/-- both threads at rest -/
def atRest (w : Session) : Threads where
  sip := .idle
  rtp := .dispatch []
  owner := fun _ => none
  session := w

variable {E S}

/-! ## The SIP thread alone -/

theorem registerRtpFds_eq (w : Session) (ctx : CallContext) :
    w.registerRtpFds E ctx = ctx.registerOps.foldl (FdOp.run E) w := by
  rw [Session.registerRtpFds, CallContext.registerOps]
  split_ifs <;> rfl

theorem unregisterRtpFds_eq (w : Session) (ctx : CallContext) :
    w.unregisterRtpFds E ctx = ctx.unregisterOps.foldl (FdOp.run E) w := by
  rw [Session.unregisterRtpFds, CallContext.unregisterOps]
  split_ifs <;> rfl

/-- the parts of a request put together -/
theorem run_eq_leave (w : Session) (req : ContextRequest) :
    req.run E w = (req.enter E w).1.leave ((req.enter E w).1.todo.foldl (FdOp.run E) (req.enter E w).2) := by
  cases req with
  | getOrCreate callId info =>
    rw [ContextRequest.run, ContextRequest.enter, Session.getOrCreateContext]
    cases w.contexts.lookup callId with
    | none => exact registerRtpFds_eq _ _
    | some ctx => rfl
  | remove callId =>
    rw [ContextRequest.run, ContextRequest.enter, Session.removeContext]
    cases w.contexts.lookup callId with
    | none => rfl
    | some ctx =>
      simp only [CtxSection.leave, unregisterRtpFds_eq]

/-- the calls of the multiplexer, one after the other -/
theorem run_todo {s : Threads} {todo : List FdOp} {erased : Option String} (hpc : s.sip = .inCtx ⟨todo, erased⟩)
    (hfree : s.owner .fd = none) :
    ∃ as, Run (Step E S) s as
      { s with sip := .inCtx ⟨[], erased⟩, session := todo.foldl (FdOp.run E) s.session } := by
  induction todo generalizing s with
  | nil =>
    refine ⟨[], ?_⟩
    rw [List.foldl_nil, ← hpc]
    exact .nil s
  | cons op todo ih =>
    have howner : update (update s.owner .fd (some .sip)) .fd none = s.owner := by
      rw [update_idem, ← hfree, update_eq_self]
    have h1 : Step E S s .sipLockFd _ := .sipLockFd hpc hfree
    have h2 : Step E S { s with sip := .inFd op ⟨todo, erased⟩, owner := update s.owner .fd (some .sip) } .sipUnlockFd
        { s with sip := .inCtx ⟨todo, erased⟩, session := op.run E s.session } := by
      have h : Step E S { s with sip := .inFd op ⟨todo, erased⟩, owner := update s.owner .fd (some .sip) }
        .sipUnlockFd _ := .sipUnlockFd rfl
      rw [howner] at h
      exact h
    obtain ⟨as, h3⟩ := ih (s := { s with sip := .inCtx ⟨todo, erased⟩, session := op.run E s.session }) rfl hfree
    exact ⟨_, .cons h1 (.cons h2 h3)⟩

/-- from inside `ctx_mutex_` to its release -/
theorem run_leave {s : Threads} {c : CtxSection} (hpc : s.sip = .inCtx c) (hfree : s.owner .fd = none) :
    ∃ as, Run (Step E S) s as
      { s with
        sip := .idle
        owner := update s.owner .ctx none
        session := c.leave (c.todo.foldl (FdOp.run E) s.session) } := by
  obtain ⟨as, h1⟩ := run_todo (E := E) (S := S) hpc hfree
  have h2 : Step E S { s with sip := .inCtx ⟨[], c.erased⟩, session := c.todo.foldl (FdOp.run E) s.session }
    .sipUnlockCtx _ := .sipUnlockCtx rfl
  exact ⟨_, h1.append (.cons h2 (.nil _))⟩

/-- **A section of the SIP thread**, undisturbed, is the operation of `Session` -/
theorem sip_section {s : Threads} {req : ContextRequest} (hpc : s.sip = .wantCtx req) (hctx : s.owner .ctx = none)
    (hfd : s.owner .fd = none) :
    ∃ as, Run (Step E S) s as { s with sip := .idle, session := req.run E s.session } := by
  have howner : update (update s.owner .ctx (some .sip)) .ctx none = s.owner := by
    rw [update_idem, ← hctx, update_eq_self]
  have h1 : Step E S s .sipLockCtx _ := .sipLockCtx hpc hctx
  have hfree : update s.owner .ctx (some .sip) .fd = none := (update_of_ne (by decide) _ _).trans hfd
  obtain ⟨as, h2⟩ := run_leave (E := E) (S := S) (s := { s with
    sip := .inCtx (req.enter E s.session).1
    owner := update s.owner .ctx (some .sip)
    session := (req.enter E s.session).2 }) rfl hfree
  simp only [howner, ← run_eq_leave] at h2
  exact ⟨_, .cons h1 h2⟩

/-! ## The owners of the mutexes -/

theorem owned_atRest (w : Session) : Owned (atRest w).owner (atRest w).holds := by
  intro t m
  cases t <;> simp [atRest, holds, SipPc.holds, RtpPc.holds]

theorem owned_step (s : Threads) (a : LockAction) (t : Threads) (h : Owned s.owner s.holds) (hstep : Step E S s a t) :
    Owned t.owner t.holds := by
  cases hstep with
  | sipEvent req hpc =>
    refine h.congr fun t m => ?_
    cases t <;> simp [holds, SipPc.holds, hpc]
  | sipLockCtx hpc hfree =>
    refine h.lock hfree fun t m => ?_
    cases t <;> simp [holds, SipPc.holds, hpc]
  | sipLockFd hpc hfree =>
    refine h.lock hfree fun t m => ?_
    cases t <;> cases m <;> simp [holds, SipPc.holds, hpc]
  | sipUnlockFd hpc =>
    refine h.unlock (show s.holds .sip .fd by simp [holds, SipPc.holds, hpc]) fun t m => ?_
    cases t <;> cases m <;> simp [holds, SipPc.holds, hpc]
  | sipUnlockCtx hpc =>
    refine h.unlock (show s.holds .sip .ctx by simp [holds, SipPc.holds, hpc]) fun t m => ?_
    cases t <;> simp [holds, SipPc.holds, hpc]
  | rtpWake due ready hpc =>
    refine h.congr fun t m => ?_
    cases t <;> cases due <;> simp [holds, RtpPc.holds, hpc]
  | rtpLockTimer hpc hfree =>
    refine h.lock hfree fun t m => ?_
    cases t <;> simp [holds, RtpPc.holds, hpc]
  | rtpUnlockTimer hpc =>
    refine h.unlock (show s.holds .rtp .ctx by simp [holds, RtpPc.holds, hpc]) fun t m => ?_
    cases t <;> simp [holds, RtpPc.holds, hpc]
  | rtpLockFd hpc hfree =>
    refine h.lock hfree fun t m => ?_
    cases t with
    | sip => simp [holds]
    | rtp => cases s.session.fdMap.lookup _ <;> simp [holds, RtpPc.holds, hpc]
  | rtpLockCtx hpc hfree =>
    refine h.lock hfree fun t m => ?_
    cases t <;> cases m <;> simp [holds, RtpPc.holds, hpc]
  | rtpUnlockCtx received now hpc =>
    refine h.unlock (show s.holds .rtp .ctx by simp [holds, RtpPc.holds, hpc]) fun t m => ?_
    cases t <;> cases m <;> simp [holds, RtpPc.holds, hpc]
  | rtpUnlockFd hpc =>
    refine h.unlock (show s.holds .rtp .fd by simp [holds, RtpPc.holds, hpc]) fun t m => ?_
    cases t <;> simp [holds, RtpPc.holds, hpc]

/-- **Owners and program counters agree** in every run -/
theorem owned_of_run {w : Session} {as : List LockAction} {t : Threads} (h : Run (Step E S) (atRest w) as t) :
    Owned t.owner t.holds :=
  h.inv (P := fun s => Owned s.owner s.holds) owned_step (owned_atRest w)

/-! ## Deadlock -/

theorem deadlock_iff {s : Threads} (h : Owned s.owner s.holds) : s.Deadlock ↔ s.sip.AtFd ∧ s.rtp.AtCtx := by
  -- the SIP thread can only wait for `fd_mutex_` with `ctx_mutex_` held, the RTP thread the other way round
  have hsip : ∀ m m', s.sip.holds m ∧ s.sip.next = some m' ↔ s.sip.AtFd ∧ m = .ctx ∧ m' = .fd := by
    intro m m'
    cases hp : s.sip with
    | inCtx c =>
      obtain ⟨todo, erased⟩ := c
      cases todo <;> simp [SipPc.holds, SipPc.next, SipPc.AtFd, eq_comm]
    | _ => simp [SipPc.holds, SipPc.next, SipPc.AtFd]
  have hrtp : ∀ m m', s.rtp.holds m ∧ s.rtp.next = some m' ↔ s.rtp.AtCtx ∧ m = .fd ∧ m' = .ctx := by
    intro m m'
    cases hp : s.rtp with
    | dispatch ready => simp [RtpPc.holds, RtpPc.AtCtx]
    | _ => simp [RtpPc.holds, RtpPc.next, RtpPc.AtCtx, eq_comm]
  constructor
  · intro hdead
    rcases hdead with ⟨t, t', hne, m, m', h1, h2, h3, h4⟩
    rw [h t m] at h1
    rw [h t' m'] at h3
    cases t <;> cases t'
    · exact absurd rfl hne
    · exact ⟨((hsip m m').1 ⟨h1, h4⟩).1, ((hrtp m' m).1 ⟨h3, h2⟩).1⟩
    · exact ⟨((hsip m' m).1 ⟨h3, h2⟩).1, ((hrtp m m').1 ⟨h1, h4⟩).1⟩
    · exact absurd rfl hne
  · intro hat
    rcases hat with ⟨hfd, hctx⟩
    obtain ⟨h1, h4⟩ := (hsip .ctx .fd).2 ⟨hfd, rfl, rfl⟩
    obtain ⟨h3, h2⟩ := (hrtp .fd .ctx).2 ⟨hctx, rfl, rfl⟩
    exact ⟨.sip, .rtp, by decide, .ctx, .fd, (h _ _).2 h1, h2, (h _ _).2 h3, h4⟩

/-- a deadlock is final: neither thread has a step -/
theorem not_step_of_deadlock {s : Threads} (h : Owned s.owner s.holds) (hd : s.Deadlock) (a : LockAction)
    (t : Threads) : ¬ Step E S s a t := by
  obtain ⟨hsip, hrtp⟩ := (deadlock_iff h).1 hd
  obtain ⟨op, todo, erased, hs⟩ : ∃ op todo erased, s.sip = .inCtx ⟨op :: todo, erased⟩ := by
    cases hp : s.sip with
    | inCtx c =>
      obtain ⟨todo, erased⟩ := c
      cases todo with
      | nil => simp [hp, SipPc.AtFd] at hsip
      | cons op todo => exact ⟨op, todo, erased, rfl⟩
    | _ => simp [hp, SipPc.AtFd] at hsip
  obtain ⟨callback, rest, hr⟩ : ∃ callback rest, s.rtp = .wantCtx callback rest := by
    cases hp : s.rtp with
    | wantCtx callback rest => exact ⟨callback, rest, rfl⟩
    | _ => simp [hp, RtpPc.AtCtx] at hrtp
  have hctx : s.owner .ctx = some .sip := (h _ _).2 (by simp [holds, SipPc.holds, hs])
  have hfd : s.owner .fd = some .rtp := (h _ _).2 (by simp [holds, RtpPc.holds, hr])
  intro hstep
  cases hstep with
  | sipLockFd hpc hfree =>
    rw [hfd] at hfree
    cases hfree
  | rtpLockCtx hpc hfree =>
    rw [hctx] at hfree
    cases hfree
  | sipEvent _ hpc | sipLockCtx hpc _ | sipUnlockFd hpc | sipUnlockCtx hpc =>
    rw [hs] at hpc
    cases hpc
  | rtpWake _ _ hpc | rtpLockTimer hpc _ | rtpUnlockTimer hpc | rtpLockFd hpc _ | rtpUnlockCtx _ _ hpc
  | rtpUnlockFd hpc =>
    rw [hr] at hpc
    cases hpc

/-- with a descriptor registered, a tear-down can meet a datagram half-way -/
theorem exists_deadlock {w : Session} {callId : String} {ctx : CallContext} {fd : ℤ} {callback : String × Medium}
    (hctx : w.contexts.lookup callId = some ctx) (hops : ctx.unregisterOps ≠ [])
    (hfd : w.fdMap.lookup fd = some callback) :
    ∃ as t, Run (Step E S) (atRest w) as t ∧ t.Deadlock := by
  -- the states the two threads go through, with the owners of the mutexes
  let free : Mutex → Option Thread := fun _ => none
  let s1 : Threads := ⟨.idle, .dispatch [fd], free, w⟩
  let s2 : Threads := ⟨.idle, .wantCtx callback [], update free .fd (some .rtp), w⟩
  let s3 : Threads := ⟨.wantCtx (.remove callId), .wantCtx callback [], update free .fd (some .rtp), w⟩
  let s4 : Threads := ⟨.inCtx ⟨ctx.unregisterOps, some callId⟩, .wantCtx callback [],
    update (update free .fd (some .rtp)) .ctx (some .sip), w⟩
  have h1 : Step E S (atRest w) (.rtpWake false [fd]) s1 := .rtpWake _ _ rfl
  have h2 : Step E S s1 .rtpLockFd s2 := by
    have h : Step E S s1 .rtpLockFd _ := .rtpLockFd rfl rfl
    simp only [s1, hfd] at h
    exact h
  have h3 : Step E S s2 (.sipEvent (.remove callId)) s3 := .sipEvent _ rfl
  have h4 : Step E S s3 .sipLockCtx s4 := by
    have h : Step E S s3 .sipLockCtx _ := .sipLockCtx rfl rfl
    simp only [s3, ContextRequest.enter, hctx] at h
    exact h
  have hrun : Run (Step E S) (atRest w) _ s4 := .cons h1 (.cons h2 (.cons h3 (.cons h4 (.nil s4))))
  exact ⟨_, s4, hrun, (deadlock_iff (owned_of_run hrun)).2 ⟨hops, trivial⟩⟩

/-- **The window is shut** at a step: the SIP thread does not enter `ctx_mutex_` with descriptors to add or delete while
the RTP thread is in the block of a registered descriptor and waits for `ctx_mutex_`, nor the RTP thread the block of a
registered descriptor while the SIP thread is inside `ctx_mutex_` with descriptors left -/
def Clear (E : SessionEnv) (s : Threads) : LockAction → Prop
  | .sipLockCtx => s.rtp.AtCtx → ∀ req, s.sip = .wantCtx req → (req.enter E s.session).1.todo = []
  | .rtpLockFd => s.sip.AtFd → ∀ fd rest, s.rtp = .dispatch (fd :: rest) → fd ∉ s.session.fdMap
  | _ => True

/-- while the SIP thread is inside `AddFd` or `DelFd`, no callback waits -/
theorem not_atCtx_of_inFd {s : Threads} (h : Owned s.owner s.holds) {op : FdOp} {c : CtxSection}
    (hpc : s.sip = .inFd op c) : ¬ s.rtp.AtCtx := by
  intro hctx
  cases hp : s.rtp with
  | wantCtx callback rest =>
    have hsip : s.holds .sip .fd := by simp [holds, SipPc.holds, hpc]
    have hrtp : s.holds .rtp .fd := by simp [holds, RtpPc.holds, hp]
    cases h.exclusive hsip hrtp
  | _ => simp [hp, RtpPc.AtCtx] at hctx

/-- a step from a state without deadlock leads into one exactly when the window is open -/
theorem clear_iff (s : Threads) (a : LockAction) (t : Threads) (h : Owned s.owner s.holds) (hno : ¬ s.Deadlock)
    (hstep : Step E S s a t) : ¬ t.Deadlock ↔ Clear E s a := by
  have ht := owned_step s a t h hstep
  rw [deadlock_iff h] at hno
  rw [deadlock_iff ht]
  cases hstep with
  | sipLockCtx hpc hfree =>
    simp only [Clear, SipPc.AtFd, hpc, SipPc.wantCtx.injEq, forall_eq']
    tauto
  | rtpLockFd hpc hfree =>
    rename_i fd rest
    simp only [Clear, hpc, RtpPc.dispatch.injEq, List.cons.injEq]
    cases hfd : s.session.fdMap.lookup fd with
    | none => simp [RtpPc.AtCtx, ← AList.lookup_eq_none, hfd]
    | some callback => simp [RtpPc.AtCtx, ← AList.lookup_eq_none, hfd]
  | sipUnlockFd hpc =>
    have hrtp := not_atCtx_of_inFd h hpc
    simp [Clear, hrtp]
  | rtpWake due ready hpc => cases due <;> simp [Clear, RtpPc.AtCtx]
  | _ => simp [Clear, SipPc.AtFd, RtpPc.AtCtx]

/-- **When two threads stay free of deadlock.** A run from rest reaches no deadlock exactly when the window is shut at
every step it takes -/
theorem deadlock_free_iff (E : SessionEnv) (S : StdSort BufferItem.seq) (w : Session) (as : List LockAction)
    (t : Threads) :
    (∀ u, Visited (Step E S) (atRest w) as t u → ¬ u.Deadlock) ↔
      ∀ u a, Taken (Step E S) (atRest w) as t u a → Clear E u a := by
  have hrest : ¬ (atRest w).Deadlock := by
    rw [deadlock_iff (owned_atRest w)]
    simp [atRest, SipPc.AtFd]
  exact never_bad_iff (I := fun s => Owned s.owner s.holds) owned_step clear_iff (owned_atRest w) hrest

/-- a call is set up, and torn down while a datagram on its audio socket is dispatched -/
theorem teardown_meets_datagram :
    let E := SessionEnv.constant "ab" []
    ∃ as t, Run (Step E (.insertion BufferItem.seq)) (atRest (.new {})) as t ∧ t.Deadlock := by
  intro E
  let req : ContextRequest := .getOrCreate "ab-ab" (.new ⟨0, 0, 0, 0, 0⟩)
  let s : Threads := { atRest (.new {}) with sip := .wantCtx req }
  have h1 : Step E (.insertion BufferItem.seq) (atRest (.new {})) (.sipEvent req) s := .sipEvent req rfl
  obtain ⟨as, h2⟩ := sip_section (E := E) (S := .insertion BufferItem.seq) (s := s) rfl rfl rfl
  have hctx : (req.run E (.new {})).contexts.lookup "ab-ab" = some _ := AList.lookup_insert _
  have hfd : (req.run E (.new {})).fdMap.lookup 11 = some ("ab-ab", .audio) := by decide +kernel
  obtain ⟨bs, t, h3, hdead⟩ := exists_deadlock (E := E) (S := .insertion BufferItem.seq) hctx (List.cons_ne_nil _ _) hfd
  exact ⟨_, t, .cons h1 (h2.append h3), hdead⟩

end Threads

end Rtcom
