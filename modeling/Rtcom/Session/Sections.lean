/-
The SIP thread and the RTP thread, one section after the other. Between them the two threads interleave at every lock
and unlock of `ctx_mutex_` and `fd_mutex_`; what they do to the session they do with `ctx_mutex_` held.

A section is a whole operation: what `OnSipEvent` asks for, or one callback, which looks for its descriptor in
`fd_map_`. `completed` is the session with the section that the SIP thread is in brought to its end.

- `serializable`: in every run, also one that ends in a deadlock, the session is the one that the sections give in the
  order in which the threads took `ctx_mutex_`.
-/
import Mathlib.Tactic
import Rtcom.Session.LockOrder

namespace Rtcom

open Runs Locks Function

/-! ## Sections -/

/-- what `epoll_wait` reports about a descriptor is read when its callback runs -/
inductive SectionOp where
  | request (req : ContextRequest)
  | callback (fd : ℤ) (received : Option (List UInt8 × String × UInt16)) (now : ℤ)

variable (E : SessionEnv) (S : StdSort BufferItem.seq)

def SectionOp.run (w : Session) : SectionOp → Session
  | .request req => req.run E w
  | .callback fd received now =>
    match w.fdMap.lookup fd with
    | none => w
    | some found => w.onReadable S found received now

/-- the datagram a section reads, if it is a callback -/
def SectionOp.reading : SectionOp → Option (Option (List UInt8 × String × UInt16) × ℤ)
  | .request _ => none
  | .callback _ received now => some (received, now)

def SectionOp.request? : SectionOp → Option ContextRequest
  | .request req => some req
  | .callback .. => none

namespace LockAction

/-- the request `OnSipEvent` is called for -/
def requested : LockAction → Option ContextRequest
  | .sipEvent req => some req
  | _ => none

/-- the descriptors `epoll_wait` reports -/
def woken : LockAction → List ℤ
  | .rtpWake _ ready => ready
  | _ => []

/-- a thread has `ctx_mutex_` for a section, and the datagram the section reads -/
def entered : LockAction → Option (Option (Option (List UInt8 × String × UInt16) × ℤ))
  | .sipLockCtx => some none
  | .rtpUnlockCtx received now => some (some (received, now))
  | _ => none

end LockAction

/-- the request that waits for `ctx_mutex_` -/
def SipPc.waiting : SipPc → List ContextRequest
  | .wantCtx req => [req]
  | _ => []

/-- the descriptors still to dispatch -/
def RtpPc.ready : RtpPc → List ℤ
  | .timer ready | .inTimer ready | .dispatch ready | .wantCtx _ ready | .inCtx _ ready | .release ready => ready

namespace Threads

/-- the section that the SIP thread is in is brought to its end -/
def completed (s : Threads) : Session :=
  match s.sip with
  | .inCtx c => c.leave (c.todo.foldl (FdOp.run E) s.session)
  | .inFd op c => c.leave (c.todo.foldl (FdOp.run E) (op.run E s.session))
  | _ => s.session

/-- the sections of a run so far, and where the threads stand -/
structure Serial (w : Session) (as : List LockAction) (ops : List SectionOp) (s : Threads) : Prop where
  owned : Owned s.owner s.holds
  completed : s.completed E = exec (SectionOp.run E S) w ops
  registered : ∀ callback rest, s.rtp = .wantCtx callback rest ∨ s.rtp = .inCtx callback rest →
    ∃ fd ∈ as.flatMap LockAction.woken, s.session.fdMap.lookup fd = some callback
  ready : ∀ fd ∈ s.rtp.ready, fd ∈ as.flatMap LockAction.woken
  requests : ops.filterMap SectionOp.request? ++ s.sip.waiting = as.filterMap LockAction.requested
  order : ops.map SectionOp.reading = as.filterMap LockAction.entered
  woken : ∀ fd received now, SectionOp.callback fd received now ∈ ops → fd ∈ as.flatMap LockAction.woken

variable {E S}

theorem serial_atRest (w : Session) : Serial E S w [] [] (atRest w) where
  owned := owned_atRest w
  completed := rfl
  registered := by simp [atRest]
  ready := by simp [atRest, RtpPc.ready]
  requests := rfl
  order := rfl
  woken := by simp

theorem fdMap_enter (w : Session) (req : ContextRequest) : (req.enter E w).2.fdMap = w.fdMap := by
  cases req with
  | getOrCreate callId info =>
    rw [ContextRequest.enter]
    cases w.contexts.lookup callId <;> rfl
  | remove callId =>
    rw [ContextRequest.enter]
    cases w.contexts.lookup callId <;> rfl

theorem fdMap_leave (c : CtxSection) (w : Session) : (c.leave w).fdMap = w.fdMap := by
  rw [CtxSection.leave]
  cases c.erased <;> rfl

/-- outside of `ctx_mutex_` nothing is left to complete -/
theorem completed_of_free {s : Threads} (h : ¬ s.sip.holds .ctx) : s.completed E = s.session := by
  unfold completed
  cases hp : s.sip with
  | inCtx c => exact absurd (by simp [hp, SipPc.holds]) h
  | inFd op c => exact absurd (by simp [hp, SipPc.holds]) h
  | _ => rfl

section

variable {w : Session} {as : List LockAction} {ops : List SectionOp} {s t : Threads}

/-- what was reported stays reported -/
theorem woken_append {fd : ℤ} (h : fd ∈ as.flatMap LockAction.woken) (a : LockAction) :
    fd ∈ (as ++ [a]).flatMap LockAction.woken := by
  rw [List.flatMap_append]
  exact List.mem_append_left _ h

/-- the callback the RTP thread has found stays registered while it holds `fd_mutex_` -/
theorem Serial.registered_append (h : Serial E S w as ops s) (a : LockAction) (hmap : t.session.fdMap = s.session.fdMap)
    {callback : String × Medium} {rest : List ℤ}
    (hrtp : s.rtp = .wantCtx callback rest ∨ s.rtp = .inCtx callback rest) :
    ∃ fd ∈ (as ++ [a]).flatMap LockAction.woken, t.session.fdMap.lookup fd = some callback := by
  obtain ⟨fd, hfd, hl⟩ := h.registered callback rest hrtp
  exact ⟨fd, woken_append hfd a, by rw [hmap, hl]⟩

/-- a step inside of a section or outside of all -/
theorem Serial.quiet (h : Serial E S w as ops s) {a : LockAction} (howned : Owned t.owner t.holds)
    (hcompleted : t.completed E = s.completed E)
    (hregistered : ∀ callback rest, t.rtp = .wantCtx callback rest ∨ t.rtp = .inCtx callback rest →
      ∃ fd ∈ (as ++ [a]).flatMap LockAction.woken, t.session.fdMap.lookup fd = some callback)
    (hready : ∀ fd ∈ t.rtp.ready, fd ∈ s.rtp.ready ∨ fd ∈ a.woken)
    (hwaiting : t.sip.waiting = s.sip.waiting ++ a.requested.toList) (hentered : a.entered = none) :
    ∃ new, Serial E S w (as ++ [a]) (ops ++ new) t := by
  refine ⟨[], ?_⟩
  rw [List.append_nil]
  refine ⟨howned, hcompleted.trans h.completed, hregistered, fun fd hfd => ?_, ?_, ?_, fun fd received now hop => ?_⟩
  · rcases hready fd hfd with hold | hnew
    · exact woken_append (h.ready fd hold) a
    · rw [List.flatMap_append]
      exact List.mem_append_right _ (by simpa using hnew)
  · rw [hwaiting, ← List.append_assoc, h.requests, List.filterMap_append]
    cases hreq : a.requested <;> simp [hreq]
  · rw [h.order, List.filterMap_append]
    simp [hentered]
  · exact woken_append (h.woken fd received now hop) a

/-- a thread has `ctx_mutex_`: one section more -/
theorem Serial.enters (h : Serial E S w as ops s) {a : LockAction} {o : SectionOp} (howned : Owned t.owner t.holds)
    (hcompleted : t.completed E = o.run E S (s.completed E))
    (hregistered : ∀ callback rest, t.rtp = .wantCtx callback rest ∨ t.rtp = .inCtx callback rest →
      ∃ fd ∈ (as ++ [a]).flatMap LockAction.woken, t.session.fdMap.lookup fd = some callback)
    (hready : ∀ fd ∈ t.rtp.ready, fd ∈ s.rtp.ready) (hwaiting : s.sip.waiting = o.request?.toList ++ t.sip.waiting)
    (hrequested : a.requested = none) (hentered : a.entered = some o.reading)
    (hwoken : ∀ fd received now, o = .callback fd received now → fd ∈ as.flatMap LockAction.woken) :
    ∃ new, Serial E S w (as ++ [a]) (ops ++ new) t := by
  refine ⟨[o], howned, ?_, hregistered, fun fd hfd => woken_append (h.ready fd (hready fd hfd)) a, ?_, ?_,
    fun fd received now hop => ?_⟩
  · rw [hcompleted, h.completed, exec_append]
    rfl
  · rw [List.filterMap_append, List.filterMap_append, ← h.requests, hwaiting]
    cases hreq : o.request? <;> simp [hreq, hrequested]
  · rw [List.map_append, List.filterMap_append, h.order]
    simp [hentered]
  · rcases List.mem_append.1 hop with hold | hnew
    · exact woken_append (h.woken fd received now hold) a
    · exact woken_append (hwoken fd received now (List.mem_singleton.1 hnew).symm) a

/-- while the SIP thread has `fd_mutex_`, the RTP thread is not in the block of a descriptor -/
theorem not_block_of_inFd (howned : Owned s.owner s.holds) {op : FdOp} {c : CtxSection} (hpc : s.sip = .inFd op c)
    {callback : String × Medium} {rest : List ℤ} :
    ¬ (s.rtp = .wantCtx callback rest ∨ s.rtp = .inCtx callback rest) := by
  intro hrtp
  have hsip : s.holds .sip .fd := by simp [holds, SipPc.holds, hpc]
  have hblock : s.holds .rtp .fd := by
    rcases hrtp with hrtp | hrtp <;> simp [holds, RtpPc.holds, hrtp]
  cases howned.exclusive hsip hblock

/-- while the RTP thread is in a callback, the SIP thread is in no section -/
theorem not_section_of_inCtx (howned : Owned s.owner s.holds) {callback : String × Medium} {rest : List ℤ}
    (hpc : s.rtp = .inCtx callback rest) : ¬ s.sip.holds .ctx := by
  intro hsip
  have hrtp : s.holds .rtp .ctx := by simp [holds, RtpPc.holds, hpc]
  cases howned.exclusive (show s.holds .sip .ctx from hsip) hrtp

end

theorem serial_step (w : Session) (as : List LockAction) (ops : List SectionOp) (s : Threads) (a : LockAction)
    (t : Threads) (h : Serial E S w as ops s) (hstep : Step E S s a t) :
    ∃ new, Serial E S w (as ++ [a]) (ops ++ new) t := by
  have howned : Owned t.owner t.holds := owned_step s a t h.owned hstep
  cases hstep with
  | sipEvent req hpc =>
    exact h.quiet howned (by simp [Threads.completed, hpc]) (fun callback rest => h.registered_append _ rfl)
      (fun fd hfd => Or.inl hfd) (by simp [SipPc.waiting, hpc, LockAction.requested]) rfl
  | @sipLockCtx req hpc hfree =>
    have hbefore : s.completed E = s.session := completed_of_free (by simp [hpc, SipPc.holds])
    refine h.enters (o := .request req) howned ?_ (fun callback rest => h.registered_append _ (fdMap_enter _ req))
      (fun fd hfd => hfd) ?_ rfl rfl (by simp)
    · -- the whole section, from here to its end
      rw [hbefore]
      exact (run_eq_leave s.session req).symm
    · rw [hpc]
      rfl
  | sipLockFd hpc hfree =>
    refine h.quiet howned ?_ (fun callback rest => h.registered_append _ rfl)
      (fun fd hfd => Or.inl hfd) (by simp [SipPc.waiting, hpc, LockAction.requested]) rfl
    simp only [Threads.completed, hpc]
    rfl
  | sipUnlockFd hpc =>
    exact h.quiet howned (by simp [Threads.completed, hpc])
      (fun callback rest hrtp => absurd hrtp (not_block_of_inFd h.owned hpc))
      (fun fd hfd => Or.inl hfd) (by simp [SipPc.waiting, hpc, LockAction.requested]) rfl
  | sipUnlockCtx hpc =>
    exact h.quiet howned (by simp [Threads.completed, hpc])
      (fun callback rest => h.registered_append _ (fdMap_leave _ _))
      (fun fd hfd => Or.inl hfd) (by simp [SipPc.waiting, hpc, LockAction.requested]) rfl
  | rtpWake due ready hpc =>
    refine h.quiet howned rfl (fun callback rest hrtp => ?_) (fun fd hfd => Or.inr ?_) (by simp [LockAction.requested])
      rfl
    · cases due <;> simp at hrtp
    · cases due <;> exact hfd
  | rtpLockTimer hpc hfree =>
    exact h.quiet howned rfl (by simp) (fun fd hfd => Or.inl (by simpa [hpc, RtpPc.ready] using hfd))
      (by simp [LockAction.requested]) rfl
  | rtpUnlockTimer hpc =>
    exact h.quiet howned rfl (by simp) (fun fd hfd => Or.inl (by simpa [hpc, RtpPc.ready] using hfd))
      (by simp [LockAction.requested]) rfl
  | @rtpLockFd fd rest hpc hfree =>
    have hready : fd ∈ s.rtp.ready ∧ ∀ fd' ∈ rest, fd' ∈ s.rtp.ready := by
      rw [hpc]
      exact ⟨List.mem_cons_self, fun fd' hfd' => List.mem_cons_of_mem _ hfd'⟩
    refine h.quiet howned rfl (fun callback rest' hrtp => ?_) (fun fd' hfd' => Or.inl ?_)
      (by simp [LockAction.requested]) rfl
    · refine ⟨fd, woken_append (h.ready fd hready.1) _, ?_⟩
      cases hl : s.session.fdMap.lookup fd with
      | none => simp [hl] at hrtp
      | some found => simp_all
    · refine hready.2 fd' ?_
      cases hl : s.session.fdMap.lookup fd <;> simpa [hl, RtpPc.ready] using hfd'
  | @rtpLockCtx callback rest hpc hfree =>
    refine h.quiet howned rfl (fun callback' rest' hrtp => ?_)
      (fun fd hfd => Or.inl (by simpa [hpc, RtpPc.ready] using hfd)) (by simp [LockAction.requested]) rfl
    obtain ⟨rfl, rfl⟩ : callback = callback' ∧ rest = rest' := by simpa using hrtp
    exact h.registered_append _ rfl (Or.inl hpc)
  | @rtpUnlockCtx callback rest received now hpc =>
    obtain ⟨fd, hfd, hl⟩ := h.registered callback rest (Or.inr hpc)
    have hfree : ¬ s.sip.holds .ctx := not_section_of_inCtx h.owned hpc
    refine h.enters (o := .callback fd received now) howned ?_ (by simp)
      (fun fd' hfd' => by simpa [hpc, RtpPc.ready] using hfd') rfl rfl rfl (fun fd' received' now' hop => ?_)
    · rw [completed_of_free (s := s) hfree, SectionOp.run, hl]
      exact completed_of_free hfree
    · obtain ⟨rfl, -, -⟩ : fd = fd' ∧ received = received' ∧ now = now' := by simpa using hop
      exact hfd
  | rtpUnlockFd hpc =>
    exact h.quiet howned rfl (by simp) (fun fd hfd => Or.inl (by simpa [hpc, RtpPc.ready] using hfd))
      (by simp [LockAction.requested]) rfl

/-- **One section after the other**: in every run of the two threads there are sections, in the order in which the
threads had `ctx_mutex_`, that give the session with the section that the SIP thread is in brought to its end, and so
the session itself while the SIP thread is in none. They are the requests `OnSipEvent` was called for, but for one that
still waits, and callbacks of descriptors that `epoll_wait` reported -/
theorem serializable {w : Session} {as : List LockAction} {t : Threads} (h : Run (Step E S) (atRest w) as t) :
    ∃ ops : List SectionOp,
      t.completed E = exec (SectionOp.run E S) w ops ∧
      (¬ t.sip.holds .ctx → t.session = exec (SectionOp.run E S) w ops) ∧
      ops.map SectionOp.reading = as.filterMap LockAction.entered ∧
      ops.filterMap SectionOp.request? ++ t.sip.waiting = as.filterMap LockAction.requested ∧
      ∀ fd received now, SectionOp.callback fd received now ∈ ops → fd ∈ as.flatMap LockAction.woken := by
  obtain ⟨ops, hserial⟩ := h.ghost (P := fun as ops s => Serial E S w as ops s) (serial_atRest w)
    fun as ops s a t hs hstep => serial_step w as ops s a t hs hstep
  refine ⟨ops, hserial.completed, fun hfree => ?_, hserial.order, hserial.requests, hserial.woken⟩
  rw [← hserial.completed, completed_of_free hfree]

/-- a call is set up, and a datagram comes in on its audio socket -/
theorem serializable_datagram :
    let E := SessionEnv.constant "ab" []
    let S := StdSort.insertion BufferItem.seq
    ∃ as t, Run (Step E S) (atRest (.new {})) as t ∧ ∃ ops : List SectionOp,
      t.completed E = exec (SectionOp.run E S) (.new {}) ops ∧
      (¬ t.sip.holds .ctx → t.session = exec (SectionOp.run E S) (.new {}) ops) ∧
      ops.map SectionOp.reading = as.filterMap LockAction.entered ∧
      ops.filterMap SectionOp.request? ++ t.sip.waiting = as.filterMap LockAction.requested ∧
      ∀ fd received now, SectionOp.callback fd received now ∈ ops → fd ∈ as.flatMap LockAction.woken := by
  intro E S
  let req : ContextRequest := .getOrCreate "ab-ab" (.new ⟨0, 0, 0, 0, 0⟩)
  let w : Session := req.run E (.new {})
  let free : Mutex → Option Thread := fun _ => none
  have hevent : Step E S (atRest (.new {})) (.sipEvent req) ⟨.wantCtx req, .dispatch [], free, .new {}⟩ :=
    .sipEvent req rfl
  obtain ⟨as, hsection⟩ := sip_section (E := E) (S := S) (s := ⟨.wantCtx req, .dispatch [], free, .new {}⟩) rfl rfl rfl
  have hfd : w.fdMap.lookup 11 = some ("ab-ab", .audio) := by decide +kernel
  have hwake : Step E S (atRest w) (.rtpWake false [11]) ⟨.idle, .dispatch [11], free, w⟩ := .rtpWake false [11] rfl
  have hblock : Step E S ⟨.idle, .dispatch [11], free, w⟩ .rtpLockFd
      ⟨.idle, .wantCtx ("ab-ab", .audio) [], update free .fd (some .rtp), w⟩ := by
    have hstep : Step E S ⟨.idle, .dispatch [11], free, w⟩ .rtpLockFd _ := .rtpLockFd rfl rfl
    simp only [hfd] at hstep
    exact hstep
  have hctx : Step E S ⟨.idle, .wantCtx ("ab-ab", .audio) [], update free .fd (some .rtp), w⟩ .rtpLockCtx
      ⟨.idle, .inCtx ("ab-ab", .audio) [], update (update free .fd (some .rtp)) .ctx (some .rtp), w⟩ :=
    .rtpLockCtx rfl rfl
  have hread : Step E S
      ⟨.idle, .inCtx ("ab-ab", .audio) [], update (update free .fd (some .rtp)) .ctx (some .rtp), w⟩
      (.rtpUnlockCtx (some ([1, 2, 3], "10.0.0.9", 4000)) 0) _ := .rtpUnlockCtx _ _ rfl
  have hrun : Run (Step E S) (atRest (.new {})) _ _ :=
    .cons hevent (hsection.append (.cons hwake (.cons hblock (.cons hctx (.cons hread (.nil _))))))
  exact ⟨_, _, hrun, serializable hrun⟩

end Threads

end Rtcom
