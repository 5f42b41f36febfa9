/-
Sockets, epoll and the contexts of `SessionManager`: a session hosted by a kernel. The kernel knows which descriptors
are open and which epoll watches; it drops a descriptor that is closed from epoll. The session opens four sockets for a
context, adds the two receive sockets to epoll under the call id, and removes and closes them with the context. The RTP
thread waits and then looks up, one after the other, whose descriptors the events it got are; the SIP thread may go on
in between.

`Stop` clears `contexts_` and leaves `fd_map_` alone: its entries outlive their sockets.

- `Kept`: the contexts own the open descriptors, each its own, and `fd_map_` leads from a watched descriptor to the
  call whose receive socket it is. `descriptors_kept`: in every run, if the kernel gives out what is not open.
- `events_reach_owner`: if `epoll_ctl` does not fail besides, every event is read from the socket it is about, whatever
  the SIP thread did since `epoll_wait`.
- `hosted_run`: every run of a session manager after `Start` is such a run.
-/
import Mathlib.Tactic
import Rtcom.Lib.Handles
import Rtcom.Session.Contexts
import Rtcom.Session.Media
import Rtcom.Session.Reception

namespace Rtcom

open Runs Handles SipManager

/-! ## Model -/

/-- the sockets of a session that are open, and what its epoll instance watches -/
structure Kernel where
  opened : Finset ℤ
  watched : Finset ℤ

namespace Kernel

def socket (k : Kernel) (fds : List ℤ) : Kernel := { k with opened := k.opened ∪ fds.toFinset }

def close (k : Kernel) (fds : List ℤ) : Kernel := ⟨k.opened \ fds.toFinset, k.watched \ fds.toFinset⟩

/-- `EPOLL_CTL_ADD`, `EPOLL_CTL_DEL` -/
def ctlAdd (k : Kernel) (ok : Bool) (fd : ℤ) : Kernel := if ok then { k with watched := insert fd k.watched } else k

def ctlDel (k : Kernel) (ok : Bool) (fd : ℤ) : Kernel := if ok then { k with watched := k.watched.erase fd } else k

end Kernel

/-- the descriptors of a call -/
def CallContext.fds (ctx : CallContext) : List ℤ :=
  [ctx.audioRtp.sendFd, ctx.audioRtp.recvFd, ctx.videoRtp.sendFd, ctx.videoRtp.recvFd].filter (0 ≤ ·)

/-- a session, its kernel, the events the RTP thread has still to handle, and those it has handled: the descriptor the
event was about and the one that was read -/
structure Hosted where
  session : Session
  kernel : Kernel
  pending : List ℤ
  reads : List (ℤ × ℤ)

/-- `OnSipEvent` for a call that is connected or has ended, `Stop`; `epoll_wait` and the turns of the loop behind it -/
inductive HostedOp where
  | connect (callId : String) (info : CallSessionInfo)
  | disconnect (callId : String)
  | stop
  | wait (ready : List ℤ)
  | dispatch (received : Option (List UInt8 × String × UInt16)) (now : ℤ)

namespace Hosted

variable (E : SessionEnv) (S : StdSort BufferItem.seq)

def start (config : ServerConfig) : Hosted := ⟨.new config, ⟨∅, ∅⟩, [], []⟩

def addFd (s : Hosted) (fd : ℤ) (callback : String × Medium) : Hosted :=
  { s with
    session := s.session.addFd E fd callback
    kernel := s.kernel.ctlAdd (E.epollCtl s.session.epollCalls) fd }

def delFd (s : Hosted) (fd : ℤ) : Hosted :=
  { s with
    session := s.session.delFd E fd
    kernel := s.kernel.ctlDel (E.epollCtl s.session.epollCalls) fd }

def registerRtpFds (s : Hosted) (ctx : CallContext) : Hosted :=
  let s := if ctx.audioRtp.recvFd ≥ 0 then s.addFd E ctx.audioRtp.recvFd (ctx.callId, .audio) else s
  if ctx.videoRtp.recvFd ≥ 0 then s.addFd E ctx.videoRtp.recvFd (ctx.callId, .video) else s

def unregisterRtpFds (s : Hosted) (ctx : CallContext) : Hosted :=
  let s := if ctx.audioRtp.recvFd ≥ 0 then s.delFd E ctx.audioRtp.recvFd else s
  if ctx.videoRtp.recvFd ≥ 0 then s.delFd E ctx.videoRtp.recvFd else s

/-- the context `GetOrCreateContext` would create -/
def nextContext (s : Hosted) (callId : String) (info : CallSessionInfo) : CallContext :=
  Session.newContext s.session.config.media (E.resources s.session.created) callId info

/-- the sockets are opened and the context is stored -/
def store (s : Hosted) (callId : String) (ctx : CallContext) : Hosted :=
  { s with
    session := { s.session with
      contexts := s.session.contexts.insert callId ctx
      created := s.session.created + 1 }
    kernel := s.kernel.socket ctx.fds }

def getOrCreateContext (s : Hosted) (callId : String) (info : CallSessionInfo) : Hosted :=
  match s.session.contexts.lookup callId with
  | some _ => s
  | none => (s.store callId (s.nextContext E callId info)).registerRtpFds E (s.nextContext E callId info)

/-- the context is destroyed, and its sockets with it -/
def erase (s : Hosted) (callId : String) (ctx : CallContext) : Hosted :=
  { s with
    session := { s.session with contexts := s.session.contexts.erase callId }
    kernel := s.kernel.close ctx.fds }

def removeContext (s : Hosted) (callId : String) : Hosted :=
  match s.session.contexts.lookup callId with
  | none => s
  | some ctx => (s.unregisterRtpFds E ctx).erase callId ctx

/-- `Stop`: the RTP thread is joined, then the contexts are cleared -/
def stop (s : Hosted) : Hosted :=
  { s with
    session := { s.session with contexts := ∅ }
    kernel := s.kernel.close (s.session.contexts.entries.flatMap fun e => e.2.fds)
    pending := [] }

/-- one turn: the callback registered for the descriptor, which looks for the context of its call -/
def dispatch (s : Hosted) (received : Option (List UInt8 × String × UInt16)) (now : ℤ) : Hosted :=
  match s.pending with
  | [] => s
  | fd :: pending =>
    match s.session.fdMap.lookup fd with
    | none => { s with pending := pending }
    | some (callId, medium) =>
      match s.session.contexts.lookup callId with
      | none => { s with pending := pending }
      | some ctx =>
        { s with
          session := { s.session with
            contexts := s.session.contexts.insert callId (ctx.receive S received now medium).1 }
          pending := pending
          reads := s.reads ++ [(fd, (ctx.rtp medium).recvFd)] }

def step (s : Hosted) : HostedOp → Hosted
  | .connect callId info => s.getOrCreateContext E callId info
  | .disconnect callId => s.removeContext E callId
  | .stop => s.stop
  | .wait ready => { s with pending := ready.filter (· ∈ s.kernel.watched) }
  | .dispatch received now => s.dispatch S received now

/-- `socket` gives out descriptors that are not open -/
def FreshSockets (s : Hosted) : HostedOp → Prop
  | .connect callId info => s.session.contexts.lookup callId = none →
      (s.nextContext E callId info).fds.Nodup ∧ ∀ fd ∈ (s.nextContext E callId info).fds, fd ∉ s.kernel.opened
  | _ => True

/-! ## The session -/

theorem session_registerRtpFds (s : Hosted) (ctx : CallContext) :
    (s.registerRtpFds E ctx).session = s.session.registerRtpFds E ctx := by
  simp only [registerRtpFds, Session.registerRtpFds]
  split_ifs <;> rfl

theorem session_unregisterRtpFds (s : Hosted) (ctx : CallContext) :
    (s.unregisterRtpFds E ctx).session = s.session.unregisterRtpFds E ctx := by
  simp only [unregisterRtpFds, Session.unregisterRtpFds]
  split_ifs <;> rfl

theorem session_getOrCreateContext (s : Hosted) (callId : String) (info : CallSessionInfo) :
    (s.getOrCreateContext E callId info).session = (s.session.getOrCreateContext E callId info).2 := by
  unfold getOrCreateContext Session.getOrCreateContext
  cases s.session.contexts.lookup callId with
  | some ctx => rfl
  | none => exact session_registerRtpFds E _ _

theorem session_removeContext (s : Hosted) (callId : String) :
    (s.removeContext E callId).session = s.session.removeContext E callId := by
  unfold removeContext Session.removeContext
  cases s.session.contexts.lookup callId with
  | none => rfl
  | some ctx =>
    simp only [erase]
    rw [session_unregisterRtpFds]

/-! ## The invariant -/

/-- what a call owns -/
def own (s : Hosted) (callId : String) : List ℤ := (s.session.contexts.lookup callId).elim [] CallContext.fds

/-- the descriptor is the receive socket of a call that is there -/
def Owns (s : Hosted) (callId : String) (medium : Medium) (fd : ℤ) : Prop :=
  0 ≤ fd ∧ ∃ ctx, s.session.contexts.lookup callId = some ctx ∧ (ctx.rtp medium).recvFd = fd

/-- `fd_map_` leads from the descriptor to the call whose receive socket it is -/
def LeadsHome (s : Hosted) (fd : ℤ) : Prop :=
  ∃ callId medium, s.session.fdMap.lookup fd = some (callId, medium) ∧ s.Owns callId medium fd

structure Kept (s : Hosted) : Prop where
  keyed : ∀ callId ctx, s.session.contexts.lookup callId = some ctx → ctx.callId = callId
  held : Held s.own s.kernel.opened
  watched : ∀ fd ∈ s.kernel.watched, s.LeadsHome fd

variable {s : Hosted}

theorem own_of_lookup {callId : String} {ctx : CallContext} (h : s.session.contexts.lookup callId = some ctx) :
    s.own callId = ctx.fds := by
  rw [own, h]
  rfl

theorem recvFd_mem_fds (ctx : CallContext) (medium : Medium) (h : 0 ≤ (ctx.rtp medium).recvFd) :
    (ctx.rtp medium).recvFd ∈ ctx.fds := by
  refine List.mem_filter.2 ⟨?_, decide_eq_true h⟩
  cases medium <;> simp [CallContext.rtp]

theorem Owns.mem_own {callId : String} {medium : Medium} {fd : ℤ} (h : s.Owns callId medium fd) :
    fd ∈ s.own callId := by
  obtain ⟨hfd, ctx, hl, rfl⟩ := h
  rw [own_of_lookup hl]
  exact recvFd_mem_fds ctx medium hfd

theorem kept_start (config : ServerConfig) : Kept (start config) :=
  ⟨fun _ _ h => absurd h (by simp [start, Session.new]), Held.clear, fun fd h => absurd h (Finset.notMem_empty fd)⟩

/-! ### Adding and removing descriptors -/

variable {E}

theorem addFd_leadsHome {callId : String} {medium : Medium} {fd fd' : ℤ} (hown : s.Owns callId medium fd)
    (h : s.LeadsHome fd' ∨ fd' = fd ∧ E.epollCtl s.session.epollCalls = true) :
    (s.addFd E fd (callId, medium)).LeadsHome fd' := by
  cases hctl : E.epollCtl s.session.epollCalls with
  | false =>
    have hsame := h.resolve_right fun hnew => by simp [hctl] at hnew
    obtain ⟨id, m, hl, hm⟩ := hsame
    refine ⟨id, m, ?_, hm⟩
    simp only [addFd, Session.addFd, hctl]
    exact hl
  | true =>
    by_cases hfd : fd' = fd
    · subst hfd
      refine ⟨callId, medium, ?_, hown⟩
      simp only [addFd, Session.addFd, hctl, if_true]
      exact AList.lookup_insert _
    · obtain ⟨id, m, hl, hm⟩ := h.resolve_right fun hnew => hfd hnew.1
      refine ⟨id, m, ?_, hm⟩
      simp only [addFd, Session.addFd, hctl, if_true]
      rw [AList.lookup_insert_ne hfd]
      exact hl

theorem addFd_watched {callId : String} {medium : Medium} {fd : ℤ} (hown : s.Owns callId medium fd)
    (h : ∀ fd' ∈ s.kernel.watched, s.LeadsHome fd') :
    ∀ fd' ∈ (s.addFd E fd (callId, medium)).kernel.watched, (s.addFd E fd (callId, medium)).LeadsHome fd' := by
  intro fd' hfd'
  refine addFd_leadsHome hown ?_
  simp only [addFd, Kernel.ctlAdd] at hfd'
  split_ifs at hfd' with hctl
  · rcases Finset.mem_insert.1 hfd' with heq | hmem
    · exact Or.inr ⟨heq, hctl⟩
    · exact Or.inl (h fd' hmem)
  · exact Or.inl (h fd' hfd')

theorem delFd_leadsHome {fd fd' : ℤ} (hne : fd' ≠ fd) (h : s.LeadsHome fd') : (s.delFd E fd).LeadsHome fd' := by
  obtain ⟨id, m, hl, hm⟩ := h
  refine ⟨id, m, ?_, hm⟩
  simp only [delFd, Session.delFd]
  split_ifs
  · rw [AList.lookup_erase_ne hne]
    exact hl
  · exact hl

theorem delFd_watched (fd : ℤ) : (s.delFd E fd).kernel.watched ⊆ s.kernel.watched := by
  simp only [delFd, Kernel.ctlDel]
  split_ifs
  · exact Finset.erase_subset _ _
  · exact subset_rfl

/-- adding and removing descriptors leaves the contexts and the sockets -/
structure SameCalls (s s' : Hosted) : Prop where
  contexts : s'.session.contexts = s.session.contexts
  opened : s'.kernel.opened = s.kernel.opened

theorem SameCalls.refl (s : Hosted) : SameCalls s s := ⟨rfl, rfl⟩

theorem addFd_same (s : Hosted) (fd : ℤ) (callback : String × Medium) : SameCalls s (s.addFd E fd callback) := by
  refine ⟨rfl, ?_⟩
  simp only [addFd, Kernel.ctlAdd]
  split_ifs <;> rfl

theorem delFd_same (s : Hosted) (fd : ℤ) : SameCalls s (s.delFd E fd) := by
  refine ⟨rfl, ?_⟩
  simp only [delFd, Kernel.ctlDel]
  split_ifs <;> rfl

theorem SameCalls.trans {s s' s'' : Hosted} (h : SameCalls s s') (h' : SameCalls s' s'') : SameCalls s s'' :=
  ⟨h'.contexts.trans h.contexts, h'.opened.trans h.opened⟩

theorem SameCalls.owns {s s' : Hosted} (h : SameCalls s s') (callId : String) (medium : Medium) (fd : ℤ) :
    s'.Owns callId medium fd ↔ s.Owns callId medium fd := by
  rw [Owns, Owns, h.contexts]

theorem registerRtpFds_same (s : Hosted) (ctx : CallContext) : SameCalls s (s.registerRtpFds E ctx) := by
  unfold registerRtpFds
  simp only
  split_ifs
  · exact (addFd_same s _ _).trans (addFd_same _ _ _)
  · exact addFd_same s _ _
  · exact addFd_same s _ _
  · exact .refl s

theorem unregisterRtpFds_same (s : Hosted) (ctx : CallContext) : SameCalls s (s.unregisterRtpFds E ctx) := by
  unfold unregisterRtpFds
  simp only
  split_ifs
  · exact (delFd_same s _).trans (delFd_same _ _)
  · exact delFd_same s _
  · exact delFd_same s _
  · exact .refl s

/-- the two receive sockets of a call that is stored are added under its id -/
theorem registerRtpFds_watched {ctx : CallContext} (hl : s.session.contexts.lookup ctx.callId = some ctx)
    (h : ∀ fd ∈ s.kernel.watched, s.LeadsHome fd) :
    ∀ fd ∈ (s.registerRtpFds E ctx).kernel.watched, (s.registerRtpFds E ctx).LeadsHome fd := by
  have haudio : 0 ≤ ctx.audioRtp.recvFd → s.Owns ctx.callId .audio ctx.audioRtp.recvFd := fun hfd => ⟨hfd, ctx, hl, rfl⟩
  have hvideo : ∀ s' : Hosted, SameCalls s s' → 0 ≤ ctx.videoRtp.recvFd →
      s'.Owns ctx.callId .video ctx.videoRtp.recvFd := fun s' hsame hfd =>
    (hsame.owns _ _ _).2 ⟨hfd, ctx, hl, rfl⟩
  unfold registerRtpFds
  simp only
  split_ifs with hv ha ha
  · exact addFd_watched (hvideo _ (addFd_same s _ _) hv) (addFd_watched (haudio ha) h)
  · exact addFd_watched (hvideo s (.refl s) hv) h
  · exact addFd_watched (haudio ha) h
  · exact h

/-- the descriptors of other calls are not touched -/
theorem unregisterRtpFds_watched {ctx : CallContext} (h : ∀ fd ∈ s.kernel.watched, s.LeadsHome fd) :
    ∀ fd ∈ (s.unregisterRtpFds E ctx).kernel.watched, fd ∉ ctx.fds → (s.unregisterRtpFds E ctx).LeadsHome fd := by
  have haudio : 0 ≤ ctx.audioRtp.recvFd → ∀ fd, fd ∉ ctx.fds → fd ≠ ctx.audioRtp.recvFd := by
    rintro hfd fd hnot rfl
    exact hnot (recvFd_mem_fds ctx .audio hfd)
  have hvideo : 0 ≤ ctx.videoRtp.recvFd → ∀ fd, fd ∉ ctx.fds → fd ≠ ctx.videoRtp.recvFd := by
    rintro hfd fd hnot rfl
    exact hnot (recvFd_mem_fds ctx .video hfd)
  unfold unregisterRtpFds
  simp only
  split_ifs with hv ha ha
  · intro fd hfd hnot
    have hbefore := delFd_watched _ (delFd_watched _ hfd)
    exact delFd_leadsHome (hvideo hv fd hnot) (delFd_leadsHome (haudio ha fd hnot) (h fd hbefore))
  · intro fd hfd hnot
    exact delFd_leadsHome (hvideo hv fd hnot) (h fd (delFd_watched _ hfd))
  · intro fd hfd hnot
    exact delFd_leadsHome (haudio ha fd hnot) (h fd (delFd_watched _ hfd))
  · intro fd hfd _
    exact h fd hfd

/-! ### Contexts -/

theorem own_store (s : Hosted) (callId : String) (ctx : CallContext) :
    (s.store callId ctx).own = Function.update s.own callId ctx.fds := by
  funext id
  unfold own store
  by_cases hid : id = callId
  · subst hid
    rw [Function.update_self, AList.lookup_insert, Option.elim_some]
  · rw [Function.update_of_ne hid, AList.lookup_insert_ne hid]

theorem own_erase (s : Hosted) (callId : String) (ctx : CallContext) :
    (s.erase callId ctx).own = Function.update s.own callId [] := by
  funext id
  unfold own erase
  by_cases hid : id = callId
  · subst hid
    rw [Function.update_self, AList.lookup_erase, Option.elim_none]
  · rw [Function.update_of_ne hid, AList.lookup_erase_ne hid]

theorem own_congr {s s' : Hosted} (h : s'.session.contexts = s.session.contexts) : s'.own = s.own := by
  funext id
  rw [own, own, h]

theorem kept_getOrCreateContext (h : Kept s) (callId : String) (info : CallSessionInfo)
    (hfresh : FreshSockets E s (.connect callId info)) : Kept (s.getOrCreateContext E callId info) := by
  unfold getOrCreateContext
  cases hl : s.session.contexts.lookup callId with
  | some ctx => exact h
  | none =>
    obtain ⟨hnodup, hnew⟩ := hfresh hl
    set ctx := s.nextContext E callId info with hctx
    have hid : ctx.callId = callId := rfl
    have hstored : (s.store callId ctx).session.contexts.lookup callId = some ctx := AList.lookup_insert _
    have hsame := registerRtpFds_same (E := E) (s.store callId ctx) ctx
    have hnothing : s.own callId = [] := by
      rw [own, hl]
      rfl
    refine ⟨fun id ctx' hl' => ?_, ?_, ?_⟩
    · rw [hsame.contexts] at hl'
      by_cases hne : id = callId
      · subst hne
        rw [hstored] at hl'
        rw [← Option.some.inj hl', hid]
      · exact h.keyed id ctx' ((AList.lookup_insert_ne hne).symm.trans hl')
    · rw [own_congr hsame.contexts, hsame.opened, own_store]
      exact h.held.acquire hnothing hnodup hnew
    · refine registerRtpFds_watched (hid ▸ hstored) fun fd hfd => ?_
      obtain ⟨id, medium, hmap, hpos, ctx', hl', hrecv⟩ := h.watched fd hfd
      refine ⟨id, medium, hmap, hpos, ctx', ?_, hrecv⟩
      have hne : id ≠ callId := by
        rintro rfl
        rw [hl] at hl'
        cases hl'
      exact (AList.lookup_insert_ne hne).trans hl'

theorem kept_removeContext (h : Kept s) (callId : String) : Kept (s.removeContext E callId) := by
  unfold removeContext
  cases hl : s.session.contexts.lookup callId with
  | none => exact h
  | some ctx =>
    have hsame := unregisterRtpFds_same (E := E) s ctx
    have hfds : s.own callId = ctx.fds := own_of_lookup hl
    refine ⟨fun id ctx' hl' => ?_, ?_, fun fd hfd => ?_⟩
    · have hne : id ≠ callId := by
        rintro rfl
        exact absurd hl' (by simp [erase])
      refine h.keyed id ctx' ?_
      rw [← hsame.contexts]
      exact (AList.lookup_erase_ne hne).symm.trans hl'
    · show Held (((s.unregisterRtpFds E ctx).erase callId ctx).own) ((s.unregisterRtpFds E ctx).kernel.opened \ _)
      rw [own_erase, own_congr hsame.contexts, hsame.opened, ← hfds]
      exact h.held.release callId
    · -- what is still watched is not one of the sockets that were closed
      obtain ⟨hwatched, hnot⟩ := Finset.mem_sdiff.1 hfd
      rw [List.mem_toFinset] at hnot
      obtain ⟨id, medium, hmap, hown⟩ := unregisterRtpFds_watched h.watched fd hwatched hnot
      have hne : id ≠ callId := by
        rintro rfl
        exact hnot (hfds ▸ ((hsame.owns _ _ _).1 hown).mem_own)
      obtain ⟨hpos, ctx', hl', hrecv⟩ := hown
      exact ⟨id, medium, hmap, hpos, ctx', (AList.lookup_erase_ne hne).trans hl', hrecv⟩

theorem mem_all_iff (s : Hosted) (fd : ℤ) :
    fd ∈ s.session.contexts.entries.flatMap (fun e => e.2.fds) ↔ ∃ callId, fd ∈ s.own callId := by
  rw [List.mem_flatMap]
  constructor
  · rintro ⟨⟨callId, ctx⟩, he, hfd⟩
    have hl : s.session.contexts.lookup callId = some ctx := AList.mem_lookup_iff.2 he
    exact ⟨callId, (own_of_lookup hl).symm ▸ hfd⟩
  · rintro ⟨callId, hfd⟩
    cases hl : s.session.contexts.lookup callId with
    | none =>
      rw [own, hl] at hfd
      cases hfd
    | some ctx =>
      rw [own_of_lookup hl] at hfd
      exact ⟨⟨callId, ctx⟩, AList.mem_lookup_iff.1 hl, hfd⟩

/-- `Stop` closes everything, and so epoll watches nothing -/
theorem kept_stop (h : Kept s) : Kept s.stop ∧ s.stop.kernel.opened = ∅ := by
  have hopened : s.stop.kernel.opened = ∅ := by
    refine Finset.eq_empty_of_forall_notMem fun fd hfd => ?_
    obtain ⟨hopen, hnot⟩ := Finset.mem_sdiff.1 hfd
    exact hnot (List.mem_toFinset.2 ((s.mem_all_iff fd).2 ((h.held.exact fd).1 hopen)))
  refine ⟨⟨fun _ _ hl => absurd hl (by simp [stop]), ?_, fun fd hfd => ?_⟩, hopened⟩
  · rw [hopened]
    exact Held.clear
  · obtain ⟨hwatched, hnot⟩ := Finset.mem_sdiff.1 hfd
    obtain ⟨callId, medium, -, hown⟩ := h.watched fd hwatched
    exact absurd (List.mem_toFinset.2 ((s.mem_all_iff fd).2 ⟨callId, hown.mem_own⟩)) hnot

/-- a receive callback leaves the sockets of a call -/
theorem receive_fds (ctx : CallContext) (received : Option (List UInt8 × String × UInt16)) (now : ℤ)
    (medium : Medium) : (ctx.receive S received now medium).1.callId = ctx.callId ∧
      (ctx.receive S received now medium).1.fds = ctx.fds ∧
      ∀ other, ((ctx.receive S received now medium).1.rtp other).recvFd = (ctx.rtp other).recvFd := by
  have hsockets : ∀ r : RtpSession, (r.receivePacket received).2.sendFd = r.sendFd ∧
      (r.receivePacket received).2.recvFd = r.recvFd := by
    intro r
    unfold RtpSession.receivePacket
    rcases received with _ | ⟨buffer, source⟩
    · split_ifs <;> exact ⟨rfl, rfl⟩
    · simp only
      split_ifs <;> exact ⟨rfl, rfl⟩
  obtain ⟨hasend, harecv⟩ := hsockets ctx.audioRtp
  obtain ⟨hvsend, hvrecv⟩ := hsockets ctx.videoRtp
  cases medium
  all_goals
    simp only [CallContext.receive, CallContext.fds]
    split_ifs
    all_goals
      refine ⟨rfl, by simp only [hasend, harecv, hvsend, hvrecv], fun other => ?_⟩
      cases other <;> first | rfl | assumption

/-- a call that has received something is where it was -/
theorem owns_insert {callId : String} {ctx ctx' : CallContext} (hl : s.session.contexts.lookup callId = some ctx)
    (hrecv : ∀ other, (ctx'.rtp other).recvFd = (ctx.rtp other).recvFd) {s' : Hosted}
    (hcontexts : s'.session.contexts = s.session.contexts.insert callId ctx') {id : String} {medium : Medium} {fd : ℤ}
    (h : s.Owns id medium fd) : s'.Owns id medium fd := by
  obtain ⟨hpos, ctx₀, hl₀, hfd⟩ := h
  refine ⟨hpos, ?_⟩
  rw [hcontexts]
  by_cases hid : id = callId
  · subst hid
    rw [hl] at hl₀
    obtain rfl := Option.some.inj hl₀
    exact ⟨ctx', AList.lookup_insert _, (hrecv medium).trans hfd⟩
  · exact ⟨ctx₀, (AList.lookup_insert_ne hid).trans hl₀, hfd⟩

theorem kept_dispatch (h : Kept s) (received : Option (List UInt8 × String × UInt16)) (now : ℤ) :
    Kept (s.dispatch S received now) := by
  unfold dispatch
  cases s.pending with
  | nil => exact h
  | cons fd pending =>
    simp only
    cases s.session.fdMap.lookup fd with
    | none => exact ⟨h.keyed, h.held, h.watched⟩
    | some callback =>
      obtain ⟨callId, medium⟩ := callback
      simp only
      cases hl : s.session.contexts.lookup callId with
      | none => exact ⟨h.keyed, h.held, h.watched⟩
      | some ctx =>
        obtain ⟨hid, hfds, hrecv⟩ := receive_fds S ctx received now medium
        simp only
        refine ⟨fun id ctx' hl' => ?_, ?_, fun fd' hfd' => ?_⟩
        · by_cases hne : id = callId
          · subst hne
            rw [AList.lookup_insert] at hl'
            rw [← Option.some.inj hl', hid]
            exact h.keyed id ctx hl
          · exact h.keyed id ctx' ((AList.lookup_insert_ne hne).symm.trans hl')
        · have hown := own_store s callId (ctx.receive S received now medium).1
          rw [hfds, ← own_of_lookup hl, Function.update_eq_self] at hown
          exact hown ▸ h.held
        · obtain ⟨id, m, hmap, howns⟩ := h.watched fd' hfd'
          exact ⟨id, m, hmap, owns_insert hl hrecv rfl howns⟩

variable (E)

theorem step_kept (s : Hosted) (o : HostedOp) (h : Kept s) (hfresh : FreshSockets E s o) : Kept (s.step E S o) := by
  cases o with
  | connect callId info => exact kept_getOrCreateContext h callId info hfresh
  | disconnect callId => exact kept_removeContext h callId
  | stop => exact (kept_stop h).1
  | wait ready => exact ⟨h.keyed, h.held, h.watched⟩
  | dispatch received now => exact kept_dispatch S h received now

/-- **Descriptors**: in every run of the SIP thread and the RTP thread, if `socket` gives out descriptors that are not
open, whatever `bind` and `epoll_ctl` answer: the open sockets are those of the contexts, no two calls share one, and an
event on a descriptor that epoll watches finds the call whose receive socket it is -/
theorem descriptors_kept (config : ServerConfig) (ops : List HostedOp)
    (hfresh : Along (step E S) (FreshSockets E) (start config) ops) :
    let s := exec (step E S) (start config) ops
    (∀ fd, fd ∈ s.kernel.opened ↔ ∃ callId ctx, s.session.contexts.lookup callId = some ctx ∧ fd ∈ ctx.fds) ∧
      (∀ id₁ id₂ ctx₁ ctx₂ fd, s.session.contexts.lookup id₁ = some ctx₁ → s.session.contexts.lookup id₂ = some ctx₂ →
        fd ∈ ctx₁.fds → fd ∈ ctx₂.fds → id₁ = id₂) ∧
      ∀ fd ∈ s.kernel.watched, ∃ callId medium ctx, s.session.fdMap.lookup fd = some (callId, medium) ∧
        s.session.contexts.lookup callId = some ctx ∧ (ctx.rtp medium).recvFd = fd := by
  intro s
  have hkept : Kept s := exec_inv (step_kept E S) (kept_start config) ops hfresh
  refine ⟨fun fd => ?_, fun id₁ id₂ ctx₁ ctx₂ fd h₁ h₂ hfd₁ hfd₂ => ?_, fun fd hfd => ?_⟩
  · rw [hkept.held.exact]
    constructor
    · rintro ⟨callId, hfd⟩
      cases hl : s.session.contexts.lookup callId with
      | none =>
        rw [own, hl] at hfd
        cases hfd
      | some ctx => exact ⟨callId, ctx, hl, own_of_lookup hl ▸ hfd⟩
    · rintro ⟨callId, ctx, hl, hfd⟩
      exact ⟨callId, (own_of_lookup hl).symm ▸ hfd⟩
  · exact hkept.held.apart id₁ id₂ fd (own_of_lookup h₁ ▸ hfd₁) (own_of_lookup h₂ ▸ hfd₂)
  · obtain ⟨callId, medium, hmap, -, ctx, hl, hrecv⟩ := hkept.watched fd hfd
    exact ⟨callId, medium, ctx, hmap, hl, hrecv⟩

/-- a call that ends and `Stop` with another one -/
theorem descriptors_kept_two :
    let E := SessionEnv.constant "ab" []
    let info : CallSessionInfo := ⟨"", .kConnected, 1, 5004, 5010, 4000, 4002, "10.0.0.9"⟩
    let s := exec (step E (.insertion _)) (start {})
      [.connect "a1" info, .disconnect "a1", .connect "b2" info, .wait [11, 12], .stop]
    (∀ fd, fd ∈ s.kernel.opened ↔ ∃ callId ctx, s.session.contexts.lookup callId = some ctx ∧ fd ∈ ctx.fds) ∧
      (∀ id₁ id₂ ctx₁ ctx₂ fd, s.session.contexts.lookup id₁ = some ctx₁ → s.session.contexts.lookup id₂ = some ctx₂ →
        fd ∈ ctx₁.fds → fd ∈ ctx₂.fds → id₁ = id₂) ∧
      ∀ fd ∈ s.kernel.watched, ∃ callId medium ctx, s.session.fdMap.lookup fd = some (callId, medium) ∧
        s.session.contexts.lookup callId = some ctx ∧ (ctx.rtp medium).recvFd = fd := by
  intro E info
  refine descriptors_kept E (.insertion _) {} _ ⟨fun _ => ?_, trivial, fun _ => ?_, trivial, trivial, trivial⟩
  · exact ⟨by decide, fun fd _ => Finset.notMem_empty fd⟩
  · refine ⟨by decide, ?_⟩
    decide +kernel

/-! ## The RTP thread -/

/-- `fd_map_` has nothing about the descriptor, or what is right -/
def Settled (s : Hosted) (fd : ℤ) : Prop := s.session.fdMap.lookup fd = none ∨ s.LeadsHome fd

structure Punctual (s : Hosted) : Prop where
  pending : ∀ fd ∈ s.pending, s.Settled fd
  reads : ∀ r ∈ s.reads, r.1 = r.2

variable {E S} (hctl : ∀ n, E.epollCtl n = true)
include hctl

theorem addFd_settled {callId : String} {medium : Medium} {fd fd' : ℤ} (hown : s.Owns callId medium fd)
    (h : s.Settled fd') : (s.addFd E fd (callId, medium)).Settled fd' := by
  by_cases hfd : fd' = fd
  · exact Or.inr (addFd_leadsHome hown (Or.inr ⟨hfd, hctl _⟩))
  · rcases h with hnone | hhome
    · left
      simp only [addFd, Session.addFd, hctl, if_true]
      rw [AList.lookup_insert_ne hfd]
      exact hnone
    · exact Or.inr (addFd_leadsHome hown (Or.inl hhome))

theorem lookup_delFd (fd fd' : ℤ) :
    (s.delFd E fd).session.fdMap.lookup fd' = if fd' = fd then none else s.session.fdMap.lookup fd' := by
  simp only [delFd, Session.delFd, hctl, if_true]
  split_ifs with hfd
  · rw [hfd, AList.lookup_erase]
  · rw [AList.lookup_erase_ne hfd]

theorem registerRtpFds_settled {ctx : CallContext} (hl : s.session.contexts.lookup ctx.callId = some ctx) {fd : ℤ}
    (h : s.Settled fd) : (s.registerRtpFds E ctx).Settled fd := by
  have haudio : 0 ≤ ctx.audioRtp.recvFd → s.Owns ctx.callId .audio ctx.audioRtp.recvFd := fun hfd => ⟨hfd, ctx, hl, rfl⟩
  have hvideo : ∀ s' : Hosted, SameCalls s s' → 0 ≤ ctx.videoRtp.recvFd →
      s'.Owns ctx.callId .video ctx.videoRtp.recvFd := fun s' hsame hfd =>
    (hsame.owns _ _ _).2 ⟨hfd, ctx, hl, rfl⟩
  unfold registerRtpFds
  simp only
  split_ifs with hv ha ha
  · exact addFd_settled hctl (hvideo _ (addFd_same s _ _) hv) (addFd_settled hctl (haudio ha) h)
  · exact addFd_settled hctl (hvideo s (.refl s) hv) h
  · exact addFd_settled hctl (haudio ha) h
  · exact h

/-- the receive sockets of a call are forgotten, others are not -/
theorem lookup_unregisterRtpFds (ctx : CallContext) (fd : ℤ) :
    (s.unregisterRtpFds E ctx).session.fdMap.lookup fd =
      if 0 ≤ fd ∧ (fd = ctx.audioRtp.recvFd ∨ fd = ctx.videoRtp.recvFd) then none
      else s.session.fdMap.lookup fd := by
  unfold unregisterRtpFds
  simp only
  by_cases hv : ctx.videoRtp.recvFd ≥ 0 <;> by_cases ha : ctx.audioRtp.recvFd ≥ 0
  all_goals
    simp only [hv, ha, if_true, if_false, lookup_delFd hctl]
    split_ifs <;> first | rfl | omega

theorem settled_getOrCreateContext (callId : String) (info : CallSessionInfo) {fd : ℤ}
    (hfd : s.Settled fd) : (s.getOrCreateContext E callId info).Settled fd := by
  unfold getOrCreateContext
  cases hl : s.session.contexts.lookup callId with
  | some ctx => exact hfd
  | none =>
    refine registerRtpFds_settled hctl (AList.lookup_insert _) ?_
    rcases hfd with hnone | ⟨id, medium, hmap, hpos, ctx', hl', hrecv⟩
    · exact Or.inl hnone
    · have hne : id ≠ callId := by
        rintro rfl
        rw [hl] at hl'
        cases hl'
      exact Or.inr ⟨id, medium, hmap, hpos, ctx', (AList.lookup_insert_ne hne).trans hl', hrecv⟩

theorem settled_removeContext (callId : String) {fd : ℤ} (hfd : s.Settled fd) :
    (s.removeContext E callId).Settled fd := by
  unfold removeContext
  cases hl : s.session.contexts.lookup callId with
  | none => exact hfd
  | some ctx =>
    have hmap' := lookup_unregisterRtpFds (s := s) hctl ctx fd
    have hsame := unregisterRtpFds_same (E := E) s ctx
    by_cases hgone : 0 ≤ fd ∧ (fd = ctx.audioRtp.recvFd ∨ fd = ctx.videoRtp.recvFd)
    · rw [if_pos hgone] at hmap'
      exact Or.inl hmap'
    · rw [if_neg hgone] at hmap'
      rcases hfd with hnone | ⟨id, medium, hmap, hpos, ctx', hl', hrecv⟩
      · exact Or.inl (hmap'.trans hnone)
      · have hne : id ≠ callId := by
          rintro rfl
          rw [hl] at hl'
          obtain rfl := Option.some.inj hl'
          refine hgone ⟨hpos, ?_⟩
          cases medium
          · exact Or.inl hrecv.symm
          · exact Or.inr hrecv.symm
        refine Or.inr ⟨id, medium, hmap'.trans hmap, hpos, ctx', ?_, hrecv⟩
        rw [← hl', ← hsame.contexts]
        exact AList.lookup_erase_ne hne

omit hctl in
theorem punctual_dispatch (h : Punctual s) (received : Option (List UInt8 × String × UInt16)) (now : ℤ) :
    Punctual (s.dispatch S received now) := by
  obtain ⟨hpending, hreads⟩ := h
  unfold dispatch
  cases hp : s.pending with
  | nil => exact ⟨hpending, hreads⟩
  | cons fd pending =>
    rw [hp] at hpending
    have hrest : ∀ fd' ∈ pending, s.Settled fd' := fun fd' hfd' => hpending fd' (List.mem_cons_of_mem fd hfd')
    simp only
    cases hmap : s.session.fdMap.lookup fd with
    | none => exact ⟨hrest, hreads⟩
    | some callback =>
      obtain ⟨callId, medium⟩ := callback
      simp only
      cases hl : s.session.contexts.lookup callId with
      | none => exact ⟨hrest, hreads⟩
      | some ctx =>
        obtain ⟨-, -, hrecv⟩ := receive_fds S ctx received now medium
        simp only
        refine ⟨fun fd' hfd' => ?_, fun r hr => ?_⟩
        · rcases hrest fd' hfd' with hnone | ⟨id, m, hmap', howns⟩
          · exact Or.inl hnone
          · exact Or.inr ⟨id, m, hmap', owns_insert hl hrecv rfl howns⟩
        · rcases List.mem_append.1 hr with hr | hr
          · exact hreads r hr
          · obtain rfl := List.mem_singleton.1 hr
            -- the entry was right, so the socket of the call is the one the event is about
            rcases hpending fd List.mem_cons_self with hnone | ⟨id, m, hmap', -, ctx', hl', hfd⟩
            · rw [hmap] at hnone
              cases hnone
            · rw [hmap] at hmap'
              obtain ⟨rfl, rfl⟩ := Prod.mk.inj (Option.some.inj hmap')
              rw [hl] at hl'
              obtain rfl := Option.some.inj hl'
              exact hfd.symm

theorem step_punctual (s : Hosted) (o : HostedOp) (hkept : Kept s) (h : Punctual s) : Punctual (s.step E S o) := by
  cases o with
  | connect callId info =>
    have hsame : (s.getOrCreateContext E callId info).pending = s.pending ∧
        (s.getOrCreateContext E callId info).reads = s.reads := by
      unfold getOrCreateContext registerRtpFds
      cases s.session.contexts.lookup callId with
      | some ctx => exact ⟨rfl, rfl⟩
      | none =>
        simp only
        split_ifs <;> exact ⟨rfl, rfl⟩
    refine ⟨fun fd hfd => ?_, fun r hr => h.reads r (hsame.2 ▸ hr)⟩
    exact settled_getOrCreateContext hctl callId info (h.pending fd (hsame.1 ▸ hfd))
  | disconnect callId =>
    have hsame : (s.removeContext E callId).pending = s.pending ∧ (s.removeContext E callId).reads = s.reads := by
      unfold removeContext unregisterRtpFds
      cases s.session.contexts.lookup callId with
      | none => exact ⟨rfl, rfl⟩
      | some ctx =>
        simp only
        split_ifs <;> exact ⟨rfl, rfl⟩
    refine ⟨fun fd hfd => ?_, fun r hr => h.reads r (hsame.2 ▸ hr)⟩
    exact settled_removeContext hctl callId (h.pending fd (hsame.1 ▸ hfd))
  | stop => exact ⟨fun fd hfd => absurd hfd List.not_mem_nil, h.reads⟩
  | wait ready =>
    refine ⟨fun fd hfd => Or.inr ?_, h.reads⟩
    exact hkept.watched fd (of_decide_eq_true (List.mem_filter.1 hfd).2)
  | dispatch received now => exact punctual_dispatch h received now

variable (S)

/-- **No event is read from another socket**: if `socket` gives out descriptors that are not open and `epoll_ctl` does
not fail, then in every run of the two threads, however calls end and begin between `epoll_wait` and the turn of an
event, and whichever descriptors are used again, what is read for an event is the descriptor the event is about -/
theorem events_reach_owner (config : ServerConfig) (ops : List HostedOp)
    (hfresh : Along (step E S) (FreshSockets E) (start config) ops) :
    ∀ r ∈ (exec (step E S) (start config) ops).reads, r.1 = r.2 := by
  have hstart : Kept (start config) ∧ Punctual (start config) :=
    ⟨kept_start config, fun fd hfd => absurd hfd List.not_mem_nil, fun r hr => absurd hr List.not_mem_nil⟩
  have hrun := exec_inv (P := fun s => Kept s ∧ Punctual s)
    (fun s o h ho => ⟨step_kept E S s o h.1 ho, step_punctual hctl s o h.1 h.2⟩) hstart ops hfresh
  exact hrun.2.reads

omit hctl in
/-- a call ends behind `epoll_wait`, and the next one gets its descriptors -/
theorem events_reach_owner_reused :
    let E := SessionEnv.constant "ab" []
    let info : CallSessionInfo := ⟨"", .kConnected, 1, 5004, 5010, 4000, 4002, "10.0.0.9"⟩
    let ops : List HostedOp := [.connect "a1" info, .wait [11], .disconnect "a1", .connect "b2" info, .dispatch none 0]
    ∀ r ∈ (exec (step E (.insertion _)) (start {}) ops).reads, r.1 = r.2 := by
  intro E info ops
  refine events_reach_owner (.insertion _) (fun _ => rfl) {} ops
    ⟨fun _ => ?_, trivial, trivial, fun _ => ?_, trivial, trivial⟩
  · exact ⟨by decide, fun fd _ => Finset.notMem_empty fd⟩
  · refine ⟨by decide, ?_⟩
    decide +kernel

end Hosted

/-! ## Runs of a session manager -/

namespace SessionManager

variable {E : SessionEnv} (S : StdSort BufferItem.seq)

/-- what `OnSipEvent` does to the contexts -/
theorem hosted_onSipEvent (id : String) (st : SipCallState) (s : SessionManager) :
    ∃ ops : List HostedOp, ∀ h : Hosted, h.session = s.2 →
      (exec (Hosted.step E S) h ops).session = (onSipEvent E id st s).2 := by
  have hremove : ∃ ops : List HostedOp, ∀ h : Hosted, h.session = s.2 →
      (exec (Hosted.step E S) h ops).session = s.2.removeContext E id := by
    refine ⟨[.disconnect id], fun h hs => ?_⟩
    rw [← hs]
    exact Hosted.session_removeContext E h id
  have hnothing : ∃ ops : List HostedOp, ∀ h : Hosted, h.session = s.2 →
      (exec (Hosted.step E S) h ops).session = s.2 := ⟨[], fun _ hs => hs⟩
  cases st with
  | kConnected =>
    cases hl : s.1.calls.lookup id with
    | none =>
      simp only [onSipEvent, hl]
      exact hnothing
    | some call =>
      simp only [onSipEvent, hl]
      refine ⟨[.connect id call.sessionInfo], fun h hs => ?_⟩
      rw [← hs]
      exact Hosted.session_getOrCreateContext E h id call.sessionInfo
  | kDisconnected => exact hremove
  | kFailed => exact hremove
  | _ => exact hnothing

/-- an operation of the session manager, as far as the contexts are concerned -/
theorem Steps.hosted {T : Terms} {s s' : SessionManager} (hsteps : Steps E T s s') (hbacked : Backed s) :
    ∃ ops : List HostedOp, ∀ h : Hosted, h.session = s.2 →
      (exec (Hosted.step E S) h ops).session = s'.2 := by
  induction hsteps with
  | refl => exact ⟨[], fun _ hs => hs⟩
  | aside _ _ ih => exact ih
  | rewrite _ _ _ _ _ _ _ ih => exact ih
  | erase _ _ ih => exact ih
  | @move s' id call hsteps _ _ _ ih =>
    obtain ⟨ops, hops⟩ := ih
    have hcb : (s'.1.putCall id call).sipEventCb = some .onSipEvent := (hsteps.backed hbacked).callback
    obtain ⟨ops', hops'⟩ := hosted_onSipEvent (E := E) S id call.state (s'.1.putCall id call, s'.2)
    refine ⟨ops ++ ops', fun h hs => ?_⟩
    rw [exec_append, notifyStateChange, hcb]
    exact hops' _ (hops h hs)
  | clear _ ih =>
    obtain ⟨ops, hops⟩ := ih
    refine ⟨ops ++ [.stop], fun h hs => ?_⟩
    rw [exec_append]
    show { (exec (Hosted.step E S) h ops).session with contexts := ∅ } = _
    rw [hops h hs]

/-- **The session of every run of a session manager** after `Start` is that of a hosted run -/
theorem hosted_run (config : ServerConfig) (ops : List SessionOp) : ∃ ops' : List HostedOp,
    (exec (Hosted.step E S) (Hosted.start config) ops').session =
      (exec (SessionManager.step E) (started E config) ops).2 := by
  have hrun : ∀ s : SessionManager, Backed s → ∃ ops' : List HostedOp, ∀ h : Hosted, h.session = s.2 →
      (exec (Hosted.step E S) h ops').session = (exec (SessionManager.step E) s ops).2 := by
    induction ops with
    | nil => exact fun _ _ => ⟨[], fun _ hs => hs⟩
    | cons o ops ih =>
      intro s hs
      obtain ⟨first, hfirst⟩ := Steps.hosted S (step_steps E s o hs) hs
      obtain ⟨rest, hrest⟩ := ih (SessionManager.step E s o) (step_backed E s o hs)
      refine ⟨first ++ rest, fun h heq => ?_⟩
      rw [exec_append]
      exact hrest _ (hfirst h heq)
  obtain ⟨ops', hops'⟩ := hrun (started E config) (run_backed E config [])
  exact ⟨ops', hops' (Hosted.start config) rfl⟩

end SessionManager

end Rtcom
