/-
The INVITE, the ACK and the BYE of an outgoing call. `MakeCall` builds the INVITE, `HandleResponse` the ACK and `HangUp`
the BYE, and anyone may call the builders.

`requests` are the requests a run of the server builds, in order, whatever turns of the main loop, operations and other
messages come in between. Each draws a From tag of its own (`fromTags_ne`), as no call keeps the tag of its INVITE, so
the three requests of a call are never of one dialog (`never_one_dialog`, `hung_up_call_not_one_dialog`).
-/
import Mathlib.Data.List.Pairwise
import Mathlib.Tactic
import Rtcom.Server.Acceptance
import Rtcom.Sip.Requests

namespace Rtcom

open Runs SipManager SessionManager

/-- the requests are of one dialog, as far as their headers tell -/
structure OneDialogRequests (invite ack bye : SipRequest) : Prop where
  callId : ack.callId = invite.callId ∧ bye.callId = invite.callId
  fromUri : ack.fromUri = invite.fromUri ∧ bye.fromUri = invite.fromUri
  fromTag : ack.fromTag = invite.fromTag ∧ bye.fromTag = invite.fromTag
  ackCseq : ack.cseq = invite.cseq
  byeCseq : invite.cseq < bye.cseq

namespace MainLoop

variable (E : SessionEnv)

/-! ## Runs that build messages -/

inductive DialogEvent where
  | event (e : ServerEvent)
  | build (b : MessageBuilder)

def dialogStep (s : SessionManager) : DialogEvent → SessionManager
  | .event e => serverStep E s e
  | .build b => ((b.build E.toSipEnv s.1).2, s.2)

/-- the request that is built, if there is one -/
def requestOf (s : SessionManager) : DialogEvent → Option SipRequest
  | .event (.turn (.datagram rawMsg _ _)) => ackOf E.toSipEnv s.1 rawMsg
  | .event (.operation (.makeCall calleeUri _ _)) =>
    if s.2.contexts.entries.length ≥ s.2.config.maxSessions.toNat then none else inviteOf E.toSipEnv s.1 calleeUri
  | .event (.operation (.sipMakeCall calleeUri _ _)) => inviteOf E.toSipEnv s.1 calleeUri
  | .event (.operation (.hangUp callId)) => byeOf E.toSipEnv s.1 callId
  | .event (.operation (.incoming rawMsg _ _)) => ackOf E.toSipEnv s.1 rawMsg
  | .build b => b.request E.toSipEnv s.1
  | _ => none

def requests : SessionManager → List DialogEvent → List SipRequest
  | _, [] => []
  | s, e :: es => (requestOf E s e).toList ++ requests (dialogStep E s e) es

variable {E}

/-- a datagram draws at least what its message draws -/
theorem draws_datagram (s : SessionManager) (rawMsg : String) (mem : Uninit) (now : ℕ) :
    (processIncomingMessage E.toSipEnv (callbacks E) rawMsg mem now s).1.draws ≤
      (step E s (.datagram rawMsg mem now)).1.draws := by
  obtain ⟨m, hm, heq⟩ := step_datagram (E := E) s rawMsg mem now
  have hsdp : Steps E (turn s) _ _ := steps_applySdp not_false rawMsg
    (processIncomingMessage E.toSipEnv (callbacks E) rawMsg mem now s)
  rw [heq]
  calc (processIncomingMessage E.toSipEnv (callbacks E) rawMsg mem now s).1.draws
      ≤ (applySdp rawMsg (processIncomingMessage E.toSipEnv (callbacks E) rawMsg mem now s)).1.draws :=
        (untagged_steps hsdp).draws
    _ ≤ m.draws := (aside_builder hm).draws

/-- an event keeps the contexts of connected calls, and the generator does not go back -/
theorem dialogStep_spec (s : SessionManager) (e : DialogEvent) (h : Backed s) :
    Backed (dialogStep E s e) ∧ s.1.draws ≤ (dialogStep E s e).1.draws := by
  have hsteps : ∃ T, Steps E T s (dialogStep E s e) := by
    rcases e with (e | o) | b
    · exact ⟨_, step_steps s e h⟩
    · exact ⟨_, SessionManager.step_steps E s o h⟩
    · exact ⟨turn s, Steps.refl.builder (b.frame E.toSipEnv s.1)⟩
  obtain ⟨T, hsteps⟩ := hsteps
  exact ⟨hsteps.backed h, (untagged_steps hsteps).draws⟩

theorem requestOf_tagged (s : SessionManager) (e : DialogEvent) :
    ∀ r ∈ requestOf E s e, TaggedBetween E.toSipEnv s.1 (dialogStep E s e).1 r := by
  have htame : Tame (callbacks E) := tame_callbacks E
  intro r hr
  rcases e with (e | o) | b
  · cases e with
    | timers _ => cases hr
    | datagram rawMsg mem now =>
      exact (ackOf_tagged E.toSipEnv htame rawMsg mem now s r hr).mono le_rfl (draws_datagram s rawMsg mem now)
  · cases o with
    | makeCall calleeUri mem now =>
      simp only [requestOf] at hr
      simp only [dialogStep, serverStep, SessionManager.step, SessionManager.makeCall]
      split_ifs at hr ⊢ with hfull
      · cases hr
      · exact inviteOf_tagged E.toSipEnv htame calleeUri mem now s r hr
    | sipMakeCall calleeUri mem now => exact inviteOf_tagged E.toSipEnv htame calleeUri mem now s r hr
    | hangUp callId => exact byeOf_tagged E.toSipEnv htame callId s r hr
    | incoming rawMsg mem now => exact ackOf_tagged E.toSipEnv htame rawMsg mem now s r hr
    | _ => cases hr
  · exact b.request_tagged E.toSipEnv s.1 r hr

theorem requests_tagged {s : SessionManager} (h : Backed s) (es : List DialogEvent) :
    s.1.draws ≤ (exec (dialogStep E) s es).1.draws ∧
      ∀ r ∈ requests E s es, TaggedBetween E.toSipEnv s.1 (exec (dialogStep E) s es).1 r := by
  induction es generalizing s with
  | nil => exact ⟨le_rfl, fun r hr => absurd hr List.not_mem_nil⟩
  | cons e es ih =>
    obtain ⟨hnext, hdraws⟩ := dialogStep_spec (E := E) s e h
    obtain ⟨hrest, htagged⟩ := ih hnext
    refine ⟨hdraws.trans hrest, fun r hr => ?_⟩
    rcases List.mem_append.1 hr with hr | hr
    · exact (requestOf_tagged s e r (Option.mem_toList.1 hr)).mono le_rfl hrest
    · exact (htagged r hr).mono hdraws le_rfl

/-- **No two requests of a run have the same From tag** -/
theorem fromTags_ne {s : SessionManager} (h : Backed s) (es : List DialogEvent)
    (hdistinct : DistinctTags E (exec (dialogStep E) s es).1.draws) :
    (requests E s es).Pairwise fun r r' => r.fromTag ≠ r'.fromTag := by
  induction es generalizing s with
  | nil => exact .nil
  | cons e es ih =>
    obtain ⟨hnext, -⟩ := dialogStep_spec (E := E) s e h
    rw [requests, List.pairwise_append]
    refine ⟨?_, ih hnext hdistinct, fun r hr r' hr' => ?_⟩
    · cases requestOf E s e with
      | none => exact .nil
      | some r => exact List.pairwise_singleton _ r
    · -- the later request draws after the earlier one
      obtain ⟨i, -, hi, htag⟩ := requestOf_tagged s e r (Option.mem_toList.1 hr)
      obtain ⟨j, hj, hlast, htag'⟩ := (requests_tagged hnext es).2 r' hr'
      rw [htag, htag']
      exact hdistinct j hlast i (hi.trans_le hj)

/-! ## A call -/

/-- the three requests of a call, in the order in which a run builds them -/
structure RequestsOfCall (E : SessionEnv) (config : ServerConfig) (es : List DialogEvent) (callId : String)
    (invite ack bye : SipRequest) : Prop where
  built : [invite, ack, bye].Sublist (requests E (init E config) es)
  methods : invite.method = "INVITE" ∧ ack.method = "ACK" ∧ bye.method = "BYE"
  callIds : invite.callId = callId ∧ ack.callId = callId ∧ bye.callId = callId

/-- **The INVITE, the ACK and the BYE of a call are never of one dialog**, where the tags are pairwise distinct -/
theorem never_one_dialog (E : SessionEnv) (config : ServerConfig) (es : List DialogEvent) (callId : String)
    (invite ack bye : SipRequest) (hdistinct : DistinctTags E (exec (dialogStep E) (init E config) es).1.draws)
    (h : RequestsOfCall E config es callId invite ack bye) : ¬ OneDialogRequests invite ack bye := by
  intro hone
  have hpairwise := (fromTags_ne (init_matched E config).backed es hdistinct).sublist h.built
  have hack : invite.fromTag ≠ ack.fromTag := List.rel_of_pairwise_cons hpairwise List.mem_cons_self
  exact hack hone.fromTag.1.symm

/-- the 200 to the INVITE of the first call -/
def okCall : PeerMessage := .response 200 "OK" "INVITE" "0000000000000001-0000000000000003"

def okEnv : SessionEnv := { digitsEnv with parse := PeerMessage.reading [okCall] }

/-- a call is placed, answered and hung up; the server answers something else in between -/
def hungUpCall : List DialogEvent :=
  [.event (.operation (.makeCall "sip:bob@example.com" ⟨0, 0, 0, 0, 0⟩ 0)), .build (.response 180 "Ringing" ""),
    .event (.turn (.datagram okCall.text ⟨0, 0, 0, 0, 0⟩ 1)),
    .event (.operation (.hangUp "0000000000000001-0000000000000003"))]

theorem distinctTags_hungUpCall :
    DistinctTags okEnv (exec (dialogStep okEnv) (init okEnv {}) hungUpCall).1.draws := by
  decide +kernel

theorem requestsOfCall_hungUpCall : ∃ invite ack bye,
    RequestsOfCall okEnv {} hungUpCall "0000000000000001-0000000000000003" invite ack bye ∧
      invite.fromUri = "sip:user@example.com" ∧ ack.fromUri = "user@example.com" := by
  have hlength : (requests okEnv (init okEnv {}) hungUpCall).length = 3 := by decide +kernel
  have hheaders : (requests okEnv (init okEnv {}) hungUpCall).map (fun r => (r.method, r.fromUri, r.callId)) =
      [("INVITE", "sip:user@example.com", "0000000000000001-0000000000000003"),
        ("ACK", "user@example.com", "0000000000000001-0000000000000003"),
        ("BYE", "user@example.com", "0000000000000001-0000000000000003")] := by
    decide +kernel
  obtain ⟨invite, ack, bye, hrequests⟩ := List.length_eq_three.1 hlength
  rw [hrequests] at hheaders
  simp only [List.map_cons, List.map_nil, List.cons.injEq, Prod.mk.injEq, and_true] at hheaders
  obtain ⟨⟨hinvite, hinviteUri, hinviteId⟩, ⟨hack, hackUri, hackId⟩, hbye, -, hbyeId⟩ := hheaders
  refine ⟨invite, ack, bye, ⟨?_, ⟨hinvite, hack, hbye⟩, hinviteId, hackId, hbyeId⟩, hinviteUri, hackUri⟩
  rw [hrequests]

theorem never_one_dialog_hungUpCall : ∃ invite ack bye,
    RequestsOfCall okEnv {} hungUpCall "0000000000000001-0000000000000003" invite ack bye ∧
      ¬ OneDialogRequests invite ack bye := by
  obtain ⟨invite, ack, bye, hrequests, -⟩ := requestsOfCall_hungUpCall
  exact ⟨invite, ack, bye, hrequests,
    never_one_dialog okEnv {} hungUpCall _ invite ack bye distinctTags_hungUpCall hrequests⟩

/-- **The ACK of a call is not from where its INVITE is from** -/
theorem hung_up_call_not_one_dialog : ¬ ∀ (E : SessionEnv) (config : ServerConfig) (es : List DialogEvent)
    (callId : String) (invite ack bye : SipRequest),
    DistinctTags E (exec (dialogStep E) (init E config) es).1.draws →
    RequestsOfCall E config es callId invite ack bye → OneDialogRequests invite ack bye := by
  intro h
  obtain ⟨invite, ack, bye, hrequests, hinvite, hack⟩ := requestsOfCall_hungUpCall
  have hone := h okEnv {} hungUpCall _ invite ack bye distinctTags_hungUpCall hrequests
  have huri : ack.fromUri = invite.fromUri := hone.fromUri.1
  rw [hinvite, hack] at huri
  exact absurd huri (by decide)

end MainLoop

end Rtcom
