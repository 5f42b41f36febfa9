/-
The CSeq numbers of the requests that one `SipManager` builds.

`requestStep` runs `BuildRegisterRequest`, `BuildInviteRequest`, `BuildByeRequest`, `MakeCall` and `HangUp` in any
order, and `requestCseq` is the number in the request that an operation builds. The builders call `GenerateCSeq`, which
advances `local_cseq_`; `BuildRegisterRequest`, "non-const: modifies cseq" as the header has it, writes
`local_cseq_ + 1` and leaves the counter alone (`numbered`).

`cseq_increasing_iff`: the numbers of a run are strictly increasing, and no two the same, exactly when no request is
built after a REGISTER. `cseq_repeated`: a REGISTER and the INVITE after it have the same number.
-/
import Mathlib.Tactic
import Rtcom.Lib.Counters
import Rtcom.Sip.Requests
import Rtcom.Sip.Timers

namespace Rtcom

open Runs Counters

/-- the operations that build a request -/
inductive RequestOp where
  | buildRegister
  | buildInvite (callId calleeUri : String)
  | buildBye (callId : String)
  | makeCall (calleeUri : String) (mem : Uninit) (now : ℕ)
  | hangUp (callId : String)
deriving DecidableEq, Repr

namespace SipManager

variable {κ σ : Type} (E : SipEnv) (cb : Callbacks κ σ)

def requestStep (s : SipManager κ × σ) : RequestOp → SipManager κ × σ
  | .buildRegister => ((buildRegisterRequest E s.1).2, s.2)
  | .buildInvite callId calleeUri => ((buildInviteRequest E callId calleeUri s.1).2, s.2)
  | .buildBye callId => ((buildByeRequest E callId s.1).2, s.2)
  | .makeCall calleeUri mem now => (makeCall E cb calleeUri mem now s).2
  | .hangUp callId => (hangUp E cb callId s).2

/-- the CSeq number of the request that an operation builds, if it builds one -/
def requestCseq (s : SipManager κ × σ) : RequestOp → Option UInt32
  | .buildRegister => some (registerRequest E s.1).1.cseq
  | .buildInvite callId calleeUri => some (inviteRequest E callId calleeUri s.1).1.cseq
  | .buildBye callId => (inDialogRequest E "BYE" callId s.1).1.map SipRequest.cseq
  | .makeCall calleeUri _ _ => (inviteOf E s.1 calleeUri).map SipRequest.cseq
  | .hangUp callId => (byeOf E s.1 callId).map SipRequest.cseq

/-- the CSeq numbers of the requests built in a run, in order -/
def cseqNumbers (s : SipManager κ × σ) (ops : List RequestOp) : List UInt32 :=
  outputs (requestStep E cb) (requestCseq E) s ops

/-- the operation gets as far as building its request -/
def Builds (s : SipManager κ × σ) : RequestOp → Prop
  | .buildRegister => True
  | .buildInvite _ _ => True
  | .buildBye callId => (s.1.calls.lookup callId).isSome
  | .makeCall _ _ _ => s.1.initialized = true
  | .hangUp callId => ∃ call, s.1.calls.lookup callId = some call ∧
      (call.state = .kConnected ∨ call.state = .kInProgress)

/-- in a run, no operation after a `BuildRegisterRequest` builds a request -/
def RegistersLast (s : SipManager κ × σ) (ops : List RequestOp) : Prop :=
  ∀ before after, ops = before ++ .buildRegister :: after →
    Along (requestStep E cb) (fun s op => ¬ Builds s op) (exec (requestStep E cb) s (before ++ [.buildRegister])) after

/-- the callback leaves the counter to the manager -/
def KeepsCSeq : Prop := ∀ k id st (s : SipManager κ × σ), (cb k id st s).1.localCseq = s.1.localCseq

/-! ## Where the counter starts -/

theorem cseq_new : (new : SipManager κ).localCseq.toNat ≤ 2 ^ 31 := (by decide : (1 : UInt32).toNat ≤ 2 ^ 31)

theorem cseq_initialise (config : SipConfig) (m : SipManager κ) :
    (initialise E true config m).2.localCseq.toNat ≤ 2 ^ 31 := by
  have hfirst := (E.firstCseq_range (m.draws + 2)).2
  exact hfirst.trans (by decide)

/-! ## One operation -/

variable {E cb}

theorem Tame.keepsCSeq (htame : Tame cb) : KeepsCSeq cb := by
  intro k id st s
  obtain ⟨calls, heq, -⟩ := htame k id st s
  rw [heq]

theorem KeepsCSeq.notify (hcb : KeepsCSeq cb) (id : String) (st : SipCallState) (s : SipManager κ × σ) :
    (notifyStateChange cb id st s).1.localCseq = s.1.localCseq := by
  unfold notifyStateChange
  cases s.1.sipEventCb with
  | none => rfl
  | some k => exact hcb k id st s

/-- from m to m', a request with the next number is built if b, and nothing otherwise -/
def TakesNext (b : Prop) (m : SipManager κ) (number : Option UInt32) (m' : SipManager κ) : Prop :=
  (b → number = some (m.localCseq + 1) ∧ m'.localCseq = m.localCseq + 1) ∧
    (¬ b → number = none ∧ m'.localCseq = m.localCseq)

theorem bye_cseq (callId : String) (m : SipManager κ) : TakesNext (m.calls.lookup callId).isSome m
    ((inDialogRequest E "BYE" callId m).1.map SipRequest.cseq) (buildByeRequest E callId m).2 := by
  unfold TakesNext
  rw [buildByeRequest, buildInDialogRequest_eq]
  simp only [inDialogRequest, get_bind_run]
  cases m.calls.lookup callId with
  | none => exact ⟨fun habs => absurd habs Bool.false_ne_true, fun _ => ⟨rfl, rfl⟩⟩
  | some call => exact ⟨fun _ => ⟨rfl, rfl⟩, fun hnot => absurd rfl hnot⟩

theorem makeCall_cseq (hcb : KeepsCSeq cb) (calleeUri : String) (mem : Uninit) (now : ℕ) (s : SipManager κ × σ) :
    TakesNext (s.1.initialized = true) s.1 ((inviteOf E s.1 calleeUri).map SipRequest.cseq)
      (makeCall E cb calleeUri mem now s).2.1 := by
  unfold TakesNext inviteOf makeCall
  cases s.1.initialized with
  | false => exact ⟨fun habs => absurd habs Bool.false_ne_true, fun _ => ⟨rfl, rfl⟩⟩
  | true => exact ⟨fun _ => ⟨rfl, hcb.notify _ _ _⟩, fun hnot => absurd rfl hnot⟩

theorem hangUp_cseq (hcb : KeepsCSeq cb) (callId : String) (s : SipManager κ × σ) :
    TakesNext (Builds s (.hangUp callId)) s.1 ((byeOf E s.1 callId).map SipRequest.cseq)
      (hangUp E cb callId s).2.1 := by
  unfold TakesNext byeOf hangUp
  cases hl : s.1.calls.lookup callId with
  | none =>
    refine ⟨?_, fun _ => ⟨rfl, rfl⟩⟩
    rintro ⟨call, hcall, -⟩
    rw [hl] at hcall
    cases hcall
  | some call =>
    simp only
    split_ifs with hst
    · refine ⟨?_, fun _ => ⟨rfl, rfl⟩⟩
      rintro ⟨call', hcall, hlive⟩
      rw [hl] at hcall
      cases hcall
      exact absurd hlive (not_or.2 hst)
    · rw [← not_or, not_not] at hst
      refine ⟨fun _ => ?_, fun hnot => absurd ⟨call, hl, hst⟩ hnot⟩
      have hthere : ((s.1.putCall callId (call.setState .kDisconnecting)).calls.lookup callId).isSome := by
        rw [lookup_putCall, if_pos rfl]
        rfl
      obtain ⟨hbye, hnext⟩ :=
        (bye_cseq (E := E) callId (s.1.putCall callId (call.setState .kDisconnecting))).1 hthere
      exact ⟨hbye, (hcb.notify _ _ _).trans hnext⟩

variable (E)

/-- an operation other than `BuildRegisterRequest` takes the next number if it builds a request -/
theorem requestStep_takesNext (hcb : KeepsCSeq cb) (s : SipManager κ × σ) {op : RequestOp} (hop : op ≠ .buildRegister) :
    TakesNext (Builds s op) s.1 (requestCseq E s op) (requestStep E cb s op).1 := by
  cases op with
  | buildRegister => exact absurd rfl hop
  | buildInvite callId calleeUri => exact ⟨fun _ => ⟨rfl, rfl⟩, fun hnot => absurd trivial hnot⟩
  | buildBye callId => exact bye_cseq callId s.1
  | makeCall calleeUri mem now => exact makeCall_cseq hcb calleeUri mem now s
  | hangUp callId => exact hangUp_cseq hcb callId s

/-- every request has the next number -/
theorem requestCseq_builds (hcb : KeepsCSeq cb) (s : SipManager κ × σ) (op : RequestOp) (hbuilds : Builds s op) :
    requestCseq E s op = some (s.1.localCseq + 1) := by
  by_cases hop : op = .buildRegister
  · rw [hop]
    rfl
  · exact ((requestStep_takesNext E hcb s hop).1 hbuilds).1

/-- an operation that does not build a request has no number and leaves the counter -/
theorem requestStep_none (hcb : KeepsCSeq cb) (s : SipManager κ × σ) (op : RequestOp) (hnot : ¬ Builds s op) :
    requestCseq E s op = none ∧ (requestStep E cb s op).1.localCseq = s.1.localCseq := by
  apply (requestStep_takesNext E hcb s ?_).2 hnot
  rintro rfl
  exact hnot trivial

/-! ## The numbers of a run -/

theorem toNat_next {cseq : UInt32} (h : cseq.toNat < 2 ^ 32 - 1) : (cseq + 1).toNat = cseq.toNat + 1 := by
  rw [UInt32.toNat_add]
  exact Nat.mod_eq_of_lt (by simpa using Nat.add_lt_of_lt_sub h)

/-- the requests are numbered by `local_cseq_`, until it starts again at 0; a REGISTER only looks at it -/
theorem numbered (hcb : KeepsCSeq cb) : Numbered (requestStep E cb) (fun s op => (requestCseq E s op).map UInt32.toNat)
    (fun s => s.1.localCseq.toNat) Builds (· = .buildRegister) (2 ^ 32 - 1) where
  out_issues s op hs hbuilds := by
    rw [requestCseq_builds E hcb s op hbuilds, Option.map_some, toNat_next hs]
  out_none s op hnot := by
    rw [(requestStep_none E hcb s op hnot).1, Option.map_none]
  take s op hs hbuilds hop := by
    rw [((requestStep_takesNext E hcb s hop).1 hbuilds).2, toNat_next hs]
  peek s op _ hop := by
    rw [hop]
    rfl
  keep s op hnot := by
    rw [(requestStep_none E hcb s op hnot).2]

theorem registersLast_iff (s : SipManager κ × σ) (ops : List RequestOp) :
    PeeksLast (requestStep E cb) Builds (· = .buildRegister) s ops ↔ RegistersLast E cb s ops := by
  refine ⟨?_, ?_⟩
  · intro h before after hops
    rw [exec_append]
    exact h before .buildRegister after hops rfl trivial
  · rintro h before op after hops rfl -
    have hlast := h before after hops
    rwa [exec_append] at hlast

/-- **The numbers of a run are strictly increasing**, and no two the same, exactly when a REGISTER is the last
request -/
theorem cseq_increasing_iff (hcb : KeepsCSeq cb) (s : SipManager κ × σ) (hfirst : s.1.localCseq.toNat ≤ 2 ^ 31)
    (ops : List RequestOp) (hops : ops.length < 2 ^ 31) :
    ((cseqNumbers E cb s ops).Pairwise (· < ·) ↔ RegistersLast E cb s ops) ∧
      ((cseqNumbers E cb s ops).Nodup ↔ RegistersLast E cb s ops) := by
  have hbound : s.1.localCseq.toNat + ops.length ≤ 2 ^ 32 - 1 := by omega
  have hnumbers := outputs_map (requestStep E cb) (requestCseq E) UInt32.toNat s ops
  have hincreasing := (numbered E hcb).increasing_iff ops hbound
  have hnodup := (numbered E hcb).nodup_iff ops hbound
  rw [hnumbers, registersLast_iff] at hincreasing hnodup
  refine ⟨?_, ?_⟩
  · rw [← hincreasing, List.pairwise_map]
    rfl
  · rw [← hnodup]
    exact (List.nodup_map_iff fun a b => UInt32.toNat.inj).symm

/-- an INVITE, then a REGISTER -/
theorem cseq_increasing_iff_invite : ((cseqNumbers inviteEnv ignoring (new, ())
      [.buildInvite "a1" "sip:bob@h", .buildRegister]).Pairwise (· < ·) ↔
        RegistersLast inviteEnv ignoring (new, ()) [.buildInvite "a1" "sip:bob@h", .buildRegister]) ∧
    ((cseqNumbers inviteEnv ignoring (new, ()) [.buildInvite "a1" "sip:bob@h", .buildRegister]).Nodup ↔
        RegistersLast inviteEnv ignoring (new, ()) [.buildInvite "a1" "sip:bob@h", .buildRegister]) :=
  cseq_increasing_iff inviteEnv tame_ignoring.keepsCSeq (new, ()) cseq_new _ (by decide)

/-- **A REGISTER and the INVITE after it have the same number** -/
theorem cseq_repeated : ¬ ∀ (E : SipEnv) (cb : Callbacks Unit Unit) (s : SipManager Unit × Unit) (ops : List RequestOp),
    KeepsCSeq cb → s.1.localCseq.toNat ≤ 2 ^ 31 → ops.length < 2 ^ 31 →
    (cseqNumbers E cb s ops).Pairwise (· < ·) := by
  intro h
  have hlt := h inviteEnv ignoring (new, ()) [.buildRegister, .buildInvite "a1" "sip:bob@h"] tame_ignoring.keepsCSeq
    cseq_new (by decide)
  have hnumbers : cseqNumbers inviteEnv ignoring (new, ()) [.buildRegister, .buildInvite "a1" "sip:bob@h"] = [2, 2] :=
    rfl
  rw [hnumbers] at hlt
  exact absurd hlt (by decide)

end SipManager

end Rtcom
