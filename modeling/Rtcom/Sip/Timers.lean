/-
What `ProcessTimers` does to calls that are connected. The timer of a call is started when the call is created, nothing
stops it when the call is answered, and `ProcessTimers` does not look at the state: to a call whose timer has expired it
does the same before and after the answer.

- `timing_visit_iff`: a visit leaves state, count and timer of a connected call exactly when it does not find the timer
  expired.
- `spared_iff`: so does a walk over all calls, for all connected ones.
- `connected_spared_iff`: a run never touches a connected call exactly when no walk of it finds a connected call's timer
  expired.
-/
import Mathlib.Tactic
import Rtcom.Lib.Runs
import Rtcom.Sip.Moves

namespace Rtcom

open Runs

namespace SipCall

/-- state, retransmit count and timer -/
def timing (call : SipCall) : SipCallState × UInt32 × ℕ × UInt32 :=
  (call.state, call.retransmitCount, call.timerStart, call.timerDurationMs)

theorem timing_of_core {call call' : SipCall} (h : call'.core = call.core) : call'.timing = call.timing := by
  have htiming : call'.core.timing = call.core.timing := by rw [h]
  exact htiming

/-- a timer that has expired was started before -/
theorem lt_of_expired {call : SipCall} {now : ℕ} (h : call.isTimerExpired now) : call.timerStart < now := by
  rw [isTimerExpired] at h
  split_ifs at h with hzero
  by_contra hle
  have helapsed : elapsedMs call.timerStart now = 0 := by
    rw [elapsedMs, Nat.sub_eq_zero_of_le (not_lt.1 hle)]
    rfl
  rw [helapsed, decide_eq_true_eq] at h
  exact hzero (UInt32.le_antisymm h UInt32.zero_le)

end SipCall

namespace SipManager

variable {κ σ : Type} (E : SipEnv) {cb : Callbacks κ σ}

/-- the visit finds the timer expired: at its first check with something left to retransmit, or at its second -/
def FindsExpired (m : SipManager κ) (v : Visit) (call : SipCall) : Prop :=
  (call.isTimerExpired v.firstCheck ∧ call.retransmitCount < m.config.maxRetransmit) ∨
    call.isTimerExpired v.secondCheck

instance (m : SipManager κ) (v : Visit) (call : SipCall) : Decidable (FindsExpired m v call) :=
  inferInstanceAs (Decidable (_ ∨ _))

/-- the clock does not go back between the check and the restart of a timer -/
def Steady : SipOp → Prop
  | .processTimers visits => ∀ v ∈ visits, v.firstCheck ≤ v.restart
  | _ => True

/-- no visit of the walk finds the timer of a connected call expired -/
def NoneExpired (m : SipManager κ) : SipOp → Prop
  | .processTimers visits => ∀ v ∈ visits, ∀ call, m.calls.lookup v.callId = some call → call.state = .kConnected →
      ¬ FindsExpired m v call
  | _ => True

/-- every connected call is there with the same state, count and timer -/
def Spared (m m' : SipManager κ) : Prop :=
  ∀ id call, m.calls.lookup id = some call → call.state = .kConnected →
    (m'.calls.lookup id).map SipCall.timing = some call.timing

/-- the step is no `ProcessTimers`, or one that spares the connected calls -/
def SparesConnected (cb : Callbacks κ σ) (s : SipManager κ × σ) : SipOp → Prop
  | .processTimers visits => Spared s.1 (processTimers cb visits s).1
  | _ => True

/-! ## One visit -/

theorem timing_of_core {m m' : SipManager κ} {x : String}
    (h : (m'.calls.lookup x).map SipCall.core = (m.calls.lookup x).map SipCall.core) :
    (m'.calls.lookup x).map SipCall.timing = (m.calls.lookup x).map SipCall.timing := by
  have htiming := congrArg (Option.map SipCall.timing) h
  rwa [Option.map_map, Option.map_map] at htiming

/-- the call that is visited: restarted, failed or left alone -/
theorem timing_visitTimer (htame : Tame cb) (s : SipManager κ × σ) {v : Visit} {call : SipCall}
    (hl : s.1.calls.lookup v.callId = some call) :
    ((visitTimer cb s v).1.calls.lookup v.callId).map SipCall.timing =
      if call.isTimerExpired v.firstCheck ∧ call.retransmitCount < s.1.config.maxRetransmit then
        some (call.state, (0 : UInt32), v.restart, s.1.config.retryT1Ms * (1 <<< (call.retransmitCount + 1)))
      else if call.isTimerExpired v.secondCheck then
        some (.kFailed, call.retransmitCount, call.timerStart, call.timerDurationMs)
      else some call.timing := by
  simp only [visitTimer, hl]
  split_ifs
  · rw [lookup_putCall, if_pos rfl]
    rfl
  · obtain ⟨calls, heq, hcore⟩ := htame.notify call.callId .kFailed
      (s.1.putCall v.callId (call.setState .kFailed), s.2)
    have hput : (s.1.putCall v.callId (call.setState .kFailed)).calls.lookup v.callId =
        some (call.setState .kFailed) := by
      rw [lookup_putCall, if_pos rfl]
    have hsame := hcore v.callId
    rw [hput] at hsame
    obtain ⟨call', hl', hcall⟩ := Option.map_eq_some_iff.1 hsame
    have htiming := SipCall.timing_of_core hcall
    rw [heq, hl', Option.map_some, htiming]
    unfold SipCall.setState
    split_ifs with hst
    · rfl
    · rw [SipCall.timing, not_not.1 hst]
  · rw [hl, Option.map_some]

/-- **A visit of a connected call** -/
theorem timing_visit_iff (htame : Tame cb) (s : SipManager κ × σ) {v : Visit} {call : SipCall}
    (hl : s.1.calls.lookup v.callId = some call) (hst : call.state = .kConnected)
    (hclock : v.firstCheck ≤ v.restart) :
    ((visitTimer cb s v).1.calls.lookup v.callId).map SipCall.timing = some call.timing ↔
      ¬ FindsExpired s.1 v call := by
  rw [timing_visitTimer htame s hl, FindsExpired]
  split_ifs with hretransmit hexpired
  · refine iff_of_false (fun heq => ?_) (not_not.2 (Or.inl hretransmit))
    -- the timer is restarted, later than it was started
    have hstart : v.restart = call.timerStart := congrArg (fun t => t.2.2.1) (Option.some.inj heq)
    have hlt := SipCall.lt_of_expired hretransmit.1
    omega
  · refine iff_of_false (fun heq => ?_) (not_not.2 (Or.inr hexpired))
    have hfailed : SipCallState.kFailed = call.state := congrArg Prod.fst (Option.some.inj heq)
    rw [hst] at hfailed
    cases hfailed
  · exact iff_of_true rfl (not_or.2 ⟨hretransmit, hexpired⟩)

/-! ## A walk -/

/-- the calls a walk does not come to -/
theorem processTimers_others (htame : Tame cb) (s : SipManager κ × σ) (visits : List Visit) {x : String}
    (hx : x ∉ visits.map Visit.callId) :
    (processTimers cb visits s).1.config = s.1.config ∧
      ((processTimers cb visits s).1.calls.lookup x).map SipCall.core = (s.1.calls.lookup x).map SipCall.core := by
  induction visits generalizing s with
  | nil => exact ⟨rfl, rfl⟩
  | cons v vs ih =>
    rw [List.map_cons, List.mem_cons, not_or] at hx
    obtain ⟨hconfig, hothers⟩ := visitTimer_others s htame v
    obtain ⟨ihconfig, ihcore⟩ := ih (visitTimer cb s v) hx.2
    exact ⟨ihconfig.trans hconfig, ihcore.trans (hothers x hx.1)⟩

/-- a connected call and the one visit a walk pays it -/
theorem timing_processTimers_iff (htame : Tame cb) (s : SipManager κ × σ) {visits : List Visit}
    (hnodup : (visits.map Visit.callId).Nodup) {v : Visit} (hv : v ∈ visits) {call : SipCall}
    (hl : s.1.calls.lookup v.callId = some call) (hst : call.state = .kConnected)
    (hclock : v.firstCheck ≤ v.restart) :
    ((processTimers cb visits s).1.calls.lookup v.callId).map SipCall.timing = some call.timing ↔
      ¬ FindsExpired s.1 v call := by
  obtain ⟨before, after, rfl⟩ := List.append_of_mem hv
  rw [List.map_append, List.map_cons, List.nodup_middle, List.nodup_cons, List.mem_append, not_or] at hnodup
  obtain ⟨⟨hbefore, hafter⟩, -⟩ := hnodup
  obtain ⟨hconfig, hcore⟩ := processTimers_others htame s before hbefore
  set s' := processTimers cb before s with hs'
  rw [hl, Option.map_some, Option.map_eq_some_iff] at hcore
  obtain ⟨call', hl', hcall⟩ := hcore
  have htiming := SipCall.timing_of_core hcall
  have hst' : call'.state = .kConnected := (congrArg Prod.fst htiming).trans hst
  have hfinds : FindsExpired s'.1 v call' ↔ FindsExpired s.1 v call := by
    have hcore' : FindsExpired s'.1 v call'.core ↔ FindsExpired s.1 v call.core := by
      rw [hcall, FindsExpired, FindsExpired, hconfig]
    exact hcore'
  have hwalk : processTimers cb (before ++ v :: after) s = processTimers cb after (visitTimer cb s' v) := by
    rw [hs', processTimers, List.foldl_append, List.foldl_cons]
    rfl
  have hrest := timing_of_core (processTimers_others htame (visitTimer cb s' v) after hafter).2
  rw [hwalk, hrest, ← htiming, timing_visit_iff htame s' hl' hst' hclock, hfinds]

/-- **A walk spares the connected calls** exactly when it finds none of their timers expired -/
theorem spared_iff (htame : Tame cb) (s : SipManager κ × σ) (o : SipOp) (hwalk : Walks s.1 o) (hsteady : Steady o) :
    SparesConnected cb s o ↔ NoneExpired s.1 o := by
  cases o with
  | processTimers visits =>
    have hnodup := hwalk.nodup_iff.2 s.1.calls.keys_nodup
    constructor
    · intro h v hv call hl hst
      rw [← timing_processTimers_iff htame s hnodup hv hl hst (hsteady v hv)]
      exact h v.callId call hl hst
    · intro h id call hl hst
      have hkey : id ∈ s.1.calls.keys := AList.mem_keys.1 (AList.lookup_isSome.1 (by rw [hl]; rfl))
      obtain ⟨v, hv, rfl⟩ := List.mem_map.1 (hwalk.mem_iff.2 hkey)
      rw [timing_processTimers_iff htame s hnodup hv hl hst (hsteady v hv)]
      exact h v hv call hl hst
  | _ => exact Iff.rfl

/-! ## Runs -/

/-- **Connected calls in a run**: none is ever retransmitted, timed out or restarted exactly when no walk finds the
timer of one expired -/
theorem connected_spared_iff (htame : Tame cb) (s : SipManager κ × σ) (ops : List SipOp)
    (hlegal : Along (step E cb) (fun s o => Walks s.1 o ∧ Steady o) s ops) :
    Along (step E cb) (SparesConnected cb) s ops ↔ Along (step E cb) (fun s o => NoneExpired s.1 o) s ops :=
  along_congr (I := fun _ => True) (fun _ _ _ _ => trivial)
    (fun s o _ ho => spared_iff htame s o ho.1 ho.2) trivial hlegal

/-- an INVITE for the call a1 -/
def inviteA1 : PeerMessage := .request "INVITE" "a1"

/-- the INVITE is the one message that is read -/
def inviteEnv : SipEnv where
  hex := fun _ _ => "ab"
  firstCseq := fun _ => 314
  firstCseq_range := fun _ => by decide
  parse := PeerMessage.reading [inviteA1]

/-- an INVITE, answered at once, and a tick 600 milliseconds later -/
def answeredThenTick : List SipOp :=
  [.initialise true {}, .incoming inviteA1.text ⟨0, 0, 0, 0, 0⟩ 0,
    .processTimers [⟨"a1", 600000000, 600000000, 600000000⟩]]

/-- a callback that does nothing -/
def ignoring : Callbacks Unit Unit := fun _ _ _ s => s

theorem tame_ignoring : Tame ignoring := fun _ _ _ s => ⟨s.1.calls, rfl, fun _ => rfl⟩

theorem legal_answeredThenTick :
    Along (step inviteEnv ignoring) (fun s o => Walks s.1 o ∧ Steady o) (new, ()) answeredThenTick := by
  have hwalk : ["a1"].Perm (step inviteEnv ignoring (step inviteEnv ignoring (new, ()) (.initialise true {}))
      (.incoming inviteA1.text ⟨0, 0, 0, 0, 0⟩ 0)).1.calls.keys := by decide +kernel
  exact ⟨⟨trivial, trivial⟩, ⟨trivial, trivial⟩, ⟨hwalk, fun v hv => by rw [List.mem_singleton.1 hv]⟩, trivial⟩

theorem connected_spared_iff_answeredThenTick :
    Along (step inviteEnv ignoring) (SparesConnected ignoring) (new, ()) answeredThenTick ↔
      Along (step inviteEnv ignoring) (fun s o => NoneExpired s.1 o) (new, ()) answeredThenTick :=
  connected_spared_iff inviteEnv tame_ignoring (new, ()) answeredThenTick legal_answeredThenTick

/-- **The timer of a connected call is started again** by the first tick after T1 -/
theorem connected_call_restarted : ¬ ∀ (E : SipEnv) (cb : Callbacks Unit Unit) (ops : List SipOp), Tame cb →
    Along (step E cb) (fun s o => Walks s.1 o ∧ Steady o) (new, ()) ops →
    Along (step E cb) (SparesConnected cb) (new, ()) ops := by
  intro h
  obtain ⟨-, -, htick, -⟩ := h inviteEnv ignoring answeredThenTick tame_ignoring legal_answeredThenTick
  set s := step inviteEnv ignoring (step inviteEnv ignoring (new, ()) (.initialise true {}))
    (.incoming inviteA1.text ⟨0, 0, 0, 0, 0⟩ 0)
  have hbefore : (s.1.calls.lookup "a1").map SipCall.timing = some (.kConnected, 0, 0, 500) := by decide +kernel
  have hafter : ((processTimers ignoring [⟨"a1", 600000000, 600000000, 600000000⟩] s).1.calls.lookup "a1").map
      SipCall.timing = some (.kConnected, 0, 600000000, 1000) := by decide +kernel
  obtain ⟨call, hl, htiming⟩ := Option.map_eq_some_iff.1 hbefore
  have hsame := htick "a1" call hl (congrArg Prod.fst htiming)
  rw [hafter, htiming] at hsame
  exact absurd hsame (by decide)

end SipManager

end Rtcom
