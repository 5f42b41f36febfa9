/-
The retransmission timer of an outgoing call that is never answered.

`SipCall.tick` is what one `ProcessTimers` does to a call, `SipCall.expiries` and `SipCall.retransmissions` what a
sequence of them does. `lookup_tick` connects them to the session manager: a walk over all calls does to each call what
`tick` says, whatever happens to the others.

The back-off the code aims at (`SipConfig.BacksOff`): the k-th expiry counts k retransmissions and arms T1 * 2^k, the
expiry after the last retransmission fails the call. `StartTimer` resets the count it is called to continue, so no
expiry ever counts past 0. `backs_off_iff`: the schedule is kept exactly where nothing is to be retransmitted or no tick
finds the first timer expired.
-/
import Mathlib.Tactic
import Rtcom.Lib.Runs
import Rtcom.Session.Manager

namespace Rtcom

open Runs SipManager

/-- **Exponential back-off**, of a call that went through these expiries and was retransmitted so often -/
def SipConfig.BacksOff (config : SipConfig) (expiries : List SipCall) (retransmissions : ℕ) : Prop :=
  (∀ k, 1 ≤ k → k ≤ config.maxRetransmit.toNat → ∀ c, expiries[k - 1]? = some c →
    c.retransmitCount.toNat = k ∧ c.timerDurationMs.toNat = config.retryT1Ms.toNat * 2 ^ k) ∧
  (∀ c, expiries[config.maxRetransmit.toNat]? = some c → c.state = .kFailed) ∧
  retransmissions ≤ config.maxRetransmit.toNat

/-! ## One call -/

namespace SipCall

variable (config : SipConfig)

/-- `ProcessTimers` at a call whose clock readings agree -/
def tick (call : SipCall) (now : ℕ) : SipCall :=
  if call.isTimerExpired now ∧ call.retransmitCount < config.maxRetransmit then
    let call := call.incrementRetransmit
    call.startTimer (config.retryT1Ms * (1 <<< call.retransmitCount)) now
  else if call.isTimerExpired now then call.setState .kFailed
  else call

/-- the call after each expiry of its timer while it waits for an answer -/
def expiries (call : SipCall) : List ℕ → List SipCall
  | [] => []
  | now :: times =>
    if call.state = .kCalling ∧ call.isTimerExpired now then
      call.tick config now :: expiries (call.tick config now) times
    else expiries (call.tick config now) times

/-- how often the call is retransmitted -/
def retransmissions (call : SipCall) : List ℕ → ℕ
  | [] => 0
  | now :: times =>
    (if call.isTimerExpired now ∧ call.retransmitCount < config.maxRetransmit then 1 else 0) +
      retransmissions (call.tick config now) times

/-- the call backs off over the given times -/
def FollowsSchedule (call : SipCall) (times : List ℕ) : Prop :=
  config.BacksOff (call.expiries config times) (call.retransmissions config times)

variable {call : SipCall}

theorem tick_of_not_expired {now : ℕ} (h : ¬ call.isTimerExpired now) : call.tick config now = call := by
  simp [tick, h]

/-- a tick at which the timer has not expired changes nothing -/
theorem cons_of_not_expired {now : ℕ} (h : ¬ call.isTimerExpired now) (times : List ℕ) :
    call.expiries config (now :: times) = call.expiries config times ∧
      call.retransmissions config (now :: times) = call.retransmissions config times := by
  simp [expiries, retransmissions, tick_of_not_expired config h, h]

/-- while the timer never expires, nothing is to be checked -/
theorem followsSchedule_of_never {times : List ℕ} (h : ∀ now ∈ times, ¬ call.isTimerExpired now) :
    call.FollowsSchedule config times := by
  have hnone : call.expiries config times = [] ∧ call.retransmissions config times = 0 := by
    induction times with
    | nil => exact ⟨rfl, rfl⟩
    | cons now times ih =>
      obtain ⟨h1, h2⟩ := cons_of_not_expired config (h now List.mem_cons_self) times
      rw [h1, h2]
      exact ih fun t ht => h t (List.mem_cons_of_mem now ht)
  refine ⟨?_, ?_, ?_⟩
  · intro k _ _ c hc
    simp [hnone.1] at hc
  · intro c hc
    simp [hnone.1] at hc
  · omega

/-! ### Nothing to retransmit -/

section Zero

variable {config} (h : config.maxRetransmit = 0)

include h

theorem not_lt_of_zero (call : SipCall) : ¬ call.retransmitCount < config.maxRetransmit := by
  rw [h, UInt32.lt_iff_toNat_lt]
  simp

/-- an expiry fails the call -/
theorem tick_of_zero {now : ℕ} (he : call.isTimerExpired now) : call.tick config now = call.setState .kFailed := by
  rw [tick, if_neg (fun hlt => not_lt_of_zero h call hlt.2), if_pos he]

theorem retransmissions_of_zero (times : List ℕ) : call.retransmissions config times = 0 := by
  induction times generalizing call with
  | nil => rfl
  | cons now times ih =>
    rw [retransmissions, ih, if_neg (fun hlt => not_lt_of_zero h call hlt.2)]

/-- a call that does not wait for an answer never waits for one again -/
theorem expiries_of_zero (hst : call.state ≠ .kCalling) (times : List ℕ) : call.expiries config times = [] := by
  induction times generalizing call with
  | nil => rfl
  | cons now times ih =>
    rw [expiries, if_neg (fun hexp => hst hexp.1)]
    by_cases he : call.isTimerExpired now
    · rw [tick_of_zero h he]
      exact ih (by simp)
    · rw [tick_of_not_expired config he]
      exact ih hst

theorem first_expiry_of_zero (times : List ℕ) :
    ∀ c, (call.expiries config times)[0]? = some c → c.state = .kFailed := by
  induction times with
  | nil => simp [expiries]
  | cons now times ih =>
    intro c hc
    by_cases he : call.isTimerExpired now
    · have hfailed := tick_of_zero h he
      have hnil : (call.tick config now).expiries config times = [] := expiries_of_zero h (by simp [hfailed]) times
      rw [expiries, hnil] at hc
      split_ifs at hc
      · rw [List.getElem?_cons_zero, hfailed] at hc
        cases hc
        exact state_setState call .kFailed
      · simp at hc
    · rw [(cons_of_not_expired config he times).1] at hc
      exact ih c hc

/-- where nothing is to be retransmitted, the first expiry fails the call, and no other is counted -/
theorem followsSchedule_of_zero (times : List ℕ) : call.FollowsSchedule config times := by
  rw [FollowsSchedule, SipConfig.BacksOff, h]
  refine ⟨?_, first_expiry_of_zero h times, ?_⟩
  · intro k hk hk0
    have : (0 : UInt32).toNat = 0 := rfl
    omega
  · rw [retransmissions_of_zero h]
    exact Nat.zero_le _

end Zero

/-! ### Something to retransmit -/

/-- the count is back at 0 after the first expiry -/
theorem count_after_expiry {now : ℕ} (hmax : config.maxRetransmit ≠ 0) (h0 : call.retransmitCount = 0)
    (he : call.isTimerExpired now) : (call.tick config now).retransmitCount = 0 := by
  have hlt : call.retransmitCount < config.maxRetransmit := by
    rw [h0]
    exact UInt32.pos_iff_ne_zero.2 hmax
  rw [tick, if_pos ⟨he, hlt⟩]
  rfl

/-- where something is to be retransmitted, the first expiry breaks the schedule -/
theorem not_expired_of_followsSchedule {times : List ℕ} (hmax : config.maxRetransmit ≠ 0)
    (hst : call.state = .kCalling) (h0 : call.retransmitCount = 0) (h : call.FollowsSchedule config times) :
    ∀ now ∈ times, ¬ call.isTimerExpired now := by
  induction times with
  | nil => simp
  | cons now times ih =>
    by_cases he : call.isTimerExpired now
    · -- the schedule wants a count of 1
      have hfirst : (call.expiries config (now :: times))[1 - 1]? = some (call.tick config now) := by
        rw [expiries, if_pos ⟨hst, he⟩]
        rfl
      have hpos : 1 ≤ config.maxRetransmit.toNat := UInt32.lt_iff_toNat_lt.1 (UInt32.pos_iff_ne_zero.2 hmax)
      have hone := (h.1 1 le_rfl hpos _ hfirst).1
      rw [count_after_expiry config hmax h0 he] at hone
      exact absurd hone (by decide)
    · obtain ⟨h1, h2⟩ := cons_of_not_expired config he times
      rw [FollowsSchedule, h1, h2] at h
      exact List.forall_mem_cons.2 ⟨he, ih h⟩

/-- **When the schedule is kept**, for a call in the state `MakeCall` stores it in -/
theorem followsSchedule_iff (times : List ℕ) (hst : call.state = .kCalling) (h0 : call.retransmitCount = 0) :
    call.FollowsSchedule config times ↔
      config.maxRetransmit = 0 ∨ ∀ now ∈ times, ¬ call.isTimerExpired now := by
  constructor
  · intro h
    by_cases hmax : config.maxRetransmit = 0
    · exact Or.inl hmax
    · exact Or.inr (not_expired_of_followsSchedule config hmax hst h0 h)
  · intro hcases
    rcases hcases with hmax | hnever
    · exact followsSchedule_of_zero hmax times
    · exact followsSchedule_of_never config hnever

end SipCall

/-! ## A call of the session manager -/

/-- a `ProcessTimers` at one time, with the order in which it walks over the calls -/
structure Tick where
  time : ℕ
  order : List String

def Tick.op (tk : Tick) : SessionOp := .processTimers (tk.order.map fun id => ⟨id, tk.time, tk.time, tk.time⟩)

namespace SessionManager

variable (E : SessionEnv)

/-- one turn of the loop, at a call that is there -/
theorem visitTimer_of_lookup (s : SessionManager) {id : String} {call : SipCall} (t : ℕ)
    (hl : s.1.calls.lookup id = some call) :
    (visitTimer (callbacks E) s ⟨id, t, t, t⟩).1.config = s.1.config ∧
      ∀ x, (visitTimer (callbacks E) s ⟨id, t, t, t⟩).1.calls.lookup x =
        if x = id then some (call.tick s.1.config t) else s.1.calls.lookup x := by
  simp only [visitTimer, hl]
  split_ifs with h1 h2
  · rw [SipCall.tick, if_pos h1]
    exact ⟨rfl, lookup_putCall _ _ _⟩
  · rw [SipCall.tick, if_neg h1, if_pos h2, notify_fst E _ (by decide)]
    exact ⟨rfl, lookup_putCall _ _ _⟩
  · rw [SipCall.tick_of_not_expired _ h2]
    refine ⟨rfl, fun x => ?_⟩
    split_ifs with hx
    · rw [hx, hl]
    · rfl

/-- one turn of the loop: the call visited ticks, the others and the configuration stay -/
theorem visitTimer_spec (s : SessionManager) (id : String) (t : ℕ) :
    (visitTimer (callbacks E) s ⟨id, t, t, t⟩).1.config = s.1.config ∧
      ∀ x, (visitTimer (callbacks E) s ⟨id, t, t, t⟩).1.calls.lookup x =
        if x = id then (s.1.calls.lookup x).map fun call => call.tick s.1.config t else s.1.calls.lookup x := by
  cases hl : s.1.calls.lookup id with
  | none =>
    simp only [visitTimer, hl, true_and]
    intro x
    split_ifs with hx
    · rw [hx, hl, Option.map_none]
    · rfl
  | some call =>
    obtain ⟨hc, hlook⟩ := visitTimer_of_lookup E s t hl
    refine ⟨hc, fun x => (hlook x).trans ?_⟩
    split_ifs with hx
    · rw [hx, hl, Option.map_some]
    · rfl

theorem processTimers_spec (s : SessionManager) (t : ℕ) (order : List String) (hnodup : order.Nodup) :
    let visits := order.map fun id => (⟨id, t, t, t⟩ : Visit)
    (processTimers (callbacks E) visits s).1.config = s.1.config ∧
      ∀ x, (processTimers (callbacks E) visits s).1.calls.lookup x =
        if x ∈ order then (s.1.calls.lookup x).map fun call => call.tick s.1.config t else s.1.calls.lookup x := by
  induction order generalizing s with
  | nil => exact ⟨rfl, fun x => by simp [processTimers]⟩
  | cons id order ih =>
    obtain ⟨hid, hrest⟩ := List.nodup_cons.1 hnodup
    obtain ⟨hc, hl⟩ := visitTimer_spec E s id t
    obtain ⟨ihc, ihl⟩ := ih (visitTimer (callbacks E) s ⟨id, t, t, t⟩) hrest
    simp only [hc, hl] at ihc ihl
    refine ⟨ihc, fun x => (ihl x).trans ?_⟩
    by_cases hx : x = id
    · subst hx
      simp [hid]
    · simp [hx]

/-- **A legal tick** does to every call what `tick` says -/
theorem lookup_tick (s : SessionManager) (tk : Tick) (hlegal : Legal E s tk.op) (x : String) :
    (step E s tk.op).1.config = s.1.config ∧
      (step E s tk.op).1.calls.lookup x = (s.1.calls.lookup x).map fun call => call.tick s.1.config tk.time := by
  have hperm : tk.order.Perm s.1.calls.keys := by
    have h : ((tk.order.map fun id => (⟨id, tk.time, tk.time, tk.time⟩ : Visit)).map Visit.callId).Perm
        s.1.calls.keys := hlegal
    rwa [List.map_map, show Visit.callId ∘ (fun id => (⟨id, tk.time, tk.time, tk.time⟩ : Visit)) = id from rfl,
      List.map_id] at h
  obtain ⟨hc, hl⟩ := processTimers_spec E s tk.time tk.order (hperm.nodup_iff.2 s.1.calls.keys_nodup)
  refine ⟨hc, (hl x).trans ?_⟩
  split_ifs with hx
  · rfl
  · rw [AList.lookup_eq_none.2 (fun h => hx (hperm.mem_iff.2 (AList.mem_keys.1 h))), Option.map_none]

/-! ## Runs of ticks -/

/-- the call after each expiry of its timer while it waits for an answer -/
def expiries (id : String) (s : SessionManager) : List Tick → List SipCall
  | [] => []
  | tk :: tks =>
    match s.1.calls.lookup id with
    | some call =>
      if call.state = .kCalling ∧ call.isTimerExpired tk.time then
        ((step E s tk.op).1.calls.lookup id).toList ++ expiries id (step E s tk.op) tks
      else expiries id (step E s tk.op) tks
    | none => expiries id (step E s tk.op) tks

/-- how often the call is retransmitted -/
def retransmissions (id : String) (s : SessionManager) : List Tick → ℕ
  | [] => 0
  | tk :: tks =>
    (match s.1.calls.lookup id with
      | some call =>
        if call.isTimerExpired tk.time ∧ call.retransmitCount < s.1.config.maxRetransmit then 1 else 0
      | none => 0) + retransmissions id (step E s tk.op) tks

variable {E}

/-- over legal ticks the call goes through the expiries `tick` makes -/
theorem expiries_eq {id : String} {s : SessionManager} {call : SipCall} (hl : s.1.calls.lookup id = some call)
    (tks : List Tick) (hlegal : Along (step E) (Legal E) s (tks.map Tick.op)) :
    expiries E id s tks = call.expiries s.1.config (tks.map Tick.time) ∧
      retransmissions E id s tks = call.retransmissions s.1.config (tks.map Tick.time) := by
  induction tks generalizing s call with
  | nil => exact ⟨rfl, rfl⟩
  | cons tk tks ih =>
    obtain ⟨hc, hstep⟩ := lookup_tick E s tk hlegal.1 id
    rw [hl, Option.map_some] at hstep
    obtain ⟨ih1, ih2⟩ := ih hstep hlegal.2
    rw [hc] at ih1 ih2
    constructor
    · simp only [expiries, hl, hstep, List.map_cons, SipCall.expiries, ih1]
      rfl
    · simp only [retransmissions, hl, List.map_cons, SipCall.retransmissions, ih2]

/-- what `MakeCall` stores: a call that waits for an answer, its timer started -/
theorem sipMakeCall_spec (calleeUri : String) (mem : Uninit) (now : ℕ) (s : SessionManager)
    (hinit : s.1.initialized = true) :
    let r := SipManager.makeCall E.toSipEnv (callbacks E) calleeUri mem now s
    r.2.1.config = s.1.config ∧ ∃ call, r.2.1.calls.lookup r.1 = some call ∧ call.state = .kCalling ∧
      call.retransmitCount = 0 ∧ call.timerStart = now ∧ call.timerDurationMs = s.1.config.retryT1Ms := by
  obtain ⟨m, id, call, heq, -, hframe, -, hst, h0, hstart, hdur⟩ :=
    makeCall_spec E.toSipEnv (callbacks E) calleeUri mem now s hinit
  rw [heq]
  simp only [notify_fst E id (show SipCallState.kCalling ≠ .kConnected by decide)]
  exact ⟨hframe.config, call, AList.lookup_insert _, hst, h0, hstart, hdur⟩

/-- **The schedule of a call** that `MakeCall` places and nobody answers: kept exactly where nothing is to be
retransmitted or no tick finds the first timer expired -/
theorem backs_off_iff (E : SessionEnv) (calleeUri : String) (mem : Uninit) (now : ℕ) (s : SessionManager)
    (hinit : s.1.initialized = true) (tks : List Tick) :
    let r := SipManager.makeCall E.toSipEnv (callbacks E) calleeUri mem now s
    Along (step E) (Legal E) r.2 (tks.map Tick.op) →
    (s.1.config.BacksOff (expiries E r.1 r.2 tks) (retransmissions E r.1 r.2 tks) ↔
      s.1.config.maxRetransmit = 0 ∨ ∀ tk ∈ tks,
        s.1.config.retryT1Ms = 0 ∨ SipCall.elapsedMs now tk.time < s.1.config.retryT1Ms) := by
  intro r hlegal
  obtain ⟨hconfig, call, hl, hst, h0, hstart, hdur⟩ := sipMakeCall_spec (E := E) calleeUri mem now s hinit
  obtain ⟨h1, h2⟩ := expiries_eq hl tks hlegal
  have hexp : ∀ t, ¬ call.isTimerExpired t ↔
      s.1.config.retryT1Ms = 0 ∨ SipCall.elapsedMs now t < s.1.config.retryT1Ms := by
    intro t
    rw [SipCall.isTimerExpired, hstart, hdur]
    split_ifs with hz <;> simp [hz]
  have hiff := call.followsSchedule_iff s.1.config (tks.map Tick.time) hst h0
  unfold SipCall.FollowsSchedule at hiff
  rw [h1, h2, hconfig, hiff]
  simp only [List.forall_mem_map, hexp]

/-- one tick that comes after T1, in the default configuration -/
theorem backs_off_iff_lateTick :
    let E := SessionEnv.constant "ab" []
    let s := started E {}
    let r := SipManager.makeCall E.toSipEnv (callbacks E) "sip:bob@example.com" ⟨0, 0, 0, 0, 0⟩ 0 s
    let tks : List Tick := [⟨600000000, ["ab-ab"]⟩]
    s.1.config.BacksOff (expiries E r.1 r.2 tks) (retransmissions E r.1 r.2 tks) ↔
      s.1.config.maxRetransmit = 0 ∨ ∀ tk ∈ tks,
        s.1.config.retryT1Ms = 0 ∨ SipCall.elapsedMs 0 tk.time < s.1.config.retryT1Ms :=
  backs_off_iff _ _ _ _ _ rfl _ ⟨.refl _, trivial⟩

/-- at the same tick the schedule wants a count of 1, and `StartTimer` has made it 0 -/
theorem first_expiry_uncounted :
    let E := SessionEnv.constant "ab" []
    let s := started E {}
    let r := SipManager.makeCall E.toSipEnv (callbacks E) "sip:bob@example.com" ⟨0, 0, 0, 0, 0⟩ 0 s
    let tks : List Tick := [⟨600000000, ["ab-ab"]⟩]
    0 < s.1.config.retryT1Ms.toNat ∧ s.1.config.retryT1Ms.toNat * 2 ^ s.1.config.maxRetransmit.toNat < 2 ^ 32 ∧
      Along (step E) (Legal E) r.2 (tks.map Tick.op) ∧
      (expiries E r.1 r.2 tks).map (fun c => c.retransmitCount) = [0] ∧
      ¬ s.1.config.BacksOff (expiries E r.1 r.2 tks) (retransmissions E r.1 r.2 tks) := by
  refine ⟨by decide, by decide, ⟨.refl _, trivial⟩, by decide +kernel, ?_⟩
  intro h
  exact absurd (h.1 1 le_rfl (by decide) _ rfl).1 (by decide +kernel)

end SessionManager

end Rtcom
