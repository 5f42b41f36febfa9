/-
The observer of the application and `OnSipEvent`. `SetSipEventCallback` and `Start` put them into the one slot the SIP
manager has, so whichever comes second takes the place of the other.

`changes` are the state changes of a run, read off its moves; `applying` writes down on which of them `OnSipEvent`
works.

- `setUp_spec`: after both calls, in either order, one callback is installed.
- `informed_iff`: every change of a run is told to the observer and worked on by `OnSipEvent` exactly when there is none
  (`observer_not_told`).
- `contexts_observer_last`: where the observer is installed last, no call gets a context.
-/
import Mathlib.Tactic
import Rtcom.Session.Reports

namespace Rtcom

open Runs SipManager

namespace SessionManager

variable (E : SessionEnv)

/-- the order in which an application calls `SetSipEventCallback` and `Start` -/
inductive SetUpOrder where
  | observerFirst
  | startFirst
deriving DecidableEq, Repr

/-- a new session manager after the two calls -/
def setUp (osipInit : Bool) (config : ServerConfig) : SetUpOrder → SessionManager
  | .observerFirst => (start E osipInit (setSipEventCallback (new config))).2
  | .startFirst => setSipEventCallback (start E osipInit (new config)).2

/-- the callbacks, with a log of the changes `OnSipEvent` works on -/
def applying : Callbacks EventCallback (Session × Log) := fun k id st s =>
  let r := callbacks E k id st (s.1, s.2.1)
  (r.1, r.2, if k = .onSipEvent then s.2.2 ++ [(id, st)] else s.2.2)

/-- the run of the SIP manager after the set-up -/
def follow (s : SipManager EventCallback × Session × Log) (ops : List SipOp) :
    SipManager EventCallback × Session × Log :=
  exec (SipManager.step E.toSipEnv (applying E)) s ops

/-- the state changes of a run, in order -/
def changes (s : SipManager EventCallback × Session × Log) : List SipOp → Log
  | [] => []
  | o :: ops =>
    (moves E.toSipEnv s.1 o).filterMap Move.told ++ changes (SipManager.step E.toSipEnv (applying E) s o) ops

/-- the operation changes no state -/
def Unmoved (s : SipManager EventCallback × Session × Log) (o : SipOp) : Prop :=
  (moves E.toSipEnv s.1 o).filterMap Move.told = []

variable {E}

theorem tame_applying : Tame (applying E) := fun k id st s => tame_callbacks E k id st (s.1, s.2.1)

/-! ## One slot -/

/-- one of the two is installed, and nobody has been told anything -/
theorem setUp_spec (osipInit : Bool) (config : ServerConfig) (order : SetUpOrder) :
    (setUp E osipInit config order).1.sipEventCb.isSome ∧ (setUp E osipInit config order).2.observed = [] := by
  cases order <;> cases osipInit <;> exact ⟨rfl, rfl⟩

theorem observed_getOrCreateContext (w : Session) (callId : String) (info : CallSessionInfo) :
    (w.getOrCreateContext E callId info).2.observed = w.observed := by
  unfold Session.getOrCreateContext
  cases w.contexts.lookup callId with
  | some ctx => rfl
  | none =>
    simp only [Session.registerRtpFds]
    split_ifs <;> rfl

theorem observed_removeContext (w : Session) (callId : String) :
    (w.removeContext E callId).observed = w.observed := by
  unfold Session.removeContext
  cases w.contexts.lookup callId with
  | none => rfl
  | some ctx =>
    simp only [Session.unregisterRtpFds]
    split_ifs <;> rfl

theorem observed_onSipEvent (id : String) (st : SipCallState) (s : SessionManager) :
    (onSipEvent E id st s).2.observed = s.2.observed := by
  unfold onSipEvent
  cases st with
  | kConnected =>
    cases s.1.calls.lookup id with
    | none => rfl
    | some call => exact observed_getOrCreateContext s.2 id call.sessionInfo
  | kDisconnected => exact observed_removeContext s.2 id
  | kFailed => exact observed_removeContext s.2 id
  | _ => rfl

/-- a report with `OnSipEvent` installed -/
theorem report_onSipEvent {s : SipManager EventCallback × Session × Log} (hcb : s.1.sipEventCb = some .onSipEvent)
    (id : String) (st : SipCallState) :
    (notifyStateChange (applying E) id st s).2.1.observed = s.2.1.observed ∧
      (notifyStateChange (applying E) id st s).2.2 = s.2.2 ++ [(id, st)] := by
  rw [notifyStateChange, hcb]
  exact ⟨observed_onSipEvent id st (s.1, s.2.1), rfl⟩

/-- a report with the observer installed -/
theorem report_application {s : SipManager EventCallback × Session × Log} (hcb : s.1.sipEventCb = some .application)
    (id : String) (st : SipCallState) :
    (notifyStateChange (applying E) id st s).2 =
      ({ s.2.1 with observed := s.2.1.observed ++ [(id, st)] }, s.2.2) := by
  rw [notifyStateChange, hcb]
  rfl

theorem performs_onSipEvent {ms : List Move} {s s' : SipManager EventCallback × Session × Log}
    (h : Performs (applying E) ms s s') (hcb : s.1.sipEventCb = some .onSipEvent) :
    s'.2.1.observed = s.2.1.observed ∧ s'.2.2 = s.2.2 ++ ms.filterMap Move.told := by
  induction h with
  | done s => simp
  | quiet hq _ ih => exact ih (hq.1.trans hcb)
  | store _ ih => exact ih hcb
  | erase _ ih => exact ih hcb
  | clear _ ih => exact ih hcb
  | @report ms s s' id st _ ih =>
    obtain ⟨hobserved, hlog⟩ := report_onSipEvent (E := E) hcb id st
    obtain ⟨hobserved', hlog'⟩ := ih ((tame_applying.quiet id st s).1.trans hcb)
    rw [hobserved', hobserved, hlog', hlog, List.append_assoc]
    exact ⟨rfl, rfl⟩

theorem performs_application {ms : List Move} {s s' : SipManager EventCallback × Session × Log}
    (h : Performs (applying E) ms s s') (hcb : s.1.sipEventCb = some .application) :
    s'.2 = ({ s.2.1 with observed := s.2.1.observed ++ ms.filterMap Move.told }, s.2.2) := by
  induction h with
  | done s => simp
  | quiet hq _ ih => exact ih (hq.1.trans hcb)
  | store _ ih => exact ih hcb
  | erase _ ih => exact ih hcb
  | clear _ ih => exact ih hcb
  | @report ms s s' id st _ ih =>
    rw [ih ((tame_applying.quiet id st s).1.trans hcb), report_application hcb, List.filterMap_cons]
    simp [Move.told]

/-! ## Runs -/

section Run

variable {s : SipManager EventCallback × Session × Log}

theorem follow_onSipEvent (hcb : s.1.sipEventCb = some .onSipEvent) (ops : List SipOp)
    (hwalks : Along (SipManager.step E.toSipEnv (applying E)) (fun s o => Walks s.1 o) s ops) :
    (follow E s ops).2.1.observed = s.2.1.observed ∧ (follow E s ops).2.2 = s.2.2 ++ changes E s ops := by
  induction ops generalizing s with
  | nil => exact ⟨rfl, (List.append_nil _).symm⟩
  | cons o ops ih =>
    obtain ⟨hwalk, hrest⟩ := hwalks
    have hperforms := step_performs E.toSipEnv s (tame_applying (E := E)) o hwalk
    obtain ⟨hobserved, hlog⟩ := performs_onSipEvent hperforms hcb
    obtain ⟨hobserved', hlog'⟩ := ih ((hperforms.callback tame_applying).trans hcb) hrest
    rw [hobserved] at hobserved'
    rw [hlog, List.append_assoc] at hlog'
    exact ⟨hobserved', hlog'⟩

theorem follow_application (hcb : s.1.sipEventCb = some .application) (ops : List SipOp)
    (hwalks : Along (SipManager.step E.toSipEnv (applying E)) (fun s o => Walks s.1 o) s ops) :
    (follow E s ops).2 = ({ s.2.1 with observed := s.2.1.observed ++ changes E s ops }, s.2.2) := by
  induction ops generalizing s with
  | nil => rw [changes, List.append_nil]; rfl
  | cons o ops ih =>
    obtain ⟨hwalk, hrest⟩ := hwalks
    have hperforms := step_performs E.toSipEnv s (tame_applying (E := E)) o hwalk
    have hlog := performs_application hperforms hcb
    have hlog' := ih ((hperforms.callback tame_applying).trans hcb) hrest
    rw [hlog, List.append_assoc] at hlog'
    exact hlog'

theorem changes_eq_nil_iff (ops : List SipOp) :
    changes E s ops = [] ↔ Along (SipManager.step E.toSipEnv (applying E)) (Unmoved E) s ops := by
  induction ops generalizing s with
  | nil => exact iff_of_true rfl trivial
  | cons o ops ih =>
    rw [changes, List.append_eq_nil_iff, ih]
    rfl

end Run

variable (E) in
/-- where a run starts, with nothing in the log -/
def followed (osipInit : Bool) (config : ServerConfig) (order : SetUpOrder) :
    SipManager EventCallback × Session × Log :=
  ((setUp E osipInit config order).1, (setUp E osipInit config order).2, [])

variable (E) in
/-- every change of the run is told to the observer, and `OnSipEvent` works on it -/
def Informed (s : SipManager EventCallback × Session × Log) (ops : List SipOp) : Prop :=
  (follow E s ops).2.1.observed = changes E s ops ∧ (follow E s ops).2.2 = changes E s ops

/-- **Observer and bookkeeping share one slot**: both are informed of a run exactly when nothing happens in it -/
theorem informed_iff (E : SessionEnv) (osipInit : Bool) (config : ServerConfig) (order : SetUpOrder)
    (ops : List SipOp) (hwalks : Along (SipManager.step E.toSipEnv (applying E)) (fun s o => Walks s.1 o)
      (followed E osipInit config order) ops) :
    Informed E (followed E osipInit config order) ops ↔
      Along (SipManager.step E.toSipEnv (applying E)) (Unmoved E) (followed E osipInit config order) ops := by
  obtain ⟨hinstalled, hobserved⟩ := setUp_spec (E := E) osipInit config order
  obtain ⟨k, hk⟩ := Option.isSome_iff_exists.1 hinstalled
  have hnone : (followed E osipInit config order).2.1.observed = [] := hobserved
  rw [← changes_eq_nil_iff, Informed]
  cases k with
  | onSipEvent =>
    obtain ⟨htold, hworked⟩ := follow_onSipEvent (s := followed E osipInit config order) hk ops hwalks
    rw [htold, hworked, hnone]
    constructor
    · rintro ⟨hchanges, -⟩
      exact hchanges.symm
    · intro hchanges
      rw [hchanges]
      exact ⟨rfl, rfl⟩
  | application =>
    rw [follow_application (s := followed E osipInit config order) hk ops hwalks, hnone]
    constructor
    · rintro ⟨-, hchanges⟩
      exact hchanges.symm
    · intro hchanges
      rw [hchanges]
      exact ⟨rfl, rfl⟩

/-- a call placed after the set-up of `main` -/
def placed : List SipOp := [.makeCall "sip:bob@example.com" ⟨0, 0, 0, 0, 0⟩ 0]

theorem informed_iff_placed :
    Informed (.constant "ef" []) (followed (.constant "ef" []) true {} .observerFirst) placed ↔
      Along (SipManager.step (SessionEnv.constant "ef" []).toSipEnv (applying (.constant "ef" [])))
        (Unmoved (.constant "ef" [])) (followed (.constant "ef" []) true {} .observerFirst) placed :=
  informed_iff (.constant "ef" []) true {} .observerFirst placed ⟨trivial, trivial⟩

/-- **The observer set before `Start` is told nothing** -/
theorem observer_not_told : ¬ ∀ (E : SessionEnv) (osipInit : Bool) (config : ServerConfig) (order : SetUpOrder)
    (ops : List SipOp), Along (SipManager.step E.toSipEnv (applying E)) (fun s o => Walks s.1 o)
      (followed E osipInit config order) ops → Informed E (followed E osipInit config order) ops := by
  intro h
  have htold := (h (.constant "ef" []) true {} .observerFirst placed ⟨trivial, trivial⟩).1
  revert htold
  decide +kernel

/-- **Without contexts**: where the observer is installed last, no operation gives a call a context -/
theorem contexts_observer_last (osipInit : Bool) (config : ServerConfig) (ops : List SipOp)
    (hwalks : Along (SipManager.step E.toSipEnv (applying E)) (fun s o => Walks s.1 o)
      (followed E osipInit config .startFirst) ops) :
    (follow E (followed E osipInit config .startFirst) ops).2.1.contexts = ∅ := by
  rw [follow_application (s := followed E osipInit config .startFirst) rfl ops hwalks]
  cases osipInit <;> rfl

end SessionManager

end Rtcom
