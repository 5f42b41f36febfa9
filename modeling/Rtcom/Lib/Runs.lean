/-
Labelled transition systems and their finite runs. `Run step s as t` is a run from s to t whose labels are as, in
order; a label is an operation, a thread's action or a message, and `step` may be any relation.

- `Run.inv`: what every step preserves, every run preserves; `Run.inv_reached`: the same for the steps from the states
  that the run can reach. `Run.ghost`: a run beside a list that its steps add to. `Run.length_add_le`: how long a run is
  whose steps use up a measure.
- `Visited`, `Taken`: the states a run goes through and the steps (state before, label) it takes.
- `Enabled`: the steps of a partial step function; `run_iff_foldlM`: its runs are computed.
- `exec`, `Along`: the run of a step function, and "every step of it meets a condition"; `exec_preserves`, `exec_inv`,
  `exec_labels`: what every step, every step that meets the condition, or every step labelled by a member preserves,
  such a run preserves; `along_iff`: the condition step by step; `along_congr`, `along_congr_inv`: two conditions that
  agree on the steps; `exec_congr`: two step functions that agree; `exec_since`: what holds at the end and not at the
  start has held since some step.
- `visited_inv`: what every step that meets a condition preserves holds throughout a run whose steps meet it.
- `never_bad_iff`: where one step from a good state avoids the bad states exactly when it meets a condition, a whole
  run avoids them exactly when all its steps meet it; `always_iff`: the same for the run of a step function, and
  `exec_iff` for its end; `forall_exec_cons`: the states of a run, by its first step.
- `Run.project`: the run a part of the state makes. `Run.passes`: a run that leaves a set of states goes through those
  by which alone it can be left.
-/
import Mathlib.Tactic

namespace Runs

variable {σ α : Type*} {step : σ → α → σ → Prop}

inductive Run (step : σ → α → σ → Prop) : σ → List α → σ → Prop
  | nil (s : σ) : Run step s [] s
  | cons {s t u : σ} {a : α} {as : List α} : step s a t → Run step t as u → Run step s (a :: as) u

theorem Run.append {s t u : σ} {as bs : List α} (h1 : Run step s as t) (h2 : Run step t bs u) :
    Run step s (as ++ bs) u := by
  induction h1 with
  | nil s => exact h2
  | cons hs _ ih => exact .cons hs (ih h2)

theorem Run.split {s u : σ} {as bs : List α} (h : Run step s (as ++ bs) u) :
    ∃ t, Run step s as t ∧ Run step t bs u := by
  induction as generalizing s with
  | nil => exact ⟨s, .nil s, h⟩
  | cons a as ih =>
    rcases h with _ | ⟨hs, hr⟩
    obtain ⟨t, h1, h2⟩ := ih hr
    exact ⟨t, .cons hs h1, h2⟩

/-- what every step preserves, every run preserves -/
theorem Run.inv {P : σ → Prop} (hstep : ∀ s a t, P s → step s a t → P t) {s t : σ} {as : List α}
    (h : Run step s as t) (h0 : P s) : P t := by
  induction h with
  | nil s => exact h0
  | cons hs _ ih => exact ih (hstep _ _ _ h0 hs)

/-- what every step from a state that the run can reach preserves, the run preserves -/
theorem Run.inv_reached {P : σ → Prop} {s t : σ} {as : List α} (h : Run step s as t) (h0 : P s)
    (hstep : ∀ bs u a v, Run step s bs u → P u → step u a v → P v) : P t := by
  induction as using List.reverseRecOn generalizing t with
  | nil =>
    rcases h with _ | _
    exact h0
  | append_singleton as a ih =>
    obtain ⟨u, hu, hlast⟩ := h.split
    rcases hlast with _ | ⟨hs, hn⟩
    rcases hn with _ | _
    exact hstep as u a t hu (ih hu) hs

/-- a run beside a list that its steps add to -/
theorem Run.ghost {β : Type*} {P : List α → List β → σ → Prop} {s t : σ} {as : List α} (h : Run step s as t)
    (h0 : P [] [] s) (hstep : ∀ as bs u a v, P as bs u → step u a v → ∃ new, P (as ++ [a]) (bs ++ new) v) :
    ∃ bs, P as bs t := by
  induction as using List.reverseRecOn generalizing t with
  | nil =>
    rcases h with _ | _
    exact ⟨[], h0⟩
  | append_singleton as a ih =>
    obtain ⟨u, hu, hlast⟩ := h.split
    rcases hlast with _ | ⟨hs, hn⟩
    rcases hn with _ | _
    obtain ⟨bs, hbs⟩ := ih hu
    obtain ⟨new, hnew⟩ := hstep as bs u a t hbs hs
    exact ⟨bs ++ new, hnew⟩

theorem Run.imp {step' : σ → α → σ → Prop} (himp : ∀ s a t, step s a t → step' s a t) {s t : σ} {as : List α}
    (h : Run step s as t) : Run step' s as t := by
  induction h with
  | nil s => exact .nil s
  | cons hs _ ih => exact .cons (himp _ _ _ hs) ih

/-- a run whose steps each take something off a measure is not longer than the measure -/
theorem Run.length_add_le {measure : σ → ℕ} (hstep : ∀ s a t, step s a t → measure t < measure s) {s t : σ}
    {as : List α} (h : Run step s as t) : as.length + measure t ≤ measure s := by
  induction h with
  | nil s => simp
  | cons hs _ ih =>
    have hlt := hstep _ _ _ hs
    rw [List.length_cons]
    omega

/-- u is a state of the run from s to t labelled as -/
def Visited (step : σ → α → σ → Prop) (s : σ) (as : List α) (t u : σ) : Prop :=
  ∃ as1 as2, as = as1 ++ as2 ∧ Run step s as1 u ∧ Run step u as2 t

/-- the run from s to t labelled as takes a step labelled a in state u -/
def Taken (step : σ → α → σ → Prop) (s : σ) (as : List α) (t u : σ) (a : α) : Prop :=
  ∃ as1 as2 v, as = as1 ++ a :: as2 ∧ Run step s as1 u ∧ step u a v ∧ Run step v as2 t

/-- what every step that meets Q preserves holds in all states of a run whose steps meet Q -/
theorem visited_inv {P : σ → Prop} {Q : σ → α → Prop} (hstep : ∀ s a t, P s → Q s a → step s a t → P t) {s t : σ}
    {as : List α} (h0 : P s) (hq : ∀ u a, Taken step s as t u a → Q u a) {u : σ} (hu : Visited step s as t u) :
    P u := by
  rcases hu with ⟨as1, as2, has, h1, h2⟩
  -- from the last step of the part of the run that reaches u
  induction as1 using List.reverseRecOn generalizing u as2 with
  | nil =>
    rcases h1 with _ | _
    exact h0
  | append_singleton as1 a ih =>
    obtain ⟨v, hv, hlast⟩ := h1.split
    rcases hlast with _ | ⟨hs, hn⟩
    rcases hn with _ | _
    have hvp : P v := ih (a :: as2) (by simpa using has) hv (.cons hs h2)
    exact hstep v a u hvp (hq v a ⟨as1, as2, u, by simpa using has, hv, hs, h2⟩) hs

/-- **Safety of a run is safety of its steps.** I is an invariant; from a state that is not bad, a step leads to a
state that is not bad exactly when it meets Q. Then a run goes through no bad state exactly when all its steps meet
Q. -/
theorem never_bad_iff {I Bad : σ → Prop} {Q : σ → α → Prop} (hinv : ∀ s a t, I s → step s a t → I t)
    (hiff : ∀ s a t, I s → ¬ Bad s → step s a t → (¬ Bad t ↔ Q s a)) {s t : σ} {as : List α} (h0 : I s)
    (hb : ¬ Bad s) :
    (∀ u, Visited step s as t u → ¬ Bad u) ↔ ∀ u a, Taken step s as t u a → Q u a := by
  constructor
  · intro h u a hrun
    rcases hrun with ⟨as1, as2, v, has, h1, hs, h2⟩
    have hu : ¬ Bad u := h u ⟨as1, a :: as2, has, h1, .cons hs h2⟩
    have hv : ¬ Bad v := by
      refine h v ⟨as1 ++ [a], as2, by simp [has], ?_, h2⟩
      exact h1.append (.cons hs (.nil v))
    exact (hiff u a v (h1.inv hinv h0) hu hs).1 hv
  · intro h u hu
    have hgood : I u ∧ ¬ Bad u :=
      visited_inv (P := fun u => I u ∧ ¬ Bad u)
        (fun v a w hv hq hs => ⟨hinv v a w hv.1 hs, (hiff v a w hv.1 hv.2 hs).2 hq⟩) ⟨h0, hb⟩ h hu
    exact hgood.2

/-- a part of the state that moves by steps of its own, or stays, makes a run of its own -/
theorem Run.project {τ β : Type*} {step' : τ → β → τ → Prop} (f : σ → τ)
    (hstep : ∀ s a t, step s a t → f t = f s ∨ ∃ b, step' (f s) b (f t)) {s t : σ} {as : List α}
    (h : Run step s as t) : ∃ bs, Run step' (f s) bs (f t) := by
  induction h with
  | nil s => exact ⟨[], .nil _⟩
  | cons hs _ ih =>
    obtain ⟨bs, hrun⟩ := ih
    rcases hstep _ _ _ hs with heq | ⟨b, hb⟩
    · exact ⟨bs, heq ▸ hrun⟩
    · exact ⟨b :: bs, .cons hb hrun⟩

/-- a state of the last part of a run is a state of the run -/
theorem Visited.append {s t u v : σ} {as bs : List α} (h : Run step s as t) (hv : Visited step t bs u v) :
    Visited step s (as ++ bs) u v := by
  obtain ⟨bs1, bs2, rfl, h1, h2⟩ := hv
  exact ⟨as ++ bs1, bs2, (List.append_assoc _ _ _).symm, h.append h1, h2⟩

/-- a run that leaves P, and can leave it for B only, goes through B -/
theorem Run.passes {P B : σ → Prop} (hstep : ∀ s a t, P s → step s a t → P t ∨ B t) {s t : σ} {as : List α}
    (h : Run step s as t) (h0 : P s) (hend : ¬ P t) : ∃ u, Visited step s as t u ∧ B u := by
  induction h with
  | nil s => exact absurd h0 hend
  | @cons s u t a as hs hrun ih =>
    have hfirst : Run step s [a] u := .cons hs (.nil u)
    rcases hstep s a u h0 hs with hp | hb
    · obtain ⟨v, hv, hbv⟩ := ih hp hend
      exact ⟨v, hv.append hfirst, hbv⟩
    · exact ⟨u, ⟨[a], as, rfl, hfirst, hrun⟩, hb⟩

/-! ## Partial step functions -/

/-- the steps of a function that says where a label leads, if it is enabled -/
def Enabled (f : σ → α → Option σ) (s : σ) (a : α) (t : σ) : Prop := f s a = some t

/-- a step behind a guard -/
theorem guarded {p : Prop} [Decidable p] {s t : σ} (h : (if p then some s else none) = some t) : p ∧ t = s := by
  obtain ⟨hp, hs⟩ := Option.ite_none_right_eq_some.1 h
  exact ⟨hp, (Option.some.inj hs).symm⟩

/-- runs of a partial step function are computed -/
theorem run_iff_foldlM {f : σ → α → Option σ} {s t : σ} {as : List α} :
    Run (Enabled f) s as t ↔ as.foldlM f s = some t := by
  induction as generalizing s with
  | nil =>
    rw [List.foldlM_nil]
    constructor
    · rintro ⟨⟩
      rfl
    · intro h
      obtain rfl := Option.some.inj h
      exact .nil s
  | cons a as ih =>
    rw [List.foldlM_cons, Option.bind_eq_bind, Option.bind_eq_some_iff]
    constructor
    · rintro (_ | ⟨hs, hr⟩)
      exact ⟨_, hs, ih.1 hr⟩
    · rintro ⟨u, hs, hr⟩
      exact .cons hs (ih.2 hr)

/-! ## Step functions -/

section Exec

variable (f : σ → α → σ) (Q : σ → α → Prop)

def exec (s : σ) (as : List α) : σ := as.foldl f s

/-- every step of the run from s labelled as meets Q, in the state before it -/
def Along (s : σ) : List α → Prop
  | [] => True
  | a :: as => Q s a ∧ Along (f s a) as

instance decidableAlong [∀ s a, Decidable (Q s a)] (s : σ) : (as : List α) → Decidable (Along f Q s as)
  | [] => isTrue trivial
  | a :: as => @instDecidableAnd _ _ _ (decidableAlong (f s a) as)

variable {f Q}

/-- what every step preserves, every run preserves -/
theorem exec_preserves {P : σ → Prop} (hstep : ∀ s a, P s → P (f s a)) {s : σ} (h0 : P s) (as : List α) :
    P (exec f s as) := by
  induction as generalizing s with
  | nil => exact h0
  | cons a as ih => exact ih (hstep s a h0)

/-- what every step labelled by one of them preserves, a run labelled as preserves -/
theorem exec_labels {P : σ → Prop} {as : List α} (hstep : ∀ s, ∀ a ∈ as, P s → P (f s a)) {s : σ} (h0 : P s) :
    P (exec f s as) := by
  induction as generalizing s with
  | nil => exact h0
  | cons a as ih =>
    have hfirst : P (f s a) := hstep s a List.mem_cons_self h0
    exact ih (fun s b hb => hstep s b (List.mem_cons_of_mem a hb)) hfirst

/-- what every step that meets Q preserves, a run whose steps meet Q preserves -/
theorem exec_inv {P : σ → Prop} (hstep : ∀ s a, P s → Q s a → P (f s a)) {s : σ} (h0 : P s) :
    ∀ as, Along f Q s as → P (exec f s as) := by
  intro as
  induction as generalizing s with
  | nil => exact fun _ => h0
  | cons a as ih => exact fun h => ih (hstep s a h0 h.1) h.2

theorem exec_append (s : σ) (as bs : List α) : exec f s (as ++ bs) = exec f (exec f s as) bs := List.foldl_append

theorem along_append (s : σ) (as bs : List α) :
    Along f Q s (as ++ bs) ↔ Along f Q s as ∧ Along f Q (exec f s as) bs := by
  induction as generalizing s with
  | nil => simp [Along, exec]
  | cons a as ih =>
    rw [List.cons_append, Along, Along, ih, and_assoc]
    rfl

/-- the steps of a run, one by one -/
theorem along_iff (s : σ) (as : List α) :
    Along f Q s as ↔ ∀ before a after, as = before ++ a :: after → Q (exec f s before) a := by
  constructor
  · rintro h before a after rfl
    exact ((along_append s before (a :: after)).1 h).2.1
  · intro h
    induction as generalizing s with
    | nil => trivial
    | cons a as ih =>
      refine ⟨h [] a as rfl, ih (f s a) fun before b after has => ?_⟩
      exact h (a :: before) b after (by rw [has]; rfl)

theorem along_and {R : σ → α → Prop} {s : σ} {as : List α} (h : Along f Q s as) (h' : Along f R s as) :
    Along f (fun s a => Q s a ∧ R s a) s as := by
  rw [along_iff] at h h' ⊢
  exact fun before a after has => ⟨h before a after has, h' before a after has⟩

theorem along_imp {R : σ → α → Prop} (himp : ∀ s a, Q s a → R s a) {s : σ} {as : List α} (h : Along f Q s as) :
    Along f R s as := by
  rw [along_iff] at h ⊢
  exact fun before a after has => himp _ a (h before a after has)

/-- what holds at the end of a run and did not at its start, has held since some step -/
theorem exec_since {P : σ → Prop} {s : σ} (h0 : ¬ P s) (as : List α) (h : P (exec f s as)) :
    ∃ before a between, as = before ++ a :: between ∧ ¬ P (exec f s before) ∧
      ∀ first rest, between = first ++ rest → P (exec f s (before ++ a :: first)) := by
  induction as using List.reverseRecOn with
  | nil => exact absurd h h0
  | append_singleton as a ih =>
    by_cases hlast : P (exec f s as)
    · obtain ⟨before, b, between, rfl, hnot, hsince⟩ := ih hlast
      refine ⟨before, b, between ++ [a], by simp, hnot, fun first rest hsplit => ?_⟩
      rcases List.eq_nil_or_concat rest with rfl | ⟨rest, c, rfl⟩
      · rw [List.append_nil] at hsplit
        rw [← hsplit]
        simpa using h
      · rw [List.concat_eq_append, ← List.append_assoc] at hsplit
        exact hsince first rest (List.append_inj_left' hsplit rfl)
    · refine ⟨as, a, [], rfl, hlast, fun first rest hsplit => ?_⟩
      rw [(List.append_eq_nil_iff.1 hsplit.symm).1]
      exact h

/-- two step functions that agree on the steps of a run of one of them -/
theorem exec_congr {I : σ → Prop} {g : σ → α → σ} (hinv : ∀ s a, I s → Q s a → I (f s a))
    (heq : ∀ s a, I s → Q s a → g s a = f s a) {s : σ} (h0 : I s) {as : List α} (h : Along f Q s as) :
    exec g s as = exec f s as := by
  induction as generalizing s with
  | nil => rfl
  | cons a as ih =>
    calc exec g s (a :: as)
        = exec g (g s a) as := rfl
      _ = exec g (f s a) as := by rw [heq s a h0 h.1]
      _ = exec f (f s a) as := ih (hinv s a h0 h.1) h.2

/-- the states of a run, by its first step -/
theorem forall_exec_cons {P : σ → Prop} (s : σ) (a : α) (as : List α) :
    (∀ before after, a :: as = before ++ after → P (exec f s before)) ↔
      P s ∧ ∀ before after, as = before ++ after → P (exec f (f s a) before) := by
  constructor
  · intro h
    refine ⟨h [] (a :: as) rfl, fun before after has => ?_⟩
    exact h (a :: before) after (by rw [has]; rfl)
  · intro h before after has
    rcases before with _ | ⟨b, before⟩
    · exact h.1
    · obtain ⟨rfl, htail⟩ := List.cons.inj has
      exact h.2 before after htail

theorem forall_exec_nil {P : σ → Prop} (s : σ) :
    (∀ before after, ([] : List α) = before ++ after → P (exec f s before)) ↔ P s := by
  constructor
  · exact fun h => h [] [] rfl
  · intro h before after has
    rw [(List.append_eq_nil_iff.1 has.symm).1]
    exact h

/-- `never_bad_iff` for a step function: the states of a run are good exactly when its steps meet Q -/
theorem always_iff {I Good : σ → Prop} (hinv : ∀ s a, I s → I (f s a))
    (hiff : ∀ s a, I s → Good s → (Good (f s a) ↔ Q s a)) {s : σ} (h0 : I s) (hg : Good s) (as : List α) :
    (∀ before after, as = before ++ after → Good (exec f s before)) ↔ Along f Q s as := by
  induction as generalizing s with
  | nil => exact (forall_exec_nil s).trans (iff_of_true hg trivial)
  | cons a as ih =>
    rw [forall_exec_cons, and_iff_right hg, Along]
    constructor
    · intro h
      have hnext : Good (f s a) := h [] as rfl
      exact ⟨(hiff s a h0 hg).1 hnext, (ih (hinv s a h0) hnext).1 h⟩
    · intro hall
      exact (ih (hinv s a h0) ((hiff s a h0 hg).2 hall.1)).2 hall.2

/-- what a step keeps exactly when it meets Q, a run keeps exactly when its steps meet Q -/
theorem exec_iff {I P : σ → Prop} (hinv : ∀ s a, I s → I (f s a)) (hiff : ∀ s a, I s → (P (f s a) ↔ P s ∧ Q s a))
    {s : σ} (h0 : I s) (as : List α) : P (exec f s as) ↔ P s ∧ Along f Q s as := by
  induction as generalizing s with
  | nil => exact (and_iff_left trivial).symm
  | cons a as ih =>
    calc P (exec f (f s a) as)
        ↔ P (f s a) ∧ Along f Q (f s a) as := ih (hinv s a h0)
      _ ↔ (P s ∧ Q s a) ∧ Along f Q (f s a) as := and_congr_left' (hiff s a h0)
      _ ↔ P s ∧ Along f Q s (a :: as) := and_assoc

/-- conditions that agree on the steps of a run, where an invariant holds -/
theorem along_congr {I : σ → Prop} {W R : σ → α → Prop} (hinv : ∀ s a, I s → W s a → I (f s a))
    (hiff : ∀ s a, I s → W s a → (Q s a ↔ R s a)) {s : σ} {as : List α} (h0 : I s) (hw : Along f W s as) :
    Along f Q s as ↔ Along f R s as := by
  induction as generalizing s with
  | nil => exact Iff.rfl
  | cons a as ih => exact and_congr (hiff s a h0 hw.1) (ih (hinv s a h0 hw.1) hw.2)

/-- conditions that agree where an invariant holds that one of them keeps -/
theorem along_congr_inv {I : σ → Prop} {R : σ → α → Prop} (hinv : ∀ s a, I s → R s a → I (f s a))
    (hiff : ∀ s a, I s → (Q s a ↔ R s a)) {s : σ} (h0 : I s) (as : List α) :
    Along f Q s as ↔ Along f R s as := by
  induction as generalizing s with
  | nil => exact Iff.rfl
  | cons a as ih =>
    rw [Along, Along, hiff s a h0]
    exact and_congr_right fun hr => ih (hinv s a h0 hr)

end Exec

end Runs
