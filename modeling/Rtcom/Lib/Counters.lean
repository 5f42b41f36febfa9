/-
A counter that numbers what a run gives out. A step gives out at most one number, the next of the counter; some steps
take it (the counter advances), others only look at it.

`outputs` is what the steps of a run give out, in order. `Numbered` says what the steps do up to a bound. The numbers of
a run that stays below the bound are strictly increasing exactly when nothing is given out after a step that only
looked (`Numbered.increasing_iff`); nothing less keeps them apart (`Numbered.nodup_iff`).
-/
import Mathlib.Tactic
import Rtcom.Lib.Runs

namespace Counters

open Runs

variable {σ α β γ : Type*} (f : σ → α → σ)

/-- what the steps of the run from s give out -/
def outputs (out : σ → α → Option β) (s : σ) : List α → List β
  | [] => []
  | a :: as => (out s a).toList ++ outputs out (f s a) as

theorem outputs_map (out : σ → α → Option β) (g : β → γ) (s : σ) (as : List α) :
    outputs f (fun s a => (out s a).map g) s as = (outputs f out s as).map g := by
  induction as generalizing s with
  | nil => rfl
  | cons a as ih =>
    rw [outputs, outputs, ih, List.map_append]
    cases out s a <;> rfl

/-- below the bound, a step that issues gives out the next number of the counter c, and takes it unless it only
peeks -/
structure Numbered (out : σ → α → Option ℕ) (c : σ → ℕ) (Issues : σ → α → Prop) (Peeks : α → Prop) (bound : ℕ) :
    Prop where
  out_issues : ∀ s a, c s < bound → Issues s a → out s a = some (c s + 1)
  out_none : ∀ s a, ¬ Issues s a → out s a = none
  take : ∀ s a, c s < bound → Issues s a → ¬ Peeks a → c (f s a) = c s + 1
  peek : ∀ s a, Issues s a → Peeks a → c (f s a) = c s
  keep : ∀ s a, ¬ Issues s a → c (f s a) = c s

/-- nothing is given out after a step that only looked -/
def PeeksLast (Issues : σ → α → Prop) (Peeks : α → Prop) (s : σ) (as : List α) : Prop :=
  ∀ before a after, as = before ++ a :: after → Peeks a → Issues (exec f s before) a →
    Along f (fun s a => ¬ Issues s a) (f (exec f s before) a) after

variable {f} {out : σ → α → Option ℕ} {c : σ → ℕ} {Issues : σ → α → Prop} {Peeks : α → Prop} {bound : ℕ}

theorem peeksLast_nil (s : σ) : PeeksLast f Issues Peeks s [] := by
  intro before a after has
  cases before <;> cases has

theorem peeksLast_cons (s : σ) (a : α) (as : List α) : PeeksLast f Issues Peeks s (a :: as) ↔
    (Peeks a → Issues s a → Along f (fun s a => ¬ Issues s a) (f s a) as) ∧ PeeksLast f Issues Peeks (f s a) as := by
  refine ⟨?_, ?_⟩
  · intro h
    refine ⟨h [] a as rfl, fun before b after has => ?_⟩
    exact h (a :: before) b after (by rw [has]; rfl)
  · rintro ⟨hhead, htail⟩ before b after has
    rcases before with _ | ⟨d, before⟩
    · obtain ⟨rfl, rfl⟩ := List.cons.inj has
      exact hhead
    · obtain ⟨rfl, rfl⟩ := List.cons.inj has
      exact htail before b after rfl

namespace Numbered

variable (h : Numbered f out c Issues Peeks bound)
include h

theorem step_le {s : σ} (hs : c s < bound) (a : α) : c s ≤ c (f s a) ∧ c (f s a) ≤ c s + 1 := by
  by_cases hissues : Issues s a
  · by_cases hpeeks : Peeks a
    · rw [h.peek s a hissues hpeeks]
      exact ⟨le_rfl, Nat.le_succ _⟩
    · rw [h.take s a hs hissues hpeeks]
      exact ⟨Nat.le_succ _, le_rfl⟩
  · rw [h.keep s a hissues]
    exact ⟨le_rfl, Nat.le_succ _⟩

/-- the bound for the rest of a run -/
theorem rest_le {s : σ} {a : α} {as : List α} (hb : c s + (a :: as).length ≤ bound) :
    c s < bound ∧ c (f s a) + as.length ≤ bound := by
  rw [List.length_cons] at hb
  have hs : c s < bound := by omega
  have hstep := (h.step_le hs a).2
  exact ⟨hs, by omega⟩

theorem outputs_issues {s : σ} {a : α} (hs : c s < bound) (hissues : Issues s a) (as : List α) :
    outputs f out s (a :: as) = (c s + 1) :: outputs f out (f s a) as := by
  rw [outputs, h.out_issues s a hs hissues]
  rfl

theorem outputs_none {s : σ} {a : α} (hissues : ¬ Issues s a) (as : List α) :
    outputs f out s (a :: as) = outputs f out (f s a) as := by
  rw [outputs, h.out_none s a hissues]
  rfl

theorem outputs_gt (as : List α) {s : σ} (hb : c s + as.length ≤ bound) : ∀ n ∈ outputs f out s as, c s < n := by
  induction as generalizing s with
  | nil => exact fun n hn => absurd hn List.not_mem_nil
  | cons a as ih =>
    obtain ⟨hs, hrest⟩ := h.rest_le hb
    have htail : ∀ n ∈ outputs f out (f s a) as, c s < n := fun n hn => (h.step_le hs a).1.trans_lt (ih hrest n hn)
    by_cases hissues : Issues s a
    · rw [h.outputs_issues hs hissues, List.forall_mem_cons]
      exact ⟨Nat.lt_succ_self _, htail⟩
    · rw [h.outputs_none hissues]
      exact htail

/-- the first number given out is the next of the counter -/
theorem next_mem_outputs (as : List α) {s : σ} (hb : c s + as.length ≤ bound)
    (hnot : ¬ Along f (fun s a => ¬ Issues s a) s as) : c s + 1 ∈ outputs f out s as := by
  induction as generalizing s with
  | nil => exact absurd trivial hnot
  | cons a as ih =>
    obtain ⟨hs, hrest⟩ := h.rest_le hb
    by_cases hissues : Issues s a
    · rw [h.outputs_issues hs hissues]
      exact List.mem_cons_self
    · rw [h.outputs_none hissues, ← h.keep s a hissues]
      exact ih hrest fun hall => hnot ⟨hissues, hall⟩

theorem outputs_eq_nil (as : List α) {s : σ} (hall : Along f (fun s a => ¬ Issues s a) s as) :
    outputs f out s as = [] := by
  induction as generalizing s with
  | nil => rfl
  | cons a as ih => rw [h.outputs_none hall.1, ih hall.2]

theorem increasing_of (as : List α) {s : σ} (hb : c s + as.length ≤ bound) (hlast : PeeksLast f Issues Peeks s as) :
    (outputs f out s as).Pairwise (· < ·) := by
  induction as generalizing s with
  | nil => exact .nil
  | cons a as ih =>
    obtain ⟨hs, hrest⟩ := h.rest_le hb
    obtain ⟨hhead, htail⟩ := (peeksLast_cons s a as).1 hlast
    by_cases hissues : Issues s a
    · rw [h.outputs_issues hs hissues, List.pairwise_cons]
      refine ⟨?_, ih hrest htail⟩
      by_cases hpeeks : Peeks a
      · rw [h.outputs_eq_nil as (hhead hpeeks hissues)]
        exact fun n hn => absurd hn List.not_mem_nil
      · have hgt := h.outputs_gt as hrest
        rwa [h.take s a hs hissues hpeeks] at hgt
    · rw [h.outputs_none hissues]
      exact ih hrest htail

theorem peeksLast_of_nodup (as : List α) {s : σ} (hb : c s + as.length ≤ bound) (hnodup : (outputs f out s as).Nodup) :
    PeeksLast f Issues Peeks s as := by
  induction as generalizing s with
  | nil => exact peeksLast_nil s
  | cons a as ih =>
    obtain ⟨hs, hrest⟩ := h.rest_le hb
    rw [peeksLast_cons]
    by_cases hissues : Issues s a
    · rw [h.outputs_issues hs hissues, List.nodup_cons] at hnodup
      refine ⟨fun hpeeks _ => ?_, ih hrest hnodup.2⟩
      -- the number that was only looked at is the first of the rest
      by_contra hnot
      have hnext := h.next_mem_outputs as hrest hnot
      rw [h.peek s a hissues hpeeks] at hnext
      exact hnodup.1 hnext
    · rw [h.outputs_none hissues] at hnodup
      exact ⟨fun _ habs => absurd habs hissues, ih hrest hnodup⟩

theorem increasing_iff (as : List α) {s : σ} (hb : c s + as.length ≤ bound) :
    (outputs f out s as).Pairwise (· < ·) ↔ PeeksLast f Issues Peeks s as :=
  ⟨fun hlt => h.peeksLast_of_nodup as hb (hlt.imp fun hn => hn.ne), h.increasing_of as hb⟩

theorem nodup_iff (as : List α) {s : σ} (hb : c s + as.length ≤ bound) :
    (outputs f out s as).Nodup ↔ PeeksLast f Issues Peeks s as :=
  ⟨h.peeksLast_of_nodup as hb, fun hlast => (h.increasing_of as hb hlast).imp fun hn => hn.ne⟩

end Numbered

end Counters
