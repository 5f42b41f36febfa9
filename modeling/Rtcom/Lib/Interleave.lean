/-
Interleavings of a family of sequences, one for each key, and state machines in which inputs of different keys do not
interfere.

`Local f key view react`: what is seen of a key changes only with the inputs of that key, and each input determines what
is seen next from what was seen before. Then a run shows of a key what the inputs of that key alone show
(`Local.view_exec`), in whatever way they are interleaved with others (`Local.view_interleaving`).

`Product f seen view react`: a machine whose inputs are, for each key, a sequence of inputs to a machine of its own;
what they are may depend on the state. Then a run shows of each key the run of its own machine (`Product.view_exec`).
-/
import Mathlib.Tactic
import Rtcom.Lib.Runs

namespace Interleave

open Runs

variable {ι α σ ω : Type*} [DecidableEq ι]

/-- the list takes its elements from the fronts of the sequences, in any order, until all are used up -/
inductive Interleaving : (ι → List α) → List α → Prop
  | nil {seqs : ι → List α} : (∀ i, seqs i = []) → Interleaving seqs []
  | cons {seqs : ι → List α} {i : ι} {a : α} {rest all : List α} : seqs i = a :: rest →
      Interleaving (Function.update seqs i rest) all → Interleaving seqs (a :: all)

/-- where every element has the key of its sequence, an interleaving keeps each sequence -/
theorem Interleaving.filter_eq {key : α → ι} {seqs : ι → List α} {all : List α} (h : Interleaving seqs all)
    (hkey : ∀ i, ∀ a ∈ seqs i, key a = i) (i : ι) : all.filter (fun a => key a = i) = seqs i := by
  induction h with
  | nil hempty => exact (hempty i).symm
  | @cons seqs j a rest all hj _ ih =>
    have ha : key a = j := hkey j a (by rw [hj]; exact List.mem_cons_self)
    have hrest : ∀ i, ∀ b ∈ Function.update seqs j rest i, key b = i := by
      intro i b hb
      by_cases hi : i = j
      · subst hi
        rw [Function.update_self] at hb
        exact hkey i b (by rw [hj]; exact List.mem_cons_of_mem a hb)
      · rw [Function.update_of_ne hi] at hb
        exact hkey i b hb
    have hih := ih hrest
    by_cases hi : i = j
    · subst hi
      rw [List.filter_cons_of_pos (by simpa using ha), hih, Function.update_self, hj]
    · have hne : key a ≠ i := fun hai => hi (hai.symm.trans ha)
      rw [List.filter_cons_of_neg (by simpa using hne), hih, Function.update_of_ne hi]

/-! ## Machines without interference -/

/-- from the states where I holds, which it does ever after -/
structure Local (I : σ → Prop) (f : σ → α → σ) (key : α → ι) (view : ι → σ → ω) (react : α → ω → ω) : Prop where
  invariant : ∀ s a, I s → I (f s a)
  view_step : ∀ s a i, I s → view i (f s a) = if key a = i then react a (view i s) else view i s

namespace Local

variable {I : σ → Prop} {f : σ → α → σ} {key : α → ι} {view : ι → σ → ω} {react : α → ω → ω}

theorem view_exec (h : Local I f key view react) (i : ι) {s : σ} (hs : I s) (as : List α) :
    view i (exec f s as) = (as.filter fun a => key a = i).foldl (fun v a => react a v) (view i s) := by
  induction as generalizing s with
  | nil => rfl
  | cons a as ih =>
    have hstep := h.view_step s a i hs
    show view i (exec f (f s a) as) = _
    rw [ih (h.invariant s a hs), hstep]
    by_cases ha : key a = i
    · rw [if_pos ha, List.filter_cons_of_pos (by simpa using ha), List.foldl_cons]
    · rw [if_neg ha, List.filter_cons_of_neg (by simpa using ha)]

/-- **No interference**: what a run shows of a key is what the inputs of that key show alone -/
theorem view_interleaving (h : Local I f key view react) {s : σ} (hs : I s) {seqs : ι → List α} {all : List α}
    (hall : Interleaving seqs all) (hkey : ∀ i, ∀ a ∈ seqs i, key a = i) (i : ι) :
    view i (exec f s all) = view i (exec f s (seqs i)) := by
  have hown : (seqs i).filter (fun a => key a = i) = seqs i := by
    rw [List.filter_eq_self]
    exact fun a ha => by simpa using hkey i a ha
  rw [h.view_exec i hs, h.view_exec i hs, hall.filter_eq hkey, hown]

/-- inputs of different keys commute, as far as is seen of any key -/
theorem view_comm (h : Local I f key view react) {s : σ} (hs : I s) {a b : α} (hab : key a ≠ key b) (i : ι) :
    view i (f (f s a) b) = view i (f (f s b) a) := by
  rw [h.view_step _ b i (h.invariant s a hs), h.view_step _ a i hs, h.view_step _ a i (h.invariant s b hs),
    h.view_step _ b i hs]
  by_cases ha : key a = i
  · have hb : key b ≠ i := fun hb => hab (ha.trans hb.symm)
    simp only [if_pos ha, if_neg hb]
  · simp only [if_neg ha]

end Local

/-! ## Products -/

variable {β : Type*}

/-- what a key is given in a run -/
def trace (f : σ → α → σ) (seen : σ → ι → α → List β) (i : ι) : σ → List α → List β
  | _, [] => []
  | s, a :: as => seen s i a ++ trace f seen i (f s a) as

/-- the inputs of the machine are, seen from each key, inputs of a machine of its own -/
def Product (f : σ → α → σ) (seen : σ → ι → α → List β) (view : ι → σ → ω) (react : ι → ω → β → ω) : Prop :=
  ∀ s a i, view i (f s a) = exec (react i) (view i s) (seen s i a)

omit [DecidableEq ι] in
/-- **A product**: what a run shows of a key is the run of its own machine -/
theorem Product.view_exec {f : σ → α → σ} {seen : σ → ι → α → List β} {view : ι → σ → ω} {react : ι → ω → β → ω}
    (h : Product f seen view react) (i : ι) (s : σ) (as : List α) :
    view i (exec f s as) = exec (react i) (view i s) (trace f seen i s as) := by
  induction as generalizing s with
  | nil => rfl
  | cons a as ih =>
    rw [trace, exec_append, ← h s a i]
    exact ih (f s a)

omit [DecidableEq ι] in
/-- what holds of all that a key can be given holds of what it is given in a run -/
theorem forall_trace {f : σ → α → σ} {seen : σ → ι → α → List β} {i : ι} {P : β → Prop}
    (h : ∀ s a, ∀ b ∈ seen s i a, P b) (s : σ) (as : List α) : ∀ b ∈ trace f seen i s as, P b := by
  induction as generalizing s with
  | nil => exact fun b hb => absurd hb List.not_mem_nil
  | cons a as ih =>
    intro b hb
    rcases List.mem_append.1 hb with hfirst | hrest
    · exact h s a b hfirst
    · exact ih (f s a) b hrest

omit [DecidableEq ι] in
/-- the part of what a key is given that does not depend on the state -/
theorem filterMap_trace {γ : Type*} {f : σ → α → σ} {seen : σ → ι → α → List β} {i : ι} {part : β → Option γ}
    {own : α → Option γ} (h : ∀ s a, (seen s i a).filterMap part = (own a).toList) (s : σ) (as : List α) :
    (trace f seen i s as).filterMap part = as.filterMap own := by
  rw [List.filterMap_eq_flatMap_toList own]
  induction as generalizing s with
  | nil => rfl
  | cons a as ih => rw [trace, List.filterMap_append, h, ih, List.flatMap_cons]

end Interleave
