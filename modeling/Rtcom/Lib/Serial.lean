/-
Serial number arithmetic: numbers of a fixed width that count on from the greatest to 0. Of two numbers the later one is
reached from the other by a forward step of less than half the space; numbers half the space apart are not comparable.

- `Before`, `Oldest`: this order, and the number of a list that all others equal or follow.
- `InWindow`: a list of numbers inside a window of fewer than half the space, where any two are comparable.
- `oldest_min_iff`: the least number of a list is its oldest exactly when the list has no two numbers half the space or
  more apart (`Near`).
- `toInt_sub_ofInt`, `toNat_sub_ofInt`: integers stand for numbers (extended numbers); their distance, read off the
  numbers as a signed or an unsigned number.
-/
import Mathlib.Tactic

namespace Serial

variable {w : ℕ} {a b : BitVec (w + 1)} {l : List (BitVec (w + 1))}

def Before (a b : BitVec (w + 1)) : Prop := a ≠ b ∧ (b - a).toNat < 2 ^ w

def Oldest (a : BitVec (w + 1)) (l : List (BitVec (w + 1))) : Prop := ∀ b ∈ l, b = a ∨ Before a b

def InWindow (l : List (BitVec (w + 1))) : Prop := ∃ base, ∀ a ∈ l, (a - base).toNat < 2 ^ w - 1

def Near (l : List (BitVec (w + 1))) : Prop := ∀ a ∈ l, ∀ b ∈ l, b.toNat < a.toNat + 2 ^ w

instance : Decidable (Before a b) := inferInstanceAs (Decidable (a ≠ b ∧ (b - a).toNat < 2 ^ w))

-- not by trying all bit vectors
instance : Decidable (Oldest a l) := List.decidableBAll (fun b => b = a ∨ Before a b) l

/-- above a number, those less than half the space away are the later ones -/
theorem eq_or_before_iff (h : a.toNat ≤ b.toNat) : b = a ∨ Before a b ↔ b.toNat < a.toNat + 2 ^ w := by
  have hsub : (b - a).toNat = b.toNat - a.toNat := BitVec.toNat_sub_of_le h
  have hpos : 0 < 2 ^ w := Nat.two_pow_pos w
  rw [Before, hsub]
  constructor
  · intro hcases
    rcases hcases with rfl | ⟨-, hlt⟩
    · omega
    · omega
  · intro hlt
    by_cases heq : b = a
    · exact Or.inl heq
    · exact Or.inr ⟨fun hba => heq hba.symm, by omega⟩

/-- **Least and oldest** agree as long as the numbers are near each other -/
theorem oldest_min_iff (ha : a ∈ l) (hmin : ∀ b ∈ l, a.toNat ≤ b.toNat) : Oldest a l ↔ Near l := by
  constructor
  · intro h c hc b hb
    have hab := (eq_or_before_iff (hmin b hb)).1 (h b hb)
    have hac := hmin c hc
    omega
  · intro h b hb
    exact (eq_or_before_iff (hmin b hb)).2 (h a ha b hb)

/-- nearness is about which numbers occur -/
theorem near_congr {l' : List (BitVec (w + 1))} (h : ∀ a, a ∈ l ↔ a ∈ l') : Near l ↔ Near l' := by
  simp only [Near, h]

/-! ## Extended numbers -/

theorem ofInt_sub {n : ℕ} (s e : ℤ) : BitVec.ofInt n (s - e) = BitVec.ofInt n s - BitVec.ofInt n e := by
  apply BitVec.eq_of_toInt_eq
  rw [BitVec.toInt_sub, BitVec.toInt_ofInt, BitVec.toInt_ofInt, BitVec.toInt_ofInt, Int.bmod_sub_bmod,
    Int.sub_bmod_bmod]

/-- less than half the space apart, or just half of it backwards -/
theorem toInt_sub_ofInt {s e : ℤ} (hlow : -2 ^ w ≤ s - e) (hhigh : s - e < 2 ^ w) :
    (BitVec.ofInt (w + 1) s - BitVec.ofInt (w + 1) e).toInt = s - e := by
  have hpow : ((2 ^ (w + 1) : ℕ) : ℤ) = 2 ^ w * 2 := by
    push_cast
    rw [pow_succ]
  rw [← ofInt_sub, BitVec.toInt_ofInt]
  exact Int.bmod_eq_of_le (by omega) (by omega)

theorem toNat_sub_ofInt {n : ℕ} (s e : ℤ) :
    ((BitVec.ofInt n s - BitVec.ofInt n e).toNat : ℤ) = (s - e) % 2 ^ n := by
  rw [← ofInt_sub, BitVec.toNat_ofInt, Int.toNat_of_nonneg (Int.emod_nonneg _ (by positivity))]
  push_cast
  rfl

end Serial
