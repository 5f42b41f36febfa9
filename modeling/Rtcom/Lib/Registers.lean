/-
A fold whose inputs overwrite registers. An input either makes the fold fail, whatever came before, or sets some
registers and leaves the others.

- `Overwrites.foldlM_ok_iff`: the fold succeeds exactly when no input makes it fail.
- `Overwrites.get_foldlM`: then a register holds the last value it was set to.
- `last_eq_iff`: when this is the last value that is valid.
-/
import Mathlib.Tactic

namespace Registers

variable {ε σ ι κ α β : Type*}

/-- f fails on the inputs that are not good, and sets the registers that `write` says -/
structure Overwrites (f : σ → ι → Except ε σ) (Good : ι → Prop) (get : κ → σ → α) (write : κ → ι → Option α) :
    Prop where
  ok_iff : ∀ s i, (∃ t, f s i = .ok t) ↔ Good i
  get_eq : ∀ {s i t}, f s i = .ok t → ∀ k, get k t = (write k i).getD (get k s)

variable {f : σ → ι → Except ε σ} {Good : ι → Prop} {get : κ → σ → α} {write : κ → ι → Option α}

/-- the first input, then the others -/
theorem foldlM_cons_eq_ok {s t : σ} {i : ι} {is : List ι} :
    (i :: is).foldlM f s = .ok t ↔ ∃ u, f s i = .ok u ∧ is.foldlM f u = .ok t := by
  rw [List.foldlM_cons]
  cases h : f s i with
  | error e => exact iff_of_false nofun (by rintro ⟨u, habs, -⟩; cases habs)
  | ok u =>
    refine ⟨fun hrest => ⟨u, rfl, hrest⟩, ?_⟩
    rintro ⟨u', hu, hrest⟩
    obtain rfl := Except.ok.inj hu
    exact hrest

theorem Overwrites.foldlM_ok_iff (h : Overwrites f Good get write) (s : σ) (is : List ι) :
    (∃ t, is.foldlM f s = .ok t) ↔ ∀ i ∈ is, Good i := by
  induction is generalizing s with
  | nil => exact iff_of_true ⟨s, rfl⟩ (List.forall_mem_nil _)
  | cons i is ih =>
    rw [List.forall_mem_cons, ← h.ok_iff s i]
    refine ⟨?_, ?_⟩
    · rintro ⟨t, ht⟩
      obtain ⟨u, hu, hrest⟩ := foldlM_cons_eq_ok.1 ht
      exact ⟨⟨u, hu⟩, (ih u).1 ⟨t, hrest⟩⟩
    · rintro ⟨⟨u, hu⟩, hall⟩
      obtain ⟨t, ht⟩ := (ih u).2 hall
      exact ⟨t, foldlM_cons_eq_ok.2 ⟨u, hu, ht⟩⟩

/-- the last value that a register was set to -/
theorem Overwrites.get_foldlM (h : Overwrites f Good get write) {s t : σ} {is : List ι} (ht : is.foldlM f s = .ok t)
    (k : κ) : get k t = (is.filterMap (write k)).getLast?.getD (get k s) := by
  induction is generalizing s with
  | nil =>
    obtain rfl := Except.ok.inj ht
    rfl
  | cons i is ih =>
    obtain ⟨u, hu, hrest⟩ := foldlM_cons_eq_ok.1 ht
    rw [ih hrest, h.get_eq hu k]
    cases hi : write k i with
    | none =>
      rw [List.filterMap_cons_none hi]
      rfl
    | some a =>
      rw [List.filterMap_cons_some hi, List.getLast?_cons]
      rfl

/-- what the last input is converted to, and the last valid one: the same if the last input is valid, or else by
chance -/
theorem last_eq_iff {conv : β → α} {valid : β → Option α} {bs : List β} (d : α)
    (hvalid : ∀ b ∈ bs, ∀ a ∈ valid b, conv b = a) :
    (bs.map conv).getLast?.getD d = (bs.filterMap valid).getLast?.getD d ↔
      ∀ b ∈ bs.getLast?, (valid b).isSome ∨ conv b = (bs.filterMap valid).getLast?.getD d := by
  rcases List.eq_nil_or_concat bs with rfl | ⟨bs, b, rfl⟩
  · exact iff_of_true rfl nofun
  · have hlast : ∀ b' ∈ (bs ++ [b]).getLast?, b' = b := by
      intro b' hb'
      rw [List.getLast?_concat] at hb'
      exact (Option.mem_some_iff.1 hb').symm
    have hconv : ((bs ++ [b]).map conv).getLast?.getD d = conv b := by
      rw [List.map_append, List.map_singleton, List.getLast?_concat, Option.getD_some]
    rw [List.concat_eq_append, hconv]
    refine ⟨?_, ?_⟩
    · intro heq b' hb'
      rw [hlast b' hb']
      exact Or.inr heq
    · intro h
      rcases h b List.getLast?_concat with hsome | heq
      · obtain ⟨a, ha⟩ := Option.isSome_iff_exists.1 hsome
        rw [hvalid b (by simp) a ha, List.filterMap_append, List.filterMap_cons_some ha, List.filterMap_nil,
          List.getLast?_concat, Option.getD_some]
      · exact heq

end Registers
