/-
A sorting routine of a standard library, known by its contract only: `StdSort key` returns a permutation of its input
in ascending order of a key. Nothing is said about elements with equal keys, so a fact proved for every `StdSort` holds
for stable and unstable routines alike.

- `mem_sort`: the elements are the same.
- `strict`: where no two keys are equal, the result is in strictly ascending order.
- `map_sort_eq`: what all routines agree on where elements with equal keys show the same.
- `insertion`: insertion sort meets the contract, and is stable (`filter_insertion`); `exists_last`: some routine puts a
  given element behind all others with its key.
-/
import Mathlib.Data.List.Sort
import Mathlib.Tactic

structure StdSort {α κ : Type} [LinearOrder κ] (key : α → κ) where
  sort : List α → List α
  perm : ∀ l, (sort l).Perm l
  ordered : ∀ l, (sort l).Pairwise fun a b => key a ≤ key b

namespace StdSort

variable {α κ : Type} [LinearOrder κ] {key : α → κ} (S : StdSort key)

@[simp] theorem mem_sort {l : List α} {a : α} : a ∈ S.sort l ↔ a ∈ l := (S.perm l).mem_iff

theorem strict {l : List α} (h : l.Pairwise fun a b => key a ≠ key b) :
    (S.sort l).Pairwise fun a b => key a < key b := by
  have hne : (S.sort l).Pairwise fun a b => key a ≠ key b :=
    (S.perm l).pairwise_iff (fun hab => hab.symm) |>.2 h
  exact (S.ordered l).imp₂ (fun _ _ hle hne => lt_of_le_of_ne hle hne) hne

/-- **What all routines agree on**: what the elements show, where those with equal keys show the same -/
theorem map_sort_eq (T : StdSort key) {β : Type} (view : α → β) (key' : β → κ) (hkey : ∀ a, key' (view a) = key a)
    {l : List α} (h : ∀ a ∈ l, ∀ b ∈ l, key a = key b → view a = view b) :
    (S.sort l).map view = (T.sort l).map view := by
  have hordered : ∀ R : StdSort key, ((R.sort l).map view).Pairwise fun x y => key' x ≤ key' y := by
    intro R
    rw [List.pairwise_map]
    simpa only [hkey] using R.ordered l
  have hperm : ((S.sort l).map view).Perm ((T.sort l).map view) := ((S.perm l).trans (T.perm l).symm).map view
  refine hperm.eq_of_pairwise (fun x y hx hy hle hge => ?_) (hordered S) (hordered T)
  obtain ⟨a, ha, rfl⟩ := List.mem_map.1 hx
  obtain ⟨b, hb, rfl⟩ := List.mem_map.1 hy
  rw [hkey, hkey] at hle hge
  exact h a (S.mem_sort.1 ha) b (T.mem_sort.1 hb) (le_antisymm hle hge)

/-- insertion sort -/
def insertion (key : α → κ) : StdSort key where
  sort l := l.insertionSort fun a b => key a ≤ key b
  perm l := List.perm_insertionSort _ l
  ordered l := List.pairwise_insertionSort _ l

/-- insertion sort leaves elements with equal keys as they were -/
theorem filter_insertion (l : List α) (k : κ) :
    ((insertion key).sort l).filter (fun a => key a = k) = l.filter fun a => key a = k := by
  have hequal : (l.filter fun a => key a = k).Pairwise fun a b => key a ≤ key b := by
    rw [List.pairwise_filter]
    refine List.pairwise_of_forall fun a b ha hb => ?_
    rw [of_decide_eq_true ha, of_decide_eq_true hb]
  have hsub := (List.sublist_insertionSort hequal List.filter_sublist).filter fun a => key a = k
  rw [List.filter_filter] at hsub
  simp only [Bool.and_self] at hsub
  exact (hsub.eq_of_length (((insertion key).perm l).filter _).length_eq.symm).symm

open Classical in
/-- insertion sort, but for one list, which is rearranged first -/
noncomputable def arranging (key : α → κ) {l m : List α} (h : m.Perm l) : StdSort key where
  sort x := if x = l then (insertion key).sort m else (insertion key).sort x
  perm x := by
    split_ifs with hx
    · exact hx ▸ ((insertion key).perm m).trans h
    · exact (insertion key).perm x
  ordered x := by
    split_ifs
    · exact (insertion key).ordered m
    · exact (insertion key).ordered x

/-- **Any element may come last** among those with its key -/
theorem exists_last {l : List α} {a : α} (h : a ∈ l) {k : κ} (hk : key a = k) :
    ∃ S : StdSort key, ((S.sort l).filter fun b => key b = k).getLast? = some a := by
  subst hk
  obtain ⟨before, after, rfl⟩ := List.append_of_mem h
  have hperm : (before ++ after ++ [a]).Perm (before ++ a :: after) := by
    refine (List.perm_append_singleton a (before ++ after)).trans ?_
    exact List.perm_middle.symm
  refine ⟨arranging key hperm, ?_⟩
  have hsort : (arranging key hperm).sort (before ++ a :: after) = (insertion key).sort (before ++ after ++ [a]) :=
    if_pos rfl
  rw [hsort, filter_insertion, List.filter_append, List.filter_singleton]
  simp

end StdSort
