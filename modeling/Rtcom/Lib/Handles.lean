/-
Handles that a kernel or a library gives out, and their owners. `Held own opened`: the handles that are open are those
that somebody owns, nobody owns one twice and no two owners share one.

- `Held.acquire`: an owner gets handles that were not open; `Held.release`: an owner closes what it has;
  `Held.give`: an owner hands all it has to another; `Held.clear`: all are closed.
- `Held.owner`: a handle tells its owner.

`Heap`: pointers that hold at most one handle each. `store` overwrites a pointer with what an allocation returned, and
what it held before is leaked; `free` gives it back and makes the pointer null; `move` hands it to another pointer. It
is a fault to free what is not live.

- `Heap.Sound`: the live handles are those of the pointers and those leaked, and nothing has been faulty. `sound_store`,
  `sound_free`, `sound_move`: every operation keeps it, if allocations return what is not live.
- `Sound.live_iff`, `Sound.inj`: what it says of the pointers.
-/
import Mathlib.Tactic

namespace Handles

variable {ι η : Type} [DecidableEq ι] [DecidableEq η]

structure Held (own : ι → List η) (opened : Finset η) : Prop where
  exact : ∀ h, h ∈ opened ↔ ∃ i, h ∈ own i
  apart : ∀ i j h, h ∈ own i → h ∈ own j → i = j
  nodup : ∀ i, (own i).Nodup

namespace Held

variable {own : ι → List η} {opened : Finset η}

omit [DecidableEq ι] [DecidableEq η] in
theorem clear : Held (fun _ : ι => ([] : List η)) ∅ := by
  refine ⟨fun h => ?_, fun _ _ _ h => absurd h List.not_mem_nil, fun _ => List.nodup_nil⟩
  simp

omit [DecidableEq ι] [DecidableEq η] in
theorem mem_opened (h : Held own opened) {i : ι} {x : η} (hx : x ∈ own i) : x ∈ opened := (h.exact x).2 ⟨i, hx⟩

omit [DecidableEq ι] [DecidableEq η] in
/-- a handle that an owner has is nobody else's -/
theorem owner (h : Held own opened) {i : ι} {x : η} (hx : x ∈ own i) (j : ι) : x ∈ own j ↔ j = i := by
  constructor
  · intro hj
    exact h.apart j i x hj hx
  · rintro rfl
    exact hx

omit [DecidableEq η] in
theorem mem_update (i j : ι) (hs : List η) (x : η) :
    x ∈ Function.update own i hs j ↔ j = i ∧ x ∈ hs ∨ j ≠ i ∧ x ∈ own j := by
  by_cases hj : j = i
  · subst hj
    simp
  · simp [hj]

/-- one that owns nothing gets handles that were not open -/
theorem acquire (h : Held own opened) {i : ι} (hi : own i = []) {hs : List η} (hnodup : hs.Nodup)
    (hfresh : ∀ x ∈ hs, x ∉ opened) : Held (Function.update own i hs) (opened ∪ hs.toFinset) := by
  have hnew : ∀ x ∈ hs, ∀ j, x ∉ own j := fun x hx j hj => hfresh x hx (h.mem_opened hj)
  refine ⟨fun x => ?_, fun j k x hj hk => ?_, fun j => ?_⟩
  · rw [Finset.mem_union, List.mem_toFinset, h.exact]
    constructor
    · rintro (⟨j, hj⟩ | hx)
      · have hne : j ≠ i := by
          rintro rfl
          rw [hi] at hj
          cases hj
        exact ⟨j, (mem_update i j hs x).2 (Or.inr ⟨hne, hj⟩)⟩
      · exact ⟨i, (mem_update i i hs x).2 (Or.inl ⟨rfl, hx⟩)⟩
    · rintro ⟨j, hj⟩
      rcases (mem_update i j hs x).1 hj with ⟨-, hx⟩ | ⟨-, hx⟩
      · exact Or.inr hx
      · exact Or.inl ⟨j, hx⟩
  · rcases (mem_update i j hs x).1 hj with ⟨rfl, hx⟩ | ⟨-, hx⟩
    · rcases (mem_update j k hs x).1 hk with ⟨rfl, -⟩ | ⟨-, hx'⟩
      · rfl
      · exact absurd hx' (hnew x hx k)
    · rcases (mem_update i k hs x).1 hk with ⟨-, hx'⟩ | ⟨-, hx'⟩
      · exact absurd hx (hnew x hx' j)
      · exact h.apart j k x hx hx'
  · by_cases hj : j = i
    · subst hj
      rw [Function.update_self]
      exact hnodup
    · rw [Function.update_of_ne hj]
      exact h.nodup j

/-- an owner closes what it has -/
theorem release (h : Held own opened) (i : ι) : Held (Function.update own i []) (opened \ (own i).toFinset) := by
  refine ⟨fun x => ?_, fun j k x hj hk => ?_, fun j => ?_⟩
  · rw [Finset.mem_sdiff, List.mem_toFinset, h.exact]
    constructor
    · rintro ⟨⟨j, hj⟩, hx⟩
      have hne : j ≠ i := fun heq => hx (heq ▸ hj)
      exact ⟨j, (mem_update i j [] x).2 (Or.inr ⟨hne, hj⟩)⟩
    · rintro ⟨j, hj⟩
      rcases (mem_update i j [] x).1 hj with ⟨-, hx⟩ | ⟨hne, hx⟩
      · cases hx
      · exact ⟨⟨j, hx⟩, fun hi => hne (h.apart j i x hx hi)⟩
  · rcases (mem_update i j [] x).1 hj with ⟨-, hx⟩ | ⟨-, hx⟩
    · cases hx
    · rcases (mem_update i k [] x).1 hk with ⟨-, hx'⟩ | ⟨-, hx'⟩
      · cases hx'
      · exact h.apart j k x hx hx'
  · by_cases hj : j = i
    · subst hj
      rw [Function.update_self]
      exact List.nodup_nil
    · rw [Function.update_of_ne hj]
      exact h.nodup j

omit [DecidableEq η] in
/-- an owner hands what it has to another -/
theorem give (h : Held own opened) {i j : ι} (hij : j ≠ i) :
    Held (Function.update (Function.update own i []) j (own j ++ own i)) opened := by
  have hmem : ∀ k x, x ∈ Function.update (Function.update own i []) j (own j ++ own i) k ↔
      k = j ∧ (x ∈ own j ∨ x ∈ own i) ∨ k ≠ j ∧ k ≠ i ∧ x ∈ own k := by
    intro k x
    rw [mem_update, mem_update, List.mem_append]
    simp
  refine ⟨fun x => ?_, fun k l x hk hl => ?_, fun k => ?_⟩
  · rw [h.exact]
    constructor
    · rintro ⟨k, hk⟩
      by_cases hki : k = i
      · exact ⟨j, (hmem j x).2 (Or.inl ⟨rfl, Or.inr (hki ▸ hk)⟩)⟩
      · by_cases hkj : k = j
        · exact ⟨j, (hmem j x).2 (Or.inl ⟨rfl, Or.inl (hkj ▸ hk)⟩)⟩
        · exact ⟨k, (hmem k x).2 (Or.inr ⟨hkj, hki, hk⟩)⟩
    · rintro ⟨k, hk⟩
      rcases (hmem k x).1 hk with ⟨-, hx | hx⟩ | ⟨-, -, hx⟩
      · exact ⟨j, hx⟩
      · exact ⟨i, hx⟩
      · exact ⟨k, hx⟩
  · rcases (hmem k x).1 hk with ⟨rfl, hx⟩ | ⟨hkj, hki, hx⟩
    · rcases (hmem l x).1 hl with ⟨rfl, -⟩ | ⟨hlj, hli, hx'⟩
      · rfl
      · rcases hx with hx | hx
        · exact absurd (h.apart l k x hx' hx) hlj
        · exact absurd (h.apart l i x hx' hx) hli
    · rcases (hmem l x).1 hl with ⟨rfl, hx' | hx'⟩ | ⟨-, -, hx'⟩
      · exact absurd (h.apart k l x hx hx') hkj
      · exact absurd (h.apart k i x hx hx') hki
      · exact h.apart k l x hx hx'
  · by_cases hkj : k = j
    · subst hkj
      rw [Function.update_self]
      exact (h.nodup k).append (h.nodup i) fun x hx hx' => hij (h.apart k i x hx hx')
    · rw [Function.update_of_ne hkj]
      by_cases hki : k = i
      · subst hki
        rw [Function.update_self]
        exact List.nodup_nil
      · rw [Function.update_of_ne hki]
        exact h.nodup k

end Held

/-! ## Pointers -/

variable {σ : Type} [DecidableEq σ]

structure Heap (σ η : Type) where
  slot : σ → Option η
  live : Finset η
  leaked : List η
  faults : List η

namespace Heap

def empty : Heap σ η := ⟨fun _ => none, ∅, [], []⟩

/-- the pointer is overwritten with what an allocation returned -/
def store (H : Heap σ η) (k : σ) (x : Option η) : Heap σ η where
  slot := Function.update H.slot k x
  live := H.live ∪ x.toFinset
  leaked := H.leaked ++ (H.slot k).toList
  faults := H.faults

/-- if the pointer is not null, what it holds is freed, and it is made null -/
def free (H : Heap σ η) (k : σ) : Heap σ η where
  slot := Function.update H.slot k none
  live := H.live \ (H.slot k).toFinset
  leaked := H.leaked
  faults := H.faults ++ (H.slot k).toList.filter (· ∉ H.live)

/-- the pointer is copied over another and made null -/
def move (H : Heap σ η) (i j : σ) : Heap σ η where
  slot := Function.update (Function.update H.slot i none) j (H.slot i)
  live := H.live
  leaked := H.leaked ++ (H.slot j).toList
  faults := H.faults

/-- what is leaked belongs to nobody -/
def own (H : Heap σ η) : Option σ → List η
  | none => H.leaked
  | some k => (H.slot k).toList

structure Sound (H : Heap σ η) : Prop where
  held : Held H.own H.live
  faultless : H.faults = []

variable {H : Heap σ η}

omit [DecidableEq η] [DecidableEq σ] in
theorem sound_empty : Sound (empty : Heap σ η) := by
  refine ⟨?_, rfl⟩
  have hown : (empty : Heap σ η).own = fun _ => [] := by
    funext k
    cases k <;> rfl
  rw [hown]
  exact Held.clear

omit [DecidableEq η] in
/-- what a pointer held before is leaked -/
theorem sound_leak (h : Sound H) (k : σ) :
    Sound { H with slot := Function.update H.slot k none, leaked := H.leaked ++ (H.slot k).toList } := by
  refine ⟨?_, h.faultless⟩
  have hgiven := h.held.give (i := some k) (j := none) (by simp)
  convert hgiven using 1
  funext i
  cases i with
  | none => simp [own]
  | some i =>
    rw [Function.update_of_ne (by simp)]
    by_cases hi : i = k
    · subst hi
      simp [own]
    · simp [own, Function.update_of_ne, hi]

theorem sound_store (h : Sound H) (k : σ) {x : Option η} (hfresh : ∀ y ∈ x, y ∉ H.live) : Sound (H.store k x) := by
  have hleaked := sound_leak h k
  refine ⟨?_, h.faultless⟩
  have hnull : own { H with slot := Function.update H.slot k none, leaked := H.leaked ++ (H.slot k).toList } (some k) =
      [] := by simp [own]
  have hnodup : x.toList.Nodup := by cases x <;> simp
  have hgot := hleaked.held.acquire hnull hnodup fun y hy => hfresh y (by simpa using hy)
  convert hgot using 1
  · funext i
    cases i with
    | none => simp [own, store]
    | some i =>
      by_cases hi : i = k
      · subst hi
        simp [own, store]
      · simp [own, store, Function.update_of_ne, hi]
  · simp only [store]
    cases x <;> rfl

theorem sound_free (h : Sound H) (k : σ) : Sound (H.free k) := by
  have hlive : ∀ y ∈ H.slot k, y ∈ H.live := fun y hy => h.held.mem_opened (i := some k) (by simpa [own] using hy)
  refine ⟨?_, ?_⟩
  · have hreleased := h.held.release (some k)
    convert hreleased using 1
    · funext i
      cases i with
      | none => simp [own, free]
      | some i =>
        by_cases hi : i = k
        · subst hi
          simp [own, free]
        · simp [own, free, Function.update_of_ne, hi]
    · simp only [free, own]
      cases H.slot k <;> rfl
  · rw [free, h.faultless, List.nil_append, List.filter_eq_nil_iff]
    intro y hy
    simpa using hlive y (by simpa using hy)

omit [DecidableEq η] in
theorem sound_move (h : Sound H) {i j : σ} (hij : j ≠ i) : Sound (H.move i j) := by
  have hleaked := sound_leak h j
  refine ⟨?_, h.faultless⟩
  have hgiven := hleaked.held.give (i := some i) (j := some j) (by simpa using hij)
  convert hgiven using 1
  · funext k
    cases k with
    | none => simp [own, move]
    | some k =>
      by_cases hkj : k = j
      · subst hkj
        simp [own, move, hij.symm]
      · by_cases hki : k = i
        · subst hki
          simp [own, move, hkj]
        · simp [own, move, Function.update_of_ne, hkj, hki]
  · rfl

omit [DecidableEq η] [DecidableEq σ] in
theorem Sound.live_iff (h : Sound H) (y : η) : y ∈ H.live ↔ (∃ k, H.slot k = some y) ∨ y ∈ H.leaked := by
  rw [h.held.exact]
  constructor
  · rintro ⟨k, hk⟩
    cases k with
    | none => exact Or.inr hk
    | some k => exact Or.inl ⟨k, by simpa [own] using hk⟩
  · rintro (⟨k, hk⟩ | hy)
    · exact ⟨some k, by simp [own, hk]⟩
    · exact ⟨none, hy⟩

omit [DecidableEq η] [DecidableEq σ] in
/-- no two pointers hold the same -/
theorem Sound.inj (h : Sound H) {i j : σ} {y : η} (hi : H.slot i = some y) (hj : H.slot j = some y) : i = j := by
  have hown := h.held.apart (some i) (some j) y (by simp [own, hi]) (by simp [own, hj])
  simpa using hown

end Heap

end Handles
