/-
Buffer accesses, recorded: a program that indexes a buffer is modelled together with the indices it touches, so that
"no access is out of bounds" is a statement about the program and not about a checked variant of it.

- `Reads α`: the value a program computes from a buffer and the indices it read, in order. It is a monad; `Reads.elem`
  reads one element, `Reads.slice` a contiguous range. `Within n` says every index read is below n, with one rule for
  each way of building a program (`within_pure`, `within_bind`, `within_elem`, `within_slice`).
- `Buf`: a buffer under construction with the indices written. `Buf.set` and `Buf.copy` record a write even where it
  falls outside the buffer (it then has no effect on the contents). `InBounds` says every index written is below the
  size; `copy_data` gives the contents after an in-bounds copy, `copy_data_take` after any.
-/
import Mathlib.Data.List.GetD
import Mathlib.Tactic

namespace Access

/-! ## Reads -/

/-- a program over a read-only buffer: its value and the indices it reads, in order -/
structure Reads (α : Type) where
  val : α
  idx : List ℕ

namespace Reads

variable {α β ε : Type}

instance : Monad Reads where
  pure a := ⟨a, []⟩
  bind x f := ⟨(f x.val).val, x.idx ++ (f x.val).idx⟩

@[simp] theorem val_pure (a : α) : (pure a : Reads α).val = a := rfl
@[simp] theorem idx_pure (a : α) : (pure a : Reads α).idx = [] := rfl
@[simp] theorem val_bind (x : Reads α) (f : α → Reads β) : (x >>= f).val = (f x.val).val := rfl
@[simp] theorem idx_bind (x : Reads α) (f : α → Reads β) : (x >>= f).idx = x.idx ++ (f x.val).idx := rfl

/-- read element i -/
def elem [Inhabited ε] (d : List ε) (i : ℕ) : Reads ε := ⟨d.getD i default, [i]⟩

/-- read the n elements from index i on -/
def slice (d : List ε) (i n : ℕ) : Reads (List ε) := ⟨(d.drop i).take n, List.range' i n⟩

@[simp] theorem val_elem [Inhabited ε] (d : List ε) (i : ℕ) : (elem d i).val = d.getD i default := rfl
@[simp] theorem idx_elem [Inhabited ε] (d : List ε) (i : ℕ) : (elem d i).idx = [i] := rfl
@[simp] theorem val_slice (d : List ε) (i n : ℕ) : (slice d i n).val = (d.drop i).take n := rfl
@[simp] theorem idx_slice (d : List ε) (i n : ℕ) : (slice d i n).idx = List.range' i n := rfl

/-- every index read is below n -/
def Within (n : ℕ) (x : Reads α) : Prop := ∀ i ∈ x.idx, i < n

instance (n : ℕ) (x : Reads α) : Decidable (Within n x) := inferInstanceAs (Decidable (∀ i ∈ x.idx, i < n))

@[simp] theorem within_pure (n : ℕ) (a : α) : Within n (pure a : Reads α) := by simp [Within]

@[simp] theorem within_bind (n : ℕ) (x : Reads α) (f : α → Reads β) :
    Within n (x >>= f) ↔ Within n x ∧ Within n (f x.val) := by
  simp only [Within, idx_bind, List.mem_append]
  refine ⟨?_, ?_⟩
  · intro h
    exact ⟨fun i hi => h i (Or.inl hi), fun i hi => h i (Or.inr hi)⟩
  · intro h i hi
    rcases h with ⟨h1, h2⟩
    rcases hi with hi | hi
    · exact h1 i hi
    · exact h2 i hi

@[simp] theorem within_elem [Inhabited ε] (n : ℕ) (d : List ε) (i : ℕ) : Within n (elem d i) ↔ i < n := by
  simp [Within]

theorem within_slice (n : ℕ) (d : List ε) (i k : ℕ) : Within n (slice d i k) ↔ k = 0 ∨ i + k ≤ n := by
  simp only [Within, idx_slice, List.mem_range'_1]
  refine ⟨?_, ?_⟩
  · intro h
    by_cases hk : k = 0
    · exact Or.inl hk
    · have := h (i + k - 1) (by omega)
      omega
  · rintro (rfl | h) j hj <;> omega

end Reads

/-! ## Data at an offset -/

section Offset

variable {ε : Type} (pre bs post : List ε)

theorem getD_at [Inhabited ε] (k : ℕ) : (pre ++ bs).getD (pre.length + k) default = bs.getD k default := by
  rw [List.getD_append_right _ _ _ _ (by omega), Nat.add_sub_cancel_left]

theorem getD_take_drop [Inhabited ε] (k n i : ℕ) (hi : i < n) :
    ((bs.drop k).take n).getD i default = bs.getD (k + i) default := by
  rw [List.getD_eq_getElem?_getD, List.getElem?_take_of_lt hi, List.getElem?_drop, ← List.getD_eq_getElem?_getD]

theorem take_drop_append (k n : ℕ) (h : k + n ≤ bs.length) :
    ((bs ++ post).drop k).take n = (bs.drop k).take n := by
  rw [List.drop_append_of_le_length (by omega), List.take_append_of_le_length (by rw [List.length_drop]; omega)]

end Offset

/-! ## Writes -/

/-- a buffer under construction and the indices written to it, in order -/
structure Buf (ε : Type) where
  data : List ε
  written : List ℕ

namespace Buf

variable {ε : Type}

def alloc (n : ℕ) (fill : ε) : Buf ε := ⟨List.replicate n fill, []⟩

/-- write element i; outside the buffer the write is recorded and changes nothing -/
def set (b : Buf ε) (i : ℕ) (v : ε) : Buf ε := ⟨b.data.set i v, b.written ++ [i]⟩

/-- write consecutive elements from index i on -/
def copy (b : Buf ε) (i : ℕ) : List ε → Buf ε
  | [] => b
  | v :: vs => (b.set i v).copy (i + 1) vs

/-- every index written is below the buffer's size -/
def InBounds (b : Buf ε) : Prop := ∀ i ∈ b.written, i < b.data.length

instance (b : Buf ε) : Decidable (InBounds b) := inferInstanceAs (Decidable (∀ i ∈ b.written, i < b.data.length))

@[simp] theorem length_alloc (n : ℕ) (v : ε) : (alloc n v).data.length = n := by simp [alloc]
@[simp] theorem data_set (b : Buf ε) (i : ℕ) (v : ε) : (b.set i v).data = b.data.set i v := rfl

@[simp] theorem length_copy (b : Buf ε) (i : ℕ) (vs : List ε) : (b.copy i vs).data.length = b.data.length := by
  induction vs generalizing b i with
  | nil => rfl
  | cons v vs ih => rw [copy, ih, data_set, List.length_set]

theorem written_copy (b : Buf ε) (i : ℕ) (vs : List ε) :
    (b.copy i vs).written = b.written ++ List.range' i vs.length := by
  induction vs generalizing b i with
  | nil => simp [copy]
  | cons v vs ih => simp [copy, ih, set, List.range'_succ]

@[simp] theorem inBounds_alloc (n : ℕ) (v : ε) : InBounds (alloc n v) := by simp [InBounds, alloc]

theorem inBounds_set (b : Buf ε) (i : ℕ) (v : ε) : InBounds (b.set i v) ↔ InBounds b ∧ i < b.data.length := by
  simp only [InBounds, set, List.mem_append, List.mem_singleton, List.length_set]
  refine ⟨?_, ?_⟩
  · intro h
    exact ⟨fun j hj => h j (Or.inl hj), h i (Or.inr rfl)⟩
  · intro h j hj
    rcases h with ⟨h1, h2⟩
    rcases hj with hj | rfl
    · exact h1 j hj
    · exact h2

theorem inBounds_copy (b : Buf ε) (i : ℕ) (vs : List ε) :
    InBounds (b.copy i vs) ↔ InBounds b ∧ (vs = [] ∨ i + vs.length ≤ b.data.length) := by
  induction vs generalizing b i with
  | nil => simp [copy]
  | cons v vs ih =>
    rw [copy, ih, inBounds_set, data_set, List.length_set]
    simp only [List.length_cons, reduceCtorEq, false_or]
    rcases vs with _ | ⟨w, ws⟩
    · simp
    · simp only [List.length_cons, reduceCtorEq, false_or, and_assoc, and_congr_right_iff]
      omega

theorem copy_copy (b : Buf ε) (i : ℕ) (xs ys : List ε) :
    (b.copy i xs).copy (i + xs.length) ys = b.copy i (xs ++ ys) := by
  induction xs generalizing b i with
  | nil => rfl
  | cons x xs ih =>
    simp only [copy, List.cons_append, List.length_cons]
    rw [← ih, Nat.add_assoc, Nat.add_comm 1]

/-- the contents after an in-bounds copy: the elements copied over are replaced, the rest is kept -/
theorem copy_data {b : Buf ε} {pre old post vs : List ε} (hb : b.data = pre ++ old ++ post)
    (hl : old.length = vs.length) : (b.copy pre.length vs).data = pre ++ vs ++ post := by
  induction vs generalizing b pre old with
  | nil =>
    rw [List.length_eq_zero_iff.1 hl] at hb
    simpa [copy] using hb
  | cons v vs ih =>
    rcases old with _ | ⟨o, os⟩
    · simp at hl
    · have hset : (b.set pre.length v).data = (pre ++ [v]) ++ os ++ post := by
        simp [hb]
      have h : ((b.set pre.length v).copy (pre ++ [v]).length vs).data = pre ++ [v] ++ vs ++ post :=
        ih hset (by simpa using hl)
      simpa [copy] using h

/-- a copy that starts behind the end -/
theorem data_copy_of_le {b : Buf ε} {i : ℕ} (hi : b.data.length ≤ i) (vs : List ε) : (b.copy i vs).data = b.data := by
  induction vs generalizing b i with
  | nil => rfl
  | cons v vs ih =>
    have hset : (b.set i v).data = b.data := by
      rw [data_set, List.set_eq_of_length_le hi]
    rw [copy, ih (by rw [hset]; omega), hset]

/-- the contents after any copy: what does not fit is lost -/
theorem copy_data_take {b : Buf ε} {pre old : List ε} (hb : b.data = pre ++ old) (vs : List ε) :
    (b.copy pre.length vs).data = pre ++ (vs ++ old.drop vs.length).take old.length := by
  induction vs generalizing b pre old with
  | nil => simp [copy, hb]
  | cons v vs ih =>
    rcases old with _ | ⟨o, os⟩
    · rw [data_copy_of_le (by simp [hb]), hb]
      simp
    · have hset : (b.set pre.length v).data = (pre ++ [v]) ++ os := by
        simp [hb]
      simpa [copy] using ih hset

theorem copy_data_start (b : Buf ε) (vs : List ε) :
    (b.copy 0 vs).data = (vs ++ b.data.drop vs.length).take b.data.length :=
  copy_data_take (List.nil_append b.data).symm vs

end Buf

end Access
