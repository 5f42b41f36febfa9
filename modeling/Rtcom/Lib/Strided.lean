/-
Rows of one width that stand at a stride in a list, and the same rows packed one behind the other.

- `pack`: the rows at a stride, packed; rows whose stride is their width are packed already (`pack_self`).
- `pack_eq_iff`: two pictures have the same packed rows if and only if they have the same elements at the same row and
  column, each at its own stride.
- `getElem?_pack`: the element at a row and a column.
- `Buf.data_copyRows`: a loop that copies row after row writes the packed rows and nothing else; `Buf.written_copyRows`:
  the indices it writes, `Buf.getElem?_copyRows`, `Buf.getElem?_copyRows_of_lt`: the elements in the range of the loop
  and before it.
-/
import Mathlib.Tactic
import Rtcom.Lib.Access

namespace Strided

open Access

variable {ε : Type}

/-- the row of width w that starts at index k -/
def row (d : List ε) (k w : ℕ) : List ε := (d.drop k).take w

/-- the first n rows at the stride -/
def pack (d : List ε) (stride w : ℕ) : ℕ → List ε
  | 0 => []
  | n + 1 => pack d stride w n ++ row d (n * stride) w

theorem length_row {d : List ε} {k w : ℕ} (h : k + w ≤ d.length) : (row d k w).length = w := by
  rw [row, List.length_take, List.length_drop]
  omega

/-- every row of a picture lies inside it -/
theorem row_le {stride w n i : ℕ} (hw : w ≤ stride) (hi : i < n) : i * stride + w ≤ n * stride :=
  calc i * stride + w ≤ i * stride + stride := Nat.add_le_add_left hw _
    _ = (i + 1) * stride := (Nat.succ_mul i stride).symm
    _ ≤ n * stride := Nat.mul_le_mul_right stride hi

theorem length_pack {d : List ε} {stride w n : ℕ} (hw : w ≤ stride) (hd : n * stride ≤ d.length) :
    (pack d stride w n).length = n * w := by
  induction n with
  | zero => simp [pack]
  | succ n ih =>
    have hrow := le_trans (row_le hw (Nat.lt_succ_self n)) hd
    have hn := le_trans (Nat.mul_le_mul_right stride (Nat.le_succ n)) hd
    rw [pack, List.length_append, ih hn, length_row hrow, Nat.succ_mul]

theorem pack_width (d : List ε) (w n : ℕ) : pack d w w n = d.take (n * w) := by
  induction n with
  | zero => simp [pack]
  | succ n ih => rw [pack, ih, row, Nat.succ_mul, List.take_add]

theorem pack_self {d : List ε} {w n : ℕ} (hd : d.length = n * w) : pack d w w n = d := by
  rw [pack_width, ← hd, List.take_length]

/-- the element at row i and column j of the one is the element there of the other -/
def SameAt (d : List ε) (stride : ℕ) (d' : List ε) (stride' w i : ℕ) : Prop :=
  ∀ j < w, d[i * stride + j]? = d'[i * stride' + j]?

theorem row_eq_iff (d d' : List ε) (stride stride' w i : ℕ) :
    row d (i * stride) w = row d' (i * stride') w ↔ SameAt d stride d' stride' w i := by
  have hget : ∀ (l : List ε) (k j : ℕ), (row l k w)[j]? = if j < w then l[k + j]? else none := by
    intro l k j
    rw [row, List.getElem?_take, List.getElem?_drop]
  refine ⟨?_, ?_⟩
  · intro h j hj
    have hj' := congrArg (·[j]?) h
    simpa only [hget, if_pos hj] using hj'
  · intro h
    apply List.ext_getElem?
    intro j
    rw [hget, hget]
    split_ifs with hj
    · exact h j hj
    · rfl

theorem pack_eq_iff {d d' : List ε} {stride stride' w n : ℕ} (hw : w ≤ stride) (hw' : w ≤ stride')
    (hd : n * stride ≤ d.length) (hd' : n * stride' ≤ d'.length) :
    pack d stride w n = pack d' stride' w n ↔ ∀ i < n, SameAt d stride d' stride' w i := by
  induction n with
  | zero => simp [pack]
  | succ n ih =>
    have hn := le_trans (Nat.mul_le_mul_right stride (Nat.le_succ n)) hd
    have hn' := le_trans (Nat.mul_le_mul_right stride' (Nat.le_succ n)) hd'
    have hlen : (pack d stride w n).length = (pack d' stride' w n).length := by
      rw [length_pack hw hn, length_pack hw' hn']
    rw [pack, pack, Nat.forall_lt_succ_right, ← ih hn hn', ← row_eq_iff]
    refine ⟨?_, ?_⟩
    · intro h
      exact List.append_inj h hlen
    · rintro ⟨hpack, hrow⟩
      rw [hpack, hrow]

/-- the element at row i and column j -/
theorem getElem?_pack {d : List ε} {stride w n i j : ℕ} (hw : w ≤ stride) (hd : n * stride ≤ d.length) (hi : i < n)
    (hj : j < w) : (pack d stride w n)[i * w + j]? = d[i * stride + j]? := by
  have hlen := length_pack hw hd
  have hself : pack d stride w n = pack (pack d stride w n) w w n := (pack_self hlen).symm
  exact ((pack_eq_iff hw le_rfl hd hlen.ge).1 hself i hi j hj).symm

end Strided

namespace Access.Buf

open Strided

variable {ε : Type}

/-- rows at a stride, copied one behind the other from index start on -/
def copyRows (b : Buf ε) (start : ℕ) (src : List ε) (stride w rows : ℕ) : Buf ε :=
  (List.range rows).foldl (fun b i => b.copy (start + i * w) (row src (i * stride) w)) b

theorem copyRows_succ (b : Buf ε) (start : ℕ) (src : List ε) (stride w n : ℕ) : b.copyRows start src stride w (n + 1) =
    (b.copyRows start src stride w n).copy (start + n * w) (row src (n * stride) w) := by
  rw [copyRows, List.range_succ, List.foldl_append]
  rfl

theorem data_copyRows {b : Buf ε} {pre old post src : List ε} {stride w n : ℕ} (hb : b.data = pre ++ old ++ post)
    (hold : old.length = n * w) (hw : w ≤ stride) (hsrc : n * stride ≤ src.length) :
    (b.copyRows pre.length src stride w n).data = pre ++ pack src stride w n ++ post := by
  induction n generalizing old post with
  | zero =>
    obtain rfl : old = [] := List.length_eq_zero_iff.1 (by simpa using hold)
    simpa [copyRows, pack] using hb
  | succ n ih =>
    have hn := le_trans (Nat.mul_le_mul_right stride (Nat.le_succ n)) hsrc
    have hrow := length_row (le_trans (row_le hw (Nat.lt_succ_self n)) hsrc)
    rw [Nat.succ_mul] at hold
    -- the last row goes over the last w elements of the old ones
    have hcut : b.data = pre ++ old.take (n * w) ++ (old.drop (n * w) ++ post) := by
      rw [hb, List.append_assoc pre, List.append_assoc pre, ← List.append_assoc (old.take _), List.take_append_drop]
    have hdata := ih hcut (by rw [List.length_take]; omega) hn
    rw [← List.append_assoc (pre ++ _)] at hdata
    have hlen : pre.length + n * w = (pre ++ pack src stride w n).length := by
      rw [List.length_append, length_pack hw hn]
    rw [copyRows_succ, hlen, pack, ← List.append_assoc pre]
    apply copy_data hdata
    rw [List.length_drop, hrow]
    omega

/-- the loop writes the indices from start on, each once -/
theorem written_copyRows {b : Buf ε} {start : ℕ} {src : List ε} {stride w n : ℕ} (hw : w ≤ stride)
    (hsrc : n * stride ≤ src.length) :
    (b.copyRows start src stride w n).written = b.written ++ List.range' start (n * w) := by
  induction n with
  | zero => simp [copyRows]
  | succ n ih =>
    have hn := le_trans (Nat.mul_le_mul_right stride (Nat.le_succ n)) hsrc
    have hrow := length_row (le_trans (row_le hw (Nat.lt_succ_self n)) hsrc)
    rw [copyRows_succ, written_copy, ih hn, hrow, List.append_assoc, Nat.succ_mul, List.range'_append_1]

section Fits

variable {b : Buf ε} {start stride w n : ℕ} {src : List ε} (hw : w ≤ stride) (hsrc : n * stride ≤ src.length)
  (hfit : start + n * w ≤ b.data.length)

include hw hsrc hfit

/-- what the loop leaves behind, in a buffer it fits into -/
theorem data_copyRows_fit : (b.copyRows start src stride w n).data =
    b.data.take start ++ pack src stride w n ++ b.data.drop (start + n * w) := by
  have hcut : b.data = b.data.take start ++ (b.data.drop start).take (n * w) ++ b.data.drop (start + n * w) := by
    rw [← List.take_add, List.take_append_drop]
  have hpre : (b.data.take start).length = start := by
    rw [List.length_take]
    omega
  have hold : ((b.data.drop start).take (n * w)).length = n * w := by
    rw [List.length_take, List.length_drop]
    omega
  have hdata := data_copyRows hcut hold hw hsrc
  rwa [hpre] at hdata

theorem length_copyRows : (b.copyRows start src stride w n).data.length = b.data.length := by
  rw [data_copyRows_fit hw hsrc hfit, List.length_append, List.length_append, List.length_take, List.length_drop,
    length_pack hw hsrc]
  omega

theorem getElem?_copyRows {i j : ℕ} (hi : i < n) (hj : j < w) :
    (b.copyRows start src stride w n).data[start + i * w + j]? = src[i * stride + j]? := by
  have hpre : (b.data.take start).length = start := by
    rw [List.length_take]
    omega
  have hrow := row_le (le_refl w) hi
  have hlen := length_pack hw hsrc
  rw [data_copyRows_fit hw hsrc hfit, List.append_assoc, List.getElem?_append_right (by omega), hpre,
    List.getElem?_append_left (by omega), show start + i * w + j - start = i * w + j by omega]
  exact getElem?_pack hw hsrc hi hj

theorem getElem?_copyRows_of_lt {k : ℕ} (hk : k < start) :
    (b.copyRows start src stride w n).data[k]? = b.data[k]? := by
  rw [data_copyRows_fit hw hsrc hfit, List.append_assoc, List.getElem?_append_left (by rw [List.length_take]; omega),
    List.getElem?_take_of_lt hk]

end Fits

end Access.Buf
