/-
Fixed-width words as a little-endian host keeps them in memory, and the byte-order conversions between such words
and big-endian (network order) byte strings.

- `byteOf x k`: byte k of a word, counted from its low end.
- `load16`, `load24`, `load32`: the word a little-endian host reads from consecutive bytes; `store16`, `store24`,
  `store32`, `store64`: the bytes it writes; `be16`, `be24`, `be32`: the same bytes in network order.
- `byteSwap16`, `byteSwap32`: reversal of a word's bytes (what `htons` and `htonl` are on such a host).

Results: a load inverts a store (`load32_store32`, `store32_load32`, hence `load32_inj`); swapping after a native load
reads network order (`byteSwap32_load32`) and storing a swapped word writes it (`store32_byteSwap32`). A three-byte
field that is stored in network order and loaded natively comes back with its outer bytes exchanged: `byteSwap24`,
with its fixed points (`byteSwap24_eq_self`).
-/
import Mathlib.Tactic

namespace Words

/-! ## Bytes of a word -/

/-- byte k of a word, byte 0 its lowest -/
def byteOf {w : ℕ} (x : BitVec w) (k : ℕ) : UInt8 := ⟨x.extractLsb' (8 * k) 8⟩

theorem byteOf_self (b : UInt8) : byteOf b.toBitVec 0 = b := by
  apply UInt8.eq_of_toBitVec_eq
  simp [byteOf]

theorem byteOf_append_zero {w : ℕ} (x : BitVec w) (b : UInt8) : byteOf (x ++ b.toBitVec) 0 = b := by
  apply UInt8.eq_of_toBitVec_eq
  simp only [byteOf]
  rw [BitVec.extractLsb'_append_eq_of_add_le (by omega)]
  simp

theorem byteOf_append_succ {w : ℕ} (x : BitVec w) (b : UInt8) (k : ℕ) :
    byteOf (x ++ b.toBitVec) (k + 1) = byteOf x k := by
  apply UInt8.eq_of_toBitVec_eq
  simp only [byteOf]
  rw [BitVec.extractLsb'_append_eq_of_le (by omega)]
  congr 1

/-! ## Native loads and stores, network order -/

def load16 (a b : UInt8) : UInt16 := ⟨b.toBitVec ++ a.toBitVec⟩

/-- a three-byte field -/
def load24 (a b c : UInt8) : BitVec 24 := c.toBitVec ++ b.toBitVec ++ a.toBitVec

def load32 (a b c d : UInt8) : UInt32 := ⟨d.toBitVec ++ c.toBitVec ++ b.toBitVec ++ a.toBitVec⟩

def store16 (x : UInt16) : List UInt8 := [byteOf x.toBitVec 0, byteOf x.toBitVec 1]

def store24 (x : BitVec 24) : List UInt8 := [byteOf x 0, byteOf x 1, byteOf x 2]

def store32 (x : UInt32) : List UInt8 :=
  [byteOf x.toBitVec 0, byteOf x.toBitVec 1, byteOf x.toBitVec 2, byteOf x.toBitVec 3]

def store64 (x : UInt64) : List UInt8 := (List.range 8).map (byteOf x.toBitVec)

def be16 (x : UInt16) : List UInt8 := [byteOf x.toBitVec 1, byteOf x.toBitVec 0]

def be24 (x : BitVec 24) : List UInt8 := [byteOf x 2, byteOf x 1, byteOf x 0]

def be32 (x : UInt32) : List UInt8 :=
  [byteOf x.toBitVec 3, byteOf x.toBitVec 2, byteOf x.toBitVec 1, byteOf x.toBitVec 0]

@[simp] theorem length_store16 (x : UInt16) : (store16 x).length = 2 := rfl
@[simp] theorem length_store32 (x : UInt32) : (store32 x).length = 4 := rfl
@[simp] theorem length_be16 (x : UInt16) : (be16 x).length = 2 := rfl
@[simp] theorem length_be24 (x : BitVec 24) : (be24 x).length = 3 := rfl
@[simp] theorem length_be32 (x : UInt32) : (be32 x).length = 4 := rfl

theorem length_flatMap_be32 (l : List UInt32) : (l.flatMap be32).length = l.length * 4 := by
  induction l with
  | nil => rfl
  | cons x l ih =>
    rw [List.flatMap_cons, List.length_append, ih, length_be32, List.length_cons]
    omega

theorem store16_load16 (a b : UInt8) : store16 (load16 a b) = [a, b] := by
  simp only [store16, load16, byteOf_append_zero, byteOf_append_succ, byteOf_self]

theorem store24_load24 (a b c : UInt8) : store24 (load24 a b c) = [a, b, c] := by
  simp only [store24, load24, byteOf_append_zero, byteOf_append_succ, byteOf_self]

theorem store32_load32 (a b c d : UInt8) : store32 (load32 a b c d) = [a, b, c, d] := by
  simp only [store32, load32, byteOf_append_zero, byteOf_append_succ, byteOf_self]

theorem load16_store16 (x : UInt16) : load16 (byteOf x.toBitVec 0) (byteOf x.toBitVec 1) = x := by
  apply UInt16.eq_of_toBitVec_eq
  simp only [load16, byteOf]
  rw [BitVec.extractLsb'_append_extractLsb'_eq_extractLsb' (by omega)]
  simp

theorem load24_store24 (x : BitVec 24) : load24 (byteOf x 0) (byteOf x 1) (byteOf x 2) = x := by
  simp only [load24, byteOf]
  rw [BitVec.extractLsb'_append_extractLsb'_eq_extractLsb' (by omega),
    BitVec.extractLsb'_append_extractLsb'_eq_extractLsb' (by omega)]
  simp

theorem load32_store32 (x : UInt32) :
    load32 (byteOf x.toBitVec 0) (byteOf x.toBitVec 1) (byteOf x.toBitVec 2) (byteOf x.toBitVec 3) = x := by
  apply UInt32.eq_of_toBitVec_eq
  simp only [load32, byteOf]
  rw [BitVec.extractLsb'_append_extractLsb'_eq_extractLsb' (by omega),
    BitVec.extractLsb'_append_extractLsb'_eq_extractLsb' (by omega),
    BitVec.extractLsb'_append_extractLsb'_eq_extractLsb' (by omega)]
  simp

theorem load32_inj {a b c d a' b' c' d' : UInt8} (h : load32 a b c d = load32 a' b' c' d') :
    a = a' ∧ b = b' ∧ c = c' ∧ d = d' := by
  have hs := congrArg store32 h
  simpa only [store32_load32, List.cons.injEq, and_true] using hs

/-- a word put together by shift and or -/
theorem shift_or_eq_load16 (a b : UInt8) : (b.toUInt16 <<< 8) ||| a.toUInt16 = load16 a b := by
  apply UInt16.eq_of_toBitVec_eq
  apply BitVec.eq_of_getLsbD_eq
  intro i hi
  simp only [load16, BitVec.getLsbD_append, UInt16.toBitVec_or, UInt16.toBitVec_shiftLeft, UInt8.toBitVec_toUInt16]
  by_cases h8 : i < 8
  · simp [h8]
    omega
  · simp [h8, hi, BitVec.getLsbD_of_ge a.toBitVec i (by omega)]

/-- the bytes of a word, taken by shift and mask -/
theorem shift_mask_eq_byteOf (x : UInt16) : ((x >>> 8) &&& 0xFF).toUInt8 = byteOf x.toBitVec 1 := by
  apply UInt8.eq_of_toBitVec_eq
  apply BitVec.eq_of_getLsbD_eq
  intro i hi
  simp only [byteOf, UInt16.toBitVec_toUInt8, UInt16.toBitVec_and, UInt16.toBitVec_shiftRight,
    BitVec.getLsbD_setWidth, BitVec.getLsbD_and, BitVec.getLsbD_extractLsb']
  interval_cases i <;> simp

theorem mask_eq_byteOf (x : UInt16) : (x &&& 0xFF).toUInt8 = byteOf x.toBitVec 0 := by
  apply UInt8.eq_of_toBitVec_eq
  apply BitVec.eq_of_getLsbD_eq
  intro i hi
  simp only [byteOf, UInt16.toBitVec_toUInt8, UInt16.toBitVec_and, BitVec.getLsbD_setWidth, BitVec.getLsbD_and,
    BitVec.getLsbD_extractLsb']
  interval_cases i <;> simp

theorem byteOf_append_low {w v : ℕ} (x : BitVec w) (y : BitVec v) (k : ℕ) (hk : 8 * k + 8 ≤ v) :
    byteOf (x ++ y) k = byteOf y k := by
  apply UInt8.eq_of_toBitVec_eq
  simp only [byteOf]
  rw [BitVec.extractLsb'_append_eq_of_add_le (by omega)]

theorem byteOf_append_high {w : ℕ} (x : BitVec w) (y : BitVec 32) (k : ℕ) : byteOf (x ++ y) (k + 4) = byteOf x k := by
  apply UInt8.eq_of_toBitVec_eq
  simp only [byteOf]
  rw [BitVec.extractLsb'_append_eq_of_le (by omega)]
  congr 1

/-- a double word put together by shift and or -/
theorem shift_or_eq_append (hi lo : UInt32) :
    ((hi.toUInt64 <<< 32) ||| lo.toUInt64).toBitVec = hi.toBitVec ++ lo.toBitVec := by
  apply BitVec.eq_of_getLsbD_eq
  intro i hi64
  simp only [BitVec.getLsbD_append, UInt64.toBitVec_or, UInt64.toBitVec_shiftLeft, UInt32.toBitVec_toUInt64]
  by_cases h32 : i < 32
  · simp [h32]
    omega
  · simp [h32, hi64, BitVec.getLsbD_of_ge lo.toBitVec i (by omega)]

/-- a double word is stored low half first -/
theorem store64_shift_or (hi lo : UInt32) :
    store64 ((hi.toUInt64 <<< 32) ||| lo.toUInt64) = store32 lo ++ store32 hi := by
  have hrange : List.range 8 = [0, 1, 2, 3, 0 + 4, 1 + 4, 2 + 4, 3 + 4] := rfl
  rw [store64, shift_or_eq_append, hrange]
  simp (disch := decide) only [List.map_cons, List.map_nil, byteOf_append_high, byteOf_append_low]
  rfl

/-! ## Byte order -/

def byteSwap16 (x : UInt16) : UInt16 := load16 (byteOf x.toBitVec 1) (byteOf x.toBitVec 0)

def byteSwap32 (x : UInt32) : UInt32 :=
  load32 (byteOf x.toBitVec 3) (byteOf x.toBitVec 2) (byteOf x.toBitVec 1) (byteOf x.toBitVec 0)

/-- swapping a native load reads the bytes in network order -/
theorem byteSwap16_load16 (a b : UInt8) : byteSwap16 (load16 a b) = load16 b a := by
  simp only [byteSwap16, load16, byteOf_append_zero, byteOf_append_succ, byteOf_self]

theorem byteSwap32_load32 (a b c d : UInt8) : byteSwap32 (load32 a b c d) = load32 d c b a := by
  simp only [byteSwap32, load32, byteOf_append_zero, byteOf_append_succ, byteOf_self]

@[simp] theorem byteSwap16_byteSwap16 (x : UInt16) : byteSwap16 (byteSwap16 x) = x := by
  conv_lhs => rw [byteSwap16.eq_def x, byteSwap16_load16]
  exact load16_store16 x

@[simp] theorem byteSwap32_byteSwap32 (x : UInt32) : byteSwap32 (byteSwap32 x) = x := by
  conv_lhs => rw [byteSwap32.eq_def x, byteSwap32_load32]
  exact load32_store32 x

/-- storing a swapped word writes its bytes in network order -/
theorem store16_byteSwap16 (x : UInt16) : store16 (byteSwap16 x) = be16 x := store16_load16 _ _

theorem store32_byteSwap32 (x : UInt32) : store32 (byteSwap32 x) = be32 x := store32_load32 _ _ _ _

/-! ## Three-byte fields -/

def byteSwap24 (x : BitVec 24) : BitVec 24 := load24 (byteOf x 2) (byteOf x 1) (byteOf x 0)

theorem store24_byteSwap24 (x : BitVec 24) : store24 (byteSwap24 x) = be24 x := store24_load24 _ _ _

theorem byteSwap24_eq_self (x : BitVec 24) : byteSwap24 x = x ↔ byteOf x 0 = byteOf x 2 := by
  constructor
  · intro h
    have hs := congrArg store24 h
    rw [store24_byteSwap24] at hs
    simp only [be24, store24, List.cons.injEq, and_true] at hs
    exact hs.2.2
  · intro h
    conv_rhs => rw [← load24_store24 x]
    rw [byteSwap24, h]

theorem load32_shift (a b c d : UInt8) : ((load32 a b c d >>> 8).toBitVec).setWidth 24 = load24 b c d := by
  have h : ((load32 a b c d >>> 8).toBitVec).setWidth 24 = (load32 a b c d).toBitVec.extractLsb' 8 24 := by
    ext i hi
    simp
  rw [h, load32, BitVec.extractLsb'_append_eq_of_le (by omega)]
  simp [load24]

theorem byteOf_setWidth (x : BitVec 24) (k : ℕ) (hk : k < 3) : byteOf (x.setWidth 32) k = byteOf x k := by
  apply UInt8.eq_of_toBitVec_eq
  ext i hi
  simp only [byteOf, BitVec.getElem_extractLsb', BitVec.getLsbD_setWidth]
  simp only [show 8 * k + i < 32 by omega, decide_true, Bool.true_and]

/-- the upper three bytes of a swapped word hold a three-byte field in network order -/
theorem byteSwap32_shift_eq_byteSwap24 (x : BitVec 24) :
    ((byteSwap32 ⟨x.setWidth 32⟩ >>> 8).toBitVec).setWidth 24 = byteSwap24 x := by
  rw [byteSwap32, load32_shift, byteOf_setWidth x 2 (by omega), byteOf_setWidth x 1 (by omega),
    byteOf_setWidth x 0 (by omega), byteSwap24]

end Words
