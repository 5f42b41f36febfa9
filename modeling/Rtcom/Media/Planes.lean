/-
The picture between the buffer and the planes: the copies of `MediaEncoder::EncodeVideo` and of `MediaDecoder::Decode`.

A frame has three planes, each with its line size; what FFmpeg does with a frame is not part of the model. Sizes are
natural numbers: where an `int` of the source would overflow, the source has no defined meaning.

The encoder copies each part of the buffer to the start of its plane in one piece, the decoder reads a plane row by row
at the line size.
- `data_copyPlanes`, `data_packPlanes`: what each of the two leaves behind.
- `packed_iff`: when the decoder's copy gives back the buffer the encoder's copy was given.
- `packed_forall_iff`: the line sizes with which it does so for every buffer.
-/
import Mathlib.Tactic
import Rtcom.Lib.Strided

namespace Rtcom

open Access Strided

/-- the fields of an `AVFrame` that hold the picture -/
structure AVFrame where
  width : ℕ
  height : ℕ
  linesize : Fin 3 → ℕ
  data : Fin 3 → Buf UInt8

namespace AVFrame

/-- `memcpy` to the start of `data[i]` -/
def fill (frame : AVFrame) (i : Fin 3) (bytes : List UInt8) : AVFrame :=
  { frame with data := Function.update frame.data i ((frame.data i).copy 0 bytes) }

end AVFrame

/-- `EncodeVideo` up to the call of the codec -/
def MediaEncoder.copyPlanes (width height : ℕ) (frame : AVFrame) (yuvData : List UInt8) : AVFrame :=
  let ySize := width * height
  let frame := frame.fill 0 (yuvData.take (min ySize yuvData.length))
  if yuvData.length > ySize then
    let uvSize := ySize / 4
    let frame := frame.fill 1 ((yuvData.drop ySize).take (min uvSize (yuvData.length - ySize)))
    if yuvData.length > ySize + uvSize then
      frame.fill 2 ((yuvData.drop (ySize + uvSize)).take (min uvSize (yuvData.length - ySize - uvSize)))
    else frame
  else frame

/-- `Decode` once the codec has given a frame: `resize`, then three loops of `memcpy` -/
def MediaDecoder.packPlanes (frame : AVFrame) (rawData : List UInt8) : Buf UInt8 :=
  let ySize := frame.width * frame.height
  let uvSize := ySize / 4
  let uvH := frame.height / 2
  let uvW := frame.width / 2
  let raw : Buf UInt8 := ⟨rawData.takeD (ySize + 2 * uvSize) 0, []⟩
  let raw := raw.copyRows 0 (frame.data 0).data (frame.linesize 0) frame.width frame.height
  let raw := raw.copyRows ySize (frame.data 1).data (frame.linesize 1) uvW uvH
  raw.copyRows (ySize + uvSize) (frame.data 2).data (frame.linesize 2) uvW uvH

namespace AVFrame

/-! ## Planes -/

def planeWidth (width : ℕ) : Fin 3 → ℕ
  | 0 => width
  | _ => width / 2

def planeRows (height : ℕ) : Fin 3 → ℕ
  | 0 => height
  | _ => height / 2

/-- a picture of even size, in planes that have the line sizes -/
structure Allocated (frame : AVFrame) : Prop where
  width_pos : 0 < frame.width
  width_even : frame.width % 2 = 0
  height_pos : 0 < frame.height
  height_even : frame.height % 2 = 0
  width_le : ∀ i, planeWidth frame.width i ≤ frame.linesize i
  size_le : ∀ i, planeRows frame.height i * frame.linesize i ≤ (frame.data i).data.length

/-- the part of a packed buffer that belongs to a plane -/
def part (width height : ℕ) (yuvData : List UInt8) : Fin 3 → List UInt8
  | 0 => yuvData.take (width * height)
  | 1 => (yuvData.drop (width * height)).take (width * height / 4)
  | 2 => (yuvData.drop (width * height + width * height / 4)).take (width * height / 4)

theorem forall_plane {P : Fin 3 → Prop} : (∀ i, P i) ↔ P 0 ∧ P 1 ∧ P 2 := by
  simp [Fin.forall_fin_succ]

theorem quarter {width height : ℕ} (hwidth : width % 2 = 0) (hheight : height % 2 = 0) :
    width * height / 4 = height / 2 * (width / 2) := by
  obtain ⟨a, rfl⟩ := Nat.dvd_of_mod_eq_zero hwidth
  obtain ⟨b, rfl⟩ := Nat.dvd_of_mod_eq_zero hheight
  have hprod : 2 * a * (2 * b) = 4 * (b * a) := by ring
  rw [hprod, Nat.mul_div_cancel_left _ (by norm_num), Nat.mul_div_cancel_left _ (by norm_num),
    Nat.mul_div_cancel_left _ (by norm_num)]

theorem buffer_size {width height : ℕ} (hwidth : width % 2 = 0) (hheight : height % 2 = 0) :
    width * height * 3 / 2 = width * height + 2 * (width * height / 4) := by
  obtain ⟨a, rfl⟩ := Nat.dvd_of_mod_eq_zero hwidth
  obtain ⟨b, rfl⟩ := Nat.dvd_of_mod_eq_zero hheight
  have hprod : 2 * a * (2 * b) = 4 * (a * b) := by ring
  rw [hprod]
  omega

theorem length_part {width height : ℕ} (hwidth : width % 2 = 0) (hheight : height % 2 = 0) {yuvData : List UInt8}
    (hyuv : yuvData.length = width * height * 3 / 2) (i : Fin 3) :
    (part width height yuvData i).length = planeRows height i * planeWidth width i := by
  have hsize := buffer_size hwidth hheight
  have hquarter := quarter hwidth hheight
  match i with
  | 0 =>
    rw [part, List.length_take, min_eq_left (by omega), Nat.mul_comm]
    rfl
  | 1 =>
    rw [part, List.length_take, List.length_drop, min_eq_left (by omega), hquarter]
    rfl
  | 2 =>
    rw [part, List.length_take, List.length_drop, min_eq_left (by omega), hquarter]
    rfl

/-- a buffer is its three parts -/
theorem parts {width height : ℕ} (hwidth : width % 2 = 0) (hheight : height % 2 = 0) {yuvData : List UInt8}
    (hyuv : yuvData.length = width * height * 3 / 2) :
    part width height yuvData 0 ++ part width height yuvData 1 ++ part width height yuvData 2 = yuvData := by
  have hsize := buffer_size hwidth hheight
  simp only [part]
  rw [← List.take_add, ← List.take_add, List.take_of_length_le]
  omega

/-! ## The encoder's copy -/

/-- the copy takes every branch and copies each part whole -/
theorem data_copyPlanes {frame : AVFrame} (hframe : frame.Allocated) {yuvData : List UInt8}
    (hyuv : yuvData.length = frame.width * frame.height * 3 / 2) (i : Fin 3) :
    (MediaEncoder.copyPlanes frame.width frame.height frame yuvData).data i =
      (frame.data i).copy 0 (part frame.width frame.height yuvData i) := by
  have hsize := buffer_size hframe.width_even hframe.height_even
  have hpos : 0 < frame.width * frame.height / 4 := by
    rw [quarter hframe.width_even hframe.height_even]
    have hw := hframe.width_pos
    have hw' := hframe.width_even
    have hh := hframe.height_pos
    have hh' := hframe.height_even
    exact Nat.mul_pos (by omega) (by omega)
  simp only [MediaEncoder.copyPlanes]
  rw [if_pos (by omega), if_pos (by omega), min_eq_left (by omega), min_eq_left (by omega), min_eq_left (by omega)]
  revert i
  exact forall_plane.2 ⟨rfl, rfl, rfl⟩

/-- what a plane holds after bytes were copied to its start -/
def held (bytes old : List UInt8) : List UInt8 := bytes ++ old.drop bytes.length

theorem copy_start {b : Buf UInt8} {bytes : List UInt8} (h : bytes.length ≤ b.data.length) :
    (b.copy 0 bytes).data = held bytes b.data := by
  rw [Buf.copy_data_start, List.take_of_length_le]
  · rfl
  · rw [List.length_append, List.length_drop]
    omega

/-! ## The decoder's copy -/

/-- the rows of a plane, packed -/
def packed (frame : AVFrame) (i : Fin 3) : List UInt8 :=
  pack (frame.data i).data (frame.linesize i) (planeWidth frame.width i) (planeRows frame.height i)

theorem length_packed {frame : AVFrame} (hframe : frame.Allocated) (i : Fin 3) :
    (packed frame i).length = planeRows frame.height i * planeWidth frame.width i :=
  length_pack (hframe.width_le i) (hframe.size_le i)

/-- the vector that is resized, cut at the plane boundaries -/
theorem exists_cut {d : List UInt8} {a b c : ℕ} (hd : d.length = a + b + c) :
    ∃ xs ys zs : List UInt8, d = xs ++ ys ++ zs ∧ xs.length = a ∧ ys.length = b ∧ zs.length = c := by
  refine ⟨d.take a, (d.drop a).take b, d.drop (a + b), ?_, ?_, ?_, ?_⟩
  · rw [← List.take_add, List.take_append_drop]
  · rw [List.length_take]
    omega
  · rw [List.length_take, List.length_drop]
    omega
  · rw [List.length_drop]
    omega

theorem data_packPlanes {frame : AVFrame} (hframe : frame.Allocated) (rawData : List UInt8) :
    (MediaDecoder.packPlanes frame rawData).data = packed frame 0 ++ packed frame 1 ++ packed frame 2 := by
  have hluma : frame.width * frame.height = frame.height * frame.width := Nat.mul_comm _ _
  have hchroma := quarter hframe.width_even hframe.height_even
  have hlenY : (packed frame 0).length = frame.height * frame.width := length_packed hframe 0
  have hlenU : (packed frame 1).length = frame.height / 2 * (frame.width / 2) := length_packed hframe 1
  have hsize : (rawData.takeD (frame.width * frame.height + 2 * (frame.width * frame.height / 4)) 0).length =
      frame.height * frame.width + frame.height / 2 * (frame.width / 2) + frame.height / 2 * (frame.width / 2) := by
    rw [List.takeD_length]
    omega
  obtain ⟨xs, ys, zs, hcut, hxs, hys, hzs⟩ := exists_cut hsize
  simp only [MediaDecoder.packPlanes]
  rw [hcut]
  -- each loop replaces its own part and keeps the two others
  have hraw : (⟨xs ++ ys ++ zs, []⟩ : Buf UInt8).data = [] ++ xs ++ (ys ++ zs) := List.append_assoc xs ys zs
  have hY := Buf.data_copyRows hraw hxs (hframe.width_le 0) (hframe.size_le 0)
  have hU := Buf.data_copyRows (hY.trans (List.append_assoc ..).symm : _ = packed frame 0 ++ ys ++ zs) hys
    (hframe.width_le 1) (hframe.size_le 1)
  have hV := Buf.data_copyRows (hU.trans (List.append_nil _).symm : _ = packed frame 0 ++ packed frame 1 ++ zs ++ [])
    hzs (hframe.width_le 2) (hframe.size_le 2)
  rw [List.append_nil, List.length_append, hlenY, hlenU] at hV
  rw [hchroma, hluma]
  exact hV

/-! ## Both copies -/

section Shape

variable (width height : ℕ) (frame : AVFrame) (yuvData : List UInt8)

@[simp] theorem width_copyPlanes : (MediaEncoder.copyPlanes width height frame yuvData).width = frame.width := by
  simp only [MediaEncoder.copyPlanes]
  split_ifs <;> rfl

@[simp] theorem height_copyPlanes : (MediaEncoder.copyPlanes width height frame yuvData).height = frame.height := by
  simp only [MediaEncoder.copyPlanes]
  split_ifs <;> rfl

@[simp] theorem linesize_copyPlanes :
    (MediaEncoder.copyPlanes width height frame yuvData).linesize = frame.linesize := by
  simp only [MediaEncoder.copyPlanes]
  split_ifs <;> rfl

end Shape

/-- the frame the encoder has filled has the same planes -/
theorem Allocated.copyPlanes {frame : AVFrame} (hframe : frame.Allocated) {yuvData : List UInt8}
    (hyuv : yuvData.length = frame.width * frame.height * 3 / 2) :
    (MediaEncoder.copyPlanes frame.width frame.height frame yuvData).Allocated where
  width_pos := by simpa using hframe.width_pos
  width_even := by simpa using hframe.width_even
  height_pos := by simpa using hframe.height_pos
  height_even := by simpa using hframe.height_even
  width_le := by simpa using hframe.width_le
  size_le := by simpa [data_copyPlanes hframe hyuv] using hframe.size_le

/-- the rows of a plane are at the line size what they are at the plane's width: the two are equal, or every row behind
the first one finds its bytes there all the same -/
def RowsAgree (bytes old : List UInt8) (linesize width rows : ℕ) : Prop :=
  linesize = width ∨ ∀ i < rows, 0 < i → SameAt (held bytes old) linesize bytes width width i

/-- where the copied bytes reach, a plane holds them -/
theorem getElem?_held {bytes old : List UInt8} {k : ℕ} (hk : k < bytes.length) : (held bytes old)[k]? = bytes[k]? :=
  List.getElem?_append_left hk

theorem rowsAgree_iff {bytes old : List UInt8} {linesize width rows : ℕ} (hbytes : bytes.length = rows * width) :
    RowsAgree bytes old linesize width rows ↔ ∀ i < rows, SameAt (held bytes old) linesize bytes width width i := by
  have hinside : ∀ i < rows, ∀ j < width, i * width + j < bytes.length := by
    intro i hi j hj
    have hrow := row_le (le_refl width) hi
    omega
  constructor
  · rintro (rfl | hrows) i hi
    · exact fun j hj => getElem?_held (hinside i hi j hj)
    · rcases Nat.eq_zero_or_pos i with rfl | hpos
      · -- the first row begins at the start of the plane, whatever the line size
        intro j hj
        have hj' := hinside 0 hi j hj
        rw [Nat.zero_mul] at hj' ⊢
        rw [Nat.zero_mul, getElem?_held hj']
      · exact hrows i hi hpos
  · exact fun h => Or.inr fun i hi _ => h i hi

theorem append_three_inj {a b c a' b' c' : List UInt8} (ha : a.length = a'.length) (hb : b.length = b'.length) :
    a ++ b ++ c = a' ++ b' ++ c' ↔ a = a' ∧ b = b' ∧ c = c' := by
  constructor
  · intro h
    obtain ⟨hab, hc⟩ := List.append_inj h (by rw [List.length_append, List.length_append, ha, hb])
    obtain ⟨ha, hb⟩ := List.append_inj hab ha
    exact ⟨ha, hb, hc⟩
  · rintro ⟨rfl, rfl, rfl⟩
    rfl

theorem packed_copyPlanes {frame : AVFrame} (hframe : frame.Allocated) {yuvData : List UInt8}
    (hyuv : yuvData.length = frame.width * frame.height * 3 / 2) (i : Fin 3) :
    packed (MediaEncoder.copyPlanes frame.width frame.height frame yuvData) i =
        part frame.width frame.height yuvData i ↔
      RowsAgree (part frame.width frame.height yuvData i) (frame.data i).data (frame.linesize i)
        (planeWidth frame.width i) (planeRows frame.height i) := by
  have hlen := length_part hframe.width_even hframe.height_even hyuv i
  have hfits := le_trans (Nat.mul_le_mul_left _ (hframe.width_le i)) (hframe.size_le i)
  have hheld : planeRows frame.height i * frame.linesize i ≤
      (held (part frame.width frame.height yuvData i) (frame.data i).data).length := by
    have hsize := hframe.size_le i
    rw [held, List.length_append, List.length_drop]
    omega
  rw [packed, width_copyPlanes, height_copyPlanes, linesize_copyPlanes, data_copyPlanes hframe hyuv,
    copy_start (by rw [hlen]; exact hfits),
    rowsAgree_iff hlen, ← pack_eq_iff (hframe.width_le i) le_rfl hheld hlen.ge, pack_self hlen]

/-- the copies undo each other plane by plane -/
theorem packPlanes_copyPlanes {frame : AVFrame} (hframe : frame.Allocated) {yuvData : List UInt8}
    (hyuv : yuvData.length = frame.width * frame.height * 3 / 2) (rawData : List UInt8) :
    (MediaDecoder.packPlanes (MediaEncoder.copyPlanes frame.width frame.height frame yuvData) rawData).data = yuvData ↔
      ∀ i, packed (MediaEncoder.copyPlanes frame.width frame.height frame yuvData) i =
        part frame.width frame.height yuvData i := by
  have hlen : ∀ i, (packed (MediaEncoder.copyPlanes frame.width frame.height frame yuvData) i).length =
      (part frame.width frame.height yuvData i).length := by
    intro i
    rw [length_packed (hframe.copyPlanes hyuv), width_copyPlanes, height_copyPlanes,
      length_part hframe.width_even hframe.height_even hyuv]
  rw [data_packPlanes (hframe.copyPlanes hyuv)]
  nth_rewrite 4 [← parts hframe.width_even hframe.height_even hyuv]
  rw [append_three_inj (hlen 0) (hlen 1), forall_plane]

/-- copying a buffer into the planes and packing the planes gives the buffer back if and only if, in every plane, the
rows are at the line size what they are at the plane's width -/
theorem packed_iff {frame : AVFrame} (hframe : frame.Allocated) {yuvData : List UInt8}
    (hyuv : yuvData.length = frame.width * frame.height * 3 / 2) (rawData : List UInt8) :
    (MediaDecoder.packPlanes (MediaEncoder.copyPlanes frame.width frame.height frame yuvData) rawData).data = yuvData ↔
      ∀ i, RowsAgree (part frame.width frame.height yuvData i) (frame.data i).data (frame.linesize i)
        (planeWidth frame.width i) (planeRows frame.height i) := by
  rw [packPlanes_copyPlanes hframe hyuv]
  exact forall_congr' fun i => packed_copyPlanes hframe hyuv i

/-- a picture of two by two pixels in planes whose line sizes are multiples of 32 -/
def padded : AVFrame where
  width := 2
  height := 2
  linesize := fun _ => 32
  data := fun i => Buf.alloc (planeRows 2 i * 32) 0

theorem padded_allocated : padded.Allocated := by
  constructor <;> decide

theorem packed_iff_padded :
    (MediaDecoder.packPlanes (MediaEncoder.copyPlanes 2 2 padded [9, 9, 0, 0, 5, 6]) []).data = [9, 9, 0, 0, 5, 6] ↔
      ∀ i, RowsAgree (part 2 2 [9, 9, 0, 0, 5, 6] i) (padded.data i).data (padded.linesize i) (planeWidth 2 i)
        (planeRows 2 i) :=
  packed_iff padded_allocated rfl []

/-- the second row of the picture is read where the encoder copied nothing -/
theorem second_row_lost : padded.Allocated ∧
    (MediaDecoder.packPlanes (MediaEncoder.copyPlanes 2 2 padded [1, 2, 3, 4, 5, 6]) []).data ≠ [1, 2, 3, 4, 5, 6] :=
  ⟨padded_allocated, by decide⟩

/-! ## Line sizes -/

/-- a plane of zeros with a mark at the start of its second row -/
def marked (width rows : ℕ) : List UInt8 := (List.replicate (rows * width) 0).set width 1

theorem length_marked (width rows : ℕ) : (marked width rows).length = rows * width := by
  simp [marked]

/-- read at another line size, the second row does not begin with the mark -/
theorem not_rowsAgree_marked {linesize width rows : ℕ} (hwidth : 0 < width) (hrows : 1 < rows)
    (hne : linesize ≠ width) (n : ℕ) : ¬RowsAgree (marked width rows) (List.replicate n 0) linesize width rows := by
  have hmark : (marked width rows)[width]? = some 1 := by
    have hlt : width < rows * width := (Nat.lt_mul_iff_one_lt_left hwidth).2 hrows
    rw [marked, List.getElem?_set_self (by rwa [List.length_replicate])]
  have hzero : ∀ v ∈ (held (marked width rows) (List.replicate n 0))[linesize]?, v = 0 := by
    intro v hv
    rw [held, List.getElem?_append] at hv
    split_ifs at hv with hlt
    · rw [marked, List.getElem?_set_ne hne.symm] at hv
      exact List.eq_of_mem_replicate (List.mem_of_getElem? hv)
    · exact List.eq_of_mem_replicate (List.mem_of_mem_drop (List.mem_of_getElem? hv))
  rintro (h | h)
  · exact hne h
  · have hrow := h 1 hrows Nat.one_pos 0 hwidth
    rw [Nat.one_mul, Nat.one_mul, Nat.add_zero, Nat.add_zero, hmark] at hrow
    exact absurd (hzero 1 hrow) (by decide)

/-- three planes, packed, have the planes as their parts -/
theorem part_append {width height : ℕ} (hwidth : width % 2 = 0) (hheight : height % 2 = 0) {m : Fin 3 → List UInt8}
    (hm : ∀ i, (m i).length = planeRows height i * planeWidth width i) :
    (m 0 ++ m 1 ++ m 2).length = width * height * 3 / 2 ∧ ∀ i, part width height (m 0 ++ m 1 ++ m 2) i = m i := by
  have hlen : (m 0 ++ m 1 ++ m 2).length = width * height * 3 / 2 := by
    have hluma : (m 0).length = height * width := hm 0
    have hU : (m 1).length = height / 2 * (width / 2) := hm 1
    have hV : (m 2).length = height / 2 * (width / 2) := hm 2
    rw [List.length_append, List.length_append, hluma, hU, hV, buffer_size hwidth hheight, quarter hwidth hheight,
      Nat.mul_comm width]
    omega
  have hpart := length_part hwidth hheight hlen
  have hparts := (append_three_inj (by rw [hpart, hm]) (by rw [hpart, hm])).1 (parts hwidth hheight hlen)
  exact ⟨hlen, forall_plane.2 hparts⟩

/-- every buffer comes back if and only if every plane with more than one row has its width as line size -/
theorem packed_forall_iff {width height : ℕ} {linesize : Fin 3 → ℕ} (hwidth : 0 < width) (hwidth' : width % 2 = 0)
    (hheight : 0 < height) (hheight' : height % 2 = 0) (hle : ∀ i, planeWidth width i ≤ linesize i) :
    (∀ data, (⟨width, height, linesize, data⟩ : AVFrame).Allocated →
      ∀ yuvData : List UInt8, yuvData.length = width * height * 3 / 2 → ∀ rawData,
        (MediaDecoder.packPlanes (MediaEncoder.copyPlanes width height ⟨width, height, linesize, data⟩ yuvData)
          rawData).data = yuvData) ↔
      ∀ i, planeRows height i ≤ 1 ∨ linesize i = planeWidth width i := by
  constructor
  · intro h i
    by_contra hi
    rw [not_or, not_le] at hi
    have hframe : (⟨width, height, linesize, fun i => Buf.alloc (planeRows height i * linesize i) 0⟩ :
        AVFrame).Allocated := by
      refine ⟨hwidth, hwidth', hheight, hheight', hle, fun i => ?_⟩
      rw [Buf.length_alloc]
    have hhalf : 0 < width / 2 := Nat.div_pos (by omega) two_pos
    have hpos : ∀ i, 0 < planeWidth width i := forall_plane.2 ⟨hwidth, hhalf, hhalf⟩
    obtain ⟨hlen, hpart⟩ := part_append hwidth' hheight'
      (m := fun i => marked (planeWidth width i) (planeRows height i)) fun i => length_marked _ _
    have hpacked := (packPlanes_copyPlanes hframe hlen []).1 (h _ hframe _ hlen []) i
    have hagree := (packed_copyPlanes hframe hlen i).1 hpacked
    rw [hpart] at hagree
    exact not_rowsAgree_marked (hpos i) hi.1 hi.2 _ hagree
  · intro h data hframe yuvData hyuv rawData
    refine (packPlanes_copyPlanes hframe hyuv rawData).2 fun i => (packed_copyPlanes hframe hyuv i).2 ?_
    rcases h i with hrows | hequal
    · exact Or.inr fun k hk hpos => absurd (lt_of_lt_of_le hk hrows) (Nat.not_lt.2 hpos)
    · exact Or.inl hequal

end AVFrame

end Rtcom
