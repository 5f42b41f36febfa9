/-
`MediaDecoder::Decode`: the picture that leaves it, byte by byte. The buffer has a size computed as y_size plus twice
y_size / 4, the loops run over half the height and half the width, each rounded down: with an odd size the loops stop
short of the parts.

The place of a row in its plane, the row's number times the line size, is an `int` in the source too. It is taken to fit
into one: FFmpeg hands out no picture with a plane of more than INT_MAX bytes.

- `written_packPlanes`: the indices the three loops write.
- `decode_packed`: they lie inside the buffer, no two loops write one index, and with an even size the buffer is the
  picture in I420, each byte taken from its plane at the line size.
-/
import Mathlib.Tactic
import Rtcom.Media.Planes

namespace Rtcom

open Access Strided AVFrame

namespace AVFrame

/-- planes as FFmpeg hands them out: no row is wider than its line size, and the rows are there; that they have no more
than INT_MAX bytes is left out -/
structure Lines (frame : AVFrame) : Prop where
  width_le : ∀ i, planeWidth frame.width i ≤ frame.linesize i
  size_le : ∀ i, planeRows frame.height i * frame.linesize i ≤ (frame.data i).data.length

end AVFrame

namespace MediaDecoder

/-- `Decode`, with the answers of the codec: `avcodec_send_packet` takes the packet, `avcodec_receive_frame` gives a
frame; the buffer, and the two sizes -/
def decode (initialized : Bool) (encodedData : List UInt8) (sent : Bool) (received : Option AVFrame)
    (rawData : List UInt8) : Option (Buf UInt8 × ℕ × ℕ) :=
  if !initialized || encodedData.isEmpty then none
  else if !sent then none
  else received.map fun frame => (packPlanes frame rawData, frame.width, frame.height)

/-- where the rows of a plane begin in the buffer -/
def offset (frame : AVFrame) : Fin 3 → ℕ
  | 0 => 0
  | 1 => frame.width * frame.height
  | 2 => frame.width * frame.height + frame.width * frame.height / 4

/-- the buffer as `resize` leaves it -/
def resized (frame : AVFrame) (rawData : List UInt8) : Buf UInt8 :=
  ⟨rawData.takeD (frame.width * frame.height + 2 * (frame.width * frame.height / 4)) 0, []⟩

/-- the loop over a plane -/
def copyPlane (frame : AVFrame) (raw : Buf UInt8) (i : Fin 3) : Buf UInt8 :=
  raw.copyRows (offset frame i) (frame.data i).data (frame.linesize i) (planeWidth frame.width i)
    (planeRows frame.height i)

theorem packPlanes_eq (frame : AVFrame) (rawData : List UInt8) :
    packPlanes frame rawData = copyPlane frame (copyPlane frame (copyPlane frame (resized frame rawData) 0) 1) 2 := rfl

/-- the indices that the loop over a plane writes -/
def writes (frame : AVFrame) (i : Fin 3) : List ℕ := (copyPlane frame ⟨[], []⟩ i).written

/-- the buffer is the picture: row behind row, plane behind plane -/
structure IsI420 (frame : AVFrame) (raw : List UInt8) : Prop where
  size : raw.length = frame.width * frame.height + 2 * (frame.width / 2 * (frame.height / 2))
  luma : ∀ i < frame.height, ∀ j < frame.width,
    raw[i * frame.width + j]? = (frame.data 0).data[i * frame.linesize 0 + j]?
  chromaU : ∀ i < frame.height / 2, ∀ j < frame.width / 2,
    raw[frame.width * frame.height + i * (frame.width / 2) + j]? = (frame.data 1).data[i * frame.linesize 1 + j]?
  chromaV : ∀ i < frame.height / 2, ∀ j < frame.width / 2,
    raw[frame.width * frame.height + frame.width / 2 * (frame.height / 2) + i * (frame.width / 2) + j]? =
      (frame.data 2).data[i * frame.linesize 2 + j]?

variable {frame : AVFrame}

/-- rounding down twice is not more than rounding down once -/
theorem halves_le (width height : ℕ) : height / 2 * (width / 2) ≤ width * height / 4 := by
  rw [Nat.le_div_iff_mul_le (by norm_num)]
  calc height / 2 * (width / 2) * 4 = height / 2 * 2 * (width / 2 * 2) := by ring
    _ ≤ height * width := Nat.mul_le_mul (Nat.div_mul_le_self height 2) (Nat.div_mul_le_self width 2)
    _ = width * height := Nat.mul_comm _ _

theorem written_copyPlane (h : frame.Lines) (raw : Buf UInt8) (i : Fin 3) : (copyPlane frame raw i).written =
    raw.written ++ List.range' (offset frame i) (planeRows frame.height i * planeWidth frame.width i) :=
  Buf.written_copyRows (h.width_le i) (h.size_le i)

theorem writes_eq (h : frame.Lines) (i : Fin 3) :
    writes frame i = List.range' (offset frame i) (planeRows frame.height i * planeWidth frame.width i) := by
  rw [writes, written_copyPlane h]
  exact List.nil_append _

/-- each plane's indices end before those of the next, and the last before the end of the buffer -/
theorem offset_add_le (frame : AVFrame) :
    offset frame 0 + planeRows frame.height 0 * planeWidth frame.width 0 ≤ offset frame 1 ∧
      offset frame 1 + planeRows frame.height 1 * planeWidth frame.width 1 ≤ offset frame 2 ∧
      offset frame 2 + planeRows frame.height 2 * planeWidth frame.width 2 ≤
        frame.width * frame.height + 2 * (frame.width * frame.height / 4) := by
  have hluma : frame.height * frame.width = frame.width * frame.height := Nat.mul_comm _ _
  have hchroma := halves_le frame.width frame.height
  simp only [offset, planeRows, planeWidth]
  omega

/-- what the three loops write -/
theorem written_packPlanes (h : frame.Lines) (rawData : List UInt8) :
    (packPlanes frame rawData).written = writes frame 0 ++ writes frame 1 ++ writes frame 2 := by
  rw [packPlanes_eq, written_copyPlane h, written_copyPlane h, written_copyPlane h, writes_eq h, writes_eq h,
    writes_eq h]
  rfl

theorem mem_writes (h : frame.Lines) {i : Fin 3} {k : ℕ} :
    k ∈ writes frame i ↔
      offset frame i ≤ k ∧ k < offset frame i + planeRows frame.height i * planeWidth frame.width i := by
  rw [writes_eq h, List.mem_range'_1]

/-- no two loops write one index -/
theorem writes_disjoint (h : frame.Lines) {i j : Fin 3} (hij : i ≠ j) : (writes frame i).Disjoint (writes frame j) := by
  have hends := offset_add_le frame
  intro k hi hj
  rw [mem_writes h] at hi hj
  have hsame : i = j := by
    match i, j with
    | 0, 0 | 1, 1 | 2, 2 => rfl
    | 0, 1 | 0, 2 | 1, 0 | 1, 2 | 2, 0 | 2, 1 => omega
  exact hij hsame

/-! ## The buffer -/

/-- the size that `resize` computes -/
def bufferSize (frame : AVFrame) : ℕ := frame.width * frame.height + 2 * (frame.width * frame.height / 4)

theorem length_resized (frame : AVFrame) (rawData : List UInt8) :
    (resized frame rawData).data.length = bufferSize frame := List.takeD_length ..

section Loop

variable {raw : Buf UInt8} (h : frame.Lines) (hraw : raw.data.length = bufferSize frame)

include hraw

/-- the loop over a plane fits into the buffer -/
theorem copyPlane_fits (i : Fin 3) :
    offset frame i + planeRows frame.height i * planeWidth frame.width i ≤ raw.data.length := by
  have hends := offset_add_le frame
  rw [hraw, bufferSize]
  match i with
  | 0 | 1 | 2 => omega

include h

theorem length_copyPlane (i : Fin 3) : (copyPlane frame raw i).data.length = bufferSize frame := by
  rw [copyPlane, Buf.length_copyRows (h.width_le i) (h.size_le i) (copyPlane_fits hraw i), hraw]

theorem getElem?_copyPlane (i : Fin 3) {r c : ℕ} (hr : r < planeRows frame.height i)
    (hc : c < planeWidth frame.width i) :
    (copyPlane frame raw i).data[offset frame i + r * planeWidth frame.width i + c]? =
      (frame.data i).data[r * frame.linesize i + c]? :=
  Buf.getElem?_copyRows (h.width_le i) (h.size_le i) (copyPlane_fits hraw i) hr hc

theorem getElem?_copyPlane_of_lt (i : Fin 3) {k : ℕ} (hk : k < offset frame i) :
    (copyPlane frame raw i).data[k]? = raw.data[k]? :=
  Buf.getElem?_copyRows_of_lt (h.width_le i) (h.size_le i) (copyPlane_fits hraw i) hk

end Loop

theorem length_packPlanes (h : frame.Lines) (rawData : List UInt8) :
    (packPlanes frame rawData).data.length = bufferSize frame := by
  rw [packPlanes_eq]
  apply length_copyPlane h
  apply length_copyPlane h
  apply length_copyPlane h
  exact length_resized frame rawData

/-- each byte of a plane, where its loop has put it -/
theorem getElem?_packPlanes (h : frame.Lines) (rawData : List UInt8) (i : Fin 3) {r c : ℕ}
    (hr : r < planeRows frame.height i) (hc : c < planeWidth frame.width i) :
    (packPlanes frame rawData).data[offset frame i + r * planeWidth frame.width i + c]? =
      (frame.data i).data[r * frame.linesize i + c]? := by
  have hends := offset_add_le frame
  have hrow := row_le (le_refl (planeWidth frame.width i)) hr
  have hraw := length_resized frame rawData
  have hY := length_copyPlane h hraw 0
  have hU := length_copyPlane h hY 1
  rw [packPlanes_eq]
  match i with
  | 0 =>
    rw [getElem?_copyPlane_of_lt h hU 2 (by omega), getElem?_copyPlane_of_lt h hY 1 (by omega)]
    exact getElem?_copyPlane h hraw 0 hr hc
  | 1 =>
    rw [getElem?_copyPlane_of_lt h hU 2 (by omega)]
    exact getElem?_copyPlane h hY 1 hr hc
  | 2 => exact getElem?_copyPlane h hU 2 hr hc

theorem inBounds_packPlanes (h : frame.Lines) (rawData : List UInt8) : (packPlanes frame rawData).InBounds := by
  have hends := offset_add_le frame
  intro k hk
  rw [length_packPlanes h, bufferSize]
  rw [written_packPlanes h, List.mem_append, List.mem_append, mem_writes h, mem_writes h, mem_writes h] at hk
  omega

theorem isI420_packPlanes (h : frame.Lines) (hwidth : frame.width % 2 = 0) (hheight : frame.height % 2 = 0)
    (rawData : List UInt8) : IsI420 frame (packPlanes frame rawData).data := by
  have hquarter : frame.width * frame.height / 4 = frame.width / 2 * (frame.height / 2) :=
    (quarter hwidth hheight).trans (Nat.mul_comm _ _)
  refine ⟨?_, fun r hr c hc => ?_, fun r hr c hc => getElem?_packPlanes h rawData 1 hr hc, fun r hr c hc => ?_⟩
  · rw [length_packPlanes h, bufferSize, hquarter]
  · have hluma := getElem?_packPlanes h rawData 0 hr hc
    rwa [show offset frame 0 = 0 from rfl, Nat.zero_add] at hluma
  · rw [← hquarter]
    exact getElem?_packPlanes h rawData 2 hr hc

/-- **The decoded picture**. Below 2^30 pixels the size of the buffer is an `int`, and so is each place that the loops
write to. -/
theorem decode_packed {frame : AVFrame} (h : frame.Lines) (hpixels : frame.width * frame.height < 2 ^ 30)
    {initialized sent : Bool} {encodedData rawData : List UInt8} {raw : Buf UInt8} {outWidth outHeight : ℕ}
    (hdecode : decode initialized encodedData sent (some frame) rawData = some (raw, outWidth, outHeight)) :
    (outWidth = frame.width ∧ outHeight = frame.height ∧ raw.data.length < 2 ^ 31) ∧
      raw.InBounds ∧
      raw.written = writes frame 0 ++ writes frame 1 ++ writes frame 2 ∧
      (∀ i j, i ≠ j → (writes frame i).Disjoint (writes frame j)) ∧
      (frame.width % 2 = 0 → frame.height % 2 = 0 → IsI420 frame raw.data) := by
  rw [decode] at hdecode
  split_ifs at hdecode
  obtain ⟨rfl, rfl, rfl⟩ : packPlanes frame rawData = raw ∧ frame.width = outWidth ∧ frame.height = outHeight := by
    simpa using hdecode
  refine ⟨⟨rfl, rfl, ?_⟩, inBounds_packPlanes h rawData, written_packPlanes h rawData, ?_, ?_⟩
  · rw [length_packPlanes h, bufferSize]
    omega
  · exact fun i j hij => writes_disjoint h hij
  · exact fun hwidth hheight => isI420_packPlanes h hwidth hheight rawData

/-- four by two pixels, in planes with line sizes of 8 and 4 -/
def small : AVFrame where
  width := 4
  height := 2
  linesize := fun i => if i.val = 0 then 8 else 4
  data := fun i => ⟨if i.val = 0 then List.range' 10 16 |>.map UInt8.ofNat else [100, 101, 102, 103], []⟩

theorem decode_packed_small :
    ∃ raw, decode true [0, 0, 0, 1, 101] true (some small) [] = some (raw, 4, 2) ∧ IsI420 small raw.data ∧
      raw.data = [10, 11, 12, 13, 18, 19, 20, 21, 100, 101, 100, 101] := by
  have hlines : small.Lines := ⟨by decide, by decide⟩
  have hdecode : decode true [0, 0, 0, 1, 101] true (some small) [] = some (packPlanes small [], 4, 2) := rfl
  obtain ⟨-, -, -, -, hpicture⟩ := decode_packed hlines (by decide) hdecode
  exact ⟨packPlanes small [], hdecode, hpicture rfl rfl, by decide⟩

end MediaDecoder

end Rtcom
