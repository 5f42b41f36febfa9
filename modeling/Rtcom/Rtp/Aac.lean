/-
`AacPacketizer` of `src/rtp/rtp_packet.cpp`: one AAC access unit per RTP payload, behind two bytes of AU-headers-length
and a 13-bit AU-size. `unpack` is a `Reads` program over the payload, with the output vector passed in and out.

`Pack` announces an AU-headers-length of 0 bits and writes a 16-bit AU-header all the same, so `Unpack` starts the
access unit two bytes early. `unpack_pack` says what comes back (the two header bytes and all but the last two bytes of
the frame), `unpack_pack_iff` for which frames this is the frame itself.

`Unpack` alone follows the payload format: `unpack_hbr` gives the first of the access units of an AAC-hbr payload, as
RFC 3640 puts them together, and `within_unpack` says that nothing is read outside of any payload.
-/
import Mathlib.Tactic
import Rtcom.Lib.Access
import Rtcom.Lib.Words

namespace Rtcom

open Access Words

namespace AacPacketizer

/-! ## Model -/

def pack (aacData : List UInt8) : List UInt8 :=
  let auHeaderLen : UInt16 := 0
  let auSize : UInt16 := UInt16.ofNat aacData.length
  [((auHeaderLen >>> 8) &&& 0xFF).toUInt8, (auHeaderLen &&& 0xFF).toUInt8,
    ((auSize >>> 5) &&& 0xFF).toUInt8, ((auSize &&& 0x1F) <<< 3).toUInt8] ++ aacData

/-- the 13-bit AU-size in the two bytes of an AU-header -/
def auSize (b2 b3 : UInt8) : UInt16 := ((b2.toUInt16 <<< 5) ||| (b3 >>> 3).toUInt16) &&& 0x1FFF

/-- the offset of the AU data: the AU-headers-length is in bits -/
def auDataOffset (b0 b1 : UInt8) : ℕ := 2 + (((b0.toUInt16 <<< 8) ||| b1.toUInt16) / 8).toNat

def unpack (rtpPayload aacData : List UInt8) : Reads (Bool × List UInt8) := do
  if rtpPayload.length < 4 then
    pure (false, aacData)
  else
    let size := auSize (← Reads.elem rtpPayload 2) (← Reads.elem rtpPayload 3)
    let offset := auDataOffset (← Reads.elem rtpPayload 0) (← Reads.elem rtpPayload 1)
    if offset + size.toNat > rtpPayload.length then
      pure (false, aacData)
    else
      let unit ← Reads.slice rtpPayload offset size.toNat
      pure (true, unit)

/-! ## The AU-size field -/

/-- the upper eight of the thirteen bits -/
def sizeHigh (n : ℕ) : UInt8 := UInt8.ofNat (n / 32)

/-- the lower five, above the three bits of the AU-index -/
def sizeLow (n : ℕ) : UInt8 := UInt8.ofNat (n % 32 * 8)

theorem pack_eq (frame : List UInt8) (h : frame.length ≤ 8191) :
    pack frame = 0 :: 0 :: sizeHigh frame.length :: sizeLow frame.length :: frame := by
  have hhigh : ((UInt16.ofNat frame.length >>> 5) &&& 0xFF).toUInt8 = sizeHigh frame.length := by
    apply UInt8.toNat_inj.1
    simp [sizeHigh, Nat.shiftRight_eq_div_pow, Nat.and_two_pow_sub_one_eq_mod _ 8]
    omega
  have hlow : ((UInt16.ofNat frame.length &&& 0x1F) <<< 3).toUInt8 = sizeLow frame.length := by
    apply UInt8.toNat_inj.1
    simp [sizeLow, Nat.shiftLeft_eq, Nat.and_two_pow_sub_one_eq_mod _ 5]
  simp only [pack, hhigh, hlow]
  rfl

/-- the size in numbers: the low three bits of the second byte are not part of it -/
theorem auSize_toNat (b2 b3 : UInt8) : (auSize b2 b3).toNat = b2.toNat * 32 + b3.toNat / 8 := by
  have h2 := b2.toNat_lt
  have h3 := b3.toNat_lt
  have hlow : (b3 >>> 3).toNat = b3.toNat / 8 := by
    rw [UInt8.toNat_shiftRight, show UInt8.toNat 3 % 8 = 3 from rfl, Nat.shiftRight_eq_div_pow]
  have hor : b2.toNat <<< 5 ||| b3.toNat / 8 = b2.toNat * 32 + b3.toNat / 8 := by
    rw [← Nat.shiftLeft_add_eq_or_of_lt (show b3.toNat / 8 < 2 ^ 5 by omega), Nat.shiftLeft_eq]
  simp only [auSize, UInt16.toNat_and, UInt16.toNat_or, UInt16.toNat_shiftLeft, UInt8.toNat_toUInt16, hlow]
  rw [show UInt16.toNat 5 % 16 = 5 from rfl, Nat.mod_eq_of_lt (by rw [Nat.shiftLeft_eq]; omega), hor,
    show UInt16.toNat 8191 = 2 ^ 13 - 1 from rfl, Nat.and_two_pow_sub_one_eq_mod]
  omega

theorem auDataOffset_eq (b0 b1 : UInt8) : auDataOffset b0 b1 = 2 + (b0.toNat * 256 + b1.toNat) / 8 := by
  have h0 := b0.toNat_lt
  have h1 := b1.toNat_lt
  have hor : b0.toNat <<< 8 ||| b1.toNat = b0.toNat * 256 + b1.toNat := by
    rw [← Nat.shiftLeft_add_eq_or_of_lt (show b1.toNat < 2 ^ 8 by omega), Nat.shiftLeft_eq]
  simp only [auDataOffset, UInt16.toNat_div, UInt16.toNat_or, UInt16.toNat_shiftLeft, UInt8.toNat_toUInt16]
  rw [show UInt16.toNat 8 % 16 = 8 from rfl, Nat.mod_eq_of_lt (by rw [Nat.shiftLeft_eq]; omega), hor]
  rfl

theorem auSize_eq (n : ℕ) (h : n ≤ 8191) : (auSize (sizeHigh n) (sizeLow n)).toNat = n := by
  rw [auSize_toNat, sizeHigh, sizeLow, UInt8.toNat_ofNat', UInt8.toNat_ofNat']
  omega

/-! ## What Unpack computes -/

/-- where the payload says that the first access unit starts -/
def unitStart (rtpPayload : List UInt8) : ℕ := auDataOffset (rtpPayload.getD 0 default) (rtpPayload.getD 1 default)

/-- and how long it is -/
def unitSize (rtpPayload : List UInt8) : ℕ := (auSize (rtpPayload.getD 2 default) (rtpPayload.getD 3 default)).toNat

theorem val_unpack (rtpPayload aacData : List UInt8) :
    (unpack rtpPayload aacData).val =
      if rtpPayload.length < 4 ∨ rtpPayload.length < unitStart rtpPayload + unitSize rtpPayload then (false, aacData)
      else (true, (rtpPayload.drop (unitStart rtpPayload)).take (unitSize rtpPayload)) := by
  rw [unpack]
  by_cases hshort : rtpPayload.length < 4
  · rw [if_pos hshort, if_pos (Or.inl hshort)]
    rfl
  · rw [if_neg hshort]
    change Reads.val (if unitStart rtpPayload + unitSize rtpPayload > rtpPayload.length then pure (false, aacData)
      else Reads.slice rtpPayload (unitStart rtpPayload) (unitSize rtpPayload) >>= fun unit => pure (true, unit)) = _
    rw [apply_ite Reads.val]
    simp only [hshort, false_or]
    rfl

/-- the unit is a part of the payload, of the size its AU-header announces -/
theorem unpack_slice (rtpPayload aacData : List UInt8) (hok : (unpack rtpPayload aacData).val.1 = true) : ∃ start,
    let size := (rtpPayload.getD 2 default).toNat * 32 + (rtpPayload.getD 3 default).toNat / 8
    (unpack rtpPayload aacData).val.2 = (rtpPayload.drop start).take size ∧ start + size ≤ rtpPayload.length := by
  have hsize : unitSize rtpPayload = _ := auSize_toNat (rtpPayload.getD 2 default) (rtpPayload.getD 3 default)
  rw [val_unpack] at hok ⊢
  split_ifs at hok ⊢ with hbad
  refine ⟨unitStart rtpPayload, ?_⟩
  rw [← hsize]
  exact ⟨rfl, not_lt.1 (not_or.1 hbad).2⟩

theorem unpack_fails (rtpPayload aacData : List UInt8) (hfail : (unpack rtpPayload aacData).val.1 = false) :
    (unpack rtpPayload aacData).val.2 = aacData := by
  rw [val_unpack] at hfail ⊢
  split_ifs at hfail ⊢
  rfl

/-- **`Unpack` reads inside the payload** -/
theorem within_unpack (rtpPayload aacData : List UInt8) : (unpack rtpPayload aacData).Within rtpPayload.length := by
  rw [unpack]
  split_ifs with hshort
  · exact Reads.within_pure _ _
  · simp only [Reads.within_bind, Reads.within_elem]
    refine ⟨by omega, by omega, by omega, by omega, ?_⟩
    split_ifs with hlong
    · exact Reads.within_pure _ _
    · rw [Reads.within_bind, Reads.within_slice]
      exact ⟨Or.inr (by omega), Reads.within_pure _ _⟩

/-! ## AAC-hbr payloads -/

/-- an access unit as a payload of RFC 3640 in mode AAC-hbr carries it: its size has thirteen bits, its index three -/
structure AccessUnit where
  index : BitVec 3
  data : List UInt8
  short : data.length ≤ 8191

/-- the AU-header: AU-size and AU-index, in one word -/
def AccessUnit.header (u : AccessUnit) : List UInt8 := be16 ⟨BitVec.ofNat 13 u.data.length ++ u.index⟩

/-- the AU-headers-length in bits, a header for each unit, and the units -/
def hbrPayload (units : List AccessUnit) : List UInt8 :=
  be16 (UInt16.ofNat (16 * units.length)) ++ units.flatMap AccessUnit.header ++ units.flatMap AccessUnit.data

theorem length_headers (units : List AccessUnit) : (units.flatMap AccessUnit.header).length = 2 * units.length := by
  induction units with
  | nil => rfl
  | cons u units ih =>
    rw [List.flatMap_cons, List.length_append, ih, AccessUnit.header, length_be16, List.length_cons]
    omega

theorem toNat_byteOf {w : ℕ} (x : BitVec w) (k : ℕ) : (byteOf x k).toNat = x.toNat / 2 ^ (8 * k) % 256 := by
  show (x.extractLsb' (8 * k) 8).toNat = _
  rw [BitVec.extractLsb'_toNat, Nat.shiftRight_eq_div_pow]

/-- the thirteen bits of the header are the unit's size, whatever its index -/
theorem auSize_header (u : AccessUnit) (rest : List UInt8) :
    (auSize ((u.header ++ rest).getD 0 default) ((u.header ++ rest).getD 1 default)).toNat = u.data.length := by
  have hshort := u.short
  have hindex := u.index.isLt
  have hword : (BitVec.ofNat 13 u.data.length ++ u.index).toNat = u.data.length * 8 + u.index.toNat := by
    rw [BitVec.toNat_append, BitVec.toNat_ofNat, Nat.mod_eq_of_lt (by omega), ← Nat.shiftLeft_add_eq_or_of_lt hindex,
      Nat.shiftLeft_eq]
  simp only [AccessUnit.header, be16, List.cons_append, List.getD_cons_zero, List.getD_cons_succ, auSize_toNat,
    toNat_byteOf, hword]
  omega

/-- sixteen bits for each header: the units start behind the last one -/
theorem unitStart_hbrPayload {units : List AccessUnit} (hmax : units.length ≤ 4095) :
    unitStart (hbrPayload units) = 2 + 2 * units.length := by
  simp only [unitStart, hbrPayload, be16, List.cons_append, List.getD_cons_zero, List.getD_cons_succ, auDataOffset_eq,
    toNat_byteOf, UInt16.toNat_toBitVec, UInt16.toNat_ofNat']
  omega

/-- **The first access unit of an AAC-hbr payload** is what `Unpack` returns -/
theorem unpack_hbr (units : List AccessUnit) (hne : units ≠ []) (hmax : units.length ≤ 4095) (old : List UInt8) :
    (unpack (hbrPayload units) old).val = (true, (units.head hne).data) := by
  obtain ⟨u, rest, rfl⟩ := List.exists_cons_of_ne_nil hne
  set payload := hbrPayload (u :: rest) with hpayload
  set front := be16 (UInt16.ofNat (16 * (u :: rest).length)) ++ (u :: rest).flatMap AccessUnit.header with hfront
  have hsplit : payload = front ++ (u.data ++ rest.flatMap AccessUnit.data) := rfl
  have hlen : front.length = unitStart payload := by
    rw [unitStart_hbrPayload hmax, hfront, List.length_append, length_headers, length_be16]
  have hsize : unitSize payload = u.data.length :=
    auSize_header u (rest.flatMap AccessUnit.header ++ (u :: rest).flatMap AccessUnit.data)
  have htotal : payload.length = front.length + (u.data.length + (rest.flatMap AccessUnit.data).length) := by
    rw [hsplit]
    simp only [List.length_append]
  have hstart : unitStart payload = 2 + 2 * (rest.length + 1) := unitStart_hbrPayload hmax
  rw [val_unpack, hsize, if_neg (by omega), ← hlen, hsplit, List.drop_left, List.take_left, List.head_cons]

/-- two units, the second empty -/
theorem unpack_hbr_two : (unpack (hbrPayload [⟨0, [1, 2, 3], by decide⟩, ⟨1, [], by decide⟩]) []).val =
    (true, ([⟨0, [1, 2, 3], by decide⟩, ⟨1, [], by decide⟩].head (List.cons_ne_nil _ _) : AccessUnit).data) :=
  unpack_hbr _ (List.cons_ne_nil _ _) (by decide) []

/-! ## What comes back -/

/-- `Unpack` after `Pack`: the AU-header and the frame, cut to the frame's length -/
theorem unpack_pack (frame old : List UInt8) (h : frame.length ≤ 8191) :
    (unpack (pack frame) old).val =
      (true, (sizeHigh frame.length :: sizeLow frame.length :: frame).take frame.length) := by
  rw [pack_eq frame h, unpack, if_neg (by simp)]
  simp only [Reads.val_bind, Reads.val_elem, List.getD_cons_succ, List.getD_cons_zero, auSize_eq _ h]
  rw [show auDataOffset 0 0 = 2 from rfl, if_neg (by simp only [List.length_cons]; omega)]
  rfl

/-- a list is shifted by two into itself exactly when it alternates between the two elements put before it -/
theorem take_shift_eq_self {α : Type} (a b : α) (l : List α) :
    (a :: b :: l).take l.length = l ↔ ∀ i (hi : i < l.length), l[i] = if i % 2 = 0 then a else b := by
  constructor
  · intro h i
    have hget : ∀ i (hi : i < l.length), l[i] = (a :: b :: l).get ⟨i, by simp; omega⟩ := by
      intro i hi
      conv_lhs => rw [List.getElem_of_eq h.symm]
      exact List.getElem_take
    induction i using Nat.twoStepInduction with
    | zero => exact hget 0
    | one => exact hget 1
    | more i ih _ =>
      intro hi
      rw [hget _ hi, Nat.add_mod_right]
      exact ih (by omega)
  · intro h
    refine List.ext_getElem (by simp; omega) fun i _ hi => ?_
    rw [List.getElem_take, h i hi]
    match i, hi with
    | 0, _ => rfl
    | 1, _ => rfl
    | i + 2, hi =>
      rw [Nat.add_mod_right]
      exact h i (by omega)

/-- **Which frames survive `Pack` and `Unpack`**: those that repeat their own AU-header over and over -/
theorem unpack_pack_iff (frame old : List UInt8) (h : frame.length ≤ 8191) :
    (unpack (pack frame) old).val = (true, frame) ↔
      ∀ i (hi : i < frame.length),
        frame[i] = if i % 2 = 0 then sizeHigh frame.length else sizeLow frame.length := by
  rw [unpack_pack frame old h, Prod.mk.injEq, take_shift_eq_self]
  simp

/-- two bytes that happen to be the AU-header of a two-byte unit -/
theorem unpack_pack_iff_two : (unpack (pack [0, 16]) []).val = (true, [0, 16]) ↔
    ∀ i (hi : i < [(0 : UInt8), 16].length),
      [(0 : UInt8), 16][i] = if i % 2 = 0 then sizeHigh 2 else sizeLow 2 :=
  unpack_pack_iff [0, 16] [] (by decide)

/-- **The frame comes back shifted**: of a frame of the three bytes 1, 2, 3 the first byte is all that is left, behind
its AU-header -/
theorem unpack_pack_shifts : ¬ ∀ frame old : List UInt8, 1 ≤ frame.length → frame.length ≤ 8191 →
    (unpack (pack frame) old).val = (true, frame) := by
  intro h
  have h123 := h [1, 2, 3] [] (by decide) (by decide)
  revert h123
  decide

end AacPacketizer

end Rtcom
