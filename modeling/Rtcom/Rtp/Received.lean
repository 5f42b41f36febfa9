/-
What `RtpPacket::Parse` keeps of a received datagram, whatever its bytes are.

- `val_parse_eq`: of a datagram of at least twelve bytes, the header and the `payloadLength` bytes from `payloadStart`
  on. Both are functions of the header bits, the extension's length word and the last byte.
- `within_parse`: no index outside the datagram is read.
- `payload_slice`: these bytes lie behind the CSRC list.
- `received_slices`: with `AacPacketizer::Unpack` behind it, as `OnRtpData` runs it.
- `forward_iff`: which packets are the same when they are serialised and parsed again. `Serialize` writes the CSRC
  count and the extension and padding bits as they were received, and `Parse` has taken away what they announce.
-/
import Mathlib.Tactic
import Rtcom.Rtp.Aac
import Rtcom.Rtp.Packet

namespace Rtcom

open Access Words

/-! ## The header of any datagram -/

namespace RtpHeader

theorem octet0_split : ∀ b : BitVec 8,
    b.extractLsb' 6 2 ++ BitVec.ofBool (b.getLsbD 5) ++ BitVec.ofBool (b.getLsbD 4) ++ b.extractLsb' 0 4 = b := by
  decide

theorem octet1_split : ∀ b : BitVec 8, BitVec.ofBool (b.getLsbD 7) ++ b.extractLsb' 0 7 = b := by
  decide

/-- the struct holds all bits of its twelve bytes -/
theorem store_load {m : List UInt8} (hm : kRtpHeaderSize ≤ m.length) : (load m).store = m.take kRtpHeaderSize := by
  have hbytes : m.take kRtpHeaderSize = (List.range kRtpHeaderSize).map fun i => m.getD i default := by
    refine List.ext_getElem (by simpa using hm) fun i hi _ => ?_
    rw [List.length_take] at hi
    rw [List.getElem_take, List.getElem_map, List.getElem_range, List.getD_eq_getElem _ _ (by omega)]
  have h0 : (load m).octet0 = m.getD 0 default := UInt8.eq_of_toBitVec_eq (octet0_split _)
  have h1 : (load m).octet1 = m.getD 1 default := UInt8.eq_of_toBitVec_eq (octet1_split _)
  rw [store, h0, h1, hbytes]
  simp only [load, store16_load16, store32_load32]
  rfl

end RtpHeader

namespace RtpPacket

/-! ## The bytes that are kept -/

/-- the length of the fixed header and the CSRC list the datagram announces -/
def csrcEnd (d : List UInt8) : ℕ := kRtpHeaderSize + (RtpHeader.load d).csrcCount.toNat * 4

/-- the first byte behind the headers -/
def payloadStart (d : List UInt8) : ℕ := csrcEnd d + extSize (RtpHeader.load d) (d.drop (csrcEnd d))

/-- the bytes kept from there on: the last byte of the datagram counts the padding -/
def payloadLength (d : List UInt8) : ℕ :=
  if (RtpHeader.load d).padding ∧ (d.getLastD default).toNat < d.length - payloadStart d then
    d.length - payloadStart d - (d.getLastD default).toNat
  else d.length - payloadStart d

theorem payloadStart_add_payloadLength_le {d : List UInt8} (h : payloadLength d ≠ 0) :
    payloadStart d + payloadLength d ≤ d.length := by
  unfold payloadLength at h ⊢
  split_ifs at h ⊢ <;> omega

/-- a datagram without room for its CSRC list has nothing behind it -/
theorem val_parse_of_length {d : List UInt8} (hd : kRtpHeaderSize ≤ d.length) :
    (parse d).val =
      ⟨RtpHeader.load d, unpad (RtpHeader.load d).padding (d.drop (payloadStart d))⟩ := by
  set h := RtpHeader.load d with hh
  have hstart : payloadStart d = kRtpHeaderSize + h.csrcCount.toNat * 4 + extSize h (d.drop (csrcEnd d)) := rfl
  by_cases hlen : kRtpHeaderSize + h.csrcCount.toNat * 4 ≤ d.length
  · set csrcs := (d.drop kRtpHeaderSize).take (h.csrcCount.toNat * 4) with hcsrcs
    set body := d.drop (csrcEnd d) with hbody
    have hc : csrcs.length = h.csrcCount.toNat * 4 := by
      rw [hcsrcs, List.length_take, List.length_drop]
      omega
    have hsplit : d = h.store ++ csrcs ++ body := by
      have hrest : (d.drop kRtpHeaderSize).drop (h.csrcCount.toNat * 4) = body := by rw [List.drop_drop, hbody]; rfl
      rw [hh, RtpHeader.store_load hd, List.append_assoc, hcsrcs, ← hrest, List.take_append_drop,
        List.take_append_drop]
    have hdrop := drop_split body hc (extSize h body)
    rw [← hsplit, ← hstart] at hdrop
    rw [hdrop]
    conv_lhs => rw [hsplit]
    exact val_parse body hc
  · have hoffset : payloadOffset h d = pure (kRtpHeaderSize + h.csrcCount.toNat * 4) := by
      rw [payloadOffset, if_neg (by omega)]
    have hload : RtpHeader.load ((d.drop 0).take kRtpHeaderSize) = h := by
      rw [List.drop_zero, ← RtpHeader.store_load hd, RtpHeader.load_store]
    have hnil : d.drop (payloadStart d) = [] := List.drop_of_length_le (by omega)
    rw [parse, if_neg (by omega)]
    simp only [Reads.val_bind, Reads.val_slice, hload, hoffset, Reads.val_pure]
    rw [if_neg (by omega), hnil]
    simp [unpad]

/-- **What `Parse` keeps** of a datagram: the header and one contiguous part -/
theorem val_parse_eq {d : List UInt8} (hd : kRtpHeaderSize ≤ d.length) :
    (parse d).val = ⟨RtpHeader.load d, (d.drop (payloadStart d)).take (payloadLength d)⟩ := by
  have hlast : payloadStart d < d.length → (d.drop (payloadStart d)).getLastD default = d.getLastD default := by
    intro h
    rw [List.getLastD_eq_getLast?, List.getLastD_eq_getLast?, List.getLast?_drop, if_neg (by omega)]
  rw [val_parse_of_length hd, unpad, payloadLength, List.length_drop]
  by_cases hrest : payloadStart d < d.length
  · rw [hlast hrest]
    split_ifs
    · rfl
    · rw [List.take_of_length_le (by rw [List.length_drop])]
  · rw [List.drop_of_length_le (by omega)]
    simp

theorem val_parse_of_short {d : List UInt8} (hd : d.length < kRtpHeaderSize) : (parse d).val = new := by
  rw [parse, if_pos hd]
  rfl

/-- **The payload is a part of the datagram**, from behind the CSRC list on -/
theorem payload_slice (d : List UInt8) : ∃ start, 12 + 4 * (parse d).val.header.csrcCount.toNat ≤ start ∧
    (parse d).val.payload = (d.drop start).take (parse d).val.payload.length ∧
    ((parse d).val.payload ≠ [] → start + (parse d).val.payload.length ≤ d.length) := by
  by_cases hd : d.length < kRtpHeaderSize
  · rw [val_parse_of_short hd]
    exact ⟨12, le_rfl, rfl, fun h => absurd rfl h⟩
  · rw [val_parse_eq (by omega)]
    refine ⟨payloadStart d, ?_, ?_, ?_⟩
    · show 12 + 4 * (RtpHeader.load d).csrcCount.toNat ≤ payloadStart d
      simp only [payloadStart, csrcEnd, kRtpHeaderSize]
      omega
    · rw [List.length_take, ← List.take_take, List.take_length]
    · intro hne
      have hpos := List.length_pos_of_ne_nil hne
      simp only [List.length_take, List.length_drop] at hpos ⊢
      omega

/-! ## No read outside the datagram -/

theorem within_payloadOffset (h : RtpHeader) (d : List UInt8) : (payloadOffset h d).Within d.length := by
  rw [payloadOffset]
  split_ifs with hx
  · simp only [Reads.within_bind, Reads.within_slice, Reads.within_pure, and_true]
    omega
  · exact Reads.within_pure _ _

theorem within_payloadLen (h : RtpHeader) {d : List UInt8} {rest : ℕ} (hr : rest ≤ d.length) :
    (payloadLen h d rest).Within d.length := by
  rw [payloadLen]
  split_ifs with hp
  · simp only [Reads.within_bind, Reads.within_elem, Reads.within_pure, and_true]
    omega
  · exact Reads.within_pure _ _

theorem payloadLen_le (h : RtpHeader) (d : List UInt8) (rest : ℕ) : (payloadLen h d rest).val ≤ rest := by
  rw [payloadLen]
  split_ifs with hp
  · simp only [Reads.val_bind, Reads.val_pure]
    split_ifs
    · exact Nat.sub_le _ _
    · exact le_rfl
  · exact le_rfl

/-- **`Parse` reads inside the datagram** -/
theorem within_parse (d : List UInt8) : (parse d).Within d.length := by
  rw [parse]
  split_ifs with hshort
  · exact Reads.within_pure _ _
  · rw [Reads.within_bind, Reads.within_bind, Reads.within_slice]
    refine ⟨Or.inr (by omega), within_payloadOffset _ d, ?_⟩
    set header := RtpHeader.load (Reads.slice d 0 kRtpHeaderSize).val
    set offset := (payloadOffset header d).val
    split_ifs with hrest
    · have hle := payloadLen_le header d (d.length - offset)
      rw [Reads.within_bind, Reads.within_bind, Reads.within_slice]
      exact ⟨within_payloadLen header (Nat.sub_le _ _), Or.inr (by omega), Reads.within_pure _ _⟩
    · exact Reads.within_pure _ _

/-- **A datagram on its way to the decoder.** For any bytes received, `Parse` and `Unpack` read inside what they are
given; the payload is a part of the datagram from behind the CSRC list on; the frame is a part of the payload of the
size its AU-header announces, and where there is none the output is left alone. -/
theorem received_slices (d old : List UInt8) :
    let packet := parse d
    let frame := AacPacketizer.unpack packet.val.payload old
    packet.Within d.length ∧ frame.Within packet.val.payload.length ∧
      (∃ start, 12 + 4 * packet.val.header.csrcCount.toNat ≤ start ∧
        packet.val.payload = (d.drop start).take packet.val.payload.length ∧
        (packet.val.payload ≠ [] → start + packet.val.payload.length ≤ d.length)) ∧
      (frame.val.1 = true → ∃ start,
        let size := (packet.val.payload.getD 2 default).toNat * 32 + (packet.val.payload.getD 3 default).toNat / 8
        frame.val.2 = (packet.val.payload.drop start).take size ∧ start + size ≤ packet.val.payload.length) ∧
      (frame.val.1 = false → frame.val.2 = old) := by
  intro packet frame
  exact ⟨within_parse d, AacPacketizer.within_unpack _ old, payload_slice d, AacPacketizer.unpack_slice _ old,
    AacPacketizer.unpack_fails _ old⟩

/-! ## Forwarding -/

/-- what a packet with the given header keeps of its payload when it is parsed again -/
def reparsed (h : RtpHeader) (payload : List UInt8) : List UInt8 :=
  let body := payload.drop (h.csrcCount.toNat * 4)
  unpad h.padding (body.drop (extSize h body))

theorem val_parse_serialize (p : RtpPacket) {bufferLen : ℕ} (hbuf : p.totalSize ≤ bufferLen) :
    (parse (p.serialize bufferLen).2).val = ⟨p.header, reparsed p.header p.payload⟩ := by
  have hwritten : (p.serialize bufferLen).2 = p.header.store ++ p.payload := by
    rw [serialize, if_neg (by omega)]
  have hlen := p.header.length_store
  have hload : RtpHeader.load (p.header.store ++ p.payload) = p.header := by
    have htake := RtpHeader.store_load (m := p.header.store ++ p.payload) (by rw [List.length_append]; omega)
    rw [List.take_left' hlen] at htake
    rw [← RtpHeader.load_store (RtpHeader.load _), htake, RtpHeader.load_store]
  have hbody : (p.header.store ++ p.payload).drop (csrcEnd (p.header.store ++ p.payload)) =
      p.payload.drop (p.header.csrcCount.toNat * 4) := by
    rw [csrcEnd, hload, ← hlen, List.drop_length_add_append]
  rw [hwritten, val_parse_of_length (by rw [List.length_append]; omega), payloadStart, ← List.drop_drop, hbody, hload]
  rfl

/-- what is kept is shorter by the CSRC list and the extension announced -/
theorem length_reparsed_le (h : RtpHeader) (payload : List UInt8) :
    (reparsed h payload).length ≤
      payload.length - h.csrcCount.toNat * 4 - extSize h (payload.drop (h.csrcCount.toNat * 4)) := by
  have hle := (unpad_isPrefixOf h.padding ((payload.drop (h.csrcCount.toNat * 4)).drop
    (extSize h (payload.drop (h.csrcCount.toNat * 4))))).length_le
  rwa [List.length_drop, List.length_drop] at hle

theorem extSize_eq_zero_iff (h : RtpHeader) (body : List UInt8) :
    extSize h body = 0 ↔ (h.extension → body.length ≤ 4) := by
  rw [extSize]
  split_ifs with hx
  · exact iff_of_false (by omega) fun hshort => absurd (hshort hx.1) (not_le.2 hx.2)
  · exact iff_of_true rfl fun hext => not_lt.1 fun hlong => hx ⟨hext, hlong⟩

theorem unpad_eq_self_iff (padding : Bool) {rest : List UInt8} (hne : rest ≠ []) :
    unpad padding rest = rest ↔
      (padding → (rest.getLastD default).toNat = 0 ∨ rest.length ≤ (rest.getLastD default).toNat) := by
  have hpos := List.length_pos_of_ne_nil hne
  rw [unpad]
  split_ifs with hcut
  · obtain ⟨hp, hlt⟩ := hcut
    constructor
    · intro heq _
      have hlen := congrArg List.length heq
      rw [List.length_take] at hlen
      omega
    · intro h
      have h0 : (rest.getLastD default).toNat = 0 := (h hp).resolve_right (not_le.2 hlt)
      rw [h0, Nat.sub_zero, List.take_length]
  · exact iff_of_true rfl fun hp => Or.inr (not_lt.1 fun hlt => hcut ⟨hp, hlt⟩)

/-- nothing is taken away the second time -/
theorem reparsed_eq_self_iff (h : RtpHeader) (payload : List UInt8) :
    reparsed h payload = payload ↔ payload = [] ∨
      (h.csrcCount = 0 ∧ (h.extension → payload.length ≤ 4) ∧
        (h.padding → (payload.getLastD default).toNat = 0 ∨ payload.length ≤ (payload.getLastD default).toNat)) := by
  have hzero : h.csrcCount = 0 ↔ h.csrcCount.toNat = 0 := by
    rw [← BitVec.toNat_inj]
    rfl
  by_cases hne : payload = []
  · rw [hne]
    simp [reparsed, unpad]
  rw [or_iff_right hne, ← extSize_eq_zero_iff, ← unpad_eq_self_iff _ hne, hzero]
  have hwhole : h.csrcCount.toNat = 0 → payload.drop (h.csrcCount.toNat * 4) = payload := by
    intro hcc
    rw [hcc, Nat.zero_mul, List.drop_zero]
  constructor
  · intro heq
    have hpos := List.length_pos_of_ne_nil hne
    have hlen := length_reparsed_le h payload
    rw [heq] at hlen
    have hcc : h.csrcCount.toNat = 0 := by omega
    rw [hwhole hcc] at hlen
    have hext : extSize h payload = 0 := by omega
    refine ⟨hcc, hext, ?_⟩
    rwa [reparsed, hwhole hcc, hext, List.drop_zero] at heq
  · intro hkept
    obtain ⟨hcc, hext, hunpad⟩ := hkept
    rwa [reparsed, hwhole hcc, hext, List.drop_zero]

/-- the datagrams that `Parse` and `Serialize` may be applied to again: those without a payload; of the others those
whose header announces no CSRC, an extension only over at most four payload bytes, and padding only over a payload whose
last byte is 0 or counts at least the whole payload -/
def Forwardable (d : List UInt8) : Prop :=
  payloadLength d = 0 ∨
    ((RtpHeader.load d).csrcCount = 0 ∧ ((RtpHeader.load d).extension → payloadLength d ≤ 4) ∧
      ((RtpHeader.load d).padding →
        let last := (d.getD (payloadStart d + payloadLength d - 1) default).toNat
        last = 0 ∨ payloadLength d ≤ last))

instance (d : List UInt8) : Decidable (Forwardable d) :=
  inferInstanceAs (Decidable (_ ∨ (_ ∧ _ ∧ (_ → _ ∨ _))))

/-- **Which datagrams can be forwarded**: serialised into a buffer that is large enough and parsed again, a packet has
its header, and its payload exactly where the datagram is forwardable -/
theorem forward_iff (d : List UInt8) (bufferLen : ℕ) (hd : 12 ≤ d.length) (hbuf : (parse d).val.totalSize ≤ bufferLen) :
    let forwarded := (parse ((parse d).val.serialize bufferLen).2).val
    forwarded.header = (parse d).val.header ∧
      (forwarded.payload = (parse d).val.payload ↔ Forwardable d) := by
  intro forwarded
  have hparse := val_parse_eq hd
  set payload := (d.drop (payloadStart d)).take (payloadLength d) with hpayload
  have hforwarded : forwarded = ⟨(parse d).val.header, reparsed (parse d).val.header (parse d).val.payload⟩ :=
    val_parse_serialize _ hbuf
  rw [hforwarded, hparse]
  refine ⟨rfl, ?_⟩
  show reparsed (RtpHeader.load d) payload = payload ↔ Forwardable d
  have hlen : payload.length = payloadLength d := by
    rw [hpayload, List.length_take, List.length_drop]
    by_cases h0 : payloadLength d = 0
    · omega
    · have hle := payloadStart_add_payloadLength_le h0
      omega
  have hnil : payload = [] ↔ payloadLength d = 0 := by rw [← List.length_eq_zero_iff, hlen]
  have hlast : payloadLength d ≠ 0 →
      payload.getLastD default = d.getD (payloadStart d + payloadLength d - 1) default := by
    intro h0
    have hle := payloadStart_add_payloadLength_le h0
    rw [List.getLastD_eq_getLast?, List.getLast?_eq_getElem?, hlen, hpayload, List.getElem?_take_of_lt (by omega),
      List.getElem?_drop, ← List.getD_eq_getElem?_getD]
    congr 1
    omega
  rw [reparsed_eq_self_iff, Forwardable, hnil, hlen]
  by_cases h0 : payloadLength d = 0
  · simp only [h0, true_or]
  · rw [hlast h0]

/-- a datagram of one CSRC and the payload 1, 2 -/
def oneCsrc : List UInt8 := [0x81, 96, 0, 1, 0, 0, 0, 2, 0, 0, 0, 3, 0, 0, 0, 9, 1, 2]

theorem forward_iff_oneCsrc :
    let forwarded := (parse ((parse oneCsrc).val.serialize 1500).2).val
    forwarded.header = (parse oneCsrc).val.header ∧
      (forwarded.payload = (parse oneCsrc).val.payload ↔ Forwardable oneCsrc) :=
  forward_iff oneCsrc 1500 (by decide) (by decide)

/-- **The payload is taken for the CSRC list** that the header still announces -/
theorem payload_lost_forwarding : ¬ ∀ (d : List UInt8) (bufferLen : ℕ), 12 ≤ d.length →
    (parse d).val.totalSize ≤ bufferLen →
    let forwarded := (parse ((parse d).val.serialize bufferLen).2).val
    forwarded.header = (parse d).val.header ∧ forwarded.payload = (parse d).val.payload := by
  intro h
  have hsame := (h oneCsrc 1500 (by decide) (by decide)).2
  revert hsame
  decide

end RtpPacket

end Rtcom
