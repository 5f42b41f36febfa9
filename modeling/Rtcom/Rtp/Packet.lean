/-
`RtpPacket` of `src/rtp/rtp_packet.{h,cpp}`: the RTP fixed header as the packed bit-field struct the code copies bytes
into, and `Parse`, `Serialize` and `Build`. `parse` is a `Reads` program: it returns the packet together with every
index of the datagram it reads.

`Datagram` is a well-formed RTP version 2 datagram, its optional parts present or not, and `Datagram.encode` its
bytes. `parse_encode_iff` says for which of them `parse` gives the fields and the payload back: for those that carry a
payload, and, of those that carry none, for those without padding and without an empty header extension. The two
exceptions are the two strict comparisons of `Parse`: an extension that ends the datagram is not skipped when it has no
words, and padding is not removed when nothing but padding follows the headers.
-/
import Mathlib.Tactic
import Rtcom.Lib.Access
import Rtcom.Common.Types

namespace Rtcom

open Access Words

/-! ## Model -/

/-- the packed header struct; the multi-byte fields hold network-order bytes loaded natively -/
structure RtpHeader where
  csrcCount : BitVec 4
  extension : Bool
  padding : Bool
  version : BitVec 2
  payloadType : BitVec 7
  marker : Bool
  sequenceNumber : UInt16
  timestamp : UInt32
  ssrc : UInt32
deriving DecidableEq, Repr

namespace RtpHeader

def zero : RtpHeader := ⟨0, false, false, 0, 0, false, 0, 0, 0⟩

/-- the struct over twelve bytes of memory -/
def load (m : List UInt8) : RtpHeader :=
  let b (i : ℕ) : UInt8 := m.getD i default
  { csrcCount := (b 0).toBitVec.extractLsb' 0 4
    extension := (b 0).toBitVec.getLsbD 4
    padding := (b 0).toBitVec.getLsbD 5
    version := (b 0).toBitVec.extractLsb' 6 2
    payloadType := (b 1).toBitVec.extractLsb' 0 7
    marker := (b 1).toBitVec.getLsbD 7
    sequenceNumber := load16 (b 2) (b 3)
    timestamp := load32 (b 4) (b 5) (b 6) (b 7)
    ssrc := load32 (b 8) (b 9) (b 10) (b 11) }

def octet0 (h : RtpHeader) : UInt8 :=
  ⟨h.version ++ BitVec.ofBool h.padding ++ BitVec.ofBool h.extension ++ h.csrcCount⟩

def octet1 (h : RtpHeader) : UInt8 := ⟨BitVec.ofBool h.marker ++ h.payloadType⟩

/-- the struct's twelve bytes -/
def store (h : RtpHeader) : List UInt8 :=
  h.octet0 :: h.octet1 :: (store16 h.sequenceNumber ++ store32 h.timestamp ++ store32 h.ssrc)

@[simp] theorem length_store (h : RtpHeader) : h.store.length = kRtpHeaderSize := by simp [store, kRtpHeaderSize]

theorem octet0_fields : ∀ (v : BitVec 2) (p x : Bool) (c : BitVec 4),
    let o : BitVec 8 := v ++ BitVec.ofBool p ++ BitVec.ofBool x ++ c
    o.extractLsb' 0 4 = c ∧ o.getLsbD 4 = x ∧ o.getLsbD 5 = p ∧ o.extractLsb' 6 2 = v := by
  decide

theorem octet1_fields : ∀ (m : Bool) (t : BitVec 7),
    let o : BitVec 8 := BitVec.ofBool m ++ t
    o.extractLsb' 0 7 = t ∧ o.getLsbD 7 = m := by
  decide

theorem load_store (h : RtpHeader) : load h.store = h := by
  obtain ⟨h1, h2, h3, h4⟩ := octet0_fields h.version h.padding h.extension h.csrcCount
  obtain ⟨h5, h6⟩ := octet1_fields h.marker h.payloadType
  simp only [load, store, octet0, octet1, store16, store32, List.cons_append, List.nil_append, List.getD_cons_zero,
    List.getD_cons_succ, h1, h2, h3, h4, h5, h6, load16_store16, load32_store32]

end RtpHeader

structure RtpPacket where
  header : RtpHeader
  payload : List UInt8
deriving DecidableEq, Repr

namespace RtpPacket

/-- the default constructor: a zeroed header, no payload -/
def new : RtpPacket := ⟨.zero, []⟩

def sequence (p : RtpPacket) : UInt16 := ntohs p.header.sequenceNumber
def timestamp (p : RtpPacket) : UInt32 := ntohl p.header.timestamp
def ssrc (p : RtpPacket) : UInt32 := ntohl p.header.ssrc
def marker (p : RtpPacket) : Bool := p.header.marker
def payloadType (p : RtpPacket) : UInt8 := ⟨p.header.payloadType.setWidth 8⟩
def totalSize (p : RtpPacket) : ℕ := kRtpHeaderSize + p.payload.length

/-- `Parse`, the offset after the CSRC list and the header extension -/
def payloadOffset (header : RtpHeader) (data : List UInt8) : Reads ℕ := do
  let csrcEnd := kRtpHeaderSize + header.csrcCount.toNat * 4
  if header.extension ∧ data.length > csrcEnd + 4 then
    let w ← Reads.slice data (csrcEnd + 2) 2
    let extLen := ntohs (load16 (w.getD 0 default) (w.getD 1 default))
    pure (csrcEnd + (4 + extLen.toNat * 4))
  else
    pure csrcEnd

/-- `Parse`, the payload length once the padding count in the last byte is applied -/
def payloadLen (header : RtpHeader) (data : List UInt8) (rest : ℕ) : Reads ℕ := do
  if header.padding ∧ rest > 0 then
    let padLen ← Reads.elem data (data.length - 1)
    pure (if padLen.toNat < rest then rest - padLen.toNat else rest)
  else
    pure rest

def parse (data : List UInt8) : Reads RtpPacket := do
  if data.length < kRtpHeaderSize then
    pure new
  else
    let header := RtpHeader.load (← Reads.slice data 0 kRtpHeaderSize)
    let offset ← payloadOffset header data
    if offset < data.length then
      let len ← payloadLen header data (data.length - offset)
      let payload ← Reads.slice data offset len
      pure ⟨header, payload⟩
    else
      pure ⟨header, []⟩

/-- the bytes written to a buffer of the given size, and the count returned; nothing is written when it is too small -/
def serialize (p : RtpPacket) (bufferLen : ℕ) : ℕ × List UInt8 :=
  if bufferLen < p.totalSize then (0, []) else (p.totalSize, p.header.store ++ p.payload)

def build (payloadType : UInt8) (seq : UInt16) (timestamp ssrc : UInt32) (marker : Bool)
    (payload : List UInt8) : RtpPacket :=
  { header :=
      { RtpHeader.zero with
        version := kRtpVersion.toBitVec.setWidth 2
        csrcCount := 0
        extension := false
        padding := false
        marker := marker
        payloadType := payloadType.toBitVec.setWidth 7
        sequenceNumber := htons seq
        timestamp := htonl timestamp
        ssrc := htonl ssrc }
    payload := payload }

end RtpPacket

/-! ## What parse computes -/

namespace RtpPacket

/-- the length in bytes of the header extension, where the code looks for one in what follows the CSRC list -/
def extSize (h : RtpHeader) (body : List UInt8) : ℕ :=
  if h.extension ∧ 4 < body.length then
    4 + (ntohs (load16 (body.getD 2 default) (body.getD 3 default))).toNat * 4
  else 0

/-- what the code keeps of the bytes after the headers: the last byte counts the padding -/
def unpad (padding : Bool) (rest : List UInt8) : List UInt8 :=
  if padding ∧ (rest.getLastD default).toNat < rest.length then
    rest.take (rest.length - (rest.getLastD default).toNat)
  else rest

theorem unpad_isPrefixOf (padding : Bool) (rest : List UInt8) : unpad padding rest <+: rest := by
  simp only [unpad]
  split_ifs
  · exact List.take_prefix _ _
  · exact List.prefix_refl _

/-- the last byte of the datagram is the last byte of what follows the headers -/
theorem val_payloadLen (h : RtpHeader) (pre body : List UInt8) (k : ℕ) (hk : k < body.length) :
    (payloadLen h (pre ++ body) (body.length - k)).val = (unpad h.padding (body.drop k)).length := by
  have hne : body ≠ [] := by
    rintro rfl
    simp at hk
  have hlast : (pre ++ body).getD ((pre ++ body).length - 1) default = (body.drop k).getLastD default := by
    rw [List.getD_eq_getElem?_getD, ← List.getLast?_eq_getElem?, List.getLastD_eq_getLast?, List.getLast?_drop,
      if_neg (by omega), List.getLast?_append_of_ne_nil _ hne]
  simp only [payloadLen, unpad]
  by_cases hp : h.padding = true
  · rw [if_pos ⟨hp, by omega⟩]
    simp only [Reads.val_bind, Reads.val_elem, Reads.val_pure, hlast, hp, true_and, List.length_drop]
    split_ifs with hlt
    · rw [List.length_take, List.length_drop, Nat.min_eq_left (by omega)]
    · rw [List.length_drop]
  · simp [hp]

/-! A datagram whose header announces the length of its CSRC list, and what follows that list. -/

section Split

variable {h : RtpHeader} {csrcs : List UInt8} (body : List UInt8) (hc : csrcs.length = h.csrcCount.toNat * 4)

include hc

theorem length_split : (h.store ++ csrcs ++ body).length =
    kRtpHeaderSize + h.csrcCount.toNat * 4 + body.length := by
  simp only [List.length_append, RtpHeader.length_store, hc]

theorem drop_split (k : ℕ) :
    (h.store ++ csrcs ++ body).drop (kRtpHeaderSize + h.csrcCount.toNat * 4 + k) = body.drop k := by
  rw [← hc, ← h.length_store, ← List.length_append, List.drop_length_add_append]

theorem val_payloadOffset : (payloadOffset h (h.store ++ csrcs ++ body)).val =
    kRtpHeaderSize + h.csrcCount.toNat * 4 + extSize h body := by
  have hget : ∀ k, k < 2 → (((h.store ++ csrcs ++ body).drop
      (kRtpHeaderSize + h.csrcCount.toNat * 4 + 2)).take 2).getD k default = body.getD (2 + k) default := by
    intro k hk
    rw [drop_split body hc, List.getD_eq_getElem?_getD, List.getD_eq_getElem?_getD, List.getElem?_take_of_lt hk,
      List.getElem?_drop]
  simp only [payloadOffset, extSize, length_split body hc]
  by_cases hx : h.extension ∧ 4 < body.length
  · rw [if_pos ⟨hx.1, by omega⟩, if_pos hx]
    simp only [Reads.val_bind, Reads.val_slice, Reads.val_pure, hget 0 (by omega), hget 1 (by omega)]
  · rw [if_neg (fun h' => hx ⟨h'.1, by omega⟩), if_neg hx]
    rfl

/-- **What `parse` returns**, for any header, CSRC list of the announced length and remaining bytes -/
theorem val_parse :
    (parse (h.store ++ csrcs ++ body)).val = ⟨h, unpad h.padding (body.drop (extSize h body))⟩ := by
  have hlen := length_split body hc
  have hload : RtpHeader.load (((h.store ++ csrcs ++ body).drop 0).take kRtpHeaderSize) = h := by
    rw [List.drop_zero, List.append_assoc, List.take_left' h.length_store, RtpHeader.load_store]
  rw [parse, if_neg (by omega)]
  simp only [Reads.val_bind, Reads.val_slice, hload, val_payloadOffset body hc]
  by_cases hk : extSize h body < body.length
  · have hrest : (h.store ++ csrcs ++ body).length - (kRtpHeaderSize + h.csrcCount.toNat * 4 + extSize h body) =
        body.length - extSize h body := by omega
    rw [if_pos (by omega), hrest]
    simp only [Reads.val_bind, Reads.val_slice, Reads.val_pure, val_payloadLen h _ body _ hk, drop_split body hc]
    rw [← List.prefix_iff_eq_take.1 (unpad_isPrefixOf _ _)]
  · rw [if_neg (by omega), List.drop_of_length_le (by omega)]
    simp [unpad]

end Split

/-! ## Packets the code builds -/

section Build

variable (payloadType : UInt8) (seq : UInt16) (timestamp ssrc : UInt32) (marker : Bool) (payload : List UInt8)

/-- a built packet announces no CSRC, extension or padding, so all that follows its header is payload -/
theorem val_parse_build : (parse ((build payloadType seq timestamp ssrc marker payload).header.store ++ payload)).val =
    build payloadType seq timestamp ssrc marker payload := by
  set p := build payloadType seq timestamp ssrc marker payload with hp
  have hparse : (parse (p.header.store ++ [] ++ payload)).val =
      ⟨p.header, unpad p.header.padding (payload.drop (extSize p.header payload))⟩ := val_parse payload rfl
  have hext : extSize p.header payload = 0 := rfl
  rw [List.append_nil, hext, List.drop_zero] at hparse
  exact hparse

theorem serialize_build (bufferLen : ℕ) (h : kRtpHeaderSize + payload.length ≤ bufferLen) :
    (build payloadType seq timestamp ssrc marker payload).serialize bufferLen =
      (kRtpHeaderSize + payload.length,
        (build payloadType seq timestamp ssrc marker payload).header.store ++ payload) := by
  have htotal : (build payloadType seq timestamp ssrc marker payload).totalSize = kRtpHeaderSize + payload.length := rfl
  rw [serialize, htotal, if_neg (by omega)]
  rfl

theorem serialize_of_short (p : RtpPacket) (bufferLen : ℕ) (h : bufferLen < p.totalSize) :
    p.serialize bufferLen = (0, []) := by
  rw [serialize, if_pos h]

/-- the payload type keeps its low seven bits -/
theorem payloadType_build (h : payloadType < 128) :
    (build payloadType seq timestamp ssrc marker payload).payloadType = payloadType := by
  have hlt : payloadType.toNat < 2 ^ 7 := UInt8.lt_iff_toNat_lt.1 h
  apply UInt8.toNat_inj.1
  show ((payloadType.toBitVec.setWidth 7).setWidth 8).toNat = payloadType.toNat
  rw [BitVec.toNat_setWidth, BitVec.toNat_setWidth, UInt8.toNat_toBitVec]
  omega

/-- **Serialising and parsing** a built packet gives its fields and its payload back, in any buffer that is large
enough; in any other nothing is written -/
theorem parse_serialize_build (bufferLen : ℕ) (h : payloadType < 128) :
    let p := build payloadType seq timestamp ssrc marker payload
    (12 + payload.length ≤ bufferLen →
      (p.serialize bufferLen).1 = 12 + payload.length ∧ (p.serialize bufferLen).2.length = 12 + payload.length ∧
        let q := (parse (p.serialize bufferLen).2).val
        q.payloadType = payloadType ∧ q.sequence = seq ∧ q.timestamp = timestamp ∧ q.ssrc = ssrc ∧
          q.marker = marker ∧ q.payload = payload) ∧
      (bufferLen < 12 + payload.length → p.serialize bufferLen = (0, [])) := by
  intro p
  constructor
  · intro hbuf
    have hser := serialize_build payloadType seq timestamp ssrc marker payload bufferLen hbuf
    rw [hser]
    refine ⟨rfl, ?_, ?_⟩
    · rw [List.length_append, RtpHeader.length_store]
      rfl
    · rw [val_parse_build]
      exact ⟨payloadType_build payloadType seq timestamp ssrc marker payload h, ntohs_htons seq, ntohl_htonl timestamp,
        ntohl_htonl ssrc, rfl, rfl⟩
  · exact serialize_of_short p bufferLen

/-- a packet of four bytes in a buffer of the usual size -/
theorem parse_serialize_build_four :
    let p := build 96 12345 67890 0xABCD1234 true [0, 1, 2, 3]
    (12 + 4 ≤ 1500 →
      (p.serialize 1500).1 = 12 + 4 ∧ (p.serialize 1500).2.length = 12 + 4 ∧
        let q := (parse (p.serialize 1500).2).val
        q.payloadType = 96 ∧ q.sequence = 12345 ∧ q.timestamp = 67890 ∧ q.ssrc = 0xABCD1234 ∧ q.marker = true ∧
          q.payload = [0, 1, 2, 3]) ∧
      (1500 < 12 + 4 → p.serialize 1500 = (0, [])) :=
  parse_serialize_build 96 12345 67890 0xABCD1234 true [0, 1, 2, 3] 1500 (by decide)

end Build

end RtpPacket

/-! ## Well-formed RTP datagrams -/

/-- a header extension: the profile word and any number of 32-bit words -/
structure HeaderExtension where
  profile : UInt16
  words : List UInt32
  count : words.length < 65536

def HeaderExtension.bytes (e : HeaderExtension) : List UInt8 :=
  be16 e.profile ++ be16 (UInt16.ofNat e.words.length) ++ e.words.flatMap be32

/-- padding: arbitrary octets and a last one that counts them and itself -/
structure Padding where
  filler : List UInt8
  count : filler.length < 255

def Padding.bytes (p : Padding) : List UInt8 := p.filler ++ [UInt8.ofNat (p.filler.length + 1)]

theorem HeaderExtension.length_bytes (e : HeaderExtension) : e.bytes.length = 4 + e.words.length * 4 := by
  simp only [HeaderExtension.bytes, List.length_append, length_be16, length_flatMap_be32]

/-- the length word is read back -/
theorem HeaderExtension.extLen (e : HeaderExtension) (rest : List UInt8) :
    (ntohs (load16 ((e.bytes ++ rest).getD 2 default) ((e.bytes ++ rest).getD 3 default))).toNat =
      e.words.length := by
  have := e.count
  simp only [HeaderExtension.bytes, be16, List.cons_append, List.nil_append, List.getD_cons_succ,
    List.getD_cons_zero, ntohs_load16_be, UInt16.toNat_ofNat']
  omega

theorem Padding.unpad_bytes (p : Padding) (payload : List UInt8) :
    RtpPacket.unpad true (payload ++ p.bytes) = if payload = [] then p.bytes else payload := by
  have hc := p.count
  have hlast : ((payload ++ p.bytes).getLastD default).toNat = p.filler.length + 1 := by
    rw [Padding.bytes, ← List.append_assoc, List.getLastD_concat, UInt8.toNat_ofNat']
    omega
  have hlen : (payload ++ p.bytes).length = payload.length + (p.filler.length + 1) := by
    simp only [Padding.bytes, List.length_append, List.length_singleton]
  rw [RtpPacket.unpad, hlast, hlen]
  split_ifs with h1 h2 h2
  · simp [h2] at h1
  · rw [Nat.add_sub_cancel, List.take_left]
  · rw [h2, List.nil_append]
  · have := List.length_pos_iff.2 h2
    exact absurd ⟨rfl, by omega⟩ h1

/-- a well-formed RTP version 2 datagram -/
structure Datagram where
  marker : Bool
  payloadType : BitVec 7
  sequence : UInt16
  timestamp : UInt32
  ssrc : UInt32
  csrcs : List UInt32
  csrc_count : csrcs.length ≤ 15
  extension : Option HeaderExtension
  payload : List UInt8
  padding : Option Padding

namespace Datagram

def octet0 (d : Datagram) : UInt8 :=
  ⟨(2 : BitVec 2) ++ BitVec.ofBool d.padding.isSome ++ BitVec.ofBool d.extension.isSome ++
    BitVec.ofNat 4 d.csrcs.length⟩

def octet1 (d : Datagram) : UInt8 := ⟨BitVec.ofBool d.marker ++ d.payloadType⟩

/-- what follows the CSRC list -/
def body (d : Datagram) : List UInt8 :=
  (d.extension.elim [] HeaderExtension.bytes) ++ (d.payload ++ d.padding.elim [] Padding.bytes)

/-- the datagram's bytes, in the order of the RTP header diagram -/
def encode (d : Datagram) : List UInt8 :=
  d.octet0 :: d.octet1 :: (be16 d.sequence ++ be32 d.timestamp ++ be32 d.ssrc) ++ d.csrcs.flatMap be32 ++ d.body

/-- the packet has the datagram's header fields and exactly its payload -/
structure Parsed (d : Datagram) (p : RtpPacket) : Prop where
  version : p.header.version = 2
  padding : p.header.padding = d.padding.isSome
  extension : p.header.extension = d.extension.isSome
  csrcCount : p.header.csrcCount.toNat = d.csrcs.length
  marker : p.marker = d.marker
  payloadType : p.header.payloadType = d.payloadType
  sequence : p.sequence = d.sequence
  timestamp : p.timestamp = d.timestamp
  ssrc : p.ssrc = d.ssrc
  payload : p.payload = d.payload

/-- the header struct over the datagram's first twelve bytes -/
def header (d : Datagram) : RtpHeader :=
  { csrcCount := BitVec.ofNat 4 d.csrcs.length
    extension := d.extension.isSome
    padding := d.padding.isSome
    version := 2
    payloadType := d.payloadType
    marker := d.marker
    sequenceNumber := htons d.sequence
    timestamp := htonl d.timestamp
    ssrc := htonl d.ssrc }

theorem encode_eq (d : Datagram) : d.encode = d.header.store ++ d.csrcs.flatMap be32 ++ d.body := by
  simp only [encode, RtpHeader.store, header, htons, htonl, store16_byteSwap16, store32_byteSwap32]
  rfl

theorem csrcCount_toNat (d : Datagram) : d.header.csrcCount.toNat = d.csrcs.length := by
  have := d.csrc_count
  simp only [header, BitVec.toNat_ofNat]
  omega

/-- the header extension is skipped unless it has no words and ends the datagram -/
theorem drop_extSize (d : Datagram)
    (h : d.payload ≠ [] ∨ d.padding ≠ none ∨ ∀ e, d.extension = some e → e.words ≠ []) :
    d.body.drop (RtpPacket.extSize d.header d.body) = d.payload ++ d.padding.elim [] Padding.bytes := by
  set rest := d.payload ++ d.padding.elim [] Padding.bytes with hrest
  cases he : d.extension with
  | none => simp [RtpPacket.extSize, header, body, he, hrest]
  | some e =>
    have hbody : d.body = e.bytes ++ rest := by simp only [body, he, Option.elim, hrest]
    have hlong : 4 < d.body.length := by
      rw [hbody, List.length_append, e.length_bytes]
      rcases h with h | h | h
      · have := List.length_pos_iff.2 h
        simp only [hrest, List.length_append]
        omega
      · obtain ⟨p, hp⟩ := Option.ne_none_iff_exists'.1 h
        simp only [hrest, hp, Option.elim, Padding.bytes, List.length_append, List.length_singleton]
        omega
      · have := List.length_pos_iff.2 (h e he)
        omega
    rw [RtpPacket.extSize, if_pos ⟨by simp [header, he], hlong⟩, hbody, e.extLen, ← e.length_bytes, List.drop_left]

/-- an extension without words that ends the datagram is not looked at -/
theorem drop_extSize_ne_nil (d : Datagram) (hp : d.payload = []) (hpad : d.padding = none) {e : HeaderExtension}
    (he : d.extension = some e) (hw : e.words = []) :
    d.body.drop (RtpPacket.extSize d.header d.body) ≠ [] := by
  have hbody : d.body = e.bytes := by simp [body, he, hp, hpad]
  have hlen : d.body.length = 4 := by rw [hbody, e.length_bytes, hw, List.length_nil]
  rw [RtpPacket.extSize, if_neg (by omega), List.drop_zero, hbody]
  simp [HeaderExtension.bytes, be16]

theorem val_parse_encode (d : Datagram) :
    (RtpPacket.parse d.encode).val =
      ⟨d.header, RtpPacket.unpad d.padding.isSome (d.body.drop (RtpPacket.extSize d.header d.body))⟩ := by
  rw [encode_eq]
  exact RtpPacket.val_parse d.body (by rw [length_flatMap_be32, csrcCount_toNat])

theorem parsed_iff (d : Datagram) (payload : List UInt8) : Parsed d ⟨d.header, payload⟩ ↔ payload = d.payload := by
  constructor
  · intro h
    exact h.payload
  · rintro rfl
    exact ⟨rfl, rfl, rfl, csrcCount_toNat d, rfl, rfl, ntohs_htons _, ntohl_htonl _, ntohl_htonl _, rfl⟩

/-- **Which datagrams `Parse` reads right.** The fields and the payload come back exactly when there is a payload, or
there is neither padding nor a header extension without words. -/
theorem parse_encode_iff (d : Datagram) :
    Parsed d (RtpPacket.parse d.encode).val ↔
      d.payload ≠ [] ∨ (d.padding = none ∧ ∀ e, d.extension = some e → e.words ≠ []) := by
  rw [val_parse_encode, parsed_iff]
  by_cases hp : d.payload = []
  · simp only [hp, ne_eq, not_true_eq_false, false_or]
    cases hpad : d.padding with
    | some p =>
      -- all padding: the count in the last byte equals the remaining length and is not applied
      rw [drop_extSize d (by simp [hpad]), hp, hpad]
      simp only [Option.isSome_some, Option.elim_some, p.unpad_bytes, if_true]
      simp [Padding.bytes]
    | none =>
      by_cases hx : ∀ e, d.extension = some e → e.words ≠ []
      · rw [drop_extSize d (Or.inr (Or.inr hx)), hp, hpad]
        simpa [RtpPacket.unpad] using hx
      · have hkeep : d.body.drop (RtpPacket.extSize d.header d.body) ≠ [] := by
          push Not at hx
          obtain ⟨e, he, hw⟩ := hx
          exact drop_extSize_ne_nil d hp hpad he hw
        simp only [Option.isSome_none, RtpPacket.unpad, Bool.false_eq_true, false_and, if_false, hkeep, hx, and_false]
  · simp only [ne_eq, hp, not_false_eq_true, true_or, iff_true]
    rw [drop_extSize d (Or.inl hp)]
    cases hpad : d.padding with
    | some p => simp only [Option.isSome_some, Option.elim_some, p.unpad_bytes, if_neg hp]
    | none => simp [RtpPacket.unpad]

/-- a datagram of four padding bytes after the fixed header -/
def allPadding : Datagram :=
  ⟨false, 96, 1, 2, 3, [], by decide, none, [], some ⟨[0, 0, 0], by decide⟩⟩

/-- **Padding is not removed from a datagram that carries nothing else**: `Parse` returns it as the payload -/
theorem all_padding_kept : ¬ ∀ d : Datagram, Parsed d (RtpPacket.parse d.encode).val := by
  intro h
  have hp := (h allPadding).payload
  revert hp
  decide

end Datagram

end Rtcom
