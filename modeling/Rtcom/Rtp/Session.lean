/-
`RtpSession` of `src/rtp/rtp_session.{h,cpp}` over `UdpSocket` of `src/net/udp_socket.{h,cpp}`. What the operating
system answers is a parameter: `SocketOutcome` for a socket that is opened, the result of `sendto` for a packet that is
sent, and the datagram `recvfrom` returns. Left out, as nothing reads them: the timestamp base and increment, the set of
received sequence numbers and the last one.

- `sendPacket_of_reaches`, `sendPacket_of_not_reaches`: what `SendPacket` does when it gets to `sendto` and when it does
  not; `sendPacket_eq_true`: when it returns true; `sendPacket_eq_false`: a call that returns false changes nothing.
-/
import Mathlib.Tactic
import Rtcom.Rtp.Packet

namespace Rtcom

/-! ## Sockets -/

/-- the answers to `socket`, `bind` and, for port 0, `getsockname` -/
structure SocketOutcome where
  fd : ℤ
  bindOk : Bool
  ephemeral : UInt16
deriving DecidableEq, Repr

/-- a socket and the port `getsockname` reports for it -/
structure UdpSocket where
  fd : ℤ
  localPort : UInt16
deriving DecidableEq, Repr

/-- `Create` and `Bind`; a socket that is not bound reports port 0 -/
def UdpSocket.openAt (o : SocketOutcome) (port : UInt16) : Bool × UdpSocket :=
  if o.fd < 0 then (false, ⟨o.fd, 0⟩)
  else if !o.bindOk then (false, ⟨o.fd, 0⟩)
  else (true, ⟨o.fd, if port = 0 then o.ephemeral else port⟩)

/-! ## Sessions -/

structure RtpSession where
  ssrc : UInt32
  payloadType : RtpPayloadType
  currentSeq : UInt16
  currentTimestamp : UInt32
  sendSocket : Option UdpSocket
  recvSocket : Option UdpSocket
  remoteAddr : String
  remotePort : UInt16
  lastPacket : RtpPacket
  packetsSent : UInt32
  packetsReceived : UInt32
  bytesSent : UInt64
  bytesReceived : UInt64
deriving DecidableEq, Repr

namespace RtpSession

/-- the constructor; an SSRC of 0 is replaced by a random one, and the first timestamp is random -/
def new (ssrc : UInt32) (payloadType : RtpPayloadType) (randomSsrc randomTimestamp : UInt32) : RtpSession where
  ssrc := if ssrc ≠ 0 then ssrc else randomSsrc
  payloadType := payloadType
  currentSeq := 0
  currentTimestamp := randomTimestamp
  sendSocket := none
  recvSocket := none
  remoteAddr := ""
  remotePort := 0
  lastPacket := .new
  packetsSent := 0
  packetsReceived := 0
  bytesSent := 0
  bytesReceived := 0

def openSendSocket (r : RtpSession) (o : SocketOutcome) (localPort : UInt16) : Bool × RtpSession :=
  let (ok, socket) := UdpSocket.openAt o localPort
  (ok, { r with sendSocket := some socket })

def openRecvSocket (r : RtpSession) (o : SocketOutcome) (localPort : UInt16) : Bool × RtpSession :=
  let (ok, socket) := UdpSocket.openAt o localPort
  (ok, { r with recvSocket := some socket })

def localSendPort (r : RtpSession) : UInt16 := r.sendSocket.elim 0 UdpSocket.localPort

def localRecvPort (r : RtpSession) : UInt16 := r.recvSocket.elim 0 UdpSocket.localPort

def sendFd (r : RtpSession) : ℤ := r.sendSocket.elim (-1) UdpSocket.fd

def recvFd (r : RtpSession) : ℤ := r.recvSocket.elim (-1) UdpSocket.fd

/-- `SendPacket`: the result, the session and the datagram handed to `sendto`, if any -/
def sendPacket (r : RtpSession) (payload : List UInt8) (destAddr : String) (destPort : UInt16) (marker : Bool)
    (sendOk : Bool) : Bool × RtpSession × Option (List UInt8) :=
  if r.sendSocket = none then (false, r, none)
  else
    let dst := if destAddr.isEmpty then r.remoteAddr else destAddr
    let dport := if destPort ≠ 0 then destPort else r.remotePort
    if dst.isEmpty ∨ dport = 0 then (false, r, none)
    else
      let packet := RtpPacket.build r.payloadType.toUInt8 r.currentSeq r.currentTimestamp r.ssrc marker payload
      let (total, buffer) := packet.serialize (kRtpMaxPayloadSize + kRtpHeaderSize)
      if total = 0 then (false, r, none)
      else if !sendOk then (false, r, some buffer)
      else
        (true,
          { r with
            currentSeq := r.currentSeq + 1
            packetsSent := r.packetsSent + 1
            bytesSent := r.bytesSent + UInt64.ofNat total },
          some buffer)

/-- `ReceivePacket` of a datagram and its source, or of nothing -/
def receivePacket (r : RtpSession) (received : Option (List UInt8 × String × UInt16)) : ℤ × RtpSession :=
  if r.recvSocket = none then (-1, r)
  else
    match received with
    | none => (0, r)
    | some (buffer, srcAddr, srcPort) =>
      if buffer = [] then (0, r)
      else
        let r := if r.remoteAddr.isEmpty then { r with remoteAddr := srcAddr, remotePort := srcPort } else r
        (1, { r with
          lastPacket := (RtpPacket.parse buffer).val
          packetsReceived := r.packetsReceived + 1
          bytesReceived := r.bytesReceived + UInt64.ofNat buffer.length })

def advanceTimestamp (r : RtpSession) (increment : UInt32) : RtpSession :=
  { r with currentTimestamp := r.currentTimestamp + increment }

/-! ## Receiving a packet -/

/-- receiving leaves the socket and everything that sending uses and counts -/
theorem receivePacket_frame (r : RtpSession) (received : Option (List UInt8 × String × UInt16)) :
    let r' := (r.receivePacket received).2
    r'.recvSocket = r.recvSocket ∧ r'.ssrc = r.ssrc ∧ r'.payloadType = r.payloadType ∧
      r'.currentSeq = r.currentSeq ∧ r'.currentTimestamp = r.currentTimestamp ∧
      r'.packetsSent = r.packetsSent ∧ r'.bytesSent = r.bytesSent := by
  intro r'
  simp only [r', receivePacket]
  rcases received with _ | ⟨buffer, srcAddr, srcPort⟩
  · split_ifs <;> simp
  · simp only
    split_ifs <;> simp

theorem receivePacket_socket (r : RtpSession) (received : Option (List UInt8 × String × UInt16)) :
    (r.receivePacket received).2.recvSocket = r.recvSocket := (r.receivePacket_frame received).1

/-- a datagram that is not empty is received, counted and parsed -/
theorem receivePacket_some {r : RtpSession} (hsocket : r.recvSocket ≠ none) {datagram : List UInt8}
    (hne : datagram ≠ []) (source : String × UInt16) : ∃ r', r.receivePacket (some (datagram, source)) = (1, r') ∧
      r'.lastPacket = (RtpPacket.parse datagram).val ∧ r'.packetsReceived = r.packetsReceived + 1 := by
  obtain ⟨srcAddr, srcPort⟩ := source
  rw [receivePacket, if_neg hsocket]
  simp only [if_neg hne]
  refine ⟨_, rfl, rfl, ?_⟩
  split_ifs <;> rfl

/-- without a socket, and where no bytes arrive, nothing is received -/
theorem receivePacket_nothing {r : RtpSession} {received : Option (List UInt8 × String × UInt16)}
    (h : r.recvSocket = none ∨ ∀ datagram source, received = some (datagram, source) → datagram = []) :
    (r.receivePacket received).1 ≤ 0 := by
  by_cases hsocket : r.recvSocket = none
  · unfold receivePacket
    rw [if_pos hsocket]
    exact Int.negSucc_le_zero 0
  · rcases received with _ | ⟨datagram, source⟩
    · rw [receivePacket, if_neg hsocket]
    · have hnil : datagram = [] := (h.resolve_left hsocket) datagram source rfl
      rw [receivePacket, if_neg hsocket]
      simp only [if_pos hnil, le_refl]

/-! ## Sending a packet -/

/-- `SendPacket` gets to `sendto`: there are a socket and a destination, and the packet fits the buffer -/
structure Reaches (r : RtpSession) (payload : List UInt8) (destAddr : String) (destPort : UInt16) : Prop where
  socket : r.sendSocket ≠ none
  addr : (if destAddr.isEmpty then r.remoteAddr else destAddr) ≠ ""
  port : (if destPort ≠ 0 then destPort else r.remotePort) ≠ 0
  fits : payload.length ≤ kRtpMaxPayloadSize

/-- sessions that differ in their counters only get as far -/
theorem reaches_congr {r r' : RtpSession} {payload : List UInt8} {destAddr : String} {destPort : UInt16}
    (hsocket : r'.sendSocket = r.sendSocket) (haddr : r'.remoteAddr = r.remoteAddr)
    (hport : r'.remotePort = r.remotePort) :
    r'.Reaches payload destAddr destPort ↔ r.Reaches payload destAddr destPort := by
  constructor
  · rintro ⟨h, h', h'', hfits⟩
    exact ⟨hsocket ▸ h, haddr ▸ h', hport ▸ h'', hfits⟩
  · rintro ⟨h, h', h'', hfits⟩
    exact ⟨hsocket.symm ▸ h, haddr.symm ▸ h', hport.symm ▸ h'', hfits⟩

/-- the datagram of the next packet -/
def nextDatagram (r : RtpSession) (payload : List UInt8) (marker : Bool) : List UInt8 :=
  (RtpPacket.build r.payloadType.toUInt8 r.currentSeq r.currentTimestamp r.ssrc marker payload).header.store ++ payload

/-- the session once a packet of this payload is sent -/
def afterSend (r : RtpSession) (payload : List UInt8) : RtpSession :=
  { r with
    currentSeq := r.currentSeq + 1
    packetsSent := r.packetsSent + 1
    bytesSent := r.bytesSent + UInt64.ofNat (kRtpHeaderSize + payload.length) }

section Send

variable {r : RtpSession} {payload : List UInt8} {destAddr : String} {destPort : UInt16} (marker : Bool)

@[simp] theorem length_nextDatagram :
    (r.nextDatagram payload marker).length = kRtpHeaderSize + payload.length := by
  rw [nextDatagram, List.length_append, RtpHeader.length_store]

/-- what a receiver reads in it -/
theorem sequence_nextDatagram : (RtpPacket.parse (r.nextDatagram payload marker)).val.sequence = r.currentSeq := by
  rw [nextDatagram, RtpPacket.val_parse_build]
  exact ntohs_htons r.currentSeq

theorem timestamp_nextDatagram :
    (RtpPacket.parse (r.nextDatagram payload marker)).val.timestamp = r.currentTimestamp := by
  rw [nextDatagram, RtpPacket.val_parse_build]
  exact ntohl_htonl r.currentTimestamp

theorem sendPacket_of_reaches (h : r.Reaches payload destAddr destPort) (sendOk : Bool) :
    r.sendPacket payload destAddr destPort marker sendOk =
      if sendOk then (true, r.afterSend payload, some (r.nextDatagram payload marker))
      else (false, r, some (r.nextDatagram payload marker)) := by
  have hdest : ¬ ((if destAddr.isEmpty then r.remoteAddr else destAddr).isEmpty ∨
      (if destPort ≠ 0 then destPort else r.remotePort) = 0) := by
    rw [not_or, String.isEmpty_iff]
    exact ⟨h.addr, h.port⟩
  have hfits := h.fits
  have hser := RtpPacket.serialize_build r.payloadType.toUInt8 r.currentSeq r.currentTimestamp r.ssrc marker payload
    (kRtpMaxPayloadSize + kRtpHeaderSize) (by omega)
  have htotal : ¬ kRtpHeaderSize + payload.length = 0 := by
    simp [kRtpHeaderSize]
  rw [sendPacket, if_neg h.socket]
  simp only [hser, if_neg htotal]
  rw [if_neg hdest]
  cases sendOk <;> rfl

theorem sendPacket_of_not_reaches (h : ¬ r.Reaches payload destAddr destPort) (sendOk : Bool) :
    r.sendPacket payload destAddr destPort marker sendOk = (false, r, none) := by
  unfold sendPacket
  by_cases hsocket : r.sendSocket = none
  · rw [if_pos hsocket]
  · rw [if_neg hsocket]
    by_cases hdest : (if destAddr.isEmpty then r.remoteAddr else destAddr).isEmpty ∨
        (if destPort ≠ 0 then destPort else r.remotePort) = 0
    · exact if_pos hdest
    · have hlong : kRtpMaxPayloadSize < payload.length := by
        by_contra hfits
        rw [not_or, String.isEmpty_iff] at hdest
        exact h ⟨hsocket, hdest.1, hdest.2, not_lt.1 hfits⟩
      have hser := RtpPacket.serialize_of_short
        (RtpPacket.build r.payloadType.toUInt8 r.currentSeq r.currentTimestamp r.ssrc marker payload)
        (kRtpMaxPayloadSize + kRtpHeaderSize) (by simp only [RtpPacket.totalSize, RtpPacket.build]; omega)
      simp only [hser, if_true]
      rw [if_neg hdest]

/-- **When `SendPacket` returns true** -/
theorem sendPacket_eq_true (sendOk : Bool) :
    (r.sendPacket payload destAddr destPort marker sendOk).1 = true ↔
      r.Reaches payload destAddr destPort ∧ sendOk = true := by
  by_cases h : r.Reaches payload destAddr destPort
  · rw [sendPacket_of_reaches marker h]
    cases sendOk <;> simp [h]
  · rw [sendPacket_of_not_reaches marker h]
    simp [h]

/-- **A call that returns false leaves the session as it is** -/
theorem sendPacket_eq_false {sendOk : Bool} (h : (r.sendPacket payload destAddr destPort marker sendOk).1 = false) :
    (r.sendPacket payload destAddr destPort marker sendOk).2.1 = r := by
  by_cases hreach : r.Reaches payload destAddr destPort
  · rw [sendPacket_of_reaches marker hreach] at h ⊢
    cases sendOk
    · rfl
    · cases h
  · rw [sendPacket_of_not_reaches marker hreach]

end Send

end RtpSession

end Rtcom
