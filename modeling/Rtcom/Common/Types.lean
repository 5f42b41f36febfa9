/-
The shared types and constants of `src/common/types.h`, and the byte-order functions of a little-endian host.

Fields and enumerators keep the source's names in lower camel case. `CallSessionInfo` has no initialisers for its
ports and SSRCs, so a new one holds whatever its memory held: `Uninit` is that content, and every creation of a call
takes one. Left out, as nothing reads it: `SipMethod`, `MediaDirection`, the texts of states and codecs, `use_glog`,
`log_dir`, the T2 and T4 timers, and of `CallSessionInfo` the call id, the caller, the remote SSRC, the RTP bases and
the times.
-/
import Mathlib.Tactic
import Rtcom.Lib.Words

namespace Rtcom

open Words

/-! ## Byte order -/

def htons (x : UInt16) : UInt16 := byteSwap16 x

def ntohs (x : UInt16) : UInt16 := byteSwap16 x

def htonl (x : UInt32) : UInt32 := byteSwap32 x

def ntohl (x : UInt32) : UInt32 := byteSwap32 x

theorem ntohs_htons (x : UInt16) : ntohs (htons x) = x := byteSwap16_byteSwap16 x

theorem ntohl_htonl (x : UInt32) : ntohl (htonl x) = x := byteSwap32_byteSwap32 x

/-- a native load of network-order bytes, converted -/
theorem ntohs_load16_be (x : UInt16) : ntohs (load16 (byteOf x.toBitVec 1) (byteOf x.toBitVec 0)) = x :=
  byteSwap16_byteSwap16 x

theorem ntohl_load32_be (x : UInt32) :
    ntohl (load32 (byteOf x.toBitVec 3) (byteOf x.toBitVec 2) (byteOf x.toBitVec 1) (byteOf x.toBitVec 0)) = x :=
  byteSwap32_byteSwap32 x

/-! ## Constants -/

def kRtpVersion : UInt8 := 2
def kRtpHeaderSize : ℕ := 12
def kRtpMaxPayloadSize : ℕ := 1460
def kJitterBufferMaxMs : UInt32 := 200
def kJitterBufferMinMs : UInt32 := 20

/-! ## SIP and media types -/

inductive SipCallState where
  | kIdle
  | kCalling
  | kRinging
  | kInProgress
  | kConnected
  | kDisconnecting
  | kDisconnected
  | kFailed
  | kRegistered
  | kUnregistered
deriving DecidableEq, Repr

inductive CodecType where
  | kAudioAAC
  | kVideoH264
  | kAudioPCMU
  | kAudioPCMA
deriving DecidableEq, Repr

inductive RtpPayloadType where
  | kPCMU
  | kPCMA
  | kAAC
  | kH264
deriving DecidableEq, Repr

/-- the enumerator's value -/
def RtpPayloadType.toUInt8 : RtpPayloadType → UInt8
  | .kPCMU => 0
  | .kPCMA => 8
  | .kAAC => 96
  | .kH264 => 97

/-! ## Configuration -/

structure SipConfig where
  serverAddr : String := "127.0.0.1"
  serverPort : UInt16 := 5060
  localAddr : String := "127.0.0.1"
  localPort : UInt16 := 5060
  username : String := "user"
  domain : String := "example.com"
  password : String := ""
  registerExpires : UInt32 := 3600
  retryT1Ms : UInt32 := 500
  maxRetransmit : UInt32 := 7
deriving DecidableEq, Repr

structure MediaConfig where
  audioPort : UInt16 := 5004
  videoPort : UInt16 := 5010
  audioCodec : CodecType := .kAudioAAC
  videoCodec : CodecType := .kVideoH264
  audioBitrate : UInt32 := 64000
  videoBitrate : UInt32 := 1000000
  audioSampleRate : UInt32 := 44100
  videoFps : UInt32 := 30
  videoWidth : UInt32 := 640
  videoHeight : UInt32 := 480
deriving DecidableEq, Repr

structure ServerConfig where
  sip : SipConfig := {}
  media : MediaConfig := {}
  maxSessions : UInt32 := 100
  workerThreads : UInt32 := 4
deriving DecidableEq, Repr

/-! ## Call session info -/

/-- the content of the memory a `CallSessionInfo` is created in, at its fields without an initialiser -/
structure Uninit where
  localSsrc : UInt32
  audioLocalPort : UInt16
  videoLocalPort : UInt16
  audioRemotePort : UInt16
  videoRemotePort : UInt16
deriving DecidableEq, Repr

structure CallSessionInfo where
  calleeUri : String
  state : SipCallState
  localSsrc : UInt32
  audioLocalPort : UInt16
  videoLocalPort : UInt16
  audioRemotePort : UInt16
  videoRemotePort : UInt16
  remoteRtpAddr : String
deriving DecidableEq, Repr

def CallSessionInfo.new (mem : Uninit) : CallSessionInfo where
  calleeUri := ""
  state := .kIdle
  localSsrc := mem.localSsrc
  audioLocalPort := mem.audioLocalPort
  videoLocalPort := mem.videoLocalPort
  audioRemotePort := mem.audioRemotePort
  videoRemotePort := mem.videoRemotePort
  remoteRtpAddr := ""

end Rtcom
