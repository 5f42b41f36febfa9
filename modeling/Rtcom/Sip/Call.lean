/-
`SipCall` of `src/sip/sip_call.{h,cpp}`. Times are nanoseconds of the steady clock. Left out, as nothing reads them:
the osip transactions and dialog, `last_rtp_time` and `start_time`.
-/
import Mathlib.Tactic
import Rtcom.Common.Types

namespace Rtcom

structure SipCall where
  callId : String
  localUri : String
  remoteUri : String
  state : SipCallState
  timerStart : ℕ
  timerDurationMs : UInt32
  retransmitCount : UInt32
  sessionInfo : CallSessionInfo
  lastError : String
deriving DecidableEq, Repr

namespace SipCall

def new (callId localUri remoteUri : String) (mem : Uninit) : SipCall where
  callId := callId
  localUri := localUri
  remoteUri := remoteUri
  state := .kIdle
  timerStart := 0
  timerDurationMs := 0
  retransmitCount := 0
  sessionInfo := .new mem
  lastError := ""

def setState (c : SipCall) (state : SipCallState) : SipCall :=
  if c.state ≠ state then { c with state := state, sessionInfo := { c.sessionInfo with state := state } } else c

def startTimer (c : SipCall) (timeoutMs : UInt32) (now : ℕ) : SipCall :=
  { c with timerStart := now, timerDurationMs := timeoutMs, retransmitCount := 0 }

/-- the milliseconds since the timer was started, cut to 32 bits -/
def elapsedMs (timerStart now : ℕ) : UInt32 := UInt32.ofNat ((now - timerStart) / 1000000)

def isTimerExpired (c : SipCall) (now : ℕ) : Bool :=
  if c.timerDurationMs = 0 then false else elapsedMs c.timerStart now ≥ c.timerDurationMs

def incrementRetransmit (c : SipCall) : SipCall := { c with retransmitCount := c.retransmitCount + 1 }

def setError (c : SipCall) (error : String) : SipCall := { c with lastError := error }

@[simp] theorem state_setState (c : SipCall) (state : SipCallState) : (c.setState state).state = state := by
  unfold setState
  split_ifs with h
  · rfl
  · exact not_not.1 h

@[simp] theorem callId_setState (c : SipCall) (state : SipCallState) : (c.setState state).callId = c.callId := by
  unfold setState
  split_ifs <;> rfl

@[simp] theorem state_startTimer (c : SipCall) (timeoutMs : UInt32) (now : ℕ) :
    (c.startTimer timeoutMs now).state = c.state := rfl

@[simp] theorem callId_startTimer (c : SipCall) (timeoutMs : UInt32) (now : ℕ) :
    (c.startTimer timeoutMs now).callId = c.callId := rfl

@[simp] theorem callId_new (callId localUri remoteUri : String) (mem : Uninit) :
    (new callId localUri remoteUri mem).callId = callId := rfl

end SipCall

end Rtcom
