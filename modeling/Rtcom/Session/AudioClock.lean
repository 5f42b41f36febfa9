/-
The RTP timestamps of the audio of a call. `SendAudioFrame` advances the timestamp by the samples it is given, before it
sends; if the encoder returns false it returns at once, and the samples of that call are left out. Without an encoder
the timestamp advances in any case.

- `Clocked`: what a run of `SendAudioFrame` leaves of the audio session, and how far the timestamp has come.
- `follows_clock_iff`: every packet sent has the initial timestamp and all samples so far, exactly if the samples left
  out before each packet amount to a multiple of 2^32, above all to none.
- `buffered_frame_lost`: an encoder that returns false once.
-/
import Mathlib.Tactic
import Rtcom.Lib.Runs
import Rtcom.Session.Media

namespace Rtcom

open Runs

/-- a call of `SendAudioFrame`: what `EncodeAudio` gives, if it returns true, and whether `sendto` succeeds -/
structure AudioCall where
  encoded : Option (List UInt8)
  samples : ℕ
  sendOk : Bool
deriving DecidableEq, Repr

namespace AudioCall

/-- all samples submitted -/
def submitted (calls : List AudioCall) : ℕ := (calls.map samples).sum

/-- the samples of the calls in which the encoder returned false -/
def leftOut (calls : List AudioCall) : ℕ := submitted (calls.filter fun call => call.encoded.isNone)

/-- the samples of the others -/
def encodedSamples (calls : List AudioCall) : ℕ := submitted (calls.filter fun call => call.encoded.isSome)

theorem submitted_eq (calls : List AudioCall) : submitted calls = encodedSamples calls + leftOut calls := by
  induction calls with
  | nil => rfl
  | cons call calls ih =>
    simp only [submitted, encodedSamples, leftOut, List.map_cons, List.sum_cons, List.filter_cons] at ih ⊢
    cases call.encoded <;> simp <;> omega

theorem leftOut_eq_zero {calls : List AudioCall} (h : ∀ call ∈ calls, call.encoded.isNone = false) :
    leftOut calls = 0 := by
  have hnone : (calls.filter fun call => call.encoded.isNone) = [] :=
    List.filter_eq_nil_iff.2 fun call hcall => by simp [h call hcall]
  rw [leftOut, hnone]
  rfl

theorem encodedSamples_concat (calls : List AudioCall) (call : AudioCall) :
    encodedSamples (calls ++ [call]) = encodedSamples calls + if call.encoded.isSome then call.samples else 0 := by
  cases h : call.encoded <;> simp [encodedSamples, submitted, List.filter_append, h]

end AudioCall

open AudioCall

namespace Session

def sendAudio (callId : String) (w : Session) (call : AudioCall) : Session :=
  (w.sendAudioFrame callId call.encoded call.samples call.sendOk).2.1

/-- the datagrams that a call sends: those of a call that returns true -/
def audioSent (callId : String) (w : Session) (call : AudioCall) : List Outgoing :=
  let (ok, _, sent) := w.sendAudioFrame callId call.encoded call.samples call.sendOk
  if ok then sent else []

/-- every packet sent in a run has the initial timestamp and the samples of all calls so far -/
def FollowsClock (callId : String) (initial : UInt32) (w : Session) (calls : List AudioCall) : Prop :=
  ∀ before call after, calls = before ++ call :: after →
    ∀ d ∈ audioSent callId (exec (sendAudio callId) w before) call,
      (RtpPacket.parse d.datagram).val.timestamp = initial + UInt32.ofNat (submitted (before ++ [call]))

end Session

namespace CallContext

/-- the datagrams that a call sends: those of a call that returns true -/
def audioSent (ctx : CallContext) (call : AudioCall) : List Outgoing :=
  let (ok, _, sent) := ctx.sendAudioFrame call.encoded call.samples call.sendOk
  if ok then sent else []

/-- the call sends a packet: the encoder and `sendto` succeed, and between them the packet gets to `sendto` -/
def SendsAudio (ctx : CallContext) (call : AudioCall) : Prop :=
  ∃ frame, call.encoded = some frame ∧
    ctx.audioRtp.Reaches (AacPacketizer.pack frame) ctx.audioTarget.1 ctx.audioTarget.2 ∧ call.sendOk = true

/-- a context after n samples have been sent from ctx -/
structure Clocked (ctx : CallContext) (n : ℕ) (ctx' : CallContext) : Prop where
  info : ctx'.info = ctx.info
  sendSocket : ctx'.audioRtp.sendSocket = ctx.audioRtp.sendSocket
  remoteAddr : ctx'.audioRtp.remoteAddr = ctx.audioRtp.remoteAddr
  remotePort : ctx'.audioRtp.remotePort = ctx.audioRtp.remotePort
  timestamp : ctx'.audioRtp.currentTimestamp = ctx.audioRtp.currentTimestamp + UInt32.ofNat n

variable {ctx ctx' : CallContext} {n : ℕ}

theorem Clocked.refl (ctx : CallContext) : Clocked ctx 0 ctx := ⟨rfl, rfl, rfl, rfl, (UInt32.add_zero _).symm⟩

/-- whether a packet gets to `sendto` does not depend on the counters -/
theorem Clocked.reaches_iff (h : Clocked ctx n ctx') (samples : UInt32) (payload : List UInt8) :
    (ctx'.audioRtp.advanceTimestamp samples).Reaches payload ctx'.audioTarget.1 ctx'.audioTarget.2 ↔
      ctx.audioRtp.Reaches payload ctx.audioTarget.1 ctx.audioTarget.2 := by
  rw [audioTarget, audioTarget, h.info]
  exact RtpSession.reaches_congr h.sendSocket h.remoteAddr h.remotePort

/-- **One call**: the timestamp advances if the encoder returns true -/
theorem Clocked.sendAudioFrame (h : Clocked ctx n ctx') (call : AudioCall) :
    Clocked ctx (n + if call.encoded.isSome then call.samples else 0)
      (ctx'.sendAudioFrame call.encoded call.samples call.sendOk).2.1 := by
  obtain ⟨encoded, samples, sendOk⟩ := call
  cases encoded with
  | none => exact h
  | some frame =>
    obtain ⟨seq, packets, bytes, hframe⟩ := (ctx'.audioRtp.advanceTimestamp (UInt32.ofNat samples)).sendTo_frame
      ctx'.audioTarget (AacPacketizer.pack frame) false sendOk
    have hrtp : (ctx'.sendAudioFrame (some frame) samples sendOk).2.1 = { ctx' with audioRtp :=
        { ctx'.audioRtp.advanceTimestamp (UInt32.ofNat samples) with
          currentSeq := seq, packetsSent := packets, bytesSent := bytes } } := by
      rw [← hframe]
      rfl
    rw [hrtp]
    refine ⟨h.info, h.sendSocket, h.remoteAddr, h.remotePort, ?_⟩
    calc ctx'.audioRtp.currentTimestamp + UInt32.ofNat samples
        = ctx.audioRtp.currentTimestamp + UInt32.ofNat n + UInt32.ofNat samples := by rw [h.timestamp]
      _ = ctx.audioRtp.currentTimestamp + (UInt32.ofNat n + UInt32.ofNat samples) := UInt32.add_assoc ..
      _ = ctx.audioRtp.currentTimestamp + UInt32.ofNat (n + samples) := by rw [UInt32.ofNat_add]

/-- the timestamp of the one packet a call may send -/
theorem Clocked.audioSent (h : Clocked ctx n ctx') (call : AudioCall) :
    (∀ d ∈ ctx'.audioSent call, (RtpPacket.parse d.datagram).val.timestamp =
      ctx.audioRtp.currentTimestamp + UInt32.ofNat (n + call.samples)) ∧
      (ctx.SendsAudio call ↔ ctx'.audioSent call ≠ []) := by
  obtain ⟨encoded, samples, sendOk⟩ := call
  cases encoded with
  | none => exact ⟨nofun, iff_of_false (by rintro ⟨_, hnone, -⟩; cases hnone) (absurd rfl)⟩
  | some frame =>
    have hreaches := h.reaches_iff (UInt32.ofNat samples) (AacPacketizer.pack frame)
    rw [CallContext.audioSent, CallContext.sendAudioFrame]
    by_cases hsends : ctx.audioRtp.Reaches (AacPacketizer.pack frame) ctx.audioTarget.1 ctx.audioTarget.2
    · simp only [RtpSession.sendTo_of_reaches (hreaches.2 hsends)]
      cases sendOk with
      | false => exact ⟨nofun, iff_of_false (by rintro ⟨_, _, _, hok⟩; cases hok) (absurd rfl)⟩
      | true =>
        refine ⟨fun d hd => ?_, iff_of_true ⟨frame, rfl, hsends, rfl⟩ (List.cons_ne_nil _ _)⟩
        obtain rfl := List.mem_singleton.1 hd
        calc (RtpPacket.parse (((ctx'.audioRtp.advanceTimestamp (UInt32.ofNat samples)).outgoing ctx'.audioTarget
              (AacPacketizer.pack frame) false).datagram)).val.timestamp
            = ctx'.audioRtp.currentTimestamp + UInt32.ofNat samples := RtpSession.timestamp_nextDatagram false
          _ = ctx.audioRtp.currentTimestamp + UInt32.ofNat n + UInt32.ofNat samples := by rw [h.timestamp]
          _ = ctx.audioRtp.currentTimestamp + (UInt32.ofNat n + UInt32.ofNat samples) := UInt32.add_assoc ..
          _ = ctx.audioRtp.currentTimestamp + UInt32.ofNat (n + samples) := by rw [UInt32.ofNat_add]
    · simp only [RtpSession.sendTo_of_not_reaches (fun hr => hsends (hreaches.1 hr))]
      refine ⟨nofun, iff_of_false ?_ (absurd rfl)⟩
      rintro ⟨other, hother, hr, -⟩
      obtain rfl := Option.some.inj hother
      exact hsends hr

end CallContext

namespace Session

open CallContext

variable {callId : String} {w : Session} {ctx : CallContext}

theorem sendAudio_live (h : w.contexts.lookup callId = some ctx) (call : AudioCall) :
    (sendAudio callId w call).contexts.lookup callId =
        some (ctx.sendAudioFrame call.encoded call.samples call.sendOk).2.1 ∧
      audioSent callId w call = ctx.audioSent call := by
  rw [sendAudio, audioSent, sendAudioFrame, h]
  exact ⟨AList.lookup_insert _, rfl⟩

/-- **A run**: the context is where the samples encoded have brought it -/
theorem exec_clocked (h : w.contexts.lookup callId = some ctx) (calls : List AudioCall) :
    ∃ ctx', (exec (sendAudio callId) w calls).contexts.lookup callId = some ctx' ∧
      Clocked ctx (encodedSamples calls) ctx' := by
  induction calls using List.reverseRecOn with
  | nil => exact ⟨ctx, h, .refl ctx⟩
  | append_singleton calls call ih =>
    obtain ⟨ctx', hlive, hclock⟩ := ih
    refine ⟨(ctx'.sendAudioFrame call.encoded call.samples call.sendOk).2.1, ?_, ?_⟩
    · rw [exec_append]
      exact (sendAudio_live hlive call).1
    · rw [encodedSamples_concat]
      exact hclock.sendAudioFrame call

theorem ofNat_eq_zero_iff {n : ℕ} : UInt32.ofNat n = 0 ↔ 2 ^ 32 ∣ n := by
  rw [← UInt32.toNat_inj, UInt32.toNat_ofNat', Nat.dvd_iff_mod_eq_zero]
  rfl

/-- two sample counts make one timestamp -/
theorem timestamp_eq_iff (initial : UInt32) (n skipped : ℕ) :
    initial + UInt32.ofNat n = initial + UInt32.ofNat (n + skipped) ↔ 2 ^ 32 ∣ skipped := by
  rw [UInt32.ofNat_add, ← UInt32.add_assoc, eq_comm, ← ofNat_eq_zero_iff]
  refine ⟨?_, ?_⟩
  · intro h
    calc UInt32.ofNat skipped = initial + UInt32.ofNat n + UInt32.ofNat skipped - (initial + UInt32.ofNat n) := by
          grind
      _ = 0 := by rw [h, UInt32.sub_self]
  · intro h
    rw [h, UInt32.add_zero]

/-- the packet of a call has the right timestamp if what was left out before it is nothing to the clock -/
theorem timestamp_call_iff (hlive : w.contexts.lookup callId = some ctx) (before : List AudioCall) (call : AudioCall) :
    (∀ d ∈ audioSent callId (exec (sendAudio callId) w before) call, (RtpPacket.parse d.datagram).val.timestamp =
      ctx.audioRtp.currentTimestamp + UInt32.ofNat (submitted (before ++ [call]))) ↔
      (ctx.SendsAudio call → 2 ^ 32 ∣ leftOut before) := by
  obtain ⟨ctx', hlive', hclock⟩ := exec_clocked hlive before
  obtain ⟨htimestamp, hsends⟩ := hclock.audioSent call
  have hsum : submitted (before ++ [call]) = encodedSamples before + call.samples + leftOut before := by
    have htotal := submitted_eq before
    simp only [submitted, List.map_append, List.sum_append, List.map_singleton, List.sum_singleton] at htotal ⊢
    omega
  rw [(sendAudio_live hlive' call).2, hsends, hsum]
  refine ⟨?_, ?_⟩
  · intro h hne
    obtain ⟨d, hd⟩ := List.exists_mem_of_ne_nil _ hne
    rw [← timestamp_eq_iff ctx.audioRtp.currentTimestamp (encodedSamples before + call.samples)]
    exact (htimestamp d hd).symm.trans (h d hd)
  · intro h d hd
    rw [htimestamp d hd, timestamp_eq_iff]
    exact h (List.ne_nil_of_mem hd)

/-- **When the timestamps follow the samples**: in every run on a live call, exactly if before each packet sent the
samples of the calls in which the encoder returned false amount to a multiple of 2^32 -/
theorem follows_clock_iff (hlive : w.contexts.lookup callId = some ctx) (calls : List AudioCall) :
    FollowsClock callId ctx.audioRtp.currentTimestamp w calls ↔
      ∀ before call after, calls = before ++ call :: after → ctx.SendsAudio call → 2 ^ 32 ∣ leftOut before := by
  refine ⟨?_, ?_⟩
  · exact fun h before call after hsplit => (timestamp_call_iff hlive before call).1 (h before call after hsplit)
  · exact fun h before call after hsplit => (timestamp_call_iff hlive before call).2 (h before call after hsplit)

theorem connectedCall_reaches {payload : List UInt8} (h : payload.length ≤ kRtpMaxPayloadSize) :
    connectedCall.audioRtp.Reaches payload connectedCall.audioTarget.1 connectedCall.audioTarget.2 :=
  ⟨by decide, by decide, by decide, h⟩

theorem follows_clock_two : FollowsClock "a1" connectedCall.audioRtp.currentTimestamp connected
    [⟨some [1, 2, 3], 1024, true⟩, ⟨some [4, 5], 1024, false⟩] := by
  refine (follows_clock_iff connected_live _).2 fun before call after hsplit _ => ?_
  have hnone : leftOut before = 0 := by
    refine leftOut_eq_zero fun c hc => ?_
    have hall : ∀ c ∈ [(⟨some [1, 2, 3], 1024, true⟩ : AudioCall), ⟨some [4, 5], 1024, false⟩],
        c.encoded.isNone = false := by decide
    exact hall c (hsplit ▸ List.mem_append_left _ hc)
  rw [hnone]
  exact dvd_zero _

/-- **One call left out**: the encoder keeps 1024 samples, and the next packet is that much too early -/
theorem buffered_frame_lost : ¬ ∀ (callId : String) (w : Session) (ctx : CallContext),
    w.contexts.lookup callId = some ctx → ∀ calls, FollowsClock callId ctx.audioRtp.currentTimestamp w calls := by
  intro h
  have hclock := h "a1" connected connectedCall connected_live [⟨none, 1024, true⟩, ⟨some [1, 2, 3], 1024, true⟩]
  have hsends : connectedCall.SendsAudio ⟨some [1, 2, 3], 1024, true⟩ :=
    ⟨[1, 2, 3], rfl, connectedCall_reaches (by decide), rfl⟩
  have hdvd := (timestamp_call_iff connected_live [⟨none, 1024, true⟩] ⟨some [1, 2, 3], 1024, true⟩).1
    (hclock [⟨none, 1024, true⟩] ⟨some [1, 2, 3], 1024, true⟩ [] rfl) hsends
  revert hdvd
  decide

end Session

end Rtcom
