/-
What a receive callback leaves behind in the jitter buffer. Its `Insert` marks every packet that has waited for the
delay in force, and one `Extract` follows, so of the packets that become due together one is handed on.

- `pass_ready`: a callback takes the first of the packets marked ready away, and leaves the others.
- `drained_iff`: no packet that is marked ready stays behind in a run exactly when no callback of it finds two due.
-/
import Mathlib.Tactic
import Rtcom.Session.Reception

namespace Rtcom

open Runs

/-! ## The jitter buffer -/

namespace JitterBuffer

variable (S : StdSort BufferItem.seq) (b : JitterBuffer) (packet : RtpPacket) (now : ℤ)

/-- the packets that may be extracted, front first -/
def ready (b : JitterBuffer) : List BufferItem := b.buffer.filter (·.ready)

/-- the packets that an `Insert` finds due: of those in the buffer with the new one, and not beyond its bound, those
that have waited for the delay in force -/
def due : List BufferItem :=
  let items := S.sort (b.buffer ++ [⟨packet, now, false⟩])
  (items.drop (items.length - kMaxBufferSize)).filter fun i =>
    toUInt32 (durationMs (now - i.arrivalTime)) ≥ b.currentDelayMs

theorem ready_insert :
    (b.insert S packet now).ready = (b.due S packet now).map (BufferItem.mark b.currentDelayMs now) := by
  rw [ready, insert_eq, buffer_dropOverflow, buffer_fill, List.length_map, ← List.map_drop, List.filter_map, due]
  rfl

/-- `Extract` takes the first one away -/
theorem ready_extract : b.extract.1.ready = b.ready.tail := by
  rcases b.extract_cases with ⟨he, hnone⟩ | ⟨pre, i, post, hb, hpre, hi, hbuf, -⟩
  · have hnil : b.ready = [] := List.filter_eq_nil_iff.2 (by simpa using hnone)
    rw [he, hnil]
    rfl
  · have hskip : pre.filter (·.ready) = [] := List.filter_eq_nil_iff.2 (by simpa using hpre)
    rw [ready, ready, hbuf, hb, List.filter_append, List.filter_append, hskip, List.filter_cons_of_pos hi]
    rfl

/-- **A packet passes**: of the packets that are due then, all but the first stay -/
theorem pass_ready : (b.insert S packet now).extract.1.ready =
    (b.due S packet now).tail.map (BufferItem.mark b.currentDelayMs now) := by
  rw [ready_extract, ready_insert, List.map_tail]

theorem pass_ready_eq_nil_iff :
    (b.insert S packet now).extract.1.ready = [] ↔ (b.due S packet now).length ≤ 1 := by
  rw [pass_ready, List.map_eq_nil_iff, ← List.length_eq_zero_iff, List.length_tail]
  omega

end JitterBuffer

/-! ## The callbacks -/

namespace CallContext

variable (S : StdSort BufferItem.seq)

/-- no packet that is marked ready is left in a jitter buffer -/
def Drained (ctx : CallContext) : Prop := ∀ medium, (ctx.jitter medium).ready = []

/-- the callback finds at most one packet due; without a socket or a datagram it inserts none -/
def OneDue (ctx : CallContext) : MediaOp → Prop
  | .receive medium (some (datagram, _)) now => (ctx.rtp medium).recvSocket ≠ none → datagram ≠ [] →
      ((ctx.jitter medium).due S (RtpPacket.parse datagram).val now).length ≤ 1
  | _ => True

/-- a callback of one medium leaves the jitter buffer of the other alone -/
theorem receive_other (ctx : CallContext) (received : Option (List UInt8 × String × UInt16)) (now : ℤ)
    {medium other : Medium} (h : other ≠ medium) :
    (ctx.receive S received now medium).1.jitter other = ctx.jitter other := by
  cases medium with
  | audio =>
    cases other with
    | audio => exact absurd rfl h
    | video =>
      simp only [receive, jitter]
      split_ifs <;> rfl
  | video =>
    cases other with
    | audio =>
      simp only [receive, jitter]
      split_ifs <;> rfl
    | video => exact absurd rfl h

/-- where `ReceivePacket` returns nothing, nothing is inserted -/
theorem receive_idle (ctx : CallContext) {received : Option (List UInt8 × String × UInt16)} {medium : Medium}
    (h : ((ctx.rtp medium).receivePacket received).1 ≤ 0) (now : ℤ) (other : Medium) :
    (ctx.receive S received now medium).1.jitter other = ctx.jitter other := by
  cases medium
  all_goals
    simp only [rtp] at h
    simp only [receive, if_pos h]
    cases other <;> rfl

theorem drained_receive_iff {ctx : CallContext} (h : ctx.Drained) {datagram : List UInt8} (source : String × UInt16)
    (now : ℤ) (medium : Medium) :
    (ctx.receive S (some (datagram, source)) now medium).1.Drained ↔
      ctx.OneDue S (.receive medium (some (datagram, source)) now) := by
  by_cases harrives : (ctx.rtp medium).recvSocket ≠ none ∧ datagram ≠ []
  · obtain ⟨hsocket, hne⟩ := harrives
    have hsome := (receive_some S hsocket hne source now).1
    constructor
    · intro hdrained _ _
      rw [← JitterBuffer.pass_ready_eq_nil_iff, ← hsome]
      exact hdrained medium
    · intro hdue other
      by_cases hother : other = medium
      · rw [hother, hsome, JitterBuffer.pass_ready_eq_nil_iff]
        exact hdue hsocket hne
      · rw [receive_other S ctx _ now hother]
        exact h other
  · have hidle : ((ctx.rtp medium).receivePacket (some (datagram, source))).1 ≤ 0 := by
      apply RtpSession.receivePacket_nothing
      rw [not_and_or, not_ne_iff, not_ne_iff] at harrives
      rcases harrives with hsocket | rfl
      · exact Or.inl hsocket
      · exact Or.inr fun _ _ heq => (Prod.mk.inj (Option.some.inj heq)).1.symm
    refine iff_of_true (fun other => ?_) fun hsocket hne => absurd ⟨hsocket, hne⟩ harrives
    rw [receive_idle S ctx hidle now]
    exact h other

/-- **One step** keeps the buffers drained exactly when it finds at most one packet due -/
theorem drained_step_iff {ctx : CallContext} (h : ctx.Drained) (o : MediaOp) :
    (ctx.mediaStep S o).Drained ↔ ctx.OneDue S o := by
  cases o with
  | receive medium received now =>
    cases received with
    | some received => exact drained_receive_iff S h received.2 now medium
    | none =>
      have hidle : ((ctx.rtp medium).receivePacket none).1 ≤ 0 :=
        RtpSession.receivePacket_nothing (Or.inr fun _ _ heq => nomatch heq)
      refine iff_of_true (fun other => ?_) trivial
      rw [mediaStep, receive_idle S ctx hidle now]
      exact h other
  | sendAudioFrame encoded samples sendOk =>
    refine iff_of_true (fun other => ?_) trivial
    rw [← h other]
    cases encoded <;> cases other <;> rfl
  | sendVideoFrame videoFps encoded sendOk =>
    refine iff_of_true (fun other => ?_) trivial
    rw [← h other]
    cases encoded <;> cases other <;> rfl

/-- **Which runs leave no ready packet behind**: those whose callbacks never find two packets due at once -/
theorem drained_iff (media : MediaConfig) (res : Resources) (callId : String) (info : CallSessionInfo)
    (ops : List MediaOp) :
    (∀ before after, ops = before ++ after →
        (exec (mediaStep S) (Session.newContext media res callId info) before).Drained) ↔
      Along (mediaStep S) (OneDue S) (Session.newContext media res callId info) ops := by
  apply always_iff (I := fun _ => True)
  · exact fun _ _ _ => trivial
  · exact fun _ o _ h => drained_step_iff S h o
  · trivial
  · intro medium
    cases medium <;> rfl

/-- an RTP packet of a given number, with one byte of payload -/
def arrival (seq : UInt8) (now : ℤ) : MediaOp :=
  .receive .video (some ([0x80, 97, 0, seq, 0, 0, 0, 0, 0, 0, 0, 7, 0x65], "10.0.0.9", 4002)) now

/-- a jump in the transit time raises the delay; the packets that wait for it are due together -/
def burst : List MediaOp :=
  [arrival 1 0, arrival 2 1600000000, arrival 3 1600000000, arrival 4 1600000000, arrival 5 1700000000]

/-- **Two packets become due and one is handed on** -/
theorem ready_packet_left : ¬ ∀ (S : StdSort BufferItem.seq) (media : MediaConfig) (res : Resources)
    (callId : String) (info : CallSessionInfo) (ops : List MediaOp) (before after : List MediaOp),
    ops = before ++ after → (exec (mediaStep S) (Session.newContext media res callId info) before).Drained := by
  intro h
  have hdrained := h (.insertion _) {} ((SessionEnv.constant "ab" []).resources 0) "a1"
    ⟨"", .kConnected, 1, 5004, 5010, 4000, 4002, "10.0.0.9"⟩ burst burst [] rfl .video
  revert hdrained
  decide +kernel

end CallContext

end Rtcom
