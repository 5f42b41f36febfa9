/-
`MediaEncoder` for video: who allocates the planes that `EncodeVideo` copies into. `Initialize` calls
`av_frame_get_buffer` once; `EncodeVideo` calls `av_frame_unref` behind each frame that the codec takes, and no buffer
is asked for again.

The codec is what it answers: to `Initialize` in a structure of its own, to `EncodeVideo` in the call. A frame without
buffers has null pointers in `data`. The settings of the codec context are left out.

- `encodeVideo_unsent`, `encodeVideo_sent`: the planes after a call.
- `copies_allocated_iff`: no call of a run copies into a plane that is not there, exactly if the codec takes no frame
  but the last.
-/
import Mathlib.Tactic
import Rtcom.Common.Types
import Rtcom.Lib.Runs
import Rtcom.Media.Planes

namespace Rtcom

open Access Runs

/-- what `Initialize` asks of FFmpeg; `getBuffer` is the frame with the planes `av_frame_get_buffer` allocates -/
structure Libav where
  findEncoder : CodecType → Bool
  allocContext : CodecType → Bool
  open2 : CodecType → Bool
  getBuffer : ℕ → ℕ → AVFrame

/-- `frame_`: null pointers in `data` if there are no buffers -/
structure EncoderFrame where
  buffers : Option AVFrame
  pts : Int64

/-- `AV_NOPTS_VALUE` -/
def noPts : Int64 := Int64.minValue

def avFrameAlloc : EncoderFrame := ⟨none, noPts⟩

/-- `av_frame_get_buffer`, with width and height of the frame -/
def EncoderFrame.getBuffer (lib : Libav) (width height : ℕ) (frame : EncoderFrame) : EncoderFrame :=
  { frame with buffers := some (lib.getBuffer width height) }

/-- `av_frame_unref`: the buffers are released, the fields are those of a new frame -/
def avFrameUnref (_ : EncoderFrame) : EncoderFrame := avFrameAlloc

/-- `ctx_` and `pkt_` are there or null -/
structure MediaEncoder where
  codecType : CodecType
  ctx : Bool
  frame : Option EncoderFrame
  pkt : Bool
  width : ℕ
  height : ℕ
  pts : Int64

/-- a call of `EncodeVideo`, and what the codec answers: whether `avcodec_send_frame` takes the frame, and the packet
`avcodec_receive_packet` gives -/
structure EncodeCall where
  yuvData : List UInt8
  sent : Bool
  packet : Option (List UInt8)
deriving DecidableEq, Repr

namespace MediaEncoder

def new (codecType : CodecType) : MediaEncoder := ⟨codecType, false, none, false, 640, 480, 0⟩

def isAudio (enc : MediaEncoder) : Bool :=
  enc.codecType == .kAudioAAC || enc.codecType == .kAudioPCMU || enc.codecType == .kAudioPCMA

def close (enc : MediaEncoder) : MediaEncoder := { enc with pkt := false, frame := none, ctx := false }

/-- `Initialize` -/
def initializeWith (lib : Libav) (enc : MediaEncoder) (width height : ℕ) : MediaEncoder × Bool :=
  let enc := { enc with width, height }
  let codecId := if enc.isAudio then CodecType.kAudioAAC else CodecType.kVideoH264
  if !lib.findEncoder codecId then (enc, false)
  else if !lib.allocContext codecId then ({ enc with ctx := false }, false)
  else
    let enc := { enc with ctx := true }
    if !lib.open2 codecId then (enc.close, false)
    else
      let frame := if enc.isAudio then avFrameAlloc else avFrameAlloc.getBuffer lib enc.width enc.height
      ({ enc with frame := some frame, pkt := true, pts := 0 }, true)

def encodeVideo (enc : MediaEncoder) (call : EncodeCall) : MediaEncoder × Option (List UInt8) :=
  match enc.ctx, enc.frame, enc.pkt with
  | true, some frame, true =>
    let buffers := frame.buffers.map fun planes => copyPlanes enc.width enc.height planes call.yuvData
    let enc := { enc with frame := some { buffers, pts := enc.pts }, pts := enc.pts + 1 }
    if !call.sent then (enc, none)
    else ({ enc with frame := enc.frame.map avFrameUnref }, call.packet)
  | _, _, _ => (enc, none)

/-- the planes `EncodeVideo` calls `memcpy` on: always Y, then U, then V -/
def copied (enc : MediaEncoder) (call : EncodeCall) : List (Fin 3) :=
  let ySize := enc.width * enc.height
  if enc.ctx && enc.frame.isSome && enc.pkt then
    if call.yuvData.length > ySize then
      if call.yuvData.length > ySize + ySize / 4 then List.finRange 3 else (List.finRange 3).take 2
    else (List.finRange 3).take 1
  else []

/-- `frame_->data[i]`, `none` if it is null -/
def plane (enc : MediaEncoder) (i : Fin 3) : Option (Buf UInt8) :=
  enc.frame.bind fun frame => frame.buffers.map fun planes => planes.data i

/-- the call copies into planes that are allocated -/
def CopiesAllocated (enc : MediaEncoder) (call : EncodeCall) : Prop :=
  ∀ i ∈ enc.copied call, (enc.plane i).isSome = true

instance (enc : MediaEncoder) (call : EncodeCall) : Decidable (enc.CopiesAllocated call) :=
  inferInstanceAs (Decidable (∀ i ∈ enc.copied call, (enc.plane i).isSome = true))

/-- successfully initialized; b: the frame has its buffers -/
structure Ready (enc : MediaEncoder) (b : Bool) : Prop where
  ctx : enc.ctx = true
  pkt : enc.pkt = true
  frame : ∃ frame, enc.frame = some frame ∧ frame.buffers.isSome = b

theorem ready_opened {lib : Libav} {enc enc' : MediaEncoder} {width height : ℕ}
    (hvideo : enc.codecType = .kVideoH264) (h : enc.initializeWith lib width height = (enc', true)) :
    enc'.Ready true := by
  have haudio : (CodecType.kVideoH264 == .kAudioAAC || CodecType.kVideoH264 == .kAudioPCMU ||
      CodecType.kVideoH264 == .kAudioPCMA) = false := rfl
  simp only [initializeWith, isAudio, hvideo, haudio, Bool.false_eq_true, if_false] at h
  split_ifs at h
  · cases h
  · cases h
  · cases h
  · obtain ⟨rfl, -⟩ := Prod.mk.inj h
    exact ⟨rfl, rfl, _, rfl, rfl⟩

/-- the first plane is copied into in any case -/
theorem copiesAllocated_iff {enc : MediaEncoder} {b : Bool} (h : enc.Ready b) (call : EncodeCall) :
    enc.CopiesAllocated call ↔ b = true := by
  obtain ⟨frame, hframe, hb⟩ := h.frame
  have hplane : ∀ i, (enc.plane i).isSome = b := by
    intro i
    rw [plane, hframe, Option.bind_some, Option.isSome_map, hb]
  refine ⟨?_, ?_⟩
  · intro hall
    have hfirst : (0 : Fin 3) ∈ enc.copied call := by
      simp only [copied, h.ctx, h.pkt, hframe, Option.isSome_some, Bool.and_self, if_true]
      split_ifs <;> decide
    rw [← hplane 0]
    exact hall 0 hfirst
  · intro hb i _
    rw [hplane, hb]

/-- a frame that the codec does not take keeps its buffers -/
theorem encodeVideo_unsent {enc : MediaEncoder} {b : Bool} (h : enc.Ready b) {call : EncodeCall}
    (hsent : call.sent = false) : (enc.encodeVideo call).1.Ready b := by
  obtain ⟨frame, hframe, hb⟩ := h.frame
  rw [encodeVideo, h.ctx, hframe, h.pkt]
  simp only [hsent, Bool.not_false, if_true]
  exact ⟨rfl, rfl, _, rfl, by rw [Option.isSome_map, hb]⟩

/-- a frame that it takes loses them -/
theorem encodeVideo_sent {enc : MediaEncoder} {b : Bool} (h : enc.Ready b) {call : EncodeCall}
    (hsent : call.sent = true) : (enc.encodeVideo call).1.Ready false := by
  obtain ⟨frame, hframe, -⟩ := h.frame
  rw [encodeVideo, h.ctx, hframe, h.pkt]
  simp only [hsent, Bool.not_true, Bool.false_eq_true, if_false]
  exact ⟨rfl, rfl, _, rfl, rfl⟩

def encode (enc : MediaEncoder) (call : EncodeCall) : MediaEncoder := (enc.encodeVideo call).1

/-- from a frame with its buffers on: all copies are fine as long as the codec takes nothing -/
theorem along_copiesAllocated_iff {enc : MediaEncoder} (h : enc.Ready true) (calls : List EncodeCall) :
    Along encode CopiesAllocated enc calls ↔ ∀ call ∈ calls.dropLast, call.sent = false := by
  induction calls generalizing enc with
  | nil => exact iff_of_true trivial fun call hcall => absurd hcall List.not_mem_nil
  | cons call rest ih =>
    rw [Along, copiesAllocated_iff h, eq_self, true_and]
    cases rest with
    | nil => exact iff_of_true trivial fun call hcall => absurd hcall List.not_mem_nil
    | cons next rest =>
      rw [List.dropLast_cons_cons, List.forall_mem_cons]
      cases hsent : call.sent with
      | false => exact (ih (encodeVideo_unsent h hsent)).trans (by simp)
      | true =>
        -- the next call finds null pointers
        refine iff_of_false ?_ (by simp)
        rintro ⟨hnext, -⟩
        exact absurd ((copiesAllocated_iff (encodeVideo_sent h hsent) next).1 hnext) Bool.false_ne_true

/-- **When the planes are there**: in a run of calls, exactly if the codec takes no frame before the last -/
theorem copies_allocated_iff {lib : Libav} {enc : MediaEncoder} {width height : ℕ}
    (hready : (new .kVideoH264).initializeWith lib width height = (enc, true)) (calls : List EncodeCall) :
    Along encode CopiesAllocated enc calls ↔ ∀ call ∈ calls.dropLast, call.sent = false :=
  along_copiesAllocated_iff (ready_opened rfl hready) calls

/-- a library that opens every codec, with line sizes of 32 -/
def libav : Libav where
  findEncoder := fun _ => true
  allocContext := fun _ => true
  open2 := fun _ => true
  getBuffer := fun width height =>
    ⟨width, height, fun _ => 32, fun i => Buf.alloc (AVFrame.planeRows height i * 32) 0⟩

/-- the codec refuses a frame and takes the next -/
theorem copies_allocated_once :
    Along encode CopiesAllocated ((new .kVideoH264).initializeWith libav 2 2).1
      [⟨[1, 2, 3, 4, 5, 6], false, none⟩, ⟨[1, 2, 3, 4, 5, 6], true, some [0, 0, 0, 1, 101]⟩] := by
  have hready : (new .kVideoH264).initializeWith libav 2 2 = (((new .kVideoH264).initializeWith libav 2 2).1, true) :=
    rfl
  exact (copies_allocated_iff hready _).2 (by decide)

/-- **Two frames**: the second one is copied to null -/
theorem second_frame_unallocated : ¬ ∀ (lib : Libav) (enc : MediaEncoder) (width height : ℕ),
    (new .kVideoH264).initializeWith lib width height = (enc, true) →
      ∀ calls, Along encode CopiesAllocated enc calls := by
  intro h
  have htwo := h libav _ 2 2 rfl [⟨[1, 2, 3, 4, 5, 6], true, some [0, 0, 0, 1, 101]⟩, ⟨[1, 2, 3, 4, 5, 6], true, none⟩]
  exact absurd (htwo.2.1 0 (by decide)) (by decide)

end MediaEncoder

end Rtcom
