/-
`MediaEncoder` for audio: the buffer that `EncodeAudio` copies the samples into. Unlike `EncodeVideo`, it asks for one
with `av_frame_get_buffer` in each call; `av_frame_unref` releases it behind a frame that the codec takes. Behind one
that it does not take the buffer stays, and the next call overwrites the pointer to it.

`av_frame_get_buffer` is a parameter (`FrameAllocator`): whether it succeeds, and what room the frame has afterwards.
All that its documentation promises, `Documented`, is of a frame without a buffer for which it succeeds: there is room
for `nb_samples` samples in each channel of the layout. What room a frame has that had a buffer already, or for which it
does not succeed, is open. The buffers themselves stay as they are where it does not succeed, as for sizes that it does
not take; that there is no memory is left out. The layout has two channels if the encoder was given two, else one. What
the codec answers is part of a call; format and sample rate of the frame are left out.

- `audio_copies_fit_iff`: whatever room FFmpeg gives beyond its promise, every copy of a run fits, exactly if each that
  copies anything gets a buffer behind a frame that the codec took, for fewer than 2^31 samples of at most two channels.
- `audio_buffers`: what is released and what is leaked; nothing is leaked exactly if the codec takes every frame but the
  last.
-/
import Mathlib.Tactic
import Rtcom.Lib.Handles
import Rtcom.Media.Encoder

namespace Rtcom

open Access Handles Runs

/-! ## Model -/

/-- `frame_` of an audio encoder, with the buffer that `data[0]` points to -/
structure AudioFrame where
  nbSamples : ℤ
  data : Option (Buf Int16)
  pts : Int64

def AudioFrame.new : AudioFrame := ⟨0, none, noPts⟩

/-- the samples a frame has room for, none if it has no buffer -/
def AudioFrame.kept (frame : AudioFrame) : Option ℕ := frame.data.map fun buffer => buffer.data.length

/-- the channels of the layout that `Initialize` chooses -/
def layoutChannels (channels : ℕ) : ℕ := if channels = 2 then 2 else 1

/-- `av_frame_get_buffer` for a number of samples and of channels: whether it succeeds, and what room the frame has
afterwards, where it had `kept` before -/
structure FrameAllocator where
  gives : ℤ → ℕ → Bool
  room : (kept : Option ℕ) → ℤ → ℕ → Option ℕ

/-- what is promised of a frame that has no buffer -/
def FrameAllocator.Documented (lib : FrameAllocator) : Prop :=
  ∀ samples channels, lib.gives samples channels = true →
    ∃ room, lib.room none samples channels = some room ∧ samples.toNat * channels ≤ room

def AudioFrame.getBuffer (lib : FrameAllocator) (channels : ℕ) (frame : AudioFrame) : AudioFrame :=
  { frame with data := (lib.room frame.kept frame.nbSamples channels).map fun room => Buf.alloc room 0 }

/-- a `MediaEncoder` for audio; the heap has the buffers of its frame, () is the pointer in the frame -/
structure AudioEncoder where
  ctx : Bool
  frame : Option AudioFrame
  pkt : Bool
  channels : ℕ
  pts : Int64
  heap : Heap Unit ℕ

/-- a call of `EncodeAudio`, where `av_frame_get_buffer` allocates, and what the codec answers -/
structure AudioEncodeCall where
  pcmData : List Int16
  sampleCount : ℕ
  address : ℕ
  sent : Bool
  packet : Option (List UInt8)
deriving DecidableEq, Repr

/-- `static_cast<int>(sample_count)` -/
def AudioEncodeCall.nbSamples (call : AudioEncodeCall) : ℤ := Int.bmod call.sampleCount (2 ^ 32)

namespace AudioEncoder

/-- as `Initialize` leaves it -/
def opened (channels : ℕ) : AudioEncoder := ⟨true, some .new, true, channels, 0, .empty⟩

variable (lib : FrameAllocator)

/-- the frame when `EncodeAudio` copies into it -/
def allocated (enc : AudioEncoder) (frame : AudioFrame) (call : AudioEncodeCall) : AudioFrame :=
  { frame with nbSamples := call.nbSamples }.getBuffer lib (layoutChannels enc.channels)

/-- `av_frame_get_buffer` succeeds in the call -/
def gives (enc : AudioEncoder) (call : AudioEncodeCall) : Bool := lib.gives call.nbSamples (layoutChannels enc.channels)

/-- the buffers when `EncodeAudio` copies into the frame; without success nothing is allocated -/
def requested (enc : AudioEncoder) (call : AudioEncodeCall) : Heap Unit ℕ :=
  if enc.gives lib call then enc.heap.store () (some call.address) else enc.heap

def encodeAudio (enc : AudioEncoder) (call : AudioEncodeCall) : AudioEncoder × Option (List UInt8) :=
  match enc.ctx, enc.frame, enc.pkt with
  | true, some frame, true =>
    let frame := enc.allocated lib frame call
    let heap := enc.requested lib call
    let samples := call.pcmData.take (call.sampleCount * enc.channels)
    let data := frame.data.map fun buffer => buffer.copy 0 samples
    let enc := { enc with frame := some { frame with data, pts := enc.pts }, pts := enc.pts + 1, heap }
    if !call.sent then (enc, none)
    else ({ enc with frame := some .new, heap := enc.heap.free () }, call.packet)
  | _, _, _ => (enc, none)

def encode (enc : AudioEncoder) (call : AudioEncodeCall) : AudioEncoder := (enc.encodeAudio lib call).1

/-- the samples that the buffer has room for, none if there is no buffer -/
def room (enc : AudioEncoder) (call : AudioEncodeCall) : ℕ :=
  ((enc.frame.map fun frame => enc.allocated lib frame call).bind AudioFrame.kept).getD 0

/-- the samples of all channels go into the buffer -/
def Fits (enc : AudioEncoder) (call : AudioEncodeCall) : Prop := call.sampleCount * enc.channels ≤ enc.room lib call

/-! ## One call -/

/-- initialized for c channels -/
structure Ready (c : ℕ) (enc : AudioEncoder) : Prop where
  ctx : enc.ctx = true
  pkt : enc.pkt = true
  channels : enc.channels = c
  frame : ∃ frame, enc.frame = some frame

theorem ready_opened (c : ℕ) : (opened c).Ready c := ⟨rfl, rfl, rfl, _, rfl⟩

/-- the room that the frame has before a call -/
def kept (enc : AudioEncoder) : Option ℕ := enc.frame.bind AudioFrame.kept

variable {lib} {c : ℕ} {enc : AudioEncoder}

/-- the encoder after a call -/
theorem encode_eq (h : enc.Ready c) {frame : AudioFrame} (hframe : enc.frame = some frame) (call : AudioEncodeCall) :
    let samples := call.pcmData.take (call.sampleCount * enc.channels)
    let data := (enc.allocated lib frame call).data.map fun buffer => buffer.copy 0 samples
    enc.encode lib call = { enc with
      frame := some (if call.sent then .new else { enc.allocated lib frame call with data, pts := enc.pts })
      pts := enc.pts + 1
      heap := if call.sent then (enc.requested lib call).free () else enc.requested lib call } := by
  intro samples data
  rw [encode, encodeAudio, h.ctx, hframe, h.pkt]
  cases hsent : call.sent <;> simp [data, samples]

theorem heap_encode (h : enc.Ready c) (call : AudioEncodeCall) :
    (enc.encode lib call).heap = if call.sent then (enc.requested lib call).free () else enc.requested lib call := by
  obtain ⟨frame, hframe⟩ := h.frame
  rw [encode_eq h hframe]

theorem ready_encode (h : enc.Ready c) (call : AudioEncodeCall) : (enc.encode lib call).Ready c := by
  obtain ⟨frame, hframe⟩ := h.frame
  rw [encode_eq h hframe]
  exact ⟨h.ctx, h.pkt, h.channels, _, rfl⟩

theorem kept_allocated (h : enc.Ready c) {frame : AudioFrame} (hframe : enc.frame = some frame)
    (call : AudioEncodeCall) :
    (enc.allocated lib frame call).kept = lib.room enc.kept call.nbSamples (layoutChannels c) := by
  have hkept : ({ frame with nbSamples := call.nbSamples } : AudioFrame).kept = enc.kept := by
    rw [kept, hframe]
    rfl
  rw [allocated, AudioFrame.getBuffer, hkept, h.channels, AudioFrame.kept, Option.map_map]
  have hlength : ((fun buffer : Buf Int16 => buffer.data.length) ∘ fun room => Buf.alloc room 0) = id := by
    funext room
    exact Buf.length_alloc _ _
  rw [hlength, Option.map_id, id_eq]

theorem room_eq (h : enc.Ready c) (call : AudioEncodeCall) :
    enc.room lib call = (lib.room enc.kept call.nbSamples (layoutChannels c)).getD 0 := by
  obtain ⟨frame, hframe⟩ := h.frame
  rw [room, hframe, Option.map_some, Option.bind_some, kept_allocated h hframe]

/-- a frame that the codec does not take keeps its buffer -/
theorem kept_encode (h : enc.Ready c) (call : AudioEncodeCall) :
    (enc.encode lib call).kept =
      if call.sent then none else lib.room enc.kept call.nbSamples (layoutChannels c) := by
  obtain ⟨frame, hframe⟩ := h.frame
  rw [encode_eq h hframe, kept, Option.bind_some]
  cases call.sent with
  | true => rfl
  | false =>
    rw [← kept_allocated h hframe, if_neg Bool.false_ne_true, if_neg Bool.false_ne_true, AudioFrame.kept,
      AudioFrame.kept, Option.map_map]
    have hlength : ((fun buffer : Buf Int16 => buffer.data.length) ∘ fun buffer : Buf Int16 =>
        buffer.copy 0 (call.pcmData.take (call.sampleCount * enc.channels))) =
          fun buffer : Buf Int16 => buffer.data.length := by
      funext buffer
      exact Buf.length_copy _ _ _
    rw [hlength]

/-! ## The copies -/

/-- `INT_MAX` -/
def maxSamples : ℕ := 2147483647

theorem toNat_nbSamples_le (call : AudioEncodeCall) :
    call.nbSamples.toNat ≤ call.sampleCount ∧ call.nbSamples.toNat ≤ maxSamples := by
  unfold AudioEncodeCall.nbSamples maxSamples
  rw [Int.bmod_def]
  omega

/-- the int of a number that is not too big is the number itself -/
theorem toNat_nbSamples {call : AudioEncodeCall} (h : call.sampleCount ≤ maxSamples) :
    call.nbSamples.toNat = call.sampleCount := by
  unfold maxSamples at h
  unfold AudioEncodeCall.nbSamples
  rw [Int.bmod_def]
  omega

/-- as many samples as the int says go in -/
theorem fits_promised {n k : ℕ} (hle : k ≤ n) (hmost : k ≤ maxSamples) (hexact : n ≤ maxSamples → k = n) :
    n * c ≤ k * layoutChannels c ↔ n * c = 0 ∨ n ≤ maxSamples ∧ c ≤ 2 := by
  match c with
  | 0 => simp
  | 1 | 2 =>
    simp only [layoutChannels]
    norm_num
    omega
  | c + 3 =>
    have hmono : layoutChannels (c + 3) = 1 := if_neg (by omega)
    rw [hmono, Nat.mul_one]
    constructor
    · intro hfits
      have hthree : n * 3 ≤ n * (c + 3) := Nat.mul_le_mul_left n (by omega)
      exact Or.inl (Nat.mul_eq_zero.2 (Or.inl (by omega)))
    · rintro (hnone | ⟨-, hc⟩)
      · omega
      · omega

/-- what is copied has been promised room: the frame has no buffer yet, and there are not too many samples -/
def Promised (gives : ℤ → ℕ → Bool) (c : ℕ) (fresh : Bool) (call : AudioEncodeCall) : Prop :=
  call.sampleCount * c = 0 ∨
    fresh = true ∧ gives call.nbSamples (layoutChannels c) = true ∧ call.sampleCount ≤ maxSamples ∧ c ≤ 2

/-- an allocator that keeps its promise, and no more -/
def leastRoom (gives : ℤ → ℕ → Bool) : FrameAllocator where
  gives := gives
  room := fun kept samples channels =>
    if kept = none ∧ gives samples channels = true then some (samples.toNat * channels) else some 0

theorem room_leastRoom (gives : ℤ → ℕ → Bool) (kept : Option ℕ) (samples : ℤ) (channels : ℕ) :
    (leastRoom gives).room kept samples channels =
      if kept = none ∧ gives samples channels = true then some (samples.toNat * channels) else some 0 := rfl

theorem documented_leastRoom (gives : ℤ → ℕ → Bool) : (leastRoom gives).Documented := by
  intro samples channels hgives
  exact ⟨_, if_pos ⟨rfl, hgives⟩, le_rfl⟩

theorem fits_leastRoom {gives : ℤ → ℕ → Bool} (h : enc.Ready c) {fresh : Bool} (hfresh : enc.kept = none ↔ fresh = true)
    (call : AudioEncodeCall) : enc.Fits (leastRoom gives) call ↔ Promised gives c fresh call := by
  rw [Fits, h.channels, room_eq h, room_leastRoom, Promised]
  by_cases hgives : fresh = true ∧ gives call.nbSamples (layoutChannels c) = true
  · rw [if_pos ⟨hfresh.2 hgives.1, hgives.2⟩, Option.getD_some]
    obtain ⟨hle, hmost⟩ := toNat_nbSamples_le call
    rw [fits_promised hle hmost toNat_nbSamples, and_iff_right hgives.1, and_iff_right hgives.2]
  · -- no room at all
    have hnone : ¬ (enc.kept = none ∧ gives call.nbSamples (layoutChannels c) = true) := by rwa [hfresh]
    rw [if_neg hnone, Option.getD_some, Nat.le_zero]
    exact (or_iff_left fun hpromised => hgives ⟨hpromised.1, hpromised.2.1⟩).symm

theorem fits_of_promised (hdoc : lib.Documented) (h : enc.Ready c) {fresh : Bool}
    (hfresh : fresh = true → enc.kept = none) {call : AudioEncodeCall} (hcall : Promised lib.gives c fresh call) :
    enc.Fits lib call := by
  rw [Fits, h.channels, room_eq h]
  rcases hcall with hnone | ⟨hnew, hgives, hsmall⟩
  · rw [hnone]
    exact Nat.zero_le _
  · obtain ⟨room, hroom, henough⟩ := hdoc _ _ hgives
    obtain ⟨hle, hmost⟩ := toNat_nbSamples_le call
    rw [hfresh hnew, hroom, Option.getD_some]
    exact ((fits_promised hle hmost toNat_nbSamples).2 (Or.inr hsmall)).trans henough

/-- **When the copies of a run fit**, whatever room FFmpeg gives beyond what it promises: exactly if each call that
copies anything gets a buffer, comes behind a frame that the codec took, and has samples that an int counts, of at most
two channels -/
theorem audio_copies_fit_iff (gives : ℤ → ℕ → Bool) (c : ℕ) (calls : List AudioEncodeCall) :
    (∀ lib : FrameAllocator, lib.gives = gives → lib.Documented →
        Along (encode lib) (Fits lib) (opened c) calls) ↔
      Along (fun _ call => call.sent) (Promised gives c) true calls := by
  constructor
  · intro h
    suffices hleast : ∀ (enc : AudioEncoder) (fresh : Bool), enc.Ready c → (enc.kept = none ↔ fresh = true) →
        Along (encode (leastRoom gives)) (Fits (leastRoom gives)) enc calls →
        Along (fun _ call => call.sent) (Promised gives c) fresh calls from
      hleast (opened c) true (ready_opened c) (iff_of_true rfl rfl) (h _ rfl (documented_leastRoom gives))
    clear h
    induction calls with
    | nil => exact fun _ _ _ _ _ => trivial
    | cons call calls ih =>
      intro enc fresh hready hfresh hall
      refine ⟨(fits_leastRoom hready hfresh call).1 hall.1, ih _ _ (ready_encode hready call) ?_ hall.2⟩
      rw [kept_encode hready]
      cases hsent : call.sent with
      | true => exact iff_of_true rfl hsent
      | false =>
        -- what is left of the frame has a buffer
        rw [if_neg Bool.false_ne_true, room_leastRoom]
        refine iff_of_false (fun hnone => ?_) (ne_true_of_eq_false hsent)
        split_ifs at hnone
  · rintro h lib rfl hdoc
    suffices hpromised : ∀ (enc : AudioEncoder) (fresh : Bool), enc.Ready c → (fresh = true → enc.kept = none) →
        Along (fun _ call => call.sent) (Promised lib.gives c) fresh calls →
        Along (encode lib) (Fits lib) enc calls from
      hpromised (opened c) true (ready_opened c) (fun _ => rfl) h
    clear h
    induction calls with
    | nil => exact fun _ _ _ _ _ => trivial
    | cons call calls ih =>
      intro enc fresh hready hfresh hall
      refine ⟨fits_of_promised hdoc hready hfresh hall.1, ih _ _ (ready_encode hready call) (fun hsent => ?_) hall.2⟩
      rw [kept_encode hready, if_pos hsent]

/-! ## The buffers -/

/-- the call gets a buffer, and the frame has none -/
def Unused (lib : FrameAllocator) (enc : AudioEncoder) (call : AudioEncodeCall) : Prop :=
  enc.gives lib call = true → enc.heap.slot () = none

/-- FFmpeg allocates what is not live -/
def Fresh (lib : FrameAllocator) (enc : AudioEncoder) (call : AudioEncodeCall) : Prop :=
  enc.gives lib call = true → call.address ∉ enc.heap.live

instance (lib : FrameAllocator) (enc : AudioEncoder) (call : AudioEncodeCall) : Decidable (enc.Fresh lib call) :=
  inferInstanceAs (Decidable (_ → _))

/-- releasing what a pointer holds leaks nothing -/
theorem leaked_free (heap : Heap Unit ℕ) : (heap.free ()).leaked = heap.leaked := rfl

theorem leaked_encode (h : enc.Ready c) (call : AudioEncodeCall) :
    (enc.encode lib call).heap.leaked = [] ↔ enc.heap.leaked = [] ∧ enc.Unused lib call := by
  have hfreed : (enc.encode lib call).heap.leaked = (enc.requested lib call).leaked := by
    rw [heap_encode h]
    split_ifs
    · exact leaked_free _
    · rfl
  rw [hfreed, requested, Unused]
  by_cases hgives : enc.gives lib call = true
  · rw [if_pos hgives, Heap.store, List.append_eq_nil_iff, Option.toList_eq_nil_iff, imp_iff_right hgives]
  · rw [if_neg hgives]
    exact (and_iff_left fun hcalls => absurd hcalls hgives).symm

theorem sound_encode (h : enc.Ready c) (hsound : enc.heap.Sound) {call : AudioEncodeCall}
    (hfresh : enc.Fresh lib call) : (enc.encode lib call).heap.Sound := by
  have hstore : (enc.requested lib call).Sound := by
    unfold requested
    split_ifs with hgives
    · refine Heap.sound_store hsound () fun x hx => ?_
      rw [← Option.some.inj hx]
      exact hfresh hgives
    · exact hsound
  rw [heap_encode h]
  split_ifs
  · exact Heap.sound_free hstore ()
  · exact hstore

/-- what a frame holds after a call that got a buffer -/
theorem slot_encode (h : enc.Ready c) {call : AudioEncodeCall} (hgives : enc.gives lib call = true) :
    (enc.encode lib call).heap.slot () = if call.sent then none else some call.address := by
  rw [heap_encode h, requested, if_pos hgives]
  split_ifs <;> simp [Heap.store, Heap.free]

theorem along_unused_iff {calls : List AudioEncodeCall}
    (hgives : ∀ call ∈ calls, lib.gives call.nbSamples (layoutChannels c) = true) (h : enc.Ready c)
    (hnone : enc.heap.slot () = none) :
    Along (encode lib) (Unused lib) enc calls ↔ ∀ call ∈ calls.dropLast, call.sent = true := by
  induction calls generalizing enc with
  | nil => exact iff_of_true trivial fun call hcall => absurd hcall List.not_mem_nil
  | cons call rest ih =>
    have hgets : ∀ {enc' : AudioEncoder}, enc'.Ready c → ∀ next ∈ call :: rest, enc'.gives lib next = true :=
      fun hready next hnext => by rw [gives, hready.channels, hgives next hnext]
    have hslot := slot_encode h (hgets h call List.mem_cons_self)
    rw [Along, and_iff_right (show enc.Unused lib call from fun _ => hnone)]
    cases rest with
    | nil => exact iff_of_true trivial fun call hcall => absurd hcall List.not_mem_nil
    | cons next rest =>
      rw [List.dropLast_cons_cons, List.forall_mem_cons]
      cases hsent : call.sent with
      | true =>
        rw [hsent, if_pos rfl] at hslot
        rw [ih (fun next hnext => hgives next (List.mem_cons_of_mem _ hnext)) (ready_encode h call) hslot]
        exact (and_iff_right rfl).symm
      | false =>
        -- the next call finds the buffer of this one
        rw [hsent, if_neg Bool.false_ne_true] at hslot
        refine iff_of_false (fun hall => ?_) (by simp)
        have hunused := hall.1 (hgets (ready_encode h call) next (by simp))
        rw [hslot] at hunused
        cases hunused

/-- **The buffers of an audio encoder**: in every run none is released twice, and those allocated and not released are
the frame's own and those leaked; where every call gets a buffer, none is leaked exactly if the codec takes every frame
but the last -/
theorem audio_buffers (lib : FrameAllocator) (c : ℕ) (calls : List AudioEncodeCall)
    (hfresh : Along (encode lib) (Fresh lib) (opened c) calls) :
    let heap := (exec (encode lib) (opened c) calls).heap
    heap.faults = [] ∧ (∀ x, x ∈ heap.live ↔ heap.slot () = some x ∨ x ∈ heap.leaked) ∧
      ((∀ call ∈ calls, lib.gives call.nbSamples (layoutChannels c) = true) →
        (heap.leaked = [] ↔ ∀ call ∈ calls.dropLast, call.sent = true)) := by
  intro heap
  have hrun : (exec (encode lib) (opened c) calls).Ready c ∧ heap.Sound :=
    exec_inv (P := fun enc : AudioEncoder => enc.Ready c ∧ enc.heap.Sound)
      (fun enc call henc hcall => ⟨ready_encode henc.1 call, sound_encode henc.1 henc.2 hcall⟩)
      ⟨ready_opened c, Heap.sound_empty⟩ calls hfresh
  refine ⟨hrun.2.faultless, fun x => ?_, fun hgives => ?_⟩
  · rw [hrun.2.live_iff]
    exact or_congr_left ⟨fun ⟨_, hx⟩ => hx, fun hx => ⟨(), hx⟩⟩
  · have hleaked := exec_iff (f := encode lib) (Q := Unused lib) (I := Ready c)
      (P := fun enc : AudioEncoder => enc.heap.leaked = [])
      (fun enc call henc => ready_encode henc call) (fun enc call henc => leaked_encode henc call) (ready_opened c)
      calls
    rw [and_iff_right (show (opened c).heap.leaked = [] from rfl)] at hleaked
    exact hleaked.trans (along_unused_iff hgives (ready_opened c) rfl)

/-- rooms of a multiple of 32 samples; a frame keeps the room that it has -/
def alignedRoom : FrameAllocator where
  gives := fun samples _ => 0 < samples
  room := fun kept samples channels =>
    if 0 < samples then some (kept.getD ((samples.toNat * channels + 31) / 32 * 32)) else kept

/-- the codec refuses the first of two frames -/
theorem audio_buffers_refused :
    let calls : List AudioEncodeCall := [⟨[1, 2], 2, 10, false, none⟩, ⟨[3], 1, 11, true, some [7]⟩]
    let heap := (exec (encode alignedRoom) (opened 1) calls).heap
    heap.faults = [] ∧ (∀ x, x ∈ heap.live ↔ heap.slot () = some x ∨ x ∈ heap.leaked) ∧
      ((∀ call ∈ calls, alignedRoom.gives call.nbSamples (layoutChannels 1) = true) →
        (heap.leaked = [] ↔ ∀ call ∈ calls.dropLast, call.sent = true)) := by
  intro calls
  exact audio_buffers alignedRoom 1 calls (by decide)

end AudioEncoder

end Rtcom
