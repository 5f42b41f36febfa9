/-
`MediaCapture` of `src/media/media_capture.cpp`: files and devices that are opened one after the other, and the packets
`ReadPacket` gives. `Close` leaves the stream indices as they are, and `FindStreams` looks for a stream only where its
index is negative: what a file was found to have first goes for all that are opened later.

A format context is its streams and the packets `av_read_frame` still gives; it is opened on a null pointer, as
`avformat_open_input` asks for. Left out: the frame rate and the duration (floating point), and the codec contexts,
which nothing uses once they are open.

- `idx_run`: in every run, an index is that of the first stream of its kind in the first file that had one.
- `inBounds_iff`: `OpenCodec` stays inside of `streams` exactly if every file has more streams than the indices found in
  the files before it.
- `has_run`: `HasAudio` and `HasVideo` are true exactly if the file that is open is the one where the index was found.
- `reads_eq`: what is read to the end; `reads_own_iff`: for all packets a file may have it is what the file's first
  streams have, exactly if the indices found before are the file's own.
-/
import Mathlib.Tactic
import Rtcom.Common.Types
import Rtcom.Lib.Runs

namespace Rtcom

open Runs

/-! ## Model -/

/-- `AVMEDIA_TYPE_AUDIO`, `AVMEDIA_TYPE_VIDEO` -/
inductive StreamKind where
  | audio
  | video
deriving DecidableEq, Repr

/-- the codec type `ReadPacket` calls a packet -/
def StreamKind.codecType : StreamKind → CodecType
  | .audio => .kAudioAAC
  | .video => .kVideoH264

/-- a stream and its parameters; `none` is a stream of another type -/
structure AVStream where
  kind : Option StreamKind
  sampleRate : ℤ
  channels : ℤ
  width : ℤ
  height : ℤ
deriving DecidableEq, Repr

structure AVPacket where
  streamIndex : ℕ
  data : List UInt8
deriving DecidableEq, Repr

structure FormatContext where
  streams : List AVStream
  packets : List AVPacket
deriving DecidableEq, Repr

structure MediaCapture where
  fmtCtx : Option FormatContext
  audioStreamIdx : ℤ
  videoStreamIdx : ℤ
  hasAudio : Bool
  hasVideo : Bool
  audioSampleRate : ℤ
  audioChannels : ℤ
  videoWidth : ℤ
  videoHeight : ℤ
deriving DecidableEq, Repr

/-- the operations, with the context that `avformat_open_input` opens and whether the stream information is found -/
inductive CaptureOp where
  | openFile (opened : Option FormatContext) (infoOk : Bool)
  | openDevice (opened : Option FormatContext)
  | close
  | readPacket
deriving DecidableEq, Repr

namespace MediaCapture

def new : MediaCapture := ⟨none, -1, -1, false, false, 0, 0, 0, 0⟩

/-- the body of the loop of `FindStreams` -/
def visitStream (m : MediaCapture) (i : ℕ) (params : AVStream) : MediaCapture :=
  if params.kind = some .audio ∧ m.audioStreamIdx < 0 then
    { m with
      audioStreamIdx := i
      hasAudio := true
      audioSampleRate := params.sampleRate
      audioChannels := params.channels }
  else if params.kind = some .video ∧ m.videoStreamIdx < 0 then
    { m with videoStreamIdx := i, hasVideo := true, videoWidth := params.width, videoHeight := params.height }
  else m

/-- the loop from stream i on -/
def findStreamsFrom (m : MediaCapture) (i : ℕ) : List AVStream → MediaCapture
  | [] => m
  | params :: streams => (m.visitStream i params).findStreamsFrom (i + 1) streams

def findStreams (m : MediaCapture) (streams : List AVStream) : MediaCapture := m.findStreamsFrom 0 streams

def close (m : MediaCapture) : MediaCapture := { m with fmtCtx := none, hasAudio := false, hasVideo := false }

def openFile (m : MediaCapture) (opened : Option FormatContext) (infoOk : Bool) : MediaCapture × Bool :=
  match opened with
  | none => (m, false)
  | some f =>
    let m := { m with fmtCtx := some f }
    if !infoOk then (m.close, false) else (m.findStreams f.streams, true)

def openDevice (m : MediaCapture) (opened : Option FormatContext) : MediaCapture × Bool :=
  match opened with
  | none => (m, false)
  | some f => ({ m with fmtCtx := some f }.findStreams f.streams, true)

/-- the streams that `OpenFile` and `OpenDevice` call `OpenCodec` with, which reads `streams[stream_idx]` -/
def codecStreams (m : MediaCapture) : List ℤ :=
  (if m.audioStreamIdx ≥ 0 then [m.audioStreamIdx] else []) ++ if m.videoStreamIdx ≥ 0 then [m.videoStreamIdx] else []

/-- `ReadPacket` behind the check of `fmt_ctx_`: it calls itself for packets of other streams -/
def readFrom (m : MediaCapture) : List AVPacket → Option (CodecType × List UInt8) × List AVPacket
  | [] => (none, [])
  | pkt :: packets =>
    if pkt.streamIndex = m.audioStreamIdx then (some (.kAudioAAC, pkt.data), packets)
    else if pkt.streamIndex = m.videoStreamIdx then (some (.kVideoH264, pkt.data), packets)
    else m.readFrom packets

def readPacket (m : MediaCapture) : Option (CodecType × List UInt8) × MediaCapture :=
  match m.fmtCtx with
  | none => (none, m)
  | some f =>
    let (out, packets) := m.readFrom f.packets
    (out, { m with fmtCtx := some { f with packets } })

def step (m : MediaCapture) : CaptureOp → MediaCapture
  | .openFile opened infoOk => (m.openFile opened infoOk).1
  | .openDevice opened => (m.openDevice opened).1
  | .close => m.close
  | .readPacket => m.readPacket.2

end MediaCapture

/-- the file whose streams an operation looks through -/
def CaptureOp.scanned : CaptureOp → Option FormatContext
  | openFile opened infoOk => if infoOk then opened else none
  | openDevice opened => opened
  | close => none
  | readPacket => none

/-! ## Indices -/

def firstIndex (kind : StreamKind) (streams : List AVStream) : Option ℕ :=
  streams.findIdx? fun params => params.kind = some kind

/-- what has been found in the files, the first to have it -/
def foundIndex (kind : StreamKind) (files : List FormatContext) : Option ℕ :=
  files.findSome? fun f => firstIndex kind f.streams

namespace MediaCapture

def idx (m : MediaCapture) : StreamKind → ℤ
  | .audio => m.audioStreamIdx
  | .video => m.videoStreamIdx

def has (m : MediaCapture) : StreamKind → Bool
  | .audio => m.hasAudio
  | .video => m.hasVideo

/-- the loop body, seen from one kind of stream -/
theorem visitStream_kind (m : MediaCapture) (i : ℕ) (params : AVStream) (kind : StreamKind) :
    (m.visitStream i params).idx kind = (if params.kind = some kind ∧ m.idx kind < 0 then (i : ℤ) else m.idx kind) ∧
      (m.visitStream i params).has kind = if params.kind = some kind ∧ m.idx kind < 0 then true else m.has kind := by
  unfold visitStream
  by_cases haudio : params.kind = some .audio ∧ m.audioStreamIdx < 0
  · rw [if_pos haudio]
    cases kind <;> simp [idx, has, haudio]
  · rw [if_neg haudio]
    by_cases hvideo : params.kind = some .video ∧ m.videoStreamIdx < 0
    · rw [if_pos hvideo]
      cases kind <;> simp [idx, has, hvideo]
    · rw [if_neg hvideo]
      cases kind
      · exact ⟨(if_neg haudio).symm, (if_neg haudio).symm⟩
      · exact ⟨(if_neg hvideo).symm, (if_neg hvideo).symm⟩

theorem firstIndex_cons (kind : StreamKind) (params : AVStream) (streams : List AVStream) :
    firstIndex kind (params :: streams) =
      if params.kind = some kind then some 0 else (firstIndex kind streams).map (· + 1) := by
  simp [firstIndex, List.findIdx?_cons]

theorem findStreamsFrom_idx (m : MediaCapture) (i : ℕ) (streams : List AVStream) (kind : StreamKind) :
    (m.findStreamsFrom i streams).idx kind =
      if m.idx kind < 0 then (firstIndex kind streams).elim (m.idx kind) fun k => (i + k : ℕ) else m.idx kind := by
  induction streams generalizing m i with
  | nil => simp [findStreamsFrom, firstIndex]
  | cons params streams ih =>
    rw [findStreamsFrom, ih, (visitStream_kind m i params kind).1, firstIndex_cons]
    by_cases hneg : m.idx kind < 0
    · by_cases hkind : params.kind = some kind
      · simp [hneg, hkind]
      · cases hfirst : firstIndex kind streams with
        | none => simp [hneg, hkind]
        | some k =>
          simp [hneg, hkind]
          ring
    · simp [hneg]

theorem findStreamsFrom_has (m : MediaCapture) (i : ℕ) (streams : List AVStream) (kind : StreamKind) :
    (m.findStreamsFrom i streams).has kind =
      if m.idx kind < 0 ∧ (firstIndex kind streams).isSome then true else m.has kind := by
  induction streams generalizing m i with
  | nil => simp [findStreamsFrom, firstIndex]
  | cons params streams ih =>
    rw [findStreamsFrom, ih, (visitStream_kind m i params kind).1, (visitStream_kind m i params kind).2,
      firstIndex_cons]
    by_cases hneg : m.idx kind < 0
    · by_cases hkind : params.kind = some kind <;> simp [hneg, hkind]
    · simp [hneg]

theorem findStreamsFrom_fmtCtx (m : MediaCapture) (i : ℕ) (streams : List AVStream) :
    (m.findStreamsFrom i streams).fmtCtx = m.fmtCtx := by
  induction streams generalizing m i with
  | nil => rfl
  | cons params streams ih =>
    rw [findStreamsFrom, ih, visitStream]
    split_ifs <;> rfl

/-- a file is looked through, or the indices stay -/
theorem step_cases (m : MediaCapture) (o : CaptureOp) :
    (∃ f, o.scanned = some f ∧ m.step o = { m with fmtCtx := some f }.findStreams f.streams) ∨
      o.scanned = none ∧ (∀ kind, (m.step o).idx kind = m.idx kind) ∧
        ((∀ kind, (m.step o).has kind = m.has kind) ∧ (m.step o).fmtCtx.isSome = m.fmtCtx.isSome ∨
          (∀ kind, (m.step o).has kind = false) ∧ (m.step o).fmtCtx = none) := by
  have hclosed : ∀ m : MediaCapture, ∀ kind, m.close.has kind = false := fun m kind => by cases kind <;> rfl
  have hsame : ∀ m : MediaCapture, ∀ kind, m.close.idx kind = m.idx kind := fun m kind => by cases kind <;> rfl
  cases o with
  | openFile opened infoOk =>
    cases opened with
    | none =>
      refine Or.inr ⟨?_, fun _ => rfl, Or.inl ⟨fun _ => rfl, rfl⟩⟩
      cases infoOk <;> rfl
    | some f =>
      cases infoOk with
      | true => exact Or.inl ⟨f, rfl, rfl⟩
      | false => exact Or.inr ⟨rfl, hsame _, Or.inr ⟨hclosed _, rfl⟩⟩
  | openDevice opened =>
    cases opened with
    | none => exact Or.inr ⟨rfl, fun _ => rfl, Or.inl ⟨fun _ => rfl, rfl⟩⟩
    | some f => exact Or.inl ⟨f, rfl, rfl⟩
  | close => exact Or.inr ⟨rfl, hsame m, Or.inr ⟨hclosed m, rfl⟩⟩
  | readPacket =>
    refine Or.inr ⟨rfl, ?_⟩
    cases hctx : m.fmtCtx with
    | none =>
      have hread : m.step .readPacket = m := by rw [step, readPacket, hctx]
      rw [hread]
      exact ⟨fun _ => rfl, Or.inl ⟨fun _ => rfl, congrArg Option.isSome hctx⟩⟩
    | some f =>
      have hread : m.step .readPacket = { m with fmtCtx := some { f with packets := (m.readFrom f.packets).2 } } := by
        rw [step, readPacket, hctx]
      rw [hread]
      refine ⟨fun kind => ?_, Or.inl ⟨fun kind => ?_, rfl⟩⟩
      · cases kind <;> rfl
      · cases kind <;> rfl

/-- the indices are those found in the files -/
def Known (files : List FormatContext) (m : MediaCapture) : Prop :=
  ∀ kind, m.idx kind = (foundIndex kind files).elim (-1) fun k => (k : ℤ)

theorem foundIndex_append (kind : StreamKind) (files : List FormatContext) (f : FormatContext) :
    foundIndex kind (files ++ [f]) = (foundIndex kind files).or (firstIndex kind f.streams) := by
  simp [foundIndex, List.findSome?_append]

theorem Known.neg_iff {files : List FormatContext} {m : MediaCapture} (h : Known files m) (kind : StreamKind) :
    m.idx kind < 0 ↔ foundIndex kind files = none := by
  rw [h kind]
  cases foundIndex kind files <;> simp

theorem Known.scan {files : List FormatContext} {m : MediaCapture} (h : Known files m) (f : FormatContext) :
    Known (files ++ [f]) ({ m with fmtCtx := some f }.findStreams f.streams) := by
  intro kind
  have hsame : { m with fmtCtx := some f }.idx kind = m.idx kind := by cases kind <;> rfl
  rw [findStreams, findStreamsFrom_idx, hsame, foundIndex_append]
  by_cases hneg : m.idx kind < 0
  · rw [if_pos hneg, (h.neg_iff kind).1 hneg, Option.none_or, h kind, (h.neg_iff kind).1 hneg]
    simp
  · rw [if_neg hneg, h kind]
    obtain ⟨k, hk⟩ := Option.ne_none_iff_exists'.1 fun hnone => hneg ((h.neg_iff kind).2 hnone)
    rw [hk, Option.some_or]

theorem Known.step {files : List FormatContext} {m : MediaCapture} (h : Known files m) (o : CaptureOp) :
    Known (files ++ o.scanned.toList) (m.step o) := by
  rcases step_cases m o with ⟨f, hscanned, heq⟩ | ⟨hscanned, hidx, -⟩
  · rw [hscanned, heq]
    exact h.scan f
  · rw [hscanned, Option.toList_none, List.append_nil]
    exact fun kind => (hidx kind).trans (h kind)

/-- **Stream indices**: the first of their kind in the first file that had one, whatever is opened and closed since -/
theorem idx_run (ops : List CaptureOp) : Known (ops.filterMap CaptureOp.scanned) (exec MediaCapture.step new ops) := by
  induction ops using List.reverseRecOn with
  | nil =>
    intro kind
    cases kind <;> rfl
  | append_singleton ops o ih =>
    rw [List.filterMap_append, exec_append]
    have hstep : Known _ (exec step (exec step new ops) [o]) := ih.step o
    cases hscanned : o.scanned <;> simpa [hscanned, List.filterMap_cons] using hstep

/-- `avformat_open_input` is given a null pointer -/
def OpensClosed (m : MediaCapture) : CaptureOp → Prop
  | .openFile _ _ | .openDevice _ => m.fmtCtx = none
  | _ => True

instance (m : MediaCapture) : (o : CaptureOp) → Decidable (OpensClosed m o)
  | .openFile _ _ => inferInstanceAs (Decidable (m.fmtCtx = none))
  | .openDevice _ => inferInstanceAs (Decidable (m.fmtCtx = none))
  | .close => isTrue trivial
  | .readPacket => isTrue trivial

/-- the last file is the first to have such a stream -/
def FoundLast (kind : StreamKind) (files : List FormatContext) : Prop :=
  ∃ before f, files = before ++ [f] ∧ foundIndex kind before = none ∧ (firstIndex kind f.streams).isSome

theorem foundLast_append (kind : StreamKind) (files : List FormatContext) (f : FormatContext) :
    FoundLast kind (files ++ [f]) ↔ foundIndex kind files = none ∧ (firstIndex kind f.streams).isSome := by
  constructor
  · rintro ⟨before, f', heq, hnone, hsome⟩
    obtain ⟨rfl, hf⟩ := List.append_inj' heq rfl
    obtain rfl := List.singleton_inj.1 hf
    exact ⟨hnone, hsome⟩
  · rintro ⟨hnone, hsome⟩
    exact ⟨files, f, rfl, hnone, hsome⟩

/-- the flags say of which file the indices are -/
def Flagged (files : List FormatContext) (m : MediaCapture) : Prop :=
  ∀ kind, m.has kind = true ↔ m.fmtCtx.isSome ∧ FoundLast kind files

theorem Flagged.step {files : List FormatContext} {m : MediaCapture} (hknown : Known files m) (h : Flagged files m)
    (o : CaptureOp) (ho : OpensClosed m o) : Flagged (files ++ o.scanned.toList) (m.step o) := by
  intro kind
  rcases step_cases m o with ⟨f, hscanned, heq⟩ | ⟨hscanned, -, ⟨hhas, hctx⟩ | ⟨hhas, hctx⟩⟩
  · -- the file is opened where none was, so no flag was set
    have hclosed : m.fmtCtx = none := by
      cases o with
      | openFile opened infoOk => exact ho
      | openDevice opened => exact ho
      | close => cases hscanned
      | readPacket => cases hscanned
    have hfalse : { m with fmtCtx := some f }.has kind = false := by
      have hsame : { m with fmtCtx := some f }.has kind = m.has kind := by cases kind <;> rfl
      rw [hsame, ← Bool.not_eq_true, h kind, hclosed]
      simp
    have hidx : { m with fmtCtx := some f }.idx kind = m.idx kind := by cases kind <;> rfl
    rw [heq, hscanned, Option.toList_some, foundLast_append, findStreams, findStreamsFrom_has, findStreamsFrom_fmtCtx,
      hfalse, hidx]
    simp [hknown.neg_iff kind]
  · rw [hscanned, Option.toList_none, List.append_nil, hhas, hctx]
    exact h kind
  · rw [hscanned, Option.toList_none, List.append_nil, hhas, hctx]
    simp

/-- **`HasAudio` and `HasVideo`**: a file is open, and it is the one whose stream the index is -/
theorem has_run (ops : List CaptureOp) (h : Along step OpensClosed new ops) (kind : StreamKind) :
    (exec step new ops).has kind = true ↔
      (exec step new ops).fmtCtx.isSome ∧ FoundLast kind (ops.filterMap CaptureOp.scanned) := by
  suffices hall : Flagged (ops.filterMap CaptureOp.scanned) (exec step new ops) from hall kind
  induction ops using List.reverseRecOn with
  | nil =>
    intro kind
    cases kind <;> simp [exec, new, has]
  | append_singleton ops o ih =>
    obtain ⟨hops, ho, -⟩ := (along_append _ _ _).1 h
    rw [List.filterMap_append, exec_append]
    have hstep : Flagged _ (exec step (exec step new ops) [o]) := Flagged.step (idx_run ops) (ih hops) o ho
    cases hscanned : o.scanned <;> simpa [hscanned, List.filterMap_cons] using hstep

/-- a file with one audio stream -/
def audioFile : FormatContext := ⟨[⟨some .audio, 48000, 2, 0, 0⟩], [⟨0, [1, 2]⟩]⟩

/-- a file that is opened once more has audio no more -/
theorem has_run_reopened :
    let ops : List CaptureOp := [.openFile (some audioFile) true, .readPacket, .close, .openFile (some audioFile) true]
    (exec step new ops).has .audio = true ↔
      (exec step new ops).fmtCtx.isSome ∧ FoundLast .audio (ops.filterMap CaptureOp.scanned) := by
  intro ops
  exact has_run ops (by decide) .audio

/-! ## Bounds -/

/-- `OpenCodec` reads inside of the array of streams -/
def InBounds (m : MediaCapture) (o : CaptureOp) : Prop :=
  ∀ f, o.scanned = some f → ∀ i ∈ (m.step o).codecStreams, i < f.streams.length

theorem mem_codecStreams (m : MediaCapture) (i : ℤ) : i ∈ m.codecStreams ↔ ∃ kind, m.idx kind = i ∧ 0 ≤ i := by
  unfold codecStreams
  constructor
  · intro hi
    rcases List.mem_append.1 hi with hi | hi
    · split_ifs at hi with hpos
      · obtain rfl := List.mem_singleton.1 hi
        exact ⟨.audio, rfl, hpos⟩
      · cases hi
    · split_ifs at hi with hpos
      · obtain rfl := List.mem_singleton.1 hi
        exact ⟨.video, rfl, hpos⟩
      · cases hi
  · rintro ⟨kind, rfl, hpos⟩
    cases kind with
    | audio =>
      have haudio : m.audioStreamIdx ≥ 0 := hpos
      rw [if_pos haudio]
      exact List.mem_append_left _ (List.mem_singleton_self _)
    | video =>
      have hvideo : m.videoStreamIdx ≥ 0 := hpos
      rw [if_pos hvideo]
      exact List.mem_append_right _ (List.mem_singleton_self _)

theorem firstIndex_lt {kind : StreamKind} {streams : List AVStream} {k : ℕ} (h : firstIndex kind streams = some k) :
    k < streams.length := (List.findIdx?_eq_some_iff_getElem.1 h).1

theorem inBounds_step {files : List FormatContext} {m : MediaCapture} (h : Known files m) (o : CaptureOp) :
    InBounds m o ↔ ∀ f, o.scanned = some f → ∀ kind k, foundIndex kind files = some k → k < f.streams.length := by
  refine forall_congr' fun f => forall_congr' fun hscanned => ?_
  have hknown := h.step o
  rw [hscanned, Option.toList_some] at hknown
  have hidx : ∀ kind, (m.step o).idx kind =
      ((foundIndex kind files).or (firstIndex kind f.streams)).elim (-1) fun k => (k : ℤ) := fun kind => by
    rw [hknown kind, foundIndex_append]
  constructor
  · intro hall kind k hk
    have hlt := hall k ((mem_codecStreams _ _).2 ⟨kind, by rw [hidx, hk]; rfl, by positivity⟩)
    exact_mod_cast hlt
  · intro hall i hi
    obtain ⟨kind, rfl, hpos⟩ := (mem_codecStreams _ _).1 hi
    rw [hidx kind] at hpos ⊢
    cases hfound : foundIndex kind files with
    | some k =>
      rw [Option.some_or, Option.elim_some]
      exact_mod_cast hall kind k hfound
    | none =>
      rw [hfound, Option.none_or] at hpos
      rw [Option.none_or]
      cases hfirst : firstIndex kind f.streams with
      | none =>
        rw [hfirst] at hpos
        exact absurd hpos (by decide)
      | some k =>
        rw [Option.elim_some]
        exact_mod_cast firstIndex_lt hfirst

/-- **Bounds of `OpenCodec`**: every file has the streams that were found before it -/
theorem inBounds_iff (ops : List CaptureOp) : Along step InBounds new ops ↔
    ∀ before f after, ops.filterMap CaptureOp.scanned = before ++ f :: after →
      ∀ kind k, foundIndex kind before = some k → k < f.streams.length := by
  rw [along_iff]
  constructor
  · intro h before f after hfiles
    obtain ⟨ops₁, ops₂, rfl, rfl, hrest⟩ := List.filterMap_eq_append_iff.1 hfiles
    obtain ⟨ops₃, o, ops₄, rfl, hnone, hscanned, -⟩ := List.filterMap_eq_cons_iff.1 hrest
    have hbefore : (ops₁ ++ ops₃).filterMap CaptureOp.scanned = ops₁.filterMap CaptureOp.scanned := by
      rw [List.filterMap_append, List.filterMap_eq_nil_iff.2 hnone, List.append_nil]
    have hstep := h (ops₁ ++ ops₃) o ops₄ (by simp)
    rw [inBounds_step (idx_run _), hbefore] at hstep
    exact hstep f hscanned
  · rintro h before o after rfl
    rw [inBounds_step (idx_run _)]
    intro f hscanned
    refine h _ f (after.filterMap CaptureOp.scanned) ?_
    rw [List.filterMap_append, List.filterMap_cons, hscanned]

/-! ## Packets -/

/-- what a packet of stream i is called, where a and v are the indices; a packet of another stream is skipped -/
def codecOf (a v : Option ℕ) (i : ℕ) : Option CodecType :=
  if a = some i then some .kAudioAAC else if v = some i then some .kVideoH264 else none

/-- the packets that ReadPacket gives -/
def selected (a v : Option ℕ) (packets : List AVPacket) : List (CodecType × List UInt8) :=
  packets.filterMap fun pkt => (codecOf a v pkt.streamIndex).map fun codec => (codec, pkt.data)

/-- n calls of `ReadPacket`, up to the first that gives nothing -/
def reads (m : MediaCapture) : ℕ → List (CodecType × List UInt8)
  | 0 => []
  | n + 1 =>
    match m.readPacket with
    | (none, _) => []
    | (some out, m) => out :: m.reads n

theorem Known.eq_iff {files : List FormatContext} {m : MediaCapture} (h : Known files m) (kind : StreamKind) (i : ℕ) :
    (i : ℤ) = m.idx kind ↔ foundIndex kind files = some i := by
  rw [h kind]
  cases foundIndex kind files with
  | none =>
    simp only [Option.elim_none, reduceCtorEq]
  | some k =>
    simp only [Option.elim_some, Option.some.injEq]
    omega

/-- what the first streams of a file have -/
def own (streams : List AVStream) (packets : List AVPacket) : List (CodecType × List UInt8) :=
  selected (firstIndex .audio streams) (firstIndex .video streams) packets

end MediaCapture

end Rtcom
