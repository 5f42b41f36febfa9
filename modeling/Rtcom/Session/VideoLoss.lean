/-
What becomes of a video fragment that is not sent. `SendVideoFrame` does not look at what `SendPacket` returns, and
`SendPacket` takes the next sequence number only after a datagram has been sent. So a frame that lost some of its
fragments, or all, is reported as sent, and the datagrams that went out are numbered one behind the other, over it and
the next frame.

- `sendResults`: what `SendPacket` returns for each fragment; `sendFragments_eq`: the loop of `SendVideoFrame` is that.
- `runsFrom_wentOut`: the datagrams that went out are numbered from the session's next number on.
- `lossShown_iff`: the loss of a fragment is returned and can be seen, exactly if no fragment is lost.
-/
import Mathlib.Tactic
import Rtcom.Session.Media

namespace Rtcom

/-- the number of a datagram, as a receiver reads it -/
def Outgoing.sequence (d : Outgoing) : UInt16 := (RtpPacket.parse d.datagram).val.sequence

/-- numbers from s on, none left out -/
def RunsFrom : UInt16 → List Outgoing → Prop
  | _, [] => True
  | s, d :: ds => d.sequence = s ∧ RunsFrom (s + 1) ds

/-- a receiver sees no gap in the numbers -/
def GapFree (ds : List Outgoing) : Prop := ∃ s, RunsFrom s ds

theorem runsFrom_append {s : UInt16} {ds es : List Outgoing} (h : RunsFrom s ds)
    (h' : RunsFrom (s + UInt16.ofNat ds.length) es) : RunsFrom s (ds ++ es) := by
  induction ds generalizing s with
  | nil =>
    rw [List.length_nil, show UInt16.ofNat 0 = 0 from rfl, UInt16.add_zero] at h'
    exact h'
  | cons d ds ih =>
    refine ⟨h.1, ih h.2 ?_⟩
    rwa [List.length_cons, UInt16.ofNat_add, UInt16.add_comm (UInt16.ofNat ds.length), ← UInt16.add_assoc] at h'

namespace RtpSession

/-! ## The fragments of one frame -/

/-- for each fragment, what `SendPacket` returns, and the datagram it hands to `sendto` -/
def sendResults (r : RtpSession) (target : String × UInt16) (sendOk : ℕ → Bool) :
    ℕ → List (List UInt8) → List (Bool × List Outgoing)
  | _, [] => []
  | i, fragment :: fragments =>
    let (ok, r, sent) := r.sendTo target fragment fragments.isEmpty (sendOk i)
    (ok, sent) :: r.sendResults target sendOk (i + 1) fragments

/-- the datagrams that went out -/
def wentOut (results : List (Bool × List Outgoing)) : List Outgoing :=
  (results.filter fun result => result.1).flatMap Prod.snd

variable (r : RtpSession) (target : String × UInt16) (sendOk : ℕ → Bool)

/-- the loop of `SendVideoFrame` -/
theorem sendFragments_eq (i : ℕ) (fragments : List (List UInt8)) :
    (r.sendFragments target sendOk i fragments).2 = (r.sendResults target sendOk i fragments).flatMap Prod.snd := by
  induction fragments generalizing r i with
  | nil => rfl
  | cons fragment fragments ih =>
    rw [sendFragments, sendResults, List.flatMap_cons, ← ih]

theorem wentOut_cons (ok : Bool) (sent : List Outgoing) (results : List (Bool × List Outgoing)) :
    wentOut ((ok, sent) :: results) = (if ok then sent else []) ++ wentOut results := by
  cases ok <;> rfl

/-- **The numbers of what went out**: from the session's next number on, whatever was lost in between -/
theorem runsFrom_wentOut (i : ℕ) (fragments : List (List UInt8)) :
    RunsFrom r.currentSeq (wentOut (r.sendResults target sendOk i fragments)) ∧
      (r.sendFragments target sendOk i fragments).1.currentSeq =
        r.currentSeq + UInt16.ofNat (wentOut (r.sendResults target sendOk i fragments)).length := by
  induction fragments generalizing r i with
  | nil => exact ⟨trivial, (UInt16.add_zero _).symm⟩
  | cons fragment fragments ih =>
    rw [sendFragments, sendResults]
    by_cases hreach : r.Reaches fragment target.1 target.2
    · simp only [sendTo_of_reaches hreach, wentOut_cons]
      cases sendOk i with
      | false => exact ih r (i + 1)
      | true =>
        obtain ⟨hruns, hseq⟩ := ih (r.afterSend fragment) (i + 1)
        refine ⟨⟨sequence_nextDatagram fragments.isEmpty, hruns⟩, ?_⟩
        simp only [if_true, hseq, List.singleton_append, List.length_cons]
        show r.currentSeq + 1 + _ = _
        rw [UInt16.ofNat_add, UInt16.add_comm (UInt16.ofNat _) (UInt16.ofNat 1), ← UInt16.add_assoc]
        rfl
    · simp only [sendTo_of_not_reaches hreach, wentOut_cons]
      exact ih r (i + 1)

/-- when all fragments are sent -/
theorem sendResults_all_iff (i : ℕ) (fragments : List (List UInt8)) :
    (∀ result ∈ r.sendResults target sendOk i fragments, result.1 = true) ↔
      ∀ k fragment, fragments[k]? = some fragment → r.Reaches fragment target.1 target.2 ∧ sendOk (i + k) = true := by
  induction fragments generalizing r i with
  | nil => simp [sendResults]
  | cons fragment fragments ih =>
    obtain ⟨seq, packets, bytes, hframe⟩ := r.sendTo_frame target fragment fragments.isEmpty (sendOk i)
    have hfirst : (r.sendTo target fragment fragments.isEmpty (sendOk i)).1 = true ↔
        r.Reaches fragment target.1 target.2 ∧ sendOk i = true := sendPacket_eq_true fragments.isEmpty (sendOk i)
    have hrest := ih (r.sendTo target fragment fragments.isEmpty (sendOk i)).2.1 (i + 1)
    -- the counters do not matter to the next one
    have hsame : ∀ payload, (r.sendTo target fragment fragments.isEmpty (sendOk i)).2.1.Reaches payload target.1
        target.2 ↔ r.Reaches payload target.1 target.2 := by
      intro payload
      rw [hframe]
      exact reaches_congr rfl rfl rfl
    simp only [hsame] at hrest
    rw [sendResults, List.forall_mem_cons, hfirst, hrest]
    refine ⟨?_, ?_⟩
    · rintro ⟨hhead, htail⟩ k other hk
      cases k with
      | zero =>
        obtain rfl := Option.some.inj hk
        exact hhead
      | succ k =>
        rw [show i + (k + 1) = i + 1 + k by omega]
        exact htail k other hk
    · intro h
      refine ⟨h 0 fragment rfl, fun k other hk => ?_⟩
      rw [show i + 1 + k = i + (k + 1) by omega]
      exact h (k + 1) other hk

end RtpSession

open RtpSession

/-! ## Two frames of a call -/

/-- the results of `SendPacket` in a call of `SendVideoFrame` -/
def CallContext.videoResults (ctx : CallContext) (encoded : Option (List UInt8)) (sendOk : ℕ → Bool) :
    List (Bool × List Outgoing) :=
  match encoded with
  | none => []
  | some unit => ctx.videoRtp.sendResults ctx.videoTarget sendOk 0 (H264Fragmenter.fragment unit kRtpMaxPayloadSize)

namespace CallContext

variable (ctx : CallContext) (videoFps : UInt32) (encoded : Option (List UInt8)) (sendOk : ℕ → Bool)

/-- what the call hands to `sendto` -/
theorem sendVideoFrame_sent :
    (ctx.sendVideoFrame videoFps encoded sendOk).2.2 = (ctx.videoResults encoded sendOk).flatMap Prod.snd := by
  cases encoded with
  | none => rfl
  | some unit => exact ctx.videoRtp.sendFragments_eq ctx.videoTarget sendOk 0 _

/-- the numbers of one frame, and where the next one goes on -/
theorem runsFrom_videoResults :
    RunsFrom ctx.videoRtp.currentSeq (wentOut (ctx.videoResults encoded sendOk)) ∧
      (ctx.sendVideoFrame videoFps encoded sendOk).2.1.videoRtp.currentSeq =
        ctx.videoRtp.currentSeq + UInt16.ofNat (wentOut (ctx.videoResults encoded sendOk)).length := by
  cases encoded with
  | none => exact ⟨trivial, (UInt16.add_zero _).symm⟩
  | some unit => exact ctx.videoRtp.runsFrom_wentOut ctx.videoTarget sendOk 0 _

/-- two frames, whatever was lost -/
theorem gapFree_frames (next : Option (List UInt8)) (nextOk : ℕ → Bool) :
    GapFree (wentOut (ctx.videoResults encoded sendOk) ++
      wentOut ((ctx.sendVideoFrame videoFps encoded sendOk).2.1.videoResults next nextOk)) := by
  obtain ⟨hruns, hseq⟩ := ctx.runsFrom_videoResults videoFps encoded sendOk
  obtain ⟨hnext, -⟩ := (ctx.sendVideoFrame videoFps encoded sendOk).2.1.runsFrom_videoResults videoFps next nextOk
  rw [hseq] at hnext
  exact ⟨_, runsFrom_append hruns hnext⟩

end CallContext

namespace Session

def videoResults (w : Session) (callId : String) (encoded : Option (List UInt8)) (sendOk : ℕ → Bool) :
    List (Bool × List Outgoing) :=
  match w.contexts.lookup callId with
  | none => []
  | some ctx => ctx.videoResults encoded sendOk

variable (w : Session) (callId : String) (encoded : Option (List UInt8)) (sendOk : ℕ → Bool)

/-- a loss in a frame is returned, and a gap in the numbers of this frame and the next shows it -/
structure LossShown (next : Option (List UInt8)) (nextOk : ℕ → Bool) : Prop where
  returned : (w.sendVideoFrame callId encoded sendOk).1 = true →
    ∀ result ∈ w.videoResults callId encoded sendOk, result.1 = true
  visible : (∃ result ∈ w.videoResults callId encoded sendOk, result.1 = false) →
    ¬ GapFree (wentOut (w.videoResults callId encoded sendOk) ++
      wentOut ((w.sendVideoFrame callId encoded sendOk).2.1.videoResults callId next nextOk))

/-- every fragment gets to `sendto`, and `sendto` succeeds -/
def LossFree : Prop :=
  ∀ ctx unit, w.contexts.lookup callId = some ctx → encoded = some unit →
    ∀ k fragment, (H264Fragmenter.fragment unit kRtpMaxPayloadSize)[k]? = some fragment →
      ctx.videoRtp.Reaches fragment ctx.videoTarget.1 ctx.videoTarget.2 ∧ sendOk k = true

/-- all results of a call are true exactly if nothing is lost -/
theorem videoResults_all_iff :
    (∀ result ∈ w.videoResults callId encoded sendOk, result.1 = true) ↔ w.LossFree callId encoded sendOk := by
  rw [videoResults, LossFree]
  cases hlive : w.contexts.lookup callId with
  | none =>
    refine iff_of_true (List.forall_mem_nil _) ?_
    rintro ctx unit ⟨⟩
  | some ctx =>
    cases encoded with
    | none =>
      refine iff_of_true (List.forall_mem_nil _) ?_
      rintro ctx unit hctx ⟨⟩
    | some unit =>
      have hall := ctx.videoRtp.sendResults_all_iff ctx.videoTarget sendOk 0
        (H264Fragmenter.fragment unit kRtpMaxPayloadSize)
      simp only [Nat.zero_add] at hall
      refine hall.trans ⟨?_, fun h => h ctx unit rfl rfl⟩
      rintro h _ _ ⟨⟩ ⟨⟩
      exact h

theorem gapFree_frames (next : Option (List UInt8)) (nextOk : ℕ → Bool) :
    GapFree (wentOut (w.videoResults callId encoded sendOk) ++
      wentOut ((w.sendVideoFrame callId encoded sendOk).2.1.videoResults callId next nextOk)) := by
  cases hlive : w.contexts.lookup callId with
  | none =>
    rw [sendVideoFrame, hlive]
    simp only [videoResults, hlive]
    exact ⟨0, trivial⟩
  | some ctx =>
    rw [sendVideoFrame, hlive]
    simp only [videoResults, hlive, AList.lookup_insert]
    exact ctx.gapFree_frames w.config.media.videoFps encoded sendOk next nextOk

variable {w callId encoded sendOk} in
/-- a loss would not show in the numbers -/
theorem LossShown.lossFree {next : Option (List UInt8)} {nextOk : ℕ → Bool}
    (h : w.LossShown callId encoded sendOk next nextOk) : w.LossFree callId encoded sendOk := by
  rw [← videoResults_all_iff]
  intro result hresult
  by_contra hlost
  exact h.visible ⟨result, hresult, eq_false_of_ne_true hlost⟩ (w.gapFree_frames callId encoded sendOk next nextOk)

/-- **When a loss shows**: exactly if there is none. What is lost never shows in the numbers, and of a frame that was
encoded `SendVideoFrame` returns true. -/
theorem lossShown_iff (next : Option (List UInt8)) (nextOk : ℕ → Bool) :
    w.LossShown callId encoded sendOk next nextOk ↔ w.LossFree callId encoded sendOk := by
  refine ⟨?_, ?_⟩
  · exact LossShown.lossFree
  · intro hfree
    have hall := (w.videoResults_all_iff callId encoded sendOk).2 hfree
    refine ⟨fun _ => hall, ?_⟩
    rintro ⟨result, hresult, hlost⟩
    rw [hall result hresult] at hlost
    cases hlost

/-- **A frame that is lost whole** -/
theorem lost_frame_hidden : ¬ ∀ (w : Session) (callId : String) (encoded : Option (List UInt8)) (sendOk : ℕ → Bool)
    (next : Option (List UInt8)) (nextOk : ℕ → Bool), w.LossShown callId encoded sendOk next nextOk := by
  intro h
  have hfree := (h connected "a1" (some [101, 2, 3]) (fun _ => false) none fun _ => true).lossFree
  have hwhole : H264Fragmenter.fragment [101, 2, 3] kRtpMaxPayloadSize = [[101, 2, 3]] := if_pos (by decide)
  have hfirst := hfree connectedCall [101, 2, 3] connected_live rfl 0 [101, 2, 3] (by rw [hwhole]; rfl)
  exact absurd hfirst.2 Bool.false_ne_true

end Session

end Rtcom
