/-
`H264Fragmenter` of `src/rtp/rtp_packet.cpp`: a NAL unit that fits the MTU goes into one RTP payload as it is, a longer
one is cut into FU-A fragments, each behind an FU indicator and an FU header that share the bits of the NAL header.

- `fragmentFrom_getElem?`: the fragment at each index of a unit that is cut.
- `length_fragment`: no fragment of a unit that is cut is longer than two bytes and `kMaxFuPayload`.
- `fuSequence_fragment`: a unit longer than an RTP payload becomes an FU-A sequence, `FuSequence`.
- `defragment_fragment`: `Defragment` undoes the cutting; `defragment_fragment_iff`: and nothing else that `Fragment`
  does. A unit that fits the MTU is sent as it is, and its first two bytes are taken for an FU indicator and an FU
  header.
- `fragment_mtu_iff`: the MTU decides whether a unit is cut, but not how long its fragments are.
- `defragment_damaged`: `Defragment` does not look at the start and the end bit, so it reports what is left of the
  fragments, in any order, as a unit.
-/
import Mathlib.Tactic
import Rtcom.Common.Types

namespace Rtcom

namespace H264Fragmenter

def kMaxFuPayload : ℕ := kRtpMaxPayloadSize - kRtpHeaderSize - 2

def fuIndicator (nalHeader : UInt8) : UInt8 := (nalHeader &&& 0xE0) ||| 28

/-- the type of the unit, behind the start and the end bit -/
def fuHeader (nalHeader : UInt8) (first last : Bool) : UInt8 :=
  let header := nalHeader &&& 0x1F
  let header := if first then header ||| 0x80 else header
  if last then header ||| 0x40 else header

/-- `Fragment`, the loop over what is left of the unit after its header -/
def fragmentFrom (nalHeader : UInt8) (first : Bool) (rest : List UInt8) : List (List UInt8) :=
  if rest = [] then []
  else
    let chunk := min kMaxFuPayload rest.length
    (fuIndicator nalHeader :: fuHeader nalHeader first (chunk ≥ rest.length) :: rest.take chunk) ::
      fragmentFrom nalHeader false (rest.drop chunk)
termination_by rest.length
decreasing_by
  rename_i hrest
  have hpos := List.length_pos_of_ne_nil hrest
  simp only [List.length_drop, kMaxFuPayload, kRtpMaxPayloadSize, kRtpHeaderSize]
  omega

/-- a unit longer than the MTU has a first byte -/
def fragment (nalData : List UInt8) (mtu : ℕ) : List (List UInt8) :=
  if nalData.length ≤ mtu then [nalData] else fragmentFrom (nalData.headD 0) true nalData.tail

/-- `Defragment`, the loop from fragment i on -/
def defragmentFrom (i : ℕ) (completeNal : List UInt8) : List (List UInt8) → List UInt8
  | [] => completeNal
  | (fuIndicator :: fuHeader :: payload) :: frags =>
    let nalHeader := (fuIndicator &&& 0xE0) ||| (fuHeader &&& 0x1F)
    let completeNal := if i = 0 then completeNal ++ [nalHeader] else completeNal
    defragmentFrom (i + 1) (completeNal ++ payload) frags
  | _ :: frags => defragmentFrom (i + 1) completeNal frags

def defragment (fragments : List (List UInt8)) (completeNal : List UInt8) : Bool × List UInt8 :=
  if fragments = [] then (false, completeNal) else (true, defragmentFrom 0 [] fragments)

/-! ## Fragments -/

theorem fragmentFrom_eq_nil {nalHeader : UInt8} {first : Bool} {rest : List UInt8} :
    fragmentFrom nalHeader first rest = [] ↔ rest = [] := by
  rw [fragmentFrom]
  split_ifs with h
  · simp [h]
  · simp [h]

/-- the fragment at an index: a non-empty part of the unit behind the two bytes, the start bit on the first fragment
and the end bit on the last -/
theorem fragmentFrom_getElem? (nalHeader : UInt8) (first : Bool) (rest : List UInt8) :
    ∀ i f, (fragmentFrom nalHeader first rest)[i]? = some f → ∃ payload,
      f = fuIndicator nalHeader ::
        fuHeader nalHeader (first && i = 0) (i + 1 = (fragmentFrom nalHeader first rest).length) :: payload ∧
      payload ≠ [] ∧ payload.length ≤ kMaxFuPayload := by
  fun_induction fragmentFrom nalHeader first rest with
  | case1 => simp
  | case2 first rest hrest chunk ih =>
    have hpos : 0 < rest.length := List.length_pos_of_ne_nil hrest
    have hchunk : 0 < chunk := by
      simp only [chunk, kMaxFuPayload, kRtpMaxPayloadSize, kRtpHeaderSize]
      omega
    intro i f hf
    rcases i with _ | i
    · -- nothing follows exactly when the chunk takes all that is left
      have hlast : (chunk ≥ rest.length) ↔
          0 + 1 = (fragmentFrom nalHeader false (rest.drop chunk)).length + 1 := by
        have hnil : fragmentFrom nalHeader false (rest.drop chunk) = [] ↔ rest.drop chunk = [] := fragmentFrom_eq_nil
        rw [← List.length_eq_zero_iff, List.drop_eq_nil_iff] at hnil
        omega
      obtain rfl := Option.some.inj hf
      refine ⟨rest.take chunk, ?_, ?_, ?_⟩
      · simp only [List.length_cons, decide_eq_decide.2 hlast, decide_true, Bool.and_true]
      · exact List.ne_nil_of_length_pos (by rw [List.length_take]; omega)
      · rw [List.length_take]
        omega
    · obtain ⟨payload, rfl, hne, hle⟩ := ih i f (by simpa using hf)
      refine ⟨payload, ?_, hne, hle⟩
      simp only [List.length_cons, Nat.add_right_cancel_iff, Bool.false_and, Nat.add_eq_zero_iff, one_ne_zero,
        and_false, decide_false, Bool.and_false]

/-- the parts of the unit, one behind the other -/
theorem flatten_fragmentFrom (nalHeader : UInt8) (first : Bool) (rest : List UInt8) :
    ((fragmentFrom nalHeader first rest).map (List.drop 2)).flatten = rest := by
  fun_induction fragmentFrom nalHeader first rest with
  | case1 => rfl
  | case2 first rest hrest chunk ih =>
    rw [List.map_cons, List.flatten_cons, ih]
    exact List.take_append_drop chunk rest

theorem length_fragmentFrom (nalHeader : UInt8) (first : Bool) (rest : List UInt8) :
    ∀ f ∈ fragmentFrom nalHeader first rest, f.length ≤ 2 + kMaxFuPayload := by
  intro f hf
  obtain ⟨i, hi⟩ := List.mem_iff_getElem?.1 hf
  obtain ⟨payload, rfl, -, hle⟩ := fragmentFrom_getElem? nalHeader first rest i f hi
  simp only [List.length_cons]
  omega

/-- one fragment does not hold more than `kMaxFuPayload` bytes behind the header -/
theorem two_le_length_fragmentFrom (nalHeader : UInt8) (first : Bool) {rest : List UInt8}
    (h : kMaxFuPayload < rest.length) : 2 ≤ (fragmentFrom nalHeader first rest).length := by
  have hne : rest ≠ [] := List.ne_nil_of_length_pos (by omega)
  have hdrop : rest.drop (min kMaxFuPayload rest.length) ≠ [] := by
    apply List.ne_nil_of_length_pos
    rw [List.length_drop]
    omega
  have hnext : fragmentFrom nalHeader false (rest.drop (min kMaxFuPayload rest.length)) ≠ [] :=
    fun hnil => hdrop (fragmentFrom_eq_nil.1 hnil)
  have hpos := List.length_pos_of_ne_nil hnext
  rw [fragmentFrom, if_neg hne, List.length_cons]
  omega

/-- a fragment of a unit that is cut -/
theorem length_fragment {nalData : List UInt8} {mtu : ℕ} (h : mtu < nalData.length) :
    ∀ f ∈ fragment nalData mtu, f.length ≤ 2 + kMaxFuPayload := by
  rw [fragment, if_neg (by omega)]
  exact length_fragmentFrom _ _ _

/-! ## FU-A sequences -/

/-- an FU-A fragment: an indicator of type 28 with the NAL header's upper three bits, a header with its type and the
start and the end bit, and at least one byte of the unit -/
structure IsFu (nalHeader : UInt8) (start last : Prop) (f : List UInt8) : Prop where
  length_ge : 3 ≤ f.length
  length_le : f.length ≤ kRtpMaxPayloadSize
  indicator_type : f.getD 0 0 &&& 0x1F = 28
  indicator_nri : f.getD 0 0 &&& 0xE0 = nalHeader &&& 0xE0
  header_type : f.getD 1 0 &&& 0x1F = nalHeader &&& 0x1F
  start_bit : f.getD 1 0 &&& 0x80 ≠ 0 ↔ start
  end_bit : f.getD 1 0 &&& 0x40 ≠ 0 ↔ last

/-- fragments that carry the unit: at least two, the start bit on exactly the first, the end bit on exactly the last,
and payloads that are the unit without its first byte -/
structure FuSequence (nalData : List UInt8) (fragments : List (List UInt8)) : Prop where
  two_le : 2 ≤ fragments.length
  fu : ∀ i f, fragments[i]? = some f → IsFu (nalData.headD 0) (i = 0) (i + 1 = fragments.length) f
  payloads : (fragments.map (List.drop 2)).flatten = nalData.tail

theorem fu_bits (nalHeader : UInt8) (start last : Bool) :
    fuIndicator nalHeader &&& 0x1F = 28 ∧ fuIndicator nalHeader &&& 0xE0 = nalHeader &&& 0xE0 ∧
      fuHeader nalHeader start last &&& 0x1F = nalHeader &&& 0x1F ∧
      (fuHeader nalHeader start last &&& 0x80 ≠ 0 ↔ start = true) ∧
      (fuHeader nalHeader start last &&& 0x40 ≠ 0 ↔ last = true) := by
  obtain ⟨b⟩ := nalHeader
  revert b start last
  decide +kernel

theorem isFu_cons (nalHeader : UInt8) (start last : Bool) {payload : List UInt8} (hne : payload ≠ [])
    (hle : payload.length ≤ kMaxFuPayload) :
    IsFu nalHeader (start = true) (last = true)
      (fuIndicator nalHeader :: fuHeader nalHeader start last :: payload) := by
  have hpos := List.length_pos_of_ne_nil hne
  have hmax : kMaxFuPayload + 2 ≤ kRtpMaxPayloadSize := by decide
  obtain ⟨h1, h2, h3, h4, h5⟩ := fu_bits nalHeader start last
  refine ⟨?_, ?_, h1, h2, h3, h4, h5⟩
  · simp only [List.length_cons]
    omega
  · simp only [List.length_cons]
    omega

/-- **A unit longer than an RTP payload becomes an FU-A sequence** -/
theorem fuSequence_fragment {nalData : List UInt8} (h : kRtpMaxPayloadSize < nalData.length) :
    FuSequence nalData (fragment nalData kRtpMaxPayloadSize) := by
  set fragments := fragmentFrom (nalData.headD 0) true nalData.tail with hfragments
  have hcut : fragment nalData kRtpMaxPayloadSize = fragments := by
    rw [fragment, if_neg (by omega)]
  have hflat : (fragments.map (List.drop 2)).flatten = nalData.tail := flatten_fragmentFrom _ _ _
  have hfu : ∀ i f, fragments[i]? = some f → IsFu (nalData.headD 0) (i = 0) (i + 1 = fragments.length) f := by
    intro i f hf
    obtain ⟨payload, rfl, hne, hle⟩ := fragmentFrom_getElem? _ _ _ i f hf
    have hfu := isFu_cons (nalData.headD 0) (true && i = 0) (i + 1 = fragments.length) hne hle
    simp only [Bool.true_and, decide_eq_true_eq] at hfu
    exact hfu
  have htwo : 2 ≤ fragments.length := by
    apply two_le_length_fragmentFrom
    rw [List.length_tail]
    simp only [kMaxFuPayload, kRtpMaxPayloadSize, kRtpHeaderSize] at h ⊢
    omega
  rw [hcut]
  exact ⟨htwo, hfu, hflat⟩

/-! ## Reassembly -/

/-- the two bytes of a fragment keep all bits of the NAL header -/
theorem header_of_fu (nalHeader : UInt8) (first last : Bool) :
    (fuIndicator nalHeader &&& 0xE0) ||| (fuHeader nalHeader first last &&& 0x1F) = nalHeader := by
  obtain ⟨b⟩ := nalHeader
  revert b first last
  decide +kernel

/-- after the first fragment -/
theorem defragmentFrom_fragmentFrom (nalHeader : UInt8) (first : Bool) (rest : List UInt8) (i : ℕ)
    (completeNal : List UInt8) : defragmentFrom (i + 1) completeNal (fragmentFrom nalHeader first rest) =
      completeNal ++ rest := by
  fun_induction fragmentFrom nalHeader first rest generalizing i completeNal with
  | case1 => simp [defragmentFrom]
  | case2 first rest hrest chunk ih =>
    rw [defragmentFrom, if_neg (Nat.succ_ne_zero i), ih, List.append_assoc, List.take_append_drop]

/-- **Cutting is undone** for every unit that is cut and has a byte after its header -/
theorem defragment_fragment {nalData : List UInt8} {mtu : ℕ} (h : mtu < nalData.length) (hmtu : 1 ≤ mtu)
    (completeNal : List UInt8) : defragment (fragment nalData mtu) completeNal = (true, nalData) := by
  have hne : nalData ≠ [] := by
    rintro rfl
    exact absurd h (Nat.not_lt_zero mtu)
  obtain ⟨nalHeader, rest, rfl⟩ := List.exists_cons_of_ne_nil hne
  have hrest : rest ≠ [] := by
    rintro rfl
    simp only [List.length_singleton] at h
    omega
  rw [fragment, if_neg (by omega), List.headD_cons, List.tail_cons, fragmentFrom, if_neg hrest]
  simp only [defragment, reduceCtorEq, if_false, defragmentFrom, if_true, List.nil_append, header_of_fu]
  rw [defragmentFrom_fragmentFrom, List.append_assoc, List.take_append_drop]
  rfl

/-- a unit that is not cut loses a byte on its way: its second byte is dropped as an FU header, and a unit of one byte
is skipped as too short -/
theorem length_defragment_singleton {nalData : List UInt8} (h : 1 ≤ nalData.length) (completeNal : List UInt8) :
    (defragment [nalData] completeNal).2.length = nalData.length - 1 := by
  rcases nalData with _ | ⟨indicator, _ | ⟨header, payload⟩⟩
  · simp at h
  · rfl
  · rw [defragment, if_neg (by simp), defragmentFrom]
    simp [defragmentFrom, Nat.add_comm]

/-- **Exactly the units that are cut come back** -/
theorem defragment_fragment_iff {nalData : List UInt8} {mtu : ℕ} (hnal : 1 ≤ nalData.length) (hmtu : 1 ≤ mtu)
    (completeNal : List UInt8) :
    defragment (fragment nalData mtu) completeNal = (true, nalData) ↔ mtu < nalData.length := by
  refine ⟨fun h => ?_, fun h => defragment_fragment h hmtu completeNal⟩
  by_contra hshort
  have hlen := length_defragment_singleton hnal completeNal
  rw [fragment, if_pos (by omega)] at h
  rw [h] at hlen
  simp only at hlen
  omega

theorem defragment_fragment_iff_three :
    defragment (fragment [0x65, 0x88, 0x84] 2) [] = (true, [0x65, 0x88, 0x84]) ↔
      2 < [(0x65 : UInt8), 0x88, 0x84].length :=
  defragment_fragment_iff (by decide) (by decide) []

/-- **A unit that fits the MTU does not come back** -/
theorem small_unit_lost : ¬ ∀ (nalData : List UInt8) (mtu : ℕ) (completeNal : List UInt8), 1 ≤ nalData.length →
    1 ≤ mtu → defragment (fragment nalData mtu) completeNal = (true, nalData) := by
  intro h
  have hback := h [0x65, 0x88, 0x84] 1460 [] (by decide) (by decide)
  revert hback
  decide +kernel

/-! ## Fragments and the MTU -/

/-- the first fragment is filled up to `kMaxFuPayload`, whatever the MTU is -/
theorem exists_long_fragment {nalData : List UInt8} {mtu : ℕ} (h : mtu < nalData.length)
    (hmtu : mtu < 2 + kMaxFuPayload) (hpos : 1 ≤ mtu) : ∃ f ∈ fragment nalData mtu, mtu < f.length := by
  have hrest : nalData.tail ≠ [] := by
    apply List.ne_nil_of_length_pos
    rw [List.length_tail]
    omega
  rw [fragment, if_neg (by omega), fragmentFrom, if_neg hrest]
  refine ⟨_, List.mem_cons_self, ?_⟩
  simp only [List.length_cons, List.length_take, List.length_tail]
  omega

/-- **When no fragment is longer than the MTU**: the unit fits it, or the largest fragment does -/
theorem fragment_mtu_iff (nalData : List UInt8) (mtu : ℕ) (hmtu : 3 ≤ mtu) :
    (∀ f ∈ fragment nalData mtu, f.length ≤ mtu) ↔ nalData.length ≤ mtu ∨ 2 + kMaxFuPayload ≤ mtu := by
  constructor
  · intro hall
    by_contra hnot
    push Not at hnot
    obtain ⟨f, hf, hlong⟩ := exists_long_fragment hnot.1 hnot.2 (by omega)
    exact absurd (hall f hf) (by omega)
  · intro h f hf
    by_cases hfits : nalData.length ≤ mtu
    · rw [fragment, if_pos hfits, List.mem_singleton] at hf
      rwa [hf]
    · have hle := length_fragment (by omega) f hf
      omega

theorem fragment_mtu_iff_1200 : (∀ f ∈ fragment (List.replicate 2000 0) 1200, f.length ≤ 1200) ↔
    (List.replicate 2000 (0 : UInt8)).length ≤ 1200 ∨ 2 + kMaxFuPayload ≤ 1200 :=
  fragment_mtu_iff (List.replicate 2000 0) 1200 (by decide)

/-- **The MTU does not bound the fragments**: a unit of 2000 bytes, cut for an MTU of 1200 -/
theorem mtu_exceeded : ¬ ∀ (nalData : List UInt8) (mtu : ℕ), 3 ≤ mtu →
    ∀ f ∈ fragment nalData mtu, f.length ≤ mtu := by
  intro h
  have hlong : 1200 < (List.replicate 2000 (0 : UInt8)).length := by
    rw [List.length_replicate]
    decide
  obtain ⟨f, hf, hlt⟩ := exists_long_fragment hlong (by decide) (by decide)
  exact absurd (h _ 1200 (by decide) f hf) (by omega)

/-! ## Damaged fragments -/

/-- what is left of the fragments when some are dropped or they come in another order -/
structure Damaged (fragments l : List (List UInt8)) : Prop where
  part : l.Subperm fragments
  ne : l ≠ fragments

/-- the fragments of one unit, whichever of them and in whichever order -/
def OfUnit (nalHeader : UInt8) (l : List (List UInt8)) : Prop :=
  ∀ f ∈ l, ∃ first last payload, f = fuIndicator nalHeader :: fuHeader nalHeader first last :: payload ∧ payload ≠ []

theorem ofUnit_fragment {nalData : List UInt8} {mtu : ℕ} (h : mtu < nalData.length) :
    OfUnit (nalData.headD 0) (fragment nalData mtu) := by
  intro f hf
  rw [fragment, if_neg (by omega)] at hf
  obtain ⟨i, hi⟩ := List.mem_iff_getElem?.1 hf
  obtain ⟨payload, rfl, hne, -⟩ := fragmentFrom_getElem? _ _ _ i f hi
  exact ⟨_, _, payload, rfl, hne⟩

/-- the payloads are put one behind the other: neither the start nor the end bit is looked at -/
theorem defragmentFrom_ofUnit {nalHeader : UInt8} {l : List (List UInt8)} (h : OfUnit nalHeader l) (i : ℕ)
    (completeNal : List UInt8) :
    defragmentFrom (i + 1) completeNal l = completeNal ++ (l.map (List.drop 2)).flatten := by
  induction l generalizing i completeNal with
  | nil => simp [defragmentFrom]
  | cons f l ih =>
    obtain ⟨first, last, payload, rfl, -⟩ := h f List.mem_cons_self
    have hrest : OfUnit nalHeader l := fun g hg => h g (List.mem_cons_of_mem _ hg)
    rw [defragmentFrom, if_neg (Nat.succ_ne_zero i), ih hrest, List.append_assoc]
    rfl

theorem defragment_ofUnit {nalHeader : UInt8} {l : List (List UInt8)} (h : OfUnit nalHeader l) (hne : l ≠ [])
    (completeNal : List UInt8) :
    defragment l completeNal = (true, nalHeader :: (l.map (List.drop 2)).flatten) := by
  obtain ⟨f, rest, rfl⟩ := List.exists_cons_of_ne_nil hne
  obtain ⟨first, last, payload, rfl, -⟩ := h f List.mem_cons_self
  have hrest : OfUnit nalHeader rest := fun g hg => h g (List.mem_cons_of_mem _ hg)
  rw [defragment, if_neg hne, defragmentFrom, if_pos rfl, header_of_fu, defragmentFrom_ofUnit hrest]
  rfl

/-- every fragment carries a byte of the unit, so without one of them the unit is shorter -/
theorem length_payloads_lt {nalHeader : UInt8} {fragments l : List (List UInt8)} (h : OfUnit nalHeader fragments)
    (hpart : l.Subperm fragments) (hlt : l.length < fragments.length) :
    ((l.map (List.drop 2)).flatten).length < ((fragments.map (List.drop 2)).flatten).length := by
  obtain ⟨kept, hkept, hsub⟩ := hpart
  obtain ⟨dropped, hperm⟩ := hsub.exists_perm_append
  have hlen : ((fragments.map (List.drop 2)).flatten).length =
      ((l.map (List.drop 2)).flatten).length + ((dropped.map (List.drop 2)).flatten).length := calc
    _ = (((kept ++ dropped).map (List.drop 2)).flatten).length := (hperm.map _).flatten.length_eq
    _ = ((kept.map (List.drop 2)).flatten).length + ((dropped.map (List.drop 2)).flatten).length := by
      rw [List.map_append, List.flatten_append, List.length_append]
    _ = _ := by rw [(hkept.map (List.drop 2)).flatten.length_eq]
  have hpos : dropped ≠ [] := by
    rintro rfl
    have heq := hperm.length_eq
    rw [List.append_nil, hkept.length_eq] at heq
    omega
  obtain ⟨f, rest, rfl⟩ := List.exists_cons_of_ne_nil hpos
  have hmem : f ∈ fragments := hperm.mem_iff.2 (List.mem_append_right _ List.mem_cons_self)
  obtain ⟨first, last, payload, rfl, hne⟩ := h f hmem
  have hbyte : 0 < payload.length := List.length_pos_of_ne_nil hne
  have hcons : (((fuIndicator nalHeader :: fuHeader nalHeader first last :: payload) :: rest).map
      (List.drop 2)).flatten.length = payload.length + ((rest.map (List.drop 2)).flatten).length := by
    rw [List.map_cons, List.flatten_cons, List.length_append]
    rfl
  omega

/-- **What `Defragment` makes of damaged fragments.** It fails only where nothing is left. Otherwise it reports the
payloads that are left in the order in which they come, and where a fragment is missing that is a shorter unit. -/
theorem defragment_damaged (nalData : List UInt8) (mtu : ℕ) (l : List (List UInt8)) (completeNal : List UInt8)
    (hcut : 2 ≤ (fragment nalData mtu).length) (h : Damaged (fragment nalData mtu) l) :
    ((defragment l completeNal).1 = false ↔ l = []) ∧
      (l ≠ [] → (defragment l completeNal).2 = nalData.headD 0 :: (l.map (List.drop 2)).flatten) ∧
      (l.length < (fragment nalData mtu).length → (defragment l completeNal).1 = true →
        (defragment l completeNal).2.length < nalData.length) := by
  have hlong : mtu < nalData.length := by
    by_contra hshort
    rw [fragment, if_pos (by omega), List.length_singleton] at hcut
    omega
  have hunit := ofUnit_fragment hlong
  have hleft : OfUnit (nalData.headD 0) l := fun f hf => hunit f (h.part.subset hf)
  have htail : ((fragment nalData mtu).map (List.drop 2)).flatten.length = nalData.length - 1 := by
    rw [fragment, if_neg (by omega), flatten_fragmentFrom, List.length_tail]
  by_cases hnil : l = []
  · rw [hnil]
    refine ⟨by simp [defragment], fun hne => absurd rfl hne, fun _ hok => ?_⟩
    simp [defragment] at hok
  · rw [defragment_ofUnit hleft hnil]
    refine ⟨by simp [hnil], fun _ => rfl, fun hlt _ => ?_⟩
    have hshorter := length_payloads_lt hunit h.part hlt
    simp only [List.length_cons]
    omega

/-- a unit of 1448 bytes is one byte too long for one fragment -/
theorem two_fragments : 2 ≤ (fragment (List.replicate 1448 0) 1200).length := by
  rw [fragment, if_neg (by rw [List.length_replicate]; decide)]
  apply two_le_length_fragmentFrom
  rw [List.length_tail, List.length_replicate]
  decide

theorem damaged_take_one {fragments : List (List UInt8)} (h : 2 ≤ fragments.length) :
    Damaged fragments (fragments.take 1) := by
  refine ⟨(List.take_sublist 1 fragments).subperm, fun heq => ?_⟩
  have hlen := congrArg List.length heq
  rw [List.length_take] at hlen
  omega

theorem defragment_damaged_two :
    let fragments := fragment (List.replicate 1448 0) 1200
    ((defragment (fragments.take 1) []).1 = false ↔ fragments.take 1 = []) ∧
      (fragments.take 1 ≠ [] → (defragment (fragments.take 1) []).2 =
        (List.replicate 1448 0).headD 0 :: ((fragments.take 1).map (List.drop 2)).flatten) ∧
      ((fragments.take 1).length < fragments.length → (defragment (fragments.take 1) []).1 = true →
        (defragment (fragments.take 1) []).2.length < (List.replicate 1448 (0 : UInt8)).length) :=
  defragment_damaged (List.replicate 1448 0) 1200 _ [] two_fragments (damaged_take_one two_fragments)

/-- **A lost fragment goes unnoticed** -/
theorem lost_fragment_accepted : ¬ ∀ (nalData : List UInt8) (mtu : ℕ) (l : List (List UInt8))
    (completeNal : List UInt8), 2 ≤ (fragment nalData mtu).length → Damaged (fragment nalData mtu) l →
    (defragment l completeNal).1 = false := by
  intro h
  have hfalse := h _ _ _ [] two_fragments (damaged_take_one two_fragments)
  have hne : (fragment (List.replicate 1448 0) 1200).take 1 ≠ [] := by
    apply List.ne_nil_of_length_pos
    rw [List.length_take]
    have htwo := two_fragments
    omega
  rw [defragment, if_neg hne] at hfalse
  exact Bool.noConfusion hfalse

end H264Fragmenter

end Rtcom
