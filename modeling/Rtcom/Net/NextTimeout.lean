/-
`GetNextTimeout`: how long `Run` may block in `epoll_wait` if it has no timeout of its own. The time that is left to a
deadline is a 64-bit number, the timeout an int, and -1 stands for "none yet": what is cut off in the conversion makes a
time of more than 24 days short, or negative, and then the next timer replaces it.

- `remainingLoop`: the loop on integers.
- `nextTimeoutRight_iff`: the timeout is the time to the earliest deadline, in any order of the timers, exactly if a
  timer is due, or some time survives the conversion as a number from 0 on and no time that is cut comes out below all
  the others.
- `blocks_forever`: a timer 2^31 ms ahead alone.
-/
import Mathlib.Tactic
import Rtcom.Net.IoMultiplexer

namespace Rtcom

namespace IoMultiplexer

variable {κ : Type}

/-- `static_cast<int64_t>(timer.next_fire_ms) - now`: a subtraction of uint64_t, and its result as an int64_t -/
def remaining (now : UInt64) (timer : TimerInfo κ) : Int64 := (timer.nextFireMs.toInt64.toUInt64 - now).toInt64

/-- the loop of `GetNextTimeout` -/
def nextTimeoutLoop (now : UInt64) (timeout : Int32) : List (TimerInfo κ) → Int32
  | [] => timeout
  | timer :: rest =>
    let remaining := remaining now timer
    if remaining ≤ 0 then 0
    else if timeout < 0 ∨ remaining < timeout.toInt64 then nextTimeoutLoop now remaining.toInt32 rest
    else nextTimeoutLoop now timeout rest

def getNextTimeout (m : IoMultiplexer κ) (now : UInt64) : Int32 := nextTimeoutLoop now (-1) m.timers

/-- the largest int -/
def intMax : ℤ := 2 ^ 31 - 1

/-- the time to a deadline -/
def left (now : UInt64) (timer : TimerInfo κ) : ℤ := timer.nextFireMs.toNat - now.toNat

/-- what `GetNextTimeout` is for: the time to the earliest deadline, as far as it fits into an int -/
def earliest (m : IoMultiplexer κ) (now : UInt64) : ℤ :=
  (m.timers.map fun timer => max 0 (left now timer)).foldl min intMax

/-- `Run` blocks until the earliest deadline, and the order of the timers does not matter -/
structure NextTimeoutRight (m : IoMultiplexer κ) (now : UInt64) : Prop where
  value : (m.getNextTimeout now).toInt = m.earliest now
  nonneg : 0 ≤ (m.getNextTimeout now).toInt
  notPast : ∀ timer ∈ m.timers, (m.getNextTimeout now).toInt ≤ max 0 (left now timer)
  order : ∀ timers, timers.Perm m.timers → { m with timers }.getNextTimeout now = m.getNextTimeout now

/-- a timer is due; or some time is not negative as an int, and each that is cut to less than the largest int is, cut,
not less than another -/
def SurvivesConversion (m : IoMultiplexer κ) (now : UInt64) : Prop :=
  (∃ timer ∈ m.timers, left now timer ≤ 0) ∨
    (∃ timer ∈ m.timers, left now timer % 2 ^ 32 < 2 ^ 31) ∧
      ∀ timer ∈ m.timers, 2 ^ 31 ≤ left now timer → left now timer % 2 ^ 32 < intMax →
        ∃ other ∈ m.timers, left now other ≤ left now timer % 2 ^ 32

/-! ## On integers -/

/-- the loop with the times in place of the timers -/
def remainingLoop (timeout : ℤ) : List ℤ → ℤ
  | [] => timeout
  | r :: rest =>
    if r ≤ 0 then 0
    else if timeout < 0 ∨ r < timeout then remainingLoop (r.bmod (2 ^ 32)) rest
    else remainingLoop timeout rest

theorem toInt_remaining {now : UInt64} {timer : TimerInfo κ} (hnow : now.toNat < 2 ^ 63)
    (hnext : timer.nextFireMs.toNat < 2 ^ 63) : (remaining now timer).toInt = left now timer := by
  have hsub : (remaining now timer).toInt = (timer.nextFireMs.toBitVec - now.toBitVec).toInt := rfl
  have hfirst : timer.nextFireMs.toBitVec.toInt = timer.nextFireMs.toNat :=
    BitVec.toInt_eq_toNat_of_lt (by simp only [UInt64.toNat_toBitVec]; omega)
  have hsecond : now.toBitVec.toInt = now.toNat :=
    BitVec.toInt_eq_toNat_of_lt (by simp only [UInt64.toNat_toBitVec]; omega)
  rw [hsub, BitVec.toInt_sub, hfirst, hsecond, left]
  exact Int.bmod_eq_of_le (by omega) (by omega)

theorem toInt_nextTimeoutLoop {now : UInt64} (hnow : now.toNat < 2 ^ 63) (timeout : Int32)
    (timers : List (TimerInfo κ)) (hnext : ∀ timer ∈ timers, timer.nextFireMs.toNat < 2 ^ 63) :
    (nextTimeoutLoop now timeout timers).toInt = remainingLoop timeout.toInt (timers.map (left now)) := by
  induction timers generalizing timeout with
  | nil => rfl
  | cons timer rest ih =>
    have hrest : ∀ timer ∈ rest, timer.nextFireMs.toNat < 2 ^ 63 := fun t ht => hnext t (List.mem_cons_of_mem _ ht)
    have hr := toInt_remaining hnow (hnext timer List.mem_cons_self)
    simp only [nextTimeoutLoop, List.map_cons, remainingLoop, Int64.le_iff_toInt_le, Int64.lt_iff_toInt_lt,
      Int32.lt_iff_toInt_lt, Int32.toInt_toInt64, hr, Int64.toInt_zero, Int32.toInt_zero]
    split_ifs
    · rfl
    · rw [ih _ hrest, Int64.toInt_toInt32, hr]
    · exact ih _ hrest

/-- a time that is not negative as an int -/
theorem bmod_of_fits {r : ℤ} (hfits : r % 2 ^ 32 < 2 ^ 31) : r.bmod (2 ^ 32) = r % 2 ^ 32 := by
  rw [Int.bmod_def]
  omega

theorem bmod_neg {r : ℤ} (hfits : ¬ r % 2 ^ 32 < 2 ^ 31) : r.bmod (2 ^ 32) < 0 := by
  rw [Int.bmod_def]
  omega

/-- a timer that is due: no need to wait -/
theorem remainingLoop_due (timeout : ℤ) {rs : List ℤ} (h : ∃ r ∈ rs, r ≤ 0) : remainingLoop timeout rs = 0 := by
  induction rs generalizing timeout with
  | nil => simp at h
  | cons r rs ih =>
    rw [remainingLoop]
    split_ifs with hdue
    · rfl
    · exact ih _ (by simpa [hdue] using h)
    · exact ih _ (by simpa [hdue] using h)

/-- once there is a timeout, what replaces it is smaller and so survives the conversion -/
theorem remainingLoop_min {timeout : ℤ} {rs : List ℤ} (hlow : 0 ≤ timeout) (hhigh : timeout < 2 ^ 31)
    (hpos : ∀ r ∈ rs, 0 < r) : remainingLoop timeout rs = rs.foldl min timeout := by
  induction rs generalizing timeout with
  | nil => rfl
  | cons r rs ih =>
    have hr : 0 < r := hpos r List.mem_cons_self
    have hrest : ∀ r ∈ rs, 0 < r := fun u hu => hpos u (List.mem_cons_of_mem _ hu)
    rw [remainingLoop, if_neg (by omega), List.foldl_cons]
    split_ifs with hless
    · have hlt : r < timeout := by omega
      rw [bmod_of_fits (by omega), Int.emod_eq_of_lt hr.le (by omega), min_eq_right hlt.le]
      exact ih hr.le (by omega) hrest
    · rw [min_eq_left (by omega)]
      exact ih hlow hhigh hrest

/-- times that are negative as ints do not count, except that the last of them is what comes out -/
theorem remainingLoop_neg {timeout : ℤ} {rs : List ℤ} (hneg : timeout < 0) (hpos : ∀ r ∈ rs, 0 < r)
    (hcut : ∀ r ∈ rs, ¬ r % 2 ^ 32 < 2 ^ 31) : remainingLoop timeout rs < 0 := by
  induction rs generalizing timeout with
  | nil => exact hneg
  | cons r rs ih =>
    have hr : 0 < r := hpos r List.mem_cons_self
    rw [remainingLoop, if_neg (by omega), if_pos (Or.inl hneg)]
    exact ih (bmod_neg (hcut r List.mem_cons_self)) (fun u hu => hpos u (List.mem_cons_of_mem _ hu))
      fun u hu => hcut u (List.mem_cons_of_mem _ hu)

/-- the first time that is not negative as an int is the first timeout, cut or not -/
theorem remainingLoop_first {timeout r : ℤ} {before after : List ℤ} (hneg : timeout < 0)
    (hpos : ∀ u ∈ before ++ r :: after, 0 < u) (hcut : ∀ u ∈ before, ¬ u % 2 ^ 32 < 2 ^ 31)
    (hfits : r % 2 ^ 32 < 2 ^ 31) :
    remainingLoop timeout (before ++ r :: after) = after.foldl min (r % 2 ^ 32) := by
  induction before generalizing timeout with
  | nil =>
    have hr : 0 < r := hpos r List.mem_cons_self
    rw [List.nil_append, remainingLoop, if_neg (by omega), if_pos (Or.inl hneg), bmod_of_fits hfits]
    exact remainingLoop_min (Int.emod_nonneg r (by decide)) hfits fun u hu => hpos u (List.mem_cons_of_mem _ hu)
  | cons u before ih =>
    have hu : 0 < u := hpos u List.mem_cons_self
    rw [List.cons_append, remainingLoop, if_neg (by omega), if_pos (Or.inl hneg)]
    exact ih (bmod_neg (hcut u List.mem_cons_self)) (fun v hv => hpos v (List.mem_cons_of_mem _ hv))
      fun v hv => hcut v (List.mem_cons_of_mem _ hv)

theorem le_foldl_min_iff {c timeout : ℤ} {rs : List ℤ} : c ≤ rs.foldl min timeout ↔ c ≤ timeout ∧ ∀ r ∈ rs, c ≤ r := by
  induction rs generalizing timeout with
  | nil => simp
  | cons r rs ih =>
    rw [List.foldl_cons, ih, le_min_iff, List.forall_mem_cons, and_assoc]

/-! ## The timeout -/

theorem le_earliest_iff {m : IoMultiplexer κ} {now : UInt64} {c : ℤ} :
    c ≤ m.earliest now ↔ c ≤ intMax ∧ ∀ timer ∈ m.timers, c ≤ max 0 (left now timer) := by
  rw [earliest, le_foldl_min_iff, List.forall_mem_map]

theorem earliest_le {m : IoMultiplexer κ} {now : UInt64} {timer : TimerInfo κ} (h : timer ∈ m.timers) :
    m.earliest now ≤ max 0 (left now timer) := (le_earliest_iff.1 (le_refl (m.earliest now))).2 timer h

theorem earliest_nonneg (m : IoMultiplexer κ) (now : UInt64) : 0 ≤ m.earliest now :=
  le_earliest_iff.2 ⟨by decide, fun _ _ => le_max_left _ _⟩

theorem earliest_perm {m : IoMultiplexer κ} {now : UInt64} {timers : List (TimerInfo κ)}
    (h : timers.Perm m.timers) : { m with timers }.earliest now = m.earliest now := by
  refine eq_of_forall_le_iff fun c => ?_
  simp only [le_earliest_iff, h.mem_iff]

/-- the first time that is not negative as an int -/
theorem exists_first_fitting {timers : List (TimerInfo κ)} {now : UInt64}
    (h : ∃ timer ∈ timers, left now timer % 2 ^ 32 < 2 ^ 31) : ∃ timer before after,
      timers = before ++ timer :: after ∧ (∀ u ∈ before, ¬ left now u % 2 ^ 32 < 2 ^ 31) ∧
        left now timer % 2 ^ 32 < 2 ^ 31 := by
  obtain ⟨fitting, hmem, hfits⟩ := h
  obtain ⟨timer, hfind⟩ : ∃ timer, timers.find? (fun u => left now u % 2 ^ 32 < 2 ^ 31) = some timer := by
    rw [← Option.isSome_iff_exists, List.find?_isSome]
    exact ⟨fitting, hmem, decide_eq_true hfits⟩
  obtain ⟨hp, before, after, hsplit, hbefore⟩ := List.find?_eq_some_iff_append.1 hfind
  exact ⟨timer, before, after, hsplit, by simpa using hbefore, of_decide_eq_true hp⟩

/-- the minimum of the first timeout and the times behind it: the times in front do not fit into an int, and where the
first one was cut, either it is no less than the largest int or another time is below it -/
theorem foldl_min_eq_earliest {m : IoMultiplexer κ} {now : UInt64} (hpos : ∀ u ∈ m.timers, 0 < left now u)
    (hcut : ∀ u ∈ m.timers, 2 ^ 31 ≤ left now u → left now u % 2 ^ 32 < intMax →
      ∃ other ∈ m.timers, left now other ≤ left now u % 2 ^ 32)
    {timer : TimerInfo κ} {before after : List (TimerInfo κ)} (hsplit : m.timers = before ++ timer :: after)
    (hbefore : ∀ u ∈ before, ¬ left now u % 2 ^ 32 < 2 ^ 31) (htimer : left now timer % 2 ^ 32 < 2 ^ 31) :
    (after.map (left now)).foldl min (left now timer % 2 ^ 32) = m.earliest now := by
  have hmem : timer ∈ m.timers := by simp [hsplit]
  have hown := hpos timer hmem
  refine eq_of_forall_le_iff fun c => ?_
  rw [le_foldl_min_iff, le_earliest_iff]
  refine ⟨?_, ?_⟩
  · rintro ⟨hc, hafter⟩
    refine ⟨by rw [intMax]; omega, fun u hu => ?_⟩
    rw [max_eq_right (hpos u hu).le]
    rw [hsplit, List.mem_append, List.mem_cons] at hu
    rcases hu with hu | rfl | hu
    · have hcutu := hbefore u hu
      have hposu := hpos u (by simp [hsplit, hu])
      omega
    · omega
    · exact hafter _ (List.mem_map_of_mem hu)
  · rintro ⟨hc, hall⟩
    have hleft : ∀ u ∈ m.timers, c ≤ left now u := fun u hu => by
      have hu' := hall u hu
      rwa [max_eq_right (hpos u hu).le] at hu'
    refine ⟨?_, ?_⟩
    · have hle := hleft timer hmem
      by_cases hsmall : left now timer < 2 ^ 31
      · omega
      · by_cases hmax : left now timer % 2 ^ 32 < intMax
        · obtain ⟨other, hother, hless⟩ := hcut timer hmem (by omega) hmax
          exact (hleft other hother).trans hless
        · omega
    · rw [List.forall_mem_map]
      exact fun u hu => hleft u (by simp [hsplit, hu])

section

variable {m : IoMultiplexer κ} {now : UInt64} (hnow : now.toNat < 2 ^ 63)
  (hnext : ∀ timer ∈ m.timers, timer.nextFireMs.toNat < 2 ^ 63)

include hnow hnext

theorem toInt_getNextTimeout :
    (m.getNextTimeout now).toInt = remainingLoop (-1) (m.timers.map (left now)) :=
  toInt_nextTimeoutLoop hnow (-1) m.timers hnext

/-- the condition is enough, in the order at hand -/
theorem getNextTimeout_eq (h : m.SurvivesConversion now) : (m.getNextTimeout now).toInt = m.earliest now := by
  rw [toInt_getNextTimeout hnow hnext]
  by_cases hdue : ∃ timer ∈ m.timers, left now timer ≤ 0
  · obtain ⟨timer, ht, hle⟩ := hdue
    rw [remainingLoop_due _ ⟨left now timer, List.mem_map_of_mem ht, hle⟩]
    refine le_antisymm (earliest_nonneg m now) ?_
    exact (earliest_le ht).trans_eq (max_eq_left hle)
  · obtain ⟨hfits, hcut⟩ := h.resolve_left hdue
    push Not at hdue
    obtain ⟨timer, before, after, hsplit, hbefore, htimer⟩ := exists_first_fitting hfits
    rw [← foldl_min_eq_earliest hdue hcut hsplit hbefore htimer, hsplit, List.map_append, List.map_cons]
    refine remainingLoop_first (by decide) ?_ ?_ htimer
    · rw [← List.map_cons, ← List.map_append, ← hsplit, List.forall_mem_map]
      exact hdue
    · rw [List.forall_mem_map]
      exact hbefore

/-- a timer whose cut time is below that of all the others is the first timeout where it stands in front -/
theorem NextTimeoutRight.exists_le (h : m.NextTimeoutRight now) (hpos : ∀ u ∈ m.timers, 0 < left now u)
    {timer : TimerInfo κ} (ht : timer ∈ m.timers) (hsmall : left now timer % 2 ^ 32 < intMax) :
    ∃ other ∈ m.timers, left now other ≤ left now timer % 2 ^ 32 := by
  by_contra hless
  push Not at hless
  obtain ⟨before, after, hsplit⟩ := List.append_of_mem ht
  have hperm : (timer :: (before ++ after)).Perm m.timers := by
    rw [hsplit]
    exact List.perm_middle.symm
  have hnext' : ∀ u ∈ timer :: (before ++ after), u.nextFireMs.toNat < 2 ^ 63 :=
    fun u hu => hnext u (hperm.mem_iff.1 hu)
  have hpos' : ∀ r ∈ [] ++ (timer :: (before ++ after)).map (left now), 0 < r := by
    rw [List.nil_append, List.forall_mem_map]
    exact fun u hu => hpos u (hperm.mem_iff.1 hu)
  have hfront : m.earliest now = ((before ++ after).map (left now)).foldl min (left now timer % 2 ^ 32) := by
    rw [← h.value, ← h.order _ hperm, toInt_getNextTimeout hnow hnext']
    exact remainingLoop_first (by decide) hpos' nofun (by rw [intMax] at hsmall; omega)
  have hle : m.earliest now ≤ left now timer % 2 ^ 32 := (le_foldl_min_iff.1 hfront.le).1
  have hlt : left now timer % 2 ^ 32 + 1 ≤ m.earliest now :=
    le_earliest_iff.2 ⟨hsmall, fun u hu => (hless u hu).trans_le (le_max_right _ _)⟩
  omega

/-- the condition is needed: -1 stands where all times are negative as ints -/
theorem NextTimeoutRight.survives (h : m.NextTimeoutRight now) : m.SurvivesConversion now := by
  refine or_iff_not_imp_left.2 fun hdue => ?_
  push Not at hdue
  refine ⟨?_, fun timer ht _ hsmall => h.exists_le hnow hnext hdue ht hsmall⟩
  by_contra hcut
  push Not at hcut
  have hneg : remainingLoop (-1) (m.timers.map (left now)) < 0 := by
    refine remainingLoop_neg (by decide) ?_ ?_
    · rw [List.forall_mem_map]
      exact hdue
    · rw [List.forall_mem_map]
      exact fun u hu => not_lt.2 (hcut u hu)
  have hnonneg := h.nonneg
  rw [toInt_getNextTimeout hnow hnext] at hnonneg
  omega

/-- the condition is enough, in every order: it does not depend on it -/
theorem SurvivesConversion.right (h : m.SurvivesConversion now) : m.NextTimeoutRight now := by
  have hvalue := getNextTimeout_eq hnow hnext h
  refine ⟨hvalue, ?_, ?_, ?_⟩
  · rw [hvalue]
    exact earliest_nonneg m now
  · rw [hvalue]
    exact fun timer ht => earliest_le ht
  · intro timers hperm
    have hother : { m with timers }.SurvivesConversion now := by
      simpa only [SurvivesConversion, hperm.mem_iff] using h
    have hnext' : ∀ timer ∈ timers, timer.nextFireMs.toNat < 2 ^ 63 := fun t ht => hnext t (hperm.mem_iff.1 ht)
    refine Int32.toInt_inj.1 ?_
    calc ({ m with timers }.getNextTimeout now).toInt
        = { m with timers }.earliest now := getNextTimeout_eq hnow hnext' hother
      _ = m.earliest now := earliest_perm hperm
      _ = (m.getNextTimeout now).toInt := hvalue.symm

/-- **When the timeout is right**, in every order of the timers -/
theorem nextTimeoutRight_iff : m.NextTimeoutRight now ↔ m.SurvivesConversion now :=
  ⟨fun h => h.survives hnow hnext, fun h => h.right hnow hnext⟩

end

/-- a timer 50 days ahead, whose cut time the next one replaces -/
theorem nextTimeoutRight_far : let m : IoMultiplexer String :=
      ⟨[⟨1, 4320000000, false, "report", 4320000100⟩, ⟨2, 1500, true, "rtcp", 1600⟩, ⟨3, 300, false, "ring", 400⟩], 4⟩
    m.NextTimeoutRight 100 := by
  refine (nextTimeoutRight_iff (by decide) (by decide)).2 (Or.inr ⟨⟨⟨2, 1500, true, "rtcp", 1600⟩, ?_, ?_⟩, ?_⟩)
  · decide
  · decide
  · decide

/-- **Blocked for ever**: to `epoll_wait` a negative timeout means no timeout -/
theorem blocks_forever : ¬ ∀ (m : IoMultiplexer Unit) (now : UInt64), m.timers ≠ [] → now.toNat < 2 ^ 63 →
    (∀ timer ∈ m.timers, timer.nextFireMs.toNat < 2 ^ 63) → m.NextTimeoutRight now := by
  intro h
  have hright := h ⟨[⟨1, 2147483648, false, (), 2147483648⟩], 2⟩ 0 (by decide) (by decide) (by decide)
  have hvalue : ((⟨[⟨1, 2147483648, false, (), 2147483648⟩], 2⟩ : IoMultiplexer Unit).getNextTimeout 0).toInt =
      -2147483648 := by decide
  have hnonneg := hright.nonneg
  omega

end IoMultiplexer

end Rtcom
