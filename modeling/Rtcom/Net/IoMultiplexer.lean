/-
The timers of `IoMultiplexer`. `FireTimers` marks a one-shot timer that it has called by the largest deadline there is
and sweeps the marked ones out of the vector when it is through; a recurring one it sets an interval ahead of now.
`AddTimer` takes the ids from a 64-bit counter that starts at 1.

- `Tracks`: the vector holds the alarms of the trace, under their ids.
- `timers_kept`: in every run whose deadlines stay below the mark and that adds at most 2^64 timers, timers fire when
  they are due and only then, one-shot timers once, recurring ones an interval apart, removed ones never again, and no
  id is used twice.
- `ids_reused`: the counter starts again after 2^64 timers, however few of them are there at once.
-/
import Mathlib.Tactic
import Rtcom.Lib.Alarms
import Rtcom.Lib.Runs

namespace Rtcom

open Alarms Runs

/-- `IoMultiplexer::TimerInfo`; κ is what the callbacks are -/
structure TimerInfo (κ : Type) where
  id : UInt64
  intervalMs : UInt64
  recurring : Bool
  callback : κ
  nextFireMs : UInt64
deriving DecidableEq, Repr

/-- UINT64_MAX -/
def uint64Max : UInt64 := 0xffffffffffffffff

namespace TimerInfo

variable {κ : Type}

/-- the timer is called at now -/
def isDue (now : UInt64) (timer : TimerInfo κ) : Bool := now ≥ timer.nextFireMs

/-- the body of the loop of `FireTimers`, but for the callback -/
def fire (now : UInt64) (timer : TimerInfo κ) : TimerInfo κ :=
  if timer.isDue now then
    { timer with nextFireMs := if timer.recurring then now + timer.intervalMs else uint64Max }
  else timer

/-- what `FireTimers` sweeps out -/
def isDone (timer : TimerInfo κ) : Bool := !timer.recurring && timer.nextFireMs == uint64Max

def toAlarm (timer : TimerInfo κ) : Alarm κ :=
  ⟨timer.intervalMs.toNat, timer.recurring, timer.callback, timer.nextFireMs.toNat⟩

end TimerInfo

/-- `IoMultiplexer`, its timers -/
structure IoMultiplexer (κ : Type) where
  timers : List (TimerInfo κ)
  nextTimerId : UInt64
deriving DecidableEq, Repr

/-- a call, and what `GetNowMs` returns in it -/
inductive TimerOp (κ : Type) where
  | addTimer (intervalMs : UInt64) (recurring : Bool) (callback : κ) (now : UInt64)
  | removeTimer (timerId : UInt64)
  | fireTimers (now : UInt64)
deriving DecidableEq, Repr

namespace IoMultiplexer

variable {κ : Type}

def new : IoMultiplexer κ := ⟨[], 1⟩

def addTimer (m : IoMultiplexer κ) (intervalMs : UInt64) (recurring : Bool) (callback : κ) (now : UInt64) :
    IoMultiplexer κ × UInt64 :=
  let id := m.nextTimerId
  ({ timers := m.timers ++ [⟨id, intervalMs, recurring, callback, now + intervalMs⟩],
     nextTimerId := m.nextTimerId + 1 }, id)

def removeTimer (m : IoMultiplexer κ) (timerId : UInt64) : IoMultiplexer κ :=
  { m with timers := m.timers.filter fun t => !(t.id == timerId) }

/-- `FireTimers`, and the timers it called, in order -/
def fireTimers (m : IoMultiplexer κ) (now : UInt64) : IoMultiplexer κ × List (TimerInfo κ) :=
  ({ m with timers := (m.timers.map (TimerInfo.fire now)).filter fun t => !t.isDone },
    m.timers.filter (TimerInfo.isDue now))

/-- a call, and its event at the end of the trace -/
def record (s : IoMultiplexer κ × List (Event UInt64 κ)) : TimerOp κ → IoMultiplexer κ × List (Event UInt64 κ)
  | .addTimer intervalMs recurring callback now =>
    let (m, id) := s.1.addTimer intervalMs recurring callback now
    (m, s.2 ++ [.added id intervalMs.toNat recurring callback now.toNat])
  | .removeTimer timerId => (s.1.removeTimer timerId, s.2 ++ [.removed timerId])
  | .fireTimers now =>
    let (m, called) := s.1.fireTimers now
    (m, s.2 ++ [.fired (called.map fun t => (t.id, t.callback)) now.toNat])

/-- every deadline a call sets is below UINT64_MAX -/
def InRange (m : IoMultiplexer κ) : TimerOp κ → Prop
  | .addTimer intervalMs _ _ now => now.toNat + intervalMs.toNat < 2 ^ 64 - 1
  | .removeTimer _ => True
  | .fireTimers now => ∀ t ∈ m.timers, t.recurring = true → t.isDue now = true →
      now.toNat + t.intervalMs.toNat < 2 ^ 64 - 1

instance (m : IoMultiplexer κ) (op : TimerOp κ) : Decidable (m.InRange op) :=
  match op with
  | .addTimer intervalMs _ _ now => inferInstanceAs (Decidable (now.toNat + intervalMs.toNat < 2 ^ 64 - 1))
  | .removeTimer _ => isTrue trivial
  | .fireTimers now => inferInstanceAs (Decidable (∀ t ∈ m.timers, t.recurring = true → t.isDue now = true →
      now.toNat + t.intervalMs.toNat < 2 ^ 64 - 1))

/-- the vector holds the alarms of the trace, and the counter has given out its ids -/
structure Tracks (m : IoMultiplexer κ) (tr : List (Event UInt64 κ)) : Prop where
  next : m.nextTimerId = 1 + UInt64.ofNat (addedIds tr).length
  ids : addedIds tr = (List.range (addedIds tr).length).map fun k => 1 + UInt64.ofNat k
  nodup : (m.timers.map TimerInfo.id).Nodup
  added : ∀ t ∈ m.timers, t.id ∈ addedIds tr
  alarms : ∀ t ∈ m.timers, alarm tr t.id = some t.toAlarm
  others : ∀ id, id ∉ m.timers.map TimerInfo.id → alarm tr id = none
  below : ∀ t ∈ m.timers, t.nextFireMs.toNat < 2 ^ 64 - 1

/-! ## Ids -/

theorem tracks_new : Tracks (new : IoMultiplexer κ) [] :=
  ⟨by simp [new, addedIds], rfl, List.nodup_nil, nofun, nofun, fun _ _ => rfl, nofun⟩

/-- the ids of 2^64 timers -/
theorem nextId_injOn {j k : ℕ} (hj : j < 2 ^ 64) (hk : k < 2 ^ 64)
    (h : 1 + UInt64.ofNat j = 1 + UInt64.ofNat k) : j = k := by
  have hsum := congrArg UInt64.toNat h
  rw [UInt64.toNat_add, UInt64.toNat_add, UInt64.toNat_ofNat_of_lt' hj, UInt64.toNat_ofNat_of_lt' hk] at hsum
  have hone : (1 : UInt64).toNat = 1 := rfl
  omega

theorem Tracks.ids_nodup {m : IoMultiplexer κ} {tr : List (Event UInt64 κ)} (h : m.Tracks tr)
    (hlen : (addedIds tr).length ≤ 2 ^ 64) : (addedIds tr).Nodup := by
  rw [h.ids]
  refine List.Nodup.map_on ?_ List.nodup_range
  intro j hj k hk
  rw [List.mem_range] at hj hk
  exact nextId_injOn (by omega) (by omega)

theorem Tracks.next_fresh {m : IoMultiplexer κ} {tr : List (Event UInt64 κ)} (h : m.Tracks tr)
    (hlen : (addedIds tr).length < 2 ^ 64) : m.nextTimerId ∉ addedIds tr := by
  rw [h.ids, h.next, List.mem_map]
  rintro ⟨k, hk, heq⟩
  rw [List.mem_range] at hk
  have hsame := nextId_injOn (by omega) hlen heq
  omega

/-! ## FireTimers -/

/-- what becomes of a timer: `none` if it is swept out -/
def after (now : UInt64) (t : TimerInfo κ) : Option (TimerInfo κ) :=
  if t.isDue now then
    if t.recurring then some { t with nextFireMs := now + t.intervalMs } else none
  else some t

theorem isDue_iff {now : UInt64} {t : TimerInfo κ} : t.isDue now = true ↔ t.nextFireMs.toNat ≤ now.toNat := by
  rw [TimerInfo.isDue, decide_eq_true_eq, ge_iff_le, UInt64.le_iff_toNat_le]

theorem toNat_uint64Max : uint64Max.toNat = 2 ^ 64 - 1 := rfl

theorem ne_max_of_lt {x : UInt64} (h : x.toNat < 2 ^ 64 - 1) : x ≠ uint64Max := by
  rintro rfl
  rw [toNat_uint64Max] at h
  omega

/-- mark and sweep, for one timer -/
theorem swept_iff {now : UInt64} {t t' : TimerInfo κ} (h : t.nextFireMs.toNat < 2 ^ 64 - 1) :
    t.fire now = t' ∧ (!t'.isDone) = true ↔ after now t = some t' := by
  rw [TimerInfo.fire, after]
  split_ifs with hdue hrecurring
  · refine ⟨?_, ?_⟩
    · rintro ⟨rfl, -⟩
      rfl
    · rintro ⟨⟩
      exact ⟨rfl, by simp [TimerInfo.isDone, hrecurring]⟩
  · refine iff_of_false ?_ nofun
    rintro ⟨rfl, hkept⟩
    simp [TimerInfo.isDone, hrecurring] at hkept
  · refine ⟨?_, ?_⟩
    · rintro ⟨rfl, -⟩
      rfl
    · rintro ⟨⟩
      exact ⟨rfl, by simp [TimerInfo.isDone, ne_max_of_lt h]⟩

theorem mem_fireTimers {m : IoMultiplexer κ} {now : UInt64} {t' : TimerInfo κ}
    (h : ∀ t ∈ m.timers, t.nextFireMs.toNat < 2 ^ 64 - 1) :
    t' ∈ (m.fireTimers now).1.timers ↔ ∃ t ∈ m.timers, after now t = some t' := by
  rw [fireTimers, List.mem_filter, List.mem_map]
  refine ⟨?_, ?_⟩
  · rintro ⟨⟨t, ht, hfire⟩, hkept⟩
    exact ⟨t, ht, (swept_iff (h t ht)).1 ⟨hfire, hkept⟩⟩
  · rintro ⟨t, ht, hafter⟩
    obtain ⟨hfire, hkept⟩ := (swept_iff (h t ht)).2 hafter
    exact ⟨⟨t, ht, hfire⟩, hkept⟩

theorem fire_id (now : UInt64) (t : TimerInfo κ) : (t.fire now).id = t.id := by
  rw [TimerInfo.fire]
  split_ifs <;> rfl

/-- the ids left are a part of the ids there were -/
theorem fireTimers_ids (m : IoMultiplexer κ) (now : UInt64) :
    ((m.fireTimers now).1.timers.map TimerInfo.id).Sublist (m.timers.map TimerInfo.id) := by
  have hids : (m.timers.map (TimerInfo.fire now)).map TimerInfo.id = m.timers.map TimerInfo.id := by
    rw [List.map_map]
    exact List.map_congr_left fun t _ => fire_id now t
  rw [← hids]
  exact List.filter_sublist.map TimerInfo.id

theorem after_id {now : UInt64} {t t' : TimerInfo κ} (h : after now t = some t') : t'.id = t.id := by
  rw [after] at h
  split_ifs at h
  · obtain rfl := Option.some.inj h
    rfl
  · obtain rfl := Option.some.inj h
    rfl

/-- what becomes of a timer is what becomes of its alarm -/
theorem after_toAlarm {now : UInt64} {t : TimerInfo κ}
    (h : t.recurring = true → t.isDue now = true → now.toNat + t.intervalMs.toNat < 2 ^ 64 - 1) :
    (after now t).map TimerInfo.toAlarm = if t.isDue now then t.toAlarm.fire now.toNat else some t.toAlarm := by
  rw [after]
  split_ifs with hdue hrecurring
  · have hsum : (now + t.intervalMs).toNat = now.toNat + t.intervalMs.toNat := by
      rw [UInt64.toNat_add]
      exact Nat.mod_eq_of_lt (by have := h hrecurring hdue; omega)
    simp [TimerInfo.toAlarm, Alarm.fire, hrecurring, hsum]
  · simp [TimerInfo.toAlarm, Alarm.fire, hrecurring]
  · rfl

/-- what was called, by id and callback -/
def calls (m : IoMultiplexer κ) (now : UInt64) : List (UInt64 × κ) :=
  (m.fireTimers now).2.map fun t => (t.id, t.callback)

theorem calls_ids (m : IoMultiplexer κ) (now : UInt64) :
    (m.calls now).map Prod.fst = (m.timers.filter (TimerInfo.isDue now)).map TimerInfo.id := by
  rw [calls, List.map_map]
  rfl

/-- two timers in the vector do not have one id -/
theorem Tracks.eq_of_id {m : IoMultiplexer κ} {tr : List (Event UInt64 κ)} (h : m.Tracks tr) {t u : TimerInfo κ}
    (ht : t ∈ m.timers) (hu : u ∈ m.timers) (hid : t.id = u.id) : t = u :=
  List.inj_on_of_nodup_map h.nodup ht hu hid

theorem Tracks.called_iff {m : IoMultiplexer κ} {tr : List (Event UInt64 κ)} (h : m.Tracks tr) {now : UInt64}
    {t : TimerInfo κ} (ht : t ∈ m.timers) : t.id ∈ (m.calls now).map Prod.fst ↔ t.isDue now = true := by
  rw [calls_ids, List.mem_map]
  refine ⟨?_, ?_⟩
  · rintro ⟨u, hu, hid⟩
    rw [List.mem_filter] at hu
    rw [← h.eq_of_id hu.1 ht hid]
    exact hu.2
  · intro hdue
    exact ⟨t, List.mem_filter.2 ⟨ht, hdue⟩, rfl⟩

/-- **Who is called**: exactly the alarms that are due, each once -/
theorem Tracks.calls_due {m : IoMultiplexer κ} {tr : List (Event UInt64 κ)} (h : m.Tracks tr) (now : UInt64) :
    ((m.calls now).map Prod.fst).Nodup ∧
      ∀ id c, (id, c) ∈ m.calls now ↔ ∃ x, alarm tr id = some x ∧ x.callback = c ∧ x.deadline ≤ now.toNat := by
  refine ⟨?_, ?_⟩
  · rw [calls_ids]
    exact h.nodup.sublist (List.filter_sublist.map TimerInfo.id)
  · intro id c
    rw [calls, List.mem_map]
    refine ⟨?_, ?_⟩
    · rintro ⟨t, ht, hcall⟩
      obtain ⟨rfl, rfl⟩ := Prod.mk.inj hcall
      obtain ⟨hmem, hdue⟩ := List.mem_filter.1 ht
      exact ⟨t.toAlarm, h.alarms t hmem, rfl, isDue_iff.1 hdue⟩
    · rintro ⟨x, hx, rfl, hdue⟩
      have hid : id ∈ m.timers.map TimerInfo.id := by
        by_contra hother
        rw [h.others id hother] at hx
        cases hx
      obtain ⟨t, ht, rfl⟩ := List.mem_map.1 hid
      rw [h.alarms t ht] at hx
      obtain rfl := Option.some.inj hx
      exact ⟨t, List.mem_filter.2 ⟨ht, isDue_iff.2 hdue⟩, rfl⟩

theorem Tracks.fireTimers {m : IoMultiplexer κ} {tr : List (Event UInt64 κ)} (h : m.Tracks tr) {now : UInt64}
    (hrange : m.InRange (.fireTimers now)) :
    (m.fireTimers now).1.Tracks (tr ++ [.fired (m.calls now) now.toNat]) := by
  have hadded : addedIds (tr ++ [.fired (m.calls now) now.toNat]) = addedIds tr := by
    rw [addedIds_append]
    exact List.append_nil _
  -- the alarm of a timer is now what the timer has become
  have halarm : ∀ t ∈ m.timers, alarm (tr ++ [.fired (m.calls now) now.toNat]) t.id =
      (after now t).map TimerInfo.toAlarm := by
    intro t ht
    rw [after_toAlarm (hrange t ht), alarm_concat, h.alarms t ht, update]
    simp only [h.called_iff ht]
    rfl
  refine ⟨?_, ?_, h.nodup.sublist (fireTimers_ids m now), ?_, ?_, ?_, ?_⟩
  · rw [hadded]
    exact h.next
  · rw [hadded]
    exact h.ids
  · intro t' ht'
    obtain ⟨t, ht, hafter⟩ := (mem_fireTimers h.below).1 ht'
    rw [hadded, after_id hafter]
    exact h.added t ht
  · intro t' ht'
    obtain ⟨t, ht, hafter⟩ := (mem_fireTimers h.below).1 ht'
    rw [after_id hafter, halarm t ht, hafter]
    rfl
  · intro id hid
    by_cases hknown : id ∈ m.timers.map TimerInfo.id
    · obtain ⟨t, ht, rfl⟩ := List.mem_map.1 hknown
      rw [halarm t ht, Option.map_eq_none_iff, Option.eq_none_iff_forall_ne_some]
      intro t' hafter
      exact hid (List.mem_map.2 ⟨t', (mem_fireTimers h.below).2 ⟨t, ht, hafter⟩, after_id hafter⟩)
    · rw [alarm_concat, h.others id hknown]
      exact ite_self none
  · intro t' ht'
    obtain ⟨t, ht, hafter⟩ := (mem_fireTimers h.below).1 ht'
    rw [after] at hafter
    split_ifs at hafter with hdue hrecurring
    · obtain rfl := Option.some.inj hafter
      have hsum := hrange t ht hrecurring hdue
      show (now + t.intervalMs).toNat < 2 ^ 64 - 1
      rw [UInt64.toNat_add]
      omega
    · obtain rfl := Option.some.inj hafter
      exact h.below t ht

/-! ## AddTimer, RemoveTimer -/

theorem Tracks.addTimer {m : IoMultiplexer κ} {tr : List (Event UInt64 κ)} (h : m.Tracks tr) {intervalMs now : UInt64}
    {recurring : Bool} {callback : κ} (hrange : m.InRange (.addTimer intervalMs recurring callback now))
    (hlen : (addedIds tr).length < 2 ^ 64) :
    (m.addTimer intervalMs recurring callback now).1.Tracks
      (tr ++ [.added m.nextTimerId intervalMs.toNat recurring callback now.toNat]) := by
  have hadded : addedIds (tr ++ [.added m.nextTimerId intervalMs.toNat recurring callback now.toNat]) =
      addedIds tr ++ [m.nextTimerId] := addedIds_append _ _
  have hfresh := h.next_fresh hlen
  have hunused : m.nextTimerId ∉ m.timers.map TimerInfo.id := by
    intro hmem
    obtain ⟨t, ht, hid⟩ := List.mem_map.1 hmem
    exact hfresh (hid ▸ h.added t ht)
  have hsum : (now + intervalMs).toNat = now.toNat + intervalMs.toNat := by
    rw [UInt64.toNat_add]
    have hbelow : now.toNat + intervalMs.toNat < 2 ^ 64 - 1 := hrange
    omega
  simp only [IoMultiplexer.addTimer]
  refine ⟨?_, ?_, ?_, ?_, ?_, ?_, ?_⟩
  · simp only [hadded, List.length_append, List.length_singleton]
    rw [h.next, UInt64.add_assoc, UInt64.ofNat_add]
    rfl
  · rw [hadded, List.length_append, List.length_singleton, List.range_succ, List.map_append, ← h.ids, h.next]
    rfl
  · rw [List.map_append]
    exact h.nodup.append (List.nodup_singleton _) (List.disjoint_singleton.2 hunused)
  · intro t ht
    rw [hadded]
    rcases List.mem_append.1 ht with hold | hnew
    · exact List.mem_append_left _ (h.added t hold)
    · obtain rfl := List.mem_singleton.1 hnew
      exact List.mem_append_right _ (List.mem_singleton_self _)
  · intro t ht
    rw [alarm_concat]
    rcases List.mem_append.1 ht with hold | hnew
    · have hne : m.nextTimerId ≠ t.id := fun heq => hfresh (heq ▸ h.added t hold)
      exact (if_neg hne).trans (h.alarms t hold)
    · obtain rfl := List.mem_singleton.1 hnew
      simp [update, TimerInfo.toAlarm, hsum]
  · intro id hid
    rw [List.map_append, List.mem_append, not_or] at hid
    have hne : m.nextTimerId ≠ id := fun heq => hid.2 (List.mem_singleton.2 heq.symm)
    rw [alarm_concat]
    exact (if_neg hne).trans (h.others id hid.1)
  · intro t ht
    rcases List.mem_append.1 ht with hold | hnew
    · exact h.below t hold
    · obtain rfl := List.mem_singleton.1 hnew
      show (now + intervalMs).toNat < 2 ^ 64 - 1
      rw [hsum]
      exact hrange

theorem mem_removeTimer {m : IoMultiplexer κ} {timerId : UInt64} {t : TimerInfo κ} :
    t ∈ (m.removeTimer timerId).timers ↔ t ∈ m.timers ∧ t.id ≠ timerId := by
  simp [removeTimer, List.mem_filter]

theorem Tracks.removeTimer {m : IoMultiplexer κ} {tr : List (Event UInt64 κ)} (h : m.Tracks tr) (timerId : UInt64) :
    (m.removeTimer timerId).Tracks (tr ++ [.removed timerId]) := by
  have hadded : addedIds (tr ++ [.removed timerId]) = addedIds tr := by
    rw [addedIds_append]
    exact List.append_nil _
  refine ⟨?_, ?_, ?_, ?_, ?_, ?_, ?_⟩
  · rw [hadded]
    exact h.next
  · rw [hadded]
    exact h.ids
  · exact h.nodup.sublist (List.filter_sublist.map TimerInfo.id)
  · intro t ht
    rw [hadded]
    exact h.added t (mem_removeTimer.1 ht).1
  · intro t ht
    obtain ⟨hmem, hne⟩ := mem_removeTimer.1 ht
    rw [alarm_concat]
    exact (if_neg hne.symm).trans (h.alarms t hmem)
  · intro id hid
    rw [alarm_concat, update]
    split_ifs with heq
    · rfl
    · refine h.others id fun hknown => ?_
      obtain ⟨t, ht, rfl⟩ := List.mem_map.1 hknown
      exact hid (List.mem_map.2 ⟨t, mem_removeTimer.2 ⟨ht, fun hid => heq hid.symm⟩, rfl⟩)
  · intro t ht
    exact h.below t (mem_removeTimer.1 ht).1

/-! ## Runs -/

/-- a run from the constructor on: the timers in the end, and the trace -/
def recorded (ops : List (TimerOp κ)) : IoMultiplexer κ × List (Event UInt64 κ) := exec record (new, []) ops

/-- the deadlines of a run stay below UINT64_MAX -/
def DeadlinesInRange (ops : List (TimerOp κ)) : Prop := Along record (fun s op => s.1.InRange op) (new, []) ops

def isAddTimer : TimerOp κ → Bool
  | .addTimer _ _ _ _ => true
  | _ => false

/-- what timers do -/
structure Kept (m : IoMultiplexer κ) (tr : List (Event UInt64 κ)) : Prop where
  /-- a call of `FireTimers` fires exactly the timers that are due, each once -/
  due : Scheduled tr
  /-- no timer fires before its interval has passed -/
  notEarly : ∀ pre id interval recurring callback added mid calls now post,
    tr = pre ++ Event.added id interval recurring callback added :: mid ++ Event.fired calls now :: post →
    id ∈ calls.map Prod.fst → added + interval ≤ now
  /-- a one-shot timer that has fired does not fire again, and is gone -/
  oneShot : ∀ pre id interval callback added mid calls now post,
    tr = pre ++ Event.added id interval false callback added :: mid ++ Event.fired calls now :: post →
    id ∈ calls.map Prod.fst →
    (∀ calls' now', Event.fired calls' now' ∈ post → id ∉ calls'.map Prod.fst) ∧ ∀ t ∈ m.timers, t.id ≠ id
  /-- two firings of a recurring timer are its interval apart -/
  spaced : ∀ pre id interval callback added mid calls now between calls' now' post,
    tr = pre ++ Event.added id interval true callback added :: mid ++ Event.fired calls now ::
      (between ++ Event.fired calls' now' :: post) →
    id ∈ calls.map Prod.fst → id ∈ calls'.map Prod.fst → now + interval ≤ now'
  /-- a timer that was removed does not fire again -/
  removed : ∀ pre id post, tr = pre ++ Event.removed id :: post → id ∈ addedIds pre →
    ∀ calls now, Event.fired calls now ∈ post → id ∉ calls.map Prod.fst
  newIds : (addedIds tr).Nodup

theorem addedIds_record (s : IoMultiplexer κ × List (Event UInt64 κ)) (op : TimerOp κ) :
    (addedIds (record s op).2).length = (addedIds s.2).length + if isAddTimer op then 1 else 0 := by
  cases op <;> simp [record, addedIds, Event.newId?, isAddTimer]

/-- what a run preserves: the vector holds the alarms of a trace whose firings are on schedule -/
theorem record_tracks {s : IoMultiplexer κ × List (Event UInt64 κ)} {op : TimerOp κ}
    (h : s.1.Tracks s.2 ∧ Scheduled s.2) (hrange : s.1.InRange op)
    (hlen : (addedIds (record s op).2).length ≤ 2 ^ 64) :
    (record s op).1.Tracks (record s op).2 ∧ Scheduled (record s op).2 := by
  obtain ⟨htracks, hdue⟩ := h
  cases op with
  | addTimer intervalMs recurring callback now =>
    rw [addedIds_record, isAddTimer, if_pos rfl] at hlen
    exact ⟨htracks.addTimer hrange (by omega), hdue.concat nofun⟩
  | removeTimer timerId => exact ⟨htracks.removeTimer timerId, hdue.concat nofun⟩
  | fireTimers now =>
    refine ⟨htracks.fireTimers hrange, hdue.concat ?_⟩
    intro calls clock heq
    obtain ⟨rfl, rfl⟩ := Event.fired.inj heq
    exact htracks.calls_due now

theorem exec_tracks {s : IoMultiplexer κ × List (Event UInt64 κ)} (ops : List (TimerOp κ))
    (h : s.1.Tracks s.2 ∧ Scheduled s.2) (hrange : Along record (fun s op => s.1.InRange op) s ops)
    (hlen : (addedIds s.2).length + ops.countP isAddTimer ≤ 2 ^ 64) :
    (exec record s ops).1.Tracks (exec record s ops).2 ∧ Scheduled (exec record s ops).2 ∧
      (addedIds (exec record s ops).2).length = (addedIds s.2).length + ops.countP isAddTimer := by
  induction ops generalizing s with
  | nil => exact ⟨h.1, h.2, rfl⟩
  | cons op ops ih =>
    have hstep := addedIds_record s op
    rw [List.countP_cons] at hlen ⊢
    obtain ⟨htracks, hdue, hsum⟩ := ih (record_tracks h hrange.1 (by omega)) hrange.2 (by omega)
    exact ⟨htracks, hdue, by rw [exec, List.foldl_cons] at *; omega⟩

theorem kept_of_tracks {m : IoMultiplexer κ} {tr : List (Event UInt64 κ)} (h : m.Tracks tr) (hdue : Scheduled tr)
    (hnew : (addedIds tr).Nodup) : m.Kept tr where
  due := hdue
  notEarly := by
    intro pre id interval recurring callback added mid calls now post htr hid
    obtain ⟨-, -, -, -, hle⟩ := due_of_added hnew hdue htr hid
    exact hle
  oneShot := by
    intro pre id interval callback added mid calls now post htr hid
    refine ⟨?_, ?_⟩
    · intro calls' now' hlater hagain
      obtain ⟨between, rest, rfl⟩ := List.append_of_mem hlater
      -- the trace up to the second firing has no alarm left to fire
      rw [← List.cons_append, ← List.append_assoc] at htr
      subst htr
      obtain ⟨x, hx, -⟩ := hdue.due hagain
      rw [addedIds_append] at hnew
      rw [fired_final hnew.of_append_left hdue.left rfl hid] at hx
      cases hx
    · intro t ht hne
      have hgone := fired_final hnew hdue htr hid
      rw [← hne, h.alarms t ht] at hgone
      cases hgone
  spaced := fun _ _ _ _ _ _ _ _ _ _ _ _ htr hid hid' => fired_spaced hnew hdue htr hid hid'
  removed := by
    intro pre id post htr hid calls now hlater
    obtain ⟨between, rest, rfl⟩ := List.append_of_mem hlater
    exact removed_final hnew hdue htr hid
  newIds := hnew

/-- **Timers**: in a run whose deadlines stay below UINT64_MAX and that adds no more timers than there are ids. The
clock may do what it likes: each reading is compared with deadlines made of the readings before. -/
theorem timers_kept (ops : List (TimerOp κ)) (hrange : DeadlinesInRange ops)
    (hlen : ops.countP isAddTimer ≤ 2 ^ 64) : (recorded ops).1.Kept (recorded ops).2 := by
  have hstart : (0 : ℕ) + ops.countP isAddTimer ≤ 2 ^ 64 := by omega
  obtain ⟨htracks, hdue, hsum⟩ := exec_tracks (s := (new, [])) ops ⟨tracks_new, scheduled_nil⟩ hrange hstart
  refine kept_of_tracks htracks hdue (htracks.ids_nodup ?_)
  rw [hsum]
  exact hstart

/-- a one-shot timer, a recurring one that is removed, and clock readings in between -/
theorem timers_kept_run :
    let ops : List (TimerOp String) := [.addTimer 1000 false "ring" 5, .addTimer 300 true "rtcp" 5, .fireTimers 304,
      .fireTimers 700, .fireTimers 1005, .removeTimer 2, .fireTimers 9000]
    (recorded ops).1.timers = [] ∧ (recorded ops).1.Kept (recorded ops).2 := by
  refine ⟨by decide, timers_kept _ ?_ (by decide)⟩
  rw [DeadlinesInRange]
  decide

/-- what `GetNowMs` returned in a call that asks for it -/
def clock? : TimerOp κ → Option UInt64
  | .addTimer _ _ _ now | .fireTimers now => some now
  | .removeTimer _ => none

/-- the clock does not go back -/
def ClockForward (ops : List (TimerOp κ)) : Prop := (ops.filterMap clock?).Pairwise (· ≤ ·)

/-- the run that adds n timers, one after the other, and removes each before it adds the next -/
def addingEach : ℕ → List (TimerOp Unit)
  | 0 => []
  | n + 1 => addingEach n ++ [.addTimer 1 false () 0, .removeTimer (1 + UInt64.ofNat n)]

theorem recorded_addingEach (n : ℕ) :
    (recorded (addingEach n)).1 = ⟨[], 1 + UInt64.ofNat n⟩ ∧
      addedIds (recorded (addingEach n)).2 = (List.range n).map fun k => 1 + UInt64.ofNat k := by
  induction n with
  | zero => exact ⟨rfl, rfl⟩
  | succ n ih =>
    obtain ⟨hstate, hids⟩ := ih
    have hlast : recorded (addingEach (n + 1)) =
        record (record (recorded (addingEach n)) (.addTimer 1 false () 0)) (.removeTimer (1 + UInt64.ofNat n)) := by
      rw [addingEach, recorded, exec_append]
      rfl
    have hnext : 1 + UInt64.ofNat n + 1 = 1 + UInt64.ofNat (n + 1) := by
      rw [UInt64.add_assoc, UInt64.ofNat_add]
      rfl
    rw [hlast]
    refine ⟨?_, ?_⟩
    · simp [record, addTimer, removeTimer, hstate, hnext]
    · calc addedIds (record (record (recorded (addingEach n)) (.addTimer 1 false () 0))
            (.removeTimer (1 + UInt64.ofNat n))).2
          = addedIds (recorded (addingEach n)).2 ++ [(recorded (addingEach n)).1.nextTimerId] := by
            simp [record, addTimer, addedIds, Event.newId?]
        _ = (List.range (n + 1)).map fun k => 1 + UInt64.ofNat k := by
          rw [hstate, hids, List.range_succ, List.map_append]
          rfl

theorem mem_addingEach {n : ℕ} {op : TimerOp Unit} (h : op ∈ addingEach n) :
    op = .addTimer 1 false () 0 ∨ ∃ id, op = .removeTimer id := by
  induction n with
  | zero => cases h
  | succ n ih =>
    rcases List.mem_append.1 h with hold | hnew
    · exact ih hold
    · rcases List.mem_pair.1 hnew with rfl | rfl
      · exact Or.inl rfl
      · exact Or.inr ⟨_, rfl⟩

theorem addingEach_inRange (n : ℕ) : DeadlinesInRange (addingEach n) := by
  rw [DeadlinesInRange, along_iff]
  intro before op rest hsplit
  have hop : op ∈ addingEach n := by simp [hsplit]
  rcases mem_addingEach hop with rfl | ⟨id, rfl⟩
  · show (0 : UInt64).toNat + (1 : UInt64).toNat < 2 ^ 64 - 1
    decide
  · trivial

theorem addingEach_clockForward (n : ℕ) : ClockForward (addingEach n) := by
  have hclock : (addingEach n).filterMap clock? = List.replicate n 0 := by
    induction n with
    | zero => rfl
    | succ n ih =>
      rw [addingEach, List.filterMap_append, ih, List.replicate_succ']
      rfl
  rw [ClockForward, hclock]
  exact List.pairwise_replicate.2 (Or.inr (UInt64.le_refl 0))

/-- **The counter is used up**: the first timer and the one 2^64 calls later have one id, also if each is removed before
the next is added -/
theorem ids_reused : ¬ ∀ ops : List (TimerOp Unit), ClockForward ops → DeadlinesInRange ops →
    (recorded ops).1.Kept (recorded ops).2 := by
  intro h
  have hnew := (h (addingEach (2 ^ 64 + 1)) (addingEach_clockForward _) (addingEach_inRange _)).newIds
  rw [(recorded_addingEach _).2] at hnew
  have hsame : 0 = 2 ^ 64 :=
    List.inj_on_of_nodup_map hnew (List.mem_range.2 (by omega)) (List.mem_range.2 (by omega)) (by decide)
  omega

end IoMultiplexer

end Rtcom
