/-
Alarms, seen through a trace of what happened to them: they are set, removed and fired. Set at a time, an alarm is due
an interval later; fired at a time, one that recurs is due an interval after that, and another is gone. Times are
natural numbers, so that no sum of them overflows.

- `Scheduled`: a firing is of the alarms that are due, each once. With ids that are not used twice, in such a trace
  - `fired_final`: an alarm that does not recur fires once, and is then gone;
  - `fired_spaced`: two firings of a recurring alarm are an interval apart;
  - `removed_final`: an alarm that is removed does not fire again.
-/
import Mathlib.Tactic

namespace Alarms

variable {ι κ : Type*}

structure Alarm (κ : Type*) where
  interval : ℕ
  recurring : Bool
  callback : κ
  deadline : ℕ

inductive Event (ι κ : Type*) where
  | added (id : ι) (interval : ℕ) (recurring : Bool) (callback : κ) (now : ℕ)
  | removed (id : ι)
  | fired (calls : List (ι × κ)) (now : ℕ)

/-- the id an event uses for a new alarm -/
def Event.newId? : Event ι κ → Option ι
  | .added id _ _ _ _ => some id
  | _ => none

def addedIds (tr : List (Event ι κ)) : List ι := tr.filterMap Event.newId?

/-- what is left of an alarm fired at now -/
def Alarm.fire (x : Alarm κ) (now : ℕ) : Option (Alarm κ) :=
  if x.recurring then some { x with deadline := now + x.interval } else none

@[simp] theorem addedIds_append (tr tr' : List (Event ι κ)) : addedIds (tr ++ tr') = addedIds tr ++ addedIds tr' :=
  List.filterMap_append

/-- an id that is not used twice is not used again between a firing and the setting before it, nor after it -/
theorem notMem_later {tr pre mid post : List (Event ι κ)} {id : ι} {interval added now : ℕ} {recurring : Bool}
    {callback : κ} {calls : List (ι × κ)} (hnew : (addedIds tr).Nodup)
    (htr : tr = pre ++ .added id interval recurring callback added :: mid ++ .fired calls now :: post) :
    id ∉ addedIds mid ∧ id ∉ addedIds post := by
  have hrest : addedIds tr = addedIds pre ++ id :: (addedIds mid ++ addedIds post) := by
    rw [htr, List.append_assoc, addedIds_append, List.cons_append]
    exact congrArg (fun ids => addedIds pre ++ id :: ids) (addedIds_append mid (.fired calls now :: post))
  rw [hrest, List.nodup_append] at hnew
  have hmore := (List.nodup_cons.1 hnew.2.1).1
  rwa [List.mem_append, not_or] at hmore

variable [DecidableEq ι]

def update (id : ι) (x : Option (Alarm κ)) : Event ι κ → Option (Alarm κ)
  | .added i interval recurring callback now =>
    if i = id then some ⟨interval, recurring, callback, now + interval⟩ else x
  | .removed i => if i = id then none else x
  | .fired calls now => if id ∈ calls.map Prod.fst then x.bind fun y => y.fire now else x

/-- the alarm an id stands for after a trace -/
def alarm (tr : List (Event ι κ)) (id : ι) : Option (Alarm κ) := tr.foldl (update id) none

/-- each firing is of the alarms that are due, each once -/
def Scheduled (tr : List (Event ι κ)) : Prop :=
  ∀ pre calls now post, tr = pre ++ .fired calls now :: post →
    (calls.map Prod.fst).Nodup ∧
      ∀ id c, (id, c) ∈ calls ↔ ∃ x, alarm pre id = some x ∧ x.callback = c ∧ x.deadline ≤ now

@[simp] theorem alarm_concat (tr : List (Event ι κ)) (e : Event ι κ) (id : ι) :
    alarm (tr ++ [e]) id = update id (alarm tr id) e := by
  rw [alarm, List.foldl_append]
  rfl

/-- a prefix of a scheduled trace is scheduled -/
theorem Scheduled.left {tr tr' : List (Event ι κ)} (h : Scheduled (tr ++ tr')) : Scheduled tr := by
  intro pre calls now post htr
  exact h pre calls now (post ++ tr') (by rw [htr, List.append_assoc, List.cons_append])

theorem scheduled_nil : Scheduled ([] : List (Event ι κ)) := by
  intro pre calls now post htr
  have hne : pre ++ .fired calls now :: post ≠ [] := List.append_ne_nil_of_right_ne_nil _ (List.cons_ne_nil _ _)
  exact absurd htr.symm hne

/-- a trace grows by a firing of what is due, or by another event -/
theorem Scheduled.concat {tr : List (Event ι κ)} {e : Event ι κ} (h : Scheduled tr)
    (he : ∀ calls now, e = .fired calls now → (calls.map Prod.fst).Nodup ∧
      ∀ id c, (id, c) ∈ calls ↔ ∃ x, alarm tr id = some x ∧ x.callback = c ∧ x.deadline ≤ now) :
    Scheduled (tr ++ [e]) := by
  intro pre calls now post htr
  rcases List.eq_nil_or_concat post with rfl | ⟨post, e', rfl⟩
  · obtain ⟨rfl, hlast⟩ := List.append_inj' htr rfl
    exact he calls now (List.cons.inj hlast).1
  · rw [List.concat_eq_append, ← List.cons_append, ← List.append_assoc] at htr
    exact h pre calls now post (List.append_inj_left' htr rfl)

/-- who fires is due -/
theorem Scheduled.due {pre post : List (Event ι κ)} {calls : List (ι × κ)} {now : ℕ} {id : ι}
    (h : Scheduled (pre ++ .fired calls now :: post)) (hid : id ∈ calls.map Prod.fst) :
    ∃ x, alarm pre id = some x ∧ x.deadline ≤ now := by
  obtain ⟨⟨i, c⟩, hcall, rfl⟩ := List.mem_map.1 hid
  obtain ⟨x, hx, -, hdue⟩ := ((h pre calls now post rfl).2 i c).1 hcall
  exact ⟨x, hx, hdue⟩

/-! ## What an alarm becomes -/

/-- an id that stands for no alarm stands for none as long as it is not used for a new one -/
theorem alarm_none_append {pre more : List (Event ι κ)} {id : ι} (h : alarm pre id = none) (hid : id ∉ addedIds more) :
    alarm (pre ++ more) id = none := by
  induction more using List.reverseRecOn with
  | nil => rwa [List.append_nil]
  | append_singleton more e ih =>
    rw [addedIds_append, List.mem_append, not_or] at hid
    rw [← List.append_assoc, alarm_concat, ih hid.1]
    cases e with
    | added i interval recurring callback now =>
      have hne : i ≠ id := fun heq => hid.2 (by simp [addedIds, Event.newId?, heq])
      exact if_neg hne
    | removed i => exact ite_self none
    | fired calls now => exact ite_self none

/-- as long as its id is not used again, an alarm stays as it was set, and its deadline only grows -/
theorem alarm_kept {pre more : List (Event ι κ)} {id : ι} {x y : Alarm κ} (h : Scheduled (pre ++ more))
    (hx : alarm pre id = some x) (hid : id ∉ addedIds more) (hy : alarm (pre ++ more) id = some y) :
    y.interval = x.interval ∧ y.recurring = x.recurring ∧ x.deadline ≤ y.deadline := by
  induction more using List.reverseRecOn generalizing y with
  | nil =>
    rw [List.append_nil, hx] at hy
    obtain rfl := Option.some.inj hy
    exact ⟨rfl, rfl, le_rfl⟩
  | append_singleton more e ih =>
    rw [addedIds_append, List.mem_append, not_or] at hid
    rw [← List.append_assoc] at h hy
    rw [alarm_concat] at hy
    cases e with
    | added i interval recurring callback now =>
      have hne : i ≠ id := fun heq => hid.2 (by simp [addedIds, Event.newId?, heq])
      exact ih h.left hid.1 ((if_neg hne).symm.trans hy)
    | removed i =>
      rw [update, Option.ite_none_left_eq_some] at hy
      exact ih h.left hid.1 hy.2
    | fired calls now =>
      rw [update] at hy
      split_ifs at hy with hcall
      · obtain ⟨z, hz, hfire⟩ := Option.bind_eq_some_iff.1 hy
        obtain ⟨hinterval, hrecurring, hle⟩ := ih h.left hid.1 hz
        obtain ⟨z', hz', hdue⟩ := h.due hcall
        obtain rfl : z = z' := Option.some.inj (hz.symm.trans hz')
        rw [Alarm.fire, Option.ite_none_right_eq_some] at hfire
        obtain rfl := Option.some.inj hfire.2
        exact ⟨hinterval, hrecurring, by show x.deadline ≤ now + z.interval; omega⟩
      · exact ih h.left hid.1 hy

/-- the alarm an event sets -/
theorem alarm_added (pre : List (Event ι κ)) (id : ι) (interval : ℕ) (recurring : Bool) (callback : κ) (now : ℕ) :
    alarm (pre ++ [.added id interval recurring callback now]) id =
      some ⟨interval, recurring, callback, now + interval⟩ := by
  rw [alarm_concat, update, if_pos rfl]

/-! ## Runs -/

section Runs

variable {tr pre mid between post : List (Event ι κ)} {id : ι} {interval added : ℕ} {recurring : Bool} {callback : κ}
  {calls calls' : List (ι × κ)} {now now' : ℕ}

/-- a firing of an alarm, the first or a later one: it is as it was set, and due, and was due for the first time an
interval after it was set -/
theorem due_of_added (hnew : (addedIds tr).Nodup) (h : Scheduled tr)
    (htr : tr = pre ++ .added id interval recurring callback added :: mid ++ .fired calls now :: post)
    (hid : id ∈ calls.map Prod.fst) :
    ∃ x, alarm (pre ++ .added id interval recurring callback added :: mid) id = some x ∧ x.interval = interval ∧
      x.recurring = recurring ∧ added + interval ≤ now := by
  have hmid := (notMem_later hnew htr).1
  subst htr
  obtain ⟨x, hx, hdue⟩ := h.due hid
  have hset := alarm_added pre id interval recurring callback added
  have hsplit : pre ++ .added id interval recurring callback added :: mid =
      pre ++ [.added id interval recurring callback added] ++ mid := by simp
  rw [hsplit] at hx h ⊢
  obtain ⟨hinterval, hrecurring, hle⟩ := alarm_kept h.left hset hmid hx
  exact ⟨x, hx, hinterval, hrecurring, hle.trans hdue⟩

/-- **Once and gone**: an alarm that does not recur and has fired stands for nothing any more -/
theorem fired_final (hnew : (addedIds tr).Nodup) (h : Scheduled tr)
    (htr : tr = pre ++ .added id interval false callback added :: mid ++ .fired calls now :: post)
    (hid : id ∈ calls.map Prod.fst) : alarm tr id = none := by
  obtain ⟨x, hx, -, hrecurring, -⟩ := due_of_added hnew h htr hid
  have hgone : alarm (pre ++ .added id interval false callback added :: mid ++ [.fired calls now]) id = none := by
    rw [alarm_concat, hx, update, if_pos hid, Option.bind_some, Alarm.fire, hrecurring]
    rfl
  rw [htr, List.append_cons]
  exact alarm_none_append hgone (notMem_later hnew htr).2

/-- **Spacing**: two firings of a recurring alarm are an interval apart -/
theorem fired_spaced (hnew : (addedIds tr).Nodup) (h : Scheduled tr)
    (htr : tr = pre ++ .added id interval true callback added :: mid ++ .fired calls now ::
      (between ++ .fired calls' now' :: post))
    (hid : id ∈ calls.map Prod.fst) (hid' : id ∈ calls'.map Prod.fst) : now + interval ≤ now' := by
  obtain ⟨x, hx, hinterval, hrecurring, -⟩ := due_of_added hnew h htr hid
  have hnext : alarm (pre ++ .added id interval true callback added :: mid ++ [.fired calls now]) id =
      some { x with deadline := now + interval } := by
    rw [alarm_concat, hx, update, if_pos hid, Option.bind_some, Alarm.fire, if_pos hrecurring, hinterval]
  have hlater := (notMem_later hnew htr).2
  rw [addedIds_append, List.mem_append, not_or] at hlater
  rw [List.append_cons, ← List.append_assoc] at htr
  subst htr
  obtain ⟨y, hy, hdue⟩ := h.due hid'
  obtain ⟨-, -, hle⟩ := alarm_kept h.left hnext hlater.1 hy
  exact hle.trans hdue

/-- **Removed for good**: an alarm that is removed does not fire again -/
theorem removed_final (hnew : (addedIds tr).Nodup) (h : Scheduled tr)
    (htr : tr = pre ++ .removed id :: (between ++ .fired calls now :: post)) (hid : id ∈ addedIds pre) :
    id ∉ calls.map Prod.fst := by
  intro hcall
  have hgone : alarm (pre ++ [.removed id]) id = none := by
    rw [alarm_concat, update, if_pos rfl]
  have hbetween : id ∉ addedIds between := by
    rw [htr, addedIds_append, List.nodup_append] at hnew
    intro hmem
    refine hnew.2.2 id hid id ?_ rfl
    show id ∈ addedIds (between ++ .fired calls now :: post)
    rw [addedIds_append]
    exact List.mem_append_left _ hmem
  rw [List.append_cons, ← List.append_assoc] at htr
  subst htr
  obtain ⟨y, hy, -⟩ := h.due hcall
  rw [alarm_none_append hgone hbetween] at hy
  cases hy

end Runs

end Alarms
