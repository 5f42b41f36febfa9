/-
What the callback is told about the end of a call, in every run of the SIP manager.

A terminal report says that a call was disconnected or failed, a creating one that it was placed or rings. `Orderly` is
the invariant of a table and the log that goes with it: no call in the table has ended since it was created. Most
operations are `Clean`: they keep that order, and what they report as ended is gone. A response from 300 on for a call
in the table and a timer that gives up on one (`Retains`) leave the failed call where it is.
- `told_once_iff`: at most one terminal report between two creations of a call, and the call out of the table after it,
  exactly when no operation of the run retains a failed call (`answeredTwice_told_twice`).
-/
import Mathlib.Tactic
import Rtcom.Session.Lifecycle

namespace Rtcom

open Runs SipManager

/-! ## Terminal reports -/

def SipCallState.Terminal (st : SipCallState) : Prop := st = .kDisconnected ∨ st = .kFailed

def SipCallState.Creating (st : SipCallState) : Prop := st = .kCalling ∨ st = .kRinging

instance : DecidablePred SipCallState.Terminal := fun _ => inferInstanceAs (Decidable (_ ∨ _))

theorem SipCallState.Creating.not_terminal {st : SipCallState} (h : st.Creating) : ¬ st.Terminal := by
  rcases h with rfl | rfl <;> simp [Terminal]

/-- what a callback was told, in order -/
abbrev Log := List (String × SipCallState)

namespace Log

/-- every terminal report about the call is followed by a creating one -/
def Unended (log : Log) (id : String) : Prop :=
  ∀ before st after, log = before ++ (id, st) :: after → st.Terminal → ∃ st', (id, st') ∈ after ∧ st'.Creating

/-- between two terminal reports about a call there is a creating one -/
def OncePerLife (log : Log) : Prop :=
  ∀ id before st between st' after, log = before ++ (id, st) :: between ++ (id, st') :: after →
    st.Terminal → st'.Terminal → ∃ st'', (id, st'') ∈ between ∧ st''.Creating

variable {log : Log} {id id' : String} {st : SipCallState}

/-- where an entry stands in a log that got one more -/
theorem snoc_split {log before after : Log} {e a : String × SipCallState} (h : log ++ [e] = before ++ a :: after) :
    (after = [] ∧ log = before ∧ e = a) ∨ ∃ after', after = after' ++ [e] ∧ log = before ++ a :: after' := by
  rcases List.eq_nil_or_concat after with rfl | ⟨after', b, rfl⟩
  · obtain ⟨hlog, hlast⟩ := List.append_inj' h rfl
    exact Or.inl ⟨rfl, hlog, List.singleton_injective hlast⟩
  · have hconcat : log ++ [e] = (before ++ a :: after') ++ [b] := by rw [h]; simp
    obtain ⟨hlog, hlast⟩ := List.append_inj' hconcat rfl
    obtain rfl : e = b := List.singleton_injective hlast
    exact Or.inr ⟨after', by simp, hlog⟩

theorem Unended.snoc (h : Unended log id) (hst : id' = id → ¬ st.Terminal) : Unended (log ++ [(id', st)]) id := by
  intro before t after hlog ht
  rcases snoc_split hlog with ⟨-, -, heq⟩ | ⟨after', rfl, hlog'⟩
  · obtain ⟨rfl, rfl⟩ := Prod.mk.inj heq
    exact absurd ht (hst rfl)
  · obtain ⟨st', hmem, hcreating⟩ := h before t after' hlog' ht
    exact ⟨st', List.mem_append_left _ hmem, hcreating⟩

theorem Unended.create (log : Log) (id : String) (hst : st.Creating) : Unended (log ++ [(id, st)]) id := by
  intro before t after hlog ht
  rcases snoc_split hlog with ⟨-, -, heq⟩ | ⟨after', rfl, -⟩
  · obtain ⟨-, rfl⟩ := Prod.mk.inj heq
    exact absurd ht hst.not_terminal
  · exact ⟨st, by simp, hst⟩

theorem OncePerLife.snoc (h : OncePerLife log) (hst : st.Terminal → Unended log id) :
    OncePerLife (log ++ [(id, st)]) := by
  intro x before t between t' after hlog ht ht'
  rcases snoc_split hlog with ⟨-, hlog', heq⟩ | ⟨after', -, hlog'⟩
  · obtain ⟨rfl, rfl⟩ := Prod.mk.inj heq
    exact hst ht' before t between hlog' ht
  · exact h x before t between t' after' hlog' ht ht'

end Log

namespace SipManager

variable {κ σ : Type} (E : SipEnv) {cb : Callbacks κ σ}

/-- a table and the log that goes with it: no call in the table has ended since it was created -/
def Orderly (t : Table) (log : Log) : Prop := log.OncePerLife ∧ ∀ id, t id ≠ none → log.Unended id

namespace Orderly

variable {t : Table} {log : Log} {id : String} {e : String × SipCallState} {st : SipCallState}

/-- a report that ends nothing -/
theorem report (h : Orderly t log) (hst : ¬ st.Terminal) : Orderly t (log ++ [(id, st)]) :=
  ⟨h.1.snoc fun ht => absurd ht hst, fun x hx => (h.2 x hx).snoc fun _ => hst⟩

/-- a call in the table enters a state -/
theorem enter (h : Orderly t log) (hid : t id ≠ none) (hst : ¬ st.Terminal) :
    Orderly (Function.update t id (some e)) (log ++ [(id, st)]) := by
  refine ⟨(h.report hst).1, fun x hx => ?_⟩
  by_cases hxid : x = id
  · exact (h.report hst).2 x (hxid ▸ hid)
  · rw [Function.update_of_ne hxid] at hx
    exact (h.report hst).2 x hx

theorem create (h : Orderly t log) (hst : st.Creating) :
    Orderly (Function.update t id (some e)) (log ++ [(id, st)]) := by
  refine ⟨(h.report hst.not_terminal).1, fun x hx => ?_⟩
  by_cases hxid : x = id
  · rw [hxid]
    exact .create log id hst
  · rw [Function.update_of_ne hxid] at hx
    exact (h.report hst.not_terminal).2 x hx

/-- a call in the table ends and is erased -/
theorem drop (h : Orderly t log) (hid : t id ≠ none) :
    Orderly (Function.update (Function.update t id (some e)) id none) (log ++ [(id, st)]) := by
  refine ⟨h.1.snoc fun _ => h.2 id hid, fun x hx => ?_⟩
  by_cases hxid : x = id
  · rw [hxid, Function.update_self] at hx
    exact absurd rfl hx
  · rw [Function.update_of_ne hxid, Function.update_of_ne hxid] at hx
    exact (h.2 x hx).snoc fun heq => absurd heq.symm hxid

theorem clear (h : Orderly t log) : Orderly (fun _ => none) log := ⟨h.1, fun _ hx => absurd rfl hx⟩

end Orderly

/-- a failed call is left in the table: a response from 300 on for a call there, or a timer that gives up on one -/
def Retains (m : SipManager κ) : SipOp → Prop
  | .incoming rawMsg _ _ => ∃ msg, E.parse rawMsg = some msg ∧ msg.statusCode ≥ 300 ∧ messageCallId msg ∈ m.calls
  | .processTimers visits => ∃ v ∈ visits, ∃ call, m.calls.lookup v.callId = some call ∧ GivesUp m v call
  | _ => False

/-- the moves keep table and log in order, and every call they report as ended is gone -/
def Clean (t : Table) (ms : List Move) : Prop :=
  (∀ log, Orderly t log → Orderly (ms.foldl Move.run t) (log ++ ms.filterMap Move.told)) ∧
    ∀ id st, (id, st) ∈ ms.filterMap Move.told → st.Terminal → ms.foldl Move.run t id = none

/-- where no report ends a call, order is enough -/
theorem clean_of_order {t : Table} {ms : List Move}
    (horder : ∀ log, Orderly t log → Orderly (ms.foldl Move.run t) (log ++ ms.filterMap Move.told))
    (hnone : ∀ e ∈ ms.filterMap Move.told, ¬ e.2.Terminal) : Clean t ms :=
  ⟨horder, fun _ _ hmem ht => absurd ht (hnone _ hmem)⟩

theorem clean_nil (t : Table) : Clean t [] := clean_of_order (fun log h => by simpa using h) (by simp)

theorem clean_report (t : Table) (id : String) {st : SipCallState} (hst : ¬ st.Terminal) : Clean t [.report id st] :=
  clean_of_order (fun _ h => h.report hst) (by simpa [Move.told] using hst)

theorem clean_create (t : Table) (id : String) {st : SipCallState} (hst : st.Creating) :
    Clean t [.store id id st, .report id st] :=
  clean_of_order (fun _ h => h.create hst) (by simpa [Move.told] using hst.not_terminal)

theorem clean_clear (t : Table) : Clean t [.clear] := by
  refine clean_of_order (fun log h => ?_) fun _ hmem => absurd hmem List.not_mem_nil
  have hlog : log ++ [Move.clear].filterMap Move.told = log := List.append_nil log
  rw [hlog]
  exact h.clear

theorem clean_enter {m : SipManager κ} {id : String} {call : SipCall} (hl : m.calls.lookup id = some call)
    {st : SipCallState} (hst : ¬ st.Terminal) : Clean m.table (enterMoves id call st) := by
  have hid : m.table id ≠ none := by simp [table_of_lookup hl]
  exact clean_of_order (fun _ h => h.enter hid hst) (by simpa [enterMoves, Move.told] using hst)

theorem clean_drop (m : SipManager κ) (id : String) : Clean m.table (dropMoves m id) := by
  unfold dropMoves
  cases hl : m.calls.lookup id with
  | none => exact clean_nil _
  | some call =>
    have hid : m.table id ≠ none := by simp [table_of_lookup hl]
    refine ⟨fun log h => h.drop hid, fun id' st' hmem _ => ?_⟩
    obtain ⟨rfl, -⟩ := Prod.mk.inj (List.mem_singleton.1 hmem)
    exact Function.update_self ..

theorem Clean.trans {t : Table} {ms ms' : List Move} (h : Clean t ms)
    (hms : ∀ e ∈ ms.filterMap Move.told, ¬ e.2.Terminal)
    (h' : Clean (ms.foldl Move.run t) ms') : Clean t (ms ++ ms') := by
  refine ⟨fun log hlog => ?_, fun id st hmem ht => ?_⟩
  · rw [List.foldl_append, List.filterMap_append, ← List.append_assoc]
    exact h'.1 _ (h.1 log hlog)
  · rw [List.filterMap_append] at hmem
    rw [List.foldl_append]
    rcases List.mem_append.1 hmem with hmem | hmem
    · exact absurd ht (hms _ hmem)
    · exact h'.2 id st hmem ht

theorem clean_invite (m : SipManager κ) (id : String) : Clean m.table (inviteMoves m id) := by
  unfold inviteMoves
  split_ifs
  · exact clean_nil _
  · -- created by the ringing report, and connected
    refine (clean_create m.table id (Or.inr rfl)).trans (by simp [Move.told, SipCallState.Terminal]) ?_
    refine clean_of_order (fun log h => ?_) (by simp [Move.told, SipCallState.Terminal])
    exact h.enter (by simp [Move.run]) (by decide)

theorem clean_response {m : SipManager κ} {msg : OsipMessage}
    (hnot : ¬ (msg.statusCode ≥ 300 ∧ messageCallId msg ∈ m.calls)) : Clean m.table (responseMoves m msg) := by
  unfold responseMoves
  cases hl : m.calls.lookup (messageCallId msg) with
  | none => exact clean_nil _
  | some call =>
    simp only
    split_ifs with _ _ _ hfinal
    · exact clean_enter hl (by decide)
    · exact clean_drop m _
    · exact clean_nil _
    · exact absurd ⟨hfinal, AList.lookup_isSome.1 (by rw [hl]; rfl)⟩ hnot
    · exact clean_nil _

theorem visitMoves_eq_nil {m : SipManager κ} {v : Visit}
    (hnot : ∀ call, m.calls.lookup v.callId = some call → ¬ GivesUp m v call) : visitMoves m v = [] := by
  unfold visitMoves
  cases hl : m.calls.lookup v.callId with
  | none => rfl
  | some call => exact if_neg (hnot call hl)

/-- an operation that retains no failed call -/
theorem clean_moves {m : SipManager κ} {o : SipOp} (hnot : ¬ Retains E m o) : Clean m.table (moves E m o) := by
  cases o with
  | makeCall calleeUri mem now =>
    simp only [moves]
    split_ifs
    · exact clean_create _ _ (Or.inl rfl)
    · exact clean_nil _
  | answerCall id accept =>
    simp only [moves]
    cases hl : m.calls.lookup id with
    | none => exact clean_nil _
    | some call =>
      cases accept with
      | true => exact clean_enter hl (by decide)
      | false => exact clean_drop m id
  | hangUp id =>
    simp only [moves]
    cases hl : m.calls.lookup id with
    | none => exact clean_nil _
    | some call =>
      simp only
      split_ifs
      · exact clean_nil _
      · exact clean_enter hl (by decide)
  | cancelCall id => exact clean_drop m id
  | incoming rawMsg mem now =>
    simp only [moves]
    cases hmsg : E.parse rawMsg with
    | none => exact clean_nil _
    | some msg =>
      simp only [messageMoves]
      split_ifs
      · split
        · exact clean_invite m _
        · exact clean_drop m _
        · exact clean_drop m _
        · exact clean_nil _
      · exact clean_response fun h => hnot ⟨msg, hmsg, h⟩
  | processTimers visits =>
    have hnil : moves E m (.processTimers visits) = [] :=
      List.flatMap_eq_nil_iff.2 fun v hv => visitMoves_eq_nil fun call hl h => hnot ⟨v, hv, call, hl, h⟩
    rw [hnil]
    exact clean_nil _
  | register =>
    simp only [moves]
    split_ifs
    · exact clean_report _ _ (by decide)
    · exact clean_nil _
  | unregister =>
    simp only [moves]
    split_ifs
    · exact clean_report _ _ (by decide)
    · exact clean_nil _
  | shutdown =>
    simp only [moves]
    split_ifs
    · exact (clean_report _ _ (by decide)).trans (by decide) (clean_clear _)
    · exact clean_clear _
  | initialise osipInit config => exact clean_nil _
  | processIncomingSdp id sdpBody => exact clean_nil _

/-! ### Runs -/

/-- a call is stored under its own id -/
def Keyed (t : Table) : Prop := ∀ id e, t id = some e → e.1 = id

theorem keyed_moves {m : SipManager κ} (h : Keyed m.table) (o : SipOp) :
    Keyed ((moves E m o).foldl Move.run m.table) := by
  refine entries_run h _ fun id callId st hmem => ?_
  rcases store_mem_moves E hmem with ⟨heq, -⟩ | ⟨call, hl, rfl, -⟩
  · exact heq
  · have hid := h id _ (table_of_lookup hl)
    exact hid

/-- storing and reporting take nothing out of the table -/
theorem there_of_run {t : Table} {id : String} (h : t id ≠ none) (ms : List Move)
    (hms : ∀ mv ∈ ms, mv ≠ .clear ∧ mv ≠ .erase id) : ms.foldl Move.run t id ≠ none := by
  induction ms generalizing t with
  | nil => exact h
  | cons mv ms ih =>
    obtain ⟨⟨hclear, herase⟩, hrest⟩ := List.forall_mem_cons.1 hms
    refine ih ?_ hrest
    cases mv with
    | store id' callId st =>
      rw [Move.run, Function.update_apply]
      split_ifs
      · simp
      · exact h
    | erase id' =>
      have hne : id ≠ id' := fun heq => herase (heq ▸ rfl)
      rwa [Move.run, Function.update_of_ne hne]
    | clear => exact absurd rfl hclear
    | report _ _ => exact h

/-- an operation that retains a failed call reports it and leaves it in the table -/
theorem retained_moves {m : SipManager κ} {o : SipOp} (hkeyed : Keyed m.table) (h : Retains E m o) :
    ∃ id, (id, .kFailed) ∈ (moves E m o).filterMap Move.told ∧ (moves E m o).foldl Move.run m.table id ≠ none := by
  cases o with
  | incoming rawMsg mem now =>
    obtain ⟨msg, hmsg, hfinal, hthere⟩ := h
    obtain ⟨call, hl⟩ := Option.isSome_iff_exists.1 (AList.lookup_isSome.2 hthere)
    have hmoves : moves E m (.incoming rawMsg mem now) = enterMoves (messageCallId msg) call .kFailed := by
      have hresponse : msg.statusCode ≠ 0 := by omega
      have hnot2xx : ¬ (200 ≤ msg.statusCode ∧ msg.statusCode < 300) := by omega
      simp only [moves, hmsg, messageMoves, if_neg hresponse, responseMoves, hl, if_neg hnot2xx, if_pos hfinal]
    rw [hmoves]
    exact ⟨messageCallId msg, by simp [enterMoves, Move.told], by simp [enterMoves, Move.run]⟩
  | processTimers visits =>
    obtain ⟨v, hv, call, hl, hgives⟩ := h
    have hid : call.callId = v.callId := hkeyed _ _ (table_of_lookup hl)
    have hvisit : visitMoves m v = [.store v.callId call.callId .kFailed, .report call.callId .kFailed] := by
      rw [visitMoves, hl]
      exact if_pos hgives
    refine ⟨v.callId, ?_, there_of_run (by simp [table_of_lookup hl]) _ fun mv hmem => ?_⟩
    · refine List.mem_filterMap.2 ⟨.report call.callId .kFailed, List.mem_flatMap.2 ⟨v, hv, ?_⟩, by rw [hid]; rfl⟩
      simp [hvisit]
    · obtain ⟨w, -, hw⟩ := List.mem_flatMap.1 hmem
      unfold visitMoves at hw
      cases hl' : m.calls.lookup w.callId with
      | none => simp [hl'] at hw
      | some call' =>
        simp only [hl'] at hw
        split_ifs at hw
        · simp only [List.mem_cons, List.not_mem_nil, or_false] at hw
          rcases hw with rfl | rfl <;> simp
        · exact absurd hw List.not_mem_nil
  | _ => exact absurd h id

/-- a new manager with a callback, which has been told nothing -/
def listening (k : κ) (w : σ) : SipManager κ × σ × Log := ({ (new : SipManager κ) with sipEventCb := some k }, w, [])

variable (cb)

/-- a call that is reported as ended in the step is not in the table after it -/
def ErasedAfter (s : SipManager κ × σ × Log) (o : SipOp) : Prop :=
  ∀ id st, (id, st) ∈ (step E (observing cb) s o).2.2.drop s.2.2.length → st.Terminal →
    id ∉ (step E (observing cb) s o).1.calls

variable {cb}

/-- what a step does to the table, the log and the callback -/
theorem step_observed (htame : Tame cb) {s : SipManager κ × σ × Log} {o : SipOp} (hcb : s.1.sipEventCb.isSome)
    (hwalk : Walks s.1 o) : (step E (observing cb) s o).1.table = (moves E s.1 o).foldl Move.run s.1.table ∧
      (step E (observing cb) s o).2.2 = s.2.2 ++ (moves E s.1 o).filterMap Move.told ∧
      (step E (observing cb) s o).1.sipEventCb.isSome := by
  have h := step_performs E s htame.observing o hwalk
  exact ⟨h.table htame.observing, h.log htame hcb, by rwa [h.callback htame.observing]⟩

theorem mem_calls_iff {m : SipManager κ} {id : String} : id ∈ m.calls ↔ m.table id ≠ none := by
  rw [← AList.lookup_isSome, table, ne_eq, Option.map_eq_none_iff]
  exact Option.isSome_iff_ne_none

theorem erasedAfter_iff (htame : Tame cb) {s : SipManager κ × σ × Log} {o : SipOp} (hcb : s.1.sipEventCb.isSome)
    (hkeyed : Keyed s.1.table) (hwalk : Walks s.1 o) : ErasedAfter E cb s o ↔ ¬ Retains E s.1 o := by
  obtain ⟨htable, hlog, -⟩ := step_observed E htame hcb hwalk
  rw [ErasedAfter, hlog, List.drop_left]
  simp only [mem_calls_iff, htable, not_not]
  constructor
  · intro h hretains
    obtain ⟨id, htold, hthere⟩ := retained_moves E hkeyed hretains
    exact hthere (h id .kFailed htold (Or.inr rfl))
  · intro h
    exact (clean_moves E h).2

/-- **One terminal report in a life**, the call then out of the table, exactly where no failed call is retained -/
theorem told_once_iff (htame : Tame cb) (k : κ) (w : σ) (ops : List SipOp)
    (hwalks : Along (step E (observing cb)) (fun s o => Walks s.1 o) (listening k w) ops) :
    Log.OncePerLife (exec (step E (observing cb)) (listening k w) ops).2.2 ∧
        Along (step E (observing cb)) (ErasedAfter E cb) (listening k w) ops ↔
      Along (step E (observing cb)) (fun s o => ¬ Retains E s.1 o) (listening k w) ops := by
  have hinv : ∀ (s : SipManager κ × σ × Log) (o : SipOp), s.1.sipEventCb.isSome ∧ Keyed s.1.table → Walks s.1 o →
      (step E (observing cb) s o).1.sipEventCb.isSome ∧ Keyed (step E (observing cb) s o).1.table := by
    intro s o hs hwalk
    rcases hs with ⟨hcb, hkeyed⟩
    obtain ⟨htable, -, hcb'⟩ := step_observed E htame hcb hwalk
    exact ⟨hcb', htable ▸ keyed_moves E hkeyed o⟩
  have hnone : (listening k w).1.table = fun _ => none := by
    funext x
    rfl
  have hstart : (listening k w).1.sipEventCb.isSome ∧ Keyed (listening k w).1.table := by
    refine ⟨rfl, fun id e he => ?_⟩
    rw [hnone] at he
    cases he
  have hiff := along_congr (Q := ErasedAfter E cb) (R := fun s o => ¬ Retains E s.1 o) hinv
    (fun s o hs hwalk => erasedAfter_iff E htame hs.1 hs.2 hwalk) hstart hwalks
  rw [hiff, and_iff_right_iff_imp]
  intro hretains
  have horderly : Orderly (listening k w).1.table (listening k w).2.2 := by
    refine ⟨?_, fun id hid => absurd (congrFun hnone id) hid⟩
    intro id before st between st' after hlog
    simp [listening] at hlog
  have hend := exec_inv (P := fun s : SipManager κ × σ × Log =>
      (s.1.sipEventCb.isSome ∧ Keyed s.1.table) ∧ Orderly s.1.table s.2.2) (fun s o hs ho => ?_) ⟨hstart, horderly⟩ ops
    (along_and hwalks hretains)
  · exact hend.2.1
  · obtain ⟨htable, hlog, -⟩ := step_observed E htame hs.1.1 ho.1
    refine ⟨hinv s o hs.1 ho.1, ?_⟩
    rw [htable, hlog]
    exact (clean_moves E ho.2).1 _ hs.2

/-- a 404 for the call placed first -/
def notFound : PeerMessage := .response 404 "Not Found" "INVITE" "ab-ab"

/-- a call placed and answered twice by the same final response -/
def answeredTwice : List SipOp :=
  [.initialise true {}, .makeCall "sip:bob@example.com" ⟨0, 0, 0, 0, 0⟩ 0, .incoming notFound.text ⟨0, 0, 0, 0, 0⟩ 0,
    .incoming notFound.text ⟨0, 0, 0, 0, 0⟩ 0]

def notFoundEnv : SessionEnv := .constant "ab" [notFound]

theorem told_once_iff_answeredTwice :
    let E := notFoundEnv.toSipEnv
    let cb := SessionManager.callbacks notFoundEnv
    let start := listening EventCallback.onSipEvent (Session.new {})
    Log.OncePerLife (exec (step E (observing cb)) start answeredTwice).2.2 ∧
        Along (step E (observing cb)) (ErasedAfter E cb) start answeredTwice ↔
      Along (step E (observing cb)) (fun s o => ¬ Retains E s.1 o) start answeredTwice := by
  intro E cb start
  exact told_once_iff E (SessionManager.tame_callbacks notFoundEnv) .onSipEvent (Session.new {}) answeredTwice
    ⟨trivial, trivial, trivial, trivial, trivial⟩

/-- **A failed call fails again** when the response is repeated -/
theorem answeredTwice_told_twice : ¬ ∀ (E : SessionEnv) (config : ServerConfig) (ops : List SipOp),
    let cb := SessionManager.callbacks E
    let start := listening EventCallback.onSipEvent (Session.new config)
    Along (step E.toSipEnv (observing cb)) (fun s o => Walks s.1 o) start ops →
    Log.OncePerLife (exec (step E.toSipEnv (observing cb)) start ops).2.2 ∧
      Along (step E.toSipEnv (observing cb)) (ErasedAfter E.toSipEnv cb) start ops := by
  intro h
  obtain ⟨honce, -⟩ := h notFoundEnv {} answeredTwice ⟨trivial, trivial, trivial, trivial, trivial⟩
  have hlog : (exec (step notFoundEnv.toSipEnv (observing (SessionManager.callbacks notFoundEnv)))
      (listening EventCallback.onSipEvent (Session.new {})) answeredTwice).2.2 =
      [("ab-ab", .kCalling), ("ab-ab", .kFailed), ("ab-ab", .kFailed)] := by decide +kernel
  obtain ⟨st, hmem, -⟩ := honce "ab-ab" [("ab-ab", .kCalling)] .kFailed [] .kFailed [] hlog (Or.inr rfl) (Or.inr rfl)
  exact absurd hmem List.not_mem_nil

end SipManager

end Rtcom
