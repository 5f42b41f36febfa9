/-
The direction of a call's life, in every run of the SIP manager with a callback that works on session infos at most
(`Tame`); `OnSipEvent` is one (`tame_callbacks`).

The states have an order (`SipCallState.rank`): placed or ringing, connected, disconnecting, and ended. What an
operation stores can be read off its moves (`store_mem_moves`): a new call, or one that is there, in a state not before
the one it was in. `AnswerCall` is the only operation that does not look.
- `never_back_iff`: no call moves backwards as long as it stays in the table, exactly when no `AnswerCall` accepts a
  call that is being hung up or has ended (`acceptedAgain_goes_back`).
-/
import Mathlib.Tactic
import Rtcom.Session.Contexts
import Rtcom.Sip.Moves

namespace Rtcom

open Runs SipManager

/-- `OnSipEvent` works on the ports of a call, an application's callback on nothing -/
theorem SessionManager.tame_callbacks (E : SessionEnv) : Tame (callbacks E) := by
  intro k id st s
  cases k with
  | application => exact ⟨s.1.calls, rfl, fun _ => rfl⟩
  | onSipEvent =>
    refine ⟨(onSipEvent E id st s).1.calls, ?_, map_lookup_onSipEvent E SipCall.core (fun _ _ _ => rfl) id st s⟩
    simp only [callbacks]
    cases st with
    | kConnected =>
      simp only [onSipEvent]
      cases s.1.calls.lookup id <;> rfl
    | _ => rfl

/-! ## Order of states -/

/-- the place of a state in the life of a call; no call is stored in the other states -/
def SipCallState.rank : SipCallState → ℕ
  | .kConnected => 1
  | .kDisconnecting => 2
  | .kDisconnected | .kFailed => 3
  | _ => 0

namespace SipManager

variable {κ σ : Type} (E : SipEnv) {cb : Callbacks κ σ}

/-- the id under which an operation stores a new call, whatever was stored there -/
def placed (m : SipManager κ) : SipOp → Option String
  | .makeCall .. => if m.initialized then some (generateCallId E m).1 else none
  | _ => none

/-- an `AnswerCall` that accepts finds a call that is neither being hung up nor ended -/
def Answerable (m : SipManager κ) : SipOp → Prop
  | .answerCall id true => ∀ call, m.calls.lookup id = some call → call.state.rank ≤ SipCallState.kConnected.rank
  | _ => True

/-- what holds of every entry, and of what the moves store, holds of every entry after them -/
theorem entries_run {P : String → String × SipCallState → Prop} {t : Table} (h : ∀ id e, t id = some e → P id e)
    (ms : List Move) (hms : ∀ id callId st, .store id callId st ∈ ms → P id (callId, st)) :
    ∀ id e, ms.foldl Move.run t id = some e → P id e := by
  induction ms generalizing t with
  | nil => exact h
  | cons mv ms ih =>
    refine ih ?_ fun id callId st hmem => hms id callId st (List.mem_cons_of_mem mv hmem)
    intro id e he
    cases mv with
    | store id' callId st =>
      by_cases hid : id = id'
      · subst hid
        rw [Move.run, Function.update_self] at he
        cases he
        exact hms id callId st List.mem_cons_self
      · rw [Move.run, Function.update_of_ne hid] at he
        exact h id e he
    | erase id' =>
      by_cases hid : id = id'
      · subst hid
        rw [Move.run, Function.update_self] at he
        cases he
      · rw [Move.run, Function.update_of_ne hid] at he
        exact h id e he
    | clear => cases he
    | report _ _ => exact h id e he

theorem rank_le_ended (st : SipCallState) : st.rank ≤ 3 := by
  cases st <;> decide

/-- a move stores a call again, under the id and in the state given, where a condition allows it -/
def StoresAgain (m : SipManager κ) (id callId : String) (st : SipCallState) (allowed : Prop) : Prop :=
  ∃ call, m.calls.lookup id = some call ∧ callId = call.callId ∧ (allowed → call.state.rank ≤ st.rank)

theorem store_mem_enterMoves {m : SipManager κ} {id id' callId : String} {call : SipCall} {st st' : SipCallState}
    {allowed : Prop} (hl : m.calls.lookup id' = some call) (hrank : allowed → call.state.rank ≤ st'.rank)
    (h : Move.store id callId st ∈ enterMoves id' call st') : StoresAgain m id callId st allowed := by
  simp only [enterMoves, List.mem_cons, Move.store.injEq, reduceCtorEq, List.not_mem_nil, or_false] at h
  obtain ⟨rfl, rfl, rfl⟩ := h
  exact ⟨call, hl, rfl, hrank⟩

theorem store_mem_dropMoves {m : SipManager κ} {id id' callId : String} {st : SipCallState} {allowed : Prop}
    (h : Move.store id callId st ∈ dropMoves m id') : StoresAgain m id callId st allowed := by
  unfold dropMoves at h
  cases hl : m.calls.lookup id' with
  | none => simp [hl] at h
  | some call =>
    rw [hl] at h
    rcases List.mem_append.1 h with h | h
    · exact store_mem_enterMoves hl (fun _ => rank_le_ended _) h
    · simp at h

theorem store_mem_responseMoves {m : SipManager κ} {msg : OsipMessage} {id callId : String} {st : SipCallState}
    {allowed : Prop} (h : Move.store id callId st ∈ responseMoves m msg) : StoresAgain m id callId st allowed := by
  unfold responseMoves at h
  cases hl : m.calls.lookup (messageCallId msg) with
  | none => simp [hl] at h
  | some call =>
    simp only [hl] at h
    split_ifs at h with _ hcalling
    · exact store_mem_enterMoves hl (fun _ => by rw [hcalling]; decide) h
    · exact store_mem_dropMoves h
    · exact absurd h List.not_mem_nil
    · exact store_mem_enterMoves hl (fun _ => rank_le_ended _) h
    · exact absurd h List.not_mem_nil

/-- an incoming message stores a new call where none is, or one again -/
theorem store_mem_messageMoves {m : SipManager κ} {msg : OsipMessage} {id callId : String} {st : SipCallState}
    {allowed : Prop} (h : Move.store id callId st ∈ messageMoves m msg) :
    callId = id ∧ m.calls.lookup id = none ∨ StoresAgain m id callId st allowed := by
  unfold messageMoves at h
  split_ifs at h
  · split at h
    · rw [inviteMoves] at h
      split_ifs at h with hthere
      · exact absurd h List.not_mem_nil
      · simp only [List.mem_cons, Move.store.injEq, reduceCtorEq, List.not_mem_nil, or_false, false_or] at h
        obtain ⟨rfl, rfl⟩ : id = messageCallId msg ∧ callId = messageCallId msg := by
          rcases h with h | h <;> exact ⟨h.1, h.2.1⟩
        refine Or.inl ⟨rfl, ?_⟩
        simpa using (not_or.1 hthere).2
    · exact Or.inr (store_mem_dropMoves h)
    · exact Or.inr (store_mem_dropMoves h)
    · exact absurd h List.not_mem_nil
  · exact Or.inr (store_mem_responseMoves h)

theorem store_mem_visitMoves {m : SipManager κ} {v : Visit} {id callId : String} {st : SipCallState} {allowed : Prop}
    (h : Move.store id callId st ∈ visitMoves m v) : StoresAgain m id callId st allowed := by
  unfold visitMoves at h
  cases hl : m.calls.lookup v.callId with
  | none => simp [hl] at h
  | some call =>
    simp only [hl] at h
    split_ifs at h
    · simp only [List.mem_cons, Move.store.injEq, reduceCtorEq, List.not_mem_nil, or_false] at h
      obtain ⟨rfl, rfl, rfl⟩ := h
      exact ⟨call, hl, rfl, fun _ => rank_le_ended _⟩
    · exact absurd h List.not_mem_nil

/-- **What an operation stores**: a new call, under its own id, or one that is there, in a state not before the one it
was in but for an `AnswerCall` -/
theorem store_mem_moves {m : SipManager κ} {o : SipOp} {id callId : String} {st : SipCallState}
    (h : Move.store id callId st ∈ moves E m o) :
    callId = id ∧ (m.calls.lookup id = none ∨ placed E m o = some id) ∨
      StoresAgain m id callId st (Answerable m o) := by
  cases o with
  | makeCall calleeUri mem now =>
    simp only [moves, placed] at h ⊢
    split_ifs at h ⊢ with hinit
    · simp only [List.mem_cons, Move.store.injEq, reduceCtorEq, List.not_mem_nil, or_false] at h
      obtain ⟨rfl, rfl, -⟩ := h
      exact Or.inl ⟨rfl, Or.inr rfl⟩
    · exact absurd h List.not_mem_nil
  | answerCall id' accept =>
    simp only [moves] at h
    cases hl : m.calls.lookup id' with
    | none => simp [hl] at h
    | some call =>
      simp only [hl] at h
      cases accept with
      | true => exact Or.inr (store_mem_enterMoves hl (fun hanswer => hanswer call hl) h)
      | false => exact Or.inr (store_mem_dropMoves h)
  | hangUp id' =>
    simp only [moves] at h
    cases hl : m.calls.lookup id' with
    | none => simp [hl] at h
    | some call =>
      simp only [hl] at h
      split_ifs at h with hst
      · exact absurd h List.not_mem_nil
      · have hconnected : call.state = .kConnected ∨ call.state = .kInProgress := by
          by_contra hnot
          exact hst (not_or.1 hnot)
        refine Or.inr (store_mem_enterMoves hl (fun _ => ?_) h)
        rcases hconnected with hst | hst <;> rw [hst] <;> decide
  | cancelCall id' => exact Or.inr (store_mem_dropMoves h)
  | incoming rawMsg mem now =>
    simp only [moves] at h
    cases hmsg : E.parse rawMsg with
    | none => simp [hmsg] at h
    | some msg =>
      rw [hmsg] at h
      exact (store_mem_messageMoves h).imp_left fun h => ⟨h.1, Or.inl h.2⟩
  | processTimers visits =>
    obtain ⟨v, -, hv⟩ := List.mem_flatMap.1 h
    exact Or.inr (store_mem_visitMoves hv)
  | register =>
    simp only [moves] at h
    split_ifs at h <;> simp at h
  | unregister =>
    simp only [moves] at h
    split_ifs at h <;> simp at h
  | shutdown =>
    simp only [moves] at h
    split_ifs at h <;> simp at h
  | initialise osipInit config => exact absurd h List.not_mem_nil
  | processIncomingSdp id' sdpBody => exact absurd h List.not_mem_nil

/-! ### Runs -/

theorem lookup_of_table {m : SipManager κ} {id : String} {e : String × SipCallState} (h : m.table id = some e) :
    ∃ call, m.calls.lookup id = some call ∧ call.state = e.2 := by
  obtain ⟨call, hl, rfl⟩ := Option.map_eq_some_iff.1 h
  exact ⟨call, hl, rfl⟩

theorem table_of_lookup {m : SipManager κ} {id : String} {call : SipCall} (h : m.calls.lookup id = some call) :
    m.table id = some (call.callId, call.state) := by
  rw [table, h, Option.map_some]

variable (cb)

/-- the call stays in the table, and none is stored in its place -/
def Keeps (id : String) : SipManager κ × σ → List SipOp → Prop :=
  Along (step E cb) fun s o => id ∈ (step E cb s o).1.calls ∧ placed E s.1 o ≠ some id

/-- over any part of the run that keeps a call, its state does not move backwards -/
def NeverBack (s : SipManager κ × σ) (ops : List SipOp) : Prop :=
  ∀ before during after, ops = before ++ during ++ after → ∀ id call call',
    (exec (step E cb) s before).1.calls.lookup id = some call →
    Keeps E cb id (exec (step E cb) s before) during →
    (exec (step E cb) s (before ++ during)).1.calls.lookup id = some call' → call.state.rank ≤ call'.state.rank

variable {cb}

/-- the entry for the id, if there is one, is at a rank or above -/
def AtLeast (r : ℕ) (id : String) (t : Table) : Prop := ∀ x e, t x = some e → x = id → r ≤ e.2.rank

theorem atLeast_step (htame : Tame cb) {s : SipManager κ × σ} {o : SipOp} (hwalk : Walks s.1 o)
    (hanswer : Answerable s.1 o) {id : String} (hid : id ∈ s.1.calls) (hplaced : placed E s.1 o ≠ some id) {r : ℕ}
    (h : AtLeast r id s.1.table) : AtLeast r id (step E cb s o).1.table := by
  rw [(step_performs E s htame o hwalk).table htame]
  apply entries_run h _
  rintro x callId st hmem rfl
  rcases store_mem_moves E hmem with ⟨-, hnone | hnew⟩ | ⟨call, hl, -, hrank⟩
  · exact absurd hid (AList.lookup_eq_none.1 hnone)
  · exact absurd hnew hplaced
  · exact (h x _ (table_of_lookup hl) rfl).trans (hrank hanswer)

theorem atLeast_exec (htame : Tame cb) (ops : List SipOp) {s : SipManager κ × σ}
    (hwalks : Along (step E cb) (fun s o => Walks s.1 o) s ops)
    (hanswer : Along (step E cb) (fun s o => Answerable s.1 o) s ops) {id : String} (hid : id ∈ s.1.calls)
    (hkeeps : Keeps E cb id s ops) {r : ℕ} (h : AtLeast r id s.1.table) :
    AtLeast r id (exec (step E cb) s ops).1.table := by
  induction ops generalizing s with
  | nil => exact h
  | cons o ops ih =>
    obtain ⟨⟨hthere, hplaced⟩, hrest⟩ := hkeeps
    exact ih hwalks.2 hanswer.2 hthere hrest (atLeast_step E htame hwalks.1 hanswer.1 hid hplaced h)

/-- a call that is accepted is connected afterwards -/
theorem lookup_accepted (htame : Tame cb) (s : SipManager κ × σ) {id : String} {call : SipCall}
    (hl : s.1.calls.lookup id = some call) :
    ∃ call', (step E cb s (.answerCall id true)).1.calls.lookup id = some call' ∧ call'.state = .kConnected := by
  refine lookup_of_table (e := (call.callId, .kConnected)) ?_
  rw [(step_performs E s htame (.answerCall id true) trivial).table htame, moves, hl]
  simp [enterMoves, Move.run]

/-- **The life of a call** has one direction exactly where no ended or ending call is accepted -/
theorem never_back_iff (htame : Tame cb) (s : SipManager κ × σ) (ops : List SipOp)
    (hwalks : Along (step E cb) (fun s o => Walks s.1 o) s ops) :
    NeverBack E cb s ops ↔ Along (step E cb) (fun s o => Answerable s.1 o) s ops := by
  constructor
  · intro h
    rw [along_iff]
    intro before o after hops
    cases o with
    | answerCall id accept =>
      cases accept with
      | false => trivial
      | true =>
        intro call hl
        obtain ⟨call', hl', hst⟩ := lookup_accepted E htame (exec (step E cb) s before) hl
        have hthere : id ∈ (step E cb (exec (step E cb) s before) (.answerCall id true)).1.calls :=
          AList.lookup_isSome.1 (by rw [hl']; rfl)
        rw [← hst]
        refine h before [.answerCall id true] after (by simp [hops]) id call call' hl ⟨⟨hthere, ?_⟩, trivial⟩ ?_
        · exact (Option.some_ne_none id).symm
        · rw [exec_append]
          exact hl'
    | _ => trivial
  · rintro h before during after rfl id call call' hl hkeeps hl'
    obtain ⟨⟨-, hwalks⟩, -⟩ := ((along_append _ _ _).1 hwalks).imp_left (along_append _ _ _).1
    obtain ⟨⟨-, hanswer⟩, -⟩ := ((along_append _ _ _).1 h).imp_left (along_append _ _ _).1
    have hstart : AtLeast call.state.rank id (exec (step E cb) s before).1.table := by
      rintro x e he rfl
      rw [table_of_lookup hl] at he
      cases he
      exact le_rfl
    have hid : id ∈ (exec (step E cb) s before).1.calls := AList.lookup_isSome.1 (by rw [hl]; rfl)
    have hend := atLeast_exec E htame during hwalks hanswer hid hkeeps hstart
    rw [← exec_append] at hend
    exact hend id _ (table_of_lookup hl') rfl

/-- a call placed, accepted, hung up and accepted again -/
def acceptedAgain : List SipOp :=
  [.makeCall "sip:bob@example.com" ⟨0, 0, 0, 0, 0⟩ 0, .answerCall "ab-ab" true, .hangUp "ab-ab",
    .answerCall "ab-ab" true]

theorem never_back_iff_acceptedAgain :
    let E := SessionEnv.constant "ab" []
    let cb := SessionManager.callbacks E
    NeverBack E.toSipEnv cb (SessionManager.started E {}) acceptedAgain ↔
      Along (step E.toSipEnv cb) (fun s o => Answerable s.1 o) (SessionManager.started E {}) acceptedAgain := by
  intro E cb
  exact never_back_iff E.toSipEnv (SessionManager.tame_callbacks E) _ _ ⟨trivial, trivial, trivial, trivial, trivial⟩

/-- **A call that is being hung up** becomes connected again when it is accepted -/
theorem acceptedAgain_goes_back : ¬ ∀ (E : SessionEnv) (config : ServerConfig) (ops : List SipOp),
    Along (step E.toSipEnv (SessionManager.callbacks E)) (fun s o => Walks s.1 o)
      (SessionManager.started E config) ops →
    NeverBack E.toSipEnv (SessionManager.callbacks E) (SessionManager.started E config) ops := by
  intro h
  have hback := h (.constant "ab" []) {} acceptedAgain ⟨trivial, trivial, trivial, trivial, trivial⟩
    (acceptedAgain.take 3) (acceptedAgain.drop 3) [] rfl "ab-ab"
  set E := SessionEnv.constant "ab" []
  set s := exec (step E.toSipEnv (SessionManager.callbacks E)) (SessionManager.started E {}) (acceptedAgain.take 3)
  set s' := exec (step E.toSipEnv (SessionManager.callbacks E)) (SessionManager.started E {}) acceptedAgain
  have hbefore : (s.1.calls.lookup "ab-ab").any (fun call => call.state = .kDisconnecting) = true := by decide +kernel
  have hafter : (s'.1.calls.lookup "ab-ab").any (fun call => call.state = .kConnected) = true := by decide +kernel
  obtain ⟨call, hl, hst⟩ := (Option.any_eq_true ..).1 hbefore
  obtain ⟨call', hl', hst'⟩ := (Option.any_eq_true ..).1 hafter
  have hthere : "ab-ab" ∈ (step E.toSipEnv (SessionManager.callbacks E) s (.answerCall "ab-ab" true)).1.calls := by
    decide +kernel
  have hle := hback call call' hl ⟨⟨hthere, (Option.some_ne_none "ab-ab").symm⟩, trivial⟩ hl'
  rw [of_decide_eq_true hst, of_decide_eq_true hst'] at hle
  exact absurd hle (by decide)

end SipManager

end Rtcom
