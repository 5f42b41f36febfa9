/-
Which calls a server has, in a network of servers that answer each other. The requests are what decides: `request` is
what a datagram asks for a call id, to set the call up (INVITE) or to end it (BYE, CANCEL).

- `calls_requested`: in every run of the network, a server's table has a call exactly if the last request for it that
  was delivered to the server is an INVITE. No request is an answer of a server, so all come from outside, however many
  responses the servers send each other.
-/
import Mathlib.Tactic
import Rtcom.Server.Storm
import Rtcom.Server.Acceptance
import Rtcom.Sip.CallMachine

namespace Rtcom

open Runs Network Interleave SipManager SessionManager

/-! ## Presence of a call -/

namespace CallInput

/-- what the main loop can give a call -/
def Served : CallInput → Prop
  | invited .. | dropped | response _ | visited .. => True
  | _ => False

/-- whether the input sets a call up or ends it -/
def decides : CallInput → Option Bool
  | invited .. => some true
  | dropped => some false
  | _ => none

/-- a call that is not being hung up -/
def Steady (e : Option SipCall) : Prop := ∀ call ∈ e, call.state ≠ .kDisconnecting

theorem steady_some {call : SipCall} (h : call.state ≠ .kDisconnecting) : Steady (some call) := by
  intro call' hcall
  rwa [← Option.some.inj hcall]

/-- a call that nobody hangs up is there after an input if the input sets it up, or it was there and is not ended -/
theorem served_react (id : String) {e : Option SipCall} (he : Steady e) {i : CallInput} (hi : i.Served) :
    Steady (react id e i) ∧ (react id e i).isSome = i.decides.getD e.isSome := by
  cases e with
  | none =>
    cases i with
    | placed config calleeUri now | accepted | hungUp | cleared => exact hi.elim
    | invited config msg now =>
      refine ⟨steady_some ?_, rfl⟩
      have hstate := SipCall.state_setState (SipManager.ringingCall config msg ⟨0, 0, 0, 0, 0⟩ now) .kConnected
      exact fun h => absurd (hstate.symm.trans h) (by decide)
    | dropped | response statusCode | visited config v => exact ⟨he, rfl⟩
  | some call =>
    have hstate : call.state ≠ .kDisconnecting := he call rfl
    have hconnected : (call.setState .kConnected).core.state ≠ .kDisconnecting := by
      rw [show (call.setState .kConnected).core.state = .kConnected from SipCall.state_setState call .kConnected]
      decide
    have hfailed : (call.setState .kFailed).core.state ≠ .kDisconnecting := by
      rw [show (call.setState .kFailed).core.state = .kFailed from SipCall.state_setState call .kFailed]
      decide
    cases i with
    | placed config calleeUri now | accepted | hungUp | cleared => exact hi.elim
    | invited config msg now => exact ⟨he, rfl⟩
    | dropped => exact ⟨fun _ h => absurd h (by simp [react]), rfl⟩
    | response statusCode =>
      simp only [react, decides, if_neg hstate, Option.getD_none]
      split_ifs
      · exact ⟨steady_some hconnected, rfl⟩
      · exact ⟨he, rfl⟩
      · exact ⟨steady_some hfailed, rfl⟩
      · exact ⟨he, rfl⟩
    | visited config v =>
      simp only [react, decides, Option.getD_none]
      split_ifs
      · exact ⟨steady_some hstate, rfl⟩
      · exact ⟨steady_some hfailed, rfl⟩
      · exact ⟨he, rfl⟩

/-- and after a run, as the last input that decides says -/
theorem served_exec (id : String) {e : Option SipCall} (he : Steady e) {inputs : List CallInput}
    (hinputs : ∀ i ∈ inputs, i.Served) :
    (exec (react id) e inputs).isSome = (inputs.filterMap decides).getLast?.getD e.isSome := by
  have hrun : Steady (exec (react id) e inputs) ∧
      (exec (react id) e inputs).isSome = (inputs.filterMap decides).getLast?.getD e.isSome := by
    induction inputs using List.reverseRecOn with
    | nil => exact ⟨he, rfl⟩
    | append_singleton inputs i ih =>
      obtain ⟨hsteady, hsome⟩ := ih fun j hj => hinputs j (List.mem_append_left _ hj)
      obtain ⟨hafter, hlast⟩ := served_react id hsteady (hinputs i (by simp))
      rw [exec_append]
      refine ⟨hafter, hlast.trans ?_⟩
      rw [List.filterMap_append, hsome]
      cases hi : i.decides with
      | none => simp [hi]
      | some there => simp [hi]
  exact hrun.2

end CallInput

/-! ## Requests -/

namespace MainLoop

/-- what a text asks for the call: to set it up, or to end it -/
def request (E : SessionEnv) (id text : String) : Option Bool :=
  match E.parse text with
  | none => none
  | some msg =>
    if msg.statusCode = 0 ∧ messageCallId msg = id then
      if msg.method = some "INVITE" then if id.isEmpty then none else some true
      else if msg.method = some "BYE" ∨ msg.method = some "CANCEL" then some false
      else none
    else none

/-- the status code of a response is the one in its start line -/
def ReadsStatus (E : SessionEnv) : Prop :=
  ∀ (code : ℤ) (rest : String) msg, 100 ≤ code ∧ code ≤ 699 →
    E.parse ("SIP/2.0 " ++ toString code ++ " " ++ rest) = some msg → msg.statusCode = code

variable {ι : Type} {E : SessionEnv}

/-- a message is an input the main loop can give, and decides what it asks -/
theorem seen_incoming (s : SessionManager) (id text : String) (mem : Uninit) (now : ℕ) :
    (∀ i ∈ seen E.toSipEnv s id (.incoming text mem now), i.Served) ∧
      (seen E.toSipEnv s id (.incoming text mem now)).filterMap CallInput.decides = (request E id text).toList := by
  simp only [seen, request]
  cases E.parse text with
  | none => exact ⟨by simp, rfl⟩
  | some msg =>
    simp only
    by_cases hid : messageCallId msg = id
    · rw [if_pos hid, heard]
      by_cases hrequest : msg.statusCode = 0
      · rw [if_pos hrequest, if_pos (And.intro hrequest hid), hid]
        split
        · next hmethod =>
          rw [if_pos hmethod]
          split_ifs <;> exact ⟨by simp [CallInput.Served], rfl⟩
        · next hmethod =>
          rw [hmethod]
          exact ⟨by simp [CallInput.Served], rfl⟩
        · next hmethod =>
          rw [hmethod]
          exact ⟨by simp [CallInput.Served], rfl⟩
        · next hinvite hbye hcancel =>
          rw [if_neg hinvite, if_neg (not_or.2 ⟨hbye, hcancel⟩)]
          exact ⟨by simp, rfl⟩
      · rw [if_neg hrequest, if_neg (fun h => hrequest h.1)]
        exact ⟨by simp [CallInput.Served], rfl⟩
    · rw [if_neg hid, if_neg (fun h => hid h.2)]
      exact ⟨by simp, rfl⟩

/-- a server answers with 180 and 200 -/
theorem statusCode_answers {text : String} {m : SipManager EventCallback} :
    ∀ r ∈ answers E text m, 100 ≤ r.statusCode ∧ r.statusCode ≤ 699 := by
  intro r hr
  have hcode : ∀ code : ℤ, 100 ≤ code ∧ code ≤ 699 → ∀ {r : Response}, r.statusCode = code →
      100 ≤ r.statusCode ∧ r.statusCode ≤ 699 := fun code hrange r heq => heq ▸ hrange
  have hbye : ∀ m : SipManager EventCallback,
      ∀ r ∈ (if contains text "BYE" then [(response E.toSipEnv 200 "OK" "" m).1] else []),
        100 ≤ r.statusCode ∧ r.statusCode ≤ 699 := by
    intro m r hr
    split_ifs at hr
    · rw [List.mem_singleton.1 hr]
      exact hcode 200 (by decide) rfl
    · cases hr
  by_cases hinvite : contains text "INVITE" = true
  · rw [answers_of_invite hinvite] at hr
    rcases List.mem_append.1 hr with hr | hr
    · rcases List.mem_pair.1 hr with rfl | rfl
      · exact hcode 180 (by decide) (statusCode_inviteResponse m 180 "Ringing" "")
      · exact hcode 200 (by decide) (statusCode_inviteResponse _ 200 "OK" _)
    · exact hbye _ r hr
  · rw [answers, if_neg hinvite] at hr
    exact hbye m r hr

/-- a response asks nothing -/
theorem request_response (hE : ReadsStatus E) (id : String) {r : Response}
    (hcode : 100 ≤ r.statusCode ∧ r.statusCode ≤ 699) (config : SipConfig) : request E id (r.text config) = none := by
  have htext : ∃ rest, r.text config = "SIP/2.0 " ++ toString r.statusCode ++ " " ++ rest := by
    unfold Response.text
    simp only [String.append_assoc]
    exact ⟨_, rfl⟩
  obtain ⟨rest, htext⟩ := htext
  unfold request
  cases hmsg : E.parse (r.text config) with
  | none => rfl
  | some msg =>
    rw [htext] at hmsg
    have hread := hE r.statusCode rest msg hcode hmsg
    exact if_neg fun h => by omega

/-! ## The network -/

/-- what a server is given, for an id -/
def told (E : ι → SessionEnv) (i : ι) (s : SessionManager) (id : String) :
    ((Uninit × ℕ) × Packet ι String) ⊕ List Visit → List CallInput
  | .inl (e, p) => seen (E i).toSipEnv s id (.incoming p.message e.1 e.2)
  | .inr visits => seen (E i).toSipEnv s id (.processTimers visits)

theorem entry_applySdp (text : String) (s : SessionManager) (id : String) :
    entry id (applySdp text s) = entry id s := by
  unfold applySdp
  cases sdpRequest text with
  | none => rfl
  | some req => exact entry_processIncomingSdp req.1 req.2 s id

/-- the table of a server is a product -/
theorem server_product (E : ι → SessionEnv) (i : ι) :
    Product (react (servers E) i) (told E i) entry CallInput.react := by
  intro s input id
  rcases input with ⟨e, p⟩ | visits
  · have hmsg := table_product (E i).toSipEnv (tame_callbacks (E i)) s (.incoming p.message e.1 e.2) id
    obtain ⟨m, hframe, heq⟩ := step_datagram (E := E i) s p.message e.1 e.2
    have hafter : react (servers E) i s (.inl (e, p)) = (m, (applySdp p.message
        (processIncomingMessage (E i).toSipEnv (callbacks (E i)) p.message e.1 e.2 s)).2) := heq
    rw [hafter, entry_congr hframe.calls _ _ id]
    exact (entry_applySdp p.message _ id).trans hmsg
  · exact table_product (E i).toSipEnv (tame_callbacks (E i)) s (.processTimers visits) id

/-- all that a server is given the main loop can give -/
theorem served_told (E : ι → SessionEnv) (i : ι) (id : String) (s : SessionManager)
    (input : ((Uninit × ℕ) × Packet ι String) ⊕ List Visit) : ∀ c ∈ told E i s id input, c.Served := by
  rcases input with ⟨e, p⟩ | visits
  · exact (seen_incoming s id p.message e.1 e.2).1
  · intro c hc
    obtain ⟨v, -, rfl⟩ := List.mem_map.1 hc
    trivial

/-- and what decides is asked by the packets -/
theorem decides_told (E : ι → SessionEnv) (i : ι) (id : String) (s : SessionManager)
    (input : ((Uninit × ℕ) × Packet ι String) ⊕ List Visit) : (told E i s id input).filterMap CallInput.decides =
      (input.getLeft?.bind fun p => request (E i) id p.2.message).toList := by
  rcases input with ⟨e, p⟩ | visits
  · exact (seen_incoming s id p.message e.1 e.2).2
  · simp [told, seen, List.filterMap_map, Function.comp_def, CallInput.decides]

theorem getLast?_filterMap_filter {α β : Type} (f : α → Option β) (l : List α) :
    (l.filterMap f).getLast? = (l.filter fun a => (f a).isSome).getLast?.bind f := by
  induction l using List.reverseRecOn with
  | nil => rfl
  | append_singleton l a ih =>
    rw [List.filterMap_append, List.filter_append]
    cases ha : f a with
    | none => simp [ha, ih]
    | some b => simp [ha]

variable [DecidableEq ι]

variable (E : ι → SessionEnv) (config : ι → ServerConfig) (F : Multiset (Packet ι String))

/-- the packets delivered to a server in a run that ask something for the call -/
def asking (i : ι) (id : String) (es : List (Event ι String (Uninit × ℕ) (List Visit))) : List (Packet ι String) :=
  (arrivals (servers E) i (start (fun i => init (E i) (config i)) F) es).filter fun p =>
    (request (E i) id p.message).isSome

/-- a server has a call as the last packet that asks says -/
theorem isSome_node (i : ι) (id : String) (es : List (Event ι String (Uninit × ℕ) (List Visit))) :
    (((exec (Network.step (servers E)) (start (fun i => init (E i) (config i)) F) es).node i).1.calls.lookup
        id).isSome =
      ((asking E config F i id es).getLast?.bind fun p => request (E i) id p.message).getD false := by
  set start₀ : Net ι SessionManager String := start (fun i => init (E i) (config i)) F with hstart
  set inputs := trace (Network.step (servers E)) given i start₀ es with hinputs
  have hnode : (exec (Network.step (servers E)) start₀ es).node i = exec (react (servers E) i) (start₀.node i) inputs :=
    network_product.view_exec i start₀ es
  have hentry : entry id (exec (react (servers E) i) (start₀.node i) inputs) =
      exec (CallInput.react id) none (trace (react (servers E) i) (told E i) id (start₀.node i) inputs) :=
    (server_product E i).view_exec id _ inputs
  have hserved : ∀ c ∈ trace (react (servers E) i) (told E i) id (start₀.node i) inputs, c.Served :=
    forall_trace (served_told E i id) _ inputs
  have hdecides : (trace (react (servers E) i) (told E i) id (start₀.node i) inputs).filterMap CallInput.decides =
      (arrivals (servers E) i start₀ es).filterMap fun p => request (E i) id p.message := by
    rw [filterMap_trace (decides_told E i id), arrivals, ← hinputs, packets, List.filterMap_filterMap]
    refine List.filterMap_congr fun input _ => ?_
    cases input <;> rfl
  rw [hnode, ← Option.isSome_map (f := SipCall.core)]
  refine (congrArg Option.isSome hentry).trans ?_
  rw [CallInput.served_exec id (fun _ h => absurd h (by simp)) hserved, hdecides, getLast?_filterMap_filter]
  rfl

/-- what a server sends asks nothing -/
theorem request_sent (hE : ∀ i, ReadsStatus (E i)) (i : ι) (id : String)
    (es : List (Event ι String (Uninit × ℕ) (List Visit))) :
    ∀ p ∈ (exec (Network.step (servers E)) (start (fun i => init (E i) (config i)) F) es).sent,
      request (E i) id p.message = none := by
  intro p hp
  obtain ⟨before, e, after, -, hemits⟩ := mem_sent hp
  cases e with
  | deliver q e =>
    simp only [emits] at hemits
    split_ifs at hemits
    · simp only [servers, handleDatagram_answers, List.map_map, List.mem_map] at hemits
      obtain ⟨r, hr, rfl⟩ := hemits
      exact request_response (hE i) id (statusCode_answers r hr) _
    · cases hemits
  | lose q | double q | inject q => cases hemits
  | act j visits => cases hemits

/-- **The calls requested**: in every run of a network of servers that have just been started, with F on its way, a
server has a call exactly if the last packet delivered to it that asks something for the call is an INVITE, and all that
asks was on its way at the start or comes from outside -/
theorem calls_requested (hE : ∀ i, ReadsStatus (E i)) (es : List (Event ι String (Uninit × ℕ) (List Visit))) (i : ι)
    (id : String) :
    let net := exec (Network.step (servers E)) (start (fun i => init (E i) (config i)) F) es
    ((net.node i).1.calls.lookup id).isSome =
        ((asking E config F i id es).getLast?.bind fun p => request (E i) id p.message).getD false ∧
      ∀ p ∈ asking E config F i id es, p ∈ F ∨ Event.inject p ∈ es := by
  intro net
  refine ⟨isSome_node E config F i id es, fun p hp => ?_⟩
  obtain ⟨harrived, hasks⟩ := List.mem_filter.1 hp
  rcases delivered_from _ F es p (mem_arrivals harrived) with hsent | hfrom
  · rw [request_sent E config F hE i id es p hsent] at hasks
    cases hasks
  · exact hfrom

def byeCall : PeerMessage := .request "BYE" "1-153349"

/-- an INVITE and a BYE of one call; no other text is read -/
def twoRequests : SessionEnv := .constant "0f" [inviteCall, byeCall]

theorem readsStatus_twoRequests : ReadsStatus twoRequests := by
  intro code rest msg _ hmsg
  obtain ⟨p, hp, htext, -⟩ := PeerMessage.mem_of_reading hmsg
  have hstart : p.text.toList.head? = some 'S' := by
    rw [htext]
    simp [String.append_assoc, String.toList_append]
  have hnone : ∀ p ∈ [inviteCall, byeCall], p.text.toList.head? ≠ some 'S' := by decide +kernel
  exact absurd hstart (hnone p hp)

/-- a call comes in between two servers, is answered, and is ended from elsewhere -/
theorem calls_requested_two :
    let E : Bool → SessionEnv := fun _ => twoRequests
    let config : Bool → ServerConfig := fun _ => {}
    let F : Multiset (Packet Bool String) := {⟨false, true, inviteCall.text⟩}
    let es : List (Event Bool String (Uninit × ℕ) (List Visit)) :=
      [.deliver ⟨false, true, inviteCall.text⟩ (⟨0, 0, 0, 0, 0⟩, 0), .inject ⟨false, true, byeCall.text⟩, .act true [],
        .deliver ⟨false, true, byeCall.text⟩ (⟨0, 0, 0, 0, 0⟩, 0)]
    let net := exec (Network.step (servers E)) (start (fun i => init (E i) (config i)) F) es
    ((net.node true).1.calls.lookup "1-153349").isSome =
        ((asking E config F true "1-153349" es).getLast?.bind fun p => request (E true) "1-153349" p.message).getD
          false ∧
      ∀ p ∈ asking E config F true "1-153349" es, p ∈ F ∨ Event.inject p ∈ es := by
  intro E config F es
  exact calls_requested E config F (fun _ => readsStatus_twoRequests) es true "1-153349"

end MainLoop

end Rtcom
