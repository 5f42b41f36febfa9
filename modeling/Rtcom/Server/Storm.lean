/-
Servers that answer each other. The main loop answers whatever has the word "INVITE" in it, responses too, and every
response it sends has the word in its CSeq: the 180 and the 200 to an INVITE repeat the CSeq kept of the last INVITE,
the 200 to a BYE makes one up. So a response that reaches a server is answered with two more.

`servers` is the network of main loops; an answer goes to where the datagram came from. `Loud` is a datagram with the
word. The CSeq that a server keeps has it (`Echoing`), as long as the CSeq of every INVITE names the method.

- `loud_answers`: every answer of a server is loud; `count_answers`: how many there are.
- `storm_law`: in every run of the network, with losses, doublings and datagrams from outside, the loud datagrams in
  flight and lost are those of the start and from outside, and one more for each loud datagram and for each BYE that was
  delivered. What has begun ends only when as many are lost.
-/
import Mathlib.Tactic
import Rtcom.Lib.Network
import Rtcom.Server.Dispatch

namespace Rtcom

open Runs Network SipManager SessionManager

namespace MainLoop

/-! ## The CSeq kept -/

/-- the CSeq kept has the word "INVITE" -/
def Echoing (s : SessionManager) : Prop := s.1.lastCseq = "" ∨ contains s.1.lastCseq "INVITE" = true

/-- if the text is an INVITE, its CSeq names the method -/
def WellNumbered (E : SessionEnv) (text : String) : Prop :=
  ∀ msg, E.parse text = some msg → msg.IsInvite → ∀ c ∈ msg.cseq, c.2 = none ∨ c.2 = some "INVITE"

theorem contains_left {a w : String} (h : contains a w = true) (b : String) : contains (a ++ b) w = true := by
  rw [contains_iff] at h ⊢
  rw [String.toList_append]
  exact List.infix_append_of_infix_left h

theorem contains_right {b w : String} (h : contains b w = true) (a : String) : contains (a ++ b) w = true := by
  rw [contains_iff] at h ⊢
  rw [String.toList_append]
  exact List.infix_append_of_infix_right h

theorem contains_self (w : String) : contains w w = true := (contains_iff w w).2 (List.infix_refl _)

variable {E : SessionEnv} {s : SessionManager}

/-- builders and calls leave the CSeq -/
theorem untouched_echoing : Untouched fun m : SipManager EventCallback =>
    m.lastCseq = "" ∨ contains m.lastCseq "INVITE" = true where
  builder := by
    rintro m _ ⟨_, _, rfl⟩ h
    exact h
  calls := fun _ h => h

/-- the CSeq of an INVITE that names the method -/
theorem echoing_cacheHeaders {msg : OsipMessage} (hcseq : ∀ c ∈ msg.cseq, c.2 = none ∨ c.2 = some "INVITE")
    (hs : Echoing s) (id : String) : Echoing (cacheHeaders msg id s.1, s.2) := by
  unfold Echoing cacheHeaders
  cases hc : msg.cseq with
  | none => exact hs
  | some c =>
    refine Or.inr (contains_right ?_ _)
    rcases hcseq c hc with hmethod | hmethod <;> rw [hmethod] <;> exact contains_self "INVITE"

theorem echoing_received {text : String} (hwell : WellNumbered E text) (mem : Uninit) (now : ℕ) (hs : Echoing s) :
    Echoing (received E text mem now s) := by
  have hincoming : Echoing (processIncomingMessage E.toSipEnv (callbacks E) text mem now s) := by
    refine untouched_echoing.incoming (tame_callbacks E) hs text mem now fun msg hmsg hinvite => ?_
    split_ifs
    · exact hs
    · exact echoing_cacheHeaders (hwell msg hmsg hinvite) hs _
  have hsame : (received E text mem now s).1.lastCseq =
      (processIncomingMessage E.toSipEnv (callbacks E) text mem now s).1.lastCseq :=
    congrArg (fun h : String × String × String × String => h.2.2.2) (headers_applySdp text _)
  rwa [Echoing, hsame]

/-! ## Answers -/

/-- a response has the word if its CSeq has it -/
theorem contains_text {r : Response} (h : contains r.cseq "INVITE" = true) (config : SipConfig) :
    contains (r.text config) "INVITE" = true := by
  unfold Response.text
  exact contains_left (contains_left (contains_left (contains_left (contains_left (contains_right h _) _) _) _) _) _

theorem contains_copied {m : SipManager EventCallback} {r : Response} (h : Copies m r)
    (hm : m.lastCseq = "" ∨ contains m.lastCseq "INVITE" = true) : contains r.cseq "INVITE" = true := by
  have hcseq := h.cseq
  by_cases hempty : m.lastCseq.isEmpty = true
  · rw [if_pos hempty] at hcseq
    obtain ⟨number, hnumber⟩ := hcseq
    rw [hnumber]
    exact contains_right (by decide) _
  · rw [if_neg hempty] at hcseq
    rw [hcseq]
    refine hm.resolve_left fun hnil => hempty ?_
    rw [hnil]
    rfl

theorem contains_response (m : SipManager EventCallback) :
    contains (response E.toSipEnv 200 "OK" "" m).1.cseq "INVITE" = true := by
  have hcseq : ∃ number, (response E.toSipEnv 200 "OK" "" m).1.cseq = number ++ " INVITE" := ⟨_, rfl⟩
  obtain ⟨number, hnumber⟩ := hcseq
  rw [hnumber]
  exact contains_right (by decide) _

/-- **Every answer has the word "INVITE"** -/
theorem loud_answers {text : String} {m : SipManager EventCallback}
    (hm : m.lastCseq = "" ∨ contains m.lastCseq "INVITE" = true) :
    ∀ r ∈ answers E text m, contains r.cseq "INVITE" = true := by
  have hsame : m.headers = m.headers := rfl
  obtain ⟨hringing, hok⟩ := copies_inviteAnswers (E := E) hsame (extractCallId text)
  have hbye : ∀ m : SipManager EventCallback,
      ∀ r ∈ (if contains text "BYE" then [(response E.toSipEnv 200 "OK" "" m).1] else []),
        contains r.cseq "INVITE" = true := by
    intro m r hr
    split_ifs at hr
    · rw [List.mem_singleton.1 hr]
      exact contains_response m
    · cases hr
  intro r hr
  by_cases hinvite : contains text "INVITE" = true
  · rw [answers_of_invite hinvite] at hr
    rcases List.mem_append.1 hr with hr | hr
    · rcases List.mem_pair.1 hr with rfl | rfl
      · exact contains_copied hringing hm
      · exact contains_copied hok hm
    · exact hbye _ r hr
  · rw [answers, if_neg hinvite] at hr
    exact hbye m r hr

/-- two answers for the word "INVITE", and one for the word "BYE" -/
theorem count_answers (text : String) (m : SipManager EventCallback) :
    (answers E text m).length = 2 * (contains text "INVITE").toNat + (contains text "BYE").toNat :=
  length_due (extractCallId text) (contains text "INVITE") (contains text "BYE") m

/-! ## The network -/

variable {ι : Type}

/-- a main loop at every address; answers go to where the datagram came from -/
def servers (E : ι → SessionEnv) : Protocol ι SessionManager String (Uninit × ℕ) (List Visit) where
  receive i e p s :=
    let (s, texts) := handleDatagram (E i) p.message e.1 e.2 s
    (s, texts.map fun text => ⟨p.target, p.source, text⟩)
  act i visits s := (processTimers (callbacks (E i)) visits s, [])

def Loud (p : Packet ι String) : Prop := contains p.message "INVITE" = true

def SaysBye (p : Packet ι String) : Prop := contains p.message "BYE" = true

instance : DecidablePred (Loud (ι := ι)) := fun _ => inferInstanceAs (Decidable (_ = true))

instance : DecidablePred (SaysBye (ι := ι)) := fun _ => inferInstanceAs (Decidable (_ = true))

/-- the answers of a server that are loud: all of them -/
theorem count_receive (E : ι → SessionEnv) (e : Uninit × ℕ) (p : Packet ι String) (s : SessionManager)
    (hwell : WellNumbered (E p.target) p.message) (hs : Echoing s) :
    (((servers E).receive p.target e p s).2 : Multiset (Packet ι String)).countP Loud =
      2 * (if Loud p then 1 else 0) + if SaysBye p then 1 else 0 := by
  have hreceived := echoing_received hwell e.1 e.2 hs
  have htexts := handleDatagram_answers (E := E p.target) p.message e.1 e.2 s
  set m := (received (E p.target) p.message e.1 e.2 s).1
  have hall : ∀ q ∈ ((servers E).receive p.target e p s).2, Loud q := by
    intro q hq
    simp only [servers, htexts, List.map_map, List.mem_map] at hq
    obtain ⟨r, hr, rfl⟩ := hq
    exact contains_text (loud_answers hreceived r hr) m.config
  have hlength : ((servers E).receive p.target e p s).2.length =
      2 * (contains p.message "INVITE").toNat + (contains p.message "BYE").toNat := by
    simp only [servers, htexts, List.length_map]
    exact count_answers p.message m
  rw [Multiset.coe_countP, List.countP_eq_length.2 (by simpa using hall), hlength]
  by_cases hloud : contains p.message "INVITE" = true <;> by_cases hbye : contains p.message "BYE" = true
  all_goals simp [Loud, SaysBye, hloud, hbye]

/-- two for a loud datagram, one for a BYE -/
theorem sum_weights (D : Multiset (Packet ι String)) :
    (D.map fun p => 2 * (if Loud p then 1 else 0) + if SaysBye p then 1 else 0).sum =
      2 * D.countP Loud + D.countP SaysBye := by
  induction D using Multiset.induction_on with
  | empty => rfl
  | cons p D ih =>
    rw [Multiset.map_cons, Multiset.sum_cons, ih, Multiset.countP_cons, Multiset.countP_cons]
    ring

variable [DecidableEq ι]

/-- **A storm of responses** in a network of servers that have just been started, with F on its way: what is loud in
flight and what was lost of it is what there was at the start and came from elsewhere, and one more for each loud
datagram and for each BYE that was delivered -/
theorem storm_law (E : ι → SessionEnv) (config : ι → ServerConfig) (F : Multiset (Packet ι String))
    (es : List (Event ι String (Uninit × ℕ) (List Visit))) :
    let net := exec (Network.step (servers E)) (start (fun i => init (E i) (config i)) F) es
    (∀ p ∈ net.delivered, WellNumbered (E p.target) p.message) →
      net.flight.countP Loud + net.lost.countP Loud = F.countP Loud + net.added.countP Loud +
        (net.delivered.countP Loud + net.delivered.countP SaysBye) := by
  intro net hwell
  have hreceive : ∀ e p s, WellNumbered (E p.target) p.message → Echoing s →
      Echoing ((servers E).receive p.target e p s).1 := by
    intro e p s hp hs
    obtain ⟨m, hframe, heq⟩ := step_datagram (E := E p.target) s p.message e.1 e.2
    have hafter : Echoing (m, (received (E p.target) p.message e.1 e.2 s).2) :=
      untouched_echoing.builder hframe (echoing_received hp e.1 e.2 hs)
    show Echoing (step (E p.target) s (.datagram p.message e.1 e.2))
    rwa [heq]
  have hact : ∀ i visits s, Echoing s → Echoing ((servers E).act i visits s).1 := fun i visits s hs =>
    untouched_echoing.processTimers (tame_callbacks (E i)) hs visits
  have hinit : ∀ i, Echoing (init (E i) (config i)) := fun i => Or.inl rfl
  have hsent : net.sent.countP Loud = 2 * net.delivered.countP Loud + net.delivered.countP SaysBye :=
    (sent_count (N := servers E) (I := fun _ => Echoing) hreceive hact
      (fun e p s hp hs => count_receive E e p s hp hs) (fun _ _ _ _ => rfl) hinit F es hwell).trans (sum_weights _)
  have hbooks : net.flight + net.delivered + net.lost = F + net.sent + net.added :=
    conserved (fun i => init (E i) (config i)) F es
  have hcount := congrArg (Multiset.countP Loud) hbooks
  simp only [Multiset.countP_add] at hcount
  omega

/-- one INVITE between two servers, and the response that comes back -/
theorem storm_law_two :
    let invite : PeerMessage := .request "INVITE" "x"
    let E : Bool → SessionEnv := fun _ => .constant "ab" [invite]
    let config : Bool → ServerConfig := fun _ => {}
    let F : Multiset (Packet Bool String) := {⟨false, true, invite.text⟩}
    let es : List (Event Bool String (Uninit × ℕ) (List Visit)) :=
      [.deliver ⟨false, true, invite.text⟩ (⟨0, 0, 0, 0, 0⟩, 0), .act true []]
    let net := exec (Network.step (servers E)) (start (fun i => init (E i) (config i)) F) es
    net.flight.countP Loud + net.lost.countP Loud = F.countP Loud + net.added.countP Loud +
      (net.delivered.countP Loud + net.delivered.countP SaysBye) := by
  intro invite E config F es
  refine storm_law E config F es fun p _ msg hmsg _ c hc => ?_
  obtain ⟨q, hq, -, rfl⟩ := PeerMessage.mem_of_reading hmsg
  obtain rfl := List.mem_singleton.1 hq
  obtain rfl := Option.some.inj hc
  exact Or.inr rfl

end MainLoop

end Rtcom
