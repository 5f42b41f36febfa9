/-
The server of `src/main.cpp` after its set-up: what the main loop does with a datagram on the SIP socket, and the
timers.

A datagram is a `std::string` with one character for each byte. The loop looks for the call id, the method and the body
in the raw text, next to the parse of libosip2 inside of `ProcessIncomingMessage`. The texts it sends are returned in
order. One turn of the loop is a datagram, if there is one, and then the timers; the two are separate events here.
-/
import Mathlib.Tactic
import Rtcom.Session.Contexts

namespace Rtcom

open SipManager SessionManager

namespace MainLoop

/-! ## Raw text -/

/-- what follows the first occurrence of a text -/
def after? (text : List Char) : List Char → Option (List Char)
  | [] => if text = [] then some [] else none
  | c :: cs => if text.isPrefixOf (c :: cs) then some ((c :: cs).drop text.length) else after? text cs

/-- `find(text) != npos` -/
def contains (msg text : String) : Bool := (after? text.toList msg.toList).isSome

/-- a text that starts with another contains it -/
theorem contains_of_starts {text : String} (h : text ≠ "") (rest : String) : contains (text ++ rest) text = true := by
  obtain ⟨c, cs, htext⟩ := List.exists_cons_of_ne_nil (mt String.toList_eq_nil_iff.1 h)
  have hstarts : (c :: cs).isPrefixOf (c :: (cs ++ rest.toList)) = true :=
    List.isPrefixOf_iff_prefix.2 ⟨rest.toList, rfl⟩
  rw [contains, String.toList_append, htext, List.cons_append, after?, if_pos hstarts]
  rfl

theorem contains_request {method : String} (h : method ≠ "") (callId : String) :
    contains (PeerMessage.request method callId).text method = true := by
  simp only [PeerMessage.request, String.append_assoc]
  exact contains_of_starts h _

/-- the rest of the line after the first "Call-ID: ", up to the first '@'; empty where there is none -/
def extractCallId (msg : String) : String :=
  match after? "Call-ID: ".toList msg.toList with
  | none => ""
  | some rest => String.ofList ((rest.takeWhile (· ≠ '\r')).takeWhile (· ≠ '@'))

/-- what follows the first empty line, if it is not empty -/
def sdpBody (msg : String) : Option String :=
  match after? "\r\n\r\n".toList msg.toList with
  | none => none
  | some [] => none
  | some body => some (String.ofList body)

/-! ## One turn -/

variable (E : SessionEnv)

/-- the call id and the body handed to `ProcessIncomingSdp`, if it is called -/
def sdpRequest (msg : String) : Option (String × String) :=
  if contains msg "INVITE" then
    match sdpBody msg with
    | none => none
    | some body => if (extractCallId msg).isEmpty then none else some (extractCallId msg, body)
  else none

/-- the call of `ProcessIncomingSdp` -/
def applySdp (msg : String) (s : SessionManager) : SessionManager :=
  match sdpRequest msg with
  | none => s
  | some (callId, body) => ((processIncomingSdp callId body s.1).2, s.2)

/-- the 180 and the 200 -/
def answerInvite (msg : String) (s : SessionManager) : SessionManager × List String :=
  if contains msg "INVITE" then
    let (ringing, m) := buildInviteResponse E.toSipEnv 180 "Ringing" "" s.1
    let sdpAnswer := buildSdpAnswer m (extractCallId msg)
    let (ok, m) := buildInviteResponse E.toSipEnv 200 "OK" sdpAnswer m
    ((m, s.2), [ringing, ok])
  else (s, [])

def answerBye (msg : String) (s : SessionManager) : SessionManager × List String :=
  if contains msg "BYE" then
    let (ok, m) := buildResponse E.toSipEnv 200 "OK" "" s.1
    ((m, s.2), [ok])
  else (s, [])

def handleDatagram (msg : String) (mem : Uninit) (now : ℕ) (s : SessionManager) : SessionManager × List String :=
  let s := processIncomingMessage E.toSipEnv (callbacks E) msg mem now s
  let (s, invite) := answerInvite E msg (applySdp msg s)
  let (s, bye) := answerBye E msg s
  (s, invite ++ bye)

/-! ## Runs -/

/-- what a turn of the loop consists of -/
inductive LoopEvent where
  | datagram (msg : String) (mem : Uninit) (now : ℕ)
  | timers (visits : List Visit)

def step (s : SessionManager) : LoopEvent → SessionManager
  | .datagram msg mem now => (handleDatagram E msg mem now s).1
  | .timers visits => processTimers (callbacks E) visits s

/-- the state the loop starts in: callbacks set, started and registered -/
def init (config : ServerConfig) : SessionManager :=
  (register (callbacks E) (start E true (setSipEventCallback (SessionManager.new config))).2).2

/-! ## Steps -/

variable {E}

/-- the answers are texts -/
theorem answers_frame (msg : String) (s : SessionManager) :
    ∃ m, BuilderFrame s.1 m ∧ (answerBye E msg (answerInvite E msg s).1).1 = (m, s.2) := by
  have hinvite : ∃ m, BuilderFrame s.1 m ∧ (answerInvite E msg s).1 = (m, s.2) := by
    unfold answerInvite
    split_ifs
    · exact ⟨_, (buildInviteResponse_frame _ _ _ _ _).trans (buildInviteResponse_frame _ _ _ _ _), rfl⟩
    · exact ⟨s.1, .refl s.1, rfl⟩
  obtain ⟨m, hm, heq⟩ := hinvite
  rw [heq, answerBye]
  split_ifs
  · exact ⟨_, hm.trans (buildResponse_frame E.toSipEnv m 200 "OK" ""), rfl⟩
  · exact ⟨m, hm, rfl⟩

/-- a datagram: the message, the SDP, and answers that change neither calls nor contexts -/
theorem step_datagram (s : SessionManager) (msg : String) (mem : Uninit) (now : ℕ) :
    let s' := applySdp msg (processIncomingMessage E.toSipEnv (callbacks E) msg mem now s)
    ∃ m, BuilderFrame s'.1 m ∧ step E s (.datagram msg mem now) = (m, s'.2) :=
  answers_frame msg _

/-- the terms of a turn of the loop -/
def turn (s : SessionManager) : Terms := ⟨Matched s, False, fun _ => True⟩

theorem steps_applySdp {T : Terms} (hanew : ¬ T.anew) (msg : String) (s : SessionManager) :
    Steps E T s (applySdp msg s) := by
  unfold applySdp
  cases sdpRequest msg with
  | none => exact .refl
  | some req => exact steps_processIncomingSdp hanew req.1 req.2

/-- **What a turn of the loop does** to the two tables -/
theorem step_steps (s : SessionManager) (e : LoopEvent) (h : Backed s) : Steps E (turn s) s (step E s e) := by
  cases e with
  | timers visits => exact steps_processTimers h visits
  | datagram msg mem now =>
    obtain ⟨m, hm, heq⟩ := step_datagram (E := E) s msg mem now
    have hmsg : Steps E (turn s) s (processIncomingMessage E.toSipEnv (callbacks E) msg mem now s) :=
      steps_incoming h id msg mem now fun _ _ _ _ => trivial
    rw [heq]
    exact (hmsg.trans (steps_applySdp not_false msg _)).builder hm

theorem step_matched (s : SessionManager) (e : LoopEvent) (h : Matched s) : Matched (step E s e) :=
  (step_steps s e h.backed).matched h h

variable (E)

theorem init_matched (config : ServerConfig) : Matched (init E config) := by
  set s : SessionManager := (start E true (setSipEventCallback (SessionManager.new config))).2
  have hstart : Matched s := matched_of_empty rfl rfl rfl
  have hsteps : Steps E (turn s) s (init E config) := steps_register hstart.backed
  exact hsteps.matched hstart hstart

end MainLoop

end Rtcom
