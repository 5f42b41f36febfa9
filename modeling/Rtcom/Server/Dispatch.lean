/-
What the main loop sends for a SIP message, next to what the message is.

`ProcessIncomingMessage` goes by the method libosip2 parsed. The main loop looks for the words "INVITE" and "BYE"
anywhere in the text. A word without blanks and line ends that occurs in a message occurs in one of its parts
(`contains_text_iff`): the method, the URI, the reason phrase, a header line, the body.

- `dispatched_iff`: a message gets the 180 and the 200 exactly if it is an INVITE, and the 200 for a BYE exactly if it
  is a BYE, if and only if no other message has one of the words in a part.
- `options_answered_as_invite`: the Allow header of an OPTIONS is enough.
-/
import Mathlib.Data.List.Infix
import Mathlib.Tactic
import Rtcom.Server.Answers

namespace Rtcom

open SipManager SessionManager

/-! ## Words in a text -/

/-- a word that does not have the separator of two texts occurs in one of them -/
theorem infix_separated_iff {α : Type} {word : List α} {c : α} (hword : word ≠ []) (hc : c ∉ word) (a b : List α) :
    word <:+: a ++ c :: b ↔ word <:+: a ∨ word <:+: b := by
  rw [List.infix_append_iff]
  refine ⟨?_, ?_⟩
  · rintro (ha | hb | ⟨l₁, l₂, rfl, hl₁, hl₂⟩)
    · exact Or.inl ha
    · rcases List.infix_cons_iff.1 hb with hprefix | hb
      · rcases List.prefix_cons_iff.1 hprefix with rfl | ⟨t, rfl, -⟩
        · exact absurd rfl hword
        · exact absurd List.mem_cons_self hc
      · exact Or.inr hb
    · -- the part in the second text would start with the separator
      rcases List.prefix_cons_iff.1 hl₂ with rfl | ⟨t, rfl, -⟩
      · rw [List.append_nil]
        exact Or.inl hl₁.isInfix
      · exact absurd (List.mem_append_right l₁ List.mem_cons_self) hc
  · rintro (ha | hb)
    · exact Or.inl ha
    · exact Or.inr (Or.inl (List.infix_cons hb))

namespace MainLoop

theorem isSome_after?_iff (text : List Char) (l : List Char) : (after? text l).isSome = true ↔ text <:+: l := by
  induction l with
  | nil =>
    rw [after?, List.infix_nil]
    split_ifs with h <;> simp [h]
  | cons c cs ih =>
    rw [after?, List.infix_cons_iff, ← ih, ← List.isPrefixOf_iff_prefix]
    split_ifs with h <;> simp [h]

theorem contains_iff (msg text : String) : contains msg text = true ↔ text.toList <:+: msg.toList :=
  isSome_after?_iff text.toList msg.toList

/-! ## Messages -/

inductive StartLine where
  | request (method uri : String)
  | response (statusCode : ℕ) (reason : String)
deriving DecidableEq, Repr

/-- a SIP message; a header is its whole line -/
structure SipMessage where
  startLine : StartLine
  headers : List String
  body : String
deriving DecidableEq, Repr

namespace StartLine

def text : StartLine → String
  | .request method uri => method ++ " " ++ uri ++ " " ++ "SIP/2.0"
  | .response statusCode reason => "SIP/2.0" ++ " " ++ toString statusCode ++ " " ++ reason

/-- what the blanks of the line separate -/
def parts : StartLine → List String
  | .request method uri => [method, uri, "SIP/2.0"]
  | .response statusCode reason => ["SIP/2.0", toString statusCode, reason]

end StartLine

namespace SipMessage

/-- the header lines, each with its line end -/
def headerText : List String → String
  | [] => ""
  | line :: lines => line ++ "\r\n" ++ headerText lines

/-- the datagram -/
def text (msg : SipMessage) : String :=
  msg.startLine.text ++ "\r\n" ++ headerText msg.headers ++ "\r\n" ++ msg.body

def parts (msg : SipMessage) : List String := msg.startLine.parts ++ msg.headers ++ [msg.body]

/-- the method of a request -/
def method (msg : SipMessage) : Option String :=
  match msg.startLine with
  | .request method _ => some method
  | .response _ _ => none

/-- a part of the message has the word in it -/
def Mentions (msg : SipMessage) (word : String) : Prop := ∃ part ∈ msg.parts, contains part word = true

instance (msg : SipMessage) (word : String) : Decidable (msg.Mentions word) :=
  inferInstanceAs (Decidable (∃ part ∈ msg.parts, contains part word = true))

/-! ### Well-formed messages -/

def isTokenChar (c : Char) : Bool := c.isAlphanum || "-.!%*_+`'~".toList.contains c

def isToken (text : String) : Bool := text ≠ "" && text.toList.all isTokenChar

def isLine (text : String) : Bool := text.toList.all fun c => c ≠ '\r' && c ≠ '\n'

def isStartLine : StartLine → Bool
  | .request method uri => isToken method && uri ≠ "" && isLine uri && !uri.toList.contains ' '
  | .response statusCode reason => 100 ≤ statusCode && statusCode < 700 && isLine reason

/-- the name of a header, before the colon -/
def headerName (line : String) : String := String.ofList (line.toList.takeWhile (· ≠ ':'))

/-- the start line and the header lines are as they have to be, and no header that every message has is missing -/
def WellFormed (msg : SipMessage) : Prop :=
  isStartLine msg.startLine = true ∧
  (∀ line ∈ msg.headers, ':' ∈ line.toList ∧ isToken (headerName line) = true ∧ isLine line = true) ∧
  ∀ name ∈ ["Via", "From", "To", "Call-ID", "CSeq"], ∃ line ∈ msg.headers, headerName line = name

instance (msg : SipMessage) : Decidable msg.WellFormed := inferInstanceAs (Decidable (_ ∧ _ ∧ _))

/-! ### Words in a message -/

/-- a word that none of the separators of a message is in -/
def IsWord (word : String) : Prop :=
  word ≠ "" ∧ ' ' ∉ word.toList ∧ '\r' ∉ word.toList ∧ '\n' ∉ word.toList

instance (word : String) : Decidable (IsWord word) := inferInstanceAs (Decidable (_ ∧ _ ∧ _ ∧ _))

section Words

variable {word : String}

theorem IsWord.toList_ne (hword : IsWord word) : word.toList ≠ [] := mt String.toList_eq_nil_iff.1 hword.1

theorem contains_blank_iff (hword : IsWord word) (a b : String) :
    contains (a ++ " " ++ b) word = true ↔ contains a word = true ∨ contains b word = true := by
  have hblank : (a ++ " " ++ b).toList = a.toList ++ ' ' :: b.toList := by simp
  rw [contains_iff, hblank, infix_separated_iff hword.toList_ne hword.2.1, contains_iff, contains_iff]

theorem contains_lineEnd_iff (hword : IsWord word) (a b : String) :
    contains (a ++ "\r\n" ++ b) word = true ↔ contains a word = true ∨ contains b word = true := by
  have hlineEnd : (a ++ "\r\n" ++ b).toList = a.toList ++ '\r' :: ([] ++ '\n' :: b.toList) := by simp
  rw [contains_iff, hlineEnd, infix_separated_iff hword.toList_ne hword.2.2.1,
    infix_separated_iff hword.toList_ne hword.2.2.2, List.infix_nil, or_iff_right hword.toList_ne,
    contains_iff, contains_iff]

theorem contains_startLine_iff (hword : IsWord word) (line : StartLine) :
    contains line.text word = true ↔ ∃ part ∈ line.parts, contains part word = true := by
  cases line <;>
    simp only [StartLine.text, StartLine.parts, contains_blank_iff hword, List.mem_cons, List.not_mem_nil, or_false,
      exists_eq_or_imp, exists_eq_left, or_assoc]

theorem contains_headerText_iff (hword : IsWord word) (lines : List String) :
    contains (headerText lines) word = true ↔ ∃ line ∈ lines, contains line word = true := by
  induction lines with
  | nil => simp [headerText, contains_iff, hword.1]
  | cons line lines ih =>
    rw [headerText, contains_lineEnd_iff hword, ih]
    simp only [List.mem_cons, exists_eq_or_imp]

/-- **A word in a message is in one of its parts** -/
theorem contains_text_iff (hword : IsWord word) (msg : SipMessage) :
    contains msg.text word = true ↔ msg.Mentions word := by
  have hbody : contains msg.text word = true ↔
      (contains msg.startLine.text word = true ∨ contains (headerText msg.headers) word = true) ∨
        contains msg.body word = true := by
    rw [text, contains_lineEnd_iff hword, contains_lineEnd_iff hword]
  rw [hbody, contains_startLine_iff hword, contains_headerText_iff hword]
  simp only [Mentions, parts, List.mem_append, List.mem_singleton, or_and_right, exists_or, exists_eq_left]

/-- a request mentions its method -/
theorem mentions_method {msg : SipMessage} (hmethod : msg.method = some word) : msg.Mentions word := by
  refine ⟨word, ?_, (contains_iff word word).2 (List.infix_refl _)⟩
  unfold method at hmethod
  split at hmethod
  · next method uri hline =>
    cases hmethod
    simp [parts, hline, StartLine.parts]
  · cases hmethod

end Words

end SipMessage

/-! ## What is sent -/

variable (E : SessionEnv)

/-- the responses to an INVITE, or to a BYE, or to both -/
def due (callId : String) (invite bye : Bool) (m : SipManager EventCallback) : List Response :=
  let (first, m) :=
    if invite then
      let (ringing, ok, m) := inviteAnswers E callId m
      ([ringing, ok], m)
    else ([], m)
  first ++ if bye then [(response E.toSipEnv 200 "OK" "" m).1] else []

/-- the 180 and the 200 are sent if and only if the message is an INVITE, the 200 for a BYE if and only if it is one -/
def Dispatched (msg : SipMessage) (mem : Uninit) (now : ℕ) (s : SessionManager) : Prop :=
  let m := (received E msg.text mem now s).1
  (handleDatagram E msg.text mem now s).2 = (due E (extractCallId msg.text) (decide (msg.method = some "INVITE"))
    (decide (msg.method = some "BYE")) m).map (Response.text m.config)

variable {E}

/-- what is sent goes by the words of the text -/
theorem handleDatagram_due (text : String) (mem : Uninit) (now : ℕ) (s : SessionManager) :
    let m := (received E text mem now s).1
    (handleDatagram E text mem now s).2 = (due E (extractCallId text) (contains text "INVITE") (contains text "BYE")
      m).map (Response.text m.config) := handleDatagram_answers text mem now s

theorem length_due (callId : String) (invite bye : Bool) (m : SipManager EventCallback) :
    (due E callId invite bye m).length = 2 * invite.toNat + bye.toNat := by
  cases invite <;> cases bye <;> rfl

/-- the number of responses tells which they are -/
theorem map_due_inj {f : Response → String} {callId : String} {m : SipManager EventCallback}
    {invite invite' bye bye' : Bool} :
    (due E callId invite bye m).map f = (due E callId invite' bye' m).map f ↔ invite = invite' ∧ bye = bye' := by
  refine ⟨?_, ?_⟩
  · intro h
    have hlength := congrArg List.length h
    rw [List.length_map, List.length_map, length_due, length_due] at hlength
    revert hlength
    cases invite <;> cases invite' <;> cases bye <;> cases bye' <;> decide
  · rintro ⟨rfl, rfl⟩
    rfl

/-- the word is in the message only if it is the method -/
theorem contains_eq_method_iff {word : String} (hword : SipMessage.IsWord word) (msg : SipMessage) :
    contains msg.text word = decide (msg.method = some word) ↔
      (msg.Mentions word → msg.method = some word) := by
  rw [Bool.eq_iff_iff, SipMessage.contains_text_iff hword, decide_eq_true_iff]
  exact ⟨Iff.mp, fun h => ⟨h, SipMessage.mentions_method⟩⟩

/-- **A message gets the responses of its method** if and only if it has the word "INVITE" in one of its parts only as
an INVITE, and the word "BYE" only as a BYE -/
theorem dispatched_iff (E : SessionEnv) (msg : SipMessage) (mem : Uninit) (now : ℕ) (s : SessionManager) :
    Dispatched E msg mem now s ↔
      (msg.Mentions "INVITE" → msg.method = some "INVITE") ∧ (msg.Mentions "BYE" → msg.method = some "BYE") := by
  unfold Dispatched
  rw [handleDatagram_due, map_due_inj, contains_eq_method_iff (by decide), contains_eq_method_iff (by decide)]

/-- an OPTIONS that says what its sender can do -/
def optionsRequest : SipMessage where
  startLine := .request "OPTIONS" "sip:user@example.com"
  headers := ["Via: SIP/2.0/UDP 127.0.0.1:5091;branch=z9hG4bKa", "Max-Forwards: 70",
    "From: <sip:remote@example.com>;tag=1", "To: <sip:user@example.com>", "Call-ID: 1-153349@127.0.0.1",
    "CSeq: 1 OPTIONS", "Allow: INVITE, ACK, BYE, CANCEL, OPTIONS", "Content-Length: 0"]
  body := ""

/-- **An OPTIONS is answered like an INVITE and a BYE** if its Allow header has the two -/
theorem options_answered_as_invite : ¬ ∀ (E : SessionEnv) (msg : SipMessage), msg.WellFormed →
    ∀ (mem : Uninit) (now : ℕ) (s : SessionManager), Dispatched E msg mem now s := by
  intro h
  have hwell : optionsRequest.WellFormed := by decide +kernel
  have hsent := h (.constant "0" []) optionsRequest hwell ⟨0, 0, 0, 0, 0⟩ 0 (init (.constant "0" []) {})
  unfold Dispatched at hsent
  rw [handleDatagram_due, map_due_inj, contains_eq_method_iff (by decide)] at hsent
  have hmentions : optionsRequest.Mentions "INVITE" := by decide +kernel
  exact absurd (hsent.1 hmentions) (by decide)

end MainLoop

end Rtcom
