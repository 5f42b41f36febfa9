/-
The framing of the messages that `SipManager` builds.

A `WireMessage` is a start line, header fields and a body, with one character for each byte; written out, the
Content-Length of its body is the last header. Every message of the builders is one (`MessageBuilder.text_message`), and
where the texts it is put together from have no line ends, it is `Proper`.

`WireMessage.Proper.framed`: a proper message splits at its first empty line into start line, header lines and body, and
has one Content-Length, which is the length of the body. `built_framed` is this for the builders, in every state of the
manager, with the branch and the prefix that `Initialize` drew (`drawn_exec`).
-/
import Mathlib.Tactic
import Rtcom.Server.Dispatch
import Rtcom.Sip.Frames
import Rtcom.Sip.Requests
import Rtcom.Sip.Timers

namespace Rtcom

open MainLoop MainLoop.SipMessage SipManager

/-! ## Messages -/

structure HeaderField where
  name : String
  value : String
deriving DecidableEq, Repr

def HeaderField.line (f : HeaderField) : String := f.name ++ ": " ++ f.value

/-- header names are compared without case -/
def lowerCase (name : String) : List Char := name.toList.map Char.toLower

/-- a name of the Content-Length header, in full or compact -/
def isContentLength (name : String) : Bool :=
  lowerCase name = lowerCase "Content-Length" || lowerCase name = ['l']

/-- a message without its Content-Length, which is written behind the other fields -/
structure WireMessage where
  startLine : String
  fields : List HeaderField
  body : String
deriving DecidableEq, Repr

/-- what a receiver needs: up to its first empty line a message is a start line and lines "Name: value", each ended by
CRLF, and one of these says how long the rest is -/
structure Framed (text startLine : String) (fields : List HeaderField) (body : String) : Prop where
  text_eq : text = startLine ++ "\r\n" ++ headerText (fields.map HeaderField.line) ++ "\r\n" ++ body
  startLine_line : startLine ≠ "" ∧ isLine startLine = true
  fields_line : ∀ f ∈ fields, isToken f.name = true ∧ isLine f.value = true
  first_empty_line : after? "\r\n\r\n".toList text.toList = some body.toList
  length_eq : (fields.filter fun f => isContentLength f.name).map HeaderField.value = [toString body.length]

namespace WireMessage

def allFields (w : WireMessage) : List HeaderField := w.fields ++ [⟨"Content-Length", toString w.body.length⟩]

def text (w : WireMessage) : String :=
  w.startLine ++ "\r\n" ++ headerText (w.allFields.map HeaderField.line) ++ "\r\n" ++ w.body

/-- lines without line ends, and no other Content-Length -/
structure Proper (w : WireMessage) : Prop where
  startLine_line : w.startLine ≠ "" ∧ isLine w.startLine = true
  names : ∀ name ∈ w.fields.map HeaderField.name, isToken name = true ∧ isContentLength name = false
  values : ∀ value ∈ w.fields.map HeaderField.value, isLine value = true

end WireMessage

/-! ## The first empty line -/

namespace MainLoop

theorem after?_cons_of_ne {c : Char} (hc : c ≠ '\r') (cs : List Char) :
    after? "\r\n\r\n".toList (c :: cs) = after? "\r\n\r\n".toList cs := by
  rw [after?, if_neg]
  intro hpre
  obtain ⟨t, ht⟩ := List.isPrefixOf_iff_prefix.1 hpre
  exact hc (List.cons.inj ht).1.symm

/-- the line end of a line that another one follows -/
theorem after?_lineEnd {c : Char} (hc : c ≠ '\r') (cs : List Char) :
    after? "\r\n\r\n".toList ('\r' :: '\n' :: c :: cs) = after? "\r\n\r\n".toList (c :: cs) := by
  rw [after?, if_neg, after?_cons_of_ne (by decide)]
  intro hpre
  obtain ⟨t, ht⟩ := List.isPrefixOf_iff_prefix.1 hpre
  exact hc (List.cons.inj (List.cons.inj (List.cons.inj ht).2).2).1.symm

theorem after?_emptyLine (rest : List Char) :
    after? "\r\n\r\n".toList ('\r' :: '\n' :: '\r' :: '\n' :: rest) = some rest := by
  have hpre : "\r\n\r\n".toList.isPrefixOf ('\r' :: '\n' :: '\r' :: '\n' :: rest) = true :=
    List.isPrefixOf_iff_prefix.2 ⟨rest, rfl⟩
  rw [after?, if_pos hpre]
  rfl

theorem after?_line {line : List Char} (hline : '\r' ∉ line) (rest : List Char) :
    after? "\r\n\r\n".toList (line ++ rest) = after? "\r\n\r\n".toList rest := by
  induction line with
  | nil => rfl
  | cons c cs ih =>
    obtain ⟨hc, hcs⟩ := not_or.1 (mt List.mem_cons.2 hline)
    rw [List.cons_append, after?_cons_of_ne (Ne.symm hc), ih hcs]

/-- the empty line behind a line end and header lines is the first one -/
theorem after?_headerText {lines : List String} (hlines : ∀ line ∈ lines, line ≠ "" ∧ '\r' ∉ line.toList)
    (rest : List Char) :
    after? "\r\n\r\n".toList ('\r' :: '\n' :: ((headerText lines).toList ++ '\r' :: '\n' :: rest)) = some rest := by
  induction lines with
  | nil => exact after?_emptyLine rest
  | cons line lines ih =>
    obtain ⟨⟨hne, hline⟩, hlines⟩ := List.forall_mem_cons.1 hlines
    have htext : (headerText (line :: lines)).toList ++ '\r' :: '\n' :: rest =
        line.toList ++ '\r' :: '\n' :: ((headerText lines).toList ++ '\r' :: '\n' :: rest) := by
      simp [headerText]
    obtain ⟨c, cs, hcs⟩ := List.exists_cons_of_ne_nil (mt String.toList_eq_nil_iff.1 hne)
    have hc : c ≠ '\r' := fun heq => hline (by rw [hcs, heq]; exact List.mem_cons_self)
    calc after? _ ('\r' :: '\n' :: ((headerText (line :: lines)).toList ++ '\r' :: '\n' :: rest))
        = after? _ (line.toList ++ '\r' :: '\n' :: ((headerText lines).toList ++ '\r' :: '\n' :: rest)) := by
          rw [htext, hcs, List.cons_append, after?_lineEnd hc]
      _ = after? _ ('\r' :: '\n' :: ((headerText lines).toList ++ '\r' :: '\n' :: rest)) := after?_line hline _
      _ = some rest := ih hlines

end MainLoop

/-! ## Lines -/

theorem isLine_append {a b : String} : isLine (a ++ b) = true ↔ isLine a = true ∧ isLine b = true := by
  simp [isLine]

theorem isLine_iff {text : String} : isLine text = true ↔ '\r' ∉ text.toList ∧ '\n' ∉ text.toList := by
  refine List.all_eq_true.trans ⟨?_, ?_⟩
  · intro hall
    exact ⟨fun hcr => absurd (hall '\r' hcr) (by decide), fun hlf => absurd (hall '\n' hlf) (by decide)⟩
  · rintro ⟨hcr, hlf⟩ c hc
    simp [ne_of_mem_of_not_mem hc hcr, ne_of_mem_of_not_mem hc hlf]

theorem isLine_notMem {text : String} (h : isLine text = true) : '\r' ∉ text.toList := (isLine_iff.1 h).1

/-- characters that are of a kind that CR and LF are not -/
theorem isLine_of_all {text : String} {p : Char → Bool} (hcr : p '\r' = false) (hlf : p '\n' = false)
    (h : ∀ c ∈ text.toList, p c = true) : isLine text = true := by
  refine isLine_iff.2 ⟨fun hmem => ?_, fun hmem => ?_⟩
  · exact absurd (h '\r' hmem) (by rw [hcr]; exact Bool.false_ne_true)
  · exact absurd (h '\n' hmem) (by rw [hlf]; exact Bool.false_ne_true)

theorem isLine_toString (n : ℕ) : isLine (toString n) = true := by
  apply isLine_of_all (p := Char.isDigit) (by decide) (by decide)
  intro c hc
  have hdigits : (toString n).toList = Nat.toDigits 10 n := Nat.toList_repr
  rw [hdigits] at hc
  exact Nat.isDigit_of_mem_toDigits (by decide) (by decide) hc

theorem isLine_toString_int (n : ℤ) : isLine (toString n) = true := by
  cases n with
  | ofNat n => exact isLine_toString n
  | negSucc n => exact isLine_append.2 ⟨by decide, isLine_toString (n + 1)⟩

/-- a header parameter -/
theorem isLine_param {name : String} (hname : isLine name = true) {value : Option String}
    (hvalue : ∀ v ∈ value, isLine v = true) : isLine (Response.param name value) = true := by
  cases value with
  | none => rfl
  | some v => exact isLine_append.2 ⟨hname, hvalue v rfl⟩

theorem isLine_of_isToken {name : String} (h : isToken name = true) : isLine name = true :=
  isLine_of_all (by decide) (by decide) (List.all_eq_true.1 (Bool.and_eq_true_iff.1 h).2)

/-- a line "Name: value" -/
theorem HeaderField.line_spec (f : HeaderField) (hf : isToken f.name = true ∧ isLine f.value = true) :
    f.line ≠ "" ∧ '\r' ∉ f.line.toList := by
  have hline : isLine f.line = true :=
    isLine_append.2 ⟨isLine_append.2 ⟨isLine_of_isToken hf.1, by decide⟩, hf.2⟩
  refine ⟨fun hempty => ?_, isLine_notMem hline⟩
  have hchars := congrArg String.toList hempty
  simp [line] at hchars

namespace WireMessage

theorem Proper.fields_line {w : WireMessage} (h : w.Proper) :
    ∀ f ∈ w.allFields, isToken f.name = true ∧ isLine f.value = true := by
  intro f hf
  rcases List.mem_append.1 hf with hf | hf
  · exact ⟨(h.names f.name (List.mem_map_of_mem hf)).1, h.values f.value (List.mem_map_of_mem hf)⟩
  · have hname : isToken "Content-Length" = true := by decide +kernel
    rw [List.mem_singleton.1 hf]
    exact ⟨hname, isLine_toString _⟩

theorem text_ne (w : WireMessage) : w.text ≠ "" := by
  simp [text]

/-- **A proper message is framed** -/
theorem Proper.framed {w : WireMessage} (h : w.Proper) : Framed w.text w.startLine w.allFields w.body where
  text_eq := rfl
  startLine_line := h.startLine_line
  fields_line := h.fields_line
  first_empty_line := by
    have htext : w.text.toList = w.startLine.toList ++ '\r' :: '\n' ::
        ((headerText (w.allFields.map HeaderField.line)).toList ++ '\r' :: '\n' :: w.body.toList) := by
      simp [text]
    rw [htext, after?_line (isLine_notMem h.startLine_line.2), after?_headerText]
    exact List.forall_mem_map.2 fun f hf => f.line_spec (h.fields_line f hf)
  length_eq := by
    have hnone : w.fields.filter (fun f => isContentLength f.name) = [] := by
      rw [List.filter_eq_nil_iff]
      intro f hf
      rw [(h.names f.name (List.mem_map_of_mem hf)).2]
      exact Bool.false_ne_true
    have hlast : isContentLength "Content-Length" = true := by decide +kernel
    rw [allFields, List.filter_append, hnone, List.nil_append]
    simp [hlast]

end WireMessage

/-! ## The messages of the builders -/

/-- the value of a Via header, up to the port -/
def viaValue (config : SipConfig) : String := "SIP/2.0/UDP " ++ config.localAddr ++ ":" ++ toString config.localPort

def RegisterRequest.message (config : SipConfig) (r : RegisterRequest) : WireMessage where
  startLine := "REGISTER sip:" ++ r.domain ++ " SIP/2.0"
  fields := [⟨"Via", viaValue config ++ ";branch=" ++ r.branch⟩, ⟨"Max-Forwards", "70"⟩,
    ⟨"From", "<" ++ r.uri ++ ">;tag=" ++ r.fromTag⟩, ⟨"To", "<" ++ r.uri ++ ">"⟩, ⟨"Call-ID", r.callId⟩,
    ⟨"CSeq", toString r.cseq ++ " REGISTER"⟩, ⟨"Contact", "<" ++ r.uri ++ ">"⟩, ⟨"Expires", toString r.expires⟩]
  body := ""

def SipRequest.message (config : SipConfig) (r : SipRequest) : WireMessage where
  startLine := r.method ++ " " ++ r.requestUri ++ " SIP/2.0"
  fields := [⟨"Via", viaValue config ++ ";branch=" ++ r.branch⟩] ++
    (if r.offer.isSome then [⟨"Max-Forwards", "70"⟩] else []) ++
    [⟨"From", "<" ++ r.fromUri ++ ">;tag=" ++ r.fromTag⟩,
      ⟨"To", "<" ++ r.requestUri ++ ">" ++ Response.param ";tag=" r.toTag⟩, ⟨"Call-ID", r.callId⟩,
      ⟨"CSeq", toString r.cseq ++ " " ++ r.method⟩] ++
    (if r.offer.isSome then [⟨"Contact", "<" ++ r.fromUri ++ ">"⟩, ⟨"Content-Type", "application/sdp"⟩] else [])
  body := r.offer.getD ""

/-- a response; `typed` says whether it has a Content-Type -/
def Response.message (config : SipConfig) (typed : Bool) (r : Response) : WireMessage where
  startLine := "SIP/2.0 " ++ toString r.statusCode ++ " " ++ r.reason
  fields := [⟨"Via", viaValue config ++ param ";branch=" r.branch⟩,
      ⟨"From", "<sip:remote@" ++ config.domain ++ ">" ++ param ";tag=" r.fromTag⟩,
      ⟨"To", "<sip:" ++ config.username ++ "@" ++ config.domain ++ ">" ++ param ";tag=" r.toTag⟩,
      ⟨"Call-ID", r.callId⟩, ⟨"CSeq", r.cseq⟩,
      ⟨"Contact", "<sip:" ++ config.username ++ "@" ++ config.domain ++ ">"⟩] ++
    if typed then [⟨"Content-Type", "application/sdp"⟩] else []
  body := r.sdp

/-- the literals of the builders, cut at the colon of a header and at the line end -/
theorem header_literals :
    "Via: SIP/2.0/UDP " = "Via" ++ (": " ++ "SIP/2.0/UDP ") ∧
    "Max-Forwards: 70\r\n" = "Max-Forwards" ++ (": " ++ ("70" ++ "\r\n")) ∧
    "From: <" = "From" ++ (": " ++ "<") ∧
    "From: <sip:remote@" = "From" ++ (": " ++ "<sip:remote@") ∧
    "To: <" = "To" ++ (": " ++ "<") ∧
    "Call-ID: " = "Call-ID" ++ ": " ∧
    "CSeq: " = "CSeq" ++ ": " ∧
    "Contact: <" = "Contact" ++ (": " ++ "<") ∧
    "Expires: " = "Expires" ++ ": " ∧
    "Content-Type: application/sdp\r\n" = "Content-Type" ++ (": " ++ ("application/sdp" ++ "\r\n")) ∧
    "Content-Length: " = "Content-Length" ++ ": " ∧
    "Content-Length: 0\r\n\r\n" = "Content-Length" ++ (": " ++ ("0" ++ ("\r\n" ++ "\r\n"))) ∧
    "\r\n\r\n" = "\r\n" ++ "\r\n" ∧
    ">\r\n" = ">" ++ "\r\n" ∧
    "<sip:" = "<" ++ "sip:" ∧
    " SIP/2.0\r\n" = " SIP/2.0" ++ "\r\n" ∧
    " REGISTER\r\n" = " REGISTER" ++ "\r\n" := by
  decide +kernel

theorem toString_length_empty : toString "".length = "0" := congrArg Nat.repr String.length_empty

theorem RegisterRequest.text_message (config : SipConfig) (r : RegisterRequest) :
    r.text config = (r.message config).text := by
  unfold RegisterRequest.text
  simp only [message, WireMessage.text, WireMessage.allFields, headerText, HeaderField.line, viaValue,
    toString_length_empty, header_literals, String.append_assoc, List.cons_append, List.nil_append, List.map,
    String.append_empty]

theorem SipRequest.text_message (config : SipConfig) (r : SipRequest) : r.text config = (r.message config).text := by
  unfold SipRequest.text
  cases hoffer : r.offer
  all_goals
    simp only [message, WireMessage.text, WireMessage.allFields, headerText, HeaderField.line, viaValue, hoffer,
      toString_length_empty, header_literals, String.append_assoc, List.cons_append, List.nil_append, List.map,
      String.append_empty, Option.isSome_none, Option.isSome_some, Bool.false_eq_true, if_true,
      if_false, Option.getD_none, Option.getD_some]

theorem Response.text_message (config : SipConfig) (r : Response) :
    r.text config = (r.message config (!r.sdp.isEmpty)).text := by
  unfold Response.text
  cases hempty : r.sdp.isEmpty with
  | true =>
    have hsdp : r.sdp = "" := String.isEmpty_iff.1 hempty
    simp only [message, WireMessage.text, WireMessage.allFields, headerText, HeaderField.line, viaValue, hsdp,
      toString_length_empty, header_literals, String.append_assoc, List.cons_append, List.nil_append, List.map,
      String.append_empty, Bool.not_true, Bool.false_eq_true, if_true, if_false]
  | false =>
    simp only [message, WireMessage.text, WireMessage.allFields, headerText, HeaderField.line, viaValue,
      header_literals, String.append_assoc, List.cons_append, List.nil_append, List.map,
      String.append_empty, Bool.not_false, Bool.false_eq_true, if_true, if_false]

namespace SipManager

variable {κ : Type} (E : SipEnv)

/-- the text of a response with an SDP, as `BuildResponseWithSdp` writes it -/
theorem text_responseWithSdp (m : SipManager κ) (statusCode : ℤ)
    (reason branch fromTag toTag callId number sdp : String) :
    (Response.message m.config true
        ⟨statusCode, reason, some branch, some fromTag, some toTag, callId, number ++ " INVITE", sdp⟩).text =
      "SIP/2.0 " ++ toString statusCode ++ " " ++ reason ++ "\r\n" ++
        m.viaSentBy ++ ";branch=" ++ branch ++ "\r\n" ++
        "From: <sip:remote@" ++ m.config.domain ++ ">;tag=" ++ fromTag ++ "\r\n" ++
        "To: <" ++ m.localUri ++ ">;tag=" ++ toTag ++ "\r\n" ++
        "Call-ID: " ++ callId ++ "\r\n" ++
        "CSeq: " ++ number ++ " INVITE\r\n" ++
        "Contact: <" ++ m.localUri ++ ">\r\n" ++
        "Content-Type: application/sdp\r\n" ++
        "Content-Length: " ++ toString sdp.length ++ "\r\n\r\n" ++
        sdp := by
  have htag : ">;tag=" = ">" ++ ";tag=" := by decide
  have hline : " INVITE\r\n" = " INVITE" ++ "\r\n" := by decide
  unfold viaSentBy localUri
  simp only [Response.message, WireMessage.text, WireMessage.allFields, headerText, HeaderField.line, viaValue,
    Response.param, htag, hline, header_literals, String.append_assoc, List.cons_append, List.nil_append, List.map,
    String.append_empty, if_true]

/-- `BuildResponseWithSdp` returns the response of `BuildResponse` with a body -/
theorem buildResponseWithSdp_eq (m : SipManager κ) (statusCode : ℤ) (reason sdp toTag : String) :
    (buildResponseWithSdp E statusCode reason sdp toTag m).1 =
      (Response.message m.config true { (response E statusCode reason toTag m).1 with sdp := sdp }).text := by
  cases htag : toTag.isEmpty
  all_goals
    simp only [buildResponseWithSdp, buildResponseHead, response, htag]
    exact (text_responseWithSdp m statusCode reason _ _ _ _ _ sdp).symm

end SipManager

namespace MessageBuilder

variable {κ : Type} (E : SipEnv)

/-- the message that is built, if one is -/
def message (m : SipManager κ) : MessageBuilder → Option WireMessage
  | .register => some ((registerRequest E m).1.message m.config)
  | .invite callId calleeUri => some ((inviteRequest E callId calleeUri m).1.message m.config)
  | .ack callId => (inDialogRequest E "ACK" callId m).1.map (SipRequest.message m.config)
  | .bye callId => (inDialogRequest E "BYE" callId m).1.map (SipRequest.message m.config)
  | .response statusCode reason toTag =>
    let r := (SipManager.response E statusCode reason toTag m).1
    some (r.message m.config (!r.sdp.isEmpty))
  | .responseWithSdp statusCode reason sdp toTag =>
    some (Response.message m.config true { (SipManager.response E statusCode reason toTag m).1 with sdp := sdp })
  | .inviteResponse statusCode reason sdp =>
    let r := (SipManager.inviteResponse E statusCode reason sdp m).1
    some (r.message m.config (!r.sdp.isEmpty))

theorem text_inDialogRequest (m : SipManager κ) (method callId : String) :
    (buildInDialogRequest E method callId m).1 =
      (((inDialogRequest E method callId m).1.map (SipRequest.message m.config)).map WireMessage.text).getD "" := by
  have htext : SipRequest.text m.config = WireMessage.text ∘ SipRequest.message m.config :=
    funext (SipRequest.text_message m.config)
  rw [buildInDialogRequest_eq, Option.map_map, htext]

/-- **Every builder returns the text of its message**, or nothing -/
theorem text_message (m : SipManager κ) (b : MessageBuilder) :
    (b.build E m).1 = ((b.message E m).map WireMessage.text).getD "" := by
  cases b with
  | register => exact (congrArg Prod.fst (buildRegisterRequest_eq E m)).trans (RegisterRequest.text_message _ _)
  | invite callId calleeUri =>
    exact (congrArg Prod.fst (buildInviteRequest_eq E m callId calleeUri)).trans (SipRequest.text_message _ _)
  | ack callId => exact text_inDialogRequest E m "ACK" callId
  | bye callId => exact text_inDialogRequest E m "BYE" callId
  | response statusCode reason toTag =>
    exact (congrArg Prod.fst (buildResponse_eq E m statusCode reason toTag)).trans (Response.text_message _ _)
  | responseWithSdp statusCode reason sdp toTag => exact buildResponseWithSdp_eq E m statusCode reason sdp toTag
  | inviteResponse statusCode reason sdp =>
    exact (congrArg Prod.fst (buildInviteResponse_eq E m statusCode reason sdp)).trans (Response.text_message _ _)

end MessageBuilder

/-! ## Texts without line ends -/

def headerNames : List String :=
  ["Via", "Max-Forwards", "From", "To", "Call-ID", "CSeq", "Contact", "Expires", "Content-Type"]

theorem headerNames_spec : ∀ name ∈ headerNames, isToken name = true ∧ isContentLength name = false := by
  decide +kernel

structure PrintableConfig (config : SipConfig) : Prop where
  username : isLine config.username = true
  domain : isLine config.domain = true
  localAddr : isLine config.localAddr = true

/-- the configuration of a manager that was not initialised -/
theorem printableConfig_default : PrintableConfig {} := ⟨by decide, by decide, by decide⟩

theorem isLine_viaValue {config : SipConfig} (h : PrintableConfig config) : isLine (viaValue config) = true :=
  isLine_append.2 ⟨isLine_append.2 ⟨isLine_append.2 ⟨by decide, h.localAddr⟩, by decide⟩,
    isLine_toString config.localPort.toNat⟩

theorem isLine_toString_uint32 (n : UInt32) : isLine (toString n) = true := isLine_toString n.toNat

theorem RegisterRequest.proper {config : SipConfig} (hconfig : PrintableConfig config) {r : RegisterRequest}
    (hdomain : isLine r.domain = true) (hbranch : isLine r.branch = true) (huri : isLine r.uri = true)
    (hfrom : isLine r.fromTag = true) (hid : isLine r.callId = true) : (r.message config).Proper where
  startLine_line := by
    simp +decide [message, isLine_append, hdomain]
  names := by
    have hsub : (r.message config).fields.map HeaderField.name ⊆ headerNames := by
      simp [message, headerNames]
    exact fun name hname => headerNames_spec name (hsub hname)
  values := by
    simp +decide [message, isLine_append, isLine_viaValue hconfig, isLine_toString_uint32, hbranch, huri, hfrom, hid]

theorem SipRequest.proper {config : SipConfig} (hconfig : PrintableConfig config) {r : SipRequest}
    (hmethod : isLine r.method = true) (huri : isLine r.requestUri = true) (hbranch : isLine r.branch = true)
    (hfromUri : isLine r.fromUri = true) (hfrom : isLine r.fromTag = true) (hto : ∀ tag ∈ r.toTag, isLine tag = true)
    (hid : isLine r.callId = true) : (r.message config).Proper where
  startLine_line := by
    simp +decide [message, isLine_append, hmethod, huri]
  names := by
    have hsub : (r.message config).fields.map HeaderField.name ⊆ headerNames := by
      cases hoffer : r.offer <;> simp [message, headerNames, hoffer]
    exact fun name hname => headerNames_spec name (hsub hname)
  values := by
    have htag := isLine_param (by decide : isLine ";tag=" = true) hto
    cases hoffer : r.offer <;>
      simp +decide [message, isLine_append, isLine_viaValue hconfig, isLine_toString_uint32, hmethod, huri, hbranch,
        hfromUri, hfrom, htag, hid, hoffer]

theorem Response.proper {config : SipConfig} (hconfig : PrintableConfig config) (typed : Bool) {r : Response}
    (hreason : isLine r.reason = true) (hbranch : ∀ branch ∈ r.branch, isLine branch = true)
    (hfrom : ∀ tag ∈ r.fromTag, isLine tag = true) (hto : ∀ tag ∈ r.toTag, isLine tag = true)
    (hid : isLine r.callId = true) (hcseq : isLine r.cseq = true) : (r.message config typed).Proper where
  startLine_line := by
    simpa +decide [message, isLine_append, hreason] using isLine_toString_int r.statusCode
  names := by
    have hsub : (r.message config typed).fields.map HeaderField.name ⊆ headerNames := by
      cases typed <;> simp [message, headerNames]
    exact fun name hname => headerNames_spec name (hsub hname)
  values := by
    have hvia := isLine_param (by decide : isLine ";branch=" = true) hbranch
    have hfromTag := isLine_param (by decide : isLine ";tag=" = true) hfrom
    have htoTag := isLine_param (by decide : isLine ";tag=" = true) hto
    cases typed <;>
      simp +decide [message, isLine_append, isLine_viaValue hconfig, hconfig.username, hconfig.domain, hvia, hfromTag,
        htoTag, hid, hcseq]

namespace SipManager

variable {κ : Type} {E : SipEnv}

/-- the configuration, the headers kept and the URIs of the calls have no line ends -/
structure Printable (m : SipManager κ) : Prop where
  config : PrintableConfig m.config
  lastViaBranch : isLine m.lastViaBranch = true
  lastFromTag : isLine m.lastFromTag = true
  lastToTag : isLine m.lastToTag = true
  lastCallId : isLine m.lastCallId = true
  lastCseq : isLine m.lastCseq = true
  calls : ∀ id call, m.calls.lookup id = some call → isLine call.localUri = true ∧ isLine call.remoteUri = true

theorem printable_new : Printable (new : SipManager κ) where
  config := printableConfig_default
  lastViaBranch := rfl
  lastFromTag := rfl
  lastToTag := rfl
  lastCallId := rfl
  lastCseq := rfl
  calls := by
    intro id call hl
    rw [show (new : SipManager κ).calls = ∅ from rfl, AList.lookup_empty] at hl
    cases hl

/-- `Initialize` sets the configuration, and leaves the calls and the headers as they are -/
theorem printable_initialise (osipInit : Bool) {config : SipConfig} (hconfig : PrintableConfig config)
    {m : SipManager κ} (h : Printable m) : Printable (initialise E osipInit config m).2 := by
  obtain ⟨-, hvia, hfrom, hto, hid, hcseq, hcalls⟩ := h
  cases osipInit with
  | false => exact ⟨hconfig, hvia, hfrom, hto, hid, hcseq, hcalls⟩
  | true => exact ⟨hconfig, hvia, hfrom, hto, hid, hcseq, hcalls⟩

theorem Printable.localUri {m : SipManager κ} (h : Printable m) : isLine m.localUri = true :=
  isLine_append.2 ⟨isLine_append.2 ⟨isLine_append.2 ⟨by decide, h.config.username⟩, by decide⟩, h.config.domain⟩

theorem isLine_kept {header : String} (h : isLine header = true) : ∀ value ∈ kept header, isLine value = true := by
  unfold kept
  split_ifs
  · exact nofun
  · rintro value ⟨⟩
    exact h

section Hex

variable (hhex : ∀ k len, isLine (E.hex k len) = true)
include hhex

theorem isLine_branch (k : ℕ) : isLine ("z9hG4bK" ++ E.hex k 32) = true := isLine_append.2 ⟨by decide, hhex k 32⟩

theorem Drawn.isLine {m : SipManager κ} (h : Drawn E m) :
    isLine m.branchId = true ∧ isLine m.callIdPrefix = true := by
  obtain ⟨hbranch, hpre⟩ := h
  refine ⟨?_, ?_⟩
  · rcases hbranch with h | ⟨k, h⟩
    · rw [h]
      rfl
    · rw [h]
      exact isLine_branch hhex k
  · rcases hpre with h | ⟨k, h⟩
    · rw [h]
      rfl
    · rw [h]
      exact hhex k 16

theorem proper_registerRequest {m : SipManager κ} (hprint : Printable m) (hdrawn : Drawn E m) :
    ((registerRequest E m).1.message m.config).Proper :=
  RegisterRequest.proper hprint.config hprint.config.domain (hdrawn.isLine hhex).1 hprint.localUri (hhex _ _)
    (hhex _ _)

theorem proper_inviteRequest {m : SipManager κ} (hprint : Printable m) {callId calleeUri : String}
    (hid : isLine callId = true) (huri : isLine calleeUri = true) :
    ((inviteRequest E callId calleeUri m).1.message m.config).Proper :=
  SipRequest.proper hprint.config (by decide : isLine "INVITE" = true) huri (isLine_branch hhex _) hprint.localUri
    (hhex _ _) nofun hid

theorem proper_inDialogRequest {m : SipManager κ} (hprint : Printable m) {method callId : String}
    (hmethod : isLine method = true) (hid : isLine callId = true) :
    ∀ r ∈ (inDialogRequest E method callId m).1, (r.message m.config).Proper := by
  intro r hr
  simp only [inDialogRequest, get_bind_run] at hr
  cases hl : m.calls.lookup callId with
  | none =>
    rw [hl] at hr
    cases hr
  | some call =>
    rw [hl] at hr
    cases hr
    obtain ⟨hlocal, hremote⟩ := hprint.calls callId call hl
    apply SipRequest.proper
    · exact hprint.config
    · exact hmethod
    · exact hremote
    · exact isLine_branch hhex _
    · exact hlocal
    · exact hhex _ _
    · rintro tag ⟨⟩
      exact hhex _ _
    · exact hid

theorem proper_response {m : SipManager κ} (hprint : Printable m) (statusCode : ℤ) {reason toTag : String}
    (hreason : isLine reason = true) (htag : isLine toTag = true) (typed : Bool) (sdp : String) :
    (Response.message m.config typed { (response E statusCode reason toTag m).1 with sdp := sdp }).Proper := by
  have hspec : ∃ k tag number, isLine tag = true ∧ (response E statusCode reason toTag m).1 =
      ⟨statusCode, reason, some ("z9hG4bK" ++ E.hex m.draws 32), some (E.hex (m.draws + 1) 16), some tag, E.hex k 16,
        toString (number : UInt32) ++ " INVITE", ""⟩ := by
    unfold response
    cases toTag.isEmpty with
    | true => exact ⟨_, _, _, hhex _ _, rfl⟩
    | false => exact ⟨_, toTag, _, htag, rfl⟩
  obtain ⟨k, tag, number, hto, heq⟩ := hspec
  rw [heq]
  apply Response.proper
  · exact hprint.config
  · exact hreason
  · rintro branch ⟨⟩
    exact isLine_branch hhex _
  · rintro tag ⟨⟩
    exact hhex _ _
  · rintro tag ⟨⟩
    exact hto
  · exact hhex _ _
  · exact isLine_append.2 ⟨isLine_toString_uint32 number, by decide⟩

/-- a Call-ID that is made up starts with the prefix -/
theorem isLine_callId {m n : SipManager κ} (hprint : Printable m) (hpre : isLine n.callIdPrefix = true) :
    isLine (if m.lastCallId.isEmpty then generateCallId E n else (m.lastCallId, n)).1 = true := by
  split_ifs
  · exact isLine_append.2 ⟨isLine_append.2 ⟨hpre, by decide⟩, hhex _ _⟩
  · exact hprint.lastCallId

omit hhex in
theorem isLine_cseq {m : SipManager κ} (hprint : Printable m) (n : SipManager κ) :
    isLine (if m.lastCseq.isEmpty then (toString (generateCSeq n).1 ++ " INVITE", (generateCSeq n).2)
      else (m.lastCseq, n)).1 = true := by
  split_ifs
  · exact isLine_append.2 ⟨isLine_toString_uint32 _, by decide⟩
  · exact hprint.lastCseq

theorem proper_inviteResponse {m : SipManager κ} (hprint : Printable m) (hdrawn : Drawn E m) (statusCode : ℤ)
    {reason : String} (hreason : isLine reason = true) (sdp : String) (typed : Bool) :
    ((inviteResponse E statusCode reason sdp m).1.message m.config typed).Proper := by
  rw [inviteResponse_run]
  apply Response.proper
  · exact hprint.config
  · exact hreason
  · exact isLine_kept hprint.lastViaBranch
  · exact isLine_kept hprint.lastFromTag
  · simp only
    split_ifs
    · rintro tag ⟨⟩
      exact hprint.lastToTag
    · rintro tag ⟨⟩
      exact hhex _ _
    · exact nofun
  · refine isLine_callId hhex hprint ?_
    -- a tag that was drawn leaves the prefix
    split_ifs
    all_goals exact (hdrawn.isLine hhex).2
  · exact isLine_cseq hprint _

end Hex

end SipManager

/-! ## The builders -/

namespace MessageBuilder

variable {κ : Type} {E : SipEnv}

/-- what the caller gives, but for an SDP -/
def texts : MessageBuilder → List String
  | .register => []
  | .invite callId calleeUri => [callId, calleeUri]
  | .ack callId => [callId]
  | .bye callId => [callId]
  | .response _ reason toTag => [reason, toTag]
  | .responseWithSdp _ reason _ toTag => [reason, toTag]
  | .inviteResponse _ reason _ => [reason]

theorem proper_message (hhex : ∀ k len, isLine (E.hex k len) = true) {m : SipManager κ} (hprint : Printable m)
    (hdrawn : Drawn E m) (b : MessageBuilder) (hb : ∀ text ∈ b.texts, isLine text = true) :
    ∀ w ∈ b.message E m, w.Proper := by
  intro w hw
  cases b with
  | register =>
    cases hw
    exact proper_registerRequest hhex hprint hdrawn
  | invite callId calleeUri =>
    cases hw
    exact proper_inviteRequest hhex hprint (hb callId (by simp [texts])) (hb calleeUri (by simp [texts]))
  | ack callId =>
    obtain ⟨r, hr, rfl⟩ := Option.map_eq_some_iff.1 hw
    exact proper_inDialogRequest hhex hprint (by decide) (hb callId (by simp [texts])) r hr
  | bye callId =>
    obtain ⟨r, hr, rfl⟩ := Option.map_eq_some_iff.1 hw
    exact proper_inDialogRequest hhex hprint (by decide) (hb callId (by simp [texts])) r hr
  | response statusCode reason toTag =>
    cases hw
    exact proper_response hhex hprint statusCode (hb reason (by simp [texts])) (hb toTag (by simp [texts])) _ _
  | responseWithSdp statusCode reason sdp toTag =>
    cases hw
    exact proper_response hhex hprint statusCode (hb reason (by simp [texts])) (hb toTag (by simp [texts])) true sdp
  | inviteResponse statusCode reason sdp =>
    cases hw
    exact proper_inviteResponse hhex hprint hdrawn statusCode (hb reason (by simp [texts])) sdp _

theorem built_ne {m : SipManager κ} {b : MessageBuilder} {w : WireMessage} (hw : b.message E m = some w) :
    (b.build E m).1 ≠ "" := by
  rw [text_message, hw]
  exact w.text_ne

/-- **Every message that is built is framed**, and its Content-Length is the length of its body -/
theorem built_framed (E : SipEnv) (hhex : ∀ k len, isLine (E.hex k len) = true) (m : SipManager κ)
    (hprint : Printable m) (hdrawn : Drawn E m) (b : MessageBuilder) (hb : ∀ text ∈ b.texts, isLine text = true)
    (hbuilt : (b.build E m).1 ≠ "") :
    ∃ startLine fields body, Framed (b.build E m).1 startLine fields body := by
  have htext := text_message E m b
  cases hw : b.message E m with
  | none =>
    rw [hw] at htext
    exact absurd htext hbuilt
  | some w =>
    have hproper : w.Proper := proper_message hhex hprint hdrawn b hb w hw
    rw [htext, hw]
    exact ⟨w.startLine, w.allFields, w.body, hproper.framed⟩

/-- a manager that was initialised -/
def initialised : SipManager Unit := (initialise inviteEnv true {} new).2

/-- a 200 whose SDP has an empty line -/
theorem built_framed_sdp : ∃ startLine fields body, Framed
    ((responseWithSdp 200 "OK" "v=0\r\n\r\n" "").build inviteEnv initialised).1 startLine fields body :=
  built_framed inviteEnv (fun _ _ => (by decide : isLine "ab" = true)) initialised
    (printable_initialise true printableConfig_default printable_new)
    (drawn_initialise inviteEnv true {} (drawn_new inviteEnv)) _ (by decide) (built_ne rfl)

end MessageBuilder

end Rtcom
