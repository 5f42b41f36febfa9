/-
The Call-ID of an INVITE, as the main loop finds it in the text and as libosip2 reads it.

A `RawInvite` is an INVITE as it arrives: names without case or compact, blanks around the colons, headers in any
order, any body. The main loop takes what follows the first "Call-ID: " of the text, up to a line end or an '@', "to
match libosip2's osip_call_id_t.number"; libosip2 takes the value of the header, up to the '@'. `HandleInvite` stores
the call under the second, `ProcessIncomingSdp` and `BuildSdpAnswer` are called with the first.

- `callIdIn_text`: the main loop reads the number in the first line that has "Call-ID: " in it, or in the body.
- `callIdIn_header`: the Call-ID header has these words only if it is spelled so.
- `call_addressed_iff`: the two agree, and the SDP is the one of the call, exactly when the header is spelled
  "Call-ID: " and no line above it has the words, or the line that has them first happens to name the call.
- `compact_call_id_missed`: the compact form is not found.
-/
import Mathlib.Data.Bool.AllAny
import Mathlib.Data.List.TakeWhile
import Mathlib.Tactic
import Rtcom.Server.Acceptance
import Rtcom.Server.BuiltMessages

namespace Rtcom

open SipManager SessionManager

namespace MainLoop

open SipMessage

/-! ## Messages -/

/-- a header as it arrives, with the blanks around the colon -/
structure RawHeader where
  name : String
  before : String
  after : String
  value : String
deriving DecidableEq, Repr

/-- the name of the Call-ID header, in full or compact -/
def isCallIdName (name : String) : Bool := lowerCase name = lowerCase "Call-ID" || lowerCase name = ['i']

def isBlank (text : String) : Bool := text.toList.all fun c => c = ' ' || c = '\t'

def isWordChar (c : Char) : Bool := isTokenChar c || "()<>:\\\"/[]?\x7b\x7d".toList.contains c

/-- a word of a Call-ID; it has neither blanks nor an '@' -/
def isWord (text : String) : Bool := text ≠ "" && text.toList.all isWordChar

namespace RawHeader

def line (h : RawHeader) : String := h.name ++ h.before ++ ":" ++ h.after ++ h.value

def WellFormed (h : RawHeader) : Prop :=
  isToken h.name = true ∧ isBlank h.before = true ∧ isBlank h.after = true ∧ isLine h.value = true

instance (h : RawHeader) : Decidable h.WellFormed := inferInstanceAs (Decidable (_ ∧ _ ∧ _ ∧ _))

end RawHeader

/-- an INVITE as it arrives; the value of its Call-ID is a number, or a number, '@' and a host. Each header is on one
line: headers folded over several lines are left out -/
structure RawInvite where
  uri : String
  above : List RawHeader
  name : String
  before : String
  after : String
  number : String
  host : Option String
  below : List RawHeader
  body : String
deriving DecidableEq, Repr

namespace RawInvite

def callIdHeader (req : RawInvite) : RawHeader :=
  ⟨req.name, req.before, req.after, req.number ++ Response.param "@" req.host⟩

def startLine (req : RawInvite) : String := "INVITE " ++ req.uri ++ " SIP/2.0"

/-- the lines above the Call-ID header -/
def linesAbove (req : RawInvite) : List String := req.startLine :: req.above.map RawHeader.line

def linesBelow (req : RawInvite) : List String := req.below.map RawHeader.line

/-- the datagram -/
def text (req : RawInvite) : String :=
  headerText (req.linesAbove ++ req.callIdHeader.line :: req.linesBelow) ++ "\r\n" ++ req.body

structure WellFormed (req : RawInvite) : Prop where
  uri : req.uri ≠ "" ∧ isLine req.uri = true ∧ ' ' ∉ req.uri.toList
  others : ∀ h ∈ req.above ++ req.below, h.WellFormed ∧ isCallIdName h.name = false
  name : isCallIdName req.name = true
  before : isBlank req.before = true
  after : isBlank req.after = true
  number : isWord req.number = true
  host : ∀ host ∈ req.host, isWord host = true

/-- what libosip2 reads; the number of the Call-ID is its value up to the '@' -/
structure ReadAs (req : RawInvite) (msg : OsipMessage) : Prop where
  statusCode : msg.statusCode = 0
  method : msg.method = some "INVITE"
  callId : msg.callIdNumber = some (callNumber req.callIdHeader.value)

end RawInvite

/-! ## What the main loop finds -/

/-- the line has "Call-ID: " in it -/
def mentions (line : String) : Bool := contains line "Call-ID: "

/-- what follows the first "Call-ID: ", up to a line end or an '@' -/
def callIdIn (text : List Char) : Option (List Char) :=
  (after? "Call-ID: ".toList text).map fun rest => (rest.takeWhile (· ≠ '\r')).takeWhile (· ≠ '@')

theorem extractCallId_eq (msg : String) :
    extractCallId msg = String.ofList ((callIdIn msg.toList).getD []) := by
  unfold extractCallId callIdIn
  cases after? "Call-ID: ".toList msg.toList <;> rfl

section Separated

variable {p : List Char} {c : Char} (hc : c ∉ p)
include hc

/-- a pattern does not reach over a character that it does not have -/
theorem isPrefixOf_separated (a b : List Char) : p.isPrefixOf (a ++ c :: b) = p.isPrefixOf a := by
  rw [Bool.eq_iff_iff, List.isPrefixOf_iff_prefix, List.isPrefixOf_iff_prefix]
  refine ⟨fun h => ?_, fun h => h.trans (List.prefix_append a (c :: b))⟩
  obtain ⟨t, ht⟩ := h
  rcases List.append_eq_append_iff.1 ht with ⟨a', rfl, -⟩ | ⟨q, rfl, hq⟩
  · exact List.prefix_append p a'
  · rcases List.cons_eq_append_iff.1 hq with ⟨rfl, -⟩ | ⟨q', rfl, -⟩
    · rw [List.append_nil]
    · exact absurd (List.mem_append_right a List.mem_cons_self) hc

theorem after?_separated (hp : p ≠ []) (a b : List Char) :
    after? p (a ++ c :: b) = ((after? p a).map (· ++ c :: b)).or (after? p b) := by
  induction a with
  | nil =>
    have hhead : p.isPrefixOf (c :: b) = false := by
      have hnil := isPrefixOf_separated hc [] b
      rw [List.nil_append] at hnil
      rw [hnil, Bool.eq_false_iff, Ne, List.isPrefixOf_iff_prefix, List.prefix_nil]
      exact hp
    have hnone : after? p [] = none := if_neg hp
    rw [List.nil_append, hnone, after?, hhead, if_neg Bool.false_ne_true]
    rfl
  | cons x a ih =>
    have hsame := isPrefixOf_separated hc (x :: a) b
    rw [List.cons_append] at hsame
    rw [List.cons_append, after?, hsame, after?]
    split_ifs with hpre
    · have hlength := (List.isPrefixOf_iff_prefix.1 hpre).length_le
      rw [← List.cons_append, List.drop_append_of_le_length hlength]
      rfl
    · exact ih

end Separated

theorem after?_suffix {p l rest : List Char} (h : after? p l = some rest) : rest <:+ l := by
  induction l with
  | nil =>
    unfold after? at h
    split_ifs at h
    cases h
    exact List.suffix_refl []
  | cons c cs ih =>
    unfold after? at h
    split_ifs at h with hpre
    · cases h
      exact List.drop_suffix p.length (c :: cs)
    · exact (ih h).trans (List.suffix_cons c cs)

theorem after?_prefix {p : List Char} (hp : p ≠ []) (rest : List Char) : after? p (p ++ rest) = some rest := by
  have hpre : p.isPrefixOf (p ++ rest) = true := List.isPrefixOf_iff_prefix.2 (List.prefix_append p rest)
  obtain ⟨c, cs, rfl⟩ := List.exists_cons_of_ne_nil hp
  rw [List.cons_append] at hpre ⊢
  rw [after?, if_pos hpre, ← List.cons_append, List.drop_left]

/-- a text is searched line by line -/
theorem callIdIn_lineEnd {line : List Char} (hline : '\r' ∉ line) (rest : List Char) :
    callIdIn (line ++ '\r' :: '\n' :: rest) = (callIdIn line).or (callIdIn rest) := by
  have hcr : '\r' ∉ "Call-ID: ".toList := by decide
  have hlf : '\n' ∉ "Call-ID: ".toList := by decide
  have hne : "Call-ID: ".toList ≠ [] := by decide
  have hrest : after? "Call-ID: ".toList ('\n' :: rest) = after? "Call-ID: ".toList rest := by
    have hsplit := after?_separated hlf hne [] rest
    rwa [List.nil_append] at hsplit
  unfold callIdIn
  rw [after?_separated hcr hne, hrest]
  cases hfound : after? "Call-ID: ".toList line with
  | none => rfl
  | some tail =>
    have htail : ∀ c ∈ tail, decide (c ≠ '\r') = true := by
      intro c hc
      rw [decide_eq_true_eq]
      rintro rfl
      exact hline ((after?_suffix hfound).subset hc)
    show some (((tail ++ '\r' :: '\n' :: rest).takeWhile (· ≠ '\r')).takeWhile (· ≠ '@')) =
      some ((tail.takeWhile (· ≠ '\r')).takeWhile (· ≠ '@'))
    rw [List.takeWhile_append_of_pos htail, List.takeWhile_cons_of_neg (by decide), List.append_nil,
      List.takeWhile_eq_self_iff.2 htail]

/-- **The main loop reads the first line that has "Call-ID: " in it**, or the body -/
theorem callIdIn_text {lines : List String} (hlines : ∀ line ∈ lines, '\r' ∉ line.toList) (body : String) :
    callIdIn (headerText lines ++ "\r\n" ++ body).toList =
      (lines.findSome? fun line => callIdIn line.toList).or (callIdIn body.toList) := by
  induction lines with
  | nil =>
    have htext : (headerText [] ++ "\r\n" ++ body).toList = [] ++ '\r' :: '\n' :: body.toList := by
      simp [headerText]
    rw [htext, callIdIn_lineEnd List.not_mem_nil]
    rfl
  | cons line lines ih =>
    obtain ⟨hline, hlines⟩ := List.forall_mem_cons.1 hlines
    have htext : (headerText (line :: lines) ++ "\r\n" ++ body).toList =
        line.toList ++ '\r' :: '\n' :: (headerText lines ++ "\r\n" ++ body).toList := by
      simp [headerText]
    rw [htext, callIdIn_lineEnd hline, ih hlines, List.findSome?_cons]
    cases callIdIn line.toList <;> rfl

/-! ## The Call-ID header -/

/-- two cuts at a character, one of them at its first occurrence -/
theorem cut_first {α : Type} {c : α} {a b a' b' : List α} (hc : c ∉ a') (h : a ++ c :: b = a' ++ c :: b') :
    (a = a' ∧ b = b') ∨ ∃ t, a = a' ++ c :: t ∧ b' = t ++ c :: b := by
  rcases List.append_eq_append_iff.1 h with ⟨t, rfl, ht⟩ | ⟨t, rfl, ht⟩
  · rcases List.cons_eq_append_iff.1 ht with ⟨rfl, heq⟩ | ⟨t', rfl, -⟩
    · exact Or.inl ⟨(List.append_nil a).symm, (List.cons.inj heq).2.symm⟩
    · exact absurd (List.mem_append_right a List.mem_cons_self) hc
  · rcases List.cons_eq_append_iff.1 ht with ⟨rfl, heq⟩ | ⟨t', rfl, heq⟩
    · exact Or.inl ⟨List.append_nil a', (List.cons.inj heq).2⟩
    · exact Or.inr ⟨t', rfl, heq⟩

section Header

variable {name before after value : List Char}

/-- in a header line the words end at the colon -/
theorem callId_infix (hname : ':' ∉ name) (hbefore : ∀ c ∈ before, c = ' ' ∨ c = '\t')
    (hafter : ∀ c ∈ after, c = ' ' ∨ c = '\t') (hvalue : ' ' ∉ value)
    (h : "Call-ID: ".toList <:+: name ++ before ++ ':' :: (after ++ value)) :
    before = [] ∧ "Call-ID".toList <:+ name ∧ ∃ blanks, after = ' ' :: blanks := by
  obtain ⟨f, r, hcut⟩ := h
  have hblank : ∀ c ∈ "Call-ID".toList, ¬ (c = ' ' ∨ c = '\t') :=
    List.all_iff_forall_prop.1 (by decide)
  have hcolon : ':' ∉ name ++ before := by
    rw [List.mem_append, not_or]
    exact ⟨hname, fun hmem => absurd (hbefore ':' hmem) (by decide)⟩
  have hsplit : (f ++ "Call-ID".toList) ++ ':' :: ' ' :: r = (name ++ before) ++ ':' :: (after ++ value) := by
    rw [← hcut]
    simp
  rcases cut_first hcolon hsplit with ⟨hfirst, hrest⟩ | ⟨t, -, hrest⟩
  · have hbefore_nil : before = [] ∧ "Call-ID".toList <:+ name := by
      rcases List.append_eq_append_iff.1 hfirst with ⟨t, rfl, ht⟩ | ⟨t, -, rfl⟩
      · rcases before with _ | ⟨c, cs⟩
        · rw [List.append_nil] at ht
          exact ⟨rfl, by rw [ht]; exact List.suffix_append f t⟩
        · refine absurd (hbefore c List.mem_cons_self) (hblank c ?_)
          rw [ht]
          exact List.mem_append_right t List.mem_cons_self
      · exact absurd (hbefore 'C' (List.mem_append_right t (by decide))) (by decide)
    refine ⟨hbefore_nil.1, hbefore_nil.2, ?_⟩
    rcases List.cons_eq_append_iff.1 hrest with ⟨-, rfl⟩ | ⟨blanks, rfl, -⟩
    · exact absurd List.mem_cons_self hvalue
    · exact ⟨blanks, rfl⟩
  · -- the blank behind a later colon would be in the value
    have hlater : after ++ value = (t ++ [':']) ++ ' ' :: r := by
      rw [hrest, List.append_assoc]
      rfl
    rcases List.append_eq_append_iff.1 hlater with ⟨u, -, rfl⟩ | ⟨u, rfl, -⟩
    · exact absurd (List.mem_append_right u List.mem_cons_self) hvalue
    · have hmem : ':' ∈ t ++ [':'] ++ u := List.mem_append_left u (List.mem_append_right t List.mem_cons_self)
      exact absurd (hafter ':' hmem) (by decide)

end Header

/-! ## Lines that name a call -/

/-- the words are in the text, and the number behind them is this one -/
def Announces (text number : String) : Prop :=
  ∃ tail, after? "Call-ID: ".toList text.toList = some (number.toList ++ tail) ∧ ∀ c ∈ tail.head?, c = '\r' ∨ c = '@'

/-- the first of the lines that has the words announces the number -/
def FirstAnnounces (lines : List String) (number : String) : Prop :=
  ∃ before line after, lines = before ++ line :: after ∧ (∀ l ∈ before, mentions l = false) ∧ Announces line number

theorem mentions_eq (line : String) : mentions line = (callIdIn line.toList).isSome := by
  unfold mentions contains callIdIn
  rw [Option.isSome_map]

theorem mentions_eq_false_iff (line : String) : mentions line = false ↔ callIdIn line.toList = none := by
  rw [mentions_eq, Option.isSome_eq_false_iff, Option.isNone_iff_eq_none]

/-- what is taken of the rest, if it starts with the number -/
theorem takeWhile_number_iff {number : List Char} (hnumber : ∀ c ∈ number, c ≠ '\r' ∧ c ≠ '@') (rest : List Char) :
    (rest.takeWhile (· ≠ '\r')).takeWhile (· ≠ '@') = number ↔
      ∃ tail, rest = number ++ tail ∧ ∀ c ∈ tail.head?, c = '\r' ∨ c = '@' := by
  set inside : Char → Bool := fun c => decide (decide (c ≠ '@') = true ∧ decide (c ≠ '\r') = true)
  have hboth : (rest.takeWhile (· ≠ '\r')).takeWhile (· ≠ '@') = rest.takeWhile inside := List.takeWhile_takeWhile ..
  rw [hboth]
  refine ⟨?_, ?_⟩
  · intro htake
    refine ⟨rest.dropWhile inside, ?_, ?_⟩
    · rw [← htake, List.takeWhile_append_dropWhile]
    · intro c hc
      have hhead := List.head?_dropWhile_not inside rest
      rw [hc] at hhead
      by_contra hnot
      rw [not_or] at hnot
      simp [inside, hnot] at hhead
  · rintro ⟨tail, rfl, htail⟩
    have hall : ∀ c ∈ number, inside c = true := fun c hc => by simp [inside, hnumber c hc]
    rw [List.takeWhile_append_of_pos hall]
    cases tail with
    | nil => simp
    | cons c tail =>
      have hc : ¬ inside c = true := by
        rcases htail c rfl with rfl | rfl <;> decide
      rw [List.takeWhile_cons_of_neg hc, List.append_nil]

theorem announces_iff {number : String} (hnumber : ∀ c ∈ number.toList, c ≠ '\r' ∧ c ≠ '@') (text : String) :
    Announces text number ↔ callIdIn text.toList = some number.toList := by
  unfold Announces callIdIn
  cases after? "Call-ID: ".toList text.toList with
  | none => exact iff_of_false nofun nofun
  | some rest =>
    rw [Option.map_some, Option.some_inj, takeWhile_number_iff hnumber]
    simp only [Option.some_inj]

theorem firstAnnounces_iff {number : String} (hnumber : ∀ c ∈ number.toList, c ≠ '\r' ∧ c ≠ '@')
    (lines : List String) :
    FirstAnnounces lines number ↔ (lines.findSome? fun line => callIdIn line.toList) = some number.toList := by
  unfold FirstAnnounces
  rw [List.findSome?_eq_some_iff]
  simp only [announces_iff hnumber, mentions_eq_false_iff, and_comm]

/-! ## The lines of an INVITE -/

theorem isBlank_iff (text : String) : isBlank text = true ↔ ∀ c ∈ text.toList, c = ' ' ∨ c = '\t' := by
  simp [isBlank]

theorem isLine_of_isBlank {text : String} (h : isBlank text = true) : isLine text = true :=
  isLine_of_all (by decide) (by decide) (List.all_eq_true.1 h)

/-- a header line has no line end if its parts have none -/
theorem RawHeader.notMem_line {h : RawHeader} (hname : isLine h.name = true) (hbefore : isBlank h.before = true)
    (hafter : isBlank h.after = true) (hvalue : isLine h.value = true) : '\r' ∉ h.line.toList := by
  have hfront : isLine (h.name ++ h.before ++ ":") = true :=
    isLine_append.2 ⟨isLine_append.2 ⟨hname, isLine_of_isBlank hbefore⟩, by decide⟩
  exact isLine_notMem (isLine_append.2 ⟨isLine_append.2 ⟨hfront, isLine_of_isBlank hafter⟩, hvalue⟩)

theorem RawHeader.WellFormed.line_spec {h : RawHeader} (hwell : h.WellFormed) : '\r' ∉ h.line.toList := by
  obtain ⟨hname, hbefore, hafter, hvalue⟩ := hwell
  exact notMem_line (isLine_of_isToken hname) hbefore hafter hvalue

/-- the characters of a word are none of these -/
theorem isWord_notMem {text : String} (h : isWord text = true) :
    ∀ c ∈ [' ', '\t', '\r', '\n', '@'], c ∉ text.toList := by
  intro c hc hmem
  have hnot : ∀ c ∈ [' ', '\t', '\r', '\n', '@'], ¬ isWordChar c = true :=
    List.all_iff_forall_prop.1 (by decide)
  exact hnot c hc (List.all_eq_true.1 (Bool.and_eq_true_iff.1 h).2 c hmem)

theorem isLine_of_isWord {text : String} (h : isWord text = true) : isLine text = true :=
  isLine_iff.2 ⟨isWord_notMem h '\r' (by simp), isWord_notMem h '\n' (by simp)⟩

namespace RawInvite

variable {req : RawInvite}

theorem WellFormed.number_spec (h : req.WellFormed) : ∀ c ∈ req.number.toList, c ≠ '\r' ∧ c ≠ '@' := by
  intro c hc
  refine ⟨?_, ?_⟩
  · rintro rfl
    exact isWord_notMem h.number '\r' (by simp) hc
  · rintro rfl
    exact isWord_notMem h.number '@' (by simp) hc

theorem WellFormed.number_ne (h : req.WellFormed) : req.number.toList ≠ [] := by
  have hne := (Bool.and_eq_true_iff.1 h.number).1
  intro hnil
  rw [String.toList_eq_nil_iff.1 hnil] at hne
  exact absurd hne (by decide)

/-- the value of the Call-ID up to its '@' -/
theorem WellFormed.callNumber_value (h : req.WellFormed) : callNumber req.callIdHeader.value = req.number := by
  have hnumber : ∀ c ∈ req.number.toList, decide (c ≠ '@') = true := fun c hc => by simp [h.number_spec c hc]
  rw [callNumber, ← String.toList_inj, String.toList_ofList]
  show (req.number ++ Response.param "@" req.host).toList.takeWhile (· ≠ '@') = req.number.toList
  cases req.host with
  | none =>
    have hempty : (req.number ++ Response.param "@" none).toList = req.number.toList ++ [] := by simp [Response.param]
    rw [hempty, List.takeWhile_append_of_pos hnumber]
    simp
  | some host =>
    have hat : (req.number ++ Response.param "@" (some host)).toList = req.number.toList ++ '@' :: host.toList := by
      simp [Response.param]
    rw [hat, List.takeWhile_append_of_pos hnumber]
    simp

theorem WellFormed.isLine_value (h : req.WellFormed) : isLine req.callIdHeader.value = true :=
  have hhost : isLine (Response.param "@" req.host) = true :=
    isLine_param (by decide) fun host hhost => isLine_of_isWord (h.host host hhost)
  isLine_append.2 ⟨isLine_of_isWord h.number, hhost⟩

theorem WellFormed.blank_notMem_value (h : req.WellFormed) : ' ' ∉ req.callIdHeader.value.toList := by
  have hvalue : req.callIdHeader.value = req.number ++ Response.param "@" req.host := rfl
  rw [hvalue, String.toList_append, List.mem_append, not_or]
  refine ⟨isWord_notMem h.number ' ' (by simp), ?_⟩
  cases hhost : req.host with
  | none => decide
  | some host =>
    rw [Response.param, String.toList_append, List.mem_append, not_or]
    exact ⟨by decide, isWord_notMem (h.host host hhost) ' ' (by simp)⟩

theorem WellFormed.lowerCase_name (h : req.WellFormed) :
    lowerCase req.name = lowerCase "Call-ID" ∨ lowerCase req.name = ['i'] := by
  simpa [isCallIdName] using h.name

/-- the name has neither a colon nor a line end -/
theorem WellFormed.name_notMem (h : req.WellFormed) : ∀ c ∈ [':', '\r', '\n'], c ∉ req.name.toList := by
  intro c hc hmem
  have hsame : ∀ c ∈ [':', '\r', '\n'], c.toLower = c :=
    List.all_iff_forall_prop.1 (by decide)
  have hnot : ∀ c ∈ [':', '\r', '\n'], c ∉ lowerCase "Call-ID" ∧ c ∉ ['i'] :=
    List.all_iff_forall_prop.1 (by decide)
  have hlower : c ∈ lowerCase req.name := List.mem_map.2 ⟨c, hmem, hsame c hc⟩
  rcases h.lowerCase_name with heq | heq
  · rw [heq] at hlower
    exact (hnot c hc).1 hlower
  · rw [heq] at hlower
    exact (hnot c hc).2 hlower

/-- the name is as long as the full one or the compact one -/
theorem WellFormed.length_name (h : req.WellFormed) : req.name.toList.length = 7 ∨ req.name.toList.length = 1 := by
  rcases h.lowerCase_name with heq | heq
  · have hlength := congrArg List.length heq
    rw [lowerCase, List.length_map] at hlength
    exact Or.inl hlength
  · have hlength := congrArg List.length heq
    rw [lowerCase, List.length_map] at hlength
    exact Or.inr hlength

theorem WellFormed.isLine_name (h : req.WellFormed) : isLine req.name = true :=
  isLine_iff.2 ⟨h.name_notMem '\r' (by simp), h.name_notMem '\n' (by simp)⟩

/-- the header has the full name in its usual case, the colon and a blank -/
def Named (req : RawInvite) : Prop :=
  req.name = "Call-ID" ∧ req.before = "" ∧ ∃ blanks, req.after.toList = ' ' :: blanks

/-- the header is spelled as the main loop looks for it -/
def Spelled (req : RawInvite) : Prop := req.name = "Call-ID" ∧ req.before = "" ∧ req.after = " "

theorem toList_callIdHeader (req : RawInvite) : req.callIdHeader.line.toList =
    req.name.toList ++ req.before.toList ++ ':' :: (req.after.toList ++ req.callIdHeader.value.toList) := by
  simp [RawHeader.line, callIdHeader]

theorem WellFormed.named_of_mentions (h : req.WellFormed) (hmentions : mentions req.callIdHeader.line = true) :
    req.Named := by
  have hinfix := (contains_iff req.callIdHeader.line "Call-ID: ").1 hmentions
  rw [toList_callIdHeader] at hinfix
  obtain ⟨hbefore, hsuffix, hafter⟩ := callId_infix (h.name_notMem ':' (by simp)) ((isBlank_iff req.before).1 h.before)
    ((isBlank_iff req.after).1 h.after) h.blank_notMem_value hinfix
  have hle := hsuffix.length_le
  have hseven : req.name.toList.length = "Call-ID".toList.length := by
    rcases h.length_name with hlength | hlength
    · exact hlength
    · rw [hlength] at hle
      exact absurd hle (by decide)
  exact ⟨(String.toList_inj.1 (hsuffix.eq_of_length hseven.symm)).symm, String.toList_eq_nil_iff.1 hbefore, hafter⟩

/-- what the main loop reads in a header that has the words -/
theorem callIdIn_named (hnamed : req.Named) {blanks : List Char} (hafter : req.after.toList = ' ' :: blanks) :
    callIdIn req.callIdHeader.line.toList =
      some (((blanks ++ req.callIdHeader.value.toList).takeWhile (· ≠ '\r')).takeWhile (· ≠ '@')) := by
  obtain ⟨hname, hbefore, -⟩ := hnamed
  have hline : req.callIdHeader.line.toList =
      "Call-ID: ".toList ++ (blanks ++ req.callIdHeader.value.toList) := by
    rw [toList_callIdHeader, hname, hbefore, hafter]
    rfl
  rw [hline, callIdIn, after?_prefix (by decide)]
  rfl

/-- the number is read where one blank follows the colon -/
theorem WellFormed.callIdIn_header_iff (h : req.WellFormed) (hnamed : req.Named) :
    callIdIn req.callIdHeader.line.toList = some req.number.toList ↔ req.Spelled := by
  have hvalue : req.callIdHeader.value.toList = req.number.toList ++ (Response.param "@" req.host).toList :=
    String.toList_append ..
  obtain ⟨hname, hbefore, blanks, hafter⟩ := id hnamed
  rw [callIdIn_named hnamed hafter, Option.some_inj, takeWhile_number_iff h.number_spec]
  refine ⟨?_, ?_⟩
  · rintro ⟨tail, hrest, -⟩
    refine ⟨hname, hbefore, ?_⟩
    rcases blanks with _ | ⟨c, blanks⟩
    · rw [← String.toList_inj, hafter]
      rfl
    · -- a further blank would be the start of the number
      obtain ⟨d, number, hnumber⟩ := List.exists_cons_of_ne_nil h.number_ne
      rw [hnumber] at hrest
      have hfirst : c = d := (List.cons.inj hrest).1
      have hmem : c ∈ req.number.toList := by
        rw [hnumber, hfirst]
        exact List.mem_cons_self
      have hblank : c = ' ' ∨ c = '\t' := by
        apply (isBlank_iff req.after).1 h.after
        rw [hafter]
        exact List.mem_cons_of_mem _ List.mem_cons_self
      rcases hblank with rfl | rfl
      · exact absurd hmem (isWord_notMem h.number ' ' (by simp))
      · exact absurd hmem (isWord_notMem h.number '\t' (by simp))
  · rintro ⟨-, -, hspelled⟩
    have hnil : blanks = [] := by
      rw [hspelled] at hafter
      exact (List.cons.inj hafter).2.symm
    refine ⟨(Response.param "@" req.host).toList, by rw [hnil, hvalue]; rfl, ?_⟩
    cases req.host with
    | none => exact nofun
    | some host =>
      intro c hc
      rw [Response.param, String.toList_append] at hc
      cases hc
      exact Or.inr rfl

theorem spelled_named (h : req.Spelled) : req.Named := ⟨h.1, h.2.1, [], by rw [h.2.2]; rfl⟩

/-! ## Both ways -/

/-- no line above the header has the words and the header is spelled so, or another line has them first and names the
call all the same -/
def CallIdFound (req : RawInvite) : Prop :=
  FirstAnnounces req.linesAbove req.number ∨
    ((∀ line ∈ req.linesAbove, mentions line = false) ∧ req.Spelled) ∨
    ((∀ line ∈ req.linesAbove, mentions line = false) ∧ mentions req.callIdHeader.line = false ∧
      FirstAnnounces (req.linesBelow ++ [req.body]) req.number)

theorem WellFormed.lines_spec (h : req.WellFormed) :
    ∀ line ∈ req.linesAbove ++ req.callIdHeader.line :: req.linesBelow, '\r' ∉ line.toList := by
  have hstart : isLine req.startLine = true :=
    isLine_append.2 ⟨isLine_append.2 ⟨by decide, h.uri.2.1⟩, by decide⟩
  have hcallId : '\r' ∉ req.callIdHeader.line.toList :=
    RawHeader.notMem_line h.isLine_name h.before h.after h.isLine_value
  intro line hline
  rcases List.mem_append.1 hline with habove | hline
  · rcases List.mem_cons.1 habove with rfl | habove
    · exact isLine_notMem hstart
    · obtain ⟨header, hmem, rfl⟩ := List.mem_map.1 habove
      exact (h.others header (List.mem_append_left _ hmem)).1.line_spec
  · rcases List.mem_cons.1 hline with rfl | hbelow
    · exact hcallId
    · obtain ⟨header, hmem, rfl⟩ := List.mem_map.1 hbelow
      exact (h.others header (List.mem_append_right _ hmem)).1.line_spec

theorem findSome?_eq_none_iff (lines : List String) :
    (lines.findSome? fun line => callIdIn line.toList) = none ↔ ∀ line ∈ lines, mentions line = false := by
  rw [List.findSome?_eq_none_iff]
  exact forall₂_congr fun line _ => (mentions_eq_false_iff line).symm

theorem WellFormed.callIdIn_text (h : req.WellFormed) : callIdIn req.text.toList =
    (req.linesAbove.findSome? fun line => callIdIn line.toList).or
      ((callIdIn req.callIdHeader.line.toList).or
        ((req.linesBelow ++ [req.body]).findSome? fun line => callIdIn line.toList)) := by
  have hcons : ∀ (line : String) (lines : List String), ((line :: lines).findSome? fun line => callIdIn line.toList) =
      (callIdIn line.toList).or (lines.findSome? fun line => callIdIn line.toList) := by
    intro line lines
    rw [List.findSome?_cons]
    cases callIdIn line.toList <;> rfl
  calc callIdIn req.text.toList
      = ((req.linesAbove ++ req.callIdHeader.line :: req.linesBelow).findSome? fun line => callIdIn line.toList).or
          (callIdIn req.body.toList) := MainLoop.callIdIn_text h.lines_spec req.body
    _ = (req.linesAbove.findSome? fun line => callIdIn line.toList).or ((callIdIn req.callIdHeader.line.toList).or
          ((req.linesBelow.findSome? fun line => callIdIn line.toList).or (callIdIn req.body.toList))) := by
      rw [List.findSome?_append, hcons, Option.or_assoc, Option.or_assoc]
    _ = _ := by
      rw [List.findSome?_append, hcons, List.findSome?_nil, Option.or_none]

/-- **The main loop reads the number of the Call-ID** exactly when it is found -/
theorem WellFormed.callIdFound_iff (h : req.WellFormed) :
    callIdIn req.text.toList = some req.number.toList ↔ req.CallIdFound := by
  have hnone := findSome?_eq_none_iff req.linesAbove
  rw [h.callIdIn_text, CallIdFound, firstAnnounces_iff h.number_spec, firstAnnounces_iff h.number_spec, ← hnone]
  cases req.linesAbove.findSome? fun line => callIdIn line.toList with
  | some number =>
    rw [Option.some_or]
    refine ⟨?_, ?_⟩
    · exact Or.inl
    · rintro (hfirst | ⟨habs, -⟩ | ⟨habs, -⟩)
      · exact hfirst
      · cases habs
      · cases habs
  | none =>
    rw [Option.none_or, mentions_eq_false_iff]
    cases hheader : callIdIn req.callIdHeader.line.toList with
    | some number =>
      have hnamed : req.Named := h.named_of_mentions (by rw [mentions_eq, hheader]; rfl)
      have hspelled := h.callIdIn_header_iff hnamed
      rw [hheader] at hspelled
      rw [Option.some_or, hspelled]
      refine ⟨?_, ?_⟩
      · exact fun hspelled => Or.inr (Or.inl ⟨rfl, hspelled⟩)
      · rintro (habs | ⟨-, hspelled⟩ | ⟨-, habs, -⟩)
        · cases habs
        · exact hspelled
        · cases habs
    | none =>
      have hnot : ¬ req.Spelled := by
        intro hspelled
        have hsome := (h.callIdIn_header_iff (spelled_named hspelled)).2 hspelled
        rw [hheader] at hsome
        cases hsome
      rw [Option.none_or]
      refine ⟨?_, ?_⟩
      · exact fun hbelow => Or.inr (Or.inr ⟨rfl, rfl, hbelow⟩)
      · rintro (habs | ⟨-, hspelled⟩ | ⟨-, -, hbelow⟩)
        · cases habs
        · exact absurd hspelled hnot
        · exact hbelow

/-- where no other line has the words, the spelling decides -/
theorem WellFormed.callIdFound_iff_spelled (h : req.WellFormed)
    (hothers : ∀ line ∈ req.linesAbove ++ (req.linesBelow ++ [req.body]), mentions line = false) :
    req.CallIdFound ↔ req.Spelled := by
  obtain ⟨habove, hbelow⟩ := List.forall_mem_append.1 hothers
  rw [CallIdFound, firstAnnounces_iff h.number_spec, firstAnnounces_iff h.number_spec,
    (findSome?_eq_none_iff req.linesAbove).2 habove, (findSome?_eq_none_iff _).2 hbelow]
  refine ⟨?_, ?_⟩
  · rintro (habs | ⟨-, hspelled⟩ | ⟨-, -, habs⟩)
    · cases habs
    · exact hspelled
    · cases habs
  · exact fun hspelled => Or.inr (Or.inl ⟨habove, hspelled⟩)

end RawInvite

/-! ## The call of an INVITE -/

variable (E : SessionEnv)

/-- the main loop has the Call-ID under which the call is stored: the call is there, its SDP is handed on for it, and
the 200 has its answer -/
structure Addresses (req : RawInvite) (msg : OsipMessage) : Prop where
  callId : extractCallId req.text = messageCallId msg
  stored : ∀ mem now s, ((processIncomingMessage E.toSipEnv (callbacks E) req.text mem now s).1.calls.lookup
    (extractCallId req.text)).isSome
  sdp : ∀ body, sdpBody req.text = some body → sdpRequest req.text = some (messageCallId msg, body)
  answer : ∀ s, let (ringing, m) := buildInviteResponse E.toSipEnv 180 "Ringing" "" s.1
    let (ok, m) := buildInviteResponse E.toSipEnv 200 "OK" (buildSdpAnswer m (messageCallId msg)) m
    answerInvite E req.text s = ((m, s.2), [ringing, ok])

variable {E}

theorem RawInvite.contains_invite (req : RawInvite) : contains req.text "INVITE" = true := by
  have hstart : req.text = "INVITE" ++ (" " ++ req.uri ++ " SIP/2.0" ++ "\r\n" ++
      headerText (req.above.map RawHeader.line ++ req.callIdHeader.line :: req.linesBelow) ++ "\r\n" ++ req.body) := by
    have hmethod : "INVITE " = "INVITE" ++ " " := by decide
    simp only [RawInvite.text, RawInvite.linesAbove, RawInvite.startLine, List.cons_append, headerText, hmethod,
      String.append_assoc]
  rw [hstart]
  exact contains_of_starts (by decide) _

/-- **The main loop addresses the call of an INVITE** exactly when it finds the Call-ID -/
theorem call_addressed_iff (E : SessionEnv) (req : RawInvite) (hwell : req.WellFormed) (msg : OsipMessage)
    (hparse : E.parse req.text = some msg) (hread : req.ReadAs msg) : Addresses E req msg ↔ req.CallIdFound := by
  have hid : messageCallId msg = req.number := by
    rw [messageCallId, hread.callId, hwell.callNumber_value]
    rfl
  have hne : ¬ req.number.isEmpty = true := by
    rw [String.isEmpty_iff, ← String.toList_eq_nil_iff]
    exact hwell.number_ne
  have hextract : extractCallId req.text = messageCallId msg ↔ callIdIn req.text.toList = some req.number.toList := by
    rw [hid, extractCallId_eq, ← String.toList_inj, String.toList_ofList]
    cases callIdIn req.text.toList with
    | none => exact iff_of_false (fun habs => hwell.number_ne habs.symm) (Option.some_ne_none _).symm
    | some number => rw [Option.getD_some, Option.some_inj]
  rw [← hwell.callIdFound_iff, ← hextract]
  refine ⟨fun h => h.callId, fun hcallId => ⟨hcallId, ?_, ?_, ?_⟩⟩
  · intro mem now s
    rw [hcallId, incoming_invite _ _ hparse ⟨hread.statusCode, hread.method⟩]
    refine (known_handleInvite msg mem now s).resolve_left ?_
    rwa [hid]
  · intro body hbody
    rw [sdpRequest, if_pos req.contains_invite, hbody]
    simp only [hcallId, hid, if_neg hne]
  · intro s
    rw [answerInvite, if_pos req.contains_invite, hcallId]
    rfl

/-- an INVITE with all headers it has to have, and the name of the Call-ID header as given -/
def inviteNamed (name : String) : RawInvite where
  uri := "sip:rtcom@127.0.0.1"
  above := [⟨"Via", "", " ", "SIP/2.0/UDP 127.0.0.1:5091;branch=z9hG4bKa"⟩, ⟨"Max-Forwards", "", " ", "70"⟩,
    ⟨"From", "", " ", "<sip:remote@example.com>;tag=1"⟩, ⟨"To", "", " ", "<sip:rtcom@127.0.0.1>"⟩]
  name := name
  before := ""
  after := " "
  number := "1-153349"
  host := some "127.0.0.1"
  below := [⟨"CSeq", "", " ", "1 INVITE"⟩, ⟨"Contact", "", " ", "<sip:remote@127.0.0.1:5091>"⟩,
    ⟨"Content-Length", "", " ", "0"⟩]
  body := ""

theorem wellFormed_inviteNamed {name : String} (hname : isCallIdName name = true) : (inviteNamed name).WellFormed where
  uri := by
    show (inviteNamed "").uri ≠ "" ∧ isLine (inviteNamed "").uri = true ∧ ' ' ∉ (inviteNamed "").uri.toList
    decide +kernel
  others := by
    show ∀ h ∈ (inviteNamed "").above ++ (inviteNamed "").below, h.WellFormed ∧ isCallIdName h.name = false
    decide +kernel
  name := hname
  before := rfl
  after := (by decide : isBlank " " = true)
  number := (by decide +kernel : isWord "1-153349" = true)
  host := by
    rintro host ⟨⟩
    decide +kernel

def namedMessage : OsipMessage :=
  ⟨0, some "INVITE", some "1-153349", some "z9hG4bKa", some "1", some (some "remote", some "example.com"),
    some (some "1", some "INVITE")⟩

theorem readAs_inviteNamed {name : String} (hname : isCallIdName name = true) :
    (inviteNamed name).ReadAs namedMessage where
  statusCode := rfl
  method := rfl
  callId := by
    rw [(wellFormed_inviteNamed hname).callNumber_value]
    rfl

/-- the INVITE with the name given is read -/
def namedEnv (name : String) : SessionEnv := .constant "0" [⟨(inviteNamed name).text, namedMessage⟩]

theorem parse_inviteNamed (name : String) : (namedEnv name).parse (inviteNamed name).text = some namedMessage :=
  SessionEnv.parse_constant "0" ⟨(inviteNamed name).text, namedMessage⟩ []

/-- the usual name -/
theorem call_addressed_iff_usual : Addresses (namedEnv "Call-ID") (inviteNamed "Call-ID") namedMessage ↔
    (inviteNamed "Call-ID").CallIdFound :=
  call_addressed_iff (namedEnv "Call-ID") (inviteNamed "Call-ID") (wellFormed_inviteNamed (by decide)) namedMessage
    (parse_inviteNamed _) (readAs_inviteNamed (by decide))

/-- **The compact form of the Call-ID is not found** -/
theorem compact_call_id_missed : ¬ ∀ (E : SessionEnv) (req : RawInvite) (msg : OsipMessage), req.WellFormed →
    E.parse req.text = some msg → req.ReadAs msg → Addresses E req msg := by
  intro h
  have haddresses := h (namedEnv "i") (inviteNamed "i") namedMessage (wellFormed_inviteNamed (by decide))
    (parse_inviteNamed _) (readAs_inviteNamed (by decide))
  have hnothing : extractCallId (inviteNamed "i").text = "" := by
    rw [extractCallId_eq, (wellFormed_inviteNamed (by decide)).callIdIn_text]
    decide +kernel
  have hcallId := haddresses.callId
  rw [hnothing] at hcallId
  exact absurd hcallId (by decide)

end MainLoop

end Rtcom
