/-
`SdpBuilder` of `src/common/sdp.{h,cpp}`: `Parse`, `BuildOffer` and `BuildAnswer`. A `std::string` is a `String` with
one character for each byte.

`IStream` is an `std::istringstream` as far as `Parse` uses it: what is left to read and the fail bit. Extraction
skips white space, does nothing once the fail bit is set, and sets it where there is no token or no number in range;
an unsigned number may carry a minus sign and is then negated modulo 2^16.
-/
import Mathlib.Tactic
import Rtcom.Common.Types

namespace Rtcom

/-! ## Input streams -/

structure IStream where
  rest : List Char
  fail : Bool
deriving DecidableEq, Repr

namespace IStream

def ofString (s : String) : IStream := ⟨s.toList, false⟩

/-- `isspace` in the classic locale -/
def isSpace (c : Char) : Bool :=
  c == ' ' || c == '\t' || c == '\n' || c == '\r' || c.toNat == 11 || c.toNat == 12

def skipWs (s : IStream) : IStream := { s with rest := s.rest.dropWhile isSpace }

/-- `>>` into a string that holds old -/
def readString (s : IStream) (old : String) : String × IStream :=
  if s.fail then (old, s) else
  let s := s.skipWs
  if s.rest = [] then (old, { s with fail := true })
  else
    (String.ofList (s.rest.takeWhile fun c => !isSpace c),
      { s with rest := s.rest.dropWhile fun c => !isSpace c })

/-- the number a list of decimal digits denotes -/
def digitsValue (ds : List Char) : ℕ := ds.foldl (fun n c => n * 10 + (c.toNat - 48)) 0

/-- sign (true for minus), digits and the remaining characters -/
def takeNumber (cs : List Char) : Bool × List Char × List Char :=
  match cs with
  | '-' :: cs => (true, cs.takeWhile Char.isDigit, cs.dropWhile Char.isDigit)
  | '+' :: cs => (false, cs.takeWhile Char.isDigit, cs.dropWhile Char.isDigit)
  | cs => (false, cs.takeWhile Char.isDigit, cs.dropWhile Char.isDigit)

/-- `>>` into a `uint16_t` that holds old: 0 where there is no number, 65535 where it is too large -/
def readUInt16 (s : IStream) (old : UInt16) : UInt16 × IStream :=
  if s.fail then (old, s) else
  let s := s.skipWs
  if s.rest = [] then (old, { s with fail := true })
  else
    let (neg, ds, rest) := takeNumber s.rest
    if ds = [] then (0, ⟨rest, true⟩)
    else if digitsValue ds > 65535 then (65535, ⟨rest, true⟩)
    else (if neg then -UInt16.ofNat (digitsValue ds) else UInt16.ofNat (digitsValue ds), ⟨rest, false⟩)

/-- `>>` into an `int`; the value stored on failure is never used -/
def readInt (s : IStream) : ℤ × IStream :=
  if s.fail then (0, s) else
  let s := s.skipWs
  if s.rest = [] then (0, { s with fail := true })
  else
    let (neg, ds, rest) := takeNumber s.rest
    let value : ℤ := if neg then -digitsValue ds else digitsValue ds
    if ds = [] ∨ value > 2147483647 ∨ value < -2147483648 then (0, ⟨rest, true⟩) else (value, ⟨rest, false⟩)

/-- `while (ls >> fmt) push_back(fmt)`; every number read is at least one character long -/
def readInts (s : IStream) : ℕ → List ℤ
  | 0 => []
  | n + 1 =>
    let (v, s) := s.readInt
    if s.fail then [] else v :: readInts s n

end IStream

/-- `std::getline` until it fails: the parts between line feeds, the last one only if it is not empty -/
def getlines (text : String) : List String :=
  let parts := text.toList.splitOn '\n'
  (if parts.getLast? = some [] then parts.dropLast else parts).map String.ofList

/-! ## Sessions -/

structure SdpMedia where
  type : String
  port : UInt16
  protocol : String
  formats : List ℤ
  rtpmap : String
deriving DecidableEq, Repr

def SdpMedia.new : SdpMedia := ⟨"", 0, "", [], ""⟩

structure SdpSession where
  connAddr : String
  media : List SdpMedia
deriving DecidableEq, Repr

namespace SdpSession

def new : SdpSession := ⟨"", []⟩

def findAudio (s : SdpSession) : Option SdpMedia := s.media.find? fun m => m.type == "audio"

def findVideo (s : SdpSession) : Option SdpMedia := s.media.find? fun m => m.type == "video"

end SdpSession

/-! ## Parse and build -/

namespace SdpBuilder

/-- the line without its prefix, if it has it -/
def stripPrefix? (line pre : String) : Option String :=
  if pre.toList.isPrefixOf line.toList then some (String.ofList (line.toList.drop pre.length)) else none

/-- `Parse`, a `c=` line -/
def parseConn (out : SdpSession) (value : String) : SdpSession :=
  let ls := IStream.ofString value
  let (_, ls) := ls.readString ""
  let (_, ls) := ls.readString ""
  let (addr, _) := ls.readString ""
  if addr ≠ "" then { out with connAddr := addr } else out

/-- `Parse`, an `m=` line -/
def parseMedia (value : String) : SdpMedia :=
  let ls := IStream.ofString value
  let (type, ls) := ls.readString ""
  let (port, ls) := ls.readUInt16 0
  let (protocol, ls) := ls.readString ""
  { SdpMedia.new with type := type, port := port, protocol := protocol, formats := ls.readInts ls.rest.length }

/-- the session under construction, and whether `cur_media` points to its last media section -/
structure ParseState where
  out : SdpSession
  curMedia : Bool
deriving DecidableEq, Repr

/-- `Parse`, an `a=rtpmap:` line -/
def parseRtpmap (st : ParseState) (line : String) : ParseState :=
  match st.out.media.getLast? with
  | some cur =>
    let cur := { cur with rtpmap := String.ofList (line.toList.drop 2) }
    if st.curMedia then { st with out := { st.out with media := st.out.media.dropLast ++ [cur] } } else st
  | none => st

/-- `Parse`, one line -/
def parseLine (st : ParseState) (line : String) : ParseState :=
  let line := if line.toList.getLast? = some '\r' then String.ofList line.toList.dropLast else line
  if line = "" then st else
  match stripPrefix? line "c=" with
  | some value => { st with out := parseConn st.out value }
  | none =>
    match stripPrefix? line "m=" with
    | some value => { out := { st.out with media := st.out.media ++ [parseMedia value] }, curMedia := true }
    | none =>
      match stripPrefix? line "a=rtpmap:" with
      | some _ => parseRtpmap st line
      | none => st

def parse (sdpText : String) (out : SdpSession) : Bool × SdpSession :=
  let st := (getlines sdpText).foldl parseLine ⟨out, false⟩
  (!st.out.media.isEmpty, st.out)

def buildOffer (localIp : String) (audioPort videoPort : UInt16) (audioPt videoPt : ℤ) : String :=
  "v=0\r\n" ++
  "o=rtcom 1 1 IN IP4 " ++ localIp ++ "\r\n" ++
  "s=rtcom\r\n" ++
  "c=IN IP4 " ++ localIp ++ "\r\n" ++
  "t=0 0\r\n" ++
  "m=audio " ++ toString audioPort ++ " RTP/AVP " ++ toString audioPt ++ "\r\n" ++
  "a=rtpmap:" ++ toString audioPt ++ " AAC/44100/1\r\n" ++
  "m=video " ++ toString videoPort ++ " RTP/AVP " ++ toString videoPt ++ "\r\n" ++
  "a=rtpmap:" ++ toString videoPt ++ " H264/90000\r\n"

/-- the text of `BuildAnswer` is that of `BuildOffer` -/
def buildAnswer (localIp : String) (audioPort videoPort : UInt16) (audioPt videoPt : ℤ) : String :=
  buildOffer localIp audioPort videoPort audioPt videoPt

/-! ## Offers in a text -/

/-- the text ends with an offer of these ports -/
def Offers (text localIp : String) (audioPort videoPort : UInt16) : Prop :=
  ∃ head, text = head ++ buildOffer localIp audioPort videoPort 96 97

/-- where the last of a character stands, a list is cut in one way -/
theorem append_cons_inj {α : Type} {a : α} {xs xs' ys ys' : List α} (hys : a ∉ ys) (hys' : a ∉ ys')
    (h : xs ++ a :: ys = xs' ++ a :: ys') : xs = xs' ∧ ys = ys' := by
  rcases List.append_eq_append_iff.1 h with ⟨zs, rfl, hzs⟩ | ⟨zs, rfl, hzs⟩
  · cases zs with
    | nil =>
      obtain ⟨-, rfl⟩ := List.cons.inj hzs
      exact ⟨(List.append_nil _).symm, rfl⟩
    | cons z zs =>
      obtain ⟨-, rfl⟩ := List.cons.inj hzs
      exact absurd (List.mem_append_right zs List.mem_cons_self) hys
  · cases zs with
    | nil =>
      obtain ⟨-, rfl⟩ := List.cons.inj hzs
      exact ⟨List.append_nil _, rfl⟩
    | cons z zs =>
      obtain ⟨-, rfl⟩ := List.cons.inj hzs
      exact absurd (List.mem_append_right zs List.mem_cons_self) hys'

theorem space_notMem_toString (port : UInt16) : ' ' ∉ (toString port).toList := by
  intro hmem
  have hdigits : (toString port).toList = Nat.toDigits 10 port.toNat := Nat.toList_repr
  rw [hdigits] at hmem
  exact absurd (Nat.isDigit_of_mem_toDigits (by decide) (by decide) hmem) (by decide)

theorem toString_port_inj {p q : UInt16} (h : (toString p).toList = (toString q).toList) : p = q := by
  have hdigits : Nat.toDigits 10 p.toNat = Nat.toDigits 10 q.toNat := by
    rw [← Nat.toList_repr, ← Nat.toList_repr]
    exact h
  have hnat : p.toNat = q.toNat := by
    rw [← Nat.ofDigitChars_ten_toDigits (n := p.toNat), hdigits, Nat.ofDigitChars_ten_toDigits]
  exact UInt16.toNat_inj.1 hnat

/-- an offer, cut at its ports -/
theorem toList_buildOffer (localIp : String) : ∃ start middle rest : List Char, ∀ p q : UInt16,
    (buildOffer localIp p q 96 97).toList =
      start ++ ' ' :: (toString p).toList ++ (middle ++ ' ' :: (toString q).toList) ++ rest := by
  have haudio : "m=audio ".toList = "m=audio".toList ++ [' '] := by decide
  have hvideo : "m=video ".toList = "m=video".toList ++ [' '] := by decide
  unfold buildOffer
  generalize toString (96 : ℤ) = audioPt, toString (97 : ℤ) = videoPt
  refine ⟨("v=0\r\n" ++ "o=rtcom 1 1 IN IP4 " ++ localIp ++ "\r\n" ++ "s=rtcom\r\n" ++ "c=IN IP4 " ++ localIp ++
      "\r\n" ++ "t=0 0\r\n" ++ "m=audio").toList,
    (" RTP/AVP " ++ audioPt ++ "\r\n" ++ "a=rtpmap:" ++ audioPt ++ " AAC/44100/1\r\n" ++ "m=video").toList,
    (" RTP/AVP " ++ videoPt ++ "\r\n" ++ "a=rtpmap:" ++ videoPt ++ " H264/90000\r\n").toList, fun p q => ?_⟩
  simp only [String.toList_append, haudio, hvideo, List.append_assoc, List.cons_append, List.nil_append]

/-- **A text offers one pair of ports** -/
theorem Offers.unique {text localIp : String} {p q p' q' : UInt16} (h : Offers text localIp p q)
    (h' : Offers text localIp p' q') : p = p' ∧ q = q' := by
  obtain ⟨head, rfl⟩ := h
  obtain ⟨head', heq⟩ := h'
  obtain ⟨start, middle, rest, hcut⟩ := toList_buildOffer localIp
  have hlist := congrArg String.toList heq
  rw [String.toList_append, String.toList_append, hcut, hcut] at hlist
  simp only [← List.append_assoc] at hlist
  -- from the end: the video port, then the audio port
  have hvideo := List.append_cancel_right hlist
  obtain ⟨haudio, hq⟩ := append_cons_inj (space_notMem_toString q) (space_notMem_toString q') hvideo
  obtain ⟨-, hp⟩ := append_cons_inj (space_notMem_toString p) (space_notMem_toString p')
    (List.append_cancel_right haudio)
  exact ⟨toString_port_inj hp, toString_port_inj hq⟩

end SdpBuilder

end Rtcom
