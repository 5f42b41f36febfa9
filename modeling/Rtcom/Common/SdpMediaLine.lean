/-
What `SdpBuilder::Parse` records of a media line `m=<media> <port> <proto> <fmt> ...`, where the port may be a
`<port>/<count>`.

- `parseMedia_line`: the stream operators read the line in its order. A count is left behind the port, where the
  protocol is read, and the formats are read up to the first that is no `int`.
- `recorded_iff`: so a line is recorded as it is written exactly where it has no count and all formats are in range.
-/
import Mathlib.Tactic
import Mathlib.Data.List.TakeWhile
import Rtcom.Common.SdpText

namespace Rtcom

namespace IStream

/-! ## Numbers in a list -/

/-- decimal digits are an `int`, or the extraction fails -/
theorem readInt_digits (ws : List Char) {ds rest : List Char} (hws : ∀ c ∈ ws, isSpace c = true) (hne : ds ≠ [])
    (hds : ∀ c ∈ ds, c.isDigit = true) (hrest : ∀ c ∈ rest.head?, c.isDigit = false) :
    readInt ⟨ws ++ (ds ++ rest), false⟩ =
      if digitsValue ds ≤ 2147483647 then ((digitsValue ds : ℤ), ⟨rest, false⟩) else (0, ⟨rest, true⟩) := by
  have hspace : ∀ c ∈ ds, isSpace c = false := fun c hc => isSpace_of_isDigit (hds c hc)
  rw [readInt, if_neg Bool.false_ne_true, skipWs_token hws hne hspace]
  simp only [List.append_eq_nil_iff, hne, false_and, if_false, takeNumber_digits hne hds hrest, Bool.false_eq_true,
    false_or]
  by_cases hmax : digitsValue ds ≤ 2147483647
  · rw [if_pos hmax, if_neg (by omega)]
  · rw [if_neg hmax, if_pos (by omega)]

end IStream

namespace SdpBuilder

/-! ## Media lines -/

/-- characters without white space -/
structure Token where
  text : String
  ne : text ≠ ""
  noSpace : ∀ c ∈ text.toList, IStream.isSpace c = false

/-- decimal digits -/
structure Digits where
  text : String
  ne : text ≠ ""
  digits : ∀ c ∈ text.toList, c.isDigit = true

namespace Digits

def value (d : Digits) : ℕ := IStream.digitsValue d.text.toList

/-- the number is one of type `int` -/
def fitsInt (d : Digits) : Bool := decide (d.value ≤ 2147483647)

theorem toList_ne (d : Digits) : d.text.toList ≠ [] := by
  rw [ne_eq, String.toList_eq_nil_iff]
  exact d.ne

theorem noSpace (d : Digits) : ∀ c ∈ d.text.toList, IStream.isSpace c = false :=
  fun c hc => IStream.isSpace_of_isDigit (d.digits c hc)

end Digits

/-- `m=<media> <port> <proto> <fmt> ...`, with a `/<count>` behind the port or without -/
structure MediaLine where
  media : Token
  port : Digits
  portLe : port.value ≤ 65535
  count : Option Digits
  proto : Token
  formats : List Digits
  formatsNe : formats ≠ []

namespace MediaLine

variable (m : MediaLine)

def countText : String :=
  match m.count with
  | none => ""
  | some count => "/" ++ count.text

/-- behind the protocol -/
def formatsText : String := String.join (m.formats.map fun f => " " ++ f.text)

/-- behind "m=" -/
def value : String :=
  m.media.text ++ " " ++ m.port.text ++ m.countText ++ " " ++ m.proto.text ++ m.formatsText

def text : String := "m=" ++ m.value

theorem noSpace_slash (count : Digits) : ∀ c ∈ ("/" ++ count.text).toList, IStream.isSpace c = false := by
  intro c hc
  rw [String.toList_append] at hc
  rcases List.mem_append.1 hc with hc | hc
  · rw [List.mem_singleton.1 hc]
    rfl
  · exact count.noSpace c hc

/-- the media type, the port, the protocol and all formats of the line -/
structure Recorded (s : SdpMedia) : Prop where
  type : s.type = m.media.text
  port : s.port.toNat = m.port.value
  protocol : s.protocol = m.proto.text
  formats : s.formats = m.formats.map fun f => (f.value : ℤ)

end MediaLine

/-! ## The stream operators on a media line -/

/-- the formats are read up to the first that is no `int` -/
theorem readInts_formats (formats : List Digits) {n : ℕ} (hn : formats.length ≤ n) :
    IStream.readInts ⟨(String.join (formats.map fun f => " " ++ f.text)).toList, false⟩ n =
      (formats.takeWhile Digits.fitsInt).map fun f => (f.value : ℤ) := by
  induction formats generalizing n with
  | nil => cases n <;> rfl
  | cons f formats ih =>
    obtain ⟨n, rfl⟩ := Nat.exists_eq_succ_of_ne_zero (Nat.ne_of_gt (Nat.lt_of_lt_of_le (Nat.succ_pos _) hn))
    set rest := (String.join (formats.map fun f => " " ++ f.text)).toList with hrest
    have htext : (String.join ((f :: formats).map fun f => " " ++ f.text)).toList =
        [' '] ++ (f.text.toList ++ rest) := by
      rw [hrest, List.map_cons, String.join_cons, String.toList_append, String.toList_append, List.append_assoc]
      rfl
    have hhead : ∀ c ∈ rest.head?, c.isDigit = false := by
      rcases formats with _ | ⟨f', formats⟩
      · intro c hc
        cases hc
      · intro c hc
        rw [hrest, List.map_cons, String.join_cons, String.toList_append, String.toList_append] at hc
        cases hc
        rfl
    have hread := IStream.readInt_digits [' '] IStream.isSpace_blank f.toList_ne f.digits hhead
    rw [htext, IStream.readInts, hread]
    by_cases hmax : f.value ≤ 2147483647
    · have hfits : f.fitsInt = true := decide_eq_true hmax
      rw [List.takeWhile_cons_of_pos hfits, List.map_cons, ← ih (Nat.le_of_succ_le_succ hn)]
      rw [Digits.value] at hmax
      rw [if_pos hmax]
      rfl
    · have hfits : ¬ f.fitsInt = true := fun h => hmax (of_decide_eq_true h)
      rw [List.takeWhile_cons_of_neg hfits]
      rw [Digits.value] at hmax
      rw [if_neg hmax]
      rfl

/-- what the protocol is read from -/
theorem parseMedia_line (m : MediaLine) :
    let behind := (m.countText ++ " " ++ m.proto.text ++ m.formatsText).toList
    let ls := IStream.readString ⟨behind, false⟩ ""
    parseMedia m.value =
      ⟨m.media.text, UInt16.ofNat m.port.value, ls.1, ls.2.readInts ls.2.rest.length, ""⟩ := by
  intro behind
  have hvalue : m.value.toList = m.media.text.toList ++ ' ' :: (m.port.text.toList ++ behind) := by
    simp [MediaLine.value, behind]
  have hhead : ∀ c ∈ behind.head?, c.isDigit = false := by
    obtain ⟨rest, hrest⟩ : ∃ rest, behind = ' ' :: rest ∨ behind = '/' :: rest := by
      rcases hcount : m.count with _ | count
      · refine ⟨m.proto.text.toList ++ m.formatsText.toList, Or.inl ?_⟩
        simp [behind, MediaLine.countText, hcount]
      · refine ⟨count.text.toList ++ ' ' :: (m.proto.text.toList ++ m.formatsText.toList), Or.inr ?_⟩
        simp [behind, MediaLine.countText, hcount]
    rcases hrest with hrest | hrest
    · simp [hrest]
    · simp [hrest]
  exact parseMedia_behind m.media.ne m.media.noSpace m.port.toList_ne m.port.digits m.portLe hhead hvalue

theorem head_formatsText (m : MediaLine) : IStream.Ends m.formatsText.toList := by
  obtain ⟨f, formats, hformats⟩ := List.exists_cons_of_ne_nil m.formatsNe
  rw [MediaLine.formatsText, hformats, List.map_cons, String.join_cons, String.toList_append, String.toList_append]
  exact IStream.ends_space _

theorem length_formats_le (formats : List Digits) :
    formats.length ≤ (String.join (formats.map fun f => " " ++ f.text)).toList.length := by
  induction formats with
  | nil => exact Nat.zero_le _
  | cons f formats ih =>
    rw [List.map_cons, String.join_cons, String.toList_append, List.length_append, String.toList_append,
      List.length_append, List.length_cons]
    have hblank : " ".toList.length = 1 := rfl
    omega

theorem parseMedia_plain (m : MediaLine) (hcount : m.count = none) : parseMedia m.value =
    ⟨m.media.text, UInt16.ofNat m.port.value, m.proto.text,
      (m.formats.takeWhile Digits.fitsInt).map fun f => (f.value : ℤ), ""⟩ := by
  have hbehind : (m.countText ++ " " ++ m.proto.text ++ m.formatsText).toList =
      [' '] ++ (m.proto.text.toList ++ m.formatsText.toList) := by
    simp [MediaLine.countText, hcount]
  have hread := IStream.readString_token [' '] m.proto.text IStream.isSpace_blank m.proto.ne m.proto.noSpace
    (head_formatsText m) ""
  have hmedia := parseMedia_line m
  simp only [hbehind, hread] at hmedia
  rw [hmedia, MediaLine.formatsText, readInts_formats _ (length_formats_le _)]

/-- the count is read as the protocol, and the protocol as a format -/
theorem parseMedia_count (m : MediaLine) {count : Digits} (hcount : m.count = some count) :
    (parseMedia m.value).protocol = "/" ++ count.text ∧
      (m.proto.text = "/" ++ count.text → (parseMedia m.value).formats = []) := by
  set rest := ' ' :: (m.proto.text.toList ++ m.formatsText.toList) with hrest
  have hbehind : (m.countText ++ " " ++ m.proto.text ++ m.formatsText).toList =
      [] ++ (("/" ++ count.text).toList ++ rest) := by
    simp [MediaLine.countText, hcount, hrest]
  have hread : IStream.readString ⟨[] ++ (("/" ++ count.text).toList ++ rest), false⟩ "" =
      ("/" ++ count.text, ⟨rest, false⟩) :=
    IStream.readString_token [] ("/" ++ count.text) (by simp) (by simp) (MediaLine.noSpace_slash count)
      (IStream.ends_space (m.proto.text.toList ++ m.formatsText.toList)) ""
  have hmedia := parseMedia_line m
  simp only [hbehind, hread] at hmedia
  rw [hmedia]
  refine ⟨rfl, fun hproto => ?_⟩
  have hslash : rest = ' ' :: '/' :: (count.text.toList ++ m.formatsText.toList) := by
    rw [hrest, hproto]
    simp
  simp only [hslash]
  rfl

/-- **A media line is read as it is written** exactly where it has no count and its formats are of type `int` -/
theorem recorded_parseMedia_iff (m : MediaLine) :
    m.Recorded (parseMedia m.value) ↔ m.count = none ∧ ∀ f ∈ m.formats, f.value ≤ 2147483647 := by
  have hport : (UInt16.ofNat m.port.value).toNat = m.port.value := by
    have hle := m.portLe
    rw [UInt16.toNat_ofNat', Nat.mod_eq_of_lt (by omega)]
  rcases hcount : m.count with _ | count
  · have hread := parseMedia_plain m hcount
    constructor
    · intro hrec
      have hformats := hrec.formats
      rw [hread] at hformats
      have hlen : (m.formats.takeWhile Digits.fitsInt).length = m.formats.length := by
        simpa using congrArg List.length hformats
      have hall := List.takeWhile_eq_self_iff.1 ((List.takeWhile_prefix _).eq_of_length hlen)
      exact ⟨rfl, fun f hf => of_decide_eq_true (hall f hf)⟩
    · rintro ⟨-, hfits⟩
      have hall : m.formats.takeWhile Digits.fitsInt = m.formats :=
        List.takeWhile_eq_self_iff.2 fun f hf => decide_eq_true (hfits f hf)
      rw [hread, hall]
      exact ⟨rfl, hport, rfl, rfl⟩
  · obtain ⟨hprotocol, hformats⟩ := parseMedia_count m hcount
    refine iff_of_false (fun hrec => ?_) (fun h => Option.some_ne_none count h.1)
    have hnil := hformats (hrec.protocol.symm.trans hprotocol)
    rw [hrec.formats, List.map_eq_nil_iff] at hnil
    exact m.formatsNe hnil

/-! ## A media line in a text -/

def isMedia (line : String) : Bool := "m=".toList.isPrefixOf line.toList

/-- the number of `m=` lines in a text -/
def mediaCount (text : String) : ℕ := ((getlines text).map withoutCr).countP isMedia

theorem length_added (line : String) : (added line).length = if isMedia line then 1 else 0 := by
  unfold added stripPrefix? isMedia
  split_ifs <;> rfl

theorem length_flatMap_added (lines : List String) : (lines.flatMap added).length = lines.countP isMedia := by
  induction lines with
  | nil => rfl
  | cons line lines ih =>
    rw [List.flatMap_cons, List.length_append, ih, length_added, List.countP_cons, Nat.add_comm]

/-- what stands before a line -/
def Starts (before : String) : Prop := before = "" ∨ ∃ head, before = head ++ "\n"

/-- what stands behind a line -/
def Ends (after : String) : Prop := after = "" ∨ ∃ eol : LineEnd, ∃ tail, after = eol.text ++ tail

theorem getlines_starts {before : String} (h : Starts before) (rest : String) :
    getlines (before ++ rest) = getlines before ++ getlines rest := by
  rcases h with rfl | ⟨head, rfl⟩
  · rw [String.empty_append]
    rfl
  · have hhead := getlines_newline head ""
    rw [String.append_empty] at hhead
    rw [getlines_newline, hhead]
    rw [List.append_assoc]
    rfl

/-- only tokens and blanks -/
theorem MediaLine.blank_or_noSpace (m : MediaLine) : ∀ c ∈ m.text.toList, c = ' ' ∨ IStream.isSpace c = false := by
  have hcount : ∀ c ∈ m.countText.toList, IStream.isSpace c = false := by
    intro c hc
    rcases hcount : m.count with _ | count
    · simp [MediaLine.countText, hcount] at hc
    · simp only [MediaLine.countText, hcount] at hc
      exact MediaLine.noSpace_slash count c hc
  have hformats : ∀ c ∈ m.formatsText.toList, c = ' ' ∨ IStream.isSpace c = false := by
    intro c hc
    rw [MediaLine.formatsText, String.toList_join, List.mem_flatMap] at hc
    obtain ⟨text, htext, hc⟩ := hc
    obtain ⟨f, -, rfl⟩ := List.mem_map.1 htext
    rcases List.mem_append.1 (String.toList_append ▸ hc) with hc | hc
    · exact Or.inl (List.mem_singleton.1 hc)
    · exact Or.inr (f.noSpace c hc)
  intro c hc
  simp only [MediaLine.text, MediaLine.value, String.toList_append, List.mem_append] at hc
  rcases hc with hc | ((((((hc | hc) | hc) | hc) | hc) | hc) | hc)
  · exact Or.inr (IStream.not_isSpace_of_all (by decide) c hc)
  · exact Or.inr (m.media.noSpace c hc)
  · exact Or.inl (List.mem_singleton.1 hc)
  · exact Or.inr (m.port.noSpace c hc)
  · exact Or.inr (hcount c hc)
  · exact Or.inl (List.mem_singleton.1 hc)
  · exact Or.inr (m.proto.noSpace c hc)
  · exact hformats c hc

def MediaLine.line (m : MediaLine) : SdpLine := .ofTokens m.text m.blank_or_noSpace

/-- the media section of a line stands behind those of the lines before it -/
theorem media_text (out : SdpSession) {before after : String} (hbefore : Starts before) (hafter : Ends after)
    (m : MediaLine) : ∃ head tail, head.length = out.media.length + mediaCount before ∧
      (parse (before ++ (m.text ++ after)) out).2.media.map bare = head ++ parseMedia m.value :: tail := by
  set st := (getlines before).foldl parseLine ⟨out, false⟩ with hst
  have hmedia : st.out.media.map bare = out.media.map bare ++ ((getlines before).map withoutCr).flatMap added := by
    rw [hst, foldl_withoutCr, media_foldl]
  have hlen : (st.out.media.map bare).length = out.media.length + mediaCount before := by
    rw [hmedia, List.length_append, List.length_map, length_flatMap_added]
    rfl
  have hparse : (parse (before ++ (m.text ++ after)) out).2 =
      ((getlines (m.text ++ after)).foldl parseLine st).out := by
    simp only [parse]
    rw [getlines_starts hbefore, List.foldl_append]
  have hline : (parseField st m.text).out.media.map bare = st.out.media.map bare ++ [parseMedia m.value] := by
    rw [media_parseField, MediaLine.text, added_media]
  rcases hafter with rfl | ⟨eol, tail, rfl⟩
  · refine ⟨st.out.media.map bare, [], hlen, ?_⟩
    have hnewline : '\n' ∉ m.text.toList := m.line.newline
    have hcr : withoutCr m.text = m.text := m.line.withoutCr_eq
    rw [hparse, String.append_empty, foldl_last hnewline, parseLine_eq, hcr, hline]
  · refine ⟨st.out.media.map bare, ((getlines tail).map withoutCr).flatMap added, hlen, ?_⟩
    have hrest : (getlines (m.text ++ (eol.text ++ tail))).foldl parseLine st =
        (getlines tail).foldl parseLine (parseField st m.text) := by
      rw [← String.append_assoc]
      exact foldl_line eol m.line tail st
    rw [hparse, hrest, foldl_withoutCr, media_foldl, hline, List.append_assoc, List.singleton_append]

theorem MediaLine.recorded_bare (m : MediaLine) (s : SdpMedia) : m.Recorded (bare s) ↔ m.Recorded s :=
  ⟨fun h => ⟨h.type, h.port, h.protocol, h.formats⟩, fun h => ⟨h.type, h.port, h.protocol, h.formats⟩⟩

/-- **A media line is recorded as it is written**, in every text, exactly where it has no count and its formats are of
type `int` -/
theorem recorded_iff (out : SdpSession) {before after : String} (hbefore : Starts before) (hafter : Ends after)
    (m : MediaLine) :
    (∃ s, (parse (before ++ (m.text ++ after)) out).2.media[out.media.length + mediaCount before]? = some s ∧
        m.Recorded s) ↔ m.count = none ∧ ∀ f ∈ m.formats, f.value ≤ 2147483647 := by
  obtain ⟨head, tail, hlen, hmedia⟩ := media_text out hbefore hafter m
  rw [← recorded_parseMedia_iff, ← hlen]
  have hat : ((parse (before ++ (m.text ++ after)) out).2.media.map bare)[head.length]? =
      some (parseMedia m.value) := by
    rw [hmedia, List.getElem?_append_right le_rfl, Nat.sub_self]
    rfl
  rw [List.getElem?_map, Option.map_eq_some_iff] at hat
  obtain ⟨s, hs, hbare⟩ := hat
  rw [hs, ← hbare, m.recorded_bare]
  constructor
  · rintro ⟨s', hs', hrec⟩
    rw [Option.some.inj hs']
    exact hrec
  · exact fun hrec => ⟨s, rfl, hrec⟩

/-- `m=audio 5004 RTP/AVP 96 97` -/
def audioMedia : MediaLine where
  media := ⟨"audio", by decide, IStream.not_isSpace_of_all (by decide)⟩
  port := ⟨"5004", by decide, List.all_eq_true.1 (by decide)⟩
  portLe := by decide
  count := none
  proto := ⟨"RTP/AVP", by decide, IStream.not_isSpace_of_all (by decide)⟩
  formats := [⟨"96", by decide, List.all_eq_true.1 (by decide)⟩, ⟨"97", by decide, List.all_eq_true.1 (by decide)⟩]
  formatsNe := List.cons_ne_nil _ _

/-- behind another media line -/
theorem recorded_iff_second :
    (∃ s, (parse ("m=video 5006 RTP/AVP 97\r\n" ++ (audioMedia.text ++ "\r\na=rtpmap:96 AAC/44100/1\r\n"))
          .new).2.media[SdpSession.new.media.length + mediaCount "m=video 5006 RTP/AVP 97\r\n"]? = some s ∧
        audioMedia.Recorded s) ↔ audioMedia.count = none ∧ ∀ f ∈ audioMedia.formats, f.value ≤ 2147483647 :=
  recorded_iff .new (Or.inr ⟨"m=video 5006 RTP/AVP 97\r", by decide⟩)
    (Or.inr ⟨.crlf, "a=rtpmap:96 AAC/44100/1\r\n", by decide⟩) audioMedia

/-- `m=audio 5004/2 RTP/AVP 96 97` -/
def countedMedia : MediaLine := { audioMedia with count := some ⟨"2", by decide, List.all_eq_true.1 (by decide)⟩ }

/-- **A count displaces the protocol**: the media section has the protocol `/2` and no formats -/
theorem count_displaces : ¬ ∀ (out : SdpSession) (before after : String), Starts before → Ends after →
    ∀ m : MediaLine,
      ∃ s, (parse (before ++ (m.text ++ after)) out).2.media[out.media.length + mediaCount before]? = some s ∧
        m.Recorded s := by
  intro h
  obtain ⟨s, hs, hrec⟩ := h .new "" "" (Or.inl rfl) (Or.inl rfl) countedMedia
  have hread : (parse ("" ++ (countedMedia.text ++ "")) .new).2.media[SdpSession.new.media.length + mediaCount ""]? =
      some ⟨"audio", 5004, "/2", [], ""⟩ := by
    decide +kernel
  rw [Option.some.inj (hs.symm.trans hread)] at hrec
  exact absurd hrec.protocol (by decide)

end SdpBuilder

end Rtcom
