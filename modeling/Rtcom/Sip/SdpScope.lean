/-
Which address `ProcessIncomingSdp` stores. A `c=` line before the first `m=` line is for the whole session, one behind
an `m=` line for that media section only; `Parse` keeps one address.

- `connAddr_sections`: what is left after the sections is the address of the last `c=` line among them.
- `stored_remote`: that address and the port of the first audio section are stored.
- `scoped_iff`: so the address is the one in scope at the audio section exactly where the last `c=` line of a section,
  if there is one, has it.
-/
import Mathlib.Tactic
import Rtcom.Common.SdpMediaLine
import Rtcom.Sip.Handlers

namespace Rtcom

namespace SdpBuilder

/-! ## Session descriptions -/

/-- `c=<nettype> <addrtype> <address>` -/
structure ConnLine where
  net : Token
  addrType : Token
  addr : Token

/-- a line that is neither a `c=` nor an `m=` line -/
structure OtherLine extends SdpLine where
  conn : ¬ "c=".toList.isPrefixOf text.toList
  media : ¬ "m=".toList.isPrefixOf text.toList

/-- an `m=` line, what is behind "m=", and the lines up to the next: other lines, and at most one `c=` line -/
structure Section where
  value : String
  newline : '\n' ∉ value.toList
  cr : value.toList.getLast? ≠ some '\r'
  above : List OtherLine
  conn : Option ConnLine
  below : List OtherLine

/-- the lines of the session with its `c=` line, and the media sections -/
structure Description where
  above : List OtherLine
  conn : ConnLine
  below : List OtherLine
  sections : List Section

namespace ConnLine

variable (c : ConnLine)

/-- behind "c=" -/
def value : String := c.net.text ++ " " ++ c.addrType.text ++ " " ++ c.addr.text

def text : String := "c=" ++ c.value

theorem blank_or_noSpace : ∀ x ∈ c.text.toList, x = ' ' ∨ IStream.isSpace x = false := by
  intro x hx
  simp only [text, value, String.toList_append, List.mem_append] at hx
  rcases hx with hx | ((((hx | hx) | hx) | hx) | hx)
  · exact Or.inr (IStream.not_isSpace_of_all (by decide) x hx)
  · exact Or.inr (c.net.noSpace x hx)
  · exact Or.inl (List.mem_singleton.1 hx)
  · exact Or.inr (c.addrType.noSpace x hx)
  · exact Or.inl (List.mem_singleton.1 hx)
  · exact Or.inr (c.addr.noSpace x hx)

def line : SdpLine := .ofTokens c.text c.blank_or_noSpace

end ConnLine

namespace Section

variable (s : Section)

def text : String := "m=" ++ s.value

def line : SdpLine where
  text := s.text
  newline := by
    rw [text, String.toList_append, List.mem_append, not_or]
    exact ⟨by decide, s.newline⟩
  cr := by
    rw [text, String.toList_append, List.getLast?_append]
    have hcr := s.cr
    rcases hlast : s.value.toList.getLast? with _ | x
    · decide
    · rwa [hlast] at hcr

def lines : List SdpLine :=
  s.line :: (s.above.map OtherLine.toSdpLine ++ s.conn.toList.map ConnLine.line ++ s.below.map OtherLine.toSdpLine)

/-- the first token of the `m=` line -/
def type : String :=
  String.ofList ((s.value.toList.dropWhile IStream.isSpace).takeWhile fun c => !IStream.isSpace c)

end Section

namespace Description

variable (d : Description)

def lines : List SdpLine :=
  d.above.map OtherLine.toSdpLine ++ d.conn.line :: d.below.map OtherLine.toSdpLine ++ d.sections.flatMap Section.lines

/-- the first audio section -/
def audio? : Option Section := d.sections.find? fun s => s.type == "audio"

/-- the address at a section: its own or else that of the session -/
def scope (s : Section) : String := (s.conn.getD d.conn).addr.text

end Description

/-! ## The address that is left -/

theorem connAddr_parseRtpmap (st : ParseState) (line : String) :
    (parseRtpmap st line).out.connAddr = st.out.connAddr := by
  unfold parseRtpmap
  rcases st.out.media.getLast? with _ | cur
  · rfl
  · simp only
    split_ifs <;> rfl

/-- only a `c=` line changes the address -/
theorem connAddr_parseField {line : String} (h : ¬ "c=".toList.isPrefixOf line.toList) (st : ParseState) :
    (parseField st line).out.connAddr = st.out.connAddr := by
  unfold parseField
  rw [stripPrefix?_eq_none h]
  split_ifs
  · rfl
  rcases stripPrefix? line "m=" with _ | value
  · rcases stripPrefix? line "a=rtpmap:" with _ | value
    · rfl
    · exact connAddr_parseRtpmap st line
  · rfl

theorem connAddr_others (others : List OtherLine) (st : ParseState) :
    (((others.map OtherLine.toSdpLine).map SdpLine.text).foldl parseField st).out.connAddr = st.out.connAddr := by
  induction others generalizing st with
  | nil => rfl
  | cons other others ih =>
    rw [List.map_cons, List.map_cons, List.foldl_cons, ih, connAddr_parseField other.conn]

theorem connAddr_conn (c : ConnLine) (st : ParseState) : (parseField st c.line.text).out.connAddr = c.addr.text := by
  have hvalue : parseConn st.out c.value = { st.out with connAddr := c.addr.text } :=
    parseConn_tokens st.out c.net.ne c.addrType.ne c.addr.ne c.net.noSpace c.addrType.noSpace c.addr.noSpace
  have hline : c.line.text = "c=" ++ c.value := rfl
  rw [hline, parseField_conn, hvalue]

theorem connAddr_section (s : Section) (st : ParseState) :
    ((s.lines.map SdpLine.text).foldl parseField st).out.connAddr =
      (s.conn.map fun c => c.addr.text).getD st.out.connAddr := by
  have hmedia : (parseField st s.line.text).out.connAddr = st.out.connAddr := by
    have hline : s.line.text = "m=" ++ s.value := rfl
    rw [hline, parseField_media]
  simp only [Section.lines, List.map_cons, List.map_append, List.foldl_cons, List.foldl_append]
  rw [connAddr_others]
  rcases s.conn with _ | c
  · rw [Option.toList_none, List.map_nil, List.map_nil, List.foldl_nil, connAddr_others, hmedia]
    rfl
  · exact connAddr_conn c _

/-- the sections leave the address of the last `c=` line among them -/
theorem connAddr_sections (sections : List Section) (st : ParseState) :
    (((sections.flatMap Section.lines).map SdpLine.text).foldl parseField st).out.connAddr =
      ((sections.filterMap Section.conn).getLast?.map fun c => c.addr.text).getD st.out.connAddr := by
  induction sections generalizing st with
  | nil => rfl
  | cons s sections ih =>
    rw [List.flatMap_cons, List.map_append, List.foldl_append, ih, connAddr_section]
    rcases hconn : s.conn with _ | c
    · rw [List.filterMap_cons_none hconn]
      rfl
    · rw [List.filterMap_cons_some hconn, List.getLast?_cons]
      cases (sections.filterMap Section.conn).getLast? <;> rfl

theorem connAddr_description (d : Description) (st : ParseState) :
    ((d.lines.map SdpLine.text).foldl parseField st).out.connAddr =
      ((d.sections.filterMap Section.conn).getLast?.getD d.conn).addr.text := by
  simp only [Description.lines, List.map_cons, List.map_append, List.foldl_cons, List.foldl_append]
  rw [connAddr_sections, connAddr_others, connAddr_conn]
  cases (d.sections.filterMap Section.conn).getLast? <;> rfl

/-! ## The media sections -/

theorem added_of_not_media {line : String} (h : ¬ "m=".toList.isPrefixOf line.toList) : added line = [] := by
  rw [added, stripPrefix?_eq_none h]

theorem added_others (others : List OtherLine) :
    ((others.map OtherLine.toSdpLine).map SdpLine.text).flatMap added = [] := by
  rw [List.flatMap_eq_nil_iff]
  intro line hline
  rw [List.map_map] at hline
  obtain ⟨other, -, rfl⟩ := List.mem_map.1 hline
  exact added_of_not_media other.media

theorem added_conn (c : ConnLine) : added c.line.text = [] := by
  refine added_of_not_media fun hm => ?_
  obtain ⟨rest, hrest⟩ := List.isPrefixOf_iff_prefix.1 hm
  have hline : c.line.text.toList = "c=".toList ++ c.value.toList := String.toList_append
  rw [hline] at hrest
  exact absurd (List.cons.inj hrest).1 (by decide)

theorem added_section (s : Section) : (s.lines.map SdpLine.text).flatMap added = [parseMedia s.value] := by
  have hconn : ((s.conn.toList.map ConnLine.line).map SdpLine.text).flatMap added = [] := by
    rcases s.conn with _ | c
    · rfl
    · exact (List.append_nil _).trans (added_conn c)
  have hmedia : added s.line.text = [parseMedia s.value] := added_media s.value
  simp only [Section.lines, List.map_cons, List.map_append, List.flatMap_cons, List.flatMap_append, hmedia, hconn,
    added_others, List.append_nil]

theorem added_sections (sections : List Section) :
    ((sections.flatMap Section.lines).map SdpLine.text).flatMap added =
      sections.map fun s => parseMedia s.value := by
  induction sections with
  | nil => rfl
  | cons s sections ih =>
    rw [List.flatMap_cons, List.map_append, List.flatMap_append, ih, added_section]
    rfl

/-- the media sections of a description, in order -/
theorem media_description (d : Description) (eol : LineEnd) (final : Bool) :
    (parse (joined eol final d.lines) .new).2.media.map bare = d.sections.map fun s => parseMedia s.value := by
  have hadded : (d.lines.map SdpLine.text).flatMap added = d.sections.map fun s => parseMedia s.value := by
    simp only [Description.lines, List.map_append, List.map_cons, List.flatMap_append, List.flatMap_cons, added_others,
      added_conn, added_sections, List.nil_append]
  simp only [parse]
  rw [foldl_joined, media_foldl, hadded]
  rfl

theorem type_parseMedia (s : Section) : (parseMedia s.value).type = s.type := by
  have hread : ∀ cs : List Char, (IStream.readString ⟨cs, false⟩ "").1 =
      String.ofList ((cs.dropWhile IStream.isSpace).takeWhile fun c => !IStream.isSpace c) := by
    intro cs
    unfold IStream.readString IStream.skipWs
    rw [if_neg Bool.false_ne_true]
    simp only
    split_ifs with h
    · rw [h]
      rfl
    · rfl
  exact hread s.value.toList

theorem findAudio_description {d : Description} {audio : Section} (haudio : d.audio? = some audio) (eol : LineEnd)
    (final : Bool) : (parse (joined eol final d.lines) .new).2.findAudio.map bare = some (parseMedia audio.value) := by
  have hfind : ((parse (joined eol final d.lines) .new).2.media.map bare).find? (fun m => m.type == "audio") =
      some (parseMedia audio.value) := by
    have htype : ((fun m : SdpMedia => m.type == "audio") ∘ fun s : Section => parseMedia s.value) =
        fun s => s.type == "audio" := by
      funext s
      exact congrArg (· == "audio") (type_parseMedia s)
    rw [media_description, List.find?_map, htype]
    exact congrArg (Option.map fun s : Section => parseMedia s.value) haudio
  rw [List.find?_map] at hfind
  exact hfind

end SdpBuilder

namespace SipManager

open SdpBuilder

variable {κ : Type}

/-! ## What is stored -/

/-- the remote address and the audio port after a description with an audio section -/
theorem stored_remote {callId : String} {m : SipManager κ} {call : SipCall}
    (hcall : m.calls.lookup callId = some call) {d : Description} {audio : Section} (haudio : d.audio? = some audio)
    (eol : LineEnd) (final : Bool) :
    ∃ call', (processIncomingSdp callId (joined eol final d.lines) m).2.calls.lookup callId = some call' ∧
      call'.sessionInfo.audioRemotePort = (parseMedia audio.value).port ∧
      call'.sessionInfo.remoteRtpAddr = ((d.sections.filterMap Section.conn).getLast?.getD d.conn).addr.text := by
  set sess := (parse (joined eol final d.lines) .new).2 with hsess
  obtain ⟨s, hs, hbare⟩ := Option.map_eq_some_iff.1 (findAudio_description haudio eol final)
  have hok : (parse (joined eol final d.lines) .new).1 = true := by
    have hmem : s ∈ sess.media := List.mem_of_find?_eq_some hs
    have hempty : sess.media.isEmpty = false := List.isEmpty_eq_false_iff_exists_mem.2 ⟨s, hmem⟩
    rw [parse_ok, ← hsess, hempty]
    rfl
  have haddr : sess.connAddr = ((d.sections.filterMap Section.conn).getLast?.getD d.conn).addr.text := by
    rw [hsess]
    simp only [parse]
    rw [foldl_joined, connAddr_description]
  have hstored : (processIncomingSdp callId (joined eol final d.lines) m).2 =
      m.putCall callId { call with sessionInfo := storeRemote call.sessionInfo sess } := by
    rw [processIncomingSdp, hcall]
    simp only [hok]
    rfl
  refine ⟨{ call with sessionInfo := storeRemote call.sessionInfo sess }, ?_, ?_, ?_⟩
  · rw [hstored, lookup_putCall, if_pos rfl]
  · have hport : (bare s).port = (parseMedia audio.value).port := congrArg SdpMedia.port hbare
    rw [← hport]
    simp only [storeRemote]
    rw [hs]
    cases sess.findVideo <;> rfl
  · rw [← haddr]
    simp only [storeRemote]
    cases sess.findAudio <;> cases sess.findVideo <;> rfl

/-- **The address stored is the one in scope at the audio section** exactly where the last `c=` line of a section, if
there is one, has it -/
theorem scoped_iff {callId : String} {m : SipManager κ} {call : SipCall} (hcall : m.calls.lookup callId = some call)
    {d : Description} {audio : Section} (haudio : d.audio? = some audio) (eol : LineEnd) (final : Bool) :
    ∃ call', (processIncomingSdp callId (joined eol final d.lines) m).2.calls.lookup callId = some call' ∧
      call'.sessionInfo.audioRemotePort = (parseMedia audio.value).port ∧
      (call'.sessionInfo.remoteRtpAddr = d.scope audio ↔
        ∀ c ∈ (d.sections.filterMap Section.conn).getLast?, c.addr.text = d.scope audio) := by
  obtain ⟨call', hlookup, hport, haddr⟩ := stored_remote hcall haudio eol final
  refine ⟨call', hlookup, hport, ?_⟩
  rw [haddr]
  rcases hlast : (d.sections.filterMap Section.conn).getLast? with _ | c
  · -- no section has a line of its own, and so the audio section has none
    have hnil := List.getLast?_eq_none_iff.1 hlast
    have hown : audio.conn = none :=
      List.filterMap_eq_nil_iff.1 hnil audio (List.mem_of_find?_eq_some haudio)
    have hscope : d.scope audio = d.conn.addr.text := by
      rw [Description.scope, hown]
      rfl
    exact iff_of_true hscope.symm fun c hc => nomatch hc
  · exact ⟨fun h c' hc' => Option.some.inj hc' ▸ h, fun h => h c rfl⟩

/-- a manager with a call -/
def withCall : SipManager Unit := SipManager.new.putCall "a1" (.new "a1" "" "" ⟨0, 0, 0, 0, 0⟩)

def sessionConn (addr : Token) : ConnLine :=
  ⟨⟨"IN", by decide, IStream.not_isSpace_of_all (by decide)⟩,
    ⟨"IP4", by decide, IStream.not_isSpace_of_all (by decide)⟩, addr⟩

def audioSection : Section := ⟨"audio 5004 RTP/AVP 96", by decide, by decide, [], none, []⟩

/-- video from another host -/
def videoSection : Section :=
  ⟨"video 5006 RTP/AVP 97", by decide, by decide, [],
    some (sessionConn ⟨"10.0.0.2", by decide, IStream.not_isSpace_of_all (by decide)⟩), []⟩

def twoHosts : Description :=
  ⟨[], sessionConn ⟨"10.0.0.1", by decide, IStream.not_isSpace_of_all (by decide)⟩, [], [audioSection, videoSection]⟩

theorem scoped_iff_two :
    ∃ call', (processIncomingSdp "a1" (joined .crlf true twoHosts.lines) withCall).2.calls.lookup "a1" = some call' ∧
      call'.sessionInfo.audioRemotePort = (parseMedia audioSection.value).port ∧
      (call'.sessionInfo.remoteRtpAddr = twoHosts.scope audioSection ↔
        ∀ c ∈ (twoHosts.sections.filterMap Section.conn).getLast?, c.addr.text = twoHosts.scope audioSection) :=
  scoped_iff (AList.lookup_insert _) (by rfl) .crlf true

/-- **Audio is sent to the host of the video section** -/
theorem audio_to_video_host : ¬ ∀ (callId : String) (m : SipManager Unit) (call : SipCall),
    m.calls.lookup callId = some call → ∀ (d : Description) (audio : Section), d.audio? = some audio →
    ∀ (eol : LineEnd) (final : Bool),
    ∃ call', (processIncomingSdp callId (joined eol final d.lines) m).2.calls.lookup callId = some call' ∧
      call'.sessionInfo.remoteRtpAddr = d.scope audio := by
  intro h
  have hcall : withCall.calls.lookup "a1" = some (.new "a1" "" "" ⟨0, 0, 0, 0, 0⟩) := AList.lookup_insert _
  have haudio : twoHosts.audio? = some audioSection := rfl
  obtain ⟨call', hlookup, hscope⟩ := h "a1" withCall _ hcall twoHosts audioSection haudio .crlf true
  obtain ⟨call'', hlookup', -, haddr⟩ := stored_remote hcall haudio .crlf true
  rw [Option.some.inj (hlookup.symm.trans hlookup'), haddr] at hscope
  exact absurd hscope (by decide)

end SipManager

end Rtcom
