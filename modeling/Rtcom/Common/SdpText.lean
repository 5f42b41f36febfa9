/-
`SdpBuilder::Parse` over the lines of a text.

- `foldl_joined`: what `Parse` makes of a text is a fold over its lines, whatever they end in.
- `parse_joined`: so two texts with the same `c=`, `m=` and `a=rtpmap:` lines give the same result and the same session.
- `media_foldl`: each `m=` line adds one media section, and no later line changes more of it than its `rtpmap`.
-/
import Mathlib.Tactic
import Rtcom.Common.SdpRoundTrip

namespace Rtcom

namespace SdpBuilder

/-! ## Lines and texts -/

/-- a line: without line feed, and not with a carriage return at its end -/
structure SdpLine where
  text : String
  newline : '\n' ∉ text.toList
  cr : text.toList.getLast? ≠ some '\r'
deriving DecidableEq

/-- a text of tokens and blanks is a line -/
def SdpLine.ofTokens (text : String) (h : ∀ c ∈ text.toList, c = ' ' ∨ IStream.isSpace c = false) : SdpLine where
  text := text
  newline := fun hmem => by
    rcases h '\n' hmem with hc | hc
    · exact absurd hc (by decide)
    · exact absurd hc (by decide)
  cr := fun hlast => by
    rcases h '\r' (List.mem_of_getLast? hlast) with hc | hc
    · exact absurd hc (by decide)
    · exact absurd hc (by decide)

/-- what stands between two lines -/
inductive LineEnd where
  | lf | crlf
deriving DecidableEq

def LineEnd.text : LineEnd → String
  | .lf => "\n"
  | .crlf => "\r\n"

/-- the lines in a text, with a line end behind the last or without -/
def joined (eol : LineEnd) (final : Bool) (lines : List SdpLine) : String :=
  eol.text.intercalate (lines.map SdpLine.text) ++ if final then eol.text else ""

theorem getlines_newline (a b : String) :
    getlines (a ++ "\n" ++ b) = (a.toList.splitOn '\n').map String.ofList ++ getlines b := by
  have hparts : (a ++ "\n" ++ b).toList.splitOn '\n' = a.toList.splitOn '\n' ++ b.toList.splitOn '\n' := by
    rw [String.toList_append, String.toList_append, List.append_assoc]
    exact List.splitOn_append_cons_self _ _
  have hne : b.toList.splitOn '\n' ≠ [] := List.splitOn_ne_nil '\n' b.toList
  unfold getlines
  simp only
  rw [hparts, List.getLast?_append_of_ne_nil _ hne, List.dropLast_append_of_ne_nil hne]
  split_ifs <;> rw [List.map_append]

/-- the line without the CR at its end -/
def withoutCr (line : String) : String :=
  if line.toList.getLast? = some '\r' then String.ofList line.toList.dropLast else line

theorem parseLine_eq (st : ParseState) (line : String) : parseLine st line = parseField st (withoutCr line) := rfl

theorem foldl_withoutCr (lines : List String) (st : ParseState) :
    lines.foldl parseLine st = (lines.map withoutCr).foldl parseField st := by
  rw [List.foldl_map]
  rfl

/-- the last line, with no line end behind it -/
theorem foldl_last {line : String} (hline : '\n' ∉ line.toList) (st : ParseState) :
    (getlines line).foldl parseLine st = parseLine st line := by
  have hparts : line.toList.splitOn '\n' = [line.toList] := List.splitOn_eq_singleton hline
  unfold getlines
  rw [hparts]
  by_cases hempty : line.toList = []
  · have hline : line = "" := String.toList_eq_nil_iff.1 hempty
    subst hline
    rfl
  · have hlast : [line.toList].getLast? ≠ some [] := by
      simpa using hempty
    simp only
    rw [if_neg hlast, List.map_singleton, String.ofList_toList]
    rfl

theorem SdpLine.withoutCr_eq (l : SdpLine) : withoutCr l.text = l.text := if_neg l.cr

/-- one line and its end -/
theorem foldl_line (eol : LineEnd) (l : SdpLine) (rest : String) (st : ParseState) :
    (getlines (l.text ++ eol.text ++ rest)).foldl parseLine st =
      (getlines rest).foldl parseLine (parseField st l.text) := by
  cases eol with
  | lf =>
    have hsplit : l.text.toList.splitOn '\n' = [l.text.toList] := List.splitOn_eq_singleton l.newline
    rw [LineEnd.text, getlines_newline, hsplit, List.map_singleton, String.ofList_toList, List.singleton_append,
      List.foldl_cons, parseLine_eq, l.withoutCr_eq]
  | crlf =>
    have hcr : (l.text ++ "\r").toList = l.text.toList ++ ['\r'] := String.toList_append
    have hsplit : (l.text ++ "\r").toList.splitOn '\n' = [l.text.toList ++ ['\r']] := by
      rw [hcr]
      refine List.splitOn_eq_singleton fun hmem => ?_
      rcases List.mem_append.1 hmem with hmem | hmem
      · exact l.newline hmem
      · exact absurd hmem (by decide)
    have hcrlf : LineEnd.crlf.text = "\r" ++ "\n" := rfl
    rw [hcrlf, ← String.append_assoc, getlines_newline, hsplit, List.map_singleton, List.singleton_append,
      List.foldl_cons, parseLine_cr, String.ofList_toList]

/-- **The lines of a text**: their ends, and whether the last has one, make no difference -/
theorem foldl_joined (eol : LineEnd) (final : Bool) (lines : List SdpLine) (st : ParseState) :
    (getlines (joined eol final lines)).foldl parseLine st = (lines.map SdpLine.text).foldl parseField st := by
  induction lines generalizing st with
  | nil => cases eol <;> cases final <;> rfl
  | cons l lines ih =>
    rcases lines with _ | ⟨l', lines⟩
    · have htext : joined eol final [l] = l.text ++ if final then eol.text else "" := by
        rw [joined, List.map_singleton, String.intercalate_singleton]
      rw [htext]
      cases final with
      | false =>
        rw [if_neg Bool.false_ne_true, String.append_empty, foldl_last l.newline, parseLine_eq, l.withoutCr_eq]
        rfl
      | true =>
        have hline := foldl_line eol l "" st
        rw [String.append_empty] at hline
        rw [if_pos rfl, hline]
        rfl
    · have htext : joined eol final (l :: l' :: lines) = l.text ++ eol.text ++ joined eol final (l' :: lines) := by
        simp only [joined, List.map_cons, String.intercalate_cons_cons, String.append_assoc]
      rw [htext, foldl_line, ih]
      rfl

/-- `Parse` succeeds where there is a media section -/
theorem parse_ok (text : String) (out : SdpSession) : (parse text out).1 = !(parse text out).2.media.isEmpty := rfl

/-! ## Lines that Parse skips -/

/-- the line starts with `c=`, `m=` or `a=rtpmap:` -/
def SdpLine.relevant (l : SdpLine) : Bool :=
  ["c=", "m=", "a=rtpmap:"].any fun pre => pre.toList.isPrefixOf l.text.toList

theorem stripPrefix?_eq_none {line pre : String} (h : ¬ pre.toList.isPrefixOf line.toList) :
    stripPrefix? line pre = none := if_neg h

theorem SdpLine.parseField_of_not_relevant {l : SdpLine} (h : ¬ l.relevant) (st : ParseState) :
    parseField st l.text = st := by
  have hnone : ∀ pre ∈ ["c=", "m=", "a=rtpmap:"], stripPrefix? l.text pre = none := by
    intro pre hpre
    exact stripPrefix?_eq_none fun hprefix => h (List.any_eq_true.2 ⟨pre, hpre, hprefix⟩)
  unfold parseField
  rw [hnone "c=" (by decide), hnone "m=" (by decide), hnone "a=rtpmap:" (by decide)]
  exact ite_self st

theorem foldl_relevant (lines : List SdpLine) (st : ParseState) :
    (lines.map SdpLine.text).foldl parseField st =
      ((lines.filter SdpLine.relevant).map SdpLine.text).foldl parseField st := by
  induction lines generalizing st with
  | nil => rfl
  | cons l lines ih =>
    by_cases h : l.relevant
    · rw [List.filter_cons_of_pos h]
      exact ih _
    · rw [List.filter_cons_of_neg h, ← ih, List.map_cons, List.foldl_cons, SdpLine.parseField_of_not_relevant h]

/-- **Line ends and other lines make no difference**: two texts whose `c=`, `m=` and `a=rtpmap:` lines are the same give
the same result and the same session -/
theorem parse_joined (out : SdpSession) {lines lines' : List SdpLine}
    (hlines : lines.filter SdpLine.relevant = lines'.filter SdpLine.relevant) (eol eol' : LineEnd)
    (final final' : Bool) : parse (joined eol final lines) out = parse (joined eol' final' lines') out := by
  have hfold : (getlines (joined eol final lines)).foldl parseLine ⟨out, false⟩ =
      (getlines (joined eol' final' lines')).foldl parseLine ⟨out, false⟩ :=
    calc (getlines (joined eol final lines)).foldl parseLine ⟨out, false⟩
        = (lines.map SdpLine.text).foldl parseField ⟨out, false⟩ := foldl_joined eol final lines _
      _ = ((lines.filter SdpLine.relevant).map SdpLine.text).foldl parseField ⟨out, false⟩ := foldl_relevant lines _
      _ = ((lines'.filter SdpLine.relevant).map SdpLine.text).foldl parseField ⟨out, false⟩ := by rw [hlines]
      _ = (lines'.map SdpLine.text).foldl parseField ⟨out, false⟩ := (foldl_relevant lines' _).symm
      _ = (getlines (joined eol' final' lines')).foldl parseLine ⟨out, false⟩ :=
          (foldl_joined eol' final' lines' _).symm
  unfold parse
  rw [hfold]

def connLine : SdpLine := ⟨"c=IN IP4 10.0.0.1", by decide, by decide⟩

def audioLine : SdpLine := ⟨"m=audio 5004 RTP/AVP 96", by decide, by decide⟩

def timeLine : SdpLine := ⟨"t=0 0", by decide, by decide⟩

def emptyLine : SdpLine := ⟨"", by decide, by decide⟩

/-- with a time and an empty line, in CR LF, and without, in LF -/
theorem parse_joined_other :
    parse (joined .crlf true [connLine, timeLine, audioLine, emptyLine]) .new =
      parse (joined .lf false [connLine, audioLine]) .new :=
  parse_joined .new (by decide) .crlf .lf true false

/-! ## Media sections -/

/-- a media section without its `rtpmap` -/
def bare (s : SdpMedia) : SdpMedia := { s with rtpmap := "" }

/-- the media section that a line adds -/
def added (line : String) : List SdpMedia :=
  match stripPrefix? line "m=" with
  | some value => [parseMedia value]
  | none => []

theorem added_media (value : String) : added ("m=" ++ value) = [parseMedia value] := by
  rw [added, stripPrefix?_append]

theorem map_bare_parseRtpmap (st : ParseState) (line : String) :
    (parseRtpmap st line).out.media.map bare = st.out.media.map bare := by
  unfold parseRtpmap
  rcases hlast : st.out.media.getLast? with _ | cur
  · rfl
  · simp only
    split_ifs
    · have hmedia := List.dropLast_append_getLast? cur hlast
      rw [← hmedia]
      simp [bare]
    · rfl

theorem stripPrefix?_conn {line value : String} (h : stripPrefix? line "c=" = some value) :
    stripPrefix? line "m=" = none := by
  refine stripPrefix?_eq_none fun hm => ?_
  have hc : "c=".toList.isPrefixOf line.toList := by
    by_contra hc
    rw [stripPrefix?_eq_none hc] at h
    cases h
  obtain ⟨rest, hrest⟩ := List.isPrefixOf_iff_prefix.1 hc
  obtain ⟨rest', hrest'⟩ := List.isPrefixOf_iff_prefix.1 hm
  exact absurd (List.cons.inj (hrest.trans hrest'.symm)).1 (by decide)

/-- one line -/
theorem media_parseField (st : ParseState) (line : String) :
    (parseField st line).out.media.map bare = st.out.media.map bare ++ added line := by
  unfold parseField
  by_cases hempty : line = ""
  · subst hempty
    rw [if_pos rfl]
    exact (List.append_nil _).symm
  rw [if_neg hempty]
  rcases hc : stripPrefix? line "c=" with _ | value
  · rcases hm : stripPrefix? line "m=" with _ | value
    · rw [added, hm, List.append_nil]
      rcases stripPrefix? line "a=rtpmap:" with _ | value
      · rfl
      · exact map_bare_parseRtpmap st line
    · rw [added, hm]
      exact List.map_append
  · rw [added, stripPrefix?_conn hc, List.append_nil]
    simp only [parseConn]
    split_ifs <;> rfl

/-- **Every `m=` line adds a media section**, in the order of the lines -/
theorem media_foldl (lines : List String) (st : ParseState) :
    (lines.foldl parseField st).out.media.map bare = st.out.media.map bare ++ lines.flatMap added := by
  induction lines generalizing st with
  | nil => exact (List.append_nil _).symm
  | cons line lines ih =>
    rw [List.foldl_cons, ih, media_parseField, List.append_assoc, List.flatMap_cons]

end SdpBuilder

end Rtcom
