/-
`SdpBuilder::Parse` reads back what `BuildOffer` and `BuildAnswer` write.

- `readString_token`, `readUInt16_digits`, `readInt_toString`: an extraction reads the token or the number it stands
  before, and stops behind it.
- `getlines_unlines`, `getlines_crlf`: lines that end in LF are read as they are, those that end in CR LF with their CR.
- `parse_buildOffer`: the session parsed has the address and the two media of the offer.
-/
import Mathlib.Tactic
import Rtcom.Common.Sdp

namespace Rtcom

/-! ## Extraction -/

namespace IStream

/-- a token ends here: at the end of the stream or at white space -/
def Ends (rest : List Char) : Prop := ∀ c ∈ rest.head?, isSpace c = true

theorem ends_nil : Ends [] := by simp [Ends]

theorem ends_space (cs : List Char) : Ends (' ' :: cs) := by
  simp [Ends, isSpace]

theorem isSpace_blank : ∀ c ∈ [' '], isSpace c = true := List.forall_mem_singleton.2 rfl

/-- the characters of a text, checked one by one -/
theorem not_isSpace_of_all {text : String} (h : text.toList.all (fun c => !isSpace c) = true) :
    ∀ c ∈ text.toList, isSpace c = false := by
  simpa using h

/-- a run of characters that meet a predicate, before one that does not -/
theorem takeWhile_dropWhile {α : Type} (p : α → Bool) {xs rest : List α} (hxs : ∀ x ∈ xs, p x = true)
    (hrest : ∀ x ∈ rest.head?, p x = false) :
    (xs ++ rest).takeWhile p = xs ∧ (xs ++ rest).dropWhile p = rest := by
  rw [List.takeWhile_append_of_pos hxs, List.dropWhile_append_of_pos hxs]
  rcases rest with _ | ⟨x, rest⟩
  · simp
  · have hx := hrest x rfl
    rw [List.takeWhile_cons_of_neg (by simp [hx]), List.dropWhile_cons_of_neg (by simp [hx]), List.append_nil]
    exact ⟨rfl, rfl⟩

/-- white space before a token is skipped -/
theorem skipWs_token {ws token rest : List Char} (hws : ∀ c ∈ ws, isSpace c = true) (hne : token ≠ [])
    (htoken : ∀ c ∈ token, isSpace c = false) :
    skipWs ⟨ws ++ (token ++ rest), false⟩ = ⟨token ++ rest, false⟩ := by
  obtain ⟨c, token, rfl⟩ := List.exists_cons_of_ne_nil hne
  have hc : ∀ x ∈ (c :: token ++ rest).head?, isSpace x = false := by
    simpa using htoken c List.mem_cons_self
  rw [skipWs, (takeWhile_dropWhile isSpace hws hc).2]

theorem readString_token (ws : List Char) (token : String) {rest : List Char} (hws : ∀ c ∈ ws, isSpace c = true)
    (hne : token ≠ "") (htoken : ∀ c ∈ token.toList, isSpace c = false) (hrest : Ends rest) (old : String) :
    readString ⟨ws ++ (token.toList ++ rest), false⟩ old = (token, ⟨rest, false⟩) := by
  have hlist : token.toList ≠ [] := by
    rwa [ne_eq, String.toList_eq_nil_iff]
  obtain ⟨htake, hdrop⟩ := takeWhile_dropWhile (fun c => !isSpace c)
    (fun c hc => by rw [htoken c hc]; rfl) (fun c hc => by rw [hrest c hc]; rfl)
  rw [readString, if_neg Bool.false_ne_true, skipWs_token hws hlist htoken]
  simp only [htake, hdrop, List.append_eq_nil_iff, hlist, false_and, if_false, String.ofList_toList]

/-! ## Numbers -/

theorem digitsValue_toDigits (n : ℕ) : digitsValue (Nat.toDigits 10 n) = n := by
  have hfold : digitsValue (Nat.toDigits 10 n) = Nat.ofDigitChars 10 (Nat.toDigits 10 n) 0 := by
    rw [digitsValue, Nat.ofDigitChars_eq_foldl]
    simp only [Nat.mul_comm]
    rfl
  rw [hfold, Nat.ofDigitChars_ten_toDigits]

theorem isDigit_of_mem {n : ℕ} {c : Char} (hc : c ∈ Nat.toDigits 10 n) : c.isDigit = true :=
  Nat.isDigit_of_mem_toDigits (by decide) (by decide) hc

theorem isSpace_of_isDigit {c : Char} (hc : c.isDigit = true) : isSpace c = false := by
  have hnat : 48 ≤ c.toNat ∧ c.toNat ≤ 57 := by
    simpa [Char.isDigit, Char.le_def, UInt32.le_iff_toNat_le] using hc
  have hne : ∀ d : Char, d.toNat < 48 → (c == d) = false := by
    intro d hd
    rw [beq_eq_false_iff_ne]
    rintro rfl
    omega
  simp only [isSpace, hne ' ' (by decide), hne '\t' (by decide), hne '\n' (by decide), hne '\r' (by decide),
    Bool.false_or, Bool.or_eq_false_iff, beq_eq_false_iff_ne]
  omega

/-- the rest after a number: no digit -/
theorem not_isDigit_of_ends {rest : List Char} (h : Ends rest) : ∀ c ∈ rest.head?, c.isDigit = false := by
  intro c hc
  by_contra hd
  rw [Bool.not_eq_false] at hd
  have hspace := h c hc
  rw [isSpace_of_isDigit hd] at hspace
  cases hspace

/-- digits, before anything but a digit -/
theorem takeNumber_digits {ds rest : List Char} (hne : ds ≠ []) (hds : ∀ c ∈ ds, c.isDigit = true)
    (hrest : ∀ c ∈ rest.head?, c.isDigit = false) : takeNumber (ds ++ rest) = (false, ds, rest) := by
  obtain ⟨htake, hdrop⟩ := takeWhile_dropWhile Char.isDigit hds hrest
  obtain ⟨d, ds, rfl⟩ := List.exists_cons_of_ne_nil hne
  have hd : d.isDigit = true := hds d List.mem_cons_self
  unfold takeNumber
  split
  · rename_i hcs
    obtain ⟨rfl, -⟩ := List.cons.inj hcs
    exact absurd hd (by decide)
  · rename_i hcs
    obtain ⟨rfl, -⟩ := List.cons.inj hcs
    exact absurd hd (by decide)
  · rw [htake, hdrop]

theorem takeNumber_toDigits (n : ℕ) {rest : List Char} (hrest : Ends rest) :
    takeNumber (Nat.toDigits 10 n ++ rest) = (false, Nat.toDigits 10 n, rest) :=
  takeNumber_digits Nat.toDigits_ne_nil (fun _ hc => isDigit_of_mem hc) (not_isDigit_of_ends hrest)

theorem takeNumber_minus (n : ℕ) {rest : List Char} (hrest : Ends rest) :
    takeNumber ('-' :: (Nat.toDigits 10 n ++ rest)) = (true, Nat.toDigits 10 n, rest) := by
  obtain ⟨htake, hdrop⟩ := takeWhile_dropWhile Char.isDigit (fun _ hc => isDigit_of_mem hc)
    (not_isDigit_of_ends hrest)
  rw [takeNumber, htake, hdrop]

theorem toList_toString_port (port : UInt16) : (toString port).toList = Nat.toDigits 10 port.toNat := Nat.toList_repr

theorem toList_toString_int (v : ℤ) :
    (toString v).toList = (if 0 ≤ v then [] else ['-']) ++ Nat.toDigits 10 v.natAbs := by
  rw [Int.toString_eq_repr, Int.repr_eq_if]
  by_cases hv : 0 ≤ v
  · rw [if_pos hv, if_pos hv, Nat.toList_repr, List.nil_append]
    congr 1
    omega
  · rw [if_neg hv, if_neg hv, String.toList_append, Nat.toList_repr]
    congr 2
    omega

/-- a printed number has no white space in it -/
theorem isSpace_toString_port (port : UInt16) : ∀ c ∈ (toString port).toList, isSpace c = false := by
  intro c hc
  rw [toList_toString_port] at hc
  exact isSpace_of_isDigit (isDigit_of_mem hc)

theorem isSpace_toString_int (v : ℤ) : ∀ c ∈ (toString v).toList, isSpace c = false := by
  intro c hc
  rw [toList_toString_int] at hc
  rcases List.mem_append.1 hc with hc | hc
  · split_ifs at hc
    · cases hc
    · rw [List.mem_singleton.1 hc]
      decide
  · exact isSpace_of_isDigit (isDigit_of_mem hc)

/-- a port, before anything but a digit -/
theorem readUInt16_digits (ws : List Char) {ds rest : List Char} (hws : ∀ c ∈ ws, isSpace c = true) (hne : ds ≠ [])
    (hds : ∀ c ∈ ds, c.isDigit = true) (hrest : ∀ c ∈ rest.head?, c.isDigit = false) (hmax : digitsValue ds ≤ 65535)
    (old : UInt16) : readUInt16 ⟨ws ++ (ds ++ rest), false⟩ old = (UInt16.ofNat (digitsValue ds), ⟨rest, false⟩) := by
  have hspace : ∀ c ∈ ds, isSpace c = false := fun c hc => isSpace_of_isDigit (hds c hc)
  rw [readUInt16, if_neg Bool.false_ne_true, skipWs_token hws hne hspace]
  simp only [List.append_eq_nil_iff, hne, false_and, if_false, takeNumber_digits hne hds hrest, Bool.false_eq_true]
  rw [if_neg (by omega)]

theorem readInt_toString (ws : List Char) {rest : List Char} (hws : ∀ c ∈ ws, isSpace c = true) (hrest : Ends rest)
    {v : ℤ} (hmin : -2147483648 ≤ v) (hmax : v ≤ 2147483647) :
    readInt ⟨ws ++ ((toString v).toList ++ rest), false⟩ = (v, ⟨rest, false⟩) := by
  have hne : (toString v).toList ≠ [] := by
    rw [toList_toString_int]
    exact List.append_ne_nil_of_right_ne_nil _ Nat.toDigits_ne_nil
  have hnumber : takeNumber ((toString v).toList ++ rest) = (decide (v < 0), Nat.toDigits 10 v.natAbs, rest) := by
    rw [toList_toString_int]
    by_cases hv : 0 ≤ v
    · rw [if_pos hv, List.nil_append, takeNumber_toDigits _ hrest, decide_eq_false (by omega)]
    · rw [if_neg hv, List.cons_append, List.nil_append, List.cons_append, takeNumber_minus _ hrest,
        decide_eq_true (by omega)]
  have hvalue : (if decide (v < 0) = true then -(v.natAbs : ℤ) else v.natAbs) = v := by
    by_cases hv : v < 0
    · rw [if_pos (decide_eq_true hv)]
      omega
    · rw [if_neg (by simpa using hv)]
      omega
  rw [readInt, if_neg Bool.false_ne_true, skipWs_token hws hne (isSpace_toString_int v)]
  simp only [List.append_eq_nil_iff, hne, false_and, if_false, hnumber, digitsValue_toDigits, hvalue,
    Nat.toDigits_ne_nil, false_or]
  rw [if_neg (by omega)]

/-- a list of one number -/
theorem readInts_singleton (ws : List Char) (hws : ∀ c ∈ ws, isSpace c = true) {v : ℤ} (hmin : -2147483648 ≤ v)
    (hmax : v ≤ 2147483647) {n : ℕ} (hn : 0 < n) :
    readInts ⟨ws ++ (toString v).toList, false⟩ n = [v] := by
  obtain ⟨n, rfl⟩ := Nat.exists_eq_succ_of_ne_zero hn.ne'
  have hread := readInt_toString ws hws ends_nil hmin hmax
  rw [List.append_nil] at hread
  rw [readInts, hread]
  -- nothing is left: the next extraction fails
  cases n <;> rfl

end IStream

/-! ## Lines -/

/-- lines that end in LF -/
def unlines (lines : List (List Char)) : List Char := lines.flatMap fun l => l ++ ['\n']

theorem getlines_unlines {lines : List (List Char)} (hlines : ∀ l ∈ lines, '\n' ∉ l) :
    getlines (String.ofList (unlines lines)) = lines.map String.ofList := by
  have hsplit : (unlines lines).splitOn '\n' = lines ++ [[]] := by
    induction lines with
    | nil => rfl
    | cons l lines ih =>
      have hcut : unlines (l :: lines) = l ++ '\n' :: unlines lines := by
        simp [unlines]
      rw [hcut, List.splitOn_append_cons_self_of_not_mem (hlines l List.mem_cons_self),
        ih fun l hl => hlines l (List.mem_cons_of_mem _ hl)]
      rfl
  simp [getlines, hsplit]

/-- lines that end in CR LF -/
def crlf (lines : List (List Char)) : List Char := lines.flatMap fun l => l ++ ['\r', '\n']

theorem getlines_crlf {lines : List (List Char)} (hlines : ∀ l ∈ lines, '\n' ∉ l) :
    getlines (String.ofList (crlf lines)) = lines.map fun l => String.ofList (l ++ ['\r']) := by
  have hcrlf : crlf lines = unlines (lines.map (· ++ ['\r'])) := by
    simp [crlf, unlines, List.flatMap_map]
  rw [hcrlf, getlines_unlines, List.map_map]
  · rfl
  · simpa using hlines

namespace SdpBuilder

/-- `Parse`, one line without its CR -/
def parseField (st : ParseState) (line : String) : ParseState :=
  if line = "" then st else
  match stripPrefix? line "c=" with
  | some value => { st with out := parseConn st.out value }
  | none =>
    match stripPrefix? line "m=" with
    | some value => { out := { st.out with media := st.out.media ++ [parseMedia value] }, curMedia := true }
    | none =>
      match stripPrefix? line "a=rtpmap:" with
      | some _ => parseRtpmap st line
      | none => st

theorem parseLine_cr (st : ParseState) (l : List Char) :
    parseLine st (String.ofList (l ++ ['\r'])) = parseField st (String.ofList l) := by
  have hstrip : (if (String.ofList (l ++ ['\r'])).toList.getLast? = some '\r' then
      String.ofList (String.ofList (l ++ ['\r'])).toList.dropLast else String.ofList (l ++ ['\r'])) =
        String.ofList l := by
    rw [String.toList_ofList, if_pos (by simp), List.dropLast_concat]
  unfold parseLine
  simp only [hstrip]
  rfl

theorem stripPrefix?_append (pre value : String) : stripPrefix? (pre ++ value) pre = some value := by
  rw [stripPrefix?, if_pos (by simp), String.toList_append, String.length_toList.symm, List.drop_left,
    String.ofList_toList]

/-- a line that begins with another character -/
theorem stripPrefix?_of_head {line pre : String} {c : Char} (hpre : pre.toList.head? = some c)
    (hline : line.toList.head? ≠ some c) : stripPrefix? line pre = none := by
  obtain ⟨cs, hcs⟩ := List.head?_eq_some_iff.1 hpre
  refine if_neg fun hprefix => ?_
  obtain ⟨rest, hrest⟩ := List.isPrefixOf_iff_prefix.1 hprefix
  rw [hcs] at hrest
  rw [← hrest] at hline
  exact hline rfl

/-! ## The lines of an offer -/

/-- an `m=` line, behind its prefix -/
def mediaValue (type : String) (port : UInt16) (pt : ℤ) : String :=
  type ++ " " ++ toString port ++ " RTP/AVP " ++ toString pt

/-- an `a=rtpmap:` line, behind "a=" -/
def rtpmapValue (pt : ℤ) (encoding : String) : String := "rtpmap:" ++ toString pt ++ " " ++ encoding

/-- the lines of a session without media -/
def sessionLines (localIp : String) : List String :=
  ["v=0", "o=rtcom 1 1 IN IP4 " ++ localIp, "s=rtcom", "c=" ++ ("IN IP4 " ++ localIp), "t=0 0"]

/-- the lines of a media section -/
def mediaLines (type : String) (port : UInt16) (pt : ℤ) (encoding : String) : List String :=
  ["m=" ++ mediaValue type port pt, "a=" ++ rtpmapValue pt encoding]

def offerLines (localIp : String) (audioPort videoPort : UInt16) (audioPt videoPt : ℤ) : List String :=
  sessionLines localIp ++ mediaLines "audio" audioPort audioPt "AAC/44100/1" ++
    mediaLines "video" videoPort videoPt "H264/90000"

theorem buildOffer_eq (localIp : String) (audioPort videoPort : UInt16) (audioPt videoPt : ℤ) :
    buildOffer localIp audioPort videoPort audioPt videoPt =
      String.ofList (crlf ((offerLines localIp audioPort videoPort audioPt videoPt).map String.toList)) := by
  unfold buildOffer offerLines sessionLines mediaLines mediaValue rtpmapValue
  generalize toString audioPort = audioPort, toString videoPort = videoPort, toString audioPt = audioPt,
    toString videoPt = videoPt
  apply String.toList_inj.1
  rw [String.toList_ofList]
  simp only [crlf, String.toList_append, String.reduceToList, List.map_cons, List.map_nil, List.flatMap_cons,
    List.flatMap_nil, List.append_nil, List.append_assoc, List.cons_append, List.nil_append]

theorem newline_notMem_offerLines {localIp : String} (hspace : ∀ c ∈ localIp.toList, IStream.isSpace c = false)
    (audioPort videoPort : UInt16) (audioPt videoPt : ℤ) :
    ∀ l ∈ offerLines localIp audioPort videoPort audioPt videoPt, '\n' ∉ l.toList := by
  have hnone : ∀ s : String, (∀ c ∈ s.toList, IStream.isSpace c = false) → '\n' ∉ s.toList := by
    intro s hs hmem
    exact absurd (hs '\n' hmem) (by decide)
  have hip := hnone localIp hspace
  have hport := fun p : UInt16 => hnone (toString p) (IStream.isSpace_toString_port p)
  have hpt := fun v : ℤ => hnone (toString v) (IStream.isSpace_toString_int v)
  intro l hl
  simp only [offerLines, sessionLines, mediaLines, List.cons_append, List.nil_append, List.mem_cons, List.not_mem_nil,
    or_false] at hl
  rcases hl with rfl | rfl | rfl | rfl | rfl | rfl | rfl | rfl | rfl
  all_goals simp [mediaValue, rtpmapValue, hip, hport, hpt, -Int.toString_eq_repr]

theorem foldl_parseLine {lines : List String} (hlines : ∀ l ∈ lines, '\n' ∉ l.toList) (st : ParseState) :
    (getlines (String.ofList (crlf (lines.map String.toList)))).foldl parseLine st = lines.foldl parseField st := by
  rw [getlines_crlf (by simpa using hlines), List.foldl_map, List.foldl_map]
  simp only [parseLine_cr, String.ofList_toList]

/-- the third token is the address -/
theorem parseConn_tokens (out : SdpSession) {net type addr : String} (hnet : net ≠ "") (htype : type ≠ "")
    (haddr : addr ≠ "") (hnetSpace : ∀ c ∈ net.toList, IStream.isSpace c = false)
    (htypeSpace : ∀ c ∈ type.toList, IStream.isSpace c = false)
    (haddrSpace : ∀ c ∈ addr.toList, IStream.isSpace c = false) :
    parseConn out (net ++ " " ++ type ++ " " ++ addr) = { out with connAddr := addr } := by
  set addrs := ' ' :: (addr.toList ++ []) with haddrs
  set types := ' ' :: (type.toList ++ addrs) with htypes
  have hvalue : (net ++ " " ++ type ++ " " ++ addr).toList = net.toList ++ types := by
    simp [htypes, haddrs]
  have hreadNet : IStream.readString ⟨net.toList ++ types, false⟩ "" = (net, ⟨types, false⟩) :=
    IStream.readString_token [] net (by simp) hnet hnetSpace (IStream.ends_space (type.toList ++ addrs)) ""
  have hreadType : IStream.readString ⟨types, false⟩ "" = (type, ⟨addrs, false⟩) :=
    IStream.readString_token [' '] type IStream.isSpace_blank htype htypeSpace (IStream.ends_space (addr.toList ++ []))
      ""
  have hreadAddr : IStream.readString ⟨addrs, false⟩ "" = (addr, ⟨[], false⟩) :=
    IStream.readString_token [' '] addr IStream.isSpace_blank haddr haddrSpace IStream.ends_nil ""
  unfold parseConn IStream.ofString
  simp only [hvalue, hreadNet, hreadType, hreadAddr]
  rw [if_pos haddr]

theorem parseConn_value (out : SdpSession) {localIp : String} (hne : localIp ≠ "")
    (hspace : ∀ c ∈ localIp.toList, IStream.isSpace c = false) :
    parseConn out ("IN IP4 " ++ localIp) = { out with connAddr := localIp } := by
  have hnet : "IN" ≠ "" ∧ ∀ c ∈ "IN".toList, IStream.isSpace c = false :=
    ⟨by decide, IStream.not_isSpace_of_all (by decide)⟩
  have htype : "IP4" ≠ "" ∧ ∀ c ∈ "IP4".toList, IStream.isSpace c = false :=
    ⟨by decide, IStream.not_isSpace_of_all (by decide)⟩
  have hvalue : "IN IP4 " = "IN" ++ " " ++ "IP4" ++ " " := by decide
  rw [hvalue, parseConn_tokens out hnet.1 htype.1 hne hnet.2 htype.2 hspace]

/-- the media type and the port, and what is left for the protocol and the formats -/
theorem parseMedia_behind {value type : String} {ds behind : List Char} (hne : type ≠ "")
    (hspace : ∀ c ∈ type.toList, IStream.isSpace c = false) (hds : ds ≠ []) (hdigits : ∀ c ∈ ds, c.isDigit = true)
    (hmax : IStream.digitsValue ds ≤ 65535) (hbehind : ∀ c ∈ behind.head?, c.isDigit = false)
    (hvalue : value.toList = type.toList ++ ' ' :: (ds ++ behind)) :
    let ls := IStream.readString ⟨behind, false⟩ ""
    parseMedia value =
      ⟨type, UInt16.ofNat (IStream.digitsValue ds), ls.1, ls.2.readInts ls.2.rest.length, ""⟩ := by
  intro ls
  have htype : IStream.readString ⟨type.toList ++ ' ' :: (ds ++ behind), false⟩ "" =
      (type, ⟨' ' :: (ds ++ behind), false⟩) :=
    IStream.readString_token [] type (by simp) hne hspace (IStream.ends_space (ds ++ behind)) ""
  have hport : IStream.readUInt16 ⟨' ' :: (ds ++ behind), false⟩ 0 =
      (UInt16.ofNat (IStream.digitsValue ds), ⟨behind, false⟩) :=
    IStream.readUInt16_digits [' '] IStream.isSpace_blank hds hdigits hbehind hmax 0
  unfold parseMedia IStream.ofString
  simp only [hvalue, htype, hport]
  rfl

theorem parseMedia_value {type : String} (hne : type ≠ "")
    (hspace : ∀ c ∈ type.toList, IStream.isSpace c = false) (port : UInt16) {pt : ℤ} (hmin : -2147483648 ≤ pt)
    (hmax : pt ≤ 2147483647) : parseMedia (mediaValue type port pt) = ⟨type, port, "RTP/AVP", [pt], ""⟩ := by
  set formats := ' ' :: (toString pt).toList with hformats
  set behind := ' ' :: ("RTP/AVP".toList ++ formats) with hbehind
  have hvalue : (mediaValue type port pt).toList = type.toList ++ ' ' :: (Nat.toDigits 10 port.toNat ++ behind) := by
    rw [← IStream.toList_toString_port]
    simp [mediaValue, hbehind, hformats]
  have hport : IStream.digitsValue (Nat.toDigits 10 port.toNat) = port.toNat := IStream.digitsValue_toDigits _
  have hproto : IStream.readString ⟨behind, false⟩ "" = ("RTP/AVP", ⟨formats, false⟩) :=
    IStream.readString_token [' '] "RTP/AVP" IStream.isSpace_blank (by decide) (IStream.not_isSpace_of_all (by decide))
      (IStream.ends_space (toString pt).toList) ""
  have hformat : IStream.readInts ⟨formats, false⟩ formats.length = [pt] :=
    IStream.readInts_singleton [' '] IStream.isSpace_blank hmin hmax (by simp [hformats])
  have hlt := port.toNat_lt
  have hread := parseMedia_behind hne hspace Nat.toDigits_ne_nil (fun _ hc => IStream.isDigit_of_mem hc) (by omega)
    (IStream.not_isDigit_of_ends (IStream.ends_space _)) hvalue
  rw [hread, hproto, hport, UInt16.ofNat_toNat]
  exact congrArg (fun formats => SdpMedia.mk type port "RTP/AVP" formats "") hformat

/-- a line of another type -/
theorem parseField_other (st : ParseState) {line : String} {c : Char} (hline : line.toList.head? = some c)
    (hc : c ≠ 'c') (hm : c ≠ 'm') (ha : c ≠ 'a') : parseField st line = st := by
  have hother : ∀ d : Char, c ≠ d → line.toList.head? ≠ some d := by
    intro d hd h
    exact hd (Option.some.inj (hline.symm.trans h))
  unfold parseField
  rw [stripPrefix?_of_head rfl (hother 'c' hc), stripPrefix?_of_head rfl (hother 'm' hm),
    stripPrefix?_of_head rfl (hother 'a' ha)]
  exact ite_self st

theorem parseField_conn (st : ParseState) (value : String) :
    parseField st ("c=" ++ value) = { st with out := parseConn st.out value } := by
  unfold parseField
  rw [if_neg (by simp), stripPrefix?_append]

theorem parseField_media (st : ParseState) (value : String) : parseField st ("m=" ++ value) =
    { out := { st.out with media := st.out.media ++ [parseMedia value] }, curMedia := true } := by
  have hhead : ("m=" ++ value).toList.head? ≠ some 'c' := by
    simp
  unfold parseField
  rw [if_neg (by simp), stripPrefix?_of_head rfl hhead, stripPrefix?_append]

/-- the attribute goes to the media section before it -/
theorem parseField_rtpmap (addr : String) (before : List SdpMedia) (m : SdpMedia) (pt : ℤ) (encoding : String) :
    parseField ⟨⟨addr, before ++ [m]⟩, true⟩ ("a=" ++ rtpmapValue pt encoding) =
      ⟨⟨addr, before ++ [{ m with rtpmap := rtpmapValue pt encoding }]⟩, true⟩ := by
  have hc : ("a=" ++ rtpmapValue pt encoding).toList.head? ≠ some 'c' := by
    simp
  have hm : ("a=" ++ rtpmapValue pt encoding).toList.head? ≠ some 'm' := by
    simp
  have hvalue : "a=" ++ rtpmapValue pt encoding = "a=rtpmap:" ++ (toString pt ++ " " ++ encoding) := by
    apply String.toList_inj.1
    simp [rtpmapValue]
  unfold parseField
  rw [if_neg (by simp), stripPrefix?_of_head rfl hc, stripPrefix?_of_head rfl hm, hvalue, stripPrefix?_append, ← hvalue]
  simp [parseRtpmap]

/-- a media section goes behind those before it -/
theorem foldl_mediaLines (addr : String) (before : List SdpMedia) (cur : Bool) {type : String} (hne : type ≠ "")
    (hspace : ∀ c ∈ type.toList, IStream.isSpace c = false) (port : UInt16) {pt : ℤ}
    (hpt : -2147483648 ≤ pt ∧ pt ≤ 2147483647) (encoding : String) :
    (mediaLines type port pt encoding).foldl parseField ⟨⟨addr, before⟩, cur⟩ =
      ⟨⟨addr, before ++ [⟨type, port, "RTP/AVP", [pt], rtpmapValue pt encoding⟩]⟩, true⟩ := by
  rw [mediaLines, List.foldl_cons, parseField_media, parseMedia_value hne hspace port hpt.1 hpt.2, List.foldl_cons,
    parseField_rtpmap, List.foldl_nil]

theorem foldl_sessionLines {localIp : String} (hne : localIp ≠ "")
    (hspace : ∀ c ∈ localIp.toList, IStream.isSpace c = false) :
    (sessionLines localIp).foldl parseField ⟨.new, false⟩ = ⟨⟨localIp, []⟩, false⟩ := by
  have hother : ∀ line ∈ ["v=0", "o=rtcom 1 1 IN IP4 " ++ localIp, "s=rtcom", "t=0 0"], ∀ st,
      parseField st line = st := by
    intro line hline st
    simp only [List.mem_cons, List.not_mem_nil, or_false] at hline
    rcases hline with rfl | rfl | rfl | rfl
    · exact parseField_other st (c := 'v') rfl (by decide) (by decide) (by decide)
    · exact parseField_other st (c := 'o') (by simp) (by decide) (by decide) (by decide)
    · exact parseField_other st (c := 's') rfl (by decide) (by decide) (by decide)
    · exact parseField_other st (c := 't') rfl (by decide) (by decide) (by decide)
  simp only [sessionLines, List.foldl_cons, List.foldl_nil]
  rw [hother "v=0" (by simp), hother ("o=rtcom 1 1 IN IP4 " ++ localIp) (by simp), hother "s=rtcom" (by simp),
    parseField_conn, parseConn_value _ hne hspace, hother "t=0 0" (by simp)]
  rfl

/-- **An offer is read back**: its address and its two media, in order -/
theorem parse_buildOffer {localIp : String} (hne : localIp ≠ "")
    (hspace : ∀ c ∈ localIp.toList, IStream.isSpace c = false) (audioPort videoPort : UInt16) {audioPt videoPt : ℤ}
    (haudio : -2147483648 ≤ audioPt ∧ audioPt ≤ 2147483647) (hvideo : -2147483648 ≤ videoPt ∧ videoPt ≤ 2147483647) :
    parse (buildOffer localIp audioPort videoPort audioPt videoPt) .new =
      (true, ⟨localIp, [⟨"audio", audioPort, "RTP/AVP", [audioPt], rtpmapValue audioPt "AAC/44100/1"⟩,
        ⟨"video", videoPort, "RTP/AVP", [videoPt], rtpmapValue videoPt "H264/90000"⟩]⟩) := by
  rw [parse, buildOffer_eq, foldl_parseLine (newline_notMem_offerLines hspace _ _ _ _), offerLines, List.foldl_append,
    List.foldl_append, foldl_sessionLines hne hspace,
    foldl_mediaLines localIp [] false (by decide) (IStream.not_isSpace_of_all (by decide)) audioPort haudio,
    foldl_mediaLines localIp _ true (by decide) (IStream.not_isSpace_of_all (by decide)) videoPort hvideo]
  rfl

/-- the session that `Parse` returns for the text of an offer or an answer -/
structure ReadsBack (text localIp : String) (audioPort videoPort : UInt16) (audioPt videoPt : ℤ) : Prop where
  ok : (parse text .new).1 = true
  connAddr : (parse text .new).2.connAddr = localIp
  media : (parse text .new).2.media =
    [⟨"audio", audioPort, "RTP/AVP", [audioPt], "rtpmap:" ++ toString audioPt ++ " AAC/44100/1"⟩,
      ⟨"video", videoPort, "RTP/AVP", [videoPt], "rtpmap:" ++ toString videoPt ++ " H264/90000"⟩]
  audio : (parse text .new).2.findAudio = (parse text .new).2.media[0]?
  video : (parse text .new).2.findVideo = (parse text .new).2.media[1]?

/-- **Offers and answers are read back**, for every address without white space, all ports and all payload types of
type `int` -/
theorem reads_back {localIp : String} (hne : localIp ≠ "") (hspace : ∀ c ∈ localIp.toList, IStream.isSpace c = false)
    (audioPort videoPort : UInt16) {audioPt videoPt : ℤ} (haudio : -2147483648 ≤ audioPt ∧ audioPt ≤ 2147483647)
    (hvideo : -2147483648 ≤ videoPt ∧ videoPt ≤ 2147483647) :
    ReadsBack (buildOffer localIp audioPort videoPort audioPt videoPt) localIp audioPort videoPort audioPt videoPt ∧
      ReadsBack (buildAnswer localIp audioPort videoPort audioPt videoPt) localIp audioPort videoPort audioPt
        videoPt := by
  have hparse := parse_buildOffer hne hspace audioPort videoPort haudio hvideo
  have haac : rtpmapValue audioPt "AAC/44100/1" = "rtpmap:" ++ toString audioPt ++ " AAC/44100/1" := by
    rw [rtpmapValue, String.append_assoc]
    rfl
  have hh264 : rtpmapValue videoPt "H264/90000" = "rtpmap:" ++ toString videoPt ++ " H264/90000" := by
    rw [rtpmapValue, String.append_assoc]
    rfl
  have hread : ReadsBack (buildOffer localIp audioPort videoPort audioPt videoPt) localIp audioPort videoPort audioPt
      videoPt := by
    refine ⟨by rw [hparse], by rw [hparse], by rw [hparse, haac, hh264], ?_, ?_⟩
    · rw [hparse]
      rfl
    · rw [hparse]
      rfl
  exact ⟨hread, hread⟩

/-- an offer with a negative payload type -/
theorem reads_back_negative :
    ReadsBack (buildOffer "192.168.1.1" 5004 65535 96 (-1)) "192.168.1.1" 5004 65535 96 (-1) ∧
      ReadsBack (buildAnswer "192.168.1.1" 5004 65535 96 (-1)) "192.168.1.1" 5004 65535 96 (-1) :=
  reads_back (by decide) (IStream.not_isSpace_of_all (by decide)) 5004 65535 (by decide) (by decide)

end SdpBuilder

end Rtcom
