/-
A configuration that came out of a file and goes back into one. Its texts are trimmed and of one line, so the writer
does not break them; the local port is left out of the file, and a count that was read from a negative number is written
out as a number that `std::stoi` does not take.

- `loaded_loadFromFile`: what every configuration from a file is like.
- `reloads_iff`: saved and loaded again any number of times, it is itself but for the local port, unless the last number
  that the first file gives for a count is negative: then the exception leaves `LoadFromFile` the first time.
-/
import Mathlib.Tactic
import Rtcom.Common.ConfigNumbers

namespace Rtcom

namespace Config

/-! ## What a file gives -/

/-- no piece of a list that is cut at an element has it -/
theorem notMem_of_mem_splitOn {α : Type} [BEq α] [LawfulBEq α] (a : α) (as : List α) :
    ∀ piece ∈ as.splitOn a, a ∉ piece := by
  induction as with
  | nil => simp
  | cons x as ih =>
    rw [List.splitOn_cons_eq_if_modifyHead]
    obtain ⟨first, pieces, hcut⟩ := List.exists_cons_of_ne_nil (List.splitOn_ne_nil a as)
    rw [hcut, List.forall_mem_cons] at ih
    rw [hcut]
    split_ifs with hx
    · simpa using ih
    · have hne : a ≠ x := fun h => hx (by simp [h])
      simpa [hne] using ih

theorem newline_notMem_getlines (text : String) : ∀ line ∈ getlines text, '\n' ∉ line.toList := by
  intro line hline
  unfold getlines at hline
  obtain ⟨piece, hpiece, rfl⟩ := List.mem_map.1 hline
  rw [String.toList_ofList]
  refine notMem_of_mem_splitOn '\n' text.toList piece ?_
  split_ifs at hpiece
  · exact List.mem_of_mem_dropLast hpiece
  · exact hpiece

/-- a trimmed value can be stored -/
theorem storable_trim {val : String} (hval : '\n' ∉ val.toList) : Storable (trim val) := by
  obtain ⟨blanks, hcut⟩ := List.rdropWhile_prefix isBlank (l := val.toList.dropWhile isBlank)
  rw [Storable, trim, String.toList_ofList]
  refine ⟨fun h => hval ?_, fun c hc => ?_, fun c hc => ?_⟩
  · refine (List.dropWhile_sublist isBlank).mem ?_
    rw [← hcut]
    exact List.mem_append_left blanks h
  · have hfirst : c ∈ (val.toList.dropWhile isBlank).head? := by
      rw [← hcut, List.head?_append, Option.mem_def.1 hc]
      rfl
    rw [← List.find?_not_eq_head?_dropWhile] at hfirst
    simpa using List.find?_some hfirst
  · have hne := List.ne_nil_of_mem (List.mem_of_mem_getLast? hc)
    have hlast := List.rdropWhile_last_not isBlank _ hne
    rw [List.getLast?_eq_some_getLast hne] at hc
    rw [Option.some.inj hc] at hlast
    exact Bool.eq_false_iff.2 hlast

theorem storable_keyValue {line : String} (hline : '\n' ∉ line.toList) {key val : String}
    (h : keyValue? line = some (key, val)) : Storable val := by
  unfold keyValue? at h
  split_ifs at h
  obtain ⟨-, rfl⟩ := Prod.mk.inj (Option.some.inj h)
  refine storable_trim fun hmem => hline ?_
  rw [String.toList_ofList] at hmem
  exact (List.dropWhile_sublist _).mem (List.mem_of_mem_drop hmem)

/-- the texts of the ten keys -/
def texts (config : ServerConfig) : List String :=
  [config.sip.serverAddr, config.sip.username, config.sip.domain, config.sip.password]

/-- what no key stands for -/
def keyless (config : ServerConfig) : (String × UInt32 × UInt32 × UInt32) × (CodecType × CodecType) ×
    UInt32 × UInt32 × UInt32 × UInt32 × UInt32 × UInt32 :=
  ((config.sip.localAddr, config.sip.registerExpires, config.sip.retryT1Ms, config.sip.maxRetransmit),
    (config.media.audioCodec, config.media.videoCodec), config.media.audioBitrate, config.media.videoBitrate,
    config.media.audioSampleRate, config.media.videoFps, config.media.videoWidth, config.media.videoHeight)

theorem of_bind_ok {α β : Type} {x : Except StoiError α} {f : α → Except StoiError β} {b : β}
    (h : (x >>= f) = .ok b) : ∃ a, x = .ok a ∧ f a = .ok b := by
  cases x with
  | ok a => exact ⟨a, rfl, h⟩
  | error e => cases h

/-- a value is stored as one of the texts, or in a number, or nowhere -/
theorem assign_keeps {config config' : ServerConfig} {key val : String} (h : assign config key val = .ok config') :
    (∀ text ∈ texts config', text = val ∨ text ∈ texts config) ∧ keyless config' = keyless config := by
  unfold assign at h
  split_ifs at h
  all_goals
    try obtain ⟨n, -, h⟩ := of_bind_ok h
    obtain rfl := Except.ok.inj h
    exact ⟨by simp [texts], rfl⟩

/-- a configuration from a file: texts that can be stored, and nothing but the ten keys that is not the default -/
structure Loaded (config : ServerConfig) : Prop where
  storable : ∀ text ∈ texts config, Storable text
  keyless : keyless config = Config.keyless {}

theorem loaded_default : Loaded {} := ⟨by simp [texts, Storable, isBlank], rfl⟩

theorem loaded_loadLine {config config' : ServerConfig} (h : Loaded config) {line : String} (hline : '\n' ∉ line.toList)
    (hload : loadLine config line = .ok config') : Loaded config' := by
  rw [loadLine_eq] at hload
  rcases hkey : keyValue? line with _ | ⟨key, val⟩
  · rw [hkey] at hload
    rwa [← Except.ok.inj hload]
  · rw [hkey] at hload
    obtain ⟨htexts, hkeyless⟩ := assign_keeps hload
    refine ⟨fun text htext => ?_, hkeyless.trans h.keyless⟩
    rcases htexts text htext with rfl | hold
    · exact storable_keyValue hline hkey
    · exact h.storable text hold

theorem loaded_foldlM {lines : List String} (hlines : ∀ line ∈ lines, '\n' ∉ line.toList)
    {config config' : ServerConfig} (h : Loaded config) (hload : lines.foldlM loadLine config = .ok config') :
    Loaded config' := by
  induction lines generalizing config with
  | nil => rwa [← Except.ok.inj hload]
  | cons line lines ih =>
    rw [List.forall_mem_cons] at hlines
    rw [List.foldlM_cons] at hload
    obtain ⟨next, hfirst, hrest⟩ := of_bind_ok hload
    exact ih hlines.2 (loaded_loadLine h hlines.1 hfirst) hrest

/-- **What a file gives**, whatever is in it -/
theorem loaded_loadFromFile {file : Option String} {config : ServerConfig} (h : loadFromFile file = .ok config) :
    Loaded config := by
  cases file with
  | none => rw [← Except.ok.inj h]; exact loaded_default
  | some text => exact loaded_foldlM (newline_notMem_getlines text) loaded_default h

/-! ## Saving and loading again -/

/-- the counts that `std::stoi` takes -/
def Counted (config : ServerConfig) : Prop := config.maxSessions.toNat < 2 ^ 31 ∧ config.workerThreads.toNat < 2 ^ 31

instance : DecidablePred Counted := fun _ => inferInstanceAs (Decidable (_ ∧ _))

/-- what is restored of it: all but the local port -/
theorem Loaded.restored_eq {config : ServerConfig} (h : Loaded config) :
    restored config = { config with sip.localPort := 5060 } := by
  obtain ⟨⟨serverAddr, serverPort, localAddr, localPort, username, domain, password, registerExpires, retryT1Ms,
    maxRetransmit⟩, ⟨audioPort, videoPort, audioCodec, videoCodec, audioBitrate, videoBitrate, audioSampleRate,
    videoFps, videoWidth, videoHeight⟩, maxSessions, workerThreads⟩ := config
  have hkeyless := h.keyless
  simp only [Config.keyless, Prod.mk.injEq] at hkeyless
  simp [restored, hkeyless]

theorem stoi_toString_big {n : ℕ} {text : String} (htext : text.toList = Nat.toDigits 10 n) (hn : 2 ^ 31 ≤ n) :
    stoi text = .error .outOfRange := by
  have hdigits : ∀ c ∈ (Nat.toDigits 10 n).head?, IStream.isSpace c = false := fun c hc =>
    IStream.isSpace_of_isDigit (IStream.isDigit_of_mem (List.mem_of_mem_head? hc))
  have htake := IStream.takeNumber_toDigits n IStream.ends_nil
  rw [List.append_nil] at htake
  have hskip : (Nat.toDigits 10 n).dropWhile IStream.isSpace = Nat.toDigits 10 n := dropWhile_head hdigits
  have hrange : (n : ℤ) > 2147483647 ∨ (n : ℤ) < -2147483648 := by
    omega
  simp only [stoi, htext, hskip, htake, IStream.digitsValue_toDigits, Nat.toDigits_ne_nil, Bool.false_eq_true, if_false,
    if_pos hrange]

theorem stoi_big_count {n : UInt32} (hn : ¬ n.toNat < 2 ^ 31) : stoi (toString n) = .error .outOfRange :=
  stoi_toString_big (toList_toString_uint32 n) (not_lt.1 hn)

/-- the entries are read back one by one, whatever the counts are -/
theorem Loaded.load_entries {config : ServerConfig} (h : Loaded config) :
    loadFromFile (saveToFile config true none) =
      (savedEntries config).foldlM (fun config kv => assign config kv.1 kv.2) {} := by
  have hkeys := isKey_savedEntries config
  have hvals : ∀ kv ∈ savedEntries config, Storable kv.2 := by
    have htexts := h.storable
    simp only [texts, List.forall_mem_cons] at htexts
    obtain ⟨haddr, huser, hdomain, hpassword, -⟩ := htexts
    have hport : ∀ port : UInt16, Storable (toString port) := fun port =>
      storable_digits (IStream.toList_toString_port port)
    have hcount : ∀ n : UInt32, Storable (toString n) := fun n => storable_digits (toList_toString_uint32 n)
    simp only [savedEntries, List.forall_mem_cons, hport, hcount, haddr, huser, hdomain, hpassword, true_and]
    exact fun kv hkv => absurd hkv List.not_mem_nil
  have hlines : ∀ l ∈ "# RTCom Server Configuration" :: (savedEntries config).map entry, '\n' ∉ l.toList := by
    rw [List.forall_mem_cons, List.forall_mem_map]
    exact ⟨by decide, fun kv hkv => newline_notMem_entry (hkeys kv hkv) (hvals kv hkv)⟩
  have hcomment : loadLine {} "# RTCom Server Configuration" = .ok {} := by
    simp [loadLine]
  rw [saveToFile_eq, loadFromFile]
  simp only [getlines_lines hlines, List.foldlM_cons, hcomment, ok_bind]
  exact foldlM_entries hkeys hvals {}

/-- a count that is too big stops the reader -/
theorem foldlM_savedEntries_big {config : ServerConfig} (h : ¬ Counted config) :
    (savedEntries config).foldlM (fun config kv => assign config kv.1 kv.2) {} = .error .outOfRange := by
  by_cases hmax : config.maxSessions.toNat < 2 ^ 31
  · have hworkers : ¬ config.workerThreads.toNat < 2 ^ 31 := fun hworkers => h ⟨hmax, hworkers⟩
    simp [savedEntries, assign, stoi_port, stoi_count hmax, stoi_big_count hworkers, ok_bind]
  · simp [savedEntries, assign, stoi_port, stoi_big_count hmax, ok_bind]
    rfl

/-- saved to a file and loaded from it -/
def reload (config : ServerConfig) : Except StoiError ServerConfig := loadFromFile (saveToFile config true none)

def reloads : ℕ → ServerConfig → Except StoiError ServerConfig
  | 0, config => .ok config
  | n + 1, config => reload config >>= reloads n

theorem Loaded.reload_eq {config : ServerConfig} (h : Loaded config) :
    reload config = if Counted config then .ok { config with sip.localPort := 5060 } else .error .outOfRange := by
  rw [reload, h.load_entries]
  split_ifs with hcounts
  · rw [foldlM_savedEntries hcounts.1 hcounts.2, h.restored_eq]
  · exact foldlM_savedEntries_big hcounts

/-- any number of times: the first decides -/
theorem Loaded.reloads_eq {config : ServerConfig} (h : Loaded config) (n : ℕ) :
    reloads (n + 1) config =
      if Counted config then .ok { config with sip.localPort := 5060 } else .error .outOfRange := by
  by_cases hcounts : Counted config
  · rw [if_pos hcounts]
    have hnext : Loaded { config with sip.localPort := 5060 } := ⟨h.storable, h.keyless⟩
    have hagain : reload { config with sip.localPort := 5060 } = .ok { config with sip.localPort := 5060 } := by
      rw [hnext.reload_eq, if_pos ⟨hcounts.1, hcounts.2⟩]
    have hrest : ∀ k, reloads k { config with sip.localPort := 5060 } = .ok { config with sip.localPort := 5060 } := by
      intro k
      induction k with
      | zero => rfl
      | succ k ih => rw [reloads, hagain, ok_bind, ih]
    rw [reloads, h.reload_eq, if_pos hcounts, ok_bind, hrest n]
  · rw [if_neg hcounts, reloads, h.reload_eq, if_neg hcounts]
    rfl

/-! ## What the file says -/

/-- the last number that a file gives for the count is not negative -/
def EndsNatural (text : String) (key : NumericKey) : Prop :=
  ∀ val ∈ (key.given text).getLast?, ∀ n, stoi val = .ok n → 0 ≤ n

theorem stoi_range {val : String} {n : ℤ} (h : stoi val = .ok n) : -2147483648 ≤ n ∧ n ≤ 2147483647 := by
  unfold stoi at h
  simp only at h
  split_ifs at h with hds hsign hout hout
  · obtain rfl := Except.ok.inj h
    omega
  · obtain rfl := Except.ok.inj h
    omega

/-- an int that is stored in 32 bits is a small number if it is not negative -/
theorem stored_lt_iff {val : String} {n : ℤ} (h : stoi val = .ok n) : (n % 2 ^ 32).toNat < 2 ^ 31 ↔ 0 ≤ n := by
  have hrange := stoi_range h
  omega

theorem small_iff {text : String} {config : ServerConfig} (hload : loadFromFile (some text) = .ok config)
    {key : NumericKey} (hwidth : key.width = 32) : key.field config < 2 ^ 31 ↔ EndsNatural text key := by
  rw [field_loadFromFile hload key, EndsNatural, List.getLast?_map]
  cases hlast : (key.given text).getLast? with
  | none =>
    refine iff_of_true ?_ fun val hval => absurd hval (by simp)
    cases key <;> decide
  | some val =>
    simp only [Option.map_some, Option.getD_some, Option.mem_some_iff, forall_eq', NumericKey.converted, hwidth]
    cases hstoi : stoi val with
    | error e => exact iff_of_true (by norm_num) fun n hn => absurd hn (by simp)
    | ok n =>
      simp only [stored_lt_iff hstoi, Except.ok.injEq, forall_eq']

theorem counted_iff {text : String} {config : ServerConfig} (hload : loadFromFile (some text) = .ok config) :
    Counted config ↔ EndsNatural text .maxSessions ∧ EndsNatural text .workerThreads :=
  and_congr (small_iff hload (rfl : NumericKey.maxSessions.width = 32))
    (small_iff hload (rfl : NumericKey.workerThreads.width = 32))

/-- **Files settle at once**: a configuration that came from a file, saved and loaded again any number of times, is
itself with the default local port, if the last number that the file gives for either count is not negative; if one is,
the saved file cannot be loaded -/
theorem reloads_iff {text : String} {config : ServerConfig} (hload : loadFromFile (some text) = .ok config) (n : ℕ) :
    (reloads (n + 1) config = .ok { config with sip.localPort := 5060 } ↔
        EndsNatural text .maxSessions ∧ EndsNatural text .workerThreads) ∧
      (reloads (n + 1) config = .error .outOfRange ↔
        ¬ (EndsNatural text .maxSessions ∧ EndsNatural text .workerThreads)) := by
  rw [← counted_iff hload, (loaded_loadFromFile hload).reloads_eq n]
  by_cases hcounts : Counted config
  · simp [hcounts]
  · simp [hcounts]

/-- a limit of -1 is read as 4294967295, which is not read back -/
theorem reloads_iff_negative :
    let text := "max_sessions=-1"
    let config : ServerConfig := { maxSessions := 4294967295 }
    (reloads 2 config = .ok { config with sip.localPort := 5060 } ↔
        EndsNatural text .maxSessions ∧ EndsNatural text .workerThreads) ∧
      (reloads 2 config = .error .outOfRange ↔
        ¬ (EndsNatural text .maxSessions ∧ EndsNatural text .workerThreads)) := by
  intro text config
  have hload : loadFromFile (some text) = .ok config := by decide
  exact reloads_iff hload 1

end Config

end Rtcom
