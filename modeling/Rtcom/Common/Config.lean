/-
The configuration file: `Config::LoadFromFile` and `Config::SaveToFile`.

A file is its text, or none where it cannot be opened. The reader understands ten keys, the writer writes nine of them:
`sip_local_port` is left out.

- `loadLine_entry`: a line the writer wrote is read back as its key and its value, whatever characters the value has
  inside.
- `load_save`: what loading a saved file gives, for every configuration with storable values.
- `load_save_iff`: the ten keys come back as they were if and only if the local port is the default.
-/
import Mathlib.Data.List.DropRight
import Mathlib.Tactic
import Rtcom.Common.SdpRoundTrip

namespace Rtcom

namespace Config

/-! ## Values -/

/-- the two exceptions of `std::stoi` -/
inductive StoiError where
  | invalidArgument
  | outOfRange
deriving DecidableEq, Repr

def stoi (val : String) : Except StoiError ℤ :=
  let (neg, ds, _) := IStream.takeNumber (val.toList.dropWhile IStream.isSpace)
  let value : ℤ := if neg then -IStream.digitsValue ds else IStream.digitsValue ds
  if ds = [] then .error .invalidArgument
  else if value > 2147483647 ∨ value < -2147483648 then .error .outOfRange
  else .ok value

/-- the characters `" \t"` -/
def isBlank (c : Char) : Bool := c == ' ' || c == '\t'

/-- `erase(0, find_first_not_of(" \t"))`, then `erase(find_last_not_of(" \t") + 1)` -/
def trim (s : String) : String := String.ofList ((s.toList.dropWhile isBlank).rdropWhile isBlank)

/-! ## Reading -/

/-- the chain of comparisons with the keys the reader understands -/
def assign (config : ServerConfig) (key val : String) : Except StoiError ServerConfig :=
  if key = "sip_server_addr" then .ok { config with sip.serverAddr := val }
  else if key = "sip_server_port" then do return { config with sip.serverPort := UInt16.ofInt (← stoi val) }
  else if key = "sip_local_port" then do return { config with sip.localPort := UInt16.ofInt (← stoi val) }
  else if key = "sip_username" then .ok { config with sip.username := val }
  else if key = "sip_domain" then .ok { config with sip.domain := val }
  else if key = "sip_password" then .ok { config with sip.password := val }
  else if key = "audio_port" then do return { config with media.audioPort := UInt16.ofInt (← stoi val) }
  else if key = "video_port" then do return { config with media.videoPort := UInt16.ofInt (← stoi val) }
  else if key = "max_sessions" then do return { config with maxSessions := UInt32.ofInt (← stoi val) }
  else if key = "worker_threads" then do return { config with workerThreads := UInt32.ofInt (← stoi val) }
  else .ok config

/-- the body of the loop over the lines -/
def loadLine (config : ServerConfig) (line : String) : Except StoiError ServerConfig :=
  if line.toList = [] ∨ line.toList.head? = some '#' then .ok config
  else if '=' ∉ line.toList then .ok config
  else
    let key := String.ofList (line.toList.takeWhile (· != '='))
    let val := String.ofList ((line.toList.dropWhile (· != '=')).drop 1)
    assign config (trim key) (trim val)

def loadFromFile (file : Option String) : Except StoiError ServerConfig :=
  match file with
  | none => .ok {}
  | some text => (getlines text).foldlM loadLine {}

/-! ## Writing -/

/-- the file after the call: as it was where it cannot be opened for writing -/
def saveToFile (config : ServerConfig) (isOpen : Bool) (file : Option String) : Option String :=
  if !isOpen then file
  else some <|
    "# RTCom Server Configuration\n" ++
    ("sip_server_addr=" ++ config.sip.serverAddr ++ "\n") ++
    ("sip_server_port=" ++ toString config.sip.serverPort ++ "\n") ++
    ("sip_username=" ++ config.sip.username ++ "\n") ++
    ("sip_domain=" ++ config.sip.domain ++ "\n") ++
    ("sip_password=" ++ config.sip.password ++ "\n") ++
    ("audio_port=" ++ toString config.media.audioPort ++ "\n") ++
    ("video_port=" ++ toString config.media.videoPort ++ "\n") ++
    ("max_sessions=" ++ toString config.maxSessions ++ "\n") ++
    ("worker_threads=" ++ toString config.workerThreads ++ "\n")

/-! ## One line back -/

/-- nothing is dropped from a text whose first character stays -/
theorem dropWhile_head {p : Char → Bool} {cs : List Char} (h : ∀ c ∈ cs.head?, p c = false) : cs.dropWhile p = cs :=
  (IStream.takeWhile_dropWhile p (List.forall_mem_nil fun c => p c = true) h).2

theorem stoi_toString {n : ℕ} {text : String} (htext : text.toList = Nat.toDigits 10 n) (hn : n < 2 ^ 31) :
    stoi text = .ok (n : ℤ) := by
  have hdigits : ∀ c ∈ (Nat.toDigits 10 n).head?, IStream.isSpace c = false := fun c hc =>
    IStream.isSpace_of_isDigit (IStream.isDigit_of_mem (List.mem_of_mem_head? hc))
  have htake := IStream.takeNumber_toDigits n IStream.ends_nil
  rw [List.append_nil] at htake
  have hskip : (Nat.toDigits 10 n).dropWhile IStream.isSpace = Nat.toDigits 10 n := dropWhile_head hdigits
  have hrange : ¬((n : ℤ) > 2147483647 ∨ (n : ℤ) < -2147483648) := by
    omega
  simp only [stoi, htext, hskip, htake, IStream.digitsValue_toDigits, Nat.toDigits_ne_nil, Bool.false_eq_true, if_false,
    if_neg hrange]

/-- a value that a line can hold: one line, no blank at its ends -/
def Storable (val : String) : Prop :=
  '\n' ∉ val.toList ∧ (∀ c ∈ val.toList.head?, isBlank c = false) ∧ ∀ c ∈ val.toList.getLast?, isBlank c = false

theorem trim_storable {val : String} (hval : Storable val) : trim val = val := by
  obtain ⟨-, hfirst, hlast⟩ := hval
  have hleft : val.toList.dropWhile isBlank = val.toList := dropWhile_head hfirst
  have hright : val.toList.rdropWhile isBlank = val.toList := by
    rw [List.rdropWhile_eq_self_iff]
    intro hne
    rw [hlast _ (List.getLast_mem_getLast? hne)]
    exact Bool.false_ne_true
  rw [trim, hleft, hright, String.ofList_toList]

/-- a key that a line can start with -/
def IsKey (key : String) : Prop :=
  Storable key ∧ '=' ∉ key.toList ∧ key.toList ≠ [] ∧ key.toList.head? ≠ some '#'

/-- a line of the writer -/
def entry (kv : String × String) : String := kv.1 ++ "=" ++ kv.2

theorem loadLine_entry (config : ServerConfig) {key val : String} (hkey : IsKey key) (hval : Storable val) :
    loadLine config (entry (key, val)) = assign config key val := by
  obtain ⟨hstore, heq, hne, hhash⟩ := hkey
  have hlist : (entry (key, val)).toList = key.toList ++ '=' :: val.toList := by
    simp [entry]
  have hbefore : ∀ c ∈ key.toList, (c != '=') = true := by
    intro c hc
    rw [bne_iff_ne]
    rintro rfl
    exact heq hc
  have hbehind : ∀ c ∈ ('=' :: val.toList).head?, (c != '=') = false := by
    simp
  obtain ⟨htake, hdrop⟩ := IStream.takeWhile_dropWhile (· != '=') hbefore hbehind
  have hhead : ¬(key.toList ++ '=' :: val.toList = [] ∨ (key.toList ++ '=' :: val.toList).head? = some '#') := by
    rw [List.head?_append_of_ne_nil _ hne]
    simp [hhash]
  have hmem : '=' ∈ key.toList ++ '=' :: val.toList := by
    simp
  rw [loadLine, hlist, if_neg hhead, if_neg (not_not.2 hmem), htake, hdrop]
  simp only [List.drop_succ_cons, List.drop_zero, String.ofList_toList]
  rw [trim_storable hstore, trim_storable hval]

/-! ## The whole file back -/

/-- the keys the writer knows, with their values, in its order -/
def savedEntries (config : ServerConfig) : List (String × String) :=
  [("sip_server_addr", config.sip.serverAddr), ("sip_server_port", toString config.sip.serverPort),
    ("sip_username", config.sip.username), ("sip_domain", config.sip.domain), ("sip_password", config.sip.password),
    ("audio_port", toString config.media.audioPort), ("video_port", toString config.media.videoPort),
    ("max_sessions", toString config.maxSessions), ("worker_threads", toString config.workerThreads)]

theorem saveToFile_eq (config : ServerConfig) (file : Option String) : saveToFile config true file = some (String.ofList
    (unlines (("# RTCom Server Configuration" :: (savedEntries config).map entry).map String.toList))) := by
  rw [saveToFile, Bool.not_true, if_neg Bool.false_ne_true, Option.some_inj]
  apply String.toList_injective
  simp [unlines, savedEntries, entry]

/-- the configurations a file can hold: storable texts, counts in the range of `std::stoi` -/
structure Savable (config : ServerConfig) : Prop where
  serverAddr : Storable config.sip.serverAddr
  username : Storable config.sip.username
  domain : Storable config.sip.domain
  password : Storable config.sip.password
  maxSessions : config.maxSessions.toNat < 2 ^ 31
  workerThreads : config.workerThreads.toNat < 2 ^ 31

/-- a printed number is one line, without a blank -/
theorem storable_digits {n : ℕ} {text : String} (htext : text.toList = Nat.toDigits 10 n) : Storable text := by
  have hspace : ∀ c ∈ text.toList, IStream.isSpace c = false := by
    intro c hc
    rw [htext] at hc
    exact IStream.isSpace_of_isDigit (IStream.isDigit_of_mem hc)
  have hblank : ∀ c ∈ text.toList, isBlank c = false := by
    intro c hc
    have h := hspace c hc
    simp only [IStream.isSpace, Bool.or_eq_false_iff] at h
    rw [isBlank, h.1.1.1.1.1, h.1.1.1.1.2]
    rfl
  refine ⟨fun hmem => ?_, fun c hc => hblank c (List.mem_of_mem_head? hc),
    fun c hc => hblank c (List.mem_of_mem_getLast? hc)⟩
  have h := hspace _ hmem
  exact absurd h (by decide)

theorem toList_toString_uint32 (n : UInt32) : (toString n).toList = Nat.toDigits 10 n.toNat := Nat.toList_repr

theorem isKey_savedEntries (config : ServerConfig) : ∀ kv ∈ savedEntries config, IsKey kv.1 := by
  simp [savedEntries, IsKey, Storable, isBlank]

theorem storable_savedEntries {config : ServerConfig} (hconfig : Savable config) :
    ∀ kv ∈ savedEntries config, Storable kv.2 := by
  have hport : ∀ port : UInt16, Storable (toString port) := fun port =>
    storable_digits (IStream.toList_toString_port port)
  have hcount : ∀ n : UInt32, Storable (toString n) := fun n => storable_digits (toList_toString_uint32 n)
  simp only [savedEntries, List.forall_mem_cons, hport, hcount, hconfig.serverAddr, hconfig.username, hconfig.domain,
    hconfig.password, true_and]
  exact fun kv hkv => by cases hkv

theorem foldlM_entries {entries : List (String × String)} (hkeys : ∀ kv ∈ entries, IsKey kv.1)
    (hvals : ∀ kv ∈ entries, Storable kv.2) (config : ServerConfig) :
    (entries.map entry).foldlM loadLine config = entries.foldlM (fun config kv => assign config kv.1 kv.2) config := by
  induction entries generalizing config with
  | nil => rfl
  | cons kv entries ih =>
    rw [List.forall_mem_cons] at hkeys hvals
    rw [List.map_cons, List.foldlM_cons, List.foldlM_cons, loadLine_entry config hkeys.1 hvals.1]
    exact bind_congr fun config => ih hkeys.2 hvals.2 config

/-- what the reader makes of the writer's entries: the local port is its own default -/
def restored (config : ServerConfig) : ServerConfig where
  sip := { serverAddr := config.sip.serverAddr, serverPort := config.sip.serverPort, username := config.sip.username,
           domain := config.sip.domain, password := config.sip.password }
  media := { audioPort := config.media.audioPort, videoPort := config.media.videoPort }
  maxSessions := config.maxSessions
  workerThreads := config.workerThreads

theorem stoi_port (port : UInt16) : stoi (toString port) = .ok (port.toNat : ℤ) :=
  stoi_toString (IStream.toList_toString_port port) (lt_trans port.toNat_lt (by norm_num))

theorem stoi_count {n : UInt32} (hn : n.toNat < 2 ^ 31) : stoi (toString n) = .ok (n.toNat : ℤ) :=
  stoi_toString (toList_toString_uint32 n) hn

theorem ofInt_port (port : UInt16) : UInt16.ofInt (port.toNat : ℤ) = port := by
  have hmod : ((port.toNat : ℤ) % 2 ^ 16).toNat = port.toNat := by
    have hlt := port.toNat_lt
    omega
  rw [UInt16.ofInt, hmod, UInt16.ofNat_toNat]

theorem ofInt_count (n : UInt32) : UInt32.ofInt (n.toNat : ℤ) = n := by
  have hmod : ((n.toNat : ℤ) % 2 ^ 32).toNat = n.toNat := by
    have hlt := n.toNat_lt
    omega
  rw [UInt32.ofInt, hmod, UInt32.ofNat_toNat]

theorem ok_bind {α β : Type} (a : α) (f : α → Except StoiError β) : (Except.ok a >>= f) = f a := rfl

theorem foldlM_savedEntries {config : ServerConfig} (hmax : config.maxSessions.toNat < 2 ^ 31)
    (hworkers : config.workerThreads.toNat < 2 ^ 31) :
    (savedEntries config).foldlM (fun config kv => assign config kv.1 kv.2) {} = .ok (restored config) := by
  simp [savedEntries, assign, stoi_port, stoi_count hmax, stoi_count hworkers, ok_bind, ofInt_port, ofInt_count,
    restored]

theorem getlines_lines {lines : List String} (hlines : ∀ l ∈ lines, '\n' ∉ l.toList) :
    getlines (String.ofList (unlines (lines.map String.toList))) = lines := by
  have hid : String.ofList ∘ String.toList = id := funext fun _ => String.ofList_toList
  rw [getlines_unlines, List.map_map, hid, List.map_id]
  simpa using hlines

theorem newline_notMem_entry {kv : String × String} (hkey : IsKey kv.1) (hval : Storable kv.2) :
    '\n' ∉ (entry kv).toList := by
  simp [entry, hkey.1.1, hval.1]

/-- what a saved file loads as -/
theorem load_save {config : ServerConfig} (hconfig : Savable config) (file : Option String) :
    loadFromFile (saveToFile config true file) = .ok (restored config) := by
  have hkeys := isKey_savedEntries config
  have hvals := storable_savedEntries hconfig
  have hlines : ∀ l ∈ "# RTCom Server Configuration" :: (savedEntries config).map entry, '\n' ∉ l.toList := by
    rw [List.forall_mem_cons, List.forall_mem_map]
    exact ⟨by decide, fun kv hkv => newline_notMem_entry (hkeys kv hkv) (hvals kv hkv)⟩
  -- the comment line changes nothing
  have hcomment : loadLine {} "# RTCom Server Configuration" = .ok {} := by
    simp [loadLine]
  rw [saveToFile_eq, loadFromFile]
  simp only [getlines_lines hlines, List.foldlM_cons, hcomment, ok_bind]
  rw [foldlM_entries hkeys hvals, foldlM_savedEntries hconfig.maxSessions hconfig.workerThreads]

/-! ## The ten keys -/

/-- equal on every key that `LoadFromFile` understands -/
def SameKeys (a b : ServerConfig) : Prop :=
  a.sip.serverAddr = b.sip.serverAddr ∧ a.sip.serverPort = b.sip.serverPort ∧ a.sip.localPort = b.sip.localPort ∧
    a.sip.username = b.sip.username ∧ a.sip.domain = b.sip.domain ∧ a.sip.password = b.sip.password ∧
    a.media.audioPort = b.media.audioPort ∧ a.media.videoPort = b.media.videoPort ∧
    a.maxSessions = b.maxSessions ∧ a.workerThreads = b.workerThreads

/-- a saved file brings the ten keys back if and only if the local port, which the writer leaves out, is the reader's
default -/
theorem load_save_iff {config : ServerConfig} (hconfig : Savable config) (file : Option String) :
    (∃ loaded, loadFromFile (saveToFile config true file) = .ok loaded ∧ SameKeys loaded config) ↔
      config.sip.localPort = 5060 := by
  rw [load_save hconfig]
  constructor
  · rintro ⟨loaded, hloaded, hsame⟩
    obtain rfl := Except.ok.inj hloaded
    exact hsame.2.2.1.symm
  · intro hport
    exact ⟨restored config, rfl, rfl, rfl, hport.symm, rfl, rfl, rfl, rfl, rfl, rfl, rfl⟩

theorem savable_localPort (port : UInt16) : Savable { sip := { localPort := port } } := by
  constructor <;> simp [Storable, isBlank]

theorem load_save_iff_default :
    (∃ loaded, loadFromFile (saveToFile {} true none) = .ok loaded ∧ SameKeys loaded {}) ↔
      ({} : ServerConfig).sip.localPort = 5060 :=
  load_save_iff (savable_localPort 5060) none

/-- a configuration with the local port 5070 comes back with the port 5060 -/
theorem localPort_lost : Savable { sip := { localPort := 5070 } } ∧
    ¬∃ loaded, loadFromFile (saveToFile { sip := { localPort := 5070 } } true none) = .ok loaded ∧
      SameKeys loaded { sip := { localPort := 5070 } } := by
  refine ⟨savable_localPort 5070, ?_⟩
  rw [load_save (savable_localPort 5070)]
  rintro ⟨loaded, hloaded, hsame⟩
  obtain rfl := Except.ok.inj hloaded
  have hport : (5060 : UInt16) = 5070 := hsame.2.2.1
  exact absurd hport (by decide)

end Config

end Rtcom
