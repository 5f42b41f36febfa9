/-
The numeric keys of a configuration file. `Config::LoadFromFile` hands their values to `std::stoi`, which throws where
there is no number at the front of a value or it does not fit into an int, and stores the int in a field of 16 or 32
bits.

- `NumericKey.lastValid`: what a field is to hold: the last decimal number in its range that was given for the key, or
  its default.
- `overwrites`: what one line does. `loads_right_iff`: a file is read right exactly when every value starts with a
  number that fits into an int, and the last value for each key is valid, or its number is cut to the right one.
- `port_truncated`: the port 70000.
-/
import Mathlib.Tactic
import Rtcom.Common.Config
import Rtcom.Lib.Registers

namespace Rtcom

namespace Config

open Registers

/-! ## Keys and values -/

/-- the keys whose values `LoadFromFile` converts -/
inductive NumericKey where
  | sipServerPort
  | sipLocalPort
  | audioPort
  | videoPort
  | maxSessions
  | workerThreads
deriving DecidableEq, Repr

/-- the key and the value in a line, if it has them -/
def keyValue? (line : String) : Option (String × String) :=
  if line.toList = [] ∨ line.toList.head? = some '#' then none
  else if '=' ∉ line.toList then none
  else
    some (trim (String.ofList (line.toList.takeWhile (· != '='))),
      trim (String.ofList ((line.toList.dropWhile (· != '=')).drop 1)))

/-- a decimal number, with a sign or without, and nothing else -/
def decimal? (val : String) : Option ℤ :=
  let (neg, ds, rest) := IStream.takeNumber val.toList
  if ds = [] ∨ rest ≠ [] then none else some (if neg then -IStream.digitsValue ds else IStream.digitsValue ds)

namespace NumericKey

def name : NumericKey → String
  | .sipServerPort => "sip_server_port"
  | .sipLocalPort => "sip_local_port"
  | .audioPort => "audio_port"
  | .videoPort => "video_port"
  | .maxSessions => "max_sessions"
  | .workerThreads => "worker_threads"

/-- the bits of the field -/
def width : NumericKey → ℕ
  | .sipServerPort | .sipLocalPort | .audioPort | .videoPort => 16
  | .maxSessions | .workerThreads => 32

def field (config : ServerConfig) : NumericKey → ℕ
  | .sipServerPort => config.sip.serverPort.toNat
  | .sipLocalPort => config.sip.localPort.toNat
  | .audioPort => config.media.audioPort.toNat
  | .videoPort => config.media.videoPort.toNat
  | .maxSessions => config.maxSessions.toNat
  | .workerThreads => config.workerThreads.toNat

/-- an int stored in the field -/
def store (config : ServerConfig) (n : ℤ) : NumericKey → ServerConfig
  | .sipServerPort => { config with sip.serverPort := UInt16.ofInt n }
  | .sipLocalPort => { config with sip.localPort := UInt16.ofInt n }
  | .audioPort => { config with media.audioPort := UInt16.ofInt n }
  | .videoPort => { config with media.videoPort := UInt16.ofInt n }
  | .maxSessions => { config with maxSessions := UInt32.ofInt n }
  | .workerThreads => { config with workerThreads := UInt32.ofInt n }

/-- the value that a line gives the key -/
def givenBy (key : NumericKey) (line : String) : Option String :=
  (keyValue? line).bind fun (name, val) => if name = key.name then some val else none

/-- the values that a file gives the key, in order -/
def given (key : NumericKey) (text : String) : List String := (getlines text).filterMap key.givenBy

/-- a decimal number within the range of the field -/
def valid? (key : NumericKey) (val : String) : Option ℕ :=
  (decimal? val).bind fun n => if 0 ≤ n ∧ n < 2 ^ key.width then some n.toNat else none

/-- the last valid value given for the key: a value that is not keeps the one before it, in the end the default -/
def lastValid (key : NumericKey) (vals : List String) : ℕ := (vals.filterMap key.valid?).getLast?.getD (key.field {})

/-- the last value is valid, or the number at its front happens to be cut to the value that is to be kept -/
def LastFits (key : NumericKey) (vals : List String) : Prop :=
  ∀ val ∈ vals.getLast?, (key.valid? val).isSome ∨
    ∃ n, stoi val = .ok n ∧ (n % 2 ^ key.width).toNat = key.lastValid vals

end NumericKey

/-- no exception leaves `LoadFromFile`, and every numeric key has the last valid value given for it -/
def LoadsRight (text : String) : Prop :=
  ∃ config, loadFromFile (some text) = .ok config ∧
    ∀ key : NumericKey, key.field config = key.lastValid (key.given text)

/-- every value given for a numeric key starts with a number that is an int -/
def Convertible (text : String) : Prop := ∀ key : NumericKey, ∀ val ∈ key.given text, ∃ n, stoi val = .ok n

/-! ## One line -/

theorem loadLine_eq (config : ServerConfig) (line : String) : loadLine config line =
    match keyValue? line with
    | none => .ok config
    | some (key, val) => assign config key val := by
  rw [loadLine, keyValue?]
  split_ifs <;> rfl

namespace NumericKey

theorem name_injective : Function.Injective name := by
  intro key key' h
  cases key <;> cases key' <;> first | rfl | exact absurd h (by decide)

theorem toNat_ofInt16 (n : ℤ) : (UInt16.ofInt n).toNat = (n % 2 ^ 16).toNat :=
  UInt16.toNat_ofNat_of_lt' (by rw [UInt16.size]; omega)

theorem toNat_ofInt32 (n : ℤ) : (UInt32.ofInt n).toNat = (n % 2 ^ 32).toNat :=
  UInt32.toNat_ofNat_of_lt' (by rw [UInt32.size]; omega)

/-- the field of the key takes the low bits of the int, the others stay -/
theorem field_store (config : ServerConfig) (n : ℤ) (key key' : NumericKey) :
    key'.field (key.store config n) = if key' = key then (n % 2 ^ key.width).toNat else key'.field config := by
  split_ifs with h
  · subst h
    cases key' with
    | sipServerPort | sipLocalPort | audioPort | videoPort => exact toNat_ofInt16 n
    | maxSessions | workerThreads => exact toNat_ofInt32 n
  · cases key <;> cases key' <;> first | rfl | exact absurd rfl h

/-- the key compared with the numeric ones, before and after the texts -/
theorem assign_name (config : ServerConfig) (key : NumericKey) (val : String) :
    assign config key.name val = (stoi val).map fun n => key.store config n := by
  cases key <;> cases h : stoi val <;> simp [assign, name, h, store] <;> rfl

theorem assign_other (config : ServerConfig) {name : String} (hname : ∀ key : NumericKey, name ≠ key.name)
    (val : String) :
    ∃ config', assign config name val = .ok config' ∧ ∀ key : NumericKey, key.field config' = key.field config := by
  have h1 : name ≠ "sip_server_port" := hname .sipServerPort
  have h2 : name ≠ "sip_local_port" := hname .sipLocalPort
  have h3 : name ≠ "audio_port" := hname .audioPort
  have h4 : name ≠ "video_port" := hname .videoPort
  have h5 : name ≠ "max_sessions" := hname .maxSessions
  have h6 : name ≠ "worker_threads" := hname .workerThreads
  unfold assign
  simp only [if_neg h1, if_neg h2, if_neg h3, if_neg h4, if_neg h5, if_neg h6]
  split_ifs
  all_goals exact ⟨_, rfl, fun key => by cases key <;> rfl⟩

/-- the number at the front of a value, cut to the field; what stands for the others is not used -/
def converted (key : NumericKey) (val : String) : ℕ :=
  match stoi val with
  | .ok n => (n % 2 ^ key.width).toNat
  | .error _ => 0

theorem converted_ok {key : NumericKey} {val : String} {n : ℤ} (h : stoi val = .ok n) :
    key.converted val = (n % 2 ^ key.width).toNat := by
  rw [converted, h]

end NumericKey

/-- what a line does: it gives one numeric key a value, or leaves all their fields -/
theorem loadLine_cases (config : ServerConfig) (line : String) :
    (∃ (key : NumericKey) (val : String),
        (∀ key' : NumericKey, key'.givenBy line = if key' = key then some val else none) ∧
        loadLine config line = (stoi val).map fun n => key.store config n) ∨
      (∀ key : NumericKey, key.givenBy line = none) ∧
        ∃ config', loadLine config line = .ok config' ∧ ∀ key : NumericKey, key.field config' = key.field config := by
  rw [loadLine_eq]
  unfold NumericKey.givenBy
  rcases keyValue? line with _ | ⟨name, val⟩
  · exact Or.inr ⟨fun _ => rfl, config, rfl, fun _ => rfl⟩
  · by_cases hnumeric : ∃ key : NumericKey, name = key.name
    · obtain ⟨key, rfl⟩ := hnumeric
      refine Or.inl ⟨key, val, fun key' => ?_, NumericKey.assign_name config key val⟩
      simp only [Option.bind_some, NumericKey.name_injective.eq_iff, eq_comm]
    · rw [not_exists] at hnumeric
      exact Or.inr ⟨fun key => if_neg (hnumeric key), NumericKey.assign_other config hnumeric val⟩

/-- **A line overwrites** the field of the numeric key that it gives a value -/
theorem overwrites : Overwrites loadLine
    (fun line => ∀ key : NumericKey, ∀ val ∈ key.givenBy line, ∃ n, stoi val = .ok n)
    (fun (key : NumericKey) config => key.field config) (fun key line => (key.givenBy line).map key.converted) where
  ok_iff config line := by
    rcases loadLine_cases config line with ⟨key, val, hgiven, hload⟩ | ⟨hnone, config', hload, -⟩
    · rw [hload]
      refine ⟨?_, ?_⟩
      · rintro ⟨config', hok⟩ key' val' hval'
        rw [hgiven] at hval'
        split_ifs at hval' with hkey
        · obtain rfl := Option.some.inj hval'
          cases hstoi : stoi val with
          | error e =>
            rw [hstoi] at hok
            cases hok
          | ok n => exact ⟨n, rfl⟩
        · cases hval'
      · intro hall
        obtain ⟨n, hn⟩ := hall key val (by rw [hgiven, if_pos rfl]; rfl)
        exact ⟨key.store config n, by rw [hn]; rfl⟩
    · refine iff_of_true ⟨config', hload⟩ fun key val hval => ?_
      rw [hnone key] at hval
      cases hval
  get_eq {config line config'} hok key' := by
    rcases loadLine_cases config line with ⟨key, val, hgiven, hload⟩ | ⟨hnone, config'', hload, hsame⟩
    · rw [hload] at hok
      cases hstoi : stoi val with
      | error e =>
        rw [hstoi] at hok
        cases hok
      | ok n =>
        rw [hstoi] at hok
        obtain rfl := Except.ok.inj hok
        rw [NumericKey.field_store, hgiven]
        split_ifs with hkey
        · rw [hkey, Option.map_some, NumericKey.converted_ok hstoi, Option.getD_some]
        · rfl
    · rw [hload] at hok
      obtain rfl := Except.ok.inj hok
      rw [hnone key', hsame key']
      rfl

/-! ## Decimal numbers -/

/-- white space is not skipped where a number starts at once -/
theorem dropWhile_number {val : String} (h : (IStream.takeNumber val.toList).2.1 ≠ []) :
    val.toList.dropWhile IStream.isSpace = val.toList := by
  refine dropWhile_head fun c hc => ?_
  obtain ⟨cs, hcs⟩ := List.head?_eq_some_iff.1 hc
  rw [hcs] at h
  by_contra hspace
  rw [Bool.not_eq_false] at hspace
  refine h ?_
  unfold IStream.takeNumber
  split
  · rename_i hsign
    obtain ⟨rfl, -⟩ := List.cons.inj hsign
    exact absurd hspace (by decide)
  · rename_i hsign
    obtain ⟨rfl, -⟩ := List.cons.inj hsign
    exact absurd hspace (by decide)
  · refine List.takeWhile_cons_of_neg fun hdigit => ?_
    rw [IStream.isSpace_of_isDigit hdigit] at hspace
    cases hspace

/-- `std::stoi` of a decimal number -/
theorem stoi_decimal {val : String} {n : ℤ} (h : decimal? val = some n) :
    stoi val = if n > 2147483647 ∨ n < -2147483648 then .error .outOfRange else .ok n := by
  have hskip : _ → val.toList.dropWhile IStream.isSpace = val.toList := dropWhile_number
  unfold decimal? at h
  unfold stoi
  rcases htake : IStream.takeNumber val.toList with ⟨neg, ds, rest⟩
  rw [htake] at h hskip
  simp only at h hskip
  obtain ⟨hnumber, hn⟩ := Option.ite_none_left_eq_some.1 h
  obtain ⟨hds, -⟩ := not_or.1 hnumber
  obtain rfl := Option.some.inj hn
  rw [hskip hds, htake]
  simp only [if_neg hds]

/-- a valid value that can be converted is stored as it is -/
theorem converted_valid {key : NumericKey} {val : String} {n : ℕ} (hvalid : key.valid? val = some n)
    (hstoi : ∃ m, stoi val = .ok m) : key.converted val = n := by
  obtain ⟨d, hd, hrange⟩ := Option.bind_eq_some_iff.1 hvalid
  obtain ⟨⟨hlow, hhigh⟩, hn⟩ := Option.ite_none_right_eq_some.1 hrange
  obtain ⟨m, hm⟩ := hstoi
  have hsame : m = d := by
    rw [stoi_decimal hd] at hm
    split_ifs at hm
    exact (Except.ok.inj hm).symm
  rw [NumericKey.converted_ok hm, hsame, Int.emod_eq_of_lt hlow hhigh]
  exact Option.some.inj hn

/-! ## Files -/

theorem filterMap_converted (key : NumericKey) (text : String) :
    ((getlines text).filterMap fun line => (key.givenBy line).map key.converted) =
      (key.given text).map key.converted := by
  rw [NumericKey.given, List.map_filterMap]

/-- what a file that is read leaves in the fields -/
theorem field_loadFromFile {text : String} {config : ServerConfig} (hload : loadFromFile (some text) = .ok config)
    (key : NumericKey) :
    key.field config = ((key.given text).map key.converted).getLast?.getD (key.field {}) := by
  rw [← filterMap_converted]
  exact overwrites.get_foldlM hload key

/-- the last value stored and the last valid one, where all can be converted -/
theorem lastFits_iff {key : NumericKey} {vals : List String} (hconv : ∀ val ∈ vals, ∃ n, stoi val = .ok n) :
    (vals.map key.converted).getLast?.getD (key.field {}) = key.lastValid vals ↔ key.LastFits vals := by
  have hvalid : ∀ val ∈ vals, ∀ n ∈ key.valid? val, key.converted val = n :=
    fun val hval n hn => converted_valid hn (hconv val hval)
  refine (last_eq_iff (key.field {}) hvalid).trans (forall₂_congr fun val hlast => or_congr_right ?_)
  obtain ⟨n, hn⟩ := hconv val (List.mem_of_mem_getLast? hlast)
  rw [NumericKey.converted_ok hn]
  refine ⟨fun heq => ⟨n, hn, heq⟩, ?_⟩
  rintro ⟨m, hm, heq⟩
  obtain rfl := Except.ok.inj (hn.symm.trans hm)
  exact heq

/-- **When a file is read right** -/
theorem loads_right_iff (text : String) :
    LoadsRight text ↔ Convertible text ∧ ∀ key : NumericKey, key.LastFits (key.given text) := by
  have hok : (∃ config, loadFromFile (some text) = .ok config) ↔ Convertible text := by
    refine (overwrites.foldlM_ok_iff {} (getlines text)).trans ?_
    simp only [Convertible, NumericKey.given, List.mem_filterMap]
    exact ⟨fun h key val ⟨line, hline, hval⟩ => h line hline key val hval,
      fun h line hline key val hval => h key val ⟨line, hline, hval⟩⟩
  refine ⟨?_, ?_⟩
  · rintro ⟨config, hload, hfields⟩
    have hconv : Convertible text := hok.1 ⟨config, hload⟩
    refine ⟨hconv, fun key => (lastFits_iff (hconv key)).1 ?_⟩
    rw [← field_loadFromFile hload key]
    exact hfields key
  · rintro ⟨hconv, hlast⟩
    obtain ⟨config, hload⟩ := hok.2 hconv
    refine ⟨config, hload, fun key => ?_⟩
    rw [field_loadFromFile hload key]
    exact (lastFits_iff (hconv key)).2 (hlast key)

/-- **A port that does not fit**: 70000 comes out as 4464 -/
theorem port_truncated : ¬ ∀ text, LoadsRight text := by
  intro h
  obtain ⟨config, hload, hfields⟩ := h "audio_port=70000"
  have hread : loadFromFile (some "audio_port=70000") = .ok { media := { audioPort := 4464 } } := by
    decide
  obtain rfl := Except.ok.inj (hload.symm.trans hread)
  have hport := hfields .audioPort
  revert hport
  decide

end Config

end Rtcom
