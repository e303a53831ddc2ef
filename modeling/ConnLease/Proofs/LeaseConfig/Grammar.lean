import Mathlib.Data.List.Forall2
import Mathlib.Data.List.Induction
import ConnLease.LeaseConfig.Parser
import ConnLease.Proofs.Text.Reading

/-!
# The grammar of configuration texts

A configuration text is described here without its parser: the parts that count, the key and the
value of a part, the value that stands last under an option. The parser accepts exactly the
grammatical texts, gives each option its last value, and refuses every other text with the message
of the first part that cannot be read; only if there is none, of the first code that is not a
SQLSTATE in the last list of codes.

What counts as a blank and what the lower case of a letter is, is left to `Text.trim` and
`Text.lowerCase`.
-/

namespace ConnLease.LeaseConfig

/-! ## Parts, keys and values -/

/-- The pieces that are more than blanks, without the blanks around them. -/
def trimmed (pieces : List (List Char)) : List (List Char) :=
  (pieces.map Text.trim).filter (!·.isEmpty)

/-- The parts of a configuration text that count. -/
def parts (text : String) : List (List Char) := trimmed (text.toList.splitOn ';')

/-- The key of a part stands before its first equals sign. -/
def keyOf (part : List Char) : String :=
  String.ofList (Text.lowerCase (Text.trim (part.takeWhile (· != '='))))

/-- The value of a part is what follows its first equals sign. -/
def valueOf (part : List Char) : List Char := Text.trim (part.dropWhile (· != '=')).tail

/-- The two spellings of the key of an option, in lower case. -/
def OptionKey.spellings : OptionKey → List String
  | .threshold => ["leakdetectionthreshold", "leak detection threshold"]
  | .capacity => ["statementcapacity", "statement capacity"]
  | .fatalStates => ["fatalsqlstates", "fatal sql states"]

/-- The value that stands last under an option, if there is one. -/
def lastValue (option : OptionKey) (text : String) : Option (List Char) :=
  (((parts text).filter (keyOf · ∈ option.spellings)).map valueOf).getLast?

/-- The items of a list of codes. -/
def items (value : List Char) : List String := (trimmed (value.splitOn ',')).map String.ofList

/-- The items of the last list of codes, and none without a list. -/
def lastCodes (text : String) : List String := ((lastValue .fatalStates text).map items).getD []

/-- Five ASCII letters or digits. -/
def IsCode (code : String) : Prop :=
  code.toList.length = 5 ∧
    ∀ c ∈ code.toList, ('0' ≤ c ∧ c ≤ '9') ∨ ('A' ≤ c ∧ c ≤ 'Z') ∨ ('a' ≤ c ∧ c ≤ 'z')

/-! ## The grammar -/

structure Grammatical (text : String) : Prop where
  keyed : ∀ part ∈ parts text, '=' ∈ part
  /-- All numbers are well written, also those that are overridden. -/
  numbers : ∀ part ∈ parts text,
    keyOf part ∈ OptionKey.threshold.spellings ∨ keyOf part ∈ OptionKey.capacity.spellings →
      ∃ n, Text.Denotes (valueOf part) n
  codes : ∀ code ∈ lastCodes text, IsCode code

/-- The configuration that a grammatical text describes. -/
structure Means (text : String) (config : LeaseConfig) : Prop where
  threshold : match lastValue .threshold text with
    | none => config.leakThreshold = none
    | some value => ∃ n, Text.Denotes value n ∧
        config.leakThreshold = if n = 0 then none else some (.ofMillis n)
  capacity : match lastValue .capacity text with
    | none => config.statementCapacity = 64
    | some value => Text.Denotes value config.statementCapacity
  codes : config.extraFatalStates = lastCodes text
  valid : config.validate = .ok ()

/-- A part cannot be read, with the message that says so. -/
inductive Fault (part : List Char) : String → Prop where
  | keyless : '=' ∉ part → Fault part ("invalid key-value: " ++ String.ofList part)
  | threshold : '=' ∈ part → keyOf part ∈ OptionKey.threshold.spellings →
      (¬ ∃ n, Text.Denotes (valueOf part) n) →
      Fault part ("invalid leak detection threshold: " ++ String.ofList (valueOf part))
  | capacity : '=' ∈ part → keyOf part ∈ OptionKey.capacity.spellings →
      (¬ ∃ n, Text.Denotes (valueOf part) n) →
      Fault part ("invalid statement capacity: " ++ String.ofList (valueOf part))

/-- A text is refused with a given message. -/
inductive Refusal (text : String) : String → Prop where
  | part {before after : List (List Char)} {part : List Char} {message : String} :
      parts text = before ++ part :: after → (∀ p ∈ before, ∀ m, ¬ Fault p m) →
      Fault part message → Refusal text message
  | code {before after : List String} {code : String} :
      (∀ p ∈ parts text, ∀ m, ¬ Fault p m) → lastCodes text = before ++ code :: after →
      (∀ c ∈ before, IsCode c) → ¬ IsCode code →
      Refusal text ("invalid SQLSTATE '" ++ code ++ "': must be exactly 5 letters or digits")

/-! ## Reading one part -/

theorem OptionKey.ofText?_eq_some_iff {key : String} {option : OptionKey} :
    OptionKey.ofText? key = some option ↔ key ∈ option.spellings := by
  constructor
  · intro h
    unfold ofText? at h
    split at h
    · cases h
      simpa [spellings] using ‹_›
    · split at h
      · cases h
        simpa [spellings] using ‹_›
      · split at h
        · cases h
          simpa [spellings] using ‹_›
        · cases h
  · intro h
    cases option <;>
      · simp only [spellings, List.mem_cons, List.not_mem_nil, or_false] at h
        rcases h with rfl | rfl <;> decide

theorem isSqlState_iff (code : String) : isSqlState code = true ↔ IsCode code := by
  simp [isSqlState, IsCode, isLetterOrDigit, Text.isDigit, or_assoc]

theorem readCodes_eq (value : List Char) : readCodes value = items value := by
  unfold readCodes items trimmed
  rw [Text.splitOn_eq]

/-- Read a part that is more than blanks. -/
def readPart (part : List Char) : Except ConfigError Setting :=
  if '=' ∈ part then
    readSetting (Text.lowerCase (Text.trim (part.takeWhile (· != '=')))) (valueOf part)
  else .error (.missingValue (String.ofList part))

theorem readOption_eq (piece : List Char) :
    readOption piece =
      if (Text.trim piece).isEmpty then .ok none else (readPart (Text.trim piece)).map some := by
  unfold readOption readPart
  dsimp only
  split
  · rfl
  · by_cases h : '=' ∈ Text.trim piece
    · rw [Text.splitFirst_of_mem h, if_pos h]
      rfl
    · rw [Text.splitFirst_eq_none_iff.2 h, if_neg h]
      rfl

/-- A part with an equals sign is read as its key wants it. -/
theorem readPart_of_mem {part : List Char} (h : '=' ∈ part) :
    readPart part =
      match OptionKey.ofText? (keyOf part) with
      | some .threshold =>
        match Text.readUnsigned (valueOf part) with
        | some millis => .ok (.threshold millis)
        | none => .error (.badThreshold (String.ofList (valueOf part)))
      | some .capacity =>
        match Text.readUnsigned (valueOf part) with
        | some n => .ok (.capacity n)
        | none => .error (.badCapacity (String.ofList (valueOf part)))
      | some .fatalStates => .ok (.fatalStates (items (valueOf part)))
      | none => .ok (.unknown (keyOf part) (String.ofList (valueOf part))) := by
  unfold readPart readSetting
  rw [if_pos h, readCodes_eq]
  rfl

theorem fault_of_readPart {part : List Char} {e : ConfigError} (h : readPart part = .error e) :
    Fault part e.message := by
  by_cases hmem : '=' ∈ part
  · rw [readPart_of_mem hmem] at h
    split at h
    · rename_i hkey
      split at h
      · cases h
      · rename_i hvalue
        cases h
        exact .threshold hmem (OptionKey.ofText?_eq_some_iff.1 hkey)
          (Text.readUnsigned_eq_none_iff.1 hvalue)
    · rename_i hkey
      split at h
      · cases h
      · rename_i hvalue
        cases h
        exact .capacity hmem (OptionKey.ofText?_eq_some_iff.1 hkey)
          (Text.readUnsigned_eq_none_iff.1 hvalue)
    · cases h
    · cases h
  · unfold readPart at h
    rw [if_neg hmem] at h
    cases h
    exact .keyless hmem

theorem readPart_of_fault {part : List Char} {m : String} (h : Fault part m) :
    ∃ e, readPart part = .error e := by
  cases h with
  | keyless hmem => exact ⟨_, if_neg hmem⟩
  | threshold hmem hkey hvalue =>
    rw [readPart_of_mem hmem, OptionKey.ofText?_eq_some_iff.2 hkey,
      Text.readUnsigned_eq_none_iff.2 hvalue]
    exact ⟨_, rfl⟩
  | capacity hmem hkey hvalue =>
    rw [readPart_of_mem hmem, OptionKey.ofText?_eq_some_iff.2 hkey,
      Text.readUnsigned_eq_none_iff.2 hvalue]
    exact ⟨_, rfl⟩

/-- A part that is read is without fault. -/
theorem faultless_of_readPart {part : List Char} {setting : Setting}
    (h : readPart part = .ok setting) (m : String) : ¬ Fault part m := by
  intro hfault
  obtain ⟨e, he⟩ := readPart_of_fault hfault
  rw [h] at he
  cases he

/-! ## Reading all parts -/

theorem trimmed_cons (piece : List Char) (pieces : List (List Char)) :
    trimmed (piece :: pieces) =
      if (Text.trim piece).isEmpty then trimmed pieces else Text.trim piece :: trimmed pieces := by
  unfold trimmed
  rw [List.map_cons, List.filter_cons]
  cases (Text.trim piece).isEmpty <;> rfl

/-- All parts are read in order, or those before the first one that cannot be read. -/
theorem readSettings_cases (pieces : List (List Char)) :
    (∃ settings, readSettings pieces = (settings, none) ∧
        List.Forall₂ (fun part setting => readPart part = .ok setting) (trimmed pieces) settings) ∨
      ∃ settings e before part after, readSettings pieces = (settings, some e) ∧
        trimmed pieces = before ++ part :: after ∧
        (∀ p ∈ before, ∃ setting, readPart p = .ok setting) ∧ readPart part = .error e := by
  induction pieces with
  | nil => exact .inl ⟨[], rfl, .nil⟩
  | cons piece pieces ih =>
    rw [trimmed_cons, readSettings, readOption_eq]
    by_cases hblank : (Text.trim piece).isEmpty = true
    · rw [if_pos hblank, if_pos hblank]
      exact ih
    · rw [if_neg hblank, if_neg hblank]
      cases hpart : readPart (Text.trim piece) with
      | error e => exact .inr ⟨[], e, [], _, _, rfl, rfl, fun p hp => (by cases hp), hpart⟩
      | ok setting =>
        rcases ih with ⟨settings, hread, hall⟩ |
          ⟨settings, e, before, part, after, hread, hsplit, hbefore, he⟩
        · exact .inl ⟨setting :: settings, by simp [Except.map, hread], .cons hpart hall⟩
        · refine .inr ⟨setting :: settings, e, Text.trim piece :: before, part, after,
            by simp [Except.map, hread], by rw [hsplit]; rfl, ?_, he⟩
          intro p hp
          rcases List.mem_cons.1 hp with rfl | hp
          · exact ⟨setting, hpart⟩
          · exact hbefore p hp

/-- What parsing a text comes down to. -/
theorem parse_cases (text : String) :
    (∃ settings, List.Forall₂ (fun part setting => readPart part = .ok setting) (parts text)
        settings ∧
      parse text = (settings.foldl apply {}).validate.map fun _ => settings.foldl apply {}) ∨
      ∃ e before part after, parts text = before ++ part :: after ∧
        (∀ p ∈ before, ∃ setting, readPart p = .ok setting) ∧ readPart part = .error e ∧
        parse text = .error e := by
  unfold parse parts
  rw [Text.splitOn_eq]
  rcases readSettings_cases (text.toList.splitOn ';') with
    ⟨settings, hread, hall⟩ | ⟨settings, e, before, part, after, hread, hsplit, hbefore, he⟩
  · exact .inl ⟨settings, hall, by rw [hread]⟩
  · exact .inr ⟨e, before, part, after, hsplit, hbefore, he, by rw [hread]⟩

/-! ## The last value wins -/

/-- A field that some settings overwrite has the value of the last one that does. -/
theorem field_foldl_apply {α : Type} (field : LeaseConfig → α) (given : Setting → Option α)
    (h : ∀ config setting, field (apply config setting) = (given setting).getD (field config))
    (config : LeaseConfig) (settings : List Setting) :
    field (settings.foldl apply config) =
      (settings.filterMap given).getLast?.getD (field config) := by
  induction settings using List.reverseRecOn with
  | nil => rfl
  | append_singleton settings setting ih =>
    rw [List.foldl_append, List.filterMap_append]
    dsimp only [List.foldl_cons, List.foldl_nil]
    rw [h, ih]
    cases hgiven : given setting <;> simp [hgiven]

/-- The settings that an option gives are those of the parts under its key. -/
theorem filterMap_given {α : Type} {option : OptionKey} {given : Setting → Option α}
    {read : List Char → α}
    (hgiven : ∀ part setting, readPart part = .ok setting →
      given setting =
        if keyOf part ∈ option.spellings then some (read (valueOf part)) else none)
    {ps : List (List Char)} {settings : List Setting}
    (hall : List.Forall₂ (fun part setting => readPart part = .ok setting) ps settings) :
    settings.filterMap given =
      ((ps.filter (keyOf · ∈ option.spellings)).map valueOf).map read := by
  induction hall with
  | nil => rfl
  | @cons part setting ps settings hpart _ ih =>
    rw [List.filterMap_cons, hgiven part setting hpart, List.filter_cons]
    by_cases hkey : keyOf part ∈ option.spellings
    · simp [hkey, ih]
    · simp [hkey, ih]

/-- A field that one option writes is read off the last value under this option, and stays what it
was if there is none. -/
theorem field_eq_lastValue {α : Type} (field : LeaseConfig → α) (given : Setting → Option α)
    {option : OptionKey} {read : List Char → α}
    (hfield : ∀ config setting, field (apply config setting) = (given setting).getD (field config))
    (hgiven : ∀ part setting, readPart part = .ok setting →
      given setting =
        if keyOf part ∈ option.spellings then some (read (valueOf part)) else none)
    {text : String} {settings : List Setting}
    (hall : List.Forall₂ (fun part setting => readPart part = .ok setting) (parts text)
      settings) (config : LeaseConfig) :
    field (settings.foldl apply config) =
      ((lastValue option text).map read).getD (field config) := by
  rw [field_foldl_apply field given hfield, filterMap_given hgiven hall, List.getLast?_map]
  rfl

/-- What a part gives that is read. -/
theorem readPart_ok_cases {part : List Char} {setting : Setting}
    (h : readPart part = .ok setting) :
    '=' ∈ part ∧ match OptionKey.ofText? (keyOf part) with
      | some .threshold => ∃ n, Text.Denotes (valueOf part) n ∧ setting = .threshold n
      | some .capacity => ∃ n, Text.Denotes (valueOf part) n ∧ setting = .capacity n
      | some .fatalStates => setting = .fatalStates (items (valueOf part))
      | none => ∃ key value, setting = .unknown key value := by
  have hmem : '=' ∈ part := by
    by_contra hmem
    exact faultless_of_readPart h _ (.keyless hmem)
  refine ⟨hmem, ?_⟩
  rw [readPart_of_mem hmem] at h
  split at h
  · split at h
    · rename_i hvalue
      cases h
      exact ⟨_, Text.readUnsigned_eq_some_iff.1 hvalue, rfl⟩
    · cases h
  · split at h
    · rename_i hvalue
      cases h
      exact ⟨_, Text.readUnsigned_eq_some_iff.1 hvalue, rfl⟩
    · cases h
  · cases h
    rfl
  · cases h
    exact ⟨_, _, rfl⟩

/-- Zero milliseconds stand for no threshold. -/
def thresholdOf (millis : Nat) : Option Duration :=
  if millis = 0 then none else some (.ofMillis millis)

def Setting.threshold? : Setting → Option (Option Duration)
  | .threshold millis => some (thresholdOf millis)
  | _ => none

def Setting.capacity? : Setting → Option Nat
  | .capacity n => some n
  | _ => none

def Setting.codes? : Setting → Option (List String)
  | .fatalStates codes => some codes
  | _ => none

/-- The number that a value writes; what it is for other values does not matter. -/
def numberOf (value : List Char) : Nat := (Text.readUnsigned value).getD 0

theorem numberOf_eq {value : List Char} {n : Nat} (h : Text.Denotes value n) :
    numberOf value = n := by
  unfold numberOf
  rw [Text.readUnsigned_eq_some_iff.2 h]
  rfl

theorem given_of_readPart {part : List Char} {setting : Setting}
    (h : readPart part = .ok setting) :
    setting.threshold? = (if keyOf part ∈ OptionKey.threshold.spellings then
        some (thresholdOf (numberOf (valueOf part))) else none) ∧
      setting.capacity? = (if keyOf part ∈ OptionKey.capacity.spellings then
        some (numberOf (valueOf part)) else none) ∧
      setting.codes? = (if keyOf part ∈ OptionKey.fatalStates.spellings then
        some (items (valueOf part)) else none) := by
  have hcases := (readPart_ok_cases h).2
  simp only [← OptionKey.ofText?_eq_some_iff]
  cases hkey : OptionKey.ofText? (keyOf part) with
  | none =>
    rw [hkey] at hcases
    obtain ⟨key, value, rfl⟩ := hcases
    simp [Setting.threshold?, Setting.capacity?, Setting.codes?]
  | some option =>
    rw [hkey] at hcases
    cases option with
    | threshold =>
      obtain ⟨n, hn, rfl⟩ := hcases
      simp [Setting.threshold?, Setting.capacity?, Setting.codes?, numberOf_eq hn]
    | capacity =>
      obtain ⟨n, hn, rfl⟩ := hcases
      simp [Setting.threshold?, Setting.capacity?, Setting.codes?, numberOf_eq hn]
    | fatalStates =>
      obtain rfl := hcases
      simp [Setting.threshold?, Setting.capacity?, Setting.codes?]

section

variable {text : String} {settings : List Setting}
  (hall : List.Forall₂ (fun part setting => readPart part = .ok setting) (parts text) settings)
include hall

theorem leakThreshold_eq (config : LeaseConfig) : (settings.foldl apply config).leakThreshold =
    ((lastValue .threshold text).map (thresholdOf <| numberOf ·)).getD config.leakThreshold := by
  refine field_eq_lastValue (·.leakThreshold) Setting.threshold? ?_
    (fun _ _ h => (given_of_readPart h).1) hall config
  intro config setting
  cases setting <;> rfl

theorem statementCapacity_eq (config : LeaseConfig) :
    (settings.foldl apply config).statementCapacity =
      ((lastValue .capacity text).map numberOf).getD config.statementCapacity := by
  refine field_eq_lastValue (·.statementCapacity) Setting.capacity? ?_
    (fun _ _ h => (given_of_readPart h).2.1) hall config
  intro config setting
  cases setting <;> rfl

theorem extraFatalStates_foldl (config : LeaseConfig) :
    (settings.foldl apply config).extraFatalStates =
      ((lastValue .fatalStates text).map items).getD config.extraFatalStates := by
  refine field_eq_lastValue (·.extraFatalStates) Setting.codes? ?_
    (fun _ _ h => (given_of_readPart h).2.2) hall config
  intro config setting
  cases setting <;> rfl

theorem extraFatalStates_eq : (settings.foldl apply {}).extraFatalStates = lastCodes text :=
  extraFatalStates_foldl hall {}

end

/-! ## The parser and the grammar -/

theorem thresholdOf_ne_zero (millis : Nat) : thresholdOf millis ≠ some .zero := by
  unfold thresholdOf
  split
  · simp
  · rename_i hmillis
    intro h
    have hnanos : millis * 1000000 = 0 := congrArg Duration.nanos (Option.some.inj h)
    omega

/-- A configuration without a zero threshold is refused for its first wrong code. -/
theorem validate_cases {config : LeaseConfig} (h : config.leakThreshold ≠ some .zero) :
    (config.validate = .ok () ∧ ∀ code ∈ config.extraFatalStates, IsCode code) ∨
      ∃ before code after, config.validate = .error (.badSqlState code) ∧
        config.extraFatalStates = before ++ code :: after ∧ (∀ c ∈ before, IsCode c) ∧
        ¬ IsCode code := by
  unfold validate
  rw [if_neg h]
  cases hfind : config.extraFatalStates.find? (!isSqlState ·) with
  | none =>
    refine .inl ⟨rfl, ?_⟩
    simpa [isSqlState_iff] using hfind
  | some code =>
    obtain ⟨hbad, before, after, hsplit, hgood⟩ := List.find?_eq_some_iff_append.1 hfind
    refine .inr ⟨before, code, after, rfl, hsplit, ?_, ?_⟩
    · simpa [isSqlState_iff] using hgood
    · simpa [← isSqlState_iff] using hbad

theorem exists_part_of_lastValue {option : OptionKey} {text : String} {value : List Char}
    (h : lastValue option text = some value) :
    ∃ part ∈ parts text, keyOf part ∈ option.spellings ∧ valueOf part = value := by
  obtain ⟨part, hpart, hvalue⟩ := List.mem_map.1 (List.mem_of_getLast? h)
  rw [List.mem_filter, decide_eq_true_eq] at hpart
  exact ⟨part, hpart.1, hpart.2, hvalue⟩

theorem faultless_of_grammatical {text : String} (h : Grammatical text) {part : List Char}
    (hpart : part ∈ parts text) (m : String) : ¬ Fault part m := by
  intro hfault
  cases hfault with
  | keyless hmem => exact hmem (h.keyed part hpart)
  | threshold _ hkey hvalue => exact hvalue (h.numbers part hpart (.inl hkey))
  | capacity _ hkey hvalue => exact hvalue (h.numbers part hpart (.inr hkey))

theorem denotes_of_faultless {part : List Char} (h : ∀ m, ¬ Fault part m) (hmem : '=' ∈ part)
    (hkey : keyOf part ∈ OptionKey.threshold.spellings ∨
      keyOf part ∈ OptionKey.capacity.spellings) : ∃ n, Text.Denotes (valueOf part) n := by
  by_contra hvalue
  rcases hkey with hkey | hkey
  · exact h _ (.threshold hmem hkey hvalue)
  · exact h _ (.capacity hmem hkey hvalue)

section

variable {text : String} {settings : List Setting}
  (hall : List.Forall₂ (fun part setting => readPart part = .ok setting) (parts text) settings)
include hall

theorem keyed_of_read {part : List Char} (hpart : part ∈ parts text) :
    '=' ∈ part ∧ ∀ m, ¬ Fault part m := by
  obtain ⟨i, hi, rfl⟩ := List.getElem_of_mem hpart
  have hread := hall.get hi (hall.length_eq ▸ hi)
  exact ⟨(readPart_ok_cases hread).1, faultless_of_readPart hread⟩

theorem denotes_lastValue {option : OptionKey} (hoption : option ≠ .fatalStates)
    {value : List Char} (hvalue : lastValue option text = some value) :
    Text.Denotes value (numberOf value) := by
  obtain ⟨part, hpart, hkey, rfl⟩ := exists_part_of_lastValue hvalue
  obtain ⟨hmem, hfault⟩ := keyed_of_read hall hpart
  have hnumber : ∃ n, Text.Denotes (valueOf part) n := by
    refine denotes_of_faultless hfault hmem ?_
    cases option with
    | threshold => exact .inl hkey
    | capacity => exact .inr hkey
    | fatalStates => exact absurd rfl hoption
  obtain ⟨n, hn⟩ := hnumber
  rwa [numberOf_eq hn]

theorem grammatical_of_read
    (hcodes : ∀ code ∈ (settings.foldl apply {}).extraFatalStates, IsCode code) :
    Grammatical text where
  keyed := fun _ hpart => (keyed_of_read hall hpart).1
  numbers := fun _ hpart =>
    denotes_of_faultless (keyed_of_read hall hpart).2 (keyed_of_read hall hpart).1
  codes := by rwa [extraFatalStates_eq hall] at hcodes

theorem means_of_read (hvalid : (settings.foldl apply {}).validate = .ok ()) :
    Means text (settings.foldl apply {}) where
  threshold := by
    rw [leakThreshold_eq hall]
    cases hvalue : lastValue .threshold text with
    | none => rfl
    | some value => exact ⟨_, denotes_lastValue hall (by decide) hvalue, rfl⟩
  capacity := by
    rw [statementCapacity_eq hall]
    cases hvalue : lastValue .capacity text with
    | none => rfl
    | some value => exact denotes_lastValue hall (by decide) hvalue
  codes := extraFatalStates_eq hall
  valid := hvalid

end

/-- What the parser makes of a text. -/
structure FollowsGrammar (text : String) : Prop where
  accepts : (∃ config, parse text = .ok config) ↔ Grammatical text
  means : ∀ config, parse text = .ok config → Means text config
  refuses : ∀ e, parse text = .error e → Refusal text e.message

theorem FollowsGrammar.of_ok {text : String} {config : LeaseConfig} (h : parse text = .ok config)
    (hgrammatical : Grammatical text) (hmeans : Means text config) : FollowsGrammar text where
  accepts := ⟨fun _ => hgrammatical, fun _ => ⟨config, h⟩⟩
  means := by
    intro config' h'
    obtain rfl := Except.ok.inj (h.symm.trans h')
    exact hmeans
  refuses := by
    intro e h'
    cases h.symm.trans h'

theorem FollowsGrammar.of_error {text : String} {e : ConfigError} (h : parse text = .error e)
    (hnot : ¬ Grammatical text) (hrefusal : Refusal text e.message) : FollowsGrammar text where
  accepts := by
    refine ⟨?_, fun hgrammatical => absurd hgrammatical hnot⟩
    rintro ⟨config, h'⟩
    cases h.symm.trans h'
  means := by
    intro config h'
    cases h.symm.trans h'
  refuses := by
    intro e' h'
    obtain rfl := Except.error.inj (h.symm.trans h')
    exact hrefusal

theorem parse_follows_grammar (text : String) : FollowsGrammar text := by
  rcases parse_cases text with
    ⟨settings, hall, hparse⟩ | ⟨e, before, part, after, hsplit, hbefore, he, hparse⟩
  · have hthreshold : (settings.foldl apply {}).leakThreshold ≠ some .zero := by
      rw [leakThreshold_eq hall]
      cases lastValue .threshold text with
      | none => simp
      | some value => exact thresholdOf_ne_zero _
    rcases validate_cases hthreshold with
      ⟨hvalid, hcodes⟩ | ⟨before, code, after, hvalid, hsplit, hgood, hbad⟩
    · rw [hvalid] at hparse
      exact .of_ok hparse (grammatical_of_read hall hcodes) (means_of_read hall hvalid)
    · rw [hvalid] at hparse
      rw [extraFatalStates_eq hall] at hsplit
      have hcode : code ∈ lastCodes text := by rw [hsplit]; simp
      exact .of_error hparse (fun hgrammatical => hbad (hgrammatical.codes code hcode))
        (.code (fun _ hp => (keyed_of_read hall hp).2) hsplit hgood hbad)
  · have hpart : part ∈ parts text := by rw [hsplit]; simp
    have hfault := fault_of_readPart he
    refine .of_error hparse
      (fun hgrammatical => faultless_of_grammatical hgrammatical hpart _ hfault)
      (.part hsplit ?_ hfault)
    intro p hp
    obtain ⟨setting, hread⟩ := hbefore p hp
    exact faultless_of_readPart hread

/-- A number that is overridden still has to be a number, while of the lists of codes only the last
one is looked at. -/
example :
    parse "statementCapacity=x; Statement Capacity = +007" = .error (.badCapacity "x") ∧
      parse "fatalSqlStates=TOOLONG;Fatal SQL States=HY000,,hy000" =
        .ok { extraFatalStates := ["HY000", "hy000"] } := by
  decide

end ConnLease.LeaseConfig
