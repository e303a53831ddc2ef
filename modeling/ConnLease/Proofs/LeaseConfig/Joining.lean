import ConnLease.LeaseConfig.Draft
import ConnLease.Proofs.LeaseConfig.Grammar

/-!
# Joined configuration texts

Two accepted texts with a semicolon between them are accepted as one text. What the second text says
counts, also when it says no threshold or no codes; where it says nothing, the first text counts.
-/

namespace ConnLease.LeaseConfig

/-! ## The parts of a joined text -/

theorem trimmed_append (pieces more : List (List Char)) :
    trimmed (pieces ++ more) = trimmed pieces ++ trimmed more := by
  unfold trimmed
  rw [List.map_append, List.filter_append]

theorem parts_join (s t : String) : parts (s ++ ";" ++ t) = parts s ++ parts t := by
  have hlist : (s ++ ";" ++ t).toList = s.toList ++ ';' :: t.toList := by
    rw [String.toList_append, String.toList_append, List.append_assoc]
    rfl
  unfold parts
  rw [hlist, ← Text.splitOn_eq, ← Text.splitOn_eq, ← Text.splitOn_eq, Text.splitOn_append,
    trimmed_append]

/-! ## Accepted texts -/

theorem read_of_parse {text : String} {config : LeaseConfig} (h : parse text = .ok config) :
    ∃ settings, List.Forall₂ (fun part setting => readPart part = .ok setting) (parts text)
        settings ∧ settings.foldl apply {} = config ∧ config.validate = .ok () := by
  rcases parse_cases text with ⟨settings, hall, hparse⟩ | ⟨e, _, _, _, _, _, _, hparse⟩
  · rw [h] at hparse
    cases hvalid : (settings.foldl apply {}).validate with
    | error e => rw [hvalid] at hparse; cases hparse
    | ok =>
      rw [hvalid] at hparse
      obtain rfl := Except.ok.inj hparse
      exact ⟨settings, hall, rfl, hvalid⟩
  · rw [h] at hparse
    cases hparse

theorem parse_of_read {text : String} {settings : List Setting}
    (hall : List.Forall₂ (fun part setting => readPart part = .ok setting) (parts text) settings)
    (hvalid : (settings.foldl apply {}).validate = .ok ()) :
    parse text = .ok (settings.foldl apply {}) := by
  rcases parse_cases text with
    ⟨settings', hall', hparse⟩ | ⟨e, before, part, after, hsplit, _, he, _⟩
  · have hsame : settings' = settings := by
      refine List.right_unique_forall₂' ?_ hall' hall
      intro part a b ha hb
      exact Except.ok.inj (ha.symm.trans hb)
    rw [hparse, hsame, hvalid]
    rfl
  · have hpart : part ∈ parts text := by rw [hsplit]; simp
    exact absurd (fault_of_readPart he) ((keyed_of_read hall hpart).2 _)

/-! ## What the second text overrides -/

/-- A part of the text has the option for its key, whatever its value is. -/
def Sets (text : String) (option : OptionKey) : Prop :=
  ∃ part ∈ parts text, keyOf part ∈ option.spellings

instance (text : String) (option : OptionKey) : Decidable (Sets text option) :=
  inferInstanceAs (Decidable (∃ part ∈ parts text, keyOf part ∈ option.spellings))

theorem lastValue_of_sets {text : String} {option : OptionKey} (h : Sets text option) :
    ∃ value, lastValue option text = some value := by
  obtain ⟨part, hpart, hkey⟩ := h
  rw [← Option.isSome_iff_exists, Option.isSome_iff_ne_none]
  unfold lastValue
  rw [ne_eq, List.getLast?_eq_none_iff, List.map_eq_nil_iff, List.filter_eq_nil_iff]
  intro hnone
  exact hnone part hpart (decide_eq_true hkey)

theorem lastValue_of_not_sets {text : String} {option : OptionKey} (h : ¬ Sets text option) :
    lastValue option text = none := by
  cases hvalue : lastValue option text with
  | none => rfl
  | some value =>
    obtain ⟨part, hpart, hkey, -⟩ := exists_part_of_lastValue hvalue
    exact absurd ⟨part, hpart, hkey⟩ h

/-- Of the configurations of two texts the one that an option is taken from when the texts are
joined; `t` is the second text. -/
def supplier (t : String) (first second : LeaseConfig) (option : OptionKey) : LeaseConfig :=
  if Sets t option then second else first

/-- The classifier that is got from a configuration that has just been read. -/
def firstClassifier (config : LeaseConfig) : Classifier :=
  ({ config } : Draft).classifier.2.classifier

/-- How the configuration `joined` is put together from those of two texts. -/
structure Overrides (t : String) (first second joined : LeaseConfig) : Prop where
  threshold : joined.leakThreshold = (supplier t first second .threshold).leakThreshold
  capacity : joined.statementCapacity = (supplier t first second .capacity).statementCapacity
  codes : joined.extraFatalStates = (supplier t first second .fatalStates).extraFatalStates
  verdicts : ∀ code, joined.firstClassifier.judgeCode code =
    (supplier t first second .fatalStates).firstClassifier.judgeCode code

theorem field_supplier {α : Type} {field : LeaseConfig → α} {t : String} {option : OptionKey}
    {read : List Char → α} {settings : List Setting}
    (hfield : ∀ config, field (settings.foldl apply config) =
      ((lastValue option t).map read).getD (field config)) (first : LeaseConfig) :
    field (settings.foldl apply first) =
      field (supplier t first (settings.foldl apply {}) option) := by
  unfold supplier
  split
  · rename_i hsets
    obtain ⟨value, hvalue⟩ := lastValue_of_sets hsets
    rw [hfield, hfield, hvalue]
    rfl
  · rename_i hsets
    rw [hfield, lastValue_of_not_sets hsets]
    rfl

theorem overrides_of_read {t : String} {settings : List Setting}
    (hall : List.Forall₂ (fun part setting => readPart part = .ok setting) (parts t) settings)
    (first : LeaseConfig) :
    Overrides t first (settings.foldl apply {}) (settings.foldl apply first) where
  threshold := field_supplier (leakThreshold_eq hall) first
  capacity := field_supplier (statementCapacity_eq hall) first
  codes := field_supplier (extraFatalStates_foldl hall) first
  verdicts := by
    intro code
    unfold firstClassifier
    rw [Draft.classifier_of_not_kept rfl, Draft.classifier_of_not_kept rfl]
    dsimp only
    rw [field_supplier (extraFatalStates_foldl hall) first]

theorem Overrides.validate {t : String} {first second joined : LeaseConfig}
    (h : Overrides t first second joined) (hfirst : first.validate = .ok ())
    (hsecond : second.validate = .ok ()) : joined.validate = .ok () := by
  have hsupplier : ∀ option, (supplier t first second option).validate = .ok () := by
    intro option
    unfold supplier
    split
    · exact hsecond
    · exact hfirst
  rw [validate_eq_ok_iff, h.threshold, h.codes]
  exact ⟨((validate_eq_ok_iff _).1 (hsupplier .threshold)).1,
    ((validate_eq_ok_iff _).1 (hsupplier .fatalStates)).2⟩

/-- Joined texts are read as one configuration in which the second text overrides the first. -/
theorem parse_join {s t : String} {first second : LeaseConfig} (hs : parse s = .ok first)
    (ht : parse t = .ok second) :
    ∃ joined, parse (s ++ ";" ++ t) = .ok joined ∧ Overrides t first second joined := by
  obtain ⟨before, hbefore, rfl, hfirst⟩ := read_of_parse hs
  obtain ⟨after, hafter, rfl, hsecond⟩ := read_of_parse ht
  have hoverrides := overrides_of_read hafter (before.foldl apply {})
  have hall : List.Forall₂ (fun part setting => readPart part = .ok setting)
      (parts (s ++ ";" ++ t)) (before ++ after) := by
    rw [parts_join]
    exact List.rel_append hbefore hafter
  have hjoined : (before ++ after).foldl apply {} = after.foldl apply (before.foldl apply {}) :=
    List.foldl_append
  refine ⟨after.foldl apply (before.foldl apply {}), ?_, hoverrides⟩
  rw [← hjoined]
  exact parse_of_read hall (by rw [hjoined]; exact hoverrides.validate hfirst hsecond)

/-- The second text takes the threshold and the codes back and leaves the capacity as it is. -/
theorem parse_join_takenBack :
    parse "leakDetectionThreshold=5000;statementCapacity=8;fatalSqlStates=HY000" =
        .ok { leakThreshold := some (.ofMillis 5000), statementCapacity := 8,
              extraFatalStates := ["HY000"] } ∧
      parse " fatal sql states = ;LEAKDETECTIONTHRESHOLD=0" = .ok {} ∧
      ∃ joined, parse ("leakDetectionThreshold=5000;statementCapacity=8;fatalSqlStates=HY000" ++
          ";" ++ " fatal sql states = ;LEAKDETECTIONTHRESHOLD=0") = .ok joined ∧
        Overrides " fatal sql states = ;LEAKDETECTIONTHRESHOLD=0"
          { leakThreshold := some (.ofMillis 5000), statementCapacity := 8,
            extraFatalStates := ["HY000"] } {} joined := by
  have hfirst : parse "leakDetectionThreshold=5000;statementCapacity=8;fatalSqlStates=HY000" =
      .ok { leakThreshold := some (.ofMillis 5000), statementCapacity := 8,
            extraFatalStates := ["HY000"] } := by
    decide
  have hsecond : parse " fatal sql states = ;LEAKDETECTIONTHRESHOLD=0" = .ok {} := by decide
  exact ⟨hfirst, hsecond, parse_join hfirst hsecond⟩

end ConnLease.LeaseConfig
