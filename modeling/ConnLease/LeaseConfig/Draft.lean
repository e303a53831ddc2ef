import ConnLease.LeaseConfig.Parser

/-!
# Configurations in the making

A draft is a configuration that is edited step by step. It builds its classifier at the first
request and keeps it: later requests get the same one. Adding a fatal code, starting anew and
reading a text throw the kept classifier away; writing the list of codes directly does not, and
neither does copying the draft. All drafts without extra codes share one standard classifier.
-/

namespace ConnLease

/-- A classifier as an object: the shared standard one, or one of the objects built, told apart by
their serial numbers. -/
inductive ClassifierRef where
  | standard
  | built (serial : Nat) (extra : List String)
deriving Repr, DecidableEq

def ClassifierRef.classifier : ClassifierRef → Classifier
  | .standard => .standard
  | .built _ extra => .withExtra extra

namespace LeaseConfig

structure Draft where
  config : LeaseConfig := {}
  /-- The classifier kept from the first request. -/
  kept : Option ClassifierRef := none
  /-- How many classifiers have been built so far. -/
  built : Nat := 0
deriving Repr, DecidableEq

namespace Draft

/-- The classifier of the draft, and the draft that keeps it. -/
def classifier (d : Draft) : Draft × ClassifierRef :=
  match d.kept with
  | some ref => (d, ref)
  | none =>
    if d.config.extraFatalStates.isEmpty then ({ d with kept := some .standard }, .standard)
    else
      let ref := .built d.built d.config.extraFatalStates
      ({ d with kept := some ref, built := d.built + 1 }, ref)

/-- One step of editing. -/
inductive Edit where
  | parse (text : String)
  | startAnew
  | copy
  | threshold (t : Option Duration)
  | capacity (n : Nat)
  | addFatalState (code : String)
  /-- Write the list of extra codes directly. -/
  | writeFatalStates (codes : List String)
  | validate
  | classifier
deriving Repr, DecidableEq

inductive Reply where
  | done
  | refused (e : ConfigError)
  | validated (result : Except ConfigError Unit)
  | classifier (ref : ClassifierRef)

def edit (d : Draft) : Edit → Draft × Reply
  | .parse text =>
    match LeaseConfig.parse text with
    | .ok config => ({ d with config, kept := none }, .done)
    | .error e => (d, .refused e)
  | .startAnew => ({ d with config := {}, kept := none }, .done)
  | .copy => (d, .done)
  | .threshold t => ({ d with config := { d.config with leakThreshold := t } }, .done)
  | .capacity n => ({ d with config := { d.config with statementCapacity := n } }, .done)
  | .addFatalState code =>
    let config := { d.config with extraFatalStates := d.config.extraFatalStates ++ [code] }
    ({ d with config, kept := none }, .done)
  | .writeFatalStates codes =>
    ({ d with config := { d.config with extraFatalStates := codes } }, .done)
  | .validate => (d, .validated d.config.validate)
  | .classifier =>
    let (d, ref) := d.classifier
    (d, .classifier ref)

/-- The events that a step of editing logs. -/
def Edit.events : Edit → List LogEvent
  | .parse text => parseEvents text
  | _ => []

theorem classifier_of_kept {d : Draft} {ref : ClassifierRef} (h : d.kept = some ref) :
    d.classifier = (d, ref) := by
  simp [classifier, h]

theorem kept_classifier (d : Draft) : d.classifier.1.kept = some d.classifier.2 := by
  unfold classifier
  split
  · assumption
  · split <;> rfl

/-- A draft that keeps no classifier builds one with its extra codes. -/
theorem classifier_of_not_kept {d : Draft} (h : d.kept = none) :
    d.classifier.2.classifier = .withExtra d.config.extraFatalStates := by
  unfold classifier
  rw [h]
  dsimp only
  split
  · rename_i hempty
    rw [List.isEmpty_iff.1 hempty, Classifier.withExtra_nil]
    rfl
  · rfl

/-- A second request changes nothing and gets the same classifier. -/
theorem classifier_classifier (d : Draft) : d.classifier.1.classifier = d.classifier :=
  classifier_of_kept d.kept_classifier

end Draft

end LeaseConfig

end ConnLease
