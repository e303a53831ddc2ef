import ConnLease.Classifier
import ConnLease.Duration
import ConnLease.LeaseError
import ConnLease.Text.Numeral

/-!
# Configuration of connections

How a pool sets up the connections that it makes: after which time a borrowed connection counts as
leaked, how many statements to expect, and which SQLSTATE codes are fatal besides the standard ones.
-/

namespace ConnLease

structure LeaseConfig where
  /-- No threshold means no leak detection. -/
  leakThreshold : Option Duration := none
  statementCapacity : Nat := 64
  extraFatalStates : List String := []
deriving Repr, DecidableEq

namespace LeaseConfig

def isLetterOrDigit (c : Char) : Bool :=
  Text.isDigit c || ('A' ≤ c && c ≤ 'Z') || ('a' ≤ c && c ≤ 'z')

/-- A SQLSTATE is written with exactly five ASCII letters or digits. -/
def isSqlState (code : String) : Bool :=
  code.toList.length == 5 && code.toList.all isLetterOrDigit

/-- A configuration is valid if its threshold, when it has one, is positive and every extra code is
a SQLSTATE. The threshold is looked at first, then the codes in order. -/
def validate (config : LeaseConfig) : Except ConfigError Unit :=
  if config.leakThreshold = some .zero then .error .zeroThreshold
  else
    match config.extraFatalStates.find? (!isSqlState ·) with
    | some code => .error (.badSqlState code)
    | none => .ok ()

/-- The classifier of the connections that are made with this configuration. -/
def classifier (config : LeaseConfig) : Classifier := .withExtra config.extraFatalStates

theorem validate_eq_ok_iff (config : LeaseConfig) :
    config.validate = .ok () ↔ config.leakThreshold ≠ some .zero ∧
      ∀ code ∈ config.extraFatalStates, isSqlState code = true := by
  unfold validate
  split
  · simp_all
  · rename_i hz
    cases hf : config.extraFatalStates.find? (!isSqlState ·) with
    | some code =>
      have hm := List.mem_of_find?_eq_some hf
      have hb := List.find?_some hf
      simp only [reduceCtorEq, false_iff, not_and]
      intro _ hall
      simp [hall code hm] at hb
    | none => simpa [hz] using hf

end LeaseConfig

end ConnLease
