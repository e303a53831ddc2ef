import ConnLease.DriverError

/-!
# Fatal errors

An error is fatal when its SQLSTATE means that the physical connection is gone: the code belongs to
a fatal class or is one of the fatal codes. Letter case does not matter, for ASCII letters only. A
classifier can be given extra fatal codes. Judging an error never changes it.
-/

namespace ConnLease

inductive Verdict where
  | fatal
  | nonFatal
deriving Repr, DecidableEq

def Verdict.isFatal : Verdict → Bool
  | .fatal => true
  | .nonFatal => false

/-- A text with its ASCII letters in upper case. -/
def foldCase (s : String) : List Char := s.toList.map Char.toUpper

/-- Connection exceptions. -/
def fatalClasses : List String := ["08"]

/-- Administrator shutdown, crash shutdown, cannot connect now, and disconnect error. -/
def fatalStates : List String := ["57P01", "57P02", "57P03", "01002"]

/-- The classes and the codes, in upper case, that a classifier holds to be fatal. -/
structure Classifier where
  classes : List (List Char)
  codes : List (List Char)
deriving Repr, DecidableEq

namespace Classifier

def standard : Classifier := ⟨fatalClasses.map foldCase, fatalStates.map foldCase⟩

instance : Inhabited Classifier := ⟨standard⟩

/-- The standard classifier with `extra` codes that are fatal too. -/
def withExtra (extra : List String) : Classifier :=
  { standard with codes := standard.codes ++ extra.map foldCase }

def judgeState (k : Classifier) (s : SqlState) : Verdict :=
  if k.classes.contains (foldCase s.className) || k.codes.contains (foldCase s.code) then .fatal
  else .nonFatal

/-- An absent code is not fatal. -/
def judgeCode (k : Classifier) : Option String → Verdict
  | some code => k.judgeState ⟨code⟩
  | none => .nonFatal

/-- An error without a SQLSTATE is not fatal. -/
def judge (k : Classifier) (e : DriverError) : Verdict :=
  match e.sqlState with
  | some s => k.judgeState s
  | none => .nonFatal

@[simp]
theorem withExtra_nil : withExtra [] = standard := rfl

theorem judgeCode_eq_judge (k : Classifier) (e : DriverError) :
    k.judge e = k.judgeCode (e.sqlState.map (·.code)) := by
  unfold judge judgeCode
  cases e.sqlState <;> rfl

end Classifier

end ConnLease
