import ConnLease.DriverError
import ConnLease.StatementOptions

/-!
# Journals of a scripted driver

A scripted driver stands in for a database. Its journal records what was done on its connections
and holds the script of failures: an error for the next call, errors for closing statements with a
given label, and labels whose close panics. Connections may share one journal.
-/

namespace ConnLease.Driver

/-- What a driver did. -/
inductive Event where
  | statementCreated (label : String) (shape : Option ResultShape)
  | statementPrepared (label : String) (options : StatementOptions)
  | callPrepared (label : String) (shape : Option ResultShape)
  | statementClosed (label : String)
  | statementCloseFailed (label : String)
  | autoCommitSet (enabled : Bool)
  | committed
  | rolledBack
  | connectionClosed
deriving Repr, DecidableEq

/-- The label of the statement whose close succeeded. -/
def Event.closed? : Event → Option String
  | .statementClosed label => some label
  | _ => none

/-- The label of the statement whose close was tried, with or without success. -/
def Event.closeTried? : Event → Option String
  | .statementClosed label | .statementCloseFailed label => some label
  | _ => none

/-- Why closing a statement did not succeed. -/
inductive CloseFault where
  | failed (e : DriverError)
  | panicked (label : String)
deriving Repr, DecidableEq

/-- The text of the panic that closing a statement was scripted to end in. -/
def panicText (label : String) : String := "scripted panic closing " ++ label

structure Journal where
  events : List Event := []
  /-- The error that the next call on a connection will fail with. -/
  nextError : Option DriverError := none
  /-- Errors for closing statements, the newest first. -/
  closeErrors : List (String × DriverError) := []
  /-- Labels of the statements whose close panics. -/
  panics : List String := []
deriving Repr, DecidableEq

namespace Journal

def closedLabels (j : Journal) : List String := j.events.filterMap Event.closed?

def triedLabels (j : Journal) : List String := j.events.filterMap Event.closeTried?

def record (j : Journal) (e : Event) : Journal := { j with events := j.events ++ [e] }

/-! ## The script -/

/-- Let the next call fail; an error that is still pending is replaced. -/
def failNext (j : Journal) (e : DriverError) : Journal := { j with nextError := some e }

/-- Let every close of a statement with this label fail from now on. -/
def failClose (j : Journal) (label : String) (e : DriverError) : Journal :=
  { j with closeErrors := (label, e) :: j.closeErrors }

/-- Let every close of a statement with this label panic from now on. -/
def panicOnClose (j : Journal) (label : String) : Journal :=
  { j with panics := label :: j.panics }

/-- The latest error scripted for closing a statement with this label. -/
def closeError? (j : Journal) (label : String) : Option DriverError :=
  (j.closeErrors.find? (·.1 == label)).map (·.2)

/-- Take the pending error: a scripted failure happens once. -/
def takeNextError (j : Journal) : Journal × Option DriverError :=
  ({ j with nextError := none }, j.nextError)

/-- Close a statement. A scripted panic comes before a scripted error and records nothing. -/
def closeStatement (j : Journal) (label : String) : Journal × Except CloseFault Unit :=
  if j.panics.contains label then (j, .error (.panicked label))
  else
    match j.closeError? label with
    | some e => (j.record (.statementCloseFailed label), .error (.failed e))
    | none => (j.record (.statementClosed label), .ok ())

end Journal

end ConnLease.Driver
