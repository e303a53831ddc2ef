/-!
# Options for opening statements

The shape of the result set that a statement asks for, and the generated keys that a prepared
statement returns.
-/

namespace ConnLease

inductive ScrollType where
  | forwardOnly
  | scrollInsensitive
  | scrollSensitive
deriving Repr, DecidableEq

inductive Concurrency where
  | readOnly
  | updatable
deriving Repr, DecidableEq

/-- Whether cursors stay open when a transaction commits. -/
inductive Holdability where
  | hold
  | close
deriving Repr, DecidableEq

/-- The default is a forward-only, read-only result set that leaves holdability to the driver. -/
structure ResultShape where
  scroll : ScrollType := .forwardOnly
  concurrency : Concurrency := .readOnly
  holdability : Option Holdability := none
deriving Repr, DecidableEq

def ResultShape.isDefault (s : ResultShape) : Bool := s = {}

/-- Column indexes count from one. -/
inductive KeyRequest where
  | none
  | driverChosen
  | columnIndexes (columns : List Nat)
  | columnNames (columns : List String)
deriving Repr, DecidableEq

def KeyRequest.isWanted : KeyRequest → Bool
  | .none => false
  | _ => true

structure StatementOptions where
  shape : Option ResultShape := Option.none
  keys : KeyRequest := .none
deriving Repr, DecidableEq

def StatementOptions.isDefault (o : StatementOptions) : Bool := o = {}

end ConnLease
