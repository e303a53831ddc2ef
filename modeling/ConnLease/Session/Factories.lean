import ConnLease.Session.Statements

/-!
# Statement factories

The calls by which callers open statements through a connection. They differ only in what they ask
the driver for: a factory without a shape or a key request leaves them to the driver.
-/

namespace ConnLease

/-- A request for a statement. -/
inductive Factory where
  | create
  | createWith (shape : ResultShape)
  | prepare (sql : String)
  | prepareWith (sql : String) (options : StatementOptions)
  /-- Have the driver choose the generated keys that the statement returns. -/
  | prepareReturningKeys (sql : String)
  | prepareWithColumnIndexes (sql : String) (columns : List Nat)
  | prepareWithColumnNames (sql : String) (columns : List String)
  | prepareCall (sql : String)
  | prepareCallWith (sql : String) (shape : ResultShape)
deriving Repr, DecidableEq

/-- The call that a factory makes on the driver. -/
def Factory.call : Factory → Driver.OpenCall
  | .create => .create none
  | .createWith shape => .create (some shape)
  | .prepare sql => .prepare sql {}
  | .prepareWith sql options => .prepare sql options
  | .prepareReturningKeys sql => .prepare sql { keys := .driverChosen }
  | .prepareWithColumnIndexes sql columns => .prepare sql { keys := .columnIndexes columns }
  | .prepareWithColumnNames sql columns => .prepare sql { keys := .columnNames columns }
  | .prepareCall sql => .prepareCall sql none
  | .prepareCallWith sql shape => .prepareCall sql (some shape)

/-- Open a statement through a connection with one of the factories. -/
def Session.openBy (w : Session) (c : Nat) (f : Factory) : Session × Outcome Nat :=
  w.openStatement c f.call

end ConnLease
