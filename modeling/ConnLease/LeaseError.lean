import ConnLease.DriverError

/-!
# Errors of a lease

Everything that a call on a connection, a statement, a leak check or a configuration can be refused
for, with the wording of each refusal.
-/

namespace ConnLease

/-- Where the leak detection of a connection stands in the current borrow cycle. -/
inductive LeakPhase where
  | unarmed
  | armed
  | fired
  | cancelled
deriving Repr, DecidableEq

namespace LeakPhase

def all : List LeakPhase := [.unarmed, .armed, .fired, .cancelled]

/-- A fired or cancelled check stays so for the rest of the borrow cycle. -/
def isFinal : LeakPhase → Bool
  | .fired | .cancelled => true
  | .unarmed | .armed => false

def text : LeakPhase → String
  | .unarmed => "unarmed"
  | .armed => "armed"
  | .fired => "fired"
  | .cancelled => "cancelled"

/-- The name of the phase in a description of the connection. -/
def label : LeakPhase → String
  | .unarmed => "Unarmed"
  | .armed => "Armed"
  | .fired => "Fired"
  | .cancelled => "Cancelled"

end LeakPhase

/-- What is wrong with a configuration. -/
inductive ConfigError where
  | missingValue (part : String)
  | badThreshold (value : String)
  | badCapacity (value : String)
  | zeroThreshold
  | badSqlState (code : String)
  | other (text : String)
deriving Repr, DecidableEq

def ConfigError.message : ConfigError → String
  | .missingValue part => "invalid key-value: " ++ part
  | .badThreshold value => "invalid leak detection threshold: " ++ value
  | .badCapacity value => "invalid statement capacity: " ++ value
  | .zeroThreshold => "leak detection threshold must be greater than zero"
  | .badSqlState code =>
    "invalid SQLSTATE '" ++ code ++ "': must be exactly 5 letters or digits"
  | .other text => text

inductive LeaseError where
  /-- The driver refused a call. -/
  | driver (error : DriverError)
  /-- A statement could not be closed when its connection was torn down. -/
  | cleanup (connection statement : Nat) (error : DriverError)
  | connectionClosed (connection : Nat)
  | statementClosed (statement : Nat)
  /-- Leak detection was armed a second time in one borrow cycle. -/
  | leakDetection (connection : Nat) (phase : LeakPhase)
  | timerShutDown
  | config (error : ConfigError)
deriving Repr, DecidableEq

namespace LeaseError

def message : LeaseError → String
  | .driver e => "driver error: " ++ e.text
  | .cleanup c s e =>
    "failed to close statement " ++ toString s ++ " of connection " ++ toString c ++ ": " ++ e.text
  | .connectionClosed c => "connection " ++ toString c ++ " is closed"
  | .statementClosed s => "statement " ++ toString s ++ " is closed"
  | .leakDetection c phase =>
    "leak detection for connection " ++ toString c ++ " is already " ++ phase.text
  | .timerShutDown => "leak detection timer has been shut down"
  | .config e => "configuration error: " ++ e.message

/-- The driver's error behind this one, if there is one. -/
def driverError? : LeaseError → Option DriverError
  | .driver e | .cleanup _ _ e => some e
  | _ => none

def comesFromDriver (e : LeaseError) : Bool := e.driverError?.isSome

def sqlState? (e : LeaseError) : Option SqlState := e.driverError?.bind (·.sqlState)

end LeaseError

end ConnLease
