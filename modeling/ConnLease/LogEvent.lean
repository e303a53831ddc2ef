import ConnLease.Duration
import ConnLease.LeaseError
import ConnLease.Text.Quoted

/-!
# Log events

The events that the library logs, each with its level, its message and its fields. Events are
values: an operation adds them to the log of the state that it returns.

The two events of a leak check also name the place of the borrow in the program, and a detected leak
the call stack there and the time since, as the machine measures it. These fields differ from one
machine to the next and are left out.
-/

namespace ConnLease

inductive LogLevel where
  | trace
  | debug
  | warn
deriving Repr, DecidableEq

def LogLevel.text : LogLevel → String
  | .trace => "TRACE"
  | .debug => "DEBUG"
  | .warn => "WARN"

inductive LogField where
  | number (n : Nat)
  | flag (b : Bool)
  | text (s : String)
deriving Repr, DecidableEq

/-- What happened; `c` numbers a connection and `s` a statement. -/
inductive LogEvent where
  | created (c : Nat)
  | revived (c : Nat)
  | reassigned (c : Nat)
  /-- The connection was torn down after a sweep over `swept` statements. -/
  | closed (c swept : Nat) (broken : Bool)
  | cleanupFailed (c s : Nat) (error : DriverError)
  | ownerGone (c : Nat)
  | markedBroken (c : Nat)
  | fatalError (c : Nat) (error : DriverError)
  | checkArmed (c : Nat) (threshold : Duration)
  | checkCancelled (c : Nat)
  | leakDetected (c : Nat) (threshold : Duration)
  | reportDropped (c : Nat)
  | timerShutDown
  | registered (c s : Nat)
  | unregistered (c s : Nat)
  | untracked (c s : Nat)
  | statementClosed (c s : Nat)
  | borrowed (c : Nat)
  | discarded (c : Nat)
  | ignoredOption (key value : String)
deriving Repr, DecidableEq

namespace LogEvent

def level : LogEvent → LogLevel
  | .registered .. | .unregistered .. | .statementClosed .. => .trace
  | .cleanupFailed .. | .ownerGone .. | .fatalError .. | .leakDetected .. => .warn
  | _ => .debug

def message : LogEvent → String
  | .created .. => "connection handle created"
  | .revived .. => "connection handle revived for reuse"
  | .reassigned .. => "connection handle reassigned to new pool"
  | .closed .. => "connection handle closed"
  | .cleanupFailed .. => "failed to close statement during connection teardown"
  | .ownerGone .. => "owning pool is gone; connection handle not released"
  | .markedBroken .. => "connection marked broken"
  | .fatalError .. => "fatal driver error; connection will be discarded"
  | .checkArmed .. => "leak detection armed"
  | .checkCancelled .. => "leak detection cancelled"
  | .leakDetected .. =>
    "connection leak detected: borrowed connection not returned within threshold"
  | .reportDropped .. => "leak report dropped: receiver closed"
  | .timerShutDown => "leak detection timer shut down"
  | .registered .. => "statement registered"
  | .unregistered .. => "statement unregistered"
  | .untracked .. => "connection closed while statement was created; statement not tracked"
  | .statementClosed .. => "statement closed"
  | .borrowed .. => "connection borrowed"
  | .discarded .. => "discarding broken connection"
  | .ignoredOption .. => "ignoring unknown handle configuration option"

/-- The connection that the event is about, if it is about one. -/
def connection? : LogEvent → Option Nat
  | .created c | .revived c | .reassigned c | .closed c .. | .cleanupFailed c .. | .ownerGone c
  | .markedBroken c | .fatalError c _ | .checkArmed c _ | .checkCancelled c | .leakDetected c _
  | .reportDropped c | .registered c _ | .unregistered c _ | .untracked c _
  | .statementClosed c _ | .borrowed c | .discarded c => some c
  | .timerShutDown | .ignoredOption .. => none

/-- The fields besides the connection. -/
def details : LogEvent → List (String × LogField)
  | .closed _ swept broken => [("statements", .number swept), ("broken", .flag broken)]
  | .cleanupFailed _ s e => [("statement_id", .number s), ("error", .text e.text)]
  | .fatalError _ e =>
    [("sql_state", .text (Text.quotedOption (e.sqlState.map (·.code)))), ("error", .text e.text)]
  | .checkArmed _ threshold | .leakDetected _ threshold => [("threshold", .text threshold.text)]
  | .registered _ s | .unregistered _ s | .untracked _ s | .statementClosed _ s =>
    [("statement_id", .number s)]
  | .ignoredOption key value => [("key", .text key), ("value", .text value)]
  | _ => []

def fields (e : LogEvent) : List (String × LogField) :=
  match e.connection? with
  | some c => ("connection_id", .number c) :: e.details
  | none => e.details

end LogEvent

end ConnLease
