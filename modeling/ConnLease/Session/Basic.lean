import ConnLease.Driver.Link
import ConnLease.LeaseConfig.Basic
import ConnLease.Leak.Clockwork
import ConnLease.Metadata
import ConnLease.Registry

/-!
# Sessions

The whole state of a session: the leak watch, the journals of the scripted driver, and every pool,
connection and statement that was ever made, with the log of what happened. Pools are numbered from
zero, connections and statements from one.

A connection is lent to one borrower at a time. While it is open it tracks the statements opened
through it; a closed connection sits with its pool, or with nobody. The broken flag says that the
physical connection must not be used again; it is never cleared.

Callers hold pools, connections and statements. A pool lives as long as it is held. A connection
lives as long as it is held or idle in a living pool. A statement finds its connection only while
that lives.
-/

namespace ConnLease

inductive StatementKind where
  | plain
  | prepared
  | callable
deriving Repr, DecidableEq

def StatementKind.label : StatementKind → String
  | .plain => "Plain"
  | .prepared => "Prepared"
  | .callable => "Callable"

/-- A statement opened through a connection. -/
structure Statement where
  connection : Nat
  kind : StatementKind
  sql : Option String
  driver : Driver.Statement
  closed : Bool := false
  /-- Whether a caller still holds the statement. -/
  held : Bool := true
deriving Repr, DecidableEq

structure Connection where
  link : Driver.Link
  /-- The pool that the connection goes back to when it is closed. -/
  owner : Nat
  classifier : Classifier
  /-- The open statements under their numbers. -/
  tracked : Registry Unit := .empty
  closed : Bool := false
  broken : Bool := false
  /-- Milliseconds from the creation to the last access, if it was set and not read from a clock. -/
  lastAccess : Option Int := some 0
  detector : Leak.Detector := {}
  /-- Whether the next call that opens a statement closes the connection before it returns. -/
  closesOnOpen : Bool := false
  /-- Whether a caller still holds the connection. -/
  held : Bool
deriving Repr, DecidableEq

/-- What a pool notes down when a connection comes back. -/
structure Release where
  connection : Nat
  broken : Bool
  openStatements : Nat
  leak : LeakPhase
deriving Repr, DecidableEq

structure Pool where
  config : LeaseConfig := {}
  timer : Option Nat := none
  /-- Whether connections that come back are lent out again. -/
  recycles : Bool
  releases : List Release := []
  /-- The connections that can be lent out; the last one goes first. -/
  idle : List Nat := []
  discarded : List Nat := []
  held : Bool := true
deriving Repr, DecidableEq

structure Session where
  watch : Leak.Watch := {}
  journals : Roster 0 Driver.Journal := .empty
  pools : Roster 0 Pool := .empty
  connections : Roster 1 Connection := .empty
  statements : Roster 1 Statement := .empty
  log : List LogEvent := []
deriving Repr, DecidableEq

/-- How a call ends: with a value, with an error, or in the panic of a scripted statement. -/
inductive Outcome (α : Type) where
  | ok (value : α)
  | err (error : LeaseError)
  | panicked (label : String)
deriving Repr, DecidableEq

def Outcome.map {α β : Type} (f : α → β) : Outcome α → Outcome β
  | .ok value => .ok (f value)
  | .err error => .err error
  | .panicked label => .panicked label

namespace Session

def emit (w : Session) (e : LogEvent) : Session := { w with log := w.log ++ [e] }

def onConnection (w : Session) (c : Nat) (f : Connection → Connection) : Session :=
  { w with connections := w.connections.modify c f }

def onStatement (w : Session) (s : Nat) (f : Statement → Statement) : Session :=
  { w with statements := w.statements.modify s f }

def onPool (w : Session) (p : Nat) (f : Pool → Pool) : Session :=
  { w with pools := w.pools.modify p f }

def onJournal (w : Session) (j : Nat) (f : Driver.Journal → Driver.Journal) : Session :=
  { w with journals := w.journals.modify j f }

/-! ## Who is alive -/

def poolLives (w : Session) (p : Nat) : Bool :=
  match w.pools.get? p with
  | some pool => pool.held
  | none => false

/-- A connection lives while it is held, or idle in a pool that lives. -/
def connectionLives (w : Session) (c : Nat) : Bool :=
  match w.connections.get? c with
  | some conn => conn.held || w.pools.toList.any fun pool => pool.held && pool.idle.contains c
  | none => false

/-! ## Snapshots -/

def isClosed (w : Session) (c : Nat) : Bool :=
  match w.connections.get? c with
  | some conn => conn.closed
  | none => true

def isBroken (w : Session) (c : Nat) : Bool :=
  match w.connections.get? c with
  | some conn => conn.broken
  | none => false

def leakPhase (w : Session) (c : Nat) : LeakPhase :=
  match w.connections.get? c with
  | some conn => w.watch.phase conn.detector
  | none => .unarmed

/-- The open statements of a connection in the order of registration. -/
def openIds (w : Session) (c : Nat) : List Nat :=
  match w.connections.get? c with
  | some conn => conn.tracked.ids
  | none => []

/-- Instants in the metadata count milliseconds from the creation of the connection. -/
def metadata (w : Session) (c : Nat) (conn : Connection) : Metadata where
  connection := c
  createdAt := 0
  lastAccess := conn.lastAccess
  openStatements := conn.tracked.size
  closed := conn.closed
  broken := conn.broken
  leak := w.watch.phase conn.detector

/-! ## Broken connections -/

/-- Mark a connection as broken by hand. -/
def markBroken (w : Session) (c : Nat) : Session :=
  match w.connections.get? c with
  | some conn =>
    if conn.broken then w
    else (w.onConnection c fun conn => { conn with broken := true }).emit (.markedBroken c)
  | none => w

/-- Look at a driver's error that came through a connection: a fatal one breaks the connection. The
error itself is passed on unchanged. -/
def inspect (w : Session) (c : Nat) (e : DriverError) : Session :=
  match w.connections.get? c with
  | some conn =>
    if (conn.classifier.judge e).isFatal && !conn.broken then
      (w.onConnection c fun conn => { conn with broken := true }).emit (.fatalError c e)
    else w
  | none => w

end Session

end ConnLease
