import ConnLease.Session.Lending

/-!
# Statements of a session

Opening, using and closing statements. A statement that is opened through a connection is tracked
until it is closed, so that closing the connection closes it too. Errors of the driver go through
the connection that they belong to: that of the call, or the owner of the statement while it lives.
-/

namespace ConnLease

/-- The kind of statement that a call opens. -/
def Driver.OpenCall.kind : Driver.OpenCall → StatementKind
  | .create _ => .plain
  | .prepare .. => .prepared
  | .prepareCall .. => .callable

namespace Session

/-! ## Tracking -/

/-- Track a statement under an open connection; a closed connection tracks nothing. -/
def register (w : Session) (c s : Nat) : Session × Bool :=
  if w.isClosed c then (w, false)
  else
    ((w.onConnection c fun conn => { conn with tracked := conn.tracked.register s () }).emit
      (.registered c s), true)

/-- Stop tracking a statement. Unknown numbers and closed connections are passed over. -/
def unregister (w : Session) (c s : Nat) : Session :=
  match w.connections.get? c with
  | none => w
  | some conn =>
    if conn.closed then w
    else
      match conn.tracked.unregister s with
      | (_, none) => w
      | (tracked, some ()) =>
        (w.onConnection c fun conn => { conn with tracked }).emit (.unregistered c s)

/-! ## Calls on the driver -/

/-- The link of a connection with its journal. -/
def wire (w : Session) (conn : Connection) : Driver.Wire :=
  ⟨conn.link, (w.journals.get? conn.link.journal).getD {}⟩

/-- Put the link of a connection and its journal back after a call. -/
def setWire (w : Session) (c : Nat) (wire : Driver.Wire) : Session :=
  (w.onConnection c fun conn => { conn with link := wire.link }).onJournal wire.link.journal
    fun _ => wire.journal

/-- Pass a driver's error on after the connection has seen it. -/
def refuse {α : Type} (w : Session) (c : Nat) (e : DriverError) : Session × Outcome α :=
  (w.inspect c e, .err (.driver e))

/-- Perform a call on the link of a connection, open or closed. -/
def perform (w : Session) (c : Nat) (call : Driver.PlainCall) : Session × Outcome (Option Bool) :=
  match w.connections.get? c with
  | none => (w, .err (.connectionClosed c))
  | some conn =>
    let (wire, result) := (w.wire conn).perform call
    let w := w.setWire c wire
    match result with
    | .ok value => (w, .ok value)
    | .error e => w.refuse c e

/-! ## Opening -/

/-- Number a statement that the driver has opened and track it. If its connection was closed in the
meantime it stays untracked. -/
def adopt (w : Session) (c : Nat) (call : Driver.OpenCall) (driver : Driver.Statement) :
    Session × Nat :=
  let s := w.statements.next
  let statement : Statement := { connection := c, kind := call.kind, sql := call.sql?, driver }
  match { w with statements := w.statements.push statement }.register c s with
  | (w, true) => (w, s)
  | (w, false) => (w.emit (.untracked c s), s)

/-- Close a connection within the call that is opening a statement, if that was asked for. What the
close returns is not looked at, but its panic ends the call. -/
def closeIfAsked (w : Session) (c : Nat) : Session × Option String :=
  match w.connections.get? c with
  | some { closesOnOpen := true, .. } =>
    match (w.onConnection c fun conn => { conn with closesOnOpen := false }).close c with
    | (w, .panicked label) => (w, some label)
    | (w, _) => (w, none)
  | _ => (w, none)

/-- Open a statement through an open connection. -/
def openStatement (w : Session) (c : Nat) (call : Driver.OpenCall) : Session × Outcome Nat :=
  match w.connections.get? c with
  | none => (w, .err (.connectionClosed c))
  | some conn =>
    if conn.closed then (w, .err (.connectionClosed c))
    else
      let (wire, result) := (w.wire conn).openStatement call
      match (w.setWire c wire).closeIfAsked c with
      | (w, some label) => (w, .panicked label)
      | (w, none) =>
        match result with
        | .error e => w.refuse c e
        | .ok driver =>
          let (w, s) := w.adopt c call driver
          (w, .ok s)

/-! ## Using and closing -/

/-- The connection of a statement, while it lives. -/
def ownerOf? (w : Session) (statement : Statement) : Option Nat :=
  if w.connectionLives statement.connection then some statement.connection else none

/-- Let the owner of a statement, if it lives, see a driver's error. -/
def inspectFor (w : Session) (statement : Statement) (e : DriverError) : Session :=
  match w.ownerOf? statement with
  | some c => w.inspect c e
  | none => w

/-- Use the driver's side of an open statement; the use may fail with an error. -/
def useStatement (w : Session) (s : Nat) (failure : Option DriverError) :
    Session × Outcome String :=
  match w.statements.get? s with
  | none => (w, .err (.statementClosed s))
  | some statement =>
    if statement.closed then (w, .err (.statementClosed s))
    else
      match failure with
      | none => (w, .ok statement.driver.label)
      | some e => (w.inspectFor statement e, .err (.driver e))

/-- Close a statement and stop tracking it. Closing it again does nothing at the driver. A panic of
the driver leaves the statement tracked. -/
def closeStatement (w : Session) (s : Nat) : Session × Outcome Unit :=
  match w.statements.get? s with
  | none => (w, .ok ())
  | some statement =>
    let untrack (w : Session) : Session :=
      match w.ownerOf? statement with
      | some c => w.unregister c s
      | none => w
    match w.closeAtDriver s with
    | (w, .panicked label) => (w, .panicked label)
    | (w, .failed e) => ((untrack w).inspectFor statement e, .err (.driver e))
    | (w, .closed) => ((untrack w).emit (.statementClosed statement.connection s), .ok ())
    | (w, .alreadyClosed) => (untrack w, .ok ())

end Session

end ConnLease
