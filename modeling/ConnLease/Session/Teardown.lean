import ConnLease.Session.Release

/-!
# Closing connections

The first close of a borrow cycle tears the borrow down: it cancels the leak check, closes the open
statements newest first, and gives the connection back to its owner. Every later close of the cycle
does nothing. A statement that fails to close does not stop the sweep, and the first failure is
reported after the connection has been given back. A statement that panics stops the sweep, but the
connection is given back all the same.
-/

namespace ConnLease

/-- How closing a statement at the driver went. -/
inductive CloseResult where
  | alreadyClosed
  | closed
  | failed (e : DriverError)
  | panicked (label : String)
deriving Repr, DecidableEq

/-- How the sweep over the open statements went. -/
inductive SweepResult where
  /-- All statements were tried; the first that failed is kept with its error. -/
  | finished (failure : Option (Nat × DriverError))
  | panicked (label : String)
deriving Repr, DecidableEq

namespace Session

/-- Close a statement at the driver unless that has been tried before. The statement counts as
closed from the attempt on, whatever comes of it. -/
def closeAtDriver (w : Session) (s : Nat) : Session × CloseResult :=
  match w.statements.get? s with
  | none => (w, .alreadyClosed)
  | some statement =>
    if statement.closed then (w, .alreadyClosed)
    else
      let w := w.onStatement s fun statement => { statement with closed := true }
      let j := (w.journals.get? statement.driver.journal).getD {}
      let (j, result) := j.closeStatement statement.driver.label
      let w := w.onJournal statement.driver.journal fun _ => j
      match result with
      | .ok () => (w, .closed)
      | .error (.failed e) => (w, .failed e)
      | .error (.panicked label) => (w, .panicked label)

/-- Cancel the leak check of a connection if it is pending. -/
def cancelCheck (w : Session) (c : Nat) : Session :=
  match w.connections.get? c with
  | none => w
  | some conn =>
    let (watch, won) := w.watch.cancel conn.detector
    let w := { w with watch }
    if won then w.emit (.checkCancelled c) else w

/-- Empty the registry of a connection; its statements come out newest first. -/
def drain (w : Session) (c : Nat) : Session × List Nat :=
  match w.connections.get? c with
  | none => (w, [])
  | some conn =>
    let (tracked, entries) := conn.tracked.drain
    (w.onConnection c fun conn => { conn with tracked }, entries.map (·.1))

/-- A statement of the sweep failed to close: the error goes through the connection. -/
def noteFailure (w : Session) (c s : Nat) (e : DriverError) : Session :=
  (w.inspect c e).emit (.cleanupFailed c s e)

/-- Close statements one after the other on behalf of a connection. -/
def sweep (w : Session) (c : Nat) : List Nat → Session × SweepResult
  | [] => (w, .finished none)
  | s :: rest =>
    match w.closeAtDriver s with
    | (w, .panicked label) => (w, .panicked label)
    | (w, .failed e) =>
      match (w.noteFailure c s e).sweep c rest with
      | (w, .finished _) => (w, .finished (some (s, e)))
      | (w, .panicked label) => (w, .panicked label)
    | (w, _) => w.sweep c rest

/-- Tear down a connection that is marked as closed already. -/
def teardown (w : Session) (c : Nat) : Session × Outcome Unit :=
  let (w, swept) := (w.cancelCheck c).drain c
  match w.sweep c swept with
  | (w, .panicked label) => (w.release c, .panicked label)
  | (w, .finished failure) =>
    let w := w.emit (.closed c swept.length (w.isBroken c))
    (w.release c,
      match failure with
      | none => .ok ()
      | some (s, e) => .err (.cleanup c s e))

def close (w : Session) (c : Nat) : Session × Outcome Unit :=
  if w.isClosed c then (w, .ok ())
  else (w.onConnection c fun conn => { conn with closed := true }).teardown c

/-- What `n` threads see that close one connection at the same time. -/
structure CloseTally where
  succeeded : Nat
  errors : List LeaseError
  panics : List String
deriving Repr, DecidableEq

/-- Let `n` threads close a connection at the same time: one of them tears it down, the others find
it closed. Threads do not write to the log of the session. -/
def closeConcurrently (w : Session) (c n : Nat) : Session × CloseTally :=
  match n with
  | 0 => (w, ⟨0, [], []⟩)
  | others + 1 =>
    let (after, outcome) := w.close c
    ({ after with log := w.log },
      match outcome with
      | .ok () => ⟨others + 1, [], []⟩
      | .err e => ⟨others, [e], []⟩
      | .panicked label => ⟨others, [], [label]⟩)

/-- Closing a closed connection does nothing. -/
theorem close_of_isClosed {w : Session} {c : Nat} (h : w.isClosed c = true) :
    w.close c = (w, .ok ()) := by
  simp [close, h]

end Session

end ConnLease
