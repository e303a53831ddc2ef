import ConnLease.Session.Teardown

/-!
# Lending connections

A pool makes connections, keeps idle ones, and lends out the one that came back last. A borrowed
connection starts a new cycle: it is open again, its detector is unarmed, and if the pool watches
for leaks it is armed at once. Broken connections are taken out of the idle ones by eviction only.
-/

namespace ConnLease.Session

/-! ## Borrow cycles -/

/-- Start a new borrow cycle: a check of the old one is cancelled, and the connection is open. -/
def revive (w : Session) (c : Nat) : Session :=
  match w.connections.get? c with
  | none => w
  | some conn =>
    let (watch, detector) := w.watch.reset conn.detector
    let w := { w with watch }
    (w.onConnection c fun conn => { conn with detector, closed := false }).emit (.revived c)

/-- Arm the leak detection of an open connection. A refused arming changes nothing. -/
def arm [Scheduler] (w : Session) (c : Nat) (threshold : Duration) (timer : Nat) :
    Except LeaseError Session :=
  match w.connections.get? c with
  | none => .error (.connectionClosed c)
  | some conn =>
    if conn.closed then .error (.connectionClosed c)
    else
      (w.watch.arm conn.detector c threshold timer).map fun (watch, detector) =>
        let w := { w with watch }
        (w.onConnection c fun conn => { conn with detector }).emit (.checkArmed c threshold)

/-- Make another pool the owner of a connection. -/
def reassign (w : Session) (c p : Nat) : Session :=
  (w.onConnection c fun conn => { conn with owner := p }).emit (.reassigned c)

/-- Note an access at a time that is read from a clock. -/
def touch (w : Session) (c : Nat) : Session :=
  w.onConnection c fun conn => { conn with lastAccess := none }

/-- Note an access at a given time, in milliseconds from the creation of the connection. -/
def setLastAccess (w : Session) (c : Nat) (millis : Int) : Session :=
  w.onConnection c fun conn => { conn with lastAccess := some millis }

/-! ## Pools -/

/-- Make a connection for a pool, with a new journal unless one is given. The statement capacity of
the configuration only says for how many statements room is set aside at once. That there may be no
such room, and the call may panic for it, is left out. -/
def newConnection (w : Session) (p : Nat) (config : LeaseConfig) (journal : Option Nat)
    (held : Bool) : Session × Nat :=
  let c := w.connections.next
  let (w, journal) :=
    match journal with
    | some j => (w, j)
    | none => ({ w with journals := w.journals.push {} }, w.journals.next)
  let conn : Connection :=
    { link := { journal }, owner := p, classifier := config.classifier, held }
  ({ w with connections := w.connections.push conn }.emit (.created c), c)

/-- Make a connection and put it among the idle ones, open as it is. -/
def addIdle (w : Session) (p : Nat) (config : LeaseConfig) (journal : Option Nat) :
    Session × Nat :=
  let (w, c) := w.newConnection p config journal false
  (w.onPool p fun pool => { pool with idle := pool.idle ++ [c] }, c)

/-- Hand a connection to its borrower. -/
def lend (w : Session) (c : Nat) : Session :=
  (w.onConnection c fun conn => { conn with held := true }).emit (.borrowed c)

/-- Borrow the last of the idle connections. If the pool watches for leaks and the connection cannot
be armed, the borrow fails; by then the connection has left the idle ones. -/
def borrow [Scheduler] (w : Session) (p : Nat) : Session × Outcome (Option Nat) :=
  match w.pools.get? p with
  | none => (w, .ok none)
  | some pool =>
    match pool.idle.getLast? with
    | none => (w, .ok none)
    | some c =>
      let w := w.onPool p fun pool => { pool with idle := pool.idle.dropLast }
      let w := (w.revive c).touch c
      match pool.config.leakThreshold, pool.timer with
      | some threshold, some timer =>
        match w.arm c threshold timer with
        | .ok w => (w.lend c, .ok (some c))
        | .error e => (w, .err e)
      | _, _ => (w.lend c, .ok (some c))

/-- Discard the idle connections that are broken, in idle order; the answer is their number. -/
def evict (w : Session) (p : Nat) : Session × Nat :=
  match w.pools.get? p with
  | none => (w, 0)
  | some pool =>
    let gone := pool.idle.filter (w.isBroken ·)
    (w.onPool p fun pool =>
      { pool with
        idle := pool.idle.filter (!w.isBroken ·)
        discarded := pool.discarded ++ gone }, gone.length)

end ConnLease.Session
