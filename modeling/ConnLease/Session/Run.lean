import ConnLease.LeaseConfig.Parser
import ConnLease.Session.Statements

/-!
# Running a session

Everything that a caller can do in a session, as one type of operations, and what the caller gets
back. A caller reaches a pool, a connection or a statement only while it holds it, and an idle
connection only through a pool. An operation on something that is missing changes nothing. A run is
a list of operations performed one after the other.
-/

namespace ConnLease.Session

/-! ## Operations -/

/-- What can be done to a connection that is known by its life cycle only. -/
inductive LifecycleOp where
  | markBroken
  | revive
  | touch
  | setLastAccess (millis : Nat)
  | state
  | metadata
deriving Repr, DecidableEq

/-- How a new pool is set up. -/
inductive PoolSetup where
  /-- Notes down what comes back and keeps nothing. -/
  | recording
  | recycling
  /-- Recycles, with a configuration read from text and a timer for its leak checks. -/
  | configured (text : String) (timer : Nat)
deriving Repr, DecidableEq

/-- A line of script for the driver. -/
inductive ScriptLine where
  | failNext (e : DriverError)
  | failClose (label : String) (e : DriverError)
  | panicOnClose (label : String)
deriving Repr, DecidableEq

def ScriptLine.apply : ScriptLine → Driver.Journal → Driver.Journal
  | .failNext e, j => j.failNext e
  | .failClose label e, j => j.failClose label e
  | .panicOnClose label, j => j.panicOnClose label

/-- Operations on a pool that is held. -/
inductive PoolOp where
  /-- Make a connection with the pool's configuration; `share` names another connection whose
  journal it uses. -/
  | connect (share : Option Nat)
  /-- The same with the default configuration. -/
  | connectPlain (share : Option Nat)
  | addIdle (share : Option Nat)
  | borrow
  | inspect
  | releasesOf (connection : Nat)
  | evict
  | idle (connection : Nat) (op : LifecycleOp)
deriving Repr, DecidableEq

/-- Operations on a connection that is held. -/
inductive ConnectionOp where
  | close
  | closeConcurrently (threads : Nat)
  | revive
  | reassign (pool : Nat)
  | markBroken
  | inspect (e : DriverError)
  | arm (threshold : Duration) (timer : Nat)
  | hasPlace
  | touch
  | lifecycle (op : LifecycleOp)
  | register (statement : Nat)
  | unregister (statement : Nat)
  | countOpen
  | openStatement (call : Driver.OpenCall)
  | perform (call : Driver.PlainCall)
  /-- Run code on the driver that fails with a given error. -/
  | failDriver (e : DriverError)
  /-- Close the connection within the next call that opens a statement. -/
  | closeOnOpen
  | describe
deriving Repr, DecidableEq

/-- Operations on a statement that is held. -/
inductive StatementOp where
  | close
  | inspect
  | use (failure : Option DriverError)
  | describe
deriving Repr, DecidableEq

inductive Op where
  | timer (op : Leak.TimerOp)
  | newPool (setup : PoolSetup)
  | pool (p : Nat) (op : PoolOp)
  | dropPool (p : Nat)
  | connection (c : Nat) (op : ConnectionOp)
  | dropConnection (c : Nat)
  | statement (s : Nat) (op : StatementOp)
  | dropStatement (s : Nat)
  /-- Read the journal of a connection that was ever made. -/
  | readJournal (c : Nat)
  | script (c : Nat) (line : ScriptLine)
deriving Repr, DecidableEq

/-! ## Answers -/

structure ConnectionView where
  closed : Bool
  broken : Bool
  openStatements : List Nat
  leak : LeakPhase
deriving Repr, DecidableEq

structure StatementView where
  statement : Nat
  connection : Nat
  kind : StatementKind
  sql : Option String
  closed : Bool
  connectionLives : Bool
deriving Repr, DecidableEq

structure PoolView where
  releases : List Release
  discarded : List Nat
  idle : List Metadata
deriving Repr, DecidableEq

/-- A connection as its borrower gets it. -/
structure Loan where
  connection : Nat
  view : ConnectionView
  hasPlace : Bool
  /-- Whether the borrower held the connection already. -/
  alreadyHeld : Bool
deriving Repr, DecidableEq

inductive Value where
  | unit
  | flag (b : Bool)
  | number (n : Nat)
  | text (s : String)
  | error (e : DriverError)
  | connected (c : Nat) (fresh : Bool)
  | idled (c : Nat)
  | loan (l : Option Loan)
  | pool (v : PoolView)
  | releases (rs : List Release)
  | lifecycle (closed broken : Bool) (leak : LeakPhase)
  | metadata (m : Metadata)
  | tally (t : CloseTally)
  | statement (v : StatementView)
  | journal (j : Driver.Journal)
  | timer (r : Leak.TimerReply)
deriving Repr, DecidableEq

inductive Missing where
  | timer
  | pool
  | connection
  | statement
  | idleConnection
deriving Repr, DecidableEq

inductive Reply where
  | missing (what : Missing)
  | outcome (o : Outcome Value)
deriving Repr, DecidableEq

def Reply.ok (v : Value) : Reply := .outcome (.ok v)

/-! ## Views -/

def view (w : Session) (conn : Connection) : ConnectionView where
  closed := conn.closed
  broken := conn.broken
  openStatements := conn.tracked.ids
  leak := w.watch.phase conn.detector

/-- The connection, if a caller holds it. -/
def heldConnection? (w : Session) (c : Nat) : Option Connection :=
  (w.connections.get? c).filter (·.held)

def heldStatement? (w : Session) (s : Nat) : Option Statement :=
  (w.statements.get? s).filter (·.held)

def heldPool? (w : Session) (p : Nat) : Option Pool :=
  (w.pools.get? p).filter (·.held)

def statementView (w : Session) (s : Nat) (statement : Statement) : StatementView where
  statement := s
  connection := statement.connection
  kind := statement.kind
  sql := statement.sql
  closed := statement.closed
  connectionLives := w.connectionLives statement.connection

def poolView (w : Session) (pool : Pool) : PoolView where
  releases := pool.releases
  discarded := pool.discarded
  idle := pool.idle.filterMap fun c => (w.connections.get? c).map (w.metadata c)

def describeConnection (w : Session) (c : Nat) (conn : Connection) : String :=
  "ConnectionHandle \x7b id: " ++ toString c ++ ", closed: " ++ toString conn.closed ++
    ", broken: " ++ toString conn.broken ++ ", open_statements: " ++
    toString conn.tracked.size ++ ", leak_state: " ++ (w.watch.phase conn.detector).label ++
    ", .. \x7d"

def describeStatement (s : Nat) (statement : Statement) : String :=
  "StatementHandle \x7b id: " ++ toString s ++ ", connection_id: " ++
    toString statement.connection ++ ", kind: " ++ statement.kind.label ++ ", sql: " ++
    Text.quotedOption statement.sql ++ ", closed: " ++ toString statement.closed ++ " \x7d"

/-! ## Performing operations -/

def lifecycle (w : Session) (c : Nat) (conn : Connection) : LifecycleOp → Session × Value
  | .markBroken => (w.markBroken c, .unit)
  | .revive => (w.revive c, .unit)
  | .touch => (w.touch c, .flag true)
  | .setLastAccess millis => (w.setLastAccess c millis, .unit)
  | .state => (w, .lifecycle conn.closed conn.broken (w.watch.phase conn.detector))
  | .metadata => (w, .metadata (w.metadata c conn))

def newPool (w : Session) : PoolSetup → Session × Reply
  | .recording =>
    ({ w with pools := w.pools.push { recycles := false } }, .ok (.number w.pools.next))
  | .recycling =>
    ({ w with pools := w.pools.push { recycles := true } }, .ok (.number w.pools.next))
  | .configured text timer =>
    if (w.watch.timers.get? timer).isNone then (w, .missing .timer)
    else
      let w := { w with log := w.log ++ LeaseConfig.parseEvents text }
      match LeaseConfig.parse text with
      | .error e => (w, .outcome (.err (.config e)))
      | .ok config =>
        ({ w with pools := w.pools.push { config, timer := some timer, recycles := true } },
          .ok (.number w.pools.next))

/-- The number of the journal that a new connection shares, if it shares one. -/
def sharedJournal (w : Session) : Option Nat → Except Missing (Option Nat)
  | none => .ok none
  | some other =>
    match w.connections.get? other with
    | some conn => .ok (some conn.link.journal)
    | none => .error .connection

/-- Make a held connection for a pool. -/
def connect (w : Session) (p : Nat) (config : LeaseConfig) (share : Option Nat) :
    Session × Reply :=
  match w.sharedJournal share with
  | .error what => (w, .missing what)
  | .ok journal =>
    let (w, c) := w.newConnection p config journal true
    (w, .ok (.connected c true))

variable [Scheduler]

def performPool (w : Session) (p : Nat) (pool : Pool) : PoolOp → Session × Reply
  | .connect share => w.connect p pool.config share
  | .connectPlain share => w.connect p {} share
  | .addIdle share =>
    match w.sharedJournal share with
    | .error what => (w, .missing what)
    | .ok journal =>
      let (w, c) := w.addIdle p pool.config journal
      (w, .ok (.idled c))
  | .borrow =>
    match w.borrow p with
    | (after, .ok (some c)) =>
      (after, .ok (.loan ((after.connections.get? c).map fun conn =>
        { connection := c
          view := after.view conn
          hasPlace := Leak.Watch.hasPlace conn.detector
          alreadyHeld := (w.heldConnection? c).isSome })))
    | (after, .ok none) => (after, .ok (.loan none))
    | (after, .err e) => (after, .outcome (.err e))
    | (after, .panicked label) => (after, .outcome (.panicked label))
  | .inspect => (w, .ok (.pool (w.poolView pool)))
  | .releasesOf c => (w, .ok (.releases (pool.releases.filter (·.connection == c))))
  | .evict =>
    let (w, n) := w.evict p
    (w, .ok (.number n))
  | .idle c op =>
    match (w.connections.get? c).filter fun _ => pool.idle.contains c with
    | none => (w, .missing .idleConnection)
    | some conn =>
      let (w, v) := w.lifecycle c conn op
      (w, .ok v)

def performConnection (w : Session) (c : Nat) (conn : Connection) :
    ConnectionOp → Session × Reply
  | .close =>
    let (w, o) := w.close c
    (w, .outcome (o.map fun _ => .unit))
  | .closeConcurrently threads =>
    let (w, tally) := w.closeConcurrently c threads
    (w, .ok (.tally tally))
  | .revive => (w.revive c, .ok .unit)
  | .reassign p =>
    match w.heldPool? p with
    | none => (w, .missing .pool)
    | some _ => (w.reassign c p, .ok .unit)
  | .markBroken => (w.markBroken c, .ok .unit)
  | .inspect e => (w.inspect c e, .ok (.error e))
  | .arm threshold timer =>
    if (w.watch.timers.get? timer).isNone then (w, .missing .timer)
    else
      match w.arm c threshold timer with
      | .ok w => (w, .ok .unit)
      | .error e => (w, .outcome (.err e))
  | .hasPlace => (w, .ok (.flag (Leak.Watch.hasPlace conn.detector)))
  | .touch => (w.touch c, .ok (.flag true))
  | .lifecycle op =>
    let (w, v) := w.lifecycle c conn op
    (w, .ok v)
  | .register s =>
    match w.heldStatement? s with
    | none => (w, .missing .statement)
    | some _ =>
      let (w, tracked) := w.register c s
      (w, .ok (.flag tracked))
  | .unregister s => (w.unregister c s, .ok .unit)
  | .countOpen => (w, .ok (.number conn.tracked.size))
  | .openStatement call =>
    match w.openStatement c call with
    | (w, .ok s) =>
      (w, .ok (match w.statements.get? s with
        | some statement => .statement (w.statementView s statement)
        | none => .unit))
    | (w, .err e) => (w, .outcome (.err e))
    | (w, .panicked label) => (w, .outcome (.panicked label))
  | .perform call =>
    let (w, o) := w.perform c call
    (w, .outcome (o.map fun
      | some mode => .flag mode
      | none => .unit))
  | .failDriver e =>
    let (w, o) := w.refuse c e
    (w, .outcome o)
  | .closeOnOpen => (w.onConnection c fun conn => { conn with closesOnOpen := true }, .ok .unit)
  | .describe => (w, .ok (.text (w.describeConnection c conn)))

def performStatement (w : Session) (s : Nat) (statement : Statement) :
    StatementOp → Session × Reply
  | .close =>
    let (w, o) := w.closeStatement s
    (w, .outcome (o.map fun _ => .unit))
  | .inspect => (w, .ok (.statement (w.statementView s statement)))
  | .use failure =>
    let (w, o) := w.useStatement s failure
    (w, .outcome (o.map .text))
  | .describe => (w, .ok (.text (describeStatement s statement)))

/-- The journal of a connection, alive or not. -/
def journalOf? (w : Session) (c : Nat) : Option Driver.Journal :=
  (w.connections.get? c).bind fun conn => w.journals.get? conn.link.journal

/-- Perform one operation. -/
def step (w : Session) : Op → Session × Reply
  | .timer op =>
    match w.watch.operate op with
    | (_, .missing, _) => (w, .missing .timer)
    | (watch, reply, events) => ({ w with watch, log := w.log ++ events }, .ok (.timer reply))
  | .newPool setup => w.newPool setup
  | .pool p op =>
    match w.heldPool? p with
    | none => (w, .missing .pool)
    | some pool => w.performPool p pool op
  | .dropPool p =>
    (w.onPool p fun pool => { pool with held := false }, .ok (.flag (w.heldPool? p).isSome))
  | .connection c op =>
    match w.heldConnection? c with
    | none => (w, .missing .connection)
    | some conn => w.performConnection c conn op
  | .dropConnection c =>
    (w.onConnection c fun conn => { conn with held := false },
      .ok (.flag (w.heldConnection? c).isSome))
  | .statement s op =>
    match w.heldStatement? s with
    | none => (w, .missing .statement)
    | some statement => w.performStatement s statement op
  | .dropStatement s =>
    (w.onStatement s fun statement => { statement with held := false },
      .ok (.flag (w.heldStatement? s).isSome))
  | .readJournal c =>
    match w.journalOf? c with
    | none => (w, .missing .connection)
    | some j => (w, .ok (.journal j))
  | .script c line =>
    match w.connections.get? c with
    | none => (w, .missing .connection)
    | some conn => (w.onJournal conn.link.journal line.apply, .ok .unit)

/-- Perform operations one after the other. -/
def run (w : Session) (ops : List Op) : Session := ops.foldl (fun w op => (w.step op).1) w

/-- The sessions that some run of operations leads to. -/
def Reachable (w : Session) : Prop := ∃ ops, run {} ops = w

theorem run_append (w : Session) (ops more : List Op) :
    w.run (ops ++ more) = (w.run ops).run more := by
  simp [run]

end ConnLease.Session
