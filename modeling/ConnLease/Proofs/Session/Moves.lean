import ConnLease.Proofs.Session.Sweep

/-!
# Operations as elementary moves

Every operation comes down to a list of elementary moves: the calls that it makes on pools,
connections, statements and the driver. `step_eq_moves` says that performing the operation and
performing its moves one after the other lead to the same session; what the caller is told is not
part of it. A law about all runs then needs one case for each move (`run_induction`), and what
happened in a run can be counted in its history, the moves together with the session that each of
them found.
-/

namespace ConnLease.Session

inductive Move where
  | timer (op : Leak.TimerOp)
  | note (events : List LogEvent)
  /-- Set the log back to what it was. -/
  | restoreLog (log : List LogEvent)
  | addPool (config : LeaseConfig) (timer : Option Nat) (recycles : Bool)
  | create (p : Nat) (config : LeaseConfig) (journal : Option Nat) (held : Bool)
  | keepIdle (p c : Nat)
  | takeIdle (p : Nat)
  | evict (p : Nat)
  | revive (c : Nat)
  | touch (c : Nat)
  | setLastAccess (c : Nat) (millis : Int)
  | arm (c : Nat) (threshold : Duration) (timer : Nat)
  | lend (c : Nat)
  | reassign (c p : Nat)
  | close (c : Nat)
  | markBroken (c : Nat)
  | inspect (c : Nat) (e : DriverError)
  | register (c s : Nat)
  | unregister (c s : Nat)
  /-- Unregister a statement that its caller has just closed. -/
  | untrack (c s : Nat)
  /-- Ask for a close within the next call that opens a statement, or forget about it. -/
  | closeOnOpen (c : Nat) (wanted : Bool)
  | callOpen (c : Nat) (call : Driver.OpenCall)
  | callPlain (c : Nat) (call : Driver.PlainCall)
  | adopt (c : Nat) (call : Driver.OpenCall) (driver : Driver.Statement)
  | closeAtDriver (s : Nat)
  | script (j : Nat) (line : ScriptLine)
  | dropPool (p : Nat)
  | dropConnection (c : Nat)
  | dropStatement (s : Nat)
deriving Repr, DecidableEq

variable [Scheduler]

def move (w : Session) : Move → Session
  | .timer op =>
    { w with watch := (w.watch.operate op).1, log := w.log ++ (w.watch.operate op).2.2 }
  | .note events => { w with log := w.log ++ events }
  | .restoreLog log => { w with log }
  | .addPool config timer recycles => { w with pools := w.pools.push { config, timer, recycles } }
  | .create p config journal held => (w.newConnection p config journal held).1
  | .keepIdle p c => w.onPool p fun pool => { pool with idle := pool.idle ++ [c] }
  | .takeIdle p => w.onPool p fun pool => { pool with idle := pool.idle.dropLast }
  | .evict p => (w.evict p).1
  | .revive c => w.revive c
  | .touch c => w.touch c
  | .setLastAccess c millis => w.setLastAccess c millis
  | .arm c threshold timer =>
    match w.arm c threshold timer with
    | .ok w => w
    | .error _ => w
  | .lend c => w.lend c
  | .reassign c p => w.reassign c p
  | .close c => (w.close c).1
  | .markBroken c => w.markBroken c
  | .inspect c e => w.inspect c e
  | .register c s => (w.register c s).1
  | .unregister c s | .untrack c s => w.unregister c s
  | .closeOnOpen c wanted => w.onConnection c fun conn => { conn with closesOnOpen := wanted }
  | .callOpen c call =>
    match w.connections.get? c with
    | none => w
    | some conn => w.setWire c ((w.wire conn).openStatement call).1
  | .callPlain c call =>
    match w.connections.get? c with
    | none => w
    | some conn => w.setWire c ((w.wire conn).perform call).1
  | .adopt c call driver => (w.adopt c call driver).1
  | .closeAtDriver s => (w.closeAtDriver s).1
  | .script j line => w.onJournal j line.apply
  | .dropPool p => w.onPool p fun pool => { pool with held := false }
  | .dropConnection c => w.onConnection c fun conn => { conn with held := false }
  | .dropStatement s => w.onStatement s fun statement => { statement with held := false }

/-- Perform moves one after the other. -/
def moveAll (w : Session) (ms : List Move) : Session := ms.foldl move w

@[simp]
theorem moveAll_nil (w : Session) : w.moveAll [] = w := rfl

@[simp]
theorem moveAll_cons (w : Session) (m : Move) (ms : List Move) :
    w.moveAll (m :: ms) = (w.move m).moveAll ms := rfl

theorem moveAll_append (w : Session) (ms more : List Move) :
    w.moveAll (ms ++ more) = (w.moveAll ms).moveAll more := by
  simp [moveAll]

/-! ## The moves of an operation -/

def lifecycleMoves (c : Nat) : LifecycleOp → List Move
  | .markBroken => [.markBroken c]
  | .revive => [.revive c]
  | .touch => [.touch c]
  | .setLastAccess millis => [.setLastAccess c millis]
  | .state | .metadata => []

def newPoolMoves (w : Session) : PoolSetup → List Move
  | .recording => [.addPool {} none false]
  | .recycling => [.addPool {} none true]
  | .configured text timer =>
    if (w.watch.timers.get? timer).isNone then []
    else
      .note (LeaseConfig.parseEvents text) ::
        match LeaseConfig.parse text with
        | .error _ => []
        | .ok config => [.addPool config (some timer) true]

def connectMoves (w : Session) (p : Nat) (config : LeaseConfig) (share : Option Nat) :
    List Move :=
  match w.sharedJournal share with
  | .error _ => []
  | .ok journal => [.create p config journal true]

def borrowMoves (w : Session) (p : Nat) : List Move :=
  match w.pools.get? p with
  | none => []
  | some pool =>
    match pool.idle.getLast? with
    | none => []
    | some c =>
      let ready : List Move := [.takeIdle p, .revive c, .touch c]
      match pool.config.leakThreshold, pool.timer with
      | some threshold, some timer =>
        match (w.moveAll ready).arm c threshold timer with
        | .ok _ => ready ++ [.arm c threshold timer, .lend c]
        | .error _ => ready
      | _, _ => ready ++ [.lend c]

def poolMoves (w : Session) (p : Nat) (pool : Pool) : PoolOp → List Move
  | .connect share => w.connectMoves p pool.config share
  | .connectPlain share => w.connectMoves p {} share
  | .addIdle share =>
    match w.sharedJournal share with
    | .error _ => []
    | .ok journal => [.create p pool.config journal false, .keepIdle p w.connections.next]
  | .borrow => w.borrowMoves p
  | .inspect | .releasesOf _ => []
  | .evict => [.evict p]
  | .idle c op =>
    match (w.connections.get? c).filter fun _ => pool.idle.contains c with
    | none => []
    | some _ => lifecycleMoves c op

/-- The moves by which a call that opens a statement closes the connection, if that was asked
for. -/
def askedMoves (c : Nat) (asked : Bool) : List Move :=
  if asked then [.closeOnOpen c false, .close c] else []

/-- The last moves of a call that opens a statement, when the driver has been called. -/
def openedMoves (w : Session) (c : Nat) (conn : Connection) (call : Driver.OpenCall) :
    List Move :=
  match ((w.move (.callOpen c call)).closeIfAsked c).2, ((w.wire conn).openStatement call).2 with
  | some _, _ => []
  | none, .error e => [.inspect c e]
  | none, .ok driver => [.adopt c call driver]

def openMoves (w : Session) (c : Nat) (call : Driver.OpenCall) : List Move :=
  match w.connections.get? c with
  | none => []
  | some conn =>
    if conn.closed then []
    else .callOpen c call :: (askedMoves c conn.closesOnOpen ++ w.openedMoves c conn call)

def performMoves (w : Session) (c : Nat) (call : Driver.PlainCall) : List Move :=
  match w.connections.get? c with
  | none => []
  | some conn =>
    match ((w.wire conn).perform call).2 with
    | .ok _ => [.callPlain c call]
    | .error e => [.callPlain c call, .inspect c e]

def connectionMoves (w : Session) (c : Nat) : ConnectionOp → List Move
  | .close => [.close c]
  | .closeConcurrently 0 => []
  | .closeConcurrently (_ + 1) => [.close c, .restoreLog w.log]
  | .revive => [.revive c]
  | .reassign p => if (w.heldPool? p).isSome then [.reassign c p] else []
  | .markBroken => [.markBroken c]
  | .inspect e | .failDriver e => [.inspect c e]
  | .arm threshold timer =>
    if (w.watch.timers.get? timer).isNone then [] else [.arm c threshold timer]
  | .touch => [.touch c]
  | .lifecycle op => lifecycleMoves c op
  | .register s => if (w.heldStatement? s).isSome then [.register c s] else []
  | .unregister s => [.unregister c s]
  | .openStatement call => w.openMoves c call
  | .perform call => w.performMoves c call
  | .closeOnOpen => [.closeOnOpen c true]
  | .hasPlace | .countOpen | .describe => []

/-- What the owner of a statement, if it lives, is told. -/
def ownerMoves (w : Session) (statement : Statement) (m : Nat → Move) : List Move :=
  match w.ownerOf? statement with
  | some c => [m c]
  | none => []

def closeStatementMoves (w : Session) (s : Nat) : List Move :=
  match w.statements.get? s with
  | none => []
  | some statement =>
    let closed := w.move (.closeAtDriver s)
    let untracked := closed.ownerMoves statement (.untrack · s)
    .closeAtDriver s ::
      match (w.closeAtDriver s).2 with
      | .panicked _ => []
      | .failed e =>
        untracked ++ (closed.moveAll untracked).ownerMoves statement (.inspect · e)
      | .closed => untracked ++ [.note [.statementClosed statement.connection s]]
      | .alreadyClosed => untracked

def statementMoves (w : Session) (s : Nat) (statement : Statement) : StatementOp → List Move
  | .close => w.closeStatementMoves s
  | .use (some e) => if statement.closed then [] else w.ownerMoves statement (.inspect · e)
  | .use none | .inspect | .describe => []

def moves (w : Session) : Op → List Move
  | .timer op => [.timer op]
  | .newPool setup => w.newPoolMoves setup
  | .pool p op =>
    match w.heldPool? p with
    | none => []
    | some pool => w.poolMoves p pool op
  | .dropPool p => [.dropPool p]
  | .connection c op =>
    match w.heldConnection? c with
    | none => []
    | some _ => w.connectionMoves c op
  | .dropConnection c => [.dropConnection c]
  | .statement s op =>
    match w.heldStatement? s with
    | none => []
    | some statement => w.statementMoves s statement op
  | .dropStatement s => [.dropStatement s]
  | .readJournal _ => []
  | .script c line =>
    match w.connections.get? c with
    | none => []
    | some conn => [.script conn.link.journal line]

/-! ## An operation is the sequence of its moves -/

omit [Scheduler] in
theorem operate_missing (watch : Leak.Watch) (op : Leak.TimerOp) :
    (watch.operate op).2.1 = .missing →
      (watch.operate op).1 = watch ∧ (watch.operate op).2.2 = [] := by
  intro h
  cases op with
  | newTimer reporter => cases h
  | settle millis => cases h
  | shutDown timer | inspect timer | closeChannel timer =>
    simp only [Leak.Watch.operate] at h ⊢
    cases ht : watch.timers.get? timer with
    | none => exact ⟨rfl, rfl⟩
    | some t => rw [ht] at h; cases h

theorem lifecycle_eq_moves (w : Session) (c : Nat) (conn : Connection) (op : LifecycleOp) :
    (w.lifecycle c conn op).1 = w.moveAll (lifecycleMoves c op) := by
  cases op <;> rfl

theorem newPool_eq_moves (w : Session) (setup : PoolSetup) :
    (w.newPool setup).1 = w.moveAll (w.newPoolMoves setup) := by
  cases setup with
  | recording => rfl
  | recycling => rfl
  | configured text timer =>
    simp only [newPool, newPoolMoves]
    split
    · rfl
    · cases LeaseConfig.parse text <;> rfl

theorem connect_eq_moves (w : Session) (p : Nat) (config : LeaseConfig) (share : Option Nat) :
    (w.connect p config share).1 = w.moveAll (w.connectMoves p config share) := by
  unfold connect connectMoves
  cases w.sharedJournal share <;> rfl

theorem borrow_eq_moves (w : Session) (p : Nat) :
    (w.borrow p).1 = w.moveAll (w.borrowMoves p) := by
  unfold borrow borrowMoves
  cases w.pools.get? p with
  | none => rfl
  | some pool =>
    dsimp only
    cases pool.idle.getLast? with
    | none => rfl
    | some c =>
      dsimp only
      have hready : ((w.onPool p fun pool => { pool with idle := pool.idle.dropLast }).revive
          c).touch c = w.moveAll [.takeIdle p, .revive c, .touch c] := rfl
      rw [hready]
      cases pool.config.leakThreshold with
      | none => rfl
      | some threshold =>
        cases pool.timer with
        | none => rfl
        | some timer =>
          dsimp only
          cases ha : (w.moveAll [.takeIdle p, .revive c, .touch c]).arm c threshold timer with
          | error e => rfl
          | ok armed =>
            have harm : (w.moveAll [.takeIdle p, .revive c, .touch c]).move
                (.arm c threshold timer) = armed := by
              simp only [move, ha]
            rw [moveAll_append]
            exact congrArg (lend · c) harm.symm

theorem performPool_eq_moves (w : Session) (p : Nat) (pool : Pool) (op : PoolOp) :
    (w.performPool p pool op).1 = w.moveAll (w.poolMoves p pool op) := by
  cases op with
  | connect share => exact connect_eq_moves w p pool.config share
  | connectPlain share => exact connect_eq_moves w p {} share
  | addIdle share =>
    simp only [performPool, poolMoves]
    cases w.sharedJournal share <;> rfl
  | borrow =>
    show _ = w.moveAll (w.borrowMoves p)
    rw [← borrow_eq_moves]
    unfold performPool
    rcases w.borrow p with ⟨after, (_ | c) | e | label⟩ <;> rfl
  | inspect => rfl
  | releasesOf c => rfl
  | evict => rfl
  | idle c op =>
    simp only [performPool, poolMoves]
    cases (w.connections.get? c).filter fun _ => pool.idle.contains c with
    | none => rfl
    | some conn => exact lifecycle_eq_moves w c conn op

theorem closeIfAsked_eq_moves {w : Session} {c : Nat} {conn : Connection}
    (hc : w.connections.get? c = some conn) :
    (w.closeIfAsked c).1 = w.moveAll (askedMoves c conn.closesOnOpen) := by
  unfold closeIfAsked askedMoves
  rw [hc]
  cases ha : conn.closesOnOpen with
  | false =>
    split
    · rename_i h
      cases h
      cases ha
    · rfl
  | true =>
    split
    · show _ = ((w.onConnection c fun conn => { conn with closesOnOpen := false }).close c).1
      rcases (w.onConnection c fun conn => { conn with closesOnOpen := false }).close c with
        ⟨after, o⟩
      cases o <;> rfl
    · rename_i h
      obtain ⟨⟩ := conn
      subst ha
      exact absurd rfl (h _ _ _ _ _ _ _ _ _)

theorem openStatement_eq_moves (w : Session) (c : Nat) (call : Driver.OpenCall) :
    (w.openStatement c call).1 = w.moveAll (w.openMoves c call) := by
  unfold openStatement openMoves
  cases hc : w.connections.get? c with
  | none => rfl
  | some conn =>
    dsimp only
    split
    · rfl
    · have hcalled : w.setWire c ((w.wire conn).openStatement call).1 =
          w.move (.callOpen c call) := by
        simp only [move, hc]
      have hrecord : (w.move (.callOpen c call)).connections.get? c =
          some { conn with link := ((w.wire conn).openStatement call).1.link } := by
        rw [← hcalled]
        simp [setWire, hc]
      have hasked := closeIfAsked_eq_moves hrecord
      dsimp only at hasked
      rw [moveAll_cons, moveAll_append, ← hasked, hcalled]
      unfold openedMoves
      rcases (w.move (.callOpen c call)).closeIfAsked c with ⟨after, _ | label⟩
      · cases ((w.wire conn).openStatement call).2 <;> rfl
      · rfl

theorem perform_eq_moves (w : Session) (c : Nat) (call : Driver.PlainCall) :
    (w.perform c call).1 = w.moveAll (w.performMoves c call) := by
  unfold perform performMoves
  cases hc : w.connections.get? c with
  | none => rfl
  | some conn =>
    dsimp only
    have hmove : w.setWire c ((w.wire conn).perform call).1 = w.move (.callPlain c call) := by
      simp only [move, hc]
    rw [hmove]
    cases ((w.wire conn).perform call).2 <;> rfl

theorem performConnection_eq_moves (w : Session) (c : Nat) (conn : Connection)
    (op : ConnectionOp) :
    (w.performConnection c conn op).1 = w.moveAll (w.connectionMoves c op) := by
  cases op with
  | closeConcurrently threads => cases threads <;> rfl
  | reassign p =>
    simp only [performConnection, connectionMoves]
    cases w.heldPool? p <;> rfl
  | arm threshold timer =>
    simp only [performConnection, connectionMoves]
    split
    · rfl
    · simp only [moveAll_cons, moveAll_nil, move]
      cases w.arm c threshold timer <;> rfl
  | lifecycle op => exact lifecycle_eq_moves w c conn op
  | register s =>
    simp only [performConnection, connectionMoves]
    cases w.heldStatement? s <;> rfl
  | openStatement call =>
    show _ = w.moveAll (w.openMoves c call)
    rw [← openStatement_eq_moves]
    simp only [performConnection]
    rcases w.openStatement c call with ⟨after, s | e | label⟩ <;> rfl
  | perform call =>
    show _ = w.moveAll (w.performMoves c call)
    rw [← perform_eq_moves]
    rfl
  | _ => rfl

theorem ownerMoves_eq (w : Session) (statement : Statement) (m : Nat → Move) :
    w.moveAll (w.ownerMoves statement m) =
      match w.ownerOf? statement with
      | some c => w.move (m c)
      | none => w := by
  unfold ownerMoves
  cases w.ownerOf? statement <;> rfl

theorem closeStatement_eq_moves (w : Session) (s : Nat) :
    (w.closeStatement s).1 = w.moveAll (w.closeStatementMoves s) := by
  unfold closeStatement closeStatementMoves
  cases w.statements.get? s with
  | none => rfl
  | some statement =>
    have hclosed : w.move (.closeAtDriver s) = (w.closeAtDriver s).1 := rfl
    dsimp only
    rw [moveAll_cons, hclosed]
    rcases w.closeAtDriver s with ⟨after, _ | _ | e | label⟩
    · exact (ownerMoves_eq after statement (.untrack · s)).symm
    · rw [moveAll_append, ownerMoves_eq]
      rfl
    · rw [moveAll_append, ownerMoves_eq, ownerMoves_eq]
      rfl
    · rfl

theorem performStatement_eq_moves (w : Session) (s : Nat) (statement : Statement)
    (op : StatementOp) (hs : w.statements.get? s = some statement) :
    (w.performStatement s statement op).1 = w.moveAll (w.statementMoves s statement op) := by
  cases op with
  | close => exact closeStatement_eq_moves w s
  | use failure =>
    cases failure with
    | none =>
      simp only [performStatement, statementMoves, useStatement, hs]
      cases statement.closed <;> rfl
    | some e =>
      simp only [performStatement, statementMoves, useStatement, hs]
      cases statement.closed with
      | true => rfl
      | false => exact (ownerMoves_eq w statement (.inspect · e)).symm
  | inspect => rfl
  | describe => rfl

/-- Performing an operation is performing its moves. -/
theorem step_eq_moves (w : Session) (op : Op) : (w.step op).1 = w.moveAll (w.moves op) := by
  cases op with
  | timer op =>
    have hmissing := operate_missing w.watch op
    simp only [step, moves, moveAll_cons, moveAll_nil, move]
    generalize w.watch.operate op = answer at hmissing
    obtain ⟨watch, reply, events⟩ := answer
    cases reply with
    | missing =>
      obtain ⟨rfl, rfl⟩ := hmissing rfl
      rw [List.append_nil]
    | _ => rfl
  | newPool setup => exact newPool_eq_moves w setup
  | pool p op =>
    simp only [step, moves]
    cases w.heldPool? p with
    | none => rfl
    | some pool => exact performPool_eq_moves w p pool op
  | connection c op =>
    simp only [step, moves]
    cases w.heldConnection? c with
    | none => rfl
    | some conn => exact performConnection_eq_moves w c conn op
  | statement s op =>
    simp only [step, moves]
    cases hs : w.heldStatement? s with
    | none => rfl
    | some statement =>
      exact performStatement_eq_moves w s statement op (Option.eq_some_of_filter_eq_some hs)
  | readJournal c =>
    simp only [step]
    cases w.journalOf? c <;> rfl
  | script c line =>
    simp only [step, moves]
    cases w.connections.get? c <;> rfl
  | _ => rfl

/-! ## Histories -/

/-- The moves of a list, each with the session that it finds. -/
def trail (w : Session) : List Move → List (Session × Move)
  | [] => []
  | m :: ms => (w, m) :: (w.move m).trail ms

/-- All moves of a run, each with the session that it finds. -/
def history (w : Session) : List Op → List (Session × Move)
  | [] => []
  | op :: ops => w.trail (w.moves op) ++ (w.step op).1.history ops

@[simp]
theorem run_nil (w : Session) : w.run [] = w := rfl

@[simp]
theorem run_cons (w : Session) (op : Op) (ops : List Op) :
    w.run (op :: ops) = (w.step op).1.run ops := rfl

theorem run_snoc (w : Session) (ops : List Op) (op : Op) :
    w.run (ops ++ [op]) = ((w.run ops).step op).1 :=
  run_append w ops [op]

theorem trail_append (w : Session) (ms more : List Move) :
    w.trail (ms ++ more) = w.trail ms ++ (w.moveAll ms).trail more := by
  induction ms generalizing w with
  | nil => rfl
  | cons m ms ih =>
    show (w, m) :: (w.move m).trail (ms ++ more) = _
    rw [ih]
    rfl

theorem trail_map_snd (w : Session) (ms : List Move) : (w.trail ms).map (·.2) = ms := by
  induction ms generalizing w with
  | nil => rfl
  | cons m ms ih =>
    show m :: ((w.move m).trail ms).map (·.2) = m :: ms
    rw [ih]

/-- A run is the sequence of the moves in its history. -/
theorem run_eq_moveAll (w : Session) (ops : List Op) :
    w.run ops = w.moveAll ((w.history ops).map (·.2)) := by
  induction ops generalizing w with
  | nil => rfl
  | cons op ops ih =>
    rw [run_cons, ih, history, List.map_append, trail_map_snd, moveAll_append, ← step_eq_moves]

theorem mem_trail {w u : Session} {m : Move} {ms : List Move} :
    (u, m) ∈ w.trail ms ↔ ∃ before after, ms = before ++ m :: after ∧ u = w.moveAll before := by
  induction ms generalizing w with
  | nil => simp [trail]
  | cons n ms ih =>
    rw [trail, List.mem_cons, ih]
    constructor
    · rintro (h | ⟨before, after, rfl, rfl⟩)
      · obtain ⟨rfl, rfl⟩ := Prod.mk.inj h
        exact ⟨[], ms, rfl, rfl⟩
      · exact ⟨n :: before, after, rfl, rfl⟩
    · rintro ⟨before, after, h, rfl⟩
      cases before with
      | nil =>
        obtain ⟨rfl, rfl⟩ := List.cons.inj h
        exact .inl rfl
      | cons b before =>
        obtain ⟨rfl, rfl⟩ := List.cons.inj h
        exact .inr ⟨before, after, rfl, rfl⟩

/-- What comes before a move in a trail is a trail, and leads to the session that the move finds. -/
theorem trail_split {w u : Session} {ms : List Move} {m : Move}
    {before after : List (Session × Move)} (h : w.trail ms = before ++ (u, m) :: after) :
    before = w.trail (before.map (·.2)) ∧ u = w.moveAll (before.map (·.2)) := by
  induction before generalizing w ms with
  | nil =>
    cases ms with
    | nil => cases h
    | cons n ms =>
      obtain ⟨hhead, -⟩ := List.cons.inj h
      exact ⟨rfl, (Prod.mk.inj hhead).1.symm⟩
  | cons b before ih =>
    cases ms with
    | nil => cases h
    | cons n ms =>
      obtain ⟨rfl, hrest⟩ := List.cons.inj h
      obtain ⟨hbefore, hu⟩ := ih hrest
      refine ⟨?_, hu⟩
      rw [List.map_cons, trail, ← hbefore]

/-- What comes after a move in a trail is a trail of the session that the move leaves. -/
theorem trail_rest {w u : Session} {ms : List Move} {m : Move}
    {before after : List (Session × Move)} (h : w.trail ms = before ++ (u, m) :: after) :
    after = (u.move m).trail (after.map (·.2)) ∧
      w.moveAll ms = (u.move m).moveAll (after.map (·.2)) := by
  induction before generalizing w ms with
  | nil =>
    cases ms with
    | nil => cases h
    | cons n ms =>
      obtain ⟨hhead, hrest⟩ := List.cons.inj h
      obtain ⟨rfl, rfl⟩ := Prod.mk.inj hhead
      rw [← hrest, trail_map_snd]
      exact ⟨rfl, rfl⟩
  | cons b before ih =>
    cases ms with
    | nil => cases h
    | cons n ms =>
      obtain ⟨-, hrest⟩ := List.cons.inj h
      have hih := ih hrest
      exact hih

theorem history_eq_trail (w : Session) (ops : List Op) :
    w.history ops = w.trail ((w.history ops).map (·.2)) := by
  induction ops generalizing w with
  | nil => rfl
  | cons op ops ih =>
    rw [history, List.map_append, trail_map_snd, trail_append, ← step_eq_moves, ← ih]

theorem history_split {w u : Session} {ops : List Op} {m : Move}
    {before after : List (Session × Move)} (h : w.history ops = before ++ (u, m) :: after) :
    before = w.trail (before.map (·.2)) ∧ u = w.moveAll (before.map (·.2)) := by
  rw [history_eq_trail] at h
  exact trail_split h

theorem history_rest {w u : Session} {ops : List Op} {m : Move}
    {before after : List (Session × Move)} (h : w.history ops = before ++ (u, m) :: after) :
    after = (u.move m).trail (after.map (·.2)) ∧
      w.run ops = (u.move m).moveAll (after.map (·.2)) := by
  rw [history_eq_trail] at h
  rw [run_eq_moveAll]
  exact trail_rest h

theorem mem_history {w : Session} {x : Session × Move} {ops : List Op} :
    x ∈ w.history ops ↔ ∃ before op after, ops = before ++ op :: after ∧
      x ∈ (w.run before).trail ((w.run before).moves op) := by
  induction ops generalizing w with
  | nil => simp [history]
  | cons o ops ih =>
    rw [history, List.mem_append, ih]
    constructor
    · rintro (h | ⟨before, op, after, rfl, h⟩)
      · exact ⟨[], o, ops, rfl, h⟩
      · exact ⟨o :: before, op, after, rfl, h⟩
    · rintro ⟨before, op, after, h, hx⟩
      cases before with
      | nil =>
        obtain ⟨rfl, rfl⟩ := List.cons.inj h
        exact .inl hx
      | cons b before =>
        obtain ⟨rfl, rfl⟩ := List.cons.inj h
        exact .inr ⟨before, op, after, rfl, hx⟩

/-! ## What operations make sure of -/

/-- What is known when an operation makes a move: what the operation has made sure of by then, and
for some moves which operation it is. -/
def Ensured (w : Session) (op : Op) : Move → Prop
  | .addPool _ timer _ => ∀ t, timer = some t → (w.watch.timers.get? t).isSome = true
  | .create _ _ journal _ => ∀ j, journal = some j →
    ∃ c conn, w.connections.get? c = some conn ∧ conn.link.journal = j
  | .keepIdle _ c => (w.connections.get? c).isSome = true
  | .close c =>
    op = .connection c .close ∨ (∃ n, op = .connection c (.closeConcurrently (n + 1))) ∨
      ∃ call, op = .connection c (.openStatement call)
  | .adopt c call _ => op = .connection c (.openStatement call)
  | .unregister c s => op = .connection c (.unregister s)
  | .untrack _ s => ∀ statement, w.statements.get? s = some statement → statement.closed = true
  | _ => True

/-- Moves that an operation can make at any time. -/
def Move.Free (op : Op) (m : Move) : Prop := ∀ w : Session, w.Ensured op m

theorem mem_of_mem_trail {w : Session} {x : Session × Move} {ms : List Move}
    (h : x ∈ w.trail ms) : x.2 ∈ ms := by
  obtain ⟨before, after, rfl, -⟩ := mem_trail.1 h
  exact List.mem_append_right _ (List.mem_cons_self ..)

theorem exists_trail_of_mem {w : Session} {ms : List Move} {m : Move} (h : m ∈ ms) :
    ∃ u, (u, m) ∈ w.trail ms := by
  rw [← trail_map_snd w ms] at h
  obtain ⟨⟨u, m⟩, hx, rfl⟩ := List.mem_map.1 h
  exact ⟨u, hx⟩

theorem ensured_of_free {w : Session} {op : Op} {ms : List Move} (hms : ∀ m ∈ ms, m.Free op) :
    ∀ x ∈ w.trail ms, x.1.Ensured op x.2 :=
  fun x hx => hms x.2 (mem_of_mem_trail hx) x.1

section Free

variable (w : Session) (o : Op)

omit [Scheduler] in
theorem lifecycleMoves_free (c : Nat) (op : LifecycleOp) :
    ∀ m ∈ lifecycleMoves c op, m.Free o := by
  cases op <;> simp [lifecycleMoves, Move.Free, Ensured]

theorem borrowMoves_free (p : Nat) : ∀ m ∈ w.borrowMoves p, m.Free o := by
  unfold borrowMoves
  dsimp only
  repeat' split
  all_goals simp [Move.Free, Ensured]

theorem openMoves_free (c : Nat) (call : Driver.OpenCall) :
    ∀ m ∈ w.openMoves c call, m.Free (.connection c (.openStatement call)) := by
  unfold openMoves askedMoves openedMoves
  repeat' split
  all_goals simp [Move.Free, Ensured]

omit [Scheduler] in
theorem performMoves_free (c : Nat) (call : Driver.PlainCall) :
    ∀ m ∈ w.performMoves c call, m.Free o := by
  unfold performMoves
  repeat' split
  all_goals simp [Move.Free, Ensured]

omit [Scheduler] in
theorem inspect_free (e : DriverError) (c : Nat) : (Move.inspect c e).Free o := fun _ => trivial

omit [Scheduler] in
theorem ownerMoves_free {m : Nat → Move} (hm : ∀ c, (m c).Free o) (statement : Statement) :
    ∀ n ∈ w.ownerMoves statement m, n.Free o := by
  unfold ownerMoves
  cases w.ownerOf? statement with
  | none => simp
  | some c => simpa using hm c

theorem connectionMoves_free (c : Nat) (op : ConnectionOp) :
    ∀ m ∈ w.connectionMoves c op, m.Free (.connection c op) := by
  cases op with
  | closeConcurrently threads => cases threads <;> simp [connectionMoves, Move.Free, Ensured]
  | reassign p => simp only [connectionMoves]; split <;> simp [Move.Free, Ensured]
  | arm threshold timer => simp only [connectionMoves]; split <;> simp [Move.Free, Ensured]
  | register s => simp only [connectionMoves]; split <;> simp [Move.Free, Ensured]
  | lifecycle op => exact lifecycleMoves_free _ c op
  | openStatement call => exact openMoves_free w c call
  | perform call => exact performMoves_free w _ c call
  | _ => simp [connectionMoves, Move.Free, Ensured]

end Free

theorem ensured_newPoolMoves (w : Session) (o : Op) (setup : PoolSetup) :
    ∀ x ∈ w.trail (w.newPoolMoves setup), x.1.Ensured o x.2 := by
  cases setup with
  | recording => simp [newPoolMoves, trail, Ensured]
  | recycling => simp [newPoolMoves, trail, Ensured]
  | configured text timer =>
    simp only [newPoolMoves]
    split
    · simp [trail]
    · rename_i ht
      cases LeaseConfig.parse text with
      | error e => simp [trail, Ensured]
      | ok config => simpa [trail, Ensured, move, Option.isSome_iff_ne_none] using ht

omit [Scheduler] in
/-- A journal is shared with a connection that has it. -/
theorem shared_of_sharedJournal {w : Session} {share : Option Nat} {j : Nat}
    (h : w.sharedJournal share = .ok (some j)) :
    ∃ c conn, w.connections.get? c = some conn ∧ conn.link.journal = j := by
  unfold sharedJournal at h
  split at h
  · cases h
  · rename_i other
    split at h
    · rename_i conn hc
      cases h
      exact ⟨other, conn, hc, rfl⟩
    · cases h

theorem ensured_connectMoves (w : Session) (o : Op) (p : Nat) (config : LeaseConfig)
    (share : Option Nat) : ∀ x ∈ w.trail (w.connectMoves p config share), x.1.Ensured o x.2 := by
  unfold connectMoves
  cases hs : w.sharedJournal share with
  | error what => simp [trail]
  | ok journal =>
    intro x hx
    obtain rfl := List.mem_singleton.1 hx
    rintro j rfl
    exact shared_of_sharedJournal hs

theorem ensured_poolMoves (w : Session) (o : Op) (p : Nat) (pool : Pool) (op : PoolOp) :
    ∀ x ∈ w.trail (w.poolMoves p pool op), x.1.Ensured o x.2 := by
  cases op with
  | connect share => exact ensured_connectMoves w o p pool.config share
  | connectPlain share => exact ensured_connectMoves w o p {} share
  | addIdle share =>
    simp only [poolMoves]
    cases hs : w.sharedJournal share with
    | error what => simp [trail]
    | ok journal =>
      have hshared : w.Ensured o (.create p pool.config journal false) := by
        rintro j rfl
        exact shared_of_sharedJournal hs
      have hkept : (w.move (.create p pool.config journal false)).Ensured o
          (.keepIdle p w.connections.next) := by
        simp [Ensured, move]
      intro x hx
      rcases List.mem_cons.1 hx with rfl | hx
      · exact hshared
      · obtain rfl := List.mem_singleton.1 hx
        exact hkept
  | borrow => exact ensured_of_free (borrowMoves_free w o p)
  | idle c op =>
    simp only [poolMoves]
    split
    · simp [trail]
    · exact ensured_of_free (lifecycleMoves_free o c op)
  | _ => simp [poolMoves, trail, Ensured]

theorem ensured_closeStatementMoves (w : Session) (o : Op) (s : Nat) :
    ∀ x ∈ w.trail (w.closeStatementMoves s), x.1.Ensured o x.2 := by
  unfold closeStatementMoves
  cases hs : w.statements.get? s with
  | none => simp [trail]
  | some statement =>
    have hinspect : ∀ (u : Session) (e : DriverError),
        ∀ x ∈ u.trail (u.ownerMoves statement (.inspect · e)), x.1.Ensured o x.2 :=
      fun u e => ensured_of_free (ownerMoves_free u o (inspect_free o e) statement)
    have huntrack : ∀ x ∈ (w.closeAtDriver s).1.trail
        ((w.closeAtDriver s).1.ownerMoves statement (.untrack · s)), x.1.Ensured o x.2 := by
      unfold ownerMoves
      cases (w.closeAtDriver s).1.ownerOf? statement with
      | none => simp [trail]
      | some c => simp [trail, Ensured, closeAtDriver_statements]
    intro x hx
    rcases List.mem_cons.1 hx with rfl | hx
    · exact trivial
    · simp only [move] at hx
      cases hr : (w.closeAtDriver s).2 with
      | alreadyClosed => rw [hr] at hx; exact huntrack x hx
      | closed =>
        rw [hr, trail_append, List.mem_append] at hx
        rcases hx with hx | hx
        · exact huntrack x hx
        · exact ensured_of_free (by simp [Move.Free, Ensured]) x hx
      | failed e =>
        rw [hr, trail_append, List.mem_append] at hx
        rcases hx with hx | hx
        · exact huntrack x hx
        · exact hinspect _ e x hx
      | panicked label => rw [hr] at hx; cases hx

/-- An operation makes each of its moves when it has made sure of what the move takes for
granted. -/
theorem ensured_moves (w : Session) (op : Op) :
    ∀ x ∈ w.trail (w.moves op), x.1.Ensured op x.2 := by
  cases op with
  | newPool setup => exact ensured_newPoolMoves w _ setup
  | pool p op =>
    simp only [moves]
    split
    · simp [trail]
    · exact ensured_poolMoves w _ p _ op
  | connection c op =>
    simp only [moves]
    split
    · simp [trail]
    · exact ensured_of_free (connectionMoves_free w c op)
  | statement s op =>
    simp only [moves]
    split
    · simp [trail]
    · rename_i statement _
      cases op with
      | close => exact ensured_closeStatementMoves w _ s
      | use failure =>
        cases failure with
        | none => simp [statementMoves, trail]
        | some e =>
          simp only [statementMoves]
          split
          · simp [trail]
          · exact ensured_of_free (ownerMoves_free w _ (inspect_free _ e) statement)
      | inspect => simp [statementMoves, trail]
      | describe => simp [statementMoves, trail]
  | script c line =>
    simp only [moves]
    split <;> simp [trail, Ensured]
  | _ => simp [moves, trail, Ensured]

theorem ensured_history {w : Session} {ops : List Op} {x : Session × Move}
    (hx : x ∈ w.history ops) : ∃ op ∈ ops, x.1.Ensured op x.2 := by
  obtain ⟨before, op, after, rfl, hmem⟩ := mem_history.1 hx
  exact ⟨op, List.mem_append_right _ (List.mem_cons_self ..), ensured_moves _ op x hmem⟩

/-! ## Laws of all runs -/

theorem moveAll_induction {P : Session → Prop} {w : Session} {ms : List Move}
    (hP : ∀ x ∈ w.trail ms, P x.1 → P (x.1.move x.2)) (hw : P w) :
    P (w.moveAll ms) ∧ ∀ x ∈ w.trail ms, P x.1 := by
  induction ms generalizing w with
  | nil => exact ⟨hw, by simp [trail]⟩
  | cons m ms ih =>
    have hm : P (w.move m) := hP (w, m) (List.mem_cons_self ..) hw
    obtain ⟨hend, htrail⟩ := ih (fun x hx => hP x (List.mem_cons_of_mem _ hx)) hm
    refine ⟨hend, ?_⟩
    intro x hx
    rcases List.mem_cons.1 hx with rfl | hx
    · exact hw
    · exact htrail x hx

/-- What holds at first and is kept by every move of a run holds whenever a move is made, and at
the end. -/
theorem run_induction {P : Session → Prop} {w : Session} {ops : List Op}
    (hP : ∀ x ∈ w.history ops, P x.1 → P (x.1.move x.2)) (hw : P w) :
    P (w.run ops) ∧ ∀ x ∈ w.history ops, P x.1 := by
  induction ops generalizing w with
  | nil => exact ⟨hw, by simp [history]⟩
  | cons op ops ih =>
    obtain ⟨hop, htrail⟩ :=
      moveAll_induction (fun x hx => hP x (List.mem_append_left _ hx)) hw
    rw [← step_eq_moves] at hop
    obtain ⟨hend, hrest⟩ := ih (fun x hx => hP x (List.mem_append_right _ hx)) hop
    refine ⟨hend, ?_⟩
    intro x hx
    rcases List.mem_append.1 hx with hx | hx
    · exact htrail x hx
    · exact hrest x hx

/-- What every move preserves that an operation makes. -/
def Preserved (P : Session → Prop) : Prop := ∀ w op m, P w → w.Ensured op m → P (w.move m)

theorem Preserved.run {P : Session → Prop} (hP : Preserved P) {w : Session} (hw : P w)
    (ops : List Op) : P (w.run ops) := by
  refine (run_induction ?_ hw).1
  intro x hx hx1
  obtain ⟨op, -, hm⟩ := ensured_history hx
  exact hP x.1 op x.2 hx1 hm

end ConnLease.Session
