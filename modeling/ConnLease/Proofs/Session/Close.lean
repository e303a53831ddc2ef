import ConnLease.Proofs.Session.Sweep

/-!
# Closing an open connection

The whole effect of closing a connection that is open, read off the session before the close.
`closedDown_close` says it for every script, panics included; `close_of_calm_script` says what it
comes to when no close of a tracked open statement panics: every tracked statement is closed, each
open one was attempted once, newest registration first and past every failure, and the owner got
one release with the final values.
-/

namespace ConnLease

/-- What a close returns when its sweep ended in the given way. -/
def SweepResult.outcome (c : Nat) : SweepResult → Outcome Unit
  | .finished none => .ok ()
  | .finished (some (s, e)) => .err (.cleanup c s e)
  | .panicked label => .panicked label

namespace Session

/-- The tracked statements of a connection in the order in which a close goes through them. -/
def closeOrder (w : Session) (c : Nat) : List Nat := (w.openIds c).reverse

/-- The statements whose close a teardown of a connection has to attempt: the tracked ones that are
still open, each once, in the order from the newest last registration to the oldest. -/
def attempts (w : Session) (c : Nat) : List Nat := w.due (w.closeOrder c)

/-- The attempts of a teardown that the script lets fail, in order, with their errors. -/
def attemptFailures (w : Session) (c : Nat) : List (Nat × DriverError) :=
  (w.attempts c).filterMap fun s => (w.closeError? s).map (s, ·)

/-- The phase that a close leaves a leak check in. -/
def phaseAfterClose (w : Session) (c : Nat) : LeakPhase :=
  if w.leakPhase c = .armed then .cancelled else w.leakPhase c

/-- The snapshot of a connection that its owner gets when it is closed. -/
def closedMetadata (w : Session) (c : Nat) (conn : Connection) (broken : Bool) : Metadata where
  connection := c
  createdAt := 0
  lastAccess := conn.lastAccess
  openStatements := 0
  closed := true
  broken := broken
  leak := w.phaseAfterClose c

/-- Whether a connection is broken after its close. -/
def brokenAfterClose (w : Session) (c : Nat) (conn : Connection) : Bool :=
  conn.broken || breaks conn (w.failures (w.closeOrder c))

/-- What the teardown of the connection `c`, which was open and had the record `conn`, has written
to `w'` outside the pools. -/
structure TeardownWrites (w : Session) (c : Nat) (conn : Connection) (w' : Session) : Prop where
  connections : w'.connections = w.connections.modify c fun _ =>
    { conn with closed := true, tracked := .empty, broken := w.brokenAfterClose c conn }
  statements : ∀ s, w'.statements.get? s = (w.statements.get? s).map fun statement =>
    { statement with closed := statement.closed || (w.reached (w.closeOrder c)).contains s }
  journals : ∀ j, w'.journals.get? j = (w.journals.get? j).map fun journal =>
    { journal with
      events := journal.events ++
        (w.completed (w.closeOrder c)).filterMap (w.closeEventIn? j) }
  watch : w'.watch = (w.watch.cancel conn.detector).1

/-- `w'` is `w` after the teardown of the connection `c`, up to the release to its owner. -/
structure SweptOut (w : Session) (c : Nat) (conn : Connection) (w' : Session) : Prop
    extends TeardownWrites w c conn w' where
  pools : w'.pools = w.pools

/-- `w'` is `w` after the connection `c` was closed. -/
structure ClosedDown (w : Session) (c : Nat) (conn : Connection) (w' : Session) : Prop
    extends TeardownWrites w c conn w' where
  pools : w'.pools =
    if w.poolLives conn.owner then
      w.pools.modify conn.owner
        (·.receive (w.closedMetadata c conn (w.brokenAfterClose c conn)))
    else w.pools

/-! ## The owner -/

theorem poolLives_eq {w : Session} {p : Nat} {pool : Pool} (hp : w.pools.get? p = some pool) :
    w.poolLives p = pool.held := by
  unfold poolLives
  rw [hp]

theorem release_pools {w : Session} {c : Nat} {conn : Connection}
    (hc : w.connections.get? c = some conn) :
    (w.release c).pools =
      if w.poolLives conn.owner then w.pools.modify conn.owner (·.receive (w.metadata c conn))
      else w.pools := by
  unfold release poolLives
  rw [hc]
  dsimp only
  cases hp : w.pools.get? conn.owner with
  | none => simp
  | some pool => cases hh : pool.held <;> simp [hh]

/-! ## The whole close -/

theorem SweptOut.emit {w w' : Session} {c : Nat} {conn : Connection} (h : SweptOut w c conn w')
    (e : LogEvent) : SweptOut w c conn (w'.emit e) :=
  ⟨⟨h.connections, h.statements, h.journals, h.watch⟩, h.pools⟩

theorem teardown_eq (w : Session) (c : Nat) :
    w.teardown c =
      match ((w.cancelCheck c).drain c).1.sweep c ((w.cancelCheck c).drain c).2 with
      | (w', .panicked label) => (w'.release c, .panicked label)
      | (w', .finished failure) =>
        ((w'.emit (.closed c ((w.cancelCheck c).drain c).2.length (w'.isBroken c))).release c,
          (SweepResult.finished failure).outcome c) := by
  unfold teardown
  dsimp only
  rcases ((w.cancelCheck c).drain c).1.sweep c ((w.cancelCheck c).drain c).2 with
    ⟨w', (_ | ⟨s, e⟩) | label⟩ <;> rfl

/-- A close of an open connection tears it down and then hands it to its owner, however the sweep
ended. -/
theorem close_eq_release {w : Session} {c : Nat} {conn : Connection}
    (hc : w.connections.get? c = some conn) (ho : conn.closed = false) :
    ∃ w', SweptOut w c conn w' ∧
      w.close c = (w'.release c, (w.sweepResult (w.closeOrder c)).outcome c) := by
  have hopen : w.isClosed c = false := by simp [isClosed, hc, ho]
  let marked := w.onConnection c fun conn => { conn with closed := true }
  have hmarked : marked.connections.get? c = some { conn with closed := true } := by
    simp [marked, hc]
  let drained := ((marked.cancelCheck c).drain c).1
  have hlist : ((marked.cancelCheck c).drain c).2 = w.closeOrder c := by
    rw [drain_snd]
    simp [closeOrder, openIds, hmarked, hc]
  have hs : drained.statements = w.statements := by simp [drained, marked]
  have hj : drained.journals = w.journals := by simp [drained, marked]
  have hconns : drained.connections =
      w.connections.modify c fun _ => { conn with closed := true, tracked := .empty } := by
    simp only [drained, marked, drain_connections, cancelCheck_fields, onConnection_fields,
      Roster.modify_modify]
    exact Roster.modify_congr_of_some hc rfl
  have hwatch : drained.watch = (w.watch.cancel conn.detector).1 := by
    simp only [drained, drain_fields, cancelCheck_watch hmarked]
    rfl
  have hpools : drained.pools = w.pools := by simp [drained, marked]
  obtain ⟨hswept, hresult⟩ := swept_sweep drained c (w.closeOrder c)
  have hout : SweptOut w c conn (drained.sweep c (w.closeOrder c)).1 := by
    refine ⟨⟨?_, ?_, ?_, ?_⟩, ?_⟩
    · rw [hswept.connections, hconns, Roster.modify_modify, failures_congr hs hj]
      rfl
    · intro s
      rw [hswept.statements, hs, reached_congr hs hj]
    · intro j
      rw [hswept.journals, hj, completed_congr hs hj, (SameScript.of_eq hs hj).closeEventIn?]
    · rw [hswept.watch, hwatch]
    · rw [hswept.pools, hpools]
  have hclose : w.close c = marked.teardown c := by
    unfold close
    rw [hopen, if_neg Bool.false_ne_true]
  have hdrained : ((marked.cancelCheck c).drain c).1 = drained := rfl
  rw [hclose, teardown_eq, hlist, ← sweepResult_congr hs hj, ← hresult, hdrained]
  cases hsweep : drained.sweep c (w.closeOrder c) with
  | mk w' result =>
    rw [hsweep] at hout
    cases result with
    | finished failure => exact ⟨_, hout.emit _, rfl⟩
    | panicked label => exact ⟨_, hout, rfl⟩

theorem SweptOut.closedDown {w w' : Session} {c : Nat} {conn : Connection}
    (hc : w.connections.get? c = some conn) (h : SweptOut w c conn w') :
    ClosedDown w c conn (w'.release c) where
  connections := by rw [(release_fields w' c).2.2.1, h.connections]
  statements := by
    intro s
    rw [(release_fields w' c).2.2.2, h.statements]
  journals := by
    intro j
    rw [(release_fields w' c).2.1, h.journals]
  watch := by rw [(release_fields w' c).1, h.watch]
  pools := by
    have hc' : w'.connections.get? c = some
        { conn with closed := true, tracked := .empty, broken := w.brokenAfterClose c conn } := by
      rw [h.connections, Roster.get?_modify_self, hc]
      rfl
    have hlives : w'.poolLives conn.owner = w.poolLives conn.owner := by
      unfold poolLives
      rw [h.pools]
    have hmeta : w'.metadata c
        { conn with closed := true, tracked := .empty, broken := w.brokenAfterClose c conn } =
          w.closedMetadata c conn (w.brokenAfterClose c conn) := by
      unfold metadata closedMetadata phaseAfterClose leakPhase
      simp only [h.watch, Leak.Watch.phase_cancel, hc]
      rfl
    rw [release_pools hc', h.pools, hmeta]
    dsimp only
    rw [hlives]

/-- What a close of an open connection leaves behind, and what it returns. -/
theorem closedDown_close {w : Session} {c : Nat} {conn : Connection}
    (hc : w.connections.get? c = some conn) (ho : conn.closed = false) :
    ClosedDown w c conn (w.close c).1 ∧
      (w.close c).2 = (w.sweepResult (w.closeOrder c)).outcome c := by
  obtain ⟨w', hout, hclose⟩ := close_eq_release hc ho
  rw [hclose]
  exact ⟨hout.closedDown hc, rfl⟩

namespace ClosedDown

variable {w w' : Session} {c : Nat} {conn : Connection} (h : ClosedDown w c conn w')
include h

theorem connection (hc : w.connections.get? c = some conn) : w'.connections.get? c = some
    { conn with closed := true, tracked := .empty, broken := w.brokenAfterClose c conn } := by
  rw [h.connections, Roster.get?_modify_self, hc]
  rfl

theorem leakPhase_eq (hc : w.connections.get? c = some conn) :
    w'.leakPhase c = w.phaseAfterClose c := by
  unfold phaseAfterClose leakPhase
  rw [h.connection hc, hc, h.watch]
  exact Leak.Watch.phase_cancel w.watch conn.detector

theorem owner {pool : Pool} (hp : w.pools.get? conn.owner = some pool) (hheld : pool.held = true) :
    w'.pools.get? conn.owner =
      some (pool.receive (w.closedMetadata c conn (w.brokenAfterClose c conn))) := by
  rw [h.pools, poolLives_eq hp, hheld, if_pos rfl, Roster.get?_modify_self, hp]
  rfl

/-- Pools that do not own the connection, and those that are gone, hear nothing. -/
theorem otherPools {p : Nat} (hp : p ≠ conn.owner ∨ w.poolLives p = false) :
    w'.pools.get? p = w.pools.get? p := by
  rw [h.pools]
  split
  · rename_i hlives
    have hne : p ≠ conn.owner := by
      rcases hp with hp | hp
      · exact hp
      · rintro rfl
        rw [hp] at hlives
        cases hlives
    rw [Roster.get?_modify_of_ne _ _ hne]
  · rfl

/-- What a close leaves behind determines the session but for its log. -/
theorem eq_but_log {r : Session} (hr : ClosedDown w c conn r) : w' = { r with log := w'.log } := by
  have hwatch : w'.watch = r.watch := by rw [h.watch, hr.watch]
  have hpools : w'.pools = r.pools := by rw [h.pools, hr.pools]
  have hconnections : w'.connections = r.connections := by rw [h.connections, hr.connections]
  have hjournals : w'.journals = r.journals :=
    Roster.ext_get? fun j => by rw [h.journals, hr.journals]
  have hstatements : w'.statements = r.statements :=
    Roster.ext_get? fun s => by rw [h.statements, hr.statements]
  rw [← hwatch, ← hpools, ← hconnections, ← hjournals, ← hstatements]

end ClosedDown

/-- Closing a connection whose record differs in the list and the broken flag comes to the same if
the sweeps do. -/
theorem ClosedDown.of_relisted {w w' r : Session} {c : Nat} {conn : Connection}
    {tracked : Registry Unit} {broken : Bool} (hc : w.connections.get? c = some conn)
    (hconns : w'.connections = w.connections.modify c fun _ => { conn with tracked, broken })
    (hwatch : w'.watch = w.watch) (hpools : w'.pools = w.pools)
    (hbroken : w'.brokenAfterClose c { conn with tracked, broken } = w.brokenAfterClose c conn)
    (hdown : ClosedDown w' c { conn with tracked, broken } r)
    (statements : ∀ s, r.statements.get? s = (w.statements.get? s).map fun statement =>
      { statement with closed := statement.closed || (w.reached (w.closeOrder c)).contains s })
    (journals : ∀ j, r.journals.get? j = (w.journals.get? j).map fun journal =>
      { journal with
        events := journal.events ++
          (w.completed (w.closeOrder c)).filterMap (w.closeEventIn? j) }) :
    ClosedDown w c conn r where
  connections := by rw [hdown.connections, hbroken, hconns, Roster.modify_modify]
  statements := statements
  journals := journals
  watch := by rw [hdown.watch, hwatch]
  pools := by
    have hphase : w'.phaseAfterClose c = w.phaseAfterClose c := by
      unfold phaseAfterClose leakPhase
      rw [hconns, Roster.get?_modify_self, hc, hwatch]
      rfl
    have hlives : w'.poolLives conn.owner = w.poolLives conn.owner := by
      unfold poolLives
      rw [hpools]
    rw [hdown.pools, hpools, hlives, hbroken]
    unfold closedMetadata
    rw [hphase]

/-! ## A close without a panic -/

/-- The event that an attempt to close a statement leaves in journal `j` when it does not panic. -/
def attemptEventIn? (w : Session) (j s : Nat) : Option Driver.Event :=
  (w.driverOf? s).bind fun d =>
    if d.journal = j then
      some (if (w.closeError? s).isSome then .statementCloseFailed d.label
        else .statementClosed d.label)
    else none

/-- What a close of the open connection `c` with the record `conn` comes to when no attempt panics:
`r` is the session that it leaves and what it returns. -/
structure TornDown (w : Session) (c : Nat) (conn : Connection) (r : Session × Outcome Unit) :
    Prop where
  connection : r.1.connections.get? c = some
    { conn with
      closed := true, tracked := .empty
      broken := conn.broken || breaks conn (w.attemptFailures c) }
  others : ∀ d, d ≠ c → r.1.connections.get? d = w.connections.get? d
  leak : r.1.leakPhase c = if w.leakPhase c = .armed then .cancelled else w.leakPhase c
  /-- The attempts are made for the tracked statements that are open, … -/
  attempted : ∀ s, s ∈ w.attempts c ↔ s ∈ w.openIds c ∧ w.isOpenStatement s = true
  /-- … each once, … -/
  once : (w.attempts c).Nodup
  /-- … from the newest last registration to the oldest. -/
  order : (w.attempts c).Pairwise fun s t =>
    (w.openIds c).reverse.idxOf s < (w.openIds c).reverse.idxOf t
  statements : ∀ s, r.1.statements.get? s = (w.statements.get? s).map fun statement =>
    { statement with closed := statement.closed || (w.openIds c).contains s }
  journals : ∀ j, r.1.journals.get? j = (w.journals.get? j).map fun journal =>
    { journal with events := journal.events ++ (w.attempts c).filterMap (w.attemptEventIn? j) }
  /-- The owner is notified once, when all statements are closed. -/
  released : ∃ swept : Session, swept.pools = w.pools ∧ swept.isClosed c = true ∧
    (∀ s ∈ w.openIds c, swept.isOpenStatement s = false) ∧ r.1 = swept.release c
  owner : ∀ pool, w.pools.get? conn.owner = some pool → pool.held = true →
    r.1.pools.get? conn.owner = some (pool.receive
      (w.closedMetadata c conn (conn.broken || breaks conn (w.attemptFailures c))))
  release : ∀ pool, w.pools.get? conn.owner = some pool → pool.held = true →
    (r.1.pools.get? conn.owner).map (·.releases) = some (pool.releases ++
      [{ connection := c
         broken := conn.broken || breaks conn (w.attemptFailures c)
         openStatements := 0
         leak := if w.leakPhase c = .armed then .cancelled else w.leakPhase c }])
  otherPools : ∀ p, p ≠ conn.owner ∨ w.poolLives p = false →
    r.1.pools.get? p = w.pools.get? p
  outcome : r.2 =
    match (w.attemptFailures c).head? with
    | none => .ok ()
    | some (s, e) => .err (.cleanup c s e)

theorem closeEventIn?_of_calm {w : Session} {s : Nat} (h : w.panicsOnClose s = false) (j : Nat) :
    w.closeEventIn? j s = w.attemptEventIn? j s := by
  unfold closeEventIn? attemptEventIn?
  cases hd : w.driverOf? s with
  | none => rfl
  | some d =>
    simp only [Option.bind_some]
    split
    · rename_i hj
      subst hj
      have hfault : w.closeFault? s =
          ((w.journals.get? d.journal).getD {}).closeFault? d.label := by
        simp [closeFault?, hd]
      unfold panicsOnClose at h
      unfold closeError? Driver.Journal.closeEvent?
      rw [hfault] at h ⊢
      cases hf : ((w.journals.get? d.journal).getD {}).closeFault? d.label with
      | none => rfl
      | some fault =>
        cases fault with
        | failed e => rfl
        | panicked label => rw [hf] at h; cases h
    · rfl

/-- A tracked statement that has a record is closed after a sweep that reached all attempts. -/
theorem closed_or_attempted {w : Session} {c s : Nat} {statement : Statement}
    (hs : w.statements.get? s = some statement) :
    (statement.closed || (w.attempts c).contains s) =
      (statement.closed || (w.openIds c).contains s) := by
  cases hc : statement.closed with
  | true => rfl
  | false =>
    have ho : w.isOpenStatement s = true := by simp [isOpenStatement, hs, hc]
    rw [Bool.false_or, Bool.false_or, Bool.eq_iff_iff, List.contains_iff_mem,
      List.contains_iff_mem]
    simp [attempts, closeOrder, mem_due, ho]

section Calm

variable {w w' : Session} {c : Nat} (calm : ∀ s ∈ w.attempts c, w.panicsOnClose s = false)
include calm

theorem brokenAfterClose_of_calm (conn : Connection) : w.brokenAfterClose c conn =
    (conn.broken || breaks conn (w.attemptFailures c)) := by
  have hfailures : w.failures (w.closeOrder c) = w.attemptFailures c := failures_of_calm calm
  unfold brokenAfterClose
  rw [hfailures]

theorem attemptEvents_of_calm (j : Nat) :
    (w.completed (w.closeOrder c)).filterMap (w.closeEventIn? j) =
      (w.attempts c).filterMap (w.attemptEventIn? j) := by
  have hcompleted : w.completed (w.closeOrder c) = w.attempts c := completed_of_calm calm
  rw [hcompleted]
  exact List.filterMap_congr fun s hs => closeEventIn?_of_calm (calm s hs) j

theorem TeardownWrites.statements_of_calm {conn : Connection} (h : TeardownWrites w c conn w')
    (s : Nat) : w'.statements.get? s = (w.statements.get? s).map fun statement =>
      { statement with closed := statement.closed || (w.openIds c).contains s } := by
  have hreached : w.reached (w.closeOrder c) = w.attempts c := reached_of_calm calm
  rw [h.statements, hreached]
  cases hs : w.statements.get? s with
  | none => rfl
  | some statement => rw [Option.map_some, Option.map_some, closed_or_attempted hs]

theorem TeardownWrites.tracked_of_calm {conn : Connection} (h : TeardownWrites w c conn w') :
    ∀ s ∈ w.openIds c, w'.isOpenStatement s = false := by
  intro s hs
  unfold isOpenStatement
  rw [h.statements_of_calm calm]
  cases w.statements.get? s <;> simp [hs]

end Calm

/-- The law of closing an open connection: whatever it tracks and whichever closes of statements
are scripted to fail, as long as none of those that are attempted panics. -/
theorem close_of_calm_script {w : Session} {c : Nat} {conn : Connection}
    (found : w.connections.get? c = some conn) (isOpen : conn.closed = false)
    (calm : ∀ s ∈ w.attempts c, w.panicsOnClose s = false) :
    TornDown w c conn (w.close c) := by
  have hbroken := brokenAfterClose_of_calm calm conn
  obtain ⟨w', hout, hclose⟩ := close_eq_release found isOpen
  have hdown : ClosedDown w c conn (w.close c).1 := (closedDown_close found isOpen).1
  refine
    { connection := ?_
      others := ?_
      leak := hdown.leakPhase_eq found
      attempted := ?_
      once := due_nodup w _
      order := due_pairwise w _
      statements := hdown.statements_of_calm calm
      journals := ?_
      released := ?_
      owner := ?_
      release := ?_
      otherPools := fun p hp => hdown.otherPools hp
      outcome := ?_ }
  · rw [hdown.connection found, hbroken]
  · intro d hd
    rw [hdown.connections, Roster.get?_modify_of_ne _ _ hd]
  · intro s
    rw [attempts, mem_due, closeOrder, List.mem_reverse]
  · intro j
    rw [hdown.journals, attemptEvents_of_calm calm]
  · refine ⟨w', hout.pools, ?_, hout.tracked_of_calm calm, congrArg Prod.fst hclose⟩
    unfold isClosed
    rw [hout.connections, Roster.get?_modify_self, found]
    rfl
  · intro pool hp hheld
    rw [hdown.owner hp hheld, hbroken]
  · intro pool hp hheld
    rw [hdown.owner hp hheld, hbroken, Option.map_some, Pool.releases_receive]
    rfl
  · have hfailures : w.failures (w.closeOrder c) = w.attemptFailures c := failures_of_calm calm
    rw [hclose, sweepResult_of_calm calm, hfailures]
    dsimp only
    rcases (w.attemptFailures c).head? with _ | ⟨s, e⟩ <;> rfl

section

attribute [local instance] Scheduler.exact

/-- Connection 1 tracks the open statement 1 twice, statement 2, which is closed already, and
statement 3 of connection 2; closing 1 or 3 is scripted to fail. -/
def mixedTracking : Session :=
  run {}
    [.newPool .recycling, .pool 0 (.connect none), .pool 0 (.connect none),
      .connection 1 (.openStatement (.prepare "A" {})),
      .connection 1 (.openStatement (.prepare "B" {})),
      .connection 2 (.openStatement (.prepare "C" {})),
      .script 1 (.failClose "A" { message := "gone", sqlState := some ⟨"08006"⟩ }),
      .script 2 (.failClose "C" { message := "busy" }),
      .statement 2 .close,
      .connection 1 (.register 2), .connection 1 (.register 3), .connection 1 (.register 1)]

theorem close_mixedTracking : ∃ conn,
    mixedTracking.connections.get? 1 = some conn ∧ conn.closed = false ∧
      (∀ s ∈ mixedTracking.attempts 1, mixedTracking.panicsOnClose s = false) ∧
      mixedTracking.openIds 1 = [1, 2, 3, 1] ∧ mixedTracking.attempts 1 = [1, 3] ∧
      TornDown mixedTracking 1 conn (mixedTracking.close 1) := by
  refine ⟨_, rfl, rfl, by decide, by decide, by decide, ?_⟩
  exact close_of_calm_script rfl rfl (by decide)

end

end Session

end ConnLease
