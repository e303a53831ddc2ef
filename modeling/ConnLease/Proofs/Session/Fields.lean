import ConnLease.Session.Run

/-!
# What the operations of a session write

For each small operation: the parts of the session that it leaves alone, and the part that it
changes as one change of that part. Nothing is said here about closing a whole connection.
-/

namespace ConnLease.Session

/-! ## Single updates -/

@[simp]
theorem emit_fields (w : Session) (e : LogEvent) :
    (w.emit e).watch = w.watch ∧ (w.emit e).journals = w.journals ∧ (w.emit e).pools = w.pools ∧
      (w.emit e).connections = w.connections ∧ (w.emit e).statements = w.statements :=
  ⟨rfl, rfl, rfl, rfl, rfl⟩

@[simp]
theorem onConnection_fields (w : Session) (c : Nat) (f : Connection → Connection) :
    (w.onConnection c f).watch = w.watch ∧ (w.onConnection c f).journals = w.journals ∧
      (w.onConnection c f).pools = w.pools ∧
      (w.onConnection c f).connections = w.connections.modify c f ∧
      (w.onConnection c f).statements = w.statements ∧ (w.onConnection c f).log = w.log :=
  ⟨rfl, rfl, rfl, rfl, rfl, rfl⟩

@[simp]
theorem onStatement_fields (w : Session) (s : Nat) (f : Statement → Statement) :
    (w.onStatement s f).watch = w.watch ∧ (w.onStatement s f).journals = w.journals ∧
      (w.onStatement s f).pools = w.pools ∧ (w.onStatement s f).connections = w.connections ∧
      (w.onStatement s f).statements = w.statements.modify s f ∧
      (w.onStatement s f).log = w.log :=
  ⟨rfl, rfl, rfl, rfl, rfl, rfl⟩

@[simp]
theorem onPool_fields (w : Session) (p : Nat) (f : Pool → Pool) :
    (w.onPool p f).watch = w.watch ∧ (w.onPool p f).journals = w.journals ∧
      (w.onPool p f).pools = w.pools.modify p f ∧ (w.onPool p f).connections = w.connections ∧
      (w.onPool p f).statements = w.statements ∧ (w.onPool p f).log = w.log :=
  ⟨rfl, rfl, rfl, rfl, rfl, rfl⟩

@[simp]
theorem onJournal_fields (w : Session) (j : Nat) (f : Driver.Journal → Driver.Journal) :
    (w.onJournal j f).watch = w.watch ∧ (w.onJournal j f).journals = w.journals.modify j f ∧
      (w.onJournal j f).pools = w.pools ∧ (w.onJournal j f).connections = w.connections ∧
      (w.onJournal j f).statements = w.statements ∧ (w.onJournal j f).log = w.log :=
  ⟨rfl, rfl, rfl, rfl, rfl, rfl⟩

@[simp]
theorem newConnection_fields (w : Session) (p : Nat) (config : LeaseConfig)
    (journal : Option Nat) (held : Bool) :
    (w.newConnection p config journal held).1.watch = w.watch ∧
      (w.newConnection p config journal held).1.pools = w.pools ∧
      (w.newConnection p config journal held).1.connections = w.connections.push
        { link := { journal := journal.getD w.journals.next }
          owner := p, classifier := config.classifier, held } ∧
      (w.newConnection p config journal held).1.statements = w.statements := by
  cases journal <;> exact ⟨rfl, rfl, rfl, rfl⟩

/-! ## The broken flag -/

@[simp]
theorem markBroken_fields (w : Session) (c : Nat) :
    (w.markBroken c).watch = w.watch ∧ (w.markBroken c).journals = w.journals ∧
      (w.markBroken c).pools = w.pools ∧ (w.markBroken c).statements = w.statements := by
  unfold markBroken
  split
  · split <;> simp
  · simp

theorem markBroken_connections (w : Session) (c : Nat) :
    (w.markBroken c).connections =
      w.connections.modify c fun conn => { conn with broken := true } := by
  unfold markBroken
  cases hc : w.connections.get? c with
  | none => exact (Roster.modify_of_none hc _).symm
  | some conn =>
    dsimp only
    split
    · rename_i hb
      refine (Roster.modify_of_some hc ?_).symm
      rw [← hb]
    · simp

@[simp]
theorem inspect_fields (w : Session) (c : Nat) (e : DriverError) :
    (w.inspect c e).watch = w.watch ∧ (w.inspect c e).journals = w.journals ∧
      (w.inspect c e).pools = w.pools ∧ (w.inspect c e).statements = w.statements := by
  unfold inspect
  split
  · split <;> simp
  · simp

theorem inspect_connections (w : Session) (c : Nat) (e : DriverError) :
    (w.inspect c e).connections = w.connections.modify c fun conn =>
      { conn with broken := conn.broken || (conn.classifier.judge e).isFatal } := by
  unfold inspect
  cases hc : w.connections.get? c with
  | none => exact (Roster.modify_of_none hc _).symm
  | some conn =>
    dsimp only
    split
    · rename_i hf
      rw [Bool.and_eq_true] at hf
      refine Roster.modify_congr_of_some hc ?_
      simp [hf.1]
    · rename_i hf
      refine (Roster.modify_of_some hc ?_).symm
      have hb : (conn.broken || (conn.classifier.judge e).isFatal) = conn.broken := by
        cases hbroken : conn.broken with
        | true => rfl
        | false => simpa [hbroken] using hf
      rw [hb]

/-! ## The parts of a close -/

@[simp]
theorem noteFailure_fields (w : Session) (c s : Nat) (e : DriverError) :
    (w.noteFailure c s e).watch = w.watch ∧ (w.noteFailure c s e).journals = w.journals ∧
      (w.noteFailure c s e).pools = w.pools ∧ (w.noteFailure c s e).statements = w.statements := by
  simp [noteFailure]

theorem noteFailure_connections (w : Session) (c s : Nat) (e : DriverError) :
    (w.noteFailure c s e).connections = w.connections.modify c fun conn =>
      { conn with broken := conn.broken || (conn.classifier.judge e).isFatal } := by
  simp [noteFailure, inspect_connections]

@[simp]
theorem cancelCheck_fields (w : Session) (c : Nat) :
    (w.cancelCheck c).journals = w.journals ∧ (w.cancelCheck c).pools = w.pools ∧
      (w.cancelCheck c).connections = w.connections ∧
      (w.cancelCheck c).statements = w.statements := by
  unfold cancelCheck
  split
  · simp
  · dsimp only
    split <;> simp

theorem cancelCheck_watch {w : Session} {c : Nat} {conn : Connection}
    (hc : w.connections.get? c = some conn) :
    (w.cancelCheck c).watch = (w.watch.cancel conn.detector).1 := by
  unfold cancelCheck
  rw [hc]
  dsimp only
  split <;> simp

@[simp]
theorem drain_fields (w : Session) (c : Nat) :
    (w.drain c).1.watch = w.watch ∧ (w.drain c).1.journals = w.journals ∧
      (w.drain c).1.pools = w.pools ∧ (w.drain c).1.statements = w.statements := by
  unfold drain
  split <;> simp

theorem drain_connections (w : Session) (c : Nat) :
    (w.drain c).1.connections =
      w.connections.modify c fun conn => { conn with tracked := .empty } := by
  unfold drain
  cases hc : w.connections.get? c with
  | none => exact (Roster.modify_of_none hc _).symm
  | some conn => rfl

/-- What is drained are the tracked statements, newest first. -/
theorem drain_snd (w : Session) (c : Nat) : (w.drain c).2 = (w.openIds c).reverse := by
  unfold drain openIds
  cases w.connections.get? c with
  | none => rfl
  | some conn => exact Registry.drained_ids conn.tracked

@[simp]
theorem release_fields (w : Session) (c : Nat) :
    (w.release c).watch = w.watch ∧ (w.release c).journals = w.journals ∧
      (w.release c).connections = w.connections ∧ (w.release c).statements = w.statements := by
  unfold release
  split
  · simp
  · split
    · split <;> simp
    · simp

/-! ## Lending -/

@[simp]
theorem revive_fields (w : Session) (c : Nat) :
    (w.revive c).journals = w.journals ∧ (w.revive c).pools = w.pools ∧
      (w.revive c).statements = w.statements := by
  unfold revive
  split <;> simp

theorem revive_connections (w : Session) (c : Nat) :
    (w.revive c).connections =
      w.connections.modify c fun conn => { conn with detector := {}, closed := false } := by
  unfold revive
  cases hc : w.connections.get? c with
  | none => exact (Roster.modify_of_none hc _).symm
  | some conn => rfl

theorem revive_watch {w : Session} {c : Nat} {conn : Connection}
    (hc : w.connections.get? c = some conn) :
    (w.revive c).watch = (w.watch.cancel conn.detector).1 := by
  unfold revive
  rw [hc]
  rfl

@[simp]
theorem touch_fields (w : Session) (c : Nat) :
    (w.touch c).watch = w.watch ∧ (w.touch c).journals = w.journals ∧
      (w.touch c).pools = w.pools ∧
      (w.touch c).connections = w.connections.modify c (fun conn =>
        { conn with lastAccess := none }) ∧
      (w.touch c).statements = w.statements :=
  ⟨rfl, rfl, rfl, rfl, rfl⟩

/-- What arming needs and what it does. -/
theorem arm_eq_ok_iff [Scheduler] {w w' : Session} {c : Nat} {threshold : Duration} {timer : Nat} :
    w.arm c threshold timer = .ok w' ↔ ∃ conn watch detector,
      w.connections.get? c = some conn ∧ conn.closed = false ∧
      w.watch.arm conn.detector c threshold timer = .ok (watch, detector) ∧
      w' = ({ w with watch }.onConnection c fun conn => { conn with detector }).emit
        (.checkArmed c threshold) := by
  unfold arm
  cases hc : w.connections.get? c with
  | none => simp
  | some conn =>
    dsimp only
    cases ho : conn.closed with
    | true =>
      simp only [if_true, reduceCtorEq, false_iff]
      rintro ⟨conn', watch, detector, hc', ho', -, -⟩
      cases hc'
      rw [ho] at ho'
      cases ho'
    | false =>
      rw [if_neg Bool.false_ne_true]
      constructor
      · intro h
        cases ha : w.watch.arm conn.detector c threshold timer with
        | error e => rw [ha] at h; cases h
        | ok armed =>
          rw [ha] at h
          exact ⟨conn, armed.1, armed.2, rfl, ho, ha, (Except.ok.inj h).symm⟩
      · rintro ⟨conn', watch, detector, hc', -, ha, rfl⟩
        cases hc'
        rw [ha]
        rfl

theorem evict_fields (w : Session) (p : Nat) :
    (w.evict p).1.watch = w.watch ∧ (w.evict p).1.journals = w.journals ∧
      (w.evict p).1.connections = w.connections ∧ (w.evict p).1.statements = w.statements := by
  unfold evict
  split <;> simp

theorem evict_pools (w : Session) (p : Nat) :
    (w.evict p).1.pools = w.pools.modify p fun pool =>
      { pool with
        idle := pool.idle.filter (!w.isBroken ·)
        discarded := pool.discarded ++ pool.idle.filter (w.isBroken ·) } := by
  unfold evict
  cases hp : w.pools.get? p with
  | none => exact (Roster.modify_of_none hp _).symm
  | some pool =>
    exact Roster.modify_congr_of_some hp rfl

/-! ## Statements -/

@[simp]
theorem register_fields (w : Session) (c s : Nat) :
    (w.register c s).1.watch = w.watch ∧ (w.register c s).1.journals = w.journals ∧
      (w.register c s).1.pools = w.pools ∧ (w.register c s).1.statements = w.statements := by
  unfold register
  split <;> simp

theorem isClosed_eq {w : Session} {c : Nat} {conn : Connection}
    (hc : w.connections.get? c = some conn) : w.isClosed c = conn.closed := by
  unfold isClosed
  rw [hc]

theorem register_connections (w : Session) (c s : Nat) :
    (w.register c s).1.connections = w.connections.modify c fun conn =>
      if conn.closed then conn else { conn with tracked := conn.tracked.register s () } := by
  unfold register
  cases hc : w.connections.get? c with
  | none =>
    rw [Roster.modify_of_none hc]
    simp [isClosed, hc]
  | some conn =>
    rw [isClosed_eq hc]
    cases ho : conn.closed with
    | true => exact (Roster.modify_of_some hc (by rw [ho, if_pos rfl])).symm
    | false => exact Roster.modify_congr_of_some hc (by simp [ho])

@[simp]
theorem unregister_fields (w : Session) (c s : Nat) :
    (w.unregister c s).watch = w.watch ∧ (w.unregister c s).journals = w.journals ∧
      (w.unregister c s).pools = w.pools ∧ (w.unregister c s).statements = w.statements := by
  unfold unregister
  repeat' split
  all_goals simp

theorem unregister_connections (w : Session) (c s : Nat) :
    (w.unregister c s).connections = w.connections.modify c fun conn =>
      if conn.closed then conn else { conn with tracked := (conn.tracked.unregister s).1 } := by
  unfold unregister
  cases hc : w.connections.get? c with
  | none => exact (Roster.modify_of_none hc _).symm
  | some conn =>
    dsimp only
    cases ho : conn.closed with
    | true => exact (Roster.modify_of_some hc (by rw [ho, if_pos rfl])).symm
    | false =>
      have hsame := Registry.unregister_none conn.tracked s
      rw [if_neg Bool.false_ne_true]
      rcases hu : conn.tracked.unregister s with ⟨tracked, _ | value⟩
      · rw [hu] at hsame
        have htracked : tracked = conn.tracked := hsame rfl
        refine (Roster.modify_of_some hc ?_).symm
        rw [if_neg (by simp [ho]), hu, htracked]
      · refine Roster.modify_congr_of_some hc ?_
        rw [ho, if_neg Bool.false_ne_true, hu]

theorem adopt_fst (w : Session) (c : Nat) (call : Driver.OpenCall) (driver : Driver.Statement) :
    (w.adopt c call driver).1 =
      (let opened := { w with
        statements := w.statements.push
          { connection := c, kind := call.kind, sql := call.sql?, driver } }
       if w.isClosed c then opened.emit (.untracked c w.statements.next)
       else (opened.register c w.statements.next).1) := by
  have hclosed : ∀ statements, isClosed { w with statements } c = w.isClosed c := fun _ => rfl
  unfold adopt register
  dsimp only
  rw [hclosed]
  cases w.isClosed c <;> rfl

@[simp]
theorem adopt_fields (w : Session) (c : Nat) (call : Driver.OpenCall)
    (driver : Driver.Statement) :
    (w.adopt c call driver).1.watch = w.watch ∧ (w.adopt c call driver).1.journals = w.journals ∧
      (w.adopt c call driver).1.pools = w.pools ∧
      (w.adopt c call driver).1.statements = w.statements.push
        { connection := c, kind := call.kind, sql := call.sql?, driver } := by
  rw [adopt_fst]
  refine ⟨?_, ?_, ?_, ?_⟩
  all_goals split
  all_goals simp

end ConnLease.Session
