import ConnLease.Proofs.Session.Living
import ConnLease.Proofs.Session.Releases

/-!
# Errors that go through a connection

An operation breaks a connection in two ways: it marks the connection, or it reports a driver's
error through it that its classifier holds to be fatal. Both can be seen from the outside, by what
the operation is and how it answers; the sweep of a close alone goes on where no caller sees it.
-/

namespace ConnLease

theorem Outcome.map_eq_err_iff {α β : Type} {f : α → β} {o : Outcome α} {e : LeaseError} :
    o.map f = .err e ↔ o = .err e := by
  cases o <;> simp [Outcome.map]

namespace Session

/-! ## The classifier -/

theorem changed_classifier [Scheduler] (w : Session) (m : Move) (conn : Connection) :
    (w.changed m conn).classifier = conn.classifier := by
  cases m with
  | close c => simp only [changed]; split <;> rfl
  | arm c threshold timer | register c s | unregister c s | untrack c s | adopt c call driver =>
    exact changed_of_keepsBooks (P := (·.classifier = conn.classifier)) (by rfl) fun _ _ => rfl
  | _ => rfl

/-- The connection `c` has been made and judges errors by `k`. -/
def JudgesBy (w : Session) (c : Nat) (k : Classifier) : Prop :=
  ∃ conn, w.connections.get? c = some conn ∧ conn.classifier = k

theorem JudgesBy.unique {w : Session} {c : Nat} {k k' : Classifier} (h : w.JudgesBy c k)
    (h' : w.JudgesBy c k') : k = k' := by
  obtain ⟨conn, hc, rfl⟩ := h
  obtain ⟨conn', hc', rfl⟩ := h'
  rw [hc] at hc'
  cases hc'
  rfl

theorem exists_judgesBy_iff {w : Session} {c : Nat} {conn : Connection} {P : Classifier → Prop}
    (hc : w.connections.get? c = some conn) :
    (∃ k, w.JudgesBy c k ∧ P k) ↔ P conn.classifier := by
  constructor
  · rintro ⟨k, hk, hP⟩
    rwa [hk.unique ⟨conn, hc, rfl⟩] at hP
  · intro hP
    exact ⟨conn.classifier, ⟨conn, hc, rfl⟩, hP⟩

/-- A connection keeps its classifier. -/
theorem judgesBy_move [Scheduler] {w : Session} {c : Nat} {k : Classifier} (h : w.JudgesBy c k)
    (m : Move) : (w.move m).JudgesBy c k := by
  obtain ⟨conn, hc, hk⟩ := h
  exact connection_move hc m hk fun _ => by rw [changed_classifier, hk]

theorem judgesBy_moveAll [Scheduler] {w : Session} {c : Nat} {k : Classifier} (h : w.JudgesBy c k)
    (ms : List Move) : (w.moveAll ms).JudgesBy c k :=
  (moveAll_induction (P := (·.JudgesBy c k)) (fun x _ hx => judgesBy_move hx x.2) h).1

theorem judgesBy_run [Scheduler] {w : Session} {c : Nat} {k : Classifier} (h : w.JudgesBy c k)
    (ops : List Op) : (w.run ops).JudgesBy c k := by
  rw [run_eq_moveAll]
  exact judgesBy_moveAll h _

/-! ## One move -/

/-- A move lets the connection `c` see a driver's error: it passes on an error of a call, or closes
the connection and a statement of the sweep fails. -/
def Shows (w : Session) (c : Nat) (m : Move) (e : DriverError) : Prop :=
  m = .inspect c e ∨
    m = .close c ∧ w.isClosed c = false ∧ ∃ s, (s, e) ∈ w.failures (w.closeOrder c)

/-- A move breaks the connection `c` that judges errors by `k`, or would if it was not broken. -/
def MoveBreaks (w : Session) (c : Nat) (k : Classifier) (m : Move) : Prop :=
  m = .markBroken c ∨ ∃ e, w.Shows c m e ∧ (k.judge e).isFatal = true

theorem MoveBreaks.mayBreak {w : Session} {c : Nat} {k : Classifier} {m : Move}
    (h : w.MoveBreaks c k m) : m.mayBreak = true ∧ m.connection? = some c := by
  obtain rfl | ⟨e, rfl | ⟨rfl, -⟩, -⟩ := h
  · exact ⟨rfl, rfl⟩
  · exact ⟨rfl, rfl⟩
  · exact ⟨rfl, rfl⟩

theorem breaks_eq_true_iff {conn : Connection} {failures : List (Nat × DriverError)} :
    breaks conn failures = true ↔
      ∃ e, (∃ s, (s, e) ∈ failures) ∧ (conn.classifier.judge e).isFatal = true := by
  unfold breaks
  rw [List.any_eq_true]
  constructor
  · rintro ⟨⟨s, e⟩, hmem, hfatal⟩
    exact ⟨e, ⟨s, hmem⟩, hfatal⟩
  · rintro ⟨e, ⟨s, hmem⟩, hfatal⟩
    exact ⟨(s, e), hmem, hfatal⟩

theorem changed_broken_iff [Scheduler] {w : Session} {c : Nat} {m : Move} {conn : Connection}
    (hc : w.connections.get? c = some conn) (haddressed : m.connection? = some c) :
    (w.changed m conn).broken = true ↔
      conn.broken = true ∨ w.MoveBreaks c conn.classifier m := by
  cases hm : m.mayBreak with
  | false =>
    have hnot : ¬ w.MoveBreaks c conn.classifier m := by
      intro hbreaks
      rw [hbreaks.mayBreak.1] at hm
      cases hm
    rw [changed_broken_of_kept hm, or_iff_left hnot]
  | true =>
    unfold MoveBreaks Shows
    cases m with
    | markBroken d =>
      cases haddressed
      simp [changed]
    | inspect d e =>
      cases haddressed
      simp [changed]
    | close d =>
      cases haddressed
      rw [isClosed_eq hc]
      cases ho : conn.closed <;> simp [changed, ho, brokenAfterClose, breaks_eq_true_iff]
    | _ => cases hm

/-- A connection is broken after a move if it was before, or if the move breaks it. -/
theorem isBroken_move_iff [Scheduler] (w : Session) (m : Move) (c : Nat) :
    (w.move m).isBroken c = true ↔
      w.isBroken c = true ∨ ∃ k, w.JudgesBy c k ∧ w.MoveBreaks c k m := by
  by_cases haddressed : m.connection? = some c
  · have hget := get?_connections_move w m c
    rw [if_pos haddressed] at hget
    cases hc : w.connections.get? c with
    | none =>
      rw [hc, Option.map_none] at hget
      simp [isBroken, hget, hc, JudgesBy]
    | some conn =>
      rw [hc, Option.map_some] at hget
      rw [isBroken_eq hget, isBroken_eq hc, exists_judgesBy_iff hc]
      exact changed_broken_iff hc haddressed
  · have hnot : ¬ ∃ k, w.JudgesBy c k ∧ w.MoveBreaks c k m := by
      rintro ⟨k, -, hbreaks⟩
      exact haddressed hbreaks.mayBreak.2
    rw [isBroken_move_of_unaddressed haddressed, or_iff_left hnot]

theorem isBroken_moveAll_iff [Scheduler] (w : Session) (ms : List Move) (c : Nat) :
    (w.moveAll ms).isBroken c = true ↔
      w.isBroken c = true ∨
        ∃ x ∈ w.trail ms, ∃ k, x.1.JudgesBy c k ∧ x.1.MoveBreaks c k x.2 := by
  induction ms generalizing w with
  | nil => simp [trail]
  | cons m ms ih =>
    rw [moveAll_cons, ih, isBroken_move_iff, or_assoc, trail, List.exists_mem_cons_iff]

/-! ## Marking and reporting -/

/-- The operation marks the connection `c` as broken: its holder does, directly or through its life
cycle, or somebody who finds it idle in a pool. -/
def Marks [Scheduler] (w : Session) (c : Nat) (op : Op) : Prop :=
  (op = .connection c .markBroken ∨ op = .connection c (.lifecycle .markBroken) ∨
      ∃ p, op = .pool p (.idle c .markBroken)) ∧
    (w.step op).2 = .ok .unit

/-- The operation reports a driver's error through the connection `c`. -/
inductive Reports [Scheduler] (w : Session) (c : Nat) : Op → DriverError → Prop
  /-- A call on the connection ends with the error: one that opens a statement, one that is passed
  on to the driver, or code that is run on the driver. -/
  | calling {o : ConnectionOp} {e : DriverError}
      (reply : (w.step (.connection c o)).2 = .outcome (.err (.driver e))) :
      Reports w c (.connection c o) e
  /-- A caller that has the error in hand lets the connection look at it. -/
  | inspecting {e : DriverError}
      (reply : (w.step (.connection c (.inspect e))).2 = .ok (.error e)) :
      Reports w c (.connection c (.inspect e)) e
  /-- The use or the close of a statement ends with the error, and the connection is its owner and
  still lives. -/
  | ofStatement {s : Nat} {o : StatementOp} {statement : Statement} {e : DriverError}
      (found : w.statements.get? s = some statement) (owner : statement.connection = c)
      (lives : w.connectionLives c = true)
      (reply : (w.step (.statement s o)).2 = .outcome (.err (.driver e))) :
      Reports w c (.statement s o) e
  /-- The operation closes the connection, which is open, and the sweep fails to close a statement,
  whoever owns that. -/
  | sweeping {op : Op} {u : Session} {s : Nat} {e : DriverError}
      (reached : (u, .close c) ∈ w.trail (w.moves op)) (isOpen : u.isClosed c = false)
      (failed : (s, e) ∈ u.failures (u.closeOrder c)) :
      Reports w c op e

/-! ## The moves of marks -/

theorem marks_iff [Scheduler] {w : Session} {c : Nat} {op : Op} :
    .markBroken c ∈ w.moves op ↔ w.Marks c op := by
  have hheld : ∀ o, (o = .markBroken ∨ o = .lifecycle .markBroken) →
      (.markBroken c ∈ w.moves (.connection c o) ↔
        (w.step (.connection c o)).2 = .ok .unit) := by
    rintro o (rfl | rfl)
    all_goals
      cases hheld : w.heldConnection? c with
      | none => simp [moves, step, hheld, Reply.ok]
      | some conn =>
        simp [moves, step, hheld, connectionMoves, lifecycleMoves, performConnection, lifecycle]
  have hidle : ∀ p, .markBroken c ∈ w.moves (.pool p (.idle c .markBroken)) ↔
      (w.step (.pool p (.idle c .markBroken))).2 = .ok .unit := by
    intro p
    cases hp : w.heldPool? p with
    | none => simp [moves, step, hp, Reply.ok]
    | some pool =>
      simp only [moves, step, hp, poolMoves, performPool]
      cases (w.connections.get? c).filter fun _ => pool.idle.contains c with
      | none => simp [Reply.ok]
      | some conn => simp [lifecycleMoves, lifecycle]
  unfold Marks
  constructor
  · intro hmem
    rcases moves_belong w op _ hmem with rfl | rfl | ⟨p, rfl⟩
    · exact ⟨.inl rfl, (hheld _ (.inl rfl)).1 hmem⟩
    · exact ⟨.inr (.inl rfl), (hheld _ (.inr rfl)).1 hmem⟩
    · exact ⟨.inr (.inr ⟨p, rfl⟩), (hidle p).1 hmem⟩
  · rintro ⟨rfl | rfl | ⟨p, rfl⟩, hreply⟩
    · exact (hheld _ (.inl rfl)).2 hreply
    · exact (hheld _ (.inr rfl)).2 hreply
    · exact (hidle p).2 hreply

/-! ## The moves of reports -/

/-- The only error that a close returns is that of a statement. -/
theorem cleanup_of_close {w : Session} {c : Nat} {e : LeaseError} (h : (w.close c).2 = .err e) :
    ∃ s cause, e = .cleanup c s cause := by
  cases ho : w.isClosed c with
  | true =>
    rw [close_of_isClosed ho] at h
    cases h
  | false =>
    rw [close_snd ho] at h
    rcases hr : (w.sweep c (w.closeOrder c)).2 with (_ | ⟨s, cause⟩) | label
    · rw [hr] at h
      cases h
    · rw [hr] at h
      cases h
      exact ⟨s, cause, rfl⟩
    · rw [hr] at h
      cases h

theorem close_ne_driver (w : Session) (c : Nat) (e : DriverError) :
    (w.close c).2 ≠ .err (.driver e) := by
  intro h
  obtain ⟨s, cause, he⟩ := cleanup_of_close h
  cases he

theorem arm_ne_driver [Scheduler] (w : Session) (c : Nat) (threshold : Duration) (timer : Nat)
    (e : DriverError) : w.arm c threshold timer ≠ .error (.driver e) := by
  unfold arm
  cases w.connections.get? c with
  | none => simp
  | some conn =>
    dsimp only
    split
    · simp
    · unfold Leak.Watch.arm
      repeat' split
      all_goals simp [Except.map]

theorem inspect_openMoves_iff [Scheduler] {w : Session} {c : Nat} {call : Driver.OpenCall}
    {e : DriverError} :
    .inspect c e ∈ w.openMoves c call ↔ (w.openStatement c call).2 = .err (.driver e) := by
  unfold openMoves openStatement
  cases hc : w.connections.get? c with
  | none => simp
  | some conn =>
    dsimp only
    split
    · simp
    · have hcalled : w.setWire c ((w.wire conn).openStatement call).1 =
          w.move (.callOpen c call) := by
        simp only [move, hc]
      have hasked : .inspect c e ∉ askedMoves c conn.closesOnOpen := by
        unfold askedMoves
        split <;> simp
      rw [List.mem_cons, List.mem_append, or_iff_right (by simp), or_iff_right hasked, hcalled]
      unfold openedMoves
      rcases (w.move (.callOpen c call)).closeIfAsked c with ⟨after, _ | label⟩
      · cases ((w.wire conn).openStatement call).2 <;> simp [refuse, eq_comm]
      · simp

theorem inspect_performMoves_iff {w : Session} {c : Nat} {call : Driver.PlainCall}
    {e : DriverError} :
    .inspect c e ∈ w.performMoves c call ↔ (w.perform c call).2 = .err (.driver e) := by
  unfold performMoves perform
  cases w.connections.get? c with
  | none => simp
  | some conn =>
    dsimp only
    cases ((w.wire conn).perform call).2 <;> simp [refuse, eq_comm]

theorem inspect_connection_iff [Scheduler] {w : Session} {c : Nat} {o : ConnectionOp}
    {e : DriverError} :
    .inspect c e ∈ w.moves (.connection c o) ↔
      (w.step (.connection c o)).2 = .outcome (.err (.driver e)) ∨
        o = .inspect e ∧ (w.step (.connection c o)).2 = .ok (.error e) := by
  cases hheld : w.heldConnection? c with
  | none => simp [moves, step, hheld, Reply.ok]
  | some conn =>
    simp only [moves, step, hheld]
    cases o with
    | openStatement call =>
      simp only [connectionMoves, performConnection]
      rw [inspect_openMoves_iff]
      rcases w.openStatement c call with ⟨after, s | e | label⟩ <;> simp [Reply.ok]
    | perform call =>
      simp only [connectionMoves, performConnection]
      rw [inspect_performMoves_iff]
      rcases w.perform c call with ⟨after, v | e | label⟩ <;> simp [Outcome.map]
    | close =>
      have hreply : (w.performConnection c conn .close).2 =
          .outcome ((w.close c).2.map fun _ => .unit) := rfl
      simp [connectionMoves, hreply, close_ne_driver, Outcome.map_eq_err_iff]
    | arm threshold timer =>
      simp only [connectionMoves, performConnection]
      split
      · simp
      · cases ha : w.arm c threshold timer with
        | ok armed => simp [Reply.ok]
        | error e' =>
          have hother : e' ≠ .driver e := by
            rintro rfl
            exact arm_ne_driver w c threshold timer e ha
          simp [Reply.ok, hother]
    | closeConcurrently threads =>
      cases threads <;> simp [connectionMoves, performConnection, Reply.ok]
    | reassign p =>
      simp only [connectionMoves, performConnection]
      cases w.heldPool? p <;> simp [Reply.ok]
    | register s =>
      simp only [connectionMoves, performConnection]
      cases w.heldStatement? s <;> simp [Reply.ok]
    | lifecycle o =>
      cases o <;> simp [connectionMoves, lifecycleMoves, performConnection, Reply.ok]
    | inspect e' => simp [connectionMoves, performConnection, Reply.ok, eq_comm]
    | failDriver e' => simp [connectionMoves, performConnection, refuse, eq_comm]
    | _ => simp [connectionMoves, performConnection, Reply.ok]

theorem inspect_ownerMoves_iff {w : Session} {statement : Statement} {c : Nat}
    {e e' : DriverError} :
    .inspect c e ∈ w.ownerMoves statement (.inspect · e') ↔
      (statement.connection = c ∧ w.connectionLives c = true) ∧ e' = e := by
  rw [← ownerOf?_eq_some_iff]
  unfold ownerMoves
  cases w.ownerOf? statement with
  | none => simp
  | some d => simp [eq_comm]

theorem closeStatement_err_driver_iff {w : Session} {s : Nat} {statement : Statement}
    {e : DriverError} (hs : w.statements.get? s = some statement) :
    (w.closeStatement s).2 = .err (.driver e) ↔ (w.closeAtDriver s).2 = .failed e := by
  unfold closeStatement
  rw [hs]
  rcases w.closeAtDriver s with ⟨after, _ | _ | e' | label⟩ <;> simp

theorem inspect_closeStatementMoves_iff [Scheduler] {w : Session} {s c : Nat}
    {statement : Statement} {e : DriverError} (hs : w.statements.get? s = some statement) :
    .inspect c e ∈ w.closeStatementMoves s ↔
      (statement.connection = c ∧ w.connectionLives c = true) ∧
        (w.closeStatement s).2 = .err (.driver e) := by
  have huntrack : ∀ u : Session, .inspect c e ∉ u.ownerMoves statement (.untrack · s) := by
    intro u
    unfold ownerMoves
    split <;> simp
  -- neither the call on the driver nor the untracking lets the owner die
  have hlives : ((w.move (.closeAtDriver s)).moveAll
      ((w.move (.closeAtDriver s)).ownerMoves statement (.untrack · s))).connectionLives c =
        w.connectionLives c := by
    rw [ownerMoves_eq]
    cases (w.move (.closeAtDriver s)).ownerOf? statement with
    | none => exact connectionLives_closeAtDriver w s c
    | some d =>
      dsimp only
      rw [connectionLives_untrack, connectionLives_closeAtDriver]
  rw [closeStatement_err_driver_iff hs]
  unfold closeStatementMoves
  rw [hs]
  dsimp only
  rw [List.mem_cons, or_iff_right (by simp)]
  cases (w.closeAtDriver s).2 with
  | failed e' =>
    dsimp only
    rw [List.mem_append, or_iff_right (huntrack _), inspect_ownerMoves_iff, hlives]
    simp
  | _ => simp [huntrack]

theorem inspect_statement_iff [Scheduler] {w : Session} {s c : Nat} {o : StatementOp}
    {e : DriverError} :
    .inspect c e ∈ w.moves (.statement s o) ↔ ∃ statement, w.statements.get? s = some statement ∧
      (statement.connection = c ∧ w.connectionLives c = true) ∧
        (w.step (.statement s o)).2 = .outcome (.err (.driver e)) := by
  cases hheld : w.heldStatement? s with
  | none => simp [moves, step, hheld]
  | some statement =>
    have hs : w.statements.get? s = some statement := Option.eq_some_of_filter_eq_some hheld
    have hfound : ∀ P : Statement → Prop,
        (∃ statement, w.statements.get? s = some statement ∧ P statement) ↔ P statement := by
      simp [hs]
    rw [hfound]
    simp only [moves, step, hheld]
    cases o with
    | close =>
      have hreply : (w.performStatement s statement .close).2 =
          .outcome ((w.closeStatement s).2.map fun _ => .unit) := rfl
      rw [hreply, Reply.outcome.injEq, Outcome.map_eq_err_iff]
      exact inspect_closeStatementMoves_iff hs
    | use failure =>
      have hreply : (w.performStatement s statement (.use failure)).2 =
          .outcome ((w.useStatement s failure).2.map .text) := rfl
      rw [hreply, Reply.outcome.injEq, Outcome.map_eq_err_iff]
      unfold useStatement
      rw [hs]
      cases failure with
      | none => cases ho : statement.closed <;> simp [statementMoves, ho]
      | some e' =>
        cases ho : statement.closed with
        | true => simp [statementMoves, ho]
        | false => simp [statementMoves, ho, inspect_ownerMoves_iff]
    | inspect => simp [statementMoves, performStatement, Reply.ok]
    | describe => simp [statementMoves, performStatement, Reply.ok]

section

variable [Scheduler]

/-- What an operation shows a connection is what it reports through it. -/
theorem reports_iff {w : Session} {c : Nat} {op : Op} {e : DriverError} :
    (∃ x ∈ w.trail (w.moves op), x.1.Shows c x.2 e) ↔ w.Reports c op e := by
  have hshown : .inspect c e ∈ w.moves op →
      ∃ x ∈ w.trail (w.moves op), x.1.Shows c x.2 e := by
    intro hmem
    obtain ⟨u, hx⟩ := exists_trail_of_mem hmem
    exact ⟨(u, .inspect c e), hx, .inl rfl⟩
  constructor
  · rintro ⟨⟨u, m⟩, hx, rfl | ⟨rfl, hopen, s, hfailed⟩⟩
    · have hmem : .inspect c e ∈ w.moves op := mem_of_mem_trail hx
      rcases moves_belong w op _ hmem with ⟨o, rfl⟩ | ⟨s, o, rfl⟩
      · rcases inspect_connection_iff.1 hmem with hreply | ⟨rfl, hreply⟩
        · exact .calling hreply
        · exact .inspecting hreply
      · obtain ⟨statement, hs, ⟨howner, hlives⟩, hreply⟩ := inspect_statement_iff.1 hmem
        exact .ofStatement hs howner hlives hreply
    · exact .sweeping hx hopen hfailed
  · intro hreports
    cases hreports with
    | calling hreply => exact hshown (inspect_connection_iff.2 (.inl hreply))
    | inspecting hreply => exact hshown (inspect_connection_iff.2 (.inr ⟨rfl, hreply⟩))
    | ofStatement hs howner hlives hreply =>
      exact hshown (inspect_statement_iff.2 ⟨_, hs, ⟨howner, hlives⟩, hreply⟩)
    | sweeping hx hopen hfailed => exact ⟨_, hx, .inr ⟨rfl, hopen, _, hfailed⟩⟩

/-! ## One operation -/

/-- An operation breaks the connection `c` that judges errors by `k`, or would if it was not
broken. -/
def Breaks (w : Session) (c : Nat) (k : Classifier) (op : Op) : Prop :=
  w.Marks c op ∨ ∃ e, w.Reports c op e ∧ (k.judge e).isFatal = true

theorem breaks_iff_exists_move {w : Session} {c : Nat} {k : Classifier} {op : Op} :
    w.Breaks c k op ↔ ∃ x ∈ w.trail (w.moves op), x.1.MoveBreaks c k x.2 := by
  unfold Breaks
  constructor
  · rintro (hmarks | ⟨e, hreports, hfatal⟩)
    · obtain ⟨u, hx⟩ := exists_trail_of_mem (marks_iff.2 hmarks)
      exact ⟨_, hx, .inl rfl⟩
    · obtain ⟨x, hx, hshows⟩ := reports_iff.2 hreports
      exact ⟨x, hx, .inr ⟨e, hshows, hfatal⟩⟩
  · rintro ⟨⟨u, m⟩, hx, rfl | ⟨e, hshows, hfatal⟩⟩
    · exact .inl (marks_iff.1 (mem_of_mem_trail hx))
    · exact .inr ⟨e, reports_iff.1 ⟨_, hx, hshows⟩, hfatal⟩

theorem made_of_idle_mem {w : Session} {p c : Nat} {o : LifecycleOp} {m : Move}
    (h : m ∈ w.moves (.pool p (.idle c o))) : (w.connections.get? c).isSome = true := by
  simp only [moves] at h
  cases hp : w.heldPool? p with
  | none => rw [hp] at h; cases h
  | some pool =>
    simp only [hp, poolMoves] at h
    cases hc : w.connections.get? c with
    | none => rw [hc] at h; cases h
    | some conn => rfl

/-- What breaks a connection finds it there. -/
theorem Breaks.made {w : Session} {c : Nat} {k : Classifier} {op : Op} (h : w.Breaks c k op) :
    (w.connections.get? c).isSome = true := by
  obtain ⟨⟨u, m⟩, hx, hbreaks⟩ := breaks_iff_exists_move.1 h
  have hmem : m ∈ w.moves op := mem_of_mem_trail hx
  have hheld : ∀ o, op = .connection c o → (w.connections.get? c).isSome = true := by
    rintro o rfl
    obtain ⟨conn, hheld⟩ := heldConnection?_of_mem hmem
    exact isSome_of_held hheld
  rcases hbreaks with rfl | ⟨e, rfl | ⟨rfl, -⟩, -⟩
  · rcases moves_belong w op _ hmem with hop | hop | ⟨p, rfl⟩
    · exact hheld _ hop
    · exact hheld _ hop
    · exact made_of_idle_mem hmem
  · rcases moves_belong w op _ hmem with ⟨o, hop⟩ | ⟨s, o, rfl⟩
    · exact hheld o hop
    · obtain ⟨statement, -, ⟨-, hlives⟩, -⟩ := inspect_statement_iff.1 hmem
      exact (connectionLives_iff.1 hlives).1
  · obtain ⟨o, hop⟩ := moves_belong w op _ hmem
    exact hheld o hop

omit [Scheduler] in
theorem exists_judgesBy {w : Session} {c : Nat} (h : (w.connections.get? c).isSome = true) :
    ∃ k, w.JudgesBy c k := by
  obtain ⟨conn, hc⟩ := Option.isSome_iff_exists.1 h
  exact ⟨conn.classifier, conn, hc, rfl⟩

/-- A connection is broken after an operation if it was before, or if the operation breaks it. -/
theorem isBroken_step_iff (w : Session) (op : Op) (c : Nat) :
    (w.step op).1.isBroken c = true ↔
      w.isBroken c = true ∨ ∃ k, w.JudgesBy c k ∧ w.Breaks c k op := by
  -- the connection judges by the same classifier whenever the operation makes a move
  have hkept : ∀ x ∈ w.trail (w.moves op), ∀ k, w.JudgesBy c k → x.1.JudgesBy c k := by
    rintro ⟨u, m⟩ hx k hk
    obtain ⟨before, after, -, rfl⟩ := mem_trail.1 hx
    exact judgesBy_moveAll hk before
  rw [step_eq_moves, isBroken_moveAll_iff]
  refine or_congr_right ?_
  constructor
  · rintro ⟨x, hx, k, hk, hmove⟩
    have hbreaks : w.Breaks c k op := breaks_iff_exists_move.2 ⟨x, hx, hmove⟩
    obtain ⟨k', hk'⟩ := exists_judgesBy hbreaks.made
    obtain rfl : k = k' := hk.unique (hkept x hx k' hk')
    exact ⟨k, hk', hbreaks⟩
  · rintro ⟨k, hk, hbreaks⟩
    obtain ⟨x, hx, hmove⟩ := breaks_iff_exists_move.1 hbreaks
    exact ⟨x, hx, k, hkept x hx k hk, hmove⟩

/-- The connection that an operation is about. -/
def subject? (w : Session) : Op → Option Nat
  | .connection c _ | .pool _ (.idle c _) => some c
  | .statement s _ => (w.statements.get? s).map (·.connection)
  | _ => none

theorem Marks.subject {w : Session} {c : Nat} {op : Op} (h : w.Marks c op) :
    w.subject? op = some c := by
  obtain ⟨rfl | rfl | ⟨p, rfl⟩, -⟩ := h <;> rfl

theorem Reports.subject {w : Session} {c : Nat} {op : Op} {e : DriverError}
    (h : w.Reports c op e) : w.subject? op = some c := by
  cases h with
  | calling hreply => rfl
  | inspecting hreply => rfl
  | ofStatement hs howner hlives hreply => simp [subject?, hs, howner]
  | sweeping hx hopen hfailed =>
    obtain ⟨o, rfl⟩ := moves_belong w op _ (mem_of_mem_trail hx)
    rfl

/-- An operation breaks no connection but the one that it is about. -/
theorem Breaks.subject {w : Session} {c : Nat} {k : Classifier} {op : Op} (h : w.Breaks c k op) :
    w.subject? op = some c := by
  rcases h with hmarks | ⟨e, hreports, -⟩
  · exact hmarks.subject
  · exact hreports.subject

theorem isBroken_step_of_not {w : Session} {c : Nat} {op : Op} (h : ∀ k, ¬ w.Breaks c k op) :
    (w.step op).1.isBroken c = w.isBroken c := by
  rw [Bool.eq_iff_iff, isBroken_step_iff]
  refine or_iff_left ?_
  rintro ⟨k, -, hbreaks⟩
  exact h k hbreaks

end

end Session

end ConnLease
