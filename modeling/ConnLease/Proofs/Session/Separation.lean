import ConnLease.Proofs.Session.Errors
import ConnLease.Proofs.Session.Reports
import ConnLease.Proofs.Session.Tracking

/-!
# Connections do not disturb each other

An operation on a connection, or on a statement opened through it, leaves every other connection as
it is, whatever the two have in common: a pool, a timer, a journal with its script, or statements of
one that the other tracks. A statement of another connection is closed in one way only, by the sweep
of a close when the connection that is closed tracks it.

Every move of such an operation stays with the connection (`moves_stayWith`), and for each part of a
session one lemma says what moves that stay with a connection leave alone. Main statement:
`keeps_apart`.
-/

namespace ConnLease.Session

/-- The connection that an operation goes to, by itself, through a pool, through its driver or
through a statement opened through it. -/
def addressee? (w : Session) : Op → Option Nat
  | .dropConnection c | .script c _ | .readJournal c => some c
  | .dropStatement s => (w.statements.get? s).map (·.connection)
  | op => w.subject? op

/-- A move touches no connection but `c`, and no driver's statement but those of `c`. -/
def StaysWith (w : Session) (c : Nat) : Move → Prop
  | .closeAtDriver s => w.OpenedThrough c s
  | .note _ | .restoreLog _ | .script _ _ | .dropStatement _ => True
  | m => m.connection? = some c

/-! ## The moves of an operation -/

section Moves

variable (w : Session)

theorem lifecycleMoves_stayWith (c : Nat) (o : LifecycleOp) :
    ∀ m ∈ lifecycleMoves c o, w.StaysWith c m := by
  cases o <;> simp [lifecycleMoves, StaysWith, Move.connection?]

theorem connectionMoves_stayWith [Scheduler] (u : Session) (c : Nat) (o : ConnectionOp) :
    ∀ m ∈ u.connectionMoves c o, w.StaysWith c m := by
  cases o with
  | closeConcurrently threads =>
    cases threads <;> simp [connectionMoves, StaysWith, Move.connection?]
  | reassign p =>
    simp only [connectionMoves]
    split <;> simp [StaysWith, Move.connection?]
  | arm threshold timer =>
    simp only [connectionMoves]
    split <;> simp [StaysWith, Move.connection?]
  | register s =>
    simp only [connectionMoves]
    split <;> simp [StaysWith, Move.connection?]
  | lifecycle o => exact lifecycleMoves_stayWith w c o
  | openStatement call =>
    simp only [connectionMoves]
    unfold openMoves askedMoves openedMoves
    repeat' split
    all_goals simp [StaysWith, Move.connection?]
  | perform call =>
    simp only [connectionMoves]
    unfold performMoves
    repeat' split
    all_goals simp [StaysWith, Move.connection?]
  | _ => simp [connectionMoves, StaysWith, Move.connection?]

theorem statementMoves_stayWith [Scheduler] {s : Nat} {statement : Statement}
    (hs : w.statements.get? s = some statement) (o : StatementOp) :
    ∀ m ∈ w.statementMoves s statement o, w.StaysWith statement.connection m := by
  intro m hm
  rcases statementMoves_cases hs hm with ⟨-, rfl | rfl | rfl⟩ | ⟨e, rfl⟩
  · exact ⟨statement, hs, rfl⟩
  · exact trivial
  · exact rfl
  · exact rfl

theorem moves_stayWith [Scheduler] {op : Op} {c : Nat} (h : w.addressee? op = some c) :
    ∀ m ∈ w.moves op, w.StaysWith c m := by
  cases op with
  | connection d o =>
    obtain rfl : d = c := Option.some.inj h
    simp only [moves]
    split
    · simp
    · exact connectionMoves_stayWith w w d o
  | statement s o =>
    obtain ⟨statement, hs, rfl⟩ := Option.map_eq_some_iff.1 h
    simp only [moves]
    split
    · simp
    · rename_i held hheld
      obtain rfl : statement = held := by
        rw [Option.eq_some_of_filter_eq_some hheld] at hs
        exact (Option.some.inj hs).symm
      exact statementMoves_stayWith w hs o
  | pool p o =>
    cases o with
    | idle d o =>
      obtain rfl : d = c := Option.some.inj h
      simp only [moves]
      split
      · simp
      · simp only [poolMoves]
        split
        · simp
        · exact lifecycleMoves_stayWith w d o
    | _ => cases h
  | dropConnection d =>
    obtain rfl : d = c := Option.some.inj h
    simp [moves, StaysWith, Move.connection?]
  | dropStatement s => simp [moves, StaysWith]
  | readJournal d => simp [moves]
  | script d line =>
    simp only [moves]
    split <;> simp [StaysWith]
  | _ => cases h

end Moves

/-! ## What stays as it is -/

section Kept

variable {w u : Session} {c d : Nat} {m : Move}

theorem StaysWith.connection? (h : w.StaysWith c m) (hd : d ≠ c) : m.connection? ≠ some d := by
  intro hm
  cases m with
  | note _ | restoreLog _ | script _ _ | dropStatement _ | closeAtDriver _ => cases hm
  | _ => exact hd (Option.some.inj (hm.symm.trans h))

theorem StaysWith.created? (h : w.StaysWith c m) (u : Session) : u.created? m = none := by
  cases m with
  | create p config journal held => cases h
  | _ => rfl

theorem get?_connections_of_staysWith [Scheduler] (h : w.StaysWith c m) (hd : d ≠ c) :
    (u.move m).connections.get? d = u.connections.get? d := by
  rw [get?_connections_move, if_neg (h.connection? hd), h.created?]
  split
  · rename_i hnew
    rw [hnew, Roster.get?_next]
  · rfl

/-- Two connections hold no check in common, so the check of the one survives what is done to the
other. -/
theorem leakPhase_of_staysWith [Scheduler] (hu : u.Wired) (h : w.StaysWith c m) (hd : d ≠ c) :
    (u.move m).leakPhase d = u.leakPhase d := by
  unfold leakPhase
  rw [get?_connections_of_staysWith h hd, watch_move]
  cases hconn : u.connections.get? d with
  | none => rfl
  | some conn =>
    dsimp only
    cases hcheck : conn.detector.check with
    | none => simp [Leak.Watch.phase, hcheck]
    | some n =>
      obtain ⟨check, hn, hown⟩ := hu.own d conn n hconn hcheck
      have hfires : u.watch.fires (u.act m) check = false := by
        unfold Leak.Watch.fires
        split
        · rename_i millis hact
          rw [act_eq_operate hact] at h
          cases h
        · rfl
      have hkept : (u.act m).givesUp n = false := by
        unfold Leak.Act.givesUp
        split
        · rename_i detector hact
          obtain ⟨e, other, he, rfl, hm⟩ := act_eq_giveUp hact
          have haddressed : m.connection? = some e := by
            rcases hm with rfl | rfl <;> rfl
          refine beq_false_of_ne fun hheld => ?_
          obtain ⟨check', hn', hown'⟩ := hu.own e other n he hheld
          obtain rfl : check = check' := Option.some.inj (hn.symm.trans hn')
          exact h.connection? hd (haddressed.trans (congrArg some (hown'.symm.trans hown)))
        · rfl
      rw [Leak.Watch.phase_eq hcheck (Leak.Watch.get?_checks_act_of_some hn _),
        Leak.Watch.phase_eq hcheck hn]
      simp [Leak.Watch.statusAfter, hfires, hkept]

/-- Without a close, only statements of the connection are closed. -/
theorem closesStatement_of_staysWith {s : Nat} (h : w.StaysWith c m) (hclose : m ≠ .close c)
    (hs : w.OpenedThrough d s) (hd : d ≠ c) : u.closesStatement m s = false := by
  cases m with
  | close e =>
    obtain rfl : e = c := Option.some.inj h
    exact absurd rfl hclose
  | closeAtDriver t =>
    have hne : t ≠ s := by
      rintro rfl
      exact hd (hs.unique h)
    simpa [closesStatement] using hne
  | _ => rfl

end Kept

/-! ## Whole operations -/

section

variable [Scheduler]

/-- The close of the connection `c` within an operation comes to the statement `s`, which the
connection tracks. -/
def Sweeps (w : Session) (op : Op) (c s : Nat) : Prop :=
  s ∈ w.openIds c ∧ ∃ u, (u, .close c) ∈ w.trail (w.moves op) ∧ u.isClosed c = false ∧
    s ∈ u.reached (u.closeOrder c)

/-- An operation disturbs no connection but `c`. -/
structure KeepsApart (w : Session) (op : Op) (c : Nat) : Prop where
  /-- Another connection keeps its whole record: closed and broken flags, the statements that it
  tracks, its owner, its detector. -/
  records : ∀ d, d ≠ c → (w.step op).1.connections.get? d = w.connections.get? d
  leaks : ∀ d, d ≠ c → (w.step op).1.leakPhase d = w.leakPhase d
  /-- A statement of another connection is closed afterwards only if it was before, or was tracked
  and swept. -/
  statements : ∀ s statement, w.statements.get? s = some statement → statement.connection ≠ c →
    ∃ statement', (w.step op).1.statements.get? s = some statement' ∧
      statement'.connection = statement.connection ∧
        (statement'.closed = true ↔ statement.closed = true ∨ w.Sweeps op c s)

section Apart

variable {w : Session} {op : Op} {c d : Nat}

theorem get?_connections_step (h : w.addressee? op = some c) (hd : d ≠ c) :
    (w.step op).1.connections.get? d = w.connections.get? d := by
  rw [step_eq_moves]
  refine (moveAll_induction (P := fun u => u.connections.get? d = w.connections.get? d) ?_ rfl).1
  intro x hx hsame
  rw [get?_connections_of_staysWith (moves_stayWith w h _ (mem_of_mem_trail hx)) hd, hsame]

theorem leakPhase_step (hw : w.Wired) (h : w.addressee? op = some c) (hd : d ≠ c) :
    (w.step op).1.leakPhase d = w.leakPhase d := by
  rw [step_eq_moves]
  refine (moveAll_induction (P := fun u => u.Wired ∧ u.leakPhase d = w.leakPhase d) ?_
    ⟨hw, rfl⟩).1.2
  rintro x hx ⟨hu, hsame⟩
  have hstays := moves_stayWith w h _ (mem_of_mem_trail hx)
  exact ⟨wired_move hu _, (leakPhase_of_staysWith hu hstays hd).trans hsame⟩

/-- An operation that does not close the connection leaves the statements of others as they are. -/
theorem closed_step_of_no_close (h : w.addressee? op = some c) (hclose : .close c ∉ w.moves op)
    {s : Nat} (hs : w.OpenedThrough d s) (hd : d ≠ c) :
    ((w.step op).1.statements.get? s).map (·.closed) = (w.statements.get? s).map (·.closed) := by
  rw [step_eq_moves]
  refine (moveAll_induction (P := fun u => (u.statements.get? s).map (·.closed) =
    (w.statements.get? s).map (·.closed)) ?_ rfl).1
  rintro ⟨u, m⟩ hx hsame
  have hm : m ∈ w.moves op := mem_of_mem_trail hx
  have hkept : u.closesStatement m s = false :=
    closesStatement_of_staysWith (moves_stayWith w h m hm) (fun e => hclose (e ▸ hm)) hs hd
  obtain ⟨statement, hget, -⟩ := hs
  rw [hget, Option.map_some] at hsame ⊢
  obtain ⟨now, hnow, hclosed⟩ := Option.map_eq_some_iff.1 hsame
  have hold : s ≠ u.statements.next := Roster.ne_next_of_get? hnow
  rw [get?_statements_move, if_neg hold, hnow, Option.map_some, Option.map_some,
    changedStatement_closed, hkept, Bool.or_false, hclosed]

theorem openedThrough_step {s : Nat} (hs : w.OpenedThrough d s) (op : Op) :
    (w.step op).1.OpenedThrough d s := by
  rw [step_eq_moves]
  exact (moveAll_induction (P := (·.OpenedThrough d s))
    (fun x _ hx => openedThrough_move hx x.2) hs).1

/-- A statement of another connection is closed by an operation only in a sweep. -/
theorem closed_step_iff (h : w.addressee? op = some c) {s : Nat} {statement : Statement}
    (hs : w.statements.get? s = some statement) (hd : statement.connection ≠ c) :
    ((w.step op).1.statements.get? s).map (·.closed) = some true ↔
      statement.closed = true ∨ w.Sweeps op c s := by
  -- a close within the operation decides; there may be none
  have hswept : ∀ u, (u, .close c) ∈ w.trail (w.moves op) →
      (((w.step op).1.statements.get? s).map (·.closed) = some true ↔
        statement.closed = true ∨ u.isClosed c = false ∧ s ∈ u.reached (u.closeOrder c)) := by
    intro u hu
    rw [closed_after_close hu ((after_close hu).1 ▸ hs)]
    simp [closesStatement]
  constructor
  · intro hclosed
    by_cases hclose : .close c ∈ w.moves op
    · obtain ⟨u, hu⟩ := exists_trail_of_mem hclose
      refine ((hswept u hu).1 hclosed).imp_right ?_
      rintro ⟨hopen, hreached⟩
      refine ⟨?_, u, hu, hopen, hreached⟩
      rw [← (after_close hu).2.1]
      exact mem_openIds_of_reached hreached
    · rw [closed_step_of_no_close h hclose ⟨statement, hs, rfl⟩ hd, hs] at hclosed
      exact .inl (Option.some.inj hclosed)
  · rintro (hclosed | ⟨-, u, hu, hopen, hreached⟩)
    · rw [step_eq_moves]
      refine (moveAll_induction (fun x _ hx => ended_move hx x.2) ?_).1
      unfold Ended
      rw [hs, Option.map_some, hclosed]
    · exact (hswept u hu).2 (.inr ⟨hopen, hreached⟩)

end Apart

/-- Whatever a run has led to, an operation that goes to one connection disturbs no other. -/
theorem keeps_apart (ops : List Op) {op : Op} {c : Nat}
    (addressed : (run {} ops).addressee? op = some c) : KeepsApart (run {} ops) op c where
  records := fun d hd => get?_connections_step addressed hd
  leaks := fun d hd => leakPhase_step (wired_run ops).1 addressed hd
  statements := by
    intro s statement hs hd
    obtain ⟨statement', hs', hown⟩ := openedThrough_step ⟨statement, hs, rfl⟩ op
    refine ⟨statement', hs', hown, ?_⟩
    rw [← closed_step_iff addressed hs hd, hs', Option.map_some, Option.some_inj]

end

section

attribute [local instance] Scheduler.exact

/-- Connections 1 and 2 share a pool, a timer and a journal, both are armed, and connection 1 tracks
the statement of connection 2, whose close is scripted to fail fatally. -/
def entangled : List Op :=
  [.timer (.newTimer .log), .newPool .recycling, .pool 0 (.connect none),
    .pool 0 (.connect (some 1)), .connection 1 (.arm (.ofMillis 1000) 0),
    .connection 2 (.arm (.ofMillis 1000) 0), .connection 2 (.openStatement (.prepare "A" {})),
    .connection 1 (.register 1),
    .script 2 (.failClose "A" { message := "gone", sqlState := some ⟨"08006"⟩ })]

/-- The statement is swept by the other connection, which breaks. -/
theorem keeps_apart_entangled :
    (run {} entangled).addressee? (.connection 1 .close) = some 1 ∧
      KeepsApart (run {} entangled) (.connection 1 .close) 1 ∧
      (run {} (entangled ++ [.connection 1 .close])).isBroken 1 = true ∧
      (run {} (entangled ++ [.connection 1 .close])).isOpenStatement 1 = false :=
  ⟨rfl, keeps_apart entangled rfl, by decide, by decide⟩

end

end ConnLease.Session
