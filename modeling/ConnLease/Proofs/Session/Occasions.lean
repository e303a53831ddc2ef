import ConnLease.Proofs.Session.Checkout

/-!
# Which operation makes a move

Moves that put a connection somewhere or take it away belong to particular operations: only a borrow
takes from the idle connections and lends, only `addIdle` adds to them, only the holder of a
connection closes it, and nobody but a borrower revives a connection unless told to.
-/

namespace ConnLease.Session

/-- Whether an operation revives a connection by itself, and not in order to lend it. -/
def Op.isRevival : Op → Bool
  | .connection _ .revive | .connection _ (.lifecycle .revive) | .pool _ (.idle _ .revive) => true
  | _ => false

/-- The operations that a move can belong to. -/
def Move.BelongsTo (op : Op) : Move → Prop
  | .takeIdle p => op = .pool p .borrow
  | .lend _ => ∃ p, op = .pool p .borrow
  | .revive _ => op.isRevival = true ∨ ∃ p, op = .pool p .borrow
  | .keepIdle p _ => ∃ share, op = .pool p (.addIdle share)
  | .evict p => op = .pool p .evict
  | .create p _ _ _ => ∃ share, op = .pool p (.connect share) ∨ op = .pool p (.connectPlain share) ∨
    op = .pool p (.addIdle share)
  | .close c => ∃ o, op = .connection c o
  | .markBroken c =>
    op = .connection c .markBroken ∨ op = .connection c (.lifecycle .markBroken) ∨
      ∃ p, op = .pool p (.idle c .markBroken)
  | .inspect c _ => (∃ o, op = .connection c o) ∨ ∃ s o, op = .statement s o
  | .dropConnection c => op = .dropConnection c
  | .register c s => op = .connection c (.register s)
  | .script _ line => ∃ c, op = .script c line
  | .closeAtDriver s => op = .statement s .close
  | _ => True

variable [Scheduler]

section Belonging

variable (w : Session)

omit [Scheduler] in
theorem newPoolMoves_belong (op : Op) (setup : PoolSetup) :
    ∀ m ∈ w.newPoolMoves setup, m.BelongsTo op := by
  unfold newPoolMoves
  repeat' split
  all_goals simp [Move.BelongsTo]

omit [Scheduler] in
theorem connectMoves_belong {op : Op} {p : Nat} (config : LeaseConfig) (share : Option Nat)
    (hop : op = .pool p (.connect share) ∨ op = .pool p (.connectPlain share)) :
    ∀ m ∈ w.connectMoves p config share, m.BelongsTo op := by
  unfold connectMoves
  cases w.sharedJournal share with
  | error what => simp
  | ok journal =>
    intro m hm
    obtain rfl := List.mem_singleton.1 hm
    exact ⟨share, hop.imp_right .inl⟩

theorem borrowMoves_belong (p : Nat) :
    ∀ m ∈ w.borrowMoves p, m.BelongsTo (.pool p .borrow) := by
  unfold borrowMoves
  dsimp only
  repeat' split
  all_goals simp [Move.BelongsTo]

theorem poolMoves_belong (p : Nat) (pool : Pool) (o : PoolOp) :
    ∀ m ∈ w.poolMoves p pool o, m.BelongsTo (.pool p o) := by
  cases o with
  | connect share => exact connectMoves_belong w pool.config share (.inl rfl)
  | connectPlain share => exact connectMoves_belong w {} share (.inr rfl)
  | addIdle share =>
    simp only [poolMoves]
    cases w.sharedJournal share <;> simp [Move.BelongsTo]
  | borrow => exact borrowMoves_belong w p
  | idle c o =>
    simp only [poolMoves]
    split
    · simp
    · cases o <;> simp [lifecycleMoves, Move.BelongsTo, Op.isRevival]
  | _ => simp [poolMoves, Move.BelongsTo]

theorem connectionMoves_belong (c : Nat) (o : ConnectionOp) :
    ∀ m ∈ w.connectionMoves c o, m.BelongsTo (.connection c o) := by
  cases o with
  | closeConcurrently threads => cases threads <;> simp [connectionMoves, Move.BelongsTo]
  | reassign p => simp only [connectionMoves]; split <;> simp [Move.BelongsTo]
  | arm threshold timer => simp only [connectionMoves]; split <;> simp [Move.BelongsTo]
  | register s => simp only [connectionMoves]; split <;> simp [Move.BelongsTo]
  | lifecycle o =>
    cases o <;> simp [connectionMoves, lifecycleMoves, Move.BelongsTo, Op.isRevival]
  | openStatement call =>
    simp only [connectionMoves]
    unfold openMoves askedMoves openedMoves
    repeat' split
    all_goals simp [Move.BelongsTo]
  | perform call =>
    simp only [connectionMoves]
    unfold performMoves
    repeat' split
    all_goals simp [Move.BelongsTo]
  | _ => simp [connectionMoves, Move.BelongsTo, Op.isRevival]

omit [Scheduler] in
/-- Only the connection through which a statement was opened is told about it. -/
theorem eq_of_mem_ownerMoves {w : Session} {statement : Statement} {n : Nat → Move} {m : Move}
    (hm : m ∈ w.ownerMoves statement n) : m = n statement.connection := by
  unfold ownerMoves ownerOf? at hm
  cases hlives : w.connectionLives statement.connection with
  | true => simpa [hlives] using hm
  | false => simp [hlives] at hm

theorem closeStatementMoves_cases {w : Session} {s : Nat} {statement : Statement} {m : Move}
    (hs : w.statements.get? s = some statement) (hm : m ∈ w.closeStatementMoves s) :
    m = .closeAtDriver s ∨ m = .note [.statementClosed statement.connection s] ∨
      m = .untrack statement.connection s ∨ ∃ e, m = .inspect statement.connection e := by
  unfold closeStatementMoves at hm
  rw [hs] at hm
  rcases List.mem_cons.1 hm with rfl | hm
  · exact .inl rfl
  · refine .inr ?_
    split at hm
    · cases hm
    · rcases List.mem_append.1 hm with hm | hm
      · exact .inr (.inl (eq_of_mem_ownerMoves hm))
      · exact .inr (.inr ⟨_, eq_of_mem_ownerMoves hm⟩)
    · rcases List.mem_append.1 hm with hm | hm
      · exact .inr (.inl (eq_of_mem_ownerMoves hm))
      · exact .inl (List.mem_singleton.1 hm)
    · exact .inr (.inl (eq_of_mem_ownerMoves hm))

/-- What an operation on a statement can do. -/
theorem statementMoves_cases {w : Session} {s : Nat} {statement : Statement} {o : StatementOp}
    {m : Move} (hs : w.statements.get? s = some statement)
    (hm : m ∈ w.statementMoves s statement o) :
    (o = .close ∧ (m = .closeAtDriver s ∨ m = .note [.statementClosed statement.connection s] ∨
        m = .untrack statement.connection s)) ∨
      ∃ e, m = .inspect statement.connection e := by
  cases o with
  | close =>
    rcases closeStatementMoves_cases hs hm with h | h | h | h
    · exact .inl ⟨rfl, .inl h⟩
    · exact .inl ⟨rfl, .inr (.inl h)⟩
    · exact .inl ⟨rfl, .inr (.inr h)⟩
    · exact .inr h
  | use failure =>
    cases failure with
    | none => cases hm
    | some e =>
      simp only [statementMoves] at hm
      split at hm
      · cases hm
      · exact .inr ⟨e, eq_of_mem_ownerMoves hm⟩
  | inspect => cases hm
  | describe => cases hm

/-- Every move belongs to the operation that makes it. -/
theorem moves_belong (op : Op) : ∀ m ∈ w.moves op, m.BelongsTo op := by
  cases op with
  | newPool setup => exact newPoolMoves_belong w _ setup
  | pool p o =>
    simp only [moves]
    split
    · simp
    · exact poolMoves_belong w p _ o
  | connection c o =>
    simp only [moves]
    split
    · simp
    · exact connectionMoves_belong w c o
  | statement s o =>
    simp only [moves]
    split
    · simp
    · rename_i statement hheld
      intro m hm
      rcases statementMoves_cases (Option.eq_some_of_filter_eq_some hheld) hm with
        ⟨rfl, rfl | rfl | rfl⟩ | ⟨e, rfl⟩
      · exact rfl
      · exact trivial
      · exact trivial
      · exact .inr ⟨s, o, rfl⟩
  | script c line =>
    simp only [moves]
    split <;> simp [Move.BelongsTo]
  | _ => simp [moves, Move.BelongsTo]

end Belonging

/-- An operation on a connection does nothing unless the connection is held. -/
theorem heldConnection?_of_mem {w : Session} {c : Nat} {o : ConnectionOp} {m : Move}
    (h : m ∈ w.moves (.connection c o)) : ∃ conn, w.heldConnection? c = some conn := by
  simp only [moves] at h
  cases hheld : w.heldConnection? c with
  | none => rw [hheld] at h; cases h
  | some conn => exact ⟨conn, rfl⟩

omit [Scheduler] in
theorem isSome_of_held {w : Session} {c : Nat} {conn : Connection}
    (h : w.heldConnection? c = some conn) : (w.connections.get? c).isSome = true := by
  rw [(Option.filter_eq_some_iff.1 h).1]
  rfl

/-! ## The ways of a connection into and out of the idle ones -/

omit [Scheduler] in
theorem connectMoves_cases (w : Session) (p : Nat) (config : LeaseConfig) (share : Option Nat) :
    (w.connectMoves p config share = [] ∧ ∃ what, (w.connect p config share).2 = .missing what) ∨
      ∃ journal, w.connectMoves p config share = [.create p config journal true] ∧
        (w.connect p config share).2 = .ok (.connected w.connections.next true) := by
  unfold connectMoves connect
  cases w.sharedJournal share with
  | error what => exact .inl ⟨rfl, what, rfl⟩
  | ok journal => exact .inr ⟨journal, rfl, rfl⟩

/-- What `connect` does if it does anything. -/
theorem connect_cases (w : Session) (p : Nat) (share : Option Nat) :
    (w.moves (.pool p (.connect share)) = [] ∧
        ∃ what, (w.step (.pool p (.connect share))).2 = .missing what) ∨
      ∃ pool journal, w.heldPool? p = some pool ∧
        w.moves (.pool p (.connect share)) = [.create p pool.config journal true] ∧
        (w.step (.pool p (.connect share))).2 = .ok (.connected w.connections.next true) := by
  simp only [moves, step]
  cases w.heldPool? p with
  | none => exact .inl ⟨rfl, _, rfl⟩
  | some pool =>
    rcases connectMoves_cases w p pool.config share with hnone | ⟨journal, hmade⟩
    · exact .inl hnone
    · exact .inr ⟨pool, journal, rfl, hmade⟩

/-- What `connectPlain` does if it does anything. -/
theorem connectPlain_cases (w : Session) (p : Nat) (share : Option Nat) :
    (w.moves (.pool p (.connectPlain share)) = [] ∧
        ∃ what, (w.step (.pool p (.connectPlain share))).2 = .missing what) ∨
      ∃ journal, w.moves (.pool p (.connectPlain share)) = [.create p {} journal true] ∧
        (w.step (.pool p (.connectPlain share))).2 =
          .ok (.connected w.connections.next true) := by
  simp only [moves, step]
  cases w.heldPool? p with
  | none => exact .inl ⟨rfl, _, rfl⟩
  | some pool => exact connectMoves_cases w p {} share

/-- What `addIdle` does if it does anything. -/
theorem addIdle_cases (w : Session) (p : Nat) (share : Option Nat) :
    (w.moves (.pool p (.addIdle share)) = [] ∧
        ∃ what, (w.step (.pool p (.addIdle share))).2 = .missing what) ∨
      ∃ pool journal, w.heldPool? p = some pool ∧
        w.moves (.pool p (.addIdle share)) =
          [.create p pool.config journal false, .keepIdle p w.connections.next] ∧
        (w.step (.pool p (.addIdle share))).2 = .ok (.idled w.connections.next) := by
  simp only [moves, step]
  cases w.heldPool? p with
  | none => exact .inl ⟨rfl, _, rfl⟩
  | some pool =>
    simp only [poolMoves, performPool]
    cases w.sharedJournal share with
    | error what => exact .inl ⟨rfl, what, rfl⟩
    | ok journal => exact .inr ⟨pool, journal, rfl, rfl, rfl⟩

/-- Only connections that an operation has just made are put among the idle ones by hand. -/
theorem keepIdle_fresh {w : Session} {op : Op} {p c : Nat} (h : .keepIdle p c ∈ w.moves op) :
    c = w.connections.next := by
  obtain ⟨share, rfl⟩ := moves_belong w op _ h
  rcases addIdle_cases w p share with ⟨hmoves, -⟩ | ⟨pool, journal, -, hmoves, -⟩
  · rw [hmoves] at h
    cases h
  · rw [hmoves] at h
    simpa using h

/-- What a borrow does if it does anything. -/
theorem step_borrow_cases (w : Session) (p : Nat) :
    ((w.step (.pool p .borrow)).1 = w ∧ ∀ loan, ¬ w.Lends p loan) ∨ ∃ pool c,
      w.pools.get? p = some pool ∧ pool.idle.getLast? = some c ∧
        (w.step (.pool p .borrow)).1 = (w.borrow p).1 := by
  cases hheld : w.heldPool? p with
  | none =>
    left
    refine ⟨by simp [step, hheld], ?_⟩
    intro loan hlends
    obtain ⟨pool, hlent⟩ := hlends.lent
    rw [hlent.held] at hheld
    cases hheld
  | some pool =>
    have hp : w.pools.get? p = some pool := Option.eq_some_of_filter_eq_some hheld
    have hstep : (w.step (.pool p .borrow)).1 = (w.borrow p).1 := by
      rw [step_eq_moves, borrow_eq_moves]
      simp only [moves, hheld]
      rfl
    cases hlast : pool.idle.getLast? with
    | none =>
      left
      refine ⟨by rw [hstep, borrow_of_empty hp (List.getLast?_eq_none_iff.1 hlast)], ?_⟩
      intro loan hlends
      obtain ⟨pool', hlent⟩ := hlends.lent
      obtain rfl : pool = pool' := Option.some.inj (hp.symm.trans hlent.found)
      rw [hlent.last] at hlast
      cases hlast
    | some c => exact .inr ⟨pool, c, hp, hlast, hstep⟩

/-! ## Opening a statement -/

/-- What a call that opens a statement does if it does anything. -/
theorem openStatement_cases (w : Session) (c : Nat) (call : Driver.OpenCall) :
    w.moves (.connection c (.openStatement call)) = [] ∨ ∃ conn,
      w.connections.get? c = some conn ∧ conn.held = true ∧ conn.closed = false ∧
        w.moves (.connection c (.openStatement call)) =
          .callOpen c call :: (askedMoves c conn.closesOnOpen ++ w.openedMoves c conn call) := by
  cases hheld : w.heldConnection? c with
  | none => exact .inl (by simp only [moves, hheld])
  | some conn =>
    obtain ⟨hc, hh⟩ := Option.filter_eq_some_iff.1 hheld
    have hmoves : w.moves (.connection c (.openStatement call)) = w.openMoves c call := by
      simp only [moves, hheld]
      rfl
    rw [hmoves]
    unfold openMoves
    rw [hc]
    cases ho : conn.closed with
    | true => exact .inl (by dsimp only; rw [if_pos ho])
    | false => exact .inr ⟨conn, rfl, hh, ho, by dsimp only; rw [if_neg (by simp [ho])]⟩

end ConnLease.Session
