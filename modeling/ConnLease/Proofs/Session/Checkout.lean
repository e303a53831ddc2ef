import ConnLease.Proofs.Session.Effects

/-!
# Borrowing from a pool

A borrow takes the last of the idle connections, opens it and, where the pool watches for leaks,
arms it. It fails exactly when the pool has an idle connection and its timer has been shut down, and
by then the connection has been opened and has left the idle ones: it is lost to the pool.
-/

namespace ConnLease.Session

/-! ## What pools refer to -/

/-- Idle connections and timers of pools exist. -/
structure Furnished (w : Session) : Prop where
  idle : ∀ p pool c, w.pools.get? p = some pool → c ∈ pool.idle →
    (w.connections.get? c).isSome = true
  timer : ∀ p pool t, w.pools.get? p = some pool → pool.timer = some t →
    (w.watch.timers.get? t).isSome = true

/-- Connections keep their numbers. -/
theorem isSome_connections_move [Scheduler] {w : Session} {c : Nat}
    (h : (w.connections.get? c).isSome = true) (m : Move) :
    ((w.move m).connections.get? c).isSome = true := by
  obtain ⟨conn, hc⟩ := Option.isSome_iff_exists.1 h
  obtain ⟨conn', hc', -⟩ := connection_move (P := fun _ => True) hc m trivial fun _ => trivial
  rw [hc']
  rfl

theorem changedPool_timer (w : Session) (m : Move) (pool : Pool) :
    (w.changedPool m pool).timer = pool.timer := by
  cases m with
  | close c =>
    simp only [changedPool]
    split
    · split
      · exact (Pool.receive_fields pool _).2
      · rfl
    · rfl
  | _ => rfl

theorem furnished_move [Scheduler] : Preserved Furnished := by
  intro w op m hw hm
  constructor
  · intro p pool' c hp' hc
    rcases idleIn_move_cases ⟨pool', hp', hc⟩ with ⟨pool, hp, hc⟩ | rfl | ⟨-, conn, hfound, -⟩
    · exact isSome_connections_move (hw.idle p pool c hp hc) m
    · exact isSome_connections_move hm _
    · rw [hfound]
      rfl
  · intro p pool' t hp' ht
    rw [get?_pools_move] at hp'
    split at hp'
    · obtain ⟨pool, hp, rfl⟩ := Option.map_eq_some_iff.1 hp'
      rw [changedPool_timer] at ht
      exact isSome_timers_move (hw.timer p pool t hp ht) m
    · split at hp'
      · cases m with
        | addPool config timer recycles =>
          cases hp'
          exact isSome_timers_move (hm t ht) _
        | _ => cases hp'
      · exact isSome_timers_move (hw.timer p pool' t hp' ht) m

theorem Reachable.furnished [Scheduler] {w : Session} (hw : w.Reachable) : w.Furnished := by
  obtain ⟨ops, rfl⟩ := hw
  refine furnished_move.run ?_ ops
  constructor <;> simp

/-! ## The whole borrow -/

/-- Whether a borrow from a pool has a timer to arm the connection on, and that was shut down. -/
def TimerDown (w : Session) (pool : Pool) : Prop :=
  ∃ threshold timer t, pool.config.leakThreshold = some threshold ∧ pool.timer = some timer ∧
    w.watch.timers.get? timer = some t ∧ t.shutDown = true

section

variable [Scheduler]

/-- The session in which the idle connection `c` of the pool `p` has been taken and opened. -/
def takenOut (w : Session) (p c : Nat) : Session :=
  w.moveAll [.takeIdle p, .revive c, .touch c]

theorem takenOut_fields (w : Session) (p c : Nat) :
    (w.takenOut p c).pools =
        w.pools.modify p (fun pool => { pool with idle := pool.idle.dropLast }) ∧
      (w.takenOut p c).connections = w.connections.modify c fun conn =>
        { conn with detector := {}, closed := false, lastAccess := none } := by
  constructor
  · simp [takenOut, moveAll, move]
  · simp only [takenOut, moveAll, List.foldl_cons, List.foldl_nil, move, touch_fields,
      revive_connections, onPool_fields, Roster.modify_modify]

theorem get?_takenOut {w : Session} {c : Nat} {conn : Connection}
    (hc : w.connections.get? c = some conn) (p : Nat) :
    (w.takenOut p c).connections.get? c =
      some { conn with detector := {}, closed := false, lastAccess := none } := by
  rw [(takenOut_fields w p c).2, Roster.get?_modify_self, hc]
  rfl

theorem takenOut_watch {w : Session} {c : Nat} {conn : Connection}
    (hc : w.connections.get? c = some conn) (p : Nat) :
    (w.takenOut p c).watch = (w.watch.cancel conn.detector).1 := revive_watch hc

theorem takenOut_isRunning {w : Session} {c : Nat} {conn : Connection}
    (hc : w.connections.get? c = some conn) (p timer : Nat) :
    (w.takenOut p c).watch.isRunning timer = w.watch.isRunning timer := by
  unfold Leak.Watch.isRunning
  rw [takenOut_watch hc, (Leak.Watch.cancel_fields _ _).2.1]

/-- Arming the connection that was taken out succeeds exactly when the timer runs. -/
theorem arm_takenOut {w : Session} {c : Nat} {conn : Connection}
    (hc : w.connections.get? c = some conn) (p : Nat) (threshold : Duration) (timer : Nat) :
    if w.watch.isRunning timer then
      ∃ armed, (w.takenOut p c).arm c threshold timer = .ok armed
    else (w.takenOut p c).arm c threshold timer = .error .timerShutDown := by
  have harm := Leak.Watch.arm_unarmed (w.takenOut p c).watch c threshold timer
  rw [takenOut_isRunning hc] at harm
  unfold arm
  rw [get?_takenOut hc]
  dsimp only
  rw [harm, if_neg Bool.false_ne_true]
  cases w.watch.isRunning timer with
  | true => exact ⟨_, rfl⟩
  | false => rfl

omit [Scheduler] in
theorem not_isRunning_iff {w : Session} (hw : w.Furnished) {p : Nat} {pool : Pool}
    (hp : w.pools.get? p = some pool) {timer : Nat} (htimer : pool.timer = some timer) :
    w.watch.isRunning timer = false ↔
      ∃ t, w.watch.timers.get? timer = some t ∧ t.shutDown = true := by
  have hsome := hw.timer p pool timer hp htimer
  unfold Leak.Watch.isRunning
  cases ht : w.watch.timers.get? timer with
  | none => rw [ht] at hsome; cases hsome
  | some t => simp

theorem borrow_of_empty {w : Session} {p : Nat} {pool : Pool} (hp : w.pools.get? p = some pool)
    (hidle : pool.idle = []) : w.borrow p = (w, .ok none) := by
  unfold borrow
  rw [hp]
  simp [hidle]

/-- A borrow from a pool that has an idle connection. -/
theorem borrow_of_idle {w : Session} {p c : Nat} {pool : Pool} (hp : w.pools.get? p = some pool)
    (hlast : pool.idle.getLast? = some c) :
    w.borrow p =
      match pool.config.leakThreshold, pool.timer with
      | some threshold, some timer =>
        match (w.takenOut p c).arm c threshold timer with
        | .ok armed => (armed.lend c, .ok (some c))
        | .error e => (w.takenOut p c, .err e)
      | _, _ => ((w.takenOut p c).lend c, .ok (some c)) := by
  unfold borrow
  rw [hp]
  dsimp only
  rw [hlast]
  rfl

/-- Whatever comes of it, a borrow takes the last idle connection out of its pool and leaves all
other connections alone. -/
theorem borrow_fields {w : Session} {p c : Nat} {pool : Pool} (hp : w.pools.get? p = some pool)
    (hlast : pool.idle.getLast? = some c) :
    (w.borrow p).1.pools =
        w.pools.modify p (fun pool => { pool with idle := pool.idle.dropLast }) ∧
      ∀ d, d ≠ c → (w.borrow p).1.connections.get? d = w.connections.get? d := by
  have htaken := takenOut_fields w p c
  have hothers : ∀ d, d ≠ c → (w.takenOut p c).connections.get? d = w.connections.get? d := by
    intro d hd
    rw [htaken.2, Roster.get?_modify_of_ne _ _ hd]
  have hlend : ∀ u : Session, u.pools = (w.takenOut p c).pools →
      (∀ d, d ≠ c → u.connections.get? d = (w.takenOut p c).connections.get? d) →
      (u.lend c).pools =
          w.pools.modify p (fun pool => { pool with idle := pool.idle.dropLast }) ∧
        ∀ d, d ≠ c → (u.lend c).connections.get? d = w.connections.get? d := by
    intro u hpools hsame
    have hfields : (u.lend c).pools = u.pools ∧ (u.lend c).connections =
        u.connections.modify c fun conn => { conn with held := true } := ⟨rfl, rfl⟩
    refine ⟨by rw [hfields.1, hpools, htaken.1], ?_⟩
    intro d hd
    rw [hfields.2, Roster.get?_modify_of_ne _ _ hd, hsame d hd, hothers d hd]
  rw [borrow_of_idle hp hlast]
  split
  · rename_i threshold timer _ _
    split
    · rename_i armed harm
      obtain ⟨conn, watch, detector, -, -, -, rfl⟩ := arm_eq_ok_iff.1 harm
      refine hlend _ rfl ?_
      intro d hd
      exact Roster.get?_modify_of_ne _ _ hd
    · exact ⟨htaken.1, hothers⟩
  · exact hlend _ rfl fun _ _ => rfl

/-- The call `borrow` on the pool `p` answers with `loan`. -/
def Lends (w : Session) (p : Nat) (loan : Loan) : Prop :=
  (w.step (.pool p .borrow)).2 = .ok (.loan (some loan))

/-- What stands behind a loan: the last idle connection of a pool that is held. -/
structure Lent (w : Session) (p : Nat) (loan : Loan) (pool : Pool) : Prop where
  found : w.pools.get? p = some pool
  held : w.heldPool? p = some pool
  last : pool.idle.getLast? = some loan.connection
  outcome : (w.borrow p).2 = .ok (some loan.connection)
  view : ∃ conn, (w.borrow p).1.connections.get? loan.connection = some conn ∧
    loan.view = (w.borrow p).1.view conn

theorem last_of_borrow {w : Session} {p c : Nat} {pool : Pool} (hp : w.pools.get? p = some pool)
    (h : (w.borrow p).2 = .ok (some c)) : pool.idle.getLast? = some c := by
  cases hlast : pool.idle.getLast? with
  | none =>
    rw [borrow_of_empty hp (List.getLast?_eq_none_iff.1 hlast)] at h
    cases h
  | some d =>
    rw [borrow_of_idle hp hlast] at h
    split at h
    · split at h
      · cases h; rfl
      · cases h
    · cases h; rfl

theorem Lends.lent {w : Session} {p : Nat} {loan : Loan} (h : w.Lends p loan) :
    ∃ pool, Lent w p loan pool := by
  unfold Lends at h
  cases hheld : w.heldPool? p with
  | none =>
    rw [step, hheld] at h
    cases h
  | some pool =>
    have hp : w.pools.get? p = some pool := Option.eq_some_of_filter_eq_some hheld
    have hstep : w.step (.pool p .borrow) = w.performPool p pool .borrow := by
      rw [step, hheld]
    rw [hstep, performPool] at h
    cases hborrow : w.borrow p with
    | mk after outcome =>
      rw [hborrow] at h
      cases outcome with
      | err e => cases h
      | panicked label => cases h
      | ok lent =>
        cases lent with
        | none => cases h
        | some c =>
          cases hc : after.connections.get? c with
          | none => simp [hc, Reply.ok] at h
          | some conn =>
            have hloan : loan.connection = c ∧ loan.view = after.view conn := by
              simp only [hc, Option.map_some, Reply.ok, Reply.outcome.injEq, Outcome.ok.injEq,
                Value.loan.injEq, Option.some.injEq] at h
              rw [← h]
              exact ⟨rfl, rfl⟩
            obtain ⟨rfl, hview⟩ := hloan
            have hlast := last_of_borrow hp (by rw [hborrow])
            refine ⟨pool, hp, hheld, hlast, by rw [hborrow], conn, ?_, ?_⟩
            · rw [hborrow]
              exact hc
            · rw [hborrow]
              exact hview

/-- The moves of a borrow that lends the connection `c`. -/
theorem borrowMoves_of_lent {w : Session} {p c : Nat} {pool : Pool}
    (hp : w.pools.get? p = some pool) (h : (w.borrow p).2 = .ok (some c)) :
    ∃ armed, w.borrowMoves p = [.takeIdle p, .revive c, .touch c] ++ armed ++ [.lend c] ∧
      ∀ threshold timer, pool.config.leakThreshold = some threshold → pool.timer = some timer →
        armed = [.arm c threshold timer] ∧
          ∃ after, (w.takenOut p c).arm c threshold timer = .ok after := by
  have hlast := last_of_borrow hp h
  rw [borrow_of_idle hp hlast] at h
  unfold borrowMoves
  rw [hp]
  dsimp only
  rw [hlast]
  dsimp only
  cases hthreshold : pool.config.leakThreshold with
  | none => exact ⟨[], rfl, fun _ _ e _ => by cases e⟩
  | some threshold =>
    cases htimer : pool.timer with
    | none => exact ⟨[], rfl, fun _ _ _ e => by cases e⟩
    | some timer =>
      rw [hthreshold, htimer] at h
      dsimp only at h
      cases harm : (w.takenOut p c).arm c threshold timer with
      | error e => rw [harm] at h; cases h
      | ok after =>
        refine ⟨[.arm c threshold timer], ?_, ?_⟩
        · have hready : (w.moveAll [.takeIdle p, .revive c, .touch c]).arm c threshold timer =
              .ok after := harm
          dsimp only
          rw [hready]
          rfl
        · rintro threshold' timer' ⟨⟩ ⟨⟩
          exact ⟨rfl, after, harm⟩

/-- What a failed borrow from the pool `p` leaves behind: `c` was its last idle connection. -/
structure LostCheckout (w : Session) (p : Nat) (pool : Pool) (c : Nat) : Prop where
  outcome : (w.borrow p).2 = .err .timerShutDown
  taken : (w.borrow p).1.pools =
    w.pools.modify p fun pool => { pool with idle := pool.idle.dropLast }
  opened : ((w.borrow p).1.connections.get? c).map (·.closed) = some false
  others : ∀ d, d ≠ c → (w.borrow p).1.connections.get? d = w.connections.get? d

theorem lostCheckout {w : Session} (hw : w.Furnished) {p c : Nat} {pool : Pool}
    (hp : w.pools.get? p = some pool) (hlast : pool.idle.getLast? = some c)
    (hdown : w.TimerDown pool) : LostCheckout w p pool c := by
  obtain ⟨threshold, timer, t, hthreshold, htimer, ht, hshut⟩ := hdown
  have hsome := hw.idle p pool c hp (List.mem_of_getLast? hlast)
  obtain ⟨conn, hc⟩ := Option.isSome_iff_exists.1 hsome
  have hrunning : w.watch.isRunning timer = false :=
    (not_isRunning_iff hw hp htimer).2 ⟨t, ht, hshut⟩
  have harm := arm_takenOut hc p threshold timer
  rw [hrunning, if_neg Bool.false_ne_true] at harm
  have hborrow : w.borrow p = (w.takenOut p c, .err .timerShutDown) := by
    rw [borrow_of_idle hp hlast, hthreshold, htimer]
    dsimp only
    rw [harm]
  obtain ⟨htaken, hothers⟩ := borrow_fields hp hlast
  refine ⟨by rw [hborrow], htaken, ?_, hothers⟩
  rw [hborrow, (takenOut_fields w p c).2, Roster.get?_modify_self, hc]
  rfl

theorem borrow_ok_of_not_timerDown {w : Session} (hw : w.Furnished) {p c : Nat} {pool : Pool}
    (hp : w.pools.get? p = some pool) (hlast : pool.idle.getLast? = some c)
    (hup : ¬ w.TimerDown pool) : (w.borrow p).2 = .ok (some c) := by
  have hsome := hw.idle p pool c hp (List.mem_of_getLast? hlast)
  obtain ⟨conn, hc⟩ := Option.isSome_iff_exists.1 hsome
  rw [borrow_of_idle hp hlast]
  cases hthreshold : pool.config.leakThreshold with
  | none => rfl
  | some threshold =>
    cases htimer : pool.timer with
    | none => rfl
    | some timer =>
      have harm := arm_takenOut hc p threshold timer
      cases hrunning : w.watch.isRunning timer with
      | true =>
        rw [hrunning, if_pos rfl] at harm
        obtain ⟨armed, harm⟩ := harm
        dsimp only
        rw [harm]
      | false =>
        obtain ⟨t, ht, hshut⟩ := (not_isRunning_iff hw hp htimer).1 hrunning
        exact absurd ⟨threshold, timer, t, hthreshold, htimer, ht, hshut⟩ hup

/-- A borrow from the pool `p` that fails leaves its idle connections as they were. -/
def LosesNothing (w : Session) (p : Nat) : Prop :=
  ∀ e, (w.borrow p).2 = .err e →
    ((w.borrow p).1.pools.get? p).map (·.idle) = (w.pools.get? p).map (·.idle) ∧
      ∀ pool c, w.pools.get? p = some pool → c ∈ pool.idle →
        (w.borrow p).1.isClosed c = w.isClosed c

/-- What a borrow from a pool does that can fail: it fails exactly when there is an idle connection
and the timer is down, and that is exactly when a failure loses something. -/
structure CheckoutLaw (w : Session) (p : Nat) (pool : Pool) : Prop where
  fails : (∃ e, (w.borrow p).2 = .err e) ↔ pool.idle ≠ [] ∧ w.TimerDown pool
  atomic : w.LosesNothing p ↔ ¬ (pool.idle ≠ [] ∧ w.TimerDown pool)
  lost : ∀ c, pool.idle.getLast? = some c → w.TimerDown pool → LostCheckout w p pool c

theorem checkout_law {w : Session} (hw : w.Reachable) {p : Nat} {pool : Pool}
    (hp : w.pools.get? p = some pool) : CheckoutLaw w p pool := by
  have hfurnished := hw.furnished
  have hlost : ∀ c, pool.idle.getLast? = some c → w.TimerDown pool → LostCheckout w p pool c :=
    fun c hlast hdown => lostCheckout hfurnished hp hlast hdown
  have hfails : (∃ e, (w.borrow p).2 = .err e) ↔ pool.idle ≠ [] ∧ w.TimerDown pool := by
    constructor
    · rintro ⟨e, he⟩
      cases hlast : pool.idle.getLast? with
      | none =>
        rw [borrow_of_empty hp (List.getLast?_eq_none_iff.1 hlast)] at he
        cases he
      | some c =>
        have hidle : pool.idle ≠ [] := by
          intro hempty
          rw [hempty] at hlast
          cases hlast
        refine ⟨hidle, ?_⟩
        by_cases hdown : w.TimerDown pool
        · exact hdown
        · rw [borrow_ok_of_not_timerDown hfurnished hp hlast hdown] at he
          cases he
    · rintro ⟨hidle, hdown⟩
      exact ⟨_, (hlost _ (List.getLast?_eq_some_getLast hidle) hdown).outcome⟩
  refine ⟨hfails, ?_, hlost⟩
  constructor
  · rintro hnothing ⟨hidle, hdown⟩
    have hc := hlost _ (List.getLast?_eq_some_getLast hidle) hdown
    have hsame := (hnothing _ hc.outcome).1
    rw [hc.taken, Roster.get?_modify_self, hp] at hsame
    have hlength : pool.idle.dropLast.length = pool.idle.length :=
      congrArg List.length (Option.some.inj hsame)
    have hpos := List.length_pos_of_ne_nil hidle
    rw [List.length_dropLast] at hlength
    omega
  · intro hup e he
    exact absurd (hfails.1 ⟨e, he⟩) hup

end

section

attribute [local instance] Scheduler.exact

/-- A pool that watches for leaks, with one idle connection and its timer shut down. -/
def stalledPool : Session :=
  run {}
    [.timer (.newTimer .collect), .newPool (.configured "leakDetectionThreshold=1000" 0),
      .pool 0 (.addIdle none), .timer (.shutDown 0)]

theorem checkout_law_stalledPool : ∃ pool, stalledPool.Reachable ∧
    stalledPool.pools.get? 0 = some pool ∧ pool.idle = [1] ∧ CheckoutLaw stalledPool 0 pool := by
  have hreachable : stalledPool.Reachable := ⟨_, rfl⟩
  exact ⟨_, hreachable, rfl, rfl, checkout_law hreachable rfl⟩

theorem stalledPool_loses_connection : ¬ stalledPool.LosesNothing 0 := by
  intro hnothing
  have hsame := (hnothing .timerShutDown (by decide)).1
  revert hsame
  decide

end

end ConnLease.Session
