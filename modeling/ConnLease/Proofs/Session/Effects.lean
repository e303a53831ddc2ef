import ConnLease.Proofs.Session.Close
import ConnLease.Proofs.Session.Moves

/-!
# What a move writes

The effect of a move on the rosters of a session. A move changes at most the connection and the pool
that it is addressed to, each to a record that is a function of the old one; only a close goes
further, to the pool that the connection is given back to and to the statements that it sweeps.
-/

namespace ConnLease.Session

/-! ## Connections -/

/-- The connection that a move is addressed to. -/
def Move.connection? : Move → Option Nat
  | .revive c | .touch c | .setLastAccess c _ | .arm c _ _ | .lend c | .reassign c _ | .close c
  | .markBroken c | .inspect c _ | .register c _ | .unregister c _ | .untrack c _
  | .closeOnOpen c _ | .callOpen c _ | .callPlain c _ | .adopt c _ _ | .dropConnection c => some c
  | _ => none

/-- The record of a connection after a move that is addressed to it. -/
def changed [Scheduler] (w : Session) (m : Move) (conn : Connection) : Connection :=
  match m with
  | .revive _ => { conn with detector := {}, closed := false }
  | .touch _ => { conn with lastAccess := none }
  | .setLastAccess _ millis => { conn with lastAccess := some millis }
  | .arm c threshold timer =>
    match w.watch.arm conn.detector c threshold timer with
    | .ok (_, detector) => if conn.closed then conn else { conn with detector }
    | .error _ => conn
  | .lend _ => { conn with held := true }
  | .reassign _ p => { conn with owner := p }
  | .close c =>
    if conn.closed then conn
    else
      { conn with closed := true, tracked := .empty, broken := w.brokenAfterClose c conn }
  | .markBroken _ => { conn with broken := true }
  | .inspect _ e => { conn with broken := conn.broken || (conn.classifier.judge e).isFatal }
  | .register _ s =>
    if conn.closed then conn else { conn with tracked := conn.tracked.register s () }
  | .unregister _ s | .untrack _ s =>
    if conn.closed then conn else { conn with tracked := (conn.tracked.unregister s).1 }
  | .closeOnOpen _ wanted => { conn with closesOnOpen := wanted }
  | .callOpen _ call => { conn with link := ((w.wire conn).openStatement call).1.link }
  | .callPlain _ call => { conn with link := ((w.wire conn).perform call).1.link }
  | .adopt _ _ _ =>
    if conn.closed then conn
    else { conn with tracked := conn.tracked.register w.statements.next () }
  | .dropConnection _ => { conn with held := false }
  | _ => conn

/-- The connection that a move makes. -/
def created? (w : Session) : Move → Option Connection
  | .create p config journal held =>
    some
      { link := { journal := journal.getD w.journals.next }
        owner := p, classifier := config.classifier, held }
  | _ => none

/-- A close either finds nothing to do or closes an open connection down. -/
theorem close_cases (w : Session) (c : Nat) :
    (w.isClosed c = true ∧ w.close c = (w, .ok ())) ∨
      ∃ conn, w.connections.get? c = some conn ∧ conn.closed = false ∧
        ClosedDown w c conn (w.close c).1 := by
  cases hclosed : w.isClosed c with
  | true => exact .inl ⟨rfl, close_of_isClosed hclosed⟩
  | false =>
    cases hc : w.connections.get? c with
    | none => simp [isClosed, hc] at hclosed
    | some conn =>
      rw [isClosed_eq hc] at hclosed
      exact .inr ⟨conn, rfl, hclosed, (closedDown_close hc hclosed).1⟩

section

variable [Scheduler]

theorem close_connections (w : Session) (c : Nat) :
    (w.close c).1.connections = w.connections.modify c (w.changed (.close c)) := by
  rcases close_cases w c with ⟨hclosed, hsame⟩ | ⟨conn, hc, ho, hdown⟩
  · rw [hsame]
    refine (Roster.modify_eq_self ?_).symm
    intro conn hc
    rw [isClosed_eq hc] at hclosed
    simp [changed, hclosed]
  · rw [hdown.connections]
    exact Roster.modify_congr_of_some hc (by simp [changed, ho])

/-- Apart from the connection, arming changes only the check itself. -/
theorem arm_fields (w : Session) (c : Nat) (threshold : Duration) (timer : Nat) :
    (w.move (.arm c threshold timer)).watch.timers = w.watch.timers ∧
      (w.move (.arm c threshold timer)).pools = w.pools ∧
      (w.move (.arm c threshold timer)).statements = w.statements := by
  simp only [move]
  cases ha : w.arm c threshold timer with
  | error e => exact ⟨rfl, rfl, rfl⟩
  | ok w' =>
    obtain ⟨conn, watch, detector, -, -, hwatch, rfl⟩ := arm_eq_ok_iff.1 ha
    exact ⟨Leak.Watch.arm_timers hwatch, rfl, rfl⟩

theorem arm_connections (w : Session) (c : Nat) (threshold : Duration) (timer : Nat) :
    (w.move (.arm c threshold timer)).connections =
      w.connections.modify c (w.changed (.arm c threshold timer)) := by
  simp only [move]
  cases ha : w.arm c threshold timer with
  | ok w' =>
    obtain ⟨conn, watch, detector, hc, ho, hwatch, rfl⟩ := arm_eq_ok_iff.1 ha
    exact Roster.modify_congr_of_some hc (by simp [changed, hwatch, ho])
  | error e =>
    cases hc : w.connections.get? c with
    | none => exact (Roster.modify_of_none hc _).symm
    | some conn =>
      refine (Roster.modify_of_some hc ?_).symm
      simp only [changed]
      cases hwatch : w.watch.arm conn.detector c threshold timer with
      | error e => rfl
      | ok armed =>
        have ho : conn.closed = true := by
          cases ho : conn.closed with
          | true => rfl
          | false =>
            have hok := arm_eq_ok_iff.2 ⟨conn, armed.1, armed.2, hc, ho, hwatch, rfl⟩
            rw [ha] at hok
            cases hok
        simp [ho]

theorem adopt_connections (w : Session) (c : Nat) (call : Driver.OpenCall)
    (driver : Driver.Statement) :
    (w.adopt c call driver).1.connections =
      w.connections.modify c (w.changed (.adopt c call driver)) := by
  rw [adopt_fst]
  dsimp only
  cases hcl : w.isClosed c with
  | false =>
    rw [if_neg Bool.false_ne_true, register_connections]
    rfl
  | true =>
    rw [if_pos rfl]
    cases hc : w.connections.get? c with
    | none => exact (Roster.modify_of_none hc _).symm
    | some conn =>
      rw [isClosed_eq hc] at hcl
      exact (Roster.modify_of_some hc (by simp [changed, hcl])).symm

/-- A move changes the connection that it is addressed to and no other. -/
theorem connections_move {w : Session} {m : Move} {c : Nat} (h : m.connection? = some c) :
    (w.move m).connections = w.connections.modify c (w.changed m) := by
  cases m with
  | revive d => cases h; exact revive_connections w c
  | close d => cases h; exact close_connections w c
  | arm d threshold timer => cases h; exact arm_connections w c threshold timer
  | markBroken d => cases h; exact markBroken_connections w c
  | inspect d e => cases h; exact inspect_connections w c e
  | register d s => cases h; exact register_connections w c s
  | unregister d s => cases h; exact unregister_connections w c s
  | untrack d s => cases h; exact unregister_connections w c s
  | adopt d call driver => cases h; exact adopt_connections w c call driver
  | callOpen d call =>
    cases h
    simp only [move]
    cases hc : w.connections.get? c with
    | none => exact (Roster.modify_of_none hc _).symm
    | some conn => exact Roster.modify_congr_of_some hc rfl
  | callPlain d call =>
    cases h
    simp only [move]
    cases hc : w.connections.get? c with
    | none => exact (Roster.modify_of_none hc _).symm
    | some conn => exact Roster.modify_congr_of_some hc rfl
  | touch d => cases h; rfl
  | setLastAccess d millis => cases h; rfl
  | lend d => cases h; rfl
  | reassign d p => cases h; rfl
  | closeOnOpen d wanted => cases h; rfl
  | dropConnection d => cases h; rfl
  | _ => cases h

theorem connections_move_of_unaddressed {w : Session} {m : Move} (h : m.connection? = none)
    (hm : w.created? m = none) : (w.move m).connections = w.connections := by
  cases m with
  | create p config journal held => cases hm
  | evict p => exact (evict_fields w p).2.2.1
  | closeAtDriver s => exact (closeAtDriver_fields w s).2.2.1
  | _ => first | (cases h; done) | rfl

theorem connections_move_of_created {w : Session} {m : Move} {conn : Connection}
    (h : w.created? m = some conn) : (w.move m).connections = w.connections.push conn := by
  cases m with
  | create p config journal held =>
    cases h
    simp [move]
  | _ => cases h

omit [Scheduler] in
theorem created?_of_connection? {w : Session} {m : Move} {c : Nat} (h : m.connection? = some c) :
    w.created? m = none := by
  cases m with
  | create p config journal held => cases h
  | _ => rfl

theorem get?_connections_move (w : Session) (m : Move) (c : Nat) :
    (w.move m).connections.get? c =
      if m.connection? = some c then (w.connections.get? c).map (w.changed m)
      else if c = w.connections.next then w.created? m
      else w.connections.get? c := by
  refine Roster.get?_written ?_ ?_ ?_ c
  · intro d hd
    exact ⟨connections_move hd, created?_of_connection? hd⟩
  · intro conn hn
    exact connections_move_of_created hn
  · intro hm hn
    exact connections_move_of_unaddressed hm hn

/-- A connection that is there keeps what the move keeps that is addressed to it. -/
theorem connection_move {P : Connection → Prop} {w : Session} {c : Nat} {conn : Connection}
    (hc : w.connections.get? c = some conn) (m : Move) (hconn : P conn)
    (hchanged : m.connection? = some c → P (w.changed m conn)) :
    ∃ conn', (w.move m).connections.get? c = some conn' ∧ P conn' := by
  have hold : c ≠ w.connections.next := Roster.ne_next_of_get? hc
  rw [get?_connections_move, if_neg hold, hc]
  split
  · rename_i hm
    exact ⟨_, rfl, hchanged hm⟩
  · exact ⟨conn, rfl, hconn⟩

end

/-- Moves that change at most the detector of a connection and what it tracks. -/
def Move.keepsBooks : Move → Bool
  | .arm _ _ _ | .register _ _ | .unregister _ _ | .untrack _ _ | .adopt _ _ _ => true
  | _ => false

theorem changed_of_keepsBooks [Scheduler] {P : Connection → Prop} {w : Session} {m : Move}
    {conn : Connection} (hm : m.keepsBooks = true)
    (hP : ∀ tracked detector, P { conn with tracked, detector }) : P (w.changed m conn) := by
  cases m with
  | arm c threshold timer =>
    simp only [changed]
    split
    · split <;> exact hP _ _
    · exact hP _ _
  | register c s => simp only [changed]; split <;> exact hP _ _
  | unregister c s => simp only [changed]; split <;> exact hP _ _
  | untrack c s => simp only [changed]; split <;> exact hP _ _
  | adopt c call driver => simp only [changed]; split <;> exact hP _ _
  | _ => cases hm

/-! ## The closed flag -/

/-- Whether a connection has been made and is closed. -/
def isReturned (w : Session) (c : Nat) : Bool := (w.connections.get? c).any (·.closed)

theorem changed_closed [Scheduler] (w : Session) (m : Move) (conn : Connection) :
    (w.changed m conn).closed =
      match m with
      | .revive _ => false
      | .close _ => true
      | _ => conn.closed := by
  cases m with
  | close c => cases ho : conn.closed <;> simp [changed, ho]
  | arm c threshold timer | register c s | unregister c s | untrack c s | adopt c call driver =>
    exact changed_of_keepsBooks (P := (·.closed = conn.closed)) (by rfl) fun _ _ => rfl
  | _ => rfl

theorem created?_closed {w : Session} {m : Move} {conn : Connection}
    (h : w.created? m = some conn) : conn.closed = false := by
  cases m with
  | create p config journal held => cases h; rfl
  | _ => cases h

/-- Revivals open, closes close, and no other move touches the closed flag. -/
theorem isReturned_move [Scheduler] (w : Session) (m : Move) (c : Nat) :
    (w.move m).isReturned c =
      if m = .revive c then false
      else if m = .close c then (w.connections.get? c).isSome
      else w.isReturned c := by
  unfold isReturned
  rw [get?_connections_move]
  by_cases hm : m.connection? = some c
  · rw [if_pos hm]
    cases hc : w.connections.get? c with
    | none => simp
    | some conn =>
      simp only [Option.map_some, Option.any_some, Option.isSome_some, changed_closed]
      cases m with
      | revive d => cases hm; rw [if_pos rfl]
      | close d => cases hm; rw [if_neg (by simp), if_pos rfl]
      | _ => rw [if_neg (by simp), if_neg (by simp)]
  · have hrevive : m ≠ .revive c := fun e => hm (by rw [e]; rfl)
    have hclose : m ≠ .close c := fun e => hm (by rw [e]; rfl)
    rw [if_neg hm, if_neg hrevive, if_neg hclose]
    split
    · rename_i hn
      rw [hn, Roster.get?_next]
      cases hn : w.created? m with
      | none => rfl
      | some conn => rw [Option.any_some, created?_closed hn]; rfl
    · rfl

/-! ## Pools -/

/-- The pool that a move is addressed to; the close of an open connection goes to its owner. -/
def poolOf? (w : Session) : Move → Option Nat
  | .keepIdle p _ | .takeIdle p | .evict p | .dropPool p => some p
  | .close c => ((w.connections.get? c).filter (!·.closed)).map (·.owner)
  | _ => none

/-- The record of a pool after a move that is addressed to it. -/
def changedPool (w : Session) (m : Move) (pool : Pool) : Pool :=
  match m with
  | .keepIdle _ c => { pool with idle := pool.idle ++ [c] }
  | .takeIdle _ => { pool with idle := pool.idle.dropLast }
  | .evict _ =>
    { pool with
      idle := pool.idle.filter (!w.isBroken ·)
      discarded := pool.discarded ++ pool.idle.filter (w.isBroken ·) }
  | .dropPool _ => { pool with held := false }
  | .close c =>
    match w.connections.get? c with
    | some conn =>
      if pool.held then pool.receive (w.closedMetadata c conn (w.brokenAfterClose c conn))
      else pool
    | none => pool
  | _ => pool

/-- The pool that a move makes. -/
def Move.addedPool? : Move → Option Pool
  | .addPool config t recycles => some { config, timer := t, recycles }
  | _ => none

theorem close_pools (w : Session) (c : Nat) :
    (w.close c).1.pools =
      match w.poolOf? (.close c) with
      | some p => w.pools.modify p (w.changedPool (.close c))
      | none => w.pools := by
  rcases close_cases w c with ⟨hclosed, hsame⟩ | ⟨conn, hc, ho, hdown⟩
  · have hnone : w.poolOf? (.close c) = none := by
      cases hc : w.connections.get? c with
      | none => simp [poolOf?, hc]
      | some conn =>
        rw [isClosed_eq hc] at hclosed
        simp [poolOf?, hc, Option.filter_some, hclosed]
    rw [hsame, hnone]
  · have howner : w.poolOf? (.close c) = some conn.owner := by
      simp [poolOf?, hc, Option.filter_some, ho]
    rw [hdown.pools, howner]
    dsimp only
    cases hp : w.pools.get? conn.owner with
    | none => rw [Roster.modify_of_none hp, Roster.modify_of_none hp, ite_self]
    | some pool =>
      rw [poolLives_eq hp]
      cases hh : pool.held with
      | true =>
        rw [if_pos rfl]
        exact Roster.modify_congr_of_some hp (by simp [changedPool, hc, hh])
      | false =>
        rw [if_neg Bool.false_ne_true]
        exact (Roster.modify_of_some hp (by simp [changedPool, hc, hh])).symm

theorem pools_move [Scheduler] {w : Session} {m : Move} {p : Nat} (h : w.poolOf? m = some p) :
    (w.move m).pools = w.pools.modify p (w.changedPool m) := by
  cases m with
  | close c =>
    have hclose := close_pools w c
    rw [h] at hclose
    exact hclose
  | evict q => cases h; exact evict_pools w p
  | keepIdle q c => cases h; rfl
  | takeIdle q => cases h; rfl
  | dropPool q => cases h; rfl
  | _ => cases h

theorem pools_move_of_added [Scheduler] {w : Session} {m : Move} {pool : Pool}
    (h : m.addedPool? = some pool) : (w.move m).pools = w.pools.push pool := by
  cases m with
  | addPool config timer recycles => cases h; rfl
  | _ => cases h

theorem pools_move_of_unaddressed [Scheduler] {w : Session} {m : Move} (h : w.poolOf? m = none)
    (hm : m.addedPool? = none) : (w.move m).pools = w.pools := by
  cases m with
  | close c =>
    have hclose := close_pools w c
    rw [h] at hclose
    exact hclose
  | addPool config timer recycles => cases hm
  | create p config journal held => exact (newConnection_fields w p config journal held).2.1
  | revive c => exact (revive_fields w c).2.1
  | arm c threshold timer => exact (arm_fields w c threshold timer).2.1
  | markBroken c => exact (markBroken_fields w c).2.2.1
  | inspect c e => exact (inspect_fields w c e).2.2.1
  | register c s => exact (register_fields w c s).2.2.1
  | unregister c s => exact (unregister_fields w c s).2.2.1
  | untrack c s => exact (unregister_fields w c s).2.2.1
  | adopt c call driver => exact (adopt_fields w c call driver).2.2.1
  | closeAtDriver s => exact (closeAtDriver_fields w s).2.1
  | callOpen c call => simp only [move]; split <;> rfl
  | callPlain c call => simp only [move]; split <;> rfl
  | _ => first | (cases h; done) | rfl

theorem addedPool?_of_poolOf? {w : Session} {m : Move} {p : Nat} (h : w.poolOf? m = some p) :
    m.addedPool? = none := by
  cases m with
  | addPool config timer recycles => cases h
  | _ => rfl

theorem get?_pools_move [Scheduler] (w : Session) (m : Move) (p : Nat) :
    (w.move m).pools.get? p =
      if w.poolOf? m = some p then (w.pools.get? p).map (w.changedPool m)
      else if p = w.pools.next then m.addedPool?
      else w.pools.get? p := by
  refine Roster.get?_written ?_ ?_ ?_ p
  · intro q hq
    exact ⟨pools_move hq, addedPool?_of_poolOf? hq⟩
  · intro pool hn
    exact pools_move_of_added hn
  · intro hm hn
    exact pools_move_of_unaddressed hm hn

/-- A pool that is there keeps what the move keeps that is addressed to it. -/
theorem pool_move [Scheduler] {P : Pool → Prop} {w : Session} {p : Nat} {pool : Pool}
    (hp : w.pools.get? p = some pool) (m : Move) (hpool : P pool)
    (hchanged : w.poolOf? m = some p → P (w.changedPool m pool)) :
    ∃ pool', (w.move m).pools.get? p = some pool' ∧ P pool' := by
  have hold : p ≠ w.pools.next := Roster.ne_next_of_get? hp
  rw [get?_pools_move, if_neg hold, hp]
  split
  · rename_i hm
    exact ⟨_, rfl, hchanged hm⟩
  · exact ⟨pool, rfl, hpool⟩

theorem changedPool_releases {w : Session} {m : Move} (hm : ∀ c, m ≠ .close c) (pool : Pool) :
    (w.changedPool m pool).releases = pool.releases := by
  cases m with
  | close c => exact absurd rfl (hm c)
  | _ => rfl

theorem addedPool?_releases {m : Move} {pool : Pool} (h : m.addedPool? = some pool) :
    pool.releases = [] := by
  cases m with
  | addPool config timer recycles => cases h; rfl
  | _ => cases h

theorem addedPool?_stock {m : Move} {pool : Pool} (h : m.addedPool? = some pool) :
    pool.idle = [] ∧ pool.discarded = [] := by
  cases m with
  | addPool config timer recycles => cases h; exact ⟨rfl, rfl⟩
  | _ => cases h

/-- A pool that was not there before a move was made by it. -/
theorem addedPool?_of_new [Scheduler] {w : Session} {m : Move} {p : Nat} {pool : Pool}
    (hold : w.pools.get? p = none) (hnew : (w.move m).pools.get? p = some pool) :
    m.addedPool? = some pool := by
  rw [get?_pools_move, hold] at hnew
  split at hnew
  · cases hnew
  · split at hnew
    · exact hnew
    · cases hnew

/-! ## Idle connections -/

/-- The connection `c` is idle in the pool `p`. -/
def IdleIn (w : Session) (p c : Nat) : Prop :=
  ∃ pool, w.pools.get? p = some pool ∧ c ∈ pool.idle

theorem owner_of_poolOf? {w : Session} {p c : Nat} (h : w.poolOf? (.close c) = some p) :
    ∃ conn, w.connections.get? c = some conn ∧ conn.closed = false ∧ conn.owner = p := by
  obtain ⟨conn, hconn, rfl⟩ := Option.map_eq_some_iff.1 h
  obtain ⟨hc, ho⟩ := Option.filter_eq_some_iff.1 hconn
  exact ⟨conn, hc, by simpa using ho, rfl⟩

theorem closed_of_close [Scheduler] {w : Session} {c : Nat} {conn : Connection}
    (hc : w.connections.get? c = some conn) (ho : conn.closed = false) :
    (w.move (.close c)).connections.get? c = some
      { conn with closed := true, tracked := .empty, broken := w.brokenAfterClose c conn } := by
  have hdown : ClosedDown w c conn (w.move (.close c)) := (closedDown_close hc ho).1
  exact hdown.connection hc

/-- A connection that a move adds to the idle ones of a pool is new, or has just been closed and is
not broken. -/
theorem mem_idle_changedPool_cases [Scheduler] {w : Session} {m : Move} {p c : Nat} {pool : Pool}
    (hm : w.poolOf? m = some p) (hc : c ∈ (w.changedPool m pool).idle) :
    c ∈ pool.idle ∨ m = .keepIdle p c ∨ m = .close c ∧ ∃ conn,
      (w.move m).connections.get? c = some conn ∧ conn.closed = true ∧ conn.broken = false := by
  cases m with
  | keepIdle q d =>
    obtain rfl : q = p := Option.some.inj hm
    rcases List.mem_append.1 hc with hc | hc
    · exact .inl hc
    · obtain rfl := List.mem_singleton.1 hc
      exact .inr (.inl rfl)
  | takeIdle q => exact .inl (List.dropLast_subset _ hc)
  | evict q => exact .inl (List.mem_filter.1 hc).1
  | close d =>
    obtain ⟨conn, hd, ho, -⟩ := owner_of_poolOf? hm
    simp only [changedPool, hd] at hc
    split at hc
    · rw [Pool.idle_receive] at hc
      split at hc
      · rename_i hreusable
        rcases List.mem_append.1 hc with hc | hc
        · exact .inl hc
        · obtain rfl : c = d := List.mem_singleton.1 hc
          refine .inr (.inr ⟨rfl, _, closed_of_close hd ho, rfl, ?_⟩)
          simpa [closedMetadata, Metadata.isReusable] using (Bool.and_eq_true_iff.1 hreusable).2
      · exact .inl hc
    · exact .inl hc
  | _ => exact .inl hc

/-- A connection becomes idle in two ways: it is put there, or a close gives it back in good
order. -/
theorem idleIn_move_cases [Scheduler] {w : Session} {m : Move} {p c : Nat}
    (h : (w.move m).IdleIn p c) :
    w.IdleIn p c ∨ m = .keepIdle p c ∨ m = .close c ∧ ∃ conn,
      (w.move m).connections.get? c = some conn ∧ conn.closed = true ∧ conn.broken = false := by
  obtain ⟨pool', hp', hc⟩ := h
  rw [get?_pools_move] at hp'
  split at hp'
  · rename_i hm
    obtain ⟨pool, hp, rfl⟩ := Option.map_eq_some_iff.1 hp'
    rcases mem_idle_changedPool_cases hm hc with hold | hnew
    · exact .inl ⟨pool, hp, hold⟩
    · exact .inr hnew
  · split at hp'
    · cases m with
      | addPool config timer recycles => cases hp'; cases hc
      | _ => cases hp'
    · exact .inl ⟨pool', hp', hc⟩

/-! ## Timers -/

/-- Timers keep their numbers. -/
theorem isSome_timers_move [Scheduler] {w : Session} {t : Nat}
    (h : (w.watch.timers.get? t).isSome = true)
    (m : Move) : ((w.move m).watch.timers.get? t).isSome = true := by
  have hsame : (w.move m).watch.timers = w.watch.timers →
      ((w.move m).watch.timers.get? t).isSome = true := fun e => by rw [e]; exact h
  cases m with
  | timer op => exact Leak.Watch.isSome_timers_operate h op
  | create p config journal held =>
    exact hsame (by simp only [move, (newConnection_fields w p config journal held).1])
  | revive c =>
    refine hsame ?_
    simp only [move]
    cases hc : w.connections.get? c with
    | none => simp [revive, hc]
    | some conn => rw [revive_watch hc, (Leak.Watch.cancel_fields _ _).2.1]
  | close c =>
    refine hsame ?_
    show (w.close c).1.watch.timers = w.watch.timers
    rcases close_cases w c with ⟨-, hstill⟩ | ⟨conn, -, -, hdown⟩
    · rw [hstill]
    · rw [hdown.watch, (Leak.Watch.cancel_fields _ _).2.1]
  | arm c threshold timer => exact hsame (arm_fields w c threshold timer).1
  | evict p => exact hsame (by simp only [move, (evict_fields w p).1])
  | markBroken c => exact hsame (by simp only [move, (markBroken_fields w c).1])
  | inspect c e => exact hsame (by simp only [move, (inspect_fields w c e).1])
  | register c s => exact hsame (by simp only [move, (register_fields w c s).1])
  | unregister c s => exact hsame (by simp only [move, (unregister_fields w c s).1])
  | untrack c s => exact hsame (by simp only [move, (unregister_fields w c s).1])
  | adopt c call driver => exact hsame (by simp only [move, (adopt_fields w c call driver).1])
  | closeAtDriver s => exact hsame (by simp only [move, (closeAtDriver_fields w s).1])
  | callOpen c call => exact hsame (by simp only [move]; split <;> rfl)
  | callPlain c call => exact hsame (by simp only [move]; split <;> rfl)
  | _ => exact h

/-! ## Statements -/

/-- Whether a move sets the closed flag of a statement. -/
def closesStatement (w : Session) (m : Move) (s : Nat) : Bool :=
  match m with
  | .closeAtDriver t => t == s
  | .close c => !w.isClosed c && (w.reached (w.closeOrder c)).contains s
  | _ => false

/-- The record of a statement after a move. -/
def changedStatement (w : Session) (m : Move) (s : Nat) (statement : Statement) : Statement :=
  match m with
  | .dropStatement t => if t = s then { statement with held := false } else statement
  | _ => { statement with closed := statement.closed || w.closesStatement m s }

/-- The statement that a move numbers. -/
def Move.adopted? : Move → Option Statement
  | .adopt c call driver => some { connection := c, kind := call.kind, sql := call.sql?, driver }
  | _ => none

theorem changedStatement_closed (w : Session) (m : Move) (s : Nat) (statement : Statement) :
    (w.changedStatement m s statement).closed = (statement.closed || w.closesStatement m s) := by
  cases m with
  | dropStatement t =>
    simp only [changedStatement, closesStatement, Bool.or_false]
    split <;> rfl
  | _ => rfl

theorem changedStatement_connection (w : Session) (m : Move) (s : Nat) (statement : Statement) :
    (w.changedStatement m s statement).connection = statement.connection := by
  cases m with
  | dropStatement t =>
    simp only [changedStatement]
    split <;> rfl
  | _ => rfl

theorem statements_move_of_still [Scheduler] {w : Session} {m : Move} (hm : m.adopted? = none)
    (hclose : ∀ c, m ≠ .close c) (hdriver : ∀ s, m ≠ .closeAtDriver s)
    (hdrop : ∀ s, m ≠ .dropStatement s) : (w.move m).statements = w.statements := by
  cases m with
  | close c => exact absurd rfl (hclose c)
  | closeAtDriver s => exact absurd rfl (hdriver s)
  | dropStatement s => exact absurd rfl (hdrop s)
  | adopt c call driver => cases hm
  | create p config journal held => exact (newConnection_fields w p config journal held).2.2.2
  | evict p => exact (evict_fields w p).2.2.2
  | revive c => exact (revive_fields w c).2.2
  | arm c threshold timer => exact (arm_fields w c threshold timer).2.2
  | markBroken c => exact (markBroken_fields w c).2.2.2
  | inspect c e => exact (inspect_fields w c e).2.2.2
  | register c s => exact (register_fields w c s).2.2.2
  | unregister c s => exact (unregister_fields w c s).2.2.2
  | untrack c s => exact (unregister_fields w c s).2.2.2
  | callOpen c call => simp only [move]; split <;> rfl
  | callPlain c call => simp only [move]; split <;> rfl
  | _ => rfl

theorem get?_statements_close (w : Session) (c s : Nat) :
    (w.close c).1.statements.get? s =
      (w.statements.get? s).map (w.changedStatement (.close c) s) := by
  rcases close_cases w c with ⟨hclosed, hsame⟩ | ⟨conn, hc, ho, hdown⟩
  · rw [hsame]
    cases w.statements.get? s <;> simp [changedStatement, closesStatement, hclosed]
  · have hopen : w.isClosed c = false := by rw [isClosed_eq hc, ho]
    rw [hdown.statements]
    cases w.statements.get? s <;> simp [changedStatement, closesStatement, hopen]

theorem get?_statements_move_of_none [Scheduler] (w : Session) {m : Move} (hm : m.adopted? = none)
    (s : Nat) :
    (w.move m).statements.get? s = (w.statements.get? s).map (w.changedStatement m s) := by
  cases m with
  | close c => exact get?_statements_close w c s
  | adopt c call driver => cases hm
  | closeAtDriver t =>
    simp only [move, closeAtDriver_statements, Roster.get?_modify]
    by_cases hs : s = t
    · subst hs
      cases w.statements.get? s <;> simp [changedStatement, closesStatement]
    · have hts : (t == s) = false := beq_false_of_ne fun e => hs e.symm
      cases w.statements.get? s <;> simp [changedStatement, closesStatement, hs, hts]
  | dropStatement t =>
    simp only [move, onStatement_fields, Roster.get?_modify]
    by_cases hs : s = t
    · subst hs
      cases w.statements.get? s <;> simp [changedStatement]
    · have hts : ¬ t = s := fun e => hs e.symm
      cases w.statements.get? s <;> simp [changedStatement, hs, hts]
  | _ =>
    rw [statements_move_of_still rfl (by simp) (by simp) (by simp)]
    cases w.statements.get? s <;> simp [changedStatement, closesStatement]

theorem get?_statements_move [Scheduler] (w : Session) (m : Move) (s : Nat) :
    (w.move m).statements.get? s =
      if s = w.statements.next then m.adopted?
      else (w.statements.get? s).map (w.changedStatement m s) := by
  cases hm : m.adopted? with
  | none =>
    rw [get?_statements_move_of_none w hm]
    split
    · rename_i hs
      rw [hs, Roster.get?_next]
      rfl
    · rfl
  | some statement =>
    cases m with
    | adopt c call driver =>
      cases hm
      simp only [move, adopt_fields, Roster.get?_push]
      split
      · rfl
      · cases w.statements.get? s <;> simp [changedStatement, closesStatement]
    | _ => cases hm

end ConnLease.Session
