import Mathlib.Data.List.Induction
import ConnLease.Proofs.Session.Alike
import ConnLease.Proofs.Session.Places
import ConnLease.Proofs.Session.Reports
import ConnLease.Proofs.Session.Tracking

/-!
# Every borrow starts a clean cycle

As long as connections are revived by borrows only, an idle connection has no tracked statements: if
it is closed its registry was emptied, and if it is open nobody has ever held it, so nothing could
be registered. A borrow then hands out the last idle connection open, without statements, and armed
with a new check or not at all. The checks of its earlier cycles are over by then, whatever became
of them, and never report.

Where a sleep for the threshold of the pool ends on time, the new check is due when the threshold
has passed.
-/

namespace ConnLease

namespace Leak.Watch

/-- The check with the number `n` has been scheduled and is not pending any more. -/
def Over (w : Watch) (n : Nat) : Prop := w.HasFired n ∨ w.Void n

theorem over_of_not_pending {w : Watch} {n : Nat} {check : Check}
    (hn : w.checks.get? n = some check) (hs : check.status ≠ .pending) : w.Over n := by
  cases hstatus : check.status with
  | pending => exact absurd hstatus hs
  | fired => exact .inl ⟨check, hn, hstatus⟩
  | cancelled => exact .inr ⟨check, hn, .inl hstatus⟩

theorem Over.act [Scheduler] {w : Watch} {n : Nat} (h : w.Over n) (a : Act) :
    w.reportOf a n = none ∧ (w.act a).Over n := by
  rcases h with h | h
  · exact ⟨(h.act a).1, .inl (h.act a).2⟩
  · exact ⟨(h.act a).1, .inr (h.act a).2⟩

end Leak.Watch

namespace Session

/-! ## Idle connections track nothing -/

section

variable [Scheduler]

theorem openIds_moveAll_of_empty {w : Session} {ms : List Move} {c : Nat} (h : w.openIds c = [])
    (hms : ∀ m ∈ ms, (∀ s, m ≠ .register c s) ∧ ∀ call driver, m ≠ .adopt c call driver) :
    (w.moveAll ms).openIds c = [] := by
  induction ms generalizing w with
  | nil => exact h
  | cons m ms ih =>
    refine ih ?_ fun n hn => hms n (List.mem_cons_of_mem _ hn)
    obtain ⟨hregister, hadopt⟩ := hms m (List.mem_cons_self ..)
    rcases openIds_move_cases w m c with hsame | ⟨-, hnone⟩ | ⟨s, rfl, -⟩ |
      ⟨conn, s, -, hc, hfewer⟩ | ⟨call, driver, rfl, -⟩
    · rw [hsame, h]
    · exact hnone
    · exact absurd rfl (hregister s)
    · rw [openIds_eq hc] at h
      rw [hfewer, Registry.ids_unregister _ _ (by rw [h]; exact .nil), h]
      rfl
    · exact absurd rfl (hadopt call driver)

/-- Nothing is registered with a connection that no caller holds. -/
theorem openIds_step_of_not_held {w : Session} {c : Nat} (hheld : w.heldConnection? c = none)
    (h : w.openIds c = []) (op : Op) : (w.step op).1.openIds c = [] := by
  have hnone : ∀ {o : ConnectionOp} {m : Move}, m ∉ w.moves (.connection c o) := by
    intro o m hm
    obtain ⟨conn, hconn⟩ := heldConnection?_of_mem hm
    rw [hheld] at hconn
    cases hconn
  rw [step_eq_moves]
  refine openIds_moveAll_of_empty h ?_
  intro m hm
  constructor
  · rintro s rfl
    obtain rfl : op = .connection c (.register s) := moves_belong w op _ hm
    exact hnone hm
  · rintro call driver rfl
    obtain ⟨u, hu⟩ := exists_trail_of_mem hm
    obtain rfl : op = .connection c (.openStatement call) := ensured_moves w op _ hu
    exact hnone hm

omit [Scheduler] in
theorem heldConnection?_of_idleOpen {w : Session} (hw : w.Orderly) {p c : Nat}
    (hidle : w.IdleIn p c) (hopen : w.isReturned c = false) : w.heldConnection? c = none := by
  obtain ⟨conn, hc, hapart⟩ := hw.apart c (places_pos_of_idle hidle)
  rw [isReturned_eq hc] at hopen
  unfold heldConnection?
  rw [hc]
  rcases hapart with hclosed | hheld
  · rw [hopen] at hclosed
    cases hclosed
  · simp [Option.filter, hheld]

/-- An idle connection that is open has never been held, so it tracks nothing. -/
theorem openIds_of_idleOpen {ops : List Op} (hops : ∀ op ∈ ops, op.isRevival = false) {p c : Nat}
    (hidle : (run {} ops).IdleIn p c) (hopen : (run {} ops).isReturned c = false) :
    (run {} ops).openIds c = [] := by
  induction ops using List.reverseRecOn with
  | nil =>
    obtain ⟨pool, hp, -⟩ := hidle
    simp at hp
  | append_singleton ops op ih =>
    have hbefore : ∀ o ∈ ops, o.isRevival = false :=
      fun o ho => hops o (List.mem_append_left _ ho)
    have hrevival : op.isRevival = false :=
      hops op (List.mem_append_right _ (List.mem_singleton_self op))
    rw [run_snoc] at hidle hopen ⊢
    rcases idleOpen_step (orderly_run hbefore) hrevival hidle hopen with
      ⟨hidle', hopen', -⟩ | ⟨rfl, -⟩
    · exact openIds_step_of_not_held
        (heldConnection?_of_idleOpen (orderly_run hbefore) hidle' hopen') (ih hbefore hidle' hopen')
        op
    · refine openIds_step_of_not_held ?_ ?_ op
      · simp [heldConnection?]
      · simp [openIds]

theorem openIds_of_idle {ops : List Op} (hops : ∀ op ∈ ops, op.isRevival = false) {p c : Nat}
    (hidle : (run {} ops).IdleIn p c) : (run {} ops).openIds c = [] := by
  cases hreturned : (run {} ops).isReturned c with
  | true => exact (drained_run ops).1.openIds hreturned
  | false => exact openIds_of_idleOpen hops hidle hreturned

/-! ## The record of a connection that was lent -/

/-- Reviving a connection is the end of all checks that were scheduled for it. -/
theorem over_takenOut {w : Session} (hw : w.Wired) {p c n : Nat} {conn : Connection}
    {check : Leak.Check} (hc : w.connections.get? c = some conn)
    (hn : w.watch.checks.get? n = some check) (hown : check.connection = c) :
    (w.takenOut p c).watch.Over n := by
  have hafter := Leak.Watch.get?_checks_cancel w.watch conn.detector n
  rw [← takenOut_watch hc p, hn] at hafter
  refine Leak.Watch.over_of_not_pending hafter ?_
  dsimp only
  intro hpending
  split at hpending
  · cases hpending
  · rename_i hkept
    obtain ⟨holder, hholder, hd, -⟩ := hw.held n check hn hpending
    rw [hown, hc] at hholder
    obtain rfl := Option.some.inj hholder
    exact hkept ⟨hd, hpending⟩

theorem pool_of_borrow {w : Session} {p c : Nat} (h : (w.borrow p).2 = .ok (some c)) :
    ∃ pool, w.pools.get? p = some pool := by
  cases hp : w.pools.get? p with
  | none =>
    unfold borrow at h
    rw [hp] at h
    cases h
  | some pool => exact ⟨pool, rfl⟩

/-- The connection `c` after a borrow from a pool with the record `pool` in the session `w` that has
led to the session `w'`: apart from its detector it is open, held and just touched. -/
structure Refreshed (w : Session) (c : Nat) (pool : Pool) (conn : Connection) (w' : Session)
    (detector : Leak.Detector) : Prop where
  found : w'.connections.get? c =
    some { conn with detector, closed := false, lastAccess := none, held := true }
  armed : ∀ threshold timer, pool.config.leakThreshold = some threshold →
    pool.timer = some timer → detector = ⟨some w.watch.checks.next⟩ ∧
      w'.watch.checks.get? w.watch.checks.next = some (w.watch.newCheck c threshold timer)
  unarmed : pool.config.leakThreshold = none ∨ pool.timer = none → detector = {}

omit [Scheduler] in
theorem get?_lend (w : Session) (c : Nat) : (w.lend c).connections.get? c =
    (w.connections.get? c).map fun conn => { conn with held := true } :=
  Roster.get?_modify_self _ _ _

theorem refreshed_unarmed {w : Session} {c : Nat} {pool : Pool} {conn : Connection} (p : Nat)
    (hc : w.connections.get? c = some conn)
    (hnone : pool.config.leakThreshold = none ∨ pool.timer = none) :
    Refreshed w c pool conn ((w.takenOut p c).lend c) {} where
  found := by
    rw [get?_lend, get?_takenOut hc]
    rfl
  armed := by
    intro threshold timer hthreshold htimer
    simp [hthreshold, htimer] at hnone
  unarmed := fun _ => rfl

theorem refreshed_armed {w armed : Session} {p c timer : Nat} {threshold : Duration} {pool : Pool}
    {conn : Connection} (hc : w.connections.get? c = some conn)
    (hthreshold : pool.config.leakThreshold = some threshold) (htimer : pool.timer = some timer)
    (harm : (w.takenOut p c).arm c threshold timer = .ok armed) :
    Refreshed w c pool conn (armed.lend c) ⟨some w.watch.checks.next⟩ := by
  have hnext : (w.takenOut p c).watch.checks.next = w.watch.checks.next := by
    rw [takenOut_watch hc p, Leak.Watch.next_cancel]
  have hnow : (w.takenOut p c).watch.now = w.watch.now := by
    rw [takenOut_watch hc p, (Leak.Watch.cancel_fields _ _).1]
  have hcheck : (w.takenOut p c).watch.newCheck c threshold timer =
      w.watch.newCheck c threshold timer := by
    unfold Leak.Watch.newCheck
    rw [hnext, hnow]
  obtain ⟨taken, watch, detector, -, -, hwatch, rfl⟩ := arm_eq_ok_iff.1 harm
  obtain ⟨-, -, rfl, rfl⟩ := Leak.Watch.arm_eq_ok_iff.1 hwatch
  refine ⟨?_, ?_, ?_⟩
  · rw [get?_lend]
    simp [get?_takenOut hc, hnext]
  · intro threshold' timer' hthreshold' htimer'
    obtain rfl := Option.some.inj (hthreshold.symm.trans hthreshold')
    obtain rfl := Option.some.inj (htimer.symm.trans htimer')
    refine ⟨rfl, ?_⟩
    rw [← hnext, ← hcheck]
    exact Roster.get?_push_next _ _
  · intro hnone
    simp [hthreshold, htimer] at hnone

theorem refreshed_of_lent {w : Session} {p c : Nat} {pool : Pool} {conn : Connection}
    (hp : w.pools.get? p = some pool) (hc : w.connections.get? c = some conn)
    (h : (w.borrow p).2 = .ok (some c)) :
    ∃ detector, Refreshed w c pool conn (w.borrow p).1 detector := by
  have hlast := last_of_borrow hp h
  rw [borrow_of_idle hp hlast] at h ⊢
  cases hthreshold : pool.config.leakThreshold with
  | none => exact ⟨_, refreshed_unarmed p hc (.inl hthreshold)⟩
  | some threshold =>
    cases htimer : pool.timer with
    | none => exact ⟨_, refreshed_unarmed p hc (.inr htimer)⟩
    | some timer =>
      rw [hthreshold, htimer] at h
      dsimp only at h ⊢
      cases harm : (w.takenOut p c).arm c threshold timer with
      | error e => rw [harm] at h; cases h
      | ok armed => exact ⟨_, refreshed_armed hc hthreshold htimer harm⟩

/-- A borrow that lends ends all checks that were scheduled for the connection before. -/
theorem over_borrow {w : Session} (hw : w.Wired) {p c n : Nat} {pool : Pool} {conn : Connection}
    {check : Leak.Check} (hp : w.pools.get? p = some pool) (hc : w.connections.get? c = some conn)
    (h : (w.borrow p).2 = .ok (some c)) (hn : w.watch.checks.get? n = some check)
    (hown : check.connection = c) : (w.borrow p).1.watch.Over n := by
  obtain ⟨armed, hmoves, -⟩ := borrowMoves_of_lent hp h
  rw [borrow_eq_moves, hmoves, List.append_assoc, moveAll_append]
  have hleads := leads_trail (w.takenOut p c) (armed ++ [.lend c])
  exact (Leak.leads_of_kept (P := (·.Over n)) hleads (over_takenOut hw hc hn hown)
    fun _ a hover => hover.act a).2

/-! ## The clean cycle -/

/-- What a borrow that hands out the connection `c` of the pool `p` leaves. -/
structure CleanBorrow (w : Session) (p c : Nat) : Prop where
  /-- The last idle connection is taken out, and the others keep their order. -/
  taken : ∃ pool rest, w.pools.get? p = some pool ∧ pool.idle = rest ++ [c] ∧ c ∉ rest ∧
    (w.borrow p).1.pools.get? p = some { pool with idle := rest }
  opened : (w.borrow p).1.isClosed c = false
  untracked : (w.borrow p).1.openIds c = []
  broken : (w.borrow p).1.isBroken c = w.isBroken c
  armed : ∀ pool threshold timer, w.pools.get? p = some pool →
    pool.config.leakThreshold = some threshold → pool.timer = some timer →
    (w.borrow p).1.leakPhase c = .armed ∧
      ((w.borrow p).1.connections.get? c).map (·.detector) = some ⟨some w.watch.checks.next⟩ ∧
      (w.borrow p).1.watch.checks.get? w.watch.checks.next =
        some (w.watch.newCheck c threshold timer)
  /-- Where a sleep for the threshold ends on time, the new check is due when that has passed. -/
  due : ∀ pool threshold timer, w.pools.get? p = some pool →
    pool.config.leakThreshold = some threshold → pool.timer = some timer → Punctual threshold →
    ((w.borrow p).1.watch.checks.get? w.watch.checks.next).map (·.due) =
      some (w.watch.now + threshold.ceilMillis)
  unarmed : ∀ pool, w.pools.get? p = some pool →
    pool.config.leakThreshold = none ∨ pool.timer = none → (w.borrow p).1.leakPhase c = .unarmed
  /-- No check of the connection that was there before the borrow ever reports again. -/
  silent : ∀ n check, w.watch.checks.get? n = some check → check.connection = c →
    ∀ later, Leak.reportsOf sight n ((w.borrow p).1.history later) = []

/-- A borrow takes the last idle connection out of the list; it stands nowhere else in it. -/
theorem takes_last {w : Session} (hw : w.Orderly) {p c : Nat} {pool : Pool}
    (hp : w.pools.get? p = some pool) (hlast : pool.idle.getLast? = some c) :
    ∃ rest, pool.idle = rest ++ [c] ∧ c ∉ rest ∧
      (w.borrow p).1.pools.get? p = some { pool with idle := rest } := by
  obtain ⟨rest, hrest⟩ := List.getLast?_eq_some_iff.1 hlast
  refine ⟨rest, hrest, ?_, ?_⟩
  · intro hc
    have htally : pool.tally c ≤ 1 := (tally_le_places hp c).trans (hw.once c)
    have hpos := List.count_pos_iff.2 hc
    rw [Pool.tally, hrest, List.count_append, List.count_singleton_self] at htally
    omega
  · rw [(borrow_fields hp hlast).1, Roster.get?_modify_self, hp, Option.map_some, hrest,
      List.dropLast_concat]

theorem clean_borrow {ops : List Op} (hops : ∀ op ∈ ops, op.isRevival = false) {p c : Nat}
    (h : ((run {} ops).borrow p).2 = .ok (some c)) : CleanBorrow (run {} ops) p c := by
  have hfurnished : (run {} ops).Furnished := Reachable.furnished ⟨ops, rfl⟩
  have hwired := (wired_run ops).1
  have horderly := orderly_run hops
  have huntracked : (run {} ops).IdleIn p c → (run {} ops).openIds c = [] := openIds_of_idle hops
  generalize run {} ops = w at h hfurnished hwired horderly huntracked
  obtain ⟨pool, hp⟩ := pool_of_borrow h
  have hlast := last_of_borrow hp h
  have hmem : c ∈ pool.idle := List.mem_of_getLast? hlast
  have hpool : ∀ {pool'}, w.pools.get? p = some pool' → pool = pool' :=
    fun hp' => Option.some.inj (hp.symm.trans hp')
  obtain ⟨conn, hc⟩ := Option.isSome_iff_exists.1 (hfurnished.idle p pool c hp hmem)
  obtain ⟨detector, hfresh⟩ := refreshed_of_lent hp hc h
  obtain ⟨rest, htaken⟩ := takes_last horderly hp hlast
  refine ⟨⟨pool, rest, hp, htaken⟩, ?_, ?_, ?_, ?_, ?_, ?_, ?_⟩
  · rw [isClosed_eq hfresh.found]
  · have hempty := huntracked ⟨pool, hp, hmem⟩
    rw [openIds_eq hc] at hempty
    rw [openIds_eq hfresh.found, hempty]
  · simp [isBroken, hfresh.found, hc]
  · intro pool' threshold timer hp' hthreshold htimer
    obtain rfl := hpool hp'
    obtain ⟨hd, hcheck⟩ := hfresh.armed threshold timer hthreshold htimer
    refine ⟨?_, by rw [hfresh.found, hd]; rfl, hcheck⟩
    unfold leakPhase
    rw [hfresh.found]
    dsimp only
    rw [hd, Leak.Watch.phase_eq rfl hcheck]
    rfl
  · intro pool' threshold timer hp' hthreshold htimer punctual
    obtain rfl := hpool hp'
    rw [(hfresh.armed threshold timer hthreshold htimer).2, Option.map_some,
      Leak.Watch.newCheck_due punctual]
  · intro pool' hp' hnone
    obtain rfl := hpool hp'
    unfold leakPhase
    rw [hfresh.found, hfresh.unarmed hnone]
    rfl
  · intro n check hn hown later
    exact (Leak.leads_of_kept (P := (·.Over n)) (leads_history _ later)
      (over_borrow hwired hp hc h hn hown) fun _ a hover => hover.act a).1

end

section

attribute [local instance] Scheduler.exact

/-- A borrow cycle that is over: the check of the connection has fired, and its statement was left
for the close. -/
def cycleOver : List Op :=
  [.timer (.newTimer .collect), .newPool (.configured "leakDetectionThreshold=1000" 0),
    .pool 0 (.addIdle none), .pool 0 .borrow, .connection 1 (.openStatement (.prepare "A" {})),
    .timer (.settle 1000), .connection 1 .close]

theorem clean_borrow_cycleOver :
    (∀ op ∈ cycleOver, op.isRevival = false) ∧
      ((run {} cycleOver).borrow 0).2 = .ok (some 1) ∧
      Punctual (.ofMillis 1000) ∧ CleanBorrow (run {} cycleOver) 0 1 :=
  ⟨by decide, by decide, rfl, clean_borrow (by decide) (by decide)⟩

end

end Session

end ConnLease
