import Mathlib.Data.List.Induction
import ConnLease.Proofs.Session.Occasions

/-!
# Broken connections that are lent

A connection that is broken when it comes back is discarded, and eviction takes out idle ones that
are broken. A borrow does not look: it lends a broken connection exactly if that broke while it was
idle, by hand or through a late call of an earlier borrower, and nobody has evicted since.
-/

namespace ConnLease.Session

/-! ## Breaking -/

/-- Moves that can break a connection. -/
def Move.mayBreak : Move → Bool
  | .markBroken _ | .inspect _ _ | .close _ => true
  | _ => false

theorem changed_broken_of_kept [Scheduler] {w : Session} {m : Move} (hm : m.mayBreak = false)
    (conn : Connection) : (w.changed m conn).broken = conn.broken := by
  cases m with
  | markBroken c | inspect c e | close c => cases hm
  | arm c threshold timer | register c s | unregister c s | untrack c s | adopt c call driver =>
    exact changed_of_keepsBooks (P := (·.broken = conn.broken)) (by rfl) fun _ _ => rfl
  | _ => rfl

/-- The broken flag is never cleared. -/
theorem changed_broken [Scheduler] {w : Session} {m : Move} {conn : Connection}
    (h : conn.broken = true) : (w.changed m conn).broken = true := by
  cases hm : m.mayBreak with
  | false => rw [changed_broken_of_kept hm, h]
  | true =>
    cases m with
    | markBroken c => rfl
    | inspect c e => simp [changed, h]
    | close c => cases ho : conn.closed <;> simp [changed, brokenAfterClose, ho, h]
    | _ => cases hm

theorem created?_broken {w : Session} {m : Move} {conn : Connection}
    (h : w.created? m = some conn) : conn.broken = false := by
  cases m with
  | create p config journal held => cases h; rfl
  | _ => cases h

theorem isBroken_eq {w : Session} {c : Nat} {conn : Connection}
    (hc : w.connections.get? c = some conn) : w.isBroken c = conn.broken := by
  unfold isBroken
  rw [hc]

theorem exists_of_isBroken {w : Session} {c : Nat} (h : w.isBroken c = true) :
    ∃ conn, w.connections.get? c = some conn ∧ conn.broken = true := by
  cases hc : w.connections.get? c with
  | none => simp [isBroken, hc] at h
  | some conn => exact ⟨conn, rfl, by rw [← isBroken_eq hc, h]⟩

section

variable [Scheduler]

theorem isBroken_move {w : Session} {c : Nat} (h : w.isBroken c = true) (m : Move) :
    (w.move m).isBroken c = true := by
  obtain ⟨conn, hc, hbroken⟩ := exists_of_isBroken h
  obtain ⟨conn', hc', hbroken'⟩ := connection_move (P := (·.broken = true)) hc m hbroken
    fun _ => changed_broken hbroken
  rw [isBroken_eq hc', hbroken']

/-- A move leaves the connections alone that it is not addressed to, and new ones are not broken. -/
theorem isBroken_move_of_unaddressed {w : Session} {m : Move} {c : Nat}
    (hm : m.connection? ≠ some c) : (w.move m).isBroken c = w.isBroken c := by
  have hget := get?_connections_move w m c
  rw [if_neg hm] at hget
  split at hget
  · rename_i hnew
    have hsound : w.isBroken c = false := by simp [isBroken, hnew]
    rw [hsound]
    cases hmade : w.created? m with
    | none => simp [isBroken, hget, hmade]
    | some conn =>
      rw [hmade] at hget
      rw [isBroken_eq hget, created?_broken hmade]
  · unfold isBroken
    rw [hget]

theorem isBroken_move_of_kept {w : Session} {m : Move} (hm : m.mayBreak = false) (c : Nat) :
    (w.move m).isBroken c = w.isBroken c := by
  by_cases haddressed : m.connection? = some c
  · have hget := get?_connections_move w m c
    rw [if_pos haddressed] at hget
    unfold isBroken
    rw [hget]
    cases w.connections.get? c with
    | none => rfl
    | some conn => exact changed_broken_of_kept hm conn
  · exact isBroken_move_of_unaddressed haddressed

theorem isBroken_moveAll {w : Session} {c : Nat} (h : w.isBroken c = true) (ms : List Move) :
    (w.moveAll ms).isBroken c = true :=
  (moveAll_induction (P := (·.isBroken c = true)) (fun x _ hx => isBroken_move hx x.2) h).1

theorem isBroken_run {w : Session} {c : Nat} (h : w.isBroken c = true) (ops : List Op) :
    (w.run ops).isBroken c = true := by
  rw [run_eq_moveAll]
  exact isBroken_moveAll h _

/-- The connection `c` is broken and not idle in the pool `p`. -/
def BrokenOut (w : Session) (p c : Nat) : Prop := w.isBroken c = true ∧ ¬ w.IdleIn p c

/-- Nothing but `addIdle` puts a broken connection among the idle ones. -/
theorem brokenOut_move {w : Session} {m : Move} {p c : Nat} (h : w.BrokenOut p c)
    (hm : m ≠ .keepIdle p c) : (w.move m).BrokenOut p c := by
  obtain ⟨hbroken, hout⟩ := h
  refine ⟨isBroken_move hbroken m, ?_⟩
  intro hin
  rcases idleIn_move_cases hin with hin | hkeep | ⟨rfl, conn, hc, -, hsound⟩
  · exact hout hin
  · exact hm hkeep
  · have hstill := isBroken_move hbroken (.close c)
    rw [isBroken_eq hc, hsound] at hstill
    cases hstill

/-- A broken connection does not become idle. -/
theorem idleIn_of_broken {w : Session} {op : Op} {p c : Nat} (hbroken : w.isBroken c = true)
    (hidle : (w.step op).1.IdleIn p c) : w.IdleIn p c := by
  by_cases hin : w.IdleIn p c
  · exact hin
  · -- only new connections are added, and this one was there before
    have hnew : ∀ m ∈ w.moves op, m ≠ .keepIdle p c := by
      rintro m hm rfl
      obtain ⟨conn, hc, -⟩ := exists_of_isBroken hbroken
      exact absurd (keepIdle_fresh hm) (Roster.ne_next_of_get? hc)
    have hstays := (moveAll_induction (P := (·.BrokenOut p c))
      (fun x hx hout => brokenOut_move hout (hnew x.2 (mem_of_mem_trail hx))) ⟨hbroken, hin⟩).1
    rw [step_eq_moves] at hidle
    exact absurd hidle hstays.2

/-! ## Evicting -/

omit [Scheduler] in
theorem changedPool_held {w : Session} {m : Move} {pool : Pool}
    (h : (w.changedPool m pool).held = true) : pool.held = true := by
  cases m with
  | dropPool p => cases h
  | close c =>
    simp only [changedPool] at h
    split at h
    · split at h
      · assumption
      · exact h
    · exact h
  | _ => exact h

/-- A pool that is gone does not come back. -/
theorem not_held_move {w : Session} {p : Nat}
    (h : ∃ pool, w.pools.get? p = some pool ∧ pool.held = false) (m : Move) :
    ∃ pool, (w.move m).pools.get? p = some pool ∧ pool.held = false := by
  obtain ⟨pool, hp, hgone⟩ := h
  refine pool_move hp m hgone ?_
  intro _
  rw [← Bool.not_eq_true]
  intro hheld
  rw [changedPool_held hheld] at hgone
  cases hgone

theorem poolLives_of_step {w : Session} {op : Op} {p : Nat} {pool : Pool}
    (hp : w.pools.get? p = some pool) (h : (w.step op).1.poolLives p = true) :
    pool.held = true := by
  rw [← Bool.not_eq_false]
  intro hgone
  rw [step_eq_moves] at h
  obtain ⟨pool', hp', hgone'⟩ := (moveAll_induction
    (P := fun u => ∃ pool, u.pools.get? p = some pool ∧ pool.held = false)
    (fun x _ hx => not_held_move hx x.2) ⟨pool, hp, hgone⟩).1
  rw [poolLives_eq hp', hgone'] at h
  cases h

/-- After an eviction the idle connections of the pool are not broken. -/
theorem sound_of_evict {w : Session} {p c : Nat} {pool : Pool} (hp : w.heldPool? p = some pool)
    (hidle : (w.step (.pool p .evict)).1.IdleIn p c) : w.isBroken c = false := by
  have hfound : w.pools.get? p = some pool := Option.eq_some_of_filter_eq_some hp
  have hmoves : w.moves (.pool p .evict) = [.evict p] := by
    simp only [moves, hp]
    rfl
  rw [step_eq_moves, hmoves] at hidle
  obtain ⟨pool', hp', hc⟩ := hidle
  rw [moveAll_cons, moveAll_nil, get?_pools_move, if_pos (by rfl), hfound] at hp'
  obtain rfl := Option.some.inj hp'
  simpa using (List.mem_filter.1 hc).2

/-! ## Broken while idle -/

/-- In the run `ops` the connection `c` became broken by an operation that left it idle in the pool
`p`, and the pool has not been asked to evict since. -/
def BrokeIdle (ops : List Op) (p c : Nat) : Prop :=
  ∃ earlier op later, ops = earlier ++ op :: later ∧
    (run {} earlier).isBroken c = false ∧ (run {} (earlier ++ [op])).isBroken c = true ∧
    (run {} (earlier ++ [op])).IdleIn p c ∧ .pool p .evict ∉ later

theorem brokeIdle_of_broken {ops : List Op} {p c : Nat} (hidle : (run {} ops).IdleIn p c)
    (hbroken : (run {} ops).isBroken c = true) (hlives : (run {} ops).poolLives p = true) :
    BrokeIdle ops p c := by
  induction ops using List.reverseRecOn with
  | nil =>
    obtain ⟨pool, hp, -⟩ := hidle
    simp at hp
  | append_singleton ops op ih =>
    cases hbefore : (run {} ops).isBroken c with
    | false => exact ⟨ops, op, [], rfl, hbefore, hbroken, hidle, by simp⟩
    | true =>
      rw [run_snoc] at hidle hlives
      have hidle' := idleIn_of_broken hbefore hidle
      obtain ⟨pool, hp, hc⟩ := hidle'
      have hheld := poolLives_of_step hp hlives
      have hfound : (run {} ops).heldPool? p = some pool := by
        simp [heldPool?, hp, Option.filter_some, hheld]
      have hlives' : (run {} ops).poolLives p = true := by rw [poolLives_eq hp, hheld]
      have hop : op ≠ .pool p .evict := by
        rintro rfl
        rw [sound_of_evict hfound hidle] at hbefore
        cases hbefore
      obtain ⟨earlier, first, later, rfl, hsound, hbroke, hidle, hlater⟩ :=
        ih ⟨pool, hp, hc⟩ hbefore hlives'
      refine ⟨earlier, first, later ++ [op], by simp, hsound, hbroke, hidle, ?_⟩
      intro hevict
      rcases List.mem_append.1 hevict with hevict | hevict
      · exact hlater hevict
      · exact hop (List.mem_singleton.1 hevict).symm

/-! ## Lending -/

theorem borrowMoves_mayBreak (w : Session) (p : Nat) :
    ∀ m ∈ w.borrowMoves p, m.mayBreak = false := by
  unfold borrowMoves
  dsimp only
  repeat' split
  all_goals simp [Move.mayBreak]

theorem isBroken_borrow (w : Session) (p c : Nat) :
    (w.borrow p).1.isBroken c = w.isBroken c := by
  rw [borrow_eq_moves]
  refine (moveAll_induction (P := (·.isBroken c = w.isBroken c)) ?_ rfl).1
  intro x hx hsame
  rw [isBroken_move_of_kept (borrowMoves_mayBreak w p x.2 (mem_of_mem_trail hx)), hsame]

theorem Lent.broken {w : Session} {p : Nat} {loan : Loan} {pool : Pool} (h : Lent w p loan pool) :
    loan.view.broken = w.isBroken loan.connection := by
  obtain ⟨conn, hc, hview⟩ := h.view
  rw [hview, ← isBroken_borrow w p, isBroken_eq hc]
  rfl

/-- A borrow lends a broken connection exactly if that broke while it was idle and has not been
evicted. -/
theorem lends_broken_iff {ops : List Op} {p : Nat} {loan : Loan}
    (h : (run {} ops).Lends p loan) :
    loan.view.broken = true ↔ BrokeIdle ops p loan.connection := by
  obtain ⟨pool, hlent⟩ := h.lent
  rw [hlent.broken]
  constructor
  · intro hbroken
    refine brokeIdle_of_broken ⟨pool, hlent.found, List.mem_of_getLast? hlent.last⟩ hbroken ?_
    rw [poolLives_eq hlent.found]
    exact (Option.filter_eq_some_iff.1 hlent.held).2
  · rintro ⟨earlier, op, later, rfl, -, hbroke, -⟩
    have hrun : run {} (earlier ++ op :: later) = (run {} (earlier ++ [op])).run later := by
      rw [← run_append]
      simp
    rw [hrun]
    exact isBroken_run hbroke later

/-- No borrow of the run `ops` lends a broken connection. -/
def NeverLendsBroken (ops : List Op) : Prop :=
  ∀ before p loan later, ops = before ++ .pool p .borrow :: later →
    (run {} before).Lends p loan → loan.view.broken = false

/-- Broken connections stay away from borrowers exactly if none is lent that broke while it was idle
and has not been evicted. -/
theorem never_lends_broken_iff (ops : List Op) :
    NeverLendsBroken ops ↔
      ∀ before p loan later, ops = before ++ .pool p .borrow :: later →
        (run {} before).Lends p loan → ¬ BrokeIdle before p loan.connection := by
  constructor
  · intro hnever before p loan later hsplit hlends hbroke
    have hsound := hnever before p loan later hsplit hlends
    rw [(lends_broken_iff hlends).2 hbroke] at hsound
    cases hsound
  · intro hnever before p loan later hsplit hlends
    rw [← Bool.not_eq_true, lends_broken_iff hlends]
    exact hnever before p loan later hsplit hlends

end

section

attribute [local instance] Scheduler.exact

/-- A connection is given back, and a late call of its borrower finds the driver gone. -/
def lateFailure : List Op :=
  [.newPool .recycling, .pool 0 (.addIdle none), .pool 0 .borrow, .connection 1 .close,
    .script 1 (.failNext { message := "gone", sqlState := some ⟨"08006"⟩ }),
    .connection 1 (.perform .rollback)]

theorem late_failure_lends_broken : ¬ NeverLendsBroken (lateFailure ++ [.pool 0 .borrow]) := by
  intro hnever
  have hsound := hnever lateFailure 0
    { connection := 1
      view := { closed := false, broken := true, openStatements := [], leak := .unarmed }
      hasPlace := false, alreadyHeld := true } [] rfl (by unfold Lends; decide)
  cases hsound

end

end ConnLease.Session
