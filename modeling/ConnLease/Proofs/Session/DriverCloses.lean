import Mathlib.Data.List.Nodup
import ConnLease.Proofs.Session.Tracking

/-!
# A driver's statement is closed once

Closing a statement reaches the driver by several ways: through any holder of the statement, and
through the sweep of every connection that tracks it, whether it was opened there or not. Whichever
comes first sets the flag of the statement, and the driver is not asked again. So a statement is
closed exactly if the driver was asked to close it, and it was asked once.

Main statements: `closes_nodup`, `ended_iff_asked`.
-/

namespace ConnLease.Session

/-! ## Asking the driver -/

/-- The statements that a sweep over a list asks the driver to close, in the order of asking. -/
def sweepAsks (w : Session) (c : Nat) : List Nat → List Nat
  | [] => []
  | s :: rest =>
    match w.closeAtDriver s with
    | (w, .alreadyClosed) => w.sweepAsks c rest
    | (w, .closed) => s :: w.sweepAsks c rest
    | (w, .failed e) => s :: (w.noteFailure c s e).sweepAsks c rest
    | (_, .panicked _) => [s]

/-- The statements that a close of a connection asks the driver to close. -/
def closeAsks (w : Session) (c : Nat) : List Nat :=
  if w.isClosed c then []
  else
    let (w, swept) := ((w.onConnection c fun conn =>
      { conn with closed := true }).cancelCheck c).drain c
    w.sweepAsks c swept

/-- The statements that a move asks the driver to close. -/
def asks (w : Session) : Move → List Nat
  | .close c => w.closeAsks c
  | .closeAtDriver s => if (w.closeAtDriver s).2 = .alreadyClosed then [] else [s]
  | _ => []

/-- A sweep asks the driver to close exactly the statements that it marks as closed. -/
theorem sweepAsks_eq (w : Session) (c : Nat) (l : List Nat) : w.sweepAsks c l = w.reached l := by
  induction l generalizing w with
  | nil => rfl
  | cons s l ih =>
    cases ho : w.isOpenStatement s with
    | false =>
      rw [sweepAsks, closeAtDriver_of_not_open ho]
      dsimp only
      rw [ih]
      simp only [reached, completed, unwinding?, due_cons_of_not_open ho]
    | true =>
      have hsnd := closeAtDriver_snd ho
      have hsplit : w.closeAtDriver s = ((w.closeAtDriver s).1, (w.closeAtDriver s).2) := rfl
      rw [sweepAsks, hsplit, hsnd]
      cases hf : w.closeFault? s with
      | none =>
        dsimp only
        rw [ih, (closedOne_of_closed c ho hf).reached_cons]
      | some fault =>
        cases fault with
        | failed e =>
          dsimp only
          rw [ih, (closedOne_of_failed c ho hf).reached_cons]
        | panicked label =>
          have hp : w.panicsOnClose s = true := by simp [panicsOnClose, hf]
          have hdue := due_cons_of_open ho _ (isOpenStatement_closeAtDriver w s) l
          simp [reached, completed, unwinding?, hdue, hp]

theorem closeAsks_eq (w : Session) (c : Nat) :
    w.closeAsks c = if w.isClosed c then [] else w.reached (w.closeOrder c) := by
  unfold closeAsks
  split
  · rfl
  · have hlist : (((w.onConnection c fun conn => { conn with closed := true }).cancelCheck
        c).drain c).2 = w.closeOrder c := by
      rw [drain_snd]
      cases hc : w.connections.get? c <;> simp [closeOrder, openIds, hc]
    dsimp only
    rw [sweepAsks_eq, hlist]
    exact reached_congr (by simp) (by simp) _

theorem reached_nodup (w : Session) (c : Nat) : (w.reached (w.closeOrder c)).Nodup := by
  have hattempts : (w.attempts c).Nodup := due_nodup w _
  rw [attempts_eq] at hattempts
  exact (List.nodup_append.1 hattempts).1

theorem asks_nodup (w : Session) (m : Move) : (w.asks m).Nodup := by
  cases m with
  | close c =>
    show (w.closeAsks c).Nodup
    rw [closeAsks_eq]
    split
    · exact .nil
    · exact reached_nodup w c
  | closeAtDriver s =>
    simp only [asks]
    split
    · exact .nil
    · exact List.nodup_singleton s
  | _ => exact .nil

/-- The driver is asked to close a statement when an open one gets its flag set. -/
theorem mem_asks {w : Session} {m : Move} {s : Nat} :
    s ∈ w.asks m ↔ w.isOpenStatement s = true ∧ w.closesStatement m s = true := by
  cases m with
  | close c =>
    have hopen : s ∈ w.reached (w.closeOrder c) → w.isOpenStatement s = true := by
      intro hs
      have hattempt : s ∈ w.attempts c := by
        rw [attempts_eq]
        exact List.mem_append_left _ hs
      exact (mem_due.1 hattempt).2
    show s ∈ w.closeAsks c ↔ _
    rw [closeAsks_eq]
    cases hclosed : w.isClosed c with
    | true => simp [closesStatement, hclosed]
    | false => simpa [closesStatement, hclosed] using hopen
  | closeAtDriver t =>
    have hasked : (w.closeAtDriver t).2 = .alreadyClosed ↔ w.isOpenStatement t = false := by
      constructor
      · intro h
        rw [← Bool.not_eq_true]
        intro ho
        rw [closeAtDriver_snd ho] at h
        split at h <;> cases h
      · intro ho
        rw [closeAtDriver_of_not_open ho]
    simp only [asks, hasked, closesStatement, beq_iff_eq]
    cases ho : w.isOpenStatement t with
    | false =>
      rw [if_pos rfl]
      constructor
      · intro h
        cases h
      · rintro ⟨h, rfl⟩
        rw [ho] at h
        cases h
    | true =>
      rw [if_neg (by simp), List.mem_singleton]
      constructor
      · rintro rfl
        exact ⟨ho, rfl⟩
      · rintro ⟨-, rfl⟩
        rfl
  | _ => simp [asks, closesStatement]

/-! ## Flags and askings agree -/

theorem not_ended_of_isOpenStatement {w : Session} {s : Nat} (h : w.isOpenStatement s = true) :
    ¬ Ended s w := by
  intro hended
  obtain ⟨statement, hs, hclosed⟩ := Option.map_eq_some_iff.1 hended
  rw [isOpenStatement_eq hs, hclosed] at h
  cases h

variable [Scheduler]

/-- A move sets the flags of the statements that it asks the driver to close, and no others. -/
theorem ended_move_iff (w : Session) (m : Move) (s : Nat) :
    Ended s (w.move m) ↔ Ended s w ∨ s ∈ w.asks m := by
  constructor
  · intro hended
    unfold Ended at hended
    rw [get?_statements_move] at hended
    split at hended
    · cases m with
      | adopt c call driver => cases hended
      | _ => cases hended
    · rw [Option.map_map] at hended
      obtain ⟨statement, hs, hclosed⟩ := Option.map_eq_some_iff.1 hended
      rw [Function.comp_apply, changedStatement_closed, Bool.or_eq_true] at hclosed
      cases ho : statement.closed with
      | true => exact .inl (by unfold Ended; rw [hs, Option.map_some, ho])
      | false =>
        refine .inr (mem_asks.2 ⟨?_, ?_⟩)
        · rw [isOpenStatement_eq hs, ho]
          rfl
        · simpa [ho] using hclosed
  · rintro (hended | hasked)
    · exact ended_move hended m
    · obtain ⟨ho, hcloses⟩ := mem_asks.1 hasked
      exact ended_of_closes ho hcloses

/-- All askings of a trail, in order. -/
def asksOf (l : List (Session × Move)) : List Nat := l.flatMap fun x => x.1.asks x.2

/-- Along a list of moves the driver is asked once for each statement whose flag is set, and never
for a statement whose flag was set before. -/
theorem asksOf_trail (w : Session) (ms : List Move) :
    (asksOf (w.trail ms)).Nodup ∧
      (∀ s, Ended s (w.moveAll ms) ↔ Ended s w ∨ s ∈ asksOf (w.trail ms)) ∧
      ∀ s ∈ asksOf (w.trail ms), ¬ Ended s w := by
  induction ms generalizing w with
  | nil => exact ⟨.nil, by simp [asksOf, trail], by simp [asksOf, trail]⟩
  | cons m ms ih =>
    obtain ⟨hnodup, hended, hnew⟩ := ih (w.move m)
    have hsplit : asksOf (w.trail (m :: ms)) = w.asks m ++ asksOf ((w.move m).trail ms) := rfl
    rw [hsplit, moveAll_cons]
    refine ⟨?_, ?_, ?_⟩
    · refine List.nodup_append.2 ⟨asks_nodup w m, hnodup, ?_⟩
      rintro s hs t ht rfl
      exact hnew s ht ((ended_move_iff w m s).2 (.inr hs))
    · intro s
      rw [hended, ended_move_iff, List.mem_append, or_assoc]
    · intro s hs hclosed
      rcases List.mem_append.1 hs with hs | hs
      · exact not_ended_of_isOpenStatement (mem_asks.1 hs).1 hclosed
      · exact hnew s hs (ended_move hclosed m)

/-- The statements that the driver was asked to close in a run. -/
def asksIn (w : Session) (ops : List Op) : List Nat := asksOf (w.history ops)

theorem asksIn_run (w : Session) (ops : List Op) :
    (w.asksIn ops).Nodup ∧ (∀ s, Ended s (w.run ops) ↔ Ended s w ∨ s ∈ w.asksIn ops) ∧
      ∀ s ∈ w.asksIn ops, ¬ Ended s w := by
  have htrail := asksOf_trail w ((w.history ops).map (·.2))
  rwa [← history_eq_trail, ← run_eq_moveAll] at htrail

/-! ## What is left to do with a closed statement -/

omit [Scheduler] in
theorem Ended.not_isOpenStatement {w : Session} {s : Nat} (h : Ended s w) :
    w.isOpenStatement s = false := by
  rw [← Bool.not_eq_true]
  exact fun ho => not_ended_of_isOpenStatement ho h

/-- Using a closed statement is refused and changes nothing. -/
theorem Ended.step_use {w : Session} {s : Nat} (h : Ended s w) {statement : Statement}
    (hheld : w.heldStatement? s = some statement) (failure : Option DriverError) :
    w.step (.statement s (.use failure)) = (w, .outcome (.err (.statementClosed s))) := by
  simp only [step, hheld, performStatement]
  rw [h.useStatement failure]
  rfl

omit [Scheduler] in
theorem Ended.closeStatement_snd {w : Session} {s : Nat} (h : Ended s w) :
    (w.closeStatement s).2 = .ok () := by
  unfold Session.closeStatement
  rw [closeAtDriver_of_not_open h.not_isOpenStatement]
  cases w.statements.get? s <;> rfl

/-- Closing a closed statement succeeds. -/
theorem Ended.step_close {w : Session} {s : Nat} (h : Ended s w) {statement : Statement}
    (hheld : w.heldStatement? s = some statement) :
    (w.step (.statement s .close)).2 = .ok .unit := by
  simp only [step, hheld, performStatement]
  rw [h.closeStatement_snd]
  rfl

/-- Closing a closed statement comes to an untracking at most. -/
theorem Ended.closeStatementMoves {w : Session} {s : Nat} (h : Ended s w) :
    ∃ rest, w.closeStatementMoves s = .closeAtDriver s :: rest ∧
      ∀ m ∈ rest, ∃ c, m = .untrack c s := by
  obtain ⟨statement, hs, -⟩ := Option.map_eq_some_iff.1 h
  unfold Session.closeStatementMoves
  rw [hs]
  dsimp only
  rw [closeAtDriver_of_not_open h.not_isOpenStatement]
  dsimp only
  refine ⟨_, rfl, ?_⟩
  unfold ownerMoves
  split <;> simp

/-- Closing a closed statement does not ask the driver. -/
theorem Ended.asksIn_close {w : Session} {s : Nat} (h : Ended s w) :
    w.asksIn [.statement s .close] = [] := by
  have hnone : ∀ rest : List Move, (∀ m ∈ rest, ∃ c, m = .untrack c s) → ∀ u : Session,
      asksOf (u.trail rest) = [] := by
    intro rest hrest u
    refine List.flatMap_eq_nil_iff.2 ?_
    intro x hx
    obtain ⟨c, hm⟩ := hrest x.2 (mem_of_mem_trail hx)
    rw [hm]
    rfl
  have hfirst : w.asks (.closeAtDriver s) = [] := by
    simp only [asks]
    rw [closeAtDriver_of_not_open h.not_isOpenStatement, if_pos rfl]
  unfold asksIn
  rw [history, history, List.append_nil]
  simp only [moves]
  cases w.heldStatement? s with
  | none => rfl
  | some statement =>
    obtain ⟨rest, hmoves, hrest⟩ := h.closeStatementMoves
    show asksOf (w.trail (w.closeStatementMoves s)) = []
    rw [hmoves]
    show w.asks (.closeAtDriver s) ++ asksOf ((w.move (.closeAtDriver s)).trail rest) = []
    rw [hfirst, hnone rest hrest]
    rfl

/-- Closing a closed statement leaves all journals as they are. -/
theorem Ended.journals_step_close {w : Session} {s : Nat} (h : Ended s w) :
    (w.step (.statement s .close)).1.journals = w.journals := by
  rw [step_eq_moves]
  simp only [moves]
  cases w.heldStatement? s with
  | none => rfl
  | some statement =>
    obtain ⟨rest, hmoves, hrest⟩ := h.closeStatementMoves
    have hfirst : (w.move (.closeAtDriver s)).journals = w.journals := by
      show (w.closeAtDriver s).1.journals = w.journals
      rw [closeAtDriver_of_not_open h.not_isOpenStatement]
    show (w.moveAll (w.closeStatementMoves s)).journals = w.journals
    rw [hmoves, moveAll_cons]
    refine (moveAll_induction (P := (·.journals = w.journals)) ?_ hfirst).1
    intro x hx hsame
    obtain ⟨c, hm⟩ := hrest x.2 (mem_of_mem_trail hx)
    rw [hm, journals_move_of_kept (by rfl), hsame]

end ConnLease.Session
