import ConnLease.Proofs.Session.Effects

/-!
# Statements and the end of a borrow cycle

When a connection has been closed, the statements that were opened before should be closed too, and
stay so in all later cycles. A close leaves a statement of its connection open in two ways. The
sweep abandons it, when the close of another statement panics before its turn. Or the sweep misses
it, because it is not tracked: after an earlier sweep abandoned it, or because the connection was
closed by the very call that was opening it. `ends_with_cycle_iff` says that there is no other way,
in every run in which callers do not unregister statements themselves.
-/

namespace ConnLease.Session

/-- The statements that a sweep has to close and does not reach, because one before them panics. -/
def abandoned (w : Session) (c : Nat) : List Nat :=
  ((w.attempts c).dropWhile (!w.panicsOnClose ·)).tail

/-- A close of the connection `c` abandons its statement `s`. -/
structure Abandons (w : Session) (c s : Nat) : Prop where
  isOpen : w.isClosed c = false
  behind : s ∈ w.abandoned c
  owned : ∃ statement, w.statements.get? s = some statement ∧ statement.connection = c

/-- A close of the connection `c` finds its statement `s` open and does not come to it. -/
structure Misses (w : Session) (c s : Nat) : Prop where
  owned : ∃ statement, w.statements.get? s = some statement ∧ statement.connection = c
  isOpen : w.isOpenStatement s = true
  untracked : w.isClosed c = true ∨ s ∉ w.openIds c

/-- A move numbers the statement `s` and finds its connection closed, so that it is not tracked. -/
def Declines (w : Session) (s : Nat) (m : Move) : Prop :=
  ∃ c call driver, m = .adopt c call driver ∧ w.isClosed c = true ∧ s = w.statements.next

/-- A move leaves the statement `s` open and untracked. -/
def Strays (w : Session) (s : Nat) (m : Move) : Prop :=
  (∃ c, m = .close c ∧ Abandons w c s) ∨ Declines w s m

/-- An open statement is tracked by its connection, and that is open. -/
def Covered (s : Nat) (w : Session) : Prop :=
  ∀ statement, w.statements.get? s = some statement → statement.closed = false →
    ∃ conn, w.connections.get? statement.connection = some conn ∧ conn.closed = false ∧
      s ∈ conn.tracked.ids

/-! ## What a sweep reaches -/

theorem attempts_eq (w : Session) (c : Nat) :
    w.attempts c = w.reached (w.closeOrder c) ++ w.abandoned c := by
  have hcompleted : w.completed (w.closeOrder c) =
      (w.attempts c).takeWhile (!w.panicsOnClose ·) := rfl
  have hhead : w.unwinding? (w.closeOrder c) =
      ((w.attempts c).dropWhile (!w.panicsOnClose ·)).head? :=
    List.find?_eq_head?_dropWhile_not _ _
  have hrest : ∀ l : List Nat, l.head?.toList ++ l.tail = l := by
    intro l
    cases l <;> rfl
  unfold reached abandoned
  rw [hcompleted, hhead, List.append_assoc, hrest, List.takeWhile_append_dropWhile]

theorem mem_reached_or_abandoned {w : Session} {c s : Nat} (hs : s ∈ w.openIds c)
    (ho : w.isOpenStatement s = true) :
    s ∈ w.reached (w.closeOrder c) ∨ s ∈ w.abandoned c := by
  rw [← List.mem_append, ← attempts_eq, attempts, mem_due, closeOrder, List.mem_reverse]
  exact ⟨hs, ho⟩

theorem not_mem_reached_of_abandoned {w : Session} {c s : Nat} (hs : s ∈ w.abandoned c) :
    s ∉ w.reached (w.closeOrder c) := by
  have hnodup : (w.attempts c).Nodup := due_nodup w _
  rw [attempts_eq, List.nodup_append] at hnodup
  intro hr
  exact hnodup.2.2 s hr s hs rfl

theorem mem_openIds_of_reached {w : Session} {c s : Nat}
    (hs : s ∈ w.reached (w.closeOrder c)) : s ∈ w.openIds c := by
  have hattempt : s ∈ w.attempts c := by
    rw [attempts_eq]
    exact List.mem_append_left _ hs
  rw [attempts, mem_due, closeOrder, List.mem_reverse] at hattempt
  exact hattempt.1

theorem isOpenStatement_eq {w : Session} {s : Nat} {statement : Statement}
    (hs : w.statements.get? s = some statement) : w.isOpenStatement s = !statement.closed := by
  unfold isOpenStatement
  rw [hs]
  rfl

theorem openIds_eq {w : Session} {c : Nat} {conn : Connection}
    (hc : w.connections.get? c = some conn) : w.openIds c = conn.tracked.ids := by
  unfold openIds
  rw [hc]

theorem openIds_move_of_kept [Scheduler] {w : Session} {m : Move} {c : Nat}
    (hm : m.connection? = some c) (hkept : ∀ conn, (w.changed m conn).tracked = conn.tracked) :
    (w.move m).openIds c = w.openIds c := by
  unfold openIds
  rw [get?_connections_move, if_pos hm]
  cases w.connections.get? c with
  | none => rfl
  | some conn => exact congrArg Registry.ids (hkept conn)

/-! ## One move -/

section

variable [Scheduler]

/-- A move that lets a statement stay open keeps it tracked, unless the statement strays. -/
theorem changed_covers {w : Session} {op : Op} {m : Move} {s c : Nat} {statement : Statement}
    {conn : Connection} (hm : w.Ensured op m) (hun : ∀ d t, op ≠ .connection d (.unregister t))
    (hstray : ¬ Strays w s m) (hs : w.statements.get? s = some statement)
    (hclosed : statement.closed = false) (hkept : w.closesStatement m s = false)
    (hown : statement.connection = c) (hc : w.connections.get? c = some conn)
    (ho : conn.closed = false) (htracked : s ∈ conn.tracked.ids)
    (haddressed : m.connection? = some c) :
    (w.changed m conn).closed = false ∧ s ∈ (w.changed m conn).tracked.ids := by
  have hopen : ¬ conn.closed = true := by simp [ho]
  have hregister : ∀ t, s ∈ (conn.tracked.register t ()).ids := by
    intro t
    rw [Registry.ids_register]
    exact List.mem_append_left _ htracked
  cases m with
  | close d =>
    cases haddressed
    have hisOpen : w.isClosed c = false := by rw [isClosed_eq hc, ho]
    have hreached : s ∉ w.reached (w.closeOrder c) := by
      simpa [closesStatement, hisOpen] using hkept
    rw [← openIds_eq hc] at htracked
    rcases mem_reached_or_abandoned htracked (by rw [isOpenStatement_eq hs, hclosed]; rfl) with
      h | h
    · exact absurd h hreached
    · exact absurd (.inl ⟨c, rfl, hisOpen, h, statement, hs, hown⟩) hstray
  | register d t =>
    simp only [changed]
    rw [if_neg hopen]
    exact ⟨ho, hregister t⟩
  | adopt d call driver =>
    simp only [changed]
    rw [if_neg hopen]
    exact ⟨ho, hregister _⟩
  | untrack d t =>
    simp only [changed]
    rw [if_neg hopen]
    have hne : s ≠ t := by
      rintro rfl
      have := hm statement hs
      rw [hclosed] at this
      cases this
    exact ⟨ho, (Registry.mem_ids_unregister_of_ne _ hne).2 htracked⟩
  | unregister d t => exact absurd hm (hun d t)
  | arm d threshold timer =>
    simp only [changed]
    cases w.watch.arm conn.detector d threshold timer with
    | error e => exact ⟨ho, htracked⟩
    | ok armed =>
      dsimp only
      rw [if_neg hopen]
      exact ⟨ho, htracked⟩
  | revive d => exact ⟨rfl, htracked⟩
  | _ => exact ⟨ho, htracked⟩

/-- A statement that is numbered is tracked at once, unless it strays. -/
theorem covered_adopted {w : Session} {m : Move} {s : Nat} (hstray : ¬ Strays w s m)
    (hnew : s = w.statements.next) {statement : Statement} (hm : m.adopted? = some statement) :
    ∃ conn, (w.move m).connections.get? statement.connection = some conn ∧
      conn.closed = false ∧ s ∈ conn.tracked.ids := by
  cases m with
  | adopt c call driver =>
    cases hm
    cases hc : w.connections.get? c with
    | none => exact absurd (.inr ⟨c, call, driver, rfl, by simp [isClosed, hc], hnew⟩) hstray
    | some conn =>
      cases ho : conn.closed with
      | true =>
        have hclosed : w.isClosed c = true := by rw [isClosed_eq hc, ho]
        exact absurd (.inr ⟨c, call, driver, rfl, hclosed, hnew⟩) hstray
      | false =>
        have hget := get?_connections_move w (.adopt c call driver) c
        rw [if_pos (by rfl), hc] at hget
        refine ⟨w.changed (.adopt c call driver) conn, hget, ?_, ?_⟩
        · rw [changed_closed]
          exact ho
        · have hopen : ¬ conn.closed = true := by simp [ho]
          simp only [changed]
          rw [if_neg hopen, Registry.ids_register, hnew]
          exact List.mem_append_right _ (List.mem_singleton_self _)
  | _ => cases hm

theorem covered_move {w : Session} {op : Op} {m : Move} {s : Nat} (hw : Covered s w)
    (hm : w.Ensured op m) (hun : ∀ d t, op ≠ .connection d (.unregister t))
    (hstray : ¬ Strays w s m) : Covered s (w.move m) := by
  intro statement hs hclosed
  rw [get?_statements_move] at hs
  split at hs
  · rename_i hnew
    exact covered_adopted hstray hnew hs
  · obtain ⟨old, hold, rfl⟩ := Option.map_eq_some_iff.1 hs
    rw [changedStatement_closed, Bool.or_eq_false_iff] at hclosed
    rw [changedStatement_connection]
    obtain ⟨conn, hc, ho, htracked⟩ := hw old hold hclosed.1
    rw [get?_connections_move, hc]
    by_cases haddressed : m.connection? = some old.connection
    · rw [if_pos haddressed]
      exact ⟨_, rfl, changed_covers hm hun hstray hold hclosed.1 hclosed.2 rfl hc ho htracked
        haddressed⟩
    · have hne : old.connection ≠ w.connections.next := Roster.ne_next_of_get? hc
      rw [if_neg haddressed, if_neg hne]
      exact ⟨conn, rfl, ho, htracked⟩

/-! ## A whole operation -/

/-- The moves that can follow a close of the connection `c` within an operation. -/
def FollowsClose (c : Nat) (m : Move) : Prop :=
  (∃ log, m = .restoreLog log) ∨ (∃ e, m = .inspect c e) ∨ ∃ call driver, m = .adopt c call driver

theorem openedMoves_follow {w : Session} {c : Nat} {conn : Connection} {call : Driver.OpenCall} :
    ∀ m ∈ w.openedMoves c conn call, FollowsClose c m := by
  intro m hm
  unfold openedMoves at hm
  split at hm
  · cases hm
  · exact .inr (.inl ⟨_, List.mem_singleton.1 hm⟩)
  · exact .inr (.inr ⟨_, _, List.mem_singleton.1 hm⟩)

/-- A call that makes any move opens a statement through an open connection. -/
theorem moves_openStatement {w : Session} {c : Nat} {call : Driver.OpenCall} {m : Move}
    (h : m ∈ w.moves (.connection c (.openStatement call))) :
    ∃ conn, w.moves (.connection c (.openStatement call)) =
      .callOpen c call :: (askedMoves c conn.closesOnOpen ++ w.openedMoves c conn call) := by
  have hmoves : ∀ held, w.heldConnection? c = some held →
      w.moves (.connection c (.openStatement call)) = w.openMoves c call := by
    intro held hh
    simp only [moves, hh]
    rfl
  cases hh : w.heldConnection? c with
  | none =>
    simp only [moves, hh] at h
    cases h
  | some held =>
    rw [hmoves held hh] at h ⊢
    unfold openMoves at h ⊢
    cases hc : w.connections.get? c with
    | none => rw [hc] at h; cases h
    | some conn =>
      rw [hc] at h
      cases ho : conn.closed with
      | true =>
        dsimp only at h
        rw [if_pos ho] at h
        cases h
      | false => exact ⟨conn, by dsimp only; rw [if_neg (by simp [ho])]⟩

/-- A close finds the statements and the list of its connection as the operation does; what comes
after it within the operation. -/
theorem after_close {w u : Session} {op : Op} {c : Nat}
    (h : (u, .close c) ∈ w.trail (w.moves op)) :
    u.statements = w.statements ∧ u.openIds c = w.openIds c ∧ ∃ post,
      (w.step op).1 = (u.move (.close c)).moveAll post ∧ ∀ m ∈ post, FollowsClose c m := by
  rw [step_eq_moves]
  rcases ensured_moves w op _ h with rfl | ⟨n, rfl⟩ | ⟨call, rfl⟩
  · simp only [moves] at h ⊢
    cases hc : w.heldConnection? c with
    | none => rw [hc] at h; cases h
    | some conn =>
      rw [hc] at h
      obtain ⟨rfl, -⟩ := Prod.mk.inj (List.mem_singleton.1 h)
      exact ⟨rfl, rfl, [], rfl, by simp⟩
  · simp only [moves] at h ⊢
    cases hc : w.heldConnection? c with
    | none => rw [hc] at h; cases h
    | some conn =>
      rw [hc] at h
      rcases List.mem_cons.1 h with h | h
      · obtain ⟨rfl, -⟩ := Prod.mk.inj h
        exact ⟨rfl, rfl, [.restoreLog u.log], rfl, by simp [FollowsClose]⟩
      · cases (Prod.mk.inj (List.mem_singleton.1 h)).2
  · obtain ⟨conn, hmoves⟩ := moves_openStatement (mem_of_mem_trail h)
    rw [hmoves] at h ⊢
    rw [trail, List.mem_cons, trail_append, List.mem_append] at h
    rcases h with h | h | h
    · cases h
    · unfold askedMoves at h ⊢
      cases ha : conn.closesOnOpen with
      | false => rw [ha] at h; cases h
      | true =>
        rw [ha] at h
        rcases List.mem_cons.1 h with h | h
        · cases h
        · obtain ⟨rfl, -⟩ := Prod.mk.inj (List.mem_singleton.1 h)
          refine ⟨?_, ?_, w.openedMoves c conn call, rfl, openedMoves_follow⟩
          · rw [statements_move_of_still rfl (by simp) (by simp) (by simp),
              statements_move_of_still rfl (by simp) (by simp) (by simp)]
          · rw [openIds_move_of_kept (by rfl) fun _ => rfl,
              openIds_move_of_kept (by rfl) fun _ => rfl]
    · have hfollows := openedMoves_follow _ (mem_of_mem_trail h)
      rcases hfollows with ⟨log, h⟩ | ⟨e, h⟩ | ⟨call, driver, h⟩ <;> cases h

/-- The rest of the operation leaves the statements as they are. -/
theorem followsClose_still (w : Session) {c s : Nat} {ms : List Move} {statement : Statement}
    (hms : ∀ m ∈ ms, FollowsClose c m) (hs : w.statements.get? s = some statement) :
    (w.moveAll ms).statements.get? s = some statement := by
  induction ms generalizing w with
  | nil => exact hs
  | cons m ms ih =>
    refine ih (w.move m) (fun n hn => hms n (List.mem_cons_of_mem _ hn)) ?_
    have hold : s ≠ w.statements.next := Roster.ne_next_of_get? hs
    rw [get?_statements_move, if_neg hold, hs]
    rcases hms m (List.mem_cons_self ..) with ⟨log, rfl⟩ | ⟨e, rfl⟩ | ⟨call, driver, rfl⟩ <;>
      simp [changedStatement, closesStatement]

/-- What an operation that closes a connection makes of the statements that it finds. -/
theorem closed_after_close {w u : Session} {op : Op} {c s : Nat} {statement : Statement}
    (h : (u, .close c) ∈ w.trail (w.moves op)) (hs : u.statements.get? s = some statement) :
    ((w.step op).1.statements.get? s).map (·.closed) =
      some (statement.closed || u.closesStatement (.close c) s) := by
  obtain ⟨-, -, post, hstep, hpost⟩ := after_close h
  have hget : (u.move (.close c)).statements.get? s =
      some (u.changedStatement (.close c) s statement) := by
    show (u.close c).1.statements.get? s = _
    rw [get?_statements_close, hs, Option.map_some]
  rw [hstep, followsClose_still _ hpost hget, Option.map_some, changedStatement_closed]

omit [Scheduler] in
/-- A close of a connection leaves its statement open exactly if the sweep abandons or misses it. -/
theorem not_closed_by_close_iff {w : Session} {c s : Nat} {statement : Statement}
    (hs : w.statements.get? s = some statement) (hown : statement.connection = c) :
    (statement.closed || w.closesStatement (.close c) s) = false ↔
      Abandons w c s ∨ Misses w c s := by
  have howned : ∃ statement, w.statements.get? s = some statement ∧ statement.connection = c :=
    ⟨statement, hs, hown⟩
  rw [Bool.or_eq_false_iff]
  constructor
  · rintro ⟨hopen, hkept⟩
    have hisOpen : w.isOpenStatement s = true := by rw [isOpenStatement_eq hs, hopen]; rfl
    cases hc : w.isClosed c with
    | true => exact .inr ⟨howned, hisOpen, .inl hc⟩
    | false =>
      by_cases htracked : s ∈ w.openIds c
      · have hnot : s ∉ w.reached (w.closeOrder c) := by
          simpa [closesStatement, hc] using hkept
        exact .inl ⟨hc, (mem_reached_or_abandoned htracked hisOpen).resolve_left hnot, howned⟩
      · exact .inr ⟨howned, hisOpen, .inr htracked⟩
  · intro h
    have hisOpen : w.isOpenStatement s = true := by
      rcases h with h | h
      · have hattempt : s ∈ w.attempts c := by
          rw [attempts_eq]
          exact List.mem_append_right _ h.behind
        exact (mem_due.1 hattempt).2
      · exact h.isOpen
    refine ⟨by simpa [isOpenStatement_eq hs] using hisOpen, ?_⟩
    have hnot : w.isClosed c = true ∨ s ∉ w.reached (w.closeOrder c) := by
      rcases h with h | h
      · exact .inr (not_mem_reached_of_abandoned h.behind)
      · exact h.untracked.imp_right fun hmem hr => hmem (mem_openIds_of_reached hr)
    rcases hnot with hc | hr <;> simp [closesStatement, *]

/-! ## Closed statements stay closed -/

/-- The statement `s` has been numbered and is closed. -/
def Ended (s : Nat) (w : Session) : Prop :=
  (w.statements.get? s).map (·.closed) = some true

theorem ended_move {w : Session} {s : Nat} (hw : Ended s w) (m : Move) : Ended s (w.move m) := by
  obtain ⟨statement, hs, hclosed⟩ := Option.map_eq_some_iff.1 hw
  have hold : s ≠ w.statements.next := Roster.ne_next_of_get? hs
  unfold Ended
  rw [get?_statements_move, if_neg hold, hs, Option.map_some, Option.map_some,
    changedStatement_closed, hclosed, Bool.true_or]

theorem ended_run {w : Session} {s : Nat} (hw : Ended s w) (ops : List Op) :
    Ended s (w.run ops) :=
  (run_induction (fun x _ hx => ended_move hx x.2) hw).1

omit [Scheduler] in
/-- Using a closed statement is refused and changes nothing. -/
theorem Ended.useStatement {w : Session} {s : Nat} (hw : Ended s w)
    (failure : Option DriverError) :
    w.useStatement s failure = (w, .err (.statementClosed s)) := by
  obtain ⟨statement, hs, hclosed⟩ := Option.map_eq_some_iff.1 hw
  unfold Session.useStatement
  rw [hs]
  dsimp only
  rw [if_pos hclosed]

/-! ## Whole runs -/

/-- Whenever an operation of the run `ops` closes the connection of the statement `s` and finds the
statement opened, the statement is closed from then on, and using it is refused without a call of
the driver. -/
def EndsWithCycle (ops : List Op) (s : Nat) : Prop :=
  ∀ before op after c statement, ops = before ++ op :: after →
    .close c ∈ (run {} before).moves op →
    (run {} before).statements.get? s = some statement → statement.connection = c →
    ∀ later, Ended s (run {} (before ++ op :: later)) ∧
      ∀ failure, (run {} (before ++ op :: later)).useStatement s failure =
        (run {} (before ++ op :: later), .err (.statementClosed s))

/-- An open statement is tracked as long as it has not strayed. -/
theorem covered_of_history {ops : List Op} (hops : ∀ c t, Op.connection c (.unregister t) ∉ ops)
    {before after : List (Session × Move)} {w : Session} {m : Move} {s : Nat}
    (hsplit : history {} ops = before ++ (w, m) :: after)
    (hnever : ∀ x ∈ before, ¬ Strays x.1 s x.2) : Covered s w := by
  obtain ⟨hbefore, rfl⟩ := history_split hsplit
  have hstart : Covered s {} := by
    intro statement h
    simp at h
  refine (moveAll_induction ?_ hstart).1
  intro x hx hcovered
  rw [← hbefore] at hx
  have hmem : x ∈ history {} ops := by
    rw [hsplit]
    exact List.mem_append_left _ hx
  obtain ⟨op, hop, hensured⟩ := ensured_history hmem
  refine covered_move hcovered hensured ?_ (hnever x hx)
  rintro c t rfl
  exact hops c t hop

omit [Scheduler] in
theorem Covered.not_misses {w : Session} {c s : Nat} (hw : Covered s w) : ¬ Misses w c s := by
  rintro ⟨⟨statement, hs, rfl⟩, hopen, huntracked⟩
  rw [isOpenStatement_eq hs, Bool.not_eq_true'] at hopen
  obtain ⟨conn, hc, ho, htracked⟩ := hw statement hs hopen
  rw [isClosed_eq hc, openIds_eq hc, ho] at huntracked
  rcases huntracked with h | h
  · cases h
  · exact h htracked

/-- An operation that closes a connection closes the statement unless the sweep leaves it open. -/
theorem ended_step_iff {w u : Session} {op : Op} {c s : Nat} {statement : Statement}
    (h : (u, .close c) ∈ w.trail (w.moves op)) (hs : u.statements.get? s = some statement)
    (hown : statement.connection = c) :
    Ended s (w.step op).1 ↔ ¬ (Abandons u c s ∨ Misses u c s) := by
  unfold Ended
  rw [closed_after_close h hs, Option.some_inj, ← not_closed_by_close_iff hs hown,
    Bool.not_eq_false]

theorem EndsWithCycle.not_left_open {ops : List Op} {w : Session} {c s : Nat}
    (hends : EndsWithCycle ops s) (hmem : (w, .close c) ∈ history {} ops) :
    ¬ (Abandons w c s ∨ Misses w c s) := by
  intro hleft
  obtain ⟨statement, hs, hown⟩ :
      ∃ statement, w.statements.get? s = some statement ∧ statement.connection = c := by
    rcases hleft with h | h
    · exact h.owned
    · exact h.owned
  obtain ⟨before, op, after, rfl, htrail⟩ := mem_history.1 hmem
  have hfound := hs
  rw [(after_close htrail).1] at hfound
  have hended := (hends before op after c statement rfl (mem_of_mem_trail htrail) hfound hown []).1
  rw [run_append, run_cons, run_nil] at hended
  exact (ended_step_iff htrail hs hown).1 hended hleft

/-- In every run in which callers do not unregister statements themselves, a statement is closed
with its connection exactly if no close abandons it and, where the call that opened it could not
have it tracked, no later close misses it. -/
theorem ends_with_cycle_iff {ops : List Op}
    (hops : ∀ c t, Op.connection c (.unregister t) ∉ ops) (s : Nat) :
    EndsWithCycle ops s ↔
      ∀ before w c after, history {} ops = before ++ (w, .close c) :: after →
        ¬ Abandons w c s ∧ ((∃ x ∈ before, Declines x.1 s x.2) → ¬ Misses w c s) := by
  constructor
  · intro hends before w c after hsplit
    have hmem : (w, .close c) ∈ history {} ops := by
      rw [hsplit]
      exact List.mem_append_right _ (List.mem_cons_self ..)
    have hclosed := hends.not_left_open hmem
    exact ⟨fun h => hclosed (.inl h), fun _ h => hclosed (.inr h)⟩
  · intro hnever before op after c statement hsplit hclose hs hown later
    subst hsplit
    obtain ⟨earlier, rest, hmoves⟩ := List.append_of_mem hclose
    obtain ⟨u, htrail⟩ : ∃ u, (u, .close c) ∈ (run {} before).trail ((run {} before).moves op) :=
      ⟨_, mem_trail.2 ⟨earlier, rest, hmoves, rfl⟩⟩
    rw [← (after_close htrail).1] at hs
    obtain ⟨sofar, next, hhistory⟩ :=
      List.append_of_mem (mem_history.2 ⟨before, op, after, rfl, htrail⟩)
    obtain ⟨habandons, hmisses⟩ := hnever sofar u c next hhistory
    have hnotMissed : ¬ Misses u c s := by
      by_cases hdeclined : ∃ x ∈ sofar, Declines x.1 s x.2
      · exact hmisses hdeclined
      · -- nothing before this close has let the statement stray, so it is still tracked
        refine (covered_of_history hops hhistory ?_).not_misses
        rintro ⟨v, m⟩ hx (⟨d, rfl, habandoned⟩ | hdecl)
        · obtain ⟨front, back, rfl⟩ := List.append_of_mem hx
          rw [List.append_assoc] at hhistory
          exact (hnever front v d _ hhistory).1 habandoned
        · exact hdeclined ⟨(v, m), hx, hdecl⟩
    have hended : Ended s ((run {} before).step op).1 := by
      rw [ended_step_iff htrail hs hown]
      rintro (h | h)
      · exact habandons h
      · exact hnotMissed h
    rw [run_append, run_cons]
    exact ⟨ended_run hended later, (ended_run hended later).useStatement⟩

end

section

attribute [local instance] Scheduler.exact

/-- Two statements are opened; closing the second is scripted to panic. -/
def armedSweep : List Op :=
  [.newPool .recycling, .pool 0 (.connect none), .connection 1 (.openStatement (.prepare "A" {})),
    .connection 1 (.openStatement (.prepare "B" {})), .script 1 (.panicOnClose "B")]

theorem ends_with_cycle_armedSweep :
    (∀ c t, Op.connection c (.unregister t) ∉ armedSweep ++ [.connection 1 .close]) ∧
      (EndsWithCycle (armedSweep ++ [.connection 1 .close]) 2 ↔
        ∀ before w c after,
          history {} (armedSweep ++ [.connection 1 .close]) = before ++ (w, .close c) :: after →
            ¬ Abandons w c 2 ∧
              ((∃ x ∈ before, Declines x.1 2 x.2) → ¬ Misses w c 2)) := by
  have hops : ∀ c t, Op.connection c (.unregister t) ∉ armedSweep ++ [.connection 1 .close] := by
    simp [armedSweep]
  exact ⟨hops, ends_with_cycle_iff hops 2⟩

/-- The statement before the one that panics stays open. -/
theorem panicked_sweep_leaves_statement_open :
    ¬ EndsWithCycle (armedSweep ++ [.connection 1 .close]) 1 := by
  intro hends
  have hended := (hends armedSweep (.connection 1 .close) [] 1 _ rfl (by decide) rfl rfl []).1
  revert hended
  unfold Ended
  decide

end

end ConnLease.Session
