import ConnLease.Proofs.Session.Closers
import ConnLease.Proofs.Session.DriverCloses

/-!
# Panics

When the close of a statement panics, the close of its connection unwinds, and the borrow cycle
still ends, once. Let `p` be the newest open statement of the connection whose close panics. The
statements newer than `p` were attempted and their failures seen, `p` counts as closed, those older
than `p` are as they were, and the owner gets one release with the final values. A panic in the
close of a single statement leaves the statement closed and tracked; a close of the connection
passes over it (`close_without`).

Main statement: `ends_cycle_despite_panic`.
-/

namespace ConnLease.Session

/-! ## The newest panic -/

/-- Of the statements of the connection `c` that are open and panic when they are closed, `p` is the
newest; `older` and `newer` are the statements before and behind it on the list. -/
structure PanicsFirst (w : Session) (c : Nat) (older : List Nat) (p : Nat) (newer : List Nat) :
    Prop where
  list : w.openIds c = older ++ p :: newer
  isOpen : w.isOpenStatement p = true
  panics : w.panicsOnClose p = true
  calm : ∀ s ∈ newer, w.isOpenStatement s = true → w.panicsOnClose s = false

/-- The open ones among the statements `newer`, the last one first. -/
def tried (w : Session) (newer : List Nat) : List Nat := newer.reverse.filter w.isOpenStatement

theorem exists_panicsFirst {w : Session} {c : Nat}
    (h : ∃ s ∈ w.openIds c, w.isOpenStatement s = true ∧ w.panicsOnClose s = true) :
    ∃ older p newer, PanicsFirst w c older p newer := by
  -- the sweep runs from the newest to the oldest, so the first one it finds is the newest
  obtain ⟨s, hs, ho, hp⟩ := h
  let fatal : Nat → Bool := fun s => w.isOpenStatement s && w.panicsOnClose s
  have hsome : ((w.closeOrder c).find? fatal).isSome = true := by
    rw [List.find?_isSome]
    exact ⟨s, List.mem_reverse.2 hs, by simp [fatal, ho, hp]⟩
  obtain ⟨p, hfind⟩ := Option.isSome_iff_exists.1 hsome
  obtain ⟨hfatal, before, behind, horder, hbefore⟩ := List.find?_eq_some_iff_append.1 hfind
  obtain ⟨hopen, hpanics⟩ := Bool.and_eq_true_iff.1 hfatal
  refine ⟨behind.reverse, p, before.reverse, ?_, hopen, hpanics, ?_⟩
  · rw [← List.reverse_reverse (w.openIds c)]
    have hreverse := congrArg List.reverse horder
    rw [List.reverse_append, List.reverse_cons, List.append_assoc] at hreverse
    exact hreverse
  · intro t ht hto
    have hnot := hbefore t (List.mem_reverse.1 ht)
    simpa [fatal, hto] using hnot

namespace PanicsFirst

variable {w : Session} {c p : Nat} {older newer : List Nat}
variable (h : PanicsFirst w c older p newer) (once : (w.openIds c).Nodup)
include h once

theorem due_eq : w.due (w.closeOrder c) =
    w.tried newer ++ p :: older.reverse.filter w.isOpenStatement := by
  have horder : w.closeOrder c = newer.reverse ++ p :: older.reverse := by
    unfold closeOrder
    rw [h.list, List.reverse_append, List.reverse_cons, List.append_assoc]
    rfl
  have hnodup : (w.closeOrder c).Nodup := List.nodup_reverse.2 once
  rw [due_of_nodup w hnodup, horder, List.filter_append, List.filter_cons_of_pos h.isOpen]
  rfl

omit once in
theorem calm_tried : ∀ s ∈ w.tried newer, w.panicsOnClose s = false := by
  intro s hs
  obtain ⟨hmem, ho⟩ := List.mem_filter.1 hs
  exact h.calm s (List.mem_reverse.1 hmem) ho

theorem completed_eq : w.completed (w.closeOrder c) = w.tried newer := by
  unfold completed
  rw [h.due_eq once, List.takeWhile_append_of_pos, List.takeWhile_cons_of_neg, List.append_nil]
  · simp [h.panics]
  · intro s hs
    rw [h.calm_tried s hs]
    rfl

theorem unwinding?_eq : w.unwinding? (w.closeOrder c) = some p := by
  have hnone : (w.tried newer).find? w.panicsOnClose = none := by
    rw [List.find?_eq_none]
    intro s hs
    rw [h.calm_tried s hs]
    exact Bool.false_ne_true
  unfold unwinding?
  rw [h.due_eq once, List.find?_append, hnone, List.find?_cons_of_pos h.panics]
  rfl

theorem reached_eq : w.reached (w.closeOrder c) = w.tried newer ++ [p] := by
  unfold reached
  rw [h.completed_eq once, h.unwinding?_eq once]
  rfl

/-- Of the statements on the list that are still open, those from `p` on are reached. -/
theorem closed_or_reached {s : Nat} {statement : Statement}
    (hs : w.statements.get? s = some statement) :
    (statement.closed || (w.reached (w.closeOrder c)).contains s) =
      (statement.closed || (p :: newer).contains s) := by
  rw [h.reached_eq once]
  cases hclosed : statement.closed with
  | true => rfl
  | false =>
    have hopen : w.isOpenStatement s = true := by rw [isOpenStatement_eq hs, hclosed]; rfl
    simp [tried, hopen, or_comm]

/-- The statements older than `p` are not touched. -/
theorem not_mem_of_older {s : Nat} (hs : s ∈ older) : s ∉ p :: newer := by
  have hnodup := once
  rw [h.list, List.nodup_append] at hnodup
  exact fun hmem => hnodup.2.2 s hs s hmem rfl

theorem brokenAfterClose_eq (conn : Connection) : w.brokenAfterClose c conn =
    (conn.broken || breaks conn
      ((w.tried newer).filterMap fun s => (w.closeError? s).map (s, ·))) := by
  unfold brokenAfterClose failures
  rw [h.completed_eq once]

end PanicsFirst

/-! ## The close of the connection -/

/-- What a close of the open connection `c` with the record `conn` comes to when `p` is the first
statement whose close panics: `r` is the session that it leaves and how it ends. -/
structure Unwound [Scheduler] (w : Session) (c : Nat) (conn : Connection) (older : List Nat)
    (p : Nat) (newer : List Nat) (r : Session × Outcome Unit) : Prop where
  panic : ∃ d, w.driverOf? p = some d ∧ r.2 = .panicked d.label
  /-- The failures of the statements newer than `p` are seen. -/
  connection : r.1.connections.get? c = some
    { conn with
      closed := true, tracked := .empty
      broken := conn.broken || breaks conn
        ((w.tried newer).filterMap fun s => (w.closeError? s).map (s, ·)) }
  others : ∀ d, d ≠ c → r.1.connections.get? d = w.connections.get? d
  leak : r.1.leakPhase c = if w.leakPhase c = .armed then .cancelled else w.leakPhase c
  statements : ∀ s, r.1.statements.get? s = (w.statements.get? s).map fun statement =>
    { statement with closed := statement.closed || (p :: newer).contains s }
  older : ∀ s ∈ older, r.1.statements.get? s = w.statements.get? s
  /-- Each open statement newer than `p` left its event, newest first, and nothing else did. -/
  journals : ∀ j, r.1.journals.get? j = (w.journals.get? j).map fun journal =>
    { journal with events := journal.events ++ (w.tried newer).filterMap (w.attemptEventIn? j) }
  /-- The owner got one release, if it lives, and no other pool got one. -/
  released : ∀ q pool, w.pools.get? q = some pool →
    (r.1.pools.get? q).map (·.releases) = some (pool.releases ++
      if q = conn.owner ∧ pool.held = true then
        [{ connection := c
           broken := conn.broken || breaks conn
             ((w.tried newer).filterMap fun s => (w.closeError? s).map (s, ·))
           openStatements := 0
           leak := if w.leakPhase c = .armed then .cancelled else w.leakPhase c }]
      else [])
  /-- Whatever is done next, a close does nothing until the connection is revived. -/
  again : ∀ ops, (∀ x ∈ r.1.history ops, x.2 ≠ .revive c) →
    (r.1.run ops).close c = (r.1.run ops, .ok ())

theorem unwound_close [Scheduler] {w : Session} {c p : Nat} {conn : Connection}
    {older newer : List Nat}
    (found : w.connections.get? c = some conn) (isOpen : conn.closed = false)
    (once : (w.openIds c).Nodup) (h : PanicsFirst w c older p newer) :
    Unwound w c conn older p newer (w.close c) := by
  obtain ⟨hdown, hresult⟩ := closedDown_close found isOpen
  have hbroken := h.brokenAfterClose_eq once conn
  have hstatements : ∀ s, (w.close c).1.statements.get? s =
      (w.statements.get? s).map fun statement =>
        { statement with closed := statement.closed || (p :: newer).contains s } := by
    intro s
    rw [hdown.statements]
    cases hs : w.statements.get? s with
    | none => rfl
    | some statement => rw [Option.map_some, Option.map_some, h.closed_or_reached once hs]
  obtain ⟨d, hd, -⟩ := closeFault?_of_panics h.panics
  refine
    { panic := ⟨d, hd, ?_⟩
      connection := by rw [hdown.connection found, hbroken]
      others := fun e he => by rw [hdown.connections, Roster.get?_modify_of_ne _ _ he]
      leak := hdown.leakPhase_eq found
      statements := hstatements
      older := ?_
      journals := ?_
      released := ?_
      again := fun ops hops => Crowd.close_again hdown found hops }
  · rw [hresult]
    unfold sweepResult
    rw [h.unwinding?_eq once]
    dsimp only
    rw [hd]
    rfl
  · intro s hs
    have hnot := h.not_mem_of_older once hs
    rw [hstatements]
    cases w.statements.get? s with
    | none => rfl
    | some statement => simp [hnot]
  · intro j
    rw [hdown.journals, h.completed_eq once, List.filterMap_congr fun s hs =>
      closeEventIn?_of_calm (h.calm_tried s hs) j]
  · intro q pool hq
    rw [Crowd.releases_of_closedDown hdown hq, hbroken]
    rfl

/-! ## The close of one statement -/

/-- A panic of the driver sets the flag of the statement and does nothing else. -/
theorem closeAtDriver_of_panics {w : Session} {s : Nat} {label : String}
    (ho : w.isOpenStatement s = true) (hf : w.closeFault? s = some (.panicked label)) :
    w.closeAtDriver s =
      (w.onStatement s fun statement => { statement with closed := true }, .panicked label) := by
  have hsnd := closeAtDriver_snd ho
  rw [hf] at hsnd
  obtain ⟨statement, hs, hopen⟩ := (Option.any_eq_true _ _).1 ho
  have hfault : ((w.journals.get? statement.driver.journal).getD {}).closeFault?
      statement.driver.label = some (.panicked label) := by
    simpa [closeFault?, driverOf?, hs] using hf
  have hkept : w.journals.modify statement.driver.journal (fun _ =>
      (((w.journals.get? statement.driver.journal).getD {}).closeStatement
        statement.driver.label).1) = w.journals := by
    refine Roster.modify_eq_self ?_
    intro journal hj
    rw [hj, Option.getD_some] at hfault ⊢
    rw [Driver.Journal.closeStatement_fst]
    unfold Driver.Journal.closeEvent?
    simp [hfault]
  have hfst : (w.closeAtDriver s).1 =
      w.onStatement s fun statement => { statement with closed := true } := by
    rw [closeAtDriver_of_open hs (by simpa using hopen)]
    unfold onJournal
    exact congrArg (fun journals => { w.onStatement s _ with journals }) hkept
  exact Prod.ext hfst hsnd

theorem closeStatement_of_panics {w : Session} {s : Nat} {label : String}
    (ho : w.isOpenStatement s = true) (hf : w.closeFault? s = some (.panicked label)) :
    w.closeStatement s =
      (w.onStatement s fun statement => { statement with closed := true }, .panicked label) := by
  obtain ⟨statement, hs, -⟩ := (Option.any_eq_true _ _).1 ho
  unfold closeStatement
  rw [hs, closeAtDriver_of_panics ho hf]

/-- The session `w`, if the connection `c` did not track the statement `s`. -/
def without (w : Session) (c s : Nat) : Session :=
  w.onConnection c fun conn =>
    { conn with tracked := ⟨conn.tracked.entries.filter (·.1 != s)⟩ }

theorem closeOrder_without {w : Session} {c : Nat} {conn : Connection}
    (hc : w.connections.get? c = some conn) (s : Nat) :
    (w.without c s).closeOrder c = (w.closeOrder c).filter (· != s) := by
  have hc' : (w.without c s).connections.get? c =
      some { conn with tracked := ⟨conn.tracked.entries.filter (·.1 != s)⟩ } := by
    simp [without, hc]
  unfold closeOrder
  rw [openIds_eq hc', openIds_eq hc, List.filter_reverse]
  unfold Registry.ids
  rw [List.filter_map]
  rfl

section Without

variable {w : Session} {s : Nat} (hs : w.isOpenStatement s = false)
include hs

theorem due_filter_ne (l : List Nat) : w.due (l.filter (· != s)) = w.due l := by
  unfold due
  rw [eraseDups_filter, List.filter_filter]
  apply List.filter_congr
  intro t _
  by_cases ht : t = s
  · subst ht
    simp [hs]
  · simp [ht]

/-- A sweep does the same work whether a closed statement is on its list or not. -/
theorem sweep_filter_ne (l : List Nat) :
    w.completed (l.filter (· != s)) = w.completed l ∧
      w.reached (l.filter (· != s)) = w.reached l ∧
      w.failures (l.filter (· != s)) = w.failures l ∧
      w.sweepResult (l.filter (· != s)) = w.sweepResult l := by
  simp only [sweepResult, failures, reached, completed, unwinding?, due_filter_ne hs, and_self]

/-- A close of a connection passes over a closed statement that it tracks. -/
theorem close_without {c : Nat} (hopen : w.isClosed c = false) :
    (w.close c).2 = ((w.without c s).close c).2 ∧
      ∃ log, (w.close c).1 = { ((w.without c s).close c).1 with log } := by
  rcases close_cases w c with ⟨hclosed, -⟩ | ⟨conn, hc, ho, hdown⟩
  · rw [hopen] at hclosed
    cases hclosed
  have hc' : (w.without c s).connections.get? c =
      some { conn with tracked := ⟨conn.tracked.entries.filter (·.1 != s)⟩ } := by
    simp [without, hc]
  obtain ⟨hdown', hresult'⟩ := closedDown_close hc' ho
  obtain ⟨hcompleted, hreached, hfailures, hresult⟩ := sweep_filter_ne hs (w.closeOrder c)
  rw [← closeOrder_without hc] at hcompleted hreached hfailures hresult
  have hstatements : (w.without c s).statements = w.statements := rfl
  have hjournals : (w.without c s).journals = w.journals := rfl
  have hconns : (w.without c s).connections = w.connections.modify c fun _ =>
      { conn with tracked := ⟨conn.tracked.entries.filter (·.1 != s)⟩ } :=
    Roster.modify_congr_of_some hc rfl
  have hboth : ClosedDown w c conn ((w.without c s).close c).1 := by
    refine ClosedDown.of_relisted hc hconns rfl rfl ?_ hdown' ?_ ?_
    · unfold brokenAfterClose
      rw [failures_congr hstatements hjournals, hfailures]
      rfl
    · intro t
      rw [hdown'.statements, reached_congr hstatements hjournals, hreached, hstatements]
    · intro j
      rw [hdown'.journals, completed_congr hstatements hjournals, hcompleted, hjournals,
        (SameScript.of_eq hstatements hjournals).closeEventIn?]
  refine ⟨?_, _, hdown.eq_but_log hboth⟩
  rw [(closedDown_close hc ho).2, hresult', sweepResult_congr hstatements hjournals, hresult]

end Without

/-- What a close of the statement `s` comes to when it panics while the connection `c` tracks the
statement: `r` is the session that it leaves and how it ends. -/
structure PanickedAlone [Scheduler] (w : Session) (c s : Nat) (r : Session × Outcome Unit) : Prop
    where
  panic : ∃ d, w.driverOf? s = some d ∧ r.2 = .panicked d.label
  /-- The statement is closed, and nothing else happens. -/
  session : r.1 = w.onStatement s fun statement => { statement with closed := true }
  closed : Ended s r.1
  tracked : s ∈ r.1.openIds c
  /-- Whatever is done next, a close of the connection does what it would do if it did not track the
  statement. -/
  skipped : ∀ ops, (r.1.run ops).isClosed c = false →
    s ∉ (r.1.run ops).attempts c ∧
      ((r.1.run ops).close c).2 = (((r.1.run ops).without c s).close c).2 ∧
        ∃ log, ((r.1.run ops).close c).1 = { (((r.1.run ops).without c s).close c).1 with log }

theorem panickedAlone_closeStatement [Scheduler] {w : Session} {c s : Nat}
    (tracked : s ∈ w.openIds c) (isOpen : w.isOpenStatement s = true)
    (panics : w.panicsOnClose s = true) : PanickedAlone w c s (w.closeStatement s) := by
  obtain ⟨d, hd, hfault⟩ := closeFault?_of_panics panics
  obtain ⟨statement, hs, -⟩ := (Option.any_eq_true _ _).1 isOpen
  rw [closeStatement_of_panics isOpen hfault]
  have hended : Ended s (w.onStatement s fun statement => { statement with closed := true }) := by
    unfold Ended
    simp [hs]
  refine ⟨⟨d, hd, rfl⟩, rfl, hended, tracked, ?_⟩
  intro ops hopen
  have hclosed := (ended_run hended ops).not_isOpenStatement
  refine ⟨?_, close_without hclosed hopen⟩
  intro hmem
  rw [(mem_due.1 hmem).2] at hclosed
  cases hclosed

/-! ## The law -/

/-- The panics of the close of statements that the open connection `c` with the record `conn`
tracks. -/
structure PanicLaw [Scheduler] (w : Session) (c : Nat) (conn : Connection) : Prop where
  /-- In the close of the connection, if the tracked statements are distinct. -/
  sweep : (w.openIds c).Nodup →
    (∃ s ∈ w.openIds c, w.isOpenStatement s = true ∧ w.panicsOnClose s = true) →
      ∃ older p newer, PanicsFirst w c older p newer ∧
        Unwound w c conn older p newer (w.close c)
  /-- In the close of a single statement. -/
  alone : ∀ s ∈ w.openIds c, w.isOpenStatement s = true → w.panicsOnClose s = true →
    PanickedAlone w c s (w.closeStatement s)

theorem ends_cycle_despite_panic [Scheduler] {w : Session} {c : Nat} {conn : Connection}
    (found : w.connections.get? c = some conn) (isOpen : conn.closed = false) :
    PanicLaw w c conn where
  sweep := by
    intro once hpanics
    obtain ⟨older, p, newer, hfirst⟩ := exists_panicsFirst hpanics
    exact ⟨older, p, newer, hfirst, unwound_close found isOpen once hfirst⟩
  alone := fun _ hs ho hp => panickedAlone_closeStatement hs ho hp

section

attribute [local instance] Scheduler.exact

/-- Connection 1 tracks four statements: the close of the second panics, the third is closed
already, and the close of the fourth fails fatally. -/
def panickingSweep : Session :=
  run {}
    [.newPool .recycling, .pool 0 (.connect none),
      .connection 1 (.openStatement (.prepare "A" {})),
      .connection 1 (.openStatement (.prepare "B" {})),
      .connection 1 (.openStatement (.prepare "C" {})),
      .connection 1 (.openStatement (.prepare "D" {})),
      .statement 3 .close, .connection 1 (.register 3),
      .script 1 (.panicOnClose "B"),
      .script 1 (.failClose "D" { message := "gone", sqlState := some ⟨"08006"⟩ })]

theorem ends_cycle_panickingSweep : ∃ conn,
    panickingSweep.connections.get? 1 = some conn ∧ conn.closed = false ∧
      panickingSweep.openIds 1 = [1, 2, 4, 3] ∧
      (∃ older p newer, PanicsFirst panickingSweep 1 older p newer ∧
        Unwound panickingSweep 1 conn older p newer (panickingSweep.close 1)) ∧
      PanickedAlone panickingSweep 1 2 (panickingSweep.closeStatement 2) := by
  have hlaw : PanicLaw panickingSweep 1 _ := ends_cycle_despite_panic rfl rfl
  have hpanics : ∃ s ∈ panickingSweep.openIds 1, panickingSweep.isOpenStatement s = true ∧
      panickingSweep.panicsOnClose s = true := ⟨2, by decide, by decide, by decide⟩
  exact ⟨_, rfl, rfl, by decide, hlaw.sweep (by decide) hpanics,
    hlaw.alone 2 (by decide) (by decide) (by decide)⟩

end

end ConnLease.Session
