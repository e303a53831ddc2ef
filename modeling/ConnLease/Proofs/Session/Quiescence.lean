import ConnLease.Proofs.Session.Detectors

/-!
# Closed connections are quiet

While a connection is closed it tracks no statement, its leak check is not pending, and no report
comes for it. So a pool that gets a connection back notes down no open statement and no pending
check, and if it recycles it discards exactly the connections that are broken by then.
-/

namespace ConnLease.Session

/-! ## Nothing is tracked -/

/-- Closed connections track nothing. -/
def Drained (w : Session) : Prop :=
  ∀ c conn, w.connections.get? c = some conn → conn.closed = true → conn.tracked = .empty

theorem isReturned_eq {w : Session} {c : Nat} {conn : Connection}
    (hc : w.connections.get? c = some conn) : w.isReturned c = conn.closed := by
  unfold isReturned
  rw [hc, Option.any_some]

theorem exists_of_isReturned {w : Session} {c : Nat} (h : w.isReturned c = true) :
    ∃ conn, w.connections.get? c = some conn ∧ conn.closed = true := by
  cases hc : w.connections.get? c with
  | none => simp [isReturned, hc] at h
  | some conn => exact ⟨conn, rfl, by rw [← isReturned_eq hc, h]⟩

theorem changed_tracked_of_closed [Scheduler] (w : Session) (m : Move) {conn : Connection}
    (h : conn.closed = true) : (w.changed m conn).tracked = conn.tracked := by
  cases m with
  | arm c threshold timer =>
    simp only [changed]
    split
    · rw [if_pos h]
    · rfl
  | close c | register c s | unregister c s | untrack c s | adopt c call driver =>
    simp only [changed]
    rw [if_pos h]
  | _ => rfl

/-- Only a close closes an open connection, and it empties the registry. -/
theorem changed_tracked_of_closes [Scheduler] {w : Session} {m : Move} {conn : Connection}
    (h : conn.closed = false) (h' : (w.changed m conn).closed = true) :
    (w.changed m conn).tracked = .empty := by
  rw [changed_closed] at h'
  split at h'
  · cases h'
  · simp only [changed]
    rw [if_neg (by simp [h])]
  · rw [h] at h'
    cases h'

theorem drained_move [Scheduler] {w : Session} (hw : w.Drained) (m : Move) :
    (w.move m).Drained := by
  intro c conn' hc' hclosed'
  rw [get?_connections_move] at hc'
  split at hc'
  · obtain ⟨conn, hc, rfl⟩ := Option.map_eq_some_iff.1 hc'
    cases ho : conn.closed with
    | true => rw [changed_tracked_of_closed w m ho, hw c conn hc ho]
    | false => exact changed_tracked_of_closes ho hclosed'
  · split at hc'
    · rw [created?_closed hc'] at hclosed'
      cases hclosed'
    · exact hw c conn' hc' hclosed'

theorem Drained.openIds {w : Session} (hw : w.Drained) {c : Nat} (h : w.isReturned c = true) :
    w.openIds c = [] := by
  obtain ⟨conn, hc, hclosed⟩ := exists_of_isReturned h
  unfold Session.openIds
  rw [hc]
  dsimp only
  rw [hw c conn hc hclosed]
  rfl

/-! ## Nothing is reported -/

theorem Wired.leakPhase_ne_armed {w : Session} (hw : w.Wired) {c : Nat}
    (h : w.isReturned c = true) : w.leakPhase c ≠ .armed := by
  obtain ⟨conn, hc, hclosed⟩ := exists_of_isReturned h
  unfold leakPhase
  rw [hc]
  dsimp only
  rw [Ne, Leak.Watch.phase_armed_iff]
  rintro ⟨n, check, hd, hn, hs⟩
  obtain ⟨check', hn', hown⟩ := hw.own c conn n hc hd
  obtain rfl : check = check' := Option.some.inj (hn.symm.trans hn')
  obtain ⟨holder, hholder, -, hopen⟩ := hw.held n check hn hs
  rw [hown, hc] at hholder
  obtain rfl := Option.some.inj hholder
  rw [hclosed] at hopen
  cases hopen

/-- A check fires only while its connection is open. -/
theorem Wired.open_of_fires {w : Session} (hw : w.Wired) {a : Leak.Act} {n : Nat}
    {check : Leak.Check} (hn : w.watch.checks.get? n = some check)
    (h : w.watch.fires a check = true) : w.isReturned check.connection = false := by
  obtain ⟨-, -, hs, -⟩ := Leak.Watch.fires_iff.1 h
  obtain ⟨conn, hc, -, hopen⟩ := hw.held n check hn hs
  rw [isReturned_eq hc, hopen]

/-- The check with the number `n` is for the connection `c`. -/
def ChecksOn (w : Session) (n c : Nat) : Prop :=
  ∃ check, w.watch.checks.get? n = some check ∧ check.connection = c

theorem checksOn_move [Scheduler] {w : Session} {n c : Nat} (h : w.ChecksOn n c) (m : Move) :
    (w.move m).ChecksOn n c := by
  obtain ⟨check, hn, hown⟩ := h
  obtain ⟨next, hnext, hsame⟩ := connection_check_move hn m
  exact ⟨next, hnext, hsame.trans hown⟩

/-- A check keeps its connection in everything that follows. -/
theorem checksOn_trail [Scheduler] {w : Session} {n c : Nat} (h : w.ChecksOn n c) (ms : List Move) :
    ∀ x ∈ w.trail ms, x.1.ChecksOn n c :=
  (moveAll_induction (P := (·.ChecksOn n c)) (fun x _ hx => checksOn_move hx x.2) h).2

/-- Arming a connection schedules a check for it, with the next number. -/
theorem get?_checks_arm [Scheduler] {w : Session} {c timer : Nat} {threshold : Duration}
    {conn : Connection} (hc : w.connections.get? c = some conn) (harm : w.CanArm conn timer) :
    (w.move (.arm c threshold timer)).watch.checks.get? w.watch.checks.next =
      some (w.watch.newCheck c threshold timer) := by
  rw [watch_move, Leak.Watch.get?_checks_act, if_pos rfl]
  exact scheduled?_eq_some_iff.2 ⟨c, threshold, timer, conn, rfl, hc, harm, rfl⟩

/-- No check that was armed on a connection fires while the connection is closed. -/
theorem silent_while_returned [Scheduler] {ops : List Op} {before after : List (Session × Move)}
    {w u : Session} {m : Move} {c timer : Nat} {threshold : Duration} {conn : Connection}
    (hsplit : history {} ops = before ++ (w, .arm c threshold timer) :: after)
    (hc : w.connections.get? c = some conn) (harm : w.CanArm conn timer) (hmem : (u, m) ∈ after)
    (hreturned : u.isReturned c = true) :
    u.watch.reportOf (u.act m) w.watch.checks.next = none := by
  have hwired : u.Wired := by
    refine (wired_run ops).2 (u, m) ?_
    rw [hsplit]
    exact List.mem_append_right _ (List.mem_cons_of_mem _ hmem)
  rw [(history_rest hsplit).1] at hmem
  have harmed : (w.move (.arm c threshold timer)).ChecksOn w.watch.checks.next c :=
    ⟨_, get?_checks_arm hc harm, rfl⟩
  obtain ⟨check, hn, hown⟩ := checksOn_trail harmed _ _ hmem
  refine Leak.Watch.reportOf_of_not_fires hn ?_
  rw [← Bool.not_eq_true]
  intro hfires
  have hopen := hwired.open_of_fires hn hfires
  rw [hown, hreturned] at hopen
  cases hopen

/-! ## What pools get back -/

/-- Releases show no open statements and no pending checks. -/
def TidyReleases (w : Session) : Prop :=
  ∀ p pool, w.pools.get? p = some pool → ∀ r ∈ pool.releases,
    r.openStatements = 0 ∧ r.leak ≠ .armed

theorem phaseAfterClose_ne_armed (w : Session) (c : Nat) : w.phaseAfterClose c ≠ .armed := by
  unfold phaseAfterClose
  split
  · exact fun h => by cases h
  · assumption

theorem mem_releases_changedPool {w : Session} {m : Move} {pool : Pool} {r : Release}
    (hr : r ∈ (w.changedPool m pool).releases) :
    r ∈ pool.releases ∨ r.openStatements = 0 ∧ r.leak ≠ .armed := by
  by_cases hclose : ∃ c, m = .close c
  · obtain ⟨c, rfl⟩ := hclose
    simp only [changedPool] at hr
    split at hr
    · split at hr
      · rw [Pool.releases_receive] at hr
        rcases List.mem_append.1 hr with hr | hr
        · exact .inl hr
        · obtain rfl := List.mem_singleton.1 hr
          exact .inr ⟨rfl, phaseAfterClose_ne_armed w c⟩
      · exact .inl hr
    · exact .inl hr
  · rw [changedPool_releases fun c h => hclose ⟨c, h⟩] at hr
    exact .inl hr

theorem tidyReleases_move [Scheduler] {w : Session} (hw : w.TidyReleases) (m : Move) :
    (w.move m).TidyReleases := by
  intro p pool' hp' r hr
  rw [get?_pools_move] at hp'
  split at hp'
  · obtain ⟨pool, hp, rfl⟩ := Option.map_eq_some_iff.1 hp'
    rcases mem_releases_changedPool hr with hold | hnew
    · exact hw p pool hp r hold
    · exact hnew
  · split at hp'
    · rw [addedPool?_releases hp'] at hr
      cases hr
    · exact hw p pool' hp' r hr

/-- What a pool `pool`, which got the connection `c` back, has become in `w`: the connection is
closed and noted down. Only a pool that recycles puts it anywhere, and where depends on whether it
is broken. -/
structure GivenBack (w : Session) (c : Nat) (pool pool' : Pool) : Prop where
  returned : w.isReturned c = true
  noted : pool'.releases = pool.releases ++
    [{ connection := c, broken := w.isBroken c, openStatements := 0, leak := w.leakPhase c }]
  discarded : pool'.discarded =
    if pool.recycles && w.isBroken c then pool.discarded ++ [c] else pool.discarded
  idle : pool'.idle = if pool.recycles && !w.isBroken c then pool.idle ++ [c] else pool.idle

theorem givenBack_close [Scheduler] {w : Session} {c : Nat} {conn : Connection} {pool : Pool}
    (hc : w.connections.get? c = some conn) (ho : conn.closed = false)
    (hp : w.pools.get? conn.owner = some pool) (hheld : pool.held = true) :
    ∃ pool', (w.move (.close c)).pools.get? conn.owner = some pool' ∧
      GivenBack (w.move (.close c)) c pool pool' := by
  have hdown : ClosedDown w c conn (w.move (.close c)) := (closedDown_close hc ho).1
  have hconn := hdown.connection hc
  have hbroken : (w.move (.close c)).isBroken c = w.brokenAfterClose c conn := by
    unfold isBroken
    rw [hconn]
  have hphase : (w.move (.close c)).leakPhase c = w.phaseAfterClose c := hdown.leakPhase_eq hc
  refine ⟨_, hdown.owner hp hheld, ?_⟩
  constructor
  · rw [isReturned_eq hconn]
  · rw [Pool.releases_receive, hbroken, hphase]
    rfl
  · rw [Pool.discarded_receive, hbroken]
    cases w.brokenAfterClose c conn <;> rfl
  · rw [Pool.idle_receive, hbroken]
    cases w.brokenAfterClose c conn <;> rfl

/-- What a recycling pool `pool`, which got the connection `c` back, has become in `w`: the
connection is closed, and it is discarded exactly if it is broken. -/
structure Sorted (w : Session) (c : Nat) (pool pool' : Pool) : Prop where
  returned : w.isReturned c = true
  noted : pool'.releases = pool.releases ++
    [{ connection := c, broken := w.isBroken c, openStatements := 0, leak := w.leakPhase c }]
  discarded : pool'.discarded =
    if w.isBroken c then pool.discarded ++ [c] else pool.discarded
  idle : pool'.idle = if w.isBroken c then pool.idle else pool.idle ++ [c]

theorem GivenBack.sorted {w : Session} {c : Nat} {pool pool' : Pool}
    (h : GivenBack w c pool pool') (hrecycles : pool.recycles = true) :
    Sorted w c pool pool' := by
  refine ⟨h.returned, h.noted, ?_, ?_⟩
  · rw [h.discarded, hrecycles]
    rfl
  · rw [h.idle, hrecycles]
    cases w.isBroken c <;> rfl

theorem sorted_close [Scheduler] {w : Session} {c : Nat} {conn : Connection} {pool : Pool}
    (hc : w.connections.get? c = some conn) (ho : conn.closed = false)
    (hp : w.pools.get? conn.owner = some pool) (hheld : pool.held = true)
    (hrecycles : pool.recycles = true) :
    ∃ pool', (w.move (.close c)).pools.get? conn.owner = some pool' ∧
      Sorted (w.move (.close c)) c pool pool' := by
  obtain ⟨pool', hp', hback⟩ := givenBack_close hc ho hp hheld
  exact ⟨pool', hp', hback.sorted hrecycles⟩

/-! ## Whole runs -/

/-- Closed connections are quiet throughout the run `ops`. -/
structure QuietWhileClosed [Scheduler] (ops : List Op) : Prop where
  /-- At the end of the run, and between any two of its moves. -/
  closed : ∀ w, (w = run {} ops ∨ ∃ m, (w, m) ∈ history {} ops) → ∀ c, w.isReturned c = true →
    w.openIds c = [] ∧ w.leakPhase c ≠ .armed
  releases : ∀ p pool, (run {} ops).pools.get? p = some pool → ∀ r ∈ pool.releases,
    r.openStatements = 0 ∧ r.leak ∈ [.unarmed, .fired, .cancelled]
  /-- Whatever is handed to a reporter is about a connection that is open. -/
  reported : ∀ w m, (w, m) ∈ history {} ops → ∃ fresh,
    (w.move m).watch.reports = w.watch.reports ++ fresh ∧
      ∀ r ∈ fresh, w.isReturned r.connection = false
  /-- A check that was armed on a connection makes no report while that is closed. -/
  silent : ∀ before w c threshold timer after conn,
    history {} ops = before ++ (w, .arm c threshold timer) :: after →
    w.connections.get? c = some conn → w.CanArm conn timer →
    ∀ u m, (u, m) ∈ after → u.isReturned c = true →
      u.watch.reportOf (u.act m) w.watch.checks.next = none
  sorted : ∀ w c conn pool, (w, .close c) ∈ history {} ops →
    w.connections.get? c = some conn → conn.closed = false →
    w.pools.get? conn.owner = some pool → pool.held = true → pool.recycles = true →
    ∃ pool', (w.move (.close c)).pools.get? conn.owner = some pool' ∧
      Sorted (w.move (.close c)) c pool pool'

theorem drained_run [Scheduler] (ops : List Op) :
    (run {} ops).Drained ∧ ∀ x ∈ history {} ops, x.1.Drained := by
  refine run_induction (fun x _ hx => drained_move hx x.2) ?_
  intro c conn hc
  simp at hc

theorem tidyReleases_run [Scheduler] (ops : List Op) : (run {} ops).TidyReleases := by
  refine (run_induction (fun x _ hx => tidyReleases_move hx x.2) ?_).1
  intro p pool hp
  simp at hp

theorem quiet_while_closed [Scheduler] (ops : List Op) : QuietWhileClosed ops where
  closed := by
    intro w hw c hreturned
    obtain ⟨hdrained, hwired⟩ : w.Drained ∧ w.Wired := by
      rcases hw with rfl | ⟨m, hm⟩
      · exact ⟨(drained_run ops).1, (wired_run ops).1⟩
      · exact ⟨(drained_run ops).2 _ hm, (wired_run ops).2 _ hm⟩
    exact ⟨hdrained.openIds hreturned, hwired.leakPhase_ne_armed hreturned⟩
  releases := by
    intro p pool hp r hr
    obtain ⟨hopen, hleak⟩ := tidyReleases_run ops p pool hp r hr
    refine ⟨hopen, ?_⟩
    cases h : r.leak with
    | armed => exact absurd h hleak
    | unarmed => decide
    | fired => decide
    | cancelled => decide
  reported := by
    intro w m hm
    refine ⟨w.watch.handedOut (w.act m), ?_, ?_⟩
    · rw [watch_move, Leak.Watch.reports_act]
    · intro r hr
      obtain ⟨n, check, hn, hfires, rfl⟩ := Leak.Watch.exists_check_of_mem_handedOut hr
      exact ((wired_run ops).2 _ hm).open_of_fires hn hfires
  silent := fun _ _ _ _ _ _ _ hsplit hc harm _ _ hmem hreturned =>
    silent_while_returned hsplit hc harm hmem hreturned
  sorted := fun _ _ _ _ _ hc ho hp hheld hrecycles => sorted_close hc ho hp hheld hrecycles

end ConnLease.Session
