import ConnLease.Proofs.Leak.Bench
import ConnLease.Proofs.Session.Checkout
import ConnLease.Proofs.Session.Quiescence

/-!
# Exact leak reports

A check that was armed in a session is disturbed by closing or reviving its connection and by
shutting down its timer, and by nothing else. Unless that happens first, the first settling that
reaches its due time reports it, once and at that time; otherwise it is never reported. Detectors on
a bench obey the same law, and where sleeps end on time the due time is the time of the arming plus
the threshold, in whole milliseconds rounded up.

One kind of check may disregard that its timer has been shut down: one without any threshold, which
is due at once. Whether it does is left to the scheduler.
-/

namespace ConnLease

namespace Session

/-! ## A check of a session -/

/-- The watch that a move finds and what the move does to it. -/
def sight (x : Session × Move) : Leak.Watch × Leak.Act := (x.1.watch, x.1.act x.2)

theorem leads_trail [Scheduler] (w : Session) (ms : List Move) :
    Leak.Leads sight w.watch (w.trail ms) (w.moveAll ms).watch := by
  induction ms generalizing w with
  | nil => rfl
  | cons m ms ih =>
    have hrest := ih (w.move m)
    rw [watch_move] at hrest
    exact ⟨rfl, hrest⟩

theorem leads_history [Scheduler] (w : Session) (ops : List Op) :
    Leak.Leads sight w.watch (w.history ops) (w.run ops).watch := by
  rw [history_eq_trail, run_eq_moveAll]
  exact leads_trail w _

/-- A move closes or revives the connection of a check, or shuts down its timer, which it heeds. -/
def Disturbs (check : Leak.Check) (x : Session × Move) : Prop :=
  x.2 = .close check.connection ∨ x.2 = .revive check.connection ∨
    x.2 = .timer (.shutDown check.timer) ∧ check.heedless = false

/-- Only closing and reviving a connection give up a check. -/
theorem act_eq_giveUp {w : Session} {m : Move} {d : Leak.Detector} (h : w.act m = .giveUp d) :
    ∃ c conn, w.connections.get? c = some conn ∧ conn.detector = d ∧
      (m = .close c ∨ m = .revive c) := by
  cases m with
  | close c =>
    simp only [act] at h
    split at h
    · rename_i conn hc
      split at h
      · cases h
      · cases h
        exact ⟨c, conn, hc, rfl, .inl rfl⟩
    · cases h
  | revive c =>
    simp only [act] at h
    split at h
    · rename_i conn hc
      cases h
      exact ⟨c, conn, hc, rfl, .inr rfl⟩
    · cases h
  | arm c threshold timer =>
    simp only [act] at h
    split at h
    · split at h <;> cases h
    · cases h
  | _ => cases h

theorem act_eq_operate {w : Session} {m : Move} {op : Leak.TimerOp} (h : w.act m = .operate op) :
    m = .timer op := by
  cases m with
  | timer op' => cases h; rfl
  | close c | arm c threshold timer =>
    simp only [act] at h
    split at h
    · split at h <;> cases h
    · cases h
  | revive c =>
    simp only [act] at h
    split at h <;> cases h
  | _ => cases h

theorem disturbs_iff {x : Session × Move} (hw : x.1.Wired) {n : Nat} {check : Leak.Check}
    (h : x.1.watch.Waiting n check) :
    Disturbs check x ↔ (x.1.act x.2).Disturbs n check := by
  obtain ⟨w, m⟩ := x
  obtain ⟨conn, hc, hd, ho⟩ := hw.held n check h.found h.pending
  constructor
  · rintro (rfl | rfl | ⟨rfl, hheeds⟩)
    · left
      simp [act, hc, ho, Leak.Act.givesUp, hd]
    · left
      simp [act, hc, Leak.Act.givesUp, hd]
    · exact .inr ⟨rfl, hheeds⟩
  · rintro (hgives | ⟨hdown, hheeds⟩)
    · unfold Leak.Act.givesUp at hgives
      split at hgives
      · rename_i d hact
        obtain ⟨c, conn', hc', rfl, hm⟩ := act_eq_giveUp hact
        obtain ⟨check', hn', hown⟩ := hw.own c conn' n hc' (by simpa using hgives)
        obtain rfl : check = check' := Option.some.inj (h.found.symm.trans hn')
        unfold Disturbs
        rw [hown]
        rcases hm with hm | hm
        · exact .inl hm
        · exact .inr (.inl hm)
      · cases hgives
    · exact .inr (.inr ⟨act_eq_operate hdown, hheeds⟩)

theorem waiting_arm [Scheduler] {w armed : Session} {c timer : Nat} {threshold : Duration}
    (h : w.arm c threshold timer = .ok armed) :
    (w.move (.arm c threshold timer)).watch.Waiting w.watch.checks.next
      (w.watch.newCheck c threshold timer) := by
  obtain ⟨conn, watch, detector, hc, ho, hwatch, -⟩ := arm_eq_ok_iff.1 h
  obtain ⟨hp, hr, -⟩ := Leak.Watch.arm_eq_ok_iff.1 hwatch
  refine ⟨get?_checks_arm hc ⟨ho, hp, hr⟩, rfl, .inl ?_⟩
  rw [watch_move]
  refine Leak.Watch.isRunning_act hr ?_
  simp [act, hc, ho]

/-- What comes of a successful arming, whatever follows it in the run. -/
theorem reportLaw_arm [Scheduler] {ops : List Op} {before after : List (Session × Move)}
    {w armed : Session} {c timer : Nat} {threshold : Duration}
    (hsplit : history {} ops = before ++ (w, .arm c threshold timer) :: after)
    (h : w.arm c threshold timer = .ok armed) :
    Leak.ReportLaw sight (Disturbs (w.watch.newCheck c threshold timer)) w.watch.checks.next
      (w.watch.newCheck c threshold timer) after (run {} ops).watch := by
  obtain ⟨hafter, hrun⟩ := history_rest hsplit
  have hleads := leads_trail (w.move (.arm c threshold timer)) (after.map (·.2))
  rw [← hafter, ← hrun] at hleads
  refine Leak.reportLaw_of_waiting hleads (waiting_arm h) ?_
  intro x hx hwaiting
  have hmem : x ∈ history {} ops := by
    rw [hsplit]
    exact List.mem_append_right _ (List.mem_cons_of_mem _ hx)
  exact disturbs_iff ((wired_run ops).2 x hmem) hwaiting

/-! ## Which operations arm -/

/-- A call that arms a connection and succeeds makes a successful arming. -/
theorem arms_of_call [Scheduler] {w : Session} {c timer : Nat} {threshold : Duration}
    (h : (w.step (.connection c (.arm threshold timer))).2 = .ok .unit) :
    (w, .arm c threshold timer) ∈ w.trail (w.moves (.connection c (.arm threshold timer))) ∧
      ∃ armed, w.arm c threshold timer = .ok armed := by
  simp only [step, moves] at h ⊢
  cases hc : w.heldConnection? c with
  | none => rw [hc] at h; cases h
  | some conn =>
    rw [hc] at h
    simp only [performConnection, connectionMoves] at h ⊢
    split at h
    · cases h
    · rename_i htimer
      rw [if_neg htimer]
      cases harm : w.arm c threshold timer with
      | error e => rw [harm] at h; cases h
      | ok armed => exact ⟨List.mem_cons_self .., armed, rfl⟩

/-- A borrow from a pool that watches for leaks makes a successful arming when it lends. -/
theorem arms_of_borrow [Scheduler] {w : Session} {p timer : Nat} {threshold : Duration}
    {pool : Pool} {loan : Loan} (hp : w.pools.get? p = some pool)
    (hthreshold : pool.config.leakThreshold = some threshold) (htimer : pool.timer = some timer)
    (h : w.Lends p loan) :
    (w.takenOut p loan.connection, .arm loan.connection threshold timer) ∈
        w.trail (w.moves (.pool p .borrow)) ∧
      ∃ armed, (w.takenOut p loan.connection).arm loan.connection threshold timer = .ok armed := by
  obtain ⟨pool', hlent⟩ := h.lent
  obtain ⟨moves', hmoves, harms⟩ := borrowMoves_of_lent hp hlent.outcome
  obtain ⟨rfl, harmed⟩ := harms threshold timer hthreshold htimer
  have hop : w.moves (.pool p .borrow) = w.borrowMoves p := by
    simp only [moves, hlent.held]
    rfl
  refine ⟨?_, harmed⟩
  rw [hop, hmoves]
  exact mem_trail.2 ⟨[.takeIdle p, .revive loan.connection, .touch loan.connection],
    [.lend loan.connection], rfl, rfl⟩

end Session

/-! ## The law of both -/

/-- A check of the watch `w` that is due when its threshold has passed. -/
def dueCheck (w : Leak.Watch) (connection : Nat) (threshold : Duration) (timer : Nat)
    (heedless : Bool) : Leak.Check where
  connection := connection
  timer := timer
  threshold := threshold
  due := w.now + threshold.ceilMillis
  heedless := heedless

/-- Reports of checks with the threshold `threshold` are exact, on a bench and in a session, where
`heedless` tells which checks disregard that their timer has been shut down. -/
structure ExactReports [Scheduler] (heedless : Nat → Bool) (threshold : Duration) : Prop where
  /-- A detector `i` of a bench is armed with the check `n`, and `later` follows. -/
  bench : ∀ before i c timer later n check,
    ((Leak.Bench.run {} before).step (.arm i c threshold timer)).1.2 = .armed →
    n = (Leak.Bench.run {} before).watch.checks.next →
    check = dueCheck (Leak.Bench.run {} before).watch c threshold timer (heedless n) →
    Leak.ReportLaw Leak.Bench.sight (Leak.Bench.Disturbs i n check) n check
      (((Leak.Bench.run {} before).step (.arm i c threshold timer)).1.1.course later)
      (Leak.Bench.run {} (before ++ .arm i c threshold timer :: later)).watch
  /-- A connection is armed with the check `n` in a session, and `after` follows. -/
  session : ∀ ops before w c timer armed after n check,
    Session.history {} ops = before ++ (w, .arm c threshold timer) :: after →
    w.arm c threshold timer = .ok armed → n = w.watch.checks.next →
    check = dueCheck w.watch c threshold timer (heedless n) →
    Leak.ReportLaw Session.sight (Session.Disturbs check) n check after (Session.run {} ops).watch
  byCall : ∀ (w : Session) c timer,
    (w.step (.connection c (.arm threshold timer))).2 = .ok .unit →
    (w, .arm c threshold timer) ∈ w.trail (w.moves (.connection c (.arm threshold timer))) ∧
      ∃ armed, w.arm c threshold timer = .ok armed
  byBorrow : ∀ (w : Session) p pool timer loan, w.pools.get? p = some pool →
    pool.config.leakThreshold = some threshold → pool.timer = some timer → w.Lends p loan →
    (w.takenOut p loan.connection, .arm loan.connection threshold timer) ∈
        w.trail (w.moves (.pool p .borrow)) ∧
      ∃ armed, (w.takenOut p loan.connection).arm loan.connection threshold timer = .ok armed
  /-- All that reporters were ever handed are the reports of the checks, … -/
  benchTotal : ∀ ops, (Leak.Bench.run {} ops).watch.reports.Perm
    ((List.range (Leak.Bench.run {} ops).watch.checks.size).flatMap
      (Leak.reportsOf Leak.Bench.sight · (Leak.Bench.course {} ops)))
  sessionTotal : ∀ ops, (Session.run {} ops).watch.reports.Perm
    ((List.range (Session.run {} ops).watch.checks.size).flatMap
      (Leak.reportsOf Session.sight · (Session.history {} ops)))
  /-- … and settling answers or logs what it hands out. -/
  benchDelivery : ∀ (b : Leak.Bench) millis, ∃ reply events,
    (b.step (.timer (.settle millis))).1.2 = .timer reply ∧
      (b.step (.timer (.settle millis))).2 = events ∧ Leak.Delivers b.watch millis reply events
  sessionDelivery : ∀ (w : Session) millis, ∃ reply events,
    (w.step (.timer (.settle millis))).2 = .ok (.timer reply) ∧
      (w.step (.timer (.settle millis))).1.log = w.log ++ events ∧
      Leak.Delivers w.watch millis reply events
  delivery : ∀ r : Leak.Report,
    (r.reporter = .channel false → r.notice? = none ∧ r.events = [.reportDropped r.connection]) ∧
      (r.reporter = .collect ∨ r.reporter = .channel true →
        r.notice?.isSome = true ∧ r.events = [])

/-- The checks with a given threshold that disregard that their timer has been shut down. -/
def heedlessAt [Scheduler] (threshold : Duration) (n : Nat) : Bool :=
  decide (threshold = .zero) && Scheduler.prefersSleep n

theorem newCheck_eq [Scheduler] {threshold : Duration} (punctual : Punctual threshold)
    (w : Leak.Watch) (c timer : Nat) : w.newCheck c threshold timer =
      dueCheck w c threshold timer (heedlessAt threshold w.checks.next) := by
  have hsleep : Scheduler.sleep threshold = threshold.ceilMillis := punctual
  have hzero : (Scheduler.sleep threshold == 0) = decide (threshold = .zero) := by
    rw [hsleep, Bool.eq_iff_iff, beq_iff_eq, decide_eq_true_iff]
    exact Duration.ceilMillis_eq_zero_iff
  unfold Leak.Watch.newCheck dueCheck heedlessAt
  rw [hzero, hsleep]

/-- Where a sleep for the threshold ends on time, reports are exact; shutting a timer down is
disregarded at most by checks whose threshold is zero. -/
theorem exact_reports [Scheduler] {threshold : Duration} (punctual : Punctual threshold) :
    ExactReports (heedlessAt threshold) threshold where
  bench := by
    rintro before i c timer later n check harmed rfl rfl
    rw [← newCheck_eq punctual]
    exact Leak.Bench.reportLaw_arm harmed
  session := by
    rintro ops before w c timer armed after n check hsplit harmed rfl rfl
    rw [← newCheck_eq punctual]
    exact Session.reportLaw_arm hsplit harmed
  byCall := fun _ _ _ => Session.arms_of_call
  byBorrow := fun _ _ _ _ _ => Session.arms_of_borrow
  benchTotal := by
    intro ops
    have hperm := (Leak.Bench.leads_course {} ops).reports_perm
    rwa [List.nil_append] at hperm
  sessionTotal := by
    intro ops
    have hperm := (Session.leads_history {} ops).reports_perm
    rwa [List.nil_append] at hperm
  benchDelivery := fun b millis =>
    ⟨_, _, rfl, rfl, Leak.delivers_settle b.watch millis⟩
  sessionDelivery := fun w millis =>
    ⟨_, _, rfl, rfl, Leak.delivers_settle w.watch millis⟩
  delivery := Leak.delivery_of_report

section

/-- Every sleep ends on time, and a check goes by that even if its timer has been shut down. -/
abbrev Scheduler.hasty : Scheduler where
  sleep := Duration.ceilMillis
  prefersSleep _ := true

attribute [local instance] Scheduler.hasty

/-- Shutting a timer down does not stop all of its checks: one that was armed without any threshold
may still be reported. -/
theorem shut_down_timer_still_reports : Punctual .zero ∧ ¬ ExactReports (fun _ => false) .zero := by
  refine ⟨rfl, fun hexact => ?_⟩
  have hlaw := hexact.bench [.timer (.newTimer .collect), .newDetector] 0 1 0
    [.timer (.shutDown 0), .timer (.settle 0)] 0 _ rfl rfl rfl
  have hnever := hlaw.silent fun ⟨x, hx⟩ =>
    Leak.not_fallsDue_of_disturbs (.inr ⟨rfl, rfl⟩) (fun ⟨_, h, _⟩ => by cases h) hx
  exact absurd hnever.1 (by decide)

end

section

attribute [local instance] Scheduler.exact

theorem exact_reports_oneSecond :
    Punctual (.ofMillis 1000) ∧ ExactReports (heedlessAt (.ofMillis 1000)) (.ofMillis 1000) :=
  ⟨rfl, exact_reports rfl⟩

/-- A connection is borrowed and kept until its check is due, and a millisecond less. -/
example :
    let lent := Session.run {}
      [.timer (.newTimer .collect), .newPool (.configured "leakDetectionThreshold=1000" 0),
        .pool 0 (.addIdle none), .timer (.settle 5), .pool 0 .borrow]
    (lent.run [.timer (.settle 999)]).leakPhase 1 = .armed ∧
      (lent.run [.timer (.settle 999), .timer (.settle 1)]).leakPhase 1 = .fired := by
  decide

end

end ConnLease
