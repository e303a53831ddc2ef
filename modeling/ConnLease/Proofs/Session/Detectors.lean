import ConnLease.Proofs.Leak.Course
import ConnLease.Proofs.Session.Effects

/-!
# The detectors of a session

What the moves of a session do to its watch, and how checks and connections belong together: the
check that a connection's detector holds was scheduled for that connection, and a pending check is
held by the detector of its connection, which is open. So a closed connection has no pending check,
and no check fires for it.
-/

namespace ConnLease.Session

/-! ## What a move does to the watch -/

/-- A close gives up the check of an open connection, a revival that of any connection. -/
def act (w : Session) : Move → Leak.Act
  | .timer op => .operate op
  | .arm c threshold timer =>
    match w.connections.get? c with
    | some conn => if conn.closed then .still else .arm conn.detector c threshold timer
    | none => .still
  | .close c =>
    match w.connections.get? c with
    | some conn => if conn.closed then .still else .giveUp conn.detector
    | none => .still
  | .revive c =>
    match w.connections.get? c with
    | some conn => .giveUp conn.detector
    | none => .still
  | _ => .still

variable [Scheduler]

theorem watch_move_of_still {w : Session} {m : Move} (htimer : ∀ op, m ≠ .timer op)
    (harm : ∀ c threshold timer, m ≠ .arm c threshold timer) (hclose : ∀ c, m ≠ .close c)
    (hrevive : ∀ c, m ≠ .revive c) : (w.move m).watch = w.watch := by
  cases m with
  | timer op => exact absurd rfl (htimer op)
  | arm c threshold timer => exact absurd rfl (harm c threshold timer)
  | close c => exact absurd rfl (hclose c)
  | revive c => exact absurd rfl (hrevive c)
  | create p config journal held => exact (newConnection_fields w p config journal held).1
  | evict p => exact (evict_fields w p).1
  | markBroken c => exact (markBroken_fields w c).1
  | inspect c e => exact (inspect_fields w c e).1
  | register c s => exact (register_fields w c s).1
  | unregister c s => exact (unregister_fields w c s).1
  | untrack c s => exact (unregister_fields w c s).1
  | adopt c call driver => exact (adopt_fields w c call driver).1
  | closeAtDriver s => exact (closeAtDriver_fields w s).1
  | callOpen c call => simp only [move]; split <;> rfl
  | callPlain c call => simp only [move]; split <;> rfl
  | _ => rfl

theorem watch_arm (w : Session) (c : Nat) (threshold : Duration) (timer : Nat) :
    (w.move (.arm c threshold timer)).watch = w.watch.act (w.act (.arm c threshold timer)) := by
  simp only [move, act]
  cases ha : w.arm c threshold timer with
  | ok w' =>
    obtain ⟨conn, watch, detector, hc, ho, harmed, rfl⟩ := arm_eq_ok_iff.1 ha
    rw [hc]
    dsimp only
    rw [if_neg (by simp [ho])]
    simp only [Leak.Watch.act, harmed]
    rfl
  | error e =>
    cases hc : w.connections.get? c with
    | none => rfl
    | some conn =>
      dsimp only
      cases ho : conn.closed with
      | true => rfl
      | false =>
        rw [if_neg Bool.false_ne_true]
        simp only [Leak.Watch.act]
        cases harmed : w.watch.arm conn.detector c threshold timer with
        | error e => rfl
        | ok armed =>
          have hok := arm_eq_ok_iff.2 ⟨conn, armed.1, armed.2, hc, ho, harmed, rfl⟩
          rw [ha] at hok
          cases hok

theorem watch_move (w : Session) (m : Move) : (w.move m).watch = w.watch.act (w.act m) := by
  cases m with
  | timer op => rfl
  | arm c threshold timer => exact watch_arm w c threshold timer
  | close c =>
    simp only [move, act]
    rcases close_cases w c with ⟨hclosed, hsame⟩ | ⟨conn, hc, ho, hdown⟩
    · rw [hsame]
      cases hc : w.connections.get? c with
      | none => rfl
      | some conn =>
        rw [isClosed_eq hc] at hclosed
        dsimp only
        rw [if_pos hclosed]
        rfl
    · rw [hdown.watch, hc]
      dsimp only
      rw [if_neg (by simp [ho])]
      rfl
  | revive c =>
    simp only [move, act]
    cases hc : w.connections.get? c with
    | none => simp [revive, hc, Leak.Watch.act]
    | some conn => exact revive_watch hc
  | _ => exact watch_move_of_still (by simp) (by simp) (by simp) (by simp)

/-! ## The detector of a connection -/

/-- Whether arming a connection with the record `conn` on a timer succeeds. -/
def CanArm (w : Session) (conn : Connection) (timer : Nat) : Prop :=
  conn.closed = false ∧ w.watch.phase conn.detector = .unarmed ∧ w.watch.isRunning timer = true

theorem scheduled?_eq_some_iff {w : Session} {m : Move} {check : Leak.Check} :
    w.watch.scheduled? (w.act m) = some check ↔ ∃ c threshold timer conn,
      m = .arm c threshold timer ∧ w.connections.get? c = some conn ∧ w.CanArm conn timer ∧
        check = w.watch.newCheck c threshold timer := by
  constructor
  · intro h
    cases m with
    | arm c threshold timer =>
      simp only [act] at h
      cases hc : w.connections.get? c with
      | none => rw [hc] at h; cases h
      | some conn =>
        rw [hc] at h
        cases ho : conn.closed with
        | true => simp only [ho, if_true] at h; cases h
        | false =>
          simp only [ho, Bool.false_eq_true, if_false, Leak.Watch.scheduled?] at h
          split at h
          · rename_i hp
            exact ⟨c, threshold, timer, conn, rfl, hc, ⟨ho, hp.1, hp.2⟩, (Option.some.inj h).symm⟩
          · cases h
    | close c => simp only [act] at h; split at h <;> (try split at h) <;> cases h
    | revive c => simp only [act] at h; split at h <;> cases h
    | _ => cases h
  · rintro ⟨c, threshold, timer, conn, rfl, hc, ⟨ho, hp, hr⟩, rfl⟩
    simp [act, hc, ho, Leak.Watch.scheduled?, hp, hr]

theorem changed_arm_detector (w : Session) (c : Nat) (threshold : Duration) (timer : Nat)
    (conn : Connection) :
    (w.CanArm conn timer ∧
        (w.changed (.arm c threshold timer) conn).detector = ⟨some w.watch.checks.next⟩) ∨
      (¬ w.CanArm conn timer ∧
        (w.changed (.arm c threshold timer) conn).detector = conn.detector) := by
  simp only [changed]
  cases ha : w.watch.arm conn.detector c threshold timer with
  | ok armed =>
    obtain ⟨hp, hr, hd, -⟩ := Leak.Watch.arm_eq_ok_iff.1 ha
    cases ho : conn.closed with
    | true => exact .inr ⟨by simp [CanArm, ho], by simp⟩
    | false => exact .inl ⟨⟨ho, hp, hr⟩, by simpa using hd⟩
  | error e =>
    refine .inr ⟨?_, rfl⟩
    rintro ⟨-, hp, hr⟩
    have hok : w.watch.arm conn.detector c threshold timer = .ok (_, _) :=
      Leak.Watch.arm_eq_ok_iff.2 ⟨hp, hr, rfl, rfl⟩
    rw [ha] at hok
    cases hok

/-- Only a revival and a successful arming change the detector of a connection. -/
theorem changed_detector_of_kept {w : Session} {m : Move} {conn : Connection}
    (hrevive : ∀ c, m ≠ .revive c)
    (harm : ∀ c threshold timer, m = .arm c threshold timer → ¬ w.CanArm conn timer) :
    (w.changed m conn).detector = conn.detector := by
  cases m with
  | revive c => exact absurd rfl (hrevive c)
  | arm c threshold timer =>
    rcases changed_arm_detector w c threshold timer conn with ⟨hcan, -⟩ | ⟨-, hsame⟩
    · exact absurd hcan (harm c threshold timer rfl)
    · exact hsame
  | close c => simp only [changed]; split <;> rfl
  | register c s => simp only [changed]; split <;> rfl
  | unregister c s => simp only [changed]; split <;> rfl
  | untrack c s => simp only [changed]; split <;> rfl
  | adopt c call driver => simp only [changed]; split <;> rfl
  | _ => rfl

/-! ## Checks and connections -/

/-- The check that a detector holds was scheduled for its connection, and a pending check is held by
the detector of its connection, which is open. -/
structure Wired (w : Session) : Prop where
  own : ∀ c conn n, w.connections.get? c = some conn → conn.detector.check = some n →
    ∃ check, w.watch.checks.get? n = some check ∧ check.connection = c
  held : ∀ n check, w.watch.checks.get? n = some check → check.status = .pending →
    ∃ conn, w.connections.get? check.connection = some conn ∧ conn.detector.check = some n ∧
      conn.closed = false

/-- A check that is there stays, with the same connection. -/
theorem connection_check_move {w : Session} {n : Nat} {check : Leak.Check}
    (hn : w.watch.checks.get? n = some check) (m : Move) :
    ∃ check', (w.move m).watch.checks.get? n = some check' ∧
      check'.connection = check.connection := by
  rw [watch_move]
  exact ⟨_, Leak.Watch.get?_checks_act_of_some hn _, rfl⟩

omit [Scheduler] in
theorem created?_detector {w : Session} {m : Move} {conn : Connection}
    (h : w.created? m = some conn) : conn.detector = {} := by
  cases m with
  | create p config journal held => cases h; rfl
  | _ => cases h

theorem own_move {w : Session} (hw : w.Wired) {m : Move} {c n : Nat} {conn' : Connection}
    (hc' : (w.move m).connections.get? c = some conn') (hd' : conn'.detector.check = some n) :
    ∃ check, (w.move m).watch.checks.get? n = some check ∧ check.connection = c := by
  have hkept : ∀ conn, w.connections.get? c = some conn → conn'.detector = conn.detector →
      ∃ check, (w.move m).watch.checks.get? n = some check ∧ check.connection = c := by
    intro conn hc hsame
    rw [hsame] at hd'
    obtain ⟨check, hn, hcheck⟩ := hw.own c conn n hc hd'
    obtain ⟨check', hn', hcheck'⟩ := connection_check_move hn m
    exact ⟨check', hn', hcheck'.trans hcheck⟩
  rw [get?_connections_move] at hc'
  split at hc'
  · rename_i hm
    obtain ⟨conn, hc, rfl⟩ := Option.map_eq_some_iff.1 hc'
    by_cases hrevive : ∃ d, m = .revive d
    · obtain ⟨d, rfl⟩ := hrevive
      cases hd'
    · by_cases harm : ∃ d threshold timer, m = .arm d threshold timer ∧ w.CanArm conn timer
      · obtain ⟨d, threshold, timer, rfl, hcan⟩ := harm
        obtain rfl : d = c := Option.some.inj hm
        rcases changed_arm_detector w d threshold timer conn with ⟨-, hnew⟩ | ⟨hno, -⟩
        · rw [hnew] at hd'
          obtain rfl : w.watch.checks.next = n := Option.some.inj hd'
          rw [watch_move, Leak.Watch.get?_checks_act, if_pos rfl]
          exact ⟨_, scheduled?_eq_some_iff.2 ⟨d, threshold, timer, conn, rfl, hc, hcan, rfl⟩, rfl⟩
        · exact absurd hcan hno
      · refine hkept conn hc (changed_detector_of_kept (fun d h => hrevive ⟨d, h⟩) ?_)
        exact fun d threshold timer h hcan => harm ⟨d, threshold, timer, h, hcan⟩
  · split at hc'
    · rw [created?_detector hc'] at hd'
      cases hd'
    · exact hkept conn' hc' rfl

/-- An open connection with a pending check keeps both under a move that does not give up the
check. -/
theorem changed_keeps_check {w : Session} {m : Move} {c n : Nat} {conn : Connection}
    {check : Leak.Check} (hc : w.connections.get? c = some conn)
    (hd : conn.detector.check = some n) (ho : conn.closed = false)
    (hn : w.watch.checks.get? n = some check) (hs : check.status = .pending)
    (haddressed : m.connection? = some c) (hkept : (w.act m).givesUp n = false) :
    (w.changed m conn).detector = conn.detector ∧ (w.changed m conn).closed = false := by
  have hrevive : ∀ d, m ≠ .revive d := by
    rintro d rfl
    obtain rfl : d = c := Option.some.inj haddressed
    simp [act, hc, Leak.Act.givesUp, hd] at hkept
  have hclose : ∀ d, m ≠ .close d := by
    rintro d rfl
    obtain rfl : d = c := Option.some.inj haddressed
    simp [act, hc, ho, Leak.Act.givesUp, hd] at hkept
  constructor
  · refine changed_detector_of_kept hrevive ?_
    rintro d threshold timer - ⟨-, hp, -⟩
    rw [Leak.Watch.phase_eq hd hn, hs] at hp
    cases hp
  · rw [changed_closed]
    cases m with
    | revive d => exact absurd rfl (hrevive d)
    | close d => exact absurd rfl (hclose d)
    | _ => exact ho

theorem held_move {w : Session} (hw : w.Wired) {m : Move} {n : Nat} {check' : Leak.Check}
    (hn' : (w.move m).watch.checks.get? n = some check') (hs' : check'.status = .pending) :
    ∃ conn, (w.move m).connections.get? check'.connection = some conn ∧
      conn.detector.check = some n ∧ conn.closed = false := by
  rw [watch_move, Leak.Watch.get?_checks_act] at hn'
  split at hn'
  · rename_i hnew
    obtain ⟨c, threshold, timer, conn, rfl, hc, hcan, rfl⟩ := scheduled?_eq_some_iff.1 hn'
    have hget := get?_connections_move w (.arm c threshold timer) c
    rw [if_pos (by rfl), hc] at hget
    refine ⟨_, hget, ?_, ?_⟩
    · rcases changed_arm_detector w c threshold timer conn with ⟨-, hd⟩ | ⟨hno, -⟩
      · rw [hd, hnew]
      · exact absurd hcan hno
    · rw [changed_closed]
      exact hcan.1
  · obtain ⟨check, hn, rfl⟩ := Option.map_eq_some_iff.1 hn'
    obtain ⟨hkept, hs⟩ : (w.act m).givesUp n = false ∧ check.status = .pending := by
      simp only [Leak.Watch.statusAfter] at hs'
      split at hs'
      · cases hs'
      · split at hs'
        · cases hs'
        · rename_i hno
          refine ⟨?_, hs'⟩
          rw [← Bool.not_eq_true]
          exact fun hg => hno ⟨hg, hs'⟩
    obtain ⟨conn, hc, hd, ho⟩ := hw.held n check hn hs
    refine connection_move hc m ⟨hd, ho⟩ ?_
    intro haddressed
    obtain ⟨hsame, hopen⟩ := changed_keeps_check hc hd ho hn hs haddressed hkept
    exact ⟨by rw [hsame, hd], hopen⟩

theorem wired_move {w : Session} (hw : w.Wired) (m : Move) : (w.move m).Wired where
  own := fun _ _ _ => own_move hw
  held := fun _ _ => held_move hw

omit [Scheduler] in
theorem wired_start : Wired {} := by
  constructor <;> simp

/-- Checks and connections belong together at the end of a run and at each of its moves. -/
theorem wired_run (ops : List Op) :
    (run {} ops).Wired ∧ ∀ x ∈ history {} ops, x.1.Wired :=
  run_induction (fun x _ hx => wired_move hx x.2) wired_start

end ConnLease.Session
