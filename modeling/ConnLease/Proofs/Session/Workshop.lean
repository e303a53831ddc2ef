import Mathlib.Data.List.Induction
import ConnLease.Proofs.Leak.Bench
import ConnLease.Proofs.Leak.Conservation
import ConnLease.Proofs.Session.Detectors
import ConnLease.Proofs.Session.Places

/-!
# Detectors of every kind on one watch

A workshop is a session with any number of loose detectors beside it: all detectors, those of the
connections and the loose ones, are armed on the same timers. A run comes down to deeds, the moves
of the session and the steps of the bench of loose detectors, and every deed is one act on the
common watch. So the laws of a watch hold for all detectors together, and what a detector reads
depends only on the deeds that arm it and those that put a fresh detector in its place.
-/

namespace ConnLease

structure Workshop where
  session : Session := {}
  loose : Roster 0 Leak.Detector := .empty
deriving Repr, DecidableEq

variable [Scheduler]

namespace Workshop

inductive Op where
  | session (op : Session.Op)
  | bench (op : Leak.Bench.Op)
deriving Repr, DecidableEq

inductive Reply where
  | session (reply : Session.Reply)
  | bench (reply : Leak.Bench.Reply)
deriving Repr, DecidableEq

abbrev watch (v : Workshop) : Leak.Watch := v.session.watch

/-- The loose detectors, seen as a bench of their own. -/
def bench (v : Workshop) : Leak.Bench := ⟨v.watch, v.loose⟩

/-- A step of the bench. -/
def onBench (v : Workshop) (op : Leak.Bench.Op) : Workshop where
  session := { v.session with
    watch := (v.bench.step op).1.1.watch
    log := v.session.log ++ (v.bench.step op).2 }
  loose := (v.bench.step op).1.1.detectors

def step (v : Workshop) : Op → Workshop × Reply
  | .session op => ({ v with session := (v.session.step op).1 }, .session (v.session.step op).2)
  | .bench op => (v.onBench op, .bench (v.bench.step op).1.2)

def run (v : Workshop) (ops : List Op) : Workshop := ops.foldl (fun v op => (v.step op).1) v

/-! ## Deeds -/

inductive Deed where
  | move (m : Session.Move)
  | bench (op : Leak.Bench.Op)
deriving Repr, DecidableEq

def perform (v : Workshop) : Deed → Workshop
  | .move m => { v with session := v.session.move m }
  | .bench op => v.onBench op

def performAll (v : Workshop) (ds : List Deed) : Workshop := ds.foldl perform v

def deeds (v : Workshop) : Op → List Deed
  | .session op => (v.session.moves op).map .move
  | .bench op => [.bench op]

/-- The deeds of a list, each with the workshop that it finds. -/
def trail (v : Workshop) : List Deed → List (Workshop × Deed)
  | [] => []
  | d :: ds => (v, d) :: (v.perform d).trail ds

/-- All deeds of a run, each with the workshop that it finds. -/
def history (v : Workshop) : List Op → List (Workshop × Deed)
  | [] => []
  | op :: ops => v.trail (v.deeds op) ++ (v.step op).1.history ops

theorem performAll_moves (v : Workshop) (ms : List Session.Move) :
    v.performAll (ms.map .move) = { v with session := v.session.moveAll ms } := by
  induction ms generalizing v with
  | nil => rfl
  | cons m ms ih => exact ih _

theorem step_eq_deeds (v : Workshop) (op : Op) : (v.step op).1 = v.performAll (v.deeds op) := by
  cases op with
  | session op =>
    show _ = v.performAll ((v.session.moves op).map .move)
    rw [performAll_moves, ← Session.step_eq_moves]
    rfl
  | bench op => rfl

theorem performAll_append (v : Workshop) (ds more : List Deed) :
    v.performAll (ds ++ more) = (v.performAll ds).performAll more := by
  simp [performAll]

theorem trail_append (v : Workshop) (ds more : List Deed) :
    v.trail (ds ++ more) = v.trail ds ++ (v.performAll ds).trail more := by
  induction ds generalizing v with
  | nil => rfl
  | cons d ds ih =>
    show (v, d) :: (v.perform d).trail (ds ++ more) = _
    rw [ih]
    rfl

/-- A run is a list of deeds, performed one after the other. -/
theorem run_eq_deeds (v : Workshop) (ops : List Op) :
    ∃ ds, v.run ops = v.performAll ds ∧ v.history ops = v.trail ds := by
  induction ops generalizing v with
  | nil => exact ⟨[], rfl, rfl⟩
  | cons op ops ih =>
    obtain ⟨ds, hrun, hhistory⟩ := ih (v.step op).1
    refine ⟨v.deeds op ++ ds, ?_, ?_⟩
    · rw [performAll_append, ← step_eq_deeds, ← hrun]
      rfl
    · rw [trail_append, ← step_eq_deeds, ← hhistory]
      rfl

/-! ## The common watch -/

def act (v : Workshop) : Deed → Leak.Act
  | .move m => v.session.act m
  | .bench op => v.bench.act op

/-- The watch that a deed finds and what the deed does to it. -/
def sight (x : Workshop × Deed) : Leak.Watch × Leak.Act := (x.1.watch, x.1.act x.2)

theorem watch_perform (v : Workshop) (d : Deed) : (v.perform d).watch = v.watch.act (v.act d) := by
  cases d with
  | move m => exact Session.watch_move v.session m
  | bench op => exact Leak.Bench.watch_step v.bench op

theorem leads_trail (v : Workshop) (ds : List Deed) :
    Leak.Leads sight v.watch (v.trail ds) (v.performAll ds).watch := by
  induction ds generalizing v with
  | nil => rfl
  | cons d ds ih =>
    have hrest := ih (v.perform d)
    rw [watch_perform] at hrest
    exact ⟨rfl, hrest⟩

/-! ## Places of detectors -/

/-- Where a detector belongs. -/
inductive Place where
  | connection (c : Nat)
  | loose (i : Nat)
deriving Repr, DecidableEq

def detectorAt? (v : Workshop) : Place → Option Leak.Detector
  | .connection c => (v.session.connections.get? c).map (·.detector)
  | .loose i => v.loose.get? i

/-- The place whose detector a deed arms successfully. -/
def arms? (v : Workshop) : Deed → Option Place
  | .move (.arm c threshold timer) =>
    match v.session.arm c threshold timer with
    | .ok _ => some (.connection c)
    | .error _ => none
  | .bench (.arm i connection threshold timer) =>
    if (v.bench.step (.arm i connection threshold timer)).1.2 = .armed then some (.loose i)
    else none
  | _ => none

/-- The place, if it exists. -/
def existing? (v : Workshop) (p : Place) : Option Place := (v.detectorAt? p).map fun _ => p

/-- The place that gets a fresh detector by a deed: by being made, revived, reset or replaced. -/
def renews? (v : Workshop) : Deed → Option Place
  | .move (.create ..) => some (.connection v.session.connections.next)
  | .move (.revive c) => v.existing? (.connection c)
  | .bench .newDetector => some (.loose v.loose.next)
  | .bench (.reset i) | .bench (.replace i) => v.existing? (.loose i)
  | _ => none

/-! ## What a deed does to a detector -/

variable {v : Workshop} {p : Place}

theorem arms?_move_iff {m : Session.Move} : v.arms? (.move m) = some p ↔
    ∃ c threshold timer conn, m = .arm c threshold timer ∧ p = .connection c ∧
      v.session.connections.get? c = some conn ∧ v.session.CanArm conn timer := by
  constructor
  · intro h
    cases m with
    | arm c threshold timer =>
      simp only [arms?] at h
      cases ha : v.session.arm c threshold timer with
      | error e => rw [ha] at h; cases h
      | ok w =>
        rw [ha] at h
        obtain ⟨conn, watch, detector, hc, ho, harmed, -⟩ := Session.arm_eq_ok_iff.1 ha
        obtain ⟨hp, hr, -⟩ := Leak.Watch.arm_eq_ok_iff.1 harmed
        exact ⟨c, threshold, timer, conn, rfl, (Option.some.inj h).symm, hc, ho, hp, hr⟩
    | _ => cases h
  · rintro ⟨c, threshold, timer, conn, rfl, rfl, hc, ho, hp, hr⟩
    have ha : v.session.arm c threshold timer = .ok _ := Session.arm_eq_ok_iff.2
      ⟨conn, _, _, hc, ho, Leak.Watch.arm_eq_ok_iff.2 ⟨hp, hr, rfl, rfl⟩, rfl⟩
    simp only [arms?]
    rw [ha]

theorem arms?_bench_iff {op : Leak.Bench.Op} : v.arms? (.bench op) = some p ↔
    ∃ i connection threshold timer d, op = .arm i connection threshold timer ∧ p = .loose i ∧
      v.loose.get? i = some d ∧ v.watch.phase d = .unarmed ∧ v.watch.isRunning timer = true := by
  constructor
  · intro h
    cases op with
    | arm i connection threshold timer =>
      simp only [arms?] at h
      split at h
      · rename_i harmed
        obtain ⟨d, hd, hp, hr⟩ := Leak.Bench.armed_iff.1 harmed
        exact ⟨i, connection, threshold, timer, d, rfl, (Option.some.inj h).symm, hd, hp, hr⟩
      · cases h
    | _ => cases h
  · rintro ⟨i, connection, threshold, timer, d, rfl, rfl, hd, hp, hr⟩
    simp only [arms?]
    rw [if_pos (Leak.Bench.armed_iff.2 ⟨d, hd, hp, hr⟩)]

/-- A deed schedules a check when it arms a detector. -/
theorem isSome_scheduled? (v : Workshop) (d : Deed) :
    (v.watch.scheduled? (v.act d)).isSome = (v.arms? d).isSome := by
  rw [Bool.eq_iff_iff, Option.isSome_iff_exists, Option.isSome_iff_exists]
  cases d with
  | move m =>
    simp only [arms?_move_iff]
    constructor
    · rintro ⟨check, hcheck⟩
      obtain ⟨c, threshold, timer, conn, rfl, hc, hcan, -⟩ :=
        Session.scheduled?_eq_some_iff.1 hcheck
      exact ⟨_, c, threshold, timer, conn, rfl, rfl, hc, hcan⟩
    · rintro ⟨p, c, threshold, timer, conn, rfl, rfl, hc, hcan⟩
      exact ⟨_, Session.scheduled?_eq_some_iff.2 ⟨c, threshold, timer, conn, rfl, hc, hcan, rfl⟩⟩
  | bench op =>
    simp only [arms?_bench_iff]
    constructor
    · rintro ⟨check, hcheck⟩
      cases op with
      | arm i connection threshold timer =>
        simp only [act, Leak.Bench.act, bench] at hcheck
        cases hd : v.loose.get? i with
        | none => rw [hd] at hcheck; cases hcheck
        | some d =>
          rw [hd] at hcheck
          simp only [Leak.Watch.scheduled?] at hcheck
          split at hcheck
          · rename_i hcan
            exact ⟨_, i, connection, threshold, timer, d, rfl, rfl, hd, hcan.1, hcan.2⟩
          · cases hcheck
      | cancel i | reset i =>
        simp only [act, Leak.Bench.act] at hcheck
        split at hcheck <;> cases hcheck
      | _ => cases hcheck
    · rintro ⟨p, i, connection, threshold, timer, d, rfl, rfl, hd, hp, hr⟩
      simp [act, Leak.Bench.act, bench, hd, Leak.Watch.scheduled?, hp, hr]

omit [Scheduler] in
theorem existing?_eq_some_iff {p q : Place} : v.existing? p = some q ↔
    p = q ∧ (v.detectorAt? p).isSome = true := by
  unfold existing?
  cases v.detectorAt? p <;> simp

/-- A detector that a deed arms holds the check that the deed schedules. -/
theorem detectorAt?_of_arms {d : Deed} (h : v.arms? d = some p) :
    (v.perform d).detectorAt? p = some ⟨some v.watch.checks.next⟩ := by
  cases d with
  | move m =>
    obtain ⟨c, threshold, timer, conn, rfl, rfl, hc, hcan⟩ := arms?_move_iff.1 h
    show ((v.session.move _).connections.get? c).map (·.detector) = _
    rw [Session.get?_connections_move, if_pos (by rfl), hc]
    rcases Session.changed_arm_detector v.session c threshold timer conn with ⟨-, hd⟩ | ⟨hno, -⟩
    · exact congrArg some hd
    · exact absurd hcan hno
  | bench op =>
    obtain ⟨i, connection, threshold, timer, d, rfl, rfl, hd, hp, hr⟩ := arms?_bench_iff.1 h
    have harmed : v.watch.arm d connection threshold timer = .ok _ :=
      Leak.Watch.arm_eq_ok_iff.2 ⟨hp, hr, rfl, rfl⟩
    have htimer : (v.watch.timers.get? timer).isNone = false := by
      cases ht : v.watch.timers.get? timer with
      | none => rw [Leak.Bench.not_isRunning_of_none ht] at hr; cases hr
      | some t => rfl
    show (v.bench.step _).1.1.detectors.get? i = _
    simp only [Leak.Bench.step, Leak.Bench.arm, Leak.Bench.onDetector, bench, hd, htimer, harmed]
    simp [hd]

theorem detectorAt?_of_renews {d : Deed} (h : v.renews? d = some p) :
    (v.perform d).detectorAt? p = some {} := by
  cases d with
  | move m =>
    cases m with
    | create q config journal held =>
      obtain rfl := Option.some.inj h
      show ((v.session.move _).connections.get? v.session.connections.next).map (·.detector) = _
      rw [Session.get?_connections_move, if_neg (by exact fun e => by cases e), if_pos rfl]
      rfl
    | revive c =>
      obtain ⟨rfl, hsome⟩ := existing?_eq_some_iff.1 h
      obtain ⟨d, hd⟩ := Option.isSome_iff_exists.1 hsome
      obtain ⟨conn, hc, -⟩ := Option.map_eq_some_iff.1 hd
      show ((v.session.move _).connections.get? c).map (·.detector) = _
      rw [Session.get?_connections_move, if_pos (by rfl), hc]
      rfl
    | _ => cases h
  | bench op =>
    cases op with
    | newDetector =>
      obtain rfl := Option.some.inj h
      exact Roster.get?_push_next _ _
    | reset i | replace i =>
      obtain ⟨rfl, hsome⟩ := existing?_eq_some_iff.1 h
      obtain ⟨d, hd⟩ := Option.isSome_iff_exists.1 hsome
      have hd' : v.loose.get? i = some d := hd
      show (v.bench.step _).1.1.detectors.get? i = _
      simp [Leak.Bench.step, Leak.Bench.onDetector, bench, hd', Leak.Watch.reset]
    | _ => cases h

/-- Nothing else touches the detector of a connection. -/
theorem detector_connection_move {m : Session.Move} {c : Nat}
    (harms : v.arms? (.move m) ≠ some (.connection c))
    (hrenews : v.renews? (.move m) ≠ some (.connection c)) :
    ((v.session.move m).connections.get? c).map (·.detector) =
      (v.session.connections.get? c).map (·.detector) := by
  rw [Session.get?_connections_move]
  by_cases hm : m.connection? = some c
  · rw [if_pos hm]
    cases hc : v.session.connections.get? c with
    | none => rfl
    | some conn =>
      refine congrArg some (Session.changed_detector_of_kept ?_ ?_)
      · rintro d rfl
        obtain rfl : d = c := Option.some.inj hm
        exact hrenews (existing?_eq_some_iff.2 ⟨rfl, by simp [detectorAt?, hc]⟩)
      · rintro d threshold timer rfl hcan
        obtain rfl : d = c := Option.some.inj hm
        exact harms (arms?_move_iff.2 ⟨d, threshold, timer, conn, rfl, rfl, hc, hcan⟩)
  · rw [if_neg hm]
    split
    · rename_i hnext
      subst hnext
      rw [Roster.get?_next]
      cases m with
      | create q config journal held => exact absurd rfl hrenews
      | _ => rfl
    · rfl

/-- Nothing else touches a loose detector. -/
theorem detector_loose_step {op : Leak.Bench.Op} {i : Nat}
    (harms : v.arms? (.bench op) ≠ some (.loose i))
    (hrenews : v.renews? (.bench op) ≠ some (.loose i)) :
    (v.bench.step op).1.1.detectors.get? i = v.loose.get? i := by
  show _ = v.bench.detectors.get? i
  cases op with
  | timer op => rfl
  | newDetector =>
    have hne : i ≠ v.bench.detectors.next := fun e => hrenews (by rw [e]; rfl)
    simp only [Leak.Bench.step, Roster.get?_push]
    rw [if_neg hne]
  | cancel j | hasPlace j | isFinal j =>
    simp only [Leak.Bench.step, Leak.Bench.onDetector]
    cases v.bench.detectors.get? j <;> rfl
  | reset j | replace j =>
    simp only [Leak.Bench.step, Leak.Bench.onDetector]
    cases hj : v.bench.detectors.get? j with
    | none => rfl
    | some d =>
      have hsome : (v.detectorAt? (.loose j)).isSome = true := congrArg Option.isSome hj
      have hne : i ≠ j := by
        rintro rfl
        exact hrenews (existing?_eq_some_iff.2 ⟨rfl, hsome⟩)
      exact Roster.get?_modify_of_ne _ _ hne
  | arm j connection threshold timer =>
    simp only [Leak.Bench.step, Leak.Bench.arm, Leak.Bench.onDetector]
    cases hj : v.bench.detectors.get? j with
    | none => rfl
    | some d =>
      dsimp only
      split
      · rfl
      · cases harmed : v.bench.watch.arm d connection threshold timer with
        | error e => rfl
        | ok armed =>
          obtain ⟨hp, hr, -⟩ := Leak.Watch.arm_eq_ok_iff.1 harmed
          have hne : i ≠ j := by
            rintro rfl
            exact harms
              (arms?_bench_iff.2 ⟨i, connection, threshold, timer, d, rfl, rfl, hj, hp, hr⟩)
          exact Roster.get?_modify_of_ne _ _ hne

theorem detectorAt?_of_untouched {d : Deed} (harms : v.arms? d ≠ some p)
    (hrenews : v.renews? d ≠ some p) : (v.perform d).detectorAt? p = v.detectorAt? p := by
  cases d with
  | move m =>
    cases p with
    | connection c => exact detector_connection_move harms hrenews
    | loose i => rfl
  | bench op =>
    cases p with
    | connection c => rfl
    | loose i => exact detector_loose_step harms hrenews

/-! ## Detectors that hold no check -/

/-- Every check that a detector holds has been scheduled. -/
def Sound (v : Workshop) : Prop :=
  ∀ p n, v.detectorAt? p = some ⟨some n⟩ → (v.watch.checks.get? n).isSome = true

theorem scheduled_of_arms {d : Deed} (h : v.arms? d = some p) :
    (v.perform d).watch.status? v.watch.checks.next = some .pending := by
  have hsome : (v.watch.scheduled? (v.act d)).isSome = true := by
    rw [isSome_scheduled?, h]
    rfl
  obtain ⟨check, hcheck⟩ := Option.isSome_iff_exists.1 hsome
  rw [watch_perform, Leak.Watch.status?, Leak.Watch.get?_checks_act, if_pos rfl, hcheck,
    Option.map_some, Leak.Watch.scheduled?_status hcheck]

theorem sound_perform (hv : v.Sound) (d : Deed) : (v.perform d).Sound := by
  intro p n h
  by_cases harms : v.arms? d = some p
  · rw [detectorAt?_of_arms harms] at h
    obtain rfl : v.watch.checks.next = n := by simpa using h
    obtain ⟨check, hn, -⟩ := Option.map_eq_some_iff.1 (scheduled_of_arms harms)
    rw [hn]
    rfl
  · by_cases hrenews : v.renews? d = some p
    · rw [detectorAt?_of_renews hrenews] at h
      cases h
    · rw [detectorAt?_of_untouched harms hrenews] at h
      obtain ⟨check, hn⟩ := Option.isSome_iff_exists.1 (hv p n h)
      rw [watch_perform, Leak.Watch.get?_checks_act_of_some hn]
      rfl

theorem sound_performAll (hv : v.Sound) (ds : List Deed) : (v.performAll ds).Sound := by
  induction ds generalizing v with
  | nil => exact hv
  | cons d ds ih => exact ih (sound_perform hv d)

omit [Scheduler] in
theorem sound_start : Sound {} := by
  intro p n h
  cases p <;> simp [detectorAt?] at h

omit [Scheduler] in
theorem Sound.phase_eq_unarmed_iff (hv : v.Sound) {d : Leak.Detector}
    (hd : v.detectorAt? p = some d) : v.watch.phase d = .unarmed ↔ d.check = none := by
  obtain ⟨_ | n⟩ := d
  · simp
  · obtain ⟨check, hn⟩ := Option.isSome_iff_exists.1 (hv p n hd)
    rw [Leak.Watch.phase_eq rfl hn]
    cases check.status <;> simp [Leak.CheckStatus.phase]

/-- The detector of a place has not been armed since it was put there: after the last deed that
renewed it, none has armed it. -/
def UnarmedSince (history : List (Workshop × Deed)) (p : Place) : Prop :=
  ∃ before x after, history = before ++ x :: after ∧ x.1.renews? x.2 = some p ∧
    ∀ y ∈ after, y.1.arms? y.2 ≠ some p

theorem renews?_of_arms {d : Deed} (h : v.arms? d = some p) : v.renews? d = none := by
  cases d with
  | move m =>
    obtain ⟨c, threshold, timer, conn, rfl, -⟩ := arms?_move_iff.1 h
    rfl
  | bench op =>
    obtain ⟨i, connection, threshold, timer, d, rfl, -⟩ := arms?_bench_iff.1 h
    rfl

theorem unarmedSince_snoc {history : List (Workshop × Deed)} {x : Workshop × Deed} :
    UnarmedSince (history ++ [x]) p ↔
      x.1.renews? x.2 = some p ∨ UnarmedSince history p ∧ x.1.arms? x.2 ≠ some p := by
  constructor
  · rintro ⟨before, y, after, hsplit, hy, hafter⟩
    rcases List.eq_nil_or_concat after with rfl | ⟨rest, z, rfl⟩
    · obtain ⟨-, hlast⟩ := List.append_inj' hsplit rfl
      obtain rfl : x = y := List.singleton_inj.1 hlast
      exact .inl hy
    · rw [List.concat_eq_append, ← List.cons_append, ← List.append_assoc] at hsplit
      obtain ⟨hrest, hlast⟩ := List.append_inj' hsplit rfl
      obtain rfl : x = z := List.singleton_inj.1 hlast
      exact .inr ⟨⟨before, y, rest, hrest, hy, fun u hu => hafter u (by simp [hu])⟩,
        hafter x (by simp)⟩
  · rintro (hx | ⟨⟨before, y, after, rfl, hy, hafter⟩, hx⟩)
    · exact ⟨history, x, [], rfl, hx, by simp⟩
    · refine ⟨before, y, after ++ [x], by simp, hy, ?_⟩
      intro u hu
      rcases List.mem_append.1 hu with hu | hu
      · exact hafter u hu
      · obtain rfl := List.mem_singleton.1 hu
        exact hx

/-- A detector holds no check exactly when it has not been armed since it was put in its place. -/
theorem check_eq_none_iff {ds : List Deed} {d : Leak.Detector}
    (h : (performAll {} ds).detectorAt? p = some d) :
    d.check = none ↔ UnarmedSince (trail {} ds) p := by
  induction ds using List.reverseRecOn generalizing d with
  | nil => cases p <;> simp [performAll, detectorAt?] at h
  | append_singleton ds e ih =>
    rw [trail_append]
    show _ ↔ UnarmedSince (trail {} ds ++ [(performAll {} ds, e)]) p
    rw [unarmedSince_snoc]
    rw [performAll_append] at h
    have hstep : ((performAll {} ds).perform e).detectorAt? p = some d := h
    by_cases harms : (performAll {} ds).arms? e = some p
    · rw [detectorAt?_of_arms harms] at hstep
      cases hstep
      simp [harms, renews?_of_arms harms]
    · by_cases hrenews : (performAll {} ds).renews? e = some p
      · rw [detectorAt?_of_renews hrenews] at hstep
        cases hstep
        simp [hrenews]
      · rw [detectorAt?_of_untouched harms hrenews] at hstep
        simp [ih hstep, harms, hrenews]

end Workshop

/-! ## Refused armings -/

namespace Leak.Watch

/-- Why a detector cannot be armed on a timer that is there; what it reads comes before the
timer. -/
def refusal? (w : Watch) (d : Detector) (connection timer : Nat) : Option LeaseError :=
  if w.phase d ≠ .unarmed then some (.leakDetection connection (w.phase d))
  else if w.isShutDown timer then some .timerShutDown
  else none

omit [Scheduler] in
theorem refusal?_eq_none_iff {w : Watch} {d : Detector} {connection timer : Nat}
    (ht : (w.timers.get? timer).isSome = true) :
    w.refusal? d connection timer = none ↔ w.phase d = .unarmed ∧ w.isRunning timer = true := by
  obtain ⟨t, ht⟩ := Option.isSome_iff_exists.1 ht
  rw [isRunning_eq ht]
  unfold refusal? isShutDown
  rw [ht, Option.any_some]
  by_cases hp : w.phase d = .unarmed <;> cases hdown : t.shutDown <;> simp [hp]

theorem arm_of_refusal? {w : Watch} {d : Detector} {connection timer : Nat}
    (threshold : Duration) {e : LeaseError} (h : w.refusal? d connection timer = some e) :
    w.arm d connection threshold timer = .error e := by
  unfold refusal? at h
  unfold arm
  split at h
  · rename_i hp
    rw [if_pos hp]
    cases h
    rfl
  · rename_i hp
    rw [if_neg hp]
    split at h
    · rename_i hdown
      cases h
      unfold isShutDown at hdown
      cases ht : w.timers.get? timer with
      | none => rfl
      | some t =>
        rw [ht, Option.any_some] at hdown
        obtain ⟨reporter, shutDown⟩ := t
        obtain rfl : shutDown = true := hdown
        rfl
    · cases h

end Leak.Watch

namespace Workshop

variable {v : Workshop}

/-- Why a connection cannot be armed on a timer that is there; the closed flag comes first. -/
def refusal? (v : Workshop) (c : Nat) (conn : Connection) (timer : Nat) : Option LeaseError :=
  if conn.closed then some (.connectionClosed c) else v.watch.refusal? conn.detector c timer

variable {c i connection timer : Nat} {conn : Connection} {d : Leak.Detector}
  {threshold : Duration} {e : LeaseError}

theorem step_arm_of_refusal? (hc : v.session.heldConnection? c = some conn)
    (ht : (v.watch.timers.get? timer).isSome = true) (h : v.refusal? c conn timer = some e) :
    v.step (.session (.connection c (.arm threshold timer))) =
      (v, .session (.outcome (.err e))) := by
  have hget : v.session.connections.get? c = some conn := Option.eq_some_of_filter_eq_some hc
  have hpresent : (v.session.watch.timers.get? timer).isNone = false := by simpa using ht
  have hrefused : v.session.arm c threshold timer = .error e := by
    unfold Session.arm
    unfold refusal? at h
    rw [hget]
    dsimp only
    split at h
    · rename_i hclosed
      rw [if_pos hclosed]
      cases h
      rfl
    · rename_i hopen
      rw [if_neg hopen, Leak.Watch.arm_of_refusal? threshold h]
      rfl
  simp [step, Session.step, hc, Session.performConnection, hpresent, hrefused]

theorem step_arm_of_none (hc : v.session.heldConnection? c = some conn)
    (ht : (v.watch.timers.get? timer).isSome = true) (h : v.refusal? c conn timer = none) :
    (v.step (.session (.connection c (.arm threshold timer)))).2 = .session (.ok .unit) ∧
      v.arms? (.move (.arm c threshold timer)) = some (.connection c) := by
  have hget : v.session.connections.get? c = some conn := Option.eq_some_of_filter_eq_some hc
  have hpresent : (v.session.watch.timers.get? timer).isNone = false := by simpa using ht
  have hcan : v.session.CanArm conn timer := by
    unfold refusal? at h
    split at h
    · cases h
    · rename_i hopen
      exact ⟨by simpa using hopen, (Leak.Watch.refusal?_eq_none_iff ht).1 h⟩
  have harms : v.arms? (.move (.arm c threshold timer)) = some (.connection c) :=
    arms?_move_iff.2 ⟨c, threshold, timer, conn, rfl, rfl, hget, hcan⟩
  refine ⟨?_, harms⟩
  simp only [arms?] at harms
  cases ha : v.session.arm c threshold timer with
  | error e => rw [ha] at harms; cases harms
  | ok w => simp [step, Session.step, hc, Session.performConnection, hpresent, ha]

theorem loose_arm_of_refusal? (hd : v.loose.get? i = some d)
    (ht : (v.watch.timers.get? timer).isSome = true)
    (h : v.watch.refusal? d connection timer = some e) :
    v.step (.bench (.arm i connection threshold timer)) = (v, .bench (.refused e)) := by
  have hpresent : (v.watch.timers.get? timer).isNone = false := by simpa using ht
  have hstep : v.bench.step (.arm i connection threshold timer) =
      ((v.bench, .refused e), []) := by
    have hrefused := Leak.Watch.arm_of_refusal? threshold h
    simp [Leak.Bench.step, Leak.Bench.arm, Leak.Bench.onDetector, bench, hd, hpresent, hrefused]
  show (v.onBench _, Reply.bench _) = _
  unfold onBench
  rw [hstep, List.append_nil]
  rfl

theorem loose_arm_of_none (hd : v.loose.get? i = some d)
    (ht : (v.watch.timers.get? timer).isSome = true)
    (h : v.watch.refusal? d connection timer = none) :
    (v.step (.bench (.arm i connection threshold timer))).2 = .bench .armed ∧
      v.arms? (.bench (.arm i connection threshold timer)) = some (.loose i) := by
  obtain ⟨hp, hr⟩ := (Leak.Watch.refusal?_eq_none_iff ht).1 h
  have harmed : (v.bench.step (.arm i connection threshold timer)).1.2 = .armed :=
    Leak.Bench.armed_iff.2 ⟨d, hd, hp, hr⟩
  exact ⟨congrArg Reply.bench harmed, if_pos harmed⟩

/-- A refused arming changes nothing, whoever asked for it. -/
theorem perform_of_refused {a : Deed}
    (ha : (∃ c threshold timer, a = .move (.arm c threshold timer)) ∨
      ∃ i connection threshold timer, a = .bench (.arm i connection threshold timer))
    (h : v.arms? a = none) : v.perform a = v := by
  rcases ha with ⟨c, threshold, timer, rfl⟩ | ⟨i, connection, threshold, timer, rfl⟩
  · simp only [arms?] at h
    cases hs : v.session.arm c threshold timer with
    | ok w => rw [hs] at h; cases h
    | error e => simp [perform, Session.move, hs]
  · have hnot : (v.bench.step (.arm i connection threshold timer)).1.2 ≠ .armed := by
      intro harmed
      rw [arms?, if_pos harmed] at h
      cases h
    have hsame : v.bench.arm i connection threshold timer =
        (v.bench, (v.bench.arm i connection threshold timer).2) :=
      Prod.ext (Leak.Bench.arm_of_not_armed hnot) rfl
    show v.onBench _ = v
    unfold onBench
    rw [Leak.Bench.step, hsame, List.append_nil]
    rfl

/-! ## The laws of all detectors -/

/-- A deed moves the check with the number `n` from pending to cancelled. -/
def Cancels (x : Workshop × Deed) (n : Nat) : Prop :=
  x.1.watch.status? n = some .pending ∧ (x.1.perform x.2).watch.status? n = some .cancelled

instance (x : Workshop × Deed) (n : Nat) : Decidable (Cancels x n) :=
  inferInstanceAs (Decidable (_ ∧ _))

theorem cancels_iff {x : Workshop × Deed} {n : Nat} :
    Cancels x n ↔ (sight x).1.cancels? (sight x).2 = some n := by
  unfold Cancels
  rw [watch_perform]
  exact Leak.Watch.cancels?_eq_some_iff.symm

theorem leads_history (ops : List Op) :
    Leak.Leads sight {} (history {} ops) (run {} ops).watch := by
  obtain ⟨ds, hrun, hhistory⟩ := run_eq_deeds {} ops
  rw [hrun, hhistory]
  exact leads_trail {} ds

theorem sound_run (ops : List Op) : (run {} ops).Sound := by
  obtain ⟨ds, hrun, -⟩ := run_eq_deeds {} ops
  rw [hrun]
  exact sound_performAll sound_start ds

/-- Every successful arming has left one check. -/
theorem countP_arms (ops : List Op) : ((history {} ops).countP fun x => (x.1.arms? x.2).isSome) =
    (run {} ops).watch.checks.size := by
  have harms : (fun x : Workshop × Deed => ((sight x).1.scheduled? (sight x).2).isSome) =
      fun x => (x.1.arms? x.2).isSome := funext fun x => isSome_scheduled? x.1 x.2
  have hsize := (leads_history ops).size_eq
  rw [harms] at hsize
  rw [hsize]
  exact (Nat.zero_add _).symm

theorem countP_cancels (ops : List Op) (n : Nat) :
    ((history {} ops).countP fun x => Cancels x n) =
      if (run {} ops).watch.status? n = some .cancelled then 1 else 0 := by
  have honce := (leads_history ops).cancelled_once n
  simp only [cancels_iff]
  rw [honce]
  simp [Leak.Watch.status?]

theorem reports_perm (ops : List Op) : ((run {} ops).watch.fired.map Leak.Check.mark).Perm
    ((run {} ops).watch.reports.map Leak.Report.mark) :=
  (leads_history ops).fired_perm (.refl _)

/-- What a loose detector answers when it is asked to cancel its check. -/
theorem cancel_answers (hd : v.loose.get? i = some d) :
    ∃ b, (v.step (.bench (.cancel i))).2 = .bench (.flag b) ∧
      (b = true ↔ ∃ n, Cancels (v, .bench (.cancel i)) n) ∧
      (b = true ↔ v.watch.phase d = .armed) := by
  have hflag : (v.step (.bench (.cancel i))).2 = .bench (.flag (v.watch.cancel d).2) := by
    simp [step, Leak.Bench.step, Leak.Bench.onDetector, bench, hd]
  have hwatch : (v.perform (.bench (.cancel i))).watch = (v.watch.cancel d).1 := by
    rw [watch_perform]
    simp [act, Leak.Bench.act, bench, hd, Leak.Watch.act]
  refine ⟨_, hflag, ?_, Leak.Watch.cancel_snd_eq_true_iff⟩
  unfold Cancels
  rw [hwatch]
  exact Leak.Watch.cancel_snd_iff

/-- A detector reads unarmed, and has no place of the borrow, exactly when it has not been armed
since it was put in its place. -/
theorem unarmed_iff {ops : List Op} {p : Place} (hd : (run {} ops).detectorAt? p = some d) :
    ((run {} ops).watch.phase d = .unarmed ↔ UnarmedSince (history {} ops) p) ∧
      (Leak.Watch.hasPlace d = false ↔ UnarmedSince (history {} ops) p) := by
  have hplace : Leak.Watch.hasPlace d = false ↔ d.check = none := by
    unfold Leak.Watch.hasPlace
    cases d.check <;> simp
  obtain ⟨ds, hrun, hhistory⟩ := run_eq_deeds {} ops
  rw [(sound_run ops).phase_eq_unarmed_iff hd, hplace, hhistory]
  rw [hrun] at hd
  exact ⟨check_eq_none_iff hd, check_eq_none_iff hd⟩

/-- What holds of the checks and the detectors of a run, those of connections and loose ones alike,
on all timers. -/
structure DetectorLaw (ops : List Op) : Prop where
  /-- A successful arming schedules a check of its own, which its detector holds. -/
  armed : ∀ x ∈ history {} ops, ∀ p, x.1.arms? x.2 = some p →
    x.1.watch.status? x.1.watch.checks.next = none ∧
      (x.1.perform x.2).watch.status? x.1.watch.checks.next = some .pending ∧
      (x.1.perform x.2).detectorAt? p = some ⟨some x.1.watch.checks.next⟩
  /-- From then on the check only ever moves from pending to fired or to cancelled. -/
  moves : ∀ x ∈ history {} ops, ∀ n s, x.1.watch.status? n = some s →
    ∃ s', (x.1.perform x.2).watch.status? n = some s' ∧
      (s' = s ∨ s = .pending ∧ (s' = .fired ∨ s' = .cancelled))
  conserved : ((history {} ops).countP fun x => (x.1.arms? x.2).isSome) =
    (run {} ops).watch.tally .fired + (run {} ops).watch.tally .cancelled +
      (run {} ops).watch.tally .pending
  reported : ((run {} ops).watch.fired.map Leak.Check.mark).Perm
    ((run {} ops).watch.reports.map Leak.Report.mark)
  fires : (run {} ops).watch.tally .fired = (run {} ops).watch.reports.length
  /-- Cancelling answers yes exactly when it moves a pending check to cancelled, and it does so
  whenever the detector is armed, whatever has become of the timer. -/
  answers : ∀ x ∈ history {} ops, ∀ i d, x.2 = .bench (.cancel i) → x.1.loose.get? i = some d →
    ∃ b, (x.1.step (.bench (.cancel i))).2 = .bench (.flag b) ∧
      (b = true ↔ ∃ n, Cancels x n) ∧ (b = true ↔ x.1.watch.phase d = .armed)
  once : ∀ n, ((history {} ops).countP fun x => Cancels x n) =
    if (run {} ops).watch.status? n = some .cancelled then 1 else 0
  unarmed : ∀ p d, (run {} ops).detectorAt? p = some d →
    ((run {} ops).watch.phase d = .unarmed ↔ UnarmedSince (history {} ops) p) ∧
      (Leak.Watch.hasPlace d = false ↔ UnarmedSince (history {} ops) p)
  refusedConnection : ∀ c conn timer threshold e,
    (run {} ops).session.heldConnection? c = some conn →
    ((run {} ops).watch.timers.get? timer).isSome = true →
    (run {} ops).refusal? c conn timer = some e →
    (run {} ops).step (.session (.connection c (.arm threshold timer))) =
      (run {} ops, .session (.outcome (.err e)))
  armedConnection : ∀ c conn timer threshold,
    (run {} ops).session.heldConnection? c = some conn →
    ((run {} ops).watch.timers.get? timer).isSome = true →
    (run {} ops).refusal? c conn timer = none →
    ((run {} ops).step (.session (.connection c (.arm threshold timer)))).2 =
        .session (.ok .unit) ∧
      (run {} ops).arms? (.move (.arm c threshold timer)) = some (.connection c)
  refusedLoose : ∀ i d connection timer threshold e, (run {} ops).loose.get? i = some d →
    ((run {} ops).watch.timers.get? timer).isSome = true →
    (run {} ops).watch.refusal? d connection timer = some e →
    (run {} ops).step (.bench (.arm i connection threshold timer)) =
      (run {} ops, .bench (.refused e))
  armedLoose : ∀ i d connection timer threshold, (run {} ops).loose.get? i = some d →
    ((run {} ops).watch.timers.get? timer).isSome = true →
    (run {} ops).watch.refusal? d connection timer = none →
    ((run {} ops).step (.bench (.arm i connection threshold timer))).2 = .bench .armed ∧
      (run {} ops).arms? (.bench (.arm i connection threshold timer)) = some (.loose i)
  /-- A refused arming changes nothing, also one within a borrow. -/
  refused : ∀ x ∈ history {} ops,
    (∃ c threshold timer, x.2 = .move (.arm c threshold timer)) ∨
      (∃ i connection threshold timer, x.2 = .bench (.arm i connection threshold timer)) →
    x.1.arms? x.2 = none → x.1.perform x.2 = x.1

theorem detector_law (ops : List Op) : DetectorLaw ops where
  armed := by
    intro x _ p hp
    refine ⟨?_, scheduled_of_arms hp, detectorAt?_of_arms hp⟩
    rw [Leak.Watch.status?, Roster.get?_next]
    rfl
  moves := by
    intro x _ n s hs
    rw [watch_perform]
    exact Leak.Watch.status?_act hs _
  conserved := by
    have hpartition := Leak.Watch.tally_partition (run {} ops).watch
    rw [countP_arms]
    omega
  reported := reports_perm ops
  fires := by
    have hlength := (reports_perm ops).length_eq
    rwa [List.length_map, List.length_map, Leak.Watch.length_fired] at hlength
  answers := by
    rintro ⟨v, a⟩ _ i d rfl hd
    exact cancel_answers hd
  once := countP_cancels ops
  unarmed := fun _ _ => unarmed_iff
  refusedConnection := fun _ _ _ _ _ => step_arm_of_refusal?
  armedConnection := fun _ _ _ _ => step_arm_of_none
  refusedLoose := fun _ _ _ _ _ _ => loose_arm_of_refusal?
  armedLoose := fun _ _ _ _ _ => loose_arm_of_none
  refused := fun _ _ => perform_of_refused

end Workshop

end ConnLease
